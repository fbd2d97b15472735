import SyscallCensus.Proofs.Recognition

/-!
# Symbols on a line

About `FunctionStart` and `CallTarget` in `SPEC_FULL.md`, Sections 4.1 and 10.2.

A symbol ends where its mark `(SB)` begins, and the mark is made of characters that a symbol may
have itself. So a text does not show at once where its symbol ends: receivers have parentheses, a
symbol may begin with the mark, and it may end with a part of it. What settles the matter is that
the mark does not overlap itself (`exists_eq_staticBase_append`). The shortest run in front of a
mark is then the same as a run that has no mark behind its first character, and the latter does not
speak of the reader (`IsSymbol`).

* `symbol?_eq_some_iff` — the symbol at the beginning of a text.
* `operand_eq_some_iff` — the same behind white space, as both kinds of lines have it that name a
  function.
* `functionStart_iff_declares` — the lines on which a function begins, and its name.
* `reads_directCall?` — a call instruction and the name of what it calls.
-/

namespace SyscallCensus.Listing

open Text

variable {text name : List Char}

/-! ### The end of a symbol -/

/-- A symbol: a run of symbol characters, of at least one, in which the mark stands at the beginning
or nowhere. -/
structure IsSymbol (name : List Char) : Prop where
  /-- There is a character. -/
  ne_nil : name ≠ []
  /-- They all are characters of symbols. -/
  chars : ∀ c ∈ name, isSymbolChar c = true
  /-- Nothing stands in front of a mark. -/
  unmarked : ∀ before rest, name = before ++ (staticBase ++ rest) → before = []

theorem isSymbol_singleton {c : Char} (hc : isSymbolChar c = true) : IsSymbol [c] := by
  refine ⟨List.cons_ne_nil _ _, by simpa using hc, ?_⟩
  intro before rest h
  have hlength := congrArg List.length h
  simp only [List.length_cons, List.length_append, List.length_nil, staticBase] at hlength
  omega

/-- The mark does not overlap itself: a mark at the beginning of a text ends before the next one
begins. -/
theorem exists_eq_staticBase_append {rest rest' : List Char} (hne : name ≠ [])
    (h : name ++ (staticBase ++ rest) = staticBase ++ rest') :
    ∃ more, name = staticBase ++ more := by
  rcases List.append_eq_append_iff.1 h with ⟨overlap, hmark, hrest⟩ | ⟨more, rfl, -⟩
  · cases overlap with
    | nil => exact ⟨[], by rw [List.append_nil, hmark, List.append_nil]⟩
    | cons d overlap =>
      -- The second mark begins within the first, but a mark has its first character only once.
      obtain ⟨c, name, rfl⟩ := List.exists_cons_of_ne_nil hne
      obtain ⟨rfl, -⟩ : '(' = d ∧ _ := List.cons.inj hrest
      obtain ⟨-, hmark⟩ : '(' = c ∧ ['S', 'B', ')'] = name ++ '(' :: overlap := List.cons.inj hmark
      have hmem : '(' ∈ ['S', 'B', ')'] := hmark ▸ List.mem_append_right name List.mem_cons_self
      exact absurd hmem (by decide)
  · exact ⟨more, rfl⟩

/-- A run of several characters is a symbol if what follows its first character is one that does not
begin with the mark. The reader makes this test on the text, where the run is followed by a mark of
its own. -/
theorem isSymbol_cons_iff {c : Char} {rest : List Char} (hne : name ≠ []) :
    IsSymbol (c :: name) ↔
      isSymbolChar c = true ∧ IsSymbol name ∧
        (strip staticBase (name ++ (staticBase ++ rest))).isSome = false := by
  rw [Bool.eq_false_iff, ne_eq, isSome_strip_iff]
  constructor
  · rintro ⟨-, hchars, hunmarked⟩
    rw [List.forall_mem_cons] at hchars
    have hfront (before more : List Char) (h : name = before ++ (staticBase ++ more)) : False :=
      List.cons_ne_nil c before (hunmarked (c :: before) more (by rw [h]; rfl))
    refine ⟨hchars.1, ⟨hne, hchars.2, fun before more h => (hfront before more h).elim⟩, ?_⟩
    rintro ⟨rest', h⟩
    obtain ⟨more, hmore⟩ := exists_eq_staticBase_append hne h
    exact hfront [] more hmore
  · rintro ⟨hc, ⟨-, hchars, hunmarked⟩, hfront⟩
    refine ⟨List.cons_ne_nil _ _, List.forall_mem_cons.2 ⟨hc, hchars⟩, ?_⟩
    intro before more h
    cases before with
    | nil => rfl
    | cons d before =>
      obtain ⟨-, rfl⟩ : c = d ∧ name = before ++ (staticBase ++ more) := List.cons.inj h
      rw [hunmarked before more rfl] at hfront
      exact absurd ⟨more ++ (staticBase ++ rest), by simp⟩ hfront

/-- **The symbol at the beginning of a text**: there is one if some symbol is followed by the mark,
and it is that. -/
theorem symbol?_eq_some_iff :
    symbol? text = some name ↔ ∃ rest, IsSymbol name ∧ text = name ++ (staticBase ++ rest) := by
  constructor
  · intro h
    fun_induction symbol? text generalizing name with
    | case1 => cases h
    | case2 c text hc hmark =>
      obtain ⟨rest, rfl⟩ := isSome_strip_iff.1 hmark
      obtain rfl : [c] = name := Option.some.inj h
      exact ⟨rest, isSymbol_singleton hc, rfl⟩
    | case3 c text hc hmark ih =>
      obtain ⟨name, hname, rfl⟩ := Option.map_eq_some_iff.1 h
      obtain ⟨rest, hsymbol, rfl⟩ := ih hname
      exact ⟨rest, (isSymbol_cons_iff hsymbol.ne_nil).2 ⟨hc, hsymbol, Bool.not_eq_true _ ▸ hmark⟩,
        rfl⟩
    | case4 => cases h
  · rintro ⟨rest, hsymbol, rfl⟩
    induction name with
    | nil => exact absurd rfl hsymbol.ne_nil
    | cons c name ih =>
      rw [List.cons_append, symbol?, if_pos (hsymbol.chars c List.mem_cons_self)]
      by_cases hname : name = []
      · -- The mark follows at once.
        subst hname
        rw [List.nil_append, if_pos (isSome_strip_iff.2 ⟨rest, rfl⟩)]
      · obtain ⟨-, htail, hmark⟩ := (isSymbol_cons_iff hname).1 hsymbol
        rw [if_neg (Bool.not_eq_true _ ▸ hmark), ih htail, Option.map_some]

/-- A symbol is what is read back when its mark is put behind it. -/
theorem isSymbol_iff_symbol? : IsSymbol name ↔ symbol? (name ++ staticBase) = some name := by
  rw [symbol?_eq_some_iff]
  constructor
  · exact fun h => ⟨[], h, rfl⟩
  · rintro ⟨-, h, -⟩
    exact h

instance : DecidablePred IsSymbol := fun _ => decidable_of_iff _ isSymbol_iff_symbol?.symm

/-! ### Symbols behind white space -/

theorem toNat_of_isSymbolChar {c : Char} (h : isSymbolChar c = true) :
    0x20 < c.toNat ∧ c.toNat < 0x80 := by
  rw [isSymbolChar, Bool.or_eq_true, List.contains_iff_mem] at h
  rcases h with h | h
  · have hrange : (65 ≤ c.toNat ∧ c.toNat ≤ 90 ∨ 97 ≤ c.toNat ∧ c.toNat ≤ 122) ∨
        48 ≤ c.toNat ∧ c.toNat ≤ 57 := by
      rcases Bool.or_eq_true_iff.1 h with halpha | hdigit
      · rcases Bool.or_eq_true_iff.1 halpha with hupper | hlower
        · exact .inl (.inl (of_decide_eq_true hupper))
        · obtain ⟨hfirst, hlast⟩ := Bool.and_eq_true_iff.1 hlower
          exact .inl (.inr ⟨of_decide_eq_true hfirst, of_decide_eq_true hlast⟩)
      · obtain ⟨hfirst, hlast⟩ := Bool.and_eq_true_iff.1 hdigit
        exact .inr ⟨of_decide_eq_true hfirst, of_decide_eq_true hlast⟩
    omega
  · simp only [List.mem_cons, List.not_mem_nil, or_false] at h
    rcases h with rfl | rfl | rfl | rfl | rfl | rfl | rfl | rfl | rfl | rfl <;> decide

theorem isBlank_of_isSymbolChar {c : Char} (h : isSymbolChar c = true) : isBlank c = false := by
  have hrange := toNat_of_isSymbolChar h
  simp only [isBlank, Bool.or_eq_false_iff, Bool.and_eq_false_iff, decide_eq_false_iff_not,
    beq_eq_false_iff_ne]
  omega

theorem IsSymbol.head?_isBlank (h : IsSymbol name) (rest : List Char) :
    (name ++ rest).head?.any isBlank = false := by
  obtain ⟨c, name, rfl⟩ := List.exists_cons_of_ne_nil h.ne_nil
  exact isBlank_of_isSymbolChar (h.chars c List.mem_cons_self)

/-- **A symbol behind white space**, as it stands behind the directive and behind the call
instruction. No part of the white space can belong to the symbol, so that all of it is skipped. -/
theorem operand_eq_some_iff {name : String} :
    ((skipBlanks text).bind fun operand => (symbol? operand).map String.ofList) = some name ↔
      ∃ gap rest, text = gap ++ (name.toList ++ (staticBase ++ rest)) ∧ IsGap gap ∧
        IsSymbol name.toList := by
  constructor
  · intro h
    obtain ⟨operand, hoperand, h⟩ := Option.bind_eq_some_iff.1 h
    obtain ⟨symbol, hsymbol, rfl⟩ := Option.map_eq_some_iff.1 h
    obtain ⟨gap, hgap, rfl, -⟩ := skipBlanks_eq_some_iff.1 hoperand
    obtain ⟨rest, hname, rfl⟩ := symbol?_eq_some_iff.1 hsymbol
    rw [String.toList_ofList]
    exact ⟨gap, rest, rfl, hgap, hname⟩
  · rintro ⟨gap, rest, rfl, hgap, hname⟩
    have hoperand :=
      skipBlanks_eq_some_iff.2 ⟨gap, hgap, rfl, hname.head?_isBlank (staticBase ++ rest)⟩
    have hsymbol := symbol?_eq_some_iff.2 ⟨rest, hname, rfl⟩
    rw [hoperand, Option.bind_some, hsymbol, Option.map_some, String.ofList_toList]

/-! ### Lines on which a function begins -/

/-- A `TEXT` line that names a function: white space may stand in front, and what follows the mark
does not matter. -/
def Declares (line : List Char) (name : String) : Prop :=
  ∃ indent gap rest,
    line = indent ++ (['T', 'E', 'X', 'T'] ++ (gap ++ (name.toList ++ (staticBase ++ rest)))) ∧
      (∀ c ∈ indent, isBlank c = true) ∧ IsGap gap ∧ IsSymbol name.toList

/-- **A function begins** on the lines that declare one and on no others, and its name is the symbol
as it stands on the line. -/
theorem functionStart_iff_declares (line : List Char) :
    (∀ name, functionStart? line = some name ↔ Declares line name) ∧
    (functionStart? line = none ↔ ¬ ∃ name, Declares line name) := by
  have hexact (name : String) : functionStart? line = some name ↔ Declares line name := by
    constructor
    · intro h
      obtain ⟨directive, hdirective, h⟩ := Option.bind_eq_some_iff.1 h
      obtain ⟨gap, rest, rfl, hgap, hname⟩ := operand_eq_some_iff.1 h
      rw [strip_eq_some_iff] at hdirective
      refine ⟨line.takeWhile isBlank, gap, rest, ?_, List.all_eq_true.1 List.all_takeWhile,
        hgap, hname⟩
      rw [← hdirective, List.takeWhile_append_dropWhile]
    · rintro ⟨indent, gap, rest, rfl, hindent, hgap, hname⟩
      refine Option.bind_eq_some_iff.2 ⟨gap ++ (name.toList ++ (staticBase ++ rest)), ?_, ?_⟩
      · exact strip_eq_some_iff.2 (dropWhile_run hindent rfl)
      · exact operand_eq_some_iff.2 ⟨gap, rest, rfl, hgap, hname⟩
  refine ⟨hexact, ?_⟩
  simp only [← hexact, ← Option.isSome_iff_exists, Option.not_isSome_iff_eq_none]

/-- A name that begins with the mark, has a receiver and brackets, and ends with a part of the mark,
on a line with one more mark behind it. -/
theorem functionStart_of_marked_name :
    functionStart? " \tTEXT  (SB)x.(*T[int]).m(SB(SB) /src/(SB)".toList =
      some "(SB)x.(*T[int]).m(SB" := by
  refine ((functionStart_iff_declares _).1 _).2 ⟨[' ', '\t'], [' ', ' '], " /src/(SB)".toList,
    by decide, ?_⟩
  exact ⟨List.all_eq_true.1 (by decide), ⟨by decide, List.all_eq_true.1 (by decide)⟩, by decide⟩

/-! ### Calls of functions -/

/-- A call instruction that names a function: white space, the symbol and its mark follow. -/
def CallsSymbol (text : List Char) (name : String) : Prop :=
  ∃ gap rest, text = ['C', 'A', 'L', 'L'] ++ (gap ++ (name.toList ++ (staticBase ++ rest))) ∧
    IsGap gap ∧ IsSymbol name.toList

theorem reads_directCall? : Reads directCall? CallsSymbol where
  eq_some_iff := by
    intro text name
    constructor
    · intro h
      obtain ⟨operand, hoperand, h⟩ := Option.bind_eq_some_iff.1 h
      obtain ⟨gap, rest, rfl, hgap, hname⟩ := operand_eq_some_iff.1 h
      exact ⟨gap, rest, strip_eq_some_iff.1 hoperand, hgap, hname⟩
    · rintro ⟨gap, rest, htext, hgap, hname⟩
      exact Option.bind_eq_some_iff.2
        ⟨_, strip_eq_some_iff.2 htext, operand_eq_some_iff.2 ⟨gap, rest, rfl, hgap, hname⟩⟩
  empty := rfl

end SyscallCensus.Listing
