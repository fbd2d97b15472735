import SyscallCensus.Listing.Line

/-!
# What is recognised on a line

About `SPEC_FULL.md`, Section 4.1 (Line Classifier).

The recognisers of `Listing.Line` read a line from left to right. Here each piece of them is said
without reading: what stands at the beginning of a text, as an equation that splits the text, and
where in a line an instruction may stand.

* `strip_eq_some_iff`, `skipBlanks_eq_some_iff` — a given beginning, white space.
* `behindBlanks_iff`, `behindPath_iff` — a test that may be made behind any part of the white space,
  and behind any number of path segments. These are the two places where a recogniser tries several
  splits of one text.
* `Reads.isSome_search_iff`, `Reads.search_eq_some_iff` — a search for a form of text goes to the
  beginnings of words, finds the form if it is present on the line, and answers by the leftmost
  place. A recogniser that searches is settled as soon as it is known which texts its reader takes
  (`Reads`).
* `classify_eq_iff` — the recognisers in their order: which of them decides, and which have found
  nothing before.
-/

namespace SyscallCensus.Listing

open Text

/-! ### Beginnings of a text -/

theorem strip_eq_some_iff {beginning text rest : List Char} :
    strip beginning text = some rest ↔ text = beginning ++ rest := by
  fun_induction strip beginning text with
  | case1 text => simp
  | case2 p beginning => simp
  | case3 p beginning text ih => simp [ih]
  | case4 p beginning c text hne => simp [Ne.symm hne]

theorem isSome_strip_iff {beginning text : List Char} :
    (strip beginning text).isSome = true ↔ ∃ rest, text = beginning ++ rest := by
  simp only [Option.isSome_iff_exists, strip_eq_some_iff]

/-- One of two beginnings, of which neither begins with the other. -/
theorem strip_or_strip_eq_some_iff {first second text rest : List Char}
    (hdistinct : ∀ more, strip first (second ++ more) = none) :
    (strip first text).or (strip second text) = some rest ↔
      ∃ beginning, (beginning = first ∨ beginning = second) ∧ text = beginning ++ rest := by
  rw [Option.or_eq_some_iff, strip_eq_some_iff, strip_eq_some_iff]
  constructor
  · rintro (h | ⟨-, h⟩)
    · exact ⟨first, .inl rfl, h⟩
    · exact ⟨second, .inr rfl, h⟩
  · rintro ⟨beginning, rfl | rfl, h⟩
    · exact .inl h
    · exact .inr ⟨h ▸ hdistinct rest, h⟩

/-- White space of at least one character. -/
def IsGap (text : List Char) : Prop := text ≠ [] ∧ ∀ c ∈ text, isBlank c = true

theorem takeWhile_run {p : Char → Bool} {run rest : List Char} (hrun : ∀ c ∈ run, p c = true)
    (hrest : rest.head?.any p = false) : (run ++ rest).takeWhile p = run := by
  rw [List.takeWhile_append_of_pos hrun]
  cases rest with
  | nil => simp
  | cons c rest =>
    have hc : p c = false := hrest
    simp [hc]

theorem dropWhile_run {p : Char → Bool} {run rest : List Char} (hrun : ∀ c ∈ run, p c = true)
    (hrest : rest.head?.any p = false) : (run ++ rest).dropWhile p = rest := by
  rw [List.dropWhile_append_of_pos hrun]
  cases rest with
  | nil => rfl
  | cons c rest =>
    have hc : p c = false := hrest
    simp [hc]

theorem head?_dropWhile {p : Char → Bool} (text : List Char) :
    (text.dropWhile p).head?.any p = false := by
  have h := List.head?_dropWhile_not p text
  cases hhead : (text.dropWhile p).head? with
  | none => rfl
  | some c =>
    rw [hhead] at h
    exact h

/-- What is skipped is all the white space. -/
theorem skipBlanks_eq_some_iff {text rest : List Char} :
    skipBlanks text = some rest ↔
      ∃ gap, IsGap gap ∧ text = gap ++ rest ∧ rest.head?.any isBlank = false := by
  constructor
  · intro h
    cases text with
    | nil => cases h
    | cons c text =>
      rw [skipBlanks, Option.ite_none_right_eq_some, Option.some.injEq] at h
      obtain ⟨hblank, rfl⟩ := h
      refine ⟨c :: text.takeWhile isBlank, ⟨List.cons_ne_nil _ _, ?_⟩, by simp,
        head?_dropWhile text⟩
      exact List.forall_mem_cons.2 ⟨hblank, List.all_eq_true.1 List.all_takeWhile⟩
  · rintro ⟨gap, ⟨hne, hgap⟩, rfl, hrest⟩
    obtain ⟨c, gap, rfl⟩ := List.exists_cons_of_ne_nil hne
    rw [List.forall_mem_cons] at hgap
    rw [List.cons_append, skipBlanks, if_pos hgap.1, dropWhile_run hgap.2 hrest]

/-! ### Tests behind white space and behind paths -/

variable {accepts : List Char → Bool} {text : List Char}

/-- A test behind white space holds behind some part of it. -/
theorem behindBlanks_iff :
    behindBlanks accepts text = true ↔
      ∃ gap rest, text = gap ++ rest ∧ IsGap gap ∧ accepts rest = true := by
  induction text with
  | nil => simp [behindBlanks, IsGap]
  | cons c text ih =>
    rw [behindBlanks, Bool.and_eq_true, Bool.or_eq_true, ih]
    constructor
    · rintro ⟨hblank, haccepts | ⟨gap, rest, rfl, ⟨-, hgap⟩, haccepts⟩⟩
      · exact ⟨[c], text, rfl, ⟨List.cons_ne_nil _ _, by simpa using hblank⟩, haccepts⟩
      · exact ⟨c :: gap, rest, rfl,
          ⟨List.cons_ne_nil _ _, List.forall_mem_cons.2 ⟨hblank, hgap⟩⟩, haccepts⟩
    · rintro ⟨gap, rest, hsplit, ⟨hne, hgap⟩, haccepts⟩
      obtain ⟨d, gap, rfl⟩ := List.exists_cons_of_ne_nil hne
      rw [List.cons_append, List.cons.injEq] at hsplit
      obtain ⟨rfl, rfl⟩ := hsplit
      rw [List.forall_mem_cons] at hgap
      refine ⟨hgap.1, ?_⟩
      -- The white space ends here, or goes on.
      cases gap with
      | nil => exact .inl haccepts
      | cons d gap => exact .inr ⟨d :: gap, rest, rfl, ⟨List.cons_ne_nil _ _, hgap.2⟩, haccepts⟩

/-- A package path: segments, each a run of path characters, of at least one, and a slash. -/
inductive IsPath : List Char → Prop where
  /-- No segment. -/
  | nil : IsPath []
  /-- A segment in front of others. -/
  | segment {run path : List Char} :
      run ≠ [] → (∀ c ∈ run, isPathChar c = true) → IsPath path → IsPath (run ++ '/' :: path)

theorem isPathChar_slash : isPathChar '/' = false := by decide

/-- A test behind the rest of a segment holds behind a slash, where only path characters stand
before the slash. -/
theorem behindPath_true_iff :
    behindPath accepts true text = true ↔
      ∃ run rest, text = run ++ '/' :: rest ∧ (∀ c ∈ run, isPathChar c = true) ∧
      behindPath accepts false rest = true := by
  induction text with
  | nil => simp [behindPath]
  | cons c text ih =>
    rw [behindPath]
    by_cases hc : c = '/'
    · subst hc
      rw [if_pos (beq_self_eq_true _)]
      constructor
      · exact fun h => ⟨[], text, rfl, by simp, h⟩
      · rintro ⟨run, rest, hsplit, hrun, h⟩
        -- A slash is no path character, so that the run is empty.
        cases run with
        | nil =>
          rw [List.nil_append, List.cons.injEq] at hsplit
          exact hsplit.2 ▸ h
        | cons d run =>
          rw [List.cons_append, List.cons.injEq] at hsplit
          rw [List.forall_mem_cons, ← hsplit.1, isPathChar_slash] at hrun
          cases hrun.1
    · rw [if_neg (by simpa using hc), Bool.and_eq_true, ih]
      constructor
      · rintro ⟨hpath, run, rest, rfl, hrun, h⟩
        exact ⟨c :: run, rest, rfl, List.forall_mem_cons.2 ⟨hpath, hrun⟩, h⟩
      · rintro ⟨run, rest, hsplit, hrun, h⟩
        cases run with
        | nil =>
          rw [List.nil_append, List.cons.injEq] at hsplit
          exact absurd hsplit.1 hc
        | cons d run =>
          rw [List.cons_append, List.cons.injEq] at hsplit
          obtain ⟨rfl, rfl⟩ := hsplit
          rw [List.forall_mem_cons] at hrun
          exact ⟨hrun.1, run, rest, rfl, hrun.2, h⟩

/-- A test behind path segments holds at the beginning, or behind a first segment. -/
theorem behindPath_false_iff :
    behindPath accepts false text = true ↔
      accepts text = true ∨ ∃ run rest, text = run ++ '/' :: rest ∧ run ≠ [] ∧
      (∀ c ∈ run, isPathChar c = true) ∧ behindPath accepts false rest = true := by
  cases text with
  | nil => simp [behindPath]
  | cons c text =>
    rw [behindPath, Bool.or_eq_true, Bool.and_eq_true, behindPath_true_iff]
    refine or_congr_right ⟨?_, ?_⟩
    · rintro ⟨hpath, run, rest, rfl, hrun, h⟩
      exact ⟨c :: run, rest, rfl, List.cons_ne_nil _ _, List.forall_mem_cons.2 ⟨hpath, hrun⟩, h⟩
    · rintro ⟨run, rest, hsplit, hne, hrun, h⟩
      obtain ⟨d, run, rfl⟩ := List.exists_cons_of_ne_nil hne
      rw [List.cons_append, List.cons.injEq] at hsplit
      obtain ⟨rfl, rfl⟩ := hsplit
      rw [List.forall_mem_cons] at hrun
      exact ⟨hrun.1, run, rest, rfl, hrun.2, h⟩

/-- **A test behind path segments** holds behind some package path. -/
theorem behindPath_iff :
    behindPath accepts false text = true ↔
      ∃ path rest, text = path ++ rest ∧ IsPath path ∧ accepts rest = true := by
  constructor
  · intro h
    -- By induction on the length of the text: a first segment makes it shorter.
    induction hlength : text.length using Nat.strongRecOn generalizing text with
    | ind length ih =>
      rcases behindPath_false_iff.1 h with haccepts | ⟨run, rest, rfl, hne, hrun, hrest⟩
      · exact ⟨[], text, rfl, .nil, haccepts⟩
      · obtain ⟨path, last, rfl, hpath, haccepts⟩ :=
          ih rest.length (by rw [← hlength, List.length_append, List.length_cons]; omega) hrest rfl
        exact ⟨run ++ '/' :: path, last, by simp, .segment hne hrun hpath, haccepts⟩
  · rintro ⟨path, rest, rfl, hpath, haccepts⟩
    induction hpath with
    | nil => exact behindPath_false_iff.2 (.inl haccepts)
    | @segment run path hne hrun _ ih =>
      exact behindPath_false_iff.2 (.inr ⟨run, path ++ rest, by simp, hne, hrun, ih⟩)

/-! ### Searches -/

section Search

variable {α : Type} {read : List Char → Option α} {form : List Char → α →
  Prop} {afterWord : Bool} {line : List Char}

/-- Whether the position behind `before` continues a word; `afterWord` tells it for the beginning of
the text. -/
def continuesWord (afterWord : Bool) (before : List Char) : Bool :=
  (before.getLast?.map isWord).getD afterWord

theorem continuesWord_cons (afterWord : Bool) (c : Char) (before : List Char) :
    continuesWord afterWord (c :: before) = continuesWord (isWord c) before := by
  rw [continuesWord, continuesWord, List.getLast?_cons]
  cases before.getLast? <;> rfl

/-- A search answers at a position that continues no word, and has no answer at such a position
further left. -/
theorem exists_of_atWordStart_eq_some {answer : α}
    (h : atWordStart read afterWord text = some answer) :
    ∃ before rest, text = before ++ rest ∧ continuesWord afterWord before = false ∧
      read rest = some answer ∧
      ∀ earlier later, text = earlier ++ later → continuesWord afterWord earlier = false →
        (read later).isSome = true → before.length ≤ earlier.length := by
  induction text generalizing afterWord with
  | nil => cases h
  | cons c text ih =>
    rw [atWordStart] at h
    split at h
    · rename_i found hfound
      rw [Option.some.injEq] at h
      subst h
      rw [Option.ite_none_left_eq_some, Bool.not_eq_true] at hfound
      exact ⟨[], c :: text, rfl, hfound.1, hfound.2, fun _ _ _ _ _ => Nat.zero_le _⟩
    · rename_i hnone
      obtain ⟨before, rest, rfl, hstart, hread, hfirst⟩ := ih h
      refine ⟨c :: before, rest, rfl, by rw [continuesWord_cons]; exact hstart, hread, ?_⟩
      intro earlier later hsplit hearlier hlater
      cases earlier with
      | nil =>
        -- There was no answer where the text begins.
        have hafter : afterWord = false := hearlier
        have htext : c :: (before ++ rest) = later := hsplit
        rw [hafter, htext, if_neg Bool.false_ne_true] at hnone
        rw [hnone] at hlater
        cases hlater
      | cons d earlier =>
        obtain ⟨rfl, htext⟩ : c = d ∧ before ++ rest = earlier ++ later := List.cons.inj hsplit
        rw [continuesWord_cons] at hearlier
        exact Nat.succ_le_succ (hfirst earlier later htext hearlier hlater)

/-- A search has an answer if there is one at some position that continues no word. -/
theorem isSome_atWordStart {before : List Char} {c : Char} {rest : List Char}
    (hstart : continuesWord afterWord before = false) (hread : (read (c :: rest)).isSome = true) :
    (atWordStart read afterWord (before ++ c :: rest)).isSome = true := by
  induction before generalizing afterWord with
  | nil =>
    have hafter : afterWord = false := hstart
    obtain ⟨answer, hanswer⟩ := Option.isSome_iff_exists.1 hread
    simp [atWordStart, hafter, hanswer]
  | cons d before ih =>
    rw [List.cons_append, atWordStart]
    split
    · rfl
    · exact ih (by rw [← continuesWord_cons]; exact hstart)

/-- A line has two parts, and a word may begin with the second: the first does not end within a
word. -/
def WordStart (line before rest : List Char) : Prop :=
  line = before ++ rest ∧ continuesWord false before = false

/-- A form stands somewhere in a line, where a word may begin. -/
def Present (form : List Char → α → Prop) (line : List Char) : Prop :=
  ∃ before rest answer, WordStart line before rest ∧ form rest answer

/-- A form stands in a line, where a word may begin, and does not stand so further left. -/
def Leftmost (form : List Char → α → Prop) (line : List Char) (answer : α) : Prop :=
  ∃ before rest, WordStart line before rest ∧ form rest answer ∧
    ∀ earlier later other, WordStart line earlier later → form later other →
      before.length ≤ earlier.length

/-- A reader answers on the texts of a form, and on these alone. The empty text is none of them. -/
structure Reads (read : List Char → Option α) (form : List Char → α → Prop) : Prop where
  /-- What the reader answers. -/
  eq_some_iff : ∀ {text answer}, read text = some answer ↔ form text answer
  /-- There is something to be read. -/
  empty : read [] = none

namespace Reads

variable (h : Reads read form)
include h

/-- **A search for a form** has an answer exactly if the form is present. -/
theorem isSome_search_iff : (search read line).isSome = true ↔ Present form line := by
  constructor
  · intro hsome
    obtain ⟨answer, hanswer⟩ := Option.isSome_iff_exists.1 hsome
    obtain ⟨before, rest, hline, hstart, hread, -⟩ := exists_of_atWordStart_eq_some hanswer
    exact ⟨before, rest, answer, ⟨hline, hstart⟩, h.eq_some_iff.1 hread⟩
  · rintro ⟨before, rest, answer, ⟨rfl, hstart⟩, hform⟩
    have hread := h.eq_some_iff.2 hform
    cases rest with
    | nil =>
      rw [h.empty] at hread
      cases hread
    | cons c rest => exact isSome_atWordStart hstart (Option.isSome_of_eq_some hread)

theorem search_eq_none_iff : search read line = none ↔ ¬ Present form line := by
  rw [← h.isSome_search_iff, Option.not_isSome_iff_eq_none]

/-- **A search for a form** answers by what stands leftmost. -/
theorem search_eq_some_iff {answer : α} :
    search read line = some answer ↔ Leftmost form line answer := by
  have hleftmost {found : α} (hfound : search read line = some found) :
      Leftmost form line found := by
    obtain ⟨before, rest, hline, hstart, hread, hfirst⟩ := exists_of_atWordStart_eq_some hfound
    refine ⟨before, rest, ⟨hline, hstart⟩, h.eq_some_iff.1 hread, ?_⟩
    rintro earlier later other ⟨hsplit, hearlier⟩ hform
    exact hfirst earlier later hsplit hearlier (Option.isSome_of_eq_some (h.eq_some_iff.2 hform))
  refine ⟨hleftmost, ?_⟩
  rintro ⟨before, rest, hword, hform, hfirst⟩
  obtain ⟨found, hfound⟩ :=
    Option.isSome_iff_exists.1 (h.isSome_search_iff.2 ⟨before, rest, answer, hword, hform⟩)
  obtain ⟨before', rest', hword', hform', hfirst'⟩ := hleftmost hfound
  -- Neither position is to the right of the other.
  have hlength : before.length = before'.length :=
    Nat.le_antisymm (hfirst _ _ _ hword' hform') (hfirst' _ _ _ hword hform)
  obtain ⟨-, rfl⟩ := List.append_inj (hword.1.symm.trans hword'.1) hlength
  rw [hfound, ← h.eq_some_iff.2 hform, ← h.eq_some_iff.2 hform']

end Reads

end Search

/-! ### Which recogniser decides -/

section Classify

variable {registry : Registry} {wrappers : List String} {line : List Char}

/-- A number that is loaded is a candidate if it is a registered one, and nothing of interest
otherwise. -/
theorem loadKind_cases (registry : Registry) (value : Nat) :
    (∃ id : SyscallId, id.toNat = value ∧ registry.contains id = true ∧
      loadKind registry value = .loadCandidate id) ∨
      ((∀ id : SyscallId, id.toNat = value → registry.contains id = false) ∧
        loadKind registry value = .ignored) := by
  by_cases h : value < 0x10000 ∧ registry.contains (UInt16.ofNat value)
  · exact .inl ⟨UInt16.ofNat value, UInt16.toNat_ofNat_of_lt h.1, h.2, if_pos h⟩
  · refine .inr ⟨?_, if_neg h⟩
    rintro id rfl
    rw [UInt16.ofNat_toNat] at h
    exact Bool.eq_false_iff.2 fun hregistered => h ⟨id.toNat_lt, hregistered⟩

/-- What the recognisers find on a line that is read as one of the kinds: each kind needs that the
recognisers that come before its own find nothing. -/
def Decided (registry : Registry) (wrappers : List String) (line : List Char) : LineKind → Prop
  | .functionStart name => functionStart? line = some name
  | .syscallInvocation => functionStart? line = none ∧ isInvocation wrappers line = true
  | .loadCandidate id => functionStart? line = none ∧ isInvocation wrappers line = false ∧
      search immediateLoad? line = some id.toNat ∧ registry.contains id = true
  | .callTarget name => functionStart? line = none ∧ isInvocation wrappers line = false ∧
      search immediateLoad? line = none ∧ search directCall? line = some name
  | .ignored => functionStart? line = none ∧ isInvocation wrappers line = false ∧
      ((∃ value, search immediateLoad? line = some value ∧
          ∀ id : SyscallId, id.toNat = value → registry.contains id = false) ∨
        search immediateLoad? line = none ∧ search directCall? line = none)

/-- **A line is read as a kind** exactly if the recognisers decide so. -/
theorem classify_eq_iff {kind : LineKind} :
    classify registry wrappers line = kind ↔ Decided registry wrappers line kind := by
  unfold classify
  -- In the order in which the recognisers are asked, up to the first that finds something.
  cases hstart : functionStart? line with
  | some start => cases kind <;> simp [Decided, hstart]
  | none =>
    cases hinvocation : isInvocation wrappers line with
    | true => cases kind <;> simp [Decided, hstart, hinvocation]
    | false =>
      cases hload : search immediateLoad? line with
      | none =>
        cases hcall : search directCall? line <;> cases kind <;>
          simp [Decided, hstart, hinvocation, hload, hcall]
      | some value =>
        obtain ⟨id, rfl, hregistered, hkind⟩ | ⟨hunregistered, hkind⟩ :=
          loadKind_cases registry value
        · cases kind with
          | loadCandidate other =>
            simp only [Decided, hstart, hinvocation, hload, hkind, Bool.false_eq_true,
              if_false, true_and, LineKind.loadCandidate.injEq, Option.some.injEq, UInt16.toNat_inj]
            exact ⟨fun h => ⟨h, h ▸ hregistered⟩, fun h => h.1⟩
          | ignored =>
            simpa [Decided, hstart, hinvocation, hload, hkind] using ⟨id, rfl, hregistered⟩
          | _ => simp [Decided, hstart, hinvocation, hload, hkind]
        · cases kind with
          | loadCandidate other =>
            simpa [Decided, hstart, hinvocation, hload, hkind] using fun h =>
              hunregistered other h.symm
          | ignored => simpa [Decided, hstart, hinvocation, hload, hkind] using hunregistered
          | _ => simp [Decided, hstart, hinvocation, hload, hkind]

end Classify

end SyscallCensus.Listing
