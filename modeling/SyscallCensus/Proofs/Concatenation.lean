import Mathlib.Data.Finset.Card
import Mathlib.Data.Set.Card
import SyscallCensus.Proofs.Blocks
import SyscallCensus.Registry.LinuxX64

/-!
# Listings one behind the other

About `SPEC_FULL.md`, Section 4.3 (Symbol Table Builder).

Two listings that are put one behind the other are read as one. Where no line and no block goes over
the border between them (`Border`), that comes to the same as reading each by itself: of a symbol
that both define, the second listing has the say; lines, blocks and functions add up; and every
symbol that both define is one more replacement (`build_append`).

At the border the pass over both closes the open block because of the line that comes next, and the
pass over the first listing alone because nothing comes next. The blocks that are recorded are the
same (`awaiting_append`), so what is left is to look at how a tally grows (`Tally.Balanced`): a
function that is put into the table makes it larger or replaces another one.
-/

namespace SyscallCensus

/-! ### Lines -/

namespace Text

theorem consByte_append (b : UInt8) {lines : List (List UInt8)} (h : lines ≠ [])
    (more : List (List UInt8)) : consByte b (lines ++ more) = consByte b lines ++ more := by
  cases lines with
  | nil => exact absurd rfl h
  | cons line lines =>
    unfold consByte
    split <;> rfl

theorem lines_ne_nil {bytes : List UInt8} (h : bytes ≠ []) : lines bytes ≠ [] := by
  cases bytes with
  | nil => exact absurd rfl h
  | cons b bytes =>
    show consByte b (lines bytes) ≠ []
    unfold consByte
    split
    · exact List.cons_ne_nil _ _
    · split <;> exact List.cons_ne_nil _ _

theorem lines_append {first : List UInt8} (h : first = [] ∨ first.getLast? = some lineFeed)
    (second : List UInt8) : lines (first ++ second) = lines first ++ lines second := by
  induction first with
  | nil => rfl
  | cons b first ih =>
    have hlast : (b :: first).getLast? = some lineFeed := h.resolve_left (List.cons_ne_nil b first)
    show consByte b (lines (first ++ second)) = consByte b (lines first) ++ lines second
    cases first with
    | nil =>
      obtain rfl : b = lineFeed := by simpa using hlast
      rfl
    | cons c first =>
      rw [ih (.inr (by simpa using hlast)),
        consByte_append b (lines_ne_nil (List.cons_ne_nil c first))]

end Text

/-! ### Symbols of a table -/

namespace SymbolTable

theorem contains_eq (table : SymbolTable) (name : String) :
    table.contains name = table.definitions.contains name := by
  rw [contains, get?, Std.TreeMap.contains_eq_isSome_getElem?]

theorem size_insert (table : SymbolTable) (f : FunctionDef) :
    (table.insert f).size = table.size + if table.contains f.name then 0 else 1 := by
  rw [contains_eq, size, insert, Std.TreeMap.size_insert]
  split <;> rfl

theorem encard_contains (table : SymbolTable) :
    {name | table.contains name}.encard = table.size := by
  have hnames : {name | table.contains name} = (table.definitions.keys.toFinset : Set String) := by
    ext name
    simp [contains_eq]
  have hnodup : table.definitions.keys.Nodup := by
    refine Std.TreeMap.distinct_keys.imp fun {a b} hne heq => hne ?_
    rw [heq]
    exact Std.ReflCmp.compare_self
  rw [hnames, Set.encard_coe_eq_coe_finsetCard, List.toFinset_card_of_nodup hnodup,
    Std.TreeMap.length_keys]
  rfl

end SymbolTable

namespace Listing

variable {registry : Registry} {wrappers : List String}

/-! ### How a tally grows -/

namespace Tally

variable (tally : Tally) (f : FunctionDef) (functions : List FunctionDef)

theorem blocks_record : (tally.record f).blocks = tally.blocks + 1 := by
  unfold record
  split <;> rfl

theorem kept_record : (tally.record f).kept = tally.kept + if f.isEmpty then 0 else 1 := by
  unfold record
  split <;> rfl

theorem blocks_foldl_record :
    (functions.foldl record tally).blocks = tally.blocks + functions.length := by
  induction functions generalizing tally with
  | nil => rfl
  | cons f functions ih =>
    rw [List.foldl_cons, ih, blocks_record, List.length_cons]
    omega

theorem kept_foldl_record :
    (functions.foldl record tally).kept = tally.kept + functions.countP fun f => !f.isEmpty := by
  induction functions generalizing tally with
  | nil => rfl
  | cons f functions ih =>
    rw [List.foldl_cons, ih, kept_record, List.countP_cons]
    cases f.isEmpty with
    | true => simp
    | false =>
      simp only [Bool.false_eq_true, if_false, Bool.not_false, if_true]
      omega

/-- The table that was there before counts for those symbols for which nothing was put into it
since. -/
theorem get?_foldl_record (name : String) :
    (functions.foldl record tally).table.get? name =
      ((functions.foldl record start).table.get? name).or (tally.table.get? name) := by
  rw [table_foldl_record, table_foldl_record, get?_foldl_keep, get?_foldl_keep, start,
    SymbolTable.get?_empty, Option.or_none]

variable {tally functions}

/-- Every function that was put into the table has made it larger, or has replaced another one. -/
def Balanced (tally : Tally) : Prop := tally.kept = tally.replaced + tally.table.size

theorem balanced_start : start.Balanced := rfl

theorem Balanced.record (h : tally.Balanced) : (tally.record f).Balanced := by
  unfold Balanced at h ⊢
  unfold Tally.record
  split
  · exact h
  · rw [SymbolTable.size_insert, h]
    cases tally.table.contains f.name <;> simp <;> omega

theorem Balanced.foldl_record (h : tally.Balanced) :
    (functions.foldl Tally.record tally).Balanced := by
  induction functions generalizing tally with
  | nil => exact h
  | cons f functions ih => exact ih (h.record f)

end Tally

/-! ### Reading two listings as one -/

/-- **A border between two listings** that no line and no block goes over. -/
structure Border (registry : Registry) (wrappers : List String) (first second : List UInt8) :
    Prop where
  /-- The first listing is empty, or its last line is complete. -/
  line : first = [] ∨ first.getLast? = some Text.lineFeed
  /-- No block is open behind the first listing, or the second one is empty, or its first line ends
  an open block. -/
  block :
    (Reading.start.readLines registry wrappers (Text.lines first)).block = none ∨ second = [] ∨
    ∃ line ∈ (Text.lines second).head?,
      isEndOfBlock (Text.lineText line) = true ∨ (functionStart? (Text.lineText line)).isSome = true

/-- In front of lines that do not continue it, the open block is complete. -/
theorem awaiting_of_border {block : Option Block} {lines : List (List Char)}
    (h : block = none ∨ ∀ line ∈ lines.head?, goesOn line = false) :
    awaiting registry wrappers block lines =
      block.toList.map (·.definition) ++ awaiting registry wrappers none lines := by
  rcases h with rfl | h
  · rfl
  · have hnone : lines.takeWhile goesOn = [] := by
      cases lines with
      | nil => rfl
      | cons line lines => simp [h line rfl]
    simp [awaiting, hnone, Block.feedAll]

/-- The blocks of lines that are read in two parts are those of the first part and those of the
second. -/
theorem awaiting_append (r : Reading) {first : List (List UInt8)} {second : List (List Char)}
    (h : (r.readLines registry wrappers first).block = none ∨
      ∀ line ∈ second.head?, goesOn line = false) :
    awaiting registry wrappers r.block (first.map Text.lineText ++ second) =
      awaiting registry wrappers r.block (first.map Text.lineText) ++
        awaiting registry wrappers none second := by
  induction first generalizing r with
  | nil =>
    rw [List.map_nil, List.nil_append, awaiting_nil]
    exact awaiting_of_border h
  | cons line first ih =>
    obtain ⟨-, hrest⟩ := r.readLine_ended registry wrappers (Text.lineText line)
    rw [List.map_cons, List.cons_append, hrest, hrest, ih _ h, List.append_assoc]

/-- **The blocks of two listings** that are read as one are recorded one behind the other. -/
theorem Border.tally_append {first second : List UInt8}
    (h : Border registry wrappers first second) :
    (build registry wrappers (first ++ second)).tally =
      (awaiting registry wrappers none ((Text.lines second).map Text.lineText)).foldl Tally.record
        (build registry wrappers first).tally := by
  have hborder : (Reading.start.readLines registry wrappers (Text.lines first)).block = none ∨
      ∀ line ∈ ((Text.lines second).map Text.lineText).head?, goesOn line = false := by
    refine h.block.imp_right fun hsecond => ?_
    rintro line hline
    rcases hsecond with rfl | ⟨raw, hraw, hkind⟩
    · cases hline
    · obtain rfl : Text.lineText raw = line := by simpa [Option.mem_def.1 hraw] using hline
      rcases hkind with hblank | hstart
      · simp [goesOn, hblank]
      · simp [goesOn, Option.isNone_eq_false_iff.2 hstart]
  rw [tally_build, tally_build, Text.lines_append h.line, List.map_append, ← List.foldl_append]
  exact congrArg _ (awaiting_append .start hborder)

section Lines

variable (registry wrappers)

theorem Reading.lines_record (r : Reading) (f : FunctionDef) :
    (r.record f).stats.lines = r.stats.lines := by
  unfold record
  split
  · rfl
  · dsimp only
    split <;> rfl

theorem Reading.lines_endBlock (r : Reading) : r.endBlock.stats.lines = r.stats.lines := by
  unfold endBlock
  split
  · exact r.lines_record _
  · rfl

theorem Reading.lines_readLine (r : Reading) (line : List Char) :
    (r.readLine registry wrappers line).stats.lines = r.stats.lines + 1 := by
  unfold readLine
  dsimp only
  split
  · exact lines_endBlock _
  · split
    · split <;> rfl
    · split
      · exact lines_endBlock _
      · rfl

theorem Reading.lines_readLines (r : Reading) (lines : List (List UInt8)) :
    (r.readLines registry wrappers lines).stats.lines = r.stats.lines + lines.length := by
  induction lines generalizing r with
  | nil => rfl
  | cons line lines ih =>
    rw [readLines, List.foldl_cons, ← readLines, ih, lines_readLine, List.length_cons]
    omega

theorem lines_build (bytes : List UInt8) :
    (build registry wrappers bytes).stats.lines = (Text.lines bytes).length := by
  show (Reading.endBlock _).stats.lines = _
  rw [Reading.lines_endBlock, Reading.lines_readLines]
  exact Nat.zero_add _

end Lines

/-! ### What comes of two listings -/

/-- Of the functions of a listing that were put into its table, those stand there that were not
replaced. -/
theorem kept_build (registry : Registry) (wrappers : List String) (bytes : List UInt8) :
    (build registry wrappers bytes).stats.kept =
      (build registry wrappers bytes).stats.replaced +
        (build registry wrappers bytes).table.size := by
  have hbalanced : (build registry wrappers bytes).tally.Balanced := by
    rw [tally_build]
    exact Tally.balanced_start.foldl_record
  exact hbalanced

/-- The symbols that two tables have in common are counted twice when the sizes of the tables are
added. -/
theorem size_add_encard_common {first second whole : SymbolTable}
    (h : ∀ name, whole.get? name = (second.get? name).or (first.get? name)) :
    (whole.size : ℕ∞) + {name | first.contains name ∧ second.contains name}.encard =
      first.size + second.size := by
  have hunion : {name | whole.contains name} =
      {name | first.contains name} ∪ {name | second.contains name} := by
    ext name
    simp [SymbolTable.contains, h, or_comm]
  rw [← whole.encard_contains, ← first.encard_contains, ← second.encard_contains, hunion]
  exact Set.encard_union_add_encard_inter _ _

/-- **Reading is compositional.** Where no line and no block goes over the border between two
listings, reading them as one gives every symbol the function that the second listing gives it, and
if there is none the one of the first. The numbers of lines, of blocks and of functions that were
kept are the sums. A function was replaced in the first listing, or in the second one, or because
its symbol is defined in both. -/
theorem build_append {first second : List UInt8} (hborder : Border registry wrappers first second) :
    let whole := build registry wrappers (first ++ second)
    let a := build registry wrappers first
    let b := build registry wrappers second
    (∀ name, whole.table.get? name = (b.table.get? name).or (a.table.get? name)) ∧
    whole.stats.lines = a.stats.lines + b.stats.lines ∧
    whole.stats.blocks = a.stats.blocks + b.stats.blocks ∧
    whole.stats.kept = a.stats.kept + b.stats.kept ∧
    (whole.stats.replaced : ℕ∞) =
      a.stats.replaced + b.stats.replaced +
        {name | a.table.contains name ∧ b.table.contains name}.encard := by
  intro whole a b
  have hwhole : whole.tally = _ := hborder.tally_append
  have hsecond : b.tally = _ := tally_build registry wrappers second
  have hget (name : String) : whole.table.get? name =
      (b.table.get? name).or (a.table.get? name) := by
    show whole.tally.table.get? name = (b.tally.table.get? name).or _
    rw [hwhole, Tally.get?_foldl_record, hsecond]
    rfl
  have hblocks : whole.stats.blocks = a.stats.blocks + b.stats.blocks := by
    show whole.tally.blocks = a.stats.blocks + b.tally.blocks
    rw [hwhole, hsecond, Tally.blocks_foldl_record, Tally.blocks_foldl_record, Tally.start,
      Nat.zero_add]
    rfl
  have hkept : whole.stats.kept = a.stats.kept + b.stats.kept := by
    show whole.tally.kept = a.stats.kept + b.tally.kept
    rw [hwhole, hsecond, Tally.kept_foldl_record, Tally.kept_foldl_record, Tally.start,
      Nat.zero_add]
    rfl
  refine ⟨hget, ?_, hblocks, hkept, ?_⟩
  · rw [lines_build, lines_build, lines_build, Text.lines_append hborder.line, List.length_append]
  · -- What was kept and stands in no table was replaced; the symbols in common stand in two tables
    -- and later in one.
    have hsize := size_add_encard_common hget
    have hcommon : {name | a.table.contains name ∧ b.table.contains name}.encard ≠ ⊤ := by
      intro htop
      rw [htop] at hsize
      exact absurd hsize.symm (by simp)
    obtain ⟨common, hcommon⟩ := ENat.ne_top_iff_exists.1 hcommon
    rw [← hcommon] at hsize ⊢
    have hwhole : whole.stats.kept = whole.stats.replaced + whole.table.size := kept_build ..
    have hfirst : a.stats.kept = a.stats.replaced + a.table.size := kept_build ..
    have hsecond : b.stats.kept = b.stats.replaced + b.table.size := kept_build ..
    norm_cast at hsize ⊢
    omega

/-- The first of two listings ends within a block, behind a load that waits; the second one begins
with a block of the same symbol. The load is not used in it, and the function of the first listing
is replaced. -/
theorem build_append_within_main :
    let first := Text.Utf8.encode "TEXT main.main(SB)\n\tCALL main.helper(SB)\n\tMOVL $0x3c, AX\n"
    let second := Text.Utf8.encode
      "TEXT main.main(SB)\n\tSYSCALL\n\tCALL main.last(SB)\n\nTEXT main.last(SB)\n\tMOVL $0x1, AX\n\tSYSCALL\n"
    let a := build .linuxX64 [] first
    let b := build .linuxX64 [] second
    let whole := build .linuxX64 [] (first ++ second)
    Border .linuxX64 [] first second ∧
    (Reading.start.readLines .linuxX64 [] (Text.lines first)).block ≠ none ∧
    whole.table.get? "main.main" = some ⟨"main.main", ["main.last"], .empty⟩ ∧
    whole.table.get? "main.last" = some ⟨"main.last", [], .ofList [1]⟩ ∧
    a.stats = ⟨3, 1, 1, 0⟩ ∧ b.stats = ⟨7, 2, 2, 0⟩ ∧ whole.stats = ⟨10, 3, 3, 1⟩ ∧
    {name | a.table.contains name ∧ b.table.contains name}.encard = 1 := by
  intro first second a b whole
  obtain ⟨hline, hhead, hopen⟩ :
      first.getLast? = some Text.lineFeed ∧
      ((Text.lines second).head?.any fun line =>
        (functionStart? (Text.lineText line)).isSome) = true ∧
      (Reading.start.readLines .linuxX64 [] (Text.lines first)).block ≠ none := by
    decide +kernel +revert
  obtain ⟨hmain, hlast, hstats, hstats', hall⟩ :
      b.table.get? "main.main" = some ⟨"main.main", ["main.last"], .empty⟩ ∧
      b.table.get? "main.last" = some ⟨"main.last", [], .ofList [1]⟩ ∧
      a.stats = ⟨3, 1, 1, 0⟩ ∧ b.stats = ⟨7, 2, 2, 0⟩ ∧ whole.stats = ⟨10, 3, 3, 1⟩ := by
    decide +kernel +revert
  have hborder : Border .linuxX64 [] first second := by
    obtain ⟨line, hfirst, hstart⟩ := (Option.any_eq_true _ _).1 hhead
    exact ⟨.inr hline, .inr (.inr ⟨line, hfirst, .inr hstart⟩)⟩
  obtain ⟨hget, -, -, -, hreplaced⟩ := build_append hborder
  refine ⟨hborder, hopen, ?_, ?_, hstats, hstats', hall, ?_⟩
  · rw [hget, hmain]
    rfl
  · rw [hget, hlast]
    rfl
  · rw [hall, hstats, hstats'] at hreplaced
    simpa using hreplaced.symm

end Listing

end SyscallCensus
