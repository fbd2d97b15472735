import Mathlib.Data.List.TakeWhile
import SyscallCensus.Proofs.LineEnds

/-!
# The books of a reading

About `SPEC_FULL.md`, Section 4.3 (Symbol Table Builder), and the records of Section 10.6: blocks
that are kept, skipped and replaced.

While a listing is read, lines and blocks are counted, blocks are put into the table or left out,
and the log says which. Here all of these are brought together (`build_balances`).

Three places end a block and two begin one, so each count is tied to something that does not depend
on the place: lines to the bytes (`Text.length_lines`), blocks to the lines on which a function
begins (`length_passages`), and what becomes of a block to its record in the log. The last is an
invariant of the reading (`Reading.Accounted`): recording a function keeps it, and nothing else
touches the counters of blocks or makes such a record.
-/

namespace SyscallCensus

/-! ### Records of the log -/

namespace Log.Event

/-- Whether a record warns that a symbol is defined once more. -/
def warnsOfDuplicate (event : Event) : Bool :=
  event.level == .warn && "duplicate definition of ".toList.isPrefixOf event.message.toList

/-- Whether a record says that a function without calls and system calls is left out. -/
def reportsEmpty (event : Event) : Bool :=
  event.level == .trace && "] skipping empty symbol".toList.isSuffixOf event.message.toList

/-- Of all records these are warnings. -/
@[simp] theorem warnsOfDuplicate_iff {event : Event} :
    event.warnsOfDuplicate = true ↔ ∃ name, event = .duplicateFunction name := by
  rw [warnsOfDuplicate, Bool.and_eq_true, List.isPrefixOf_iff_prefix]
  cases event with
  | duplicateFunction name =>
    have hmessage : message (.duplicateFunction name) =
        "duplicate definition of " ++ name ++ "; keeping the later one" := rfl
    rw [hmessage, String.toList_append, String.toList_append, List.append_assoc]
    exact ⟨fun _ => ⟨name, rfl⟩, fun _ => ⟨rfl, List.prefix_append _ _⟩⟩
  | _ => exact ⟨fun h => (nomatch h.1), nofun⟩

/-- The other record of the same level ends in another letter. -/
@[simp] theorem reportsEmpty_iff {event : Event} :
    event.reportsEmpty = true ↔ ∃ name, event = .emptyFunction name := by
  rw [reportsEmpty, Bool.and_eq_true, List.isSuffixOf_iff_suffix]
  cases event with
  | emptyFunction name =>
    have hmessage : message (.emptyFunction name) = "[" ++ name ++ "] skipping empty symbol" := rfl
    rw [hmessage, String.toList_append]
    exact ⟨fun _ => ⟨name, rfl⟩, fun _ => ⟨rfl, List.suffix_append _ _⟩⟩
  | unmatchedInvocation name =>
    refine ⟨fun h => ?_, nofun⟩
    have hmessage : message (.unmatchedInvocation name) = "[" ++ name ++
        "] invocation without a pending id" := rfl
    obtain ⟨before, hsplit⟩ := h.2
    have hlast := congrArg List.getLast? hsplit
    rw [hmessage, String.toList_append, List.getLast?_append, List.getLast?_append] at hlast
    simp at hlast
  | _ => exact ⟨fun h => (nomatch h.1), nofun⟩

end Log.Event

theorem FunctionDef.isEmpty_eq_false_iff {f : FunctionDef} :
    f.isEmpty = false ↔ f.callees ≠ [] ∨ f.syscalls.toList ≠ [] := by
  rw [isEmpty, IdSet.isEmpty, Bool.and_eq_false_iff, List.isEmpty_eq_false_iff,
    List.isEmpty_eq_false_iff]

namespace Listing

open Log (Event)

variable {registry : Registry} {wrappers : List String}

/-! ### Blocks -/

theorem blockStart?_eq (line : List Char) : blockStart? line = functionStart? line := by
  unfold blockStart?
  split
  · rename_i hblank
    -- Nothing is left of a blank line, and so no directive.
    have hrest : line.dropWhile Text.isBlank = [] :=
      List.dropWhile_eq_nil_iff.2 (List.all_eq_true.1 hblank)
    rw [functionStart?, hrest]
    rfl
  · rfl

/-- **There is a block for each line** on which a function begins. -/
theorem length_passages (lines : List (List Char)) :
    (passages lines).length = lines.countP fun line => (functionStart? line).isSome := by
  induction lines with
  | nil => rfl
  | cons line lines ih =>
    rw [passages, blockStart?_eq, List.countP_cons, ← ih]
    cases functionStart? line with
    | none => rfl
    | some name => rfl

theorem blocks_build (bytes : List UInt8) :
    (build registry wrappers bytes).stats.blocks =
      (passages ((Text.lines bytes).map Text.lineText)).length := by
  have hblocks : (build registry wrappers bytes).stats.blocks = _ :=
    congrArg Tally.blocks (tally_build registry wrappers bytes)
  rw [Tally.blocks_foldl_record] at hblocks
  simpa [awaiting, Tally.start] using hblocks

theorem kept_build_eq_countP (bytes : List UInt8) :
    (build registry wrappers bytes).stats.kept =
      (passages ((Text.lines bytes).map Text.lineText)).countP
        fun block => !(block.definition registry wrappers).isEmpty := by
  have hkept : (build registry wrappers bytes).stats.kept = _ :=
    congrArg Tally.kept (tally_build registry wrappers bytes)
  rw [Tally.kept_foldl_record] at hkept
  simpa [awaiting, Tally.start, List.countP_map, Function.comp_def] using hkept

/-! ### Counters and records -/

theorem Block.feed_accounts (block : Block) (kind : LineKind) :
    ∀ event ∈ (block.feed kind).2, event.warnsOfDuplicate = false ∧ event.reportsEmpty = false := by
  unfold feed
  split
  · simp
  · simp
  · split
    · simp
    · simp [Bool.eq_false_iff]
  · simp
  · simp

namespace Reading

variable {r : Reading}

/-- **The log has a record of each block** that did not simply go into the table: a warning if it
took the place of another one, and a note if it was left out. -/
structure Accounted (r : Reading) : Prop where
  /-- There is a warning for each function that was replaced. -/
  replaced : r.stats.replaced = r.log.countP Event.warnsOfDuplicate
  /-- There is a note for each block that was not kept. -/
  empty : r.stats.blocks = r.stats.kept + r.log.countP Event.reportsEmpty

theorem accounted_start : start.Accounted := ⟨rfl, rfl⟩

/-- A line more, another open block, and records of other kinds do not matter. -/
theorem Accounted.of_same {other : Reading} (h : r.Accounted) {events : List Event}
    (htally : other.tally = r.tally) (hlog : other.log.toList = r.log.toList ++ events)
    (hevents : ∀ event ∈ events, event.warnsOfDuplicate = false ∧ event.reportsEmpty = false) :
    other.Accounted := by
  obtain ⟨-, hblocks, hkept, hreplaced⟩ := Tally.mk.inj htally
  have hnone {p : Event → Bool} (hp : ∀ event ∈ events, p event = false) : events.countP p = 0 :=
    List.countP_eq_zero.2 fun event hevent => Bool.eq_false_iff.1 (hp event hevent)
  constructor
  · rw [hreplaced, ← Array.countP_toList, hlog, List.countP_append,
      hnone fun event hevent => (hevents event hevent).1, Array.countP_toList]
    exact h.replaced
  · rw [hblocks, hkept, ← Array.countP_toList, hlog, List.countP_append,
      hnone fun event hevent => (hevents event hevent).2, Array.countP_toList]
    exact h.empty

theorem Accounted.record (h : r.Accounted) (f : FunctionDef) : (r.record f).Accounted := by
  obtain ⟨hreplaced, hempty⟩ := h
  unfold Reading.record
  cases hf : f.isEmpty with
  | true =>
    -- One block more, and a note of it.
    constructor
    · simpa using hreplaced
    · simp
      omega
  | false =>
    cases hc : r.table.contains f.name with
    | true =>
      -- One block more, kept and replacing another, and a warning.
      constructor
      · simpa using hreplaced
      · simp
        omega
    | false =>
      constructor
      · simpa using hreplaced
      · simp
        omega

theorem Accounted.endBlock (h : r.Accounted) : r.endBlock.Accounted := by
  unfold Reading.endBlock
  split
  · exact (h.record _).of_same rfl (List.append_nil _).symm (by simp)
  · exact h

theorem Accounted.readLine (h : r.Accounted) (line : List Char) :
    (r.readLine registry wrappers line).Accounted := by
  have hcounted :
      ({ r with stats := { r.stats with lines := r.stats.lines + 1 } } : Reading).Accounted :=
    h.of_same rfl (List.append_nil _).symm (by simp)
  unfold Reading.readLine
  dsimp only
  split
  · exact hcounted.endBlock
  · split
    · split
      · exact hcounted.of_same rfl (List.append_nil _).symm (by simp)
      · exact hcounted
    · split
      · exact hcounted.endBlock.of_same rfl (List.append_nil _).symm (by simp)
      · exact hcounted.of_same rfl (Array.toList_appendList ..) (Block.feed_accounts _ _)

theorem Accounted.readLines (h : r.Accounted) (lines : List (List UInt8)) :
    (r.readLines registry wrappers lines).Accounted := by
  induction lines generalizing r with
  | nil => exact h
  | cons line lines ih => exact ih (h.readLine (Text.lineText line))

theorem Accounted.finish (h : r.Accounted) : r.finish.Accounted :=
  h.endBlock.of_same rfl Array.toList_push (by simp [Bool.eq_false_iff])

end Reading

theorem accounted_build (bytes : List UInt8) : (build registry wrappers bytes).Accounted :=
  (Reading.accounted_start.readLines (Text.lines bytes)).finish

/-- **The books balance.** Every line and every block of a listing is counted, wherever it begins
and ends. A block goes into the table if its function calls another or makes a system call, and is
noted as empty in the log if not. Of those that went into the table each has a symbol of its own
there, or took the place of an earlier one with a warning. What a symbol has in the table is a
function of that symbol which is not empty. -/
theorem build_balances (registry : Registry) (wrappers : List String) (bytes : List UInt8) :
    let lines := (Text.lines bytes).map Text.lineText
    let built := build registry wrappers bytes
    built.stats.lines =
      bytes.count Text.lineFeed + (if bytes = [] ∨
        bytes.getLast? = some Text.lineFeed then 0 else 1) ∧
    built.stats.blocks = lines.countP (fun line => (functionStart? line).isSome) ∧
    built.stats.kept = (passages lines).countP (fun block =>
      (block.definition registry wrappers).callees ≠ [] ∨
        (block.definition registry wrappers).syscalls.toList ≠ []) ∧
    built.stats.kept = built.stats.replaced + built.table.size ∧
    built.stats.replaced = built.log.countP Event.warnsOfDuplicate ∧
    built.stats.blocks = built.stats.kept + built.log.countP Event.reportsEmpty ∧
    ∀ name f, built.table.get? name = some f → f.name = name ∧ f.isEmpty = false := by
  intro lines built
  have haccounted : built.Accounted := accounted_build bytes
  refine ⟨?_, ?_, ?_, kept_build .., haccounted.replaced, haccounted.empty, ?_⟩
  · rw [lines_build, Text.length_lines]
  · rw [blocks_build, length_passages]
  · rw [kept_build_eq_countP]
    refine List.countP_congr fun block _ => ?_
    rw [Bool.not_eq_true', FunctionDef.isEmpty_eq_false_iff, decide_eq_true_iff]
  · intro name f hf
    rw [get?_build, Option.map_eq_some_iff] at hf
    obtain ⟨block, hlast, rfl⟩ := hf
    obtain ⟨-, -, -, hname, hkept, -⟩ := lastPassage?_eq_some_iff.1 hlast
    exact ⟨hname, hkept⟩

/-- One block ends at a `TEXT` line, one at a blank line and one with the listing, which has no line
feed at its end. The second block is empty, and the third one, which makes a system call, replaces
the first. -/
theorem build_balances_of_three_blocks :
    let bytes := Text.Utf8.encode <|
      "TEXT main.main(SB)\n\tCALL main.a(SB)\nTEXT main.b(SB)\n\tSYSCALL\n\n" ++
      "TEXT main.main(SB)\n\tMOVL $0x3c, AX\n\tSYSCALL\n\tCALL main.c(SB)"
    let built := build .linuxX64 [] bytes
    built.stats = ⟨9, 3, 2, 1⟩ ∧ built.table.size = 1 ∧
    built.log.countP Event.warnsOfDuplicate = 1 ∧ built.log.countP Event.reportsEmpty = 1 ∧
    built.table.get? "main.main" = some ⟨"main.main", ["main.c"], .ofList [60]⟩ ∧
    (⟨"main.main", ["main.c"], .ofList [60]⟩ : FunctionDef).isEmpty = false := by
  intro bytes built
  obtain ⟨hstats, hmain⟩ : built.stats = ⟨9, 3, 2, 1⟩ ∧
      built.table.get? "main.main" = some ⟨"main.main", ["main.c"], .ofList [60]⟩ := by
    decide +kernel +revert
  obtain ⟨-, -, -, hsize, hwarnings, hnotes, hfunctions⟩ := build_balances .linuxX64 [] bytes
  change built.stats.kept = built.stats.replaced + built.table.size at hsize
  change built.stats.replaced = built.log.countP Event.warnsOfDuplicate at hwarnings
  change built.stats.blocks = built.stats.kept + built.log.countP Event.reportsEmpty at hnotes
  rw [hstats] at hsize hwarnings hnotes
  dsimp only at hsize hwarnings hnotes
  exact ⟨hstats, by omega, by omega, by omega, hmain, (hfunctions _ _ hmain).2⟩

end Listing

end SyscallCensus
