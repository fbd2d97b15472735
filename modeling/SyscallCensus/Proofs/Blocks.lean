import Mathlib.Data.List.Induction
import SyscallCensus.Listing.Build
import SyscallCensus.Proofs.Recognition

/-!
# The blocks of a listing

About `SPEC_FULL.md`, Section 4.3 (Symbol Table Builder).

`Listing.build` reads a listing in one pass and carries an open block along. Here the same table is
given without a pass: the listing is cut into blocks (`passages`), each block alone says what its
function calls and which system calls it makes (`Passage.definition`), and a symbol has the function
of its last block that is not empty (`lastPassage?`).

The pass closes a block in three places: at a blank line, at a `TEXT` line, and at the end of the
listing. What it has still to put into the table, given the lines that are left, is `awaiting`: the
open block with those of the lines that belong to it, and the blocks that begin on the lines. A line
changes nothing about that, except that what is closed is recorded: it goes into the table, and it
is counted (`Reading.readLine_ended`). `table_of_blocks` is the result.
-/

namespace SyscallCensus

/-! ### First occurrences -/

/-- The set of a list holds the first occurrences, in order. -/
theorem IdSet.toList_ofList (ids : List SyscallId) : (ofList ids).toList = ids.eraseDups := by
  induction ids using List.reverseRecOn with
  | nil => rfl
  | append_singleton ids id ih =>
    rw [ofList, List.foldl_append, List.foldl_cons, List.foldl_nil, ← ofList, toList_insert, ih,
      List.eraseDups_append]
    by_cases h : id ∈ ids
    · simp [h, List.cons_removeAll]
    · simp [h, List.cons_removeAll, List.eraseDups_cons]

theorem IdSet.nodup_eraseDups (ids : List SyscallId) : ids.eraseDups.Nodup := by
  rw [← toList_ofList]
  exact (ofList ids).nodup

namespace Listing

variable {registry : Registry} {wrappers : List String}

/-! ### What a listing says, block by block -/

/-- The symbol of the block that begins on a line. -/
def blockStart? (line : List Char) : Option String :=
  if isEndOfBlock line then none else functionStart? line

/-- Whether a line belongs to the block that is open before it: it is not blank, and begins no
block. -/
def goesOn (line : List Char) : Bool := !isEndOfBlock line && (functionStart? line).isNone

/-- A block as it stands in a listing. -/
structure Passage where
  /-- The symbol of its `TEXT` line. -/
  name : String
  /-- The lines behind its `TEXT` line. -/
  body : List (List Char)

/-- The blocks of a listing: one for each line on which a block begins, up to the next blank line,
the next line on which a block begins, or the end. -/
def passages : List (List Char) → List Passage
  | [] => []
  | line :: lines =>
    match blockStart? line with
    | some name => ⟨name, lines.takeWhile goesOn⟩ :: passages lines
    | none => passages lines

/-- The symbol that a line calls. -/
def LineKind.callee? : LineKind → Option String
  | .callTarget name => some name
  | _ => none

/-- The numbers that are invoked by loads and invocations one after another, given the loads that
wait. -/
def invokedIds : Pending → List LineKind → List SyscallId
  | _, [] => []
  | pending, kind :: kinds =>
    match kind with
    | .loadCandidate id => invokedIds (pending.push id) kinds
    | .syscallInvocation => pending.invoke.1.toList ++ invokedIds pending.invoke.2 kinds
    | .functionStart _ | .callTarget _ | .ignored => invokedIds pending kinds

namespace Passage

/-- What the lines of a block say. -/
def kinds (registry : Registry) (wrappers : List String) (passage : Passage) : List LineKind :=
  passage.body.map (classify registry wrappers)

/-- The function of a block: its calls in order with repeats, and the first occurrences, in order,
of the numbers that its invocations get from its own loads. -/
def definition (registry : Registry) (wrappers : List String) (passage : Passage) :
    FunctionDef where
  name := passage.name
  callees := (passage.kinds registry wrappers).filterMap LineKind.callee?
  syscalls :=
    ⟨(invokedIds .empty (passage.kinds registry wrappers)).eraseDups, IdSet.nodup_eraseDups _⟩

end Passage

/-- The last block of a symbol that is not empty. -/
def lastPassage? (registry : Registry) (wrappers : List String) (lines : List (List Char))
    (name : String) : Option Passage :=
  ((passages lines).filter fun passage =>
    passage.name == name && !(passage.definition registry wrappers).isEmpty).getLast?

/-! ### Functions that are put into a table one after another -/

/-- Puts a function into a table, unless it is empty. -/
def keep (table : SymbolTable) (f : FunctionDef) : SymbolTable :=
  if f.isEmpty then table else table.insert f

theorem get?_keep (table : SymbolTable) (f : FunctionDef) (name : String) :
    (keep table f).get? name = if f.name == name && !f.isEmpty then some f
      else table.get? name := by
  unfold keep
  cases hf : f.isEmpty with
  | true => simp
  | false => simp [SymbolTable.get?_insert]

/-- Of the functions that are put into a table, the last one that is not empty counts. -/
theorem get?_foldl_keep (functions : List FunctionDef) (table : SymbolTable) (name : String) :
    (functions.foldl keep table).get? name =
      (functions.filter fun f => f.name == name && !f.isEmpty).getLast?.or (table.get? name) := by
  induction functions generalizing table with
  | nil => rfl
  | cons f functions ih =>
    rw [List.foldl_cons, ih, get?_keep, List.filter_cons]
    split
    · rw [List.getLast?_cons]
      cases (functions.filter fun f => f.name == name && !f.isEmpty).getLast? with
      | none => rfl
      | some last => rfl
    · rfl

/-- What has come of the blocks that have ended: the table, and what was counted on the way to
it. -/
structure Tally where
  /-- The functions that were put into the table. -/
  table : SymbolTable
  /-- Blocks. -/
  blocks : Nat
  /-- Blocks that were put into the table. -/
  kept : Nat
  /-- Blocks that took the place of an earlier one. -/
  replaced : Nat

namespace Tally

/-- Nothing has ended yet. -/
def start : Tally := ⟨.empty, 0, 0, 0⟩

/-- One more block has ended, with this function. -/
def record (tally : Tally) (f : FunctionDef) : Tally :=
  if f.isEmpty then { tally with blocks := tally.blocks + 1 }
  else
    { table := tally.table.insert f
      blocks := tally.blocks + 1
      kept := tally.kept + 1
      replaced := tally.replaced + if tally.table.contains f.name then 1 else 0 }

theorem table_record (tally : Tally) (f : FunctionDef) :
    (tally.record f).table = keep tally.table f := by
  unfold record keep
  split <;> rfl

theorem table_foldl_record (functions : List FunctionDef) (tally : Tally) :
    (functions.foldl record tally).table = functions.foldl keep tally.table := by
  induction functions generalizing tally with
  | nil => rfl
  | cons f functions ih => rw [List.foldl_cons, ih, table_record, List.foldl_cons]

end Tally

/-! ### One block -/

/-- A block after lines that belong to it. -/
def Block.feedAll (block : Block) (kinds : List LineKind) : Block :=
  kinds.foldl (fun block kind => (block.feed kind).1) block

/-- A block that is read line by line collects the calls and the numbers of its lines. -/
theorem Block.definition_feedAll (block : Block) (kinds : List LineKind) :
    (block.feedAll kinds).definition =
      { name := block.definition.name
        callees := block.definition.callees ++ kinds.filterMap LineKind.callee?
        syscalls := (invokedIds block.pending kinds).foldl IdSet.insert
          block.definition.syscalls } := by
  induction kinds generalizing block with
  | nil => simp [feedAll, invokedIds]
  | cons kind kinds ih =>
    rw [feedAll, List.foldl_cons, ← feedAll, ih, List.filterMap_cons]
    cases kind with
    | functionStart name => rfl
    | callTarget name => simp [feed, invokedIds, LineKind.callee?, FunctionDef.addCallee]
    | loadCandidate id => rfl
    | ignored => rfl
    | syscallInvocation =>
      obtain ⟨definition, ⟨waiting⟩⟩ := block
      -- Whether no number waits, or one, or more decides what the invocation gets.
      match waiting with
      | [] => rfl
      | [only] => rfl
      | _ :: number :: older => rfl

/-- The function of a block that is read from its first line to its last. -/
theorem Passage.definition_eq (registry : Registry) (wrappers : List String) (passage : Passage) :
    ((Block.start passage.name).feedAll (passage.kinds registry wrappers)).definition =
      passage.definition registry wrappers := by
  rw [Block.definition_feedAll]
  refine FunctionDef.mk.injEq .. ▸ ⟨rfl, List.nil_append _, ?_⟩
  rw [IdSet.mk.injEq]
  exact IdSet.toList_ofList _

/-! ### What is left to be put into the table -/

section Awaiting

variable (registry : Registry) (wrappers : List String) (block : Option Block)

/-- The functions that a reading has still to put into the table, given the open block and the lines
that are left: the function of the open block, and those of the blocks that begin on the lines. -/
def awaiting (lines : List (List Char)) : List FunctionDef :=
  (block.toList.map fun block =>
    (block.feedAll ((lines.takeWhile goesOn).map (classify registry wrappers))).definition) ++
  (passages lines).map (Passage.definition registry wrappers)

theorem awaiting_nil : awaiting registry wrappers block [] = block.toList.map (·.definition) := by
  simp [awaiting, passages, Block.feedAll]

/-- Before a blank line the open block is complete, and behind it none is open. -/
theorem awaiting_of_blank {line : List Char} (h : isEndOfBlock line = true)
    (lines : List (List Char)) : awaiting registry wrappers block (line :: lines) =
      block.toList.map (·.definition) ++ awaiting registry wrappers none lines := by
  have hgoes : goesOn line = false := by simp [goesOn, h]
  have hstart : blockStart? line = none := by simp [blockStart?, h]
  simp [awaiting, passages, hgoes, hstart, Block.feedAll]

/-- Before the first line of a block the open block is complete, and behind it the new one is
open. -/
theorem awaiting_of_start {line : List Char} {name : String} (h : blockStart? line = some name)
    (lines : List (List Char)) :
    awaiting registry wrappers block (line :: lines) =
      block.toList.map (·.definition) ++ awaiting registry wrappers (some (.start name)) lines := by
  obtain ⟨hblank, hstart⟩ : isEndOfBlock line = false ∧ functionStart? line = some name := by
    simpa [blockStart?] using h
  have hgoes : goesOn line = false := by simp [goesOn, hstart]
  have hdef := Passage.definition_eq registry wrappers ⟨name, lines.takeWhile goesOn⟩
  rw [Passage.kinds] at hdef
  simp only [awaiting, passages, h, hgoes, List.takeWhile_cons, Bool.false_eq_true, if_false,
    List.map_nil, List.map_cons, Option.toList_some, List.singleton_append, hdef]
  rfl

/-- Any other line is fed to the open block. -/
theorem awaiting_of_goesOn {line : List Char} (h : goesOn line = true) (lines : List (List Char)) :
    awaiting registry wrappers block (line :: lines) =
      awaiting registry wrappers (block.map fun block =>
        (block.feed (classify registry wrappers line)).1) lines := by
  have hstart : blockStart? line = none := by
    rw [goesOn, Bool.and_eq_true, Option.isNone_iff_eq_none] at h
    simp [blockStart?, h.2]
  cases block with
  | none => simp [awaiting, passages, hstart]
  | some block => simp [awaiting, passages, hstart, h, Block.feedAll]

end Awaiting

/-! ### The pass -/

namespace Reading

variable (registry : Registry) (wrappers : List String) (r : Reading)

/-- What has come of the blocks that have ended. -/
def tally : Tally := ⟨r.table, r.stats.blocks, r.stats.kept, r.stats.replaced⟩

theorem tally_record (f : FunctionDef) : (r.record f).tally = r.tally.record f := by
  unfold record Tally.record
  cases f.isEmpty with
  | true => rfl
  | false =>
    cases hc : r.table.contains f.name with
    | true => simp [tally, hc]
    | false => simp [tally, hc]

@[simp] theorem block_endBlock : r.endBlock.block = none := by
  unfold endBlock
  split
  · rfl
  · assumption

theorem tally_endBlock :
    r.endBlock.tally = (r.block.toList.map (·.definition)).foldl Tally.record r.tally := by
  unfold endBlock
  cases r.block with
  | none => rfl
  | some block => exact tally_record r block.definition

theorem tally_endBlock_lines (lines : Nat) :
    ({ r with stats := { r.stats with lines } } : Reading).endBlock.tally = r.endBlock.tally := by
  rw [tally_endBlock, tally_endBlock]
  rfl

/-! What one line does depends on which of three kinds it is of: blank, the beginning of a block, or
neither. -/

theorem readLine_of_blank {line : List Char} (h : isEndOfBlock line = true) :
    (r.readLine registry wrappers line).tally = r.endBlock.tally ∧
    (r.readLine registry wrappers line).block = none := by
  simp only [readLine, h, if_true, block_endBlock, and_true]
  exact tally_endBlock_lines r (r.stats.lines + 1)

theorem readLine_of_start {line : List Char} {name : String} (h : blockStart? line = some name) :
    (r.readLine registry wrappers line).tally = r.endBlock.tally ∧
    (r.readLine registry wrappers line).block = some (.start name) := by
  obtain ⟨hblank, hstart⟩ : isEndOfBlock line = false ∧ functionStart? line = some name := by
    simpa [blockStart?] using h
  have hkind : classify registry wrappers line = .functionStart name := classify_eq_iff.2 hstart
  cases hb : r.block with
  | none => simp [readLine, hblank, hb, hstart, endBlock, tally]
  | some block =>
    simp only [readLine, hblank, hb, hkind, Bool.false_eq_true, if_false, and_true]
    exact hb ▸ tally_endBlock_lines r (r.stats.lines + 1)

theorem readLine_of_goesOn {line : List Char} (h : goesOn line = true) :
    (r.readLine registry wrappers line).tally = r.tally ∧
    (r.readLine registry wrappers line).block =
      r.block.map fun block => (block.feed (classify registry wrappers line)).1 := by
  obtain ⟨hblank, hstart⟩ : isEndOfBlock line = false ∧ functionStart? line = none := by
    simpa [goesOn] using h
  cases hb : r.block with
  | none => simp [readLine, hblank, hb, hstart, tally]
  | some block =>
    have hkind (name : String) : classify registry wrappers line ≠ .functionStart name := by
      simp [classify_eq_iff, Decided, hstart]
    simp only [readLine, hblank, hb, Bool.false_eq_true, if_false, Option.map_some, tally, and_self]

/-- The function of the block that a line ends. -/
def ended (line : List Char) : List FunctionDef :=
  if goesOn line then [] else r.block.toList.map (·.definition)

/-- **A line** records what it ends, and leaves the rest for later. -/
theorem readLine_ended (line : List Char) :
    (r.readLine registry wrappers line).tally = (r.ended line).foldl Tally.record r.tally ∧
    ∀ lines, awaiting registry wrappers r.block (line :: lines) =
      r.ended line ++ awaiting registry wrappers
        (r.readLine registry wrappers line).block lines := by
  -- The three kinds of lines, as in the loop: each has a lemma for the pass and one for what is
  -- left.
  cases hblank : isEndOfBlock line with
  | true =>
    have hended : r.ended line = r.block.toList.map (·.definition) := by
      simp [ended, goesOn, hblank]
    obtain ⟨htally, hblock⟩ := r.readLine_of_blank registry wrappers hblank
    rw [htally, hblock, tally_endBlock, hended]
    exact ⟨rfl, awaiting_of_blank _ _ _ hblank⟩
  | false =>
    cases hstart : functionStart? line with
    | some name =>
      have hended : r.ended line = r.block.toList.map (·.definition) := by
        simp [ended, goesOn, hstart]
      have hb : blockStart? line = some name := by simp [blockStart?, hblank, hstart]
      obtain ⟨htally, hblock⟩ := r.readLine_of_start registry wrappers hb
      rw [htally, hblock, tally_endBlock, hended]
      exact ⟨rfl, awaiting_of_start _ _ _ hb⟩
    | none =>
      have hgoes : goesOn line = true := by simp [goesOn, hblank, hstart]
      have hended : r.ended line = [] := by simp [ended, hgoes]
      obtain ⟨htally, hblock⟩ := r.readLine_of_goesOn registry wrappers hgoes
      rw [htally, hblock, hended]
      exact ⟨rfl, awaiting_of_goesOn _ _ _ hgoes⟩

/-- **The pass** records the open block and the blocks of the lines, in order. -/
theorem tally_finish_readLines (lines : List (List UInt8)) :
    (r.readLines registry wrappers lines).finish.tally =
      (awaiting registry wrappers r.block (lines.map Text.lineText)).foldl Tally.record
        r.tally := by
  induction lines generalizing r with
  | nil =>
    rw [List.map_nil, awaiting_nil]
    exact r.tally_endBlock
  | cons line lines ih =>
    obtain ⟨htally, hrest⟩ := r.readLine_ended registry wrappers (Text.lineText line)
    rw [readLines, List.foldl_cons, ← readLines, ih, List.map_cons, hrest,
      List.foldl_append, htally]

end Reading

/-- What comes of a whole listing: its blocks are recorded one after another. -/
theorem tally_build (registry : Registry) (wrappers : List String) (bytes : List UInt8) :
    (build registry wrappers bytes).tally =
      (awaiting registry wrappers none ((Text.lines bytes).map Text.lineText)).foldl
        Tally.record .start :=
  Reading.tally_finish_readLines registry wrappers .start (Text.lines bytes)

/-- A symbol has the function of its last block that is not empty. -/
theorem get?_build (registry : Registry) (wrappers : List String) (bytes : List UInt8)
    (name : String) : (build registry wrappers bytes).table.get? name =
      (lastPassage? registry wrappers ((Text.lines bytes).map Text.lineText) name).map
        (Passage.definition registry wrappers) := by
  have htable := congrArg Tally.table (tally_build registry wrappers bytes)
  rw [Tally.table_foldl_record] at htable
  rw [show (build registry wrappers bytes).table = _ from htable, get?_foldl_keep]
  show Option.or (List.getLast? (List.filter _ (List.map _ _))) none = _
  rw [Option.or_none, List.filter_map, List.getLast?_map]
  rfl

/-- The last block of a symbol that is not empty stands behind no other one. -/
theorem lastPassage?_eq_some_iff {lines : List (List Char)} {name : String} {passage : Passage} :
    lastPassage? registry wrappers lines name = some passage ↔
      ∃ before after, passages lines = before ++ passage :: after ∧ passage.name = name ∧
        (passage.definition registry wrappers).isEmpty = false ∧
        ∀ later ∈ after, later.name = name →
          (later.definition registry wrappers).isEmpty = true := by
  rw [lastPassage?, List.getLast?_filter, List.find?_eq_some_iff_append]
  constructor
  · rintro ⟨hp, after, before, hsplit, hafter⟩
    rw [Bool.and_eq_true, beq_iff_eq, Bool.not_eq_true'] at hp
    refine ⟨before.reverse, after.reverse, ?_, hp.1, hp.2, fun later hlater hname => ?_⟩
    · rw [← List.reverse_reverse (passages lines), hsplit]
      simp
    · have hlast := hafter later (List.mem_reverse.1 hlater)
      simpa [hname] using hlast
  · rintro ⟨before, after, hsplit, hname, hkept, hafter⟩
    refine ⟨by simp [hname, hkept], after.reverse, before.reverse, by simp [hsplit],
      fun later hlater => ?_⟩
    by_cases hl : later.name = name
    · simp [hl, hafter later (List.mem_reverse.1 hlater) hl]
    · simp [hl]

theorem lastPassage?_eq_none_iff {lines : List (List Char)} {name : String} :
    lastPassage? registry wrappers lines name = none ↔
      ∀ passage ∈ passages lines, passage.name = name →
        (passage.definition registry wrappers).isEmpty = true := by
  simp [lastPassage?]

/-- **The table of a listing.** Cut the listing behind its line feeds, decode the lines, and drop
the carriage returns and line feeds at their ends. Then a symbol has the function of its last block
that is not empty, and it has none if there is no such block. A function's calls are those of its
block in order with repeats; its numbers are the first occurrences, in order, of what the
invocations of its block get from the loads of its block. -/
theorem table_of_blocks (registry : Registry) (wrappers : List String) (bytes : List UInt8)
    (name : String) : let blocks := passages ((Text.lines bytes).map Text.lineText)
    let table := (build registry wrappers bytes).table
    (∀ f, table.get? name = some f ↔
      ∃ before block after, blocks = before ++ block :: after ∧ block.name = name ∧
        f = block.definition registry wrappers ∧ f.isEmpty = false ∧
        ∀ later ∈ after, later.name = name → (later.definition registry wrappers).isEmpty = true) ∧
    (table.get? name = none ↔
      ∀ block ∈ blocks, block.name = name →
        (block.definition registry wrappers).isEmpty = true) := by
  intro blocks table
  refine ⟨fun f => ?_, ?_⟩
  · rw [get?_build, Option.map_eq_some_iff]
    constructor
    · rintro ⟨block, hlast, rfl⟩
      obtain ⟨before, after, hsplit, hname, hkept, hafter⟩ := lastPassage?_eq_some_iff.1 hlast
      exact ⟨before, block, after, hsplit, hname, rfl, hkept, hafter⟩
    · rintro ⟨before, block, after, hsplit, hname, rfl, hkept, hafter⟩
      exact ⟨block, lastPassage?_eq_some_iff.2 ⟨before, after, hsplit, hname, hkept, hafter⟩, rfl⟩
  · rw [get?_build, Option.map_eq_none_iff, lastPassage?_eq_none_iff]

/-- A block with calls and a system call; the later block of the same symbol is empty and does not
count. -/
example :
    (build ⟨#[⟨1, "write"⟩]⟩ ["syscall.Syscall"] (Text.Utf8.encode <|
      "TEXT main.main(SB)\n\tCALL main.a(SB)\n\tMOVQ $0x1, AX\n\tCALL syscall.Syscall(SB)\n" ++
      "\tCALL main.a(SB)\n\nTEXT main.main(SB)\n\tRET\n")).table.get? "main.main" =
      some ⟨"main.main", ["main.a", "main.a"], .ofList [1]⟩ := by
  decide +kernel

end Listing

end SyscallCensus
