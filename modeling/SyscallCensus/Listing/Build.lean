import SyscallCensus.Graph.SymbolTable
import SyscallCensus.Listing.Line
import SyscallCensus.Listing.Pending
import SyscallCensus.Log.Event
import SyscallCensus.Text.Lines

/-!
# Reading a listing

This module formalizes `SPEC_FULL.md`, Section 4.3 (Symbol Table Builder): "a single forward scan of
the full line stream".

A listing is read line by line into a symbol table. A block begins on a `TEXT` line and ends before
the next one, before the next blank line, or at the end of the listing; lines outside of a block say
nothing. The calls of a block become the callees of its function. Its loads and invocations are
matched within the block: a number that waits when the block ends is forgotten.

Functions without calls and system calls are left out of the table. Of several functions with one
symbol the last one stays.
-/

namespace SyscallCensus.Listing

open Log (Event)

/-- What was counted while a listing was read. -/
structure BuildStats where
  /-- All lines. -/
  lines : Nat
  /-- Blocks. -/
  blocks : Nat
  /-- Blocks that were put into the table. -/
  kept : Nat
  /-- Blocks that took the place of an earlier one. -/
  replaced : Nat
  deriving DecidableEq, Repr, Inhabited

/-- A block that is being read. -/
structure Block where
  /-- What is known of the function. -/
  definition : FunctionDef
  /-- The loaded numbers that wait for an invocation. -/
  pending : Pending
  deriving DecidableEq, Repr

namespace Block

/-- The block that begins on a `TEXT` line. -/
def start (name : String) : Block := ⟨.blank name, .empty⟩

/-- The block after one more of its lines, and what the line is worth in the log. -/
def feed (block : Block) : LineKind → Block × List Event
  | .callTarget name => ({ block with definition := block.definition.addCallee name }, [])
  | .loadCandidate id => ({ block with pending := block.pending.push id }, [])
  | .syscallInvocation =>
    match block.pending.invoke with
    | (some id, pending) => (⟨block.definition.addSyscall id, pending⟩, [])
    | (none, _) => (block, [.unmatchedInvocation block.definition.name])
  | .functionStart _ | .ignored => (block, [])

end Block

/-- What has been read of a listing. -/
structure Reading where
  /-- The functions of the blocks that have ended. -/
  table : SymbolTable
  /-- The counters so far. -/
  stats : BuildStats
  /-- The block that has begun and not ended. -/
  block : Option Block
  /-- The log so far. -/
  log : Array Event

namespace Reading

/-- Nothing has been read. -/
def start : Reading := ⟨.empty, ⟨0, 0, 0, 0⟩, none, #[]⟩

/-- Puts the function of a block that has ended into the table, unless it is empty. -/
def record (r : Reading) (f : FunctionDef) : Reading :=
  let stats := { r.stats with blocks := r.stats.blocks + 1 }
  if f.isEmpty then { r with stats, log := r.log.push (.emptyFunction f.name) }
  else
    let log := r.log.push (.functionRead f.name f.callees.length f.syscalls.toList)
    let stats := { stats with kept := stats.kept + 1 }
    let table := r.table.insert f
    if r.table.contains f.name then
      { r with
        table, stats := { stats with replaced := stats.replaced + 1 }
        log := log.push (.duplicateFunction f.name) }
    else { r with table, stats, log }

/-- Ends the block that is being read, if there is one. -/
def endBlock (r : Reading) : Reading :=
  match r.block with
  | some block => { r.record block.definition with block := none }
  | none => r

/-- Reads one line. -/
def readLine (registry : Registry) (wrappers : List String) (r : Reading) (line : List Char) :
    Reading :=
  let r := { r with stats := { r.stats with lines := r.stats.lines + 1 } }
  if isEndOfBlock line then r.endBlock
  else match r.block with
    | none =>
      match functionStart? line with
      | some name => { r with block := some (.start name) }
      | none => r
    | some block =>
      match classify registry wrappers line with
      | .functionStart name => { r.endBlock with block := some (.start name) }
      | kind => { r with block := some (block.feed kind).1, log := r.log ++ (block.feed kind).2 }

/-- Reads lines one after another. -/
def readLines (registry : Registry) (wrappers : List String) (r : Reading)
    (lines : List (List UInt8)) : Reading :=
  lines.foldl (fun r line => r.readLine registry wrappers (Text.lineText line)) r

/-- Ends the reading: the last block ends with the listing. -/
def finish (r : Reading) : Reading :=
  let r := r.endBlock
  { r with log := r.log.push (.tableBuilt r.stats.lines r.stats.blocks r.stats.kept) }

end Reading

/-- Reads a whole listing. -/
def build (registry : Registry) (wrappers : List String) (bytes : List UInt8) : Reading :=
  (Reading.start.readLines registry wrappers (Text.lines bytes)).finish

/-- Reads the beginning of a listing of which the rest cannot be read: the last line counts only if
it is complete, and the block that is being read does not end. -/
def buildInterrupted (registry : Registry) (wrappers : List String) (bytes : List UInt8) :
    Reading :=
  Reading.start.readLines registry wrappers (Text.completeLines bytes)

end SyscallCensus.Listing
