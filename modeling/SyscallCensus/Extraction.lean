import SyscallCensus.Listing.Build
import SyscallCensus.Registry.LinuxX64
import SyscallCensus.Settings.Basic
import SyscallCensus.Source.Basic
import SyscallCensus.Walk.State

/-!
# Extraction

This module formalizes the contract `extract` of `SPEC_FULL.md`, Section 4.4 (Call Graph
Reachability Engine), with the taxonomy of Section 7 (Error handling design): errors "abort the run
and produce no partial result".

From a source to the system calls of the program: the listing is read into a symbol table, and the
call graph is walked from the entry points. An extraction succeeds only as a whole. What stops it
is, in this order: the source cannot be opened; it cannot be read to its end; none of the entry
points has a function; the walk was asked to stop.

Which schedule the walk goes by is left open as long as possible: `ofSourceBy` and the functions
that it uses take the walk as an argument, and `ofSource` makes it by the schedule of
`Walk.Session.walk`.
-/

namespace SyscallCensus

open Log (Event)

/-- Why an input is none that can be studied. -/
inductive Unsupported where
  /-- The executable is linked dynamically. -/
  | dynamicallyLinked (path : Path)
  /-- None of the entry points has a function. -/
  | noEntryPoint (entryPoints : List String)
  deriving DecidableEq, Repr

/-- The wording of a reason. -/
def Unsupported.message : Unsupported → String
  | .dynamicallyLinked path =>
    path.text ++ " is dynamically linked; only static executables are supported"
  | .noEntryPoint entryPoints =>
    "none of the entry points (" ++ String.intercalate ", " entryPoints ++
      ") was found; libraries are not supported"

/-- Why an extraction failed. -/
inductive ExtractError where
  /-- The listing cannot be had. -/
  | inputUnavailable (source : SourceError)
  /-- The input is none that can be studied. -/
  | unsupportedBinaryKind (reason : Unsupported)
  /-- The walk was asked to stop, after some results. -/
  | cancelled (delivered : Nat)
  deriving DecidableEq, Repr

namespace ExtractError

/-- The failure of an extraction whose source failed. -/
def ofSource : SourceError → ExtractError
  | .dynamicallyLinked path => .unsupportedBinaryKind (.dynamicallyLinked path)
  | e => .inputUnavailable e

/-- The wording of a failure. -/
def message : ExtractError → String
  | .inputUnavailable source => "Input unavailable: " ++ source.message
  | .unsupportedBinaryKind reason => "Unsupported binary kind: " ++ reason.message
  | .cancelled delivered => "Extraction cancelled after " ++ toString delivered ++ " result(s)"

/-- What a failure says and, behind it, what caused it. -/
def chain : ExtractError → List String
  | .inputUnavailable source => message (.inputUnavailable source) :: source.chain
  | e => [e.message]

end ExtractError

/-- What comes of an extraction. -/
structure Extraction where
  /-- The counters of the walk, or why the extraction failed. -/
  result : Except ExtractError Walk.Stats
  /-- The system calls that were handed over, also before a failure. -/
  delivered : List SystemCall
  /-- Whether further extractions are asked to stop. -/
  stop : Bool
  /-- The log. -/
  log : Array Event

namespace Extraction

/-- The system calls of an extraction that succeeded. -/
def calls (extraction : Extraction) : Except ExtractError (List SystemCall) :=
  extraction.result.map fun _ => extraction.delivered

/-- An extraction that failed before the walk. -/
def failed (error : ExtractError) (stop : Bool) (log : Array Event) : Extraction :=
  ⟨.error error, [], stop, log⟩

/-- What comes of a walk that is over. -/
def ofWalk : Walk.Outcome × Walk.Session → Extraction
  | (outcome, session) =>
    if outcome.stats.cancelled then
      ⟨.error (.cancelled outcome.stats.delivered), outcome.calls, session.stop, outcome.log⟩
    else
      ⟨.ok outcome.stats, outcome.calls, session.stop,
        outcome.log.push (.extracted outcome.stats.delivered outcome.stats.expanded)⟩

/-- The system calls of a table that was built already. The table is walked by `walk`. -/
def ofTableBy (walk : SymbolTable → Walk.Outcome × Walk.Session) (settings : Settings)
    (table : SymbolTable) (stop : Bool) : Extraction :=
  if settings.entryPoints.any table.contains then ofWalk (walk table)
  else failed (.unsupportedBinaryKind (.noEntryPoint settings.entryPoints)) stop #[]

/-- The system calls of a listing that is being read from an input. The table is walked by
`walk`. -/
def ofStreamBy (walk : SymbolTable → Walk.Outcome × Walk.Session) (settings : Settings)
    (path : Path) (stop : Bool) : Stream → Extraction
  | .broken bytes error =>
    failed (.ofSource (.ofIo path error)) stop
      (Listing.buildInterrupted .linuxX64 settings.wrappers bytes).log
  | .complete bytes =>
    let reading := Listing.build .linuxX64 settings.wrappers bytes
    let extraction := ofTableBy walk settings reading.table stop
    { extraction with
      log := reading.log.push (.tableReady path reading.table.size) ++ extraction.log }

/-- The system calls of a source. The table is walked by `walk`. -/
def ofSourceBy (walk : SymbolTable → Walk.Outcome × Walk.Session) (settings : Settings)
    (source : Source) (stop : Bool) : Extraction :=
  match source.opened with
  | .error e => failed (.ofSource e) stop source.log.toArray
  | .ok stream =>
    let extraction := ofStreamBy walk settings source.path stop stream
    { extraction with log := source.log.toArray ++ extraction.log }

/-- The walk of an extraction, from the chosen entry points. It is asked to stop from the beginning
where `stop` says so, and at its `stopAfter`-th call. -/
def walkFrom (settings : Settings) (stop : Bool) (stopAfter : Option Nat) (table : SymbolTable) :
    Walk.Outcome × Walk.Session :=
  (Walk.Session.start stop).walk table .linuxX64 settings.entryPoints stopAfter

/-- The system calls of a table that was built already. -/
def ofTable (settings : Settings) (table : SymbolTable) (stop : Bool) (stopAfter : Option Nat) :
    Extraction :=
  ofTableBy (walkFrom settings stop stopAfter) settings table stop

/-- The system calls of a source. The walk is asked to stop from the beginning where `stop` says
so. -/
def ofSource (settings : Settings) (source : Source) (stop : Bool) : Extraction :=
  ofSourceBy (walkFrom settings stop none) settings source stop

end Extraction

end SyscallCensus
