/-!
# Counters of a walk

What the engine of `SPEC_FULL.md`, Section 4.4 (Call Graph Reachability Engine), counts.
-/

namespace SyscallCensus.Walk

/-- What a walk reports when it is over. -/
structure Stats where
  /-- The symbols met so far, over all walks; symbols without a function count. -/
  visited : Nat
  /-- The functions followed so far, over all walks. -/
  expanded : Nat
  /-- The system calls handed over in this walk. -/
  delivered : Nat
  /-- Whether the walk was asked to stop. -/
  cancelled : Bool
  deriving DecidableEq, Repr, Inhabited

end SyscallCensus.Walk
