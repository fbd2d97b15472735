import SyscallCensus.Walk.Cost

/-!
# States of a walk

This module formalizes `SPEC_FULL.md`, Section 5 (Concurrency & resource model): tasks, the fan-in
channel and the cancellation signal.

A state holds the tasks that have not ended, what they share, the channel, and what was taken out of
the channel and handed to the consumer. Any task may make the next step (`State.advance`), and at
any time the oldest call in the channel may be handed over (`State.deliver`); an order in which that
happens is a schedule.

`State.settle` is one schedule to its end: whatever was sent is handed over at once, and otherwise
the first task of the list makes the next step. A task that was just started stands directly behind
the task that started it, so a task runs to its end, and after it the task that was started last.
-/

namespace SyscallCensus.Walk

open Log (Event)

/-- A walk under way. -/
structure State where
  /-- The tasks that have not ended. -/
  tasks : List Task
  /-- What the tasks share. -/
  memory : Memory
  /-- Whether the walk is asked to stop. -/
  stop : Bool
  /-- The calls that were sent and not handed over, oldest first. -/
  channel : List SystemCall
  /-- The calls that were handed over. -/
  delivered : Array SystemCall
  /-- The log so far. -/
  log : Array Event

namespace State

/-- The walk from a list of entry points before its first step. -/
def start (memory : Memory) (stop : Bool) (entries : List String) : State :=
  ⟨[.launch entries], memory, stop, [], #[], #[]⟩

/-- A task makes a step; it stands behind the tasks `before` and in front of the tasks `after`. -/
def advance (table : SymbolTable) (registry : Registry) (s : State) (before : List Task)
    (task : Task) (after : List Task) : State :=
  let effect := task.step table registry s.stop s.memory
  { s with
    tasks := before ++ effect.tasks ++ after
    memory := effect.memory
    channel := s.channel ++ effect.sent.toList
    log := s.log ++ effect.log.toList }

/-- The consumer gets the oldest call of the channel. It asks the walk to stop when this is the call
that it waited for. -/
def deliver (s : State) (stopAfter : Option Nat) (call : SystemCall) (rest : List SystemCall) :
    State :=
  { s with
    channel := rest
    delivered := s.delivered.push call
    stop := s.stop || stopAfter == some (s.delivered.size + 1) }

/-- A weight that every step lowers. -/
def weight (table : SymbolTable) (s : State) : Nat :=
  tasksCost s.tasks + tableCost table s.memory + s.channel.length

theorem weight_advance_lt (table : SymbolTable) (registry : Registry) {s : State}
    (before : List Task) {task : Task} {after : List Task} (h : s.tasks = before ++ task :: after) :
    (s.advance table registry before task after).weight table < s.weight table := by
  have hstep := task.step_cost table registry s.stop s.memory
  simp only [weight, advance, h, tasksCost_append, tasksCost_cons, List.length_append] at hstep ⊢
  omega

theorem weight_deliver_lt (table : SymbolTable) {s : State} (stopAfter : Option Nat)
    {call : SystemCall} {rest : List SystemCall} (h : s.channel = call :: rest) :
    (s.deliver stopAfter call rest).weight table < s.weight table := by
  simp [weight, deliver, h]

/-- Runs a walk to its end. -/
def settle (table : SymbolTable) (registry : Registry) (stopAfter : Option Nat) (s : State) :
    State :=
  match hc : s.channel with
  | call :: rest =>
    have := weight_deliver_lt table stopAfter hc
    settle table registry stopAfter (s.deliver stopAfter call rest)
  | [] =>
    match ht : s.tasks with
    | task :: after =>
      have := weight_advance_lt table registry [] ht
      settle table registry stopAfter (s.advance table registry [] task after)
    | [] => s
termination_by s.weight table

/-- The counters of a walk that is over. -/
def stats (s : State) : Stats :=
  ⟨s.memory.visited.size, s.memory.expanded, s.delivered.size, s.stop⟩

end State

/-! ### Walks one after another -/

/-- One table under study: the memory and the flag stay from one walk to the next. -/
structure Session where
  /-- What the walks so far have claimed. -/
  memory : Memory
  /-- Whether the walks are asked to stop. -/
  stop : Bool

/-- A walk that is over. -/
structure Outcome where
  /-- The calls in the order in which the consumer got them. -/
  calls : List SystemCall
  /-- The counters. -/
  stats : Stats
  /-- The log. -/
  log : Array Event

/-- What comes of a walk that is over. -/
def State.outcome (final : State) : Outcome :=
  ⟨final.delivered.toList, final.stats, final.log.push (.walkFinished final.stats)⟩

/-- What a walk that is over leaves to the next one. -/
def State.session (final : State) : Session := ⟨final.memory, final.stop⟩

namespace Session

/-- No walk was made. -/
def start (stop : Bool) : Session := ⟨.empty, stop⟩

/-- Makes a walk from entry points. The consumer asks it to stop when it gets its `stopAfter`-th
call. -/
def walk (table : SymbolTable) (registry : Registry) (session : Session) (entries : List String)
    (stopAfter : Option Nat) : Outcome × Session :=
  let final := (State.start session.memory session.stop entries).settle table registry stopAfter
  (final.outcome, final.session)

/-- Whether a symbol was met in a walk. -/
def hasVisited (session : Session) (name : String) : Bool := session.memory.visited.contains name

end Session

end SyscallCensus.Walk
