import Mathlib.Logic.Relation
import SyscallCensus.Walk.State

/-!
# Schedules

About `SPEC_FULL.md`, Section 5 (Concurrency & resource model).

`State.settle` runs a walk by one schedule. Here a walk may go on by any schedule: at each moment
any of its tasks makes its next step, or the consumer gets the oldest call of the channel, or
somebody asks the walk to stop.

* `State.Step` — one step of a walk under any schedule. The consumer may ask the walk to stop at any
  call it gets, and anybody else may at any time.
* `Session.Walks` — a walk from its start until no task is left and the channel is empty.
* `History` — walks one after another over one table, with what came of each. Between two walks, and
  before the first one, the flag may be raised.

The flag is never lowered (`State.Step.stop_mono`), so a flag that is down at the end was down all
the time. `Session.walks_walk` says that the schedule of `Session.walk` is one of them.
-/

namespace SyscallCensus.Walk

open Relation

variable {table : SymbolTable} {registry : Registry}

namespace State

/-- **A step of a walk** under any schedule. -/
inductive Step (table : SymbolTable) (registry : Registry) : State → State → Prop where
  /-- A task makes a step, wherever it stands among the others. -/
  | advance {s : State} {before after : List Task} {task : Task} :
      s.tasks = before ++ task :: after →
        Step table registry s (s.advance table registry before task after)
  /-- The consumer gets the oldest call of the channel, and asks the walk to stop if it waited for
  this one. -/
  | deliver {s : State} {call : SystemCall} {rest : List SystemCall} (stopAfter : Option Nat) :
      s.channel = call :: rest → Step table registry s (s.deliver stopAfter call rest)
  /-- Somebody else asks the walk to stop. -/
  | cancel {s : State} : Step table registry s { s with stop := true }

/-- No task is left, and whatever was sent was handed over. -/
def Over (s : State) : Prop := s.tasks = [] ∧ s.channel = []

/-- The walk goes from `s` to `s'` by some schedule. -/
abbrev Runs (table : SymbolTable) (registry : Registry) (s s' : State) : Prop :=
  ReflTransGen (Step table registry) s s'

theorem Step.stop_mono {s s' : State} (h : Step table registry s s') (hs : s.stop = true) :
    s'.stop = true := by
  cases h with
  | advance _ => exact hs
  | deliver stopAfter _ => simp [State.deliver, hs]
  | cancel => rfl

/-- What holds at the start of a run and is kept by every step holds at its end. -/
theorem Runs.invariant {P : State → Prop} (hstep : ∀ s s', Step table registry s s' → P s → P s')
    {s s' : State} (h : Runs table registry s s') (hs : P s) : P s' := by
  induction h with
  | refl => exact hs
  | tail _ hlast ih => exact hstep _ _ hlast ih

theorem Runs.stop_mono {s s' : State} (h : Runs table registry s s') (hs : s.stop = true) :
    s'.stop = true :=
  h.invariant (fun _ _ hstep => hstep.stop_mono) hs

/-- The schedule of `settle` is a schedule. -/
theorem settle_runs (table : SymbolTable) (registry : Registry) (stopAfter : Option Nat)
    (s : State) : Runs table registry s (s.settle table registry stopAfter) := by
  fun_induction settle table registry stopAfter s with
  | case1 s call rest hc _ ih => exact .head (.deliver stopAfter hc) ih
  | case2 s _ task after ht _ ih =>
    exact .head (b := s.advance table registry [] task after) (.advance ht) ih
  | case3 s _ _ => exact .refl

theorem settle_over (table : SymbolTable) (registry : Registry) (stopAfter : Option Nat)
    (s : State) : (s.settle table registry stopAfter).Over := by
  fun_induction settle table registry stopAfter s with
  | case1 _ _ _ _ _ ih => exact ih
  | case2 _ _ _ _ _ _ ih => exact ih
  | case3 s hc ht => exact ⟨ht, hc⟩

/-- The schedule of `settle` does not raise the flag, if the consumer does not. -/
theorem stop_settle (table : SymbolTable) (registry : Registry) (s : State) :
    (s.settle table registry none).stop = s.stop := by
  fun_induction settle table registry none s with
  | case1 s call rest _ _ ih =>
    rw [ih]
    simp [deliver]
  | case2 s _ task after _ _ ih => exact ih
  | case3 s _ _ => rfl

end State

/-- **A walk under any schedule**: from entry points, on the memory and the flag that the walks
before it have left, until it is over. -/
def Session.Walks (table : SymbolTable) (registry : Registry) (session : Session)
    (entries : List String) (outcome : Outcome) (session' : Session) : Prop :=
  ∃ final, State.Runs table registry (.start session.memory session.stop entries) final ∧
    final.Over ∧ outcome = final.outcome ∧ session' = final.session

/-- What `Session.walk` computes is a walk. -/
theorem Session.walks_walk (table : SymbolTable) (registry : Registry) (session : Session)
    (entries : List String) (stopAfter : Option Nat) :
    session.Walks table registry entries (session.walk table registry entries stopAfter).1
      (session.walk table registry entries stopAfter).2 :=
  ⟨_, State.settle_runs table registry stopAfter _,
    State.settle_over table registry stopAfter _, rfl, rfl⟩

theorem Session.Walks.stop_mono {session session' : Session} {entries : List String}
    {outcome : Outcome} (h : session.Walks table registry entries outcome session')
    (hs : session.stop = true) : session'.stop = true := by
  obtain ⟨final, hrun, -, -, rfl⟩ := h
  exact hrun.stop_mono hs

/-! ### Walks one after another -/

/-- A walk that was made: its entry points and what came of it. -/
structure Walked where
  /-- The entry points. -/
  entries : List String
  /-- What came of the walk. -/
  outcome : Outcome

/-- **Walks one after another** over one table, each under any schedule, oldest first; and what they
leave. The flag may be up or down before the first walk, and may be raised between two walks. -/
inductive History (table : SymbolTable) (registry : Registry) : List Walked → Session → Prop where
  /-- No walk was made. -/
  | start (stop : Bool) : History table registry [] (.start stop)
  /-- Somebody raises the flag when no walk is under way. -/
  | cancel {past : List Walked} {session : Session} :
      History table registry past session →
        History table registry past { session with stop := true }
  /-- One more walk is made. -/
  | walk {past : List Walked} {session session' : Session} {entries : List String}
      {outcome : Outcome} :
      History table registry past session → session.Walks table registry entries outcome session' →
        History table registry (past ++ [⟨entries, outcome⟩]) session'

/-- All entry points of walks. -/
def given (walks : List Walked) : List String := walks.flatMap (·.entries)

/-- The numbers of all calls that the consumers of walks got, oldest first. -/
def deliveredIds (walks : List Walked) : List SyscallId :=
  walks.flatMap fun walked => walked.outcome.calls.map (·.id)

@[simp] theorem given_nil : given [] = [] := rfl

@[simp] theorem given_concat (past : List Walked) (entries : List String) (outcome : Outcome) :
    given (past ++ [⟨entries, outcome⟩]) = given past ++ entries := by
  simp [given]

@[simp] theorem deliveredIds_nil : deliveredIds [] = [] := rfl

@[simp] theorem deliveredIds_concat (past : List Walked) (entries : List String)
    (outcome : Outcome) :
    deliveredIds (past ++ [⟨entries, outcome⟩]) =
      deliveredIds past ++ outcome.calls.map (·.id) := by
  simp [deliveredIds]

end SyscallCensus.Walk
