import SyscallCensus.Proofs.Moves

/-!
# Who started whom

About `SPEC_FULL.md`, Section 5: what is spawned below what.

The tasks of a walk do not know which task has started them, and the channel does not tell which
task a call came from. Here a walk is followed with a record beside it (`Chronicle`): each task
stands there together with its line, the functions whose tasks have led to it; each number that was
sent stands there with the function and the line of the task that sent it; and the symbols for which
tasks were started are listed.

The record has no say in what happens. Every walk has one, whatever its schedule
(`Chronicle.exists_runs`), and what a record tells is a walk (`Chronicle.Runs.state_runs`).

`Task.Turn` lists once more what a step of a task can do, now with a view to which task goes on and
which one is new: beside `Task.Move`, which only looks at what lies before all of them together.
What every turn keeps holds in the whole record (`Chronicle.Runs.keeps`).
-/

namespace SyscallCensus.Walk

open Relation

variable {table : SymbolTable} {registry : Registry}

/-! ### Turns -/

namespace Task

/-- The symbol that a task has claimed. -/
def holder? : Task → Option String
  | launch _ | seed _ _ | enter _ => none
  | claim name _ _ | send name _ _ _ | poll name _ | check name _ _ | spawn name _ _ => some name

/-- The symbol of a task that was started and has not made a step. -/
def entering? : Task → Option String
  | enter name => some name
  | _ => none

/-- The symbols for which a task may still start tasks. -/
def toStart : Task → List String
  | enter _ => []
  | task => task.ahead

@[simp] theorem holder?_enter (name : String) : (enter name).holder? = none := rfl

@[simp] theorem entering?_enter (name : String) : (enter name).entering? = some name := rfl

/-- A task goes on as `next`: it has no numbers before it, neither now nor then. -/
structure GoesOnAs (task next : Task) : Prop where
  /-- It had to claim no number. -/
  owed : task.owed = []
  /-- It had no number to send. -/
  unsent : task.unsent = []
  /-- It has to claim no number. -/
  next_owed : next.owed = []
  /-- It has no number to send. -/
  next_unsent : next.unsent = []
  /-- It has claimed the same symbol. -/
  holder : next.holder? = task.holder?
  /-- It is no new task. -/
  entering : next.entering? = none

/-- **What a step of a task can do**, in terms of who goes on and who is new. -/
inductive Turn (table : SymbolTable) (registry : Registry) (memory : Memory) :
    Task → Effect → Prop where
  /-- The task ends, and has nothing to send. -/
  | finish {task : Task} : task.unsent = [] →
      Turn table registry memory task ⟨[], memory, none, none⟩
  /-- The task goes on, and starts no other one. -/
  | goOn {task next : Task} :
      task.GoesOnAs next → next.toStart.length ≤ task.toStart.length →
        Turn table registry memory task ⟨[next], memory, none, none⟩
  /-- The task goes on, and has started another one. -/
  | start {task next : Task} {name : String} :
      task.GoesOnAs next → task.toStart = name :: next.toStart →
        Turn table registry memory task ⟨[next, enter name], memory, none, none⟩
  /-- A number that was claimed already is passed over. -/
  | pass {name : String} {id : SyscallId} {ids : List SyscallId} {callees : List String} :
      id ∈ memory.claimed →
        Turn table registry memory (claim name (id :: ids) callees)
          ⟨[claim name ids callees], memory, none, none⟩
  /-- A number is claimed. -/
  | take {name : String} {id : SyscallId} {ids : List SyscallId} {callees : List String} :
      id ∉ memory.claimed →
        Turn table registry memory (claim name (id :: ids) callees)
          ⟨[send name id ids callees], { memory with claimed := memory.claimed.insert id }, none,
            none⟩
  /-- A number is sent. -/
  | send {name : String} {id : SyscallId} {ids : List SyscallId} {callees : List String} :
      Turn table registry memory (send name id ids callees)
        ⟨[claim name ids callees], memory, some (registry.label id), none⟩
  /-- A symbol without a function is claimed, and the task ends. -/
  | leaf {name : String} :
      name ∉ memory.visited → table.get? name = none →
        Turn table registry memory (enter name)
          ⟨[], { memory with visited := memory.visited.insert name }, none, none⟩
  /-- The symbol of a function is claimed. -/
  | expand {name : String} {f : FunctionDef} :
      name ∉ memory.visited → table.get? name = some f →
        Turn table registry memory (enter name)
          ⟨[claim name f.syscalls.toList f.callees],
            { memory with visited := memory.visited.insert name, expanded := memory.expanded + 1 },
            none, some (.expanding name)⟩

/-- Every step of a task is one of the turns. -/
theorem step_turn (table : SymbolTable) (registry : Registry) (stop : Bool) (memory : Memory)
    (task : Task) : Turn table registry memory task (task.step table registry stop memory) := by
  cases task with
  | launch entries =>
    cases entries with
    | nil => exact .finish rfl
    | cons entry entries =>
      cases stop with
      | true => exact .finish rfl
      | false => exact .goOn ⟨rfl, rfl, rfl, rfl, rfl, rfl⟩ (Nat.le_refl _)
  | seed entry entries => exact .start ⟨rfl, rfl, rfl, rfl, rfl, rfl⟩ rfl
  | enter name =>
    simp only [step]
    by_cases hv : memory.visited.contains name = true
    · rw [if_pos hv]
      exact .finish rfl
    · rw [if_neg hv]
      cases hget : table.get? name with
      | none => exact .leaf hv hget
      | some f => exact .expand hv hget
  | claim name ids callees =>
    cases ids with
    | nil => exact .goOn ⟨rfl, rfl, rfl, rfl, rfl, rfl⟩ (Nat.le_refl _)
    | cons id ids =>
      simp only [step]
      by_cases hc : memory.claimed.contains id = true
      · rw [if_pos hc]
        exact .pass hc
      · rw [if_neg hc]
        exact .take hc
  | send name id ids callees => exact .send
  | poll name callees =>
    cases callees with
    | nil => exact .finish rfl
    | cons callee callees =>
      cases stop with
      | true => exact .finish rfl
      | false => exact .goOn ⟨rfl, rfl, rfl, rfl, rfl, rfl⟩ (Nat.le_refl _)
  | check name callee callees =>
    simp only [step]
    by_cases hv : memory.visited.contains callee = true
    · rw [if_pos hv]
      exact .goOn ⟨rfl, rfl, rfl, rfl, rfl, rfl⟩ (Nat.le_succ _)
    · rw [if_neg hv]
      exact .goOn ⟨rfl, rfl, rfl, rfl, rfl, rfl⟩ (Nat.le_refl _)
  | spawn name callee callees => exact .start ⟨rfl, rfl, rfl, rfl, rfl, rfl⟩ rfl

end Task

/-! ### Tasks and their lines -/

/-- A number that was sent, or is about to be. -/
structure Sending where
  /-- The function whose task sends it. -/
  sender : String
  /-- The line of that task. -/
  line : List String
  /-- The number. -/
  id : SyscallId
  deriving DecidableEq, Repr

/-- A task and where it comes from. -/
structure Member where
  /-- The task. -/
  task : Task
  /-- Its line: the function whose task has started it, before that the one whose task has started
  that task, and so on. The line of the task of an entry point is empty. -/
  line : List String
  deriving DecidableEq, Repr

namespace Member

/-- A task that stands in the place of this one after a step: a new one, which is next in line, or
this one itself. -/
def successor (m : Member) (task : Task) : Member :=
  ⟨task, if task.entering?.isSome then m.task.holder?.toList ++ m.line else m.line⟩

/-- What a task sends with its next step. -/
def upcoming (m : Member) : List Sending :=
  match m.task with
  | .send name id _ _ => [⟨name, m.line, id⟩]
  | _ => []

theorem successor_of_entering?_eq_none (m : Member) {task : Task} (h : task.entering? = none) :
    m.successor task = ⟨task, m.line⟩ := by
  rw [successor, h]
  rfl

@[simp] theorem successor_enter (m : Member) (name : String) :
    m.successor (.enter name) = ⟨.enter name, m.task.holder?.toList ++ m.line⟩ := rfl

@[simp] theorem map_task_successor (m : Member) (tasks : List Task) :
    (tasks.map m.successor).map (·.task) = tasks := by
  rw [List.map_map]
  exact List.map_id tasks

theorem map_id_upcoming (m : Member) : m.upcoming.map (·.id) = m.task.unsent := by
  obtain ⟨task, line⟩ := m
  cases task <;> rfl

theorem upcoming_eq_nil_or_singleton (m : Member) :
    m.upcoming = [] ∨ ∃ sending, m.upcoming = [sending] := by
  obtain ⟨task, line⟩ := m
  cases task with
  | send name id _ _ => exact .inr ⟨⟨name, line, id⟩, rfl⟩
  | _ => exact .inl rfl

theorem line_of_mem_upcoming {m : Member} {sending : Sending} (h : sending ∈ m.upcoming) :
    m.task.holder? = some sending.sender ∧ m.line = sending.line ∧ sending.id ∈ m.task.unsent := by
  obtain ⟨task, line⟩ := m
  cases task with
  | send name id ids callees =>
    obtain rfl : sending = ⟨name, line, id⟩ := by simpa [upcoming] using h
    simp [Task.holder?, Task.unsent]
  | _ => simp [upcoming] at h

theorem sent_of_turn {m : Member} {memory : Memory} {effect : Effect}
    (hturn : m.task.Turn table registry memory effect) :
    effect.sent.toList.map (·.id) = m.upcoming.map (·.id) := by
  rw [m.map_id_upcoming]
  obtain ⟨task, line⟩ := m
  cases hturn with
  | finish hunsent => exact hunsent.symm
  | goOn hgoes _ => exact hgoes.unsent.symm
  | start hgoes _ => exact hgoes.unsent.symm
  | _ => rfl

end Member

/-! ### Records of walks -/

/-- **A walk under way, and the record of it.** -/
structure Chronicle where
  /-- The walk. -/
  state : State
  /-- Its tasks, each with its line. -/
  members : List Member
  /-- What was sent, oldest first. -/
  sendings : List Sending
  /-- The symbols for which tasks were started, oldest first. -/
  started : List String

namespace Chronicle

/-- The record of a walk before its first step. -/
def start (memory : Memory) (stop : Bool) (entries : List String) : Chronicle :=
  ⟨.start memory stop entries, [⟨.launch entries, []⟩], [], []⟩

/-- A task had an effect; it stands behind the tasks `before` and in front of the tasks `after`. -/
def turned (c : Chronicle) (before : List Member) (m : Member) (after : List Member)
    (effect : Effect) : Chronicle where
  state :=
    { c.state with
      tasks := before.map (·.task) ++ effect.tasks ++ after.map (·.task)
      memory := effect.memory
      channel := c.state.channel ++ effect.sent.toList
      log := c.state.log ++ effect.log.toList }
  members := before ++ effect.tasks.map m.successor ++ after
  sendings := c.sendings ++ m.upcoming
  started := c.started ++ effect.tasks.filterMap Task.entering?

/-- A task makes a step. -/
def advance (table : SymbolTable) (registry : Registry) (c : Chronicle) (before : List Member)
    (m : Member) (after : List Member) : Chronicle :=
  c.turned before m after (m.task.step table registry c.state.stop c.state.memory)

/-- **A step of a walk** under any schedule, with the record of it. -/
inductive Step (table : SymbolTable) (registry : Registry) : Chronicle → Chronicle → Prop where
  /-- A task makes a step, wherever it stands among the others. -/
  | advance {c : Chronicle} {before after : List Member} {m : Member} :
      c.members = before ++ m :: after →
        Step table registry c (c.advance table registry before m after)
  /-- The consumer gets the oldest call of the channel, and asks the walk to stop if it waited for
  this one. -/
  | deliver {c : Chronicle} {call : SystemCall} {rest : List SystemCall} (stopAfter : Option Nat) :
      c.state.channel = call :: rest →
        Step table registry c { c with state := c.state.deliver stopAfter call rest }
  /-- Somebody else asks the walk to stop. -/
  | cancel {c : Chronicle} : Step table registry c { c with state := { c.state with stop := true } }

/-- The walk goes on from `c` to `c'` by some schedule. -/
abbrev Runs (table : SymbolTable) (registry : Registry) (c c' : Chronicle) : Prop :=
  ReflTransGen (Step table registry) c c'

/-- The walk goes on by a given schedule: at each moment the task at a place among the others makes
a step, or else the consumer, who never asks the walk to stop, gets a call. Where there is no such
task or no call, nothing happens. -/
def follow (table : SymbolTable) (registry : Registry) (c : Chronicle) :
    List (Option Nat) → Chronicle
  | [] => c
  | some place :: moments =>
    match c.members.drop place with
    | [] => c.follow table registry moments
    | m :: after =>
      (c.advance table registry (c.members.take place) m after).follow table registry moments
  | none :: moments =>
    match c.state.channel with
    | [] => c.follow table registry moments
    | call :: rest =>
      Chronicle.follow table registry { c with state := c.state.deliver none call rest } moments

theorem runs_follow (table : SymbolTable) (registry : Registry) (c : Chronicle)
    (moments : List (Option Nat)) : Runs table registry c (c.follow table registry moments) := by
  fun_induction follow table registry c moments with
  | case1 c => exact .refl
  | case2 _ _ _ _ ih => exact ih
  | case3 c place moments m after hdrop ih =>
    refine .head (.advance ?_) ih
    rw [← hdrop, List.take_append_drop]
  | case4 _ _ _ ih => exact ih
  | case5 c moments call rest hchannel ih => exact .head (.deliver none hchannel) ih

/-- The record is one of the walk: it has the same tasks, and the same numbers were sent. -/
structure Matches (c : Chronicle) : Prop where
  /-- The tasks are those of the walk. -/
  tasks : c.members.map (·.task) = c.state.tasks
  /-- What was sent is what was sent in the walk. -/
  sent : c.sendings.map (·.id) = c.state.sent.map (·.id)

theorem Matches.start (memory : Memory) (stop : Bool) (entries : List String) :
    (Chronicle.start memory stop entries).Matches :=
  ⟨rfl, rfl⟩

/-- A step of a recorded walk is a step of the walk, and the record keeps to it. -/
theorem Step.state_step {c c' : Chronicle} (h : Step table registry c c') (hc : c.Matches) :
    State.Step table registry c.state c'.state ∧ c'.Matches := by
  cases h with
  | @advance before after m hm =>
    have htasks : c.state.tasks = before.map (·.task) ++ m.task :: after.map (·.task) := by
      rw [← hc.tasks, hm, List.map_append, List.map_cons]
    refine ⟨.advance htasks, ⟨?_, ?_⟩⟩
    · rw [Chronicle.advance, turned, List.map_append, List.map_append, Member.map_task_successor]
    · have hsent : (c.advance table registry before m after).state.sent =
          c.state.sent ++ (m.task.step table registry c.state.stop c.state.memory).sent.toList :=
        State.sent_advance c.state (before.map (·.task)) m.task (after.map (·.task))
      rw [hsent, List.map_append, Member.sent_of_turn (m.task.step_turn table registry _ _),
        ← hc.sent, ← List.map_append]
      rfl
  | @deliver call rest stopAfter hchannel =>
    refine ⟨.deliver stopAfter hchannel, hc.tasks, ?_⟩
    rw [State.sent_deliver stopAfter hchannel]
    exact hc.sent
  | cancel => exact ⟨.cancel, hc.tasks, hc.sent⟩

/-- What a record tells is a walk. -/
theorem Runs.state_runs {c c' : Chronicle} (h : Runs table registry c c') (hc : c.Matches) :
    State.Runs table registry c.state c'.state ∧ c'.Matches := by
  induction h with
  | refl => exact ⟨.refl, hc⟩
  | tail _ hlast ih =>
    obtain ⟨hstep, hmatches⟩ := hlast.state_step ih.2
    exact ⟨ih.1.tail hstep, hmatches⟩

/-- Every step of a walk can be recorded. -/
theorem exists_step {c : Chronicle} (hc : c.Matches) {s : State}
    (h : State.Step table registry c.state s) : ∃ c', Step table registry c c' ∧ c'.state = s := by
  cases h with
  | @advance before after task htasks =>
    rw [← hc.tasks, List.map_eq_append_iff] at htasks
    obtain ⟨before, rest, hmembers, rfl, hrest⟩ := htasks
    obtain ⟨m, after, rfl, rfl, rfl⟩ := List.map_eq_cons_iff.1 hrest
    exact ⟨_, .advance hmembers, rfl⟩
  | deliver stopAfter hchannel => exact ⟨_, .deliver stopAfter hchannel, rfl⟩
  | cancel => exact ⟨_, .cancel, rfl⟩

/-- **Every walk has a record**, whatever its schedule. -/
theorem exists_runs {c : Chronicle} (hc : c.Matches) {s : State}
    (h : State.Runs table registry c.state s) : ∃ c', Runs table registry c c' ∧ c'.state = s := by
  induction h with
  | refl => exact ⟨c, .refl, rfl⟩
  | tail _ hlast ih =>
    obtain ⟨c', hrun, rfl⟩ := ih
    obtain ⟨c'', hstep, hstate⟩ := exists_step (hrun.state_runs hc).2 hlast
    exact ⟨c'', hrun.tail hstep, hstate⟩

/-- What every turn keeps, whatever becomes of the flag, the channel and the consumer, holds in the
whole record. -/
theorem Runs.keeps {P : Chronicle → Prop}
    (hturn : ∀ {c : Chronicle} {before after : List Member} {m : Member} {effect : Effect},
      c.members = before ++ m :: after →
        m.task.Move table registry c.state.stop c.state.memory effect →
        m.task.Turn table registry c.state.memory effect → P c → P (c.turned before m after effect))
    (hframe : ∀ {c : Chronicle} {s : State}, s.memory = c.state.memory → s.log = c.state.log → P c →
      P { c with state := s })
    {c c' : Chronicle} (h : Runs table registry c c') (hc : P c) : P c' := by
  induction h with
  | refl => exact hc
  | tail _ hlast ih =>
    cases hlast with
    | advance hm =>
      exact hturn hm (Task.step_move table registry _ _ _) (Task.step_turn table registry _ _ _) ih
    | deliver stopAfter _ => exact hframe rfl rfl ih
    | cancel => exact hframe rfl rfl ih

end Chronicle

end SyscallCensus.Walk
