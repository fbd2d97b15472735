import SyscallCensus.Proofs.Schedule

/-!
# Moves

About `SPEC_FULL.md`, Section 4.4 (Call Graph Reachability Engine), step by step.

What a step of a walk can do, said once. A task is looked at through what it has before it: the
numbers that it owes (`Task.owed`), the number that it has claimed and not sent (`Task.unsent`), and
the symbols that it has still to see to (`Task.ahead`). `Task.Move` lists what one step does to
these and to the memory, and `Task.step_move` says that the list is complete.

A property of memory, tasks and sent calls that every move keeps is `Kept`. Such a property goes
from the start of a walk to its end, whatever the schedule (`Kept.walks`). The list of moves leaves
open how many tasks stand in the place of one that hands on what it has; a property that depends on
that is `KeptBySteps`.
-/

namespace SyscallCensus.Walk

variable {table : SymbolTable} {registry : Registry}

theorem mem_insert_iff {α : Type} [Ord α] [Std.TransOrd α] [Std.LawfulEqOrd α]
    (elements : Std.TreeSet α) (element other : α) :
    other ∈ elements.insert element ↔ other = element ∨ other ∈ elements := by
  rw [Std.TreeSet.mem_insert, Std.LawfulEqCmp.compare_eq_iff_eq, eq_comm]

/-! ### What the tasks have before them -/

namespace Task

/-- The numbers that a task still has to claim. -/
def owed : Task → List SyscallId
  | claim _ ids _ => ids
  | send _ _ ids _ => ids
  | _ => []

/-- The number that a task has claimed and not sent. -/
def unsent : Task → List SyscallId
  | send _ id _ _ => [id]
  | _ => []

/-- The symbols that a task still has to claim, or to start tasks for. -/
def ahead : Task → List String
  | launch entries => entries
  | seed entry entries => entry :: entries
  | enter name => [name]
  | claim _ _ callees => callees
  | send _ _ _ callees => callees
  | poll _ callees => callees
  | check _ callee callees => callee :: callees
  | spawn _ callee callees => callee :: callees

/-- **What a step of a task can do**, in terms of what the tasks have before them. -/
inductive Move (table : SymbolTable) (registry : Registry) (stop : Bool) (memory : Memory) :
    Task → Effect → Prop where
  /-- Nothing is claimed and nothing is sent. The task may drop symbols that were claimed already;
  any others it drops only if it is asked to stop. -/
  | idle {task : Task} {tasks : List Task} :
      tasks.flatMap owed = task.owed → tasks.flatMap unsent = task.unsent →
        (∀ name ∈ tasks.flatMap ahead, name ∈ task.ahead) →
        (stop = false → ∀ name ∈ task.ahead, name ∈ tasks.flatMap ahead ∨ name ∈ memory.visited) →
        Move table registry stop memory task ⟨tasks, memory, none, none⟩
  /-- A number that was claimed already is passed over. -/
  | pass {name : String} {id : SyscallId} {ids : List SyscallId} {callees : List String} :
      id ∈ memory.claimed →
        Move table registry stop memory (claim name (id :: ids) callees)
          ⟨[claim name ids callees], memory, none, none⟩
  /-- A number is claimed. -/
  | take {name : String} {id : SyscallId} {ids : List SyscallId} {callees : List String} :
      id ∉ memory.claimed →
        Move table registry stop memory (claim name (id :: ids) callees)
          ⟨[send name id ids callees], { memory with claimed := memory.claimed.insert id }, none,
            none⟩
  /-- A number is sent. -/
  | send {name : String} {id : SyscallId} {ids : List SyscallId} {callees : List String} :
      Move table registry stop memory (send name id ids callees)
        ⟨[claim name ids callees], memory, some (registry.label id), none⟩
  /-- A symbol without a function is claimed. -/
  | leaf {name : String} :
      name ∉ memory.visited → table.get? name = none →
        Move table registry stop memory (enter name)
          ⟨[], { memory with visited := memory.visited.insert name }, none, none⟩
  /-- The symbol of a function is claimed. -/
  | expand {name : String} {f : FunctionDef} :
      name ∉ memory.visited → table.get? name = some f →
        Move table registry stop memory (enter name)
          ⟨[claim name f.syscalls.toList f.callees],
            { memory with visited := memory.visited.insert name, expanded := memory.expanded + 1 },
            none, some (.expanding name)⟩

theorem Move.handOn {stop : Bool} {memory : Memory} {task : Task} {tasks : List Task}
    (howed : tasks.flatMap owed = task.owed) (hunsent : tasks.flatMap unsent = task.unsent)
    (hahead : ∀ name, name ∈ tasks.flatMap ahead ↔ name ∈ task.ahead) :
    Move table registry stop memory task ⟨tasks, memory, none, none⟩ :=
  .idle howed hunsent (fun name => (hahead name).1) fun _ name hname => .inl ((hahead name).2 hname)

/-- Every step of a task is one of the moves. -/
theorem step_move (table : SymbolTable) (registry : Registry) (stop : Bool) (memory : Memory)
    (task : Task) :
    Move table registry stop memory task (task.step table registry stop memory) := by
  cases task with
  | launch entries =>
    cases entries with
    | nil => exact .handOn rfl rfl (by simp [ahead])
    | cons entry entries =>
      cases stop with
      | true => exact .idle rfl rfl (by simp) (by simp)
      | false => exact .handOn rfl rfl (by simp [ahead])
  | seed entry entries => exact .handOn rfl rfl (by simp [ahead, or_comm])
  | enter name =>
    simp only [step]
    by_cases hv : memory.visited.contains name = true
    · rw [if_pos hv]
      refine .idle rfl rfl (by simp) fun _ other hother => .inr ?_
      rw [ahead, List.mem_singleton] at hother
      exact hother ▸ hv
    · rw [if_neg hv]
      cases hget : table.get? name with
      | none => exact .leaf hv hget
      | some f => exact .expand hv hget
  | claim name ids callees =>
    cases ids with
    | nil => exact .handOn rfl rfl (by simp [ahead])
    | cons id ids =>
      simp only [step]
      by_cases hc : memory.claimed.contains id = true
      · rw [if_pos hc]
        exact .pass hc
      · rw [if_neg hc]
        exact .take hc
  | send name id ids callees => exact .send
  | poll name callees =>
    cases callees with
    | nil => exact .handOn rfl rfl (by simp [ahead])
    | cons callee callees =>
      cases stop with
      | true => exact .idle rfl rfl (by simp) (by simp)
      | false => exact .handOn rfl rfl (by simp [ahead])
  | check name callee callees =>
    simp only [step]
    by_cases hv : memory.visited.contains callee = true
    · rw [if_pos hv]
      refine .idle rfl rfl (by simp +contextual [ahead]) fun _ other hother => ?_
      rcases List.mem_cons.1 hother with rfl | hother
      · exact .inr hv
      · exact .inl (by simpa [ahead] using hother)
    · rw [if_neg hv]
      exact .handOn rfl rfl (by simp [ahead])
  | spawn name callee callees => exact .handOn rfl rfl (by simp [ahead, or_comm])

end Task

/-! ### What every move keeps -/

/-- The calls that were sent in a walk so far, oldest first. -/
def State.sent (s : State) : List SystemCall := s.delivered.toList ++ s.channel

theorem State.sent_advance (s : State) (before : List Task) (task : Task) (after : List Task) :
    (s.advance table registry before task after).sent =
      s.sent ++ (task.step table registry s.stop s.memory).sent.toList := by
  simp [sent, advance]

theorem State.sent_deliver {s : State} {call : SystemCall} {rest : List SystemCall}
    (stopAfter : Option Nat) (h : s.channel = call :: rest) :
    (s.deliver stopAfter call rest).sent = s.sent := by
  simp [sent, deliver, h]

/-- **A property that steps keep**: one of the flag, the memory, the tasks and the calls that were
sent. Every step of a task keeps it, wherever the task stands, and so does a raise of the flag.
Handing over a call changes none of the four. -/
structure KeptBySteps (table : SymbolTable) (registry : Registry)
    (P : Bool → Memory → List Task → List SystemCall → Prop) : Prop where
  /-- A step of a task keeps it. -/
  step : ∀ {stop : Bool} {memory : Memory} {before after : List Task} {task : Task}
    {sent : List SystemCall},
    P stop memory (before ++ task :: after) sent →
      P stop (task.step table registry stop memory).memory
        (before ++ (task.step table registry stop memory).tasks ++ after)
        (sent ++ (task.step table registry stop memory).sent.toList)
  /-- A raise of the flag keeps it. -/
  raise : ∀ {stop : Bool} {memory : Memory} {tasks : List Task} {sent : List SystemCall},
    P stop memory tasks sent → P true memory tasks sent

/-- **A property that walks keep**: every move of a task keeps it, wherever the task stands, and so
does a raise of the flag. -/
structure Kept (table : SymbolTable) (registry : Registry)
    (P : Bool → Memory → List Task → List SystemCall → Prop) : Prop where
  /-- A move keeps it. -/
  move : ∀ {stop : Bool} {memory : Memory} {before after : List Task} {task : Task}
    {effect : Effect} {sent : List SystemCall},
    Task.Move table registry stop memory task effect →
      P stop memory (before ++ task :: after) sent →
        P stop effect.memory (before ++ effect.tasks ++ after) (sent ++ effect.sent.toList)
  /-- A raise of the flag keeps it. -/
  raise : ∀ {stop : Bool} {memory : Memory} {tasks : List Task} {sent : List SystemCall},
    P stop memory tasks sent → P true memory tasks sent

section Keeping

variable {P : Bool → Memory → List Task → List SystemCall → Prop}

theorem KeptBySteps.state_step (hP : KeptBySteps table registry P) {s s' : State}
    (hstep : State.Step table registry s s') (h : P s.stop s.memory s.tasks s.sent) :
    P s'.stop s'.memory s'.tasks s'.sent := by
  cases hstep with
  | @advance before after task ht =>
    rw [State.sent_advance]
    exact hP.step (ht ▸ h)
  | @deliver call rest stopAfter hc =>
    rw [State.sent_deliver stopAfter hc]
    show P (s.stop || _) s.memory s.tasks s.sent
    cases hs : s.stop || stopAfter == some (s.delivered.size + 1) with
    | true => exact hP.raise h
    | false =>
      rw [Bool.or_eq_false_iff] at hs
      exact hs.1 ▸ h
  | cancel => exact hP.raise h

/-- What holds when a walk starts and is kept by steps holds when it is over, whatever the
schedule. -/
theorem KeptBySteps.walks (hP : KeptBySteps table registry P) {session session' : Session}
    {entries : List String} {outcome : Outcome}
    (hwalk : session.Walks table registry entries outcome session')
    (h : P session.stop session.memory [.launch entries] []) :
    P session'.stop session'.memory [] outcome.calls := by
  obtain ⟨final, hrun, ⟨htasks, hchannel⟩, rfl, rfl⟩ := hwalk
  have hfinal : P final.stop final.memory final.tasks final.sent :=
    State.Runs.invariant (P := fun s => P s.stop s.memory s.tasks s.sent)
      (fun _ _ => hP.state_step) hrun h
  rw [htasks, State.sent, hchannel, List.append_nil] at hfinal
  exact hfinal

/-- What moves keep, steps keep. -/
theorem Kept.keptBySteps (hP : Kept table registry P) : KeptBySteps table registry P :=
  ⟨fun h => hP.move (Task.step_move table registry _ _ _) h, hP.raise⟩

/-- What holds when a walk starts holds when it is over, whatever the schedule. -/
theorem Kept.walks (hP : Kept table registry P) {session session' : Session} {entries : List String}
    {outcome : Outcome} (hwalk : session.Walks table registry entries outcome session')
    (h : P session.stop session.memory [.launch entries] []) :
    P session'.stop session'.memory [] outcome.calls :=
  hP.keptBySteps.walks hwalk h

end Keeping

end SyscallCensus.Walk
