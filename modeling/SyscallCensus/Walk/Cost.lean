import SyscallCensus.Walk.Task

/-!
# Why every walk ends

How long the walks of `SPEC_FULL.md`, Section 4.4 (Call Graph Reachability Engine), take at most:
"guaranteed because `VisitedFunctions` only grows and the table is finite".

Tasks start tasks over a graph that may have cycles, so the number of tasks can grow. What shrinks
with every step is a weight: the steps that the running tasks still have before them, counting a
task that has not claimed its symbol as one step, plus the steps that the unclaimed functions of the
table would take. A task that claims the symbol of a function moves the function's steps from the
second part to the first. Sending counts twice, since what was sent waits to be delivered.
-/

namespace SyscallCensus.Walk

/-- A bound on the steps that a task has before it, without the steps of the tasks that it
starts. -/
def Task.cost : Task → Nat
  | launch entries => 3 * entries.length + 1
  | seed _ entries => 3 * entries.length + 3
  | enter _ => 1
  | claim _ ids callees => 3 * ids.length + 4 * callees.length + 2
  | send _ _ ids callees => 3 * ids.length + 4 * callees.length + 4
  | poll _ callees => 4 * callees.length + 1
  | check _ _ callees => 4 * callees.length + 4
  | spawn _ _ callees => 4 * callees.length + 3

/-- The steps of several tasks. -/
def tasksCost : List Task → Nat
  | [] => 0
  | task :: tasks => task.cost + tasksCost tasks

/-- The steps that a function takes once its symbol is claimed. -/
def functionCost (f : FunctionDef) : Nat := 3 * f.syscalls.toList.length + 4 * f.callees.length + 2

/-- The steps of those functions whose symbols are not claimed. -/
def unclaimedCost (visited : Std.TreeSet String) : List (String × FunctionDef) → Nat
  | [] => 0
  | (name, f) :: functions =>
    (if visited.contains name then 0 else functionCost f) + unclaimedCost visited functions

/-- The steps of the functions of a table whose symbols are not claimed. -/
def tableCost (table : SymbolTable) (memory : Memory) : Nat :=
  unclaimedCost memory.visited table.definitions.toList

@[simp] theorem tasksCost_nil : tasksCost [] = 0 := rfl

@[simp] theorem tasksCost_cons (task : Task) (tasks : List Task) :
    tasksCost (task :: tasks) = task.cost + tasksCost tasks := rfl

@[simp] theorem tasksCost_append (xs ys : List Task) :
    tasksCost (xs ++ ys) = tasksCost xs + tasksCost ys := by
  induction xs with
  | nil => simp
  | cons task tasks ih => simp [ih, Nat.add_assoc]

theorem contains_insert_eq (visited : Std.TreeSet String) (name other : String) :
    (visited.insert name).contains other = (name == other || visited.contains other) := by
  rw [Std.TreeSet.contains_insert, Bool.eq_iff_iff]
  simp [Std.LawfulEqCmp.compare_eq_iff_eq]

/-- Claiming a symbol makes no function dearer. -/
theorem unclaimedCost_insert_le (visited : Std.TreeSet String) (name : String)
    (functions : List (String × FunctionDef)) :
    unclaimedCost (visited.insert name) functions ≤ unclaimedCost visited functions := by
  induction functions with
  | nil => simp [unclaimedCost]
  | cons p ps ih =>
    simp only [unclaimedCost] at ih ⊢
    refine Nat.add_le_add ?_ ih
    rw [contains_insert_eq]
    by_cases h : visited.contains p.1 = true <;> by_cases hn : name = p.1 <;> simp [h, hn]

/-- Claiming the symbol of an unclaimed function takes the function's steps away. -/
theorem unclaimedCost_insert_of_mem {visited : Std.TreeSet String} {name : String} {f : FunctionDef}
    {functions : List (String × FunctionDef)} (hmem : (name, f) ∈ functions)
    (hfree : visited.contains name = false) :
    unclaimedCost (visited.insert name) functions +
      functionCost f ≤ unclaimedCost visited functions := by
  induction functions with
  | nil => simp at hmem
  | cons p ps ih =>
    rcases List.mem_cons.1 hmem with rfl | hps
    · -- The function itself: its steps are counted before and not afterwards.
      have hle := unclaimedCost_insert_le visited name ps
      simp only [unclaimedCost, contains_insert_eq, hfree, beq_self_eq_true,
        Bool.true_or, if_true, Bool.false_eq_true, if_false] at hle ⊢
      omega
    · have hrest := ih hps
      have hhead : (if (visited.insert name).contains p.1 then 0 else functionCost p.2) ≤
          if visited.contains p.1 then 0 else functionCost p.2 := by
        rw [contains_insert_eq]
        by_cases h : visited.contains p.1 = true <;> by_cases hn : name = p.1 <;> simp [h, hn]
      simp only [unclaimedCost] at hrest ⊢
      omega

theorem tableCost_visit_le (table : SymbolTable) (memory : Memory) (name : String)
    (expanded : Nat) :
    tableCost table { memory with visited := memory.visited.insert name, expanded } ≤
      tableCost table memory :=
  unclaimedCost_insert_le memory.visited name table.definitions.toList

theorem tableCost_expand_le {table : SymbolTable} {memory : Memory} {name : String}
    {f : FunctionDef} (hget : table.get? name = some f)
    (hfree : memory.visited.contains name = false) (expanded : Nat) :
    tableCost table { memory with visited := memory.visited.insert name, expanded } +
      functionCost f ≤ tableCost table memory :=
  unclaimedCost_insert_of_mem (Std.TreeMap.mem_toList_iff_getElem?_eq_some.2 hget) hfree

/-- A step of a task lowers the weight, even if what it sent is counted. -/
theorem Task.step_cost (table : SymbolTable) (registry : Registry) (stop : Bool) (memory : Memory)
    (task : Task) :
    tasksCost (task.step table registry stop memory).tasks +
      tableCost table (task.step table registry stop memory).memory +
        (task.step table registry stop memory).sent.toList.length <
      task.cost + tableCost table memory := by
  cases task with
  | launch entries =>
    cases entries with
    | nil => simp [step, cost]
    | cons entry entries =>
      cases stop with
      | true => simp [step, cost]
      | false => simp [step, cost]; omega
  | seed entry entries => simp [step, cost]
  | enter name =>
    simp only [step]
    by_cases hv : memory.visited.contains name = true
    · simp [hv, cost]
    · rw [Bool.not_eq_true] at hv
      simp only [hv, Bool.false_eq_true, if_false]
      cases hget : table.get? name with
      | none =>
        have h := tableCost_visit_le table memory name memory.expanded
        simp only [tasksCost_nil, Option.toList_none, List.length_nil, cost]
        omega
      | some f =>
        have h := tableCost_expand_le hget hv (memory.expanded + 1)
        simp only [tasksCost_cons, tasksCost_nil, Option.toList_none, List.length_nil, cost,
          functionCost] at h ⊢
        omega
  | claim name ids callees =>
    cases ids with
    | nil => simp [step, cost]
    | cons id ids =>
      simp only [step]
      by_cases hc : memory.claimed.contains id = true
      · simp [hc, cost]
      · simp [hc, cost, tableCost]; omega
  | send name id ids callees => simp [step, cost]; omega
  | poll name callees =>
    cases callees with
    | nil => simp [step, cost]
    | cons callee callees =>
      cases stop with
      | true => simp [step, cost]
      | false => simp [step, cost]; omega
  | check name callee callees =>
    by_cases hv : memory.visited.contains callee = true
    · simp [step, hv, cost]
    · simp [step, hv, cost]
  | spawn name callee callees => simp [step, cost]

end SyscallCensus.Walk
