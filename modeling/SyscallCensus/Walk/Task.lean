import Std.Data.TreeSet.Lemmas
import SyscallCensus.Graph.SymbolTable
import SyscallCensus.Log.Event
import SyscallCensus.Registry.Basic
import SyscallCensus.Walk.Stats

/-!
# Tasks of a walk

This module formalizes the algorithm of `SPEC_FULL.md`, Section 4.4 (Call Graph Reachability
Engine), for one function.

A walk explores the call graph by tasks that run side by side. Each symbol gets a task of its own. A
task first claims its symbol; of several tasks for one symbol the first claims it and the others end
at once. The task that has the symbol claims the numbers of its function one by one, and sends those
that nobody claimed before into a channel; then it starts a task for every callee that nobody has
claimed yet. Another task starts the tasks of the entry points.

The tasks share a memory (the claimed symbols and numbers) and a flag that asks them to stop.
`Task.step` is the smallest piece of work that other tasks cannot divide: one look at the flag, one
test-and-insert into the memory, one send, or one start of a task. The flag is looked at only before
a task is started, so a task that has claimed its symbol always claims all numbers of its function.
-/

namespace SyscallCensus.Walk

open Log (Event)

/-- What the tasks of all walks over one table have done together. -/
structure Memory where
  /-- The symbols that were claimed. -/
  visited : Std.TreeSet String
  /-- The system call numbers that were claimed. -/
  claimed : Std.TreeSet SyscallId
  /-- How many claimed symbols had a function. -/
  expanded : Nat

/-- The memory before the first walk. -/
def Memory.empty : Memory := ⟨∅, ∅, 0⟩

/-- Where a task stands: what it does next. -/
inductive Task where
  /-- Starts the entry points that are left: looks at the flag. -/
  | launch (entries : List String)
  /-- Starts the task of an entry point. -/
  | seed (entry : String) (entries : List String)
  /-- Claims its symbol. -/
  | enter (name : String)
  /-- Claims the next number of its function. -/
  | claim (name : String) (ids : List SyscallId) (callees : List String)
  /-- Sends a number that it claimed. -/
  | send (name : String) (id : SyscallId) (ids : List SyscallId) (callees : List String)
  /-- Goes on to its callees: looks at the flag. -/
  | poll (name : String) (callees : List String)
  /-- Looks whether a callee was claimed already. -/
  | check (name : String) (callee : String) (callees : List String)
  /-- Starts the task of a callee. -/
  | spawn (name : String) (callee : String) (callees : List String)
  deriving DecidableEq, Repr

/-- What one step of a task does. -/
structure Effect where
  /-- What stands in the place of the task: nothing when it has ended, otherwise the task itself,
  and behind it the task that it started. -/
  tasks : List Task
  /-- The memory afterwards. -/
  memory : Memory
  /-- The system call that was sent. -/
  sent : Option SystemCall
  /-- What the step is worth in the log. -/
  log : Option Event

namespace Task

/-- One step of a task. -/
def step (table : SymbolTable) (registry : Registry) (stop : Bool) (memory : Memory) : Task → Effect
  | launch [] => ⟨[], memory, none, none⟩
  | launch (entry :: entries) => ⟨if stop then [] else [seed entry entries], memory, none, none⟩
  | seed entry entries => ⟨[launch entries, enter entry], memory, none, none⟩
  | enter name =>
    if memory.visited.contains name then ⟨[], memory, none, none⟩
    else
      let visited := memory.visited.insert name
      match table.get? name with
      | none => ⟨[], { memory with visited }, none, none⟩
      | some f =>
        ⟨[claim name f.syscalls.toList f.callees],
          { memory with visited, expanded := memory.expanded + 1 }, none, some (.expanding name)⟩
  | claim name [] callees => ⟨[poll name callees], memory, none, none⟩
  | claim name (id :: ids) callees =>
    if memory.claimed.contains id then ⟨[claim name ids callees], memory, none, none⟩
    else ⟨[send name id ids callees], { memory with claimed := memory.claimed.insert id },
      none, none⟩
  | send name id ids callees => ⟨[claim name ids callees], memory, some (registry.label id), none⟩
  | poll _ [] => ⟨[], memory, none, none⟩
  | poll name (callee :: callees) =>
    ⟨if stop then [] else [check name callee callees], memory, none, none⟩
  | check name callee callees =>
    ⟨[if memory.visited.contains callee then poll name callees else spawn name callee callees],
      memory, none, none⟩
  | spawn name callee callees => ⟨[poll name callees, enter callee], memory, none, none⟩

end Task

end SyscallCensus.Walk
