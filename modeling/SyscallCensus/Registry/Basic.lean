import SyscallCensus.Syscall

/-!
# Registry

This module formalizes the lookups of the Syscall Registry of `SPEC_FULL.md`, Section 6 (External
interfaces).

A registry labels system call numbers. Its entries stand in increasing order of their numbers, so a
number is found by halving an interval; several numbers may carry one label.
-/

namespace SyscallCensus

/-- A table of labelled system call numbers, in increasing order of the numbers. -/
structure Registry where
  /-- The labelled numbers. -/
  entries : Array SystemCall
  deriving Repr

namespace Registry

/-- The entry with number `id` among the positions from `low` up to (not including) `high`. -/
def search (entries : Array SystemCall) (id : SyscallId) (low high : Nat) : Option SystemCall :=
  if low < high then
    match entries[low + (high - low) / 2]? with
    | none => none
    | some entry =>
      if entry.id = id then some entry
      else if entry.id < id then search entries id (low + (high - low) / 2 + 1) high
      else search entries id low (low + (high - low) / 2)
  else none
termination_by high - low

/-- The label of a number. -/
def name? (registry : Registry) (id : SyscallId) : Option String :=
  (search registry.entries id 0 registry.entries.size).map (·.name)

/-- Whether a number has a label. -/
def contains (registry : Registry) (id : SyscallId) : Bool := (registry.name? id).isSome

/-- The first, and so the lowest, number that carries a label. -/
def id? (registry : Registry) (name : String) : Option SyscallId :=
  (registry.entries.find? (·.name == name)).map (·.id)

/-- A number with its label, which is empty for a number that has none. -/
def label (registry : Registry) (id : SyscallId) : SystemCall := ⟨id, (registry.name? id).getD ""⟩

/-- The labelled numbers in increasing order. -/
def toList (registry : Registry) : List SystemCall := registry.entries.toList

/-- How many numbers have a label. -/
def size (registry : Registry) : Nat := registry.entries.size

end Registry

end SyscallCensus
