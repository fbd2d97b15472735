/-!
# System calls

This module formalizes the results of `SPEC_FULL.md`, Section 3 (Data model), and the sets of
identifiers that a function has there.

A system call is selected by a 16-bit number and reported with a label. `IdSet` holds the numbers
that one function may use: every number once, in the order in which it was first seen. That order is
the order in which results are reported, so it is part of the type and not an accident of storage.
-/

namespace SyscallCensus

/-- The number that selects a system call. -/
abbrev SyscallId := UInt16

/-- A system call as it is reported. -/
structure SystemCall where
  /-- The number that selects the call. -/
  id : SyscallId
  /-- The label of that number; empty where the number has none. -/
  name : String
  deriving DecidableEq, Repr, Inhabited

/-- System call numbers without repeats, in the order in which they were first seen. -/
structure IdSet where
  /-- The numbers, first seen first. -/
  toList : List SyscallId
  /-- No number stands twice. -/
  nodup : toList.Nodup
  deriving DecidableEq, Repr

namespace IdSet

/-- The set without numbers. -/
def empty : IdSet := ⟨[], List.nodup_nil⟩

instance : Inhabited IdSet := ⟨empty⟩

/-- Adds a number behind the others; a number that is already there keeps its place. -/
def insert (ids : IdSet) (id : SyscallId) : IdSet :=
  if h : id ∈ ids.toList then ids
  else ⟨ids.toList ++ [id], by
    refine List.nodup_append.2 ⟨ids.nodup, by simp, ?_⟩
    intro a ha b hb hab
    simp only [List.mem_singleton] at hb
    exact h (hb ▸ hab ▸ ha)⟩

/-- The numbers of a list, each at the place of its first occurrence. -/
def ofList (ids : List SyscallId) : IdSet := ids.foldl insert empty

/-- Whether there is no number. -/
def isEmpty (ids : IdSet) : Bool := ids.toList.isEmpty

@[simp] theorem toList_empty : empty.toList = [] := rfl

theorem toList_insert (ids : IdSet) (id : SyscallId) :
    (ids.insert id).toList = if id ∈ ids.toList then ids.toList else ids.toList ++ [id] := by
  unfold insert
  split <;> rfl

@[simp] theorem mem_toList_insert (ids : IdSet) (id other : SyscallId) :
    other ∈ (ids.insert id).toList ↔ other ∈ ids.toList ∨ other = id := by
  rw [toList_insert]
  split <;> simp_all

end IdSet

end SyscallCensus
