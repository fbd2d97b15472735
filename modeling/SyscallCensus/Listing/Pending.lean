import SyscallCensus.Syscall

/-!
# Pending numbers

This module formalizes `SPEC_FULL.md`, Section 4.2 (Syscall Correlator).

Inside one function, loads of a system call number wait until an instruction invokes the system. The
usual sequence loads the number, then one argument, then invokes: of the two most recent loads the
older one is the number, and both are used up. A single waiting load is the number itself.
-/

namespace SyscallCensus

/-- The loaded numbers that still wait for an invocation. -/
structure Pending where
  /-- The waiting numbers, most recent first. -/
  newestFirst : List SyscallId
  deriving DecidableEq, Repr, Inhabited

namespace Pending

/-- Nothing waits. -/
def empty : Pending := ⟨[]⟩

/-- The waiting numbers, oldest first. -/
def toList (pending : Pending) : List SyscallId := pending.newestFirst.reverse

/-- A number is loaded. -/
def push (pending : Pending) (id : SyscallId) : Pending := ⟨id :: pending.newestFirst⟩

/-- Another function begins: what waits is forgotten. -/
def reset (_ : Pending) : Pending := empty

/-- The system is invoked: the number of the invocation, if one waits, and what waits afterwards. -/
def invoke : Pending → Option SyscallId × Pending
  | ⟨[]⟩ => (none, ⟨[]⟩)
  | ⟨[only]⟩ => (some only, ⟨[]⟩)
  | ⟨_ :: number :: older⟩ => (some number, ⟨older⟩)

@[simp] theorem toList_empty : empty.toList = [] := rfl

@[simp] theorem toList_push (pending : Pending) (id : SyscallId) :
    (pending.push id).toList = pending.toList ++ [id] := by
  simp [toList, push]

end Pending

end SyscallCensus
