import SyscallCensus.Syscall

/-!
# Functions

This module formalizes the `FunctionDefinition` of `SPEC_FULL.md`, Section 3 (Data model).

What the listing says about one function: whom it calls and which system calls it makes itself.
-/

namespace SyscallCensus

/-- One function of the program under study. -/
structure FunctionDef where
  /-- The symbol of the function. -/
  name : String
  /-- The symbols it calls, in the order of the calls; a symbol called twice stands twice. -/
  callees : List String
  /-- The system calls it makes itself. -/
  syscalls : IdSet
  deriving DecidableEq, Repr, Inhabited

namespace FunctionDef

/-- A function of which nothing is known yet. -/
def blank (name : String) : FunctionDef := ⟨name, [], .empty⟩

/-- A function that calls nothing and makes no system call. -/
def isEmpty (f : FunctionDef) : Bool := f.callees.isEmpty && f.syscalls.isEmpty

/-- Adds a call behind the calls known so far. -/
def addCallee (f : FunctionDef) (callee : String) : FunctionDef :=
  { f with callees := f.callees ++ [callee] }

/-- Adds a system call, unless it is known already. -/
def addSyscall (f : FunctionDef) (id : SyscallId) : FunctionDef :=
  { f with syscalls := f.syscalls.insert id }

end FunctionDef

end SyscallCensus
