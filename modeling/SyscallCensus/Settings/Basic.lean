import SyscallCensus.Host.Basic

/-!
# Settings

This module formalizes the record of `SPEC_FULL.md`, Section 10.7 (Configuration), with the defaults
of Sections 10.2 and 10.3.

What can be chosen about an extraction. Every choice has a default that suits Go executables.
-/

namespace SyscallCensus

/-- The choices of an extraction. -/
structure Settings where
  /-- The functions from which the call graph is walked. -/
  entryPoints : List String
  /-- The functions whose calls count as invocations of the system. -/
  wrappers : List String
  /-- How many tasks may run at the same time; the host decides where nothing is chosen. -/
  jobs : Option Nat
  /-- The Go toolchain. -/
  goPath : Option Path
  deriving DecidableEq, Repr

namespace Settings

/-- The functions that run when a program starts, in the order in which they are walked. -/
def defaultEntryPoints : List String := ["main.main", "main.init.0", "main.init.1"]

/-- The functions that hand system calls through to the kernel. -/
def defaultWrappers : List String := ["syscall.Syscall", "golang.org/x/sys/unix.Syscall"]

/-- The settings where nothing is chosen. -/
def default : Settings := ⟨defaultEntryPoints, defaultWrappers, none, none⟩

instance : Inhabited Settings := ⟨default⟩

/-- The Go toolchain to use: the chosen one, or the one that the environment names, or the one that
the host finds. -/
def goProgram (settings : Settings) (host : Host) : Path :=
  (settings.goPath.or ((host.environment "GO_BIN").map Path.mk)).getD "go"

end Settings

end SyscallCensus
