/-!
# Kinds of sources

The two variants of the text source of `SPEC_FULL.md`, Section 6 (External interfaces).
-/

namespace SyscallCensus

/-- Where a listing comes from. -/
inductive SourceKind where
  /-- A file that holds the listing. -/
  | dump
  /-- An executable that is disassembled. -/
  | executable
  deriving DecidableEq, Repr, Inhabited

/-- The name of a kind in reports. -/
def SourceKind.label : SourceKind → String
  | .dump => "dump"
  | .executable => "executable"

end SyscallCensus
