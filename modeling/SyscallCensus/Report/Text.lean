import SyscallCensus.Registry.Basic

/-!
# Plain text

This module formalizes the default text of `SPEC_FULL.md`, Section 10.8 (CLI).

The result of an extraction and the registry as lines for people.
-/

namespace SyscallCensus.Report

/-- The line of a system call. -/
def callLine (call : SystemCall) : String :=
  "    " ++ call.name ++ " (" ++ toString call.id.toNat ++ ")\n"

/-- The system calls with their number in front, one on a line. -/
def text (calls : List SystemCall) : String :=
  if calls.isEmpty then "no system calls were found\n"
  else toString calls.length ++ " system calls found:\n" ++ String.join (calls.map callLine)

/-- A number with blanks in front, at least three characters wide. -/
def paddedId (id : SyscallId) : String :=
  let digits := toString id.toNat
  String.ofList (List.replicate (3 - digits.length) ' ') ++ digits

/-- The registry with its size in front, one system call on a line. -/
def registryText (registry : Registry) : String :=
  "System calls (" ++ toString registry.size ++ "):\n" ++
    String.join (registry.toList.map fun call =>
      "  " ++ paddedId call.id ++ " " ++ call.name ++ "\n")

end SyscallCensus.Report
