import SyscallCensus.Json.Printer
import SyscallCensus.Json.Reader
import SyscallCensus.Registry.Basic
import SyscallCensus.Source.Kind

/-!
# Documents

This module formalizes the option `--json` of `SPEC_FULL.md`, Section 10.8 (CLI): a report of
source, kind, digest, time and system calls.

The result of an extraction as a JSON document that names the input and its digest, so that the
result can be told from that of another input. A list of system calls can be read back.
-/

namespace SyscallCensus

/-- What is known about an extraction. -/
structure Report where
  /-- The path of the input. -/
  source : String
  /-- What the input is. -/
  kind : SourceKind
  /-- The digest of the input. -/
  sha256 : String
  /-- When the report was made. -/
  generatedAt : String
  /-- The system calls. -/
  syscalls : List SystemCall
  deriving DecidableEq, Repr

namespace Report

/-- A system call as a document. -/
def callDocument (call : SystemCall) : Json.Document :=
  .record [("id", .number call.id.toNat), ("name", .text call.name)]

/-- System calls as a document. -/
def callsDocument (calls : List SystemCall) : Json.Document := .list (calls.map callDocument)

/-- A report as a document. -/
def document (report : Report) : Json.Document :=
  .record [("source", .text report.source), ("kind", .text report.kind.label),
    ("sha256", .text report.sha256), ("generated_at", .text report.generatedAt),
    ("syscalls", callsDocument report.syscalls)]

/-- A document on many lines, with a line feed at its end. -/
def lines (document : Json.Document) : String := document.pretty "" ++ "\n"

/-- The registry as a document. -/
def registryDocument (registry : Registry) : String := lines (callsDocument registry.toList)

/-! ### Reading system calls -/

/-- The value of a member that has to stand there exactly once. -/
def onlyMember? (name : String) (members : List (Option String × Json.Value)) : Option Json.Value :=
  match members.filter fun m => m.1 == some name with
  | [member] => some member.2
  | _ => none

/-- The system call with a number and a label. -/
def call? (id name : Json.Value) : Option SystemCall := do
  return ⟨UInt16.ofNat (← id.nat? 0x10000), ← name.text?⟩

/-- The system call that a value is: an object with both members, or a list of the two. Other
members do not matter, but their names have to be texts. -/
def callOfJson? : Json.Value → Option SystemCall
  | .object members =>
    if members.all fun m => m.1.isSome then do
      call? (← onlyMember? "id" members) (← onlyMember? "name" members)
    else none
  | .array [id, name] => call? id name
  | _ => none

/-- The system calls that are written in a text. -/
def parseCalls? (bytes : List UInt8) : Option (List SystemCall) := do
  match ← Json.parse? bytes with
  | .array items => items.mapM callOfJson?
  | _ => none

end Report

end SyscallCensus
