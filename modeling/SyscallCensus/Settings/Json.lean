import SyscallCensus.Json.Reader
import SyscallCensus.Settings.Draft

/-!
# Settings in JSON

Settings in JSON (`SPEC_FULL.md`, Section 10.7).

An object with the parts as members, or a list with the parts in their order, of which the last ones
may be missing. Only the number of tasks and the toolchain may be `null`.
-/

namespace SyscallCensus.Settings

/-- How JSON writes the parts. -/
def jsonReader : Reader Json.Value where
  texts? := Json.Value.texts?
  count? := Json.Value.orNull? (Json.Value.nat? UInt64.size)
  path? := Json.Value.orNull? Json.Value.text?

/-- The parts of a value. The name of a member has to be a text even if it is not known. -/
def draftOfJson? : Json.Value → Option Draft
  | .object members =>
    members.foldlM (fun draft (name, value) => name.bind (draft.putNamed jsonReader · value)) .empty
  | .array items =>
    if items.length > Field.all.length then none
    else (Field.all.zip items).foldlM
      (fun draft (field, value) => draft.put jsonReader field value) .empty
  | _ => none

/-- The settings that are written in a text. -/
def ofJson? (bytes : List UInt8) : Option Settings := do
  return (← draftOfJson? (← Json.parse? bytes)).settings

end SyscallCensus.Settings
