import SyscallCensus.Settings.Basic

/-!
# Settings from named parts

This module formalizes "defaults for every field" of `SPEC_FULL.md`, Section 10.7 (Configuration).

A file gives settings as named parts in any order. A part that is not named keeps its default, a
name that is not known says nothing, and a known name must not stand twice. What a part may look
like depends on the format of the file, so that is a parameter.
-/

namespace SyscallCensus.Settings

/-- The parts of settings. -/
inductive Field where
  /-- The entry points. -/
  | entryPoints
  /-- The wrapper functions. -/
  | wrappers
  /-- The number of tasks. -/
  | jobs
  /-- The Go toolchain. -/
  | goPath
  deriving DecidableEq, Repr

namespace Field

/-- The parts in the order of a list that gives them without names. -/
def all : List Field := [.entryPoints, .wrappers, .jobs, .goPath]

/-- The name of a part. -/
def name : Field → String
  | .entryPoints => "entry_points"
  | .wrappers => "syscall_wrappers"
  | .jobs => "jobs"
  | .goPath => "go_path"

/-- The part with a name. -/
def ofName? (name : String) : Option Field := all.find? (·.name == name)

end Field

/-- How a format writes the parts. -/
structure Reader (α : Type) where
  /-- A list of texts. -/
  texts? : α → Option (List String)
  /-- A number of at most 64 bits, or none. -/
  count? : α → Option (Option Nat)
  /-- A path, or none. -/
  path? : α → Option (Option String)

/-- The parts that were given. -/
structure Draft where
  /-- The entry points, if they were given. -/
  entryPoints : Option (List String)
  /-- The wrapper functions, if they were given. -/
  wrappers : Option (List String)
  /-- The number of tasks, if it was given. -/
  jobs : Option (Option Nat)
  /-- The Go toolchain, if it was given. -/
  goPath : Option (Option String)

namespace Draft

/-- No part was given. -/
def empty : Draft := ⟨none, none, none, none⟩

/-- Whether a part was given. -/
def has (draft : Draft) : Field → Bool
  | .entryPoints => draft.entryPoints.isSome
  | .wrappers => draft.wrappers.isSome
  | .jobs => draft.jobs.isSome
  | .goPath => draft.goPath.isSome

/-- Adds a part that was not given before. -/
def put {α : Type} (reader : Reader α) (draft : Draft) (field : Field) (value : α) : Option Draft :=
  if draft.has field then none
  else match field with
    | .entryPoints => (reader.texts? value).map fun v => { draft with entryPoints := some v }
    | .wrappers => (reader.texts? value).map fun v => { draft with wrappers := some v }
    | .jobs => (reader.count? value).map fun v => { draft with jobs := some v }
    | .goPath => (reader.path? value).map fun v => { draft with goPath := some v }

/-- Adds a named part; a name that is not known says nothing. -/
def putNamed {α : Type} (reader : Reader α) (draft : Draft) (name : String) (value : α) :
    Option Draft :=
  match Field.ofName? name with
  | some field => draft.put reader field value
  | none => some draft

/-- The settings, with defaults for what was not given. -/
def settings (draft : Draft) : Settings where
  entryPoints := draft.entryPoints.getD defaultEntryPoints
  wrappers := draft.wrappers.getD defaultWrappers
  jobs := draft.jobs.getD none
  goPath := (draft.goPath.getD none).map Path.ofText

end Draft

end SyscallCensus.Settings
