import SyscallCensus.Settings.Json
import SyscallCensus.Settings.Yaml

/-!
# Settings files

This module formalizes how settings are loaded in `SPEC_FULL.md`, Section 10.7 (Configuration):
"JSON when the extension is `.json`, YAML otherwise".

A file whose name ends in `.json` holds JSON, any other YAML. A YAML file of nothing but ASCII white
space holds the defaults.
-/

namespace SyscallCensus.Settings

/-- The format of a settings file. -/
inductive Format where
  /-- JSON. -/
  | json
  /-- YAML. -/
  | yaml
  deriving DecidableEq, Repr

/-- The name of a format. -/
def Format.name : Format → String
  | .json => "JSON"
  | .yaml => "YAML"

/-- Why settings cannot be had. -/
inductive LoadError where
  /-- The file cannot be read. -/
  | unreadable (path : Path) (error : IoError)
  /-- The file holds no settings. -/
  | malformed (format : Format)
  deriving DecidableEq, Repr

/-- What a failure says and, behind it, what caused it. -/
def LoadError.chain : LoadError → List String
  | .unreadable path error => ["Failed to read engine config at " ++ path.text, error.text]
  | .malformed format => ["Failed to parse engine config " ++ format.name]

/-- The format of the file at a path. -/
def Format.ofPath (path : Path) : Format :=
  if path.extension? = some (Text.Utf8.encode "json") then .json else .yaml

/-- Whether a byte is ASCII white space. -/
def isSpaceByte (b : UInt8) : Bool := b == 0x20 || b == 0x09 || b == 0x0A || b == 0x0C || b == 0x0D

/-- The settings that a file of a format holds. -/
def parse? (format : Format) (bytes : List UInt8) : Option Settings :=
  match format with
  | .json => ofJson? bytes
  | .yaml => if bytes.all isSpaceByte then some .default else ofYaml? bytes

/-- The settings in a file, where `parse?` reads what a file of a format holds. -/
def loadBy (parse? : Format → List UInt8 → Option Settings) (host : Host) (path : Path) :
    Except LoadError Settings :=
  match host.read path with
  | .error e => .error (.unreadable path e)
  | .ok bytes =>
    match parse? (.ofPath path) bytes with
    | some settings => .ok settings
    | none => .error (.malformed (.ofPath path))

/-- The settings in a file. -/
def load (host : Host) (path : Path) : Except LoadError Settings := loadBy parse? host path

end SyscallCensus.Settings
