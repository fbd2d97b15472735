import SyscallCensus.Yaml.Scalar

/-!
# Tokens

A part of the YAML that settings are written in (`SPEC_FULL.md`, Section 10.7).

The words of a YAML text. Indentation has become visible: a block begins with a token of its own and
ends with one.
-/

namespace SyscallCensus.Yaml

/-- The text of a tag, in bytes: those that are written by their codes need not form characters. -/
abbrev Tag := List UInt8

/-- A word of a YAML text. -/
inductive Token where
  /-- The text ends. -/
  | streamEnd
  /-- The version that a document is written in. -/
  | versionDirective (major minor : Nat)
  /-- What a handle of tags stands for. -/
  | tagDirective (handle : List Char) (expansion : Tag)
  /-- A document begins. -/
  | documentStart
  /-- A document ends. -/
  | documentEnd
  /-- A sequence of indented lines begins. -/
  | blockSequenceStart
  /-- A mapping of indented lines begins. -/
  | blockMappingStart
  /-- The innermost block ends. -/
  | blockEnd
  /-- An opening square bracket. -/
  | flowSequenceStart
  /-- A closing square bracket. -/
  | flowSequenceEnd
  /-- An opening brace. -/
  | flowMappingStart
  /-- A closing brace. -/
  | flowMappingEnd
  /-- The dash before an entry of a sequence. -/
  | blockEntry
  /-- The comma between entries. -/
  | flowEntry
  /-- A key begins. -/
  | key
  /-- A value begins. -/
  | value
  /-- A reference to a named node. -/
  | alias (name : List Char)
  /-- The name of the next node. -/
  | anchor (name : List Char)
  /-- The tag of the next node. -/
  | tag (handle : List Char) (suffix : Tag)
  /-- A text. -/
  | scalar (style : Style) (text : List Char)
  deriving DecidableEq, Repr

end SyscallCensus.Yaml
