import SyscallCensus.Settings.Draft
import SyscallCensus.Text.Utf8
import SyscallCensus.Yaml.Node.Parser

/-!
# Settings in YAML

Settings in YAML (`SPEC_FULL.md`, Section 10.7).

A mapping with the parts as pairs. A document that holds nothing gives the defaults. Texts may be
written as any scalar, so that `1` and `true` are texts too. Numbers are plain: decimal without
zeros in front, or with a base, and perhaps a plus sign. Where a part may be absent, an empty plain
scalar, `~` or `null` say so.
-/

namespace SyscallCensus.Settings

open Yaml (Node Document)

/-- The number that digits of a base denote, if it has at most 64 bits. -/
def digitsValue? (base : Nat) (digits : List Char) : Option Nat := do
  if digits.isEmpty then none
  else
    let n ← digits.foldlM (fun n c =>
      (Yaml.hexDigit? c).bind fun d => if d < base then some (n * base + d) else none) 0
    if n < UInt64.size then some n else none

/-- Whether decimal digits begin with a zero that is not the whole number. -/
def hasLeadingZero : List Char → Bool
  | '0' :: d :: rest => (d :: rest).all Char.isDigit
  | _ => false

/-- The number that a plain scalar denotes. -/
def unsigned? (text : List Char) : Option Nat :=
  let digits := if text.head? == some '+' then text.drop 1 else text
  let inBase : Option Nat :=
    match digits with
    | '0' :: 'x' :: rest => digitsValue? 16 rest
    | '0' :: 'o' :: rest => digitsValue? 8 rest
    | '0' :: 'b' :: rest => digitsValue? 2 rest
    | _ => none
  if inBase.isSome then inBase else if hasLeadingZero digits then none else digitsValue? 10 digits

/-- Whether a plain scalar without a tag says that there is nothing. -/
def isNullText (text : String) : Bool :=
  text == "~" || text == "null" || text == "Null" || text == "NULL"

/-- The tag of scalars that say that there is nothing. -/
def nullTag : Yaml.Tag := Text.Utf8.encode "tag:yaml.org,2002:null"

/-- The tag of integers. -/
def intTag : Yaml.Tag := Text.Utf8.encode "tag:yaml.org,2002:int"

/-- Whether a node says that there is nothing; a node with that tag has to say so. -/
def isAbsent? : Node → Option Bool
  | .scalar tag .plain text =>
    match tag with
    | none => some (text.isEmpty || isNullText text)
    | some t => if t == nullTag then (if isNullText text then some true else none) else some false
  | _ => some false

/-- A node that may say that there is nothing. -/
def orAbsent? {α : Type} (read : Node → Option α) (node : Node) : Option (Option α) := do
  if ← isAbsent? node then return none else (read node).map some

/-- The text of a scalar. -/
def nodeText? : Node → Option String
  | .scalar _ _ text => some text
  | _ => none

/-- The number of a scalar. It is plain, or a block of lines with the tag of integers. -/
def nodeCount? : Node → Option Nat
  | .scalar _ .plain text => unsigned? text.toList
  | .scalar (some t) .literal text => if t == intTag then unsigned? text.toList else none
  | _ => none

/-- The texts of a sequence; an empty plain scalar is an empty one. -/
def nodeTexts? (d : Document) : Node → Option (List String)
  | .sequence items => items.mapM fun item => (d.resolve item).bind nodeText?
  | .scalar _ .plain text => if text.isEmpty then some [] else none
  | _ => none

/-- How YAML writes the parts. -/
def yamlReader (d : Document) : Reader Node where
  texts? node := (d.resolve node).bind (nodeTexts? d)
  count? node := (d.resolve node).bind (orAbsent? nodeCount?)
  path? node := (d.resolve node).bind (orAbsent? nodeText?)

/-- The parts of a document. -/
def draftOfYaml? (d : Document) : Option Draft :=
  match d.root with
  | none => some .empty
  | some (.scalar _ .plain text) => if text.isEmpty then some .empty else none
  | some (.mapping pairs) =>
    pairs.foldlM (fun draft (key, value) => do
      let name ← (d.resolve key).bind nodeText?
      draft.putNamed (yamlReader d) name value) .empty
  | some _ => none

/-- The settings that are written in a text. -/
def ofYaml? (bytes : List UInt8) : Option Settings := do
  let text ← Text.Utf8.decode? bytes
  return (← draftOfYaml? (← Yaml.parse? text.toList)).settings

end SyscallCensus.Settings
