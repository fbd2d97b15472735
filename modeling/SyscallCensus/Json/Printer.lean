/-!
# Writing JSON

The form of the report and of the listed registry in `SPEC_FULL.md`, Section 10.8 (CLI).

Two forms of a document: on one line without blanks, and on many lines with two blanks for each
level. An empty list or record is written on one line in both.
-/

namespace SyscallCensus.Json

/-- What can be written. -/
inductive Document where
  /-- A number. -/
  | number (n : Nat)
  /-- A text. -/
  | text (s : String)
  /-- A list. -/
  | list (items : List Document)
  /-- Named parts, in the order in which they are written. -/
  | record (fields : List (String × Document))

/-- A character inside of quotes. Quotes, backslashes and control characters are escaped, all else
stands for itself. -/
def escape (c : Char) : String :=
  match c with
  | '"' => "\\\""
  | '\\' => "\\\\"
  | '\n' => "\\n"
  | '\r' => "\\r"
  | '\t' => "\\t"
  | c =>
    if c.toNat = 0x08 then "\\b"
    else if c.toNat = 0x0C then "\\f"
    else if c.toNat < 0x20 then
      "\\u00" ++ String.ofList [Nat.digitChar (c.toNat / 16), Nat.digitChar (c.toNat % 16)]
    else String.singleton c

/-- A text between quotes. -/
def quote (text : String) : String := "\"" ++ String.join (text.toList.map escape) ++ "\""

mutual

/-- A document on one line. -/
def Document.compact : Document → String
  | .number n => toString n
  | .text s => quote s
  | .list items => "[" ++ String.intercalate "," (compactItems items) ++ "]"
  | .record fields => "\x7b" ++ String.intercalate "," (compactFields fields) ++ "\x7d"

/-- Documents, each on one line. -/
def compactItems : List Document → List String
  | [] => []
  | d :: rest => d.compact :: compactItems rest

/-- Named documents, each on one line. -/
def compactFields : List (String × Document) → List String
  | [] => []
  | (name, d) :: rest => (quote name ++ ":" ++ d.compact) :: compactFields rest

end

/-- Parts on lines of their own, one level deeper than the brackets around them. -/
def block (indent opening closing : String) (parts : List String) : String :=
  if parts.isEmpty then opening ++ closing
  else opening ++ "\n" ++ String.intercalate ",\n" (parts.map fun p => indent ++ "  " ++ p) ++
    "\n" ++ indent ++ closing

mutual

/-- A document on many lines, of which all but the first begin with `indent`. -/
def Document.pretty (indent : String) : Document → String
  | .number n => toString n
  | .text s => quote s
  | .list items => block indent "[" "]" (prettyItems (indent ++ "  ") items)
  | .record fields => block indent "\x7b" "\x7d" (prettyFields (indent ++ "  ") fields)

/-- Documents on many lines. -/
def prettyItems (indent : String) : List Document → List String
  | [] => []
  | d :: rest => d.pretty indent :: prettyItems indent rest

/-- Named documents on many lines. -/
def prettyFields (indent : String) : List (String × Document) → List String
  | [] => []
  | (name, d) :: rest => (quote name ++ ": " ++ d.pretty indent) :: prettyFields indent rest

end

end SyscallCensus.Json
