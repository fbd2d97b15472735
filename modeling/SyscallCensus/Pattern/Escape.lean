import SyscallCensus.Pattern.Property
import SyscallCensus.Pattern.Reader

/-!
# Escapes in patterns

A part of the syntax of the patterns that `SPEC_FULL.md`, Sections 10.2 and 10.6, rely on.

What a backslash and the characters behind it stand for: a character that would stand for something
else without it, a character by its code or by a letter, a set by a letter or by a property, or an
assertion.
-/

namespace SyscallCensus.Pattern

namespace Reader

/-! ### Codes -/

/-- The character with a code. -/
def charOf (digits : List Char) (first last : Nat) : Reader Char := do
  let n := numberOf 16 digits
  if n.isValidChar then return Char.ofNat n else fail .badCode first last

/-- Digits of a code up to the closing brace, behind the opening one. -/
def bracedDigits (opening : Nat) : (bound : Nat) → Reader (List Char)
  | 0 => return []
  | bound + 1 => do
    match ← peek with
    | none => fail .cutEscape opening (← here)
    | some c =>
      if c == '\x7d' then return []
      else if isHexDigit c then do
        let _ ← nextCounting
        return c :: (← bracedDigits opening bound)
      else fail .badCodeDigit (← here) ((← here) + 1)

/-- A certain number of digits of a code. -/
def fixedDigits (first : Bool) : (n : Nat) → Reader (List Char)
  | 0 => return []
  | n + 1 => do
    if !first then
      if !(← nextCounting) then fail .cutEscape (← here) (← here)
    match ← peek with
    | some c =>
      if isHexDigit c then return c :: (← fixedDigits false n)
      else fail .badCodeDigit (← here) ((← here) + 1)
    | none => fail .cutEscape (← here) (← here)

/-- The character with a code, behind the backslash. The letter tells how many digits the code has
without braces. -/
def code (letter : Char) : Reader Char := do
  if !(← nextCounting) then fail .cutEscape (← here) (← here)
  let opening ← here
  if (← peek) == some '\x7b' then
    let _ ← nextCounting
    let digits ← bracedDigits opening (← bound)
    let last ← here
    let _ ← nextCounting
    if digits.isEmpty then fail .emptyCode opening (← here) else charOf digits (opening + 1) last
  else
    let digits ← fixedDigits true (if letter == 'x' then 2 else if letter == 'u' then 4 else 8)
    let _ ← nextCounting
    charOf digits opening (← here)

/-! ### Properties -/

/-- Whether one text occurs in another, and what stands before and behind it. -/
def cut? (mark : List Char) : List Char → Option (List Char × List Char)
  | [] => none
  | c :: rest =>
    if mark.isPrefixOf (c :: rest) then some ([], (c :: rest).drop mark.length)
    else (cut? mark rest).map fun (before, behind) => (c :: before, behind)

/-- What is wrong with a property, or its set and whether the set is to be complemented. -/
def propertySet (name : List Char) : Except PatternFault (CharSet × Bool) :=
  let byValue (parts : List Char × List Char) (negated : Bool) :
      Except PatternFault (CharSet × Bool) :=
    match CharSet.valuesOf? parts.1 with
    | none => .error .unknownProperty
    | some sets =>
      match CharSet.named? sets parts.2 with
      | none => .error .unknownPropertyValue
      | some set => .ok (set, negated)
  match cut? ['!', '='] name, cut? [':'] name, cut? ['='] name with
  | some parts, _, _ => byValue parts true
  | none, some parts, _ => byValue parts false
  | none, none, some parts => byValue parts false
  | none, none, none =>
    match CharSet.ofProperty? name with
    | none => .error .unknownProperty
    | some set => .ok (set, false)

/-- The name of a property, behind the letter. -/
def propertyName : Reader (List Char) := do
  if !(← nextCounting) then fail .cutEscape (← here) (← here)
  match ← peek with
  | some '\x7b' => do
    let _ ← nextCounting
    let name ← takeWhile (· != '\x7d') nextCounting (← bound)
    if (← peek).isNone then fail .cutEscape (← here) (← here)
    skip 1
    return name
  | some '\\' => fail .badProperty (← here) ((← here) + 1)
  | some c => do
    let _ ← nextCounting
    return [c]
  | none => fail .cutEscape (← here) (← here)

/-- The characters with a property, at the letter behind the backslash at `start`. -/
def property (start : Nat) (negated : Bool) : Reader CharSet := do
  let name ← propertyName
  let flags ← flags
  if !flags.unicode then
    note .unicodeHere start (← here)
    return .empty
  else
    match propertySet name with
    | .error fault => do
      note fault start (← here)
      return .empty
    | .ok (set, otherwise) =>
      return if negated != otherwise then .compl (flags.folded set) else flags.folded set

/-! ### Escapes -/

/-- A part of the text that is no repetition, no group and no set between brackets. -/
inductive Atom where
  /-- A character; the flag tells that it was written as the code of a byte. -/
  | literal (c : Char) (byte : Bool)
  /-- A set of characters. -/
  | set (set : CharSet)
  /-- An assertion. -/
  | assertion (a : Assertion)

/-- The set that a letter behind a backslash names. -/
def lettered (start : Nat) (letter : Char) : Reader CharSet := do
  skip 1
  let unicode := (← flags).unicode
  let set : CharSet :=
    match letter.toLower with
    | 'd' => if unicode then .digit else .range '0' '9'
    | 's' => if unicode then .blank else .asciiBlank
    | _ => if unicode then .word else .asciiWord
  if letter.isUpper then
    if !unicode then note .splitCharacter start (← here)
    return .compl set
  else return set

/-- The assertion about words that stands between braces, at the opening one; `start` is where the
backslash stands. A repetition is no such assertion. -/
def wordAssertion? (start : Nat) (ascii : Bool) : Reader (Option Assertion) := do
  let isNameChar (c : Char) : Bool := c.isAlpha || c == '-'
  let before ← get
  let opening ← here
  if !(← nextCounting) then fail .cutBoundary start (← here)
  let first ← here
  if !(← peek).any isNameChar then
    set before
    return none
  else
    let name ← takeWhile isNameChar nextCounting (← bound)
    let last ← here
    if (← peek) != some '\x7d' then fail .openBoundary opening last
    skip 1
    match String.ofList name with
    | "start" => return some (.wordStart ascii)
    | "end" => return some (.wordEnd ascii)
    | "start-half" => return some (.notBehindWord ascii)
    | "end-half" => return some (.notBeforeWord ascii)
    | _ => fail .unknownBoundary first last

/-- The characters that stand for something else, unless there is a backslash before them. -/
def metaChars : List Char := "\\.+*?()|[]\x7b\x7d^$#&-~".toList

/-- Whether a character stands for itself behind a backslash. -/
def isEscapable (c : Char) : Bool :=
  metaChars.contains c || (c.toNat < 0x80 && !c.isAlphanum && c != '<' && c != '>')

/-- The character that a letter behind a backslash stands for. -/
def letterChar? (c : Char) : Option Char :=
  [('a', Char.ofNat 0x07), ('f', Char.ofNat 0x0C), ('t', '\t'), ('n', '\n'), ('r', '\r'),
    ('v', Char.ofNat 0x0B)].lookup c

/-- What a backslash and the characters behind it stand for. -/
def escape : Reader Atom := do
  let start ← here
  if !(← next) then fail .cutEscape start (← here)
  match ← peek with
  | none => fail .cutEscape start (← here)
  | some c => do
    let ascii := !(← flags).unicode
    if c.isDigit then fail .reference start ((← here) + 1)
    else if c == 'x' || c == 'u' || c == 'U' then return .literal (← code c) (c == 'x')
    else if c == 'p' || c == 'P' then return .set (← property start (c == 'P'))
    else if ['d', 's', 'w', 'D', 'S', 'W'].contains c then return .set (← lettered start c)
    else
      skip 1
      if isEscapable c then return .literal c false
      else
        match letterChar? c with
        | some special => return .literal special false
        | none =>
          match c with
          | 'A' => return .assertion .textStart
          | 'z' => return .assertion .textEnd
          | 'b' => do
            if (← peek) == some '\x7b' then
              return .assertion ((← wordAssertion? start ascii).getD (.wordBoundary ascii))
            else return .assertion (.wordBoundary ascii)
          | 'B' => return .assertion (.noWordBoundary ascii)
          | '<' => return .assertion (.wordStart ascii)
          | '>' => return .assertion (.wordEnd ascii)
          | _ => fail .unknownEscape start (← here)

end Reader

end SyscallCensus.Pattern
