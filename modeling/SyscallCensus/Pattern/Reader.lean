import SyscallCensus.Pattern.Basic
import SyscallCensus.Pattern.Error

/-!
# Reading patterns

A part of the syntax of the patterns that `SPEC_FULL.md`, Sections 10.2 and 10.6, rely on.

The usual way to write regular expressions is read from left to right. Flags change how a part is
read and what it means. First a text has to be well formed as a whole; only then it matters whether
all its parts have a meaning. So a part without one is noted, and reading goes on.

Loops take a bound on the number of steps. A step takes at least one character, so the length of the
text is always enough.
-/

namespace SyscallCensus.Pattern

/-- How the text is read, and what its parts mean. -/
structure Flags where
  /-- Whether upper and lower case are the same. -/
  anyCase : Bool
  /-- Whether `^` and `$` are about lines, not about the whole text. -/
  lines : Bool
  /-- Whether `.` stands for line breaks too. -/
  dotAll : Bool
  /-- Whether sets are sets of all characters, not of ASCII characters. -/
  unicode : Bool
  /-- Whether a carriage return breaks lines too. -/
  returns : Bool
  /-- Whether white space and comments are passed over. -/
  spaced : Bool
  deriving DecidableEq, Repr

namespace Flags

/-- The flags at the beginning. -/
def initial : Flags := ⟨false, false, false, true, false, false⟩

/-- Turns the flag with a letter on or off. -/
def set (flags : Flags) (letter : Char) (on : Bool) : Flags :=
  match letter with
  | 'i' => { flags with anyCase := on }
  | 'm' => { flags with lines := on }
  | 's' => { flags with dotAll := on }
  | 'u' => { flags with unicode := on }
  | 'R' => { flags with returns := on }
  | 'x' => { flags with spaced := on }
  | _ => flags

/-- The letters of flags. One of them is about the way that a repetition prefers, which makes no
difference. -/
def letters : List Char := ['i', 'm', 's', 'U', 'u', 'R', 'x']

/-- A set with the cases of its characters, if they are to be the same. -/
def folded (flags : Flags) (set : CharSet) : CharSet :=
  if !flags.anyCase then set else if flags.unicode then .anyCase set else .anyAsciiCase set

end Flags

/-- What is known while a text is read. -/
structure Reading where
  /-- The text from here on. -/
  rest : List Char
  /-- How many characters stand in front. -/
  place : Nat
  /-- The flags that hold here. -/
  flags : Flags
  /-- The names of groups so far. -/
  names : List (List Char × Span)
  /-- The first part that is well formed and has no meaning. -/
  meaningless : Option PatternError

/-- A reader of a part of the text. -/
abbrev Reader := StateT Reading (Except PatternError)

namespace Reader

/-! ### Characters -/

/-- The next character. -/
def peek : Reader (Option Char) := return (← get).rest.head?

/-- How many characters stand in front. -/
def here : Reader Nat := return (← get).place

/-- The flags that hold here. -/
def flags : Reader Flags := return (← get).flags

/-- The text is not well formed. -/
def fail {α : Type} (fault : PatternFault) (first last : Nat) : Reader α :=
  throw ⟨fault, ⟨first, last⟩, none⟩

/-- A part has no meaning. -/
def note (fault : PatternFault) (first last : Nat) : Reader Unit :=
  modify fun r =>
    if r.meaningless.isSome then r else { r with meaningless := some ⟨fault, ⟨first, last⟩, none⟩ }

/-- Moves on by some characters. -/
def skip (n : Nat) : Reader Unit :=
  modify fun r => { r with rest := r.rest.drop n, place := r.place + (r.rest.take n).length }

/-- Moves on by a character, and tells whether there is one more. -/
def next : Reader Bool := do
  skip 1
  return (← peek).isSome

/-- Takes some characters if they come next. -/
def accept (text : List Char) : Reader Bool := do
  if text.isPrefixOf (← get).rest then
    skip text.length
    return true
  else return false

/-- The text behind white space and comments. A comment goes up to the end of its line. -/
def behindSpace (inComment : Bool) : List Char → List Char
  | [] => []
  | c :: rest =>
    if inComment then behindSpace (c != '\n') rest
    else if Text.isBlank c then behindSpace false rest
    else if c == '#' then behindSpace true rest
    else c :: rest

/-- Passes over white space and comments where they do not count. -/
def skipSpace : Reader Unit := do
  if (← flags).spaced then
    let rest := (← get).rest
    skip (rest.length - (behindSpace false rest).length)

/-- Moves on by a character and over what does not count, and tells whether there is one more. -/
def nextCounting : Reader Bool := do
  skip 1
  skipSpace
  return (← peek).isSome

/-- Takes the characters of a class; `move` moves on. -/
def takeWhile (p : Char → Bool) (move : Reader Bool) : (bound : Nat) → Reader (List Char)
  | 0 => return []
  | bound + 1 => do
    match ← peek with
    | some c =>
      if p c then do
        let _ ← move
        return c :: (← takeWhile p move bound)
      else return []
    | none => return []

/-- A bound for loops from here on. -/
def bound : Reader Nat := return (← get).rest.length + 1

/-! ### Numbers -/

/-- The number that digits of a base denote. -/
def numberOf (base : Nat) (digits : List Char) : Nat :=
  digits.foldl (fun n c =>
    n * base + (if c.isDigit then c.toNat - '0'.toNat else c.toLower.toNat - 'a'.toNat + 10)) 0

/-- Whether a character is a hexadecimal digit. -/
def isHexDigit (c : Char) : Bool := c.isDigit || ('a' ≤ c && c ≤ 'f') || ('A' ≤ c && c ≤ 'F')

/-- A number of at most 32 bits. Where there is none, the failure is a result, because another
failure may come first. -/
def count : Reader (Except PatternError Nat) := do
  let _ ← takeWhile Text.isBlank next (← bound)
  let first ← here
  let digits ← takeWhile Char.isDigit nextCounting (← bound)
  let last ← here
  let _ ← takeWhile Text.isBlank nextCounting (← bound)
  if digits.isEmpty then return .error ⟨.emptyCount, ⟨first, last⟩, none⟩
  else
    let n := numberOf 10 digits
    return if n < UInt32.size then .ok n else .error ⟨.badNumber, ⟨first, last⟩, none⟩

end Reader

end SyscallCensus.Pattern
