/-!
# Positions in a YAML text

A part of the YAML that settings are written in (`SPEC_FULL.md`, Section 10.7).

The characters of YAML and their classes, and a cursor that moves through a text while it counts
lines and columns. Columns matter for indentation and count characters; lines and the index limit
the length of keys, and the index counts bytes.
-/

namespace SyscallCensus.Yaml

/-- Whether a character may occur in a text: no controls but tab, line feed, carriage return and
next line. -/
def isAllowed (c : Char) : Bool :=
  c == '\t' || c == '\n' || c == '\r' || (0x20 ≤ c.toNat && c.toNat ≤ 0x7E) || c.toNat == 0x85 ||
    (0xA0 ≤ c.toNat && c.toNat ≤ 0xFFFD) || 0x10000 ≤ c.toNat

/-- Whether a character is a space or a tab. -/
def isBlank (c : Char) : Bool := c == ' ' || c == '\t'

/-- Whether a character breaks a line: line feed, carriage return, next line, and the two
separators. -/
def isBreak (c : Char) : Bool :=
  c == '\n' || c == '\r' || c.toNat == 0x85 || c.toNat == 0x2028 || c.toNat == 0x2029

/-- Whether a line ends here; it also ends where the text does. -/
def isBreakOrEnd : Option Char → Bool
  | none => true
  | some c => isBreak c

/-- Whether a word ends here. -/
def isBlankOrEnd : Option Char → Bool
  | none => true
  | some c => isBlank c || isBreak c

/-- The characters of names. -/
def isNameChar (c : Char) : Bool := c.isAlphanum || c == '_' || c == '-'

/-- Whether a character is one of those in a list. -/
def isOneOf (cs : List Char) : Option Char → Bool
  | none => false
  | some c => cs.contains c

/-- How many bytes characters take in UTF-8. -/
def byteLength (cs : List Char) : Nat := cs.foldl (fun n c => n + c.utf8Size) 0

/-- A position in a text. -/
structure Cursor where
  /-- The text from here on. -/
  rest : List Char
  /-- How many bytes stand in front, with the characters in UTF-8. -/
  index : Nat
  /-- The number of the line, from 0 up. -/
  line : Nat
  /-- The number of the column, from 0 up. -/
  column : Nat
  deriving Repr

namespace Cursor

/-- The beginning of a text. -/
def start (text : List Char) : Cursor := ⟨text, 0, 0, 0⟩

/-- The next character. -/
def peek (c : Cursor) : Option Char := c.rest.head?

/-- The character `n` places behind the next one. -/
def peekAt (c : Cursor) (n : Nat) : Option Char := c.rest[n]?

/-- Moves on by some characters of the same line. -/
def skip (c : Cursor) (n : Nat) : Cursor :=
  { c with
    rest := c.rest.drop n, index := c.index + byteLength (c.rest.take n)
    column := c.column + n }

/-- The characters up to the first one that is not in a class. -/
def takeWhile (c : Cursor) (p : Char → Bool) : List Char := c.rest.takeWhile p

/-- Moves behind the characters of a class. -/
def skipWhile (c : Cursor) (p : Char → Bool) : Cursor := c.skip (c.takeWhile p).length

/-- Moves to a place further on in the same line, given the text from there on. -/
def moveTo (c : Cursor) (rest : List Char) : Cursor := c.skip (c.rest.length - rest.length)

/-- Moves behind a line break; a carriage return with a line feed is one break. -/
def skipLine (c : Cursor) : Cursor :=
  match c.rest with
  | '\r' :: '\n' :: rest => ⟨rest, c.index + 2, c.line + 1, 0⟩
  | b :: rest => ⟨rest, c.index + b.utf8Size, c.line + 1, 0⟩
  | [] => c

/-- What a line break counts for in a scalar: the two separators stand for themselves, the others
are all alike. -/
def breakText (c : Cursor) : List Char :=
  match c.peek with
  | some b =>
    if isBreak b then (if b.toNat == 0x2028 || b.toNat == 0x2029 then [b] else ['\n']) else []
  | none => []

/-- Moves behind a comment, up to the end of the line. -/
def skipComment (c : Cursor) : Cursor :=
  if c.peek == some '#' then c.skipWhile fun c => !isBreak c else c

/-- Whether a word of three equal characters begins a document or ends one here. -/
def isMark (c : Cursor) (m : Char) : Bool :=
  c.column == 0 && c.rest.take 3 == [m, m, m] && isBlankOrEnd (c.peekAt 3)

/-- Whether a document begins or ends here. -/
def isDocumentMark (c : Cursor) : Bool := c.isMark '-' || c.isMark '.'

end Cursor

end SyscallCensus.Yaml
