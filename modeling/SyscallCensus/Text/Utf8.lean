/-!
# UTF-8

The decoding of `SPEC_FULL.md`, Section 10.2: "non-UTF-8 bytes never abort a run".

The decoder reads one byte at a time and always answers: each maximal part of the input that begins
a character and cannot be completed is read as one replacement character U+FFFD, and so is every
byte that begins none. A decoder between two characters holds nothing, so a byte that can stand only
between characters (a line feed, for one) separates the reading of what is before it from what
follows.
-/

namespace SyscallCensus.Text.Utf8

/-- The replacement character. -/
def replacement : Char := Char.ofNat 0xFFFD

/-- A character of which the first bytes were read. -/
structure Partial where
  /-- How many bytes are still owed after the next one. -/
  owed : Nat
  /-- The least byte that may come next. -/
  low : UInt8
  /-- The greatest byte that may come next. -/
  high : UInt8
  /-- The code point bits read so far. -/
  bits : Nat
  deriving DecidableEq, Repr

/-- What a byte above the ASCII range announces, if it can begin a character. The bounds on the
second byte exclude overlong forms, surrogates and code points past the last one. -/
def lead? (b : UInt8) : Option Partial :=
  if b < 0xC2 then none
  else if b < 0xE0 then some ⟨0, 0x80, 0xBF, b.toNat - 0xC0⟩
  else if b < 0xF0 then
    some ⟨1, if b = 0xE0 then 0xA0 else 0x80, if b = 0xED then 0x9F else 0xBF, b.toNat - 0xE0⟩
  else if b < 0xF5 then
    some ⟨2, if b = 0xF0 then 0x90 else 0x80, if b = 0xF4 then 0x8F else 0xBF, b.toNat - 0xF0⟩
  else none

/-- Reads a byte between two characters. -/
def begin (b : UInt8) : List Char × Option Partial :=
  if b < 0x80 then ([Char.ofNat b.toNat], none)
  else match lead? b with
    | some p => ([], some p)
    | none => ([replacement], none)

/-- Reads one byte: the characters it completes, and the character it leaves open. -/
def step : Option Partial → UInt8 → List Char × Option Partial
  | none, b => begin b
  | some p, b =>
    if p.low ≤ b ∧ b ≤ p.high then
      match p.owed with
      | 0 => ([Char.ofNat (p.bits * 64 + (b.toNat - 0x80))], none)
      | owed + 1 => ([], some ⟨owed, 0x80, 0xBF, p.bits * 64 + (b.toNat - 0x80)⟩)
    else (replacement :: (begin b).1, (begin b).2)

/-- Decodes the rest of a text, given the character that was left open. -/
def decodeFrom : Option Partial → List UInt8 → List Char
  | none, [] => []
  | some _, [] => [replacement]
  | state, b :: rest => (step state b).1 ++ decodeFrom (step state b).2 rest

/-- Decodes a text. -/
def decode (bytes : List UInt8) : List Char := decodeFrom none bytes

/-- The text of bytes that are well formed. -/
def decode? (bytes : List UInt8) : Option String := String.fromUTF8? ⟨bytes.toArray⟩

/-- The bytes of a text. -/
def encode (text : String) : List UInt8 := text.toUTF8.data.toList

end SyscallCensus.Text.Utf8
