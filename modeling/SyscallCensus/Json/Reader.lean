import SyscallCensus.Json.Value
import SyscallCensus.Text.Utf8

/-!
# Reading JSON

The form of settings files whose extension is `.json` in `SPEC_FULL.md`, Section 10.7
(Configuration).

The grammar of JSON, on bytes. White space is space, tab, line feed and carriage return. A reader
takes what stands at the beginning of the input and gives it with the rest.
-/

namespace SyscallCensus.Json

/-- The input that is left. -/
abbrev Input := List UInt8

/-- Whether a byte is white space. -/
def isSpace (b : UInt8) : Bool := b == 0x20 || b == 0x09 || b == 0x0A || b == 0x0D

/-- What follows the white space at the beginning. -/
def skipSpace (input : Input) : Input := input.dropWhile isSpace

/-- The value of a hexadecimal digit. -/
def hexDigit? (b : UInt8) : Option Nat :=
  if 0x30 ≤ b ∧ b ≤ 0x39 then some (b.toNat - 0x30)
  else if 0x61 ≤ b ∧ b ≤ 0x66 then some (b.toNat - 0x61 + 10)
  else if 0x41 ≤ b ∧ b ≤ 0x46 then some (b.toNat - 0x41 + 10)
  else none

/-! ### Strings -/

/-- A piece of a string. -/
inductive Piece where
  /-- A byte that stands for itself or is written with a short escape. -/
  | byte (b : UInt8)
  /-- A 16-bit unit that is written as an escape. -/
  | unit (u : Nat)
  deriving DecidableEq, Repr

/-- The byte that a short escape stands for. -/
def shortEscape? (b : UInt8) : Option UInt8 :=
  [(0x22, 0x22), (0x5C, 0x5C), (0x2F, 0x2F), (0x62, 0x08), (0x66, 0x0C), (0x6E, 0x0A), (0x72, 0x0D),
    (0x74, 0x09)].lookup b

/-- The pieces of a string up to its closing quote. Control characters have to be escaped. -/
def pieces : Input → Option (List Piece × Input)
  | 0x22 :: rest => some ([], rest)
  | 0x5C :: 0x75 :: a :: b :: c :: d :: rest => do
    let unit := (((← hexDigit? a) * 16 + (← hexDigit? b)) * 16 + (← hexDigit? c)) * 16 +
      (← hexDigit? d)
    let (more, rest) ← pieces rest
    return (.unit unit :: more, rest)
  | 0x5C :: e :: rest => do
    let byte ← shortEscape? e
    let (more, rest) ← pieces rest
    return (.byte byte :: more, rest)
  | b :: rest =>
    if b < 0x20 || b == 0x5C then none
    else do
      let (more, rest) ← pieces rest
      return (.byte b :: more, rest)
  | [] => none

/-- The bytes of a string. Two units that are halves of one character have to stand together; a half
alone denotes nothing. -/
def pieceBytes : List Piece → Option (List UInt8)
  | [] => some []
  | .byte b :: rest => (pieceBytes rest).map (b :: ·)
  | .unit u :: rest =>
    if 0xD800 ≤ u ∧ u < 0xDC00 then
      match rest with
      | .unit v :: rest =>
        if 0xDC00 ≤ v ∧ v < 0xE000 then
          let c := Char.ofNat (0x10000 + (u - 0xD800) * 0x400 + (v - 0xDC00))
          (pieceBytes rest).map (Text.Utf8.encode (String.singleton c) ++ ·)
        else none
      | _ => none
    else if 0xDC00 ≤ u ∧ u < 0xE000 then none
    else (pieceBytes rest).map (Text.Utf8.encode (String.singleton (Char.ofNat u)) ++ ·)

/-- A string behind its opening quote: its text, if it denotes one. -/
def string? (input : Input) : Option (Option String × Input) := do
  let (ps, rest) ← pieces input
  return ((pieceBytes ps).bind Text.Utf8.decode?, rest)

/-! ### Numbers -/

/-- Whether a byte is a decimal digit. -/
def isDigit (b : UInt8) : Bool := 0x30 ≤ b && b ≤ 0x39

/-- The number that decimal digits denote. -/
def decimal (digits : Input) : Nat := digits.foldl (fun n b => n * 10 + (b.toNat - 0x30)) 0

/-- Digits, at least one. -/
def digits? (input : Input) : Option (Input × Input) :=
  if input.head?.any isDigit then some (input.takeWhile isDigit, input.dropWhile isDigit) else none

/-- The digits of an integer: no zero stands in front of another digit. -/
def integer? (input : Input) : Option (Nat × Input) := do
  let (digits, rest) ← digits? input
  if digits.length > 1 ∧ digits.head? = some 0x30 then none else return (decimal digits, rest)

/-- What follows a fraction, if there is one. -/
def fraction? : Input → Option (Bool × Input)
  | 0x2E :: rest => do
    let (_, rest) ← digits? rest
    return (true, rest)
  | input => some (false, input)

/-- What follows an exponent, if there is one. -/
def exponent? : Input → Option (Bool × Input)
  | e :: rest =>
    if e == 0x65 || e == 0x45 then do
      let unsigned := match rest with
        | s :: more => if s == 0x2B || s == 0x2D then more else rest
        | [] => rest
      let (_, rest) ← digits? unsigned
      return (true, rest)
    else some (false, e :: rest)
  | [] => some (false, [])

/-- A number without its sign. -/
def magnitude? (negative : Bool) (input : Input) : Option (Number × Input) := do
  let (n, rest) ← integer? input
  let (hasFraction, rest) ← fraction? rest
  let (hasExponent, rest) ← exponent? rest
  if hasFraction || hasExponent then return (.fractional, rest)
  else return (if negative then .negative n else .natural n, rest)

/-- A number. -/
def number? : Input → Option (Number × Input)
  | 0x2D :: rest => magnitude? true rest
  | input => magnitude? false input

/-! ### Values -/

/-- What follows a given word. -/
def word? : List UInt8 → Input → Option Input
  | [], input => some input
  | _ :: _, [] => none
  | w :: word, b :: rest => if w = b then word? word rest else none

/-- A quoted name and the colon behind it. -/
def memberName? (input : Input) : Option (Option String × Input) :=
  match skipSpace input with
  | 0x22 :: rest => do
    let (name, rest) ← string? rest
    match skipSpace rest with
    | 0x3A :: rest => return (name, rest)
    | _ => none
  | _ => none

mutual

/-- A value, of at most `depth` readers inside one another. -/
def value? : (depth : Nat) → Input → Option (Value × Input)
  | 0, _ => none
  | depth + 1, input =>
    match skipSpace input with
    | 0x22 :: rest => do
      let (text, rest) ← string? rest
      return (.string text, rest)
    | 0x5B :: rest =>
      match skipSpace rest with
      | 0x5D :: rest => some (.array [], rest)
      | rest => do
        let (items, rest) ← items? depth rest
        return (.array items, rest)
    | 0x7B :: rest =>
      match skipSpace rest with
      | 0x7D :: rest => some (.object [], rest)
      | rest => do
        let (members, rest) ← members? depth rest
        return (.object members, rest)
    | 0x74 :: rest => (word? [0x72, 0x75, 0x65] rest).map fun rest => (.bool true, rest)
    | 0x66 :: rest => (word? [0x61, 0x6C, 0x73, 0x65] rest).map fun rest => (.bool false, rest)
    | 0x6E :: rest => (word? [0x75, 0x6C, 0x6C] rest).map fun rest => (.null, rest)
    | input => (number? input).map fun (n, rest) => (.number n, rest)

/-- The values of a list up to its closing bracket. -/
def items? : (depth : Nat) → Input → Option (List Value × Input)
  | 0, _ => none
  | depth + 1, input => do
    let (item, rest) ← value? depth input
    match skipSpace rest with
    | 0x5D :: rest => return ([item], rest)
    | 0x2C :: rest =>
      let (more, rest) ← items? depth rest
      return (item :: more, rest)
    | _ => none

/-- Named values up to the closing brace. -/
def members? : (depth : Nat) → Input → Option (List (Option String × Value) × Input)
  | 0, _ => none
  | depth + 1, input => do
    let (name, rest) ← memberName? input
    let (member, rest) ← value? depth rest
    match skipSpace rest with
    | 0x7D :: rest => return ([(name, member)], rest)
    | 0x2C :: rest =>
      let (more, rest) ← members? depth rest
      return ((name, member) :: more, rest)
    | _ => none

end

/-- The value that is written in a text. Readers inside one another each take at least one byte, so
their number is bounded by the length of the text. -/
def parse? (bytes : List UInt8) : Option Value := do
  let (v, rest) ← value? (bytes.length + 1) bytes
  if (skipSpace rest).isEmpty then return v else none

end SyscallCensus.Json
