/-!
# JSON values

What a settings file in JSON holds (`SPEC_FULL.md`, Section 10.7).

A value keeps what reading needs. Of a number that is not an integer only its shape is kept. A
string may be written correctly and still denote no text: its bytes or its escapes may be
ill-formed. Such a string is a value whose text is missing; it does no harm where nobody reads it.
-/

namespace SyscallCensus.Json

/-- A number. -/
inductive Number where
  /-- An integer without a minus sign. -/
  | natural (n : Nat)
  /-- An integer behind a minus sign. -/
  | negative (n : Nat)
  /-- A number with a fraction or an exponent. -/
  | fractional
  deriving DecidableEq, Repr

/-- A value. -/
inductive Value where
  /-- No value. -/
  | null
  /-- A truth value. -/
  | bool (b : Bool)
  /-- A number. -/
  | number (n : Number)
  /-- A string, with its text if it denotes one. -/
  | string (text : Option String)
  /-- A list of values. -/
  | array (items : List Value)
  /-- Named values in the order in which they are written; a name may repeat. -/
  | object (members : List (Option String × Value))

namespace Value

/-- The integer below a bound that a value is. -/
def nat? (bound : Nat) : Value → Option Nat
  | .number (.natural n) => if n < bound then some n else none
  | _ => none

/-- The text that a value is. -/
def text? : Value → Option String
  | .string text => text
  | _ => none

/-- The texts of a list of them. -/
def texts? : Value → Option (List String)
  | .array items => items.mapM text?
  | _ => none

/-- A value that may be absent: `null` stands for that. -/
def orNull? {α : Type} (read : Value → Option α) : Value → Option (Option α)
  | .null => some none
  | v => (read v).map some

end Value

end SyscallCensus.Json
