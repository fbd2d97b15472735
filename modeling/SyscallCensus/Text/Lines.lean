import SyscallCensus.Text.Utf8

/-!
# Lines

"Lines are read as bytes and decoded lossily" (`SPEC_FULL.md`, Section 10.2).

A text is cut behind every line feed. The cutting is done on bytes, before anything is decoded: a
line feed never belongs to a longer character, so no character is cut in two.
-/

namespace SyscallCensus.Text

/-- The line feed byte. -/
def lineFeed : UInt8 := 0x0A

/-- Puts a byte before lines that were cut already. -/
def consByte (b : UInt8) (lines : List (List UInt8)) : List (List UInt8) :=
  if b = lineFeed then [b] :: lines
  else match lines with
    | [] => [[b]]
    | line :: others => (b :: line) :: others

/-- The lines of a text, each with its line feed; only the last one may lack it. -/
def lines (bytes : List UInt8) : List (List UInt8) := bytes.foldr consByte []

/-- The lines that end in a line feed. -/
def completeLines (bytes : List UInt8) : List (List UInt8) :=
  (lines bytes).filter fun line => line.getLast? == some lineFeed

/-- A line without the carriage returns and line feeds at its end. -/
def chompLine (line : List Char) : List Char :=
  (line.reverse.dropWhile fun c => c == '\n' || c == '\r').reverse

/-- The text of a line: decoded, without its line end. -/
def lineText (line : List UInt8) : List Char := chompLine (Utf8.decode line)

end SyscallCensus.Text
