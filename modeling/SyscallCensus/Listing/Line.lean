import SyscallCensus.Registry.Basic
import SyscallCensus.Text.Blank
import SyscallCensus.Text.Word

/-!
# Lines of a listing

This module formalizes `SPEC_FULL.md`, Section 4.1 (Line Classifier), for the dialect of Section
10.2.

What a single line of a disassembly listing says. The listing has one instruction a line, preceded
by columns that do not matter here, and one `TEXT` line in front of each function:

    TEXT main.main(SB) /home/dev/hello/main.go
      main.go:6   0x1091fb9   e8a2ffffff   CALL main.write(SB)

Four things are recognised, and the first that applies decides: the start of a function, an
invocation of the system (the instruction itself, or a call of a wrapper function), the load of a
registered number, and a call of a named function. Everything else is ignored.

An instruction may stand anywhere in the line, but only as the beginning of a word; where its
operand does not have the right form, the search goes on behind it.
-/

namespace SyscallCensus.Listing

open Text

/-- What one line of a listing says. -/
inductive LineKind where
  /-- A function begins. -/
  | functionStart (name : String)
  /-- A function is called. -/
  | callTarget (name : String)
  /-- A registered number is loaded, which may select the next system call. -/
  | loadCandidate (id : SyscallId)
  /-- The system is invoked. -/
  | syscallInvocation
  /-- The line says nothing of interest. -/
  | ignored
  deriving DecidableEq, Repr

/-! ### Pieces of a line -/

/-- What follows a given beginning, if the text begins so. -/
def strip : List Char → List Char → Option (List Char)
  | [], text => some text
  | _ :: _, [] => none
  | p :: rest, c :: text => if p = c then strip rest text else none

/-- What follows a run of white space that is not empty. -/
def skipBlanks : List Char → Option (List Char)
  | [] => none
  | c :: rest => if isBlank c then some (rest.dropWhile isBlank) else none

/-- The characters of symbol names. -/
def isSymbolChar (c : Char) : Bool :=
  c.isAlphanum || ['_', '.', '/', '%', '*', '(', ')', '[', ']', '-'].contains c

/-- The mark behind a symbol: an address relative to the static base. -/
def staticBase : List Char := ['(', 'S', 'B', ')']

/-- The symbol at the beginning of a text: the shortest run of symbol characters, of at least one,
that is followed by the mark. The mark is made of symbol characters itself, so a symbol may begin
with it. As a pattern: `([A-Za-z0-9_./%*()\[\]\-]+?)\(SB\)`. -/
def symbol? : List Char → Option (List Char)
  | [] => none
  | c :: rest =>
    if isSymbolChar c then
      if (strip staticBase rest).isSome then some [c] else (symbol? rest).map (c :: ·)
    else none

/-- The answer of `read` at the first position that does not continue a word and at which it has
one. -/
def atWordStart {α : Type} (read : List Char → Option α) (afterWord : Bool) : List Char → Option α
  | [] => none
  | c :: rest =>
    match if afterWord then none else read (c :: rest) with
    | some answer => some answer
    | none => atWordStart read (isWord c) rest

/-- The answer of `read` at the first beginning of a word at which it has one. -/
def search {α : Type} (read : List Char → Option α) (line : List Char) : Option α :=
  atWordStart read false line

/-! ### The four recognisers -/

/-- The function that begins on a line, by the pattern
`^\s*TEXT\s+([A-Za-z0-9_./%*()\[\]\-]+?)\(SB\)`. -/
def functionStart? (line : List Char) : Option String := do
  let directive ← strip ['T', 'E', 'X', 'T'] (line.dropWhile isBlank)
  let operand ← skipBlanks directive
  (symbol? operand).map String.ofList

/-- The symbol that a call instruction at the beginning of a text calls, by the pattern
`\bCALL\s+([A-Za-z0-9_./%*()\[\]\-]+?)\(SB\)`, of which the first assertion is left to the
search. -/
def directCall? (text : List Char) : Option String := do
  let operand ← skipBlanks (← strip ['C', 'A', 'L', 'L'] text)
  (symbol? operand).map String.ofList

/-- The value of a hexadecimal digit. -/
def hexDigit? (c : Char) : Option Nat :=
  if '0' ≤ c ∧ c ≤ '9' then some (c.toNat - '0'.toNat)
  else if 'a' ≤ c ∧ c ≤ 'f' then some (c.toNat - 'a'.toNat + 10)
  else if 'A' ≤ c ∧ c ≤ 'F' then some (c.toNat - 'A'.toNat + 10)
  else none

/-- The number that hexadecimal digits denote. -/
def hexValue (digits : List Char) : Nat :=
  digits.foldl (fun value c => value * 16 + (hexDigit? c).getD 0) 0

/-- What follows the name of a 32-bit or 64-bit move. -/
def afterMove? (text : List Char) : Option (List Char) :=
  (strip ['M', 'O', 'V', 'L'] text).or (strip ['M', 'O', 'V', 'Q'] text)

/-- The number that a move instruction at the beginning of a text loads: hexadecimal digits up to
the end of the word, of any length. The pattern is `\bMOV[LQ]\s+\$0x([0-9A-Fa-f]+)\b`, of which the
first assertion is left to the search. -/
def immediateLoad? (text : List Char) : Option Nat := do
  let literal ← strip ['$', '0', 'x'] (← skipBlanks (← afterMove? text))
  let digits := literal.takeWhile fun c => (hexDigit? c).isSome
  let rest := literal.dropWhile fun c => (hexDigit? c).isSome
  if digits.isEmpty || rest.head?.any isWord then none else some (hexValue digits)

/-- Whether a text begins with the system call instruction as a whole word. -/
def syscallInstruction? (text : List Char) : Option Unit :=
  match strip ['S', 'Y', 'S', 'C', 'A', 'L', 'L'] text with
  | some rest => if rest.head?.any isWord then none else some ()
  | none => none

/-- The characters of one segment of a package path. -/
def isPathChar (c : Char) : Bool := isWord c || c == '.' || c == '%' || c == '-'

/-- Whether `accepts` holds at the beginning of a text or behind some of its first path segments,
where a segment is a run of path characters, of at least one, and a slash. `inSegment` tells that
the segment has begun. -/
def behindPath (accepts : List Char → Bool) : (inSegment : Bool) → List Char → Bool
  | false, [] => accepts []
  | true, [] => false
  | false, c :: rest => accepts (c :: rest) || (isPathChar c && behindPath accepts true rest)
  | true, c :: rest =>
    if c == '/' then behindPath accepts false rest else isPathChar c && behindPath accepts true rest

/-- Whether `accepts` holds behind some of the white space at the beginning of a text, of at least
one character. -/
def behindBlanks (accepts : List Char → Bool) : List Char → Bool
  | [] => false
  | c :: rest => isBlank c && (accepts rest || behindBlanks accepts rest)

/-- What follows the name of an instruction that transfers control. -/
def afterTransfer? (text : List Char) : Option (List Char) :=
  (strip ['C', 'A', 'L', 'L'] text).or (strip ['J', 'M', 'P'] text)

/-- Whether a text begins with a call of a wrapper, or a jump to one. The wrapper's name is read
literally, and a package path may precede it. An empty name is no wrapper. -/
def wrapperCall? (wrappers : List String) (text : List Char) : Option Unit :=
  match afterTransfer? text with
  | some rest =>
    let named (target : List Char) : Bool :=
      wrappers.any fun w => !w.isEmpty && (strip w.toList target).isSome
    if behindBlanks (behindPath named false) rest then some () else none
  | none => none

/-- Whether a line invokes the system, by the pattern `\bSYSCALL\b`, to which is added, where there
are wrappers `w₁`, …, `wₙ` whose names are not empty,
`|\b(?:CALL|JMP)\s+(?:[\w.%\-]+/)*(?:w₁|…|wₙ)`. -/
def isInvocation (wrappers : List String) (line : List Char) : Bool :=
  (search syscallInstruction? line).isSome || (search (wrapperCall? wrappers) line).isSome

/-- What a line says that loads a number: the number counts if it is registered. -/
def loadKind (registry : Registry) (value : Nat) : LineKind :=
  if value < 0x10000 ∧ registry.contains (UInt16.ofNat value) then
    .loadCandidate (UInt16.ofNat value)
  else .ignored

/-- What a line says. -/
def classify (registry : Registry) (wrappers : List String) (line : List Char) : LineKind :=
  match functionStart? line with
  | some name => .functionStart name
  | none =>
    if isInvocation wrappers line then .syscallInvocation
    else match search immediateLoad? line with
      | some value => loadKind registry value
      | none =>
        match search directCall? line with
        | some name => .callTarget name
        | none => .ignored

/-- Whether a line ends a function: it holds nothing but white space. -/
def isEndOfBlock (line : List Char) : Bool := line.all isBlank

end SyscallCensus.Listing
