/-!
# Texts that are no patterns

How a pattern in a logging specification is refused (`SPEC_FULL.md`, Section 10.6).

Why a text is no pattern, and where in the text the reason stands. A failure is shown with the text
itself and marks below the places that it is about.
-/

namespace SyscallCensus

/-- A part of a text, by the numbers of characters before its two ends. -/
structure Span where
  /-- Where it begins. -/
  first : Nat
  /-- Where it ends. -/
  last : Nat
  deriving DecidableEq, Repr, Inhabited

/-- Why a text is no pattern. -/
inductive PatternFault where
  /-- An escape that has no place in a set stands in one. -/
  | setEscape
  /-- A range ends before it begins. -/
  | rangeOrder
  /-- A range begins or ends with something else than a character. -/
  | rangeEnd
  /-- A set is not closed. -/
  | openSet
  /-- A number is too large. -/
  | badNumber
  /-- A code has no digits. -/
  | emptyCode
  /-- A code belongs to no character. -/
  | badCode
  /-- A code has something else than a digit. -/
  | badCodeDigit
  /-- An escape is cut short. -/
  | cutEscape
  /-- An escape is not known. -/
  | unknownEscape
  /-- The sign that turns flags off has no flag behind it. -/
  | danglingMinus
  /-- A flag is given twice. -/
  | repeatedFlag
  /-- The sign that turns flags off is given twice. -/
  | repeatedMinus
  /-- The text ends among flags. -/
  | cutFlags
  /-- A flag is not known. -/
  | unknownFlag
  /-- A name of a group is given twice. -/
  | repeatedName
  /-- A name of a group is empty. -/
  | emptyName
  /-- A name of a group has a character that names have not. -/
  | badName
  /-- A name of a group is not closed. -/
  | openName
  /-- A group is not closed. -/
  | openGroup
  /-- A group is closed that was not opened. -/
  | closedGroup
  /-- Parts are nested too deep. -/
  | tooDeep
  /-- A repetition has a greatest number below its least one. -/
  | countOrder
  /-- A repetition has no number where one has to be. -/
  | emptyCount
  /-- The numbers of a repetition are not closed. -/
  | openCount
  /-- There is nothing to repeat. -/
  | nothingRepeated
  /-- The name of an assertion about words is not closed. -/
  | openBoundary
  /-- The name of an assertion about words is not known. -/
  | unknownBoundary
  /-- The text ends where an assertion about words or a repetition goes on. -/
  | cutBoundary
  /-- A property of characters has no name. -/
  | badProperty
  /-- A reference to a group. -/
  | reference
  /-- A look ahead or behind. -/
  | lookAround
  /-- A property or a character that belongs to Unicode, where only bytes are meant. -/
  | unicodeHere
  /-- Something that could be a part of a character only. -/
  | splitCharacter
  /-- A property of characters is not known. -/
  | unknownProperty
  /-- A value of a property of characters is not known. -/
  | unknownPropertyValue
  deriving DecidableEq, Repr, Inhabited

/-- The wording of a reason. -/
def PatternFault.message : PatternFault → String
  | .setEscape => "invalid escape sequence found in character class"
  | .rangeOrder => "invalid character class range, the start must be <= the end"
  | .rangeEnd => "invalid range boundary, must be a literal"
  | .openSet => "unclosed character class"
  | .badNumber => "decimal literal invalid"
  | .emptyCode => "hexadecimal literal empty"
  | .badCode => "hexadecimal literal is not a Unicode scalar value"
  | .badCodeDigit => "invalid hexadecimal digit"
  | .cutEscape => "incomplete escape sequence, reached end of pattern prematurely"
  | .unknownEscape => "unrecognized escape sequence"
  | .danglingMinus => "dangling flag negation operator"
  | .repeatedFlag => "duplicate flag"
  | .repeatedMinus => "flag negation operator repeated"
  | .cutFlags => "expected flag but got end of regex"
  | .unknownFlag => "unrecognized flag"
  | .repeatedName => "duplicate capture group name"
  | .emptyName => "empty capture group name"
  | .badName => "invalid capture group character"
  | .openName => "unclosed capture group name"
  | .openGroup => "unclosed group"
  | .closedGroup => "unopened group"
  | .tooDeep => "exceed the maximum number of nested parentheses/brackets (250)"
  | .countOrder => "invalid repetition count range, the start must be <= the end"
  | .emptyCount => "repetition quantifier expects a valid decimal"
  | .openCount => "unclosed counted repetition"
  | .nothingRepeated => "repetition operator missing expression"
  | .openBoundary =>
    "special word boundary assertion is either unclosed or contains an invalid character"
  | .unknownBoundary =>
    "unrecognized special word boundary assertion, " ++
      "valid choices are: start, end, start-half or end-half"
  | .cutBoundary =>
    "found either the beginning of a special word boundary or a bounded repetition on a " ++
      "\\b with an opening brace, " ++
      "but no closing brace"
  | .badProperty => "invalid Unicode character class"
  | .reference => "backreferences are not supported"
  | .lookAround => "look-around, including look-ahead and look-behind, is not supported"
  | .unicodeHere => "Unicode not allowed here"
  | .splitCharacter => "pattern can match invalid UTF-8"
  | .unknownProperty => "Unicode property not found"
  | .unknownPropertyValue => "Unicode property value not found"

/-- A reason with the place that it is about. -/
structure PatternError where
  /-- The reason. -/
  fault : PatternFault
  /-- Where it stands. -/
  span : Span
  /-- What it conflicts with. -/
  other : Option Span
  deriving DecidableEq, Repr, Inhabited

namespace PatternError

/-- Spaces. -/
def spaces (n : Nat) : String := String.ofList (List.replicate n ' ')

/-- The line and the column of a place in a text, both from 0 up. -/
def lineAndColumn (text : List Char) (place : Nat) : Nat × Nat :=
  (text.take place).foldl (fun (line, column) c =>
    if c == '\n' then (line + 1, 0) else (line, column + 1)) (0, 0)

/-- The lines of a text. Behind a last line feed there is none. -/
def linesOf (text : List Char) : List String :=
  let lines := (String.ofList text).splitOn "\n"
  (if lines.getLast? == some "" then lines.dropLast else lines).map fun line =>
    if line.endsWith "\r" && text.contains '\n' then String.ofList line.toList.dropLast else line

/-- The marks below a line: one or more below each part. The parts are given by their columns, in
order. -/
def marks (column : Nat) : List (Nat × Nat) → String
  | [] => ""
  | (first, last) :: others =>
    let width := max 1 (last - first)
    spaces (first - column) ++ String.ofList (List.replicate width '^') ++
      marks (max column first + width) others

/-- The parts of a text that a failure is about, in order. -/
def spans (e : PatternError) : List Span :=
  match e.other with
  | none => [e.span]
  | some other => if other.first < e.span.first then [other, e.span] else [e.span, other]

/-- The lines of a text with marks below the parts that a failure is about. Several lines are
numbered, and the parts that go over more than one line have no marks. -/
def markedLines (e : PatternError) (text : List Char) : String :=
  let lines := linesOf text
  let count := lines.length + (if text.getLast? == some '\n' then 1 else 0)
  let width := if count ≤ 1 then 0 else (toString count).length
  let places := e.spans.map fun s => (lineAndColumn text s.first, lineAndColumn text s.last)
  String.join (lines.zipIdx.map fun (line, n) =>
    let number := toString (n + 1)
    let margin := if width = 0 then spaces 4 else spaces (width - number.length) ++ number ++ ": "
    let marked := places.filterMap fun (first, last) =>
      if first.1 = n ∧ last.1 = n then some (first.2, last.2) else none
    margin ++ line ++ "\n" ++
      (if marked.isEmpty then "" else spaces margin.length ++ marks 0 marked ++ "\n"))

/-- The parts that go over more than one line, in words. -/
def longSpans (e : PatternError) (text : List Char) : String :=
  String.join (e.spans.filterMap fun s =>
    let (first, last) := (lineAndColumn text s.first, lineAndColumn text s.last)
    if first.1 = last.1 then none
    else some ("on line " ++ toString (first.1 + 1) ++ " (column " ++ toString (first.2 + 1) ++
      ") through line " ++ toString (last.1 + 1) ++ " (column " ++ toString last.2 ++ ")\n"))

/-- The wording of a failure to read a text as a pattern. -/
def message (e : PatternError) (text : List Char) : String :=
  let rule := if text.contains '\n' then String.ofList (List.replicate 79 '~') ++ "\n" else ""
  "regex parse error:\n" ++ rule ++ e.markedLines text ++ rule ++ e.longSpans text ++ "error: " ++
    e.fault.message

end PatternError

end SyscallCensus
