import SyscallCensus.Yaml.Cursor

/-!
# Scalars

A part of the YAML that settings are written in (`SPEC_FULL.md`, Section 10.7).

The three ways to write a text: plain, between quotes, and as a block of lines. In the first two a
line break between words is folded: a single one becomes a space, of several the first is dropped.
In a block the lines stay, or are folded where the block says so.

Loops over lines take a bound on their number. A line takes at least one character, so the length of
the text is always enough.
-/

namespace SyscallCensus.Yaml

/-- How a scalar is written. -/
inductive Style where
  /-- Without any mark. -/
  | plain
  /-- Between quotes of either kind. -/
  | quoted
  /-- As a block whose lines stay. -/
  | literal
  /-- As a block whose lines are folded. -/
  | folded
  deriving DecidableEq, Repr

/-! ### White space between words -/

/-- White space between two words. -/
structure Gap where
  /-- The blanks, where there is no line break. -/
  blanks : List Char
  /-- Whether there is a line break. -/
  broken : Bool
  /-- What the first line break counts for. -/
  first : List Char
  /-- What the other line breaks count for. -/
  others : List Char
  deriving Repr

namespace Gap

/-- No white space. -/
def none : Gap := ⟨[], false, [], []⟩

/-- The white space behind a line break that does not count. -/
def escaped : Gap := ⟨[], true, [], []⟩

/-- What white space between words counts for. -/
def text (gap : Gap) : List Char :=
  if gap.broken then
    if gap.first == ['\n'] then (if gap.others.isEmpty then [' '] else gap.others)
    else gap.first ++ gap.others
  else gap.blanks

/-- Reads white space. A tab in front of column `indent` of a later line is refused. -/
def scan (indent : Nat) : (bound : Nat) → Gap → Cursor → Option (Gap × Cursor)
  | 0, gap, c => some (gap, c)
  | bound + 1, gap, c =>
    match c.peek with
    | Option.none => some (gap, c)
    | some ch =>
      if isBlank ch then
        if gap.broken then
          if ch == '\t' && c.column < indent then Option.none else scan indent bound gap (c.skip 1)
        else scan indent bound { gap with blanks := gap.blanks ++ [ch] } (c.skip 1)
      else if isBreak ch then
        if gap.broken then
          scan indent bound { gap with others := gap.others ++ c.breakText } c.skipLine
        else scan indent bound ⟨[], true, c.breakText, []⟩ c.skipLine
      else some (gap, c)

end Gap

/-! ### Plain scalars -/

/-- A word of a plain scalar. A colon ends it where white space follows, and inside of brackets a
comma or a bracket does; there a colon in front of one of those is refused. -/
def plainWord (inFlow : Bool) : List Char → Option (List Char)
  | [] => some []
  | c :: rest =>
    if isBlank c || isBreak c then some []
    else if inFlow && c == ':' && isOneOf [',', '?', '[', ']', '\x7b', '\x7d'] rest.head? then none
    else if (c == ':' && isBlankOrEnd rest.head?) ||
        (inFlow && [',', '[', ']', '\x7b', '\x7d'].contains c) then
      some []
    else (plainWord inFlow rest).map (c :: ·)

/-- Reads a plain scalar whose lines begin at column `indent` or later. The result tells whether a
line break was read behind its last word. -/
def scanPlain (inFlow : Bool) (indent : Nat) :
    (bound : Nat) → List Char → Gap → Cursor → Option (List Char × Bool × Cursor)
  | 0, text, gap, c => some (text, gap.broken, c)
  | bound + 1, text, gap, c =>
    if c.isDocumentMark || c.peek == some '#' then some (text, gap.broken, c)
    else do
      let word ← plainWord inFlow c.rest
      let behind := c.skip word.length
      let text := if word.isEmpty then text else text ++ gap.text ++ word
      let gap := if word.isEmpty then gap else .none
      match behind.peek with
      | some ch =>
        if isBlank ch || isBreak ch then
          let (gap, next) ← gap.scan indent behind.rest.length behind
          if !inFlow && next.column < indent then return (text, gap.broken, next)
          else scanPlain inFlow indent bound text gap next
        else return (text, gap.broken, behind)
      | none => return (text, gap.broken, behind)

/-! ### Quoted scalars -/

/-- Where a run of characters between quotes ends. -/
inductive RunEnd where
  /-- At the closing quote. -/
  | closed
  /-- At white space. -/
  | blank
  /-- At a backslash before a line break. -/
  | escapedBreak
  deriving DecidableEq, Repr

/-- The characters between single quotes up to white space or the closing quote, which is not
doubled, and the text from there on. -/
def singleRun : List Char → Option (List Char × RunEnd × List Char)
  | [] => some ([], .blank, [])
  | '\'' :: '\'' :: rest => (singleRun rest).map fun (cs, e, rest) => ('\'' :: cs, e, rest)
  | '\'' :: rest => some ([], .closed, '\'' :: rest)
  | c :: rest =>
    if isBlank c || isBreak c then some ([], .blank, c :: rest)
    else (singleRun rest).map fun (cs, e, rest) => (c :: cs, e, rest)

/-- The character that an escape of one letter stands for. -/
def letterEscape? (c : Char) : Option Char :=
  [('0', Char.ofNat 0x00), ('a', Char.ofNat 0x07), ('b', Char.ofNat 0x08), ('t', '\t'),
    ('\t', '\t'), ('n', '\n'), ('v', Char.ofNat 0x0B), ('f', Char.ofNat 0x0C), ('r', '\r'),
    ('e', Char.ofNat 0x1B), (' ', ' '), ('"', '"'),
    ('/', '/'), ('\\', '\\'), ('N', Char.ofNat 0x85), ('_', Char.ofNat 0xA0),
    ('L', Char.ofNat 0x2028),
    ('P', Char.ofNat 0x2029)].lookup c

/-- The value of a hexadecimal digit. -/
def hexDigit? (c : Char) : Option Nat :=
  if c.isDigit then some (c.toNat - '0'.toNat)
  else if 'a' ≤ c ∧ c ≤ 'f' then some (c.toNat - 'a'.toNat + 10)
  else if 'A' ≤ c ∧ c ≤ 'F' then some (c.toNat - 'A'.toNat + 10)
  else none

/-- The character with the code that hexadecimal digits denote. -/
def codeEscape? (digits : List Char) : Option Char := do
  let code ← digits.foldlM (fun n d => (hexDigit? d).map (n * 16 + ·)) 0
  if code.isValidChar then some (Char.ofNat code) else none

/-- How many digits follow an escape with a code. -/
def codeLength? (c : Char) : Option Nat := [('x', 2), ('u', 4), ('U', 8)].lookup c

/-- The characters between double quotes up to white space or the closing quote, and the text from
there on. -/
def doubleRun : (bound : Nat) → List Char → Option (List Char × RunEnd × List Char)
  | 0, rest => some ([], .blank, rest)
  | _ + 1, [] => some ([], .blank, [])
  | _ + 1, '"' :: rest => some ([], .closed, '"' :: rest)
  | _ + 1, ['\\'] => none
  | bound + 1, '\\' :: c :: rest =>
    if isBreak c then some ([], .escapedBreak, '\\' :: c :: rest)
    else
      match codeLength? c with
      | some n => do
        let ch ← if rest.length < n then none else codeEscape? (rest.take n)
        (doubleRun bound (rest.drop n)).map fun (cs, e, rest) => (ch :: cs, e, rest)
      | none => do
        let ch ← letterEscape? c
        (doubleRun bound rest).map fun (cs, e, rest) => (ch :: cs, e, rest)
  | bound + 1, c :: rest =>
    if isBlank c || isBreak c then some ([], .blank, c :: rest)
    else (doubleRun bound rest).map fun (cs, e, rest) => (c :: cs, e, rest)

/-- Reads a quoted scalar behind its opening quote. -/
def scanQuoted (single : Bool) : (bound : Nat) → List Char → Cursor → Option (List Char × Cursor)
  | 0, _, _ => none
  | bound + 1, text, c =>
    if c.isDocumentMark || c.peek.isNone then none
    else do
      let (run, runEnd, rest) ← if single then singleRun c.rest else doubleRun c.rest.length c.rest
      let text := text ++ run
      let behind := c.moveTo rest
      match runEnd with
      | .closed => return (text, behind.skip 1)
      | .blank =>
        let (gap, next) ← Gap.none.scan 0 behind.rest.length behind
        scanQuoted single bound (text ++ gap.text) next
      | .escapedBreak =>
        let (gap, next) ← Gap.escaped.scan 0 behind.rest.length (behind.skip 1).skipLine
        scanQuoted single bound (text ++ gap.text) next

/-! ### Block scalars -/

/-- What happens to the line breaks at the end of a block. -/
inductive Chomping where
  /-- All go. -/
  | strip
  /-- The first one stays. -/
  | clip
  /-- All stay. -/
  | keep
  deriving DecidableEq, Repr

/-- The chomping that a character asks for. -/
def Chomping.ofChar? : Option Char → Option Chomping
  | some '+' => some .keep
  | some '-' => some .strip
  | _ => none

/-- The indentation that a character asks for; 0 is refused. -/
def increment? (c : Option Char) : Option (Option Nat) :=
  match c with
  | some d =>
    if d.isDigit then (if d == '0' then none else some (some (d.toNat - '0'.toNat))) else some none
  | none => some none

/-- Reads the header of a block behind its mark: chomping and indentation in either order, and
nothing else but blanks and a comment up to the end of the line. -/
def scanBlockHeader (c : Cursor) : Option (Chomping × Option Nat × Cursor) := do
  let (chomping, increment, c) ←
    match Chomping.ofChar? c.peek with
    | some chomping => do
      let increment ← increment? (c.peekAt 1)
      pure (chomping, increment, c.skip (if increment.isSome then 2 else 1))
    | none => do
      match ← increment? c.peek with
      | some increment =>
        match Chomping.ofChar? (c.peekAt 1) with
        | some chomping => pure (chomping, some increment, c.skip 2)
        | none => pure (Chomping.clip, some increment, c.skip 1)
      | none => pure (Chomping.clip, none, c)
  let c := (c.skipWhile isBlank).skipComment
  if isBreakOrEnd c.peek then return (chomping, increment, c.skipLine) else none

/-- Reads indentation and empty lines. Without a known indentation all spaces count, and the result
tells the deepest column that was reached. A tab in place of indentation is refused. -/
def scanBlockBreaks (indent : Option Nat) : (bound : Nat) → (deepest : Nat) → List Char → Cursor →
    Option (Nat × List Char × Cursor)
  | 0, deepest, breaks, c => some (deepest, breaks, c)
  | bound + 1, deepest, breaks, c => do
    let spaces := (c.takeWhile (· == ' ')).length
    let c := c.skip (match indent with
      | some n => min spaces (n - c.column)
      | none => spaces)
    let deepest := max deepest c.column
    if c.peek == some '\t' && indent.all (c.column < ·) then none
    else if c.peek.any isBreak then
      scanBlockBreaks indent bound deepest (breaks ++ c.breakText) c.skipLine
    else return (deepest, breaks, c)

/-- Reads the lines of a block. `lineBreak` is the break behind the line before, `breaks` are the
empty lines behind it, and `afterBlank` tells that it began with a blank. -/
def scanBlockLines (style : Style) (indent : Nat) :
    (bound : Nat) → (text lineBreak breaks : List Char) →
    (afterBlank : Bool) → Cursor → Option (List Char × List Char × List Char × Cursor)
  | 0, text, lineBreak, breaks, _, c => some (text, lineBreak, breaks, c)
  | bound + 1, text, lineBreak, breaks, afterBlank, c =>
    if c.column != indent || c.peek.isNone then some (text, lineBreak, breaks, c)
    else do
      let blank := c.peek.any isBlank
      let joint :=
        if style == .folded && lineBreak == ['\n'] && !afterBlank && !blank then
          (if breaks.isEmpty then [' '] else [])
        else lineBreak
      let line := c.takeWhile fun c => !isBreak c
      let behind := c.skip line.length
      let (_, next, c) ← scanBlockBreaks (some indent) (behind.rest.length + 1) 0 [] behind.skipLine
      scanBlockLines style indent bound
        (text ++ joint ++ breaks ++ line) behind.breakText next blank c

/-- Reads a block scalar behind its mark. `parent` is the indentation of the collection around it,
with 0 for none and one more than the column otherwise. -/
def scanBlock (style : Style) (parent : Nat) (c : Cursor) : Option (List Char × Cursor) := do
  let (chomping, increment, c) ← scanBlockHeader c
  let known := increment.map fun n => parent - 1 + n
  let (deepest, breaks, c) ← scanBlockBreaks known (c.rest.length + 1) 0 [] c
  let indent := known.getD (max (max deepest parent) 1)
  let (text, lineBreak, breaks, c) ← scanBlockLines style indent
    (c.rest.length + 1) [] [] breaks false c
  match chomping with
  | .strip => return (text, c)
  | .clip => return (text ++ lineBreak, c)
  | .keep => return (text ++ lineBreak ++ breaks, c)

end SyscallCensus.Yaml
