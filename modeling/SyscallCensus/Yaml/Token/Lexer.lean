import SyscallCensus.Yaml.Token

/-!
# From characters to tokens

A part of the YAML that settings are written in (`SPEC_FULL.md`, Section 10.7).

Two things make the words of YAML depend on their surroundings. Inside of brackets and braces (the
flow context) indentation does not count; outside (the block context) a line that is indented less
than a block ends it. And a key is recognised only by the colon behind it, so the place where a key
may have begun is kept until the colon comes or cannot come any more: a key has to stand on one line
and take at most 1024 bytes.

A text that is not well formed has no tokens; why is not told.
-/

namespace SyscallCensus.Yaml

/-- A place where a key may have begun. -/
structure KeyStart where
  /-- How many tokens stand in front of it. -/
  token : Nat
  /-- Whether nothing but a key may stand there. -/
  required : Bool
  /-- Its index in the text. -/
  index : Nat
  /-- Its line. -/
  line : Nat
  /-- Its column. -/
  column : Nat
  deriving Repr

/-- What is known while tokens are read. -/
structure Lexer where
  /-- Where the next token is looked for. -/
  cursor : Cursor
  /-- The tokens so far. -/
  tokens : Array Token
  /-- The indentation of the open blocks, innermost first, each one more than its column. -/
  indents : List Nat
  /-- Where a key may have begun: for the innermost open bracket first, for no bracket last. -/
  keys : List (Option KeyStart)
  /-- Whether a key may begin here. -/
  keyAllowed : Bool
  deriving Repr

namespace Lexer

/-- The beginning of a text. -/
def start (text : List Char) : Lexer := ⟨.start text, #[], [], [none], true⟩

/-- The indentation of the innermost open block, 0 if there is none. -/
def indent (l : Lexer) : Nat := l.indents.head?.getD 0

/-- Whether a bracket or brace is open. -/
def inFlow (l : Lexer) : Bool := l.keys.length > 1

/-- Appends a token. -/
def push (l : Lexer) (t : Token) : Lexer := { l with tokens := l.tokens.push t }

/-- Inserts a token in front of others. -/
def insertAt (l : Lexer) (position : Nat) (t : Token) : Lexer :=
  { l with tokens := l.tokens.extract 0 position ++ #[t] ++
    l.tokens.extract position l.tokens.size }

/-- Appends a token of some characters at the cursor. -/
def pushMark (l : Lexer) (length : Nat) (t : Token) : Lexer :=
  { l.push t with cursor := l.cursor.skip length }

/-- Whether a place is too far back to be the beginning of a key that ends here. -/
def isStale (c : Cursor) (k : KeyStart) : Bool := k.line < c.line || k.index + 1024 < c.index

/-- Gives up the places that are too far back; a place where only a key may stand must not be among
them. -/
def dropStaleKeys (l : Lexer) : Option Lexer := do
  let keys ← l.keys.mapM fun key =>
    match key with
    | some k =>
      if isStale l.cursor k then (if k.required then none else some none) else some (some k)
    | none => some none
  return { l with keys }

/-- Replaces the innermost place where a key may have begun, which must not be one where only a key
may stand. -/
def setKey (l : Lexer) (key : Option KeyStart) : Option Lexer :=
  match l.keys with
  | some k :: keys => if k.required then none else some { l with keys := key :: keys }
  | none :: keys => some { l with keys := key :: keys }
  | [] => none

/-- Gives up the innermost place where a key may have begun. -/
def dropKey (l : Lexer) : Option Lexer := l.setKey none

/-- Keeps this place as one where a key may begin. Only a key may stand at the indentation of the
innermost block. -/
def saveKey (l : Lexer) : Option Lexer :=
  if l.keyAllowed then
    let c := l.cursor
    l.setKey (some ⟨l.tokens.size, !l.inFlow && l.indent == c.column + 1, c.index,
      c.line, c.column⟩)
  else some l

/-- Begins a block where the column is deeper than the innermost block; its token goes to a
position. -/
def roll (l : Lexer) (column position : Nat) (t : Token) : Lexer :=
  if !l.inFlow && l.indent < column + 1 then
    { l.insertAt position t with indents := (column + 1) :: l.indents }
  else l

/-- Ends the blocks that are deeper than a column, which is given as one more. -/
def unroll (l : Lexer) (depth : Nat) : Lexer :=
  if l.inFlow then l
  else
    let closed := l.indents.takeWhile (depth < ·)
    { l with
      tokens := l.tokens ++ (closed.map fun _ => Token.blockEnd)
      indents := l.indents.drop closed.length }

/-- Moves to the next token: over blanks, comments and line breaks, and over a byte order mark at
the beginning of a line, which takes a column. A tab does not count as a blank where a key may
begin. -/
def skipToToken : (bound : Nat) → Lexer → Lexer
  | 0, l => l
  | bound + 1, l =>
    let c := l.cursor
    let c := if c.column == 0 && c.peek == some (Char.ofNat 0xFEFF) then c.skip 1 else c
    let c := c.skipWhile fun ch => ch == ' ' || ((l.inFlow || !l.keyAllowed) && ch == '\t')
    let c := c.skipComment
    if c.peek.any isBreak then
      skipToToken bound { l with cursor := c.skipLine, keyAllowed := l.keyAllowed || !l.inFlow }
    else { l with cursor := c }

/-! ### Directives, names and tags -/

/-- A decimal number of at most nine digits. -/
def number? (c : Cursor) : Option (Nat × Cursor) :=
  let digits := c.takeWhile Char.isDigit
  if digits.isEmpty || digits.length > 9 then none
  else some (digits.foldl (fun n d => n * 10 + (d.toNat - '0'.toNat)) 0, c.skip digits.length)

/-- The bytes that percent signs with two hexadecimal digits stand for. The first byte tells how
many belong together, and the others have to be ones that continue a character. -/
def uriEscape? (c : Cursor) : Option (Tag × Cursor) := do
  let byteAt (n : Nat) : Option Nat := do
    if c.peekAt (3 * n) == some '%' then
      return (← hexDigit? (← c.peekAt (3 * n + 1))) * 16 + (← hexDigit? (← c.peekAt (3 * n + 2)))
    else none
  let first ← byteAt 0
  let width ←
    if first < 0x80 then some 1 else if first < 0xC0 then none else if first < 0xE0 then some 2
    else if first < 0xF0 then some 3 else if first < 0xF8 then some 4 else none
  let bytes ← (List.range width).mapM byteAt
  if (bytes.drop 1).all fun b => 0x80 ≤ b && b < 0xC0 then
    return (bytes.map UInt8.ofNat, c.skip (3 * width))
  else none

/-- The characters of tags. -/
def isTagChar (verbatim : Bool) (c : Char) : Bool :=
  isNameChar c || [';', '/', '?', ':', '@', '&', '=', '+', '$', '.', '%', '!', '~', '*', '\'', '(',
    ')'].contains c ||
    (verbatim && [',', '[', ']'].contains c)

/-- The characters of a tag from here on. -/
def scanTagChars (verbatim : Bool) : (bound : Nat) → Cursor → Option (Tag × Cursor)
  | 0, c => some ([], c)
  | bound + 1, c =>
    match c.peek with
    | some ch =>
      if !isTagChar verbatim ch then some ([], c)
      else do
        let (bytes, c) ← if ch == '%' then uriEscape? c else some ([ch.toUInt8], c.skip 1)
        let (more, c) ← scanTagChars verbatim bound c
        return (bytes ++ more, c)
    | none => some ([], c)

/-- The text of a tag, of at least one character together with those before it, of which the first
one does not belong to the text. A zero byte ends it. -/
def tagUri? (verbatim : Bool) (before : List Char) (c : Cursor) : Option (Tag × Cursor) := do
  let (text, c) ← scanTagChars verbatim c.rest.length c
  if before.isEmpty && text.isEmpty then none
  else return (((before.drop 1).map Char.toUInt8 ++ text).takeWhile (· != 0), c)

/-- A handle of tags: a name between exclamation marks, of which the second may be missing. -/
def tagHandle? (c : Cursor) : Option (List Char × Cursor) :=
  if c.peek == some '!' then
    let name := (c.skip 1).takeWhile isNameChar
    let behind := c.skip (1 + name.length)
    if behind.peek == some '!' then some ('!' :: name ++ ['!'], behind.skip 1)
    else some ('!' :: name, behind)
  else none

/-- Whether a handle has both its marks. -/
def isWholeHandle (handle : List Char) : Bool := handle.length > 1 && handle.getLast? == some '!'

/-- A directive. -/
def directive? (c : Cursor) : Option (Token × Cursor) := do
  let c := c.skip 1
  let name := c.takeWhile isNameChar
  let c := c.skip name.length
  if name.isEmpty || !isBlankOrEnd c.peek then none
  else
    let c := c.skipWhile isBlank
    let (token, c) ←
      if name == "YAML".toList then do
        let (major, c) ← number? c
        if c.peek == some '.' then
          let (minor, c) ← number? (c.skip 1)
          pure (Token.versionDirective major minor, c)
        else none
      else if name == "TAG".toList then do
        let (handle, c) ← tagHandle? c
        if (isWholeHandle handle || handle == ['!']) && c.peek.any isBlank then
          let (expansion, c) ← tagUri? true [] (c.skipWhile isBlank)
          if isBlankOrEnd c.peek then pure (Token.tagDirective handle expansion, c) else none
        else none
      else none
    let c := (c.skipWhile isBlank).skipComment
    if isBreakOrEnd c.peek then return (token, if c.peek.isSome then c.skipLine else c) else none

/-- A name behind its mark. -/
def name? (c : Cursor) : Option (List Char × Cursor) :=
  let name := (c.skip 1).takeWhile isNameChar
  let behind := c.skip (1 + name.length)
  if !name.isEmpty && (isBlankOrEnd behind.peek ||
      isOneOf ['?', ':', ',', ']', '\x7d', '%', '@', '\x60'] behind.peek) then
    some (name, behind)
  else none

/-- The handle and the rest of a tag. -/
def tagParts? (c : Cursor) : Option (List Char × Tag × Cursor) :=
  if c.peekAt 1 == some '<' then do
    let (suffix, c) ← tagUri? true [] (c.skip 2)
    if c.peek == some '>' then return ([], suffix, c.skip 1) else none
  else do
    let (handle, c) ← tagHandle? c
    if isWholeHandle handle then
      let (suffix, c) ← tagUri? false [] c
      return (handle, suffix, c)
    else
      -- A mark without a second one belongs to the tag itself; alone it is the tag.
      let (suffix, c) ← tagUri? false handle c
      if suffix.isEmpty then return ([], ['!'.toUInt8], c) else return (['!'], suffix, c)

/-- A tag. -/
def tag? (inFlow : Bool) (c : Cursor) : Option (Token × Cursor) := do
  let (handle, suffix, c) ← tagParts? c
  if isBlankOrEnd c.peek || (inFlow && c.peek == some ',') then return (.tag handle suffix, c)
  else none

/-! ### The next token -/

/-- A directive or a mark of a document: all blocks end. -/
def atMargin (l : Lexer) : Option Lexer := do
  return { ← (l.unroll 0).dropKey with keyAllowed := false }

/-- An opening bracket. -/
def openFlow (l : Lexer) (t : Token) : Option Lexer := do
  let l ← l.saveKey
  return { l.pushMark 1 t with keys := none :: l.keys, keyAllowed := true }

/-- A closing bracket. -/
def closeFlow (l : Lexer) (t : Token) : Option Lexer := do
  let l ← l.dropKey
  return { l.pushMark 1 t with
    keys := if l.inFlow then l.keys.drop 1 else l.keys, keyAllowed := false }

/-- A comma. -/
def flowEntry (l : Lexer) : Option Lexer := do
  return { (← l.dropKey).pushMark 1 .flowEntry with keyAllowed := true }

/-- A dash. In the block context it may begin a sequence, where a key may begin too. -/
def blockEntry (l : Lexer) : Option Lexer :=
  if !l.inFlow && !l.keyAllowed then none
  else do
    let l ← (l.roll l.cursor.column l.tokens.size .blockSequenceStart).dropKey
    return { l.pushMark 1 .blockEntry with keyAllowed := true }

/-- A question mark before a key. -/
def explicitKey (l : Lexer) : Option Lexer :=
  if !l.inFlow && !l.keyAllowed then none
  else do
    let l ← (l.roll l.cursor.column l.tokens.size .blockMappingStart).dropKey
    return { l.pushMark 1 .key with keyAllowed := !l.inFlow }

/-- A colon. It belongs to the key that began last, if there is one; otherwise to a key with a
question mark, or to an empty key. -/
def value (l : Lexer) : Option Lexer :=
  match l.keys with
  | some k :: keys =>
    let l := ({ l with keys := none :: keys }.insertAt k.token .key).roll k.column k.token
      .blockMappingStart
    some { l.pushMark 1 .value with keyAllowed := false }
  | _ =>
    if !l.inFlow && !l.keyAllowed then none
    else
      let l := l.roll l.cursor.column l.tokens.size .blockMappingStart
      some { l.pushMark 1 .value with keyAllowed := !l.inFlow }

/-- A token that may be a key, or a part of one. -/
def keyPart (l : Lexer) (read : Cursor → Option (Token × Cursor)) : Option Lexer := do
  let l ← l.saveKey
  let (t, cursor) ← read l.cursor
  return { l.push t with cursor, keyAllowed := false }

/-- A block scalar. -/
def blockScalar (l : Lexer) (style : Style) : Option Lexer := do
  let l ← l.dropKey
  let (text, cursor) ← scanBlock style l.indent (l.cursor.skip 1)
  return { l.push (.scalar style text) with cursor, keyAllowed := true }

/-- A quoted scalar. -/
def quotedScalar (l : Lexer) (single : Bool) : Option Lexer :=
  l.keyPart fun c => do
    let (text, c) ← scanQuoted single (c.rest.length + 1) [] (c.skip 1)
    return (.scalar .quoted text, c)

/-- A plain scalar. Where a line break was read behind it, a key may begin. -/
def plainScalar (l : Lexer) : Option Lexer := do
  let l ← l.saveKey
  let (text, broken, cursor) ← scanPlain l.inFlow l.indent
    (l.cursor.rest.length + 1) [] .none l.cursor
  return { l.push (.scalar .plain text) with cursor, keyAllowed := broken }

/-- The characters that no plain scalar begins with. -/
def indicators : List Char :=
  ['-', '?', ':', ',', '[', ']', '\x7b', '\x7d', '#', '&', '*', '!', '|', '>', '\'', '"', '%',
    '@', '\x60']

/-- Whether a plain scalar begins with a character, given the one behind it. -/
def beginsPlain (inFlow : Bool) (c : Char) (next : Option Char) : Bool :=
  !(isBlank c || isBreak c || indicators.contains c) || (c == '-' && !next.any isBlank) ||
    (!inFlow && (c == '?' || c == ':') && !isBlankOrEnd next)

/-- Reads the token that begins with a character. -/
def tokenAt (l : Lexer) (ch : Char) : Option Lexer :=
  let c := l.cursor
  let next := c.peekAt 1
  if c.column == 0 && ch == '%' then do
    let l ← l.atMargin
    let (t, cursor) ← directive? l.cursor
    return { l.push t with cursor }
  else if c.isMark '-' then return (← l.atMargin).pushMark 3 .documentStart
  else if c.isMark '.' then return (← l.atMargin).pushMark 3 .documentEnd
  else if ch == '[' then l.openFlow .flowSequenceStart
  else if ch == '\x7b' then l.openFlow .flowMappingStart
  else if ch == ']' then l.closeFlow .flowSequenceEnd
  else if ch == '\x7d' then l.closeFlow .flowMappingEnd
  else if ch == ',' then l.flowEntry
  else if ch == '-' && isBlankOrEnd next then l.blockEntry
  else if ch == '?' && (l.inFlow || isBlankOrEnd next) then l.explicitKey
  else if ch == ':' && (l.inFlow || isBlankOrEnd next) then l.value
  else if ch == '*' then l.keyPart fun c => (name? c).map fun (n, c) => (.alias n, c)
  else if ch == '&' then l.keyPart fun c => (name? c).map fun (n, c) => (.anchor n, c)
  else if ch == '!' then l.keyPart (tag? l.inFlow)
  else if ch == '|' && !l.inFlow then l.blockScalar .literal
  else if ch == '>' && !l.inFlow then l.blockScalar .folded
  else if ch == '\'' then l.quotedScalar true
  else if ch == '"' then l.quotedScalar false
  else if beginsPlain l.inFlow ch next then l.plainScalar
  else none

/-- The end of the text: all blocks end. -/
def finish (l : Lexer) : Option (List Token) := do
  return ((← (l.unroll 0).dropKey).push .streamEnd).tokens.toList

/-- Reads tokens up to the end of the text. -/
def run : (bound : Nat) → Lexer → Option (List Token)
  | 0, _ => none
  | bound + 1, l => do
    let l ← (l.skipToToken (l.cursor.rest.length + 1)).dropStaleKeys
    let l := l.unroll (l.cursor.column + 1)
    match l.cursor.peek with
    | none => l.finish
    | some ch => run bound (← l.tokenAt ch)

end Lexer

/-- The tokens of a text. Every token but the last takes at least one character. -/
def tokens? (text : List Char) : Option (List Token) :=
  if text.all isAllowed then Lexer.run (text.length + 1) (.start text) else none

end SyscallCensus.Yaml
