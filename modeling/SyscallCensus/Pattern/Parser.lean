import SyscallCensus.Pattern.Bracket

/-!
# From texts to patterns

The syntax of the patterns that `SPEC_FULL.md`, Sections 10.2 and 10.6, rely on.

Characters stand for themselves, `.` for any of them, brackets for sets; `?`, `*`, `+` and numbers
between braces repeat what stands before them, `|` separates alternatives, and parentheses group.
-/

namespace SyscallCensus.Pattern

namespace Reader

/-! ### Repetitions -/

/-- Takes a question mark, which only tells the way that a repetition prefers. -/
def skipPreference (more : Bool) : Reader Unit := do
  if more && (← peek) == some '?' then skip 1

/-- The least and the greatest number of repetitions between braces, at the opening one. -/
def counts : Reader (Nat × Option Nat) := do
  let start ← here
  if !(← nextCounting) then fail .openCount start (← here)
  let least ← count
  if (← peek).isNone then fail .openCount start (← here)
  let range ←
    if (← peek) == some ',' then do
      if !(← nextCounting) then fail .openCount start (← here)
      if (← peek) == some '\x7d' then pure ((← liftM least), none)
      else
        let least ← liftM least
        pure (least, some (← liftM (← count)))
    else
      let n ← liftM least
      pure (n, some n)
  if (← peek) != some '\x7d' then fail .openCount start (← here)
  skipPreference (← nextCounting)
  if range.2.any (· < range.1) then fail .countOrder start (← here) else return range

/-! ### Groups -/

/-- Whether a character may stand in the name of a group. -/
def isNameChar (first : Bool) (c : Char) : Bool :=
  c == '_' || (if first then CharSet.letter.contains c && !c.isDigit
    else c == '.' || c == '[' || c == ']' || CharSet.letter.contains c || Text.isDigit c)

/-- Takes the name of a group up to the closing angle bracket. -/
def groupName : Reader Unit := do
  let start ← here
  if (← peek).isNone then fail .openName start start
  let name := (← get).rest.takeWhile (· != '>')
  match name.zipIdx.find? fun (c, i) => !isNameChar (i == 0) c with
  | some (_, i) => fail .badName (start + i) (start + i + 1)
  | none => do
    skip name.length
    let last ← here
    if (← peek).isNone then fail .openName last last
    skip 1
    if name.isEmpty then fail .emptyName start start
    match (← get).names.lookup name with
    | some earlier => throw ⟨.repeatedName, ⟨start, last⟩, some earlier⟩
    | none => modify fun r => { r with names := r.names ++ [(name, ⟨start, last⟩)] }

/-- Takes the letters of flags up to a colon or a closing parenthesis. The result has them with the
sign that turns flags off, and with their places. -/
def flagLetters : (bound : Nat) → (before : List (Char × Nat)) → Reader (List (Char × Nat))
  | 0, before => return before
  | bound + 1, before => do
    let place ← here
    match ← peek with
    | none => fail .cutFlags place place
    | some c =>
      if c == ':' || c == ')' then
        match before.getLast? with
        | some ('-', minus) => fail .danglingMinus minus (minus + 1)
        | _ => return before
      else if c != '-' && !Flags.letters.contains c then fail .unknownFlag place (place + 1)
      else
        match before.lookup c with
        | some earlier =>
          throw ⟨if c == '-' then .repeatedMinus else .repeatedFlag, ⟨place, place + 1⟩,
            some ⟨earlier, earlier + 1⟩⟩
        | none => do
          if !(← next) then fail .cutFlags (← here) (← here)
          flagLetters bound (before ++ [(c, place)])

/-- The flags that letters make of others. -/
def changedFlags (flags : Flags) (letters : List Char) : Flags :=
  let on := letters.takeWhile (· != '-')
  let off := letters.drop on.length
  off.foldl (fun flags c => flags.set c false) (on.foldl (fun flags c => flags.set c true) flags)

/-- What stands between a parenthesis and the part that it groups. -/
inductive Opening where
  /-- A group with the flags that hold in it. -/
  | group (flags : Flags)
  /-- No group at all, but flags for what follows. -/
  | flags (flags : Flags)

/-- Takes what belongs to an opening parenthesis. -/
def opening : Reader Opening := do
  let start ← here
  skip 1
  skipSpace
  if (← accept ['?', '=']) || (← accept ['?', '!']) || (← accept ['?', '<', '=']) ||
      (← accept ['?', '<', '!']) then
    fail .lookAround start (← here)
  let inner ← here
  let flags ← flags
  if (← accept ['?', 'P', '<']) || (← accept ['?', '<']) then
    groupName
    return .group flags
  else if ← accept ['?'] then
    if (← peek).isNone then fail .openGroup start (start + 1)
    let letters := (← flagLetters (← bound) []).map (·.1)
    let closed := (← peek) == some ')'
    skip 1
    if !closed then return .group (changedFlags flags letters)
    else if letters.isEmpty then fail .nothingRepeated inner inner
    else return .flags (changedFlags flags letters)
  else return .group flags

/-! ### Patterns -/

/-- What was read between two marks. -/
structure Item where
  /-- The pattern; none for flags, which cannot be repeated. -/
  pattern : Option Pattern
  /-- Where it stands, and what is nested in it. -/
  shape : Shape

/-- What was read of a group so far. -/
structure Level where
  /-- Where the group begins, behind its parenthesis. -/
  start : Nat
  /-- The alternatives before the last `|`. -/
  alternatives : List (Pattern × Shape)
  /-- Where the last alternative begins. -/
  current : Nat
  /-- What was read of the last alternative, latest first. -/
  items : List Item

/-- A group that is open. -/
structure OpenGroup where
  /-- Where its parenthesis stands. -/
  place : Nat
  /-- What was read around it. -/
  outer : Level
  /-- The flags that hold around it. -/
  flags : Flags

namespace Level

/-- Nothing was read yet. -/
def empty (start : Nat) : Level := ⟨start, [], start, []⟩

/-- Adds an item. -/
def push (level : Level) (item : Item) : Level := { level with items := item :: level.items }

/-- Adds a pattern in which nothing is nested. -/
def pushLeaf (level : Level) (p : Pattern) (first last : Nat) : Level :=
  level.push ⟨some p, .leaf ⟨first, last⟩⟩

/-- The last alternative, which ends at a place. -/
def sequence (level : Level) (last : Nat) : Pattern × Shape :=
  let items := level.items.reverse
  (seqOf (items.filterMap (·.pattern)), .row ⟨level.current, last⟩ (items.map (·.shape)))

/-- The pattern of all that was read, up to a place. -/
def pattern (level : Level) (last : Nat) : Pattern × Shape :=
  let alternatives := level.alternatives ++ [level.sequence last]
  (altOf (alternatives.map (·.1)), .row ⟨level.start, last⟩ (alternatives.map (·.2)))

/-- Begins another alternative behind a place. -/
def next (level : Level) (last : Nat) : Level :=
  ⟨level.start, level.alternatives ++ [level.sequence last], last + 1, []⟩

end Level

/-- Takes the item that is to be repeated. -/
def repeatedItem (level : Level) : Reader (Pattern × Shape × Level) := do
  match level.items with
  | ⟨some p, shape⟩ :: items => return (p, shape, { level with items })
  | _ => fail .nothingRepeated (← here) (← here)

/-- Adds a repetition that ends here. -/
def pushRepeated (level : Level) (body : Pattern) (shape : Shape) (least : Nat)
    (most : Option Nat) : Reader Level := do
  return level.push ⟨some (.repeated body least most), .around ⟨shape.span.first, ← here⟩ [shape]⟩

/-- Reads a repetition with a mark of one character. -/
def marked (level : Level) (least : Nat) (most : Option Nat) : Reader Level := do
  let (body, shape, level) ← repeatedItem level
  skipPreference (← next)
  pushRepeated level body shape least most

/-- Reads a repetition with numbers. -/
def counted (level : Level) : Reader Level := do
  let (body, shape, level) ← repeatedItem level
  let (least, most) ← counts
  pushRepeated level body shape least most

/-- The pattern of a character. -/
def literal (c : Char) (byte : Bool) (first last : Nat) : Reader Pattern := do
  let flags ← flags
  if !flags.unicode && c.toNat ≥ 0x80 then
    if byte then note .splitCharacter first last
    else if flags.anyCase then note .unicodeHere first last
  return .char (flags.folded (.single c))

/-- The pattern of a dot. -/
def dot : Reader Pattern := do
  let start ← here
  skip 1
  let flags ← flags
  if !flags.unicode then note .splitCharacter start (start + 1)
  return .char (if flags.dotAll then .all
    else .compl (.ofChars (if flags.returns then "\r\n" else "\n")))

/-- The pattern of a mark for the beginning or the end of a line or of the text. -/
def anchor (text line anyLine : Assertion) : Reader Pattern := do
  skip 1
  let flags ← flags
  return .assert (if !flags.lines then text else if flags.returns then anyLine else line)

/-- The pattern of a single part. -/
def single (c : Char) : Reader Pattern := do
  let start ← here
  match c with
  | '\\' => do
    match ← escape with
    | .literal c byte => literal c byte start (← here)
    | .set s => return .char s
    | .assertion a => return .assert a
  | '.' => dot
  | '^' => anchor .textStart .lineStart .anyLineStart
  | '$' => anchor .textEnd .lineEnd .anyLineEnd
  | c => do
    skip 1
    literal c false start (start + 1)

/-- Reads a text up to its end, given what was read so far and the groups that are open, innermost
first. -/
def patternFrom : (bound : Nat) → Level → List OpenGroup → Reader (Pattern × Shape)
  | 0, level, _ => return level.pattern level.current
  | bound + 1, level, groups => do
    skipSpace
    let place ← here
    match ← peek with
    | none =>
      match groups with
      | [] => return level.pattern place
      | group :: _ => fail .openGroup group.place (group.place + 1)
    | some '(' => do
      let outer ← flags
      match ← opening with
      | .flags flags => do
        modify fun r => { r with flags }
        patternFrom bound (level.push ⟨none, .leaf ⟨place, ← here⟩⟩) groups
      | .group flags => do
        modify fun r => { r with flags }
        patternFrom bound (.empty (← here)) (⟨place, level, outer⟩ :: groups)
    | some ')' =>
      match groups with
      | [] => fail .closedGroup place (place + 1)
      | group :: groups => do
        modify fun r => { r with flags := group.flags }
        skip 1
        let (p, shape) := level.pattern place
        patternFrom bound (group.outer.push ⟨some p, .around ⟨group.place, place + 1⟩ [shape]⟩)
          groups
    | some '|' => do
      skip 1
      patternFrom bound (level.next place) groups
    | some '[' => do
      let (set, shape) ← bracketed (← Reader.bound)
      patternFrom bound (level.push ⟨some (.char set), shape⟩) groups
    | some '?' => do patternFrom bound (← marked level 0 (some 1)) groups
    | some '*' => do patternFrom bound (← marked level 0 none) groups
    | some '+' => do patternFrom bound (← marked level 1 none) groups
    | some '\x7b' => do patternFrom bound (← counted level) groups
    | some c => do
      let p ← single c
      patternFrom bound (level.pushLeaf p place (← here)) groups

end Reader

/-- The pattern that a text denotes. -/
def parse (text : List Char) : Except PatternError Pattern := do
  let ((pattern, shape), final) ←
    (Reader.patternFrom (text.length + 1) (.empty 0) []).run ⟨text, 0, .initial, [], none⟩
  match shape.tooDeep?, final.meaningless with
  | some span, _ => throw ⟨.tooDeep, span, none⟩
  | none, some e => throw e
  | none, none => return pattern

end SyscallCensus.Pattern
