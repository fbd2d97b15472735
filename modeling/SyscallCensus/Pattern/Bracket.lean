import SyscallCensus.Pattern.Escape
import SyscallCensus.Pattern.Shape

/-!
# Sets in patterns

A part of the syntax of the patterns that `SPEC_FULL.md`, Sections 10.2 and 10.6, rely on.

The sets of characters that are written between brackets. They hold characters, ranges, escapes,
named sets of ASCII characters, and sets between brackets of their own; operators between them
combine sets.
-/

namespace SyscallCensus.Pattern

namespace Reader

/-- How two sets between brackets are combined. -/
inductive SetOperator where
  /-- What is in both. -/
  | inter
  /-- What is in the first one only. -/
  | diff
  /-- What is in exactly one of them. -/
  | symmDiff

/-- The operator that comes next. -/
def setOperator? : List Char → Option SetOperator
  | '&' :: '&' :: _ => some .inter
  | '-' :: '-' :: _ => some .diff
  | '~' :: '~' :: _ => some .symmDiff
  | _ => none

/-- A set with the part of the text that it was read from. -/
abbrev ShapedSet := CharSet × Shape

/-- What the items of a set hold together. `start` is where they begin, also if there are none. -/
def unionOfItems (start : Nat) (items : List ShapedSet) : ShapedSet :=
  let shapes := items.map (·.2)
  let first := (shapes.head?.map (·.span.first)).getD start
  let last := (shapes.getLast?.map (·.span.last)).getD start
  (.unionOf (items.map (·.1)), .row ⟨first, last⟩ shapes)

/-- Combines what was read before an operator with what was read behind it. -/
def combined (flags : Flags) (left : Option (SetOperator × ShapedSet)) (right : ShapedSet) :
    ShapedSet :=
  match left with
  | none => right
  | some (operator, left) =>
    let s := flags.folded left.1
    let t := flags.folded right.1
    let set : CharSet :=
      match operator with
      | .inter => .inter s t
      | .diff => .diff s t
      | .symmDiff => .symmDiff s t
    (set, .around ⟨left.2.span.first, right.2.span.last⟩ [left.2, right.2])

/-- The set of ASCII characters with a name between colons and brackets: the set, whether it is to
be complemented, and the length of its text. -/
def asciiSet? : List Char → Option (CharSet × Bool × Nat)
  | '[' :: ':' :: rest => do
    let negated := rest.head? == some '^'
    let rest := if negated then rest.drop 1 else rest
    let name := rest.takeWhile (· != ':')
    if [':', ']'].isPrefixOf (rest.drop name.length) then
      return (← CharSet.ofAsciiName? (String.ofList name), negated,
        name.length + (if negated then 5 else 4))
    else none
  | _ => none

/-- A character or a set inside of brackets. -/
def setAtom : Reader Atom := do
  match ← peek with
  | some '\\' => escape
  | some c => do
    skip 1
    return .literal c false
  | none => fail .cutEscape (← here) (← here)

/-- Notes a character that no set of bytes holds. -/
def noteSetChar (c : Char) (byte : Bool) (first last : Nat) : Reader Unit := do
  if !(← flags).unicode && c.toNat ≥ 0x80 then
    note (if byte then .splitCharacter else .unicodeHere) first last

/-- The character behind the next one, where white space and the beginning of a comment are passed
over if they do not count. -/
def peekBehind : Reader (Option Char) := do
  let rest := (← get).rest.drop 1
  if (← flags).spaced then
    let rest := rest.dropWhile Text.isBlank
    return (if rest.head? == some '#' then (rest.drop 1).dropWhile Text.isBlank else rest).head?
  else return rest.head?

/-- A character, a range or a set inside of the brackets that were opened at a place. -/
def setItem (opening : Span) : Reader ShapedSet := do
  let first ← here
  let lower ← setAtom
  let lowerEnd ← here
  skipSpace
  let behind ← peekBehind
  if (← peek).isNone then fail .openSet opening.first opening.last
  else if (← peek) != some '-' || behind == some ']' || behind == some '-' then
    match lower with
    | .literal c byte => do
      noteSetChar c byte first lowerEnd
      return (.single c, .leaf ⟨first, lowerEnd⟩)
    | .set s => return (s, .leaf ⟨first, lowerEnd⟩)
    | .assertion _ => fail .setEscape first lowerEnd
  else if !(← nextCounting) then fail .openSet opening.first opening.last
  else
    let second ← here
    let upper ← setAtom
    let last ← here
    match lower, upper with
    | .literal c byte, .literal d byte' =>
      if c.toNat ≤ d.toNat then do
        noteSetChar c byte first lowerEnd
        noteSetChar d byte' second last
        return (.range c d, .leaf ⟨first, last⟩)
      else fail .rangeOrder first last
    | .literal _ _, _ => fail .rangeEnd second last
    | _, _ => fail .rangeEnd first lowerEnd

/-- A character of brackets that stands for itself where it would not stand elsewhere. -/
def plainItem (c : Char) (place : Nat) : ShapedSet := (.single c, .leaf ⟨place, place + 1⟩)

/-- Takes the dashes at the beginning of brackets, which stand for themselves. -/
def leadingDashes (opening : Nat) : (bound : Nat) → Reader (List ShapedSet)
  | 0 => return []
  | bound + 1 => do
    if (← peek) == some '-' then
      let place ← here
      if !(← nextCounting) then fail .openSet opening opening
      return plainItem '-' place :: (← leadingDashes opening bound)
    else return []

mutual

/-- The set between brackets, at the opening one. -/
def bracketed : (bound : Nat) → Reader ShapedSet
  | 0 => return (.empty, .leaf ⟨0, 0⟩)
  | bound + 1 => do
    let start ← here
    if !(← nextCounting) then fail .openSet start (← here)
    let negated := (← peek) == some '^'
    if negated then
      if !(← nextCounting) then fail .openSet start (← here)
    let inner ← here
    let dashes ← leadingDashes start (← Reader.bound)
    let closing := dashes.isEmpty && (← peek) == some ']'
    if closing then
      if !(← nextCounting) then fail .openSet start (← here)
    let items := if closing then [plainItem ']' inner] else dashes
    let (set, shape) ← bracketItems ⟨start, ← here⟩ inner items none bound
    let flags ← flags
    if negated && !flags.unicode then note .splitCharacter start (← here)
    let set := if negated then CharSet.compl (flags.folded set) else flags.folded set
    return (set, .around ⟨start, ← here⟩ [shape])

/-- The rest of a set between brackets, given what was read since the last operator, where that
began, and what was read before the operator. -/
def bracketItems (opening : Span) (inner : Nat) (items : List ShapedSet)
    (left : Option (SetOperator × ShapedSet)) : (bound : Nat) → Reader ShapedSet
  | 0 => return (.empty, .leaf ⟨0, 0⟩)
  | bound + 1 => do
    skipSpace
    let rest := (← get).rest
    let flags ← flags
    match rest.head? with
    | none => fail .openSet opening.first opening.last
    | some '[' =>
      match asciiSet? rest with
      | some (set, negated, length) => do
        let start ← here
        skip length
        if negated && !flags.unicode then note .splitCharacter start (← here)
        let set := if negated then CharSet.compl (flags.folded set) else flags.folded set
        bracketItems opening inner (items ++ [(set, .leaf ⟨start, ← here⟩)]) left bound
      | none => do
        let item ← bracketed bound
        bracketItems opening inner (items ++ [item]) left bound
    | some ']' => do
      skip 1
      return combined flags left (unionOfItems inner items)
    | some _ =>
      match setOperator? rest with
      | some operator => do
        skip 2
        bracketItems opening (← here) []
          (some (operator, combined flags left (unionOfItems inner items))) bound
      | none => do
        let item ← setItem opening
        bracketItems opening inner (items ++ [item]) left bound

end

end Reader

end SyscallCensus.Pattern
