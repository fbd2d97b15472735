import SyscallCensus.Pattern.CharSet

/-!
# Patterns

The patterns of `SPEC_FULL.md`, Section 10.2 (Line dialect), and of the specification that overrides
what is logged (Section 10.6).

What texts look like: regular expressions with assertions about the place that is reached. A pattern
is searched in a text, anywhere, and only whether it is found matters. So it does not matter either
which of several ways a pattern prefers, and what its groups hold.

The search follows all ways at once. A text of `n` characters has `n + 1` places, before, between
and behind them. For a set of places a pattern leads to the set of the places where it can end when
it begins at one of them.
-/

namespace SyscallCensus

/-- What can be asserted about a place. The flag of an assertion about words tells that only ASCII
characters form them. -/
inductive Assertion where
  /-- The text begins. -/
  | textStart
  /-- The text ends. -/
  | textEnd
  /-- A line begins behind a line feed, or the text begins. -/
  | lineStart
  /-- A line ends before a line feed, or the text ends. -/
  | lineEnd
  /-- A line begins behind a line feed, a carriage return or both, or the text begins. -/
  | anyLineStart
  /-- A line ends before a line feed, a carriage return or both, or the text ends. -/
  | anyLineEnd
  /-- A word begins or ends. -/
  | wordBoundary (ascii : Bool)
  /-- No word begins or ends. -/
  | noWordBoundary (ascii : Bool)
  /-- A word begins. -/
  | wordStart (ascii : Bool)
  /-- A word ends. -/
  | wordEnd (ascii : Bool)
  /-- No character of a word stands before. -/
  | notBehindWord (ascii : Bool)
  /-- No character of a word stands behind. -/
  | notBeforeWord (ascii : Bool)
  deriving DecidableEq, Repr, Inhabited

/-- What a text has to look like. -/
inductive Pattern where
  /-- Nothing. -/
  | empty
  /-- A character of a set. -/
  | char (set : CharSet)
  /-- A place about which something is true. -/
  | assert (assertion : Assertion)
  /-- One pattern and then another. -/
  | seq (first second : Pattern)
  /-- One of two patterns. -/
  | alt (first second : Pattern)
  /-- A pattern several times, at most as often as `most` says. -/
  | repeated (body : Pattern) (least : Nat) (most : Option Nat)
  deriving DecidableEq, Repr, Inhabited

/-- A place in a text. -/
structure Place where
  /-- The character before it. -/
  before : Option Char
  /-- The character behind it. -/
  behind : Option Char
  deriving DecidableEq, Repr

namespace Place

/-- The places of a text, given the character before it. -/
def ofTextFrom (before : Option Char) : List Char → List Place
  | [] => [⟨before, none⟩]
  | c :: rest => ⟨before, some c⟩ :: ofTextFrom (some c) rest

/-- The places of a text. -/
def ofText (text : List Char) : List Place := ofTextFrom none text

/-- Whether a character belongs to a word. -/
def inWord (ascii : Bool) (c : Option Char) : Bool :=
  c.any (if ascii then CharSet.asciiWord else CharSet.word).contains

/-- Whether an assertion is true of a place. -/
def satisfies (p : Place) : Assertion → Bool
  | .textStart => p.before.isNone
  | .textEnd => p.behind.isNone
  | .lineStart => p.before.isNone || p.before == some '\n'
  | .lineEnd => p.behind.isNone || p.behind == some '\n'
  | .anyLineStart =>
    p.before.isNone || p.before == some '\n' || (p.before == some '\r' && p.behind != some '\n')
  | .anyLineEnd =>
    p.behind.isNone || p.behind == some '\r' || (p.behind == some '\n' && p.before != some '\r')
  | .wordBoundary ascii => inWord ascii p.before != inWord ascii p.behind
  | .noWordBoundary ascii => inWord ascii p.before == inWord ascii p.behind
  | .wordStart ascii => !inWord ascii p.before && inWord ascii p.behind
  | .wordEnd ascii => inWord ascii p.before && !inWord ascii p.behind
  | .notBehindWord ascii => !inWord ascii p.before
  | .notBeforeWord ascii => !inWord ascii p.behind

end Place

/-- A set of the places of a text: for each of them, whether it belongs to the set. -/
abbrev Places := List Bool

namespace Places

/-- The places of either set. -/
def union (s t : Places) : Places := List.zipWith (· || ·) s t

/-- Whether there is no place. -/
def isEmpty (s : Places) : Bool := !s.any id

end Places

namespace Pattern

/-- Does a step up to `count` times, but no longer than it makes a difference. -/
def iterate (step : Places → Places) : (count : Nat) → Places → Places
  | 0, s => s
  | count + 1, s =>
    let next := step s
    if next == s then s else iterate step count next

/-- Does a step up to `count` times and collects the places that are reached on the way. -/
def collect (step : Places → Places) : (count : Nat) → Places → Places
  | 0, s => s
  | count + 1, s =>
    let next := s.union (step s)
    if next == s then s else collect step count next

/-- Where a pattern can end that begins at one of some places. A text has no more characters than
places, so of more repetitions than places some take no character, and they can be left out. -/
def reach (places : List Place) : Pattern → Places → Places
  | .empty, s => s
  | .char set, s =>
    (false :: List.zipWith (fun here p => here && p.behind.any set.contains) s places).dropLast
  | .assert a, s => List.zipWith (fun here p => here && p.satisfies a) s places
  | .seq first second, s => second.reach places (first.reach places s)
  | .alt first second, s => (first.reach places s).union (second.reach places s)
  | .repeated body least most, s =>
    let s := iterate (body.reach places) (min least places.length) s
    match most with
    | some n => collect (body.reach places) (min (n - least) places.length) s
    | none => collect (body.reach places) places.length s

/-- Whether a pattern is found in a text. -/
def isFoundIn (pattern : Pattern) (text : List Char) : Bool :=
  let places := Place.ofText text
  !(pattern.reach places (places.map fun _ => true)).isEmpty

/-- One pattern after the other. -/
def seqOf (patterns : List Pattern) : Pattern := patterns.foldr .seq .empty

/-- One of some patterns, of which there is at least one. -/
def altOf : List Pattern → Pattern
  | [] => .empty
  | [p] => p
  | p :: others => .alt p (altOf others)

end Pattern

end SyscallCensus
