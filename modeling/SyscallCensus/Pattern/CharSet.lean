import SyscallCensus.Text.Blank
import SyscallCensus.Text.Digit
import SyscallCensus.Text.LetterCase
import SyscallCensus.Text.Word

/-!
# Sets of characters

A part of the meaning of the patterns that `SPEC_FULL.md`, Sections 10.2 and 10.6, rely on.

The sets that a pattern can name, and what can be made of them: unions, intersections, differences,
complements, and the sets that do not care about upper and lower case.
-/

namespace SyscallCensus

/-- A set of characters. -/
inductive CharSet where
  /-- No character. -/
  | empty
  /-- The characters from one to another, both included. -/
  | range (first last : Char)
  /-- The characters of words. -/
  | word
  /-- The decimal digits. -/
  | digit
  /-- White space. -/
  | blank
  /-- The characters that are in one of two sets. -/
  | union (s t : CharSet)
  /-- The characters that are in both of two sets. -/
  | inter (s t : CharSet)
  /-- The characters that are in the first of two sets only. -/
  | diff (s t : CharSet)
  /-- The characters that are not in a set. -/
  | compl (s : CharSet)
  /-- The characters of which some case is in a set. -/
  | anyCase (s : CharSet)
  /-- The characters of which some case is in a set, where only ASCII characters have cases. -/
  | anyAsciiCase (s : CharSet)
  deriving DecidableEq, Repr, Inhabited

namespace CharSet

/-- Whether a character is in a set. -/
def contains : CharSet → Char → Bool
  | .empty, _ => false
  | .range first last, c => first.toNat ≤ c.toNat && c.toNat ≤ last.toNat
  | .word, c => Text.isWord c
  | .digit, c => Text.isDigit c
  | .blank, c => Text.isBlank c
  | .union s t, c => s.contains c || t.contains c
  | .inter s t, c => s.contains c && t.contains c
  | .diff s t, c => s.contains c && !t.contains c
  | .compl s, c => !s.contains c
  | .anyCase s, c => (Text.caseVariants c).any s.contains
  | .anyAsciiCase s, c => (Text.asciiCaseVariants c).any s.contains

/-- The set of one character. -/
def single (c : Char) : CharSet := .range c c

/-- All characters. -/
def all : CharSet := .compl .empty

/-- The union of some sets. -/
def unionOf (sets : List CharSet) : CharSet := sets.foldr .union .empty

/-- The characters that are in exactly one of two sets. -/
def symmDiff (s t : CharSet) : CharSet := .union (.diff s t) (.diff t s)

/-- The set of the characters in a text. -/
def ofChars (text : String) : CharSet := unionOf (text.toList.map single)

/-- The ASCII characters of words. -/
def asciiWord : CharSet := unionOf [.range 'a' 'z', .range 'A' 'Z', .range '0' '9', single '_']

/-- The ASCII characters that are white space. -/
def asciiBlank : CharSet := .union (.range '\t' '\r') (single ' ')

/-- The ASCII punctuation. -/
def asciiPunctuation : CharSet :=
  unionOf [.range '!' '/', .range ':' '@', .range '[' '\x60', .range '\x7b' '~']

/-- The set of ASCII characters with a name. -/
def ofAsciiName? (name : String) : Option CharSet :=
  [("alnum", unionOf [.range '0' '9', .range 'A' 'Z', .range 'a' 'z']),
    ("alpha", .union (.range 'A' 'Z') (.range 'a' 'z')),
    ("ascii", .range (Char.ofNat 0x00) (Char.ofNat 0x7F)),
    ("blank", ofChars "\t "),
    ("cntrl", .union (.range (Char.ofNat 0x00) (Char.ofNat 0x1F)) (single (Char.ofNat 0x7F))),
    ("digit", .range '0' '9'),
    ("graph", .range '!' '~'),
    ("lower", .range 'a' 'z'),
    ("print", .range ' ' '~'),
    ("punct", asciiPunctuation),
    ("space", asciiBlank),
    ("upper", .range 'A' 'Z'),
    ("word", asciiWord),
    ("xdigit", unionOf [.range '0' '9', .range 'A' 'F', .range 'a' 'f'])].lookup name

end CharSet

end SyscallCensus
