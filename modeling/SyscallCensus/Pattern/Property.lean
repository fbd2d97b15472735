import SyscallCensus.Pattern.CharSet

/-!
# Properties of characters

A part of the meaning of the patterns that `SPEC_FULL.md`, Sections 10.2 and 10.6, rely on.

The sets that patterns name by a property of characters. Names are compared without regard to case,
spaces and dashes. Above the ASCII range only words, digits and white space are told apart, and the
letters of a few scripts.
-/

namespace SyscallCensus.CharSet

/-- The characters above the ASCII range. -/
def aboveAscii : CharSet := .range (Char.ofNat 0x80) (Char.ofNat 0x10FFFF)

/-- The letters. -/
def letter : CharSet :=
  unionOf [.range 'A' 'Z', .range 'a' 'z', .inter aboveAscii (.diff .word .digit)]

/-- The ASCII control characters. -/
def control : CharSet :=
  .union (.range (Char.ofNat 0x00) (Char.ofNat 0x1F)) (.range (Char.ofNat 0x7F) (Char.ofNat 0x9F))

/-- The names of the general categories, long and short, with their characters. -/
def categories : List (List String × CharSet) :=
  [(["any"], all), (["assigned"], all), (["ascii"], .range (Char.ofNat 0x00) (Char.ofNat 0x7F)),
    (["l", "letter"], letter), (["lc", "casedletter"], letter),
    (["lu", "uppercaseletter"], .range 'A' 'Z'), (["ll", "lowercaseletter"], .range 'a' 'z'),
    (["lt", "titlecaseletter"], .empty), (["lm", "modifierletter"], .empty),
    (["lo", "otherletter"], .empty),
    (["m", "mark", "combiningmark"], .empty), (["mn", "nonspacingmark"], .empty),
    (["mc", "spacingmark"], .empty),
    (["me", "enclosingmark"], .empty),
    (["n", "number"], .digit), (["nd", "decimalnumber", "digit"], .digit),
    (["nl", "letternumber"], .empty),
    (["no", "othernumber"], .empty),
    (["p", "punctuation", "punct"], .diff asciiPunctuation (ofChars "$+<=>^\x60|~")),
    (["pc", "connectorpunctuation"], single '_'), (["pd", "dashpunctuation"], single '-'),
    (["ps", "openpunctuation"], ofChars "([\x7b"), (["pe", "closepunctuation"], ofChars ")]\x7d"),
    (["pi", "initialpunctuation"], .empty), (["pf", "finalpunctuation"], .empty),
    (["po", "otherpunctuation"], ofChars "!\"#%&'*,./:;?@\\"),
    (["s", "symbol"], ofChars "$+<=>^\x60|~"), (["sc", "currencysymbol"], single '$'),
    (["sk", "modifiersymbol"], ofChars "^\x60"), (["sm", "mathsymbol"], ofChars "+<=>|~"),
    (["so", "othersymbol"], .empty),
    (["z", "separator"], .diff .blank control), (["zs", "spaceseparator"], .diff .blank control),
    (["zl", "lineseparator"], single (Char.ofNat 0x2028)),
    (["zp", "paragraphseparator"], single (Char.ofNat 0x2029)),
    (["c", "other"], control), (["cc", "control", "cntrl"], control), (["cf", "format"], .empty),
    (["cn", "unassigned"], .empty), (["co", "privateuse"], .empty)]

/-- The names of the scripts with their characters. -/
def scripts : List (List String × CharSet) :=
  [(["latin", "latn"], unionOf [.range 'A' 'Z', .range 'a' 'z',
    .inter letter (.range (Char.ofNat 0xAA) (Char.ofNat 0x2AF))]),
      (["greek", "grek"], .inter letter (.range (Char.ofNat 0x370) (Char.ofNat 0x3FF))),
    (["cyrillic", "cyrl"], .inter letter (.range (Char.ofNat 0x400) (Char.ofNat 0x52F))),
    (["han", "hani"], .inter letter (.range (Char.ofNat 0x3400) (Char.ofNat 0x9FFF))),
    (["hiragana", "hira"], .inter letter (.range (Char.ofNat 0x3041) (Char.ofNat 0x3096))),
    (["katakana", "kana"], .inter letter (.range (Char.ofNat 0x30A1) (Char.ofNat 0x30FA)))]

/-- The names of the properties that characters have or have not, with their characters. -/
def properties : List (List String × CharSet) :=
  [(["alphabetic", "alpha"], letter), (["lowercase", "lower"], .range 'a' 'z'),
    (["uppercase", "upper"], .range 'A' 'Z'), (["whitespace", "wspace", "space"], .blank),
    (["asciihexdigit", "ahex"], unionOf [.range '0' '9', .range 'A' 'F', .range 'a' 'f']),
    (["hexdigit", "hex"], unionOf [.range '0' '9', .range 'A' 'F', .range 'a' 'f'])]

/-- A name as it is compared. -/
def plainName (name : List Char) : String :=
  let name := (name.filter fun c => !(c == ' ' || c == '_' || c == '-')).map Char.toLower
  String.ofList (if "is".toList.isPrefixOf name && name.length > 2 then name.drop 2 else name)

/-- The set that has a name in a list. -/
def named? (sets : List (List String × CharSet)) (name : List Char) : Option CharSet :=
  (sets.find? (·.1.contains (plainName name))).map (·.2)

/-- The set with the name of a property, a general category or a script. -/
def ofProperty? (name : List Char) : Option CharSet :=
  named? (properties ++ categories ++ scripts) name

/-- The sets that a property with values distinguishes. -/
def valuesOf? (name : List Char) : Option (List (List String × CharSet)) :=
  [("gc", categories), ("generalcategory", categories), ("sc", scripts), ("script", scripts),
    ("scx", scripts), ("scriptextensions", scripts)].lookup (plainName name)

end SyscallCensus.CharSet
