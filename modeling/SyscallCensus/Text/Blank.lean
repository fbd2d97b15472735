/-!
# White space

"Blank (whitespace-only) lines end the current block" (`SPEC_FULL.md`, Section 10.2).

White space is the Unicode property `White_Space`: the ASCII controls from tab to carriage return,
the space, and the spaces and separators above them. Information separators (U+001C to U+001F),
zero-width characters and the byte order mark do not belong to it.
-/

namespace SyscallCensus.Text

/-- Whether a character is white space. -/
def isBlank (c : Char) : Bool :=
  (0x09 ≤ c.toNat && c.toNat ≤ 0x0D) || c.toNat == 0x20 || c.toNat == 0x85 || c.toNat == 0xA0 ||
    c.toNat == 0x1680 || (0x2000 ≤ c.toNat && c.toNat ≤ 0x200A) || c.toNat == 0x2028 ||
    c.toNat == 0x2029 || c.toNat == 0x202F || c.toNat == 0x205F || c.toNat == 0x3000

/-- A text without the white space at its two ends. -/
def trim (text : List Char) : List Char :=
  ((text.dropWhile isBlank).reverse.dropWhile isBlank).reverse

end SyscallCensus.Text
