/-!
# Upper and lower case

Patterns that do not care about case (`SPEC_FULL.md`, Section 10.6).

Which letters are the same but for their case. Most letters have one partner, and the partners of
neighbouring letters are neighbours too; a few letters have more than one. Only partners of a single
character count, so that the German sharp s has its capital form as a partner and not two letters.
-/

namespace SyscallCensus.Text

/-- The letters that have one partner: the first and the last of a range, the step from one letter
of the range to the next, and the distance to the partner. -/
def caseRanges : List (Nat × Nat × Nat × Nat) := [
    (0x41, 0x4A, 1, 0x20), (0x4C, 0x52, 1, 0x20), (0x54, 0x5A, 1, 0x20), (0xC0, 0xC4, 1, 0x20),
    (0xC6, 0xD6, 1, 0x20), (0xD8, 0xDE, 1, 0x20), (0xDF, 0xDF, 1, 0x1DBF), (0xFF, 0xFF, 1, 0x79),
    (0x100, 0x12E, 2, 0x1), (0x132, 0x136, 2, 0x1), (0x139, 0x147, 2, 0x1), (0x14A, 0x176, 2, 0x1),
    (0x179, 0x17D, 2, 0x1), (0x180, 0x180, 1, 0xC3), (0x181, 0x181, 1, 0xD2),
    (0x182, 0x184, 2, 0x1), (0x186, 0x186, 1, 0xCE), (0x187, 0x187, 1, 0x1),
    (0x189, 0x18A, 1, 0xCD), (0x18B, 0x18B, 1, 0x1), (0x18E, 0x18E, 1, 0x4F),
    (0x18F, 0x18F, 1, 0xCA), (0x190, 0x190, 1, 0xCB), (0x191, 0x191, 1, 0x1),
    (0x193, 0x193, 1, 0xCD), (0x194, 0x194, 1, 0xCF), (0x195, 0x195, 1, 0x61),
    (0x196, 0x196, 1, 0xD3), (0x197, 0x197, 1, 0xD1), (0x198, 0x198, 1, 0x1),
    (0x19A, 0x19A, 1, 0xA3), (0x19B, 0x19B, 1, 0xA641), (0x19C, 0x19C, 1, 0xD3),
    (0x19D, 0x19D, 1, 0xD5), (0x19E, 0x19E, 1, 0x82), (0x19F, 0x19F, 1, 0xD6),
    (0x1A0, 0x1A4, 2, 0x1), (0x1A6, 0x1A6, 1, 0xDA), (0x1A7, 0x1A7, 1, 0x1),
    (0x1A9, 0x1A9, 1, 0xDA), (0x1AC, 0x1AC, 1, 0x1), (0x1AE, 0x1AE, 1, 0xDA),
    (0x1AF, 0x1AF, 1, 0x1), (0x1B1, 0x1B2, 1, 0xD9), (0x1B3, 0x1B5, 2, 0x1),
    (0x1B7, 0x1B7, 1, 0xDB), (0x1B8, 0x1B8, 1, 0x1), (0x1BC, 0x1BC, 1, 0x1),
    (0x1BF, 0x1BF, 1, 0x38), (0x1CD, 0x1DB, 2, 0x1), (0x1DE, 0x1EE, 2, 0x1), (0x1F4, 0x1F4, 1, 0x1),
    (0x1F8, 0x21E, 2, 0x1), (0x222, 0x232, 2, 0x1), (0x23A, 0x23A, 1, 0x2A2B),
    (0x23B, 0x23B, 1, 0x1), (0x23E, 0x23E, 1, 0x2A28), (0x23F, 0x240, 1, 0x2A3F),
    (0x241, 0x241, 1, 0x1), (0x244, 0x244, 1, 0x45), (0x245, 0x245, 1, 0x47),
    (0x246, 0x24E, 2, 0x1), (0x250, 0x250, 1, 0x2A1F), (0x251, 0x251, 1, 0x2A1C),
    (0x252, 0x252, 1, 0x2A1E), (0x25C, 0x25C, 1, 0xA54F), (0x261, 0x261, 1, 0xA54B),
    (0x264, 0x264, 1, 0xA567), (0x265, 0x265, 1, 0xA528), (0x266, 0x266, 1, 0xA544),
    (0x26A, 0x26A, 1, 0xA544), (0x26B, 0x26B, 1, 0x29F7), (0x26C, 0x26C, 1, 0xA541),
    (0x271, 0x271, 1, 0x29FD), (0x27D, 0x27D, 1, 0x29E7), (0x282, 0x282, 1, 0xA543),
    (0x287, 0x287, 1, 0xA52A), (0x29D, 0x29D, 1, 0xA515), (0x29E, 0x29E, 1, 0xA512),
    (0x370, 0x372, 2, 0x1), (0x376, 0x376, 1, 0x1), (0x37B, 0x37D, 1, 0x82),
    (0x37F, 0x37F, 1, 0x74), (0x386, 0x386, 1, 0x26), (0x388, 0x38A, 1, 0x25),
    (0x38C, 0x38C, 1, 0x40), (0x38E, 0x38F, 1, 0x3F), (0x390, 0x390, 1, 0x1C43),
    (0x391, 0x393, 2, 0x20), (0x394, 0x396, 2, 0x20), (0x397, 0x397, 1, 0x20),
    (0x39B, 0x39D, 2, 0x20), (0x39E, 0x39F, 1, 0x20), (0x3A4, 0x3A5, 1, 0x20),
    (0x3A7, 0x3A8, 1, 0x20), (0x3AA, 0x3AB, 1, 0x20), (0x3B0, 0x3B0, 1, 0x1C33),
    (0x3CF, 0x3CF, 1, 0x8), (0x3D8, 0x3EE, 2, 0x1), (0x3F2, 0x3F2, 1, 0x7), (0x3F7, 0x3F7, 1, 0x1),
    (0x3FA, 0x3FA, 1, 0x1), (0x400, 0x40F, 1, 0x50), (0x410, 0x411, 1, 0x20),
    (0x413, 0x415, 2, 0x20), (0x416, 0x41D, 1, 0x20), (0x41F, 0x420, 1, 0x20),
    (0x423, 0x429, 1, 0x20), (0x42B, 0x42F, 1, 0x20), (0x460, 0x460, 1, 0x1),
    (0x464, 0x480, 2, 0x1), (0x48A, 0x4BE, 2, 0x1), (0x4C0, 0x4C0, 1, 0xF), (0x4C1, 0x4CD, 2, 0x1),
    (0x4D0, 0x52E, 2, 0x1), (0x531, 0x556, 1, 0x30), (0x10A0, 0x10C5, 1, 0x1C60),
    (0x10C7, 0x10C7, 1, 0x1C60), (0x10CD, 0x10CD, 1, 0x1C60), (0x10D0, 0x10FA, 1, 0xBC0),
    (0x10FD, 0x10FF, 1, 0xBC0), (0x13A0, 0x13EF, 1, 0x97D0), (0x13F0, 0x13F5, 1, 0x8),
    (0x1C89, 0x1C89, 1, 0x1), (0x1D79, 0x1D79, 1, 0x8A04), (0x1D7D, 0x1D7D, 1, 0xEE6),
    (0x1D8E, 0x1D8E, 1, 0x8A38), (0x1E00, 0x1E5E, 2, 0x1), (0x1E62, 0x1E94, 2, 0x1),
    (0x1EA0, 0x1EFE, 2, 0x1), (0x1F00, 0x1F07, 1, 0x8), (0x1F10, 0x1F15, 1, 0x8),
    (0x1F20, 0x1F27, 1, 0x8), (0x1F30, 0x1F37, 1, 0x8), (0x1F40, 0x1F45, 1, 0x8),
    (0x1F51, 0x1F57, 2, 0x8), (0x1F60, 0x1F67, 1, 0x8), (0x1F70, 0x1F71, 1, 0x4A),
    (0x1F72, 0x1F75, 1, 0x56), (0x1F76, 0x1F77, 1, 0x64), (0x1F78, 0x1F79, 1, 0x80),
    (0x1F7A, 0x1F7B, 1, 0x70), (0x1F7C, 0x1F7D, 1, 0x7E), (0x1F80, 0x1F87, 1, 0x8),
    (0x1F90, 0x1F97, 1, 0x8), (0x1FA0, 0x1FA7, 1, 0x8), (0x1FB0, 0x1FB1, 1, 0x8),
    (0x1FB3, 0x1FB3, 1, 0x9), (0x1FC3, 0x1FC3, 1, 0x9), (0x1FD0, 0x1FD1, 1, 0x8),
    (0x1FE0, 0x1FE1, 1, 0x8), (0x1FE5, 0x1FE5, 1, 0x7), (0x1FF3, 0x1FF3, 1, 0x9),
    (0x2132, 0x2132, 1, 0x1C), (0x2160, 0x216F, 1, 0x10), (0x2183, 0x2183, 1, 0x1),
    (0x24B6, 0x24CF, 1, 0x1A), (0x2C00, 0x2C2F, 1, 0x30), (0x2C60, 0x2C60, 1, 0x1),
    (0x2C67, 0x2C6B, 2, 0x1), (0x2C72, 0x2C72, 1, 0x1), (0x2C75, 0x2C75, 1, 0x1),
    (0x2C80, 0x2CE2, 2, 0x1), (0x2CEB, 0x2CED, 2, 0x1), (0x2CF2, 0x2CF2, 1, 0x1),
    (0xA640, 0xA648, 2, 0x1), (0xA64C, 0xA66C, 2, 0x1), (0xA680, 0xA69A, 2, 0x1),
    (0xA722, 0xA72E, 2, 0x1), (0xA732, 0xA76E, 2, 0x1), (0xA779, 0xA77B, 2, 0x1),
    (0xA77E, 0xA786, 2, 0x1), (0xA78B, 0xA78B, 1, 0x1), (0xA790, 0xA792, 2, 0x1),
    (0xA794, 0xA794, 1, 0x30), (0xA796, 0xA7A8, 2, 0x1), (0xA7B3, 0xA7B3, 1, 0x3A0),
    (0xA7B4, 0xA7C2, 2, 0x1), (0xA7C7, 0xA7C9, 2, 0x1), (0xA7CC, 0xA7CC, 1, 0x1),
    (0xA7D0, 0xA7D0, 1, 0x1), (0xA7D6, 0xA7DA, 2, 0x1), (0xA7F5, 0xA7F5, 1, 0x1),
    (0xFB05, 0xFB05, 1, 0x1), (0xFF21, 0xFF3A, 1, 0x20), (0x10400, 0x10427, 1, 0x28),
    (0x104B0, 0x104D3, 1, 0x28), (0x10570, 0x1057A, 1, 0x27), (0x1057C, 0x1058A, 1, 0x27),
    (0x1058C, 0x10592, 1, 0x27), (0x10594, 0x10595, 1, 0x27), (0x10C80, 0x10CB2, 1, 0x40),
    (0x10D50, 0x10D65, 1, 0x20), (0x118A0, 0x118BF, 1, 0x20), (0x16E40, 0x16E5F, 1, 0x20),
    (0x1E900, 0x1E921, 1, 0x22)]

/-- The letters that have several partners, with their partners. -/
def caseGroups : List (List Nat) := [
    [0x4B, 0x6B, 0x212A], [0x53, 0x73, 0x17F], [0xB5, 0x39C, 0x3BC], [0xC5, 0xE5, 0x212B],
    [0x1C4, 0x1C5, 0x1C6], [0x1C7, 0x1C8, 0x1C9], [0x1CA, 0x1CB, 0x1CC], [0x1F1, 0x1F2, 0x1F3],
    [0x345, 0x399, 0x3B9, 0x1FBE], [0x392, 0x3B2, 0x3D0], [0x395, 0x3B5, 0x3F5],
    [0x398, 0x3B8, 0x3D1, 0x3F4], [0x39A, 0x3BA, 0x3F0], [0x3A0, 0x3C0, 0x3D6],
    [0x3A1, 0x3C1, 0x3F1], [0x3A3, 0x3C2, 0x3C3], [0x3A6, 0x3C6, 0x3D5], [0x3A9, 0x3C9, 0x2126],
    [0x412, 0x432, 0x1C80], [0x414, 0x434, 0x1C81], [0x41E, 0x43E, 0x1C82], [0x421, 0x441, 0x1C83],
    [0x422, 0x442, 0x1C84, 0x1C85], [0x42A, 0x44A, 0x1C86], [0x462, 0x463, 0x1C87],
    [0x1C88, 0xA64A, 0xA64B], [0x1E60, 0x1E61, 0x1E9B]]

/-- The partners of a letter by the ranges. -/
def casePartners (n : Nat) : List Nat :=
  caseRanges.flatMap fun (first, last, step, distance) =>
    (if first ≤ n ∧ n ≤ last ∧ (n - first) % step = 0 then [n + distance] else []) ++
      (if first + distance ≤ n ∧ n ≤ last + distance ∧ (n - distance - first) % step = 0 then
        [n - distance] else [])

/-- A character and those that differ from it only in their case. -/
def caseVariants (c : Char) : List Char :=
  match caseGroups.find? (·.contains c.toNat) with
  | some group => group.map Char.ofNat
  | none => c :: (casePartners c.toNat).map Char.ofNat

/-- An ASCII character in both cases. -/
def asciiCaseVariants (c : Char) : List Char := [c, c.toLower, c.toUpper]

end SyscallCensus.Text
