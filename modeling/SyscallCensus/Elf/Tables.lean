import SyscallCensus.Elf.Image

/-!
# The tables of an executable file

The second part of the inspection of executables in `SPEC_FULL.md`, Section 10.3 (Entry points and
binary kind).

What headers of an ELF file refer to: tables of strings, of symbols and of relocations. Of the
strings it matters where they are, of symbols and relocations only whether they are in the file, and
which symbols relocations use.
-/

namespace SyscallCensus.Elf

/-! ### Strings -/

/-- The strings of a string table, each with the position where it begins. A zero byte ends a
string; behind the last one no string begins. -/
def stringsFrom (start : Nat) (bytes : List UInt8) : List (Nat × List UInt8) :=
  match bytes with
  | [] => []
  | b :: rest =>
    let text := (b :: rest).takeWhile (· ≠ 0)
    have : ((b :: rest).drop (text.length + 1)).length < (b :: rest).length := by
      simp only [List.length_drop, List.length_cons]
      omega
    (start, text) :: stringsFrom (start + text.length + 1) ((b :: rest).drop (text.length + 1))
termination_by bytes.length

/-- Whether a position is in a string: between its two ends, and not inside a character. -/
def isPositionIn (position : Nat) (entry : Nat × List UInt8) : Bool :=
  entry.1 ≤ position && position ≤ entry.1 + entry.2.length &&
    !(entry.2[position - entry.1]?.any fun b => 0x80 ≤ b && b < 0xC0)

namespace Image

/-- The strings of the table with an offset and a size, if it is in the file and all of them are
readable. -/
def strings? (image : Image) (offset size : Nat) : Option (List (Nat × List UInt8)) := do
  let texts := stringsFrom 0 (← image.slice? offset size)
  if texts.all fun t => (Text.Utf8.decode? t.2).isSome then return texts else none

/-! ### Symbols -/

/-- Checks that as many symbols as said are in the file at an offset. -/
def symbols? (image : Image) (offset count : Nat) : Option Unit := do
  let _ ← image.part? offset (count * image.byWidth 16 24)

/-! ### Relocations -/

/-- How long a relocation is. One with an addend is a word longer. -/
def relocationSize (image : Image) (addend : Bool) : Nat :=
  image.byWidth (if addend then 12 else 8) (if addend then 24 else 16)

/-- The number of the symbol that the relocation at an offset uses. -/
def relocationSymbol? (image : Image) (start : Nat) : Option Nat := do
  let info ← image.word? (start + 4) (start + 8)
  return if image.format.wide then info >>> 32 else info >>> 8

/-- The numbers of the symbols that the relocations in a part of the file use, if the part is in the
file. -/
def relocations? (image : Image) (offset size : Nat) (addend : Bool) : Option (List Nat) :=
  if size = 0 then some []
  else do
    let _ ← image.part? offset size
    let each := image.relocationSize addend
    (List.range (size / each)).mapM fun i => image.relocationSymbol? (offset + i * each)

/-! ### Sections -/

/-- Checks that a section is in the file and does not reach beyond the memory. A section without
bytes in the file may be anywhere. -/
def inside? (image : Image) (s : Section) : Option Unit :=
  if s.type = 8 ∨ s.size = 0 ∨
      (s.offset + s.size ≤ image.bytes.size ∧ s.address + s.size < UInt64.size) then some ()
  else none

/-- Checks the string table in the section with a number. The greatest number stands for the one
that the first section refers to, and a number without a section for an empty table. -/
def stringSection? (image : Image) (sections : List Section) (number : Nat) : Option Unit :=
  let number := if number = 0xFFFF then (sections.head?.map (·.link)).getD number else number
  match sections[number]? with
  | none => some ()
  | some s => do
    image.inside? s
    let _ ← image.strings? s.offset s.size

/-- Checks the symbols of the last section that holds some, and their strings. -/
def symbolSection? (image : Image) (sections : List Section) : Option Unit :=
  match sections.reverse.find? (·.type = 2) with
  | none => some ()
  | some s => do
    image.symbols? s.offset (if s.entrySize = 0 then 0 else s.size / s.entrySize)
    image.stringSection? sections s.link

/-- Checks a section if it holds relocations. -/
def relocationSection? (image : Image) (s : Section) : Option Unit :=
  if s.type = 4 ∨ s.type = 9 then do
    image.inside? s
    let _ ← image.relocations? s.offset s.size (s.type = 4)
  else some ()

/-- Checks the first section of a type. -/
def firstSection? (image : Image) (sections : List Section) (type : Nat) : Option Unit :=
  match sections.find? (·.type = type) with
  | none => some ()
  | some s => do
    let _ ← image.part? s.offset s.size

/-- Checks what the sections hold: the names of the sections, the symbols with their names, the
relocations, and the versions of symbols, of which there are three kinds. -/
def sectionsHold? (image : Image) (sections : List Section) : Option Unit := do
  image.stringSection? sections (← image.nameSection?)
  image.symbolSection? sections
  sections.forM image.relocationSection?
  [0x6FFFFFFF, 0x6FFFFFFD, 0x6FFFFFFE].forM (image.firstSection? sections)

end Image

end SyscallCensus.Elf
