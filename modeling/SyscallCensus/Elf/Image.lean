import SyscallCensus.Text.Utf8

/-!
# Executable files

The first part of the inspection of executables in `SPEC_FULL.md`, Section 10.3 (Entry points and
binary kind).

The bytes of an ELF file and its headers. All numbers of the file have the width and byte order that
its first bytes announce. The program headers tell which parts of the file go where in memory, the
section headers what the parts hold.

Reading fails where a file is not well formed; why is not told.
-/

namespace SyscallCensus.Elf

/-- Width and byte order of the numbers in a file. -/
structure Format where
  /-- Whether addresses have 64 bits, not 32. -/
  wide : Bool
  /-- Whether the most significant byte comes first. -/
  bigEndian : Bool
  deriving DecidableEq, Repr

/-- The bytes of a file with the format of its numbers. -/
structure Image where
  /-- The bytes. -/
  bytes : Array UInt8
  /-- The format of the numbers. -/
  format : Format

/-- A program header: a part of the file with the place that it has in memory. -/
structure Segment where
  /-- What the part is for. -/
  type : Nat
  /-- Where it begins in the file. -/
  offset : Nat
  /-- Where it begins in memory. -/
  address : Nat
  /-- How long it is in the file. -/
  fileSize : Nat
  /-- How long it is in memory. -/
  memorySize : Nat
  deriving DecidableEq, Repr

/-- A section header: a part of the file with what it holds. -/
structure Section where
  /-- What the part holds. -/
  type : Nat
  /-- Where it begins in memory. -/
  address : Nat
  /-- Where it begins in the file. -/
  offset : Nat
  /-- How long it is. -/
  size : Nat
  /-- The number of another section that belongs to it. -/
  link : Nat
  /-- How long each of its entries is. -/
  entrySize : Nat
  deriving DecidableEq, Repr

namespace Image

/-! ### Bytes and numbers -/

/-- `size` bytes at an offset, if they are in the file. -/
def slice? (image : Image) (offset size : Nat) : Option (List UInt8) :=
  if offset + size ≤ image.bytes.size then some (image.bytes.extract offset (offset + size)).toList
  else none

/-- `size` bytes at an offset before the end of the file, if they are in the file. So there are not
even no bytes at the end. -/
def part? (image : Image) (offset size : Nat) : Option (List UInt8) :=
  if offset < image.bytes.size then image.slice? offset size else none

/-- The number of `size` bytes at an offset. -/
def number? (image : Image) (offset size : Nat) : Option Nat := do
  let bytes ← image.slice? offset size
  let mostSignificantFirst := if image.format.bigEndian then bytes else bytes.reverse
  return mostSignificantFirst.foldl (fun n b => n * 256 + b.toNat) 0

/-- The number of an address, offset or size field: four bytes at the first offset in the narrow
format, eight bytes at the second one in the wide format. -/
def word? (image : Image) (narrow wide : Nat) : Option Nat :=
  if image.format.wide then image.number? wide 8 else image.number? narrow 4

/-- Chooses by the width of the format. -/
def byWidth (image : Image) (narrow wide : Nat) : Nat := if image.format.wide then wide else narrow

/-! ### Headers -/

/-- The format that the first bytes announce. -/
def format? : List UInt8 → Option Format
  | 0x7F :: 0x45 :: 0x4C :: 0x46 :: width :: order :: _ =>
    if (width == 1 || width == 2) && (order == 1 || order == 2) then
      some ⟨width == 2, order == 2⟩
    else none
  | _ => none

/-- A file whose header is complete. -/
def ofBytes? (bytes : List UInt8) : Option Image := do
  let image : Image := ⟨bytes.toArray, ← format? bytes⟩
  if image.bytes.size < image.byWidth 52 64 then none else return image

/-- The number of the machine that the file is for. -/
def machine? (image : Image) : Option Nat := image.number? 18 2

/-- The program header at an offset. -/
def segmentAt? (image : Image) (start : Nat) : Option Segment := do
  let _ ← image.slice? start (image.byWidth 32 56)
  return ⟨← image.number? start 4, ← image.word? (start + 4) (start + 8),
    ← image.word? (start + 8) (start + 16), ← image.word? (start + 16) (start + 32),
      ← image.word? (start + 20) (start + 40)⟩

/-- The program headers, if all of them are in the file. -/
def segments? (image : Image) : Option (List Segment) := do
  let start ← image.word? 28 32
  let count ← image.number? (image.byWidth 44 56) 2
  let size := image.byWidth 32 56
  if count > image.bytes.size / size then none
  else (List.range count).mapM fun i => image.segmentAt? (start + i * size)

/-- The section header at an offset. -/
def sectionAt? (image : Image) (start : Nat) : Option Section := do
  let _ ← image.slice? start (image.byWidth 40 64)
  return ⟨← image.number? (start + 4) 4, ← image.word? (start + 12) (start + 16),
    ← image.word? (start + 16) (start + 24), ← image.word? (start + 20) (start + 32),
      ← image.number? (start + image.byWidth 24 40) 4,
    ← image.word? (start + 36) (start + 56)⟩

/-- The section headers, if all of them are in the file. A file without any has them at offset 0;
otherwise there is at least one, and a count of 0 stands for the count in its size field. -/
def sections? (image : Image) : Option (List Section) := do
  let start ← image.word? 32 40
  if start = 0 then return []
  else
    let first ← image.sectionAt? start
    let announced ← image.number? (image.byWidth 48 60) 2
    let count := if announced = 0 then first.size else announced
    let size := image.byWidth 40 64
    if count > image.bytes.size / size then none
    else
      let others ← (List.range (count - 1)).mapM fun i => image.sectionAt? (start + (i + 1) * size)
      return first :: others

/-- The number of the section that holds the names of the sections. -/
def nameSection? (image : Image) : Option Nat := image.number? (image.byWidth 50 62) 2

/-! ### Interpreter -/

/-- Whether the file names an interpreter. The last header for one decides; a name that is not in
the file or not readable is none, and the byte that ends the name does not belong to it. -/
def hasInterpreter (image : Image) (segments : List Segment) : Bool :=
  segments.foldl (fun known s =>
    if s.type = 3 ∧ s.fileSize ≠ 0 then
      match image.part? s.offset (s.fileSize - 1) with
      | some name => (Text.Utf8.decode? name).isSome
      | none => false
    else known) false

end Image

end SyscallCensus.Elf
