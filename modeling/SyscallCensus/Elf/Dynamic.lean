import SyscallCensus.Elf.Tables

/-!
# Dynamic sections

With the modules that it rests on this one formalizes the inspection of executables in
`SPEC_FULL.md`, Section 10.3 (Entry points and binary kind): "a dynamically linked ELF (has
`PT_INTERP` or `DT_NEEDED` entries) is rejected".

The part of an ELF file that tells the loader what to do: a list of entries, each with a tag and a
value. Some name the libraries that are needed, others tell where tables are in memory. The number
of symbols is not written anywhere; it follows from the hash table over their names, and from the
relocations.
-/

namespace SyscallCensus.Elf

/-- An entry of the dynamic section. -/
structure DynamicEntry where
  /-- What the entry says. -/
  tag : Nat
  /-- Its value. -/
  value : Nat
  deriving DecidableEq, Repr

/-- The value of the last entry with a tag. -/
def lastValue? (entries : List DynamicEntry) (tag : Nat) : Option Nat :=
  (entries.reverse.find? (·.tag = tag)).map (·.value)

/-- Where in the file an address of the memory stands. -/
def fileOffset? (segments : List Segment) (address : Nat) : Option Nat := do
  let s ← segments.find? fun s => s.type = 1 ∧ s.address ≤ address ∧
    address - s.address < s.memorySize
  let offset := s.offset + (address - s.address)
  if offset < UInt64.size then some offset else none

/-- Where in the file the table stands that the last entry with a tag tells the address of. -/
def tableOffset? (segments : List Segment) (entries : List DynamicEntry) (tag : Nat) : Option Nat :=
  (lastValue? entries tag).bind (fileOffset? segments)

namespace Image

/-- The entries of a dynamic section, with the first one of tag 0 as the last. -/
def entriesFrom (image : Image) (start : Nat) : Nat → List DynamicEntry
  | 0 => []
  | count + 1 =>
    match image.word? start start, image.word? (start + 4) (start + 8) with
    | some 0, some value => [⟨0, value⟩]
    | some tag, some value => ⟨tag, value⟩ :: image.entriesFrom (start + image.byWidth 8 16) count
    | _, _ => []

/-- The entries of the first dynamic section; none in a file without one. `none` where the section
is not in the file. -/
def dynamicEntries? (image : Image) (segments : List Segment) :
    Option (Option (List DynamicEntry)) :=
  match segments.find? (·.type = 2) with
  | none => some none
  | some s => do
    if s.fileSize > 0 then
      let _ ← image.part? s.offset s.fileSize
    return some (image.entriesFrom s.offset (s.fileSize / image.byWidth 8 16))

/-! ### How many symbols there are -/

/-- One more than the number of the last symbol in a chain of hashes: the chain goes on up to an odd
hash. -/
def chainEnd? (image : Image) : (bound : Nat) → (offset symbol : Nat) → Option Nat
  | 0, _, _ => none
  | bound + 1, offset, symbol => do
    let hash ← image.number? offset 4
    if hash % 2 = 1 then return symbol + 1 else image.chainEnd? bound (offset + 4) (symbol + 1)

/-- How many symbols a hash table with buckets has. The table begins with the number of its buckets,
the number of the first symbol with a hash and the size of a filter; the filter, the buckets and the
hashes follow. Each bucket names the first symbol of a chain, and the greatest chain ends with the
last symbol. -/
def bucketCount? (image : Image) (offset : Nat) : Option Nat := do
  let count ← image.number? offset 4
  let first ← image.number? (offset + 4) 4
  let filter ← image.number? (offset + 8) 4
  if count = 0 ∨ first = 0 ∨ filter = 0 then none
  else
    let start := offset + 16 + filter * image.byWidth 4 8
    -- Buckets outside of the file need not be looked at one by one.
    let _ ← image.slice? start (count * 4)
    let chains ← (List.range count).mapM fun i => image.number? (start + i * 4) 4
    let last := chains.foldl max 0
    if last < first then return 0
    else image.chainEnd? (image.bytes.size / 4 + 1) (start + count * 4 + (last - first) * 4) last

/-- How many symbols a plain hash table has: its second number. For two machines these have eight
bytes in the wide format. -/
def chainCount? (image : Image) (offset : Nat) : Option Nat := do
  let machine ← image.machine?
  image.number? (offset + 4) (if image.format.wide ∧ (machine = 22 ∨ machine = 41) then 8 else 4)

/-- How many symbols there are by the hash tables; the one with buckets decides. -/
def hashedCount? (image : Image) (segments : List Segment) (entries : List DynamicEntry) :
    Option Nat :=
  match tableOffset? segments entries 0x6FFFFEF5, tableOffset? segments entries 4 with
  | some offset, _ => image.bucketCount? offset
  | none, some offset => image.chainCount? offset
  | none, none => some 0

/-- The numbers of the symbols that the relocations of the dynamic section use. There are three
tables: with addends, without, and for calls, of which an entry says which sort it is. -/
def dynamicRelocations? (image : Image) (segments : List Segment) (entries : List DynamicEntry) :
    Option (List Nat) := do
  let table (address size : Nat) (addend : Bool) :=
    image.relocations? ((tableOffset? segments entries address).getD 0)
      ((lastValue? entries size).getD 0) addend
  let withAddend ← table 7 8 true
  let without ← table 17 18 false
  let calls ← table 23 2 (lastValue? entries 20 == some 7)
  return withAddend ++ without ++ calls

/-- Checks that the symbols of the dynamic section are in the file. -/
def dynamicSymbols? (image : Image) (segments : List Segment) (entries : List DynamicEntry) :
    Option Unit := do
  let used := (← image.dynamicRelocations? segments entries).foldl max 0
  let hashed ← image.hashedCount? segments entries
  image.symbols? ((tableOffset? segments entries 6).getD 0)
    (if used = 0 then hashed else max hashed (used + 1))

/-! ### Libraries -/

/-- Whether the entries of the dynamic section name a library: one that stands in the string table.
`none` where a table is not in the file or not readable. -/
def needsLibrary? (image : Image) (segments : List Segment) (entries : List DynamicEntry) :
    Option Bool := do
  let texts ← image.strings? ((tableOffset? segments entries 5).getD 0)
    ((lastValue? entries 10).getD 0)
  image.dynamicSymbols? segments entries
  return entries.any fun e => e.tag = 1 && texts.any (isPositionIn e.value)

/-! ### Linkage -/

/-- Whether the file is linked dynamically: it names an interpreter, or a library that it needs.
`none` where it is not well formed. -/
def isDynamic? (image : Image) : Option Bool := do
  let segments ← image.segments?
  image.sectionsHold? (← image.sections?)
  match ← image.dynamicEntries? segments with
  | none => return image.hasInterpreter segments
  | some entries =>
    let needs ← image.needsLibrary? segments entries
    return image.hasInterpreter segments || needs

end Image

/-- Whether a file is an executable that is linked dynamically. A file that is not well formed says
nothing, and so counts as linked statically. -/
def isDynamicallyLinked (bytes : List UInt8) : Bool :=
  ((Image.ofBytes? bytes).bind Image.isDynamic?).getD false

end SyscallCensus.Elf
