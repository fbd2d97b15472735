import SyscallCensus.Pattern.Basic

/-!
# The size of patterns

A limit on the patterns of a logging specification (`SPEC_FULL.md`, Section 10.6).

A pattern that repeats repetitions is short to write and long when it is written out. So the size of
patterns is limited: the table of the ways through a pattern, with an entry for every byte that is
read, must not take too much memory. The sizes of sets are estimates; they are far from the limit
unless they are repeated.
-/

namespace SyscallCensus

/-- How many bytes an entry of a table takes. -/
def tableEntry : Nat := 32

/-- How many bytes the ways to read a character of a set take. A character above the ASCII range
takes several bytes itself, so its ways have several entries. -/
def CharSet.tableSize : CharSet → Nat
  | .empty => tableEntry
  | .range first last =>
    if first = last then tableEntry * first.utf8Size
    else if last.toNat < 0x80 then tableEntry else 12 * tableEntry
  | .word => 1450 * tableEntry
  | .digit => 140 * tableEntry
  | .blank => 20 * tableEntry
  | .union s t | .inter s t | .diff s t => s.tableSize + t.tableSize
  | .compl s => s.tableSize + 12 * tableEntry
  | .anyCase s => s.tableSize + tableEntry / 2
  | .anyAsciiCase s => s.tableSize + tableEntry / 2

namespace Pattern

/-- The most bytes that the table of the ways through a pattern may take. -/
def sizeLimit : Nat := 10485760

/-- How many bytes the table of the ways through a pattern takes. A repetition is written out, and
each time that it may end has an entry. -/
def tableSize : Pattern → Nat
  | .empty | .assert _ => tableEntry
  | .char set => set.tableSize
  | .seq first second => first.tableSize + second.tableSize
  | .alt first second => first.tableSize + second.tableSize + tableEntry
  | .repeated body least none => max 1 least * body.tableSize + tableEntry
  | .repeated body least (some most) =>
    least * body.tableSize + (most - least) * (body.tableSize + tableEntry) + tableEntry

/-- Whether a pattern is too large. -/
def isTooLarge (pattern : Pattern) : Bool := pattern.tableSize > sizeLimit

end Pattern

end SyscallCensus
