import SyscallCensus.Text.Utf8

/-!
# Paths

The paths that settings and arguments hold (`SPEC_FULL.md`, Sections 10.7 and 10.8).

A path is a run of bytes. To the host only the slash and the zero byte mean anything in it, so it
need not be a text. Where a path is shown, the bytes that are no text are replaced.
-/

namespace SyscallCensus

/-- A path. -/
structure Path where
  /-- Its bytes. -/
  bytes : List UInt8
  deriving DecidableEq, Repr

namespace Path

/-- The path that a text spells. -/
def ofText (text : String) : Path := ⟨Text.Utf8.encode text⟩

instance : Coe String Path := ⟨ofText⟩

/-- A path as it is shown. -/
def text (path : Path) : String := String.ofList (Text.Utf8.decode path.bytes)

/-- The byte between two names. -/
def slash : UInt8 := 0x2F

/-- The byte that is a name for the directory itself, twice for the one above it. -/
def dot : UInt8 := 0x2E

/-- Puts a byte before names that were cut already. -/
def consByte (b : UInt8) (names : List (List UInt8)) : List (List UInt8) :=
  if b = slash then [] :: names
  else match names with
    | [] => [[b]]
    | name :: others => (b :: name) :: others

/-- The names between the slashes. They may be empty. -/
def names (path : Path) : List (List UInt8) := path.bytes.foldr consByte [[]]

/-- The names that lead somewhere else. -/
def steps (path : Path) : List (List UInt8) :=
  path.names.filter fun name => name != [] && name != [dot]

/-- The part of the last name behind its last dot. A dot at the beginning does not count, and
neither do slashes and single dots at the end of the path. -/
def extension? (path : Path) : Option (List UInt8) :=
  let name := path.steps.getLastD []
  let behind := (name.reverse.takeWhile (· ≠ dot)).reverse
  if name ≠ [dot, dot] ∧ behind.length + 1 < name.length then some behind else none

end Path

end SyscallCensus
