import SyscallCensus.Pattern.Error

/-!
# The nesting of patterns

A limit on the patterns of a logging specification (`SPEC_FULL.md`, Section 10.6).

The parts of a pattern are nested in each other: groups, repetitions, sets, sequences and
alternatives. How deep they may be nested is limited, and where the limit is exceeded, the first
part that is too deep is told. So of each part it is enough to know the first part at every depth
inside of it.
-/

namespace SyscallCensus.Pattern

/-- A part of a pattern with what is nested in it. -/
structure Shape where
  /-- Where the part stands. -/
  span : Span
  /-- For each depth, the outermost first, where the first part at that depth stands. -/
  nesting : List Span
  deriving DecidableEq, Repr

namespace Shape

/-- The greatest depth. -/
def limit : Nat := 250

/-- A part in which nothing is nested, and which is nothing that others are nested in. -/
def leaf (span : Span) : Shape := ⟨span, []⟩

/-- A part in which others are nested. -/
def around (span : Span) (inner : List Shape) : Shape :=
  ⟨span, span :: inner.foldl (fun firsts s => firsts ++ s.nesting.drop firsts.length) []⟩

/-- Several parts in a row, which are a part of their own; one alone is none. -/
def row (span : Span) : List Shape → Shape
  | [] => leaf span
  | [s] => s
  | shapes => around span shapes

/-- The first part that is too deep. -/
def tooDeep? (shape : Shape) : Option Span := shape.nesting[limit]?

end Shape

end SyscallCensus.Pattern
