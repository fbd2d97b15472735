import SyscallCensus.Yaml.Token

/-!
# Nodes

What a settings file in YAML holds (`SPEC_FULL.md`, Section 10.7).

What a YAML document denotes: scalars, sequences and mappings, some of which have numbers so that
aliases can refer to them.
-/

namespace SyscallCensus.Yaml

/-- A node of a document. -/
inductive Node where
  /-- A text with its tag, if one is written. -/
  | scalar (tag : Option Tag) (style : Style) (text : String)
  /-- A sequence. -/
  | sequence (items : List Node)
  /-- A mapping, with its pairs in the order in which they are written. -/
  | mapping (pairs : List (Node × Node))
  /-- A reference to the node with a number. -/
  | alias (number : Nat)

/-- A node that has a number. -/
structure Anchored where
  /-- How many nodes with numbers began before it. -/
  order : Nat
  /-- Its number. -/
  number : Nat
  /-- The node. -/
  node : Node

/-- A document. -/
structure Document where
  /-- Its node; none where the text holds no document at all. -/
  root : Option Node
  /-- The nodes that have numbers. -/
  anchored : List Anchored

namespace Document

/-- The node with a number. Of several the one that began last counts. -/
def anchored? (d : Document) (number : Nat) : Option Node :=
  let candidates := d.anchored.filter (·.number == number)
  (candidates.find? fun a => candidates.all fun b => b.order ≤ a.order).map (·.node)

/-- The node that a reference leads to; any other node leads to itself. -/
def resolve (d : Document) : Node → Option Node
  | .alias number => d.anchored? number
  | n => some n

end Document

end SyscallCensus.Yaml
