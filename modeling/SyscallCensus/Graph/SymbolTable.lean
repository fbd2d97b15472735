import Std.Data.TreeMap.Lemmas
import SyscallCensus.Graph.Function

/-!
# Symbol tables

This module formalizes the `SymbolTable` of `SPEC_FULL.md`, Section 3 (Data model).

The functions of a program, found by their symbols. A symbol has at most one function: the one that
was inserted last.
-/

namespace SyscallCensus

/-- Functions by symbol. -/
structure SymbolTable where
  /-- The function of each symbol. -/
  definitions : Std.TreeMap String FunctionDef

namespace SymbolTable

/-- The table without functions. -/
def empty : SymbolTable := ⟨∅⟩

instance : Inhabited SymbolTable := ⟨empty⟩

/-- Adds a function under its own symbol, in place of an earlier one. -/
def insert (table : SymbolTable) (f : FunctionDef) : SymbolTable :=
  ⟨table.definitions.insert f.name f⟩

/-- The function of a symbol. -/
def get? (table : SymbolTable) (name : String) : Option FunctionDef := table.definitions[name]?

/-- Whether a symbol has a function. -/
def contains (table : SymbolTable) (name : String) : Bool := (table.get? name).isSome

/-- How many symbols have a function. -/
def size (table : SymbolTable) : Nat := table.definitions.size

/-- The functions in the order of their symbols. -/
def functions (table : SymbolTable) : List FunctionDef := table.definitions.values

/-- The table that results from inserting functions one after another. -/
def ofList (functions : List FunctionDef) : SymbolTable := functions.foldl insert empty

@[simp] theorem get?_empty (name : String) : empty.get? name = none := by
  simp [empty, get?]

theorem get?_insert (table : SymbolTable) (f : FunctionDef) (name : String) :
    (table.insert f).get? name = if f.name = name then some f else table.get? name := by
  simp [insert, get?, Std.TreeMap.getElem?_insert]

end SymbolTable

end SyscallCensus
