import Mathlib.Data.List.Chain
import Mathlib.Data.List.Induction
import Mathlib.Data.List.Nodup
import Mathlib.Order.Bounds.Basic
import SyscallCensus.Graph.SymbolTable

/-!
# Reachable functions

About `SPEC_FULL.md`, Section 4.4 (Call Graph Reachability Engine).

What a walk has to find, said without tasks and schedules: the symbols that calls lead to from entry
points, and the system call numbers of their functions.

A symbol without a function can be reached and leads no further. `reachable_isLeast` says that the
reachable symbols are the least set that holds the entry points and is closed under calls;
`Reachable.exists_path` gives the calls that lead to a symbol.
-/

namespace SyscallCensus.SymbolTable

variable {table : SymbolTable} {entries more : List String} {name : String} {id : SyscallId}

/-- The function of `name` calls `callee`. -/
def Calls (table : SymbolTable) (name callee : String) : Prop :=
  ∃ f, table.get? name = some f ∧ callee ∈ f.callees

/-- The function of `name` makes the system call `id` itself. -/
def Makes (table : SymbolTable) (name : String) (id : SyscallId) : Prop :=
  ∃ f, table.get? name = some f ∧ id ∈ f.syscalls.toList

/-- A set of symbols that holds the entry points and, with a symbol, everything that its function
calls. -/
def ClosedFrom (table : SymbolTable) (entries : List String) (names : Set String) : Prop :=
  (∀ entry ∈ entries, entry ∈ names) ∧ ∀ name ∈ names, ∀ callee, table.Calls name callee →
    callee ∈ names

/-- The symbols that calls lead to from the entry points. -/
inductive Reachable (table : SymbolTable) (entries : List String) : String → Prop where
  /-- An entry point is reached. -/
  | entry {name : String} : name ∈ entries → Reachable table entries name
  /-- What a reached function calls is reached. -/
  | call {name callee : String} : Reachable table entries name → table.Calls name callee →
      Reachable table entries callee

/-- The system call numbers of the functions that are reached from the entry points. -/
def Uses (table : SymbolTable) (entries : List String) (id : SyscallId) : Prop :=
  ∃ name, table.Reachable entries name ∧ table.Makes name id

/-- Closed sets hold whatever is reached. -/
theorem Reachable.mem_of_closedFrom {names : Set String} (h : table.Reachable entries name)
    (hclosed : table.ClosedFrom entries names) : name ∈ names := by
  induction h with
  | entry he => exact hclosed.1 _ he
  | call _ hcall ih => exact hclosed.2 _ ih _ hcall

theorem closedFrom_reachable (table : SymbolTable) (entries : List String) :
    table.ClosedFrom entries {name | table.Reachable entries name} :=
  ⟨fun _ he => .entry he, fun _ hn _ hcall => .call hn hcall⟩

/-- **The reachable symbols** are the least set that holds the entry points and is closed under
calls. -/
theorem reachable_isLeast (table : SymbolTable) (entries : List String) :
    IsLeast {names | table.ClosedFrom entries names} {name | table.Reachable entries name} :=
  ⟨closedFrom_reachable table entries, fun _ hclosed _ hn => hn.mem_of_closedFrom hclosed⟩

theorem Reachable.mono (h : table.Reachable entries name) (hsub : ∀ entry ∈ entries, entry ∈ more) :
    table.Reachable more name := by
  induction h with
  | entry he => exact .entry (hsub _ he)
  | call _ hcall ih => exact .call ih hcall

theorem not_uses_of_absent (habsent : ∀ entry ∈ entries, table.get? entry = none) :
    ¬ table.Uses entries id := by
  -- Nothing is called from an entry point, so that nothing else is reached.
  have hclosed : table.ClosedFrom entries {name | table.get? name = none} := by
    refine ⟨habsent, ?_⟩
    rintro name hname callee ⟨f, hget, -⟩
    rw [Set.mem_ofPred_eq, hget] at hname
    cases hname
  rintro ⟨name, hreach, f, hget, -⟩
  have hname : table.get? name = none := hreach.mem_of_closedFrom hclosed
  rw [hget] at hname
  cases hname

/-- A reached symbol stands at the end of a path of calls that begins at an entry point. -/
theorem Reachable.exists_path (h : table.Reachable entries name) :
    ∃ path : List String, path.IsChain table.Calls ∧ path.getLast? = some name ∧
      ∃ entry ∈ entries, path.head? = some entry := by
  induction h with
  | @entry name he => exact ⟨[name], .singleton name, rfl, name, he, rfl⟩
  | @call name callee _ hcall ih =>
    obtain ⟨path, hchain, hlast, entry, he, hhead⟩ := ih
    refine ⟨path ++ [callee], ?_, List.getLast?_concat, entry, he, ?_⟩
    · rw [List.isChain_append]
      refine ⟨hchain, .singleton callee, fun last hl next hn => ?_⟩
      rw [hlast, Option.mem_some_iff] at hl
      rw [List.head?_cons, Option.mem_some_iff] at hn
      exact hl ▸ hn ▸ hcall
    · rw [List.head?_append, hhead]
      rfl

/-! ### Tables of given functions -/

/-- Of functions with different symbols each is found under its own. -/
theorem get?_ofList_iff {functions : List FunctionDef} (hnodup : (functions.map (·.name)).Nodup)
    {f : FunctionDef} : (ofList functions).get? name = some f ↔ f ∈ functions ∧ f.name = name := by
  induction functions using List.reverseRecOn with
  | nil => simp [ofList]
  | append_singleton functions last ih =>
    rw [List.map_append, List.nodup_append] at hnodup
    obtain ⟨hfirst, -, hdifferent⟩ := hnodup
    rw [ofList, List.foldl_append, List.foldl_cons, List.foldl_nil, ← ofList, get?_insert,
      List.mem_append, List.mem_singleton]
    by_cases hlast : last.name = name
    · rw [if_pos hlast, Option.some.injEq]
      constructor
      · rintro rfl
        exact ⟨.inr rfl, hlast⟩
      · rintro ⟨hf | rfl, hname⟩
        · exact absurd (hname.trans hlast.symm) (hdifferent _ (List.mem_map_of_mem hf) _ (by simp))
        · rfl
    · rw [if_neg hlast, ih hfirst]
      constructor
      · rintro ⟨hf, hname⟩
        exact ⟨.inl hf, hname⟩
      · rintro ⟨hf | rfl, hname⟩
        · exact ⟨hf, hname⟩
        · exact absurd hname hlast

theorem calls_ofList_iff {functions : List FunctionDef} (hnodup : (functions.map (·.name)).Nodup)
    {callee : String} :
    (ofList functions).Calls name callee ↔ ∃ f ∈ functions, f.name = name ∧ callee ∈ f.callees := by
  simp only [Calls, get?_ofList_iff hnodup, and_assoc]

theorem makes_ofList_iff {functions : List FunctionDef} (hnodup : (functions.map (·.name)).Nodup) :
    (ofList functions).Makes name id ↔ ∃ f ∈ functions, f.name = name ∧ id ∈ f.syscalls.toList := by
  simp only [Makes, get?_ofList_iff hnodup, and_assoc]

end SyscallCensus.SymbolTable
