import SyscallCensus.Proofs.Invocations
import SyscallCensus.Proofs.Provenance
import SyscallCensus.Proofs.Symbols

/-!
# Calls of wrappers

About `SPEC_FULL.md`, Section 4.2: "an invocation line can never be mistaken for an unrelated call
or load".

A call of a wrapper is read as an invocation of the system, and never as a call too. Two recognisers
have to agree for that: one looks for a call of any symbol, the other for a call of a wrapper, and
each searches the line by itself. The position at which the first finds a symbol that leads to a
wrapper is one at which the second has an answer (`CallsSymbol.callsWrapper`), so that the line is
an invocation (`not_namesWrapper_of_callTarget`).

`wrapper_never_called` says it of tables and of walks: no function of a table calls such a symbol,
and so a walk comes to one only where it is an entry point.
-/

namespace SyscallCensus.Listing

open Text

variable {registry : Registry} {wrappers : List String}

/-- A symbol that leads to a wrapper: behind a package path, which may be empty, the symbol goes on
with the name of a wrapper. An empty name is no wrapper. -/
def NamesWrapper (wrappers : List String) (symbol : String) : Prop :=
  ∃ path wrapper rest : String,
    symbol = path ++ wrapper ++ rest ∧ IsPath path.toList ∧ wrapper ∈ wrappers ∧ wrapper ≠ ""

/-! ### One line -/

/-- Where a symbol is called that leads to a wrapper, the wrapper is called. -/
theorem CallsSymbol.callsWrapper {text : List Char} {name : String} (h : CallsSymbol text name)
    (hname : NamesWrapper wrappers name) : CallsWrapper wrappers text := by
  obtain ⟨gap, rest, rfl, hgap, -⟩ := h
  obtain ⟨path, wrapper, behind, rfl, hpath, hmem, hne⟩ := hname
  refine ⟨_, gap, path.toList, behind.toList ++ (staticBase ++ rest), wrapper, ?_, .inl rfl, hgap,
    hpath, hmem, hne⟩
  simp only [String.toList_append, List.append_assoc]

/-- **A line that is read as a call** calls no symbol that leads to a wrapper. -/
theorem not_namesWrapper_of_callTarget {line : List Char} {name : String}
    (h : classify registry wrappers line = .callTarget name) : ¬ NamesWrapper wrappers name := by
  intro hname
  obtain ⟨-, hinvocation, -, hcall⟩ := classify_eq_iff.1 h
  obtain ⟨before, text, hword, hcalls, -⟩ := reads_directCall?.search_eq_some_iff.1 hcall
  -- The search for wrappers comes past the position at which the call was found.
  exact isInvocation_eq_false_iff.1 hinvocation ⟨before, text, hword,
    .inr (hcalls.callsWrapper hname)⟩

/-! ### Tables and walks -/

theorem not_namesWrapper_of_calls {bytes : List UInt8} {name callee : String}
    (h : (build registry wrappers bytes).table.Calls name callee) :
    ¬ NamesWrapper wrappers callee := by
  obtain ⟨_, _, _, _, hkind⟩ := callsInText_of_calls h
  exact not_namesWrapper_of_callTarget hkind

/-- **Wrappers are never called.** No symbol that a function of the table calls leads to a wrapper.
So walks over the table, one after another under any schedule, visit such a symbol only where it is
an entry point. -/
theorem wrapper_never_called (registry : Registry) (wrappers : List String) (bytes : List UInt8) :
    (∀ name f, (build registry wrappers bytes).table.get? name = some f → ∀ callee ∈ f.callees,
      ¬ NamesWrapper wrappers callee) ∧
    (∀ walks session, Walk.History (build registry wrappers bytes).table registry walks session →
      ∀ name, session.hasVisited name = true → NamesWrapper wrappers name →
        name ∈ Walk.given walks) := by
  refine ⟨fun name f hget callee hcallee => not_namesWrapper_of_calls ⟨f, hget, hcallee⟩, ?_⟩
  intro walks session hhistory name hvisited hname
  cases hhistory.reachable_of_hasVisited hvisited with
  | entry hentry => exact hentry
  | call _ hcall => exact absurd hname (not_namesWrapper_of_calls hcall)

/-- A function that calls a wrapper behind a package path and another function: only the other one
is among its calls. A walk from the function does not visit the wrapper's symbol, a second one that
begins there does. -/
theorem wrapper_never_called_by_main :
    let bytes := Utf8.encode
      "TEXT main.main(SB)\n\tMOVL $0x27, AX\n\tCALL internal/runtime/syscall.Syscall6(SB)\n\tCALL main.helper(SB)\n"
    let table := (build .linuxX64 Settings.defaultWrappers bytes).table
    let first := (Walk.Session.start false).walk table .linuxX64 ["main.main"] none
    let second := first.2.walk table .linuxX64 ["internal/runtime/syscall.Syscall6"] none
    NamesWrapper Settings.defaultWrappers "internal/runtime/syscall.Syscall6" ∧
    table.get? "main.main" = some ⟨"main.main", ["main.helper"], .ofList [39]⟩ ∧
    ¬ NamesWrapper Settings.defaultWrappers "main.helper" ∧
    first.2.hasVisited "internal/runtime/syscall.Syscall6" = false ∧
    second.2.hasVisited "internal/runtime/syscall.Syscall6" = true ∧
    "internal/runtime/syscall.Syscall6" ∈
      Walk.given [⟨["main.main"], first.1⟩, ⟨["internal/runtime/syscall.Syscall6"], second.1⟩] := by
  intro bytes table first second
  have hpath : IsPath "internal/runtime/".toList :=
    @IsPath.segment ['i', 'n', 't', 'e', 'r', 'n', 'a', 'l'] _ (by decide)
      (List.all_eq_true.1 (by decide))
      (@IsPath.segment ['r', 'u', 'n', 't', 'i', 'm', 'e'] [] (by decide)
        (List.all_eq_true.1 (by decide)) .nil)
  have hname : NamesWrapper Settings.defaultWrappers "internal/runtime/syscall.Syscall6" :=
    ⟨"internal/runtime/", "syscall.Syscall", "6", by decide, hpath, by decide, by decide⟩
  obtain ⟨hget, hfirst, hsecond⟩ :
    table.get? "main.main" = some ⟨"main.main", ["main.helper"], .ofList [39]⟩ ∧
      first.2.hasVisited "internal/runtime/syscall.Syscall6" = false ∧
      second.2.hasVisited "internal/runtime/syscall.Syscall6" = true := by
    decide +kernel +revert
  have hpast : Walk.History table .linuxX64 [⟨["main.main"], first.1⟩] first.2 :=
    .walk (.start false) (Walk.Session.walks_walk table _ _ _ none)
  have hwalks :=
    hpast.walk (Walk.Session.walks_walk table .linuxX64 first.2
      ["internal/runtime/syscall.Syscall6"] none)
  obtain ⟨hcallees, hvisited⟩ := wrapper_never_called .linuxX64 Settings.defaultWrappers bytes
  exact ⟨hname, hget, hcallees _ _ hget _ (by simp), hfirst, hsecond,
    hvisited _ _ hwalks _ hsecond hname⟩

end SyscallCensus.Listing
