import SyscallCensus.Proofs.Verdict

/-!
# Functions that are not reached

About `SPEC_FULL.md`, Section 4.4: what is not below an entry point has no part in the result.

What an extraction comes to depends on the functions that the entry points reach, and on nothing
else in the table. Two tables that agree on the symbols which one of them reaches
(`SymbolTable.AgreeFrom`) give the same outcome under any two schedules
(`Extraction.same_outcome_of_agreeFrom`): the same error, or the same calls in some order with the
same counters.

Which symbols are reached is itself read off one of the tables. That does no harm: along every path
of calls from an entry point the tables agree on the function at hand, therefore on what it calls,
and so neither of them leaves the part on which they agree (`AgreeFrom.reachable_iff`). A symbol
without a function belongs to that part like any other, so the tables also agree on which entry
points have functions.
-/

namespace SyscallCensus

/-! ### Tables that agree -/

namespace SymbolTable

variable {first second : SymbolTable} {entries : List String} {name callee : String}
  {id : SyscallId}

/-- Two tables have the same functions for all symbols that the first one reaches from the entry
points. -/
def AgreeFrom (entries : List String) (first second : SymbolTable) : Prop :=
  ∀ name, first.Reachable entries name → first.get? name = second.get? name

namespace AgreeFrom

theorem calls_iff (h : AgreeFrom entries first second) (hname : first.Reachable entries name) :
    first.Calls name callee ↔ second.Calls name callee := by
  rw [Calls, Calls, h name hname]

theorem makes_iff (h : AgreeFrom entries first second) (hname : first.Reachable entries name) :
    first.Makes name id ↔ second.Makes name id := by
  rw [Makes, Makes, h name hname]

theorem contains_eq (h : AgreeFrom entries first second) (hname : first.Reachable entries name) :
    first.contains name = second.contains name := by
  rw [contains, contains, h name hname]

/-- **Neither table leaves the part on which they agree.** -/
theorem reachable_iff (h : AgreeFrom entries first second) :
    first.Reachable entries name ↔ second.Reachable entries name := by
  constructor
  · intro hname
    induction hname with
    | entry he => exact .entry he
    | call hcaller hcall ih => exact .call ih ((h.calls_iff hcaller).1 hcall)
  · intro hname
    induction hname with
    | entry he => exact .entry he
    | call _ hcall ih => exact .call ih ((h.calls_iff ih).2 hcall)

theorem uses_iff (h : AgreeFrom entries first second) :
    first.Uses entries id ↔ second.Uses entries id := by
  constructor
  · rintro ⟨name, hname, hmakes⟩
    exact ⟨name, h.reachable_iff.1 hname, (h.makes_iff hname).1 hmakes⟩
  · rintro ⟨name, hname, hmakes⟩
    have hname := h.reachable_iff.2 hname
    exact ⟨name, hname, (h.makes_iff hname).2 hmakes⟩

theorem any_contains_eq (h : AgreeFrom entries first second) :
    entries.any first.contains = entries.any second.contains := by
  rw [Bool.eq_iff_iff, List.any_eq_true, List.any_eq_true]
  constructor
  · rintro ⟨entry, he, hin⟩
    exact ⟨entry, he, h.contains_eq (.entry he) ▸ hin⟩
  · rintro ⟨entry, he, hin⟩
    exact ⟨entry, he, (h.contains_eq (.entry he)).symm ▸ hin⟩

/-- It is enough that the tables agree on symbols that hold the entry points and are closed under
calls. -/
theorem of_closedFrom {names : Set String} (hclosed : first.ClosedFrom entries names)
    (h : ∀ name ∈ names, first.get? name = second.get? name) : AgreeFrom entries first second :=
  fun name hname => h name (hname.mem_of_closedFrom hclosed)

end AgreeFrom

end SymbolTable

/-! ### Walks -/

namespace Walk.Session.Walks

variable {table first second : SymbolTable} {registry : Registry} {entries : List String}
  {outcome outcome' : Outcome}
  {session session' : Session}

/-- The counters of a first walk that was not asked to stop: the reached symbols, those of them that
have functions, and the calls. -/
theorem encard_reachable
    (hwalk : (Session.start false).Walks table registry entries outcome session)
    (hdown : session.stop = false) :
    {name | table.Reachable entries name}.encard = outcome.stats.visited ∧
    {name | table.Reachable entries name ∧ table.contains name}.encard =
      outcome.stats.expanded := by
  have hhistory : History table registry [⟨entries, outcome⟩] session := .walk (.start false) hwalk
  have hvisited (name : String) : table.Reachable entries name ↔ session.hasVisited name := by
    rw [hhistory.hasVisited_iff_reachable hdown]
    simp [given]
  simp only [hvisited]
  rw [hwalk.stats_eq]
  exact ⟨session.encard_visited, encard_functions hhistory.books.counted⟩

theorem nodup_calls (hwalk : (Session.start false).Walks table registry entries outcome session) :
    outcome.calls.Nodup := by
  have hhistory : History table registry [⟨entries, outcome⟩] session := .walk (.start false) hwalk
  have hnodup : (outcome.calls.map (·.id)).Nodup := by
    simpa [deliveredIds] using hhistory.nodup_deliveredIds
  exact hnodup.of_map

/-- **Two walks over tables that agree** hand over the same calls, in whatever order, and count the
same. -/
theorem same_of_agreeFrom (hagree : first.AgreeFrom entries second)
    (hwalk : (Session.start false).Walks first registry entries outcome session)
    (hwalk' : (Session.start false).Walks second registry entries outcome' session')
    (hdown : session.stop = false) (hdown' : session'.stop = false) :
    outcome.calls.Perm outcome'.calls ∧ outcome.stats = outcome'.stats := by
  have hcalls : outcome.calls.Perm outcome'.calls := by
    rw [List.perm_ext_iff_of_nodup hwalk.nodup_calls hwalk'.nodup_calls]
    intro call
    rw [hwalk.mem_calls_iff_uses hdown, hwalk'.mem_calls_iff_uses hdown', hagree.uses_iff]
  have hreached : {name | first.Reachable entries name} =
      {name | second.Reachable entries name} := by
    ext name
    exact hagree.reachable_iff
  have hfunctions : {name | first.Reachable entries name ∧ first.contains name} =
      {name | second.Reachable entries name ∧ second.contains name} := by
    ext name
    simp only [Set.mem_ofPred_eq, hagree.reachable_iff]
    refine and_congr_right fun hname => ?_
    rw [hagree.contains_eq (hagree.reachable_iff.2 hname)]
  obtain ⟨hvisited, hexpanded⟩ := hwalk.encard_reachable hdown
  obtain ⟨hvisited', hexpanded'⟩ := hwalk'.encard_reachable hdown'
  rw [hreached, hvisited', Nat.cast_inj] at hvisited
  rw [hfunctions, hexpanded', Nat.cast_inj] at hexpanded
  refine ⟨hcalls, ?_⟩
  rw [hwalk.stats_eq] at hvisited hexpanded ⊢
  rw [hwalk'.stats_eq] at hvisited hexpanded ⊢
  rw [Stats.mk.injEq]
  exact ⟨hvisited.symm, hexpanded.symm, hcalls.length_eq, hdown.trans hdown'.symm⟩

end Walk.Session.Walks

/-! ### Extractions -/

namespace Extraction

variable {settings : Settings} {first second : SymbolTable} {a b : Extraction}

/-- **What is not reached has no say.** Take two tables that have the same functions for all symbols
that the first one reaches from the entry points, and an extraction from each, under any schedules
and never asked to stop. Both fail for want of an entry point and hand over nothing, or both succeed
with the same counters and the same calls, in whatever order. -/
theorem same_outcome_of_agreeFrom (hagree : first.AgreeFrom settings.entryPoints second)
    (ha : OccursOn settings first false a) (hb : OccursOn settings second false b)
    (hdown : a.stop = false) (hdown' : b.stop = false) :
    (a.result = .error (.unsupportedBinaryKind (.noEntryPoint settings.entryPoints)) ∧
      a.delivered = [] ∧
      b.result = .error (.unsupportedBinaryKind (.noEntryPoint settings.entryPoints)) ∧
      b.delivered = []) ∨
    ∃ stats, a.result = .ok stats ∧ b.result = .ok stats ∧ a.delivered.Perm b.delivered := by
  cases hany : settings.entryPoints.any first.contains with
  | false =>
    rw [ha.of_absent hany, hb.of_absent (hagree.any_contains_eq ▸ hany)]
    exact .inl ⟨rfl, rfl, rfl, rfl⟩
  | true =>
    obtain ⟨outcome, session, hwalk, hcalls, hflag, hresult⟩ := ha.of_present hany
    obtain ⟨outcome', session', hwalk', hcalls', hflag', hresult'⟩ :=
      hb.of_present (hagree.any_contains_eq ▸ hany)
    rw [hflag] at hdown
    rw [hflag'] at hdown'
    obtain ⟨hperm, hstats⟩ := hwalk.same_of_agreeFrom hagree hwalk' hdown hdown'
    refine .inr ⟨outcome.stats, ?_, ?_, ?_⟩
    · rw [hresult, hdown, if_neg Bool.false_ne_true]
    · rw [hresult', hdown', if_neg Bool.false_ne_true, hstats]
    · rw [hcalls, hcalls']
      exact hperm

/-- Two programs with a cycle and a call into nowhere. The second one has one more function, which
makes a system call and calls the entry point, and an unused function is another one in it. -/
theorem same_outcome_of_agreeFrom_main :
    let shared : List FunctionDef :=
      [⟨"main.main", ["main.helper", "main.missing"], .ofList [60, 1]⟩,
        ⟨"main.helper", ["main.main"], .ofList [1, 2]⟩]
    let functions : List FunctionDef := shared ++ [⟨"main.unused", ["main.main"], .ofList [3]⟩]
    let first : SymbolTable := .ofList functions
    let second : SymbolTable := .ofList (shared ++
      [⟨"main.unused", [], .ofList [9]⟩, ⟨"main.more", ["main.main"], .ofList [4]⟩])
    let a := ofTable .default first false none
    let b := ofTable .default second false none
    first.AgreeFrom Settings.defaultEntryPoints second ∧
      first.get? "main.unused" ≠ second.get? "main.unused" ∧
    OccursOn .default first false a ∧ OccursOn .default second false b ∧
    a.stop = false ∧ b.stop = false ∧
    a.result = .ok ⟨5, 2, 3, false⟩ ∧ b.result = .ok ⟨5, 2, 3, false⟩ ∧
      a.delivered.Perm b.delivered := by
  intro shared functions first second a b
  let names := Settings.defaultEntryPoints ++ ["main.helper", "main.missing"]
  obtain ⟨hnodup, hcalled, hsame, hunused⟩ : (functions.map (·.name)).Nodup ∧
      (∀ f ∈ functions, f.name ∈ names → ∀ callee ∈ f.callees, callee ∈ names) ∧
      (∀ name ∈ names, first.get? name = second.get? name) ∧
      first.get? "main.unused" ≠ second.get? "main.unused" := by
    decide +kernel +revert
  obtain ⟨hdown, hdown', hresult⟩ : a.stop = false ∧ b.stop = false ∧
      a.result = .ok ⟨5, 2, 3, false⟩ := by
    decide +kernel +revert
  have hclosed : first.ClosedFrom Settings.defaultEntryPoints {name | name ∈ names} := by
    refine ⟨fun entry he => List.mem_append_left _ he, fun name hname callee hcall => ?_⟩
    obtain ⟨f, hf, rfl, hcallee⟩ := (SymbolTable.calls_ofList_iff hnodup).1 hcall
    exact hcalled f hf hname callee hcallee
  have hagree : first.AgreeFrom Settings.defaultEntryPoints second := .of_closedFrom hclosed hsame
  have ha := occursOn_ofTable .default first false none
  have hb := occursOn_ofTable .default second false none
  refine ⟨hagree, hunused, ha, hb, hdown, hdown', hresult, ?_⟩
  rcases same_outcome_of_agreeFrom hagree ha hb hdown hdown' with
    ⟨hfailed, -⟩ | ⟨stats, hok, hok', hperm⟩
  · rw [hresult] at hfailed
    cases hfailed
  · rw [hok', ← hok]
    exact ⟨hresult, hperm⟩

end Extraction

end SyscallCensus
