import SyscallCensus.Proofs.Bookkeeping

/-!
# Exploration

About `SPEC_FULL.md`, Section 8: "every reported syscall identifier appears exactly once in the
output", and "every function name is expanded by the traversal at most once".

A walk that is never asked to stop finds everything that can be found, under every schedule. The
books (`Proofs.Bookkeeping`) say that it finds nothing else and hands over nothing twice.

A symbol that a walk has to visit may be lost in three ways: a task drops a callee because somebody
has claimed it already; a task ends at once because another task has claimed its symbol; a task
looks at the flag and ends. The first two lose nothing, since the symbol is visited. The invariant
is therefore that the entry points and the callees of the visited functions are visited or lie ahead
of some task (`Covered`), and it stands as long as the flag is down.
-/

namespace SyscallCensus.Walk

variable {table : SymbolTable} {registry : Registry} {stop : Bool} {memory : Memory}
  {before after : List Task}
  {task : Task} {effect : Effect}

/-- A symbol that was claimed, or that tasks have still to see to. -/
def Met (memory : Memory) (tasks : List Task) (name : String) : Prop :=
  name ∈ memory.visited ∨ name ∈ tasks.flatMap Task.ahead

/-- The entry points and the callees of the visited functions were met. -/
structure Covered (table : SymbolTable) (entries : List String) (memory : Memory)
    (tasks : List Task) : Prop where
  /-- The entry points were met. -/
  entries : ∀ entry ∈ entries, Met memory tasks entry
  /-- The callees of the visited functions were met. -/
  callees : ∀ name ∈ memory.visited, ∀ callee, table.Calls name callee → Met memory tasks callee

theorem Met.move (hstop : stop = false) (hmove : task.Move table registry stop memory effect)
    {name : String} (h : Met memory (before ++ task :: after) name) :
    Met effect.memory (before ++ effect.tasks ++ after) name := by
  simp only [Met, List.flatMap_append, List.flatMap_cons, List.mem_append] at h ⊢
  rcases h with hv | hb | ht | ha
  · left
    cases hmove with
    | leaf _ _ => exact (mem_insert_iff _ _ _).2 (.inr hv)
    | expand _ _ => exact (mem_insert_iff _ _ _).2 (.inr hv)
    | _ => exact hv
  · exact .inr (.inl (.inl hb))
  · -- The symbol lies ahead of the task that moves.
    cases hmove with
    | idle _ _ _ hkeep =>
      rcases hkeep hstop name ht with ht | hv
      · exact .inr (.inl (.inr ht))
      · exact .inl hv
    | pass _ => exact .inr (.inl (.inr (by simpa [Task.ahead] using ht)))
    | take _ => exact .inr (.inl (.inr (by simpa [Task.ahead] using ht)))
    | send => exact .inr (.inl (.inr (by simpa [Task.ahead] using ht)))
    | leaf _ _ =>
      rw [Task.ahead, List.mem_singleton] at ht
      exact .inl ((mem_insert_iff _ _ _).2 (.inl ht))
    | expand _ _ =>
      rw [Task.ahead, List.mem_singleton] at ht
      exact .inl ((mem_insert_iff _ _ _).2 (.inl ht))
  · exact .inr (.inr ha)

/-- A symbol is visited after a move if it was before, or if it is the symbol of a function whose
callees the task has before it from now on. -/
theorem Task.Move.visited_cases (hmove : task.Move table registry stop memory effect)
    {name : String} (h : name ∈ effect.memory.visited) :
    name ∈ memory.visited ∨ ∀ callee, table.Calls name callee →
      callee ∈ effect.tasks.flatMap Task.ahead := by
  cases hmove with
  | @leaf entered _ hget =>
    rcases (mem_insert_iff _ _ _).1 h with rfl | h
    · right
      rintro callee ⟨f, hf, -⟩
      rw [hget] at hf
      cases hf
    · exact .inl h
  | @expand entered f _ hget =>
    rcases (mem_insert_iff _ _ _).1 h with rfl | h
    · right
      rintro callee ⟨g, hg, hcallee⟩
      rw [hget, Option.some.injEq] at hg
      subst hg
      simpa [Task.ahead] using hcallee
    · exact .inl h
  | _ => exact .inl h

namespace Covered

variable {entries : List String}

theorem launch (h : Covered table entries memory []) (more : List String) :
    Covered table (entries ++ more) memory [.launch more] := by
  have hmet {name : String} (hname : Met memory [] name) : Met memory [.launch more] name :=
    hname.imp_right (by simp)
  refine ⟨fun entry he => ?_, fun name hname callee hcall =>
    hmet (h.callees name hname callee hcall)⟩
  rcases List.mem_append.1 he with he | he
  · exact hmet (h.entries entry he)
  · exact .inr (by simpa [Task.ahead] using he)

/-- While the flag is down, a move keeps everything covered. -/
theorem move (h : Covered table entries memory (before ++ task :: after)) (hstop : stop = false)
    (hmove : task.Move table registry stop memory effect) :
    Covered table entries effect.memory (before ++ effect.tasks ++ after) := by
  refine ⟨fun entry he => (h.entries entry he).move hstop hmove, fun name hname callee hcall => ?_⟩
  rcases hmove.visited_cases hname with hold | hnew
  · exact (h.callees name hold callee hcall).move hstop hmove
  · exact .inr (by simp [hnew callee hcall])

/-- What is covered when no task is left is closed under calls. -/
theorem closedFrom (h : Covered table entries memory []) :
    table.ClosedFrom entries {name | name ∈ memory.visited} := by
  have hvisited {name : String} (hname : Met memory [] name) : name ∈ memory.visited :=
    hname.resolve_right (by simp)
  exact ⟨fun entry he => hvisited (h.entries entry he),
    fun name hname callee hcall => hvisited (h.callees name hname callee hcall)⟩

end Covered

/-! ### Whole walks -/

variable {session session' : Session} {entries : List String} {outcome : Outcome}
  {past walks : List Walked}

/-- Walks that were not asked to stop have covered everything. -/
theorem History.covered (h : History table registry walks session) (hstop : session.stop = false) :
    Covered table (given walks) session.memory [] := by
  induction h with
  | start stop => exact ⟨by simp, by simp [Session.start, Memory.empty]⟩
  | cancel _ _ => cases hstop
  | @walk past session session' entries outcome _ hwalk ih =>
    rw [given_concat]
    refine Kept.walks (P := fun stop memory tasks _ => stop = false →
      Covered table (given past ++ entries) memory tasks)
      ⟨fun hmove h hs => (h hs).move hs hmove, fun _ hs => by cases hs⟩ hwalk ?_ hstop
    exact fun hs => (ih hs).launch entries

/-- What walks have visited that were not asked to stop is what their entry points reach. -/
theorem History.hasVisited_iff_reachable (h : History table registry walks session)
    (hstop : session.stop = false) (name : String) :
    session.hasVisited name ↔ table.Reachable (given walks) name :=
  ⟨h.reachable_of_hasVisited, fun hname => hname.mem_of_closedFrom (h.covered hstop).closedFrom⟩

/-- What walks have handed over that were not asked to stop are the numbers that their entry points
lead to. -/
theorem History.mem_deliveredIds_iff (h : History table registry walks session)
    (hstop : session.stop = false) (id : SyscallId) :
    id ∈ deliveredIds walks ↔ table.Uses (given walks) id := by
  rw [h.mem_deliveredIds_iff_makes, SymbolTable.Uses]
  simp only [h.hasVisited_iff_reachable hstop]

/-- The calls that a walk hands over are those of the numbers that no walk before it has handed
over, each with its label. -/
theorem History.mem_calls_iff (hpast : History table registry past session)
    (hwalk : session.Walks table registry entries outcome session') (call : SystemCall) :
    call ∈ outcome.calls ↔ call.name = (registry.name? call.id).getD "" ∧
      call.id ∈ deliveredIds (past ++ [⟨entries, outcome⟩]) ∧ call.id ∉ deliveredIds past := by
  have hnodup := (hpast.walk hwalk).nodup_deliveredIds
  rw [deliveredIds_concat] at hnodup
  rw [deliveredIds_concat, List.mem_append]
  constructor
  · intro hcall
    have hid : call.id ∈ outcome.calls.map (·.id) := List.mem_map_of_mem hcall
    refine ⟨congrArg SystemCall.name (hwalk.labelled call hcall), .inr hid, fun hold => ?_⟩
    exact (List.disjoint_of_nodup_append hnodup) hold hid
  · rintro ⟨hname, hid, hnew⟩
    obtain ⟨other, hother, hsame⟩ := List.mem_map.1 (hid.resolve_left hnew)
    have hlabel : other = call := by
      rw [hwalk.labelled other hother, hsame, Registry.label, ← hname]
    exact hlabel ▸ hother

/-- **Every walk is complete, and hands over everything once**, whatever the schedule, as long as
nobody raises the flag (which is never lowered, so that it is enough to look at it after the walk).
The visited symbols are the least set that holds all entry points given so far and is closed under
calls. The walk hands over each number that its entry points add to those of the earlier walks,
once, with its label, and nothing else. The counters are the sizes of these sets. -/
theorem History.exact_after_walk (hpast : History table registry past session)
    (hwalk : session.Walks table registry entries outcome session')
    (hstop : session'.stop = false) :
    IsLeast {names | table.ClosedFrom (given past ++ entries) names}
      {name | session'.hasVisited name} ∧
    (∀ call, call ∈ outcome.calls ↔ call.name = (registry.name? call.id).getD "" ∧
      table.Uses (given past ++ entries) call.id ∧ ¬ table.Uses (given past) call.id) ∧
    (outcome.calls.map (·.id)).Nodup ∧
    {name | session'.hasVisited name}.encard = outcome.stats.visited ∧
    {name | session'.hasVisited name ∧ table.contains name}.encard = outcome.stats.expanded ∧
    {id | table.Uses (given past ++ entries) id ∧ ¬ table.Uses (given past) id}.encard =
      outcome.stats.delivered := by
  have hall := hpast.walk hwalk
  have hstop₀ : session.stop = false := by
    by_contra hs
    rw [hwalk.stop_mono (Bool.not_eq_false _ ▸ hs)] at hstop
    cases hstop
  have hvisited : {name | session'.hasVisited name} =
      {name | table.Reachable (given past ++ entries) name} := by
    ext name
    rw [Set.mem_ofPred_eq, Set.mem_ofPred_eq, hall.hasVisited_iff_reachable hstop, given_concat]
  have hcalls (call : SystemCall) : call ∈ outcome.calls ↔
    call.name = (registry.name? call.id).getD "" ∧
      table.Uses (given past ++ entries) call.id ∧ ¬ table.Uses (given past) call.id := by
    rw [hpast.mem_calls_iff hwalk, hall.mem_deliveredIds_iff hstop,
      hpast.mem_deliveredIds_iff hstop₀, given_concat]
  have hnodup : (outcome.calls.map (·.id)).Nodup := by
    have h := hall.nodup_deliveredIds
    rw [deliveredIds_concat] at h
    exact h.of_append_right
  have hnew : {id | table.Uses (given past ++ entries) id ∧ ¬ table.Uses (given past) id} =
      ((outcome.calls.map (·.id)).toFinset : Set SyscallId) := by
    ext id
    rw [Set.mem_ofPred_eq, Finset.mem_coe, List.mem_toFinset, List.mem_map]
    constructor
    · intro hid
      exact ⟨registry.label id, (hcalls _).2 ⟨rfl, hid⟩, rfl⟩
    · rintro ⟨call, hcall, rfl⟩
      exact ((hcalls call).1 hcall).2
  rw [hwalk.stats_eq]
  refine ⟨?_, hcalls, hnodup, session'.encard_visited,
    Session.encard_functions hall.books.counted, ?_⟩
  · rw [hvisited]
    exact SymbolTable.reachable_isLeast table (given past ++ entries)
  · rw [hnew, Set.encard_coe_eq_coe_finsetCard, List.toFinset_card_of_nodup hnodup, List.length_map]

/-- The second of two walks over a graph with a cycle, from entry points of which one stands twice
and one has no function: it hands over the one number that the first walk has not seen. -/
theorem exact_after_second_walk :
    let table : SymbolTable := .ofList [⟨"main", ["helper", "missing", "main"], .ofList [60, 1]⟩,
      ⟨"helper", ["main"], .ofList [1, 2]⟩, ⟨"late", ["helper"], .ofList [2, 3]⟩]
    let registry : Registry := ⟨#[⟨1, "write"⟩, ⟨60, "exit"⟩]⟩
    let first := (Session.start false).walk table registry ["main"] none
    let second := first.2.walk table registry ["late", "nowhere", "late"] none
    History table registry [⟨["main"], first.1⟩] first.2 ∧
    first.2.Walks table registry ["late", "nowhere", "late"] second.1 second.2 ∧
    second.2.stop = false ∧
    second.1.calls = [⟨3, ""⟩] ∧
    second.1.stats = ⟨5, 3, 1, false⟩ ∧
    table.Uses ["main", "late", "nowhere", "late"] 3 ∧ ¬ table.Uses ["main"] 3 ∧
    {name | second.2.hasVisited name}.encard = 5 := by
  intro table registry first second
  obtain ⟨hstop, hcalls, hstats⟩ :
      second.2.stop = false ∧ second.1.calls = [⟨3, ""⟩] ∧ second.1.stats = ⟨5, 3, 1, false⟩ := by
    decide +kernel +revert
  have hpast : History table registry [⟨["main"], first.1⟩] first.2 :=
    .walk (.start false) (Session.walks_walk table registry _ _ none)
  have hwalk := Session.walks_walk table registry first.2 ["late", "nowhere", "late"] none
  obtain ⟨-, hmem, -, hvisited, -⟩ := hpast.exact_after_walk hwalk hstop
  obtain ⟨-, hnew, hold⟩ := (hmem ⟨3, ""⟩).1 (hcalls ▸ List.mem_singleton_self _)
  rw [hstats] at hvisited
  exact ⟨hpast, hwalk, hstop, hcalls, hstats, hnew, hold, hvisited⟩

end SyscallCensus.Walk
