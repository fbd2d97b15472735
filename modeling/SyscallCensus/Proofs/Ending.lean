import Mathlib.Data.Set.Card
import Mathlib.Order.Interval.Finset.Nat
import SyscallCensus.Proofs.Lineage

/-!
# Walks end

About `SPEC_FULL.md`, Section 4.4: "the traversal must still terminate".

Calls may lead in circles, several tasks may run for one symbol, and a task may start more tasks
than have ended before. A walk ends all the same, whatever its schedule and whoever asks it to stop:

* Every step of a task and every call that is handed over lowers the weight of the walk, and nothing
  raises it (`State.Works.weight_lt`, `State.Step.weight_le`). So in an endless sequence of steps
  all but a few only raise the flag (`State.encard_works_le`); and a walk that is not over can go on
  (`State.over_or_works`).
* The log names each function at most once that the walks over a table have followed, and names
  those that were visited (`Expanded`).
* A task is started for an entry point, or for a callee of a function that is followed. Of what
  tasks may still start, a started task takes one away, and only following a function adds to it
  (`Task.Turn.length_toStart_le`).

`History.walk_bounded` puts them together.
-/

namespace SyscallCensus

/-- The symbols that the function of a symbol calls. A symbol without a function calls none. -/
def SymbolTable.callees (table : SymbolTable) (name : String) : List String :=
  ((table.get? name).map (·.callees)).getD []

namespace Walk

open Log (Event)

variable {table : SymbolTable} {registry : Registry}

/-! ### The weight of a walk -/

namespace State

/-- A task makes a step, or the consumer gets a call. -/
inductive Works (table : SymbolTable) (registry : Registry) (s : State) : State → Prop where
  /-- A task makes a step. -/
  | advance {before after : List Task} {task : Task} :
      s.tasks = before ++ task :: after →
        Works table registry s (s.advance table registry before task after)
  /-- The consumer gets the oldest call of the channel. -/
  | deliver {call : SystemCall} {rest : List SystemCall} (stopAfter : Option Nat) :
      s.channel = call :: rest → Works table registry s (s.deliver stopAfter call rest)

theorem Works.weight_lt {s s' : State} (h : Works table registry s s') :
    s'.weight table < s.weight table := by
  cases h with
  | advance htasks => exact weight_advance_lt table registry _ htasks
  | deliver stopAfter hchannel => exact weight_deliver_lt table stopAfter hchannel

theorem Step.weight_le {s s' : State} (h : Step table registry s s') :
    s'.weight table ≤ s.weight table := by
  cases h with
  | advance htasks => exact (weight_advance_lt table registry _ htasks).le
  | deliver stopAfter hchannel => exact (weight_deliver_lt table stopAfter hchannel).le
  | cancel => exact Nat.le_refl _

/-- A walk that is not over can go on. -/
theorem over_or_works (table : SymbolTable) (registry : Registry) (s : State) :
    s.Over ∨ ∃ s', Works table registry s s' := by
  cases htasks : s.tasks with
  | cons task after => exact .inr ⟨s.advance table registry [] task after, .advance htasks⟩
  | nil =>
    cases hchannel : s.channel with
    | cons call rest => exact .inr ⟨_, .deliver none hchannel⟩
    | nil => exact .inl ⟨htasks, hchannel⟩

/-- **No walk goes on for ever.** In an endless sequence of steps a task makes a step, or a call is
handed over, at most as often as the weight at the beginning says. -/
theorem encard_works_le {states : ℕ → State}
    (h : ∀ n, Step table registry (states n) (states (n + 1))) :
    {n | Works table registry (states n) (states (n + 1))}.encard ≤ (states 0).weight table := by
  have hanti : Antitone fun n => (states n).weight table :=
    antitone_nat_of_succ_le fun n => (h n).weight_le
  -- At different working moments the weight is different, and it is positive.
  have hinj : Set.InjOn (fun n => (states n).weight table)
      {n | Works table registry (states n) (states (n + 1))} := by
    have hlt {i j : ℕ} (hi : Works table registry (states i) (states (i + 1))) (hij : i < j) :
        (states j).weight table < (states i).weight table :=
      (hanti hij).trans_lt hi.weight_lt
    intro i hi j hj heq
    rcases Nat.lt_trichotomy i j with hij | hij | hij
    · exact absurd heq (hlt hi hij).ne'
    · exact hij
    · exact absurd heq (hlt hj hij).ne
  have hrange :
      (fun n => (states n).weight table) '' {n | Works table registry (states n) (states (n + 1))} ⊆
        Finset.Icc 1 ((states 0).weight table) := by
    rintro _ ⟨n, hn, rfl⟩
    exact Finset.mem_coe.2
      (Finset.mem_Icc.2 ⟨Nat.zero_lt_of_lt hn.weight_lt, hanti (Nat.zero_le n)⟩)
  calc {n | Works table registry (states n) (states (n + 1))}.encard
    _ = ((fun n => (states n).weight table) ''
      {n | Works table registry (states n) (states (n + 1))}).encard :=
      hinj.encard_image.symm
    _ ≤ (Finset.Icc 1 ((states 0).weight table) : Set ℕ).encard := Set.encard_le_encard hrange
    _ = (states 0).weight table := by
      rw [Set.encard_coe_eq_coe_finsetCard, Nat.card_Icc, Nat.add_sub_cancel]

theorem weight_start (table : SymbolTable) (memory : Memory) (stop : Bool) (entries : List String) :
    (start memory stop entries).weight table = 3 * entries.length + 1 + tableCost table memory := by
  simp [weight, start, Task.cost]

end State

/-! ### Functions that were followed -/

/-- The functions that a log says a walk has followed, oldest first. -/
def expansions (log : List Event) : List String :=
  log.filterMap fun event =>
    match event with
    | .expanding name => some name
    | _ => none

@[simp] theorem expansions_append (log more : List Event) :
    expansions (log ++ more) = expansions log ++ expansions more :=
  List.filterMap_append

/-- The functions that walks have followed, oldest first. -/
def expandedIn (walks : List Walked) : List String :=
  walks.flatMap fun walked => expansions walked.outcome.log.toList

@[simp] theorem expandedIn_concat (past : List Walked) (entries : List String) (outcome : Outcome) :
    expandedIn (past ++ [⟨entries, outcome⟩]) = expandedIn past ++
      expansions outcome.log.toList := by
  simp [expandedIn]

/-- **The functions that were followed** are the visited ones, each once. -/
structure Expanded (table : SymbolTable) (memory : Memory) (names : List String) : Prop where
  /-- None was followed twice. -/
  nodup : names.Nodup
  /-- They are the visited ones. -/
  mem_iff : ∀ name, name ∈ names ↔ name ∈ memory.visited ∧ table.contains name

/-- A turn follows a function that was not followed before, or none. -/
theorem Expanded.turned {memory : Memory} {names : List String} {task : Task} {effect : Effect}
    (h : Expanded table memory names) (hturn : task.Turn table registry memory effect) :
    Expanded table effect.memory (names ++ expansions effect.log.toList) := by
  cases hturn with
  | @leaf name hfree hget =>
    have hc : table.contains name = false := by simp [SymbolTable.contains, hget]
    refine ⟨by simpa [expansions] using h.nodup, fun other => ?_⟩
    rw [mem_insert_iff, Option.toList_none, expansions, List.filterMap_nil,
      List.append_nil, h.mem_iff]
    constructor
    · exact fun hother => ⟨.inr hother.1, hother.2⟩
    · rintro ⟨rfl | hother, hcontains⟩
      · exact absurd hcontains (by simp [hc])
      · exact ⟨hother, hcontains⟩
  | @expand name f hfree hget =>
    have hc : table.contains name = true := by simp [SymbolTable.contains, hget]
    have hlog : expansions [Event.expanding name] = [name] := rfl
    rw [Option.toList_some, hlog]
    refine ⟨?_, fun other => ?_⟩
    · rw [List.nodup_append_comm, List.singleton_append, List.nodup_cons, h.mem_iff]
      exact ⟨fun hvisited => hfree hvisited.1, h.nodup⟩
    · rw [mem_insert_iff, List.mem_append, List.mem_singleton, h.mem_iff]
      constructor
      · rintro (hother | rfl)
        · exact ⟨.inr hother.1, hother.2⟩
        · exact ⟨.inl rfl, hc⟩
      · rintro ⟨rfl | hother, hcontains⟩
        · exact .inr rfl
        · exact .inl ⟨hother, hcontains⟩
  | _ => exact ⟨by simpa [expansions] using h.nodup, by simpa [expansions] using h.mem_iff⟩

/-- What a walk follows was not followed in the walks before. -/
theorem Chronicle.Runs.expanded {memory : Memory} {stop : Bool} {entries earlier : List String}
    {c : Chronicle} (h : Runs table registry (.start memory stop entries) c)
    (hearlier : Expanded table memory earlier) :
    Expanded table c.state.memory (earlier ++ expansions c.state.log.toList) := by
  refine h.keeps (P := fun c =>
    Expanded table c.state.memory (earlier ++ expansions c.state.log.toList)) ?_ ?_ ?_
  · intro c before after m effect _ _ hturn hc
    rw [turned, Array.toList_appendList, expansions_append, ← List.append_assoc]
    exact hc.turned hturn
  · intro c s hmemory hlog hc
    rwa [hmemory, hlog]
  · simpa [start, State.start, expansions] using hearlier

/-- The functions that walks have followed, after any walks. -/
theorem History.expanded {walks : List Walked} {session : Session}
    (h : History table registry walks session) :
    Expanded table session.memory (expandedIn walks) := by
  induction h with
  | start stop => exact ⟨List.nodup_nil, by simp [expandedIn, Session.start, Memory.empty]⟩
  | cancel _ ih => exact ih
  | @walk past session session' entries outcome _ hwalk ih =>
    obtain ⟨final, hrun, -, rfl, rfl⟩ := hwalk
    obtain ⟨c, hchronicle, rfl⟩ :=
      Chronicle.exists_runs (.start session.memory session.stop entries) hrun
    simpa [State.outcome, State.session, expansions] using hchronicle.expanded ih

/-! ### Tasks that were started -/

/-- What a turn does to the number of tasks that may still be started. -/
theorem Task.Turn.length_toStart_le {memory : Memory} {task : Task} {effect : Effect}
    (hturn : task.Turn table registry memory effect) :
    (effect.tasks.filterMap entering?).length + (effect.tasks.map (·.toStart.length)).sum ≤
      task.toStart.length + ((expansions effect.log.toList).map fun name =>
        (table.callees name).length).sum := by
  cases hturn with
  | finish _ => simp
  | goOn hgoes hle => simpa [hgoes.entering] using Nat.le_add_right_of_le hle
  | start hgoes hstart =>
    rw [hstart]
    simp [hgoes.entering, toStart]
    omega
  | pass _ => simp [List.filterMap_cons, entering?, toStart, ahead]
  | take _ => simp [List.filterMap_cons, entering?, toStart, ahead]
  | send => simp [List.filterMap_cons, entering?, toStart, ahead]
  | leaf _ _ => simp
  | expand _ hget => simp [entering?, toStart, ahead, expansions, SymbolTable.callees, hget]

/-- Tasks were started for the entry points and for the callees of the functions that were followed,
for each at most one. -/
theorem Chronicle.Runs.length_started_le {memory : Memory} {stop : Bool} {entries : List String}
    {c : Chronicle} (h : Runs table registry (.start memory stop entries) c) :
    c.started.length + (c.members.map (·.task.toStart.length)).sum ≤
      entries.length + ((expansions c.state.log.toList).map fun name =>
        (table.callees name).length).sum := by
  refine h.keeps (P := fun c => c.started.length + (c.members.map (·.task.toStart.length)).sum ≤
    entries.length + ((expansions c.state.log.toList).map fun name =>
      (table.callees name).length).sum) ?_ ?_ ?_
  · intro c before after m effect hm _ hturn hc
    have hturned := hturn.length_toStart_le
    rw [hm] at hc
    simp only [turned, Array.toList_appendList, expansions_append, List.map_append, List.sum_append,
      List.length_append, List.map_cons, List.sum_cons, List.map_map, Function.comp_def,
      Member.successor] at hc hturned ⊢
    omega
  · intro c s _ hlog hc
    rwa [hlog]
  · simp [start, Task.toStart, Task.ahead]

section Walks

variable {session : Session} {past : List Walked} {entries : List String} {c : Chronicle}

/-- **Walks end**, after any walks and whatever their schedules. In an endless sequence of steps
tasks make steps, and calls are handed over, at most as often as the entry points and the functions
that were not visited before account for; and as long as a walk is not over, a task can make a step
or a call can be handed over. At every moment, the functions that were followed so far, in the
earlier walks and in this one, are distinct, and are the visited ones; and at most as many tasks
were started in this walk as it has entry points and the functions that it has followed have
callees. -/
theorem History.walk_bounded (hpast : History table registry past session)
    (hrun : Chronicle.Runs table registry (.start session.memory session.stop entries) c) :
    (∀ states : ℕ → State, states 0 = .start session.memory session.stop entries →
      (∀ n, State.Step table registry (states n) (states (n + 1))) →
      {n | State.Works table registry (states n) (states (n + 1))}.encard ≤
        (3 * entries.length + 1 + tableCost table session.memory : ℕ)) ∧
    (c.state.Over ∨ ∃ next, State.Works table registry c.state next) ∧
    (expandedIn past ++ expansions c.state.log.toList).Nodup ∧
    (∀ name, name ∈ expandedIn past ++ expansions c.state.log.toList ↔
      name ∈ c.state.memory.visited ∧ table.contains name) ∧
    c.started.length ≤
      entries.length + ((expansions c.state.log.toList).map fun name =>
        (table.callees name).length).sum := by
  have hexpanded := hrun.expanded hpast.expanded
  refine ⟨fun states hfirst hsteps => ?_, c.state.over_or_works table registry, hexpanded.nodup,
    hexpanded.mem_iff, (Nat.le_add_right _ _).trans hrun.length_started_le⟩
  rw [← State.weight_start table session.memory session.stop entries, ← hfirst]
  exact State.encard_works_le hsteps

/-- A walk after another one, over functions that call each other and themselves, with an entry
point that is given twice and a callee that stands twice: five tasks were started, at most eight
could be, and two functions were followed. -/
theorem walk_bounded_of_cycle :
    let table : SymbolTable :=
      .ofList [⟨"main", ["helper", "helper", "main", "missing"], .ofList [60, 1]⟩,
        ⟨"helper", ["main", "helper"], .ofList [1]⟩, ⟨"late", [], .ofList [2]⟩]
    let registry : Registry := ⟨#[⟨1, "write"⟩, ⟨60, "exit"⟩]⟩
    let first := (Session.start false).walk table registry ["late"] none
    let start := Chronicle.start first.2.memory first.2.stop ["main", "main"]
    let c := start.follow table registry (.replicate 34 (some 0) ++ [none, none])
    History table registry [⟨["late"], first.1⟩] first.2 ∧
    Chronicle.Runs table registry start c ∧ c.state.Over ∧
    (∀ states : ℕ → State, states 0 = start.state →
      (∀ n, State.Step table registry (states n) (states (n + 1))) →
      {n | State.Works table registry (states n) (states (n + 1))}.encard ≤ 44) ∧
    c.started = ["main", "main", "helper", "helper", "missing"] ∧ c.started.length ≤ 8 ∧
    ["late", "main", "helper"].Nodup ∧
    ∀ name, name ∈ ["late", "main", "helper"] ↔
      name ∈ c.state.memory.visited ∧ table.contains name := by
  intro table registry first start c
  obtain ⟨hover, hstarted, hearlier, hexpansions, hcost, hcallees⟩ :
      (c.state.tasks = [] ∧ c.state.channel = []) ∧
        c.started = ["main", "main", "helper", "helper", "missing"] ∧
      expandedIn [⟨["late"], first.1⟩] = ["late"] ∧
        expansions c.state.log.toList = ["main", "helper"] ∧
      tableCost table first.2.memory = 37 ∧
      (["main", "helper"].map fun name => (table.callees name).length).sum = 6 := by
    decide +kernel +revert
  have hpast : History table registry [⟨["late"], first.1⟩] first.2 :=
    .walk (.start false) (Session.walks_walk table registry _ _ none)
  have hrun := Chronicle.runs_follow table registry start (.replicate 34 (some 0) ++ [none, none])
  obtain ⟨hends, -, hnodup, hmem, hlength⟩ := hpast.walk_bounded hrun
  rw [hearlier, hexpansions] at hnodup hmem
  rw [hexpansions, hcallees] at hlength
  rw [hcost] at hends
  exact ⟨hpast, hrun, hover, hends, hstarted, hlength, hnodup, hmem⟩

end Walks

end Walk

end SyscallCensus
