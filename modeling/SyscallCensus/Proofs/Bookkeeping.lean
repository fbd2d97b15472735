import Mathlib.Data.Finset.Card
import Mathlib.Data.Set.Card
import SyscallCensus.Proofs.Moves
import SyscallCensus.Proofs.Reachable

/-!
# The books of a walk

About `SPEC_FULL.md`, Section 5: a cancellation signal "stops spawning new exploration tasks and
lets in-flight ones drain".

However its tasks take turns, and wherever it is asked to stop, a walk keeps its books in order:

* The numbers of the visited functions are those that somebody has claimed, and those that some task
  still owes. The claimed ones were sent or are about to be sent, each once (`Ledger`). A task that
  has claimed its symbol does not look at the flag before it has claimed all numbers of its
  function; so when no task is left nothing is owed, and what was handed over are the numbers of the
  visited functions.
* The counter of functions counts the visited symbols that have one (`Memory.Counted`).
* What was visited is reachable from the entry points (`Traced`).

Each of these is kept by every move of a task, so by every walk, and so by walks one after another
(`History.books`). `History.balanced_after_walk` puts them together.
-/

namespace SyscallCensus.Walk

variable {table : SymbolTable} {registry : Registry} {stop : Bool} {memory : Memory}
  {before after : List Task}
  {task : Task} {effect : Effect}

/-! ### Numbers -/

/-- The numbers that were sent, and those that are about to be. -/
def issued (sent : List SyscallId) (tasks : List Task) : List SyscallId :=
  sent ++ tasks.flatMap Task.unsent

/-- **The books on numbers**, for tasks under way and the numbers that were sent. -/
structure Ledger (table : SymbolTable) (memory : Memory) (tasks : List Task)
    (sent : List SyscallId) : Prop where
  /-- The numbers of the visited functions are those that were claimed and those that tasks owe. -/
  accounted : ∀ id, (id ∈ memory.claimed ∨ id ∈ tasks.flatMap Task.owed) ↔
    ∃ name ∈ memory.visited, table.Makes name id
  /-- No number is issued twice. -/
  nodup : (issued sent tasks).Nodup
  /-- The claimed numbers are the issued ones. -/
  claimed : ∀ id, id ∈ issued sent tasks ↔ id ∈ memory.claimed

theorem issued_take (before after : List Task) (sent : List SyscallId) (name : String)
    (id : SyscallId) (ids : List SyscallId) (callees : List String) :
    (issued sent (before ++ [.send name id ids callees] ++ after)).Perm
      (id :: issued sent (before ++ .claim name (id :: ids) callees :: after)) := by
  simp only [issued, List.flatMap_append, List.flatMap_cons, List.flatMap_nil, Task.unsent,
    List.append_nil, List.nil_append]
  rw [← List.append_assoc, ← List.append_assoc, ← List.append_assoc, List.append_assoc _ [id],
    List.singleton_append]
  exact List.perm_middle

theorem issued_send (before after : List Task) (sent : List SyscallId) (name : String)
    (id : SyscallId) (ids : List SyscallId) (callees : List String) :
    (issued (sent ++ [id]) (before ++ [.claim name ids callees] ++ after)).Perm
      (issued sent (before ++ .send name id ids callees :: after)) := by
  simp only [issued, List.flatMap_append, List.flatMap_cons, Task.unsent, List.append_assoc,
    List.singleton_append]
  exact List.Perm.append_left sent List.perm_middle.symm

/-- The numbers of the visited functions, after one more symbol was claimed. -/
theorem exists_makes_insert (visited : Std.TreeSet String) (name : String) (id : SyscallId) :
    (∃ other ∈ visited.insert name, table.Makes other id) ↔
      table.Makes name id ∨ ∃ other ∈ visited, table.Makes other id := by
  simp only [mem_insert_iff, or_and_right, exists_or, exists_eq_left]

theorem makes_iff {name : String} {f : FunctionDef} (hget : table.get? name = some f)
    (id : SyscallId) : table.Makes name id ↔ id ∈ f.syscalls.toList := by
  simp [SymbolTable.Makes, hget]

theorem not_makes {name : String} (hget : table.get? name = none) (id : SyscallId) :
    ¬ table.Makes name id := by
  simp [SymbolTable.Makes, hget]

/-- A walk starts with one task, which owes nothing. -/
theorem Ledger.launch {sent : List SyscallId} (h : Ledger table memory [] sent)
    (entries : List String) : Ledger table memory [.launch entries] sent :=
  ⟨h.accounted, h.nodup, h.claimed⟩

theorem Ledger.move {sent : List SyscallId} (h : Ledger table memory (before ++ task :: after) sent)
    (hmove : task.Move table registry stop memory effect) :
    Ledger table effect.memory (before ++ effect.tasks ++ after)
      (sent ++ effect.sent.toList.map (·.id)) := by
  obtain ⟨haccounted, hnodup, hclaimed⟩ := h
  cases hmove with
  | @idle _ tasks howed hunsent _ _ =>
    have hissued : issued (sent ++ []) (before ++ tasks ++ after) =
        issued sent (before ++ task :: after) := by
      simp [issued, hunsent]
    refine ⟨fun other => ?_, hissued ▸ hnodup, fun other => hissued ▸ hclaimed other⟩
    rw [← haccounted other]
    simp [howed]
  | @pass name id ids callees hid =>
    refine ⟨fun other => ?_, by simpa [issued, Task.unsent] using hnodup,
      by simpa [issued, Task.unsent] using hclaimed⟩
    -- The number is no longer owed, but it was claimed by somebody else.
    rw [← haccounted other]
    simp only [Task.owed, List.flatMap_append, List.flatMap_cons, List.flatMap_nil, List.append_nil,
      List.mem_append, List.mem_cons]
    constructor
    · tauto
    · rintro (hc | hb | (rfl | hi) | ha)
      · exact .inl hc
      · exact .inr (.inl (.inl hb))
      · exact .inl hid
      · exact .inr (.inl (.inr hi))
      · exact .inr (.inr ha)
  | @take name id ids callees hid =>
    have hperm := issued_take before after sent name id ids callees
    refine ⟨fun other => ?_, ?_, fun other => ?_⟩
    · -- The number goes from the owed ones to the claimed ones.
      rw [← haccounted other]
      simp only [mem_insert_iff, Task.owed, List.flatMap_append, List.flatMap_cons,
        List.flatMap_nil, List.append_nil, List.mem_append, List.mem_cons]
      tauto
    · rw [Option.toList_none, List.map_nil, List.append_nil, hperm.nodup_iff, List.nodup_cons]
      exact ⟨fun hmem => hid ((hclaimed id).1 hmem), hnodup⟩
    · rw [Option.toList_none, List.map_nil, List.append_nil, hperm.mem_iff, List.mem_cons,
        hclaimed other, mem_insert_iff]
  | @send name id ids callees =>
    have hperm := issued_send before after sent name id ids callees
    refine ⟨fun other => ?_, hperm.nodup_iff.2 hnodup,
      fun other => hperm.mem_iff.trans (hclaimed other)⟩
    rw [← haccounted other]
    simp [Task.owed]
  | @leaf name hfree hget =>
    refine ⟨fun other => ?_, by simpa [issued, Task.unsent] using hnodup,
      by simpa [issued, Task.unsent] using hclaimed⟩
    rw [exists_makes_insert, or_iff_right (not_makes hget other), ← haccounted other]
    simp [Task.owed]
  | @expand name f hfree hget =>
    refine ⟨fun other => ?_, by simpa [issued, Task.unsent] using hnodup,
      by simpa [issued, Task.unsent] using hclaimed⟩
    -- The numbers of the function are owed from now on.
    rw [exists_makes_insert, makes_iff hget, ← haccounted other]
    simp only [Task.owed, List.flatMap_append, List.flatMap_cons, List.flatMap_nil, List.append_nil,
      List.nil_append, List.mem_append]
    tauto

/-! ### Counters -/

/-- The symbols that were claimed, as a finite set. -/
def Memory.names (memory : Memory) : Finset String := memory.visited.toList.toFinset

@[simp] theorem Memory.mem_names (memory : Memory) (name : String) :
    name ∈ memory.names ↔ name ∈ memory.visited := by
  simp [names]

theorem Memory.card_names (memory : Memory) : memory.names.card = memory.visited.size := by
  have hnodup : memory.visited.toList.Nodup := by
    refine Std.TreeSet.distinct_toList.imp fun {a b} hne heq => hne ?_
    rw [heq]
    exact Std.ReflCmp.compare_self
  rw [names, List.toFinset_card_of_nodup hnodup, Std.TreeSet.length_toList]

theorem Memory.names_visit (memory : Memory) (name : String) (expanded : Nat) :
    Memory.names { memory with visited := memory.visited.insert name, expanded } =
      insert name memory.names := by
  ext other
  rw [mem_names, mem_insert_iff, Finset.mem_insert, mem_names]

/-- The symbols that were claimed, and have functions. -/
def Memory.functions (table : SymbolTable) (memory : Memory) : Finset String :=
  memory.names.filter fun name => table.contains name

/-- The counter of functions counts the visited ones. -/
def Memory.Counted (table : SymbolTable) (memory : Memory) : Prop :=
  memory.expanded = (memory.functions table).card

theorem Memory.Counted.move (h : memory.Counted table)
    (hmove : task.Move table registry stop memory effect) : effect.memory.Counted table := by
  cases hmove with
  | idle _ _ _ _ => exact h
  | pass _ => exact h
  | take _ => exact h
  | send => exact h
  | @leaf name hfree hget =>
    have hc : ¬ table.contains name := by simp [SymbolTable.contains, hget]
    rw [Counted, functions, names_visit, Finset.filter_insert, if_neg hc]
    exact h
  | @expand name f hfree hget =>
    have hc : table.contains name := by simp [SymbolTable.contains, hget]
    have hnew : name ∉ memory.functions table := by simp [functions, hfree]
    rw [Counted, functions, names_visit, Finset.filter_insert, if_pos hc, ← functions,
      Finset.card_insert_of_notMem hnew, ← h]

/-! ### Where the symbols come from -/

/-- Every symbol that was claimed, or that tasks have still to see to, is reachable. -/
structure Traced (table : SymbolTable) (given : List String) (memory : Memory) (tasks : List Task) :
    Prop where
  /-- The claimed ones are. -/
  visited : ∀ name ∈ memory.visited, table.Reachable given name
  /-- The others are. -/
  ahead : ∀ name ∈ tasks.flatMap Task.ahead, table.Reachable given name

theorem Traced.launch {past : List String} (h : Traced table past memory [])
    (entries : List String) : Traced table (past ++ entries) memory [.launch entries] := by
  refine ⟨fun name hname => ?_, fun name hname => ?_⟩
  · exact (h.visited name hname).mono fun _ => List.mem_append_left entries
  · rw [List.flatMap_singleton] at hname
    exact .entry (List.mem_append_right past hname)

theorem Traced.move {given : List String} (h : Traced table given memory (before ++ task :: after))
    (hmove : task.Move table registry stop memory effect) :
    Traced table given effect.memory (before ++ effect.tasks ++ after) := by
  obtain ⟨hvisited, hahead⟩ := h
  simp only [List.flatMap_append, List.flatMap_cons, List.mem_append] at hahead
  cases hmove with
  | @idle _ tasks _ _ hsub _ =>
    refine ⟨hvisited, fun name hname => ?_⟩
    simp only [List.flatMap_append, List.mem_append] at hname
    rcases hname with (hb | ht) | ha
    · exact hahead name (.inl hb)
    · exact hahead name (.inr (.inl (hsub name ht)))
    · exact hahead name (.inr (.inr ha))
  | pass _ => exact ⟨hvisited, by simpa [Task.ahead, or_assoc] using hahead⟩
  | take _ => exact ⟨hvisited, by simpa [Task.ahead, or_assoc] using hahead⟩
  | send => exact ⟨hvisited, by simpa [Task.ahead, or_assoc] using hahead⟩
  | @leaf name hfree hget =>
    refine ⟨fun other hother => ?_, fun other hother => ?_⟩
    · rcases (mem_insert_iff _ _ _).1 hother with rfl | hother
      · exact hahead other (.inr (.inl (List.mem_singleton_self other)))
      · exact hvisited other hother
    · simp only [List.append_nil, List.flatMap_append, List.mem_append] at hother
      exact hahead other (hother.imp_right .inr)
  | @expand name f hfree hget =>
    have hname : table.Reachable given name :=
      hahead name (.inr (.inl (List.mem_singleton_self name)))
    refine ⟨fun other hother => ?_, fun other hother => ?_⟩
    · rcases (mem_insert_iff _ _ _).1 hother with rfl | hother
      · exact hname
      · exact hvisited other hother
    · simp only [List.flatMap_append, List.flatMap_cons, List.flatMap_nil, List.append_nil,
        List.mem_append, Task.ahead] at hother
      rcases hother with (hb | hc) | ha
      · exact hahead other (.inl hb)
      · exact .call hname ⟨f, hget, hc⟩
      · exact hahead other (.inr (.inr ha))

/-! ### Whole walks -/

section Walks

variable {session session' : Session} {entries : List String} {outcome : Outcome}
  {past : List Walked}

theorem Session.hasVisited_iff (session : Session) (name : String) :
    session.hasVisited name = true ↔ name ∈ session.memory.visited :=
  Iff.rfl

/-- A walk keeps the books on numbers. -/
theorem Ledger.walks {earlier : List SyscallId} (h : Ledger table session.memory [] earlier)
    (hwalk : session.Walks table registry entries outcome session') :
    Ledger table session'.memory [] (earlier ++ outcome.calls.map (·.id)) := by
  refine Kept.walks (P := fun _ memory tasks sent =>
    Ledger table memory tasks (earlier ++ sent.map (·.id))) ?_ hwalk ?_
  · refine ⟨fun hmove h => ?_, id⟩
    rw [List.map_append, ← List.append_assoc]
    exact h.move hmove
  · rw [List.map_nil, List.append_nil]
    exact h.launch entries

/-- A walk keeps the counter of functions right. -/
theorem Memory.Counted.walks (h : session.memory.Counted table)
    (hwalk : session.Walks table registry entries outcome session') :
    session'.memory.Counted table :=
  Kept.walks (P := fun _ memory _ _ => memory.Counted table)
    ⟨fun hmove h => h.move hmove, id⟩ hwalk h

/-- A walk keeps to the symbols that its entry points and the earlier ones lead to. -/
theorem Traced.walks {earlier : List String} (h : Traced table earlier session.memory [])
    (hwalk : session.Walks table registry entries outcome session') :
    Traced table (earlier ++ entries) session'.memory [] :=
  Kept.walks (P := fun _ memory tasks _ => Traced table (earlier ++ entries) memory tasks)
    ⟨fun hmove h => h.move hmove, id⟩ hwalk (h.launch entries)

/-- Every call is handed over with the label of its number. -/
theorem Session.Walks.labelled (hwalk : session.Walks table registry entries outcome session') :
    ∀ call ∈ outcome.calls, call = registry.label call.id := by
  refine Kept.walks (P := fun _ _ _ sent => ∀ call ∈ sent, call = registry.label call.id)
    ⟨?_, id⟩ hwalk (by simp)
  intro _ _ _ _ _ _ sent hmove h call hcall
  rcases List.mem_append.1 hcall with hcall | hcall
  · exact h call hcall
  · cases hmove with
    | send =>
      rw [Option.toList_some, List.mem_singleton] at hcall
      rw [hcall]
      rfl
    | _ => simp at hcall

/-- The counters of a walk, in terms of what it leaves. -/
theorem Session.Walks.stats_eq (hwalk : session.Walks table registry entries outcome session') :
    outcome.stats =
      ⟨session'.memory.visited.size, session'.memory.expanded, outcome.calls.length,
        session'.stop⟩ := by
  obtain ⟨final, -, -, rfl, rfl⟩ := hwalk
  simp [State.outcome, State.session, State.stats]

theorem Session.encard_visited (session : Session) :
    {name | session.hasVisited name}.encard = session.memory.visited.size := by
  have hnames : {name | session.hasVisited name} = (session.memory.names : Set String) := by
    ext name
    simp [hasVisited_iff]
  rw [hnames, Set.encard_coe_eq_coe_finsetCard, Memory.card_names]

/-- The number of functions that were visited. -/
theorem Session.encard_functions (h : session.memory.Counted table) :
    {name | session.hasVisited name ∧ table.contains name}.encard = session.memory.expanded := by
  have hfunctions :
      {name | session.hasVisited name ∧ table.contains name} =
        (session.memory.functions table : Set String) := by
    ext name
    simp [hasVisited_iff, Memory.functions]
  rw [hfunctions, Set.encard_coe_eq_coe_finsetCard, ← h]

/-! ### Walks after the flag was raised -/

/-- A walk that was asked to stop before it started: it has done nothing, and at most its first task
is left. -/
def State.Refused (memory : Memory) (s : State) : Prop :=
  s.stop = true ∧ s.memory = memory ∧ s.sent = [] ∧
    (s.tasks = [] ∨ ∃ entries, s.tasks = [.launch entries])

theorem State.Refused.step {s s' : State} (hstep : Step table registry s s')
    (h : s.Refused memory) : s'.Refused memory := by
  obtain ⟨hstop, hmemory, hsent, htasks⟩ := h
  cases hstep with
  | @advance before after task ht =>
    rcases htasks with htasks | ⟨entries, htasks⟩
    · simp [htasks] at ht
    · -- The first task sees the flag, or has no entry points left; it ends either way.
      obtain ⟨rfl, rfl, rfl⟩ : before = [] ∧ task = .launch entries ∧ after = [] := by
        rw [htasks] at ht
        cases before with
        | nil => simpa [eq_comm] using ht
        | cons _ _ => simp at ht
      cases entries with
      | nil =>
        exact ⟨hstop, hmemory, by simp [sent_advance, hsent, Task.step],
          .inl (by simp [advance, Task.step])⟩
      | cons entry entries =>
        exact ⟨hstop, hmemory, by simp [sent_advance, hsent, Task.step, hstop],
          .inl (by simp [advance, Task.step, hstop])⟩
  | @deliver call rest stopAfter hc => simp [sent, hc] at hsent
  | cancel => exact ⟨rfl, hmemory, hsent, htasks⟩

/-- **A walk that starts under a raised flag** hands over nothing and claims nothing. -/
theorem Session.Walks.refused (hwalk : session.Walks table registry entries outcome session')
    (hstop : session.stop = true) : outcome.calls = [] ∧ session'.memory = session.memory := by
  obtain ⟨final, hrun, -, rfl, rfl⟩ := hwalk
  obtain ⟨-, hmemory, hsent, -⟩ : final.Refused session.memory :=
    hrun.invariant (fun _ _ => State.Refused.step) ⟨hstop, rfl, rfl, .inr ⟨entries, rfl⟩⟩
  exact ⟨(List.append_eq_nil_iff.1 hsent).1, hmemory⟩

/-! ### Walks one after another -/

/-- The books after walks. -/
structure Books (table : SymbolTable) (walks : List Walked) (session : Session) : Prop where
  /-- The books on numbers. -/
  ledger : Ledger table session.memory [] (deliveredIds walks)
  /-- The counter of functions is right. -/
  counted : session.memory.Counted table
  /-- The claimed symbols are reachable from the entry points. -/
  traced : Traced table (given walks) session.memory []

theorem Books.start (table : SymbolTable) (stop : Bool) : Books table [] (.start stop) := by
  have hnames : Memory.empty.names = ∅ := by
    ext name
    simp [Memory.empty]
  refine ⟨⟨?_, ?_, ?_⟩, ?_, ⟨?_, ?_⟩⟩
  · simp [Session.start, Memory.empty]
  · simp [issued]
  · simp [issued, Session.start, Memory.empty]
  · rw [Session.start, Memory.Counted, Memory.functions, hnames]
    rfl
  · simp [Session.start, Memory.empty]
  · simp

/-- The books are right after any walks. -/
theorem History.books {walks : List Walked} (h : History table registry walks session) :
    Books table walks session := by
  induction h with
  | start stop => exact .start table stop
  | cancel _ ih => exact ⟨ih.ledger, ih.counted, ih.traced⟩
  | walk _ hwalk ih =>
    refine ⟨?_, ih.counted.walks hwalk, ?_⟩
    · rw [deliveredIds_concat]
      exact ih.ledger.walks hwalk
    · rw [given_concat]
      exact ih.traced.walks hwalk

section History

variable {walks : List Walked}

/-- No number is handed over twice. -/
theorem History.nodup_deliveredIds (h : History table registry walks session) :
    (deliveredIds walks).Nodup := by
  simpa [issued] using h.books.ledger.nodup

/-- The numbers that were handed over are those of the visited functions. -/
theorem History.mem_deliveredIds_iff_makes (h : History table registry walks session)
    (id : SyscallId) :
    id ∈ deliveredIds walks ↔ ∃ name, session.hasVisited name ∧ table.Makes name id := by
  have hclaimed : id ∈ deliveredIds walks ↔ id ∈ session.memory.claimed := by
    simpa [issued] using h.books.ledger.claimed id
  have haccounted : id ∈ session.memory.claimed ↔
      ∃ name ∈ session.memory.visited, table.Makes name id := by
    simpa using h.books.ledger.accounted id
  exact hclaimed.trans haccounted

theorem History.reachable_of_hasVisited (h : History table registry walks session) {name : String}
    (hname : session.hasVisited name) : table.Reachable (given walks) name :=
  h.books.traced.visited name hname

/-- The numbers that were handed over belong to reachable functions. -/
theorem History.uses_of_mem_deliveredIds (h : History table registry walks session) {id : SyscallId}
    (hid : id ∈ deliveredIds walks) : table.Uses (given walks) id := by
  obtain ⟨name, hname, hmakes⟩ := (h.mem_deliveredIds_iff_makes id).1 hid
  exact ⟨name, h.reachable_of_hasVisited hname, hmakes⟩

end History

/-- **Stopping never spoils the books.** After every walk, wherever it and the walks before it were
asked to stop: the numbers that were handed over so far are distinct, and are exactly those of the
visited functions; what was visited is reachable from the entry points given so far; the counters
count the visited symbols, the visited functions and the calls of this walk, and tell the flag. A
walk that starts under a raised flag hands over nothing, visits nothing and leaves the flag up. -/
theorem History.balanced_after_walk (hpast : History table registry past session)
    (hwalk : session.Walks table registry entries outcome session') :
    (deliveredIds (past ++ [⟨entries, outcome⟩])).Nodup ∧
    (∀ id, id ∈ deliveredIds (past ++ [⟨entries, outcome⟩]) ↔
      ∃ name, session'.hasVisited name ∧ table.Makes name id) ∧
    (∀ name, session'.hasVisited name → table.Reachable (given past ++ entries) name) ∧
    {name | session'.hasVisited name ∧ table.contains name}.encard = outcome.stats.expanded ∧
    {name | session'.hasVisited name}.encard = outcome.stats.visited ∧
    outcome.stats.delivered = outcome.calls.length ∧
    outcome.stats.cancelled = session'.stop ∧
    (session.stop = true →
      outcome.calls = [] ∧ (∀ name, session'.hasVisited name = session.hasVisited name) ∧
        session'.stop = true) := by
  have hall := hpast.walk hwalk
  rw [hwalk.stats_eq, ← given_concat past entries outcome]
  refine ⟨hall.nodup_deliveredIds, hall.mem_deliveredIds_iff_makes,
    fun name => hall.reachable_of_hasVisited, Session.encard_functions hall.books.counted,
    session'.encard_visited, rfl, rfl, fun hstop => ?_⟩
  obtain ⟨hcalls, hmemory⟩ := hwalk.refused hstop
  exact ⟨hcalls, fun name => by rw [Session.hasVisited, Session.hasVisited, hmemory],
    hwalk.stop_mono hstop⟩

/-- A walk over a graph with a cycle that its consumer asks to stop at the first call, and a walk
after it: the first one hands over all numbers of the only function that it has visited, the second
one nothing. -/
theorem balanced_after_stopped_walk :
    let table : SymbolTable := .ofList [⟨"main", ["helper", "missing", "main"], .ofList [60, 1]⟩,
      ⟨"helper", ["main"], .ofList [1, 2]⟩]
    let registry : Registry := ⟨#[⟨1, "write"⟩, ⟨60, "exit"⟩]⟩
    let first := (Session.start false).walk table registry ["main"] (some 1)
    let second := first.2.walk table registry ["helper"] none
    History table registry [⟨["main"], first.1⟩] first.2 ∧
    first.2.Walks table registry ["helper"] second.1 second.2 ∧
    first.1.calls = [⟨60, "exit"⟩, ⟨1, "write"⟩] ∧
    second.1.stats = ⟨1, 1, 0, true⟩ ∧
    (∀ id, id ∈ deliveredIds [⟨["main"], first.1⟩, ⟨["helper"], second.1⟩] ↔
      ∃ name, second.2.hasVisited name ∧ table.Makes name id) ∧
    second.1.calls = [] := by
  intro table registry first second
  obtain ⟨hstop, hcalls, hstats⟩ : first.2.stop = true ∧
    first.1.calls = [⟨60, "exit"⟩, ⟨1, "write"⟩] ∧
      second.1.stats = ⟨1, 1, 0, true⟩ := by
    decide +kernel +revert
  have hpast : History table registry [⟨["main"], first.1⟩] first.2 :=
    .walk (.start false) (Session.walks_walk table registry _ _ (some 1))
  have hwalk := Session.walks_walk table registry first.2 ["helper"] none
  obtain ⟨-, hnumbers, -, -, -, -, -, hrefused⟩ := hpast.balanced_after_walk hwalk
  exact ⟨hpast, hwalk, hcalls, hstats, hnumbers, (hrefused hstop).1⟩

end Walks

end SyscallCensus.Walk
