import SyscallCensus.Proofs.Blocks
import SyscallCensus.Proofs.Exploration

/-!
# Delivery order

About `SPEC_FULL.md`, Section 5, which promises no order "across disjoint subtrees".

In general the order in which a walk hands over its calls depends on the schedule. Here are graphs
on which it does not. The symbols that lead to system calls at all (`SymbolTable.Productive`) form a
chain: each of their functions calls, of these symbols, at most the next one, itself and earlier
ones (`SymbolTable.Chained`). Symbols that lead to no system call may be called from everywhere, and
may call each other. All that starts tasks that run beside the others.

None of these tasks gets in the way. Of the chain, only the next symbol can lie ahead of tasks and
be unvisited. At most one task at a time has numbers to claim or to send, and as long as it has, no
other task has that symbol ahead of it (`InOrder`). So the functions of the chain are visited in
their order, each one when the numbers of those before it were all sent, and a number that two of
them share is sent for the earlier one (`Session.Walks.calls_follow_chain`).
-/

namespace SyscallCensus

/-! ### Chains -/

namespace SymbolTable

variable {table : SymbolTable} {entries chain : List String} {name callee : String}

/-- The numbers of the function of a symbol, in their order. A symbol without a function has
none. -/
def numbers (table : SymbolTable) (name : String) : List SyscallId :=
  ((table.get? name).map (·.syscalls.toList)).getD []

/-- A symbol whose function makes a system call, or from which calls lead to a function that
does. -/
def Productive (table : SymbolTable) (name : String) : Prop := ∃ id, table.Uses [name] id

/-- **The productive symbols form a chain**: those that the entry points reach are the members of a
list without repeats; an entry point that is productive is the first of them, and a productive
callee of a member stands no further behind it than next to it. -/
structure Chained (table : SymbolTable) (entries chain : List String) : Prop where
  /-- No symbol stands twice. -/
  nodup : chain.Nodup
  /-- The members are the productive symbols that are reached. -/
  mem_iff : ∀ name, name ∈ chain ↔ table.Productive name ∧ table.Reachable entries name
  /-- The only productive entry point is the first member. -/
  entry : ∀ entry ∈ entries, table.Productive entry → chain.head? = some entry
  /-- The productive callees of a member stand up to the place behind it. -/
  callee : ∀ (i : Nat) (name callee : String), chain[i]? = some name → table.Calls name callee →
    table.Productive callee → callee ∈ chain.take (i + 2)

theorem numbers_of_get? {f : FunctionDef} (hget : table.get? name = some f) :
    table.numbers name = f.syscalls.toList := by
  rw [numbers, hget, Option.map_some, Option.getD_some]

/-- What a callee reaches, its caller reaches. -/
theorem Reachable.of_callee (hcall : table.Calls name callee) {other : String}
    (h : table.Reachable [callee] other) : table.Reachable [name] other := by
  induction h with
  | entry he =>
    rw [List.mem_singleton] at he
    exact .call (.entry (List.mem_singleton_self name)) (he ▸ hcall)
  | call _ hcall ih => exact .call ih hcall

theorem Productive.of_makes {id : SyscallId} (h : table.Makes name id) : table.Productive name :=
  ⟨id, name, .entry (List.mem_singleton_self name), h⟩

theorem Productive.of_callee (hcall : table.Calls name callee) (h : table.Productive callee) :
    table.Productive name := by
  obtain ⟨id, other, hreach, hmakes⟩ := h
  exact ⟨id, other, hreach.of_callee hcall, hmakes⟩

/-- A symbol without a function is not productive. -/
theorem not_productive_of_absent (hget : table.get? name = none) : ¬ table.Productive name := by
  rintro ⟨id, hid⟩
  refine not_uses_of_absent (fun entry he => ?_) hid
  rw [List.mem_singleton.1 he, hget]

/-- In a chain, a productive callee of the member behind `done` was met before, or is the next
member. -/
theorem Chained.next {done todo : List String} (h : table.Chained entries (done ++ name :: todo))
    (hcall : table.Calls name callee) (hcallee : table.Productive callee) :
    callee ∈ done ++ [name] ∨ todo.head? = some callee := by
  have hmem := h.callee done.length name callee (by simp) hcall hcallee
  rw [List.take_append, List.take_of_length_le (by omega), Nat.add_sub_cancel_left,
    List.take_succ_cons] at hmem
  rcases List.mem_append.1 hmem with hdone | hmem
  · exact .inl (List.mem_append_left _ hdone)
  rcases List.mem_cons.1 hmem with rfl | hmem
  · exact .inl (List.mem_append_right _ (List.mem_singleton_self _))
  · right
    cases todo with
    | nil => simp at hmem
    | cons next rest => simpa [eq_comm] using hmem

section Idle

variable {idle : List String}

/-- Symbols that make no system call and call only each other are not productive. -/
theorem not_productive_of_idle
    (hcalls : ∀ name ∈ idle, ∀ callee, table.Calls name callee → callee ∈ idle)
    (hmakes : ∀ name ∈ idle, ∀ id, ¬ table.Makes name id) (hname : name ∈ idle) :
    ¬ table.Productive name := by
  rintro ⟨id, other, hreach, hother⟩
  have hclosed : table.ClosedFrom [name] {name | name ∈ idle} :=
    ⟨fun entry he => List.mem_singleton.1 he ▸ hname, hcalls⟩
  exact hmakes other (hreach.mem_of_closedFrom hclosed) id hother

/-- A list of productive symbols that are reached is a chain, if whatever else is named by the entry
points and by its members is idle: it makes no system call, and calls idle symbols only. -/
theorem Chained.of_idle (hcalls : ∀ name ∈ idle, ∀ callee, table.Calls name callee → callee ∈ idle)
    (hmakes : ∀ name ∈ idle, ∀ id, ¬ table.Makes name id) (hnodup : chain.Nodup)
    (hchain : ∀ name ∈ chain, table.Productive name ∧ table.Reachable entries name)
    (hentry : ∀ entry ∈ entries, entry ∈ idle ∨ chain.head? = some entry)
    (hcallee : ∀ (i : Nat) (name callee : String), chain[i]? = some name → table.Calls name callee →
      callee ∈ idle ∨ callee ∈ chain.take (i + 2)) :
    table.Chained entries chain := by
  have hidle {name : String} (hname : table.Productive name) : name ∉ idle :=
    fun hmem => not_productive_of_idle hcalls hmakes hmem hname
  have hclosed : table.ClosedFrom entries {name | name ∈ idle ∨ name ∈ chain} := by
    refine ⟨fun entry he => (hentry entry he).imp_right List.mem_of_head?, ?_⟩
    rintro name (hname | hname) callee hcall
    · exact .inl (hcalls name hname callee hcall)
    · obtain ⟨i, hi⟩ := List.mem_iff_getElem?.1 hname
      exact (hcallee i name callee hi hcall).imp_right List.mem_of_mem_take
  refine ⟨hnodup, fun name => ⟨hchain name, fun h => ?_⟩, fun entry he hproductive => ?_, ?_⟩
  · exact (h.2.mem_of_closedFrom hclosed).resolve_left (hidle h.1)
  · exact (hentry entry he).resolve_left (hidle hproductive)
  · intro i name callee hi hcall hproductive
    exact (hcallee i name callee hi hcall).resolve_left (hidle hproductive)

end Idle

end SymbolTable

namespace IdSet

theorem ofList_append (xs ys : List SyscallId) :
    ofList (xs ++ ys) = ys.foldl insert (ofList xs) := by
  rw [ofList, ofList, List.foldl_append]

theorem insert_of_mem {ids : IdSet} {id : SyscallId} (h : id ∈ ids.toList) :
    ids.insert id = ids := by
  rw [insert, dif_pos h]

/-- A number that was seen before may be left out. -/
theorem ofList_append_cons_of_mem {xs : List SyscallId} {id : SyscallId} (h : id ∈ xs)
    (ys : List SyscallId) : ofList (xs ++ id :: ys) = ofList (xs ++ ys) := by
  have hmem : id ∈ (ofList xs).toList := by
    rw [toList_ofList]
    exact List.mem_eraseDups.2 h
  rw [ofList_append, ofList_append, List.foldl_cons, insert_of_mem hmem]

theorem toList_ofList_of_nodup {xs : List SyscallId} (h : xs.Nodup) : (ofList xs).toList = xs := by
  induction xs using List.reverseRecOn with
  | nil => rfl
  | append_singleton xs x ih =>
    obtain ⟨hxs, -, hdisjoint⟩ := List.nodup_append.1 h
    have hx : x ∉ xs := fun hmem => hdisjoint x hmem x (List.mem_singleton_self x) rfl
    rw [ofList_append, List.foldl_cons, List.foldl_nil, toList_insert, ih hxs, if_neg hx]

end IdSet

/-! ### Numbers before a task -/

namespace Walk

variable {table : SymbolTable} {registry : Registry} {stop : Bool} {memory memory' : Memory}
  {before after tasks : List Task} {task other next : Task} {effect : Effect}

namespace Task

/-- The numbers that a task has before it: the one that it has to send, and those that it has to
claim. -/
def rest (task : Task) : List SyscallId := task.unsent ++ task.owed

/-- A task has no number before it, and no productive symbol that was not visited. -/
def Quiet (table : SymbolTable) (memory : Memory) (task : Task) : Prop :=
  task.rest = [] ∧ ∀ name ∈ task.ahead, table.Productive name → name ∈ memory.visited

/-- Two tasks do not get in each other's way: while one of them has numbers before it, the other one
is quiet. -/
def Apart (table : SymbolTable) (memory : Memory) (task other : Task) : Prop :=
  (task.rest ≠ [] → other.Quiet table memory) ∧ (other.rest ≠ [] → task.Quiet table memory)

@[simp] theorem rest_enter (name : String) : (enter name).rest = [] := rfl

@[simp] theorem rest_claim (name : String) (ids : List SyscallId) (callees : List String) :
    (claim name ids callees).rest = ids := rfl

@[simp] theorem rest_send (name : String) (id : SyscallId) (ids : List SyscallId)
    (callees : List String) : (send name id ids callees).rest = id :: ids := rfl

theorem rest_eq_nil_iff : task.rest = [] ↔ task.unsent = [] ∧ task.owed = [] :=
  List.append_eq_nil_iff

theorem Apart.symm (h : Apart table memory task other) : Apart table memory other task := And.symm h

theorem Quiet.mono (h : task.Quiet table memory)
    (hvisited : ∀ name, table.Productive name → name ∈ memory.visited → name ∈ memory'.visited) :
    task.Quiet table memory' :=
  ⟨h.1, fun name hname hproductive => hvisited name hproductive (h.2 name hname hproductive)⟩

theorem Apart.mono (h : Apart table memory task other)
    (hvisited : ∀ name, table.Productive name → name ∈ memory.visited → name ∈ memory'.visited) :
    Apart table memory' task other :=
  ⟨fun hrest => (h.1 hrest).mono hvisited, fun hrest => (h.2 hrest).mono hvisited⟩

/-- A task that has numbers before it is followed by one task. -/
theorem exists_step_tasks_eq_singleton (table : SymbolTable) (registry : Registry) (stop : Bool)
    (memory : Memory) (hrest : task.rest ≠ []) :
    ∃ next, (task.step table registry stop memory).tasks = [next] := by
  cases task with
  | claim name ids callees =>
    cases ids with
    | nil => exact absurd rfl hrest
    | cons id ids =>
      simp only [step]
      split
      · exact ⟨_, rfl⟩
      · exact ⟨_, rfl⟩
  | send name id ids callees => exact ⟨_, rfl⟩
  | _ => exact absurd rfl hrest

/-- A task that hands on its numbers to the tasks in its place hands them on in their order: several
tasks come in its place only if it has no number before it. -/
theorem flatMap_rest_of_handOn (howed : tasks.flatMap owed = task.owed)
    (hunsent : tasks.flatMap unsent = task.unsent)
    (hlone : task.rest ≠ [] → ∃ next, tasks = [next]) : tasks.flatMap rest = task.rest := by
  by_cases hrest : task.rest = []
  · obtain ⟨hu, ho⟩ := rest_eq_nil_iff.1 hrest
    rw [hu, List.flatMap_eq_nil_iff] at hunsent
    rw [ho, List.flatMap_eq_nil_iff] at howed
    rw [hrest, List.flatMap_eq_nil_iff]
    exact fun next hnext => rest_eq_nil_iff.2 ⟨hunsent next hnext, howed next hnext⟩
  · obtain ⟨next, rfl⟩ := hlone hrest
    rw [List.flatMap_singleton] at howed hunsent
    rw [List.flatMap_singleton, rest, rest, howed, hunsent]

end Task

/-! ### One function after another -/

/-- **The chain is seen to in its order.** Of the chain the first functions were visited, `done`. -/
structure InOrder (table : SymbolTable) (chain done : List String) (memory : Memory)
    (tasks : List Task) (sent : List SyscallId) : Prop where
  /-- They are the first ones. -/
  begun : done <+: chain
  /-- No other productive symbol was visited. -/
  visited : ∀ name, table.Productive name → (name ∈ memory.visited ↔ name ∈ done)
  /-- The only productive symbol that tasks may have before them, and that was not visited, is the
  next one. -/
  next : ∀ name ∈ tasks.flatMap Task.ahead, table.Productive name → name ∉ memory.visited →
    ∃ todo, chain = done ++ name :: todo
  /-- While a task has numbers before it, all others are quiet. -/
  apart : tasks.Pairwise (Task.Apart table memory)
  /-- The numbers that were sent, and behind them those that a task has before it, are the numbers
  of the visited functions in their order, if only first occurrences count. -/
  order : IdSet.ofList (sent ++ tasks.flatMap Task.rest) = IdSet.ofList (done.flatMap table.numbers)

namespace InOrder

variable {entries chain done : List String} {name : String} {sent sent' : List SyscallId}

theorem launch (hchained : table.Chained entries chain) :
    InOrder table chain [] Memory.empty [.launch entries] [] := by
  refine ⟨⟨chain, rfl⟩, by simp [Memory.empty], fun name hname hproductive _ => ?_,
    List.pairwise_singleton _ _, rfl⟩
  rw [List.flatMap_singleton] at hname
  obtain ⟨todo, htodo⟩ := List.head?_eq_some_iff.1 (hchained.entry name hname hproductive)
  exact ⟨todo, htodo⟩

theorem apart_others (h : InOrder table chain done memory (before ++ task :: after) sent) :
    (∀ other ∈ before ++ after, task.Apart table memory other) ∧
      (before ++ after).Pairwise (Task.Apart table memory) :=
  List.pairwise_cons.1 ((List.pairwise_middle Task.Apart.symm).1 h.apart)

/-- While a task has numbers before it, or a productive symbol that was not visited, no other task
has numbers before it. -/
theorem rest_others (h : InOrder table chain done memory (before ++ task :: after) sent)
    (hbusy : ¬ task.Quiet table memory) :
    before.flatMap Task.rest = [] ∧ after.flatMap Task.rest = [] := by
  rw [← List.append_eq_nil_iff, ← List.flatMap_append, List.flatMap_eq_nil_iff]
  intro other hother
  by_contra hrest
  exact hbusy ((h.apart_others.1 other hother).2 hrest)

/-- A task is replaced by others that have no more before them. -/
theorem replace (h : InOrder table chain done memory (before ++ task :: after) sent)
    (hvisited : ∀ name, table.Productive name → (name ∈ memory'.visited ↔ name ∈ memory.visited))
    (hahead : ∀ name ∈ tasks.flatMap Task.ahead, table.Productive name → name ∈ task.ahead)
    (hrest : ∀ next ∈ tasks, next.rest ≠ [] → task.rest ≠ [])
    (hlone : task.rest ≠ [] → ∃ next, tasks = [next])
    (horder : IdSet.ofList (sent' ++ (before ++ tasks ++ after).flatMap Task.rest) =
      IdSet.ofList (sent ++ (before ++ task :: after).flatMap Task.rest)) :
    InOrder table chain done memory' (before ++ tasks ++ after) sent' := by
  have hmono (name : String) (hproductive : table.Productive name) : name ∈ memory.visited →
      name ∈ memory'.visited :=
    (hvisited name hproductive).2
  obtain ⟨hothers, hpairs⟩ := h.apart_others
  refine ⟨h.begun, fun name hproductive =>
    (hvisited name hproductive).trans (h.visited name hproductive),
      fun name hname hproductive hnew => ?_, ?_, horder.trans h.order⟩
  · refine h.next name ?_ hproductive fun hold => hnew (hmono name hproductive hold)
    simp only [List.flatMap_append, List.flatMap_cons, List.mem_append] at hname ⊢
    rcases hname with (hb | ht) | ha
    · exact .inl hb
    · exact .inr (.inl (hahead name ht hproductive))
    · exact .inr (.inr ha)
  · have hperm : (before ++ tasks ++ after).Perm (tasks ++ (before ++ after)) := by
      rw [← List.append_assoc]
      exact List.perm_append_comm.append_right after
    rw [hperm.pairwise_iff Task.Apart.symm, List.pairwise_append]
    refine ⟨?_, hpairs.imp fun hapart => hapart.mono hmono,
      fun next hnext other hother => ⟨fun hn => ?_, fun ho => ?_⟩⟩
    · -- Several tasks come in the place of one only if none of them has numbers before it.
      by_cases htask : task.rest = []
      · refine List.pairwise_of_forall_mem_list fun a ha b hb => ?_
        exact ⟨fun hne => absurd htask (hrest a ha hne), fun hne => absurd htask (hrest b hb hne)⟩
      · obtain ⟨next, rfl⟩ := hlone htask
        exact List.pairwise_singleton _ _
    · exact ((hothers other hother).1 (hrest next hnext hn)).mono hmono
    · obtain ⟨htask, hquiet⟩ := (hothers other hother).2 ho
      refine ⟨by_contra fun hne => hrest next hnext hne htask, fun name hname hproductive => ?_⟩
      have hahead := hahead name (List.mem_flatMap_of_mem hnext hname) hproductive
      exact hmono name hproductive (hquiet name hahead hproductive)

/-- A task that has numbers before it is replaced by one that sees to the same symbols. -/
theorem replace_one (h : InOrder table chain done memory (before ++ task :: after) sent)
    (hrest : task.rest ≠ []) (hahead : next.ahead = task.ahead)
    (hvisited : memory'.visited = memory.visited)
    (horder : IdSet.ofList (sent' ++ (before ++ [next] ++ after).flatMap Task.rest) =
      IdSet.ofList (sent ++ (before ++ task :: after).flatMap Task.rest)) :
    InOrder table chain done memory' (before ++ [next] ++ after) sent' := by
  refine h.replace (fun name _ => by rw [hvisited]) (fun name hname _ => ?_) (fun _ _ _ => hrest)
    (fun _ => ⟨next, rfl⟩) horder
  rwa [List.flatMap_singleton, hahead] at hname

/-- A number that a task owes, and that was claimed already, was sent: no other task has a number to
send. -/
theorem mem_sent_of_claimed {id : SyscallId} {ids : List SyscallId} {callees : List String}
    (h : InOrder table chain done memory (before ++ .claim name (id :: ids) callees :: after) sent)
    (hledger : Ledger table memory (before ++ .claim name (id :: ids) callees :: after) sent)
    (hid : id ∈ memory.claimed) : id ∈ sent := by
  obtain ⟨hbefore, hafter⟩ := h.rest_others fun hquiet => List.cons_ne_nil id ids hquiet.1
  have hunsent {tasks : List Task} (hnone : tasks.flatMap Task.rest = []) :
      tasks.flatMap Task.unsent = [] := by
    rw [List.flatMap_eq_nil_iff] at hnone ⊢
    exact fun other hother => (Task.rest_eq_nil_iff.1 (hnone other hother)).1
  have hissued := (hledger.claimed id).2 hid
  rw [issued, List.flatMap_append, List.flatMap_cons, hunsent hbefore, hunsent hafter] at hissued
  simpa [Task.unsent] using hissued

/-- The symbol of a function is visited that makes no system call and leads to none. -/
theorem expand_unproductive (h : InOrder table chain done memory
    (before ++ .enter name :: after) sent)
    {f : FunctionDef} (hget : table.get? name = some f) (hname : ¬ table.Productive name)
    (hvisited : ∀ other, other ∈ memory'.visited ↔ other = name ∨ other ∈ memory.visited) :
    InOrder table chain done memory'
      (before ++ [.claim name f.syscalls.toList f.callees] ++ after) sent := by
  have hnone : f.syscalls.toList = [] := by
    rw [List.eq_nil_iff_forall_not_mem]
    exact fun id hid => hname (.of_makes ⟨f, hget, hid⟩)
  refine h.replace (fun other hother => ?_) (fun callee hcallee hproductive => ?_)
    (by simp [hnone]) (by simp)
    (by simp [hnone])
  · rw [hvisited, or_iff_right]
    rintro rfl
    exact hname hother
  · rw [List.flatMap_singleton] at hcallee
    exact absurd (.of_callee ⟨f, hget, hcallee⟩ hproductive) hname

/-- When the next function of the chain is visited, all other tasks are quiet from then on: its
symbol was the only one that they could still have to see to, and as long as it was not visited none
of them had numbers before it. -/
theorem quiet_of_expand (h : InOrder table chain done memory (before ++ .enter name :: after) sent)
    (hname : table.Productive name) (hnew : name ∉ memory.visited)
    (hvisited : ∀ other, other ∈ memory'.visited ↔ other = name ∨ other ∈ memory.visited) :
    ∀ other ∈ before ++ after, other.Quiet table memory' := by
  intro other hother
  have hmem : other ∈ before ++ .enter name :: after :=
    List.perm_middle.symm.subset (List.mem_cons_of_mem _ hother)
  refine ⟨?_, fun symbol hsymbol hproductive => ?_⟩
  · by_contra hrest
    obtain ⟨-, hquiet⟩ := (h.apart_others.1 other hother).2 hrest
    exact hnew (hquiet name (List.mem_singleton_self name) hname)
  · rw [hvisited]
    by_contra hleft
    obtain ⟨hdiffers, hleft⟩ := not_or.1 hleft
    obtain ⟨todo, hchain⟩ := h.next name (by simp [Task.ahead]) hname hnew
    obtain ⟨todo', hchain'⟩ :=
      h.next symbol (List.mem_flatMap_of_mem hmem hsymbol) hproductive hleft
    rw [hchain, List.append_cancel_left_eq, List.cons.injEq] at hchain'
    exact hdiffers hchain'.1.symm

/-- The next function of the chain is visited. -/
theorem expand_productive (hchained : table.Chained entries chain)
    (h : InOrder table chain done memory (before ++ .enter name :: after) sent)
    {f : FunctionDef} (hget : table.get? name = some f) (hname : table.Productive name)
    (hnew : name ∉ memory.visited)
    (hvisited : ∀ other, other ∈ memory'.visited ↔ other = name ∨ other ∈ memory.visited) :
    InOrder table chain (done ++ [name]) memory'
      (before ++ [.claim name f.syscalls.toList f.callees] ++ after)
      sent := by
  have hquiet := h.quiet_of_expand hname hnew hvisited
  have hnone : (before ++ after).flatMap Task.rest = [] :=
    List.flatMap_eq_nil_iff.2 fun other hother => (hquiet other hother).1
  rw [List.flatMap_append, List.append_eq_nil_iff] at hnone
  have hpast (other : String) (hother : table.Productive other) : other ∈ memory'.visited ↔
      other ∈ done ++ [name] := by
    rw [hvisited, h.visited other hother, List.mem_append, List.mem_singleton, or_comm]
  obtain ⟨todo, rfl⟩ := h.next name (by simp [Task.ahead]) hname hnew
  rw [List.append_assoc, List.singleton_append]
  refine ⟨⟨todo, by simp⟩, hpast, fun callee hcallee hproductive hfresh => ?_, ?_, ?_⟩
  · obtain ⟨task, htask, hahead⟩ := List.mem_flatMap.1 hcallee
    rcases List.mem_cons.1 (List.perm_middle.subset htask) with rfl | htask
    · rcases hchained.next ⟨f, hget, hahead⟩ hproductive with hdone | hnext
      · exact absurd ((hpast callee hproductive).2 hdone) hfresh
      · obtain ⟨rest, rfl⟩ := List.head?_eq_some_iff.1 hnext
        exact ⟨rest, by simp⟩
    · exact absurd ((hquiet task htask).2 callee hahead hproductive) hfresh
  · rw [List.pairwise_middle Task.Apart.symm, List.pairwise_cons]
    refine ⟨fun other hother => ⟨fun _ => hquiet other hother,
      fun hrest => absurd (hquiet other hother).1 hrest⟩, ?_⟩
    exact h.apart_others.2.imp fun hapart => hapart.mono fun other _ hother =>
      (hvisited other).2 (.inr hother)
  · -- Nothing was left to send, so the numbers of the function come next.
    have horder : IdSet.ofList sent = IdSet.ofList (done.flatMap table.numbers) := by
      simpa [hnone] using h.order
    have hrest : (before ++ .claim name f.syscalls.toList f.callees :: after).flatMap Task.rest =
        table.numbers name := by
      simp [hnone, SymbolTable.numbers_of_get? hget]
    rw [hrest, List.flatMap_append, List.flatMap_singleton, IdSet.ofList_append, horder,
      ← IdSet.ofList_append]

/-- A move keeps the order, if a task that has numbers before it is followed by one task. -/
theorem move (hchained : table.Chained entries chain)
    (h : InOrder table chain done memory (before ++ task :: after) sent)
    (hledger : Ledger table memory (before ++ task :: after) sent)
    (hmove : task.Move table registry stop memory effect)
    (hlone : task.rest ≠ [] → ∃ next, effect.tasks = [next]) :
    ∃ done, InOrder table chain done effect.memory (before ++ effect.tasks ++ after)
      (sent ++ effect.sent.toList.map (·.id)) := by
  cases hmove with
  | @idle _ tasks howed hunsent hsub _ =>
    have hrest := Task.flatMap_rest_of_handOn howed hunsent hlone
    refine ⟨done, h.replace (fun _ _ => Iff.rfl) (fun name hname _ => hsub name hname) ?_ hlone ?_⟩
    · intro next hnext hne hnil
      rw [hnil, List.flatMap_eq_nil_iff] at hrest
      exact hne (hrest next hnext)
    · simp [hrest]
  | @pass name id ids callees hid =>
    obtain ⟨hbefore, hafter⟩ := h.rest_others fun hquiet => List.cons_ne_nil id ids hquiet.1
    have hsent : id ∈ sent := h.mem_sent_of_claimed hledger hid
    refine ⟨done, h.replace_one (List.cons_ne_nil id ids) rfl rfl ?_⟩
    simp [hbefore, hafter, IdSet.ofList_append_cons_of_mem hsent]
  | @take name id ids callees hid =>
    refine ⟨done, h.replace_one (List.cons_ne_nil id ids) rfl rfl ?_⟩
    simp
  | @send name id ids callees =>
    obtain ⟨hbefore, hafter⟩ := h.rest_others fun hquiet => List.cons_ne_nil id ids hquiet.1
    refine ⟨done, h.replace_one (List.cons_ne_nil id ids) rfl rfl ?_⟩
    simp [hbefore, hafter, Registry.label]
  | @leaf name hfree hget =>
    refine ⟨done, h.replace (fun other hother => ?_) (by simp) (by simp) (by simp) (by simp)⟩
    rw [mem_insert_iff, or_iff_right]
    rintro rfl
    exact SymbolTable.not_productive_of_absent hget hother
  | @expand name f hfree hget =>
    rw [Option.toList_none, List.map_nil, List.append_nil]
    by_cases hname : table.Productive name
    · exact ⟨done ++ [name], h.expand_productive hchained hget hname hfree
        (mem_insert_iff memory.visited name)⟩
    · exact ⟨done, h.expand_unproductive hget hname (mem_insert_iff memory.visited name)⟩

end InOrder

/-! ### Whole walks -/

variable {entries chain : List String} {outcome : Outcome} {session : Session}

/-- A first walk sees to a chain in its order. -/
theorem Session.Walks.inOrder
    (hwalk : (Session.start false).Walks table registry entries outcome session)
    (hchained : table.Chained entries chain) :
    ∃ done, InOrder table chain done session.memory [] (outcome.calls.map (·.id)) := by
  have hkept : KeptBySteps table registry fun _ memory tasks sent =>
    Ledger table memory tasks (sent.map (·.id)) ∧
      ∃ done, InOrder table chain done memory tasks (sent.map (·.id)) := by
    refine ⟨?_, id⟩
    intro stop memory before after task sent h
    obtain ⟨hledger, done, horder⟩ := h
    have hmove := task.step_move table registry stop memory
    rw [List.map_append]
    exact ⟨hledger.move hmove,
      horder.move hchained hledger hmove
        (task.exists_step_tasks_eq_singleton table registry stop memory)⟩
  have hstart : Ledger table Memory.empty [.launch entries] [] :=
    (Books.start table false).ledger.launch entries
  exact (hkept.walks hwalk ⟨hstart, [], .launch hchained⟩).2

/-- **A chain fixes the order of the calls.** Where the productive symbols form a chain, a first
walk that nobody stops hands over the numbers of its functions one function after the other, each
function's numbers in their order, and of every number the first occurrence only. It does so under
every schedule. -/
theorem Session.Walks.calls_follow_chain (hchained : table.Chained entries chain)
    (hwalk : (Session.start false).Walks table registry entries outcome session)
    (hstop : session.stop = false) :
    outcome.calls.map (·.id) = (chain.flatMap table.numbers).eraseDups := by
  have hhistory : History table registry [⟨entries, outcome⟩] session := .walk (.start false) hwalk
  obtain ⟨done, ⟨todo, rfl⟩, hvisited, -, -, horder⟩ := hwalk.inOrder hchained
  -- The members of the chain were reached and therefore visited, so that none is left.
  have htodo : todo = [] := by
    rw [List.eq_nil_iff_forall_not_mem]
    intro name hname
    obtain ⟨hproductive, hreach⟩ := (hchained.mem_iff name).1 (List.mem_append_right done hname)
    have hdone : name ∈ done := by
      rw [← hvisited name hproductive, ← session.hasVisited_iff,
        hhistory.hasVisited_iff_reachable hstop]
      simpa [given] using hreach
    exact List.disjoint_of_nodup_append hchained.nodup hdone hname
  have hnodup : (outcome.calls.map (·.id)).Nodup := by
    simpa [deliveredIds] using hhistory.nodup_deliveredIds
  calc outcome.calls.map (·.id)
      = (IdSet.ofList (outcome.calls.map (·.id))).toList :=
        (IdSet.toList_ofList_of_nodup hnodup).symm
    _ = (IdSet.ofList (done.flatMap table.numbers)).toList := by
        rw [← horder, List.flatMap_nil, List.append_nil]
    _ = ((done ++ todo).flatMap table.numbers).eraseDups := by
        rw [htodo, List.append_nil, IdSet.toList_ofList]

/-- A chain of three functions that share numbers and call back; beside it two functions that make
no system call and call each other, a symbol without a function, and entry points of every kind. -/
theorem calls_follow_chain_of_main :
    let functions : List FunctionDef :=
      [⟨"main", ["idle", "work", "missing", "work", "main"], .ofList [60, 1]⟩,
        ⟨"idle", ["spin"], .empty⟩, ⟨"spin", ["idle", "missing"], .empty⟩,
      ⟨"work", ["main", "last", "idle"], .ofList [1, 2]⟩, ⟨"last", ["work"], .ofList [60, 3]⟩]
    let table : SymbolTable := .ofList functions
    let registry : Registry := ⟨#[⟨1, "write"⟩, ⟨60, "exit"⟩]⟩
    let entries := ["nowhere", "main", "idle", "main"]
    let chain := ["main", "work", "last"]
    let walk := (Session.start false).walk table registry entries none
    table.Chained entries chain ∧
    (Session.start false).Walks table registry entries walk.1 walk.2 ∧
    walk.2.stop = false ∧
    walk.1.calls.map (·.id) = [60, 1, 2, 3] := by
  intro functions table registry entries chain walk
  let idle := ["nowhere", "idle", "spin", "missing"]
  obtain ⟨hmain, hwork, hlast⟩ : "main" ∈ entries ∧
    (∃ f ∈ functions, f.name = "main" ∧ "work" ∈ f.callees) ∧
      ∃ f ∈ functions, f.name = "work" ∧ "last" ∈ f.callees := by
    decide +kernel +revert
  obtain ⟨hnames, hnumbers, hstop⟩ : (functions.map (·.name)).Nodup ∧
      (chain.flatMap table.numbers).eraseDups = [60, 1, 2, 3] ∧ walk.2.stop = false := by
    decide +kernel +revert
  obtain ⟨hidle, hbusy, hentries, hcallees⟩ :
      (∀ f ∈ functions, f.name ∈ idle → f.syscalls.toList = [] ∧
        ∀ callee ∈ f.callees, callee ∈ idle) ∧
      (∀ name ∈ chain, ∃ f ∈ functions, f.name = name ∧ f.syscalls.toList ≠ []) ∧
      (∀ entry ∈ entries, entry ∈ idle ∨ chain.head? = some entry) ∧
      ∀ i < chain.length, ∀ f ∈ functions, chain[i]? = some f.name →
        ∀ callee ∈ f.callees, callee ∈ idle ∨ callee ∈ chain.take (i + 2) := by
    decide +kernel +revert
  have hcalls {name callee : String} : table.Calls name callee ↔
      ∃ f ∈ functions, f.name = name ∧ callee ∈ f.callees :=
    SymbolTable.calls_ofList_iff hnames
  have hmakes {name : String} {id : SyscallId} :
      table.Makes name id ↔ ∃ f ∈ functions, f.name = name ∧ id ∈ f.syscalls.toList :=
    SymbolTable.makes_ofList_iff hnames
  have hreach (name : String) (hname : name ∈ chain) : table.Reachable entries name := by
    simp only [chain, List.mem_cons, List.not_mem_nil, or_false] at hname
    rcases hname with rfl | rfl | rfl
    · exact .entry hmain
    · exact .call (.entry hmain) (hcalls.2 hwork)
    · exact .call (.call (.entry hmain) (hcalls.2 hwork)) (hcalls.2 hlast)
  have hchained : table.Chained entries chain := by
    refine .of_idle ?_ ?_ (by decide) ?_ hentries ?_
    · intro name hname callee hcall
      obtain ⟨f, hf, rfl, hcallee⟩ := hcalls.1 hcall
      exact (hidle f hf hname).2 callee hcallee
    · intro name hname id hmade
      obtain ⟨f, hf, rfl, hid⟩ := hmakes.1 hmade
      rw [(hidle f hf hname).1] at hid
      cases hid
    · intro name hname
      obtain ⟨f, hf, hfname, hne⟩ := hbusy name hname
      obtain ⟨id, hid⟩ := List.exists_mem_of_ne_nil _ hne
      exact ⟨.of_makes (hmakes.2 ⟨f, hf, hfname, hid⟩), hreach name hname⟩
    · intro i name callee hi hcall
      obtain ⟨f, hf, rfl, hcallee⟩ := hcalls.1 hcall
      exact hcallees i (List.getElem?_eq_some_iff.1 hi).1 f hf hi callee hcallee
  have hwalk := Session.walks_walk table registry (.start false) entries none
  refine ⟨hchained, hwalk, hstop, ?_⟩
  rw [hwalk.calls_follow_chain hchained hstop, hnumbers]

end Walk

end SyscallCensus
