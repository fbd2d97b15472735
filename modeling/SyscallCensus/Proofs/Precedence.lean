import SyscallCensus.Proofs.Bookkeeping
import SyscallCensus.Proofs.Lineage

/-!
# A function before its callees

About `SPEC_FULL.md`, Section 5: "within one subtree, a function's own syscalls are reported before
its callees are explored".

A task sends the numbers of its function before it starts tasks for the callees. So one expects that
in the channel the numbers of a function stand before everything that its callees send, and their
callees (`Chronicle.OwnFirst`). That is not so. A task passes over a number that another task has
claimed, and a number that is claimed need not be sent: while the other task waits between the two,
the callees go ahead (`own_call_behind_callee`).

What is true says `History.own_call_first_or_beside`. Take what a task sends, and a function whose
task has led to it. Each number of the function was handed over in an earlier walk, or stands before
it in the channel, or is the late sending of a task beside: of another function that makes the same
system call, that the first one has not led to and that has not led to the sender. Where no two
functions share a number the expected order holds.

The proof looks at how tasks and lines hang together (`Kinship`): a task that still has numbers
before it has started nothing, so its function stands in no line. Therefore whoever holds back a
number is nobody's ancestor. Then it follows the numbers (`Reported`): those of a function are owed
by its task, or under way, and under way they stay.
-/

namespace SyscallCensus.Walk

variable {table : SymbolTable} {registry : Registry} {old memory : Memory}
  {before after members : List Member}
  {m : Member} {effect : Effect} {earlier : List SyscallId} {sendings : List Sending}

/-! ### Tasks and the tasks in their place -/

/-- A task has a number before it: it has to claim it or to send it. -/
def Task.Reports (task : Task) (id : SyscallId) : Prop := id ∈ task.owed ∨ id ∈ task.unsent

/-- A symbol that a task has claimed, or that stands in its line. -/
def Member.Carries (m : Member) (name : String) : Prop := m.task.holder? = some name ∨ name ∈ m.line

/-- What stands in the place of a task after its turn. -/
inductive Member.Follows (table : SymbolTable) (memory memory' : Memory) (m : Member) :
    Member → Prop where
  /-- The task itself. It has no new numbers before it. -/
  | same {task : Task} :
      task.holder? = m.task.holder? → (∀ id, task.Reports id → m.task.Reports id) →
        Follows table memory memory' m ⟨task, m.line⟩
  /-- A task that it has started. It had no numbers before it then. -/
  | child {name : String} :
      (∀ id, ¬ m.task.Reports id) →
        Follows table memory memory' m ⟨.enter name, m.task.holder?.toList ++ m.line⟩
  /-- The task itself, which has claimed the symbol of a function. -/
  | expanded {name : String} {f : FunctionDef} :
      m.task = .enter name → name ∉ memory.visited → name ∈ memory'.visited →
        table.get? name = some f →
        Follows table memory memory' m ⟨.claim name f.syscalls.toList f.callees, m.line⟩

theorem Task.GoesOnAs.not_reports {task next : Task} (h : task.GoesOnAs next) (id : SyscallId) :
    ¬ task.Reports id ∧ ¬ next.Reports id := by
  simp [Reports, h.owed, h.unsent, h.next_owed, h.next_unsent]

theorem Member.follows_of_turn (hturn : m.task.Turn table registry memory effect) {other : Member}
    (h : other ∈ effect.tasks.map m.successor) : m.Follows table memory effect.memory other := by
  obtain ⟨task, line⟩ := m
  cases hturn with
  | finish _ => simp at h
  | goOn hgoes _ =>
    rw [List.map_singleton, List.mem_singleton,
      successor_of_entering?_eq_none _ hgoes.entering] at h
    subst h
    exact .same hgoes.holder fun id hid => absurd hid (hgoes.not_reports id).2
  | start hgoes _ =>
    rw [List.map_cons, List.map_singleton, List.mem_cons, List.mem_singleton,
      successor_of_entering?_eq_none _ hgoes.entering, successor_enter] at h
    rcases h with rfl | rfl
    · exact .same hgoes.holder fun id hid => absurd hid (hgoes.not_reports id).2
    · exact .child fun id => (hgoes.not_reports id).1
  | pass _ =>
    rw [List.map_singleton, List.mem_singleton] at h
    subst h
    exact .same rfl (by simp +contextual [Task.Reports, Task.owed, Task.unsent])
  | take _ =>
    rw [List.map_singleton, List.mem_singleton] at h
    subst h
    exact .same rfl (by simp [Task.Reports, Task.owed, Task.unsent, or_comm])
  | send =>
    rw [List.map_singleton, List.mem_singleton] at h
    subst h
    exact .same rfl (by simp +contextual [Task.Reports, Task.owed, Task.unsent])
  | leaf _ _ => simp at h
  | expand hfree hget =>
    rw [List.map_singleton, List.mem_singleton] at h
    subst h
    exact .expanded rfl hfree ((mem_insert_iff _ _ _).2 (.inl rfl)) hget

/-- Every task after a turn was there before, or stands in the place of the one whose turn it
was. -/
theorem Member.mem_or_follows (hturn : m.task.Turn table registry memory effect) {other : Member}
    (h : other ∈ before ++ effect.tasks.map m.successor ++ after) :
    other ∈ before ++ m :: after ∨ m.Follows table memory effect.memory other := by
  simp only [List.mem_append, List.mem_cons] at h ⊢
  rcases h with (hb | hs) | ha
  · exact .inl (.inl hb)
  · exact .inr (follows_of_turn hturn hs)
  · exact .inl (.inr (.inr ha))

/-- What a task in the place of another one carries, that one has carried, or it was claimed in this
turn. -/
theorem Member.Follows.carries {memory' : Memory} {other : Member}
    (h : m.Follows table memory memory' other) {name : String} (hname : other.Carries name) :
    m.Carries name ∨ name ∉ memory.visited ∧ name ∈ memory'.visited := by
  cases h with
  | same hholder _ => exact .inl (hname.imp_left hholder.symm.trans)
  | child _ =>
    rcases hname with hname | hline
    · cases hname
    · exact .inl ((List.mem_append.1 hline).imp_left Option.mem_toList.1)
  | expanded _ hfree hvisited _ =>
    rcases hname with hname | hline
    · obtain rfl := Option.some.inj hname
      exact .inr ⟨hfree, hvisited⟩
    · exact .inl (.inr hline)

theorem Task.Turn.visited_mono {task : Task} (hturn : task.Turn table registry memory effect)
    {name : String} (h : name ∈ memory.visited) : name ∈ effect.memory.visited := by
  cases hturn with
  | leaf _ _ => exact (mem_insert_iff _ _ _).2 (.inr h)
  | expand _ _ => exact (mem_insert_iff _ _ _).2 (.inr h)
  | _ => exact h

/-- The symbols that the tasks in the place of one have claimed: at most the same one, or one that
was still free. -/
theorem Task.Turn.holders {task : Task} (hturn : task.Turn table registry memory effect) :
    (effect.tasks.filterMap holder?).Sublist task.holder?.toList ∨
    task.holder? = none ∧ ∃ name, name ∉ memory.visited ∧
      effect.tasks.filterMap holder? = [name] := by
  cases hturn with
  | finish _ => exact .inl (List.nil_sublist _)
  | @goOn _ next hgoes _ =>
    have hnext : [next].filterMap holder? = task.holder?.toList := by
      rw [← hgoes.holder]
      cases h : next.holder? <;> simp [h]
    exact .inl (hnext ▸ .refl _)
  | @start _ next name hgoes _ =>
    have hnext : [next, enter name].filterMap holder? = task.holder?.toList := by
      rw [← hgoes.holder]
      cases h : next.holder? <;> simp [h]
    exact .inl (hnext ▸ .refl _)
  | pass _ => exact .inl (.refl _)
  | take _ => exact .inl (.refl _)
  | send => exact .inl (.refl _)
  | leaf _ _ => exact .inl (List.nil_sublist _)
  | @expand name f hfree _ => exact .inr ⟨rfl, name, hfree, rfl⟩

/-! ### Who has claimed what -/

/-- **How tasks and lines hang together** in a walk that has started with the memory `old`. -/
structure Kinship (old memory : Memory) (members : List Member) : Prop where
  /-- What was visited before the walk still is. -/
  grown : ∀ name ∈ old.visited, name ∈ memory.visited
  /-- The symbols that tasks have claimed, and those that stand in their lines, were visited in this
  walk. -/
  known : ∀ m ∈ members, ∀ name, m.Carries name → name ∈ memory.visited ∧ name ∉ old.visited
  /-- No two tasks have claimed the same symbol. -/
  single : (members.filterMap (·.task.holder?)).Nodup
  /-- A task that has numbers before it has not started any task. -/
  childless : ∀ m ∈ members, ∀ name id, m.task.holder? = some name → m.task.Reports id →
    ∀ other ∈ members, name ∉ other.line

namespace Kinship

theorem start (memory : Memory) (entries : List String) :
    Kinship memory memory [⟨.launch entries, []⟩] := by
  refine ⟨fun _ => id, ?_, ?_, ?_⟩ <;> simp [Member.Carries, Task.holder?]

theorem eq_of_holder (h : Kinship old memory members) {a b : Member} {name : String}
    (ha : a ∈ members) (hb : b ∈ members) (haname : a.task.holder? = some name)
    (hbname : b.task.holder? = some name) : a = b := by
  have hsymm : Std.Symm fun a b : Member =>
      ∀ x, a.task.holder? = some x → ∀ y, b.task.holder? = some y → x ≠ y :=
    ⟨fun _ _ hab x hx y hy => (hab y hy x hx).symm⟩
  by_contra hne
  exact (List.pairwise_filterMap.1 h.single).forall ha hb hne name haname name hbname rfl

theorem known_turned (h : Kinship old memory (before ++ m :: after))
    (hturn : m.task.Turn table registry memory effect) :
    ∀ other ∈ before ++ effect.tasks.map m.successor ++ after, ∀ name, other.Carries name →
      name ∈ effect.memory.visited ∧ name ∉ old.visited := by
  intro other hother name hname
  have hold (m' : Member) (hm' : m' ∈ before ++ m :: after) (hname : m'.Carries name) :
      name ∈ effect.memory.visited ∧ name ∉ old.visited :=
    (h.known m' hm' name hname).imp_left hturn.visited_mono
  rcases Member.mem_or_follows hturn hother with hmem | hfollows
  · exact hold other hmem hname
  · rcases hfollows.carries hname with hname | ⟨hfree, hvisited⟩
    · exact hold m (by simp) hname
    · exact ⟨hvisited, fun hmem => hfree (h.grown name hmem)⟩

theorem single_turned (h : Kinship old memory (before ++ m :: after))
    (hturn : m.task.Turn table registry memory effect) :
    ((before ++ effect.tasks.map m.successor ++ after).filterMap (·.task.holder?)).Nodup := by
  have hholders : (effect.tasks.map m.successor).filterMap (·.task.holder?) =
      effect.tasks.filterMap Task.holder? := by
    rw [List.filterMap_map]
    rfl
  have hsingle : (before.filterMap (·.task.holder?) ++ m.task.holder?.toList ++
      after.filterMap (·.task.holder?)).Nodup := by
    have hsingle := h.single
    rw [List.filterMap_append, List.filterMap_cons] at hsingle
    cases hm : m.task.holder? <;> simpa [hm] using hsingle
  rw [List.filterMap_append, List.filterMap_append, hholders]
  rcases hturn.holders with hsub | ⟨hnone, name, hfree, hname⟩
  · exact hsingle.sublist ((hsub.append_left _).append_right _)
  · -- Nobody has claimed a symbol that was not visited.
    have hnew : name ∉ before.filterMap (·.task.holder?) ++ after.filterMap (·.task.holder?) := by
      rw [← List.filterMap_append]
      intro hmem
      obtain ⟨other, hother, hholder⟩ := List.mem_filterMap.1 hmem
      refine hfree (h.known other ?_ name (.inl hholder)).1
      exact List.perm_middle.symm.subset (List.mem_cons_of_mem m hother)
    rw [hnone, Option.toList_none, List.append_nil] at hsingle
    rw [hname, List.append_assoc, List.singleton_append, List.nodup_middle, List.nodup_cons]
    exact ⟨hnew, hsingle⟩

theorem childless_turned (h : Kinship old memory (before ++ m :: after))
    (hturn : m.task.Turn table registry memory effect) :
    ∀ a ∈ before ++ effect.tasks.map m.successor ++ after, ∀ name id, a.task.holder? = some name →
      a.task.Reports id →
      ∀ b ∈ before ++ effect.tasks.map m.successor ++ after, name ∉ b.line := by
  intro a ha name id hname hreports b hb
  have hm : m ∈ before ++ m :: after := by simp
  -- A task that was there before: its symbol stood in no line, and only its own children have it in
  -- their lines.
  have hold (a : Member) (ha : a ∈ before ++ m :: after) (hname : a.task.holder? = some name)
      (hreports : a.task.Reports id) : name ∉ b.line := by
    rcases Member.mem_or_follows hturn hb with hb | hfollows
    · exact h.childless a ha name id hname hreports b hb
    · have hline := h.childless a ha name id hname hreports m hm
      cases hfollows with
      | same _ _ => exact hline
      | child hquiet =>
        intro hmem
        rcases List.mem_append.1 hmem with hmem | hmem
        · rw [h.eq_of_holder ha hm hname (Option.mem_toList.1 hmem)] at hreports
          exact hquiet id hreports
        · exact hline hmem
      | expanded _ _ _ _ => exact hline
  rcases Member.mem_or_follows hturn ha with ha | hfollows
  · exact hold a ha hname hreports
  · cases hfollows with
    | same hholder hsub => exact hold m hm (hholder ▸ hname) (hsub id hreports)
    | child _ => cases hname
    | @expanded entered f htask hfree _ _ =>
      -- The symbol was not visited, so it stood in no line; and the task has started nothing yet.
      obtain rfl := Option.some.inj hname
      have hline (other : Member) (hother : other ∈ before ++ m :: after) : entered ∉ other.line :=
        fun hmem => hfree (h.known other hother entered (.inr hmem)).1
      rcases Member.mem_or_follows hturn hb with hb | hfollows
      · exact hline b hb
      · cases hfollows with
        | same _ _ => exact hline m hm
        | child _ => simpa [htask] using hline m hm
        | expanded _ _ _ _ => exact hline m hm

theorem turned (h : Kinship old memory (before ++ m :: after))
    (hturn : m.task.Turn table registry memory effect) :
    Kinship old effect.memory (before ++ effect.tasks.map m.successor ++ after) :=
  ⟨fun name hname => hturn.visited_mono (h.grown name hname), h.known_turned hturn,
    h.single_turned hturn, h.childless_turned hturn⟩

end Kinship

/-! ### What has become of the numbers -/

/-- A number of the function `f` is under way: it was sent, in this walk or before, or a task to
which `f` has not led is about to send it. -/
def Underway (earlier : List SyscallId) (members : List Member) (sendings : List Sending)
    (f : String) (id : SyscallId) : Prop :=
  id ∈ earlier ++ sendings.map (·.id) ∨
    ∃ sending ∈ members.flatMap Member.upcoming, sending.id = id ∧ f ∉ sending.line

/-- What is under way stays so, whatever comes in the place of a task: what it had to send was
sent. -/
theorem Underway.turned {f : String} {id : SyscallId}
    (h : Underway earlier (before ++ m :: after) sendings f id) (others : List Member) :
    Underway earlier (before ++ others ++ after) (sendings ++ m.upcoming) f id := by
  rcases h with hsent | ⟨sending, hmem, rfl, hline⟩
  · left
    rw [List.map_append, ← List.append_assoc]
    exact List.mem_append_left _ hsent
  · simp only [List.flatMap_append, List.flatMap_cons, List.mem_append] at hmem
    rcases hmem with hb | hm | ha
    · exact .inr ⟨sending, by simp [hb], rfl, hline⟩
    · exact .inl (by simp [List.mem_map_of_mem hm])
    · exact .inr ⟨sending, by simp [ha], rfl, hline⟩

/-- **What has become of the numbers** of the functions whose tasks run, or have led to tasks that
run. -/
structure Reported (table : SymbolTable) (earlier : List SyscallId) (members : List Member)
    (sendings : List Sending) : Prop where
  /-- A task has before it numbers of its function only. -/
  makes : ∀ m ∈ members, ∀ name id, m.task.holder? = some name → m.task.Reports id →
    table.Makes name id
  /-- The numbers of a task's function are owed or under way. -/
  own : ∀ m ∈ members, ∀ name id, m.task.holder? = some name → table.Makes name id →
    id ∈ m.task.owed ∨ Underway earlier members sendings name id
  /-- The numbers of the functions that have led to a task are under way. -/
  line : ∀ m ∈ members, ∀ f ∈ m.line, ∀ id, table.Makes f id →
    Underway earlier members sendings f id

namespace Reported

theorem start (earlier : List SyscallId) (entries : List String) :
    Reported table earlier [⟨.launch entries, []⟩] [] := by
  refine ⟨?_, ?_, ?_⟩ <;> simp [Task.holder?]

theorem makes_turned (h : Reported table earlier (before ++ m :: after) sendings)
    (hturn : m.task.Turn table registry memory effect) :
    ∀ other ∈ before ++ effect.tasks.map m.successor ++ after, ∀ name id,
      other.task.holder? = some name →
      other.task.Reports id → table.Makes name id := by
  intro other hother name id hname hreports
  rcases Member.mem_or_follows hturn hother with hold | hfollows
  · exact h.makes other hold name id hname hreports
  · cases hfollows with
    | same hholder hsub => exact h.makes m (by simp) name id (hholder ▸ hname) (hsub id hreports)
    | child _ => cases hname
    | @expanded entered f _ _ _ hget =>
      obtain rfl := Option.some.inj hname
      exact ⟨f, hget, by simpa [Task.Reports, Task.owed, Task.unsent] using hreports⟩

/-- A number that was claimed is under way for a function that stands in no line. -/
theorem underway_of_claimed {f : String} {id : SyscallId}
    (hledger : Ledger table memory (members.map (·.task)) (earlier ++ sendings.map (·.id)))
    (hid : id ∈ memory.claimed) (hline : ∀ other ∈ members, f ∉ other.line) :
    Underway earlier members sendings f id := by
  rcases List.mem_append.1 ((hledger.claimed id).2 hid) with hsent | hunsent
  · exact .inl hsent
  · obtain ⟨task, htask, hid⟩ := List.mem_flatMap.1 hunsent
    obtain ⟨other, hother, rfl⟩ := List.mem_map.1 htask
    rw [← other.map_id_upcoming] at hid
    obtain ⟨sending, hsending, rfl⟩ := List.mem_map.1 hid
    refine .inr ⟨sending, List.mem_flatMap_of_mem hother hsending, rfl, ?_⟩
    rw [← (Member.line_of_mem_upcoming hsending).2.1]
    exact hline other hother

theorem own_turned (h : Reported table earlier (before ++ m :: after) sendings)
    (hkin : Kinship old memory (before ++ m :: after))
    (hledger : Ledger table memory ((before ++ m :: after).map (·.task))
      (earlier ++ sendings.map (·.id)))
    (hturn : m.task.Turn table registry memory effect) :
    ∀ other ∈ before ++ effect.tasks.map m.successor ++ after, ∀ name id,
      other.task.holder? = some name →
      table.Makes name id → id ∈ other.task.owed ∨
        Underway earlier (before ++ effect.tasks.map m.successor ++ after)
          (sendings ++ m.upcoming) name id := by
  intro other hother name id hname hmakes
  have hold (owner : Member) (howner : owner ∈ before ++ m :: after)
    (hname : owner.task.holder? = some name) :
      id ∈ owner.task.owed ∨
        Underway earlier (before ++ effect.tasks.map m.successor ++ after)
          (sendings ++ m.upcoming) name id :=
    (h.own owner howner name id hname hmakes).imp_right fun hunder => hunder.turned _
  simp only [List.mem_append] at hother
  rcases hother with (hb | hs) | ha
  · exact hold other (by simp [hb]) hname
  · have hm : m ∈ before ++ m :: after := by simp
    obtain ⟨task, line⟩ := m
    cases hturn with
    | finish _ => simp at hs
    | goOn hgoes _ =>
      rw [List.map_singleton, List.mem_singleton,
        Member.successor_of_entering?_eq_none _ hgoes.entering] at hs
      subst hs
      exact .inr ((hold _ hm (hgoes.holder ▸ hname)).resolve_left (by simp [hgoes.owed]))
    | start hgoes _ =>
      rw [List.map_cons, List.map_singleton, List.mem_cons, List.mem_singleton,
        Member.successor_of_entering?_eq_none _ hgoes.entering] at hs
      rcases hs with rfl | rfl
      · exact .inr ((hold _ hm (hgoes.holder ▸ hname)).resolve_left (by simp [hgoes.owed]))
      · cases hname
    | @pass f number ids callees hclaimed =>
      rw [List.map_singleton, List.mem_singleton] at hs
      subst hs
      obtain rfl := Option.some.inj hname
      rcases hold _ hm rfl with howed | hunder
      · rcases List.mem_cons.1 howed with rfl | howed
        · -- The number was claimed by a task to which the function has not led.
          exact .inr ((underway_of_claimed hledger hclaimed
            (hkin.childless _ hm _ _ rfl (.inl (List.mem_cons_self ..)))).turned _)
        · exact .inl howed
      · exact .inr hunder
    | @take f number ids callees _ =>
      rw [List.map_singleton, List.mem_singleton] at hs
      subst hs
      obtain rfl := Option.some.inj hname
      rcases hold _ hm rfl with howed | hunder
      · rcases List.mem_cons.1 howed with rfl | howed
        · -- The task itself is about to send the number, and its function is not in its own line.
          have hline := hkin.childless _ hm _ _ rfl (.inl (List.mem_cons_self ..)) _ hm
          exact .inr (.inr ⟨⟨f, line, id⟩,
            by simp [Member.upcoming, Member.successor, Task.entering?], rfl, hline⟩)
        · exact .inl howed
      · exact .inr hunder
    | send =>
      rw [List.map_singleton, List.mem_singleton] at hs
      subst hs
      have howed := hold _ hm hname
      exact howed
    | leaf _ _ => simp at hs
    | expand _ hget =>
      rw [List.map_singleton, List.mem_singleton] at hs
      subst hs
      obtain rfl := Option.some.inj hname
      exact .inl ((makes_iff hget id).1 hmakes)
  · exact hold other (by simp [ha]) hname

theorem line_turned (h : Reported table earlier (before ++ m :: after) sendings)
    (hturn : m.task.Turn table registry memory effect) :
    ∀ other ∈ before ++ effect.tasks.map m.successor ++ after, ∀ f ∈ other.line, ∀ id,
      table.Makes f id →
      Underway earlier (before ++ effect.tasks.map m.successor ++ after)
        (sendings ++ m.upcoming) f id := by
  intro other hother f hf id hmakes
  have hm : m ∈ before ++ m :: after := by simp
  refine Underway.turned ?_ _
  rcases Member.mem_or_follows hturn hother with hold | hfollows
  · exact h.line other hold f hf id hmakes
  · cases hfollows with
    | same _ _ => exact h.line m hm f hf id hmakes
    | child hquiet =>
      -- The task that started it owes nothing any more.
      rcases List.mem_append.1 hf with hf | hf
      · exact (h.own m hm f id (Option.mem_toList.1 hf) hmakes).resolve_left fun howed =>
          hquiet id (.inl howed)
      · exact h.line m hm f hf id hmakes
    | expanded _ _ _ _ => exact h.line m hm f hf id hmakes

theorem turned (h : Reported table earlier (before ++ m :: after) sendings)
    (hkin : Kinship old memory (before ++ m :: after))
    (hledger : Ledger table memory ((before ++ m :: after).map (·.task))
      (earlier ++ sendings.map (·.id)))
    (hturn : m.task.Turn table registry memory effect) :
    Reported table earlier (before ++ effect.tasks.map m.successor ++ after)
      (sendings ++ m.upcoming) :=
  ⟨h.makes_turned hturn, h.own_turned hkin hledger hturn, h.line_turned hturn⟩

end Reported

/-! ### The order in the channel -/

/-- The sending `late` comes from beside, seen from the function `f` that has led to the sending
`s`: its sender makes the same system call, `f` has not led to it, and it has not led to `s`. -/
structure Sending.Beside (table : SymbolTable) (f : String) (s late : Sending) : Prop where
  /-- The sender makes the system call. -/
  makes : table.Makes late.sender late.id
  /-- The sender is not `f`, nor has `f` led to it. -/
  not_under : f ∉ late.sender :: late.line
  /-- The sender is not that of `s`, nor has it led to that one. -/
  not_over : late.sender ∉ s.sender :: s.line

/-- A number of a function whose task has led to a sending that comes next was sent, or comes from
beside. -/
theorem Reported.sent_or_beside (h : Reported table earlier members sendings)
    (hkin : Kinship old memory members) {s : Sending} (hs : s ∈ members.flatMap Member.upcoming)
    {f : String} (hf : f ∈ s.line) {id : SyscallId} (hmakes : table.Makes f id) :
    id ∈ earlier ++ sendings.map (·.id) ∨
      ∃ late ∈ members.flatMap Member.upcoming, late.id = id ∧ Sending.Beside table f s late := by
  obtain ⟨m, hm, hsm⟩ := List.mem_flatMap.1 hs
  obtain ⟨hsender, hline, -⟩ := Member.line_of_mem_upcoming hsm
  rcases h.line m hm f (hline ▸ hf) id hmakes with hsent | ⟨late, hlate, rfl, hunder⟩
  · exact .inl hsent
  · obtain ⟨other, hother, hlateo⟩ := List.mem_flatMap.1 hlate
    obtain ⟨hholder, hlatel, hunsent⟩ := Member.line_of_mem_upcoming hlateo
    -- The sender has numbers before it, so it stands in no line.
    have hchildless := hkin.childless other hother late.sender late.id hholder (.inr hunsent) m hm
    refine .inr ⟨late, hlate, rfl, h.makes other hother _ _ hholder (.inr hunsent), ?_, ?_⟩
    · rintro (_ | ⟨_, hmem⟩)
      · exact hchildless (hline ▸ hf)
      · exact hunder hmem
    · intro hmem
      rcases List.mem_cons.1 hmem with heq | hmem
      · have hsame : other = m := hkin.eq_of_holder hother hm hholder (heq ▸ hsender)
        exact hunder (by rwa [← hlatel, hsame, hline])
      · exact hchildless (hline ▸ hmem)

/-- **The order in the channel.** A number of a function whose task has led to what was sent stands
before that, was sent in an earlier walk, or comes from beside, sooner or later after it. -/
def Ordered (table : SymbolTable) (earlier : List SyscallId) (members : List Member)
    (sendings : List Sending) : Prop :=
  ∀ front s back, sendings = front ++ s :: back → ∀ f ∈ s.line, ∀ id, table.Makes f id →
    id ∈ earlier ++ front.map (·.id) ∨
      ∃ late ∈ back ++ members.flatMap Member.upcoming, late.id = id ∧ Sending.Beside table f s late

/-- What was in order stays so: what was upcoming is sent, or still upcoming. -/
theorem Ordered.keep (h : Ordered table earlier (before ++ m :: after) sendings)
    (others : List Member) {front back : List Sending} {s : Sending}
    (hsplit : sendings = front ++ s :: back) {f : String} (hf : f ∈ s.line) {id : SyscallId}
    (hmakes : table.Makes f id) : id ∈ earlier ++ front.map (·.id) ∨
      ∃ late ∈ back ++ m.upcoming ++ (before ++ others ++ after).flatMap Member.upcoming,
        late.id = id ∧ Sending.Beside table f s late := by
  refine (h front s back hsplit f hf id hmakes).imp_right ?_
  rintro ⟨late, hlate, hbeside⟩
  refine ⟨late, ?_, hbeside⟩
  simp only [List.flatMap_append, List.flatMap_cons, List.mem_append] at hlate ⊢
  tauto

theorem Ordered.turned (h : Ordered table earlier (before ++ m :: after) sendings)
    (hkin : Kinship old memory (before ++ m :: after))
    (hreported : Reported table earlier (before ++ m :: after) sendings) (others : List Member) :
    Ordered table earlier (before ++ others ++ after) (sendings ++ m.upcoming) := by
  intro front s back hsplit f hf id hmakes
  rcases m.upcoming_eq_nil_or_singleton with hnil | ⟨new, hnew⟩
  · rw [hnil, List.append_nil] at hsplit
    have hkept := h.keep others hsplit hf hmakes
    rwa [hnil, List.append_nil] at hkept
  · rw [hnew] at hsplit
    rcases List.eq_nil_or_concat back with rfl | ⟨back, last, rfl⟩
    · -- This is what was sent just now. What comes from beside is still upcoming.
      obtain ⟨rfl, hs⟩ := List.append_inj' hsplit rfl
      obtain rfl : new = s := List.singleton_inj.1 hs
      have hmem : new ∈ (before ++ m :: after).flatMap Member.upcoming := by simp [hnew]
      refine (hreported.sent_or_beside hkin hmem hf hmakes).imp_right ?_
      rintro ⟨late, hlate, hid, hbeside⟩
      refine ⟨late, ?_, hid, hbeside⟩
      have hne : late ∉ m.upcoming := by
        rw [hnew, List.mem_singleton]
        rintro rfl
        exact hbeside.not_over (List.mem_cons_self ..)
      simp only [List.flatMap_append, List.flatMap_cons, List.mem_append,
        List.nil_append] at hlate ⊢
      tauto
    · rw [List.concat_eq_append, ← List.cons_append, ← List.append_assoc] at hsplit
      obtain ⟨hsplit, hlast⟩ := List.append_inj' hsplit rfl
      have hkept := h.keep others hsplit hf hmakes
      rwa [hnew, hlast, ← List.concat_eq_append] at hkept

/-! ### Whole walks -/

namespace Chronicle

/-- All that is known of a record at every moment. -/
structure Sound (table : SymbolTable) (old : Memory) (earlier : List SyscallId) (c : Chronicle) :
    Prop where
  /-- The books on numbers. -/
  ledger : Ledger table c.state.memory (c.members.map (·.task)) (earlier ++ c.sendings.map (·.id))
  /-- Tasks and lines hang together. -/
  kinship : Kinship old c.state.memory c.members
  /-- The numbers are accounted for. -/
  reported : Reported table earlier c.members c.sendings
  /-- The functions whose tasks have led to what was sent were visited in this walk. -/
  fresh : ∀ s ∈ c.sendings, ∀ f ∈ s.line, f ∉ old.visited
  /-- The channel is in order. -/
  ordered : Ordered table earlier c.members c.sendings

theorem Sound.start {session : Session} (h : Ledger table session.memory [] earlier)
    (entries : List String) :
    Sound table session.memory earlier (.start session.memory session.stop entries) := by
  refine ⟨?_, .start _ entries, .start earlier entries, ?_, ?_⟩
  · simpa [Chronicle.start, State.start] using h.launch entries
  · simp [Chronicle.start]
  · intro front s back hsplit
    simp [Chronicle.start] at hsplit

theorem Sound.turned {c : Chronicle} {stop : Bool} (h : c.Sound table old earlier)
    (hm : c.members = before ++ m :: after)
    (hmove : m.task.Move table registry stop c.state.memory effect)
    (hturn : m.task.Turn table registry c.state.memory effect) :
    (c.turned before m after effect).Sound table old earlier := by
  obtain ⟨hledger, hkin, hreported, hfresh, hordered⟩ := h
  rw [hm] at hledger hkin hreported hordered
  refine ⟨?_, hkin.turned hturn, hreported.turned hkin hledger hturn, ?_,
    hordered.turned hkin hreported _⟩
  · rw [List.map_append, List.map_cons] at hledger
    have hmoved := hledger.move hmove
    rw [Member.sent_of_turn hturn, List.append_assoc earlier, ← List.map_append] at hmoved
    simpa only [Chronicle.turned, List.map_append, Member.map_task_successor] using hmoved
  · intro s hs f hf
    rcases List.mem_append.1 hs with hs | hs
    · exact hfresh s hs f hf
    · rw [← (Member.line_of_mem_upcoming hs).2.1] at hf
      exact (hkin.known m (by simp) f (.inr hf)).2

theorem Runs.sound {c c' : Chronicle} (h : Runs table registry c c')
    (hc : c.Sound table old earlier) : c'.Sound table old earlier := by
  refine h.keeps (P := Sound table old earlier)
    (fun hm hmove hturn hc => hc.turned hm hmove hturn) ?_ hc
  intro c s hmemory _ hc
  exact ⟨hmemory ▸ hc.ledger, hmemory ▸ hc.kinship, hc.reported, hc.fresh, hc.ordered⟩

/-- The numbers of a function stand in the channel before all that its callees send, and their
callees. -/
def OwnFirst (table : SymbolTable) (c : Chronicle) : Prop :=
  ∀ front s back, c.sendings = front ++ s :: back → ∀ f ∈ s.line, ∀ id, table.Makes f id →
    id ∈ front.map (·.id)

end Chronicle

section Walks

variable {session : Session} {past : List Walked} {entries : List String} {c : Chronicle}

/-- **A function before its callees.** The record of a walk under any schedule lists what was sent,
in the order of the channel. Take what a task sends, and a function whose task has led to it. Each
number of the function was handed over in an earlier walk, or stands before it in the channel, or is
sent after it from beside: by a function that makes the same system call, that the first one has not
led to and that has not led to the sender. A number that no other function has stands before it. -/
theorem History.own_call_first_or_beside (hpast : History table registry past session)
    (hrun : Chronicle.Runs table registry (.start session.memory session.stop entries) c) :
    c.sendings.map (·.id) = c.state.sent.map (·.id) ∧
    ∀ front s back, c.sendings = front ++ s :: back → ∀ f ∈ s.line, ∀ id, table.Makes f id →
      (id ∈ deliveredIds past ∨ id ∈ front.map (·.id) ∨
        ∃ late ∈ back ++ c.members.flatMap Member.upcoming, late.id = id ∧
          Sending.Beside table f s late) ∧
      ((∀ g, table.Makes g id → g = f) → id ∈ front.map (·.id)) := by
  have hsound := hrun.sound (.start hpast.books.ledger entries)
  refine ⟨(hrun.state_runs (.start ..)).2.sent, fun front s back hsplit f hf id hmakes => ?_⟩
  have hfirst : id ∈ deliveredIds past ∨ id ∈ front.map (·.id) ∨
      ∃ late ∈ back ++ c.members.flatMap Member.upcoming, late.id = id ∧
        Sending.Beside table f s late := by
    rw [← or_assoc, ← List.mem_append]
    exact hsound.ordered front s back hsplit f hf id hmakes
  refine ⟨hfirst, fun honly => ?_⟩
  rcases hfirst with hearlier | hfront | ⟨late, -, rfl, hbeside⟩
  · -- Then the function was visited in an earlier walk, and could not be in the line.
    obtain ⟨g, hvisited, hg⟩ := (hpast.mem_deliveredIds_iff_makes id).1 hearlier
    obtain rfl := honly g hg
    exact absurd hvisited (hsound.fresh s (by simp [hsplit]) g hf)
  · exact hfront
  · exact absurd (honly late.sender hbeside.makes ▸ List.mem_cons_self ..) hbeside.not_under

/-- A walk after another one, in which `helper` has claimed a number of `main` and waits before it
sends it. Of the numbers of `main`, when its callee `work` sends: 5 was handed over in the first
walk, 3 stands in the channel, and 1 will come from beside. -/
theorem own_call_first_or_beside_of_main :
    let functions : List FunctionDef := [⟨"init", [], .ofList [5]⟩, ⟨"helper", [], .ofList [1]⟩,
      ⟨"main", ["work"], .ofList [5, 1, 3]⟩, ⟨"work", ["main"], .ofList [2]⟩]
    let table : SymbolTable := .ofList functions
    let registry : Registry := ⟨#[⟨1, "write"⟩, ⟨2, "open"⟩]⟩
    let first := (Session.start false).walk table registry ["init"] none
    let c := (Chronicle.start first.2.memory first.2.stop ["helper", "main"]).follow table registry
      (.replicate 5 (some 0) ++ .replicate 2 (some 1) ++ .replicate 13 (some 0))
    History table registry [⟨["init"], first.1⟩] first.2 ∧
    Chronicle.Runs table registry (.start first.2.memory first.2.stop ["helper", "main"]) c ∧
    c.sendings = [⟨"main", [], 3⟩, ⟨"work", ["main"], 2⟩] ∧
    deliveredIds [⟨["init"], first.1⟩] = [5] ∧ 3 ∈ [(⟨"main", [], 3⟩ : Sending)].map (·.id) ∧
    c.members.flatMap Member.upcoming = [⟨"helper", [], 1⟩] ∧
    Sending.Beside table "main" ⟨"work", ["main"], 2⟩ ⟨"helper", [], 1⟩ := by
  intro functions table registry first c
  obtain ⟨hsendings, hearlier, hupcoming⟩ : c.sendings = [⟨"main", [], 3⟩, ⟨"work", ["main"], 2⟩] ∧
      deliveredIds [⟨["init"], first.1⟩] = [5] ∧
        c.members.flatMap Member.upcoming = [⟨"helper", [], 1⟩] := by
    decide +kernel +revert
  obtain ⟨hnames, hone, hthree, honly⟩ : (functions.map (·.name)).Nodup ∧
      (∃ f ∈ functions, f.name = "main" ∧ 1 ∈ f.syscalls.toList) ∧
      (∃ f ∈ functions, f.name = "main" ∧ 3 ∈ f.syscalls.toList) ∧
      ∀ f ∈ functions, 3 ∈ f.syscalls.toList → f.name = "main" := by
    decide +kernel +revert
  have hmakes {name : String} {id : SyscallId} :
      table.Makes name id ↔ ∃ f ∈ functions, f.name = name ∧ id ∈ f.syscalls.toList :=
    SymbolTable.makes_ofList_iff hnames
  have hpast : History table registry [⟨["init"], first.1⟩] first.2 :=
    .walk (.start false) (Session.walks_walk table registry _ _ none)
  have hrun :=
    Chronicle.runs_follow table registry (.start first.2.memory first.2.stop ["helper", "main"])
    (.replicate 5 (some 0) ++ .replicate 2 (some 1) ++ .replicate 13 (some 0))
  have hmain :=
    (hpast.own_call_first_or_beside hrun).2 [⟨"main", [], 3⟩] _ [] hsendings "main" (by simp)
  have hfront := (hmain 3 (hmakes.2 hthree)).2 fun g hg => by
    obtain ⟨f, hf, rfl, hid⟩ := hmakes.1 hg
    exact honly f hf hid
  have hbeside := (hmain 1 (hmakes.2 hone)).1
  rw [hearlier, hupcoming] at hbeside
  exact ⟨hpast, hrun, hsendings, hearlier, hfront, hupcoming, by simpa using hbeside⟩

end Walks

/-- The callee of a function goes ahead. `helper` and `main` make the same system call; `helper` has
claimed it, and waits before it sends it; `main` passes over it and starts `work`. -/
theorem own_call_behind_callee :
    let table : SymbolTable := .ofList [⟨"helper", [], .ofList [1]⟩,
      ⟨"main", ["work"], .ofList [1]⟩, ⟨"work", [], .ofList [2]⟩]
    let registry : Registry := ⟨#[⟨1, "write"⟩, ⟨2, "open"⟩]⟩
    let raced := (Chronicle.start .empty false ["helper", "main"]).follow table registry
      (.replicate 5 (some 0) ++ .replicate 2 (some 1) ++ .replicate 15 (some 0) ++ [none, none])
    Chronicle.Runs table registry (.start .empty false ["helper", "main"]) raced ∧
    raced.state.Over ∧ raced.state.outcome.calls = [⟨2, "open"⟩, ⟨1, "write"⟩] ∧
    ¬ raced.OwnFirst table := by
  intro table registry raced
  obtain ⟨hsendings, hover, hcalls⟩ :
      raced.sendings = [⟨"work", ["main"], 2⟩, ⟨"helper", [], 1⟩] ∧
      (raced.state.tasks = [] ∧ raced.state.channel = []) ∧
      raced.state.outcome.calls = [⟨2, "open"⟩, ⟨1, "write"⟩] := by
    decide +kernel +revert
  have hmakes : table.Makes "main" 1 :=
    (SymbolTable.makes_ofList_iff (by decide)).2
      ⟨⟨"main", ["work"], .ofList [1]⟩, by simp, rfl, by decide +kernel⟩
  refine ⟨Chronicle.runs_follow .., hover, hcalls, fun h => ?_⟩
  simpa using h [] _ _ hsendings "main" (by simp) 1 hmakes

end SyscallCensus.Walk
