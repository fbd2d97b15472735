import Mathlib.Data.List.ReduceOption
import Mathlib.Data.Multiset.AddSub
import SyscallCensus.Listing.Pending

/-!
# What becomes of loaded numbers

About `SPEC_FULL.md`, Section 4.2 (Syscall Correlator).

A number that is loaded waits, until it is returned by an invocation, or passed over by one that
returns the number loaded before it, or forgotten when another function begins. Between two resets
nothing else can become of it: the numbers that were pushed are, up to their order, those that were
returned, those that were passed over and those that still wait (`Round.Conserved`). An invocation
passes over at most one number, and only if it returns one, and it takes from the end, so that the
numbers that wait stand in the order in which they were pushed.

Each operation keeps this (`Conserved.act`), and so does every sequence of operations
(`Conserved.foldl_act`). The bounds on how many numbers are used up follow by counting.
-/

namespace SyscallCensus.Pending

/-! ### Invocations -/

/-- **What an invocation does**: nothing, or it takes one or two numbers from the end and returns
the first of them. -/
theorem invoke_cases (pending : Pending) :
    (pending.toList = [] ∧ pending.invoke = (none, pending)) ∨
    ∃ id passed, pending.invoke.1 = some id ∧ passed.length ≤ 1 ∧
      pending.toList = pending.invoke.2.toList ++ id :: passed := by
  obtain ⟨waiting⟩ := pending
  match waiting with
  | [] => exact .inl ⟨rfl, rfl⟩
  | [only] => exact .inr ⟨only, [], rfl, Nat.zero_le 1, rfl⟩
  | newest :: number :: older =>
    refine .inr ⟨number, [newest], rfl, Nat.le_refl 1, ?_⟩
    simp [toList, invoke]

theorem invoke_eq_none_iff (pending : Pending) : pending.invoke.1 = none ↔ pending.toList = [] := by
  rcases pending.invoke_cases with ⟨hnothing, hinvoke⟩ | ⟨id, passed, hid, -, hlist⟩
  · simp [hnothing, hinvoke]
  · simp [hid, hlist]

/-- An invocation that finds nothing changes nothing, and any other does. -/
theorem invoke_eq_self_iff (pending : Pending) :
    pending.invoke = (none, pending) ↔ pending.toList = [] := by
  constructor
  · intro hinvoke
    rw [← invoke_eq_none_iff, hinvoke]
  · intro hnothing
    rcases pending.invoke_cases with ⟨-, hinvoke⟩ | ⟨id, passed, hid, -, -⟩
    · exact hinvoke
    · rw [(invoke_eq_none_iff pending).2 hnothing] at hid
      cases hid

/-! ### Rounds -/

/-- What can be done with waiting numbers. -/
inductive Action where
  /-- A number is loaded. -/
  | push (id : SyscallId)
  /-- Another function begins. -/
  | reset
  /-- The system is invoked. -/
  | invoke
  deriving DecidableEq, Repr

/-- What has happened since the last reset. -/
structure Round where
  /-- The numbers that were pushed, in this order. -/
  pushed : List SyscallId
  /-- What the invocations returned, in this order. -/
  answers : List (Option SyscallId)
  /-- What waits now. -/
  pending : Pending
  deriving DecidableEq, Repr

namespace Round

/-- Nothing has happened. -/
def start : Round := ⟨[], [], .empty⟩

/-- The numbers that invocations returned. -/
def returned (round : Round) : List SyscallId := round.answers.reduceOption

/-- The round after one more operation. A reset begins another one. -/
def act (round : Round) : Action → Round
  | .push id => ⟨round.pushed ++ [id], round.answers, round.pending.push id⟩
  | .reset => ⟨[], [], round.pending.reset⟩
  | .invoke => ⟨round.pushed, round.answers ++ [round.pending.invoke.1], round.pending.invoke.2⟩

/-- **No number is invented, used twice or lost.** -/
structure Conserved (round : Round) : Prop where
  /-- A number that was pushed was returned or passed over, or it waits; and no more were passed
  over than returned. -/
  shared : ∃ passed : List SyscallId, passed.length ≤ round.returned.length ∧
    round.pushed.Perm (round.returned ++ passed ++ round.pending.toList)
  /-- The numbers that wait stand in the order in which they were pushed. -/
  inOrder : round.pending.toList.Sublist round.pushed

variable {round : Round}

theorem conserved_start : start.Conserved := ⟨⟨[], Nat.le_refl 0, .refl []⟩, .refl []⟩

theorem Conserved.push (h : round.Conserved) (id : SyscallId) :
    (round.act (.push id)).Conserved := by
  obtain ⟨⟨passed, hcount, hperm⟩, hsub⟩ := h
  constructor
  · refine ⟨passed, hcount, ?_⟩
    have hlast := hperm.append_right [id]
    rwa [List.append_assoc, ← toList_push] at hlast
  · have hlast := hsub.append (.refl [id])
    rwa [← toList_push] at hlast

theorem Conserved.invoke (h : round.Conserved) : (round.act .invoke).Conserved := by
  obtain ⟨⟨passed, hcount, hperm⟩, hsub⟩ := h
  have hreturned : (round.act .invoke).returned = round.returned ++
      round.pending.invoke.1.toList := by
    rw [returned, act, List.reduceOption_append]
    cases round.pending.invoke.1 <;> rfl
  rcases round.pending.invoke_cases with ⟨-, hinvoke⟩ | ⟨id, more, hid, hmore, hlist⟩
  · -- Nothing waits, so that nothing happens.
    rw [hinvoke, Option.toList_none, List.append_nil] at hreturned
    refine ⟨⟨passed, ?_, ?_⟩, ?_⟩
    · rw [hreturned]
      exact hcount
    · rw [hreturned, act, hinvoke]
      exact hperm
    · rw [act, hinvoke]
      exact hsub
  · rw [hid, Option.toList_some] at hreturned
    rw [hlist] at hperm hsub
    refine ⟨⟨more ++ passed, ?_, ?_⟩, ?_⟩
    · rw [hreturned, List.length_append, List.length_append, List.length_singleton]
      omega
    · -- What was taken from the end goes to the numbers that were returned and to those that were
      -- passed over.
      have hmoved : (passed ++ round.pending.invoke.2.toList ++ id :: more).Perm
          (id :: more ++ (passed ++ round.pending.invoke.2.toList)) := List.perm_append_comm
      rw [hreturned, act]
      refine hperm.trans ?_
      simpa [List.append_assoc] using hmoved.append_left round.returned
    · exact (List.sublist_append_left _ _).trans hsub

/-- **An operation** conserves the numbers. -/
theorem Conserved.act (h : round.Conserved) (action : Action) : (round.act action).Conserved := by
  cases action with
  | push id => exact h.push id
  | reset => exact conserved_start
  | invoke => exact h.invoke

/-- **Any operations** conserve the numbers. -/
theorem Conserved.foldl_act (h : round.Conserved) (actions : List Action) :
    (actions.foldl Round.act round).Conserved := by
  induction actions generalizing round with
  | nil => exact h
  | cons action actions ih => exact ih (h.act action)

/-- What pushed numbers and those that wait differ by is used up by the invocations that returned a
number. -/
theorem Conserved.length_bounds (h : round.Conserved) :
    round.returned.length + round.pending.toList.length ≤ round.pushed.length ∧
    round.pushed.length ≤ 2 * round.returned.length + round.pending.toList.length := by
  obtain ⟨passed, hcount, hperm⟩ := h.shared
  have hlength := hperm.length_eq
  rw [List.length_append, List.length_append] at hlength
  constructor <;> omega

theorem Conserved.returned_add_pending_le (h : round.Conserved) :
    (round.returned : Multiset SyscallId) + round.pending.toList ≤ round.pushed := by
  obtain ⟨passed, -, hperm⟩ := h.shared
  rw [Multiset.coe_eq_coe.2 hperm, Multiset.coe_add, Multiset.coe_le]
  exact ((List.sublist_append_left round.returned passed).append (.refl _)).subperm

end Round

/-- The round that a sequence of operations ends in. -/
def round (actions : List Action) : Round := actions.foldl Round.act .start

/-- **Loaded numbers are neither invented nor used again**, whatever is done in whatever order. The
numbers that were returned since the last reset and those that wait are, each as often as it stands
there, among those that were pushed. An invocation returns nothing exactly if nothing waits, and
then it changes nothing. Each invocation that returns a number uses up one or two. The numbers that
wait stand in the order in which they were pushed. -/
theorem candidates_conserved (actions : List Action) :
    let r := round actions
    (r.returned : Multiset SyscallId) + r.pending.toList ≤ r.pushed ∧
    (r.pending.invoke.1 = none ↔ r.pending.toList = []) ∧
    (r.pending.invoke = (none, r.pending) ↔ r.pending.toList = []) ∧
    r.returned.length + r.pending.toList.length ≤ r.pushed.length ∧
    r.pushed.length ≤ 2 * r.returned.length + r.pending.toList.length ∧
    r.pending.toList.Sublist r.pushed := by
  intro r
  have hconserved : r.Conserved := Round.conserved_start.foldl_act actions
  obtain ⟨hleast, hmost⟩ := hconserved.length_bounds
  exact ⟨hconserved.returned_add_pending_le, invoke_eq_none_iff _, invoke_eq_self_iff _,
    hleast, hmost, hconserved.inOrder⟩

/-- A number is forgotten, and of three others the last is passed over. -/
example : round [.push 7, .reset, .push 9, .push 1, .push 2, .invoke] =
    ⟨[9, 1, 2], [some 1], ⟨[9]⟩⟩ := by decide

end SyscallCensus.Pending
