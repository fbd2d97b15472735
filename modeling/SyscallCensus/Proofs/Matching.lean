import SyscallCensus.Pattern.Parser
import SyscallCensus.Proofs.Invocations
import SyscallCensus.Settings.Basic

/-!
# What patterns match

About the patterns of `SPEC_FULL.md`, Section 10.2 (Line dialect).

The search for a pattern keeps sets of places, follows all ways at once, stops a repetition as soon
as it makes no difference, and never repeats more often than there are places. Here the meaning of a
pattern is given without any of that: what it takes of a text, between what stands before and what
follows (`Matches`).

* `isFoundIn_iff` — a pattern is found in a text exactly if it takes some part of it.
* `Steps.stable` — of more repetitions than there are places at least one takes nothing, so one more
  or one less changes nothing.

With this the recogniser of invocations, which reads a line from left to right, can be compared with
the pattern that says which lines it is to recognise (`Listing.isInvocation_eq_isFoundIn`).
-/

namespace SyscallCensus

/-! ### Steps between numbers -/

/-- So many steps of a relation. -/
def Steps (R : Nat → Nat → Prop) : (count : Nat) → Nat → Nat → Prop
  | 0, i, j => i = j
  | count + 1, i, j => ∃ k, R i k ∧ Steps R count k j

namespace Steps

variable {R : Nat → Nat → Prop} {count other i j bound : Nat}

theorem add : Steps R (count + other) i j ↔ ∃ k, Steps R count i k ∧ Steps R other k j := by
  induction count generalizing i with
  | zero => simp [Steps]
  | succ count ih =>
    rw [Nat.succ_add]
    simp only [Steps, ih]
    constructor
    · rintro ⟨k, hk, m, hm, hj⟩
      exact ⟨m, ⟨k, hk, hm⟩, hj⟩
    · rintro ⟨m, ⟨k, hk, hm⟩, hj⟩
      exact ⟨k, hk, m, hm, hj⟩

theorem exists_add_iff {bound : Nat} :
    (∃ k, Steps R count i k ∧ ∃ more ≤ bound, Steps R more k j) ↔
      ∃ more ≤ bound, Steps R (count + more) i j := by
  simp only [add]
  constructor
  · rintro ⟨k, hk, more, hmore, hj⟩
    exact ⟨more, hmore, k, hk, hj⟩
  · rintro ⟨more, hmore, k, hk, hj⟩
    exact ⟨k, hk, more, hmore, hj⟩

theorem le (hR : ∀ i j, R i j → i ≤ j) (h : Steps R count i j) : i ≤ j := by
  induction count generalizing i with
  | zero => exact Nat.le_of_eq h
  | succ count ih =>
    obtain ⟨k, hk, hj⟩ := h
    exact Nat.le_trans (hR i k hk) (ih hj)

/-- Where more steps are made than there is room for, one of them goes nowhere. -/
theorem exists_idle (hR : ∀ i j, R i j → i ≤ j) (h : Steps R count i j) (hcount : j - i < count) :
    ∃ before after k, count = before + 1 + after ∧ Steps R before i k ∧ R k k ∧
      Steps R after k j := by
  induction count generalizing i with
  | zero => exact absurd hcount (Nat.not_lt_zero _)
  | succ count ih =>
    obtain ⟨k, hk, hj⟩ := h
    have hik := hR i k hk
    by_cases hidle : k = i
    · subst hidle
      exact ⟨0, count, k, by omega, rfl, hk, hj⟩
    · have hkj := le hR hj
      obtain ⟨before, after, m, rfl, hbefore, hm, hafter⟩ := ih hj (by omega)
      exact ⟨before + 1, after, m, by omega, ⟨k, hk, hbefore⟩, hm, hafter⟩

theorem succ_iff (hR : ∀ i j, R i j → i ≤ j) (hcount : j - i < count) :
    Steps R (count + 1) i j ↔ Steps R count i j := by
  constructor
  · intro h
    obtain ⟨before, after, k, hsum, hbefore, -, hafter⟩ := exists_idle hR h (by omega)
    obtain rfl : count = before + after := by omega
    exact add.2 ⟨k, hbefore, hafter⟩
  · intro h
    obtain ⟨before, after, k, rfl, hbefore, hidle, hafter⟩ := exists_idle hR h hcount
    have hloop : Steps R (before + (1 + (1 + after))) i j :=
      add.2 ⟨k, hbefore, add.2 ⟨k, ⟨k, hidle, rfl⟩, add.2 ⟨k, ⟨k, hidle, rfl⟩, hafter⟩⟩⟩
    rwa [show before + (1 + (1 + after)) = before + 1 + after + 1 by omega] at hloop

/-- **Beyond the number of places the number of steps does not matter.** -/
theorem stable (hR : ∀ i j, R i j → i ≤ j) (hbound : j < bound) (hcount : bound ≤ count) :
    Steps R count i j ↔ Steps R bound i j := by
  obtain ⟨extra, rfl⟩ := Nat.exists_eq_add_of_le hcount
  clear hcount
  induction extra with
  | zero => rfl
  | succ extra ih => rw [← Nat.add_assoc, succ_iff hR (by omega), ih]

theorem lt (hR : ∀ i j, R i j → j < bound) (hi : i < bound) (h : Steps R count i j) :
    j < bound := by
  induction count generalizing i with
  | zero => exact h ▸ hi
  | succ count ih =>
    obtain ⟨k, hk, hj⟩ := h
    exact ih (hR i k hk) hj

/-- Neither the steps that have to be made nor those that may follow need be more than there are
places. -/
theorem exists_iff_min (hR : ∀ i j, R i j → i ≤ j ∧ j < bound) (hi : i < bound)
    (least extra : Nat) : (∃ more ≤ min extra bound, Steps R (min least bound + more) i j) ↔
      ∃ more ≤ extra, Steps R (least + more) i j := by
  have hclip {count : Nat} (hj : j < bound) : Steps R count i j ↔
      Steps R (min count bound) i j := by
    rcases Nat.le_total count bound with h | h
    · rw [Nat.min_eq_left h]
    · rw [Nat.min_eq_right h, stable (fun i j hij => (hR i j hij).1) hj h]
  have hlt {count : Nat} (h : Steps R count i j) : j < bound :=
    lt (fun i j hij => (hR i j hij).2) hi h
  constructor
  · rintro ⟨more, hmore, h⟩
    refine ⟨more, by omega, ?_⟩
    have hj := hlt h
    rw [hclip hj] at h ⊢
    rwa [show min (least + more) bound = min (min least bound + more) bound by omega]
  · rintro ⟨more, hmore, h⟩
    refine ⟨min more bound, by omega, ?_⟩
    have hj := hlt h
    rw [hclip hj] at h ⊢
    rwa [show min (min least bound + min more bound) bound = min (least + more) bound by omega]

theorem exists_iff_min_of_unbounded (hR : ∀ i j, R i j → i ≤ j ∧ j < bound) (hi : i < bound)
    (least : Nat) :
    (∃ more ≤ bound, Steps R (min least bound + more) i j) ↔
      ∃ more, Steps R (least + more) i j := by
  constructor
  · rintro ⟨more, hmore, h⟩
    obtain ⟨more, -, h⟩ := (exists_iff_min hR hi least bound).1 ⟨more, by omega, h⟩
    exact ⟨more, h⟩
  · rintro ⟨more, h⟩
    obtain ⟨more, hmore, h⟩ := (exists_iff_min hR hi least more).2 ⟨more, Nat.le_refl more, h⟩
    exact ⟨more, by omega, h⟩

theorem or_idle : Steps (fun i j => i = j ∨ R i j) count i j ↔
    ∃ made ≤ count, Steps R made i j := by
  induction count generalizing i with
  | zero =>
    constructor
    · intro h
      exact ⟨0, Nat.le_refl 0, h⟩
    · rintro ⟨made, hmade, h⟩
      obtain rfl := Nat.le_zero.1 hmade
      exact h
  | succ count ih =>
    simp only [Steps, ih]
    constructor
    · rintro ⟨k, rfl | hk, made, hmade, h⟩
      · exact ⟨made, by omega, h⟩
      · exact ⟨made + 1, by omega, k, hk, h⟩
    · rintro ⟨made, hmade, h⟩
      cases made with
      | zero => exact ⟨i, .inl rfl, 0, Nat.zero_le _, h⟩
      | succ made =>
        obtain ⟨k, hk, h⟩ := h
        exact ⟨k, .inr hk, made, by omega, h⟩

end Steps

/-! ### Sets of places -/

namespace Places

variable {R S : Nat → Nat → Prop} {step : Places → Places} {bound : Nat} {s t : Places}

/-- A place belongs to a set. -/
def Has (s : Places) (i : Nat) : Prop := s[i]? = some true

theorem Has.lt {i : Nat} (h : s.Has i) : i < s.length := by
  obtain ⟨hlt, -⟩ := List.getElem?_eq_some_iff.1 h
  exact hlt

theorem has_union {i : Nat} (h : s.length = t.length) :
    (s.union t).Has i ↔ s.Has i ∨ t.Has i := by
  unfold Has union
  rw [List.getElem?_zipWith]
  by_cases hi : i < s.length
  · have hi' : i < t.length := h ▸ hi
    rw [List.getElem?_eq_getElem hi, List.getElem?_eq_getElem hi']
    simp
  · rw [List.getElem?_eq_none (Nat.le_of_not_lt hi),
      List.getElem?_eq_none (h ▸ Nat.le_of_not_lt hi)]
    simp

theorem length_union (h : s.length = t.length) : (s.union t).length = s.length := by
  simp [union, h]

/-- **A step on sets of places goes by a relation**: it leads to the places that one of the set is
related to. -/
structure Goes (bound : Nat) (R : Nat → Nat → Prop) (step : Places → Places) : Prop where
  /-- There are as many places as before. -/
  length : ∀ s : Places, s.length = bound → (step s).length = bound
  /-- Which places are reached. -/
  has : ∀ s : Places, s.length = bound → ∀ j, (step s).Has j ↔ ∃ i, s.Has i ∧ R i j

namespace Goes

theorem comp {next : Places → Places} (h : Goes bound R step) (h' : Goes bound S next) :
    Goes bound (fun i j => ∃ k, R i k ∧ S k j) fun s => next (step s) where
  length s hs := h'.length _ (h.length s hs)
  has s hs j := by
    rw [h'.has _ (h.length s hs)]
    simp only [h.has s hs]
    constructor
    · rintro ⟨k, ⟨i, hi, hik⟩, hkj⟩
      exact ⟨i, hi, k, hik, hkj⟩
    · rintro ⟨i, hi, k, hik, hkj⟩
      exact ⟨k, ⟨i, hi, hik⟩, hkj⟩

theorem union {next : Places → Places} (h : Goes bound R step) (h' : Goes bound S next) :
    Goes bound (fun i j => R i j ∨ S i j) fun s => (step s).union (next s) where
  length s hs := by
    rw [length_union ((h.length s hs).trans (h'.length s hs).symm), h.length s hs]
  has s hs j := by
    rw [has_union ((h.length s hs).trans (h'.length s hs).symm), h.has s hs, h'.has s hs,
      ← exists_or]
    exact exists_congr fun i => and_or_left.symm

theorem id : Goes bound (fun i j => i = j) fun s => s where
  length s hs := hs
  has s hs j := by simp

theorem congr (h : Goes bound R step) (hRS : ∀ i j, i < bound → (R i j ↔ S i j)) :
    Goes bound S step where
  length := h.length
  has s hs j := by
    rw [h.has s hs]
    exact exists_congr fun i => and_congr_right fun hi => hRS i j (hs ▸ hi.lt)

/-- A set that a step does not change is not changed by more of them. -/
theorem has_of_fixed (h : Goes bound R step) (hs : s.length = bound) (hfixed : step s = s)
    (count j : Nat) : s.Has j ↔ ∃ i, s.Has i ∧ Steps R count i j := by
  induction count generalizing j with
  | zero => simp [Steps]
  | succ count ih =>
    have hstep (k : Nat) := h.has s hs k
    rw [hfixed] at hstep
    rw [ih]
    constructor
    · rintro ⟨k, hk, hkj⟩
      obtain ⟨i, hi, hik⟩ := (hstep k).1 hk
      exact ⟨i, hi, k, hik, hkj⟩
    · rintro ⟨i, hi, k, hik, hkj⟩
      exact ⟨k, (hstep k).2 ⟨i, hi, hik⟩, hkj⟩

theorem iterate (h : Goes bound R step) (count : Nat) :
    Goes bound (Steps R count) (Pattern.iterate step count) := by
  induction count with
  | zero => exact id
  | succ count ih =>
    constructor
    · intro s hs
      rw [Pattern.iterate]
      split
      · exact hs
      · exact ih.length _ (h.length s hs)
    · intro s hs j
      rw [Pattern.iterate]
      split
      · rename_i hfixed
        exact h.has_of_fixed hs (beq_iff_eq.1 hfixed) (count + 1) j
      · exact (h.comp ih).has s hs j

theorem collect (h : Goes bound R step) (count : Nat) :
    Goes bound (fun i j => ∃ made ≤ count, Steps R made i j) (Pattern.collect step count) := by
  have hsame (s : Places) :
      Pattern.collect step count s = Pattern.iterate (fun s => s.union (step s)) count s := by
    induction count generalizing s with
    | zero => rfl
    | succ count ih => simp only [Pattern.collect, Pattern.iterate, ih]
  have hgoes := ((id.union h).iterate count).congr fun i j _ => Steps.or_idle
  exact ⟨fun s hs => by rw [hsame]; exact hgoes.length s hs,
    fun s hs j => by rw [hsame]; exact hgoes.has s hs j⟩

end Goes

end Places

/-! ### The meaning of a pattern -/

namespace Pattern

/-- What a pattern takes of a text: what stands before, what it takes, and what follows. -/
abbrev Meaning := List Char → List Char → List Char → Prop

/-- One part after another, so many times. -/
def Repeats (M : Meaning) : (count : Nat) → Meaning
  | 0, _, taken, _ => taken = []
  | count + 1, before, taken, after => ∃ first others, taken = first ++ others ∧
      M before first (others ++ after) ∧ Repeats M count (before ++ first) others after

/-- **What a pattern matches.** -/
def Matches : Pattern → Meaning
  | .empty, _, taken, _ => taken = []
  | .char set, _, taken, _ => ∃ c, taken = [c] ∧ set.contains c = true
  | .assert a, before, taken, after =>
    taken = [] ∧ Place.satisfies ⟨before.getLast?, after.head?⟩ a = true
  | .seq first second, before, taken, after => ∃ start others, taken = start ++ others ∧
      first.Matches before start (others ++ after) ∧ second.Matches (before ++ start) others after
  | .alt first second, before, taken, after =>
    first.Matches before taken after ∨ second.Matches before taken after
  | .repeated body least most, before, taken, after =>
    ∃ count, least ≤ count ∧ (∀ n, most = some n → count ≤ max least n) ∧
      Repeats body.Matches count before taken after

variable {text : List Char} {M N : Meaning} {i j : Nat}

/-- A part of a text between two places. -/
def Spans (text : List Char) (M : Meaning) (i j : Nat) : Prop :=
  ∃ before taken after, text = before ++ (taken ++ after) ∧ before.length = i ∧
    i + taken.length = j ∧ M before taken after

theorem Spans.le (h : Spans text M i j) : i ≤ j ∧ j ≤ text.length := by
  obtain ⟨before, taken, after, rfl, rfl, rfl, -⟩ := h
  simp only [List.length_append]
  omega

theorem spans_seq :
    Spans text (fun before taken after => ∃ first others, taken = first ++ others ∧
      M before first (others ++ after) ∧ N (before ++ first) others after) i j ↔
      ∃ k, Spans text M i k ∧ Spans text N k j := by
  constructor
  · rintro ⟨before, taken, after, rfl, rfl, rfl, first, others, rfl, hfirst, hothers⟩
    refine ⟨before.length + first.length,
      ⟨before, first, others ++ after, by simp, rfl, rfl, hfirst⟩, before ++ first, others, after,
      by simp, by simp, by simp [Nat.add_assoc], hothers⟩
  · rintro ⟨k, ⟨before, first, rest, htext, rfl, rfl, hfirst⟩, upTo, others, after, htext', hk,
      rfl, hothers⟩
    -- Both parts are cut at the same place, so that the first one leaves what the second one begins
    -- with.
    rw [htext, ← List.append_assoc] at htext'
    obtain ⟨rfl, rfl⟩ := List.append_inj htext' (by rw [List.length_append, hk])
    exact ⟨before, first ++ others, after, by rw [htext, List.append_assoc], rfl,
      by simp [Nat.add_assoc], first, others, rfl, hfirst, hothers⟩

theorem spans_nothing :
    Spans text (fun _ taken _ => taken = []) i j ↔ i = j ∧ i ≤ text.length := by
  constructor
  · rintro ⟨before, taken, after, rfl, rfl, rfl, rfl⟩
    simp
  · rintro ⟨rfl, hi⟩
    exact ⟨text.take i, [], text.drop i, by simp, List.length_take_of_le hi, by simp, rfl⟩

theorem spans_repeats (count : Nat) (hi : i ≤ text.length) :
    Spans text (Repeats M count) i j ↔ Steps (Spans text M) count i j := by
  induction count generalizing i with
  | zero => exact spans_nothing.trans (and_iff_left hi)
  | succ count ih =>
    simp only [Steps]
    refine spans_seq.trans (exists_congr fun k => and_congr_right fun hk => ih hk.le.2)

/-! ### The search -/

theorem length_ofTextFrom (previous : Option Char) (text : List Char) :
    (Place.ofTextFrom previous text).length = text.length + 1 := by
  induction text generalizing previous with
  | nil => rfl
  | cons c text ih => simp [Place.ofTextFrom, ih]

theorem getElem?_ofTextFrom (previous : Option Char) (before after : List Char) :
    (Place.ofTextFrom previous (before ++ after))[before.length]? =
      some ⟨(previous.toList ++ before).getLast?, after.head?⟩ := by
  induction before generalizing previous with
  | nil =>
    cases after <;> cases previous <;> rfl
  | cons c before ih =>
    have hlast : (previous.toList ++ c :: before).getLast? = (c :: before).getLast? := by
      rw [List.getLast?_append, List.getLast?_cons, Option.some_or]
    rw [List.cons_append, Place.ofTextFrom, List.length_cons, List.getElem?_cons_succ, ih, hlast]
    rfl

theorem length_ofText (text : List Char) : (Place.ofText text).length = text.length + 1 :=
  length_ofTextFrom none text

theorem getElem?_ofText_eq_some_iff {p : Place} :
    (Place.ofText text)[i]? = some p ↔ ∃ before after, text = before ++ after ∧ before.length = i ∧
      p = ⟨before.getLast?, after.head?⟩ := by
  constructor
  · intro h
    have hi : i ≤ text.length := by
      have hlt := (List.getElem?_eq_some_iff.1 h).1
      rw [length_ofText] at hlt
      omega
    have hplace := getElem?_ofTextFrom none (text.take i) (text.drop i)
    rw [List.take_append_drop, List.length_take_of_le hi] at hplace
    exact ⟨text.take i, text.drop i, by simp, List.length_take_of_le hi,
      Option.some.inj (h.symm.trans hplace)⟩
  · rintro ⟨before, after, rfl, rfl, rfl⟩
    exact getElem?_ofTextFrom none before after

theorem has_filter {s : Places} {places : List Place} {f : Place → Bool} :
    Places.Has (List.zipWith (fun here p => here && f p) s places) i ↔
      s.Has i ∧ ∃ p, places[i]? = some p ∧ f p = true := by
  unfold Places.Has
  rw [List.getElem?_zipWith]
  cases s[i]? <;> cases places[i]? <;> simp

theorem goes_assert (a : Assertion) :
    Places.Goes (text.length + 1) (Spans text (Matches (.assert a)))
      (reach (Place.ofText text) (.assert a)) where
  length s hs := by simp [reach, hs, length_ofText]
  has s hs j := by
    rw [reach, has_filter]
    simp only [getElem?_ofText_eq_some_iff]
    constructor
    · rintro ⟨hj, p, ⟨before, after, rfl, rfl, rfl⟩, hp⟩
      exact ⟨_, hj, before, [], after, rfl, rfl, rfl, rfl, hp⟩
    · rintro ⟨i, hi, before, taken, after, rfl, rfl, rfl, rfl, hp⟩
      exact ⟨hi, _, ⟨before, after, rfl, rfl, rfl⟩, hp⟩

theorem goes_char (set : CharSet) :
    Places.Goes (text.length + 1) (Spans text (Matches (.char set)))
      (reach (Place.ofText text) (.char set)) where
  length s hs := by simp [reach, hs, length_ofText]
  has s hs j := by
    have hlength : (List.zipWith (fun here p => here && (Place.behind p).any set.contains) s
        (Place.ofText text)).length = text.length + 1 := by
      simp [hs, length_ofText]
    rw [reach, Places.Has, List.getElem?_dropLast, List.length_cons, hlength,
      Option.ite_none_right_eq_some]
    constructor
    · rintro ⟨hj, h⟩
      cases j with
      | zero => cases h
      | succ j =>
        rw [List.getElem?_cons_succ] at h
        obtain ⟨hi, p, hp, hset⟩ := has_filter.1 h
        obtain ⟨before, after, rfl, rfl, rfl⟩ := getElem?_ofText_eq_some_iff.1 hp
        cases after with
        | nil => cases hset
        | cons c after => exact ⟨_, hi, before, [c], after, rfl, rfl, rfl, c, rfl, hset⟩
    · rintro ⟨i, hi, before, taken, after, rfl, rfl, rfl, c, rfl, hset⟩
      refine ⟨by simp, ?_⟩
      rw [List.length_singleton, List.getElem?_cons_succ]
      exact has_filter.2 ⟨hi, _, getElem?_ofText_eq_some_iff.2 ⟨before, c :: after, rfl, rfl, rfl⟩,
        hset⟩

theorem spans_repeated {body : Pattern} {least : Nat} {most : Option Nat} {i j : Nat}
    (hi : i < text.length + 1) :
    Spans text (Matches (.repeated body least most)) i j ↔ ∃ count, least ≤ count ∧
      (∀ n, most = some n → count ≤ max least n) ∧ Steps (Spans text body.Matches) count i j := by
  simp only [← spans_repeats _ (Nat.le_of_lt_succ hi), Spans, Matches]
  constructor
  · rintro ⟨before, taken, after, htext, hbefore, htaken, count, hleast, hmost, h⟩
    exact ⟨count, hleast, hmost, before, taken, after, htext, hbefore, htaken, h⟩
  · rintro ⟨count, hleast, hmost, before, taken, after, htext, hbefore, htaken, h⟩
    exact ⟨before, taken, after, htext, hbefore, htaken, count, hleast, hmost, h⟩

theorem goes_repeated {body : Pattern} (least : Nat) (most : Option Nat)
    (h : Places.Goes (text.length + 1) (Spans text body.Matches) (body.reach (Place.ofText text))) :
    Places.Goes (text.length + 1) (Spans text (Matches (.repeated body least most)))
      (reach (Place.ofText text) (.repeated body least most)) := by
  have hR : ∀ i j, Spans text body.Matches i j → i ≤ j ∧ j < text.length + 1 := by
    intro i j hspans
    exact ⟨hspans.le.1, Nat.lt_succ_of_le hspans.le.2⟩
  cases most with
  | some n =>
    refine ((h.iterate (min least (Place.ofText text).length)).comp
      (h.collect (min (n - least) (Place.ofText text).length))).congr fun i j hi => ?_
    rw [length_ofText, Steps.exists_add_iff, Steps.exists_iff_min hR hi, spans_repeated hi]
    constructor
    · rintro ⟨more, hmore, hsteps⟩
      refine ⟨least + more, Nat.le_add_right least more, fun m hm => ?_, hsteps⟩
      obtain rfl := Option.some.inj hm
      omega
    · rintro ⟨count, hleast, hmost, hsteps⟩
      have hcount := hmost n rfl
      exact ⟨count - least, by omega, by rwa [Nat.add_sub_cancel' hleast]⟩
  | none =>
    refine ((h.iterate (min least (Place.ofText text).length)).comp
      (h.collect (Place.ofText text).length)).congr fun i j hi => ?_
    rw [length_ofText, Steps.exists_add_iff, Steps.exists_iff_min_of_unbounded hR hi,
      spans_repeated hi]
    constructor
    · rintro ⟨more, hsteps⟩
      exact ⟨least + more, Nat.le_add_right least more, by simp, hsteps⟩
    · rintro ⟨count, hleast, -, hsteps⟩
      exact ⟨count - least, by rwa [Nat.add_sub_cancel' hleast]⟩

/-- **The search leads where the pattern can end.** -/
theorem goes_reach (text : List Char) (pattern : Pattern) :
    Places.Goes (text.length + 1) (Spans text pattern.Matches)
      (pattern.reach (Place.ofText text)) := by
  induction pattern with
  | empty => exact Places.Goes.id.congr fun i j hi =>
    (spans_nothing.trans (and_iff_left (by omega))).symm
  | char set => exact goes_char set
  | assert a => exact goes_assert a
  | seq first second hfirst hsecond => exact (hfirst.comp hsecond).congr fun i j _ => spans_seq.symm
  | alt first second hfirst hsecond =>
    refine (hfirst.union hsecond).congr fun i j _ => ?_
    simp only [Spans, Matches, and_or_left, exists_or]
  | repeated body least most hbody => exact goes_repeated least most hbody

/-- **A pattern is found in a text exactly if it matches some part of it.** -/
theorem isFoundIn_iff {pattern : Pattern} :
    pattern.isFoundIn text = true ↔
      ∃ before taken after, text = before ++ (taken ++ after) ∧
        pattern.Matches before taken after := by
  have hgoes := goes_reach text pattern
  have hall : ((Place.ofText text).map fun _ => true).length = text.length + 1 := by
    rw [List.length_map, length_ofText]
  have hstart {i : Nat} (hi : i ≤ text.length) :
      Places.Has ((Place.ofText text).map fun _ => true) i := by
    rw [Places.Has, List.getElem?_map, List.getElem?_eq_getElem (by rw [length_ofText]; omega)]
    rfl
  have hsome : pattern.isFoundIn text = true ↔
      ∃ j, Places.Has (pattern.reach (Place.ofText text) ((Place.ofText text).map fun _ => true))
        j := by
    simp [isFoundIn, Places.isEmpty, Places.Has, List.mem_iff_getElem?]
  rw [hsome]
  simp only [hgoes.has _ hall]
  constructor
  · rintro ⟨j, i, -, before, taken, after, htext, -, -, hmatches⟩
    exact ⟨before, taken, after, htext, hmatches⟩
  · rintro ⟨before, taken, after, htext, hmatches⟩
    refine ⟨_, before.length, hstart ?_, before, taken, after, htext, rfl, rfl, hmatches⟩
    rw [htext, List.length_append]
    omega

/-! ### Parts of patterns -/

/-- The patterns of the characters of a text. -/
def literally (word : List Char) : List Pattern := word.map fun c => .char (.single c)

variable {before taken after : List Char}

theorem contains_single {c d : Char} : (CharSet.single c).contains d = true ↔ d = c := by
  rw [CharSet.single, CharSet.contains, Bool.and_eq_true, decide_eq_true_eq, decide_eq_true_eq]
  constructor
  · rintro ⟨hle, hge⟩
    exact Char.toNat_inj.1 (Nat.le_antisymm hge hle)
  · rintro rfl
    exact ⟨Nat.le_refl _, Nat.le_refl _⟩

theorem matches_literally_append (word : List Char) (patterns : List Pattern) :
    (seqOf (literally word ++ patterns)).Matches before taken after ↔
      ∃ rest, taken = word ++ rest ∧ (seqOf patterns).Matches (before ++ word) rest after := by
  induction word generalizing before taken with
  | nil => simp [literally]
  | cons c word ih =>
    have hseq : seqOf (literally (c :: word) ++ patterns) =
        .seq (.char (.single c)) (seqOf (literally word ++ patterns)) := rfl
    rw [hseq]
    simp only [Matches, ih, contains_single]
    constructor
    · rintro ⟨_, _, rfl, ⟨d, rfl, rfl⟩, rest, rfl, hrest⟩
      exact ⟨rest, rfl, by simpa using hrest⟩
    · rintro ⟨rest, rfl, hrest⟩
      exact ⟨[c], word ++ rest, rfl, ⟨c, rfl, rfl⟩, rest, rfl, by simpa using hrest⟩

theorem matches_literally (word : List Char) :
    (seqOf (literally word)).Matches before taken after ↔ taken = word := by
  have h := @matches_literally_append before taken after word []
  rw [List.append_nil] at h
  rw [h]
  simp [seqOf, Matches]

theorem matches_altOf {patterns : List Pattern} (h : patterns ≠ []) :
    (altOf patterns).Matches before taken after ↔ ∃ p ∈ patterns, p.Matches before taken after := by
  fun_induction altOf patterns with
  | case1 => exact absurd rfl h
  | case2 p => simp
  | case3 p others hne ih =>
    rw [Matches, ih hne]
    simp

theorem matches_repeated {body : Pattern} {least : Nat} {most : Option Nat} :
    (repeated body least most).Matches before taken after ↔
      ∃ count, least ≤ count ∧ (∀ n, most = some n → count ≤ max least n) ∧
        Repeats body.Matches count before taken after :=
  Iff.rfl

theorem repeats_char {set : CharSet} {count : Nat} :
    Repeats (Matches (.char set)) count before taken after ↔
      taken.length = count ∧ ∀ c ∈ taken, set.contains c = true := by
  induction count generalizing before taken with
  | zero =>
    rw [Repeats, List.length_eq_zero_iff]
    constructor
    · rintro rfl
      simp
    · exact And.left
  | succ count ih =>
    simp only [Repeats, ih]
    constructor
    · rintro ⟨_, others, rfl, ⟨c, rfl, hc⟩, hlength, hothers⟩
      exact ⟨by simp [hlength], List.forall_mem_cons.2 ⟨hc, hothers⟩⟩
    · rintro ⟨hlength, hall⟩
      obtain ⟨c, others, rfl⟩ := List.exists_cons_of_length_eq_add_one hlength
      rw [List.forall_mem_cons] at hall
      exact ⟨[c], others, rfl, ⟨c, rfl, hall.1⟩, by simpa using hlength, hall.2⟩

theorem matches_run {set : CharSet} :
    Matches (.repeated (.char set) 1 none) before taken after ↔
      taken ≠ [] ∧ ∀ c ∈ taken, set.contains c = true := by
  rw [matches_repeated]
  simp only [repeats_char]
  constructor
  · rintro ⟨count, hcount, -, rfl, hall⟩
    exact ⟨List.length_pos_iff.1 hcount, hall⟩
  · rintro ⟨hne, hall⟩
    exact ⟨taken.length, List.length_pos_iff.2 hne, by simp, rfl, hall⟩

end Pattern

/-! ### Invocations -/

namespace Listing

open Pattern

/-- The place where a word begins or ends. -/
def boundary : Pattern := .assert (.wordBoundary false)

/-- The characters of package paths, as a set. -/
def pathSet : CharSet := .unionOf [.word, .single '.', .single '%', .single '-']

/-- Path segments, each with its slash. -/
def pathPattern : Pattern :=
  .repeated (seqOf [.repeated (.char pathSet) 1 none, .char (.single '/')]) 0 none

/-- The instruction as a whole word. -/
def instructionPattern : Pattern :=
  seqOf (boundary :: (literally ['S', 'Y', 'S', 'C', 'A', 'L', 'L'] ++ [boundary]))

/-- A call of a wrapper, or a jump to one. -/
def wrapperPattern (wrappers : List String) : Pattern :=
  seqOf [boundary,
    altOf [seqOf (literally ['C', 'A', 'L', 'L']), seqOf (literally ['J', 'M', 'P'])],
    .repeated (.char .blank) 1 none, pathPattern,
    altOf (wrappers.map fun wrapper => seqOf (literally wrapper.toList))]

/-- **The pattern of invocations**: `\bSYSCALL\b`, and where there are wrappers `w₁`, …, `wₙ` whose
names are not empty, `|\b(?:CALL|JMP)\s+(?:[\w.%\-]+/)*(?:w₁|…|wₙ)` behind it, with the names read
literally. -/
def invocationPattern (wrappers : List String) : Pattern :=
  match wrappers.filter (· ≠ "") with
  | [] => instructionPattern
  | named => .alt instructionPattern (wrapperPattern named)

/-- The pattern for the default wrappers, as it is written. -/
example : (Pattern.parse ("\\bSYSCALL\\b|\\b(?:CALL|JMP)\\s+(?:[\\w.%\\-]+/)*" ++
      "(?:syscall\\.Syscall|golang\\.org/x/sys/unix\\.Syscall)").toList).toOption =
    some (invocationPattern Settings.defaultWrappers) := by
  decide +kernel

variable {before taken after : List Char}

theorem contains_pathSet (c : Char) : pathSet.contains c = isPathChar c := by
  have hsingle (d : Char) : (CharSet.single d).contains c = (c == d) := by
    rw [Bool.eq_iff_iff, contains_single, beq_iff_eq]
  simp [pathSet, CharSet.unionOf, CharSet.contains, hsingle, isPathChar, Bool.or_assoc]

theorem matches_boundary_of_word {c : Char} (hc : Text.isWord c = true) :
    boundary.Matches before taken (c :: after) ↔
      taken = [] ∧ continuesWord false before = false := by
  rw [boundary, Matches, List.head?_cons, Place.satisfies]
  cases hlast : before.getLast? <;>
    simp [Place.inWord, CharSet.contains, hc, continuesWord, hlast]

theorem matches_boundary_behind_word {c : Char} (hc : Text.isWord c = true) :
    boundary.Matches (before ++ [c]) taken after ↔
      taken = [] ∧ after.head?.any Text.isWord = false := by
  rw [boundary, Matches, List.getLast?_concat, Place.satisfies]
  cases after.head? <;> simp [Place.inWord, CharSet.contains, hc]

theorem isPath_of_repeats {count : Nat}
    (h : Repeats (seqOf [.repeated (.char pathSet) 1 none, .char (.single '/')]).Matches count
      before taken after) : IsPath taken := by
  induction count generalizing before taken with
  | zero =>
    obtain rfl : taken = [] := h
    exact .nil
  | succ count ih =>
    obtain ⟨_, others, rfl, ⟨run, _, rfl, hrun, _, _, rfl, ⟨slash, rfl, hslash⟩, rfl⟩, hothers⟩ := h
    obtain ⟨hne, hall⟩ := matches_run.1 hrun
    obtain rfl := contains_single.1 hslash
    simp only [contains_pathSet] at hall
    simpa using IsPath.segment hne hall (ih hothers)

theorem matches_pathPattern : pathPattern.Matches before taken after ↔ IsPath taken := by
  rw [pathPattern, matches_repeated]
  constructor
  · rintro ⟨count, -, -, h⟩
    exact isPath_of_repeats h
  · intro h
    induction h generalizing before with
    | nil => exact ⟨0, Nat.le_refl 0, by simp, rfl⟩
    | @segment run path hne hrun hpath ih =>
      obtain ⟨count, -, -, hrest⟩ := @ih (before ++ (run ++ ['/']))
      simp only [← contains_pathSet] at hrun
      refine ⟨count + 1, Nat.zero_le _, by simp, run ++ ['/'], path, by simp, ?_, hrest⟩
      exact ⟨run, ['/'], rfl, matches_run.2 ⟨hne, hrun⟩, ['/'], [], rfl,
        ⟨'/', rfl, contains_single.2 rfl⟩, rfl⟩

theorem matches_instructionPattern :
    instructionPattern.Matches before taken after ↔
      taken = ['S', 'Y', 'S', 'C', 'A', 'L', 'L'] ∧ continuesWord false before = false ∧
        after.head?.any Text.isWord = false := by
  have hfirst : Text.isWord 'S' = true := by decide
  have hlast : Text.isWord 'L' = true := by decide
  constructor
  · rintro ⟨start, others, rfl, hstart, hothers⟩
    obtain ⟨rest, rfl, ending, behind, rfl, hending, rfl⟩ :=
      (matches_literally_append ['S', 'Y', 'S', 'C', 'A', 'L', 'L'] [boundary]).1 hothers
    obtain ⟨rfl, hbefore⟩ := (matches_boundary_of_word hfirst).1 hstart
    rw [show before ++ [] ++ ['S', 'Y', 'S', 'C', 'A', 'L', 'L'] =
      before ++ ['S', 'Y', 'S', 'C', 'A', 'L'] ++ ['L'] by simp] at hending
    obtain ⟨rfl, hafter⟩ := (matches_boundary_behind_word hlast).1 hending
    exact ⟨rfl, hbefore, hafter⟩
  · rintro ⟨rfl, hbefore, hafter⟩
    refine ⟨[], _, rfl, (matches_boundary_of_word hfirst).2 ⟨rfl, hbefore⟩, ?_⟩
    refine (matches_literally_append ['S', 'Y', 'S', 'C', 'A', 'L', 'L'] [boundary]).2
      ⟨[], rfl, [], [], rfl, ?_, rfl⟩
    rw [show before ++ [] ++ ['S', 'Y', 'S', 'C', 'A', 'L', 'L'] =
      before ++ ['S', 'Y', 'S', 'C', 'A', 'L'] ++ ['L'] by simp]
    exact (matches_boundary_behind_word hlast).2 ⟨rfl, hafter⟩

theorem matches_transfer :
    (altOf [seqOf (literally ['C', 'A', 'L', 'L']), seqOf (literally ['J', 'M', 'P'])]).Matches
      before taken after ↔ taken = ['C', 'A', 'L', 'L'] ∨ taken = ['J', 'M', 'P'] := by
  rw [matches_altOf (by simp)]
  simp [matches_literally]

theorem matches_boundary_of_transfer {instruction rest : List Char}
    (h : instruction = ['C', 'A', 'L', 'L'] ∨ instruction = ['J', 'M', 'P']) :
    boundary.Matches before taken (instruction ++ rest) ↔
      taken = [] ∧ continuesWord false before = false := by
  rcases h with rfl | rfl <;> exact matches_boundary_of_word (by decide)

theorem matches_names {wrappers : List String} (h : wrappers ≠ []) :
    (altOf (wrappers.map fun wrapper => seqOf (literally wrapper.toList))).Matches before
      taken after ↔
      ∃ wrapper ∈ wrappers, taken = wrapper.toList := by
  rw [matches_altOf (by simpa using h)]
  constructor
  · rintro ⟨p, hp, hmatches⟩
    obtain ⟨wrapper, hwrapper, rfl⟩ := List.mem_map.1 hp
    exact ⟨wrapper, hwrapper, (matches_literally _).1 hmatches⟩
  · rintro ⟨wrapper, hwrapper, rfl⟩
    exact ⟨_, List.mem_map_of_mem hwrapper, (matches_literally _).2 rfl⟩

theorem matches_wrapperPattern {wrappers : List String} (h : wrappers ≠ []) :
    (wrapperPattern wrappers).Matches before taken after ↔ continuesWord false before = false ∧
      ∃ instruction gap path wrapper,
        taken = instruction ++ (gap ++ (path ++ String.toList wrapper)) ∧
        (instruction = ['C', 'A', 'L', 'L'] ∨ instruction = ['J', 'M', 'P']) ∧ IsGap gap ∧
        IsPath path ∧ wrapper ∈ wrappers := by
  constructor
  · rintro ⟨start, _, rfl, hstart, instruction, _, rfl, hinstruction, gap, _, rfl, hgap,
      path, _, rfl, hpath, name, _, rfl, hname, rfl⟩
    have htransfer := matches_transfer.1 hinstruction
    rw [List.append_assoc] at hstart
    obtain ⟨rfl, hbefore⟩ := (matches_boundary_of_transfer htransfer).1 hstart
    obtain ⟨wrapper, hmem, rfl⟩ := (matches_names h).1 hname
    exact ⟨hbefore, instruction, gap, path, wrapper, by simp, htransfer, matches_run.1 hgap,
      matches_pathPattern.1 hpath, hmem⟩
  · rintro ⟨hbefore, instruction, gap, path, wrapper, rfl, htransfer, hgap, hpath, hmem⟩
    refine ⟨[], instruction ++ (gap ++ (path ++ wrapper.toList)), rfl, ?_, instruction, _, rfl,
      matches_transfer.2 htransfer, gap, _, rfl, matches_run.2 hgap, path, _, rfl,
      matches_pathPattern.2 hpath, wrapper.toList, [], by simp,
      (matches_names h).2 ⟨wrapper, hmem, rfl⟩, rfl⟩
    rw [List.append_assoc]
    exact (matches_boundary_of_transfer htransfer).2 ⟨rfl, hbefore⟩

/-- The instruction stands in a line where a word may begin, if and only if its pattern matches
there. -/
theorem exists_instruction_iff {line : List Char} :
    (∃ before rest, WordStart line before rest ∧ IsInstruction rest) ↔
      ∃ before taken after, line = before ++ (taken ++ after) ∧
        instructionPattern.Matches before taken after := by
  simp only [matches_instructionPattern]
  constructor
  · rintro ⟨before, _, ⟨rfl, hbefore⟩, rest, rfl, hrest⟩
    exact ⟨before, _, rest, rfl, rfl, hbefore, hrest⟩
  · rintro ⟨before, _, rest, rfl, rfl, hbefore, hrest⟩
    exact ⟨before, _, ⟨rfl, hbefore⟩, rest, rfl, hrest⟩

theorem exists_callsWrapper_iff {wrappers : List String} {line : List Char}
    (h : wrappers.filter (· ≠ "") ≠ []) :
    (∃ before rest, WordStart line before rest ∧ CallsWrapper wrappers rest) ↔
      ∃ before taken after, line = before ++ (taken ++ after) ∧
        (wrapperPattern (wrappers.filter (· ≠ ""))).Matches before taken after := by
  simp only [matches_wrapperPattern h, List.mem_filter, decide_eq_true_eq]
  constructor
  · rintro ⟨before, _, ⟨rfl, hbefore⟩, instruction, gap, path, rest, wrapper, rfl, htransfer,
      hgap, hpath, hwrapper⟩
    exact ⟨before, _, rest, by simp, hbefore, instruction, gap, path, wrapper, rfl, htransfer,
      hgap, hpath, hwrapper⟩
  · rintro ⟨before, _, rest, rfl, hbefore, instruction, gap, path, wrapper, rfl, htransfer,
      hgap, hpath, hwrapper⟩
    exact ⟨before, _, ⟨rfl, hbefore⟩, instruction, gap, path, rest, wrapper, by simp, htransfer,
      hgap, hpath, hwrapper⟩

theorem not_callsWrapper {wrappers : List String} {text : List Char}
    (h : wrappers.filter (· ≠ "") = []) : ¬ CallsWrapper wrappers text := by
  rintro ⟨_, _, _, _, wrapper, -, -, -, -, hmem, hne⟩
  rw [List.filter_eq_nil_iff] at h
  exact h wrapper hmem (by simpa using hne)

/-- **The recogniser of invocations recognises the lines in which the pattern is found.** -/
theorem isInvocation_eq_isFoundIn (wrappers : List String) (line : List Char) :
    isInvocation wrappers line = (invocationPattern wrappers).isFoundIn line := by
  rw [Bool.eq_iff_iff, isInvocation_iff, isFoundIn_iff, InvokesSystem, invocationPattern]
  simp only [and_or_left, exists_or]
  split
  · rename_i hnone
    rw [← exists_instruction_iff, or_iff_left]
    rintro ⟨before, rest, -, hcalls⟩
    exact not_callsWrapper hnone hcalls
  · rename_i hsome
    simp only [Matches, and_or_left, exists_or]
    rw [exists_instruction_iff, exists_callsWrapper_iff hsome]

end Listing

end SyscallCensus
