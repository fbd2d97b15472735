import Mathlib.Data.List.Chain
import Mathlib.Order.Bounds.Basic
import SyscallCensus.Registry.LinuxX64

/-!
# Lookups in a registry

About the Syscall Registry of `SPEC_FULL.md`, Section 6: "a static table of several hundred
entries".

A registry is looked up in two ways: by number, halving an interval of places, and by label, from
the front. What the table itself says is simpler: it has an entry or it has none. Both ways agree
with the table as soon as its numbers increase strictly (`Registry.Increasing`), however long it is
and however many numbers share a label.

A search by number never returns anything but an entry with that number, in whatever order the
entries stand (`search_sound`). That it finds the entry takes the order: in an increasing table, of
two entries the one with the smaller number stands at the smaller place (`Increasing.place_lt`), so
the half that a search gives up does not hold the entry (`search_of_place`). From the front, the
first entry with a label has the smallest number of all that carry the label.
-/

namespace SyscallCensus.Registry

variable {registry : Registry} {first second entry : SystemCall} {id : SyscallId} {name : String}

/-! ### Tables in order -/

/-- The numbers increase strictly from entry to entry. -/
def Increasing (registry : Registry) : Prop := registry.toList.Pairwise (·.id < ·.id)

/-- It is enough to compare neighbours. -/
theorem isChain_iff_increasing : registry.toList.IsChain (·.id < ·.id) ↔ registry.Increasing := by
  have : IsTrans SystemCall (·.id < ·.id) := ⟨fun _ _ _ => UInt16.lt_trans⟩
  exact List.isChain_iff_pairwise

instance : DecidablePred Increasing := fun _ => decidable_of_iff _ isChain_iff_increasing

/-- The registry of 64-bit x86 Linux is in order. -/
theorem linuxX64_increasing : linuxX64.Increasing := by decide +kernel

namespace Increasing

theorem id_lt (h : registry.Increasing) {i j : Nat} (hi : registry.entries[i]? = some first)
    (hj : registry.entries[j]? = some second) (hij : i < j) : first.id < second.id := by
  rw [← Array.getElem?_toList] at hi hj
  obtain ⟨hi', rfl⟩ := List.getElem?_eq_some_iff.1 hi
  obtain ⟨hj', rfl⟩ := List.getElem?_eq_some_iff.1 hj
  exact List.pairwise_iff_getElem.1 h i j hi' hj' hij

/-- Of two entries, the one with the smaller number stands at the smaller place. -/
theorem place_lt (h : registry.Increasing) {i j : Nat} (hi : registry.entries[i]? = some first)
    (hj : registry.entries[j]? = some second) (hid : first.id < second.id) : i < j := by
  rcases Nat.lt_trichotomy i j with hij | rfl | hji
  · exact hij
  · rw [hi, Option.some.injEq] at hj
    exact absurd (hj ▸ hid) (UInt16.lt_irrefl _)
  · exact absurd (h.id_lt hj hi hji) (UInt16.lt_asymm hid)

theorem place_eq (h : registry.Increasing) {i j : Nat} (hi : registry.entries[i]? = some first)
    (hj : registry.entries[j]? = some second) (hid : first.id = second.id) : i = j := by
  rcases Nat.lt_trichotomy i j with hij | hij | hji
  · exact absurd (hid ▸ h.id_lt hi hj hij) (UInt16.lt_irrefl _)
  · exact hij
  · exact absurd (hid ▸ h.id_lt hj hi hji) (UInt16.lt_irrefl _)

end Increasing

/-! ### By number -/

/-- A search finds entries of the table, with the number that it looks for. -/
theorem search_sound {entries : Array SystemCall} {low high : Nat}
    (h : search entries id low high = some entry) : entry ∈ entries ∧ entry.id = id := by
  fun_induction search entries id low high with
  | case1 => cases h
  | case2 low high _ found hfound heq =>
    rw [Option.some.injEq] at h
    subst h
    exact ⟨Array.mem_of_getElem? hfound, heq⟩
  | case3 _ _ _ _ _ _ _ ih => exact ih h
  | case4 _ _ _ _ _ _ _ ih => exact ih h
  | case5 => cases h

/-- A search finds an entry whose place lies between its two ends. -/
theorem search_of_place (h : registry.Increasing) {place low high : Nat}
    (hplace : registry.entries[place]? = some entry) (hlow : low ≤ place) (hhigh : place < high)
    (hsize : high ≤ registry.entries.size) :
    search registry.entries entry.id low high = some entry := by
  -- The place stays between the two ends: each step moves one end past the middle, on the side that
  -- does not hold it.
  fun_induction search registry.entries entry.id low high with
  | case1 low high hlt hnone =>
    have hmiddle := Array.getElem?_eq_none_iff.1 hnone
    omega
  | case2 low high hlt middle hmiddle heq =>
    rw [← hplace, ← hmiddle, h.place_eq hmiddle hplace heq]
  | case3 low high hlt middle hmiddle hne hless ih =>
    have hright := h.place_lt hmiddle hplace hless
    exact ih hright hhigh hsize
  | case4 low high hlt middle hmiddle hne hless ih =>
    have hmore := (UInt16.lt_or_lt_of_ne hne).resolve_left hless
    have hleft := h.place_lt hplace hmiddle hmore
    exact ih hlow hleft (by omega)
  | case5 low high hover => omega

/-- The label of a number is the one that stands beside it in the table. -/
theorem name?_eq_some_iff (h : registry.Increasing) :
    registry.name? id = some name ↔ ⟨id, name⟩ ∈ registry.toList := by
  rw [name?, Option.map_eq_some_iff, toList, Array.mem_toList_iff]
  constructor
  · rintro ⟨entry, hentry, rfl⟩
    obtain ⟨hmem, rfl⟩ := search_sound hentry
    exact hmem
  · intro hmem
    obtain ⟨place, hplace⟩ := Array.mem_iff_getElem?.1 hmem
    obtain ⟨hsize, -⟩ := Array.getElem?_eq_some_iff.1 hplace
    exact ⟨⟨id, name⟩, search_of_place h hplace (Nat.zero_le _) hsize (Nat.le_refl _), rfl⟩

theorem contains_iff (h : registry.Increasing) :
    registry.contains id = true ↔ ∃ name, ⟨id, name⟩ ∈ registry.toList := by
  simp only [contains, Option.isSome_iff_exists, name?_eq_some_iff h]

/-- The label of a registered number stands beside it in the table, in whatever order the entries
stand. -/
theorem label_mem (h : registry.contains id = true) :
    registry.label id ∈ registry.toList ∧ registry.name? id = some (registry.label id).name := by
  rw [contains, Option.isSome_iff_exists] at h
  obtain ⟨name, hname⟩ := h
  obtain ⟨entry, hentry, rfl⟩ := Option.map_eq_some_iff.1 hname
  obtain ⟨hmem, hid⟩ := search_sound hentry
  have hlabel : registry.label id = entry := by
    rw [label, hname, ← hid]
    rfl
  rw [hlabel, toList]
  exact ⟨Array.mem_toList_iff.2 hmem, hname⟩

theorem linuxX64_name_ne_empty : ∀ entry ∈ linuxX64.toList, entry.name ≠ "" := by
  decide +kernel

/-! ### By label -/

/-- A label is not found exactly if no number carries it, in whatever order the entries stand. -/
theorem id?_eq_none_iff : registry.id? name = none ↔ ∀ id, ⟨id, name⟩ ∉ registry.toList := by
  rw [id?, ← Array.find?_toList, Option.map_eq_none_iff, List.find?_eq_none]
  constructor
  · intro hnone id hmem
    exact hnone ⟨id, name⟩ hmem (beq_self_eq_true name)
  · rintro hnone ⟨id, other⟩ hmem hother
    rw [beq_iff_eq] at hother
    subst hother
    exact hnone id hmem

/-- The number that is found has the label, and it is the smallest that has it. -/
theorem isLeast_of_id? (h : registry.Increasing) (hid : registry.id? name = some id) :
    IsLeast {id | ⟨id, name⟩ ∈ registry.toList} id := by
  rw [id?, ← Array.find?_toList, Option.map_eq_some_iff] at hid
  obtain ⟨found, hfound, rfl⟩ := hid
  obtain ⟨hname, before, after, hsplit, hbefore⟩ := List.find?_eq_some_iff_append.1 hfound
  rw [beq_iff_eq] at hname
  subst hname
  refine ⟨List.mem_of_find?_eq_some hfound, ?_⟩
  intro other hother
  replace hother : ⟨other, found.name⟩ ∈ before ++ found :: after := hsplit ▸ hother
  rw [Increasing, toList, hsplit, List.pairwise_append] at h
  rcases List.mem_append.1 hother with hother | hother
  · exact absurd (hbefore _ hother) (by simp)
  · rcases List.mem_cons.1 hother with hsame | hother
    · exact hsame ▸ UInt16.le_refl _
    · exact UInt16.le_of_lt (List.rel_of_pairwise_cons h.2.1 hother)

/-- A label stands for the smallest of the numbers that carry it. -/
theorem id?_eq_some_iff (h : registry.Increasing) :
    registry.id? name = some id ↔ IsLeast {id | ⟨id, name⟩ ∈ registry.toList} id := by
  refine ⟨isLeast_of_id? h, ?_⟩
  intro hleast
  cases hfound : registry.id? name with
  | none => exact absurd hleast.1 (id?_eq_none_iff.1 hfound id)
  | some found =>
    have hother := isLeast_of_id? h hfound
    rw [UInt16.le_antisymm (hother.2 hleast.1) (hleast.2 hother.1)]

/-! ### Both ways -/

/-- **Lookups agree with the table.** In every registry whose numbers increase strictly, a number is
found with the label of its entry and not found if it has none, and a label is found with the
smallest number that carries it and not found if no number does; so the number that a label is found
with is found with that label. The registry of 64-bit x86 Linux is such a registry. -/
theorem lookups_agree_with_table :
    linuxX64.Increasing ∧
    ∀ registry : Registry, registry.Increasing →
      (∀ id name, registry.name? id = some name ↔ ⟨id, name⟩ ∈ registry.toList) ∧
      (∀ id, registry.contains id = (registry.name? id).isSome ∧
        (registry.contains id = true ↔ ∃ name, ⟨id, name⟩ ∈ registry.toList)) ∧
      (∀ name id, registry.id? name = some id ↔ IsLeast {id | ⟨id, name⟩ ∈ registry.toList} id) ∧
      (∀ name, registry.id? name = none ↔ ∀ id, ⟨id, name⟩ ∉ registry.toList) ∧
      ∀ name id, registry.id? name = some id → registry.name? id = some name := by
  refine ⟨linuxX64_increasing, ?_⟩
  intro registry h
  refine ⟨fun _ _ => name?_eq_some_iff h, fun _ => ⟨rfl, contains_iff h⟩,
    fun _ _ => id?_eq_some_iff h, fun _ => id?_eq_none_iff, ?_⟩
  intro name id hid
  have hleast := isLeast_of_id? h hid
  exact (name?_eq_some_iff h).2 hleast.1

/-- The label `ioctl` has two numbers. Both are found with it, and it is found with the smaller
one. -/
theorem lookups_agree_with_table_on_ioctl :
    linuxX64.Increasing ∧ linuxX64.name? 16 = some "ioctl" ∧ linuxX64.name? 514 = some "ioctl" ∧
      linuxX64.id? "ioctl" = some 16 := by
  obtain ⟨horder, hlookups⟩ := lookups_agree_with_table
  obtain ⟨hname, -, hid, -, -⟩ := hlookups linuxX64 horder
  have hsmall : ⟨16, "ioctl"⟩ ∈ linuxX64.toList := by decide +kernel
  have hlarge : ⟨514, "ioctl"⟩ ∈ linuxX64.toList := by decide +kernel
  have hleast : ∀ entry ∈ linuxX64.toList, entry.name = "ioctl" → 16 ≤ entry.id := by decide +kernel
  exact ⟨horder, (hname 16 _).2 hsmall, (hname 514 _).2 hlarge,
    (hid _ 16).2 ⟨hsmall, fun id hmem => hleast ⟨id, "ioctl"⟩ hmem rfl⟩⟩

end SyscallCensus.Registry
