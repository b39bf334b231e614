
import Mathlib.Algebra.BigOperators.Group.List.Basic
import Mathlib.Data.List.Basic

/-!
# Tables that grow

A table is a list that is changed one entry at a time: an entry is replaced, or one is added at the
end. `place` does either, and `Replaces` is the relation between the table before and after. What
holds of the entries, a number of entries and a sum over all entries then change by what the one
entry contributes.

## Main results

* `Replaces.getElem?_self`, `Replaces.getElem?_ne` — the entries after a change
* `Replaces.countP`, `Replaces.sum` — numbers and sums of entries
-/

namespace Table

open List

variable {α : Type*} {l : List α} {i : ℕ} {a : α}

/-- A table with an entry replaced, or added at the end. -/
def place (l : List α) (i : ℕ) (a : α) : List α :=
  if i < l.length then l.set i a else l ++ [a]

/-- The entry `new` takes the place of `old`, which is missing if the table grows. -/
structure Replaces (l l' : List α) (i : ℕ) (old : Option α) (new : α) : Prop where
  getElem?_eq : l[i]? = old
  le_length : i ≤ l.length
  eq_place : l' = place l i new

theorem place_of_lt (h : i < l.length) (a : α) : place l i a = l.set i a :=
  if_pos h

theorem place_length (l) (a : α) : place l l.length a = l ++ [a] :=
  if_neg (Nat.lt_irrefl _)

theorem lt_length_of_getElem? (h : l[i]? = some a) : i < l.length :=
  (List.getElem?_eq_some_iff.mp h).1

/-- An entry of the table is replaced. -/
theorem Replaces.of_set (h : l[i]? = some a) (b) :
    Replaces l (l.set i b) i (some a) b where
  getElem?_eq := h
  le_length := Nat.le_of_lt (lt_length_of_getElem? h)
  eq_place := (place_of_lt (lt_length_of_getElem? h) b).symm

theorem Replaces.of_place (h : i ≤ l.length) (b) :
    Replaces l (place l i b) i l[i]? b where
  getElem?_eq := rfl
  le_length := h
  eq_place := rfl

/-- The entry that has been placed is changed again. -/
theorem set_place (h : i ≤ l.length) (a b : α) : (place l i a).set i b = place l i b := by
  rcases Nat.lt_or_eq_of_le h with hlt | rfl
  · rw [place_of_lt hlt, place_of_lt hlt, set_set]
  · rw [place_length, place_length, set_append_right _ _ (Nat.le_refl _), Nat.sub_self]
    rfl

/-- A change by a function of the entry. -/
theorem modify_eq_set (h : l[i]? = some a) (f) : l.modify i f = l.set i (f a) := by
  rw [modify_eq_set_getElem?, h]
  rfl

namespace Replaces

variable {l l' : List α} {i j : ℕ} {old : Option α} {new : α}

section
variable (h : Replaces l l' i old new)
include h

/-- Either an entry is set or the table grows. -/
theorem cases :
    (∃ a, old = some a ∧ l[i]? = some a ∧ l' = l.set i new) ∨
      (old = none ∧ i = l.length ∧ l' = l ++ [new]) := by
  rcases Nat.lt_or_eq_of_le h.le_length with hlt | heq
  · refine .inl ⟨l[i], ?_, getElem?_eq_getElem hlt, ?_⟩
    · rw [← h.getElem?_eq, getElem?_eq_getElem hlt]
    · rw [h.eq_place, place_of_lt hlt]
  · refine .inr ⟨?_, heq, ?_⟩
    · rw [← h.getElem?_eq, heq, getElem?_length]
    · rw [h.eq_place, heq, place_length]

theorem getElem?_self : l'[i]? = some new := by
  rcases h.cases with ⟨a, _, ha, rfl⟩ | ⟨_, rfl, rfl⟩
  · exact getElem?_set_self (lt_length_of_getElem? ha)
  · rw [getElem?_append_right (Nat.le_refl _), Nat.sub_self]
    rfl

theorem getElem?_ne (hj : j ≠ i) : l'[j]? = l[j]? := by
  rcases h.cases with ⟨a, _, _, rfl⟩ | ⟨_, rfl, rfl⟩
  · exact getElem?_set_ne hj.symm
  · rcases Nat.lt_or_ge j l.length with hlt | hge
    · exact getElem?_append_left hlt
    · rw [getElem?_eq_none hge, getElem?_eq_none]
      rw [length_append, length_singleton]
      omega

/-- An entry after the change is the new one or an old one. -/
theorem of_getElem? (ha : l'[j]? = some a) : j = i ∧ a = new ∨ j ≠ i ∧ l[j]? = some a := by
  by_cases hj : j = i
  · subst hj
    rw [h.getElem?_self] at ha
    exact .inl ⟨rfl, (Option.some.inj ha).symm⟩
  · rw [h.getElem?_ne hj] at ha
    exact .inr ⟨hj, ha⟩

theorem length_eq : l'.length = if old.isSome then l.length else l.length + 1 := by
  rcases h.cases with ⟨a, rfl, _, rfl⟩ | ⟨rfl, _, rfl⟩
  · exact length_set
  · exact length_append

/-- **Numbers of entries.** -/
theorem countP (p) : l'.countP p + old.toList.countP p = l.countP p + [new].countP p := by
  rcases h.cases with ⟨a, rfl, ha, rfl⟩ | ⟨rfl, _, rfl⟩
  · obtain ⟨hi, rfl⟩ := List.getElem?_eq_some_iff.mp ha
    rw [countP_set hi, Option.toList_some, countP_singleton, countP_singleton]
    by_cases hp : p l[i]
    · have hpos : 0 < l.countP p := List.countP_pos_iff.mpr ⟨l[i], getElem_mem hi, hp⟩
      rw [if_pos hp]
      omega
    · rw [if_neg hp]
      omega
  · rw [countP_append, Option.toList_none, countP_nil, add_zero]

/-- **Sums over all entries.** -/
theorem sum {M : Type*} [AddCommMonoid M] (f : α → M) :
    (l'.map f).sum + (old.toList.map f).sum = (l.map f).sum + f new := by
  rcases h.cases with ⟨a, rfl, ha, rfl⟩ | ⟨rfl, _, rfl⟩
  · clear h
    rw [Option.toList_some, map_singleton, sum_singleton]
    induction l generalizing i with
    | nil => cases ha
    | cons x l ih =>
      cases i with
      | zero =>
        cases ha
        rw [set_cons_zero, map_cons, sum_cons]
        ac_rfl
      | succ i =>
        rw [set_cons_succ, map_cons, sum_cons, map_cons, sum_cons,
          add_assoc, add_assoc, ih ha]
  · rw [map_append, sum_append, Option.toList_none, map_nil, sum_nil, add_zero,
      map_singleton, sum_singleton]

end

end Replaces

end Table
