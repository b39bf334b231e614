
import Mathlib.Data.List.Basic

/-!
# Matching the beginning of a list

`Matches R as bs` says that `bs` has at least as many elements as `as`, and that elements at the
same position are related by `R`. The relation is monotone in `R`, and it composes.
-/

namespace Matching

open List

variable {α β γ : Type*} {R : α → β → Prop}

/-- The elements of the first list are related to the first elements of the second one. -/
def Matches (R : α → β → Prop) : List α → List β → Prop
  | [], _ => True
  | _ :: _, [] => False
  | a :: as, b :: bs => R a b ∧ Matches R as bs

@[simp] theorem matches_nil (bs) : Matches R [] bs := trivial

@[simp] theorem not_matches_cons_nil (a as) : ¬Matches R (a :: as) ([] : List β) := id

variable {as : List α} {bs : List β}

@[simp] theorem matches_cons_cons :
    Matches R (a :: as) (b :: bs) ↔ R a b ∧ Matches R as bs := Iff.rfl

/-- Matching, position by position. -/
theorem matches_iff : Matches R as bs ↔ as.length ≤ bs.length ∧ ∀ p ∈ as.zip bs, R p.1 p.2 := by
  induction as generalizing bs with
  | nil => simp
  | cons a as ih =>
    cases bs with
    | nil => simp
    | cons b bs =>
      rw [matches_cons_cons, ih]
      simp only [length_cons, Nat.add_le_add_iff_right, zip_cons_cons, mem_cons,
        forall_eq_or_imp]
      tauto

theorem matches_map {γ : Type*} {f : γ → β} {cs : List γ} :
    Matches R as (cs.map f) ↔ Matches (fun a c => R a (f c)) as cs := by
  induction as generalizing cs with
  | nil => simp
  | cons a as ih =>
    cases cs with
    | nil => simp
    | cons c cs => rw [map_cons, matches_cons_cons, matches_cons_cons, ih]

theorem Matches.imp {R' : α → β → Prop} (h : Matches R as bs)
    (himp : ∀ a ∈ as, ∀ b ∈ bs, R a b → R' a b) :
    Matches R' as bs := by
  rw [matches_iff] at h ⊢
  refine ⟨h.1, fun p hp => ?_⟩
  have hmem := of_mem_zip hp
  exact himp p.1 hmem.1 p.2 hmem.2 (h.2 p hp)

/-- What matches something that matches. -/
theorem Matches.comp {γ : Type*} {S : β → γ → Prop} {T : α → γ → Prop} {cs : List γ}
    (h : Matches R as bs) (h' : Matches S bs cs)
    (hcomp : ∀ a ∈ as, ∀ b ∈ bs, ∀ c ∈ cs, R a b → S b c → T a c) : Matches T as cs := by
  induction as generalizing bs cs with
  | nil => trivial
  | cons a as ih =>
    cases bs with
    | nil => exact h.elim
    | cons b bs =>
      cases cs with
      | nil => exact h'.elim
      | cons c cs =>
        refine ⟨hcomp a (by simp) b (by simp) c (by simp) h.1 h'.1, ih h.2 h'.2 ?_⟩
        intro a' ha b' hb c' hc
        exact hcomp a' (.tail _ ha) b' (.tail _ hb) c' (.tail _ hc)

end Matching
