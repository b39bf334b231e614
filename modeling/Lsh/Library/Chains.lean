
import Mathlib.Data.List.ProdSigma
import Mathlib.Data.List.Sublists

/-!
# Extending everything by everything

A list of states is gone through for each of some inputs, and what the input makes of a state is
added to the list. States that are added are not gone through for the same input. In the end the
list has what all subsequences of the inputs make of the first states, each of them once.

Results are compared by counting them: `isSome_of_length_flatMap_filterMap`.
-/

namespace Chains

open List

variable {σ α : Type*} (f : σ → α → Option σ)

/-- Go through the list, and add what the input makes of its elements. -/
def extendAll (l : List σ) (a : α) : List σ := (l.filterMap (f · a)).reverse ++ l

/-- What a sequence of inputs makes of a state. -/
def chain (s : σ) (as : List α) : Option σ := as.foldlM f s

@[simp] theorem chain_nil (s) : chain f s [] = some s := rfl

theorem chain_concat (s as a) : chain f s (as ++ [a]) = (chain f s as).bind (f · a) := by
  cases h : as.foldlM f s with
  | none | some t => simp [chain, h]

theorem filterMap_chain_concat (s a) (ss : List (List α)) :
    (ss.map (· ++ [a])).filterMap (chain f s) = (ss.filterMap (chain f s)).filterMap (f · a) := by
  rw [filterMap_map, filterMap_filterMap]
  refine filterMap_congr fun as _ => ?_
  exact chain_concat f s as a

/-- **All subsequences.** -/
theorem foldl_extendAll_perm (l) (as : List α) :
    (as.foldl (extendAll f) l).Perm (l.flatMap fun s => as.sublists.filterMap (chain f s)) := by
  induction as using List.reverseRecOn with
  | nil => simp [flatMap_singleton']
  | append_singleton as a ih =>
    rw [foldl_append]
    generalize as.foldl (extendAll f) l = r at ih
    have hadded : (r.filterMap (f · a)).Perm
        (l.flatMap fun s => (as.sublists.map (· ++ [a])).filterMap (chain f s)) := by
      refine (ih.filterMap _).trans (.of_eq ?_)
      rw [filterMap_flatMap]
      exact flatMap_congr fun s _ => (filterMap_chain_concat f s a _).symm
    refine (((reverse_perm _).trans hadded).append ih).trans ?_
    simp only [sublists_concat, filterMap_append]
    exact (perm_append_comm).trans (flatMap_append_perm _ _ _)

/-- The empty subsequence, and the others. -/
theorem sublists_eq_cons (as : List α) : as.sublists = [] :: as.sublists.filter (· ≠ []) := by
  induction as using List.reverseRecOn with
  | nil => rfl
  | append_singleton as a ih =>
    have hmap : (as.sublists.map (· ++ [a])).filter (· ≠ []) = as.sublists.map (· ++ [a]) :=
      List.filter_eq_self.mpr fun l hl => by
        obtain ⟨l', -, rfl⟩ := List.mem_map.mp hl
        simp
    rw [sublists_concat, filter_append, hmap, ← cons_append, ← ih]

/-- The first states, and what the other subsequences make of them. -/
theorem foldl_extendAll_perm_append (l) (as : List α) :
    (as.foldl (extendAll f) l).Perm
      (l ++ l.flatMap fun s => (as.sublists.filter (· ≠ [])).filterMap (chain f s)) := by
  refine (foldl_extendAll_perm f l as).trans ?_
  have hspl (s : σ) : as.sublists.filterMap (chain f s) =
      [s] ++ (as.sublists.filter (· ≠ [])).filterMap (chain f s) := by
    rw [sublists_eq_cons as, filterMap_cons_some (chain_nil f s), ← sublists_eq_cons as]
    rfl
  simp only [hspl]
  refine (flatMap_append_perm l _ _).symm.trans ?_
  rw [flatMap_singleton']

/-! ### Counting results -/

/-- If one function has a result wherever another one has, and there are as many results of both,
then they have results in the same places. -/
theorem isSome_of_length_filterMap {β : Type*} {g h : α → Option β} {l : List α}
    (himp : ∀ a ∈ l, (g a).isSome → (h a).isSome)
    (hlength : (l.filterMap h).length = (l.filterMap g).length) :
    ∀ a ∈ l, (h a).isSome → (g a).isSome := by
  rw [length_filterMap_eq_countP, length_filterMap_eq_countP] at hlength
  induction l with
  | nil => nofun
  | cons a l ih =>
    rw [forall_mem_cons] at himp
    have hle := List.countP_mono_left himp.2
    rw [countP_cons, countP_cons] at hlength
    rw [forall_mem_cons]
    cases hg : (g a).isSome with
    | true =>
      rw [hg, himp.1 hg] at hlength
      exact ⟨fun _ => rfl, ih himp.2 (by simpa using hlength)⟩
    | false =>
      cases hh : (h a).isSome with
      | true =>
        simp [hg, hh] at hlength
        omega
      | false =>
        rw [hg, hh] at hlength
        exact ⟨nofun, ih himp.2 (by simpa using hlength)⟩

theorem isSome_of_length_flatMap_filterMap {β : Type*} {g h : σ → α → Option β} {l : List σ}
    {as : List α} (himp : ∀ s ∈ l, ∀ a ∈ as, (g s a).isSome → (h s a).isSome)
    (hlength : (l.flatMap fun s => as.filterMap (h s)).length =
      (l.flatMap fun s => as.filterMap (g s)).length) :
    ∀ s ∈ l, ∀ a ∈ as, (h s a).isSome → (g s a).isSome := by
  have hpairs (k : σ → α → Option β) : (l.flatMap fun s => as.filterMap (k s)) =
      (l ×ˢ as).filterMap fun p => k p.1 p.2 := by
    simp [SProd.sprod, List.product, filterMap_flatMap, filterMap_map]
  rw [hpairs, hpairs] at hlength
  intro s hs a ha
  refine isSome_of_length_filterMap (fun p hp => ?_) hlength (s, a) (List.mem_product.mpr ⟨hs, ha⟩)
  obtain ⟨hs, ha⟩ := List.mem_product.mp hp
  exact himp p.1 hs p.2 ha

end Chains
