
import Lsh.Library.Machine
import Mathlib.Data.List.Sigma

/-!
# Association lists

A model of `alist.c`. A linear alist is a table for all atoms, and a linked alist is a list of
nodes; a value is set to `NULL` there by taking the first node of the atom out.

## Main results

* `run_alistSet_get` — the two kinds agree on what was set last
-/

namespace Lsh

open Machine List

/-- The assertions on atoms: not negative, and below `NUMBER_OF_ATOMS`. -/
inductive AlistAssertion where
  | negative
  | tooLarge
  deriving DecidableEq, Repr

variable {α : Type}

/-- `do_linear_get`. The table has `NUMBER_OF_ATOMS` entries. -/
def doLinearGet (table : List (Option α)) (atom : Int) : Except AlistAssertion (Option α) := do
  require (0 ≤ atom) .negative
  require (atom < table.length) .tooLarge
  return table[atom.toNat]?.join

/-- `do_linear_set`. -/
def doLinearSet (table : List (Option α)) (atom : Int) (value : Option α) :
    Except AlistAssertion (List (Option α)) := do
  require (0 ≤ atom) .negative
  require (atom < table.length) .tooLarge
  return table.set atom.toNat value

/-- `struct alist_node`: an atom and a value. -/
abbrev AlistNode (α : Type) := (_ : Int) × Option α

/-- `do_linked_get`. -/
def doLinkedGet (head : List (AlistNode α)) (atom : Int) : Except AlistAssertion (Option α) := do
  require (0 ≤ atom) .negative
  return (head.dlookup atom).join

/-- `do_linked_set`. -/
def doLinkedSet (head : List (AlistNode α)) (atom : Int) (value : Option α) :
    Except AlistAssertion (List (AlistNode α)) := do
  require (0 ≤ atom) .negative
  return if value.isNone then head.kerase atom
    else if atom ∈ head.keys then head.kreplace atom value else ⟨atom, value⟩ :: head

/-- What was set last for an atom, after the values `f`. -/
def lastSet (ops : List (Int × Option α)) (f : Int → Option α) : Int → Option α :=
  ops.foldl (fun f op => Function.update f op.1 op.2) f

theorem dlookup_kreplace {atom : ℤ} {head : List (AlistNode α)} (h : atom ∈ head.keys) (value key) :
    (head.kreplace atom value).dlookup key =
      if key = atom then some value else head.dlookup key := by
  induction head with
  | nil => simp at h
  | cons p head ih =>
    obtain ⟨a, v⟩ := p
    rw [kreplace, lookmap_cons]
    rcases eq_or_ne atom a with rfl | ha
    · rcases eq_or_ne key atom with rfl | hk
      · simp
      · simp [hk]
    · rw [if_neg ha]
      rcases eq_or_ne key a with rfl | hk
      · simp [Ne.symm ha]
      · rw [dlookup_cons_ne _ _ hk, dlookup_cons_ne _ _ hk]
        exact ih (by simpa [ha] using h)

/-- The nodes have different atoms, and their values are those of `f` that are not `NULL`. -/
structure Linked (head : List (AlistNode α)) (f : Int → Option α) : Prop where
  nodup : head.NodupKeys
  value : ∀ key, head.dlookup key = (f key).map some

variable {f : ℤ → Option α}

theorem doLinkedSet_linked {head : List (AlistNode α)} (h : Linked head f) {atom : Int}
    (hat : 0 ≤ atom) (value) :
    Yields (Linked · (Function.update f atom value)) (doLinkedSet head atom value) := by
  rw [doLinkedSet, require_of hat, ok_bind]
  show Linked _ _
  split_ifs with hval hmem
  · refine ⟨h.nodup.kerase atom, fun key => ?_⟩
    rcases eq_or_ne key atom with rfl | hk
    · simp [dlookup_kerase _ h.nodup, Option.isNone_iff_eq_none.mp hval]
    · rw [dlookup_kerase_ne hk, h.value, Function.update_of_ne hk]
  all_goals obtain ⟨v, rfl⟩ := Option.ne_none_iff_exists'.mp (mt Option.isNone_iff_eq_none.mpr hval)
  · refine ⟨(kreplace_nodupKeys _ _).mpr h.nodup, fun key => ?_⟩
    by_cases hk : key = atom <;> simp [dlookup_kreplace hmem, hk, h.value]
  · refine ⟨nodupKeys_cons.mpr ⟨hmem, h.nodup⟩, fun key => ?_⟩
    rcases eq_or_ne key atom with rfl | hk
    · simp
    · rw [dlookup_cons_ne _ _ hk, h.value, Function.update_of_ne hk]

/-- The table of a linear alist. -/
structure Linear (table : List (Option α)) (n : ℕ) (f : Int → Option α) : Prop where
  length : table.length = n
  value : ∀ i < n, table[i]? = some (f i)

theorem doLinearSet_linear {table : List (Option α)} {n : ℕ} (h : Linear table n f) {atom : Int}
    (hat : 0 ≤ atom ∧ atom < n) (value) :
    Yields (Linear · n (Function.update f atom value)) (doLinearSet table atom value) := by
  rw [doLinearSet, require_of hat.1, ok_bind, require_of (h.length ▸ hat.2), ok_bind]
  refine ⟨by rw [length_set, h.length], fun i hi => ?_⟩
  rw [getElem?_set, h.value i hi, h.length]
  by_cases hk : (i : Int) = atom
  · rw [if_pos (by omega), if_pos (by omega), hk, Function.update_self]
  · rw [if_neg (by omega), Function.update_of_ne hk]

theorem run_alistSet {n : ℕ} {head : List (AlistNode α)} {table : List (Option α)}
    (hl : Linked head f)
    (ht : Linear table n f) {ops : List (Int × Option α)} (h : ∀ op ∈ ops, 0 ≤ op.1 ∧ op.1 < n) :
    Yields (Linear · n (lastSet ops f)) (run (fun t op => doLinearSet t op.1 op.2) table ops) ∧
      Yields (Linked · (lastSet ops f)) (run (fun l op => doLinkedSet l op.1 op.2) head ops) := by
  induction ops generalizing f table head with
  | nil => exact ⟨ht, hl⟩
  | cons op ops ih =>
    have hop := h op mem_cons_self
    obtain ⟨t, heq, ht⟩ := (doLinearSet_linear ht hop op.2).exists_ok
    obtain ⟨l, heq', hl⟩ := (doLinkedSet_linked hl hop.1 op.2).exists_ok
    rw [run_cons_ok heq, run_cons_ok heq']
    exact ih hl ht fun p hp => h p (mem_cons_of_mem op hp)

/-- **The two kinds of alists are interchangeable**: each has what was set last, or `NULL`; and a
linked one has no two nodes with the same atom, and no node with `NULL`. -/
theorem run_alistSet_get (n : ℕ) (ops : List (Int × Option α))
    (h : ∀ op ∈ ops, 0 ≤ op.1 ∧ op.1 < n) :
    let last := lastSet ops fun _ => none
    Yields (fun table => ∀ key : Int, 0 ≤ key → key < n → doLinearGet table key = .ok (last key))
        (run (fun t op => doLinearSet t op.1 op.2) (replicate n none) ops) ∧
      Yields (fun head => (∀ key : Int, 0 ≤ key → doLinkedGet head key = .ok (last key)) ∧
          head.NodupKeys ∧ ∀ p ∈ head, p.2 ≠ none)
        (run (fun l op => doLinkedSet l op.1 op.2) [] ops) := by
  have hini : Linear (replicate n (none : Option α)) n fun _ => none :=
    ⟨length_replicate, fun i hi => by simp [hi]⟩
  obtain ⟨ht, hl⟩ := run_alistSet ⟨nodupKeys_nil, fun _ => rfl⟩ hini h
  refine ⟨ht.mono fun table ht key hpos hlt => ?_, hl.mono fun head hl => ⟨fun key hpos => ?_,
    hl.nodup, fun p hp hno => ?_⟩⟩
  · obtain ⟨i, rfl⟩ := Int.eq_ofNat_of_zero_le hpos
    rw [doLinearGet, require_of hpos, ok_bind, require_of (ht.length ▸ hlt), ok_bind,
      Int.toNat_natCast, ht.value i (by omega)]
    rfl
  · rw [doLinkedGet, require_of hpos, ok_bind, hl.value]
    cases lastSet ops _ key <;> rfl
  · have hmem := mem_dlookup hl.nodup hp
    rw [hl.value, hno] at hmem
    simp at hmem

/-- Both, after a value has been replaced and another removed. -/
theorem run_alistSet_get_twice :
    let ops : List (Int × Option Char) := [(1, some 'a'), (0, some 'c'), (1, some 'b'), (0, none)]
    doLinearGet [none, some 'b'] 1 = .ok (lastSet ops (fun _ => none) 1) ∧
      doLinkedGet [⟨1, some 'b'⟩] 1 = .ok (lastSet ops (fun _ => none) 1) := by
  intro ops
  obtain ⟨hlinear, hlinked⟩ := run_alistSet_get 2 ops (by decide)
  exact ⟨hlinear 1 (by decide) (by decide), hlinked.1 1 (by decide)⟩

end Lsh
