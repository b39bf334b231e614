
import Mathlib.Data.Nat.Notation
import Mathlib.Logic.Basic

/-!
# Machines that may fail

A machine is a step function from a state and an input to a new state, or to a failure after
which nothing more happens. Safety is stated over whole runs: a run is a list of inputs, and a
guard restricts which inputs may arrive in which state.

A step is usually a sequence of checks and updates in `Except`. `require` is one check, and
`Ensures E P` is the postcondition of a computation: a result satisfies `P` and a failure
satisfies `E`. With `E` false it says that the computation does not fail.

`run_of_guarded` is the only induction over runs that a safety proof needs. The remaining work
is about one step: an invariant, and that every guarded step from it succeeds and keeps it.
-/

namespace Machine

open List

/-! ### Checks -/

section Checks

universe u

variable {ε : Type*} {α β : Type u} {x : Except ε α}

/-- Fail with `e` unless the condition holds. -/
def require {ε : Type*} (p : Prop) [Decidable p] (e : ε) : Except ε PUnit.{u + 1} :=
  if p then .ok ⟨⟩ else .error e

@[simp] theorem ok_bind (a) (f : α → Except ε β) : (Except.ok a >>= f) = f a := rfl

@[simp] theorem error_bind (e) (f : α → Except ε β) :
    ((Except.error e : Except ε α) >>= f) = .error e := rfl

theorem bind_eq_ok {f : α → Except ε β} {b : β} :
    (x >>= f) = .ok b ↔ ∃ a, x = .ok a ∧ f a = .ok b := by
  cases x <;> simp

@[simp] theorem require_of [Decidable p] (h : p) (e) :
    (require p e : Except ε PUnit.{u + 1}) = .ok ⟨⟩ := if_pos h

theorem require_of_not [Decidable p] (h : ¬p) (e) :
    (require p e : Except ε PUnit.{u + 1}) = .error e := if_neg h

/-- A result satisfies `P` and a failure satisfies `E`. -/
def Ensures (E : ε → Prop) (P : α → Prop) : Except ε α → Prop
  | .ok a => P a
  | .error e => E e

/-- A result satisfies `P`, if there is one. -/
abbrev Returns (P : α → Prop) (x : Except ε α) : Prop := Ensures (fun _ => True) P x

/-- The computation does not fail, and the property holds of its result. -/
abbrev Yields (P : α → Prop) (x : Except ε α) : Prop := Ensures (fun _ => False) P x

variable {E : ε → Prop} {P : α → Prop} {a : α}

@[simp] theorem ensures_ok : Ensures E P (.ok a) ↔ P a := Iff.rfl

@[simp] theorem ensures_pure : Ensures E P (pure a : Except ε α) ↔ P a := Iff.rfl

section
variable (hx : Ensures E P x)
include hx

/-- Sequencing: what the first part ensures is what the second part may assume. -/
theorem Ensures.bind {Q : β → Prop} {f : α → Except ε β} (hf : ∀ a, P a → Ensures E Q (f a)) :
    Ensures E Q (x >>= f) := by
  cases x with
  | ok a => exact hf a hx
  | error e => exact hx

variable {P' : α → Prop}

theorem Ensures.mono (h : ∀ a, P a → P' a) : Ensures E P' x := by
  cases x with
  | ok a => exact h a hx
  | error e => exact hx

/-- Weaker conditions on results and on failures. -/
theorem Ensures.imp {E' : ε → Prop} (hE : ∀ e, E e → E' e) (hP : ∀ a, P a → P' a) :
    Ensures E' P' x := by
  cases x with
  | ok a => exact hP a hx
  | error e => exact hE e hx

theorem Ensures.map {Q : β → Prop} {f : α → β} (h : ∀ a, P a → Q (f a)) :
    Ensures E Q (f <$> x) := by
  cases x with
  | ok a => exact h a hx
  | error e => exact hx

/-- Two facts about results; one of them also excludes failures. -/
theorem Ensures.and (hx' : Ensures (fun _ => True) P' x) : Ensures E (fun a => P a ∧ P' a) x := by
  cases x with
  | ok a => exact ⟨hx, hx'⟩
  | error e => exact hx

end

/-- A computation that does not fail ensures its postcondition whatever failures are allowed. -/
theorem Ensures.of_total (hx : Ensures (fun _ => False) P x) : Ensures E P x := by
  cases x with
  | ok a => exact hx
  | error e => exact hx.elim

/-- Failures under another name. -/
theorem Ensures.mapError {δ : Type*} {x : Except δ α} {f : δ → ε}
    (hx : Ensures (fun d => E (f d)) P x) : Ensures E P (x.mapError f) := by
  cases x with
  | ok a | error d => exact hx

theorem Ensures.exists_ok (hx : Ensures (fun _ => False) P x) : ∃ a, x = .ok a ∧ P a := by
  cases x with
  | ok a => exact ⟨a, rfl, hx⟩
  | error e => exact hx.elim

/-- Whether a computation fails in a given way can be found out by doing it. -/
instance decidableEqError [DecidableEq ε] (x : Except ε α) (e : ε) : Decidable (x = .error e) :=
  match x with
  | .ok _ => isFalse nofun
  | .error e' => decidable_of_iff (e' = e) (by simp)

theorem ensures_true (x : Except ε α) : Ensures (fun _ => True) (fun _ => True) x := by
  cases x <;> trivial

/-- A result that has been checked by evaluation. -/
theorem exists_ok_of_any {p : α → Bool} (h : x.toOption.any p) : ∃ a, x = .ok a ∧ p a := by
  cases x with
  | ok a => exact ⟨a, rfl, h⟩
  | error e => cases h

end Checks

/-! ### Runs -/

variable {σ α ε : Type*} {step : σ → α → Except ε σ} {as : List α} {G : σ → α → Prop}

/-- Feed a list of inputs to the machine, stopping at the first failure. -/
def run (step : σ → α → Except ε σ) : σ → List α → Except ε σ
  | s, [] => .ok s
  | s, a :: as =>
    match step s a with
    | .ok s' => run step s' as
    | .error e => .error e

/-- Every input of the list meets the guard in the state in which it arrives. -/
def Guarded (step : σ → α → Except ε σ) (G : σ → α → Prop) : σ → List α → Prop
  | _, [] => True
  | s, a :: as => G s a ∧ ∀ s', step s a = .ok s' → Guarded step G s' as

/-- Whether a run is guarded can be found out by doing it. -/
instance decidableGuarded (step : σ → α → Except ε σ) (G : σ → α → Prop)
    [∀ s a, Decidable (G s a)] (s : σ) (as : List α) : Decidable (Guarded step G s as) :=
  match as with
  | [] => isTrue trivial
  | a :: as =>
    match h : step s a with
    | .ok s' =>
      have := decidableGuarded step G s' as
      decidable_of_iff (G s a ∧ Guarded step G s' as) (by simp [Guarded, h])
    | .error _ => decidable_of_iff (G s a) (by simp [Guarded, h])

variable {s s' : σ}

theorem run_cons_ok (h : step s a = .ok s') (as) : run step s (a :: as) = run step s' as := by
  rw [run, h]

theorem run_cons_error {e : ε} (h : step s a = .error e) (as) :
    run step s (a :: as) = .error e := by
  rw [run, h]

theorem run_singleton (s a) : run step s [a] = step s a := by
  rw [run]
  cases step s a <;> rfl

theorem run_append (h : run step s as = .ok s') (bs) : run step s (as ++ bs) = run step s' bs := by
  induction as generalizing s with
  | nil => cases h; rfl
  | cons a as ih =>
    cases hs : step s a with
    | ok t => rw [cons_append, run_cons_ok hs]; exact ih (by rwa [run_cons_ok hs] at h)
    | error e => rw [run_cons_error hs] at h; cases h

/-- The same input again and again, with a property that says how often it has been. -/
theorem run_replicate {P : ℕ → σ → Prop} {a : α} {n : ℕ}
    (hsp : ∀ i < n, ∀ s, P i s → ∃ s', step s a = .ok s' ∧ P (i + 1) s') {s : σ} (hs : P 0 s) :
    ∃ s', run step s (List.replicate n a) = .ok s' ∧ P n s' := by
  induction n generalizing s P with
  | zero => exact ⟨s, rfl, hs⟩
  | succ n ih =>
    obtain ⟨t, ht, hP⟩ := hsp 0 (Nat.zero_lt_succ n) s hs
    rw [replicate_succ, run_cons_ok ht]
    exact ih (P := fun i => P (i + 1)) (fun i hi => hsp (i + 1) (Nat.succ_lt_succ hi)) hP

/-- A guard that the inputs meet in every state. -/
theorem guarded_of_forall (h : ∀ a ∈ as, ∀ s, G s a) (s) : Guarded step G s as := by
  induction as generalizing s with
  | nil => trivial
  | cons a as ih =>
    exact ⟨h a mem_cons_self s, fun s' _ => ih (fun b hb => h b (mem_cons_of_mem _ hb)) s'⟩

/-- **Safety over runs.** If every guarded step from a state with the invariant ends in one, or
fails in a tolerated way, then so does every guarded run. -/
theorem run_of_guarded {E : ε → Prop} {Inv : σ → Prop}
    (hsp : ∀ s a, Inv s → G s a → Ensures E Inv (step s a))
    (hs : Inv s) (hg : Guarded step G s as) : Ensures E Inv (run step s as) := by
  induction as generalizing s with
  | nil => exact hs
  | cons a as ih =>
    have h := hsp s a hs hg.1
    cases ha : step s a with
    | ok s' =>
      rw [ha] at h
      rw [run_cons_ok ha]
      exact ih h (hg.2 s' ha)
    | error e =>
      rw [ha] at h
      rw [run_cons_error ha]
      exact h

end Machine
