
import Lsh.Library.Table
import Mathlib.Algebra.Order.Group.Multiset
import Mathlib.Data.Multiset.AddSub

/-!
# Numbered mailboxes over a FIFO link

Two parties send each other messages over FIFO links. The receiver of a link has numbers, and a
message may be addressed to one of them. For a number in use the receiver has a *phase*, which says
what messages are accepted for the number and what phase comes next; a number that is not in use
accepts nothing. The sender cannot see the phase. What it knows are *claims*: for each number, the
phases that some part of its state takes for granted, whether because of what it has received or
because of what is still on its way to it.

`Sound` says that both views agree: the messages that are on the way are all accepted, and the
phase after them is the one that the sender claims. The point is that receiving a message does not
change what it says about the future, so that only sending has to be justified, and only from what
the sender itself claims.

## Main results

* `Sound.send`, `Sound.send_none` — the sender adds a message and changes its claim accordingly
* `Sound.receive`, `Sound.receive_none` — the next message is accepted
* `Sound.fresh` — the receiver takes a number into use
* `Sound.map` — receiver and sender change what they say about a number at the same time
-/

namespace Mailbox

open List

variable {N P M : Type*}

/-- The messages: the number a message is addressed to, if any, and what it does to a phase. The
outer `none` is a message that is not accepted; the inner one ends the use of a number. -/
structure Protocol (N P M : Type*) where
  dest : M → Option N
  step : P → M → Option (Option P)

namespace Protocol

variable (pr : Protocol N P M)

/-- A number that is not in use accepts nothing. -/
def next : Option P → M → Option (Option P)
  | none, _ => none
  | some p, m => pr.step p m

/-- The phase after a list of messages. -/
def predict (φ : Option P) (q : List M) : Option (Option P) := q.foldlM pr.next φ

@[simp] theorem predict_nil (φ) : pr.predict φ [] = some φ := rfl

theorem predict_cons (φ m q) :
    pr.predict φ (m :: q) = (pr.next φ m).bind fun ψ => pr.predict ψ q := rfl

variable {q : List M} {ψ : Option P}

theorem predict_snoc {φ : Option P} (h : pr.predict φ q = some ψ) (m) :
    pr.predict φ (q ++ [m]) = pr.next ψ m := by
  rw [predict, foldlM_append]
  rw [predict] at h
  rw [h]
  simp

/-- What is not in use gets no messages. -/
theorem eq_nil_of_predict_none (h : pr.predict none q = some ψ) : q = [] ∧ ψ = none := by
  cases q with
  | nil => exact ⟨rfl, (Option.some.inj h).symm⟩
  | cons m q => cases h

variable [DecidableEq N]

/-- The messages to one number. -/
def inbox (n : N) (q : List M) : List M := q.filter fun m => pr.dest m = some n

theorem inbox_snoc (n q m) :
    pr.inbox n (q ++ [m]) = pr.inbox n q ++ if pr.dest m = some n then [m] else [] := by
  rw [inbox, filter_append]
  congr 1
  by_cases h : pr.dest m = some n <;> simp [h]

theorem inbox_cons (n q m) :
    pr.inbox n (m :: q) = if pr.dest m = some n then m :: pr.inbox n q else pr.inbox n q := by
  by_cases h : pr.dest m = some n <;> simp [inbox, h]

end Protocol

/-- The claims that are right for a phase. -/
def toClaims : Option P → Multiset P
  | none => 0
  | some p => {p}

/-- **Agreement**: all messages on the way are accepted, and the phase after them is what the
sender claims. -/
def Sound [DecidableEq N] (pr : Protocol N P M) (phase : N → Option P) (claims : N → Multiset P)
    (q : List M) : Prop :=
  ∀ n, ∃ φ, pr.predict (phase n) (pr.inbox n q) = some φ ∧ claims n = toClaims φ

namespace Sound

variable [DecidableEq N] {pr : Protocol N P M} {phase phase' : N → Option P}
  {claims claims' : N → Multiset P} {q : List M} {n : N} {p : P}

section
variable (h : Sound pr phase claims q)
include h

/-- Only the values of phases and claims matter. -/
theorem congr (hphase : ∀ n, phase' n = phase n)
    (hcms : ∀ n, claims' n = claims n) : Sound pr phase' claims' q := by
  intro n
  rw [hphase, hcms]
  exact h n

variable {m : M}

/-- **Sending**: a message that fits one of the claims of the sender, which changes accordingly. -/
theorem send {φ : Option P} (hde : pr.dest m = some n) (hsp : pr.step p m = some φ)
    (hmem : p ∈ claims n)
    (hcms : claims' n + {p} = claims n + toClaims φ)
    (hoth : ∀ n', n' ≠ n → claims' n' = claims n') :
    Sound pr phase claims' (q ++ [m]) := by
  intro n'
  obtain ⟨ψ, hprd, hψ⟩ := h n'
  rw [pr.inbox_snoc, hde]
  by_cases hn : n' = n
  · subst hn
    -- the only claim is the one that the message fits
    cases ψ with
    | none =>
      rw [hψ] at hmem
      exact absurd hmem (Multiset.notMem_zero p)
    | some p' =>
      have hp : p = p' := by
        rw [hψ] at hmem
        exact Multiset.mem_singleton.mp hmem
      subst hp
      refine ⟨φ, ?_, ?_⟩
      · rw [if_pos rfl, pr.predict_snoc hprd]
        exact hsp
      · rw [hψ, add_comm] at hcms
        exact add_left_cancel hcms
  · have hne : ¬some n = some n' := fun heq => hn (Option.some.inj heq).symm
    rw [if_neg hne, append_nil, hoth n' hn]
    exact ⟨ψ, hprd, hψ⟩

/-- Messages that are not addressed to a number are free. -/
theorem send_none (hde : pr.dest m = none) : Sound pr phase claims (q ++ [m]) := by
  intro n
  rw [pr.inbox_snoc, hde, if_neg nofun, append_nil]
  exact h n

end

/-- **Receiving**: the next message is accepted, and what is on the way after it is as before. -/
theorem receive (h : Sound pr phase claims (m :: q)) (hde : pr.dest m = some n) :
    ∃ φ, pr.next (phase n) m = some φ ∧
      ∀ phase', phase' n = φ → (∀ n', n' ≠ n → phase' n' = phase n') →
        Sound pr phase' claims q := by
  obtain ⟨ψ, hprd, hψ⟩ := h n
  rw [pr.inbox_cons, if_pos hde] at hprd
  obtain ⟨φ, hφ, hre⟩ := Option.bind_eq_some_iff.mp hprd
  refine ⟨φ, hφ, ?_⟩
  intro phase' hn hoth n'
  by_cases hn' : n' = n
  · subst hn'
    rw [hn]
    exact ⟨ψ, hre, hψ⟩
  · obtain ⟨ψ', hprd', hψ'⟩ := h n'
    have hne : ¬pr.dest m = some n' := by
      rw [hde]
      exact fun heq => hn' (Option.some.inj heq).symm
    rw [pr.inbox_cons, if_neg hne] at hprd'
    rw [hoth n' hn']
    exact ⟨ψ', hprd', hψ'⟩

theorem receive_none (h : Sound pr phase claims (m :: q)) (hde : pr.dest m = none) :
    Sound pr phase claims q := by
  intro n
  obtain ⟨ψ, hprd, hψ⟩ := h n
  rw [pr.inbox_cons, hde] at hprd
  exact ⟨ψ, hprd, hψ⟩

section
variable (h : Sound pr phase claims q)
include h

/-- **A number is taken into use**, and the sender will know. -/
theorem fresh (hn : phase n = none) (hn' : phase' n = some p)
    (hoth : ∀ n', n' ≠ n → phase' n' = phase n') (hcms : claims' n = claims n + {p})
    (hcms' : ∀ n', n' ≠ n → claims' n' = claims n') : Sound pr phase' claims' q := by
  intro n'
  obtain ⟨ψ, hprd, hψ⟩ := h n'
  by_cases heq : n' = n
  · subst heq
    rw [hn] at hprd
    obtain ⟨hibx, rfl⟩ := pr.eq_nil_of_predict_none hprd
    refine ⟨some p, ?_, ?_⟩
    · rw [hn', hibx, pr.predict_nil]
    · rw [hcms, hψ, toClaims, zero_add, toClaims]
  · rw [hoth n' heq, hcms' n' heq]
    exact ⟨ψ, hprd, hψ⟩

/-- There is one claim about a number at most. -/
theorem eq_of_mem {p' : P} (hp : p ∈ claims n) (hp' : p' ∈ claims n) : p = p' := by
  obtain ⟨φ, _, hφ⟩ := h n
  rw [hφ] at hp hp'
  cases φ with
  | none => exact absurd hp (Multiset.notMem_zero p)
  | some a => exact (Multiset.mem_singleton.mp hp).trans (Multiset.mem_singleton.mp hp').symm

/-- What is claimed is the phase after the messages on the way. -/
theorem predict_of_mem (hp : p ∈ claims n) :
    pr.predict (phase n) (pr.inbox n q) = some (some p) := by
  obtain ⟨φ, hprd, hφ⟩ := h n
  rw [hφ] at hp
  cases φ with
  | none => exact absurd hp (Multiset.notMem_zero p)
  | some a => rw [hprd, Multiset.mem_singleton.mp hp]

/-- Nothing is on the way to a number that is not in use. -/
theorem inbox_eq_nil (hn : phase n = none) : pr.inbox n q = [] ∧ claims n = 0 := by
  obtain ⟨φ, hprd, hφ⟩ := h n
  rw [hn] at hprd
  obtain ⟨hibx, rfl⟩ := pr.eq_nil_of_predict_none hprd
  exact ⟨hibx, hφ⟩

end

/-- **A phase and the claim about it change together**, by a function that does not interfere with
messages. -/
theorem map {f : P → P} (hf : ∀ p m φ, pr.step p m = some φ → pr.step (f p) m = some (φ.map f))
    (h : Sound pr phase claims q) (hphase : phase' n = (phase n).map f)
    (hcms : claims' n = (claims n).map f) (hoth : ∀ n', n' ≠ n → phase' n' = phase n')
    (hoth' : ∀ n', n' ≠ n → claims' n' = claims n') : Sound pr phase' claims' q := by
  have hprd (q : List M) (φ ψ : Option P) (hφ : pr.predict φ q = some ψ) :
      pr.predict (φ.map f) q = some (ψ.map f) := by
    induction q generalizing φ with
    | nil =>
      rw [pr.predict_nil] at hφ ⊢
      rw [Option.some.inj hφ]
    | cons m q ih =>
      rw [pr.predict_cons] at hφ ⊢
      obtain ⟨χ, hχ, hre⟩ := Option.bind_eq_some_iff.mp hφ
      have hnext : pr.next (φ.map f) m = some (χ.map f) := by
        cases φ with
        | none => cases hχ
        | some p => exact hf p m χ hχ
      rw [hnext]
      exact ih χ hre
  intro n'
  by_cases hn : n' = n
  · subst hn
    obtain ⟨φ, hφ, hclaim⟩ := h n'
    refine ⟨φ.map f, ?_, ?_⟩
    · rw [hphase]
      exact hprd _ _ _ hφ
    · rw [hcms, hclaim]
      cases φ with
      | none => rfl
      | some p => exact Multiset.map_singleton f p
  · rw [hoth n' hn, hoth' n' hn]
    exact h n'

end Sound

/-! ### Claims of the entries of a table -/

section Table

variable [DecidableEq N]

/-- What a claim about some number is for the number `n`. -/
def about (n : N) : Option (N × P) → Multiset P
  | none => 0
  | some (n', p) => if n' = n then {p} else 0

@[simp] theorem about_none (n) : about n (none : Option (N × P)) = 0 := rfl

theorem about_self (n : N) (p : P) : about n (some (n, p)) = {p} := if_pos rfl

theorem about_of_ne {n n' : N} (h : n' ≠ n) (p : P) : about n (some (n', p)) = 0 := if_neg h

/-- A claim changes, but not whom it is about. -/
theorem about_map (n : N) (f : P → P) (x : Option (N × P)) :
    about n (x.map fun y => (y.1, f y.2)) = (about n x).map f := by
  rcases x with _ | ⟨n', p⟩
  · rfl
  · by_cases h : n' = n
    · rw [h, Option.map_some, about_self, about_self, Multiset.map_singleton]
    · rw [Option.map_some, about_of_ne h, about_of_ne h, Multiset.map_zero]

theorem about_toClaims (n : N) (φ : Option P) : about n (φ.map fun p => (n, p)) = toClaims φ := by
  cases φ with
  | none => rfl
  | some p => exact about_self n p

variable {α : Type*} (f : α → Option (N × P)) {g : α → Option (N × P)}

/-- The claims of all entries about a number. -/
def tableClaims (l : List α) (n : N) : Multiset P := (l.map fun a => about n (f a)).sum

@[simp] theorem tableClaims_nil (n) : tableClaims f [] n = 0 := rfl

@[simp] theorem tableClaims_cons (a : α) (l) (n : N) :
    tableClaims f (a :: l) n = about n (f a) + tableClaims f l n := sum_cons

variable {l l' : List α}

/-- One entry is replaced. -/
theorem tableClaims_replaces {i : ℕ} {old : Option α} {new : α} (h : Table.Replaces l l' i old new)
    (n) :
    tableClaims f l' n + about n (old.bind f) = tableClaims f l n + about n (f new) := by
  have hsum := h.sum fun a => about n (f a)
  have hold : (old.toList.map fun a => about n (f a)).sum = about n (old.bind f) := by
    cases old with
    | none => rfl
    | some a => exact sum_singleton
  rw [hold] at hsum
  exact hsum

/-- Entries that claim the same. -/
theorem tableClaims_congr (hlen : l'.length = l.length)
    (h : ∀ (j : ℕ) (a b : α), l[j]? = some a → l'[j]? = some b → g b = f a) (n) :
    tableClaims g l' n = tableClaims f l n := by
  have hmap : l'.map (fun b => about n (g b)) = l.map fun a => about n (f a) := by
    refine ext_getElem (by simp [hlen]) fun j hj hj' => ?_
    rw [length_map] at hj hj'
    rw [getElem_map, getElem_map]
    rw [h j l[j] l'[j] (getElem?_eq_getElem hj') (getElem?_eq_getElem hj)]
  rw [tableClaims, tableClaims, hmap]

/-- What an entry claims is claimed. -/
theorem mem_tableClaims {a : α} {n : N} {p : P} (h : a ∈ l) (hp : f a = some (n, p)) :
    p ∈ tableClaims f l n := by
  induction l with
  | nil => cases h
  | cons x l ih =>
    rw [tableClaims_cons, Multiset.mem_add]
    rcases List.mem_cons.mp h with rfl | h
    · rw [hp, about_self]
      exact .inl (Multiset.mem_singleton_self p)
    · exact .inr (ih h)

/-- All claims change by the same function. -/
theorem tableClaims_map {t : P → P} (h : ∀ a ∈ l, g a = (f a).map fun y => (y.1, t y.2)) (n) :
    tableClaims g l n = (tableClaims f l n).map t := by
  induction l with
  | nil => rfl
  | cons a l ih =>
    rw [tableClaims_cons, tableClaims_cons, Multiset.map_add, h a mem_cons_self, about_map,
      ih fun b hb => h b (mem_cons_of_mem _ hb)]

end Table

end Mailbox
