
import Lsh.Library.Machine

/-!
# Loops that are left from inside

A loop of the form `for (;;) { … }` has a body that goes round once more with a new state, or leaves
the loop with a result, or fails. `loop` runs such a body for a bounded number of rounds, and
running out of rounds is a failure of its own. Total correctness is `loop_ensures`: an invariant,
and a measure that decreases in every round, bound the number of rounds. `loop_diverges` is the rule
for the other case: a body that goes round from every state with the invariant never leaves the
loop.
-/

namespace Machine

universe u

variable {ε : Type*} {σ β : Type u}

/-- Run the body for at most `n` rounds. Running out of rounds is the failure `e`. -/
def loop (body : σ → Except ε (σ ⊕ β)) (e : ε) : ℕ → σ → Except ε β
  | 0, _ => .error e
  | n + 1, s => body s >>= fun r =>
    match r with
    | .inl s => loop body e n s
    | .inr b => .ok b

variable {body : σ → Except ε (σ ⊕ β)} {E : ε → Prop} {e : ε}

/-- What a round ensures: the loop is left with `Q`, or goes on with the invariant and a smaller
measure. -/
def Round (Inv : σ → Prop) (measure : σ → ℕ) (Q : β → Prop) (s : σ) : σ ⊕ β → Prop
  | .inl s' => Inv s' ∧ measure s' < measure s
  | .inr b => Q b

variable {Q : β → Prop} {s : σ} {Inv : σ → Prop} {measure : σ → ℕ}

/-- **Total correctness.** With more rounds than the measure says, the loop is left. -/
theorem loop_ensures {n : ℕ} (measure)
    (hbo : ∀ s, Inv s → Ensures E (Round Inv measure Q s) (body s))
    (hs : Inv s) (hn : measure s < n) : Ensures E Q (loop body e n s) := by
  induction n generalizing s with
  | zero => omega
  | succ n ih =>
    refine Ensures.bind (hbo s hs) ?_
    rintro (s' | b) hr
    · obtain ⟨hs', hlt⟩ := hr
      exact ih hs' (by omega)
    · exact hr

/-- **Partial correctness.** If the loop is left, then with `Q`. -/
theorem loop_ensures_partial (hbo : ∀ s, Inv s → Ensures E (Sum.elim Inv Q) (body s)) (he : E e) (n)
    (hs : Inv s) :
    Ensures E Q (loop body e n s) := by
  induction n generalizing s with
  | zero => exact he
  | succ n ih =>
    refine Ensures.bind (hbo s hs) ?_
    rintro (s' | b) hr
    · exact ih hr
    · exact hr

/-- **Divergence.** A body that always goes round is not left. -/
theorem loop_diverges (hbo : ∀ s, Inv s → ∃ s', body s = .ok (.inl s') ∧ Inv s') (n) (hs : Inv s) :
    loop body e n s = .error e := by
  induction n generalizing s with
  | zero => rfl
  | succ n ih =>
    obtain ⟨s', hsp, hs'⟩ := hbo s hs
    rw [loop, hsp]
    exact ih hs'

end Machine
