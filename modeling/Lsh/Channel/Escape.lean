
import Lsh.Channel.ClientSession

/-!
# Escape sequences and reads

What the user types is read in pieces, and `client_escape_process` looks ahead only inside a piece.
The result is still the same as for all octets at once: a piece that ends in the middle of an escape
sequence leaves that to the state. Both are compared with a function that takes one octet at a time.

## Main result

* `escapeReads_eq` — the pieces make no difference
-/

namespace Lsh.Channel

variable (escape : UInt8)

/-- What has been typed so far: the state, the octets that were copied, and the keys. -/
abbrev Typed := EscapeState × Octets × List UInt8

/-- The loop in `oop_read_stdin`, for one read. -/
def escapeRead : ℕ → Typed → Octets → Typed
  | 0, r, _ => r
  | fuel + 1, r, data =>
    if hdata : data = [] then r
    else
      let (state, copy, done, keys) := clientEscapeProcess escape r.1 data hdata
      escapeRead fuel (state, r.2.1 ++ data.take copy, r.2.2 ++ keys) (data.drop done)

/-- Read after read. -/
def escapeReads (r : Typed) (reads : List Octets) : Typed :=
  reads.foldl (fun r data => escapeRead escape data.length r data) r

/-- One octet. -/
def escapeOctet : Typed → UInt8 → Typed
  | (.gotEscape, copied, keys), c =>
    (.gotNone, copied ++ [c].take (escapeDispatch escape c), keys ++ escapeKeys escape c)
  | (state, copied, keys), c =>
    if state = .gotNewline ∧ c = escape then (.gotEscape, copied, keys)
    else (if newlinep c then .gotNewline else .gotNone, copied ++ [c], keys)

/-- The first `done` octets have been dealt with, and the first `copy` of them are copied. -/
structure Processed (state : EscapeState) (s : Octets) (r : EscapeState × ℕ × ℕ × List UInt8) :
    Prop where
  copy_le : r.2.1 ≤ r.2.2.1
  done_le : r.2.2.1 ≤ s.length
  done_pos : s ≠ [] → 0 < r.2.2.1
  foldl_eq : ∀ copied keys, (s.take r.2.2.1).foldl (escapeOctet escape) (state, copied, keys) =
    (r.1, copied ++ s.take r.2.1, keys ++ r.2.2.2)

variable {escape} {state : EscapeState}

/-- An octet is copied before the others. -/
theorem Processed.cons {next : EscapeState} {s : Octets} {state' : EscapeState} {copy done : ℕ}
    {keys : List UInt8} (h : Processed escape next s (state', copy, done, keys))
    (hc : ∀ copied keys, escapeOctet escape (state, copied, keys) c = (next, copied ++ [c], keys)) :
    Processed escape state (c :: s) (state', copy + 1, done + 1, keys) where
  copy_le := Nat.succ_le_succ h.copy_le
  done_le := Nat.succ_le_succ h.done_le
  done_pos _ := Nat.succ_pos _
  foldl_eq copied keys := by
    simp [hc, h.foldl_eq]

theorem escapeDispatch_le (escape c) : escapeDispatch escape c ≤ 1 := by
  rw [escapeDispatch]
  split_ifs <;> omega

/-- The escape character and a key. -/
theorem Processed.sequence (d s) :
    Processed escape .gotNewline (escape :: d :: s)
      (.gotNone, escapeDispatch escape d, 2, escapeKeys escape d) := by
  have hle := escapeDispatch_le escape d
  refine ⟨by dsimp only; omega, by simp, fun _ => by simp, fun copied keys => ?_⟩
  by_cases hd : d = escape <;> simp [escapeOctet, escapeDispatch, escapeKeys, hd]

/-- The escape character at the end. -/
theorem Processed.pending : Processed escape .gotNewline [escape] (.gotEscape, 0, 1, []) := by
  refine ⟨by simp, by simp, fun _ => by simp, fun copied keys => ?_⟩
  simp [escapeOctet]

/-- **The loop**, in a state that does not make the next octet the escape character. -/
theorem escapeScan_processed {s : List UInt8} (i)
    (h : state = .gotNone ∨ state = .gotNewline ∧ ∃ c s', s = c :: s' ∧ c ≠ escape) :
    ∃ next copy done keys, escapeScan escape i s = (next, i + copy, i + done, keys) ∧
      Processed escape state s (next, copy, done, keys) := by
  induction s generalizing i state with
  | nil =>
    obtain rfl | ⟨-, _, _, hs, -⟩ := h
    · exact ⟨.gotNone, 0, 0, [], rfl, by simp, by simp, by simp, by simp⟩
    · cases hs
  | cons c s ih =>
    -- the first octet is copied, and the state after it depends on whether it is a newline
    have hc (copied : Octets) (keys : List UInt8) : escapeOctet escape (state, copied, keys) c =
        (if newlinep c then .gotNewline else .gotNone, copied ++ [c], keys) := by
      obtain rfl | ⟨rfl, _, _, hs, hne⟩ := h
      · simp [escapeOctet]
      · cases hs
        simp [escapeOctet, hne]
    have hgoOn {next : EscapeState}
        (hnext : (if newlinep c then EscapeState.gotNewline else .gotNone) =
        next) (hst : next = .gotNone ∨ next = .gotNewline ∧ ∃ d s', s = d :: s' ∧ d ≠ escape) :
        ∃ last copy done keys, escapeScan escape (i + 1) s = (last, i + copy, i + done, keys) ∧
          Processed escape state (c :: s) (last, copy, done, keys) := by
      obtain ⟨last, copy, done, keys, heq, hs⟩ := ih (i + 1) hst
      refine ⟨last, copy + 1, done + 1, keys, ?_, hs.cons fun copied keys => ?_⟩
      · simp [heq, Nat.add_assoc, Nat.add_comm 1]
      · rw [hc, hnext]
    rw [escapeScan.eq_def]
    dsimp only
    by_cases hnl : newlinep c
    · rw [if_pos hnl]
      simp only [hnl, if_true] at hc
      cases s with
      | nil =>
        refine ⟨.gotNewline, 1, 1, [], rfl,
          by simp, by simp, fun _ => by simp, fun copied keys => ?_⟩
        simp [hc]
      | cons d s =>
        dsimp only
        by_cases hd : d = escape
        · subst hd
          rw [if_pos rfl]
          cases s with
          | nil => exact ⟨_, 1, 2, [], rfl, Processed.pending.cons hc⟩
          | cons e s =>
            refine ⟨_, escapeDispatch d e + 1, 3, _, ?_, (Processed.sequence e s).cons hc⟩
            simp [Nat.add_assoc, Nat.add_comm 1]
        · rw [if_neg hd]
          exact hgoOn (if_pos hnl) (.inr ⟨rfl, d, s, rfl, hd⟩)
    · rw [if_neg hnl]
      exact hgoOn (if_neg hnl) (.inl rfl)

/-- `client_escape_process`. -/
theorem clientEscapeProcess_processed (state c s) :
    Processed escape state (c :: s)
      (clientEscapeProcess escape state (c :: s) (List.cons_ne_nil c s)) := by
  have hscan (h : state = .gotNone ∨ state = .gotNewline ∧ ∃ d s', c :: s = d :: s' ∧ d ≠ escape) :
      Processed escape state (c :: s) (escapeScan escape 0 (c :: s)) := by
    obtain ⟨next, copy, done, keys, heq, hs⟩ := escapeScan_processed 0 h
    rw [heq, Nat.zero_add, Nat.zero_add]
    exact hs
  cases state with
  | gotNone => exact hscan (.inl rfl)
  | gotNewline =>
    rw [clientEscapeProcess.eq_def]
    dsimp only
    split_ifs with hc
    · subst hc
      cases s with
      | nil => exact Processed.pending
      | cons d s => exact Processed.sequence d s
    · exact hscan (.inr ⟨rfl, c, s, rfl, hc⟩)
  | gotEscape =>
    refine ⟨escapeDispatch_le escape c, by simp [clientEscapeProcess], fun _ => one_pos, ?_⟩
    by_cases hc : c = escape <;>
      simp [clientEscapeProcess, escapeOctet, escapeDispatch, escapeKeys, hc]

/-- A read is taken octet by octet. -/
theorem escapeRead_eq {fuel : ℕ} {data : Octets} (h : data.length ≤ fuel) (r) :
    escapeRead escape fuel r data = data.foldl (escapeOctet escape) r := by
  induction fuel generalizing r data with
  | zero =>
    rw [List.length_eq_zero_iff.mp (Nat.le_zero.mp h)]
    rfl
  | succ fuel ih =>
    cases data with
    | nil => rfl
    | cons c s =>
      obtain ⟨st, copied, keys⟩ := r
      have hcall := @clientEscapeProcess_processed escape st c s
      rw [escapeRead, dif_neg (List.cons_ne_nil c s)]
      generalize clientEscapeProcess escape st (c :: s) _ = p at hcall ⊢
      have hpos := hcall.done_pos (by simp)
      have hre : ((c :: s).drop p.2.2.1).length ≤ fuel := by
        rw [List.length_drop]
        omega
      dsimp only
      rw [ih hre, ← hcall.foldl_eq, ← List.foldl_append, List.take_append_drop]

/-- **The pieces make no difference**, and each call deals with some of its octets. -/
theorem escapeReads_eq (escape : UInt8) (reads : List Octets) :
    escapeReads escape (.gotNone, [], []) reads =
        escapeRead escape reads.flatten.length (.gotNone, [], []) reads.flatten ∧
      ∀ state c s, let (_, copy, done, _) :=
          clientEscapeProcess escape state (c :: s) (List.cons_ne_nil c s)
        copy ≤ done ∧ 1 ≤ done ∧ done ≤ (c :: s).length := by
  constructor
  · rw [escapeRead_eq le_rfl, List.foldl_flatten, escapeReads]
    congr 1
    funext r data
    exact escapeRead_eq le_rfl r
  · intro state c s
    have hcall := @clientEscapeProcess_processed escape state c s
    exact ⟨hcall.copy_le, hcall.done_pos (by simp), hcall.done_le⟩

end Lsh.Channel
