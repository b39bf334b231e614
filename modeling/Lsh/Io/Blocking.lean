
import Lsh.Library.Octets

/-!
# Blocking writes

A model of `blocking_writev` of `lshd-connection.c`, for the vector of `write_packet`. The results
of the calls of `writev` are an argument. A number of octets is kept in an `int`; if that makes it
negative, `errno` is looked at, which is then left from an earlier call.

## Main results

* `blockingWritev_packet` — all octets are written once and in order, or those in front of an error
-/

namespace Lsh.Io

/-- What `writev` does. -/
inductive WritevResult where
  /-- `EINTR`. -/
  | interrupted
  /-- Any other error. -/
  | failed
  | wrote (n : ℕ)
  deriving DecidableEq, Repr

inductive WritevOutcome where
  /-- The value 1 is returned. -/
  | success
  /-- The value 0 is returned. -/
  | failure
  /-- There are no more results, and `writev` has been called. -/
  | waiting
  /-- An element behind the vector is read. -/
  | outOfRange
  deriving DecidableEq, Repr

open Octets WritevResult WritevOutcome List

/-- The vector without the first `done` octets. -/
def advance : List Octets → ℕ → Option (List Octets)
  | [], 0 => some []
  | [], _ + 1 => none
  | v :: iv, done =>
    if v.length ≤ done then advance iv (done - v.length) else some (v.drop done :: iv)

/-- Conversion to `int`. -/
def toInt (n : ℕ) : Int := Int.bmod n (2 ^ 32)

theorem toInt_eq {n : ℕ} (h : n < 2 ^ 31) : toInt n = n :=
  Int.bmod_eq_of_le (by omega) (by omega)

/-- `blocking_writev`, and the octets that the descriptor has accepted, after those in `sent`. The
first argument tells whether `errno` is `EINTR`. -/
def blockingWritev (eintr : Bool) (sent : Octets) :
    List Octets → List WritevResult → WritevOutcome × Octets
  | [], _ => (success, sent)
  | _ :: _, [] => (waiting, sent)
  | v :: iv, interrupted :: rs => blockingWritev true sent (v :: iv) rs
  | _ :: _, failed :: _ => (failure, sent)
  | v :: iv, wrote n :: rs =>
    let sent := sent ++ (v :: iv).flatten.take n
    let res := toInt n
    if res < 0 then if eintr then blockingWritev eintr sent (v :: iv) rs else (failure, sent)
    else
      match advance (v :: iv) res.toNat with
      | none => (outOfRange, sent)
      | some iv' => blockingWritev eintr sent iv' rs

/-- The vector of `write_packet`. -/
def packetVector (packet : Octets) : List Octets :=
  [writeUint32 0 ++ writeUint32 packet.length, packet]

/-- Results of writes of what is left, which is `left` octets at first: at least one octet, and a
number that an `int` can hold. -/
def Offered : ℕ → List WritevResult → Prop
  | 0, _ | _ + 1, [] => True
  | left + 1, wrote n :: rs => 0 < n ∧ n ≤ left + 1 ∧ n < 2 ^ 31 ∧ Offered (left + 1 - n) rs
  | left + 1, _ :: rs => Offered (left + 1) rs

/-- The number of writes. -/
def writes (rs : List WritevResult) : ℕ := rs.countP (· ∉ [interrupted, failed])

theorem advance_eq {done : ℕ} {iv : List Octets} (h : done ≤ iv.flatten.length) :
    ∃ iv', advance iv done = some iv' ∧ iv'.flatten = iv.flatten.drop done ∧
      (iv'.flatten = [] → iv' = []) := by
  induction iv generalizing done with
  | nil =>
    obtain rfl : done = 0 := by simpa using h
    exact ⟨[], rfl, by simp, fun _ => rfl⟩
  | cons v iv ih =>
    rw [advance]
    split_ifs with hv
    · obtain ⟨iv', heq, hfl, hnil⟩ := @ih (done - v.length) (by
        rw [flatten_cons, length_append] at h
        omega)
      refine ⟨iv', heq, ?_, hnil⟩
      rw [hfl, flatten_cons, drop_append, drop_of_length_le hv, nil_append]
    · refine ⟨_, rfl, ?_, fun hfl => absurd (congrArg List.length hfl) ?_⟩
      · rw [flatten_cons, flatten_cons, drop_append_of_le_length (by omega)]
      · simp
        omega

/-- What is written is in front of what there is to write, and a run that is still waiting has
written at least one octet with each write. -/
theorem blockingWritev_cases {iv : List (List UInt8)} {rs : List WritevResult}
    (hiv : iv.flatten = [] → iv = []) (h : Offered iv.flatten.length rs)
    (eintr sent) :
    let r := blockingWritev eintr sent iv rs
    r.2 <+: sent ++ iv.flatten ∧ (r = (success, sent ++ iv.flatten) ∨ r.1 = failure ∧ failed ∈ rs ∨
      r.1 = waiting ∧ sent.length + writes rs ≤ r.2.length ∧
        r.2.length < (sent ++ iv.flatten).length) := by
  induction rs generalizing iv eintr sent with
  | nil =>
    cases iv with
    | nil => exact ⟨by simp [blockingWritev], .inl (by simp [blockingWritev])⟩
    | cons v iv =>
      have hpos := List.length_pos_iff.mpr (mt hiv (by simp))
      exact ⟨prefix_append _ _, .inr (.inr ⟨rfl, Nat.le_refl _, by
        rw [length_append]; exact Nat.lt_add_of_pos_right hpos⟩)⟩
  | cons a rs ih =>
    cases iv with
    | nil => exact ⟨by simp [blockingWritev], .inl (by simp [blockingWritev])⟩
    | cons v iv =>
      obtain ⟨left, hl⟩ := Nat.exists_eq_add_one.mpr (List.length_pos_iff.mpr (mt hiv (by simp)))
      rw [hl] at h
      cases a with
      | interrupted =>
        have hw : writes (interrupted :: rs) = writes rs := by simp [writes]
        rw [blockingWritev, hw]
        simpa using ih hiv (hl ▸ h) true sent
      | failed => exact ⟨prefix_append _ _, .inr (.inl ⟨rfl, mem_cons_self⟩)⟩
      | wrote n =>
        obtain ⟨hpos, hle, hint, h⟩ := h
        obtain ⟨iv', hadv, hfl, hnil⟩ := advance_eq (hl ▸ hle)
        have hlen : iv'.flatten.length = left + 1 - n := by rw [hfl, length_drop, hl]
        have hall : sent ++ (v :: iv).flatten.take n ++ iv'.flatten =
            sent ++ (v :: iv).flatten := by
          rw [hfl, append_assoc, take_append_drop]
        obtain ⟨hpre, hr⟩ := ih hnil (hlen ▸ h) eintr (sent ++ (v :: iv).flatten.take n)
        rw [hall] at hpre hr
        have heq : blockingWritev eintr sent (v :: iv) (wrote n :: rs) =
            blockingWritev eintr (sent ++ (v :: iv).flatten.take n) iv' rs := by
          rw [blockingWritev]
          simp only [toInt_eq hint, Int.toNat_natCast, hadv, Int.not_ofNat_neg, if_false]
        rw [heq]
        refine ⟨hpre, hr.imp_right (Or.imp (And.imp_right (mem_cons_of_mem _))
          (And.imp_right (And.imp_left fun hw => ?_)))⟩
        rw [length_append, length_take_of_le (hl ▸ hle)] at hw
        have : writes (wrote n :: rs) = writes rs + 1 := by simp [writes]
        omega

/-- An error ends a run that is still waiting. -/
theorem blockingWritev_failed (eintr sent iv rs rs') :
    let r := blockingWritev eintr sent iv rs
    blockingWritev eintr sent iv (rs ++ failed :: rs') =
      if r.1 = waiting then (failure, r.2) else r := by
  induction rs generalizing eintr sent iv with
  | nil => cases iv <;> rfl
  | cons a rs ih =>
    cases iv with
    | nil => rfl
    | cons v iv =>
      cases a with
      | interrupted => exact ih true sent (v :: iv)
      | failed => rfl
      | wrote n =>
        simp only [cons_append, blockingWritev]
        split
        · split
          · exact ih _ _ _
          · rfl
        · split
          · rfl
          · exact ih _ _ _

/-- **A packet is written once and in order**: all of it, if there are no errors and no
interruptions without end, and otherwise what was written in front of the first error. -/
theorem blockingWritev_packet (packet : Octets) (eintr : Bool) (rs : List WritevResult)
    (h : Offered (8 + packet.length) rs) :
    let all := writeUint32 0 ++ writeUint32 packet.length ++ packet
    let r := blockingWritev eintr [] (packetVector packet) rs
    r.2 <+: all ∧ (failed ∉ rs → r.1 = waiting ∨ r = (success, all)) ∧
      (failed ∉ rs → 8 + packet.length ≤ writes rs → r = (success, all)) ∧
      ∀ rs', blockingWritev eintr [] (packetVector packet) (rs ++ failed :: rs') =
        if r.1 = waiting then (failure, r.2) else r := by
  intro all r
  have hall : (packetVector packet).flatten = all := by simp [packetVector, all]
  have hlen : all.length = 8 + packet.length := by simp [all]; omega
  have hnil : (packetVector packet).flatten = [] → packetVector packet = [] := by
    rw [hall, ← length_eq_zero_iff, hlen]
    omega
  obtain ⟨hpre, hr⟩ := blockingWritev_cases hnil (by rwa [hall, hlen]) eintr []
  rw [hall, nil_append] at hpre hr
  refine ⟨hpre, fun hf => ?_, fun hf hw => ?_, blockingWritev_failed eintr [] _ rs⟩
  · rcases hr with hr | ⟨-, hmem⟩ | ⟨hr, -⟩
    · exact .inr hr
    · exact absurd hmem hf
    · exact .inl hr
  · rcases hr with hr | ⟨-, hmem⟩ | ⟨-, hle, hlt⟩
    · exact hr
    · exact absurd hmem hf
    · rw [length_nil] at hle
      omega

theorem blockingWritev_packet_boundary :
    blockingWritev false [] (packetVector [7]) [wrote 8, interrupted, wrote 1] =
      (success, [0, 0, 0, 0, 0, 0, 0, 1, 7]) :=
  ((blockingWritev_packet [7] false [wrote 8, interrupted, wrote 1] (by simp [Offered])).2.1
    (by decide)).resolve_left (by decide)

/-- A count of `2 ^ 31` octets or more is taken for an error. -/
theorem blockingWritev_overflow :
    blockingWritev false [] (packetVector (List.replicate (2 ^ 31) 0)) [wrote (2 ^ 31 + 8)] =
      (failure, (packetVector (List.replicate (2 ^ 31) 0)).flatten) := by
  have heq (packet : Octets) (hlen : packet.length = 2 ^ 31) :
      blockingWritev false [] (packetVector packet) [wrote (2 ^ 31 + 8)] =
        (failure, (packetVector packet).flatten) := by
    have hneg : toInt (2 ^ 31 + 8) < 0 := by decide
    have htake : (packetVector packet).flatten.take (2 ^ 31 + 8) = (packetVector packet).flatten :=
      take_of_length_le (by simp [packetVector, hlen])
    rw [packetVector, blockingWritev] at *
    simp only [hneg, if_true, htake]
    rfl
  exact heq _ length_replicate

end Lsh.Io
