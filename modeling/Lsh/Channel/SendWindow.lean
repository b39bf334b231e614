
import Lsh.Channel.Handlers

/-!
# The send window

The window for what may be sent is set when a channel is opened. WINDOW_ADJUST adds to it, and data
is taken from it. The sum is kept in 32 bits and nobody looks whether it fits. So the window is
exact as long as the other end does not grant more than `2 ^ 32 - 1` octets at a time. Otherwise the
window gets smaller, and if it gets to zero the program is not told that it may send again.

## Main results

* `run_windowStep_exact` — the window is what was granted less what was sent
* `windowStep_wraps` — an increment that makes the window smaller, and one that stops the channel
-/

namespace Lsh.Channel

open Machine Wire

variable {κ : Type} {c d : SshConnection κ} {n : UInt32} {x y : SshChannel κ}

/-- What happens to the send window of a channel. -/
inductive WindowEvent where
  | adjust (size : UInt32)
  | transmit (data : LshString)
  | transmitExtended (type : UInt32) (data : LshString)

namespace WindowEvent

/-- The credit in an event. -/
def granted : WindowEvent → ℕ
  | adjust size => size.toNat
  | _ => 0

/-- The octets that are sent. -/
def spent : WindowEvent → ℕ
  | adjust _ => 0
  | transmit data => data.1.length
  | transmitExtended _ data => data.1.length

end WindowEvent

/-- The packet of a WINDOW_ADJUST message. -/
def adjustPacket (n size : UInt32) : Octets := formatUint32 n ++ formatUint32 size

/-- One event for the channel with the number `n`. -/
def windowStep (n : UInt32) (c : SshConnection κ) : WindowEvent →
    Except ChannelError (SshConnection κ)
  | .adjust size => Received.connection <$> handleAdjustWindow c (adjustPacket n size)
  | .transmit data => channelTransmitData c n.toNat data
  | .transmitExtended type data => channelTransmitExtended c n.toNat type data

/-- A channel is opened with a window, by a CONFIRMATION message or for an OPEN message. -/
inductive OpensWith (c : SshConnection κ) (n window : UInt32) : SshConnection κ → Prop where
  | confirmation {s : Octets} {remote maxPacket : UInt32} {r : Received κ}
      (hparse : parseOpenConfirmation s = some (n, remote, window, maxPacket))
      (h : handleOpenConfirm c s = .ok r) : OpensWith c n window r.connection
  | confirm {remote maxPacket : UInt32} {new : NewChannel κ} {d : SshConnection κ}
      (hs : c.slots[n.toNat]? = some ⟨.receivedOpen, none, some ⟨remote, window, maxPacket⟩⟩)
      (h : channelOpenConfirm c n.toNat new = .ok d) : OpensWith c n window d

/-- An open channel on which data may be sent. -/
structure Sending (c : SshConnection κ) (n : UInt32) (x : SshChannel κ) :
    Prop extends TableInv c where
  isOpen : IsOpen c n x
  receivedClose : x.flags.receivedClose = false
  sentClose : x.flags.sentClose = false
  sentEof : x.flags.sentEof = false

/-- There is room for an increment. -/
def HasRoom (n : UInt32) (c : SshConnection κ) : WindowEvent → Prop
  | .adjust size => ∀ x ∈ channelAt c n.toNat, x.sendWindowSize.toNat + size.toNat < 2 ^ 32
  | _ => True

instance (n : UInt32) (c : SshConnection κ) (e : WindowEvent) : Decidable (HasRoom n c e) := by
  cases e <;> unfold HasRoom <;> infer_instance

/-- The object of an open channel is changed. -/
theorem IsOpen.acts {a : ChannelAction κ} (h : IsOpen c n x) (ha : Acts c (.channel n.toNat a) d) :
    IsOpen d n (a.effect x) := by
  obtain ⟨slot, hs, hst, hch⟩ := h
  cases ha with
  | channel _ hs' hch' =>
    rw [hs] at hs'
    cases hs'
    rw [hch] at hch'
    cases hch'
    refine ⟨{ slot with channel := some (a.effect x) }, ?_, hst, rfl⟩
    rw [emit, setChannel_eq hs]
    exact (Table.Replaces.of_set hs _).getElem?_self

/-- The window is the one of the message. -/
theorem OpensWith.sending {window : UInt32} (h : TableInv c) (hops : OpensWith c n window d) :
    ∃ x, Sending d n x ∧ x.sendWindowSize = window := by
  cases hops with
  | @confirmation s remote maxPacket r hparse hr =>
    have hens := handleOpenConfirm_ensures h hparse
    rw [hr] at hens
    obtain ⟨-, -, ⟨x, hx⟩, hacts⟩ := hens
    have htab := h.acts hacts
    obtain ⟨hat, -, hfl⟩ := hx.unused h
    generalize r.connection = d at hacts htab ⊢
    cases hacts with
    | receiveConfirmation _ _ _ hs hst hch =>
      rw [channelAt_eq_some hs hch] at hat
      cases hat
      exact ⟨_, ⟨htab, ⟨_, (Table.Replaces.of_set hs _).getElem?_self, rfl, rfl⟩,
        hfl.receivedClose, hfl.sentClose, hfl.sentEof⟩, rfl⟩
  | @confirm remote maxPacket new d hs hd =>
    have hacts := channelOpenConfirm_acts n.toNat new (c := c)
    rw [hd] at hacts
    have htab := h.acts hacts
    cases hacts with
    | confirm _ hs' =>
      rw [hs] at hs'
      cases hs'
      exact ⟨_, ⟨htab, ⟨_, (Table.Replaces.of_set hs _).getElem?_self, rfl, rfl⟩, rfl, rfl, rfl⟩,
        rfl⟩

section
variable (h : Sending c n x)
include h

/-- An action that leaves the flags alone. -/
theorem Sending.acts {a : ChannelAction κ} (ha : Acts c (.channel n.toNat a) d)
    (hfl : (a.effect x).flags = x.flags) : Sending d n (a.effect x) := by
  refine ⟨h.toTableInv.acts ha, h.isOpen.acts ha, ?_, ?_, ?_⟩ <;> rw [hfl]
  exacts [h.receivedClose, h.sentClose, h.sentEof]

/-- The window grows by an increment, and the program is told about it. -/
def Grows (c : SshConnection κ) (n size : UInt32) (x : SshChannel κ) : Prop :=
  ∃ r y, handleAdjustWindow c (adjustPacket n size) = .ok r ∧ Sending r.connection n y ∧
    y.sendWindowSize.toNat = x.sendWindowSize.toNat + size.toNat ∧
    (x.sendAdjust → size ≠ 0 → r.callback = some (.sendAdjust n.toNat size))

/-- WINDOW_ADJUST is accepted. -/
theorem Sending.grows (size) (hrm : x.sendWindowSize.toNat + size.toNat < 2 ^ 32) :
    Grows c n size x := by
  have hsum : (x.sendWindowSize + size).toNat = x.sendWindowSize.toNat + size.toNat := by
    rw [UInt32.toNat_add, Nat.mod_eq_of_lt hrm]
  obtain ⟨found, hlk, hfnd⟩ := (lookupChannel_active h.toTableInv n).exists_ok
  obtain rfl : found = some x := by
    cases found with
    | none => exact absurd h.isOpen (hfnd x)
    | some y => rw [h.isOpen.unique hfnd]
  have hacts : Acts c (.channel n.toNat (.receiveAdjust size)) _ :=
    Acts.of_receive h.isOpen ⟨h.receivedClose, h.sentClose, h.sentEof⟩ rfl rfl
  refine ⟨⟨_, if x.sendWindowSize + size ≠ 0 ∧ x.sendAdjust then some (.sendAdjust n.toNat size)
    else none, .done⟩, _, ?_, h.acts hacts rfl, hsum, fun hadj hsize => ?_⟩
  · rw [handleAdjustWindow, adjustPacket, parseWindowAdjust_format]
    simp only [hlk, ok_bind, h.receivedClose, h.sentClose, h.sentEof]
    rfl
  · have hne : x.sendWindowSize + size ≠ 0 := by
      rw [ne_eq, ← UInt32.toNat_inj, hsum]
      rw [ne_eq, ← UInt32.toNat_inj] at hsize
      simp only [UInt32.toNat_zero] at hsize ⊢
      omega
    exact if_pos ⟨hne, hadj⟩

/-- Data is taken from the window. -/
theorem channelTransmit_exact {data : LshString} {f : UInt32 → LshString → Message} (type)
    (hf : ChannelAction.message (.transmit type data) x = some (f · data)) :
    Ensures (fun e => e = .assertion .transmit) (fun d => ∃ y, Sending d n y ∧
      y.sendWindowSize.toNat + data.1.length = x.sendWindowSize.toNat)
      (channelTransmit c n.toNat data f) := by
  have hat := h.isOpen.channelAt_eq
  obtain ⟨m, hm⟩ := Option.isSome_iff_exists.mp (h.isOpen.remote_isSome h.toTableInv)
  rw [channelTransmit, getChannel, hat, ok_bind]
  by_cases hft : LshString.length data ≤ x.sendWindowSize ∧ LshString.length data ≤ x.sendMaxPacket
  · have hguard : ChannelAction.Guard (.transmit type data) x := hft
    let y := ChannelAction.effect (.transmit type data) x
    have hacts := writeChannel_acts hat hguard id hf
    have hlen : (LshString.length data).toNat = data.1.length := UInt32.toNat_ofNat_of_lt' data.2
    have hle := UInt32.le_iff_toNat_le.mp hft.1
    rw [writeChannel, ChannelAction.effect_remoteChannelNumber, hm, ensures_ok] at hacts
    rw [require_of hft, ok_bind]
    show Ensures _ _ (writeChannel (setChannel c n.toNat y) y _)
    rw [writeChannel, ChannelAction.effect_remoteChannelNumber, hm]
    refine ⟨y, h.acts hacts rfl, ?_⟩
    show (x.sendWindowSize - LshString.length data).toNat + _ = _
    rw [UInt32.toNat_sub_of_le _ _ hft.1]
    omega
  · rw [require_of_not hft]
    rfl

/-- **One event.** Only sending too much fails. -/
theorem windowStep_exact {e : WindowEvent} (hrm : HasRoom n c e) :
    Ensures (fun e => e = .assertion .transmit) (fun d => ∃ y, Sending d n y ∧
      y.sendWindowSize.toNat + e.spent = x.sendWindowSize.toNat + e.granted)
      (windowStep n c e) := by
  cases e with
  | adjust size =>
    obtain ⟨r, y, hr, hy, heq, -⟩ := h.grows size (hrm x h.isOpen.channelAt_eq)
    rw [windowStep, hr]
    exact ⟨y, hy, heq⟩
  | transmit data => exact channelTransmit_exact h none rfl
  | transmitExtended type data => exact channelTransmit_exact h (some type) rfl

end

/-- The window is `w`, and an increment for which there is room makes it larger. -/
def ExactWindow (c : SshConnection κ) (n : UInt32) (w : ℤ) : Prop :=
  ∃ x, Sending c n x ∧ x.sendWindowSize.toNat = w ∧
    ∀ size, x.sendWindowSize.toNat + size.toNat < 2 ^ 32 → Grows c n size x

/-- **The send window is exact**: what was granted when the channel was opened and since then, less
what has been sent, if there is room for each increment. -/
theorem run_windowStep_exact {window : UInt32} (h : TableInv c) (hopens : OpensWith c n window d)
    (events : List WindowEvent) (hguard : Guarded (windowStep n) (HasRoom n) d events) :
    Ensures (fun e => e = .assertion .transmit)
      (fun d => ExactWindow d n
        (window.toNat + (events.map WindowEvent.granted).sum - (events.map WindowEvent.spent).sum))
      (run (windowStep n) d events) := by
  obtain ⟨x, hx, rfl⟩ := hopens.sending h
  clear hopens
  -- by induction on the events, for any window at the start
  induction events generalizing d x with
  | nil => exact ⟨x, hx, by simp, hx.grows⟩
  | cons e events ih =>
    have hsp := windowStep_exact hx hguard.1
    cases he : windowStep n d e with
    | error e =>
      rw [run_cons_error he]
      rwa [he] at hsp
    | ok d' =>
      rw [he] at hsp
      obtain ⟨y, hy, heq⟩ := hsp
      rw [run_cons_ok he]
      refine (ih (hguard.2 d' he) y hy).mono fun d'' hd'' => ?_
      convert hd'' using 1
      simp only [List.map_cons, List.sum_cons]
      omega

/-- A number is reserved for an open request with a window of five octets. -/
def requestOfFive : SshConnection Unit :=
  allot (initSshConnection [] [] false) 0 ⟨.receivedOpen, none, some ⟨0, 5, 100⟩⟩

/-- The channel is opened, by a program that wants to be told about the window. -/
def openOfFive : Except ChannelError (SshConnection Unit) :=
  channelOpenConfirm requestOfFive (0 : UInt32).toNat
    ⟨0, 0, [], false, false, 0, 0, true, true, false, ()⟩

/-- One increment makes the window smaller, and another one closes it without a word. -/
theorem windowStep_wraps :
    (openOfFive.toOption.bind fun c => ((windowStep 0 c (.adjust 0xffffffff)).toOption.bind
      (channelAt · 0)).map SshChannel.sendWindowSize) = some 4 ∧
    (openOfFive.toOption.bind fun c =>
      (handleAdjustWindow c (adjustPacket 0 0xfffffffb)).toOption.map
      fun r => ((channelAt r.connection 0).map SshChannel.sendWindowSize, r.callback.isSome)) =
        some (some 0, false) := by
  decide +kernel

theorem run_windowStep_exact_five :
    openOfFive.toOption.isSome = true ∧ ∀ c, openOfFive = .ok c →
      Ensures (fun e => e = .assertion .transmit) (fun d => ExactWindow d 0 9)
        (run (windowStep 0) c [.adjust 7, .transmit (lshString [1, 2, 3])]) := by
  refine ⟨by decide +kernel, fun c hc => ?_⟩
  have hfnd : Found (initSshConnection [] [] false : SshConnection Unit) 0 :=
    ⟨Nat.le_refl _, Nat.le_refl _, by decide, by simp [initSshConnection],
      fun j s h h' => absurd h' (Nat.not_lt_zero j)⟩
  have htab : TableInv requestOfFive :=
    (tableInv_init [] [] false).acts (.receiveOpen ⟨0, 5, 100⟩ hfnd rfl)
  have hguard : openOfFive.toOption.all (fun c => decide (Guarded (windowStep 0) (HasRoom 0) c
      [.adjust 7, .transmit (lshString [1, 2, 3])])) = true := by
    decide +kernel
  rw [hc] at hguard
  exact run_windowStep_exact htab (.confirm (by rfl) hc) _ (of_decide_eq_true hguard)

end Lsh.Channel
