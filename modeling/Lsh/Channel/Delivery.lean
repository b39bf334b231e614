
import Lsh.Channel.Duplex

/-!
# Delivery of messages

The other half of the invariant of two endpoints: a message that the other end has written arrives.
By the invariant its recipient is in a phase that accepts it, so that the handler does not fail, and
what the handler does to the channel is what the message does to the phase.

## Main results

* `PairInv.receiveChannel` — a message to an open channel
* `PairInv.receivePacket` — any message
-/

namespace Lsh.Channel

open Machine Mailbox Table Wire

variable {κ κ' : Type} {c c' : SshConnection κ} {d : SshConnection κ'} {t : Bool} {i : ℕ} {e : Bool}
  {n r : UInt32} {s : Slot κ} {x y : SshChannel κ} {m : Message} {rest : List Message}

/-! ### Claims when a message is gone from the queue -/

/-- Messages to other numbers say nothing about a channel. -/
theorem SshChannel.claim_cons (h : m.affect (UInt32.ofNat x.localChannelNumber) = some) :
    x.claim t rest = x.claim t (m :: rest) := by
  rw [claim, claim, future_cons, h, Option.bind_fun_some]

theorem Slot.Valid.claim_cons {bound : ℕ} (hval : s.Valid i bound)
    (h : m.affect (UInt32.ofNat i) = some) : s.claim t rest = s.claim t (m :: rest) := by
  cases hval with
  | active hloc =>
    rw [← hloc] at h
    exact SshChannel.claim_cons h
  | _ => rfl

/-- The claims of all entries after the one of the recipient has been brought up to date. -/
theorem tableClaims_cons (h : TableInv c) (hs : c.slots[i]? = some s) (s')
    (hclaim : s'.claim t rest = s.claim t (m :: rest))
    (hoth : ∀ j, j ≠ i → j < c.slots.length → m.affect (UInt32.ofNat j) = some) (n) :
    tableClaims (Slot.claim t rest) (c.slots.set i s') n =
      tableClaims (Slot.claim t (m :: rest)) c.slots n := by
  refine tableClaims_congr _ List.length_set (fun j a b ha hb => ?_) n
  rcases (Replaces.of_set hs s').of_getElem? hb with ⟨rfl, rfl⟩ | ⟨hj, hb⟩
  · rw [hs] at ha
    cases ha
    exact hclaim
  · rw [ha] at hb
    cases hb
    exact (h.slot j a ha).claim_cons (hoth j hj (lt_length_of_getElem? ha))

/-- The claims of all entries are up to date if the message says nothing about windows. -/
theorem tableClaims_neutral (h : TableInv c) (hm : m.Neutral) (n) :
    tableClaims (Slot.claim t rest) c.slots n =
      tableClaims (Slot.claim t (m :: rest)) c.slots n := by
  refine tableClaims_congr _ rfl (fun j a b ha hb => ?_) n
  rw [ha] at hb
  cases hb
  exact (h.slot j a ha).claim_cons (hm _)

theorem EndInv.withWritten (h : EndInv d) (rest) :
    EndInv { d with written := rest } where
  toTableInv := h.toTableInv.congr rfl rfl rfl rfl rfl
  failed_lt := h.failed_lt

/-! ### Open channels -/

variable {a : Option Account}

theorem isOpen_of_phase (h : phase t c n = some (.opened r e a)) :
    ∃ x, IsOpen c n x ∧ x.remoteChannelNumber = some r ∧ x.flags.receivedClose = false ∧
      e = x.flags.receivedEof ∧ a = if x.flags.receivedEof ∨ x.flags.sentClose then none
        else account t x.recWindowSize x.recMaxPacket := by
  obtain ⟨s, hs, hphase⟩ := Option.bind_eq_some_iff.mp h
  obtain ⟨hst, x, hch, hre⟩ := Slot.phase_eq_opened hphase
  exact ⟨x, ⟨s, hs, hst, hch⟩, hre⟩

theorem isOpening_of_phase (h : phase t c n = some (.waiting a)) :
    ∃ x, IsOpening c n x ∧ c.log.any (Entry.isFailure x.serial) = false ∧
      a = account t x.recWindowSize x.recMaxPacket := by
  obtain ⟨s, hs, hphase⟩ := Option.bind_eq_some_iff.mp h
  obtain ⟨hst, x, hch, hre⟩ := Slot.phase_eq_waiting hphase
  exact ⟨x, ⟨s, hs, hst, hch⟩, hre⟩

theorem IsOpen.phase_eq (h : IsOpen c n x) : phase t c n = x.phase t := by
  obtain ⟨s, hs, hst, hch⟩ := h
  rw [phase, hs, Option.bind_some, Slot.phase, hst, hch]

/-- The number that a message on its way is for is in use, and its phase accepts the message. -/
theorem PairInv.exists_phase (h : PairInv t c d) (hd : d.written = m :: rest)
    (hde : m.recipient t = some n) : ∃ p φ, phase t c n = some p ∧ p.step m = some φ := by
  have hinn := h.inn
  rw [hd] at hinn
  obtain ⟨φ, hφ, _⟩ := hinn.receive hde
  cases hp : phase t c n with
  | none =>
    rw [hp] at hφ
    cases hφ
  | some p =>
    rw [hp] at hφ
    exact ⟨p, φ, rfl, hφ⟩

/-- A channel is open and has not received CLOSE, if a message to it is accepted that is not the
answer to an open request. -/
theorem PairInv.exists_isOpen (h : PairInv t c d) (hd : d.written = m :: rest)
    (hde : m.recipient t = some n) (hwai : ∀ a, (Phase.waiting a).step m = none) :
    ∃ x, IsOpen c n x ∧ x.flags.receivedClose = false ∧
      ∃ φ, (protocol t).next (x.phase t) m = some φ := by
  obtain ⟨p, φ, hp, hφ⟩ := h.exists_phase hd hde
  cases p with
  | waiting a => simp [hwai a] at hφ
  | opened r e a =>
    obtain ⟨x, hopen, _, hcl, _⟩ := isOpen_of_phase hp
    refine ⟨x, hopen, hcl, φ, ?_⟩
    rw [← hopen.phase_eq, hp]
    exact hφ

namespace PairInv

section
variable (h : PairInv t c d)
include h

section
variable (hd : d.written = m :: rest)
include hd

section
variable (hde : m.recipient t = some n)
include hde

section
variable (hno : ∀ q, m.claim t q = none)
include hno

/-- **A message to an open channel.** What the handler does to the channel is what the message does
to its phase. -/
theorem receiveChannel (hopen : IsOpen c n x)
    (hend : EndInv c') (hwn : c'.written = c.written)
    (hlog : SameFailures c.log c'.log)
    (hslots : ∀ s, c.slots[n.toNat]? = some s → s.channel = some x →
      c'.slots = c.slots.set n.toNat { s with channel := some y })
    (hclaim : y.claim t rest = x.claim t (m :: rest))
    (hphase : ∀ φ, (protocol t).next (x.phase t) m = some φ → y.phase t = φ) :
    PairInv t c' { d with written := rest } := by
  have hphase₀ : phase t c n = x.phase t := hopen.phase_eq
  obtain ⟨s, hs, hst, hch⟩ := hopen
  have hslots := hslots s hs hch
  have hr : Replaces c.slots c'.slots n.toNat _ _ := hslots ▸ Replaces.of_set hs _
  have hn : UInt32.ofNat n.toNat = n := UInt32.ofNat_toNat
  have hphs (n' : UInt32) := phase_replaces (t := t) hr (by rw [hn]) hlog n'
  rw [hn] at hphs
  refine ⟨hend, h.right.withWritten rest, ?_, ?_⟩
  · rw [hwn]
    refine h.out.congr (fun _ => rfl) fun n' => ?_
    rw [hd, claims, claims, messageClaims, hno, about_none, zero_add, hslots,
      tableClaims_cons h.left.toTableInv hs { s with channel := some y } ?_ fun j hj hlt => ?_]
    · rw [Slot.claim, Slot.claim, hst, hch]
      exact hclaim
    · have hne : m.recipient t ≠ some (UInt32.ofNat j) := by
        rw [hde]
        intro heq
        have hj' : n = UInt32.ofNat j := Option.some.inj heq
        rw [hj', h.left.toNat_ofNat (List.getElem?_eq_getElem hlt)] at hj
        exact hj rfl
      exact Message.affect_of_ne hne
  · have hinn := h.inn
    rw [hd] at hinn
    obtain ⟨φ, hφ, hre⟩ := hinn.receive hde
    rw [hphase₀] at hφ
    rw [hwn]
    refine hre _ ?_ fun n' hn' => ?_
    · rw [hphs, if_pos rfl, hst]
      exact hphase φ hφ
    · rw [hphs, if_neg hn']

/-- The channel is not changed by the handler. -/
theorem receiveSame (hopen : IsOpen c n x)
    (hclaim : x.claim t rest = x.claim t (m :: rest))
    (hphase : ∀ φ, (protocol t).next (x.phase t) m = some φ → x.phase t = φ) :
    PairInv t c { d with written := rest } := by
  refine h.receiveChannel hd hde hno hopen h.left rfl (fun _ => rfl)
    (fun s hs hch => ?_) hclaim hphase
  have hself := setChannel_self (channelAt_eq_some hs hch)
  rw [setChannel_eq hs] at hself
  exact congrArg SshConnection.slots hself.symm

/-- The handler does an action on the channel. -/
theorem receiveActs {a : ChannelAction κ} (hopen : IsOpen c n x)
    (ha : Acts c (.channel n.toNat a) c') (hmsg : a.message x = none)
    (hclaim : (a.effect x).claim t rest = x.claim t (m :: rest))
    (hphase : ∀ φ, (protocol t).next (x.phase t) m = some φ → (a.effect x).phase t = φ) :
    PairInv t c' { d with written := rest } := by
  obtain ⟨s', x', hs', hx', hslots, hwn⟩ : ∃ s' x', c.slots[n.toNat]? = some s' ∧
      s'.channel = some x' ∧
      c'.slots = c.slots.set n.toNat { s' with channel := some (a.effect x') } ∧
      c'.written = c.written ++ a.messages x' := by
    cases ha with
    | channel _ hs hch =>
      rw [setChannel_eq hs]
      exact ⟨_, _, hs, hch, rfl, rfl⟩
  have hx : x' = x := by
    have hc := channelAt_eq_some hs' hx'
    rw [hopen.channelAt_eq] at hc
    exact (Option.some.inj hc).symm
  subst hx
  refine h.receiveChannel hd hde hno hopen (h.left.acts ha) ?_
    (ha.any_isFailure_eq fun _ => nofun) (fun s hs _ => ?_) hclaim hphase
  · rw [hwn, ChannelAction.messages, hmsg, List.append_nil]
  · rw [hs] at hs'
    cases hs'
    exact hslots

end

end

/-- A message that the other end does not have to know about. -/
theorem receiveLoose (hde : m.recipient t = none)
    (hno : ∀ q, m.claim t q = none) (hm : m.Neutral) : PairInv t c { d with written := rest } := by
  refine ⟨h.left, h.right.withWritten rest, ?_, ?_⟩
  · refine h.out.congr (fun _ => rfl) fun n => ?_
    rw [hd, claims, claims, messageClaims, hno, about_none, zero_add,
      tableClaims_neutral h.left.toTableInv hm]
  · have hinn := h.inn
    rw [hd] at hinn
    exact hinn.receive_none hde

end

end

end PairInv

/-! ### Windows -/

/-- The account of a phase. -/
def Phase.account : Phase → Option Account
  | waiting a => a
  | opened _ _ a => a

variable {b : Account}

/-- The account of a number that will be open is what is left of the one that it has now. -/
theorem exists_account {φ : Option Phase} {q : List Message}
    (h : (protocol t).predict φ q = some (some (.opened r e (some b)))) :
    ∃ p b', φ = some p ∧ p.account = some b' ∧ b.window ≤ b'.window := by
  have hopd {q : List Message} {r' : UInt32} {e' : Bool} {a : Option Account}
      (h : (protocol t).predict (some (.opened r' e' a)) q = some (some (.opened r e (some b)))) :
      ∃ b', a = some b' ∧ b.window ≤ b'.window := by
    obtain ⟨e'', y, hp, hy⟩ := predict_opened h
    cases hp
    obtain ⟨_, b', hb', hwin, _⟩ := hy b rfl
    exact ⟨b', hb', by omega⟩
  rcases predict_eq_opened h with ⟨e', a, rfl, _⟩ | ⟨a, _, _, _, rfl, _⟩
  · obtain ⟨b', hb', hle⟩ := hopd h
    exact ⟨_, b', rfl, hb', hle⟩
  · -- the first message is the confirmation, which passes the account on
    cases q with
    | nil => cases h
    | cons m q =>
      obtain ⟨ψ, hψ, hre⟩ := Option.bind_eq_some_iff.mp h
      cases m with
      | openConfirmation n number w k =>
        cases hψ
        obtain ⟨b', hb', hle⟩ := hopd hre
        exact ⟨_, b', rfl, hb', hle⟩
      | openFailure =>
        cases hψ
        obtain ⟨_, hno⟩ := Protocol.eq_nil_of_predict_none _ hre
        cases hno
      | _ => cases hψ

variable {k : UInt32}

theorem window_lt_of_account {w : UInt32} (h : account t w k = some b) : b.window < 2 ^ 32 := by
  rw [account] at h
  split_ifs at h
  cases h
  exact w.toNat_lt

/-- Windows have 32 bits. -/
theorem window_lt_of_phase {p : Phase} (h : phase t c n = some p) (hb : p.account = some b) :
    b.window < 2 ^ 32 := by
  cases p with
  | waiting a =>
    obtain ⟨x, _, _, rfl⟩ := isOpening_of_phase h
    exact window_lt_of_account hb
  | opened r e a =>
    obtain ⟨x, _, _, _, _, rfl⟩ := isOpen_of_phase h
    have hb : (if x.flags.receivedEof ∨ x.flags.sentClose = true then none
      else Lsh.Channel.account t x.recWindowSize x.recMaxPacket) = some b := hb
    split_ifs at hb
    exact window_lt_of_account hb

/-- What an end takes for granted about a window of the other fits in 32 bits as well. -/
theorem PairInv.window_lt (h : PairInv t c d)
    (hp : .opened k e (some b) ∈ claims t c d.written r) : b.window < 2 ^ 32 := by
  obtain ⟨p, b', hphase, hb', hle⟩ := exists_account (h.out.predict_of_mem hp)
  exact Nat.lt_of_le_of_lt hle (window_lt_of_phase hphase hb')

/-- Whether an account is closed by messages on the way does not depend on the window. -/
theorem future_isNone (q n a b) : (future q n (some a)).isNone = (future q n (some b)).isNone := by
  induction q generalizing a b with
  | nil => rfl
  | cons m q ih =>
    rw [future_cons, future_cons, Option.bind_some, Option.bind_some]
    cases m with
    | windowAdjust => exact ih _ _
    | close k =>
      rw [Message.affect, Message.affect]
      split_ifs
      · rfl
      · exact ih _ _
    | _ => exact ih _ _

/-- WINDOW_ADJUST is received: the claim is the one that the message has promised. -/
theorem PairInv.claim_receiveAdjust {size : UInt32} (h : PairInv t c d)
    (hd : d.written = .windowAdjust n size :: rest) (hopen : IsOpen c n x)
    (hfl : ¬(x.flags.sentClose ∨ x.flags.sentEof))
    (hcl : x.flags.receivedClose = false) :
    SshChannel.claim t rest { x with sendWindowSize := x.sendWindowSize + size } =
      x.claim t (.windowAdjust n size :: rest) := by
  simp only [not_or, Bool.not_eq_true] at hfl
  obtain ⟨r, hr⟩ := Option.isSome_iff_exists.mp (hopen.remote_isSome h.left.toTableInv)
  obtain ⟨s, hs, hst, hch⟩ := hopen
  have hloc : UInt32.ofNat x.localChannelNumber = n := by
    rw [(h.left.slot _ s hs).local_eq hch, UInt32.ofNat_toNat]
  have hnot : ¬(x.flags.sentEof ∨ x.flags.receivedClose) := by
    simp [hfl.2, hcl]
  have hold := SshChannel.claim_eq (t := t) (.windowAdjust n size :: rest) hr hfl.1
  have hnew := SshChannel.claim_eq (t := t)
    (x := { x with sendWindowSize := x.sendWindowSize + size }) rest hr hfl.1
  rw [if_neg hnot, hloc, future_cons] at hold
  rw [if_neg hnot, hloc] at hnew
  rw [hold, hnew]
  cases t with
  | false => rfl
  | true =>
    cases hfut : future rest n ((account true x.sendWindowSize x.sendMaxPacket).bind
        ((Message.windowAdjust n size).affect n)) with
    | none =>
      -- a CLOSE is on the way
      have hno : (future rest n (account true (x.sendWindowSize + size)
          x.sendMaxPacket)).isNone := by
        rw [account, if_pos rfl, future_isNone rest n _ ⟨_, _⟩]
        exact Option.isNone_iff_eq_none.mpr hfut
      rw [Option.isNone_iff_eq_none.mp hno]
    | some b =>
      -- the window is at most the one at the other end
      have hmem : .opened n x.flags.sentEof (some b) ∈ claims true c d.written r := by
        rw [hfut] at hold
        refine mem_claims _ hs ((Slot.claim_active _ hst hch).trans ?_)
        rw [hd]
        exact hold
      have hlt := h.window_lt hmem
      have hle := window_le_of_future hfut
      rw [if_pos rfl] at hle
      dsimp only at hle
      rw [account_add (n := n) fun _ => by omega, hfut]

/-! ### Handlers -/

/-- Not one of the errors for messages that are not accepted. -/
def ChannelError.NotRefused (e : ChannelError) : Prop := ∀ msg, e ≠ .connectionError msg

theorem Refused.absurd {reason : Prop} {e : ChannelError} (h : Refused reason e) (hnot : ¬reason) :
    e.NotRefused :=
  fun _ _ => hnot h.2

variable {data : LshString}

section Handlers

variable {f : Octets}

theorem handleAdjustWindow_pair {size : UInt32} (h : PairInv t c d)
    (hd : d.written = .windowAdjust n size :: rest)
    (hparse : parseWindowAdjust f = some (n, size)) :
    Ensures ChannelError.NotRefused
      (fun r => PairInv t r.connection { d with written := rest }) (handleAdjustWindow c f) := by
  obtain ⟨x, hopen, hcl, _⟩ := h.exists_isOpen hd rfl fun _ => rfl
  refine (handleAdjustWindow_ensures h.left.toTableInv hparse).imp (fun e he => ?_) fun r hr => ?_
  · refine he.absurd fun hall => ?_
    rw [hall x hopen] at hcl
    cases hcl
  · obtain ⟨_, _, x', hopen', _, hcs⟩ := hr
    have hx := hopen.unique hopen'
    subst hx
    have hphase (φ : Option Phase)
        (hφ : (protocol t).next (x'.phase t) (.windowAdjust n size) = some φ) : x'.phase t = φ := by
      cases hp : x'.phase t with
      | none =>
        rw [hp] at hφ
        cases hφ
      | some p =>
        rw [hp] at hφ
        cases p with
        | waiting => cases hφ
        | opened => exact Option.some.inj hφ
    split_ifs at hcs with hfl
    · rw [hcs]
      refine h.receiveSame hd rfl (fun _ => rfl) hopen ?_ hphase
      rw [SshChannel.claim, SshChannel.claim]
      rcases hfl with hfg | hfg
      · rw [hfg]
        rfl
      · rw [hfg]
        rfl
    · exact h.receiveActs hd rfl (fun _ => rfl) hopen hcs rfl
        (h.claim_receiveAdjust hd hopen hfl hcl) hphase

theorem handleChannelEof_pair (h : PairInv t c d) (hd : d.written = .eof n :: rest)
    (hparse : parseNumber f = some n) :
    Ensures ChannelError.NotRefused
      (fun r => PairInv t r.connection { d with written := rest }) (handleChannelEof c f) := by
  obtain ⟨x, hopen, hcl, φ, hφ⟩ := h.exists_isOpen hd rfl fun _ => rfl
  have hphase {y : SshChannel κ} {φ : Option Phase}
      (hφ : (protocol t).next (y.phase t) (.eof n) = some φ) : y.flags.receivedEof = false ∧
        (ChannelAction.effect .receiveEof y).phase t = φ := by
    rw [SshChannel.phase] at hφ
    rw [SshChannel.phase, ChannelAction.effect]
    cases hrem : y.remoteChannelNumber with
    | none =>
      rw [hrem] at hφ
      cases hφ
    | some r =>
      rw [hrem] at hφ
      rw [Option.bind_some]
      split_ifs at hφ with hrecv heof
      · cases hφ
      · cases hbool : y.flags.receivedEof with
        | false =>
          rw [hbool] at hφ
          rw [if_neg hrecv]
          exact ⟨rfl, Option.some.inj hφ⟩
        | true =>
          rw [hbool] at hφ
          cases hφ
      · cases hbool : y.flags.receivedEof with
        | false =>
          rw [hbool] at hφ
          rw [if_neg hrecv]
          exact ⟨rfl, Option.some.inj hφ⟩
        | true => exact absurd (.inl hbool) heof
  refine (handleChannelEof_ensures h.left.toTableInv hparse).imp (fun e he => ?_) fun r hr => ?_
  · refine he.absurd fun hall => ?_
    rcases hall x hopen with heof | hrecv
    · rw [(hphase hφ).1] at heof
      cases heof
    · rw [hcl] at hrecv
      cases hrecv
  · obtain ⟨_, x', hopen', _, hacts⟩ := hr
    exact h.receiveActs hd rfl (fun _ => rfl) hopen' hacts rfl (SshChannel.claim_cons rfl)
      fun φ hφ => (hphase hφ).2

theorem handleChannelClose_pair (h : PairInv t c d) (hd : d.written = .close n :: rest)
    (hparse : parseNumber f = some n) :
    Ensures ChannelError.NotRefused
      (fun r => PairInv t r.connection { d with written := rest }) (handleChannelClose c f) := by
  obtain ⟨x, hopen, hcl, _⟩ := h.exists_isOpen hd rfl fun _ => rfl
  refine (handleChannelClose_ensures h.left.toTableInv hparse).imp (fun e he => ?_) fun r hr => ?_
  · refine he.absurd fun hall => ?_
    rw [hall x hopen] at hcl
    cases hcl
  · obtain ⟨_, x', hopen', _, hacts⟩ := hr
    have hx := hopen.unique hopen'
    subst hx
    obtain ⟨r', hr'⟩ := Option.isSome_iff_exists.mp (hopen.remote_isSome h.left.toTableInv)
    refine h.receiveActs hd rfl (fun _ => rfl) hopen hacts rfl ?_ fun φ hφ => ?_
    · -- the account is closed, whether CLOSE is on the way or has been received
      have hloc : UInt32.ofNat x'.localChannelNumber = n := by
        obtain ⟨s, hs, _, hch⟩ := hopen
        rw [(h.left.slot _ s hs).local_eq hch, UInt32.ofNat_toNat]
      have hno (a : Option Account) : future (.close n :: rest) n a = none := by
        rw [future_cons]
        cases a with
        | none => exact future_none rest n
        | some a => rw [Option.bind_some, Message.affect, if_pos rfl, future_none]
      rw [SshChannel.claim, SshChannel.claim, hloc, hno, ChannelAction.effect]
      rw [hloc]
      simp
    · rw [SshChannel.phase, hr', Option.bind_some, if_neg (by rw [hcl]; exact Bool.false_ne_true)]
        at hφ
      cases hφ
      rw [ChannelAction.effect]
      rw [hr']
      rfl

/-- A message that leaves phases and windows alone. -/
theorem next_eq_self {φ : Option Phase}
    (hm : ∀ r e a, (Phase.opened r e a).step m = some (some (.opened r e a)))
    (hφ : (protocol t).next (y.phase t) m = some φ) : y.phase t = φ := by
  rw [SshChannel.phase] at hφ ⊢
  cases hrem : y.remoteChannelNumber with
  | none =>
    rw [hrem] at hφ
    cases hφ
  | some r =>
    rw [hrem, Option.bind_some] at hφ
    rw [Option.bind_some]
    by_cases hrecv : y.flags.receivedClose = true
    · rw [if_pos hrecv] at hφ
      cases hφ
    · rw [if_neg hrecv] at hφ ⊢
      have hφ := (hm _ _ _).symm.trans hφ
      exact Option.some.inj hφ

theorem handleChannelReply_pair (h : PairInv t c d) (hd : d.written = m :: rest)
    (hde : m.recipient t = some n) (hm : m = .success n ∨ m = .failure n)
    (hparse : parseNumber f = some n) (success : Bool) (msg : String) :
    Ensures ChannelError.NotRefused
      (fun r => PairInv t r.connection { d with written := rest })
      (handleChannelReply c f (if success then .success else .failure) msg) := by
  have hwai (a : Option Account) : (Phase.waiting a).step m = none := by
    rcases hm with rfl | rfl <;> rfl
  have hsame (r : UInt32) (e : Bool) (a : Option Account) :
      (Phase.opened r e a).step m = some (some (.opened r e a)) := by
    rcases hm with rfl | rfl <;> rfl
  have hno (q : List Message) : m.claim t q = none := by
    rcases hm with rfl | rfl <;> rfl
  have hneu : m.Neutral := by
    rcases hm with rfl | rfl <;> exact fun _ => rfl
  obtain ⟨x, hopen, hcl, _⟩ := h.exists_isOpen hd hde hwai
  refine (handleChannelReply_ensures h.left.toTableInv hparse success msg).imp (fun e he => ?_)
    fun r hr => ?_
  · exact he.absurd fun hall => hall x hopen
  · obtain ⟨_, _, _, hcs | hacts⟩ := hr
    · rw [hcs]
      exact h.receiveSame hd hde hno hopen (SshChannel.claim_cons (hneu _))
        fun φ hφ => next_eq_self hsame hφ
    · exact h.receiveActs hd hde hno hopen hacts rfl (SshChannel.claim_cons (hneu _))
        fun φ hφ => next_eq_self hsame hφ

theorem handleChannelRequest_pair {want : Bool} {args : Octets} (h : PairInv t c d)
    {type : LshString}
    (hd : d.written = .request n type want args :: rest)
    (hparse : parseChannelRequest f = some (n, type.1, want, args))
    (hprm : ∀ a, requestAnswer c f = some a → Permitted t c a) :
    Ensures ChannelError.NotRefused
      (fun r => PairInv t r.connection { d with written := rest }) (handleChannelRequest c f) := by
  obtain ⟨x, hopen, hcl, _⟩ := h.exists_isOpen hd rfl fun _ => rfl
  have hsame : PairInv t c { d with written := rest } :=
    h.receiveSame hd rfl (fun _ => rfl) hopen (SshChannel.claim_cons rfl)
      fun φ hφ => next_eq_self (fun _ _ _ => rfl) hφ
  refine (handleChannelRequest_ensures h.left.toTableInv hparse).imp (fun e he => ?_) fun r hr => ?_
  · exact he.absurd fun hall => hall x hopen
  · obtain ⟨_, _, x', hopen', hcs | ⟨hunk, hrep, hacts⟩⟩ := hr
    · rw [hcs]
      exact hsame
    · refine hsame.channelActs hacts id (hprm _ ?_)
      rw [requestAnswer, hparse, Option.bind_some]
      dsimp only
      rw [hopen'.channelAt_eq, Option.bind_some, if_pos ⟨hrep, hunk⟩]

end Handlers

/-! ### Data -/

/-- Whoever keeps accounts has a method for data that arrives. -/
def ReceivesData (t : Bool) (c : SshConnection κ) (n : UInt32) (data : Octets) : Prop :=
  t → data ≠ [] → ∀ x, IsOpen c n x → x.receive

/-- Data that is charged to the account of a channel is taken as a whole. -/
theorem accepted_eq_self (hwin : data.1.length ≤ x.recWindowSize.toNat)
    (hmax : data.1.length ≤ x.recMaxPacket.toNat) : accepted x data.1 = data.1 := by
  rw [accepted, List.take_of_length_le hmax, List.take_of_length_le hwin]

/-- The window after data. -/
theorem account_sub {b : Option Account} (w) (h : charge data (account t w k) = some b) :
    b = account t (w - LshString.length data) k := by
  cases t with
  | false =>
    cases h
    rfl
  | true =>
    obtain ⟨a, ha, rfl⟩ := Option.map_eq_some_iff.mp h
    obtain ⟨hle, rfl⟩ := Account.charge_eq_some.mp ha
    have hsub : (w - LshString.length data).toNat = w.toNat - data.1.length := by
      rw [UInt32.toNat_sub_of_le, LshString.toNat_length]
      rw [UInt32.le_iff_toNat_le, LshString.toNat_length]
      exact hle.1
    rw [account, if_pos rfl, hsub]

namespace PairInv

variable {err : Bool} {res : Received κ}

/-- **Data to an open channel**, where windows are accounted for: all of it is taken, or the account
has been closed. -/
theorem receiveData (h : PairInv true c d) (hd : d.written = m :: rest)
    (hde : m.recipient true = some n) (hno : ∀ q, m.claim true q = none) (hneu : m.Neutral)
    (hsp : ∀ r e a φ, (Phase.opened r e a).step m = some φ →
      ∃ b, charge data a = some b ∧ φ = some (.opened r e b)) (hopen : IsOpen c n x)
    (hφ : ∃ φ, (protocol true).next (x.phase true) m = some φ)
    (hrec : data.1 ≠ [] → x.receive = true) (hdata : DataReceived c n err data.1 res) :
    PairInv true res.connection { d with written := rest } := by
  obtain ⟨r, hr⟩ := Option.isSome_iff_exists.mp (hopen.remote_isSome h.left.toTableInv)
  have hclaim : x.claim true rest = x.claim true (m :: rest) := SshChannel.claim_cons (hneu _)
  have hphase : x.flags.receivedClose = false ∧ ∃ b, charge data
      (if x.flags.receivedEof = true ∨ x.flags.sentClose = true then none
        else account true x.recWindowSize x.recMaxPacket) = some b ∧
      ∀ φ, (protocol true).next (x.phase true) m = some φ →
        φ = some (.opened r x.flags.receivedEof b) := by
    obtain ⟨φ, hφ⟩ := hφ
    have heq : x.phase true = if x.flags.receivedClose = true then none
        else some (.opened r x.flags.receivedEof
          (if x.flags.receivedEof = true ∨ x.flags.sentClose = true then none
            else account true x.recWindowSize x.recMaxPacket)) := by
      rw [SshChannel.phase, hr, Option.bind_some]
    rw [heq] at hφ ⊢
    by_cases hcl : x.flags.receivedClose = true
    · rw [if_pos hcl] at hφ
      cases hφ
    · rw [if_neg hcl] at hφ ⊢
      obtain ⟨b, hb, rfl⟩ := hsp _ _ _ _ hφ
      refine ⟨Bool.eq_false_iff.mpr hcl, b, hb, fun φ' hφ' => ?_⟩
      exact Option.some.inj (hφ'.symm.trans hφ)
  obtain ⟨hcl, b, hb, hphase⟩ := hphase
  have hxp (y : SshChannel κ) (hrem : y.remoteChannelNumber = some r)
      (hrecv : y.flags.receivedClose = false) : y.phase true = some (.opened r y.flags.receivedEof
        (if y.flags.receivedEof ∨ y.flags.sentClose then none
          else account true y.recWindowSize y.recMaxPacket)) := by
    rw [SshChannel.phase, hrem, hrecv]
    rfl
  by_cases hcld : x.flags.receivedEof = true ∨ x.flags.sentClose = true
  · -- the data is ignored
    rw [if_pos hcld] at hb
    cases hb
    obtain ⟨_, ⟨hsame, _⟩ | ⟨x', hopen', htk, _⟩⟩ := hdata
    · rw [hsame]
      refine h.receiveSame hd hde hno hopen hclaim fun φ hφ => ?_
      rw [hphase φ hφ, hxp x hr hcl, if_pos hcld]
    · rw [hopen.unique hopen'] at htk
      rcases hcld with heof | hsent
      · rw [htk.2.1] at heof
        cases heof
      · rw [htk.2.2.2] at hsent
        cases hsent
  · rw [if_neg hcld] at hb
    have hsub := account_sub _ hb
    have hnot := hcld
    simp only [not_or, Bool.not_eq_true] at hnot
    have hall : accepted x data.1 = data.1 := by
      obtain ⟨a, ha, _⟩ := Option.map_eq_some_iff.mp hb
      obtain ⟨hle, _⟩ := Account.charge_eq_some.mp ha
      exact accepted_eq_self hle.1 hle.2
    obtain ⟨_, ⟨hsame, hemp⟩ | ⟨x', hopen', _, _, hacts⟩⟩ := hdata
    · -- there is no data
      have hnil : data.1 = [] := by
        by_contra hne
        exact hne (hall.symm.trans (hemp x hopen ⟨hrec hne, hnot.1, hcl, hnot.2⟩))
      have hz0 : LshString.length data = 0 := by
        rw [LshString.length, hnil]
        rfl
      rw [hsame]
      refine h.receiveSame hd hde hno hopen hclaim fun φ hφ => ?_
      rw [hphase φ hφ, hxp x hr hcl, if_neg hcld, hsub, hz0, UInt32.sub_zero]
    · have hx := hopen.unique hopen'
      subst hx
      rw [hall] at hacts
      refine h.receiveActs hd hde hno hopen hacts rfl hclaim fun φ hφ => ?_
      have hnew := hxp (ChannelAction.effect (.receiveData (UInt32.ofNat data.1.length)) x') hr hcl
      refine hnew.trans ?_
      rw [hphase φ hφ, hsub]
      exact congrArg (fun a => some (Phase.opened r x'.flags.receivedEof a)) (if_neg hcld)

/-- Data where windows are not accounted for. -/
theorem receiveDataActs {length : UInt32} (h : PairInv false c d)
    (ha : Acts c (.channel i (.receiveData length)) c') :
    PairInv false c' d := by
  have hacts := ha
  cases ha with
  | channel _ hs hch =>
    exact h.quietActs hs hch hacts rfl (m := none) rfl (fun _ hm => nomatch hm) rfl rfl rfl

theorem receiveDataLoose (h : PairInv false c d) (hdata : DataReceived c n err data res) :
    PairInv false res.connection d := by
  obtain ⟨_, ⟨hsame, _⟩ | ⟨x, _, _, _, hacts⟩⟩ := hdata
  · rwa [hsame]
  · exact h.receiveDataActs hacts

end PairInv

section Handlers

variable {f : Octets}

theorem handleChannelData_pair (h : PairInv t c d)
    (hd : d.written = .data n data :: rest) (hparse : parseChannelData f = some (n, data.1))
    (hrec : ReceivesData t c n data.1) :
    Ensures ChannelError.NotRefused
      (fun r => PairInv t r.connection { d with written := rest }) (handleChannelData c f) := by
  refine (handleChannelData_ensures h.left.toTableInv hparse).of_total.mono fun r hr => ?_
  cases t with
  | false =>
    have hlo : PairInv false c { d with written := rest } :=
      h.receiveLoose hd rfl (fun _ => rfl) fun _ => rfl
    exact hlo.receiveDataLoose hr.2
  | true =>
    obtain ⟨x, hopen, _, hφ⟩ := h.exists_isOpen hd rfl fun _ => rfl
    refine h.receiveData hd rfl (fun _ => rfl) (fun _ => rfl) (fun r e a φ hφ => ?_) hopen hφ
      (fun hne => hrec rfl hne x hopen) hr.2
    obtain ⟨b, hb, rfl⟩ := Option.map_eq_some_iff.mp hφ
    exact ⟨b, hb, rfl⟩

theorem handleChannelExtendedData_pair {type : UInt32} (h : PairInv t c d)
    (hd : d.written = .extendedData n type data :: rest)
    (hparse : parseChannelExtendedData f = some (n, type, data.1))
    (hrec : ReceivesData t c n data.1) :
    Ensures ChannelError.NotRefused
      (fun r => PairInv t r.connection { d with written := rest })
      (handleChannelExtendedData c f) := by
  refine (handleChannelExtendedData_ensures h.left.toTableInv hparse).of_total.mono fun r hr => ?_
  cases t with
  | false =>
    have hlo : PairInv false c { d with written := rest } :=
      h.receiveLoose hd rfl (fun _ => rfl) fun _ => rfl
    split_ifs at hr
    · exact hlo.receiveDataLoose hr.2
    · rw [hr.2.2]
      exact hlo
  | true =>
    obtain ⟨x, hopen, _, hφ⟩ := h.exists_isOpen hd rfl fun _ => rfl
    split_ifs at hr with hty
    · refine h.receiveData hd rfl (fun _ => rfl) (fun _ => rfl) (fun r e a φ hφ => ?_) hopen hφ
        (fun hne => hrec rfl hne x hopen) hr.2
      rw [Phase.step, if_pos (.inl hty)] at hφ
      obtain ⟨b, hb, rfl⟩ := Option.map_eq_some_iff.mp hφ
      exact ⟨b, hb, rfl⟩
    · -- data of an unknown type is sent only where the account has been closed
      rw [hr.2.2]
      refine h.receiveSame hd rfl (fun _ => rfl) hopen (SshChannel.claim_cons rfl) fun φ hφ => ?_
      cases hp : x.phase true with
      | none =>
        rw [hp] at hφ
        cases hφ
      | some p =>
        rw [hp] at hφ
        cases p with
        | waiting => cases hφ
        | opened r e a =>
          have hφ : (Phase.opened r e a).step (.extendedData n type data) = some φ := hφ
          rw [Phase.step] at hφ
          split_ifs at hφ with hkn
          rcases hkn with hkn | rfl
          · exact absurd hkn hty
          · exact Option.some.inj hφ

end Handlers

/-! ### Opening -/

/-- A number waits, if an answer to an open request is on its way to it. -/
theorem PairInv.exists_isOpening (h : PairInv t c d) (hd : d.written = m :: rest)
    (hde : m.recipient t = some n) (hopd : ∀ r e a, (Phase.opened r e a).step m = none) :
    ∃ x, IsOpening c n x ∧
      phase t c n = some (.waiting (account t x.recWindowSize x.recMaxPacket)) := by
  obtain ⟨p, φ, hp, hφ⟩ := h.exists_phase hd hde
  cases p with
  | waiting a =>
    obtain ⟨x, hopg, _, rfl⟩ := isOpening_of_phase hp
    exact ⟨x, hopg, hp⟩
  | opened r e a => simp [hopd r e a] at hφ

namespace PairInv

section
variable (h : PairInv t c d)
include h

variable {remote w k : UInt32}

/-- An open request has been accepted. -/
theorem receiveConfirmation
    (hd : d.written = .openConfirmation n remote w k :: rest) (hopg : IsOpening c n x)
    (hwai : phase t c n = some (.waiting (account t x.recWindowSize x.recMaxPacket)))
    (ha : Acts c (.receiveConfirmation n.toNat remote w k) c') :
    PairInv t c' { d with written := rest } := by
  obtain ⟨s, hs, hst, hch⟩ := hopg
  obtain ⟨hslots, hwn⟩ : c'.slots = c.slots.set n.toNat
      ⟨.active, some (confirmed x remote w k), none⟩ ∧ c'.written = c.written := by
    cases ha with
    | receiveConfirmation _ _ _ hs' _ hch' =>
      rw [hs] at hs'
      cases hs'
      rw [hch] at hch'
      cases hch'
      exact ⟨rfl, List.append_nil _⟩
  have hr : Replaces c.slots c'.slots n.toNat _ _ := hslots ▸ Replaces.of_set hs _
  obtain ⟨hloc, hfl⟩ : x.localChannelNumber = n.toNat ∧ x.flags.Unused := by
    have hval := h.left.slot n.toNat s hs
    cases hval with
    | sentOpen hloc _ _ hfl =>
      cases hch
      exact ⟨hloc, hfl⟩
    | _ => cases hst
  refine ⟨h.left.acts ha, h.right.withWritten rest, ?_, ?_⟩
  · -- what the message promised is now in the table
    rw [hwn]
    refine h.out.congr (fun _ => rfl) fun n' => ?_
    have hcms := claims_replaces (t := t) rest hr n'
    have hold : s.claim t rest = none := by
      rw [Slot.claim, hst]
    have hnew : Slot.claim t rest ⟨.active, some (confirmed x remote w k), none⟩ =
        (Message.openConfirmation n remote w k).claim t rest := by
      have hclaim := SshChannel.claim_eq (t := t)
        (x := confirmed x remote w k) rest rfl hfl.sentClose
      rw [if_neg (by simp [confirmed, hfl.sentEof, hfl.receivedClose])] at hclaim
      refine hclaim.trans ?_
      rw [Message.claim, confirmed, hloc, UInt32.ofNat_toNat, hfl.sentEof]
    rw [Option.bind_some, hold, about_none, add_zero, hnew] at hcms
    rw [hcms, hd, claims, claims, messageClaims,
      tableClaims_neutral (m := .openConfirmation n remote w k) h.left.toTableInv fun _ => rfl]
    ac_rfl
  · have hinn := h.inn
    rw [hd] at hinn
    obtain ⟨φ, hφ, hre⟩ := hinn.receive rfl
    rw [hwai] at hφ
    cases hφ
    rw [hwn]
    have hn : UInt32.ofNat n.toNat = n := UInt32.ofNat_toNat
    have hphs (n' : UInt32) := phase_replaces (t := t) hr (by rw [hn])
      (ha.any_isFailure_eq fun _ => (by simp)) n'
    rw [hn] at hphs
    refine hre _ ?_ fun n' hn' => ?_
    · rw [hphs, Slot.phase]
      simp [SshChannel.phase, confirmed, hfl.receivedClose, hfl.receivedEof, hfl.sentClose]
    · rw [hphs, if_neg hn']

variable {reason : UInt32} {msg : LshString}

/-- An open request has been refused. -/
theorem receiveFailure (hd : d.written = .openFailure n reason msg :: rest)
    (hopg : IsOpening c n x)
    (hwai : phase t c n = some (.waiting (account t x.recWindowSize x.recMaxPacket)))
    (ha : Acts c (.receiveFailure n.toNat) c') : PairInv t c' { d with written := rest } := by
  obtain ⟨s, hs, hst, hch⟩ := hopg
  obtain ⟨hslots, hwn, hlog⟩ : c'.slots = c.slots ∧ c'.written = c.written ∧
      c'.log = c.log ++ [.receivedFailure x.serial] := by
    cases ha with
    | receiveFailure hs' _ hch' =>
      rw [hs] at hs'
      cases hs'
      rw [hch] at hch'
      cases hch'
      exact ⟨rfl, List.append_nil _, rfl⟩
  refine ⟨h.left.acts ha, h.right.withWritten rest, ?_, ?_⟩
  · rw [hwn]
    refine h.out.congr (fun _ => rfl) fun n' => ?_
    have hno : (Message.openFailure n reason msg).claim t rest = none := rfl
    rw [hd, claims, claims, hslots, messageClaims, hno, about_none, zero_add,
      tableClaims_neutral (m := .openFailure n reason msg) h.left.toTableInv fun _ => rfl]
  · have hinn := h.inn
    rw [hd] at hinn
    obtain ⟨φ, hφ, hre⟩ := hinn.receive rfl
    rw [hwai] at hφ
    cases hφ
    rw [hwn]
    refine hre _ ?_ fun n' hn' => ?_
    · -- the failure is on record
      rw [phase, hslots, hs, Option.bind_some, Slot.phase, hst, hch]
      rw [hlog]
      simp [Entry.isFailure]
    · -- and it is about no other object
      rw [phase, phase, hslots]
      cases hs' : c.slots[n'.toNat]? with
      | none => rfl
      | some s' =>
        rw [Option.bind_some, Option.bind_some, Slot.phase, Slot.phase]
        split
        · rename_i y hst' hch'
          have hser : x.serial ≠ y.serial := by
            intro heq
            have hi := h.left.serial_inj _ _ x y (channelAt_eq_some hs hch)
              (channelAt_eq_some hs' hch') heq
            exact hn' (UInt32.toNat_inj.mp hi.symm)
          rw [hlog]
          simp [Entry.isFailure, hser]
        · rfl
        · rfl

variable {type : LshString} {args : Octets}

/-- What an open request promises. -/
theorem claims_receiveOpen (hd : d.written = .open type remote w k args :: rest) (n) :
    claims t c d.written n = claims t c rest n +
      about n (some (remote, .waiting (account t w (min k 0x8000)))) := by
  rw [hd, claims, claims, messageClaims,
    ← tableClaims_neutral (m := .open type remote w k args) h.left.toTableInv fun _ => rfl]
  ac_rfl

/-- An open request is refused at once: the message that answers it takes back what it promised. -/
theorem refuse (hd : d.written = .open type remote w k args :: rest)
    (ha : Acts c (.refuse remote reason msg) c') : PairInv t c' { d with written := rest } := by
  obtain ⟨hslots, hwn⟩ : c'.slots = c.slots ∧
      c'.written = c.written ++ [.openFailure remote reason msg] := by
    cases ha with
    | refuse => exact ⟨rfl, rfl⟩
  have hre (n : UInt32) : claims t c' rest n = claims t c rest n := by
    rw [claims, claims, hslots]
  have hcms := h.claims_receiveOpen hd
  refine ⟨h.left.acts ha, h.right.withWritten rest, ?_, ?_⟩
  · rw [hwn]
    have hself := hcms remote
    rw [about_self] at hself
    refine h.out.send (p := .waiting (account t w (min k 0x8000))) rfl rfl ?_ ?_ fun n hn => ?_
    · rw [hself]
      exact Multiset.mem_add.mpr (.inr (Multiset.mem_singleton_self _))
    · rw [hre, hself, toClaims, add_zero]
    · rw [hre, hcms, about_of_ne (Ne.symm hn), add_zero]
  · have hinn := h.inn
    rw [hd] at hinn
    rw [hwn]
    refine (hinn.receive_none rfl).congr
      (phase_congr hslots (ha.any_isFailure_eq fun _ => (by simp))) fun n => ?_
    exact claims_snoc_neutral d (fun _ => rfl) rfl n

/-- A number is reserved for an open request. -/
theorem receiveOpen (hd : d.written = .open type remote w k args :: rest)
    (ha : Acts c (.receiveOpen i ⟨remote, w, min k 0x8000⟩) c') :
    PairInv t c' { d with written := rest } := by
  obtain ⟨hi, hslots, hwn⟩ : Found c i ∧ c'.slots =
      place c.slots i ⟨.receivedOpen, none, some ⟨remote, w, min k 0x8000⟩⟩ ∧
      c'.written = c.written := by
    cases ha with
    | receiveOpen _ hi => exact ⟨hi, rfl, rfl⟩
  have hr : Replaces c.slots c'.slots i _ _ := hslots ▸ Replaces.of_place hi.le_length _
  refine ⟨h.left.acts ha, h.right.withWritten rest, ?_, ?_⟩
  · rw [hwn]
    refine h.out.congr (fun _ => rfl) fun n => ?_
    have hpl := claims_replaces (t := t) rest hr n
    rw [hi.claim_eq_none, about_none, add_zero] at hpl
    rw [hpl, h.claims_receiveOpen hd]
    rfl
  · have hinn := h.inn
    rw [hd] at hinn
    rw [hwn]
    refine (hinn.receive_none rfl).congr (fun n => ?_) fun _ => rfl
    rw [phase_replaces hr hi.toNat_ofNat (ha.any_isFailure_eq fun _ => nofun)]
    split_ifs with hn
    · rw [hn, hi.phase_eq_none]
      rfl
    · rfl

end

end PairInv

section Handlers

variable {remote w k : UInt32} {f : Octets}

theorem handleOpenConfirm_pair (h : PairInv t c d)
    (hd : d.written = .openConfirmation n remote w k :: rest)
    (hparse : parseOpenConfirmation f = some (n, remote, w, k)) :
    Ensures ChannelError.NotRefused
      (fun r => PairInv t r.connection { d with written := rest }) (handleOpenConfirm c f) := by
  obtain ⟨x, hopg, hwai⟩ := h.exists_isOpening hd rfl fun _ _ _ => rfl
  refine (handleOpenConfirm_ensures h.left.toTableInv hparse).imp (fun e he => ?_) fun r hr => ?_
  · exact he.absurd fun hall => hall x hopg
  · exact h.receiveConfirmation hd hopg hwai hr.2.2.2

theorem handleOpenFailure_pair {reason : UInt32} {msg : LshString} (h : PairInv t c d)
    (hd : d.written = .openFailure n reason msg :: rest) (hparse : parseOpenFailure f = some n) :
    Ensures ChannelError.NotRefused
      (fun r => PairInv t r.connection { d with written := rest }) (handleOpenFailure c f) := by
  obtain ⟨x, hopg, hwai⟩ := h.exists_isOpening hd rfl fun _ _ _ => rfl
  refine (handleOpenFailure_ensures h.left.toTableInv hparse).of_total.mono fun r hr => ?_
  obtain ⟨_, ⟨hno, _⟩ | ⟨_, _, _, ha, _⟩⟩ := hr
  · exact absurd hopg (hno x)
  · exact h.receiveFailure hd hopg hwai ha

theorem handleChannelOpen_pair {type : LshString} {args : Octets} (h : PairInv t c d)
    (hd : d.written = .open type remote w k args :: rest)
    (hparse : parseChannelOpen f = some (type.1, remote, w, k, args)) :
    Ensures ChannelError.NotRefused
      (fun r => PairInv t r.connection { d with written := rest }) (handleChannelOpen c f) := by
  refine (handleChannelOpen_ensures h.left.toTableInv hparse).of_total.mono fun r hr => ?_
  obtain ⟨_, _, ⟨reason, msg, ha⟩ | ⟨i, ha⟩⟩ := hr
  · exact h.refuse hd ha
  · exact h.receiveOpen hd ha

end Handlers

/-! ### Any message -/

/-- What is asked of the program when a message arrives. -/
def Receives (t : Bool) (c : SshConnection κ) : Message → Prop
  | .data n data => ReceivesData t c n data.1
  | .extendedData n _ data => ReceivesData t c n data.1
  | _ => True

variable {f : Octets}

theorem handleGlobalRequest_acts {type : Octets} {want : Bool} {args : Octets} (h : PairInv t c d)
    (hparse : parseGlobalRequest f = some (type, want, args)) :
    Ensures ChannelError.NotRefused (fun r => PairInv t r.connection d)
      (handleGlobalRequest c f) := by
  have href (c' : SshConnection κ) (ha : Acts c (.refuseGlobal want) c') : PairInv t c' d := by
    have hend := h.left.acts ha
    have hlog := ha.any_isFailure_eq fun _ => nofun
    cases ha with
    | refuseGlobal =>
      refine h.quiet hend (phase_congr rfl hlog) (fun _ => rfl) (m := some .requestFailure) rfl
        fun m hm => ?_
      cases hm
      exact ⟨rfl, rfl, fun _ => rfl⟩
  refine (handleGlobalRequest_ensures hparse).of_total.mono fun r hr => ?_
  obtain ⟨_, _, ⟨_, _, ha⟩ | ⟨_, hsame, _⟩⟩ := hr
  · exact href _ ha
  · rwa [hsame]

theorem handleGlobalReply_acts (h : PairInv t c d) (hparse : parseEod f = some ()) (res msg) :
    Ensures ChannelError.NotRefused (fun r => PairInv t r.connection d)
      (handleGlobalReply c f res msg) := by
  have hrep (c' : SshConnection κ) (st : ℕ) (ha : Acts c (.receiveGlobalReply st res) c') :
      PairInv t c' d := by
    have hend := h.left.acts ha
    have hlog := ha.any_isFailure_eq fun _ => nofun
    cases ha with
    | receiveGlobalReply =>
      exact h.quiet hend (phase_congr rfl hlog) (fun _ => rfl) (m := none) rfl
        fun m hm => nomatch hm
  refine (handleGlobalReply_ensures hparse res msg).of_total.mono fun r hr => ?_
  obtain ⟨_, _, ⟨_, hsame⟩ | ⟨st, _, _, ha⟩⟩ := hr
  · rwa [hsame]
  · exact hrep _ st ha

/-- **Any message of the other end** is accepted, and keeps the invariant. -/
theorem PairInv.receivePacket (h : PairInv t c d) (hd : d.written = m :: rest)
    (hrec : Receives t c m)
    (hprm : ∀ a, answer c m.format = some a → Permitted t c a) :
    Ensures ChannelError.NotRefused
      (fun res => ∀ r ∈ res, PairInv t r.connection { d with written := rest })
      (receivePacket c m.format) := by
  cases m with
  | globalRequest type want args =>
    have hpop : PairInv t c { d with written := rest } :=
      h.receiveLoose hd rfl (fun _ => rfl) fun _ => rfl
    exact Ensures.some_map
      (handleGlobalRequest_acts hpop (parseGlobalRequest_format type want args))
  | requestSuccess | requestFailure =>
    have hpop : PairInv t c { d with written := rest } :=
      h.receiveLoose hd rfl (fun _ => rfl) fun _ => rfl
    exact Ensures.some_map (handleGlobalReply_acts hpop parseEod_nil _ _)
  | «open» type number w k args =>
    exact Ensures.some_map (handleChannelOpen_pair h hd
      (parseChannelOpen_format type number w k args))
  | openConfirmation n number w k =>
    exact Ensures.some_map (handleOpenConfirm_pair h hd (parseOpenConfirmation_format n number w k))
  | openFailure n reason msg =>
    exact Ensures.some_map (handleOpenFailure_pair h hd (parseOpenFailure_format n reason msg))
  | windowAdjust n add =>
    exact Ensures.some_map (handleAdjustWindow_pair h hd (parseWindowAdjust_format n add))
  | data n s =>
    exact Ensures.some_map (handleChannelData_pair h hd (parseChannelData_format n s) hrec)
  | extendedData n type s =>
    exact Ensures.some_map (handleChannelExtendedData_pair h hd
      (parseChannelExtendedData_format n type s) hrec)
  | eof n => exact Ensures.some_map (handleChannelEof_pair h hd (parseNumber_format n))
  | close n => exact Ensures.some_map (handleChannelClose_pair h hd (parseNumber_format n))
  | request n type want args =>
    exact Ensures.some_map (handleChannelRequest_pair h hd
      (parseChannelRequest_format n type want args) hprm)
  | success n =>
    exact Ensures.some_map
      (handleChannelReply_pair h hd rfl (.inl rfl) (parseNumber_format n) true _)
  | failure n =>
    exact Ensures.some_map
      (handleChannelReply_pair h hd rfl (.inr rfl) (parseNumber_format n) false _)

end Lsh.Channel
