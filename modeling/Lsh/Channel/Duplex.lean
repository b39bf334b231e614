
import Lsh.Channel.Phases

/-!
# Two endpoints

Two connections that both run `channel.c`, where each gets what the other has written, in order. The
invariant says that both views of each number agree: what one end takes for granted about a number
of the other is the phase that the number will be in when everything on the way has arrived.

This module is about the actions of the program at one of the ends. Most of them send a message on a
channel, and all of those are one argument: the message fits what the sender takes for granted about
the recipient, and at the same time it changes what the receiver will take for granted about the
sender. That no other number is affected is because a number has one peer.

## Main results

* `PairInv.exists_peer` — a number has one peer
* `PairInv.send` — a message on an open channel
* `PairInv.acts` — actions of the program keep the invariant
-/

namespace Lsh.Channel

open Machine Mailbox Table List

variable {κ κ' : Type} {c c' : SshConnection κ} {d : SshConnection κ'} {t : Bool} {i : ℕ}
  {n r : UInt32} {s s' : Slot κ} {x : SshChannel κ} {m : Message}

/-! ### Phases -/

variable {log : List Entry} {a : Option Account}

theorem Slot.phase_congr {log' : List Entry} (h : SameFailures log log') (s : Slot κ) :
    s.phase t log' = s.phase t log := by
  rw [phase, phase]
  split
  · rw [h _]
  · rfl
  · rfl

/-- A number that is open. -/
theorem Slot.phase_eq_opened {e : Bool} (h : s.phase t log = some (.opened r e a)) :
    s.state = .active ∧ ∃ x, s.channel = some x ∧
      x.remoteChannelNumber = some r ∧ x.flags.receivedClose = false ∧ e = x.flags.receivedEof ∧
      a = if x.flags.receivedEof ∨ x.flags.sentClose then none
        else account t x.recWindowSize x.recMaxPacket := by
  rw [phase] at h
  split at h
  · split_ifs at h
    cases h
  · rename_i x hst hch
    obtain ⟨peer, hpeer, hre⟩ := Option.bind_eq_some_iff.mp h
    by_cases hcl : x.flags.receivedClose
    · rw [if_pos hcl] at hre
      cases hre
    · rw [if_neg hcl] at hre
      have hre := Phase.opened.inj (Option.some.inj hre)
      refine ⟨hst, x, hch, ?_, Bool.eq_false_iff.mpr hcl, hre.2.1.symm, hre.2.2.symm⟩
      rw [hpeer, hre.1]
  · cases h

/-- A number that waits. -/
theorem Slot.phase_eq_waiting (h : s.phase t log = some (.waiting a)) :
    s.state = .sentOpen ∧ ∃ x, s.channel = some x ∧
      log.any (Entry.isFailure x.serial) = false ∧
      a = account t x.recWindowSize x.recMaxPacket := by
  rw [phase] at h
  split at h
  · rename_i x hst hch
    by_cases hfld : log.any (Entry.isFailure x.serial)
    · rw [if_pos hfld] at h
      cases h
    · rw [if_neg hfld] at h
      cases h
      exact ⟨hst, x, hch, Bool.eq_false_iff.mpr hfld, rfl⟩
  · obtain ⟨peer, _, hre⟩ := Option.bind_eq_some_iff.mp h
    split_ifs at hre
    all_goals cases hre
  · cases h

theorem phase_of_slot (h : TableInv c) (hs : c.slots[i]? = some s) :
    phase t c (UInt32.ofNat i) = s.phase t c.log := by
  rw [phase, h.toNat_ofNat hs, hs, Option.bind_some]

variable {old : Option (Slot κ)}

/-- The phases after an entry has been replaced. -/
theorem phase_replaces (hr : Replaces c.slots c'.slots i old s') (hi : (UInt32.ofNat i).toNat = i)
    (hlog : SameFailures c.log c'.log) (n : UInt32) :
    phase t c' n = if n = UInt32.ofNat i then s'.phase t c.log else phase t c n := by
  rw [phase, phase]
  have hphase : Slot.phase (κ := κ) t c'.log = Slot.phase t c.log := by
    funext s
    exact s.phase_congr hlog
  rw [hphase]
  split_ifs with hn
  · rw [hn, hi, hr.getElem?_self, Option.bind_some]
  · have hne : n.toNat ≠ i := fun heq => hn (by rw [← heq, UInt32.ofNat_toNat])
    rw [hr.getElem?_ne hne]

theorem phase_congr (hslots : c'.slots = c.slots)
    (hlog : SameFailures c.log c'.log) (n : UInt32) :
    phase t c' n = phase t c n := by
  rw [phase, phase, hslots]
  cases c.slots[n.toNat]? with
  | none => rfl
  | some s => exact s.phase_congr hlog

/-! ### Claims -/

/-- An open channel that has not sent CLOSE. -/
theorem SshChannel.claim_eq (q : List Message) (hrem : x.remoteChannelNumber = some r)
    (hcl : x.flags.sentClose = false) :
    x.claim t q = some (r, .opened (UInt32.ofNat x.localChannelNumber) x.flags.sentEof
      (if x.flags.sentEof ∨ x.flags.receivedClose then none
        else future q (UInt32.ofNat x.localChannelNumber)
          (account t x.sendWindowSize x.sendMaxPacket))) := by
  rw [claim, hrem, hcl]
  rfl

theorem Slot.claim_active (q) (hst : s.state = .active) (hch : s.channel = some x) :
    s.claim t q = x.claim t q := by
  rw [claim, hst, hch]

theorem claims_replaces (q) (hr : Replaces c.slots c'.slots i old s') (n) :
    claims t c' q n + about n (old.bind (Slot.claim t q)) =
      claims t c q n + about n (s'.claim t q) := by
  have htab := tableClaims_replaces (Slot.claim t q) hr n
  rw [claims, claims, add_right_comm, htab, add_right_comm]

variable {p : Phase}

theorem mem_claims (q) (hs : c.slots[i]? = some s) (hclaim : s.claim t q = some (n, p)) :
    p ∈ claims t c q n :=
  Multiset.mem_add.mpr (.inl (mem_tableClaims _ (mem_of_getElem? hs) hclaim))

variable {φ : Option Phase}

/-- A message that changes what one entry claims about its recipient. -/
theorem sound_send {ψ : UInt32 → Option Phase} {q w : List Message}
    (h : Sound (protocol t) ψ (claims t c q) w)
    (hr : Replaces c.slots c'.slots i (some s) s') (hclaim : s.claim t q = some (r, p))
    (hde : m.recipient t = some r) (hsp : p.step m = some φ)
    (hclaim' : s'.claim t q = φ.map (r, ·)) :
    Sound (protocol t) ψ (claims t c' q) (w ++ [m]) := by
  have hcms (n : UInt32) := claims_replaces (t := t) q hr n
  simp only [Option.bind_some, hclaim, hclaim'] at hcms
  refine h.send hde hsp (mem_claims q hr.getElem?_eq hclaim) ?_ fun n hn => ?_
  · have hself := hcms r
    rwa [about_self, about_toClaims] at hself
  · have hoth := hcms n
    have hz0 : about n (φ.map (r, ·)) = 0 := by
      cases φ with
      | none => rfl
      | some p => exact about_of_ne (Ne.symm hn) p
    rwa [about_of_ne (Ne.symm hn), hz0, add_zero, add_zero] at hoth

/-! ### The invariant -/

/-- **The invariant** of two endpoints. -/
structure PairInv (t : Bool) (c : SshConnection κ) (d : SshConnection κ') : Prop where
  left : EndInv c
  right : EndInv d
  out : Sound (protocol t) (phase t d) (claims t c d.written) c.written
  inn : Sound (protocol t) (phase t c) (claims t d c.written) d.written

namespace PairInv

theorem symm (h : PairInv t c d) : PairInv t d c := ⟨h.right, h.left, h.inn, h.out⟩

/-- **A number has one peer.** If the other end keeps an account for the number `n` and takes `r`
for its peer, then this end takes `n` for the peer of `r`. -/
theorem exists_peer {e : Bool} (h : PairInv t c d) {a : Account}
    (hp : .opened r e (some a) ∈ claims t d c.written n) :
    ∃ e' a', .opened n e' a' ∈ claims t c d.written r := by
  rcases predict_eq_opened (h.inn.predict_of_mem hp) with ⟨e', x', hphase, hsome⟩ | ⟨_, n', w, k, _,
    hm⟩
  · -- the number is open, and nobody has closed it
    obtain ⟨s, hs, hphase⟩ := Option.bind_eq_some_iff.mp hphase
    obtain ⟨hst, x, hch, hrem, _, _, hx'⟩ := Slot.phase_eq_opened hphase
    have hcl : x.flags.sentClose = false := by
      by_contra hcl
      rw [if_pos (.inr (Bool.eq_true_of_not_eq_false hcl))] at hx'
      rw [hx'] at hsome
      cases hsome rfl
    have hloc : UInt32.ofNat x.localChannelNumber = n := by
      rw [(h.left.slot n.toNat s hs).local_eq hch, UInt32.ofNat_toNat]
    have hclaim := (s.claim_active (t := t) d.written hst hch).trans
      (SshChannel.claim_eq d.written hrem hcl)
    rw [hloc] at hclaim
    exact ⟨_, _, mem_claims _ hs hclaim⟩
  · -- the number waits for a confirmation
    obtain ⟨hmem, hde⟩ := List.mem_filter.mp hm
    have hn : n' = n := Option.some.inj (of_decide_eq_true hde)
    rw [hn] at hmem
    obtain ⟨a, ha⟩ := mem_messageClaims (t := t) hmem
    exact ⟨_, a, Multiset.mem_add.mpr (.inr ha)⟩

/-- **A message on an open channel.** -/
theorem send (h : PairInv t c d) (hend : EndInv c') (hs : c.slots[i]? = some s)
    (hst : s.state = .active) (hch : s.channel = some x)
    (hrem : x.remoteChannelNumber = some r) (hcl : x.flags.sentClose = false)
    (hslots : c'.slots = c.slots.set i s')
    (hlog : SameFailures c.log c'.log)
    (hwn : c'.written = c.written ++ [m]) (hde : m.recipient t = some r)
    (hno : m.claim t [] = none) (hclaim : x.claim t d.written = some (r, p))
    (hsp : p.step m = some φ) (hclaim' : s'.claim t d.written = φ.map (r, ·))
    (hphase : s'.phase t c.log = (x.phase t).map (Phase.affect m)) : PairInv t c' d := by
  have hr : Replaces c.slots c'.slots i (some s) s' := hslots ▸ Replaces.of_set hs s'
  have hi := h.left.toNat_ofNat hs
  have hscm := (s.claim_active (t := t) d.written hst hch).trans hclaim
  have hmem := mem_claims d.written hs hscm
  have hsphase : phase t c (UInt32.ofNat i) = x.phase t := by
    rw [phase_of_slot h.left.toTableInv hs, Slot.phase, hst, hch]
  refine ⟨hend, h.right, ?_, ?_⟩
  · rw [hwn]
    exact sound_send h.out hr hscm hde hsp hclaim'
  · -- the claim about the sender changes with its phase, and no other
    have hcms (n : UInt32) :
        claims t d c'.written n = (claims t d c.written n).map (Phase.affect m) := by
      rw [hwn, claims_snoc, hno, about_none, add_zero]
    refine h.inn.map (f := Phase.mapAccount (m.affect r)) (Phase.step_mapAccount m r)
      (n := UInt32.ofNat i) ?_ ?_ (fun n hn => ?_) fun n hn => ?_
    · rw [phase_replaces hr hi hlog, if_pos rfl, hphase, hsphase, SshChannel.phase, hrem]
      split_ifs
      · rfl
      · rfl
      · rfl
    · rw [hcms]
      refine Multiset.map_congr rfl fun p' hp' => ?_
      have hprd := h.inn.predict_of_mem hp'
      rw [hsphase, SshChannel.phase, hrem, Option.bind_some] at hprd
      by_cases hrecv : x.flags.receivedClose
      · rw [if_pos hrecv] at hprd
        obtain ⟨_, hno⟩ := Protocol.eq_nil_of_predict_none _ hprd
        cases hno
      · rw [if_neg hrecv] at hprd
        obtain ⟨e', y, rfl, _⟩ := predict_opened hprd
        rfl
    · rw [phase_replaces hr hi hlog, if_neg hn]
    · rw [hcms]
      conv_rhs => rw [← Multiset.map_id (claims t d c.written n)]
      refine Multiset.map_congr rfl fun p' hp' => ?_
      cases p' with
      | waiting => rfl
      | opened peer e a =>
        cases a with
        | none => rfl
        | some a =>
          by_cases hpeer : peer = r
          · -- then `n` and the number of the sender are both the peer of `r`
            subst hpeer
            obtain ⟨e', a', hp⟩ := h.exists_peer hp'
            have hsame := h.out.eq_of_mem hp hmem
            rw [SshChannel.claim_eq d.written hrem hcl] at hclaim
            have heq := (Prod.mk.inj (Option.some.inj hclaim)).2
            rw [← hsame, (h.left.slot i s hs).local_eq hch] at heq
            exact absurd (Phase.opened.inj heq).1.symm hn
          · have hne : m.recipient t ≠ some peer := by
              rw [hde]
              exact fun heq => hpeer (Option.some.inj heq).symm
            rw [Phase.affect, Message.affect_of_ne hne, Option.bind_fun_some, id]

end PairInv

/-- A message that neither end has to know about. -/
structure Message.Loose (t : Bool) (m : Message) : Prop where
  recipient : m.recipient t = none
  claim : m.claim t [] = none
  neutral : m.Neutral

namespace PairInv

variable {m : Option Message}

/-- Phases and claims stay as they are. -/
theorem quiet (h : PairInv t c d) (hend : EndInv c')
    (hphase : ∀ n, phase t c' n = phase t c n)
    (hcms : ∀ n, claims t c' d.written n = claims t c d.written n)
    (hwn : c'.written = c.written ++ m.toList) (hlo : ∀ m' ∈ m, m'.Loose t) :
    PairInv t c' d := by
  have hout := h.out.congr (fun _ => rfl) hcms
  have hinn := h.inn.congr hphase (fun _ => rfl)
  refine ⟨hend, h.right, ?_, ?_⟩
  · rw [hwn]
    cases m with
    | none => rwa [Option.toList_none, append_nil]
    | some m => exact hout.send_none (hlo m rfl).recipient
  · rw [hwn]
    cases m with
    | none => rwa [Option.toList_none, append_nil]
    | some m =>
      have hm := hlo m rfl
      exact hinn.congr (fun _ => rfl) (claims_snoc_neutral d hm.neutral hm.claim)

/-- An entry is replaced by one that says the same. -/
theorem quiet_replaces (h : PairInv t c d) (hend : EndInv c')
    (hr : Replaces c.slots c'.slots i old s') (hi : (UInt32.ofNat i).toNat = i)
    (hlog : SameFailures c.log c'.log)
    (hphase : s'.phase t c.log = old.bind (Slot.phase t c.log))
    (hclaim : s'.claim t d.written = old.bind (Slot.claim t d.written))
    (hwn : c'.written = c.written ++ m.toList) (hlo : ∀ m' ∈ m, m'.Loose t) :
    PairInv t c' d := by
  refine h.quiet hend (fun n => ?_) (fun n => ?_) hwn hlo
  · rw [phase_replaces hr hi hlog]
    split_ifs with hn
    · rw [hphase, ← hr.getElem?_eq, hn, phase, hi]
    · rfl
  · have hcms := claims_replaces (t := t) d.written hr n
    rw [hclaim] at hcms
    exact add_right_cancel hcms

end PairInv

/-! ### Actions on a channel -/

/-- What a program may ask for. Nothing is sent on a channel after its CLOSE. To keep accounts, this
includes data, extended data is of the type that the other end knows, and no window grows past what
32 bits can hold. -/
def ChannelAction.Permitted (t : Bool) : ChannelAction κ → SshChannel κ → Prop
  | startReceive _, x => x.flags.sentClose = false
  | reply _, x => x.flags.sentClose = false
  | transmit type _, x => t = true → x.flags.sentClose = false ∧ (type = none ∨ type = some 1)
  | adjust add, x => t = true → x.recWindowSize.toNat + add.toNat < 2 ^ 32
  | _, _ => True

/-- What a program may ask for. -/
def Permitted (t : Bool) (c : SshConnection κ) : Action κ → Prop
  | .channel i a => ∀ x, channelAt c i = some x → a.Permitted t x
  | _ => True

/-- Data that fits the window is charged to the account, also when more of it is on the way. -/
theorem charge_future {b : Option Account} {s : LshString} (q n) (h : charge s a = some b) :
    charge s (future q n a) = some (future q n b) := by
  induction q generalizing a b with
  | nil => exact h
  | cons m q ih =>
    exact ih (charge_affect m n h)

theorem LshString.toNat_length (s : LshString) : (LshString.length s).toNat = s.1.length := by
  rw [length, UInt32.toNat_ofNat', Nat.mod_eq_of_lt s.2]

variable {w k : UInt32}

theorem charge_account {s : LshString} (hw : LshString.length s ≤ w) (hk : LshString.length s ≤ k) :
    charge s (account t w k) = some (account t (w - LshString.length s) k) := by
  rw [UInt32.le_iff_toNat_le, LshString.toNat_length] at hw hk
  cases t with
  | false => rfl
  | true =>
    rw [account, if_pos rfl, account, charge, Account.charge, if_pos ⟨hw, hk⟩]
    have hsub : (w - LshString.length s).toNat = w.toNat - s.1.length := by
      rw [UInt32.toNat_sub_of_le, LshString.toNat_length]
      rwa [UInt32.le_iff_toNat_le, LshString.toNat_length]
    rw [hsub]
    rfl

variable {add : UInt32}

/-- The account of the window that an end grants. -/
theorem account_add (h : t → w.toNat + add.toNat < 2 ^ 32) :
    account t (w + add) k = (account t w k).bind ((Message.windowAdjust n add).affect n) := by
  cases t with
  | false => rfl
  | true =>
    have hadd : (w + add).toNat = w.toNat + add.toNat := by
      rw [UInt32.toNat_add, Nat.mod_eq_of_lt (h rfl)]
    rw [account, if_pos rfl, account, if_pos rfl, Option.bind_some, Message.affect, if_pos rfl,
      hadd]

/-- The phase after the window has grown. -/
theorem SshChannel.phase_grow (hrem : x.remoteChannelNumber = some r)
    (h : t → x.recWindowSize.toNat + add.toNat < 2 ^ 32) :
    SshChannel.phase t { x with recWindowSize := x.recWindowSize + add } =
      (x.phase t).map (Phase.affect (.windowAdjust r add)) := by
  rw [phase, phase, hrem, account_add (n := r) h]
  split_ifs
  · rfl
  · rfl
  · rfl

/-- The phase after CLOSE has been sent: the account is closed. -/
theorem SshChannel.phase_close (hrem : x.remoteChannelNumber = some r) :
    SshChannel.phase t { x with flags := { x.flags with sentClose := true } } =
      (x.phase t).map (Phase.affect (.close r)) := by
  have hno (a : Option Account) : a.bind ((Message.close r).affect r) = none := by
    cases a with
    | none => rfl
    | some a => exact if_pos rfl
  rw [phase, phase]
  rw [hrem, Option.bind_some, Option.bind_some]
  by_cases hrecv : x.flags.receivedClose
  · rw [if_pos hrecv, if_pos hrecv, Option.map_none]
  · have htr : x.flags.receivedEof ∨ true := .inr rfl
    rw [if_neg hrecv, if_neg hrecv, if_pos htr, Option.map_some, Phase.affect, hno]

theorem SshChannel.phase_neutral (hm : m.Neutral) :
    x.phase t = (x.phase t).map (Phase.affect m) := by
  rw [hm.affect, Option.map_id, id]

namespace PairInv

variable {a : ChannelAction κ}

/-- A message that goes with an action. -/
theorem sendActs {f : UInt32 → Message} (h : PairInv t c d) (hs : c.slots[i]? = some s)
    (hch : s.channel = some x)
    (ha : Acts c (.channel i a) c')
    (hc' : c' = emit (setChannel c i (a.effect x)) (a.messages x) (a.entries x))
    (hrem : x.remoteChannelNumber.isSome) (hcl : x.flags.sentClose = false)
    (hmsg : a.message x = some f) (hde : ∀ r, (f r).recipient t = some r)
    (hno : ∀ r, (f r).claim t [] = none)
    (hsp : ∀ r, (Phase.opened (UInt32.ofNat x.localChannelNumber) x.flags.sentEof
      (if x.flags.sentEof ∨ x.flags.receivedClose then none
        else future d.written (UInt32.ofNat x.localChannelNumber)
          (account t x.sendWindowSize x.sendMaxPacket))).step (f r) = some φ)
    (hclaim : ∀ r, x.remoteChannelNumber = some r →
      (a.effect x).claim t d.written = φ.map (r, ·)) (hphase : ∀ r, x.remoteChannelNumber = some r →
      (a.effect x).phase t = (x.phase t).map (Phase.affect (f r))) : PairInv t c' d := by
  obtain ⟨r, hr⟩ := Option.isSome_iff_exists.mp hrem
  have hst := (h.left.slot i s hs).state_eq_active hch hrem
  have hmgs : a.messages x = [f r] := by
    rw [ChannelAction.messages, hmsg, hr]
  have hlog := ha.any_isFailure_eq fun _ => (by simp)
  have hslots : c'.slots = c.slots.set i { s with channel := some (a.effect x) } := by
    rw [hc', setChannel_eq hs]
    rfl
  refine h.send (h.left.acts ha) hs hst hch hr hcl hslots hlog ?_ (hde r) (hno r)
    (SshChannel.claim_eq _ hr hcl) (hsp r) ?_ ?_
  · rw [hc', hmgs]
    rfl
  · rw [hst]
    exact hclaim r hr
  · rw [hst]
    exact hphase r hr

/-- An action that changes nothing that the other end knows of. -/
theorem quietActs {m : Option Message}
    (h : PairInv t c d) (hs : c.slots[i]? = some s) (hch : s.channel = some x)
    (ha : Acts c (.channel i a) c')
    (hc' : c' = emit (setChannel c i (a.effect x)) (a.messages x) (a.entries x))
    (hmgs : a.messages x = m.toList) (hlo : ∀ m' ∈ m, m'.Loose t)
    (hclaim : (a.effect x).claim t d.written = x.claim t d.written)
    (hphase : (a.effect x).phase t = x.phase t)
    (hrec : account t (a.effect x).recWindowSize (a.effect x).recMaxPacket =
      account t x.recWindowSize x.recMaxPacket) : PairInv t c' d := by
  have hslots : c'.slots = c.slots.set i { s with channel := some (a.effect x) } := by
    rw [hc', setChannel_eq hs]
    rfl
  have hlog := ha.any_isFailure_eq fun _ => nofun
  refine h.quiet_replaces (h.left.acts ha) (hslots ▸ Replaces.of_set hs _)
    (h.left.toNat_ofNat hs) hlog ?_ ?_ ?_ hlo
  · obtain ⟨st, _, info⟩ := s
    cases hch
    cases st with
    | sentOpen =>
      rw [Option.bind_some, Slot.phase, Slot.phase]
      dsimp only
      rw [ChannelAction.effect_serial, hrec]
    | active => exact hphase
    | _ => rfl
  · obtain ⟨st, _, info⟩ := s
    cases hch
    cases st with
    | active => exact hclaim
    | receivedOpen => cases info <;> rfl
    | _ => rfl
  · rw [hc', hmgs]
    rfl

end PairInv

namespace PairInv

/-- Data on a channel. -/
theorem transmitActs {type : Option UInt32} {data : LshString} (h : PairInv t c d)
    (hs : c.slots[i]? = some s) (hch : s.channel = some x)
    (ha : Acts c (.channel i (.transmit type data)) c')
    (hc' : c' = emit (setChannel c i (ChannelAction.effect (.transmit type data) x))
      (ChannelAction.messages (.transmit type data) x)
      (ChannelAction.entries (.transmit type data) x))
    (hguard : ChannelAction.Guard (.transmit type data) x) (hrem : x.remoteChannelNumber.isSome)
    (hprm : ChannelAction.Permitted t (.transmit type data) x) : PairInv t c' d := by
  cases t with
  | false =>
    -- data does not count, and neither do windows
    have hclaim : (ChannelAction.effect (.transmit type data) x).claim false d.written =
        x.claim false d.written := rfl
    refine h.quietActs hs hch ha hc' (m := (ChannelAction.messages (.transmit type data) x)[0]?)
      ?_ ?_ hclaim rfl rfl
    all_goals
      obtain ⟨r, hr⟩ := Option.isSome_iff_exists.mp hrem
      rw [ChannelAction.messages, hr]
    · cases type <;> rfl
    · intro m hm
      cases type with
      | none | some type =>
        cases hm
        exact ⟨rfl, rfl, fun n => rfl⟩
  | true =>
    obtain ⟨hcl, hty⟩ := hprm rfl
    have hchg : charge data (if x.flags.sentEof = true ∨ x.flags.receivedClose = true then none
        else future d.written (UInt32.ofNat x.localChannelNumber)
          (account true x.sendWindowSize x.sendMaxPacket)) =
        some (if x.flags.sentEof = true ∨ x.flags.receivedClose = true then none
        else future d.written (UInt32.ofNat x.localChannelNumber)
          (account true (x.sendWindowSize - LshString.length data) x.sendMaxPacket)) := by
      split_ifs
      · rfl
      · exact charge_future _ _ (charge_account hguard.1 hguard.2)
    have hclaim (r : UInt32) (hr : x.remoteChannelNumber = some r) :=
      SshChannel.claim_eq (x := ChannelAction.effect (.transmit type data) x) (t := true) d.written
        hr hcl
    have hphase (m : Message) (hm : m.Neutral) := SshChannel.phase_neutral (x := x) (t := true) hm
    rcases hty with rfl | rfl
    · refine h.sendActs hs hch ha hc' hrem hcl rfl (fun _ => rfl) (fun _ => rfl)
        (fun r => ?_) (φ := some _) hclaim fun r _ => hphase _ fun _ => rfl
      rw [Phase.step, hchg]
      rfl
    · refine h.sendActs hs hch ha hc' hrem hcl rfl (fun _ => rfl) (fun _ => rfl)
        (fun r => ?_) (φ := some _) hclaim fun r _ => hphase _ fun _ => rfl
      rw [Phase.step, hchg]
      rfl

/-- **Actions on a channel** keep the invariant. -/
theorem channelActs (h : PairInv t c d) {a : ChannelAction κ} (ha : Acts c (.channel i a) c')
    (hloc : ¬a.IsReceive) (hprm : Permitted t c (.channel i a)) : PairInv t c' d := by
  have hacts := ha
  cases ha with
  | @channel _ s x _ hs hch hguard hact hrem =>
    have hprm := hprm x (channelAt_eq_some hs hch)
    have hsame (r : UInt32) (hr : x.remoteChannelNumber = some r)
        (hcl : x.flags.sentClose = false) := SshChannel.claim_eq (t := t) d.written hr hcl
    have hneu (m : Message) (hm : m.Neutral) := SshChannel.phase_neutral (x := x) (t := t) hm
    cases a with
    | adjust add =>
      have hcl := hguard.2.2
      exact h.sendActs hs hch hacts rfl (hrem rfl) hcl rfl (fun _ => rfl) (fun _ => rfl)
        (fun _ => rfl) (fun r hr => hsame r hr hcl)
        fun r hr => SshChannel.phase_grow hr hprm
    | startReceive w =>
      have hcl : x.flags.sentClose = false := hprm
      refine h.sendActs hs hch hacts rfl (hrem rfl) hcl rfl (fun _ => rfl)
        (fun _ => rfl) (fun _ => rfl) (fun r hr => hsame r hr hcl)
        fun r hr => SshChannel.phase_grow hr fun _ => ?_
      have hlt : x.recWindowSize < w := hguard
      have hle : x.recWindowSize ≤ w := UInt32.le_of_lt hlt
      rw [UInt32.toNat_sub_of_le _ _ hle]
      rw [UInt32.lt_iff_toNat_lt] at hlt
      have hw := w.toNat_lt
      omega
    | reply res =>
      have hcl : x.flags.sentClose = false := hprm
      cases res with
      | true | false =>
        exact h.sendActs hs hch hacts rfl (hrem rfl) hcl rfl (fun _ => rfl)
          (fun _ => rfl) (fun _ => rfl) (fun r hr => hsame r hr hcl)
          fun r _ => hneu _ fun _ => rfl
    | sendClose =>
      refine h.sendActs hs hch hacts rfl (hrem rfl) hguard rfl (fun _ => rfl)
        (fun _ => rfl) (fun _ => rfl) (fun r hr => ?_) fun r hr => ?_
      · rw [ChannelAction.effect]
        rw [hr]
        rfl
      · exact SshChannel.phase_close hr
    | sendEof =>
      obtain ⟨heof, hcl, _⟩ := hguard
      refine h.sendActs hs hch hacts rfl (hrem rfl) hcl rfl (fun _ => rfl) (fun _ => rfl)
        (fun r => ?_) (φ := some (.opened (UInt32.ofNat x.localChannelNumber) true none))
        (fun r hr => ?_) fun r _ => hneu _ fun _ => rfl
      · rw [heof]
        rfl
      · exact SshChannel.claim_eq (x := ChannelAction.effect .sendEof x) d.written hr hcl
    | transmit type data =>
      refine h.transmitActs hs hch hacts rfl hguard (hrem ?_) hprm
      cases type <;> rfl
    | request type want args =>
      cases want with
      | true | false =>
        exact h.sendActs hs hch hacts rfl (hrem rfl) hguard rfl (fun _ => rfl)
          (fun _ => rfl) (fun _ => rfl) (fun r hr => hsame r hr hguard)
          fun r _ => hneu _ fun _ => rfl
    | update u | kill =>
      exact h.quietActs hs hch hacts rfl (m := none) rfl (by simp) rfl rfl rfl
    | _ => exact absurd trivial hloc

end PairInv

/-! ### Actions of the program -/

/-- A number that is found is not in use. -/
theorem Found.phase_eq_none (hi : Found c i) : phase t c (UInt32.ofNat i) = none := by
  rw [phase, hi.toNat_ofNat]
  cases hs : c.slots[i]? with
  | none => rfl
  | some s => rw [Option.bind_some, Slot.phase, (hi.free s hs).1]

theorem Found.claim_eq_none (hi : Found c i) (q) : c.slots[i]?.bind (Slot.claim t q) = none := by
  cases hs : c.slots[i]? with
  | none => rfl
  | some s => rw [Option.bind_some, Slot.claim, (hi.free s hs).1]

/-- A packet size that is small enough is not changed. -/
theorem min_min_of_le {a b k : UInt32} (h : b ≤ k) : min (min a b) k = min a b := by
  have hle : min a b ≤ k := UInt32.le_trans Std.min_le_right h
  exact if_pos hle

namespace PairInv

section
variable (h : PairInv t c d)
include h

/-- A number is taken into use, and a message makes it known. -/
theorem sound_fresh (hr : Replaces c.slots c'.slots i old s')
    (hi : (UInt32.ofNat i).toNat = i)
    (hlog : SameFailures c.log c'.log)
    (hwn : c'.written = c.written ++ [m]) (hno : phase t c (UInt32.ofNat i) = none)
    (hphase : s'.phase t c.log = some p) (hclaim : m.claim t [] = some (UInt32.ofNat i, p))
    (hneu : m.Neutral) : Sound (protocol t) (phase t c') (claims t d c'.written) d.written := by
  have hcms (n : UInt32) : claims t d c'.written n =
      claims t d c.written n + about n (some (UInt32.ofNat i, p)) := by
    rw [hwn, claims_snoc, hneu.affect, Multiset.map_id, hclaim]
  refine h.inn.fresh (p := p) hno ?_ (fun n hn => ?_) ?_ fun n hn => ?_
  · rw [phase_replaces hr hi hlog, if_pos rfl, hphase]
  · rw [phase_replaces hr hi hlog, if_neg hn]
  · rw [hcms, about_self]
  · rw [hcms, about_of_ne (Ne.symm hn), add_zero]

variable {new : NewChannel κ}

/-- A new channel. -/
theorem openNew {type : LshString} {args : Octets} (ha : Acts c (.openNew i new type args) c') :
    PairInv t c' d := by
  obtain ⟨hi, hslots, hwn⟩ : Found c i ∧
      c'.slots = place c.slots i ⟨.sentOpen, some (newChannel c i new none), none⟩ ∧
      c'.written = c.written ++ [openMessage i new type args] := by
    cases ha with
    | openNew _ _ _ hi => exact ⟨hi, rfl, rfl⟩
  have hr : Replaces c.slots c'.slots i _ _ := hslots ▸ Replaces.of_place hi.le_length _
  refine ⟨h.left.acts ha, h.right, ?_, ?_⟩
  · rw [hwn]
    refine (h.out.send_none rfl).congr (fun _ => rfl) fun n => ?_
    have hcms := claims_replaces (t := t) d.written hr n
    rw [hi.claim_eq_none] at hcms
    exact add_right_cancel hcms
  · -- the serial number is new, so that no failure is on record for it
    have hfre : c.log.any (Entry.isFailure c.nextSerial) = false := by
      by_contra hfld
      exact absurd (h.left.failed_lt _ (Bool.eq_true_of_not_eq_false hfld)) (Nat.lt_irrefl _)
    refine h.sound_fresh hr hi.toNat_ofNat (ha.any_isFailure_eq fun _ => nofun) hwn
      hi.phase_eq_none (p := .waiting (account t new.recWindowSize
        (min new.recMaxPacket sshMaxDataSize))) ?_ ?_ fun _ => rfl
    · exact if_neg (by rw [newChannel, hfre]; exact Bool.false_ne_true)
    · rw [openMessage, Message.claim, min_min_of_le (by decide)]

/-- Nothing is on the way to a number that is reserved for an open request. -/
theorem future_receivedOpen {info : OpenInfo}
    (hs : c.slots[i]? = some ⟨.receivedOpen, none, some info⟩) (a) :
    future d.written (UInt32.ofNat i) a = a := by
  have hno : phase t c (UInt32.ofNat i) = none := by
    rw [phase_of_slot h.left.toTableInv hs, Slot.phase]
  obtain ⟨hibx, _⟩ := h.inn.inbox_eq_nil hno
  refine future_of_forall (fun m hm => ?_) a
  have hde : m.recipient t ≠ some (UInt32.ofNat i) := by
    intro hde
    rw [Protocol.inbox, filter_eq_nil_iff] at hibx
    exact hibx m hm (decide_eq_true hde)
  exact Message.affect_of_ne hde

/-- An open request is accepted. -/
theorem confirm (ha : Acts c (.confirm i new) c') : PairInv t c' d := by
  obtain ⟨info, hs, hslots, hwn⟩ : ∃ info : OpenInfo,
      c.slots[i]? = some ⟨.receivedOpen, none, some info⟩ ∧
      c'.slots = c.slots.set i ⟨.active, some (newChannel c i new (some info)), none⟩ ∧
      c'.written = c.written ++ [confirmMessage i new info] := by
    cases ha with
    | confirm _ hs => exact ⟨_, hs, rfl, rfl⟩
  have hr : Replaces c.slots c'.slots i _ _ := hslots ▸ Replaces.of_set hs _
  refine ⟨h.left.acts ha, h.right, ?_, ?_⟩
  · rw [hwn]
    refine sound_send h.out hr rfl rfl rfl ?_
    have hclaim := SshChannel.claim_eq (t := t) (x := newChannel c i new (some info)) d.written
      rfl rfl
    rw [newChannel, h.future_receivedOpen hs] at hclaim
    exact hclaim
  · refine h.sound_fresh hr (h.left.toNat_ofNat hs) (ha.any_isFailure_eq fun _ => nofun) hwn ?_
      (p := .opened info.remoteChannelNumber false (account t new.recWindowSize
        (min new.recMaxPacket sshMaxDataSize))) rfl ?_ fun _ => rfl
    · rw [phase_of_slot h.left.toTableInv hs, Slot.phase]
    · rw [confirmMessage, Message.claim, min_min_of_le (UInt32.le_refl _), future_nil]

/-- An open request is denied. -/
theorem deny {reason : UInt32} {msg : LshString} (ha : Acts c (.deny i reason msg) c') :
    PairInv t c' d := by
  obtain ⟨info, hs, hslots, hwn⟩ : ∃ info : OpenInfo,
      c.slots[i]? = some ⟨.receivedOpen, none, some info⟩ ∧
      c'.slots = c.slots.set i ⟨.free, none, none⟩ ∧
      c'.written = c.written ++ [.openFailure info.remoteChannelNumber reason msg] := by
    cases ha with
    | deny _ _ hs => exact ⟨_, hs, rfl, rfl⟩
  have hr : Replaces c.slots c'.slots i _ _ := hslots ▸ Replaces.of_set hs _
  refine ⟨h.left.acts ha, h.right, ?_, ?_⟩
  · rw [hwn]
    exact sound_send h.out hr rfl rfl rfl rfl
  · refine h.inn.congr (fun n => ?_) fun n => ?_
    · rw [phase_replaces hr (h.left.toNat_ofNat hs) (ha.any_isFailure_eq fun _ => nofun)]
      split_ifs with hn
      · rw [hn, phase_of_slot h.left.toTableInv hs]
        rfl
      · rfl
    · rw [hwn]
      exact claims_snoc_neutral d (fun _ => rfl) rfl n

/-- A channel is gone. -/
theorem finish (ha : Acts c (.finish i) c') : PairInv t c' d := by
  obtain ⟨s, x, hs, hch, hst, hslots, hwn⟩ : ∃ s x, c.slots[i]? = some s ∧
      s.channel = some x ∧ (s.state = .active ∧ x.flags.sentClose ∧
        x.flags.receivedClose ∨ s.state = .sentOpen ∧ .receivedFailure x.serial ∈ c.log) ∧
      c'.slots = c.slots.set i ⟨.free, none, none⟩ ∧ c'.written = c.written ++ [] := by
    cases ha with
    | finish hs hch _ hst =>
      exact ⟨_, _, hs, hch, hst, settle_slots _, settle_written _⟩
  have hr : Replaces c.slots c'.slots i _ _ := hslots ▸ Replaces.of_set hs _
  refine h.quiet_replaces (m := none) (h.left.acts ha) hr (h.left.toNat_ofNat hs)
    (ha.any_isFailure_eq fun _ => nofun) ?_ ?_ hwn fun _ hm => nomatch hm
  · rw [Option.bind_some, Slot.phase, Slot.phase, hch]
    rcases hst with ⟨hst, _, hrecv⟩ | ⟨hst, hfld⟩
    · rw [hst]
      dsimp only
      rw [SshChannel.phase]
      cases x.remoteChannelNumber with
      | none => rfl
      | some r => rw [Option.bind_some, if_pos hrecv]
    · rw [hst]
      dsimp only
      rw [if_pos]
      exact List.any_eq_true.mpr ⟨_, hfld, decide_eq_true rfl⟩
  · rw [Option.bind_some, Slot.claim, Slot.claim, hch]
    rcases hst with ⟨hst, hcl, _⟩ | ⟨hst, _⟩
    · rw [hst]
      dsimp only
      rw [SshChannel.claim]
      cases x.remoteChannelNumber with
      | none => rfl
      | some r => rw [Option.bind_some, if_pos hcl]
    · rw [hst]

/-- **Actions of the program** keep the invariant. -/
theorem acts {a : Action κ} (ha : Acts c a c') (hloc : a.IsLocal)
    (hprm : Permitted t c a) : PairInv t c' d := by
  have hend := h.left.acts ha
  have hlog := ha.any_isFailure_eq
  cases a with
  | channel i a => exact h.channelActs ha hloc hprm
  | openNew => exact h.openNew ha
  | confirm => exact h.confirm ha
  | deny => exact h.deny ha
  | finish => exact h.finish ha
  | sendGlobal type st args =>
    cases ha with
    | sendGlobal =>
      refine h.quiet hend (phase_congr rfl (hlog fun _ => nofun)) (fun _ => rfl)
        (m := some (.globalRequest type st.isSome args)) rfl fun m hm => ?_
      cases hm
      exact ⟨rfl, rfl, fun _ => rfl⟩
  | globalReply want res =>
    cases ha with
    | globalReply =>
      refine h.quiet hend (phase_congr rfl (hlog fun _ => nofun)) (fun _ => rfl)
        (m := if want then some (globalMessage res) else none) ?_ fun m hm => ?_
      · cases want <;> rfl
      · cases want with
        | false => cases hm
        | true =>
          cases hm
          cases res <;> exact ⟨rfl, rfl, fun _ => rfl⟩
  | pendingClose =>
    cases ha with
    | pendingClose =>
      refine h.quiet hend (phase_congr (settle_slots _) (hlog fun _ => nofun)) (fun n => ?_)
        (m := none) ((settle_written _).trans (append_nil _).symm) fun _ hm => nomatch hm
      rw [claims, settle_slots]
      rfl
  | _ => exact absurd hloc id

/-- **Actions of the program, one after the other.** -/
theorem steps (hs : Steps (Local (Permitted t)) c c') : PairInv t c' d := by
  have hacts (c₁ : SshConnection κ) (a : Action κ) (c₂ : SshConnection κ) (ha : Acts c₁ a c₂)
      (hP : Local (Permitted t) c₁ a) (h₁ : PairInv t c₁ d) : PairInv t c₂ d :=
    h₁.acts ha hP.1 hP.2
  exact hs.inv hacts h

end

end PairInv

end Lsh.Channel
