
import Lsh.Channel.Handlers

/-!
# Events are actions

A packet, a call and a notification of all channels amount to actions of the endpoint. The one thing
that has to be carried through the call into the program is what the rest of a handler relies on:
the object that it is about, if it is still in its slot, is in the state in which the handler left
it.

## Main results

* `receivePacket_acts` — a handler up to the call into the program
* `finishPacket_steps` — the rest of a handler
* `endpointStep_steps` — an event whose calls meet a condition is a sequence of actions that do
-/

namespace Lsh.Channel

open Machine Table Wire List

variable {κ : Type} {c d : SshConnection κ} {i : ℕ}

/-! ### Objects through actions of the program -/

theorem ChannelAction.effect_receivedClose {a : ChannelAction κ} (h : ¬a.IsReceive) (channel) :
    (a.effect channel).flags.receivedClose = channel.flags.receivedClose := by
  cases a with
  | receiveClose => exact absurd trivial h
  | request type want args =>
    rw [effect]
    split <;> rfl
  | _ => rfl

variable {a : Action κ} {after : After}

theorem Acts.nextSerial_le (h : Acts c a d) : c.nextSerial ≤ d.nextSerial := by
  cases h with
  | openNew | confirm => exact Nat.le_succ _
  | finish =>
    rw [settle_nextSerial]
    exact Nat.le_refl _
  | pendingClose => rw [settle_nextSerial]
  | _ => exact Nat.le_refl _

theorem Acts.exists_log (h : Acts c a d) : ∃ es, d.log = c.log ++ es := by
  cases h with
  | receiveOpen => exact ⟨[], (append_nil _).symm⟩
  | finish => exact ⟨_, settle_log _⟩
  | pendingClose => exact ⟨[], (settle_log _).trans (append_nil _).symm⟩
  | _ => exact ⟨_, rfl⟩

/-- What is put on record stays there. -/
theorem Acts.mem_log {e : Entry} (h : Acts c a d) (he : e ∈ c.log) : e ∈ d.log := by
  obtain ⟨es, hes⟩ := h.exists_log
  rw [hes]
  exact mem_append_left _ he

/-- An object that was there before an action of the program was in the same slot, in the same
state, and has not received CLOSE in between. -/
theorem Acts.exists_old {t : Slot κ} {y : SshChannel κ} (h : Acts c a d) (hloc : a.IsLocal)
    (ht : d.slots[i]? = some t)
    (hy : t.channel = some y) (hold : y.serial < c.nextSerial) :
    ∃ s x, c.slots[i]? = some s ∧ s.channel = some x ∧ x.serial = y.serial ∧ s.state = t.state ∧
      x.flags.receivedClose = y.flags.receivedClose := by
  -- a slot that has been replaced has no object or a new one
  have hrpd {j : ℕ} {old : Option (Slot κ)} {new : Slot κ}
      (hr : Replaces c.slots d.slots j old new)
      (hnew : ∀ z, new.channel = some z → c.nextSerial ≤ z.serial) :
      ∃ s x, c.slots[i]? = some s ∧ s.channel = some x ∧ x.serial = y.serial ∧ s.state = t.state ∧
        x.flags.receivedClose = y.flags.receivedClose := by
    rcases hr.of_getElem? ht with ⟨_, rfl⟩ | ⟨_, ht'⟩
    · have hge := hnew y hy
      omega
    · exact ⟨t, y, ht', hy, rfl, rfl, rfl⟩
  cases h with
  | @channel j s channel a hs hch =>
    rw [setChannel_eq hs] at ht
    rcases (Replaces.of_set hs _).of_getElem? ht with ⟨rfl, rfl⟩ | ⟨_, ht'⟩
    · cases hy
      refine ⟨s, channel, hs, hch, (a.effect_serial channel).symm, rfl, ?_⟩
      exact (ChannelAction.effect_receivedClose hloc channel).symm
    · exact ⟨t, y, ht', hy, rfl, rfl, rfl⟩
  | openNew new type args hi =>
    refine hrpd (Replaces.of_place hi.le_length _) fun z hz => ?_
    cases hz
    exact Nat.le_refl _
  | confirm new hs =>
    refine hrpd (Replaces.of_set hs _) fun z hz => ?_
    cases hz
    exact Nat.le_refl _
  | deny reason msg hs =>
    refine hrpd (Replaces.of_set hs _) fun z hz => ?_
    cases hz
  | finish hs =>
    rw [settle_slots] at ht
    rcases (Replaces.of_set hs _).of_getElem? ht with ⟨_, rfl⟩ | ⟨_, ht'⟩
    · cases hy
    · exact ⟨t, y, ht', hy, rfl, rfl, rfl⟩
  | sendGlobal | globalReply => exact ⟨t, y, ht, hy, rfl, rfl, rfl⟩
  | pendingClose =>
    rw [settle_slots] at ht
    exact ⟨t, y, ht, hy, rfl, rfl, rfl⟩
  | _ => exact absurd hloc id

/-! ### The rest of a handler -/

/-- What the rest of a handler relies on. -/
def AfterOk (c : SshConnection κ) : After → Prop
  | .done => True
  | .maybeClose _ _ => True
  | .close i serial => serial < c.nextSerial ∧
    ∀ s x, c.slots[i]? = some s → s.channel = some x → x.serial = serial →
      s.state = .active ∧ x.flags.receivedClose = true
  | .finish i serial => serial < c.nextSerial ∧ .receivedFailure serial ∈ c.log ∧
    ∀ s x, c.slots[i]? = some s → s.channel = some x → x.serial = serial → s.state = .sentOpen

theorem AfterOk.acts (h : AfterOk c after) (ha : Acts c a d) (hloc : a.IsLocal) :
    AfterOk d after := by
  cases after with
  | done | maybeClose => trivial
  | close i ser =>
    obtain ⟨hlt, hobj⟩ := h
    refine ⟨Nat.lt_of_lt_of_le hlt ha.nextSerial_le, fun t y ht hy hser => ?_⟩
    rw [← hser] at hlt
    obtain ⟨s, x, hs, hx, hsame, hst, hfg⟩ := ha.exists_old hloc ht hy hlt
    rw [← hst, ← hfg]
    exact hobj s x hs hx (hsame.trans hser)
  | finish i ser =>
    obtain ⟨hlt, hlog, hobj⟩ := h
    refine ⟨Nat.lt_of_lt_of_le hlt ha.nextSerial_le, ha.mem_log hlog, fun t y ht hy hser => ?_⟩
    rw [← hser] at hlt
    obtain ⟨s, x, hs, hx, hsame, hst, _⟩ := ha.exists_old hloc ht hy hlt
    rw [← hst]
    exact hobj s x hs hx (hsame.trans hser)

theorem isCurrent_iff {serial : ℕ} : isCurrent c i serial ↔ ∃ x, channelAt c i = some x ∧
    x.serial = serial := by
  rw [isCurrent]
  cases channelAt c i with
  | none | some x => simp

/-- The rest of a handler for an object that is still there. -/
theorem finishAfter_steps (h : TableInv c) (hok : AfterOk c after) :
    Ensures ChannelError.Misuse (Steps Free c) (finishAfter c after) := by
  cases after with
  | done => exact Steps.refl c
  | maybeClose i ser =>
    rw [finishAfter]
    split_ifs
    · exact (channelMaybeClose_performs h i).mono fun _ hd => hd.steps
    · exact Steps.refl c
  | close i ser =>
    rw [finishAfter]
    split_ifs with hcur
    · obtain ⟨x, hc, hser⟩ := isCurrent_iff.mp hcur
      obtain ⟨s, hs, hx⟩ := exists_slot hc
      obtain ⟨hst, hrecv⟩ := hok.2 s x hs hx hser
      rw [finishClose, hc]
      dsimp only
      split_ifs with hsent
      · exact (channelFinished_steps h hs hx (.inl ⟨hst, hsent, hrecv⟩)).of_total
      · exact (channelClose_performs h i).mono fun _ hd => hd.steps
    · exact Steps.refl c
  | finish i ser =>
    rw [finishAfter]
    split_ifs with hcur
    · obtain ⟨x, hc, hser⟩ := isCurrent_iff.mp hcur
      obtain ⟨s, hs, hx⟩ := exists_slot hc
      have hst := hok.2.2 s x hs hx hser
      have hlog := hok.2.1
      rw [← hser] at hlog
      exact (channelFinished_steps h hs hx (.inr ⟨hst, hlog⟩)).of_total
    · exact Steps.refl c

theorem finishPacket_steps (h : TableInv c) (hok : AfterOk c after) :
    Ensures ChannelError.Misuse (Steps Free c) (finishPacket c after) := by
  rw [finishPacket]
  split_ifs
  · exact finishAfter_steps h hok
  · exact Steps.refl c

/-! ### Packets -/

/-- The answer of a handler to a request on a channel that nobody handles. -/
def requestAnswer (c : SshConnection κ) (s : Octets) : Option (Action κ) :=
  (parseChannelRequest s).bind fun (n, type, wantReply, _) =>
    (channelAt c n.toNat).bind fun x =>
      if wantReply ∧ ¬Handles x type then some (.channel n.toNat (.reply false)) else none

/-- The answer of a handler to a global request that nobody handles. -/
def globalAnswer (c : SshConnection κ) (s : Octets) : Option (Action κ) :=
  (parseGlobalRequest s).bind fun (type, wantReply, _) =>
    if HandlesGlobal c type then none else some (.refuseGlobal wantReply)

/-- What a handler answers without asking the program. -/
def answer (c : SshConnection κ) : Octets → Option (Action κ)
  | [] => none
  | msg :: s =>
    match msg.toNat with
    | 80 => globalAnswer c s
    | 98 => requestAnswer c s
    | _ => none

/-- If the number of a channel may be due after an action, the rest of the handler looks after it.
Handlers do not send CLOSE before the call. -/
def Action.LooksAfter (c : SshConnection κ) (after : After) : Action κ → Prop
  | .channel _ .sendClose => False
  | .channel i .receiveClose => ∀ x, channelAt c i = some x → after = .close i x.serial
  | .receiveFailure i => ∀ x, channelAt c i = some x → after = .finish i x.serial
  | _ => True

/-- A handler up to the call into the program: at most one action, and the rest of the handler can
rely on it. -/
structure Answered (c : SshConnection κ) (answer : Option (Action κ)) (r : Received κ) : Prop where
  acts : r.connection = c ∨ ∃ a, Acts c a r.connection ∧ (a.IsFree ∨ answer = some a) ∧
    a.LooksAfter c r.after
  after : AfterOk r.connection r.after

variable {channel : SshChannel κ} {n : UInt32}

/-- The object of a handler is the one in its slot. -/
theorem afterOk_close (h : TableInv c) (hopen : IsOpen c n channel)
    (hacts : Acts c (.channel n.toNat .receiveClose) d) :
    AfterOk d (.close n.toNat channel.serial) := by
  have hlt := h.serial_lt hopen.channelAt_eq
  refine ⟨Nat.lt_of_lt_of_le hlt hacts.nextSerial_le, fun t y ht hy _ => ?_⟩
  have hself := hacts.channelAt_self hopen.channelAt_eq
  rw [channelAt_eq_some ht hy] at hself
  cases hself
  obtain ⟨slot, hs, hst, _⟩ := hopen
  refine ⟨?_, rfl⟩
  cases hacts with
  | channel _ hs' =>
    rw [setChannel_eq hs'] at ht
    rcases (Replaces.of_set hs' _).of_getElem? ht with ⟨_, rfl⟩ | ⟨hne, _⟩
    · rw [hs] at hs'
      cases hs'
      exact hst
    · exact absurd rfl hne

theorem afterOk_finish (h : TableInv c) (hopg : IsOpening c n channel)
    (hacts : Acts c (.receiveFailure n.toNat) d) (hlog : .receivedFailure channel.serial ∈ d.log) :
    AfterOk d (.finish n.toNat channel.serial) := by
  obtain ⟨slot, hs, hst, hch⟩ := hopg
  have hlt := h.serial_lt (channelAt_eq_some hs hch)
  refine ⟨Nat.lt_of_lt_of_le hlt hacts.nextSerial_le, hlog, fun t y ht _ _ => ?_⟩
  cases hacts with
  | receiveFailure =>
    have ht' : c.slots[n.toNat]? = some t := ht
    rw [hs] at ht'
    cases ht'
    exact hst

/-- A parser that fails leads to a connection error. -/
theorem rejected_connectionError (msg) :
    ChannelError.Rejected (.connectionError msg) := .inl ⟨msg, rfl⟩

theorem Refused.rejected {reason : Prop} {e : ChannelError} (h : Refused reason e) : e.Rejected :=
  .inl h.1

/-- What a handler has for a result is the result for its packet. -/
theorem Ensures.some_map (hx : Ensures E P x) :
    Ensures E (fun res => ∀ r ∈ res, P r) (some <$> x) := by
  refine hx.map fun r hr r' hr' => ?_
  cases hr'
  exact hr

/-- An action that is about global requests. -/
def Action.IsGlobal : Action κ → Prop
  | .sendGlobal _ _ _ => True
  | .globalReply _ _ => True
  | .refuseGlobal _ => True
  | .receiveGlobalReply _ _ => True
  | _ => False

/-- What a handler does up to the call, if it is not about global requests. -/
def NotGlobal (c : SshConnection κ) (r : Received κ) : Prop :=
  r.connection = c ∨ ∃ a : Action κ, ¬a.IsGlobal ∧ Acts c a r.connection

/-- A packet that is about global requests. -/
def isGlobalPacket : Octets → Bool
  | [] => false
  | msg :: _ => msg.toNat ∈ [80, 81, 82]

/-- What a handler has done when it calls the program. -/
structure Handled (c : SshConnection κ) (global : Bool) (answer : Option (Action κ))
    (r : Received κ) : Prop extends Answered c answer r where
  arrival : Arrival c r
  notGlobal : global = false → NotGlobal c r

variable {r : Received κ} {P : SshConnection κ → Action κ → Prop}

section
variable (harr : Arrival c r) {answer : Option (Action κ)}
include harr

variable {global : Bool}

theorem Handled.same
    (haft : r.after = .done) (hsame : r.connection = c) : Handled c global answer r :=
  ⟨⟨.inl hsame, by rw [haft]; trivial⟩, harr, fun _ => .inl hsame⟩

theorem Handled.acted
    (haft : AfterOk r.connection r.after) (hacts : Acts c a r.connection)
    (hkd : a.IsFree ∨ answer = some a) (hlks : a.LooksAfter c r.after)
    (hglb : global = false → ¬a.IsGlobal) : Handled c global answer r :=
  ⟨⟨.inr ⟨a, hacts, hkd, hlks⟩, haft⟩, harr, fun h => .inr ⟨a, hglb h, hacts⟩⟩

/-- One action that the program may always take, with nothing to do after the call. -/
theorem Handled.done
    (haft : r.after = .done) (hacts : Acts c a r.connection) (hfe : a.IsFree)
    (hlks : a.LooksAfter c r.after) (hglb : global = false → ¬a.IsGlobal) :
    Handled c global answer r :=
  .acted harr (by rw [haft]; trivial) hacts (.inl hfe) hlks hglb

theorem DataReceived.handled {n : UInt32} {err : Bool} {data : Octets}
    (h : DataReceived c n err data r) : Handled c false none r := by
  obtain ⟨haft, ⟨hsame, _⟩ | ⟨channel, _, _, _, hacts⟩⟩ := h
  · exact .same harr haft hsame
  · exact .done harr haft hacts trivial trivial fun _ => id

end

section Answered

variable (c) (s : Octets)

theorem handleGlobalRequest_handled :
    Ensures ChannelError.Rejected (Handled c true (globalAnswer c s))
      (handleGlobalRequest c s) := by
  cases hparse : parseGlobalRequest s with
  | none =>
    rw [handleGlobalRequest, hparse]
    exact rejected_connectionError _
  | some args =>
    refine (handleGlobalRequest_ensures hparse).of_total.mono fun r hr => ?_
    obtain ⟨haft, ⟨hunk, _, hacts⟩ | ⟨_, hsame, _⟩⟩ := hr.2
    · refine .acted hr.1 (by rw [haft]; trivial) hacts (.inr ?_) trivial (by simp)
      rw [globalAnswer, hparse]
      exact if_neg hunk
    · exact .same hr.1 haft hsame

theorem handleGlobalReply_handled (res msg) :
    Ensures ChannelError.Rejected (Handled c true none) (handleGlobalReply c s res msg) := by
  cases hparse : parseEod s with
  | none =>
    rw [handleGlobalReply, hparse]
    exact rejected_connectionError _
  | some _ =>
    refine (handleGlobalReply_ensures hparse res msg).of_total.mono fun r hr => ?_
    obtain ⟨haft, ⟨_, hsame⟩ | ⟨st, rest, _, hacts⟩⟩ := hr.2
    · exact .same hr.1 haft hsame
    · exact .done hr.1 haft hacts trivial trivial (by simp)

variable {c} (h : TableInv c)
include h

theorem handleChannelOpen_handled :
    Ensures ChannelError.Rejected (Handled c false none) (handleChannelOpen c s) := by
  cases hparse : parseChannelOpen s with
  | none =>
    rw [handleChannelOpen, hparse]
    exact rejected_connectionError _
  | some args =>
    refine (handleChannelOpen_ensures h hparse).of_total.mono fun r hr => ?_
    obtain ⟨haft, ⟨reason, msg, hacts⟩ | ⟨i, hacts⟩⟩ := hr.2
    · exact .done hr.1 haft hacts trivial trivial fun _ => id
    · exact .done hr.1 haft hacts trivial trivial fun _ => id

theorem handleOpenConfirm_handled :
    Ensures ChannelError.Rejected (Handled c false none) (handleOpenConfirm c s) := by
  cases hparse : parseOpenConfirmation s with
  | none =>
    rw [handleOpenConfirm, hparse]
    exact rejected_connectionError _
  | some args =>
    refine (handleOpenConfirm_ensures h hparse).imp (fun e he => he.rejected) fun r hr => ?_
    obtain ⟨haft, _, hacts⟩ := hr.2
    exact .done hr.1 haft hacts trivial trivial fun _ => id

theorem handleOpenFailure_handled :
    Ensures ChannelError.Rejected (Handled c false none) (handleOpenFailure c s) := by
  cases hparse : parseOpenFailure s with
  | none =>
    rw [handleOpenFailure, hparse]
    exact rejected_connectionError _
  | some n =>
    refine (handleOpenFailure_ensures h hparse).of_total.mono fun r hr => ?_
    obtain ⟨_, hsame, haft⟩ | ⟨channel, hopg, haft, hacts, hlog⟩ := hr.2
    · exact .same hr.1 haft hsame
    · refine .acted hr.1 ?_ hacts (.inl trivial) (fun x hx => ?_) fun _ => id
      · rw [haft]
        exact afterOk_finish h hopg hacts hlog
      · obtain ⟨slot, hs, _, hch⟩ := hopg
        rw [channelAt_eq_some hs hch] at hx
        cases hx
        exact haft

theorem handleAdjustWindow_handled :
    Ensures ChannelError.Rejected (Handled c false none) (handleAdjustWindow c s) := by
  cases hparse : parseWindowAdjust s with
  | none =>
    rw [handleAdjustWindow, hparse]
    exact rejected_connectionError _
  | some args =>
    refine (handleAdjustWindow_ensures h hparse).imp (fun e he => he.rejected) fun r hr => ?_
    obtain ⟨haft, channel, _, _, hcs⟩ := hr.2
    split_ifs at hcs
    · exact .same hr.1 haft hcs
    · exact .done hr.1 haft hcs trivial trivial fun _ => id

theorem handleChannelData_handled :
    Ensures ChannelError.Rejected (Handled c false none) (handleChannelData c s) := by
  cases hparse : parseChannelData s with
  | none =>
    rw [handleChannelData, hparse]
    exact rejected_connectionError _
  | some args =>
    exact (handleChannelData_ensures h hparse).of_total.mono fun r hr =>
      hr.2.handled hr.1

theorem handleChannelExtendedData_handled :
    Ensures ChannelError.Rejected (Handled c false none) (handleChannelExtendedData c s) := by
  cases hparse : parseChannelExtendedData s with
  | none =>
    rw [handleChannelExtendedData, hparse]
    exact rejected_connectionError _
  | some args =>
    refine (handleChannelExtendedData_ensures h hparse).of_total.mono fun r hr => ?_
    have hcs := hr.2
    split_ifs at hcs
    · exact hcs.handled hr.1
    · exact .same hr.1 hcs.1 hcs.2

theorem handleChannelEof_handled :
    Ensures ChannelError.Rejected (Handled c false none) (handleChannelEof c s) := by
  cases hparse : parseNumber s with
  | none =>
    rw [handleChannelEof, hparse]
    exact rejected_connectionError _
  | some n =>
    refine (handleChannelEof_ensures h hparse).imp (fun e he => he.rejected) fun r hr => ?_
    obtain ⟨channel, _, haft, hacts⟩ := hr.2
    refine .acted hr.1 ?_ hacts (.inl trivial) trivial fun _ => id
    rw [haft]
    trivial

theorem handleChannelClose_handled :
    Ensures ChannelError.Rejected (Handled c false none) (handleChannelClose c s) := by
  cases hparse : parseNumber s with
  | none =>
    rw [handleChannelClose, hparse]
    exact rejected_connectionError _
  | some n =>
    refine (handleChannelClose_ensures h hparse).imp (fun e he => he.rejected) fun r hr => ?_
    obtain ⟨channel, hopen, haft, hacts⟩ := hr.2
    refine .acted hr.1 ?_ hacts (.inl trivial) (fun x hx => ?_) fun _ => id
    · rw [haft]
      exact afterOk_close h hopen hacts
    · rw [hopen.channelAt_eq] at hx
      cases hx
      exact haft

theorem handleChannelRequest_handled :
    Ensures ChannelError.Rejected (Handled c false (requestAnswer c s))
      (handleChannelRequest c s) := by
  cases hparse : parseChannelRequest s with
  | none =>
    rw [handleChannelRequest, hparse]
    exact rejected_connectionError _
  | some args =>
    refine (handleChannelRequest_ensures h hparse).imp (fun e he => he.rejected) fun r hr => ?_
    obtain ⟨haft, channel, hopen, hsame | ⟨hunk, hrep, hacts⟩⟩ := hr.2
    · exact .same hr.1 haft hsame
    · refine .acted hr.1 (by rw [haft]; trivial) hacts (.inr ?_) trivial fun _ => id
      rw [requestAnswer, hparse, Option.bind_some]
      dsimp only
      rw [hopen.channelAt_eq, Option.bind_some, if_pos ⟨hrep, hunk⟩]

theorem handleChannelReply_handled (success : Bool) (msg) :
    Ensures ChannelError.Rejected (Handled c false none)
      (handleChannelReply c s (if success then .success else .failure) msg) := by
  cases hparse : parseNumber s with
  | none =>
    rw [handleChannelReply, hparse]
    exact rejected_connectionError _
  | some n =>
    refine (handleChannelReply_ensures h hparse success msg).imp (fun e he => he.rejected)
      fun r hr => ?_
    obtain ⟨haft, _, hsame | hacts⟩ := hr.2
    · exact .same hr.1 haft hsame
    · exact .done hr.1 haft hacts trivial trivial fun _ => id

end Answered

/-- **Any packet**: the handler fails because it does not accept the message, or it amounts to at
most one action. -/
theorem receivePacket_acts (h : TableInv c) (pkt : Octets) :
    Ensures ChannelError.Rejected (fun res => ∀ r ∈ res,
      Handled c (isGlobalPacket pkt) (answer c pkt) r) (receivePacket c pkt) := by
  cases pkt with
  | nil => exact .inr rfl
  | cons msg s =>
    -- most handlers answer nothing by themselves
    have hmap {x : Except ChannelError (Received κ)} {a : Option (Action κ)} {global : Bool}
        (hx : Ensures ChannelError.Rejected (Handled c global a) x)
        (ha : a = none ∨ a = answer c (msg :: s))
        (hglb : global → isGlobalPacket (msg :: s)) :
        Ensures ChannelError.Rejected (fun res => ∀ r ∈ res,
          Handled c (isGlobalPacket (msg :: s)) (answer c (msg :: s)) r) (some <$> x) := by
      refine Ensures.some_map (hx.mono fun r hr => ?_)
      have hnot (h : isGlobalPacket (msg :: s) = false) : NotGlobal c r := by
        refine hr.notGlobal (Bool.eq_false_iff.mpr fun htr => ?_)
        rw [hglb htr] at h
        cases h
      rcases ha with rfl | rfl
      · refine ⟨⟨?_, hr.after⟩, hr.arrival, hnot⟩
        rcases hr.acts with hsame | ⟨a, ha, hfst | hans, haft⟩
        · exact .inl hsame
        · exact .inr ⟨a, ha, .inl hfst, haft⟩
        · cases hans
      · exact ⟨hr.toAnswered, hr.arrival, hnot⟩
    rw [receivePacket]
    split
    · rename_i hmsg
      exact hmap (handleGlobalRequest_handled c s) (.inr (by simp [answer, hmsg]))
        fun _ => by simp [isGlobalPacket, hmsg]
    · rename_i hmsg
      exact hmap (handleGlobalReply_handled c s _ _) (.inl rfl) fun _ => by
        simp [isGlobalPacket, hmsg]
    · rename_i hmsg
      exact hmap (handleGlobalReply_handled c s _ _) (.inl rfl) fun _ => by
        simp [isGlobalPacket, hmsg]
    · exact hmap (handleChannelOpen_handled s h) (.inl rfl) (by simp)
    · exact hmap (handleOpenConfirm_handled s h) (.inl rfl) (by simp)
    · exact hmap (handleOpenFailure_handled s h) (.inl rfl) (by simp)
    · exact hmap (handleAdjustWindow_handled s h) (.inl rfl) (by simp)
    · exact hmap (handleChannelData_handled s h) (.inl rfl) (by simp)
    · exact hmap (handleChannelExtendedData_handled s h) (.inl rfl) (by simp)
    · exact hmap (handleChannelEof_handled s h) (.inl rfl) (by simp)
    · exact hmap (handleChannelClose_handled s h) (.inl rfl) (by simp)
    · rename_i hmsg
      exact hmap (handleChannelRequest_handled s h) (.inr (by simp [answer, hmsg])) (by simp)
    · exact hmap (handleChannelReply_handled s h true _) (.inl rfl) (by simp)
    · exact hmap (handleChannelReply_handled s h false _) (.inl rfl) (by simp)
    · simp

/-! ### Events -/

/-- The action that a call asks for meets a condition. -/
def OpGuard (P : SshConnection κ → Action κ → Prop) (c : SshConnection κ) (op : Op κ) : Prop :=
  ∀ a, op.action = some a → P c a

/-- The calls for each channel meet a condition. -/
def NotifyGuard (P : SshConnection κ → Action κ → Prop) (ops : ℕ → List (Op κ)) :
    ℕ → ℕ → SshConnection κ → Prop
  | 0, _, _ => True
  | fuel + 1, i, c =>
    match c.slots[i]? with
    | none => True
    | some s =>
      if s.state = .active then
        Guarded perform (OpGuard P) c (ops i) ∧
          ∀ d, run perform c (ops i) = .ok d → NotifyGuard P ops fuel (i + 1) d
      else NotifyGuard P ops fuel (i + 1) c

/-- All that an event asks for meets a condition. -/
def EventGuard (P : SshConnection κ → Action κ → Prop) (c : SshConnection κ) :
    EndpointEvent κ → Prop
  | .call op => OpGuard P c op
  | .receive packet ops => (∀ a, answer c packet = some a → P c a) ∧
    ∀ r, receivePacket c packet = .ok (some r) → Guarded perform (OpGuard P) r.connection ops
  | .notify ops => NotifyGuard P ops maxChannels 0 c

section Decidable

variable (P : SshConnection κ → Action κ → Prop) [∀ c a, Decidable (P c a)]

instance (c : SshConnection κ) (op : Op κ) : Decidable (OpGuard P c op) :=
  decidable_of_iff (∀ a ∈ op.action, P c a) Iff.rfl

instance decidableNotifyGuard (ops : ℕ → List (Op κ)) (fuel i : ℕ) (c : SshConnection κ) :
    Decidable (NotifyGuard P ops fuel i c) :=
  match fuel with
  | 0 => isTrue trivial
  | fuel + 1 =>
    match hs : c.slots[i]? with
    | none => isTrue (by rw [NotifyGuard, hs]; trivial)
    | some s =>
      if hstate : s.state = .active then
        match hrun : run perform c (ops i) with
        | .error _ =>
          decidable_of_iff (Guarded perform (OpGuard P) c (ops i))
            (by simp [NotifyGuard, hs, hstate, hrun])
        | .ok d =>
          have := decidableNotifyGuard ops fuel (i + 1) d
          decidable_of_iff (Guarded perform (OpGuard P) c (ops i) ∧
            NotifyGuard P ops fuel (i + 1) d)
            (by simp [NotifyGuard, hs, hstate, hrun])
      else
        have := decidableNotifyGuard ops fuel (i + 1) c
        decidable_of_iff (NotifyGuard P ops fuel (i + 1) c) (by simp [NotifyGuard, hs, hstate])

instance (c : SshConnection κ) (event : EndpointEvent κ) : Decidable (EventGuard P c event) :=
  match event with
  | .call op => inferInstanceAs (Decidable (OpGuard P c op))
  | .notify ops => inferInstanceAs (Decidable (NotifyGuard P ops maxChannels 0 c))
  | .receive packet ops =>
    match hr : receivePacket c packet with
    | .ok (some r) =>
      decidable_of_iff ((∀ a ∈ answer c packet, P c a) ∧
        Guarded perform (OpGuard P) r.connection ops) (by simp [EventGuard, hr])
    | .ok none => decidable_of_iff (∀ a ∈ answer c packet, P c a) (by simp [EventGuard, hr])
    | .error _ => decidable_of_iff (∀ a ∈ answer c packet, P c a) (by simp [EventGuard, hr])

end Decidable

/-- An error that does not concern the table of numbers. -/
def ChannelError.Expected (e : ChannelError) : Prop := e.Misuse ∨ e.Rejected

/-- Actions of the program that meet a condition. -/
def Local (P : SshConnection κ → Action κ → Prop) (c : SshConnection κ) (a : Action κ) : Prop :=
  a.IsLocal ∧ P c a

theorem AfterOk.steps (h : AfterOk c after) (hs : Steps (Local P) c d) : AfterOk d after := by
  induction hs with
  | refl => exact h
  | tail _ hsp ih =>
    obtain ⟨a, ha, hloc, _⟩ := hsp
    exact ih.acts ha hloc

/-- The entry of an open channel has an object. -/
theorem TableInv.isSome_of_active {s : Slot κ} (h : TableInv c) (hs : c.slots[i]? = some s)
    (hst : s.state = .active) : s.channel.isSome := by
  have hval := h.slot i s hs
  cases hval with
  | active => rfl
  | _ => cases hst

section Guards

variable (hfe : ∀ c a, a.IsFree → P c a)
include hfe

/-- Calls that meet the condition. -/
theorem perform_local {op : Op κ} (h : TableInv c) (hop : OpGuard P c op) :
    Ensures ChannelError.Misuse (Steps (Local P) c) (perform c op) := by
  refine (perform_steps h op).mono fun d hd => hd.mono fun c' a ha => ⟨ha.1, ?_⟩
  rcases ha.kind with hkd | ⟨rfl, hasks⟩
  · exact hfe c' a hkd
  · exact hop a hasks

theorem Steps.local_of_free (h : Steps Free c d) : Steps (Local P) c d :=
  h.mono fun c a ha => ⟨ha.1, hfe c a ha.2⟩

variable {ops : List (Op κ)}

/-- **Calls one after the other.** -/
theorem run_perform_local (h : TableInv c) (hops : Guarded perform (OpGuard P) c ops) :
    Ensures ChannelError.Misuse (Steps (Local P) c) (run perform c ops) := by
  have hrun : Ensures ChannelError.Misuse (fun d => TableInv d ∧ Steps (Local P) c d)
      (run perform c ops) := by
    refine run_of_guarded (fun d op hd hop => ?_) ⟨h, Steps.refl c⟩ hops
    exact (perform_local hfe hd.1 hop).mono fun e he => ⟨hd.1.steps he, hd.2.trans he⟩
  exact hrun.mono fun d hd => hd.2

variable {pkt : Octets}

/-- What becomes of a packet, in terms of what its handler does up to the call: the packet is not
accepted, or is not implemented, or all that follows are actions of the program. -/
theorem receiveWith_local (h : TableInv c) (hguard : EventGuard P c (.receive pkt ops)) :
    Ensures (fun e => e.Misuse ∨ receivePacket c pkt = .error e)
      (fun d => receivePacket c pkt = .ok none ∧ d = c ∨
        ∃ r, receivePacket c pkt = .ok (some r) ∧ Steps (Local P) r.connection d)
      (receiveWith c pkt ops) := by
  have hpkt := receivePacket_acts h pkt
  rw [receiveWith, channelPacketHandler]
  cases hr : receivePacket c pkt with
  | error e => exact .inr rfl
  | ok res =>
    rw [hr] at hpkt
    cases res with
    | none => exact .inl ⟨rfl, rfl⟩
    | some r =>
      obtain ⟨⟨hacts, haft⟩, _⟩ := hpkt r rfl
      have hops := hguard.2 r hr
      have hinv : TableInv r.connection := by
        rcases hacts with hsame | ⟨a, ha, _⟩
        · rwa [hsame]
        · exact h.acts ha
      -- the program, with what the rest of the handler relies on
      have hprog : Ensures ChannelError.Misuse (fun d => Steps (Local P) r.connection d)
          (callProgram (fun _ c => run perform c ops) r) := by
        rw [callProgram]
        split
        · exact Steps.refl _
        · exact run_perform_local hfe hinv hops
      have hre : Ensures ChannelError.Misuse (Steps (Local P) r.connection)
          (callProgram (fun _ c => run perform c ops) r >>= fun d => finishPacket d r.after) := by
        refine hprog.bind fun d hd => ?_
        refine (finishPacket_steps (hinv.steps hd) (haft.steps hd)).mono fun e he => ?_
        exact hd.trans (he.local_of_free hfe)
      simp only [ok_bind, bind_assoc, pure_bind, bind_pure]
      exact hre.imp (fun e he => .inl he) fun d hd => .inr ⟨r, rfl, hd⟩

/-- A packet and what the program does about it. -/
theorem receiveWith_steps (h : TableInv c) (hguard : EventGuard P c (.receive pkt ops)) :
    Ensures ChannelError.Expected (Steps P c) (receiveWith c pkt ops) := by
  have hpkt := receivePacket_acts h pkt
  refine (receiveWith_local hfe h hguard).imp (fun e he => ?_) fun d hd => ?_
  · rcases he with he | he
    · exact .inl he
    · rw [he] at hpkt
      exact .inr hpkt
  · rcases hd with ⟨_, rfl⟩ | ⟨r, hr, hsts⟩
    · exact Steps.refl d
    · rw [hr] at hpkt
      have hloc : Steps P r.connection d := hsts.mono fun _ _ ha => ha.2
      rcases (hpkt r rfl).acts with hsame | ⟨a, ha, hkd, _⟩
      · rwa [hsame] at hloc
      · refine (Steps.single ha ?_).trans hloc
        rcases hkd with hfst | hans
        · exact hfe c a hfst
        · exact hguard.1 a hans

variable {fuel : ℕ}

omit hfe in
/-- What the calls for each channel keep is kept by a notification. -/
theorem foreachFrom_ensures {I : SshConnection κ → Prop} (htab : ∀ c, I c → TableInv c)
    {ops : ℕ → List (Op κ)}
    (hops : ∀ c i, I c → Guarded perform (OpGuard P) c (ops i) →
      Ensures ChannelError.Misuse I (run perform c (ops i))) (h : I c)
    (hguard : NotifyGuard P ops fuel i c) :
    Ensures ChannelError.Misuse I (foreachFrom (fun i c => run perform c (ops i)) fuel i c) := by
  induction fuel generalizing i c with
  | zero => exact h
  | succ fuel ih =>
    rw [foreachFrom]
    rw [NotifyGuard] at hguard
    cases hs : c.slots[i]? with
    | none => exact h
    | some s =>
      rw [hs] at hguard
      dsimp only at hguard ⊢
      by_cases hst : s.state = .active
      · rw [if_pos hst] at hguard ⊢
        rw [require_of ((htab c h).isSome_of_active hs hst)]
        -- the state after the calls for this channel is the one that the guard speaks of
        have hkp := hops c i h hguard.1
        cases hrun : run perform c (ops i) with
        | error e =>
          rw [hrun] at hkp
          exact hkp
        | ok d =>
          rw [hrun] at hkp
          exact ih hkp (hguard.2 d hrun)
      · rw [if_neg hst] at hguard ⊢
        exact ih h hguard

theorem foreachFrom_steps {ops : ℕ → List (Op κ)} (h : TableInv c)
    (hguard : NotifyGuard P ops fuel i c) :
    Ensures ChannelError.Misuse (Steps (Local P) c)
      (foreachFrom (fun i c => run perform c (ops i)) fuel i c) :=
  foreachFrom_ensures (fun _ hd => h.steps hd) (fun _ _ hd hops =>
    (run_perform_local hfe (h.steps hd) hops).mono fun _ he => hd.trans he) (Steps.refl c) hguard

/-- **An event is a sequence of actions** that meet the condition. No error concerns the table of
numbers. -/
theorem endpointStep_steps {event : EndpointEvent κ} (h : TableInv c)
    (hguard : EventGuard P c event) :
    Ensures ChannelError.Expected (Steps P c) (endpointStep c event) := by
  cases event with
  | call op =>
    refine (perform_local hfe h hguard).imp (fun e he => Or.inl he) fun d hd => ?_
    exact hd.mono fun _ _ ha => ha.2
  | receive pkt ops =>
    rw [endpointStep]
    split_ifs
    · exact receiveWith_steps hfe h hguard
    · exact Steps.refl c
  | notify ops =>
    rw [endpointStep]
    split_ifs
    · refine (foreachFrom_steps hfe h hguard).imp (fun e he => Or.inl he) fun d hd => ?_
      exact hd.mono fun _ _ ha => ha.2
    · exact Steps.refl c

end Guards

/-- No condition. -/
theorem eventGuard_true (c) (event : EndpointEvent κ) : EventGuard (fun _ _ => True) c event := by
  have hops (d : SshConnection κ) (ops : List (Op κ)) :
      Guarded perform (OpGuard fun _ _ => True) d ops :=
    guarded_of_forall (fun _ _ _ _ _ => trivial) d
  cases event with
  | call op => exact fun _ _ => trivial
  | receive pkt ops => exact ⟨fun _ _ => trivial, fun r _ => hops _ _⟩
  | notify ops =>
    have hntf (fuel i : ℕ) (d : SshConnection κ) : NotifyGuard (fun _ _ => True) ops fuel i d := by
      induction fuel generalizing i d with
      | zero => trivial
      | succ fuel ih =>
        rw [NotifyGuard]
        split
        · trivial
        · split_ifs
          · exact ⟨hops _ _, fun e _ => ih _ _⟩
          · exact ih _ _
    exact hntf _ _ _

/-- **Runs**: an invariant that actions keep under a condition holds throughout every run whose
events meet the condition. -/
theorem run_endpointStep {events : List (EndpointEvent κ)} (hfe : ∀ c a, a.IsFree → P c a)
    {Inv : SshConnection κ → Prop}
    (hacts : ∀ c a d, TableInv c → Acts c a d → P c a → Inv c → Inv d) (h : TableInv c) (hc : Inv c)
    (hguard : Guarded endpointStep (EventGuard P) c events) :
    Ensures ChannelError.Expected (fun d => TableInv d ∧ Inv d) (run endpointStep c events) := by
  refine run_of_guarded (fun d ev hd hg => ?_) ⟨h, hc⟩ hguard
  refine (endpointStep_steps hfe hd.1 hg).mono fun e he => ?_
  induction he with
  | refl => exact hd
  | tail _ hsp ih =>
    obtain ⟨a, ha, hP⟩ := hsp
    exact ⟨ih.1.acts ha, hacts _ a _ ih.1 ha hP ih.2⟩

/-! ### Failures on record -/

/-- A failure to open the channel has been received. -/
def Entry.isFailure (channel : ℕ) : Entry → Bool
  | receivedFailure k => k = channel
  | _ => false

/-- The invariant of one endpoint: failures are on record for objects that exist. -/
structure EndInv (c : SshConnection κ) : Prop extends TableInv c where
  failed_lt : ∀ k, c.log.any (Entry.isFailure k) → k < c.nextSerial

/-- The same failures are on record. -/
def SameFailures (log log' : List Entry) : Prop :=
  ∀ k, log'.any (Entry.isFailure k) = log.any (Entry.isFailure k)

/-- What an action puts on record. -/
theorem Acts.any_isFailure (ha : Acts c a d) (k) :
    d.log.any (Entry.isFailure k) = c.log.any (Entry.isFailure k) ∨
      ∃ j y, a = .receiveFailure j ∧ channelAt c j = some y ∧ y.serial = k := by
  have happ {es : List Entry} (hlog : d.log = c.log ++ es)
      (hes : es.any (Entry.isFailure k) = false) :
      d.log.any (Entry.isFailure k) = c.log.any (Entry.isFailure k) := by
    rw [hlog, any_append, hes, Bool.or_false]
  cases ha with
  | @channel j s y a hs hy =>
    refine .inl (happ rfl ?_)
    rw [ChannelAction.entries.eq_def, ChannelAction.messages]
    split
    · rfl
    · split <;> rfl
  | receiveOpen => exact .inl rfl
  | @receiveFailure j s y hs hst hch =>
    by_cases hk : y.serial = k
    · exact .inr ⟨j, y, rfl, channelAt_eq_some hs hch, hk⟩
    · refine .inl (happ rfl ?_)
      simpa [Entry.isFailure] using hk
  | finish => exact .inl (happ (settle_log _) rfl)
  | globalReply want =>
    refine .inl (happ rfl ?_)
    cases want <;> rfl
  | pendingClose =>
    rw [settle_log]
    exact .inl rfl
  | _ => exact .inl (happ rfl rfl)

/-- What is on record about failures changes only when one is received. -/
theorem Acts.any_isFailure_eq (ha : Acts c a d) (hne : ∀ j, a ≠ .receiveFailure j) :
    SameFailures c.log d.log := by
  intro k
  rcases ha.any_isFailure k with heq | ⟨j, y, hj, _⟩
  · exact heq
  · exact absurd hj (hne j)

theorem EndInv.acts (h : EndInv c) (ha : Acts c a d) : EndInv d where
  toTableInv := h.toTableInv.acts ha
  failed_lt := by
    intro k hk
    refine Nat.lt_of_lt_of_le ?_ ha.nextSerial_le
    rcases ha.any_isFailure k with heq | ⟨j, y, _, hy, rfl⟩
    · exact h.failed_lt k (heq ▸ hk)
    · exact h.serial_lt hy

theorem endInv_init (types reqs fallback) :
    EndInv (initSshConnection types reqs fallback : SshConnection κ) where
  toTableInv := tableInv_init types reqs fallback
  failed_lt := fun _ hk => nomatch hk

end Lsh.Channel
