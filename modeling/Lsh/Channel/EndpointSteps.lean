
import Lsh.Channel.Numbers

/-!
# Calls and events are actions

Each function that a program may call, and each handler for a message, amounts to actions of the
endpoint. Most actions are free: no condition is ever put on them, because the functions check what
has to be checked. The others are the business of the program, and each of them happens only as the
first action of a call that asks for it.

No assertion about the table of numbers fails on the way. What can fail is a call that the program
should not have made, or a message that the handlers do not accept.

## Main results

* `channelClose_performs`, `channelEof_performs`, … — one lemma for each function
* `perform_performs` — a call changes its own channel only, as `SshChannel.after` says
* `perform_steps` — a call is a sequence of actions
-/

namespace Lsh.Channel

open Machine Table List

variable {κ : Type}

/-! ### Kinds of actions and errors -/

/-- An action of the program, and not the receipt of a message. -/
def Action.IsLocal : Action κ → Prop
  | .channel _ a => ¬a.IsReceive
  | .openNew _ _ _ _ => True
  | .confirm _ _ => True
  | .deny _ _ _ => True
  | .finish _ => True
  | .sendGlobal _ _ _ => True
  | .globalReply _ _ => True
  | .pendingClose => True
  | _ => False

/-- An action on a channel for which the functions check what has to be checked, or which is up to
the other end. -/
def ChannelAction.IsFree : ChannelAction κ → Prop
  | .adjust _ => False
  | .startReceive _ => False
  | .reply _ => False
  | .transmit _ _ => False
  | .kill => False
  | _ => True

/-- An action on which no condition is put. -/
def Action.IsFree : Action κ → Prop
  | .channel _ a => a.IsFree
  | .deny _ _ _ => False
  | .globalReply _ _ => False
  | .refuseGlobal _ => False
  | _ => True

/-- The action that a call asks for, if it is not a free one. -/
def Op.action : Op κ → Option (Action κ)
  | .deny i reason msg => some (.deny i reason msg)
  | .adjustRecWindow i written => some (.channel i (.adjust written))
  | .startReceive i w => some (.channel i (.startReceive w))
  | .transmitData i data => some (.channel i (.transmit none data))
  | .transmitExtended i type data => some (.channel i (.transmit (some type) data))
  | .requestReply i true result => some (.channel i (.reply result))
  | .globalReply wantReply result => some (.globalReply wantReply result)
  | .kill i => some (.channel i .kill)
  | _ => none

/-- CLOSE is sent. -/
def Action.IsClosing : Action κ → Prop
  | .channel _ .sendClose => True
  | _ => False

/-- A call that may send CLOSE. -/
def Op.IsClosing : Op κ → Prop
  | .eof _ => True
  | .close _ => True
  | .maybeClose _ => True
  | _ => False

/-- Free actions of the program. -/
def Free (_ : SshConnection κ) (a : Action κ) : Prop := a.IsLocal ∧ a.IsFree

/-- Free actions of the program that do not send CLOSE. -/
def Plain (c : SshConnection κ) (a : Action κ) : Prop := Free c a ∧ ¬a.IsClosing

/-- The actions of a call in the state `c`. -/
structure OpActs (c : SshConnection κ) (op : Op κ) (c' : SshConnection κ)
    (a : Action κ) : Prop where
  isLocal : a.IsLocal
  kind : a.IsFree ∨ c' = c ∧ op.action = some a
  closing : a.IsClosing → op.IsClosing

/-- A call that the program should not have made: it answers an open request that is not pending,
sends more data than it may, or sends on a channel that is not open. -/
def ChannelError.Misuse (e : ChannelError) : Prop :=
  e = .assertion .openAnswer ∨ e = .assertion .transmit ∨ e = .uninitialized ∨ e = .deadChannel

/-- A message that the handlers do not accept. -/
def ChannelError.Rejected (e : ChannelError) : Prop :=
  (∃ msg, e = .connectionError msg) ∨ e = .internal

variable {c d e : SshConnection κ} {i : ℕ} {channel x y z : SshChannel κ}

/-! ### Sending on a channel -/

variable {a : ChannelAction κ}

theorem ChannelAction.entries_eq (h : ¬a.IsReceive) (channel : SshChannel κ) :
    a.entries channel = (a.messages channel).map (.sent (some channel.serial)) := by
  cases a with
  | receiveClose => exact absurd trivial h
  | _ => rfl

/-- The object in a slot is set to what it is. -/
theorem setChannel_self (hc : channelAt c i = some channel) : setChannel c i channel = c := by
  obtain ⟨s, hs, hch⟩ := exists_slot hc
  have hself : { s with channel := some channel } = s := by rw [← hch]
  have hset : c.slots.set i s = c.slots := by
    obtain ⟨hlt, rfl⟩ := List.getElem?_eq_some_iff.mp hs
    exact List.set_getElem_self hlt
  rw [setChannel_eq hs, hself, hset]

/-- An action on a channel that sends nothing. -/
theorem Acts.of_quiet (hc : channelAt c i = some channel) (hguard : a.Guard channel)
    (hloc : ¬a.IsReceive) (hmsg : a.message channel = none) :
    Acts c (.channel i a) (setChannel c i (a.effect channel)) := by
  obtain ⟨s, hs, hch⟩ := exists_slot hc
  have hacts := Acts.channel a hs hch hguard (fun h => absurd h hloc)
    (fun h => by rw [hmsg] at h; cases h)
  have hmgs : a.messages channel = [] := by rw [ChannelAction.messages, hmsg]
  rw [ChannelAction.entries_eq hloc, hmgs] at hacts
  simpa [emit] using hacts

theorem writeChannel_ensures (c) (channel : SshChannel κ) (m : UInt32 → Message) :
    Ensures ChannelError.Misuse (fun d => ∃ n, channel.remoteChannelNumber = some n ∧
      d = write c (some channel.serial) (m n)) (writeChannel c channel m) := by
  rw [writeChannel]
  cases channel.remoteChannelNumber with
  | none => exact .inr (.inr (.inl rfl))
  | some n => exact ⟨n, rfl, rfl⟩

/-- A message is sent, and the object changed accordingly. -/
theorem writeChannel_acts {m : UInt32 → Message} (hc : channelAt c i = some channel)
    (hguard : a.Guard channel)
    (hloc : ¬a.IsReceive) (hmsg : a.message channel = some m) :
    Ensures ChannelError.Misuse (Acts c (.channel i a))
      (writeChannel (setChannel c i (a.effect channel)) (a.effect channel) m) := by
  obtain ⟨s, hs, hch⟩ := exists_slot hc
  refine (writeChannel_ensures _ _ _).mono fun d hd => ?_
  obtain ⟨n, hrem, rfl⟩ := hd
  rw [ChannelAction.effect_remoteChannelNumber] at hrem
  have hacts := Acts.channel a hs hch hguard (fun h => absurd h hloc) (fun _ => by rw [hrem]; rfl)
  have hmgs : a.messages channel = [m n] := by rw [ChannelAction.messages, hmsg, hrem]
  rw [ChannelAction.entries_eq hloc, hmgs] at hacts
  rw [ChannelAction.effect_serial]
  exact hacts

/-- The object after an action on its channel. -/
theorem Acts.channelAt_self (hc : channelAt c i = some channel) (h : Acts c (.channel i a) d) :
    channelAt d i = some (a.effect channel) := by
  cases h with
  | channel _ hs hch =>
    have hsame := channelAt_eq_some hs hch
    rw [hc] at hsame
    cases hsame
    rw [setChannel_eq hs]
    exact channelAt_eq_some (Replaces.of_set hs _).getElem?_self rfl

/-! ### What a call does to its channel -/

/-- A call of a function for a channel. -/
inductive Call (κ : Type) where
  | adjustRecWindow (written : UInt32)
  | startReceive (initialWindowSize : UInt32)
  | transmitData (data : LshString)
  | transmitExtended (type : UInt32) (data : LshString)
  | eof
  | close
  | maybeClose
  | sendRequest (type : LshString) (wantReply : Bool) (args : Octets)
  | requestReply (wantReply result : Bool)
  | update (u : Update κ)
  | kill

/-- The call for the channel in a slot. -/
def Call.op (i : ℕ) : Call κ → Op κ
  | adjustRecWindow written => .adjustRecWindow i written
  | startReceive initialWindowSize => .startReceive i initialWindowSize
  | transmitData data => .transmitData i data
  | transmitExtended type data => .transmitExtended i type data
  | eof => .eof i
  | close => .close i
  | maybeClose => .maybeClose i
  | sendRequest type wantReply args => .sendRequest i type wantReply args
  | requestReply wantReply result => .requestReply i wantReply result
  | update u => .update i u
  | kill => .kill i

namespace SshChannel

/-- `channel_close`. -/
def afterClose (x : SshChannel κ) : SshChannel κ :=
  if x.flags.sentClose then x else ChannelAction.effect .sendClose x

/-- `channel_maybe_close`. -/
def afterMaybeClose (x : SshChannel κ) : SshChannel κ :=
  if ¬x.flags.sentClose ∧ x.flags.sentEof ∧ (x.flags.noWaitForEof ∨
    (x.flags.receivedEof ∧ x.sinks = 0)) then x.afterClose else x

/-- `channel_eof`. -/
def afterEof (x : SshChannel κ) : SshChannel κ :=
  if x.flags.sentEof ∨ x.flags.sentClose ∨ x.flags.receivedClose then x
  else (ChannelAction.effect .sendEof x).afterMaybeClose

/-- The object of a channel after a call for it. -/
def after (x : SshChannel κ) : Call κ → SshChannel κ
  | .adjustRecWindow written =>
    if written ≠ 0 ∧ ¬(x.flags.receivedEof ∨ x.flags.receivedClose ∨ x.flags.sentClose) then
      ChannelAction.effect (.adjust written) x else x
  | .startReceive w => if x.recWindowSize < w then ChannelAction.effect (.startReceive w) x else x
  | .transmitData data => ChannelAction.effect (.transmit none data) x
  | .transmitExtended type data => ChannelAction.effect (.transmit (some type) data) x
  | .eof => x.afterEof
  | .close => x.afterClose
  | .maybeClose => x.afterMaybeClose
  | .sendRequest type wantReply args =>
    if x.flags.sentClose then x else ChannelAction.effect (.request type wantReply args) x
  | .requestReply _ _ => x
  | .update u => u.apply x
  | .kill => { x with alive := false }

end SshChannel

/-- From `x` to `y`, nothing has changed but that EOF or CLOSE may have been sent. -/
def Closes (x y : SshChannel κ) : Prop :=
  ∃ sentClose sentEof : Bool,
    y = { x with flags := { x.flags with sentClose := sentClose, sentEof := sentEof } } ∧
      (x.flags.sentClose → sentClose) ∧ (x.flags.sentEof → sentEof)

namespace Closes

theorem refl (x : SshChannel κ) : Closes x x := ⟨_, _, rfl, id, id⟩

theorem trans (h : Closes x y) (h' : Closes y z) : Closes x z := by
  obtain ⟨s, e, rfl, hs, he⟩ := h
  obtain ⟨s', e', rfl, hs', he'⟩ := h'
  exact ⟨s', e', rfl, hs' ∘ hs, he' ∘ he⟩

end Closes

namespace SshChannel

/-- `channel_close` sets the flag, if it is not set already. -/
theorem afterClose_eq (x : SshChannel κ) :
    x.afterClose = { x with flags := { x.flags with sentClose := true } } := by
  rw [afterClose]
  split_ifs with hsent
  · rw [← hsent]
  · rfl

theorem closes_afterClose (x : SshChannel κ) : Closes x x.afterClose :=
  ⟨true, x.flags.sentEof, x.afterClose_eq, fun _ => rfl, id⟩

theorem closes_afterMaybeClose (x : SshChannel κ) : Closes x x.afterMaybeClose := by
  rw [afterMaybeClose]
  split_ifs
  · exact x.closes_afterClose
  · exact Closes.refl x

theorem closes_afterEof (x : SshChannel κ) : Closes x x.afterEof := by
  rw [afterEof]
  split_ifs
  · exact Closes.refl x
  · have hsnd : Closes x (ChannelAction.effect .sendEof x) :=
      ⟨x.flags.sentClose, true, rfl, id, fun _ => rfl⟩
    exact hsnd.trans (closes_afterMaybeClose _)

/-- After `channel_eof` nothing more is to be sent. -/
theorem afterEof_flags (x : SshChannel κ) :
    x.afterEof.flags.sentEof ∨ x.afterEof.flags.sentClose ∨ x.afterEof.flags.receivedClose := by
  rw [afterEof]
  split_ifs with hfl
  · exact hfl
  · obtain ⟨s, e, heq, _, he⟩ := closes_afterMaybeClose (ChannelAction.effect .sendEof x)
    rw [heq]
    exact .inl (he rfl)

end SshChannel

/-- From `c` to `d`, only the channel `i` has changed: its object is `y` now, or it is gone. As long
as it is there, the connection is alive. -/
structure Owns (c d : SshConnection κ) (i : ℕ) (y : SshChannel κ) : Prop where
  others : ∀ j, j ≠ i → channelAt d j = channelAt c j
  own : channelAt d i = none ∨ channelAt d i = some y ∧ d.alive = c.alive

namespace Owns

theorem refl (hx : channelAt c i = some x) : Owns c c i x := ⟨fun _ _ => rfl, .inr ⟨hx, rfl⟩⟩

/-- Nothing becomes of a channel that is gone. -/
theorem trans (h : Owns c d i y)
    (hsome : channelAt d i = some y → d.alive = c.alive → Owns d e i z)
    (hno : channelAt d i = none → e = d) : Owns c e i z := by
  rcases h.own with hgn | ⟨hy, hal⟩
  · rw [hno hgn]
    exact ⟨h.others, .inl hgn⟩
  · have hde := hsome hy hal
    refine ⟨fun j hj => (hde.others j hj).trans (h.others j hj), ?_⟩
    rcases hde.own with hgn | ⟨hz, hal'⟩
    · exact .inl hgn
    · exact .inr ⟨hz, hal'.trans hal⟩

end Owns

/-- The object has been set. -/
theorem Owns.of_setChannel (hx : channelAt c i = some x)
    (hslots : d.slots = (setChannel c i y).slots) (hal : d.alive = c.alive) : Owns c d i y := by
  obtain ⟨s, hs, _⟩ := exists_slot hx
  rw [setChannel_eq hs] at hslots
  have hr : Replaces c.slots d.slots i (some s) { s with channel := some y } :=
    hslots ▸ Replaces.of_set hs _
  refine ⟨fun j hj => ?_, .inr ⟨?_, hal⟩⟩
  · rw [channelAt_of_replaces hr, if_neg hj]
  · rw [channelAt_of_replaces hr, if_pos rfl]

/-- An action on a channel. -/
theorem Acts.owns (h : Acts c (.channel i a) d) (hx : channelAt c i = some x) :
    Owns c d i (a.effect x) := by
  have hself := h.channelAt_self hx
  cases h with
  | channel _ hs hch =>
    refine ⟨fun j hj => ?_, .inr ⟨hself, rfl⟩⟩
    rw [setChannel_eq hs]
    exact (channelAt_of_replaces (Replaces.of_set hs _)).trans (if_neg hj)

/-- What a function does that is called for the channel `i`. Its actions meet a condition. The
object of the channel becomes `f x` or goes, the objects of the others stay as they are, and nothing
happens if there is no object. -/
structure Performs (P : SshConnection κ → Action κ → Prop) (c : SshConnection κ) (i : ℕ)
    (f : SshChannel κ → SshChannel κ) (d : SshConnection κ) : Prop where
  steps : Steps P c d
  owns : ∀ x, channelAt c i = some x → Owns c d i (f x)
  gone : channelAt c i = none → d = c

namespace Performs

variable {P Q : SshConnection κ → Action κ → Prop} {f : SshChannel κ → SshChannel κ}

theorem of_some (hx : channelAt c i = some x) (hsts : Steps P c d) (how : Owns c d i (f x)) :
    Performs P c i f d := by
  refine ⟨hsts, fun y hy => ?_, fun hno => ?_⟩
  · rw [hx] at hy
    cases hy
    exact how
  · rw [hx] at hno
    cases hno

theorem of_none (hx : channelAt c i = none) : Performs P c i f c := by
  refine ⟨Steps.refl c, fun y hy => ?_, fun _ => rfl⟩
  rw [hx] at hy
  cases hy

theorem same (hx : channelAt c i = some x) (hf : f x = x) : Performs P c i f c :=
  of_some hx (Steps.refl c) (by rw [hf]; exact Owns.refl hx)

theorem acts (hx : channelAt c i = some x) (h : Acts c (.channel i a) d) (ha : P c (.channel i a))
    (hf : f x = a.effect x) : Performs P c i f d :=
  of_some hx (Steps.single h ha) (by rw [hf]; exact h.owns hx)

theorem mono (h : Performs P c i f d) (hPQ : ∀ c a, P c a → Q c a) : Performs Q c i f d :=
  ⟨h.steps.mono hPQ, h.owns, h.gone⟩

end Performs

/-! ### Numbers -/

/-- **`ssh_connection_alloc_channel`** finds the first number that is free, or all are in use. -/
theorem allocChannel_ensures (h : TableInv c) (type) :
    Yields (fun r => match r.1 with
      | none => r.2 = c ∧ ∀ j < maxChannels, ∃ s, c.slots[j]? = some s ∧ s.state ≠ .free
      | some i => Found c i ∧ r.2 = allot c i ⟨type, none, none⟩) (allocChannel c type) := by
  have hlen : (c.slots.drop c.nextChannel).length = c.slots.length - c.nextChannel :=
    List.length_drop
  have hnext := h.next_le
  have hidx : (c.slots.drop c.nextChannel).findIdx (fun s => decide (s.state = .free)) ≤
      (c.slots.drop c.nextChannel).length := List.findIdx_le_length
  -- entries that have been passed over are in use
  have htkn : ∀ j s, c.nextChannel ≤ j → j < c.nextChannel +
      (c.slots.drop c.nextChannel).findIdx (fun s => decide (s.state = .free)) →
      c.slots[j]? = some s → s.state ≠ .free := by
    intro j s hj hlt hs
    have hlt' : j - c.nextChannel <
        (c.slots.drop c.nextChannel).findIdx (fun s => decide (s.state = .free)) := by omega
    have hnot := List.not_of_lt_findIdx hlt'
    have hget : (c.slots.drop c.nextChannel)[j - c.nextChannel]? = some s := by
      rw [List.getElem?_drop, Nat.add_sub_cancel' hj, hs]
    obtain ⟨_, hget⟩ := List.getElem?_eq_some_iff.mp hget
    rw [hget] at hnot
    exact of_decide_eq_false hnot
  rw [allocChannel]
  generalize hi : c.nextChannel +
    (c.slots.drop c.nextChannel).findIdx (fun s => decide (s.state = .free)) = i at htkn ⊢
  cases hs : c.slots[i]? with
  | some s =>
    have hlt := lt_length_of_getElem? hs
    have hmax := h.length_le_max
    have hfe : s.state = .free := by
      have hw : (c.slots.drop c.nextChannel).findIdx (fun s => decide (s.state = .free)) <
          (c.slots.drop c.nextChannel).length := by omega
      have hfnd := List.findIdx_getElem (w := hw)
      obtain ⟨_, hget⟩ := List.getElem?_eq_some_iff.mp hs
      rw [List.getElem_drop] at hfnd
      simp only [hi] at hfnd
      rw [hget] at hfnd
      exact of_decide_eq_true hfnd
    have hno : s.channel = none := by
      have hval := h.slot i s hs
      cases hval <;> first | rfl | cases hfe
    have hreq : (require (s.channel.isNone) (ChannelError.assertion .allocChannel) :
        Except ChannelError PUnit) = .ok ⟨⟩ := require_of (by rw [hno]; rfl) _
    have hne : ¬(i = c.slots.length ∧ i = c.allocatedChannels) := fun hand => by omega
    dsimp only
    rw [hreq]
    refine ⟨⟨by omega, Nat.le_of_lt hlt, by omega, ?_, htkn⟩, ?_⟩
    · intro t ht
      rw [hs] at ht
      cases ht
      exact ⟨hfe, hno⟩
    · rw [allot, if_neg hne, place_of_lt hlt]
  | none =>
    have hge := List.getElem?_eq_none_iff.mp hs
    have heq : i = c.slots.length := by omega
    have hmax := h.length_le_max
    by_cases hlim : i = maxChannels
    · rw [if_pos hlim]
      refine ⟨rfl, fun j hj => ?_⟩
      have hjlt : j < c.slots.length := by omega
      refine ⟨c.slots[j], List.getElem?_eq_getElem hjlt, ?_⟩
      rcases Nat.lt_or_ge j c.nextChannel with hlt | hge'
      · exact h.taken j _ hlt (List.getElem?_eq_getElem hjlt)
      · exact htkn j _ hge' (by omega) (List.getElem?_eq_getElem hjlt)
    · rw [if_neg hlim]
      refine ⟨⟨by omega, Nat.le_of_eq heq, by omega, ?_, htkn⟩, ?_⟩
      · intro t ht
        rw [hs] at ht
        cases ht
      · subst heq
        rw [allot, place_length]
        simp only [true_and]

variable {s : Slot κ} {op : Op κ}

/-- A number that is in use is counted. -/
theorem TableInv.count_pos (h : TableInv c) (hs : c.slots[i]? = some s) (hst : s.state ≠ .free) :
    c.channelCount ≠ 0 := by
  rw [h.count_eq]
  exact Nat.ne_of_gt (List.countP_pos_iff.mpr ⟨s, mem_of_getElem? hs, by simpa⟩)

/-- `ssh_connection_dealloc_channel`. -/
theorem deallocChannel_eq (hs : c.slots[i]? = some s) (hcount : c.channelCount ≠ 0)
    (hst : s.state ≠ .free) : deallocChannel c i =
      .ok (emit (release c i) [] [.deallocated i (s.channel.map SshChannel.serial)]) := by
  have hreq : (require (c.channelCount ≠ 0 ∧ s.state ≠ .free)
      (ChannelError.assertion .deallocChannel) : Except ChannelError PUnit) = .ok ⟨⟩ :=
    require_of ⟨hcount, hst⟩ _
  rw [deallocChannel, hs]
  dsimp only
  rw [hreq, emit, append_nil]
  rfl

/-- `ssh_connection_register_channel`. -/
theorem registerChannel_eq (hs : c.slots[i]? = some s) (hst : s.state ≠ .free)
    (hno : s.channel = none) (channel) : registerChannel c i channel =
      .ok { c with
        slots := c.slots.set i { s with
          channel := some { channel with serial := c.nextSerial, localChannelNumber := i } }
        nextSerial := c.nextSerial + 1 } := by
  have hreq : (require (s.state ≠ .free ∧ s.channel.isNone)
      (ChannelError.assertion .registerChannel) : Except ChannelError PUnit) = .ok ⟨⟩ :=
    require_of ⟨hst, by rw [hno]; rfl⟩ _
  rw [registerChannel, hs]
  dsimp only
  rw [hreq]
  rfl

/-- `ssh_connection_activate_channel`. -/
theorem activateChannel_eq (hs : c.slots[i]? = some s) (hst : s.state ≠ .free)
    (hch : s.channel.isSome) : activateChannel c i =
      .ok { c with slots := c.slots.set i { s with state := .active, info := none } } := by
  have hreq : (require (s.state ≠ .free ∧ s.channel.isSome)
      (ChannelError.assertion .activateChannel) : Except ChannelError PUnit) = .ok ⟨⟩ :=
    require_of ⟨hst, hch⟩ _
  rw [activateChannel, hs]
  dsimp only
  rw [hreq]
  rfl

/-- `ssh_connection_lookup_channel` finds the entries in a state. -/
theorem lookupChannel_ensures {flag : AllocState} (h : TableInv c) (n)
    (hfg : flag = .active ∨ flag = .sentOpen) :
    Yields (fun found => match found with
      | none => ∀ s, c.slots[n.toNat]? = some s → s.state ≠ flag
      | some channel => ∃ s, c.slots[n.toNat]? = some s ∧ s.state = flag ∧ s.channel = some channel)
      (lookupChannel c n flag) := by
  rw [lookupChannel]
  cases hs : c.slots[n.toNat]? with
  | none => exact fun s hs' => nomatch hs'
  | some s =>
    dsimp only
    split_ifs with hst
    · have hval := h.slot n.toNat s hs
      cases hval with
      | free | receivedOpen => rcases hfg with rfl | rfl <;> cases hst
      | sentOpen | active => exact ⟨_, rfl, hst, rfl⟩
    · intro t ht
      rw [← Option.some.inj ht]
      exact hst

/-! ### Closing -/

/-- The method `kill` of a channel. The connection has this channel, so that it is not killed. -/
theorem killChannel_eq (hc : channelAt c i = some channel) (hal : channel.alive)
    (hcount : c.channelCount ≠ 0) : killChannel c i =
      { setChannel c i { channel with alive := false } with
        pendingClose := c.pendingClose || channel.closesConnection } := by
  rw [killChannel, hc]
  dsimp only
  rw [if_pos hal]
  cases channel.closesConnection with
  | true =>
    rw [Bool.or_true]
    exact if_neg hcount
  | false =>
    rw [Bool.or_false]
    rfl

section
variable (h : TableInv c)
include h

/-- `channel_finished` on a channel that is not dead. -/
theorem channelFinished_eq (hs : c.slots[i]? = some s)
    (hch : s.channel = some x) (hal : x.alive) :
    ∃ d, channelFinished c i = .ok d ∧ Owns c d i y ∧
      (s.state = .active ∧ x.flags.sentClose ∧ x.flags.receivedClose ∨
        s.state = .sentOpen ∧ .receivedFailure x.serial ∈ c.log → Acts c (.finish i) d) := by
  have hx := channelAt_eq_some hs hch
  have hne := (h.slot i s hs).state_ne_free hch
  have hcount := h.count_pos hs hne
  have hs' : (setChannel c i { x with alive := false }).slots[i]? =
      some { s with channel := some { x with alive := false } } := by
    rw [setChannel_eq hs]
    exact (Replaces.of_set hs _).getElem?_self
  have hdealloc := deallocChannel_eq (c := { setChannel c i { x with alive := false } with
    pendingClose := c.pendingClose || x.closesConnection }) hs' hcount hne
  have hset : (setChannel c i { x with alive := false }).slots.set i ⟨.free, none, none⟩ =
      c.slots.set i ⟨.free, none, none⟩ := by
    rw [setChannel_eq hs, set_set]
  have how (d : SshConnection κ) (hd : d.slots = c.slots.set i ⟨.free, none, none⟩) :
      Owns c d i y := by
    have hr : Replaces c.slots d.slots i (some s) ⟨.free, none, none⟩ := hd ▸ Replaces.of_set hs _
    refine ⟨fun j hj => ?_, .inl ?_⟩
    · rw [channelAt_of_replaces hr, if_neg hj]
    · rw [channelAt_of_replaces hr, if_pos rfl]
  rw [channelFinished, hx]
  dsimp only
  rw [if_pos hal, killChannel_eq hx hal hcount, hdealloc, release]
  rw [hset]
  refine ⟨_, rfl, how _ ?_, .finish hs hch hal⟩
  split_ifs <;> rfl

/-- **`channel_finished`** on a channel whose close handshake is complete, or whose open request has
been denied. -/
theorem channelFinished_acts (hs : c.slots[i]? = some s)
    (hch : s.channel = some x) (hal : x.alive)
    (hst : s.state = .active ∧ x.flags.sentClose ∧ x.flags.receivedClose ∨
      s.state = .sentOpen ∧ .receivedFailure x.serial ∈ c.log) :
    Yields (Acts c (.finish i)) (channelFinished c i) := by
  obtain ⟨d, hd, -, hacts⟩ := channelFinished_eq (y := x) h hs hch hal
  rw [hd]
  exact hacts hst

/-- The object is gone, or is dead already. -/
theorem channelFinished_owns (hx : channelAt c i = some x) :
    Yields (fun d => Owns c d i x) (channelFinished c i) := by
  obtain ⟨s, hs, hch⟩ := exists_slot hx
  by_cases hal : x.alive
  · obtain ⟨d, hd, how, -⟩ := channelFinished_eq h hs hch hal
    rw [hd]
    exact how
  · rw [channelFinished, hx]
    dsimp only
    rw [if_neg hal]
    exact Owns.refl hx

/-- Nothing happens to a channel that is dead already. -/
theorem channelFinished_steps (hs : c.slots[i]? = some s)
    (hch : s.channel = some x)
    (hst : s.state = .active ∧ x.flags.sentClose ∧ x.flags.receivedClose ∨
      s.state = .sentOpen ∧ .receivedFailure x.serial ∈ c.log) :
    Yields (Steps Free c) (channelFinished c i) := by
  by_cases hal : x.alive
  · exact (channelFinished_acts h hs hch hal hst).mono fun d hd =>
      Steps.single hd ⟨trivial, trivial⟩
  · rw [channelFinished, channelAt_eq_some hs hch]
    dsimp only
    rw [if_neg hal]
    exact Steps.refl c

/-- **`channel_close`.** -/
theorem channelClose_performs (i) :
    Ensures ChannelError.Misuse (Performs Free c i SshChannel.afterClose) (channelClose c i) := by
  rw [channelClose]
  cases hx : channelAt c i with
  | none => exact .of_none hx
  | some x =>
    dsimp only
    by_cases hsent : x.flags.sentClose
    · rw [if_pos hsent]
      exact .same hx (if_pos hsent)
    · rw [if_neg hsent]
      have haft : x.afterClose = ChannelAction.effect .sendClose x := if_neg hsent
      have hguard : ChannelAction.Guard .sendClose x := Bool.eq_false_iff.mpr hsent
      refine (writeChannel_acts hx hguard id rfl).bind fun d hd => ?_
      have hsts : Steps Free c d := Steps.single hd ⟨id, trivial⟩
      have hinv := h.acts hd
      split_ifs with hrecv
      · have hxd := hd.channelAt_self hx
        obtain ⟨s, hs, hch⟩ := exists_slot hxd
        have hact : s.state = .active := by
          cases hd with
          | channel _ hs' hch' _ _ hrem =>
            have hsame := channelAt_eq_some hs' hch'
            rw [hx] at hsame
            cases hsame
            exact (hinv.slot i s hs).state_eq_active hch (hrem rfl)
        have hfin := channelFinished_steps hinv hs hch (.inl ⟨hact, rfl, hrecv⟩)
        refine (hfin.and (channelFinished_owns hinv hxd).of_total).of_total.mono fun e he => ?_
        refine .of_some hx (hsts.trans he.1) ?_
        rw [haft]
        exact (hd.owns hx).trans (fun _ _ => he.2) fun hno => by rw [hxd] at hno; cases hno
      · exact .acts hx hd ⟨id, trivial⟩ haft

theorem channelMaybeClose_performs (i) :
    Ensures ChannelError.Misuse (Performs Free c i SshChannel.afterMaybeClose)
      (channelMaybeClose c i) := by
  rw [channelMaybeClose]
  cases hx : channelAt c i with
  | none => exact .of_none hx
  | some x =>
    dsimp only
    split_ifs with hfl
    · refine (channelClose_performs h i).mono fun d hd => .of_some hx hd.steps ?_
      rw [SshChannel.afterMaybeClose, if_pos hfl]
      exact hd.owns x hx
    · exact .same hx (if_neg hfl)

theorem channelEof_performs (i) :
    Ensures ChannelError.Misuse (Performs Free c i SshChannel.afterEof) (channelEof c i) := by
  rw [channelEof]
  cases hx : channelAt c i with
  | none => exact .of_none hx
  | some x =>
    dsimp only
    split_ifs with hfl
    · exact .same hx (if_pos hfl)
    · have haft : x.afterEof = (ChannelAction.effect .sendEof x).afterMaybeClose := if_neg hfl
      simp only [not_or, Bool.not_eq_true] at hfl
      have hguard : ChannelAction.Guard .sendEof x := hfl
      refine (writeChannel_acts hx hguard id rfl).bind fun d hd => ?_
      have hsts : Steps Free c d := Steps.single hd ⟨id, trivial⟩
      have hxd := hd.channelAt_self hx
      refine (channelMaybeClose_performs (h.acts hd) i).mono fun e he => ?_
      refine .of_some hx (hsts.trans he.steps) ?_
      rw [haft]
      exact (hd.owns hx).trans (fun _ _ => he.owns _ hxd) fun hno => by rw [hxd] at hno; cases hno

end

/-! ### Other free calls -/

theorem channelSendRequest_performs (i type want args) :
    Ensures ChannelError.Misuse (Performs Plain c i (·.after (.sendRequest type want args)))
      (channelSendRequest c i type want args) := by
  rw [channelSendRequest]
  cases hx : channelAt c i with
  | none => exact .of_none hx
  | some x =>
    dsimp only
    by_cases hsent : x.flags.sentClose
    · rw [if_pos hsent]
      exact .same hx (if_pos hsent)
    · rw [if_neg hsent]
      obtain ⟨s, hs, hch⟩ := exists_slot hx
      have hguard : ChannelAction.Guard (.request type want args) x :=
        Bool.eq_false_iff.mpr hsent
      refine (writeChannel_ensures c x _).bind fun d hd => ?_
      obtain ⟨n, hrem, rfl⟩ := hd
      have hacts := Acts.channel _ hs hch hguard (fun h => h.elim) fun _ => by rw [hrem]; rfl
      have hmgs : ChannelAction.messages (.request type want args) x =
          [.request n type want args] := by
        rw [ChannelAction.messages, hrem]
        rfl
      rw [ChannelAction.entries_eq id, hmgs] at hacts
      refine Performs.acts (P := Plain) (a := .request type want args) hx ?_ ⟨⟨id, trivial⟩, id⟩
        (if_neg hsent)
      cases want with
      | true => exact hacts
      | false =>
        have hself : setChannel c i (ChannelAction.effect (.request type false args) x) = c :=
          setChannel_self hx
        rw [hself] at hacts
        exact hacts

theorem channelOpenNewType_steps (h : TableInv c) (new type args) :
    Ensures ChannelError.Misuse (Steps Plain c) (channelOpenNewType c new type args) := by
  refine (allocChannel_ensures h .sentOpen).of_total.bind fun r hr => ?_
  obtain ⟨index, d⟩ := r
  cases index with
  | none =>
    obtain ⟨rfl, _⟩ := hr
    exact Steps.refl _
  | some i =>
    obtain ⟨hi, rfl⟩ := hr
    have hs : (allot c i ⟨.sentOpen, none, none⟩).slots[i]? = some ⟨.sentOpen, none, none⟩ :=
      (Replaces.of_place hi.le_length _).getElem?_self
    have hset : (allot c i ⟨.sentOpen, none, none⟩).slots.set i
        ⟨.sentOpen, some (newChannel c i new none), none⟩ =
        place c.slots i ⟨.sentOpen, some (newChannel c i new none), none⟩ :=
      set_place hi.le_length _ _
    dsimp only
    rw [registerChannel_eq hs (by simp) rfl]
    refine Steps.single (P := Plain) (a := .openNew i new type args) ?_ ⟨⟨trivial, trivial⟩, id⟩
    have hacts := Acts.openNew new type args hi
    rw [allot, ← hset] at hacts
    exact hacts

theorem channelOpenConfirm_acts (i new) :
    Ensures ChannelError.Misuse (Acts c (.confirm i new)) (channelOpenConfirm c i new) := by
  rw [channelOpenConfirm]
  split
  · rename_i info hs
    have hs' : (c.slots.set i ⟨.receivedOpen, some (newChannel c i new (some info)),
        some info⟩)[i]? =
        some ⟨.receivedOpen, some (newChannel c i new (some info)), some info⟩ :=
      (Replaces.of_set hs _).getElem?_self
    have hact := activateChannel_eq (c := { c with
      slots := c.slots.set i ⟨.receivedOpen, some (newChannel c i new (some info)), some info⟩
      nextSerial := c.nextSerial + 1 }) hs' (by simp) rfl
    rw [set_set] at hact
    dsimp only
    rw [registerChannel_eq hs (by simp) rfl]
    have hens : Ensures ChannelError.Misuse (fun d => d = { c with
        slots := c.slots.set i ⟨.active, some (newChannel c i new (some info)), none⟩
        nextSerial := c.nextSerial + 1 }) (activateChannel { c with
        slots := c.slots.set i ⟨.receivedOpen, some (newChannel c i new (some info)), some info⟩
        nextSerial := c.nextSerial + 1 } i) := by
      rw [hact]
      rfl
    refine hens.bind fun d hd => ?_
    subst hd
    exact .confirm new hs
  · exact .inl rfl

/-! ### Calls -/

/-- The action that a call asks for does not send CLOSE. -/
theorem Op.not_isClosing_of_action {a : Action κ} (h : op.action = some a) : ¬a.IsClosing := by
  cases op with
  | requestReply i want res =>
    cases want with
    | false => cases h
    | true =>
      cases h
      exact id
  | _ =>
    cases h
    try exact id

/-- The action that a call asks for. -/
theorem Steps.of_action {a : Action κ} (hop : op.action = some a) (hloc : a.IsLocal)
    (h : Acts c a d) : Steps (OpActs c op) c d :=
  Steps.single h ⟨hloc, .inr ⟨rfl, hop⟩, fun hclg => absurd hclg (Op.not_isClosing_of_action hop)⟩

theorem Performs.of_action {f : SshChannel κ → SshChannel κ} (hop : op.action = some (.channel i a))
    (hloc : ¬a.IsReceive)
    (hx : channelAt c i = some x) (h : Acts c (.channel i a) d) (hf : f x = a.effect x) :
    Performs (OpActs c op) c i f d :=
  .of_some hx (Steps.of_action hop hloc h) (by rw [hf]; exact h.owns hx)

theorem channelAdjustRecWindow_performs (i written) :
    Ensures ChannelError.Misuse
      (Performs (OpActs c (.adjustRecWindow i written)) c i (·.after (.adjustRecWindow written)))
      (channelAdjustRecWindow c i written) := by
  rw [channelAdjustRecWindow]
  cases hx : channelAt c i with
  | none => exact .of_none hx
  | some x =>
    dsimp only
    split_ifs with hfl
    · rw [sendWindowAdjust, getChannel, hx]
      have hguard : ChannelAction.Guard (.adjust written) x := by
        have hnot := hfl.2
        simp only [not_or, Bool.not_eq_true] at hnot
        exact hnot
      exact (writeChannel_acts hx hguard id rfl).mono fun d hd =>
        .of_action rfl id hx hd (if_pos hfl)
    · exact .same hx (if_neg hfl)

theorem channelStartReceive_performs (i w) :
    Ensures ChannelError.Misuse
      (Performs (OpActs c (.startReceive i w)) c i (·.after (.startReceive w)))
      (channelStartReceive c i w) := by
  rw [channelStartReceive, getChannel]
  cases hx : channelAt c i with
  | none => exact .inr (.inr (.inr rfl))
  | some x =>
    rw [ok_bind]
    split_ifs with hless
    · rw [sendWindowAdjust, getChannel, hx]
      have hguard : ChannelAction.Guard (.startReceive w) x := hless
      exact (writeChannel_acts hx hguard id rfl).mono fun d hd =>
        .of_action rfl id hx hd (if_pos hless)
    · exact .same hx (if_neg hless)

/-- `channel_transmit_data` and `channel_transmit_extended`. -/
theorem channelTransmit_performs {type : Option UInt32} {data : LshString}
    {m : UInt32 → LshString → Message} (hop : op.action = some (.channel i (.transmit type data)))
    (hm : ∀ x : SshChannel κ, ChannelAction.message (.transmit type data) x = some (m · data)) :
    Ensures ChannelError.Misuse
      (Performs (OpActs c op) c i (ChannelAction.effect (.transmit type data)))
      (channelTransmit c i data m) := by
  rw [channelTransmit, getChannel]
  cases hx : channelAt c i with
  | none => exact .inr (.inr (.inr rfl))
  | some x =>
    rw [ok_bind]
    by_cases hft : LshString.length data ≤ x.sendWindowSize ∧
        LshString.length data ≤ x.sendMaxPacket
    · have hguard : ChannelAction.Guard (.transmit type data) x := hft
      rw [require_of hft]
      exact (writeChannel_acts hx hguard id (hm x)).mono fun d hd => .of_action hop id hx hd rfl
    · rw [require_of_not hft]
      exact .inr (.inl rfl)

theorem channelRequestReply_acts (hc : channelAt c i = some channel) (res) :
    Ensures ChannelError.Misuse (Acts c (.channel i (.reply res)))
      (channelRequestReply c i true res) := by
  have hguard : ChannelAction.Guard (.reply res) channel := trivial
  have hacts := writeChannel_acts hc hguard id rfl
  have hself : setChannel c i (ChannelAction.effect (.reply res) channel) = c :=
    setChannel_self hc
  rw [hself] at hacts
  rw [channelRequestReply, getChannel, hc]
  exact hacts

theorem channelOpenDeny_steps (h : TableInv c) (i reason msg) :
    Ensures ChannelError.Misuse (Steps (OpActs c (.deny i reason msg)) c)
      (channelOpenDeny c i reason msg) := by
  rw [channelOpenDeny]
  split
  · rename_i info hs
    have hcount := h.count_pos hs (by simp)
    rw [deallocChannel_eq hs hcount (by simp)]
    have hacts := Acts.deny reason msg hs
    refine Steps.of_action rfl trivial ?_
    simpa [emit, write] using hacts
  · exact .inl rfl

/-- The connection waits for its channels. -/
theorem sshConnectionPendingClose_acts (c : SshConnection κ) :
    Acts c .pendingClose (sshConnectionPendingClose c) := by
  have hacts := Acts.pendingClose (c := c)
  rw [settle] at hacts
  simp only [true_and] at hacts
  exact hacts

theorem killChannel_performs (h : TableInv c) (i : ℕ) :
    Performs (OpActs c (.kill i)) c i (·.after .kill) (killChannel c i) := by
  cases hx : channelAt c i with
  | none =>
    rw [killChannel, hx]
    exact .of_none hx
  | some x =>
    by_cases hal : x.alive
    · obtain ⟨s, hs, hch⟩ := exists_slot hx
      have hcount := h.count_pos hs ((h.slot i s hs).state_ne_free hch)
      have how : Owns c (killChannel c i) i { x with alive := false } := by
        rw [killChannel_eq hx hal hcount]
        exact Owns.of_setChannel hx rfl rfl
      have hkl : Acts c (.channel i .kill) (setChannel c i { x with alive := false }) :=
        Acts.of_quiet hx hal id rfl
      have hsts : Steps (OpActs c (.kill i)) c (setChannel c i { x with alive := false }) :=
        Steps.of_action rfl id hkl
      refine .of_some hx ?_ how
      rw [killChannel, hx]
      dsimp only
      rw [if_pos hal]
      split_ifs
      · exact hsts.trans (Steps.single (sshConnectionPendingClose_acts _)
          ⟨trivial, .inl trivial, id⟩)
      · exact hsts
    · rw [killChannel, hx]
      dsimp only
      rw [if_neg hal]
      refine .same hx ?_
      show { x with alive := false } = x
      rw [← Bool.eq_false_iff.mpr hal]

/-- **A call for a channel.** -/
theorem perform_performs (h : TableInv c) (hal : c.alive) (i call) :
    Ensures ChannelError.Misuse (Performs (OpActs c (call.op i)) c i (·.after call))
      (perform c (call.op i)) := by
  rw [perform, if_pos hal]
  have hfe (hop : (call.op i).IsClosing) {f : SshChannel κ → SshChannel κ}
      {x : Except ChannelError (SshConnection κ)}
      (hx : Ensures ChannelError.Misuse (Performs Free c i f) x) :
      Ensures ChannelError.Misuse (Performs (OpActs c (call.op i)) c i f) x :=
    hx.mono fun d hd => hd.mono fun _ _ ha => ⟨ha.1, .inl ha.2, fun _ => hop⟩
  cases call with
  | adjustRecWindow written => exact channelAdjustRecWindow_performs i written
  | startReceive w => exact channelStartReceive_performs i w
  | transmitData data | transmitExtended type data =>
    exact channelTransmit_performs rfl fun _ => rfl
  | eof => exact hfe trivial (channelEof_performs h i)
  | close => exact hfe trivial (channelClose_performs h i)
  | maybeClose => exact hfe trivial (channelMaybeClose_performs h i)
  | sendRequest type want args =>
    exact (channelSendRequest_performs i type want args).mono fun d hd =>
      hd.mono fun _ _ ha => ⟨ha.1.1, .inl ha.1.2, fun h => absurd h ha.2⟩
  | requestReply want res =>
    cases hx : channelAt c i with
    | none =>
      show Ensures _ _ (channelRequestReply c i want res)
      rw [channelRequestReply, getChannel, hx]
      cases want with
      | false => exact .of_none hx
      | true => exact .inr (.inr (.inr rfl))
    | some x =>
      cases want with
      | false => exact .same hx rfl
      | true => exact (channelRequestReply_acts hx res).mono fun d hd => .of_action rfl id hx hd rfl
  | update u =>
    show Performs _ c i _ (updateChannel c i u)
    rw [updateChannel]
    cases hx : channelAt c i with
    | none => exact .of_none hx
    | some x =>
      have hguard : ChannelAction.Guard (.update u) x := trivial
      exact .acts hx (Acts.of_quiet hx hguard id rfl) ⟨id, .inl trivial, id⟩ rfl
  | kill => exact killChannel_performs h i

/-- **A call is a sequence of actions**: the one it asks for, and free ones. -/
theorem perform_steps (h : TableInv c) (op : Op κ) :
    Ensures ChannelError.Misuse (Steps (OpActs c op) c) (perform c op) := by
  by_cases hal : c.alive
  · have hcall (i : ℕ) (call : Call κ) := (perform_performs h hal i call).mono fun _ hd => hd.steps
    have hpl {x : Except ChannelError (SshConnection κ)}
        (hx : Ensures ChannelError.Misuse (Steps Plain c) x) :
        Ensures ChannelError.Misuse (Steps (OpActs c op) c) x :=
      hx.mono fun d hd => hd.mono fun _ _ ha => ⟨ha.1.1, .inl ha.1.2, fun h => absurd h ha.2⟩
    cases op with
    | openNew new type args =>
      rw [perform, if_pos hal]
      exact hpl (channelOpenNewType_steps h new type args)
    | confirm i new =>
      rw [perform, if_pos hal]
      exact hpl ((channelOpenConfirm_acts i new).mono fun d hd =>
        Steps.single hd ⟨⟨trivial, trivial⟩, id⟩)
    | deny i reason msg =>
      rw [perform, if_pos hal]
      exact channelOpenDeny_steps h i reason msg
    | adjustRecWindow i written => exact hcall i (.adjustRecWindow written)
    | startReceive i w => exact hcall i (.startReceive w)
    | transmitData i data => exact hcall i (.transmitData data)
    | transmitExtended i type data => exact hcall i (.transmitExtended type data)
    | eof i => exact hcall i .eof
    | close i => exact hcall i .close
    | maybeClose i => exact hcall i .maybeClose
    | sendRequest i type want args => exact hcall i (.sendRequest type want args)
    | requestReply i want res => exact hcall i (.requestReply want res)
    | update i u => exact hcall i (.update u)
    | kill i => exact hcall i .kill
    | sendGlobalRequest type st args =>
      have hacts := Acts.sendGlobal (c := c) type st args
      rw [perform, if_pos hal]
      refine Steps.single (a := .sendGlobal type st args) ?_ ⟨trivial, .inl trivial, id⟩
      simpa [emit, channelSendGlobalRequest, write] using hacts
    | globalReply want res =>
      have hacts := Acts.globalReply (c := c) want res
      rw [perform, if_pos hal]
      refine Steps.of_action rfl trivial ?_
      cases want <;> simpa [emit, globalRequestReply, logResult, write, globalMessage] using hacts
    | pendingClose =>
      rw [perform, if_pos hal]
      exact Steps.single (sshConnectionPendingClose_acts c) ⟨trivial, .inl trivial, id⟩
  · rw [perform, if_neg hal]
    exact Steps.refl c

end Lsh.Channel
