
import Lsh.Channel.EndpointSteps

/-!
# What a channel learns

A packet concerns one channel at most. `Arrives` lists what can happen to the object of that channel
before the program is told, together with what the program is told. There is nothing else: every
handler ensures an `Arrival`.

An invariant of the channel objects of a program then has one case for each way something arrives,
and not one for each handler.
-/

namespace Lsh.Channel

open Machine Table Wire

variable {κ : Type} {c d : SshConnection κ} {i : ℕ} {x y : SshChannel κ}

/-- A call into the program about one channel. -/
inductive Notice where
  | event (e : ChannelEvent)
  | receive (stderr : Bool) (data : Octets)
  | sendAdjust (increment : UInt32)
  | request (type : Octets) (wantReply : Bool) (args : Octets)
  deriving DecidableEq

/-- The channel of a callback, and what it is told. -/
def Callback.notice : Callback → Option (ℕ × Notice)
  | event i e => some (i, .event e)
  | receive i stderr data => some (i, .receive stderr data)
  | sendAdjust i increment => some (i, .sendAdjust increment)
  | request i type wantReply args => some (i, .request type wantReply args)
  | _ => none

/-- The channel takes data. -/
def TakesData (channel : SshChannel κ) : Prop :=
  channel.receive ∧ channel.flags.receivedEof = false ∧
    channel.flags.receivedClose = false ∧ channel.flags.sentClose = false

/-- Somebody handles requests of a type on a channel. -/
def Handles (channel : SshChannel κ) (type : Octets) : Prop :=
  channel.requestFallback ∨ ∃ a ∈ lookupAtom type, a ∈ channel.requestTypes

instance (channel : SshChannel κ) (type : Octets) : Decidable (Handles channel type) :=
  inferInstanceAs (Decidable (_ ∨ _))

/-- What may happen to the object of a channel from outside, and what its program is told about
it. -/
inductive Arrives (x : SshChannel κ) : SshChannel κ → Option Notice → Prop where
  | adjust (size : UInt32) (hguard : ChannelAction.Guard (.receiveAdjust size) x) :
      Arrives x (ChannelAction.effect (.receiveAdjust size) x)
        (if x.sendWindowSize + size ≠ 0 ∧ x.sendAdjust = true then some (.sendAdjust size)
          else none)
  | data (stderr : Bool) {data : Octets} (htakes : TakesData x) (hdata : data ≠ [])
      (hle : data.length ≤ x.recWindowSize.toNat) :
      Arrives x (ChannelAction.effect (.receiveData (UInt32.ofNat data.length)) x)
        (some (.receive stderr data))
  | eof (hguard : ChannelAction.Guard .receiveEof x) :
      Arrives x (ChannelAction.effect .receiveEof x) (some (.event .eof))
  | close (hguard : ChannelAction.Guard .receiveClose x) :
      Arrives x (ChannelAction.effect .receiveClose x) (some (.event .close))
  | confirm (remote window maxPacket : UInt32) (hremote : x.remoteChannelNumber = none)
      (hflags : x.flags.Unused) :
      Arrives x (confirmed x remote window maxPacket) (some (.event .confirm))
  | deny (hremote : x.remoteChannelNumber = none) : Arrives x x (some (.event .deny))
  | reply (success : Bool) (hpending : x.pendingRequests ≠ 0) :
      Arrives x (ChannelAction.effect .receiveReply x)
        (some (.event (if success then .success else .failure)))
  | request (type : Octets) (wantReply : Bool) (args : Octets) (hhandles : Handles x type) :
      Arrives x x (some (.request type wantReply args))
  /-- A request that nobody handles. -/
  | unhandled : Arrives x x none
  | stop : Arrives x x (some (.event .stop))
  | start : Arrives x x (some (.event .start))

/-- The channels after a handler, up to the call into the program. -/
def Arrival (c : SshConnection κ) (r : Received κ) : Prop :=
  r.connection.alive = c.alive ∧
    ((∃ i x y notice, channelAt c i = some x ∧
        (∀ j, channelAt r.connection j = if j = i then some y else channelAt c j) ∧
        Arrives x y notice ∧ r.callback.bind Callback.notice = notice.map (i, ·)) ∨
      (∀ j, channelAt r.connection j = channelAt c j) ∧ r.callback.bind Callback.notice = none)

theorem channelAt_setChannel (hx : channelAt c i = some x) (y j) :
    channelAt (setChannel c i y) j = if j = i then some y else channelAt c j := by
  obtain ⟨slot, hs, _⟩ := exists_slot hx
  have hr : Replaces c.slots (setChannel c i y).slots i (some slot)
      { slot with channel := some y } := by
    rw [setChannel_eq hs]
    exact Replaces.of_set hs _
  exact channelAt_of_replaces hr

variable {r : Received κ}

/-- Nothing that concerns a channel. -/
theorem Arrival.of_slots (hslots : r.connection.slots = c.slots)
    (hal : r.connection.alive = c.alive) (hcb : r.callback.bind Callback.notice = none) :
    Arrival c r := by
  refine ⟨hal, .inr ⟨fun j => ?_, hcb⟩⟩
  rw [channelAt, hslots]
  rfl

variable {notice : Option Notice}

/-- Something that concerns an open channel. -/
theorem Arrival.of_open (hx : channelAt c i = some x)
    (hslots : r.connection.slots = (setChannel c i y).slots) (hal : r.connection.alive = c.alive)
    (harr : Arrives x y notice)
    (hcb : r.callback.bind Callback.notice = notice.map (i, ·)) : Arrival c r := by
  refine ⟨hal, .inl ⟨i, x, y, notice, hx, fun j => ?_, harr, hcb⟩⟩
  rw [channelAt, hslots]
  exact channelAt_setChannel hx y j

/-- The object is left as it is. -/
theorem Arrival.of_same (hx : channelAt c i = some x)
    (hslots : r.connection.slots = c.slots) (hal : r.connection.alive = c.alive)
    (harr : Arrives x x notice)
    (hcb : r.callback.bind Callback.notice = notice.map (i, ·)) : Arrival c r := by
  refine Arrival.of_open hx ?_ hal harr hcb
  rw [hslots, setChannel_self hx]

end Lsh.Channel
