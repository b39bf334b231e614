
import Lsh.Channel.Basic
import Lsh.Library.Table
import Mathlib.Logic.Relation

/-!
# One endpoint

A connection that runs `channel.c`. Its program may at any time call any of the functions for
programs, also from a callback of a handler and from the method that `ssh_connection_foreach` calls;
packets arrive at any time.

All of it comes down to a small number of actions: what is sent or received on a channel, what
becomes of a number, and what happens to the connection. `Acts` says exactly when an action is
possible and what it does. An invariant of an endpoint then has one case for each action, and not
one for each function and handler.

## Main definitions

* `Op`, `perform` — a call of a function for programs
* `EndpointEvent`, `endpointStep` — what may happen at an endpoint
* `Action`, `Acts`, `Steps` — actions and sequences of them
-/

namespace Lsh.Channel

open Machine

/-! ### Calls -/

/-- The fields of a channel object that are the program's. -/
structure Update (κ : Type) where
  requestTypes : List Atom
  requestFallback : Bool
  noWaitForEof : Bool
  sources : ℕ
  sinks : ℕ
  receive : Bool
  sendAdjust : Bool
  app : κ

variable {κ : Type}

/-- The program sets its fields. -/
def Update.apply (u : Update κ) (channel : SshChannel κ) : SshChannel κ :=
  { channel with
    requestTypes := u.requestTypes
    requestFallback := u.requestFallback
    flags := { channel.flags with noWaitForEof := u.noWaitForEof }
    sources := u.sources
    sinks := u.sinks
    receive := u.receive
    sendAdjust := u.sendAdjust
    app := u.app }

/-- A call of a function for programs. -/
inductive Op (κ : Type) where
  | openNew (new : NewChannel κ) (type : LshString) (args : Octets)
  | confirm (i : ℕ) (new : NewChannel κ)
  | deny (i : ℕ) (reason : UInt32) (msg : LshString)
  | adjustRecWindow (i : ℕ) (written : UInt32)
  | startReceive (i : ℕ) (initialWindowSize : UInt32)
  | transmitData (i : ℕ) (data : LshString)
  | transmitExtended (i : ℕ) (type : UInt32) (data : LshString)
  | eof (i : ℕ)
  | close (i : ℕ)
  | maybeClose (i : ℕ)
  | sendRequest (i : ℕ) (type : LshString) (wantReply : Bool) (args : Octets)
  | requestReply (i : ℕ) (wantReply result : Bool)
  | sendGlobalRequest (type : Atom) (state : Option ℕ) (args : Octets)
  | globalReply (wantReply result : Bool)
  | update (i : ℕ) (u : Update κ)
  | kill (i : ℕ)
  | pendingClose

/-- The program changes its fields of a channel. -/
def updateChannel (c : SshConnection κ) (i : ℕ) (u : Update κ) : SshConnection κ :=
  match channelAt c i with
  | none => c
  | some channel => setChannel c i (u.apply channel)

/-- A call on a connection that has not been killed. -/
def performOp (c : SshConnection κ) : Op κ → Except ChannelError (SshConnection κ)
  | .openNew new type args => channelOpenNewType c new type args
  | .confirm i new => channelOpenConfirm c i new
  | .deny i reason msg => channelOpenDeny c i reason msg
  | .adjustRecWindow i written => channelAdjustRecWindow c i written
  | .startReceive i initialWindowSize => channelStartReceive c i initialWindowSize
  | .transmitData i data => channelTransmitData c i data
  | .transmitExtended i type data => channelTransmitExtended c i type data
  | .eof i => channelEof c i
  | .close i => channelClose c i
  | .maybeClose i => channelMaybeClose c i
  | .sendRequest i type wantReply args => channelSendRequest c i type wantReply args
  | .requestReply i wantReply result => channelRequestReply c i wantReply result
  | .sendGlobalRequest type state args => .ok (channelSendGlobalRequest c type state args)
  | .globalReply wantReply result => .ok (globalRequestReply c wantReply result)
  | .update i u => .ok (updateChannel c i u)
  | .kill i => .ok (killChannel c i)
  | .pendingClose => .ok (sshConnectionPendingClose c)

/-- A call. Nothing happens on a connection that has been killed. -/
def perform (c : SshConnection κ) (op : Op κ) : Except ChannelError (SshConnection κ) :=
  if c.alive then performOp c op else .ok c

/-- What may happen at an endpoint, with what the program does in the callbacks. -/
inductive EndpointEvent (κ : Type) where
  | call (op : Op κ)
  | receive (packet : Octets) (ops : List (Op κ))
  /-- `ssh_connection_stop_channels` or `ssh_connection_start_channels`. -/
  | notify (ops : ℕ → List (Op κ))

/-- A packet arrives, and `ops` is what the program does in the callback. -/
def receiveWith (c : SshConnection κ) (packet : Octets) (ops : List (Op κ)) :
    Except ChannelError (SshConnection κ) := do
  let (_, c) ← channelPacketHandler (fun _ c => run perform c ops) c packet
  return c

/-- One event. -/
def endpointStep (c : SshConnection κ) : EndpointEvent κ → Except ChannelError (SshConnection κ)
  | .call op => perform c op
  | .receive packet ops => if c.alive then receiveWith c packet ops else .ok c
  | .notify ops =>
    if c.alive then sshConnectionForeach (fun i c => run perform c (ops i)) c else .ok c

/-! ### Actions on a channel -/

/-- What happens to a channel object. -/
inductive ChannelAction (κ : Type) where
  /-- WINDOW_ADJUST from `channel_adjust_rec_window`. -/
  | adjust (add : UInt32)
  /-- WINDOW_ADJUST from `channel_start_receive`. -/
  | startReceive (initialWindowSize : UInt32)
  | reply (result : Bool)
  | sendClose
  | sendEof
  /-- Data, or extended data of some type. -/
  | transmit (type : Option UInt32) (data : LshString)
  | request (type : LshString) (wantReply : Bool) (args : Octets)
  | update (u : Update κ)
  | kill
  | receiveAdjust (size : UInt32)
  /-- So many octets are taken from data that has been received. -/
  | receiveData (length : UInt32)
  | receiveEof
  | receiveClose
  | receiveReply

namespace ChannelAction

/-- When an action may happen. -/
def Guard : ChannelAction κ → SshChannel κ → Prop
  | adjust _, channel => channel.flags.receivedEof = false ∧ channel.flags.receivedClose = false ∧
    channel.flags.sentClose = false
  | startReceive w, channel => channel.recWindowSize < w
  | reply _, _ => True
  | sendClose, channel => channel.flags.sentClose = false
  | sendEof, channel => channel.flags.sentEof = false ∧ channel.flags.sentClose = false ∧
    channel.flags.receivedClose = false
  | transmit _ data, channel => LshString.length data ≤ channel.sendWindowSize ∧
    LshString.length data ≤ channel.sendMaxPacket
  | request _ _ _, channel => channel.flags.sentClose = false
  | update _, _ => True
  | kill, channel => channel.alive = true
  | receiveAdjust _, channel => channel.flags.receivedClose = false ∧
    channel.flags.sentClose = false ∧ channel.flags.sentEof = false
  | receiveData length, channel => channel.flags.receivedEof = false ∧
    channel.flags.receivedClose = false ∧ channel.flags.sentClose = false ∧
    length ≤ channel.recWindowSize ∧ length ≤ channel.recMaxPacket
  | receiveEof, channel => channel.flags.receivedEof = false ∧ channel.flags.receivedClose = false
  | receiveClose, channel => channel.flags.receivedClose = false
  | receiveReply, channel => channel.pendingRequests ≠ 0

/-- What an action does to the object. -/
def effect : ChannelAction κ → SshChannel κ → SshChannel κ
  | adjust add, channel => { channel with recWindowSize := channel.recWindowSize + add }
  | startReceive w, channel =>
    { channel with recWindowSize := channel.recWindowSize + (w - channel.recWindowSize) }
  | reply _, channel => channel
  | sendClose, channel => { channel with flags := { channel.flags with sentClose := true } }
  | sendEof, channel => { channel with flags := { channel.flags with sentEof := true } }
  | transmit _ data, channel =>
    { channel with sendWindowSize := channel.sendWindowSize - LshString.length data }
  | request _ wantReply _, channel =>
    if wantReply then { channel with pendingRequests := channel.pendingRequests + 1 } else channel
  | update u, channel => u.apply channel
  | kill, channel => { channel with alive := false }
  | receiveAdjust size, channel => { channel with sendWindowSize := channel.sendWindowSize + size }
  | receiveData length, channel =>
    { channel with recWindowSize := channel.recWindowSize - length }
  | receiveEof, channel => { channel with flags := { channel.flags with receivedEof := true } }
  | receiveClose, channel => { channel with flags := { channel.flags with receivedClose := true } }
  | receiveReply, channel => { channel with pendingRequests := channel.pendingRequests - 1 }

/-- The message that is sent, to a number of the other end. -/
def message : ChannelAction κ → SshChannel κ → Option (UInt32 → Message)
  | adjust add, _ => some (.windowAdjust · add)
  | startReceive w, channel => some (.windowAdjust · (w - channel.recWindowSize))
  | reply result, _ => some (if result then .success else .failure)
  | sendClose, _ => some .close
  | sendEof, _ => some .eof
  | transmit none data, _ => some (.data · data)
  | transmit (some type) data, _ => some (.extendedData · type data)
  | request type wantReply args, _ => some (.request · type wantReply args)
  | _, _ => none

/-- Actions that answer to a message: the channel is open. -/
def IsReceive : ChannelAction κ → Prop
  | receiveAdjust _ => True
  | receiveData _ => True
  | receiveEof => True
  | receiveClose => True
  | receiveReply => True
  | _ => False

/-- The message of an action, to the number that the channel has at the other end. -/
def messages (a : ChannelAction κ) (channel : SshChannel κ) : List Message :=
  match a.message channel, channel.remoteChannelNumber with
  | some m, some n => [m n]
  | _, _ => []

/-- What is put on record. -/
def entries (a : ChannelAction κ) (channel : SshChannel κ) : List Entry :=
  match a with
  | receiveClose => [.receivedClose channel.serial]
  | _ => (a.messages channel).map (.sent (some channel.serial))

end ChannelAction

/-! ### Actions of an endpoint -/

/-- What happens at an endpoint. -/
inductive Action (κ : Type) where
  | channel (i : ℕ) (a : ChannelAction κ)
  | openNew (i : ℕ) (new : NewChannel κ) (type : LshString) (args : Octets)
  | receiveOpen (i : ℕ) (info : OpenInfo)
  | confirm (i : ℕ) (new : NewChannel κ)
  | deny (i : ℕ) (reason : UInt32) (msg : LshString)
  | receiveConfirmation (i : ℕ) (remote window maxPacket : UInt32)
  | receiveFailure (i : ℕ)
  | finish (i : ℕ)
  /-- An open request is refused, with no number reserved for it. -/
  | refuse (remote reason : UInt32) (msg : LshString)
  | sendGlobal (type : Atom) (state : Option ℕ) (args : Octets)
  | globalReply (wantReply result : Bool)
  /-- A global request of an unknown type is answered. -/
  | refuseGlobal (wantReply : Bool)
  | receiveGlobalReply (state : ℕ) (result : Bool)
  | pendingClose

/-- Messages are written and entries put on record. -/
def emit (c : SshConnection κ) (ms : List Message) (es : List Entry) : SshConnection κ :=
  { c with written := c.written ++ ms, log := c.log ++ es }

/-- What `ssh_connection_alloc_channel` does to the table if it finds the number `i`. -/
def allot (c : SshConnection κ) (i : ℕ) (s : Slot κ) : SshConnection κ :=
  { c with
    slots := Table.place c.slots i s
    allocatedChannels := if i = c.slots.length ∧ i = c.allocatedChannels then
      c.allocatedChannels * 2 else c.allocatedChannels
    nextChannel := i + 1
    channelCount := c.channelCount + 1 }

/-- What `ssh_connection_dealloc_channel` does to the table. -/
def release (c : SshConnection κ) (i : ℕ) : SshConnection κ :=
  { c with
    slots := c.slots.set i ⟨.free, none, none⟩
    channelCount := c.channelCount - 1
    nextChannel := min i c.nextChannel }

/-- The number that `ssh_connection_alloc_channel` finds. -/
structure Found (c : SshConnection κ) (i : ℕ) : Prop where
  le : c.nextChannel ≤ i
  le_length : i ≤ c.slots.length
  lt_maxChannels : i < maxChannels
  free : ∀ s, c.slots[i]? = some s → s.state = .free ∧ s.channel = none
  taken : ∀ j s, c.nextChannel ≤ j → j < i → c.slots[j]? = some s → s.state ≠ .free

/-- A new object, as `ssh_connection_register_channel` leaves it. -/
def newChannel (c : SshConnection κ) (i : ℕ) (new : NewChannel κ) (info : Option OpenInfo) :
    SshChannel κ :=
  { initChannel new info with serial := c.nextSerial, localChannelNumber := i }

/-- The message for a new channel. -/
def openMessage (i : ℕ) (new : NewChannel κ) (type : LshString) (args : Octets) : Message :=
  .open type (UInt32.ofNat i) new.recWindowSize (min new.recMaxPacket sshMaxDataSize) args

/-- The message for an open request that is accepted. -/
def confirmMessage (i : ℕ) (new : NewChannel κ) (info : OpenInfo) : Message :=
  .openConfirmation info.remoteChannelNumber (UInt32.ofNat i) new.recWindowSize
    (min new.recMaxPacket sshMaxDataSize)

/-- What `handle_open_confirm` does to the object. -/
def confirmed (channel : SshChannel κ) (remote window maxPacket : UInt32) : SshChannel κ :=
  { channel with
    remoteChannelNumber := some remote
    sendWindowSize := window
    sendMaxPacket := min maxPacket sshMaxDataSize }

/-- The connection is killed if it waits for its last channel and that is gone. -/
def settle (c : SshConnection κ) : SshConnection κ :=
  if c.pendingClose ∧ c.channelCount = 0 then { c with alive := false } else c

/-- The message that answers a global request. -/
def globalMessage (result : Bool) : Message := if result then .requestSuccess else .requestFailure

/-- **An action.** When it is possible, and what it does. -/
inductive Acts : SshConnection κ → Action κ → SshConnection κ → Prop where
  | channel {c : SshConnection κ} {i : ℕ} {s : Slot κ} {channel : SshChannel κ}
      (a : ChannelAction κ) (hs : c.slots[i]? = some s) (hchannel : s.channel = some channel)
      (hguard : a.Guard channel) (hactive : a.IsReceive → s.state = .active)
      (hremote : (a.message channel).isSome → channel.remoteChannelNumber.isSome) :
      Acts c (.channel i a)
        (emit (setChannel c i (a.effect channel)) (a.messages channel) (a.entries channel))
  | openNew {c : SshConnection κ} {i : ℕ} (new : NewChannel κ) (type : LshString) (args : Octets)
      (hi : Found c i) :
      Acts c (.openNew i new type args)
        (emit { allot c i ⟨.sentOpen, some (newChannel c i new none), none⟩ with
          nextSerial := c.nextSerial + 1 } [openMessage i new type args]
          [.sent (some c.nextSerial) (openMessage i new type args)])
  | receiveOpen {c : SshConnection κ} {i : ℕ} (info : OpenInfo) (hi : Found c i)
      (hpending : c.pendingClose = false) :
      Acts c (.receiveOpen i info) (allot c i ⟨.receivedOpen, none, some info⟩)
  | confirm {c : SshConnection κ} {i : ℕ} {info : OpenInfo} (new : NewChannel κ)
      (hs : c.slots[i]? = some ⟨.receivedOpen, none, some info⟩) :
      Acts c (.confirm i new)
        (emit { c with
          slots := c.slots.set i ⟨.active, some (newChannel c i new (some info)), none⟩
          nextSerial := c.nextSerial + 1 } [confirmMessage i new info]
          [.sent (some c.nextSerial) (confirmMessage i new info)])
  | deny {c : SshConnection κ} {i : ℕ} {info : OpenInfo} (reason : UInt32) (msg : LshString)
      (hs : c.slots[i]? = some ⟨.receivedOpen, none, some info⟩) :
      Acts c (.deny i reason msg)
        (emit (release c i) [.openFailure info.remoteChannelNumber reason msg]
          [.deallocated i none, .sent none (.openFailure info.remoteChannelNumber reason msg)])
  | receiveConfirmation {c : SshConnection κ} {i : ℕ} {s : Slot κ} {channel : SshChannel κ}
      (remote window maxPacket : UInt32) (hs : c.slots[i]? = some s) (hstate : s.state = .sentOpen)
      (hchannel : s.channel = some channel) :
      Acts c (.receiveConfirmation i remote window maxPacket)
        (emit { c with
          slots := c.slots.set i
            ⟨.active, some (confirmed channel remote window maxPacket), none⟩ } []
          [.receivedConfirmation channel.serial])
  | receiveFailure {c : SshConnection κ} {i : ℕ} {s : Slot κ} {channel : SshChannel κ}
      (hs : c.slots[i]? = some s) (hstate : s.state = .sentOpen)
      (hchannel : s.channel = some channel) :
      Acts c (.receiveFailure i) (emit c [] [.receivedFailure channel.serial])
  | finish {c : SshConnection κ} {i : ℕ} {s : Slot κ} {channel : SshChannel κ}
      (hs : c.slots[i]? = some s) (hchannel : s.channel = some channel)
      (halive : channel.alive = true)
      (hstate : s.state = .active ∧ channel.flags.sentClose = true ∧
        channel.flags.receivedClose = true ∨
        s.state = .sentOpen ∧ .receivedFailure channel.serial ∈ c.log) :
      Acts c (.finish i)
        (settle (emit { release c i with
          pendingClose := c.pendingClose || channel.closesConnection } []
          [.deallocated i (some channel.serial)]))
  | refuse {c : SshConnection κ} (remote reason : UInt32) (msg : LshString) :
      Acts c (.refuse remote reason msg)
        (emit c [.openFailure remote reason msg] [.sent none (.openFailure remote reason msg)])
  | sendGlobal {c : SshConnection κ} (type : Atom) (state : Option ℕ) (args : Octets) :
      Acts c (.sendGlobal type state args)
        (emit { c with pendingGlobalRequests := c.pendingGlobalRequests ++ state.toList }
          [.globalRequest type state.isSome args]
          [.sent none (.globalRequest type state.isSome args), .sentGlobal state])
  | globalReply {c : SshConnection κ} (wantReply result : Bool) :
      Acts c (.globalReply wantReply result)
        (emit c (if wantReply then [globalMessage result] else [])
          (.globalResult wantReply result ::
            if wantReply then [.sent none (globalMessage result)] else []))
  | refuseGlobal {c : SshConnection κ} (wantReply : Bool) :
      Acts c (.refuseGlobal wantReply)
        (emit c [globalMessage false]
          [.globalResult wantReply false, .sent none (globalMessage false)])
  | receiveGlobalReply {c : SshConnection κ} {state : ℕ} {rest : List ℕ} (result : Bool)
      (hpending : c.pendingGlobalRequests = state :: rest) :
      Acts c (.receiveGlobalReply state result)
        (emit { c with pendingGlobalRequests := rest } [] [.globalDone state result])
  | pendingClose {c : SshConnection κ} :
      Acts c .pendingClose (settle { c with pendingClose := true })

/-- Actions that satisfy a condition, one after the other. -/
def Steps (P : SshConnection κ → Action κ → Prop) :
    SshConnection κ → SshConnection κ → Prop :=
  Relation.ReflTransGen fun c d => ∃ a, Acts c a d ∧ P c a

namespace Steps

variable {P Q : SshConnection κ → Action κ → Prop} {a : Action κ} {c d e : SshConnection κ}

theorem refl (c) : Steps P c c := Relation.ReflTransGen.refl

theorem single (h : Acts c a d) (hP : P c a) : Steps P c d :=
  Relation.ReflTransGen.single ⟨a, h, hP⟩

theorem trans (h : Steps P c d) (h' : Steps P d e) : Steps P c e :=
  Relation.ReflTransGen.trans h h'

theorem mono (h : Steps P c d) (hPQ : ∀ c a, P c a → Q c a) : Steps Q c d := by
  have hle : ∀ c d, (∃ a, Acts c a d ∧ P c a) → ∃ a, Acts c a d ∧ Q c a :=
    fun _ _ ⟨a, ha, hP⟩ => ⟨a, ha, hPQ _ _ hP⟩
  exact Relation.ReflTransGen.mono hle _ _ h

/-- **The induction over steps.** What every action keeps is kept. -/
theorem inv {Inv : SshConnection κ → Prop} (h : Steps P c d)
    (hacts : ∀ c a d, Acts c a d → P c a → Inv c → Inv d) (hc : Inv c) : Inv d := by
  induction h with
  | refl => exact hc
  | tail _ hsp ih =>
    obtain ⟨a, ha, hP⟩ := hsp
    exact hacts _ a _ ha hP ih

end Steps

end Lsh.Channel
