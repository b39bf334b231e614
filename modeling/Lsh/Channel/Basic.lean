
import Lsh.Channel.Message

/-!
# The connection protocol

A model of `channel.c` and `connection.c`: the table of channels of a connection, the functions
that the other parts of a program call for a channel, and the handlers for messages.

A channel is known by the number of its slot in the table. A number is used again after its channel
is gone, so each channel object also has a serial number, which tells it from earlier and later
objects in the same slot. Programs attach data `κ` to a channel. A log keeps what has happened to
which object, and nothing reads it but theorems.

Handlers call back into the program. A handler is a function `receivePacket` up to the call, which
says what is called, and a function `finishPacket` for what the handler does after it. What the
program does in the call is up to the program.
-/

namespace Lsh.Channel

open Machine Wire

/-! ### State -/

/-- Assertions of `channel.c` and `connection.c`. -/
inductive ChannelAssertion where
  | allocChannel
  | deallocChannel
  | registerChannel
  | activateChannel
  | lookupChannel
  | foreach
  | openAnswer
  | transmit
  deriving DecidableEq, Repr

/-- How processing can fail. -/
inductive ChannelError where
  /-- `SSH_CONNECTION_ERROR`. -/
  | connectionError (msg : String)
  | assertion (a : ChannelAssertion)
  /-- A message is sent on a channel that is not open, so that the number of the other end has not
  been set. -/
  | uninitialized
  /-- A function is called for a channel that is not associated with the connection. -/
  | deadChannel
  /-- A packet without a message number. -/
  | internal
  deriving DecidableEq, Repr

/-- `enum channel_alloc_state`. -/
inductive AllocState where
  | free
  | sentOpen
  | receivedOpen
  | active
  deriving DecidableEq, Repr

/-- `enum channel_flag`. -/
structure Flags where
  sentClose : Bool
  receivedClose : Bool
  sentEof : Bool
  receivedEof : Bool
  noWaitForEof : Bool
  deriving DecidableEq, Repr

/-- `struct ssh_channel`, with the data of the program. -/
structure SshChannel (κ : Type) where
  /-- Tells this object from others. -/
  serial : ℕ
  /-- The flag of `struct resource`: the object has not been killed. -/
  alive : Bool
  localChannelNumber : ℕ
  /-- Not set until the channel is open. -/
  remoteChannelNumber : Option UInt32
  recWindowSize : UInt32
  recMaxPacket : UInt32
  sendWindowSize : UInt32
  sendMaxPacket : UInt32
  /-- The types in `request_types`. -/
  requestTypes : List Atom
  /-- There is a `request_fallback`. -/
  requestFallback : Bool
  flags : Flags
  sources : ℕ
  sinks : ℕ
  /-- The method `receive` is set. -/
  receive : Bool
  /-- The method `send_adjust` is set. -/
  sendAdjust : Bool
  pendingRequests : ℕ
  /-- The method `kill` calls `ssh_connection_pending_close`, as that of a client session does. -/
  closesConnection : Bool
  app : κ

/-- `struct channel_open_info`, of an open request that has not been answered. -/
structure OpenInfo where
  remoteChannelNumber : UInt32
  sendWindowSize : UInt32
  sendMaxPacket : UInt32

/-- An entry of the tables `alloc_state` and `channels`, with the open request for a number that
is reserved for one. -/
structure Slot (κ : Type) where
  state : AllocState
  channel : Option (SshChannel κ)
  info : Option OpenInfo

/-- What has happened on a connection, with the serial number of the channel. -/
inductive Entry where
  | sent (channel : Option ℕ) (m : Message)
  | receivedConfirmation (channel : ℕ)
  | receivedFailure (channel : ℕ)
  | receivedClose (channel : ℕ)
  /-- A number is free again. There is no channel if an open request was denied. -/
  | deallocated (i : ℕ) (channel : Option ℕ)
  /-- A global request is sent, with the state that is queued if it wants a reply. -/
  | sentGlobal (state : Option ℕ)
  /-- The result of a global request of the other end. -/
  | globalResult (wantReply result : Bool)
  /-- The method `done` of the state of a global request is called. -/
  | globalDone (state : ℕ) (success : Bool)
  deriving DecidableEq

/-- `struct ssh_connection`. -/
structure SshConnection (κ : Type) where
  /-- The first `used_channels` entries of the tables. -/
  slots : List (Slot κ)
  allocatedChannels : ℕ
  nextChannel : ℕ
  channelCount : ℕ
  pendingClose : Bool
  alive : Bool
  /-- The types in `channel_types`. -/
  channelTypes : List Atom
  /-- There is an `open_fallback`. -/
  openFallback : Bool
  /-- The types in `global_requests`. -/
  globalRequests : List Atom
  pendingGlobalRequests : List ℕ
  nextSerial : ℕ
  /-- The messages written so far. -/
  written : List Message
  log : List Entry

/-- `MAX_CHANNELS`. -/
def maxChannels : ℕ := 2 ^ 17

/-- `SSH_MAX_DATA_SIZE`. -/
def sshMaxDataSize : UInt32 := 0x8000 - 100

/-- `init_ssh_connection`, for a program that handles these types. -/
def initSshConnection {κ : Type} (channelTypes globalRequests : List Atom) (openFallback : Bool) :
    SshConnection κ where
  slots := []
  allocatedChannels := 32
  nextChannel := 0
  channelCount := 0
  pendingClose := false
  alive := true
  channelTypes := channelTypes
  openFallback := openFallback
  globalRequests := globalRequests
  pendingGlobalRequests := []
  nextSerial := 0
  written := []
  log := []

variable {κ : Type}

/-! ### The table of channels -/

/-- `ssh_connection_alloc_channel`: the number, if there is one left. -/
def allocChannel (c : SshConnection κ) (type : AllocState) :
    Except ChannelError (Option ℕ × SshConnection κ) :=
  let i := c.nextChannel + (c.slots.drop c.nextChannel).findIdx fun s => s.state = .free
  match c.slots[i]? with
  | some s => do
    require (s.channel.isNone) (.assertion .allocChannel)
    return (some i, { c with
      slots := c.slots.set i ⟨type, none, none⟩
      nextChannel := i + 1
      channelCount := c.channelCount + 1 })
  | none =>
    if i = maxChannels then .ok (none, c)
    else .ok (some i, { c with
      slots := c.slots ++ [⟨type, none, none⟩]
      allocatedChannels :=
        if i = c.allocatedChannels then c.allocatedChannels * 2 else c.allocatedChannels
      nextChannel := i + 1
      channelCount := c.channelCount + 1 })

/-- `ssh_connection_dealloc_channel`. -/
def deallocChannel (c : SshConnection κ) (i : ℕ) : Except ChannelError (SshConnection κ) :=
  match c.slots[i]? with
  | none => .error (.assertion .deallocChannel)
  | some s => do
    require (c.channelCount ≠ 0 ∧ s.state ≠ .free) (.assertion .deallocChannel)
    return { c with
      slots := c.slots.set i ⟨.free, none, none⟩
      channelCount := c.channelCount - 1
      nextChannel := min i c.nextChannel
      log := c.log ++ [.deallocated i (s.channel.map SshChannel.serial)] }

/-- `ssh_connection_register_channel`. The channel object gets its serial number. -/
def registerChannel (c : SshConnection κ) (i : ℕ) (channel : SshChannel κ) :
    Except ChannelError (SshConnection κ) :=
  match c.slots[i]? with
  | none => .error (.assertion .registerChannel)
  | some s => do
    require (s.state ≠ .free ∧ s.channel.isNone) (.assertion .registerChannel)
    return { c with
      slots := c.slots.set i { s with
        channel := some { channel with serial := c.nextSerial, localChannelNumber := i } }
      nextSerial := c.nextSerial + 1 }

/-- `ssh_connection_activate_channel`. -/
def activateChannel (c : SshConnection κ) (i : ℕ) : Except ChannelError (SshConnection κ) :=
  match c.slots[i]? with
  | none => .error (.assertion .activateChannel)
  | some s => do
    require (s.state ≠ .free ∧ s.channel.isSome) (.assertion .activateChannel)
    return { c with slots := c.slots.set i { s with state := .active, info := none } }

/-- `ssh_connection_lookup_channel`. -/
def lookupChannel (c : SshConnection κ) (n : UInt32) (flag : AllocState) :
    Except ChannelError (Option (SshChannel κ)) :=
  match c.slots[n.toNat]? with
  | none => .ok none
  | some s =>
    if s.state = flag then
      match s.channel with
      | none => .error (.assertion .lookupChannel)
      | some channel => .ok (some channel)
    else .ok none

/-- The channel object in a slot: what the functions below are called with. -/
def channelAt (c : SshConnection κ) (i : ℕ) : Option (SshChannel κ) :=
  c.slots[i]?.bind Slot.channel

/-- The channel object in a slot, for functions that write to its connection in any case. -/
def getChannel (c : SshConnection κ) (i : ℕ) : Except ChannelError (SshChannel κ) :=
  match channelAt c i with
  | none => .error .deadChannel
  | some channel => .ok channel

/-- The channel object in a slot is changed. -/
def setChannel (c : SshConnection κ) (i : ℕ) (channel : SshChannel κ) : SshConnection κ :=
  { c with slots := c.slots.modify i fun s => { s with channel := some channel } }

/-- `SSH_CONNECTION_WRITE`. -/
def write (c : SshConnection κ) (channel : Option ℕ) (m : Message) : SshConnection κ :=
  { c with written := c.written ++ [m], log := c.log ++ [.sent channel m] }

/-- A message is written for a channel, to its number at the other end. -/
def writeChannel (c : SshConnection κ) (channel : SshChannel κ) (m : UInt32 → Message) :
    Except ChannelError (SshConnection κ) :=
  match channel.remoteChannelNumber with
  | none => .error .uninitialized
  | some n => .ok (write c (some channel.serial) (m n))

/-- `ssh_connection_foreach` from the number `i` on, for so many numbers. -/
def foreachFrom (f : ℕ → SshConnection κ → Except ChannelError (SshConnection κ)) :
    ℕ → ℕ → SshConnection κ → Except ChannelError (SshConnection κ)
  | 0, _, c => .ok c
  | fuel + 1, i, c =>
    match c.slots[i]? with
    | none => .ok c
    | some s =>
      if s.state = .active then do
        require (s.channel.isSome) (.assertion .foreach)
        let c ← f i c
        foreachFrom f fuel (i + 1) c
      else foreachFrom f fuel (i + 1) c

/-- `ssh_connection_foreach`. There are no more than `maxChannels` numbers. -/
def sshConnectionForeach (f : ℕ → SshConnection κ → Except ChannelError (SshConnection κ))
    (c : SshConnection κ) : Except ChannelError (SshConnection κ) :=
  foreachFrom f maxChannels 0 c

/-! ### Functions for programs

An object that is no longer in the table has both close flags set, so that some of the functions do
nothing for it: those do nothing for an empty slot. -/

/-- `ssh_connection_pending_close`. -/
def sshConnectionPendingClose (c : SshConnection κ) : SshConnection κ :=
  let c := { c with pendingClose := true }
  if c.channelCount = 0 then { c with alive := false } else c

/-- `KILL_RESOURCE` for a channel: what its method `kill` does to the connection. -/
def killChannel (c : SshConnection κ) (i : ℕ) : SshConnection κ :=
  match channelAt c i with
  | none => c
  | some channel =>
    if channel.alive then
      let c := setChannel c i { channel with alive := false }
      if channel.closesConnection then sshConnectionPendingClose c else c
    else c

/-- `channel_finished`: the channel is killed and its number deallocated. Nothing happens to a
channel that is dead already. -/
def channelFinished (c : SshConnection κ) (i : ℕ) : Except ChannelError (SshConnection κ) :=
  match channelAt c i with
  | none => .ok c
  | some channel =>
    if channel.alive then do
      let c ← deallocChannel (killChannel c i) i
      return if c.pendingClose ∧ c.channelCount = 0 then { c with alive := false } else c
    else .ok c

/-- `send_window_adjust`. -/
def sendWindowAdjust (c : SshConnection κ) (i : ℕ) (add : UInt32) :
    Except ChannelError (SshConnection κ) := do
  let channel ← getChannel c i
  let channel := { channel with recWindowSize := channel.recWindowSize + add }
  writeChannel (setChannel c i channel) channel (.windowAdjust · add)

/-- `channel_adjust_rec_window`. -/
def channelAdjustRecWindow (c : SshConnection κ) (i : ℕ) (written : UInt32) :
    Except ChannelError (SshConnection κ) :=
  match channelAt c i with
  | none => .ok c
  | some channel =>
    if written ≠ 0 ∧ ¬(channel.flags.receivedEof ∨ channel.flags.receivedClose ∨
        channel.flags.sentClose) then sendWindowAdjust c i written
    else .ok c

/-- `channel_start_receive`. -/
def channelStartReceive (c : SshConnection κ) (i : ℕ) (initialWindowSize : UInt32) :
    Except ChannelError (SshConnection κ) := do
  let channel ← getChannel c i
  if channel.recWindowSize < initialWindowSize then
    sendWindowAdjust c i (initialWindowSize - channel.recWindowSize)
  else return c

/-- `channel_request_reply`. -/
def channelRequestReply (c : SshConnection κ) (i : ℕ) (wantReply result : Bool) :
    Except ChannelError (SshConnection κ) :=
  if wantReply then do
    let channel ← getChannel c i
    writeChannel c channel (if result then .success else .failure)
  else .ok c

/-- `channel_close`. -/
def channelClose (c : SshConnection κ) (i : ℕ) : Except ChannelError (SshConnection κ) :=
  match channelAt c i with
  | none => .ok c
  | some channel =>
    if channel.flags.sentClose then .ok c
    else do
      let channel := { channel with flags := { channel.flags with sentClose := true } }
      let c ← writeChannel (setChannel c i channel) channel .close
      if channel.flags.receivedClose then channelFinished c i else .ok c

/-- `channel_maybe_close`. -/
def channelMaybeClose (c : SshConnection κ) (i : ℕ) : Except ChannelError (SshConnection κ) :=
  match channelAt c i with
  | none => .ok c
  | some channel =>
    if ¬channel.flags.sentClose ∧ channel.flags.sentEof ∧ (channel.flags.noWaitForEof ∨
        (channel.flags.receivedEof ∧ channel.sinks = 0)) then channelClose c i
    else .ok c

/-- `channel_eof`. -/
def channelEof (c : SshConnection κ) (i : ℕ) : Except ChannelError (SshConnection κ) :=
  match channelAt c i with
  | none => .ok c
  | some channel =>
    if channel.flags.sentEof ∨ channel.flags.sentClose ∨ channel.flags.receivedClose then .ok c
    else do
      let channel := { channel with flags := { channel.flags with sentEof := true } }
      let c ← writeChannel (setChannel c i channel) channel .eof
      channelMaybeClose c i

/-- The length of a string. -/
def LshString.length (s : LshString) : UInt32 := UInt32.ofNat s.1.length

/-- `channel_transmit_data` and `channel_transmit_extended`, which differ in the message. -/
def channelTransmit (c : SshConnection κ) (i : ℕ) (data : LshString)
    (m : UInt32 → LshString → Message) : Except ChannelError (SshConnection κ) := do
  let channel ← getChannel c i
  require (LshString.length data ≤ channel.sendWindowSize ∧
    LshString.length data ≤ channel.sendMaxPacket) (.assertion .transmit)
  let channel := { channel with sendWindowSize := channel.sendWindowSize - LshString.length data }
  writeChannel (setChannel c i channel) channel (m · data)

/-- `channel_transmit_data`. -/
def channelTransmitData (c : SshConnection κ) (i : ℕ) (data : LshString) :
    Except ChannelError (SshConnection κ) := channelTransmit c i data .data

/-- `channel_transmit_extended`. -/
def channelTransmitExtended (c : SshConnection κ) (i : ℕ) (type : UInt32) (data : LshString) :
    Except ChannelError (SshConnection κ) :=
  channelTransmit c i data fun n => .extendedData n type

/-- What a program chooses for a new channel object. -/
structure NewChannel (κ : Type) where
  recWindowSize : UInt32
  recMaxPacket : UInt32
  requestTypes : List Atom
  requestFallback : Bool
  noWaitForEof : Bool
  sources : ℕ
  sinks : ℕ
  receive : Bool
  sendAdjust : Bool
  closesConnection : Bool
  app : κ

/-- `init_channel`, with the values that the program sets and those of the other end, and
`check_rec_max_packet`. -/
def initChannel (new : NewChannel κ) (info : Option OpenInfo) : SshChannel κ where
  serial := 0
  alive := true
  localChannelNumber := 0
  remoteChannelNumber := info.map OpenInfo.remoteChannelNumber
  recWindowSize := new.recWindowSize
  recMaxPacket := min new.recMaxPacket sshMaxDataSize
  sendWindowSize := (info.map OpenInfo.sendWindowSize).getD 0
  sendMaxPacket := (info.map OpenInfo.sendMaxPacket).getD 0
  requestTypes := new.requestTypes
  requestFallback := new.requestFallback
  flags := ⟨false, false, false, false, new.noWaitForEof⟩
  sources := new.sources
  sinks := new.sinks
  receive := new.receive
  sendAdjust := new.sendAdjust
  pendingRequests := 0
  closesConnection := new.closesConnection
  app := new.app

/-- `channel_open_new_type`. Nothing happens if there is no number left. -/
def channelOpenNewType (c : SshConnection κ) (new : NewChannel κ) (type : LshString)
    (args : Octets) : Except ChannelError (SshConnection κ) := do
  let (index, c) ← allocChannel c .sentOpen
  match index with
  | none => return c
  | some i =>
    let channel := initChannel new none
    let serial := c.nextSerial
    let c ← registerChannel c i channel
    return write c (some serial)
      (.open type (UInt32.ofNat i) channel.recWindowSize channel.recMaxPacket args)

/-- `channel_open_confirm`, for the open request in a slot. -/
def channelOpenConfirm (c : SshConnection κ) (i : ℕ) (new : NewChannel κ) :
    Except ChannelError (SshConnection κ) :=
  match c.slots[i]? with
  | some ⟨.receivedOpen, none, some info⟩ => do
    let channel := initChannel new (some info)
    let serial := c.nextSerial
    let c ← registerChannel c i channel
    let c ← activateChannel c i
    return write c (some serial) (.openConfirmation info.remoteChannelNumber (UInt32.ofNat i)
      channel.recWindowSize channel.recMaxPacket)
  | _ => .error (.assertion .openAnswer)

/-- `channel_open_deny`, for the open request in a slot. -/
def channelOpenDeny (c : SshConnection κ) (i : ℕ) (reason : UInt32) (msg : LshString) :
    Except ChannelError (SshConnection κ) :=
  match c.slots[i]? with
  | some ⟨.receivedOpen, none, some info⟩ => do
    let c ← deallocChannel c i
    return write c none (.openFailure info.remoteChannelNumber reason msg)
  | _ => .error (.assertion .openAnswer)

/-- `channel_send_request`. -/
def channelSendRequest (c : SshConnection κ) (i : ℕ) (type : LshString) (wantReply : Bool)
    (args : Octets) : Except ChannelError (SshConnection κ) :=
  match channelAt c i with
  | none => .ok c
  | some channel =>
    if channel.flags.sentClose then .ok c
    else do
      let c ← writeChannel c channel (.request · type wantReply args)
      return if wantReply then
        setChannel c i { channel with pendingRequests := channel.pendingRequests + 1 } else c

/-- `channel_send_global_request`. A request with a state wants a reply. -/
def channelSendGlobalRequest (c : SshConnection κ) (type : Atom) (state : Option ℕ)
    (args : Octets) : SshConnection κ :=
  let c := write c none (.globalRequest type state.isSome args)
  { c with
    pendingGlobalRequests := c.pendingGlobalRequests ++ state.toList
    log := c.log ++ [.sentGlobal state] }

/-- A result of a global request of the other end is put on record. -/
def logResult (c : SshConnection κ) (wantReply result : Bool) : SshConnection κ :=
  { c with log := c.log ++ [.globalResult wantReply result] }

/-- `global_request_reply`. -/
def globalRequestReply (c : SshConnection κ) (wantReply result : Bool) : SshConnection κ :=
  let c := logResult c wantReply result
  if wantReply then write c none (if result then .requestSuccess else .requestFailure) else c

/-! ### Handlers for messages -/

/-- `enum channel_event`. -/
inductive ChannelEvent where
  | confirm
  | deny
  | eof
  | close
  | success
  | failure
  | stop
  | start
  deriving DecidableEq, Repr

/-- A call into the program. -/
inductive Callback where
  /-- The method `event` of the channel in a slot. -/
  | event (i : ℕ) (e : ChannelEvent)
  /-- The method `receive`, for data or stderr data. -/
  | receive (i : ℕ) (stderr : Bool) (data : Octets)
  | sendAdjust (i : ℕ) (increment : UInt32)
  /-- The handler for a request on the channel in a slot. -/
  | request (i : ℕ) (type : Octets) (wantReply : Bool) (args : Octets)
  /-- The handler for an open request, for which a slot has been reserved. -/
  | openChannel (i : ℕ) (type args : Octets)
  | globalRequest (type : Atom) (wantReply : Bool) (args : Octets)
  /-- The method `done` of the state of a global request. -/
  | globalDone (state : ℕ) (success : Bool)

/-- What a handler does after the call, for the channel object with some serial number. -/
inductive After where
  | done
  | maybeClose (i serial : ℕ)
  | close (i serial : ℕ)
  | finish (i serial : ℕ)

/-- A handler up to the call into the program, if there is one. -/
structure Received (κ : Type) where
  connection : SshConnection κ
  callback : Option Callback
  after : After

/-- A handler without a call. -/
def Received.nothing (c : SshConnection κ) : Received κ := ⟨c, none, .done⟩

section Handlers

variable (c : SshConnection κ)

/-- `handle_global_request`. -/
def handleGlobalRequest (s : Octets) : Except ChannelError (Received κ) :=
  match parseGlobalRequest s with
  | none => .error (.connectionError "Invalid SSH_MSG_GLOBAL_REQUEST message.")
  | some (name, wantReply, args) =>
    match lookupAtom name with
    | none => .ok (.nothing (write (logResult c wantReply false) none .requestFailure))
    | some type =>
      if type ∈ c.globalRequests then .ok ⟨c, some (.globalRequest type wantReply args), .done⟩
      else .ok (.nothing (write (logResult c wantReply false) none .requestFailure))

/-- `handle_global_success` and `handle_global_failure`, which differ in the result and the
message. -/
def handleGlobalReply (s : Octets) (result : Bool) (msg : String) :
    Except ChannelError (Received κ) :=
  match parseEod s with
  | none => .error (.connectionError msg)
  | some () =>
    match c.pendingGlobalRequests with
    | [] => .ok (.nothing c)
    | state :: rest =>
      .ok ⟨{ c with
        pendingGlobalRequests := rest
        log := c.log ++ [.globalDone state result] }, some (.globalDone state result), .done⟩

/-- `handle_channel_request`. -/
def handleChannelRequest (s : Octets) : Except ChannelError (Received κ) :=
  match parseChannelRequest s with
  | none => .error (.connectionError "Invalid SSH_MSG_CHANNEL_REQUEST message.")
  | some (n, name, wantReply, args) => do
    match ← lookupChannel c n .active with
    | none => .error (.connectionError "Invalid SSH_MSG_CHANNEL_REQUEST message.")
    | some channel =>
      if channel.requestFallback ∨ ∃ type ∈ lookupAtom name, type ∈ channel.requestTypes then
        return ⟨c, some (.request n.toNat name wantReply args), .done⟩
      else
        let c ← channelRequestReply c n.toNat wantReply false
        return .nothing c

/-- The refusal of an open request by `handle_channel_open`. -/
def refuseOpen (remote reason : UInt32) (msg : LshString) : Received κ :=
  .nothing (write c none (.openFailure remote reason msg))

/-- A string constant. -/
def lshString (s : Octets) : LshString := ⟨s.take 255, by rw [List.length_take]; omega⟩

/-- `handle_channel_open`. -/
def handleChannelOpen (s : Octets) : Except ChannelError (Received κ) :=
  match parseChannelOpen s with
  | none => .error (.connectionError "Invalid SSH_MSG_CHANNEL_OPEN message.")
  | some (name, remote, window, maxPacket, args) =>
    if c.pendingClose then
      .ok (refuseOpen c remote 1 (lshString (asciiOctets "Waiting for channels to close.")))
    else if c.openFallback ∨ ∃ type ∈ lookupAtom name, type ∈ c.channelTypes then do
      let (index, c) ← allocChannel c .receivedOpen
      match index with
      | none => return refuseOpen c remote 4 (lshString (asciiOctets "Channel limit exceeded."))
      | some i =>
        let info : OpenInfo := ⟨remote, window, min maxPacket 0x8000⟩
        return ⟨{ c with slots := c.slots.modify i fun s => { s with info := some info } },
          some (.openChannel i name args), .done⟩
    else .ok (refuseOpen c remote 3 (lshString (asciiOctets "Unknown channel type")))

/-- `handle_adjust_window`. -/
def handleAdjustWindow (s : Octets) : Except ChannelError (Received κ) :=
  match parseWindowAdjust s with
  | none => .error (.connectionError "Invalid CHANNEL_WINDOW_ADJUST message.")
  | some (n, size) => do
    match ← lookupChannel c n .active with
    | none => .error (.connectionError "Unexpected CHANNEL_WINDOW_ADJUST")
    | some channel =>
      if channel.flags.receivedClose then
        .error (.connectionError "Unexpected CHANNEL_WINDOW_ADJUST")
      else if channel.flags.sentClose ∨ channel.flags.sentEof then return .nothing c
      else
        let channel := { channel with sendWindowSize := channel.sendWindowSize + size }
        return ⟨setChannel c n.toNat channel,
          if channel.sendWindowSize ≠ 0 ∧ channel.sendAdjust then
            some (.sendAdjust n.toNat size) else none, .done⟩

/-- `receive_data_common`. -/
def receiveDataCommon (n : UInt32) (channel : SshChannel κ) (stderr : Bool) (data : Octets) :
    Received κ :=
  if channel.receive ∧ ¬(channel.flags.receivedEof ∨ channel.flags.receivedClose) then
    if channel.flags.sentClose then .nothing c
    else
      let data := (data.take channel.recMaxPacket.toNat).take channel.recWindowSize.toNat
      if data.length = 0 then .nothing c
      else
        ⟨setChannel c n.toNat { channel with
            recWindowSize := channel.recWindowSize - UInt32.ofNat data.length },
          some (.receive n.toNat stderr data), .done⟩
  else .nothing c

/-- `handle_channel_data`. -/
def handleChannelData (s : Octets) : Except ChannelError (Received κ) :=
  match parseChannelData s with
  | none => .error (.connectionError "Invalid CHANNEL_DATA message.")
  | some (n, data) => do
    match ← lookupChannel c n .active with
    | none => return .nothing c
    | some channel => return receiveDataCommon c n channel false data

/-- `handle_channel_extended_data`. -/
def handleChannelExtendedData (s : Octets) : Except ChannelError (Received κ) :=
  match parseChannelExtendedData s with
  | none => .error (.connectionError "Invalid CHANNEL_EXTENDED_DATA message.")
  | some (n, type, data) => do
    match ← lookupChannel c n .active with
    | none => return .nothing c
    | some channel =>
      return if type ≠ 1 then .nothing c else receiveDataCommon c n channel true data

/-- `handle_channel_eof`. -/
def handleChannelEof (s : Octets) : Except ChannelError (Received κ) :=
  match parseNumber s with
  | none => .error (.connectionError "Invalid CHANNEL_EOF message")
  | some n => do
    match ← lookupChannel c n .active with
    | none => .error (.connectionError "EOF on non-existant channel")
    | some channel =>
      if channel.flags.receivedEof ∨ channel.flags.receivedClose then
        .error (.connectionError "Received EOF on channel on closed channel.")
      else
        return ⟨setChannel c n.toNat { channel with
            flags := { channel.flags with receivedEof := true } },
          some (.event n.toNat .eof), .maybeClose n.toNat channel.serial⟩

/-- `handle_channel_close`. -/
def handleChannelClose (s : Octets) : Except ChannelError (Received κ) :=
  match parseNumber s with
  | none => .error (.connectionError "Invalid CHANNEL_CLOSE message")
  | some n => do
    match ← lookupChannel c n .active with
    | none => .error (.connectionError "CLOSE on non-existant channel")
    | some channel =>
      if channel.flags.receivedClose then
        .error (.connectionError "Receiving multiple CLOSE on channel.")
      else
        let c := setChannel c n.toNat { channel with
          flags := { channel.flags with receivedClose := true } }
        return ⟨{ c with log := c.log ++ [.receivedClose channel.serial] },
          some (.event n.toNat .close), .close n.toNat channel.serial⟩

/-- `handle_open_confirm`. -/
def handleOpenConfirm (s : Octets) : Except ChannelError (Received κ) :=
  match parseOpenConfirmation s with
  | none => .error (.connectionError "Invalid CHANNEL_OPEN_CONFIRMATION message.")
  | some (n, remote, window, maxPacket) => do
    match ← lookupChannel c n .sentOpen with
    | none => .error (.connectionError "Unexpected CHANNEL_OPEN_CONFIRMATION.")
    | some channel =>
      let c := setChannel c n.toNat { channel with
        remoteChannelNumber := some remote
        sendWindowSize := window
        sendMaxPacket := min maxPacket sshMaxDataSize }
      let c ← activateChannel c n.toNat
      return ⟨{ c with log := c.log ++ [.receivedConfirmation channel.serial] },
        some (.event n.toNat .confirm), .done⟩

/-- `handle_open_failure`. -/
def handleOpenFailure (s : Octets) : Except ChannelError (Received κ) :=
  match parseOpenFailure s with
  | none => .error (.connectionError "Invalid CHANNEL_OPEN_FAILURE message.")
  | some n => do
    match ← lookupChannel c n .sentOpen with
    | none => return .nothing c
    | some channel =>
      return ⟨{ c with log := c.log ++ [.receivedFailure channel.serial] },
        some (.event n.toNat .deny), .finish n.toNat channel.serial⟩

/-- `handle_channel_success` and `handle_channel_failure`, which differ in the event and the
message. -/
def handleChannelReply (s : Octets) (e : ChannelEvent) (msg : String) :
    Except ChannelError (Received κ) :=
  match parseNumber s with
  | none => .error (.connectionError msg)
  | some n => do
    match ← lookupChannel c n .active with
    | none => .error (.connectionError msg)
    | some channel =>
      if channel.pendingRequests = 0 then return .nothing c
      else
        return ⟨setChannel c n.toNat { channel with
            pendingRequests := channel.pendingRequests - 1 },
          some (.event n.toNat e), .done⟩

/-- `channel_packet_handler` up to the call into the program. There is no result for a message
that is not implemented. -/
def receivePacket (packet : Octets) : Except ChannelError (Option (Received κ)) :=
  match packet with
  | [] => .error .internal
  | msg :: s =>
    match msg.toNat with
    | 80 => some <$> handleGlobalRequest c s
    | 81 => some <$> handleGlobalReply c s true "Invalid GLOBAL_REQUEST_SUCCESS message."
    | 82 => some <$> handleGlobalReply c s false "Invalid GLOBAL_REQUEST_FAILURE message."
    | 90 => some <$> handleChannelOpen c s
    | 91 => some <$> handleOpenConfirm c s
    | 92 => some <$> handleOpenFailure c s
    | 93 => some <$> handleAdjustWindow c s
    | 94 => some <$> handleChannelData c s
    | 95 => some <$> handleChannelExtendedData c s
    | 96 => some <$> handleChannelEof c s
    | 97 => some <$> handleChannelClose c s
    | 98 => some <$> handleChannelRequest c s
    | 99 => some <$> handleChannelReply c s .success "Invalid CHANNEL_SUCCESS message"
    | 100 => some <$> handleChannelReply c s .failure "Invalid CHANNEL_FAILURE message."
    | _ => .ok none

end Handlers

/-- The channel object with a serial number is still in its slot. -/
def isCurrent (c : SshConnection κ) (i serial : ℕ) : Bool :=
  (channelAt c i).any fun channel => channel.serial = serial

/-- The end of `handle_channel_close`. -/
def finishClose (c : SshConnection κ) (i : ℕ) : Except ChannelError (SshConnection κ) :=
  match channelAt c i with
  | none => .ok c
  | some channel => if channel.flags.sentClose then channelFinished c i else channelClose c i

/-- The end of a handler. A channel object that is no longer in the table is dead and has both
close flags set, and nothing more happens to it; the same goes for all channels of a connection that
has been killed in the call. -/
def finishAfter (c : SshConnection κ) : After → Except ChannelError (SshConnection κ)
  | .done => .ok c
  | .maybeClose i serial => if isCurrent c i serial then channelMaybeClose c i else .ok c
  | .close i serial => if isCurrent c i serial then finishClose c i else .ok c
  | .finish i serial => if isCurrent c i serial then channelFinished c i else .ok c

/-- The end of a handler, on a connection that has not been killed in the call. -/
def finishPacket (c : SshConnection κ) (after : After) : Except ChannelError (SshConnection κ) :=
  if c.alive then finishAfter c after else .ok c

/-- The call into the program, if there is one. -/
def callProgram (program : Callback → SshConnection κ → Except ChannelError (SshConnection κ))
    (r : Received κ) : Except ChannelError (SshConnection κ) :=
  match r.callback with
  | none => .ok r.connection
  | some callback => program callback r.connection

/-- `channel_packet_handler` for a program that does `program` in a call, with the return value. -/
def channelPacketHandler
    (program : Callback → SshConnection κ → Except ChannelError (SshConnection κ))
    (c : SshConnection κ) (packet : Octets) : Except ChannelError (Bool × SshConnection κ) := do
  let received ← receivePacket c packet
  match received with
  | none => return (false, c)
  | some r =>
    let c ← callProgram program r
    let c ← finishPacket c r.after
    return (true, c)

end Lsh.Channel
