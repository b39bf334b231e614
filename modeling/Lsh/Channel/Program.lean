
import Lsh.Channel.ClientSession
import Lsh.Channel.Events
import Lsh.Channel.ServerSession
import Lsh.Channel.Socks
import Lsh.Channel.X11

/-!
# The program of an endpoint

A connection of the client or the server, with its forwarded channels and sessions. What happens is
decided by packets, by the event loop and by the system: `read` and `write`, processes, sockets that
are accepted or connected. What the endpoint does about it is what the functions of the channels do.

A program is written for the data of one kind of channel. `ChannelClass` has the functions of a
kind, and how its data is part of the data of the connection.

## Main definitions

* `ProgramEvent`, `programStep` — what may happen, and what the endpoint does about it

## Main results

* `run_programStep_channels` — what the functions of each kind of channel keep holds of every
  channel in every run
-/

namespace Lsh.Channel

open Machine Io Table Wire

/-! ### Kinds of channels -/

/-- The data of a channel. -/
inductive App where
  | forward (data : Forward)
  | server (data : ServerSession)
  | client (data : ClientSession)
  deriving DecidableEq

/-- What the handler for an open request does at once. -/
inductive OpenAnswer where
  /-- It starts to connect, say. -/
  | wait
  /-- `do_open_session`, with the types of requests that are allowed. -/
  | session (requestTypes : List Atom)
  | deny (reason : UInt32) (msg : LshString)

/-- What the system does while a packet is handled. -/
structure System where
  write : WriteResult
  server : ServerSystem
  openAnswer : OpenAnswer
  /-- The reply to a global request, if there is one at once. -/
  globalReply : Option Bool

/-- What may happen to a channel by itself. -/
inductive Activity where
  /-- The event loop calls a callback for reading. -/
  | read (callback : ReadCallback) (res : ReadResult)
  /-- The event loop calls a callback for writing. -/
  | write (callback : WriteCallback) (res : WriteResult)
  /-- The process of a session exits. -/
  | exit (signaled : Bool) (args : Octets)
  /-- The cookie for X11 arrives, and has the right length if there are arguments for the
  request. -/
  | randomReply (args : Option Octets)
  /-- The terminal changes its size. -/
  | windowChange (args : Octets)

/-- The functions of a kind of channel. -/
structure ChannelClass (κ : Type) where
  app : κ → App
  notice (sys : System) (notice : Notice) {x : SshChannel κ} (t : Turn x) :
    Except ProgramError (Turn x)
  activity (a : Activity) {x : SshChannel κ} (t : Turn x) : Except ProgramError (Turn x)

/-- Forwarded channels. -/
def forwardClass : ChannelClass Forward where
  app := .forward
  notice sys notice {_} t :=
    match notice with
    | .event e =>
      match t.app.self with
      | .socks self => doSocksChannelEvent t self e sys.write
      | _ => doChannelForwardEvent t e
    | .receive stderr data =>
      match t.app.receive, t.app.self with
      | .clientX11, .clientX11 self => doClientChannelX11Receive t self stderr data sys.write
      | _, _ => doChannelForwardReceive t stderr data sys.write
    | .sendAdjust _ => .ok (doChannelForwardSendAdjust t)
    | .request _ _ _ => .ok t
  activity a {_} t :=
    match a with
    | .read callback res =>
      if t.app.read.registered = some callback ∧ callback = .oopReadSocket then oopReadSocket t res
      else .ok t
    | .write callback res =>
      if t.app.write.registered = some callback then
        match callback, t.app.self with
        | .oopWriteSocket, _ => oopWriteSocket t res
        | .oopWriteSocks, .socks self => oopWriteSocks t self res
        | _, _ => .ok t
      else .ok t
    | _ => .ok t

/-- Sessions at the server. -/
def serverClass : ChannelClass ServerSession where
  app := .server
  notice sys notice {_} t :=
    match notice with
    | .event e => doServerSessionEvent t e
    | .receive stderr data => serverReceive t stderr data sys.write
    | .sendAdjust _ => .ok (serverSendAdjust t)
    | .request type wantReply args =>
      match lookupAtom type with
      | none => .ok t
      | some type => serverRequest t type wantReply args sys.server
  activity a {_} t :=
    match a with
    | .read callback res =>
      if callback = .oopReadStdout ∧ t.app.out.registered = some callback then oopReadStdout t res
      else if callback = .oopReadStderr ∧ t.app.err.registered = some callback then
        oopReadStderr t res
      else .ok t
    | .write callback res =>
      if callback = .oopWriteStdin ∧ t.app.input.registered = some callback then oopWriteStdin t res
      else .ok t
    | .exit signaled args =>
      if t.app.process = .running then doExitShell t signaled args else .ok t
    | _ => .ok t

/-- Sessions at the client. -/
def clientClass : ChannelClass ClientSession where
  app := .client
  notice sys notice {_} t :=
    match notice with
    | .event e => doClientSessionEvent t e
    | .receive stderr data => clientReceive t stderr data sys.write
    | .sendAdjust _ => .ok (clientSendAdjust t)
    | .request type wantReply args =>
      match lookupAtom type with
      | none => .ok t
      | some type => clientRequest t type wantReply args
  activity a {_} t :=
    match a with
    | .read callback res =>
      if callback = .oopReadStdin ∧ t.app.input.registered = some callback then oopReadStdin t res
      else .ok t
    | .write callback res =>
      if callback = .oopWriteStdout ∧ t.app.out.registered = some callback then oopWriteStdout t res
      else if callback = .oopWriteStderr ∧ t.app.err.registered = some callback then
        oopWriteStderr t res
      else .ok t
    | .randomReply args => .ok (clientX11RandomReply t args)
    | .windowChange args => .ok (doClientWinchHandler t args)
    | .exit _ _ => .ok t

/-! What a callback does, by the functions that are called for it. -/

section Dispatch

variable {E : ProgramError → Prop} {y : SshChannel Forward} {P : Turn y → Prop} {sys : System}

theorem forwardClass_event {e : ChannelEvent} (hsk : ∀ self, y.app.self = .socks self →
      Ensures E P (doSocksChannelEvent ⟨[]⟩ self e sys.write))
    (hfwd : Ensures E P (doChannelForwardEvent ⟨[]⟩ e)) :
    Ensures E P (forwardClass.notice sys (.event e) ⟨[]⟩) := by
  show Ensures E P (match y.app.self with
    | .socks self => doSocksChannelEvent _ self e sys.write
    | _ => doChannelForwardEvent _ e)
  split
  · exact hsk _ ‹_›
  · exact hfwd

theorem forwardClass_receive {err : Bool} {data : Octets}
    (hx11 : ∀ self, Ensures E P (doClientChannelX11Receive ⟨[]⟩ self err data sys.write))
    (hfwd : Ensures E P (doChannelForwardReceive ⟨[]⟩ err data sys.write)) :
    Ensures E P (forwardClass.notice sys (.receive err data) ⟨[]⟩) := by
  show Ensures E P (match y.app.receive, y.app.self with
    | .clientX11, .clientX11 self => doClientChannelX11Receive _ self err data sys.write
    | _, _ => doChannelForwardReceive _ err data sys.write)
  split
  · exact hx11 _
  · exact hfwd

variable {a : Activity}

theorem forwardClass_activity {x : SshChannel Forward} {P : Turn x → Prop} (hx : P ⟨[]⟩)
    (hread : ∀ res, a = .read .oopReadSocket res → Ensures E P (oopReadSocket ⟨[]⟩ res))
    (hsocket : ∀ res, x.app.write.registered = some .oopWriteSocket →
      Ensures E P (oopWriteSocket ⟨[]⟩ res))
    (hsk : ∀ self res, x.app.write.registered = some .oopWriteSocks →
      Ensures E P (oopWriteSocks ⟨[]⟩ self res)) :
    Ensures E P (forwardClass.activity a ⟨[]⟩) := by
  cases a with
  | read cb res =>
    show Ensures E P (if x.app.read.registered = some cb ∧ cb = .oopReadSocket then
      oopReadSocket _ res else .ok _)
    split_ifs with h
    · exact hread res (by rw [h.2])
    · exact hx
  | write cb res =>
    clear hread
    show Ensures E P (if x.app.write.registered = some cb then
      (match cb, x.app.self with
        | .oopWriteSocket, _ => oopWriteSocket _ res
        | .oopWriteSocks, .socks self => oopWriteSocks _ self res
        | _, _ => .ok _) else .ok _)
    split_ifs with h
    · split
      · exact hsocket res h
      · exact hsk _ res h
      · exact hx
    · exact hx
  | _ => exact hx

theorem serverClass_activity {x : SshChannel ServerSession} {P : Turn x → Prop} (hx : P ⟨[]⟩)
    (hread : ∀ err cb res, a = .read cb res →
      (x.app.output err).registered = some cb → Ensures E P (oopReadOutput ⟨[]⟩ err res))
    (hwr : ∀ res, x.app.input.registered = some .oopWriteStdin →
      Ensures E P (oopWriteStdin ⟨[]⟩ res)) (hexit : ∀ signaled args, x.app.process = .running →
      Ensures E P (doExitShell ⟨[]⟩ signaled args)) :
    Ensures E P (serverClass.activity a ⟨[]⟩) := by
  cases a with
  | read cb res =>
    show Ensures E P (if cb = .oopReadStdout ∧ x.app.out.registered = some cb then
      oopReadStdout _ res
      else if cb = .oopReadStderr ∧ x.app.err.registered = some cb then
        oopReadStderr _ res
      else .ok _)
    split_ifs with hout herr
    · exact hread false cb res rfl hout.2
    · exact hread true cb res rfl herr.2
    · exact hx
  | write cb res =>
    show Ensures E P (if cb = .oopWriteStdin ∧ x.app.input.registered = some cb then
      oopWriteStdin _ res else .ok _)
    split_ifs with h
    · exact hwr res (h.1 ▸ h.2)
    · exact hx
  | exit signaled args =>
    show Ensures E P (if x.app.process = .running then doExitShell _ signaled args else .ok _)
    split_ifs with h
    · exact hexit signaled args h
    · exact hx
  | _ => exact hx

/-- What a session of the client does outside the connection. -/
theorem clientClass_activity {x : SshChannel ClientSession} {P : Turn x → Prop} (hx : P ⟨[]⟩)
    (hread : ∀ cb res, a = .read cb res → Ensures E P (oopReadStdin ⟨[]⟩ res))
    (hwr : ∀ err res, Ensures E P (oopWriteSink ⟨[]⟩ err res))
    (hcl : P ((⟨[]⟩ : Turn x).call .close))
    (hreq : ∀ type want args, P ((⟨[]⟩ : Turn x).call (.sendRequest type want args))) :
    Ensures E P (clientClass.activity a ⟨[]⟩) := by
  cases a with
  | read cb res =>
    show Ensures E P (if cb = .oopReadStdin ∧ x.app.input.registered = some cb then
      oopReadStdin _ res else .ok _)
    split_ifs
    · exact hread cb res rfl
    · exact hx
  | write cb res =>
    show Ensures E P (if cb = .oopWriteStdout ∧ x.app.out.registered = some cb then
      oopWriteStdout _ res
      else if cb = .oopWriteStderr ∧ x.app.err.registered = some cb then
        oopWriteStderr _ res
      else .ok _)
    split_ifs
    · exact hwr false res
    · exact hwr true res
    · exact hx
  | exit signaled args => exact hx
  | randomReply args =>
    cases args with
    | none => exact hcl
    | some args => exact hreq _ _ _
  | windowChange args =>
    show P (doClientWinchHandler _ args)
    rw [doClientWinchHandler]
    split_ifs
    · exact hreq _ _ _
    · exact hx

end Dispatch

namespace ChannelClass

variable {κ : Type} (C : ChannelClass κ)

/-- The calls that a function makes for a channel of the kind. -/
def calls (x : SshChannel App) (data : κ)
    (f : Turn (x.map fun _ => data) → Except ProgramError (Turn (x.map fun _ => data))) :
    Except ProgramError (List (Call App)) := do
  let t ← f ⟨[]⟩
  return t.calls.map (Call.map C.app)

end ChannelClass

/-- The calls of the program of a channel when it is told something. -/
def noticeCalls (sys : System) (notice : Notice) (x : SshChannel App) :
    Except ProgramError (List (Call App)) :=
  match x.app with
  | .forward data => forwardClass.calls x data (forwardClass.notice sys notice)
  | .server data => serverClass.calls x data (serverClass.notice sys notice)
  | .client data => clientClass.calls x data (clientClass.notice sys notice)

/-- The calls of the program of a channel when something happens to it. -/
def activityCalls (a : Activity) (x : SshChannel App) : Except ProgramError (List (Call App)) :=
  match x.app with
  | .forward data => forwardClass.calls x data (forwardClass.activity a)
  | .server data => serverClass.calls x data (serverClass.activity a)
  | .client data => clientClass.calls x data (clientClass.activity a)

/-! ### The endpoint -/

/-- The new object with the data mapped. -/
def NewChannel.map {κ κ' : Type} (g : κ → κ') (new : NewChannel κ) : NewChannel κ' where
  recWindowSize := new.recWindowSize
  recMaxPacket := new.recMaxPacket
  requestTypes := new.requestTypes
  requestFallback := new.requestFallback
  noWaitForEof := new.noWaitForEof
  sources := new.sources
  sinks := new.sinks
  receive := new.receive
  sendAdjust := new.sendAdjust
  closesConnection := new.closesConnection
  app := g new.app

/-- `WINDOW_SIZE` of sessions. -/
def sessionWindowSize : UInt32 := 10000

/-- What may happen at an endpoint. -/
inductive ProgramEvent where
  | receive (packet : Octets) (sys : System)
  | activity (i : ℕ) (a : Activity)
  /-- `ssh_connection_stop_channels`. -/
  | stop
  /-- `ssh_connection_start_channels`. -/
  | start
  /-- `do_tcpforward_listen_port_accept`, and the same for X11 at the server. -/
  | accept (socket : ℕ) (type : LshString) (args : Octets)
  /-- A SOCKS client, with what it does until a channel is opened for it. -/
  | socks (env : SocksEnv) (fd : ℕ) (inputs : List SocksInput) (peer : Octets)
  /-- A session is opened. -/
  | session (input out err : ℕ) (pty : Option Octets) (x11 : Bool)
      (command : Option (Atom × LshString)) (escape : Option UInt8)
  /-- `tcpforward_connect_done`. -/
  | connected (i socket : ℕ)
  /-- `x11_connect_done`. -/
  | x11Connected (i fd : ℕ) (display : ClientX11Display)
  | deny (i : ℕ) (reason : UInt32) (msg : LshString)
  | sendGlobalRequest (type : Atom) (state : Option ℕ) (args : Octets)
  | globalReply (wantReply result : Bool)
  | pendingClose

/-- A failure of `channel.c` is a failure of the program. -/
def ofChannel {α : Type} : Except ChannelError α → Except ProgramError α
  | .ok a => .ok a
  | .error e => .error (.channel e)

/-- Calls one after the other. -/
def performAll (c : SshConnection App) (ops : List (Op App)) :
    Except ProgramError (SshConnection App) := ofChannel (run perform c ops)

/-- The calls for the channel in a slot. -/
def channelOps (c : SshConnection App) (i : ℕ)
    (f : SshChannel App → Except ProgramError (List (Call App))) :
    Except ProgramError (List (Op App)) :=
  match channelAt c i with
  | none => .ok []
  | some x => (fun calls => calls.map (Call.op i)) <$> f x

/-- The calls of a handler for open requests. -/
def openOps (i : ℕ) : OpenAnswer → List (Op App)
  | .wait => []
  | .session requestTypes =>
    [.confirm i ((makeServerSession sessionWindowSize requestTypes).map .server)]
  | .deny reason msg => [.deny i reason msg]

/-- The calls of a callback. -/
def callbackOps (sys : System) (c : SshConnection App) (callback : Callback) :
    Except ProgramError (List (Op App)) :=
  match callback.notice, callback with
  | some (i, notice), _ => channelOps c i (noticeCalls sys notice)
  | none, .openChannel i _ _ => .ok (openOps i sys.openAnswer)
  | none, .globalRequest _ wantReply _ =>
    .ok (sys.globalReply.toList.map (Op.globalReply wantReply))
  | none, _ => .ok []

/-- The calls of the program while a packet is handled. -/
def packetOps (sys : System) (c : SshConnection App) (packet : Octets) :
    Except ProgramError (List (Op App)) :=
  match receivePacket c packet with
  | .ok (some ⟨d, some callback, _⟩) => callbackOps sys d callback
  | _ => .ok []

/-- A system that does nothing, for events that do not ask for anything. -/
def idleSystem : System where
  write := .wouldBlock
  server := ⟨false, false, false, 0, 0, 0, false, false, false⟩
  openAnswer := .wait
  globalReply := none

/-- The calls for an event that concerns all channels. Their programs do not fail. -/
def notifyOps (c : SshConnection App) (e : ChannelEvent) (i : ℕ) : List (Op App) :=
  ((channelOps c i (noticeCalls idleSystem (.event e))).toOption).getD []

/-- **One event.** Nothing happens on a connection that has been killed. -/
def programStep (c : SshConnection App) (event : ProgramEvent) :
    Except ProgramError (SshConnection App) :=
  if c.alive then
    match event with
    | .receive packet sys => do
      let ops ← packetOps sys c packet
      ofChannel (endpointStep c (.receive packet ops))
    | .activity i a => do
      let ops ← channelOps c i (activityCalls a)
      performAll c ops
    | .stop => ofChannel (endpointStep c (.notify (notifyOps c .stop)))
    | .start => ofChannel (endpointStep c (.notify (notifyOps c .start)))
    | .accept socket type args =>
      performAll c [.openNew ((makeChannelForward socket tcpipWindowSize).map .forward) type args]
    | .socks env fd inputs peer => do
      match ← socksHandshake env fd inputs with
      | none => return c
      | some (new, target) =>
        performAll c [.openNew (new.map .forward) (lshString Atom.directTcpip.octets)
          (formatString target.host ++ formatUint32 (UInt32.ofNat target.port) ++ peer)]
    | .session input out err pty x11 command escape =>
      performAll c [.openNew ((makeClientSessionChannel input out err
        (sessionActions pty x11 command) escape sessionWindowSize).map .client)
        (lshString Atom.session.octets) []]
    | .connected i socket => do
      let c ← performAll c [.confirm i ((makeChannelForward socket tcpipWindowSize).map .forward)]
      let ops ← channelOps c i fun x =>
        match x.app with
        | .forward data => forwardClass.calls x data fun t => .ok (channelForwardStartIo t)
        | _ => .ok []
      performAll c ops
    | .x11Connected i fd display =>
      performAll c [.confirm i ((makeClientX11Channel fd display).map .forward)]
    | .deny i reason msg => performAll c [.deny i reason msg]
    | .sendGlobalRequest type state args => performAll c [.sendGlobalRequest type state args]
    | .globalReply wantReply result => performAll c [.globalReply wantReply result]
    | .pendingClose => performAll c [.pendingClose]
  else .ok c

end Lsh.Channel
