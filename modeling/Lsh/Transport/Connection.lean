
import Lsh.Kex.Keys

/-!
# Connections

A model of `transport.c`: key exchange, closing, timers, and the packets that a connection hands
to the application and sends. What is below, the reading and writing of packets, is represented by
its results: packets arrive one by one, and each attempt to write has an outcome that the
environment chooses.

The application is a parameter. It has a handler for packets, which is installed when the first
key exchange is complete, and handlers for events. What a handler does with the connection is a
list of `Action`s. The handlers for `START`, `STOP` and `CLOSE` of both programs change only data
of the application, so `App.notify` is a function on that data.

Key exchange methods are parameters too. Their handlers send packets, disconnect, and finish the
exchange at most once in a call.

A connection has a `log` of what it has done. Nothing in the model reads it.
-/

namespace Lsh.Transport

open Kex Machine

/-! ### Messages and events -/

/-- `SSH_DISCONNECT_KEY_EXCHANGE_FAILED`. -/
def sshDisconnectKeyExchangeFailed : ℕ := 3

/-- `SSH_DISCONNECT_BY_APPLICATION`. -/
def sshDisconnectByApplication : ℕ := 11

/-- `format_disconnect`, with an empty language. -/
def formatDisconnect (reason : ℕ) (msg : String) : Octets :=
  Wire.formatUint8 1 ++ Octets.writeUint32 reason ++ Wire.formatString (asciiOctets msg) ++
    Wire.formatString []

/-- `format_unimplemented`. -/
def formatUnimplemented (seqno : ℕ) : Octets := Wire.formatUint8 3 ++ Octets.writeUint32 seqno

/-- `format_newkeys`. -/
def formatNewkeys : Octets := Wire.formatUint8 21

/-- `enum transport_write_status`. -/
inductive WriteStatus where
  | overflow
  | ioError
  | pending
  | complete
  deriving DecidableEq, Repr

/-- The result of an attempt to write, and whether the buffer is almost full after it. -/
structure WriteOutcome where
  status : WriteStatus
  almostFull : Bool

/-- What the environment chooses: the outcome of each write, and random cookies. -/
structure Oracle where
  outcome : ℕ → WriteOutcome
  cookie : ℕ → {c : Octets // c.length = 16}

/-- The callbacks that `expire` may call. -/
inductive Timer where
  | keyexchange
  | reexchange
  | close
  deriving DecidableEq, Repr

/-- The events that an application is told about without being able to act on the connection, and
the end of the connection. -/
inductive Notice where
  | start
  | stop
  | close
  | kill
  deriving DecidableEq, Repr

/-- What the handlers of an application with data `σ` do. -/
inductive Action (σ : Type) where
  | send (packet : Octets)
  | flush
  | disconnect (reason : ℕ) (msg : String)
  | close (flush : Bool)
  /-- A change of the application's own data. -/
  | become (f : σ → σ)

/-- The result of a line handler. -/
inductive LineAction where
  | ignore
  | reject
  | accept
  deriving DecidableEq, Repr

/-- The handlers of an application with data `σ`. What else they depend on is in `ε`. -/
structure App (σ ε : Type) where
  notify : σ → Notice → σ
  /-- `TRANSPORT_EVENT_KEYEXCHANGE_COMPLETE`. -/
  complete : σ → List (Action σ)
  /-- `TRANSPORT_EVENT_PUSH`. -/
  push : σ → ε → List (Action σ)
  /-- `packet_handler`, with its return value: whether the packet has been processed. -/
  packet : σ → ε → ℕ → Octets → List (Action σ) × Bool
  /-- `line_handler`. -/
  line : Octets → LineAction
  /-- Other callbacks of the application. -/
  callback : σ → ε → List (Action σ)

/-! ### Key exchange methods -/

/-- What a key exchange method can see of the connection. -/
structure KexView where
  version : Sides (Option Octets)
  literalKexinit : Sides (Option Octets)
  hostkeyAlgorithm : Option Atom
  isServer : Bool

/-- What the handler of a key exchange method does, apart from finishing the exchange. -/
inductive KexAction where
  | send (packet : Octets)
  | disconnect (reason : ℕ) (msg : String)

/-- The arguments of `transport_keyexchange_finish`. -/
structure Finish where
  H : Hash
  exchangeHash : Octets
  K : Octets

/-- What a call of a handler does. -/
structure HandlerResult (η : Type) where
  handler : η
  before : List KexAction
  finish : Option Finish
  after : List KexAction

/-- `struct keyexchange_algorithm` with the handlers it makes, whose data is `η`. -/
structure KeyexchangeAlgorithm (η ε : Type) where
  init : KexView → ε → List KexAction × Option η
  handler : η → ε → Octets → HandlerResult η

/-- `struct transport_context`. The configuration has an object for each of its key exchange
methods. -/
structure TransportContext (η ε : Type) where
  isServer : Bool
  kexinit : KexinitInfo
  algorithms : Atom → Option (Algorithm (KeyexchangeAlgorithm η ε))
  isSome_algorithms : ∀ a ∈ kexinit.kexAlgorithms,
    (Algorithm.asKeyexchange (algorithms a)).isSome

/-! ### State -/

/-- Who sent a packet. -/
inductive Origin where
  /-- `transport_send_kexinit`. -/
  | kexinit
  /-- `keyexchange_finish`. -/
  | newkeys
  | other
  deriving DecidableEq, Repr

/-- What a connection has done. -/
inductive LogEntry where
  /-- A packet was passed to `transport_write_packet`. -/
  | sent (origin : Origin) (packet : Octets)
  /-- `keyexchange_finish` made these objects for receiving. -/
  | finished (keys : DirectionKeys)
  /-- `transport_read_new_keys` was called for a packet, in a read state. -/
  | accepted (state : KexState) (packet : Octets)
  /-- `packet_handler` was called for a packet, in a read state. -/
  | handled (state : KexState) (packet : Octets)

/-- `struct transport_connection`. -/
structure Connection (σ η ε : Type) where
  kex : KexinitState (Algorithm (KeyexchangeAlgorithm η ε))
  sessionId : Option Octets
  keyexchangeHandler : Option (KeyexchangeAlgorithm η ε × η)
  /-- `new_mac`, `new_crypto` and `new_inflate`. -/
  newKeys : DirectionKeys
  /-- `expire`, if the timer is alive. -/
  expire : Option Timer
  /-- `ssh_input` is a file descriptor. -/
  sshInput : Bool
  /-- `mac`, `crypto` and `inflate` of the reader. -/
  reader : DirectionKeys
  /-- The packet that the application should process again, with its sequence number. -/
  retry : Option (ℕ × Octets)
  /-- `mac`, `crypto` and `deflate` of the writer. -/
  writer : DirectionKeys
  writeActive : Bool
  closing : Bool
  alive : Bool
  /-- `packet_handler` is set. -/
  packetHandler : Bool
  /-- `line_handler` is set. -/
  lineHandler : Bool
  /-- Data of the application. -/
  app : σ
  /-- The number of writes so far. -/
  writes : ℕ
  log : List LogEntry

variable {σ η ε : Type}

namespace Connection

/-- The event handler is called. -/
def notify (app : App σ ε) (c : Connection σ η ε) (n : Notice) : Connection σ η ε :=
  { c with app := app.notify c.app n }

/-- An entry is added to the log. -/
def record (c : Connection σ η ε) (e : LogEntry) : Connection σ η ε :=
  { c with log := c.log ++ [e] }

end Connection

/-! ### Closing and sending -/

section Send

variable (app : App σ ε)

/-- `KILL_RESOURCE` on a connection: the kill method of the program, which calls
`transport_connection_kill`. -/
def transportConnectionKill (c : Connection σ η ε) : Connection σ η ε :=
  if c.alive then
    { c with alive := false, expire := none, sshInput := false, app := app.notify c.app .kill }
  else c

/-- The first half of `transport_close`: the application is told, and the input is closed. -/
def closeInput (c : Connection σ η ε) : Connection σ η ε :=
  { c with app := app.notify c.app .close, expire := none, sshInput := false }

/-- `transport_close`. -/
def transportClose (c : Connection σ η ε) (flush : Bool) : Connection σ η ε :=
  if c.alive ∧ ¬c.closing then
    if flush ∧ c.writeActive then { closeInput app c with closing := true, expire := some .close }
    else transportConnectionKill app (closeInput app c)
  else c

/-- `transport_start_write`. -/
def transportStartWrite (c : Connection σ η ε) (almostFull : Bool) : Connection σ η ε :=
  let c := { c with writeActive := true }
  if ¬c.kex.writeState ∧ almostFull then c.notify app .stop else c

/-- `transport_stop_write`. Only one buffer is waited for when a connection is closing. -/
def transportStopWrite (c : Connection σ η ε) (almostFull : Bool) : Connection σ η ε :=
  if c.writeActive then
    if c.closing then transportConnectionKill app { c with writeActive := false, closing := false }
    else if ¬c.kex.writeState ∧ ¬almostFull then
      Connection.notify app { c with writeActive := false } .start
    else { c with writeActive := false }
  else c

/-- The switch in `transport_send_packet`. -/
def afterWrite (c : Connection σ η ε) (o : WriteOutcome) : Connection σ η ε :=
  match o.status with
  | .overflow => transportClose app c false
  | .ioError => transportClose app c false
  | .pending => transportStartWrite app c o.almostFull
  | .complete => transportStopWrite app c o.almostFull

variable (oracle : Oracle)

/-- `transport_send_packet`. -/
def transportSendPacket (c : Connection σ η ε) (origin : Origin) (packet : Octets) :
    Connection σ η ε :=
  if c.alive then
    afterWrite app { c.record (.sent origin packet) with writes := c.writes + 1 }
      (oracle.outcome c.writes)
  else c

/-- `transport_send_packet` without a packet. -/
def transportFlush (c : Connection σ η ε) : Connection σ η ε :=
  if c.alive then afterWrite app { c with writes := c.writes + 1 } (oracle.outcome c.writes) else c

/-- `transport_disconnect`. -/
def transportDisconnect (c : Connection σ η ε) (reason : ℕ) (msg : String) : Connection σ η ε :=
  transportClose app
    (if reason ≠ 0 then transportSendPacket app oracle c .other (formatDisconnect reason msg)
      else c) true

/-- `transport_protocol_error`. -/
def transportProtocolError (c : Connection σ η ε) (msg : String) : Connection σ η ε :=
  transportDisconnect app oracle c sshDisconnectProtocolError msg

/-- An action of the application. -/
def perform (c : Connection σ η ε) : Action σ → Connection σ η ε
  | .send packet => transportSendPacket app oracle c .other packet
  | .flush => transportFlush app oracle c
  | .disconnect reason msg => transportDisconnect app oracle c reason msg
  | .close flush => transportClose app c flush
  | .become f => { c with app := f c.app }

/-- A list of actions. -/
def performAll (c : Connection σ η ε) (actions : List (Action σ)) : Connection σ η ε :=
  actions.foldl (perform app oracle) c

/-- An action of a key exchange method. -/
def KexAction.toAction : KexAction → Action σ
  | send packet => .send packet
  | disconnect reason msg => .disconnect reason msg

end Send

/-! ### Key exchange -/

section Exchange

variable (app : App σ ε) (ctx : TransportContext η ε) (oracle : Oracle)

/-- The first half of `transport_send_kexinit`: no more data can be sent, and our message is
kept. -/
def prepareKexinit (c : Connection σ η ε) (kex : Kexinit) : Connection σ η ε :=
  { c with
    app := if c.sessionId.isSome then app.notify c.app .stop else c.app
    kex := { c.kex with
      writeState := true
      kexinit := c.kex.kexinit.set ctx.isServer (some kex)
      literalKexinit := c.kex.literalKexinit.set ctx.isServer (some (formatKexinit kex)) } }

/-- `transport_send_kexinit`. `make_kexinit` never asks for a packet to follow. -/
def transportSendKexinit (c : Connection σ η ε) : Except KexAssertion (Connection σ η ε) := do
  let kex := makeKexinit ctx.kexinit (oracle.cookie c.writes)
  let c := prepareKexinit app ctx c kex
  require (c.kex.readState = .init) .sendKexinit
  let c := transportSendPacket app oracle c .kexinit (formatKexinit kex)
  return { c with expire := some .keyexchange }

/-- The keys for receiving are kept until NEWKEYS arrives. -/
def keepKeys (c : Connection σ η ε) (receive : DirectionKeys) : Connection σ η ε :=
  { c with newKeys := receive, log := c.log ++ [.finished receive] }

/-- The end of `keyexchange_finish`: NEWKEYS is sent, and the keys for sending are taken into
use. -/
def sendNewkeys (c : Connection σ η ε) (send : DirectionKeys) : Connection σ η ε :=
  transportFlush app oracle
    { transportSendPacket app oracle c .newkeys formatNewkeys with writer := send }

/-- `keyexchange_finish`, with its return value. -/
def keyexchangeFinish (c : Connection σ η ε) (f : Finish) :
    Except KexAssertion (Bool × Connection σ η ε) :=
  match c.kex.algorithmList with
  | none => .error .algorithmList
  | some algorithms =>
    match makeKeys f.H (kexBuildSecret f.exchangeHash f.K) algorithms (c.sessionId.getD [])
        ctx.isServer with
    | none => .ok (false, c)
    | some (receive, send) => .ok (true, sendNewkeys app oracle (keepKeys c receive) send)

/-- `transport_keyexchange_finish`. -/
def transportKeyexchangeFinish (c : Connection σ η ε) (f : Finish) :
    Except KexAssertion (Connection σ η ε) := do
  let first := c.sessionId.isNone
  let c := if first then { c with sessionId := some f.exchangeHash } else c
  let (ok, c) ← keyexchangeFinish app ctx oracle c f
  if ok then
    require (c.kex.readState = .inProgress) .keyexchangeFinish
    let c := { c with kex := { c.kex with readState := .newkeys, writeState := false } }
    return if first then performAll app oracle { c with packetHandler := true } (app.complete c.app)
      else c.notify app .start
  else
    return transportDisconnect app oracle c sshDisconnectKeyExchangeFailed
      "Key exchange resulted in weak keys!"

/-- What a key exchange method can see of a connection. -/
def kexView (kex : KexinitState (Algorithm (KeyexchangeAlgorithm η ε))) : KexView where
  version := kex.version
  literalKexinit := kex.literalKexinit
  hostkeyAlgorithm := kex.hostkeyAlgorithm
  isServer := ctx.isServer

/-- The end of `transport_kexinit_handler`: the selected method makes a handler. -/
def startExchange (c : Connection σ η ε) (env : ε) : Except KexAssertion (Connection σ η ε) :=
  match c.kex.algorithmList.bind fun l => Algorithm.asKeyexchange l.keyExchange with
  | none => .error .algorithmList
  | some algorithm =>
    let (actions, handler) := algorithm.init (kexView ctx c.kex) env
    let c := performAll app oracle c (actions.map KexAction.toAction)
    let c := { c with keyexchangeHandler := handler.map fun h => (algorithm, h) }
    .ok (if handler.isSome then c
      else transportDisconnect app oracle c sshDisconnectKeyExchangeFailed "Configuration error")

/-- The start of `transport_kexinit_handler`: our own message is sent, unless it has been. -/
def sendOwnKexinit (c : Connection σ η ε) : Except KexAssertion (Connection σ η ε) :=
  if (c.kex.kexinit.get ctx.isServer).isSome then .ok c else transportSendKexinit app ctx oracle c

/-- `transport_kexinit_handler`. -/
def transportKexinitHandler (c : Connection σ η ε) (packet : Octets) (env : ε) :
    Except KexAssertion (Connection σ η ε) := do
  let c ← sendOwnKexinit app ctx oracle c
  let (error, kex) ← handleKexinit c.kex packet ctx.algorithms ctx.isServer
  let c := { c with kex := kex }
  match error with
  | some error => return transportDisconnect app oracle c sshDisconnectKeyExchangeFailed error
  | none => startExchange app ctx oracle c env

/-- The call of `transport_keyexchange_finish` by a handler, if there is one. -/
def finishExchange (c : Connection σ η ε) : Option Finish → Except KexAssertion (Connection σ η ε)
  | none => .ok c
  | some f => transportKeyexchangeFinish app ctx oracle c f

/-- The handler of the selected method is called. -/
def callHandler (c : Connection σ η ε) (packet : Octets) (env : ε) :
    Except KexAssertion (Connection σ η ε) :=
  match c.keyexchangeHandler with
  | none => .error .handler
  | some (algorithm, h) => do
    let r := algorithm.handler h env packet
    let c := { c with keyexchangeHandler := some (algorithm, r.handler) }
    let c := performAll app oracle c (r.before.map KexAction.toAction)
    let c ← finishExchange app ctx oracle c r.finish
    return performAll app oracle c (r.after.map KexAction.toAction)

/-- The case of `KEX_STATE_NEWKEYS` in `transport_process_packet`. -/
def processNewkeys (c : Connection σ η ε) (packet : Octets) : Connection σ η ε :=
  if packet.head? ≠ some 21 then transportProtocolError app oracle c "NEWKEYS expected"
  else if packet.length ≠ 1 then transportProtocolError app oracle c "Invalid NEWKEYS message"
  else
    { c.record (.accepted c.kex.readState packet) with
      reader := c.newKeys
      newKeys := ⟨none, none, none⟩
      kex := resetKexinitState c.kex
      expire := some .reexchange }

/-- `packet_handler` is called, with its return value. -/
def callPacketHandler (c : Connection σ η ε) (seqno : ℕ) (packet : Octets) (env : ε) :
    Bool × Connection σ η ε :=
  let (actions, done) := app.packet c.app env seqno packet
  (done, performAll app oracle (c.record (.handled c.kex.readState packet)) actions)

/-- The switch on the read state in `transport_process_packet`, for a packet with number `msg`. -/
def processByState (c : Connection σ η ε) (seqno : ℕ) (msg : UInt8) (packet : Octets) (env : ε) :
    Except KexAssertion (Bool × Connection σ η ε) :=
  match c.kex.readState with
  | .ignore => .ok (true, { c with kex := { c.kex with readState := .inProgress } })
  | .inProgress =>
    if msg < 30 ∨ 50 ≤ msg then
      .ok (true, transportProtocolError app oracle c "Unexpected message during key exchange")
    else do
      let c ← callHandler app ctx oracle c packet env
      return (true, c)
  | .newkeys => .ok (true, processNewkeys app oracle c packet)
  | .init =>
    if msg = 20 then do
      let c ← transportKexinitHandler app ctx oracle c packet env
      return (true, c)
    else if (msg < 20 ∨ 50 ≤ msg) ∧ c.packetHandler then
      .ok (callPacketHandler app oracle c seqno packet env)
    else .ok (true, transportSendPacket app oracle c .other (formatUnimplemented seqno))

/-- `transport_process_packet`, with its return value: whether processing is complete. -/
def transportProcessPacket (c : Connection σ η ε) (seqno : ℕ) (packet : Octets) (env : ε) :
    Except KexAssertion (Bool × Connection σ η ε) :=
  match packet with
  | [] => .ok (true, transportProtocolError app oracle c "Received empty packet")
  | msg :: _ =>
    if msg = 2 then .ok (true, c)
    else if msg = 3 then .ok (true, transportClose app c false)
    else if msg = 1 then .ok (true, transportClose app c false)
    else if msg = 4 then .ok (true, c)
    else processByState app ctx oracle c seqno msg packet env

end Exchange

/-! ### The event loop -/

/-- How reading can fail. -/
inductive ReadFailure where
  | ioError
  | eof
  | protocolError (reason : ℕ) (msg : String)

/-- What happens to a connection. -/
inductive Event (ε : Type) where
  /-- A line was read. -/
  | line (text : Octets)
  /-- A packet was read. -/
  | packet (seqno : ℕ) (packet : Octets) (env : ε)
  | readFailure (failure : ReadFailure)
  /-- There is nothing more to read now. -/
  | push (env : ε)
  /-- `oop_timer_retry`: the application is asked again. -/
  | retry (env : ε)
  /-- The timer `expire` expires. -/
  | timer
  /-- `oop_write_ssh`: the output is writable. -/
  | writable
  /-- Some other callback of the application. -/
  | callback (env : ε)

section Step

variable (app : App σ ε) (ctx : TransportContext η ε) (oracle : Oracle)

/-- `line_handler`. -/
def handleLine (c : Connection σ η ε) (text : Octets) : Connection σ η ε :=
  match app.line text with
  | .ignore => c
  | .reject => transportDisconnect app oracle c 0 "Bad version string."
  | .accept => { c with
      kex := { c.kex with version := c.kex.version.set (!ctx.isServer) (some text) }
      lineHandler := false }

/-- The branches of `oop_read_ssh` and `oop_timer_retry` for failures. -/
def handleFailure (c : Connection σ η ε) : ReadFailure → Connection σ η ε
  | .ioError => transportClose app c false
  | .eof => transportClose app c false
  | .protocolError reason msg => transportDisconnect app oracle c reason msg

/-- The start of `oop_timer_retry`. -/
def retryPacket (c : Connection σ η ε) (seqno : ℕ) (packet : Octets) (env : ε) :
    Connection σ η ε :=
  let (done, c) := callPacketHandler app oracle { c with retry := none } seqno packet env
  if done then c
  else transportDisconnect app oracle c sshDisconnectByApplication
    "Application layer not responsive."

/-- The callbacks of `expire`, and the expired timer is no longer alive. -/
def handleTimer (c : Connection σ η ε) : Except KexAssertion (Connection σ η ε) :=
  match c.expire with
  | none => .ok c
  | some .keyexchange => .ok (transportDisconnect app oracle { c with expire := none }
      sshDisconnectByApplication "Key exchange timeout")
  | some .reexchange => transportSendKexinit app ctx oracle { c with expire := none }
  | some .close => .ok (transportConnectionKill app { c with expire := none })

/-- `oop_write_ssh`. `transport_write_flush` adds a packet only to a buffer with room for it, so it
does not report an overflow. -/
def handleWritable (c : Connection σ η ε) : Connection σ η ε :=
  let o := oracle.outcome c.writes
  let c := { c with writes := c.writes + 1 }
  match o.status with
  | .overflow => c
  | .pending => c
  | .complete => transportStopWrite app c o.almostFull
  | .ioError => transportClose app c false

/-- One event. Packets are read as long as there is an input, after the lines, and unless a packet
waits to be processed again. -/
def connectionStep (c : Connection σ η ε) : Event ε → Except KexAssertion (Connection σ η ε)
  | .line text => .ok (if c.sshInput ∧ c.lineHandler then handleLine app ctx oracle c text else c)
  | .packet seqno packet env =>
    if c.sshInput ∧ ¬c.lineHandler ∧ c.retry = none then do
      let (done, c) ← transportProcessPacket app ctx oracle c seqno packet env
      return if done then c else { c with retry := some (seqno, packet) }
    else .ok c
  | .readFailure failure => .ok (if c.sshInput then handleFailure app oracle c failure else c)
  | .push env =>
    .ok (if c.sshInput ∧ ¬c.lineHandler then performAll app oracle c (app.push c.app env) else c)
  | .retry env =>
    match c.retry with
    | none => .ok c
    | some (seqno, packet) =>
      .ok (if c.alive then retryPacket app oracle c seqno packet env else c)
  | .timer => handleTimer app ctx oracle c
  | .writable => .ok (if c.writeActive then handleWritable app oracle c else c)
  | .callback env => .ok (performAll app oracle c (app.callback c.app env))

/-- `init_transport_connection`. -/
def initTransportConnection (a : σ) : Connection σ η ε where
  kex := initKexinitState
  sessionId := none
  keyexchangeHandler := none
  newKeys := ⟨none, none, none⟩
  expire := none
  sshInput := true
  reader := ⟨none, none, none⟩
  retry := none
  writer := ⟨none, none, none⟩
  writeActive := false
  closing := false
  alive := true
  packetHandler := false
  lineHandler := false
  app := a
  writes := 0
  log := []

/-- The start of `transport_handshake`: our version is kept. -/
def keepVersion (c : Connection σ η ε) (version : Octets) : Connection σ η ε :=
  { c with kex := { c.kex with version := c.kex.version.set ctx.isServer (some version) } }

/-- `transport_handshake`. `written` tells whether the version line could be written. -/
def transportHandshake (c : Connection σ η ε) (version : Octets) (written : Bool) :
    Except KexAssertion (Connection σ η ε) := do
  let c := keepVersion ctx c version
  let c ← transportSendKexinit app ctx oracle (if written then c else transportClose app c false)
  return { c with lineHandler := true }

/-- A connection from its start. -/
def runConnection (a : σ) (version : Octets) (written : Bool) (events : List (Event ε)) :
    Except KexAssertion (Connection σ η ε) := do
  let c ← transportHandshake app ctx oracle (initTransportConnection a) version written
  run (connectionStep app ctx oracle) c events

end Step

end Lsh.Transport
