
import Lsh.Channel.Io

/-!
# Sessions at the server

A model of `server_session.c`. A session gets a process when the client asks for a shell, a command
or a subsystem; until then nothing can be received on it. What the system does with requests for
processes, terminals and ports is an argument of the functions.
-/

namespace Lsh.Channel

open Machine Io Wire

/-! ### Objects -/

/-- The pointer `process`, and whether its exit callback has been called. -/
inductive ServerProcess where
  | none
  | running
  | exited
  deriving DecidableEq, Repr

/-- `struct server_session`. -/
structure ServerSession where
  initialWindow : UInt32
  process : ServerProcess
  /-- The flag `alive` of the pty, if there is one. -/
  pty : Option Bool
  /-- There is a port for X11. -/
  x11 : Bool
  input : WriteState
  out : ReadState
  err : ReadState
  /-- How many octets of extended data have been ignored. Only theorems look at it. -/
  discarded : ℕ
  /-- How many processes have been started. Only theorems look at it. -/
  started : ℕ
  deriving DecidableEq

/-- What the system does with a request of the client. -/
structure ServerSystem where
  /-- `make_pty` can duplicate the master of the pty. -/
  dupMaster : Bool
  /-- `make_pipes`. -/
  makePipes : Bool
  /-- `spawn_shell` returns a process. -/
  spawnShell : Bool
  stdin : ℕ
  stdout : ℕ
  stderr : ℕ
  /-- The subsystem is known, and there is a command line for it. -/
  subsystem : Bool
  /-- `pty_open_master`. -/
  openMaster : Bool
  /-- `server_x11_setup` returns a port. -/
  x11Setup : Bool

/-- `SERVER_READ_BUFFER_SIZE`. -/
def serverReadBufferSize : ℕ := 0x4000

/-- `EIO`. -/
def eio : ℕ := 5

/-- `make_server_session`. -/
def makeServerSession (initialWindow : UInt32) (requestTypes : List Atom) :
    NewChannel ServerSession where
  recWindowSize := 0
  recMaxPacket := 0x8000
  requestTypes := requestTypes
  requestFallback := false
  noWaitForEof := false
  sources := 0
  sinks := 0
  receive := false
  sendAdjust := false
  closesConnection := false
  app :=
    { initialWindow := initialWindow
      process := .none
      pty := none
      x11 := false
      input := initChannelWriteState none 0
      out := initChannelReadState none 0
      err := initChannelReadState none 0
      discarded := 0
      started := 0 }

/-! ### Data -/

section Functions

variable {x : SshChannel ServerSession} (t : Turn x)

/-- What follows after writing to the process. -/
def afterWriteStdin (r : IoStatus × WriteState × Turn x) :
    Except ProgramError (Turn x) := do
  let t := r.2.2
  if r.1 = .ok then return t.setApp { t.app with input := r.2.1 }
  else
    let (input, t) ← channelWriteStateClose t r.2.1
    return t.setApp { t.app with input := input }

/-- `oop_write_stdin`. -/
def oopWriteStdin (res : WriteResult) : Except ProgramError (Turn x) := do
  let r ← channelIoFlush t t.app.input res
  afterWriteStdin r

/-- `do_receive`. -/
def serverReceive (stderr : Bool) (data : Octets) (res : WriteResult) :
    Except ProgramError (Turn x) := do
  if stderr then
    return t.setApp { t.app with discarded := t.app.discarded + data.length }
  else
    let r ← channelIoWrite t t.app.input .oopWriteStdin data res
    afterWriteStdin r

/-- `oop_read_stdout`. -/
def oopReadStdout (res : ReadResult) : Except ProgramError (Turn x) := do
  let (status, data, out, t) ← channelIoRead t t.app.out res
  if status ≠ .ok then return t.setApp { t.app with out := out.channelReadStateClose }
  else
    let t := t.setApp { t.app with out := out }
    if 0 < data.1.length then return t.call (.transmitData data) else return t

/-- `oop_read_stderr`. -/
def oopReadStderr (res : ReadResult) : Except ProgramError (Turn x) := do
  let (status, data, err, t) ← channelIoRead t t.app.err res
  if status ≠ .ok then return t.setApp { t.app with err := err.channelReadStateClose }
  else
    let t := t.setApp { t.app with err := err }
    if 0 < data.1.length then return t.call (.transmitExtended 1 data) else return t

/-- The output of the process: stdout or stderr. -/
def ServerSession.output (session : ServerSession) (stderr : Bool) : ReadState :=
  if stderr then session.err else session.out

def ServerSession.setOutput (session : ServerSession) (stderr : Bool) (file : ReadState) :
    ServerSession :=
  if stderr then { session with err := file } else { session with out := file }

/-- What `oop_read_stdout` and `oop_read_stderr` have in common. -/
def oopReadOutput (stderr : Bool) (res : ReadResult) : Except ProgramError (Turn x) := do
  let (status, data, file, t) ← channelIoRead t (t.app.output stderr) res
  if status ≠ .ok then return t.setApp (t.app.setOutput stderr file.channelReadStateClose)
  else
    let t := t.setApp (t.app.setOutput stderr file)
    if 0 < data.1.length then
      return t.call (if stderr then .transmitExtended 1 data else .transmitData data)
    else return t

/-- `do_send_adjust`. -/
def serverSendAdjust : Turn x :=
  t.setApp { t.app with
    out := t.app.out.channelIoStartRead .oopReadStdout
    err := t.app.err.channelIoStartRead .oopReadStderr }

/-- `do_server_session_event`. -/
def doServerSessionEvent : ChannelEvent → Except ProgramError (Turn x)
  | .eof =>
    match t.app.input.state with
    | none => .error .nullPointer
    | some state =>
      if state.buffer = [] then do
        let (input, t) ← channelWriteStateClose t t.app.input
        return t.setApp { t.app with input := input }
      else .ok t
  | .stop => .ok (t.setApp { t.app with
      out := t.app.out.channelIoStopRead
      err := t.app.err.channelIoStopRead })
  | .start => .ok (if t.channel.sendWindowSize ≠ 0 then serverSendAdjust t else t)
  | _ => .ok t

/-! ### Processes -/

/-- `do_exit_shell`, with the request that tells the client. -/
def doExitShell (signaled : Bool) (args : Octets) : Except ProgramError (Turn x) := do
  let t := t.setApp { t.app with process := .exited }
  if t.channel.flags.sentClose then return t
  else
    let type : Atom := if signaled then .exitSignal else .exitStatus
    let t := t.call (.sendRequest (lshString type.octets) false args)
    let t := t.set fun u => { u with noWaitForEof := true }
    require (t.channel.sinks ≠ 0) (.assertion .sinks)
    return (t.setSinks (t.channel.sinks - 1)).call .maybeClose

/-- The pty for a process, in `spawn_process`. -/
def spawnPty (sys : ServerSystem) : Except ProgramError (Turn x) := do
  match t.app.pty with
  | none => return t
  | some alive =>
    require (alive = true) (.assertion .pty)
    return t.setApp { t.app with pty := if sys.dupMaster then some false else none }

/-- The rest of `spawn_process`, with a process. -/
def startProcess (sys : ServerSystem) : Turn x :=
  let session := t.app
  let out := initChannelReadState (some sys.stdout) serverReadBufferSize
  let t := t.set fun u => { u with
    sources := u.sources + (if session.pty.isSome then 1 else 2)
    app := { session with
      process := .running
      started := session.started + 1
      input := initChannelWriteState (some sys.stdin) (session.initialWindow + 1).toNat
      out := if session.pty.isSome then { out with ignoredError := eio } else out
      err := if session.pty.isSome then { session.err with fd := none, bufferSize := 0 }
        else initChannelReadState (some sys.stderr) serverReadBufferSize } }
  let t := if t.channel.sendWindowSize ≠ 0 then serverSendAdjust t else t
  let t := t.set fun u => { u with receive := true, sendAdjust := true, sinks := u.sinks + 2 }
  t.call (.startReceive session.initialWindow)

/-- `spawn_process`, with its result. -/
def spawnProcess (sys : ServerSystem) : Except ProgramError (Bool × Turn x) := do
  require (t.app.process = .none) (.assertion .process)
  let t ← spawnPty t sys
  if t.app.pty.isNone ∧ ¬sys.makePipes then return (false, t)
  else if ¬sys.spawnShell then return (false, t)
  else return (true, startProcess t sys)

/-- A process is started, and the request is answered. -/
def spawnReply (wantReply : Bool) (sys : ServerSystem) : Except ProgramError (Turn x) := do
  let (result, t) ← spawnProcess t sys
  return t.call (.requestReply wantReply result)

/-! ### Requests -/

/-- `shell_request_handler`. -/
def shellRequestHandler (wantReply : Bool) (args : Octets) (sys : ServerSystem) :
    Except ProgramError (Turn x) :=
  match parseEod args with
  | none => .error (.connectionError "Invalid shell CHANNEL_REQUEST message.")
  | some _ =>
    if t.app.process ≠ .none then .ok (t.call (.requestReply wantReply false))
    else spawnReply t wantReply sys

/-- A string and nothing more, as `exec` and `subsystem` have it. -/
def parseCommand (args : Octets) : Option Octets := do
  let (command, rest) ← parseString args
  let _ ← parseEod rest
  return command

/-- `exec_request_handler`. -/
def execRequestHandler (wantReply : Bool) (args : Octets) (sys : ServerSystem) :
    Except ProgramError (Turn x) :=
  match parseCommand args with
  | none => .error (.connectionError "Invalid exec CHANNEL_REQUEST message.")
  | some command =>
    if t.app.process ≠ .none ∨ 0 ∈ command then .ok (t.call (.requestReply wantReply false))
    else spawnReply t wantReply sys

/-- `do_spawn_subsystem`. -/
def doSpawnSubsystem (wantReply : Bool) (args : Octets) (sys : ServerSystem) :
    Except ProgramError (Turn x) :=
  match parseCommand args with
  | none => .error (.connectionError "Invalid subsystem CHANNEL_REQUEST message.")
  | some _ =>
    if t.app.process = .none ∧ sys.subsystem then
      spawnReply (t.setApp { t.app with pty := none }) wantReply sys
    else .ok (t.call (.requestReply wantReply false))

/-- The dimensions of a terminal. -/
def parseDimensions (args : Octets) : Option Octets := do
  let (_, s) ← parseUint32 args
  let (_, s) ← parseUint32 s
  let (_, s) ← parseUint32 s
  let (_, s) ← parseUint32 s
  return s

/-- The arguments of `pty-req` are well formed. -/
def parsePtyRequest (args : Octets) : Option Unit := do
  let (_, s) ← parseString args
  let s ← parseDimensions s
  let (_, s) ← parseString s
  parseEod s

/-- `pty_request_handler`. -/
def ptyRequestHandler (wantReply : Bool) (args : Octets) (sys : ServerSystem) :
    Except ProgramError (Turn x) :=
  match parsePtyRequest args with
  | none => .error (.connectionError "Invalid pty request.")
  | some _ =>
    if t.app.pty.isSome ∨ t.app.process ≠ .none ∨ ¬sys.openMaster then
      .ok (t.call (.requestReply wantReply false))
    else
      .ok ((t.setApp { t.app with pty := some true }).call (.requestReply wantReply true))

/-- `window_change_request_handler`. -/
def windowChangeRequestHandler (wantReply : Bool) (args : Octets) :
    Except ProgramError (Turn x) :=
  if ¬wantReply ∧ (parseDimensions args >>= parseEod).isSome then .ok t
  else .error (.connectionError "Invalid window-change request.")

/-- A digit of `lsh_string_hex_decode`. -/
def isHexDigit (b : UInt8) : Bool :=
  (0x30 ≤ b ∧ b ≤ 0x39) ∨ (0x41 ≤ b ∧ b ≤ 0x46) ∨ (0x61 ≤ b ∧ b ≤ 0x66)

/-- The arguments of `x11-req` are well formed. What follows them is ignored. -/
def parseX11Request (args : Octets) : Option Unit := do
  let (_, s) ← parseUint8 args
  let (_, s) ← parseString s
  let (cookie, s) ← parseString s
  let _ ← parseUint32 s
  if cookie.length % 2 = 0 ∧ cookie.all isHexDigit then some () else none

/-- `x11_request_handler`. -/
def x11RequestHandler (wantReply : Bool) (args : Octets) (sys : ServerSystem) :
    Except ProgramError (Turn x) :=
  match parseX11Request args with
  | none => .error (.connectionError "Invalid x11 request.")
  | some _ =>
    if t.app.x11 ∨ t.app.process ≠ .none ∨ ¬sys.x11Setup then
      .ok (t.call (.requestReply wantReply false))
    else
      .ok ((t.setApp { t.app with x11 := true }).call (.requestReply wantReply true))

/-- The handlers in `request_types`. -/
def serverRequest (type : Atom) (wantReply : Bool) (args : Octets) (sys : ServerSystem) :
    Except ProgramError (Turn x) :=
  match type with
  | .shell => shellRequestHandler t wantReply args sys
  | .exec => execRequestHandler t wantReply args sys
  | .subsystem => doSpawnSubsystem t wantReply args sys
  | .ptyReq => ptyRequestHandler t wantReply args sys
  | .windowChange => windowChangeRequestHandler t wantReply args
  | .x11Req => x11RequestHandler t wantReply args sys
  | _ => .ok t

/-- **What a request does**: it is refused or granted, a process is started, or nothing happens. -/
theorem serverRequest_rule {E : ProgramError → Prop} {P : Turn x → Prop} {t : Turn x} {type : Atom}
    {want : Bool} {sys : ServerSystem} (args : Octets)
    (herr : ∀ msg, E (.connectionError msg)) (hpl : want = false → P t)
    (hoth : type ∉ [Atom.shell, .exec, .subsystem, .ptyReq, .windowChange, .x11Req] → P t)
    (href : P (t.call (.requestReply want false)))
    (hgrant : ∀ pty x11, P ((t.setApp { t.app with pty := pty, x11 := x11 }).call
      (.requestReply want true)))
    (hspw : t.app.process = .none → type = .shell ∨ type = .exec →
      Ensures E P (spawnReply t want sys))
    (hsub : t.app.process = .none → type = .subsystem →
      Ensures E P (spawnReply (t.setApp { t.app with pty := none }) want sys)) :
    Ensures E P (serverRequest t type want args sys) := by
  cases type with
  | shell =>
    rw [serverRequest, shellRequestHandler]
    split
    · exact herr _
    · split_ifs with hproc
      · exact href
      · exact hspw (not_not.mp hproc) (.inl rfl)
  | exec =>
    rw [serverRequest, execRequestHandler]
    split
    · exact herr _
    · split_ifs with hproc
      · exact href
      · exact hspw (not_not.mp fun hne => hproc (.inl hne)) (.inr rfl)
  | subsystem =>
    rw [serverRequest, doSpawnSubsystem]
    split
    · exact herr _
    · split_ifs with hproc
      · exact hsub hproc.1 rfl
      · exact href
  | ptyReq =>
    rw [serverRequest, ptyRequestHandler]
    split
    · exact herr _
    · split_ifs
      · exact href
      · exact hgrant (some true) t.app.x11
  | windowChange =>
    rw [serverRequest, windowChangeRequestHandler]
    split_ifs with hwa
    · exact hpl (by simpa using hwa.1)
    · exact herr _
  | x11Req =>
    rw [serverRequest, x11RequestHandler]
    split
    · exact herr _
    · split_ifs
      · exact href
      · exact hgrant t.app.pty true
  | _ => exact hoth (by decide)

end Functions

end Lsh.Channel
