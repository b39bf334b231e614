
import Lsh.Channel.Io

/-!
# Sessions at the client

A model of `client_session.c`, with the actions of `client_pty.c` and `client_x11.c` and the escape
character of `client_escape.c`. A client session asks for a terminal, for X11 and for a shell or a
command. Data can be received once the last of these has succeeded, and goes to one of two
descriptors that share the window.
-/

namespace Lsh.Channel

open Machine Io Wire

/-! ### Objects -/

/-- `struct client_session_action`. -/
inductive SessionAction where
  /-- `client_request_pty`, with the arguments of the request. -/
  | pty (args : Octets)
  /-- `make_x11_action`. -/
  | x11
  /-- `client_request_shell`. -/
  | shell
  /-- `make_exec_action` or `make_subsystem_action`. -/
  | command (type : Atom) (arg : LshString)
  deriving DecidableEq

namespace SessionAction

/-- The field `serial`: the action waits for those before it. -/
def serial : SessionAction → Bool
  | pty _ => false
  | x11 => false
  | shell => true
  | command _ _ => true

/-- The method `failure`: whether to go on. A null pointer is like a method that returns 0. -/
def failure : SessionAction → Bool
  | pty _ => true
  | x11 => true
  | shell => false
  | command _ _ => false

end SessionAction

/-- `enum escape_state`. -/
inductive EscapeState where
  | gotNone
  | gotNewline
  | gotEscape
  deriving DecidableEq, Repr

/-- `struct client_session`. -/
structure ClientSession where
  input : ReadState
  out : WriteState
  err : WriteState
  actions : List SessionAction
  actionNext : ℕ
  actionDone : ℕ
  /-- There is a pty whose size is being watched. -/
  pty : Bool
  escape : Option UInt8
  escapeState : EscapeState
  deriving DecidableEq

/-- `CLIENT_READ_BUFFER_SIZE`. -/
def clientReadBufferSize : ℕ := 0x4000

/-- `make_client_session_channel`. -/
def makeClientSessionChannel (input out err : ℕ) (actions : List SessionAction)
    (escape : Option UInt8) (initialWindow : UInt32) : NewChannel ClientSession where
  recWindowSize := 0
  recMaxPacket := 0x8000
  requestTypes := [.exitStatus, .exitSignal]
  requestFallback := false
  noWaitForEof := false
  sources := 0
  sinks := 0
  receive := false
  sendAdjust := false
  closesConnection := true
  app :=
    { input := initChannelReadState (some input) clientReadBufferSize
      out := initChannelWriteState (some out) initialWindow.toNat
      err := initChannelWriteState (some err) initialWindow.toNat
      actions := actions
      actionNext := 0
      actionDone := 0
      pty := false
      escape := escape
      escapeState := .gotNone }

/-- The actions of `client_shell_session`, `client_command_session` and `client_subsystem_session`:
the last one is for a shell, a command or a subsystem, and there is no other such action. -/
def sessionActions (pty : Option Octets) (x11 : Bool) (command : Option (Atom × LshString)) :
    List SessionAction :=
  (pty.map SessionAction.pty).toList ++ (if x11 then [.x11] else []) ++
    [match command with
      | none => .shell
      | some (type, arg) => .command type arg]

/-! ### The escape character -/

variable {x : SshChannel ClientSession}

/-- `escape_dispatch`: 1 for the quote action. -/
def escapeDispatch (escape c : UInt8) : ℕ := if c = escape then 1 else 0

/-- The key whose callback is called by `escape_dispatch`. -/
def escapeKeys (escape c : UInt8) : List UInt8 := if c = escape then [] else [c]

/-- `newlinep`. -/
def newlinep (c : UInt8) : Bool := c = 0x0a ∨ c = 0x0d

/-- The loop in `client_escape_process`, after `i` octets: the state, `copy`, `done` and the key. -/
def escapeScan (escape : UInt8) : ℕ → Octets → EscapeState × ℕ × ℕ × List UInt8
  | i, [] => (.gotNone, i, i, [])
  | i, c :: s =>
    if newlinep c then
      match s with
      | [] => (.gotNewline, i + 1, i + 1, [])
      | d :: s' =>
        if d = escape then
          match s' with
          | [] => (.gotEscape, i + 1, i + 2, [])
          | e :: _ => (.gotNone, i + 1 + escapeDispatch escape e, i + 3, escapeKeys escape e)
        else escapeScan escape (i + 1) s
    else escapeScan escape (i + 1) s

/-- `client_escape_process`. Its assertion is the argument. -/
def clientEscapeProcess (escape : UInt8) (state : EscapeState) (data : Octets) (_ : data ≠ []) :
    EscapeState × ℕ × ℕ × List UInt8 :=
  match state, data with
  | .gotEscape, c :: _ => (.gotNone, escapeDispatch escape c, 1, escapeKeys escape c)
  | .gotNewline, c :: s =>
    if c = escape then
      match s with
      | [] => (.gotEscape, 0, 1, [])
      | d :: _ => (.gotNone, escapeDispatch escape d, 2, escapeKeys escape d)
    else escapeScan escape 0 data
  | _, _ => escapeScan escape 0 data

/-- The first octets of a string. -/
def takeString (s : LshString) (n : ℕ) : LshString :=
  ⟨s.1.take n, lt_of_le_of_lt (List.length_take_le' n s.1) s.2⟩

/-- A string without its first octets. -/
def dropString (s : LshString) (n : ℕ) : LshString :=
  ⟨s.1.drop n, lt_of_le_of_lt (by rw [List.length_drop]; exact Nat.sub_le _ _) s.2⟩

/-- The loop in `oop_read_stdin`. Each turn takes at least one octet. -/
def transmitEscaped (escape : UInt8) : ℕ → LshString → Turn x → Turn x
  | 0, _, t => t
  | fuel + 1, data, t =>
    if hdata : data.1 = [] then t
    else
      let (state, copy, done, _) := clientEscapeProcess escape t.app.escapeState data.1 hdata
      let t := t.setApp { t.app with escapeState := state }
      let t := if 0 < copy then t.call (.transmitData (takeString data copy)) else t
      transmitEscaped escape fuel (dropString data done) t

section Functions

variable (t : Turn x)

/-! ### Data -/

/-- What follows after writing to `out`. -/
def afterWriteStdout (r : IoStatus × WriteState × Turn x) :
    Except ProgramError (Turn x) := do
  let t := r.2.2
  if r.1 = .ok then return t.setApp { t.app with out := r.2.1 }
  else
    let (out, t) ← channelWriteStateClose t r.2.1
    return t.setApp { t.app with out := out }

/-- What follows after writing to `err`. -/
def afterWriteStderr (r : IoStatus × WriteState × Turn x) :
    Except ProgramError (Turn x) := do
  let t := r.2.2
  if r.1 = .ok then return t.setApp { t.app with err := r.2.1 }
  else
    let (err, t) ← channelWriteStateClose t r.2.1
    return t.setApp { t.app with err := err }

/-- `oop_write_stdout`. -/
def oopWriteStdout (res : WriteResult) : Except ProgramError (Turn x) := do
  let r ← channelIoFlush t t.app.out res
  afterWriteStdout r

/-- `oop_write_stderr`. -/
def oopWriteStderr (res : WriteResult) : Except ProgramError (Turn x) := do
  let r ← channelIoFlush t t.app.err res
  afterWriteStderr r

/-- `do_receive`. -/
def clientReceive (stderr : Bool) (data : Octets) (res : WriteResult) :
    Except ProgramError (Turn x) :=
  if stderr then do
    let r ← channelIoWrite t t.app.err .oopWriteStderr data res
    afterWriteStderr r
  else do
    let r ← channelIoWrite t t.app.out .oopWriteStdout data res
    afterWriteStdout r

/-- The files for output: `out` or `err`. -/
def ClientSession.sink (session : ClientSession) (stderr : Bool) : WriteState :=
  if stderr then session.err else session.out

def ClientSession.setSink (session : ClientSession) (stderr : Bool) (file : WriteState) :
    ClientSession :=
  if stderr then { session with err := file } else { session with out := file }

/-- What `afterWriteStdout` and `afterWriteStderr` have in common. -/
def afterWriteSink (stderr : Bool) (r : IoStatus × WriteState × Turn x) :
    Except ProgramError (Turn x) := do
  let t := r.2.2
  if r.1 = .ok then return t.setApp (t.app.setSink stderr r.2.1)
  else
    let (file, t) ← channelWriteStateClose t r.2.1
    return t.setApp (t.app.setSink stderr file)

def oopWriteSink (stderr : Bool) (res : WriteResult) : Except ProgramError (Turn x) := do
  let r ← channelIoFlush t (t.app.sink stderr) res
  afterWriteSink stderr r

/-- The same function writes to both. -/
theorem clientReceive_eq (err data res) :
    clientReceive t err data res =
      (channelIoWrite t (t.app.sink err) (if err then .oopWriteStderr else .oopWriteStdout) data
        res).bind (afterWriteSink err) := by
  cases err <;> rfl

/-- `oop_read_stdin`. -/
def oopReadStdin (res : ReadResult) : Except ProgramError (Turn x) := do
  let (status, data, input, t) ← channelIoRead t t.app.input res
  if status ≠ .ok then
    return t.setApp { t.app with pty := false, input := input.channelReadStateClose }
  else
    let t := t.setApp { t.app with input := input }
    match t.app.escape with
    | some escape => return transmitEscaped escape data.1.length data t
    | none => if 0 < data.1.length then return t.call (.transmitData data) else return t

/-- `do_send_adjust`. -/
def clientSendAdjust : Turn x :=
  t.setApp { t.app with input := t.app.input.channelIoStartRead .oopReadStdin }

/-! ### Actions -/

/-- The method `start` of an action. That of X11 asks for a cookie, and the request follows
later. -/
def startAction : SessionAction → Turn x
  | .pty args => t.call (.sendRequest (lshString Atom.ptyReq.octets) true args)
  | .x11 => t
  | .shell => t.call (.sendRequest (lshString Atom.shell.octets) true [])
  | .command type arg => t.call (.sendRequest (lshString type.octets) true (formatString arg.1))

/-- The method `success` of an action. That of a shell is `do_action_shell_success`. -/
def successAction : SessionAction → Turn x
  | .pty _ => t.setApp { t.app with pty := true }
  | .x11 => t
  | .shell => t.call (.startReceive (UInt32.ofNat t.app.out.size))
  | .command _ _ => t.call (.startReceive (UInt32.ofNat t.app.out.size))

/-- The loop in `session_next_action`, for at most so many actions. -/
def nextActions : ℕ → Turn x → Turn x
  | 0, t => t
  | fuel + 1, t =>
    match t.app.actions[t.app.actionNext]? with
    | none => t
    | some action =>
      if action.serial ∧ t.app.actionDone < t.app.actionNext then t
      else
        nextActions fuel
          (startAction (t.setApp { t.app with actionNext := t.app.actionNext + 1 }) action)

/-- `session_next_action`. -/
def sessionNextAction : Turn x := nextActions t.app.actions.length t

/-- `do_client_x11_handle_random_reply`, with the arguments of the request if the length is
right. -/
def clientX11RandomReply : Option Octets → Turn x
  | none => t.call .close
  | some args => t.call (.sendRequest (lshString Atom.x11Req.octets) true args)

/-- `do_client_winch_handler`. -/
def doClientWinchHandler (args : Octets) : Turn x :=
  if t.app.pty then t.call (.sendRequest (lshString Atom.windowChange.octets) false args) else t

/-! ### Events -/

/-- A descriptor with nothing to write is closed. -/
def closeIfFlushed (t : Turn x) (file : WriteState) :
    Except ProgramError (WriteState × Turn x) :=
  match file.state with
  | none => .error .nullPointer
  | some state => if state.buffer = [] then channelWriteStateClose t file else .ok (file, t)

/-- The action whose reply has arrived, which is counted. -/
def doneAction : Except ProgramError (SessionAction × Turn x) :=
  match t.app.actions[t.app.actionDone]? with
  | none => .error (.assertion .actions)
  | some action => .ok (action, t.setApp { t.app with actionDone := t.app.actionDone + 1 })

/-- `do_client_session_event`. -/
def doClientSessionEvent : ChannelEvent → Except ProgramError (Turn x)
  | .confirm =>
    let t := t.set fun u => { u with
      receive := true
      sendAdjust := true
      sources := u.sources + 1
      sinks := u.sinks + 3 }
    let t := if t.channel.sendWindowSize ≠ 0 then clientSendAdjust t else t
    .ok (sessionNextAction t)
  | .eof => do
    let (out, t) ← closeIfFlushed t t.app.out
    let t := t.setApp { t.app with out := out }
    let (err, t) ← closeIfFlushed t t.app.err
    return t.setApp { t.app with err := err }
  | .success => do
    let (action, t) ← doneAction t
    return sessionNextAction (successAction t action)
  | .failure => do
    let (action, t) ← doneAction t
    if action.failure then return sessionNextAction t else return t.call .close
  | .stop => .ok (t.setApp { t.app with input := t.app.input.channelIoStopRead })
  | .start => .ok (if t.channel.sendWindowSize ≠ 0 then clientSendAdjust t else t)
  | _ => .ok t

/-! ### Requests -/

/-- The arguments of `exit-status` are well formed. -/
def parseExitStatus (args : Octets) : Option Unit := do
  let (_, s) ← parseUint32 args
  parseEod s

/-- The arguments of `exit-signal` are well formed. -/
def parseExitSignal (args : Octets) : Option Unit := do
  let (_, s) ← parseAtom args
  let (_, s) ← parseBoolean s
  let (_, s) ← parseString s
  let (_, s) ← parseString s
  parseEod s

/-- The common part of `handle_exit_status` and `handle_exit_signal`. -/
def handleExit (wantReply : Bool) (parsed : Option Unit) (msg : String) :
    Except ProgramError (Turn x) := do
  if ¬wantReply ∧ parsed.isSome then
    let t := t.set fun u => { u with
      requestTypes := u.requestTypes.filter fun a => a ≠ .exitStatus ∧ a ≠ .exitSignal }
    require (t.channel.sinks ≠ 0) (.assertion .sinks)
    return (t.setSinks (t.channel.sinks - 1)).call .maybeClose
  else .error (.connectionError msg)

/-- The handlers in `request_types`. -/
def clientRequest (type : Atom) (wantReply : Bool) (args : Octets) :
    Except ProgramError (Turn x) :=
  match type with
  | .exitStatus => handleExit t wantReply (parseExitStatus args) "Invalid exit-status message"
  | .exitSignal => handleExit t wantReply (parseExitSignal args) "Invalid exit-signal message"
  | _ => .ok t

end Functions

end Lsh.Channel
