
import Lsh.Channel.ServerSession

/-!
# The size of a terminal

A model of both ends of `pty-req` and `window-change`: what `client_pty.c` sends of the size of the
client's terminal, and what `server_session.c` and `server_pty.c` do with it. The size that comes
with `pty-req` is kept until a process is started. Later requests are applied at once, if there is a
process whose input is open, and otherwise they are lost. Both handlers exchange the two sizes in
pixels. The steps follow the handlers of the session, which know nothing of the sizes.

## Main results

* `Sizes.Follows.ptyRequestHandler`, `.shellRequestHandler`, `.doSpawnSubsystem`,
  `.windowChangeRequestHandler` — the steps and the handlers of the session do the same
* `run_sizeStep_eq` — where the sizes agree
* `run_sizeStep_ne` — the two ways in which they come to differ
-/

namespace Lsh.Channel

open Machine Wire

/-- `struct winsize`. -/
structure Winsize where
  col : UInt16
  row : UInt16
  xpixel : UInt16
  ypixel : UInt16
  deriving DecidableEq, Repr

/-- The arguments `%i%i%i%i` of both requests. -/
def Winsize.format (dims : Winsize) : Octets :=
  formatUint32 dims.col.toUInt32 ++ (formatUint32 dims.row.toUInt32 ++
    (formatUint32 dims.xpixel.toUInt32 ++ formatUint32 dims.ypixel.toUInt32))

/-- The arguments of the request in `do_action_pty_start`. -/
def ptyRequestArgs (term modes : LshString) (dims : Winsize) : Octets :=
  formatString term.1 ++ (dims.format ++ formatString modes.1)

/-- The sizes in both handlers, with what is left. -/
def parseWinsize (s : Octets) : Option (Winsize × Octets) := do
  let (charWidth, s) ← parseUint32 s
  let (charHeight, s) ← parseUint32 s
  let (pixelWidth, s) ← parseUint32 s
  let (pixelHeight, s) ← parseUint32 s
  return (⟨charWidth.toUInt16, charHeight.toUInt16, pixelHeight.toUInt16, pixelWidth.toUInt16⟩, s)

/-- The arguments of `pty-req`, in `pty_request_handler`. -/
def parsePtySize (args : Octets) : Option Winsize := do
  let (_, s) ← parseString args
  let (dims, s) ← parseWinsize s
  let (_, s) ← parseString s
  parseEod s
  return dims

/-- The size of the client's terminal, and what becomes of it. -/
structure Sizes where
  client : Winsize
  /-- The client watches the size: `do_action_pty_success`. -/
  watched : Bool
  /-- The field `dims` of the pty, if there is one. -/
  dims : Option Winsize
  /-- The flag `alive` of the pty. -/
  alive : Bool
  process : Bool
  /-- `session->in.fd` is not closed. -/
  input : Bool
  /-- The size of the terminal of the process. -/
  tty : Option Winsize
  deriving DecidableEq, Repr

inductive SizeEvent where
  | ptyRequest (term modes : LshString) (sys : ServerSystem)
  | ptySuccess
  /-- The size of the client's terminal changes. -/
  | winch (dims : Winsize)
  /-- A request for a shell or a command. -/
  | startProcess (sys : ServerSystem)
  | startSubsystem (sys : ServerSystem)
  | closeInput

/-- `window_change_request_handler`, with the arguments that were sent. -/
def windowChange (s : Sizes) (args : Octets) : Except ProgramError Sizes :=
  match parseWinsize args with
  | some (dims, []) => .ok (if s.dims.isSome ∧ s.input then { s with tty := some dims } else s)
  | _ => .error (.connectionError "Invalid window-change request.")

/-- The pty for a process. -/
def Sizes.spawnPty (s : Sizes) (sys : ServerSystem) : Except ProgramError Sizes := do
  require (s.dims.isSome → s.alive = true) (.assertion .pty)
  return { s with dims := if sys.dupMaster then s.dims else none, alive := false }

/-- `spawn_process`. -/
def Sizes.spawn (s : Sizes) (sys : ServerSystem) : Except ProgramError Sizes := do
  let s ← s.spawnPty sys
  if s.dims.isNone ∧ ¬sys.makePipes then return s
  else if ¬sys.spawnShell then return s
  -- `pty_open_slave` sets the size before `spawn_shell` returns
  else return { s with process := true, input := true, tty := s.dims }

/-- One event at either end. -/
def sizeStep (s : Sizes) : SizeEvent → Except ProgramError Sizes
  | .ptyRequest term modes sys =>
    match parsePtySize (ptyRequestArgs term modes s.client) with
    | none => .error (.connectionError "Invalid pty request.")
    | some dims =>
      .ok (if s.dims.isSome ∨ s.process ∨ ¬sys.openMaster then s
        else { s with dims := some dims, alive := true })
  | .ptySuccess => .ok { s with watched := true }
  | .winch dims =>
    if s.watched then windowChange { s with client := dims } dims.format
    else .ok { s with client := dims }
  | .startProcess sys => if s.process then .ok s else s.spawn sys
  | .startSubsystem sys =>
    if ¬s.process ∧ sys.subsystem then { s with dims := none }.spawn sys else .ok s
  | .closeInput => .ok { s with input := false }

/-- A session before its first request. -/
def initSizes (client : Winsize) : Sizes := ⟨client, false, none, false, false, false, none⟩

/-- What the server makes of a size. -/
def Winsize.swap (dims : Winsize) : Winsize :=
  { dims with xpixel := dims.ypixel, ypixel := dims.xpixel }

theorem parseWinsize_format (dims : Winsize) (s : Octets) :
    parseWinsize (dims.format ++ s) = some (dims.swap, s) := by
  simp [parseWinsize, Winsize.format, Winsize.swap]

theorem parsePtySize_ptyRequestArgs (term modes : LshString) (dims : Winsize) :
    parsePtySize (ptyRequestArgs term modes dims) = some dims.swap := by
  simp [parsePtySize, ptyRequestArgs, parseString_lshString, parseWinsize_format,
    parseString_last, parseEod_nil]

/-! ### The handlers of the session -/

/-- What the session has of all this. -/
structure Sizes.Follows (s : Sizes) (session : ServerSession) : Prop where
  pty : session.pty = s.dims.map fun _ => s.alive
  process : s.process ↔ session.process ≠ .none
  input : s.input = session.input.fd.isSome

variable {x : SshChannel ServerSession} {t : Turn x} {s : Sizes}

/-- A handler does what the step does: it fails with the same error, or the session is followed. -/
def Simulates (s : Sizes) (event : SizeEvent) (r : Except ProgramError (Turn x)) : Prop :=
  Ensures (fun e => sizeStep s event = .error e)
    (fun u => ∃ s', sizeStep s event = .ok s' ∧ s'.Follows u.app) r

namespace Sizes.Follows

theorem isSome_dims {session : ServerSession} (h : s.Follows session) :
    s.dims.isSome = session.pty.isSome := by
  rw [h.pty, Option.isSome_map]

/-- An answer changes nothing. -/
theorem requestReply (h : s.Follows t.app) (wantReply result : Bool) :
    s.Follows (t.call (.requestReply wantReply result)).app := by
  have happ : (t.call (.requestReply wantReply result)).app = t.app := by
    simp [Turn.app, SshChannel.after]
  rwa [happ]

theorem ptyRequestHandler (h : s.Follows t.app) (term modes : LshString) (wantReply : Bool)
    (sys : ServerSystem) :
    Simulates s (.ptyRequest term modes sys)
      (ptyRequestHandler t wantReply (ptyRequestArgs term modes s.client) sys) := by
  have hparse : parsePtyRequest (ptyRequestArgs term modes s.client) = some () := by
    simp [parsePtyRequest, parseDimensions, ptyRequestArgs, Winsize.format,
      parseString_lshString, parseString_last, parseEod_nil]
  rw [Simulates, Channel.ptyRequestHandler, hparse]
  simp only [sizeStep, parsePtySize_ptyRequestArgs, h.isSome_dims, h.process]
  split_ifs
  · exact ⟨s, rfl, h.requestReply _ _⟩
  · refine ⟨_, rfl, requestReply ?_ _ _⟩
    rw [Turn.app_setApp]
    exact ⟨rfl, h.process, h.input⟩

theorem windowChangeRequestHandler (h : s.Follows t.app) (hwatched : s.watched = true)
    (dims : Winsize) :
    Simulates s (.winch dims) (windowChangeRequestHandler t false dims.format) := by
  have hparse : (parseDimensions (dims.format ++ []) >>= parseEod).isSome := by
    simp only [parseDimensions, Winsize.format, List.append_assoc, parseUint32_formatUint32]
    rfl
  rw [List.append_nil] at hparse
  have hsize := parseWinsize_format dims []
  rw [List.append_nil] at hsize
  rw [Simulates, Channel.windowChangeRequestHandler, if_pos ⟨by simp, hparse⟩]
  simp only [sizeStep, hwatched, if_true, windowChange, hsize]
  split_ifs
  · exact ⟨_, rfl, h.pty, h.process, h.input⟩
  · exact ⟨_, rfl, h.pty, h.process, h.input⟩

theorem spawnPty (h : s.Follows t.app) (sys : ServerSystem) :
    Ensures (fun e => s.spawnPty sys = .error e)
      (fun u => ∃ s', s.spawnPty sys = .ok s' ∧ s'.Follows u.app) (Channel.spawnPty t sys) := by
  rw [Channel.spawnPty, Sizes.spawnPty, h.pty]
  obtain ⟨client, watched, dims, alive, process, input, tty⟩ := s
  cases dims with
  | none => exact ⟨_, rfl, by simp [h.pty], h.process, h.input⟩
  | some size =>
    cases alive with
    | false => exact rfl
    | true =>
      refine ⟨_, rfl, ?_⟩
      rw [Turn.app_setApp]
      refine ⟨?_, h.process, h.input⟩
      cases sys.dupMaster <;> rfl

theorem startProcess (h : s.Follows t.app) (sys : ServerSystem) :
    Sizes.Follows { s with process := true, input := true, tty := s.dims }
      (startProcess t sys).app := by
  have hset (u : Turn x) (f : Update ServerSession → Update ServerSession) :
      (u.set f).app = (f u.channel.fields).app := by
    rw [Turn.app, Turn.channel_set]
    rfl
  have hcall (u : Turn x) (window : UInt32) : (u.call (.startReceive window)).app = u.app := by
    rw [Turn.app, Turn.channel_call, SshChannel.after]
    split_ifs <;> rfl
  have hadjust (u : Turn x) : (serverSendAdjust u).app = { u.app with
      out := u.app.out.channelIoStartRead .oopReadStdout
      err := u.app.err.channelIoStartRead .oopReadStderr } := Turn.app_setApp u _
  rw [Channel.startProcess, hcall, hset]
  change Sizes.Follows _ (Turn.app _)
  split_ifs
  all_goals
    simp only [hadjust, hset]
    exact ⟨h.pty, by simp, rfl⟩

/-- `spawn_process`, and the answer. -/
theorem spawnReply (h : s.Follows t.app) (hprocess : t.app.process = .none) (wantReply : Bool)
    (sys : ServerSystem) :
    Ensures (fun e => s.spawn sys = .error e)
      (fun u => ∃ s', s.spawn sys = .ok s' ∧ s'.Follows u.app) (spawnReply t wantReply sys) := by
  have hspawn : Ensures (fun e => s.spawn sys = .error e)
      (fun r => ∃ s', s.spawn sys = .ok s' ∧ s'.Follows r.2.app) (spawnProcess t sys) := by
    rw [spawnProcess, require_of hprocess, ok_bind, Sizes.spawn]
    cases hpty : Channel.spawnPty t sys with
    | error e =>
      have herror := h.spawnPty sys
      rw [hpty] at herror
      obtain herror : s.spawnPty sys = .error e := herror
      rw [herror]
      rfl
    | ok u =>
      have hok := h.spawnPty sys
      rw [hpty] at hok
      obtain ⟨s', heq, hs⟩ := hok
      rw [heq, ok_bind, ok_bind, ← Option.not_isSome, ← Option.not_isSome, hs.isSome_dims]
      split_ifs
      · exact ⟨s', rfl, hs⟩
      · exact ⟨_, rfl, hs.startProcess sys⟩
      · exact ⟨s', rfl, hs⟩
  rw [Channel.spawnReply]
  exact hspawn.bind fun r hr => hr.imp fun s' hs => ⟨hs.1, hs.2.requestReply _ _⟩

theorem shellRequestHandler (h : s.Follows t.app) (wantReply : Bool) (sys : ServerSystem) :
    Simulates s (.startProcess sys) (shellRequestHandler t wantReply [] sys) := by
  rw [Simulates, Channel.shellRequestHandler, parseEod_nil]
  simp only [sizeStep, h.process]
  split_ifs with hprocess
  · exact ⟨s, rfl, h.requestReply _ _⟩
  · exact h.spawnReply (not_ne_iff.mp hprocess) wantReply sys

theorem doSpawnSubsystem (h : s.Follows t.app) (wantReply : Bool) (args : Octets)
    (hargs : (parseCommand args).isSome) (sys : ServerSystem) :
    Simulates s (.startSubsystem sys) (doSpawnSubsystem t wantReply args sys) := by
  obtain ⟨command, hcommand⟩ := Option.isSome_iff_exists.mp hargs
  rw [Simulates, Channel.doSpawnSubsystem, hcommand]
  simp only [sizeStep, h.process, not_ne_iff]
  split_ifs with hstart
  · have hnone : Sizes.Follows { s with dims := none }
        (t.setApp { t.app with pty := none }).app := by
      rw [Turn.app_setApp]
      exact ⟨rfl, h.process, h.input⟩
    exact hnone.spawnReply (by rw [Turn.app_setApp]; exact hstart.1) wantReply sys
  · exact ⟨s, rfl, h.requestReply _ _⟩

end Sizes.Follows

/-! ### Agreement -/

/-- The size does not change when the pixels are exchanged, and it changes only before the request
for a terminal, or while the client watches it and the process has an open input. No process is
started with a pty that another could not be started with. -/
def SizeGuard (s : Sizes) : SizeEvent → Prop
  | .winch dims => dims.swap = dims ∧ (s.dims = none ∨ s.watched = true ∧ s.input = true)
  | .startProcess _ => s.process = false → s.dims.isSome → s.alive = true
  | _ => True

instance (s : Sizes) (event : SizeEvent) : Decidable (SizeGuard s event) := by
  unfold SizeGuard
  split <;> infer_instance

/-- The sizes agree. -/
structure SizesAgree (s : Sizes) : Prop where
  swap : s.client.swap = s.client
  dims : s.process = false → ∀ size ∈ s.dims, size = s.client
  tty : ∀ size ∈ s.tty, size = s.client
  input : s.input → s.process
  idle : s.process = false → s.tty = none
  started : s.process = true → s.tty.isSome = s.dims.isSome

namespace SizesAgree

variable (h : SizesAgree s)
include h

theorem tty_eq_none (hdims : s.dims = none) : s.tty = none := by
  cases hprocess : s.process with
  | false => exact h.idle hprocess
  | true =>
    have hsome := h.started hprocess
    rwa [hdims, Option.isSome_none, Option.isSome_eq_false_iff, Option.isNone_iff_eq_none] at hsome

theorem spawnPty (hprocess : s.process = false) {sys : ServerSystem}
    (halive : s.dims.isSome → s.alive = true) :
    Yields (fun u => SizesAgree u ∧ u.process = false) (s.spawnPty sys) := by
  rw [Sizes.spawnPty, require_of halive, ok_bind]
  refine ⟨⟨h.swap, fun _ => ?_, h.tty, h.input, h.idle, by simp [hprocess]⟩, hprocess⟩
  dsimp only
  split_ifs
  · exact h.dims hprocess
  · simp

/-- The process gets the size that was recorded for the pty, or it has no terminal. -/
theorem spawn (hprocess : s.process = false) {sys : ServerSystem}
    (halive : s.dims.isSome → s.alive = true) : Yields SizesAgree (s.spawn sys) := by
  rw [Sizes.spawn]
  refine (h.spawnPty hprocess halive).bind fun u hu => ?_
  obtain ⟨hu, hidle⟩ := hu
  split_ifs
  · exact hu
  · exact ⟨hu.swap, by simp, hu.dims hidle, by simp, by simp, by simp⟩
  · exact hu

theorem sizeStep {event : SizeEvent} (hg : SizeGuard s event) :
    Yields SizesAgree (sizeStep s event) := by
  cases event with
  | ptyRequest term modes sys =>
    simp only [Channel.sizeStep, parsePtySize_ptyRequestArgs, h.swap, ensures_ok]
    split_ifs with hset
    · exact h
    · simp only [not_or, Bool.not_eq_true] at hset
      have hidle := h.idle hset.2.1
      exact ⟨h.swap, by simp, h.tty, h.input, h.idle, by simp [hset.2.1]⟩
  | ptySuccess => exact { h with }
  | winch dims =>
    obtain ⟨hswap, hwhen⟩ := hg
    have hparse := parseWinsize_format dims []
    rw [List.append_nil, hswap] at hparse
    have hnone := h.tty_eq_none
    obtain ⟨client, watched, pty, alive, process, input, tty⟩ := s
    cases pty with
    | none =>
      obtain rfl : tty = none := hnone rfl
      simp only [Channel.sizeStep, windowChange, hparse, Option.isSome_none, Bool.false_eq_true,
        false_and, if_false, ite_self]
      exact ⟨hswap, by simp, by simp, h.input, fun _ => rfl, fun _ => rfl⟩
    | some size =>
      obtain ⟨rfl, rfl⟩ := hwhen.resolve_left (by simp)
      obtain rfl : process = true := h.input rfl
      simp only [Channel.sizeStep, windowChange, hparse, Option.isSome_some, and_self, if_true]
      exact ⟨hswap, by simp, by simp, h.input, by simp, by simp⟩
  | startProcess sys =>
    rw [Channel.sizeStep]
    split_ifs with hprocess
    · exact h
    · exact h.spawn (Bool.eq_false_iff.mpr hprocess) (hg (Bool.eq_false_iff.mpr hprocess))
  | startSubsystem sys =>
    rw [Channel.sizeStep]
    split_ifs with hstart
    · have hprocess : s.process = false := Bool.eq_false_iff.mpr hstart.1
      have hnone : SizesAgree { s with dims := none } :=
        ⟨h.swap, by simp, h.tty, h.input, h.idle, by simp [hprocess]⟩
      exact hnone.spawn hprocess (by simp)
    · exact h
  | closeInput => exact { h with input := by simp }

end SizesAgree

/-- **The sizes agree** in every run in which no change comes too early or too late, if they are the
same with the pixels exchanged; and a process with a pty has a terminal of that size. -/
theorem run_sizeStep_eq {client : Winsize} (hcli : client.swap = client) {events : List SizeEvent}
    (hg : Guarded sizeStep SizeGuard (initSizes client) events) :
    Yields (fun s => (s.process = false → ∀ size ∈ s.dims, size = s.client) ∧
        (∀ size ∈ s.tty, size = s.client) ∧
        (s.process = true → s.dims.isSome → s.tty = some s.client))
      (run sizeStep (initSizes client) events) := by
  have hini : SizesAgree (initSizes client) :=
    ⟨hcli, by simp [initSizes], by simp [initSizes], by simp [initSizes], by simp [initSizes],
      by simp [initSizes]⟩
  refine (run_of_guarded (fun s event h hg => h.sizeStep hg) hini hg).mono fun s hs =>
    ⟨hs.dims, hs.tty, fun hprocess hpty => ?_⟩
  obtain ⟨size, hsize⟩ := Option.isSome_iff_exists.mp ((hs.started hprocess).trans hpty)
  rw [hsize, hs.tty size hsize]

/-- The size changes before the request for a terminal, and again when there is a process. -/
theorem run_sizeStep_eq_square :
    let sys : ServerSystem := ⟨true, true, true, 3, 4, 5, true, true, true⟩
    let events : List SizeEvent := [.winch ⟨40, 12, 320, 320⟩,
      .ptyRequest ⟨[], by decide⟩ ⟨[], by decide⟩ sys, .ptySuccess, .startProcess sys,
      .winch ⟨100, 30, 0, 0⟩]
    Yields (fun s => (s.process = false → ∀ size ∈ s.dims, size = s.client) ∧
        (∀ size ∈ s.tty, size = s.client) ∧
        (s.process = true → s.dims.isSome → s.tty = some s.client))
      (run sizeStep (initSizes ⟨80, 24, 0, 0⟩) events) ∧
    (run sizeStep (initSizes ⟨80, 24, 0, 0⟩) events).toOption.bind Sizes.tty =
      some ⟨100, 30, 0, 0⟩ :=
  ⟨run_sizeStep_eq rfl (by decide +kernel), by decide +kernel⟩

/-- The pixels are exchanged, at the start of the process and by a later request; and a change
before the start of the process is lost. -/
theorem run_sizeStep_ne :
    let sys : ServerSystem := ⟨true, true, true, 3, 4, 5, true, true, true⟩
    let request : SizeEvent := .ptyRequest ⟨[], by decide⟩ ⟨[], by decide⟩ sys
    let size (events : List SizeEvent) :=
      (run sizeStep (initSizes ⟨80, 24, 640, 480⟩) events).toOption.bind Sizes.tty
    size [request, .ptySuccess, .startProcess sys] = some ⟨80, 24, 480, 640⟩ ∧
      size [request, .ptySuccess, .startProcess sys, .winch ⟨40, 12, 320, 240⟩] =
        some ⟨40, 12, 240, 320⟩ ∧
      size [request, .ptySuccess, .winch ⟨40, 12, 0, 0⟩, .startProcess sys] =
        some ⟨80, 24, 480, 640⟩ :=
  ⟨by decide +kernel, by decide +kernel, by decide +kernel⟩

end Lsh.Channel
