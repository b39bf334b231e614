
import Lsh.Channel.Reading
import Lsh.Channel.Windows

/-!
# Sessions at the server do not fail

The object of a session exists long before it has a process, descriptors and buffers, and the client
decides what arrives in which order. `ServerSafe` says how the counters of the channel, the
descriptors and the callbacks of a session go together; the functions of `server_session.c` rely on
it.

They rely on more than that. The handler for EOF looks at the buffer for stdin, which there is only
when a process has been started. And `make_pty` wants a pty that has not been used, but a request
that fails in `spawn_shell` leaves a used one.

## Main results

* `serverClass_serves` — a callback of a session cannot fail, and answers a request once
* `run_programStep_sessions` — so it is for every session in every run, apart from these two
-/

namespace Lsh.Channel

open Machine Io Wire List

/-! ### Replies -/

section Replies

variable {κ : Type} {x : SshChannel κ}

/-- The reply that a call sends. -/
def Call.reply : Call κ → Option Bool
  | .requestReply true result => some result
  | _ => none

/-- The replies that calls send. -/
def replies (calls : List (Call κ)) : List Bool := calls.filterMap Call.reply

@[simp] theorem replies_call (t : Turn x) (call : Call κ) :
    replies (t.call call).calls = replies t.calls ++ call.reply.toList := by
  rw [replies, Turn.call, filterMap_append, ← replies]
  cases hrep : call.reply <;> simp [hrep]

@[simp] theorem replies_set (t : Turn x) (f) : replies (t.set f).calls = replies t.calls := by
  rw [Turn.set]
  simp [Call.reply]

/-- How many replies are due when the program is told something. -/
def Notice.due : Notice → ℕ
  | .request _ wantReply _ => wantReply.toNat
  | _ => 0

end Replies

/-! ### The invariant -/

/-- A callback for reading is registered for a descriptor. -/
def ReadState.Open (file : ReadState) : Prop := file.registered.isSome → file.fd.isSome

namespace ReadState

variable {file : ReadState}

@[simp] theorem fd_startRead (f) : (file.channelIoStartRead f).fd = file.fd := by
  rw [channelIoStartRead]
  split_ifs <;> rfl

@[simp] theorem fd_stopRead : file.channelIoStopRead.fd = file.fd := by
  rw [channelIoStopRead]
  split_ifs <;> rfl

@[simp] theorem fd_close : file.channelReadStateClose.fd = none := by
  rw [channelReadStateClose]
  split_ifs with hfd
  · rfl
  · exact Option.not_isSome_iff_eq_none.mp hfd

theorem Open.startRead (h : file.Open) (f) : (file.channelIoStartRead f).Open := by
  rw [channelIoStartRead]
  split_ifs with hfd
  · exact fun _ => hfd.1
  · exact h

theorem Open.stopRead (h : file.Open) : file.channelIoStopRead.Open := by
  rw [channelIoStopRead]
  split_ifs
  · rintro ⟨⟩
  · exact h

theorem Open.close (h : file.Open) : file.channelReadStateClose.Open := by
  rw [channelReadStateClose]
  split_ifs
  · exact nofun
  · exact h

end ReadState

/-- From one callback to the next a process is started if there has been none, or exits. -/
def ServerProcess.Leads (p q : ServerProcess) : Prop :=
  q = p ∨ p = .none ∧ q = .running ∨ p = .running ∧ q = .exited

/-- What a call leaves alone that does not set the fields of the program. -/
theorem after_frame {κ : Type} (x : SshChannel κ) {call : Call κ} (hcall : ¬call.IsUpdate) :
    (x.after call).app = x.app ∧ (x.after call).sinks = x.sinks ∧
      (x.after call).sources = x.sources ∧
      (x.flags.sentClose = true ∨ x.flags.receivedEof = true →
        (x.after call).flags.sentClose = true ∨ (x.after call).flags.receivedEof = true) := by
  have hcls {y : SshChannel κ} (h : Closes x y) : y.app = x.app ∧ y.sinks = x.sinks ∧
      y.sources = x.sources ∧ (x.flags.sentClose = true ∨ x.flags.receivedEof = true →
        y.flags.sentClose = true ∨ y.flags.receivedEof = true) := by
    obtain ⟨sentClose, sentEof, rfl, hcl, _⟩ := h
    exact ⟨rfl, rfl, rfl, Or.imp_left hcl⟩
  cases call with
  | adjustRecWindow written | startReceive w =>
    rw [SshChannel.after]
    split_ifs <;> exact ⟨rfl, rfl, rfl, id⟩
  | eof => exact hcls x.closes_afterEof
  | close => exact hcls x.closes_afterClose
  | maybeClose => exact hcls x.closes_afterMaybeClose
  | sendRequest type want args =>
    rw [SshChannel.after]
    split_ifs
    · exact ⟨rfl, rfl, rfl, id⟩
    · cases want <;> exact ⟨rfl, rfl, rfl, id⟩
  | update u => exact absurd trivial hcall
  | _ => exact ⟨rfl, rfl, rfl, id⟩

/-- The counters, descriptors and callbacks of a session. -/
structure ServerSafe (x : SshChannel ServerSession) : Prop where
  sinks : (decide (x.app.process = .running)).toNat + x.app.input.fd.isSome.toNat ≤ x.sinks
  sources : x.app.out.fd.isSome.toNat + x.app.err.fd.isSome.toNat ≤ x.sources
  idle : x.app.process = .none → x.app.out.fd = none ∧ x.app.err.fd = none
  uses : x.app.input.Uses .oopWriteStdin
  stdin : x.app.input.registered.isSome →
    x.app.input.fd.isSome ∧ x.app.input.buffered ≠ []
  stdout : x.app.out.Open
  stderr : x.app.err.Open
  closed : x.app.process ≠ .none → x.app.input.fd = none →
    x.flags.sentClose ∨ x.flags.receivedEof
  started : x.app.started = (decide (x.app.process ≠ .none)).toNat

namespace ServerSafe

variable {x y : SshChannel ServerSession}

section
variable (h : ServerSafe x)
include h

/-- What the invariant speaks of is the same. -/
theorem congr (happ : y.app = x.app) (hsks : y.sinks = x.sinks)
    (hsrc : y.sources = x.sources)
    (hcld : x.flags.sentClose = true ∨ x.flags.receivedEof = true →
      y.flags.sentClose = true ∨ y.flags.receivedEof = true) : ServerSafe y := by
  constructor
  · rw [happ, hsks]
    exact h.sinks
  · rw [happ, hsrc]
    exact h.sources
  · rw [happ]
    exact h.idle
  · rw [happ]
    exact h.uses
  · rw [happ]
    exact h.stdin
  · rw [happ]
    exact h.stdout
  · rw [happ]
    exact h.stderr
  · rw [happ]
    exact fun hproc hfd => hcld (h.closed hproc hfd)
  · rw [happ]
    exact h.started

theorem closes (hcls : Closes x y) : ServerSafe y := by
  obtain ⟨sentClose, sentEof, rfl, hcl, _⟩ := hcls
  exact h.congr rfl rfl rfl (Or.imp_left hcl)

/-- A call that does not set the fields of the program. -/
theorem after {call : Call ServerSession} (hcall : ¬call.IsUpdate) : ServerSafe (x.after call) := by
  obtain ⟨happ, hsks, hsrc, hcld⟩ := after_frame x hcall
  exact h.congr happ hsks hsrc hcld

theorem arrives {notice : Option Notice} (harr : Arrives x y notice) : ServerSafe y := by
  cases harr with
  | eof hguard => exact h.congr rfl rfl rfl fun _ => .inr rfl
  | unhandled | stop | start | deny | request => exact h
  | _ => exact h.congr rfl rfl rfl id

/-- The state of stdin is set, for the same descriptor. -/
theorem setInput (hfd : input.fd = x.app.input.fd) (hus : input.Uses .oopWriteStdin)
    (hstdin : input.registered.isSome → input.fd.isSome ∧ input.buffered ≠ []) :
    ServerSafe { x with app := { x.app with input := input } } where
  sinks := by
    rw [hfd]
    exact h.sinks
  sources := h.sources
  idle := h.idle
  uses := hus
  stdin := hstdin
  stdout := h.stdout
  stderr := h.stderr
  closed hproc hno := h.closed hproc (hfd.symm.trans hno)
  started := h.started

/-- The states of stdout and stderr are set, for the same descriptors. -/
theorem setOutput {err : ReadState} (hout : out.fd = x.app.out.fd) (herr : err.fd = x.app.err.fd)
    (hso : out.Open)
    (hsde : err.Open) :
    ServerSafe { x with app := { x.app with out := out, err := err } } where
  sinks := h.sinks
  sources := by
    rw [hout, herr]
    exact h.sources
  idle hproc := by
    rw [hout, herr]
    exact h.idle hproc
  uses := h.uses
  stdin := h.stdin
  stdout := hso
  stderr := hsde
  closed := h.closed
  started := h.started

end

end ServerSafe

/-! ### Outcomes of callbacks -/

variable {x y : SshChannel ServerSession} {t u : Turn x} {p : ServerProcess} {k : ℕ}

/-- What a callback has done so far, with `k` replies. -/
structure Serves (p : ServerProcess) (k : ℕ) (t : Turn x) : Prop where
  safe : ServerSafe t.channel
  replies_length : (replies t.calls).length = k
  process : p.Leads t.channel.app.process

namespace Serves

theorem call (h : Serves p k t) (call : Call ServerSession) (hcall : ¬call.IsUpdate) :
    Serves p (k + call.reply.toList.length) (t.call call) where
  safe := by
    rw [Turn.channel_call]
    exact h.safe.after hcall
  replies_length := by rw [replies_call, length_append, h.replies_length]
  process := by
    rw [Turn.channel_call, (after_frame _ hcall).1]
    exact h.process

/-- The answer to a request. -/
theorem reply (h : Serves p 0 t) (want res) :
    Serves p want.toNat (t.call (.requestReply want res)) := by
  have hcall := h.call (.requestReply want res) id
  cases want with
  | true | false => exact hcall

theorem set {f : Update ServerSession → Update ServerSession} (h : Serves p k t)
    (hsa : ServerSafe ((f t.channel.fields).apply t.channel))
    (hproc : p.Leads (f t.channel.fields).app.process) : Serves p k (t.set f) where
  safe := by
    rw [Turn.channel_set]
    exact hsa
  replies_length := by
    rw [replies_set]
    exact h.replies_length
  process := by
    rw [Turn.channel_set]
    exact hproc

/-- The same process, with other data. -/
theorem setApp (h : Serves p k t) {app : ServerSession}
    (hsa : ServerSafe { t.channel with app := app })
    (hproc : app.process = t.channel.app.process) : Serves p k (t.setApp app) :=
  h.set hsa (by
    rw [hproc]
    exact h.process)

end Serves

/-! ### Stdin -/

/-- Nothing changes but the buffer. -/
theorem apply_frame (file : WriteState) (f) :
    Returns
      (fun r => r.2.fd = file.fd ∧ r.2.registered = file.registered ∧ r.2.active = file.active)
      (file.apply f) := by
  rw [WriteState.apply]
  split
  · trivial
  · split
    · trivial
    · exact ⟨rfl, rfl, rfl⟩

/-- What a function that writes leaves of the callback. It is registered only with something to
write, unless there has been an error. -/
structure Registers (f : WriteCallback) (file : WriteState) (r : IoStatus × WriteState × Turn x) :
    Prop where
  fd_eq : r.2.1.fd = file.fd
  uses : r.2.1.Uses f
  buffered : r.1 = .ok → r.2.1.registered.isSome = true → r.2.1.buffered ≠ []

namespace Registers

variable {f : WriteCallback} {file file' : WriteState}

theorem failed (hfd : file'.fd = file.fd) (hus : file'.Uses f) (t : Turn x) :
    Registers f file (.error, file', t) :=
  ⟨hfd, hus, nofun⟩

/-- Something is left in the buffer. -/
theorem waits (hfd : file'.fd = file.fd) (hus : file'.Uses f) (hbuf : file'.buffered ≠ [])
    (t : Turn x) : Registers f file (.ok, file', t) :=
  ⟨hfd, hus, fun _ _ => hbuf⟩

theorem stopWrite {status : IoStatus} (hfd : file'.fd = file.fd) (hus : file'.Uses f) (t : Turn x) :
    Registers f file (status, file'.channelIoStopWrite, t) where
  fd_eq := by
    rw [WriteState.channelIoStopWrite]
    split_ifs
    · exact hfd
    · exact hfd
  uses := .inl hus.registered_stopWrite
  buffered _ hsome := by
    rw [hus.registered_stopWrite] at hsome
    exact absurd hsome (by simp)

end Registers

variable {file : WriteState} {r : IoStatus × WriteState × Turn x} {f : WriteCallback}

theorem channelIoWrite_registers (hus : file.Uses f) (t : Turn x) (data res) :
    Returns (Registers f file) (channelIoWrite t file f data res) := by
  refine ((apply_frame file _).and apply_uses).bind fun r hr => ?_
  obtain ⟨⟨hfd, _, _⟩, hus'⟩ := hr
  dsimp only at hfd hus' ⊢
  split_ifs with _ hbuf
  · exact .failed hfd (hus' f hus) _
  · refine .waits ?_ (hus' f hus).startWrite ?_ _
    · rw [WriteState.channelIoStartWrite]
      split_ifs
      · exact hfd
      · exact hfd
    · rw [WriteState.channelIoStartWrite]
      split_ifs
      · exact hbuf
      · exact hbuf
  · exact .stopWrite hfd (hus' f hus) _

theorem channelIoFlush_registers (hus : file.Uses f) (hbuf : file.buffered ≠ []) (t : Turn x)
    (res) :
    Returns (Registers f file) (channelIoFlush t file res) := by
  cases hst : file.state with
  | none =>
    rw [WriteState.buffered, hst] at hbuf
    exact absurd rfl hbuf
  | some st =>
    have hpos : 0 < st.buffer.length := by
      rw [WriteState.buffered, hst] at hbuf
      exact length_pos_of_ne_nil hbuf
    have hfl : Yields (Written.Keeps st []) (sshWriteFlush st 0 res) :=
      sshWriteFlush_ensures hpos (Nat.zero_le _) res
    refine ((apply_moves hst hfl).of_total.and ((apply_frame file _).and apply_uses)).bind
      fun r hr => ?_
    obtain ⟨done, file'⟩ := r
    obtain ⟨⟨_, hmv⟩, ⟨hfd, _, _⟩, hus'⟩ := hr
    dsimp only at hmv hfd hus' ⊢
    split
    · split_ifs with hemp
      · exact .stopWrite hfd (hus' f hus) _
      · exact .waits hfd (hus' f hus) hemp _
    · refine .waits hfd (hus' f hus) (fun hnil => ?_) _
      have hlen := hmv.length_eq
      rw [hnil] at hlen
      exact hbuf (eq_nil_of_length_eq_zero hlen.symm)
    · exact .failed hfd (hus' f hus) _

section
variable (h : Serves p k t) {data : Octets}
include h

/-- Stdin is closed, after the end of the channel. There is a sink for its descriptor. -/
theorem Serves.closeInput (hfd : input.fd = t.channel.app.input.fd)
    (hen : t.channel.flags.sentClose ∨ t.channel.flags.receivedEof)
    (hinp : input.fd = none → input = t.channel.app.input) :
    Yields (Serves p k) (do
      let (input, t) ← channelWriteStateClose t input
      return t.setApp { t.app with input := input }) := by
  rw [channelWriteStateClose]
  split_ifs with hsome
  · have hsks := h.safe.sinks
    rw [← hfd, hsome, Bool.toNat_true] at hsks
    have hpos : t.channel.sinks ≠ 0 := by omega
    have hcld : ServerSafe { t.channel with
        sinks := t.channel.sinks - 1
        app := { t.channel.app with input := { input with fd := none, registered := none } } } := by
      refine ⟨?_, h.safe.sources, h.safe.idle, .inl rfl, by simp, h.safe.stdout, h.safe.stderr,
        fun _ _ => hen, h.safe.started⟩
      show (decide (t.channel.app.process = .running)).toNat + 0 ≤ t.channel.sinks - 1
      omega
    -- closing the channel does not look at the data of the program
    obtain ⟨sentClose, sentEof, hmaybe, hcl, _⟩ := SshChannel.closes_afterMaybeClose
      { t.channel with sinks := t.channel.sinks - 1 }
    have hcall : ((t.setSinks (t.channel.sinks - 1)).call .maybeClose).channel =
        { t.channel with
          sinks := t.channel.sinks - 1
          flags := { t.channel.flags with sentClose := sentClose, sentEof := sentEof } } := by
      rw [Turn.channel_call, Turn.channel_setSinks]
      exact hmaybe
    rw [require_of hpos]
    refine ⟨?_, ?_, ?_⟩
    · rw [Turn.channel_setApp, Turn.app, hcall]
      exact hcld.congr rfl rfl rfl (Or.imp_left hcl)
    · rw [Turn.setApp, replies_set, replies_call, Turn.setSinks, replies_set]
      exact (append_nil _).symm ▸ h.replies_length
    · rw [Turn.channel_setApp, Turn.app, hcall]
      exact h.process
  · have hno := Option.not_isSome_iff_eq_none.mp hsome
    rw [hinp hno]
    exact h.setApp h.safe rfl

/-- The calls of such a function. The channel has ended if it does not return `CHANNEL_IO_OK`. -/
theorem WriteMoves.serves (hr : WriteMoves t file data r) :
    Serves p k r.2.2 ∧ r.2.2.channel.app = t.channel.app ∧
      (r.1 ≠ .ok → r.2.2.channel.flags.sentClose ∨ r.2.2.channel.flags.receivedEof) := by
  refine ⟨?_, hr.frame.1, ?_⟩
  · cases hr with
    | blocked => exact h
    | credited => exact h.call (.adjustRecWindow _) id
    | failed => exact h.call .close id
  · intro hsta
    cases hr with
    | blocked => exact absurd rfl hsta
    | credited _ hcs =>
      rw [Turn.channel_call, flags_adjustRecWindow]
      exact .inr (hcs.resolve_left hsta).2
    | failed =>
      rw [Turn.channel_call, SshChannel.after, SshChannel.afterClose_eq]
      exact .inl rfl

/-- What has been written to the process. -/
theorem afterWriteStdin_serves (hfd : t.channel.app.input.fd.isSome)
    (hr : WriteMoves t t.channel.app.input data r)
    (hrgs : Registers .oopWriteStdin t.channel.app.input r) :
    Yields (Serves p k) (afterWriteStdin r) := by
  obtain ⟨hu, happ, hen⟩ := hr.serves h
  rw [afterWriteStdin]
  split_ifs with hok
  · refine hu.setApp ?_ rfl
    refine hu.safe.setInput (hrgs.fd_eq.trans (by rw [happ])) hrgs.uses fun hsome => ?_
    exact ⟨by rw [hrgs.fd_eq]; exact hfd, hrgs.buffered hok hsome⟩
  · refine hu.closeInput (hrgs.fd_eq.trans (by rw [happ])) (hen hok) fun hno => ?_
    rw [← hrgs.fd_eq, hno] at hfd
    exact absurd hfd (by simp)

/-- `oop_write_stdin`. -/
theorem oopWriteStdin_serves
    (hreg : t.channel.app.input.registered = some .oopWriteStdin) (res : WriteResult) :
    Yields (Serves p k) (oopWriteStdin t res) := by
  obtain ⟨hfd, hbuf⟩ := h.safe.stdin (by rw [hreg]; rfl)
  refine ((channelIoFlush_ensures hbuf t res).and
    (channelIoFlush_registers h.safe.uses hbuf t res)).bind fun r hr => ?_
  exact afterWriteStdin_serves h hfd hr.1 hr.2

end

/-- `do_receive`. -/
theorem serverReceive_serves {err : Bool} {data : Octets} (hwin : ServerWindow x) (h : ServerSafe x)
    (harr : Arrives x y (some (.receive err data))) (res) :
    Yields (Serves x.app.process 0) (serverReceive (⟨[]⟩ : Turn y) err data res) := by
  have hy : Serves x.app.process 0 (⟨[]⟩ : Turn y) :=
    ⟨h.arrives harr, rfl, .inl (congrArg ServerSession.process harr.app_eq)⟩
  obtain ⟨htk, hne, hle, rfl⟩ := harr.takesData
  have hproc : x.app.process ≠ .none := by
    intro hno
    rw [(hwin.none hno).1] at hle
    exact hne (eq_nil_of_length_eq_zero (Nat.le_zero.mp hle))
  obtain ⟨hst, hsize, hbal⟩ := hwin.some hproc
  rw [serverReceive]
  split_ifs
  · refine hy.setApp ?_ rfl
    exact { hy.safe with }
  · have hspc : x.app.input.buffered.length + data.length ≤ x.app.input.size := by
      have heq := hbal.eq htk.2
      omega
    have hfd : x.app.input.fd.isSome := by
      by_contra hno
      rcases h.closed hproc (Option.not_isSome_iff_eq_none.mp hno) with hcl | heof
      · exact absurd (hcl.symm.trans htk.2.2.2) (by simp)
      · exact absurd (heof.symm.trans htk.2.1) (by simp)
    refine ((channelIoWrite_ensures hst hspc hne _ .oopWriteStdin res).and
      (channelIoWrite_registers h.uses _ data res)).bind fun r hr => ?_
    exact afterWriteStdin_serves hy hfd hr.1 hr.2

/-! ### Stdout and stderr -/

/-- What `channel_io_read` does to the channel: it has one source less, or CLOSE has been sent,
unless the function returns `CHANNEL_IO_OK`. -/
structure Reads (t : Turn x) (file : ReadState) (r : IoStatus × LshString × ReadState × Turn x) :
    Prop where
  channel : ∃ n, Closes { t.channel with sources := n } r.2.2.2.channel ∧
    t.channel.sources - 1 ≤ n ∧ (r.1 = .ok → n = t.channel.sources)
  replies_eq : replies r.2.2.2.calls = replies t.calls
  fd_eq : r.2.2.1.fd = file.fd
  isOpen : file.Open → r.2.2.1.Open

theorem channelIoRead_reads (t : Turn x) (file) (hsrc : 0 < t.channel.sources) (res) :
    Yields (Reads t file) (channelIoRead t file res) := by
  refine (channelIoRead_ensures t file res).imp (fun e he => ?_) fun r hr => ?_
  · omega
  · cases hr with
    | stopped => exact ⟨⟨_, Closes.refl _, Nat.sub_le _ _, fun _ => rfl⟩, rfl,
        ReadState.fd_stopRead,
        fun h => h.stopRead⟩
    | data => exact ⟨⟨_, Closes.refl _, Nat.sub_le _ _, fun _ => rfl⟩, rfl, rfl, id⟩
    | eof =>
      refine ⟨⟨t.channel.sources - 1, ?_, Nat.le_refl _, by simp⟩, ?_, ReadState.fd_stopRead,
        fun h => h.stopRead⟩
      · rw [readEof]
        split_ifs
        · rw [Turn.channel_call, Turn.channel_setSources]
          exact SshChannel.closes_afterEof _
        · rw [Turn.channel_setSources]
          exact Closes.refl _
      · rw [readEof]
        split_ifs
        · rw [replies_call, Turn.setSources, replies_set]
          exact append_nil _
        · exact replies_set t _
    | failed =>
      refine ⟨⟨t.channel.sources, ?_, Nat.sub_le _ _, by simp⟩, ?_, rfl, id⟩
      · rw [Turn.channel_call]
        exact SshChannel.closes_afterClose _
      · rw [replies_call]
        exact append_nil _

variable {r : IoStatus × LshString × ReadState × Turn x} {err : ReadState}

/-- The states of stdout and stderr after reading from one of them. -/
theorem Reads.serves {file : ReadState} (h : Serves p k t) (hr : Reads t file r) (hso : out.Open)
    (hsde : err.Open) (hid : t.channel.app.process = .none → out.fd = none ∧ err.fd = none)
    (hsrc : ∀ n, t.channel.sources - 1 ≤ n → (r.1 = .ok → n = t.channel.sources) →
      out.fd.isSome.toNat + err.fd.isSome.toNat ≤ n) :
    Serves p k (r.2.2.2.setApp { r.2.2.2.app with out := out, err := err }) := by
  obtain ⟨n, hcls, hle, hok⟩ := hr.channel
  have happ : r.2.2.2.channel.app = t.channel.app := hcls.app_eq
  obtain ⟨sentClose, sentEof, hch, hcl, _⟩ := hcls
  refine ⟨?_, ?_, ?_⟩
  · rw [Turn.channel_setApp, Turn.app, hch]
    refine ⟨h.safe.sinks, hsrc n hle hok, hid, h.safe.uses, h.safe.stdin, hso, hsde, ?_,
      h.safe.started⟩
    exact fun hproc hfd => (h.safe.closed hproc hfd).imp_left hcl
  · rw [Turn.setApp, replies_set, hr.replies_eq]
    exact h.replies_length
  · rw [Turn.channel_setApp, Turn.app, happ]
    exact h.process

theorem Reads.app_eq {file : ReadState} (hr : Reads t file r) : r.2.2.2.app = t.channel.app := by
  obtain ⟨n, hcls, _⟩ := hr.channel
  exact hcls.app_eq

/-- `oop_read_stdout` and `oop_read_stderr`. -/
theorem oopReadOutput_serves (h : Serves p 0 t) (err)
    (hreg : (t.channel.app.output err).registered.isSome) (res) :
    Yields (Serves p 0) (oopReadOutput t err res) := by
  have hopen : (t.channel.app.output err).Open := by
    cases err with
    | false => exact h.safe.stdout
    | true => exact h.safe.stderr
  have hsrc : (t.channel.app.output err).fd.isSome.toNat +
      (t.channel.app.output !err).fd.isSome.toNat ≤ t.channel.sources := by
    cases err with
    | false => exact h.safe.sources
    | true => exact (Nat.add_comm _ _).trans_le h.safe.sources
  have hfd := hopen hreg
  rw [hfd, Bool.toNat_true] at hsrc
  have hproc (hno : t.channel.app.process = .none) : False := by
    obtain ⟨hout, herr⟩ := h.safe.idle hno
    cases err <;> simp [ServerSession.output, hout, herr] at hfd
  refine (channelIoRead_reads t (t.app.output err) (by omega) res).bind fun r hr => ?_
  have hset {file : ReadState} (hfile : file.Open)
      (hle : ∀ n, t.channel.sources - 1 ≤ n → (r.1 = .ok → n = t.channel.sources) →
        file.fd.isSome.toNat + (t.channel.app.output !err).fd.isSome.toNat ≤ n) :
      Serves p 0 (r.2.2.2.setApp (r.2.2.2.app.setOutput err file)) := by
    rw [← hr.app_eq] at hle
    cases err with
    | false =>
      exact Reads.serves h hr hfile (hr.app_eq ▸ h.safe.stderr) (fun hno => (hproc hno).elim) hle
    | true =>
      refine Reads.serves h hr (hr.app_eq ▸ h.safe.stdout) hfile (fun hno => (hproc hno).elim) ?_
      exact fun n hn hok => (Nat.add_comm _ _).trans_le (hle n hn hok)
  have hdone (hok : r.1 = .ok) : Serves p 0
      (r.2.2.2.setApp (r.2.2.2.app.setOutput err r.2.2.1)) := by
    refine hset (hr.isOpen hopen) fun n _ hn => ?_
    rw [hn hok, hr.fd_eq, Turn.app, hfd]
    exact hsrc
  dsimp only
  split_ifs with hsta hdata hsde
  · refine hset (hr.isOpen hopen).close fun n hn _ => ?_
    rw [ReadState.fd_close, Option.isSome_none, Bool.toNat_false]
    omega
  · exact (hdone (not_ne_iff.mp hsta)).call (.transmitExtended 1 _) id
  · exact (hdone (not_ne_iff.mp hsta)).call (.transmitData _) id
  · exact hdone (not_ne_iff.mp hsta)

/-- `do_send_adjust`. -/
theorem serverSendAdjust_serves (h : Serves p k t) : Serves p k (serverSendAdjust t) :=
  h.setApp (h.safe.setOutput (ReadState.fd_startRead _) (ReadState.fd_startRead _)
    (h.safe.stdout.startRead _) (h.safe.stderr.startRead _)) rfl

/-- `do_server_session_event`. For EOF there must be a buffer. -/
theorem doServerSessionEvent_serves {e : ChannelEvent} (h : Serves p 0 t)
    (heof : e = .eof → t.channel.app.input.state.isSome ∧ t.channel.flags.receivedEof) :
    Yields (Serves p 0) (doServerSessionEvent t e) := by
  cases e with
  | eof =>
    obtain ⟨hst, hfg⟩ := heof rfl
    obtain ⟨st, hst⟩ := Option.isSome_iff_exists.mp hst
    rw [doServerSessionEvent.eq_def, Turn.app, hst]
    dsimp only
    split_ifs
    · exact h.closeInput rfl (.inr hfg) fun _ => rfl
    · exact h
  | stop =>
    exact h.setApp (h.safe.setOutput ReadState.fd_stopRead ReadState.fd_stopRead
      h.safe.stdout.stopRead h.safe.stderr.stopRead) rfl
  | start =>
    rw [doServerSessionEvent]
    split_ifs
    · exact serverSendAdjust_serves h
    · exact h
  | _ => exact h

/-! ### Processes -/

/-- The message about the exit of the process counts as a sink. -/
theorem Serves.exitSink (h : Serves p k t) (hproc : t.channel.app.process ≠ .running)
    (hsks : t.channel.app.input.fd.isSome.toNat + 1 ≤ t.channel.sinks) :
    Yields (Serves p k) (do
      let t := t.set fun u => { u with noWaitForEof := true }
      require (t.channel.sinks ≠ 0) (ProgramError.assertion .sinks)
      return (t.setSinks (t.channel.sinks - 1)).call .maybeClose) := by
  have hwt : Serves p k (t.set fun u => { u with noWaitForEof := true }) :=
    h.set (h.safe.congr rfl rfl rfl id) h.process
  have hch := t.channel_set fun u => { u with noWaitForEof := true }
  dsimp only
  generalize t.set (fun u => { u with noWaitForEof := true }) = u at hwt hch ⊢
  have happ : u.channel.app = t.channel.app := by
    rw [hch]
    rfl
  have hsame : u.channel.sinks = t.channel.sinks := by
    rw [hch]
    rfl
  have hpos : u.channel.sinks ≠ 0 := by omega
  rw [require_of hpos]
  refine (hwt.set (f := fun v : Update ServerSession =>
    { v with sinks := u.channel.sinks - 1 }) ?_ hwt.process).call
    .maybeClose id
  refine ⟨?_, hwt.safe.sources, hwt.safe.idle, hwt.safe.uses, hwt.safe.stdin,
    hwt.safe.stdout, hwt.safe.stderr, hwt.safe.closed, hwt.safe.started⟩
  show (decide (u.channel.app.process = .running)).toNat + u.channel.app.input.fd.isSome.toNat ≤
    u.channel.sinks - 1
  rw [happ, decide_eq_false hproc, Bool.toNat_false]
  omega

/-- `do_exit_shell`. -/
theorem doExitShell_serves (h : ServerSafe x) (hrun : x.app.process = .running) (signaled args) :
    Yields (Serves .running 0) (doExitShell (⟨[]⟩ : Turn x) signaled args) := by
  have hsks := h.sinks
  rw [decide_eq_true hrun, Bool.toNat_true] at hsks
  have hexi : ServerSafe { x with app := { x.app with process := .exited } } := by
    refine ⟨?_, h.sources, by simp, h.uses, h.stdin, h.stdout, h.stderr,
      fun _ => h.closed (by rw [hrun]; simp), h.started.trans (by rw [hrun]; rfl)⟩
    show 0 + x.app.input.fd.isSome.toNat ≤ x.sinks
    omega
  have hch := (⟨[]⟩ : Turn x).channel_setApp { (⟨[]⟩ : Turn x).app with process := .exited }
  have hfst : Serves .running 0
      ((⟨[]⟩ : Turn x).setApp { (⟨[]⟩ : Turn x).app with process := .exited }) :=
    ⟨by exact hexi, rfl, .inr (.inr ⟨rfl, by rw [hch]⟩)⟩
  rw [doExitShell]
  split
  · exact hfst
  · generalize (if signaled = true then Atom.exitSignal else Atom.exitStatus) = type
    have hsent := hfst.call (.sendRequest (lshString type.octets) false args) id
    refine hsent.exitSink ?_ ?_
    · rw [Turn.channel_call, (after_frame _ id).1]
      simp
    · rw [Turn.channel_call, (after_frame _ id).1, (after_frame _ id).2.1]
      show x.app.input.fd.isSome.toNat + 1 ≤ x.sinks
      omega

/-- The descriptors of a new process. -/
structure Piped (session : ServerSession) (out err : ReadState) : Prop where
  stdout : out.Open
  stderr : err.Open
  count : out.fd.isSome.toNat + err.fd.isSome.toNat ≤ if session.pty.isSome then 1 else 2

variable {out : ReadState}

theorem Piped.sendAdjust {session : ServerSession} (h : Piped session out err) :
    Piped session (out.channelIoStartRead .oopReadStdout)
      (err.channelIoStartRead .oopReadStderr) where
  stdout := h.stdout.startRead _
  stderr := h.stderr.startRead _
  count := by
    rw [ReadState.fd_startRead, ReadState.fd_startRead]
    exact h.count

/-- The object of a session with a process. -/
def withProcess (x : SshChannel ServerSession) (sys : ServerSystem) (out err : ReadState) :
    SshChannel ServerSession :=
  { x with
    sources := x.sources + if x.app.pty.isSome then 1 else 2
    app := { x.app with
      process := .running
      started := x.app.started + 1
      input := initChannelWriteState (some sys.stdin) (x.app.initialWindow + 1).toNat
      out := out
      err := err } }

/-- Reading may be started at once. -/
theorem startReading_channel {z : SshChannel ServerSession} {sys : ServerSystem}
    (hp : Piped z.app out err)
    (hu : u.channel = withProcess z sys out err) :
    ∃ out err, Piped z.app out err ∧
      (if u.channel.sendWindowSize ≠ 0 then serverSendAdjust u else u).channel =
        withProcess z sys out err := by
  split_ifs
  · refine ⟨_, _, hp.sendAdjust, ?_⟩
    rw [serverSendAdjust, Turn.channel_setApp, Turn.app, hu]
    rfl
  · exact ⟨out, err, hp, hu⟩

/-- `spawn_process` with a process. -/
theorem startProcess_channel (h : ServerSafe t.channel) (hproc : t.channel.app.process = .none)
    (sys) :
    ∃ out err, Piped t.channel.app out err ∧ (startProcess t sys).channel =
      SshChannel.after { withProcess t.channel sys out err with
        sinks := t.channel.sinks + 2
        receive := true
        sendAdjust := true } (.startReceive t.channel.app.initialWindow) := by
  have herr : t.channel.app.err.registered = none := by
    refine Option.not_isSome_iff_eq_none.mp fun hsome => ?_
    have hfd := h.stderr hsome
    rw [(h.idle hproc).2] at hfd
    exact absurd hfd nofun
  have hpiped : Piped t.channel.app
      (if t.channel.app.pty.isSome then
        { initChannelReadState (some sys.stdout) serverReadBufferSize with ignoredError := eio }
        else initChannelReadState (some sys.stdout) serverReadBufferSize)
      (if t.channel.app.pty.isSome then { t.channel.app.err with fd := none, bufferSize := 0 }
        else initChannelReadState (some sys.stderr) serverReadBufferSize) := by
    cases hpty : t.channel.app.pty.isSome with
    | true =>
      refine ⟨nofun, fun hsome => ?_, ?_⟩
      · have hsome' : t.channel.app.err.registered.isSome = true := hsome
        rw [herr] at hsome'
        exact absurd hsome' nofun
      · rw [hpty]
        exact Nat.le_refl 1
    | false =>
      refine ⟨nofun, nofun, ?_⟩
      rw [hpty]
      exact Nat.le_refl 2
  have hset := t.channel_set fun u => { u with
    sources := u.sources + (if t.app.pty.isSome then 1 else 2)
    app := { t.app with
      process := .running
      started := t.app.started + 1
      input := initChannelWriteState (some sys.stdin) (t.app.initialWindow + 1).toNat
      out := if t.app.pty.isSome then
        { initChannelReadState (some sys.stdout) serverReadBufferSize with ignoredError := eio }
        else initChannelReadState (some sys.stdout) serverReadBufferSize
      err := if t.app.pty.isSome then { t.app.err with fd := none, bufferSize := 0 }
        else initChannelReadState (some sys.stderr) serverReadBufferSize } }
  obtain ⟨out, err, hp, hstr⟩ := startReading_channel hpiped hset
  refine ⟨out, err, hp, ?_⟩
  rw [startProcess]
  rw [Turn.channel_call, Turn.channel_set]
  rw [hstr]
  rfl

theorem startProcess_serves (h : Serves .none k t) (hproc : t.channel.app.process = .none) (sys) :
    Serves .none k (startProcess t sys) := by
  obtain ⟨out, err, hp, hch⟩ := startProcess_channel h.safe hproc sys
  refine ⟨?_, ?_, ?_⟩
  · rw [hch]
    refine ServerSafe.after ⟨?_, ?_, ?_, .inl rfl, ?_, hp.stdout, hp.stderr, ?_, ?_⟩ id
    · exact Nat.le_add_left _ _
    · have hcount := hp.count
      show out.fd.isSome.toNat + err.fd.isSome.toNat ≤ t.channel.sources + _
      omega
    · simp [withProcess]
    · simp [withProcess, initChannelWriteState]
    · simp [withProcess, initChannelWriteState]
    · show t.channel.app.started + 1 = 1
      rw [h.safe.started, hproc]
      rfl
  · rw [← h.replies_length, startProcess]
    split_ifs <;> simp [serverSendAdjust, Turn.setApp, Call.reply]
  · rw [hch, (after_frame _ id).1]
    exact .inr (.inl ⟨rfl, rfl⟩)

/-- The pty for a process is one that has not been used. -/
theorem spawnPty_serves (h : Serves p k t) (hpty : t.channel.app.pty ≠ some false) (sys) :
    Yields
      (fun u : Turn x => Serves p k u ∧ u.channel.app.process = t.channel.app.process)
      (spawnPty t sys) := by
  rw [spawnPty, Turn.app]
  split
  · exact ⟨h, rfl⟩
  · rename_i alive hal
    have htr : alive := by
      cases alive with
      | true => rfl
      | false => exact absurd hal hpty
    rw [require_of htr]
    refine ⟨h.setApp ?_ rfl, by rw [Turn.channel_setApp]⟩
    exact { h.safe with }

/-- A process is started, and the request is answered once. -/
theorem spawnReply_serves (h : Serves .none 0 t) (hproc : t.channel.app.process = .none)
    (hpty : t.channel.app.pty ≠ some false) (want sys) :
    Yields (Serves .none want.toNat) (spawnReply t want sys) := by
  have hspw : Yields (fun r => Serves .none 0 r.2) (spawnProcess t sys) := by
    have hnone : t.app.process = .none := hproc
    rw [spawnProcess, require_of hnone]
    refine (spawnPty_serves h hpty sys).bind fun u hu => ?_
    split_ifs
    · exact hu.1
    · exact startProcess_serves hu.1 (hu.2.trans hproc) sys
    · exact hu.1
  exact hspw.bind fun r hr => hr.reply want r.1

/-! ### Requests -/

/-- The requests of `server_session.c`. -/
def IsSessionRequest (type : Atom) : Prop :=
  type ∈ [Atom.shell, .exec, .subsystem, .ptyReq, .windowChange, .x11Req]

/-- The message is not well formed. -/
def ProgramError.IsRefusal : ProgramError → Prop
  | .connectionError _ => True
  | _ => False

/-- The condition on what a session is told: EOF comes after a process has been started, and there
is no request for a shell or a command after one has failed with a pty. -/
def SessionNotice (x : SshChannel ServerSession) : Notice → Prop
  | .event .eof => x.app.process ≠ .none
  | .request type _ _ => lookupAtom type = some .shell ∨ lookupAtom type = some .exec →
    ¬(x.app.pty = some false ∧ x.app.process = .none)
  | _ => True

/-- **A request** that is well formed is answered once. -/
theorem serverRequest_serves {type : Atom} (h : Serves t.channel.app.process 0 t)
    (hty : IsSessionRequest type)
    (hpty : type = .shell ∨ type = .exec →
      ¬(t.channel.app.pty = some false ∧ t.channel.app.process = .none)) (want args sys) :
    Ensures ProgramError.IsRefusal (Serves t.channel.app.process want.toNat)
      (serverRequest t type want args sys) := by
  have hdata (pty : Option Bool) (x11 : Bool) :
      Serves t.channel.app.process 0 (t.setApp { t.app with pty := pty, x11 := x11 }) :=
    h.setApp { h.safe with } rfl
  refine serverRequest_rule args (fun _ => trivial) (fun hwa => hwa ▸ h)
    (fun hoth => absurd hty hoth) (h.reply want false)
    (fun pty x11 => (hdata pty x11).reply want true) (fun hno hshl => ?_) fun hno _ => ?_
  · have hno : t.channel.app.process = .none := hno
    rw [hno] at h ⊢
    exact (spawnReply_serves h hno (fun hused => hpty hshl ⟨hused, hno⟩) want sys).of_total
  · have hset := hdata none t.app.x11
    have hno : t.channel.app.process = .none := hno
    rw [hno] at hset ⊢
    exact (spawnReply_serves hset (by rw [Turn.channel_setApp]; exact hno)
      (by rw [Turn.channel_setApp]; simp) want sys).of_total

/-! ### Every callback -/

/-- The data of a session when nothing has been done yet. -/
theorem ServerSafe.serves (h : ServerSafe x) : Serves x.app.process 0 (⟨[]⟩ : Turn x) :=
  ⟨h, rfl, .inl rfl⟩

/-- What the program is told is not a request that `server_session.c` does not know. -/
def Notice.IsKnown : Notice → Prop
  | .request type _ _ => ∃ a ∈ lookupAtom type, IsSessionRequest a
  | _ => True

theorem Arrives.receivedEof {n : Option Notice} (h : Arrives x y n) (hn : n = some (.event .eof)) :
    y.flags.receivedEof := by
  cases h with
  | adjust size =>
    split_ifs at hn
    cases hn
  | eof => rfl
  | reply success => cases success <;> cases hn
  | _ => cases hn

/-- **What a session is told** is no reason to fail. -/
theorem serverClass_notice {n : Notice} (hwin : ServerWindow x) (h : ServerSafe x)
    (harr : Arrives x y (some n))
    (hn : SessionNotice y n) (sys) :
    Ensures ProgramError.IsRefusal
      (fun t : Turn y => ∃ k, Serves x.app.process k t ∧ (n.IsKnown → k = n.due))
      (serverClass.notice sys n ⟨[]⟩) := by
  have hy := (h.arrives harr).serves
  have hdone {k : ℕ} {f : Except ProgramError (Turn y)} (hk : n.IsKnown → k = n.due)
      (hf : Ensures ProgramError.IsRefusal (Serves y.app.process k) f) :
      Ensures ProgramError.IsRefusal
        (fun t : Turn y => ∃ k, Serves x.app.process k t ∧ (n.IsKnown → k = n.due)) f := by
    rw [harr.app_eq] at hf
    exact hf.mono fun t ht => ⟨k, ht, hk⟩
  cases n with
  | event e =>
    refine hdone (fun _ => rfl) (doServerSessionEvent_serves hy ?_).of_total
    rintro rfl
    have hproc : x.app.process ≠ .none := by
      rw [← harr.app_eq]
      exact hn
    have hst := (hwin.some hproc).1
    rw [← harr.app_eq] at hst
    exact ⟨hst, harr.receivedEof rfl⟩
  | receive err data =>
    rw [harr.app_eq] at hdone
    exact hdone (fun _ => rfl) (serverReceive_serves hwin h harr sys.write).of_total
  | sendAdjust size => exact hdone (fun _ => rfl) (serverSendAdjust_serves hy)
  | request type want args =>
    simp only [serverClass]
    cases hty : lookupAtom type with
    | none =>
      refine hdone (k := 0) (fun hkn => ?_) hy
      obtain ⟨a, ha, _⟩ := hkn
      rw [hty] at ha
      cases ha
    | some a =>
      by_cases ha : IsSessionRequest a
      · refine hdone (fun _ => rfl)
          (serverRequest_serves (t := ⟨[]⟩) hy ha (fun hstr => hn ?_) _ _ _)
        rw [hty]
        exact hstr.imp (congrArg some) (congrArg some)
      · refine hdone (k := 0) (fun hkn => ?_) ?_
        · obtain ⟨b, hb, hses⟩ := hkn
          rw [hty] at hb
          cases hb
          exact absurd hses ha
        · dsimp only
          rw [serverRequest.eq_def]
          split <;> first | exact hy | exact absurd (by simp [IsSessionRequest]) ha

/-- **What happens on the descriptors of a session** and to its process is no reason to fail. -/
theorem serverClass_activity_serves (h : ServerSafe x) (a) :
    Yields (Serves x.app.process 0) (serverClass.activity a (⟨[]⟩ : Turn x)) := by
  have hx := h.serves
  refine serverClass_activity hx (fun err cb res _ hreg => ?_)
    (fun res hreg => oopWriteStdin_serves hx hreg res) fun signaled args hrun => ?_
  · refine oopReadOutput_serves hx err ?_ res
    show (x.app.output err).registered.isSome = true
    rw [hreg]
    rfl
  · rw [hrun]
    exact doExitShell_serves h hrun signaled args

/-! ### Runs -/

/-- A session that can be told anything that meets the condition, and to which anything can happen:
its code does not fail, each request is answered once, and no second process is started. -/
structure SessionSafe (x : SshChannel App) : Prop where
  notice : ∀ y n data, x.app = .server data → Arrives x y (some n) →
    SessionNotice (y.map fun _ => data) n → ∀ sys,
    Ensures ProgramError.IsRefusal
      (fun calls => (n.IsKnown → (replies calls).length = n.due) ∧
        ∃ data', (calls.foldl SshChannel.after y).app = .server data' ∧
          data.process.Leads data'.process)
      (noticeCalls sys n y)
  activity : ∀ a data, x.app = .server data →
    Yields
      (fun calls => replies calls = [] ∧
        ∃ data', (calls.foldl SshChannel.after x).app = .server data' ∧
          data.process.Leads data'.process)
      (activityCalls a x)
  sinks : ∀ data, x.app = .server data →
    (decide (data.process = .running)).toNat + data.input.fd.isSome.toNat ≤ x.sinks
  started : ∀ data, x.app = .server data → data.started ≤ 1

theorem serverClass_serves :
    ClassRules serverClass (fun x => ServerWindow x ∧ ServerSafe x) (fun _ _ => True) SessionNotice
      (fun _ _ => True) where
  closes hcls hx := ⟨serverClass_window.closes hcls hx.1, hx.2.closes hcls⟩
  silent harr hx := ⟨serverClass_window.silent harr hx.1, hx.2.arrives harr⟩
  notice harr hx hn sys := by
    have hsvs := (serverClass_notice hx.1 hx.2 harr hn sys).imp (fun _ _ => trivial) fun t ht => ht
    refine (hsvs.and (serverClass_window.notice harr hx.1 trivial sys)).mono fun t ht => ?_
    obtain ⟨⟨k, hsvs, _⟩, hwin, hob⟩ := ht
    exact ⟨⟨hwin, hsvs.safe⟩, hob⟩
  activity {x a} hx ha := by
    refine ((serverClass_activity_serves hx.2 a).of_total.and
      (serverClass_window.activity hx.1 ha)).mono
      fun t ht => ?_
    exact ⟨⟨ht.2.1, ht.1.safe⟩, ht.2.2⟩

@[simp] theorem replies_map {κ κ' : Type} (g : κ → κ') (calls) :
    replies (calls.map (Call.map g)) = replies calls := by
  rw [replies, filterMap_map]
  congr 1
  funext call
  cases call with
  | requestReply want res => cases want <;> rfl
  | _ => rfl

/-- A function for sessions, as one for the channels of a connection. -/
theorem serverCalls_ensures {data : ServerSession} {E : ProgramError → Prop} {x : SshChannel App}
    (hx : x.app = .server data)
    {f : Turn (x.map fun _ => data) → Except ProgramError (Turn (x.map fun _ => data))}
    {p : ServerProcess} {K : ℕ → Prop}
    (hf : Ensures E (fun t => ∃ k, Serves p k t ∧ K k) (f ⟨[]⟩)) :
    Ensures E
      (fun calls => K (replies calls).length ∧
        ∃ data', (calls.foldl SshChannel.after x).app = .server data' ∧ p.Leads data'.process)
      (serverClass.calls x data f) := by
  have hself : (x.map fun _ => data).map App.server = x := by
    show x.map (fun _ => App.server data) = x
    rw [← hx]
    rfl
  refine hf.bind fun t ht => ?_
  obtain ⟨k, hsvs, hk⟩ := ht
  refine ⟨?_, t.channel.app, ?_, hsvs.process⟩
  · rw [replies_map, hsvs.replies_length]
    exact hk
  · nth_rewrite 1 [← hself]
    exact congrArg SshChannel.app (SshChannel.map_foldl_after App.server _ _)

/-- What holds of the channels of a connection. -/
def ServesApp : SshChannel App → Prop :=
  onKind (fun _ => True) (fun x => ServerWindow x ∧ ServerSafe x) fun _ => True

theorem ServesApp.safe {x : SshChannel App} (h : ServesApp x) : SessionSafe x := by
  have hdata (data : ServerSession) (happ : x.app = .server data) :
      ServerWindow (x.map fun _ => data) ∧ ServerSafe (x.map fun _ => data) := by
    rwa [ServesApp, onKind, happ] at h
  refine ⟨fun y n data happ harr hn sys => ?_, fun a data happ => ?_, fun data happ => ?_,
    fun data happ => ?_⟩
  · obtain ⟨hwin, hsa⟩ := hdata data happ
    have happ' : y.app = .server data := harr.app_eq.trans happ
    rw [noticeCalls, happ']
    exact serverCalls_ensures happ' (K := fun k => n.IsKnown → k = n.due)
      (serverClass_notice hwin hsa (harr.map _) hn sys)
  · obtain ⟨_, hsa⟩ := hdata data happ
    rw [activityCalls, happ]
    refine (serverCalls_ensures happ (K := (· = 0)) ((serverClass_activity_serves hsa a).mono
      fun t ht => ⟨0, ht, rfl⟩)).mono fun calls hcas => ?_
    exact ⟨eq_nil_of_length_eq_zero hcas.1, hcas.2⟩
  · exact (hdata data happ).2.sinks
  · exact (hdata data happ).2.started.trans_le (Bool.toNat_le _)

/-- The condition on what a channel is told. -/
def SessionNoticeApp : SshChannel App → Notice → Prop :=
  onKind (fun _ _ => True) SessionNotice fun _ _ => True

theorem serves_rules :
    ProgramRules ServesApp (fun _ _ => True) SessionNoticeApp
      (onKind (fun _ _ => True) (fun _ _ => True) fun _ _ => True) (fun _ => True) := by
  refine ProgramRules.of_classes (T := fun _ _ => True) (fun _ _ _ _ => trivial)
    (classRules_true forwardClass) serverClass_serves (classRules_true clientClass) ?_ ?_
  · intro new info hnew ser i
    cases hnew with
    | server requestTypes info =>
      refine ⟨⟨rfl, rfl, fun _ => ⟨rfl, rfl, rfl⟩, fun hne => absurd rfl hne⟩, ?_⟩
      exact ⟨Nat.le_refl 0, Nat.le_refl 0, fun _ => ⟨rfl, rfl⟩, .inl rfl, nofun, nofun, nofun,
        fun hne => absurd rfl hne, rfl⟩
    | _ => trivial
  · rintro x sock info ser i rfl
    exact ⟨trivial, obeys_true _⟩

instance (x : SshChannel ServerSession) (n : Notice) : Decidable (SessionNotice x n) := by
  unfold SessionNotice
  split <;> infer_instance

/-- The condition on an event: EOF on a session comes after a process has been started, and there is
no request for a shell or a command after one has failed with a pty. -/
def SessionGuard : SshConnection App → ProgramEvent → Prop :=
  ProgramGuard SessionNoticeApp
    (onKind (fun _ _ => True) (fun _ _ => True) fun _ _ => True) (fun _ => True) fun _ _ => True

instance (x : SshChannel App) (n : Notice) : Decidable (SessionNoticeApp x n) :=
  inferInstanceAs (Decidable (onKind (fun _ _ => True) SessionNotice (fun _ _ => True) x n))

instance (c : SshConnection App) (event : ProgramEvent) : Decidable (SessionGuard c event) :=
  inferInstanceAs (Decidable (ProgramGuard _ _ _ _ c event))

/-- **Sessions at the server do not fail**, in every run in which EOF comes after a process has been
started, and in which no shell or command is asked for after one has failed with a pty. -/
theorem run_programStep_sessions (types requests : List Atom) (fallback : Bool)
    (events : List ProgramEvent)
    (hguard : Guarded programStep SessionGuard (initSshConnection types requests fallback) events) :
    Ensures (fun _ => True) (AllChannels SessionSafe)
      (run programStep (initSshConnection types requests fallback) events) := by
  have hrun := run_programStep_allChannels serves_rules types requests fallback hguard
  exact hrun.mono fun d hd i x hx => (hd i x hx).safe

/-- The client opens a session. -/
def openSession : ProgramEvent :=
  .receive ([90] ++ formatString Atom.session.octets ++ [0, 0, 0, 7, 0, 0, 1, 0, 0, 0, 1, 0])
    { idleSystem with openAnswer := .session [.shell, .ptyReq] }

/-- The client asks for something, and wants a reply. -/
def requestSession (type : Atom) (args : Octets) (server : ServerSystem) : ProgramEvent :=
  .receive ([98, 0, 0, 0, 0] ++ formatString type.octets ++ [1] ++ args)
    { idleSystem with server := server }

/-- The arguments for a pty. -/
def ptyArgs : Octets := formatString [] ++ List.replicate 16 0 ++ formatString []

/-- A system that allows everything, apart from the process. -/
def systemWith (spawnShell : Bool) : ServerSystem :=
  ⟨true, true, spawnShell, 4, 5, 6, true, true, true⟩

/-- EOF without a process, and a second request for a shell after the first has failed with a
pty. -/
theorem run_programStep_sessionFails :
    run programStep (initSshConnection [.session] [] false)
        [openSession, .receive [96, 0, 0, 0, 0] idleSystem] = .error .nullPointer ∧
      run programStep (initSshConnection [.session] [] false)
        [openSession, requestSession .ptyReq ptyArgs (systemWith false),
          requestSession .shell [] (systemWith false),
          requestSession .shell [] (systemWith false)] =
        .error (.assertion .pty) :=
  ⟨by rfl, by rfl⟩

/-- A session with a pty, data from the process, EOF and the exit of the process. -/
theorem run_programStep_sessions_shell :
    let events := [openSession, requestSession .ptyReq ptyArgs (systemWith true),
      requestSession .shell [] (systemWith true), requestSession .shell [] (systemWith true),
      .activity 0 (.read .oopReadStdout (.data 1 [2])), .receive [96, 0, 0, 0, 0] idleSystem,
      .activity 0 (.exit false [0, 0, 0, 0])]
    Guarded programStep SessionGuard (initSshConnection [.session] [] false) events ∧
      Ensures (fun _ => True) (AllChannels SessionSafe)
        (run programStep (initSshConnection [.session] [] false) events) ∧
      (run programStep (initSshConnection [.session] [] false) events).toOption.any
        (fun c => (channelAt c 0).any fun x => x.sinks = 0 ∧ x.sources = 1) = true := by
  intro events
  have hg : Guarded programStep SessionGuard (initSshConnection [.session] [] false) events := by
    decide +kernel
  refine ⟨hg, ?_, by decide +kernel⟩
  clear_value events
  exact run_programStep_sessions _ _ _ events hg

end Lsh.Channel
