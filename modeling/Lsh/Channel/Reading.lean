
import Lsh.Channel.ProgramSteps

/-!
# Reading for forwarded channels

The callback `oop_read_socket` is registered and cancelled in several places: when the window is
exhausted or opened, at the end of the file, and at STOP and START. A channel whose socket has come
to its end has no source any more, and `channel_io_read` insists that there is one.

Only START does not look at the sources of the channel.

## Main results

* `Reading` — a channel that reads has a source
* `run_programStep_reading` — this holds in every run in which START finds no channel that can send
  and has no source
-/

namespace Lsh.Channel

open Machine Io

variable {x y z : SshChannel Forward}

/-! ### The invariant -/

/-- Nothing more is sent on the channel. -/
def Ended {κ : Type} (x : SshChannel κ) : Prop :=
  x.flags.sentEof ∨ x.flags.sentClose ∨ x.flags.receivedClose

/-- A channel that reads has a source, and one that asks for WINDOW_ADJUST has, or has ended. -/
structure Reading (x : SshChannel Forward) : Prop where
  source : x.app.read.registered = some .oopReadSocket → 0 < x.sources
  active : x.app.read.registered.isSome → x.app.read.active
  ended : x.sendAdjust → x.sources = 0 → Ended x

namespace Reading

section
variable (h : Reading x)
include h

/-- What the invariant speaks of is the same, or has ended. -/
theorem congr (hread : y.app.read = x.app.read) (hsrc : y.sources = x.sources)
    (hadj : y.sendAdjust = x.sendAdjust) (hen : Ended x → Ended y) : Reading y where
  source := by
    rw [hread, hsrc]
    exact h.source
  active := by
    rw [hread]
    exact h.active
  ended := by
    rw [hadj, hsrc]
    exact fun hsnd hz0 => hen (h.ended hsnd hz0)

theorem closes (hcls : Closes x y) : Reading y := by
  obtain ⟨sentClose, sentEof, rfl, hcl, heof⟩ := hcls
  refine h.congr rfl rfl rfl fun hen => ?_
  rcases hen with hsent | hsent | hrecv
  · exact .inl (heof hsent)
  · exact .inr (.inl (hcl hsent))
  · exact .inr (.inr hrecv)

/-- The state of the socket for reading is set. -/
theorem read {read : ReadState}
    (hsrc : read.registered = some .oopReadSocket → 0 < x.sources)
    (hact : read.registered.isSome = true → read.active = true) :
    Reading { x with app := { x.app with read := read } } :=
  ⟨hsrc, hact, h.ended⟩

theorem startRead (hsrc : 0 < x.sources) :
    Reading { x with app := { x.app with
      read := x.app.read.channelIoStartRead .oopReadSocket } } := by
  refine h.read (fun _ => hsrc) ?_
  rw [ReadState.channelIoStartRead]
  split_ifs
  · exact fun _ => rfl
  · exact h.active

/-- Nothing is registered any more. -/
theorem registered_stopRead : x.app.read.channelIoStopRead.registered = none := by
  rw [ReadState.channelIoStopRead]
  split_ifs with hact
  · rfl
  · exact Option.not_isSome_iff_eq_none.mp fun hsome => hact (h.active hsome)

theorem stopRead :
    Reading { x with app := { x.app with read := x.app.read.channelIoStopRead } } := by
  have hno := h.registered_stopRead
  refine h.read ?_ ?_
  · rw [hno]
    exact nofun
  · rw [hno]
    exact nofun

theorem killed : Reading (killed x) := ⟨nofun, nofun, h.ended⟩

/-- A call that does not set the fields of the program. -/
theorem after {call : Call Forward} (hcall : ¬call.IsUpdate) : Reading (x.after call) := by
  cases call with
  | adjustRecWindow written | startReceive w =>
    rw [SshChannel.after]
    split_ifs
    · exact h.congr rfl rfl rfl id
    · exact h
  | transmitData data | transmitExtended type data => exact h.congr rfl rfl rfl id
  | eof => exact h.closes x.closes_afterEof
  | close => exact h.closes x.closes_afterClose
  | maybeClose => exact h.closes x.closes_afterMaybeClose
  | sendRequest type want args =>
    rw [SshChannel.after]
    split_ifs
    · exact h
    · cases want with
      | true => exact h.congr rfl rfl rfl id
      | false => exact h
  | requestReply want res => exact h
  | update u => exact absurd trivial hcall
  | kill => exact h.congr rfl rfl rfl id

end

variable {t : Turn z}

section
variable (h : Reading t.channel)
include h

theorem call (call) (hcall : ¬call.IsUpdate) : Reading (t.call call).channel := by
  rw [Turn.channel_call]
  exact h.after hcall

/-- The sources are left alone, and so is the state for reading. -/
theorem setApp {app : Forward} (hread : app.read = t.channel.app.read) :
    Reading (t.setApp app).channel := by
  rw [Turn.channel_setApp]
  exact h.congr hread rfl rfl id

theorem setSinks (n) : Reading (t.setSinks n).channel := by
  rw [Turn.channel_setSinks]
  exact h.congr rfl rfl rfl id

/-- `channel_forward_start_io`. -/
theorem startIo : Reading (channelForwardStartIo t).channel := by
  have hset : Reading { t.channel with
      receive := true, sendAdjust := true, sources := t.channel.sources + 1
      sinks := t.channel.sinks + 1, app := { t.channel.app with receive := .channelForward } } :=
    ⟨fun _ => Nat.succ_pos _, h.active, fun _ hz0 => nomatch hz0⟩
  rw [channelForwardStartIo, channelForwardStartRead]
  split_ifs
  · rw [Turn.channel_setRead, Turn.app, Turn.channel_set]
    exact hset.startRead (Nat.succ_pos _)
  · rw [Turn.channel_set]
    exact hset

end

end Reading

/-! ### Functions -/

section Functions

variable {t : Turn z} (h : Reading t.channel)
include h

theorem channelForwardShutdown_reading : Leaves Reading (channelForwardShutdown t) := by
  rw [channelForwardShutdown]
  by_cases hsks : t.channel.sinks ≠ 0
  · rw [require_of hsks]
    exact (h.setSinks _).call .maybeClose id
  · rw [require_of_not hsks]
    trivial

omit h in
theorem afterWriteSocket_reading {r : IoStatus × WriteState × Turn x} (h : Reading r.2.2.channel) :
    Leaves Reading (afterWriteSocket r) := by
  have hwr : Reading (r.2.2.setWrite r.2.1).channel := h.setApp rfl
  rw [afterWriteSocket]
  split_ifs
  · exact channelForwardShutdown_reading hwr
  · exact hwr

theorem WriteCalls.reading {r : IoStatus × WriteState × Turn z} (hr : WriteCalls t r) :
    Reading r.2.2.channel := by
  cases hr with
  | blocked => exact h
  | credited file n => exact h.call (.adjustRecWindow (UInt32.ofNat n)) id
  | failed => exact h.call .close id

theorem oopWriteSocket_reading (res) : Leaves Reading (oopWriteSocket t res) := by
  exact (channelIoFlush_calls t _ res).bind fun r hr => afterWriteSocket_reading (hr.reading h)

theorem channelForwardWrite_reading (data res) :
    Leaves Reading (channelForwardWrite t data res) := by
  exact (channelIoWrite_calls t _ _ data res).bind fun r hr =>
    afterWriteSocket_reading (hr.reading h)

/-- There is one source less, and nothing is read. -/
theorem readEof_reading :
    Reading ((readEof t).setRead t.channel.app.read.channelIoStopRead).channel := by
  have hno := h.registered_stopRead
  have hread {u : Turn z} (hen : u.channel.sendAdjust → u.channel.sources = 0 →
      Ended u.channel) : Reading (u.setRead t.channel.app.read.channelIoStopRead).channel := by
    rw [Turn.channel_setRead]
    refine ⟨?_, ?_, hen⟩
    · rw [hno]
      exact nofun
    · rw [hno]
      exact nofun
  rw [readEof]
  split_ifs with hz0
  · refine hread fun _ _ => ?_
    rw [Turn.channel_call]
    exact SshChannel.afterEof_flags _
  · exact hread fun _ hz0' => absurd hz0' hz0

/-- `oop_read_socket`. -/
theorem oopReadSocket_reading (res) : Leaves Reading (oopReadSocket t res) := by
  refine ((channelIoRead_ensures t t.app.read res).imp (fun _ _ => trivial) fun r hr => hr).bind
    fun r hr => ?_
  cases hr with
  | stopped hz0 =>
    have hsto : Reading (t.setRead t.app.read.channelIoStopRead).channel := by
      rw [Turn.channel_setRead]
      exact h.stopRead
    exact hsto
  | data hres hpos =>
    have hsame : Reading (t.setRead t.app.read).channel := h.setApp rfl
    dsimp only
    split_ifs
    · exact hsame.call (.transmitData _) id
    · exact hsame
  | eof => exact readEof_reading h
  | failed =>
    have hcld : Reading (t.call .close).channel := h.call .close id
    refine hcld.setApp ?_
    rw [Turn.channel_call, SshChannel.after, SshChannel.afterClose_eq]
    rfl

theorem channelForwardStartRead_reading
    (hsrc : t.channel.sendWindowSize ≠ 0 → 0 < t.channel.sources) :
    Reading (channelForwardStartRead t).channel := by
  rw [channelForwardStartRead]
  split_ifs with hwin
  · rw [Turn.channel_setRead]
    exact h.startRead (hsrc hwin)
  · exact h

variable {e : ChannelEvent}

section
variable (hstr : e = .start → t.channel.sendWindowSize ≠ 0 → 0 < t.channel.sources)
include hstr

/-- The events that all forwarded channels have in common. -/
theorem forwardEvent_reading : Leaves Reading (forwardEvent t e) := by
  cases e with
  | eof =>
    rw [forwardEvent, channelForwardEof.eq_def]
    split
    · trivial
    · split_ifs
      · exact channelForwardShutdown_reading h
      · exact h
  | stop =>
    show Reading (t.setRead t.app.read.channelIoStopRead).channel
    rw [Turn.channel_setRead]
    exact h.stopRead
  | start => exact channelForwardStartRead_reading h (hstr rfl)
  | _ => exact h

theorem doChannelForwardEvent_reading : Leaves Reading (doChannelForwardEvent t e) := by
  rw [doChannelForwardEvent]
  split_ifs
  · exact h.startIo
  · exact forwardEvent_reading h hstr

end

theorem doChannelForwardReceive_reading (err data res) :
    Leaves Reading (doChannelForwardReceive t err data res) := by
  rw [doChannelForwardReceive]
  split_ifs
  · exact h.setApp rfl
  · exact channelForwardWrite_reading h data res

theorem doKillChannelForward_reading : Reading (doKillChannelForward t).channel := by
  rw [channel_doKillChannelForward]
  split_ifs
  · exact h.killed
  · exact h

theorem socksStopWrite_reading (self) : Reading (socksStopWrite t self).channel := by
  rw [socksStopWrite]
  split_ifs
  · exact doKillChannelForward_reading h
  · exact h.setApp rfl

/-- `oop_write_socks`. -/
theorem oopWriteSocks_reading (self res) : Leaves Reading (oopWriteSocks t self res) := by
  rw [oopWriteSocks]
  cases t.app.write.apply (sshWriteFlush · 0 res) with
  | error e => trivial
  | ok r =>
    obtain ⟨done, write⟩ := r
    have hwr : Reading (t.setWrite write).channel := h.setApp rfl
    rw [ok_bind]
    dsimp only
    split
    · exact doKillChannelForward_reading hwr
    · split_ifs
      · exact socksStopWrite_reading hwr self
      · exact hwr

theorem socksReply_reading (self status res) : Leaves Reading (socksReply t self status res) := by
  rw [socksReply]
  split
  · trivial
  · rw [socksWrite]
    cases t.app.write.apply (sshWriteData · 0 _ res) with
    | error e => trivial
    | ok r =>
      obtain ⟨done, write⟩ := r
      have hwr : Reading (t.setWrite write).channel := h.setApp rfl
      rw [ok_bind]
      dsimp only
      split_ifs
      · exact doKillChannelForward_reading hwr
      · exact hwr.setApp rfl
      · exact socksStopWrite_reading hwr self

theorem doSocksChannelEvent_reading (self res)
    (hstr : e = .start → t.channel.sendWindowSize ≠ 0 → 0 < t.channel.sources) :
    Leaves Reading (doSocksChannelEvent t self e res) := by
  rw [doSocksChannelEvent.eq_def]
  split
  · refine (socksReply_reading h self 0 res).bind fun u hu => ?_
    have hsto := socksStopWrite_reading hu self
    refine Reading.startIo ?_
    split_ifs
    · exact hsto.call (.adjustRecWindow _) id
    · exact hsto
  · exact socksReply_reading h self 5 res
  · exact forwardEvent_reading h hstr

theorem x11Fail_reading (self) : Reading (x11Fail t self).channel :=
  (h.call .close id).setApp rfl

theorem x11Deny_reading (self) : Reading (x11Deny t self).channel := by
  refine x11Fail_reading ?_ self
  split_ifs
  · exact (h.call (.transmitData _) id).call .eof id
  · exact h

theorem x11GotLengths_reading (self res) : Leaves Reading (x11GotLengths t self res) := by
  rw [x11GotLengths]
  split_ifs
  · exact h.setApp rfl
  · have hstr := (h.call (.startReceive (x11WindowSize - UInt32.ofNat self.setupMessage.length))
      id).startIo
    exact (channelForwardWrite_reading hstr _ res).bind fun u hu => hu.setApp rfl
  · exact x11Deny_reading h self

theorem doClientChannelX11Receive_reading (self err data res) :
    Leaves Reading (doClientChannelX11Receive t self err data res) := by
  rw [doClientChannelX11Receive.eq_def]
  split_ifs
  · exact h.setApp rfl
  · refine (show Returns (fun _ => True) (require _ _) from ?_).bind fun _ _ => ?_
    · rw [require]
      split_ifs <;> trivial
    · dsimp only
      split
      · rw [x11Start.eq_def]
        split_ifs
        · exact h.setApp rfl
        · split
          · exact x11Fail_reading h _
          · dsimp only
            split_ifs
            · exact x11Fail_reading h _
            · exact x11GotLengths_reading h _ res
      · exact x11GotLengths_reading h _ res
      · trivial

end Functions

/-! ### Runs -/

/-- What arrives for a channel. -/
theorem Reading.arrives {notice : Option Notice} (h : Reading x) (harr : Arrives x y notice) :
    Reading y := by
  have hcld (hen : Ended x) : Ended (ChannelAction.effect .receiveClose x) := by
    rcases hen with hsent | hsent | _
    · exact .inl hsent
    · exact .inr (.inl hsent)
    · exact .inr (.inr rfl)
  cases harr with
  | close hguard => exact h.congr rfl rfl rfl hcld
  | _ => exact h.congr rfl rfl rfl id

/-- The program is told of WINDOW_ADJUST if it asked for that, and the channel has not ended. -/
theorem Arrives.of_sendAdjust {size : UInt32} {κ : Type} {x y : SshChannel κ}
    (h : Arrives x y (some (.sendAdjust size))) : y.sendAdjust = true ∧ ¬Ended y := by
  generalize hn : some (Notice.sendAdjust size) = notice at h
  cases h with
  | adjust size hguard =>
    split_ifs at hn with hcd
    obtain ⟨hrecv, hcl, heof⟩ := hguard
    refine ⟨hcd.2, ?_⟩
    rintro (hen | hen | hen)
    · exact Bool.eq_false_iff.mp heof hen
    · exact Bool.eq_false_iff.mp hcl hen
    · exact Bool.eq_false_iff.mp hrecv hen
  | reply success hpen | _ => cases hn

/-- START finds no channel that can send and has no source. -/
def StartsWithSource (x : SshChannel Forward) (n : Notice) : Prop :=
  n = .event .start → x.sendWindowSize ≠ 0 → 0 < x.sources

theorem forwardClass_reading :
    ClassRules forwardClass Reading (fun _ _ => True) StartsWithSource (fun _ _ => True) where
  closes hcls h := h.closes hcls
  silent harr h := h.arrives harr
  notice {x y n} harr h hn sys := by
    have hy : Reading (⟨[]⟩ : Turn y).channel := h.arrives harr
    have hstr {e : ChannelEvent} (he : n = .event e) :
        e = .start → y.sendWindowSize ≠ 0 → 0 < y.sources := by
      rintro rfl
      exact hn he
    refine Leaves.obeys ?_
    cases n with
    | event e =>
      exact forwardClass_event (fun self _ =>
        doSocksChannelEvent_reading hy self sys.write (hstr rfl))
        (doChannelForwardEvent_reading hy (hstr rfl))
    | receive err data =>
      exact forwardClass_receive (fun self =>
        doClientChannelX11Receive_reading hy self err data sys.write)
        (doChannelForwardReceive_reading hy err data sys.write)
    | sendAdjust size =>
      obtain ⟨hadj, hen⟩ := harr.of_sendAdjust
      have hsrc : 0 < y.sources := by
        by_contra hz0
        exact hen (hy.ended hadj (Nat.eq_zero_of_not_pos hz0))
      exact hy.startRead hsrc
    | request type want args => exact hy
  activity {x a} h _ := by
    have hx : Reading (⟨[]⟩ : Turn x).channel := h
    refine Leaves.obeys ?_
    exact forwardClass_activity hx (fun res _ => oopReadSocket_reading hx res)
      (fun res _ => oopWriteSocket_reading hx res) fun self res _ =>
      oopWriteSocks_reading hx self res

/-- A session, about which nothing is said. -/
theorem classRules_true {κ : Type} (C : ChannelClass κ) :
    ClassRules C (fun _ => True) (fun _ _ => True) (fun _ _ => True) (fun _ _ => True) where
  closes _ _ := trivial
  silent _ _ := trivial
  notice _ _ _ _ := (ensures_true _).mono fun t _ => ⟨trivial, obeys_true t⟩
  activity _ _ := (ensures_true _).mono fun t _ => ⟨trivial, obeys_true t⟩

/-- What holds of the channels of a connection. -/
def ReadingApp : SshChannel App → Prop := onKind Reading (fun _ => True) fun _ => True

/-- What START may find. -/
def StartsWithSourceApp : SshChannel App → Notice → Prop :=
  onKind StartsWithSource (fun _ _ => True) fun _ _ => True

theorem reading_rules :
    ProgramRules ReadingApp (fun _ _ => True) StartsWithSourceApp
      (onKind (fun _ _ => True) (fun _ _ => True) fun _ _ => True) (fun _ => True) := by
  refine ProgramRules.of_classes (T := fun _ _ => True)
    (fun _ _ _ _ => trivial) forwardClass_reading
    (classRules_true serverClass) (classRules_true clientClass) ?_ ?_
  · intro new info hnew ser i
    cases hnew with
    | forward sock => exact ⟨nofun, nofun, nofun⟩
    | socks h =>
      obtain ⟨y, hy, rfl⟩ := socksHandshake_waiting h
      refine ⟨fun hreg => ?_, fun hsome => hy.active hsome, nofun⟩
      exact absurd hreg hy.registered_ne
    | x11 fd h => exact ⟨nofun, nofun, nofun⟩
    | server requestTypes | client => trivial
  · rintro x sock info ser i rfl
    exact ⟨Reading.startIo (t := ⟨[]⟩) ⟨nofun, nofun, nofun⟩, obeys_true _⟩

instance (x : SshChannel Forward) (n : Notice) : Decidable (StartsWithSource x n) :=
  inferInstanceAs (Decidable (_ → _ → _))

instance (x : SshChannel App) (n : Notice) : Decidable (StartsWithSourceApp x n) :=
  inferInstanceAs (Decidable (onKind StartsWithSource (fun _ _ => True) (fun _ _ => True) x n))

/-- A forwarded channel that reads from its socket has a source, so that `channel_io_read` can be
called for it. -/
def ReadsWithSource (c : SshConnection App) : Prop :=
  ∀ i x data, channelAt c i = some x → x.app = .forward data →
    data.read.registered = some .oopReadSocket → 0 < x.sources ∧
      ∀ res, programStep c (.activity i (.read .oopReadSocket res)) ≠ .error (.assertion .sources)

/-- The condition on an event: START finds no forwarded channel that can send and has no source. -/
def StartGuard : SshConnection App → ProgramEvent → Prop :=
  ProgramGuard StartsWithSourceApp
    (onKind (fun _ _ => True) (fun _ _ => True) fun _ _ => True) (fun _ => True) fun _ _ => True

instance (c : SshConnection App) (event : ProgramEvent) : Decidable (StartGuard c event) :=
  inferInstanceAs (Decidable (ProgramGuard _ _ _ _ c event))

/-- With a source the assertion of `channel_io_read` holds. -/
theorem oopReadSocket_noAssertion {x : SshChannel Forward} {t : Turn x}
    (hsrc : 0 < t.channel.sources) (res) :
    Ensures (fun e => e ≠ .assertion .sources) (fun _ => True) (oopReadSocket t res) := by
  refine ((channelIoRead_ensures t t.app.read res).imp (fun e he => ?_) fun _ _ => trivial).bind
    fun r _ => ?_
  · exact absurd he.2 (Nat.pos_iff_ne_zero.mp hsrc)
  · dsimp only
    split_ifs <;> trivial

theorem performAll_noAssertion (c ops) :
    Ensures (fun e => e ≠ .assertion .sources) (fun _ => True) (performAll c ops) := by
  rw [performAll]
  cases run perform c ops with
  | ok d => trivial
  | error e => exact nofun

theorem AllChannels.readsWithSource {c : SshConnection App} (h : AllChannels ReadingApp c) :
    ReadsWithSource c := by
  intro i x data hx happ hreg
  have hrdg : Reading (x.map fun _ => data) := by
    have hx' := h i x hx
    rwa [ReadingApp, onKind, happ] at hx'
  have hsrc : 0 < x.sources := hrdg.source hreg
  refine ⟨hsrc, fun res hsp => ?_⟩
  have hcas : Ensures (fun e => e ≠ .assertion .sources) (fun _ => True)
      (activityCalls (.read .oopReadSocket res) x) := by
    rw [activityCalls, happ]
    dsimp only
    rw [ChannelClass.calls]
    have hclass : forwardClass.activity (.read .oopReadSocket res)
        (⟨[]⟩ : Turn (x.map fun _ => data)) =
        oopReadSocket ⟨[]⟩ res := if_pos ⟨hreg, rfl⟩
    rw [hclass]
    have hstr : 0 < (⟨[]⟩ : Turn (x.map fun _ => data)).channel.sources := hsrc
    exact (oopReadSocket_noAssertion hstr res).bind fun _ _ => trivial
  have hens : Ensures (fun e => e ≠ .assertion .sources) (fun _ => True)
      (programStep c (.activity i (.read .oopReadSocket res))) := by
    rw [programStep.eq_def]
    split_ifs
    · dsimp only
      rw [channelOps, hx]
      exact (Ensures.map (Q := fun _ => True) hcas fun _ _ => trivial).bind fun ops _ =>
        performAll_noAssertion c ops
    · trivial
  rw [hsp] at hens
  exact hens rfl

/-- **A forwarded channel that reads has a source**, in every run in which START finds no channel
that can send and has no source. -/
theorem run_programStep_reading (types requests : List Atom) (fallback : Bool)
    (events : List ProgramEvent)
    (hguard : Guarded programStep StartGuard (initSshConnection types requests fallback) events) :
    Ensures (fun _ => True) ReadsWithSource
      (run programStep (initSshConnection types requests fallback) events) := by
  have hrun := run_programStep_allChannels reading_rules types requests fallback hguard
  exact hrun.mono fun d hd => hd.readsWithSource

/-- A socket is accepted and a channel opened for it, which the other end confirms with a window.
The socket comes to its end, and reading is started again. -/
def restartAfterEof : List ProgramEvent :=
  [.accept 5 (lshString Atom.forwardedTcpip.octets) [],
    .receive [91, 0, 0, 0, 0, 0, 0, 0, 7, 0, 0, 1, 0, 0, 0, 1, 0] idleSystem,
    .activity 0 (.read .oopReadSocket .eof), .stop, .start]

/-- The callback is registered for a channel without sources, and the next call of it fails. -/
theorem run_programStep_restartAfterEof :
    ∃ c, run programStep (initSshConnection [] [] false) restartAfterEof = .ok c ∧
      (∃ x data, channelAt c 0 = some x ∧ x.app = .forward data ∧
        data.read.registered = some .oopReadSocket ∧ x.sources = 0) ∧
      programStep c (.activity 0 (.read .oopReadSocket .eof)) = .error (.assertion .sources) ∧
      ¬ReadsWithSource c := by
  have hchk : (run programStep (initSshConnection [] [] false) restartAfterEof).toOption.any
      (fun c => (channelAt c 0).any (onKind
          (fun x => decide (x.app.read.registered = some .oopReadSocket ∧ x.sources = 0))
          (fun _ => false) fun _ => false) &&
        decide (programStep c (.activity 0 (.read .oopReadSocket .eof)) =
          .error (.assertion .sources))) = true := by
    decide +kernel
  obtain ⟨c, hrun, hc⟩ := exists_ok_of_any hchk
  rw [Bool.and_eq_true, Option.any_eq_true] at hc
  obtain ⟨⟨x, hx, hread⟩, hsp⟩ := hc
  obtain ⟨data, happ, hreg, hsrc⟩ : ∃ data, x.app = .forward data ∧
      data.read.registered = some .oopReadSocket ∧ x.sources = 0 := by
    rw [onKind] at hread
    split at hread
    · rename_i data happ
      exact ⟨data, happ, of_decide_eq_true hread⟩
    · cases hread
    · cases hread
  have hfails := of_decide_eq_true hsp
  refine ⟨c, hrun, ⟨x, data, hx, happ, hreg, hsrc⟩, hfails, fun h => ?_⟩
  exact (h 0 x data hx happ hreg).2 .eof hfails

/-- The window is opened in two steps, and reading stopped and started between the data. -/
def restartWithSource : List ProgramEvent :=
  [.accept 5 (lshString Atom.forwardedTcpip.octets) [],
    .receive [91, 0, 0, 0, 0, 0, 0, 0, 7, 0, 0, 0, 4, 0, 0, 1, 0] idleSystem,
    .activity 0 (.read .oopReadSocket (.data 1 [2, 3])), .stop, .start,
    .activity 0 (.read .oopReadSocket (.data 4 [5, 6])),
    .activity 0 (.read .oopReadSocket .eof),
    .receive [93, 0, 0, 0, 0, 0, 0, 1, 0] idleSystem]

theorem run_programStep_reading_restart :
    Guarded programStep StartGuard (initSshConnection [] [] false) restartWithSource ∧
      ((run programStep (initSshConnection [] [] false) restartWithSource).toOption.any fun c =>
        (channelAt c 0).any fun x => decide (x.sources = 1 ∧ x.sendWindowSize = 256)) = true ∧
      Ensures (fun _ => True) ReadsWithSource
        (run programStep (initSshConnection [] [] false) restartWithSource) :=
  ⟨by decide +kernel, by decide +kernel,
    run_programStep_reading [] [] false restartWithSource (by decide +kernel)⟩

end Lsh.Channel
