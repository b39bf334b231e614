
import Lsh.Channel.ProgramSteps

/-!
# The receive window

What a channel may still receive, what waits in its write buffers, and what was ignored add up to
the initial window. Data takes from the window and is put into a buffer; when it has been written,
as much is credited to the window. As the buffers have the size of the window, they never overflow.

SOCKS channels and the X11 channels of the client use the buffer for octets of their own. A SOCKS
channel is opened with a margin of `SOCKS_MAX_SIZE`, which is returned when the channel is
confirmed. An X11 channel has a small window until its first message is complete. Then the window is
opened as far as the message with the real cookie leaves space in the buffer, and if that message is
larger than the buffer it is opened far too much.

## Main results

* `Balanced.credit`, `WriteMoves.balanced` — what is written is credited
* `run_programStep_accounted` — the window accounts for all data if the cookies are not too long
* `run_programStep_longCookie` — a cookie that does not fit the buffer
-/

namespace Lsh.Channel

open Machine Io Table List

/-! ### Balance -/

section Balance

variable {κ : Type} {x y z : SshChannel κ} {t : Turn x} {W n load rest : ℕ}

/-- Neither EOF nor CLOSE has been received, and CLOSE has not been sent. -/
def Live (x : SshChannel κ) : Prop :=
  x.flags.receivedEof = false ∧ x.flags.receivedClose = false ∧ x.flags.sentClose = false

/-- From `x` to `y` the window is the same, and the channel does not come to life again. -/
structure Still (x y : SshChannel κ) : Prop where
  window : y.recWindowSize = x.recWindowSize
  receive : y.receive = x.receive
  remote : y.remoteChannelNumber = none → x.remoteChannelNumber = none
  live : Live y → Live x

namespace Still

theorem refl (x : SshChannel κ) : Still x x := ⟨rfl, rfl, id, id⟩

theorem trans (h : Still x y) (h' : Still y z) : Still x z :=
  ⟨h'.window.trans h.window, h'.receive.trans h.receive, h.remote ∘ h'.remote, h.live ∘ h'.live⟩

theorem of_closes (h : Closes x y) : Still x y := by
  obtain ⟨sentClose, sentEof, rfl, hcl, _⟩ := h
  refine ⟨rfl, rfl, id, fun hlv => ⟨hlv.1, hlv.2.1, ?_⟩⟩
  by_contra hsent
  have hsent' := hcl (Bool.eq_true_of_not_eq_false hsent)
  rw [show sentClose = false from hlv.2.2] at hsent'
  cases hsent'

theorem setApp (h : Still y t.channel) (app) : Still y (t.setApp app).channel := by
  rw [Turn.channel_setApp]
  exact h.trans ⟨rfl, rfl, id, id⟩

theorem setSinks (h : Still y t.channel) (n) : Still y (t.setSinks n).channel := by
  rw [Turn.channel_setSinks]
  exact h.trans ⟨rfl, rfl, id, id⟩

theorem setSources (h : Still y t.channel) (n) : Still y (t.setSources n).channel := by
  rw [Turn.channel_setSources]
  exact h.trans ⟨rfl, rfl, id, id⟩

end Still

/-- A call that leaves the window and the data of the program alone. -/
def Call.IsPlain : Call κ → Prop
  | .adjustRecWindow _ => False
  | .startReceive _ => False
  | .update _ => False
  | _ => True

theorem still_after (call : Call κ) (hcall : call.IsPlain) :
    Still x (x.after call) ∧ (x.after call).app = x.app := by
  cases call with
  | adjustRecWindow written | startReceive w | update u => exact hcall.elim
  | transmitData data | transmitExtended type data => exact ⟨⟨rfl, rfl, id, id⟩, rfl⟩
  | eof => exact ⟨.of_closes x.closes_afterEof, x.closes_afterEof.app_eq⟩
  | close => exact ⟨.of_closes x.closes_afterClose, x.closes_afterClose.app_eq⟩
  | maybeClose => exact ⟨.of_closes x.closes_afterMaybeClose, x.closes_afterMaybeClose.app_eq⟩
  | sendRequest type want args =>
    rw [SshChannel.after]
    split_ifs
    · exact ⟨Still.refl x, rfl⟩
    · cases want with
      | true => exact ⟨⟨rfl, rfl, id, id⟩, rfl⟩
      | false => exact ⟨Still.refl x, rfl⟩
  | requestReply want res => exact ⟨Still.refl x, rfl⟩
  | kill => exact ⟨⟨rfl, rfl, id, id⟩, rfl⟩

theorem startReceive_frame (x : SshChannel κ) (w) :
    (x.after (.startReceive w)).app = x.app ∧ (x.after (.startReceive w)).flags = x.flags := by
  rw [SshChannel.after]
  split_ifs <;> exact ⟨rfl, rfl⟩

theorem Still.call (h : Still y t.channel) (call : Call κ) (hcall : call.IsPlain) :
    Still y (t.call call).channel := by
  rw [Turn.channel_call]
  exact h.trans (still_after call hcall).1

theorem app_call (call : Call κ) (hcall : call.IsPlain) :
    (t.call call).channel.app = t.channel.app := by
  rw [Turn.channel_call]
  exact (still_after call hcall).2

/-- The window and the load make `W`, as long as the channel is live. -/
structure Balanced (W : ℕ) (x : SshChannel κ) (load : ℕ) : Prop where
  le : x.recWindowSize.toNat ≤ W
  eq : Live x → x.recWindowSize.toNat + load = W

namespace Balanced

theorem still (h : Balanced W x load) (hs : Still x y) : Balanced W y load := by
  constructor
  · rw [hs.window]
    exact h.le
  · rw [hs.window]
    exact fun hlv => h.eq (hs.live hlv)

/-- The channel is not live any more. -/
theorem of_not_live (h : x.recWindowSize.toNat ≤ W) (hlv : ¬Live x) : Balanced W x load :=
  ⟨h, fun hx => absurd hx hlv⟩

/-- **`channel_adjust_rec_window`.** -/
theorem credit (h : Balanced W x (load + n)) (hW : W < 2 ^ 32) :
    Balanced W (x.after (.adjustRecWindow (UInt32.ofNat n))) load := by
  rw [SshChannel.after]
  split_ifs with hcd
  · have hlv : Live x := by simpa [Live] using hcd.2
    have heq := h.eq hlv
    have hn : (UInt32.ofNat n).toNat = n := UInt32.toNat_ofNat_of_lt' (show n < 2 ^ 32 by omega)
    have hsum : (x.recWindowSize + UInt32.ofNat n).toNat = x.recWindowSize.toNat + n := by
      rw [UInt32.toNat_add, hn]
      exact Nat.mod_eq_of_lt (by omega)
    constructor
    · show (x.recWindowSize + UInt32.ofNat n).toNat ≤ W
      omega
    · intro _
      show (x.recWindowSize + UInt32.ofNat n).toNat + load = W
      omega
  · refine ⟨h.le, fun hlv => ?_⟩
    have heq := h.eq hlv
    have hz0 : UInt32.ofNat n = 0 := by
      by_contra hne
      exact hcd ⟨hne, by simpa [Live] using hlv⟩
    have hn : n = 0 := by
      rw [← UInt32.toNat_ofNat_of_lt' (show n < 2 ^ 32 by omega), hz0]
      rfl
    omega

/-- **`channel_start_receive`**, before anything has been received. -/
theorem start {w : UInt32} (hz0 : x.recWindowSize = 0) (hw : w.toNat + load = W) :
    Balanced W (x.after (.startReceive w)) load := by
  have hwin : (x.after (.startReceive w)).recWindowSize = w := by
    rw [SshChannel.after]
    split_ifs with hlt
    · show x.recWindowSize + (w - x.recWindowSize) = w
      rw [hz0]
      simp
    · rw [hz0] at hlt ⊢
      have hle := UInt32.not_lt.mp hlt
      exact UInt32.le_antisymm UInt32.zero_le hle
  constructor
  · rw [hwin]
    omega
  · rw [hwin]
    exact fun _ => hw

/-- Data arrives, and is a load. -/
theorem data (h : Balanced W x load) (htk : TakesData x) {data : Octets}
    (hle : data.length ≤ x.recWindowSize.toNat) :
    Balanced W (ChannelAction.effect (.receiveData (UInt32.ofNat data.length)) x)
      (load + data.length) := by
  have hlt := x.recWindowSize.toNat_lt
  have hlen : (UInt32.ofNat data.length).toNat = data.length :=
    UInt32.toNat_ofNat_of_lt' (show data.length < 2 ^ 32 by omega)
  have hsub : (x.recWindowSize - UInt32.ofNat data.length).toNat =
      x.recWindowSize.toNat - data.length := by
    rw [UInt32.toNat_sub_of_le _ _ (UInt32.le_iff_toNat_le.mpr (by omega)), hlen]
  have heq := h.eq htk.2
  constructor
  · show (x.recWindowSize - UInt32.ofNat data.length).toNat ≤ W
    omega
  · intro _
    show (x.recWindowSize - UInt32.ofNat data.length).toNat + (load + data.length) = W
    omega

end Balanced

section Write

variable {file : WriteState} {data : Octets} {r : IoStatus × WriteState × Turn x}

section
variable (hr : WriteMoves t file data r)
include hr

/-- The function credits what has left the buffer. -/
theorem WriteMoves.balanced (hW : W < 2 ^ 32)
    (h : Balanced W t.channel (file.buffered.length + data.length + rest)) :
    Balanced W r.2.2.channel (r.2.1.buffered.length + rest) := by
  cases hr with
  | blocked hmv =>
    have hlen := hmv.length_eq
    exact ⟨h.le, fun hlv => by have heq := h.eq hlv; dsimp only; omega⟩
  | credited hmv hsta =>
    have hlen := hmv.length_eq
    rw [Turn.channel_call]
    refine Balanced.credit ⟨h.le, fun hlv => ?_⟩ hW
    have heq := h.eq hlv
    dsimp only
    omega
  | failed hmv =>
    have hlen := hmv.length_eq
    have hsti := (Still.refl t.channel).call .close trivial
    refine Balanced.still ⟨h.le, fun hlv => ?_⟩ hsti
    have heq := h.eq hlv
    dsimp only
    omega

/-- The rest of the object is left alone. -/
theorem WriteMoves.frame :
    r.2.2.channel.app = t.channel.app ∧ r.2.2.channel.receive = t.channel.receive ∧
      r.2.2.channel.remoteChannelNumber = t.channel.remoteChannelNumber ∧
      (Live r.2.2.channel → Live t.channel) := by
  cases hr with
  | blocked hmv => exact ⟨rfl, rfl, rfl, id⟩
  | credited hmv hsta =>
    rw [Turn.channel_call, SshChannel.after]
    split_ifs <;> exact ⟨rfl, rfl, rfl, id⟩
  | failed hmv =>
    have hcl := (Still.refl t.channel).call .close trivial
    refine ⟨app_call .close trivial, hcl.receive, ?_, hcl.live⟩
    rw [Turn.channel_call, SshChannel.after, SshChannel.afterClose_eq]

theorem WriteMoves.moves : ∃ n, Moves file data n r.2.1 := by
  cases hr with
  | blocked hmv | credited hmv hsta | failed hmv => exact ⟨_, hmv⟩

end

end Write

/-- Reading leaves the window and the data of the program alone. -/
theorem channelIoRead_still (t : Turn x) (file res) :
    Returns
      (fun r => Still t.channel r.2.2.2.channel ∧ r.2.2.2.channel.app = t.channel.app)
      (channelIoRead t file res) := by
  refine (channelIoRead_ensures t file res).imp (fun _ _ => trivial) fun r hr => ?_
  cases hr with
  | stopped hz0 | data hres hpos => exact ⟨Still.refl _, rfl⟩
  | eof =>
    have hsrc := (Still.refl t.channel).setSources (t.channel.sources - 1)
    have happ : (t.setSources (t.channel.sources - 1)).channel.app = t.channel.app := by simp
    rw [readEof]
    split_ifs
    · exact ⟨hsrc.call _ trivial, (app_call .eof trivial).trans happ⟩
    · exact ⟨hsrc, happ⟩
  | failed => exact ⟨(Still.refl _).call _ trivial, app_call .close trivial⟩

/-- `channel_write_state_close` leaves the buffer alone. -/
theorem channelWriteStateClose_still (t : Turn x) (file) :
    Returns
      (fun r => (Still t.channel r.2.channel ∧ r.2.channel.app = t.channel.app) ∧
        r.1.state = file.state ∧ r.1.overflowed = file.overflowed)
      (channelWriteStateClose t file) := by
  rw [channelWriteStateClose]
  split_ifs
  · refine (ensures_true _).bind fun _ _ => ?_
    have hsks := (Still.refl t.channel).setSinks (t.channel.sinks - 1)
    have happ : (t.setSinks (t.channel.sinks - 1)).channel.app = t.channel.app := by simp
    exact ⟨⟨hsks.call _ trivial, (app_call .maybeClose trivial).trans happ⟩, rfl, rfl⟩
  · exact ⟨⟨Still.refl _, rfl⟩, rfl, rfl⟩

/-- What arrives and is not data leaves the window alone. -/
theorem Arrives.still {notice : Option Notice} (h : Arrives x y notice)
    (hdata : ∀ stderr data, notice ≠ some (.receive stderr data)) : Still x y := by
  cases h with
  | adjust size hguard => exact ⟨rfl, rfl, id, id⟩
  | data stderr htk hne hle => exact absurd rfl (hdata _ _)
  | eof hguard => exact ⟨rfl, rfl, id, fun hlv => nomatch hlv.1⟩
  | close hguard => exact ⟨rfl, rfl, id, fun hlv => nomatch hlv.2.1⟩
  | confirm remote window maxPacket hrem hfl => exact ⟨rfl, rfl, fun _ => hrem, id⟩
  | reply success hpen => exact ⟨rfl, rfl, id, id⟩
  | _ => exact Still.refl x

/-- Data arrives for a live channel, within its window. -/
theorem Arrives.takesData {stderr : Bool} {data : Octets}
    (h : Arrives x y (some (.receive stderr data))) :
    TakesData x ∧ data ≠ [] ∧ data.length ≤ x.recWindowSize.toNat ∧
      y = ChannelAction.effect (.receiveData (UInt32.ofNat data.length)) x := by
  generalize hn : some (Notice.receive stderr data) = notice at h
  cases h with
  | data stderr htk hne hle =>
    cases hn
    exact ⟨htk, hne, hle, rfl⟩
  | adjust size hguard => split_ifs at hn; cases hn
  | reply success hpen | _ => cases hn

/-- The answer to an open request arrives for a channel without a number at the other end. -/
theorem Arrives.remote_eq_none {e : ChannelEvent} (h : Arrives x y (some (.event e)))
    (he : e = .confirm ∨ e = .deny) :
    x.remoteChannelNumber = none := by
  generalize hn : some (Notice.event e) = notice at h
  cases h with
  | confirm remote window maxPacket hrem hfl | deny hrem => exact hrem
  | adjust size hguard => split_ifs at hn; cases hn
  | reply success hpen =>
    cases hn
    cases success <;> rcases he with he | he <;> cases he
  | request type want args hhs | data stderr htk hne hle | unhandled => cases hn
  | _ => cases hn; rcases he with he | he <;> cases he

/-- With the confirmation comes the number at the other end. -/
theorem Arrives.remote_ne_none (h : Arrives x y (some (.event .confirm))) :
    y.remoteChannelNumber ≠ none := by
  generalize hn : some (Notice.event .confirm) = notice at h
  cases h with
  | confirm remote window maxPacket hrem hfl => exact nofun
  | adjust size hguard => split_ifs at hn; cases hn
  | reply success hpen => cases success <;> cases hn
  | _ => cases hn

end Balance

/-! ### Forwarded channels -/

section Forward

variable {x y z : SshChannel Forward} {t u : Turn z} {client : ClientX11} {file : WriteState}

/-- The message with the real cookie fits the buffer. -/
def SmallDisplay (display : ClientX11Display) : Prop :=
  x11SetupHeaderLength + display.authName.1.length + x11Pad display.authName.1.length +
    display.authData.1.length ≤ x11WindowSize.toNat

/-- There is space for a reply when a SOCKS channel is denied. -/
def RoomForReply (x : SshChannel Forward) (n : Notice) : Prop :=
  n = .event .deny → x.app.write.buffered.length ≤ 2

/-- A channel that forwards, or will when it is confirmed. -/
structure Forwards (x : SshChannel Forward) : Prop where
  receive_eq : x.app.receive = .channelForward
  confirmed : ∀ self, x.app.self = .socks self →
    x.receive ∧ x.remoteChannelNumber ≠ none
  uses : x.app.write.Uses .oopWriteSocket
  balanced : Balanced tcpipWindowSize.toNat x (x.app.write.buffered.length + x.app.discarded)

/-- A SOCKS channel that has not been confirmed. -/
structure Waits (x : SshChannel Forward) : Prop where
  receive_eq : x.app.receive = .channelForward
  socks : ∃ self, x.app.self = .socks self ∧ self.state = .commandWait
  receive_false : x.receive = false
  uses : x.app.write.Uses .oopWriteSocks
  window : x.recWindowSize.toNat + socksMaxSize.toNat = tcpipWindowSize.toNat
  length_le : x.app.write.buffered.length ≤ 12
  discarded_eq : x.app.discarded = 0

/-- An X11 channel that waits for its first message, apart from its window. -/
structure Collects (x : SshChannel Forward) (client : ClientX11) : Prop where
  receive_eq : x.app.receive = .clientX11
  self_eq : x.app.self = .clientX11 client
  remote : x.remoteChannelNumber ≠ none
  uses : x.app.write.Uses .oopWriteSocket
  buffered : x.app.write.buffered = []
  display : SmallDisplay client.display
  lengths : client.state = .gotLengths → client.nameLength ≤ 20 ∧ client.authLength ≤ 16

/-- An X11 channel that waits for its first message. -/
structure SetsUp (x : SshChannel Forward) (client : ClientX11) :
    Prop extends Collects x client where
  balanced : Balanced x11SetupMaxLength x (client.buffer.length + x.app.discarded)

/-- The write buffer has the size of the window, and has not overflowed. -/
structure SocketBuffer (x : SshChannel Forward) : Prop where
  state_isSome : x.app.write.state.isSome
  size_eq : x.app.write.size = tcpipWindowSize.toNat
  overflowed_eq : x.app.write.overflowed = false

/-- What holds of all forwarded channels. -/
structure ForwardWindow (x : SshChannel Forward) : Prop extends SocketBuffer x where
  phase : Forwards x ∨ Waits x ∨ ∃ client, SetsUp x client

/-- From `x` to `y`, only what is read has to do with it. -/
def Idle (x y : SshChannel Forward) : Prop :=
  Still x y ∧ ∃ read, y.app = { x.app with read := read }

namespace Idle

theorem refl (x : SshChannel Forward) : Idle x x := ⟨Still.refl x, x.app.read, rfl⟩

theorem of_still (h : Still x y) (happ : y.app = x.app) : Idle x y := ⟨h, x.app.read, happ⟩

theorem setRead (h : Idle x t.channel) (read) : Idle x (t.setRead read).channel := by
  obtain ⟨hsti, _, happ⟩ := h
  refine ⟨hsti.setApp _, read, ?_⟩
  rw [Turn.channel_setRead, happ]

theorem call (h : Idle x t.channel) (call : Call Forward) (hcall : call.IsPlain) :
    Idle x (t.call call).channel := by
  obtain ⟨hsti, read, happ⟩ := h
  exact ⟨hsti.call call hcall, read, (app_call call hcall).trans happ⟩

end Idle

theorem Forwards.idle (h : Forwards x) (hid : Idle x y) : Forwards y := by
  obtain ⟨hsti, read, happ⟩ := hid
  refine ⟨?_, fun self hself => ?_, ?_, ?_⟩
  · rw [happ]
    exact h.receive_eq
  · rw [happ] at hself
    obtain ⟨hrec, hrem⟩ := h.confirmed self hself
    exact ⟨hsti.receive.trans hrec, fun hno => hrem (hsti.remote hno)⟩
  · rw [happ]
    exact h.uses
  · rw [happ]
    exact h.balanced.still hsti

theorem Waits.idle (h : Waits x) (hid : Idle x y) : Waits y := by
  obtain ⟨hsti, read, happ⟩ := hid
  constructor
  · rw [happ]
    exact h.receive_eq
  · rw [happ]
    exact h.socks
  · exact hsti.receive.trans h.receive_false
  · rw [happ]
    exact h.uses
  · rw [hsti.window]
    exact h.window
  · rw [happ]
    exact h.length_le
  · rw [happ]
    exact h.discarded_eq

theorem Collects.idle (h : Collects x client) (hsti : Still x y)
    {read : ReadState} (happ : y.app = { x.app with read := read }) : Collects y client := by
  refine ⟨?_, ?_, fun hno => h.remote (hsti.remote hno), ?_, ?_, h.display, h.lengths⟩
  · rw [happ]
    exact h.receive_eq
  · rw [happ]
    exact h.self_eq
  · rw [happ]
    exact h.uses
  · rw [happ]
    exact h.buffered

theorem SetsUp.idle (h : SetsUp x client) (hid : Idle x y) : SetsUp y client := by
  obtain ⟨hsti, read, happ⟩ := hid
  refine ⟨h.toCollects.idle hsti happ, ?_⟩
  rw [happ]
  exact h.balanced.still hsti

theorem SocketBuffer.of_write (h : SocketBuffer x) (hwr : y.app.write = x.app.write) :
    SocketBuffer y := by
  constructor
  · rw [hwr]
    exact h.state_isSome
  · rw [hwr]
    exact h.size_eq
  · rw [hwr]
    exact h.overflowed_eq

theorem ForwardWindow.idle (h : ForwardWindow x) (hid : Idle x y) : ForwardWindow y := by
  obtain ⟨_, read, happ⟩ := id hid
  refine ⟨h.toSocketBuffer.of_write (by rw [happ]), ?_⟩
  rcases h.phase with hphase | hphase | ⟨client, hphase⟩
  · exact .inl (hphase.idle hid)
  · exact .inr (.inl (hphase.idle hid))
  · exact .inr (.inr ⟨client, hphase.idle hid⟩)

/-! ### Functions of forwarded channels -/

theorem channelForwardShutdown_idle (t : Turn z) :
    Returns (fun u : Turn z => Idle t.channel u.channel) (channelForwardShutdown t) := by
  refine (ensures_true _).bind fun _ _ => ?_
  have hsks : Idle t.channel (t.setSinks (t.channel.sinks - 1)).channel :=
    .of_still ((Still.refl _).setSinks _) (by simp)
  exact hsks.call .maybeClose trivial

theorem oopReadSocket_idle (t : Turn z) (res) :
    Returns (fun u : Turn z => Idle t.channel u.channel) (oopReadSocket t res) := by
  refine (channelIoRead_still t t.app.read res).bind fun r hr => ?_
  obtain ⟨stat, data, read, u⟩ := r
  have hread : Idle t.channel (u.setRead read).channel := (Idle.of_still hr.1 hr.2).setRead read
  dsimp only
  split_ifs
  · exact hread.call (.transmitData data) trivial
  · exact hread

theorem channelForwardStartRead_idle (t : Turn z) :
    Idle t.channel (channelForwardStartRead t).channel := by
  rw [channelForwardStartRead]
  split_ifs
  · exact (Idle.refl _).setRead _
  · exact Idle.refl _

/-- The events that all forwarded channels have in common. -/
theorem forwardEvent_idle (t e) :
    Returns (fun u : Turn z => Idle t.channel u.channel) (forwardEvent t e) := by
  cases e with
  | eof =>
    rw [forwardEvent, channelForwardEof.eq_def]
    split
    · trivial
    · split_ifs
      · exact channelForwardShutdown_idle t
      · exact Idle.refl _
  | stop => exact (Idle.refl _).setRead _
  | start => exact channelForwardStartRead_idle t
  | _ => exact Idle.refl _

/-- `channel_forward_start_io`. -/
theorem channelForwardStartIo_eq (t : Turn z) :
    ∃ read sendAdjust sources sinks, (channelForwardStartIo t).channel =
      { t.channel with
        receive := true, sendAdjust := sendAdjust, sources := sources, sinks := sinks
        app := { t.channel.app with receive := .channelForward, read := read } } := by
  rw [channelForwardStartIo, channelForwardStartRead]
  split_ifs
  · rw [Turn.channel_setRead, Turn.channel_set]
    exact ⟨_, _, _, _, rfl⟩
  · rw [Turn.channel_set]
    exact ⟨_, _, _, _, rfl⟩

/-- The channel forwards. -/
theorem Forwards.startIo (hus : t.channel.app.write.Uses .oopWriteSocket)
    (hrem : ∀ self, t.channel.app.self = .socks self → t.channel.remoteChannelNumber ≠ none)
    (hbld : Balanced tcpipWindowSize.toNat t.channel
      (t.channel.app.write.buffered.length + t.channel.app.discarded)) :
    Forwards (channelForwardStartIo t).channel ∧
      (channelForwardStartIo t).channel.app.write = t.channel.app.write := by
  obtain ⟨read, sendAdjust, sources, sinks, heq⟩ := channelForwardStartIo_eq t
  rw [heq]
  exact ⟨⟨rfl, fun self hself => ⟨rfl, hrem self hself⟩, hus, hbld.le, hbld.eq⟩, rfl⟩

variable {f : WriteCallback}

/-- The callbacks for the socket stay in use while it is written to. -/
theorem channelIoWrite_uses (h : file.Uses f) (t : Turn z) (data res) :
    Returns (fun r => r.2.1.Uses f) (channelIoWrite t file f data res) := by
  refine apply_uses.bind fun r hr => ?_
  dsimp only
  split_ifs
  · exact hr f h
  · exact (hr f h).startWrite
  · exact .inl (hr f h).registered_stopWrite

theorem channelIoFlush_uses (h : file.Uses f) (t : Turn z) (res) :
    Returns (fun r => r.2.1.Uses f) (channelIoFlush t file res) := by
  refine apply_uses.bind fun r hr => ?_
  dsimp only
  split
  · split_ifs
    · exact .inl (hr f h).registered_stopWrite
    · exact hr f h
  · exact hr f h
  · exact hr f h

/-- A channel that forwards, apart from its window and its buffer. -/
structure Opened (x : SshChannel Forward) : Prop where
  receive_eq : x.app.receive = .channelForward
  confirmed : ∀ self, x.app.self = .socks self →
    x.receive ∧ x.remoteChannelNumber ≠ none

theorem Forwards.opened (h : Forwards x) : Opened x := ⟨h.receive_eq, h.confirmed⟩

section
variable (h : SocketBuffer t.channel)
include h

/-- What has been written to the socket of a channel that forwards. -/
theorem afterWriteSocket_window {data : Octets} {r : IoStatus × WriteState × Turn z}
    (hopd : Opened t.channel)
    (hbld : Balanced tcpipWindowSize.toNat t.channel
      (t.channel.app.write.buffered.length + data.length + t.channel.app.discarded))
    (hr : WriteMoves t t.channel.app.write data r) (hus : r.2.1.Uses .oopWriteSocket) :
    Returns (fun u : Turn z => SocketBuffer u.channel ∧ Forwards u.channel)
      (afterWriteSocket r) := by
  obtain ⟨n, hmv⟩ := hr.moves
  obtain ⟨happ, hrec, hrem, hlv⟩ := hr.frame
  have hbal := hr.balanced (W := tcpipWindowSize.toNat) (by decide) hbld
  have hfws : Forwards (r.2.2.setWrite r.2.1).channel := by
    rw [Turn.channel_setWrite, happ]
    refine ⟨hopd.receive_eq, fun self hself => ?_, hus, hbal.le, hbal.eq⟩
    obtain ⟨htr, hne⟩ := hopd.confirmed self hself
    exact ⟨hrec.trans htr, fun hno => hne (hrem.symm.trans hno)⟩
  have hbfr : SocketBuffer (r.2.2.setWrite r.2.1).channel := by
    rw [Turn.channel_setWrite]
    exact ⟨hmv.state_isSome, hmv.size_eq.trans h.size_eq, hmv.overflowed_eq.trans h.overflowed_eq⟩
  rw [afterWriteSocket]
  split_ifs
  · refine (channelForwardShutdown_idle _).mono fun u hu => ⟨?_, hfws.idle hu⟩
    obtain ⟨_, read, hu⟩ := hu
    exact hbfr.of_write (by rw [hu])
  · exact ⟨hbfr, hfws⟩

/-- A channel that forwards has space for data that fits the window. -/
theorem channelForwardWrite_window {data : List UInt8} (hopd : Opened t.channel)
    (hus : t.channel.app.write.Uses .oopWriteSocket) (hdata : data ≠ []) (hlv : Live t.channel)
    (hbld : Balanced tcpipWindowSize.toNat t.channel
      (t.channel.app.write.buffered.length + data.length + t.channel.app.discarded)) (res) :
    Returns (fun u : Turn z => SocketBuffer u.channel ∧ Forwards u.channel)
      (channelForwardWrite t data res) := by
  have heq := hbld.eq hlv
  have hsize := h.size_eq
  have hspc : t.channel.app.write.buffered.length + data.length ≤ t.channel.app.write.size := by
    omega
  have hwr := (channelIoWrite_ensures h.state_isSome hspc hdata t .oopWriteSocket res).and
    (channelIoWrite_uses hus t data res)
  refine hwr.of_total.bind fun r hr => ?_
  exact afterWriteSocket_window h hopd hbld hr.1 hr.2

/-- `oop_write_socket`. -/
theorem oopWriteSocket_window (hfws : Forwards t.channel)
    (res : WriteResult) :
    Leaves ForwardWindow (oopWriteSocket t res) := by
  by_cases hbuf : t.channel.app.write.buffered = []
  · exact (channelIoFlush_of_nil hbuf t res).bind fun _ hfls => hfls.elim
  · have hfl := (channelIoFlush_ensures hbuf t res).and (channelIoFlush_uses hfws.uses t res)
    have hbld : Balanced tcpipWindowSize.toNat t.channel
        (t.channel.app.write.buffered.length + ([] : Octets).length + t.channel.app.discarded) :=
      hfws.balanced
    refine hfl.of_total.bind fun r hr => ?_
    exact (afterWriteSocket_window h hfws.opened hbld hr.1 hr.2).mono fun u hu => ⟨hu.1, .inl hu.2⟩

end

variable {k : ℕ}

/-- Octets are added to the write buffer of a SOCKS channel, or written. -/
theorem Waits.sends (h : Waits x) (hsds : Sends x k y)
    (hle : x.app.write.buffered.length + k ≤ 12) :
    Waits y := by
  have hlen := hsds.length_le
  have hus := hsds.uses h.uses
  obtain ⟨_, _, _, rfl⟩ := hsds.rest
  exact ⟨h.receive_eq, h.socks, h.receive_false, hus, h.window, hlen.trans hle, h.discarded_eq⟩

theorem SocketBuffer.sends (h : SocketBuffer x) (hsds : Sends x k y) : SocketBuffer y :=
  ⟨hsds.state_isSome, hsds.size_eq.trans h.size_eq, hsds.overflowed_eq.trans h.overflowed_eq⟩

section
variable (h : SocketBuffer t.channel)
include h

/-- `socks_reply`. -/
theorem socksReply_sends (hlen : t.channel.app.write.buffered.length ≤ 12) (self status res) :
    Returns (fun u : Turn z => Sends t.channel 10 u.channel) (socksReply t self status res) := by
  rw [socksReply]
  cases hdata : socksReplyOctets self.version status with
  | none => trivial
  | some data =>
    obtain ⟨hne, hle⟩ := length_socksReplyOctets hdata
    have hspc : t.channel.app.write.buffered.length + data.length ≤ t.channel.app.write.size := by
      have hW : tcpipWindowSize.toNat = 10000 := rfl
      have hsize := h.size_eq
      omega
    refine (socksWrite_sends h.state_isSome hspc hne self res).of_total.mono fun u hu => ?_
    exact ⟨hu.rest, hu.size_eq, hu.overflowed_eq, hu.state_isSome, hu.length_le.trans (by omega),
      hu.kept,
      hu.uses⟩

/-- `oop_write_socks`. -/
theorem oopWriteSocks_window (hwts : Waits t.channel) (self res) :
    Leaves ForwardWindow (oopWriteSocks t self res) := by
  by_cases hbuf : t.channel.app.write.buffered = []
  · exact (apply_flush_of_nil hbuf res).bind fun _ hfls => hfls.elim
  · refine (oopWriteSocks_sends hbuf self res).of_total.mono fun u hu => ?_
    exact ⟨h.sends hu, .inr (.inl (hwts.sends hu hwts.length_le))⟩

/-- A SOCKS channel is confirmed: the margin is returned but for the octets that are still to be
written. -/
theorem doSocksChannelEvent_confirm {self : Socks} (hwts : Waits t.channel)
    (hrmt : t.channel.remoteChannelNumber ≠ none) (hself : self.state = .commandWait) (res) :
    Leaves ForwardWindow (doSocksChannelEvent t self .confirm res) := by
  refine (socksReply_sends h hwts.length_le self 0 res).bind fun u hu => ?_
  rw [ensures_pure]
  have hsto : (socksStopWrite u self).channel =
      { u.channel with
        app := { u.channel.app with write := u.channel.app.write.channelIoStopWrite } } := by
    rw [socksStopWrite, if_neg (by rw [hself]; simp), Turn.channel_setWrite]
    rfl
  obtain ⟨alive, read, write, hre⟩ := hu.rest
  have hus := hu.uses hwts.uses
  have hlen := hu.length_le
  have hwt := hwts.length_le
  generalize socksStopWrite u self = v at hsto ⊢
  -- the octets that are still to be written
  obtain ⟨b, hb⟩ : ∃ b, b = u.channel.app.write.buffered.length := ⟨_, rfl⟩
  have hvb : v.app.write.buffered.length = b := by
    rw [Turn.app, hsto, hb]
    exact congrArg List.length (WriteState.buffered_stopWrite _)
  have hlef : socksMaxSize - UInt32.ofNat v.app.write.buffered.length = UInt32.ofNat (262 - b) := by
    have hlt : b < 2 ^ 32 := by omega
    rw [hvb, ← UInt32.toNat_inj, UInt32.toNat_sub_of_le _ _ (UInt32.le_iff_toNat_le.mpr (by
        rw [UInt32.toNat_ofNat_of_lt' hlt]
        show b ≤ 262
        omega)),
      UInt32.toNat_ofNat_of_lt' hlt,
      UInt32.toNat_ofNat_of_lt' (show 262 - b < 2 ^ 32 by omega)]
    rfl
  have hpos : 0 < UInt32.ofNat (262 - b) := by
    rw [UInt32.lt_iff_toNat_lt, UInt32.toNat_ofNat_of_lt' (show 262 - b < 2 ^ 32 by omega)]
    show 0 < 262 - b
    omega
  rw [hlef, if_pos hpos]
  have hwin : v.channel.recWindowSize = t.channel.recWindowSize := by
    rw [hsto, hre]
  have hbld : Balanced tcpipWindowSize.toNat v.channel (b + (262 - b)) := by
    have hmg : t.channel.recWindowSize.toNat + 262 = tcpipWindowSize.toNat := hwts.window
    constructor
    · rw [hwin]
      omega
    · rw [hwin]
      intro _
      omega
  have hcrd := hbld.credit (by decide)
  rw [← Turn.channel_call] at hcrd
  have happ : (v.call (.adjustRecWindow (UInt32.ofNat (262 - b)))).channel.app = v.channel.app := by
    rw [Turn.channel_call, SshChannel.after]
    split_ifs <;> rfl
  have hrem : (v.call (.adjustRecWindow (UInt32.ofNat (262 - b)))).channel.remoteChannelNumber =
      t.channel.remoteChannelNumber := by
    have hv : v.channel.remoteChannelNumber = t.channel.remoteChannelNumber := by rw [hsto, hre]
    rw [Turn.channel_call, SshChannel.after]
    split_ifs <;> exact hv
  have hdis : v.channel.app.discarded = 0 := by
    rw [hsto, hre]
    exact hwts.discarded_eq
  obtain ⟨hfws, hwr⟩ := Forwards.startIo
    (t := v.call (.adjustRecWindow (UInt32.ofNat (262 - b))))
    (by rw [happ, hsto]; exact .inl hus.registered_stopWrite)
    (fun _ _ => by rw [hrem]; exact hrmt)
    (by
      rw [happ, hdis]
      show Balanced _ _ (v.app.write.buffered.length + 0)
      rw [hvb]
      exact hcrd)
  refine ⟨⟨?_, ?_, ?_⟩, .inl hfws⟩
  · rw [hwr, happ, hsto]
    exact (congrArg Option.isSome (WriteState.state_stopWrite _)).trans hu.state_isSome
  · rw [hwr, happ, hsto]
    exact (WriteState.size_stopWrite _).trans (hu.size_eq.trans h.size_eq)
  · rw [hwr, happ, hsto]
    exact (WriteState.overflowed_stopWrite _).trans (hu.overflowed_eq.trans h.overflowed_eq)

end

variable {e : ChannelEvent} {self : Socks}

theorem doSocksChannelEvent_of_ne {res : WriteResult} (hcf : e ≠ .confirm) (hdy : e ≠ .deny) :
    doSocksChannelEvent t self e res = forwardEvent t e := by
  cases e with
  | confirm => exact absurd rfl hcf
  | deny => exact absurd rfl hdy
  | _ => rfl

/-- The events of a SOCKS channel that has not been confirmed. -/
theorem doSocksChannelEvent_waits (h : SocketBuffer t.channel) (hwts : Waits t.channel)
    (hself : self.state = .commandWait) (hrem : e = .confirm → t.channel.remoteChannelNumber ≠ none)
    (hrm : e = .deny → t.channel.app.write.buffered.length ≤ 2) (res) :
    Leaves ForwardWindow (doSocksChannelEvent t self e res) := by
  by_cases hcf : e = .confirm
  · subst hcf
    exact doSocksChannelEvent_confirm h hwts (hrem rfl) hself res
  by_cases hdy : e = .deny
  · subst hdy
    refine (socksReply_sends h hwts.length_le self 5 res).mono fun u hu => ?_
    have hlen := hrm rfl
    exact ⟨h.sends hu, .inr (.inl (hwts.sends hu (by omega)))⟩
  rw [doSocksChannelEvent_of_ne hcf hdy]
  have hwin : ForwardWindow t.channel := ⟨h, .inr (.inl hwts)⟩
  exact (forwardEvent_idle t e).mono fun u hu => hwin.idle hu

/-! ### X11 -/

section X11

variable {client self : ClientX11}

/-- The fields of an X11 channel are set while it waits for its first message. -/
theorem x11Set_window (h : SocketBuffer t.channel) (hcol : Collects t.channel client)
    (hdisplay : self.display = client.display)
    (hlens : self.state = .gotLengths → self.nameLength ≤ 20 ∧ self.authLength ≤ 16)
    (hsti : Still t.channel u.channel) (happ : u.channel.app = t.channel.app)
    (hbld : Balanced x11SetupMaxLength u.channel (self.buffer.length + t.channel.app.discarded)) :
    ForwardWindow (x11Set u self).channel := by
  rw [x11Set, Turn.channel_setSelf, happ]
  have hset : Collects
      { u.channel with app := { t.channel.app with self := .clientX11 self } } self := by
    refine ⟨hcol.receive_eq, rfl, fun hno => hcol.remote (hsti.remote hno),
      hcol.uses, hcol.buffered, ?_, hlens⟩
    rw [hdisplay]
    exact hcol.display
  exact ⟨{ h with }, .inr (.inr ⟨self, hset, hbld.le, hbld.eq⟩)⟩

variable (h : SocketBuffer t.channel) (hcol : Collects t.channel client)
  (hdisplay : self.display = client.display)
  (hle : t.channel.recWindowSize.toNat ≤ x11SetupMaxLength)
include h hcol hdisplay hle

/-- The channel is closed, and nothing is said about its window any more. -/
theorem x11Fail_window (hsti : Still t.channel u.channel) (happ : u.channel.app = t.channel.app) :
    ForwardWindow (x11Fail u self).channel := by
  have hcl : Still t.channel (u.call .close).channel := hsti.call _ trivial
  refine x11Set_window h hcol hdisplay (by simp) hcl ((app_call .close trivial).trans happ) ?_
  refine Balanced.of_not_live ?_ ?_
  · rw [hcl.window]
    exact hle
  · rw [Turn.channel_call, SshChannel.after, SshChannel.afterClose_eq]
    exact fun hlv => by cases hlv.2.2

/-- The cookie is wrong. -/
theorem x11Deny_window : ForwardWindow (x11Deny t self).channel := by
  rw [x11Deny]
  split_ifs
  · have hsent := (Still.refl t.channel).call (.transmitData self.failMessage) trivial
    exact x11Fail_window h hcol hdisplay hle (hsent.call .eof trivial)
      ((app_call .eof trivial).trans (app_call (.transmitData _) trivial))
  · exact x11Fail_window h hcol hdisplay hle (Still.refl _) rfl

omit h hcol hdisplay hle

/-- A message with the right cookie has the length that is reserved for it. -/
theorem length_of_cookiesMatch (hma : self.cookiesMatch) (hle : self.authLength ≤ 16) :
    self.length = 48 := by
  rw [ClientX11.cookiesMatch, decide_eq_true_eq] at hma
  obtain ⟨hnm, _, hfake⟩ := hma
  have hlen := congrArg List.length hfake
  rw [self.display.fake_length, length_take] at hlen
  have hauth : self.authLength = 16 := by omega
  rw [ClientX11.length, ClientX11.authOffset, hnm, hauth]
  rfl

theorem length_writeUint16 (littleEndian n) : (writeUint16 littleEndian n).length = 2 := by
  cases littleEndian <;> rfl

/-- The message with the real cookie fits the buffer. -/
theorem length_setupMessage (hsml : SmallDisplay self.display) :
    0 < self.setupMessage.length ∧ self.setupMessage.length ≤ x11WindowSize.toNat := by
  rw [SmallDisplay, x11SetupHeaderLength] at hsml
  rw [ClientX11.setupMessage]
  simp only [length_append, length_take, length_writeUint16, length_cons,
    length_nil, length_replicate, length_drop]
  omega

include h hcol hdisplay

variable (hlv : Live t.channel)
  (hbld : Balanced x11SetupMaxLength t.channel (self.buffer.length + t.channel.app.discarded))
include hlv hbld

/-- The cookie is right: the message is complete, so nothing is left of the small window, and the
window is opened as far as there is space. -/
theorem x11Allow_window (hma : self.cookiesMatch) (hauth : self.authLength ≤ 16)
    (hlen : self.length ≤ self.buffer.length) (res) :
    Leaves ForwardWindow (x11Allow t self res) := by
  have hsml : SmallDisplay self.display := by
    rw [hdisplay]
    exact hcol.display
  obtain ⟨hpos, hle⟩ := length_setupMessage hsml
  have heq : t.channel.recWindowSize.toNat + (self.buffer.length + t.channel.app.discarded) = 48 :=
    hbld.eq hlv
  have hlth := length_of_cookiesMatch hma hauth
  have hz0 : t.channel.recWindowSize = 0 := UInt32.toNat_inj.mp (by rw [UInt32.toNat_zero]; omega)
  have hW : x11WindowSize.toNat = 10000 := rfl
  have hW' : tcpipWindowSize.toNat = 10000 := rfl
  have hM : (UInt32.ofNat self.setupMessage.length).toNat = self.setupMessage.length :=
    UInt32.toNat_ofNat_of_lt' (show _ < 2 ^ 32 by omega)
  have hwin : (x11WindowSize - UInt32.ofNat self.setupMessage.length).toNat +
      self.setupMessage.length = tcpipWindowSize.toNat := by
    rw [UInt32.toNat_sub_of_le _ _ (UInt32.le_iff_toNat_le.mpr (by omega))]
    omega
  have hstr := Balanced.start hz0 hwin
  rw [← Turn.channel_call] at hstr
  generalize hv : t.call (.startReceive (x11WindowSize - UInt32.ofNat self.setupMessage.length)) = v
    at hstr
  have hfr : v.channel.app = t.channel.app ∧ v.channel.flags = t.channel.flags := by
    rw [← hv, Turn.channel_call]
    exact startReceive_frame _ _
  obtain ⟨read, sendAdjust, sources, sinks, hio⟩ := channelForwardStartIo_eq v
  rw [hfr.1] at hio
  rw [x11Allow, hv]
  generalize channelForwardStartIo v = w at hio ⊢
  have hopd : Opened w.channel := by
    rw [hio]
    exact ⟨rfl, fun _ hself => nomatch hcol.self_eq.symm.trans hself⟩
  have hliveW : Live w.channel := by
    rw [hio, Live]
    rw [hfr.2]
    exact hlv
  have hbw : Balanced tcpipWindowSize.toNat w.channel (w.channel.app.write.buffered.length +
      self.setupMessage.length + w.channel.app.discarded) := by
    have hdis : t.channel.app.discarded = 0 := by omega
    have hbuf : t.channel.app.write.buffered.length = 0 := by rw [hcol.buffered]; rfl
    rw [hio]
    rw [hdis, hbuf, Nat.zero_add]
    exact ⟨hstr.le, hstr.eq⟩
  have hwr := channelForwardWrite_window (h.of_write (by rw [hio])) hopd
    (by rw [hio]; exact hcol.uses) (ne_nil_of_length_pos hpos) hliveW hbw res
  refine hwr.bind fun u hu => ?_
  obtain ⟨hbfr, hfws⟩ := hu
  rw [ensures_pure, x11Set, Turn.channel_setSelf]
  exact ⟨{ hbfr with },
    .inl ⟨hfws.receive_eq, nofun, hfws.uses, hfws.balanced.le, hfws.balanced.eq⟩⟩

/-- The lengths are known. -/
theorem x11GotLengths_window (hlens : self.nameLength ≤ 20 ∧ self.authLength ≤ 16) (res) :
    Leaves ForwardWindow (x11GotLengths t self res) := by
  rw [x11GotLengths]
  split_ifs with hlen hma
  · exact x11Set_window h hcol hdisplay (fun _ => hlens) (Still.refl _) rfl hbld
  · exact x11Allow_window h hcol hdisplay hlv hbld hma hlens.2 (by omega) res
  · exact x11Deny_window h hcol hdisplay hbld.le

/-- The first octets of a message. -/
theorem x11Start_window (hst : self.state = .start) (res) :
    Leaves ForwardWindow (x11Start t self res) := by
  rw [x11Start.eq_def]
  split_ifs with hsh
  · refine x11Set_window h hcol hdisplay (fun hgot => ?_) (Still.refl _) rfl hbld
    rw [hst] at hgot
    cases hgot
  · split
    · exact x11Fail_window h hcol hdisplay hbld.le (Still.refl _) rfl
    · dsimp only
      split_ifs with hlg
      · refine x11Fail_window h hcol ?_ hbld.le (Still.refl _) rfl
        exact hdisplay
      · rw [not_or, not_lt, not_lt] at hlg
        refine x11GotLengths_window h hcol ?_ hlv ?_ hlg res
        · exact hdisplay
        · exact hbld

end X11

variable {data : Octets}

/-- `do_client_channel_x11_receive`, for data that has been taken from the window. -/
theorem doClientChannelX11Receive_window (h : SocketBuffer t.channel)
    (hcol : Collects t.channel client) (hlv : Live t.channel)
    (hbld : Balanced x11SetupMaxLength t.channel
      (client.buffer.length + t.channel.app.discarded + data.length)) (stderr res) :
    Leaves ForwardWindow (doClientChannelX11Receive t client stderr data res) := by
  rw [doClientChannelX11Receive.eq_def]
  split_ifs
  · show ForwardWindow (ignoreData t data).channel
    rw [ignoreData, Turn.channel_setApp]
    refine ⟨h.of_write rfl, .inr (.inr ⟨client, ?_, ?_⟩)⟩
    · exact { hcol with }
    · rw [Nat.add_assoc] at hbld
      exact ⟨hbld.le, hbld.eq⟩
  · refine (ensures_true _).bind fun _ _ => ?_
    have hld : Balanced x11SetupMaxLength t.channel
        ((client.buffer ++ data).length + t.channel.app.discarded) := by
      rw [length_append, Nat.add_right_comm]
      exact hbld
    have hdisplay : ({ client with buffer := client.buffer ++ data } : ClientX11).display =
        client.display := rfl
    dsimp only
    split
    · rename_i hst
      exact x11Start_window h hcol hdisplay hlv hld hst res
    · rename_i hst
      exact x11GotLengths_window h hcol hdisplay hlv hld (hcol.lengths hst) res
    · trivial

/-- Data arrives for a forwarded channel. -/
theorem forwardReceive_window {stderr : Bool} (h : ForwardWindow x)
    (harr : Arrives x y (some (.receive stderr data))) (sys) :
    Leaves ForwardWindow (forwardClass.notice sys (.receive stderr data) (⟨[]⟩ : Turn y)) := by
  obtain ⟨htk, hne, hle, rfl⟩ := harr.takesData
  have hbfr : SocketBuffer (ChannelAction.effect (.receiveData (UInt32.ofNat data.length)) x) :=
    h.toSocketBuffer.of_write rfl
  have happ : (⟨[]⟩ : Turn (ChannelAction.effect (.receiveData (UInt32.ofNat data.length)) x)).app =
    x.app := rfl
  simp only [forwardClass, happ]
  rcases h.phase with hfws | hwts | ⟨client, hset⟩
  · have hbld := hfws.balanced.data htk hle
    rw [hfws.receive_eq]
    rw [doChannelForwardReceive]
    split_ifs
    · rw [Nat.add_assoc] at hbld
      exact ⟨hbfr.of_write rfl, .inl ⟨hfws.receive_eq, hfws.confirmed, hfws.uses, hbld.le, hbld.eq⟩⟩
    · rw [Nat.add_right_comm] at hbld
      exact (channelForwardWrite_window (t := ⟨[]⟩) hbfr
        ⟨hfws.receive_eq, hfws.confirmed⟩ hfws.uses hne htk.2 hbld
        sys.write).mono fun u hu => ⟨hu.1, .inl hu.2⟩
  · have hfls := htk.1
    rw [hwts.receive_false] at hfls
    cases hfls
  · rw [hset.receive_eq, hset.self_eq]
    have hcol := hset.toCollects
    exact doClientChannelX11Receive_window (t := ⟨[]⟩) hbfr
      { hcol with } htk.2 (hset.balanced.data htk hle) stderr sys.write

/-- An event for a forwarded channel. -/
theorem forwardEvent_window (h : ForwardWindow x) (harr : Arrives x y (some (.event e)))
    (hrm : RoomForReply y (.event e)) (sys) :
    Leaves ForwardWindow (forwardClass.notice sys (.event e) (⟨[]⟩ : Turn y)) := by
  have hsti := harr.still (by simp)
  have hid : Idle x y := .of_still hsti harr.app_eq
  have hy : ForwardWindow (⟨[]⟩ : Turn y).channel := h.idle hid
  have hnop (hrem : x.remoteChannelNumber ≠ none) : e ≠ .confirm ∧ e ≠ .deny :=
    ⟨fun he => hrem (harr.remote_eq_none (.inl he)), fun he => hrem (harr.remote_eq_none (.inr he))⟩
  have happ : (⟨[]⟩ : Turn y).app = x.app := harr.app_eq
  simp only [forwardClass, happ]
  rcases h.phase with hfws | hwts | ⟨client, hset⟩
  · split
    · rename_i self hself
      obtain ⟨hcf, hdy⟩ := hnop (hfws.confirmed self hself).2
      rw [doSocksChannelEvent_of_ne hcf hdy]
      exact (forwardEvent_idle _ e).mono fun u hu => hy.idle hu
    · rename_i hself
      rw [doChannelForwardEvent]
      split_ifs
      · have hfws' := hfws.idle hid
        obtain ⟨hstr, hwr⟩ := Forwards.startIo (t := (⟨[]⟩ : Turn y)) hfws'.uses
          (fun self hsk => absurd (harr.app_eq ▸ hsk) (hself self)) hfws'.balanced
        exact ⟨hy.toSocketBuffer.of_write hwr, .inl hstr⟩
      · exact (forwardEvent_idle _ e).mono fun u hu => hy.idle hu
  · obtain ⟨self, hself, hst⟩ := hwts.socks
    rw [hself]
    refine doSocksChannelEvent_waits hy.toSocketBuffer (hwts.idle hid) hst (fun he => ?_)
      (fun he => hrm (by rw [he])) sys.write
    subst he
    exact harr.remote_ne_none
  · rw [hset.self_eq]
    rw [doChannelForwardEvent, if_neg (hnop hset.remote).1]
    exact (forwardEvent_idle _ e).mono fun u hu => hy.idle hu

theorem forwardClass_window :
    ClassRules forwardClass ForwardWindow (fun _ _ => True) RoomForReply (fun _ _ => True) where
  closes hcls hx := hx.idle (.of_still (.of_closes hcls) hcls.app_eq)
  silent harr hx := hx.idle (.of_still (harr.still fun _ _ hn => nomatch hn) harr.app_eq)
  notice {x y n} harr hx hrm sys := by
    refine Leaves.obeys ?_
    cases n with
    | event e => exact forwardEvent_window hx harr hrm sys
    | receive stderr data => exact forwardReceive_window hx harr sys
    | sendAdjust size =>
      have hid : Idle x y := .of_still (harr.still fun _ _ hn => nomatch hn) harr.app_eq
      exact (hx.idle hid).idle ((Idle.refl _).setRead (t := (⟨[]⟩ : Turn y)) _)
    | request type want args =>
      exact hx.idle (.of_still (harr.still fun _ _ hn => nomatch hn) harr.app_eq)
  activity {x a} h _ := by
    have hx : ForwardWindow (⟨[]⟩ : Turn x).channel := h
    refine Leaves.obeys ?_
    refine forwardClass_activity hx
      (fun res _ => (oopReadSocket_idle _ res).mono fun u hu => hx.idle hu)
      (fun res hreg => ?_) fun self res hreg => ?_
    · rcases h.phase with hfws | hwts | ⟨client, hset⟩
      · exact oopWriteSocket_window (t := ⟨[]⟩) h.toSocketBuffer hfws res
      · cases hwts.uses.eq_of_registered hreg
      · exact (channelIoFlush_of_nil hset.buffered _ res).bind fun _ hfls => hfls.elim
    · rcases h.phase with hfws | hwts | ⟨client, hset⟩
      · cases hfws.uses.eq_of_registered hreg
      · exact oopWriteSocks_window (t := ⟨[]⟩) h.toSocketBuffer hwts self res
      · cases hset.uses.eq_of_registered hreg

end Forward

/-! ### Sessions at the server -/

section Server

variable {x y : SshChannel ServerSession} {t u : Turn x}

/-- The window of a session is closed until there is a process. -/
structure ServerWindow (x : SshChannel ServerSession) : Prop where
  initialWindow_eq : x.app.initialWindow = sessionWindowSize
  overflowed_eq : x.app.input.overflowed = false
  none : x.app.process = .none → x.recWindowSize = 0 ∧ x.app.input.buffered = [] ∧
    x.app.discarded = 0
  some : x.app.process ≠ .none → x.app.input.state.isSome ∧
    x.app.input.size = sessionWindowSize.toNat + 1 ∧
    Balanced sessionWindowSize.toNat x (x.app.input.buffered.length + x.app.discarded)

namespace ServerWindow

/-- What the invariant speaks of is the same. -/
theorem congr (h : ServerWindow x) (hsti : Still x y)
    (hini : y.app.initialWindow = x.app.initialWindow)
    (hproc : y.app.process = .none ↔ x.app.process = .none)
    (hst : y.app.input.state = x.app.input.state)
    (hov : y.app.input.overflowed = x.app.input.overflowed)
    (hdis : y.app.discarded = x.app.discarded) : ServerWindow y where
  initialWindow_eq := hini.trans h.initialWindow_eq
  overflowed_eq := hov.trans h.overflowed_eq
  none hno := by
    rw [hsti.window, hdis, WriteState.buffered, hst]
    exact h.none (hproc.mp hno)
  some hsome := by
    obtain ⟨hisSome, hsize, hbld⟩ := h.some fun hno => hsome (hproc.mpr hno)
    rw [hdis, WriteState.size, WriteState.buffered, hst]
    exact ⟨hisSome, hsize, hbld.still hsti⟩

theorem still (h : ServerWindow x) (hsti : Still x y) (happ : y.app = x.app) : ServerWindow y :=
  h.congr hsti (by rw [happ]) (by rw [happ]) (by rw [happ]) (by rw [happ]) (by rw [happ])

theorem call (h : ServerWindow t.channel) (call : Call ServerSession) (hcall : call.IsPlain) :
    ServerWindow (t.call call).channel :=
  h.still ((Still.refl _).call call hcall) (app_call call hcall)

theorem set {app : ServerSession} (h : ServerWindow t.channel)
    (hini : app.initialWindow = t.channel.app.initialWindow)
    (hproc : app.process = .none ↔ t.channel.app.process = .none)
    (hinp : app.input = t.channel.app.input) (hdis : app.discarded = t.channel.app.discarded) :
    ServerWindow (t.setApp app).channel := by
  have happ : (t.setApp app).channel.app = app := by simp
  refine h.congr ((Still.refl _).setApp app) ?_ ?_ ?_ ?_ ?_
  · rw [happ, hini]
  · rw [happ, hproc]
  · rw [happ, hinp]
  · rw [happ, hinp]
  · rw [happ, hdis]

end ServerWindow

variable {data : Octets}

/-- What has been written to the process. -/
theorem afterWriteStdin_window {r : IoStatus × WriteState × Turn x}
    (hini : t.channel.app.initialWindow = sessionWindowSize)
    (hov : t.channel.app.input.overflowed = false) (hproc : t.channel.app.process ≠ .none)
    (hsize : t.channel.app.input.size = sessionWindowSize.toNat + 1)
    (hbld : Balanced sessionWindowSize.toNat t.channel
      (t.channel.app.input.buffered.length + data.length + t.channel.app.discarded))
    (hr : WriteMoves t t.channel.app.input data r) :
    Leaves ServerWindow (afterWriteStdin r) := by
  obtain ⟨n, hmv⟩ := hr.moves
  obtain ⟨happ, _, _, _⟩ := hr.frame
  have hbal := hr.balanced (W := sessionWindowSize.toNat) (by decide) hbld
  have hset : ServerWindow (r.2.2.setApp { r.2.2.app with input := r.2.1 }).channel := by
    rw [Turn.channel_setApp, Turn.app, happ]
    exact ⟨hini, hmv.overflowed_eq.trans hov, fun hno => absurd hno hproc,
      fun _ => ⟨hmv.state_isSome, hmv.size_eq.trans hsize, hbal.le, hbal.eq⟩⟩
  rw [afterWriteStdin]
  split_ifs
  · exact hset
  · refine (channelWriteStateClose_still r.2.2 r.2.1).bind fun p hp => ?_
    obtain ⟨⟨hsti, happ'⟩, hst, hov'⟩ := hp
    rw [ensures_pure]
    rw [Turn.channel_setApp, Turn.app] at hset ⊢
    refine hset.congr ?_ ?_ ?_ hst hov' ?_
    · exact { hsti with }
    · rw [happ']
    · rw [happ']
    · rw [happ']

theorem oopWriteStdin_window (h : ServerWindow t.channel) (res) :
    Leaves ServerWindow (oopWriteStdin t res) := by
  by_cases hbuf : t.channel.app.input.buffered = []
  · exact (channelIoFlush_of_nil hbuf t res).bind fun _ hfls => hfls.elim
  · have hproc : t.channel.app.process ≠ .none := fun hno => hbuf (h.none hno).2.1
    obtain ⟨_, hsize, hbld⟩ := h.some hproc
    have hld : Balanced sessionWindowSize.toNat t.channel
        (t.channel.app.input.buffered.length + ([] : Octets).length + t.channel.app.discarded) :=
      hbld
    refine (channelIoFlush_ensures hbuf t res).of_total.bind fun r hr => ?_
    exact afterWriteStdin_window h.initialWindow_eq h.overflowed_eq hproc hsize hld hr

/-- Data arrives for a session. -/
theorem serverReceive_window {stderr : Bool} (h : ServerWindow x)
    (harr : Arrives x y (some (.receive stderr data)))
    (res) :
    Leaves ServerWindow (serverReceive (⟨[]⟩ : Turn y) stderr data res) := by
  obtain ⟨htk, hne, hle, rfl⟩ := harr.takesData
  have hproc : x.app.process ≠ .none := by
    intro hno
    rw [(h.none hno).1] at hle
    exact hne (eq_nil_of_length_eq_zero (Nat.le_zero.mp hle))
  obtain ⟨hst, hsize, hbld⟩ := h.some hproc
  have hld := hbld.data htk hle
  rw [serverReceive]
  split_ifs
  · rw [Nat.add_assoc] at hld
    exact ⟨h.initialWindow_eq, h.overflowed_eq, fun hno => absurd hno hproc,
      fun _ => ⟨hst, hsize, hld.le, hld.eq⟩⟩
  · rw [Nat.add_right_comm] at hld
    have heq := hld.eq htk.2
    have hspc : x.app.input.buffered.length + data.length ≤ x.app.input.size := by omega
    refine (channelIoWrite_ensures hst hspc hne _ .oopWriteStdin res).of_total.bind fun r hr => ?_
    exact afterWriteStdin_window (t := ⟨[]⟩) h.initialWindow_eq h.overflowed_eq hproc hsize hld hr

section
variable (h : ServerWindow t.channel)
include h

theorem oopReadOutput_window (stderr res) : Leaves ServerWindow (oopReadOutput t stderr res) := by
  refine (channelIoRead_still t _ res).bind fun r hr => ?_
  have hu := h.still hr.1 hr.2
  have hset (file : ReadState) :
      ServerWindow (r.2.2.2.setApp (r.2.2.2.app.setOutput stderr file)).channel := by
    cases stderr <;> exact hu.set rfl Iff.rfl rfl rfl
  dsimp only
  split
  · exact hset _
  · split
    · refine (hset _).call _ ?_
      cases stderr <;> trivial
    · exact hset _

theorem doServerSessionEvent_window (e) : Leaves ServerWindow (doServerSessionEvent t e) := by
  cases e with
  | eof =>
    rw [doServerSessionEvent.eq_def]
    dsimp only
    split
    · trivial
    · split_ifs
      · refine (channelWriteStateClose_still t t.app.input).bind fun p hp => ?_
        obtain ⟨⟨hsti, happ⟩, hst, hov⟩ := hp
        rw [ensures_pure, Turn.channel_setApp, Turn.app, happ]
        refine h.congr ?_ rfl Iff.rfl hst hov rfl
        exact { hsti with }
      · exact h
  | stop => exact h.set rfl Iff.rfl rfl rfl
  | start =>
    rw [doServerSessionEvent]
    split_ifs
    · exact h.set rfl Iff.rfl rfl rfl
    · exact h
  | _ => exact h

theorem doExitShell_window (hrun : t.channel.app.process = .running) (signaled args) :
    Leaves ServerWindow (doExitShell t signaled args) := by
  have hexi : ServerWindow (t.setApp { t.app with process := .exited }).channel := by
    refine h.set rfl ?_ rfl rfl
    rw [hrun]
    exact ⟨nofun, nofun⟩
  rw [doExitShell]
  split
  · exact hexi
  · generalize (if signaled = true then Atom.exitSignal else Atom.exitStatus) = type
    have hsent := hexi.call (.sendRequest (lshString type.octets) false args) trivial
    refine (ensures_true _).bind fun _ _ => ?_
    refine ServerWindow.call ?_ .maybeClose trivial
    rw [Turn.channel_setSinks, Turn.channel_set]
    exact hsent.still ⟨rfl, rfl, id, id⟩ rfl

end

/-- The object before its window is opened. -/
theorem startProcess_eq (t : Turn x) (sys) :
    ∃ z : SshChannel ServerSession,
      (startProcess t sys).channel = z.after (.startReceive t.channel.app.initialWindow) ∧
      z.recWindowSize = t.channel.recWindowSize ∧
      z.app.initialWindow = t.channel.app.initialWindow ∧ z.app.process = .running ∧
      z.app.input = initChannelWriteState (some sys.stdin) (t.channel.app.initialWindow + 1).toNat ∧
      z.app.discarded = t.channel.app.discarded := by
  rw [startProcess]
  rw [Turn.channel_call]
  split_ifs
  all_goals
    simp only [serverSendAdjust, Turn.channel_setApp, Turn.app, Turn.channel_set]
    exact ⟨_, rfl, rfl, rfl, rfl, rfl, rfl⟩

section
variable (h : ServerWindow t.channel)
include h

/-- A process is started: the window is opened as far as the buffer has space. -/
theorem startProcess_window (hproc : t.channel.app.process = .none) (sys) :
    ServerWindow (startProcess t sys).channel := by
  obtain ⟨hz0, _, hdis⟩ := h.none hproc
  obtain ⟨z, heq, hwin, hini, hrun, hinp, hdis'⟩ := startProcess_eq t sys
  rw [h.initialWindow_eq] at heq hini hinp
  have hfr := (startReceive_frame z sessionWindowSize).1
  have hbld : Balanced sessionWindowSize.toNat (z.after (.startReceive sessionWindowSize)) 0 :=
    Balanced.start (hwin.trans hz0) rfl
  rw [heq]
  refine ⟨?_, ?_, ?_, fun _ => ⟨?_, ?_, ?_⟩⟩
  · rw [hfr]
    exact hini
  · rw [hfr, hinp]
    rfl
  · rw [hfr, hrun]
    exact nofun
  · rw [hfr, hinp]
    rfl
  · rw [hfr, hinp]
    rfl
  · rw [hfr, hinp, hdis', hdis]
    exact hbld

theorem spawnReply_window (hproc : t.channel.app.process = .none) (want sys) :
    Leaves ServerWindow (spawnReply t want sys) := by
  have hpty : Returns
      (fun u : Turn x => ServerWindow u.channel ∧ u.channel.app.process = .none)
      (spawnPty t sys) := by
    rw [spawnPty]
    split
    · exact ⟨h, hproc⟩
    · refine (ensures_true _).bind fun _ _ => ?_
      refine ⟨h.set rfl Iff.rfl rfl rfl, ?_⟩
      rw [Turn.channel_setApp]
      exact hproc
  have hspw : Returns (fun r => ServerWindow r.2.channel) (spawnProcess t sys) := by
    refine (ensures_true _).bind fun _ _ => hpty.bind fun u hu => ?_
    split
    · exact hu.1
    · split
      · exact hu.1
      · exact startProcess_window hu.1 hu.2 sys
  exact hspw.bind fun r hr => hr.call _ trivial

/-- Requests. -/
theorem serverRequest_window (type want args sys) :
    Leaves ServerWindow (serverRequest t type want args sys) := by
  refine serverRequest_rule args (fun _ => trivial) (fun _ => h) (fun _ => h) (h.call _ trivial)
    (fun pty x11 => ?_) (fun hproc _ => spawnReply_window h hproc want sys)
    fun hproc _ => spawnReply_window ?_ ?_ want sys
  · refine ServerWindow.call ?_ _ trivial
    exact h.set rfl Iff.rfl rfl rfl
  · exact h.set rfl Iff.rfl rfl rfl
  · rw [Turn.channel_setApp]
    exact hproc

end

theorem serverClass_window :
    ClassRules serverClass ServerWindow (fun _ _ => True) (fun _ _ => True) (fun _ _ => True) where
  closes hcls hx := hx.still (.of_closes hcls) hcls.app_eq
  silent harr hx := hx.still (harr.still (by simp)) harr.app_eq
  notice {x y n} harr hx _ sys := by
    refine Leaves.obeys ?_
    have hy (hn : ∀ stderr data, n ≠ .receive stderr data) : ServerWindow (⟨[]⟩ : Turn y).channel :=
      hx.still (harr.still fun _ _ h => hn _ _ (Option.some.inj h)) harr.app_eq
    cases n with
    | event e => exact doServerSessionEvent_window (hy (by simp)) e
    | receive stderr data => exact serverReceive_window hx harr sys.write
    | sendAdjust size => exact (hy (by simp)).set rfl Iff.rfl rfl rfl
    | request type want args =>
      have hreq := hy (by simp)
      simp only [serverClass]
      cases lookupAtom type with
      | none => exact hreq
      | some type => exact serverRequest_window hreq type want args sys.server
  activity {x a} h _ := by
    have hx : ServerWindow (⟨[]⟩ : Turn x).channel := h
    refine Leaves.obeys ?_
    exact serverClass_activity hx (fun stderr _ res _ _ => oopReadOutput_window hx stderr res)
      (fun res _ => oopWriteStdin_window hx res)
      fun signaled args hrun => doExitShell_window hx hrun signaled args

end Server

/-! ### Sessions at the client -/

section Client

variable {x y : SshChannel ClientSession} {t u : Turn x} {file file' : WriteState}

/-- A buffer has the size of the window, and has not overflowed. -/
structure SinkBuffer (file : WriteState) : Prop where
  state_isSome : file.state.isSome
  size_eq : file.size = sessionWindowSize.toNat
  overflowed_eq : file.overflowed = false

/-- The buffers, and the actions: the last one starts a process. -/
structure ClientSinks (app : ClientSession) : Prop where
  out : SinkBuffer app.out
  err : SinkBuffer app.err
  serial : ∀ i action, app.actions[i]? = some action →
    (action.serial = true ↔ i + 1 = app.actions.length)
  done_le : app.actionDone ≤ app.actions.length

/-- The window of a session is closed until the last action is done, and then shared. -/
structure ClientWindow (x : SshChannel ClientSession) : Prop extends ClientSinks x.app where
  waits : x.app.actionDone < x.app.actions.length →
    x.recWindowSize = 0 ∧ x.app.out.buffered = [] ∧ x.app.err.buffered = []
  balanced : x.app.actionDone = x.app.actions.length →
    Balanced sessionWindowSize.toNat x (x.app.out.buffered.length + x.app.err.buffered.length)

/-- The buffers and the actions are the same. -/
structure SameSinks (app app' : ClientSession) : Prop where
  out_state : app'.out.state = app.out.state
  out_overflowed : app'.out.overflowed = app.out.overflowed
  err_state : app'.err.state = app.err.state
  err_overflowed : app'.err.overflowed = app.err.overflowed
  actions : app'.actions = app.actions
  done : app'.actionDone = app.actionDone

theorem SameSinks.refl (app : ClientSession) : SameSinks app app := ⟨rfl, rfl, rfl, rfl, rfl, rfl⟩

theorem SinkBuffer.congr (h : SinkBuffer file)
    (hst : file'.state = file.state) (hov : file'.overflowed = file.overflowed) :
    SinkBuffer file' := by
  refine ⟨?_, ?_, hov.trans h.overflowed_eq⟩
  · rw [hst]
    exact h.state_isSome
  · rw [WriteState.size, hst]
    exact h.size_eq

variable {data : Octets}

theorem SinkBuffer.moves {n : ℕ} (h : SinkBuffer file) (hmv : Moves file data n file') :
    SinkBuffer file' :=
  ⟨hmv.state_isSome, hmv.size_eq.trans h.size_eq, hmv.overflowed_eq.trans h.overflowed_eq⟩

theorem ClientSinks.congr {app app' : ClientSession} (h : ClientSinks app)
    (hsame : SameSinks app app') : ClientSinks app' := by
  refine ⟨h.out.congr hsame.out_state hsame.out_overflowed,
    h.err.congr hsame.err_state hsame.err_overflowed, ?_, ?_⟩
  · rw [hsame.actions]
    exact h.serial
  · rw [hsame.actions, hsame.done]
    exact h.done_le

namespace ClientWindow

theorem congr (h : ClientWindow x) (hsti : Still x y) (hsome : SameSinks x.app y.app) :
    ClientWindow y := by
  refine ⟨h.toClientSinks.congr hsome, ?_, ?_⟩
  · rw [hsome.actions, hsome.done, hsti.window, WriteState.buffered, WriteState.buffered,
      hsome.out_state, hsome.err_state]
    exact h.waits
  · rw [hsome.actions, hsome.done, WriteState.buffered, WriteState.buffered, hsome.out_state,
      hsome.err_state]
    exact fun hdone => (h.balanced hdone).still hsti

theorem still (h : ClientWindow x) (hsti : Still x y) (happ : y.app = x.app) : ClientWindow y :=
  h.congr hsti (by rw [happ]; exact SameSinks.refl _)

theorem call (h : ClientWindow t.channel) (call : Call ClientSession) (hcall : call.IsPlain) :
    ClientWindow (t.call call).channel :=
  h.still ((Still.refl _).call call hcall) (app_call call hcall)

theorem set {app : ClientSession} (h : ClientWindow t.channel)
    (hsome : SameSinks t.channel.app app) :
    ClientWindow (t.setApp app).channel := by
  refine h.congr ((Still.refl _).setApp app) ?_
  rw [Turn.channel_setApp]
  exact hsome

end ClientWindow

/-- A descriptor is closed, and its buffer stays as it is. -/
theorem ClientWindow.closed (h : ClientWindow t.channel) {p : WriteState × Turn x}
    (hp : (Still t.channel p.2.channel ∧ p.2.channel.app = t.channel.app) ∧
      p.1.state = file.state ∧ p.1.overflowed = file.overflowed) :
    (file = t.channel.app.out → ClientWindow (p.2.setApp { p.2.app with out := p.1 }).channel) ∧
      (file = t.channel.app.err → ClientWindow
        (p.2.setApp { p.2.app with err := p.1 }).channel) := by
  obtain ⟨⟨hsti, happ⟩, hst, hov⟩ := hp
  have hp := h.still hsti happ
  constructor
  · rintro rfl
    refine hp.set ⟨?_, ?_, rfl, rfl, rfl, rfl⟩
    · rw [happ]
      exact hst
    · rw [happ]
      exact hov
  · rintro rfl
    refine hp.set ⟨rfl, rfl, ?_, ?_, rfl, rfl⟩
    · rw [happ]
      exact hst
    · rw [happ]
      exact hov

/-- What has been written to a sink. -/
theorem afterWriteSink_window {r : IoStatus × WriteState × Turn x} (stderr data)
    (h : ClientSinks t.channel.app)
    (hdone : t.channel.app.actionDone = t.channel.app.actions.length)
    (hbld : Balanced sessionWindowSize.toNat t.channel
      ((t.channel.app.sink stderr).buffered.length +
      data.length + (t.channel.app.sink !stderr).buffered.length))
    (hr : WriteMoves t (t.channel.app.sink stderr) data r) :
    Leaves ClientWindow (afterWriteSink stderr r) := by
  obtain ⟨n, hmv⟩ := hr.moves
  obtain ⟨happ, _, _, _⟩ := hr.frame
  have hbal := hr.balanced (W := sessionWindowSize.toNat) (by decide) hbld
  have hset : ClientWindow (r.2.2.setApp (r.2.2.app.setSink stderr r.2.1)).channel := by
    rw [Turn.channel_setApp, Turn.app, happ]
    cases stderr with
    | false => exact ⟨⟨h.out.moves hmv, h.err, h.serial, h.done_le⟩, fun hlt => absurd hdone hlt.ne,
        fun _ => ⟨hbal.le, hbal.eq⟩⟩
    | true =>
      rw [Nat.add_comm] at hbal
      exact ⟨⟨h.out, h.err.moves hmv, h.serial, h.done_le⟩, fun hlt => absurd hdone hlt.ne,
        fun _ => ⟨hbal.le, hbal.eq⟩⟩
  rw [afterWriteSink]
  split_ifs
  · exact hset
  · refine (channelWriteStateClose_still r.2.2 r.2.1).bind fun p hp => ?_
    obtain ⟨⟨hsti, happ'⟩, hst, hov⟩ := hp
    rw [ensures_pure]
    rw [Turn.channel_setApp, Turn.app] at hset ⊢
    rw [happ']
    refine hset.congr { hsti with } ?_
    cases stderr with
    | false => exact ⟨hst, hov, rfl, rfl, rfl, rfl⟩
    | true => exact ⟨rfl, rfl, hst, hov, rfl, rfl⟩

/-- There is something to write only when all actions are done. -/
theorem ClientWindow.done (h : ClientWindow x)
    (hbuf : x.app.out.buffered ≠ [] ∨ x.app.err.buffered ≠ [] ∨ x.recWindowSize ≠ 0) :
    x.app.actionDone = x.app.actions.length := by
  refine le_antisymm h.done_le (not_lt.mp fun hlt => ?_)
  obtain ⟨hwin, hout, herr⟩ := h.waits hlt
  rcases hbuf with hne | hne | hne
  · exact hne hout
  · exact hne herr
  · exact hne hwin

theorem ClientWindow.balanced_sink (h : ClientWindow x)
    (hdone : x.app.actionDone = x.app.actions.length) (stderr) :
    Balanced sessionWindowSize.toNat x
      ((x.app.sink stderr).buffered.length + (x.app.sink !stderr).buffered.length) := by
  have hbld := h.balanced hdone
  cases stderr with
  | false => exact hbld
  | true =>
    rw [Nat.add_comm] at hbld
    exact hbld

theorem oopWriteSink_window (h : ClientWindow t.channel) (stderr res) :
    Leaves ClientWindow (oopWriteSink t stderr res) := by
  by_cases hbuf : (t.channel.app.sink stderr).buffered = []
  · exact (channelIoFlush_of_nil hbuf t res).bind fun _ hfls => hfls.elim
  · have hdone : t.channel.app.actionDone = t.channel.app.actions.length := by
      cases stderr with
      | false => exact h.done (.inl hbuf)
      | true => exact h.done (.inr (.inl hbuf))
    refine (channelIoFlush_ensures hbuf t res).of_total.bind fun r hr => ?_
    exact afterWriteSink_window stderr [] h.toClientSinks hdone (h.balanced_sink hdone stderr) hr

/-- Data arrives for a session. -/
theorem clientReceive_window {stderr : Bool} (h : ClientWindow x)
    (harr : Arrives x y (some (.receive stderr data)))
    (res) :
    Leaves ClientWindow (clientReceive (⟨[]⟩ : Turn y) stderr data res) := by
  obtain ⟨htk, hne, hle, rfl⟩ := harr.takesData
  have hwin : x.recWindowSize ≠ 0 := by
    intro hz0
    rw [hz0] at hle
    exact hne (eq_nil_of_length_eq_zero (Nat.le_zero.mp hle))
  have hdone := h.done (.inr (.inr hwin))
  have hld := (h.balanced_sink hdone stderr).data htk hle
  have heq := hld.eq htk.2
  have hsink : SinkBuffer (x.app.sink stderr) := by
    cases stderr with
    | false => exact h.out
    | true => exact h.err
  have hspc : (x.app.sink stderr).buffered.length + data.length ≤ (x.app.sink stderr).size := by
    rw [hsink.size_eq]
    omega
  rw [clientReceive_eq]
  refine (channelIoWrite_ensures hsink.state_isSome hspc hne _ _ res).of_total.bind fun r hr => ?_
  rw [Nat.add_right_comm] at hld
  exact afterWriteSink_window (t := ⟨[]⟩) stderr data h.toClientSinks hdone hld hr

section
variable (h : ClientWindow t.channel)
include h

theorem transmitEscaped_window (escape fuel data) :
    ClientWindow (transmitEscaped escape fuel data t).channel := by
  induction fuel generalizing data t with
  | zero => exact h
  | succ fuel ih =>
    rw [transmitEscaped]
    split_ifs with hdata
    · exact h
    generalize clientEscapeProcess escape t.app.escapeState data.1 hdata = r
    obtain ⟨st, copy, done⟩ := r
    have hset : ClientWindow (t.setApp { t.app with escapeState := st }).channel :=
      h.set ⟨rfl, rfl, rfl, rfl, rfl, rfl⟩
    dsimp only
    split_ifs
    · exact ih (hset.call (.transmitData _) trivial) _
    · exact ih hset _

theorem oopReadStdin_window (res) : Leaves ClientWindow (oopReadStdin t res) := by
  refine (channelIoRead_still t t.app.input res).bind fun r hr => ?_
  obtain ⟨stat, data, input, v⟩ := r
  have hv := h.still hr.1 hr.2
  dsimp only at hv ⊢
  split
  · exact hv.set ⟨rfl, rfl, rfl, rfl, rfl, rfl⟩
  · have hset : ClientWindow (v.setApp { v.app with input := input }).channel :=
      hv.set ⟨rfl, rfl, rfl, rfl, rfl, rfl⟩
    split
    · exact transmitEscaped_window hset _ _ _
    · split_ifs
      · exact hset.call _ trivial
      · exact hset

theorem startAction_window (action) : ClientWindow (startAction t action).channel := by
  cases action with
  | x11 => exact h
  | _ => exact h.call _ trivial

theorem nextActions_window (fuel) : ClientWindow (nextActions fuel t).channel := by
  induction fuel generalizing t with
  | zero => exact h
  | succ fuel ih =>
    rw [nextActions]
    split
    · exact h
    · split_ifs
      · exact h
      · refine ih (startAction_window ?_ _)
        exact h.set ⟨rfl, rfl, rfl, rfl, rfl, rfl⟩

end

theorem closeIfFlushed_still (t : Turn x) (file) :
    Returns
      (fun r => (Still t.channel r.2.channel ∧ r.2.channel.app = t.channel.app) ∧
        r.1.state = file.state ∧ r.1.overflowed = file.overflowed)
      (closeIfFlushed t file) := by
  rw [closeIfFlushed]
  split
  · trivial
  · split_ifs
    · exact channelWriteStateClose_still t file
    · exact ⟨⟨Still.refl _, rfl⟩, rfl, rfl⟩

/-- The first action of the list has been answered. -/
abbrev Turn.answered {x : SshChannel ClientSession} (t : Turn x) : Turn x :=
  t.setApp { t.app with actionDone := t.app.actionDone + 1 }

section
variable (h : ClientWindow t.channel)
include h

/-- The reply to an action that is not the last one. -/
theorem ClientWindow.next
    (hlt : t.channel.app.actionDone + 1 < t.channel.app.actions.length) :
    ClientWindow t.answered.channel := by
  have hwts := h.waits (by omega)
  rw [Turn.channel_setApp]
  exact ⟨⟨h.out, h.err, h.serial, hlt.le⟩, fun _ => hwts, fun hdone => absurd hdone hlt.ne⟩

/-- The reply to the last action, for which the window is opened or the channel closed. -/
theorem ClientWindow.last
    (hla : t.channel.app.actionDone + 1 = t.channel.app.actions.length)
    (happ : u.channel.app = { t.channel.app with actionDone := t.channel.app.actionDone + 1 })
    (hbld : Balanced sessionWindowSize.toNat u.channel 0) : ClientWindow u.channel := by
  obtain ⟨_, hout, herr⟩ := h.waits (by omega)
  constructor
  · rw [happ]
    exact ⟨h.out, h.err, h.serial, hla.le⟩
  · rw [happ]
    exact fun hlt => absurd hla hlt.ne
  · rw [happ]
    rw [hout, herr]
    exact fun _ => hbld

variable {action : SessionAction}

/-- CHANNEL_SUCCESS. -/
theorem successAction_window
    (hact : t.channel.app.actions[t.channel.app.actionDone]? = some action) :
    ClientWindow (successAction t.answered action).channel := by
  obtain ⟨hix, _⟩ := List.getElem?_eq_some_iff.mp hact
  have hser := h.serial _ _ hact
  have hwts := h.waits hix
  have hnext (hfls : action.serial = false) : ClientWindow t.answered.channel := by
    refine h.next (lt_of_le_of_ne hix fun hla => ?_)
    rw [hser.mpr hla] at hfls
    cases hfls
  -- the action for a process is the last one
  have hstr (htr : action.serial) : ClientWindow
      (t.answered.call (.startReceive (UInt32.ofNat t.answered.app.out.size))).channel := by
    have hsize : UInt32.ofNat t.answered.app.out.size = sessionWindowSize := by
      have hout : t.answered.app.out.size = sessionWindowSize.toNat := by
        rw [Turn.app_setApp]
        exact h.out.size_eq
      rw [hout, UInt32.ofNat_toNat]
    rw [hsize]
    refine h.last (hser.mp htr) ?_ ?_
    · rw [Turn.channel_call, (startReceive_frame _ _).1, Turn.channel_setApp]
      rfl
    · rw [Turn.channel_call]
      refine Balanced.start ?_ rfl
      rw [Turn.channel_setApp]
      exact hwts.1
  cases action with
  | pty args =>
    refine (hnext rfl).set ?_
    exact ⟨rfl, rfl, rfl, rfl, rfl, rfl⟩
  | x11 => exact hnext rfl
  | shell | command type arg => exact hstr rfl

/-- CHANNEL_FAILURE for the last action closes the channel. -/
theorem failureAction_window
    (hact : t.channel.app.actions[t.channel.app.actionDone]? = some action) :
    if action.failure then
      ClientWindow t.answered.channel
    else ClientWindow (t.answered.call .close).channel := by
  obtain ⟨hix, _⟩ := List.getElem?_eq_some_iff.mp hact
  have hser := h.serial _ _ hact
  have hfai : action.failure = !action.serial := by cases action <;> rfl
  have hwts := h.waits hix
  rw [hfai]
  split_ifs with hfls
  · refine h.next (lt_of_le_of_ne hix fun hla => ?_)
    rw [hser.mpr hla] at hfls
    cases hfls
  · have htr : action.serial := by simpa using hfls
    refine h.last (hser.mp htr) ?_ ?_
    · rw [app_call .close trivial, Turn.channel_setApp]
      rfl
    · rw [Turn.channel_call, SshChannel.after, SshChannel.afterClose_eq, Turn.channel_setApp]
      refine Balanced.of_not_live ?_ fun hlv => by cases hlv.2.2
      rw [hwts.1]
      exact Nat.zero_le _

theorem doClientSessionEvent_window (e) : Leaves ClientWindow (doClientSessionEvent t e) := by
  cases e with
  | confirm =>
    have hset : ClientWindow (t.set fun u => { u with
        receive := true, sendAdjust := true, sources := u.sources + 1
        sinks := u.sinks + 3 }).channel := by
      rw [Turn.channel_set]
      exact ⟨h.toClientSinks, h.waits, fun hdone => ⟨(h.balanced hdone).le, (h.balanced hdone).eq⟩⟩
    refine nextActions_window ?_ _
    split_ifs
    · exact hset.set ⟨rfl, rfl, rfl, rfl, rfl, rfl⟩
    · exact hset
  | eof =>
    refine (closeIfFlushed_still t t.app.out).bind fun p hp => ?_
    have hout := (h.closed hp).1 rfl
    refine (closeIfFlushed_still _ _).bind fun q hq => ?_
    exact (hout.closed hq).2 rfl
  | success =>
    rw [doClientSessionEvent, doneAction]
    split
    · trivial
    · rename_i act hact
      exact nextActions_window (successAction_window h hact) _
  | failure =>
    rw [doClientSessionEvent, doneAction]
    split
    · trivial
    · rename_i act hact
      have hfai := failureAction_window h hact
      rw [ok_bind]
      dsimp only
      split_ifs at hfai ⊢
      · exact nextActions_window hfai _
      · exact hfai
  | stop => exact h.set ⟨rfl, rfl, rfl, rfl, rfl, rfl⟩
  | start =>
    rw [doClientSessionEvent]
    split_ifs
    · exact h.set ⟨rfl, rfl, rfl, rfl, rfl, rfl⟩
    · exact h
  | _ => exact h

theorem clientRequest_window (type want args) :
    Leaves ClientWindow (clientRequest t type want args) := by
  have hexit (parsed : Option Unit) (msg : String) : Returns
      (fun u : Turn x => ClientWindow u.channel) (handleExit t want parsed msg) := by
    rw [handleExit]
    split_ifs
    · refine (ensures_true _).bind fun _ _ => ?_
      refine ClientWindow.call ?_ .maybeClose trivial
      rw [Turn.channel_setSinks, Turn.channel_set]
      exact h.still ⟨rfl, rfl, id, id⟩ rfl
    · trivial
  cases type with
  | exitStatus | exitSignal => exact hexit _ _
  | _ => exact h

end

theorem clientClass_window :
    ClassRules clientClass ClientWindow (fun _ _ => True) (fun _ _ => True) (fun _ _ => True) where
  closes hcls hx := hx.still (.of_closes hcls) hcls.app_eq
  silent harr hx := hx.still (harr.still (by simp)) harr.app_eq
  notice {x y n} harr hx _ sys := by
    refine Leaves.obeys ?_
    have hy (hn : ∀ stderr data, n ≠ .receive stderr data) : ClientWindow (⟨[]⟩ : Turn y).channel :=
      hx.still (harr.still fun _ _ h => hn _ _ (Option.some.inj h)) harr.app_eq
    cases n with
    | event e => exact doClientSessionEvent_window (hy (by simp)) e
    | receive stderr data => exact clientReceive_window hx harr sys.write
    | sendAdjust size => exact (hy (by simp)).set ⟨rfl, rfl, rfl, rfl, rfl, rfl⟩
    | request type want args =>
      have hreq := hy (by simp)
      simp only [clientClass]
      cases lookupAtom type with
      | none => exact hreq
      | some type => exact clientRequest_window hreq type want args
  activity {x a} h _ := by
    have hx : ClientWindow (⟨[]⟩ : Turn x).channel := h
    refine Leaves.obeys ?_
    exact clientClass_activity hx (fun _ res _ => oopReadStdin_window hx res)
      (fun err res => oopWriteSink_window hx err res) (hx.call _ trivial)
      fun _ _ _ => hx.call _ trivial

end Client

/-! ### Runs -/

/-- The handshake of a SOCKS or X11 channel is over, if there is one. -/
def Handshaken (x : SshChannel Forward) : Prop :=
  x.app.receive = .channelForward ∧ ∀ self, x.app.self = .socks self → x.receive

/-- The window of a forwarded channel accounts for the data. -/
def ForwardAccounted (x : SshChannel Forward) : Prop :=
  x.app.write.overflowed = false ∧ x.recWindowSize.toNat ≤ tcpipWindowSize.toNat ∧
    (Live x → Handshaken x → x.recWindowSize.toNat + x.app.write.buffered.length + x.app.discarded =
      tcpipWindowSize.toNat)

/-- The window of a session at the server accounts for the data once there is a process. -/
def ServerAccounted (x : SshChannel ServerSession) : Prop :=
  x.app.input.overflowed = false ∧ x.recWindowSize.toNat ≤ x.app.initialWindow.toNat ∧
    (Live x → x.app.process ≠ .none →
      x.recWindowSize.toNat + x.app.input.buffered.length + x.app.discarded =
        x.app.initialWindow.toNat)

/-- The window of a session at the client accounts for the data once all actions are done. -/
def ClientAccounted (x : SshChannel ClientSession) : Prop :=
  x.app.out.overflowed = false ∧ x.app.err.overflowed = false ∧
    x.recWindowSize.toNat ≤ sessionWindowSize.toNat ∧
    (Live x → x.app.actionDone = x.app.actions.length →
      x.recWindowSize.toNat + x.app.out.buffered.length + x.app.err.buffered.length =
        sessionWindowSize.toNat)

/-- The window of a channel accounts for the data. -/
def Accounted : SshChannel App → Prop := onKind ForwardAccounted ServerAccounted ClientAccounted

theorem ForwardWindow.accounted {x : SshChannel Forward} (h : ForwardWindow x) :
    ForwardAccounted x := by
  refine ⟨h.overflowed_eq, ?_, fun hlv hshn => ?_⟩
  · rcases h.phase with hfws | hwts | ⟨client, hset⟩
    · exact hfws.balanced.le
    · have hwin := hwts.window
      omega
    · exact hset.balanced.le.trans (by decide)
  · rcases h.phase with hfws | hwts | ⟨client, hset⟩
    · have heq := hfws.balanced.eq hlv
      omega
    · obtain ⟨self, hself, _⟩ := hwts.socks
      have hfls := hshn.2 self hself
      rw [hwts.receive_false] at hfls
      cases hfls
    · have hrec := hshn.1
      rw [hset.receive_eq] at hrec
      cases hrec

theorem ServerWindow.accounted {x : SshChannel ServerSession} (h : ServerWindow x) :
    ServerAccounted x := by
  rw [ServerAccounted, h.initialWindow_eq]
  refine ⟨h.overflowed_eq, ?_, fun hlv hproc => ?_⟩
  · by_cases hproc : x.app.process = .none
    · rw [(h.none hproc).1]
      exact Nat.zero_le _
    · exact (h.some hproc).2.2.le
  · have heq := (h.some hproc).2.2.eq hlv
    omega

theorem ClientWindow.accounted {x : SshChannel ClientSession} (h : ClientWindow x) :
    ClientAccounted x := by
  refine ⟨h.out.overflowed_eq, h.err.overflowed_eq, ?_, fun hlv hdone => ?_⟩
  · rcases Nat.lt_or_eq_of_le h.done_le with hlt | hdone
    · rw [(h.waits hlt).1]
      exact Nat.zero_le _
    · exact (h.balanced hdone).le
  · have heq := (h.balanced hdone).eq hlv
    omega

/-- The last action of a session is for a process, and no other is. -/
theorem serial_sessionActions (pty x11 command i action)
    (h : (sessionActions pty x11 command)[i]? = some action) :
    action.serial ↔ i + 1 = (sessionActions pty x11 command).length := by
  have happ {l : List SessionAction} {a : SessionAction} (hl : ∀ b ∈ l, b.serial = false)
      (ha : a.serial) (hi : (l ++ [a])[i]? = some action) :
      action.serial ↔ i + 1 = (l ++ [a]).length := by
    rw [length_append, length_singleton]
    rcases Nat.lt_or_ge i l.length with hlt | hge
    · rw [getElem?_append_left hlt] at hi
      rw [hl action (mem_of_getElem? hi)]
      exact ⟨nofun, fun heq => by omega⟩
    · rw [getElem?_append_right hge, getElem?_singleton] at hi
      split_ifs at hi with hz0
      cases hi
      exact ⟨fun _ => by omega, fun _ => ha⟩
  refine happ (fun b hb => ?_) ?_ h
  · rcases List.mem_append.mp hb with hpty | hx11
    · obtain ⟨args, _, rfl⟩ := by simpa using hpty
      rfl
    · split_ifs at hx11
      · rw [List.mem_singleton.mp hx11]
        rfl
      · cases hx11
  · split <;> rfl

theorem window_rules :
    ProgramRules (onKind ForwardWindow ServerWindow ClientWindow) (fun _ _ => True)
      (onKind RoomForReply (fun _ _ => True) fun _ _ => True)
      (onKind (fun _ _ => True) (fun _ _ => True) fun _ _ => True) SmallDisplay := by
  refine ProgramRules.of_classes (T := fun _ _ => True) (fun _ _ _ _ => trivial) forwardClass_window
    serverClass_window clientClass_window ?_ ?_
  · intro new info hnew ser i
    cases hnew with
    | forward sock =>
      exact ⟨⟨rfl, rfl, rfl⟩, .inl ⟨rfl, nofun, .inl rfl, Nat.le_refl _, fun _ => rfl⟩⟩
    | socks h =>
      obtain ⟨z, hz, rfl⟩ := socksHandshake_waiting h
      refine ⟨{ hz with }, .inr (.inl ?_)⟩
      exact ⟨hz.receive_eq, hz.self_eq, rfl, hz.uses, rfl,
        (hz.length_le hz.alive).trans (by decide), hz.discarded_eq⟩
    | x11 fd hsml info =>
      refine ⟨⟨rfl, rfl, rfl⟩, .inr (.inr ⟨_, ⟨rfl, rfl, nofun, .inl rfl, rfl, hsml, nofun⟩, ?_⟩)⟩
      exact ⟨Nat.le_refl _, fun _ => rfl⟩
    | server requestTypes info => exact ⟨rfl, rfl, fun _ => ⟨rfl, rfl, rfl⟩, fun hne =>
        absurd rfl hne⟩
    | client input out err pty x11 cmd escape =>
      have hactions : 0 < (sessionActions pty x11 cmd).length := by
        rw [sessionActions.eq_def, length_append]
        exact Nat.succ_pos _
      refine ⟨⟨⟨rfl, rfl, rfl⟩, ⟨rfl, rfl, rfl⟩, serial_sessionActions pty x11 cmd, Nat.zero_le _⟩,
        fun _ => ⟨rfl, rfl, rfl⟩, fun hdone => absurd hdone hactions.ne⟩
  · rintro x sock info ser i rfl
    have hbld : Balanced tcpipWindowSize.toNat
        (fresh (makeChannelForward sock tcpipWindowSize) (some info) ser i) 0 :=
      ⟨Nat.le_refl _, fun _ => rfl⟩
    obtain ⟨hfws, hwr⟩ := Forwards.startIo
      (t := (⟨[]⟩ : Turn (fresh (makeChannelForward sock tcpipWindowSize) (some info) ser i)))
      (.inl rfl) nofun hbld
    have hbfr : SocketBuffer
        (fresh (makeChannelForward sock tcpipWindowSize) (some info) ser i) := ⟨rfl, rfl, rfl⟩
    exact ⟨⟨hbfr.of_write hwr, .inl hfws⟩, obeys_true _⟩

instance (display : ClientX11Display) : Decidable (SmallDisplay display) :=
  inferInstanceAs (Decidable (_ ≤ _))

instance (x : SshChannel Forward) (n : Notice) : Decidable (RoomForReply x n) :=
  inferInstanceAs (Decidable (_ → _))

/-- The condition on an event: the cookie of an X11 display is not too long, and there is space in
the write buffer of a SOCKS channel that is denied. -/
def WindowGuard : SshConnection App → ProgramEvent → Prop :=
  ProgramGuard (onKind RoomForReply (fun _ _ => True) fun _ _ => True)
    (onKind (fun _ _ => True) (fun _ _ => True) fun _ _ => True) SmallDisplay fun _ _ => True

instance (c : SshConnection App) (event : ProgramEvent) : Decidable (WindowGuard c event) :=
  inferInstanceAs (Decidable (ProgramGuard _ _ _ _ c event))

/-- **The receive window accounts for buffered data**, in every run in which the cookies of X11
displays fit the buffer and there is space for the replies of SOCKS channels. -/
theorem run_programStep_accounted (types requests : List Atom) (fallback : Bool)
    (events : List ProgramEvent)
    (hguard : Guarded programStep WindowGuard (initSshConnection types requests fallback) events) :
    Ensures (fun _ => True) (AllChannels Accounted)
      (run programStep (initSshConnection types requests fallback) events) := by
  have hrun := run_programStep_allChannels window_rules types requests fallback hguard
  refine hrun.mono fun d hd i x hx => ?_
  have hwin := hd i x hx
  rw [Accounted, onKind]
  rw [onKind] at hwin
  split at hwin
  · exact hwin.accounted
  · exact hwin.accounted
  · exact hwin.accounted

/-- A display with the cookie `data`. Its fake cookie is all zeros. -/
def displayOf (data : LshString) : ClientX11Display where
  fake := lshString (List.replicate 16 0)
  authName := lshString mitCookieName
  authData := data
  fake_length := by decide

/-- The server opens an X11 channel, and sends the first message with the fake cookie. -/
def x11Setup (data : LshString) (res : WriteResult) : List ProgramEvent :=
  [.receive ([90, 0, 0, 0, 3] ++ Atom.x11.octets ++
    [0, 0, 0, 7, 0, 0, 1, 0, 0, 0, 1, 0]) idleSystem,
    .x11Connected 0 5 (displayOf data),
    .receive ([94, 0, 0, 0, 0, 0, 0, 0, 48, 0x42, 0, 0, 11, 0, 0, 0, 18, 0, 16, 0, 0] ++
      mitCookieName ++
      List.replicate 18 0) { idleSystem with write := res }]

/-- A cookie of 10000 octets. -/
def longCookie : LshString := ⟨List.replicate 10000 0, by rw [List.length_replicate]; decide⟩

/-- The message with a cookie of 10000 octets does not fit the buffer, and the window wraps. -/
theorem run_programStep_longCookie :
    ∃ c x data,
      run programStep (initSshConnection [.x11] [] false)
        (x11Setup longCookie .wouldBlock) = .ok c ∧
      channelAt c 0 = some x ∧ x.app = .forward data ∧ data.write.overflowed = true ∧
      10000 < x.recWindowSize.toNat ∧ ¬Accounted x := by
  have hchk : (run programStep (initSshConnection [.x11] [] false)
      (x11Setup longCookie .wouldBlock)).toOption.any
      (fun c => (channelAt c 0).any (onKind
        (fun x => decide (x.app.write.overflowed = true ∧ 10000 < x.recWindowSize.toNat))
        (fun _ => false) fun _ => false)) = true := by
    decide +kernel
  obtain ⟨c, hrun, hc⟩ := exists_ok_of_any hchk
  obtain ⟨x, hx, hov⟩ := (Option.any_eq_true _ _).mp hc
  rw [onKind] at hov
  split at hov
  · rename_i data happ
    obtain ⟨hovfd, hwin⟩ := of_decide_eq_true hov
    refine ⟨c, x, data, hrun, hx, happ, hovfd, hwin, fun hacd => ?_⟩
    rw [Accounted, onKind, happ] at hacd
    exact Bool.false_ne_true (hacd.1.symm.trans hovfd)
  · cases hov
  · cases hov

/-- The message with a short cookie is written in part, data follows it, and some of that is
ignored. -/
def x11Session : List ProgramEvent :=
  x11Setup (lshString (List.replicate 16 1)) (.wrote 20) ++
    [.receive [94, 0, 0, 0, 0, 0, 0, 0, 3, 1, 2, 3] idleSystem,
      .receive [95, 0, 0, 0, 0, 0, 0, 0, 1, 0, 0, 0, 2, 4, 5] idleSystem,
      .activity 0 (.write .oopWriteSocket (.wrote 24))]

theorem run_programStep_accounted_x11 :
    Guarded programStep WindowGuard (initSshConnection [.x11] [] false) x11Session ∧
      ((run programStep (initSshConnection [.x11] [] false) x11Session).toOption.any fun c =>
        (channelAt c 0).any fun x => match x.app with
          | .forward data => decide (x.recWindowSize = 9993 ∧ data.write.buffered.length = 5 ∧
              data.discarded = 2)
          | _ => false) = true ∧
      Ensures (fun _ => True) (AllChannels Accounted)
        (run programStep (initSshConnection [.x11] [] false) x11Session) :=
  ⟨by decide +kernel, by decide +kernel,
    run_programStep_accounted [.x11] [] false x11Session (by decide +kernel)⟩

end Lsh.Channel
