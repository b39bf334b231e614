
import Lsh.Channel.Socks

/-!
# The SOCKS handshake cannot fail

The functions of `socks.c` leave `abort` and `fatal` for what they take to be impossible: a state in
which nothing is to be read, an address type that has not been checked, a version that has not been
checked. Which octets arrive, in which pieces, and how much of a reply can be written is up to the
client.

Two things are not caught in the state that introduces them. An address type other than 1, 3 and 4
leads from `SOCKS_COMMAND_HEADER` to `SOCKS_COMMAND_ADDR` all the same. And `socks_close` leaves the
loop of `oop_read_socks` running when the reply to the methods could not be written at once.

## Main results

* `run_socksStep_safe` — apart from these, no callback fails, and what is not the beginning of a
  message and not a `CONNECT` request ends with the socket closed
-/

namespace Lsh.Channel

open Machine Io List

/-! ### Messages -/

/-- The client wants none of the supported methods, and has said so completely. -/
def Socks.OffersNone (self : Socks) : Prop :=
  self.octet 0 = 5 ∧ 2 + (self.octet 1).toNat ≤ self.buffer.length ∧
    0 ∉ (self.buffer.drop 2).take (self.octet 1).toNat

instance (self : Socks) : Decidable self.OffersNone := by
  unfold Socks.OffersNone
  infer_instance

/-- The length of a request of version 5, for an address that is supported. -/
def Socks.requestLength (self : Socks) : Option ℕ :=
  if self.octet 3 = 1 then some 10
  else if self.octet 3 = 4 then some 22
  else if self.octet 3 = 3 ∧ self.octet 4 ≠ 0 then some (7 + (self.octet 4).toNat)
  else none

/-- What has been read is a complete and well-formed `CONNECT` request for a target. -/
def Socks.Connects (env : SocksEnv) (self : Socks) (target : SocksTarget) : Prop :=
  self.octet 1 = 1 ∧
    (self.octet 0 = 4 ∧ 9 ≤ self.buffer.length ∧
        socks2addressInfo env.inet6 1 (self.buffer.drop 4) = .ok target.host ∧
        target.port = self.uint16 2 ∨
      self.octet 0 = 5 ∧ self.octet 2 = 0 ∧ ∃ n, self.requestLength = some n ∧
        n ≤ self.buffer.length ∧
        socks2addressInfo env.inet6 (self.octet 3) (self.buffer.drop 4) = .ok target.host ∧
        target.port = self.uint16 (n - 2))

/-- What has been read is the beginning of a message, and more is needed. -/
def Socks.Incomplete (self : Socks) : Prop :=
  self.buffer.length < self.length ∧
    match self.state with
    | .versionHeader => self.length = 2
    | .versionMethods => self.octet 0 = 5 ∧ self.length = 2 + (self.octet 1).toNat
    | .socks4Command => self.octet 0 = 4 ∧ self.length = 9
    | .commandHeader => self.length = 5
    | .commandAddr => self.octet 0 = 5 ∧ self.octet 2 = 0 ∧ self.requestLength = some self.length
    | .commandWait => False
    | .close => False

/-! ### Runs -/

variable {z : SshChannel Forward} {t : Turn z} {res : WriteResult}

/-- One callback, together with the target of the channel that has been opened. -/
def socksStep (env : SocksEnv) (r : Turn z × Option SocksTarget) (input : SocksInput) :
    Except ProgramError (Turn z × Option SocksTarget) := do
  let (t, target) ← socksInput env r.1 input
  return (t, target.or r.2)

/-- The condition for a message in the buffer, with what a write does. -/
def MessageGuard (self : Socks) (res : WriteResult) : Prop :=
  match self.state with
  | .versionHeader => self.OffersNone → res ≠ .wouldBlock ∧ res ≠ .wrote 0
  | .versionMethods => self.OffersNone → res ≠ .wouldBlock ∧ res ≠ .wrote 0
  | .commandHeader =>
    5 ≤ self.buffer.length → self.octet 1 = 1 → self.octet 3 = 1 ∨ self.octet 3 = 3 ∨
      self.octet 3 = 4
  | .commandAddr =>
    5 ≤ self.buffer.length → self.octet 1 = 1 → self.octet 3 = 1 ∨ self.octet 3 = 3 ∨
      self.octet 3 = 4
  | _ => True

instance (self : Socks) (res : WriteResult) : Decidable (MessageGuard self res) := by
  unfold MessageGuard
  split <;> infer_instance

/-- The fields after some octets have been read. -/
def Socks.read (self : Socks) (s : Octets) : Socks := { self with buffer := self.buffer ++ s }

/-- The condition for a callback. -/
def SocksGuard (r : Turn z × Option SocksTarget) : SocksInput → Prop
  | .read (.data b s) write =>
    match r.1.app.self with
    | .socks self =>
      MessageGuard (self.read ((b :: s).take (r.1.app.read.bufferSize - self.buffer.length))) write
    | _ => True
  | _ => True

instance (r : Turn z × Option SocksTarget) (input : SocksInput) :
    Decidable (SocksGuard r input) := by
  unfold SocksGuard
  split
  · split <;> infer_instance
  · infer_instance

/-- What the client has achieved: its socket is closed, or more octets are awaited, or a channel has
been opened for its request and both answers can be given to it. -/
def SocksSafe (env : SocksEnv) (r : Turn z × Option SocksTarget) : Prop :=
  ∃ self, r.1.channel.app.self = .socks self ∧
    (r.1.channel.alive = false ∨
      r.2 = none ∧ self.Incomplete ∨
      ∃ target, r.2 = some target ∧ self.state = .commandWait ∧ self.Connects env target ∧
        ∀ status res, ∃ u, socksReply r.1 self status res = .ok u)

/-! ### Writing -/

/-- The write callback is registered only when there is something to write. -/
def Flushable (x : SshChannel Forward) : Prop :=
  x.app.write.registered.isSome → x.app.write.buffered ≠ []

theorem Flushable.setSelf (h : Flushable t.channel) (self) :
    Flushable (t.setSelf self).channel := by
  rw [Turn.channel_setSelf]
  exact h

theorem Flushable.setRead (h : Flushable t.channel) (read) :
    Flushable (t.setRead read).channel := by
  rw [Turn.channel_setRead]
  exact h

theorem Flushable.kill (h : Flushable t.channel) : Flushable (doKillChannelForward t).channel := by
  rw [channel_doKillChannelForward]
  split_ifs
  · exact nofun
  · exact h

theorem alive_doKillChannelForward (t : Turn z) :
    (doKillChannelForward t).channel.alive = false := by
  rw [channel_doKillChannelForward]
  split_ifs with hal
  · rfl
  · exact Bool.eq_false_iff.mpr hal

theorem flushable_kill (hal : t.channel.alive) : Flushable (doKillChannelForward t).channel := by
  rw [channel_doKillChannelForward, if_pos hal]
  exact nofun

theorem flushable_stopWrite (hal : t.channel.alive) (hus : t.channel.app.write.Uses .oopWriteSocks)
    (self) :
    Flushable (socksStopWrite t self).channel := by
  rw [socksStopWrite]
  split_ifs
  · exact flushable_kill hal
  · rw [Turn.channel_setWrite]
    intro hsome
    have hno : t.app.write.channelIoStopWrite.registered = none := hus.registered_stopWrite
    exact absurd (hno ▸ hsome) (by simp)

theorem flushable_startWrite (hbuf : t.channel.app.write.buffered ≠ []) :
    Flushable (socksStartWrite t).channel := by
  intro _
  rw [socksStartWrite, Turn.channel_setWrite, WriteState.channelIoStartWrite]
  split_ifs
  · exact hbuf
  · exact hbuf

theorem socksWrite_flushable (hal : t.channel.alive) (hus : t.channel.app.write.Uses .oopWriteSocks)
    (self data res) :
    Leaves Flushable (socksWrite t self data res) := by
  refine apply_uses.bind fun r hr => ?_
  obtain ⟨done, write⟩ := r
  have hwr : (t.setWrite write).channel = { t.channel with app := { t.channel.app with
      write := write } } := t.channel_setWrite write
  dsimp only
  split_ifs with _ hbuf
  · exact flushable_kill (by rw [hwr]; exact hal)
  · exact flushable_startWrite (by rw [hwr]; exact hbuf)
  · exact flushable_stopWrite (by rw [hwr]; exact hal) (by rw [hwr]; exact hr _ hus) self

theorem oopWriteSocks_flushable (hal : t.channel.alive)
    (hus : t.channel.app.write.Uses .oopWriteSocks) (self res) :
    Leaves Flushable (oopWriteSocks t self res) := by
  refine apply_uses.bind fun r hr => ?_
  obtain ⟨done, write⟩ := r
  have hwr : (t.setWrite write).channel = { t.channel with app := { t.channel.app with
      write := write } } := t.channel_setWrite write
  dsimp only
  split
  · exact flushable_kill (by rw [hwr]; exact hal)
  · split_ifs with hbuf
    · exact flushable_stopWrite (by rw [hwr]; exact hal) (by rw [hwr]; exact hr _ hus) self
    · intro _
      rw [hwr]
      exact hbuf

/-- A failure of `write` is reported. -/
theorem apply_failed (file : WriteState) (data) :
    Returns (fun r => r.1 = .error .failed ∨ r.1 = .error .overflow)
      (file.apply (sshWriteData · 0 data .failed)) := by
  rw [WriteState.apply]
  split
  · trivial
  · split
    · trivial
    · rename_i st w hw
      obtain ⟨_, _, hkeep⟩ := bind_eq_ok.mp hw
      cases hkeep
      rw [keep]
      split_ifs
      · split
        · exact .inl rfl
        · exact .inr rfl
      · exact .inl rfl

/-- A reply that is written at once leaves nothing to write, and one that cannot be written closes
the socket. -/
theorem socksWrite_at_once {self : Socks} (hbuf : t.channel.app.write.buffered = []) (data : Octets)
    (hdata : data.length = 2) (hres : res ≠ .wouldBlock ∧ res ≠ .wrote 0)
    (hself : self.state ≠ .close) :
    Returns
      (fun u : Turn z => u.channel.alive = false ∨ u.channel.app.write.buffered = [])
      (socksWrite t self data res) := by
  rw [socksWrite]
  cases res with
  | wouldBlock => exact absurd rfl hres.1
  | failed =>
    refine (apply_failed _ data).bind fun r hr => ?_
    dsimp only
    rw [if_pos hr]
    exact .inl (alive_doKillChannelForward _)
  | wrote n =>
    have hn : n ≠ 0 := fun hz0 => hres.2 (congrArg _ hz0)
    rw [WriteState.apply, Turn.app]
    cases hst : t.channel.app.write.state with
    | none => trivial
    | some st =>
      rw [WriteState.buffered, hst] at hbuf
      have hbfr : st.buffer = [] := hbuf
      have hall := sshWriteData_all hbfr (ne_nil_of_length_pos (by omega))
        (show data.length ≤ 0x4000 by omega) (show data.length ≤ n + 1 by omega)
      dsimp only
      rw [hall]
      rw [ok_bind, if_neg (by simp), if_neg (by simp [WriteState.buffered, hbfr]),
        socksStopWrite, if_neg hself]
      right
      simp [WriteState.buffered, hbfr, Turn.app]

/-- `socks_close` with nothing to write. -/
theorem socksClose_closes
    (h : t.channel.alive = false ∨ t.channel.app.write.buffered = []) (self : Socks) :
    (socksClose t self).channel.alive = false := by
  rw [socksClose]
  split_ifs with hbuf
  · rcases h with hdd | hnil
    · simpa using hdd
    · exact absurd (by simpa [Turn.app] using hnil) hbuf
  · exact alive_doKillChannelForward _

/-! ### The loop -/

/-- The fields of a handshake while octets are read. A request of version 5 with another address
type is refused in the next turn because of its command. -/
def Socks.Begins (self : Socks) : Prop :=
  match self.state with
  | .versionHeader => self.length = 2
  | .versionMethods => self.version = 5 ∧ 2 ≤ self.buffer.length ∧
    self.octet 0 = 5 ∧ self.length = 2 + (self.octet 1).toNat
  | .socks4Command => self.version = 4 ∧ 2 ≤ self.buffer.length ∧
    self.octet 0 = 4 ∧ self.length = 9
  | .commandHeader => self.version = 5 ∧ self.length = 5
  | .commandAddr => self.version = 5 ∧ 5 ≤ self.buffer.length ∧
    self.octet 0 = 5 ∧ self.octet 2 = 0 ∧
    (self.requestLength = some self.length ∨
      self.octet 1 ≠ 1 ∧ self.length ≤ self.buffer.length)
  | .commandWait => False
  | .close => False

theorem Socks.Begins.incomplete {self : Socks} (h : self.Begins)
    (hlt : self.buffer.length < self.length) : self.Incomplete := by
  refine ⟨hlt, ?_⟩
  rw [Socks.Begins] at h
  cases hst : self.state with
  | versionHeader => simpa only [hst] using h
  | versionMethods | socks4Command =>
    simp only [hst] at h
    exact h.2.2
  | commandHeader =>
    simp only [hst] at h
    exact h.2
  | commandAddr =>
    simp only [hst] at h
    obtain ⟨_, _, hver, hz0, hlen | ⟨_, hle⟩⟩ := h
    · exact ⟨hver, hz0, hlen⟩
    · omega
  | commandWait | close => simp only [hst] at h

theorem Socks.octet_read {n : ℕ} {self : Socks} (h : n < self.buffer.length) (s) :
    (self.read s).octet n = self.octet n := by
  rw [octet, octet, getD_eq_getElem?_getD, getD_eq_getElem?_getD, Socks.read,
    getElem?_append_left h]

/-- More octets are read. -/
theorem Socks.Begins.read {self : Socks} (h : self.Begins) (hlt : self.buffer.length < self.length)
    (s) : (self.read s).Begins := by
  have hlen : self.buffer.length ≤ (self.read s).buffer.length := by
    rw [Socks.read, length_append]
    omega
  have hst : (self.read s).state = self.state := rfl
  rw [Socks.Begins] at h ⊢
  rw [hst]
  cases hst : self.state with
  | versionHeader =>
    simp only [hst] at h
    exact h
  | versionMethods =>
    simp only [hst] at h
    obtain ⟨hver, htwo, hz0, hone⟩ := h
    refine ⟨hver, by omega, ?_, ?_⟩
    · rwa [octet_read (by omega)]
    · rwa [octet_read (by omega)]
  | socks4Command =>
    simp only [hst] at h
    obtain ⟨hver, htwo, hz0, hnine⟩ := h
    exact ⟨hver, by omega, by rwa [octet_read (by omega)], hnine⟩
  | commandHeader =>
    simp only [hst] at h
    exact h
  | commandAddr =>
    simp only [hst] at h
    obtain ⟨hver, hfive, hz0, hrsv, hreq | ⟨_, hle⟩⟩ := h
    · refine ⟨hver, by omega, ?_, ?_, .inl ?_⟩
      · rwa [octet_read (by omega)]
      · rwa [octet_read (by omega)]
      · rwa [requestLength, octet_read (by omega), octet_read (by omega)]
    · omega
  | commandWait | close => simp only [hst] at h

/-- The state of a handshake. -/
structure Handshaking (s : Socks) (x : SshChannel Forward) : Prop
    extends Shaking s.state.pending x where
  self_eq : x.app.self = .socks s
  flushable : Flushable x

/-- Octets are read. -/
structure Asking (s : Socks) (x : SshChannel Forward) : Prop extends Handshaking s x where
  registered_eq : x.alive → x.app.read.registered = some .oopReadSocks
  begins : x.alive → s.Begins

/-- A channel has been opened. -/
structure Granted (env : SocksEnv) (target : SocksTarget) (s : Socks)
    (x : SshChannel Forward) : Prop extends Handshaking s x where
  read_eq : x.app.read.registered = none
  state_eq : s.state = .commandWait
  version_eq : s.version = 4 ∨ s.version = 5
  connects : s.Connects env target

variable {self : Socks} {t : Turn z} {n : ℕ}

theorem Handshaking.kill (hself : t.channel.app.self = .socks self) (h : Shaking n t.channel)
    (hfls : Flushable t.channel) : Handshaking self (doKillChannelForward t).channel where
  toShaking := h.kill _
  self_eq := by
    rw [channel_doKillChannelForward]
    split_ifs
    · exact hself
    · exact hself
  flushable := hfls.kill

theorem Handshaking.socksClose (h : Shaking 2 t.channel) (hfls : Flushable t.channel) (self) :
    Handshaking { self with state := .close } (socksClose t self).channel := by
  have hcl : Shaking 2 (t.setSelf (.socks { self with state := .close })).channel :=
    h.setSelf (Nat.le_refl _) _
  rw [Channel.socksClose]
  split_ifs
  · exact ⟨hcl.setRead (.inl rfl), by simp, (hfls.setSelf _).setRead _⟩
  · exact Handshaking.kill (by simp) hcl (hfls.setSelf _)

theorem Handshaking.asking_of_dead {x : SshChannel Forward} (h : Handshaking self x)
    (hdd : x.alive = false) :
    Asking self x where
  toHandshaking := h
  registered_eq hal := absurd (hal.symm.trans hdd) (by simp)
  begins hal := absurd (hal.symm.trans hdd) (by simp)

theorem Asking.of_setSelf (h : Shaking n t.channel) (hfls : Flushable t.channel)
    (hle : n ≤ self.state.pending)
    (hreg : t.channel.alive → t.channel.app.read.registered = some .oopReadSocks)
    (hbeg : self.Begins) : Asking self (t.setSelf (.socks self)).channel where
  toShaking := h.setSelf hle _
  self_eq := by rw [Turn.channel_setSelf]
  flushable := hfls.setSelf _
  registered_eq := by
    rw [Turn.channel_setSelf]
    exact hreg
  begins _ := hbeg

/-- How often the loop can still go round with what has been read. -/
def Socks.turns (self : Socks) : ℕ :=
  if self.buffer.length < self.length then 0
  else
    match self.state with
    | .versionHeader => 2
    | .commandHeader => 2
    | _ => 1

theorem Socks.turns_le_one (hhd : self.state ≠ .versionHeader)
    (hcmd : self.state ≠ .commandHeader) :
    self.turns ≤ 1 := by
  rw [Socks.turns]
  split_ifs
  · exact Nat.zero_le _
  · split
    · contradiction
    · contradiction
    · exact Nat.le_refl _

theorem Socks.turns_le_two (self : Socks) : self.turns ≤ 2 := by
  rw [Socks.turns]
  split_ifs
  · exact Nat.zero_le _
  · split <;> decide

/-- What a turn of the loop leaves. -/
def TurnSafe (env : SocksEnv) (res : WriteResult) (n : ℕ)
    (r : Turn z × Option SocksTarget) : Prop :=
  match r.2 with
  | none => ∃ self, Asking self r.1.channel ∧
    (r.1.channel.alive → self.turns < n ∧ MessageGuard self res)
  | some target => ∃ self, Granted env target self r.1.channel

variable (env : SocksEnv) {m : ℕ}

/-- The socket is closed. -/
theorem TurnSafe.dead
    (h : Handshaking self t.channel) (hdd : t.channel.alive = false) :
    TurnSafe env res m (t, none) :=
  ⟨self, h.asking_of_dead hdd, fun hal => absurd (hal.symm.trans hdd) (by simp)⟩

theorem TurnSafe.fail
    (hself : t.channel.app.self = .socks self) (h : Shaking n t.channel)
    (hfls : Flushable t.channel) : TurnSafe env res m (socksFail t, none) :=
  TurnSafe.dead env (Handshaking.kill hself h hfls) (alive_doKillChannelForward t)

/-- The loop goes on in another state. -/
theorem TurnSafe.goOn
    (h : Shaking n t.channel) (hfls : Flushable t.channel) (hle : n ≤ self.state.pending)
    (hreg : t.channel.alive → t.channel.app.read.registered = some .oopReadSocks)
    (hbeg : self.Begins) (htns : self.turns < m) (hgd : MessageGuard self res) :
    TurnSafe env res m (t.setSelf (.socks self), none) :=
  ⟨self, Asking.of_setSelf h hfls hle hreg hbeg, fun _ => ⟨htns, hgd⟩⟩

theorem pending_le (st : SocksState) : st.pending ≤ 2 := by
  cases st <;> decide

/-- Writing in the handshake. -/
theorem Handshaking.socksWrite (h : Handshaking self t.channel) (hal : t.channel.alive)
    (data : Octets) (hdata : data ≠ []) (hlen : data.length ≤ 10) (res) :
    Yields
      (fun u : Turn z => Shaking (self.state.pending + data.length) u.channel ∧
        u.channel.app.self = .socks self ∧ Flushable u.channel ∧
        (u.channel.alive → u.channel.app.read = t.channel.app.read))
      (socksWrite t self data res) := by
  have hspc : t.channel.app.write.buffered.length + data.length ≤ t.channel.app.write.size := by
    have hle := h.length_le hal
    have hpen := pending_le self.state
    rw [h.size_eq, show tcpipWindowSize.toNat = 10000 from rfl]
    omega
  refine ((socksWrite_sends h.state_isSome hspc hdata self res).and
    (socksWrite_flushable hal h.uses self data res)).mono fun u hu => ?_
  obtain ⟨hsds, hfls⟩ := hu
  exact ⟨h.sends hal hsds, hsds.self_eq.trans h.self_eq, hfls, fun hu => (hsds.alive_of_alive hu).2⟩

/-- `socks_reply` for a known version. -/
theorem Handshaking.socksReply (h : Handshaking self t.channel) (hal : t.channel.alive)
    (hver : self.version = 4 ∨ self.version = 5) (status res) :
    Yields
      (fun u : Turn z => (∃ n, Shaking n u.channel) ∧ u.channel.app.self = .socks self ∧
        Flushable u.channel)
      (socksReply t self status res) := by
  have hsome : ∃ data, socksReplyOctets self.version status = some data := by
    rcases hver with hfour | hfive
    · exact ⟨_, by rw [hfour]; rfl⟩
    · exact ⟨_, by rw [hfive]; rfl⟩
  obtain ⟨data, hdata⟩ := hsome
  obtain ⟨hne, hlen⟩ := length_socksReplyOctets hdata
  rw [Channel.socksReply, hdata]
  exact (h.socksWrite hal data hne hlen res).mono fun u hu => ⟨⟨_, hu.1⟩, hu.2.1, hu.2.2.1⟩

variable {atype : UInt8}

theorem socks2addressInfo_total (h : atype = 1 ∨ atype = 3 ∨ atype = 4) (addr) :
    ∃ host, socks2addressInfo env.inet6 atype addr = .ok host := by
  rcases h with rfl | rfl | rfl
  · exact ⟨_, rfl⟩
  · exact ⟨_, rfl⟩
  · exact ⟨_, rfl⟩

/-- `socks_command`, for an address type that is supported. -/
theorem Asking.socksCommand {command : UInt8} {addr : Octets} {port : ℕ} (h : Asking self t.channel)
    (hal : t.channel.alive = true)
    (hver : self.version = 4 ∨ self.version = 5) {env : SocksEnv}
    (hty : command = 1 → atype = 1 ∨ atype = 3 ∨ atype = 4)
    (hcns : ∀ host, command = 1 → socks2addressInfo env.inet6 atype addr = .ok host →
      Socks.Connects env { self with state := .commandWait } ⟨host, port⟩) (res m) :
    Yields (TurnSafe env res m) (socksCommand t self env command atype addr port res) := by
  have hrefuse (status : UInt8) : Yields (TurnSafe env res m) (do
      let t ← Channel.socksReply t self status res
      return (socksFail t, (none : Option SocksTarget))) := by
    refine (h.socksReply hal hver status res).bind fun u hu => ?_
    obtain ⟨⟨k, hshk⟩, hself, hfls⟩ := hu
    exact TurnSafe.fail env hself hshk hfls
  rw [Channel.socksCommand]
  split_ifs with hcmd
  · exact hrefuse 7
  · rw [not_ne_iff] at hcmd
    obtain ⟨host, hho⟩ := socks2addressInfo_total env (hty hcmd) addr
    rw [hho, ok_bind]
    split_ifs
    swap
    · exact hrefuse 1
    have hact : (t.setSelf (.socks { self with state := .commandWait })).app.read.active =
      true := by
      have hread := h.active (by rw [h.registered_eq hal]; rfl)
      simpa [Turn.app] using hread
    refine ⟨{ self with state := .commandWait }, ⟨⟨?_, by simp, ?_⟩, ?_, rfl, hver,
      hcns host hcmd hho⟩⟩
    · refine (h.setSelf (pending_le self.state) _).setRead (.inl ?_)
      rw [ReadState.channelIoStopRead, if_pos hact]
    · exact (h.flushable.setSelf _).setRead _
    · rw [Turn.channel_setRead]
      rw [ReadState.channelIoStopRead, if_pos hact]

/-- The address type of a request of version 5 decides about its length. -/
theorem requestLength_eq_some (h : self.requestLength = some n) :
    self.octet 3 = 1 ∨ self.octet 3 = 3 ∨ self.octet 3 = 4 := by
  rw [Socks.requestLength] at h
  split_ifs at h with hip4 hip6 hdns
  · exact .inl hip4
  · exact .inr (.inr hip6)
  · exact .inr (.inl hdns.1)

section Turns

variable (h : Asking self t.channel) (hal : t.channel.alive = true)
  (hle : self.length ≤ self.buffer.length) (hgd : MessageGuard self res) (env : SocksEnv)

include h hal hle hgd

theorem socksProcess_versionHeader (hst : self.state = .versionHeader) :
    Yields (TurnSafe env res 2) (socksProcess t self env res) := by
  have hbeg := h.begins hal
  have hshk := h.toShaking
  simp only [Socks.Begins, hst] at hbeg
  simp only [MessageGuard, hst] at hgd
  rw [hst] at hshk
  have hlen : 2 ≤ self.buffer.length := by omega
  rw [socksProcess.eq_def, hst]
  dsimp only
  split_ifs with hfour hfive
  · exact TurnSafe.goOn env hshk h.flushable (Nat.zero_le _) h.registered_eq
      ⟨hfour, hlen, hfour, rfl⟩ (Nat.lt_succ_of_le (Socks.turns_le_one (by simp) (by simp))) trivial
  · exact TurnSafe.goOn env hshk h.flushable (Nat.zero_le _) h.registered_eq
      ⟨hfive, hlen, hfive, rfl⟩ (Nat.lt_succ_of_le (Socks.turns_le_one (by simp) (by simp))) hgd
  · exact TurnSafe.fail env (by rw [Turn.channel_setSelf]) (hshk.setSelf (Nat.le_refl _) _)
      (h.flushable.setSelf _)

theorem socksProcess_versionMethods (hst : self.state = .versionMethods) :
    Yields (TurnSafe env res 1) (socksProcess t self env res) := by
  have hbeg := h.begins hal
  have hpen := h.length_le hal
  simp only [Socks.Begins, hst] at hbeg
  simp only [MessageGuard, hst] at hgd
  rw [hst] at hpen
  obtain ⟨hver, _, hz0, hlen⟩ := hbeg
  rw [socksProcess.eq_def, hst]
  dsimp only
  split_ifs with hmet
  · refine (h.socksWrite hal [self.version, 0] (by simp) (by simp) res).bind fun u hu => ?_
    obtain ⟨hshk, _, hfls, hread⟩ := hu
    refine TurnSafe.goOn env hshk hfls ?_ ?_ ⟨hver, rfl⟩ ?_ (by rintro ⟨⟩)
    · rw [hst]
      exact Nat.le_refl _
    · intro hu
      rw [hread hu]
      exact h.registered_eq hal
    · exact Nat.one_pos
  · -- with nothing else to write, the refusal is written now or never
    have hbuf : t.channel.app.write.buffered = [] :=
      List.length_eq_zero_iff.mp (Nat.le_zero.mp hpen)
    have hres := hgd ⟨hz0, by omega, hmet⟩
    have hwr := h.socksWrite hal [self.version, 0xff] (by simp) (by simp) res
    have hat := socksWrite_at_once hbuf [self.version, 0xff] rfl hres
      (show self.state ≠ .close by rw [hst]; simp)
    refine (hwr.and hat).bind fun u hu => ?_
    obtain ⟨⟨hshk, _, hfls, _⟩, hcld⟩ := hu
    rw [hst] at hshk
    exact TurnSafe.dead env (Handshaking.socksClose hshk hfls self) (socksClose_closes hcld self)

theorem socksProcess_commandHeader (hst : self.state = .commandHeader) :
    Yields (TurnSafe env res 2) (socksProcess t self env res) := by
  have hbeg := h.begins hal
  have hshk := h.toShaking
  have hfls := h.flushable
  simp only [Socks.Begins, hst] at hbeg
  simp only [MessageGuard, hst] at hgd
  rw [hst] at hshk
  obtain ⟨hver, hlen⟩ := hbeg
  -- a request for another address type must be refused because of its command
  have hoth (hip4 : self.octet 3 ≠ 1) (hip6 : self.octet 3 ≠ 4) (hdns : self.octet 3 ≠ 3) :
      self.octet 1 ≠ 1 := by
    intro hcmd
    have hty := hgd (by omega) hcmd
    simp only [hip4, hip6, hdns, or_self] at hty
  have hgoOn (hgood : ¬(self.octet 0 ≠ self.version ∨ self.octet 2 ≠ 0)) (k : ℕ)
      (hk : self.requestLength = some k ∨ self.octet 1 ≠ 1 ∧ k ≤ self.buffer.length) :
      TurnSafe env res 2
        (t.setSelf (.socks { self with state := .commandAddr, length := k }), none) := by
    rw [not_or, not_ne_iff, not_ne_iff] at hgood
    exact TurnSafe.goOn env hshk hfls (Nat.le_refl _) h.registered_eq
      ⟨hver, show 5 ≤ self.buffer.length by omega, hgood.1.trans hver, hgood.2, hk⟩
      (Nat.lt_succ_of_le (Socks.turns_le_one nofun nofun)) hgd
  rw [socksProcess.eq_def, hst]
  dsimp only
  split_ifs with hbad hip4 hip6 hdns hemp
  · exact TurnSafe.fail env h.self_eq hshk hfls
  · exact hgoOn hbad 10 (.inl (if_pos hip4))
  · exact hgoOn hbad 22 (.inl ((if_neg hip4).trans (if_pos hip6)))
  · exact TurnSafe.fail env (by rw [Turn.channel_setSelf]) (hshk.setSelf (Nat.le_refl _) _)
      (hfls.setSelf _)
  · exact hgoOn hbad _ (.inl ((if_neg hip4).trans ((if_neg hip6).trans (if_pos ⟨hdns, hemp⟩))))
  · exact hgoOn hbad self.length (.inr ⟨hoth hip4 hip6 hdns, hle⟩)

/-- **One turn of the loop.** -/
theorem socksProcess_safe :
    Yields (TurnSafe env res self.turns) (socksProcess t self env res) := by
  have hbeg := h.begins hal
  have htns : self.turns = match self.state with
    | .versionHeader => 2
    | .commandHeader => 2
    | _ => 1 := if_neg (by omega)
  rw [Socks.Begins] at hbeg
  cases hst : self.state with
  | versionHeader =>
    simp only [hst] at htns
    rw [htns]
    exact socksProcess_versionHeader h hal hle hgd env hst
  | versionMethods =>
    simp only [hst] at htns
    rw [htns]
    exact socksProcess_versionMethods h hal hle hgd env hst
  | commandHeader =>
    simp only [hst] at htns
    rw [htns]
    exact socksProcess_commandHeader h hal hle hgd env hst
  | commandAddr =>
    simp only [hst] at hbeg
    obtain ⟨hver, _, hz0, hrsv, hlen⟩ := hbeg
    rw [socksProcess.eq_def, hst]
    refine h.socksCommand hal (.inr hver) ?_ ?_ res _
    · intro hcmd
      rcases hlen with hlen | ⟨hoth, _⟩
      · exact requestLength_eq_some hlen
      · exact absurd hcmd hoth
    · intro host hcmd hho
      refine ⟨hcmd, .inr ⟨hz0, hrsv, self.length, ?_, hle, hho, rfl⟩⟩
      exact hlen.resolve_right fun hoth => hoth.1 hcmd
  | socks4Command =>
    simp only [hst] at hbeg
    obtain ⟨hver, _, hz0, hlen⟩ := hbeg
    rw [socksProcess.eq_def, hst]
    refine h.socksCommand hal (.inl hver) (fun _ => .inl rfl) ?_ res _
    intro host hcmd hho
    exact ⟨hcmd, .inl ⟨hz0, by show 9 ≤ self.buffer.length; omega, hho, rfl⟩⟩
  | commandWait | close => simp only [hst] at hbeg

end Turns

/-- The state of a client between two callbacks. -/
def Served (env : SocksEnv) (r : Turn z × Option SocksTarget) : Prop :=
  match r.2 with
  | none => ∃ self, Asking self r.1.channel ∧
    (r.1.channel.alive → self.buffer.length < self.length)
  | some target => ∃ self, Granted env target self r.1.channel

/-- **The loop.** It ends because more is needed, and not because it has gone round often enough. -/
theorem socksLoop_served (fuel) (h : Asking self t.channel)
    (htns : t.channel.alive → self.turns < fuel ∧ MessageGuard self res) (hfuel : 0 < fuel) :
    Yields (Served env) (socksLoop env res fuel t) := by
  induction fuel generalizing t self with
  | zero => omega
  | succ fuel ih =>
    rw [socksLoop, Turn.app, h.self_eq]
    dsimp only
    split_ifs with hcd
    · obtain ⟨hal, _, hle⟩ := hcd
      obtain ⟨hlt, hgd⟩ := htns hal
      have hpos : 0 < self.turns := by
        rw [Socks.turns, if_neg (by omega)]
        split <;> decide
      refine (socksProcess_safe h hal hle hgd env).bind fun r hr => ?_
      obtain ⟨u, target⟩ := r
      cases target with
      | none =>
        obtain ⟨self', hask, hless⟩ := hr
        refine ih hask (fun hu => ⟨?_, (hless hu).2⟩) (by omega)
        have hdecreases := (hless hu).1
        omega
      | some target => exact hr
    · refine ⟨self, h, fun hal => ?_⟩
      by_contra hle
      have hact := h.active (by rw [h.registered_eq hal]; rfl)
      exact hcd ⟨hal, hact, Nat.not_lt.mp hle⟩

/-! ### Callbacks -/

theorem Handshaking.alive_of_registered (h : Handshaking self t.channel)
    (hreg : ¬(t.channel.app.read.registered = none ∧ t.channel.app.write.registered = none)) :
    t.channel.alive := by
  by_contra hdd
  exact hreg (h.dead (Bool.eq_false_iff.mpr hdd))

/-- `oop_read_socks`. -/
theorem oopReadSocks_served (h : Asking self t.channel)
    (hal : t.channel.alive) (hlt : self.buffer.length < self.length)
    {res : ReadResult} {write : WriteResult}
    (hgd : ∀ b s, res = .data b s →
      MessageGuard (self.read ((b :: s).take (t.app.read.bufferSize - self.buffer.length))) write) :
    Yields (Served env) (oopReadSocks t self env res write) := by
  have hfa : Served env (socksFail t, none) := by
    have hdd := alive_doKillChannelForward t
    have hkl := Handshaking.kill h.self_eq h.toShaking h.flushable
    exact ⟨self, hkl.asking_of_dead hdd, fun hu => absurd (hu.symm.trans hdd) (by simp)⟩
  rw [oopReadSocks.eq_def]
  dsimp only
  split_ifs
  · exact hfa
  · cases res with
    | failed errno | eof => exact hfa
    | data b s =>
      have hbeg := (h.begins hal).read hlt
        ((b :: s).take (t.app.read.bufferSize - self.buffer.length))
      have hread := Asking.of_setSelf (h.toShaking.mono (show _ ≤ (self.read _).state.pending from
        Nat.le_refl _)) h.flushable (Nat.le_refl _) h.registered_eq hbeg
      refine socksLoop_served env 4 hread (fun _ => ⟨?_, hgd b s rfl⟩) (by omega)
      exact Nat.lt_of_le_of_lt (Socks.turns_le_two _) (by omega)

/-- `oop_write_socks`. -/
theorem Handshaking.oopWriteSocks (h : Handshaking self t.channel)
    (hreg : t.app.write.registered = some .oopWriteSocks) (res) :
    Yields
      (fun u : Turn z => Handshaking self u.channel ∧
        (u.channel.alive → u.channel.app.read = t.channel.app.read) ∧
        (t.channel.app.read.registered = none → u.channel.app.read.registered = none))
      (oopWriteSocks t self res) := by
  have hal : t.channel.alive := h.alive_of_registered fun hno => by
    rw [Turn.app, hno.2] at hreg
    exact absurd hreg (by simp)
  have hbuf : t.channel.app.write.buffered ≠ [] := h.flushable (by
    rw [Turn.app] at hreg
    rw [hreg]
    rfl)
  refine ((oopWriteSocks_sends hbuf self res).and
    (oopWriteSocks_flushable hal h.uses self res)).mono fun u hu => ?_
  obtain ⟨hsds, hfls⟩ := hu
  refine ⟨⟨h.sends hal hsds, hsds.self_eq.trans h.self_eq, hfls⟩,
    fun hu => (hsds.alive_of_alive hu).2, fun hno => ?_⟩
  rcases hsds.kept with ⟨_, hread⟩ | ⟨_, hread, _⟩
  · rw [hread]
    exact hno
  · rw [hread]

/-- **One callback.** -/
theorem socksStep_served (r : Turn z × Option SocksTarget) (input) (h : Served env r)
    (hgd : SocksGuard r input) :
    Yields (Served env) (socksStep env r input) := by
  obtain ⟨t, target⟩ := r
  rw [socksStep, socksInput.eq_def]
  cases target with
  | none =>
    obtain ⟨self, hask, hlt⟩ := h
    have hself : t.app.self = .socks self := hask.self_eq
    have hsame : Served env (t, none) := ⟨self, hask, hlt⟩
    rw [hself]
    cases input with
    | read res write =>
      dsimp only
      split_ifs with hreg
      · have hal := hask.alive_of_registered fun hno => by
          rw [Turn.app, hno.1] at hreg
          exact absurd hreg (by simp)
        have hmsg (b : UInt8) (s : Octets) (hres : res = .data b s) : MessageGuard
            (self.read ((b :: s).take (t.app.read.bufferSize - self.buffer.length))) write := by
          subst hres
          simpa only [SocksGuard, hself] using hgd
        refine (oopReadSocks_served env hask hal (hlt hal) hmsg).bind fun r hr => ?_
        rwa [Option.or_none]
      · exact hsame
    | write res =>
      dsimp only
      split_ifs with hreg
      · have hal := hask.alive_of_registered fun hno => by
          rw [Turn.app, hno.2] at hreg
          exact absurd hreg (by simp)
        refine ((hask.oopWriteSocks hreg res).bind fun u hu => ?_).bind fun _ h => h
        obtain ⟨hhsk, hread, _⟩ := hu
        refine ⟨self, ⟨hhsk, fun hu => ?_, fun _ => hask.begins hal⟩, fun _ => hlt hal⟩
        exact (congrArg ReadState.registered (hread hu)).trans (hask.registered_eq hal)
      · exact hsame
  | some target =>
    obtain ⟨self, hgr⟩ := h
    have hself : t.app.self = .socks self := hgr.self_eq
    have hsame : Served env (t, some target) := ⟨self, hgr⟩
    rw [hself]
    cases input with
    | read res write =>
      have hno : ¬t.app.read.registered = some .oopReadSocks := by
        rw [Turn.app, hgr.read_eq]
        simp
      dsimp only
      rw [if_neg hno]
      exact hsame
    | write res =>
      dsimp only
      split_ifs with hreg
      · refine ((hgr.oopWriteSocks hreg res).bind fun u hu => ?_).bind fun _ h => h
        obtain ⟨hhsk, _, hread⟩ := hu
        exact ⟨self, hhsk, hread hgr.read_eq, hgr.state_eq, hgr.version_eq, hgr.connects⟩
      · exact hsame

theorem Served.safe (h : Served env r) : SocksSafe env r := by
  obtain ⟨t, target⟩ := r
  cases target with
  | none =>
    obtain ⟨self, hask, hlt⟩ := h
    refine ⟨self, hask.self_eq, ?_⟩
    by_cases hal : t.channel.alive = true
    · exact .inr (.inl ⟨rfl, (hask.begins hal).incomplete (hlt hal)⟩)
    · exact .inl (Bool.eq_false_iff.mpr hal)
  | some target =>
    obtain ⟨self, hgr⟩ := h
    refine ⟨self, hgr.self_eq, ?_⟩
    by_cases hal : t.channel.alive = true
    · refine .inr (.inr ⟨target, rfl, hgr.state_eq, hgr.connects, fun stat res => ?_⟩)
      obtain ⟨u, hu, _⟩ := (hgr.socksReply hal hgr.version_eq stat res).exists_ok
      exact ⟨u, hu⟩
    · exact .inl (Bool.eq_false_iff.mpr hal)

end Lsh.Channel
