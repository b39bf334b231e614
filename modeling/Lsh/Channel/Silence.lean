
import Lsh.Channel.ProgramSteps
import Lsh.Channel.Handshake

/-!
# Silence after CLOSE

Some of the functions of `channel.c` look at `CHANNEL_SENT_CLOSE` before they send something, and
some leave that to their callers: `channel_transmit_data` and `channel_transmit_extended`,
`channel_start_receive`, and `channel_request_reply`. `Timely` says that such a call is made for a
channel only as long as CLOSE has not been sent.

The programs do not keep to this. They go on reading after a write error has closed the channel,
they answer requests, and they start to receive when a process has been started. `QuietGuard` is
what must not happen to a closed channel.

## Main results

* `SilentInv.acts` — timely actions keep the record silent
* `run_programStep_silent` — nothing is sent after CLOSE if the guard is met
* `run_programStep_lateData` — a write error, after which a program sends data
-/

namespace Lsh.Channel

open Machine Io Table List

/-! ### The record -/

section Record

variable {κ : Type} {c d : SshConnection κ} {i : ℕ} {x y : SshChannel κ} {a : ChannelAction κ}

/-- The entry is CLOSE for a channel. -/
def Entry.IsClose (k : ℕ) : Entry → Prop
  | .sent (some k') (.close _) => k' = k
  | _ => False

/-- The entry is a message for a channel. -/
def Entry.IsMessage (k : ℕ) : Entry → Prop
  | .sent (some k') _ => k' = k
  | _ => False

/-- No message for a channel comes after its CLOSE. -/
def Silent (log : List Entry) : Prop :=
  log.Pairwise fun e e' => ∀ k, e.IsClose k → ¬e'.IsMessage k

/-- An action that leaves it to the program whether CLOSE has been sent. -/
def ChannelAction.IsUnchecked : ChannelAction κ → Prop
  | .startReceive _ => True
  | .transmit _ _ => True
  | .reply _ => True
  | _ => False

/-- Such an action is done only as long as CLOSE has not been sent. -/
def NotLate (c : SshConnection κ) : Action κ → Prop
  | .channel i a => a.IsUnchecked → ∀ x ∈ channelAt c i, x.flags.sentClose = false
  | _ => True

/-- The record is silent, and the flags of the objects are right about it. -/
structure SilentInv (c : SshConnection κ) : Prop where
  silent : Silent c.log
  flag : ∀ i x, channelAt c i = some x → (∃ e ∈ c.log, e.IsClose x.serial) → x.flags.sentClose
  lt : ∀ k, (∃ e ∈ c.log, Entry.IsClose k e) → k < c.nextSerial

/-- New entries on record. -/
theorem Silent.append {log es : List Entry} (h : Silent log) (hes : Silent es)
    (hnew : ∀ e ∈ es, ∀ k, e.IsMessage k → ∀ e' ∈ log, ¬e'.IsClose k) : Silent (log ++ es) :=
  List.pairwise_append.mpr ⟨h, hes, fun e' he' e he k hcl hmsg => hnew e he k hmsg e' he' hcl⟩

theorem silent_singleton (e) : Silent [e] := pairwise_singleton _ e

variable {k : ℕ}

theorem Entry.IsClose.isMessage {e : Entry} (h : e.IsClose k) : e.IsMessage k := by
  cases e with
  | sent ch m =>
    cases ch with
    | none => exact h
    | some k' =>
      cases m with
      | close n => exact h
      | _ => exact h.elim
  | _ => exact h

/-- An action that sends something is one that may be late, or is done before CLOSE. -/
theorem ChannelAction.not_sentClose_of_message (hguard : a.Guard x)
    (hmsg : (a.message x).isSome) : a.IsUnchecked ∨ x.flags.sentClose = false := by
  cases a with
  | adjust add => exact .inr hguard.2.2
  | startReceive w | reply res => exact .inl trivial
  | sendClose => exact .inr hguard
  | sendEof => exact .inr hguard.2.1
  | transmit type data => exact .inl trivial
  | request type want args => exact .inr hguard
  | _ => cases hmsg

theorem ChannelAction.sentClose_of_sentClose (a : ChannelAction κ) (h : x.flags.sentClose) :
    (a.effect x).flags.sentClose := by
  by_cases ha : a = .sendClose
  · rw [ha]
    rfl
  · rw [effect_sentClose ha]
    exact h

/-- What an action on a channel puts on record is at most one entry, for that channel. -/
theorem ChannelAction.entries_cases (a : ChannelAction κ) (x) :
    (∀ e ∈ a.entries x, ∀ k, ¬e.IsMessage k) ∨
      ∃ m n, a.message x = some m ∧ a.entries x = [.sent (some x.serial) (m n)] := by
  have hmgs : a.messages x = [] ∨ ∃ m n, a.message x = some m ∧ a.messages x = [m n] := by
    rw [messages]
    split
    · rename_i m n hm _
      exact .inr ⟨m, n, hm, rfl⟩
    · exact .inl rfl
  have hsent (h : a.entries x = (a.messages x).map (.sent (some x.serial))) :
      (∀ e ∈ a.entries x, ∀ k, ¬e.IsMessage k) ∨
        ∃ m n, a.message x = some m ∧ a.entries x = [.sent (some x.serial) (m n)] := by
    rcases hmgs with hnil | ⟨m, n, hm, hone⟩
    · left
      rw [h, hnil]
      simp
    · exact .inr ⟨m, n, hm, by rw [h, hone]; rfl⟩
  cases a with
  | receiveClose =>
    left
    intro e he k
    rw [List.mem_singleton.mp he]
    exact id
  | _ => exact hsent rfl

/-- CLOSE is put on record by the action that sets the flag. -/
theorem ChannelAction.sentClose_of_isClose {m : UInt32 → Message} {n : UInt32}
    (hm : a.message x = some m)
    (hcl : Entry.IsClose k (.sent (some x.serial) (m n))) :
    (a.effect x).flags.sentClose := by
  cases a with
  | sendClose => rfl
  | reply res =>
    cases hm
    cases res with
    | true | false => exact hcl.elim
  | transmit type data =>
    cases type with
    | none | some type =>
      cases hm
      exact hcl.elim
  | _ =>
    cases hm
    try exact hcl.elim

namespace SilentInv

section
variable (h : SilentInv c)
include h

variable {es : List Entry}

/-- The entries are not messages for a channel, and the objects are old ones. -/
theorem of_quiet (hlog : d.log = c.log ++ es) (hes : ∀ e ∈ es, ∀ k, ¬e.IsMessage k)
    (hser : c.nextSerial ≤ d.nextSerial)
    (hold : ∀ i y, channelAt d i = some y → ∃ x, channelAt c i = some x ∧ x.serial = y.serial ∧
      (x.flags.sentClose = true → y.flags.sentClose = true)) : SilentInv d := by
  have hcl {k : ℕ} (hk : ∃ e ∈ d.log, e.IsClose k) : ∃ e ∈ c.log, e.IsClose k := by
    obtain ⟨e, he, hek⟩ := hk
    rw [hlog, mem_append] at he
    rcases he with he | he
    · exact ⟨e, he, hek⟩
    · exact absurd hek.isMessage (hes e he k)
  refine ⟨?_, fun i y hy hk => ?_, fun k hk => (h.lt k (hcl hk)).trans_le hser⟩
  · rw [hlog]
    refine h.silent.append ?_ fun e he k hmsg => absurd hmsg (hes e he k)
    exact pairwise_of_forall_mem_list fun e _ e' he' k _ => hes e' he' k
  · obtain ⟨x, hx, heq, hfg⟩ := hold i y hy
    exact hfg (h.flag i x hx (by rw [heq]; exact hcl hk))

variable {m : Message}

/-- A message for an object that has not sent CLOSE, or is new. -/
theorem of_message {k : ℕ} (hlog : d.log = c.log ++ [.sent (some k) m])
    (hser : c.nextSerial ≤ d.nextSerial)
    (hlt : k < d.nextSerial) (hopn : ∀ e ∈ c.log, ¬e.IsClose k)
    (hfg : ∀ i y, channelAt d i = some y → (y.serial = k → Entry.IsClose k (.sent (some k) m) →
        y.flags.sentClose = true) ∧
      (y.serial ≠ k → ∃ x, channelAt c i = some x ∧ x.serial = y.serial ∧
        (x.flags.sentClose = true → y.flags.sentClose = true))) : SilentInv d := by
  have hmsg {k' : ℕ} (hk' : Entry.IsMessage k' (.sent (some k) m)) : k' = k := hk'.symm
  refine ⟨?_, fun i y hy hk => ?_, fun k' hk => ?_⟩
  · rw [hlog]
    refine h.silent.append (silent_singleton _) fun e he k' hk' e' he' => ?_
    rw [List.mem_singleton.mp he] at hk'
    rw [hmsg hk']
    exact hopn e' he'
  · obtain ⟨e, he, hcl⟩ := hk
    rw [hlog, mem_append, mem_singleton] at he
    by_cases hser : y.serial = k
    · rcases he with he | rfl
      · rw [hser] at hcl
        exact absurd hcl (hopn e he)
      · rw [hser] at hcl
        exact (hfg i y hy).1 hser hcl
    · obtain ⟨x, hx, heq, hmono⟩ := (hfg i y hy).2 hser
      rcases he with he | rfl
      · exact hmono (h.flag i x hx ⟨e, he, by rwa [heq]⟩)
      · exact absurd (hmsg hcl.isMessage) hser
  · obtain ⟨e, he, hcl⟩ := hk
    rw [hlog, mem_append, mem_singleton] at he
    rcases he with he | rfl
    · exact (h.lt k' ⟨e, he, hcl⟩).trans_le hser
    · rw [hmsg hcl.isMessage]
      exact hlt

variable {old : Option (Slot κ)} {new : Slot κ}

/-- A new object, with a message that is not CLOSE. -/
theorem of_new (hlog : d.log = c.log ++ [.sent (some c.nextSerial) m])
    (hser : d.nextSerial = c.nextSerial + 1) (hr : Replaces c.slots d.slots i old new)
    (hnew : (new.channel.map SshChannel.serial) = some c.nextSerial)
    (hm : ¬Entry.IsClose c.nextSerial (.sent (some c.nextSerial) m)) : SilentInv d := by
  refine h.of_message hlog (by omega) (by omega) (fun e he hcl => ?_) fun j y hy => ?_
  · exact absurd (h.lt _ ⟨e, he, hcl⟩) (Nat.lt_irrefl _)
  · refine ⟨fun _ hcl => absurd hcl hm, fun hne => ?_⟩
    rw [channelAt_of_replaces hr] at hy
    split_ifs at hy
    · rw [hy] at hnew
      exact absurd (Option.some.inj hnew) hne
    · exact ⟨y, hy, rfl, id⟩

/-- An entry is replaced by one without an object. -/
theorem of_gone (hlog : d.log = c.log ++ es) (hes : ∀ e ∈ es, ∀ k, ¬e.IsMessage k)
    (hser : d.nextSerial = c.nextSerial) (hr : Replaces c.slots d.slots i old new)
    (hnew : new.channel = none) : SilentInv d := by
  refine h.of_quiet hlog hes (le_of_eq hser.symm) fun j y hy => ?_
  rw [channelAt_of_replaces hr] at hy
  split_ifs at hy
  · rw [hnew] at hy
    cases hy
  · exact ⟨y, hy, rfl, id⟩

/-- **Timely actions keep the record silent.** -/
theorem acts {a : Action κ} (htab : TableInv c) (ha : Acts c a d)
    (hlate : NotLate c a) : SilentInv d := by
  have hsame {d : SshConnection κ} (hslots : d.slots = c.slots) (i : ℕ) (y : SshChannel κ)
      (hy : channelAt d i = some y) : ∃ x, channelAt c i = some x ∧ x.serial = y.serial ∧
        (x.flags.sentClose → y.flags.sentClose) := by
    rw [channelAt, hslots] at hy
    exact ⟨y, hy, rfl, id⟩
  cases ha with
  | @channel i s x a hs hch hguard hact hrem =>
    have hx : channelAt c i = some x := channelAt_eq_some hs hch
    have hobs (j : ℕ) : channelAt (emit (setChannel c i (a.effect x)) (a.messages x)
        (a.entries x)) j = if j = i then some (a.effect x) else channelAt c j :=
      channelAt_setChannel hx _ j
    have hslots : (setChannel c i (a.effect x)).log = c.log := by rw [setChannel_eq hs]
    have hnext : (setChannel c i (a.effect x)).nextSerial = c.nextSerial := by rw [setChannel_eq hs]
    have hlog : (emit (setChannel c i (a.effect x)) (a.messages x) (a.entries x)).log =
        c.log ++ a.entries x := congrArg (· ++ a.entries x) hslots
    rcases a.entries_cases x with hqt | ⟨m, n, hm, hone⟩
    · refine h.of_quiet hlog hqt (le_of_eq hnext.symm) fun j y hy => ?_
      rw [hobs] at hy
      split_ifs at hy with hj
      · cases hy
        rw [hj]
        exact ⟨x, hx, (a.effect_serial x).symm, a.sentClose_of_sentClose⟩
      · exact ⟨y, hy, rfl, id⟩
    · -- CLOSE has not been sent: the action checks that, or it is not late
      have hnot : x.flags.sentClose = false := by
        rcases ChannelAction.not_sentClose_of_message hguard (by rw [hm]; rfl) with hunc | hfg
        · exact hlate hunc x hx
        · exact hfg
      refine h.of_message (hlog.trans (by rw [hone])) (le_of_eq hnext.symm) ?_ (fun e he hcl => ?_)
        fun j y hy => ?_
      · exact htab.serial_lt hx
      · rw [h.flag i x hx ⟨e, he, hcl⟩] at hnot
        cases hnot
      · rw [hobs] at hy
        split_ifs at hy with hj
        · cases hy
          refine ⟨fun _ hcl => a.sentClose_of_isClose hm hcl, fun hne => ?_⟩
          exact absurd (a.effect_serial x) hne
        · refine ⟨fun heq _ => ?_, fun _ => ⟨y, hy, rfl, id⟩⟩
          exact absurd (htab.serial_inj j i y x hy hx heq) hj
  | @openNew i new type args hi =>
    have hr : Replaces c.slots (allot c i ⟨.sentOpen, some (newChannel c i new none), none⟩).slots i
        c.slots[i]? ⟨.sentOpen, some (newChannel c i new none), none⟩ :=
      Replaces.of_place hi.le_length _
    exact h.of_new rfl rfl hr rfl id
  | @confirm i info new hs =>
    have hr : Replaces c.slots
        (c.slots.set i ⟨.active, some (newChannel c i new (some info)), none⟩) i
        (some ⟨.receivedOpen, none, some info⟩)
        ⟨.active, some (newChannel c i new (some info)), none⟩ := Replaces.of_set hs _
    exact h.of_new rfl rfl hr rfl id
  | @receiveOpen i info hi =>
    have hr : Replaces c.slots (allot c i ⟨.receivedOpen, none, some info⟩).slots i c.slots[i]?
        ⟨.receivedOpen, none, some info⟩ := Replaces.of_place hi.le_length _
    exact h.of_gone (append_nil _).symm (by simp) rfl hr rfl
  | @deny i info reason msg hs =>
    exact h.of_gone rfl (by simp [Entry.IsMessage]) rfl (Replaces.of_set hs _) rfl
  | @receiveConfirmation i slot x remote window maxPacket hs hst hch =>
    have hr : Replaces c.slots
        (c.slots.set i ⟨.active, some (confirmed x remote window maxPacket), none⟩) i (some slot)
        ⟨.active, some (confirmed x remote window maxPacket), none⟩ := Replaces.of_set hs _
    refine h.of_quiet rfl (by simp [Entry.IsMessage]) (Nat.le_refl _) fun j y hy => ?_
    have hy' := (channelAt_of_replaces hr).symm.trans hy
    split_ifs at hy' with hj
    · cases hy'
      rw [hj]
      exact ⟨x, channelAt_eq_some hs hch, rfl, id⟩
    · exact ⟨y, hy', rfl, id⟩
  | @finish i slot x hs hch =>
    have hr : Replaces c.slots (settle (emit { release c i with
        pendingClose := c.pendingClose || x.closesConnection } []
        [.deallocated i (some x.serial)])).slots i (some slot) ⟨.free, none, none⟩ := by
      rw [settle_slots]
      exact Replaces.of_set hs _
    exact h.of_gone (settle_log _) (by simp [Entry.IsMessage]) (settle_nextSerial _) hr rfl
  | receiveFailure | refuse | sendGlobal | refuseGlobal | receiveGlobalReply =>
    exact h.of_quiet rfl (by simp [Entry.IsMessage]) (Nat.le_refl _) (hsame rfl)
  | globalReply want res =>
    refine h.of_quiet rfl ?_ (Nat.le_refl _) (hsame rfl)
    cases want <;> simp [Entry.IsMessage]
  | pendingClose =>
    have hlog : (settle { c with pendingClose := true }).log = c.log ++ [] :=
      (settle_log _).trans (append_nil _).symm
    refine h.of_quiet hlog (by simp) ?_ (hsame (settle_slots _))
    rw [settle_nextSerial]

end

end SilentInv

end Record

/-! ### Programs -/

section Programs

variable {κ κ' : Type} {x : SshChannel κ}

/-- A call that leaves it to the program whether CLOSE has been sent is made only before that. -/
def Timely {κ : Type} (x : SshChannel κ) : Call κ → Prop
  | .startReceive _ => x.flags.sentClose = false
  | .transmitData _ => x.flags.sentClose = false
  | .transmitExtended _ _ => x.flags.sentClose = false
  | .requestReply wantReply _ => wantReply = true → x.flags.sentClose = false
  | _ => True

theorem Timely.map (g : κ → κ') (x call) (h : Timely x call) : Timely (x.map g) (call.map g) := by
  cases call <;> exact h

/-- Timely calls lead to actions that are not late. -/
theorem notLate_of_timely (c i) (call : Call App) (a : Action App)
    (h : ∀ x, channelAt c i = some x → Timely x call) (ha : (call.op i).action = some a) :
    NotLate c a := by
  cases call with
  | startReceive w | transmitData data | transmitExtended type data =>
    cases ha
    exact fun _ x hx => h x hx
  | requestReply want res =>
    cases want with
    | true =>
      cases ha
      exact fun _ x hx => h x hx rfl
    | false => cases ha
  | adjustRecWindow written | kill =>
    cases ha
    exact fun hunc => hunc.elim
  | _ => cases ha

@[simp] theorem sentClose_apply (u : Update κ) (x) :
    (u.apply x).flags.sentClose = x.flags.sentClose := rfl

@[simp] theorem flags_startReceive (x : SshChannel κ) (w) :
    (x.after (.startReceive w)).flags = x.flags := by
  rw [SshChannel.after]
  split_ifs <;> rfl

variable {t : Turn x}

@[simp] theorem obeys_set (f) : (t.set f).Obeys Timely ↔ t.Obeys Timely := by
  simp [Turn.set, Timely]

@[simp] theorem obeys_setApp (app : κ) : (t.setApp app).Obeys Timely ↔ t.Obeys Timely := obeys_set _

@[simp] theorem obeys_setSinks (n) : (t.setSinks n).Obeys Timely ↔ t.Obeys Timely := obeys_set _

@[simp] theorem obeys_setSources (n) : (t.setSources n).Obeys Timely ↔ t.Obeys Timely :=
  obeys_set _

variable (ht : t.Obeys Timely)
include ht

theorem WriteCalls.obeys {r : IoStatus × WriteState × Turn x} (hr : WriteCalls t r) :
    r.2.2.Obeys Timely := by
  cases hr <;> simp [ht, Timely]

theorem channelWriteStateClose_obeys (file) :
    Returns (fun r => r.2.Obeys Timely) (channelWriteStateClose t file) := by
  rw [channelWriteStateClose]
  split_ifs
  · refine (ensures_true _).bind fun _ _ => ?_
    simp [ht, Timely]
  · exact ht

theorem readEof_obeys : (readEof t).Obeys Timely := by
  rw [readEof]
  split_ifs <;> simp [ht, Timely]

/-- Reading: data is returned for a channel that has not sent CLOSE. -/
theorem channelIoRead_obeys (file res)
    (hres : ∀ b s, res = .data b s → t.channel.flags.sentClose = false) :
    Returns (fun r => r.2.2.2.Obeys Timely ∧
      (0 < r.2.1.1.length → r.1 = .ok ∧ r.2.2.2.channel.flags.sentClose = false))
      (channelIoRead t file res) := by
  refine (channelIoRead_ensures t file res).imp (fun _ _ => trivial) fun r hr => ?_
  cases hr with
  | stopped hz0 => exact ⟨ht, nofun⟩
  | data hdata hpos => exact ⟨ht, fun _ => ⟨rfl, hres _ _ hdata⟩⟩
  | eof => exact ⟨readEof_obeys ht, nofun⟩
  | failed => exact ⟨by simp [ht, Timely], nofun⟩

end Programs

section Forward

variable {x : SshChannel Forward} {t : Turn x} (ht : t.Obeys Timely)

theorem channelForwardShutdown_obeys (ht : t.Obeys Timely) :
    CallsOnly Timely (channelForwardShutdown t) := by
  refine (ensures_true _).bind fun _ _ => ?_
  simp [ht, Timely]

theorem afterWriteSocket_obeys {r : IoStatus × WriteState × Turn x} (hr : r.2.2.Obeys Timely) :
    CallsOnly Timely (afterWriteSocket r) := by
  have hwr : (r.2.2.setWrite r.2.1).Obeys Timely := (obeys_setApp _).mpr hr
  rw [afterWriteSocket]
  split_ifs
  · exact channelForwardShutdown_obeys hwr
  · exact hwr

include ht

theorem channelForwardWrite_obeys (data res) :
    CallsOnly Timely (channelForwardWrite t data res) := by
  exact (channelIoWrite_calls t _ _ data res).bind fun r hr => afterWriteSocket_obeys (hr.obeys ht)

theorem oopWriteSocket_obeys (res : WriteResult) : CallsOnly Timely (oopWriteSocket t res) := by
  exact (channelIoFlush_calls t _ res).bind fun r hr => afterWriteSocket_obeys (hr.obeys ht)

theorem oopReadSocket_obeys (res : ReadResult)
    (hres : ∀ b s, res = .data b s → t.channel.flags.sentClose = false) :
    CallsOnly Timely (oopReadSocket t res) := by
  refine (channelIoRead_obeys ht t.app.read res hres).bind fun r hr => ?_
  obtain ⟨hu, hdata⟩ := hr
  dsimp only at hu hdata ⊢
  split_ifs with hlen
  · have hfg := (hdata hlen.2).2
    simp [Turn.setRead, hu, Timely, hfg]
  · simp [Turn.setRead, hu]

theorem channelForwardStartRead_obeys : (channelForwardStartRead t).Obeys Timely := by
  rw [channelForwardStartRead]
  split_ifs
  · simp [Turn.setRead, ht]
  · exact ht

theorem channelForwardStartIo_obeys : (channelForwardStartIo t).Obeys Timely := by
  exact channelForwardStartRead_obeys ((obeys_set _).mpr ht)

theorem forwardEvent_obeys (e : ChannelEvent) : CallsOnly Timely (forwardEvent t e) := by
  cases e with
  | eof =>
    rw [forwardEvent, channelForwardEof.eq_def]
    split
    · trivial
    · split_ifs
      · exact channelForwardShutdown_obeys ht
      · exact ht
  | stop => exact (obeys_setApp _).mpr ht
  | start => exact channelForwardStartRead_obeys ht
  | _ => exact ht

theorem doKillChannelForward_obeys : (doKillChannelForward t).Obeys Timely := by
  rw [doKillChannelForward]
  split_ifs
  · simp [ht, Timely]
  · exact ht

theorem socksStopWrite_obeys (self) : (socksStopWrite t self).Obeys Timely := by
  rw [socksStopWrite]
  split_ifs
  · exact doKillChannelForward_obeys ht
  · exact (obeys_setApp _).mpr ht

theorem socksReply_obeys (self status res) : CallsOnly Timely (socksReply t self status res) := by
  rw [socksReply]
  split
  · trivial
  · refine (ensures_true _).bind fun r _ => ?_
    have hwr : (t.setWrite r.2).Obeys Timely := (obeys_setApp _).mpr ht
    dsimp only
    split_ifs
    · exact doKillChannelForward_obeys hwr
    · exact (obeys_setApp _).mpr hwr
    · exact socksStopWrite_obeys hwr self

theorem oopWriteSocks_obeys (self res) : CallsOnly Timely (oopWriteSocks t self res) := by
  refine (ensures_true _).bind fun r _ => ?_
  obtain ⟨done, write⟩ := r
  have hwr : (t.setWrite write).Obeys Timely := (obeys_setApp _).mpr ht
  dsimp only
  split
  · exact doKillChannelForward_obeys hwr
  · split_ifs
    · exact socksStopWrite_obeys hwr self
    · exact hwr

theorem doSocksChannelEvent_obeys (self e res) :
    CallsOnly Timely (doSocksChannelEvent t self e res) := by
  rw [doSocksChannelEvent.eq_def]
  split
  · refine (socksReply_obeys ht self 0 res).bind fun u hu => ?_
    have hsto := socksStopWrite_obeys hu self
    refine channelForwardStartIo_obeys ?_
    split_ifs
    · exact (Turn.obeys_call _ _).mpr ⟨hsto, trivial⟩
    · exact hsto
  · exact socksReply_obeys ht self 5 res
  · exact forwardEvent_obeys ht _

variable (hopn : t.channel.flags.sentClose = false)

theorem x11Set_obeys (self) : (x11Set t self).Obeys Timely := (obeys_setApp _).mpr ht

theorem x11Fail_obeys (self) : (x11Fail t self).Obeys Timely := by
  simp [x11Fail, x11Set, Turn.setSelf, ht, Timely]

include hopn

theorem x11Deny_obeys (self) : (x11Deny t self).Obeys Timely := by
  refine x11Fail_obeys ?_ self
  split_ifs
  · simp [ht, Timely, hopn]
  · exact ht

theorem x11GotLengths_obeys (self res) : CallsOnly Timely (x11GotLengths t self res) := by
  rw [x11GotLengths]
  split_ifs
  · exact x11Set_obeys ht self
  · have hstr := channelForwardStartIo_obeys ((t.obeys_call (.startReceive
      (x11WindowSize - UInt32.ofNat self.setupMessage.length))).mpr ⟨ht, hopn⟩)
    refine (channelForwardWrite_obeys hstr _ res).bind fun u hu => ?_
    exact x11Set_obeys hu _
  · exact x11Deny_obeys ht hopn self

theorem doClientChannelX11Receive_obeys (self err data res) :
    CallsOnly Timely (doClientChannelX11Receive t self err data res) := by
  rw [doClientChannelX11Receive.eq_def]
  split_ifs
  · exact (obeys_setApp _).mpr ht
  · refine (ensures_true _).bind fun _ _ => ?_
    dsimp only
    split
    · rw [x11Start.eq_def]
      split_ifs
      · exact x11Set_obeys ht _
      · split
        · exact x11Fail_obeys ht _
        · dsimp only
          split_ifs
          · exact x11Fail_obeys ht _
          · exact x11GotLengths_obeys ht hopn _ res
    · exact x11GotLengths_obeys ht hopn _ res
    · trivial

end Forward

section Server

variable {x : SshChannel ServerSession} {t : Turn x} (ht : t.Obeys Timely)

theorem afterWriteStdin_obeys {r : IoStatus × WriteState × Turn x} (hr : r.2.2.Obeys Timely) :
    CallsOnly Timely (afterWriteStdin r) := by
  rw [afterWriteStdin]
  split_ifs
  · exact (obeys_setApp _).mpr hr
  · exact (channelWriteStateClose_obeys hr _).bind fun p hp => (obeys_setApp _).mpr hp

include ht

theorem oopWriteStdin_obeys (res : WriteResult) : CallsOnly Timely (oopWriteStdin t res) := by
  exact (channelIoFlush_calls t _ res).bind fun r hr => afterWriteStdin_obeys (hr.obeys ht)

theorem serverReceive_obeys (err data res) : CallsOnly Timely (serverReceive t err data res) := by
  rw [serverReceive]
  split_ifs
  · exact (obeys_setApp _).mpr ht
  · exact (channelIoWrite_calls t _ _ data res).bind fun r hr => afterWriteStdin_obeys (hr.obeys ht)

theorem oopReadOutput_obeys (err res)
    (hres : ∀ b s, res = .data b s → t.channel.flags.sentClose = false) :
    CallsOnly Timely (oopReadOutput t err res) := by
  refine (channelIoRead_obeys ht (t.app.output err) res hres).bind fun r hr => ?_
  obtain ⟨hu, hdata⟩ := hr
  dsimp only at hu hdata ⊢
  split_ifs with hsta hlen hsde
  · exact (obeys_setApp _).mpr hu
  · simp [hu, Timely, (hdata hlen).2]
  · simp [hu, Timely, (hdata hlen).2]
  · exact (obeys_setApp _).mpr hu

theorem doServerSessionEvent_obeys (e : ChannelEvent) :
    CallsOnly Timely (doServerSessionEvent t e) := by
  cases e with
  | eof =>
    rw [doServerSessionEvent]
    split
    · trivial
    · split_ifs
      · exact (channelWriteStateClose_obeys ht _).bind fun p hp => (obeys_setApp _).mpr hp
      · exact ht
  | stop => exact (obeys_setApp _).mpr ht
  | start =>
    rw [doServerSessionEvent]
    split_ifs
    · exact (obeys_setApp _).mpr ht
    · exact ht
  | _ => exact ht

theorem doExitShell_obeys (signaled args) : CallsOnly Timely (doExitShell t signaled args) := by
  rw [doExitShell]
  split
  · exact (obeys_setApp _).mpr ht
  · refine (ensures_true _).bind fun _ _ => ?_
    simp [ht, Timely]

variable (hopn : t.channel.flags.sentClose = false)
include hopn

theorem startProcess_obeys (sys) :
    (startProcess t sys).Obeys Timely ∧ (startProcess t sys).channel.flags.sentClose = false := by
  rw [startProcess]
  split_ifs <;> simp [ht, hopn, Timely, serverSendAdjust]

/-- The pty is taken care of, and a process may be started. -/
theorem spawnReply_obeys (want sys) : CallsOnly Timely (spawnReply t want sys) := by
  have hpty : Returns
      (fun u : Turn x => u.Obeys Timely ∧ u.channel.flags.sentClose = false) (spawnPty t sys) := by
    rw [spawnPty]
    split
    · exact ⟨ht, hopn⟩
    · refine (ensures_true _).bind fun _ _ => ?_
      simp [ht, hopn]
  have hproc : Returns
      (fun r => r.2.Obeys Timely ∧ r.2.channel.flags.sentClose = false) (spawnProcess t sys) := by
    refine (ensures_true _).bind fun _ _ => hpty.bind fun u hu => ?_
    split
    · exact hu
    · split
      · exact hu
      · exact startProcess_obeys hu.1 hu.2 sys
  refine hproc.bind fun r hr => ?_
  exact (Turn.obeys_call _ _).mpr ⟨hr.1, fun _ => hr.2⟩

omit hopn in
theorem requestReply_obeys {want : Bool} (res)
    (hrep : want = true → t.channel.flags.sentClose = false) :
    (t.call (.requestReply want res)).Obeys Timely :=
  (Turn.obeys_call _ _).mpr ⟨ht, hrep⟩

omit hopn in
/-- Requests: a process is started, or a reply sent, only if CLOSE has not been sent. -/
theorem serverRequest_obeys (type want args sys) (hqt : t.channel.flags.sentClose = true →
      want = false ∧ type ≠ .shell ∧ type ≠ .exec ∧ type ≠ .subsystem) :
    CallsOnly Timely (serverRequest t type want args sys) := by
  have hrep : want = true → t.channel.flags.sentClose = false := by
    intro hwa
    by_contra hcl
    rw [(hqt (Bool.eq_true_of_not_eq_false hcl)).1] at hwa
    cases hwa
  have hopn (hty : ¬(type ≠ .shell ∧ type ≠ .exec ∧ type ≠ .subsystem)) :
      t.channel.flags.sentClose = false := by
    by_contra hcl
    exact hty (hqt (Bool.eq_true_of_not_eq_false hcl)).2
  refine serverRequest_rule args (fun _ => trivial) (fun _ => ht) (fun _ => ht)
    (requestReply_obeys ht false hrep) (fun _ _ => ?_) (fun _ hty => ?_) fun _ hty => ?_
  · exact requestReply_obeys ((obeys_setApp _).mpr ht) true (by simpa using hrep)
  · exact spawnReply_obeys ht (hopn (by rcases hty with rfl | rfl <;> simp)) want sys
  · exact spawnReply_obeys ((obeys_setApp _).mpr ht) (by simpa using hopn (by simp [hty])) want sys

end Server

section Client

variable {x : SshChannel ClientSession} {t : Turn x} (ht : t.Obeys Timely)

theorem afterWriteSink_obeys {r : IoStatus × WriteState × Turn x} (err)
    (hr : r.2.2.Obeys Timely) :
    CallsOnly Timely (afterWriteSink err r) := by
  rw [afterWriteSink]
  split_ifs
  · exact (obeys_setApp _).mpr hr
  · exact (channelWriteStateClose_obeys hr _).bind fun p hp => (obeys_setApp _).mpr hp

include ht

theorem oopWriteSink_obeys (err res) : CallsOnly Timely (oopWriteSink t err res) :=
  (channelIoFlush_calls t _ res).bind fun _ hr => afterWriteSink_obeys err (hr.obeys ht)

theorem clientReceive_obeys (err data res) : CallsOnly Timely (clientReceive t err data res) := by
  rw [clientReceive_eq]
  exact (channelIoWrite_calls t _ _ data res).bind fun r hr =>
    afterWriteSink_obeys err (hr.obeys ht)

/-- Data is transmitted in pieces. Nothing is closed in between. -/
theorem transmitEscaped_obeys (escape fuel data) (hopn : t.channel.flags.sentClose = false) :
    (transmitEscaped escape fuel data t).Obeys Timely := by
  induction fuel generalizing data t with
  | zero => exact ht
  | succ fuel ih =>
    rw [transmitEscaped]
    split_ifs with hdata
    · exact ht
    generalize clientEscapeProcess escape t.app.escapeState data.1 hdata = r
    dsimp only
    split_ifs
    · refine ih ?_ _ ?_
      · simp [ht, hopn, Timely]
      · simpa [SshChannel.after, ChannelAction.effect] using hopn
    · refine ih ?_ _ ?_
      · simp [ht]
      · simp [hopn]

theorem oopReadStdin_obeys (res : ReadResult)
    (hres : ∀ b s, res = .data b s → t.channel.flags.sentClose = false) :
    CallsOnly Timely (oopReadStdin t res) := by
  refine (channelIoRead_obeys ht t.app.input res hres).bind fun r hr => ?_
  obtain ⟨stat, data, input, u⟩ := r
  obtain ⟨hu, hdata⟩ := hr
  dsimp only at hu hdata ⊢
  split
  · exact (obeys_setApp _).mpr hu
  · have hset : (u.setApp { u.app with input := input }).Obeys Timely := (obeys_setApp _).mpr hu
    have hfg (hlen : 0 < data.1.length) :
        (u.setApp { u.app with input := input }).channel.flags.sentClose = false := by
      simpa using (hdata hlen).2
    split
    · rcases Nat.eq_zero_or_pos data.1.length with hlen | hlen
      · rw [hlen]
        exact hset
      · exact transmitEscaped_obeys hset _ _ _ (hfg hlen)
    · split_ifs with hlen
      · exact (Turn.obeys_call _ _).mpr ⟨hset, hfg hlen⟩
      · exact hset

theorem startAction_obeys (action) : (startAction t action).Obeys Timely := by
  cases action <;> simp [startAction, ht, Timely]

theorem nextActions_obeys (fuel) : (nextActions fuel t).Obeys Timely := by
  induction fuel generalizing t with
  | zero => exact ht
  | succ fuel ih =>
    rw [nextActions]
    split
    · exact ht
    · split_ifs
      · exact ht
      · exact ih (startAction_obeys ((obeys_setApp _).mpr ht) _)

theorem closeIfFlushed_obeys (file) :
    Returns (fun r => r.2.Obeys Timely) (closeIfFlushed t file) := by
  rw [closeIfFlushed]
  split
  · trivial
  · split_ifs
    · exact channelWriteStateClose_obeys ht file
    · exact ht

/-- The action whose reply has arrived. -/
theorem doneAction_obeys :
    Returns (fun r => t.app.actions[t.app.actionDone]? = some r.1 ∧ r.2.Obeys Timely ∧
      r.2.channel.flags.sentClose = t.channel.flags.sentClose) (doneAction t) := by
  rw [doneAction]
  split
  · trivial
  · rename_i act hact
    exact ⟨hact, (obeys_setApp _).mpr ht, by simp⟩

theorem doClientSessionEvent_obeys (e : ChannelEvent)
    (hqt : e = .success → t.channel.flags.sentClose = true →
      ∀ act ∈ t.app.actions[t.app.actionDone]?, act.serial = false) :
    CallsOnly Timely (doClientSessionEvent t e) := by
  cases e with
  | confirm =>
    refine nextActions_obeys ?_ _
    split_ifs
    · exact (obeys_setApp _).mpr ((obeys_set _).mpr ht)
    · exact (obeys_set _).mpr ht
  | eof =>
    refine (closeIfFlushed_obeys ht _).bind fun r hr => ?_
    refine (closeIfFlushed_obeys ((obeys_setApp _).mpr hr) _).bind fun r' hr' => ?_
    exact (obeys_setApp _).mpr hr'
  | success =>
    refine (doneAction_obeys ht).bind fun r hr => ?_
    obtain ⟨act, u⟩ := r
    obtain ⟨hact, hu, hfg⟩ := hr
    refine nextActions_obeys ?_ _
    have hopn (hser : act.serial = true) : u.channel.flags.sentClose = false := by
      by_contra hcl
      rw [hfg] at hcl
      have hnot := hqt rfl (Bool.eq_true_of_not_eq_false hcl) act hact
      rw [hnot] at hser
      cases hser
    cases act with
    | pty args => exact (obeys_setApp _).mpr hu
    | x11 => exact hu
    | shell | command type arg => exact (Turn.obeys_call _ _).mpr ⟨hu, hopn rfl⟩
  | failure =>
    refine (doneAction_obeys ht).bind fun r hr => ?_
    dsimp only at hr ⊢
    split_ifs
    · exact nextActions_obeys hr.2.1 _
    · exact (Turn.obeys_call _ _).mpr ⟨hr.2.1, trivial⟩
  | stop => exact (obeys_setApp _).mpr ht
  | start =>
    rw [doClientSessionEvent]
    split_ifs
    · exact (obeys_setApp _).mpr ht
    · exact ht
  | _ => exact ht

theorem clientRequest_obeys (type want args) :
    CallsOnly Timely (clientRequest t type want args) := by
  have hexit (parsed : Option Unit) (msg : String) :
      CallsOnly Timely (handleExit t want parsed msg) := by
    rw [handleExit]
    split_ifs
    · refine (ensures_true _).bind fun _ _ => ?_
      simp [ht, Timely]
    · trivial
  cases type with
  | exitStatus | exitSignal => exact hexit _ _
  | _ => exact ht

end Client

/-! ### What closed channels are spared -/

/-- No data is read for a channel that has sent CLOSE. -/
def QuietActivity {κ : Type} (x : SshChannel κ) : Activity → Prop
  | .read _ (.data _ _) => x.flags.sentClose = false
  | _ => True

/-- A session at the server that has sent CLOSE is asked for no reply, and to start no process. -/
def QuietServer (x : SshChannel ServerSession) : Notice → Prop
  | .request type wantReply _ => x.flags.sentClose = true →
      wantReply = false ∧ lookupAtom type ≠ some .shell ∧ lookupAtom type ≠ some .exec ∧
        lookupAtom type ≠ some .subsystem
  | _ => True

/-- A session at the client that has sent CLOSE is not told that its process has been started. -/
def QuietClient (x : SshChannel ClientSession) : Notice → Prop
  | .event .success => x.flags.sentClose = true →
      ∀ action ∈ x.app.actions[x.app.actionDone]?, action.serial = false
  | _ => True

theorem QuietActivity.data {cb : ReadCallback} {res : ReadResult} {κ : Type} {x : SshChannel κ}
    (h : QuietActivity x (.read cb res)) (b s)
    (hres : res = .data b s) :
    (⟨[]⟩ : Turn x).channel.flags.sentClose = false := by
  subst hres
  exact h

/-- Data is given to the program only if CLOSE has not been sent. -/
theorem Arrives.sentClose_of_receive {κ : Type} {x y : SshChannel κ} {err : Bool} {data : Octets}
    (h : Arrives x y (some (.receive err data))) : y.flags.sentClose = false := by
  generalize hn : some (Notice.receive err data) = notice at h
  cases h with
  | data err htk hdata hle => exact htk.2.2.2
  | adjust size hguard => split_ifs at hn; cases hn
  | reply success hpen | _ => cases hn

theorem timely_of_callsOnly {κ : Type} {x : SshChannel κ} {f : Except ProgramError (Turn x)}
    (h : (⟨[]⟩ : Turn x).Obeys Timely → CallsOnly Timely f) :
    Returns (fun t : Turn x => True ∧ t.Obeys Timely) f :=
  (h (Turn.obeys_nil Timely)).mono fun _ ht => ⟨trivial, ht⟩

theorem forwardClass_timely :
    ClassRules forwardClass (fun _ => True) Timely (fun _ _ => True) QuietActivity where
  closes _ _ := trivial
  silent _ _ := trivial
  notice {x y n} harr _ _ sys := by
    refine timely_of_callsOnly fun hy => ?_
    cases n with
    | event e =>
      refine forwardClass_event (fun self _ => doSocksChannelEvent_obeys hy self e sys.write) ?_
      rw [doChannelForwardEvent]
      split_ifs
      · exact channelForwardStartIo_obeys hy
      · exact forwardEvent_obeys hy e
    | receive err data =>
      refine forwardClass_receive (fun self => ?_) ?_
      · exact doClientChannelX11Receive_obeys hy harr.sentClose_of_receive _ err data sys.write
      · rw [doChannelForwardReceive]
        split_ifs
        · exact (obeys_setApp _).mpr hy
        · exact channelForwardWrite_obeys hy data sys.write
    | sendAdjust size => exact (obeys_setApp _).mpr hy
    | request type want args => exact hy
  activity {x a} _ ha := by
    refine timely_of_callsOnly fun hx => ?_
    refine forwardClass_activity hx (fun res hres => ?_) (fun res _ => oopWriteSocket_obeys hx res)
      fun self res _ => oopWriteSocks_obeys hx self res
    subst hres
    exact oopReadSocket_obeys hx res ha.data

theorem serverClass_timely :
    ClassRules serverClass (fun _ => True) Timely QuietServer QuietActivity where
  closes _ _ := trivial
  silent _ _ := trivial
  notice {x y n} _ _ hqt sys := by
    refine timely_of_callsOnly fun hy => ?_
    cases n with
    | event e => exact doServerSessionEvent_obeys hy e
    | receive err data => exact serverReceive_obeys hy err data sys.write
    | sendAdjust size => exact (obeys_setApp _).mpr hy
    | request type want args =>
      simp only [serverClass]
      cases hty : lookupAtom type with
      | none => exact hy
      | some type =>
        refine serverRequest_obeys hy type want args sys.server fun hcl => ?_
        obtain ⟨hrep, hshl, hexec, hsub⟩ := hqt hcl
        rw [hty] at hshl hexec hsub
        exact ⟨hrep, fun h => hshl (congrArg some h), fun h => hexec (congrArg some h),
          fun h => hsub (congrArg some h)⟩
  activity {x a} _ ha := by
    refine timely_of_callsOnly fun hx => ?_
    refine serverClass_activity hx (fun err cb res hres _ => ?_)
      (fun res _ => oopWriteStdin_obeys hx res) fun signaled args _ =>
      doExitShell_obeys hx signaled args
    subst hres
    exact oopReadOutput_obeys hx err res ha.data

theorem clientClass_timely :
    ClassRules clientClass (fun _ => True) Timely QuietClient QuietActivity where
  closes _ _ := trivial
  silent _ _ := trivial
  notice {x y n} _ _ hqt sys := by
    refine timely_of_callsOnly fun hy => ?_
    cases n with
    | event e =>
      refine doClientSessionEvent_obeys hy e fun he => ?_
      subst he
      exact hqt
    | receive err data => exact clientReceive_obeys hy err data sys.write
    | sendAdjust size => exact (obeys_setApp _).mpr hy
    | request type want args =>
      simp only [clientClass]
      split
      · exact hy
      · exact clientRequest_obeys hy _ want args
  activity {x a} _ ha := by
    refine timely_of_callsOnly fun hx => ?_
    refine clientClass_activity hx (fun cb res hres => ?_)
      (fun err res => oopWriteSink_obeys hx err res) ((Turn.obeys_call _ _).mpr ⟨hx, trivial⟩)
      fun _ _ _ => (Turn.obeys_call _ _).mpr ⟨hx, trivial⟩
    subst hres
    exact oopReadStdin_obeys hx res ha.data

theorem timely_rules :
    ProgramRules (onKind (fun _ => True) (fun _ => True) fun _ => True) Timely
      (onKind (fun _ _ => True) QuietServer QuietClient)
      (onKind QuietActivity QuietActivity QuietActivity) (fun _ => True) := by
  refine ProgramRules.of_classes Timely.map forwardClass_timely serverClass_timely
    clientClass_timely
    ?_ ?_
  · intro new info hnew ser i
    rw [onKind]
    split <;> trivial
  · rintro x sock info ser i rfl
    exact ⟨trivial, channelForwardStartIo_obeys (Turn.obeys_nil Timely)⟩

/-! ### Runs -/

instance {κ : Type} (x : SshChannel κ) (a : Activity) : Decidable (QuietActivity x a) :=
  match a with
  | .read _ (.data _ _) => inferInstanceAs (Decidable (x.flags.sentClose = false))
  | .read _ .eof | .read _ (.failed _) | .write _ _ | .exit _ _ | .randomReply _
  | .windowChange _ =>
    isTrue trivial

instance (x : SshChannel ServerSession) (n : Notice) : Decidable (QuietServer x n) :=
  match n with
  | .request _ _ _ => inferInstanceAs (Decidable (_ → _))
  | .event _ | .receive _ _ | .sendAdjust _ => isTrue trivial

instance (x : SshChannel ClientSession) (n : Notice) : Decidable (QuietClient x n) :=
  match n with
  | .event .success => inferInstanceAs (Decidable (_ → _))
  | .event .confirm | .event .deny | .event .eof | .event .close | .event .failure | .event .stop
  | .event .start | .receive _ _ | .sendAdjust _ | .request _ _ _ => isTrue trivial

instance {κ : Type} (a : ChannelAction κ) : Decidable a.IsUnchecked := by
  cases a <;> first | exact isTrue trivial | exact isFalse id

instance {κ : Type} (c : SshConnection κ) (a : Action κ) : Decidable (NotLate c a) := by
  cases a with
  | channel i a => exact inferInstanceAs (Decidable (_ → _))
  | _ => exact isTrue trivial

/-- What must not happen to a channel that has sent CLOSE. -/
def QuietGuard : SshConnection App → ProgramEvent → Prop :=
  ProgramGuard (onKind (fun _ _ => True) QuietServer QuietClient)
    (onKind QuietActivity QuietActivity QuietActivity) (fun _ => True) NotLate

instance (c : SshConnection App) (event : ProgramEvent) : Decidable (QuietGuard c event) :=
  inferInstanceAs (Decidable (ProgramGuard _ _ _ _ c event))

theorem notLate_of_isFree (c) (a : Action App) (ha : a.IsFree) : NotLate c a := by
  cases a with
  | channel i a => cases a <;> first | exact fun h => h.elim | exact ha.elim
  | _ => trivial

theorem notLate_of_global (c) (a : Action App) (ha : ∀ i b, a ≠ .channel i b) : NotLate c a := by
  cases a with
  | channel i a => exact absurd rfl (ha i a)
  | _ => trivial

theorem silentInv_init (types requests) (fallback : Bool) :
    SilentInv (initSshConnection (κ := App) types requests fallback) where
  silent := List.Pairwise.nil
  flag i x hx := by cases hx
  lt k h := by
    obtain ⟨e, he, _⟩ := h
    cases he

/-- **Nothing is sent after CLOSE**, in every run in which a channel that has sent CLOSE is not
given data to send, not asked for a reply, and not told that a process starts. -/
theorem run_programStep_silent (types requests : List Atom) (fallback : Bool)
    (events : List ProgramEvent)
    (hguard : Guarded programStep QuietGuard (initSshConnection types requests fallback) events) :
    Ensures (fun _ => True) (fun d => Silent d.log)
      (run programStep (initSshConnection types requests fallback) events) := by
  have hrun := run_programStep_channels timely_rules (P := NotLate) (J := SilentInv)
    ⟨notLate_of_isFree, notLate_of_global, notLate_of_timely⟩
    (fun c a d htab hacts hlate h => h.acts htab hacts hlate)
    (tableInv_init types requests fallback) (fun i x hx => by cases hx)
    (silentInv_init types requests fallback) hguard
  exact hrun.mono fun d hd => hd.2.2.silent

/-- A channel for a socket, confirmed by the other end. Data arrives that cannot be written, so the
channel is closed, and then there is something to read from the socket. -/
def dataAfterClose : List ProgramEvent :=
  [.accept 5 (lshString Atom.forwardedTcpip.octets) [],
    .receive [91, 0, 0, 0, 0, 0, 0, 0, 7, 0, 0, 1, 0, 0, 0, 1, 0] idleSystem,
    .receive [94, 0, 0, 0, 0, 0, 0, 0, 1, 65] { idleSystem with write := .failed },
    .activity 0 (.read .oopReadSocket (.data 66 []))]

/-- Data is sent after CLOSE. -/
theorem run_programStep_lateData :
    ∃ c es, run programStep (initSshConnection [] [] false) dataAfterClose = .ok c ∧
      c.log = es ++ [.sent (some 0) (.data 7 (lshString [66]))] ∧
      Entry.sent (some 0) (.close 7) ∈ es ∧ ¬Silent c.log := by
  have hchk : (run programStep (initSshConnection [] [] false) dataAfterClose).toOption.any
      (fun c => decide (c.log = c.log.dropLast ++ [.sent (some 0) (.data 7 (lshString [66]))] ∧
        Entry.sent (some 0) (.close 7) ∈ c.log.dropLast)) = true := by
    decide +kernel
  obtain ⟨c, hrun, hc⟩ := exists_ok_of_any hchk
  obtain ⟨hlog, hcl⟩ := of_decide_eq_true hc
  refine ⟨c, c.log.dropLast, hrun, hlog, hcl, fun hsil => ?_⟩
  rw [hlog] at hsil
  exact (List.pairwise_append.mp hsil).2.2 _ hcl _ (mem_singleton_self _) 0 rfl rfl

/-- A channel for a socket that sends data, comes to its end, and is closed by both ends. -/
def closedInOrder : List ProgramEvent :=
  [.accept 5 (lshString Atom.forwardedTcpip.octets) [],
    .receive [91, 0, 0, 0, 0, 0, 0, 0, 7, 0, 0, 1, 0, 0, 0, 1, 0] idleSystem,
    .activity 0 (.read .oopReadSocket (.data 66 [])),
    .receive [94, 0, 0, 0, 0, 0, 0, 0, 1, 65] { idleSystem with write := .failed },
    .activity 0 (.read .oopReadSocket .eof),
    .receive [97, 0, 0, 0, 0] idleSystem]

theorem run_programStep_silent_closed :
    Guarded programStep QuietGuard (initSshConnection [] [] false) closedInOrder ∧
      ((run programStep (initSshConnection [] [] false) closedInOrder).toOption.any fun c =>
        decide (Entry.sent (some 0) (.close 7) ∈ c.log)) = true ∧
      Ensures (fun _ => True) (fun d => Silent d.log)
        (run programStep (initSshConnection [] [] false) closedInOrder) :=
  ⟨by decide +kernel, by decide +kernel,
    run_programStep_silent [] [] false closedInOrder (by decide +kernel)⟩

end Lsh.Channel
