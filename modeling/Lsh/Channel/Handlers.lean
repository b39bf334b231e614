
import Lsh.Channel.Arrivals

/-!
# Handlers are actions

What each handler for a message does up to the call into the program: at most one action. A handler
fails with a connection error only if the channel does not accept the message, and each lemma says
when that is; an error about the table of numbers does not happen.

## Main results

* `handleChannelClose_ensures`, `handleOpenConfirm_ensures`, … — one lemma for each handler
* `receivePacket_acts` — any packet
-/

namespace Lsh.Channel

open Machine Table Wire List

variable {κ : Type} {c d : SshConnection κ} {n : UInt32} {channel : SshChannel κ}

/-- The object of an open channel. -/
def IsOpen (c : SshConnection κ) (n : UInt32) (channel : SshChannel κ) : Prop :=
  ∃ slot, c.slots[n.toNat]? = some slot ∧ slot.state = .active ∧ slot.channel = some channel

/-- The object of a channel that is being opened. -/
def IsOpening (c : SshConnection κ) (n : UInt32) (channel : SshChannel κ) : Prop :=
  ∃ slot, c.slots[n.toNat]? = some slot ∧ slot.state = .sentOpen ∧ slot.channel = some channel

/-- A connection error for a message about a channel, and why. -/
def Refused (reason : Prop) (e : ChannelError) : Prop := (∃ msg, e = .connectionError msg) ∧ reason

theorem IsOpen.channelAt_eq (h : IsOpen c n channel) : channelAt c n.toNat = some channel := by
  obtain ⟨slot, hs, _, hch⟩ := h
  exact channelAt_eq_some hs hch

/-- The open channel with a number. -/
theorem IsOpen.unique {channel' : SshChannel κ} (h : IsOpen c n channel)
    (h' : IsOpen c n channel') : channel' = channel :=
  Option.some.inj (h'.channelAt_eq.symm.trans h.channelAt_eq)

theorem IsOpen.remote_isSome (h : IsOpen c n channel) (hinv : TableInv c) :
    channel.remoteChannelNumber.isSome := by
  obtain ⟨slot, hs, hst, hch⟩ := h
  have hval := hinv.slot n.toNat slot hs
  cases hval with
  | active hloc hser hrem =>
    cases hch
    exact hrem
  | _ => cases hst

theorem IsOpening.unused (hinv : TableInv c) (h : IsOpening c n channel) :
    channelAt c n.toNat = some channel ∧ channel.remoteChannelNumber = none ∧
      channel.flags.Unused := by
  obtain ⟨slot, hs, hst, hch⟩ := h
  have hval := hinv.slot n.toNat slot hs
  cases hval with
  | sentOpen hloc hser hrem hfl =>
    cases hch
    exact ⟨channelAt_eq_some hs rfl, hrem, hfl⟩
  | _ => cases hst

theorem lookupChannel_active (h : TableInv c) (n) :
    Yields (fun found => match found with
      | none => ∀ channel, ¬IsOpen c n channel
      | some channel => IsOpen c n channel) (lookupChannel c n .active) := by
  refine (lookupChannel_ensures h n (.inl rfl)).mono fun found hfnd => ?_
  cases found with
  | none => exact fun channel ⟨slot, hs, hst, _⟩ => hfnd slot hs hst
  | some channel => exact hfnd

theorem lookupChannel_sentOpen (h : TableInv c) (n) :
    Yields (fun found => match found with
      | none => ∀ channel, ¬IsOpening c n channel
      | some channel => IsOpening c n channel) (lookupChannel c n .sentOpen) := by
  refine (lookupChannel_ensures h n (.inr rfl)).mono fun found hfnd => ?_
  cases found with
  | none => exact fun channel ⟨slot, hs, hst, _⟩ => hfnd slot hs hst
  | some channel => exact hfnd

/-- Something is received on an open channel. -/
theorem Acts.of_receive {a : ChannelAction κ} (h : IsOpen c n channel) (hguard : a.Guard channel)
    (hmsg : a.message channel = none) (hent : a.entries channel = []) :
    Acts c (.channel n.toNat a) (setChannel c n.toNat (a.effect channel)) := by
  obtain ⟨slot, hs, hst, hch⟩ := h
  have hacts := Acts.channel a hs hch hguard (fun _ => hst) (fun h => by rw [hmsg] at h; cases h)
  have hmgs : a.messages channel = [] := by rw [ChannelAction.messages, hmsg]
  rw [hent, hmgs] at hacts
  simpa [emit] using hacts

/-! ### Messages about a channel -/

variable {s : Octets}

/-- `handle_adjust_window`. -/
theorem handleAdjustWindow_ensures {size : UInt32} (h : TableInv c)
    (hparse : parseWindowAdjust s = some (n, size)) :
    Ensures (Refused (∀ channel, IsOpen c n channel → channel.flags.receivedClose))
      (fun r => Arrival c r ∧ r.after = .done ∧ ∃ channel, IsOpen c n channel ∧
        channel.flags.receivedClose = false ∧
        if channel.flags.sentClose ∨ channel.flags.sentEof then r.connection = c else
          Acts c (.channel n.toNat (.receiveAdjust size)) r.connection)
      (handleAdjustWindow c s) := by
  rw [handleAdjustWindow, hparse]
  refine (lookupChannel_active h n).of_total.bind fun found hfnd => ?_
  cases found with
  | none => exact ⟨⟨_, rfl⟩, fun channel hopen => absurd hopen (hfnd channel)⟩
  | some channel =>
    have hopen : IsOpen c n channel := hfnd
    dsimp only
    by_cases hcl : channel.flags.receivedClose
    · rw [if_pos hcl]
      refine ⟨⟨_, rfl⟩, fun channel' hopen' => ?_⟩
      rw [hopen.unique hopen', hcl]
    · rw [if_neg hcl]
      have hcl := Bool.eq_false_iff.mpr hcl
      by_cases hsent : channel.flags.sentClose ∨ channel.flags.sentEof
      · rw [if_pos hsent]
        exact ⟨.of_slots rfl rfl rfl, rfl, channel, hopen, hcl, by rw [if_pos hsent]; rfl⟩
      · have hguard : ChannelAction.Guard (.receiveAdjust size) channel := by
          simp only [not_or, Bool.not_eq_true] at hsent
          exact ⟨hcl, hsent.1, hsent.2⟩
        rw [if_neg hsent]
        refine ⟨.of_open hopen.channelAt_eq rfl rfl (.adjust size hguard) ?_, rfl, channel, hopen,
          hcl,
          ?_⟩
        · split_ifs <;> rfl
        · rw [if_neg hsent]
          exact Acts.of_receive hopen hguard rfl rfl

/-- `handle_channel_eof`. -/
theorem handleChannelEof_ensures (h : TableInv c) (hparse : parseNumber s = some n) :
    Ensures (Refused (∀ channel, IsOpen c n channel → channel.flags.receivedEof ∨
        channel.flags.receivedClose))
      (fun r => Arrival c r ∧ ∃ channel, IsOpen c n channel ∧
        r.after = .maybeClose n.toNat channel.serial ∧
        Acts c (.channel n.toNat .receiveEof) r.connection)
      (handleChannelEof c s) := by
  rw [handleChannelEof, hparse]
  refine (lookupChannel_active h n).of_total.bind fun found hfnd => ?_
  cases found with
  | none => exact ⟨⟨_, rfl⟩, fun channel hopen => absurd hopen (hfnd channel)⟩
  | some channel =>
    have hopen : IsOpen c n channel := hfnd
    dsimp only
    split_ifs with hfl
    · refine ⟨⟨_, rfl⟩, fun channel' hopen' => ?_⟩
      rw [hopen.unique hopen']
      exact hfl
    · simp only [not_or, Bool.not_eq_true] at hfl
      exact ⟨.of_open hopen.channelAt_eq rfl rfl (.eof hfl) rfl, channel, hopen, rfl,
        Acts.of_receive hopen hfl rfl rfl⟩

/-- `handle_channel_close`. -/
theorem handleChannelClose_ensures (h : TableInv c) (hparse : parseNumber s = some n) :
    Ensures (Refused (∀ channel, IsOpen c n channel → channel.flags.receivedClose))
      (fun r => Arrival c r ∧ ∃ channel, IsOpen c n channel ∧
        r.after = .close n.toNat channel.serial ∧
        Acts c (.channel n.toNat .receiveClose) r.connection)
      (handleChannelClose c s) := by
  rw [handleChannelClose, hparse]
  refine (lookupChannel_active h n).of_total.bind fun found hfnd => ?_
  cases found with
  | none => exact ⟨⟨_, rfl⟩, fun channel hopen => absurd hopen (hfnd channel)⟩
  | some channel =>
    have hopen : IsOpen c n channel := hfnd
    dsimp only
    split_ifs with hcl
    · refine ⟨⟨_, rfl⟩, fun channel' hopen' => ?_⟩
      rw [hopen.unique hopen', hcl]
    · have hcl := Bool.eq_false_iff.mpr hcl
      refine ⟨.of_open hopen.channelAt_eq rfl rfl (.close hcl) rfl, channel, hopen, rfl, ?_⟩
      obtain ⟨slot, hs, hst, hch⟩ := hopen
      have hacts := Acts.channel .receiveClose hs hch hcl (fun _ => hst) nofun
      have hmgs : ChannelAction.messages .receiveClose channel = [] := rfl
      rw [hmgs, emit, append_nil] at hacts
      exact hacts

/-- `handle_channel_success` and `handle_channel_failure`. -/
theorem handleChannelReply_ensures (h : TableInv c) (hparse : parseNumber s = some n)
    (success : Bool)
    (msg) :
    Ensures (Refused (∀ channel, ¬IsOpen c n channel))
      (fun r => Arrival c r ∧ r.after = .done ∧ (∃ channel, IsOpen c n channel) ∧
        (r.connection = c ∨
        Acts c (.channel n.toNat .receiveReply) r.connection))
      (handleChannelReply c s (if success then .success else .failure) msg) := by
  rw [handleChannelReply, hparse]
  refine (lookupChannel_active h n).of_total.bind fun found hfnd => ?_
  cases found with
  | none => exact ⟨⟨_, rfl⟩, hfnd⟩
  | some channel =>
    have hopen : IsOpen c n channel := hfnd
    dsimp only
    by_cases hpen : channel.pendingRequests = 0
    · rw [if_pos hpen]
      exact ⟨.of_slots rfl rfl rfl, rfl, ⟨channel, hopen⟩, .inl rfl⟩
    · rw [if_neg hpen]
      exact ⟨.of_open hopen.channelAt_eq rfl rfl (.reply success hpen) rfl, rfl, ⟨channel, hopen⟩,
        .inr (Acts.of_receive hopen hpen rfl rfl)⟩

/-- Data is taken as far as the window and the packet size allow. -/
def accepted (channel : SshChannel κ) (data : Octets) : Octets :=
  (data.take channel.recMaxPacket.toNat).take channel.recWindowSize.toNat

theorem length_accepted (channel : SshChannel κ) (data) :
    (accepted channel data).length =
      min channel.recWindowSize.toNat (min channel.recMaxPacket.toNat data.length) := by
  rw [accepted, length_take, length_take]

theorem toNat_length_accepted (channel : SshChannel κ) (data) :
    (UInt32.ofNat (accepted channel data).length).toNat = (accepted channel data).length := by
  have hlt := channel.recWindowSize.toNat_lt
  refine Nat.mod_eq_of_lt ?_
  rw [length_accepted]
  omega

/-- `receive_data_common`. -/
theorem receiveDataCommon_cases (hopen : IsOpen c n channel) (err data) :
    Arrival c (receiveDataCommon c n channel err data) ∧
      (receiveDataCommon c n channel err data).after = .done ∧
      ((receiveDataCommon c n channel err data).connection = c ∧
          (TakesData channel → accepted channel data = []) ∨
        TakesData channel ∧ accepted channel data ≠ [] ∧
          (receiveDataCommon c n channel err data).callback =
            some (.receive n.toNat err (accepted channel data)) ∧
          Acts c (.channel n.toNat (.receiveData (UInt32.ofNat (accepted channel data).length)))
            (receiveDataCommon c n channel err data).connection) := by
  rw [receiveDataCommon]
  by_cases hrec : channel.receive ∧ ¬(channel.flags.receivedEof ∨ channel.flags.receivedClose)
  · rw [if_pos hrec]
    have hfl := hrec.2
    simp only [not_or, Bool.not_eq_true] at hfl
    split_ifs with hcl
    · refine ⟨.of_slots rfl rfl rfl, rfl, .inl ⟨rfl, fun htk => ?_⟩⟩
      rw [htk.2.2.2] at hcl
      cases hcl
    · have htk : TakesData channel :=
        ⟨hrec.1, hfl.1, hfl.2, Bool.eq_false_iff.mpr hcl⟩
      rw [← accepted]
      by_cases hemp : (accepted channel data).length = 0
      · rw [if_pos hemp]
        exact ⟨.of_slots rfl rfl rfl, rfl, .inl ⟨rfl, fun _ => List.length_eq_zero_iff.mp hemp⟩⟩
      · rw [if_neg hemp]
        have hlen := length_accepted channel data
        have hne : accepted channel data ≠ [] := fun h => hemp (by rw [h]; rfl)
        refine ⟨.of_open hopen.channelAt_eq rfl rfl (.data err htk hne (by omega)) rfl, rfl,
          .inr ⟨htk, hne, rfl, ?_⟩⟩
        refine Acts.of_receive hopen ⟨hfl.1, hfl.2, htk.2.2.2, ?_, ?_⟩ rfl rfl
        · rw [UInt32.le_iff_toNat_le, toNat_length_accepted]
          omega
        · rw [UInt32.le_iff_toNat_le, toNat_length_accepted]
          omega
  · rw [if_neg hrec]
    refine ⟨.of_slots rfl rfl rfl, rfl, .inl ⟨rfl, fun htk => absurd ⟨htk.1, ?_⟩ hrec⟩⟩
    rw [htk.2.1, htk.2.2.1]
    simp

/-- What becomes of data for a channel. -/
def DataReceived (c : SshConnection κ) (n : UInt32) (stderr : Bool) (data : Octets)
    (r : Received κ) : Prop :=
  r.after = .done ∧
    (r.connection = c ∧
        (∀ channel, IsOpen c n channel → TakesData channel → accepted channel data = []) ∨
      ∃ channel, IsOpen c n channel ∧ TakesData channel ∧
        r.callback = some (.receive n.toNat stderr (accepted channel data)) ∧
        Acts c (.channel n.toNat (.receiveData (UInt32.ofNat (accepted channel data).length)))
          r.connection)

theorem receiveDataCommon_received (hopen : IsOpen c n channel) (err data) :
    Arrival c (receiveDataCommon c n channel err data) ∧
      DataReceived c n err data (receiveDataCommon c n channel err data) := by
  obtain ⟨harr, haft, ⟨hsame, hno⟩ | ⟨htk, _, hcb, hacts⟩⟩ :=
    receiveDataCommon_cases hopen err data
  · refine ⟨harr, haft, .inl ⟨hsame, fun channel' hopen' htk => ?_⟩⟩
    rw [hopen.unique hopen'] at htk ⊢
    exact hno htk
  · exact ⟨harr, haft, .inr ⟨channel, hopen, htk, hcb, hacts⟩⟩

variable {data : Octets}

/-- `handle_channel_data`. -/
theorem handleChannelData_ensures (h : TableInv c) (hparse : parseChannelData s = some (n, data)) :
    Yields (fun r => Arrival c r ∧ DataReceived c n false data r) (handleChannelData c s) := by
  rw [handleChannelData, hparse]
  refine (lookupChannel_active h n).bind fun found hfnd => ?_
  cases found with
  | none =>
    exact ⟨.of_slots rfl rfl rfl, rfl, .inl ⟨rfl, fun channel hopen => absurd hopen (hfnd channel)⟩⟩
  | some channel => exact receiveDataCommon_received hfnd false data

/-- `handle_channel_extended_data`, which knows only one type of data. -/
theorem handleChannelExtendedData_ensures {type : UInt32} (h : TableInv c)
    (hparse : parseChannelExtendedData s = some (n, type, data)) :
    Yields
      (fun r => Arrival c r ∧
        if type = 1 then DataReceived c n true data r else r.after = .done ∧ r.connection = c)
      (handleChannelExtendedData c s) := by
  rw [handleChannelExtendedData, hparse]
  refine (lookupChannel_active h n).bind fun found hfnd => ?_
  cases found with
  | none =>
    show _ ∧ if type = 1 then _ else _
    refine ⟨.of_slots rfl rfl rfl, ?_⟩
    split_ifs
    · exact ⟨rfl, .inl ⟨rfl, fun channel hopen => absurd hopen (hfnd channel)⟩⟩
    · exact ⟨rfl, rfl⟩
  | some channel =>
    show _ ∧ if type = 1 then _ else _
    by_cases hty : type = 1
    · rw [if_pos hty, if_neg (not_not.mpr hty)]
      exact receiveDataCommon_received hfnd true data
    · rw [if_neg hty, if_pos hty]
      exact ⟨.of_slots rfl rfl rfl, rfl, rfl⟩

variable {type args : Octets} {want : Bool}

/-- `handle_channel_request`. -/
theorem handleChannelRequest_ensures (h : TableInv c)
    (hparse : parseChannelRequest s = some (n, type, want, args)) :
    Ensures (Refused (∀ channel, ¬IsOpen c n channel))
      (fun r => Arrival c r ∧ r.after = .done ∧ ∃ channel, IsOpen c n channel ∧ (r.connection = c ∨
        ¬Handles channel type ∧ want ∧ Acts c (.channel n.toNat (.reply false)) r.connection))
      (handleChannelRequest c s) := by
  rw [handleChannelRequest, hparse]
  refine (lookupChannel_active h n).of_total.bind fun found hfnd => ?_
  cases found with
  | none => exact ⟨⟨_, rfl⟩, hfnd⟩
  | some channel =>
    have hopen : IsOpen c n channel := hfnd
    dsimp only
    split_ifs with hhs
    · exact ⟨.of_same hopen.channelAt_eq rfl rfl (.request type want args hhs) rfl, rfl, channel,
        hopen, .inl rfl⟩
    · cases want with
      | false =>
        exact ⟨.of_same hopen.channelAt_eq rfl rfl .unhandled rfl, rfl, channel, hopen, .inl rfl⟩
      | true =>
        -- an open channel has a number at the other end, so that the reply is sent
        have hrep : Yields (fun d => (d.slots = c.slots ∧ d.alive = c.alive) ∧
            Acts c (.channel n.toNat (.reply false)) d)
            (channelRequestReply c n.toNat true false) := by
          have hacts := channelRequestReply_acts hopen.channelAt_eq false
          obtain ⟨m, hm⟩ := Option.isSome_iff_exists.mp (hopen.remote_isSome h)
          rw [channelRequestReply, getChannel, hopen.channelAt_eq] at hacts ⊢
          rw [ok_bind, writeChannel, hm] at hacts ⊢
          exact ⟨⟨rfl, rfl⟩, hacts⟩
        refine hrep.of_total.bind fun d hd => ?_
        exact ⟨.of_same hopen.channelAt_eq hd.1.1 hd.1.2 .unhandled rfl, rfl, channel, hopen,
          .inr ⟨hhs, rfl, hd.2⟩⟩

/-! ### Opening -/

variable {remote window maxPacket : UInt32}

/-- `handle_open_confirm`. -/
theorem handleOpenConfirm_ensures (h : TableInv c)
    (hparse : parseOpenConfirmation s = some (n, remote, window, maxPacket)) :
    Ensures (Refused (∀ channel, ¬IsOpening c n channel))
      (fun r => Arrival c r ∧ r.after = .done ∧ (∃ channel, IsOpening c n channel) ∧
        Acts c (.receiveConfirmation n.toNat remote window maxPacket) r.connection)
      (handleOpenConfirm c s) := by
  rw [handleOpenConfirm, hparse]
  refine (lookupChannel_sentOpen h n).of_total.bind fun found hfnd => ?_
  cases found with
  | none => exact ⟨⟨_, rfl⟩, hfnd⟩
  | some channel =>
    obtain ⟨hx, hrem, hfl⟩ := IsOpening.unused h hfnd
    obtain ⟨slot, hs, hst, hch⟩ : IsOpening c n channel := hfnd
    have hs' : (setChannel c n.toNat (confirmed channel remote window maxPacket)).slots[n.toNat]? =
        some { slot with channel := some (confirmed channel remote window maxPacket) } := by
      rw [setChannel_eq hs]
      exact (Replaces.of_set hs _).getElem?_self
    have hact := activateChannel_eq hs' (by simp [hst]) rfl
    have hset : (setChannel c n.toNat (confirmed channel remote window maxPacket)).slots.set n.toNat
        ⟨.active, some (confirmed channel remote window maxPacket), none⟩ =
        c.slots.set n.toNat ⟨.active, some (confirmed channel remote window maxPacket), none⟩ := by
      rw [setChannel_eq hs, set_set]
    have hens : Ensures (Refused (∀ channel, ¬IsOpening c n channel)) (fun d => d = { c with
        slots := c.slots.set n.toNat
          ⟨.active, some (confirmed channel remote window maxPacket), none⟩ })
        (activateChannel (setChannel c n.toNat (confirmed channel remote window maxPacket))
          n.toNat) := by
      rw [hact, hset]
      rfl
    refine hens.bind fun d hd => ?_
    subst hd
    refine ⟨⟨rfl, .inl ⟨n.toNat, channel, _, _, hx, fun j => ?_,
      .confirm remote window maxPacket hrem hfl, rfl⟩⟩, rfl, ⟨channel, slot, hs, hst, hch⟩, ?_⟩
    · exact channelAt_of_replaces (d := { c with slots := _ }) (Replaces.of_set hs _)
    have hacts := Acts.receiveConfirmation remote window maxPacket hs hst hch
    rw [emit, append_nil] at hacts
    exact hacts

/-- `handle_open_failure`. -/
theorem handleOpenFailure_ensures (h : TableInv c) (hparse : parseOpenFailure s = some n) :
    Yields
      (fun r => Arrival c r ∧
        ((∀ channel, ¬IsOpening c n channel) ∧ r.connection = c ∧ r.after = .done ∨
          ∃ channel, IsOpening c n channel ∧ r.after = .finish n.toNat channel.serial ∧
            Acts c (.receiveFailure n.toNat) r.connection ∧
            .receivedFailure channel.serial ∈ r.connection.log))
      (handleOpenFailure c s) := by
  rw [handleOpenFailure, hparse]
  refine (lookupChannel_sentOpen h n).bind fun found hfnd => ?_
  cases found with
  | none => exact ⟨.of_slots rfl rfl rfl, .inl ⟨hfnd, rfl, rfl⟩⟩
  | some channel =>
    obtain ⟨hx, hrem, _⟩ := IsOpening.unused h hfnd
    refine ⟨.of_same hx rfl rfl (.deny hrem) rfl, ?_⟩
    obtain ⟨slot, hs, hst, hch⟩ : IsOpening c n channel := hfnd
    refine .inr ⟨channel, ⟨slot, hs, hst, hch⟩, rfl, ?_, ?_⟩
    · have hacts := Acts.receiveFailure hs hst hch
      rw [emit, append_nil] at hacts
      exact hacts
    · exact mem_append_right _ (mem_singleton_self _)

/-- `handle_channel_open`. -/
theorem handleChannelOpen_ensures (h : TableInv c)
    (hparse : parseChannelOpen s = some (type, remote, window, maxPacket, args)) :
    Yields
      (fun r => Arrival c r ∧ r.after = .done ∧
        ((∃ reason msg, Acts c (.refuse remote reason msg) r.connection) ∨
          ∃ i, Acts c (.receiveOpen i ⟨remote, window, min maxPacket 0x8000⟩) r.connection))
      (handleChannelOpen c s) := by
  rw [handleChannelOpen, hparse]
  dsimp only
  by_cases hpen : c.pendingClose
  · rw [if_pos hpen]
    exact ⟨.of_slots rfl rfl rfl, rfl, .inl ⟨_, _, .refuse _ _ _⟩⟩
  · rw [if_neg hpen]
    split_ifs with hkn
    · refine (allocChannel_ensures h .receivedOpen).bind fun r hr => ?_
      obtain ⟨index, d⟩ := r
      cases index with
      | none =>
        obtain ⟨rfl, _⟩ := hr
        exact ⟨.of_slots rfl rfl rfl, rfl, .inl ⟨_, _, .refuse _ _ _⟩⟩
      | some i =>
        obtain ⟨hi, rfl⟩ := hr
        have hmod : (allot c i ⟨.receivedOpen, none, none⟩).slots.modify i
            (fun s => { s with info := some ⟨remote, window, min maxPacket 0x8000⟩ }) =
            place c.slots i ⟨.receivedOpen, none, some ⟨remote, window, min maxPacket 0x8000⟩⟩ := by
          have hs : (place c.slots i ⟨.receivedOpen, none, none⟩)[i]? =
              some ⟨.receivedOpen, none, none⟩ :=
            (Replaces.of_place hi.le_length _).getElem?_self
          rw [allot]
          rw [modify_eq_set hs, set_place hi.le_length]
        refine ⟨⟨rfl, .inr ⟨fun j => ?_, rfl⟩⟩, rfl, .inr ⟨i, ?_⟩⟩
        · show channelAt { allot c i _ with slots := modify _ _ _ } j = _
          rw [hmod]
          refine (channelAt_of_replaces (Replaces.of_place hi.le_length _)).trans ?_
          split_ifs with hj
          · rw [hj, TableInv.channelAt_of_found hi]
          · rfl
        have hacts := Acts.receiveOpen ⟨remote, window, min maxPacket 0x8000⟩ hi
          (Bool.eq_false_iff.mpr hpen)
        rw [allot, ← hmod] at hacts
        exact hacts
    · exact ⟨.of_slots rfl rfl rfl, rfl, .inl ⟨_, _, .refuse _ _ _⟩⟩

/-! ### Global requests -/

/-- Somebody handles global requests of a type. -/
def HandlesGlobal (c : SshConnection κ) (type : Octets) : Prop :=
  ∃ a ∈ lookupAtom type, a ∈ c.globalRequests

instance (c : SshConnection κ) (type : Octets) : Decidable (HandlesGlobal c type) :=
  inferInstanceAs (Decidable (∃ _, _))

/-- `handle_global_request`. -/
theorem handleGlobalRequest_ensures (hparse : parseGlobalRequest s = some (type, want, args)) :
    Yields
      (fun r => Arrival c r ∧ r.after = .done ∧
        (¬HandlesGlobal c type ∧ r.callback = none ∧ Acts c (.refuseGlobal want) r.connection ∨
          HandlesGlobal c type ∧ r.connection = c ∧
            ∃ a, r.callback = some (.globalRequest a want args)))
      (handleGlobalRequest c s) := by
  have href : Acts c (.refuseGlobal want)
      (write (logResult c want false) none .requestFailure) := by
    have hacts := Acts.refuseGlobal (c := c) want
    simpa [emit, write, logResult, globalMessage] using hacts
  rw [handleGlobalRequest, hparse]
  dsimp only
  cases hty : lookupAtom type with
  | none =>
    refine ⟨.of_slots rfl rfl rfl, rfl, .inl ⟨fun hhs => ?_, rfl, href⟩⟩
    obtain ⟨a, ha, _⟩ := hhs
    rw [hty] at ha
    cases ha
  | some a =>
    dsimp only
    split_ifs with hmem
    · exact ⟨.of_slots rfl rfl rfl, rfl, .inr ⟨⟨a, hty, hmem⟩, rfl, a, rfl⟩⟩
    · refine ⟨.of_slots rfl rfl rfl, rfl, .inl ⟨fun hhs => ?_, rfl, href⟩⟩
      obtain ⟨a', ha', hmem'⟩ := hhs
      rw [hty] at ha'
      cases ha'
      exact hmem hmem'

/-- `handle_global_success` and `handle_global_failure`. -/
theorem handleGlobalReply_ensures (hparse : parseEod s = some ()) (res msg) :
    Yields
      (fun r => Arrival c r ∧ r.after = .done ∧
        (c.pendingGlobalRequests = [] ∧ r.connection = c ∨
          ∃ st rest, c.pendingGlobalRequests = st :: rest ∧
            Acts c (.receiveGlobalReply st res) r.connection))
      (handleGlobalReply c s res msg) := by
  rw [handleGlobalReply, hparse]
  cases hpen : c.pendingGlobalRequests with
  | nil => exact ⟨.of_slots rfl rfl rfl, rfl, .inl ⟨rfl, rfl⟩⟩
  | cons st rest =>
    refine ⟨.of_slots rfl rfl rfl, rfl, .inr ⟨st, rest, rfl, ?_⟩⟩
    have hacts := Acts.receiveGlobalReply res hpen
    rw [emit, append_nil] at hacts
    exact hacts

end Lsh.Channel
