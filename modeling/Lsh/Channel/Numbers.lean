
import Lsh.Channel.Endpoint

/-!
# Channel numbers

The table of channel numbers of an endpoint. `Numbered` is what the counters say about the entries,
and `Objects` what the entries say about the channel objects in them; every action keeps both.

## Main results

* `Numbered.set`, `Numbered.allot`, `Numbered.release` — what may happen to an entry
* `TableInv.acts` — the invariant of the table
-/

namespace Lsh.Channel

open Machine Table List

variable {κ : Type} {c : SshConnection κ} {i : ℕ} {s : Slot κ}

/-! ### Entries -/

/-- No flag of the close handshake is set. -/
structure Flags.Unused (flags : Flags) : Prop where
  sentClose : flags.sentClose = false
  receivedClose : flags.receivedClose = false
  sentEof : flags.sentEof = false
  receivedEof : flags.receivedEof = false

/-- The entry for the number `i`, where serial numbers are below a bound. -/
inductive Slot.Valid (i bound : ℕ) : Slot κ → Prop where
  | free : Valid i bound ⟨.free, none, none⟩
  | receivedOpen (info : OpenInfo) : Valid i bound ⟨.receivedOpen, none, some info⟩
  | sentOpen {channel : SshChannel κ} (hlocal : channel.localChannelNumber = i)
      (hserial : channel.serial < bound) (hremote : channel.remoteChannelNumber = none)
      (hflags : channel.flags.Unused) : Valid i bound ⟨.sentOpen, some channel, none⟩
  | active {channel : SshChannel κ} (hlocal : channel.localChannelNumber = i)
      (hserial : channel.serial < bound) (hremote : channel.remoteChannelNumber.isSome) :
      Valid i bound ⟨.active, some channel, none⟩

namespace ChannelAction

@[simp] theorem effect_serial (a : ChannelAction κ) (ch : SshChannel κ) :
    (a.effect ch).serial = ch.serial := by
  cases a <;> simp only [effect, Update.apply]
  split <;> rfl

@[simp] theorem effect_localChannelNumber (a : ChannelAction κ) (ch : SshChannel κ) :
    (a.effect ch).localChannelNumber = ch.localChannelNumber := by
  cases a <;> simp only [effect, Update.apply]
  split <;> rfl

@[simp] theorem effect_remoteChannelNumber (a : ChannelAction κ) (ch : SshChannel κ) :
    (a.effect ch).remoteChannelNumber = ch.remoteChannelNumber := by
  cases a <;> simp only [effect, Update.apply]
  split <;> rfl

/-- An action on a channel that is not open leaves the flags alone. -/
theorem unused_effect {a : ChannelAction κ} {ch : SshChannel κ} (hrec : ¬a.IsReceive)
    (hmsg : (a.message ch).isSome = false) (h : ch.flags.Unused) :
    (a.effect ch).flags.Unused := by
  cases a with
  | update u => exact ⟨h.sentClose, h.receivedClose, h.sentEof, h.receivedEof⟩
  | kill => exact h
  | transmit type data => cases type <;> cases hmsg
  | _ => first | exact absurd trivial hrec | cases hmsg

end ChannelAction

namespace Slot.Valid

variable {i bound bound' : ℕ} {s : Slot κ}

section
variable (h : s.Valid i bound)
include h

theorem mono (hle : bound ≤ bound') : s.Valid i bound' := by
  cases h with
  | free => exact .free
  | receivedOpen info => exact .receivedOpen info
  | sentOpen hloc hser hrem hfl =>
    exact .sentOpen hloc (Nat.lt_of_lt_of_le hser hle) hrem hfl
  | active hloc hser hrem => exact .active hloc (Nat.lt_of_lt_of_le hser hle) hrem

/-- An entry with an object is open or being opened. -/
theorem state_ne_free {ch : SshChannel κ} (hc : s.channel = some ch) : s.state ≠ .free := by
  cases h <;> simp_all

theorem serial_lt {ch : SshChannel κ} (hc : s.channel = some ch) : ch.serial < bound := by
  cases h with
  | free | receivedOpen => cases hc
  | sentOpen hloc hser hrem hfl | active hloc hser hrem =>
    cases hc
    exact hser

theorem local_eq {ch : SshChannel κ} (hc : s.channel = some ch) : ch.localChannelNumber = i := by
  cases h with
  | free | receivedOpen => cases hc
  | sentOpen hloc | active hloc =>
    cases hc
    exact hloc

/-- A channel whose number at the other end is known is open. -/
theorem state_eq_active {ch : SshChannel κ}
    (hc : s.channel = some ch) (hrem : ch.remoteChannelNumber.isSome) :
    s.state = .active := by
  cases h with
  | free | receivedOpen => cases hc
  | sentOpen hloc hser hno hfl =>
    cases hc
    rw [hno] at hrem
    cases hrem
  | active => rfl

/-- **Actions on a channel** keep its entry valid. -/
theorem effect {ch : SshChannel κ} (hc : s.channel = some ch)
    {a : ChannelAction κ} (hact : a.IsReceive → s.state = .active)
    (hrem : (a.message ch).isSome → ch.remoteChannelNumber.isSome) :
    Slot.Valid i bound { s with channel := some (a.effect ch) } := by
  cases h with
  | free | receivedOpen => cases hc
  | sentOpen hloc hser hno hfl =>
    cases hc
    have hmsg : (a.message ch).isSome = false := by
      rw [hno] at hrem
      exact Bool.eq_false_iff.mpr fun h => nomatch hrem h
    refine .sentOpen ?_ ?_ ?_ (ChannelAction.unused_effect (fun h => ?_) hmsg hfl)
    · rw [ChannelAction.effect_localChannelNumber, hloc]
    · rwa [ChannelAction.effect_serial]
    · rw [ChannelAction.effect_remoteChannelNumber, hno]
    · exact nomatch hact h
  | active hloc hser hsome =>
    cases hc
    refine .active ?_ ?_ ?_
    · rw [ChannelAction.effect_localChannelNumber, hloc]
    · rwa [ChannelAction.effect_serial]
    · rwa [ChannelAction.effect_remoteChannelNumber]

end

end Slot.Valid

/-! ### The table -/

/-- What the counters of the table say about its entries. -/
structure Numbered (c : SshConnection κ) : Prop where
  length_le_allocated : c.slots.length ≤ c.allocatedChannels
  allocated_pos : 0 < c.allocatedChannels
  length_le_max : c.slots.length ≤ maxChannels
  count_eq : c.channelCount = c.slots.countP fun s => s.state ≠ .free
  next_le : c.nextChannel ≤ c.slots.length
  taken : ∀ j s, j < c.nextChannel → c.slots[j]? = some s → s.state ≠ .free

/-- The entries of the table, and the objects in them. -/
structure Objects (c : SshConnection κ) : Prop where
  slot : ∀ (i : ℕ) (s : Slot κ), c.slots[i]? = some s → s.Valid i c.nextSerial
  serial_inj : ∀ i j x y, channelAt c i = some x → channelAt c j = some y →
    x.serial = y.serial → i = j

/-- **The invariant of the table.** -/
structure TableInv (c : SshConnection κ) : Prop extends Numbered c, Objects c

namespace Numbered

variable {c d : SshConnection κ} {i : ℕ}

theorem congr (h : Numbered c) (hslots : d.slots = c.slots)
    (halc : d.allocatedChannels = c.allocatedChannels) (hnext : d.nextChannel = c.nextChannel)
    (hcount : d.channelCount = c.channelCount) : Numbered d where
  length_le_allocated := by rw [hslots, halc]; exact h.length_le_allocated
  allocated_pos := by rw [halc]; exact h.allocated_pos
  length_le_max := by rw [hslots]; exact h.length_le_max
  count_eq := by rw [hslots, hcount]; exact h.count_eq
  next_le := by rw [hslots, hnext]; exact h.next_le
  taken := by rw [hslots, hnext]; exact h.taken

/-- A number stays in use. -/
theorem set {s' : Slot κ} (h : Numbered c) (hs : c.slots[i]? = some s) (hst : s.state ≠ .free)
    (hst' : s'.state ≠ .free) : Numbered { c with slots := c.slots.set i s' } where
  length_le_allocated := by
    rw [length_set]
    exact h.length_le_allocated
  allocated_pos := h.allocated_pos
  length_le_max := by
    rw [length_set]
    exact h.length_le_max
  count_eq := by
    have hcount := (Replaces.of_set hs s').countP fun s => s.state ≠ .free
    rw [Option.toList_some, countP_singleton, countP_singleton, if_pos (by simpa),
      if_pos (by simpa)] at hcount
    rw [h.count_eq]
    exact (Nat.add_right_cancel hcount).symm
  next_le := by
    rw [length_set]
    exact h.next_le
  taken := by
    intro j t hj ht
    rcases (Replaces.of_set hs s').of_getElem? ht with ⟨_, rfl⟩ | ⟨_, ht⟩
    · exact hst'
    · exact h.taken j t hj ht

/-- A number is taken into use. -/
theorem allot (h : Numbered c) (hi : Found c i) (hst : s.state ≠ .free) :
    Numbered (allot c i s) := by
  have hr := Replaces.of_place hi.le_length s
  have hlen : (place c.slots i s).length =
      if (c.slots[i]?).isSome then c.slots.length else c.slots.length + 1 := hr.length_eq
  refine ⟨?_, ?_, ?_, ?_, ?_, ?_⟩
  · have hle := h.length_le_allocated
    have hpos := h.allocated_pos
    show (place c.slots i s).length ≤ if i = c.slots.length ∧ i = c.allocatedChannels then
      c.allocatedChannels * 2 else c.allocatedChannels
    rw [hlen]
    rcases hr.cases with ⟨t, _, ht, _⟩ | ⟨_, heq, _⟩
    · rw [ht, Option.isSome_some, if_pos rfl]
      split_ifs <;> omega
    · split_ifs <;> omega
  · have hpos := h.allocated_pos
    show 0 < if i = c.slots.length ∧ i = c.allocatedChannels then
      c.allocatedChannels * 2 else c.allocatedChannels
    split_ifs <;> omega
  · have hle := h.length_le_max
    have hmax := hi.lt_maxChannels
    show (place c.slots i s).length ≤ maxChannels
    rw [hlen]
    rcases hr.cases with ⟨t, _, ht, _⟩ | ⟨_, heq, _⟩
    · rw [ht]
      exact hle
    · rw [heq, getElem?_length, if_neg nofun]
      omega
  · have hcount := hr.countP fun s => s.state ≠ .free
    have hold : (c.slots[i]?).toList.countP (fun s => s.state ≠ .free) = 0 := by
      rw [countP_eq_zero]
      intro t ht
      simpa using (hi.free t (Option.mem_toList.mp ht)).1
    rw [hold, countP_singleton, if_pos (by simpa)] at hcount
    show c.channelCount + 1 = _
    rw [h.count_eq]
    exact hcount.symm
  · exact lt_length_of_getElem? hr.getElem?_self
  · intro j t hj ht
    have hj : j < i + 1 := hj
    rcases hr.of_getElem? ht with ⟨_, rfl⟩ | ⟨hne, ht⟩
    · exact hst
    · rcases Nat.lt_or_ge j c.nextChannel with hlt | hge
      · exact h.taken j t hlt ht
      · exact hi.taken j t hge (by omega) ht

/-- A number is given back. -/
theorem release (h : Numbered c) (hs : c.slots[i]? = some s) (hst : s.state ≠ .free) :
    Numbered (release c i) where
  length_le_allocated := by
    show (c.slots.set i _).length ≤ _
    rw [length_set]
    exact h.length_le_allocated
  allocated_pos := h.allocated_pos
  length_le_max := by
    show (c.slots.set i _).length ≤ _
    rw [length_set]
    exact h.length_le_max
  count_eq := by
    have hcount := (Replaces.of_set hs ⟨.free, none, none⟩).countP fun s => s.state ≠ .free
    rw [Option.toList_some, countP_singleton, if_pos (by simpa)] at hcount
    show c.channelCount - 1 = _
    rw [h.count_eq]
    exact (Nat.eq_sub_of_add_eq hcount).symm
  next_le := by
    show min i c.nextChannel ≤ (c.slots.set i _).length
    rw [length_set]
    exact (Nat.min_le_right _ _).trans h.next_le
  taken := by
    intro j t hj ht
    have hj : j < min i c.nextChannel := hj
    rcases (Replaces.of_set hs _).of_getElem? ht with ⟨heq, _⟩ | ⟨_, ht⟩
    · omega
    · exact h.taken j t (by omega) ht

end Numbered

/-- The objects after an entry has been replaced. -/
theorem channelAt_of_replaces {old : Option (Slot κ)} {new : Slot κ} {d : SshConnection κ} {j : ℕ}
    (hr : Replaces c.slots d.slots i old new) :
    channelAt d j = if j = i then new.channel else channelAt c j := by
  rw [channelAt, channelAt]
  split_ifs with hj
  · rw [hj, hr.getElem?_self]
    rfl
  · rw [hr.getElem?_ne hj]

variable {channel : SshChannel κ}

theorem channelAt_eq_some (hs : c.slots[i]? = some s) (hch : s.channel = some channel) :
    channelAt c i = some channel := by
  rw [channelAt, hs, Option.bind_some, hch]

/-- The entry of an object. -/
theorem exists_slot (h : channelAt c i = some channel) :
    ∃ s, c.slots[i]? = some s ∧ s.channel = some channel :=
  Option.bind_eq_some_iff.mp h

namespace Objects

variable {c d : SshConnection κ}

theorem congr (h : Objects c) (hslots : d.slots = c.slots) (hser : d.nextSerial = c.nextSerial) :
    Objects d where
  slot := by
    rw [hslots, hser]
    exact h.slot
  serial_inj := by
    intro i j x y
    rw [channelAt, channelAt, hslots]
    exact h.serial_inj i j x y

/-- Serial numbers of objects are below the next one. -/
theorem serial_lt {channel : SshChannel κ} (h : Objects c) (hc : channelAt c i = some channel) :
    channel.serial < c.nextSerial := by
  obtain ⟨s, hs, hch⟩ := exists_slot hc
  exact (h.slot i s hs).serial_lt hch

/-- An entry is replaced. Its object is the one that was there, or a new one. -/
theorem replaces {old : Option (Slot κ)} {new : Slot κ} (h : Objects c)
    (hr : Replaces c.slots d.slots i old new)
    (hle : c.nextSerial ≤ d.nextSerial) (hnew : new.Valid i d.nextSerial)
    (hobj : ∀ y, new.channel = some y →
      (∃ x, channelAt c i = some x ∧ x.serial = y.serial) ∨ c.nextSerial ≤ y.serial) :
    Objects d where
  slot := by
    intro j s hs
    rcases hr.of_getElem? hs with ⟨rfl, rfl⟩ | ⟨_, hs⟩
    · exact hnew
    · exact (h.slot j s hs).mono hle
  serial_inj := by
    -- the new entry against an old one
    have hcross : ∀ j x y, new.channel = some x → channelAt c j = some y →
        x.serial = y.serial → i = j := by
      intro j x y hx hy heq
      rcases hobj x hx with ⟨x', hx', hser⟩ | hge
      · exact h.serial_inj i j x' y hx' hy (hser.trans heq)
      · have hlt := h.serial_lt hy
        omega
    intro j k x y hx hy heq
    rw [channelAt_of_replaces hr] at hx hy
    split_ifs at hx hy with hj hk hk
    · rw [hj, hk]
    · rw [hj]
      exact hcross k x y hx hy heq
    · rw [hk]
      exact (hcross j y x hy hx heq.symm).symm
    · exact h.serial_inj j k x y hx hy heq

end Objects

/-! ### Actions keep the invariant -/

section Settle

variable (c : SshConnection κ)

@[simp] theorem settle_slots : (settle c).slots = c.slots := by
  rw [settle]
  split <;> rfl

@[simp] theorem settle_allocatedChannels : (settle c).allocatedChannels = c.allocatedChannels := by
  rw [settle]
  split <;> rfl

@[simp] theorem settle_nextChannel : (settle c).nextChannel = c.nextChannel := by
  rw [settle]
  split <;> rfl

@[simp] theorem settle_channelCount : (settle c).channelCount = c.channelCount := by
  rw [settle]
  split <;> rfl

@[simp] theorem settle_nextSerial : (settle c).nextSerial = c.nextSerial := by
  rw [settle]
  split <;> rfl

@[simp] theorem settle_log : (settle c).log = c.log := by
  rw [settle]
  split <;> rfl

@[simp] theorem settle_written : (settle c).written = c.written := by
  rw [settle]
  split <;> rfl

@[simp] theorem settle_pendingClose : (settle c).pendingClose = c.pendingClose := by
  rw [settle]
  split <;> rfl

end Settle

/-- A channel object is changed in its entry. -/
theorem setChannel_eq (hs : c.slots[i]? = some s) (ch) :
    setChannel c i ch = { c with slots := c.slots.set i { s with channel := some ch } } := by
  rw [setChannel, modify_eq_set hs]

namespace TableInv

variable {d : SshConnection κ}

theorem congr (h : TableInv c) (hslots : d.slots = c.slots)
    (halc : d.allocatedChannels = c.allocatedChannels) (hnext : d.nextChannel = c.nextChannel)
    (hcount : d.channelCount = c.channelCount) (hser : d.nextSerial = c.nextSerial) :
    TableInv d where
  toNumbered := h.toNumbered.congr hslots halc hnext hcount
  toObjects := h.toObjects.congr hslots hser

/-- An entry that has been found is free or missing. -/
theorem channelAt_of_found (hi : Found c i) : channelAt c i = none := by
  rw [channelAt]
  cases hs : c.slots[i]? with
  | none => rfl
  | some s => exact (hi.free s hs).2

/-- **Every action keeps the invariant of the table.** -/
theorem acts {a : Action κ} (h : TableInv c) (ha : Acts c a d) : TableInv d := by
  cases ha with
  | @channel i s channel a hs hch hguard hact hrem =>
    rw [setChannel_eq hs]
    have hst := (h.slot i s hs).state_ne_free hch
    have hset : Numbered { c with
        slots := c.slots.set i { s with channel := some (a.effect channel) } } :=
      h.toNumbered.set hs hst hst
    refine ⟨hset.congr rfl rfl rfl rfl, ?_⟩
    refine h.toObjects.replaces (Replaces.of_set hs _) (Nat.le_refl _)
      ((h.slot i s hs).effect hch hact hrem) fun y hy => .inl ⟨channel, ?_, ?_⟩
    · exact channelAt_eq_some hs hch
    · rw [← Option.some.inj hy, ChannelAction.effect_serial]
  | @openNew i new type args hi =>
    refine ⟨(h.toNumbered.allot hi (by simp)).congr rfl rfl rfl rfl, ?_⟩
    refine h.toObjects.replaces (Replaces.of_place hi.le_length _) (Nat.le_succ _) ?_ fun y hy => ?_
    · exact .sentOpen rfl (Nat.lt_succ_self _) rfl ⟨rfl, rfl, rfl, rfl⟩
    · rw [← Option.some.inj hy]
      exact .inr (Nat.le_refl _)
  | @receiveOpen i info hi hpen =>
    refine ⟨h.toNumbered.allot hi (by simp), ?_⟩
    exact h.toObjects.replaces (Replaces.of_place hi.le_length _) (Nat.le_refl _)
      (.receivedOpen info) fun y hy => nomatch hy
  | @confirm i info new hs =>
    refine ⟨(h.toNumbered.set hs (by simp) (by simp)).congr rfl rfl rfl rfl, ?_⟩
    refine h.toObjects.replaces (Replaces.of_set hs _) (Nat.le_succ _) ?_ fun y hy => ?_
    · exact .active rfl (Nat.lt_succ_self _) rfl
    · rw [← Option.some.inj hy]
      exact .inr (Nat.le_refl _)
  | @deny i info reason msg hs =>
    refine ⟨(h.toNumbered.release hs (by simp)).congr rfl rfl rfl rfl, ?_⟩
    exact h.toObjects.replaces (Replaces.of_set hs _) (Nat.le_refl _) .free fun y hy => nomatch hy
  | @receiveConfirmation i s channel remote window maxPacket hs hst hch =>
    refine ⟨(h.toNumbered.set hs (by simp [hst]) (by simp)).congr rfl rfl rfl rfl, ?_⟩
    refine h.toObjects.replaces (Replaces.of_set hs _) (Nat.le_refl _) ?_ fun y hy => ?_
    · have hval := h.slot i s hs
      cases hval with
      | sentOpen hloc hser hno hfl =>
        cases hch
        exact .active hloc hser rfl
      | _ => cases hst
    · rw [← Option.some.inj hy]
      exact .inl ⟨channel, channelAt_eq_some hs hch, rfl⟩
  | receiveFailure => exact h.congr rfl rfl rfl rfl rfl
  | @finish i s channel hs hch hal hst =>
    have hne := (h.slot i s hs).state_ne_free hch
    have hrelease : TableInv (release c i) := by
      refine ⟨h.toNumbered.release hs hne, ?_⟩
      exact h.toObjects.replaces (Replaces.of_set hs _) (Nat.le_refl _) .free fun y hy => nomatch hy
    exact hrelease.congr (settle_slots _) (settle_allocatedChannels _) (settle_nextChannel _)
      (settle_channelCount _) (settle_nextSerial _)
  | refuse | sendGlobal | globalReply | refuseGlobal | receiveGlobalReply =>
    exact h.congr rfl rfl rfl rfl rfl
  | pendingClose =>
    exact h.congr (settle_slots _) (settle_allocatedChannels _) (settle_nextChannel _)
      (settle_channelCount _) (settle_nextSerial _)

theorem steps {P : SshConnection κ → Action κ → Prop} (h : TableInv c) (hs : Steps P c d) :
    TableInv d :=
  hs.inv (fun _ _ _ ha _ hc => hc.acts ha) h

end TableInv

theorem tableInv_init (channelTypes globalRequests openFallback) :
    TableInv (initSshConnection channelTypes globalRequests openFallback : SshConnection κ) where
  length_le_allocated := Nat.zero_le _
  allocated_pos := by simp [initSshConnection]
  length_le_max := Nat.zero_le _
  count_eq := rfl
  next_le := Nat.le_refl _
  taken := fun j s hj _ => absurd hj (Nat.not_lt_zero j)
  slot := fun i s hs => by cases hs
  serial_inj := fun i j x y hx _ _ => by cases hx

/-- Numbers fit in messages. -/
theorem TableInv.toNat_ofNat (h : TableInv c)
    (hs : c.slots[i]? = some s) : (UInt32.ofNat i).toNat = i := by
  have hlt := lt_length_of_getElem? hs
  have hle := h.length_le_max
  rw [UInt32.toNat_ofNat']
  rw [maxChannels] at hle
  omega

theorem Found.toNat_ofNat (hi : Found c i) : (UInt32.ofNat i).toNat = i := by
  have hlt := hi.lt_maxChannels
  rw [maxChannels] at hlt
  rw [UInt32.toNat_ofNat']
  omega

end Lsh.Channel
