
import Lsh.Channel.Events

/-!
# Allocation of channel numbers

What the table of numbers guarantees in every run of an endpoint, whatever packets arrive and
whatever its program does, and when a connection that waits for its channels to close is killed.

The number of channels goes down in two places. `channel_finished` checks afterwards whether the
connection has been waiting for this; `channel_open_deny` does not. So a connection stays up for
ever if the last number to go is one for which an open request is denied.

## Main results

* `run_endpointStep_table` — the table of numbers
* `run_endpointStep_pendingClose` — a connection that waits to close is killed, unless the last
  number goes with an open request that is denied
* `run_endpointStep_denied` — and then it is not
-/

namespace Lsh.Channel

open Machine Table

variable {κ : Type} {c : SshConnection κ}

/-! ### The table -/

/-- A number that is in use. -/
def InUse (c : SshConnection κ) (j : ℕ) : Prop := ∃ s, c.slots[j]? = some s ∧ s.state ≠ .free

/-- The table of numbers and its counters. -/
structure ChannelTable (c : SshConnection κ) : Prop where
  used_le_allocated : c.slots.length ≤ c.allocatedChannels
  used_le_max : c.slots.length ≤ maxChannels
  count_eq : c.channelCount = c.slots.countP fun s => s.state ≠ .free
  next_le_used : c.nextChannel ≤ c.slots.length
  below_next : ∀ j < c.nextChannel, InUse c j
  object : ∀ (i : ℕ) (s : Slot κ), c.slots[i]? = some s → s.state = .sentOpen ∨ s.state = .active →
    ∃ channel, s.channel = some channel ∧ channel.localChannelNumber = i
  no_object : ∀ (i : ℕ) (s : Slot κ), c.slots[i]? = some s →
    s.state = .free ∨ s.state = .receivedOpen → s.channel = none

/-- `ssh_connection_alloc_channel` returns the smallest number that is free, and fails exactly if
there is none. -/
def AllocatesSmallest (c : SshConnection κ) (type : AllocState) : Prop :=
  ∃ index d, allocChannel c type = .ok (index, d) ∧
    (index = none ↔ ∀ j < maxChannels, InUse c j) ∧
    ∀ i, index = some i → i < maxChannels ∧ ¬InUse c i ∧ ∀ j < i, InUse c j

/-- The assertions of `connection.c`. -/
def ChannelAssertion.IsTable : ChannelAssertion → Prop
  | .openAnswer => False
  | .transmit => False
  | _ => True

theorem TableInv.channelTable (h : TableInv c) : ChannelTable c where
  used_le_allocated := h.length_le_allocated
  used_le_max := h.length_le_max
  count_eq := h.count_eq
  next_le_used := h.next_le
  below_next := by
    intro j hj
    have hlt : j < c.slots.length := Nat.lt_of_lt_of_le hj h.next_le
    have hs : c.slots[j]? = some c.slots[j] := List.getElem?_eq_getElem hlt
    exact ⟨c.slots[j], hs, h.taken j _ hj hs⟩
  object := by
    intro i s hs hst
    have hval := h.slot i s hs
    cases hval with
    | free | receivedOpen => rcases hst with hst | hst <;> cases hst
    | sentOpen hloc | active hloc => exact ⟨_, rfl, hloc⟩
  no_object := by
    intro i s hs hst
    have hval := h.slot i s hs
    cases hval with
    | free | receivedOpen => rfl
    | sentOpen | active => rcases hst with hst | hst <;> cases hst

/-- A number that has been found is the smallest one that is free. -/
theorem Found.smallest {i : ℕ} (hi : Found c i) (h : TableInv c) : ¬InUse c i ∧ ∀ j < i,
    InUse c j := by
  refine ⟨fun ⟨s, hs, hst⟩ => hst (hi.free s hs).1, fun j hj => ?_⟩
  rcases Nat.lt_or_ge j c.nextChannel with hlt | hge
  · exact h.channelTable.below_next j hlt
  · have hlt : j < c.slots.length := Nat.lt_of_lt_of_le hj hi.le_length
    have hs : c.slots[j]? = some c.slots[j] := List.getElem?_eq_getElem hlt
    exact ⟨c.slots[j], hs, hi.taken j _ hge hj hs⟩

theorem TableInv.allocatesSmallest (h : TableInv c) (type) : AllocatesSmallest c type := by
  obtain ⟨⟨index, d⟩, hok, hr⟩ := (allocChannel_ensures h type).exists_ok
  refine ⟨index, d, hok, ?_⟩
  cases index with
  | none =>
    refine ⟨⟨fun _ => hr.2, fun _ => rfl⟩, fun i hi => ?_⟩
    cases hi
  | some i =>
    obtain ⟨hfnd, _⟩ := hr
    obtain ⟨hfe, hbw⟩ := hfnd.smallest h
    refine ⟨⟨fun hno => ?_, fun hall => ?_⟩, fun j hj => ?_⟩
    · cases hno
    · exact absurd (hall i hfnd.lt_maxChannels) hfe
    · cases hj
      exact ⟨hfnd.lt_maxChannels, hfe, hbw⟩

theorem ChannelError.Expected.ne_assertion {a : ChannelAssertion} {e : ChannelError}
    (h : e.Expected) (ha : a.IsTable) :
    e ≠ .assertion a := by
  rintro rfl
  rcases h with (h | h | h | h) | ⟨msg, h⟩ | h <;> cases h <;> exact ha

/-- **The table of channel numbers.** In every run of an endpoint the counters agree with the
entries, entries and channel objects belong together, and the smallest free number is allocated; no
assertion about the table fails. -/
theorem run_endpointStep_table (channelTypes globalRequests : List Atom) (openFallback : Bool)
    (events : List (EndpointEvent κ)) :
    Ensures (fun e => ∀ a : ChannelAssertion, a.IsTable → e ≠ .assertion a)
      (fun c => ChannelTable c ∧ ∀ type, AllocatesSmallest c type)
      (run endpointStep (initSshConnection channelTypes globalRequests openFallback) events) := by
  have hguard : Guarded endpointStep (EventGuard fun _ _ => True)
      (initSshConnection channelTypes globalRequests openFallback : SshConnection κ) events := by
    refine guarded_of_forall (fun event _ c => ?_) _
    exact eventGuard_true c event
  have hrun : Ensures ChannelError.Expected (fun c => TableInv c ∧ True)
      (run endpointStep (initSshConnection channelTypes globalRequests openFallback) events) :=
    run_endpointStep (fun _ _ _ => trivial) (fun _ _ _ _ _ _ h => h)
      (tableInv_init channelTypes globalRequests openFallback) trivial hguard
  refine hrun.imp (fun e he a ha => he.ne_assertion ha) fun c hc => ?_
  exact ⟨hc.1.channelTable, hc.1.allocatesSmallest⟩

/-! ### Waiting to close -/

/-- A connection that waits for its channels, and has none, has been killed. -/
def ClosesWhenDone (c : SshConnection κ) : Prop :=
  c.pendingClose → c.channelCount = 0 → c.alive = false

/-- An open request is not denied if its number is the last one that a connection waits for. -/
def DenyInTime (c : SshConnection κ) : Action κ → Prop
  | .deny _ _ _ => ¬(c.pendingClose = true ∧ c.channelCount = 1)
  | _ => True

instance (c : SshConnection κ) (a : Action κ) : Decidable (DenyInTime c a) :=
  match a with
  | .deny _ _ _ => inferInstanceAs (Decidable ¬(_ ∧ _))
  | .channel _ _ | .openNew _ _ _ _ | .receiveOpen _ _ | .confirm _ _ | .receiveConfirmation _ _ _ _
  | .receiveFailure _ | .finish _ | .refuse _ _ _ | .sendGlobal _ _ _ | .globalReply _ _
  | .refuseGlobal _ | .receiveGlobalReply _ _ | .pendingClose => isTrue trivial

theorem closesWhenDone_settle (c : SshConnection κ) : ClosesWhenDone (settle c) := by
  intro hpen hcount
  rw [settle_pendingClose] at hpen
  rw [settle_channelCount] at hcount
  rw [settle, if_pos ⟨hpen, hcount⟩]

theorem ClosesWhenDone.acts {a : Action κ} {d : SshConnection κ} (h : ClosesWhenDone c)
    (hinv : TableInv c) (ha : Acts c a d)
    (hdy : DenyInTime c a) : ClosesWhenDone d := by
  cases ha with
  | channel => exact h
  | openNew | receiveOpen => exact fun _ hcount => absurd hcount (Nat.succ_ne_zero _)
  | confirm => exact h
  | deny reason msg hs =>
    intro hpen hcount
    have hpos := hinv.count_pos hs (by simp)
    have hcount : c.channelCount - 1 = 0 := hcount
    exact absurd ⟨hpen, by omega⟩ hdy
  | receiveConfirmation | receiveFailure => exact h
  | finish => exact closesWhenDone_settle _
  | refuse | sendGlobal | globalReply | refuseGlobal | receiveGlobalReply => exact h
  | pendingClose => exact closesWhenDone_settle _

/-- **A connection that waits to close does close**, if no open request is denied whose number is
the last one. -/
theorem run_endpointStep_pendingClose (channelTypes globalRequests : List Atom)
    (openFallback : Bool) (events : List (EndpointEvent κ))
    (hguard : Guarded endpointStep (EventGuard DenyInTime)
      (initSshConnection channelTypes globalRequests openFallback) events) :
    Ensures (fun _ => True) ClosesWhenDone
      (run endpointStep (initSshConnection channelTypes globalRequests openFallback) events) := by
  have hfe : ∀ (c : SshConnection κ) (a : Action κ), a.IsFree → DenyInTime c a := by
    intro c a ha
    cases a with
    | deny => exact absurd ha id
    | _ => trivial
  have hini : ClosesWhenDone
      (initSshConnection channelTypes globalRequests openFallback : SshConnection κ) := by
    intro hpen
    cases hpen
  have hrun := run_endpointStep hfe (fun _ _ _ hinv ha hdy h => h.acts hinv ha hdy)
    (tableInv_init channelTypes globalRequests openFallback) hini hguard
  exact hrun.imp (fun _ _ => trivial) fun c hc => hc.2

/-- An open request for a forwarded connection. -/
def forwardedOpen : Message := .open (lshString (asciiOctets "forwarded-tcpip")) 5 1000 1000 []

/-- An open request arrives, and the connection begins to wait while it is being decided on. -/
def openThenWait : List (EndpointEvent Unit) :=
  [.receive forwardedOpen.format [], .call .pendingClose]

/-- What the program chooses for the channel. -/
def plainChannel : NewChannel Unit where
  recWindowSize := 1000
  recMaxPacket := 1000
  requestTypes := []
  requestFallback := false
  noWaitForEof := false
  sources := 1
  sinks := 1
  receive := true
  sendAdjust := true
  closesConnection := false
  app := ()

/-- A connection waits to close, has no channel, and is alive. -/
theorem run_endpointStep_denied :
    ((run endpointStep (initSshConnection [.forwardedTcpip] [] false)
      (openThenWait ++ [.call (.deny 0 2 (lshString []))])).toOption.map
        fun c => (c.pendingClose, c.channelCount, c.alive)) = some (true, 0, true) := by
  decide +kernel

/-- The request is accepted, and the channel is closed. -/
theorem run_endpointStep_confirmed :
    ((run endpointStep (initSshConnection [.forwardedTcpip] [] false)
      (openThenWait ++ [.call (.confirm 0 plainChannel), .call (.close 0),
        .receive (Message.close 0).format []])).toOption.map
          fun c => (c.pendingClose, c.channelCount, c.alive)) = some (true, 0, false) ∧
    Ensures (fun _ => True) ClosesWhenDone
      (run endpointStep (initSshConnection [.forwardedTcpip] [] false)
        (openThenWait ++ [.call (.confirm 0 plainChannel), .call (.close 0),
          .receive (Message.close 0).format []])) := by
  exact ⟨by decide +kernel, run_endpointStep_pendingClose _ _ _ _ (by decide +kernel)⟩

end Lsh.Channel
