
import Lsh.Channel.Allocation
import Lsh.Channel.Delivery

/-!
# Runs of two endpoints

Two endpoints that run `channel.c` over FIFO links, with any programs and any interleaving. If
nothing is sent on a channel after its CLOSE, then no message that arrives is an error, and the two
ends agree about windows.

The functions of `channel.c` do not see to that themselves: `channel_send_request` and
`channel_adjust_rec_window` test the flag for a CLOSE that has been sent, `channel_request_reply`,
`channel_start_receive` and `channel_transmit_data` do not. What is sent too late may find its
number free, and then it ends the connection, or in use for another channel, and then it upsets the
window of that one.

## Main results

* `run_pairStep` — the invariant of two endpoints holds in every run
* `run_pairStep_notRefused`, `run_pairStep_lateReply` — no message is an error, unless a reply comes
  after CLOSE
-/

namespace Lsh.Channel

open Machine Mailbox Table

variable {κ κ' : Type} {c c' : SshConnection κ} {d : SshConnection κ'} {t : Bool}

/-! ### Two endpoints -/

/-- What may happen at one of the ends: a call, a notification of all channels, or the arrival of
the next message, with what the program does in the callbacks. -/
inductive SideEvent (κ : Type) where
  | call (op : Op κ)
  | notify (ops : ℕ → List (Op κ))
  | deliver (ops : List (Op κ))

/-- An event at the end `c`. -/
def sideStep (c : SshConnection κ) (d : SshConnection κ') :
    SideEvent κ → Except ChannelError (SshConnection κ × SshConnection κ')
  | .call op => do
    let c ← endpointStep c (.call op)
    return (c, d)
  | .notify ops => do
    let c ← endpointStep c (.notify ops)
    return (c, d)
  | .deliver ops =>
    match d.written with
    | [] => .ok (c, d)
    | m :: rest => do
      let c' ← endpointStep c (.receive m.format ops)
      return (c', if c.alive then { d with written := rest } else d)

/-- An event at one of the ends. -/
def pairStep (p : SshConnection κ × SshConnection κ') : SideEvent κ ⊕ SideEvent κ' →
    Except ChannelError (SshConnection κ × SshConnection κ')
  | .inl event => sideStep p.1 p.2 event
  | .inr event => Prod.swap <$> sideStep p.2 p.1 event

/-- What is asked of the program at the end `c`. -/
def SideGuard (t : Bool) (c : SshConnection κ) (d : SshConnection κ') : SideEvent κ → Prop
  | .call op => EventGuard (Permitted t) c (.call op)
  | .notify ops => EventGuard (Permitted t) c (.notify ops)
  | .deliver ops => ∀ m ∈ d.written.head?, Receives t c m ∧
    EventGuard (Permitted t) c (.receive m.format ops)

/-- What is asked of the programs: nothing is sent on a channel after its CLOSE. If accounts are to
be kept, this includes data, and see `ChannelAction.Permitted` and `ReceivesData` for the rest. -/
def PairGuard (t : Bool) (p : SshConnection κ × SshConnection κ') :
    SideEvent κ ⊕ SideEvent κ' → Prop
  | .inl event => SideGuard t p.1 p.2 event
  | .inr event => SideGuard t p.2 p.1 event

section Decidable

instance (a : ChannelAction κ) (x : SshChannel κ) : Decidable (a.Permitted t x) :=
  match a with
  | .startReceive _ | .reply _ => inferInstanceAs (Decidable (_ = _))
  | .transmit _ _ => inferInstanceAs (Decidable (_ → _ ∧ (_ ∨ _)))
  | .adjust _ => inferInstanceAs (Decidable (_ → _ < _))
  | .sendClose | .sendEof | .request _ _ _ | .update _ | .kill | .receiveAdjust _ | .receiveData _
  | .receiveEof | .receiveClose | .receiveReply => isTrue trivial

instance (c : SshConnection κ) (a : Action κ) : Decidable (Permitted t c a) :=
  match a with
  | .channel i a => decidable_of_iff (∀ x ∈ channelAt c i, a.Permitted t x) Iff.rfl
  | .deny _ _ _ | .openNew _ _ _ _ | .receiveOpen _ _ | .confirm _ _ | .receiveConfirmation _ _ _ _
  | .receiveFailure _ | .finish _ | .refuse _ _ _ | .sendGlobal _ _ _ | .globalReply _ _
  | .refuseGlobal _ | .receiveGlobalReply _ _ | .pendingClose => isTrue trivial

instance (c : SshConnection κ) (n : UInt32) (data : Octets) : Decidable (ReceivesData t c n data) :=
  match hs : c.slots[n.toNat]? with
  | none => isTrue fun _ _ x ⟨s, hs', _⟩ => by rw [hs] at hs'; cases hs'
  | some s => decidable_of_iff
      (t = true → data ≠ [] → s.state = .active → ∀ x ∈ s.channel, x.receive = true) (by
        constructor
        · rintro h ht hne x ⟨s', hs', hstate, hchannel⟩
          rw [hs] at hs'
          cases hs'
          exact h ht hne hstate x hchannel
        · exact fun h ht hne hstate x hchannel => h ht hne x ⟨s, hs, hstate, hchannel⟩)

instance (c : SshConnection κ) (m : Message) : Decidable (Receives t c m) :=
  match m with
  | .data n s | .extendedData n _ s => inferInstanceAs (Decidable (ReceivesData t c n s.1))
  | .globalRequest _ _ _ | .requestSuccess | .requestFailure | .open _ _ _ _ _
  | .openConfirmation _ _ _ _ | .openFailure _ _ _ | .windowAdjust _ _ | .eof _ | .close _
  | .request _ _ _ _ | .success _ | .failure _ => isTrue trivial

instance (c : SshConnection κ) (d : SshConnection κ') (event : SideEvent κ) :
    Decidable (SideGuard t c d event) :=
  match event with
  | .call op => inferInstanceAs (Decidable (EventGuard (Permitted t) c (.call op)))
  | .notify ops => inferInstanceAs (Decidable (EventGuard (Permitted t) c (.notify ops)))
  | .deliver ops => inferInstanceAs (Decidable (∀ m ∈ d.written.head?, Receives t c m ∧
      EventGuard (Permitted t) c (.receive m.format ops)))

instance (p : SshConnection κ × SshConnection κ') (event : SideEvent κ ⊕ SideEvent κ') :
    Decidable (PairGuard t p event) :=
  match event with
  | .inl event => inferInstanceAs (Decidable (SideGuard t p.1 p.2 event))
  | .inr event => inferInstanceAs (Decidable (SideGuard t p.2 p.1 event))

end Decidable

theorem permitted_of_isFree (c : SshConnection κ) (a : Action κ) (h : a.IsFree) :
    Permitted t c a := by
  cases a with
  | channel i a =>
    intro x _
    cases a with
    | adjust | startReceive | reply | transmit => exact absurd h id
    | _ => trivial
  | _ => trivial

theorem ChannelError.Misuse.notRefused {e : ChannelError} (h : e.Misuse) : e.NotRefused := by
  intro msg heq
  rw [heq] at h
  rcases h with h | h | h | h <;> cases h

/-- Every message has a handler. -/
theorem receivePacket_format_ne_none (c : SshConnection κ) (m : Message) :
    receivePacket c m.format ≠ .ok none := by
  have hsome : ∃ x, receivePacket c m.format = some <$> x := by
    cases m <;> exact ⟨_, rfl⟩
  obtain ⟨x, hx⟩ := hsome
  rw [hx]
  cases x <;> nofun

/-- **An event at one end** keeps the invariant, and no error is one for a message. -/
theorem sideStep_pairInv {event : SideEvent κ} (h : PairInv t c d)
    (hguard : SideGuard t c d event) :
    Ensures ChannelError.NotRefused (fun p => PairInv t p.1 p.2) (sideStep c d event) := by
  cases event with
  | call op =>
    refine Ensures.bind (P := fun c' => PairInv t c' d) ?_ fun c' hc' => hc'
    refine (perform_local permitted_of_isFree h.left.toTableInv hguard).imp
      (fun e he => he.notRefused) fun c' hc' => h.steps hc'
  | notify ops =>
    refine Ensures.bind (P := fun c' => PairInv t c' d) ?_ fun c' hc' => hc'
    rw [endpointStep]
    split_ifs
    · refine (foreachFrom_steps permitted_of_isFree h.left.toTableInv hguard).imp
        (fun e he => he.notRefused) fun c' hc' => h.steps hc'
    · exact h
  | deliver ops =>
    rw [sideStep]
    cases hd : d.written with
    | nil => exact h
    | cons m rest =>
      obtain ⟨hrec, hev⟩ := hguard m (by rw [hd]; rfl)
      dsimp only
      by_cases hal : c.alive = true
      · rw [endpointStep, if_pos hal, if_pos hal]
        have hpkt := h.receivePacket hd hrec hev.1
        refine Ensures.bind (P := fun c' => PairInv t c' { d with written := rest }) ?_
          fun c' hc' => hc'
        refine (receiveWith_local permitted_of_isFree h.left.toTableInv hev).imp
          (fun e he => ?_) fun c' hc' => ?_
        · rcases he with he | he
          · exact he.notRefused
          · rw [he] at hpkt
            exact hpkt
        · rcases hc' with ⟨hno, rfl⟩ | ⟨r, hr, hsts⟩
          · exact absurd hno (receivePacket_format_ne_none c' m)
          · rw [hr] at hpkt
            exact PairInv.steps (hpkt r rfl) hsts
      · rw [endpointStep, if_neg hal, if_neg hal]
        exact h

variable {p : SshConnection κ × SshConnection κ'}

theorem pairStep_pairInv {ev : SideEvent κ ⊕ SideEvent κ'} (h : PairInv t p.1 p.2)
    (hguard : PairGuard t p ev) :
    Ensures ChannelError.NotRefused (fun p => PairInv t p.1 p.2) (pairStep p ev) := by
  cases ev with
  | inl ev => exact sideStep_pairInv h hguard
  | inr ev => exact (sideStep_pairInv h.symm hguard).map fun q hq => PairInv.symm hq

/-- Two new connections. -/
theorem pairInv_init (types types' reqs requests' fallback fallback') :
    PairInv t (initSshConnection types reqs fallback : SshConnection κ)
      (initSshConnection types' requests' fallback' : SshConnection κ') := by
  refine ⟨endInv_init _ _ _, endInv_init _ _ _, fun n => ⟨none, rfl, ?_⟩, fun n => ⟨none, rfl, ?_⟩⟩
  · simp [claims, initSshConnection, messageClaims, toClaims]
  · simp [claims, initSshConnection, messageClaims, toClaims]

/-- **Whole runs** of two endpoints. -/
theorem run_pairStep {events : List (SideEvent κ ⊕ SideEvent κ')} (h : PairInv t p.1 p.2)
    (hguard : Guarded pairStep (PairGuard t) p events) :
    Ensures ChannelError.NotRefused (fun p => PairInv t p.1 p.2) (run pairStep p events) :=
  run_of_guarded (fun _ _ hp hg => pairStep_pairInv hp hg) h hguard

/-! ### No message is an error -/

/-- **Two endpoints do not disconnect each other**, if nothing but data is sent on a channel after
its CLOSE. -/
theorem run_pairStep_notRefused (types types' requests requests' : List Atom)
    (fallback fallback' : Bool) (events : List (SideEvent κ ⊕ SideEvent κ'))
    (hguard : Guarded pairStep (PairGuard false)
      (initSshConnection types requests fallback, initSshConnection types' requests' fallback')
      events) :
    Ensures (fun e => ∀ msg, e ≠ ChannelError.connectionError msg) (fun _ => True)
      (run pairStep
        (initSshConnection types requests fallback, initSshConnection types' requests' fallback')
        events) :=
  (run_pairStep (pairInv_init types types' requests requests' fallback fallback') hguard).mono
    fun _ _ => trivial

/-- A channel is opened by the first end. -/
def openFirst : List (SideEvent Unit ⊕ SideEvent Unit) :=
  [.inl (.call (.openNew plainChannel (lshString []) [])),
    .inr (.deliver [.confirm 0 plainChannel]), .inl (.deliver [])]

/-- A request that wants a reply crosses a CLOSE. The reply comes after the CLOSE, when the number
is free. -/
theorem run_pairStep_lateReply :
    (match run pairStep (initSshConnection [] [] true, initSshConnection [] [] true)
        (openFirst ++ [.inr (.call (.sendRequest 0 (lshString []) true [])),
          .inl (.call (.close 0)),
          .inl (.deliver []), .inr (.deliver []), .inr (.deliver [])]) with
      | .ok _ => none
      | .error e => some e) =
    some (ChannelError.connectionError "Invalid CHANNEL_FAILURE message.") := by
  decide +kernel

/-- Without requests, a channel is opened and closed. -/
theorem run_pairStep_notRefused_close :
    ((run pairStep (initSshConnection [] [] true, initSshConnection [] [] true)
      (openFirst ++ [.inl (.call (.close 0)), .inr (.deliver []), .inl (.deliver [])])).toOption.map
        fun p => (p.1.channelCount, p.2.channelCount)) = some (0, 0) ∧
    Ensures (fun e => ∀ msg, e ≠ ChannelError.connectionError msg) (fun _ => True)
      (run pairStep (initSshConnection [] [] true, initSshConnection [] [] true)
        (openFirst ++ [.inl (.call (.close 0)), .inr (.deliver []), .inl (.deliver [])])) := by
  exact ⟨by decide +kernel, run_pairStep_notRefused _ _ _ _ _ _ _ (by decide +kernel)⟩

end Lsh.Channel
