
import Lsh.Lshd.Server
import Lsh.Service.Read

/-!
# Reading from the service

The part of `transport_forward.c` that reads from the service, with the buffer of its reader.
`oop_read_service` is called when there is something to read. It handles one packet after the other
until none is left in the buffer, or until reading is turned off. This may happen at any packet: the
handler sends it on the connection, and if the write buffer gets almost full the answer is
`TRANSPORT_EVENT_STOP_APPLICATION`. What events the handler of a packet raises is up to the
environment.

`forward_start_read` turns reading on by registering the callback, and nothing else. So packets that
were left in the buffer when reading was turned off stay there until the service writes something
more.

## Main results

* `oopReadService_ensures` — the callback returns, and leaves no packet unless reading has been
  stopped
* `run_forwardStep_handled` — no packet is left behind, if reading is not stopped while there is one
* `run_forwardStep_stranded` — a packet that is left behind
-/

namespace Lsh.Service

open Machine Octets Transport List

/-- How the callback can fail. -/
inductive LoopFailure where
  /-- An assertion of the functions that read. -/
  | read (assertion : Assertion)
  /-- The loop has not been left. -/
  | rounds
  deriving DecidableEq

/-- The data of `struct transport_forward` for reading from the service, and what is in the pipe. -/
structure ForwardState extends Lshd.LshdState where
  reader : ServiceReadState
  /-- What the service has written and has not been read. -/
  octets : Octets

/-- `transport_forward_setup`. -/
def ForwardState.init : ForwardState :=
  { Lshd.transportForwardSetup ⟨false, false, false⟩ with reader := .make, octets := [] }

/-- Events of the connection, one after the other. -/
def ForwardState.notify (s : ForwardState) (notices : List Notice) : ForwardState :=
  { s with toLshdState := notices.foldl Lshd.notify s.toLshdState }

/-- `transport_disconnect`: after the events that sending the message raises, the connection is
closed. -/
def ForwardState.disconnect (s : ForwardState) (notices : List Notice) : ForwardState :=
  (s.notify notices).notify [.close]

/-- The variables of the loop: the connection, the file descriptor, and the events that the coming
calls raise. -/
structure ReadLoop where
  state : ForwardState
  fd : Option ReadResult
  reactions : List (List Notice)

/-- The body of the loop of `oop_read_service`. Each call that can raise events takes them from the
front of the list. -/
def readServiceBody (l : ReadLoop) : Except LoopFailure (ReadLoop ⊕ ForwardState) := do
  if ¬(l.state.serviceIn ∧ l.state.serviceReadActive) then return .inr l.state
  else
    let (status, reader, n) ← (serviceReadPacket l.state.reader l.fd).mapError .read
    let s := { l.state with reader := reader, octets := l.state.octets.drop n }
    let notices := l.reactions.headD []
    match status with
    -- "Read from service layer failed.", "Invalid data from service layer.", "Service done."
    | .ioError _ | .protocolError _ _ | .eof =>
      return .inl ⟨s.disconnect notices, none, l.reactions.tail⟩
    | .push => return .inr (s.notify notices)
    | .pending => return .inr s
    | .complete (_, packet) =>
      -- "Received empty packet from service layer."
      if packet.length = 0 then return .inl ⟨s.disconnect notices, none, l.reactions.tail⟩
      else return .inl ⟨s.notify notices, none, l.reactions.tail⟩

/-- `oop_read_service`. Each round but the last two takes a packet from the stream. -/
def oopReadService (l : ReadLoop) : Except LoopFailure ForwardState :=
  loop readServiceBody .rounds (l.state.reader.pending.length + fdLength l.fd + 3) l

/-! ### Runs -/

/-- What can happen. -/
inductive ForwardEvent where
  /-- The service writes. -/
  | write (data : Octets)
  /-- The service is readable. -/
  | read (input : ServiceInput) (reactions : List (List Notice))
  /-- Something else happens on the connection. -/
  | notices (notices : List Notice)

/-- One event. The callback is registered if reading is turned on. -/
def forwardStep (s : ForwardState) : ForwardEvent → Except LoopFailure ForwardState
  | .write data => return { s with octets := s.octets ++ data }
  | .read input reactions =>
    if s.serviceIn ∧ s.serviceReadActive then
      oopReadService ⟨s, some (input.result s.octets), reactions⟩
    else return s
  | .notices notices => return s.notify notices

/-- Reading is stopped by the handler of a packet only if no complete packet is left in the
stream. -/
def StopsLast : List (List Notice) → Octets → Prop
  | [], _ => True
  | notices :: reactions, stream =>
    match front stream with
    | .packet pk =>
      (.stop ∈ notices → (front (stream.drop (frame pk).length)).isPacket = false) ∧
        StopsLast reactions (stream.drop (frame pk).length)
    | _ => True

instance decidableStopsLast (reactions : List (List Notice)) (stream : Octets) :
    Decidable (StopsLast reactions stream) :=
  match reactions with
  | [] => isTrue trivial
  | notices :: reactions =>
    have := decidableStopsLast reactions
    match h : front stream with
    | .packet pk =>
      decidable_of_iff
        ((.stop ∈ notices → (front (stream.drop (frame pk).length)).isPacket = false) ∧
          StopsLast reactions (stream.drop (frame pk).length)) (by simp [StopsLast, h])
    | .bad _ => isTrue (by simp [StopsLast, h])
    | .incomplete => isTrue (by simp [StopsLast, h])

/-- `STOP` is not raised while a complete packet is left in the buffer, besides the one that is
handled. -/
def ForwardGuard (s : ForwardState) : ForwardEvent → Prop
  | .read input reactions =>
    ∀ o ∈ (serviceReadPacket s.reader (some (input.result s.octets))).toOption,
      StopsLast reactions
        (s.reader.pending ++ fdOctets (some (input.result s.octets)) o.2.2)
  | _ => True

instance (s : ForwardState) (e : ForwardEvent) : Decidable (ForwardGuard s e) := by
  unfold ForwardGuard
  split <;> infer_instance

/-- As long as there is a service, no complete packet is in the buffer of the reader. -/
structure Handled (s : ForwardState) : Prop where
  forward : s.forward
  sound : s.serviceIn → Sound s.reader
  front_eq : s.serviceIn → (front s.reader.pending).isPacket = false

/-! ### Events of the connection -/

section Notices

variable {s : Lshd.LshdState}

theorem forward_notify (notice) : (Lshd.notify s notice).forward = s.forward := by
  cases notice <;> simp only [Lshd.notify] <;> (try split) <;> rfl

variable {notice : Notice}

theorem serviceIn_of_notify (h : (Lshd.notify s notice).serviceIn) : s.serviceIn := by
  cases notice <;> simp only [Lshd.notify] at h <;> (try split at h) <;>
    first | exact h | cases h

theorem active_notify (hsto : notice ≠ .stop) (h : s.serviceReadActive) :
    (Lshd.notify s notice).serviceReadActive := by
  cases notice <;> simp only [Lshd.notify] <;> (try split) <;>
    first | exact h | rfl | exact absurd rfl hsto

end Notices

section States

variable {s : ForwardState}

theorem ForwardState.forward_notify (s : ForwardState) (notices) :
    (s.notify notices).forward = s.forward := by
  show (notices.foldl Lshd.notify s.toLshdState).forward = s.toLshdState.forward
  generalize s.toLshdState = t
  induction notices generalizing t with
  | nil => rfl
  | cons notice notices ih => exact (ih _).trans (Service.forward_notify notice)

variable {notices : List Notice}

theorem ForwardState.serviceIn_of_notify (h : (s.notify notices).serviceIn) : s.serviceIn := by
  change (notices.foldl Lshd.notify s.toLshdState).serviceIn = true at h
  generalize s.toLshdState = t at h ⊢
  induction notices generalizing t with
  | nil => exact h
  | cons notice notices ih => exact Service.serviceIn_of_notify (ih _ h)

theorem ForwardState.active_notify (hsto : .stop ∉ notices)
    (h : s.serviceReadActive) : (s.notify notices).serviceReadActive := by
  show (notices.foldl Lshd.notify s.toLshdState).serviceReadActive
  generalize s.toLshdState = t at h ⊢
  induction notices generalizing t with
  | nil => exact h
  | cons notice notices ih =>
    have hne := ne_of_not_mem_cons hsto
    exact ih (not_mem_of_not_mem_cons hsto) _ (Service.active_notify (Ne.symm hne) h)

theorem ForwardState.serviceIn_disconnect (hfwd : s.forward) (notices) :
    (s.disconnect notices).serviceIn = false := by
  have h := s.forward_notify notices
  rw [hfwd] at h
  show (Lshd.notify _ .close).serviceIn = false
  rw [Lshd.notify, if_pos h]
  rfl

theorem ForwardState.forward_disconnect (s : ForwardState) (notices) :
    (s.disconnect notices).forward = s.forward := by
  rw [ForwardState.disconnect, ForwardState.forward_notify, ForwardState.forward_notify]

/-- Events do not touch the reader. -/
theorem Handled.notify (h : Handled s) (notices) : Handled (s.notify notices) where
  forward := (s.forward_notify notices).trans h.forward
  sound := fun hin => h.sound (ForwardState.serviceIn_of_notify hin)
  front_eq := fun hin => h.front_eq (ForwardState.serviceIn_of_notify hin)

end States

/-! ### The callback -/

/-- What holds at the beginning of each round. -/
structure ReadLoop.Inv (l : ReadLoop) : Prop where
  forward : l.state.forward
  sound : l.state.serviceIn → Sound l.state.reader
  stops : l.state.serviceIn → ∀ o, serviceReadPacket l.state.reader l.fd = .ok o →
    StopsLast l.reactions (l.state.reader.pending ++ fdOctets l.fd o.2.2)
  idle : l.state.serviceIn → l.state.serviceReadActive = false →
    (front l.state.reader.pending).isPacket = false

/-- A bound on the number of rounds. -/
def ReadLoop.rounds (l : ReadLoop) : ℕ :=
  if l.state.serviceIn then l.state.reader.pending.length + fdLength l.fd + 2 else 1

variable {s : ForwardState}

/-- The connection has been given up. -/
theorem ReadLoop.inv_disconnect (hfwd : s.forward) (notices fd reactions) :
    ReadLoop.Inv ⟨s.disconnect notices, fd, reactions⟩ := by
  have hin := ForwardState.serviceIn_disconnect hfwd notices
  refine ⟨(s.forward_disconnect notices).trans hfwd, ?_, ?_, ?_⟩ <;>
    exact fun h => absurd (hin.symm.trans h) nofun

/-- What the condition says about the first packet of a stream. -/
theorem StopsLast.packet {reactions : List (List Notice)} {pk : Packet} {rest : Octets}
    (h : StopsLast reactions (frame pk ++ rest)) (hfrt : front (frame pk ++ rest) = .packet pk) :
    (.stop ∈ reactions.headD [] → (front rest).isPacket = false) ∧
      StopsLast reactions.tail rest := by
  cases reactions with
  | nil => exact ⟨nofun, trivial⟩
  | cons notices reactions =>
    rw [StopsLast, hfrt] at h
    dsimp only at h
    rwa [drop_left] at h

variable {l : ReadLoop}

/-- One round. -/
theorem readServiceBody_ensures (h : l.Inv) :
    Ensures (fun e => e ≠ .rounds) (Round ReadLoop.Inv ReadLoop.rounds Handled l)
      (readServiceBody l) := by
  rw [readServiceBody]
  split
  · rename_i hact
    refine ⟨h.forward, h.sound, fun hin => h.idle hin ?_⟩
    simpa [hin] using hact
  · rename_i hact
    obtain ⟨hin, hact⟩ := not_not.mp hact
    have hread := serviceReadPacket_ensures (h.sound hin) l.fd
    have hsps := h.stops hin
    have hrds : l.rounds = l.state.reader.pending.length + fdLength l.fd + 2 := if_pos hin
    have hgu : ∀ {s : ForwardState} (notices), s.forward →
        Round ReadLoop.Inv ReadLoop.rounds Handled l
          (.inl ⟨s.disconnect notices, none, l.reactions.tail⟩) := by
      intro s notices hfwd
      refine ⟨ReadLoop.inv_disconnect hfwd _ _ _, ?_⟩
      rw [ReadLoop.rounds, ForwardState.serviceIn_disconnect hfwd, if_neg (by simp)]
      omega
    cases hcall : serviceReadPacket l.state.reader l.fd with
    | error e => rintro ⟨⟩
    | ok o =>
      obtain ⟨stat, reader, n⟩ := o
      rw [hcall] at hread
      replace hsps := hsps _ hcall
      cases hfrt : front (l.state.reader.pending ++ fdOctets l.fd n) with
      | bad msg =>
        obtain ⟨rfl, -⟩ := hread.bad msg hfrt
        exact hgu _ h.forward
      | packet pk =>
        obtain ⟨rfl, hsnd, -, hpen⟩ := hread.packet pk hfrt
        dsimp only at hpen hsnd
        have hlen := congrArg List.length hpen
        have htkn := length_fdOctets_le l.fd n
        rw [length_append, length_append, length_frame] at hlen
        rw [hpen] at hsps hfrt
        obtain ⟨hsto, htl⟩ := hsps.packet hfrt
        have hpos := length_pos_of_front hfrt
        show Ensures _ _ (if pk.2.length = 0 then _ else _)
        rw [if_neg (Nat.ne_of_gt hpos)]
        refine ⟨⟨(ForwardState.forward_notify _ _).trans h.forward, fun _ => hsnd, ?_, ?_⟩, ?_⟩
        · intro _ o _
          show StopsLast l.reactions.tail (reader.pending ++ [])
          rw [append_nil]
          exact htl
        · intro _ hid
          refine hsto (by_contra fun hnot => ?_)
          have hgoing := ForwardState.active_notify
            (s := { l.state with reader := reader, octets := l.state.octets.drop n }) hnot hact
          exact absurd (hgoing.symm.trans hid) (by simp)
        · rw [ReadLoop.rounds]
          split
          · show reader.pending.length + 0 + 2 < _
            omega
          · omega
      | incomplete =>
        obtain ⟨hcmp, hsnd, hpen, -⟩ := hread.incomplete hfrt
        have hhd : Handled { l.state with reader := reader, octets := l.state.octets.drop n } := by
          refine ⟨h.forward, fun _ => hsnd, fun _ => ?_⟩
          rw [hpen, hfrt]
          rfl
        cases stat with
        | ioError errno | protocolError error msg | eof => exact hgu _ h.forward
        | push => exact hhd.notify _
        | pending => exact hhd
        | complete pk => exact absurd rfl (hcmp pk)

/-- **The callback** returns, and it leaves no complete packet in the buffer if `STOP` is not raised
while there is one. -/
theorem oopReadService_ensures (h : l.Inv) (hin : l.state.serviceIn) :
    Ensures (fun e => e ≠ .rounds) Handled (oopReadService l) := by
  refine loop_ensures ReadLoop.rounds (fun _ => readServiceBody_ensures) h ?_
  rw [ReadLoop.rounds, if_pos hin]
  exact Nat.lt_succ_self _

theorem forwardStep_handled {e : ForwardEvent} (h : Handled s) (hg : ForwardGuard s e) :
    Ensures (fun e => e ≠ .rounds) Handled (forwardStep s e) := by
  cases e with
  | write data => exact { h with }
  | read input reactions =>
    rw [forwardStep]
    split
    · rename_i hact
      refine oopReadService_ensures ⟨h.forward, h.sound, fun _ o ho => ?_, fun hin _ => ?_⟩ hact.1
      · refine hg o ?_
        rw [ho]
        rfl
      · exact h.front_eq hin
    · exact h
  | notices notices => exact h.notify notices

/-- **No packet is left behind.** In every run in which reading is not stopped while there is a
complete packet left in the buffer, there is none when control is back in the event loop. In
particular there is none if reading is active and the pipe is empty. -/
theorem run_forwardStep_handled (events : List ForwardEvent)
    (hg : Guarded forwardStep ForwardGuard .init events) :
    Ensures (fun e => e ≠ .rounds)
      (fun s => s.serviceIn = true → s.serviceReadActive = true → s.octets = [] →
        (front s.reader.pending).isPacket = false)
      (run forwardStep .init events) := by
  refine (run_of_guarded (fun s e (hs : Handled s) => forwardStep_handled hs) ?_ hg).mono ?_
  · exact ⟨rfl, fun _ => sound_make, fun _ => rfl⟩
  · exact fun s h hin _ _ => h.front_eq hin

/-- Two packets arrive at once, the write buffer gets almost full with the first one, and is flushed
later: reading is active, nothing is left in the pipe, and the second packet is still there. -/
theorem run_forwardStep_stranded :
    ∃ s, run forwardStep .init
        [.write (frame (0, [94, 0]) ++ frame (0, [94, 1])), .read (.octets 30 false) [[.stop]],
          .notices [.start]] = .ok s ∧
      (s.serviceIn && s.serviceReadActive && decide (s.octets = []) &&
        decide (front s.reader.pending = .packet (0, [94, 1]))) = true :=
  exists_ok_of_any (by decide +kernel)

/-- Two packets arrive at once, and the write buffer gets almost full with the second one. -/
theorem run_forwardStep_handled_last :
    let events : List ForwardEvent :=
      [.write (frame (0, [94, 0]) ++ frame (0, [94, 1])), .read (.octets 30 false) [[], [.stop]],
        .notices [.start]]
    Guarded forwardStep ForwardGuard .init events ∧
      Ensures (fun e => e ≠ .rounds)
        (fun s => s.serviceIn = true → s.serviceReadActive = true → s.octets = [] →
          (front s.reader.pending).isPacket = false)
        (run forwardStep .init events) := by
  intro events
  have hg : Guarded forwardStep ForwardGuard .init events := by decide +kernel
  exact ⟨hg, run_forwardStep_handled events hg⟩

end Lsh.Service
