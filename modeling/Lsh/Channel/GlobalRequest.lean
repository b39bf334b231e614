
import Lsh.Channel.Agreement
import Lsh.Library.Requests
import Lsh.Tcpforward.Server

/-!
# Global requests

A reply to a global request does not say what request it is for: `handle_global_success` and
`handle_global_failure` take the first state of the queue `pending_global_requests`. So replies have
to be sent in order, one for each request that wants one.

`global_request_reply` sends nothing for a request that wants no reply. `handle_global_request` does
not use it for types that nobody handles: it answers those with a failure at once, whether or not a
reply is wanted and whether or not an earlier request is still to be answered. The requester takes
such a failure for the reply to another request.

## Main results

* `Acts.globalView` — what actions do to the history of global requests
* `run_pairStep_repliesMatch`, `run_pairStep_strayFailure` — each request gets its own result,
  unless a request of an unknown type wants no reply
-/

namespace Lsh.Channel

open Machine Requests Tcpforward List

variable {κ κ' : Type} {c c' : SshConnection κ} {d : SshConnection κ'} {a : Action κ}

/-! ### The history of global requests -/

/-- The global requests that were sent, with the states that were queued. -/
def sentGlobals (log : List Entry) : List (Option ℕ) :=
  log.filterMap fun
    | .sentGlobal state => some state
    | _ => none

/-- The results of the global requests of the other end. -/
def globalResults (log : List Entry) : List (Bool × Bool) :=
  log.filterMap fun
    | .globalResult wantReply result => some (wantReply, result)
    | _ => none

/-- The states whose method `done` was called, and the result. -/
def globalDones (log : List Entry) : List (ℕ × Bool) :=
  log.filterMap fun
    | .globalDone state success => some (state, success)
    | _ => none

/-- The result that a message tells. -/
def Message.globalResult : Message → Option Bool
  | requestSuccess => some true
  | requestFailure => some false
  | _ => none

/-- A message is a global request, with or without `want_reply`. -/
def Message.wantsReply : Message → Option Bool
  | globalRequest _ wantReply _ => some wantReply
  | _ => none

/-- The replies that were sent. -/
def globalReplies (log : List Entry) : List Bool :=
  log.filterMap fun
    | .sent _ m => m.globalResult
    | _ => none

/-- What an endpoint has done about global requests, and has on the way. -/
structure GlobalView where
  sent : List (Option ℕ)
  pending : List ℕ
  dones : List (ℕ × Bool)
  results : List (Bool × Bool)
  replied : List Bool
  /-- The requests on the way. -/
  requests : List Bool
  /-- The replies on the way. -/
  replies : List Bool

/-- The history of an endpoint. -/
def globalView (c : SshConnection κ) : GlobalView where
  sent := sentGlobals c.log
  pending := c.pendingGlobalRequests
  dones := globalDones c.log
  results := globalResults c.log
  replied := globalReplies c.log
  requests := c.written.filterMap Message.wantsReply
  replies := c.written.filterMap Message.globalResult

/-- What an action does. -/
def Action.globalEffect (a : Action κ) (v : GlobalView) : GlobalView :=
  match a with
  | .sendGlobal _ state _ => { v with
      sent := v.sent ++ [state]
      pending := v.pending ++ state.toList
      requests := v.requests ++ [state.isSome] }
  | .globalReply wantReply result => { v with
      results := v.results ++ [(wantReply, result)]
      replied := v.replied ++ if wantReply then [result] else []
      replies := v.replies ++ if wantReply then [result] else [] }
  | .refuseGlobal wantReply => { v with
      results := v.results ++ [(wantReply, false)]
      replied := v.replied ++ [false]
      replies := v.replies ++ [false] }
  | .receiveGlobalReply state result => { v with
      pending := v.pending.tail
      dones := v.dones ++ [(state, result)] }
  | _ => v

/-- What is written and put on record. -/
theorem globalView_emit (c : SshConnection κ) (ms es) :
    globalView (emit c ms es) =
      { sent := sentGlobals c.log ++ sentGlobals es
        pending := c.pendingGlobalRequests
        dones := globalDones c.log ++ globalDones es
        results := globalResults c.log ++ globalResults es
        replied := globalReplies c.log ++ globalReplies es
        requests := c.written.filterMap Message.wantsReply ++ ms.filterMap Message.wantsReply
        replies := c.written.filterMap Message.globalResult ++
          ms.filterMap Message.globalResult } := by
  simp only [globalView, emit, sentGlobals, globalDones, globalResults, globalReplies,
    filterMap_append]

/-- Messages for channels are not about global requests. -/
theorem ChannelAction.messages_not_global (a : ChannelAction κ) (x) :
    ∀ m ∈ a.messages x, m.wantsReply = none ∧ m.globalResult = none := by
  intro m hm
  have hmsg {f : UInt32 → Message} (hf : a.message x = some f) (n : UInt32) :
      (f n).wantsReply = none ∧ (f n).globalResult = none := by
    cases a with
    | reply res => cases res <;> cases hf <;> exact ⟨rfl, rfl⟩
    | transmit type data => cases type <;> cases hf <;> exact ⟨rfl, rfl⟩
    | _ => cases hf <;> exact ⟨rfl, rfl⟩
  rw [messages] at hm
  split at hm
  · rename_i f n hf _
    rw [List.mem_singleton.mp hm]
    exact hmsg hf n
  · cases hm

/-- What is put on record for channels is not about global requests. -/
theorem ChannelAction.entries_not_global (a : ChannelAction κ) (x) :
    sentGlobals (a.entries x) = [] ∧ globalDones (a.entries x) = [] ∧
      globalResults (a.entries x) = [] ∧ globalReplies (a.entries x) = [] := by
  have hmgs := a.messages_not_global x
  have hsent (l : List Message) (hl : ∀ m ∈ l, m.globalResult = none) :
      globalReplies (l.map (.sent (some x.serial))) = [] := by
    rw [globalReplies, filterMap_map]
    exact List.filterMap_eq_nil_iff.mpr hl
  rw [entries.eq_def]
  split
  · exact ⟨rfl, rfl, rfl, rfl⟩
  · refine ⟨?_, ?_, ?_, hsent _ fun m hm => (hmgs m hm).2⟩
    all_goals
      refine List.filterMap_eq_nil_iff.mpr fun e he => ?_
      obtain ⟨m, _, rfl⟩ := List.mem_map.mp he
      rfl

/-- **What actions do to the history of global requests.** -/
theorem Acts.globalView (ha : Acts c a c') :
    Lsh.Channel.globalView c' = a.globalEffect (Lsh.Channel.globalView c) := by
  have hstl (e : SshConnection κ) : Lsh.Channel.globalView (settle e) =
      Lsh.Channel.globalView e := by
    rw [settle]
    split_ifs <;> rfl
  cases ha with
  | @channel i s x a =>
    obtain ⟨hsent, hdones, hress, hrps⟩ := a.entries_not_global x
    have hrqs : (a.messages x).filterMap Message.wantsReply = [] :=
      List.filterMap_eq_nil_iff.mpr fun m hm => (a.messages_not_global x m hm).1
    have hres : (a.messages x).filterMap Message.globalResult = [] :=
      List.filterMap_eq_nil_iff.mpr fun m hm => (a.messages_not_global x m hm).2
    rw [globalView_emit, hsent, hdones, hress, hrps, hrqs, hres]
    simp only [append_nil]
    rfl
  | globalReply wantReply res =>
    rw [globalView_emit]
    cases wantReply <;> cases res <;>
      simp [Action.globalEffect, Lsh.Channel.globalView, sentGlobals, globalDones, globalResults,
        globalReplies, globalMessage, Message.wantsReply, Message.globalResult]
  | receiveOpen => rfl
  | finish =>
    rw [hstl, globalView_emit]
    simp [Action.globalEffect, Lsh.Channel.globalView, sentGlobals, globalDones, globalResults,
      globalReplies, release]
  | pendingClose => exact hstl _
  | receiveGlobalReply res hpen =>
    rw [globalView_emit]
    simp [Action.globalEffect, Lsh.Channel.globalView, sentGlobals, globalDones, globalResults,
      globalReplies, hpen]
  | _ =>
    rw [globalView_emit]
    simp [Action.globalEffect, Lsh.Channel.globalView, sentGlobals, globalDones, globalResults,
      globalReplies, globalMessage, openMessage, confirmMessage, allot, release,
      Message.wantsReply, Message.globalResult]

/-! ### Two histories -/

/-- The requests of one end to the other. -/
def GlobalView.exchange (v w : GlobalView) : Exchange ℕ Bool where
  sent := v.sent
  requests := v.requests
  results := w.results
  replies := w.replies
  done := v.dones
  pending := v.pending

/-- Requests are matched with replies in both directions, and replies are sent for the results that
are wanted. -/
structure GlobalInv (v w : GlobalView) : Prop where
  matched : (v.exchange w).Matched
  matched_symm : (w.exchange v).Matched
  replied : v.replied = wanted v.results
  replied_symm : w.replied = wanted w.results

theorem GlobalInv.symm {v w : GlobalView} (h : GlobalInv v w) : GlobalInv w v :=
  ⟨h.matched_symm, h.matched, h.replied_symm, h.replied⟩

/-- What is asked of the program at the end with the history `v`, and of the requests that it
receives. Requests are answered in order. One that is refused because nobody handles its type wants
a reply, and is the only one to be answered. -/
def GlobalGuard (w v : GlobalView) : Action κ → Prop
  | .globalReply wantReply _ => (w.exchange v).owed.head? = some wantReply
  | .refuseGlobal wantReply => wantReply = true ∧ (w.exchange v).owed = [true]
  | _ => True

theorem Action.globalEffect_of_not (h : ¬a.IsGlobal) (v) : a.globalEffect v = v := by
  cases a with
  | sendGlobal | globalReply | refuseGlobal | receiveGlobalReply => exact absurd trivial h
  | _ => rfl

namespace GlobalInv

variable {v w : GlobalView}

/-- The oldest request gets its result. -/
theorem answer (h : GlobalInv v w) (howed : (w.exchange v).owed.head? = some wantReply) (res) :
    GlobalInv ((Action.globalReply wantReply res : Action κ).globalEffect v) w where
  matched := h.matched
  matched_symm := h.matched_symm.answer howed res
  replied := by
    have hla : wanted [(wantReply, res)] = if wantReply then [res] else [] := by
      cases wantReply <;> rfl
    show v.replied ++ _ = wanted (v.results ++ _)
    rw [wanted_append, hla, h.replied]
  replied_symm := h.replied_symm

/-- **An action of the program.** -/
theorem acts (h : GlobalInv v w) (hloc : a.IsLocal) (hguard : GlobalGuard w v a) :
    GlobalInv (a.globalEffect v) w := by
  cases a with
  | sendGlobal type st args =>
    exact ⟨h.matched.send st, h.matched_symm, h.replied, h.replied_symm⟩
  | globalReply wantReply res => exact h.answer hguard res
  | refuseGlobal | receiveGlobalReply => exact absurd hloc id
  | _ => exact h

theorem steps (h : GlobalInv (globalView c) w)
    (hsts : Steps (Local fun c => GlobalGuard w (globalView c)) c c') :
    GlobalInv (globalView c') w := by
  have hacts (e : SshConnection κ) (a : Action κ) (e' : SshConnection κ) (ha : Acts e a e')
      (hP : Local (fun c => GlobalGuard w (globalView c)) e a)
      (he : GlobalInv (globalView e) w) : GlobalInv (globalView e') w := by
    rw [ha.globalView]
    exact he.acts hP.1 hP.2
  exact hsts.inv hacts h

/-- A request of a type that nobody handles is refused. -/
theorem refuse (h : GlobalInv v w)
    (hguard : GlobalGuard w v (Action.refuseGlobal wantReply : Action κ)) :
    GlobalInv ((Action.refuseGlobal wantReply : Action κ).globalEffect v) w := by
  obtain ⟨rfl, howed⟩ := hguard
  have hhd : (w.exchange v).owed.head? = some true := by rw [howed]; rfl
  exact h.answer (κ := κ) hhd false

/-- A reply arrives. -/
theorem receiveReply {rest : List Bool} (h : GlobalInv v w) (hrps : w.replies = res :: rest)
    (hpen : v.pending.head? = some state) :
    GlobalInv ((Action.receiveGlobalReply state res : Action κ).globalEffect v)
      { w with replies := rest } := by
  obtain ⟨pending, hcn⟩ := List.head?_eq_some_iff.mp hpen
  have htl : v.pending = state :: v.pending.tail := by
    rw [hcn]
    rfl
  exact ⟨h.matched.finish hrps htl, h.matched_symm, h.replied, h.replied_symm⟩

end GlobalInv

/-! ### Messages -/

theorem NotGlobal.globalView_eq {r : Received κ} (h : NotGlobal c r) :
    globalView r.connection = globalView c := by
  rcases h with hsame | ⟨a, hnot, ha⟩
  · rw [hsame]
  · rw [ha.globalView, Action.globalEffect_of_not hnot]

/-- The history of the sender after its next message has arrived. -/
theorem globalView_written {m : Message} {rest : List Message} (hd : d.written = m :: rest) :
    globalView d = { globalView { d with written := rest } with
      requests := m.wantsReply.toList ++ rest.filterMap Message.wantsReply
      replies := m.globalResult.toList ++ rest.filterMap Message.globalResult } := by
  rw [globalView, hd]
  cases hreq : m.wantsReply <;> cases hrep : m.globalResult <;> simp [globalView, hreq, hrep]

section Receive

variable {m : Message} {rest : List Message}

/-- A reply of the other end arrives. -/
theorem GlobalInv.handleGlobalReply {res : Bool} (h : GlobalInv (globalView c) (globalView d))
    (hd : d.written = m :: rest) (hm : m.globalResult = some res) (hreq : m.wantsReply = none)
    (msg) :
    Yields
      (fun r => GlobalInv (globalView r.connection) (globalView { d with written := rest }))
      (Lsh.Channel.handleGlobalReply c [] res msg) := by
  have hvw := globalView_written hd
  rw [hm, hreq] at hvw
  have hrps : (globalView d).replies =
      res :: (globalView { d with written := rest }).replies := by rw [hvw]; rfl
  have hre : { globalView d with
      replies := (globalView { d with written := rest }).replies } =
      globalView { d with written := rest } := by rw [hvw]; rfl
  refine (handleGlobalReply_ensures (c := c) parseEod_nil res msg).mono fun r hr => ?_
  rcases hr with ⟨_, _, ⟨hno, _⟩ | ⟨st, pending, hpen, ha⟩⟩
  · -- a reply on its way has a st that waits for it
    refine absurd hno (h.matched.pending_ne_nil ?_)
    show (globalView d).replies ≠ []
    rw [hrps]
    exact cons_ne_nil _ _
  · rw [ha.globalView, ← hre]
    refine h.receiveReply hrps ?_
    show c.pendingGlobalRequests.head? = some st
    rw [hpen]
    rfl

/-- A request of the other end arrives. -/
theorem GlobalInv.arrive {wantReply : Bool} (h : GlobalInv (globalView c) (globalView d))
    (hd : d.written = m :: rest)
    (hm : m.wantsReply = some wantReply) (hrep : m.globalResult = none) :
    GlobalInv (globalView c) (globalView { d with written := rest }) := by
  have hvw := globalView_written hd
  rw [hm, hrep] at hvw
  rw [hvw] at h
  exact ⟨h.matched, h.matched_symm.arrive rfl, h.replied, h.replied_symm⟩

/-- **Any message of the other end.** -/
theorem GlobalInv.receivePacket (htab : TableInv c)
    (h : GlobalInv (globalView c) (globalView d)) (hd : d.written = m :: rest)
    (hguard : ∀ a, Lsh.Channel.answer c m.format = some a →
      GlobalGuard (globalView { d with written := rest }) (globalView c) a) :
    Returns
      (fun res => ∀ r ∈ res,
        GlobalInv (globalView r.connection) (globalView { d with written := rest }))
      (Lsh.Channel.receivePacket c m.format) := by
  cases hreq : m.wantsReply with
  | some wantReply =>
    cases m with
    | globalRequest type wantReply args =>
      have harrive := h.arrive hd rfl rfl
      refine Ensures.some_map ?_
      have hparse := parseGlobalRequest_format type wantReply args
      refine (handleGlobalRequest_ensures hparse).of_total.mono fun r hr => ?_
      obtain ⟨_, _, ⟨hnot, _, ha⟩ | ⟨_, hsame, _⟩⟩ := hr
      · rw [ha.globalView]
        refine harrive.refuse (hguard _ ?_)
        show globalAnswer c (Wire.formatAtom type ++ (flagOctet wantReply ++ args)) = _
        rw [globalAnswer, hparse]
        exact if_neg hnot
      · rwa [hsame]
    | _ => cases hreq
  | none =>
    cases hrep : m.globalResult with
    | some res =>
      cases m with
      | requestSuccess | requestFailure =>
        exact Ensures.some_map (h.handleGlobalReply hd rfl rfl _).of_total
      | _ => cases hrep
    | none =>
      have hnot : isGlobalPacket m.format = false := by
        cases m with
        | globalRequest => cases hreq
        | requestSuccess | requestFailure => cases hrep
        | _ => rfl
      refine (receivePacket_acts htab m.format).imp (fun _ _ => trivial) fun res hres r hr => ?_
      have hvw := globalView_written hd
      rw [hreq, hrep] at hvw
      have hsame : globalView { d with written := rest } = globalView d := hvw.symm
      rw [((hres r hr).notGlobal hnot).globalView_eq, hsame]
      exact h

end Receive

/-! ### Runs -/

/-- What is asked of the program at the end `c`, and of the requests that it receives. -/
def SideGlobalGuard (c : SshConnection κ) (d : SshConnection κ') : SideEvent κ → Prop
  | .call op => EventGuard (fun c => GlobalGuard (globalView d) (globalView c)) c (.call op)
  | .notify ops => EventGuard (fun c => GlobalGuard (globalView d) (globalView c)) c (.notify ops)
  | .deliver ops => ∀ m ∈ d.written.head?,
    EventGuard (fun c => GlobalGuard (globalView { d with written := d.written.tail })
      (globalView c)) c (.receive m.format ops)

/-- Global requests are answered in order, and those that nobody handles want a reply and arrive
when all earlier ones have been answered. -/
def PairGlobalGuard (p : SshConnection κ × SshConnection κ') : SideEvent κ ⊕ SideEvent κ' → Prop
  | .inl event => SideGlobalGuard p.1 p.2 event
  | .inr event => SideGlobalGuard p.2 p.1 event

section Decidable

instance (w v : GlobalView) (a : Action κ) : Decidable (GlobalGuard w v a) :=
  match a with
  | .globalReply _ _ => inferInstanceAs (Decidable (_ = _))
  | .refuseGlobal _ => inferInstanceAs (Decidable (_ ∧ _))
  | .channel _ _ | .deny _ _ _ | .openNew _ _ _ _ | .receiveOpen _ _ | .confirm _ _
  | .receiveConfirmation _ _ _ _ | .receiveFailure _ | .finish _ | .refuse _ _ _
  | .sendGlobal _ _ _ | .receiveGlobalReply _ _ | .pendingClose => isTrue trivial

instance (c : SshConnection κ) (d : SshConnection κ') (event : SideEvent κ) :
    Decidable (SideGlobalGuard c d event) :=
  match event with
  | .call op => inferInstanceAs (Decidable (EventGuard
      (fun c => GlobalGuard (globalView d) (globalView c)) c (.call op)))
  | .notify ops => inferInstanceAs (Decidable (EventGuard
      (fun c => GlobalGuard (globalView d) (globalView c)) c (.notify ops)))
  | .deliver ops => inferInstanceAs (Decidable (∀ m ∈ d.written.head?, EventGuard
      (fun c => GlobalGuard (globalView { d with written := d.written.tail }) (globalView c)) c
      (.receive m.format ops)))

instance (p : SshConnection κ × SshConnection κ') (event : SideEvent κ ⊕ SideEvent κ') :
    Decidable (PairGlobalGuard p event) :=
  match event with
  | .inl event => inferInstanceAs (Decidable (SideGlobalGuard p.1 p.2 event))
  | .inr event => inferInstanceAs (Decidable (SideGlobalGuard p.2 p.1 event))

end Decidable

theorem globalGuard_of_isFree (w) (c : SshConnection κ) (a : Action κ) (h : a.IsFree) :
    GlobalGuard w (globalView c) a := by
  cases a with
  | globalReply | refuseGlobal => exact absurd h id
  | _ => trivial

/-- Two endpoints with valid tables and matched requests. -/
structure GlobalPairInv (c : SshConnection κ) (d : SshConnection κ') : Prop where
  left : TableInv c
  right : TableInv d
  requests : GlobalInv (globalView c) (globalView d)

theorem GlobalPairInv.symm (h : GlobalPairInv c d) : GlobalPairInv d c :=
  ⟨h.right, h.left, h.requests.symm⟩

theorem GlobalPairInv.steps (h : GlobalPairInv c d)
    (hsts : Steps (Local fun c => GlobalGuard (globalView d) (globalView c)) c c') :
    GlobalPairInv c' d :=
  ⟨h.left.steps hsts, h.right, h.requests.steps hsts⟩

/-- **An event at one end.** -/
theorem sideStep_globalPairInv (h : GlobalPairInv c d) {ev : SideEvent κ}
    (hguard : SideGlobalGuard c d ev) :
    Returns (fun p => GlobalPairInv p.1 p.2) (sideStep c d ev) := by
  cases ev with
  | call op =>
    refine Ensures.bind (P := fun c' => GlobalPairInv c' d) ?_ fun c' hc' => hc'
    exact (perform_local (globalGuard_of_isFree _) h.left hguard).imp (fun _ _ => trivial)
      fun c' hc' => h.steps hc'
  | notify ops =>
    refine Ensures.bind (P := fun c' => GlobalPairInv c' d) ?_ fun c' hc' => hc'
    rw [endpointStep]
    split_ifs
    · exact (foreachFrom_steps (globalGuard_of_isFree _) h.left hguard).imp (fun _ _ => trivial)
        fun c' hc' => h.steps hc'
    · exact h
  | deliver ops =>
    rw [sideStep]
    cases hd : d.written with
    | nil => exact h
    | cons m rest =>
      have hev := hguard m (by rw [hd]; rfl)
      rw [hd] at hev
      dsimp only
      by_cases hal : c.alive = true
      · rw [endpointStep, if_pos hal, if_pos hal]
        have hpkt := (h.requests).receivePacket h.left hd hev.1
        refine Ensures.bind (P := fun c' => GlobalPairInv c' { d with written := rest }) ?_
          fun c' hc' => hc'
        have htab := (receiveWith_steps (globalGuard_of_isFree _) h.left hev).imp
          (fun _ _ => trivial) fun c' hc' => h.left.steps hc'
        have hloc := receiveWith_local (globalGuard_of_isFree _) h.left hev
        refine (hloc.and htab).imp (fun _ _ => trivial) fun c' hc' => ?_
        refine ⟨hc'.2, h.right.congr rfl rfl rfl rfl rfl, ?_⟩
        rcases hc'.1 with ⟨hno, rfl⟩ | ⟨r, hr, hsts⟩
        · exact absurd hno (receivePacket_format_ne_none c' m)
        · rw [hr] at hpkt
          exact (hpkt r rfl).steps hsts
      · rw [endpointStep, if_neg hal, if_neg hal]
        exact h

theorem pairStep_globalPairInv {p : SshConnection κ × SshConnection κ'} (h : GlobalPairInv p.1 p.2)
    {ev : SideEvent κ ⊕ SideEvent κ'}
    (hguard : PairGlobalGuard p ev) :
    Returns (fun p => GlobalPairInv p.1 p.2) (pairStep p ev) := by
  cases ev with
  | inl ev => exact sideStep_globalPairInv h hguard
  | inr ev => exact (sideStep_globalPairInv h.symm hguard).map fun q hq => hq.symm

theorem globalPairInv_init (types types' reqs requests' fallback fallback') :
    GlobalPairInv (initSshConnection types reqs fallback : SshConnection κ)
      (initSshConnection types' requests' fallback' : SshConnection κ') :=
  ⟨tableInv_init _ _ _, tableInv_init _ _ _,
    ⟨Exchange.matched_empty, Exchange.matched_empty, rfl, rfl⟩⟩

/-! ### The handlers of a server -/

/-- The arguments of a request for forwarding: the address and the port. -/
def parseForward (args : Octets) : Option (Octets × UInt32) := do
  let (bindHost, s) ← Wire.parseString args
  let (bindPort, s) ← Wire.parseUint32 s
  Wire.parseEod s
  return (bindHost, UInt32.ofNat bindPort)

/-- A handler of `server_tcpforward.c`: what it calls, and what becomes of the forwarded ports. -/
def forwardHandler (message : String) (handle : Octets → UInt32 → Bool × Forwarding)
    (wantReply : Bool) (args : Octets) : Except ChannelError (List (Op κ) × Forwarding) :=
  match parseForward args with
  | none => .error (.connectionError message)
  | some (bindHost, bindPort) =>
    let (result, forwarding) := handle bindHost bindPort
    .ok ([.globalReply wantReply result], forwarding)

/-- The handler for `tcpip-forward`. -/
def tcpipForwardHandler (s : Forwarding) (addresses : Option (List Bound)) :=
  forwardHandler (κ := κ) "Invalid tcpip-forward message."
    fun ip port => doTcpipForwardHandler s ip port addresses

/-- The handler for `cancel-tcpip-forward`. -/
def tcpipCancelForwardHandler (s : Forwarding) :=
  forwardHandler (κ := κ) "Invalid cancel-tcpip-forward message." (doTcpipCancelForward s)

/-- What a handler of the server may do with a request. -/
def HandledBy (type : Atom) (wantReply : Bool) (args : Octets) (ops : List (Op κ)) : Prop :=
  ∃ s s', type = .tcpipForward ∧
      (∃ addresses, tcpipForwardHandler s addresses wantReply args = .ok (ops, s')) ∨
    type = .cancelTcpipForward ∧ tcpipCancelForwardHandler s wantReply args = .ok (ops, s')

/-- A handler replies once, before it returns. -/
theorem HandledBy.eq_globalReply {type : Atom} {wantReply : Bool} {args : Octets}
    {ops : List (Op κ)}
    (h : HandledBy type wantReply args ops) : ∃ result, ops = [.globalReply wantReply result] := by
  have hreply {message : String} {handle : Octets → UInt32 → Bool × Forwarding} {s : Forwarding}
      (hok : forwardHandler message handle wantReply args = .ok (ops, s)) :
      ∃ result, ops = [.globalReply wantReply result] := by
    rw [forwardHandler] at hok
    cases hparse : parseForward args with
    | none =>
      rw [hparse] at hok
      cases hok
    | some request =>
      rw [hparse] at hok
      cases hok
      exact ⟨_, rfl⟩
  obtain ⟨s, s', ⟨_, _, hok⟩ | ⟨_, hok⟩⟩ := h
  · exact hreply hok
  · exact hreply hok

section Handled

variable {type : Atom} {wantReply : Bool} {args : Octets} {rest : List Message}

/-- The handler of a request is called, and the connection is as it was. -/
theorem receivePacket_handled {c : SshConnection κ} (hhandles : type ∈ c.globalRequests) :
    receivePacket c (Message.globalRequest type wantReply args).format =
      .ok (some ⟨c, some (.globalRequest type wantReply args), .done⟩) := by
  show some <$> handleGlobalRequest c (Wire.formatAtom type ++ (flagOctet wantReply ++ args)) = _
  rw [handleGlobalRequest, parseGlobalRequest_format]
  dsimp only
  rw [lookupAtom_octets]
  dsimp only
  rw [if_pos hhandles]
  rfl

/-- A request whose handler replies at once, when all earlier ones have been answered. -/
theorem sideGlobalGuard_of_handled (h : (Exchange.Matched
      ((globalView d).exchange (globalView c))))
    (howed : (globalResults c.log).length + (d.written.filterMap Message.wantsReply).length =
      (sentGlobals d.log).length)
    (hwritten : d.written = .globalRequest type wantReply args :: rest)
    (hhandles : type ∈ c.globalRequests) (result : Bool) :
    SideGlobalGuard c d (.deliver [.globalReply wantReply result]) := by
  intro m hm
  rw [hwritten] at hm
  obtain rfl : Message.globalRequest type wantReply args = m := by simpa using hm
  have hnone : ((globalView d).exchange (globalView c)).owed = [] := by
    rw [Exchange.owed, drop_eq_nil_iff]
    refine (length_take_le _ _).trans ?_
    show (sentGlobals d.log).length - (d.written.filterMap Message.wantsReply).length ≤
      (globalResults c.log).length
    omega
  have hone : ((globalView { d with written := rest }).exchange (globalView c)).owed =
      [wantReply] := by
    refine Exchange.owed_eq ?_
    have hwants := h.wants_eq
    rw [hnone] at hwants
    have hrequests : ((globalView d).exchange (globalView c)).requests =
        wantReply :: rest.filterMap Message.wantsReply := by
      show d.written.filterMap Message.wantsReply = _
      rw [hwritten]
      rfl
    rw [hrequests, append_nil, ← singleton_append, ← append_assoc] at hwants
    exact hwants
  constructor
  · intro a ha
    have hno : globalAnswer c (Wire.formatAtom type ++ (flagOctet wantReply ++ args)) = some a := ha
    rw [globalAnswer, parseGlobalRequest_format] at hno
    have hhs : HandlesGlobal c type.octets := ⟨type, lookupAtom_octets type, hhandles⟩
    rw [Option.bind_some] at hno
    dsimp only at hno
    rw [if_pos hhs] at hno
    cases hno
  · intro r hr
    rw [receivePacket_handled hhandles] at hr
    cases hr
    refine ⟨fun a ha => ?_, fun _ _ => trivial⟩
    obtain rfl : Action.globalReply wantReply result = a := by simpa [Op.action] using ha
    rw [hwritten, tail_cons, GlobalGuard, hone]
    rfl

theorem globalResults_globalRequestReply (c : SshConnection κ) (wantReply result : Bool) :
    globalResults (globalRequestReply c wantReply result).log =
      globalResults c.log ++ [(wantReply, result)] := by
  cases wantReply <;> simp [globalRequestReply, logResult, write, globalResults]

/-- The handler replies, and the request has arrived. -/
theorem sideStep_handled (halive : c.alive = true)
    (hwritten : d.written = .globalRequest type wantReply args :: rest)
    (hhandles : type ∈ c.globalRequests) (result : Bool) :
    sideStep c d (.deliver [.globalReply wantReply result]) =
      .ok (globalRequestReply c wantReply result, { d with written := rest }) := by
  rw [sideStep, hwritten]
  dsimp only
  rw [endpointStep, if_pos halive, if_pos halive, receiveWith, channelPacketHandler,
    receivePacket_handled hhandles]
  have hperform : run perform c [.globalReply wantReply result] =
      .ok (globalRequestReply c wantReply result) := by
    refine run_cons_ok ?_ []
    rw [perform, if_pos halive]
    rfl
  have hfinish (e : SshConnection κ) : finishPacket e .done = .ok e := ite_self _
  simp only [ok_bind, callProgram, hperform, hfinish]
  rfl

end Handled

/-- The requests that one end has sent get their own results from the other. -/
structure RepliesMatch (c : SshConnection κ) (d : SshConnection κ') : Prop where
  /-- The states get their results in order: the `n`-th that was queued gets the result of the
  `n`-th request that wants a reply. -/
  own : ∀ (n state : ℕ) (success : Bool), (globalDones c.log)[n]? = some (state, success) →
    (states (sentGlobals c.log))[n]? = some state ∧
      (wanted (globalResults d.log))[n]? = some success
  /-- The other end has results for the first requests, in order. -/
  inOrder : (globalResults d.log).map Prod.fst <+: wants (sentGlobals c.log)
  /-- It has sent one reply for each of them that wants one, in order, and no other. -/
  replies : globalReplies d.log = wanted (globalResults d.log)
  /-- No request is lost: those without a result are owed one or are on the way. -/
  requests : ∃ owed, wants (sentGlobals c.log) =
    (globalResults d.log).map Prod.fst ++ owed ++ c.written.filterMap Message.wantsReply
  /-- No reply is lost: for each of them, `done` has been called or it is on the way. -/
  dones : wanted (globalResults d.log) =
    (globalDones c.log).map Prod.snd ++ d.written.filterMap Message.globalResult
  /-- The states that have no result yet wait for one. -/
  waiting : states (sentGlobals c.log) =
    (globalDones c.log).map Prod.fst ++ c.pendingGlobalRequests
  /-- When all requests have results and nothing is on the way, `done` has been called for all
  states, with their results. -/
  complete : c.written.filterMap Message.wantsReply = [] →
    d.written.filterMap Message.globalResult = [] →
    (globalResults d.log).length = (sentGlobals c.log).length →
    (globalDones c.log).map Prod.fst = states (sentGlobals c.log) ∧
      (globalDones c.log).map Prod.snd = wanted (globalResults d.log)
  /-- The handlers for forwarding answer the next request in its turn if all earlier ones have been
  answered, and then it has been answered too. -/
  handlers : ∀ type wantReply args rest ops,
    (globalResults d.log).length + (c.written.filterMap Message.wantsReply).length =
      (sentGlobals c.log).length →
    c.written = .globalRequest type wantReply args :: rest → type ∈ d.globalRequests →
    HandledBy type wantReply args ops → SideGlobalGuard d c (.deliver ops) ∧
      (d.alive = true → ∃ result d',
        sideStep d c (.deliver ops) = .ok (d', { c with written := rest }) ∧
        globalResults d'.log = globalResults d.log ++ [(wantReply, result)])

theorem GlobalPairInv.repliesMatch (h : GlobalPairInv c d) : RepliesMatch c d where
  own := fun _ _ _ hdone => h.requests.matched.own hdone
  inOrder := h.requests.matched.isPrefix_wants
  replies := h.requests.replied_symm
  requests := ⟨_, h.requests.matched.wants_eq⟩
  dones := h.requests.matched.wanted_eq
  waiting := h.requests.matched.states_eq
  complete := h.requests.matched.complete
  handlers := by
    intro type wantReply args rest ops howed hwritten hhandles hops
    obtain ⟨result, rfl⟩ := hops.eq_globalReply
    refine ⟨sideGlobalGuard_of_handled h.requests.matched howed hwritten hhandles result,
      fun halive => ⟨result, _, sideStep_handled halive hwritten hhandles result, ?_⟩⟩
    exact globalResults_globalRequestReply d wantReply result

/-- The second end handles `tcpip-forward` only. The first end sends another request, which wants no
reply, and then `tcpip-forward`. -/
def strayFailure : List (SideEvent Unit ⊕ SideEvent Unit) :=
  [.inl (.call (.sendGlobalRequest .cancelTcpipForward none [])),
    .inl (.call (.sendGlobalRequest .tcpipForward (some 7) [])),
    .inr (.deliver []), .inr (.deliver [.globalReply true true]), .inl (.deliver []),
    .inl (.deliver [])]

/-- Both ends send requests, the second one of a type that nobody handles, and all get their own
results. -/
def crossingRequests : List (SideEvent Unit ⊕ SideEvent Unit) :=
  [.inl (.call (.sendGlobalRequest .tcpipForward none [])),
    .inl (.call (.sendGlobalRequest .tcpipForward (some 7) [])),
    .inr (.call (.sendGlobalRequest .cancelTcpipForward (some 8) [])),
    .inr (.deliver []), .inr (.deliver []), .inl (.deliver []),
    .inr (.call (.globalReply false false)), .inr (.call (.globalReply true true)),
    .inl (.deliver []), .inr (.deliver [])]

end Lsh.Channel
