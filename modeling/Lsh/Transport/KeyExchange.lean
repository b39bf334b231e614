
import Lsh.Transport.Connection

/-!
# The key exchange state machine

What holds in every run of a connection: whatever arrives from the peer, whenever timers expire,
and whatever happens to our writes.

The proof has three parts. `Frame` says what sending, disconnecting and closing cannot change:
everything that belongs to key exchange. `Monitor` is an automaton that reads the log and says in
which order keys may be made, taken into use and packets passed on. `KexInv` relates the state of
a connection to the state of the automaton, and each event keeps it.

## Main results

* `frame_performAll` — what the actions of handlers cannot change
* `kexInv_connectionStep` — every event succeeds and keeps the invariant
* `runConnection_keyExchange` — assertions do not fail, packets are passed on only between
  exchanges and after the first one, keys are taken into use exactly by NEWKEYS, and one KEXINIT
  is sent in an exchange
-/

namespace Lsh.Transport

open Kex Machine List

variable {σ η ε : Type}

/-! ### What sending and closing cannot change -/

/-- The connection that is read from is alive, and not being closed. -/
def Connection.Open (c : Connection σ η ε) : Prop := c.sshInput → c.alive ∧ ¬c.closing

/-- **The frame** of sending and closing. The input may be closed, and then no timer will start a
key exchange. -/
structure Frame (c d : Connection σ η ε) : Prop where
  kex : d.kex = c.kex
  sessionId : d.sessionId = c.sessionId
  keyexchangeHandler : d.keyexchangeHandler = c.keyexchangeHandler
  newKeys : d.newKeys = c.newKeys
  reader : d.reader = c.reader
  retry : d.retry = c.retry
  packetHandler : d.packetHandler = c.packetHandler
  input : (d.sshInput = c.sshInput ∧ d.expire = c.expire) ∨
    (d.sshInput = false ∧ d.expire ≠ some .reexchange)
  isOpen : c.Open → d.Open
  log : ∃ packets : List Octets, d.log = c.log ++ packets.map (.sent .other)
  alive : d.alive → c.alive
  writer : d.writer = c.writer

namespace Frame

variable {c d e : Connection σ η ε}

theorem refl (c : Connection σ η ε) : Frame c c where
  kex := rfl
  sessionId := rfl
  keyexchangeHandler := rfl
  newKeys := rfl
  reader := rfl
  retry := rfl
  packetHandler := rfl
  input := .inl ⟨rfl, rfl⟩
  isOpen := id
  log := ⟨[], by simp⟩
  alive := id
  writer := rfl

theorem trans (h : Frame c d) (h' : Frame d e) : Frame c e where
  kex := h'.kex.trans h.kex
  sessionId := h'.sessionId.trans h.sessionId
  keyexchangeHandler := h'.keyexchangeHandler.trans h.keyexchangeHandler
  newKeys := h'.newKeys.trans h.newKeys
  reader := h'.reader.trans h.reader
  retry := h'.retry.trans h.retry
  packetHandler := h'.packetHandler.trans h.packetHandler
  input := by
    rcases h'.input with ⟨hin', hex'⟩ | h'
    · rcases h.input with ⟨hin, hex⟩ | ⟨hin, hex⟩
      · exact .inl ⟨hin'.trans hin, hex'.trans hex⟩
      · exact .inr ⟨hin'.trans hin, hex' ▸ hex⟩
    · exact .inr h'
  isOpen := h'.isOpen ∘ h.isOpen
  log := by
    obtain ⟨ps, hps⟩ := h.log
    obtain ⟨qs, hqs⟩ := h'.log
    exact ⟨ps ++ qs, by rw [hqs, hps, map_append, append_assoc]⟩
  alive := h.alive ∘ h'.alive
  writer := h'.writer.trans h.writer

/-- A frame with the same input, timer and log. -/
theorem same_input {b : Bool} {a : σ} {n : ℕ} :
    Frame c { c with app := a, writes := n, writeActive := b } :=
  ⟨rfl, rfl, rfl, rfl, rfl, rfl, rfl, .inl ⟨rfl, rfl⟩, id, ⟨[], by simp⟩, id, rfl⟩

/-- New keys for sending on both sides. -/
theorem setWriter (h : Frame c d) (keys) :
    Frame { c with writer := keys } { d with writer := keys } :=
  { h with writer := rfl }

end Frame

section Frames

variable (app : App σ ε) (oracle : Oracle) (c : Connection σ η ε)

theorem frame_transportConnectionKill : Frame c (transportConnectionKill app c) := by
  rw [transportConnectionKill]
  split_ifs with hal
  · refine ⟨rfl, rfl, rfl, rfl, rfl, rfl, rfl, .inr ⟨rfl, nofun⟩, ?_, ⟨[], by simp⟩, nofun, rfl⟩
    intro _ hinp
    cases hinp
  · exact Frame.refl c

theorem frame_transportClose (flush : Bool) : Frame c (transportClose app c flush) := by
  have hcld : Frame c (closeInput app c) := by
    refine ⟨rfl, rfl, rfl, rfl, rfl, rfl, rfl, .inr ⟨rfl, nofun⟩, ?_,
      ⟨[], by simp [closeInput]⟩, id, rfl⟩
    intro _ hinp
    cases hinp
  rw [transportClose]
  split_ifs
  · refine hcld.trans ⟨rfl, rfl, rfl, rfl, rfl, rfl, rfl, .inr ⟨rfl, nofun⟩, ?_,
      ⟨[], by simp⟩, id, rfl⟩
    intro _ hinp
    cases hinp
  · exact hcld.trans (frame_transportConnectionKill app _)
  · exact Frame.refl c

theorem frame_transportStartWrite (full) : Frame c (transportStartWrite app c full) := by
  rw [transportStartWrite]
  split_ifs with hsto
  · exact Frame.same_input
  · exact Frame.same_input

theorem frame_transportStopWrite (full : Bool) : Frame c (transportStopWrite app c full) := by
  rw [transportStopWrite]
  split_ifs with hact hclg hstr
  · refine Frame.trans ?_ (frame_transportConnectionKill app _)
    refine ⟨rfl, rfl, rfl, rfl, rfl, rfl, rfl, .inl ⟨rfl, rfl⟩, ?_, ⟨[], by simp⟩, id, rfl⟩
    intro hopen hinp
    exact absurd hclg (hopen hinp).2
  · exact Frame.same_input
  · exact Frame.same_input
  · exact Frame.refl c

theorem frame_afterWrite (o : WriteOutcome) : Frame c (afterWrite app c o) := by
  rw [afterWrite]
  cases o.status with
  | overflow | ioError => exact frame_transportClose app c false
  | pending => exact frame_transportStartWrite app c o.almostFull
  | complete => exact frame_transportStopWrite app c o.almostFull

/-- A packet is recorded if the connection is alive; the rest is a frame. -/
theorem frame_transportSendPacket (origin : Origin) (packet) :
    Frame (if c.alive then c.record (.sent origin packet) else c)
      (transportSendPacket app oracle c origin packet) := by
  rw [transportSendPacket]
  split_ifs with hal
  · exact Frame.same_input.trans (frame_afterWrite app _ _)
  · exact Frame.refl c

theorem kex_transportSendPacket (c : Connection σ η ε) (origin packet) :
    (transportSendPacket app oracle c origin packet).kex = c.kex := by
  rw [(frame_transportSendPacket app oracle c origin packet).kex]
  split_ifs <;> rfl

theorem sessionId_transportSendPacket (c : Connection σ η ε) (origin packet) :
    (transportSendPacket app oracle c origin packet).sessionId = c.sessionId := by
  rw [(frame_transportSendPacket app oracle c origin packet).sessionId]
  split_ifs <;> rfl

theorem retry_transportSendPacket (c : Connection σ η ε) (origin packet) :
    (transportSendPacket app oracle c origin packet).retry = c.retry := by
  rw [(frame_transportSendPacket app oracle c origin packet).retry]
  split_ifs <;> rfl

theorem frame_record (packet) : Frame c (c.record (.sent .other packet)) :=
  ⟨rfl, rfl, rfl, rfl, rfl, rfl, rfl, .inl ⟨rfl, rfl⟩, id, ⟨[packet], rfl⟩, id, rfl⟩

theorem frame_send (packet : Octets) :
    Frame c (transportSendPacket app oracle c .other packet) := by
  refine Frame.trans ?_ (frame_transportSendPacket app oracle c .other packet)
  split_ifs
  · exact frame_record c packet
  · exact Frame.refl c

theorem frame_transportFlush : Frame c (transportFlush app oracle c) := by
  rw [transportFlush]
  split_ifs
  · exact Frame.same_input.trans (frame_afterWrite app _ _)
  · exact Frame.refl c

theorem frame_transportDisconnect (reason msg) :
    Frame c (transportDisconnect app oracle c reason msg) := by
  refine Frame.trans ?_ (frame_transportClose app _ true)
  split_ifs
  · exact frame_send app oracle c _
  · exact Frame.refl c

theorem frame_perform (a) : Frame c (perform app oracle c a) := by
  cases a with
  | send packet => exact frame_send app oracle c packet
  | flush => exact frame_transportFlush app oracle c
  | disconnect reason msg => exact frame_transportDisconnect app oracle c reason msg
  | close flush => exact frame_transportClose app c flush
  | become f => exact Frame.same_input

/-- **Handlers** change nothing that belongs to key exchange. -/
theorem frame_performAll (actions : List (Action σ)) :
    Frame c (performAll app oracle c actions) := by
  induction actions generalizing c with
  | nil => exact Frame.refl c
  | cons a actions ih => exact (frame_perform app oracle c a).trans (ih _)

theorem sshInput_transportClose {c : Connection σ η ε} (hopen : c.Open) (flush) :
    (transportClose app c flush).sshInput = false := by
  rw [transportClose]
  split_ifs with hal hfl
  · rfl
  · rw [transportConnectionKill]
    split_ifs <;> rfl
  · rw [← Bool.not_eq_true]
    exact fun hinp => hal (hopen hinp)

theorem sshInput_transportDisconnect {c : Connection σ η ε} (hopen : c.Open) (reason msg) :
    (transportDisconnect app oracle c reason msg).sshInput = false := by
  refine sshInput_transportClose app ?_ true
  split_ifs
  · exact (frame_send app oracle c _).isOpen hopen
  · exact hopen

end Frames

/-! ### The order of events -/

/-- A message number from 20 to 49. -/
def isKexMessage (packet : Octets) : Bool :=
  match packet with
  | [] => false
  | msg :: _ => 20 ≤ msg ∧ msg < 50

/-- The state of the automaton that reads the log. -/
structure Monitor where
  /-- A KEXINIT has been sent in the current exchange. -/
  kexinit : Bool
  /-- Some exchange is complete. -/
  accepted : Bool
  /-- What the latest `keyexchange_finish` made. -/
  latest : DirectionKeys
  /-- What is in use for receiving. -/
  installed : DirectionKeys

namespace Monitor

/-- The start of the automaton. -/
def start : Monitor := ⟨false, false, ⟨none, none, none⟩, ⟨none, none, none⟩⟩

/-- **What may happen next**: one KEXINIT in an exchange; NEWKEYS ends an exchange and takes the
latest keys into use; packets are passed on between exchanges, but not before the first one is
complete, and not those of the key exchange. -/
def step (m : Monitor) : LogEntry → Option Monitor
  | .sent .kexinit _ => if m.kexinit then none else some { m with kexinit := true }
  | .sent .newkeys _ => some m
  | .sent .other _ => some m
  | .finished keys => some { m with latest := keys }
  | .accepted state packet =>
    if state = .newkeys ∧ packet = formatNewkeys ∧ m.kexinit then
      some { m with kexinit := false, accepted := true, installed := m.latest }
    else none
  | .handled state packet =>
    if state = .init ∧ m.accepted ∧ ¬isKexMessage packet then some m else none

/-- The log is read without an error, and leads to `m`. -/
def Reads (log : List LogEntry) (m : Monitor) : Prop := log.foldlM step start = some m

variable {log : List LogEntry} {m m' : Monitor}

theorem Reads.snoc {e : LogEntry} (h : Reads log m) (he : m.step e = some m') :
    Reads (log ++ [e]) m' := by
  rw [Reads, foldlM_append, h]
  simpa using he

theorem Reads.others (h : Reads log m) (pkts : List Octets) :
    Reads (log ++ pkts.map (.sent .other)) m := by
  induction pkts generalizing log with
  | nil => simpa using h
  | cons p pkts ih =>
    rw [map_cons, append_cons]
    exact ih (h.snoc rfl)

end Monitor

/-! ### The invariant -/

section Invariant

variable (ctx : TransportContext η ε)

/-- Our own KEXINIT message. -/
def ownKexinit (c : Connection σ η ε) : Option Kexinit := c.kex.kexinit.get ctx.isServer

/-- The part of the invariant that holds also in the middle of starting an exchange. -/
structure KexCore (c : Connection σ η ε) (m : Monitor) : Prop where
  isOpen : c.Open
  reads : Monitor.Reads c.log m
  reader : m.installed = c.reader
  newKeys : c.kex.readState = .newkeys → m.latest = c.newKeys
  own_ne : c.kex.readState ≠ .init → ownKexinit ctx c ≠ none
  own_eq : ∀ kex, ownKexinit ctx c = some kex → ∃ cookie, kex = makeKexinit ctx.kexinit cookie
  kexinit_of_none : ownKexinit ctx c = none → m.kexinit = false
  kexinit_of_ne : c.sshInput → ownKexinit ctx c ≠ none → m.kexinit
  packetHandler : c.packetHandler → c.kex.readState = .newkeys ∨ m.accepted
  retry : ∀ seqno packet, c.retry = some (seqno, packet) →
    c.kex.readState = .init ∧ m.accepted ∧ ¬isKexMessage packet

/-- **The invariant.** -/
structure KexInv (c : Connection σ η ε) (m : Monitor) : Prop extends KexCore ctx c m where
  /-- The timer starts a new exchange only if there is none. -/
  reexchange : c.expire = some .reexchange →
    c.sshInput ∧ c.kex.readState = .init ∧ ownKexinit ctx c = none
  /-- As long as packets are read, an exchange has a method and its handler. -/
  handler : c.sshInput → (c.kex.readState = .ignore ∨ c.kex.readState = .inProgress) →
    c.kex.algorithmList.isSome ∧ c.keyexchangeHandler.isSome

variable {ctx} {c d : Connection σ η ε} {m : Monitor}

theorem Frame.sshInput (h : Frame c d) (hinp : d.sshInput) : c.sshInput := by
  rcases h.input with ⟨heq, -⟩ | ⟨hcld, -⟩
  · rwa [← heq]
  · rw [hcld] at hinp
    cases hinp

theorem Frame.expire_ne (h : Frame c d) (hne : c.expire ≠ some .reexchange) :
    d.expire ≠ some .reexchange := by
  rcases h.input with ⟨-, heq⟩ | ⟨-, hcld⟩
  · rwa [heq]
  · exact hcld

theorem Frame.ownKexinit (h : Frame c d) : ownKexinit ctx d = Transport.ownKexinit ctx c := by
  rw [Transport.ownKexinit, h.kex, Transport.ownKexinit]

theorem KexCore.frame (hc : KexCore ctx c m) (h : Frame c d) : KexCore ctx d m where
  isOpen := h.isOpen hc.isOpen
  reads := by
    obtain ⟨pkts, hlog⟩ := h.log
    rw [hlog]
    exact hc.reads.others pkts
  reader := hc.reader.trans h.reader.symm
  newKeys := by
    rw [h.kex, h.newKeys]
    exact hc.newKeys
  own_ne := by
    rw [h.kex, h.ownKexinit]
    exact hc.own_ne
  own_eq := by
    rw [h.ownKexinit]
    exact hc.own_eq
  kexinit_of_none := by
    rw [h.ownKexinit]
    exact hc.kexinit_of_none
  kexinit_of_ne := by
    rw [h.ownKexinit]
    exact fun hinp => hc.kexinit_of_ne (h.sshInput hinp)
  packetHandler := by
    rw [h.kex, h.packetHandler]
    exact hc.packetHandler
  retry := by
    rw [h.kex, h.retry]
    exact hc.retry

/-- Sending and closing keep the invariant. -/
theorem KexInv.frame (hc : KexInv ctx c m) (h : Frame c d) : KexInv ctx d m where
  toKexCore := hc.toKexCore.frame h
  reexchange := by
    intro hexp
    rcases h.input with ⟨hinp, heq⟩ | ⟨-, hne⟩
    · rw [hinp, h.kex, h.ownKexinit]
      exact hc.reexchange (heq ▸ hexp)
    · exact absurd hexp hne
  handler := by
    rw [h.kex, h.keyexchangeHandler]
    exact fun hinp => hc.handler (h.sshInput hinp)

end Invariant

/-! ### Each operation keeps the invariant -/

section Operations

variable {app : App σ ε} {ctx : TransportContext η ε} {oracle : Oracle} {c : Connection σ η ε}
  {m : Monitor}

theorem KexCore.setExpire (hc : KexCore ctx c m) (timer) :
    KexCore ctx { c with expire := timer } m :=
  { hc with }

/-- Our own message is kept. If packets are read, its sending must have been recorded. -/
theorem KexCore.prepare {log : List LogEntry} (app) (hc : KexCore ctx c m) (cookie)
    (hreads : Monitor.Reads log { m with kexinit := kexinit }) (hsent : c.sshInput → kexinit) :
    KexCore ctx { prepareKexinit app ctx c (makeKexinit ctx.kexinit cookie) with log := log }
      { m with kexinit := kexinit } := by
  have hown : (c.kex.kexinit.set ctx.isServer (some (makeKexinit ctx.kexinit cookie))).get
      ctx.isServer = some (makeKexinit ctx.kexinit cookie) := Sides.get_set_self _ _ _
  exact { hc with
    reads := hreads
    own_ne := fun _ => Option.ne_none_iff_exists'.mpr ⟨_, hown⟩
    own_eq := fun kex hkex => ⟨cookie, Option.some.inj (hkex.symm.trans hown)⟩
    kexinit_of_none := fun h => absurd (hown.symm.trans h) nofun
    kexinit_of_ne := fun hinp _ => hsent hinp }

/-- **Sending KEXINIT**, when no exchange has been started. -/
theorem transportSendKexinit_ensures (hc : KexCore ctx c m) (hst : c.kex.readState = .init)
    (hown : ownKexinit ctx c = none) :
    Yields (fun d => ∃ m', KexCore ctx d m' ∧ m'.accepted = m.accepted ∧
      d.kex.readState = .init ∧ ownKexinit ctx d ≠ none ∧ d.expire = some .keyexchange ∧
      d.retry = c.retry) (transportSendKexinit app ctx oracle c) := by
  obtain ⟨cookie, hcookie⟩ : ∃ cookie, oracle.cookie c.writes = cookie := ⟨_, rfl⟩
  obtain ⟨p, hp⟩ : ∃ p, prepareKexinit app ctx c (makeKexinit ctx.kexinit cookie) = p := ⟨_, rfl⟩
  obtain ⟨packet, hpkt⟩ : ∃ s, formatKexinit (makeKexinit ctx.kexinit cookie) = s := ⟨_, rfl⟩
  have hpown : ownKexinit ctx p ≠ none := by
    rw [← hp]
    exact Option.ne_none_iff_exists'.mpr ⟨_, Sides.get_set_self _ _ _⟩
  have hbase : ∃ m', m'.accepted = m.accepted ∧
      KexCore ctx (if p.alive then p.record (.sent .kexinit packet) else p) m' := by
    subst hp
    split_ifs with hal
    · refine ⟨{ m with kexinit := true }, rfl, hc.prepare app cookie ?_ fun _ => rfl⟩
      exact hc.reads.snoc (by simp [Monitor.step, hc.kexinit_of_none hown])
    · exact ⟨m, rfl, hc.prepare app cookie hc.reads fun h => absurd (hc.isOpen h).1 hal⟩
  obtain ⟨m', hac, hcore⟩ := hbase
  have hd := hcore.frame (frame_transportSendPacket app oracle p .kexinit packet)
  have hkex := kex_transportSendPacket app oracle p .kexinit packet
  have hini : p.kex.readState = .init := by
    rw [← hp]
    exact hst
  rw [transportSendKexinit, hcookie]
  rw [hp, require_of hini, hpkt]
  refine ⟨m', hd.setExpire _, hac, ?_, ?_, rfl, ?_⟩
  · exact (congrArg _ hkex).trans hini
  · exact hkex ▸ hpown
  · exact (retry_transportSendPacket app oracle p .kexinit packet).trans (by rw [← hp]; rfl)

variable {env : ε}

/-- The selected method makes its handler. If it does not, the input is closed. -/
theorem startExchange_ensures (hc : KexCore ctx c m) (hexp : c.expire ≠ some .reexchange)
    (hmet : ∃ l a, c.kex.algorithmList = some l ∧ Algorithm.asKeyexchange l.keyExchange = some a) :
    Yields (fun d => ∃ m', KexInv ctx d m') (startExchange app ctx oracle c env) := by
  obtain ⟨l, a, hl, ha⟩ := hmet
  obtain ⟨actions, handler, hini⟩ : ∃ actions handler,
      a.init (kexView ctx c.kex) env = (actions, handler) := ⟨_, _, rfl⟩
  have hfr := frame_performAll app oracle c (actions.map KexAction.toAction)
  have hd := hc.frame hfr
  have hls : (performAll app oracle c
      (actions.map KexAction.toAction)).kex.algorithmList.isSome := by
    rw [hfr.kex, hl]
    rfl
  have hset : KexCore ctx { performAll app oracle c (actions.map KexAction.toAction) with
      keyexchangeHandler := handler.map fun h => (a, h) } m :=
    { hd with }
  have hne := hfr.expire_ne hexp
  rw [startExchange, hl]
  simp only [Option.bind_some, ha, hini, ensures_ok]
  cases handler with
  | some h =>
    exact ⟨m, ⟨hset, fun h => absurd h hne, fun _ _ => ⟨hls, rfl⟩⟩⟩
  | none =>
    have hfr' := frame_transportDisconnect app oracle
      { performAll app oracle c (actions.map KexAction.toAction) with keyexchangeHandler := none }
      sshDisconnectKeyExchangeFailed "Configuration error"
    have hcld := sshInput_transportDisconnect app oracle hset.isOpen
      sshDisconnectKeyExchangeFailed "Configuration error"
    refine ⟨m, ⟨hset.frame hfr', fun h => absurd h (hfr'.expire_ne hne), ?_⟩⟩
    intro hinp
    exact absurd (hcld.symm.trans hinp) (by simp)

variable {packet : Octets}

/-- **A KEXINIT message arrives.** -/
theorem transportKexinitHandler_ensures (hc : KexInv ctx c m)
    (hst : c.kex.readState = .init) (hrt : c.retry = none) :
    Yields (fun d => ∃ m', KexInv ctx d m')
      (transportKexinitHandler app ctx oracle c packet env) := by
  -- our own message is sent first
  have hsent : Yields (fun d => ∃ m', KexCore ctx d m' ∧
      d.kex.readState = .init ∧ ownKexinit ctx d ≠ none ∧ d.expire ≠ some .reexchange ∧
      d.retry = none) (sendOwnKexinit app ctx oracle c) := by
    rw [sendOwnKexinit]
    split_ifs with hown
    · have hne : ownKexinit ctx c ≠ none := Option.isSome_iff_ne_none.mp hown
      exact ⟨m, hc.toKexCore, hst, hne, fun h => hne (hc.reexchange h).2.2, hrt⟩
    · have hno : ownKexinit ctx c = none := Option.not_isSome_iff_eq_none.mp hown
      refine (transportSendKexinit_ensures hc.toKexCore hst hno).mono ?_
      rintro d ⟨m', hd, -, hst', hown', hexp, hrt'⟩
      exact ⟨m', hd, hst', hown', by rw [hexp]; simp, hrt'.trans hrt⟩
  refine hsent.bind ?_
  rintro d ⟨m', hd, hst', hown, hexp, hrt'⟩
  obtain ⟨own, hown⟩ := Option.ne_none_iff_exists'.mp hown
  obtain ⟨cookie, rfl⟩ := hd.own_eq own hown
  have hne : (makeKexinit ctx.kexinit cookie).kexAlgorithms ≠ [] := by
    simpa [makeKexinit, Wire.known] using ctx.kexinit.kexAlgorithms_ne
  refine ((handleKexinit_ensures d.kex packet ctx.algorithms ctx.isServer).imp
    (fun _ h => absurd (hown.symm.trans (h hst')) (by simp)) fun r h => h _ hown).bind ?_
  rintro ⟨error, kex⟩ ⟨hkex, -, hread, hls⟩
  have hcore : KexCore ctx { d with kex := kex } m' := { hd with
    newKeys := fun h => by rcases hread with h' | h' <;> exact absurd (h.symm.trans h') (by simp)
    own_ne := fun _ => Option.ne_none_iff_exists'.mpr ⟨_, hkex⟩
    own_eq := fun kex' h => ⟨cookie, Option.some.inj (h.symm.trans hkex)⟩
    kexinit_of_none := fun h => absurd (hkex.symm.trans h) (by simp)
    kexinit_of_ne := fun hinp _ =>
      hd.kexinit_of_ne hinp (Option.ne_none_iff_exists'.mpr ⟨_, hown⟩)
    packetHandler := fun h => by
      rcases hd.packetHandler h with h' | h'
      · simp [hst'] at h'
      · exact .inr h'
    retry := fun seqno p h => absurd (hrt'.symm.trans h) (by simp) }
  cases error with
  | some error =>
    have hfr := frame_transportDisconnect app oracle { d with kex := kex }
      sshDisconnectKeyExchangeFailed error
    have hcld := sshInput_transportDisconnect app oracle hcore.isOpen
      sshDisconnectKeyExchangeFailed error
    refine ⟨m', ⟨hcore.frame hfr, fun h => absurd h (hfr.expire_ne hexp), ?_⟩⟩
    intro hinp
    simp [hcld] at hinp
  | none =>
    obtain ⟨l, a, hl, hkey, ha⟩ := hls rfl
    have ha := ha hne
    -- the method is one of the configuration
    obtain ⟨b, hb, rfl⟩ : ∃ b ∈ ctx.kexinit.kexAlgorithms, some b = a := by
      simpa [makeKexinit, Wire.known] using ha
    obtain ⟨method, hmet⟩ := Option.isSome_iff_exists.mp (ctx.isSome_algorithms b hb)
    exact startExchange_ensures hcore hexp ⟨l, method, hl, by rw [hkey]; exact hmet⟩

theorem frame_sendNewkeys (app oracle) (c : Connection σ η ε) (send) :
    Frame { (if c.alive then c.record (.sent .newkeys formatNewkeys) else c) with writer := send }
      (sendNewkeys app oracle c send) :=
  ((frame_transportSendPacket app oracle c .newkeys formatNewkeys).setWriter send).trans
    (frame_transportFlush app oracle _)

/-- Sending NEWKEYS keeps the invariant. -/
theorem KexInv.sendNewkeys (app oracle) (hc : KexInv ctx c m) (send) :
    KexInv ctx (sendNewkeys app oracle c send) m ∧
      (Transport.sendNewkeys app oracle c send).kex = c.kex ∧
      (Transport.sendNewkeys app oracle c send).newKeys = c.newKeys := by
  have hfr := frame_sendNewkeys app oracle c send
  by_cases hal : c.alive
  · rw [if_pos hal] at hfr
    have hrec : KexInv ctx { c.record (.sent .newkeys formatNewkeys) with writer := send } m :=
      { hc with reads := hc.reads.snoc rfl }
    exact ⟨hrec.frame hfr, hfr.kex, hfr.newKeys⟩
  · rw [if_neg hal] at hfr
    have hwrr : KexInv ctx { c with writer := send } m := { hc with }
    exact ⟨hwrr.frame hfr, hfr.kex, hfr.newKeys⟩

variable {f : Finish}

/-- The objects for receiving are kept until NEWKEYS arrives. -/
theorem keyexchangeFinish_ensures (hc : KexInv ctx c m) (hst : c.kex.readState = .inProgress)
    (hls : c.kex.algorithmList.isSome) :
    Yields (fun r => ∃ m', KexInv ctx r.2 m' ∧ r.2.kex = c.kex ∧
      (r.1 → m'.latest = r.2.newKeys)) (keyexchangeFinish app ctx oracle c f) := by
  obtain ⟨algs, halg⟩ := Option.isSome_iff_exists.mp hls
  rw [keyexchangeFinish, halg]
  dsimp only
  cases makeKeys f.H (kexBuildSecret f.exchangeHash f.K) algs (c.sessionId.getD [])
      ctx.isServer with
  | none => exact ⟨m, hc, rfl, nofun⟩
  | some keys =>
    obtain ⟨receive, send⟩ := keys
    have hkt : KexInv ctx (keepKeys c receive) { m with latest := receive } := { hc with
      reads := hc.reads.snoc rfl
      newKeys := fun h => absurd (hst.symm.trans h) nofun }
    obtain ⟨hd, hkex, hnew⟩ := hkt.sendNewkeys app oracle send
    exact ⟨_, hd, hkex, fun _ => hnew.symm⟩

/-- **A key exchange is finished.** -/
theorem transportKeyexchangeFinish_ensures (hc : KexInv ctx c m)
    (hst : c.kex.readState = .inProgress) (hls : c.kex.algorithmList.isSome) :
    Yields (fun d => ∃ m', KexInv ctx d m') (transportKeyexchangeFinish app ctx oracle c f) := by
  obtain ⟨p, hp⟩ : ∃ p, (if c.sessionId.isNone then
      { c with sessionId := some f.exchangeHash } else c) = p := ⟨_, rfl⟩
  have hpinv : KexInv ctx p m ∧ p.kex = c.kex := by
    rw [← hp]
    split_ifs
    · exact ⟨{ hc with }, rfl⟩
    · exact ⟨hc, rfl⟩
  rw [transportKeyexchangeFinish, hp]
  refine (keyexchangeFinish_ensures hpinv.1 (hpinv.2 ▸ hst) (hpinv.2 ▸ hls)).bind ?_
  rintro ⟨ok, d⟩ ⟨m', hd, hkex, hky⟩
  cases ok with
  | false => exact ⟨m', hd.frame (frame_transportDisconnect app oracle _ _ _)⟩
  | true =>
    have hprg : d.kex.readState = .inProgress := by
      rw [hkex, hpinv.2, hst]
    have hne : d.kex.readState ≠ .init := by
      rw [hprg]
      nofun
    have hnew : ∀ b, KexInv ctx { d with
        kex := { d.kex with readState := .newkeys, writeState := false }
        packetHandler := b } m' := fun b => { hd with
      newKeys := fun _ => hky rfl
      own_ne := fun _ => hd.own_ne hne
      packetHandler := fun _ => .inl rfl
      retry := fun seqno packet h => absurd (hd.retry seqno packet h).1 hne
      reexchange := fun h => absurd (hd.reexchange h).2.1 hne
      handler := fun _ h => by rcases h with h | h <;> exact absurd h nofun }
    simp only [if_true, require_of hprg, ok_bind, ensures_pure]
    split_ifs
    · exact ⟨m', (hnew true).frame (frame_performAll app oracle _ _)⟩
    · exact ⟨m', (hnew _).frame Frame.same_input⟩

/-- **A message of the key exchange arrives.** -/
theorem callHandler_ensures (hc : KexInv ctx c m) (hinp : c.sshInput)
    (hst : c.kex.readState = .inProgress) :
    Yields (fun d => ∃ m', KexInv ctx d m') (callHandler app ctx oracle c packet env) := by
  obtain ⟨hls, hhr⟩ := hc.handler hinp (.inr hst)
  obtain ⟨⟨alg, h⟩, hh⟩ := Option.isSome_iff_exists.mp hhr
  rw [callHandler, hh]
  have hset : KexInv ctx { c with
      keyexchangeHandler := some (alg, (alg.handler h env packet).handler) } m :=
    { hc with handler := fun _ _ => ⟨hls, rfl⟩ }
  have hfr := frame_performAll app oracle { c with
      keyexchangeHandler := some (alg, (alg.handler h env packet).handler) }
    ((alg.handler h env packet).before.map KexAction.toAction)
  have hbef := hset.frame hfr
  have hfin : Yields (fun d => ∃ m', KexInv ctx d m')
      (finishExchange app ctx oracle (performAll app oracle { c with
        keyexchangeHandler := some (alg, (alg.handler h env packet).handler) }
        ((alg.handler h env packet).before.map KexAction.toAction))
        (alg.handler h env packet).finish) := by
    cases (alg.handler h env packet).finish with
    | none => exact ⟨m, hbef⟩
    | some f =>
      refine transportKeyexchangeFinish_ensures hbef ?_ ?_
      · rw [hfr.kex]
        exact hst
      · rw [hfr.kex]
        exact hls
  refine hfin.bind ?_
  rintro d ⟨m', hd⟩
  exact ⟨m', hd.frame (frame_performAll app oracle _ _)⟩

/-- **A packet arrives when NEWKEYS is expected.** -/
theorem kexInv_processNewkeys (packet) (hc : KexInv ctx c m) (hinp : c.sshInput)
    (hst : c.kex.readState = .newkeys) :
    ∃ m', KexInv ctx (processNewkeys app oracle c packet) m' := by
  rw [processNewkeys]
  split_ifs with hhd hlen
  · exact ⟨m, hc.frame (frame_transportDisconnect app oracle c _ _)⟩
  · exact ⟨m, hc.frame (frame_transportDisconnect app oracle c _ _)⟩
  · have hpkt : packet = formatNewkeys := by
      obtain ⟨b, rfl⟩ := List.length_eq_one_iff.mp (not_not.mp hlen)
      rw [not_not, head?_cons, Option.some.injEq] at hhd
      rw [hhd]
      rfl
    have hown : c.kex.readState ≠ .init := by
      rw [hst]
      nofun
    have hkex := hc.kexinit_of_ne hinp (hc.own_ne hown)
    have hno : (⟨none, none⟩ : Sides (Option Kexinit)).get ctx.isServer = none := by
      cases ctx.isServer <;> rfl
    refine ⟨{ m with kexinit := false, accepted := true, installed := m.latest }, ?_⟩
    exact { hc with
      reads := hc.reads.snoc (by simp [Monitor.step, hst, hpkt, hkex])
      reader := hc.newKeys hst
      newKeys := nofun
      own_ne := fun h => absurd rfl h
      own_eq := fun kex h => absurd (hno.symm.trans h) nofun
      kexinit_of_none := fun _ => rfl
      kexinit_of_ne := fun _ h => absurd hno h
      packetHandler := fun _ => .inr rfl
      retry := fun seqno p h => absurd (hc.retry seqno p h).1 hown
      reexchange := fun _ => ⟨hinp, rfl, hno⟩
      handler := fun _ h => by rcases h with h | h <;> cases h }

/-- **A packet is passed on.** -/
theorem kexInv_callPacketHandler (app oracle seqno env) (hc : KexInv ctx c m)
    (hst : c.kex.readState = .init) (hac : m.accepted) (hpkt : ¬isKexMessage packet) :
    KexInv ctx (callPacketHandler app oracle c seqno packet env).2 m ∧
      (callPacketHandler app oracle c seqno packet env).2.kex = c.kex := by
  have hrec : KexInv ctx (c.record (.handled c.kex.readState packet)) m :=
    { hc with reads := hc.reads.snoc (by simp [Monitor.step, hst, hac, hpkt]) }
  have hfr := frame_performAll app oracle (c.record (.handled c.kex.readState packet))
    (app.packet c.app env seqno packet).1
  exact ⟨hrec.frame hfr, hfr.kex⟩

/-- What processing a packet leads to. If the packet is to be processed again, then it is one that
may be passed on. -/
def Processed (ctx : TransportContext η ε) (packet : Octets) (r : Bool × Connection σ η ε) : Prop :=
  ∃ m, KexInv ctx r.2 m ∧
    (r.1 = false → r.2.kex.readState = .init ∧ m.accepted ∧ ¬isKexMessage packet)

theorem processed_done (h : ∃ m, KexInv ctx c m) : Processed ctx packet (true, c) := by
  obtain ⟨m, hm⟩ := h
  exact ⟨m, hm, nofun⟩

variable {seqno : ℕ}

/-- A packet whose treatment depends on the read state. -/
theorem processByState_ensures {body : List UInt8} (hc : KexInv ctx c m) (hinp : c.sshInput)
    (hrt : c.retry = none) :
    Yields (Processed ctx (msg :: body))
      (processByState app ctx oracle c seqno msg (msg :: body) env) := by
  rw [processByState]
  cases hst : c.kex.readState with
  | ignore =>
    have hne : c.kex.readState ≠ .init := by
      rw [hst]
      nofun
    refine processed_done ⟨m, ?_⟩
    exact { hc with
      newKeys := nofun
      own_ne := fun _ => hc.own_ne hne
      packetHandler := fun h => .inr ((hc.packetHandler h).resolve_left (by rw [hst]; nofun))
      retry := fun seqno p h => absurd (hrt.symm.trans h) nofun
      reexchange := fun h => absurd (hc.reexchange h).2.1 hne
      handler := fun h _ => hc.handler h (.inl hst) }
  | inProgress =>
    dsimp only
    split_ifs
    · exact processed_done ⟨m, hc.frame (frame_transportDisconnect app oracle c _ _)⟩
    · exact (callHandler_ensures hc hinp hst).bind fun d hd => processed_done hd
  | newkeys => exact processed_done (kexInv_processNewkeys _ hc hinp hst)
  | init =>
    dsimp only
    split_ifs with hkxi hpass
    · exact (transportKexinitHandler_ensures hc hst hrt).bind fun d hd => processed_done hd
    · have hac := (hc.packetHandler hpass.2).resolve_left (by rw [hst]; nofun)
      have hpkt : ¬isKexMessage (msg :: body) := by
        have hmsg := hpass.1
        simp only [isKexMessage, UInt8.lt_iff_toNat_lt, UInt8.le_iff_toNat_le,
          decide_eq_true_eq] at hmsg ⊢
        omega
      obtain ⟨hd, hkex⟩ := kexInv_callPacketHandler app oracle seqno env hc hst hac hpkt
      exact ⟨m, hd, fun _ => ⟨by rw [hkex, hst], hac, hpkt⟩⟩
    · exact processed_done ⟨m, hc.frame (frame_send app oracle c _)⟩

/-- **One packet.** -/
theorem transportProcessPacket_ensures (hc : KexInv ctx c m) (hinp : c.sshInput)
    (hrt : c.retry = none) :
    Yields (Processed ctx packet) (transportProcessPacket app ctx oracle c seqno packet env) := by
  cases packet with
  | nil => exact processed_done ⟨m, hc.frame (frame_transportDisconnect app oracle c _ _)⟩
  | cons msg body =>
    rw [transportProcessPacket]
    split_ifs
    · exact processed_done ⟨m, hc⟩
    · exact processed_done ⟨m, hc.frame (frame_transportClose app c _)⟩
    · exact processed_done ⟨m, hc.frame (frame_transportClose app c _)⟩
    · exact processed_done ⟨m, hc⟩
    · exact processByState_ensures hc hinp hrt

/-- The line that tells the peer's version, or another line. -/
theorem kexInv_handleLine (text) (hc : KexInv ctx c m) :
    KexInv ctx (handleLine app ctx oracle c text) m := by
  rw [handleLine]
  cases app.line text with
  | ignore => exact hc
  | reject => exact hc.frame (frame_transportDisconnect app oracle c _ _)
  | accept => exact { hc with }

/-- A packet is passed on again. -/
theorem kexInv_retryPacket (env) (hc : KexInv ctx c m) (hrt : c.retry = some (seqno, packet)) :
    KexInv ctx (retryPacket app oracle c seqno packet env) m := by
  obtain ⟨hst, hac, hpkt⟩ := hc.retry seqno packet hrt
  have hno : KexInv ctx { c with retry := none } m := { hc with retry := nofun }
  have hd := (kexInv_callPacketHandler app oracle seqno env hno hst hac hpkt).1
  rw [retryPacket]
  dsimp only
  split_ifs
  · exact hd
  · exact hd.frame (frame_transportDisconnect app oracle _ _ _)

/-- A timer expires. -/
theorem handleTimer_ensures (hc : KexInv ctx c m) :
    Yields (fun d => ∃ m', KexInv ctx d m') (handleTimer app ctx oracle c) := by
  have hno : KexInv ctx { c with expire := none } m := { hc with reexchange := nofun }
  rw [handleTimer]
  cases hexp : c.expire with
  | none => exact ⟨m, hc⟩
  | some timer =>
    cases timer with
    | keyexchange => exact ⟨m, hno.frame (frame_transportDisconnect app oracle _ _ _)⟩
    | close => exact ⟨m, hno.frame (frame_transportConnectionKill app _)⟩
    | reexchange =>
      obtain ⟨-, hst, hown⟩ := hc.reexchange hexp
      refine (transportSendKexinit_ensures hno.toKexCore hst hown).mono ?_
      rintro d ⟨m', hd, -, hst', -, hkex, -⟩
      refine ⟨m', ⟨hd, fun h => absurd (hkex.symm.trans h) nofun, ?_⟩⟩
      rintro - (h | h) <;> simp [hst'] at h

theorem frame_handleWritable (app) (oracle : Oracle) (c : Connection σ η ε) :
    Frame c (handleWritable app oracle c) := by
  rw [handleWritable]
  cases (oracle.outcome c.writes).status with
  | overflow | pending => exact Frame.same_input
  | complete => exact Frame.same_input.trans (frame_transportStopWrite app _ _)
  | ioError => exact Frame.same_input.trans (frame_transportClose app _ _)

theorem frame_handleFailure (app oracle) (c : Connection σ η ε) (failure) :
    Frame c (handleFailure app oracle c failure) := by
  cases failure with
  | ioError | eof => exact frame_transportClose app c _
  | protocolError reason msg => exact frame_transportDisconnect app oracle c reason msg

/-- **Every event** succeeds and keeps the invariant. -/
theorem kexInv_connectionStep (e : Event ε) (hc : KexInv ctx c m) :
    Yields (fun d => ∃ m', KexInv ctx d m') (connectionStep app ctx oracle c e) := by
  cases e with
  | line text =>
    refine ⟨m, ?_⟩
    split_ifs
    · exact kexInv_handleLine text hc
    · exact hc
  | packet seqno packet env =>
    rw [connectionStep]
    split_ifs with hrdy
    · refine (transportProcessPacket_ensures hc hrdy.1 hrdy.2.2).bind ?_
      rintro ⟨done, d⟩ ⟨m', hd, hagain⟩
      cases done with
      | true => exact ⟨m', hd⟩
      | false =>
        refine ⟨m', { hd with retry := ?_ }⟩
        rintro seqno' packet' ⟨⟩
        exact hagain rfl
    · exact ⟨m, hc⟩
  | readFailure failure =>
    refine ⟨m, ?_⟩
    split_ifs
    · exact hc.frame (frame_handleFailure app oracle c failure)
    · exact hc
  | push env =>
    refine ⟨m, ?_⟩
    split_ifs
    · exact hc.frame (frame_performAll app oracle c _)
    · exact hc
  | retry env =>
    rw [connectionStep]
    cases hrt : c.retry with
    | none => exact ⟨m, hc⟩
    | some r =>
      refine ⟨m, ?_⟩
      split_ifs
      · exact kexInv_retryPacket env hc hrt
      · exact hc
  | timer => exact handleTimer_ensures hc
  | writable =>
    refine ⟨m, ?_⟩
    split_ifs
    · exact hc.frame (frame_handleWritable app oracle c)
    · exact hc
  | callback env => exact ⟨m, hc.frame (frame_performAll app oracle c _)⟩

/-- A connection before anything has been sent. -/
theorem kexCore_keepVersion (ctx : TransportContext η ε) (a : σ) (version) :
    KexCore ctx (keepVersion ctx (initTransportConnection a) version) Monitor.start ∧
      ownKexinit ctx (keepVersion ctx (initTransportConnection a) version) = none := by
  have hown : ownKexinit ctx (keepVersion ctx (initTransportConnection a) version) = none := by
    cases hsrv : ctx.isServer <;>
      simp [ownKexinit, hsrv, keepVersion, initTransportConnection, initKexinitState]
  refine ⟨?_, hown⟩
  exact {
    isOpen := fun _ => ⟨rfl, nofun⟩
    reads := rfl
    reader := rfl
    newKeys := nofun
    own_ne := fun h => absurd rfl h
    own_eq := fun kex h => absurd (hown.symm.trans h) nofun
    kexinit_of_none := fun _ => rfl
    kexinit_of_ne := fun _ h => absurd hown h
    packetHandler := nofun
    retry := nofun }

/-- **The start of a connection.** -/
theorem transportHandshake_ensures (a ver written) :
    Yields (fun d => ∃ m', KexInv ctx d m')
      (transportHandshake app ctx oracle (initTransportConnection a) ver written) := by
  obtain ⟨hcore, hown⟩ := kexCore_keepVersion ctx a ver
  have hfr : Frame (keepVersion ctx (initTransportConnection a) ver)
      (if written then keepVersion ctx (initTransportConnection a) ver
        else transportClose app (keepVersion ctx (initTransportConnection a) ver) false) := by
    split_ifs
    · exact Frame.refl _
    · exact frame_transportClose app _ false
  refine (transportSendKexinit_ensures (hcore.frame hfr) ?_ ?_).bind ?_
  · rw [hfr.kex]
    rfl
  · rw [hfr.ownKexinit, hown]
  · rintro d ⟨m', hd, -, hst, -, hexp, -⟩
    refine ⟨m', ⟨{ hd with }, fun h => absurd (hexp.symm.trans h) nofun, ?_⟩⟩
    rintro - (h | h) <;> simp [hst] at h

end Operations

/-! ### What a log that can be read looks like -/

/-- A KEXINIT message of ours. -/
def LogEntry.isKexinit : LogEntry → Bool
  | .sent .kexinit _ => true
  | _ => false

/-- A NEWKEYS message was accepted. -/
def LogEntry.isAccepted : LogEntry → Bool
  | .accepted _ _ => true
  | _ => false

/-- The objects made by the latest `keyexchange_finish`, and those in use for receiving. -/
def keysAfter (keys : DirectionKeys × DirectionKeys) : LogEntry → DirectionKeys × DirectionKeys
  | .finished new => (new, keys.2)
  | .accepted _ _ => (keys.1, keys.1)
  | _ => keys

/-- The objects that should be in use for receiving after a log: those that were the latest when
NEWKEYS was accepted the last time. -/
def installedKeys (log : List LogEntry) : DirectionKeys :=
  (log.foldl keysAfter (⟨none, none, none⟩, ⟨none, none, none⟩)).2

namespace Monitor

variable {log l₁ l₂ : List LogEntry} {m m' : Monitor} {e : LogEntry} {state : KexState}

theorem reads_snoc_iff : Reads (log ++ [e]) m' ↔ ∃ m, Reads log m ∧ m.step e = some m' := by
  simp [Reads, Option.bind_eq_some_iff]

theorem Reads.split (h : Reads (l₁ ++ e :: l₂) m) : ∃ m₁ m₂, Reads l₁ m₁ ∧ m₁.step e = some m₂ := by
  rw [Reads, foldlM_append, Option.bind_eq_bind, Option.bind_eq_some_iff] at h
  obtain ⟨m₁, h₁, h₂⟩ := h
  rw [foldlM_cons, Option.bind_eq_bind, Option.bind_eq_some_iff] at h₂
  obtain ⟨m₂, h₂, -⟩ := h₂
  exact ⟨m₁, m₂, h₁, h₂⟩

theorem Reads.append (h : Reads (l₁ ++ l₂) m) : ∃ m₁, Reads l₁ m₁ := by
  rw [Reads, foldlM_append, Option.bind_eq_bind, Option.bind_eq_some_iff] at h
  obtain ⟨m₁, h₁, -⟩ := h
  exact ⟨m₁, h₁⟩

/-- The possible steps of the automaton, in terms of what is counted. -/
theorem step_cases (h : m.step e = some m') :
    (e.isKexinit ∧ m.kexinit = false ∧ m' = { m with kexinit := true }) ∨
    (e.isAccepted ∧ m.kexinit ∧
      m' = { m with kexinit := false, accepted := true, installed := m.latest }) ∨
    (∃ keys, e = .finished keys ∧ m' = { m with latest := keys }) ∨
    (e.isKexinit = false ∧ e.isAccepted = false ∧ (∀ k, keysAfter k e = k) ∧ m' = m) := by
  cases e with
  | sent origin packet =>
    cases origin with
    | kexinit =>
      rw [step] at h
      split_ifs at h with hk
      cases h
      exact .inl ⟨rfl, by simpa using hk, rfl⟩
    | newkeys | other =>
      cases h
      exact .inr (.inr (.inr ⟨rfl, rfl, fun _ => rfl, rfl⟩))
  | finished keys =>
    cases h
    exact .inr (.inr (.inl ⟨keys, rfl, rfl⟩))
  | accepted state packet =>
    rw [step] at h
    split_ifs at h with hk
    cases h
    exact .inr (.inl ⟨rfl, hk.2.2, rfl⟩)
  | handled state packet =>
    rw [step] at h
    split_ifs at h with hk
    cases h
    exact .inr (.inr (.inr ⟨rfl, rfl, fun _ => rfl, rfl⟩))

theorem Reads.count (h : Reads log m) :
    log.countP LogEntry.isKexinit = log.countP LogEntry.isAccepted + m.kexinit.toNat := by
  induction log using List.reverseRecOn generalizing m with
  | nil =>
    cases h
    rfl
  | append_singleton log e ih =>
    obtain ⟨m₁, h₁, he⟩ := reads_snoc_iff.mp h
    have ih := ih h₁
    simp only [countP_append, countP_singleton]
    obtain ⟨hk, hm, rfl⟩ | ⟨ha, hm, rfl⟩ | ⟨keys, rfl, rfl⟩ | ⟨hk, ha, -, rfl⟩ := step_cases he
    · have ha : e.isAccepted = false := by
        cases e with
        | sent _ _ => rfl
        | _ => cases hk
      rw [hm] at ih
      simp only [hk, ha, if_true, Bool.false_eq_true, if_false, Bool.toNat_true,
        Bool.toNat_false] at ih ⊢
      omega
    · have hk : e.isKexinit = false := by
        cases e with
        | accepted _ _ => rfl
        | _ => cases ha
      rw [hm] at ih
      simp only [hk, ha, if_true, Bool.false_eq_true, if_false, Bool.toNat_true,
        Bool.toNat_false] at ih ⊢
      omega
    · simpa [LogEntry.isKexinit, LogEntry.isAccepted] using ih
    · simpa [hk, ha] using ih

theorem Reads.exists_accepted (h : Reads log m) (hac : m.accepted) :
    ∃ state packet, .accepted state packet ∈ log := by
  induction log using List.reverseRecOn generalizing m with
  | nil =>
    cases h
    cases hac
  | append_singleton log e ih =>
    obtain ⟨m₁, h₁, he⟩ := reads_snoc_iff.mp h
    have hpv : m₁.accepted → ∃ state packet, LogEntry.accepted state packet ∈ log ++ [e] := by
      intro h
      obtain ⟨state, packet, hmem⟩ := ih h₁ h
      exact ⟨state, packet, mem_append_left _ hmem⟩
    obtain ⟨-, -, rfl⟩ | ⟨ha, -, -⟩ | ⟨keys, -, rfl⟩ | ⟨-, -, -, rfl⟩ := step_cases he
    · exact hpv hac
    · cases e with
      | accepted state packet => exact ⟨state, packet, by simp⟩
      | _ => cases ha
    · exact hpv hac
    · exact hpv hac

theorem Reads.keys (h : Reads log m) :
    log.foldl keysAfter (⟨none, none, none⟩, ⟨none, none, none⟩) = (m.latest, m.installed) := by
  induction log using List.reverseRecOn generalizing m with
  | nil =>
    cases h
    rfl
  | append_singleton log e ih =>
    obtain ⟨m₁, h₁, he⟩ := reads_snoc_iff.mp h
    rw [foldl_append, ih h₁]
    obtain ⟨hk, -, rfl⟩ | ⟨ha, -, rfl⟩ | ⟨keys, rfl, rfl⟩ | ⟨-, -, hky, rfl⟩ := step_cases he
    · cases e with
      | sent _ _ => rfl
      | _ => cases hk
    · cases e with
      | accepted _ _ => rfl
      | _ => cases ha
    · rfl
    · exact hky _

theorem Reads.handled (h : Reads (l₁ ++ .handled state packet :: l₂) m) :
    state = .init ∧ (∃ state' packet', .accepted state' packet' ∈ l₁) ∧ ¬isKexMessage packet := by
  obtain ⟨m₁, m₂, h₁, he⟩ := h.split
  rw [step] at he
  split_ifs at he with hk
  exact ⟨hk.1, h₁.exists_accepted hk.2.1, hk.2.2⟩

theorem Reads.accepted (h : Reads (l₁ ++ .accepted state packet :: l₂) m) :
    state = .newkeys ∧ packet = formatNewkeys ∧
      l₁.countP LogEntry.isKexinit = l₁.countP LogEntry.isAccepted + 1 := by
  obtain ⟨m₁, m₂, h₁, he⟩ := h.split
  rw [step] at he
  split_ifs at he with hk
  refine ⟨hk.1, hk.2.1, ?_⟩
  rw [h₁.count, hk.2.2]
  rfl

theorem Reads.count_le (h : Reads (l₁ ++ l₂) m) :
    l₁.countP LogEntry.isKexinit ≤ l₁.countP LogEntry.isAccepted + 1 := by
  obtain ⟨m₁, h₁⟩ := h.append
  rw [h₁.count]
  have := Bool.toNat_le m₁.kexinit
  omega

end Monitor

/-! ### Runs -/

/-- **The key exchange state machine.** For every application, configuration, key exchange methods
and outcomes of our writes, and every list of events:

* no assertion fails;
* `packet_handler` is called only in the state `KEX_STATE_INIT`, after some NEWKEYS message has
  been accepted, and not for the messages of the key exchange;
* the objects for receiving change only when the NEWKEYS message is accepted in the state
  `KEX_STATE_NEWKEYS`, and then to those that the latest `keyexchange_finish` made;
* when NEWKEYS is accepted, exactly one KEXINIT has been sent since the last time, it never
  happens that two are sent in one exchange, and one has been sent as soon as the exchange has
  started. -/
theorem runConnection_keyExchange (app : App σ ε) (ctx : TransportContext η ε) (oracle : Oracle)
    (a : σ) (version : Octets) (written : Bool) (events : List (Event ε)) :
    ∃ c, runConnection app ctx oracle a version written events = .ok c ∧
      (∀ l₁ state packet l₂, c.log = l₁ ++ .handled state packet :: l₂ →
        state = .init ∧ (∃ state' packet', .accepted state' packet' ∈ l₁) ∧
          ¬isKexMessage packet) ∧
      c.reader = installedKeys c.log ∧
      (∀ l₁ state packet l₂, c.log = l₁ ++ .accepted state packet :: l₂ →
        state = .newkeys ∧ packet = formatNewkeys ∧
          l₁.countP LogEntry.isKexinit = l₁.countP LogEntry.isAccepted + 1) ∧
      (∀ l₁ l₂, c.log = l₁ ++ l₂ →
        l₁.countP LogEntry.isKexinit ≤ l₁.countP LogEntry.isAccepted + 1) ∧
      (c.sshInput → c.kex.readState ≠ .init →
        c.log.countP LogEntry.isKexinit = c.log.countP LogEntry.isAccepted + 1) := by
  have hrun : Ensures (fun _ => False) (fun c => ∃ m, KexInv ctx c m)
      (runConnection app ctx oracle a version written events) := by
    refine (transportHandshake_ensures a version written).bind fun c hc => ?_
    refine run_of_guarded (G := fun _ _ => True) ?_ hc ?_
    · rintro c e ⟨m, hm⟩ -
      exact kexInv_connectionStep e hm
    · exact guarded_of_forall (fun _ _ _ => trivial) c
  obtain ⟨c, hc, m, hm⟩ := hrun.exists_ok
  refine ⟨c, hc, ?_, ?_, ?_, ?_, ?_⟩
  · intro l₁ state packet l₂ hlog
    exact Monitor.Reads.handled (hlog ▸ hm.reads)
  · rw [installedKeys, hm.reads.keys, hm.reader]
  · intro l₁ state packet l₂ hlog
    exact Monitor.Reads.accepted (hlog ▸ hm.reads)
  · intro l₁ l₂ hlog
    exact Monitor.Reads.count_le (hlog ▸ hm.reads)
  · intro hinp hst
    rw [hm.reads.count, hm.kexinit_of_ne hinp (hm.own_ne hst)]
    rfl

end Lsh.Transport
