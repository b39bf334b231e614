
import Lsh.Lshd.Server
import Lsh.Transport.DiffieHellman
import Lsh.Transport.KeyExchange

/-!
# The quiet period of a key exchange

After KEXINIT and until NEWKEYS a side must not send messages of the application, nor requests
for services or answers to them. The source says so where it sends KEXINIT ("no more data can be
sent"), and enforces it by telling the application to stop: `transport_send_kexinit` calls the
event handler, `forward_event_handler` stops reading from the service, and what is not read is not
forwarded.

Before a service is started, however, the event handler is `lshd_event_handler`, which ignores the
event. If the server starts a key exchange on its own then, and the client's request for a service
is on its way, the request is answered at once, in the quiet period, and `transport_forward_setup`
starts to read from the service although the application has been told to stop.

## Main results

* `run_connectionStep_quiet` — the period is quiet in every run in which no request that starts a
  service is received while it lasts
* `runConnection_not_quiet` — a run in which SERVICE_ACCEPT is sent in the quiet period
-/

namespace Lsh.Lshd

open Kex Machine Transport List

/-! ### The property -/

/-- A message of the application, or one about services. -/
def isServiceMessage (packet : Octets) : Bool :=
  match packet with
  | [] => false
  | msg :: _ => msg = 5 ∨ msg = 6 ∨ 50 ≤ msg

variable {packet : Octets}

theorem not_isServiceMessage_of_isKexMessage (h : isKexMessage packet) :
    ¬isServiceMessage packet := by
  cases packet with
  | nil => nofun
  | cons msg body =>
    simp only [isKexMessage, isServiceMessage, UInt8.lt_iff_toNat_lt, UInt8.le_iff_toNat_le,
      ← UInt8.toNat_inj, decide_eq_true_eq] at h ⊢
    have h5 : (5 : UInt8).toNat = 5 := rfl
    have h6 : (6 : UInt8).toNat = 6 := rfl
    have h20 : (20 : UInt8).toNat = 20 := rfl
    omega

/-- Whether the period is a quiet one, after an entry of the log. -/
def quietAfter (quiet : Bool) : LogEntry → Bool
  | .sent .kexinit _ => true
  | .sent .newkeys _ => false
  | _ => quiet

/-- Whether the period is a quiet one at the end of a log. -/
def isQuiet (log : List LogEntry) : Bool := log.foldl quietAfter false

/-- An entry that must not occur in a quiet period. -/
def isLoud : LogEntry → Bool
  | .sent _ packet => isServiceMessage packet
  | _ => false

/-- **Quiet periods are quiet.** -/
def Respected (log : List LogEntry) : Prop :=
  ∀ l₁ e l₂, log = l₁ ++ e :: l₂ → isQuiet l₁ → ¬isLoud e

theorem isQuiet_snoc (log e) : isQuiet (log ++ [e]) = quietAfter (isQuiet log) e := by
  rw [isQuiet, foldl_append]
  rfl

theorem isQuiet_others (log) (pkts : List Octets) :
    isQuiet (log ++ pkts.map (.sent .other)) = isQuiet log := by
  induction pkts generalizing log with
  | nil => rw [map_nil, append_nil]
  | cons p pkts ih =>
    rw [map_cons, append_cons, ih, isQuiet_snoc]
    rfl

variable {log : List LogEntry}

theorem Respected.snoc {e : LogEntry} (h : Respected log) (he : isQuiet log → ¬isLoud e) :
    Respected (log ++ [e]) := by
  intro l₁ e' l₂ hlog
  rcases eq_nil_or_concat l₂ with rfl | ⟨l, b, rfl⟩
  · obtain ⟨rfl, h⟩ := append_inj' hlog rfl
    cases h
    exact he
  · rw [concat_eq_append, ← cons_append, ← append_assoc] at hlog
    exact h l₁ e' l (append_inj' hlog rfl).1

/-! ### What the invariant says about the application -/

/-- The service is read only outside of quiet periods, and there is a service only after the first
key exchange. -/
structure AppOk (writeState session : Bool) (s : LshdState) : Prop where
  active : s.serviceReadActive → s.forward ∧ writeState = false
  session : s.forward → session

variable {s : LshdState} {writeState session : Bool}

theorem AppOk.notify {n : Notice} (h : AppOk writeState session s)
    (hstr : n = .start → writeState = false) :
    AppOk writeState session (notify s n) ∧ (s.forward → (Lshd.notify s n).forward) := by
  cases n with
  | start =>
    rw [Lshd.notify]
    split_ifs with hfwd
    · exact ⟨⟨fun _ => ⟨hfwd, hstr rfl⟩, h.session⟩, id⟩
    · exact ⟨h, id⟩
  | stop =>
    rw [Lshd.notify]
    split_ifs
    · exact ⟨⟨nofun, h.session⟩, id⟩
    · exact ⟨h, id⟩
  | close =>
    rw [Lshd.notify]
    split_ifs
    · exact ⟨⟨h.active, h.session⟩, id⟩
    · exact ⟨h, id⟩
  | kill => exact ⟨⟨h.active, h.session⟩, id⟩

/-- A key exchange method sends only messages of the key exchange. -/
structure SendsKex {η ε : Type} (k : KeyexchangeAlgorithm η ε) : Prop where
  init : ∀ view env packet, .send packet ∈ (k.init view env).1 → isKexMessage packet
  before : ∀ h env msg packet, .send packet ∈ (k.handler h env msg).before → isKexMessage packet
  after : ∀ h env msg packet, .send packet ∈ (k.handler h env msg).after → isKexMessage packet

/-- A handler that fails sends nothing of its own. -/
theorem not_send_mem_dhFailed (self : DhHandler) (msg : String) (packet : Octets) :
    KexAction.send packet ∉ (dhFailed self msg).before := by
  simp [dhFailed]

theorem isKexMessage_of_mem_serverDhHandler (params : DhParams) (self : DhHandler)
    (msg packet : Octets) (h : .send packet ∈ (serverDhHandler params self msg).before) :
    isKexMessage packet := by
  rw [serverDhHandler] at h
  split_ifs at h
  · exact absurd h (not_send_mem_dhFailed self _ packet)
  · split at h
    · dsimp only at h
      split at h
      · rw [mem_singleton, KexAction.send.injEq] at h
        rw [h]
        rfl
      · exact absurd h (not_send_mem_dhFailed _ _ packet)
    · exact absurd h (not_send_mem_dhFailed self _ packet)

/-- **The server's key exchange** is such a method: it sends KEXDH_REPLY only. -/
theorem sendsKex_makeServerDhExchange {ε : Type} (params : DhParams)
    (keys : Option Atom → Option Keypair) (random : ε → ℕ) :
    SendsKex (makeServerDhExchange params keys random) := by
  refine ⟨fun view env packet h => ?_, fun self env msg packet h => ?_,
    fun self env msg packet h => ?_⟩
  · have hnil : (serverDhInit params keys view (random env)).1 = [] := by
      rw [serverDhInit]
      split <;> rfl
    have hmem : .send packet ∈ (serverDhInit params keys view (random env)).1 := h
    rw [hnil] at hmem
    exact absurd hmem not_mem_nil
  · exact isKexMessage_of_mem_serverDhHandler params self msg packet h
  · have hnil : (serverDhHandler params self msg).after = [] := by
      rw [serverDhHandler]
      split_ifs
      · rfl
      · split
        · dsimp only
          split <;> rfl
        · rfl
    rw [makeServerDhExchange_handler, hnil] at h
    exact absurd h not_mem_nil

variable {η : Type} {c d : Connection LshdState η LshdEnv}

/-- **The invariant** of quiet periods. -/
structure QuietInv (c : Connection LshdState η LshdEnv) : Prop where
  writeState : c.alive → isQuiet c.log → c.kex.writeState
  respected : Respected c.log
  app : AppOk c.kex.writeState c.sessionId.isSome c.app
  session : c.packetHandler → c.sessionId.isSome
  retry : c.retry.isSome → c.app.forward
  method : ∀ k h, c.keyexchangeHandler = some (k, h) → SendsKex k

namespace QuietInv

variable {services : List Octets} {oracle : Oracle}

section
variable (h : QuietInv c)
include h

theorem setApp (hs : AppOk c.kex.writeState c.sessionId.isSome s)
    (hfwd : c.app.forward → s.forward) : QuietInv { c with app := s } :=
  { h with app := hs, retry := hfwd ∘ h.retry }

/-- Nothing else matters. A connection may be killed. -/
theorem congr (hal : d.alive → c.alive) (hkex : d.kex = c.kex)
    (hlog : d.log = c.log) (hses : d.sessionId = c.sessionId) (happ : d.app = c.app)
    (hhr : d.packetHandler = c.packetHandler) (hrt : d.retry = c.retry)
    (hmet : d.keyexchangeHandler = c.keyexchangeHandler) : QuietInv d := by
  constructor
  · rw [hkex, hlog]
    exact fun ha => h.writeState (hal ha)
  · rw [hlog]
    exact h.respected
  · rw [hkex, hses, happ]
    exact h.app
  · rw [hhr, hses]
    exact h.session
  · rw [hrt, happ]
    exact h.retry
  · rw [hmet]
    exact h.method

theorem transportConnectionKill : QuietInv (transportConnectionKill (lshd services) c) := by
  rw [Transport.transportConnectionKill]
  split_ifs
  · obtain ⟨hs, hfwd⟩ := h.app.notify (n := .kill) (by simp)
    exact (h.setApp hs hfwd).congr (by simp) rfl rfl rfl rfl rfl rfl rfl
  · exact h

theorem transportClose (flush) : QuietInv (transportClose (lshd services) c flush) := by
  obtain ⟨hs, hfwd⟩ := h.app.notify (n := .close) nofun
  have hcld : QuietInv (closeInput (lshd services) c) :=
    (h.setApp hs hfwd).congr id rfl rfl rfl rfl rfl rfl rfl
  rw [Transport.transportClose]
  split_ifs
  · exact hcld.congr id rfl rfl rfl rfl rfl rfl rfl
  · exact hcld.transportConnectionKill
  · exact h

theorem transportStartWrite (full) : QuietInv (transportStartWrite (lshd services) c full) := by
  have hact : QuietInv { c with writeActive := true } :=
    h.congr id rfl rfl rfl rfl rfl rfl rfl
  rw [Transport.transportStartWrite]
  split_ifs
  · obtain ⟨hs, hfwd⟩ := hact.app.notify (n := .stop) (by simp)
    exact hact.setApp hs hfwd
  · exact hact

theorem transportStopWrite (full) : QuietInv (transportStopWrite (lshd services) c full) := by
  have hina : QuietInv { c with writeActive := false } :=
    h.congr id rfl rfl rfl rfl rfl rfl rfl
  rw [Transport.transportStopWrite]
  split_ifs with hact hclg hstr
  · exact transportConnectionKill (h.congr id rfl rfl rfl rfl rfl rfl rfl)
  · obtain ⟨hs, hfwd⟩ := hina.app.notify (n := .start) fun _ => by
      simpa using hstr.1
    exact hina.setApp hs hfwd
  · exact hina
  · exact h

theorem afterWrite (o) : QuietInv (afterWrite (lshd services) c o) := by
  rw [Transport.afterWrite]
  cases o.status with
  | overflow | ioError => exact h.transportClose false
  | pending => exact h.transportStartWrite o.almostFull
  | complete => exact h.transportStopWrite o.almostFull

/-- **A packet is sent.** It may not be a message of the application if data has been stopped, and
KEXINIT is sent only then. -/
theorem transportSendPacket {origin : Origin} (hpkt : c.kex.writeState → ¬isServiceMessage packet)
    (horigin : origin = .kexinit → c.kex.writeState) :
    QuietInv (transportSendPacket (lshd services) oracle c origin packet) := by
  rw [Transport.transportSendPacket]
  split_ifs with hal
  · have hrec : QuietInv (c.record (.sent origin packet)) := ?_
    · refine afterWrite ?_ _
      exact hrec.congr id rfl rfl rfl rfl rfl rfl rfl
    refine { h with writeState := ?_, respected := ?_ }
    · intro _ hqt
      rw [Connection.record, isQuiet_snoc] at hqt
      cases origin with
      | kexinit => exact horigin rfl
      | newkeys => cases hqt
      | other => exact h.writeState hal hqt
    · exact h.respected.snoc fun hqt => hpkt (h.writeState hal hqt)
  · exact h

theorem transportFlush : QuietInv (transportFlush (lshd services) oracle c) := by
  rw [Transport.transportFlush]
  split_ifs
  · refine afterWrite ?_ _
    exact h.congr id rfl rfl rfl rfl rfl rfl rfl
  · exact h

theorem transportDisconnect (reason msg) :
    QuietInv (transportDisconnect (lshd services) oracle c reason msg) := by
  refine transportClose ?_ true
  split_ifs
  · exact h.transportSendPacket (fun _ => nofun) nofun
  · exact h

end

end QuietInv

/-- An action that is allowed with this write state. -/
def ActionOk (writeState session : Bool) : Action LshdState → Prop
  | .send packet => writeState → ¬isServiceMessage packet
  | .become f => ∀ s, AppOk writeState session s →
    AppOk writeState session (f s) ∧ (s.forward → (f s).forward)
  | _ => True

namespace QuietInv

variable {services : List Octets} {oracle : Oracle}

theorem perform {a : Action LshdState} (h : QuietInv c)
    (ha : ActionOk c.kex.writeState c.sessionId.isSome a) :
    QuietInv (perform (lshd services) oracle c a) := by
  cases a with
  | send packet => exact h.transportSendPacket ha nofun
  | flush => exact h.transportFlush
  | disconnect reason msg => exact h.transportDisconnect reason msg
  | close flush => exact h.transportClose flush
  | become f => exact h.setApp (ha _ h.app).1 (ha _ h.app).2

/-- **Handlers** whose actions are allowed. -/
theorem performAll {actions : List (Action LshdState)} (h : QuietInv c)
    (hactions : ∀ a ∈ actions, ActionOk c.kex.writeState c.sessionId.isSome a) :
    QuietInv (performAll (lshd services) oracle c actions) := by
  induction actions generalizing c with
  | nil => exact h
  | cons a actions ih =>
    have hfr := frame_perform (lshd services) oracle c a
    refine ih (h.perform (hactions a mem_cons_self)) fun b hb => ?_
    rw [hfr.kex, hfr.sessionId]
    exact hactions b (mem_cons_of_mem _ hb)

/-- A key exchange method acts. -/
theorem performKex (h : QuietInv c) {actions : List KexAction}
    (hactions : ∀ packet, .send packet ∈ actions → isKexMessage packet) :
    QuietInv (Transport.performAll (lshd services) oracle c (actions.map KexAction.toAction)) := by
  refine h.performAll fun a ha => ?_
  obtain ⟨k, hk, rfl⟩ := List.mem_map.mp ha
  cases k with
  | send packet =>
    intro _
    exact not_isServiceMessage_of_isKexMessage (hactions packet hk)
  | disconnect reason msg => trivial

end QuietInv

/-! ### Each operation keeps the invariant -/

variable {env : LshdEnv}

section Operations

variable {services : List Octets} {ctx : TransportContext η LshdEnv} {oracle : Oracle}

/-- Data is stopped, and then KEXINIT may be sent. -/
theorem QuietInv.prepareKexinit (h : QuietInv c) (kex) :
    QuietInv (prepareKexinit (lshd services) ctx c kex) := by
  have happ : AppOk true c.sessionId.isSome
      (if c.sessionId.isSome then notify c.app .stop else c.app) ∧
      (c.app.forward → (if c.sessionId.isSome then notify c.app .stop else c.app).forward) := by
    split_ifs with hses
    · obtain ⟨hs, hforward⟩ := h.app.notify (n := .stop) nofun
      refine ⟨⟨fun hact => ?_, hs.session⟩, hforward⟩
      rw [notify] at hact
      split_ifs at hact with hfwd
      · cases hact
      · exact absurd (h.app.active hact).1 hfwd
    · have hfwd : ¬c.app.forward := fun hf => hses (h.app.session hf)
      exact ⟨⟨fun hact => absurd (h.app.active hact).1 hfwd, h.app.session⟩, id⟩
  exact { h with writeState := fun _ _ => rfl, app := happ.1, retry := happ.2 ∘ h.retry }

/-- **Sending KEXINIT.** -/
theorem quietInv_transportSendKexinit (h : QuietInv c) :
    Returns (fun d => QuietInv d ∧ ∃ own, d.kex.kexinit.get ctx.isServer = some own)
      (transportSendKexinit (lshd services) ctx oracle c) := by
  rw [transportSendKexinit]
  obtain ⟨kex, hkex⟩ : ∃ kex, makeKexinit ctx.kexinit (oracle.cookie c.writes) = kex := ⟨_, rfl⟩
  rw [hkex]
  have hprep : QuietInv (Transport.prepareKexinit (lshd services) ctx c kex) :=
    h.prepareKexinit kex
  by_cases hst : (Transport.prepareKexinit (lshd services) ctx c kex).kex.readState = .init
  · rw [require_of hst]
    have hsent : QuietInv (transportSendPacket (lshd services) oracle
        (Transport.prepareKexinit (lshd services) ctx c kex) .kexinit (formatKexinit kex)) :=
      hprep.transportSendPacket (fun _ => Bool.false_ne_true) fun _ => rfl
    refine ⟨hsent.congr id rfl rfl rfl rfl rfl rfl rfl, kex, ?_⟩
    rw [kex_transportSendPacket]
    exact Sides.get_set_self _ _ _
  · rw [require_of_not hst]
    trivial

/-- After NEWKEYS the period is no longer quiet. -/
theorem not_isQuiet_sendNewkeys (c : Connection LshdState η LshdEnv) (send)
    (hal : (sendNewkeys (lshd services) oracle c send).alive) :
    isQuiet (sendNewkeys (lshd services) oracle c send).log = false := by
  have hfr := frame_sendNewkeys (lshd services) oracle c send
  by_cases hc : c.alive
  · rw [if_pos hc] at hfr
    obtain ⟨pkts, hlog⟩ := hfr.log
    rw [hlog, isQuiet_others]
    exact isQuiet_snoc c.log _
  · rw [if_neg hc] at hfr
    exact absurd (hfr.alive hal) hc

/-- **Making keys.** If it succeeds, the quiet period is over. -/
theorem quietInv_keyexchangeFinish (h : QuietInv c) (f : Finish) :
    Returns (fun r => QuietInv r.2 ∧ r.2.sessionId = c.sessionId ∧
      (r.1 → r.2.alive → isQuiet r.2.log = false))
      (keyexchangeFinish (lshd services) ctx oracle c f) := by
  rw [keyexchangeFinish]
  cases c.kex.algorithmList with
  | none => trivial
  | some algs =>
    dsimp only
    cases makeKeys f.H (kexBuildSecret f.exchangeHash f.K) algs (c.sessionId.getD [])
        ctx.isServer with
    | none => exact ⟨h, rfl, by simp⟩
    | some keys =>
      obtain ⟨receive, send⟩ := keys
      have hkt : QuietInv (keepKeys c receive) := by
        refine { h with writeState := fun ha hqt => ?_, respected := ?_ }
        · rw [keepKeys, isQuiet_snoc] at hqt
          exact h.writeState ha hqt
        · exact h.respected.snoc fun _ => Bool.false_ne_true
      refine ⟨?_, ?_, fun _ => not_isQuiet_sendNewkeys _ _⟩
      swap
      · refine (frame_sendNewkeys (lshd services) oracle (keepKeys c receive) send).sessionId.trans
          ?_
        split_ifs <;> rfl
      have hsent : QuietInv (transportSendPacket (lshd services) oracle (keepKeys c receive)
          .newkeys formatNewkeys) := hkt.transportSendPacket (fun _ => Bool.false_ne_true) (by simp)
      exact QuietInv.transportFlush (hsent.congr id rfl rfl rfl rfl rfl rfl rfl)

/-- **Finishing an exchange.** -/
theorem quietInv_transportKeyexchangeFinish (h : QuietInv c) (f : Finish) :
    Returns QuietInv (transportKeyexchangeFinish (lshd services) ctx oracle c f) := by
  obtain ⟨p, hp⟩ : ∃ p, (if c.sessionId.isNone then
      { c with sessionId := some f.exchangeHash } else c) = p := ⟨_, rfl⟩
  have hpinv : QuietInv p ∧ p.sessionId.isSome := by
    rw [← hp]
    split_ifs with hses
    · exact ⟨{ h with app := ⟨h.app.active, fun _ => rfl⟩, session := fun _ => rfl }, rfl⟩
    · exact ⟨h, by simpa [Option.isSome_iff_ne_none] using hses⟩
  rw [transportKeyexchangeFinish, hp]
  refine (quietInv_keyexchangeFinish hpinv.1 f).bind ?_
  rintro ⟨ok, d⟩ ⟨hd, hses, hqt⟩
  cases ok with
  | false => exact hd.transportDisconnect _ _
  | true =>
    have hsome : d.sessionId.isSome := by
      rw [hses]
      exact hpinv.2
    have hnew : ∀ b, QuietInv { d with
        kex := { d.kex with readState := .newkeys, writeState := false }
        packetHandler := b } := fun b =>
      { hd with
        writeState := fun ha hq => absurd ((hqt rfl ha).symm.trans hq) (by simp)
        app := ⟨fun hact => ⟨(hd.app.active hact).1, rfl⟩, hd.app.session⟩
        session := fun _ => hsome }
    simp only [if_true]
    by_cases hst : d.kex.readState = .inProgress
    · rw [require_of hst]
      split_ifs
      · exact hnew true
      · obtain ⟨hs, hfwd⟩ := (hnew d.packetHandler).app.notify (n := .start) fun _ => rfl
        exact (hnew d.packetHandler).setApp hs hfwd
    · rw [require_of_not hst]
      trivial

theorem quietInv_startExchange (h : QuietInv c) (hmet : ∀ l a, c.kex.algorithmList = some l →
      Algorithm.asKeyexchange l.keyExchange = some a → SendsKex a) :
    Returns QuietInv (startExchange (lshd services) ctx oracle c env) := by
  rw [startExchange]
  cases hl : c.kex.algorithmList with
  | none => trivial
  | some l =>
    rw [Option.bind_some]
    cases ha : Algorithm.asKeyexchange l.keyExchange with
    | none => trivial
    | some a =>
      have hkex := hmet l a hl ha
      obtain ⟨actions, handler, hini⟩ : ∃ actions handler,
          a.init (kexView ctx c.kex) env = (actions, handler) := ⟨_, _, rfl⟩
      have hprf : QuietInv (performAll (lshd services) oracle c (actions.map KexAction.toAction)) :=
        h.performKex fun packet hp => hkex.init _ env packet (by rw [hini]; exact hp)
      have hset : QuietInv { performAll (lshd services) oracle c
          (actions.map KexAction.toAction) with
            keyexchangeHandler := handler.map fun h => (a, h) } := by
        refine { hprf with method := fun k h' heq => ?_ }
        obtain ⟨_, -, heq⟩ := Option.map_eq_some_iff.mp heq
        cases heq
        exact hkex
      simp only [hini, ensures_ok]
      split_ifs
      · exact hset
      · exact hset.transportDisconnect _ _

variable (hctx : ∀ a k, Algorithm.asKeyexchange (ctx.algorithms a) = some k → SendsKex k)

include hctx

/-- **A KEXINIT message arrives.** -/
theorem quietInv_transportKexinitHandler (h : QuietInv c) :
    Returns QuietInv (transportKexinitHandler (lshd services) ctx oracle c packet env) := by
  have hsent : Returns
      (fun d => QuietInv d ∧ ∃ own, d.kex.kexinit.get ctx.isServer = some own)
      (sendOwnKexinit (lshd services) ctx oracle c) := by
    rw [sendOwnKexinit]
    split_ifs with hown
    · exact ⟨h, Option.isSome_iff_exists.mp hown⟩
    · exact quietInv_transportSendKexinit h
  refine hsent.bind ?_
  rintro d ⟨hd, own, hown⟩
  refine ((handleKexinit_ensures d.kex packet ctx.algorithms ctx.isServer).imp
    (fun _ _ => trivial) fun r hr => hr own hown).bind ?_
  rintro ⟨error, kex⟩ ⟨-, hwr, -, hls⟩
  have hkex : QuietInv { d with kex := kex } :=
    { hd with
      writeState := fun ha hq => hwr.trans (hd.writeState ha hq)
      app := hwr ▸ hd.app }
  cases error with
  | some error => exact hkex.transportDisconnect _ _
  | none =>
    refine quietInv_startExchange hkex fun l k hl hk => ?_
    obtain ⟨l', a, hl', hkey, -⟩ := hls rfl
    obtain rfl : l = l' := Option.some.inj (hl.symm.trans hl')
    cases a with
    | none =>
      rw [hkey] at hk
      cases hk
    | some a => exact hctx a k (by rw [← hk, hkey]; rfl)

omit hctx in
/-- **A message of the key exchange arrives.** -/
theorem quietInv_callHandler (h : QuietInv c) :
    Returns QuietInv (callHandler (lshd services) ctx oracle c packet env) := by
  rw [callHandler]
  cases hmet : c.keyexchangeHandler with
  | none => trivial
  | some method =>
    obtain ⟨k, st⟩ := method
    have hkex := h.method k st hmet
    have hset : QuietInv { c with
        keyexchangeHandler := some (k, (k.handler st env packet).handler) } := by
      refine { h with method := ?_ }
      rintro _ _ ⟨⟩
      exact hkex
    have hbef : QuietInv (performAll (lshd services) oracle { c with
        keyexchangeHandler := some (k, (k.handler st env packet).handler) }
        ((k.handler st env packet).before.map KexAction.toAction)) :=
      hset.performKex (hkex.before st env packet)
    have hfin : Returns QuietInv (finishExchange (lshd services) ctx oracle
        (performAll (lshd services) oracle { c with
          keyexchangeHandler := some (k, (k.handler st env packet).handler) }
          ((k.handler st env packet).before.map KexAction.toAction))
        (k.handler st env packet).finish) := by
      cases (k.handler st env packet).finish with
      | none => exact hbef
      | some f => exact quietInv_transportKeyexchangeFinish hbef f
    exact hfin.bind fun d hd => hd.performKex (hkex.after st env packet)

omit hctx in
theorem quietInv_processNewkeys (h : QuietInv c) (packet) :
    QuietInv (processNewkeys (lshd services) oracle c packet) := by
  rw [processNewkeys]
  split_ifs
  · exact h.transportDisconnect _ _
  · exact h.transportDisconnect _ _
  · refine { h with writeState := fun ha hqt => ?_, respected := ?_ }
    · rw [Connection.record, isQuiet_snoc] at hqt
      exact h.writeState ha hqt
    · exact h.respected.snoc fun _ => Bool.false_ne_true

end Operations

/-! ### What the application does -/

variable {services : List Octets} {seqno : ℕ}

/-- The actions for a packet are allowed, unless it starts a service in a quiet period. -/
theorem actionOk_packet (hses : session)
    (hguard : startsService services env packet → writeState → s.forward) :
    ∀ a ∈ ((lshd services).packet s env seqno packet).1, ActionOk writeState session a := by
  have hunim : ActionOk writeState session (.send (formatUnimplemented seqno)) :=
    fun _ => nofun
  intro a ha
  simp only [lshd] at ha
  split_ifs at ha with hfwd
  · simp only [forwardPacketHandler] at ha
    split_ifs at ha
    · rw [List.mem_singleton.mp ha]
      exact hunim
    · cases ha
    · rw [List.mem_singleton.mp ha]
      trivial
    · cases ha
  · simp only [lshdPacketHandler] at ha
    split_ifs at ha
    · simp only [lshdServiceRequestHandler] at ha
      cases hparse : parseServiceRequest packet with
      | none =>
        rw [hparse] at ha
        rw [List.mem_singleton.mp ha]
        trivial
      | some name =>
        simp only [hparse] at ha
        split_ifs at ha with hnm hspd
        · -- the service is started
          have hwr : ¬writeState := fun hw =>
            hfwd (hguard (by simp [startsService, hparse, hnm, hspd]) hw)
          rcases List.mem_cons.mp ha with rfl | ha
          · exact fun hw => absurd hw hwr
          · rw [List.mem_singleton.mp ha]
            exact fun s hs => ⟨⟨fun _ => ⟨rfl, by simpa using hwr⟩, fun _ => hses⟩, fun _ => rfl⟩
        · rw [List.mem_singleton.mp ha]
          trivial
        · rw [List.mem_singleton.mp ha]
          trivial
    · rw [List.mem_singleton.mp ha]
      exact hunim

/-- Only forwarding is tried again. -/
theorem packet_eq_of_not_done
    (h : ((lshd services).packet s env seqno packet).2 = false) :
    s.forward ∧ ((lshd services).packet s env seqno packet).1 = [] := by
  simp only [lshd] at h ⊢
  split_ifs at h ⊢ with hfwd
  · simp only [forwardPacketHandler] at h ⊢
    split_ifs at h ⊢
    exact ⟨hfwd, rfl⟩
  · simp only [lshdPacketHandler] at h
    split_ifs at h

theorem actionOk_push (s env) : ∀ a ∈ push s env, ActionOk writeState session a := by
  intro a ha
  rw [push] at ha
  split_ifs at ha
  · rw [List.mem_singleton.mp ha]
    trivial
  · cases ha

theorem actionOk_callback (env) (h : AppOk writeState session s) :
    ∀ a ∈ callback s env, ActionOk writeState session a := by
  intro a ha
  rw [callback] at ha
  cases hread : env.readable with
  | none =>
    simp only [hread] at ha
    split_ifs at ha
    · rw [List.mem_singleton.mp ha]
      trivial
    · cases ha
  | some r =>
    simp only [hread, readService] at ha
    split_ifs at ha with hact
    · have hwr := (h.active hact.2).2
      cases r with
      | pending => cases ha
      | complete packet =>
        cases packet with
        | nil =>
          rw [List.mem_singleton.mp ha]
          trivial
        | cons b packet =>
          simp only [transportForwardPacket] at ha
          have hsnd : ActionOk writeState session (.send (b :: packet)) := fun hw =>
            absurd (hwr.symm.trans hw) nofun
          split_ifs at ha
          · rcases List.mem_cons.mp ha with rfl | ha
            · exact hsnd
            · rw [List.mem_singleton.mp ha]
              trivial
          · rw [List.mem_singleton.mp ha]
            exact hsnd
      | _ =>
        rw [List.mem_singleton.mp ha]
        trivial
    · cases ha

/-! ### Runs -/

section Runs

variable {services : List Octets} {ctx : TransportContext η LshdEnv} {oracle : Oracle}

/-- **The condition** on an event: a request that starts a service is not received after our
KEXINIT and before our NEWKEYS, unless there is a service. -/
def NoEarlyRequest (services : List Octets) (c : Connection LshdState η LshdEnv) :
    Event LshdEnv → Prop
  | .packet _ packet env => startsService services env packet → c.kex.writeState → c.app.forward
  | _ => True

/-- A packet is passed on. -/
theorem quietInv_callPacketHandler {seqno : ℕ} (h : QuietInv c)
    (hses : c.sessionId.isSome)
    (hguard : startsService services env packet → c.kex.writeState → c.app.forward) :
    QuietInv (callPacketHandler (lshd services) oracle c seqno packet env).2 ∧
      ((callPacketHandler (lshd services) oracle c seqno packet env).1 = false →
        (callPacketHandler (lshd services) oracle c seqno packet env).2.app.forward) := by
  have hrec : QuietInv (c.record (.handled c.kex.readState packet)) := by
    refine { h with writeState := fun ha hqt => ?_, respected := ?_ }
    · rw [Connection.record, isQuiet_snoc] at hqt
      exact h.writeState ha hqt
    · exact h.respected.snoc fun _ => nofun
  refine ⟨hrec.performAll (actionOk_packet hses hguard), fun hdone => ?_⟩
  obtain ⟨hfwd, hactions⟩ := packet_eq_of_not_done hdone
  show (performAll (lshd services) oracle (c.record (.handled c.kex.readState packet))
    ((lshd services).packet c.app env seqno packet).1).app.forward
  rw [hactions]
  exact hfwd

section
variable (hctx : ∀ a k, Algorithm.asKeyexchange (ctx.algorithms a) = some k → SendsKex k)
include hctx

/-- **One packet.** -/
theorem quietInv_transportProcessPacket {seqno : ℕ} (h : QuietInv c)
    (hguard : startsService services env packet → c.kex.writeState → c.app.forward) :
    Returns (fun r => QuietInv r.2 ∧ (r.1 = false → r.2.app.forward))
      (transportProcessPacket (lshd services) ctx oracle c seqno packet env) := by
  cases packet with
  | nil => exact ⟨h.transportDisconnect _ _, by simp⟩
  | cons msg body =>
    rw [transportProcessPacket]
    split_ifs
    · exact ⟨h, by simp⟩
    · exact ⟨h.transportClose _, by simp⟩
    · exact ⟨h.transportClose _, by simp⟩
    · exact ⟨h, by simp⟩
    · rw [processByState]
      cases hst : c.kex.readState with
      | ignore => exact ⟨{ h with }, by simp⟩
      | inProgress =>
        dsimp only
        split_ifs
        · exact ⟨h.transportDisconnect _ _, by simp⟩
        · exact (quietInv_callHandler h).bind fun d hd => ⟨hd, by simp⟩
      | newkeys => exact ⟨quietInv_processNewkeys h _, by simp⟩
      | init =>
        dsimp only
        split_ifs with hkex hpass
        · exact (quietInv_transportKexinitHandler hctx h).bind fun d hd => ⟨hd, by simp⟩
        · exact quietInv_callPacketHandler h (h.session hpass.2) hguard
        · exact ⟨h.transportSendPacket (fun _ => Bool.false_ne_true) (by simp), by simp⟩

/-- **Every event** that meets the condition keeps the invariant. -/
theorem quietInv_connectionStep (e) (h : QuietInv c) (hguard : NoEarlyRequest services c e) :
    Returns QuietInv (connectionStep (lshd services) ctx oracle c e) := by
  cases e with
  | line text =>
    rw [connectionStep]
    split_ifs
    · rw [handleLine]
      cases (lshd services).line text with
      | ignore => exact h
      | reject => exact h.transportDisconnect _ _
      | accept => exact { h with }
    · exact h
  | packet seqno packet env =>
    rw [connectionStep]
    split_ifs
    · refine (quietInv_transportProcessPacket hctx h hguard).bind ?_
      rintro ⟨done, d⟩ ⟨hd, hfwd⟩
      cases done with
      | true => exact hd
      | false => exact { hd with retry := fun _ => hfwd rfl }
    · exact h
  | readFailure failure =>
    rw [connectionStep]
    split_ifs
    · cases failure with
      | ioError | eof => exact h.transportClose _
      | protocolError reason msg => exact h.transportDisconnect reason msg
    · exact h
  | push env =>
    rw [connectionStep]
    split_ifs
    · exact h.performAll (actionOk_push c.app env)
    · exact h
  | retry env =>
    rw [connectionStep]
    cases hrt : c.retry with
    | none => exact h
    | some r =>
      have hfwd : c.app.forward := h.retry (by rw [hrt]; rfl)
      have hno : QuietInv { c with retry := none } := { h with retry := (by simp) }
      have hcad : QuietInv (callPacketHandler (lshd services) oracle { c with retry := none }
          r.1 r.2 env).2 :=
        (quietInv_callPacketHandler hno (h.app.session hfwd) fun _ _ => hfwd).1
      rw [Returns, ensures_ok]
      split_ifs
      · rw [retryPacket]
        dsimp only
        split_ifs
        · exact hcad
        · exact hcad.transportDisconnect _ _
      · exact h
  | timer =>
    have hexp : QuietInv { c with expire := none } := { h with }
    rw [connectionStep, handleTimer]
    cases c.expire with
    | none => exact h
    | some timer =>
      cases timer with
      | keyexchange => exact hexp.transportDisconnect _ _
      | reexchange => exact (quietInv_transportSendKexinit hexp).mono fun d hd => hd.1
      | close => exact hexp.transportConnectionKill
  | writable =>
    have hctd : QuietInv { c with writes := c.writes + 1 } := { h with }
    rw [connectionStep]
    split_ifs
    · rw [handleWritable]
      cases (oracle.outcome c.writes).status with
      | overflow | pending => exact hctd
      | complete => exact hctd.transportStopWrite _
      | ioError => exact hctd.transportClose _
    · exact h
  | callback env =>
    exact h.performAll (actionOk_callback env h.app)

end

/-- A connection that has just been started. -/
theorem quietInv_transportHandshake (version written) :
    Returns QuietInv (transportHandshake (lshd services) ctx oracle
      (initTransportConnection initLshd) version written) := by
  have hini : QuietInv (keepVersion ctx (initTransportConnection initLshd) version) := {
    writeState := nofun
    respected := fun l₁ e l₂ h => by simp [keepVersion, initTransportConnection] at h
    app := ⟨nofun, nofun⟩
    session := nofun
    retry := nofun
    method := nofun }
  refine (quietInv_transportSendKexinit ?_).bind fun d hd => { hd.1 with }
  split_ifs
  · exact hini
  · exact hini.transportClose _

/-- **Quiet periods are quiet** in every run of the server in which no request that starts a
service is received in one. -/
theorem run_connectionStep_quiet (services : List Octets) (ctx : TransportContext η LshdEnv)
    (hctx : ∀ a k, Algorithm.asKeyexchange (ctx.algorithms a) = some k → SendsKex k)
    (oracle : Oracle) (version : Octets) (written : Bool) (events : List (Event LshdEnv))
    (c₀ : Connection LshdState η LshdEnv)
    (hstart : transportHandshake (lshd services) ctx oracle (initTransportConnection initLshd)
      version written = .ok c₀)
    (hguard : Guarded (connectionStep (lshd services) ctx oracle) (NoEarlyRequest services) c₀
      events) :
    ∃ c, run (connectionStep (lshd services) ctx oracle) c₀ events = .ok c ∧ Respected c.log := by
  have hkex : Ensures (fun _ => False) (fun c => ∃ m, KexInv ctx c m)
      (transportHandshake (lshd services) ctx oracle (initTransportConnection initLshd) version
        written) := transportHandshake_ensures initLshd version written
  have hqt : Ensures (fun _ => True) QuietInv
      (transportHandshake (lshd services) ctx oracle (initTransportConnection initLshd) version
        written) := quietInv_transportHandshake version written
  rw [hstart] at hkex hqt
  have hrun : Ensures (fun _ => False) (fun c => (∃ m, KexInv ctx c m) ∧ QuietInv c)
      (run (connectionStep (lshd services) ctx oracle) c₀ events) := by
    refine run_of_guarded ?_ ⟨hkex, hqt⟩ hguard
    rintro c e ⟨⟨m, hm⟩, hc⟩ he
    exact (kexInv_connectionStep e hm).and (quietInv_connectionStep hctx e hc he)
  obtain ⟨c, hc, -, hinv⟩ := hrun.exists_ok
  exact ⟨c, hc, hinv.respected⟩

end Runs

/-! ### A run that is not quiet -/

/-- Some entry of the log is loud in a quiet period. -/
def loudInQuiet : Bool → List LogEntry → Bool
  | _, [] => false
  | quiet, e :: log => (quiet && isLoud e) || loudInQuiet (quietAfter quiet e) log

theorem not_respected_of_loud {l : List LogEntry} (h : loudInQuiet (isQuiet l) log) :
    ¬Respected (l ++ log) := by
  induction log generalizing l with
  | nil => cases h
  | cons e log ih =>
    rw [loudInQuiet, Bool.or_eq_true, Bool.and_eq_true] at h
    intro hresp
    rcases h with ⟨hqt, hloud⟩ | h
    · exact hresp l e log rfl hqt hloud
    · rw [← isQuiet_snoc] at h
      exact ih h (by rwa [← append_cons])

/-- A hash function with digests of one octet. -/
def unitHash : Hash where
  digestSize := 1
  digest := fun _ => [0]
  digestSize_pos := Nat.one_pos
  length_digest := fun _ => rfl

/-- A key exchange method that answers one message and finishes. -/
def oneMessage : KeyexchangeAlgorithm Unit LshdEnv where
  init := fun _ _ => ([], some ())
  handler := fun _ _ _ => ⟨(), [.send [31]], some ⟨unitHash, [1], [2]⟩, []⟩

theorem sendsKex_oneMessage : SendsKex oneMessage := by
  constructor
  · intro view env packet hmem
    exact absurd hmem not_mem_nil
  · intro h env msg packet hmem
    obtain rfl : packet = [31] := KexAction.send.inj (List.mem_singleton.mp hmem)
    decide
  · intro h env msg packet hmem
    exact absurd hmem not_mem_nil

/-- A server with this method, and without encryption. -/
def quietContext : TransportContext Unit LshdEnv where
  isServer := true
  kexinit := serverInfo
  algorithms := fun a =>
    if a = .diffieHellmanGroup1Sha1 then some (.keyexchange oneMessage) else none
  isSome_algorithms := by
    intro a ha
    rw [List.mem_singleton.mp ha]
    rfl

theorem sendsKex_quietContext (a k)
    (h : Algorithm.asKeyexchange (quietContext.algorithms a) = some k) : SendsKex k := by
  have hk : Algorithm.asKeyexchange (if a = .diffieHellmanGroup1Sha1 then
      some (.keyexchange oneMessage) else none) = some k := h
  split_ifs at hk
  · cases hk
    exact sendsKex_oneMessage
  · cases hk

/-- All writes succeed. -/
def quietOracle : Oracle where
  outcome := fun _ => ⟨.complete, false⟩
  cookie := fun _ => zeroCookie

/-- Everything succeeds. -/
def quietEnv : LshdEnv := ⟨true, true, true, none⟩

/-- The first key exchange: the client's version, its KEXINIT, a message of the method, and
NEWKEYS. -/
def firstExchange : List (Event LshdEnv) :=
  [.line (asciiOctets "SSH-2.0-x"),
    .packet 0 (formatKexinit (makeKexinit clientInfo zeroCookie)) quietEnv,
    .packet 1 [30] quietEnv,
    .packet 2 [21] quietEnv]

/-- The first exchange, and the start of the next one. -/
theorem run_connectionStep_quiet_exchange :
    ∃ c₀ c : Connection LshdState Unit LshdEnv,
      transportHandshake (lshd [asciiOctets "ssh-userauth"]) quietContext quietOracle
        (initTransportConnection initLshd) (asciiOctets "SSH-2.0-lsh") true = .ok c₀ ∧
      run (connectionStep (lshd [asciiOctets "ssh-userauth"]) quietContext quietOracle) c₀
        (firstExchange ++ [.timer]) = .ok c ∧ Respected c.log := by
  have hstr : Ensures (fun _ => False) (fun c => ∃ m, KexInv quietContext c m)
      (transportHandshake (lshd [asciiOctets "ssh-userauth"]) quietContext quietOracle
        (initTransportConnection initLshd) (asciiOctets "SSH-2.0-lsh") true) :=
    transportHandshake_ensures initLshd (asciiOctets "SSH-2.0-lsh") true
  obtain ⟨c₀, hc₀, -⟩ := hstr.exists_ok
  have hguard : Guarded (connectionStep (lshd [asciiOctets "ssh-userauth"]) quietContext
      quietOracle) (NoEarlyRequest [asciiOctets "ssh-userauth"]) c₀ (firstExchange ++
      [.timer]) := by
    refine guarded_of_forall (fun e he c => ?_) c₀
    simp only [firstExchange, cons_append, nil_append, mem_cons,
      not_mem_nil, or_false] at he
    rcases he with rfl | rfl | rfl | rfl | rfl
    · trivial
    · exact fun h => absurd h (by decide +kernel)
    · exact fun h => absurd h (by decide +kernel)
    · exact fun h => absurd h (by decide +kernel)
    · trivial
  obtain ⟨c, hc, hresp⟩ := run_connectionStep_quiet [asciiOctets "ssh-userauth"] quietContext
    sendsKex_quietContext quietOracle (asciiOctets "SSH-2.0-lsh") true (firstExchange ++ [.timer])
    c₀ hc₀ hguard
  exact ⟨c₀, c, hc₀, hc, hresp⟩

/-- A request for a service. -/
def serviceRequest : Octets := Wire.formatUint8 5 ++ Wire.formatString (asciiOctets "ssh-userauth")

/-- **SERVICE_ACCEPT in the quiet period**: after the first exchange the timer of the server
expires, the server sends KEXINIT, and then a request for a service arrives. -/
theorem runConnection_not_quiet :
    ∃ c : Connection LshdState Unit LshdEnv,
      runConnection (lshd [asciiOctets "ssh-userauth"]) quietContext quietOracle initLshd
        (asciiOctets "SSH-2.0-lsh") true
        (firstExchange ++ [.timer, .packet 3 serviceRequest quietEnv]) = .ok c ∧
      ¬Respected c.log := by
  have hrun : (runConnection (lshd [asciiOctets "ssh-userauth"]) quietContext quietOracle initLshd
      (asciiOctets "SSH-2.0-lsh") true
      (firstExchange ++ [.timer, .packet 3 serviceRequest quietEnv])).toOption.map
        (fun c => loudInQuiet false c.log) = some true := by decide +kernel
  cases hc : runConnection (lshd [asciiOctets "ssh-userauth"]) quietContext quietOracle initLshd
      (asciiOctets "SSH-2.0-lsh") true
      (firstExchange ++ [.timer, .packet 3 serviceRequest quietEnv]) with
  | error e =>
    rw [hc] at hrun
    cases hrun
  | ok c =>
    rw [hc] at hrun
    exact ⟨c, rfl, not_respected_of_loud (l := []) (Option.some.inj hrun)⟩

end Lsh.Lshd
