
import Lsh.Transport.KeyExchange

/-!
# Diffie-Hellman key exchange

A model of `dh_exchange.c`, `client_keyexchange.c` and `server_keyexchange.c`: the two ends of a
Diffie-Hellman exchange as key exchange methods of a connection. Exponents are random, so they
come from the environment. Host keys, signatures and the verifier that a client looks up for a
host key are parameters.

The result is about both ends. If each gets what the other sent, they finish with the same hash and
the same secret, and the keys that a side makes for sending are those that the other makes for
receiving, each derived with the label that the protocol gives it. Both ends reject values that are
not between 1 and the modulus, so the exponents must not lead to such a value.

## Main results

* `exchange_agree` — the two handlers finish with the same secret and exchange hash
* `FinishedBy.keysMatch` — the keys of the two ends
* `HasId.connectionStep` — the session identifier does not change
* `dh_agreement` — all of this for two connections
-/

namespace Lsh.Transport

open Kex Machine Wire Octets List

/-! ### Groups and keys -/

/-- `nettle_mpz_sizeinbase_256_u`: the number of octets of a number. -/
def sizeinbase256 (n : ℕ) : ℕ := max 1 ((bitLength n + 7) / 8)

theorem lt_pow_sizeinbase256 (n) : n < 256 ^ sizeinbase256 n := by
  have h : bitLength n ≤ 8 * sizeinbase256 n := by
    rw [sizeinbase256]
    omega
  calc n < 2 ^ bitLength n := lt_two_pow_bitLength n
    _ ≤ 2 ^ (8 * sizeinbase256 n) := Nat.pow_le_pow_right Nat.two_pos h
    _ = 256 ^ sizeinbase256 n := by rw [Nat.pow_mul]

/-- `struct dh_params`. Numbers have fewer than `2 ^ 32` octets. -/
structure DhParams where
  modulo : ℕ
  generator : ℕ
  H : Hash
  modulo_pos : 0 < modulo
  limit_lt : sizeinbase256 modulo + 1 < 2 ^ 32

/-- The field `limit`. -/
def DhParams.limit (params : DhParams) : ℕ := sizeinbase256 params.modulo

/-- `struct keypair`: a public key, and signing with the private key, which may fail. Strings have
fewer than `2 ^ 32` octets. -/
structure Keypair where
  publicKey : Octets
  sign : Octets → Option Octets
  length_publicKey : publicKey.length < 2 ^ 32
  length_sign : ∀ data signature, sign data = some signature → signature.length < 2 ^ 32

/-- The data of both handlers. -/
structure DhHandler where
  e : ℕ
  f : ℕ
  secret : ℕ
  /-- What has been fed to the hash object. -/
  fed : Octets
  /-- `hostkey_algorithm` of the client's handler. -/
  hostkeyAlgorithm : Option Atom
  /-- `key` of the server's handler. -/
  key : Option Keypair

/-! ### Exchange hash -/

/-- What `init_dh_state` feeds to the hash object. All four strings are there when a method is
started. -/
def initDhState (view : KexView) : Octets :=
  formatString (view.version.client.getD []) ++ formatString (view.version.server.getD []) ++
    formatString (view.literalKexinit.client.getD []) ++
    formatString (view.literalKexinit.server.getD [])

/-- `dh_hash_digest`. -/
def dhHashDigest (params : DhParams) (fed : Octets) (e f : ℕ) (K : Octets) : Octets :=
  params.H.digest (fed ++ (formatBignum e ++ formatBignum f ++ formatString K))

/-- `dh_generate_secret`: the exponent and the public value, from the result of
`nettle_mpz_random`. -/
def dhGenerateSecret (params : DhParams) (random : ℕ) : ℕ × ℕ :=
  (random + 1, params.generator ^ (random + 1) % params.modulo)

/-- The shared secret as a string. -/
def dhSharedSecret (params : DhParams) (v secret : ℕ) : Octets :=
  mpintEncode (v ^ secret % params.modulo)

/-! ### The client -/

/-- A call that disconnects. -/
def dhFailed (self : DhHandler) (msg : String) : HandlerResult DhHandler :=
  ⟨self, [.disconnect sshDisconnectKeyExchangeFailed msg], none, []⟩

/-- The client's message. -/
def formatKexdhInit (e : ℕ) : Octets := formatUint8 30 ++ formatBignum e

/-- `client_dh_init`. -/
def clientDhInit (params : DhParams) (view : KexView) (random : ℕ) :
    List KexAction × Option DhHandler :=
  let (secret, e) := dhGenerateSecret params random
  ([.send (formatKexdhInit e)],
    some { e := e, f := 0, secret := secret, fed := initDhState view
           hostkeyAlgorithm := view.hostkeyAlgorithm, key := none })

/-- The parser of `client_dh_handler`: the key, the server's value, and the signature. -/
def parseKexdhReply (params : DhParams) (s : Octets) : Option (Octets × ℕ × Octets) := do
  let (key, s) ← parseString s
  let (f, s) ← parseBignum params.limit s
  if 1 < f ∧ f < params.modulo then
    let (signature, s) ← parseString s
    parseEod s
    return (key, f.toNat, signature)
  else none

/-- `client_dh_handler`. `lookupVerifier` returns the verifier for a key, if there is one. -/
def clientDhHandler (params : DhParams)
    (lookupVerifier : Option Atom → Octets → Option (Octets → Octets → Bool))
    (self : DhHandler) (packet : Octets) : HandlerResult DhHandler :=
  if packet.head? ≠ some 31 then dhFailed self "No KEXDH_REPLY message."
  else match parseKexdhReply params (packet.drop 1) with
    | none => dhFailed self "Invalid KEXDH_REPLY message"
    | some (key, f, signature) =>
      match lookupVerifier self.hostkeyAlgorithm key with
      | none => dhFailed self "Unknown server host key"
      | some verify =>
        let K := dhSharedSecret params f self.secret
        let fed := self.fed ++ formatString key
        let exchangeHash := dhHashDigest params fed self.e f K
        let self := { self with f := f, fed := fed }
        if verify exchangeHash signature then ⟨self, [], some ⟨params.H, exchangeHash, K⟩, []⟩
        else dhFailed self "Invalid server signature"

/-- `make_client_dh_exchange`. -/
def makeClientDhExchange {ε : Type} (params : DhParams)
    (lookupVerifier : Option Atom → Octets → Option (Octets → Octets → Bool)) (random : ε → ℕ) :
    KeyexchangeAlgorithm DhHandler ε where
  init := fun view env => clientDhInit params view (random env)
  handler := fun self _ packet => clientDhHandler params lookupVerifier self packet

variable {lookupVerifier : Option Atom → Octets → Option (Octets → Octets → Bool)}
  {params : DhParams}

theorem makeClientDhExchange_handler {ε : Type} (random self) (env : ε) (pkt) :
    (makeClientDhExchange params lookupVerifier random).handler self env pkt =
      clientDhHandler params lookupVerifier self pkt := rfl

/-! ### The server -/

/-- The server's message. -/
def formatKexdhReply (key : Octets) (f : ℕ) (signature : Octets) : Octets :=
  formatUint8 31 ++ (formatString key ++ formatBignum f ++ formatString signature)

/-- `server_dh_init`. `keys` is the table of key pairs. -/
def serverDhInit (params : DhParams) (keys : Option Atom → Option Keypair) (view : KexView)
    (random : ℕ) : List KexAction × Option DhHandler :=
  match keys view.hostkeyAlgorithm with
  | none => ([], none)
  | some key =>
    let (secret, f) := dhGenerateSecret params random
    ([], some { e := 0, f := f, secret := secret, fed := initDhState view
                hostkeyAlgorithm := none, key := some key })

/-- The parser of `server_dh_handler`: the client's value. -/
def parseKexdhInit (params : DhParams) (s : Octets) : Option ℕ := do
  let (e, s) ← parseBignum params.limit s
  if 1 < e ∧ e < params.modulo then
    parseEod s
    return e.toNat
  else none

/-- `server_dh_handler`, for a handler with a key. -/
def serverDhHandler (params : DhParams) (self : DhHandler) (packet : Octets) :
    HandlerResult DhHandler :=
  if packet.head? ≠ some 30 then dhFailed self "No KEXDH_INIT message."
  else match parseKexdhInit params (packet.drop 1), self.key with
    | some e, some key =>
      let K := dhSharedSecret params e self.secret
      let fed := self.fed ++ formatString key.publicKey
      let exchangeHash := dhHashDigest params fed e self.f K
      let self := { self with e := e, fed := fed }
      match key.sign exchangeHash with
      | some signature =>
        ⟨self, [.send (formatKexdhReply key.publicKey self.f signature)],
          some ⟨params.H, exchangeHash, K⟩, []⟩
      | none => dhFailed self "Configuration error."
    | _, _ => dhFailed self "Invalid KEXDH_INIT message."

/-- `make_server_dh_exchange`. -/
def makeServerDhExchange {ε : Type} (params : DhParams) (keys : Option Atom → Option Keypair)
    (random : ε → ℕ) : KeyexchangeAlgorithm DhHandler ε where
  init := fun view env => serverDhInit params keys view (random env)
  handler := fun self _ packet => serverDhHandler params self packet

theorem makeServerDhExchange_handler {ε : Type} (keys random self) (env : ε) (pkt) :
    (makeServerDhExchange params keys random).handler self env pkt =
      serverDhHandler params self pkt := rfl

/-! ### Agreement of the handlers -/

section Agreement

variable (params : DhParams)

/-- What both ends hash: `V_C`, `V_S`, `I_C`, `I_S`, `K_S`, `e`, `f` and `K`. -/
def exchangeHashInput (view : KexView) (publicKey : Octets) (e f : ℕ) (K : Octets) : Octets :=
  formatString (view.version.client.getD []) ++ formatString (view.version.server.getD []) ++
    formatString (view.literalKexinit.client.getD []) ++
    formatString (view.literalKexinit.server.getD []) ++ formatString publicKey ++
    formatBignum e ++ formatBignum f ++ formatString K

/-- The pieces that are fed to the hash object at different times. -/
theorem dhHashDigest_eq (view publicKey e f K) :
    dhHashDigest params (initDhState view ++ formatString publicKey) e f K =
      params.H.digest (exchangeHashInput view publicKey e f K) := by
  simp only [dhHashDigest, initDhState, exchangeHashInput, append_assoc]

variable {params}

/-- Both ends compute the same power. -/
theorem dhSharedSecret_pow (g x y) :
    dhSharedSecret params (g ^ x % params.modulo) y =
      mpintEncode (g ^ (x * y) % params.modulo) := by
  rw [dhSharedSecret, ← Nat.pow_mod, Nat.pow_mul]

theorem lt_pow_limit {n : ℕ} (h : n < params.modulo) : n < 256 ^ params.limit :=
  h.trans (lt_pow_sizeinbase256 params.modulo)

theorem parseKexdhInit_formatBignum {e : ℕ} (hone : 1 < e) (hlt : e < params.modulo) :
    parseKexdhInit params (formatBignum e) = some e := by
  have hparse := parseBignum_formatBignum (lt_pow_limit hlt) params.limit_lt []
  rw [append_nil] at hparse
  simp [parseKexdhInit, hparse, parseEod, hone, hlt]

variable {key signature : Octets}

theorem parseKexdhReply_format {f : ℕ} (hkey : key.length < 2 ^ 32) (hone : 1 < f)
    (hlt : f < params.modulo)
    (hsig : signature.length < 2 ^ 32) :
    parseKexdhReply params (formatString key ++ formatBignum f ++ formatString signature) =
      some (key, f, signature) := by
  have hparse := parseString_formatString hsig []
  rw [append_nil] at hparse
  rw [parseKexdhReply, append_assoc, parseString_formatString hkey]
  simp [parseBignum_formatBignum (lt_pow_limit hlt) params.limit_lt, hparse, parseEod, hone, hlt]

/-- The server answers the client's value. -/
theorem serverDhHandler_formatKexdhInit {key : Keypair} (self) (hkey : self.key = some key)
    (hone : 1 < e)
    (hlt : e < params.modulo)
    (hsign : key.sign (dhHashDigest params (self.fed ++ formatString key.publicKey) e self.f
      (dhSharedSecret params e self.secret)) = some signature) :
    serverDhHandler params self (formatKexdhInit e) =
      ⟨{ self with e := e, fed := self.fed ++ formatString key.publicKey },
        [.send (formatKexdhReply key.publicKey self.f signature)],
        some ⟨params.H, dhHashDigest params (self.fed ++ formatString key.publicKey) e self.f
          (dhSharedSecret params e self.secret), dhSharedSecret params e self.secret⟩, []⟩ := by
  have hhd : (formatKexdhInit e).head? = some 30 := rfl
  have hdp : (formatKexdhInit e).drop 1 = formatBignum e := rfl
  rw [serverDhHandler, hhd, hdp, parseKexdhInit_formatBignum hone hlt, hkey]
  simp only [ne_eq, not_true_eq_false, if_false, hsign]

/-- The client finishes with the server's value. -/
theorem clientDhHandler_formatKexdhReply {verify : Octets → Octets → Bool} (self)
    (hkey : key.length < 2 ^ 32) (hone : 1 < f)
    (hlt : f < params.modulo) (hsig : signature.length < 2 ^ 32)
    (hlk : lookupVerifier self.hostkeyAlgorithm key = some verify)
    (hvfy : verify (dhHashDigest params (self.fed ++ formatString key) self.e f
      (dhSharedSecret params f self.secret)) signature) :
    clientDhHandler params lookupVerifier self (formatKexdhReply key f signature) =
      ⟨{ self with f := f, fed := self.fed ++ formatString key }, [],
        some ⟨params.H, dhHashDigest params (self.fed ++ formatString key) self.e f
          (dhSharedSecret params f self.secret), dhSharedSecret params f self.secret⟩, []⟩ := by
  have hhd : (formatKexdhReply key f signature).head? = some 31 := rfl
  have hdp : (formatKexdhReply key f signature).drop 1 =
    formatString key ++ formatBignum f ++ formatString signature := rfl
  rw [clientDhHandler, hhd, hdp, parseKexdhReply_format hkey hone hlt hsig]
  simp only [ne_eq, not_true_eq_false, if_false, hlk, hvfy, if_true]

variable (params)

/-- The secret for the numbers that the two ends drew. -/
def agreedSecret (a b : ℕ) : Octets :=
  mpintEncode (params.generator ^ ((a + 1) * (b + 1)) % params.modulo)

/-- The exchange hash for the numbers that the two ends drew. -/
def agreedHash (view : KexView) (publicKey : Octets) (a b : ℕ) : Octets :=
  params.H.digest (exchangeHashInput view publicKey (dhGenerateSecret params a).2
    (dhGenerateSecret params b).2 (agreedSecret params a b))

/-- What the two ends need for an exchange in which they draw `a` and `b`: they have seen the same
versions and KEXINIT messages, the values are not trivial, the server has a key, and the client
accepts its signature. -/
structure Accepts (lookupVerifier : Option Atom → Octets → Option (Octets → Octets → Bool))
    (keys : Option Atom → Option Keypair) (client server : KexView) (a b : ℕ) (key : Keypair)
    (signature : Octets) : Prop where
  version : client.version = server.version
  literalKexinit : client.literalKexinit = server.literalKexinit
  one_lt_e : 1 < (dhGenerateSecret params a).2
  one_lt_f : 1 < (dhGenerateSecret params b).2
  keys_eq : keys server.hostkeyAlgorithm = some key
  sign_eq : key.sign (agreedHash params server key.publicKey a b) = some signature
  verify_eq : ∃ verify, lookupVerifier client.hostkeyAlgorithm key.publicKey = some verify ∧
    verify (agreedHash params client key.publicKey a b) signature

variable {params}
variable {lookupVerifier : Option Atom → Octets → Option (Octets → Octets → Bool)}
  {keys : Option Atom → Option Keypair} {key : Keypair} {signature : Octets}
  {client server : KexView} {a b : ℕ}

/-- The hash depends on what both ends have seen. -/
theorem Accepts.agreedHash_eq
    (h : Accepts params lookupVerifier keys client server a b key signature) :
    agreedHash params server key.publicKey a b = agreedHash params client key.publicKey a b := by
  rw [agreedHash, agreedHash, exchangeHashInput, exchangeHashInput, h.version, h.literalKexinit]

theorem dhGenerateSecret_lt (a) : (dhGenerateSecret params a).2 < params.modulo :=
  Nat.mod_lt _ params.modulo_pos

/-- **Agreement.** The handlers get each other's messages and finish with the same hash and the
same secret. -/
theorem exchange_agree
    (h : Accepts params lookupVerifier keys client server a b key signature) :
    ∃ c s c' s' : DhHandler,
      clientDhInit params client a =
        ([.send (formatKexdhInit (dhGenerateSecret params a).2)], some c) ∧
      serverDhInit params keys server b = ([], some s) ∧
      serverDhHandler params s (formatKexdhInit (dhGenerateSecret params a).2) =
        ⟨s', [.send (formatKexdhReply key.publicKey (dhGenerateSecret params b).2 signature)],
          some ⟨params.H, agreedHash params client key.publicKey a b, agreedSecret params a b⟩,
            []⟩ ∧
      clientDhHandler params lookupVerifier c
          (formatKexdhReply key.publicKey (dhGenerateSecret params b).2 signature) =
        ⟨c', [], some ⟨params.H, agreedHash params client key.publicKey a b,
          agreedSecret params a b⟩, []⟩ := by
  obtain ⟨verify, hlk, hvfy⟩ := h.verify_eq
  have hsc : dhSharedSecret params (dhGenerateSecret params a).2 (b + 1) =
      agreedSecret params a b := dhSharedSecret_pow _ _ _
  have hsc' : dhSharedSecret params (dhGenerateSecret params b).2 (a + 1) =
      agreedSecret params a b := by
    rw [agreedSecret, Nat.mul_comm]
    exact dhSharedSecret_pow _ _ _
  have hsign := h.sign_eq
  have hsrv := serverDhHandler_formatKexdhInit
    ⟨0, (dhGenerateSecret params b).2, b + 1, initDhState server, none, some key⟩ rfl
    h.one_lt_e (dhGenerateSecret_lt a) (by rw [hsc, dhHashDigest_eq]; exact hsign)
  have hcli := clientDhHandler_formatKexdhReply
    ⟨(dhGenerateSecret params a).2, 0, a + 1, initDhState client, client.hostkeyAlgorithm, none⟩
    key.length_publicKey
    h.one_lt_f (dhGenerateSecret_lt b) (key.length_sign _ _ hsign) hlk
    (by rw [hsc', dhHashDigest_eq]; exact hvfy)
  rw [hsc, dhHashDigest_eq, ← agreedHash, h.agreedHash_eq] at hsrv
  rw [hsc', dhHashDigest_eq] at hcli
  refine ⟨_, _, _, _, rfl, ?_, hsrv, hcli⟩
  rw [serverDhInit, h.keys_eq]
  rfl

end Agreement

/-! ### Finishing an exchange -/

variable {f : Finish}

section Finishing

variable {σ η ε : Type} (app : App σ ε) (ctx : TransportContext η ε) (oracle : Oracle)

/-- The session identifier and the keys after an exchange. If a key is weak, the keys stay as they
were, and the connection is closed. -/
def FinishedBy (f : Finish) (c d : Connection σ η ε) : Prop :=
  d.sessionId = some (c.sessionId.getD f.exchangeHash) ∧
    ∀ l, c.kex.algorithmList = some l →
      (d.newKeys, d.writer) = (makeKeys f.H (kexBuildSecret f.exchangeHash f.K) l
        (c.sessionId.getD f.exchangeHash) ctx.isServer).getD (c.newKeys, c.writer)

variable {ctx} {c : Connection σ η ε} {d e : Connection σ η ε}

theorem FinishedBy.frame (h : FinishedBy ctx f c d) (hfr : Frame d e) : FinishedBy ctx f c e := by
  rw [FinishedBy, hfr.sessionId, hfr.newKeys, hfr.writer]
  exact h

theorem FinishedBy.of_frame (hfr : Frame c d) (h : FinishedBy ctx f d e) :
    FinishedBy ctx f c e := by
  rw [FinishedBy, hfr.sessionId, hfr.newKeys, hfr.writer, hfr.kex] at h
  exact h

theorem sessionId_sendNewkeys (c : Connection σ η ε) (send) :
    (sendNewkeys app oracle c send).sessionId = c.sessionId ∧
      (sendNewkeys app oracle c send).newKeys = c.newKeys ∧
      (sendNewkeys app oracle c send).writer = send ∧
      (sendNewkeys app oracle c send).kex = c.kex := by
  have hfr := frame_sendNewkeys app oracle c send
  refine ⟨hfr.sessionId.trans ?_, hfr.newKeys.trans ?_, hfr.writer, hfr.kex.trans ?_⟩
  all_goals split_ifs <;> rfl

/-- An exchange that is in progress can be finished. -/
theorem transportKeyexchangeFinish_finishedBy (f : Finish) (hst : c.kex.readState = .inProgress)
    (hls : c.kex.algorithmList.isSome) :
    ∃ d, transportKeyexchangeFinish app ctx oracle c f = .ok d ∧ FinishedBy ctx f c d := by
  obtain ⟨l, hl⟩ := Option.isSome_iff_exists.mp hls
  have hid : (if c.sessionId.isNone then { c with sessionId := some f.exchangeHash } else c) =
      { c with sessionId := some (c.sessionId.getD f.exchangeHash) } := by
    obtain ⟨kex, id⟩ := c
    cases id <;> rfl
  rw [transportKeyexchangeFinish]
  rw [hid, keyexchangeFinish]
  rw [hl]
  dsimp only [Option.getD_some]
  cases hky : makeKeys f.H (kexBuildSecret f.exchangeHash f.K) l
      (c.sessionId.getD f.exchangeHash) ctx.isServer with
  | none =>
    refine ⟨_, rfl, FinishedBy.frame ⟨rfl, ?_⟩ (frame_transportDisconnect app oracle _ _ _)⟩
    intro l' hl'
    rw [Option.some.inj (hl.symm.trans hl')] at hky
    rw [hky]
    rfl
  | some keys =>
    obtain ⟨receive, send⟩ := keys
    dsimp only
    have hsnd := sessionId_sendNewkeys app oracle
      (keepKeys { c with sessionId := some (c.sessionId.getD f.exchangeHash) } receive) send
    obtain ⟨s, hs⟩ : ∃ s, sendNewkeys app oracle (keepKeys
      { c with sessionId := some (c.sessionId.getD f.exchangeHash) } receive) send = s := ⟨_, rfl⟩
    rw [hs] at hsnd ⊢
    obtain ⟨hid', hnew, hwrr, hkex⟩ := hsnd
    have hrdy : s.kex.readState = .inProgress := by
      rw [hkex]
      exact hst
    have hdone : FinishedBy ctx f c s := by
      refine ⟨hid', ?_⟩
      intro l' hl'
      rw [Option.some.inj (hl.symm.trans hl')] at hky
      rw [hky, hnew, hwrr]
      rfl
    simp only [ok_bind, if_true, require_of hrdy]
    refine ⟨_, rfl, ?_⟩
    split_ifs
    · have hset : FinishedBy ctx f c { s with
          kex := { s.kex with readState := .newkeys, writeState := false }
          packetHandler := true } := hdone
      exact hset.frame (frame_performAll app oracle _ _)
    · exact hdone

/-- A handler that finishes the exchange. -/
theorem callHandler_finishedBy {algorithm : KeyexchangeAlgorithm η ε} {h : η} {pkt : Octets}
    {h' : η} {before : List KexAction} (env : ε) (hhr : c.keyexchangeHandler = some (algorithm, h))
    (hres : algorithm.handler h env pkt = ⟨h', before, some f, []⟩)
    (hst : c.kex.readState = .inProgress) (hls : c.kex.algorithmList.isSome) :
    ∃ d, callHandler app ctx oracle c pkt env = .ok d ∧ FinishedBy ctx f c d := by
  rw [callHandler, hhr]
  dsimp only
  rw [hres]
  obtain ⟨p, hp⟩ : ∃ p, performAll app oracle { c with
    keyexchangeHandler := some (algorithm, h') } (before.map KexAction.toAction) = p := ⟨_, rfl⟩
  have hfr := frame_performAll app oracle { c with
    keyexchangeHandler := some (algorithm, h') } (before.map KexAction.toAction)
  rw [hp] at hfr ⊢
  obtain ⟨d, hd, hdone⟩ := transportKeyexchangeFinish_finishedBy app oracle f
    (hfr.kex ▸ hst) (hfr.kex ▸ hls)
  have hset : FinishedBy ctx f { c with keyexchangeHandler := some (algorithm, h') } d :=
    FinishedBy.of_frame hfr hdone
  rw [finishExchange, hd]
  exact ⟨d, rfl, hset⟩

end Finishing

/-! ### The session identifier -/

section SessionId

variable {σ η ε : Type} {app : App σ ε} {ctx : TransportContext η ε} {oracle : Oracle}
  {c : Connection σ η ε} {id : Octets}

/-- The session identifier is `id`, in whatever state. -/
def HasId (id : Octets) (c : Connection σ η ε) : Prop := c.sessionId = some id

theorem HasId.frame {d : Connection σ η ε} (h : HasId id c) (hfr : Frame c d) : HasId id d :=
  hfr.sessionId.trans h

theorem HasId.transportSendKexinit (h : HasId id c) :
    Returns (HasId id) (transportSendKexinit app ctx oracle c) := by
  refine Ensures.bind (P := fun _ => True) ?_ ?_
  · rw [require]
    split_ifs <;> trivial
  · intro _ _
    exact (sessionId_transportSendPacket app oracle _ _ _).trans h

theorem HasId.startExchange (env) (h : HasId id c) :
    Returns (HasId id) (startExchange app ctx oracle c env) := by
  rw [Transport.startExchange]
  split
  · trivial
  · rename_i alg _
    obtain ⟨actions, handler⟩ := alg.init (kexView ctx c.kex) env
    have hacd := h.frame (frame_performAll app oracle c (actions.map KexAction.toAction))
    dsimp only [ensures_ok]
    split_ifs
    · exact hacd
    · exact (frame_transportDisconnect app oracle _ _ _).sessionId.trans hacd

theorem HasId.transportKexinitHandler (pkt env) (h : HasId id c) :
    Returns (HasId id) (transportKexinitHandler app ctx oracle c pkt env) := by
  have hown : Returns (HasId id) (sendOwnKexinit app ctx oracle c) := by
    rw [sendOwnKexinit]
    split_ifs
    · exact h
    · exact h.transportSendKexinit
  refine hown.bind ?_
  intro d hd
  refine Ensures.bind (P := fun _ => True) ?_ ?_
  · cases handleKexinit d.kex pkt ctx.algorithms ctx.isServer <;> trivial
  · rintro ⟨error, kex⟩ -
    have hset : HasId id { d with kex := kex } := hd
    cases error with
    | none => exact hset.startExchange env
    | some error => exact hset.frame (frame_transportDisconnect app oracle _ _ _)

theorem HasId.keyexchangeFinish (f) (h : HasId id c) :
    Returns (fun r => HasId id r.2) (keyexchangeFinish app ctx oracle c f) := by
  rw [Transport.keyexchangeFinish]
  split
  · trivial
  · split
    · exact h
    · exact (sessionId_sendNewkeys app oracle _ _).1.trans h

/-- A later exchange keeps the identifier of the first one. -/
theorem HasId.transportKeyexchangeFinish (f) (h : HasId id c) :
    Returns (HasId id) (transportKeyexchangeFinish app ctx oracle c f) := by
  have hfst : c.sessionId.isNone = false := by
    rw [h]
    rfl
  rw [Transport.transportKeyexchangeFinish]
  simp only [hfst, Bool.false_eq_true, if_false]
  refine (h.keyexchangeFinish f).bind ?_
  rintro ⟨ok, d⟩ hd
  split_ifs
  · refine Ensures.bind (P := fun _ => True) ?_ fun _ _ => hd
    rw [require]
    split_ifs <;> trivial
  · exact hd.frame (frame_transportDisconnect app oracle _ _ _)

theorem HasId.callHandler (pkt) (env : ε) (h : HasId id c) :
    Returns (HasId id) (callHandler app ctx oracle c pkt env) := by
  rw [Transport.callHandler]
  split
  · trivial
  · rename_i alg handler _
    obtain ⟨handler', before, finish, after⟩ := alg.handler handler env pkt
    have hset : HasId id { c with keyexchangeHandler := some (alg, handler') } := h
    have hacd := hset.frame (frame_performAll app oracle _ (before.map KexAction.toAction))
    refine Ensures.bind (P := HasId id) ?_ ?_
    · cases finish with
      | none => exact hacd
      | some f => exact hacd.transportKeyexchangeFinish f
    · intro d hd
      exact hd.frame (frame_performAll app oracle d _)

theorem HasId.callPacketHandler (app oracle seqno pkt env) (h : HasId id c) :
    HasId id (callPacketHandler app oracle c seqno pkt env).2 := by
  have hrec : HasId id (c.record (.handled c.kex.readState pkt)) := h
  exact hrec.frame (frame_performAll app oracle _ _)

theorem HasId.transportProcessPacket (seqno pkt env) (h : HasId id c) :
    Returns (fun r => HasId id r.2) (transportProcessPacket app ctx oracle c seqno pkt env) := by
  have hcl (flush : Bool) : HasId id (transportClose app c flush) :=
    h.frame (frame_transportClose app c flush)
  have herr (msg : String) : HasId id (transportProtocolError app oracle c msg) :=
    h.frame (frame_transportDisconnect app oracle c _ msg)
  rw [Transport.transportProcessPacket.eq_def]
  split
  · exact herr _
  · split_ifs
    · exact h
    · exact hcl false
    · exact hcl false
    · exact h
    · rw [processByState]
      split
      · exact h
      · split_ifs
        · exact herr _
        · exact (h.callHandler _ env).bind fun _ hd => hd
      · rw [processNewkeys]
        split_ifs
        · exact herr _
        · exact herr _
        · exact h
      · split_ifs
        · exact (h.transportKexinitHandler _ env).bind fun _ hd => hd
        · exact h.callPacketHandler app oracle seqno _ env
        · exact (sessionId_transportSendPacket app oracle _ _ _).trans h

theorem HasId.retryPacket (seqno pkt env) (h : HasId id c) :
    HasId id (retryPacket app oracle c seqno pkt env) := by
  have hno : HasId id { c with retry := none } := h
  have hcad := hno.callPacketHandler app oracle seqno pkt env
  rw [Transport.retryPacket]
  dsimp only
  split_ifs
  · exact hcad
  · exact hcad.frame (frame_transportDisconnect app oracle _ _ _)

theorem HasId.handleTimer (h : HasId id c) : Returns (HasId id) (handleTimer app ctx oracle c) := by
  have hno : HasId id { c with expire := none } := h
  rw [Transport.handleTimer]
  split
  · exact h
  · exact hno.frame (frame_transportDisconnect app oracle _ _ _)
  · exact hno.transportSendKexinit
  · exact hno.frame (frame_transportConnectionKill app _)

/-- **The session identifier stays**, whatever happens. -/
theorem HasId.connectionStep (e : Event ε) (h : HasId id c) :
    Returns (HasId id) (connectionStep app ctx oracle c e) := by
  cases e with
  | line text =>
    rw [Transport.connectionStep]
    split_ifs
    · rw [handleLine]
      cases app.line text with
      | ignore => exact h
      | reject => exact h.frame (frame_transportDisconnect app oracle c _ _)
      | accept => exact h
    · exact h
  | packet seqno pkt env =>
    rw [Transport.connectionStep]
    split_ifs
    · refine (h.transportProcessPacket seqno pkt env).bind ?_
      rintro ⟨done, d⟩ hd
      dsimp only [ensures_pure]
      split_ifs
      · exact hd
      · exact hd
    · exact h
  | readFailure failure =>
    rw [Transport.connectionStep]
    split_ifs
    · exact h.frame (frame_handleFailure app oracle c failure)
    · exact h
  | push env =>
    rw [Transport.connectionStep]
    split_ifs
    · exact h.frame (frame_performAll app oracle c _)
    · exact h
  | retry env =>
    rw [Transport.connectionStep]
    split
    · exact h
    · split_ifs
      · exact h.retryPacket _ _ env
      · exact h
  | timer => exact h.handleTimer
  | writable =>
    rw [Transport.connectionStep]
    split_ifs
    · exact h.frame (frame_handleWritable app oracle c)
    · exact h
  | callback env => exact h.frame (frame_performAll app oracle c _)

end SessionId

/-! ### The two connections -/

section Connections

variable {σ σ' η ε : Type}

/-- A connection in an exchange, with the handler that the method made for it. -/
structure InExchange (ctx : TransportContext η ε) (algorithm : KeyexchangeAlgorithm η ε) (env : ε)
    (c : Connection σ η ε) : Prop where
  readState : c.kex.readState = .inProgress
  isSome_algorithmList : c.kex.algorithmList.isSome
  handler : c.keyexchangeHandler =
    (algorithm.init (kexView ctx c.kex) env).2.map fun h => (algorithm, h)

variable {ctx : TransportContext η ε}

theorem InExchange.handler_eq (hc : InExchange ctx algorithm env c)
    (hini : algorithm.init (kexView ctx c.kex) env = (actions, some h)) :
    c.keyexchangeHandler = some (algorithm, h) := by
  rw [hc.handler, hini]
  rfl

/-- **The keys of two connections match**: what the client sends with, the server receives with,
and the other way around. -/
structure KeysMatch (toServer toClient : Mode → DirectionKeys) (c : Connection σ η ε)
    (s : Connection σ' η ε) : Prop where
  clientSends : c.writer = toServer .forward
  serverReceives : s.newKeys = toServer .backward
  serverSends : s.writer = toClient .forward
  clientReceives : c.newKeys = toClient .backward

/-- The keys stay as they were. -/
def KeysKept (c d : Connection σ η ε) : Prop := d.newKeys = c.newKeys ∧ d.writer = c.writer

/-- Two ends that finish with the same hash and secret have matching keys, or find a weak one. -/
theorem FinishedBy.keysMatch (hcli : ctx.isServer = false) (hsrv : ctx'.isServer)
    (hc : FinishedBy ctx f c c') (hs : FinishedBy ctx' f s s') (hid : c.sessionId = s.sessionId)
    (hl : c.kex.algorithmList = some l) (hl' : s.kex.algorithmList = some l')
    (hpar : l.parameter = l'.parameter) :
    let id := c.sessionId.getD f.exchangeHash
    let secret := kexBuildSecret f.exchangeHash f.K
    if weakKey f.H secret l.parameter id .clientToServer ∨
        weakKey f.H secret l.parameter id .serverToClient then KeysKept c c' ∧ KeysKept s s'
    else KeysMatch (directionKeys f.H secret l.parameter id .clientToServer)
      (directionKeys f.H secret l.parameter id .serverToClient) c' s' := by
  have hky := hc.2 l hl
  have hky' := hs.2 l' hl'
  rw [makeKeys_eq, hcli] at hky
  rw [makeKeys_eq, hsrv, ← hpar, ← hid] at hky'
  dsimp only
  split_ifs at hky hky' ⊢ with hweak
  · exact ⟨Prod.mk.inj hky, Prod.mk.inj hky'⟩
  · obtain ⟨hrec, hsnd⟩ := Prod.mk.inj hky
    obtain ⟨hrec', hsnd'⟩ := Prod.mk.inj hky'
    exact ⟨hsnd, hrec', hsnd', hrec⟩

/-- The session identifier in a run. -/
theorem HasId.run {app : App σ ε} {oracle : Oracle} {events : List (Event ε)} {id : Octets}
    {c d : Connection σ η ε} (h : HasId id c)
    (hrun : Machine.run (Transport.connectionStep app ctx oracle) c events = .ok d) :
    d.sessionId = some id := by
  have hall : Returns (HasId id) (Machine.run (Transport.connectionStep app ctx oracle) c events) :=
    run_of_guarded (fun _ e hinv _ => hinv.connectionStep e) h
      (guarded_of_forall (G := fun _ _ => True) (fun _ _ _ => trivial) c)
  rw [hrun] at hall
  exact hall

/-- **Agreement of two connections.** Client and server in an exchange that get each other's
messages finish with the same secret and the same hash. Both take the hash as session identifier if
it is their first exchange, and the identifier never changes again. Their keys match, with the
labels of the protocol, or both find a weak key and keep the old ones. -/
theorem dh_agreement (params : DhParams)
    (lookupVerifier : Option Atom → Octets → Option (Octets → Octets → Bool))
    (keys : Option Atom → Option Keypair) (random random' : ε → ℕ) (app : App σ ε) (app' : App σ' ε)
    (ctx ctx' : TransportContext DhHandler ε) (oracle oracle' : Oracle)
    (c : Connection σ DhHandler ε) (s : Connection σ' DhHandler ε) (env env' : ε) (key : Keypair)
    (signature : Octets) (l l' : AlgorithmList (Algorithm (KeyexchangeAlgorithm DhHandler ε)))
    (hclient : ctx.isServer = false) (hserver : ctx'.isServer = true)
    (hc : InExchange ctx (makeClientDhExchange params lookupVerifier random) env c)
    (hs : InExchange ctx' (makeServerDhExchange params keys random') env' s)
    (haccepts : Accepts params lookupVerifier keys (kexView ctx c.kex) (kexView ctx' s.kex)
      (random env) (random' env') key signature)
    (hid : c.sessionId = s.sessionId) (hl : c.kex.algorithmList = some l)
    (hl' : s.kex.algorithmList = some l') (hparameter : l.parameter = l'.parameter) :
    let e := params.generator ^ (random env + 1) % params.modulo
    let f := params.generator ^ (random' env' + 1) % params.modulo
    let K := mpintEncode
      (params.generator ^ ((random env + 1) * (random' env' + 1)) % params.modulo)
    let hash := params.H.digest (exchangeHashInput (kexView ctx c.kex) key.publicKey e f K)
    let id := c.sessionId.getD hash
    let secret := kexBuildSecret hash K
    let init := formatKexdhInit e
    let reply := formatKexdhReply key.publicKey f signature
    ((makeClientDhExchange params lookupVerifier random).init (kexView ctx c.kex) env).1 =
        [.send init] ∧
      (∃ h h', s.keyexchangeHandler = some (makeServerDhExchange params keys random', h) ∧
        serverDhHandler params h init = ⟨h', [.send reply], some ⟨params.H, hash, K⟩, []⟩) ∧
      (∃ h h', c.keyexchangeHandler =
          some (makeClientDhExchange params lookupVerifier random, h) ∧
        clientDhHandler params lookupVerifier h reply =
          ⟨h', [], some ⟨params.H, hash, K⟩, []⟩) ∧
      ∀ env₁ env₂, ∃ c' s',
        callHandler app ctx oracle c reply env₁ = .ok c' ∧
        callHandler app' ctx' oracle' s init env₂ = .ok s' ∧
        c'.sessionId = some id ∧ s'.sessionId = some id ∧
        (∀ events d, run (connectionStep app ctx oracle) c' events = .ok d →
          d.sessionId = some id) ∧
        (∀ events d, run (connectionStep app' ctx' oracle') s' events = .ok d →
          d.sessionId = some id) ∧
        (if weakKey params.H secret l.parameter id .clientToServer ∨
            weakKey params.H secret l.parameter id .serverToClient then
          KeysKept c c' ∧ KeysKept s s'
        else KeysMatch (directionKeys params.H secret l.parameter id .clientToServer)
          (directionKeys params.H secret l.parameter id .serverToClient) c' s') := by
  obtain ⟨h, k, h', k', hini, hini', hrep, hfin⟩ := exchange_agree haccepts
  have hhr := hc.handler_eq hini
  have hhr' := hs.handler_eq hini'
  refine ⟨congrArg Prod.fst hini, ⟨k, k', hhr', hrep⟩, ⟨h, h', hhr, hfin⟩, ?_⟩
  intro env₁ env₂
  have hres := (makeClientDhExchange_handler random h env₁ _).trans hfin
  have hres' := (makeServerDhExchange_handler keys random' k env₂ _).trans hrep
  obtain ⟨c', hc', hdone⟩ := callHandler_finishedBy app oracle env₁ hhr hres
    hc.readState hc.isSome_algorithmList
  obtain ⟨s', hs', hdone'⟩ := callHandler_finishedBy app' oracle' env₂ hhr' hres'
    hs.readState hs.isSome_algorithmList
  have hsid := hdone'.1
  rw [← hid] at hsid
  refine ⟨c', s', hc', hs', hdone.1, hsid, ?_, ?_, ?_⟩
  · intro events d hrun
    exact HasId.run hdone.1 hrun
  · intro events d hrun
    exact HasId.run hsid hrun
  · exact hdone.keysMatch hclient hserver hdone' hid hl hl' hparameter

end Connections

/-! ### Small groups -/

section Small

/-- A hash function with one octet. -/
def sumHash : Hash where
  digestSize := 1
  digest := fun m => [m.foldl (· + ·) 0]
  digestSize_pos := Nat.one_pos
  length_digest := fun _ => rfl

/-- The group modulo 23, generated by 5. -/
def group23 : DhParams where
  modulo := 23
  generator := 5
  H := sumHash
  modulo_pos := by decide
  limit_lt := by decide +kernel

/-- The group modulo 7, where 2 has order 3. -/
def group7 : DhParams where
  modulo := 7
  generator := 2
  H := sumHash
  modulo_pos := by decide
  limit_lt := by decide +kernel

/-- A key whose signature repeats the first octet. -/
def firstOctet : Keypair where
  publicKey := [1]
  sign := fun data => some (data.take 1)
  length_publicKey := by decide
  length_sign := by
    intro data signature h
    rw [← Option.some.inj h, List.length_take]
    omega

/-- The verifier for that key. -/
def firstOctetVerifier : Option Atom → Octets → Option (Octets → Octets → Bool) :=
  fun _ _ => some fun data signature => signature = data.take 1

/-- An application that does nothing. -/
def idleApp : App Unit Unit where
  notify := fun _ _ => ()
  complete := fun _ => []
  push := fun _ _ => []
  packet := fun _ _ _ _ => ([], true)
  line := fun _ => .accept
  callback := fun _ _ => []

/-- The client and the server of the group modulo 23. -/
def method23 (isServer : Bool) : KeyexchangeAlgorithm DhHandler Unit :=
  if isServer then makeServerDhExchange group23 (fun _ => some firstOctet) fun _ => 14
  else makeClientDhExchange group23 firstOctetVerifier fun _ => 5

/-- A context with one method. -/
def context23 (isServer : Bool) : TransportContext DhHandler Unit where
  isServer := isServer
  kexinit := clientInfo
  algorithms := fun _ => some (.keyexchange (method23 isServer))
  isSome_algorithms := fun _ _ => rfl

/-- All writes succeed. -/
def completeOracle : Oracle where
  outcome := fun _ => ⟨.complete, false⟩
  cookie := fun _ => zeroCookie

/-- What has been negotiated: a cipher with keys and IVs of two octets. -/
def list23 (isServer : Bool) : AlgorithmList (Algorithm (KeyexchangeAlgorithm DhHandler Unit)) where
  parameter := fun i => if i.val < 2 then some (.crypto ⟨8, 2, 2, fun _ => false⟩) else none
  keyExchange := some (.keyexchange (method23 isServer))

/-- The state after both KEXINIT messages. -/
def kex23 (isServer : Bool) : KexinitState (Algorithm (KeyexchangeAlgorithm DhHandler Unit)) where
  readState := .inProgress
  writeState := true
  version := ⟨some [1], some [2]⟩
  kexinit := ⟨none, none⟩
  literalKexinit := ⟨some [20], some [20, 0]⟩
  hostkeyAlgorithm := some .sshRsa
  algorithmList := some (list23 isServer)

/-- A connection that waits for the other end. -/
def connection23 (isServer : Bool) : Connection Unit DhHandler Unit :=
  { (initTransportConnection () : Connection Unit DhHandler Unit) with
    kex := kex23 isServer
    keyexchangeHandler := ((method23 isServer).init
      (kexView (context23 isServer) (kex23 isServer)) ()).2.map fun h => (method23 isServer, h) }

/-- The server's signature in the exchange modulo 23. -/
def signature23 : Octets :=
  (agreedHash group23 (kexView (context23 false) (kex23 false)) [1] 5 14).take 1

/-- Both connections finish the exchange modulo 23. -/
theorem dh_agreement_group23 : ∃ c' s' : Connection Unit DhHandler Unit,
    callHandler idleApp (context23 false) completeOracle (connection23 false)
      (formatKexdhReply [1] 19 signature23) () = .ok c' ∧
    callHandler idleApp (context23 true) completeOracle (connection23 true)
      (formatKexdhInit 8) () = .ok s' ∧
    c'.sessionId.isSome ∧ c'.sessionId = s'.sessionId ∧
    ∃ toServer toClient, KeysMatch toServer toClient c' s' := by
  have hc : InExchange (context23 false) (method23 false) () (connection23 false) :=
    ⟨rfl, rfl, rfl⟩
  have hs : InExchange (context23 true) (method23 true) () (connection23 true) :=
    ⟨rfl, rfl, rfl⟩
  have hacc : Accepts group23 firstOctetVerifier (fun _ => some firstOctet)
      (kexView (context23 false) (kex23 false)) (kexView (context23 true) (kex23 true)) 5 14
      firstOctet signature23 :=
    { version := rfl
      literalKexinit := rfl
      one_lt_e := by decide
      one_lt_f := by decide
      keys_eq := rfl
      sign_eq := rfl
      verify_eq := ⟨_, rfl, decide_eq_true rfl⟩ }
  obtain ⟨-, -, -, hfin⟩ := dh_agreement group23 firstOctetVerifier (fun _ => some firstOctet)
    (fun _ => 5) (fun _ => 14) idleApp idleApp (context23 false) (context23 true) completeOracle
    completeOracle (connection23 false) (connection23 true) () () firstOctet signature23
    (list23 false) (list23 true) rfl rfl hc hs hacc rfl rfl rfl rfl
  obtain ⟨c', s', hc', hs', hid, hid', -, -, hky⟩ := hfin () ()
  refine ⟨c', s', hc', hs', ?_, hid.trans hid'.symm, ?_⟩
  · rw [hid]
    rfl
  · exact ⟨_, _, hky⟩

/-- **A trivial value is rejected**: with exponent 3 the client's value modulo 7 is 1, and the
server disconnects. -/
theorem serverDhHandler_group7 :
    let view := kexView (context23 true) (kex23 true)
    (clientDhInit group7 view 2).1 = [.send (formatKexdhInit 1)] ∧
      ∃ h, serverDhInit group7 (fun _ => some firstOctet) view 0 = ([], some h) ∧
        (serverDhHandler group7 h (formatKexdhInit 1)).before =
          [.disconnect sshDisconnectKeyExchangeFailed "Invalid KEXDH_INIT message."] ∧
        (serverDhHandler group7 h (formatKexdhInit 1)).finish = none := by
  refine ⟨rfl, _, rfl, ?_, ?_⟩
  · rfl
  · rfl

end Small

end Lsh.Transport
