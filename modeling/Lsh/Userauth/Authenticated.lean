
import Lsh.Userauth.Server

/-!
# No service without authentication

What holds for every input of the user authentication server and everything that the system may
answer. Each packet is one round of the loop, and gets one reply. A round grants a service only to
a request that proves the identity of the user it names: the record of the user comes from that
request alone, although it is kept from round to round.

## Main results

* `lookupUser_congr` — the record of a user does not depend on the record before
* `handleAttempt_ensures` — one round
* `handleUserauth_authenticated` — the whole loop
-/

namespace Lsh.Userauth

open Charset Machine Wire List

/-! ### What a granted request proves -/

/-- A password was accepted: the rest of the request is a password, which after conversion is what
`crypt` compares the field of the user's record with. -/
def PasswordAccepted (config : Config) (sys : System) (user : LshdUser) (rest : Octets) : Prop :=
  config.allowPassword ∧ ∃ s password cpassword crypted,
    rest = 0 :: s ∧ parseString s = some (password, []) ∧
    lowUtf8ToLocal config.charset ⟨false, false, false⟩ password = some cpassword ∧
    user.crypted = some crypted ∧ 5 ≤ crypted.length ∧ sys.crypt cpassword crypted = some crypted

/-- A signature was accepted: it is the last string of the packet, and signs the session identifier
and everything before it in the packet, with a key that has a file in the user's directory. -/
def SignatureAccepted (config : Config) (sys : System) (user : LshdUser) (packet rest : Octets) :
    Prop :=
  config.allowPublickey ∧ ∃ algorithm key signed formatted signature v,
    packet = signed ++ formatted ∧ parseString formatted = some (signature, []) ∧
    parsePublickey rest = some (some algorithm, key, formatted, some signature) ∧
    getVerifier sys user (some algorithm) key = some v ∧
    sys.stat (authorizationFile sys user v) ∧
    v.verify algorithm (formatString config.sessionId ++ signed) signature

/-- **A granted request**: it names the service and a user, whose record does not depend on what
happened before, and proves the identity of this user. -/
def Granted (config : Config) (sys : System) (packet service : Octets) (user : LshdUser) : Prop :=
  ∃ body name method rest, packet = 50 :: body ∧
    parseUserauthRequest body = some (name, service, method, rest) ∧
    service ∈ config.services ∧
    (∀ before, lookupUser config sys before name = .ok (true, user)) ∧
    ((method = some .password ∧ PasswordAccepted config sys user rest) ∨
      (method = some .publickey ∧ SignatureAccepted config sys user packet rest))

/-! ### The record of a user -/

/-- The fields of a record that `getpwnam` fills in. -/
def passwdUser (name : Option Octets) (passwd : Passwd) : LshdUser where
  name := name
  uid := passwd.uid
  gid := passwd.gid
  crypted := passwd.passwd
  home := passwd.dir
  shell := passwd.shell

theorem usePasswd_eq (sys user cname passwd allowRootLogin) :
    usePasswd sys user cname passwd allowRootLogin =
      if isEmpty passwd.passwd then (false, { user with crypted := passwd.passwd })
      else if isEmpty passwd.shell then
        (false, { user with crypted := passwd.passwd, shell := passwd.shell })
      else checkAccount sys (passwdUser user.name passwd) cname allowRootLogin := rfl

variable {config : Config} {sys : System} {user : LshdUser} {name : Octets}

/-- **The record of a user** that is found does not depend on the record before. -/
theorem lookupUser_congr {user' : LshdUser}
    (h : lookupUser config sys user name = .ok (true, user')) (before) :
    lookupUser config sys before name = .ok (true, user') := by
  rw [lookupUser] at h ⊢
  split_ifs at h ⊢ with hz0
  · cases h
  · cases hloc : lowUtf8ToLocal config.charset ⟨false, true, false⟩ name with
    | none =>
      rw [hloc] at h
      cases h
    | some cname =>
      rw [hloc] at h
      dsimp only at h ⊢
      split_ifs at h ⊢ with hcname
      cases hpw : sys.getpwnam cname with
      | none =>
        rw [hpw] at h
        cases h
      | some passwd =>
        rw [hpw] at h
        dsimp only at h ⊢
        rw [usePasswd_eq] at h ⊢
        split_ifs at h ⊢
        · cases Except.ok.inj h
        · cases Except.ok.inj h
        · exact h

/-! ### The methods -/

/-- What a method may return: success is justified by `P`, and PK_OK has been sent for some key. -/
def Justified (P : Prop) : AuthResult → Prop
  | .failure => True
  | .pkOk reply => ∃ algorithm key, reply = formatUserauthPkOk algorithm key
  | .success => P

variable {rest s : Octets}

theorem parsePassword_eq {changePasswd : UInt8} {password : Octets}
    (h : parsePassword rest = some (changePasswd, password, s)) :
    ∃ t, rest = changePasswd :: t ∧ parseString t = some (password, s) := by
  cases rest with
  | nil => cases h
  | cons b t =>
    obtain ⟨⟨p, t'⟩, hstr, hres⟩ := Option.bind_eq_some_iff.mp h
    cases hres
    exact ⟨t, rfl, hstr⟩

theorem handlePassword_ensures (config sys user rest) :
    Returns (Justified (PasswordAccepted config sys user rest))
      (handlePassword config sys user rest) := by
  rw [handlePassword]
  split_ifs with hallow
  · split
    · trivial
    · rename_i changePasswd password s hparse
      split_ifs with hchange hs
      · trivial
      · trivial
      · split
        · rename_i cpassword crypted hloc hcrypted
          split_ifs with hz0 hlen
          · trivial
          · trivial
          · cases hcry : sys.crypt cpassword crypted with
            | none => trivial
            | some c =>
              dsimp only [ensures_ok]
              split_ifs with heq
              · obtain ⟨t, hre, hstr⟩ := parsePassword_eq hparse
                rw [of_not_not hchange] at hre
                rw [of_not_not hs] at hstr
                rw [heq] at hcry
                exact ⟨hallow, t, password, cpassword, crypted, hre, hstr, hloc, hcrypted,
                  Nat.le_of_not_lt hlen, hcry⟩
              · trivial
        · trivial
  · trivial

variable {algorithm : Option Atom} {tail : List LogEntry} {key : Octets}

theorem getVerifier_stat {v : Verifier} (h : getVerifier sys user algorithm key = some v) :
    sys.stat (authorizationFile sys user v) := by
  obtain ⟨w, -, hstat⟩ := Option.bind_eq_some_iff.mp h
  split_ifs at hstat with hfile
  cases hstat
  exact hfile

/-- What is left after the key is a suffix of the request, and nothing but the signature. -/
theorem parsePublickey_signature {sig : Octets}
    (h : parsePublickey s = some (algorithm, key, rest, some sig)) :
    rest <:+ s ∧ parseString rest = some (sig, []) := by
  obtain ⟨⟨b, t⟩, hboolean, h⟩ := Option.bind_eq_some_iff.mp h
  obtain ⟨⟨a, t'⟩, hat, h⟩ := Option.bind_eq_some_iff.mp h
  obtain ⟨⟨k, t''⟩, hkey, h⟩ := Option.bind_eq_some_iff.mp h
  have hsuffix : t'' <:+ s := (isSuffix_of_parseString hkey).trans
    ((isSuffix_of_parseAtom hat).trans (isSuffix_of_parseBoolean hboolean))
  split_ifs at h with hchk
  · obtain ⟨⟨g, r⟩, hsig, h⟩ := Option.bind_eq_some_iff.mp h
    obtain ⟨_, heod, h⟩ := Option.bind_eq_some_iff.mp h
    dsimp only [parseEod] at heod
    split_ifs at heod with hr
    cases h
    exact ⟨hsuffix, hr ▸ hsig⟩
  · obtain ⟨-, -, h⟩ := Option.bind_eq_some_iff.mp h
    cases h

variable {pkt : List UInt8}

theorem handlePublickey_ensures {rest : List UInt8} (config sys user) (hre : rest <:+ pkt) :
    Returns (Justified (SignatureAccepted config sys user pkt rest))
      (handlePublickey config sys user pkt rest) := by
  rw [handlePublickey]
  split_ifs with hallow
  · split
    · trivial
    · rename_i parsed key formatted sig hparse
      split
      · rename_i algorithm v hvfr
        cases sig with
        | none => exact ⟨algorithm, key, rfl⟩
        | some sig =>
          dsimp only [ensures_ok]
          split_ifs with hvfy
          · obtain ⟨hfmt, hsig⟩ := parsePublickey_signature hparse
            obtain ⟨signed, hpkt⟩ := hfmt.trans hre
            have hsigned : pkt.take (pkt.length - formatted.length) = signed := by
              rw [← hpkt, length_append, Nat.add_sub_cancel, take_left]
            rw [hsigned] at hvfy
            exact ⟨hallow, algorithm, key, signed, formatted, sig, v,
              hpkt.symm, hsig, hparse, hvfr, getVerifier_stat hvfr, hvfy⟩
          · trivial
      · trivial
  · trivial

/-! ### One round -/

/-- A reply to a request that is not granted. -/
def IsReply (config : Config) (reply : Octets) : Prop :=
  reply = formatUserauthFailure (methods config) 0 ∨
    ∃ algorithm key, reply = formatUserauthPkOk algorithm key

/-- The process ended without an answer, or with DISCONNECT. -/
def Ended (s : Session) (e : Exit × Session) : Prop :=
  e.2.log = s.log ∨ ∃ msg, e.2.log =
    s.log ++ [.wrote (Transport.formatDisconnect sshDisconnectProtocolError msg)]

/-- A request was answered. -/
def Requested (config : Config) (sys : System) (packet : Octets) (s : Session) :
    Option Octets × Session → Prop
  | (none, s') => ∃ reply, s'.log = s.log ++ [.wrote reply] ∧ IsReply config reply
  | (some service, s') => s'.log = s.log ++ [.wrote formatUserauthSuccess] ∧
    Granted config sys packet service s'.user

theorem writePacket_ensures (sys s pkt) :
    Ensures (Ended s) (fun s' => s' = { s with log := s.log ++ [.wrote pkt] })
      (writePacket sys s pkt) := by
  rw [writePacket]
  split_ifs
  · rfl
  · exact .inl rfl

theorem ended_protocolError (sys s msg) : Ended s (protocolError sys s msg) := by
  have h := writePacket_ensures sys s (Transport.formatDisconnect sshDisconnectProtocolError msg)
  rw [protocolError]
  cases hwr : writePacket sys s (Transport.formatDisconnect sshDisconnectProtocolError msg) with
  | error e =>
    rw [hwr] at h
    exact h
  | ok s' =>
    rw [hwr] at h
    refine .inr ⟨msg, ?_⟩
    rw [show s' = _ from h]

theorem ended_exitWith (sys s e) : Ended s (exitWith sys s e) := by
  cases e with
  | protocolError msg => exact ended_protocolError sys s msg
  | _ => exact .inl rfl

theorem failRequest_ensures (config sys pkt s) :
    Ensures (Ended s) (Requested config sys pkt s) (failRequest config sys s) := by
  refine (writePacket_ensures sys s _).bind ?_
  rintro s' rfl
  exact ⟨_, rfl, .inl rfl⟩

theorem callMethod_ensures {rest : List UInt8} (config sys user method) (hre : rest <:+ pkt) :
    Returns (Justified
      ((method = some .password ∧ PasswordAccepted config sys user rest) ∨
        (method = some .publickey ∧ SignatureAccepted config sys user pkt rest)))
      (callMethod config sys user method pkt rest) := by
  have hjus {P Q : Prop} (h : P → Q) (r : AuthResult) (hr : Justified P r) : Justified Q r := by
    cases r with
    | failure => trivial
    | pkOk reply => exact hr
    | success => exact h hr
  rw [callMethod.eq_def]
  split
  · exact (handlePublickey_ensures config sys user hre).mono (hjus fun h => .inr ⟨rfl, h⟩)
  · exact (handlePassword_ensures config sys user rest).mono (hjus fun h => .inl ⟨rfl, h⟩)
  · trivial

theorem isSuffix_of_parseUserauthRequest {service : Octets} {method : Option Atom}
    (h : parseUserauthRequest s = some (name, service, method, rest)) : rest <:+ s := by
  obtain ⟨⟨a, t⟩, hnm, h⟩ := Option.bind_eq_some_iff.mp h
  obtain ⟨⟨b, t'⟩, hsvc, h⟩ := Option.bind_eq_some_iff.mp h
  obtain ⟨⟨c, t''⟩, hmet, h⟩ := Option.bind_eq_some_iff.mp h
  cases h
  exact (isSuffix_of_parseAtom hmet).trans
    ((isSuffix_of_parseString hsvc).trans (isSuffix_of_parseString hnm))

/-- **A request.** -/
theorem handleRequest_ensures (config sys s body) :
    Ensures (Ended s) (Requested config sys (50 :: body) s)
      (handleRequest config sys s (50 :: body) body) := by
  rw [handleRequest]
  cases hparse : parseUserauthRequest body with
  | none => exact ended_protocolError sys s _
  | some req =>
    obtain ⟨name, serviceName, method, rest⟩ := req
    have hre : rest <:+ 50 :: body :=
      (isSuffix_of_parseUserauthRequest hparse).trans (suffix_cons _ _)
    dsimp only
    cases hfind : config.services.find? (· = serviceName) with
    | none => exact failRequest_ensures config sys (50 :: body) s
    | some service =>
      have hsvc := find?_some hfind
      obtain rfl : service = serviceName := of_decide_eq_true hsvc
      cases hlk : lookupUser config sys s.user name with
      | error e => exact ended_exitWith sys s e
      | ok found =>
        obtain ⟨found, user⟩ := found
        dsimp only
        split_ifs with hfnd
        · have hmet := callMethod_ensures config sys user method hre
          cases hcall : callMethod config sys user method (50 :: body) rest with
          | error e => exact ended_exitWith sys { s with user := user } e
          | ok res =>
            rw [hcall] at hmet
            cases res with
            | failure => exact failRequest_ensures config sys (50 :: body) { s with user := user }
            | pkOk reply =>
              refine (writePacket_ensures sys { s with user := user } reply).bind ?_
              rintro s' rfl
              exact ⟨reply, rfl, .inr hmet⟩
            | success =>
              refine (writePacket_ensures sys { s with user := user } _).bind ?_
              rintro s' rfl
              exact ⟨rfl, body, name, method, rest, rfl, hparse, mem_of_find?_eq_some hfind,
                lookupUser_congr (hfnd ▸ hlk), hmet⟩
        · exact failRequest_ensures config sys (50 :: body) { s with user := user }

/-- A packet and the reply to it. -/
structure Round where
  seqno : ℕ
  packet : Octets
  reply : Octets

/-- What a round adds to the log. -/
def Round.entries (r : Round) : List LogEntry := [.read r.seqno r.packet, .wrote r.reply]

/-- **A round without success**: a request gets FAILURE or PK_OK, and another packet
UNIMPLEMENTED. -/
def Answered (config : Config) (r : Round) : Prop :=
  (r.packet.head? = some 50 → IsReply config r.reply) ∧
    (r.packet.head? ≠ some 50 → r.reply = Transport.formatUnimplemented r.seqno)

/-- What is in the log of the last round of a process that ended early: at most a packet and
DISCONNECT. -/
def Interrupted (tail : List LogEntry) : Prop :=
  tail = [] ∨ ∃ seqno packet, tail = [.read seqno packet] ∨ ∃ msg, tail = [.read seqno packet,
    .wrote (Transport.formatDisconnect sshDisconnectProtocolError msg)]

/-- The result of one round. -/
def Attempted (config : Config) (sys : System) (s : Session) : Option Octets × Session → Prop
  | (none, s') => ∃ r : Round, Answered config r ∧ s'.log = s.log ++ r.entries
  | (some service, s') => ∃ seqno packet,
    s'.log = s.log ++ [.read seqno packet, .wrote formatUserauthSuccess] ∧
      Granted config sys packet service s'.user

/-- **One round.** -/
theorem handleAttempt_ensures (config sys s) :
    Ensures (fun e => ∃ tail, Interrupted tail ∧ e.2.log = s.log ++ tail) (Attempted config sys s)
      (handleAttempt config sys s) := by
  rw [handleAttempt]
  cases readPacket s.input with
  | error e => exact ⟨[], .inl rfl, (append_nil _).symm⟩
  | ok res =>
    obtain ⟨⟨seqno, pkt⟩, input⟩ := res
    obtain ⟨t, ht⟩ : ∃ t : Session, { s with
      input := input, log := s.log ++ [.read seqno pkt] } = t := ⟨_, rfl⟩
    have hlog : t.log = s.log ++ [.read seqno pkt] := by rw [← ht]
    -- whatever ends the process leaves the pkt in the log
    have hen (e : Exit × Session) (he : Ended t e) :
        ∃ tail, Interrupted tail ∧ e.2.log = s.log ++ tail := by
      rcases he with he | ⟨msg, he⟩
      · exact ⟨_, .inr ⟨seqno, pkt, .inl rfl⟩, he.trans hlog⟩
      · refine ⟨_, .inr ⟨seqno, pkt, .inr ⟨msg, rfl⟩⟩, ?_⟩
        rw [he, hlog, append_assoc]
        rfl
    dsimp only
    rw [ht]
    cases pkt with
    | nil => exact hen _ (ended_protocolError sys t _)
    | cons msg body =>
      dsimp only
      split_ifs with hmsg
      · refine ((writePacket_ensures sys t _).imp hen fun _ h => h).bind ?_
        rintro s' rfl
        refine ⟨⟨seqno, msg :: body, Transport.formatUnimplemented seqno⟩, ⟨?_, fun _ => rfl⟩, ?_⟩
        · exact fun h => absurd (Option.some.inj h) hmsg
        · rw [hlog, append_assoc]
          rfl
      · obtain rfl : msg = 50 := of_not_not hmsg
        refine (handleRequest_ensures config sys t body).imp hen ?_
        rintro ⟨service, s'⟩ hreqd
        cases service with
        | none =>
          obtain ⟨reply, hs', hrep⟩ := hreqd
          refine ⟨⟨seqno, 50 :: body, reply⟩, ⟨fun _ => hrep, fun h => absurd rfl h⟩, ?_⟩
          rw [hs', hlog, append_assoc]
          rfl
        | some service =>
          obtain ⟨hs', hgr⟩ := hreqd
          refine ⟨seqno, 50 :: body, ?_, hgr⟩
          rw [hs', hlog, append_assoc]
          rfl

/-! ### The loop -/

/-- The log of some rounds. -/
def entriesOf (rounds : List Round) : List LogEntry := rounds.flatMap Round.entries

/-- The result of the loop with `n` rounds left. -/
def Completed (config : Config) (sys : ℕ → System) (n attempt : ℕ) (s : Session) :
    Option Octets × Session → Prop
  | (none, s') => ∃ rounds : List Round, rounds.length = n ∧ (∀ r ∈ rounds, Answered config r) ∧
    s'.log = s.log ++ entriesOf rounds
  | (some service, s') => ∃ (rounds : List Round) (seqno : ℕ) (packet : Octets),
    rounds.length < n ∧ (∀ r ∈ rounds, Answered config r) ∧
    s'.log = s.log ++ (entriesOf rounds ++ [.read seqno packet, .wrote formatUserauthSuccess]) ∧
    Granted config (sys (attempt + rounds.length)) packet service s'.user

/-- The loop ended early. -/
def Stopped (config : Config) (n : ℕ) (s : Session) (e : Exit × Session) : Prop :=
  ∃ (rounds : List Round) (tail : List LogEntry), rounds.length < n ∧
    (∀ r ∈ rounds, Answered config r) ∧ Interrupted tail ∧
    e.2.log = s.log ++ (entriesOf rounds ++ tail)

/-- **The loop**, by induction on the number of rounds left. -/
theorem userauthLoop_ensures (cfg sys n attempt s) :
    Ensures (Stopped cfg n s) (Completed cfg sys n attempt s)
      (userauthLoop cfg sys n attempt s) := by
  induction n generalizing attempt s with
  | zero => exact ⟨[], rfl, nofun, (append_nil _).symm⟩
  | succ n ih =>
    rw [userauthLoop]
    have hatt := handleAttempt_ensures cfg (sys attempt) s
    cases hres : handleAttempt cfg (sys attempt) s with
    | error e =>
      rw [hres] at hatt
      obtain ⟨tail, htl, hlog⟩ := hatt
      exact ⟨[], tail, Nat.succ_pos n, nofun, htl, hlog⟩
    | ok res =>
      rw [hres] at hatt
      obtain ⟨service, s'⟩ := res
      cases service with
      | some service =>
        obtain ⟨seqno, pkt, hlog, hgr⟩ := hatt
        exact ⟨[], seqno, pkt, Nat.succ_pos n, nofun, hlog, hgr⟩
      | none =>
        obtain ⟨r, hr, hlog⟩ := hatt
        have hall {rounds : List Round} (h : ∀ r ∈ rounds, Answered cfg r) :
            ∀ r' ∈ r :: rounds, Answered cfg r' := List.forall_mem_cons.mpr ⟨hr, h⟩
        have hent (rounds : List Round) (tail : List LogEntry) :
            s'.log ++ (entriesOf rounds ++ tail) = s.log ++ (entriesOf (r :: rounds) ++ tail) := by
          rw [hlog, entriesOf, entriesOf, flatMap_cons, append_assoc, append_assoc]
        refine (ih (attempt + 1) s').imp ?_ ?_
        · rintro e ⟨rounds, tail, hlen, has, htl, he⟩
          exact ⟨r :: rounds, tail, Nat.succ_lt_succ hlen, hall has, htl,
            he.trans (hent rounds tail)⟩
        · rintro ⟨service, t⟩ hcmpd
          cases service with
          | none =>
            obtain ⟨rounds, hlen, has, ht⟩ := hcmpd
            refine ⟨r :: rounds, congrArg Nat.succ hlen, hall has, ?_⟩
            have h := hent rounds []
            rw [append_nil, append_nil] at h
            exact ht.trans h
          | some service =>
            obtain ⟨rounds, seqno, pkt, hlen, has, ht, hgr⟩ := hcmpd
            refine ⟨r :: rounds, seqno, pkt, Nat.succ_lt_succ hlen, hall has,
              ht.trans (hent rounds _), ?_⟩
            rw [length_cons, ← Nat.add_assoc, Nat.add_right_comm]
            exact hgr

/-- The log at the end. -/
def finalLog : Except (Exit × Session) (Option Octets × Session) → List LogEntry
  | .ok (_, s) => s.log
  | .error (_, s) => s.log

/-- The entry of a packet that was read. -/
def LogEntry.isRead : LogEntry → Bool
  | read _ _ => true
  | wrote _ => false

theorem countP_entriesOf (rounds) : (entriesOf rounds).countP LogEntry.isRead = rounds.length := by
  induction rounds with
  | nil => rfl
  | cons r rounds ih =>
    rw [entriesOf, flatMap_cons, countP_append, ← entriesOf, ih, Nat.add_comm]
    rfl

/-- The first octet tells SUCCESS from the other replies. -/
theorem success_not_mem_entriesOf {rounds : List Round} (h : ∀ r ∈ rounds, Answered config r) :
    LogEntry.wrote formatUserauthSuccess ∉ entriesOf rounds := by
  intro hmem
  obtain ⟨r, hr, hent⟩ := List.mem_flatMap.mp hmem
  have hrep : formatUserauthSuccess = r.reply := by
    simpa [Round.entries] using hent
  obtain ⟨hreq, hoth⟩ := h r hr
  have hhd : r.reply.head? = some 52 := by
    rw [← hrep]
    rfl
  by_cases hpkt : r.packet.head? = some 50
  · rcases hreq hpkt with heq | ⟨algorithm, key, heq⟩
    · rw [heq] at hhd
      cases hhd
    · rw [heq] at hhd
      cases hhd
  · rw [hoth hpkt] at hhd
    cases hhd

theorem success_not_mem_of_interrupted (h : Interrupted tail) :
    LogEntry.wrote formatUserauthSuccess ∉ tail := by
  rcases h with rfl | ⟨seqno, pkt, rfl | ⟨msg, rfl⟩⟩
  · exact not_mem_nil
  · simp
  · intro hmem
    have heq : formatUserauthSuccess =
        Transport.formatDisconnect sshDisconnectProtocolError msg := by simpa using hmem
    cases congrArg head? heq

theorem countP_of_interrupted (h : Interrupted tail) : tail.countP LogEntry.isRead ≤ 1 := by
  rcases h with rfl | ⟨seqno, pkt, rfl | ⟨msg, rfl⟩⟩
  · exact Nat.zero_le 1
  · exact Nat.le_refl 1
  · exact Nat.le_refl 1

/-- **No service without authentication.** Whatever is read and whatever the system answers:
`handle_userauth` returns a service only if the last packet is a granted request for it, and the
record of the user is the one of this request; every packet before got one reply, which is FAILURE
or PK_OK for a request; SUCCESS is sent at most once, as the last message and with a service; and
at most `MAX_ATTEMPTS` packets are read. -/
theorem handleUserauth_authenticated (config : Config) (sys : ℕ → System) (user : LshdUser)
    (input : Input) :
    let result := handleUserauth config sys ⟨user, input, []⟩
    (∀ service s, result = .ok (some service, s) →
      ∃ (rounds : List Round) (seqno : ℕ) (packet : Octets), (∀ r ∈ rounds, Answered config r) ∧
        s.log = entriesOf rounds ++ [.read seqno packet, .wrote formatUserauthSuccess] ∧
        Granted config (sys rounds.length) packet service s.user) ∧
      (∀ s, result = .ok (none, s) → ∃ rounds : List Round, (∀ r ∈ rounds, Answered config r) ∧
        s.log = entriesOf rounds) ∧
      (∀ e s, result = .error (e, s) → ∃ (rounds : List Round) (tail : List LogEntry),
        (∀ r ∈ rounds, Answered config r) ∧ Interrupted tail ∧
          s.log = entriesOf rounds ++ tail) ∧
      LogEntry.wrote formatUserauthSuccess ∉ (finalLog result).dropLast ∧
      (LogEntry.wrote formatUserauthSuccess ∈ finalLog result →
        ∃ service s, result = .ok (some service, s)) ∧
      (finalLog result).countP LogEntry.isRead ≤ maxAttempts := by
  intro result
  have hloop : Ensures (Stopped config maxAttempts ⟨user, input, []⟩)
      (Completed config sys maxAttempts 0 ⟨user, input, []⟩) result :=
    userauthLoop_ensures config sys maxAttempts 0 ⟨user, input, []⟩
  generalize result = x at hloop ⊢
  cases x with
  | error e =>
    obtain ⟨rounds, tail, hlen, hansd, htl, hlog⟩ := hloop
    have hnot : LogEntry.wrote formatUserauthSuccess ∉ entriesOf rounds ++ tail :=
      fun h => (List.mem_append.mp h).elim (success_not_mem_entriesOf hansd)
        (success_not_mem_of_interrupted htl)
    have hfnl : finalLog (.error e) = entriesOf rounds ++ tail := hlog
    refine ⟨nofun, nofun, ?_, ?_, ?_, ?_⟩
    · rintro e s ⟨⟩
      exact ⟨rounds, tail, hansd, htl, hlog⟩
    · rw [hfnl]
      exact fun h => hnot (mem_of_mem_dropLast h)
    · rw [hfnl]
      exact fun h => absurd h hnot
    · have hone := countP_of_interrupted htl
      rw [hfnl, countP_append, countP_entriesOf]
      omega
  | ok r =>
    obtain ⟨service, s⟩ := r
    cases service with
    | none =>
      obtain ⟨rounds, hlen, hansd, hlog⟩ := hloop
      have hnot := success_not_mem_entriesOf hansd
      have hfnl : finalLog (.ok (none, s)) = entriesOf rounds := hlog
      refine ⟨nofun, ?_, nofun, ?_, ?_, ?_⟩
      · rintro s ⟨⟩
        exact ⟨rounds, hansd, hlog⟩
      · rw [hfnl]
        exact fun h => hnot (mem_of_mem_dropLast h)
      · rw [hfnl]
        exact fun h => absurd h hnot
      · rw [hfnl, countP_entriesOf, hlen]
    | some service =>
      obtain ⟨rounds, seqno, packet, hlen, hansd, hlog, hgr⟩ := hloop
      have hfnl : finalLog (.ok (some service, s)) = entriesOf rounds ++
        [.read seqno packet, .wrote formatUserauthSuccess] := hlog
      refine ⟨?_, nofun, nofun, ?_, fun _ => ⟨service, s, rfl⟩, ?_⟩
      · rintro service s ⟨⟩
        refine ⟨rounds, seqno, packet, hansd, hlog, ?_⟩
        rwa [Nat.zero_add] at hgr
      · rw [hfnl, dropLast_append_of_ne_nil (by simp)]
        intro h
        rcases List.mem_append.mp h with h | h
        · exact success_not_mem_entriesOf hansd h
        · simp at h
      · rw [hfnl, countP_append, countP_entriesOf]
        exact hlen

/-- A request with a password, as it arrives at the process. -/
def passwordRequest (user password : String) : Octets :=
  let packet := formatUint8 50 ++ formatString (asciiOctets user) ++
    formatString (asciiOctets "ssh-connection") ++ formatAtom .password ++ formatUint8 0 ++
    formatString (asciiOctets password)
  Octets.writeUint32 0 ++ formatString packet

example : ((handleUserauth
    ⟨[asciiOctets "ssh-connection"], [1], true, false, false, .utf8⟩ (fun _ => oneUser)
    ⟨⟨none, 0, 0, none, none, none⟩,
      ⟨passwordRequest "v" "pw" ++ passwordRequest "u" "no" ++ passwordRequest "u" "pw", false⟩,
      []⟩).toOption.map fun r => (r.1, r.2.user.uid, r.2.log.length)) =
    some (some (asciiOctets "ssh-connection"), 1000, 6) := by
  decide +kernel

end Lsh.Userauth
