
import Lsh.Charset
import Lsh.Transport.Connection

/-!
# The user authentication server

A model of `lshd-userauth.c` up to the start of a service. The process reads packets from its
input with blocking reads and answers each one, until a request is granted or there have been too
many. The passwd database, the shadow database, `crypt`, the files with authorized keys and the
signature algorithms are what the system answers; the answers may differ between packets.

A function that can end the process returns `Except`. What has been read and written is kept in a
log.
-/

namespace Lsh.Userauth

open Charset Machine Wire

/-! ### Messages -/

/-- `format_userauth_failure`. -/
def formatUserauthFailure (methods : List Atom) (isPartial : ℕ) : Octets :=
  formatUint8 51 ++ formatAtomList (known methods) ++ formatUint8 isPartial

/-- `format_userauth_success`. -/
def formatUserauthSuccess : Octets := formatUint8 52

/-- `format_userauth_pk_ok`. -/
def formatUserauthPkOk (algorithm : Atom) (key : Octets) : Octets :=
  formatUint8 60 ++ formatAtom algorithm ++ formatString key

/-! ### The system -/

/-- `struct passwd`. Strings of the system have no zero octets. -/
structure Passwd where
  passwd : Option Octets
  uid : ℕ
  gid : ℕ
  dir : Option Octets
  shell : Option Octets

/-- `struct spwd`. -/
structure Spwd where
  pwdp : Option Octets
  lstchg : ℤ
  max : ℤ
  inact : ℤ
  expire : ℤ

/-- `struct verifier`: the key as an S-expression, and verification of a signature. -/
structure Verifier where
  publicSpkiKey : Octets
  verify : Atom → Octets → Octets → Bool

/-- What the system answers while one packet is processed. -/
structure System where
  getpwnam : Octets → Option Passwd
  /-- The shadow database, if there are functions to look it up. -/
  getspnam : Option (Octets → Option Spwd)
  getuid : ℕ
  /-- The environment variable `HOME`. -/
  home : Option Octets
  /-- The number of the current day. -/
  now : ℤ
  /-- `crypt` returns nothing if it does not know the method. -/
  crypt : Octets → Octets → Option Octets
  /-- There is a file of this name. -/
  stat : Octets → Bool
  sha1 : Octets → Octets
  /-- `make_ssh_dss_verifier`. -/
  makeSshDssVerifier : Octets → Option Verifier
  /-- `make_ssh_dsa_sha256_verifier`. -/
  makeSshDsaSha256Verifier : Octets → Option Verifier
  /-- `make_ssh_rsa_verifier`. -/
  makeSshRsaVerifier : Octets → Option Verifier
  /-- The answer is written. -/
  written : Bool

/-- `struct lshd_userauth_config`. A service is given by its name. -/
structure Config where
  services : List Octets
  sessionId : Octets
  allowPassword : Bool
  allowPublickey : Bool
  allowRootLogin : Bool
  /-- `local_charset`. -/
  charset : LocalCharset

/-- How the process can end early. -/
inductive Exit where
  /-- The end of the input, between packets. -/
  | endOfFile
  | readFailed
  /-- The input ends in the middle of a packet. -/
  | truncated
  | tooLarge
  | writeFailed
  | protocolError (msg : String)
  /-- The user name has no local form: the assertion in `lookup_user`. -/
  | assertion
  /-- `strcmp` is called without a string. -/
  | cryptFailed
  deriving DecidableEq, Repr

/-- `struct lshd_user`. Before the first lookup only the name is set. -/
structure LshdUser where
  name : Option Octets
  uid : ℕ
  gid : ℕ
  crypted : Option Octets
  home : Option Octets
  shell : Option Octets
  deriving DecidableEq, Repr

/-! ### Users -/

/-- `lshd_user_clear`. -/
def lshdUserClear (user : LshdUser) : LshdUser := { user with name := none }

/-- No string, or an empty one. -/
def isEmpty (s : Option Octets) : Bool := s = none ∨ s = some []

/-- The case of a shadow password in `lookup_user`, with the return value. -/
def checkShadow (sys : System) (user : LshdUser) (cname : Octets) : Bool × LshdUser :=
  match sys.getspnam with
  | none => (true, user)
  | some getspnam =>
    if user.crypted = some [120] then
      match getspnam cname with
      | none => (false, user)
      | some shadow =>
        if 0 ≤ shadow.expire ∧ shadow.expire < sys.now then (false, user)
        else if 0 ≤ shadow.inact ∧ shadow.lstchg + shadow.max < sys.now then (false, user)
        else (!isEmpty shadow.pwdp, { user with crypted := shadow.pwdp })
    else (true, user)

/-- A password field of more than one character that starts with a star. -/
def isDisabled : Option Octets → Bool
  | some (c :: _ :: _) => c = 42
  | _ => false

/-- The end of `lookup_user`: the default for the home directory. -/
def setHome (user : LshdUser) : LshdUser :=
  if isEmpty user.home then { user with home := some [47] } else user

/-- The branches of `lookup_user` for a server that is not root, and for root. -/
def checkAccount (sys : System) (user : LshdUser) (cname : Octets) (allowRootLogin : Bool) :
    Bool × LshdUser :=
  if sys.getuid ≠ 0 then
    if user.uid ≠ sys.getuid then (false, user)
    else (true, setHome { user with home := sys.home.or user.home })
  else if ¬allowRootLogin ∧ user.uid = 0 then (false, user)
  else
    let (found, user) := checkShadow sys user cname
    if ¬found then (false, user)
    else if isDisabled user.crypted then (false, user)
    else (true, setHome user)

/-- `lookup_user` after the call of `getpwnam`. -/
def usePasswd (sys : System) (user : LshdUser) (cname : Octets) (passwd : Passwd)
    (allowRootLogin : Bool) : Bool × LshdUser :=
  let user := { user with crypted := passwd.passwd }
  if isEmpty user.crypted then (false, user)
  else
    let user := { user with shell := passwd.shell }
    if isEmpty user.shell then (false, user)
    else
      checkAccount sys { user with uid := passwd.uid, gid := passwd.gid, home := passwd.dir } cname
        allowRootLogin

/-- `lookup_user`, with its return value. -/
def lookupUser (config : Config) (sys : System) (user : LshdUser) (nameUtf8 : Octets) :
    Except Exit (Bool × LshdUser) :=
  if 0 ∈ nameUtf8 then .ok (false, user)
  else
    match lowUtf8ToLocal config.charset ⟨false, true, false⟩ nameUtf8 with
    | none => .error .assertion
    | some cname =>
      if 0 ∈ cname then .error .assertion
      else
        let user := { lshdUserClear user with name := some cname }
        match sys.getpwnam cname with
        | none => .ok (false, user)
        | some passwd => .ok (usePasswd sys user cname passwd config.allowRootLogin)

/-- A system with one user, whose password is `pw` and whose `crypt` appends the salt. -/
def oneUser : System where
  getpwnam := fun name => if name = asciiOctets "u" then
    some ⟨some (asciiOctets "pwpwsalt"), 1000, 100, some (asciiOctets "/home/u"),
      some (asciiOctets "/bin/sh")⟩ else none
  getspnam := none
  getuid := 0
  home := none
  now := 0
  crypt := fun password _ => some (password ++ asciiOctets "pwsalt")
  stat := fun _ => false
  sha1 := fun s => s
  makeSshDssVerifier := fun _ => none
  makeSshDsaSha256Verifier := fun _ => none
  makeSshRsaVerifier := fun _ => none
  written := true

/-- Every name belongs to the same account. -/
def everyUser : System :=
  { oneUser with getpwnam := fun _ => oneUser.getpwnam (asciiOctets "u") }

/-- A digit of `%x`. -/
def hexDigit (n : ℕ) : UInt8 := UInt8.ofNat (if n < 10 then 48 + n else 87 + n)

/-- `%lxS`. -/
def formatHex (s : Octets) : Octets :=
  s.flatMap fun c => [hexDigit (c.toNat / 16), hexDigit (c.toNat % 16)]

/-- The file that authorizes a key. -/
def authorizationFile (sys : System) (user : LshdUser) (v : Verifier) : Octets :=
  user.home.getD [] ++ asciiOctets "/.lsh/authorized_keys_sha1/" ++
    formatHex (sys.sha1 v.publicSpkiKey)

/-- The switch in `get_verifier`. -/
def makeVerifier (sys : System) (algorithm : Option Atom) (key : Octets) : Option Verifier :=
  match algorithm with
  | some .sshDss => sys.makeSshDssVerifier key
  | some .sshDsaSha256Local => sys.makeSshDsaSha256Verifier key
  | some .sshRsa => sys.makeSshRsaVerifier key
  | _ => none

/-- `get_verifier`. -/
def getVerifier (sys : System) (user : LshdUser) (algorithm : Option Atom) (key : Octets) :
    Option Verifier := do
  let v ← makeVerifier sys algorithm key
  if sys.stat (authorizationFile sys user v) then some v else none

/-- The return values `0`, `-1` and `1` of the two methods. The message that was sent before `-1`
is returned is part of the result. -/
inductive AuthResult where
  | failure
  | pkOk (reply : Octets)
  | success
  deriving DecidableEq, Repr

/-- The parser of `handle_publickey`: the algorithm, the key, what follows them, and the signature
if there is one. -/
def parsePublickey (s : Octets) :
    Option (Option Atom × Octets × Octets × Option Octets) := do
  let (checkKey, s) ← parseBoolean s
  let (algorithm, s) ← parseAtom s
  let (key, s) ← parseString s
  if checkKey ≠ 0 then
    let (signature, rest) ← parseString s
    parseEod rest
    return (algorithm, key, s, some signature)
  else
    parseEod s
    return (algorithm, key, s, none)

/-- `handle_publickey`. `s` is what is left of the packet. -/
def handlePublickey (config : Config) (sys : System) (user : LshdUser) (packet s : Octets) :
    Except Exit AuthResult :=
  if ¬config.allowPublickey then .ok .failure
  else match parsePublickey s with
    | none => .error (.protocolError "Invalid USERAUTH_REQUEST \"publickey\"")
    | some (algorithm, key, rest, signature) =>
      match algorithm, getVerifier sys user algorithm key with
      | some algorithm, some v =>
        match signature with
        | none => .ok (.pkOk (formatUserauthPkOk algorithm key))
        | some signature =>
          let signatureStart := packet.length - rest.length
          let signedData := formatString config.sessionId ++ packet.take signatureStart
          .ok (if v.verify algorithm signedData signature then .success else .failure)
      | _, _ => .ok .failure

/-- The first parser of `handle_password`: the flag, the password, and what is left. -/
def parsePassword (s : Octets) : Option (UInt8 × Octets × Octets) := do
  let (changePasswd, s) ← parseBoolean s
  let (password, s) ← parseString s
  return (changePasswd, password, s)

/-- `handle_password`. -/
def handlePassword (config : Config) (sys : System) (user : LshdUser) (s : Octets) :
    Except Exit AuthResult :=
  if ¬config.allowPassword then .ok .failure
  else match parsePassword s with
    | none => .error (.protocolError "Invalid USERAUTH_REQUEST \"password\"")
    | some (changePasswd, password, s) =>
      if changePasswd ≠ 0 then .ok .failure
      else if s ≠ [] then .error (.protocolError "Invalid USERAUTH_REQUEST \"password\"")
      else match lowUtf8ToLocal config.charset ⟨false, false, false⟩ password, user.crypted with
        | some cpassword, some crypted =>
          if 0 ∈ cpassword then .ok .failure
          else if crypted.length < 5 then .ok .failure
          else match sys.crypt cpassword crypted with
            | none => .error .cryptFailed
            | some c => .ok (if c = crypted then .success else .failure)
        | _, _ => .ok .failure

/-! ### The main loop -/

/-- Standard input: the octets that can be read, and whether reading fails after them. -/
structure Input where
  octets : Octets
  fails : Bool

/-- What the process has done. -/
inductive LogEntry where
  | read (seqno : ℕ) (packet : Octets)
  | wrote (packet : Octets)
  deriving DecidableEq, Repr

/-- The state of the process. -/
structure Session where
  user : LshdUser
  input : Input
  log : List LogEntry

/-- `read_packet`: a header of eight octets, and the packet. -/
def readPacket (input : Input) : Except Exit ((ℕ × Octets) × Input) :=
  if input.octets.length < 8 then
    .error (if input.fails then .readFailed else if input.octets = [] then .endOfFile
      else .truncated)
  else
    let seqno := Octets.readUint32 input.octets
    let length := Octets.readUint32 (input.octets.drop 4)
    let data := input.octets.drop 8
    if sshMaxPacket < length then .error .tooLarge
    else if data.length < length then .error (if input.fails then .readFailed else .truncated)
    else .ok ((seqno, data.take length), { input with octets := data.drop length })

/-- `write_packet`. -/
def writePacket (sys : System) (s : Session) (packet : Octets) : Except (Exit × Session) Session :=
  if sys.written then .ok { s with log := s.log ++ [.wrote packet] } else .error (.writeFailed, s)

/-- `protocol_error`. -/
def protocolError (sys : System) (s : Session) (msg : String) : Exit × Session :=
  match writePacket sys s (Transport.formatDisconnect sshDisconnectProtocolError msg) with
  | .error e => e
  | .ok s => (.protocolError msg, s)

/-- The process ends early: before that, a protocol error is reported. -/
def exitWith (sys : System) (s : Session) : Exit → Exit × Session
  | .protocolError msg => protocolError sys s msg
  | e => (e, s)

/-- The list `methods`. -/
def methods (config : Config) : List Atom :=
  (if config.allowPassword then [.password] else []) ++
    if config.allowPublickey then [.publickey] else []

/-- `MAX_ATTEMPTS`. -/
def maxAttempts : ℕ := 10

section Loop

variable (config : Config) (sys : System)

/-- The label `fail`. -/
def failRequest (s : Session) : Except (Exit × Session) (Option Octets × Session) := do
  let s ← writePacket sys s (formatUserauthFailure (methods config) 0)
  return (none, { s with user := lshdUserClear s.user })

/-- The first switch of the loop. -/
def callMethod (user : LshdUser) (method : Option Atom) (packet rest : Octets) :
    Except Exit AuthResult :=
  match method with
  | some .publickey => handlePublickey config sys user packet rest
  | some .password => handlePassword config sys user rest
  | _ => .ok .failure

/-- The second switch of the loop. -/
def answerRequest (s : Session) (service : Octets) :
    AuthResult → Except (Exit × Session) (Option Octets × Session)
  | .failure => failRequest config sys s
  | .pkOk reply => do
    let s ← writePacket sys s reply
    return (none, s)
  | .success => do
    let s ← writePacket sys s formatUserauthSuccess
    return (some service, s)

/-- The parser of the loop: user, service and method, and what is left. -/
def parseUserauthRequest (s : Octets) : Option (Octets × Octets × Option Atom × Octets) := do
  let (user, s) ← parseString s
  let (service, s) ← parseString s
  let (method, s) ← parseAtom s
  return (user, service, method, s)

/-- The loop for a USERAUTH_REQUEST. `body` follows the message number. -/
def handleRequest (s : Session) (packet body : Octets) :
    Except (Exit × Session) (Option Octets × Session) :=
  match parseUserauthRequest body with
  | none => .error (protocolError sys s "Invalid USERAUTH_REQUEST message")
  | some (name, serviceName, method, rest) =>
    match config.services.find? (· = serviceName) with
    | none => failRequest config sys s
    | some service =>
      match lookupUser config sys s.user name with
      | .error e => .error (exitWith sys s e)
      | .ok (found, user) =>
        let s := { s with user := user }
        if ¬found then failRequest config sys s
        else match callMethod config sys user method packet rest with
          | .error e => .error (exitWith sys s e)
          | .ok result => answerRequest config sys s service result

/-- One round of the loop in `handle_userauth`: the service, if a request was granted. -/
def handleAttempt (s : Session) : Except (Exit × Session) (Option Octets × Session) :=
  match readPacket s.input with
  | .error e => .error (e, s)
  | .ok ((seqno, packet), input) =>
    let s := { s with input := input, log := s.log ++ [.read seqno packet] }
    match packet with
    | [] => .error (protocolError sys s "Received empty packet.\n")
    | msg :: body =>
      if msg ≠ 50 then do
        let s ← writePacket sys s (Transport.formatUnimplemented seqno)
        return (none, s)
      else handleRequest config sys s packet body

end Loop

/-- The loop of `handle_userauth`, with the number of rounds left. `sys` tells what the system
answers in each round. -/
def userauthLoop (config : Config) (sys : ℕ → System) :
    ℕ → ℕ → Session → Except (Exit × Session) (Option Octets × Session)
  | 0, _, s => .ok (none, s)
  | n + 1, attempt, s => do
    let (service, s) ← handleAttempt config (sys attempt) s
    if service.isSome then return (service, s) else userauthLoop config sys n (attempt + 1) s

/-- `handle_userauth`: the service, if a request was granted. -/
def handleUserauth (config : Config) (sys : ℕ → System) (s : Session) :
    Except (Exit × Session) (Option Octets × Session) :=
  userauthLoop config sys maxAttempts 0 s

end Lsh.Userauth
