
import Mathlib.Data.Fin.VecNotation
import Mathlib.Data.Fintype.Basic
import Mathlib.Tactic.FinCases
import Lsh.Wire

/-!
# Algorithm negotiation

A model of the part of `keyexchange.c` that reads and writes KEXINIT messages and selects
algorithms from them. `handleKexinit` is run by both ends: each has its own message as an object
and gets the other one as a packet, and each keeps the two messages in a pair of slots, the
client's first, so that the same code can be read in both roles.

Atoms are `Option Atom`, where `none` is the value 0 that the source uses for unknown names. The
table of algorithm objects is a parameter, since all that negotiation does with an object is to
store it.

## Main results

* `parseKexinit_formatKexinit` — a message made of known atoms is read back
* `handleKexinit_of_parse` — what a received message does, in terms of the two messages
* `isFirstCommon_selectAlgorithm` — what the search finds
* `handleKexinit_agree` — both ends select the same algorithms
-/

namespace Lsh.Kex

open Machine Wire List

/-- Assertions of the key exchange. -/
inductive KexAssertion where
  /-- `handle_kexinit`: the read state is `KEX_STATE_INIT`. -/
  | handleKexinit
  /-- `handle_kexinit`: our own message has been sent. -/
  | ownKexinit
  /-- `transport_send_kexinit`: the read state is `KEX_STATE_INIT`. -/
  | sendKexinit
  /-- `transport_keyexchange_finish`: the read state is `KEX_STATE_IN_PROGRESS`. -/
  | keyexchangeFinish
  /-- `keyexchange_finish` and the code that starts the selected method: there is a list of
  selected algorithms, and the method in it is not a null pointer. -/
  | algorithmList
  /-- `transport_process_packet`: the handler of the selected method is not a null pointer. -/
  | handler
  deriving DecidableEq, Repr

/-- An array with an entry for the client, at index 0, and one for the server, at index 1. -/
structure Sides (α : Type*) where
  client : α
  server : α

namespace Sides

variable {α : Type*}

/-- The entry at index `isServer`. -/
def get (a : Sides α) (isServer : Bool) : α := if isServer then a.server else a.client

/-- Assignment to the entry at index `isServer`. -/
def set (a : Sides α) (isServer : Bool) (x : α) : Sides α :=
  if isServer then { a with server := x } else { a with client := x }

@[simp] theorem get_true (a : Sides α) : a.get true = a.server := rfl

@[simp] theorem get_false (a : Sides α) : a.get false = a.client := rfl

@[simp] theorem get_set_self (a : Sides α) (b x) : (a.set b x).get b = x := by
  cases b <;> rfl

@[simp] theorem get_set_not (a : Sides α) (b x) : (a.set (!b) x).get b = a.get b := by
  cases b <;> rfl

end Sides

/-! ### Messages -/

/-- `KEXINIT_MAX_ALGORITMS`. -/
def kexinitMaxAlgorithms : ℕ := 500

/-- `SSH_MSG_KEXINIT`. -/
def sshMsgKexinit : ℕ := 20

/-- `KEX_ENCRYPTION_CLIENT_TO_SERVER`. -/
def kexEncryptionClientToServer : Fin 6 := 0

/-- `KEX_ENCRYPTION_SERVER_TO_CLIENT`. -/
def kexEncryptionServerToClient : Fin 6 := 1

/-- `KEX_MAC_CLIENT_TO_SERVER`. -/
def kexMacClientToServer : Fin 6 := 2

/-- `KEX_MAC_SERVER_TO_CLIENT`. -/
def kexMacServerToClient : Fin 6 := 3

/-- `KEX_COMPRESSION_CLIENT_TO_SERVER`. -/
def kexCompressionClientToServer : Fin 6 := 4

/-- `KEX_COMPRESSION_SERVER_TO_CLIENT`. -/
def kexCompressionServerToClient : Fin 6 := 5

/-- The index `type ^ is_server`. -/
def typeFor (type : Fin 6) (isServer : Bool) : Fin 6 := type ^^^ (if isServer then 1 else 0)

/-- `struct kexinit`, without the packet that may be sent along with it: no caller sets one. -/
structure Kexinit where
  cookie : Octets
  kexAlgorithms : List (Option Atom)
  serverHostkeyAlgorithms : List (Option Atom)
  parameters : Fin 6 → List (Option Atom)
  languagesClientToServer : List (Option Atom)
  languagesServerToClient : List (Option Atom)
  firstKexPacketFollows : UInt8
  length_cookie : cookie.length = 16

/-- The ten lists of a message, in the order in which they are sent. -/
def Kexinit.lists (kex : Kexinit) : List (List (Option Atom)) :=
  [kex.kexAlgorithms, kex.serverHostkeyAlgorithms,
    kex.parameters kexEncryptionClientToServer, kex.parameters kexEncryptionServerToClient,
    kex.parameters kexMacClientToServer, kex.parameters kexMacServerToClient,
    kex.parameters kexCompressionClientToServer, kex.parameters kexCompressionServerToClient,
    kex.languagesClientToServer, kex.languagesServerToClient]

/-- `format_kexinit`. -/
def formatKexinit (kex : Kexinit) : Octets :=
  formatUint8 sshMsgKexinit ++ (kex.cookie ++ ((kex.lists.map formatAtomList).flatten ++
    (kex.firstKexPacketFollows :: Octets.writeUint32 0)))

/-- The first loop of `parse_kexinit`. -/
def parseLists : ℕ → Octets → Option (List (List (Option Atom)) × Octets)
  | 0, s => some ([], s)
  | n + 1, s => do
    let (l, s) ← parseAtomList kexinitMaxAlgorithms s
    let (ls, s) ← parseLists n s
    return (l :: ls, s)

/-- The fields of `struct kexinit` from the ten lists. -/
def kexinitOfLists (cookie : {c : Octets // c.length = 16}) (firstKexPacketFollows : UInt8) :
    List (List (Option Atom)) → Option Kexinit
  | [l0, l1, l2, l3, l4, l5, l6, l7, l8, l9] => some
    { cookie := cookie, kexAlgorithms := l0, serverHostkeyAlgorithms := l1
      parameters := ![l2, l3, l4, l5, l6, l7]
      languagesClientToServer := l8, languagesServerToClient := l9
      firstKexPacketFollows := firstKexPacketFollows, length_cookie := cookie.2 }
  | _ => none

/-- `parse_kexinit`. -/
def parseKexinit (packet : Octets) : Option Kexinit := do
  let (msgNumber, s) ← parseUint8 packet
  if msgNumber ≠ sshMsgKexinit then none else
  let (cookie, s) ← parseFixed 16 s
  let (lists, s) ← parseLists 10 s
  let (firstKexPacketFollows, s) ← parseBoolean s
  let (reserved, s) ← parseUint32 s
  if reserved ≠ 0 then none else
  parseEod s
  kexinitOfLists cookie firstKexPacketFollows lists

/-! ### State -/

/-- `enum kex_state`. -/
inductive KexState where
  /-- Expecting a KEXINIT message. -/
  | init
  /-- Ignore the next packet. -/
  | ignore
  /-- Key exchange is in progress. -/
  | inProgress
  /-- Key exchange is finished, a NEWKEYS message should be received. -/
  | newkeys
  deriving DecidableEq, Repr

/-- The selected algorithms: those at the indices of the parameters, and the one at
`KEX_KEY_EXCHANGE`. -/
structure AlgorithmList (α : Type*) where
  parameter : Fin 6 → Option α
  keyExchange : Option α

/-- `struct kexinit_state`. -/
structure KexinitState (α : Type*) where
  readState : KexState
  /-- We have sent KEXINIT but not NEWKEYS. -/
  writeState : Bool
  version : Sides (Option Octets)
  kexinit : Sides (Option Kexinit)
  literalKexinit : Sides (Option Octets)
  hostkeyAlgorithm : Option Atom
  algorithmList : Option (AlgorithmList α)

variable {α : Type*} {client server : Kexinit} {l m : List (Option Atom)}

/-- `init_kexinit_state`. -/
def initKexinitState : KexinitState α where
  readState := .init
  writeState := false
  version := ⟨none, none⟩
  kexinit := ⟨none, none⟩
  literalKexinit := ⟨none, none⟩
  hostkeyAlgorithm := none
  algorithmList := none

/-- `reset_kexinit_state`. -/
def resetKexinitState (self : KexinitState α) : KexinitState α :=
  { self with
    readState := .init
    kexinit := ⟨none, none⟩
    literalKexinit := ⟨none, none⟩
    hostkeyAlgorithm := none
    algorithmList := none }

/-- `struct kexinit_info`: the lists of the configuration. They are made of known atoms, and an
option of the programs can only replace the list of key exchange methods by one that has an
element. -/
structure KexinitInfo where
  kexAlgorithms : List Atom
  hostkeyAlgorithms : List Atom
  cryptoAlgorithms : List Atom
  macAlgorithms : List Atom
  compressionAlgorithms : List Atom
  languages : List Atom
  kexAlgorithms_ne : kexAlgorithms ≠ []

/-- `make_kexinit`, with the random octets of the cookie. -/
def makeKexinit (self : KexinitInfo) (cookie : {c : Octets // c.length = 16}) : Kexinit where
  cookie := cookie
  kexAlgorithms := known self.kexAlgorithms
  serverHostkeyAlgorithms := known self.hostkeyAlgorithms
  parameters := ![known self.cryptoAlgorithms, known self.cryptoAlgorithms,
    known self.macAlgorithms, known self.macAlgorithms,
    known self.compressionAlgorithms, known self.compressionAlgorithms]
  languagesClientToServer := known self.languages
  languagesServerToClient := known self.languages
  firstKexPacketFollows := 0
  length_cookie := cookie.2

/-! ### Selection -/

/-- `select_algorithm`: the first known atom of the client's list that the server's list has. -/
def selectAlgorithm : List (Option Atom) → List (Option Atom) → Option Atom
  | [], _ => none
  | none :: clientList, serverList => selectAlgorithm clientList serverList
  | some a :: clientList, serverList =>
    if some a ∈ serverList then some a else selectAlgorithm clientList serverList

/-- `LIST(l)[0]`, for a list with an element. -/
def firstAtom : List (Option Atom) → Option Atom
  | [] => none
  | a :: _ => a

/-- The end of `handle_kexinit`, once a key exchange method is selected. -/
def selectParameters (self : KexinitState α) (client server : Kexinit)
    (algorithms : Atom → Option α) (kexAlgorithmAtom : Option Atom) :
    Option String × KexinitState α :=
  let self := { self with
    hostkeyAlgorithm :=
      selectAlgorithm client.serverHostkeyAlgorithms server.serverHostkeyAlgorithms }
  if self.hostkeyAlgorithm = none then (some "No common hostkey algorithm", self)
  else
    let parameter : Fin 6 → Option Atom := fun i =>
      selectAlgorithm (client.parameters i) (server.parameters i)
    if ∃ i, parameter i = none then (some "Algorithm negotiation failed", self)
    else (none, { self with
      algorithmList := some
        { parameter := fun i => (parameter i).bind algorithms
          keyExchange := kexAlgorithmAtom.bind algorithms } })

/-- The part of `handle_kexinit` that selects algorithms. `msg` is the message just received, one
of the other two. -/
def negotiate (self : KexinitState α) (msg client server : Kexinit)
    (algorithms : Atom → Option α) : Option String × KexinitState α :=
  if firstAtom client.kexAlgorithms = firstAtom server.kexAlgorithms then
    selectParameters self client server algorithms (firstAtom client.kexAlgorithms)
  else
    -- wrong guess
    let self := if msg.firstKexPacketFollows ≠ 0 then { self with readState := .ignore } else self
    match selectAlgorithm client.kexAlgorithms server.kexAlgorithms with
    | none => (some "No common key exchange method", self)
    | some a => selectParameters self client server algorithms (some a)

/-- `handle_kexinit`: an error message, or `none` for success. -/
def handleKexinit (self : KexinitState α) (packet : Octets) (algorithms : Atom → Option α)
    (isServer : Bool) : Except KexAssertion (Option String × KexinitState α) := do
  require (self.readState = .init) .handleKexinit
  let self := { self with readState := .inProgress }
  match parseKexinit packet with
  | none => return (some "Invalid KEXINIT message", self)
  | some msg =>
    if msg.kexAlgorithms = [] then return (some "No keyexchange method", self) else
    let self := { self with
      literalKexinit := self.literalKexinit.set (!isServer) (some packet)
      kexinit := self.kexinit.set (!isServer) (some msg) }
    match self.kexinit.get isServer with
    | none => throw .ownKexinit
    | some own =>
      return negotiate self msg (if isServer then msg else own) (if isServer then own else msg)
        algorithms

/-! ### What a message cannot change -/

theorem firstAtom_mem (h : l ≠ []) : firstAtom l ∈ l := by
  cases l with
  | nil => exact absurd rfl h
  | cons a l => exact mem_cons_self

variable {a : Atom}

theorem mem_of_selectAlgorithm (h : selectAlgorithm l m = some a) : some a ∈ l ∧ some a ∈ m := by
  induction l with
  | nil => cases h
  | cons b l ih =>
    cases b with
    | none => exact ⟨mem_cons_of_mem _ (ih h).1, (ih h).2⟩
    | some b =>
      rw [selectAlgorithm] at h
      split_ifs at h with hb
      · cases h
        exact ⟨mem_cons_self, hb⟩
      · exact ⟨mem_cons_of_mem _ (ih h).1, (ih h).2⟩

/-- What selecting algorithms does to the state: the two messages and the write state stay, only a
wrong guess changes the read state, and on success the key exchange method is one that both lists
have. -/
structure Selects (s : KexinitState α) (client server : Kexinit) (algorithms : Atom → Option α)
    (r : Option String × KexinitState α) : Prop where
  kexinit : r.2.kexinit = s.kexinit
  writeState : r.2.writeState = s.writeState
  readState : r.2.readState = s.readState ∨ r.2.readState = .ignore
  algorithmList : r.1 = none → ∃ l a, r.2.algorithmList = some l ∧
    l.keyExchange = Option.bind a algorithms ∧
    (client.kexAlgorithms ≠ [] → a ∈ client.kexAlgorithms) ∧
    (server.kexAlgorithms ≠ [] → a ∈ server.kexAlgorithms)

theorem selects_selectParameters {s : KexinitState α} {algs : Atom → Option α} {a : Option Atom}
    (hcli : client.kexAlgorithms ≠ [] → a ∈ client.kexAlgorithms)
    (hsrv : server.kexAlgorithms ≠ [] → a ∈ server.kexAlgorithms) :
    Selects s client server algs (selectParameters s client server algs a) := by
  rw [selectParameters]
  dsimp only
  split_ifs
  · exact ⟨rfl, rfl, .inl rfl, nofun⟩
  · exact ⟨rfl, rfl, .inl rfl, nofun⟩
  · exact ⟨rfl, rfl, .inl rfl, fun _ => ⟨_, a, rfl, rfl, hcli, hsrv⟩⟩

theorem selects_search (s) (client server : Kexinit) (algs : Atom → Option α) :
    Selects s client server algs
      (match selectAlgorithm client.kexAlgorithms server.kexAlgorithms with
        | none => (some "No common key exchange method", s)
        | some a => selectParameters s client server algs (some a)) := by
  cases hkex : selectAlgorithm client.kexAlgorithms server.kexAlgorithms with
  | none => exact ⟨rfl, rfl, .inl rfl, nofun⟩
  | some a =>
    obtain ⟨hcli, hsrv⟩ := mem_of_selectAlgorithm hkex
    exact selects_selectParameters (fun _ => hcli) (fun _ => hsrv)

theorem selects_negotiate (s msg client server) (algs : Atom → Option α) :
    Selects s client server algs (negotiate s msg client server algs) := by
  rw [negotiate]
  split_ifs with hfst hguess
  · exact selects_selectParameters firstAtom_mem fun h => hfst ▸ firstAtom_mem h
  · have h := selects_search { s with readState := .ignore } client server algs
    exact ⟨h.kexinit, h.writeState, .inr (or_self_iff.mp h.readState), h.algorithmList⟩
  · exact selects_search s client server algs

/-- What holds after `handle_kexinit` if our own message, `own`, has been sent. -/
structure Handled (s : KexinitState α) (isServer : Bool) (own : Kexinit)
    (algorithms : Atom → Option α) (r : Option String × KexinitState α) : Prop where
  kexinit : r.2.kexinit.get isServer = some own
  writeState : r.2.writeState = s.writeState
  readState : r.2.readState = .inProgress ∨ r.2.readState = .ignore
  algorithmList : r.1 = none → ∃ l a, r.2.algorithmList = some l ∧
    l.keyExchange = Option.bind a algorithms ∧
    (own.kexAlgorithms ≠ [] → a ∈ own.kexAlgorithms)

/-- **What `handleKexinit` keeps.** It fails only if it is called in the wrong state or before our
own message is sent. -/
theorem handleKexinit_ensures (s : KexinitState α) (pkt) (algs : Atom → Option α) (isServer) :
    Ensures (fun _ => s.readState = .init → s.kexinit.get isServer = none)
      (fun r => ∀ own, s.kexinit.get isServer = some own → Handled s isServer own algs r)
      (handleKexinit s pkt algs isServer) := by
  rw [handleKexinit]
  by_cases hst : s.readState = .init
  · rw [require_of hst]
    cases hparse : parseKexinit pkt with
    | none => exact fun own hown => ⟨hown, rfl, .inl rfl, nofun⟩
    | some msg =>
      by_cases hmsg : msg.kexAlgorithms = []
      · simp only [if_pos hmsg]
        exact fun own hown => ⟨hown, rfl, .inl rfl, nofun⟩
      · simp only [if_neg hmsg, Sides.get_set_not]
        cases hown : s.kexinit.get isServer with
        | none => exact fun _ => rfl
        | some own =>
          rintro _ ⟨⟩
          cases isServer with
          | true =>
            obtain ⟨hkxi, hwr, hread, hls⟩ := selects_negotiate { s with
              readState := .inProgress
              literalKexinit := s.literalKexinit.set false (some pkt)
              kexinit := s.kexinit.set false (some msg) } msg msg own algs
            refine ⟨(congrArg Sides.server hkxi).trans hown, hwr, hread, fun h => ?_⟩
            obtain ⟨l, a, hl, hkex, -, ha⟩ := hls h
            exact ⟨l, a, hl, hkex, ha⟩
          | false =>
            obtain ⟨hkxi, hwr, hread, hls⟩ := selects_negotiate { s with
              readState := .inProgress
              literalKexinit := s.literalKexinit.set true (some pkt)
              kexinit := s.kexinit.set true (some msg) } msg own msg algs
            refine ⟨(congrArg Sides.client hkxi).trans hown, hwr, hread, fun h => ?_⟩
            obtain ⟨l, a, hl, hkex, ha, -⟩ := hls h
            exact ⟨l, a, hl, hkex, ha⟩
  · rw [require_of_not hst]
    exact fun h => absurd h hst

/-! ### Reading back a message -/

/-- A message made of known atoms, within the limit on the length of a list, with at least one key
exchange method. -/
structure Kexinit.Known (kex : Kexinit) : Prop where
  atoms : ∀ l ∈ kex.lists, ∃ as, l = known as
  length_le : ∀ l ∈ kex.lists, l.length ≤ kexinitMaxAlgorithms
  kexAlgorithms_ne : kex.kexAlgorithms ≠ []

theorem length_known (as) : (known as).length = as.length := length_map _

theorem parseLists_formatAtomList {ls : List (List (Option Atom))}
    (hatoms : ∀ l ∈ ls, ∃ as, l = known as)
    (hlen : ∀ l ∈ ls, l.length ≤ kexinitMaxAlgorithms) (s) :
    parseLists ls.length ((ls.map formatAtomList).flatten ++ s) = some (ls, s) := by
  induction ls with
  | nil => rfl
  | cons l ls ih =>
    obtain ⟨as, rfl⟩ := hatoms _ mem_cons_self
    have has : as.length ≤ kexinitMaxAlgorithms := by
      rw [← length_known]
      exact hlen _ mem_cons_self
    have ih := ih (fun l hl => hatoms l (mem_cons_of_mem _ hl))
      (fun l hl => hlen l (mem_cons_of_mem _ hl))
    rw [map_cons, flatten_cons, append_assoc, length_cons, parseLists,
      parseAtomList_formatAtomList has (by decide)]
    simp only [Option.bind_eq_bind, Option.bind_some, ih]
    rfl

/-- **A message of known atoms is read back.** -/
theorem parseKexinit_formatKexinit {kex : Kexinit} (h : kex.Known) :
    parseKexinit (formatKexinit kex) = some kex := by
  have hlss : parseLists 10 ((kex.lists.map formatAtomList).flatten ++
      (kex.firstKexPacketFollows :: Octets.writeUint32 0)) =
        some (kex.lists, kex.firstKexPacketFollows :: Octets.writeUint32 0) :=
    parseLists_formatAtomList h.atoms h.length_le _
  have hrsv : parseUint32 (Octets.writeUint32 0) = some (0, []) := rfl
  have hpars : ![kex.parameters 0, kex.parameters 1, kex.parameters 2, kex.parameters 3,
      kex.parameters 4, kex.parameters 5] = kex.parameters := by
    funext i
    fin_cases i <;> rfl
  have hfields : kexinitOfLists ⟨kex.cookie, kex.length_cookie⟩ kex.firstKexPacketFollows
      kex.lists = some kex := by
    simp only [kexinitOfLists, Kexinit.lists, kexEncryptionClientToServer,
      kexEncryptionServerToClient, kexMacClientToServer, kexMacServerToClient,
      kexCompressionClientToServer, kexCompressionServerToClient] at hpars ⊢
    rw [hpars]
  rw [formatKexinit, formatUint8, singleton_append, parseKexinit, parseUint8_cons]
  simp only [Option.bind_eq_bind, Option.bind_some, parseFixed_append kex.length_cookie, hlss,
    parseBoolean_cons, hrsv, hfields, parseEod]
  rfl

/-- Our own messages are made of known atoms. -/
theorem known_makeKexinit {info : KexinitInfo} (cookie)
    (hlen : ∀ l ∈ [info.kexAlgorithms, info.hostkeyAlgorithms, info.cryptoAlgorithms,
      info.macAlgorithms, info.compressionAlgorithms, info.languages],
        l.length ≤ kexinitMaxAlgorithms) : (makeKexinit info cookie).Known := by
  have hlss : ∀ l ∈ (makeKexinit info cookie).lists, ∃ as ∈ [info.kexAlgorithms,
      info.hostkeyAlgorithms, info.cryptoAlgorithms, info.macAlgorithms,
      info.compressionAlgorithms, info.languages], l = known as := by
    simp [Kexinit.lists, makeKexinit, kexEncryptionClientToServer, kexEncryptionServerToClient,
      kexMacClientToServer, kexMacServerToClient, kexCompressionClientToServer,
      kexCompressionServerToClient]
  refine ⟨fun l hl => ?_, fun l hl => ?_, ?_⟩
  · obtain ⟨as, -, h⟩ := hlss l hl
    exact ⟨as, h⟩
  · obtain ⟨as, has, rfl⟩ := hlss l hl
    rw [length_known]
    exact hlen as has
  · simpa [makeKexinit, known] using info.kexAlgorithms_ne

/-! ### What is selected -/

/-- `a` is the first element of `l` that is also in `m`. -/
def IsFirstCommon {β : Type*} (a : β) (l m : List β) : Prop :=
  a ∈ m ∧ ∃ l₁ l₂, l = l₁ ++ a :: l₂ ∧ ∀ b ∈ l₁, b ∉ m

/-- **The search** finds the first common atom, if the client's list has only known ones. -/
theorem isFirstCommon_selectAlgorithm (as m a) :
    selectAlgorithm (known as) m = some a ↔ IsFirstCommon (some a) (known as) m := by
  induction as with
  | nil => simp [known, selectAlgorithm, IsFirstCommon]
  | cons b as ih =>
    have hcn : known (b :: as) = some b :: known as := rfl
    rw [hcn, selectAlgorithm]
    split_ifs with hb
    · constructor
      · rintro ⟨⟩
        exact ⟨hb, [], known as, rfl, by simp⟩
      · rintro ⟨-, l₁, l₂, hl, hnot⟩
        cases l₁ with
        | nil =>
          rw [nil_append, List.cons.injEq] at hl
          exact hl.1
        | cons c l₁ =>
          rw [cons_append, List.cons.injEq] at hl
          exact absurd hb (hl.1 ▸ hnot c mem_cons_self)
    · rw [ih]
      constructor
      · rintro ⟨ha, l₁, l₂, hl, hnot⟩
        refine ⟨ha, some b :: l₁, l₂, by rw [hl, cons_append], ?_⟩
        intro c hc
        rcases List.mem_cons.mp hc with rfl | hc
        · exact hb
        · exact hnot c hc
      · rintro ⟨ha, l₁, l₂, hl, hnot⟩
        cases l₁ with
        | nil =>
          rw [nil_append, List.cons.injEq] at hl
          exact absurd (hl.1 ▸ ha) hb
        | cons c l₁ =>
          rw [cons_append, List.cons.injEq] at hl
          exact ⟨ha, l₁, l₂, hl.2, fun d hd => hnot d (mem_cons_of_mem _ hd)⟩

/-- The comparison of first elements is a shortcut: the search would find the same. -/
theorem selectAlgorithm_of_firstAtom (hm : m ≠ []) (hl : firstAtom l = some a)
    (h : firstAtom l = firstAtom m) : selectAlgorithm l m = some a := by
  cases l with
  | nil => cases hl
  | cons b l =>
    cases m with
    | nil => exact absurd rfl hm
    | cons c m =>
      have hb : b = some a := hl
      have hc : c = some a := by rw [← hl, h]; rfl
      rw [hb, hc, selectAlgorithm, if_pos mem_cons_self]

/-- **The outcome of a negotiation**: each algorithm is the first one of the client's list that
the server's list has. -/
structure Selected (client server : Kexinit) (kex hostkey : Atom) (parameter : Fin 6 → Atom) :
    Prop where
  kex : IsFirstCommon (some kex) client.kexAlgorithms server.kexAlgorithms
  hostkey : IsFirstCommon (some hostkey) client.serverHostkeyAlgorithms
    server.serverHostkeyAlgorithms
  parameter : ∀ i, IsFirstCommon (some (parameter i)) (client.parameters i) (server.parameters i)

namespace Kexinit.Known

variable {client server : Kexinit}

theorem parameters (h : client.Known) (i) : ∃ as, client.parameters i = known as := by
  refine h.atoms _ ?_
  fin_cases i <;> simp [lists, kexEncryptionClientToServer, kexEncryptionServerToClient,
    kexMacClientToServer, kexMacServerToClient, kexCompressionClientToServer,
    kexCompressionServerToClient]

theorem firstAtom (h : client.Known) : ∃ a, firstAtom client.kexAlgorithms = some a := by
  obtain ⟨as, has⟩ := h.atoms client.kexAlgorithms (by simp [lists])
  have hne := h.kexAlgorithms_ne
  rw [has] at hne ⊢
  cases as with
  | nil => exact absurd rfl hne
  | cons a as => exact ⟨a, rfl⟩

/-- The outcome in terms of the searches. -/
theorem selected_iff (h : client.Known) (kex hostkey : Atom) (parameter) :
    Selected client server kex hostkey parameter ↔
      selectAlgorithm client.kexAlgorithms server.kexAlgorithms = some kex ∧
      selectAlgorithm client.serverHostkeyAlgorithms server.serverHostkeyAlgorithms = some hostkey ∧
      ∀ i, selectAlgorithm (client.parameters i) (server.parameters i) = some (parameter i) := by
  obtain ⟨as, has⟩ := h.atoms client.kexAlgorithms (by simp [lists])
  obtain ⟨bs, hbs⟩ := h.atoms client.serverHostkeyAlgorithms (by simp [lists])
  have hpar : ∀ i a, selectAlgorithm (client.parameters i) (server.parameters i) = some a ↔
      IsFirstCommon (some a) (client.parameters i) (server.parameters i) := by
    intro i a
    obtain ⟨cs, hcs⟩ := h.parameters i
    rw [hcs]
    exact isFirstCommon_selectAlgorithm cs _ a
  constructor
  · rintro ⟨hkex, hhk, hparam⟩
    rw [has, hbs] at *
    exact ⟨(isFirstCommon_selectAlgorithm as _ _).mpr hkex,
      (isFirstCommon_selectAlgorithm bs _ _).mpr hhk,
      fun i => (hpar i _).mpr (hparam i)⟩
  · rintro ⟨hkex, hhk, hparam⟩
    refine ⟨?_, ?_, fun i => (hpar i _).mp (hparam i)⟩
    · rw [has] at hkex ⊢
      exact (isFirstCommon_selectAlgorithm as _ _).mp hkex
    · rw [hbs] at hhk ⊢
      exact (isFirstCommon_selectAlgorithm bs _ _).mp hhk

end Kexinit.Known

/-- A negotiation of two messages ends well exactly if all algorithms have an outcome, and then
stores it. -/
def Negotiated (client server : Kexinit) (algorithms : Atom → Option α)
    (r : Option String × KexinitState α) : Prop :=
  (r.1 ≠ none ∧ ¬∃ kex hostkey parameter, Selected client server kex hostkey parameter) ∨
  (r.1 = none ∧ ∃ kex hostkey parameter, Selected client server kex hostkey parameter ∧
    r.2.hostkeyAlgorithm = some hostkey ∧
    r.2.algorithmList = some ⟨fun i => algorithms (parameter i), algorithms kex⟩)

theorem negotiated_selectParameters {kex : Atom} (self) (hcli : client.Known)
    (algs : Atom → Option α)
    (hkex : selectAlgorithm client.kexAlgorithms server.kexAlgorithms = some kex) :
    Negotiated client server algs (selectParameters self client server algs (some kex)) := by
  simp only [Negotiated, hcli.selected_iff]
  cases hhk : selectAlgorithm client.serverHostkeyAlgorithms server.serverHostkeyAlgorithms with
  | none =>
    refine .inl ⟨by simp [selectParameters, hhk], ?_⟩
    rintro ⟨_, _, _, -, h, -⟩
    exact absurd h (by simp)
  | some hostkey =>
    by_cases hpar : ∃ i, selectAlgorithm (client.parameters i) (server.parameters i) = none
    · refine .inl ⟨by simp [selectParameters, hhk, hpar], ?_⟩
      rintro ⟨_, _, p, -, -, h⟩
      obtain ⟨i, hi⟩ := hpar
      exact absurd (hi.symm.trans (h i)) (by simp)
    · have hp : ∀ i, ∃ a, selectAlgorithm (client.parameters i) (server.parameters i) = some a :=
        fun i => Option.ne_none_iff_exists'.mp fun h => hpar ⟨i, h⟩
      choose p hp using hp
      refine .inr ⟨by simp [selectParameters, hhk, hpar], kex, hostkey, p, ⟨hkex, rfl, hp⟩, ?_, ?_⟩
      · simp [selectParameters, hhk, hpar]
      · simp [selectParameters, hhk, hp]

theorem negotiated_negotiate (self msg) (hcli : client.Known) (hsrv : server.Known)
    (algs : Atom → Option α) :
    Negotiated client server algs (negotiate self msg client server algs) := by
  obtain ⟨a, ha⟩ := hcli.firstAtom
  rw [negotiate]
  split_ifs with hfst
  · rw [ha]
    exact negotiated_selectParameters _ hcli _
      (selectAlgorithm_of_firstAtom hsrv.kexAlgorithms_ne ha hfst)
  all_goals
    cases hkex : selectAlgorithm client.kexAlgorithms server.kexAlgorithms with
    | none =>
      refine .inl ⟨by simp, ?_⟩
      rintro ⟨_, _, _, h⟩
      exact absurd (hkex.symm.trans ((hcli.selected_iff _ _ _).mp h).1) (by simp)
    | some kex => exact negotiated_selectParameters _ hcli _ hkex

/-! ### Both ends -/

/-- The state in which the algorithms are selected. -/
def received (self : KexinitState α) (packet : Octets) (msg : Kexinit) (isServer : Bool) :
    KexinitState α :=
  { self with
    readState := .inProgress
    literalKexinit := self.literalKexinit.set (!isServer) (some packet)
    kexinit := self.kexinit.set (!isServer) (some msg) }

/-- **What a received message does**, if our own has been sent. -/
theorem handleKexinit_of_parse {own : Kexinit} {pkt : Octets} {msg : Kexinit}
    {self : KexinitState α} {isServer : Bool} (algs : Atom → Option α)
    (hst : self.readState = .init)
    (hown : self.kexinit.get isServer = some own) (hparse : parseKexinit pkt = some msg)
    (hne : msg.kexAlgorithms ≠ []) :
    handleKexinit self pkt algs isServer =
      .ok (negotiate (received self pkt msg isServer) msg (if isServer then msg else own)
        (if isServer then own else msg) algs) := by
  rw [handleKexinit, require_of hst, hparse]
  simp only [if_neg hne, Sides.get_set_not, hown]
  rfl

/-- **Both ends negotiate the same algorithms.** The server handles the client's message and the
client handles the server's. Both report an error, and then there is no outcome, or both store the
same one. -/
theorem handleKexinit_agree (clientAlgorithms serverAlgorithms : Atom → Option α)
    {c s : Kexinit} (hc : c.Known) (hs : s.Known) (client server : KexinitState α)
    (hclient : client.readState = .init) (hcs : client.kexinit.client = some c)
    (hserver : server.readState = .init) (hss : server.kexinit.server = some s) :
    ∃ r r' : Option String × KexinitState α,
      handleKexinit server (formatKexinit c) serverAlgorithms true = .ok r ∧
      handleKexinit client (formatKexinit s) clientAlgorithms false = .ok r' ∧
      ((r.1 ≠ none ∧ r'.1 ≠ none) ∨
        (r.1 = none ∧ r'.1 = none ∧ ∃ (kex hostkey : Atom) (parameter : Fin 6 → Atom),
          Selected c s kex hostkey parameter ∧
          r.2.hostkeyAlgorithm = some hostkey ∧ r'.2.hostkeyAlgorithm = some hostkey ∧
          r.2.algorithmList =
            some ⟨fun i => serverAlgorithms (parameter i), serverAlgorithms kex⟩ ∧
          r'.2.algorithmList =
            some ⟨fun i => clientAlgorithms (parameter i), clientAlgorithms kex⟩)) := by
  refine ⟨_, _, handleKexinit_of_parse serverAlgorithms hserver hss (parseKexinit_formatKexinit hc)
    hc.kexAlgorithms_ne, handleKexinit_of_parse clientAlgorithms hclient hcs
    (parseKexinit_formatKexinit hs) hs.kexAlgorithms_ne, ?_⟩
  have hr := negotiated_negotiate (received server (formatKexinit c) c true) c hc hs
    serverAlgorithms
  have hr' := negotiated_negotiate (received client (formatKexinit s) s false) s hc hs
    clientAlgorithms
  rcases hr with ⟨herr, hno⟩ | ⟨hok, kex, hostkey, p, hsel, hho, hls⟩
  · rcases hr' with ⟨herr', -⟩ | ⟨-, kex, hostkey, p, hsel, -⟩
    · exact .inl ⟨herr, herr'⟩
    · exact absurd ⟨kex, hostkey, p, hsel⟩ hno
  · rcases hr' with ⟨-, hno⟩ | ⟨hok', kex', hostkey', p', hsel', hho', hls'⟩
    · exact absurd ⟨kex, hostkey, p, hsel⟩ hno
    · -- the outcome is a function of the two messages
      obtain ⟨hk, hh, hp⟩ := (hc.selected_iff _ _ _).mp hsel
      obtain ⟨hk', hh', hp'⟩ := (hc.selected_iff _ _ _).mp hsel'
      obtain rfl : kex = kex' := Option.some.inj (hk.symm.trans hk')
      obtain rfl : hostkey = hostkey' := Option.some.inj (hh.symm.trans hh')
      obtain rfl : p = p' := funext fun i => Option.some.inj ((hp i).symm.trans (hp' i))
      exact .inr ⟨hok, hok', kex, hostkey, p, hsel, hho, hho', hls, hls'⟩

/-- The lists of a client that prefers another key exchange method than the server below. -/
def clientInfo : KexinitInfo where
  kexAlgorithms := [.diffieHellmanGroup14Sha1, .diffieHellmanGroup1Sha1]
  hostkeyAlgorithms := [.sshRsa, .sshDss]
  cryptoAlgorithms := [.aes256Cbc, .des3Cbc]
  macAlgorithms := [.hmacSha1, .hmacMd5]
  compressionAlgorithms := [.noneAtom, .zlib]
  languages := []
  kexAlgorithms_ne := by simp

/-- The lists of a server. -/
def serverInfo : KexinitInfo where
  kexAlgorithms := [.diffieHellmanGroup1Sha1]
  hostkeyAlgorithms := [.sshDss]
  cryptoAlgorithms := [.des3Cbc]
  macAlgorithms := [.hmacMd5, .hmacSha1]
  compressionAlgorithms := [.zlib, .noneAtom]
  languages := []
  kexAlgorithms_ne := by simp

/-- A cookie of zeros. -/
def zeroCookie : {c : Octets // c.length = 16} := ⟨List.replicate 16 0, by simp⟩

/-- The state of an end that has sent its message and received nothing. -/
def sentState (kexinit : Sides (Option Kexinit)) : KexinitState Atom :=
  { initKexinitState with kexinit := kexinit }

/-- With these lists both ends succeed. -/
theorem handleKexinit_agree_lists :
    ∃ r r' : Option String × KexinitState Atom,
      handleKexinit (sentState ⟨none, some (makeKexinit serverInfo zeroCookie)⟩)
        (formatKexinit (makeKexinit clientInfo zeroCookie)) some true = .ok r ∧
      handleKexinit (sentState ⟨some (makeKexinit clientInfo zeroCookie), none⟩)
        (formatKexinit (makeKexinit serverInfo zeroCookie)) some false = .ok r' ∧
      r.1 = none ∧ r'.1 = none ∧ r.2.hostkeyAlgorithm = r'.2.hostkeyAlgorithm ∧
      r.2.algorithmList = r'.2.algorithmList := by
  have hc : (makeKexinit clientInfo zeroCookie).Known := known_makeKexinit _ (by decide)
  have hs : (makeKexinit serverInfo zeroCookie).Known := known_makeKexinit _ (by decide)
  have hrun : (handleKexinit (sentState ⟨none, some (makeKexinit serverInfo zeroCookie)⟩)
      (formatKexinit (makeKexinit clientInfo zeroCookie)) some true).toOption.map (·.1) =
        some none := by decide +kernel
  obtain ⟨r, r', hr, hr', h⟩ := handleKexinit_agree some some hc hs
    (sentState ⟨some (makeKexinit clientInfo zeroCookie), none⟩)
    (sentState ⟨none, some (makeKexinit serverInfo zeroCookie)⟩) rfl rfl rfl rfl
  rw [hr] at hrun
  rcases h with ⟨herr, -⟩ | ⟨hok, hok', _, _, _, -, hho, hho', hls, hls'⟩
  · exact absurd (Option.some.inj hrun) herr
  · exact ⟨r, r', hr, hr', hok, hok', hho.trans hho'.symm, hls.trans hls'.symm⟩

end Lsh.Kex
