
import Lsh.Userauth.Server

/-!
# The request of the client

A model of `start_userauth` of `lsh-transport.c`. The client formats its request up to the signature
and signs it together with the session identifier. The server does not build the request again: it
takes what was signed from the packet, up to the place where its parser stood before the signature.
-/

namespace Lsh.Userauth

open Wire

/-- `struct keypair`. There may be no signature, if the key is too small. Lengths are below `2 ^
32`. -/
structure Keypair where
  type : Atom
  publicKey : Octets
  sign : Atom → Octets → Option Octets
  length_publicKey : publicKey.length < 2 ^ 32
  length_sign : ∀ type data signature, sign type data = some signature → signature.length < 2 ^ 32

/-- What `start_userauth` uses of `struct lsh_transport_config`. -/
structure ClientConfig where
  user : Octets
  service : Octets
  keypair : Option Keypair
  length_user : user.length < 2 ^ 32
  length_service : service.length < 2 ^ 32

/-- The part of the request that is signed. -/
def signedRequest (config : ClientConfig) (key : Keypair) : Octets :=
  formatUint8 50 ++ (formatString config.user ++ (formatString config.service ++
    (formatAtom .publickey ++ (formatUint8 1 ++
      (formatAtom key.type ++ formatString key.publicKey)))))

/-- What `SIGN` is called with. -/
def signedData (config : ClientConfig) (key : Keypair) (sessionId : Octets) : Octets :=
  formatString sessionId ++ signedRequest config key

/-- The request that only asks for the methods. -/
def noneRequest (config : ClientConfig) : Octets :=
  formatUint8 50 ++ (formatString config.user ++ (formatString config.service ++
    formatAtom .noneAtom))

/-- `start_userauth`: the packet that is sent. -/
def startUserauth (config : ClientConfig) (sessionId : Octets) : Octets :=
  match config.keypair with
  | none => noneRequest config
  | some key =>
    match key.sign key.type (signedData config key sessionId) with
    | none => noneRequest config
    | some signature => signedRequest config key ++ formatString signature

/-- **The server verifies what the client has signed**, if there is a signature. -/
theorem startUserauth_verified (config : ClientConfig) (key : Keypair) (server : Config)
    (sys : System)
    (user : LshdUser) :
    let config := { config with keypair := some key }
    let data := signedData config key server.sessionId
    let packet := startUserauth config server.sessionId
    match key.sign key.type data with
    | none => packet = noneRequest config
    | some signature => ∃ body rest, packet = 50 :: body ∧
        parseUserauthRequest body = some (config.user, config.service, some .publickey, rest) ∧
        parsePublickey rest =
          some (some key.type, key.publicKey, formatString signature, some signature) ∧
        handlePublickey server sys user packet rest =
          if ¬server.allowPublickey then .ok .failure
          else match getVerifier sys user (some key.type) key.publicKey with
            | some v => .ok (if v.verify key.type data signature then .success else .failure)
            | none => .ok .failure := by
  intro config data packet
  split
  · rename_i hsign
    simp [packet, startUserauth, config, data, hsign]
  · rename_i signature hsign
    have hpkt : packet = signedRequest config key ++ formatString signature := by
      simp [packet, startUserauth, config, data, hsign]
    have hparse : parsePublickey (formatUint8 1 ++ (formatAtom key.type ++
        (formatString key.publicKey ++ formatString signature))) =
          some (some key.type, key.publicKey, formatString signature, some signature) := by
      have heod := parseString_formatString (key.length_sign _ _ _ hsign) []
      rw [List.append_nil] at heod
      simp [parsePublickey, formatUint8, parseAtom_formatAtom, parseEod, heod,
        parseString_formatString key.length_publicKey]
    refine ⟨_, _, by rw [hpkt, signedRequest]; simp [formatUint8]; rfl, ?_, hparse, ?_⟩
    · simp [parseUserauthRequest, parseString_formatString config.length_user,
        parseString_formatString config.length_service, parseAtom_formatAtom, formatUint8]
    · -- what precedes the signature is the request that was signed
      have hta : packet.take (packet.length - (formatString signature).length) =
          signedRequest config key := by
        rw [hpkt, List.length_append, Nat.add_sub_cancel, List.take_left]
      rw [handlePublickey, hparse]
      simp only [hta]
      cases getVerifier sys user (some key.type) key.publicKey with
      | none | some v => rfl

end Lsh.Userauth
