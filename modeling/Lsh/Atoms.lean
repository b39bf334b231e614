
import Lsh.Library.Octets
import Mathlib.Logic.Basic

/-!
# Atoms

The names that the protocol uses for algorithms, methods, requests and signals are interned. An
atom is one of the names listed in `atoms.in`; a list of atoms read from the peer holds zero, here
`none`, in the place of each name that is not among them.

`lookupAtom_octets` is all that the rest of the development needs to know about the table, apart
from the shape of the names: none is empty, too long to be parsed, or has a comma in it.
-/

namespace Lsh

/-- The octets of a string of ASCII characters. -/
def asciiOctets (s : String) : Octets := s.toList.map fun c => UInt8.ofNat c.toNat

/-- The known atoms, in the order of `atoms.in`. -/
inductive Atom
  | noneAtom | zlib | des3Cbc | des3Ctr | blowfishCbc | blowfishCtr | twofish256Cbc | twofishCbc
  | twofish128Cbc | twofish192Cbc | twofish128Ctr | twofish192Ctr | twofish256Ctr | aes256Cbc
  | aes192Cbc | aes128Cbc | aes128Ctr | aes192Ctr | aes256Ctr | serpent256Cbc | serpent192Cbc
  | serpent128Cbc | serpent128Ctr | serpent192Ctr | serpent256Ctr | arcfour | cast128Cbc
  | cast128Ctr | hmacSha1 | hmacSha196 | hmacMd5 | diffieHellmanGroup1Sha1
  | diffieHellmanGroup14Sha1 | sshDss | sshRsa | sshDsa | sshDsaSha256Local | spkiSignRsa
  | spkiSignDss | spki | publickey | password | hostbased | keyboardInteractive | gssapi
  | session | ptyReq | x11Req | x11 | authAgentReq | authAgent | env | shell | exec | subsystem
  | windowChange | xonXoff | signal | exitStatus | exitSignal | tcpipForward | cancelTcpipForward
  | forwardedTcpip | directTcpip | abrt | alrm | fpe | hup | ill | int | kill | pipe | quit
  | segv | term | usr1 | usr2 | signalUnknownLocal | dsa | dsaSha256 | rsaPkcs1 | rsaPkcs1Sha1
  | rsaPkcs1Md5 | xpkcs5v2
  deriving DecidableEq, Repr

namespace Atom

/-- `get_atom_name`. -/
def name : Atom → String
  | noneAtom => "none"
  | zlib => "zlib"
  | des3Cbc => "3des-cbc"
  | des3Ctr => "3des-ctr"
  | blowfishCbc => "blowfish-cbc"
  | blowfishCtr => "blowfish-ctr"
  | twofish256Cbc => "twofish256-cbc"
  | twofishCbc => "twofish-cbc"
  | twofish128Cbc => "twofish128-cbc"
  | twofish192Cbc => "twofish192-cbc"
  | twofish128Ctr => "twofish128-ctr"
  | twofish192Ctr => "twofish192-ctr"
  | twofish256Ctr => "twofish256-ctr"
  | aes256Cbc => "aes256-cbc"
  | aes192Cbc => "aes192-cbc"
  | aes128Cbc => "aes128-cbc"
  | aes128Ctr => "aes128-ctr"
  | aes192Ctr => "aes192-ctr"
  | aes256Ctr => "aes256-ctr"
  | serpent256Cbc => "serpent256-cbc"
  | serpent192Cbc => "serpent192-cbc"
  | serpent128Cbc => "serpent128-cbc"
  | serpent128Ctr => "serpent128-ctr"
  | serpent192Ctr => "serpent192-ctr"
  | serpent256Ctr => "serpent256-ctr"
  | arcfour => "arcfour"
  | cast128Cbc => "cast128-cbc"
  | cast128Ctr => "cast128-ctr"
  | hmacSha1 => "hmac-sha1"
  | hmacSha196 => "hmac-sha1-96"
  | hmacMd5 => "hmac-md5"
  | diffieHellmanGroup1Sha1 => "diffie-hellman-group1-sha1"
  | diffieHellmanGroup14Sha1 => "diffie-hellman-group14-sha1"
  | sshDss => "ssh-dss"
  | sshRsa => "ssh-rsa"
  | sshDsa => "ssh-dsa"
  | sshDsaSha256Local => "ssh-dsa-sha256@lysator.liu.se"
  | spkiSignRsa => "spki-sign-rsa"
  | spkiSignDss => "spki-sign-dss"
  | spki => "spki"
  | publickey => "publickey"
  | password => "password"
  | hostbased => "hostbased"
  | keyboardInteractive => "keyboard-interactive"
  | gssapi => "gssapi"
  | session => "session"
  | ptyReq => "pty-req"
  | x11Req => "x11-req"
  | x11 => "x11"
  | authAgentReq => "auth-agent-req"
  | authAgent => "auth-agent"
  | env => "env"
  | shell => "shell"
  | exec => "exec"
  | subsystem => "subsystem"
  | windowChange => "window-change"
  | xonXoff => "xon-xoff"
  | signal => "signal"
  | exitStatus => "exit-status"
  | exitSignal => "exit-signal"
  | tcpipForward => "tcpip-forward"
  | cancelTcpipForward => "cancel-tcpip-forward"
  | forwardedTcpip => "forwarded-tcpip"
  | directTcpip => "direct-tcpip"
  | abrt => "ABRT"
  | alrm => "ALRM"
  | fpe => "FPE"
  | hup => "HUP"
  | ill => "ILL"
  | int => "INT"
  | kill => "KILL"
  | pipe => "PIPE"
  | quit => "QUIT"
  | segv => "SEGV"
  | term => "TERM"
  | usr1 => "USR1"
  | usr2 => "USR2"
  | signalUnknownLocal => "signal-unknown@lysator.liu.se"
  | dsa => "dsa"
  | dsaSha256 => "dsa-sha256"
  | rsaPkcs1 => "rsa-pkcs1"
  | rsaPkcs1Sha1 => "rsa-pkcs1-sha1"
  | rsaPkcs1Md5 => "rsa-pkcs1-md5"
  | xpkcs5v2 => "Xpkcs5v2"

/-- All atoms. -/
def all : List Atom :=
  [.noneAtom, .zlib, .des3Cbc, .des3Ctr, .blowfishCbc, .blowfishCtr, .twofish256Cbc, .twofishCbc,
   .twofish128Cbc, .twofish192Cbc, .twofish128Ctr, .twofish192Ctr, .twofish256Ctr, .aes256Cbc,
   .aes192Cbc, .aes128Cbc, .aes128Ctr, .aes192Ctr, .aes256Ctr, .serpent256Cbc, .serpent192Cbc,
   .serpent128Cbc, .serpent128Ctr, .serpent192Ctr, .serpent256Ctr, .arcfour, .cast128Cbc,
   .cast128Ctr, .hmacSha1, .hmacSha196, .hmacMd5, .diffieHellmanGroup1Sha1,
   .diffieHellmanGroup14Sha1, .sshDss, .sshRsa, .sshDsa, .sshDsaSha256Local, .spkiSignRsa,
   .spkiSignDss, .spki, .publickey, .password, .hostbased, .keyboardInteractive, .gssapi,
   .session, .ptyReq, .x11Req, .x11, .authAgentReq, .authAgent, .env, .shell, .exec, .subsystem,
   .windowChange, .xonXoff, .signal, .exitStatus, .exitSignal, .tcpipForward, .cancelTcpipForward,
   .forwardedTcpip, .directTcpip, .abrt, .alrm, .fpe, .hup, .ill, .int, .kill, .pipe, .quit,
   .segv, .term, .usr1, .usr2, .signalUnknownLocal, .dsa, .dsaSha256, .rsaPkcs1, .rsaPkcs1Sha1,
   .rsaPkcs1Md5, .xpkcs5v2]

/-- The name of an atom as octets. -/
def octets (a : Atom) : Octets := asciiOctets a.name

end Atom

/-- `lookup_atom`: the atom with the given name, if it is known. -/
def lookupAtom (s : Octets) : Option Atom := Atom.all.find? fun a => a.octets = s

theorem Atom.mem_all (a) : a ∈ Atom.all := by
  cases a <;> decide

/-- The properties of names that the text form of a list of atoms depends on, and that looking up
each name gives its atom. -/
private theorem all_names : ∀ a ∈ Atom.all,
    lookupAtom a.octets = some a ∧ 0 < a.octets.length ∧ a.octets.length ≤ 29 ∧ 44 ∉ a.octets := by
  decide +kernel

/-- **Looking up a name.** -/
theorem lookupAtom_octets (a) : lookupAtom a.octets = some a :=
  (all_names a a.mem_all).1

theorem Atom.length_octets_pos (a : Atom) : 0 < a.octets.length :=
  (all_names a a.mem_all).2.1

theorem Atom.length_octets_le (a : Atom) : a.octets.length ≤ 29 :=
  (all_names a a.mem_all).2.2.1

theorem Atom.comma_not_mem_octets (a : Atom) : 44 ∉ a.octets :=
  (all_names a a.mem_all).2.2.2

end Lsh
