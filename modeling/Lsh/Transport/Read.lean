
import Lsh.Basic
import Lsh.Library.BlockStream

/-!
# The transport reader

A model of `ssh_read.c` and `transport_read.c`: reading lines during the version handshake and
packets after it, through one input buffer that is read ahead of what has been processed.

The buffer is a string of `size` octets of which the region of `length` octets at `start` holds
unprocessed input. Only that region is ever looked at, so the model keeps its contents (`data`)
and its position, and forgets the octets around it.

Objects of the cryptographic library and of zlib are modelled by their answers: an instance is a
function of everything it has been fed. The outcome of `read` and `io_readable_p` is an argument.
-/

namespace Lsh.Transport

open Machine

/-! ### Objects from other libraries -/

/-- A MAC with the octets fed to it since the last digest. The largest digests have
`SSH_MAX_MAC_SIZE` octets. -/
structure MacInstance where
  /-- The size of a digest. -/
  macSize : ℕ
  /-- The digest of the octets fed. -/
  mac : Octets → Octets
  length_mac : ∀ s, (mac s).length = macSize
  macSize_le : macSize ≤ sshMaxMacSize
  /-- What has been fed since the last digest. -/
  fed : Octets

/-- `MAC_UPDATE`. -/
def MacInstance.update (self : MacInstance) (s : Octets) : MacInstance :=
  { self with fed := self.fed ++ s }

/-- `MAC_DIGEST`: the digest, and the instance ready for the next message. -/
def MacInstance.digest (self : MacInstance) : Octets × MacInstance :=
  (self.mac self.fed, { self with fed := [] })

/-- A cipher in one direction. The output for a block is a function of the blocks before it. All
ciphers have blocks of 8 or 16 octets, also the one that is a stream cipher. -/
structure CryptoInstance where
  /-- The block size. -/
  blockSize : ℕ
  /-- The output for a block after some blocks. -/
  cipher : List Octets → Octets → Octets
  blockSize_eq : blockSize = 8 ∨ blockSize = 16
  length_cipher : ∀ processed b, (cipher processed b).length = b.length
  /-- The blocks processed so far. -/
  processed : List Octets

/-- A cipher as a block function of the blocks processed. -/
def CryptoInstance.block (cipher : List Octets → Octets → Octets) (processed : List Octets)
    (b : Octets) : List Octets × Octets :=
  (processed ++ [b], cipher processed b)

/-- `CRYPT`: process a string of whole blocks. -/
def CryptoInstance.crypt (self : CryptoInstance) (s : Octets) :
    Except Assertion (Octets × CryptoInstance) := do
  require (s.length % self.blockSize = 0) .wholeBlocks
  let r := BlockStream.crypt (block self.cipher) self.blockSize (s.length / self.blockSize)
    self.processed s
  return (r.2, { self with processed := r.1 })

/-- The block size to use with an optional cipher. -/
def blockSizeOf (crypto : Option CryptoInstance) : ℕ := (crypto.map (·.blockSize)).getD 8

/-- The size of the digests of an optional MAC. -/
def macSizeOf (mac : Option MacInstance) : ℕ := (mac.map (·.macSize)).getD 0

/-- What one call of `inflate` or `deflate` reports: whether it failed with an error other than
`Z_BUF_ERROR`, the input left over, and the output. -/
structure ZResult where
  /-- The return code is `Z_OK` or `Z_BUF_ERROR`. -/
  ok : Bool
  /-- `avail_in` after the call. -/
  availIn : ℕ
  /-- The octets written to the output. -/
  output : Octets

/-- A zlib stream. Its answer to an input string and an amount of output space is a function of
the calls before it. -/
structure CompressInstance where
  /-- The answer to a call after some calls. -/
  zlib : List (Octets × ℕ) → Octets × ℕ → ZResult
  /-- The calls made so far. -/
  calls : List (Octets × ℕ)

/-- `do_zlib` with an output string of `space` octets. The string returned has the length that
the source returns: nothing after an error, and nothing when the output space was used up. -/
def CompressInstance.codec (self : CompressInstance) (space : ℕ) (input : Octets) :
    Except Assertion (Octets × CompressInstance) := do
  require (0 < input.length) .zlibLength
  let r := self.zlib self.calls (input, space)
  let self := { self with calls := self.calls ++ [(input, space)] }
  if !r.ok then
    return ([], self)
  else if space ≤ r.output.length then
    return ([], self)
  else
    require (r.availIn = 0) .zlibAvailIn
    return (r.output, self)

/-! ### The input buffer -/

/-- What `read` returns: an error number, or some octets together with whether more could be read
at once. No octets means end of file. -/
inductive ReadResult
  | error (errno : ℕ)
  | octets (s : Octets) (readable : Bool)

/-- The octets that a `read` of at most `left` octets takes. -/
def ReadResult.taken (left : ℕ) : ReadResult → Octets
  | error _ => []
  | octets s _ => s.take left

/-- The error number of a read that would block. -/
def ewouldblock : ℕ := 11

/-- The values of `read_status`: whether the reader should flush its output before it waits. -/
inductive Readiness
  | pending
  | push
  deriving DecidableEq, Repr

/-- `enum ssh_read_status`, with the values that come with each status. -/
inductive ReadStatus (α : Type)
  | ioError (errno : ℕ)
  | protocolError (error : ℕ) (msg : Option String)
  | eof
  | complete (a : α)
  | pending
  | push
  deriving DecidableEq, Repr

/-- The status that says to wait for more input. -/
def Readiness.toStatus {α : Type} : Readiness → ReadStatus α
  | pending => .pending
  | push => .push

/-- `struct ssh_read_state`. -/
structure SshReadState where
  /-- The length of the input buffer. -/
  size : ℕ
  /-- Where the unprocessed input starts. -/
  start : ℕ
  /-- The unprocessed input. -/
  data : Octets
  readStatus : Readiness

/-- `init_ssh_read_state`. -/
def initSshReadState (bufferSize : ℕ) : SshReadState :=
  { size := bufferSize, start := 0, data := [], readStatus := .push }

/-- The result of `ssh_read_some`: an error number for `-1`, and the number of octets taken from
the file descriptor otherwise. -/
inductive ReadSome
  | failed (errno : ℕ)
  | got (n : ℕ)
  deriving DecidableEq, Repr

/-- Move the data to the start of the buffer if the limit would reach past its end. -/
def SshReadState.makeRoom (self : SshReadState) (limit : ℕ) : Except Assertion SshReadState := do
  if self.size < self.start + limit then
    require (0 < self.start) .readStart
    assertRoom .inputRoom self.size 0 self.data.length
    require (0 ≠ self.start) .moveFrom
    return { self with start := 0 }
  else
    return self

/-- `ssh_read_some`: read until at most `limit` octets are in the buffer. -/
def sshReadSome (self : SshReadState) (limit : ℕ) (io : ReadResult) :
    Except Assertion (ReadSome × SshReadState) := do
  require (limit < self.size) .readLimit
  require (self.data.length < limit) .readLength
  let self ← self.makeRoom limit
  let left := limit - self.data.length
  require (0 < left) .readZero
  assertRoom .inputRoom self.size (self.start + self.data.length) left
  match io with
  | .error errno => return (.failed errno, self)
  | .octets s readable =>
    let s := s.take left
    if s.length = 0 then
      return (.got 0, self)
    else
      return (.got s.length,
        { self with
          data := self.data ++ s
          readStatus := if s.length < left ∨ readable = false then .push else .pending })

/-! ### The reader -/

/-- How far beyond what it needs the reader reads, `TRANSPORT_READ_AHEAD`. -/
def transportReadAhead : ℕ := 1000

/-- `struct transport_read_state`. -/
structure TransportReadState extends SshReadState where
  mac : Option MacInstance
  crypto : Option CryptoInstance
  inflate : Option CompressInstance
  seqno : ℕ
  padding : ℕ
  /-- The length of payload, padding and MAC of the current packet. Zero means that the packet
  header is still to be processed. -/
  totalLength : ℕ

/-- A packet as the reader delivers it: its sequence number and its payload. -/
abbrev Packet := ℕ × Octets

namespace TransportReadState

/-- `make_transport_read_state`. -/
def make : TransportReadState :=
  { initSshReadState (sshMaxPacket + sshMaxPacketFuzz) with
    mac := none, crypto := none, inflate := none, seqno := 0, padding := 0, totalLength := 0 }

/-- The block size of the installed cipher. -/
def blockSize (self : TransportReadState) : ℕ := blockSizeOf self.crypto

/-- The size of the installed MAC. -/
def macSize (self : TransportReadState) : ℕ := macSizeOf self.mac

/-- `transport_read_new_keys`. -/
def newKeys (self : TransportReadState) (mac : Option MacInstance)
    (crypto : Option CryptoInstance) (inflate : Option CompressInstance) : TransportReadState :=
  { self with mac := mac, crypto := crypto, inflate := inflate }

/-- Replace the part of the state that `ssh_read_some` works on. -/
def setBuffer (self : TransportReadState) (super : SshReadState) : TransportReadState :=
  { self with toSshReadState := super }

/-- Advance past the first `n` octets of the unprocessed input. -/
def skip (self : TransportReadState) (n : ℕ) : TransportReadState :=
  { self with start := self.start + n, data := self.data.drop n }

/-- Replace the `s.length` octets of the unprocessed input at `offset`. -/
def overwrite (self : TransportReadState) (offset : ℕ) (s : Octets) : TransportReadState :=
  { self with data := self.data.take offset ++ s ++ self.data.drop (offset + s.length) }

/-- The `length` octets of the unprocessed input at `offset`. -/
def octets (self : TransportReadState) (offset length : ℕ) : Octets :=
  (self.data.drop offset).take length

/-- Decrypt `length` octets at `offset` in place, if there is a cipher. -/
def cryptInPlace (self : TransportReadState) (offset length : ℕ) :
    Except Assertion TransportReadState :=
  match self.crypto with
  | none => return self
  | some crypto => do
    assertRoom .inputRoom self.size (self.start + offset) length
    let (s, crypto) ← crypto.crypt (self.octets offset length)
    return { self.overwrite offset s with crypto := some crypto }

end TransportReadState

open TransportReadState

/-! ### Lines -/

/-- The status says more than that the reader has to wait. -/
def ReadStatus.settled {α : Type} : ReadStatus α → Bool
  | pending | push => false
  | _ => true

/-- `find_line`. -/
def findLine (self : SshReadState) : ReadStatus Octets × SshReadState :=
  match self.data.findIdx? (· = 0x0a) with
  | some lineLength =>
    if sshMaxLine ≤ lineLength then
      (.protocolError 0 (some "Line too long"), self)
    else
      let line := self.data.take lineLength
      (.complete (if line.getLast? = some 0x0d then line.dropLast else line),
        { self with
          start := self.start + (lineLength + 1)
          data := self.data.drop (lineLength + 1) })
  | none =>
    if sshMaxLine ≤ self.data.length then
      (.protocolError 0 (some "Line too long"), self)
    else
      (self.readStatus.toStatus, self)

/-- What `transport_read_line` finds in the buffer before it reads. -/
def bufferedLine (self : SshReadState) : ReadStatus Octets × SshReadState :=
  if self.data.length = 0 then
    (self.readStatus.toStatus, { self with start := 0 })
  else
    findLine self

/-- What `transport_read_line` makes of the result of `ssh_read_some`. -/
def lineAfterRead (res : ReadSome) (self : SshReadState) :
    ReadStatus Octets × SshReadState × ℕ :=
  match res with
  | .got 0 =>
    -- the source leaves the message unset here
    (if self.data.length = 0 then .eof else .protocolError 0 none, self, 0)
  | .failed errno => (if errno = ewouldblock then .push else .ioError errno, self, 0)
  | .got n => ((findLine self).1, (findLine self).2, n)

/-- `transport_read_line`. Besides the status and the new state, the number of octets taken from
the file descriptor. A negative `fd` is `none`. -/
def transportReadLine (self : TransportReadState) (fd : Option ReadResult) :
    Except Assertion (ReadStatus Octets × TransportReadState × ℕ) := do
  let (status, super) := bufferedLine self.toSshReadState
  if status.settled then
    return (status, self.setBuffer super, 0)
  match fd with
  | none => return (super.readStatus.toStatus, self.setBuffer super, 0)
  | some io =>
    let (res, super) ← sshReadSome super transportReadAhead io
    let (status, super, n) := lineAfterRead res super
    return (status, self.setBuffer super, n)

/-! ### Packets -/

/-- The error that a packet header is answered with. -/
def headerError (msg : String) : ReadStatus Packet :=
  .protocolError sshDisconnectProtocolError (some msg)

/-- Both reads of `transport_read_packet`: if fewer than `need` octets are in the buffer, read up
to `limit`. A status ends the call; `eof` is the status for the end of file, given the octets
that are in the buffer. -/
def fill (self : TransportReadState) (need limit : ℕ) (eof : Octets → ReadStatus Packet)
    (fd : Option ReadResult) :
    Except Assertion (Option (ReadStatus Packet) × TransportReadState × ℕ) := do
  if self.data.length < need then
    match fd with
    | none => return (some self.readStatus.toStatus, self, 0)
    | some io =>
      let (res, super) ← sshReadSome self.toSshReadState limit io
      let self := self.setBuffer super
      match res with
      | .got 0 => return (some (eof self.data), self, 0)
      | .failed errno =>
        return (some (if errno = ewouldblock then .push else .ioError errno), self, 0)
      | .got n =>
        if self.data.length < need then
          return (some self.readStatus.toStatus, self, n)
        else
          return (none, self, n)
  else
    return (none, self, 0)

/-- The first part of `transport_read_packet`: make sure that the buffer holds a whole block. -/
def fillBlock (self : TransportReadState) (fd : Option ReadResult) :
    Except Assertion (Option (ReadStatus Packet) × TransportReadState × ℕ) :=
  fill self self.blockSize transportReadAhead
    (fun data => if data.length = 0 then .eof else .protocolError 0 (some "Unexpected EOF")) fd

/-- The third part of `transport_read_packet`: make sure that the buffer holds the rest of the
packet. -/
def fillBody (self : TransportReadState) (fd : Option ReadResult) :
    Except Assertion (Option (ReadStatus Packet) × TransportReadState × ℕ) :=
  fill self self.totalLength (self.totalLength + transportReadAhead)
    (fun _ => .protocolError 0 (some "Unexpected EOF")) fd

/-- The checks on the packet length and padding length of a decrypted header that come before
the one against the size of the buffer: the message of the error, or nothing. -/
def checkHeader (blockSize packetLength padding : ℕ) : Option String :=
  if padding < 4 ∨ packetLength ≤ padding then
    some "Bogus padding length"
  else if packetLength < 12 ∨ packetLength < blockSize - 4 ∨
      (packetLength + 4) % 2 ^ 32 % blockSize ≠ 0 then
    some "Invalid packet length"
  else if sshMaxPacket + sshMaxPacketFuzz < packetLength then
    some "Packet too large"
  else
    none

/-- The second part of `transport_read_packet`: decrypt the first block, feed it to the MAC and
check the header. -/
def processHeader (self : TransportReadState) :
    Except Assertion (Option (ReadStatus Packet) × TransportReadState) := do
  require (self.blockSize ≤ self.data.length) .blockAvailable
  if self.totalLength ≠ 0 then
    return (none, self)
  else
    let blockSize := self.blockSize
    let self ← self.cryptInPlace 0 blockSize
    let header := self.octets 0 blockSize
    let self := { self with
      mac := self.mac.map fun mac : MacInstance =>
        (mac.update (Octets.writeUint32 self.seqno)).update header }
    let packetLength := Octets.readUint32 header
    let padding := (header.getD 4 0).toNat
    let self := { self with padding := padding }
    match checkHeader blockSize packetLength padding with
    | some msg => return (some (headerError msg), self)
    | none =>
      let self := { self with totalLength := packetLength - 1 + self.macSize }
      if self.size < self.totalLength then
        return (some (headerError "Packet too large"), self)
      else
        return (none, self.skip 5)

/-- The part of `decode_packet` that decrypts what is left after the first block. -/
def decryptRest (self : TransportReadState) (offset length : ℕ) :
    Except Assertion TransportReadState :=
  if 0 < length then self.cryptInPlace offset length else .ok self

/-- The part of `decode_packet` that looks at the MAC: the state after it, or nothing if the MAC
is wrong. `offset` and `length` say which part of the packet is still to be fed. -/
def checkMac (self : TransportReadState) (offset length : ℕ) :
    Except Assertion (Option TransportReadState) :=
  match self.mac with
  | none => return some self
  | some mac => do
    let mac := if 0 < length then mac.update (self.octets offset length) else mac
    let (digest, mac) := mac.digest
    assertRoom .macRoom sshMaxMacSize 0 mac.macSize
    if digest = self.octets (self.totalLength - mac.macSize) mac.macSize then
      return some { self with mac := some mac }
    else
      return none

/-- The end of `decode_packet`, after the MAC has been verified: take the packet out of the buffer
and pass its payload on. -/
def deliver (self : TransportReadState) (space macSize : ℕ) :
    Except Assertion (ReadStatus Packet × TransportReadState) := do
  let length := sub32 (sub32 self.totalLength macSize) self.padding
  let data := self.octets 0 length
  let seqno := self.seqno
  let self := { self.skip self.totalLength with
    totalLength := 0, seqno := (seqno + 1) % 2 ^ 32 }
  match self.inflate with
  | some inflate =>
    let (payload, inflate) ← inflate.codec space data
    return (.complete (seqno, payload), { self with inflate := some inflate })
  | none =>
    assertRoom .outputRoom space 0 length
    return (.complete (seqno, data), self)

/-- `decode_packet` with an output string of `space` octets. -/
def decodePacket (self : TransportReadState) (space : ℕ) :
    Except Assertion (ReadStatus Packet × TransportReadState) := do
  let macSize := self.macSize
  let cryptDone := self.blockSize - 5
  let cryptLeft := sub32 self.totalLength (cryptDone + macSize)
  let self ← decryptRest self cryptDone cryptLeft
  match ← checkMac self cryptDone cryptLeft with
  | none => return (.protocolError sshDisconnectMacError (some "Invalid MAC"), self)
  | some self => deliver self space macSize

/-- The part of `transport_read_packet` after the header. -/
def readBody (self : TransportReadState) (space : ℕ) (fd : Option ReadResult) :
    Except Assertion (ReadStatus Packet × TransportReadState × ℕ) := do
  match ← fillBody self fd with
  | (some status, self, n) => return (status, self, n)
  | (none, self, n) =>
    let (status, self) ← decodePacket self space
    return (status, self, n)

/-- `transport_read_packet` with an output string of `space` octets. Besides the status and the
new state, the number of octets taken from the file descriptor. -/
def transportReadPacket (self : TransportReadState) (space : ℕ) (fd : Option ReadResult) :
    Except Assertion (ReadStatus Packet × TransportReadState × ℕ) := do
  -- a file descriptor that was read for the first block is not read again for the body
  let fd' := if self.data.length < self.blockSize then none else fd
  match ← fillBlock self fd with
  | (some status, self, n) => return (status, self, n)
  | (none, self, n) =>
    match ← processHeader self with
    | (some status, self) => return (status, self, n)
    | (none, self) =>
      let (status, self, m) ← readBody self space fd'
      return (status, self, n + m)

end Lsh.Transport
