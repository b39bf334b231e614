
import Lsh.Library.Machine
import Lsh.Library.Octets

/-!
# Constants and assertions shared by all programs

The constants are those of `ssh.h`. The daemons and clients are C programs that `assert` their
internal preconditions; a failed assertion ends the process. Modelled functions that assert
return `Except Assertion _`, and `Assertion` names the assertion that failed.

Arithmetic on `uint32_t` is arithmetic on `ℕ`, with `sub32` where the source subtracts and
relies on, or has to rule out, wrapping around.
-/

namespace Lsh

/-- The largest payload of a packet, `SSH_MAX_PACKET`. -/
def sshMaxPacket : ℕ := 0x8000

/-- Slack for compression, padding and MAC, `SSH_MAX_PACKET_FUZZ`. -/
def sshMaxPacketFuzz : ℕ := 35000 - sshMaxPacket

/-- Line length limit of the version handshake, `SSH_MAX_LINE`. -/
def sshMaxLine : ℕ := 255

/-- The largest MAC, `SSH_MAX_MAC_SIZE`. -/
def sshMaxMacSize : ℕ := 20

/-- Disconnect reason codes that the transport reader reports. -/
def sshDisconnectProtocolError : ℕ := 2

@[inherit_doc sshDisconnectProtocolError]
def sshDisconnectMacError : ℕ := 5

/-- Subtraction of unsigned 32-bit integers. -/
def sub32 (a b : ℕ) : ℕ := (a + 2 ^ 32 - b) % 2 ^ 32

theorem sub32_eq {b a : ℕ} (hb : b ≤ a) (ha : a < 2 ^ 32) : sub32 a b = a - b := by
  unfold sub32
  omega

/-- The assertions of the transport reader and writer and of the functions they call. -/
inductive Assertion
  /-- `ssh_read_some`: the limit is smaller than the length of the input buffer -/
  | readLimit
  /-- `ssh_read_some`: less than the limit is in the buffer -/
  | readLength
  /-- `ssh_read_some`: there is something to gain by moving the data to the start -/
  | readStart
  /-- `lsh_string_move`: source and destination differ -/
  | moveFrom
  /-- `lsh_string_read`: at least one octet is asked for -/
  | readZero
  /-- `ASSERT_ROOM` on the input buffer -/
  | inputRoom
  /-- `ASSERT_ROOM` on the string for a digest -/
  | macRoom
  /-- `ASSERT_ROOM` on the string for the payload -/
  | outputRoom
  /-- `transport_read_packet`: a whole block is in the buffer -/
  | blockAvailable
  /-- the block ciphers: the length is a multiple of the block size -/
  | wholeBlocks
  /-- `do_zlib`: there is input -/
  | zlibLength
  /-- `do_zlib`: all input was consumed when there was output space left -/
  | zlibAvailIn
  /-- `encrypt_packet`: the payload is not empty -/
  | packetLength
  /-- `encrypt_packet`: the compressed payload is not empty -/
  | deflatedLength
  /-- `encrypt_packet`: at least four octets of padding -/
  | paddingLength
  /-- `encrypt_packet`: the formatted packet has the size computed for it -/
  | packetSize
  deriving DecidableEq, Repr

/-- `ASSERT_ROOM`: `length` octets at `start` are inside a string of `size` octets. -/
def assertRoom (e : Assertion) (size start length : ℕ) : Except Assertion Unit := do
  Machine.require (start ≤ size) e
  Machine.require (length ≤ size - start) e

variable {start length size : ℕ} {e : Assertion}

theorem assertRoom_of (h : start + length ≤ size) : assertRoom e size start length = .ok () := by
  have h1 : start ≤ size := by omega
  have h2 : length ≤ size - start := by omega
  simp [assertRoom, h1, h2]

theorem assertRoom_of_not (h : ¬start + length ≤ size) :
    assertRoom e size start length = .error e := by
  by_cases h1 : start ≤ size
  · have h2 : ¬length ≤ size - start := by omega
    simp [assertRoom, h1, Machine.require_of_not h2]
  · simp [assertRoom, Machine.require_of_not h1]

end Lsh
