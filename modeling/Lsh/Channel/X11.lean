
import Lsh.Channel.Forward

/-!
# X11 channels of the client

A model of `do_client_channel_x11_receive` and `make_client_x11_channel` in `client_x11.c`. The
first message on an X11 channel has a cookie. It is collected, in a small window, and checked; the
message with the real cookie is what goes to the X server, and the window is opened.
-/

namespace Lsh.Channel

open Machine Io

/-- `X11_WINDOW_SIZE`. -/
def x11WindowSize : UInt32 := 10000

/-- `X11_SETUP_MAX_LENGTH`. -/
def x11SetupMaxLength : ℕ := 48

/-- `X11_SETUP_HEADER_LENGTH`. -/
def x11SetupHeaderLength : ℕ := 12

/-- `X11_FAIL_LENGTH`. -/
def x11FailLength : UInt32 := 24

/-- `PAD`. -/
def x11Pad (l : ℕ) : ℕ := (4 - l % 4) % 4

/-- `MIT_COOKIE_NAME`. -/
def mitCookieName : Octets := asciiOctets "MIT-MAGIC-COOKIE-1"

/-- `make_client_x11_channel`. -/
def makeClientX11Channel (fd : ℕ) (display : ClientX11Display) : NewChannel Forward :=
  let new := initChannelForward fd x11WindowSize (.clientX11 ⟨display, .start, false, 0, 0, []⟩)
  { new with
    recWindowSize := UInt32.ofNat x11SetupMaxLength
    receive := true
    app := { new.app with receive := .clientX11 } }

/-- `READ_UINT16` or `LE_READ_UINT16`, at a position. -/
def readUint16 (littleEndian : Bool) (s : Octets) (n : ℕ) : ℕ :=
  let first := (s.getD n 0).toNat
  let second := (s.getD (n + 1) 0).toNat
  if littleEndian then second * 256 + first else first * 256 + second

/-- `WRITE_UINT16` or `LE_WRITE_UINT16`. -/
def writeUint16 (littleEndian : Bool) (n : ℕ) : Octets :=
  let high := UInt8.ofNat (n / 256)
  let low := UInt8.ofNat n
  if littleEndian then [low, high] else [high, low]

/-- The byte order that the first octet tells. -/
def x11ByteOrder (b : UInt8) : Option Bool :=
  if b = 0x42 ∨ b = 0x62 then some false
  else if b = 0x4c ∨ b = 0x6c then some true
  else none

namespace ClientX11

variable (self : ClientX11)

/-- Where the cookie starts. -/
def authOffset : ℕ := x11SetupHeaderLength + self.nameLength + x11Pad self.nameLength

/-- The length of the message. -/
def length : ℕ := self.authOffset + self.authLength + x11Pad self.authLength

/-- The cookie is the fake one. -/
def cookiesMatch : Bool :=
  self.nameLength = 18 ∧ (self.buffer.drop x11SetupHeaderLength).take 18 = mitCookieName ∧
    self.display.fake.1 = (self.buffer.drop self.authOffset).take self.authLength

/-- The message with the real cookie. The rest of the buffer, which is added to it, starts after all
that has been received. -/
def setupMessage : Octets :=
  self.buffer.take 6 ++ writeUint16 self.littleEndian self.display.authName.1.length ++
    writeUint16 self.littleEndian self.display.authData.1.length ++ [0, 0] ++
    self.display.authName.1 ++ List.replicate (x11Pad self.display.authName.1.length) 0 ++
    self.display.authData.1 ++
    (self.buffer.drop self.buffer.length).take (self.buffer.length - self.length)

/-- The message for the X client if its cookie is wrong. -/
def failMessage : LshString :=
  lshString ([0, 0] ++ writeUint16 self.littleEndian 11 ++ writeUint16 self.littleEndian 4 ++
    [0, 0] ++
    asciiOctets "Access denied.\n" ++ [0])

end ClientX11

section Functions

variable {x : SshChannel Forward} (t : Turn x) (self : ClientX11)

/-- The fields of the class. -/
def x11Set : Turn x := t.setSelf (.clientX11 self)

/-- The label `fail`. -/
def x11Fail : Turn x := x11Set (t.call .close) { self with state := .cantHappen }

/-- The cookie is wrong. -/
def x11Deny : Turn x :=
  let t := if x11FailLength ≤ t.channel.sendWindowSize ∧
    x11FailLength ≤ t.channel.sendMaxPacket then
      (t.call (.transmitData self.failMessage)).call .eof
    else t
  x11Fail t self

/-- The cookie is right. -/
def x11Allow (res : WriteResult) : Except ProgramError (Turn x) := do
  let msg := self.setupMessage
  let t := t.call (.startReceive (x11WindowSize - UInt32.ofNat msg.length))
  let t := channelForwardStartIo t
  let t ← channelForwardWrite t msg res
  return x11Set t { self with state := .cantHappen, buffer := [] }

/-- The lengths are known. -/
def x11GotLengths (res : WriteResult) : Except ProgramError (Turn x) :=
  if self.buffer.length < self.length then .ok (x11Set t self)
  else if self.cookiesMatch then x11Allow t self res
  else .ok (x11Deny t self)

/-- The byte order and the lengths are in the header. -/
def x11Start (res : WriteResult) : Except ProgramError (Turn x) :=
  if self.buffer.length < x11SetupHeaderLength then .ok (x11Set t self)
  else
    match x11ByteOrder (self.buffer.getD 0 0) with
    | none => .ok (x11Fail t self)
    | some littleEndian =>
      let self := { self with
        state := .gotLengths
        littleEndian := littleEndian
        nameLength := readUint16 littleEndian self.buffer 6
        authLength := readUint16 littleEndian self.buffer 8 }
      if 20 < self.nameLength ∨ 16 < self.authLength then .ok (x11Fail t self)
      else x11GotLengths t self res

/-- `do_client_channel_x11_receive`. -/
def doClientChannelX11Receive (stderr : Bool) (data : Octets) (res : WriteResult) :
    Except ProgramError (Turn x) := do
  if stderr then return ignoreData t data
  else
    require (self.buffer.length + data.length ≤ x11SetupMaxLength) (.assertion .string)
    let self := { self with buffer := self.buffer ++ data }
    match self.state with
    | .start => x11Start t self res
    | .gotLengths => x11GotLengths t self res
    | .cantHappen => .error .fatal

end Functions

end Lsh.Channel
