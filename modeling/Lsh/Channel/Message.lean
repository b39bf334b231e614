
import Lsh.Wire

/-!
# Messages of the connection protocol

The messages that `channel.c` formats and parses. Channel numbers, window sizes and packet sizes
are `uint32_t`, and strings of the program have a length of that type, so that a parser reads back
what was formatted without further conditions.

## Main results

* `parseNumber_format`, `parseChannelRequest_format`, … — each parser reads back its message
-/

namespace Lsh.Channel

open Octets Wire

/-- `struct lsh_string`: the length is a `uint32_t`. -/
abbrev LshString := {s : Octets // s.length < 2 ^ 32}

/-- `%i`. -/
def formatUint32 (n : UInt32) : Octets := writeUint32 n.toNat

/-- `parse_uint32`. -/
def parseUint32 (s : Octets) : Option (UInt32 × Octets) :=
  (Wire.parseUint32 s).map fun (n, s) => (UInt32.ofNat n, s)

@[simp] theorem parseUint32_formatUint32 (n s) :
    parseUint32 (formatUint32 n ++ s) = some (n, s) := by
  rw [parseUint32, formatUint32]
  simp

/-- The flag `want_reply` as it is sent. -/
def flagOctet (wantReply : Bool) : Octets := [if wantReply then 1 else 0]

/-- `parse_boolean` for the flag `want_reply`. -/
def parseFlag (s : Octets) : Option (Bool × Octets) :=
  (parseBoolean s).map fun (b, s) => (b ≠ 0, s)

@[simp] theorem parseFlag_flagOctet (want s) :
    parseFlag (flagOctet want ++ s) = some (want, s) := by
  cases want <;> rfl

/-- A string of the program is read back. -/
theorem parseString_lshString (a : LshString) (s) :
    parseString (formatString a.1 ++ s) = some (a.1, s) :=
  parseString_formatString a.2 s

/-- A message. The first number of a message about a channel is the number of the receiver; `open`
tells the number of the sender, and `openConfirmation` both. -/
inductive Message where
  | globalRequest (type : Atom) (wantReply : Bool) (args : Octets)
  | requestSuccess
  | requestFailure
  | open (type : LshString) (number window maxPacket : UInt32) (args : Octets)
  | openConfirmation (recipient number window maxPacket : UInt32)
  | openFailure (recipient reason : UInt32) (msg : LshString)
  | windowAdjust (recipient add : UInt32)
  | data (recipient : UInt32) (s : LshString)
  | extendedData (recipient type : UInt32) (s : LshString)
  | eof (recipient : UInt32)
  | close (recipient : UInt32)
  | request (recipient : UInt32) (type : LshString) (wantReply : Bool) (args : Octets)
  | success (recipient : UInt32)
  | failure (recipient : UInt32)
  deriving DecidableEq

/-- The formats of `channel.c`. -/
def Message.format : Message → Octets
  | globalRequest type wantReply args =>
    formatUint8 80 ++ (formatAtom type ++ (flagOctet wantReply ++ args))
  | requestSuccess => formatUint8 81
  | requestFailure => formatUint8 82
  | .open type number window maxPacket args =>
    formatUint8 90 ++ (formatString type.1 ++ (formatUint32 number ++ (formatUint32 window ++
      (formatUint32 maxPacket ++ args))))
  | openConfirmation recipient number window maxPacket =>
    formatUint8 91 ++ (formatUint32 recipient ++ (formatUint32 number ++ (formatUint32 window ++
      formatUint32 maxPacket)))
  | openFailure recipient reason msg =>
    formatUint8 92 ++ (formatUint32 recipient ++ (formatUint32 reason ++ (formatString msg.1 ++
      formatString [])))
  | windowAdjust recipient add => formatUint8 93 ++ (formatUint32 recipient ++ formatUint32 add)
  | data recipient s => formatUint8 94 ++ (formatUint32 recipient ++ formatString s.1)
  | extendedData recipient type s =>
    formatUint8 95 ++ (formatUint32 recipient ++ (formatUint32 type ++ formatString s.1))
  | eof recipient => formatUint8 96 ++ formatUint32 recipient
  | close recipient => formatUint8 97 ++ formatUint32 recipient
  | request recipient type wantReply args =>
    formatUint8 98 ++ (formatUint32 recipient ++ (formatString type.1 ++ (flagOctet wantReply ++
      args)))
  | success recipient => formatUint8 99 ++ formatUint32 recipient
  | failure recipient => formatUint8 100 ++ formatUint32 recipient

/-! ### Parsers -/

/-- A channel number and nothing else. -/
def parseNumber (s : Octets) : Option UInt32 := do
  let (n, s) ← parseUint32 s
  parseEod s
  return n

/-- The parser of `handle_adjust_window`. -/
def parseWindowAdjust (s : Octets) : Option (UInt32 × UInt32) := do
  let (n, s) ← parseUint32 s
  let (size, s) ← parseUint32 s
  parseEod s
  return (n, size)

/-- The parser of `handle_channel_data`. -/
def parseChannelData (s : Octets) : Option (UInt32 × Octets) := do
  let (n, s) ← parseUint32 s
  let (data, s) ← parseString s
  parseEod s
  return (n, data)

/-- The parser of `handle_channel_extended_data`. -/
def parseChannelExtendedData (s : Octets) : Option (UInt32 × UInt32 × Octets) := do
  let (n, s) ← parseUint32 s
  let (type, s) ← parseUint32 s
  let (data, s) ← parseString s
  parseEod s
  return (n, type, data)

/-- The parser of `handle_open_confirm`. -/
def parseOpenConfirmation (s : Octets) : Option (UInt32 × UInt32 × UInt32 × UInt32) := do
  let (n, s) ← parseUint32 s
  let (remote, s) ← parseUint32 s
  let (window, s) ← parseUint32 s
  let (maxPacket, s) ← parseUint32 s
  parseEod s
  return (n, remote, window, maxPacket)

/-- The parser of `handle_open_failure`: the number. -/
def parseOpenFailure (s : Octets) : Option UInt32 := do
  let (n, s) ← parseUint32 s
  let (_, s) ← parseUint32 s
  let (_, s) ← parseString s
  let (_, s) ← parseString s
  parseEod s
  return n

/-- The parser of `handle_channel_request`: the number, the type, the flag and the arguments. -/
def parseChannelRequest (s : Octets) : Option (UInt32 × Octets × Bool × Octets) := do
  let (n, s) ← parseUint32 s
  let (type, s) ← parseString s
  let (wantReply, s) ← parseFlag s
  return (n, type, wantReply, s)

/-- The parser of `handle_global_request`: the type, the flag and the arguments. -/
def parseGlobalRequest (s : Octets) : Option (Octets × Bool × Octets) := do
  let (type, s) ← parseString s
  let (wantReply, s) ← parseFlag s
  return (type, wantReply, s)

/-- `parse_channel_open`: the type, the three numbers and the arguments. -/
def parseChannelOpen (s : Octets) : Option (Octets × UInt32 × UInt32 × UInt32 × Octets) := do
  let (type, s) ← parseString s
  let (remote, s) ← parseUint32 s
  let (window, s) ← parseUint32 s
  let (maxPacket, s) ← parseUint32 s
  return (type, remote, window, maxPacket, s)

/-! ### Round trips -/

theorem parseEod_nil : parseEod [] = some () := rfl

/-- The last number of a message. -/
theorem parseUint32_last (n) : parseUint32 (formatUint32 n) = some (n, []) := by
  have h := parseUint32_formatUint32 n []
  rwa [List.append_nil] at h

theorem parseString_last (a : LshString) : parseString (formatString a.1) = some (a.1, []) := by
  have h := parseString_lshString a []
  rwa [List.append_nil] at h

theorem parseNumber_format (n) : parseNumber (formatUint32 n) = some n := by
  simp [parseNumber, parseUint32_last, parseEod_nil]

theorem parseWindowAdjust_format (n add) :
    parseWindowAdjust (formatUint32 n ++ formatUint32 add) = some (n, add) := by
  simp [parseWindowAdjust, parseUint32_last, parseEod_nil]

theorem parseChannelData_format (n) (data : LshString) :
    parseChannelData (formatUint32 n ++ formatString data.1) = some (n, data.1) := by
  simp [parseChannelData, parseString_last, parseEod_nil]

theorem parseChannelExtendedData_format (n type) (data : LshString) :
    parseChannelExtendedData (formatUint32 n ++ (formatUint32 type ++ formatString data.1)) =
      some (n, type, data.1) := by
  simp [parseChannelExtendedData, parseString_last, parseEod_nil]

theorem parseOpenConfirmation_format (n remote window maxPacket) :
    parseOpenConfirmation (formatUint32 n ++ (formatUint32 remote ++ (formatUint32 window ++
      formatUint32 maxPacket))) = some (n, remote, window, maxPacket) := by
  simp [parseOpenConfirmation, parseUint32_last, parseEod_nil]

theorem parseOpenFailure_format (n reason) (msg : LshString) :
    parseOpenFailure (formatUint32 n ++ (formatUint32 reason ++ (formatString msg.1 ++
      formatString []))) = some n := by
  have hla := parseString_last ⟨[], by decide⟩
  simp [parseOpenFailure, parseString_lshString, hla, parseEod_nil]

theorem parseChannelRequest_format (n) (type : LshString) (want args) :
    parseChannelRequest (formatUint32 n ++ (formatString type.1 ++ (flagOctet want ++ args))) =
      some (n, type.1, want, args) := by
  simp [parseChannelRequest, parseString_lshString]

theorem parseGlobalRequest_format (type want args) :
    parseGlobalRequest (formatAtom type ++ (flagOctet want ++ args)) =
      some (type.octets, want, args) := by
  have hlen := type.length_octets_le
  have hty := parseString_formatString (a := type.octets) (by omega) (flagOctet want ++ args)
  simp [parseGlobalRequest, formatAtom, hty]

theorem parseChannelOpen_format (type : LshString) (number window maxPacket args) :
    parseChannelOpen (formatString type.1 ++ (formatUint32 number ++ (formatUint32 window ++
      (formatUint32 maxPacket ++ args)))) = some (type.1, number, window, maxPacket, args) := by
  simp [parseChannelOpen, parseString_lshString]

end Lsh.Channel
