
import Lsh.Transport.Connection

/-!
# The server's transport process

The application that `lshd.c` and `transport_forward.c` put on top of a connection. Until a
service is started it answers requests for services, and all events but the end of the first key
exchange are ignored. When a service is started, `transport_forward_setup` replaces the handlers:
from then on packets are passed between the connection and the service, and `START` and `STOP`
turn reading from the service on and off.

What depends on other processes is chosen by the environment: whether a service can be started,
what can be read from it, whether it can be written to.
-/

namespace Lsh.Lshd

open Transport

/-- `SSH_DISCONNECT_SERVICE_NOT_AVAILABLE`. -/
def sshDisconnectServiceNotAvailable : ℕ := 7

/-- The fields of `struct transport_forward` that decide what is read from the service. The buffer
to the service is left out: what becomes of a write is up to the environment. -/
structure LshdState where
  /-- `transport_forward_setup` has replaced the handlers. -/
  forward : Bool
  /-- `service_in` is a file descriptor. -/
  serviceIn : Bool
  serviceReadActive : Bool
  deriving DecidableEq, Repr

/-- What `service_read_packet` returns. -/
inductive ServiceRead where
  | ioError
  | protocolError
  | eof
  | push
  | pending
  | complete (packet : Octets)

/-- What the environment chooses in an event. -/
structure LshdEnv where
  /-- `socketpair` and `fork` succeed. -/
  spawned : Bool
  /-- There is room for a packet in the buffer to the service. -/
  available : Bool
  /-- Writing to the service succeeds, or would block. -/
  written : Bool
  /-- The service is readable, with this result, or it is writable. -/
  readable : Option ServiceRead

/-! ### Forwarding -/

/-- `forward_start_read`. -/
def forwardStartRead (s : LshdState) : LshdState := { s with serviceReadActive := true }

/-- `forward_stop_read`. -/
def forwardStopRead (s : LshdState) : LshdState := { s with serviceReadActive := false }

/-- `transport_forward_close`. -/
def transportForwardClose (s : LshdState) : LshdState := { s with serviceIn := false }

/-- `transport_forward_setup`. -/
def transportForwardSetup (s : LshdState) : LshdState :=
  forwardStartRead { s with forward := true, serviceIn := true }

/-- The event handlers. `lshd_event_handler` ignores these events, `forward_event_handler` does
not. The kill method closes the service. -/
def notify (s : LshdState) : Notice → LshdState
  | .start => if s.forward then forwardStartRead s else s
  | .stop => if s.forward then forwardStopRead s else s
  | .close => if s.forward then transportForwardClose s else s
  | .kill => transportForwardClose s

/-- The connection is given up because writing to the service failed. -/
def serviceFailed : List (Action LshdState) :=
  [.disconnect sshDisconnectByApplication "Connection to service layer failed."]

/-- `TRANSPORT_EVENT_PUSH`. -/
def push (s : LshdState) (env : LshdEnv) : List (Action LshdState) :=
  if s.forward ∧ s.serviceIn ∧ ¬env.written then serviceFailed else []

/-- `transport_forward_packet`. -/
def transportForwardPacket (packet : Octets) : List (Action LshdState) :=
  if packet.head? = some 1 then [.send packet, .close true] else [.send packet]

/-- One round of the loop of `oop_read_service`. -/
def readService (s : LshdState) (r : ServiceRead) : List (Action LshdState) :=
  if s.serviceIn ∧ s.serviceReadActive then
    match r with
    | .ioError => [.disconnect sshDisconnectByApplication "Read from service layer failed."]
    | .protocolError => [.disconnect sshDisconnectByApplication "Invalid data from service layer."]
    | .eof => [.disconnect sshDisconnectByApplication "Service done."]
    | .push => [.flush]
    | .pending => []
    | .complete [] =>
      [.disconnect sshDisconnectByApplication "Received empty packet from service layer."]
    | .complete (b :: packet) => transportForwardPacket (b :: packet)
  else []

/-- The callbacks of the service's file descriptors: `oop_read_service`, `oop_write_service`. -/
def callback (s : LshdState) (env : LshdEnv) : List (Action LshdState) :=
  match env.readable with
  | some r => readService s r
  | none => if s.serviceIn ∧ ¬env.written then serviceFailed else []

/-- `forward_packet_handler`. -/
def forwardPacketHandler (env : LshdEnv) (seqno : ℕ) (packet : Octets) :
    List (Action LshdState) × Bool :=
  if ∃ msg ∈ packet.head?, 192 ≤ msg then ([.send (formatUnimplemented seqno)], true)
  else if ¬env.available then ([], false)
  else (if env.written then [] else serviceFailed, true)

/-! ### Requests for services -/

/-- `format_service_accept`. -/
def formatServiceAccept (name : Octets) : Octets := Wire.formatUint8 6 ++ Wire.formatString name

/-- The parser of `lshd_service_request_handler`: the name of the service. -/
def parseServiceRequest (packet : Octets) : Option Octets := do
  let (msgNumber, s) ← Wire.parseUint8 packet
  if msgNumber ≠ 5 then none else
  let (name, s) ← Wire.parseString s
  Wire.parseEod s
  return name

/-- `lshd_service_request_handler`. -/
def lshdServiceRequestHandler (services : List Octets) (env : LshdEnv) (packet : Octets) :
    List (Action LshdState) :=
  match parseServiceRequest packet with
  | none => [.disconnect sshDisconnectProtocolError "Invalid SERVICE_REQUEST"]
  | some name =>
    if name ∈ services then
      if env.spawned then [.send (formatServiceAccept name), .become transportForwardSetup]
      else [.disconnect sshDisconnectServiceNotAvailable "Service could not be started"]
    else [.disconnect sshDisconnectServiceNotAvailable "Service not available"]

/-- A request that starts a service. -/
def startsService (services : List Octets) (env : LshdEnv) (packet : Octets) : Bool :=
  match parseServiceRequest packet with
  | none => false
  | some name => name ∈ services ∧ env.spawned

/-- `lshd_packet_handler`. -/
def lshdPacketHandler (services : List Octets) (env : LshdEnv) (seqno : ℕ) (packet : Octets) :
    List (Action LshdState) × Bool :=
  if packet.head? = some 5 then (lshdServiceRequestHandler services env packet, true)
  else ([.send (formatUnimplemented seqno)], true)

/-- `lshd_line_handler`. It compares only the first four characters. -/
def lshdLineHandler (line : Octets) : LineAction :=
  if line.length < 8 ∨ line.take 4 ≠ asciiOctets "SSH-" then .reject else .accept

/-- The application, for a configuration with these services. -/
def lshd (services : List Octets) : App LshdState LshdEnv where
  notify := notify
  complete := fun _ => []
  push := push
  packet := fun s env seqno packet =>
    if s.forward then forwardPacketHandler env seqno packet
    else lshdPacketHandler services env seqno packet
  line := lshdLineHandler
  callback := callback

/-- The state of a new connection. -/
def initLshd : LshdState := ⟨false, false, false⟩

end Lsh.Lshd
