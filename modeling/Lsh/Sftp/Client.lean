
import Lsh.Library.Files
import Lsh.Library.Loop
import Lsh.Wire

/-!
# File transfers of the SFTP client

A model of the part of `sftp_c.c` that gets and puts files. A transfer is a chain of callbacks: each
takes one reply of the server, puts at most one request in the output, and names the next callback.
The transfers of files are built on those of memory blocks, which leave a `sftp_mem` and their own
choice of a next callback behind, and the outer callback goes on from there.

The local calls succeed. What `lseek` returns is put in an `int`, and is taken for an error if that
is `-1`. Packets are requests and replies here. The chain ends when there is no next callback; a
chain that has one, and nothing in the output, waits for ever.
-/

namespace Lsh.Sftp.Client

open Machine Files

/-- `SFTP_BLOCKSIZE`. -/
def blocksize : ℕ := 16384

/-! ### Memory blocks -/

/-- `struct sftp_mem`, with the octets that have been stored. -/
structure Mem where
  content : Octets
  size : ℕ
  used : ℕ

/-- `sftp_null_mem`. -/
def Mem.null : Mem := ⟨[], 0, 0⟩

/-- `sftp_alloc_mem`. -/
def Mem.alloc (size : ℕ) : Mem := ⟨[], size, 0⟩

/-- `sftp_resize_mem`. -/
def Mem.resize (m : Mem) (size : ℕ) : Mem :=
  if size = 0 then .null else { m with content := m.content.take size, size := size }

/-- `sftp_toggle_mem`. -/
def Mem.toggle (m : Mem) : Mem := { m with used := 0 }.resize m.used

/-- `sftp_store`. -/
def Mem.store (m : Mem) (data : Octets) : Mem :=
  let m := if m.size - m.used < data.length then m.resize (m.used + data.length) else m
  { m with
    content := m.content.take m.used ++ data ++ m.content.drop (m.used + data.length)
    used := m.used + data.length }

/-- `sftp_retrieve`. -/
def Mem.retrieve (m : Mem) (desired : ℕ) : Octets × Mem :=
  let realsize := if m.size - m.used < desired then m.size - m.used else desired
  ((m.content.drop m.used).take realsize, { m with used := m.used + realsize })

/-! ### State -/

/-- A packet to the server. -/
inductive Request where
  | openFile (name : Octets) (flags : UInt32)
  | fstat (handle : Octets)
  | read (handle : Octets) (offset length : ℕ)
  | write (handle : Octets) (offset : ℕ) (data : Octets)
  | close (handle : Octets)
  deriving DecidableEq

/-- A packet from the server. -/
inductive Reply where
  | status (code : UInt32)
  | handle (handle : Octets)
  | data (data : Octets)
  | attrs

/-- The callbacks. -/
inductive NextFun where
  | none
  | handleStatus
  | getFileStepOne
  | getFileStepTwo
  | getMemMain
  | getFileMain
  | putFileStepOne
  | putMemMain
  | putFileMain
  deriving DecidableEq

/-- `struct sftp_callback`. -/
structure Callback where
  nextfun : NextFun
  id : UInt32
  filepos : ℕ
  retval : UInt32
  badStatus : UInt32
  handle : Option Octets
  localerr : Bool
  mem : Mem

/-- `sftp_null_state`. -/
def Callback.null : Callback := ⟨.none, 0, 0, 0, 0, none, false, .null⟩

/-- A local file and its descriptor. -/
structure LocalFile where
  content : Octets
  position : ℕ
  isOpen : Bool

/-- One transfer. -/
structure Transfer where
  cb : Callback
  file : LocalFile
  /-- The last result of `sftp_unique_id`. -/
  lastId : UInt32
  out : Option (UInt32 × Request)

/-- How a transfer can fail. -/
inductive Failure where
  | assertion
  /-- The octet before a block is used. -/
  | outOfBounds
  /-- Nothing more happens. -/
  | stuck
  deriving DecidableEq

/-- A packet with a new id. -/
def Transfer.send (t : Transfer) (request : Request) : Transfer :=
  { t with lastId := t.lastId + 1, out := some (t.lastId + 1, request) }

/-- A packet whose answer is waited for. -/
def Transfer.ask (t : Transfer) (request : Request) (nextfun : NextFun) : Transfer :=
  { t.send request with cb := { t.cb with id := t.lastId + 1, nextfun := nextfun } }

/-- The handle, in a packet. -/
def Callback.handleText (cb : Callback) : Octets := cb.handle.getD []

/-- A position that looks like an error. -/
def SeekFails (position : ℕ) : Prop := position % 2 ^ 32 = 2 ^ 32 - 1

instance (position : ℕ) : Decidable (SeekFails position) := inferInstanceAs (Decidable (_ = _))

/-- `lseek`, for its callers. -/
def Transfer.lseek (t : Transfer) (position : ℕ) : Option Transfer :=
  if SeekFails position then none
  else some { t with file := { t.file with position := position } }

/-- A local call has failed. -/
def Transfer.localError (t : Transfer) : Transfer :=
  { t with cb := { t.cb with nextfun := .none, id := 0, localerr := true } }

/-- `write`, to the local file. -/
def Transfer.write (t : Transfer) (data : Octets) : Transfer :=
  { t with file := { t.file with
    content := writeAt t.file.content t.file.position data
    position := t.file.position + data.length } }

/-- The block of a file at a position. -/
def blockAt (content : Octets) (position : ℕ) : Octets := (content.drop position).take blocksize

/-- `read`, from the local file. -/
def Transfer.read (t : Transfer) : Octets × Transfer :=
  let data := blockAt t.file.content t.file.position
  (data, { t with file := { t.file with position := t.file.position + data.length } })

/-- `close`, of the local file, with the memory block. -/
def Transfer.close (t : Transfer) : Transfer :=
  { t with file := { t.file with isOpen := false }, cb := { t.cb with mem := .null } }

/-! ### Callbacks -/

/-- `sftp_handle_status`. -/
def sftpHandleStatus (t : Transfer) (id : UInt32) (reply : Reply) : Except Failure Transfer :=
  match reply with
  | .status code => do
    require (id = t.cb.id) .assertion
    let cb := { t.cb with retval := code, id := 0, nextfun := .none }
    match t.cb.handle with
    | none => return { t with cb := cb }
    | some handle => return { t.send (.close handle) with cb := { cb with handle := none } }
  | _ => .error .assertion

/-- `sftp_get_mem_main`. -/
def sftpGetMemMain (t : Transfer) (id : UInt32) (reply : Reply) : Except Failure Transfer :=
  match reply with
  | .status _ => sftpHandleStatus t id reply
  | .data data => do
    require (id = t.cb.id) .assertion
    let t := { t with cb := { t.cb with
      mem := t.cb.mem.store data
      filepos := t.cb.filepos + data.length } }
    if data.length = blocksize then
      return t.ask (.read t.cb.handleText t.cb.filepos blocksize) .getMemMain
    else
      let t := t.ask (.close t.cb.handleText) .handleStatus
      return { t with cb := { t.cb with handle := none } }
  | _ => .error .assertion

/-- `sftp_get_file_init`, for a transfer from the start. The local file is truncated. -/
def sftpGetFileInit (name : Octets) (lastId : UInt32) : Transfer :=
  let t : Transfer := ⟨{ Callback.null with mem := .alloc (2 * blocksize) }, ⟨[], 0, true⟩, lastId,
    none⟩
  t.ask (.openFile name 1) .getFileStepOne

/-- `sftp_get_file_step_one`. -/
def sftpGetFileStepOne (t : Transfer) (id : UInt32) (reply : Reply) : Except Failure Transfer :=
  match reply with
  | .status _ => sftpHandleStatus t id reply
  | .handle handle => do
    require (id = t.cb.id) .assertion
    return { t with cb := { t.cb with handle := some handle } }.ask (.fstat handle) .getFileStepTwo
  | _ => .error .assertion

/-- `sftp_get_file_step_two`, with `sftp_handle_attrs`. -/
def sftpGetFileStepTwo (t : Transfer) (id : UInt32) (reply : Reply) : Except Failure Transfer :=
  match reply with
  | .status _ => sftpHandleStatus t id reply
  | .attrs => do
    require (id = t.cb.id) .assertion
    return t.ask (.read t.cb.handleText t.cb.filepos blocksize) .getFileMain
  | _ => .error .assertion

/-- The end of a file that has been got: its last octet is written again, so that it has grown. -/
def finishFile (t : Transfer) : Except Failure Transfer :=
  if t.cb.filepos = 0 then .ok t.localError
  else
    match t.lseek (t.cb.filepos - 1) with
    | none => .ok t.localError
    | some t =>
      if t.cb.mem.used = 0 then .error .outOfBounds
      else .ok (t.write ((t.cb.mem.content.drop (t.cb.mem.used - 1)).take 1)).close

/-- Whether a block has to be written. -/
def writeNeeded (block : Octets) : Bool := block.any (· ≠ 0)

/-- `sftp_get_file_main`. A block of zeros is not written. -/
def sftpGetFileMain (t : Transfer) (id : UInt32) (reply : Reply) : Except Failure Transfer := do
  let t := { t with cb := { t.cb with mem := { t.cb.mem with used := 0 } } }
  let t ← sftpGetMemMain t id reply
  match t.lseek (t.cb.filepos - t.cb.mem.used) with
  | none => return t.localError
  | some t =>
    let block := t.cb.mem.content.take t.cb.mem.used
    let t := if writeNeeded block then t.write block else t
    if t.cb.nextfun = .handleStatus then finishFile t
    else if t.cb.nextfun ≠ .none then
      return { t with cb := { t.cb with nextfun := .getFileMain } }
    else return t

/-- `sftp_put_mem_step_one`. -/
def sftpPutMemStepOne (t : Transfer) (id : UInt32) (reply : Reply) : Except Failure Transfer :=
  match reply with
  | .status _ => sftpHandleStatus t id reply
  | .handle handle => do
    require (id = t.cb.id) .assertion
    let (data, mem) := t.cb.mem.retrieve blocksize
    return { t with cb := { t.cb with handle := some handle, mem := mem } }.ask
      (.write handle t.cb.filepos data) .putMemMain
  | _ => .error .assertion

/-- `sftp_put_mem_main`. -/
def sftpPutMemMain (t : Transfer) (id : UInt32) (reply : Reply) : Except Failure Transfer :=
  match reply with
  | .status code => do
    require (id = t.cb.id) .assertion
    if code ≠ 0 then
      let cb : Callback := { t.cb with
        retval := code
        badStatus := code
        id := t.lastId + 1
        nextfun := .handleStatus }
      match t.cb.handle with
      | none => return { t with cb := cb, lastId := t.lastId + 1 }
      | some handle => return { t.send (.close handle) with cb := { cb with handle := none } }
    else
      let (data, mem) := t.cb.mem.retrieve blocksize
      let t := { t with cb := { t.cb with retval := code, mem := mem } }
      if data ≠ [] then
        let t := t.ask (.write t.cb.handleText t.cb.filepos data) .putMemMain
        return { t with cb := { t.cb with filepos := t.cb.filepos + data.length } }
      else
        let t := t.ask (.close t.cb.handleText) .handleStatus
        return { t with cb := { t.cb with handle := none } }
  | _ => .error .assertion

/-- `sftp_put_file_init`, for a transfer from the start, with CREAT, WRITE and TRUNC. -/
def sftpPutFileInit (name content : Octets) (lastId : UInt32) : Transfer :=
  let t : Transfer := ⟨{ Callback.null with mem := .alloc blocksize }, ⟨content, 0, true⟩, lastId,
    none⟩
  t.ask (.openFile name 26) .putFileStepOne

/-- `sftp_put_file_step_one`. The next callback is set whatever became of this one. -/
def sftpPutFileStepOne (t : Transfer) (id : UInt32) (reply : Reply) : Except Failure Transfer :=
  match t.lseek t.cb.filepos with
  | none => .ok t.localError
  | some t => do
    let (data, t) := t.read
    let t ← sftpPutMemStepOne
      { t with cb := { t.cb with mem := (t.cb.mem.store data).toggle } } id reply
    return { t with cb := { t.cb with nextfun := .putFileMain } }

/-- `sftp_put_file_main`. -/
def sftpPutFileMain (t : Transfer) (id : UInt32) (reply : Reply) : Except Failure Transfer :=
  match t.lseek t.cb.filepos with
  | none => .ok t.localError
  | some t => do
    let (data, t) := t.read
    let mem := (t.cb.mem.toggle.toggle.store data).toggle
    let t ← sftpPutMemMain { t with cb := { t.cb with mem := mem } } id reply
    if t.cb.nextfun = .handleStatus then return t.close
    else if t.cb.nextfun ≠ .none then
      return { t with cb := { t.cb with nextfun := .putFileMain } }
    else return t

/-- The next callback. -/
def callback (t : Transfer) (id : UInt32) (reply : Reply) : Except Failure Transfer :=
  match t.cb.nextfun with
  | .none => .error .stuck
  | .handleStatus => sftpHandleStatus t id reply
  | .getFileStepOne => sftpGetFileStepOne t id reply
  | .getFileStepTwo => sftpGetFileStepTwo t id reply
  | .getMemMain => sftpGetMemMain t id reply
  | .getFileMain => sftpGetFileMain t id reply
  | .putFileStepOne => sftpPutFileStepOne t id reply
  | .putMemMain => sftpPutMemMain t id reply
  | .putFileMain => sftpPutFileMain t id reply

/-! ### The chain -/

/-- A transfer, the server and the requests so far. -/
structure Chain (ρ : Type) where
  transfer : Transfer
  server : ρ
  log : List Request

variable {ρ : Type}

/-- The server answers, and the next callback is called. -/
def chainRound (serve : ρ → Request → Reply × ρ) (s : Chain ρ) :
    Except Failure (Chain ρ ⊕ Chain ρ) :=
  if s.transfer.cb.nextfun = .none then .ok (.inr s)
  else
    match s.transfer.out with
    | none => .error .stuck
    | some (id, request) => do
      let (reply, server) := serve s.server request
      let t ← callback { s.transfer with out := none } id reply
      return .inl ⟨t, server, s.log ++ [request]⟩

theorem chainRound_ensures {request : Request} {serve : ρ → Request → Reply × ρ} {t' : Transfer}
    {log : List Request} {server : ρ} {id : UInt32} {E : Failure → Prop}
    {P : Chain ρ ⊕ Chain ρ → Prop}
    (hout : t.out = some (id, request)) (hnext : t.cb.nextfun ≠ .none)
    (hcall : callback { t with out := none } id (serve server request).1 = .ok t')
    (hP : P (.inl ⟨t', (serve server request).2, log ++ [request]⟩)) :
    Ensures E P (chainRound serve ⟨t, server, log⟩) := by
  rw [chainRound, if_neg hnext]
  rw [hout]
  dsimp only
  rw [hcall]
  exact hP

/-- The chain of callbacks, with a bound on its length. -/
def chain (serve : ρ → Request → Reply × ρ) (rounds : ℕ) (s : Chain ρ) : Except Failure (Chain ρ) :=
  loop (chainRound serve) .stuck rounds s

end Lsh.Sftp.Client
