
import Mathlib.Data.List.TakeDrop
import Lsh.Sftp.Client

/-!
# Getting a file

The chain of callbacks of `sftp_get_file` against a server that has the file. Blocks of zeros are
not written, so that the local file can be shorter than what has been got: `Sparse` says that zeros
are all that is missing. The last octet is written again at the end, which makes up for them.

The chain knows two ends. A block that is not full is the last one, and then the local file is
completed and closed. If all blocks are full, the server answers the next READ with the end of file.
The memory layer then has no next callback, and the file layer leaves the local file as it is. So
the file is reproduced and closed exactly if its last block is not full.

## Main results

* `chain_getFile` — a file is reproduced and closed exactly if its last block is not full
* `chain_getFile_empty` — an empty file is never closed
-/

namespace Lsh.Sftp.Client

open Machine Files List

/-- A server that has one file. -/
def serveFile (handle : Octets) (content : Octets) : Request → Reply × Octets
  | .openFile _ _ => (.handle handle, content)
  | .fstat _ => (.attrs, content)
  | .read _ offset length =>
    (if (content.drop offset).take length = [] then .status 1
      else .data ((content.drop offset).take length), content)
  | .write _ _ _ => (.status 4, content)
  | .close _ => (.status 0, content)

/-! ### One block -/

/-- The local file has what has been got, up to zeros at the end. -/
def Sparse (file content : Octets) (p : ℕ) : Prop :=
  ∃ n, content.take p = file ++ List.replicate n 0

/-- What a block does to the local file. -/
def putBlock (file : Octets) (p : ℕ) (block : Octets) : Octets :=
  if writeNeeded block then writeAt file p block else file

variable {p : ℕ}

theorem Sparse.putBlock {file content : Octets} {n : ℕ} (h : Sparse file content p)
    (hp : p ≤ content.length) :
    Sparse (putBlock file p ((content.drop p).take n)) content (p + n) := by
  obtain ⟨z, hz⟩ := h
  have hta : content.take (p + n) = file ++ List.replicate z 0 ++ (content.drop p).take n := by
    rw [take_add, hz]
  have hlen : file.length + z = p := by
    have := congrArg List.length hz
    rw [length_take, length_append, length_replicate] at this
    omega
  rw [Client.putBlock]
  split_ifs with hany
  · refine ⟨0, ?_⟩
    have hne : (content.drop p).take n ≠ [] := by
      rintro hnil
      rw [hnil] at hany
      exact absurd hany nofun
    rw [writeAt_gap (by omega) hne, hta, show p - file.length = z by omega]
    exact (append_nil _).symm
  · refine ⟨z + ((content.drop p).take n).length, ?_⟩
    have hzeros : (content.drop p).take n = List.replicate ((content.drop p).take n).length 0 := by
      rw [eq_replicate_iff]
      refine ⟨rfl, fun b hb => ?_⟩
      by_contra hne
      exact hany (List.any_eq_true.mpr ⟨b, hb, decide_eq_true hne⟩)
    rw [hta, append_assoc, replicate_add, ← hzeros]

section Main

variable (id : UInt32) {lastId retval badStatus : UInt32} {p : ℕ}
  {handle file data content : Octets} {mem : Mem} {position : ℕ}

theorem Mem.store_used_zero {m : Mem} (hsize : data.length ≤ m.size) :
    ({ m with used := 0 }.store data) =
      { m with content := data ++ m.content.drop data.length, used := data.length } := by
  simp [Mem.store, Nat.not_lt.mpr hsize]

variable {localerr isOpen : Bool} {out : Option (UInt32 × Request)}

/-- **A full block**: it is written, unless it is made of zeros, and the next one is asked for. -/
theorem sftpGetFileMain_full (hdata : data.length = blocksize) (hsize : blocksize ≤ mem.size)
    (hp : ¬SeekFails p) :
    ∃ position', sftpGetFileMain ⟨⟨.getFileMain, id, p, retval, badStatus, some handle, localerr,
      mem⟩,
        ⟨file, position, isOpen⟩, lastId, out⟩ id (.data data) =
      .ok ⟨⟨.getFileMain, lastId + 1, p + data.length, retval, badStatus, some handle, localerr,
          { mem with content := data ++ mem.content.drop data.length, used := data.length }⟩,
        ⟨putBlock file p data, position', isOpen⟩, lastId + 1,
        some (lastId + 1, .read handle (p + data.length) blocksize)⟩ := by
  have hsto := Mem.store_used_zero (m := mem) (hdata ▸ hsize)
  have hfu := eq_true hdata
  cases hany : writeNeeded data <;>
    simp [sftpGetFileMain, sftpGetMemMain, hsto, hfu, Transfer.ask, Transfer.send,
      Callback.handleText, Transfer.lseek, hp, hany, Client.putBlock, Transfer.write, pure,
      Except.pure]

/-- **The last block**: it is written, and then its last octet, and the file is closed. -/
theorem sftpGetFileMain_short (hdata : data.length ≠ blocksize) (hne : data ≠ [])
    (hsize : data.length ≤ mem.size) (hp : ¬SeekFails p) (hend : ¬SeekFails (p + data.length - 1)) :
    ∃ position', sftpGetFileMain ⟨⟨.getFileMain, id, p, retval, badStatus, some handle, localerr,
      mem⟩,
        ⟨file, position, isOpen⟩, lastId, out⟩ id (.data data) =
      .ok ⟨⟨.handleStatus, lastId + 1, p + data.length, retval, badStatus, none, localerr, .null⟩,
        ⟨writeAt (putBlock file p data) (p + data.length - 1) [data.getLast hne], position', false⟩,
        lastId + 1, some (lastId + 1, .close handle)⟩ := by
  have hsto := Mem.store_used_zero (m := mem) hsize
  have hla : ((data ++ mem.content.drop data.length).drop (data.length - 1)).take 1 =
      [data.getLast hne] := by
    rw [drop_append_of_le_length (Nat.sub_le _ _), drop_length_sub_one hne]
    rfl
  cases hany : writeNeeded data <;>
    simp [sftpGetFileMain, sftpGetMemMain, hsto, hdata, hne, Transfer.ask, Transfer.send,
      Callback.handleText, Transfer.lseek, hp, hend, hany, Client.putBlock, Transfer.write,
      finishFile,
      Transfer.close, hla, pure, Except.pure]

/-- **The end of the file**, where a block was expected: there is no next callback. -/
theorem sftpGetFileMain_status (code : UInt32) (hp : ¬SeekFails p) :
    sftpGetFileMain ⟨⟨.getFileMain, id, p, retval, badStatus, some handle, localerr, mem⟩,
        ⟨file, position, isOpen⟩, lastId, out⟩ id (.status code) =
      .ok ⟨⟨.none, 0, p, code, badStatus, none, localerr, { mem with used := 0 }⟩,
        ⟨file, p, isOpen⟩, lastId + 1, some (lastId + 1, .close handle)⟩ := by
  simp [sftpGetFileMain, sftpGetMemMain, sftpHandleStatus, Transfer.send, Transfer.lseek, hp,
    writeNeeded, pure, Except.pure]

end Main

/-! ### The chain -/

/-- The states of a chain that gets a file. -/
inductive Getting (content : Octets) : Transfer → Prop
  | opening (name : Octets) (id : UInt32) :
    Getting content ⟨⟨.getFileStepOne, id, 0, 0, 0, none, false, .alloc (2 * blocksize)⟩,
      ⟨[], 0, true⟩,
      id, some (id, .openFile name 1)⟩
  | stating (handle : Octets) (id : UInt32) :
    Getting content ⟨⟨.getFileStepTwo, id, 0, 0, 0, some handle, false, .alloc (2 * blocksize)⟩,
      ⟨[], 0, true⟩, id, some (id, .fstat handle)⟩
  | reading (handle : Octets) (id : UInt32) {file : Octets} {p : ℕ} (position : ℕ) {mem : Mem}
      (hsparse : Sparse file content p) (hdvd : blocksize ∣ p) (hp : p ≤ content.length)
      (hsize : blocksize ≤ mem.size) :
    Getting content ⟨⟨.getFileMain, id, p, 0, 0, some handle, false, mem⟩, ⟨file, position, true⟩,
      id,
      some (id, .read handle p blocksize)⟩
  | closing (hlength : content.length % blocksize ≠ 0) (handle : Octets) (id : UInt32)
      (position : ℕ) :
    Getting content ⟨⟨.handleStatus, id, content.length, 0, 0, none, false, .null⟩,
      ⟨content, position, false⟩, id, some (id, .close handle)⟩
  | done (hlength : content.length % blocksize ≠ 0) (id retval : UInt32) (position : ℕ) :
    Getting content ⟨⟨.none, 0, content.length, retval, 0, none, false, .null⟩,
      ⟨content, position, false⟩, id, none⟩
  | ended (hlength : content.length % blocksize = 0) (handle file : Octets) (id : UInt32)
      (position : ℕ) (mem : Mem) :
    Getting content ⟨⟨.none, 0, content.length, 1, 0, none, false, mem⟩, ⟨file, position, true⟩, id,
      some (id, .close handle)⟩

/-- How a chain ends. -/
def Got (content : Octets) (t : Transfer) : Prop :=
  if content.length % blocksize = 0 then t.file.isOpen = true
  else t.file.content = content ∧ t.file.isOpen = false

/-- What is left to do. -/
def Transfer.togo (length : ℕ) (t : Transfer) : ℕ :=
  length - t.cb.filepos + match t.cb.nextfun with
    | .getFileStepOne => 4
    | .getFileStepTwo => 3
    | .getFileMain => 2
    | .handleStatus => 1
    | _ => 0

theorem not_seekFails_of_dvd (h : blocksize ∣ p) : ¬SeekFails p := by
  obtain ⟨k, rfl⟩ := h
  rw [SeekFails, blocksize]
  omega

/-- **One round** of a chain. -/
theorem Getting.round {content handle : Octets} {t : Transfer} (h : Getting content t)
    (log : List Request) :
    Yields (Round (fun s => s.server = content ∧ Getting content s.transfer)
        (fun s => s.transfer.togo content.length) (fun s => Got content s.transfer)
        ⟨t, content, log⟩)
      (chainRound (serveFile handle) ⟨t, content, log⟩) := by
  cases h with
  | opening name id =>
    have hcall : callback ⟨⟨.getFileStepOne, id, 0, 0, 0, none, false, .alloc (2 * blocksize)⟩,
        ⟨[], 0, true⟩, id, none⟩ id (.handle handle) =
        .ok ⟨⟨.getFileStepTwo, id + 1, 0, 0, 0, some handle, false, .alloc (2 * blocksize)⟩,
          ⟨[], 0, true⟩, id + 1, some (id + 1, .fstat handle)⟩ := by
      simp [callback, sftpGetFileStepOne, Transfer.ask, Transfer.send, pure, Except.pure]
    refine chainRound_ensures rfl (by simp) hcall ⟨⟨rfl, .stating handle (id + 1)⟩, ?_⟩
    show content.length - 0 + 3 < content.length - 0 + 4
    omega
  | stating h id =>
    have hcall : callback ⟨⟨.getFileStepTwo, id, 0, 0, 0, some h, false, .alloc (2 * blocksize)⟩,
        ⟨[], 0, true⟩, id, none⟩ id .attrs =
        .ok ⟨⟨.getFileMain, id + 1, 0, 0, 0, some h, false, .alloc (2 * blocksize)⟩,
          ⟨[], 0, true⟩, id + 1, some (id + 1, .read h 0 blocksize)⟩ := by
      simp [callback, sftpGetFileStepTwo, Transfer.ask, Transfer.send, Callback.handleText, pure,
        Except.pure]
    refine chainRound_ensures rfl (by simp) hcall
      ⟨⟨rfl, .reading h (id + 1) 0 ⟨0, rfl⟩ (dvd_zero _) (Nat.zero_le _) (by decide)⟩, ?_⟩
    show content.length - 0 + 2 < content.length - 0 + 3
    omega
  | @reading h id file p position mem hspa hdvd hp hsize =>
    have hseek : ¬SeekFails p := not_seekFails_of_dvd hdvd
    rcases Nat.eq_or_lt_of_le hp with rfl | hlt
    · -- there is nothing left to read
      have hserve : (serveFile handle content (.read h content.length blocksize)).1 =
          .status 1 := by
        simp [serveFile]
      refine chainRound_ensures rfl (by simp) (hserve ▸ sftpGetFileMain_status id 1 hseek)
        ⟨⟨rfl, ?_⟩, ?_⟩
      · exact .ended (Nat.mod_eq_zero_of_dvd hdvd) h file (id + 1) content.length _
      · show content.length - content.length + 0 < content.length - content.length + 2
        omega
    have hdata : ((content.drop p).take blocksize).length = min blocksize (content.length - p) := by
      rw [length_take, length_drop]
    have hne : (content.drop p).take blocksize ≠ [] := by
      rw [← length_pos_iff, hdata]
      exact Nat.lt_min.mpr ⟨by decide, by omega⟩
    have hsve : (serveFile handle content (.read h p blocksize)).1 =
        .data ((content.drop p).take blocksize) := if_neg hne
    have hspa' := hspa.putBlock (n := blocksize) hp
    by_cases hfu : ((content.drop p).take blocksize).length = blocksize
    · obtain ⟨position', hcall⟩ := sftpGetFileMain_full id hfu hsize hseek
      rw [hfu] at hcall hdata
      refine chainRound_ensures rfl (by simp) (hsve ▸ hcall) ⟨⟨rfl, ?_⟩, ?_⟩
      · exact .reading h (id + 1) position' hspa' (Nat.dvd_add hdvd (Nat.dvd_refl _))
          (by omega) hsize
      · show content.length - (p + blocksize) + 2 < content.length - p + 2
        have : 0 < blocksize := by decide
        omega
    · -- the file ends in this block
      have hall : (content.drop p).take blocksize = content.drop p :=
        take_of_length_le (by rw [length_drop]; omega)
      have hend : p + (content.drop p).length = content.length := by
        rw [length_drop]
        omega
      rw [hall] at hne hfu hdata hsve hspa'
      have hlength : content.length % blocksize ≠ 0 := by
        obtain ⟨k, rfl⟩ := hdvd
        rw [← hend, Nat.mul_add_mod, Nat.mod_eq_of_lt (by omega)]
        exact (List.length_pos_iff.mpr hne).ne'
      have hsek : ¬SeekFails (p + (content.drop p).length - 1) := by
        rw [SeekFails]
        rw [blocksize] at hlength
        omega
      have hft : (content.drop p).length ≤ mem.size := by omega
      obtain ⟨position', hcall⟩ := sftpGetFileMain_short id hfu hne hft hseek hsek
      have hcon : writeAt (putBlock file p (content.drop p)) (p + (content.drop p).length - 1)
          [(content.drop p).getLast hne] = content := by
        obtain ⟨n, hn⟩ := hspa'
        have hwhole : content ≠ [] := List.length_pos_iff.mp (by omega)
        rw [take_of_length_le (by omega)] at hn
        rw [getLast_drop, hend]
        exact writeAt_getLast hn hwhole
      rw [hcon, hend] at hcall
      refine chainRound_ensures rfl (by simp) (hsve ▸ hcall)
        ⟨⟨rfl, .closing hlength h (id + 1) position'⟩, ?_⟩
      show content.length - content.length + 1 < content.length - p + 2
      omega
  | closing hlength h id position =>
    have hcall : callback ⟨⟨.handleStatus, id, content.length, 0, 0, none, false, .null⟩,
        ⟨content, position, false⟩, id, none⟩ id (.status 0) =
        .ok ⟨⟨.none, 0, content.length, 0, 0, none, false, .null⟩, ⟨content, position, false⟩, id,
          none⟩ := by
      simp [callback, sftpHandleStatus, pure, Except.pure]
    refine chainRound_ensures rfl (by simp) hcall ⟨⟨rfl, .done hlength id 0 position⟩, ?_⟩
    show content.length - content.length + 0 < content.length - content.length + 1
    omega
  | done hlength id retval position =>
    show Got content _
    rw [Got, if_neg hlength]
    exact ⟨rfl, rfl⟩
  | ended hlength handle file id position mem =>
    show Got content _
    rw [Got, if_pos hlength]

/-- A chain ends. -/
theorem chain_got {content : Octets} {rounds : ℕ} (hrounds : content.length + 4 < rounds)
    (name handle : Octets) (lastId : UInt32) :
    ∃ s, chain (serveFile handle) rounds ⟨sftpGetFileInit name lastId, content, []⟩ = .ok s ∧
      Got content s.transfer := by
  refine Ensures.exists_ok (loop_ensures (fun s => s.transfer.togo content.length)
    (fun s (hs : s.server = content ∧ Getting content s.transfer) => ?_) ⟨rfl, ?_⟩ ?_)
  · obtain ⟨t, server, log⟩ := s
    obtain ⟨rfl, ht⟩ := hs
    exact ht.round log
  · exact .opening name (lastId + 1)
  · exact hrounds

/-- **A file is reproduced exactly if its last block is not full.** The chain ends in every case.
The local file has the content of the remote one and is closed if and only if the length is no
multiple of the block size. -/
theorem chain_getFile (content name handle : Octets) (lastId : UInt32) (rounds : ℕ)
    (hrounds : content.length + 4 < rounds) :
    ∃ s, chain (serveFile handle) rounds ⟨sftpGetFileInit name lastId, content, []⟩ = .ok s ∧
      (s.transfer.file.content = content ∧ s.transfer.file.isOpen = false ↔
        content.length % blocksize ≠ 0) := by
  obtain ⟨s, heq, hgot⟩ := chain_got hrounds name handle lastId
  refine ⟨s, heq, ?_⟩
  by_cases hlength : content.length % blocksize = 0
  · rw [Got, if_pos hlength] at hgot
    simp [hgot, hlength]
  · rw [Got, if_neg hlength] at hgot
    simp [hgot, hlength]

theorem chain_getFile_example :
    ∃ s, chain (serveFile [0]) 9 ⟨sftpGetFileInit [97] 0, [0, 7, 0], []⟩ = .ok s ∧
      (s.transfer.file.content = [0, 7, 0] ∧ s.transfer.file.isOpen = false ↔
        [0, 7, 0].length % blocksize ≠ 0) :=
  chain_getFile [0, 7, 0] [97] [0] 0 9 (by decide)

/-- The first READ of an empty file is answered with the end of file, and the local file stays
open. -/
theorem chain_getFile_empty :
    (chain (serveFile [0]) 9 ⟨sftpGetFileInit [97] 0, [], []⟩).map
      (fun s => (s.transfer.cb.nextfun, s.transfer.file.isOpen)) = .ok (.none, true) := by
  rfl

end Lsh.Sftp.Client
