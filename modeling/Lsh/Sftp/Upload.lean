
import Lsh.Sftp.Download

/-!
# Putting a file

The chain of callbacks of `sftp_put_file` against a server that may refuse any request. The first
block is written twice, because the first callback does not advance the position in the file. Every
WRITE has octets of the file at their place, so that the remote file is a piece of the local one
from its start, which grows until the position has reached the end.

A refused WRITE is followed by a CLOSE, and the chain ends with the answer to that. A refused OPEN
ends the chain of the memory layer, but the callback of the file layer sets its next callback all
the same, and waits for a reply to a request that has not been sent. And a file whose length looks
like an error is not closed, unless a WRITE is refused before its end is reached.

## Main results

* `chain_putFile` — when exactly the remote file gets the content of the local one and the chain
  ends with a CLOSE
* `chainRound_openRefused` — a chain that waits for ever
-/

namespace Lsh.Sftp.Client

open Machine Files List

/-- The remote file, with the status of the next requests and of those that have been answered. -/
structure Remote where
  content : Octets
  codes : List UInt32
  answered : List UInt32

/-- The status of the next request. -/
def Remote.code (r : Remote) : UInt32 := r.codes.headD 0

/-- A request has been answered. -/
def Remote.answer (r : Remote) (content : Octets) : Remote :=
  ⟨content, r.codes.tail, r.answered ++ [r.code]⟩

/-- A server that does what it is asked for, or refuses. -/
def serveUpload (handle : Octets) (r : Remote) : Request → Reply × Remote
  | .openFile _ _ =>
    if r.code = 0 then (.handle handle, r.answer []) else (.status r.code, r.answer r.content)
  | .write _ offset data =>
    (.status r.code, r.answer (if r.code = 0 then writeAt r.content offset data else r.content))
  | .fstat _ => (.attrs, r.answer r.content)
  | .read _ _ _ => (.status 4, r.answer r.content)
  | .close _ => (.status r.code, r.answer r.content)

/-! ### One block -/

section Block

variable {content : Octets} {m q k : ℕ}

/-- A piece of the file, at its place. -/
theorem writeAt_take (hq : q ≤ m) :
    writeAt (content.take m) q ((content.drop q).take k) =
      content.take (max m (q + ((content.drop q).take k).length)) := by
  by_cases hdata : (content.drop q).take k = []
  · rw [hdata, writeAt_nil, Nat.max_eq_left (by omega)]
  · obtain ⟨n, hn⟩ : ∃ n, ((content.drop q).take k).length = n := ⟨_, rfl⟩
    have hpos : 0 < n := hn ▸ List.length_pos_iff.mpr hdata
    rw [length_take, length_drop] at hn
    have hta : (content.drop q).take k = (content.drop q).take n := by
      rw [take_eq_take_iff, length_drop]
      omega
    have hbef : (content.take m ++ List.replicate (q - (content.take m).length) default).take q =
        content.take q := by
      rw [take_append_of_le_length (by rw [length_take]; omega), take_take,
        Nat.min_eq_left hq]
    rw [writeAt, if_neg hdata, hbef, hta, ← take_add, length_take, length_drop,
      Nat.min_eq_left (by omega)]
    by_cases hm : m ≤ q + n
    · rw [Nat.max_eq_right hm, drop_of_length_le (by rw [length_take]; omega),
        append_nil]
    · have hbegin : content.take (q + n) = (content.take m).take (q + n) := by
        rw [take_take, Nat.min_eq_left (by omega)]
      rw [Nat.max_eq_left (by omega), hbegin, take_append_drop]

theorem Mem.toggle_toggle (m : Mem) : m.toggle.toggle = .null := by
  simp only [Mem.toggle, Mem.resize]
  split_ifs <;> rfl

/-- A block that has been stored, ready to be sent. -/
theorem Mem.toggle_store {m : Mem} (hcon : m.content = []) (hused : m.used = 0) (data) :
    (m.store data).toggle = ⟨data, data.length, 0⟩ := by
  obtain ⟨c, size, used⟩ := m
  subst hcon hused
  by_cases hdata : data = []
  · subst hdata
    simp [Mem.store, Mem.toggle, Mem.resize, Mem.null]
  · by_cases hsize : size < data.length <;> simp [Mem.store, Mem.toggle, Mem.resize, hdata, hsize]

theorem Mem.retrieve_all {data : Octets} (hdata : data.length ≤ blocksize) :
    (⟨data, data.length, 0⟩ : Mem).retrieve blocksize =
      (data, ⟨data, data.length, data.length⟩) := by
  have hsize : (if data.length < blocksize then data.length else blocksize) = data.length := by
    split_ifs
    · rfl
    · omega
  simp [Mem.retrieve, hsize]

end Block

section Callbacks

variable (id : UInt32) {lastId retval badStatus code : UInt32} {p : ℕ} {handle file data : Octets}
  {mem : Mem} {position : ℕ}

theorem length_blockAt_le (file p) : (blockAt file p).length ≤ blocksize := by
  rw [blockAt, length_take]
  exact Nat.min_le_left _ _

variable {localerr isOpen : Bool}

/-- **The first block**, which leaves the position where it was. -/
theorem sftpPutFileStepOne_handle (hcon : mem.content = []) (hused : mem.used = 0)
    (hp : ¬SeekFails p) :
    ∃ position' mem', sftpPutFileStepOne
      ⟨⟨.putFileStepOne, id, p, retval, badStatus, none, localerr,
        mem⟩, ⟨file, position, isOpen⟩, lastId, none⟩ id (.handle handle) =
      .ok ⟨⟨.putFileMain, lastId + 1, p, retval, badStatus, some handle, localerr, mem'⟩,
        ⟨file, position', isOpen⟩, lastId + 1,
        some (lastId + 1, .write handle p (blockAt file p))⟩ := by
  have hsto := Mem.toggle_store hcon hused (blockAt file p)
  have hall := Mem.retrieve_all (length_blockAt_le file p)
  simp [sftpPutFileStepOne, Transfer.lseek, hp, Transfer.read, sftpPutMemStepOne, hsto,
    hall, Transfer.ask, Transfer.send, pure, Except.pure]

/-- **The next block.** -/
theorem sftpPutFileMain_block (hp : ¬SeekFails p) (hbl : blockAt file p ≠ []) :
    ∃ position' mem', sftpPutFileMain
      ⟨⟨.putFileMain, id, p, retval, badStatus, some handle, localerr,
        mem⟩, ⟨file, position, isOpen⟩, lastId, none⟩ id (.status 0) =
      .ok ⟨⟨.putFileMain, lastId + 1, p + (blockAt file p).length, 0, badStatus, some handle,
        localerr,
        mem'⟩, ⟨file, position', isOpen⟩, lastId + 1,
        some (lastId + 1, .write handle p (blockAt file p))⟩ := by
  have hsto := Mem.toggle_store (m := .null) rfl rfl (blockAt file p)
  have hall := Mem.retrieve_all (length_blockAt_le file p)
  simp [sftpPutFileMain, Transfer.lseek, hp, Transfer.read, sftpPutMemMain, Mem.toggle_toggle, hsto,
    hall, hbl, Transfer.ask, Transfer.send, Callback.handleText, pure, Except.pure]

/-- **The end of the file.** -/
theorem sftpPutFileMain_end (hp : ¬SeekFails p) (hbl : blockAt file p = []) :
    ∃ position', sftpPutFileMain ⟨⟨.putFileMain, id, p, retval, badStatus, some handle, localerr,
      mem⟩,
        ⟨file, position, isOpen⟩, lastId, none⟩ id (.status 0) =
      .ok ⟨⟨.handleStatus, lastId + 1, p, 0, badStatus, none, localerr, .null⟩,
        ⟨file, position', false⟩, lastId + 1, some (lastId + 1, .close handle)⟩ := by
  have hemp : ((Mem.null.store []).toggle.retrieve blocksize).1 = [] := rfl
  simp [sftpPutFileMain, Transfer.lseek, hp, Transfer.read, sftpPutMemMain, Mem.toggle_toggle, hbl,
    hemp, Transfer.ask, Transfer.send, Callback.handleText, Transfer.close, pure, Except.pure]

/-- **A refused WRITE.** -/
theorem sftpPutFileMain_refused (hp : ¬SeekFails p) (hcod : code ≠ 0) :
    ∃ position', sftpPutFileMain ⟨⟨.putFileMain, id, p, retval, badStatus, some handle, localerr,
      mem⟩,
        ⟨file, position, isOpen⟩, lastId, none⟩ id (.status code) =
      .ok ⟨⟨.handleStatus, lastId + 1, p, code, code, none, localerr, .null⟩,
        ⟨file, position', false⟩,
        lastId + 1, some (lastId + 1, .close handle)⟩ := by
  simp [sftpPutFileMain, Transfer.lseek, hp, Transfer.read, sftpPutMemMain, hcod, Transfer.send,
    Transfer.close, pure, Except.pure]

end Callbacks

/-! ### The chain -/

/-- The end of the file can be reached, or a WRITE is refused before that. The first status is that
of the OPEN, and the first block is written twice. -/
def Proceeds (content : Octets) (codes : List UInt32) : Prop :=
  SeekFails content.length → ∃ c ∈ codes.tail.take (content.length / blocksize + 1), c ≠ 0

/-- The statuses that have been given are 0, and the others are still to come. -/
structure Remote.Goes (r : Remote) (codes : List UInt32) : Prop where
  answered : ∀ c ∈ r.answered, c = 0
  zero : ∀ c ∈ codes.take r.answered.length, c = 0
  codes : r.codes = codes.drop r.answered.length

theorem Remote.Goes.answer {r : Remote} {codes : List UInt32} (h : r.Goes codes)
    (hcode : r.code = 0)
    (content : Octets) : (r.answer content).Goes codes := by
  have hhead : r.code = (codes.drop r.answered.length).headD 0 := by rw [Remote.code, h.codes]
  refine ⟨?_, ?_, ?_⟩
  · show ∀ c ∈ r.answered ++ [r.code], c = 0
    rw [hcode, forall_mem_append]
    exact ⟨h.answered, List.forall_mem_singleton.mpr rfl⟩
  · show ∀ c ∈ codes.take (r.answered ++ [r.code]).length, c = 0
    rw [length_append, length_singleton, take_add, forall_mem_append]
    refine ⟨h.zero, ?_⟩
    cases hrest : codes.drop r.answered.length with
    | nil => simp
    | cons c rest =>
      rw [hrest, hcode] at hhead
      simpa using hhead.symm
  · show r.codes.tail = codes.drop (r.answered ++ [r.code]).length
    rw [h.codes, tail_drop, length_append]
    rfl

/-- A status that is not 0 is one of the list. -/
theorem Remote.Goes.mem_take {r : Remote} {codes : List UInt32} {n : ℕ} (h : r.Goes codes)
    (hcode : r.code ≠ 0) (hpos : 0 < r.answered.length) (hlt : r.answered.length ≤ n) :
    r.code ∈ codes.tail.take n := by
  rw [Remote.code, h.codes] at hcode ⊢
  obtain ⟨m, hm⟩ : ∃ m, r.answered.length = m + 1 := Nat.exists_eq_succ_of_ne_zero hpos.ne'
  rw [hm] at hcode hlt ⊢
  have hdrop : codes.drop (m + 1) = codes.tail.drop m := by rw [← drop_one, drop_drop, Nat.add_comm]
  rw [hdrop] at hcode ⊢
  cases hrest : codes.tail.drop m with
  | nil => simp [hrest] at hcode
  | cons c rest =>
    have hsplit : codes.tail.take (m + 1) = codes.tail.take m ++ [c] := by
      rw [take_add, hrest]
      rfl
    exact (take_subset_take_left _ hlt) (by rw [hsplit]; simp)

/-- The states of a chain that puts a file. -/
inductive Putting (content : Octets) (codes : List UInt32) : Transfer → Remote → Prop
  | opening (name : Octets) (id : UInt32) {r : Remote} (hcode : r.code = 0) (hr : r.answered = [])
      (hcodes : r.codes = codes) :
    Putting content codes ⟨⟨.putFileStepOne, id, 0, 0, 0, none, false, .alloc blocksize⟩,
      ⟨content, 0, true⟩,
      id, some (id, .openFile name 26)⟩ r
  /-- A piece of the file is on its way, and the remote file has another one. -/
  | writing (handle : Octets) (id : UInt32) {retval : UInt32} {p m q k position : ℕ} {mem : Mem}
      {r : Remote} (hr : r.content = content.take m) (hgoes : r.Goes codes)
      (hq : q ≤ m) (hp : p ≤ max m (q + ((content.drop q).take k).length))
      (hanswered : 0 < r.answered.length)
      (hposition : p = min (blocksize * (r.answered.length - 1)) content.length) :
    Putting content codes ⟨⟨.putFileMain, id, p, retval, 0, some handle, false, mem⟩,
      ⟨content, position, true⟩, id, some (id, .write handle q ((content.drop q).take k))⟩ r
  | closing (handle : Octets) (id : UInt32) {retval badStatus : UInt32} {p position : ℕ}
      {r : Remote}
      (hr : (∀ c ∈ r.answered, c = 0) → r.content = content)
      (hanswered : ∀ c ∈ r.answered.dropLast, c = 0) (hproceeds : Proceeds content codes) :
    Putting content codes ⟨⟨.handleStatus, id, p, retval, badStatus, none, false, .null⟩,
      ⟨content, position, false⟩, id, some (id, .close handle)⟩ r

/-- How a chain ends: with a CLOSE, and without a next callback. If everything was done, the remote
file has the content, and if not, what was refused is the last request before the CLOSE. -/
structure Ended (content : Octets) (s : Chain Remote) : Prop where
  nextfun : s.transfer.cb.nextfun = .none
  close : ∃ handle, s.log.getLast? = some (.close handle)
  content : (∀ c ∈ s.server.answered.dropLast, c = 0) → s.server.content = content
  answered : ∀ c ∈ s.server.answered.dropLast.dropLast, c = 0

/-- There is no next callback, and the chain has ended as it should exactly if it proceeds. -/
structure Finished (content : Octets) (codes : List UInt32) (s : Chain Remote) : Prop where
  nextfun : s.transfer.cb.nextfun = .none
  ended : Ended content s ↔ Proceeds content codes

/-- What is left to do. -/
def Transfer.toput (length : ℕ) (t : Transfer) : ℕ :=
  length - t.cb.filepos + match t.cb.nextfun with
    | .putFileStepOne => 3
    | .putFileMain => 2
    | .handleStatus => 1
    | _ => 0

/-- **A position that looks like an error.** -/
theorem sftpPutFileMain_seekFails {t : Transfer} (hp : SeekFails t.cb.filepos) (id : UInt32)
    (reply : Reply) : sftpPutFileMain t id reply = .ok t.localError := by
  rw [sftpPutFileMain, Transfer.lseek, if_pos hp]

section Position

variable {content : Octets} {codes : List UInt32} {p n : ℕ}

/-- Only the end of the file can look like an error. -/
theorem eq_length_of_seekFails (hp : p = min (blocksize * n) content.length) (hseek : SeekFails p) :
    p = content.length ∧ content.length / blocksize + 1 ≤ n := by
  have hne : p ≠ blocksize * n := by
    rintro rfl
    exact not_seekFails_of_dvd (Nat.dvd_mul_right _ _) hseek
  have hlt : content.length < blocksize * n := by omega
  exact ⟨by omega, Nat.div_lt_of_lt_mul hlt⟩

/-- Before the end so many blocks have been sent. -/
theorem le_div_of_not_seekFails (hp : p = min (blocksize * n) content.length)
    (hseek : ¬SeekFails p) (hlength : SeekFails content.length) :
      n ≤ content.length / blocksize := by
  have hne : p ≠ content.length := by
    rintro rfl
    exact hseek hlength
  exact (Nat.le_div_iff_mul_le (by decide)).mpr (by rw [Nat.mul_comm]; omega)

end Position

/-- **One round** of a chain that has been opened. -/
theorem Putting.round {content handle : Octets} {codes : List UInt32} {t : Transfer} {r : Remote}
    (h : Putting content codes t r) (log : List Request) :
    Yields (Round
        (fun s => Putting content codes s.transfer s.server ∨ Finished content codes s)
        (fun s => s.transfer.toput content.length) (Finished content codes) ⟨t, r, log⟩)
      (chainRound (serveUpload handle) ⟨t, r, log⟩) := by
  cases h with
  | opening name id hcode hr hcodes =>
    obtain ⟨position', mem', hcall⟩ := sftpPutFileStepOne_handle id
      (show (Mem.alloc blocksize).content = [] from rfl) rfl (show ¬SeekFails 0 by decide)
    have hserve : serveUpload handle r (.openFile name 26) = (.handle handle, r.answer []) :=
      if_pos hcode
    have hgoes : r.Goes codes := by
      refine ⟨?_, ?_, ?_⟩ <;> simp [hr, hcodes]
    have hlength : (r.answer []).answered.length = 1 := by simp [Remote.answer, hr]
    refine chainRound_ensures rfl (by simp)
      ((congrArg (sftpPutFileStepOne _ _) (congrArg Prod.fst hserve)).trans hcall) ⟨.inl ?_, ?_⟩
    · rw [hserve]
      refine .writing handle (id + 1) (m := 0) (take_zero).symm (hgoes.answer hcode [])
        (Nat.le_refl 0)
        (Nat.zero_le _) ?_ ?_ <;> simp [hlength]
    · show content.length - 0 + 2 < content.length - 0 + 3
      omega
  | @writing h id retval p m q k position mem r hr hgoes hq hp hanswered hposition =>
    by_cases hseek : SeekFails p
    · -- the end of the file looks like an error
      obtain ⟨hend, hblocks⟩ := eq_length_of_seekFails hposition hseek
      have hno : ¬Proceeds content codes := by
        intro hproceeds
        obtain ⟨c, hc, hne⟩ := hproceeds (hend ▸ hseek)
        refine hne (hgoes.zero c ?_)
        have htake : codes.tail.take (content.length / blocksize + 1) ⊆
            codes.take (content.length / blocksize + 1 + 1) := by
          cases codes with
          | nil => simp
          | cons c codes => exact subset_cons_self _ _
        exact take_subset_take_left _ (by omega) (htake hc)
      refine chainRound_ensures rfl (by simp) (sftpPutFileMain_seekFails hseek id _)
        ⟨.inr ⟨rfl, iff_of_false ?_ hno⟩, ?_⟩
      · rintro ⟨-, ⟨handle', hlast⟩, -, -⟩
        rw [getLast?_concat] at hlast
        cases hlast
      · show content.length - p + 0 < content.length - p + 2
        omega
    · by_cases hcode : r.code = 0
      · have hcontent : (serveUpload handle r (.write h q ((content.drop q).take k))).2.content =
            content.take (max m (q + ((content.drop q).take k).length)) := by
          show (if r.code = 0 then writeAt r.content q _ else r.content) = _
          rw [if_pos hcode, hr, writeAt_take hq]
        have hgoes' := hgoes.answer hcode
          (if r.code = 0 then writeAt r.content q ((content.drop q).take k) else r.content)
        have hblock : (blockAt content p).length = min blocksize (content.length - p) := by
          rw [blockAt, length_take, length_drop]
        have hpos : 0 < blocksize := by decide
        by_cases hnil : blockAt content p = []
        · obtain ⟨position', hcall⟩ := sftpPutFileMain_end id hseek hnil
          rw [← hcode] at hcall
          rw [hnil, length_nil] at hblock
          have hend : p = content.length := by omega
          refine chainRound_ensures rfl (by simp) hcall
            ⟨.inl (.closing h (id + 1) (fun _ => ?_) ?_ fun hfails => ?_), ?_⟩
          · rw [hcontent, take_of_length_le (by omega)]
          · exact fun c hc => hgoes'.answered c (dropLast_subset _ hc)
          · exact absurd hfails (hend ▸ hseek)
          · exact Nat.lt_succ_self _
        · obtain ⟨position', mem', hcall⟩ := sftpPutFileMain_block id hseek hnil
          have hsome := List.length_pos_iff.mpr hnil
          have hlength : (r.answered ++ [r.code]).length - 1 = r.answered.length := by simp
          have hsucc : blocksize * r.answered.length =
              blocksize * (r.answered.length - 1) + blocksize := by
            rw [← Nat.mul_succ, Nat.succ_eq_add_one, Nat.sub_add_cancel hanswered]
          rw [← hcode] at hcall
          refine chainRound_ensures rfl (by simp) hcall
            ⟨.inl (.writing h (id + 1) hcontent hgoes' hp ?_ ?_ ?_), ?_⟩
          · exact Nat.le_max_right _ _
          · show 0 < (r.answered ++ [r.code]).length
            simp
          · show p + (blockAt content p).length =
              min (blocksize * ((r.answered ++ [r.code]).length - 1)) content.length
            rw [hlength]
            omega
          · show content.length - (p + (blockAt content p).length) + 2 < content.length - p + 2
            omega
      · obtain ⟨position', hcall⟩ := sftpPutFileMain_refused id hseek hcode
        refine chainRound_ensures rfl (by simp) hcall
          ⟨.inl (.closing h (id + 1) (fun hall => ?_) ?_ fun hfails => ?_), ?_⟩
        · exact absurd (hall r.code (mem_append_right _ mem_cons_self)) hcode
        · show ∀ c ∈ (r.answered ++ [r.code]).dropLast, c = 0
          rw [dropLast_concat]
          exact hgoes.answered
        · have hblocks := le_div_of_not_seekFails hposition hseek hfails
          exact ⟨r.code, hgoes.mem_take hcode hanswered (by omega), hcode⟩
        · exact Nat.lt_succ_self _
  | @closing h id retval badStatus p position r hr hanswered hproceeds =>
    have hcall : callback ⟨⟨.handleStatus, id, p, retval, badStatus, none, false, .null⟩,
        ⟨content, position, false⟩, id, none⟩ id (.status r.code) =
        .ok ⟨⟨.none, 0, p, r.code, badStatus, none, false, .null⟩, ⟨content, position, false⟩, id,
          none⟩ := by
      simp [callback, sftpHandleStatus, pure, Except.pure]
    have hlast : (r.answered ++ [r.code]).dropLast = r.answered := dropLast_concat
    refine chainRound_ensures rfl (by simp) hcall
      ⟨.inr ⟨rfl, iff_of_true ⟨rfl, ⟨h, getLast?_concat⟩, ?_, ?_⟩ hproceeds⟩, ?_⟩
    · show (∀ c ∈ (r.answered ++ [r.code]).dropLast, c = 0) → r.content = content
      rw [hlast]
      exact hr
    · show ∀ c ∈ (r.answered ++ [r.code]).dropLast.dropLast, c = 0
      rw [hlast]
      exact hanswered
    · exact Nat.lt_succ_self _

/-- A chain whose OPEN has been answered with a handle ends. -/
theorem chain_finished {content : Octets} {codes : List UInt32} {rounds : ℕ}
    (hcode : codes.headD 0 = 0) (hrounds : content.length + 3 < rounds) (old name handle : Octets)
    (lastId : UInt32) :
    ∃ s, chain (serveUpload handle) rounds
        ⟨sftpPutFileInit name content lastId, ⟨old, codes, []⟩, []⟩ = .ok s ∧
      Finished content codes s := by
  refine Ensures.exists_ok (loop_ensures (fun s => s.transfer.toput content.length)
    (fun s (hs : Putting content codes s.transfer s.server ∨ Finished content codes s) => ?_)
    (.inl (.opening name (lastId + 1) hcode rfl rfl)) hrounds)
  obtain hs | hs := hs
  · exact hs.round s.log
  · rw [chainRound, if_pos hs.nextfun]
    exact hs

/-- A chain whose OPEN is refused waits for ever. -/
theorem chain_openRefused {content old : Octets} {codes : List UInt32} (hcode : codes.headD 0 ≠ 0)
    (name handle : Octets) (lastId : UInt32) (rounds : ℕ) :
    chain (serveUpload handle) (rounds + 2)
      ⟨sftpPutFileInit name content lastId, ⟨old, codes, []⟩, []⟩ = .error .stuck := by
  have hserve : serveUpload handle ⟨old, codes, []⟩ (.openFile name 26) =
      (.status (codes.headD 0), Remote.answer ⟨old, codes, []⟩ old) := if_neg hcode
  simp [chain, loop, chainRound, sftpPutFileInit, Transfer.ask, Transfer.send, Callback.null,
    hserve,
    callback, sftpPutFileStepOne, Transfer.lseek, SeekFails, Transfer.read, sftpPutMemStepOne,
    sftpHandleStatus, pure, Except.pure, bind, Except.bind]

end Lsh.Sftp.Client
