
import Lsh.Library.Machine
import Lsh.Library.Octets

/-!
# Buffered writing

A model of `ssh_write.c`. Data that cannot be written at once is kept in a buffer of fixed size, and
goes out before what is written later. A write is asked for a number of octets, and takes some of
them, or blocks, or fails; what it does is an argument of the functions.

The octets in the buffer are given by what they are and where they start. `bound` says that they are
within the buffer, which is what the functions of `lsh_string.c` assert.

In the source the result of a write is put in an `int`, and lengths are added as `uint32_t`. The
functions of the namespace `Word` do this. All other modules use the functions on natural numbers,
which are the same as long as no size reaches `2 ^ 31`.

## Main results

* `sshWriteData_ensures`, `sshWriteFlush_ensures` — no octet is lost or duplicated, unless the
  buffer is too small
* `Word.sshWriteData_eq`, `Word.sshWriteFlush_eq`, `Word.sshWriteEnqueue_eq` — sizes below `2 ^ 31`
* `run_call_fifo` — the buffer is a queue
-/

namespace Lsh.Io

open Machine List

/-- What `write` or `writev` does. -/
inductive WriteResult where
  /-- Octets are taken: one, and `n` more as far as there are so many. -/
  | wrote (n : ℕ)
  /-- `EWOULDBLOCK`. -/
  | wouldBlock
  /-- Any other error. -/
  | failed
  deriving DecidableEq, Repr

/-- The value of `errno` after a failure. -/
inductive WriteError where
  | wouldBlock
  | overflow
  | failed
  deriving DecidableEq, Repr

/-- Assertions of `ssh_write.c`. -/
inductive WriteAssertion where
  | toWrite
  /-- `lsh_string_write`: the octets are within the string. -/
  | room
  deriving DecidableEq, Repr

/-- `struct ssh_write_state`. -/
structure SshWriteState where
  /-- The octets that wait to be written. -/
  buffer : Octets
  start : ℕ
  /-- The size of the string `buffer`. -/
  size : ℕ
  bound : start + buffer.length ≤ size
  deriving DecidableEq

/-- `WRITE_MAX`. -/
def writeMax : ℕ := 0x4000

/-- `init_ssh_write_state`. -/
def initSshWriteState (bufferSize : ℕ) : SshWriteState := ⟨[], 0, bufferSize, Nat.zero_le _⟩

namespace SshWriteState

/-- The first octets have been written. -/
def drop (self : SshWriteState) (n : ℕ) : SshWriteState where
  buffer := self.buffer.drop n
  start := self.start + min n self.buffer.length
  size := self.size
  bound := by
    have hbound := self.bound
    rw [List.length_drop]
    omega

/-- Nothing is left. -/
def clear (self : SshWriteState) : SshWriteState := ⟨[], 0, self.size, Nat.zero_le _⟩

end SshWriteState

/-- `ssh_write_enqueue`. There is no result if there is no space. -/
def sshWriteEnqueue (self : SshWriteState) (data : Octets) : Option SshWriteState :=
  if hsize : data.length + self.buffer.length > self.size then none
  else if hmove : data.length + self.buffer.length + self.start > self.size then
    -- what is in the buffer is moved to its beginning
    some ⟨self.buffer ++ data, 0, self.size, by rw [List.length_append]; omega⟩
  else some ⟨self.buffer ++ data, self.start, self.size, by rw [List.length_append]; omega⟩

/-- The outcome of a function: the state, what has been written, and the number of octets written or
the error. -/
structure Written where
  state : SshWriteState
  output : Octets
  done : Except WriteError ℕ

/-- `ssh_write_flush`. -/
def sshWriteFlush (self : SshWriteState) (toWrite : ℕ) (res : WriteResult) :
    Except WriteAssertion Written := do
  let toWrite := if toWrite = 0 then min self.buffer.length writeMax else toWrite
  require (0 < toWrite ∧ toWrite ≤ self.buffer.length) .toWrite
  match res with
  | .wrote n =>
    let done := min (n + 1) toWrite
    return ⟨self.drop done, self.buffer.take done, .ok done⟩
  | .wouldBlock => return ⟨self, [], .error .wouldBlock⟩
  | .failed => return ⟨self, [], .error .failed⟩

/-- The end of `ssh_write_data`: what is left of the data goes to the buffer. -/
def keep (self : SshWriteState) (data output : Octets) (done : Except WriteError ℕ) : Written :=
  if data.length > 0 then
    match sshWriteEnqueue self data with
    | some self => ⟨self, output, done⟩
    | none => ⟨self, output, .error .overflow⟩
  else ⟨self, output, done⟩

/-- `ssh_write_data`. -/
def sshWriteData (self : SshWriteState) (toWrite : ℕ) (data : Octets) (res : WriteResult) :
    Except WriteAssertion Written := do
  let toWrite := if toWrite = 0 then min (self.buffer.length + data.length) writeMax else toWrite
  require (0 < toWrite) .toWrite
  match res with
  | .wouldBlock => return keep self data [] (.error .wouldBlock)
  | .failed => return keep self data [] (.error .failed)
  | .wrote n =>
    let done := min (n + 1) toWrite
    if self.buffer.length + data.length < done then
      -- octets behind the data are written, and the length that is left wraps around
      return ⟨if self.buffer.length = 0 then self else self.clear, self.buffer ++ data,
        .error .overflow⟩
    else if toWrite ≤ self.buffer.length then
      return keep (self.drop done) data (self.buffer.take done) (.ok done)
    else if self.buffer.length = 0 then
      return keep self (data.drop done) (data.take done) (.ok done)
    else if done < self.buffer.length then
      return keep (self.drop done) data (self.buffer.take done) (.ok done)
    else
      return keep self.clear (data.drop (done - self.buffer.length))
        (self.buffer ++ data.take (done - self.buffer.length)) (.ok done)

/-- `ssh_write_available`. -/
def sshWriteAvailable (self : SshWriteState) : ℕ := self.size - self.buffer.length

/-! ### No octet is lost -/

variable {data : Octets} {toWrite : ℕ} {s : SshWriteState} {w : Written}

theorem SshWriteState.length_le (self : SshWriteState) : self.buffer.length ≤ self.size := by
  have hbnd := self.bound
  omega

/-- There is no space, or the data follows what is in the buffer. -/
theorem sshWriteEnqueue_cases (self data) :
    (sshWriteEnqueue self data = none ∧ self.size < self.buffer.length + data.length) ∨
      ∃ s, sshWriteEnqueue self data = some s ∧ s.size = self.size ∧
        s.buffer = self.buffer ++ data := by
  rw [sshWriteEnqueue]
  split_ifs with hsz hmove
  · exact .inl ⟨rfl, by omega⟩
  · exact .inr ⟨_, rfl, rfl, rfl⟩
  · exact .inr ⟨_, rfl, rfl, rfl⟩

/-- What a function for writing does, if the buffer has space for all that is not written: so many
octets from the front of the buffer and the data are written, and the others are kept. -/
structure Written.Keeps (s : SshWriteState) (data : Octets) (w : Written) : Prop where
  size_eq : w.state.size = s.size
  not_overflow : w.done ≠ .error .overflow
  output_eq : w.output = (s.buffer ++ data).take (w.done.toOption.getD 0)
  buffer_eq : w.state.buffer = (s.buffer ++ data).drop (w.done.toOption.getD 0)
  done_pos : ∀ done, w.done = .ok done → 0 < done
  done_le : ∀ done, w.done = .ok done → done ≤ s.buffer.length + data.length

theorem Written.Keeps.append_eq (h : w.Keeps s data) :
    w.output ++ w.state.buffer = s.buffer ++ data := by
  rw [h.output_eq, h.buffer_eq, take_append_drop]

theorem Written.Keeps.length_le (h : w.Keeps s data) :
    w.state.buffer.length ≤ s.buffer.length + data.length := by
  rw [h.buffer_eq, length_drop, length_append]
  exact Nat.sub_le _ _

/-- The end of `ssh_write_data`: the data goes to the buffer, or there is no space for it. -/
theorem keep_cases (s data output done) :
    (∃ t, keep s data output done = ⟨t, output, done⟩ ∧ t.size = s.size ∧
      t.buffer = s.buffer ++ data) ∨
    keep s data output done = ⟨s, output, .error .overflow⟩ ∧
      s.size < s.buffer.length + data.length := by
  rw [keep]
  split_ifs with hlen
  · rcases sshWriteEnqueue_cases s data with ⟨hno, hfu⟩ | ⟨t, ht, hsz, hbfr⟩
    · rw [hno]
      exact .inr ⟨rfl, hfu⟩
    · rw [ht]
      exact .inl ⟨t, rfl, hsz, hbfr⟩
  · have hnil : data = [] := List.length_eq_zero_iff.mp (by omega)
    exact .inl ⟨s, rfl, rfl, by rw [hnil, append_nil]⟩

/-- With space in the buffer. -/
theorem keep_eq (hspc : s.buffer.length + data.length ≤ s.size) (output done) :
    ∃ t, keep s data output done = ⟨t, output, done⟩ ∧ t.size = s.size ∧
      t.buffer = s.buffer ++ data :=
  (keep_cases s data output done).resolve_right fun h => Nat.not_lt.mpr hspc h.2

/-- What a function for writing does, with or without space in the buffer: octets are written in
order, and lost only if the buffer overflows. -/
structure Written.Appends (s : SshWriteState) (data : Octets) (w : Written) : Prop where
  size_eq : w.state.size = s.size
  isPrefix : w.output <+: s.buffer ++ data
  append_eq : w.done ≠ .error .overflow → w.output ++ w.state.buffer = s.buffer ++ data
  output_eq : ∀ error, w.done = .error error → error ≠ .overflow → w.output = []
  done_eq : ∀ done, w.done = .ok done → 0 < done ∧ w.output.length = done
  overflow : w.done = .error .overflow → s.size < s.buffer.length + data.length

/-- With space, nothing is lost. -/
theorem Written.Appends.keeps (h : w.Appends s data)
    (hspc : s.buffer.length + data.length ≤ s.size) : w.Keeps s data := by
  have hnot : w.done ≠ .error .overflow := fun hfu => Nat.not_lt.mpr hspc (h.overflow hfu)
  have happ := h.append_eq hnot
  have hlth : w.output.length = w.done.toOption.getD 0 := by
    cases hdone : w.done with
    | ok done => exact (h.done_eq done hdone).2
    | error error =>
      rw [h.output_eq error hdone fun herr => hnot (by rw [hdone, herr])]
      rfl
  refine ⟨h.size_eq, hnot, ?_, ?_, fun done hdone => (h.done_eq done hdone).1, fun done hdone => ?_⟩
  · rw [← happ, take_left' hlth]
  · rw [← happ, drop_left' hlth]
  · have hlen := congrArg List.length happ
    rw [length_append, length_append, (h.done_eq done hdone).2] at hlen
    omega

theorem Written.Keeps.appends (h : w.Keeps s data) :
    w.Appends s data where
  size_eq := h.size_eq
  isPrefix := ⟨_, h.append_eq⟩
  append_eq _ := h.append_eq
  output_eq error herr _ := by
    rw [h.output_eq, herr]
    rfl
  done_eq done hdone := by
    refine ⟨h.done_pos done hdone, ?_⟩
    rw [h.output_eq, hdone]
    exact length_take_of_le (by rw [length_append]; exact h.done_le done hdone)
  overflow hfu := absurd hfu h.not_overflow

variable {self : SshWriteState}

/-- The end of `ssh_write_data`. -/
theorem appends_keep {out rest : Octets} {done : Except WriteError ℕ} (hsz : s.size = self.size)
    (h : out ++ (s.buffer ++ rest) = self.buffer ++ data)
    (hok : ∀ n, done = .ok n → 0 < n ∧ out.length = n)
    (herr : ∀ error, done = .error error → error ≠ .overflow ∧ out = []) :
    (keep s rest out done).Appends self data := by
  have hpre : out <+: self.buffer ++ data := ⟨_, h⟩
  have hnot : done ≠ .error .overflow := fun hfu => (herr _ hfu).1 rfl
  have hout : ∀ error, done = .error error → error ≠ .overflow → out = [] :=
    fun error hdone _ => (herr error hdone).2
  have hlth : s.buffer.length + rest.length ≤ self.buffer.length + data.length := by
    have hlen := congrArg List.length h
    simp only [length_append] at hlen
    omega
  rcases keep_cases s rest out done with ⟨t, ht, htz, hbfr⟩ | ⟨hkeep, hfu⟩
  · rw [ht]
    refine ⟨htz.trans hsz, hpre, fun _ => ?_, hout, hok, fun h => absurd h hnot⟩
    rw [hbfr, h]
  · rw [hkeep]
    refine ⟨hsz, hpre, fun h => absurd rfl h, fun error hdone hne => ?_, by simp, fun _ => by omega⟩
    exact absurd (Except.error.inj hdone).symm hne

/-- **`ssh_write_data`** fails only if there is nothing to write, and if it offers no more than
there is, octets are lost only for want of space. -/
theorem sshWriteData_cases (self toWrite data res) :
    Ensures (fun _ => toWrite = 0 ∧ self.buffer.length + data.length = 0)
      (fun w => w.Appends self data ∨ w.state.size = self.size ∧
        w.done = .error .overflow ∧ self.buffer.length + data.length < toWrite)
      (sshWriteData self toWrite data res) := by
  rw [sshWriteData.eq_def]
  generalize hwa : (if toWrite = 0 then min (self.buffer.length + data.length) writeMax
    else toWrite) = want
  have hcs : 0 < want ∧ (want ≤ self.buffer.length + data.length ∨ want = toWrite) ∨
      want = 0 ∧ toWrite = 0 ∧ self.buffer.length + data.length = 0 := by
    have hmax : 0 < writeMax := by decide
    split_ifs at hwa <;> omega
  dsimp only
  rcases hcs with ⟨hpos, hle⟩ | ⟨rfl, hno⟩
  swap
  · exact hno
  rw [require_of hpos]
  cases res with
  | wouldBlock | failed => exact .inl (appends_keep rfl rfl (by simp) (by simp))
  | wrote n =>
    have hdone : 0 < min (n + 1) want ∧ min (n + 1) want ≤ want := by omega
    dsimp only
    generalize min (n + 1) want = done at hdone
    have hok {out : Octets} (hlen : out.length = done) :
        ∀ m, (Except.ok done : Except WriteError ℕ) = .ok m → 0 < m ∧ out.length = m := by
      rintro m ⟨⟩
      exact ⟨hdone.1, hlen⟩
    have hdp : self.buffer.take done ++ ((self.drop done).buffer ++ data) =
        self.buffer ++ data := by
      rw [← append_assoc, SshWriteState.drop, take_append_drop]
    split_ifs with hov hemp hsh hemp hpart
    · exact .inr ⟨rfl, rfl, by omega⟩
    · exact .inr ⟨rfl, rfl, by omega⟩
    · exact .inl (appends_keep rfl hdp (hok (length_take_of_le (by omega))) (by simp))
    · refine .inl (appends_keep rfl ?_ (hok (length_take_of_le (by omega))) (by simp))
      rw [List.length_eq_zero_iff.mp hemp]
      exact take_append_drop _ _
    · exact .inl (appends_keep rfl hdp (hok (length_take_of_le (by omega))) (by simp))
    · refine .inl (appends_keep rfl ?_ (hok ?_) (by simp))
      · rw [append_assoc]
        exact congrArg _ (take_append_drop _ _)
      · rw [length_append, length_take_of_le (by omega)]
        omega

theorem sshWriteData_appends (hdata : 0 < toWrite ∨ 0 < data.length)
    (htw : toWrite ≤ self.buffer.length + data.length) (res) :
    Yields (Written.Appends self data) (sshWriteData self toWrite data res) :=
  (sshWriteData_cases self toWrite data res).imp (fun _ hno => by omega) fun _ hw =>
    hw.resolve_right fun hov => Nat.not_lt.mpr htw hov.2.2

/-- `ssh_write_data`, if there is space for all the data. -/
theorem sshWriteData_ensures (hspc : self.buffer.length + data.length ≤ self.size)
    (hdata : 0 < self.buffer.length + data.length)
    (htw : toWrite ≤ self.buffer.length + data.length)
    (res) :
    Yields (Written.Keeps self data) (sshWriteData self toWrite data res) :=
  (sshWriteData_cases self toWrite data res).imp (fun _ hno => by omega) fun _ hw =>
    (hw.resolve_right fun hov => Nat.not_lt.mpr htw hov.2.2).keeps hspc

/-- Data that is taken at once does not go to the buffer. -/
theorem sshWriteData_all {n : ℕ} (hbfr : self.buffer = []) (hdata : data ≠ [])
    (hmax : data.length ≤ writeMax) (hn : data.length ≤ n + 1) :
    sshWriteData self 0 data (.wrote n) = .ok ⟨self, data, .ok data.length⟩ := by
  have hpos := List.length_pos_iff.mpr hdata
  have hwa : min (self.buffer.length + data.length) writeMax = data.length := by
    rw [hbfr, length_nil]
    omega
  have hdone : min (n + 1) data.length = data.length := by omega
  have hlg : ¬data.length ≤ self.buffer.length := by
    rw [hbfr, length_nil]
    omega
  rw [sshWriteData.eq_def, if_pos rfl, hwa]
  dsimp only
  rw [require_of hpos, hdone, if_neg (by omega), if_neg hlg, if_pos (by rw [hbfr]; rfl),
    drop_length, take_length]
  rfl

/-- **`ssh_write_flush`** fails only if there is nothing to write, or less than is to be written. -/
theorem sshWriteFlush_cases (self toWrite res) :
    Ensures (fun _ => self.buffer.length = 0 ∨ self.buffer.length < toWrite)
      (Written.Keeps self []) (sshWriteFlush self toWrite res) := by
  rw [sshWriteFlush.eq_def]
  generalize hwa : (if toWrite = 0 then min self.buffer.length writeMax else toWrite) = want
  dsimp only
  by_cases hle : 0 < want ∧ want ≤ self.buffer.length
  swap
  · have hmax : 0 < writeMax := by decide
    rw [require_of_not hle]
    show self.buffer.length = 0 ∨ self.buffer.length < toWrite
    split_ifs at hwa <;> omega
  rw [require_of hle]
  cases res with
  | wrote n =>
    refine ⟨rfl, nofun, ?_, ?_, ?_, ?_⟩
    · rw [append_nil]
      rfl
    · rw [append_nil]
      rfl
    · intro done h
      cases h
      omega
    · intro done h
      cases h
      omega
  | wouldBlock | failed =>
    refine ⟨rfl, nofun, rfl, ?_, nofun, nofun⟩
    rw [append_nil]
    rfl

theorem sshWriteFlush_ensures (hbfr : 0 < self.buffer.length) (htw : toWrite ≤ self.buffer.length)
    (res) :
    Yields (Written.Keeps self []) (sshWriteFlush self toWrite res) :=
  (sshWriteFlush_cases self toWrite res).imp (fun _ hno => by omega) fun _ hw => hw

/-- `ssh_write_data`, when the write would block. -/
theorem sshWriteData_wouldBlock (hdata : 0 < data.length) :
    sshWriteData self 0 data .wouldBlock = .ok (keep self data [] (.error .wouldBlock)) := by
  have hpos : 0 < min (self.buffer.length + data.length) writeMax := by
    have hmax : 0 < writeMax := by decide
    omega
  rw [sshWriteData.eq_def, if_pos rfl]
  dsimp only
  rw [require_of hpos]
  rfl

/-- `ssh_write_flush` of a buffer with something in it, when the write succeeds. -/
theorem sshWriteFlush_wrote (hbfr : 0 < self.buffer.length) (n) :
    sshWriteFlush self 0 (.wrote n) =
      .ok ⟨self.drop (min (n + 1) (min self.buffer.length writeMax)),
        self.buffer.take (min (n + 1) (min self.buffer.length writeMax)),
        .ok (min (n + 1) (min self.buffer.length writeMax))⟩ := by
  have hmax : 0 < writeMax := by decide
  have hwa : 0 < min self.buffer.length writeMax ∧
      min self.buffer.length writeMax ≤ self.buffer.length := by omega
  rw [sshWriteFlush.eq_def, if_pos rfl]
  dsimp only
  rw [require_of hwa]
  rfl

/-! ### Machine words -/

/-- The number of octets that a write takes. -/
def WriteResult.taken (res : WriteResult) (toWrite : ℕ) : ℕ :=
  match res with
  | .wrote n => min (n + 1) toWrite
  | .wouldBlock | .failed => 0

/-- What a write returns, in an `int`. A number that does not fit is negative, and so it is taken
for a failure, with an old value of `errno`. -/
def WriteResult.returned (res : WriteResult) (toWrite : ℕ) : Except WriteError ℕ :=
  match res with
  | .wrote n => if min (n + 1) toWrite < 2 ^ 31 then .ok (min (n + 1) toWrite) else .error .failed
  | .wouldBlock => .error .wouldBlock
  | .failed => .error .failed

namespace Word

/-- `ssh_write_enqueue`. -/
def sshWriteEnqueue (self : SshWriteState) (data : Octets) :
    Except WriteAssertion (Option SshWriteState) :=
  if (data.length + self.buffer.length) % 2 ^ 32 > self.size then return none
  else
    let start := if (data.length + self.buffer.length + self.start) % 2 ^ 32 > self.size then 0
      else self.start
    if hroom : start + (self.buffer ++ data).length ≤ self.size then
      return some ⟨self.buffer ++ data, start, self.size, hroom⟩
    else throw .room

/-- `ssh_write_flush`. -/
def sshWriteFlush (self : SshWriteState) (toWrite : ℕ) (res : WriteResult) :
    Except WriteAssertion Written := do
  let toWrite := if toWrite = 0 then min self.buffer.length writeMax else toWrite
  require (0 < toWrite ∧ toWrite ≤ self.buffer.length) .toWrite
  match res.returned toWrite with
  | .error error => return ⟨self, self.buffer.take (res.taken toWrite), .error error⟩
  | .ok done => return ⟨self.drop done, self.buffer.take done, .ok done⟩

/-- The end of `ssh_write_data`. -/
def keep (self : SshWriteState) (data output : Octets) (done : Except WriteError ℕ) :
    Except WriteAssertion Written := do
  if data.length > 0 then
    match ← sshWriteEnqueue self data with
    | some self => return ⟨self, output, done⟩
    | none => return ⟨self, output, .error .overflow⟩
  else return ⟨self, output, done⟩

/-- `ssh_write_data`. -/
def sshWriteData (self : SshWriteState) (toWrite : ℕ) (data : Octets) (res : WriteResult) :
    Except WriteAssertion Written := do
  let length := self.buffer.length + data.length
  let toWrite := if toWrite = 0 then min (length % 2 ^ 32) writeMax else toWrite
  require (0 < toWrite) .toWrite
  match res.returned toWrite with
  | .error error => keep self data ((self.buffer ++ data).take (res.taken toWrite)) (.error error)
  | .ok done =>
    if length < done then
      -- the length that is left wraps around, and octets behind the data would be kept
      require (self.size < 2 ^ 32 - (done - length)) .room
      return ⟨if self.buffer.length = 0 then self else self.clear, self.buffer ++ data,
        .error .overflow⟩
    else if toWrite ≤ self.buffer.length then
      keep (self.drop done) data (self.buffer.take done) (.ok done)
    else if self.buffer.length = 0 then keep self (data.drop done) (data.take done) (.ok done)
    else if done < self.buffer.length then
      keep (self.drop done) data (self.buffer.take done) (.ok done)
    else
      keep self.clear (data.drop (done - self.buffer.length))
        (self.buffer ++ data.take (done - self.buffer.length)) (.ok done)

theorem sshWriteFlush_eq (self : SshWriteState) (htoWrite : toWrite < 2 ^ 31) (res : WriteResult) :
    sshWriteFlush self toWrite res = Io.sshWriteFlush self toWrite res := by
  rw [sshWriteFlush, Io.sshWriteFlush.eq_def]
  generalize hwant : (if toWrite = 0 then min self.buffer.length writeMax else toWrite) = want
  have hlt : want < 2 ^ 31 := by
    have hmax : writeMax < 2 ^ 31 := by decide
    split_ifs at hwant <;> omega
  dsimp only
  congr 1
  funext _
  cases res with
  | wrote n =>
    have hreturned : WriteResult.returned (.wrote n) want = .ok (min (n + 1) want) :=
      if_pos (by omega)
    rw [hreturned]
  | wouldBlock | failed => rfl

section Small

variable {self : SshWriteState} (hsize : self.size < 2 ^ 31)
include hsize

/-- Data below `2 ^ 31` octets is put into a buffer below `2 ^ 31` octets as it should be. -/
theorem sshWriteEnqueue_eq (hdata : data.length < 2 ^ 31) :
    sshWriteEnqueue self data = .ok (Io.sshWriteEnqueue self data) := by
  have hbound := self.bound
  have hsum : (data.length + self.buffer.length) % 2 ^ 32 = data.length + self.buffer.length :=
    Nat.mod_eq_of_lt (by omega)
  rw [sshWriteEnqueue, Io.sshWriteEnqueue.eq_def, hsum]
  by_cases hfull : data.length + self.buffer.length > self.size
  · rw [if_pos hfull, dif_pos hfull]
    rfl
  have hmoved : (data.length + self.buffer.length + self.start) % 2 ^ 32 =
      data.length + self.buffer.length + self.start := Nat.mod_eq_of_lt (by omega)
  rw [if_neg hfull, dif_neg hfull, hmoved]
  by_cases hmove : data.length + self.buffer.length + self.start > self.size
  · rw [dif_pos hmove]
    simp only [if_pos hmove]
    exact dif_pos (by rw [length_append]; omega)
  · rw [dif_neg hmove]
    simp only [if_neg hmove]
    exact dif_pos (by rw [length_append]; omega)

theorem keep_eq (hdata : data.length < 2 ^ 31) (output : Octets) (done : Except WriteError ℕ) :
    keep self data output done = .ok (Io.keep self data output done) := by
  rw [keep, Io.keep, sshWriteEnqueue_eq hsize hdata, ok_bind]
  split_ifs
  · cases Io.sshWriteEnqueue self data <;> rfl
  · rfl

/-- **Small sizes.** If all sizes are below `2 ^ 31`, nothing wraps around. -/
theorem sshWriteData_eq (hdata : data.length < 2 ^ 31) (htoWrite : toWrite < 2 ^ 31)
    (res : WriteResult) :
    sshWriteData self toWrite data res = Io.sshWriteData self toWrite data res := by
  have hlength := self.length_le
  have hsum : (self.buffer.length + data.length) % 2 ^ 32 = self.buffer.length + data.length :=
    Nat.mod_eq_of_lt (by omega)
  have hdrop (n : ℕ) : (data.drop n).length < 2 ^ 31 := by
    rw [length_drop]
    omega
  rw [sshWriteData, Io.sshWriteData.eq_def]
  dsimp only
  rw [hsum]
  generalize hwant : (if toWrite = 0 then min (self.buffer.length + data.length) writeMax
    else toWrite) = want
  have hlt : want < 2 ^ 31 := by
    have hmax : writeMax < 2 ^ 31 := by decide
    split_ifs at hwant <;> omega
  congr 1
  funext _
  cases res with
  | wouldBlock | failed => exact keep_eq hsize hdata _ _
  | wrote n =>
    have hreturned : WriteResult.returned (.wrote n) want = .ok (min (n + 1) want) :=
      if_pos (by omega)
    rw [hreturned]
    dsimp only
    split_ifs
    · rw [require_of (by omega)]
      rfl
    · rw [require_of (by omega)]
      rfl
    · exact keep_eq (show (self.drop _).size < 2 ^ 31 from hsize) hdata _ _
    · exact keep_eq hsize (hdrop _) _ _
    · exact keep_eq (show (self.drop _).size < 2 ^ 31 from hsize) hdata _ _
    · exact keep_eq (show self.clear.size < 2 ^ 31 from hsize) (hdrop _) _ _

end Small

end Word

/-! ### Runs -/

/-- A writer, with what has been passed to it. -/
structure Writes where
  state : SshWriteState
  /-- All data that has been passed in. -/
  passed : Octets
  /-- The octets that the descriptor has accepted. -/
  accepted : Octets
  /-- What each call for writing returned, and the number of octets that it wrote. -/
  returned : List (ℕ × ℕ)
  /-- A call has reported `EOVERFLOW`, or that data cannot be put into the buffer. -/
  lost : Bool

/-- The calls of other parts of the program, with the results of `write` and `writev`. -/
inductive WriteCall where
  | data (toWrite : ℕ) (data : Octets) (res : WriteResult)
  | enqueue (data : Octets)
  | flush (toWrite : ℕ) (res : WriteResult)

namespace Writes

/-- A buffer of the given size, with nothing in it. -/
def init (size : ℕ) : Writes := ⟨initSshWriteState size, [], [], [], false⟩

/-- Octets have been written. -/
def wrote (s : Writes) (data : Octets) (w : Written) : Writes where
  state := w.state
  passed := s.passed ++ data
  accepted := s.accepted ++ w.output
  returned := s.returned ++ [(w.done.toOption.getD 0, w.output.length)]
  lost := s.lost || w.done = .error .overflow

/-- One call. -/
def call (s : Writes) : WriteCall → Except WriteAssertion Writes
  | .data toWrite data res => do return s.wrote data (← Word.sshWriteData s.state toWrite data res)
  | .enqueue data => do
    match ← Word.sshWriteEnqueue s.state data with
    | none => return { s with lost := true }
    | some state => return { s with state := state, passed := s.passed ++ data }
  | .flush toWrite res => do return s.wrote [] (← Word.sshWriteFlush s.state toWrite res)

/-- The sizes in a call are below `2 ^ 31`. -/
def Small : WriteCall → Prop
  | .data toWrite data _ => toWrite < 2 ^ 31 ∧ data.length < 2 ^ 31
  | .enqueue data => data.length < 2 ^ 31
  | .flush toWrite _ => toWrite < 2 ^ 31

/-- What has been accepted and what is in the buffer is what was passed in. -/
structure Fifo (size : ℕ) (s : Writes) : Prop where
  size_eq : s.state.size = size
  append_eq : s.accepted ++ s.state.buffer = s.passed
  returned_eq : ∀ r ∈ s.returned, r.1 = r.2

variable {size : ℕ} {s : Writes}

theorem Fifo.wrote (h : s.Fifo size) (hw : w.Appends s.state data)
    (hlo : (s.wrote data w).lost = false) : (s.wrote data w).Fifo size := by
  have hnot : w.done ≠ .error .overflow := of_decide_eq_false (Bool.or_eq_false_iff.mp hlo).2
  refine ⟨hw.size_eq.trans h.size_eq, ?_, fun r hr => ?_⟩
  · show s.accepted ++ w.output ++ w.state.buffer = s.passed ++ data
    rw [append_assoc, hw.append_eq hnot, ← append_assoc, h.append_eq]
  · rcases List.mem_append.mp hr with hold | hnew
    · exact h.returned_eq r hold
    · obtain rfl := List.mem_singleton.mp hnew
      cases hdone : w.done with
      | ok done => exact (hw.done_eq done hdone).2.symm
      | error error =>
        have hnil := hw.output_eq error hdone fun herr => hnot (by rw [hdone, herr])
        rw [hnil]
        rfl

/-- One call, whose assertions hold. -/
theorem Fifo.call (hsize : s.state.size < 2 ^ 31) (h : s.lost = false → s.Fifo size) {e : WriteCall}
    (hsmall : Small e) :
    Returns (fun s' => s'.state.size = s.state.size ∧ (s'.lost = false → s'.Fifo size))
      (s.call e) := by
  have hwrote {data : Octets} {w : Written} (hw : w.Appends s.state data)
      (hlost : (s.wrote data w).lost = false) : (s.wrote data w).Fifo size :=
    (h (Bool.or_eq_false_iff.mp hlost).1).wrote hw hlost
  cases e with
  | data toWrite data res =>
    rw [Writes.call, Word.sshWriteData_eq hsize hsmall.2 hsmall.1]
    refine Ensures.bind ((sshWriteData_cases s.state toWrite data res).imp
      (fun _ _ => trivial) fun _ hw => hw) fun w hw => ?_
    rcases hw with hw | ⟨hsame, hfull, -⟩
    · exact ⟨hw.size_eq, hwrote hw⟩
    · exact ⟨hsame, fun hlost => absurd hlost (by simp [Writes.wrote, hfull])⟩
  | enqueue data =>
    rw [Writes.call, Word.sshWriteEnqueue_eq hsize hsmall, ok_bind]
    rcases sshWriteEnqueue_cases s.state data with ⟨hnone, -⟩ | ⟨state, hstate, hsame, hbuffer⟩
    · rw [hnone]
      exact ⟨rfl, by rintro ⟨⟩⟩
    · rw [hstate]
      refine ⟨hsame, fun hlost => ⟨hsame.trans (h hlost).size_eq, ?_, (h hlost).returned_eq⟩⟩
      show s.accepted ++ state.buffer = s.passed ++ data
      rw [hbuffer, ← append_assoc, (h hlost).append_eq]
  | flush toWrite res =>
    rw [Writes.call, Word.sshWriteFlush_eq s.state hsmall]
    exact Ensures.bind ((sshWriteFlush_cases s.state toWrite res).imp
      (fun _ _ => trivial) fun _ hw => hw) fun w hw =>
        ⟨hw.size_eq, fun hlost => hwrote hw.appends hlost⟩

end Writes

/-- **The buffer is a queue**, if all sizes are below `2 ^ 31`: as long as no call has reported that
data was lost, what has been accepted and what is in the buffer is what was passed in, and each call
returns the number of octets that it wrote. -/
theorem run_call_fifo (size : ℕ) (hsize : size < 2 ^ 31) (calls : List WriteCall)
    (hsmall : ∀ e ∈ calls, Writes.Small e) {s : Writes}
    (hrun : run Writes.call (.init size) calls = .ok s) (hlost : s.lost = false) :
    s.accepted ++ s.state.buffer = s.passed ∧
      s.state.start + s.state.buffer.length ≤ size ∧ ∀ r ∈ s.returned, r.1 = r.2 := by
  have hinit : (Writes.init size).state.size = size ∧
      ((Writes.init size).lost = false → (Writes.init size).Fifo size) :=
    ⟨rfl, fun _ => ⟨rfl, rfl, by simp [Writes.init]⟩⟩
  have hstep (s : Writes) (e : WriteCall)
      (h : s.state.size = size ∧ (s.lost = false → s.Fifo size)) (he : Writes.Small e) :
      Returns (fun s => s.state.size = size ∧ (s.lost = false → s.Fifo size)) (s.call e) :=
    (Writes.Fifo.call (h.1.trans_lt hsize) h.2 he).mono fun _ hs => ⟨hs.1.trans h.1, hs.2⟩
  have hfifo := run_of_guarded hstep hinit (guarded_of_forall (fun e he _ => hsmall e he) _)
  rw [hrun] at hfifo
  have hqueue := hfifo.2 hlost
  have hbound := s.state.bound
  rw [hqueue.size_eq] at hbound
  exact ⟨hqueue.append_eq, hbound, hqueue.returned_eq⟩

/-- A write of two octets in part, and a flush of what was kept. -/
theorem run_call_fifo_flush : ∃ s, run Writes.call (.init 4)
      [.data 0 [1, 2, 3] (.wrote 1), .enqueue [4], .flush 0 .wouldBlock, .flush 0 (.wrote 0)] =
        .ok s ∧
    s.accepted = [1, 2, 3] ∧ s.accepted ++ s.state.buffer = s.passed := by
  obtain ⟨s, hrun, hs⟩ := exists_ok_of_any (x := run Writes.call (.init 4)
      [.data 0 [1, 2, 3] (.wrote 1), .enqueue [4], .flush 0 .wouldBlock, .flush 0 (.wrote 0)])
    (p := fun s => s.lost = false ∧ s.accepted = [1, 2, 3]) (by decide)
  obtain ⟨hlost, haccepted⟩ := of_decide_eq_true hs
  refine ⟨s, hrun, haccepted, (run_call_fifo 4 (by decide) _ ?_ hrun hlost).1⟩
  simp [Writes.Small]

/-- Data of `2 ^ 31` octets that is written at once is taken for a failure, and kept as well: it is
passed in once, and is both accepted and in the buffer. -/
theorem run_call_twice : ∃ data : Octets, data.length = 2 ^ 31 ∧ ∃ s,
    run Writes.call (.init (2 ^ 31)) [.data (2 ^ 31) data (.wrote (2 ^ 31))] = .ok s ∧
      s.lost = false ∧ s.passed = data ∧ s.accepted = data ∧ s.state.buffer = data := by
  have hexists (n : ℕ) : ∃ data : Octets, data.length = n := ⟨replicate n 0, length_replicate⟩
  obtain ⟨data, hdata⟩ := hexists (2 ^ 31)
  have hall : data.take (2 ^ 31) = data := take_of_length_le hdata.le
  have hreturned : WriteResult.returned (.wrote (2 ^ 31)) (2 ^ 31) = .error .failed := rfl
  have henqueue : Word.sshWriteEnqueue (initSshWriteState (2 ^ 31)) data =
      .ok (some ⟨data, 0, 2 ^ 31, by rw [hdata]; decide⟩) := by
    simp [Word.sshWriteEnqueue, initSshWriteState, hdata]
    rfl
  have hwrite : Word.sshWriteData (initSshWriteState (2 ^ 31)) (2 ^ 31) data (.wrote (2 ^ 31)) =
      .ok ⟨⟨data, 0, 2 ^ 31, by rw [hdata]; decide⟩, data, .error .failed⟩ := by
    rw [Word.sshWriteData, if_neg (by decide), require_of (by decide), ok_bind, hreturned]
    show Word.keep _ data (take (2 ^ 31) data) _ = _
    rw [hall, Word.keep, if_pos (by omega), henqueue]
    rfl
  refine ⟨data, hdata, _, run_cons_ok (by rw [Writes.call, Writes.init, hwrite]; rfl) [], rfl, ?_⟩
  exact ⟨rfl, rfl, rfl⟩

end Lsh.Io
