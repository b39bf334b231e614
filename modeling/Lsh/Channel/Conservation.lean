
import Lsh.Channel.Agreement

/-!
# Flow control

The window of a receiver is what its sender may still send, together with the data and the credit
that are on their way. Both ends of a channel keep this up, in any interleaving, for as long as
neither of them says that it is done. So what is sent always fits.

The account is upset by data that is sent after CLOSE. A number is free for another channel as soon
as CLOSE has gone both ways, and late data is then charged to that one.

## Main results

* `run_pairStep_conserved` — windows are conserved, and data is taken as a whole
* `run_pairStep_lateData` — data after CLOSE
-/

namespace Lsh.Channel

open Machine Mailbox List

variable {κ κ' : Type} {c : SshConnection κ} {d : SshConnection κ'} {i j n : UInt32}
  {x : SshChannel κ} {y : SshChannel κ'} {q : List Message}

/-! ### What is on the way -/

/-- The octets of data in a message to the number `n`. -/
def Message.dataTo (n : UInt32) : Message → ℕ
  | data r s => if r = n then s.1.length else 0
  | extendedData r _ s => if r = n then s.1.length else 0
  | _ => 0

/-- The octets of data on their way to the number `n`. -/
def dataInFlight (n : UInt32) (q : List Message) : ℕ := (q.map (Message.dataTo n)).sum

/-- The credit in a message to the number `n`. -/
def Message.creditTo (n : UInt32) : Message → ℕ
  | windowAdjust r add => if r = n then add.toNat else 0
  | _ => 0

/-- The credit on its way to the number `n`. -/
def creditInFlight (n : UInt32) (q : List Message) : ℕ := (q.map (Message.creditTo n)).sum

/-- The data on its way to a number is in the messages that are addressed to it. -/
theorem dataLength_inbox (n q) : dataLength ((protocol true).inbox n q) = dataInFlight n q := by
  induction q with
  | nil => rfl
  | cons m q ih =>
    have htl : dataInFlight n (m :: q) = m.dataTo n + dataInFlight n q := by
      simp [dataInFlight]
    rw [htl, ← ih, Protocol.inbox_cons]
    split_ifs with hde
    · cases m with
      | data r s | extendedData r type s =>
        have hr : r = n := Option.some.inj hde
        simp [dataLength, Message.dataTo, hr]
      | _ => rfl
    · cases m with
      | data r s | extendedData r type s =>
        have hr : r ≠ n := fun heq => hde (congrArg some heq)
        simp [Message.dataTo, hr]
      | _ => simp [Message.dataTo]

/-- Credit is added to an account, unless a CLOSE is on its way. -/
theorem future_eq_some (n a) (h : .close n ∉ q) :
    future q n (some a) = some { a with window := a.window + creditInFlight n q } := by
  induction q generalizing a with
  | nil => rfl
  | cons m q ih =>
    have hm : m.affect n a = some { a with window := a.window + m.creditTo n } := by
      cases m with
      | windowAdjust r add =>
        rw [Message.affect, Message.creditTo]
        split_ifs <;> rfl
      | close r =>
        have hr : r ≠ n := fun heq => h (heq ▸ mem_cons_self)
        rw [Message.affect, if_neg hr]
        rfl
      | _ => rfl
    rw [future_cons, Option.bind_some, hm, ih _ fun hmem => h (mem_cons_of_mem _ hmem)]
    simp [creditInFlight, Nat.add_assoc]

variable {t : Bool} {φ : Option Phase}

/-- No CLOSE is on its way to a number that will be open. -/
theorem close_notMem_of_predict {p : Phase} (h : (protocol t).predict φ q = some (some p)) :
    .close n ∉ q := by
  induction q generalizing φ with
  | nil => exact not_mem_nil
  | cons m q ih =>
    obtain ⟨ψ, hψ, hre⟩ := Option.bind_eq_some_iff.mp h
    rw [mem_cons, not_or]
    refine ⟨?_, ih hre⟩
    rintro rfl
    -- the number is not in use after its CLOSE
    have hno : ψ = none := by
      rcases φ with _ | ⟨a⟩ | ⟨r, e, a⟩
      · cases hψ
      · cases hψ
      · exact (Option.some.inj hψ).symm
    rw [hno] at hre
    obtain ⟨_, hp⟩ := Protocol.eq_nil_of_predict_none _ hre
    cases hp

/-! ### One channel -/

/-- **Conservation** for the channel `x` as the sender of what `y` receives. -/
def WindowConserved (c : SshConnection κ) (d : SshConnection κ') (i j : UInt32) (x : SshChannel κ)
    (y : SshChannel κ') : Prop :=
  y.recWindowSize.toNat =
      x.sendWindowSize.toNat + dataInFlight j c.written + creditInFlight i d.written ∧
    x.sendMaxPacket ≤ y.recMaxPacket

/-- What an open channel claims is claimed. -/
theorem IsOpen.mem_claims (h : IsOpen c i x) (hinv : TableInv c) (q)
    (hrem : x.remoteChannelNumber = some j) (hcl : x.flags.sentClose = false) :
    .opened i x.flags.sentEof (if x.flags.sentEof ∨ x.flags.receivedClose then none
      else future q i (account t x.sendWindowSize x.sendMaxPacket)) ∈ claims t c q j := by
  obtain ⟨s, hs, hst, hch⟩ := h
  have hloc : UInt32.ofNat x.localChannelNumber = i := by
    rw [(hinv.slot i.toNat s hs).local_eq hch, UInt32.ofNat_toNat]
  have hclaim := (s.claim_active (t := t) q hst hch).trans (SshChannel.claim_eq q hrem hcl)
  rw [hloc] at hclaim
  exact Lsh.Channel.mem_claims q hs hclaim

namespace PairInv

/-- A channel that has not sent CLOSE has an open peer. -/
theorem exists_isOpen_peer {t : Bool} (h : PairInv t c d) (hx : IsOpen c i x) (hy : IsOpen d j y)
    (hrem : x.remoteChannelNumber = some j) (hcl : x.flags.sentClose = false) :
    y.remoteChannelNumber = some i ∧ y.flags.receivedClose = false := by
  have hprd := h.out.predict_of_mem (hx.mem_claims h.left.toTableInv d.written hrem hcl)
  rcases predict_eq_opened hprd with ⟨e, a, hphase, _⟩ | ⟨a, _, _, _, hphase, _⟩
  · obtain ⟨y', hy', hrem', hcl', _⟩ := isOpen_of_phase hphase
    rw [hy'.unique hy]
    exact ⟨hrem', hcl'⟩
  · -- a number is not open and waiting at the same time
    obtain ⟨y', ⟨s, hs, hst, _⟩, _⟩ := isOpening_of_phase hphase
    obtain ⟨s', hs', hst', _⟩ := hy
    rw [hs] at hs'
    cases hs'
    rw [hst] at hst'
    cases hst'

/-- **Windows of an open channel are conserved.** -/
theorem windowConserved (h : PairInv true c d) (hx : IsOpen c i x) (hy : IsOpen d j y)
    (hrem : x.remoteChannelNumber = some j) (heof : x.flags.sentEof = false)
    (hcl : x.flags.sentClose = false) (hcl' : y.flags.sentClose = false) :
    WindowConserved c d i j x y := by
  obtain ⟨hrem', _⟩ := h.exists_isOpen_peer hx hy hrem hcl
  obtain ⟨_, hrecv⟩ := h.symm.exists_isOpen_peer hy hx hrem' hcl'
  -- what the sender takes for granted, given that no CLOSE is on its way to it
  have hnot : .close i ∉ d.written := by
    intro hmem
    have hprd := h.inn.predict_of_mem (hy.mem_claims h.right.toTableInv c.written hrem' hcl')
    refine close_notMem_of_predict (n := i) hprd (List.mem_filter.mpr ⟨hmem, ?_⟩)
    exact decide_eq_true rfl
  have hclaim := hx.mem_claims (t := true) h.left.toTableInv d.written hrem hcl
  rw [if_neg (by simp [heof, hrecv]), account, if_pos rfl, future_eq_some i _ hnot] at hclaim
  -- what the receiver has
  have hprd := h.out.predict_of_mem hclaim
  have hphase : phase true d j = some (.opened i y.flags.receivedEof
      (if y.flags.receivedEof ∨ y.flags.sentClose then none
        else account true y.recWindowSize y.recMaxPacket)) := by
    obtain ⟨_, hrecv'⟩ := h.exists_isOpen_peer hx hy hrem hcl
    rw [hy.phase_eq, SshChannel.phase, hrem', hrecv']
    rfl
  rw [hphase] at hprd
  obtain ⟨e, a, hp, ha⟩ := predict_opened hprd
  cases hp
  obtain ⟨_, b, hb, hwin, hmax⟩ := ha _ rfl
  split_ifs at hb
  cases hb
  rw [dataLength_inbox] at hwin
  refine ⟨?_, ?_⟩
  · have hwin : y.recWindowSize.toNat = x.sendWindowSize.toNat + creditInFlight i d.written +
      dataInFlight j c.written := hwin
    omega
  · exact UInt32.le_of_eq hmax.symm

end PairInv

/-! ### Data that arrives -/

/-- The recipient and the data of a message with data. -/
def Message.payload : Message → Option (UInt32 × LshString)
  | data n s => some (n, s)
  | extendedData n _ s => some (n, s)
  | _ => none

/-- **Delivery** of what `c` has sent to `d`: if the next message is data, then its channel is open,
and `receive_data_common` passes all of it on. Data that comes after EOF, or when CLOSE has been
sent the other way, is ignored. -/
def Delivers (c : SshConnection κ) (d : SshConnection κ') : Prop :=
  ∀ m rest n data, c.written = m :: rest → m.payload = some (n, data) →
    ∃ y, IsOpen d n y ∧ y.flags.receivedClose = false ∧
      (y.flags.receivedEof = false → y.flags.sentClose = false → y.receive → data.1 ≠ [] →
        ∃ r stderr, receivePacket d m.format = .ok (some r) ∧
          r.callback = some (.receive n.toNat stderr data.1))

/-- Data that a channel accepts fits its window, and its type is known. -/
theorem accepted_of_next {m : Message} {data : LshString}
    (h : (protocol true).next (y.phase true) m = some φ)
    (hm : m.payload = some (n, data)) (heof : y.flags.receivedEof = false)
    (hcl : y.flags.sentClose = false) :
    accepted y data.1 = data.1 ∧ (m = .data n data ∨ m = .extendedData n 1 data) := by
  have hft (b : Option Account)
      (hb : charge data (account true y.recWindowSize y.recMaxPacket) = some b) :
      accepted y data.1 = data.1 := by
    obtain ⟨a, ha, _⟩ := Option.map_eq_some_iff.mp hb
    obtain ⟨hle, _⟩ := Account.charge_eq_some.mp ha
    exact accepted_eq_self hle.1 hle.2
  have hphase : ∃ r, (Phase.opened r false (account true y.recWindowSize y.recMaxPacket)).step m =
      some φ := by
    rw [SshChannel.phase] at h
    cases hrem : y.remoteChannelNumber with
    | none =>
      rw [hrem] at h
      cases h
    | some r =>
      rw [hrem, heof, hcl] at h
      split_ifs at h with hrecv hcld
      · cases h
      · rcases hcld with hcld | hcld <;> cases hcld
      · exact ⟨r, h⟩
  obtain ⟨r, hsp⟩ := hphase
  cases m with
  | data n' s =>
    cases hm
    obtain ⟨b, hb, _⟩ := Option.map_eq_some_iff.mp hsp
    exact ⟨hft b hb, .inl rfl⟩
  | extendedData n' type s =>
    cases hm
    rw [Phase.step] at hsp
    split_ifs at hsp with hty
    obtain ⟨b, hb, _⟩ := Option.map_eq_some_iff.mp hsp
    rcases hty with rfl | hno
    · exact ⟨hft b hb, .inr rfl⟩
    · cases hno
  | _ => cases hm

/-- Data that is taken as a whole is passed on as a whole. -/
theorem DataReceived.callback_eq {err : Bool} {data : Octets} {r : Received κ'}
    (h : DataReceived d n err data r) (hopen : IsOpen d n y)
    (htk : TakesData y) (hall : accepted y data = data) (hne : data ≠ []) :
    r.callback = some (.receive n.toNat err data) := by
  obtain ⟨_, ⟨_, hemp⟩ | ⟨y', hopen', _, hcb, _⟩⟩ := h
  · exact absurd (hall.symm.trans (hemp y hopen htk)) hne
  · rw [hopen.unique hopen', hall] at hcb
    exact hcb

theorem PairInv.delivers (h : PairInv true c d) : Delivers c d := by
  intro m rest n data hwn hm
  have hde : m.recipient true = some n := by
    cases m <;> cases hm <;> rfl
  have hwai (a : Option Account) : (Phase.waiting a).step m = none := by
    cases m <;> cases hm <;> rfl
  obtain ⟨y, hopen, hcl, φ, hφ⟩ := h.symm.exists_isOpen hwn hde hwai
  refine ⟨y, hopen, hcl, fun heof hsent hrec hne => ?_⟩
  obtain ⟨hall, hm⟩ := accepted_of_next hφ hm heof hsent
  have htk : TakesData y := ⟨hrec, heof, hcl, hsent⟩
  rcases hm with rfl | rfl
  · obtain ⟨r, hr, _, hdata⟩ := (handleChannelData_ensures h.right.toTableInv
      (parseChannelData_format n data)).exists_ok
    refine ⟨r, false, ?_, hdata.callback_eq hopen htk hall hne⟩
    exact congrArg (some <$> ·) hr
  · obtain ⟨r, hr, _, hdata⟩ := (handleChannelExtendedData_ensures h.right.toTableInv
      (parseChannelExtendedData_format n 1 data)).exists_ok
    refine ⟨r, true, ?_, hdata.callback_eq hopen htk hall hne⟩
    exact congrArg (some <$> ·) hr

/-! ### Runs -/

/-- Flow control from `c` to `d`: conservation for each open channel as long as the sender has sent
neither EOF nor CLOSE and the receiver has not sent CLOSE, and delivery. -/
def FlowControlled (c : SshConnection κ) (d : SshConnection κ') : Prop :=
  (∀ i j x y, IsOpen c i x → IsOpen d j y → x.remoteChannelNumber = some j →
    x.flags.sentEof = false → x.flags.sentClose = false → y.flags.sentClose = false →
      WindowConserved c d i j x y) ∧
  Delivers c d

theorem PairInv.flowControlled (h : PairInv true c d) : FlowControlled c d :=
  ⟨fun _ _ _ _ hx hy hrem heof hcl hcl' =>
    h.windowConserved hx hy hrem heof hcl hcl', h.delivers⟩

/-- **Flow control in both directions**, if nothing is sent on a channel after its CLOSE, data has a
type that the other end knows and arrives at channels that have a method for it, and credit does not
exceed 32 bits. -/
theorem run_pairStep_conserved (types types' requests requests' : List Atom)
    (fallback fallback' : Bool) (events : List (SideEvent κ ⊕ SideEvent κ'))
    (hguard : Guarded pairStep (PairGuard true)
      (initSshConnection types requests fallback, initSshConnection types' requests' fallback')
      events) :
    Ensures (fun _ => True) (fun p => FlowControlled p.1 p.2 ∧ FlowControlled p.2 p.1)
      (run pairStep
        (initSshConnection types requests fallback, initSshConnection types' requests' fallback')
        events) :=
  (run_pairStep (pairInv_init types types' requests requests' fallback fallback') hguard).imp
    (fun _ _ => trivial) fun _ hp => ⟨hp.flowControlled, hp.symm.flowControlled⟩

/-- The ends agree about which channels are connected, until one of them sends CLOSE. -/
def Paired (c : SshConnection κ) (d : SshConnection κ') : Prop :=
  ∀ i j x y, IsOpen c i x → IsOpen d j y → x.flags.sentClose = false → y.flags.sentClose = false →
    (x.remoteChannelNumber = some j ↔ y.remoteChannelNumber = some i)

/-- **Agreement about channels**, if nothing but data is sent after CLOSE. -/
theorem run_pairStep_paired (types types' reqs reqs' fallback fallback')
    (events : List (SideEvent κ ⊕ SideEvent κ')) :
    let p := (initSshConnection types reqs fallback, initSshConnection types' reqs' fallback')
    Guarded pairStep (PairGuard false) p events →
      Ensures (fun _ => True) (fun p => Paired p.1 p.2) (run pairStep p events) := by
  intro p hguard
  refine (run_pairStep (pairInv_init _ _ _ _ _ _) hguard).imp (fun _ _ => trivial) ?_
  intro q hq i j x y hx hy hcl hcl'
  constructor
  · exact fun hrem => (hq.exists_isOpen_peer hx hy hrem hcl).1
  · exact fun hrem => (hq.symm.exists_isOpen_peer hy hx hrem hcl').1

theorem run_pairStep_paired_first : Ensures (fun _ => True) (fun p => Paired p.1 p.2)
    (run pairStep (initSshConnection [] [] true, initSshConnection [] [] true) openFirst) :=
  run_pairStep_paired _ _ _ _ _ _ _ (by decide +kernel)

/-- A channel with a window of ten octets. -/
def smallWindow : NewChannel Unit := { plainChannel with recWindowSize := 10, receive := true }

/-- The first end opens a channel, and both ends close it. Before the CLOSE of the other end
arrives, the first end opens another one and sends data on the old one. The second end reuses the
number, so that the data is charged to the new channel. -/
def lateData : List (SideEvent Unit ⊕ SideEvent Unit) :=
  [.inl (.call (.openNew smallWindow (lshString []) [])), .inr (.deliver [.confirm 0 smallWindow]),
    .inl (.deliver []), .inr (.call (.close 0)), .inl (.call (.close 0)),
    .inl (.call (.openNew smallWindow (lshString []) [])),
    .inl (.call (.transmitData 0 (lshString [1, 2, 3]))), .inr (.deliver []),
    .inr (.deliver [.confirm 0 smallWindow]), .inr (.deliver []), .inl (.deliver []),
    .inl (.deliver [])]

/-- Nothing is on its way, the second channel of the first end may send ten octets, and its peer
takes seven. -/
def IsUpset (c d : SshConnection Unit) : Bool :=
  match c.slots[1]?, d.slots[0]? with
  | some (Slot.mk .active (some x) _), some (Slot.mk .active (some y) _) =>
    c.written.isEmpty && d.written.isEmpty && x.remoteChannelNumber = some 0 &&
      !x.flags.sentEof && !x.flags.sentClose && !y.flags.sentClose &&
      x.sendWindowSize = 10 && y.recWindowSize = 7
  | _, _ => false

theorem run_pairStep_lateData :
    ∃ p, run pairStep (initSshConnection [] [] true, initSshConnection [] [] true) lateData =
      .ok p ∧
      IsUpset p.1 p.2 ∧ ¬FlowControlled p.1 p.2 := by
  have hchk : (run pairStep (initSshConnection [] [] true, initSshConnection [] [] true)
      lateData).toOption.any (fun p => IsUpset p.1 p.2) = true := by
    decide +kernel
  obtain ⟨p, hrun, hup⟩ := exists_ok_of_any hchk
  refine ⟨p, hrun, hup, fun h => ?_⟩
  rw [IsUpset] at hup
  split at hup
  · rename_i x _ y _ hx hy
    simp only [Bool.and_eq_true, List.isEmpty_iff, decide_eq_true_eq, Bool.not_eq_true'] at hup
    obtain ⟨⟨⟨⟨⟨⟨⟨hc, hd⟩, hrem⟩, heof⟩, hcl⟩, hcl'⟩, hsnd⟩, hrec⟩ := hup
    obtain ⟨hwin, _⟩ := h.1 1 0 x y ⟨_, hx, rfl, rfl⟩ ⟨_, hy, rfl, rfl⟩ hrem heof hcl hcl'
    rw [hc, hd, hsnd, hrec] at hwin
    cases hwin
  · cases hup

/-- A channel with data on its way. -/
def dataOnTheWay : List (SideEvent Unit ⊕ SideEvent Unit) :=
  [.inl (.call (.openNew smallWindow (lshString []) [])), .inr (.deliver [.confirm 0 smallWindow]),
    .inl (.deliver []), .inl (.call (.transmitData 0 (lshString [1, 2, 3])))]

theorem run_pairStep_conserved_data :
    ((run pairStep (initSshConnection [] [] true, initSshConnection [] [] true)
      dataOnTheWay).toOption.map fun p => (dataInFlight 0 p.1.written,
        (channelAt p.1 0).map SshChannel.sendWindowSize,
        (channelAt p.2 0).map SshChannel.recWindowSize)) = some (3, some 7, some 10) ∧
    Ensures (fun _ => True) (fun p => FlowControlled p.1 p.2 ∧ FlowControlled p.2 p.1)
      (run pairStep (initSshConnection [] [] true, initSshConnection [] [] true) dataOnTheWay) :=
  ⟨by decide +kernel, run_pairStep_conserved _ _ _ _ _ _ _ (by decide +kernel)⟩

end Lsh.Channel
