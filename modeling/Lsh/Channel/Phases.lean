
import Lsh.Channel.Events
import Lsh.Library.Mailbox

/-!
# Phases of channel numbers

The numbers of an endpoint are mailboxes for the other one. A number is waiting when an open request
has been sent for it, and then open until CLOSE is received. What the other end takes for granted
about a number is in its own table and in messages that are on their way to it.

The same phases serve two purposes. Which messages a number accepts only depends on whether it is
waiting or open, and whether EOF has been received. If windows are accounted for as well, a phase
also has the window that is left, and data is accepted as long as it fits. The account is closed
when one end has sent EOF or CLOSE, because windows are not kept up after that.

## Main definitions

* `Phase`, `protocol` — what a number accepts
* `phase` — the phases of the numbers of an endpoint
* `claims` — what an endpoint takes for granted about the numbers of the other
-/

namespace Lsh.Channel

open Mailbox List

/-! ### Phases -/

/-- The account of a window: how many octets may still be sent, in packets of what size. -/
structure Account where
  window : ℕ
  maxPacket : UInt32
  deriving DecidableEq

/-- The phase of a number: an open request has been sent, or the channel is open. Its peer is the
number at the other end. -/
inductive Phase where
  | waiting (account : Option Account)
  | opened (peer : UInt32) (eof : Bool) (account : Option Account)
  deriving DecidableEq

/-- Data is charged to an account. -/
def Account.charge (s : LshString) (a : Account) : Option Account :=
  if s.1.length ≤ a.window ∧ s.1.length ≤ a.maxPacket.toNat then
    some { a with window := a.window - s.1.length } else none

theorem Account.charge_eq_some {s : LshString} {a b : Account} : a.charge s = some b ↔
    (s.1.length ≤ a.window ∧ s.1.length ≤ a.maxPacket.toNat) ∧
      b = { a with window := a.window - s.1.length } := by
  rw [charge]
  split_ifs with h
  · rw [Option.some.injEq, and_iff_right h, eq_comm]
  · simp [h]

/-- Data is charged to the account, if there is one. -/
def charge (s : LshString) : Option Account → Option (Option Account)
  | none => some none
  | some a => (a.charge s).map some

/-- The number that a message is addressed to. Data never ends a connection, wherever it arrives, so
it does not count unless windows are accounted for. -/
def Message.recipient (accounts : Bool) : Message → Option UInt32
  | openConfirmation n _ _ _ => some n
  | openFailure n _ _ => some n
  | windowAdjust n _ => some n
  | data n _ => if accounts then some n else none
  | extendedData n _ _ => if accounts then some n else none
  | eof n => some n
  | close n => some n
  | request n _ _ _ => some n
  | success n => some n
  | failure n => some n
  | _ => none

/-- What a message does to the phase of its recipient. -/
def Phase.step : Phase → Message → Option (Option Phase)
  | waiting account, .openConfirmation _ number _ _ => some (some (opened number false account))
  | waiting _, .openFailure _ _ _ => some none
  | opened peer eof account, .windowAdjust _ _ => some (some (opened peer eof account))
  | opened peer eof account, .data _ s => (charge s account).map fun a => some (opened peer eof a)
  | opened peer eof account, .extendedData _ type s =>
    if type = 1 ∨ account = none then (charge s account).map fun a => some (opened peer eof a)
    else none
  | opened peer false _, .eof _ => some (some (opened peer true none))
  | opened _ _ _, .close _ => some none
  | opened peer eof account, .request _ _ _ _ => some (some (opened peer eof account))
  | opened peer eof account, .success _ => some (some (opened peer eof account))
  | opened peer eof account, .failure _ => some (some (opened peer eof account))
  | _, _ => none

/-- The protocol of the mailboxes. -/
def protocol (accounts : Bool) : Protocol UInt32 Phase Message where
  dest := Message.recipient accounts
  step := Phase.step

/-- What a message to the number `n` does to the account that the channel there has of the other
end's window. -/
def Message.affect (n : UInt32) : Message → Account → Option Account
  | windowAdjust recipient add, a =>
    some (if recipient = n then { a with window := a.window + add.toNat } else a)
  | close recipient, a => if recipient = n then none else some a
  | _, a => some a

/-- What a message does to a claim, which is about the number of the sender. -/
def Phase.affect (m : Message) : Phase → Phase
  | waiting account => waiting account
  | opened peer eof account => opened peer eof (account.bind (m.affect peer))

/-- An account after the messages on the way to the number `n`. -/
def future (q : List Message) (n : UInt32) (account : Option Account) : Option Account :=
  q.foldl (fun account m => account.bind (m.affect n)) account

/-- An account, if windows are accounted for. -/
def account (accounts : Bool) (window maxPacket : UInt32) : Option Account :=
  if accounts then some ⟨window.toNat, maxPacket⟩ else none

section Accounts

variable (q : List Message) (n : UInt32) (m : Message)

@[simp] theorem future_nil (a) : future [] n a = a := rfl

theorem future_cons (a) : future (m :: q) n a = future q n (a.bind (m.affect n)) :=
  rfl

theorem future_snoc (a) : future (q ++ [m]) n a = (future q n a).bind (m.affect n) := by
  rw [future, foldl_append]
  rfl

@[simp] theorem future_none : future q n none = none := by
  induction q with
  | nil => rfl
  | cons m q ih => exact ih

variable {q n m}

/-- Messages to other numbers have no effect. -/
theorem Message.affect_of_ne {accounts : Bool} (h : m.recipient accounts ≠ some n) :
    m.affect n = some := by
  funext a
  cases m with
  | windowAdjust r add | close r =>
    have hne : r ≠ n := fun heq => h (congrArg some heq)
    rw [affect, if_neg hne]
  | _ => rfl

theorem future_of_forall (h : ∀ m ∈ q, m.affect n = some) (a) : future q n a = a := by
  induction q generalizing a with
  | nil => rfl
  | cons m q ih =>
    rw [future_cons, h m mem_cons_self, Option.bind_fun_some]
    exact ih (fun m hm => h m (mem_cons_of_mem _ hm)) a

/-- The window only grows by messages on the way. -/
theorem window_le_of_future {a b : Account} (h : future q n (some a) = some b) :
    a.window ≤ b.window := by
  induction q generalizing a with
  | nil =>
    cases h
    exact Nat.le_refl _
  | cons m q ih =>
    rw [future_cons, Option.bind_some] at h
    cases hm : m.affect n a with
    | none =>
      rw [hm, future_none] at h
      cases h
    | some a' =>
      rw [hm] at h
      refine Nat.le_trans ?_ (ih h)
      cases m with
      | windowAdjust r add =>
        rw [Message.affect] at hm
        split_ifs at hm
        · cases hm
          exact Nat.le_add_right _ _
        · cases hm
          exact Nat.le_refl _
      | close r =>
        rw [Message.affect] at hm
        split_ifs at hm
        cases hm
        exact Nat.le_refl _
      | _ =>
        cases hm
        exact Nat.le_refl _

/-- Messages that have no effect on accounts. -/
def Message.Neutral (m : Message) : Prop := ∀ n, m.affect n = some

theorem Message.Neutral.affect (h : m.Neutral) : Phase.affect m = id := by
  funext p
  cases p with
  | waiting => rfl
  | opened peer eof a => rw [Phase.affect, h peer, Option.bind_fun_some, id]

end Accounts

/-! ### Changing the account of a phase -/

/-- The account of a phase is changed. -/
def Phase.mapAccount (g : Account → Option Account) : Phase → Phase
  | waiting a => waiting (a.bind g)
  | opened peer eof a => opened peer eof (a.bind g)

variable {a b : Option Account}

theorem charge_affect (m : Message) (n) {s : LshString} (h : charge s a = some b) :
    charge s (a.bind (m.affect n)) = some (b.bind (m.affect n)) := by
  cases a with
  | none =>
    cases h
    rfl
  | some a =>
    obtain ⟨b, hb, rfl⟩ := Option.map_eq_some_iff.mp h
    obtain ⟨hle, rfl⟩ := Account.charge_eq_some.mp hb
    rw [Option.bind_some, Option.bind_some]
    -- the window may have become larger, or the account has been closed
    have hlgr (add : ℕ) : charge s (some { a with window := a.window + add }) =
        some (some { a with window := a.window - s.1.length + add }) := by
      rw [charge, Account.charge, if_pos ⟨by simp only; omega, hle.2⟩, Option.map_some]
      simp only [Option.some.injEq, Account.mk.injEq, and_true]
      omega
    have hsame : charge s (some a) = some (some { a with window := a.window - s.1.length }) :=
      hlgr 0
    cases m with
    | windowAdjust r add =>
      rw [Message.affect, Message.affect]
      split_ifs
      · exact hlgr add.toNat
      · exact hsame
    | close r =>
      rw [Message.affect, Message.affect]
      split_ifs
      · rfl
      · exact hsame
    | _ => exact hsame

/-- **Changes of an account do not interfere with messages** to the number it is for. -/
theorem Phase.step_mapAccount (m : Message) (n) (p : Phase) (m') (φ : Option Phase)
    (h : p.step m' = some φ) :
    (p.mapAccount (m.affect n)).step m' = some (φ.map (Phase.mapAccount (m.affect n))) := by
  -- a message that charges nothing passes the account on, or ends it
  have hchg {peer : UInt32} {eof : Bool} {a : Option Account} {s : LshString}
      (h : (charge s a).map (fun a => some (opened peer eof a)) = some φ) :
      (charge s (a.bind (m.affect n))).map (fun a => some (opened peer eof a)) =
        some (φ.map (Phase.mapAccount (m.affect n))) := by
    obtain ⟨b, hb, rfl⟩ := Option.map_eq_some_iff.mp h
    rw [charge_affect m n hb]
    rfl
  cases p with
  | waiting a =>
    cases m' with
    | openConfirmation | openFailure => cases h; rfl
    | _ => cases h
  | opened peer eof a =>
    cases m' with
    | windowAdjust => cases h; rfl
    | data r s => exact hchg h
    | extendedData r type s =>
      rw [step] at h
      split_ifs at h with hty
      rw [mapAccount, step, if_pos]
      · exact hchg h
      · rcases hty with hty | rfl
        · exact .inl hty
        · exact .inr rfl
    | eof =>
      cases eof with
      | false => cases h; rfl
      | true => cases h
    | close | request | success | failure => cases h; rfl
    | _ => cases h

/-! ### Where a phase comes from -/

section Predict

variable {t : Bool} {q : List Message} {peer : UInt32}

/-- The octets of data in messages. -/
def dataLength (q : List Message) : ℕ :=
  (q.map fun
    | .data _ s => s.1.length
    | .extendedData _ _ s => s.1.length
    | _ => 0).sum

theorem charge_eq_some {s : LshString} (h : charge s a = some b) :
    b = none ∧ a = none ∨ ∃ x y, a = some x ∧ b = some y ∧ x.window = y.window + s.1.length ∧
      x.maxPacket = y.maxPacket ∧ s.1.length ≤ x.maxPacket.toNat := by
  cases a with
  | none =>
    cases h
    exact .inl ⟨rfl, rfl⟩
  | some x =>
    obtain ⟨b, hb, rfl⟩ := Option.map_eq_some_iff.mp h
    obtain ⟨hle, rfl⟩ := Account.charge_eq_some.mp hb
    refine .inr ⟨x, _, rfl, rfl, ?_, rfl, hle.2⟩
    show x.window = x.window - s.1.length + s.1.length
    omega

variable {x : Option Account} {e : Bool} {p : Phase}

/-- What one message leaves of an open number. -/
theorem Phase.step_opened {m : Message} (h : (opened peer e x).step m = some (some p)) :
    ∃ e' y, p = opened peer e' y ∧
      ∀ b, y = some b → e' = e ∧ ∃ b', x = some b' ∧ b'.window = b.window + dataLength [m] ∧
        b'.maxPacket = b.maxPacket := by
  -- data is charged, and anything else leaves the account alone or closes it
  have hchg {s : LshString}
      (h : (charge s x).map (fun a => some (opened peer e a)) = some (some p))
      (hm : dataLength [m] = s.1.length) : ∃ e' y, p = opened peer e' y ∧
      ∀ b, y = some b → e' = e ∧ ∃ b', x = some b' ∧ b'.window = b.window + dataLength [m] ∧
        b'.maxPacket = b.maxPacket := by
    obtain ⟨y, hy, hp⟩ := Option.map_eq_some_iff.mp h
    cases hp
    refine ⟨e, y, rfl, fun b hb => ⟨rfl, ?_⟩⟩
    rcases charge_eq_some hy with ⟨rfl, _⟩ | ⟨b', y', rfl, rfl, hwin, hmax, _⟩
    · cases hb
    · cases hb
      exact ⟨b', rfl, by rw [hm, hwin], hmax⟩
  have hsame (hp : some (some (opened peer e x)) = some (some p)) (hm : dataLength [m] = 0) :
      ∃ e' y, p = opened peer e' y ∧
      ∀ b, y = some b → e' = e ∧ ∃ b', x = some b' ∧ b'.window = b.window + dataLength [m] ∧
        b'.maxPacket = b.maxPacket := by
    cases hp
    exact ⟨e, x, rfl, fun b hb => ⟨rfl, b, hb, by rw [hm, Nat.add_zero], rfl⟩⟩
  cases m with
  | windowAdjust => exact hsame h rfl
  | data r s => exact hchg h (Nat.add_zero _)
  | extendedData r type s =>
    rw [step] at h
    split_ifs at h
    exact hchg h (Nat.add_zero _)
  | eof =>
    cases e with
    | false =>
      cases h
      exact ⟨true, none, rfl, fun b hb => nomatch hb⟩
    | true => cases h
  | request | success | failure => exact hsame h rfl
  | _ => cases h

/-- A number that is open stays open with the same peer until it is closed. -/
theorem predict_opened (h : (protocol t).predict (some (.opened peer e x)) q = some (some p)) :
    ∃ e' y, p = .opened peer e' y ∧
      ∀ b, y = some b → e' = e ∧ ∃ b', x = some b' ∧ b'.window = b.window + dataLength q ∧
        b'.maxPacket = b.maxPacket := by
  induction q generalizing e x with
  | nil =>
    cases h
    exact ⟨e, x, rfl, fun b hb => ⟨rfl, b, hb, (Nat.add_zero _).symm, rfl⟩⟩
  | cons m q ih =>
    obtain ⟨ψ, hψ, hre⟩ := Option.bind_eq_some_iff.mp h
    cases ψ with
    | none =>
      obtain ⟨_, hno⟩ := Protocol.eq_nil_of_predict_none _ hre
      cases hno
    | some p' =>
      obtain ⟨e', y, rfl, hy⟩ := Phase.step_opened hψ
      obtain ⟨e'', z, rfl, hz⟩ := ih hre
      refine ⟨e'', z, rfl, fun b hb => ?_⟩
      obtain ⟨rfl, b', rfl, hwin, hmax⟩ := hz b hb
      obtain ⟨rfl, b'', rfl, hwin', hmax'⟩ := hy b' rfl
      refine ⟨rfl, b'', rfl, ?_, hmax'.trans hmax⟩
      have hlen : dataLength (m :: q) = dataLength [m] + dataLength q := by
        simp [dataLength]
      omega

/-- A number that will be open is open, or it is waiting for a confirmation that is on its way. -/
theorem predict_eq_opened {φ : Option Phase} {eof : Bool}
    (h : (protocol t).predict φ q = some (some (.opened peer eof a))) :
    (∃ e x, φ = some (.opened peer e x) ∧ (a.isSome → x.isSome)) ∨
      ∃ x n w k, φ = some (.waiting x) ∧ .openConfirmation n peer w k ∈ q := by
  cases φ with
  | none =>
    obtain ⟨_, hno⟩ := Protocol.eq_nil_of_predict_none _ h
    cases hno
  | some p =>
    cases p with
    | opened peer' e x =>
      obtain ⟨e', y, hp, hy⟩ := predict_opened h
      cases hp
      refine .inl ⟨e, x, rfl, fun hsome => ?_⟩
      obtain ⟨b, hb⟩ := Option.isSome_iff_exists.mp hsome
      obtain ⟨_, b', rfl, _⟩ := hy b hb
      rfl
    | waiting x =>
      cases q with
      | nil => cases h
      | cons m q =>
        obtain ⟨ψ, hψ, hre⟩ := Option.bind_eq_some_iff.mp h
        cases m with
        | openConfirmation n number w k =>
          cases hψ
          obtain ⟨e', y, hp, _⟩ := predict_opened hre
          cases hp
          exact .inr ⟨x, n, w, k, rfl, mem_cons_self⟩
        | openFailure =>
          cases hψ
          obtain ⟨_, hno⟩ := Protocol.eq_nil_of_predict_none _ hre
          cases hno
        | _ => cases hψ

end Predict

/-! ### The numbers of an endpoint -/

variable {κ : Type}

/-- The phase of the number of an open channel. -/
def SshChannel.phase (accounts : Bool) (x : SshChannel κ) : Option Phase :=
  x.remoteChannelNumber.bind fun peer =>
    if x.flags.receivedClose then none
    else some (.opened peer x.flags.receivedEof
      (if x.flags.receivedEof ∨ x.flags.sentClose then none
        else account accounts x.recWindowSize x.recMaxPacket))

/-- The phase of the number of an entry. -/
def Slot.phase (accounts : Bool) (log : List Entry) (s : Slot κ) : Option Phase :=
  match s.state, s.channel with
  | .sentOpen, some x =>
    if log.any (Entry.isFailure x.serial) then none
    else some (.waiting (account accounts x.recWindowSize x.recMaxPacket))
  | .active, some x => x.phase accounts
  | _, _ => none

/-- The phase of a number. -/
def phase (accounts : Bool) (c : SshConnection κ) (n : UInt32) : Option Phase :=
  c.slots[n.toNat]?.bind (Slot.phase accounts c.log)

/-! ### What an endpoint takes for granted -/

/-- What an open channel claims about its number at the other end, where `q` is on the way to this
end. -/
def SshChannel.claim (accounts : Bool) (q : List Message) (x : SshChannel κ) :
    Option (UInt32 × Phase) :=
  x.remoteChannelNumber.bind fun n =>
    if x.flags.sentClose then none
    else some (n, .opened (UInt32.ofNat x.localChannelNumber) x.flags.sentEof
      (if x.flags.sentEof ∨ x.flags.receivedClose then none
        else future q (UInt32.ofNat x.localChannelNumber)
          (account accounts x.sendWindowSize x.sendMaxPacket)))

/-- What an entry claims about a number of the other end: that it waits for an answer, or that it is
open. -/
def Slot.claim (accounts : Bool) (q : List Message) (s : Slot κ) : Option (UInt32 × Phase) :=
  match s.state, s.channel, s.info with
  | .receivedOpen, _, some info =>
    some (info.remoteChannelNumber,
      .waiting (account accounts info.sendWindowSize info.sendMaxPacket))
  | .active, some x, _ => x.claim accounts q
  | _, _, _ => none

/-- What a message on its way, followed by `q`, will make its receiver claim. -/
def Message.claim (accounts : Bool) (q : List Message) : Message → Option (UInt32 × Phase)
  | .open _ number window maxPacket _ =>
    some (number, .waiting (account accounts window (min maxPacket 0x8000)))
  | openConfirmation recipient number window maxPacket =>
    some (number, .opened recipient false
      (future q recipient (account accounts window (min maxPacket sshMaxDataSize))))
  | _ => none

/-- What messages on their way will make their receiver claim. -/
def messageClaims (accounts : Bool) : List Message → UInt32 → Multiset Phase
  | [], _ => 0
  | m :: q, n => about n (m.claim accounts q) + messageClaims accounts q n

/-- What an endpoint takes for granted about the number `n` of the other end, or will when it has
received the messages `q`. -/
def claims (accounts : Bool) (c : SshConnection κ) (q : List Message) (n : UInt32) :
    Multiset Phase :=
  tableClaims (Slot.claim accounts q) c.slots n + messageClaims accounts q n

variable {t : Bool} {q : List Message}

/-- A message that is sent has an effect on the claims of its receiver. -/
theorem SshChannel.claim_snoc (x : SshChannel κ) (m) :
    x.claim t (q ++ [m]) = (x.claim t q).map fun y => (y.1, Phase.affect m y.2) := by
  rw [claim, claim]
  cases x.remoteChannelNumber with
  | none => rfl
  | some n =>
    split_ifs
    · rfl
    · rfl
    · rw [future_snoc]
      rfl

theorem Slot.claim_snoc (s : Slot κ) (m) :
    s.claim t (q ++ [m]) = (s.claim t q).map fun y => (y.1, Phase.affect m y.2) := by
  rw [claim, claim]
  split
  · rfl
  · exact SshChannel.claim_snoc _ m
  · rfl

theorem Message.claim_snoc (m' m : Message) :
    m'.claim t (q ++ [m]) = (m'.claim t q).map fun y => (y.1, Phase.affect m y.2) := by
  cases m' with
  | «open» => rfl
  | openConfirmation =>
    rw [claim, future_snoc]
    rfl
  | _ => rfl

theorem messageClaims_snoc (m n) :
    messageClaims t (q ++ [m]) n =
      (messageClaims t q n).map (Phase.affect m) + about n (m.claim t []) := by
  induction q with
  | nil => simp [messageClaims]
  | cons m' q ih =>
    rw [cons_append, messageClaims, messageClaims, ih, Message.claim_snoc, about_map,
      Multiset.map_add, add_assoc]

/-- **What the sending of a message changes** in what its receiver claims. -/
theorem claims_snoc (c : SshConnection κ) (m n) :
    claims t c (q ++ [m]) n = (claims t c q n).map (Phase.affect m) + about n (m.claim t []) := by
  rw [claims, claims, messageClaims_snoc, Multiset.map_add,
    tableClaims_map (Slot.claim t q) (fun s _ => s.claim_snoc m), add_assoc]

theorem claims_snoc_neutral {m : Message} (c : SshConnection κ) (hm : m.Neutral)
    (hclaim : m.claim t [] = none)
    (n) :
    claims t c (q ++ [m]) n = claims t c q n := by
  rw [claims_snoc, hm.affect, Multiset.map_id, hclaim, about_none, add_zero]

/-- A confirmation that is on its way is a claim. -/
theorem mem_messageClaims {peer n w k : UInt32} (h : .openConfirmation n peer w k ∈ q) :
    ∃ a, .opened n false a ∈ messageClaims t q peer := by
  induction q with
  | nil => cases h
  | cons m q ih =>
    rw [messageClaims]
    rcases List.mem_cons.mp h with rfl | h
    · rw [Message.claim, about_self]
      exact ⟨_, Multiset.mem_add.mpr (.inl (Multiset.mem_singleton_self _))⟩
    · obtain ⟨a, ha⟩ := ih h
      exact ⟨a, Multiset.mem_add.mpr (.inr ha)⟩

end Lsh.Channel
