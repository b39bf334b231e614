
import Lsh.Channel.Events

/-!
# The life of a channel

The life of a channel object, from the record of its connection. `Life` is the close handshake as it
should be: EOF is sent at most once and not after CLOSE, CLOSE is sent at most once, and the number
of the channel is given back when CLOSE has been sent and received, or when the open request has
been denied.

`LifeInv` says that the record keeps to this, and that an object is in the table with its number for
as long as its life says so.

## Main results

* `LifeInv.of_replaces` — what may happen to the object of one entry
* `LifeInv.acts` — actions follow the handshake
-/

namespace Lsh.Channel

open Machine Table List

variable {κ : Type} {c d : SshConnection κ} {i k : ℕ}

/-! ### The life of a channel -/

/-- What has become of a channel object, with its number. -/
inductive Life where
  | unborn
  | opening (n : ℕ)
  | denied (n : ℕ)
  | opened (n : ℕ) (sentEof sentClose receivedClose : Bool)
  | gone
  deriving DecidableEq

/-- The number that the object has. -/
def Life.number : Life → Option ℕ
  | opening n => some n
  | denied n => some n
  | opened n _ _ _ => some n
  | _ => none

/-- The object that an entry of the record is about. -/
def Entry.about : Entry → Option ℕ
  | sent channel _ => channel
  | receivedConfirmation k => some k
  | receivedFailure k => some k
  | receivedClose k => some k
  | deallocated _ channel => channel
  | _ => none

/-- What may happen to an object. -/
def Life.next : Life → Entry → Option Life
  | unborn, .sent _ (.open _ n _ _ _) => some (opening n.toNat)
  | unborn, .sent _ (.openConfirmation _ n _ _) => some (opened n.toNat false false false)
  | opening n, .receivedConfirmation _ => some (opened n false false false)
  | opening n, .receivedFailure _ => some (denied n)
  | denied n, .deallocated i _ => if i = n then some gone else none
  | opened n e s r, .sent _ (.eof _) => if e ∨ s then none else some (opened n true s r)
  | opened n e s r, .sent _ (.close _) => if s then none else some (opened n e true r)
  | opened n e s r, .sent _ _ => some (opened n e s r)
  | opened n e s r, .receivedClose _ => if r then none else some (opened n e s true)
  | opened n _ s r, .deallocated i _ => if i = n ∧ s ∧ r then some gone else none
  | _, _ => none

/-- What an entry does to the life of the object `k`. -/
def Life.step (k : ℕ) (l : Life) (e : Entry) : Option Life :=
  if e.about = some k then l.next e else some l

/-- The life of the object `k`, unless the record is against the rules. -/
def lifeOf (k : ℕ) (log : List Entry) : Option Life := log.foldlM (Life.step k) .unborn

theorem lifeOf_append (k log es) :
    lifeOf k (log ++ es) = (lifeOf k log).bind fun l => es.foldlM (Life.step k) l :=
  foldlM_append

variable {es log : List Entry}

/-- Entries about other objects. -/
theorem lifeOf_append_of_ne (h : ∀ e ∈ es, e.about ≠ some k) :
    lifeOf k (log ++ es) = lifeOf k log := by
  have hsame (l : Life) : es.foldlM (Life.step k) l = some l := by
    induction es with
    | nil => rfl
    | cons e es ih =>
      rw [foldlM_cons, Life.step, if_neg (h e mem_cons_self)]
      exact ih fun e he => h e (mem_cons_of_mem _ he)
  rw [lifeOf_append]
  simp only [hsame, Option.bind_fun_some]

variable {e : Entry}

theorem foldlM_step_singleton (he : e.about = some k) (l) :
    [e].foldlM (Life.step k) l = l.next e := by
  rw [foldlM_cons, Life.step, if_pos he]
  cases l.next e <;> rfl

/-- One more entry. -/
theorem lifeOf_snoc {l : Life} (h : lifeOf k log = some l) (e) (he : e.about = some k) :
    lifeOf k (log ++ [e]) = l.next e := by
  rw [lifeOf_append, h, Option.bind_some, foldlM_step_singleton he]

/-! ### Objects in the table -/

/-- The life of the object in an entry of the table. -/
def Slot.life (log : List Entry) (i : ℕ) (s : Slot κ) : Option Life :=
  match s.state, s.channel with
  | .sentOpen, some x =>
    some (if log.any (Entry.isFailure x.serial) then .denied i else .opening i)
  | .active, some x =>
    some (.opened i x.flags.sentEof x.flags.sentClose x.flags.receivedClose)
  | _, _ => none

/-- **The table and the record agree.** Objects that are not in the table are gone, or have not been
made yet. -/
structure LifeInv (c : SshConnection κ) : Prop extends EndInv c where
  lifeOf_slot : ∀ (i : ℕ) (s : Slot κ) (x : SshChannel κ), c.slots[i]? = some s →
    s.channel = some x → lifeOf x.serial c.log = s.life c.log i
  lifeOf_other : ∀ k, (∀ i x, channelAt c i = some x → x.serial ≠ k) →
    lifeOf k c.log = some (if k < c.nextSerial then .gone else .unborn)

theorem any_isFailure_iff : log.any (Entry.isFailure k) ↔ .receivedFailure k ∈ log := by
  rw [any_eq_true]
  constructor
  · rintro ⟨e, he, hfai⟩
    cases e with
    | receivedFailure k' => exact of_decide_eq_true hfai ▸ he
    | _ => cases hfai
  · exact fun h => ⟨_, h, decide_eq_true rfl⟩

/-- Entries about one object are no failures of others. -/
theorem any_isFailure_append {k' : ℕ} (h : ∀ e ∈ es, e.about ≠ some k') :
    (log ++ es).any (Entry.isFailure k') = log.any (Entry.isFailure k') := by
  have hes : es.any (Entry.isFailure k') = false := by
    rw [any_eq_false]
    intro e he hfai
    cases e with
    | receivedFailure k'' => exact h _ he (congrArg some (of_decide_eq_true hfai))
    | _ => cases hfai
  rw [any_append, hes, Bool.or_false]

theorem Slot.life_congr {log' : List Entry} {s : Slot κ} (h : ∀ x, s.channel = some x →
      log'.any (Entry.isFailure x.serial) = log.any (Entry.isFailure x.serial)) :
    s.life log' i = s.life log i := by
  rw [life, life]
  split
  · rename_i x _ hch
    rw [h x hch]
  · rfl
  · rfl

variable {x : SshChannel κ}

namespace LifeInv

section
variable (h : LifeInv c)
include h

section
variable (hend : EndInv d)
include hend

variable {old : Option (Slot κ)} {s' : Slot κ}

/-- **One entry is replaced.** All that is put on record is about its object, the one that was there
before or a new one. -/
theorem of_replaces (hr : Replaces c.slots d.slots i old s')
    (hlog : d.log = c.log ++ es) (hab : ∀ e ∈ es, ∀ k', e.about = some k' → k' = k)
    (hself : ∀ x, channelAt c i = some x → x.serial = k)
    (hoth : ∀ j x, j ≠ i → channelAt c j = some x → x.serial ≠ k)
    (hnew : ∀ y, s'.channel = some y → y.serial = k ∧ lifeOf k d.log = s'.life d.log i)
    (hno : s'.channel = none → lifeOf k d.log = some (if k < d.nextSerial then .gone else .unborn))
    (hser : ∀ k', k' ≠ k → (k' < d.nextSerial ↔ k' < c.nextSerial)) : LifeInv d := by
  have hne {k' : ℕ} (hk : k' ≠ k) : ∀ e ∈ es, e.about ≠ some k' :=
    fun e he hab' => hk (hab e he k' hab')
  refine ⟨hend, ?_, ?_⟩
  · intro j t y ht hy
    rcases hr.of_getElem? ht with ⟨rfl, rfl⟩ | ⟨hj, ht⟩
    · obtain ⟨hk, hlf⟩ := hnew y hy
      rw [hk]
      exact hlf
    · have hk := hoth j y hj (channelAt_eq_some ht hy)
      rw [hlog, lifeOf_append_of_ne (hne hk), h.lifeOf_slot j t y ht hy]
      refine (Slot.life_congr fun x hx => ?_).symm
      rw [hy] at hx
      cases hx
      exact any_isFailure_append (hne hk)
  · intro k' hk'
    by_cases hk : k' = k
    · subst hk
      refine hno ?_
      by_contra hsome
      obtain ⟨y, hy⟩ := Option.ne_none_iff_exists'.mp hsome
      exact hk' i y (channelAt_eq_some hr.getElem?_self hy) (hnew y hy).1
    · rw [hlog, lifeOf_append_of_ne (hne hk), h.lifeOf_other k' ?_]
      · rw [if_congr (hser k' hk) rfl rfl]
      · intro j x hx
        by_cases hj : j = i
        · rw [hj] at hx
          exact fun heq => hk (heq.symm.trans (hself x hx))
        · refine hk' j x ?_
          rw [channelAt_of_replaces hr, if_neg hj]
          exact hx

/-- Nothing is put on record about an object. -/
theorem congr (hslots : d.slots = c.slots)
    (hlog : d.log = c.log ++ es) (hab : ∀ e ∈ es, e.about = none)
    (hser : d.nextSerial = c.nextSerial) : LifeInv d := by
  have hne (k : ℕ) : ∀ e ∈ es, e.about ≠ some k := by
    intro e he
    rw [hab e he]
    exact nofun
  refine ⟨hend, ?_, ?_⟩
  · intro j t y ht hy
    rw [hslots] at ht
    rw [hlog, lifeOf_append_of_ne (hne _), h.lifeOf_slot j t y ht hy]
    exact (Slot.life_congr fun x _ => any_isFailure_append (hne _)).symm
  · intro k hk
    rw [hlog, lifeOf_append_of_ne (hne _), hser]
    refine h.lifeOf_other k fun j x hx => hk j x ?_
    rw [channelAt, hslots]
    exact hx

/-- A number that is taken or given back without an object. -/
theorem of_replaces_none (hr : Replaces c.slots d.slots i old s')
    (hlog : d.log = c.log ++ es) (hab : ∀ e ∈ es, e.about = none) (hold : channelAt c i = none)
    (hnew : s'.channel = none) (hser : d.nextSerial = c.nextSerial) : LifeInv d := by
  have hub := h.lifeOf_other c.nextSerial fun j x hx => Nat.ne_of_lt (h.serial_lt hx)
  refine h.of_replaces (k := c.nextSerial) hend hr hlog (fun e he k' hk' => ?_) (fun x hx => ?_)
    (fun j x _ hx => Nat.ne_of_lt (h.serial_lt hx)) (fun y hy => ?_) (fun _ => ?_) fun k' _ => ?_
  · rw [hab e he] at hk'
    cases hk'
  · rw [hold] at hx
    cases hx
  · rw [hnew] at hy
    cases hy
  · rw [hlog, lifeOf_append_of_ne fun e he => by rw [hab e he]; exact nofun, hser, hub]
  · rw [hser]

/-- A new object. -/
theorem of_replaces_new {y : SshChannel κ} (hr : Replaces c.slots d.slots i old s')
    (hlog : d.log = c.log ++ [e])
    (hab : e.about = some c.nextSerial) (hold : channelAt c i = none) (hnew : s'.channel = some y)
    (hy : y.serial = c.nextSerial) (hser : d.nextSerial = c.nextSerial + 1)
    (hnext : Life.unborn.next e = s'.life d.log i) :
    LifeInv d := by
  have hub := h.lifeOf_other c.nextSerial fun j x hx => Nat.ne_of_lt (h.serial_lt hx)
  rw [if_neg (Nat.lt_irrefl _)] at hub
  refine h.of_replaces (k := c.nextSerial) hend hr hlog (fun e' he' k' hk' => ?_) (fun x hx => ?_)
    (fun j x _ hx => Nat.ne_of_lt (h.serial_lt hx)) (fun z hz => ?_) (fun hz => ?_) fun k' hk' => ?_
  · rw [List.mem_singleton.mp he', hab] at hk'
    exact (Option.some.inj hk').symm
  · rw [hold] at hx
    cases hx
  · rw [hnew] at hz
    cases hz
    rw [hlog] at hnext ⊢
    exact ⟨hy, (lifeOf_snoc hub e hab).trans hnext⟩
  · rw [hnew] at hz
    cases hz
  · omega

/-- The object of an entry is changed, or is gone. -/
theorem of_replaces_old {s : Slot κ} (hr : Replaces c.slots d.slots i (some s) s')
    (hlog : d.log = c.log ++ es)
    (hab : ∀ e ∈ es, e.about = some x.serial) (hold : s.channel = some x)
    (hnew : ∀ y ∈ s'.channel, y.serial = x.serial) (hser : d.nextSerial = c.nextSerial)
    (hnext : (s.life c.log i).bind (fun l => es.foldlM (Life.step x.serial) l) =
      match s'.channel with
      | some _ => s'.life d.log i
      | none => some .gone) : LifeInv d := by
  have hs := hr.getElem?_eq
  have hx := channelAt_eq_some hs hold
  rw [← h.lifeOf_slot i s x hs hold, ← lifeOf_append, ← hlog] at hnext
  refine h.of_replaces (k := x.serial) hend hr hlog (fun e he k' hk' => ?_) (fun x' hx' => ?_)
    (fun j x' hj hx' hk => hj (h.serial_inj j i x' x hx' hx hk)) (fun z hz => ?_) (fun hz => ?_)
    fun k' _ => ?_
  · rw [hab e he] at hk'
    exact (Option.some.inj hk').symm
  · rw [hx] at hx'
    cases hx'
    rfl
  · rw [hz] at hnext
    exact ⟨hnew z hz, hnext⟩
  · rw [hz] at hnext
    rw [hnext, hser, if_pos (h.serial_lt hx)]
  · rw [hser]

end

end

end LifeInv

/-! ### Actions -/

/-- The number whose open request is answered. -/
def Action.answers : Action κ → Option ℕ
  | .receiveConfirmation i _ _ _ => some i
  | .receiveFailure i => some i
  | _ => none

variable {a : ChannelAction κ}

namespace ChannelAction

theorem about_of_mem_entries (he : e ∈ a.entries x) : e.about = some x.serial := by
  rw [entries.eq_def] at he
  split at he
  · rw [List.mem_singleton.mp he]
    rfl
  · obtain ⟨m, _, rfl⟩ := List.mem_map.mp he
    rfl

/-- Nothing is put on record for a channel that is not open. -/
theorem entries_eq_nil (hloc : ¬a.IsReceive) (hrem : x.remoteChannelNumber = none) :
    a.entries x = [] := by
  rw [entries_eq hloc, messages, hrem]
  cases a.message x <;> rfl

/-- **Actions on an open channel** follow the handshake. -/
theorem life_effect {r : UInt32} (hrem : x.remoteChannelNumber = some r) (hguard : a.Guard x) (n) :
    (a.entries x).foldlM (Life.step x.serial)
        (.opened n x.flags.sentEof x.flags.sentClose x.flags.receivedClose) =
      some (.opened n (a.effect x).flags.sentEof (a.effect x).flags.sentClose
        (a.effect x).flags.receivedClose) := by
  -- what is sent, if anything, decides
  have hsent (hloc : ¬a.IsReceive) (m : UInt32 → Message) (hm : a.message x = some m) :
      (a.entries x).foldlM (Life.step x.serial)
        (.opened n x.flags.sentEof x.flags.sentClose x.flags.receivedClose) =
      Life.next (.opened n x.flags.sentEof x.flags.sentClose x.flags.receivedClose)
        (.sent (some x.serial) (m r)) := by
    have hmgs : a.messages x = [m r] := by rw [messages, hm, hrem]
    rw [entries_eq hloc, hmgs]
    exact foldlM_step_singleton rfl _
  cases a with
  | sendClose =>
    have hcl : x.flags.sentClose = false := hguard
    rw [hsent id _ rfl, hcl]
    rfl
  | sendEof =>
    obtain ⟨heof, hcl, _⟩ := hguard
    rw [hsent id _ rfl, heof, hcl]
    exact congrArg (fun e => some (Life.opened n true e x.flags.receivedClose)) hcl.symm
  | receiveClose =>
    have hcl : x.flags.receivedClose = false := hguard
    rw [entries, foldlM_step_singleton rfl, hcl]
    rfl
  | adjust | startReceive => exact hsent id _ rfl
  | reply res => cases res <;> exact hsent id _ rfl
  | transmit type data => cases type <;> exact hsent id _ rfl
  | request type want args => cases want <;> exact hsent id _ rfl
  | _ => rfl

end ChannelAction

/-- **Actions follow the handshake**, if answers come to open requests that have not been denied. -/
theorem LifeInv.acts {a : Action κ} (h : LifeInv c) (ha : Acts c a d)
    (hans : ∀ j x, a.answers = some j → channelAt c j = some x →
      c.log.any (Entry.isFailure x.serial) = false) : LifeInv d := by
  have hend := h.toEndInv.acts ha
  cases ha with
  | @channel j s x a hs hch hguard hact hrem =>
    have hr : Replaces c.slots (emit (setChannel c j (a.effect x)) (a.messages x)
        (a.entries x)).slots
        j (some s) { s with channel := some (a.effect x) } := by
      rw [setChannel_eq hs]
      exact Replaces.of_set hs _
    refine h.of_replaces_old hend hr rfl (fun e he => ChannelAction.about_of_mem_entries he) hch
      (fun y hy => Option.some.inj hy ▸ a.effect_serial x) rfl ?_
    have hval := h.slot j s hs
    cases hval with
    | free | receivedOpen => cases hch
    | sentOpen hloc hser hno =>
      cases hch
      have hnil := ChannelAction.entries_eq_nil (a := a) (fun hrec => nomatch hact hrec) hno
      show (Slot.life _ j _).bind _ = Slot.life (c.log ++ a.entries x) j _
      rw [hnil, List.append_nil, Slot.life, Slot.life]
      dsimp only
      rw [a.effect_serial]
      rfl
    | active hloc hser hsome =>
      cases hch
      obtain ⟨r, hr⟩ := Option.isSome_iff_exists.mp hsome
      exact ChannelAction.life_effect hr hguard j
  | @openNew i new type args hi =>
    refine h.of_replaces_new hend (Replaces.of_place hi.le_length _) rfl rfl
      (TableInv.channelAt_of_found hi) rfl rfl
      rfl ?_
    have hfld : c.log.any (Entry.isFailure c.nextSerial) = false := by
      by_contra hfld
      exact Nat.lt_irrefl _ (h.failed_lt _ (Bool.eq_true_of_not_eq_false hfld))
    have hlog : (c.log ++ [Entry.sent (some c.nextSerial) (openMessage i new type args)]).any
        (Entry.isFailure c.nextSerial) = false := by
      rw [List.any_append, hfld]
      rfl
    show _ = some (if (c.log ++ [Entry.sent (some c.nextSerial) (openMessage i new type args)]).any
      (Entry.isFailure c.nextSerial) then Life.denied i else .opening i)
    rw [hlog, openMessage, Life.next, hi.toNat_ofNat]
    rfl
  | receiveOpen info hi =>
    exact h.of_replaces_none hend (Replaces.of_place hi.le_length _) (List.append_nil _).symm
      (fun _ he => nomatch he) (TableInv.channelAt_of_found hi) rfl rfl
  | @confirm i info new hs =>
    refine h.of_replaces_new hend (Replaces.of_set hs _) rfl rfl ?_ rfl rfl rfl ?_
    · rw [channelAt, hs]
      rfl
    · show Life.next .unborn (.sent _ (confirmMessage i new info)) =
        some (.opened i false false false)
      rw [confirmMessage, Life.next, h.toNat_ofNat hs]
  | deny reason msg hs =>
    refine h.of_replaces_none hend (Replaces.of_set hs _) rfl (by simp [Entry.about]) ?_ rfl rfl
    rw [channelAt, hs]
    rfl
  | @receiveConfirmation i s x remote window maxPacket hs hst hch =>
    refine h.of_replaces_old hend (Replaces.of_set hs _) rfl (fun e he => ?_) hch
      (fun y hy => Option.some.inj hy ▸ rfl) rfl ?_
    · rw [List.mem_singleton.mp he]
      rfl
    · have hval := h.slot i s hs
      cases hval with
      | sentOpen hloc hser hno hfl =>
        cases hch
        rw [Slot.life]
        dsimp only
        rw [hans i x rfl (channelAt_eq_some hs rfl), Option.bind_some, foldlM_step_singleton rfl]
        show some (Life.opened i false false false) =
          some (.opened i x.flags.sentEof x.flags.sentClose
          x.flags.receivedClose)
        rw [hfl.sentEof, hfl.sentClose, hfl.receivedClose]
      | _ => cases hst
  | @receiveFailure i s x hs hst hch =>
    have hself : c.slots.set i s = c.slots := by
      obtain ⟨hlt, rfl⟩ := List.getElem?_eq_some_iff.mp hs
      exact List.set_getElem_self hlt
    have hr : Replaces c.slots c.slots i (some s) s := by
      have hset := Replaces.of_set hs s
      rwa [hself] at hset
    refine h.of_replaces_old hend hr rfl (fun e he => ?_) hch
      (fun y hy => Option.some.inj (hy.symm.trans hch) ▸ rfl) rfl ?_
    · rw [List.mem_singleton.mp he]
      rfl
    · rw [hch]
      show _ = s.life (c.log ++ [.receivedFailure x.serial]) i
      have hfld : (c.log ++ [Entry.receivedFailure x.serial]).any (Entry.isFailure x.serial) :=
        any_isFailure_iff.mpr (List.mem_append_right _ List.mem_cons_self)
      rw [Slot.life, Slot.life, hst, hch]
      dsimp only
      rw [hfld, hans i x rfl (channelAt_eq_some hs hch), Option.bind_some,
        foldlM_step_singleton rfl]
      rfl
  | @finish i s x hs hch hal hst =>
    refine h.of_replaces_old (i := i) hend (?_ : Replaces _ _ _ _ ⟨.free, none, none⟩)
      (settle_log _)
      (fun e he => ?_) hch (fun y hy => by cases hy) (settle_nextSerial _) ?_
    · rw [settle_slots]
      exact Replaces.of_set hs _
    · rw [List.mem_singleton.mp he]
      rfl
    rcases hst with ⟨hact, hsent, hrecv⟩ | ⟨hopg, hfld⟩
    · rw [Slot.life, hact, hch]
      rw [Option.bind_some, foldlM_step_singleton rfl]
      exact if_pos ⟨rfl, hsent, hrecv⟩
    · rw [Slot.life, hopg, hch]
      dsimp only
      rw [any_isFailure_iff.mpr hfld, Option.bind_some, foldlM_step_singleton rfl]
      exact if_pos rfl
  | refuse | sendGlobal | refuseGlobal | receiveGlobalReply =>
    exact h.congr hend rfl rfl (by simp [Entry.about]) rfl
  | globalReply want res =>
    refine h.congr hend rfl rfl ?_ rfl
    cases want <;> simp [Entry.about]
  | pendingClose =>
    have hlog : (settle { c with pendingClose := true }).log = c.log ++ [] := by
      rw [settle_log, List.append_nil]
    refine h.congr hend ?_ hlog (fun e he => nomatch he) ?_
    · rw [settle_slots]
    · rw [settle_nextSerial]

end Lsh.Channel
