
import Lsh.Channel.Life

/-!
# The close handshake

That no more happens on a channel than the handshake allows is up to the flags of its object. That
the number is given back in the end is up to `channel_finished`, which does nothing for an object
that is dead. So the number of a channel that the program has killed is never given back. The
channels of the SOCKS proxy are killed by `socks_fail`, also when they are in the table: if the
client has hung up by the time that its request is denied, the reply to it cannot be written, and
the event handler kills the channel.

In the middle of a handler there may be one object whose number is due, because the handler calls
the program before it calls `channel_finished`. The invariant has the numbers that are due as a
parameter. Calls of the program keep it, whatever they do to these objects or to others, and so it
does not matter that the event handler of a channel may close others, as that of a gateway does.

## Main results

* `HandshakeInv.perform`, `HandshakeInv.receiveWith` — calls and packets
* `run_endpointStep_handshake` — numbers are given back when they are due, if no channel is killed
* `run_endpointStep_killed` — a number that is not given back
-/

namespace Lsh.Channel

open Machine Table

variable {κ : Type} {c d : SshConnection κ} {i k : ℕ}

/-! ### Numbers that are due -/

/-- The number of an object is due: CLOSE has been sent and received, or the open request denied. -/
def IsDue (log : List Entry) (s : Slot κ) (x : SshChannel κ) : Prop :=
  s.state = .active ∧ x.flags.sentClose ∧ x.flags.receivedClose ∨
    s.state = .sentOpen ∧ .receivedFailure x.serial ∈ log

/-- **The invariant**, where only numbers in the set are due, given with the serial numbers of their
objects. -/
structure HandshakeInv (due : Set (ℕ × ℕ)) (c : SshConnection κ) : Prop extends LifeInv c where
  alive : ∀ i x, channelAt c i = some x → x.alive
  mem_due : c.alive → ∀ (i : ℕ) (s : Slot κ) (x : SshChannel κ), c.slots[i]? = some s →
    s.channel = some x → IsDue c.log s x → (i, x.serial) ∈ due

/-- The program does not kill a channel that is in the table. -/
def NoKill (c : SshConnection κ) : Action κ → Prop
  | .channel i .kill => channelAt c i = none
  | _ => True

instance (c : SshConnection κ) (a : Action κ) : Decidable (NoKill c a) :=
  match a with
  | .channel i .kill => decidable_of_iff ((channelAt c i).isNone = true) Option.isNone_iff_eq_none
  | .channel _ .sendClose | .channel _ .sendEof | .channel _ (.adjust _)
  | .channel _ (.startReceive _) | .channel _ (.reply _) | .channel _ (.transmit _ _)
  | .channel _ (.request _ _ _) | .channel _ (.update _) | .channel _ (.receiveAdjust _)
  | .channel _ (.receiveData _) | .channel _ .receiveEof | .channel _ .receiveClose
  | .channel _ .receiveReply | .openNew _ _ _ _ | .receiveOpen _ _ | .confirm _ _ | .deny _ _ _
  | .receiveConfirmation _ _ _ _ | .receiveFailure _ | .finish _ | .refuse _ _ _ | .sendGlobal _ _ _
  | .globalReply _ _ | .refuseGlobal _ | .receiveGlobalReply _ _ | .pendingClose => isTrue trivial

theorem Acts.alive_of_alive {a : Action κ} (ha : Acts c a d) (hal : d.alive) : c.alive := by
  have hstl (e : SshConnection κ) (he : (settle e).alive) : e.alive := by
    rw [settle] at he
    split_ifs at he
    exact he
  cases ha with
  | finish | pendingClose =>
    have hbef := hstl _ hal
    exact hbef
  | _ => exact hal

theorem ChannelAction.effect_sentClose {a : ChannelAction κ} (h : a ≠ .sendClose) (x) :
    (a.effect x).flags.sentClose = x.flags.sentClose := by
  cases a with
  | sendClose => exact absurd rfl h
  | request type want args => cases want <;> rfl
  | _ => rfl

theorem ChannelAction.effect_alive {a : ChannelAction κ} (h : a ≠ .kill) (x) :
    (a.effect x).alive = x.alive := by
  cases a with
  | kill => exact absurd rfl h
  | request type want args => cases want <;> rfl
  | _ => rfl

namespace HandshakeInv

variable {due due' : Set (ℕ × ℕ)} {a : Action κ}

section
variable (h : HandshakeInv due c)
include h

theorem mono (hle : due ⊆ due') : HandshakeInv due' c :=
  { h with mem_due := fun hal i s x hs hx hdue => hle (h.mem_due hal i s x hs hx hdue) }

/-- One entry is replaced. -/
theorem of_replaces {old : Option (Slot κ)} {s' : Slot κ} (ha : Acts c a d) (hlf : LifeInv d)
    (hr : Replaces c.slots d.slots i old s')
    (hlog : ∀ j x, j ≠ i → channelAt c j = some x →
      d.log.any (Entry.isFailure x.serial) = c.log.any (Entry.isFailure x.serial))
    (hdue : ∀ p, p.1 ≠ i → p ∈ due → p ∈ due') (hnew : ∀ y, s'.channel = some y → y.alive ∧
      (c.alive → IsDue d.log s' y → (i, y.serial) ∈ due')) : HandshakeInv due' d where
  toLifeInv := hlf
  alive := by
    intro j x hx
    rw [channelAt_of_replaces hr] at hx
    split_ifs at hx
    · exact (hnew x hx).1
    · exact h.alive j x hx
  mem_due := by
    intro hal j t y ht hy hisDue
    have hal := ha.alive_of_alive hal
    rcases hr.of_getElem? ht with ⟨rfl, rfl⟩ | ⟨hj, ht⟩
    · exact (hnew y hy).2 hal hisDue
    · refine hdue _ hj (h.mem_due hal j t y ht hy ?_)
      rcases hisDue with hopen | ⟨hst, hfld⟩
      · exact .inl hopen
      · refine .inr ⟨hst, any_isFailure_iff.mp ?_⟩
        rw [← hlog j y hj (channelAt_eq_some ht hy)]
        exact any_isFailure_iff.mpr hfld

/-- No entry of the table changes. -/
theorem congr (ha : Acts c a d) (hlf : LifeInv d)
    (hslots : d.slots = c.slots) (hne : ∀ j, a ≠ .receiveFailure j) : HandshakeInv due d where
  toLifeInv := hlf
  alive := by
    intro j x hx
    rw [channelAt, hslots] at hx
    exact h.alive j x hx
  mem_due := by
    intro hal j t y ht hy hdue
    rw [hslots] at ht
    refine h.mem_due (ha.alive_of_alive hal) j t y ht hy ?_
    rcases hdue with hopen | ⟨hst, hfld⟩
    · exact .inl hopen
    · refine .inr ⟨hst, any_isFailure_iff.mp ?_⟩
      rw [← ha.any_isFailure_eq hne]
      exact any_isFailure_iff.mpr hfld

/-- An action on a channel. -/
theorem channelActs {a : ChannelAction κ} (ha : Acts c (.channel i a) d)
    (hkl : a ≠ .kill) (hdue : due ⊆ due')
    (hnew : ∀ s x, c.alive = true → c.slots[i]? = some s → s.channel = some x → s.state = .active →
      (a.effect x).flags.sentClose = true → (a.effect x).flags.receivedClose = true →
        (i, x.serial) ∈ due') : HandshakeInv due' d := by
  have hlf := h.toLifeInv.acts ha fun j x hj => nomatch hj
  have hlog := ha.any_isFailure_eq nofun
  have hacts := ha
  cases ha with
  | @channel _ s x _ hs hch hguard hact hrem =>
    have hr : Replaces c.slots (emit (setChannel c i (a.effect x)) (a.messages x)
        (a.entries x)).slots
        i (some s) { s with channel := some (a.effect x) } := by
      rw [setChannel_eq hs]
      exact Replaces.of_set hs _
    refine h.of_replaces hacts hlf hr (fun j x' _ _ => hlog x'.serial) (fun p _ hp => hdue hp)
      fun y hy => ?_
    cases hy
    refine ⟨?_, fun hal hisDue => ?_⟩
    · rw [ChannelAction.effect_alive hkl]
      exact h.alive i x (channelAt_eq_some hs hch)
    · rw [ChannelAction.effect_serial]
      rcases hisDue with ⟨hst, hsent, hrecv⟩ | ⟨hst, hfld⟩
      · exact hnew s x hal hs hch hst hsent hrecv
      · refine hdue (h.mem_due hal i s x hs hch (.inr ⟨hst, any_isFailure_iff.mp ?_⟩))
        rw [ChannelAction.effect_serial] at hfld
        rw [← hlog]
        exact any_isFailure_iff.mpr hfld

end

end HandshakeInv

namespace HandshakeInv

variable {due : Set (ℕ × ℕ)} {a : Action κ}

/-- The number of an object is given back. -/
theorem finish (h : HandshakeInv (insert (i, k) due) c) (ha : Acts c (.finish i) d) :
    HandshakeInv due d := by
  have hlf := h.toLifeInv.acts ha fun j x hj => nomatch hj
  have hlog := ha.any_isFailure_eq nofun
  have hr : ∃ s, Replaces c.slots d.slots i (some s) ⟨.free, none, none⟩ := by
    cases ha with
    | @finish _ s y hs hch =>
      refine ⟨s, ?_⟩
      rw [settle_slots]
      exact Replaces.of_set hs _
  obtain ⟨s, hr⟩ := hr
  refine h.of_replaces ha hlf hr (fun _ x _ _ => hlog x.serial) (fun p hne hp => ?_)
    fun y hy => nomatch hy
  rcases hp with rfl | hp
  · exact absurd rfl hne
  · exact hp

/-- **Actions of the program** other than CLOSE. -/
theorem acts (h : HandshakeInv due c) (ha : Acts c a d) (hloc : a.IsLocal) (hclg : ¬a.IsClosing)
    (hkl : NoKill c a) : HandshakeInv due d := by
  have hans (j : ℕ) : a ≠ .receiveFailure j := by
    rintro rfl
    exact absurd hloc id
  have hlf : LifeInv d := by
    refine h.toLifeInv.acts ha fun j x hj => ?_
    cases a with
    | receiveConfirmation | receiveFailure => exact absurd hloc id
    | _ => cases hj
  have hlog := ha.any_isFailure_eq hans
  have hacts := ha
  cases ha with
  | @channel i s x a hs hch =>
    refine h.channelActs hacts ?_ (subset_refl due) fun s' x' hal hs' hx' hst hsent hrecv => ?_
    · rintro rfl
      have hno : channelAt c i = none := hkl
      rw [channelAt_eq_some hs hch] at hno
      cases hno
    · have hne : a ≠ .sendClose := by
        rintro rfl
        exact hclg trivial
      rw [ChannelAction.effect_sentClose hne] at hsent
      rw [ChannelAction.effect_receivedClose hloc] at hrecv
      exact h.mem_due hal i s' x' hs' hx' (.inl ⟨hst, hsent, hrecv⟩)
  | openNew new type args hi =>
    refine h.of_replaces hacts hlf (Replaces.of_place hi.le_length _) (fun _ x _ _ => hlog x.serial)
      (fun p _ hp => hp) fun y hy => ?_
    cases hy
    refine ⟨rfl, fun _ hdue => ?_⟩
    rcases hdue with ⟨hst, _⟩ | ⟨_, hfld⟩
    · cases hst
    · have hlt := h.failed_lt c.nextSerial (by rw [← hlog]; exact any_isFailure_iff.mpr hfld)
      exact absurd hlt (Nat.lt_irrefl _)
  | confirm new hs =>
    refine h.of_replaces hacts hlf (Replaces.of_set hs _) (fun _ x _ _ => hlog x.serial)
      (fun p _ hp => hp) fun y hy => ?_
    cases hy
    refine ⟨rfl, fun _ hdue => ?_⟩
    rcases hdue with ⟨_, hsent, _⟩ | ⟨hst, _⟩
    · cases hsent
    · cases hst
  | deny reason msg hs =>
    exact h.of_replaces hacts hlf (Replaces.of_set hs _) (fun _ x _ _ => hlog x.serial)
      (fun p _ hp => hp) fun y hy => nomatch hy
  | @finish i s x => exact (h.mono (Set.subset_insert (i, x.serial) due)).finish hacts
  | sendGlobal | globalReply => exact h.congr hacts hlf rfl hans
  | pendingClose => exact h.congr hacts hlf (settle_slots _) hans
  | _ => exact absurd hloc id

/-! ### Closing -/

/-- **`channel_close`** after CLOSE has been received. -/
theorem channelClose_received {x : SshChannel κ} (h : HandshakeInv (insert (i, x.serial) due) c)
    (hx : channelAt c i = some x) (hsent : x.flags.sentClose = false)
    (hrecv : x.flags.receivedClose = true) :
    Ensures ChannelError.Misuse (HandshakeInv due) (channelClose c i) := by
  rw [channelClose, hx]
  dsimp only
  rw [if_neg (by rw [hsent]; simp)]
  have hguard : ChannelAction.Guard .sendClose x := hsent
  refine (writeChannel_acts hx hguard id rfl).bind fun e he => ?_
  rw [if_pos hrecv]
  have hcld : HandshakeInv (insert (i, x.serial) due) e := by
    refine h.channelActs he (by simp) (subset_refl _) fun s x' _ hs' hx' _ _ _ => ?_
    rw [channelAt_eq_some hs' hx'] at hx
    cases hx
    exact Set.mem_insert _ _
  have hxe := he.channelAt_self hx
  obtain ⟨s, hs, hch⟩ := exists_slot hxe
  have hact : s.state = .active := by
    cases he with
    | channel _ hs' hch' _ _ hrem =>
      have hsame := channelAt_eq_some hs' hch'
      rw [hx] at hsame
      cases hsame
      exact (hcld.slot i s hs).state_eq_active hch (hrem rfl)
  have hfin := channelFinished_acts hcld.toTableInv hs hch (hcld.alive i _ hxe)
    (.inl ⟨hact, rfl, hrecv⟩)
  exact hfin.of_total.mono fun f hf => hcld.finish hf

section
variable (h : HandshakeInv due c)
include h

/-- **`channel_close`**, whatever else is due. -/
theorem channelClose (i) : Ensures ChannelError.Misuse (HandshakeInv due) (channelClose c i) := by
  cases hx : channelAt c i with
  | none =>
    rw [Lsh.Channel.channelClose, hx]
    exact h
  | some x =>
    by_cases hsent : x.flags.sentClose = true
    · rw [Lsh.Channel.channelClose, hx]
      dsimp only
      rw [if_pos hsent]
      exact h
    · have hsent := Bool.eq_false_iff.mpr hsent
      by_cases hrecv : x.flags.receivedClose = true
      · exact (h.mono (Set.subset_insert _ _)).channelClose_received hx hsent hrecv
      · rw [Lsh.Channel.channelClose, hx]
        dsimp only
        rw [if_neg (by rw [hsent]; simp)]
        have hguard : ChannelAction.Guard .sendClose x := hsent
        refine (writeChannel_acts hx hguard id rfl).bind fun e he => ?_
        rw [if_neg hrecv]
        refine h.channelActs he (by simp) (subset_refl _) fun s x' _ hs' hx' _ _ hrecv' => ?_
        rw [channelAt_eq_some hs' hx'] at hx
        cases hx
        exact absurd hrecv' hrecv

theorem channelMaybeClose (i) :
    Ensures ChannelError.Misuse (HandshakeInv due) (channelMaybeClose c i) := by
  rw [Lsh.Channel.channelMaybeClose]
  cases channelAt c i with
  | none => exact h
  | some x =>
    dsimp only
    split_ifs
    · exact h.channelClose i
    · exact h

theorem channelEof (i) : Ensures ChannelError.Misuse (HandshakeInv due) (channelEof c i) := by
  rw [Lsh.Channel.channelEof]
  cases hx : channelAt c i with
  | none => exact h
  | some x =>
    dsimp only
    split_ifs with hfl
    · exact h
    · simp only [not_or, Bool.not_eq_true] at hfl
      have hguard : ChannelAction.Guard .sendEof x := hfl
      refine (writeChannel_acts hx hguard id rfl).bind fun e he => ?_
      exact (h.acts he id id trivial).channelMaybeClose i

/-! ### Calls -/

/-- **A call**, whatever is due. -/
theorem perform {op : Op κ} (hop : OpGuard NoKill c op) :
    Ensures ChannelError.Misuse (HandshakeInv due) (perform c op) := by
  have hpl (hclg : ¬op.IsClosing) :
      Ensures ChannelError.Misuse (HandshakeInv due) (Lsh.Channel.perform c op) := by
    refine (perform_steps h.toTableInv op).mono fun d hd => ?_
    refine hd.inv (fun c' a d ha hkd hc' => ?_) h
    refine hc'.acts ha hkd.isLocal (fun hcl => hclg (hkd.closing hcl)) ?_
    rcases hkd.kind with hfe | ⟨rfl, hasks⟩
    · cases a with
      | channel j a =>
        cases a with
        | kill => exact absurd hfe id
        | _ => trivial
      | _ => trivial
    · exact hop a hasks
  have hcall {x : Except ChannelError (SshConnection κ)}
      (hx : Ensures ChannelError.Misuse (HandshakeInv due) x) (hperform : performOp c op = x) :
      Ensures ChannelError.Misuse (HandshakeInv due) (Lsh.Channel.perform c op) := by
    rw [Lsh.Channel.perform]
    split_ifs
    · rw [hperform]
      exact hx
    · exact h
  cases op with
  | eof i => exact hcall (h.channelEof i) rfl
  | close i => exact hcall (h.channelClose i) rfl
  | maybeClose i => exact hcall (h.channelMaybeClose i) rfl
  | _ => exact hpl id

theorem run_perform {ops : List (Op κ)}
    (hops : Guarded Lsh.Channel.perform (OpGuard NoKill) c ops) :
    Ensures ChannelError.Misuse (HandshakeInv due) (run Lsh.Channel.perform c ops) :=
  run_of_guarded (fun _ _ hd hop => hd.perform hop) h hops

end

end HandshakeInv

/-! ### Packets -/

/-- The number that the rest of a handler looks after. -/
def After.due : After → Set (ℕ × ℕ)
  | .close i serial => {(i, serial)}
  | .finish i serial => {(i, serial)}
  | _ => ∅

namespace HandshakeInv

/-- An open request that may be answered has not been denied. -/
theorem not_isFailure {s : Slot κ} {x : SshChannel κ} (h : HandshakeInv ∅ c) (hal : c.alive)
    (hs : c.slots[i]? = some s)
    (hst : s.state = .sentOpen) (hx : s.channel = some x) :
    c.log.any (Entry.isFailure x.serial) = false := by
  by_contra hfld
  have hmem := any_isFailure_iff.mp (Bool.eq_true_of_not_eq_false hfld)
  exact h.mem_due hal i s x hs hx (.inr ⟨hst, hmem⟩)

variable {after : After}

/-- **The first action of a handler.** What it makes due, the rest of the handler looks after. -/
theorem firstActs {a : Action κ} (h : HandshakeInv ∅ c) (hal : c.alive) (ha : Acts c a d)
    (hkl : NoKill c a) (haft : a.LooksAfter c after) : HandshakeInv after.due d := by
  have hlf : LifeInv d := by
    refine h.toLifeInv.acts ha fun j x hj hx => ?_
    cases ha with
    | receiveConfirmation _ _ _ hs hst hch | receiveFailure hs hst hch =>
      cases hj
      rw [channelAt_eq_some hs hch] at hx
      cases hx
      exact h.not_isFailure hal hs hst hch
    | _ => cases hj
  have hemp : (∅ : Set (ℕ × ℕ)) ⊆ after.due := Set.empty_subset _
  by_cases hloc : a.IsLocal
  · have hclg : ¬a.IsClosing := by
      cases a with
      | channel i a =>
        cases a with
        | sendClose => exact absurd haft id
        | _ => exact id
      | _ => exact id
    exact (h.acts ha hloc hclg hkl).mono hemp
  have hacts := ha
  cases ha with
  | @channel i s x a hs hch =>
    refine h.channelActs hacts ?_ hemp fun s' x' _ hs' hx' hst hsent hrecv => ?_
    · rintro rfl
      exact hloc id
    · have hne : a ≠ .sendClose := by
        rintro rfl
        exact hloc id
      rw [ChannelAction.effect_sentClose hne] at hsent
      by_cases hcl : a = .receiveClose
      · subst hcl
        have hdue : after = .close i x'.serial := haft x' (channelAt_eq_some hs' hx')
        rw [hdue]
        exact Set.mem_singleton _
      · -- CLOSE has been received before, and sent as well
        have hsame : (a.effect x').flags.receivedClose = x'.flags.receivedClose := by
          cases a with
          | receiveClose => exact absurd rfl hcl
          | request type want args => cases want <;> rfl
          | _ => rfl
        rw [hsame] at hrecv
        exact absurd (h.mem_due hal i s' x' hs' hx' (.inl ⟨hst, hsent, hrecv⟩)) id
  | receiveOpen info hi =>
    exact h.of_replaces hacts hlf (Replaces.of_place hi.le_length _)
      (fun _ x _ _ => hacts.any_isFailure_eq nofun x.serial) (fun p _ hp => hemp hp)
      fun y hy => nomatch hy
  | @receiveConfirmation i s x remote window maxPacket hs hst hch =>
    refine h.of_replaces hacts hlf (Replaces.of_set hs _)
      (fun _ x _ _ => hacts.any_isFailure_eq nofun x.serial) (fun p _ hp => hemp hp)
      fun y hy => ?_
    cases hy
    refine ⟨h.alive i x (channelAt_eq_some hs hch), fun _ hisDue => ?_⟩
    rcases hisDue with ⟨_, hsent, _⟩ | ⟨hact, _⟩
    · have hval := h.slot i s hs
      cases hval with
      | sentOpen _ _ _ hfl =>
        cases hch
        exact nomatch hfl.sentClose.symm.trans hsent
      | _ => cases hst
    · cases hact
  | @receiveFailure i s x hs hst hch =>
    have hdue : after = .finish i x.serial := haft x (channelAt_eq_some hs hch)
    refine ⟨hlf, h.alive, fun hal j t y ht hy hisDue => ?_⟩
    rw [hdue]
    rcases hisDue with hopen | ⟨hopg, hfld⟩
    · exact absurd (h.mem_due hal j t y ht hy (.inl hopen)) id
    · rcases List.mem_append.mp hfld with hfld | hfld
      · exact absurd (h.mem_due hal j t y ht hy (.inr ⟨hopg, hfld⟩)) id
      · have hser : y.serial = x.serial :=
          Entry.receivedFailure.inj (List.mem_singleton.mp hfld)
        have hj := h.serial_inj j i y x (channelAt_eq_some ht hy) (channelAt_eq_some hs hch) hser
        rw [hj, hser]
        exact Set.mem_singleton _
  | refuse | refuseGlobal | receiveGlobalReply => exact (h.congr hacts hlf rfl nofun).mono hemp
  | _ => exact absurd trivial hloc

/-- A number that the rest of a handler looks after, when its object is not there any more. -/
theorem of_not_current {serial : ℕ} (h : HandshakeInv {(i, serial)} c)
    (hcur : ¬isCurrent c i serial) :
    HandshakeInv ∅ c := by
  refine { h with mem_due := fun hal j s x hs hx hdue => ?_ }
  have hmem := h.mem_due hal j s x hs hx hdue
  obtain ⟨rfl, rfl⟩ := hmem
  exact hcur (isCurrent_iff.mpr ⟨x, channelAt_eq_some hs hx, rfl⟩)

/-- **The rest of a handler** gives the number back. -/
theorem finishAfter (h : HandshakeInv after.due c) (hok : AfterOk c after) :
    Ensures ChannelError.Misuse (HandshakeInv ∅) (finishAfter c after) := by
  cases after with
  | done => exact h
  | maybeClose i ser =>
    rw [Lsh.Channel.finishAfter]
    split_ifs
    · exact h.channelMaybeClose i
    · exact h
  | close i ser =>
    rw [Lsh.Channel.finishAfter]
    split_ifs with hcur
    · obtain ⟨x, hc, rfl⟩ := isCurrent_iff.mp hcur
      obtain ⟨s, hs, hx⟩ := exists_slot hc
      obtain ⟨hst, hrecv⟩ := hok.2 s x hs hx rfl
      have hins : HandshakeInv (insert (i, x.serial) ∅) c := h.mono (by simp [After.due])
      rw [finishClose, hc]
      dsimp only
      split_ifs with hsent
      · have hfin := channelFinished_acts h.toTableInv hs hx (h.alive i x hc)
          (.inl ⟨hst, hsent, hrecv⟩)
        exact hfin.of_total.mono fun e he => hins.finish he
      · exact hins.channelClose_received hc (Bool.eq_false_iff.mpr hsent) hrecv
    · exact h.of_not_current hcur
  | finish i ser =>
    rw [Lsh.Channel.finishAfter]
    split_ifs with hcur
    · obtain ⟨x, hc, rfl⟩ := isCurrent_iff.mp hcur
      obtain ⟨s, hs, hx⟩ := exists_slot hc
      have hins : HandshakeInv (insert (i, x.serial) ∅) c := h.mono (by simp [After.due])
      have hfin := channelFinished_acts h.toTableInv hs hx (h.alive i x hc)
        (.inr ⟨hok.2.2 s x hs hx rfl, hok.2.1⟩)
      exact hfin.of_total.mono fun e he => hins.finish he
    · exact h.of_not_current hcur

theorem finishPacket (h : HandshakeInv after.due c) (hok : AfterOk c after) :
    Ensures ChannelError.Misuse (HandshakeInv ∅) (finishPacket c after) := by
  rw [Lsh.Channel.finishPacket]
  split_ifs with hal
  · exact h.finishAfter hok
  · exact { h with mem_due := fun hal' => absurd hal' hal }

end HandshakeInv

/-! ### Events -/

theorem noKill_of_isFree (c) (a : Action κ) (h : a.IsFree) : NoKill c a := by
  cases a with
  | channel i a =>
    cases a with
    | kill => exact absurd h id
    | _ => trivial
  | _ => trivial

namespace HandshakeInv

/-- **A packet**, with what the program does about it. -/
theorem receiveWith {pkt : Octets} {ops : List (Op κ)} (h : HandshakeInv ∅ c) (hal : c.alive)
    (hguard : EventGuard NoKill c (.receive pkt ops)) :
    Ensures ChannelError.Expected (HandshakeInv ∅) (receiveWith c pkt ops) := by
  have hpkt := receivePacket_acts h.toTableInv pkt
  rw [Lsh.Channel.receiveWith, channelPacketHandler]
  cases hr : receivePacket c pkt with
  | error e =>
    rw [hr] at hpkt
    exact .inr hpkt
  | ok res =>
    rw [hr] at hpkt
    cases res with
    | none => exact h
    | some r =>
      obtain ⟨⟨hacts, haft⟩, _⟩ := hpkt r rfl
      have hfst : HandshakeInv r.after.due r.connection := by
        rcases hacts with hsame | ⟨a, ha, hkd, hlks⟩
        · rw [hsame]
          exact h.mono (Set.empty_subset _)
        · rcases hkd with hfe | hans
          · exact h.firstActs hal ha (noKill_of_isFree c a hfe) hlks
          · exact h.firstActs hal ha (hguard.1 a hans) hlks
      -- the program, with what the rest of the handler relies on
      have hprog : Ensures ChannelError.Misuse
          (fun d => HandshakeInv r.after.due d ∧ AfterOk d r.after)
          (callProgram (fun _ c => run Lsh.Channel.perform c ops) r) := by
        rw [callProgram]
        split
        · exact ⟨hfst, haft⟩
        · have hops := hguard.2 r hr
          have hloc := run_perform_local noKill_of_isFree hfst.toTableInv hops
          exact (hfst.run_perform hops).and
            (hloc.imp (fun _ _ => trivial) fun d hd => haft.steps hd)
      have hre : Ensures ChannelError.Misuse (HandshakeInv ∅)
          (callProgram (fun _ c => run Lsh.Channel.perform c ops) r >>= fun d =>
            Lsh.Channel.finishPacket d r.after) :=
        hprog.bind fun d hd => hd.1.finishPacket hd.2
      simp only [ok_bind, bind_assoc, pure_bind, bind_pure]
      exact hre.imp (fun e he => .inl he) fun d hd => hd

/-- **An event.** -/
theorem endpointStep {event : EndpointEvent κ} (h : HandshakeInv ∅ c)
    (hguard : EventGuard NoKill c event) :
    Ensures ChannelError.Expected (HandshakeInv ∅) (endpointStep c event) := by
  cases event with
  | call op => exact (h.perform hguard).imp (fun e he => Or.inl he) fun d hd => hd
  | receive pkt ops =>
    rw [Lsh.Channel.endpointStep]
    split_ifs with hal
    · exact h.receiveWith hal hguard
    · exact h
  | notify ops =>
    rw [Lsh.Channel.endpointStep]
    split_ifs
    · refine (foreachFrom_ensures (fun _ hd => hd.toTableInv)
        (fun _ _ hd hops => hd.run_perform hops)
        h hguard).imp (fun e he => Or.inl he) fun d hd => hd
    · exact h

end HandshakeInv

/-! ### Runs -/

/-- What the life of the object `k` says about the connection. -/
def Life.Holds (c : SshConnection κ) (k : ℕ) : Life → Prop
  | unborn => c.nextSerial ≤ k
  | opening n => ∃ s x, c.slots[n]? = some s ∧ s.state = .sentOpen ∧ s.channel = some x ∧
      x.serial = k
  | denied _ => c.alive = false
  | opened n _ sentClose receivedClose =>
    (∃ s x, c.slots[n]? = some s ∧ s.state = .active ∧ s.channel = some x ∧ x.serial = k) ∧
      (c.alive = true → ¬(sentClose = true ∧ receivedClose = true))
  | gone => ∀ i x, channelAt c i = some x → x.serial ≠ k

/-- **The handshake**: what is on record about each channel object is according to the rules, and if
the connection is alive, no number is due. No two objects have the same number at the same time. -/
structure Handshake (c : SshConnection κ) : Prop where
  life : ∀ k, ∃ l, lifeOf k c.log = some l ∧ l.Holds c k
  number_inj : ∀ k k' l l' n, lifeOf k c.log = some l → lifeOf k' c.log = some l' →
    l.number = some n → l'.number = some n → k = k'

/-- The life of an object is the one of its entry. -/
theorem LifeInv.cases (h : LifeInv c) (k) :
    (∃ (i : ℕ) (s : Slot κ) (x : SshChannel κ), c.slots[i]? = some s ∧ s.channel = some x ∧
      x.serial = k ∧ lifeOf k c.log = s.life c.log i) ∨
    (∀ i x, channelAt c i = some x → x.serial ≠ k) ∧
      lifeOf k c.log = some (if k < c.nextSerial then .gone else .unborn) := by
  by_cases hk : ∀ i x, channelAt c i = some x → x.serial ≠ k
  · exact .inr ⟨hk, h.lifeOf_other k hk⟩
  · simp only [not_forall, not_not] at hk
    obtain ⟨i, x, hx, rfl⟩ := hk
    obtain ⟨s, hs, hch⟩ := exists_slot hx
    exact .inl ⟨i, s, x, hs, hch, rfl, h.lifeOf_slot i s x hs hch⟩

/-- The number in the life of an object is the number of its entry. -/
theorem LifeInv.exists_slot_of_number {l : Life} {n : ℕ} (h : LifeInv c)
    (hlf : lifeOf k c.log = some l)
    (hn : l.number = some n) :
    ∃ x, channelAt c n = some x ∧ x.serial = k := by
  rcases h.cases k with ⟨i, s, x, hs, hch, hser, heq⟩ | ⟨_, heq⟩
  · refine ⟨x, ?_, hser⟩
    rw [hlf] at heq
    have hi : i = n := by
      rw [Slot.life] at heq
      split at heq
      · split_ifs at heq <;> cases heq <;> exact Option.some.inj hn
      · cases heq
        exact Option.some.inj hn
      · cases heq
    rw [← hi]
    exact channelAt_eq_some hs hch
  · rw [hlf] at heq
    cases heq
    split_ifs at hn <;> cases hn

theorem HandshakeInv.handshake (h : HandshakeInv ∅ c) : Handshake c where
  life := by
    intro k
    rcases h.toLifeInv.cases k with ⟨i, s, x, hs, hch, rfl, heq⟩ | ⟨hk, heq⟩
    · have hval := h.slot i s hs
      cases hval with
      | free | receivedOpen => cases hch
      | sentOpen =>
        cases hch
        refine ⟨_, heq, ?_⟩
        split_ifs with hfld
        · by_contra hal
          exact h.mem_due (Bool.eq_true_of_not_eq_false hal) i _ x hs rfl
            (.inr ⟨rfl, any_isFailure_iff.mp hfld⟩)
        · exact ⟨_, x, hs, rfl, rfl, rfl⟩
      | active =>
        cases hch
        refine ⟨_, heq, ⟨_, x, hs, rfl, rfl, rfl⟩, fun hal hboth => ?_⟩
        exact h.mem_due hal i _ x hs rfl (.inl ⟨rfl, hboth⟩)
    · refine ⟨_, heq, ?_⟩
      split_ifs with hlt
      · exact hk
      · exact Nat.not_lt.mp hlt
  number_inj := by
    intro k k' l l' n hl hl' hn hn'
    obtain ⟨x, hx, rfl⟩ := h.exists_slot_of_number hl hn
    obtain ⟨x', hx', rfl⟩ := h.exists_slot_of_number hl' hn'
    rw [hx] at hx'
    cases hx'
    rfl

theorem handshakeInv_init (types reqs fallback) :
    HandshakeInv ∅ (initSshConnection types reqs fallback : SshConnection κ) where
  toEndInv := endInv_init types reqs fallback
  lifeOf_slot := fun _ _ _ hs => nomatch hs
  lifeOf_other := fun _ _ => rfl
  alive := fun _ _ hx => nomatch hx
  mem_due := fun _ _ _ _ hs => nomatch hs

/-- **The close handshake** in every run of an endpoint whose program does not kill channels that
are in the table. -/
theorem run_endpointStep_handshake (types requests : List Atom) (fallback : Bool)
    (events : List (EndpointEvent κ))
    (hguard : Guarded endpointStep (EventGuard NoKill)
      (initSshConnection types requests fallback) events) :
    Ensures (fun _ => True) Handshake
      (run endpointStep (initSshConnection types requests fallback) events) := by
  have hrun := run_of_guarded (fun _ _ hc hg => HandshakeInv.endpointStep hc hg)
    (handshakeInv_init types requests fallback) hguard
  exact hrun.imp (fun _ _ => trivial) fun d hd => hd.handshake

/-- A channel is opened, and the event handler kills it when the open request is denied. -/
def killOnDeny : List (EndpointEvent Unit) :=
  [.call (.openNew ⟨0, 0, [], false, false, 0, 0, false, false, false, ()⟩ (lshString []) []),
    .receive (Message.openFailure 0 2 (lshString [])).format [.kill 0]]

/-- The number of a channel that has been killed is not given back. -/
theorem run_endpointStep_killed :
    ∃ c, run endpointStep (initSshConnection [] [] false) killOnDeny = .ok c ∧
      c.alive = true ∧ lifeOf 0 c.log = some (.denied 0) ∧ ¬Handshake c := by
  have hchk : (run endpointStep (initSshConnection [] [] false) killOnDeny).toOption.any
      (fun c => c.alive && (lifeOf 0 c.log = some (.denied 0))) = true := by
    decide +kernel
  obtain ⟨c, hrun, hc⟩ := exists_ok_of_any hchk
  simp only [Bool.and_eq_true, decide_eq_true_eq] at hc
  obtain ⟨hal, hlf⟩ := hc
  refine ⟨c, hrun, hal, hlf, fun h => ?_⟩
  obtain ⟨l, hl, hholds⟩ := h.life 0
  rw [hlf] at hl
  cases hl
  cases hal.symm.trans hholds

/-- A channel is opened, and CLOSE goes both ways. -/
def closeBoth : List (EndpointEvent Unit) :=
  [.call (.openNew ⟨0, 0, [], false, false, 0, 0, false, false, false, ()⟩ (lshString []) []),
    .receive (Message.openConfirmation 0 5 0 0).format [.eof 0],
    .receive (Message.close 0).format [.close 0]]

theorem run_endpointStep_handshake_close :
    ((run endpointStep (initSshConnection [] [] false) closeBoth).toOption.map
      fun c => lifeOf 0 c.log) = some (some .gone) ∧
    Ensures (fun _ => True) Handshake
      (run endpointStep (initSshConnection [] [] false) closeBoth) :=
  ⟨by decide +kernel, run_endpointStep_handshake _ _ _ _ (by decide +kernel)⟩

end Lsh.Channel
