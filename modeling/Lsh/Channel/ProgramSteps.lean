
import Lsh.Channel.Program

/-!
# Invariants of programs

An invariant of the objects of a program is kept by every event if it is kept by the functions of
each kind of channel: when something arrives for a channel, when something happens on its
descriptors, and when the channel is closed. `ClassRules` lists what has to be shown for a kind of
channel, and `ProgramRules` what has to be shown for all of them together.

The calls of a program can be subject to a rule of their own, which says when a call is allowed.
Then the actions of the endpoint meet a condition.

## Main results

* `ProgramRules.of_classes` — the rules for each kind of channel are enough
* `programStep_ensures` — an event keeps the invariant, and its actions meet the condition
* `run_programStep_channels` — the invariant holds throughout every run
-/

namespace Lsh.Channel

open Machine Io Table List

/-! ### Objects of all kinds -/

/-- A case for each kind of channel. -/
def onKind {β : Type*} (forward : SshChannel Forward → β) (server : SshChannel ServerSession → β)
    (client : SshChannel ClientSession → β) (x : SshChannel App) : β :=
  match x.app with
  | .forward data => forward (x.map fun _ => data)
  | .server data => server (x.map fun _ => data)
  | .client data => client (x.map fun _ => data)

instance {β : Type} (forward : SshChannel Forward → β → Prop)
    (server : SshChannel ServerSession → β → Prop)
    (client : SshChannel ClientSession → β → Prop) [∀ x b, Decidable (forward x b)]
    [∀ x b, Decidable (server x b)] [∀ x b, Decidable (client x b)] (x : SshChannel App) (b : β) :
    Decidable (onKind forward server client x b) :=
  match happ : x.app with
  | .forward data => decidable_of_iff (forward (x.map fun _ => data) b) (by rw [onKind, happ])
  | .server data => decidable_of_iff (server (x.map fun _ => data) b) (by rw [onKind, happ])
  | .client data => decidable_of_iff (client (x.map fun _ => data) b) (by rw [onKind, happ])

section Map

variable {κ κ' : Type} {x y : SshChannel κ} (g : κ → κ') {notice : Option Notice}

theorem Closes.map (h : Closes x y) : Closes (x.map g) (y.map g) := by
  obtain ⟨sentClose, sentEof, rfl, hcl, heof⟩ := h
  exact ⟨sentClose, sentEof, rfl, hcl, heof⟩

theorem Closes.app_eq (h : Closes x y) : y.app = x.app := by
  obtain ⟨_, _, rfl, _⟩ := h
  rfl

theorem Arrives.app_eq (h : Arrives x y notice) : y.app = x.app := by
  cases h <;> rfl

theorem Arrives.map (h : Arrives x y notice) : Arrives (x.map g) (y.map g) notice := by
  cases h with
  | adjust size hguard => exact .adjust (x := x.map g) size hguard
  | data err htk hdata hle => exact .data (x := x.map g) err htk hdata hle
  | eof hguard => exact .eof (x := x.map g) hguard
  | close hguard => exact .close (x := x.map g) hguard
  | confirm remote window maxPacket hrem hfl =>
    exact .confirm (x := x.map g) remote window maxPacket hrem hfl
  | deny hrem => exact .deny (x := x.map g) hrem
  | reply success hpen => exact .reply (x := x.map g) success hpen
  | request type want args hhs =>
    exact .request (x := x.map g) type want args hhs
  | unhandled => exact .unhandled
  | stop => exact .stop
  | start => exact .start

end Map

/-- A new object, as it is put into the table. -/
def fresh {κ : Type} (new : NewChannel κ) (info : Option OpenInfo) (serial i : ℕ) : SshChannel κ :=
  { initChannel new info with serial := serial, localChannelNumber := i }

/-- The new objects of programs, and the open request of the other end if they answer one. There is
a condition on the displays of X11 channels. -/
inductive Opens (D : ClientX11Display → Prop) : NewChannel App → Option OpenInfo → Prop where
  | forward (socket : ℕ) (info : Option OpenInfo) :
      Opens D ((makeChannelForward socket tcpipWindowSize).map .forward) info
  | socks {env : SocksEnv} {fd : ℕ} {inputs : List SocksInput} {new : NewChannel Forward}
      {target : SocksTarget} (h : socksHandshake env fd inputs = .ok (some (new, target))) :
      Opens D (new.map .forward) none
  | x11 (fd : ℕ) {display : ClientX11Display} (h : D display) (info : OpenInfo) :
      Opens D ((makeClientX11Channel fd display).map .forward) (some info)
  | server (requestTypes : List Atom) (info : OpenInfo) :
      Opens D ((makeServerSession sessionWindowSize requestTypes).map .server) (some info)
  | client (input out err : ℕ) (pty : Option Octets) (x11 : Bool)
      (command : Option (Atom × LshString)) (escape : Option UInt8) :
      Opens D ((makeClientSessionChannel input out err (sessionActions pty x11 command) escape
        sessionWindowSize).map .client) none

/-! ### Rules -/

section Rules

variable {κ : Type}

/-- What the functions of a kind of channel have to keep. `T` says when a call is allowed, `N` what
the program may be told, and `A` what may happen on the descriptors. -/
structure ClassRules (C : ChannelClass κ) (I : SshChannel κ → Prop)
    (T : SshChannel κ → Call κ → Prop) (N : SshChannel κ → Notice → Prop)
    (A : SshChannel κ → Activity → Prop) : Prop where
  closes : ∀ {x y}, Closes x y → I x → I y
  silent : ∀ {x y}, Arrives x y none → I x → I y
  notice : ∀ {x y n}, Arrives x y (some n) → I x → N y n → ∀ sys,
    Ensures (fun _ => True) (fun t : Turn y => I t.channel ∧ t.Obeys T) (C.notice sys n ⟨[]⟩)
  activity : ∀ {x a}, I x → A x a →
    Ensures (fun _ => True) (fun t : Turn x => I t.channel ∧ t.Obeys T) (C.activity a ⟨[]⟩)

/-- The same for the channels of a connection. -/
structure ProgramRules (I : SshChannel App → Prop) (T : SshChannel App → Call App → Prop)
    (N : SshChannel App → Notice → Prop) (A : SshChannel App → Activity → Prop)
    (D : ClientX11Display → Prop) : Prop where
  closes : ∀ {x y}, Closes x y → I x → I y
  silent : ∀ {x y}, Arrives x y none → I x → I y
  notice : ∀ {x y n}, Arrives x y (some n) → I x → N y n → ∀ sys,
    Ensures (fun _ => True) (fun calls => I (calls.foldl SshChannel.after y) ∧ Obeys T y calls)
      (noticeCalls sys n y)
  activity : ∀ {x a}, I x → A x a →
    Ensures (fun _ => True) (fun calls => I (calls.foldl SshChannel.after x) ∧ Obeys T x calls)
      (activityCalls a x)
  opens : ∀ {new info}, Opens D new info → ∀ serial i, I (fresh new info serial i)
  startIo : ∀ {x : SshChannel Forward} {socket : ℕ} {info : OpenInfo} {serial i : ℕ},
    x = fresh (makeChannelForward socket tcpipWindowSize) (some info) serial i →
    I ((channelForwardStartIo (x := x) ⟨[]⟩).channel.map .forward) ∧
      Obeys T (x.map .forward) ((channelForwardStartIo (x := x) ⟨[]⟩).calls.map (Call.map .forward))

variable {T : SshChannel κ → Call κ → Prop} {x : SshChannel κ}

theorem obeys_true (t : Turn x) : t.Obeys fun _ _ => True := by
  have hcas (x : SshChannel κ) (calls : List (Call κ)) : Obeys (fun _ _ => True) x calls := by
    induction calls generalizing x with
    | nil => trivial
    | cons call calls ih => exact ⟨trivial, ih _⟩
  exact ⟨hcas x t.calls⟩

theorem Leaves.obeys {I : SshChannel κ → Prop} {ε : Type} {f : Except ε (Turn x)} (h : Leaves I f) :
    Returns (fun t : Turn x => I t.channel ∧ t.Obeys fun _ _ => True) f :=
  h.mono fun t ht => ⟨ht, obeys_true t⟩

variable {T' : SshChannel App → Call App → Prop}

theorem Obeys.map {g : κ → App} (hT : ∀ x call, T x call → T' (x.map g) (call.map g))
    {calls : List (Call κ)} (h : Obeys T x calls) :
    Obeys T' (x.map g) (calls.map (Call.map g)) := by
  induction calls generalizing x with
  | nil => trivial
  | cons call calls ih =>
    refine ⟨hT x call h.1, ?_⟩
    rw [SshChannel.map_after]
    exact ih h.2

/-- What a function does for its kind of channel is what it does for the connection. -/
theorem calls_ensures {C : ChannelClass κ}
    (hT : ∀ x call, T x call → T' (x.map C.app) (call.map C.app))
    {I : SshChannel κ → Prop} {I' : SshChannel App → Prop} (hI : ∀ x, I x → I' (x.map C.app))
    {x : SshChannel App} {data : κ} (hx : x.app = C.app data)
    {f : Turn (x.map fun _ => data) → Except ProgramError (Turn (x.map fun _ => data))}
    (hf : Returns (fun t => I t.channel ∧ t.Obeys T) (f ⟨[]⟩)) :
    Returns (fun calls => I' (calls.foldl SshChannel.after x) ∧ Obeys T' x calls)
      (C.calls x data f) := by
  have hself : (x.map fun _ => data).map C.app = x := by
    show x.map (fun _ => C.app data) = x
    rw [← hx]
    rfl
  refine hf.bind fun t ht => ?_
  obtain ⟨hinv, hob⟩ := ht
  constructor
  · nth_rewrite 1 [← hself]
    rw [SshChannel.map_foldl_after]
    exact hI _ hinv
  · have hmap := hob.calls.map hT
    rwa [hself] at hmap

variable {T : ∀ {κ : Type}, SshChannel κ → Call κ → Prop} {D : ClientX11Display → Prop}

/-- **Rules for each kind of channel are rules for all channels.** What is left are the new
objects. -/
theorem ProgramRules.of_classes {If : SshChannel Forward → Prop}
    {Nf : SshChannel Forward → Notice → Prop} {Af : SshChannel Forward → Activity → Prop}
    {Is : SshChannel ServerSession → Prop} {Ns : SshChannel ServerSession → Notice → Prop}
    {As : SshChannel ServerSession → Activity → Prop} {Ic : SshChannel ClientSession → Prop}
    {Nc : SshChannel ClientSession → Notice → Prop}
    {Ac : SshChannel ClientSession → Activity → Prop}
    (hT : ∀ {κ κ' : Type} (g : κ → κ') x call, T x call → T (x.map g) (call.map g))
    (hf : ClassRules forwardClass If T Nf Af) (hs : ClassRules serverClass Is T Ns As)
    (hc : ClassRules clientClass Ic T Nc Ac)
    (hops : ∀ {new info}, Opens D new info → ∀ ser i, onKind If Is Ic (fresh new info ser i))
    (hstr : ∀ {x : SshChannel Forward} {sock : ℕ} {info : OpenInfo} {ser i : ℕ},
      x = fresh (makeChannelForward sock tcpipWindowSize) (some info) ser i →
      If (channelForwardStartIo (x := x) ⟨[]⟩).channel ∧
        (channelForwardStartIo (x := x) ⟨[]⟩).Obeys T) :
    ProgramRules (onKind If Is Ic) T (onKind Nf Ns Nc) (onKind Af As Ac) D where
  closes {x y} hcls hx := by
    rw [onKind] at hx ⊢
    rw [hcls.app_eq]
    cases happ : x.app with
    | forward data => rw [happ] at hx; exact hf.closes (hcls.map _) hx
    | server data => rw [happ] at hx; exact hs.closes (hcls.map _) hx
    | client data => rw [happ] at hx; exact hc.closes (hcls.map _) hx
  silent {x y} harr hx := by
    rw [onKind] at hx ⊢
    rw [harr.app_eq]
    cases happ : x.app with
    | forward data => rw [happ] at hx; exact hf.silent (harr.map _) hx
    | server data => rw [happ] at hx; exact hs.silent (harr.map _) hx
    | client data => rw [happ] at hx; exact hc.silent (harr.map _) hx
  notice {x y n} harr hx hn sys := by
    rw [onKind] at hx hn
    rw [noticeCalls]
    rw [← harr.app_eq] at hx
    cases happ : y.app with
    | forward data =>
      rw [happ] at hx hn
      exact calls_ensures (fun x call => hT _ x call) (fun x hx => hx) happ
        (hf.notice (harr.map _) hx hn sys)
    | server data =>
      rw [happ] at hx hn
      exact calls_ensures (fun x call => hT _ x call) (fun x hx => hx) happ
        (hs.notice (harr.map _) hx hn sys)
    | client data =>
      rw [happ] at hx hn
      exact calls_ensures (fun x call => hT _ x call) (fun x hx => hx) happ
        (hc.notice (harr.map _) hx hn sys)
  activity {x a} hx ha := by
    rw [onKind] at hx ha
    rw [activityCalls]
    cases happ : x.app with
    | forward data =>
      rw [happ] at hx ha
      exact calls_ensures (fun x call => hT _ x call) (fun x hx => hx) happ (hf.activity hx ha)
    | server data =>
      rw [happ] at hx ha
      exact calls_ensures (fun x call => hT _ x call) (fun x hx => hx) happ (hs.activity hx ha)
    | client data =>
      rw [happ] at hx ha
      exact calls_ensures (fun x call => hT _ x call) (fun x hx => hx) happ (hc.activity hx ha)
  opens := hops
  startIo hx := ⟨(hstr hx).1, (hstr hx).2.calls.map fun x call => hT _ x call⟩

end Rules

/-! ### Events -/

variable {ops : List (Op App)}

section Events

variable {I : SshChannel App → Prop} {T : SshChannel App → Call App → Prop}
  {P : SshConnection App → Action App → Prop} {c d : SshConnection App} {i : ℕ}
  {x y : SshChannel App} {calls : List (Call App)}

/-- All objects in the table satisfy a predicate. -/
def AllChannels (I : SshChannel App → Prop) (c : SshConnection App) : Prop :=
  ∀ i x, channelAt c i = some x → I x

theorem AllChannels.closesOnly (h : AllChannels I c) (hI : ∀ {x y}, Closes x y → I x → I y)
    (hcls : ClosesOnly c d) : AllChannels I d := by
  intro j y hy
  obtain ⟨x, hx, hxy⟩ := hcls j y hy
  exact hI hxy (h j x hx)

/-- Nothing happens on a connection that has been killed. -/
theorem run_perform_of_dead (hdd : c.alive = false) (ops) : run perform c ops = .ok c := by
  induction ops with
  | nil => rfl
  | cons op ops ih =>
    have hop : perform c op = .ok c := by
      rw [perform, if_neg (by simp [hdd])]
    rw [run_cons_ok hop]
    exact ih

/-- The table is all right after calls. -/
theorem run_perform_tableInv (h : TableInv c) (ops) : Returns TableInv (run perform c ops) := by
  have hguard : Guarded perform (OpGuard fun _ _ => True) c ops :=
    guarded_of_forall (fun _ _ _ _ _ => trivial) c
  exact (run_perform_local (fun _ _ _ => trivial) h hguard).imp (fun _ _ => trivial)
    fun d hd => h.steps hd

/-- The calls of a channel keep the invariant if it holds of the object after them. -/
theorem run_calls_channels (htab : TableInv c) (hal : c.alive = true)
    (hx : channelAt c i = some x) (hots : ∀ j y, j ≠ i → channelAt c j = some y → I y)
    (hcas : I (calls.foldl SshChannel.after x)) :
    Returns
      (fun d => TableInv d ∧ AllChannels I d ∧ ∀ j, j ≠ i → channelAt d j = channelAt c j)
      (run perform c (calls.map (Call.op i))) := by
  have how := (run_perform_owns htab hal hx calls).imp (fun _ _ => trivial) fun d hd => hd
  refine ((run_perform_tableInv htab _).and how).mono fun d hd =>
    ⟨hd.1, fun j y hy => ?_, hd.2.others⟩
  by_cases hj : j = i
  · subst hj
    rcases hd.2.own with hno | ⟨hsome, _⟩
    · rw [hno] at hy
      cases hy
    · rw [hsome] at hy
      cases hy
      exact hcas
  · rw [hd.2.others j hj] at hy
    exact hots j y hj hy

/-- A condition on actions that holds of those that are always allowed, of those that are not about
a channel, and of those that allowed calls lead to. -/
structure Meets (T : SshChannel App → Call App → Prop) (P : SshConnection App → Action App → Prop) :
    Prop where
  free : ∀ c a, a.IsFree → P c a
  global : ∀ c a, (∀ i b, a ≠ .channel i b) → P c a
  call : ∀ c i call a, (∀ x, channelAt c i = some x → T x call) → (call.op i).action = some a →
    P c a

/-- Calls that are allowed lead to actions that meet the condition. -/
theorem guarded_of_obeys (hP : Meets T P) (htab : TableInv c) (hal : c.alive = true)
    (hob : ∀ x, channelAt c i = some x → Obeys T x calls) :
    Guarded perform (OpGuard P) c (calls.map (Call.op i)) := by
  induction calls generalizing c with
  | nil => trivial
  | cons call calls ih =>
    refine ⟨fun a ha => hP.call c i call a (fun x hx => (hob x hx).1) ha, fun d hd => ?_⟩
    have htab' : TableInv d := by
      have hsts := perform_steps htab (call.op i)
      rw [hd] at hsts
      exact htab.steps hsts
    cases hx : channelAt c i with
    | none =>
      have hsame := perform_of_none htab hx call
      rw [hd] at hsame
      obtain rfl : d = c := hsame
      exact ih htab hal fun x hx' => by rw [hx] at hx'; cases hx'
    | some x =>
      have hprf := perform_performs htab hal i call
      rw [hd] at hprf
      obtain ⟨_, hown⟩ : Owns c d i (x.after call) := Performs.owns hprf x hx
      rcases hown with hno | ⟨hsom, hal'⟩
      · -- the channel is gone, and with it what is said about it
        have hgn (calls : List (Call App)) :
            Guarded perform (OpGuard P) d (calls.map (Call.op i)) := by
          induction calls with
          | nil => trivial
          | cons call calls ih =>
            refine ⟨fun a ha => hP.call d i call a (fun x hx => by rw [hno] at hx; cases hx) ha,
              fun e he => ?_⟩
            have hsame := perform_of_none htab' hno call
            rw [he] at hsame
            obtain rfl : e = d := hsame
            exact ih
        exact hgn calls
      · refine ih htab' (hal'.trans hal) fun y hy => ?_
        rw [hsom] at hy
        cases hy
        exact (hob x hx).2

/-- The calls that do not concern a channel with an object. -/
inductive Op.IsGlobal (D : ClientX11Display → Prop) : Op App → Prop where
  | openNew {new : NewChannel App} (h : Opens D new none) (type : LshString) (args : Octets) :
      IsGlobal D (.openNew new type args)
  | confirm (i : ℕ) {new : NewChannel App} (h : ∀ info, Opens D new (some info)) :
      IsGlobal D (.confirm i new)
  | deny (i : ℕ) (reason : UInt32) (msg : LshString) : IsGlobal D (.deny i reason msg)
  | sendGlobalRequest (type : Atom) (state : Option ℕ) (args : Octets) :
      IsGlobal D (.sendGlobalRequest type state args)
  | globalReply (wantReply result : Bool) : IsGlobal D (.globalReply wantReply result)
  | pendingClose : IsGlobal D .pendingClose

theorem channelOpenNewType_channels (htab : TableInv c) (new type) (args : Octets) :
    Returns
      (fun d => ∀ j y, channelAt d j = some y → channelAt c j = some y ∨
        y = fresh new none c.nextSerial j)
      (channelOpenNewType c new type args) := by
  refine (allocChannel_ensures htab .sentOpen).of_total.bind fun r hr => ?_
  obtain ⟨index, d⟩ := r
  cases index with
  | none =>
    obtain ⟨rfl, _⟩ := hr
    exact fun j y hy => .inl hy
  | some i =>
    obtain ⟨hi, rfl⟩ := hr
    have hpl : Replaces c.slots (allot c i ⟨.sentOpen, none, none⟩).slots i c.slots[i]?
        ⟨.sentOpen, none, none⟩ := Replaces.of_place hi.le_length _
    have hs := hpl.getElem?_self
    dsimp only
    rw [registerChannel_eq hs (by simp) rfl]
    intro j y hy
    have hr : Replaces (allot c i ⟨.sentOpen, none, none⟩).slots
        ((allot c i ⟨.sentOpen, none, none⟩).slots.set i
          ⟨.sentOpen, some (fresh new none c.nextSerial i), none⟩) i (some ⟨.sentOpen, none, none⟩)
        ⟨.sentOpen, some (fresh new none c.nextSerial i), none⟩ := Replaces.of_set hs _
    have hy' := (channelAt_of_replaces hr).symm.trans hy
    by_cases hj : j = i
    · rw [if_pos hj] at hy'
      cases hy'
      exact .inr (by rw [hj])
    · rw [if_neg hj, channelAt_of_replaces hpl, if_neg hj] at hy'
      exact .inl hy'

theorem channelOpenConfirm_owns (c i) (new : NewChannel App) :
    Returns
      (fun d => d.alive = c.alive ∧ ∃ info, ∀ j, channelAt d j =
        if j = i then some (fresh new (some info) c.nextSerial i) else channelAt c j)
      (channelOpenConfirm c i new) := by
  rw [channelOpenConfirm]
  split
  · rename_i info hs
    dsimp only
    rw [registerChannel_eq hs (by simp) rfl, ok_bind]
    have hr : Replaces c.slots (c.slots.set i
        ⟨.receivedOpen, some (fresh new (some info) c.nextSerial i), some info⟩) i
        (some ⟨.receivedOpen, none, some info⟩)
        ⟨.receivedOpen, some (fresh new (some info) c.nextSerial i), some info⟩ :=
      Replaces.of_set hs _
    rw [activateChannel_eq hr.getElem?_self (by simp) rfl]
    refine ⟨rfl, info, fun j => ?_⟩
    have hact := channelAt_of_replaces (c := { c with slots := _ }) (d := { c with slots := _ })
      (j := j) (Replaces.of_set hr.getElem?_self
        ⟨.active, some (fresh new (some info) c.nextSerial i), none⟩)
    refine hact.trans ?_
    have hold := channelAt_of_replaces (c := c) (d := { c with slots := _ }) (j := j) hr
    rw [hold]
    split_ifs <;> rfl
  · trivial

variable {D : ClientX11Display → Prop}

/-- Such a call keeps the invariant if it holds of new objects. -/
theorem AllChannels.perform_global {op : Op App} (h : AllChannels I c) (htab : TableInv c)
    (hop : op.IsGlobal D)
    (hops : ∀ {new info}, Opens D new info → ∀ ser i, I (fresh new info ser i)) :
    Returns (AllChannels I) (perform c op) := by
  rw [perform]
  split_ifs
  · cases hop with
    | openNew hnew type args =>
      refine (channelOpenNewType_channels htab _ type args).mono fun d hd j y hy => ?_
      rcases hd j y hy with hold | rfl
      · exact h j y hold
      · exact hops hnew _ _
    | confirm i hnew =>
      refine (channelOpenConfirm_owns c i _).mono fun d hd j y hy => ?_
      obtain ⟨_, info, hchs⟩ := hd
      rw [hchs] at hy
      split_ifs at hy
      · cases hy
        exact hops (hnew info) _ _
      · exact h j y hy
    | deny i reason msg =>
      show Ensures _ _ (channelOpenDeny c i reason msg)
      rw [channelOpenDeny]
      split
      · rename_i info hs
        rw [deallocChannel_eq hs (htab.count_pos hs (by simp)) (by simp)]
        intro j y hy
        have hr : Replaces c.slots (c.slots.set i ⟨.free, none, none⟩) i
            (some ⟨.receivedOpen, none, some info⟩) ⟨.free, none, none⟩ := Replaces.of_set hs _
        have hy' := (channelAt_of_replaces hr).symm.trans hy
        split_ifs at hy'
        exact h j y hy'
      · trivial
    | sendGlobalRequest type st args => exact h
    | globalReply want res =>
      cases want with
      | true | false => exact h
    | pendingClose =>
      have hslots : (sshConnectionPendingClose c).slots = c.slots := by
        rw [sshConnectionPendingClose]
        split_ifs <;> rfl
      intro j y hy
      rw [channelAt, hslots] at hy
      exact h j y hy
  · exact h

theorem AllChannels.run_global (h : AllChannels I c) (htab : TableInv c)
    (hops : ∀ op ∈ ops, op.IsGlobal D)
    (hopens : ∀ {new info}, Opens D new info → ∀ ser i, I (fresh new info ser i)) :
    Returns (fun d => TableInv d ∧ AllChannels I d) (run perform c ops) := by
  have hguard : Guarded perform (fun _ op => op.IsGlobal D) c ops := guarded_of_forall
    (fun op hop _ => hops op hop) c
  refine run_of_guarded (fun d op hd hop => ?_) ⟨htab, h⟩ hguard
  have htab' : Returns TableInv (perform d op) :=
    (perform_steps hd.1 op).imp (fun _ _ => trivial) fun e he => hd.1.steps he
  exact htab'.and (hd.2.perform_global hd.1 hop hopens)

/-- Such calls lead to actions that meet a condition on the actions on channels. -/
theorem guarded_of_global (hP : ∀ c a, (∀ i b, a ≠ .channel i b) → P c a)
    (hops : ∀ op ∈ ops, op.IsGlobal D) : Guarded perform (OpGuard P) c ops := by
  refine guarded_of_forall (fun op hop d a ha => hP d a ?_) c
  rintro i b rfl
  cases hops op hop <;> cases ha

end Events

theorem ofChannel_ensures {α : Type} {Q : α → Prop} {r : Except ChannelError α}
    (h : Returns Q r) : Returns Q (ofChannel r) := by
  cases r with
  | ok a => exact h
  | error e => trivial

/-! ### Runs -/

/-- What an event brings to the channels meets the conditions of the rules. -/
def ProgramGuard (N : SshChannel App → Notice → Prop) (A : SshChannel App → Activity → Prop)
    (D : ClientX11Display → Prop) (P : SshConnection App → Action App → Prop)
    (c : SshConnection App) : ProgramEvent → Prop
  | .receive packet _ =>
    (∀ a ∈ answer c packet, P c a) ∧
      match receivePacket c packet with
      | .ok (some r) => ∀ p ∈ r.callback.bind Callback.notice, ∀ y ∈ channelAt r.connection p.1,
          N y p.2
      | _ => True
  | .activity i a => ∀ x ∈ channelAt c i, A x a
  | .stop => ∀ i < c.slots.length, ∀ x ∈ channelAt c i, N x (.event .stop)
  | .start => ∀ i < c.slots.length, ∀ x ∈ channelAt c i, N x (.event .start)
  | .x11Connected _ _ display => D display
  | _ => True

section Decidable

variable {N : SshChannel App → Notice → Prop} {A : SshChannel App → Activity → Prop}
  {D : ClientX11Display → Prop} {P : SshConnection App → Action App → Prop}
  [∀ x n, Decidable (N x n)] [∀ x a, Decidable (A x a)] [∀ display, Decidable (D display)]
  [∀ c a, Decidable (P c a)]

instance (c : SshConnection App) (event : ProgramEvent) :
    Decidable (ProgramGuard N A D P c event) :=
  match event with
  | .receive packet sys =>
    match hr : receivePacket c packet with
    | .ok (some r) =>
      decidable_of_iff ((∀ a ∈ answer c packet, P c a) ∧
        ∀ p ∈ r.callback.bind Callback.notice, ∀ y ∈ channelAt r.connection p.1, N y p.2)
        (by rw [ProgramGuard, hr])
    | .ok none => decidable_of_iff (∀ a ∈ answer c packet, P c a)
        (by rw [ProgramGuard, hr]; exact (and_iff_left trivial).symm)
    | .error _ => decidable_of_iff (∀ a ∈ answer c packet, P c a)
        (by rw [ProgramGuard, hr]; exact (and_iff_left trivial).symm)
  | .activity i a => inferInstanceAs (Decidable (∀ x ∈ channelAt c i, A x a))
  | .stop => inferInstanceAs
      (Decidable (∀ i < c.slots.length, ∀ x ∈ channelAt c i, N x (.event .stop)))
  | .start => inferInstanceAs
      (Decidable (∀ i < c.slots.length, ∀ x ∈ channelAt c i, N x (.event .start)))
  | .x11Connected _ _ display => inferInstanceAs (Decidable (D display))
  | .accept _ _ _ => isTrue trivial
  | .socks _ _ _ _ => isTrue trivial
  | .session _ _ _ _ _ _ _ => isTrue trivial
  | .connected _ _ => isTrue trivial
  | .deny _ _ _ => isTrue trivial
  | .sendGlobalRequest _ _ _ => isTrue trivial
  | .globalReply _ _ => isTrue trivial
  | .pendingClose => isTrue trivial

end Decidable

section Runs

variable {I : SshChannel App → Prop} {T : SshChannel App → Call App → Prop}
  {D : ClientX11Display → Prop} {P : SshConnection App → Action App → Prop}
  {c d : SshConnection App} {i : ℕ}

/-- The program sets its fields. -/
def Call.IsUpdate {κ : Type} : Call κ → Prop
  | .update _ => True
  | _ => False

theorem forall_of_obeys {κ : Type} {Q : Call κ → Prop} {x : SshChannel κ} {calls : List (Call κ)}
    (h : Obeys (fun _ call => Q call) x calls) : ∀ call ∈ calls, Q call := by
  induction calls generalizing x with
  | nil => simp
  | cons first calls ih => exact List.forall_mem_cons.mpr ⟨h.1, ih h.2⟩

variable {e : ChannelEvent}

theorem forwardEvent_update {x : SshChannel Forward} (t) (he : e = .stop ∨ e = .start)
    (ht : t.Obeys fun _ call => call.IsUpdate) :
    Returns (fun t : Turn x => t.Obeys fun _ call => call.IsUpdate) (forwardEvent t e) := by
  rcases he with rfl | rfl
  · exact (t.obeys_call _).mpr ⟨ht, trivial⟩
  · show (channelForwardStartRead t).Obeys _
    rw [channelForwardStartRead]
    split_ifs
    · exact (t.obeys_call _).mpr ⟨ht, trivial⟩
    · exact ht

/-- The calls for STOP and START only set fields of the program. -/
theorem noticeCalls_update (sys : System) (he : e = .stop ∨ e = .start) (x : SshChannel App) :
    Returns (fun calls => ∀ call ∈ calls, call.IsUpdate) (noticeCalls sys (.event e) x) := by
  have hlift {κ : Type} {C : ChannelClass κ} {data : κ} (hx : x.app = C.app data)
      (hC : Returns
        (fun t : Turn (x.map fun _ => data) => t.Obeys fun _ call => call.IsUpdate)
        (C.notice sys (.event e) ⟨[]⟩)) :
      Returns (fun calls => ∀ call ∈ calls, call.IsUpdate)
        (C.calls x data (C.notice sys (.event e))) := by
    have hmap : ∀ (y : SshChannel κ) (call : Call κ), call.IsUpdate →
        (call.map C.app).IsUpdate := by
      intro y call hcall
      cases call with
      | update u => trivial
      | _ => exact hcall.elim
    exact (@calls_ensures κ (fun _ call => call.IsUpdate) (fun _ call => call.IsUpdate) C hmap
      (fun _ => True) (fun _ => True) (fun _ _ => trivial) x data hx _
      (hC.mono fun t ht => ⟨trivial, ht⟩)).mono fun calls hcas => forall_of_obeys hcas.2
  rw [noticeCalls]
  cases happ : x.app with
  | forward data =>
    refine hlift happ ?_
    have hstr : (⟨[]⟩ : Turn (x.map fun _ => data)).Obeys fun _ call => call.IsUpdate :=
      Turn.obeys_nil _
    rcases he with rfl | rfl
    · exact forwardClass_event (fun _ _ => forwardEvent_update _ (.inl rfl) hstr)
        (forwardEvent_update _ (.inl rfl) hstr)
    · exact forwardClass_event (fun _ _ => forwardEvent_update _ (.inr rfl) hstr)
        (forwardEvent_update _ (.inr rfl) hstr)
  | server data =>
    refine hlift happ ?_
    rcases he with rfl | rfl
    · exact (Turn.obeys_call _ _).mpr ⟨Turn.obeys_nil _, trivial⟩
    · show Turn.Obeys _ (if _ then serverSendAdjust _ else _)
      split_ifs
      · exact (Turn.obeys_call _ _).mpr ⟨Turn.obeys_nil _, trivial⟩
      · exact Turn.obeys_nil _
  | client data =>
    refine hlift happ ?_
    rcases he with rfl | rfl
    · exact (Turn.obeys_call _ _).mpr ⟨Turn.obeys_nil _, trivial⟩
    · show Turn.Obeys _ (if _ then clientSendAdjust _ else _)
      split_ifs
      · exact (Turn.obeys_call _ _).mpr ⟨Turn.obeys_nil _, trivial⟩
      · exact Turn.obeys_nil _

variable {x : SshChannel App}

theorem mem_channelAt_lt (hx : channelAt c i = some x) : i < c.slots.length := by
  obtain ⟨slot, hs, _⟩ := exists_slot hx
  exact (List.getElem?_eq_some_iff.mp hs).1

variable {N : SshChannel App → Notice → Prop} {A : SshChannel App → Activity → Prop}

/-- The calls for an event that concerns all channels, for one of them. -/
theorem notifyOps_cases (R : ProgramRules I T N A D) (he : e = .stop ∨ e = .start)
    (hx : channelAt c i = some x) (hI : I x) (hn : N x (.event e)) :
    ∃ calls : List (Call App), notifyOps c e i = calls.map (Call.op i) ∧
      I (calls.foldl SshChannel.after x) ∧ ∀ call ∈ calls, call.IsUpdate := by
  have harr : Arrives x x (some (.event e)) := by
    rcases he with rfl | rfl
    · exact .stop
    · exact .start
  have hnot := (R.notice harr hI hn idleSystem).and (noticeCalls_update idleSystem he x)
  rw [notifyOps, channelOps, hx]
  dsimp only
  cases hcas : noticeCalls idleSystem (.event e) x with
  | error _ => exact ⟨[], rfl, hI, by simp⟩
  | ok calls =>
    rw [hcas] at hnot
    exact ⟨calls, rfl, hnot.1.1, hnot.2⟩

/-- STOP and START keep the invariant. Each channel is as it was when the calls for it are made. -/
theorem foreachFrom_channels {fuel : ℕ} (R : ProgramRules I T N A D) (he : e = .stop ∨ e = .start)
    (hI : AllChannels I c) (hn : ∀ j x, channelAt c j = some x → N x (.event e)) (htab : TableInv d)
    (hd : AllChannels I d) (hsame : ∀ j, i ≤ j → channelAt d j = channelAt c j) :
    Returns (fun d => TableInv d ∧ AllChannels I d)
      (foreachFrom (fun i c' => run perform c' (notifyOps c e i)) fuel i d) := by
  induction fuel generalizing i d with
  | zero => exact ⟨htab, hd⟩
  | succ fuel ih =>
    rw [foreachFrom]
    cases hs : d.slots[i]? with
    | none => exact ⟨htab, hd⟩
    | some s =>
      dsimp only
      split_ifs with hst
      · have hsom := htab.isSome_of_active hs hst
        obtain ⟨x, hch⟩ := Option.isSome_iff_exists.mp hsom
        have hxd := channelAt_eq_some hs hch
        have hxc : channelAt c i = some x := (hsame i (Nat.le_refl i)).symm.trans hxd
        obtain ⟨calls, hops, hcas, _⟩ := notifyOps_cases R he hxc (hI i x hxc) (hn i x hxc)
        rw [require_of hsom, hops]
        cases hal : d.alive with
        | false =>
          rw [run_perform_of_dead hal]
          exact ih htab hd fun j hj => hsame j (by omega)
        | true =>
          refine (run_calls_channels htab hal hxd (fun j y _ hy => hd j y hy) hcas).bind
            fun d' hd' => ?_
          obtain ⟨htab', hall', hots⟩ := hd'
          refine ih htab' hall' fun j hj => ?_
          rw [hots j (by omega), hsame j (by omega)]
      · exact ih htab hd fun j hj => hsame j (by omega)

/-- The actions of STOP and START meet every condition. -/
theorem notifyGuard_notifyOps (c) (he : e = .stop ∨ e = .start) (fuel i d) :
    NotifyGuard P (notifyOps c e) fuel i d := by
  have hno (i : ℕ) (op : Op App) (hop : op ∈ notifyOps c e i) : op.action = none := by
    rw [notifyOps, channelOps] at hop
    cases hx : channelAt c i with
    | none =>
      rw [hx] at hop
      cases hop
    | some x =>
      have hupd := noticeCalls_update idleSystem he x
      rw [hx] at hop
      dsimp only at hop
      cases hcas : noticeCalls idleSystem (.event e) x with
      | error _ =>
        rw [hcas] at hop
        cases hop
      | ok calls =>
        rw [hcas] at hop hupd
        obtain ⟨call, hcall, rfl⟩ := List.mem_map.mp hop
        have hcall := hupd call hcall
        cases call with
        | update u => rfl
        | _ => exact hcall.elim
  induction fuel generalizing i d with
  | zero => trivial
  | succ fuel ih =>
    rw [NotifyGuard]
    split
    · trivial
    · split_ifs
      · refine ⟨guarded_of_forall (fun op hop d' a ha => ?_) d, fun d' _ => ih (i + 1) d'⟩
        rw [hno i op hop] at ha
        cases ha
      · exact ih (i + 1) d

/-- What the program does while a packet is handled: the calls of the channel that is told
something, or calls that do not concern a channel with an object. -/
inductive PacketOps (I : SshChannel App → Prop) (T : SshChannel App → Call App → Prop)
    (D : ClientX11Display → Prop) (c : SshConnection App) (ops : List (Op App)) : Prop where
  | channel {i : ℕ} {y : SshChannel App} {calls : List (Call App)} (hy : channelAt c i = some y)
      (hothers : ∀ j z, j ≠ i → channelAt c j = some z → I z) (hops : ops = calls.map (Call.op i))
      (hcalls : I (calls.foldl SshChannel.after y)) (hobeys : Obeys T y calls)
  | global (hall : AllChannels I c) (hops : ∀ op ∈ ops, op.IsGlobal D)

theorem openOps_isGlobal (i a) : ∀ op ∈ openOps i a, op.IsGlobal D := by
  cases a with
  | wait => simp [openOps]
  | session requestTypes =>
    simp only [openOps, forall_mem_singleton]
    exact .confirm i (.server requestTypes)
  | deny reason msg =>
    simp only [openOps, forall_mem_singleton]
    exact .deny i reason msg

/-- A callback that no channel is told of. -/
theorem callbackOps_isGlobal {cb : Callback} (sys d) (hno : cb.notice = none) :
    Returns (fun ops => ∀ op ∈ ops, op.IsGlobal D) (callbackOps sys d cb) := by
  rw [callbackOps.eq_def, hno]
  split
  · rename_i hsome
    cases hsome
  · exact openOps_isGlobal _ _
  · intro op hop
    obtain ⟨res, _, rfl⟩ := List.mem_map.mp hop
    exact .globalReply _ _
  · exact forall_mem_nil _

variable {packet : Octets} {sys : System}

theorem packetOps_ensures {r : Received App} (R : ProgramRules I T N A D) (hI : AllChannels I c)
    (htab : TableInv c)
    (hguard : ProgramGuard N A D P c (.receive packet sys))
    (hr : receivePacket c packet = .ok (some r)) :
    Returns (PacketOps I T D r.connection) (packetOps sys c packet) := by
  have hpkt := receivePacket_acts htab packet
  rw [ProgramGuard, hr] at hguard
  rw [hr] at hpkt
  obtain ⟨_, hcs⟩ := (hpkt r rfl).arrival
  rw [packetOps, hr]
  obtain ⟨d, cb, after⟩ := r
  rcases hcs with ⟨i, x, y, notice, hx, hchs, harr, hnot⟩ | ⟨hsame, hnot⟩
  · have hy : channelAt d i = some y := (hchs i).trans (if_pos rfl)
    have hots : ∀ j z, j ≠ i → channelAt d j = some z → I z := by
      intro j z hj hz
      rw [hchs j, if_neg hj] at hz
      exact hI j z hz
    cases notice with
    | none =>
      -- nobody is told, and the object satisfies the invariant as it is
      have hno : cb.bind Callback.notice = none := hnot
      have hall : AllChannels I d := by
        intro j z hz
        by_cases hj : j = i
        · subst hj
          rw [hy] at hz
          cases hz
          exact R.silent harr (hI j x hx)
        · exact hots j z hj hz
      cases cb with
      | none => exact .global hall (by simp)
      | some cb => exact (callbackOps_isGlobal sys d hno).mono fun ops => .global hall
    | some n =>
      cases cb with
      | none => cases hnot
      | some cb =>
        have hcb : cb.notice = some (i, n) := hnot
        have hn : N y n := hguard.2 (i, n) hcb y hy
        dsimp only
        rw [callbackOps.eq_def, hcb]
        dsimp only
        rw [channelOps, hy]
        exact Ensures.map (R.notice harr (hI i x hx) hn sys) fun calls hcas =>
          .channel hy hots rfl hcas.1 hcas.2
  · have hall : AllChannels I d := fun j z hz => hI j z ((hsame j).symm.trans hz)
    cases cb with
    | none => exact .global hall (by simp)
    | some cb => exact (callbackOps_isGlobal sys d hnot).mono fun ops => .global hall

/-- A packet keeps the invariant. -/
theorem receive_channels (R : ProgramRules I T N A D) (hI : AllChannels I c) (htab : TableInv c)
    (hal : c.alive = true)
    (hguard : ProgramGuard N A D P c (.receive packet sys))
    (hops : packetOps sys c packet = .ok ops) :
    Returns (AllChannels I) (receiveWith c packet ops) := by
  have hpkt := receivePacket_acts htab packet
  rw [receiveWith, channelPacketHandler]
  cases hr : receivePacket c packet with
  | error e => trivial
  | ok res =>
    cases res with
    | none => exact hI
    | some r =>
      rw [hr] at hpkt
      have htab' : TableInv r.connection := by
        rcases (hpkt r rfl).acts with hsame | ⟨a, ha, _⟩
        · rwa [hsame]
        · exact htab.acts ha
      have hal' : r.connection.alive = true := (hpkt r rfl).arrival.1.trans hal
      have hcs := packetOps_ensures R hI htab hguard hr
      rw [hops] at hcs
      have hprog : Returns (fun d => TableInv d ∧ AllChannels I d)
          (run perform r.connection ops) := by
        cases hcs with
        | channel hy hots heq hcas =>
          rw [heq]
          exact (run_calls_channels htab' hal' hy hots hcas).mono fun d hd => ⟨hd.1, hd.2.1⟩
        | global hall hglb => exact hall.run_global htab' hglb R.opens
      have hcall : Returns (fun d => TableInv d ∧ AllChannels I d)
          (callProgram (fun _ c => run perform c ops) r) := by
        rw [callProgram]
        split
        · rename_i hno
          -- there is nobody to call, and so there are no calls
          have hnil : ops = [] := by
            rw [packetOps, hr] at hops
            obtain ⟨d, cb, after⟩ := r
            obtain rfl : cb = none := hno
            cases hops
            rfl
          rw [hnil] at hprog
          exact hprog
        · exact hprog
      simp only [ok_bind, bind_assoc, pure_bind, bind_pure]
      refine hcall.bind fun d hd => ?_
      exact (finishPacket_closes hd.1 r.after).mono fun e he => hd.2.closesOnly R.closes he

/-- The actions while a packet is handled meet the condition. -/
theorem eventGuard_packetOps (R : ProgramRules I T N A D) (hP : Meets T P)
    (hI : AllChannels I c) (htab : TableInv c) (hal : c.alive = true)
    (hguard : ProgramGuard N A D P c (.receive packet sys))
    (hops : packetOps sys c packet = .ok ops) : EventGuard P c (.receive packet ops) := by
  refine ⟨hguard.1, fun r hr => ?_⟩
  have hpkt := receivePacket_acts htab packet
  rw [hr] at hpkt
  have htab' : TableInv r.connection := by
    rcases (hpkt r rfl).acts with hsame | ⟨a, ha, _⟩
    · rwa [hsame]
    · exact htab.acts ha
  have hal' : r.connection.alive = true := (hpkt r rfl).arrival.1.trans hal
  have hcs := packetOps_ensures R hI htab hguard hr
  rw [hops] at hcs
  cases hcs with
  | channel hy hots heq hcas hob =>
    rw [heq]
    refine guarded_of_obeys hP htab' hal' fun z hz => ?_
    rw [hy] at hz
    cases hz
    exact hob
  | global hall hops => exact guarded_of_global hP.global hops

/-- What holds after an event. -/
def Kept (I : SshChannel App → Prop) (P : SshConnection App → Action App → Prop)
    (c d : SshConnection App) : Prop :=
  TableInv d ∧ AllChannels I d ∧ Steps P c d

/-- Calls for one channel. -/
theorem performAll_calls (hP : Meets T P) (htab : TableInv c) (hI : AllChannels I c)
    (hal : c.alive = true)
    {f : SshChannel App → Except ProgramError (List (Call App))}
    (hf : ∀ x, channelAt c i = some x → Returns
      (fun calls => I (calls.foldl SshChannel.after x) ∧ Obeys T x calls) (f x)) :
    Returns (Kept I P c) (channelOps c i f >>= performAll c) := by
  rw [channelOps]
  cases hx : channelAt c i with
  | none => exact ⟨htab, hI, Steps.refl c⟩
  | some x =>
    have hops : Returns (fun ops => ∃ calls : List (Call App),
        ops = calls.map (Call.op i) ∧ I (calls.foldl SshChannel.after x) ∧ Obeys T x calls)
        ((fun calls => calls.map (Call.op i)) <$> f x) :=
      Ensures.map (hf x hx) fun calls hcas => ⟨calls, rfl, hcas⟩
    refine hops.bind fun ops hops => ?_
    obtain ⟨calls, rfl, hcas, hob⟩ := hops
    have hguard : Guarded perform (OpGuard P) c (calls.map (Call.op i)) := by
      refine guarded_of_obeys hP htab hal fun y hy => ?_
      rw [hx] at hy
      cases hy
      exact hob
    have hsts := (run_perform_local hP.free htab hguard).imp (fun _ _ => trivial) fun d hd => hd
    have hall := run_calls_channels htab hal hx (fun j y _ hy => hI j y hy) hcas
    exact ofChannel_ensures ((hall.and hsts).mono fun d hd =>
      ⟨hd.1.1, hd.1.2.1, hd.2.mono fun _ _ ha => ha.2⟩)

/-- Calls that do not concern a channel with an object. -/
theorem performAll_global (R : ProgramRules I T N A D) (hP : Meets T P) (htab : TableInv c)
    (hI : AllChannels I c) {op : Op App} (hop : op.IsGlobal D) :
    Returns (Kept I P c) (performAll c [op]) := by
  have hops : ∀ op' ∈ [op], op'.IsGlobal D := by simpa using hop
  have hguard : Guarded perform (OpGuard P) c [op] := guarded_of_global hP.global hops
  have hsts := (run_perform_local hP.free htab hguard).imp (fun _ _ => trivial) fun d hd => hd
  exact ofChannel_ensures (((hI.run_global htab hops R.opens).and hsts).mono fun d hd =>
    ⟨hd.1.1, hd.1.2, hd.2.mono fun _ _ ha => ha.2⟩)

/-- `tcpforward_connect_done`. -/
theorem connected_ensures (R : ProgramRules I T N A D) (hP : Meets T P)
    (htab : TableInv c) (hI : AllChannels I c) (hal : c.alive = true) (i sock : ℕ) :
    Returns (Kept I P c) (programStep c (.connected i sock)) := by
  have hcf := performAll_global R hP htab hI
    (.confirm i fun info => .forward (D := D) sock (some info))
  have hnew : Returns (fun d => d.alive = true ∧ ∃ info, channelAt d i =
      some (fresh ((makeChannelForward sock tcpipWindowSize).map .forward) (some info)
        c.nextSerial i))
      (performAll c [.confirm i ((makeChannelForward sock tcpipWindowSize).map .forward)]) := by
    refine ofChannel_ensures ?_
    rw [run_singleton, perform, if_pos hal]
    refine (channelOpenConfirm_owns c i _).mono fun d hd => ?_
    obtain ⟨hal', info, hchs⟩ := hd
    exact ⟨hal'.trans hal, info, (hchs i).trans (if_pos rfl)⟩
  rw [programStep.eq_def, if_pos hal]
  refine (hcf.and hnew).bind fun d hd => ?_
  obtain ⟨⟨htab', hI', hsts⟩, hal', info, hx⟩ := hd
  refine (performAll_calls hP htab' hI' hal' fun x hx' => ?_).mono fun e he =>
    ⟨he.1, he.2.1, hsts.trans he.2.2⟩
  rw [hx] at hx'
  cases hx'
  have hstr (z : SshChannel Forward) (hz : z = fresh (makeChannelForward sock tcpipWindowSize)
      (some info) c.nextSerial i) :
      I (((channelForwardStartIo (x := z) ⟨[]⟩).calls.map (Call.map .forward)).foldl
        SshChannel.after (z.map .forward)) ∧ Obeys T (z.map .forward)
          ((channelForwardStartIo (x := z) ⟨[]⟩).calls.map (Call.map .forward)) := by
    rw [SshChannel.map_foldl_after]
    exact R.startIo hz
  exact hstr _ rfl

/-- **An event keeps the invariant**, and its actions meet the condition. -/
theorem programStep_ensures (R : ProgramRules I T N A D) (hP : Meets T P)
    (htab : TableInv c) (hI : AllChannels I c) {ev : ProgramEvent}
    (hguard : ProgramGuard N A D P c ev) :
    Returns (Kept I P c) (programStep c ev) := by
  have hntf {e : ChannelEvent} (he : e = .stop ∨ e = .start)
      (hn : ∀ i < c.slots.length, ∀ x ∈ channelAt c i, N x (.event e)) :
      Returns (Kept I P c) (ofChannel (endpointStep c (.notify (notifyOps c e)))) := by
    have hsts : Returns (Steps P c) (endpointStep c (.notify (notifyOps c e))) :=
      (@endpointStep_steps _ c P hP.free (.notify (notifyOps c e)) htab
        (notifyGuard_notifyOps c he _ _ c)).imp (fun _ _ => trivial) fun d hd => hd
    refine ofChannel_ensures ?_
    have hall : Returns (fun d => TableInv d ∧ AllChannels I d)
        (endpointStep c (.notify (notifyOps c e))) := by
      rw [endpointStep]
      split_ifs
      · exact foreachFrom_channels R he hI (fun j x hx => hn j (mem_channelAt_lt hx) x hx) htab hI
          fun _ _ => rfl
      · exact ⟨htab, hI⟩
    exact (hall.and hsts).mono fun d hd => ⟨hd.1.1, hd.1.2, hd.2⟩
  rw [programStep.eq_def]
  split_ifs with hal
  · cases ev with
    | receive packet sys =>
      dsimp only
      cases hops : packetOps sys c packet with
      | error e => trivial
      | ok ops =>
        refine ofChannel_ensures ?_
        have hev := eventGuard_packetOps R hP hI htab hal hguard hops
        have hsts := (endpointStep_steps hP.free htab hev).imp (fun _ _ => trivial) fun d hd => hd
        have hall : Returns (AllChannels I) (endpointStep c (.receive packet ops)) := by
          rw [endpointStep, if_pos hal]
          exact receive_channels R hI htab hal hguard hops
        exact (hall.and hsts).mono fun d hd => ⟨htab.steps hd.2, hd.1, hd.2⟩
    | activity i a =>
      exact performAll_calls hP htab hI hal fun x hx =>
        R.activity (hI i x hx) (hguard x hx)
    | stop => exact hntf (.inl rfl) hguard
    | start => exact hntf (.inr rfl) hguard
    | accept sock type args =>
      exact performAll_global R hP htab hI (.openNew (.forward sock none) _ _)
    | socks env fd inputs peer =>
      dsimp only
      cases hsk : socksHandshake env fd inputs with
      | error e => trivial
      | ok res =>
        cases res with
        | none => exact ⟨htab, hI, Steps.refl c⟩
        | some p =>
          exact performAll_global R hP htab hI (.openNew (.socks hsk) _ _)
    | session input out err pty x11 cmd escape =>
      exact performAll_global R hP htab hI (.openNew (.client _ _ _ _ _ _ _) _ _)
    | connected i sock =>
      have hconn := connected_ensures R hP htab hI hal i sock
      rwa [programStep, if_pos hal] at hconn
    | x11Connected i fd dpy =>
      exact performAll_global R hP htab hI (.confirm i (.x11 fd hguard))
    | deny i reason msg => exact performAll_global R hP htab hI (.deny i reason msg)
    | sendGlobalRequest type st args =>
      exact performAll_global R hP htab hI (.sendGlobalRequest type st args)
    | globalReply want res =>
      exact performAll_global R hP htab hI (.globalReply want res)
    | pendingClose => exact performAll_global R hP htab hI .pendingClose
  · exact ⟨htab, hI, Steps.refl c⟩

variable {events : List ProgramEvent}

/-- **The invariant holds throughout every run** whose events meet the conditions, and so does what
actions under the condition keep. -/
theorem run_programStep_channels (R : ProgramRules I T N A D) (hP : Meets T P)
    {J : SshConnection App → Prop}
    (hacts : ∀ c a d, TableInv c → Acts c a d → P c a → J c → J d)
    (htab : TableInv c) (hI : AllChannels I c) (hJ : J c)
    (hguard : Guarded programStep (ProgramGuard N A D P) c events) :
    Returns (fun d => TableInv d ∧ AllChannels I d ∧ J d) (run programStep c events) := by
  refine run_of_guarded (fun d ev hd hg => ?_) ⟨htab, hI, hJ⟩ hguard
  refine (programStep_ensures R hP hd.1 hd.2.1 hg).mono fun e he => ?_
  obtain ⟨htab', hI', hsts⟩ := he
  have hboth : TableInv e ∧ J e :=
    @Steps.inv _ _ _ _ (fun c => TableInv c ∧ J c) hsts
      (fun c a d ha hP hc => ⟨hc.1.acts ha, hacts c a d hc.1 ha hP hc.2⟩) ⟨hd.1, hd.2.2⟩
  exact ⟨htab', hI', hboth.2⟩

/-- An invariant of channels that needs no condition on actions, from the start. -/
theorem run_programStep_allChannels (R : ProgramRules I T N A D) (types requests fallback)
    (hguard : Guarded programStep (ProgramGuard N A D fun _ _ => True)
      (initSshConnection types requests fallback) events) :
    Returns (AllChannels I) (run programStep (initSshConnection types requests fallback) events) :=
  (run_programStep_channels R (P := fun _ _ => True) (J := fun _ => True)
    ⟨fun _ _ _ => trivial, fun _ _ _ => trivial, fun _ _ _ _ _ _ => trivial⟩
    (fun _ _ _ _ _ _ _ => trivial) (tableInv_init types requests fallback)
    (fun i x hx => by cases hx) trivial hguard).mono fun _ hd => hd.2.1

end Runs

end Lsh.Channel
