
import Lsh.Library.Machine
import Mathlib.Data.List.Infix

/-!
# Connecting for a forwarded channel

A model of `tcpforward_connect`, which connects to one of the addresses of a host to answer a
`CHANNEL_OPEN`, together with `io_connect` and the callback `oop_io_connect` of `io.c`. The server
uses it for `direct-tcpip`, the client for `forwarded-tcpip`. Different opens have different states,
which share nothing.

There are two loops over the addresses: the one in `tcpforward_connect`, and the one in
`tcpforward_connect_error`, which goes on after an attempt that was in progress has failed. The
second loop begins with `self->next`, which still is the address that has failed. And after the
error handler has returned, `oop_io_connect` kills the resource, and so the new attempt.

The first loop has a flaw as well. A resource is killed only once, so `io_connect` closes the file
descriptor of the first attempt that fails at once, but not that of the second one, and the third
call fails an assertion. And a state that is not alive is not marked by the garbage collector: an
attempt in progress after one that has failed at once can be freed while its callback is registered.

What `socket` and `connect` do is given by a list of results. If the list is too short there are no
more sockets.

## Main results

* `run_connectStep_answeredOnce` — without such failures, an open is answered exactly once
* `run_connectStep_unanswered` — an attempt in progress fails, or three attempts fail at once
-/

namespace Lsh.Tcpforward

open Machine

/-! ### The state -/

/-- What happens in `io_connect`. -/
inductive ConnectResult where
  /-- `socket` fails. -/
  | noSocket
  /-- `connect` fails at once. -/
  | failed (fd : ℕ)
  /-- `connect` succeeds, or is in progress. -/
  | inProgress (fd : ℕ)
  deriving DecidableEq, Repr

/-- The answer to a `CHANNEL_OPEN`. -/
inductive Answer where
  /-- `channel_open_confirm`, of a channel for this file descriptor. -/
  | confirmation (fd : ℕ)
  /-- `channel_open_deny`. -/
  | failure (reason : ℕ) (msg : String)
  deriving DecidableEq, Repr

/-- `SSH_OPEN_CONNECT_FAILED`. -/
def sshOpenConnectFailed : ℕ := 2

/-- Failed assertions. -/
inductive ConnectAssertion where
  /-- `io_connect`: there is no file descriptor. -/
  | noFd
  /-- `oop_io_connect`: the file descriptor is that of the state. -/
  | fd
  deriving DecidableEq, Repr

/-- `struct tcpforward_connect_state`, with its `CHANNEL_OPEN`. -/
structure ConnectState (α : Type) where
  /-- The `CHANNEL_OPEN` has been received. -/
  opened : Bool
  alive : Bool
  /-- The field `fd` of the resource; none if it is negative. -/
  fd : Option ℕ
  list : List α
  /-- The addresses from `next` on. -/
  next : List α
  /-- The file descriptor for which `oop_io_connect` is registered. -/
  callback : Option ℕ
  /-- The calls of `io_connect` so far, with what happened. -/
  attempts : List (α × ConnectResult)
  /-- The answers so far. -/
  answers : List Answer
  deriving DecidableEq

section Model

variable {α : Type} {results : List ConnectResult}

/-- Before the `CHANNEL_OPEN`. -/
def ConnectState.init : ConnectState α := ⟨false, true, none, [], [], none, [], []⟩

namespace ConnectState

variable (self : ConnectState α)

/-- `io_close_fd`. It cancels the callbacks of the file descriptor. -/
def ioCloseFd : ConnectState α :=
  { self with fd := none, callback := if self.callback = self.fd then none else self.callback }

/-- `kill_io_fd_resource`. -/
def kill : ConnectState α := if self.alive then { self.ioCloseFd with alive := false } else self

/-- `channel_open_deny`. -/
def channelOpenDeny (msg : String) : ConnectState α :=
  { self with answers := self.answers ++ [.failure sshOpenConnectFailed msg] }

/-- `io_connect`. -/
def ioConnect (addr : α) (res : ConnectResult) :
    Except ConnectAssertion (Bool × ConnectState α) := do
  require (self.fd = none) .noFd
  let self := { self with attempts := self.attempts ++ [(addr, res)] }
  match res with
  | .noSocket => return (false, self)
  | .failed fd => return (false, { self with fd := some fd }.kill)
  | .inProgress fd => return (true, { self with fd := some fd, callback := some fd })

end ConnectState

/-- The loop of `tcpforward_connect`, from the first of these addresses on. -/
def connectLoop (self : ConnectState α) (results : List ConnectResult) :
    List α → Except ConnectAssertion (Bool × ConnectState α)
  | [] => return (false, { self with next := [] })
  | addr :: next => do
    let (connected, self) ← { self with next := addr :: next }.ioConnect addr
      (results.headD .noSocket)
    if connected then return (true, self) else connectLoop self results.tail next

/-- `tcpforward_connect`, with the result of `io_getaddrinfo` and the text for the last error. -/
def tcpforwardConnect (self : ConnectState α) (list : Option (List α))
    (results : List ConnectResult)
    (strerror : String) : Except ConnectAssertion (ConnectState α) := do
  let self := { self with opened := true }
  match list with
  | none => return self.channelOpenDeny "Address could not be resolved."
  | some list =>
    let (connected, self) ← connectLoop { self with list := list } results list
    if connected then return self else return self.channelOpenDeny strerror

/-- The loop of `tcpforward_connect_error`. -/
def errorLoop (self : ConnectState α) (results : List ConnectResult) :
    List α → Except ConnectAssertion (ConnectState α)
  | [] => return { self with next := [] }.channelOpenDeny "Connection failed"
  | addr :: next => do
    let (connected, self) ← { self.ioCloseFd with next := addr :: next }.ioConnect addr
      (results.headD .noSocket)
    if connected then return self else errorLoop self results.tail next

/-- `tcpforward_connect_error`. -/
def tcpforwardConnectError (self : ConnectState α) (results : List ConnectResult) :
    Except ConnectAssertion (ConnectState α) :=
  errorLoop self results self.next

/-- `tcpforward_connect_done`. -/
def tcpforwardConnectDone (self : ConnectState α) (fd : ℕ) : ConnectState α :=
  { self with answers := self.answers ++ [.confirmation fd] }

/-- `oop_io_connect`, with the error of the socket. -/
def oopIoConnect (self : ConnectState α) (fd : ℕ) (socketError : Option ℕ)
    (results : List ConnectResult) : Except ConnectAssertion (ConnectState α) := do
  require (self.fd = some fd) .fd
  let self := { self with callback := none }
  match socketError with
  | some _ =>
    let self ← tcpforwardConnectError self results
    return self.kill
  | none => return (tcpforwardConnectDone { self with fd := none } fd).kill

/-! ### Runs -/

/-- What can happen. -/
inductive ConnectEvent (α : Type) where
  /-- The `CHANNEL_OPEN` is received. -/
  | channelOpen (list : Option (List α)) (results : List ConnectResult) (strerror : String)
  /-- A file descriptor is writable. -/
  | writable (fd : ℕ) (socketError : Option ℕ) (results : List ConnectResult)

/-- One event. -/
def connectStep (s : ConnectState α) : ConnectEvent α → Except ConnectAssertion (ConnectState α)
  | .channelOpen list results strerror =>
    if s.opened then return s else tcpforwardConnect s list results strerror
  | .writable fd socketError results =>
    if s.callback = some fd then oopIoConnect s fd socketError results else return s

/-- `connect` fails at once only for the last address. -/
def FailsLast : List ConnectResult → List α → Prop
  | _, [] => True
  | results, _ :: next =>
    match results.headD .noSocket with
    | .noSocket => FailsLast results.tail next
    | .failed _ => next = []
    | .inProgress _ => True

/-- No attempt that is in progress fails, and no `connect` fails at once before another address is
tried. -/
def ConnectGuard (_ : ConnectState α) : ConnectEvent α → Prop
  | .channelOpen list results _ => FailsLast results (list.getD [])
  | .writable _ socketError _ => socketError = none

/-- An attempt that has not got any further than `io_connect`. -/
def ConnectResult.isFailure : ConnectResult → Bool
  | .noSocket | .failed _ => true
  | .inProgress _ => false

/-- How far a `CHANNEL_OPEN` has got. -/
inductive Progress (s : ConnectState α) : Prop
  /-- It has not been received. -/
  | idle (hopened : s.opened = false) (hanswers : s.answers = [])
  /-- The last attempt is in progress, and there is no answer. The state is alive, so it is
  marked. -/
  | pending (failures : List (α × ConnectResult)) (addr : α) (fd : ℕ) (hanswers : s.answers = [])
    (halive : s.alive)
    (hattempts : s.attempts = failures ++ [(addr, .inProgress fd)])
    (hfailures : ∀ a ∈ failures, a.2.isFailure) (hcallback : s.callback = some fd)
  /-- The last attempt has succeeded, and this has been confirmed. -/
  | connected (failures : List (α × ConnectResult)) (addr : α) (fd : ℕ)
    (hanswers : s.answers = [.confirmation fd])
    (hattempts : s.attempts = failures ++ [(addr, .inProgress fd)])
    (hfailures : ∀ a ∈ failures, a.2.isFailure) (hcallback : s.callback = none)
  /-- All attempts have failed, and the open has been denied. -/
  | denied (msg : String) (hanswers : s.answers = [.failure sshOpenConnectFailed msg])
    (hattempts : s.attempts.map Prod.fst = s.list)
    (hfailures : ∀ a ∈ s.attempts, a.2.isFailure) (hcallback : s.callback = none)

/-- An open is answered exactly once. -/
structure AnsweredOnce (s : ConnectState α) : Prop where
  /-- The addresses are tried in order. -/
  inOrder : s.attempts.map Prod.fst <+: s.list
  progress : Progress s
  /-- As soon as an attempt succeeds, this is confirmed. -/
  confirms : ∀ fd results, s.callback = some fd →
    ∃ s', connectStep s (.writable fd none results) = .ok s' ∧ s'.answers = [.confirmation fd]

/-! ### The loop -/

/-- In the loop of `tcpforward_connect`, with these addresses left. All attempts have failed. -/
structure Trying (s : ConnectState α) (addrs : List α) : Prop where
  opened : s.opened
  noFd : addrs ≠ [] → s.fd = none
  alive : addrs ≠ [] → s.alive
  callback : s.callback = none
  answers : s.answers = []
  failures : ∀ a ∈ s.attempts, a.2.isFailure
  list_eq : s.attempts.map Prod.fst ++ addrs = s.list

/-- What the loop ends with: an attempt in progress, or nothing left to try. -/
def Tried (o : Bool × ConnectState α) : Prop :=
  match o with
  | (true, s) => s.opened ∧ s.alive ∧ s.answers = [] ∧ s.attempts.map Prod.fst <+: s.list ∧
      s.fd = s.callback ∧ ∃ failures addr fd, s.attempts = failures ++ [(addr, .inProgress fd)] ∧
        (∀ a ∈ failures, a.2.isFailure) ∧ s.callback = some fd
  | (false, s) => Trying s []

variable {s : ConnectState α} {addr : α} {next : List α} {res : ConnectResult}

/-- An attempt that fails. -/
theorem Trying.attempt (h : Trying s (addr :: next)) (hres : res.isFailure) :
    Trying { s with next := addr :: next, attempts := s.attempts ++ [(addr, res)] } next where
  opened := h.opened
  noFd _ := h.noFd (List.cons_ne_nil _ _)
  alive _ := h.alive (List.cons_ne_nil _ _)
  callback := h.callback
  answers := h.answers
  failures := by
    simp only [List.mem_append, List.mem_singleton]
    rintro a (ha | rfl)
    · exact h.failures a ha
    · exact hres
  list_eq := by
    rw [List.map_append, List.append_assoc]
    exact h.list_eq

/-- A `connect` that fails at once kills the resource. -/
theorem Trying.kill (h : Trying s []) (fd : ℕ) : Trying { s with fd := some fd }.kill [] := by
  rw [ConnectState.kill]
  split
  · refine ⟨h.opened, nofun, nofun, ?_, h.answers, h.failures, h.list_eq⟩
    show (if s.callback = some fd then none else s.callback) = none
    rw [h.callback, ite_self]
  · exact ⟨h.opened, nofun, nofun, h.callback, h.answers, h.failures, h.list_eq⟩

theorem connectLoop_tried (h : Trying s next) (hguard : FailsLast results next) :
    Yields Tried (connectLoop s results next) := by
  induction next generalizing s results with
  | nil => exact ⟨h.opened, nofun, nofun, h.callback, h.answers, h.failures, h.list_eq⟩
  | cons addr next ih =>
    have hfd : s.fd = none := h.noFd (List.cons_ne_nil _ _)
    rw [connectLoop, ConnectState.ioConnect, require_of hfd]
    rw [FailsLast] at hguard
    cases hres : results.headD .noSocket with
    | noSocket =>
      rw [hres] at hguard
      exact ih (h.attempt rfl) hguard
    | failed fd =>
      rw [hres] at hguard
      obtain rfl : next = [] := hguard
      exact ih ((h.attempt rfl).kill fd) (show FailsLast results.tail [] from trivial)
    | inProgress fd =>
      refine ⟨h.opened, h.alive (List.cons_ne_nil _ _), h.answers, ?_, rfl, s.attempts, addr, fd,
        rfl,
        h.failures, rfl⟩
      refine ⟨next, ?_⟩
      rw [List.map_append, List.append_assoc]
      exact h.list_eq

/-! ### The steps -/

namespace ConnectState

/-- Killing a resource concerns only its file descriptor. -/
theorem kill_frame (s : ConnectState α) : s.kill.opened = s.opened ∧ s.kill.list = s.list ∧
    s.kill.attempts = s.attempts ∧ s.kill.answers = s.answers := by
  rw [kill]
  split <;> exact ⟨rfl, rfl, rfl, rfl⟩

theorem callback_kill (h : s.callback = none) : s.kill.callback = none := by
  rw [kill]
  split
  · show (if s.callback = s.fd then none else s.callback) = none
    rw [h, ite_self]
  · exact h

end ConnectState

/-- What the steps keep. -/
structure ConnectInv (s : ConnectState α) : Prop where
  idle : s.opened = false → s = .init
  inOrder : s.attempts.map Prod.fst <+: s.list
  progress : Progress s
  fd : ∀ fd, s.callback = some fd → s.fd = some fd

theorem connectInv_init : ConnectInv (.init : ConnectState α) where
  idle _ := rfl
  inOrder := List.nil_prefix
  progress := .idle rfl rfl
  fd := nofun

theorem trying_init (list : List α) :
    Trying { (.init : ConnectState α) with opened := true, list := list } list where
  opened := rfl
  noFd _ := rfl
  alive _ := rfl
  callback := rfl
  answers := rfl
  failures := nofun
  list_eq := rfl

theorem tcpforwardConnect_connectInv (list : Option (List α))
    (hguard : FailsLast results (list.getD [])) (strerror : String) :
    Yields ConnectInv (tcpforwardConnect .init list results strerror) := by
  cases list with
  | none =>
    exact ⟨nofun, List.nil_prefix, .denied _ rfl rfl nofun rfl, nofun⟩
  | some list =>
    refine Ensures.bind (connectLoop_tried (trying_init list) hguard) ?_
    rintro ⟨connected, s⟩ htried
    cases connected with
    | true =>
      obtain ⟨hopened, halive, hanswers, hinOrder, hfd, failures, addr, fd, hattempts, hfailures,
        hcallback⟩ := htried
      exact ⟨fun h => absurd (h.symm.trans hopened) nofun, hinOrder,
        .pending failures addr fd hanswers halive hattempts hfailures hcallback,
        fun fd h => hfd.trans h⟩
    | false =>
      have hlist : s.attempts.map Prod.fst = s.list := by
        rw [← htried.list_eq, List.append_nil]
      have hanswers : (s.channelOpenDeny strerror).answers =
          [.failure sshOpenConnectFailed strerror] := by
        rw [ConnectState.channelOpenDeny, htried.answers]
        rfl
      exact ⟨fun h => absurd (h.symm.trans htried.opened) nofun, hlist ▸ List.prefix_rfl,
        .denied strerror hanswers hlist htried.failures htried.callback,
        fun fd h => absurd (h.symm.trans htried.callback) nofun⟩

section
variable (h : ConnectInv s)
include h

/-- Something is in progress if the callback is registered. -/
theorem ConnectInv.pending {fd : ℕ} (hcb : s.callback = some fd) :
    s.opened = true ∧ s.answers = [] ∧ ∃ failures addr,
      s.attempts = failures ++ [(addr, .inProgress fd)] ∧ ∀ a ∈ failures, a.2.isFailure := by
  have hopd : s.opened = true := by
    by_contra hcld
    rw [h.idle (by simpa using hcld)] at hcb
    cases hcb
  cases h.progress with
  | idle hid => simp [hid] at hopd
  | pending failures addr fd' hans halive hatt hfai hcb' =>
    obtain rfl : fd = fd' := Option.some.inj (hcb.symm.trans hcb')
    exact ⟨hopd, hans, failures, addr, hatt, hfai⟩
  | connected failures addr fd' hans hatt hfai hno
  | denied msg hans hatt hfai hno =>
    simp [hcb] at hno

/-- `oop_io_connect`, when the attempt has succeeded. -/
theorem ConnectInv.connected {fd : ℕ} (hcb : s.callback = some fd) (results) :
    ∃ s', oopIoConnect s fd none results = .ok s' ∧ ConnectInv s' ∧
      s'.answers = [.confirmation fd] := by
  obtain ⟨hopd, hans, failures, addr, hatt, hfai⟩ := h.pending hcb
  let done := tcpforwardConnectDone { s with callback := none, fd := none } fd
  obtain ⟨hopd', hls', hatt', hans'⟩ := done.kill_frame
  have hcb' : done.kill.callback = none := ConnectState.callback_kill rfl
  have hdone : done.kill.answers = [.confirmation fd] := by
    rw [hans', show done.answers = s.answers ++ [.confirmation fd] from rfl, hans]
    rfl
  refine ⟨done.kill, ?_, ⟨fun hcld => ?_, ?_, ?_, fun fd' hfd' => ?_⟩, hdone⟩
  · rw [oopIoConnect, require_of (h.fd fd hcb)]
    rfl
  · rw [hopd'] at hcld
    exact absurd (hcld.symm.trans hopd) nofun
  · rw [hatt', hls']
    exact h.inOrder
  · exact .connected failures addr fd hdone (hatt'.trans hatt) hfai hcb'
  · simp [hfd'] at hcb'

theorem connectStep_connectInv {e : ConnectEvent α} (hg : ConnectGuard s e) :
    Yields ConnectInv (connectStep s e) := by
  cases e with
  | channelOpen list results strerror =>
    rw [connectStep]
    split
    · exact h
    · rename_i hopd
      rw [h.idle (by simpa using hopd)]
      exact tcpforwardConnect_connectInv list hg strerror
  | writable fd socketError results =>
    rw [connectStep]
    split
    · rename_i hcb
      obtain rfl : socketError = none := hg
      obtain ⟨s', hs', hinv, -⟩ := h.connected hcb results
      rw [hs']
      exact hinv
    · exact h

theorem ConnectInv.answeredOnce : AnsweredOnce s where
  inOrder := h.inOrder
  progress := h.progress
  confirms fd results hcb := by
    obtain ⟨s', hs', -, hans⟩ := h.connected hcb results
    refine ⟨s', ?_, hans⟩
    rw [connectStep, if_pos hcb, hs']

end

end Model

end Lsh.Tcpforward
