
import Lsh.Basic
import Mathlib.Data.List.Nodup

/-!
# Forwarded ports of a server

A model of `server_tcpforward.c` with `tcpforward_listen`: a request opens a listener for each
address, and they are kept in one resource list, which belongs to the entry and to the connection.

## Main results

* `run_forwardStep_table` — entries and live listeners correspond after any requests
-/

namespace Lsh.Tcpforward

open List

/-- What becomes of an address that `io_getaddrinfo` gives. -/
inductive Bound where
  | otherFamily
  | bindFailed
  | listenFailed
  | listening
  deriving DecidableEq

/-- `struct server_forward`. The listeners are the contents of the resource list `port`. -/
structure ServerForward where
  ip : Octets
  port : UInt32
  listeners : List ℕ
  deriving DecidableEq

/-- A connection with its forwarded ports. Listeners are numbered as they are created. -/
structure Forwarding where
  forwardedPorts : List ServerForward
  /-- The lists in `connection->resources`. -/
  resources : List (List ℕ)
  /-- The listeners that have not been killed. -/
  live : List ℕ
  created : ℕ

/-- The loop in `tcpforward_listen`: the contents of its list, when `n` listeners have been
created. -/
def tcpforwardListen (n : ℕ) (list : List Bound) : List ℕ :=
  ((list.zipIdx n).filter (·.1 = .listening)).map Prod.snd

variable (s : Forwarding) (ip : Octets) (port : UInt32)

/-- The condition in `tcpforward_lookup` and `tcpforward_remove`. -/
def ServerForward.isFor (f : ServerForward) : Bool := port = f.port ∧ f.ip = ip

/-- `do_tcpip_forward_handler`, with the addresses, if they were found: the reply. -/
def doTcpipForwardHandler (addresses : Option (List Bound)) : Bool × Forwarding :=
  if port < 1024 then (false, s)
  else if s.forwardedPorts.any (·.isFor ip port) then (false, s)
  else
    match addresses with
    | none => (false, s)
    | some list =>
      let resources := tcpforwardListen s.created list
      let s := { s with created := s.created + list.length }
      -- there is no list if there is no listener
      if resources = [] then (false, s)
      else (true, { s with
        forwardedPorts := ⟨ip, port, resources⟩ :: s.forwardedPorts
        resources := resources :: s.resources
        live := resources ++ s.live })

/-- `do_tcpip_cancel_forward`: the reply. -/
def doTcpipCancelForward : Bool × Forwarding :=
  match s.forwardedPorts.find? (·.isFor ip port) with
  | none => (false, s)
  | some f => (true, { s with
      forwardedPorts := s.forwardedPorts.eraseP (·.isFor ip port)
      live := s.live.filter (· ∉ f.listeners) })

/-- The connection is killed, and with it its resources. -/
def killResources : Forwarding :=
  { s with live := s.live.filter fun l => ∀ r ∈ s.resources, l ∉ r }

inductive ForwardRequest where
  | forward (ip : Octets) (port : UInt32) (addresses : Option (List Bound))
  | cancel (ip : Octets) (port : UInt32)

def forwardStep : ForwardRequest → Forwarding
  | .forward ip port addresses => (doTcpipForwardHandler s ip port addresses).2
  | .cancel ip port => (doTcpipCancelForward s ip port).2

/-- Entries and live listeners correspond. -/
structure Corresponds : Prop where
  keys : s.forwardedPorts.Pairwise fun f g => ¬g.isFor f.ip f.port
  port_le : ∀ f ∈ s.forwardedPorts, 1024 ≤ f.port
  listeners : ∀ f ∈ s.forwardedPorts, f.listeners ≠ [] ∧ f.listeners ∈ s.resources
  live : s.live = s.forwardedPorts.flatMap ServerForward.listeners
  nodup : s.live.Nodup
  created : ∀ l ∈ s.live, l < s.created

variable {s ip port}

/-- The request is refused, or there are new listeners. -/
theorem doTcpipForwardHandler_cases (addresses) :
    (∃ n, s.created ≤ n ∧
      doTcpipForwardHandler s ip port addresses = (false, { s with created := n })) ∨
    ∃ n new, 1024 ≤ port ∧ (∀ f ∈ s.forwardedPorts, ¬f.isFor ip port) ∧ new ≠ [] ∧
      new.Sublist (range' s.created n) ∧ doTcpipForwardHandler s ip port addresses =
        (true, ⟨⟨ip, port, new⟩ :: s.forwardedPorts, new :: s.resources, new ++ s.live,
          s.created + n⟩) := by
  rw [doTcpipForwardHandler.eq_def]
  split_ifs with hlow hany
  · exact .inl ⟨_, Nat.le_refl _, rfl⟩
  · exact .inl ⟨_, Nat.le_refl _, rfl⟩
  · cases addresses with
    | none => exact .inl ⟨_, Nat.le_refl _, rfl⟩
    | some list =>
      dsimp only
      split_ifs with hnil
      · exact .inl ⟨_, Nat.le_add_right _ _, rfl⟩
      · refine .inr ⟨_, _, UInt32.not_lt.mp hlow, by simpa using hany, hnil, ?_, rfl⟩
        rw [← zipIdx_map_snd]
        exact List.filter_sublist.map _

namespace Corresponds

section
variable (h : Corresponds s)
include h

theorem forward (addresses) : Corresponds (doTcpipForwardHandler s ip port addresses).2 := by
  have hcr := h.created
  rcases @doTcpipForwardHandler_cases s ip port addresses with
    ⟨n, hle, heq⟩ | ⟨n, new, hport, hno, hnil, hsub, heq⟩ <;> rw [heq]
  · exact { h with created := fun l hl => Nat.lt_of_lt_of_le (hcr l hl) hle }
  · have hnew (l : ℕ) (hl : l ∈ new) := List.mem_range'_1.mp (hsub.subset hl)
    refine ⟨List.pairwise_cons.mpr ⟨hno, h.keys⟩, List.forall_mem_cons.mpr ⟨hport, h.port_le⟩,
      List.forall_mem_cons.mpr ⟨⟨hnil, mem_cons_self⟩, fun f hf => ?_⟩, ?_,
      List.nodup_append.mpr ⟨hsub.nodup nodup_range', h.nodup, fun a ha b hb => ?_⟩,
      List.forall_mem_append.mpr ⟨fun l hl => (hnew l hl).2, fun l hl => ?_⟩⟩
    · exact ⟨(h.listeners f hf).1, mem_cons_of_mem _ (h.listeners f hf).2⟩
    · rw [flatMap_cons, h.live]
    · exact Nat.ne_of_gt (Nat.lt_of_lt_of_le (hcr b hb) (hnew a ha).1)
    · exact Nat.lt_add_right n (hcr l hl)

theorem cancel : Corresponds (doTcpipCancelForward s ip port).2 := by
  rw [doTcpipCancelForward]
  split
  · exact h
  · rename_i f hf
    obtain ⟨hfor, fs, gs, heq, hno⟩ := List.find?_eq_some_iff_append.mp hf
    have hsub : (s.forwardedPorts.eraseP (·.isFor ip port)).Sublist s.forwardedPorts :=
      eraseP_sublist
    refine ⟨h.keys.sublist hsub, fun g hg => h.port_le g (hsub.subset hg),
      fun g hg => h.listeners g (hsub.subset hg), ?_, h.nodup.filter _,
      fun l hl => h.created l (mem_of_mem_filter hl)⟩
    have hnd := h.nodup
    have herase : s.forwardedPorts.eraseP (·.isFor ip port) = fs ++ gs := by
      rw [heq, eraseP_append_right _ (by simpa using hno), eraseP_cons_of_pos hfor]
    rw [h.live, heq, flatMap_append, flatMap_cons] at hnd
    have hfs (l : ℕ) (hl : l ∈ fs.flatMap ServerForward.listeners) : l ∉ f.listeners := by
      exact fun hlf => (List.nodup_append.mp hnd).2.2 l hl l (by simp [hlf]) rfl
    have hgs (l : ℕ) (hl : l ∈ gs.flatMap ServerForward.listeners) : l ∉ f.listeners := fun hlf =>
      (List.nodup_append.mp (List.nodup_append.mp hnd).2.1).2.2 l hlf l hl rfl
    show s.live.filter _ = _
    rw [herase, h.live, heq, flatMap_append, flatMap_cons, filter_append,
      filter_append, List.filter_eq_self.mpr (by simpa using hfs),
      List.filter_eq_nil_iff.mpr (by simp), List.filter_eq_self.mpr (by simpa using hgs),
      flatMap_append, nil_append]

theorem run (reqs : List ForwardRequest) : Corresponds (reqs.foldl forwardStep s) := by
  induction reqs generalizing s with
  | nil => exact h
  | cons r reqs ih =>
    cases r with
    | forward ip port addresses => exact ih (h.forward addresses)
    | cancel ip port => exact ih h.cancel

theorem kill : (killResources s).live = [] := by
  refine List.filter_eq_nil_iff.mpr fun l hl => ?_
  rw [h.live] at hl
  obtain ⟨f, hf, hlf⟩ := List.mem_flatMap.mp hl
  simpa using ⟨_, (h.listeners f hf).2, hlf⟩

/-- A port that is forwarded and cancelled. -/
theorem cancel_forward {addresses : Option (List Bound)}
    (hre : (doTcpipForwardHandler s ip port addresses).1) :
    let t := (doTcpipCancelForward (doTcpipForwardHandler s ip port addresses).2 ip port).2
    t.forwardedPorts = s.forwardedPorts ∧ t.live = s.live := by
  intro t
  have ht : t.forwardedPorts = s.forwardedPorts := by
    rcases @doTcpipForwardHandler_cases s ip port addresses with
      ⟨n, _, heq⟩ | ⟨n, new, _, _, _, _, heq⟩
    · simp [heq] at hre
    · simp [t, heq, doTcpipCancelForward, ServerForward.isFor]
  refine ⟨ht, ?_⟩
  rw [(h.forward addresses).cancel.live, ht, h.live]

end

end Corresponds

/-- **Entries and listeners correspond** after any requests: the live listeners are those of the
entries, each of them once, and none is left when the connection is killed. A port is cancelled if
there is an entry, which closes the listeners of that entry, and undoes a request. -/
theorem run_forwardStep_table (requests : List ForwardRequest) :
    let s := requests.foldl forwardStep ⟨[], [], [], 0⟩
    (s.forwardedPorts.Pairwise fun f g => ¬g.isFor f.ip f.port) ∧
      (∀ f ∈ s.forwardedPorts, 1024 ≤ f.port ∧ f.listeners ≠ []) ∧
      s.live = s.forwardedPorts.flatMap ServerForward.listeners ∧ s.live.Nodup ∧
      (killResources s).live = [] ∧ ∀ ip port,
        (doTcpipCancelForward s ip port).1 = s.forwardedPorts.any (·.isFor ip port) ∧
        (∀ f ∈ s.forwardedPorts.find? (·.isFor ip port), ∀ l,
          l ∈ (doTcpipCancelForward s ip port).2.live ↔ l ∈ s.live ∧ l ∉ f.listeners) ∧
        ∀ addresses, (doTcpipForwardHandler s ip port addresses).1 = true →
          let t := (doTcpipCancelForward (doTcpipForwardHandler s ip port addresses).2 ip port).2
          t.forwardedPorts = s.forwardedPorts ∧ t.live = s.live := by
  intro s
  have h : Corresponds s := .run ⟨.nil, by simp, by simp, rfl, nodup_nil, by simp⟩ requests
  refine ⟨h.keys, fun f hf => ⟨h.port_le f hf, (h.listeners f hf).1⟩, h.live, h.nodup, h.kill,
    fun ip port => ⟨?_, fun f hf l => ?_, fun _ => h.cancel_forward⟩⟩
  · rw [doTcpipCancelForward, ← isSome_find?]
    cases s.forwardedPorts.find? (·.isFor ip port) <;> rfl
  · rw [doTcpipCancelForward, Option.mem_def.mp hf]
    simp

end Lsh.Tcpforward
