
import Mathlib.Data.List.Basic

/-!
# Requests answered in order

One party sends requests over a FIFO link, and the other answers them over another one. A reply does
not say what request it is for. Some requests want no reply, and get none. The requester keeps a
queue of what waits for replies, and takes the first of the queue for each reply.

`Exchange` has what both parties have done and what is on the way. `Matched` says that the first
results are those of the first requests, that the replies sent are the results of the requests that
want one, and that the queue has the states of those whose reply has not arrived. From it, the
`n`-th state is given the `n`-th wanted result.

## Main results

* `Matched.send`, `Matched.arrive`, `Matched.answer`, `Matched.finish` — what keeps it
* `Matched.own`, `Matched.complete` — each state is given its own result, and all of them when
  nothing is on the way or owed
-/

namespace Requests

open List

variable {S R : Type*}

/-- Requests from one party to another. -/
structure Exchange (S R : Type*) where
  /-- The requests that were sent, each with the state that waits for a reply if it wants one. -/
  sent : List (Option S)
  /-- The requests on the way: whether they want a reply. -/
  requests : List Bool
  /-- The results, each with whether a reply was wanted. -/
  results : List (Bool × R)
  /-- The replies on the way. -/
  replies : List R
  /-- The states that were given a result. -/
  done : List (S × R)
  /-- The states that wait for a reply. -/
  pending : List S

/-- The results of requests that want a reply. -/
def wanted (results : List (Bool × R)) : List R :=
  results.filterMap fun r => if r.1 then some r.2 else none

theorem wanted_append (l l' : List (Bool × R)) : wanted (l ++ l') = wanted l ++ wanted l' :=
  filterMap_append

/-- Whether requests want replies. -/
def wants (sent : List (Option S)) : List Bool := sent.map Option.isSome

/-- The states of requests. -/
def states (sent : List (Option S)) : List S := sent.filterMap id

namespace Exchange

variable {x : Exchange S R}

/-- The requests that have arrived and have no result yet: whether they want a reply. -/
def owed (x : Exchange S R) : List Bool :=
  ((wants x.sent).take (x.sent.length - x.requests.length)).drop x.results.length

variable {l : List Bool}

/-- What is owed is what lies between the results and the requests on the way. -/
theorem owed_eq (h : wants x.sent = x.results.map Prod.fst ++ l ++ x.requests) : x.owed = l := by
  have hlen : x.sent.length = x.results.length + (l.length + x.requests.length) := by
    simpa [wants] using congrArg List.length h
  have hta : x.sent.length - x.requests.length = (x.results.map Prod.fst ++ l).length := by
    rw [length_append, length_map]
    omega
  rw [owed, h, hta, take_left']
  · rw [drop_left' (length_map _)]
  · rfl

/-- Replies are for the requests that they are taken for. -/
structure Matched (x : Exchange S R) : Prop where
  wants_eq : wants x.sent = x.results.map Prod.fst ++ x.owed ++ x.requests
  wanted_eq : wanted x.results = x.done.map Prod.snd ++ x.replies
  states_eq : states x.sent = x.done.map Prod.fst ++ x.pending

/-- What is owed need not be known from the history. -/
theorem Matched.of_eq (hwants : wants x.sent = x.results.map Prod.fst ++ l ++ x.requests)
    (hwtd : wanted x.results = x.done.map Prod.snd ++ x.replies)
    (hsts : states x.sent = x.done.map Prod.fst ++ x.pending) : Matched x :=
  ⟨by rw [owed_eq hwants, hwants], hwtd, hsts⟩

/-- Nothing has been sent. -/
theorem matched_empty : Matched (⟨[], [], [], [], [], []⟩ : Exchange S R) :=
  .of_eq (l := []) rfl rfl rfl

/-- The number of states is that of the replies that are wanted. -/
theorem length_states (sent : List (Option S)) :
    (states sent).length = (wants sent).count true := by
  induction sent with
  | nil => rfl
  | cons s sent ih => cases s <;> simp_all [states, wants]

theorem length_wanted (results : List (Bool × R)) :
    (wanted results).length = (results.map Prod.fst).count true := by
  induction results with
  | nil => rfl
  | cons r results ih =>
    obtain ⟨w, r⟩ := r
    cases w <;> simp_all [wanted]

section
variable (h : Matched x)
include h

/-- A request is sent. -/
theorem Matched.send (s) :
    Matched { x with
      sent := x.sent ++ [s]
      requests := x.requests ++ [s.isSome]
      pending := x.pending ++ s.toList } := by
  refine .of_eq (l := x.owed) ?_ h.wanted_eq ?_
  · have happ : wants (x.sent ++ [s]) = wants x.sent ++ [s.isSome] := map_append
    rw [happ, h.wants_eq, append_assoc]
  · have happ : states (x.sent ++ [s]) = states x.sent ++ s.toList := by
      rw [states, filterMap_append]
      cases s <;> rfl
    rw [happ, h.states_eq, append_assoc]

variable {w : Bool}

/-- A request arrives. -/
theorem Matched.arrive {rest : List Bool} (hrqs : x.requests = w :: rest) :
    Matched { x with requests := rest } := by
  refine .of_eq (l := x.owed ++ [w]) ?_ h.wanted_eq h.states_eq
  rw [h.wants_eq, hrqs]
  simp

/-- **The oldest request without a result gets one**, and a reply if it wants one. -/
theorem Matched.answer (howed : x.owed.head? = some w) (r : R) :
    Matched { x with
      results := x.results ++ [(w, r)]
      replies := x.replies ++ if w then [r] else [] } := by
  obtain ⟨rest, hre⟩ := List.head?_eq_some_iff.mp howed
  refine .of_eq (l := rest) ?_ ?_ h.states_eq
  · rw [h.wants_eq, hre]
    simp
  · have hla : wanted [(w, r)] = if w then [r] else [] := by cases w <;> rfl
    rw [wanted_append, h.wanted_eq, hla, append_assoc]

/-- A reply is on the way only if a state waits for it. -/
theorem Matched.pending_ne_nil (hrps : x.replies ≠ []) : x.pending ≠ [] := by
  intro hpen
  have hsts := congrArg List.length h.states_eq
  have hwtd := congrArg List.length h.wanted_eq
  have hcount := congrArg (List.count true) h.wants_eq
  have hpos := List.length_pos_iff.mpr hrps
  rw [length_states, hpen] at hsts
  rw [length_wanted] at hwtd
  simp only [length_append, length_map, length_nil, count_append] at *
  omega

/-- A reply arrives, and is given to the first state of the queue. -/
theorem Matched.finish {r : R} {reps : List R} {s : S} {pending : List S}
    (hrps : x.replies = r :: reps) (hpen : x.pending = s :: pending) :
    Matched { x with
      replies := reps
      pending := pending
      done := x.done ++ [(s, r)] } := by
  refine .of_eq h.wants_eq ?_ ?_
  · rw [h.wanted_eq, hrps]
    simp
  · rw [h.states_eq, hpen]
    simp

/-- **Each state is given its own result.** -/
theorem Matched.own {s : S} {r : R} {n : ℕ} (hdone : x.done[n]? = some (s, r)) :
    (states x.sent)[n]? = some s ∧ (wanted x.results)[n]? = some r := by
  have hlt : n < x.done.length := (List.getElem?_eq_some_iff.mp hdone).1
  rw [h.states_eq, h.wanted_eq, List.getElem?_append_left (by simpa using hlt),
    List.getElem?_append_left (by simpa using hlt), List.getElem?_map, List.getElem?_map, hdone]
  exact ⟨rfl, rfl⟩

/-- **All states have their results** when nothing is on the way and nothing is owed. -/
theorem Matched.complete (hrequests : x.requests = []) (hreplies : x.replies = [])
    (hlength : x.results.length = x.sent.length) :
    x.done.map Prod.fst = states x.sent ∧ x.done.map Prod.snd = wanted x.results := by
  have hwants : wants x.sent = x.results.map Prod.fst ++ x.owed := by
    rw [h.wants_eq, hrequests, append_nil]
  have howed : x.owed = [] := by
    have hlengths := congrArg List.length hwants
    rw [wants, length_map, length_append, length_map] at hlengths
    exact List.length_eq_zero_iff.mp (by omega)
  have hdone : x.done.map Prod.snd = wanted x.results := by
    rw [h.wanted_eq, hreplies, append_nil]
  have hpending : x.pending.length = 0 := by
    have hstates := congrArg List.length h.states_eq
    have hresults := congrArg List.length hdone
    rw [length_states, hwants, howed, append_nil, ← length_wanted, length_append,
      length_map] at hstates
    rw [length_map] at hresults
    omega
  refine ⟨?_, hdone⟩
  rw [h.states_eq, List.length_eq_zero_iff.mp hpending, append_nil]

/-- The first results are those of the first requests. -/
theorem Matched.isPrefix_wants : x.results.map Prod.fst <+: wants x.sent :=
  ⟨x.owed ++ x.requests, by rw [h.wants_eq, append_assoc]⟩

end

end Exchange

end Requests
