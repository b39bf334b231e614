
import Lsh.Library.Chains
import Lsh.Library.Octets
import Mathlib.Data.List.Lex
import Mathlib.Order.Interval.Set.Basic

/-!
# Reduction of five-tuples

A model of `reduce.c`. A sequence of certificates is gone through, and each of them is used with
every tuple known so far whose subject is its issuer. The tuples that come out of this are consed
onto the list while an iterator walks along the old part of it.

What the reduction is for: a tuple comes out for every entry of the ACL and every chain of
certificates that starts at its subject. Two intervals of dates intersect if there is a date in both
of them. `validity_intersect` compares the start of each interval with the end of the other one.
This is the same if neither of the intervals is empty. Nobody checks that the dates of a certificate
are in the right order.

Tags and their intersection are arbitrary, and so are principals.

## Main results

* `spki5TupleReduce_perm` — exactly the chains, if and only if no tuple with an empty interval is
  used
* `spki5TupleReduce_inverted` — a chain with an empty interval
-/

namespace Lsh.Spki

open Chains List

/-! ### Dates and principals -/

/-- `struct spki_date`. -/
structure SpkiDate where
  date : Octets
  length_eq : date.length = 19
  deriving DecidableEq

/-- The order of `memcmp`. -/
instance : LinearOrder SpkiDate :=
  LinearOrder.lift' (fun d => d.date.map UInt8.toNat) fun d₁ d₂ h => by
    have hinj : Function.Injective UInt8.toNat := fun a b => UInt8.toNat_inj.mp
    cases d₁
    cases d₂
    simp only [SpkiDate.mk.injEq]
    exact hinj.list_map h

/-- `spki_date_since_ever`. -/
def spkiDateSinceEver : SpkiDate := ⟨List.replicate 19 0, rfl⟩

/-- `spki_date_for_ever`. -/
def spkiDateForEver : SpkiDate := ⟨List.replicate 19 255, rfl⟩

/-- The principals of a database, with their aliases. There are no cycles. -/
structure Principals (P : Type) where
  aliasOf : P → Option P
  rank : P → ℕ
  rank_lt : ∀ p q, aliasOf p = some q → rank q < rank p

/-- `spki_principal_normalize`. -/
def Principals.normalize {P : Type} (db : Principals P) (p : P) : P :=
  match _h : db.aliasOf p with
  | some q => db.normalize q
  | none => p
termination_by db.rank p
decreasing_by exact db.rank_lt p q ‹_›

/-! ### Tuples -/

section Tuples

variable {P T : Type}

/-- `struct spki_5_tuple`. The flags and the dates are as `validity_sanity_check` wants them. -/
structure FiveTuple (P T : Type) where
  /-- There is none for an entry of the ACL. -/
  issuer : Option P
  subject : P
  propagate : Bool
  hasNotBefore : Bool
  hasNotAfter : Bool
  notBefore : SpkiDate
  notAfter : SpkiDate
  tag : T
  sinceEver : hasNotBefore = false → notBefore = spkiDateSinceEver
  forEver : hasNotAfter = false → notAfter = spkiDateForEver

/-- A tuple with an issuer. -/
structure Certificate (P T : Type) where
  tuple : FiveTuple P T
  issuer : P
  issuer_eq : tuple.issuer = some issuer

/-- `validity_intersect`, without a result. -/
def validityIntersect (a b : FiveTuple P T) : Bool :=
  if b.notAfter < a.notBefore then false
  else if a.notAfter < b.notBefore then false
  else true

/-- The new tuple in `reduce_with_list`, with the result of `validity_intersect`. -/
def reduced (known tuple : FiveTuple P T) (tag : T) : FiveTuple P T where
  issuer := known.issuer
  subject := tuple.subject
  propagate := tuple.propagate
  hasNotBefore := known.hasNotBefore || tuple.hasNotBefore
  hasNotAfter := known.hasNotAfter || tuple.hasNotAfter
  notBefore := if tuple.notBefore < known.notBefore then known.notBefore else tuple.notBefore
  notAfter := if known.notAfter < tuple.notAfter then known.notAfter else tuple.notAfter
  tag := tag
  sinceEver h := by
    rw [Bool.or_eq_false_iff] at h
    split
    · exact known.sinceEver h.1
    · exact tuple.sinceEver h.2
  forEver h := by
    rw [Bool.or_eq_false_iff] at h
    split
    · exact known.forEver h.1
    · exact tuple.forEver h.2

/-! ### Intervals of dates -/

/-- The dates at which a tuple is valid. -/
def FiveTuple.validity (t : FiveTuple P T) : Set SpkiDate := Set.Icc t.notBefore t.notAfter

/-- The dates are in the right order. -/
def FiveTuple.Valid (t : FiveTuple P T) : Prop := t.notBefore ≤ t.notAfter

theorem notBefore_reduced (known tuple : FiveTuple P T) (tag) :
    (reduced known tuple tag).notBefore = max known.notBefore tuple.notBefore := by
  rw [reduced]
  split
  · rename_i h
    exact (max_eq_left h.le).symm
  · rename_i h
    exact (max_eq_right (not_lt.mp h)).symm

theorem notAfter_reduced (known tuple : FiveTuple P T) (tag) :
    (reduced known tuple tag).notAfter = min known.notAfter tuple.notAfter := by
  rw [reduced]
  dsimp only
  split
  · rename_i h
    exact (min_eq_left h.le).symm
  · rename_i h
    exact (min_eq_right (not_lt.mp h)).symm

theorem validityIntersect_eq_true {a b : FiveTuple P T} :
    validityIntersect a b = true ↔ a.notBefore ≤ b.notAfter ∧ b.notBefore ≤ a.notAfter := by
  rw [validityIntersect]
  split_ifs with h h'
  · exact ⟨nofun, fun hle => absurd hle.1 (not_le.mpr h)⟩
  · exact ⟨nofun, fun hle => absurd hle.2 (not_le.mpr h')⟩
  · exact ⟨fun _ => ⟨not_lt.mp h, not_lt.mp h'⟩, fun _ => rfl⟩

theorem validity_inter_nonempty {a b : FiveTuple P T} : (a.validity ∩ b.validity).Nonempty ↔
    max a.notBefore b.notBefore ≤ min a.notAfter b.notAfter := by
  rw [FiveTuple.validity, FiveTuple.validity, Set.Icc_inter_Icc, Set.nonempty_Icc]

/-- The test of `validity_intersect`, for intervals that are not empty. -/
theorem validityIntersect_iff {a b : FiveTuple P T} (ha : a.Valid) (hb : b.Valid) :
    validityIntersect a b = true ↔ (a.validity ∩ b.validity).Nonempty := by
  rw [validityIntersect_eq_true, validity_inter_nonempty, max_le_iff, le_min_iff, le_min_iff]
  exact ⟨fun h => ⟨⟨ha, h.1⟩, h.2, hb⟩, fun h => ⟨h.1.2, h.2.1⟩⟩

/-! ### The loops -/

variable [DecidableEq P] (db : Principals P) (spkiTagIntersect : T → T → Option T)

/-- `spki_5_tuple_by_subject_next`, with the rest of the list. -/
def spki5TupleBySubjectNext (subject : P) :
    List (FiveTuple P T) → Option (FiveTuple P T × List (FiveTuple P T))
  | [] => none
  | tuple :: p =>
    if db.normalize tuple.subject = db.normalize subject then some (tuple, p)
    else spki5TupleBySubjectNext subject p

theorem length_spki5TupleBySubjectNext {subject : P} {i i' : List (FiveTuple P T)}
    {known : FiveTuple P T} (h : spki5TupleBySubjectNext db subject i = some (known, i')) :
    i'.length < i.length := by
  induction i with
  | nil => cases h
  | cons tuple i ih =>
    rw [spki5TupleBySubjectNext] at h
    split at h
    · cases h
      exact Nat.lt_succ_self _
    · exact (ih h).trans (Nat.lt_succ_self _)

/-- The loop in `reduce_with_list`. -/
def reduceLoop (tuple : Certificate P T) (i list : List (FiveTuple P T)) : List (FiveTuple P T) :=
  match _h : spki5TupleBySubjectNext db tuple.issuer i with
  | none => list
  | some (known, i') =>
    if known.propagate ∧ validityIntersect known tuple.tuple then
      match spkiTagIntersect known.tag tuple.tuple.tag with
      | some tag => reduceLoop tuple i' (reduced known tuple.tuple tag :: list)
      | none => reduceLoop tuple i' list
    else reduceLoop tuple i' list
termination_by i.length
decreasing_by all_goals exact length_spki5TupleBySubjectNext db ‹_›

/-- `reduce_with_list`. -/
def reduceWithList (list : List (FiveTuple P T)) (tuple : Certificate P T) : List (FiveTuple P T) :=
  reduceLoop db spkiTagIntersect tuple list list

/-- `spki_5_tuple_reduce`. -/
def spki5TupleReduce (acls : List (FiveTuple P T)) (sequence : List (Certificate P T)) :
    List (FiveTuple P T) :=
  sequence.foldl (reduceWithList db spkiTagIntersect) acls

/-! ### What a certificate adds -/

/-- What the body of the loop makes of a tuple. -/
def reduceOne (known : FiveTuple P T) (c : Certificate P T) : Option (FiveTuple P T) :=
  if db.normalize known.subject = db.normalize c.issuer ∧ known.propagate ∧
      validityIntersect known c.tuple then
    (spkiTagIntersect known.tag c.tuple.tag).map (reduced known c.tuple)
  else none

variable {db spkiTagIntersect} {c : Certificate P T} {i : List (FiveTuple P T)}

/-- Tuples with another subject are skipped. -/
theorem filterMap_reduceOne_of_none (h : spki5TupleBySubjectNext db c.issuer i = none) :
    i.filterMap (reduceOne db spkiTagIntersect · c) = [] := by
  induction i with
  | nil => rfl
  | cons tuple i ih =>
    rw [spki5TupleBySubjectNext] at h
    split at h
    · cases h
    · rename_i hne
      rw [filterMap_cons_none (by rw [reduceOne, if_neg fun h => hne h.1])]
      exact ih h

theorem filterMap_reduceOne_of_some {known : FiveTuple P T} {i' : List (FiveTuple P T)}
    (h : spki5TupleBySubjectNext db c.issuer i = some (known, i')) :
    db.normalize known.subject = db.normalize c.issuer ∧
      i.filterMap (reduceOne db spkiTagIntersect · c) =
        (reduceOne db spkiTagIntersect known c).toList ++
          i'.filterMap (reduceOne db spkiTagIntersect · c) := by
  induction i with
  | nil => cases h
  | cons tuple i ih =>
    rw [spki5TupleBySubjectNext] at h
    split at h
    · rename_i hsub
      cases h
      refine ⟨hsub, ?_⟩
      rw [filterMap_cons]
      cases reduceOne db spkiTagIntersect known c <;> rfl
    · rename_i hne
      rw [filterMap_cons_none (by rw [reduceOne, if_neg fun h => hne h.1])]
      exact ih h

/-- **`reduce_with_list`** goes through the old part of the list once. -/
theorem reduceLoop_eq {list : List (FiveTuple P T)} : reduceLoop db spkiTagIntersect c i list =
    (i.filterMap (reduceOne db spkiTagIntersect · c)).reverse ++ list := by
  fun_induction reduceLoop db spkiTagIntersect c i list with
  | case1 i list h =>
    rw [filterMap_reduceOne_of_none h]
    rfl
  | case2 i list known i' h hcd tag htag ih =>
    obtain ⟨hsub, heq⟩ := filterMap_reduceOne_of_some h
    rw [ih, heq, reduceOne, if_pos ⟨hsub, hcd⟩, htag]
    simp
  | case3 i list known i' h hcd htag ih =>
    obtain ⟨hsub, heq⟩ := filterMap_reduceOne_of_some h
    rw [ih, heq, reduceOne, if_pos ⟨hsub, hcd⟩, htag]
    rfl
  | case4 i list known i' h hcd ih =>
    obtain ⟨hsub, heq⟩ := filterMap_reduceOne_of_some h
    rw [ih, heq, reduceOne, if_neg fun h => hcd h.2]
    rfl

theorem reduceWithList_eq : reduceWithList db spkiTagIntersect =
    extendAll (reduceOne db spkiTagIntersect) := by
  funext list c
  rw [reduceWithList, reduceLoop_eq, extendAll]

/-! ### Chains of certificates -/

open Classical in
variable (db spkiTagIntersect) in
/-- What a certificate makes of the tuple reduced so far: its issuer is the subject of the tuple,
the tuple may be propagated, the intervals intersect, and the tags do. -/
noncomputable def extend (t : FiveTuple P T) (c : Certificate P T) : Option (FiveTuple P T) :=
  if db.normalize c.issuer = db.normalize t.subject ∧ t.propagate = true ∧
      (t.validity ∩ c.tuple.validity).Nonempty then
    (spkiTagIntersect t.tag c.tuple.tag).map (reduced t c.tuple)
  else none

variable {t : FiveTuple P T}

/-- The code does what it is for, and the new interval is not empty. -/
theorem reduceOne_eq_extend (ht : t.Valid) (hc : c.tuple.Valid) :
    reduceOne db spkiTagIntersect t c = extend db spkiTagIntersect t c ∧
      ∀ t', extend db spkiTagIntersect t c = some t' → t'.Valid := by
  have hiff : (db.normalize t.subject = db.normalize c.issuer ∧ t.propagate = true ∧
        validityIntersect t c.tuple = true) ↔
      (db.normalize c.issuer = db.normalize t.subject ∧ t.propagate = true ∧
        (t.validity ∩ c.tuple.validity).Nonempty) := by
    rw [validityIntersect_iff ht hc]
    exact and_congr_left fun _ => eq_comm
  rw [reduceOne, extend]
  refine ⟨?_, fun t' ht' => ?_⟩
  · by_cases hcd : db.normalize c.issuer = db.normalize t.subject ∧ t.propagate = true ∧
        (t.validity ∩ c.tuple.validity).Nonempty
    · rw [if_pos (hiff.mpr hcd), if_pos hcd]
    · rw [if_neg fun h => hcd (hiff.mp h), if_neg hcd]
  · split at ht'
    · rename_i hcd
      obtain ⟨tag, -, rfl⟩ := Option.map_eq_some_iff.mp ht'
      rw [FiveTuple.Valid, notBefore_reduced, notAfter_reduced]
      exact validity_inter_nonempty.mp hcd.2.2
    · cases ht'

variable {a : FiveTuple P T}

theorem chain_reduceOne_eq (ha : a.Valid) (s) (hs : ∀ c ∈ s, c.tuple.Valid) :
    chain (reduceOne db spkiTagIntersect) a s = chain (extend db spkiTagIntersect) a s ∧
      ∀ t, chain (extend db spkiTagIntersect) a s = some t → t.Valid := by
  induction s using List.reverseRecOn with
  | nil =>
    refine ⟨rfl, fun t ht => ?_⟩
    cases ht
    exact ha
  | append_singleton s c ih =>
    obtain ⟨heq, hval⟩ := ih fun c hc => hs c (mem_append_left _ hc)
    have hc : c.tuple.Valid := hs c (by simp)
    rw [chain_concat, chain_concat, heq]
    cases ht : chain (extend db spkiTagIntersect) a s with
    | none => exact ⟨rfl, nofun⟩
    | some t => exact reduceOne_eq_extend (hval t ht) hc

/-- The code extends at least what it should. -/
theorem reduceOne_of_extend {t t' : FiveTuple P T} (h : extend db spkiTagIntersect t c = some t') :
    reduceOne db spkiTagIntersect t c = some t' := by
  rw [extend] at h
  split at h
  · rename_i hcond
    obtain ⟨hsubject, hpropagate, hdate⟩ := hcond
    rw [validity_inter_nonempty, max_le_iff, le_min_iff, le_min_iff] at hdate
    have hintersect := validityIntersect_eq_true.mpr ⟨hdate.1.2, hdate.2.1⟩
    rw [reduceOne, if_pos ⟨hsubject.symm, hpropagate, hintersect⟩]
    exact h
  · cases h

theorem chain_reduceOne_of_extend {a t : FiveTuple P T} {s : List (Certificate P T)}
    (h : chain (extend db spkiTagIntersect) a s = some t) :
    chain (reduceOne db spkiTagIntersect) a s = some t := by
  induction s using List.reverseRecOn generalizing t with
  | nil => exact h
  | append_singleton s c ih =>
    rw [chain_concat] at h ⊢
    obtain ⟨u, hu, ht⟩ := Option.bind_eq_some_iff.mp h
    rw [ih hu]
    exact reduceOne_of_extend ht

/-- There are no empty intervals in a chain. -/
theorem valid_of_chain_extend {a t : FiveTuple P T} {s : List (Certificate P T)} (hs : s ≠ [])
    (h : chain (extend db spkiTagIntersect) a s = some t) :
    a.Valid ∧ ∀ c ∈ s, c.tuple.Valid := by
  induction s using List.reverseRecOn generalizing t with
  | nil => exact absurd rfl hs
  | append_singleton s c ih =>
    rw [chain_concat] at h
    obtain ⟨u, hu, ht⟩ := Option.bind_eq_some_iff.mp h
    rw [extend] at ht
    split at ht
    · rename_i hcond
      have hdate := hcond.2.2
      rw [validity_inter_nonempty, max_le_iff, le_min_iff, le_min_iff] at hdate
      by_cases hnil : s = []
      · subst hnil
        cases hu
        exact ⟨hdate.1.1, List.forall_mem_singleton.mpr hdate.2.2⟩
      · obtain ⟨ha, hall⟩ := ih hnil hu
        exact ⟨ha, List.forall_mem_append.mpr ⟨hall, List.forall_mem_singleton.mpr hdate.2.2⟩⟩
    · cases ht

/-- What comes out for an entry and a chain of certificates. -/
structure Reduces (spkiTagIntersect : T → T → Option T) (a : FiveTuple P T)
    (s : List (Certificate P T)) (t : FiveTuple P T) : Prop where
  issuer : t.issuer = a.issuer
  subject : ∀ c, s.getLast? = some c → t.subject = c.tuple.subject
  propagate : ∀ c, s.getLast? = some c → t.propagate = c.tuple.propagate
  tag : (s.map (·.tuple.tag)).foldlM spkiTagIntersect a.tag = some t.tag
  notBefore : t.notBefore = (s.map (·.tuple.notBefore)).foldl max a.notBefore
  notAfter : t.notAfter = (s.map (·.tuple.notAfter)).foldl min a.notAfter

theorem reduces_of_chain {s : List (Certificate P T)}
    (h : chain (extend db spkiTagIntersect) a s = some t) :
    Reduces spkiTagIntersect a s t := by
  induction s using List.reverseRecOn generalizing t with
  | nil =>
    cases h
    exact ⟨rfl, nofun, nofun, rfl, rfl, rfl⟩
  | append_singleton s c ih =>
    rw [chain_concat] at h
    obtain ⟨u, hu, ht⟩ := Option.bind_eq_some_iff.mp h
    have hpv := ih hu
    rw [extend] at ht
    split at ht
    · obtain ⟨tag, htag, rfl⟩ := Option.map_eq_some_iff.mp ht
      have hla (c' : Certificate P T) (hc' : (s ++ [c]).getLast? = some c') : c' = c := by
        rw [getLast?_concat] at hc'
        exact (Option.some.inj hc').symm
      refine ⟨hpv.issuer, fun c' hc' => ?_, fun c' hc' => ?_, ?_, ?_, ?_⟩
      · rw [hla c' hc']
        rfl
      · rw [hla c' hc']
        rfl
      · rw [map_append, foldlM_append, hpv.tag]
        show _ = some tag
        simpa using htag
      · rw [notBefore_reduced, hpv.notBefore]
        simp
      · rw [notAfter_reduced, hpv.notAfter]
        simp
    · cases ht

variable (db spkiTagIntersect) in
/-- No tuple with an empty interval is used where the code extends an entry of the ACL. -/
def NoneInverted (acls : List (FiveTuple P T)) (sequence : List (Certificate P T)) : Prop :=
  ∀ a ∈ acls, ∀ s ∈ sequence.sublists.filter (· ≠ []),
    (chain (reduceOne db spkiTagIntersect) a s).isSome → a.Valid ∧ ∀ c ∈ s, c.tuple.Valid

variable (db spkiTagIntersect) in
/-- **Exactly the chains.** The result consists of the entries of the ACL, and of one tuple for
every entry and every subsequence of the certificates, not empty, that is a chain, if and only if no
tuple with an empty interval is used. -/
theorem spki5TupleReduce_perm (acls : List (FiveTuple P T)) (sequence : List (Certificate P T)) :
    ((spki5TupleReduce db spkiTagIntersect acls sequence).Perm
        (acls ++ acls.flatMap fun a => (sequence.sublists.filter (· ≠ [])).filterMap
          (chain (extend db spkiTagIntersect) a)) ↔
      NoneInverted db spkiTagIntersect acls sequence) ∧
    ∀ a s t, chain (extend db spkiTagIntersect) a s = some t → Reduces spkiTagIntersect a s t := by
  refine ⟨?_, fun a s t => reduces_of_chain⟩
  rw [spki5TupleReduce, reduceWithList_eq]
  have hperm := foldl_extendAll_perm_append (reduceOne db spkiTagIntersect) acls sequence
  constructor
  · intro h a ha s hs hsome
    have hlength := ((List.perm_append_left_iff acls).mp (hperm.symm.trans h)).length_eq
    have hextend := isSome_of_length_flatMap_filterMap (fun a _ s _ hsome => by
      obtain ⟨t, ht⟩ := Option.isSome_iff_exists.mp hsome
      rw [chain_reduceOne_of_extend ht]
      rfl) hlength a ha s hs hsome
    obtain ⟨t, ht⟩ := Option.isSome_iff_exists.mp hextend
    exact valid_of_chain_extend (by simpa using (List.mem_filter.mp hs).2) ht
  · intro hnone
    refine hperm.trans (.of_eq ?_)
    congr 1
    refine flatMap_congr fun a ha => filterMap_congr fun s hs => ?_
    cases hchain : chain (reduceOne db spkiTagIntersect) a s with
    | none =>
      cases hextend : chain (extend db spkiTagIntersect) a s with
      | none => rfl
      | some t => exact absurd (chain_reduceOne_of_extend hextend) (by rw [hchain]; nofun)
    | some t =>
      obtain ⟨hvalid, hall⟩ := hnone a ha s hs (by rw [hchain]; rfl)
      rw [← (chain_reduceOne_eq hvalid s hall).1, hchain]

end Tuples

/-! ### Examples -/

/-- Principals without aliases. -/
def noAliases : Principals ℕ := ⟨fun _ => none, fun _ => 0, nofun⟩

/-- An entry of the ACL for the principal 0. The start of its interval is the last date there is,
and its end is the first one. -/
def invertedEntry : FiveTuple ℕ Unit :=
  ⟨none, 0, true, true, true, spkiDateForEver, spkiDateSinceEver, (), nofun, nofun⟩

/-- A certificate that is valid at all times. -/
def unlimited (issuer subject : ℕ) : Certificate ℕ Unit :=
  ⟨⟨some issuer, subject, true, false, false, spkiDateSinceEver, spkiDateForEver, (), fun _ => rfl,
    fun _ => rfl⟩, issuer, rfl⟩

theorem normalize_noAliases (p) : noAliases.normalize p = p := by
  rw [Principals.normalize]
  rfl

/-- The interval of the entry is empty, and nevertheless it is reduced. -/
theorem spki5TupleReduce_inverted :
    spki5TupleReduce noAliases (fun _ _ => some ()) [invertedEntry] [unlimited 0 1] =
        [reduced invertedEntry (unlimited 0 1).tuple (), invertedEntry] ∧
      ¬(invertedEntry.validity ∩ (unlimited 0 1).tuple.validity).Nonempty := by
  have hone : reduceOne noAliases (fun _ _ => some ()) invertedEntry (unlimited 0 1) =
      some (reduced invertedEntry (unlimited 0 1).tuple ()) := by
    rw [reduceOne, if_pos]
    · rfl
    · rw [normalize_noAliases, normalize_noAliases, validityIntersect_eq_true]
      exact ⟨rfl, rfl, le_refl _, le_refl _⟩
  refine ⟨?_, fun hne => ?_⟩
  · rw [spki5TupleReduce, reduceWithList_eq]
    simp [extendAll, hone]
  · have hle : spkiDateForEver ≤ spkiDateSinceEver :=
      (le_max_left _ _).trans ((validity_inter_nonempty.mp hne).trans (min_le_left _ _))
    exact absurd hle (by decide)

end Lsh.Spki
