
import Lsh.Library.Octets
import Mathlib.Data.Set.Function

/-!
# The database of principals

A model of the lookups of principals in `certificate.c`. A principal is mentioned by its key or by
one of three hashes of it. An entry that was made for a hash gets its key when the key is seen for
the first time. Other entries for hashes of the same key may be in the list already. They become
aliases of the entry that got the key.

The entries are in the order in which they were made, and a pointer to a principal is its place. The
program adds entries at the front and looks from there, so an entry precedes another one in the list
of the program if its place is greater.

What the database is for: a key is the same entry however it is mentioned. `DbInv` says why. An
entry with a known key is in front of everything else that stands for this key, and everything else
is an alias of it. So the first match of a search is the entry with the key, if there is one.

## Main results

* `Identified.lookup` — what a lookup keeps
* `lookups_identify` — one entry for each key, in every state
-/

namespace Lsh.Spki

open List

/-! ### Entries -/

inductive HashAlgorithm where
  | md5 | sha1 | sha256
  deriving DecidableEq, Repr

/-- How a principal is mentioned. -/
inductive Mention where
  | key (key : Octets)
  | hash (algorithm : HashAlgorithm) (digest : Octets)
  deriving DecidableEq, Repr

/-- `struct spki_principal`. Its key is known, and so are all hashes of it, or exactly one hash is
known. -/
structure SpkiPrincipal (V : Type) where
  known : Mention
  aliasOf : Option ℕ
  verifier : Option V

variable {V : Type} (hash : HashAlgorithm → Octets → Octets)

def SpkiPrincipal.key (s : SpkiPrincipal V) : Option Octets :=
  match s.known with
  | .key k => some k
  | .hash _ _ => none

/-- The key itself or, as in `HASH_MATCH`, one of its hashes. -/
def Mention.isOf (key : Octets) : Mention → Bool
  | .key k => k = key
  | .hash a digest => digest = hash a key

/-- The key or the digest is one of those that are known. -/
def Mention.knows (known m : Mention) : Bool :=
  match known with
  | .key k => m.isOf hash k
  | .hash a digest => m = .hash a digest

/-- The loop over the list, from the newest of the first `n` entries on. -/
def newest (p : SpkiPrincipal V → Bool) (db : List (SpkiPrincipal V)) : ℕ → Option ℕ
  | 0 => none
  | n + 1 => if db[n]?.any p then some n else newest p db n

/-! ### Lookups -/

/-- The assignments to the entry at `i` in `spki_principal_by_key`, and
`spki_principal_fix_aliases`, which goes through the entries behind it. -/
def learn (key : Octets) (i j : ℕ) (s : SpkiPrincipal V) : SpkiPrincipal V :=
  if j = i then { s with known := .key key }
  else if j < i ∧ s.key = none ∧ s.aliasOf = none ∧ s.known.isOf hash key then
    { s with aliasOf := some i }
  else s

/-- `spki_principal_by_key`, where the new entry and the key in it can be allocated. -/
def spkiPrincipalByKey (db : List (SpkiPrincipal V)) (key : Octets) : ℕ × List (SpkiPrincipal V) :=
  match newest (fun s => s.known.isOf hash key) db db.length with
  | some i => (i, if db[i]?.any (·.key.isSome) then db else db.mapIdx (learn hash key i))
  | none => (db.length, db ++ [⟨.key key, none, none⟩])

/-- `spki_principal_by_md5`, `spki_principal_by_sha1` and `spki_principal_by_sha256`. -/
def spkiPrincipalByHash (a : HashAlgorithm) (db : List (SpkiPrincipal V)) (digest : Octets) :
    ℕ × List (SpkiPrincipal V) :=
  match newest (fun s => s.known.knows hash (.hash a digest)) db db.length with
  | some i => (i, db)
  | none => (db.length, db ++ [⟨.hash a digest, none, none⟩])

/-- The principal that is returned, and the list afterwards. -/
def lookup (db : List (SpkiPrincipal V)) : Mention → ℕ × List (SpkiPrincipal V)
  | .key key => spkiPrincipalByKey hash db key
  | .hash a digest => spkiPrincipalByHash hash a db digest

/-- The loop of `spki_principal_normalize`, for at most `n` entries. -/
def normalizeLoop (db : List (SpkiPrincipal V)) : ℕ → ℕ → Option ℕ
  | 0, _ => none
  | n + 1, principal =>
    db[principal]?.bind fun s =>
      match s.aliasOf with
      | none => some principal
      | some p => normalizeLoop db n p

/-- `spki_principal_normalize`. There is no result if the aliases form a cycle. -/
def spkiPrincipalNormalize (db : List (SpkiPrincipal V)) (principal : ℕ) : Option ℕ :=
  normalizeLoop db db.length principal

/-- A database, with the principals that the lookups so far have returned. -/
structure Lookups (V : Type) where
  db : List (SpkiPrincipal V)
  returned : List (Mention × ℕ)

def Lookups.lookup (s : Lookups V) (m : Mention) : Lookups V :=
  ⟨(Spki.lookup hash s.db m).2, s.returned ++ [(m, (Spki.lookup hash s.db m).1)]⟩

/-- A sequence of lookups in an empty database. -/
def lookups (ms : List Mention) : Lookups V :=
  ms.foldl (Lookups.lookup hash) ⟨[], []⟩

/-! ### Searches -/

section Searches

variable {p : SpkiPrincipal V → Bool} {db : List (SpkiPrincipal V)} {s : SpkiPrincipal V} {n i : ℕ}

theorem newest_eq_some (h : newest p db n = some i) :
    (∃ s, db[i]? = some s ∧ p s = true) ∧ ∀ j s, i < j → j < n → db[j]? = some s → p s = false := by
  induction n with
  | zero => cases h
  | succ n ih =>
    rw [newest] at h
    split_ifs at h with hany
    · cases h
      exact ⟨(Option.any_eq_true _ _).mp hany, fun j s hj hn => absurd hn (by omega)⟩
    · refine ⟨(ih h).1, fun j s hj hn hs => ?_⟩
      rcases Nat.lt_succ_iff_lt_or_eq.mp hn with hlt | rfl
      · exact (ih h).2 j s hj hlt hs
      · simpa [hs] using hany

theorem newest_eq_none {j : ℕ} (h : newest p db n = none) (hj : j < n) (hs : db[j]? = some s) :
    p s = false := by
  induction n with
  | zero => exact absurd hj (Nat.not_lt_zero j)
  | succ n ih =>
    rw [newest] at h
    split_ifs at h with hany
    rcases Nat.lt_succ_iff_lt_or_eq.mp hj with hlt | rfl
    · exact ih h hlt
    · simpa [hs] using hany

/-- A search does not go past an entry that matches. -/
theorem exists_newest (hs : db[i]? = some s) (hp : p s) :
    ∃ j, newest p db db.length = some j ∧ i ≤ j := by
  have hi : i < db.length := (List.getElem?_eq_some_iff.mp hs).1
  cases hn : newest p db db.length with
  | none => exact absurd (hp.symm.trans (newest_eq_none hn hi hs)) nofun
  | some j =>
    refine ⟨j, rfl, Nat.not_lt.mp fun hlt => ?_⟩
    exact absurd (hp.symm.trans ((newest_eq_some hn).2 i s hlt hi hs)) nofun

end Searches

/-! ### What holds of a database -/

/-- An entry with a key is in front of everything else that stands for the key, and everything else
is an alias of it. There are no other aliases. -/
structure DbInv (keys : Set Octets) (db : List (SpkiPrincipal V)) : Prop where
  known : ∀ {i : ℕ} {s : SpkiPrincipal V} {k : Octets}, db[i]? = some s → s.known = .key k →
    k ∈ keys ∧ s.aliasOf = none
  aliased : ∀ {i j : ℕ} {s : SpkiPrincipal V}, db[i]? = some s → s.aliasOf = some j →
    i < j ∧ ∃ (t : SpkiPrincipal V) (k : Octets),
      db[j]? = some t ∧ t.known = .key k ∧ s.known.isOf hash k
  first : ∀ {i j : ℕ} {s t : SpkiPrincipal V} {k : Octets}, db[i]? = some s → s.known = .key k →
    db[j]? = some t → t.known.isOf hash k → j = i ∨ j < i ∧ t.aliasOf = some i

variable {hash} {keys : Set Octets} {db : List (SpkiPrincipal V)} {m : Mention} {k : Octets}

/-- What is known of a principal belongs to one key only. -/
theorem Mention.key_unique (hinj : ∀ a, Set.InjOn (hash a) keys) {k' : Octets} (hk : k ∈ keys)
    (hk' : k' ∈ keys) (h : m.isOf hash k = true) (h' : m.isOf hash k' = true) : k = k' := by
  cases m with
  | key key => grind [Mention.isOf]
  | hash a d =>
    have hdig : hash a k = hash a k' := by grind [Mention.isOf]
    exact hinj a hk hk' hdig

theorem SpkiPrincipal.key_of_isOf {s : SpkiPrincipal V} (h : s.known.isOf hash k = true) :
    s.key = none ∨ s.known = .key k := by
  rw [SpkiPrincipal.key]
  cases hs : s.known with
  | key k' => simpa [hs, Mention.isOf] using h
  | hash a d => exact .inl rfl

theorem SpkiPrincipal.known_ne {s : SpkiPrincipal V} (h : s.key = none) (k : Octets) :
    s.known ≠ .key k := by
  rintro hk
  simp [SpkiPrincipal.key, hk] at h

namespace DbInv

variable (h : DbInv hash keys db) (hinj : ∀ a, Set.InjOn (hash a) keys)
include h hinj

variable {s : SpkiPrincipal V}

/-- An entry that knows what a key was mentioned by stands for this key. -/
theorem isOf_of_knows {i : ℕ} (hs : db[i]? = some s) (hk : k ∈ keys) (hm : m.isOf hash k = true)
    (hkn : s.known.knows hash m = true) :
    s.known.isOf hash k = true := by
  cases hkey : s.known with
  | key k' =>
    rw [hkey, Mention.knows] at hkn
    simp [Mention.isOf, Mention.key_unique hinj (h.known hs hkey).1 hk hkn hm]
  | hash a d =>
    rw [hkey, Mention.knows, decide_eq_true_iff] at hkn
    rwa [← hkn]

/-- A principal normalizes to itself or to the entry that it is an alias of. -/
theorem normalize {i : ℕ} (hs : db[i]? = some s) :
    ∃ r t, spkiPrincipalNormalize db i = some r ∧ db[r]? = some t ∧ r = s.aliasOf.getD i ∧
      ∀ k ∈ keys, s.known.isOf hash k = true → t.known.isOf hash k = true := by
  have hi : i < db.length := (List.getElem?_eq_some_iff.mp hs).1
  cases hal : s.aliasOf with
  | none =>
    obtain ⟨n, hn⟩ : ∃ n, db.length = n + 1 := ⟨db.length - 1, by omega⟩
    refine ⟨i, s, ?_, hs, rfl, fun _ _ hof => hof⟩
    simp [spkiPrincipalNormalize, hn, normalizeLoop, hs, hal]
  | some j =>
    obtain ⟨hij, t, k', ht, hkey, hof'⟩ := h.aliased hs hal
    have hj : j < db.length := (List.getElem?_eq_some_iff.mp ht).1
    obtain ⟨n, hn⟩ : ∃ n, db.length = n + 2 := ⟨db.length - 2, by omega⟩
    obtain ⟨hk', hroot⟩ := h.known ht hkey
    refine ⟨j, t, ?_, ht, rfl, fun k hk hof => ?_⟩
    · simp [spkiPrincipalNormalize, hn, normalizeLoop, hs, hal, ht, hroot]
    · simp [hkey, Mention.isOf, Mention.key_unique hinj hk' hk hof' hof]

end DbInv

/-! ### What a lookup keeps -/

/-- An entry is added. -/
theorem DbInv.append (h : DbInv hash keys db) (hm : ∀ k, m = .key k → k ∈ keys)
    (hnew : ∀ {i : ℕ} {s : SpkiPrincipal V} {k : Octets}, db[i]? = some s →
      (s.known = .key k → m.isOf hash k = false) ∧ (m = .key k → s.known.isOf hash k = false)) :
    DbInv hash keys (db ++ [⟨m, none, none⟩]) := by
  have hcs : ∀ {i : ℕ} {s : SpkiPrincipal V}, (db ++ [⟨m, none, none⟩])[i]? = some s →
      db[i]? = some s ∨ i = db.length ∧ s = ⟨m, none, none⟩ := by
    grind
  constructor
  · intro i s k hs hkey
    rcases hcs hs with hold | ⟨-, rfl⟩
    · exact h.known hold hkey
    · exact ⟨hm k hkey, rfl⟩
  · intro i j s hs hj
    rcases hcs hs with hold | ⟨-, rfl⟩
    · obtain ⟨hij, t, k, ht, hk⟩ := h.aliased hold hj
      exact ⟨hij, t, k, by grind, hk⟩
    · cases hj
  · intro i j s t k hs hkey ht hof
    rcases hcs hs with hi | ⟨rfl, rfl⟩ <;> rcases hcs ht with hj | ⟨rfl, rfl⟩
    · exact h.first hi hkey hj hof
    · exact absurd (((hnew hi).1 hkey).symm.trans hof) nofun
    · exact absurd (((hnew hj).2 hkey).symm.trans hof) nofun
    · exact .inl rfl

section Learn

variable {i : ℕ} {key : Octets}

theorem known_learn {j : ℕ} (hne : j ≠ i) (s : SpkiPrincipal V) :
    (learn hash key i j s).known = s.known := by
  rw [learn, if_neg hne]
  split_ifs <;> rfl

theorem aliasOf_learn {j : ℕ} (hne : j ≠ i) (s : SpkiPrincipal V) :
    (learn hash key i j s).aliasOf =
      if j < i ∧ s.key = none ∧ s.aliasOf = none ∧ s.known.isOf hash key = true then some i
      else s.aliasOf := by
  rw [learn, if_neg hne]
  split_ifs <;> rfl

theorem learn_self (s : SpkiPrincipal V) : learn hash key i i s = { s with known := .key key } :=
  if_pos rfl

/-- The first entry that stands for a key gets it. -/
theorem DbInv.learn (h : DbInv hash keys db) (hinj : ∀ a, Set.InjOn (hash a) keys)
    (hmem : key ∈ keys)
    {s : SpkiPrincipal V} (hs : db[i]? = some s) (hof : s.known.isOf hash key = true)
    (hunk : s.key = none)
    (hnw : ∀ j t, i < j → db[j]? = some t → t.known.isOf hash key = false) :
    DbInv hash keys (db.mapIdx (learn hash key i)) := by
  -- an entry with the key would be in front of this one
  have hno : ∀ {j : ℕ} {t : SpkiPrincipal V}, db[j]? = some t → t.known ≠ .key key := by
    intro j t ht hkey
    have hoft : t.known.isOf hash key = true := by simp [hkey, Mention.isOf]
    rcases h.first ht hkey hs hof with rfl | ⟨hlt, -⟩
    · cases hs.symm.trans ht
      exact SpkiPrincipal.known_ne hunk key hkey
    · exact absurd (hoft.symm.trans (hnw j t hlt ht)) nofun
  -- so nothing that stands for the key is an alias
  have hfe : ∀ {j : ℕ} {t : SpkiPrincipal V}, db[j]? = some t → t.known.isOf hash key = true →
      t.aliasOf = none := by
    intro j t ht hoft
    by_contra hal
    obtain ⟨m, hm⟩ := Option.ne_none_iff_exists'.mp hal
    obtain ⟨-, u, k, hu, hkey, hofk⟩ := h.aliased ht hm
    exact hno hu (Mention.key_unique hinj (h.known hu hkey).1 hmem hofk hoft ▸ hkey)
  have hroot : s.aliasOf = none := hfe hs hof
  have hget : ∀ {j : ℕ} {t : SpkiPrincipal V}, (db.mapIdx (Spki.learn hash key i))[j]? = some t →
      ∃ t₀, db[j]? = some t₀ ∧ Spki.learn hash key i j t₀ = t := by
    intro j t ht
    rw [getElem?_mapIdx] at ht
    exact Option.map_eq_some_iff.mp ht
  have hput : ∀ {j : ℕ} {t : SpkiPrincipal V}, db[j]? = some t →
      (db.mapIdx (Spki.learn hash key i))[j]? = some (Spki.learn hash key i j t) := by
    intro j t ht
    rw [getElem?_mapIdx, ht, Option.map_some]
  constructor
  · intro j t k ht hkey
    obtain ⟨t₀, ht₀, rfl⟩ := hget ht
    by_cases hij : j = i
    · subst hij
      cases hs.symm.trans ht₀
      rw [learn_self] at hkey ⊢
      cases hkey
      exact ⟨hmem, hroot⟩
    · rw [known_learn hij] at hkey
      rw [aliasOf_learn hij, if_neg fun hc => SpkiPrincipal.known_ne hc.2.1 k hkey]
      exact h.known ht₀ hkey
  · intro j m t ht hm
    obtain ⟨t₀, ht₀, rfl⟩ := hget ht
    by_cases hij : j = i
    · subst hij
      cases hs.symm.trans ht₀
      rw [learn_self] at hm
      exact absurd (hm.symm.trans hroot) nofun
    · rw [aliasOf_learn hij] at hm
      simp only [known_learn hij]
      split_ifs at hm with hc
      · cases hm
        exact ⟨hc.1, _, key, hput hs, by rw [learn_self], hc.2.2.2⟩
      · obtain ⟨hlt, u, k, hu, hkey, hofk⟩ := h.aliased ht₀ hm
        refine ⟨hlt, _, k, hput hu, ?_, hofk⟩
        rw [known_learn, hkey]
        rintro rfl
        cases hs.symm.trans hu
        exact SpkiPrincipal.known_ne hunk k hkey
  · intro j m t u k ht hkey hu hofu
    obtain ⟨t₀, ht₀, rfl⟩ := hget ht
    obtain ⟨u₀, hu₀, rfl⟩ := hget hu
    rw [or_iff_not_imp_left]
    intro hne
    by_cases hij : j = i
    · -- the others that stand for the key are older, and become aliases
      subst hij
      rw [learn_self] at hkey
      cases hkey
      rw [known_learn hne] at hofu
      have hlt : m < j := by
        rcases Nat.lt_or_gt_of_ne hne with hlt | hgt
        · exact hlt
        · exact absurd (hofu.symm.trans (hnw m u₀ hgt hu₀)) nofun
      rw [aliasOf_learn hne, if_pos ⟨hlt,
        (SpkiPrincipal.key_of_isOf hofu).resolve_right (hno hu₀), hfe hu₀ hofu, hofu⟩]
      exact ⟨hlt, rfl⟩
    · rw [known_learn hij] at hkey
      by_cases hmi : m = i
      · subst hmi
        rw [learn_self, Mention.isOf, decide_eq_true_iff] at hofu
        exact absurd (hofu ▸ hkey) (hno ht₀)
      · rw [known_learn hmi] at hofu
        obtain ⟨hlt, hal⟩ := (h.first ht₀ hkey hu₀ hofu).resolve_left hne
        rw [aliasOf_learn hmi, if_neg fun hc => by simp [hal] at hc]
        exact ⟨hlt, hal⟩

end Learn

/-- What a lookup keeps. The principal that it returns knows what was looked up. -/
structure LookedUp (hash : HashAlgorithm → Octets → Octets) (keys : Set Octets)
    (db : List (SpkiPrincipal V)) (m : Mention) (r : ℕ × List (SpkiPrincipal V)) : Prop where
  inv : DbInv hash keys r.2
  knows : ∀ (i : ℕ) (s : SpkiPrincipal V), db[i]? = some s → ∃ t, r.2[i]? = some t ∧
    ∀ m, s.known.knows hash m → t.known.knows hash m
  found : ∃ s, r.2[r.1]? = some s ∧ s.known.knows hash m

variable {i : ℕ} {s : SpkiPrincipal V}

theorem LookedUp.unchanged (h : DbInv hash keys db) (hs : db[i]? = some s)
    (hm : s.known.knows hash m = true) : LookedUp hash keys db m (i, db) :=
  ⟨h, fun _ t ht => ⟨t, ht, fun _ hm => hm⟩, s, hs, hm⟩

theorem Mention.knows_self (m : Mention) : m.knows hash m = true := by
  cases m <;> simp [Mention.knows, Mention.isOf]

/-- A key knows what the entry that gets it knew before. -/
theorem SpkiPrincipal.knows_of_isOf {s : SpkiPrincipal V} (h : s.known.isOf hash k = true)
    (hm : s.known.knows hash m = true) : (Mention.key k).knows hash m = true := by
  cases hs : s.known with
  | key k' | hash a d => simp_all [Mention.isOf, Mention.knows]

theorem Mention.eq_key_of_knows (h : m.knows hash (.key k)) : m = .key k := by
  cases m <;> simp_all [Mention.knows, Mention.isOf]

theorem LookedUp.added (h : DbInv hash keys (db ++ [⟨m, none, none⟩])) :
    LookedUp hash keys db m (db.length, db ++ [⟨m, none, none⟩]) := by
  refine ⟨h, fun i s hs => ⟨s, ?_, fun _ hm => hm⟩, ⟨m, none, none⟩, by simp, Mention.knows_self m⟩
  rw [List.getElem?_append_left (List.getElem?_eq_some_iff.mp hs).1, hs]

theorem spkiPrincipalByKey_lookedUp (h : DbInv hash keys db) (hinj : ∀ a, Set.InjOn (hash a) keys)
    {key : Octets} (hmem : key ∈ keys) :
    LookedUp hash keys db (.key key) (spkiPrincipalByKey hash db key) := by
  rw [spkiPrincipalByKey]
  cases hn : newest (fun s => s.known.isOf hash key) db db.length with
  | none =>
    refine LookedUp.added (h.append (fun k hk => by cases hk; exact hmem) fun {i s k} hs => ?_)
    have hof : s.known.isOf hash key = false :=
      newest_eq_none hn (List.getElem?_eq_some_iff.mp hs).1 hs
    constructor
    · intro hkey
      simpa [hkey, Mention.isOf, eq_comm] using hof
    · rintro hkey
      cases hkey
      exact hof
  | some i =>
    obtain ⟨⟨s, hs, hof⟩, hnewer⟩ := newest_eq_some hn
    dsimp only
    rw [hs, Option.any_some]
    cases hkey : s.key with
    | some k =>
      refine LookedUp.unchanged h hs ?_
      rw [(SpkiPrincipal.key_of_isOf hof).resolve_left (hkey ▸ nofun)]
      exact Mention.knows_self _
    | none =>
      refine ⟨h.learn hinj hmem hs hof hkey fun j t hij ht =>
        hnewer j t hij (List.getElem?_eq_some_iff.mp ht).1 ht, fun j t ht =>
        ⟨learn hash key i j t, ?_, ?_⟩,
        learn hash key i i s, ?_, ?_⟩
      · exact (List.getElem?_mapIdx ..).trans (congrArg _ ht)
      · intro m hm
        by_cases hij : j = i
        · subst hij
          cases hs.symm.trans ht
          rw [learn_self]
          exact SpkiPrincipal.knows_of_isOf hof hm
        · rwa [known_learn hij]
      · exact (List.getElem?_mapIdx ..).trans (congrArg _ hs)
      · rw [learn_self]
        exact Mention.knows_self _

theorem spkiPrincipalByHash_lookedUp (h : DbInv hash keys db) (a digest) :
    LookedUp hash keys db (.hash a digest) (spkiPrincipalByHash hash a db digest) := by
  rw [spkiPrincipalByHash]
  cases hn : newest (fun s => s.known.knows hash (.hash a digest)) db db.length with
  | some i =>
    obtain ⟨⟨s, hs, hkn⟩, -⟩ := newest_eq_some hn
    exact LookedUp.unchanged h hs hkn
  | none =>
    refine LookedUp.added (h.append nofun fun {i s k} hs => ⟨fun hkey => ?_, nofun⟩)
    -- an entry with the key would have the digest
    have hkn : s.known.knows hash (.hash a digest) = false :=
      newest_eq_none hn (List.getElem?_eq_some_iff.mp hs).1 hs
    rwa [hkey] at hkn

theorem lookup_lookedUp (h : DbInv hash keys db) (hinj : ∀ a, Set.InjOn (hash a) keys)
    (hm : ∀ k, m = .key k → k ∈ keys) : LookedUp hash keys db m (lookup hash db m) := by
  cases m with
  | key key => exact spkiPrincipalByKey_lookedUp h hinj (hm key rfl)
  | hash a digest => exact spkiPrincipalByHash_lookedUp h a digest

/-- No lookup goes past the entry with the key. -/
theorem le_lookup (hs : db[i]? = some s) (hkey : s.known = .key k) (hm : m.isOf hash k) :
    i ≤ (lookup hash db m).1 := by
  cases m with
  | key k' =>
    obtain ⟨j, hn, hij⟩ := exists_newest (p := fun s => s.known.isOf hash k') hs
      (by simpa [hkey, Mention.isOf, eq_comm] using hm)
    rw [lookup, spkiPrincipalByKey, hn]
    exact hij
  | hash a digest =>
    obtain ⟨j, hn, hij⟩ := exists_newest (p := fun s => s.known.knows hash (.hash a digest)) hs
      (by rw [hkey]; exact hm)
    rw [lookup, spkiPrincipalByHash, hn]
    exact hij

/-! ### Sequences of lookups -/

/-- What holds after a sequence of lookups. -/
structure Identified (hash : HashAlgorithm → Octets → Octets) (keys : Set Octets) (s : Lookups V) :
    Prop where
  inv : DbInv hash keys s.db
  answered : ∀ m p, (m, p) ∈ s.returned → ∃ e, s.db[p]? = some e ∧ e.known.knows hash m = true

namespace Identified

variable {s : Lookups V} (hinj : ∀ a, Set.InjOn (hash a) keys) (h : Identified hash keys s)
include hinj h

theorem lookup (hm : ∀ k, m = .key k → k ∈ keys) : Identified hash keys (s.lookup hash m) := by
  have hlk := lookup_lookedUp h.inv hinj hm
  refine ⟨hlk.inv, fun m' p hp => ?_⟩
  rcases List.mem_append.mp hp with hold | hnew
  · obtain ⟨e, he, ha⟩ := h.answered m' p hold
    obtain ⟨t, ht, hkn⟩ := hlk.knows p e he
    exact ⟨t, ht, hkn m' ha⟩
  · cases List.mem_singleton.mp hnew
    exact hlk.found

theorem lookups (ms : List Mention) (hms : ∀ k, .key k ∈ ms → k ∈ keys) :
    Identified hash keys (ms.foldl (Lookups.lookup hash) s) := by
  induction ms generalizing s with
  | nil => exact h
  | cons m ms ih =>
    refine ih (h.lookup hinj fun k hk => hms k (hk ▸ mem_cons_self)) fun k hk => ?_
    exact hms k (mem_cons_of_mem m hk)

end Identified

variable (hash) in
theorem returned_foldl (ms) (s : Lookups V) :
    ∃ new, (ms.foldl (Lookups.lookup hash) s).returned = s.returned ++ new ∧
      new.map Prod.fst = ms := by
  induction ms generalizing s with
  | nil => exact ⟨[], by simp⟩
  | cons m ms ih =>
    obtain ⟨new, hret, hnew⟩ := ih (s.lookup hash m)
    refine ⟨(m, (lookup hash s.db m).1) :: new, ?_, by rw [map_cons, hnew]⟩
    rw [foldl_cons, hret, Lookups.lookup, append_assoc, singleton_append]

variable (hash) (keys)

/-- An alias leads forward in the list, to an entry whose key is known, and principals of different
keys have no entry in common. -/
structure Distinguishes (s : Lookups V) : Prop where
  aliased : ∀ (i j : ℕ) (e : SpkiPrincipal V), s.db[i]? = some e → e.aliasOf = some j →
    i < j ∧ ∃ t, s.db[j]? = some t ∧ t.key.isSome
  normalizes : ∀ m p, (m, p) ∈ s.returned → (spkiPrincipalNormalize s.db p).isSome
  distinct : ∀ k ∈ keys, ∀ k' ∈ keys, k ≠ k' → ∀ m p m' p', (m, p) ∈ s.returned →
    m.isOf hash k → (m', p') ∈ s.returned → m'.isOf hash k' →
    spkiPrincipalNormalize s.db p ≠ spkiPrincipalNormalize s.db p'

/-- All principals that were returned for the key normalize to this entry, and it is the one that
lookups of the key return. -/
structure Settled (k : Octets) (e : ℕ) (s : Lookups V) : Prop where
  normalizes : ∀ m p, (m, p) ∈ s.returned → m.isOf hash k →
    spkiPrincipalNormalize s.db p = some e
  returns : ∀ m : Mention, m.isOf hash k → (lookup hash s.db m).1 = e

variable {hash} {keys}

namespace Identified

variable {s : Lookups V} (hinj : ∀ a, Set.InjOn (hash a) keys) (h : Identified hash keys s)
include hinj h

theorem distinguishes : Distinguishes hash keys s := by
  constructor
  · intro i j e he hj
    obtain ⟨hij, t, k, ht, hkey, -⟩ := h.inv.aliased he hj
    exact ⟨hij, t, ht, by simp [SpkiPrincipal.key, hkey]⟩
  · intro m p hp
    obtain ⟨e, he, -⟩ := h.answered m p hp
    obtain ⟨r, t, hr, -⟩ := h.inv.normalize hinj he
    simp [hr]
  · intro k hk k' hk' hne m p m' p' hp hm hp' hm' heq
    obtain ⟨e, he, hkn⟩ := h.answered m p hp
    obtain ⟨e', he', hkn'⟩ := h.answered m' p' hp'
    obtain ⟨r, t, hr, ht, -, hof⟩ := h.inv.normalize hinj he
    obtain ⟨r', t', hr', ht', -, hof'⟩ := h.inv.normalize hinj he'
    cases hr.symm.trans (heq.trans hr')
    cases ht.symm.trans ht'
    exact hne (Mention.key_unique hinj hk hk' (hof k hk (h.inv.isOf_of_knows hinj he hk hm hkn))
      (hof' k' hk' (h.inv.isOf_of_knows hinj he' hk' hm' hkn')))

/-- Everything that is looked up for a known key leads to its entry. -/
theorem settled {e : ℕ} {x : SpkiPrincipal V} (hx : s.db[e]? = some x) (hkey : x.known = .key k)
    (hms : k ∈ keys) : Settled hash k e s := by
  constructor
  · intro m p hp hm
    obtain ⟨y, hy, hkn⟩ := h.answered m p hp
    obtain ⟨r, t, hr, -, hal, -⟩ := h.inv.normalize hinj hy
    have hof := h.inv.isOf_of_knows hinj hy hms hm hkn
    rcases h.inv.first hx hkey hy hof with rfl | ⟨-, hpe⟩
    · cases hx.symm.trans hy
      rw [hr, hal, (h.inv.known hx hkey).2]
      rfl
    · rw [hr, hal, hpe]
      rfl
  · intro m hm
    have hlk := lookup_lookedUp h.inv hinj (m := m) fun k' hk' => by
      subst hk'
      rwa [of_decide_eq_true hm]
    obtain ⟨x', hx', hkn⟩ := hlk.knows e x hx
    have hkey' := Mention.eq_key_of_knows (hkn (.key k) (hkey ▸ Mention.knows_self _))
    obtain ⟨y, hy, hym⟩ := hlk.found
    have hof := hlk.inv.isOf_of_knows hinj hy hms hm hym
    have hle := le_lookup hx hkey hm
    rcases hlk.inv.first hx' hkey' hy hof with heq | ⟨hlt, -⟩
    · exact heq
    · omega

end Identified

/-- However a key is mentioned, the principals that are returned for it normalize to one entry as
soon as the key is known, and this entry is returned from then on. Different keys never have an
entry in common. -/
theorem lookups_identify (hinj : ∀ a, Set.InjOn (hash a) keys) (ms : List Mention)
    (hms : ∀ k, .key k ∈ ms → k ∈ keys) :
    Distinguishes hash keys (lookups hash ms : Lookups V) ∧
      ∀ k, .key k ∈ ms → ∃ e, ∀ later : List Mention, (∀ k, .key k ∈ later → k ∈ keys) →
        Settled hash k e (lookups hash (ms ++ later) : Lookups V) := by
  have hini : Identified hash keys (⟨[], []⟩ : Lookups V) := ⟨⟨nofun, nofun, nofun⟩, nofun⟩
  refine ⟨(hini.lookups hinj ms hms).distinguishes hinj, fun k hk => ?_⟩
  obtain ⟨new, hret, hnew⟩ := returned_foldl hash ms (⟨[], []⟩ : Lookups V)
  obtain ⟨⟨m, e⟩, hp, rfl : m = .key k⟩ := List.mem_map.mp (hnew ▸ hk)
  refine ⟨e, fun later hlater => ?_⟩
  have h := hini.lookups hinj (ms ++ later) fun k' hk' =>
    (List.mem_append.mp hk').elim (hms k') (hlater k')
  -- the entry that was returned for the key has it
  obtain ⟨new', hret', -⟩ := returned_foldl hash later (lookups hash ms : Lookups V)
  have hmem : (.key k, e) ∈ (lookups hash (ms ++ later) : Lookups V).returned := by
    rw [lookups, foldl_append]
    exact hret' ▸ mem_append_left new' (hret ▸ mem_append_right [] hp)
  obtain ⟨x, hx, hkn⟩ := h.answered _ e hmem
  exact h.settled hinj hx (Mention.eq_key_of_knows hkn) (hms k hk)

/-- A key whose hashes, which differ, have been looked up before. -/
theorem lookups_identify_example :
    let hash : HashAlgorithm → Octets → Octets := fun a key =>
      (match a with | .md5 => 1 | .sha1 => 2 | .sha256 => 3) :: key
    let ms : List Mention := [.hash .md5 [1, 7], .hash .sha1 [2, 7], .hash .md5 [2, 7], .key [7]]
    (lookups hash ms : Lookups Unit).db.map SpkiPrincipal.aliasOf = [some 1, none, none] ∧
      Distinguishes hash Set.univ (lookups hash ms : Lookups Unit) ∧
      ∃ e, ∀ later, Settled hash [7] e (lookups hash (ms ++ later) : Lookups Unit) := by
  intro hash ms
  have hall : ∀ l : List Mention, ∀ k, .key k ∈ l → k ∈ (Set.univ : Set Octets) :=
    fun _ k _ => Set.mem_univ k
  have hinj : ∀ a, Set.InjOn (hash a) Set.univ := fun a _ _ _ _ h => (cons.inj h).2
  obtain ⟨hdst, hset⟩ := lookups_identify (V := Unit) hinj ms (hall ms)
  obtain ⟨e, he⟩ := hset [7] (by decide)
  exact ⟨by decide, hdst, e, fun later => he later (hall later)⟩

end Lsh.Spki
