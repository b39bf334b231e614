
import Lsh.Spki.Tag

/-!
# Inclusion of tags

A model of `spki_tag_includes`. It is an approximation: if it returns 1 then the request is included
in the delegation, and for a request without star forms this is exact.

`atom_prefix` has an assertion that its second argument is an atom, but `spki_tag_includes` calls it
for prefixes as well. So the function does not return when a prefix is compared with a prefix, not
even with itself. For requests without prefixes it returns, and it is reflexive and transitive. For
every other request there is a delegation for which it does not return.

## Main results

* `spkiTagIncludes_sound_exact` — inclusion of tags and inclusion of what they mean
* `spkiTagIncludes_preorder` — inclusion is a preorder exactly on tags without prefixes
* `spkiTagIncludes_tagPrefix` — a prefix is not compared with itself
-/

namespace Lsh.Spki

open Machine Matching Tag

mutual

/-- `spki_tag_includes`. -/
def spkiTagIncludes (delegated request : Tag) : Except TagAssertion Bool :=
  match delegated with
  | .tagAtom display atom =>
    match request with
    | .tagAtom display' atom' => .ok (display = display' ∧ atom = atom')
    | _ => .ok false
  | .tagPrefix display atom =>
    match request with
    | .tagAtom display' atom' => .ok (display = display' ∧ atom <+: atom')
    | .tagPrefix .. => .error .atomPrefix
    | _ => .ok false
  | .tagList children => listIncludes children request
  | .tagAny => .ok true
  | .tagSet children => setIncludes children request
termination_by (sizeOf delegated + sizeOf request, 1)

/-- `set_includes`. -/
def setIncludes (set : List Tag) (request : Tag) : Except TagAssertion Bool :=
  match request with
  | .tagSet children => setIncludesAll set children
  | request => setIncludesSome set request
termination_by (sizeOf set + sizeOf request, 1)

/-- The loop in `set_includes` over the elements of the request. -/
def setIncludesAll (set children : List Tag) : Except TagAssertion Bool :=
  match children with
  | [] => .ok true
  | c :: children => do
    if ← setIncludes set c then setIncludesAll set children else return false
termination_by (sizeOf set + sizeOf children, 0)

/-- The loop in `set_includes` over the elements of the delegation. -/
def setIncludesSome (set : List Tag) (request : Tag) : Except TagAssertion Bool :=
  match set with
  | [] => .ok false
  | t :: set => do
    if ← spkiTagIncludes t request then return true else setIncludesSome set request
termination_by (sizeOf set + sizeOf request, 0)

/-- `list_includes`. -/
def listIncludes (list : List Tag) (request : Tag) : Except TagAssertion Bool :=
  match request with
  | .tagList children => listIncludesEach list children
  | _ => .ok false
termination_by (sizeOf list + sizeOf request, 0)

/-- The loop in `list_includes`. -/
def listIncludesEach (list children : List Tag) : Except TagAssertion Bool :=
  match list, children with
  | [], _ => .ok true
  | _ :: _, [] => .ok false
  | t :: list, c :: children => do
    if ← spkiTagIncludes t c then listIncludesEach list children else return false
termination_by (sizeOf list + sizeOf children, 0)

end

section Includes

variable {d r : Tag} {ts rs : List Tag} {display display' : Option Octets} {atom atom' : Octets}

/-- A conjunction that is evaluated from the left. -/
theorem bind_and_eq_true {ε : Type} {x y : Except ε Bool} :
    (do if ← x then y else return false) = Except.ok true ↔ x = .ok true ∧ y = .ok true := by
  cases x with
  | error e => exact ⟨nofun, fun h => nomatch h.1⟩
  | ok b =>
    cases b with
    | true => exact ⟨fun h => ⟨rfl, h⟩, fun h => h.2⟩
    | false => exact ⟨nofun, fun h => nomatch h.1⟩

/-- A disjunction that is evaluated from the left. -/
theorem bind_or_eq_true {ε : Type} {x y : Except ε Bool} :
    (do if ← x then return true else y) = Except.ok true ↔
      x = .ok true ∨ x = .ok false ∧ y = .ok true := by
  cases x with
  | error e => exact ⟨nofun, fun h => by rcases h with h | ⟨h, -⟩ <;> cases h⟩
  | ok b =>
    cases b with
    | true => exact ⟨fun _ => .inl rfl, fun _ => rfl⟩
    | false => exact ⟨fun h => .inr ⟨rfl, h⟩, fun h => (h.resolve_left nofun).2⟩

/-- The delegation includes the request. -/
def Includes (d r : Tag) : Prop := spkiTagIncludes d r = .ok true

/-! ### What the loops decide -/

theorem includes_tagSet_eq : spkiTagIncludes (.tagSet ts) r = setIncludes ts r := by
  rw [spkiTagIncludes]

theorem setIncludes_eq_some (hr : r.isSet = false) : setIncludes ts r = setIncludesSome ts r := by
  rw [setIncludes.eq_def]
  cases r with
  | tagSet rs => cases hr
  | _ => rfl

theorem setIncludesAll_eq_true :
    setIncludesAll ts rs = .ok true ↔ ∀ r ∈ rs, Includes (.tagSet ts) r := by
  induction rs with
  | nil => simp [setIncludesAll]
  | cons r rs ih => rw [setIncludesAll, bind_and_eq_true, ih, List.forall_mem_cons, Includes,
    includes_tagSet_eq]

/-- A set includes a set if it includes all of its elements. -/
theorem includes_tagSet_tagSet :
    Includes (.tagSet ts) (.tagSet rs) ↔ ∀ r ∈ rs, Includes (.tagSet ts) r := by
  rw [Includes, includes_tagSet_eq, setIncludes, setIncludesAll_eq_true]

theorem exists_of_setIncludesSome (h : setIncludesSome ts r = .ok true) :
    ∃ t ∈ ts, Includes t r := by
  induction ts with
  | nil =>
    rw [setIncludesSome] at h
    cases h
  | cons t ts ih =>
    rw [setIncludesSome, bind_or_eq_true] at h
    rcases h with h | ⟨-, h⟩
    · exact ⟨t, by simp, h⟩
    · obtain ⟨t', ht', h'⟩ := ih h
      exact ⟨t', .tail _ ht', h'⟩

/-- A set includes something else only if one of its elements does. -/
theorem exists_of_includes_tagSet (hr : r.isSet = false)
    (h : Includes (.tagSet ts) r) : ∃ t ∈ ts, Includes t r := by
  rw [Includes, includes_tagSet_eq, setIncludes_eq_some hr] at h
  exact exists_of_setIncludesSome h

theorem listIncludesEach_eq_true : listIncludesEach ts rs = .ok true ↔ Matches Includes ts rs := by
  induction ts generalizing rs with
  | nil => simp [listIncludesEach]
  | cons t ts ih =>
    cases rs with
    | nil => simp [listIncludesEach]
    | cons r rs => rw [listIncludesEach, bind_and_eq_true, ih, matches_cons_cons, Includes]

/-- A list includes only lists. -/
theorem includes_tagList :
    Includes (.tagList ts) r ↔ ∃ rs, r = .tagList rs ∧ Matches Includes ts rs := by
  rw [Includes, spkiTagIncludes, listIncludes.eq_def]
  split
  · rename_i rs
    rw [listIncludesEach_eq_true]
    exact ⟨fun h => ⟨rs, rfl, h⟩, fun ⟨rs', heq, h⟩ => by cases heq; exact h⟩
  · rename_i hne
    exact ⟨nofun, fun ⟨rs, heq, _⟩ => absurd heq (hne rs)⟩

theorem includes_tagAny : Includes .tagAny r := by rw [Includes, spkiTagIncludes]

/-- An atom includes only itself. -/
theorem includes_tagAtom : Includes (.tagAtom display atom) r ↔ r = .tagAtom display atom := by
  rw [Includes, spkiTagIncludes.eq_def]
  cases r with
  | tagAtom display' atom' =>
    simp only [Except.ok.injEq, decide_eq_true_eq, Tag.tagAtom.injEq]
    exact ⟨fun h => ⟨h.1.symm, h.2.symm⟩, fun h => ⟨h.1.symm, h.2.symm⟩⟩
  | _ => simp

/-- A prefix includes atoms. -/
theorem includes_tagPrefix : Includes (.tagPrefix display atom) r ↔
    ∃ atom', r = .tagAtom display atom' ∧ atom <+: atom' := by
  rw [Includes, spkiTagIncludes.eq_def]
  cases r with
  | tagAtom display' atom' =>
    simp only [Except.ok.injEq, decide_eq_true_eq, Tag.tagAtom.injEq]
    constructor
    · rintro ⟨rfl, h⟩
      exact ⟨atom', ⟨rfl, rfl⟩, h⟩
    · rintro ⟨_, ⟨rfl, rfl⟩, h⟩
      exact ⟨rfl, h⟩
  | _ => simp

/-! ### Requests without prefixes -/

/-- There is no prefix in the tag. -/
inductive PrefixFree : Tag → Prop
  | tagAny : PrefixFree .tagAny
  | tagSet {ts : List Tag} (h : ∀ t ∈ ts, PrefixFree t) : PrefixFree (.tagSet ts)
  | tagList {ts : List Tag} (h : ∀ t ∈ ts, PrefixFree t) : PrefixFree (.tagList ts)
  | tagAtom (display : Option Octets) (atom : Octets) : PrefixFree (.tagAtom display atom)

/-- The function returns. -/
def Returns (x : Except TagAssertion Bool) : Prop := ∃ b, x = .ok b

variable {x y : Except TagAssertion Bool}

theorem returns_and (hx : Returns x) (hy : Returns y) :
    Returns (do if ← x then y else return false) := by
  obtain ⟨b, rfl⟩ := hx
  cases b with
  | true => exact hy
  | false => exact ⟨false, rfl⟩

theorem returns_or (hx : Returns x) (hy : Returns y) :
    Returns (do if ← x then return true else y) := by
  obtain ⟨b, rfl⟩ := hx
  cases b with
  | true => exact ⟨true, rfl⟩
  | false => exact hy

theorem setIncludesSome_returns (h : ∀ t ∈ ts, Returns (spkiTagIncludes t r)) :
    Returns (setIncludesSome ts r) := by
  induction ts with
  | nil => exact ⟨false, by rw [setIncludesSome]⟩
  | cons t ts ih =>
    rw [setIncludesSome]
    exact returns_or (h t (by simp)) (ih fun s hs => h s (.tail _ hs))

theorem setIncludesAll_returns (h : ∀ r ∈ rs, Returns (setIncludes ts r)) :
    Returns (setIncludesAll ts rs) := by
  induction rs with
  | nil => exact ⟨true, by rw [setIncludesAll]⟩
  | cons r rs ih =>
    rw [setIncludesAll]
    exact returns_and (h r (by simp)) (ih fun s hs => h s (.tail _ hs))

theorem listIncludesEach_returns (h : ∀ t ∈ ts, ∀ r ∈ rs, Returns (spkiTagIncludes t r)) :
    Returns (listIncludesEach ts rs) := by
  induction ts generalizing rs with
  | nil => exact ⟨true, by rw [listIncludesEach]⟩
  | cons t ts ih =>
    cases rs with
    | nil => exact ⟨false, by rw [listIncludesEach]⟩
    | cons r rs =>
      rw [listIncludesEach]
      refine returns_and (h t (by simp) r (by simp)) (ih fun t' ht r' hr => ?_)
      exact h t' (.tail _ ht) r' (.tail _ hr)

/-- `set_includes` returns if the elements of the set do. -/
theorem setIncludes_returns (hr : PrefixFree r)
    (h : ∀ t ∈ ts, ∀ r, PrefixFree r → Returns (spkiTagIncludes t r)) :
    Returns (setIncludes ts r) := by
  induction r with
  | tagSet rs ih =>
    cases hr with
    | tagSet hrs =>
      rw [setIncludes]
      exact setIncludesAll_returns fun r hmem => ih r hmem (hrs r hmem)
  | _ =>
    rw [setIncludes_eq_some rfl]
    exact setIncludesSome_returns fun t ht => h t ht _ hr

/-- **`spki_tag_includes`** returns if there is no prefix in the request. -/
theorem spkiTagIncludes_returns (d) (hr : PrefixFree r) : Returns (spkiTagIncludes d r) := by
  induction d generalizing r with
  | tagAny => exact ⟨true, includes_tagAny⟩
  | tagSet ts ih =>
    rw [includes_tagSet_eq]
    exact setIncludes_returns hr fun t ht r hr => ih t ht hr
  | tagList ts ih =>
    rw [spkiTagIncludes, listIncludes.eq_def]
    cases hr with
    | tagList hrs => exact listIncludesEach_returns fun t ht r hmem => ih t ht (hrs r hmem)
    | _ => exact ⟨false, rfl⟩
  | tagPrefix display atom | tagAtom display atom =>
    rw [spkiTagIncludes.eq_def]
    cases hr with
    | _ => exact ⟨_, rfl⟩

theorem setIncludesSome_of_mem (hr : PrefixFree r) {t : Tag} (ht : t ∈ ts)
    (h : Includes t r) : setIncludesSome ts r = .ok true := by
  induction ts with
  | nil => cases ht
  | cons t' ts ih =>
    rw [setIncludesSome, bind_or_eq_true]
    rcases List.mem_cons.mp ht with rfl | hmem
    · exact .inl h
    · obtain ⟨b, hb⟩ := spkiTagIncludes_returns t' hr
      cases b with
      | true => exact .inl hb
      | false => exact .inr ⟨hb, ih hmem⟩

/-- A set includes what one of its elements includes. -/
theorem includes_tagSet_of_mem {t : Tag} (hr : PrefixFree r) (ht : t ∈ ts) (h : Includes t r) :
    Includes (.tagSet ts) r := by
  induction r with
  | tagSet rs ih =>
    cases hr with
    | tagSet hrs =>
      refine includes_tagSet_tagSet.mpr fun r hmem => ih r hmem (hrs r hmem) ?_
      cases t with
      | tagAny => exact includes_tagAny
      | tagSet ts' => exact includes_tagSet_tagSet.mp h r hmem
      | tagList ts' => exact absurd (includes_tagList.mp h) nofun
      | tagPrefix display atom => exact absurd (includes_tagPrefix.mp h) nofun
      | tagAtom display atom => exact absurd (includes_tagAtom.mp h) nofun
  | _ =>
    rw [Includes, includes_tagSet_eq, setIncludes_eq_some rfl]
    exact setIncludesSome_of_mem hr ht h

/-! ### Soundness -/

/-- A set whose elements are sound is sound. -/
theorem sound_tagSet
    (ih : ∀ t ∈ ts, ∀ r, Includes t r → meaning r ⊆ meaning t)
    (h : Includes (.tagSet ts) r) : meaning r ⊆ meaning (.tagSet ts) := by
  induction r with
  | tagSet rs ihr =>
    intro x hx
    obtain ⟨r, hr, hx⟩ := mem_meaning_tagSet.mp hx
    exact ihr r hr (includes_tagSet_tagSet.mp h r hr) hx
  | _ =>
    obtain ⟨t, ht, hinc⟩ := exists_of_includes_tagSet rfl h
    exact fun x hx => mem_meaning_tagSet.mpr ⟨t, ht, ih t ht _ hinc hx⟩

/-- **Soundness**: what is granted has been delegated. -/
theorem meaning_subset_of_includes (h : Includes d r) : meaning r ⊆ meaning d := by
  induction d generalizing r with
  | tagAny => exact fun x _ => mem_meaning_tagAny
  | tagSet ts ih => exact sound_tagSet (fun t ht r => ih t ht) h
  | tagList ts ih =>
    obtain ⟨rs, rfl, hmts⟩ := includes_tagList.mp h
    rintro (⟨display, atom⟩ | xs) hx
    · exact absurd hx atom_notMem_meaning_tagList
    · rw [mem_meaning_tagList] at hx ⊢
      exact hmts.comp hx fun t ht r _ x _ hinc hx => ih t ht hinc hx
  | tagPrefix display atom =>
    obtain ⟨atom', rfl, hpre⟩ := includes_tagPrefix.mp h
    rintro (⟨display₁, atom₁⟩ | xs) hx
    · obtain ⟨rfl, rfl⟩ := hx
      exact atom_mem_meaning_tagPrefix.mpr ⟨rfl, hpre⟩
    · exact absurd hx list_notMem_meaning_tagAtom
  | tagAtom display atom =>
    rw [includes_tagAtom.mp h]

/-! ### Requests without star forms -/

/-- There are only atoms and lists in the tag. -/
inductive StarFree : Tag → Prop
  | tagList {ts : List Tag} (h : ∀ t ∈ ts, StarFree t) : StarFree (.tagList ts)
  | tagAtom (display : Option Octets) (atom : Octets) : StarFree (.tagAtom display atom)

mutual

/-- The tag that stands for an s-expression. -/
def ofSexp : Sexp → Tag
  | .atom display atom => .tagAtom display atom
  | .list xs => .tagList (ofSexps xs)

/-- The tags that stand for some s-expressions. -/
def ofSexps : List Sexp → List Tag
  | [] => []
  | x :: xs => ofSexp x :: ofSexps xs

end

theorem ofSexps_eq (xs) : ofSexps xs = xs.map ofSexp := by
  induction xs with
  | nil => rfl
  | cons x xs ih => rw [ofSexps, ih, List.map_cons]

theorem ofSexp_list (xs) : ofSexp (.list xs) = .tagList (xs.map ofSexp) := by
  rw [ofSexp, ofSexps_eq]

variable {r : Tag}

/-- A tag without star forms stands for an s-expression. -/
theorem StarFree.exists_ofSexp (h : StarFree r) : ∃ x, r = ofSexp x := by
  induction r with
  | tagList ts ih =>
    cases h with
    | tagList hts =>
      have hls : ∃ xs : List Sexp, ts = xs.map ofSexp := by
        induction ts with
        | nil => exact ⟨[], rfl⟩
        | cons t ts ihts =>
          obtain ⟨x, rfl⟩ := ih t (by simp) (hts t (by simp))
          obtain ⟨xs, rfl⟩ := ihts (fun t ht => ih t (.tail _ ht)) fun t ht => hts t (.tail _ ht)
          exact ⟨x :: xs, rfl⟩
      obtain ⟨xs, rfl⟩ := hls
      exact ⟨.list xs, (ofSexp_list xs).symm⟩
  | tagAtom display atom => exact ⟨.atom display atom, rfl⟩
  | _ => cases h

theorem prefixFree_ofSexp (x) : PrefixFree (ofSexp x) := by
  induction x with
  | atom display atom => exact .tagAtom display atom
  | list xs ih =>
    rw [ofSexp_list]
    refine .tagList fun t ht => ?_
    obtain ⟨x, hx, rfl⟩ := List.mem_map.mp ht
    exact ih x hx

/-- A tag without star forms denotes the s-expression. -/
theorem mem_meaning_ofSexp (x) : x ∈ meaning (ofSexp x) := by
  induction x with
  | atom display atom => exact atom_mem_meaning_tagAtom.mpr ⟨rfl, rfl⟩
  | list xs ih =>
    induction xs with
    | nil => trivial
    | cons x xs ihxs => exact ⟨ih x (by simp), ihxs fun y hy => ih y (.tail _ hy)⟩

/-- **Completeness**: an instance of the delegation is granted. -/
theorem includes_ofSexp {d : Tag} {x : Sexp} (h : x ∈ meaning d) : Includes d (ofSexp x) := by
  induction d generalizing x with
  | tagAny => exact includes_tagAny
  | tagSet ts ih =>
    obtain ⟨t, ht, hx⟩ := mem_meaning_tagSet.mp h
    exact includes_tagSet_of_mem (prefixFree_ofSexp x) ht (ih t ht hx)
  | tagList ts ih =>
    cases x with
    | atom display atom => exact absurd h atom_notMem_meaning_tagList
    | list xs =>
      rw [ofSexp_list]
      refine includes_tagList.mpr ⟨_, rfl, matches_map.mpr ?_⟩
      exact (mem_meaning_tagList.mp h).imp fun t ht x _ hx => ih t ht hx
  | tagPrefix display atom =>
    cases x with
    | atom display' atom' =>
      obtain ⟨rfl, hpre⟩ := atom_mem_meaning_tagPrefix.mp h
      exact includes_tagPrefix.mpr ⟨atom', rfl, hpre⟩
    | list xs => exact absurd h list_notMem_meaning_tagPrefix
  | tagAtom display atom =>
    cases x with
    | atom display' atom' =>
      obtain ⟨rfl, rfl⟩ := atom_mem_meaning_tagAtom.mp h
      exact includes_tagAtom.mpr rfl
    | list xs => exact absurd h list_notMem_meaning_tagAtom

/-- **The authorization test.** If it succeeds, then everything that is requested has been
delegated. For a request without star forms, which stands for one s-expression, it returns, and it
succeeds exactly if this s-expression has been delegated. -/
theorem spkiTagIncludes_sound_exact (d r : Tag) :
    (spkiTagIncludes d r = .ok true → meaning r ⊆ meaning d) ∧
      (StarFree r → ∃ x b, r = ofSexp x ∧ spkiTagIncludes d r = .ok b ∧
        (b = true ↔ x ∈ meaning d)) := by
  refine ⟨meaning_subset_of_includes, fun hr => ?_⟩
  obtain ⟨x, rfl⟩ := hr.exists_ofSexp
  obtain ⟨b, hb⟩ := spkiTagIncludes_returns d (prefixFree_ofSexp x)
  refine ⟨x, b, rfl, hb, fun htr => ?_, fun hx => ?_⟩
  · rw [htr] at hb
    exact meaning_subset_of_includes hb (mem_meaning_ofSexp x)
  · exact Except.ok.inj (hb.symm.trans (includes_ofSexp hx))

/-! ### A preorder -/

/-- A tag without prefixes includes itself. -/
theorem includes_refl (h : PrefixFree r) : Includes r r := by
  induction r with
  | tagAny => exact includes_tagAny
  | tagSet ts ih =>
    cases h with
    | tagSet hts =>
      refine includes_tagSet_tagSet.mpr fun t ht => ?_
      exact includes_tagSet_of_mem (hts t ht) ht (ih t ht (hts t ht))
  | tagList ts ih =>
    cases h with
    | tagList hts =>
      refine includes_tagList.mpr ⟨ts, rfl, ?_⟩
      induction ts with
      | nil => trivial
      | cons t ts ihts =>
        refine ⟨ih t (by simp) (hts t (by simp)), ihts (fun s hs => ih s (.tail _ hs)) ?_⟩
        exact fun s hs => hts s (.tail _ hs)
  | tagPrefix display atom => cases h
  | tagAtom display atom => exact includes_tagAtom.mpr rfl

/-- The step from the elements of a set to the set. What is included in the set in the middle is
taken apart until there are no sets left on the right, and then the set in the middle is. -/
theorem includes_trans_tagSet {ts : List Tag} {b c : Tag} (hc : PrefixFree c)
    (ih : ∀ t ∈ ts, ∀ b c, PrefixFree c → Includes t b → Includes b c → Includes t c)
    (hab : Includes (.tagSet ts) b) (hbc : Includes b c) : Includes (.tagSet ts) c := by
  have hset : ∀ {b c : Tag}, b.isSet = false → PrefixFree c →
      Includes (.tagSet ts) b → Includes b c → Includes (.tagSet ts) c := by
    intro b c hnot hc hab hbc
    obtain ⟨t, ht, htb⟩ := exists_of_includes_tagSet hnot hab
    exact includes_tagSet_of_mem hc ht (ih t ht b c hc htb hbc)
  induction b generalizing c with
  | tagSet bs ihb =>
    induction c with
    | tagSet cs ihc =>
      cases hc with
      | tagSet hcs =>
        refine includes_tagSet_tagSet.mpr fun c hmem => ?_
        exact ihc c hmem (hcs c hmem) (includes_tagSet_tagSet.mp hbc c hmem)
    | _ =>
      obtain ⟨b, hmem, hbc⟩ := exists_of_includes_tagSet rfl hbc
      exact ihb b hmem hc (includes_tagSet_tagSet.mp hab b hmem) hbc
  | _ => exact hset rfl hc hab hbc

/-- Inclusion is transitive. -/
theorem includes_trans {a b c : Tag} (hc : PrefixFree c) (hab : Includes a b)
    (hbc : Includes b c) : Includes a c := by
  induction a generalizing b c with
  | tagAny => exact includes_tagAny
  | tagSet ts ih =>
    exact includes_trans_tagSet hc (fun t ht b c hc => ih t ht hc) hab hbc
  | tagList ts ih =>
    obtain ⟨bs, rfl, hbs'⟩ := includes_tagList.mp hab
    obtain ⟨cs, rfl, hcs'⟩ := includes_tagList.mp hbc
    cases hc with
    | tagList hcs =>
      refine includes_tagList.mpr ⟨cs, rfl, hbs'.comp hcs' ?_⟩
      intro t ht b hb c hc htb hbc
      exact ih t ht (hcs c hc) htb hbc
  | tagPrefix display atom =>
    obtain ⟨atom', rfl, hpre⟩ := includes_tagPrefix.mp hab
    rw [includes_tagAtom.mp hbc]
    exact includes_tagPrefix.mpr ⟨atom', rfl, hpre⟩
  | tagAtom display atom =>
    rw [includes_tagAtom.mp hab] at hbc
    exact hbc

/-! ### Requests with prefixes -/

/-- A prefix is not compared with itself: an assertion fails. -/
theorem spkiTagIncludes_tagPrefix :
    spkiTagIncludes (.tagPrefix none [97]) (.tagPrefix none [97]) = .error .atomPrefix := by
  rw [spkiTagIncludes]

/-- A set with `(*)` in it never answers no. -/
theorem setIncludes_any_ne_false (d r : Tag) : setIncludes [d, .tagAny] r ≠ .ok false := by
  induction r with
  | tagSet rs ih =>
    rw [setIncludes]
    induction rs with
    | nil => simp [setIncludesAll]
    | cons r rs ihrs =>
      have hrest := ihrs fun s hs => ih s (.tail _ hs)
      rw [setIncludesAll]
      cases hr : setIncludes [d, .tagAny] r with
      | error e => exact nofun
      | ok b =>
        cases b with
        | true => exact hrest
        | false => exact absurd hr (ih r (by simp))
  | _ =>
    rw [setIncludes_eq_some rfl, setIncludesSome, setIncludesSome, includes_tagAny]
    cases spkiTagIncludes d _ with
    | error e => exact nofun
    | ok b => cases b <;> exact nofun

/-- The loop over the elements of a request reaches each of them. -/
theorem setIncludesAll_not_returns {rs : List Tag} {d r : Tag} (hmem : r ∈ rs)
    (hr : ¬Returns (setIncludes [d, .tagAny] r)) :
    ¬Returns (setIncludesAll [d, .tagAny] rs) := by
  induction rs with
  | nil => cases hmem
  | cons s rs ih =>
    rw [setIncludesAll]
    rintro ⟨b, hb⟩
    cases hs : setIncludes [d, .tagAny] s with
    | error e =>
      rw [hs] at hb
      cases hb
    | ok answer =>
      rw [hs] at hb
      cases answer with
      | false => exact setIncludes_any_ne_false d s hs
      | true =>
        rcases List.mem_cons.mp hmem with rfl | hmem
        · exact hr ⟨true, hs⟩
        · exact ih hmem ⟨b, hb⟩

/-- A list whose first elements are `(*)` comes to the element behind them. -/
theorem listIncludesEach_not_returns {d : Tag} (before after : List Tag)
    (hr : ¬Returns (spkiTagIncludes d r)) :
    ¬Returns (listIncludesEach (before.map (fun _ => .tagAny) ++ [d]) (before ++ r :: after)) := by
  induction before with
  | nil =>
    rintro ⟨b, hb⟩
    rw [List.map_nil, List.nil_append, List.nil_append, listIncludesEach] at hb
    cases hd : spkiTagIncludes d r with
    | error e =>
      rw [hd] at hb
      cases hb
    | ok answer => exact hr ⟨answer, hd⟩
  | cons s before ih =>
    rintro ⟨b, hb⟩
    rw [List.map_cons, List.cons_append, List.cons_append, listIncludesEach, includes_tagAny] at hb
    exact ih ⟨b, hb⟩

/-- For a request with a prefix there is a delegation that is compared with the prefix. -/
theorem exists_not_returns (h : ¬PrefixFree r) :
    ∃ d, ¬Returns (setIncludes [d, .tagAny] r) := by
  -- a tag that is not a set is compared with the first element
  have hfirst : ∀ {d r : Tag}, r.isSet = false → ¬Returns (spkiTagIncludes d r) →
      ¬Returns (setIncludes [d, .tagAny] r) := by
    rintro d r hset hd ⟨b, hb⟩
    rw [setIncludes_eq_some hset, setIncludesSome] at hb
    cases hd' : spkiTagIncludes d r with
    | error e =>
      rw [hd'] at hb
      cases hb
    | ok answer => exact hd ⟨answer, hd'⟩
  induction r with
  | tagAny => exact absurd .tagAny h
  | tagAtom display atom => exact absurd (.tagAtom display atom) h
  | tagPrefix display atom =>
    refine ⟨.tagPrefix none [], hfirst rfl ?_⟩
    rintro ⟨b, hb⟩
    rw [spkiTagIncludes] at hb
    cases hb
  | tagSet rs ih =>
    obtain ⟨r, hmem, hr⟩ : ∃ r ∈ rs, ¬PrefixFree r := by
      by_contra hno
      push Not at hno
      exact h (.tagSet hno)
    obtain ⟨d, hd⟩ := ih r hmem hr
    refine ⟨d, ?_⟩
    rw [setIncludes]
    exact setIncludesAll_not_returns hmem hd
  | tagList rs ih =>
    obtain ⟨r, hmem, hr⟩ : ∃ r ∈ rs, ¬PrefixFree r := by
      by_contra hno
      push Not at hno
      exact h (.tagList hno)
    obtain ⟨d, hd⟩ := ih r hmem hr
    obtain ⟨before, after, rfl⟩ := List.append_of_mem hmem
    refine ⟨.tagList (before.map (fun _ => .tagAny) ++ [.tagSet [d, .tagAny]]), hfirst rfl ?_⟩
    rw [spkiTagIncludes, listIncludes]
    refine listIncludesEach_not_returns before after ?_
    rwa [includes_tagSet_eq]

/-- **A preorder, exactly without prefixes.** A tag has no prefix if and only if, as a request, it
can be compared with every delegation, it includes itself, and inclusion is transitive for it. -/
theorem spkiTagIncludes_preorder (c : Tag) :
    PrefixFree c ↔ (∀ a, ∃ r, spkiTagIncludes a c = .ok r) ∧ spkiTagIncludes c c = .ok true ∧
      ∀ a b, spkiTagIncludes a b = .ok true → spkiTagIncludes b c = .ok true →
        spkiTagIncludes a c = .ok true := by
  constructor
  · intro hc
    exact ⟨fun a => spkiTagIncludes_returns a hc, includes_refl hc,
      fun a b hab hbc => includes_trans hc hab hbc⟩
  · rintro ⟨hreturns, -⟩
    by_contra hc
    obtain ⟨d, hd⟩ := exists_not_returns hc
    rw [← includes_tagSet_eq] at hd
    exact hd (hreturns _)

end Includes

end Lsh.Spki
