
import Lsh.Library.Machine
import Lsh.Library.Matching
import Lsh.Library.Octets
import Mathlib.Data.Set.Basic

/-!
# Authorization tags

Tags as `tag.c` makes them from s-expressions. What a tag means is a set of s-expressions,
`Tag.meaning`: the instances that it authorizes.
-/

namespace Lsh.Spki

open Machine Matching List

/-! ### Tags -/

/-- `struct spki_tag`. There are no ranges, since `spki_tag_compile` does not make any. -/
inductive Tag where
  | tagAny
  | tagSet (children : List Tag)
  | tagList (children : List Tag)
  | tagPrefix (display : Option Octets) (atom : Octets)
  | tagAtom (display : Option Octets) (atom : Octets)

/-- Assertions of `spki_tag_includes` and what it calls. -/
inductive TagAssertion where
  /-- `atom_prefix`: the second tag is an atom. -/
  | atomPrefix
  deriving DecidableEq, Repr

namespace Tag

/-- A set. -/
def isSet : Tag → Bool
  | .tagSet _ => true
  | _ => false

/-- Induction with a hypothesis for each of the children. -/
@[elab_as_elim, induction_eliminator]
theorem induction {P : Tag → Prop} (tagAny : P .tagAny)
    (tagSet : ∀ ts, (∀ t ∈ ts, P t) → P (.tagSet ts))
    (tagList : ∀ ts, (∀ t ∈ ts, P t) → P (.tagList ts))
    (tagPrefix : ∀ display atom, P (.tagPrefix display atom))
    (tagAtom : ∀ display atom, P (.tagAtom display atom)) : ∀ t, P t
  | .tagAny => tagAny
  | .tagSet ts => tagSet ts fun t _ => induction tagAny tagSet tagList tagPrefix tagAtom t
  | .tagList ts => tagList ts fun t _ => induction tagAny tagSet tagList tagPrefix tagAtom t
  | .tagPrefix display atom => tagPrefix display atom
  | .tagAtom display atom => tagAtom display atom

end Tag

/-! ### What tags mean -/

/-- S-expressions. -/
inductive Sexp where
  | atom (display : Option Octets) (atom : Octets)
  | list (elements : List Sexp)

/-- Induction with a hypothesis for each of the elements. -/
@[elab_as_elim, induction_eliminator]
theorem Sexp.induction {P : Sexp → Prop} (atom : ∀ display atom, P (.atom display atom))
    (list : ∀ xs, (∀ x ∈ xs, P x) → P (.list xs)) : ∀ x, P x
  | .atom display a => atom display a
  | .list xs => list xs fun x _ => induction atom list x

variable {xs : List Sexp} {t : Tag}

namespace Tag

mutual

/-- The s-expression is an instance of the tag. -/
def Denotes : Tag → Sexp → Prop
  | .tagAny, _ => True
  | .tagSet ts, x => DenotesSome ts x
  | .tagList ts, .list xs => DenotesEach ts xs
  | .tagPrefix display atom, .atom display' atom' => display' = display ∧ atom <+: atom'
  | .tagAtom display atom, .atom display' atom' => display' = display ∧ atom' = atom
  | .tagList _, .atom .. | .tagPrefix .., .list _ | .tagAtom .., .list _ => False

/-- An instance of one of the tags. -/
def DenotesSome : List Tag → Sexp → Prop
  | [], _ => False
  | t :: ts, x => Denotes t x ∨ DenotesSome ts x

/-- There are enough elements, and the first ones are instances of the tags. -/
def DenotesEach : List Tag → List Sexp → Prop
  | [], _ => True
  | _ :: _, [] => False
  | t :: ts, x :: xs => Denotes t x ∧ DenotesEach ts xs

end

/-- The meaning of a tag. -/
def meaning (t : Tag) : Set Sexp := {x | t.Denotes x}

variable {ts : List Tag} {display display' : Option Octets} {atom atom' : Octets} {x : Sexp}

@[simp] theorem mem_meaning_tagAny : x ∈ meaning .tagAny := by
  trivial

/-- A set is the union of its elements. -/
@[simp] theorem mem_meaning_tagSet : x ∈ meaning (.tagSet ts) ↔ ∃ t ∈ ts, x ∈ meaning t := by
  rw [meaning, Set.mem_ofPred_eq, Denotes]
  induction ts with
  | nil => simp [DenotesSome]
  | cons t ts ih =>
    rw [DenotesSome, ih]
    simp [meaning]

/-- A list stands for all lists that begin like it. -/
@[simp] theorem mem_meaning_tagList :
    Sexp.list xs ∈ meaning (.tagList ts) ↔ Matches (fun t x => x ∈ meaning t) ts xs := by
  rw [meaning, Set.mem_ofPred_eq, Denotes]
  induction ts generalizing xs with
  | nil => simp [DenotesEach]
  | cons t ts ih =>
    cases xs with
    | nil => simp [DenotesEach]
    | cons x xs =>
      rw [DenotesEach, ih]
      exact Iff.rfl

@[simp] theorem atom_notMem_meaning_tagList : Sexp.atom display atom ∉ meaning (.tagList ts) := by
  exact id

@[simp] theorem atom_mem_meaning_tagPrefix :
    Sexp.atom display' atom' ∈ meaning (.tagPrefix display atom) ↔
      display' = display ∧ atom <+: atom' := by
  rw [meaning, Set.mem_ofPred_eq, Denotes]

@[simp] theorem list_notMem_meaning_tagPrefix :
    Sexp.list xs ∉ meaning (.tagPrefix display atom) := by
  exact id

@[simp] theorem atom_mem_meaning_tagAtom :
    Sexp.atom display' atom' ∈ meaning (.tagAtom display atom) ↔
      display' = display ∧ atom' = atom := by
  rw [meaning, Set.mem_ofPred_eq, Denotes]

@[simp] theorem list_notMem_meaning_tagAtom : Sexp.list xs ∉ meaning (.tagAtom display atom) := by
  exact id

end Tag

end Lsh.Spki
