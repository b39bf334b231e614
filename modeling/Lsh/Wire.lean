
import Lsh.Atoms
import Lsh.Basic

/-!
# Formatting and parsing messages

A model of the parts of `format.c` and `parse.c` that messages are built from and taken apart
with. Formatting directives become functions to octet strings that are concatenated; a parser
takes the rest of the buffer and returns a value and what is left, or nothing.

Each parser comes with the lemma that it reads back what the corresponding directive wrote, with
anything behind it. Lists of atoms are the only form for which that needs an argument: they are
written as names separated by commas, and the reader counts the commas first.

## Main results

* `parseString_formatString`, `parseBignum_formatBignum` — strings and integers
* `parseAtomList_formatAtomList` — lists of known atoms, up to the limit on their number
-/

namespace Lsh.Wire

open Octets List

/-! ### Formatting -/

/-- `%c`: one octet. -/
def formatUint8 (n : ℕ) : Octets := [UInt8.ofNat n]

/-- `%S` and `%s`: a string with its length. -/
def formatString (s : Octets) : Octets := writeUint32 s.length ++ s

/-- `%n`: a non-negative integer in the shortest signed form, with its length. -/
def formatBignum (n : ℕ) : Octets := formatString (mpintEncode n)

/-- `%a`: the name of an atom, with its length. -/
def formatAtom (a : Atom) : Octets := formatString a.octets

/-- The loop of `%A`: the names of the known atoms of a list, each but the first after a comma.
`first` says that nothing has been written yet. -/
def joinAtoms (first : Bool) : List (Option Atom) → Octets
  | [] => []
  | none :: l => joinAtoms first l
  | some a :: l => (if first then [] else [44]) ++ a.octets ++ joinAtoms false l

/-- `%A`: the text of a list of atoms, with its length. -/
def formatAtomList (l : List (Option Atom)) : Octets := formatString (joinAtoms true l)

/-! ### Parsing -/

/-- `parse_uint8`. -/
def parseUint8 : Octets → Option (ℕ × Octets)
  | [] => none
  | b :: s => some (b.toNat, s)

/-- `parse_boolean`: any octet. -/
def parseBoolean : Octets → Option (UInt8 × Octets)
  | [] => none
  | b :: s => some (b, s)

/-- `parse_uint32`. -/
def parseUint32 (s : Octets) : Option (ℕ × Octets) :=
  if s.length < 4 then none else some (readUint32 s, s.drop 4)

/-- `parse_octets`: a given number of octets. -/
def parseOctets (length : ℕ) (s : Octets) : Option (Octets × Octets) :=
  if s.length < length then none else some (s.take length, s.drop length)

/-- `parse_octets` into an array of a fixed size. -/
def parseFixed (n : ℕ) (s : Octets) : Option ({a : Octets // a.length = n} × Octets) :=
  if h : s.length < n then none
  else some (⟨s.take n, List.length_take_of_le (Nat.le_of_not_lt h)⟩, s.drop n)

/-- `parse_string`, and also `parse_string_copy` and `parse_sub_buffer`. -/
def parseString (s : Octets) : Option (Octets × Octets) := do
  let (length, s) ← parseUint32 s
  parseOctets length s

/-- `parse_bignum`. A limit of zero is no limit. -/
def parseBignum (limit : ℕ) (s : Octets) : Option (ℤ × Octets) := do
  let (digits, s) ← parseString s
  if limit ≠ 0 ∧ limit + 1 < digits.length then none else some (mpintDecode digits, s)

/-- `parse_atom`. -/
def parseAtom (s : Octets) : Option (Option Atom × Octets) := do
  let (name, s) ← parseString s
  if 64 < name.length then none else some (lookupAtom name, s)

/-- `parse_eod`: nothing is left. -/
def parseEod (s : Octets) : Option Unit := if s = [] then some () else none

/-- `parse_next_atom`: the text up to the next comma. The source asserts that it does not start
beyond the end of the buffer; its caller calls it once for each atom, so what is left after the
last one is not looked at. -/
def parseNextAtom (s : Octets) : Option (Option Atom × Octets) :=
  let name := s.takeWhile (· ≠ 44)
  if 64 < name.length then none
  else some (if name = [] then none else lookupAtom name, s.drop (name.length + 1))

/-- The loop of `parse_atoms`. -/
def parseAtomLoop : ℕ → Octets → Option (List (Option Atom))
  | 0, _ => some []
  | count + 1, s => do
    let (a, s) ← parseNextAtom s
    let as ← parseAtomLoop count s
    return a :: as

/-- `parse_atoms`: at most `limit` atoms, separated by commas. -/
def parseAtoms (limit : ℕ) (s : Octets) : Option (List (Option Atom)) :=
  if s = [] then some []
  else if limit ≤ s.count 44 then none
  else parseAtomLoop (s.count 44 + 1) s

/-- `parse_atom_list`. -/
def parseAtomList (limit : ℕ) (s : Octets) : Option (List (Option Atom) × Octets) := do
  let (text, s) ← parseString s
  let as ← parseAtoms limit text
  return (as, s)

/-! ### Reading back what was written -/

@[simp] theorem parseUint8_cons (b s) : parseUint8 (b :: s) = some (b.toNat, s) :=
  rfl

@[simp] theorem parseBoolean_cons (b s) : parseBoolean (b :: s) = some (b, s) :=
  rfl

@[simp] theorem parseUint32_writeUint32 (n s) :
    parseUint32 (writeUint32 n ++ s) = some (n % 2 ^ 32, s) := by
  have hlen : ¬(writeUint32 n ++ s).length < 4 := by simp
  rw [parseUint32, if_neg hlen, readUint32_writeUint32, drop_left' (length_writeUint32 n)]

variable {n : ℕ} {a : Octets}

theorem parseOctets_append (h : a.length = n) (s) : parseOctets n (a ++ s) = some (a, s) := by
  have hlen : ¬(a ++ s).length < n := by simp [h]
  rw [parseOctets, if_neg hlen, take_left' h, drop_left' h]

theorem parseFixed_append (h : a.length = n) (s) : parseFixed n (a ++ s) = some (⟨a, h⟩, s) := by
  have hlen : ¬(a ++ s).length < n := by simp [h]
  rw [parseFixed, dif_neg hlen]
  simp only [take_left' h, drop_left' h]

/-- **Strings.** -/
theorem parseString_formatString (h : a.length < 2 ^ 32) (s) :
    parseString (formatString a ++ s) = some (a, s) := by
  rw [parseString, formatString, append_assoc, parseUint32_writeUint32]
  exact parseOctets_append (Nat.mod_eq_of_lt h).symm s

/-- **Atoms.** -/
theorem parseAtom_formatAtom (a s) : parseAtom (formatAtom a ++ s) = some (some a, s) := by
  have hlen := a.length_octets_le
  rw [parseAtom, formatAtom, parseString_formatString (by omega)]
  simp only [Option.bind_eq_bind, Option.bind_some, lookupAtom_octets]
  rw [if_neg (by omega)]

variable {limit : ℕ}

/-- **Integers**, as long as they are below the limit. -/
theorem parseBignum_formatBignum (hn : n < 256 ^ limit) (hlim : limit + 1 < 2 ^ 32) (s) :
    parseBignum limit (formatBignum n ++ s) = some ((n : ℤ), s) := by
  have hlen := length_mpintEncode_le hn
  rw [parseBignum, formatBignum, parseString_formatString (by omega)]
  simp only [Option.bind_eq_bind, Option.bind_some]
  rw [if_neg (by omega), mpintDecode_mpintEncode]

/-! ### Lists of atoms -/

/-- A list of known atoms. -/
def known (as : List Atom) : List (Option Atom) := as.map some

theorem length_joinAtoms_le (first as) :
    (joinAtoms first (known as)).length ≤ 30 * as.length := by
  induction as generalizing first with
  | nil => simp [known, joinAtoms]
  | cons a as ih =>
    have ha := a.length_octets_le
    have has := ih false
    simp only [known, map_cons, joinAtoms, length_append, length_cons] at has ⊢
    cases first <;> simp <;> omega

theorem count_joinAtoms_false (as) : (joinAtoms false (known as)).count 44 = as.length := by
  induction as with
  | nil => rfl
  | cons a as ih =>
    have ha : a.octets.count 44 = 0 := List.count_eq_zero.mpr a.comma_not_mem_octets
    simp only [known, map_cons, joinAtoms, count_append, length_cons] at ih ⊢
    rw [ha, ih]
    simp [Nat.add_comm]

/-- The text starts with the first name, and what follows is empty or starts with a comma. -/
theorem parseNextAtom_joinAtoms (a as) :
    parseNextAtom (joinAtoms true (known (a :: as))) =
      some (some a, joinAtoms true (known as)) := by
  have hlen := a.length_octets_le
  have hne : a.octets ≠ [] := List.length_pos_iff.mp a.length_octets_pos
  have htext : joinAtoms true (known (a :: as)) = a.octets ++ joinAtoms false (known as) := rfl
  have hall : ∀ b ∈ a.octets, (decide (b ≠ 44)) := by
    intro b hb
    simpa using fun h : b = 44 => a.comma_not_mem_octets (h ▸ hb)
  have hnm : (joinAtoms true (known (a :: as))).takeWhile (· ≠ 44) = a.octets := by
    rw [htext, takeWhile_append_of_pos hall]
    cases as with
    | nil | cons b as => simp [known, joinAtoms]
  have hre : (joinAtoms true (known (a :: as))).drop (a.octets.length + 1) =
      joinAtoms true (known as) := by
    rw [htext, ← drop_drop, drop_left' rfl]
    cases as with
    | nil => rfl
    | cons b as => simp [known, joinAtoms]
  simp only [parseNextAtom, hnm, hre, if_neg hne, lookupAtom_octets]
  rw [if_neg (by omega)]

theorem parseAtomLoop_joinAtoms (as) :
    parseAtomLoop as.length (joinAtoms true (known as)) = some (known as) := by
  induction as with
  | nil => rfl
  | cons a as ih =>
    rw [length_cons, parseAtomLoop, parseNextAtom_joinAtoms]
    simp only [Option.bind_eq_bind, Option.bind_some, ih]
    rfl

variable {as : List Atom}

theorem parseAtoms_joinAtoms (h : as.length ≤ limit) :
    parseAtoms limit (joinAtoms true (known as)) = some (known as) := by
  cases as with
  | nil => rfl
  | cons a as =>
    have htext : joinAtoms true (known (a :: as)) = a.octets ++ joinAtoms false (known as) := rfl
    have hne : joinAtoms true (known (a :: as)) ≠ [] := by
      exact append_ne_nil_of_left_ne_nil (List.length_pos_iff.mp a.length_octets_pos) _
    have hcount : (joinAtoms true (known (a :: as))).count 44 = as.length := by
      rw [htext, count_append, count_joinAtoms_false,
        List.count_eq_zero.mpr a.comma_not_mem_octets, Nat.zero_add]
    have hlim : ¬limit ≤ as.length := by
      rw [length_cons] at h
      omega
    rw [parseAtoms, if_neg hne, hcount, if_neg hlim]
    exact parseAtomLoop_joinAtoms (a :: as)

/-- **Lists of atoms.** -/
theorem parseAtomList_formatAtomList (h : as.length ≤ limit) (hlim : limit ≤ 2 ^ 26) (s) :
    parseAtomList limit (formatAtomList (known as) ++ s) = some (known as, s) := by
  have hlen := length_joinAtoms_le true as
  rw [parseAtomList, formatAtomList, parseString_formatString (by omega)]
  simp only [Option.bind_eq_bind, Option.bind_some, parseAtoms_joinAtoms h]
  rfl

/-! ### What is left -/

variable {s rest : Octets}

/-- A string is read from the front. -/
theorem isSuffix_of_parseString (h : parseString s = some (a, rest)) : rest <:+ s := by
  obtain ⟨⟨len, t⟩, hlen, hoct⟩ := Option.bind_eq_some_iff.mp h
  dsimp only [parseOctets] at hoct
  rw [parseUint32] at hlen
  split_ifs at hlen hoct
  cases hlen
  cases hoct
  exact (drop_suffix _ _).trans (drop_suffix _ _)

theorem isSuffix_of_parseAtom {a : Option Atom} (h : parseAtom s = some (a, rest)) :
    rest <:+ s := by
  obtain ⟨⟨name, t⟩, hnm, hat⟩ := Option.bind_eq_some_iff.mp h
  dsimp only at hat
  split_ifs at hat
  cases hat
  exact isSuffix_of_parseString hnm

theorem isSuffix_of_parseBoolean {b : UInt8} (h : parseBoolean s = some (b, rest)) :
    rest <:+ s := by
  cases s with
  | nil => cases h
  | cons c s =>
    cases h
    exact suffix_cons _ _

end Lsh.Wire
