
import Lsh.Basic
import Mathlib.Data.UInt

/-!
# Character sets

A model of `parse_utf8` in `parse.c` and of the conversion to the local character set in
`charset.c`, which user names and passwords go through.

UTF-8 is also given octet by octet, without the bit operations of `parse_utf8`: `IsCharacter`.

## Main results

* `parseUtf8_eq_char` — `parse_utf8` reads the characters
* `isSome_lowUtf8ToLocal` — which strings are converted under the paranoid flag alone
-/

namespace Lsh.Charset

open Machine

/-- `local_charset`. -/
inductive LocalCharset where
  | usascii
  | latin1
  | utf8
  deriving DecidableEq, Repr

/-- `enum utf8_flag`. -/
structure Utf8Flags where
  replace : Bool
  paranoid : Bool
  tolerant : Bool

/-! ### One character -/

/-- The result of `parse_utf8`: the return values `-1`, `0` and `1`, with what is left. -/
inductive Utf8 where
  | eod
  | error (rest : Octets)
  | char (value length : ℕ) (rest : Octets)

/-- The first octet of a sequence: its length, and the bits in this octet. -/
def utf8Start (c : UInt8) : Option (ℕ × ℕ) :=
  if c &&& 0xF0 = 0xC0 ∨ c &&& 0xF0 = 0xD0 then some (2, (c &&& 0x1F).toNat)
  else if c &&& 0xF0 = 0xE0 then some (3, (c &&& 0x0F).toNat)
  else if c &&& 0xF0 = 0xF0 then
    if c &&& 0x0E = 0 ∨ c &&& 0x0E = 2 ∨ c &&& 0x0E = 4 ∨ c &&& 0x0E = 6 then
      some (4, (c &&& 0x07).toNat)
    else if c &&& 0x0E = 8 ∨ c &&& 0x0E = 0xA then some (5, (c &&& 0x03).toNat)
    else if c &&& 0x0E = 0xC then some (6, (c &&& 0x01).toNat)
    else none
  else none

/-- `min_value`. -/
def minValue (length : ℕ) : ℕ := [0, 0, 0x80, 0x800, 0x10000, 0x200000, 0x4000000].getD length 0

/-- The other octets of a sequence. An octet that does not continue it is left in the input. -/
def utf8Continue : ℕ → ℕ → Octets → Except Octets (ℕ × Octets)
  | 0, value, s => .ok (value, s)
  | _ + 1, _, [] => .error []
  | n + 1, value, c :: s =>
    if c &&& 0xC0 ≠ 0x80 then .error (c :: s)
    else utf8Continue n (value <<< 6 ||| (c &&& 0x3F).toNat) s

/-- `parse_utf8`. -/
def parseUtf8 (s : Octets) : Utf8 :=
  match s with
  | [] => .eod
  | c :: rest =>
    if c < 0x80 then .char c.toNat 1 rest
    else match utf8Start c with
      | none => .error rest
      | some (length, value) =>
        if s.length < length then .error []
        else match utf8Continue (length - 1) value rest with
          | .error rest => .error rest
          | .ok (value, rest) =>
            if value < minValue length then .error rest
            else if (0xD800 ≤ value ∧ value < 0xE000) ∨ value = 0xFFFE ∨ value = 0xFFFF then
              .error rest
            else .char value length rest

/-! ### Conversion -/

/-- `ucs4_is_control`. -/
def ucs4IsControl (c : ℕ) : Bool := (c < 0x20 ∧ c ≠ 10) ∨ (0x7F ≤ c ∧ c < 0xA0)

/-- `ucs4_to_local`. It is not called for UTF-8. -/
def ucs4ToLocal (charset : LocalCharset) (c : ℕ) : Option UInt8 :=
  match charset with
  | .usascii => if c < 0x80 then some (UInt8.ofNat c) else none
  | .latin1 => if c < 0x100 then some (UInt8.ofNat c) else none
  | .utf8 => none

/-- The case of a character in the loop: what is added to the result. -/
def convertChar (charset : LocalCharset) (flags : Utf8Flags) (s : Octets) (value length : ℕ) :
    Option Octets :=
  if flags.paranoid ∧ ucs4IsControl value then if flags.replace then some [63] else none
  else if charset = .utf8 then some (s.take length)
  else match ucs4ToLocal charset value with
    | some c => some [c]
    | none => if flags.replace then some [63] else none

/-- The loop of `low_utf8_to_local`. Each round consumes an octet, so that the length of the input
bounds the number of rounds. -/
def lowUtf8Loop (charset : LocalCharset) (flags : Utf8Flags) : ℕ → Octets → Option Octets
  | 0, _ => some []
  | n + 1, s =>
    match parseUtf8 s with
    | .eod => some []
    | .char value length rest => do
      let c ← convertChar charset flags s value length
      let res ← lowUtf8Loop charset flags n rest
      return c ++ res
    | .error rest =>
      if flags.tolerant then (lowUtf8Loop charset flags n rest).map (63 :: ·) else none

/-- `low_utf8_to_local`. -/
def lowUtf8ToLocal (charset : LocalCharset) (flags : Utf8Flags) (s : Octets) : Option Octets :=
  lowUtf8Loop charset flags s.length s

/-! ### Characters, octet by octet -/

/-- The length of the sequence that an octet starts, and the part of the value that is in it. -/
def sequenceStart (c : UInt8) : Option (ℕ × ℕ) :=
  if c < 0x80 then some (1, c.toNat)
  else if c < 0xC0 then none
  else if c < 0xE0 then some (2, c.toNat - 0xC0)
  else if c < 0xF0 then some (3, c.toNat - 0xE0)
  else if c < 0xF8 then some (4, c.toNat - 0xF0)
  else if c < 0xFC then some (5, c.toNat - 0xF8)
  else if c < 0xFE then some (6, c.toNat - 0xFC)
  else none

/-- An octet inside of a sequence. -/
def Continues (c : UInt8) : Prop := 0x80 ≤ c ∧ c < 0xC0

instance : DecidablePred Continues := fun _ => inferInstanceAs (Decidable (_ ∧ _))

/-- The value of a sequence, six bits an octet. -/
def sequenceValue (start : ℕ) (tail : Octets) : ℕ :=
  tail.foldl (fun value c => 64 * value + (c.toNat - 0x80)) start

theorem sequenceValue_cons (start : ℕ) (c : UInt8) (tail : Octets) :
    sequenceValue start (c :: tail) = sequenceValue (64 * start + (c.toNat - 0x80)) tail := by
  rw [sequenceValue, List.foldl_cons, sequenceValue]

/-- The octets are the UTF-8 encoding of a character, and there is no shorter one. -/
structure IsCharacter (s : Octets) (value : ℕ) : Prop where
  encoded : ∃ c tail start, s = c :: tail ∧ sequenceStart c = some (s.length, start) ∧
    (∀ c ∈ tail, Continues c) ∧ value = sequenceValue start tail
  shortest : minValue s.length ≤ value
  legal : ¬((0xD800 ≤ value ∧ value < 0xE000) ∨ value = 0xFFFE ∨ value = 0xFFFF)

/-- A property of all octets is checked for the numbers below 256. -/
theorem forall_octet {P : UInt8 → Prop} (h : ∀ n < 256, P (UInt8.ofNat n)) (c : UInt8) : P c := by
  have hc := h c.toNat c.toNat_lt
  rwa [UInt8.ofNat_toNat] at hc

theorem utf8Start_eq : ∀ c : UInt8, ¬c < 0x80 → utf8Start c = sequenceStart c :=
  forall_octet (by decide +kernel)

theorem continues_iff : ∀ c : UInt8, Continues c ↔ c &&& 0xC0 = 0x80 :=
  forall_octet (by decide +kernel)

theorem toNat_of_continues : ∀ c : UInt8, Continues c →
    (c &&& 0x3F).toNat = c.toNat - 0x80 ∧ c.toNat - 0x80 < 2 ^ 6 :=
  forall_octet (by decide +kernel)

theorem continue_value (value : ℕ) {c : UInt8} (h : Continues c) :
    value <<< 6 ||| (c &&& 0x3F).toNat = 64 * value + (c.toNat - 0x80) := by
  obtain ⟨heq, hlt⟩ := toNat_of_continues c h
  rw [heq, ← Nat.shiftLeft_add_eq_or_of_lt hlt, Nat.shiftLeft_eq, Nat.mul_comm]

theorem utf8Continue_eq_ok {n value result : ℕ} {s rest : Octets} :
    utf8Continue n value s = .ok (result, rest) ↔ ∃ tail, s = tail ++ rest ∧ tail.length = n ∧
      (∀ c ∈ tail, Continues c) ∧ result = sequenceValue value tail := by
  induction n generalizing value s with
  | zero =>
    rw [utf8Continue]
    constructor
    · rintro h
      cases h
      exact ⟨[], rfl, rfl, nofun, rfl⟩
    · rintro ⟨tail, rfl, hlength, -, rfl⟩
      rw [List.length_eq_zero_iff.mp hlength]
      rfl
  | succ n ih =>
    cases s with
    | nil =>
      refine iff_of_false nofun ?_
      rintro ⟨tail, hs, hlength, -⟩
      rw [(List.append_eq_nil_iff.mp hs.symm).1] at hlength
      cases hlength
    | cons c s =>
      rw [utf8Continue]
      by_cases hc : Continues c
      · rw [if_neg (not_not.mpr ((continues_iff c).mp hc)), ih, continue_value value hc]
        constructor
        · rintro ⟨tail, rfl, rfl, hall, rfl⟩
          exact ⟨c :: tail, rfl, rfl, List.forall_mem_cons.mpr ⟨hc, hall⟩,
            (sequenceValue_cons ..).symm⟩
        · rintro ⟨_ | ⟨c', tail⟩, hs, hlength, hall, rfl⟩
          · cases hlength
          · cases hs
            exact ⟨tail, rfl, by simpa using hlength, (List.forall_mem_cons.mp hall).2,
              sequenceValue_cons ..⟩
      · rw [if_pos (mt (continues_iff c).mpr hc)]
        refine iff_of_false nofun ?_
        rintro ⟨_ | ⟨c', tail⟩, hs, hlength, hall, -⟩
        · cases hlength
        · cases hs
          exact hc (List.forall_mem_cons.mp hall).1

theorem length_pos_of_sequenceStart {c : UInt8} {length start : ℕ}
    (h : sequenceStart c = some (length, start)) : 0 < length := by
  rw [sequenceStart] at h
  split_ifs at h <;> cases h <;> decide

/-- An octet below 128 is a character. -/
theorem isCharacter_singleton {c : UInt8} (hc : c < 0x80) : IsCharacter [c] c.toNat where
  encoded := ⟨c, [], c.toNat, rfl, by rw [sequenceStart, if_pos hc]; rfl, nofun, rfl⟩
  shortest := Nat.zero_le _
  legal := by
    have hlt : c.toNat < 0x80 := hc
    omega

/-- **`parse_utf8`** reads one character. -/
theorem parseUtf8_eq_char {s rest : Octets} {value length : ℕ} :
    parseUtf8 s = .char value length rest ↔
      ∃ t, s = t ++ rest ∧ t.length = length ∧ IsCharacter t value := by
  constructor
  · intro h
    rw [parseUtf8.eq_def] at h
    split at h
    · cases h
    · rename_i c s
      split_ifs at h with hc
      · cases h
        exact ⟨[c], rfl, rfl, isCharacter_singleton hc⟩
      · rw [utf8Start_eq c hc] at h
        split at h
        · cases h
        · rename_i n start hstart
          split_ifs at h with hshort
          split at h
          · cases h
          · rename_i value' rest' hcontinue
            obtain ⟨tail, rfl, hlength, hall, rfl⟩ := utf8Continue_eq_ok.mp hcontinue
            split_ifs at h with hmin hlegal
            cases h
            have hn : (c :: tail).length = length := by
              have hpos := length_pos_of_sequenceStart hstart
              rw [List.length_cons]
              omega
            exact ⟨c :: tail, rfl, hn, ⟨c, tail, start, rfl, hn ▸ hstart, hall, rfl⟩,
              hn ▸ not_lt.mp hmin, hlegal⟩
  · rintro ⟨t, rfl, rfl, ⟨c, tail, start, rfl, hstart, hall, rfl⟩, hmin, hlegal⟩
    rw [List.cons_append, parseUtf8]
    by_cases hc : c < 0x80
    · rw [sequenceStart, if_pos hc] at hstart
      obtain ⟨hlength, rfl⟩ := Prod.mk.inj (Option.some.inj hstart)
      obtain rfl : tail = [] := List.length_eq_zero_iff.mp (by simpa using hlength)
      rw [if_pos hc]
      rfl
    · have hcontinue : utf8Continue ((c :: tail).length - 1) start (tail ++ rest) =
          .ok (sequenceValue start tail, rest) :=
        utf8Continue_eq_ok.mpr ⟨tail, rfl, by simp, hall, rfl⟩
      have hshort : ¬(c :: (tail ++ rest)).length < (c :: tail).length := by simp
      simp only [if_neg hc, utf8Start_eq c hc, hstart, if_neg hshort, hcontinue,
        if_neg (not_lt.mpr hmin), if_neg hlegal]

/-! ### Strings that are converted -/

/-- A control character. -/
def IsControl (value : ℕ) : Prop := value < 0x20 ∨ (0x7F ≤ value ∧ value < 0xA0)

/-- A character of the local character set. -/
def InCharset (charset : LocalCharset) (value : ℕ) : Prop :=
  match charset with
  | .usascii => value < 0x80
  | .latin1 => value < 0x100
  | .utf8 => True

/-- The string consists of characters with a property. -/
def Spelled (P : ℕ → Prop) (s : Octets) : Prop :=
  ∃ chars : List (Octets × ℕ), s = (chars.map Prod.fst).flatten ∧
    ∀ c ∈ chars, IsCharacter c.1 c.2 ∧ P c.2

/-- All of the string is characters of the local character set, none of them a control character. -/
def Plain (charset : LocalCharset) (s : Octets) : Prop :=
  Spelled (fun value => ¬IsControl value ∧ InCharset charset value) s

/-- What is converted: a newline may be there as well. -/
def Converts (charset : LocalCharset) (s : Octets) : Prop :=
  Spelled (fun value => (¬IsControl value ∨ value = 10) ∧ InCharset charset value) s

theorem Plain.converts {charset : LocalCharset} {s : Octets} (h : Plain charset s) :
    Converts charset s := by
  obtain ⟨chars, hs, hall⟩ := h
  refine ⟨chars, hs, fun c hc => ?_⟩
  obtain ⟨hchar, hcontrol, hlocal⟩ := hall c hc
  exact ⟨hchar, .inl hcontrol, hlocal⟩

section Convert

variable {charset : LocalCharset} {s : Octets} {value length : ℕ}

/-- One character under the paranoid flag alone. -/
theorem isSome_convertChar (s : Octets) (value length : ℕ) :
    (convertChar charset ⟨false, true, false⟩ s value length).isSome ↔
      (¬IsControl value ∨ value = 10) ∧ InCharset charset value := by
  have hcontrol : ucs4IsControl value = false ↔ ¬IsControl value ∨ value = 10 := by
    simp only [ucs4IsControl, IsControl, decide_eq_false_iff_not]
    omega
  rw [← hcontrol, convertChar]
  cases ucs4IsControl value with
  | true => simp
  | false =>
    cases charset with
    | utf8 => simp [InCharset]
    | usascii | latin1 =>
      simp only [InCharset, ucs4ToLocal]
      split_ifs <;> simp_all

/-- No zero octet is added. -/
theorem mem_of_convertChar {c : Octets}
    (h : convertChar charset ⟨false, true, false⟩ s value length = some c) (hzero : 0 ∈ c) :
    0 ∈ s := by
  have hsome : (convertChar charset ⟨false, true, false⟩ s value length).isSome := by rw [h]; rfl
  obtain ⟨hcontrol, hlocal⟩ := (isSome_convertChar _ _ _).mp hsome
  have hvalue : value ≠ 0 := by
    rintro rfl
    rcases hcontrol with hno | hnl
    · exact hno (.inl (by decide))
    · cases hnl
  have hoctet (hlt : value < 256) : UInt8.ofNat value ≠ 0 := by
    intro h0
    have hnat := congrArg UInt8.toNat h0
    rw [UInt8.toNat_ofNat_of_lt' hlt] at hnat
    exact hvalue hnat
  have hparanoid : ¬ucs4IsControl value = true := by
    intro htrue
    simp [convertChar, htrue] at h
  rw [convertChar, if_neg fun h => hparanoid h.2] at h
  cases charset with
  | utf8 =>
    cases h
    exact List.mem_of_mem_take hzero
  | usascii | latin1 =>
    have hlt : value < 256 := by
      simp only [InCharset] at hlocal
      omega
    simp only [InCharset] at hlocal
    simp only [reduceCtorEq, if_false, ucs4ToLocal, if_pos hlocal, Option.some.injEq] at h
    subst h
    exact absurd (List.mem_singleton.mp hzero).symm (hoctet hlt)

/-- Before the end of the input there is a character. -/
theorem parseUtf8_ne_eod (c : UInt8) (s : Octets) : parseUtf8 (c :: s) ≠ .eod := by
  rw [parseUtf8]
  split_ifs
  · exact nofun
  · cases utf8Start c with
    | none => exact nofun
    | some start =>
      dsimp only
      split_ifs
      · exact nofun
      · cases utf8Continue (start.1 - 1) start.2 s with
        | error rest => exact nofun
        | ok result =>
          dsimp only
          split_ifs <;> exact nofun

/-- A string is converted character by character. -/
theorem converts_iff {rest : Octets} (hparse : parseUtf8 s = .char value length rest) :
    Converts charset s ↔
      ((¬IsControl value ∨ value = 10) ∧ InCharset charset value) ∧ Converts charset rest := by
  constructor
  · rintro ⟨_ | ⟨c, chars⟩, rfl, hall⟩
    · cases hparse
    · obtain ⟨hc, hall⟩ := List.forall_mem_cons.mp hall
      have hfirst : parseUtf8 (((c :: chars).map Prod.fst).flatten) =
          .char c.2 c.1.length (chars.map Prod.fst).flatten :=
        parseUtf8_eq_char.mpr ⟨c.1, rfl, rfl, hc.1⟩
      rw [hfirst] at hparse
      cases hparse
      exact ⟨hc.2, chars, rfl, hall⟩
  · rintro ⟨hvalue, chars, rfl, hall⟩
    obtain ⟨t, rfl, -, hchar⟩ := parseUtf8_eq_char.mp hparse
    exact ⟨(t, value) :: chars, rfl, List.forall_mem_cons.mpr ⟨⟨hchar, hvalue⟩, hall⟩⟩

theorem lowUtf8Loop_spec {n : ℕ} (hn : s.length ≤ n) :
    ((lowUtf8Loop charset ⟨false, true, false⟩ n s).isSome ↔ Converts charset s) ∧
      ∀ res, lowUtf8Loop charset ⟨false, true, false⟩ n s = some res → 0 ∈ res → 0 ∈ s := by
  induction n generalizing s with
  | zero =>
    obtain rfl : s = [] := List.length_eq_zero_iff.mp (Nat.le_zero.mp hn)
    exact ⟨iff_of_true rfl ⟨[], rfl, nofun⟩, fun res h => by cases h; exact id⟩
  | succ n ih =>
    cases s with
    | nil => exact ⟨iff_of_true rfl ⟨[], rfl, nofun⟩, fun res h => by cases h; exact id⟩
    | cons o s =>
      rw [lowUtf8Loop]
      cases hparse : parseUtf8 (o :: s) with
      | eod => exact absurd hparse (parseUtf8_ne_eod o s)
      | error rest =>
        refine ⟨iff_of_false (by simp) ?_, by simp⟩
        rintro ⟨_ | ⟨c, chars⟩, hs, hall⟩
        · cases hs
        · have hchar := (hall c (by simp)).1
          rw [parseUtf8_eq_char.mpr ⟨c.1, hs, rfl, hchar⟩] at hparse
          cases hparse
      | char value length rest =>
        have hrest : rest <:+ o :: s ∧ rest.length ≤ n := by
          obtain ⟨t, hs, -, ⟨c, tail, start, rfl, -⟩, -, -⟩ := parseUtf8_eq_char.mp hparse
          have hlength := congrArg List.length hs
          rw [List.length_append, List.length_cons, List.length_cons] at hlength
          rw [List.length_cons] at hn
          exact ⟨⟨c :: tail, hs.symm⟩, by omega⟩
        obtain ⟨hiff, hzero⟩ := ih hrest.2
        dsimp only
        rw [converts_iff hparse, ← isSome_convertChar (o :: s) value length, ← hiff]
        cases hchar : convertChar charset ⟨false, true, false⟩ (o :: s) value length with
        | none => exact ⟨by simp, by simp⟩
        | some c =>
          cases hloop : lowUtf8Loop charset ⟨false, true, false⟩ n rest with
          | none => exact ⟨by simp, by simp⟩
          | some res =>
            refine ⟨by simp, fun res' hres hmem => ?_⟩
            cases hres
            rcases List.mem_append.mp hmem with hmem | hmem
            · exact mem_of_convertChar hchar hmem
            · exact hrest.1.subset (hzero res hloop hmem)

/-- **What is converted** under the paranoid flag alone. -/
theorem isSome_lowUtf8ToLocal :
    (lowUtf8ToLocal charset ⟨false, true, false⟩ s).isSome ↔ Converts charset s :=
  (lowUtf8Loop_spec le_rfl).1

theorem zero_mem_of_lowUtf8ToLocal {res : Octets}
    (h : lowUtf8ToLocal charset ⟨false, true, false⟩ s = some res) (hzero : 0 ∈ res) : 0 ∈ s :=
  (lowUtf8Loop_spec le_rfl).2 res h hzero

end Convert

end Lsh.Charset
