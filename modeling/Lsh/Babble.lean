
import Lsh.Library.Machine
import Lsh.Library.Octets

/-!
# Bubble babble

A model of `lsh_string_bubblebabble` of `lsh_string.c`. Two octets become three vowels and three
consonants, and a checksum of the octets in front of them is added to the vowels. The size of the
result is computed in 32 bits. A character from behind the end of a table is `none`.

## Main results

* `bubblebabble_injective` — the length of the result, and no two strings have the same
-/

namespace Lsh

open Machine

/-- How `lsh_string_bubblebabble` may fail. -/
inductive BabbleFailure where
  /-- `0 != i` in `lsh_string_bubblebabble_c`. -/
  | index
  /-- An octet behind the end is read, or an assertion excludes that. -/
  | range
  /-- `lsh_string_putc`: there is room in the string. -/
  | room
  /-- `r == lsh_string_length(p)`. -/
  | size
  deriving DecidableEq, Repr

abbrev Babble := List (Option UInt8)

def vowels : Octets := [97, 101, 105, 111, 117, 121]

def cons : Octets := [98, 99, 100, 102, 103, 104, 107, 108, 109, 110, 112, 114, 115, 116, 118, 122,
    120]

/-- The checksum after two octets. -/
def nextChecksum (c : ℕ) (x y : UInt8) : ℕ := (5 * c + (x.toNat * 7 + y.toNat)) % 36

/-- `lsh_string_bubblebabble_c`. -/
def bubblebabbleC (s : Octets) : ℕ → Except BabbleFailure ℕ
  | 0 => .error .index
  | 1 => .ok 1
  | i + 2 =>
    match s[2 * i]?, s[2 * i + 1]? with
    | some x, some y => (nextChecksum · x y) <$> bubblebabbleC s (i + 1)
    | _, _ => .error .range

/-- `lsh_string_putc` for each of the characters, in a string of the given size. -/
def putcs (size : ℕ) (p cs : Babble) : Except BabbleFailure Babble := do
  require (p.length + cs.length ≤ size) .room
  return p ++ cs

/-- The characters for the first octet of two. -/
def babbleFirst (c : ℕ) (x : UInt8) : Babble :=
  [vowels[(x.toNat / 64 % 4 + c) % 6]?, cons[x.toNat / 4 % 16]?, vowels[(x.toNat % 4 + c / 6) % 6]?]

/-- The characters for the second octet of two. -/
def babbleSecond (y : UInt8) : Babble := [cons[y.toNat / 16 % 16]?, some 45, cons[y.toNat % 16]?]

/-- The characters at the end, for one more octet if the length is odd. -/
def babbleLast (s : Octets) (c : ℕ) : Except BabbleFailure Babble :=
  if s.length % 2 = 1 then
    match s[s.length - 1]? with
    | some x => .ok (babbleFirst c x)
    | none => .error .range
  else .ok [vowels[c % 6]?, cons[16]?, vowels[c / 6]?]

/-- The loop of `lsh_string_bubblebabble` with `n` rounds to go, and what follows it. -/
def babbleLoop (s : Octets) (size : ℕ) : ℕ → ℕ → Babble → Except BabbleFailure Babble
  | 0, i, p => do
    let last ← babbleLast s (← bubblebabbleC s (i + 1))
    let p ← putcs size p (last ++ [some 120])
    require (p.length = size) .size
    return p
  | n + 1, i, p =>
    match s[2 * i]?, s[2 * i + 1]? with
    | some x, some y => do
      let c ← bubblebabbleC s (i + 1)
      let p ← putcs size p (babbleFirst c x ++ babbleSecond y)
      babbleLoop s size n (i + 1) p
    | _, _ => .error .range

/-- `lsh_string_bubblebabble`. -/
def bubblebabble (s : Octets) : Except BabbleFailure Babble := do
  let size := (2 + 6 * (s.length / 2) + 3) % 2 ^ 32
  let p ← putcs size [] [some 120]
  babbleLoop s size (s.length / 2) 0 p

/-- What is put for a string, behind one with the checksum `c`. -/
def babble : ℕ → Octets → Babble
  | c, x :: y :: s => babbleFirst c x ++ babbleSecond y ++ babble (nextChecksum c x y) s
  | c, [x] => babbleFirst c x
  | c, [] => [vowels[c % 6]?, cons[16]?, vowels[c / 6]?]

theorem putcs_append (size p cs cs') :
    (putcs size p cs >>= (putcs size · cs')) = putcs size p (cs ++ cs') := by
  rw [putcs, putcs]
  by_cases h : p.length + cs.length ≤ size
  · rw [require_of h, ok_bind]
    simp [putcs, Nat.add_assoc]
  · rw [require_of_not h, require_of_not (by simp; omega)]
    rfl

variable {t s : Octets} {c : ℕ}

/-- The loop puts what `babble` says, for what is left of the string. -/
theorem babbleLoop_eq {i n size : ℕ} (hs : s.drop (2 * i) = t) (hi : 2 * i ≤ s.length)
    (hn : n = t.length / 2)
    (hc : bubblebabbleC s (i + 1) = .ok c) (p) :
    babbleLoop s size n i p = (do
      let p ← putcs size p (babble c t ++ [some 120])
      require (p.length = size) .size
      return p) := by
  have hget (j : ℕ) : s[2 * i + j]? = t[j]? := by rw [← hs, List.getElem?_drop]
  have hlen : s.length = 2 * i + t.length := by
    rw [← hs, List.length_drop]
    omega
  induction n generalizing i t c p with
  | zero =>
    have hlast : babbleLast s c = .ok (babble c t) := by
      rw [babbleLast, hlen]
      rcases t with - | ⟨x, - | ⟨y, t⟩⟩
      · simp [babble]
      · have hx : s[2 * i]? = some x := hget 0
        simp [babble, hx]
      · rw [List.length_cons, List.length_cons] at hn
        omega
    rw [babbleLoop, hc, ok_bind, hlast, ok_bind]
  | succ n ih =>
    rcases t with - | ⟨x, - | ⟨y, t⟩⟩
    · simp at hn
    · simp at hn
    · have hx : s[2 * i]? = some x := hget 0
      have hy : s[2 * i + 1]? = some y := hget 1
      have hs' : s.drop (2 * (i + 1)) = t := by
        rw [Nat.mul_add, ← List.drop_drop, hs]
        rfl
      have hc' : bubblebabbleC s (i + 2) = .ok (nextChecksum c x y) := by
        rw [bubblebabbleC, hx, hy, hc]
        rfl
      rw [List.length_cons, List.length_cons] at hlen hn
      rw [babbleLoop, hx, hy, babble, List.append_assoc, ← putcs_append, bind_assoc]
      dsimp only
      rw [hc, ok_bind]
      congr 1
      funext p
      refine ih hs' (by omega) (by omega) hc' p (fun j => ?_) (by omega)
      rw [← hs', List.getElem?_drop]

theorem babble_ne_none (hc : c < 36) (s) : none ∉ babble c s := by
  fun_induction babble c s with
  | case1 c x y s ih =>
    simp [babbleFirst, babbleSecond, vowels, cons, ih (Nat.mod_lt _ (by decide))]
    omega
  | case2 | case3 =>
    simp [babbleFirst, vowels, cons]
    omega

theorem length_babble (c s) : (babble c s).length = 3 + 6 * (s.length / 2) := by
  fun_induction babble c s with
  | case1 c x y s ih =>
    simp [babbleFirst, babbleSecond, ih]
    omega
  | case2 | case3 => simp [babbleFirst]

theorem cons_injective : ∀ a < 17, ∀ b < 17, cons[a]? = cons[b]? → a = b := by decide

variable {x y : UInt8}

theorem babbleFirst_injective (h : babbleFirst c x = babbleFirst c y) : x = y := by
  have hv : ∀ a < 6, ∀ b < 6, vowels[a]? = vowels[b]? → a = b := by decide
  simp only [babbleFirst, List.cons.injEq, and_true] at h
  have h1 := hv _ (Nat.mod_lt _ (by decide)) _ (Nat.mod_lt _ (by decide)) h.1
  have h2 := cons_injective _ (by omega) _ (by omega) h.2.1
  have h3 := hv _ (Nat.mod_lt _ (by decide)) _ (Nat.mod_lt _ (by decide)) h.2.2
  have h1 : x.toNat / 64 % 4 = y.toNat / 64 % 4 := by omega
  have h3 : x.toNat % 4 = y.toNat % 4 := by omega
  have := x.toNat_lt
  have := y.toNat_lt
  exact UInt8.toNat_inj.mp (by omega)

theorem babbleSecond_injective (h : babbleSecond x = babbleSecond y) : x = y := by
  simp only [babbleSecond, List.cons.injEq, and_true, true_and] at h
  have h1 := cons_injective _ (by omega) _ (by omega) h.1
  have h2 := cons_injective _ (by omega) _ (by omega) h.2
  have := x.toNat_lt
  have := y.toNat_lt
  exact UInt8.toNat_inj.mp (by omega)

theorem babble_injective (h : babble c s = babble c t) : s = t := by
  have hodd (x : UInt8) : cons[x.toNat / 4 % 16]? ≠ cons[16]? := fun h =>
    absurd (cons_injective _ (by omega) _ (by decide) h) (by omega)
  have hlen := congrArg List.length h
  rw [length_babble, length_babble] at hlen
  fun_induction babble c s generalizing t with
  | case1 c x y s ih =>
    match t with
    | [] | [_] => grind
    | x' :: y' :: t =>
      obtain ⟨hxy, hs⟩ := List.append_inj h rfl
      obtain ⟨hx, hy⟩ := List.append_inj hxy rfl
      obtain rfl := babbleFirst_injective hx
      obtain rfl := babbleSecond_injective hy
      rw [ih hs (by grind)]
  | case2 c x =>
    match t with
    | [] => exact absurd (List.cons.inj (List.cons.inj h).2).1 (hodd x)
    | [y] => rw [babbleFirst_injective h]
    | _ :: _ :: _ => grind
  | case3 c =>
    match t with
    | [] => rfl
    | [y] => exact absurd (List.cons.inj (List.cons.inj h).2).1.symm (hodd y)
    | _ :: _ :: _ => grind

/-- The result, if its length can be computed in 32 bits. -/
theorem bubblebabble_eq (s) :
    bubblebabble s = if 5 + 6 * (s.length / 2) < 2 ^ 32
      then .ok ([some 120] ++ (babble 1 s ++ [some 120])) else .error .room := by
  have hlen : ([some 120] ++ (babble 1 s ++ [some 120])).length = 2 + 6 * (s.length / 2) + 3 := by
    simp [length_babble]
    omega
  have hloop (size p) : babbleLoop s size (s.length / 2) 0 p = (do
      let p ← putcs size p (babble 1 s ++ [some 120])
      require (p.length = size) .size
      return p) := babbleLoop_eq (i := 0) rfl (Nat.zero_le _) rfl rfl p
  rw [bubblebabble]
  simp only [hloop]
  rw [← bind_assoc, putcs_append, putcs, hlen]
  split_ifs with h
  · rw [Nat.mod_eq_of_lt (by omega), require_of (by simp), ok_bind]
    show (require _ _ >>= _) = _
    rw [List.nil_append, require_of hlen, ok_bind]
    rfl
  · rw [require_of_not (by rw [List.length_nil]; omega)]
    rfl

/-- **Bubble babble is injective**: no assertion fails, no table is read behind its end, the result
has the length that is computed for it, and no other string has the same. -/
theorem bubblebabble_injective (s t : Octets) (hs : 5 + 6 * (s.length / 2) < 2 ^ 32)
    (ht : 5 + 6 * (t.length / 2) < 2 ^ 32) :
    Yields (fun p => none ∉ p ∧ p.length = 5 + 6 * (s.length / 2)) (bubblebabble s) ∧
      (bubblebabble s = bubblebabble t → s = t) := by
  rw [bubblebabble_eq, bubblebabble_eq, if_pos hs, if_pos ht]
  refine ⟨⟨?_, ?_⟩, fun h => ?_⟩
  · simpa using babble_ne_none (c := 1) (by decide) s
  · simp [length_babble]
    omega
  · simp only [Except.ok.injEq, List.append_cancel_left_eq, List.append_cancel_right_eq] at h
    exact babble_injective h

theorem bubblebabble_injective_odd :
    Yields (fun p => none ∉ p ∧ p.length = 11) (bubblebabble [1, 2, 3]) ∧
      bubblebabble [1, 2, 3] ≠ bubblebabble [1, 2] :=
  have h := bubblebabble_injective [1, 2, 3] [1, 2] (by decide) (by decide)
  ⟨h.1, mt h.2 (by decide)⟩

/-- The size is computed in 32 bits. -/
theorem bubblebabble_fails : bubblebabble (List.replicate 1431655766 0) = .error .room := by
  rw [bubblebabble_eq, List.length_replicate]
  rfl

end Lsh
