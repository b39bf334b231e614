
import Lsh.Library.Machine
import Lsh.Library.Octets
import Mathlib.Data.List.Basic

/-!
# Tags of host names

A model of the loop of `make_ssh_hostkey_tag` of `spki.c`, which reverses the order of the
components of a host name. The string is filled from its end, and `left` is both where it is filled
up to and the length of what is left of the name. It starts as the length of the name in 32 bits.

## Main results

* `makeSshHostkeyTag_eq` — the components in reverse order, and the name again when done twice
-/

namespace Lsh.Spki

open Machine List

/-- `ASSERT_ROOM` in `lsh_string_write`, and the assertion of `lsh_string_putc`. -/
inductive RoomAssertion where
  | room
  deriving DecidableEq, Repr

/-- A string, with `none` for the octets that have not been written yet. -/
abbrev Unwritten := List (Option UInt8)

/-- `lsh_string_write`. -/
def lshStringWrite (s : Unwritten) (start : ℕ) (data : Octets) :
    Except RoomAssertion Unwritten := do
  require (start ≤ s.length) .room
  require (data.length ≤ s.length - start) .room
  return s.take start ++ data.map some ++ s.drop (start + data.length)

/-- The loop of `make_ssh_hostkey_tag`. The index of a dot that is not there is the length. -/
def reverseHost (s : Octets) (left : ℕ) (reversed : Unwritten) :
    Except RoomAssertion Unwritten := do
  let segment := (s.take left).idxOf 46
  if left = 0 then return reversed
  else if left ≤ segment then lshStringWrite reversed 0 (s.take left)
  else
    let reversed ← lshStringWrite reversed (left - segment) (s.take segment)
    -- `lsh_string_putc`
    let reversed ← lshStringWrite reversed (left - segment - 1) [46]
    reverseHost (s.drop (segment + 1)) (left - segment - 1) reversed
termination_by left

/-- The string in the tag that `make_ssh_hostkey_tag` makes. -/
def makeSshHostkeyTag (host : Octets) : Except RoomAssertion Unwritten :=
  let left := host.length % 2 ^ 32
  reverseHost host left (replicate left none)

/-- The components of a name in reverse order. -/
def reverseComponents (host : Octets) : Octets := [46].intercalate (host.splitOn 46).reverse

theorem intercalate_append {xs ys : List Octets} (hxs : xs ≠ []) (hys : ys ≠ []) :
    [46].intercalate (xs ++ ys) = [46].intercalate xs ++ 46 :: [46].intercalate ys := by
  induction xs with
  | nil => contradiction
  | cons x xs ih =>
    rcases eq_or_ne xs [] with rfl | hne
    · simp [intercalate_cons_of_ne_nil hys]
    · rw [cons_append, intercalate_cons_of_ne_nil (by simp [hne]), ih hne,
        intercalate_cons_of_ne_nil hne]
      simp

theorem reverseComponents_append (xs ys : Octets) :
    reverseComponents (xs ++ 46 :: ys) = reverseComponents ys ++ 46 :: reverseComponents xs := by
  simp only [reverseComponents, splitOn_append_cons_self, reverse_append]
  exact intercalate_append (by simp [splitOn_ne_nil]) (by simp [splitOn_ne_nil])

theorem reverseComponents_single {s : Octets} (h : 46 ∉ s) : reverseComponents s = s := by
  simp [reverseComponents, splitOn_eq_singleton h]

/-- A name is one component, or one in front of a name. -/
theorem components_induction {P : Octets → Prop} (single : ∀ s, 46 ∉ s → P s)
    (cons : ∀ s t, 46 ∉ s → P t → P (s ++ 46 :: t)) (s : Octets) : P s := by
  induction hn : s.length using Nat.strong_induction_on generalizing s with
  | _ n ih =>
    by_cases h : 46 ∈ s
    · obtain ⟨seg, t, rfl, hseg⟩ := eq_append_cons_of_mem h
      exact cons seg t hseg (ih t.length (by simp at hn; omega) t rfl)
    · exact single s h

theorem lshStringWrite_eq (xs n rest data) (h : n = data.length) :
    lshStringWrite (xs ++ replicate n none ++ rest) xs.length data =
      .ok (xs ++ data.map some ++ rest) := by
  subst h
  rw [lshStringWrite, require_of (by simp), ok_bind, require_of (by simp), ok_bind]
  have : drop (xs.length + data.length) xs = [] := drop_of_length_le (by simp)
  simp [drop_append, this]
  rfl

/-- One round takes a component off the name, and puts it in front of what has been written. -/
theorem reverseHost_eq (s : Octets) (rest) :
    reverseHost s s.length (replicate s.length none ++ rest) =
      .ok ((reverseComponents s).map some ++ rest) := by
  induction s using components_induction generalizing rest with
  | single s h =>
    rw [reverseHost, reverseComponents_single h, take_length, idxOf_eq_length h]
    split_ifs with hz
    · rw [length_eq_zero_iff.mp hz]
      rfl
    · exact lshStringWrite_eq [] _ rest s rfl
    · omega
  | cons s t h ih =>
    have hidx : (s ++ 46 :: t).idxOf 46 = s.length := by simp [idxOf_append_of_notMem h]
    have hlen : (s ++ 46 :: t).length = t.length + 1 + s.length := by simp; omega
    have hwr := lshStringWrite_eq (replicate (t.length + 1) none) s.length rest s rfl
    have hput := lshStringWrite_eq (replicate t.length none) 1 (s.map some ++ rest) [46] rfl
    rw [length_replicate] at hwr hput
    rw [reverseHost, take_length, hidx, hlen, if_neg (by omega), if_neg (by omega),
      Nat.add_sub_cancel, Nat.add_sub_cancel, take_left, replicate_add, hwr, ok_bind,
      replicate_add, append_assoc _ _ rest, hput, ok_bind, drop_append, drop_of_length_le (by simp)]
    simp [reverseComponents_append, reverseComponents_single h, ih]

/-- **The components of a host name are reversed**: the string has the length of the name, all of it
is written, and its components are those of the name in reverse order. Done twice this gives the
name. -/
theorem makeSshHostkeyTag_eq (host : Octets) (h : host.length < 2 ^ 32) :
    makeSshHostkeyTag host = .ok ((reverseComponents host).map some) ∧
      (reverseComponents host).length = host.length ∧
      makeSshHostkeyTag (reverseComponents host) = .ok (host.map some) := by
  have heq (s : Octets) (hs : s.length < 2 ^ 32) :
      makeSshHostkeyTag s = .ok ((reverseComponents s).map some) := by
    rw [makeSshHostkeyTag, Nat.mod_eq_of_lt hs]
    simpa using reverseHost_eq s []
  have hlen : (reverseComponents host).length = host.length := by
    clear h
    induction host using components_induction with
    | single s hs => rw [reverseComponents_single hs]
    | cons s t hs ih => simp [reverseComponents_append, reverseComponents_single hs, ih]; omega
  have htwice : reverseComponents (reverseComponents host) = host := by
    clear h hlen
    induction host using components_induction with
    | single s hs => rw [reverseComponents_single hs, reverseComponents_single hs]
    | cons s t hs ih => simp [reverseComponents_append, reverseComponents_single hs, ih]
  exact ⟨heq host h, hlen, by rw [heq _ (hlen ▸ h), htwice]⟩

theorem makeSshHostkeyTag_eq_dots :
    makeSshHostkeyTag [97, 46, 46, 98, 46] = .ok ([46, 98, 46, 46, 97].map some) :=
  (makeSshHostkeyTag_eq [97, 46, 46, 98, 46] (by decide)).1

/-- The length is taken in 32 bits. -/
theorem makeSshHostkeyTag_ne :
    makeSshHostkeyTag (replicate (2 ^ 32) 97) = .ok [] ∧
      reverseComponents (replicate (2 ^ 32) 97) = replicate (2 ^ 32) 97 := by
  have hz (s : Octets) : reverseHost s 0 (replicate 0 none) = .ok [] := by
    rw [reverseHost]
    rfl
  refine ⟨?_, reverseComponents_single fun h => ?_⟩
  · rw [makeSshHostkeyTag, length_replicate, Nat.mod_self]
    exact hz _
  · cases eq_of_mem_replicate h

end Lsh.Spki
