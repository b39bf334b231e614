
import Mathlib.Data.List.Basic

/-!
# Files as lists

The content of a file is a list. Writing at an offset behind the end fills the gap with a default
element, which is what a file system does with zero octets.

`writeAt_append` and `writeAt_gap` are the two ways in which a file grows, and `writeAt_self` says
that writing what is there already changes nothing. `writeAt_getLast` is about a file whose end was
left out because it is made of default elements.
-/

namespace Files

open List

variable {α : Type*} [Inhabited α]

/-- Write a list at an offset. Writing nothing does not extend the file. -/
def writeAt (content : List α) (offset : ℕ) (data : List α) : List α :=
  if data = [] then content
  else (content ++ List.replicate (offset - content.length) default).take offset ++ data ++
    content.drop (offset + data.length)

@[simp] theorem writeAt_nil (content : List α) (offset) :
    writeAt content offset [] = content := if_pos rfl

/-- Writing behind the end leaves a gap. -/
theorem writeAt_gap {offset : ℕ} {cont data : List α} (hoffset : cont.length ≤ offset)
    (hdata : data ≠ []) :
    writeAt cont offset data = cont ++ List.replicate (offset - cont.length) default ++ data := by
  have hlen : (cont ++ List.replicate (offset - cont.length) default).length = offset := by
    simp
    omega
  rw [writeAt, if_neg hdata, take_of_length_le (Nat.le_of_eq hlen), drop_of_length_le (by omega),
    append_nil]

/-- Writing over what is there. -/
theorem writeAt_self (before data after : List α) :
    writeAt (before ++ data ++ after) before.length data = before ++ data ++ after := by
  by_cases hdata : data = []
  · simp [hdata]
  · simp [writeAt, hdata, Nat.sub_eq_zero_of_le]

/-- A file without the default elements at its end grows to its length when the last one is
written. -/
theorem writeAt_getLast {content whole : List α} (h : whole = content ++ List.replicate n default)
    (hne : whole ≠ []) :
    writeAt content (whole.length - 1) [whole.getLast hne] = whole := by
  cases n with
  | zero =>
    obtain rfl : whole = content := by simpa using h
    have hself := writeAt_self whole.dropLast [whole.getLast hne] []
    rwa [append_nil, dropLast_append_getLast, length_dropLast] at hself
  | succ n =>
    subst h
    rw [writeAt_gap (by simp) (cons_ne_nil _ _)]
    simp [replicate_succ']

end Files
