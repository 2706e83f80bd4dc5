/-
Writing over a part of a list.

The bytes go over those from a position on, and what would lie behind the end is dropped,
so that the list keeps its length.  Pieces that follow one another are one piece.
-/

import Mathlib

namespace Overwrite

variable {α : Type*}

/-- The contents with the bytes from the position on. -/
def overwrite (contents : List α) (position : Nat) (bytes : List α) : List α :=
  contents.take position ++ bytes.take (contents.length - position) ++
    contents.drop (position + bytes.length)

variable {contents bytes : List α} {position index : Nat}

@[simp] theorem length_overwrite : (overwrite contents position bytes).length =
    contents.length := by
  unfold overwrite
  simp only [List.length_append, List.length_take, List.length_drop]
  omega

theorem getElem?_overwrite :
    (overwrite contents position bytes)[index]? =
      if position ≤ index ∧ index < position + bytes.length ∧ index < contents.length then
        bytes[index - position]?
      else contents[index]? := by
  unfold overwrite
  rw [List.getElem?_append, List.getElem?_append, List.length_append, List.length_take,
    List.length_take, List.getElem?_take, List.getElem?_take, List.getElem?_drop]
  by_cases inside : position ≤ index ∧ index < position + bytes.length ∧
      index < contents.length
  · rw [if_pos inside, if_pos (by omega), if_neg (by omega), if_pos (by omega)]
    exact congrArg (bytes[·]?) (by omega)
  · rw [if_neg inside]
    by_cases before : index < min position contents.length
    · rw [if_pos (by omega), if_pos before, if_pos (by omega)]
    · by_cases behind : contents.length ≤ index
      · rw [if_neg (by omega), List.getElem?_eq_none behind, List.getElem?_eq_none (by omega)]
      · rw [if_neg (by omega)]
        exact congrArg (contents[·]?) (by omega)

@[simp] theorem overwrite_nil : overwrite contents position [] = contents := by
  apply List.ext_getElem?
  intro index
  rw [getElem?_overwrite, if_neg fun inside => ?_]
  have upper := inside.2.1
  rw [List.length_nil] at upper
  omega

/-- Behind the end nothing is written. -/
theorem overwrite_of_length_le (behind : contents.length ≤ position) :
    overwrite contents position bytes = contents := by
  apply List.ext_getElem?
  intro index
  rw [getElem?_overwrite, if_neg fun inside => ?_]
  omega

/-- Pieces that follow one another are one. -/
theorem overwrite_append (contents first second : List α) (position : Nat) :
    overwrite contents position (first ++ second) =
      overwrite (overwrite contents position first) (position + first.length) second := by
  apply List.ext_getElem?
  intro index
  rw [getElem?_overwrite, getElem?_overwrite, getElem?_overwrite, length_overwrite,
    List.length_append]
  by_cases inSecond : position + first.length ≤ index ∧
      index < position + first.length + second.length ∧ index < contents.length
  · rw [if_pos inSecond, if_pos (by omega), List.getElem?_append_right (by omega)]
    exact congrArg (second[·]?) (by omega)
  · rw [if_neg inSecond]
    by_cases inFirst : position ≤ index ∧ index < position + first.length ∧
        index < contents.length
    · rw [if_pos inFirst, if_pos (by omega), List.getElem?_append_left (by omega)]
    · rw [if_neg inFirst, if_neg (by omega)]

theorem overwrite_singleton (contents : List α) (position : Nat) (byte : α) :
    overwrite contents position [byte] = contents.set position byte := by
  apply List.ext_getElem?
  intro index
  rw [getElem?_overwrite, List.getElem?_set, List.length_singleton]
  by_cases here : position = index
  · subst here
    rw [if_pos rfl, Nat.sub_self]
    by_cases inside : position < contents.length
    · rw [if_pos inside, if_pos (by omega)]
      rfl
    · rw [if_neg inside, if_neg (by omega), List.getElem?_eq_none (by omega)]
  · rw [if_neg here, if_neg (by omega)]

/-- Byte after byte. -/
theorem overwrite_cons (contents : List α) (position : Nat) (byte : α) (rest : List α) :
    overwrite contents position (byte :: rest) =
      overwrite (contents.set position byte) (position + 1) rest := by
  have split := overwrite_append contents [byte] rest position
  rw [overwrite_singleton] at split
  exact split

theorem overwrite_zero (contents bytes : List α) :
    overwrite contents 0 bytes = bytes.take contents.length ++ contents.drop bytes.length := by
  unfold overwrite
  rw [List.take_zero, List.nil_append, Nat.sub_zero, Nat.zero_add]

end Overwrite
