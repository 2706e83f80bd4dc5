/-
Strings that are no MAC address.

The loop stops at the first character that does not belong where it is, at the latest at the
terminator, and leaves what it has stored by then.  Among the digits it takes are ten
control characters, which `asciiToHex` turns into digits when it folds the case.
-/

import EtherSiaStack.MACText

namespace EtherSiaStack

open ByteMemory Inspector

/-- A character that differs from a decimal digit in the bit that folds the case. -/
def IsControlDigit (c : UInt8) : Prop :=
  0x10 ≤ c ∧ c ≤ 0x19

instance (c : UInt8) : Decidable (IsControlDigit c) :=
  inferInstanceAs (Decidable (_ ∧ _))

theorem asciiToHex_isSome_iff (c : UInt8) :
    (asciiToHex c).isSome ↔ (hexDigit c).isSome ∨ IsControlDigit c := by
  have table : ∀ n : Fin 256, (asciiToHex (UInt8.ofNat n)).isSome ↔
      (hexDigit (UInt8.ofNat n)).isSome ∨ IsControlDigit (UInt8.ofNat n) := by
    decide +kernel
  have row := table ⟨c.toNat, c.toNat_lt⟩
  rw [UInt8.ofNat_toNat] at row
  exact row

namespace MACAddress

/-- The character of a text that is a hexadecimal digit, by its value. -/
def digitAt (text : List UInt8) (strpos : Nat) : Option Nat :=
  text[strpos]?.bind hexDigit

/-- Six pairs of hexadecimal digits with a separator between them, at the start. -/
structure PairsOfDigits (text : List UInt8) : Prop where
  digits : ∀ i < 6, (digitAt text (3 * i)).isSome ∧ (digitAt text (3 * i + 1)).isSome
  separators : ∀ i < 5, text[3 * i + 2]? = some colon ∨ text[3 * i + 2]? = some dash

/-- The character at this position can not stand there. -/
def Misplaced (text : List UInt8) (strpos : Nat) : Prop :=
  if strpos % 3 = 2 then text[strpos]? ≠ some colon ∧ text[strpos]? ≠ some dash
  else digitAt text strpos = none

/-- What is left of an address at the position the loop stops at: octets it has not got to
as they were, one digit in the upper half of an octet, or two digits. -/
structure Leaves (text : List UInt8) (stopped : Nat) (previous address : MACAddress) :
    Prop where
  unread : ∀ i : Fin 6, stopped ≤ 3 * i.val → address.octet i = previous.octet i
  half : ∀ (i : Fin 6) (high : Nat), stopped = 3 * i.val + 1 →
    digitAt text (3 * i.val) = some high → (address.octet i).toNat = 16 * high
  whole : ∀ (i : Fin 6) (high low : Nat), 3 * i.val + 2 ≤ stopped →
    digitAt text (3 * i.val) = some high → digitAt text (3 * i.val + 1) = some low →
      (address.octet i).toNat = 16 * high + low

section Stopping

variable {macstr : Memory} {text : List UInt8} {stopped : Nat}

theorem getElem?_of_string (string : NullTerminated macstr text) {strpos : Nat}
    (inside : strpos < text.length) : text[strpos]? = some (macstr strpos) := by
  obtain ⟨spelled, -⟩ := spells_append.mp string.spelled
  have here := spells_iff_getElem.mp spelled strpos inside
  rw [Nat.zero_add] at here
  rw [List.getElem?_eq_getElem inside, here]

/-- A digit of the text is the one the loop has read. -/
theorem digit_toNat (string : NullTerminated macstr text) {strpos value : Nat}
    (isDigit : digitAt text strpos = some value) :
    (digit macstr strpos).toNat = value ∧ value < 16 := by
  unfold digitAt at isDigit
  obtain ⟨c, here, isHex⟩ := Option.bind_eq_some_iff.mp isDigit
  obtain ⟨inside, -⟩ := List.getElem?_eq_some_iff.mp here
  rw [getElem?_of_string string inside] at here
  cases here
  obtain ⟨val, yields, same, small⟩ := asciiToHex_of_hexDigit (by rw [isHex]; rfl)
  rw [isHex, Option.getD_some] at same
  rw [digit, yields, Option.getD_some, same]
  exact ⟨rfl, same ▸ small⟩

theorem shifted_toNat {value : UInt8} (small : value.toNat < 16) :
    (value <<< 4).toNat = 16 * value.toNat := by
  rw [UInt8.toNat_shiftLeft]
  have four : UInt8.toNat 4 % 8 = 4 := rfl
  rw [four, Nat.shiftLeft_eq]
  omega

theorem pair_toNat {high low : UInt8} (highSmall : high.toNat < 16) (lowSmall : low.toNat < 16) :
    (high <<< 4 ||| low).toNat = 16 * high.toNat + low.toNat := by
  have shifted : (high <<< 4).toNat = high.toNat <<< 4 := by
    rw [shifted_toNat highSmall, Nat.shiftLeft_eq]
    omega
  rw [UInt8.toNat_or, shifted, ← Nat.shiftLeft_add_eq_or_of_lt lowSmall, Nat.shiftLeft_eq]
  omega

theorem parsed_leaves (string : NullTerminated macstr text) (previous : MACAddress)
    (stopped : Nat) : Leaves text stopped previous (parsed macstr previous stopped) where
  unread := fun _ notReached => if_pos notReached
  half := by
    intro i high position isHigh
    obtain ⟨value, small⟩ := digit_toNat string isHigh
    unfold parsed
    dsimp only
    rw [if_neg (by omega), if_pos position, shifted_toNat (by omega), value]
  whole := by
    intro i high low position isHigh isLow
    obtain ⟨highValue, highSmall⟩ := digit_toNat string isHigh
    obtain ⟨lowValue, lowSmall⟩ := digit_toNat string isLow
    unfold parsed
    dsimp only
    rw [if_neg (by omega), if_neg (by omega), pair_toNat (by omega) (by omega), highValue,
      lowValue]

theorem misplaced_of_not_takes (string : NullTerminated macstr text)
    (inText : stopped ≤ text.length) (refuses : ¬Takes macstr stopped) :
    Misplaced text stopped := by
  unfold Misplaced digitAt
  unfold Takes at refuses
  rcases Nat.eq_or_lt_of_le inText with atEnd | inside
  · have nothing : text[stopped]? = none := List.getElem?_eq_none (Nat.le_of_eq atEnd.symm)
    rw [nothing]
    split
    · exact ⟨Option.some_ne_none _ |>.symm, Option.some_ne_none _ |>.symm⟩
    · rfl
  · rw [getElem?_of_string string inside]
    split
    · rename_i isSeparator
      rw [if_pos isSeparator] at refuses
      exact ⟨fun same => refuses (Or.inl (Option.some.inj same)),
        fun same => refuses (Or.inr (Option.some.inj same))⟩
    · rename_i notSeparator
      rw [if_neg notSeparator, asciiToHex_isSome_iff] at refuses
      exact Option.not_isSome_iff_eq_none.mp (not_or.mp refuses).1

/-- Without control characters, 17 characters that are taken are the pairs. -/
theorem pairsOfDigits_of_takes (string : NullTerminated macstr text)
    (long : 17 ≤ text.length) (takes : ∀ strpos < 17, Takes macstr strpos)
    (noControl : ∀ c ∈ text.take 17, ¬IsControlDigit c) : PairsOfDigits text := by
  have isDigit : ∀ strpos < 17, strpos % 3 ≠ 2 → (digitAt text strpos).isSome := by
    intro strpos below notSeparator
    have here := getElem?_of_string string (show strpos < text.length by omega)
    have taken := takes strpos below
    unfold Takes at taken
    rw [if_neg notSeparator, asciiToHex_isSome_iff] at taken
    have member : macstr strpos ∈ text.take 17 := by
      have among : (text.take 17)[strpos]? = some (macstr strpos) := by
        rw [List.getElem?_take, if_pos below, here]
      exact List.mem_of_getElem? among
    unfold digitAt
    rw [here]
    exact taken.resolve_right (noControl _ member)
  constructor
  · intro i below
    exact ⟨isDigit _ (by omega) (by omega), isDigit _ (by omega) (by omega)⟩
  · intro i below
    have taken := takes (3 * i + 2) (by omega)
    unfold Takes at taken
    rw [if_pos (by omega)] at taken
    rw [getElem?_of_string string (by omega)]
    exact taken.imp (congrArg some) (congrArg some)

end Stopping

/-- For every string: nothing behind the terminator is read; without control characters
among the first 17, these are pairs of digits if the call succeeds; and a call that fails
has stopped at a character that can not stand where it is, and has changed no octet it had
not got to. -/
theorem fromString_sound {macstr : Memory} {text : List UInt8}
    (string : NullTerminated macstr text) (previous : MACAddress) :
    Within (text.length + 1) previous.fromString macstr ∧
      ∃ success address, (previous.fromString macstr).value = some (success, address) ∧
        (success = true → (∀ c ∈ text.take 17, ¬IsControlDigit c) → PairsOfDigits text) ∧
        (success = false → ∃ stopped, stopped < 17 ∧ stopped ≤ text.length ∧
          Misplaced text stopped ∧ Leaves text stopped previous address) := by
  obtain ⟨stopped, stops, value, within⟩ := fromString_stops macstr previous
  have inText := stops.le_length string
  refine ⟨fun address member => Nat.lt_of_lt_of_le (within address member) (by omega), _, _,
    value, ?_, ?_⟩
  · intro success noControl
    have atEnd : stopped = 17 := of_decide_eq_true success
    refine pairsOfDigits_of_takes string (by omega) (fun strpos below => ?_) noControl
    exact stops.takes strpos (Nat.zero_le _) (by omega)
  · intro failure
    have early : stopped < 17 := Nat.lt_of_le_of_ne stops.upper (of_decide_eq_false failure)
    exact ⟨stopped, early, inText, misplaced_of_not_takes string inText (stops.refuses early),
      parsed_leaves string previous stopped⟩

/-- "6a:xx:xx:xx:xx:d1". -/
def notHexText : List UInt8 :=
  [0x36, 0x61, 0x3A, 0x78, 0x78, 0x3A, 0x78, 0x78, 0x3A, 0x78, 0x78, 0x3A, 0x78, 0x78, 0x3A,
    0x64, 0x31]

theorem fromString_sound_not_hex :
    NullTerminated (store (fun _ => 0) 0 notHexText) notHexText ∧
      Within 18 (⟨fun _ => 0⟩ : MACAddress).fromString (store (fun _ => 0) 0 notHexText) := by
  have string := nullTerminated_store notHexText (by decide +kernel)
  exact ⟨string, (fromString_sound string ⟨fun _ => 0⟩).1⟩

/-- Five pairs of zeros, and a control character twice. -/
def controlText : List UInt8 :=
  [0x30, 0x30, 0x3A, 0x30, 0x30, 0x3A, 0x30, 0x30, 0x3A, 0x30, 0x30, 0x3A, 0x30, 0x30, 0x3A,
    0x11, 0x11]

/-- A pair of control characters is accepted, and a string that is refused at its second
pair has changed the first octet. -/
theorem refused_text_is_stored :
    (NullTerminated (store (fun _ => 0) 0 controlText) controlText ∧
        ((⟨fun _ => 0⟩ : MACAddress).fromString (store (fun _ => 0) 0 controlText)).value =
          some (true, ⟨![0, 0, 0, 0, 0, 0x11]⟩) ∧ ¬PairsOfDigits controlText) ∧
      NullTerminated (store (fun _ => 0) 0 notHexText) notHexText ∧
        ((⟨fun _ => 0⟩ : MACAddress).fromString (store (fun _ => 0) 0 notHexText)).value =
          some (false, ⟨![0x6A, 0, 0, 0, 0, 0]⟩) := by
  refine ⟨⟨nullTerminated_store _ (by decide +kernel), by decide +kernel, ?_⟩,
    nullTerminated_store _ (by decide +kernel), by decide +kernel⟩
  intro pairs
  have last := (pairs.digits 5 (by decide)).1
  exact absurd last (by decide)

end MACAddress

end EtherSiaStack
