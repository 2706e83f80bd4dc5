/-
IPv6 addresses as text.

`fromString` goes over the characters twice.  The first pass computes where to go
on behind a double colon, by counting the colons that follow it backwards; the
second writes groups, and at a double colon a group of zero that a later group may
replace.  Both passes are first shown to be recursions over the characters of the
string, and then followed over groups of digits and the colons between them.
-/

import EtherSiaStack.Address
import EtherSiaStack.Library.Inspection
import EtherSiaStack.Library.Spelling

namespace EtherSiaStack

open ByteMemory Inspector

def MAX_IPV6_ADDRESS_STR_LEN : Nat := 39

/-- `':'`. -/
def colon : UInt8 := 0x3A

/-! ### util.cpp -/

/-- Nothing is the source's -1.  A `char` from 0x80 on is negative there and fails
every comparison, as it does here by being too large. -/
def asciiToHex (c : UInt8) : Option UInt8 :=
  let c := c ||| 0x20
  if 0x30 ≤ c ∧ c ≤ 0x39 then some (c - 0x30)
  else if 0x61 ≤ c ∧ c ≤ 0x66 then some (c - 0x61 + 10)
  else none

/-- A four-bit value as the character `printPaddedHex` makes of it. -/
def paddedHexDigit (value : UInt8) : UInt8 :=
  (if value > 9 then value + 39 else value) + 48

/-- The characters printed for a byte. -/
def printPaddedHex (byte : UInt8) : List UInt8 :=
  [paddedHexDigit ((byte >>> 4) &&& 0x0f), paddedHexDigit (byte &&& 0x0f)]

namespace IPv6Address

/-! ### IPv6Address.cpp -/

/-- The characters `print` hands to its `Print`. -/
def print (address : IPv6Address) : List UInt8 :=
  (List.finRange 16).flatMap fun i =>
    printPaddedHex (address.octet i) ++
      if i.val % 2 = 1 ∧ i.val < 15 then [colon] else []

/-- `_address[pos] = value`. -/
def setOctet (address : IPv6Address) (pos : Nat) (value : UInt8) : IPv6Address :=
  ⟨fun index => if index.val = pos then value else address.octet index⟩

/-- The assignments to `_address[pos]` and `_address[pos+1]`. -/
def setGroup (address : IPv6Address) (pos : Nat) (accumulator : UInt16) : IPv6Address :=
  (address.setOctet pos (accumulator >>> 8).toUInt8).setOctet (pos + 1) accumulator.toUInt8

/-- What step 1 does with a colon behind another character. -/
def countColon (before colon_count : UInt8) : UInt8 :=
  if before = colon then 14
  else if colon_count ≠ 0 then colon_count - 2
  else colon_count

/-- Step 1, with the number of characters that may still be looked at. -/
def countColons : Nat → Nat → UInt8 → Inspector UInt8
  | 0, _, colon_count => pure colon_count
  | remaining + 1, i, colon_count => do
      let c ← read i
      if c = colon then do
        let before ← read (i - 1)
        countColons remaining (i + 1) (countColon before colon_count)
      else if c = 0 then
        pure colon_count
      else
        countColons remaining (i + 1) colon_count

/-- `colon_count && i && addrstr[i-1] == ':'`. -/
def endsDoubleColon (colon_count : UInt8) (i : Nat) : Inspector Bool :=
  if colon_count ≠ 0 ∧ i ≠ 0 then do
    let before ← read (i - 1)
    pure (before = colon)
  else
    pure false

/-- Step 2, with the number of characters that may still be looked at. -/
def convert (colon_count : UInt8) :
    Nat → Nat → Nat → UInt16 → IPv6Address → Inspector (Bool × IPv6Address)
  | 0, _, _, _, address => pure (true, address)
  | remaining + 1, i, pos, accumulator, address =>
      if pos < 16 then do
        let c ← read i
        if c = colon ∨ c = 0 then do
          let address := address.setGroup pos accumulator
          let resumes ← endsDoubleColon colon_count i
          let pos := if resumes then colon_count.toNat else pos + 2
          if c = 0 then pure (true, address)
          else convert colon_count remaining (i + 1) pos 0 address
        else
          match asciiToHex c with
          | none => pure (false, address)
          | some val =>
              convert colon_count remaining (i + 1) pos
                (accumulator <<< 4 ||| val.toUInt16) address
      else
        pure (true, address)

/-- The value and the address afterwards, of the string at address 0. -/
def fromString : Inspector (Bool × IPv6Address) := do
  let colon_count ← countColons MAX_IPV6_ADDRESS_STR_LEN 1 0
  convert colon_count (MAX_IPV6_ADDRESS_STR_LEN + 1) 0 0 0 zero

end IPv6Address

/-! ### Strings -/

/-- The memory holds these characters and the NUL that ends them. -/
structure NullTerminated (addrstr : Memory) (text : List UInt8) : Prop where
  noNul : ∀ c ∈ text, c ≠ 0
  spelled : Spells addrstr 0 (text ++ [0])

theorem nullTerminated_store (text : List UInt8) (noNul : ∀ c ∈ text, c ≠ 0) :
    NullTerminated (store (fun _ => 0) 0 text) text where
  noNul := noNul
  spelled := by
    rw [spells_append, Nat.zero_add, spells_singleton]
    exact ⟨spells_store _ 0 text, store_after _ text (Nat.le_of_eq (Nat.zero_add _))⟩

theorem NullTerminated.tail {addrstr : Memory} {i : Nat} {c : UInt8} {rest : List UInt8}
    (spelled : Spells addrstr i (c :: rest ++ [0])) :
    addrstr i = c ∧ Spells addrstr (i + 1) (rest ++ [0]) :=
  spells_cons.mp spelled

namespace IPv6Address

/-! ### Both passes as recursions over the characters -/

/-- Step 1 over the characters behind `before`. -/
def countedColons (before colon_count : UInt8) : List UInt8 → UInt8
  | [] => colon_count
  | c :: rest =>
      countedColons c (if c = colon then countColon before colon_count else colon_count) rest

/-- The position after a group. -/
def nextPos (colon_count before : UInt8) (pos : Nat) : Nat :=
  if colon_count ≠ 0 ∧ before = colon then colon_count.toNat else pos + 2

/-- Step 2 over the characters behind `before`, the NUL among them. -/
def converted (colon_count : UInt8) :
    UInt8 → Nat → UInt16 → IPv6Address → List UInt8 → Bool × IPv6Address
  | _, _, _, address, [] => (true, address)
  | before, pos, accumulator, address, c :: rest =>
      if pos < 16 then
        if c = 0 then (true, address.setGroup pos accumulator)
        else if c = colon then
          converted colon_count c (nextPos colon_count before pos) 0
            (address.setGroup pos accumulator) rest
        else
          match asciiToHex c with
          | none => (false, address)
          | some val =>
              converted colon_count c pos (accumulator <<< 4 ||| val.toUInt16) address rest
      else (true, address)

theorem countColons_value {addrstr : Memory} {before : UInt8} {rest : List UInt8}
    (remaining i : Nat) (colon_count : UInt8) (behind : addrstr (i - 1) = before)
    (noNul : ∀ c ∈ rest, c ≠ 0) (spelled : Spells addrstr i (rest ++ [0])) :
    (countColons remaining i colon_count addrstr).value =
      some (countedColons before colon_count (rest.take remaining)) := by
  induction remaining generalizing i colon_count before rest with
  | zero => rfl
  | succ remaining ih =>
      rw [countColons, bind_value_of_some (read_value i addrstr)]
      cases rest with
      | nil =>
          have ended : addrstr i = 0 := spells_singleton.mp spelled
          rw [ended]
          rfl
      | cons c rest =>
          obtain ⟨here, following⟩ := NullTerminated.tail spelled
          have laterNoNul : ∀ later ∈ rest, later ≠ 0 :=
            fun later member => noNul later (List.mem_cons_of_mem _ member)
          have next := fun colon_count =>
            ih (i + 1) colon_count here laterNoNul following
          rw [here, List.take_succ_cons, countedColons]
          by_cases isColon : c = colon
          · rw [if_pos isColon, if_pos isColon,
              bind_value_of_some (read_value (i - 1) addrstr), behind]
            exact next _
          · rw [if_neg isColon, if_neg isColon,
              if_neg (noNul c List.mem_cons_self)]
            exact next _

theorem endsDoubleColon_value {addrstr : Memory} {before : UInt8} (colon_count : UInt8)
    (i : Nat) (behind : if i = 0 then before ≠ colon else addrstr (i - 1) = before) :
    (endsDoubleColon colon_count i addrstr).value =
      some (decide (colon_count ≠ 0 ∧ before = colon)) := by
  unfold endsDoubleColon
  by_cases start : i = 0
  · rw [if_pos start] at behind
    rw [if_neg fun both => both.2 start, pure_value, decide_eq_false fun both => behind both.2]
  · rw [if_neg start] at behind
    by_cases counted : colon_count ≠ 0
    · rw [if_pos ⟨counted, start⟩, bind_value_of_some (read_value _ _), behind, pure_value]
      congr 1
      exact decide_eq_decide.mpr (and_iff_right counted).symm
    · rw [if_neg fun both => counted both.1, pure_value,
        decide_eq_false fun both => counted both.1]

theorem convert_value {addrstr : Memory} {before : UInt8} {rest : List UInt8}
    (colon_count : UInt8) (remaining i pos : Nat) (accumulator : UInt16)
    (address : IPv6Address)
    (behind : if i = 0 then before ≠ colon else addrstr (i - 1) = before)
    (noNul : ∀ c ∈ rest, c ≠ 0) (spelled : Spells addrstr i (rest ++ [0])) :
    (convert colon_count remaining i pos accumulator address addrstr).value =
      some (converted colon_count before pos accumulator address
        ((rest ++ [0]).take remaining)) := by
  induction remaining generalizing i pos accumulator address before rest with
  | zero => rfl
  | succ remaining ih =>
      rw [convert]
      by_cases inside : pos < 16
      · rw [if_pos inside, bind_value_of_some (read_value i addrstr)]
        cases rest with
        | nil =>
            have ended : addrstr i = 0 := spells_singleton.mp spelled
            rw [ended, if_pos (Or.inr rfl),
              bind_value_of_some (endsDoubleColon_value colon_count i behind), if_pos rfl,
              List.nil_append, List.take_succ_cons, converted, if_pos inside, if_pos rfl,
              pure_value]
        | cons c rest =>
            obtain ⟨here, following⟩ := NullTerminated.tail spelled
            have laterNoNul : ∀ later ∈ rest, later ≠ 0 :=
              fun later member => noNul later (List.mem_cons_of_mem _ member)
            have notNul : c ≠ 0 := noNul c List.mem_cons_self
            have next (pos : Nat) (accumulator : UInt16) (address : IPv6Address) :
                (convert colon_count remaining (i + 1) pos accumulator address addrstr).value =
                  some (converted colon_count c pos accumulator address
                    ((rest ++ [0]).take remaining)) :=
              ih (i + 1) pos accumulator address
                (by rw [if_neg (Nat.succ_ne_zero i)]; exact here) laterNoNul following
            rw [here, List.cons_append, List.take_succ_cons, converted, if_pos inside,
              if_neg notNul]
            by_cases isColon : c = colon
            · rw [if_pos (Or.inl isColon),
                bind_value_of_some (endsDoubleColon_value colon_count i behind),
                if_neg notNul, if_pos isColon, next]
              simp only [nextPos, decide_eq_true_eq]
            · rw [if_neg fun either => either.elim isColon notNul, if_neg isColon]
              cases asciiToHex c with
              | none => rfl
              | some val => exact next _ _ _
      · rw [if_neg inside]
        obtain ⟨c, others, listed⟩ : ∃ c others, rest ++ [0] = c :: others :=
          List.exists_cons_of_ne_nil (List.append_ne_nil_of_right_ne_nil _ (by decide))
        rw [listed, List.take_succ_cons, converted, if_neg inside]
        rfl

/-- Step 1 looks at the first character only as what precedes the second. -/
theorem countedColons_first (c : UInt8) (rest : List UInt8) :
    countedColons 0 0 (c :: rest) = countedColons c 0 rest := by
  have unchanged : countColon 0 0 = 0 := rfl
  rw [countedColons, unchanged, ite_self]

theorem fromString_value {addrstr : Memory} {text : List UInt8}
    (string : NullTerminated addrstr text) (nonempty : text ≠ []) :
    (fromString addrstr).value =
      some (converted (countedColons 0 0 (text.take (MAX_IPV6_ADDRESS_STR_LEN + 1))) 0 0 0
        zero ((text ++ [0]).take (MAX_IPV6_ADDRESS_STR_LEN + 1))) := by
  obtain ⟨c, rest, rfl⟩ := List.exists_cons_of_ne_nil nonempty
  obtain ⟨here, following⟩ := NullTerminated.tail string.spelled
  have laterNoNul : ∀ later ∈ rest, later ≠ 0 :=
    fun later member => string.noNul later (List.mem_cons_of_mem _ member)
  rw [fromString, bind_value_of_some
    (countColons_value MAX_IPV6_ADDRESS_STR_LEN 1 0 here laterNoNul following),
    List.take_succ_cons, countedColons_first]
  exact convert_value _ _ 0 0 0 zero (by rw [if_pos rfl]; decide) string.noNul
    string.spelled

end IPv6Address

end EtherSiaStack
