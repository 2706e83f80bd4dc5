/-
Standard text forms of IPv6 addresses.

A form is eight groups of digits, or two runs of groups with a double colon between
them for the zeros left out.  The passes of `fromString` are followed from group to
group; at a double colon the position counted for it is where the groups behind it
end up at the end of the address.
-/

import EtherSiaStack.AddressText

namespace EtherSiaStack

open ByteMemory

/-! ### Standard text -/

/-- The value of a hexadecimal digit in either case. -/
def hexDigit (c : UInt8) : Option Nat :=
  if 0x30 ≤ c ∧ c ≤ 0x39 then some (c.toNat - 0x30)
  else if 0x61 ≤ c ∧ c ≤ 0x66 then some (c.toNat - 0x61 + 10)
  else if 0x41 ≤ c ∧ c ≤ 0x46 then some (c.toNat - 0x41 + 10)
  else none

/-- One to four hexadecimal digits. -/
structure Group where
  digits : List UInt8
  nonempty : 0 < digits.length
  short : digits.length ≤ 4
  hex : ∀ c ∈ digits, (hexDigit c).isSome

namespace Group

def value (group : Group) : Nat :=
  group.digits.foldl (fun value c => 16 * value + (hexDigit c).getD 0) 0

/-- Groups with a colon between them. -/
def joined (groups : List Group) : List UInt8 :=
  List.intercalate [colon] (groups.map digits)

end Group

/-- The sixteen-bit groups of an address, from the first. -/
def IPv6Address.groups (address : IPv6Address) : List UInt16 :=
  List.ofFn fun index : Fin 8 =>
    be16 (address.octet ⟨2 * index.val, by omega⟩)
      (address.octet ⟨2 * index.val + 1, by omega⟩)

/-- The standard hexadecimal text forms of an address: its eight groups, or fewer
and a double colon for the zeros that are left out. -/
inductive StandardText (address : IPv6Address) : List UInt8 → Prop
  | full (groups : List Group)
      (same : groups.map Group.value = address.groups.map UInt16.toNat) :
      StandardText address (Group.joined groups)
  | compressed (before after : List Group) (short : before.length + after.length ≤ 7)
      (same : before.map Group.value ++
          List.replicate (8 - (before.length + after.length)) 0 ++
            after.map Group.value = address.groups.map UInt16.toNat) :
      StandardText address
        (Group.joined before ++ [colon, colon] ++ Group.joined after)

/-! ### Digits -/

theorem asciiToHex_of_hexDigit {c : UInt8} (hex : (hexDigit c).isSome) :
    ∃ val, asciiToHex c = some val ∧ val.toNat = (hexDigit c).getD 0 ∧ val.toNat < 16 := by
  have table : ∀ n : Fin 256, (hexDigit (UInt8.ofNat n)).isSome →
      (asciiToHex (UInt8.ofNat n)).map UInt8.toNat = hexDigit (UInt8.ofNat n) ∧
        (hexDigit (UInt8.ofNat n)).getD 0 < 16 := by
    decide +kernel
  have row := table ⟨c.toNat, c.toNat_lt⟩
  rw [UInt8.ofNat_toNat] at row
  obtain ⟨same, small⟩ := row hex
  cases parsed : asciiToHex c with
  | none =>
      rw [parsed] at same
      rw [← same] at hex
      cases hex
  | some val =>
      rw [parsed] at same
      rw [← same] at small ⊢
      exact ⟨val, rfl, rfl, small⟩

theorem ne_of_hexDigit {c : UInt8} (hex : (hexDigit c).isSome) : c ≠ colon ∧ c ≠ 0 := by
  constructor
  · rintro rfl
    cases hex
  · rintro rfl
    cases hex

/-- A digit is shifted in from below as long as the upper four bits are free. -/
theorem accumulator_toNat {accumulator : UInt16} {val : UInt8}
    (free : accumulator.toNat < 4096) (small : val.toNat < 16) :
    (accumulator <<< 4 ||| val.toUInt16).toNat = 16 * accumulator.toNat + val.toNat := by
  have shifted : (accumulator <<< 4).toNat = accumulator.toNat <<< 4 := by
    rw [UInt16.toNat_shiftLeft]
    have four : UInt16.toNat 4 % 16 = 4 := rfl
    rw [four, Nat.shiftLeft_eq]
    omega
  rw [UInt16.toNat_or, shifted, UInt8.toNat_toUInt16, ← Nat.shiftLeft_add_eq_or_of_lt small,
    Nat.shiftLeft_eq]
  omega

/-! ### Groups -/

namespace Group

/-- The value of the digits read behind others of the given value. -/
def shifted (value : Nat) (digits : List UInt8) : Nat :=
  digits.foldl (fun value c => 16 * value + (hexDigit c).getD 0) value

/-- What the accumulator holds after the group. -/
def word (group : Group) : UInt16 :=
  UInt16.ofNat group.value

theorem shifted_lt (digits : List UInt8) (hex : ∀ c ∈ digits, (hexDigit c).isSome)
    (value free : Nat) (small : value < 16 ^ free) :
    shifted value digits < 16 ^ (free + digits.length) := by
  induction digits generalizing value free with
  | nil => exact small
  | cons c digits ih =>
      obtain ⟨val, -, same, valSmall⟩ := asciiToHex_of_hexDigit (hex c List.mem_cons_self)
      have grown : 16 * value + (hexDigit c).getD 0 < 16 ^ (free + 1) := by
        rw [pow_succ]
        omega
      have bound := ih (fun c member => hex c (List.mem_cons_of_mem _ member)) _ _ grown
      rw [List.length_cons, Nat.add_comm digits.length, ← Nat.add_assoc]
      exact bound

theorem value_lt (group : Group) : group.value < 65536 := by
  have bound := shifted_lt group.digits group.hex 0 0 (by decide)
  have atMost : 16 ^ (0 + group.digits.length) ≤ 16 ^ 4 :=
    Nat.pow_le_pow_right (by decide) (by have := group.short; omega)
  exact lt_of_lt_of_le bound atMost

theorem word_toNat (group : Group) : group.word.toNat = group.value :=
  UInt16.toNat_ofNat_of_lt' group.value_lt

theorem map_word_eq {groups : List Group} {words : List UInt16}
    (same : groups.map value = words.map UInt16.toNat) : groups.map word = words := by
  apply List.map_injective_iff.mpr (fun _ _ => UInt16.toNat_inj.mp)
  rw [List.map_map, ← same]
  exact List.map_congr_left fun group _ => group.word_toNat

/-- The same for groups on both sides of zeros. -/
theorem compressed_words {before after : List Group} {zeros : Nat} {words : List UInt16}
    (same : before.map value ++ List.replicate zeros 0 ++ after.map value =
      words.map UInt16.toNat) :
    before.map word ++ List.replicate zeros 0 ++ after.map word = words := by
  apply List.map_injective_iff.mpr fun _ _ => UInt16.toNat_inj.mp
  have values (groups : List Group) :
      (groups.map word).map UInt16.toNat = groups.map value := by
    rw [List.map_map]
    exact List.map_congr_left fun group _ => group.word_toNat
  rw [List.map_append, List.map_append, List.map_replicate, values, values, ← same]
  rfl

theorem joined_singleton (group : Group) : joined [group] = group.digits :=
  List.append_nil _

theorem joined_cons_cons (group next : Group) (rest : List Group) :
    joined (group :: next :: rest) = group.digits ++ colon :: joined (next :: rest) := by
  simp [joined, List.intercalate]

theorem joined_length (groups : List Group) (nonempty : groups ≠ []) :
    (joined groups).length + 1 ≤ 5 * groups.length := by
  induction groups with
  | nil => exact absurd rfl nonempty
  | cons group rest ih =>
      have short := group.short
      cases rest with
      | nil =>
          rw [joined_singleton, List.length_singleton]
          omega
      | cons next rest =>
          have later := ih (List.cons_ne_nil _ _)
          rw [joined_cons_cons]
          simp only [List.length_append, List.length_cons] at later ⊢
          omega

theorem joined_le (groups : List Group) : (joined groups).length ≤ 5 * groups.length := by
  cases groups with
  | nil => exact Nat.le_refl 0
  | cons group rest => exact Nat.le_of_succ_le (joined_length _ (List.cons_ne_nil _ _))

theorem joined_pos (group : Group) (rest : List Group) :
    0 < (joined (group :: rest)).length := by
  have nonempty := group.nonempty
  cases rest with
  | nil =>
      rw [joined_singleton]
      exact nonempty
  | cons next rest =>
      rw [joined_cons_cons, List.length_append]
      omega

theorem getLastD_ne_colon (group : Group) (before : UInt8) :
    group.digits.getLastD before ≠ colon := by
  have nonempty := List.ne_nil_of_length_pos group.nonempty
  rw [List.getLastD_eq_getLast?, List.getLast?_eq_some_getLast nonempty, Option.getD_some]
  exact (ne_of_hexDigit (group.hex _ (List.getLast_mem nonempty))).1

end Group

namespace IPv6Address

theorem converted_digits {colon_count before : UInt8} {pos : Nat} {address : IPv6Address}
    {rest : List UInt8} (digits : List UInt8) (hex : ∀ c ∈ digits, (hexDigit c).isSome)
    (inside : pos < 16) (accumulator : UInt16) (free : Nat)
    (small : accumulator.toNat < 16 ^ free) (room : free + digits.length ≤ 4) :
    converted colon_count before pos accumulator address (digits ++ rest) =
      converted colon_count (digits.getLastD before) pos
        (UInt16.ofNat (Group.shifted accumulator.toNat digits)) address rest := by
  induction digits generalizing before accumulator free with
  | nil =>
      rw [List.nil_append, Group.shifted, List.foldl_nil, UInt16.ofNat_toNat]
      rfl
  | cons c digits ih =>
      have isHex := hex c List.mem_cons_self
      obtain ⟨notColon, notNul⟩ := ne_of_hexDigit isHex
      obtain ⟨val, parsed, same, valSmall⟩ := asciiToHex_of_hexDigit isHex
      rw [List.length_cons] at room
      have upTo : 16 ^ free ≤ 16 ^ 3 := Nat.pow_le_pow_right (by decide) (by omega)
      have shifted := accumulator_toNat (lt_of_lt_of_le small upTo) valSmall
      have grown : (accumulator <<< 4 ||| val.toUInt16).toNat < 16 ^ (free + 1) := by
        rw [shifted, pow_succ]
        omega
      rw [List.cons_append, converted, if_pos inside, if_neg notNul, if_neg notColon, parsed]
      have later := @ih c (fun c member => hex c (List.mem_cons_of_mem _ member))
        (accumulator <<< 4 ||| val.toUInt16) (free + 1) grown (by omega)
      refine later.trans ?_
      rw [shifted, same, List.getLastD_cons]
      rfl

theorem converted_group {colon_count before : UInt8} {pos : Nat} {address : IPv6Address}
    {rest : List UInt8} (group : Group) (inside : pos < 16) :
    ∃ last, last ≠ colon ∧
      converted colon_count before pos 0 address (group.digits ++ rest) =
        converted colon_count last pos group.word address rest := by
  have digits := @converted_digits colon_count before pos address rest group.digits group.hex
    inside 0 0 (by decide) (by rw [Nat.zero_add]; exact group.short)
  exact ⟨group.digits.getLastD before, group.getLastD_ne_colon before, digits⟩

theorem converted_group_colon {colon_count before : UInt8} {pos : Nat}
    {address : IPv6Address} {rest : List UInt8} (group : Group) (inside : pos < 16) :
    converted colon_count before pos 0 address (group.digits ++ colon :: rest) =
      converted colon_count colon (pos + 2) 0 (address.setGroup pos group.word) rest := by
  obtain ⟨last, notColon, digits⟩ :=
    @converted_group colon_count before pos address (colon :: rest) group inside
  rw [digits, converted, if_pos inside, if_neg (by decide), if_pos rfl, nextPos,
    if_neg fun both => notColon both.2]

theorem converted_group_nul {colon_count before : UInt8} {pos : Nat}
    {address : IPv6Address} (group : Group) (inside : pos < 16) :
    converted colon_count before pos 0 address (group.digits ++ [0]) =
      (true, address.setGroup pos group.word) := by
  obtain ⟨last, -, digits⟩ :=
    @converted_group colon_count before pos address [0] group inside
  rw [digits, converted, if_pos inside, if_pos rfl]

/-- Groups written one behind the other. -/
def setGroups (address : IPv6Address) (pos : Nat) : List UInt16 → IPv6Address
  | [] => address
  | word :: rest => setGroups (address.setGroup pos word) (pos + 2) rest

theorem converted_joined_nul {colon_count before : UInt8} {pos : Nat}
    {address : IPv6Address} (group : Group) (rest : List Group)
    (room : pos + 2 * rest.length < 16) :
    converted colon_count before pos 0 address (Group.joined (group :: rest) ++ [0]) =
      (true, address.setGroups pos ((group :: rest).map Group.word)) := by
  induction rest generalizing group before pos address with
  | nil =>
      rw [Group.joined_singleton, converted_group_nul group (show pos < 16 from room)]
      rfl
  | cons next rest ih =>
      rw [List.length_cons] at room
      rw [Group.joined_cons_cons, List.append_assoc, List.cons_append,
        converted_group_colon group (by omega), ih next (by omega)]
      rfl

theorem converted_joined_colon {colon_count before : UInt8} {pos : Nat}
    {address : IPv6Address} {others : List UInt8} (group : Group) (rest : List Group)
    (room : pos + 2 * rest.length < 16) :
    converted colon_count before pos 0 address
        (Group.joined (group :: rest) ++ colon :: others) =
      converted colon_count colon (pos + 2 * (group :: rest).length) 0
        (address.setGroups pos ((group :: rest).map Group.word)) others := by
  induction rest generalizing group before pos address with
  | nil =>
      rw [Group.joined_singleton, converted_group_colon group (show pos < 16 from room)]
      rfl
  | cons next rest ih =>
      rw [List.length_cons] at room
      rw [Group.joined_cons_cons, List.append_assoc, List.cons_append,
        converted_group_colon group (by omega), ih next (by omega)]
      simp only [List.length_cons, List.map_cons, setGroups]
      congr 1
      omega

/-! ### The colons counted -/

theorem countedColons_digits {before colon_count : UInt8} {rest : List UInt8}
    (digits : List UInt8) (hex : ∀ c ∈ digits, (hexDigit c).isSome) :
    countedColons before colon_count (digits ++ rest) =
      countedColons (digits.getLastD before) colon_count rest := by
  induction digits generalizing before with
  | nil => rfl
  | cons c digits ih =>
      have notColon := (ne_of_hexDigit (hex c List.mem_cons_self)).1
      rw [List.cons_append, countedColons, if_neg notColon,
        ih fun c member => hex c (List.mem_cons_of_mem _ member), List.getLastD_cons]

theorem ofNat_pairs_toNat {pairs : Nat} (few : pairs ≤ 7) :
    (UInt8.ofNat (2 * pairs)).toNat = 2 * pairs :=
  UInt8.toNat_ofNat_of_lt' (show 2 * pairs < 256 by omega)

theorem ofNat_pairs_eq_zero {pairs : Nat} (few : pairs ≤ 7) :
    UInt8.ofNat (2 * pairs) = 0 ↔ pairs = 0 := by
  rw [← UInt8.toNat_inj, ofNat_pairs_toNat few]
  exact Nat.mul_eq_zero.trans (or_iff_right (by decide))

theorem countColon_single {before : UInt8} {pairs : Nat} (notColon : before ≠ colon)
    (few : pairs ≤ 7) :
    countColon before (UInt8.ofNat (2 * pairs)) = UInt8.ofNat (2 * (pairs - 1)) := by
  have table : ∀ pairs : Fin 8,
      countColon 0 (UInt8.ofNat (2 * pairs)) = UInt8.ofNat (2 * (pairs - 1)) := by
    decide
  have same : countColon before (UInt8.ofNat (2 * pairs)) =
      countColon 0 (UInt8.ofNat (2 * pairs)) := by
    unfold countColon
    rw [if_neg notColon, if_neg (show ¬(0 : UInt8) = colon by decide)]
  exact same.trans (table ⟨pairs, by omega⟩)

/-- Each colon between groups takes two off, down to zero. -/
theorem countedColons_joined {before : UInt8} {rest : List UInt8} (group : Group)
    (groups : List Group) (pairs : Nat) (few : pairs ≤ 7) :
    ∃ last, last ≠ colon ∧
      countedColons before (UInt8.ofNat (2 * pairs))
          (Group.joined (group :: groups) ++ rest) =
        countedColons last (UInt8.ofNat (2 * (pairs - groups.length))) rest := by
  induction groups generalizing group before pairs with
  | nil =>
      rw [Group.joined_singleton, countedColons_digits group.digits group.hex]
      exact ⟨_, group.getLastD_ne_colon before, rfl⟩
  | cons next groups ih =>
      have counted := countColon_single (group.getLastD_ne_colon before) few
      obtain ⟨last, notColon, later⟩ := @ih colon next (pairs - 1) (by omega)
      refine ⟨last, notColon, ?_⟩
      rw [Group.joined_cons_cons, List.append_assoc, List.cons_append,
        countedColons_digits group.digits group.hex, countedColons, if_pos rfl, counted, later,
        List.length_cons, Nat.sub_sub, Nat.add_comm 1]

theorem countedColons_joined_end {before : UInt8} (groups : List Group) (pairs : Nat)
    (few : pairs ≤ 7) :
    countedColons before (UInt8.ofNat (2 * pairs)) (Group.joined groups) =
      UInt8.ofNat (2 * (pairs - (groups.length - 1))) := by
  cases groups with
  | nil => rfl
  | cons group groups =>
      obtain ⟨last, -, counted⟩ :=
        @countedColons_joined before [] group groups pairs few
      rw [List.append_nil] at counted
      exact counted

/-- A double colon starts the count; it stands behind whole groups. -/
theorem countedColons_compressed (before after : List Group) :
    countedColons 0 0 (Group.joined before ++ [colon, colon] ++ Group.joined after) =
      UInt8.ofNat (2 * (7 - (after.length - 1))) := by
  have behind (previous : UInt8) :
      countedColons previous 0 (colon :: colon :: Group.joined after) =
        countedColons colon 14 (Group.joined after) := by
    rw [countedColons, if_pos rfl, countedColons, if_pos rfl, countColon, if_pos rfl]
  rw [← countedColons_joined_end after 7 le_rfl, List.append_assoc]
  cases before with
  | nil => exact behind 0
  | cons group groups =>
      obtain ⟨last, -, counted⟩ := @countedColons_joined 0
        ([colon, colon] ++ Group.joined after) group groups 0 (Nat.zero_le 7)
      rw [Nat.zero_sub] at counted
      exact counted.trans (behind last)

/-! ### Groups of an address -/

theorem groups_length (address : IPv6Address) : address.groups.length = 8 :=
  List.length_ofFn

theorem groups_getElem? (address : IPv6Address) {index : Nat} (inside : index < 8) :
    address.groups[index]? =
      some (be16 (address.octet ⟨2 * index, by omega⟩)
        (address.octet ⟨2 * index + 1, by omega⟩)) := by
  rw [groups, List.getElem?_ofFn, dif_pos inside]

theorem groups_zero : zero.groups = List.replicate 8 0 :=
  rfl

theorem eq_of_groups {left right : IPv6Address} (same : left.groups = right.groups) :
    left = right := by
  ext1
  funext index
  have inside : index.val / 2 < 8 := by omega
  have group := groups_getElem? left inside
  rw [same, groups_getElem? right inside] at group
  have words := (Option.some.inj group).symm
  rcases Nat.mod_two_eq_zero_or_one index.val with even | odd
  · have here : (⟨2 * (index.val / 2), by omega⟩ : Fin 16) = index := Fin.ext (by simp; omega)
    have octets := congrArg high16 words
    rw [high16_be16, high16_be16, here] at octets
    exact octets
  · have here : (⟨2 * (index.val / 2) + 1, by omega⟩ : Fin 16) = index :=
      Fin.ext (by simp; omega)
    have octets := congrArg low16 words
    rw [low16_be16, low16_be16, here] at octets
    exact octets

theorem be16_shiftRight (word : UInt16) :
    be16 (word >>> 8).toUInt8 word.toUInt8 = word := by
  apply UInt16.toNat_inj.mp
  rw [be16_toNat]
  simp [Nat.shiftRight_eq_div_pow]
  have bound := word.toNat_lt
  omega

theorem setGroup_groups (address : IPv6Address) (index : Nat) (word : UInt16) :
    (address.setGroup (2 * index) word).groups = address.groups.set index word := by
  apply List.ext_getElem?
  intro other
  by_cases inside : other < 8
  · rw [groups_getElem? _ inside, List.getElem?_set, groups_length,
      groups_getElem? address inside]
    by_cases same : index = other
    · subst same
      rw [if_pos rfl, if_pos inside]
      simp only [setGroup, setOctet]
      rw [if_neg (by omega), if_pos trivial, if_pos trivial, be16_shiftRight]
    · rw [if_neg same]
      simp only [setGroup, setOctet]
      rw [if_neg (by omega), if_neg (by omega), if_neg (by omega), if_neg (by omega)]
  · rw [List.getElem?_eq_none (by rw [groups_length]; omega),
      List.getElem?_eq_none (by rw [List.length_set, groups_length]; omega)]

/-- A group of zero over a group that is zero changes nothing. -/
theorem setGroup_zero {address : IPv6Address} {index : Nat}
    (unset : address.groups[index]? = some 0) :
    address.setGroup (2 * index) 0 = address := by
  apply eq_of_groups
  obtain ⟨inside, value⟩ := List.getElem?_eq_some_iff.mp unset
  rw [setGroup_groups, ← value]
  exact List.set_getElem_self inside

theorem setGroups_groups (address : IPv6Address) (index : Nat) (words : List UInt16)
    (room : index + words.length ≤ 8) :
    (address.setGroups (2 * index) words).groups =
      address.groups.take index ++ words ++ address.groups.drop (index + words.length) := by
  induction words generalizing address index with
  | nil =>
      rw [setGroups, List.append_nil, List.length_nil, Nat.add_zero, List.take_append_drop]
  | cons word words ih =>
      rw [List.length_cons] at room
      have next : 2 * index + 2 = 2 * (index + 1) := by omega
      rw [setGroups, next, ih _ (index + 1) (by omega), setGroup_groups]
      have inside : index < address.groups.length := by
        rw [groups_length]
        omega
      have taken : (address.groups.set index word).take (index + 1) =
          address.groups.take index ++ [word] := by
        have front : (address.groups.take index).length = index :=
          List.length_take_of_le (le_of_lt inside)
        rw [List.set_eq_take_append_cons_drop, if_pos inside, List.take_append, front,
          Nat.add_sub_cancel_left, List.take_of_length_le (by rw [front]; omega)]
        rfl
      rw [taken, List.drop_set_of_lt (by omega), List.append_assoc (_ ++ _) words,
        List.append_assoc, List.append_assoc, List.length_cons, Nat.add_right_comm,
        Nat.add_assoc index]
      rfl

/-! ### Standard text is read back -/

theorem converted_full {address : IPv6Address} (groups : List Group)
    (same : groups.map Group.word = address.groups) :
    converted 0 0 0 0 zero (Group.joined groups ++ [0]) = (true, address) := by
  have eight := congrArg List.length same
  rw [List.length_map, groups_length] at eight
  obtain ⟨group, rest, rfl⟩ := List.exists_cons_of_length_eq_add_one eight
  rw [List.length_cons] at eight
  rw [converted_joined_nul group rest (by omega), same]
  have written := setGroups_groups zero 0 address.groups (by rw [groups_length])
  rw [Nat.mul_zero, Nat.zero_add, List.take_zero, List.nil_append, List.drop_of_length_le
    (by rw [groups_length, groups_length]), List.append_nil] at written
  rw [eq_of_groups written]

/-- The second of two colons replaces a zero by a zero and goes to the position
counted for it. -/
theorem converted_second_colon {colon_count : UInt8} {address : IPv6Address}
    {others : List UInt8} {index : Nat} (counted : colon_count ≠ 0)
    (unset : address.groups[index]? = some 0) :
    converted colon_count colon (2 * index) 0 address (colon :: others) =
      converted colon_count colon colon_count.toNat 0 address others := by
  obtain ⟨inside, -⟩ := List.getElem?_eq_some_iff.mp unset
  rw [groups_length] at inside
  rw [converted, if_pos (by omega), if_neg (by decide), if_pos rfl, setGroup_zero unset,
    nextPos, if_pos ⟨counted, rfl⟩]

theorem converted_before {colon_count : UInt8} {others : List UInt8} (before : List Group)
    (short : before.length ≤ 7) (counted : colon_count ≠ 0) :
    ∃ address : IPv6Address,
      address.groups =
          before.map Group.word ++ List.replicate (8 - before.length) 0 ∧
        converted colon_count 0 0 0 zero
            (Group.joined before ++ [colon, colon] ++ others) =
          converted colon_count colon colon_count.toNat 0 address others := by
  cases before with
  | nil =>
      refine ⟨zero, groups_zero, ?_⟩
      have first : nextPos colon_count 0 0 = 2 * 1 := if_neg fun both => by cases both.2
      change converted colon_count 0 0 0 zero (colon :: colon :: others) = _
      rw [converted, if_pos (by decide), if_neg (by decide), if_pos rfl,
        show zero.setGroup 0 0 = zero from @setGroup_zero zero 0 rfl, first,
        converted_second_colon counted rfl]
  | cons group rest =>
      rw [List.length_cons] at short
      have written := setGroups_groups zero 0 ((group :: rest).map Group.word)
        (by rw [List.length_map, List.length_cons]; omega)
      rw [Nat.mul_zero, Nat.zero_add, List.take_zero, List.nil_append, groups_zero,
        List.drop_replicate, List.length_map] at written
      refine ⟨_, written, ?_⟩
      rw [List.append_assoc]
      change converted colon_count 0 0 0 zero
        (Group.joined (group :: rest) ++ colon :: (colon :: others)) = _
      rw [converted_joined_colon group rest (by omega), Nat.zero_add]
      apply converted_second_colon counted
      rw [written, List.getElem?_append_right (by rw [List.length_map]), List.length_map,
        Nat.sub_self, List.getElem?_replicate, if_pos (by rw [List.length_cons]; omega)]

theorem converted_after {address : IPv6Address} (before after : List Group)
    (short : before.length + after.length ≤ 7)
    (written : address.groups =
      before.map Group.word ++ List.replicate (8 - before.length) 0) :
    ∃ final : IPv6Address,
      final.groups = before.map Group.word ++
          List.replicate (8 - (before.length + after.length)) 0 ++ after.map Group.word ∧
        converted (UInt8.ofNat (2 * (7 - (after.length - 1)))) colon
            (2 * (7 - (after.length - 1))) 0 address (Group.joined after ++ [0]) =
          (true, final) := by
  cases after with
  | nil =>
      have unset : address.groups[7]? = some 0 := by
        rw [List.length_nil] at short
        rw [written, List.getElem?_append_right (by rw [List.length_map]; omega),
          List.length_map, List.getElem?_replicate, if_pos (by omega)]
      refine ⟨address, ?_, ?_⟩
      · rw [written, List.map_nil, List.append_nil]
        rfl
      · change converted _ colon (2 * 7) 0 address [0] = _
        rw [converted, if_pos (by decide), if_pos rfl, setGroup_zero unset]
  | cons group rest =>
      rw [List.length_cons] at short
      have start : 7 - ((group :: rest).length - 1) + (group :: rest).length = 8 := by
        rw [List.length_cons]
        omega
      have replaced := setGroups_groups address (7 - ((group :: rest).length - 1))
        ((group :: rest).map Group.word) (by rw [List.length_map, start])
      rw [List.length_map, start, List.drop_of_length_le (by rw [groups_length]),
        List.append_nil, written, List.take_append, List.length_map,
        List.take_of_length_le (by rw [List.length_map, List.length_cons]; omega),
        List.take_replicate] at replaced
      refine ⟨_, ?_, converted_joined_nul group rest (by rw [List.length_cons]; omega)⟩
      rw [replaced]
      congr 3
      rw [List.length_cons]
      omega

end IPv6Address

theorem StandardText.nonempty {address : IPv6Address} {text : List UInt8}
    (standard : StandardText address text) : text ≠ [] := by
  cases standard with
  | full groups same =>
      have eight := congrArg List.length same
      rw [List.length_map, List.length_map, IPv6Address.groups_length] at eight
      obtain ⟨group, rest, rfl⟩ := List.exists_cons_of_length_eq_add_one eight
      exact List.ne_nil_of_length_pos (Group.joined_pos group rest)
  | compressed before after short same => simp

/-- A standard text fits into the string that is looked at. -/
theorem StandardText.short {address : IPv6Address} {text : List UInt8}
    (standard : StandardText address text) : text.length ≤ MAX_IPV6_ADDRESS_STR_LEN := by
  unfold MAX_IPV6_ADDRESS_STR_LEN
  cases standard with
  | full groups same =>
      have eight := congrArg List.length same
      rw [List.length_map, List.length_map, IPv6Address.groups_length] at eight
      have bound := Group.joined_length groups (List.ne_nil_of_length_eq_add_one eight)
      omega
  | compressed before after short same =>
      have first := Group.joined_le before
      have second := Group.joined_le after
      simp only [List.length_append, List.length_cons, List.length_nil]
      omega

theorem StandardText.fromString_value {address : IPv6Address} {text : List UInt8}
    {addrstr : Memory} (standard : StandardText address text)
    (string : NullTerminated addrstr text) :
    (IPv6Address.fromString addrstr).value = some (true, address) := by
  have bound := standard.short
  rw [IPv6Address.fromString_value string standard.nonempty,
    List.take_of_length_le (by omega),
    List.take_of_length_le (by rw [List.length_append]; exact Nat.succ_le_succ bound)]
  congr 1
  cases standard with
  | full groups same =>
      have noneCounted : IPv6Address.countedColons 0 0 (Group.joined groups) = 0 := by
        have counted := @IPv6Address.countedColons_joined_end 0 groups 0 (Nat.zero_le 7)
        rw [Nat.zero_sub] at counted
        exact counted
      rw [noneCounted]
      exact IPv6Address.converted_full groups (Group.map_word_eq same)
  | compressed before after short same =>
      have counted := IPv6Address.countedColons_compressed before after
      have few : 7 - (after.length - 1) ≤ 7 := Nat.sub_le 7 _
      have notZero : UInt8.ofNat (2 * (7 - (after.length - 1))) ≠ 0 := by
        rw [Ne, IPv6Address.ofNat_pairs_eq_zero few]
        omega
      obtain ⟨address', written, toDoubleColon⟩ := @IPv6Address.converted_before _
        (Group.joined after ++ [0]) before (by omega) notZero
      obtain ⟨final, groups, toEnd⟩ := IPv6Address.converted_after before after short written
      rw [counted, List.append_assoc, toDoubleColon, IPv6Address.ofNat_pairs_toNat few, toEnd]
      rw [Group.compressed_words same] at groups
      rw [IPv6Address.eq_of_groups groups]

/-! ### Printed text -/

theorem hexDigit_paddedHexDigit {value : UInt8} (small : value.toNat < 16) :
    hexDigit (paddedHexDigit value) = some value.toNat := by
  have table : ∀ n : Fin 16, hexDigit (paddedHexDigit (UInt8.ofNat n)) = some n.val := by
    decide
  have row := table ⟨value.toNat, small⟩
  rw [UInt8.ofNat_toNat] at row
  exact row

theorem high_toNat (byte : UInt8) : ((byte >>> 4) &&& 0x0f).toNat = byte.toNat / 16 := by
  have table : ∀ n : Fin 256,
      ((UInt8.ofNat n >>> 4) &&& 0x0f).toNat = n.val / 16 := by
    decide +kernel
  have row := table ⟨byte.toNat, byte.toNat_lt⟩
  rw [UInt8.ofNat_toNat] at row
  exact row

theorem low_toNat (byte : UInt8) : (byte &&& 0x0f).toNat = byte.toNat % 16 := by
  rw [UInt8.toNat_and]
  exact Nat.and_two_pow_sub_one_eq_mod byte.toNat 4

theorem printPaddedHex_digits (byte : UInt8) :
    (printPaddedHex byte).map hexDigit = [some (byte.toNat / 16), some (byte.toNat % 16)] := by
  have bound := byte.toNat_lt
  rw [printPaddedHex, List.map_cons, List.map_singleton,
    hexDigit_paddedHexDigit (by rw [high_toNat]; omega),
    hexDigit_paddedHexDigit (by rw [low_toNat]; omega), high_toNat, low_toNat]

/-- The two octets of a group as `print` writes them. -/
def printedGroup (high low : UInt8) : Group where
  digits := printPaddedHex high ++ printPaddedHex low
  nonempty := Nat.zero_lt_succ _
  short := Nat.le_refl 4
  hex := by
    intro c member
    have among : hexDigit c ∈ (printPaddedHex high ++ printPaddedHex low).map hexDigit :=
      List.mem_map_of_mem member
    rw [List.map_append, printPaddedHex_digits, printPaddedHex_digits] at among
    simp only [List.cons_append, List.nil_append, List.mem_cons, List.not_mem_nil,
      or_false] at among
    rcases among with same | same | same | same <;> rw [same] <;> rfl

theorem printedGroup_value (high low : UInt8) :
    (printedGroup high low).value = (be16 high low).toNat := by
  have highDigits := printPaddedHex_digits high
  have lowDigits := printPaddedHex_digits low
  rw [printPaddedHex, List.map_cons, List.map_singleton] at highDigits lowDigits
  obtain ⟨first, rest⟩ := List.cons.inj highDigits
  obtain ⟨third, last⟩ := List.cons.inj lowDigits
  have second := List.singleton_inj.mp rest
  have fourth := List.singleton_inj.mp last
  have digits : (printedGroup high low).value =
      16 * (16 * (16 * (16 * 0 + (high.toNat / 16)) + (high.toNat % 16)) +
        low.toNat / 16) + low.toNat % 16 := by
    simp [Group.value, printedGroup, printPaddedHex, first, second, third, fourth]
  rw [digits, be16_toNat]
  omega

theorem print_standard (address : IPv6Address) : StandardText address address.print := by
  have printed : address.print = Group.joined (List.ofFn fun index : Fin 8 =>
      printedGroup (address.octet ⟨2 * index.val, by omega⟩)
        (address.octet ⟨2 * index.val + 1, by omega⟩)) := by
    rfl
  rw [printed]
  apply StandardText.full
  rw [IPv6Address.groups, List.map_ofFn, List.map_ofFn]
  congr 1
  funext index
  rw [Function.comp_apply, Function.comp_apply, printedGroup_value]

/-- Every standard text form of an address is read as that address, the text that
`print` writes among them. -/
theorem fromString_standard (address : IPv6Address) (addrstr : Memory) :
    (∀ text, StandardText address text → NullTerminated addrstr text →
        (IPv6Address.fromString addrstr).value = some (true, address)) ∧
      (NullTerminated addrstr address.print →
        (IPv6Address.fromString addrstr).value = some (true, address)) := by
  constructor
  · intro text standard string
    exact standard.fromString_value string
  · intro string
    exact (print_standard address).fromString_value string

/-- `"::1"`. -/
theorem fromString_home :
    StandardText ⟨![0, 0, 0, 0, 0, 0, 0, 0, 0, 0, 0, 0, 0, 0, 0, 1]⟩ [0x3A, 0x3A, 0x31] ∧
      NullTerminated (store (fun _ => 0) 0 [0x3A, 0x3A, 0x31]) [0x3A, 0x3A, 0x31] ∧
      (IPv6Address.fromString (store (fun _ => 0) 0 [0x3A, 0x3A, 0x31])).value =
        some (true, ⟨![0, 0, 0, 0, 0, 0, 0, 0, 0, 0, 0, 0, 0, 0, 0, 1]⟩) := by
  have standard : StandardText ⟨![0, 0, 0, 0, 0, 0, 0, 0, 0, 0, 0, 0, 0, 0, 0, 1]⟩
      [0x3A, 0x3A, 0x31] :=
    .compressed [] [⟨[0x31], by decide, by decide, by decide +kernel⟩] (by decide)
      (by decide +kernel)
  have string := nullTerminated_store [0x3A, 0x3A, 0x31] (by simp)
  exact ⟨standard, string, (fromString_standard _ _).1 _ standard string⟩

end EtherSiaStack
