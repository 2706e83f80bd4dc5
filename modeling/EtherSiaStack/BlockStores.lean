/-
The two EEPROMs as files.

A store keeps its contents block by block: writing a block writes over the bytes it stands
for, and reading one gives its chunk of the contents.  Both EEPROMs of the example do, the one
on the two-wire bus as long as the device there keeps to its pages.
-/

import EtherSiaStack.CustomTFTPServer

namespace EtherSiaStack

open ByteMemory TFTPServer Overwrite

/-- A place that keeps a file as blocks. -/
structure BlockStore (σ : Type) where
  contents : σ → List UInt8
  write : UInt16 → List UInt8 → σ → Option σ
  read : UInt16 → σ → List UInt8 × σ
  short : ∀ state, (contents state).length < 65536
  writes : ∀ block data state, 0 < block.toNat → data.length ≤ 512 →
    (block.toNat - 1) * 512 + data.length < 65536 →
      ∃ after, write block data state = some after ∧
        contents after = overwrite (contents state) ((block.toNat - 1) * 512) data
  reads : ∀ block state, 0 < block.toNat →
    (block.toNat - 1) * 512 ≤ (contents state).length →
      (read block state).1 = chunk (contents state) block ∧
        contents (read block state).2 = contents state

namespace CustomTFTPServer

theorem blockOffset_toNat {block : UInt16} (positive : 0 < block.toNat)
    (below : (block.toNat - 1) * 512 < 65536) :
    (blockOffset block).toNat = (block.toNat - 1) * 512 := by
  have one : (1 : UInt16) ≤ block := UInt16.le_iff_toNat_le.mpr positive
  have size : TFTP_BLOCK_SIZE.toNat = 512 := rfl
  unfold blockOffset
  rw [UInt16.toNat_mul, UInt16.toNat_sub_of_le _ _ one, size]
  exact Nat.mod_eq_of_lt below

theorem take_block_eq {contents : List UInt8} {offset length : Nat}
    (isLength : length = min 512 (contents.length - offset)) :
    (contents.drop offset).take length = (contents.drop offset).take 512 := by
  rw [isLength, ← List.length_drop, ← List.take_eq_take_min]

theorem drop_eq_piece (data : List UInt8) (first count : Nat) :
    data.drop first = (data.drop first).take count ++
      data.drop (first + ((data.drop first).take count).length) := by
  conv_lhs => rw [← List.take_append_drop count (data.drop first), List.drop_drop]
  congr 1
  rw [List.length_take, List.length_drop]
  rcases Nat.le_total count (data.length - first) with fits | exceeds
  · rw [Nat.min_eq_left fits]
  · rw [Nat.min_eq_right exceeds, List.drop_of_length_le (by omega),
      List.drop_of_length_le (by omega)]

/-! ### The internal EEPROM -/

theorem length_update (idx : UInt16) (value : UInt8) (eeprom : Eeprom) :
    (if idx < eeprom.length then eeprom.update idx value else eeprom).bytes =
      eeprom.bytes.set idx.toNat value := by
  by_cases inside : idx < eeprom.length
  · rw [if_pos inside]
    rfl
  · rw [if_neg inside, List.set_eq_of_length_le]
    rw [UInt16.not_lt, UInt16.le_iff_toNat_le, eeprom.length_toNat] at inside
    exact inside

theorem writeToEeprom_bytes {idx : UInt16} {data : List UInt8} {eeprom : Eeprom}
    (inside : idx.toNat + data.length < 65536) :
    (writeToEeprom idx data eeprom).bytes = overwrite eeprom.bytes idx.toNat data := by
  induction data generalizing idx eeprom with
  | nil => exact overwrite_nil.symm
  | cons byte rest ih =>
      rw [List.length_cons] at inside
      have next : (idx + 1).toNat = idx.toNat + 1 := by
        rw [UInt16.toNat_add]
        exact Nat.mod_eq_of_lt (by change _ + 1 < 65536; omega)
      rw [writeToEeprom, ih (by omega), length_update, next, ← overwrite_cons]

theorem readFromEeprom_eq {offset : UInt16} {eeprom : Eeprom}
    (inside : offset.toNat ≤ eeprom.bytes.length) :
    readFromEeprom offset eeprom = (eeprom.bytes.drop offset.toNat).take 512 := by
  have short := eeprom.short
  have below : offset ≤ eeprom.length := by
    rw [UInt16.le_iff_toNat_le, eeprom.length_toNat]
    exact inside
  have rest : (eeprom.length - offset).toNat = eeprom.bytes.length - offset.toNat := by
    rw [UInt16.toNat_sub_of_le _ _ below, eeprom.length_toNat]
  have bounded : (if eeprom.length - offset > TFTP_BLOCK_SIZE then TFTP_BLOCK_SIZE
      else eeprom.length - offset).toNat = min 512 (eeprom.bytes.length - offset.toNat) := by
    have size : TFTP_BLOCK_SIZE.toNat = 512 := rfl
    split
    · rename_i long
      have long := UInt16.lt_iff_toNat_lt.mp long
      omega
    · rename_i notLong
      have notLong := UInt16.le_iff_toNat_le.mp (UInt16.not_lt.mp notLong)
      omega
  unfold readFromEeprom
  dsimp only
  rw [bounded]
  apply List.ext_getElem
  · rw [List.length_map, List.length_range, List.length_take, List.length_drop]
  · intro index inList inFile
    rw [List.length_map, List.length_range] at inList
    have place : (UInt16.ofNat index + offset).toNat = offset.toNat + index := by
      rw [UInt16.toNat_add, UInt16.toNat_ofNat_of_lt' (by change _ < 65536; omega)]
      rw [Nat.mod_eq_of_lt (by change _ < 65536; omega), Nat.add_comm]
    rw [List.getElem_map, List.getElem_range, List.getElem_take, List.getElem_drop]
    unfold Eeprom.read
    rw [place, List.getD_eq_getElem _ _ (by omega)]

/-! ### The EEPROM on the two-wire bus -/

/-- An AT24C128 at its address: a transmission of two bytes selects a place, more bytes are
written as far as they lie in one page, and bytes are read from the place on. -/
structure IsAT24C128 {σ : Type} (wire : Wire σ) (contents : σ → List UInt8)
    (selected : σ → Nat) : Prop where
  size : ∀ bus, (contents bus).length = 16384
  selects : ∀ (address : UInt16) bus, address.toNat < 16384 →
    contents (wire.transmit AT24C128_ADDRESS (bytes16 address) bus) = contents bus ∧
      selected (wire.transmit AT24C128_ADDRESS (bytes16 address) bus) = address.toNat
  writesPage : ∀ (address : UInt16) bytes bus, address.toNat < 16384 →
    address.toNat % 64 + bytes.length ≤ 64 → bytes.length + 2 ≤ 32 →
      contents (wire.transmit AT24C128_ADDRESS (bytes16 address ++ bytes) bus) =
        overwrite (contents bus) address.toNat bytes
  reads : ∀ (quantity : UInt8) bus, quantity.toNat ≤ 32 →
    selected bus + quantity.toNat ≤ 16384 →
      (wire.requestFrom AT24C128_ADDRESS quantity bus).1 =
          ((contents bus).drop (selected bus)).take quantity.toNat ∧
        contents (wire.requestFrom AT24C128_ADDRESS quantity bus).2 = contents bus

section TwoWire

variable {σ : Type} {wire : Wire σ} {contents : σ → List UInt8} {selected : σ → Nat}

theorem writePages_contents (chip : IsAT24C128 wire contents selected) {offset : UInt16}
    {data : List UInt8} (aligned : 16 ∣ offset.toNat) (short : data.length ≤ 512)
    (inside : offset.toNat + data.length < 65536) (i : UInt16) (bus : σ)
    (place : 16 ∣ i.toNat ∨ data.length ≤ i.toNat) :
    ∃ after, writePages wire offset data i bus = some after ∧
      contents after = overwrite (contents bus) (offset.toNat + i.toNat)
        (data.drop i.toNat) := by
  have sum {i : UInt16} (more : i.toNat < data.length) :
      (i + offset).toNat = offset.toNat + i.toNat := by
    rw [UInt16.toNat_add, Nat.add_comm i.toNat]
    exact Nat.mod_eq_of_lt (by change _ < 65536; omega)
  have further {i : UInt16} (more : i.toNat < data.length) :
      (i + (AT24C128_BUF_SIZE / 2).toUInt16).toNat = i.toNat + 16 := by
    have page : (AT24C128_BUF_SIZE / 2).toUInt16.toNat = 16 := rfl
    rw [UInt16.toNat_add, page]
    exact Nat.mod_eq_of_lt (by change _ < 65536; omega)
  induction i, bus using writePages.induct wire offset data with
  | case1 i bus more address behind =>
      refine ⟨bus, ?_, ?_⟩
      · rw [writePages, if_pos more, if_pos behind]
      · have behind := UInt16.le_iff_toNat_le.mp behind
        rw [sum more] at behind
        rw [overwrite_of_length_le]
        rw [chip.size]
        exact behind
  | case2 i bus more address before last stays =>
      have stays := UInt16.le_iff_toNat_le.mp stays
      rw [further more] at stays
      omega
  | case3 i bus more address before last progress bytes next ih =>
      have before := UInt16.lt_iff_toNat_lt.mp (UInt16.not_le.mp before)
      rw [sum more] at before
      have lastNat : last.toNat = i.toNat + 16 := further more
      have count : bytes.length = min 16 (data.length - i.toNat) := by
        rw [List.length_take, List.length_drop, lastNat, Nat.add_sub_cancel_left]
      have nextNat : (i + UInt16.ofNat bytes.length).toNat = i.toNat + bytes.length := by
        rw [UInt16.toNat_add, UInt16.toNat_ofNat_of_lt' (by change _ < 65536; omega)]
        exact Nat.mod_eq_of_lt (by change _ < 65536; omega)
      rw [nextNat] at ih
      obtain ⟨after, returns, isAfter⟩ := ih (by omega)
      refine ⟨after, ?_, ?_⟩
      · rw [writePages, if_pos more, if_neg (by assumption), if_neg progress]
        exact returns
      · have written : contents next = overwrite (contents bus) (offset.toNat + i.toNat) bytes := by
          rw [← sum more]
          exact chip.writesPage address bytes bus (by rw [sum more]; exact before)
            (by rw [sum more]; omega) (by omega)
        have split : data.drop i.toNat = bytes ++ data.drop (i.toNat + bytes.length) :=
          drop_eq_piece data i.toNat (last.toNat - i.toNat)
        rw [isAfter, written, split, overwrite_append, Nat.add_assoc]
  | case4 i bus done =>
      refine ⟨bus, ?_, ?_⟩
      · rw [writePages, if_neg done]
      · rw [List.drop_of_length_le (by omega), overwrite_nil]

theorem readRequests_eq (chip : IsAT24C128 wire contents selected) (offset i : UInt16)
    (requests : Nat) (bus : σ) (inside : offset.toNat + i.toNat + 32 * requests ≤ 16384) :
    (readRequests wire offset requests i bus).1 =
        ((contents bus).drop (offset.toNat + i.toNat)).take (32 * requests) ∧
      contents (readRequests wire offset requests i bus).2 = contents bus := by
  induction requests generalizing i bus with
  | zero => exact ⟨rfl, rfl⟩
  | succ requests ih =>
      have size : AT24C128_BUF_SIZE.toNat = 32 := rfl
      have address : (i + offset).toNat = offset.toNat + i.toNat := by
        rw [UInt16.toNat_add, Nat.add_comm i.toNat]
        exact Nat.mod_eq_of_lt (by change _ < 65536; omega)
      have next : (i + AT24C128_BUF_SIZE.toUInt16).toNat = i.toNat + 32 := by
        rw [UInt16.toNat_add]
        exact Nat.mod_eq_of_lt (by change _ + 32 < 65536; omega)
      obtain ⟨same, place⟩ := chip.selects (i + offset) bus (by omega)
      rw [address] at place
      obtain ⟨given, keeps⟩ := chip.reads AT24C128_BUF_SIZE _ (Nat.le_of_eq size)
        (Nat.le_trans (Nat.le_of_eq (congrArg (· + _) place)) (by rw [size]; omega))
      rw [place, same, size] at given
      rw [same] at keeps
      obtain ⟨rest, keepsRest⟩ := ih (i + AT24C128_BUF_SIZE.toUInt16)
        (wire.requestFrom AT24C128_ADDRESS AT24C128_BUF_SIZE
          (wire.transmit AT24C128_ADDRESS (bytes16 (i + offset)) bus)).2
        (by rw [next]; omega)
      have enough : ¬((((contents bus).drop (offset.toNat + i.toNat)).take 32).take
          AT24C128_BUF_SIZE.toNat).length < AT24C128_BUF_SIZE.toNat := by
        rw [size, List.length_take, List.length_take, List.length_drop, chip.size]
        omega
      unfold readRequests
      dsimp only
      rw [given, if_neg enough]
      refine ⟨?_, keepsRest.trans keeps⟩
      dsimp only
      have behind : (contents bus).drop (offset.toNat + (i.toNat + 32)) =
          ((contents bus).drop (offset.toNat + i.toNat)).drop 32 := by
        rw [List.drop_drop, Nat.add_assoc]
      rw [rest, next, keeps, size, List.take_take, Nat.min_self, behind, ← List.take_add,
        Nat.mul_succ, Nat.add_comm 32]

theorem readFromI2c_eq (chip : IsAT24C128 wire contents selected) {offset : UInt16} {bus : σ}
    (aligned : 512 ∣ offset.toNat) (inside : offset.toNat ≤ 16384) :
    (readFromI2c wire offset bus).1 = ((contents bus).drop offset.toNat).take 512 ∧
      contents (readFromI2c wire offset bus).2 = contents bus := by
  have capacity : AT24C128_LENGTH.toNat = 16384 := rfl
  have size : TFTP_BLOCK_SIZE.toNat = 512 := rfl
  have buffer : AT24C128_BUF_SIZE.toNat = 32 := rfl
  have below : offset ≤ AT24C128_LENGTH := UInt16.le_iff_toNat_le.mpr inside
  have rest : (AT24C128_LENGTH - offset).toNat = 16384 - offset.toNat :=
    UInt16.toNat_sub_of_le _ _ below
  have bounded : (if AT24C128_LENGTH - offset > TFTP_BLOCK_SIZE then TFTP_BLOCK_SIZE
      else AT24C128_LENGTH - offset).toNat = min 512 (16384 - offset.toNat) := by
    split
    · rename_i long
      have long := UInt16.lt_iff_toNat_lt.mp long
      omega
    · rename_i notLong
      have notLong := UInt16.le_iff_toNat_le.mp (UInt16.not_lt.mp notLong)
      omega
  have none : (0 : UInt16).toNat = 0 := rfl
  unfold readFromI2c
  dsimp only
  rw [bounded, buffer]
  obtain ⟨given, keeps⟩ := readRequests_eq chip offset 0
    ((min 512 (16384 - offset.toNat) + 32 - 1) / 32) bus (by rw [none]; omega)
  refine ⟨?_, keeps⟩
  rw [given, none, Nat.add_zero, List.take_take, Nat.min_eq_left (by omega)]
  exact take_block_eq (by rw [chip.size, Nat.add_zero])

end TwoWire

/-! ### The stores -/

def eepromStore {σ : Type} (wire : Wire σ) : BlockStore (Devices σ) where
  contents := fun devices => devices.eeprom.bytes
  write := writeBytes wire 2
  read := readBytes wire 2
  short := fun devices => devices.eeprom.short
  writes := by
    intro block data devices positive _ inside
    have place := blockOffset_toNat positive
      (Nat.lt_of_le_of_lt (Nat.le_add_right _ data.length) inside)
    refine ⟨_, rfl, ?_⟩
    dsimp only
    rw [← place] at inside ⊢
    exact writeToEeprom_bytes inside
  reads := by
    intro block devices positive inside
    have short := devices.eeprom.short
    have place := blockOffset_toNat positive (by omega)
    refine ⟨?_, rfl⟩
    unfold chunk
    rw [← place] at inside ⊢
    exact readFromEeprom_eq inside

def i2cStore {σ : Type} {wire : Wire σ} {contents : σ → List UInt8} {selected : σ → Nat}
    (chip : IsAT24C128 wire contents selected) : BlockStore (Devices σ) where
  contents := fun devices => contents devices.bus
  write := writeBytes wire 3
  read := readBytes wire 3
  short := fun devices => by
    rw [chip.size]
    decide
  writes := by
    intro block data devices positive fits inside
    have place := blockOffset_toNat positive
      (Nat.lt_of_le_of_lt (Nat.le_add_right _ data.length) inside)
    rw [← place] at inside ⊢
    have aligned : 16 ∣ (blockOffset block).toNat := by
      rw [place]
      omega
    obtain ⟨after, returns, isAfter⟩ := writePages_contents chip aligned fits inside
      0 devices.bus (Or.inl ⟨0, rfl⟩)
    exact ⟨{ devices with bus := after }, Option.map_eq_some_iff.mpr ⟨after, returns, rfl⟩, isAfter⟩
  reads := by
    intro block devices positive inside
    rw [chip.size] at inside
    have place := blockOffset_toNat positive (by omega)
    have aligned : 512 ∣ (blockOffset block).toNat := by
      rw [place]
      exact ⟨_, Nat.mul_comm _ _⟩
    unfold chunk
    rw [← place] at inside ⊢
    exact readFromI2c_eq chip aligned inside

end CustomTFTPServer

end EtherSiaStack
