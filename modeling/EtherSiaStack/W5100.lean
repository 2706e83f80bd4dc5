/-
The W5100 driver's accesses to the chip.

Every access is a byte at a 16-bit address.  The chip keeps what it sends and what it has
received in a ring of 8 KiB each, and in its registers a 16-bit pointer for each side of
a ring, which runs on past the end of the ring and wraps on its own.
-/

import EtherSiaStack.Library.ByteMemory
import EtherSiaStack.Library.RingBuffer

namespace EtherSiaStack

open ByteMemory

/-- The chip, as it answers on the SPI bus. -/
abbrev ChipMemory := UInt16 → UInt8

namespace W5100

def TxBufferAddress : UInt16 := 0x4000
def RxBufferAddress : UInt16 := 0x6000
def TxBufferSize : UInt8 := 0x3
def RxBufferSize : UInt8 := 0x3
def TxBufferLength : UInt16 := (1 <<< TxBufferSize.toUInt16) <<< 10
def RxBufferLength : UInt16 := (1 <<< RxBufferSize.toUInt16) <<< 10
def TxBufferMask : UInt16 := TxBufferLength - 1
def RxBufferMask : UInt16 := RxBufferLength - 1

def Sn_CR : UInt16 := 0x0401
def Sn_TX_WR : UInt16 := 0x0424
def Sn_RX_RSR : UInt16 := 0x0426
def Sn_RX_RD : UInt16 := 0x0428
def Sn_RX_WR : UInt16 := 0x042A

/-! ### Accesses -/

def wizchipRead (chip : ChipMemory) (address : UInt16) : UInt8 :=
  chip address

def wizchipReadWord (chip : ChipMemory) (address : UInt16) : UInt16 :=
  ((wizchipRead chip address).toUInt16 <<< 8) + (wizchipRead chip (address + 1)).toUInt16

/-- The passes of the loop in `wizchip_read_buf` from `i` on. -/
def wizchipReadBufFrom (chip : ChipMemory) (address : UInt16) (pBuf : Nat) :
    Nat → UInt16 → Memory → Memory
  | 0, _, memory => memory
  | remaining + 1, i, memory =>
      wizchipReadBufFrom chip address pBuf remaining (i + 1)
        (Function.update memory (pBuf + i.toNat) (wizchipRead chip (address + i)))

def wizchipReadBuf (chip : ChipMemory) (address : UInt16) (pBuf : Nat) (len : UInt16)
    (memory : Memory) : Memory :=
  wizchipReadBufFrom chip address pBuf len.toNat 0 memory

def wizchipWrite (chip : ChipMemory) (address : UInt16) (wb : UInt8) : ChipMemory :=
  Function.update chip address wb

def wizchipWriteWord (chip : ChipMemory) (address word : UInt16) : ChipMemory :=
  wizchipWrite (wizchipWrite chip address (word >>> 8).toUInt8) (address + 1) word.toUInt8

/-- The passes of the loop in `wizchip_write_buf` from `i` on. -/
def wizchipWriteBufFrom (address : UInt16) (memory : Memory) (pBuf : Nat) :
    Nat → UInt16 → ChipMemory → ChipMemory
  | 0, _, chip => chip
  | remaining + 1, i, chip =>
      wizchipWriteBufFrom address memory pBuf remaining (i + 1)
        (wizchipWrite chip (address + i) (memory (pBuf + i.toNat)))

def wizchipWriteBuf (chip : ChipMemory) (address : UInt16) (memory : Memory) (pBuf : Nat)
    (len : UInt16) : ChipMemory :=
  wizchipWriteBufFrom address memory pBuf len.toNat 0 chip

def getSn_TX_WR (chip : ChipMemory) : UInt16 :=
  wizchipReadWord chip Sn_TX_WR

def setSn_TX_WR (chip : ChipMemory) (txwr : UInt16) : ChipMemory :=
  wizchipWriteWord chip Sn_TX_WR txwr

def getSn_RX_RD (chip : ChipMemory) : UInt16 :=
  wizchipReadWord chip Sn_RX_RD

def setSn_RX_RD (chip : ChipMemory) (rxrd : UInt16) : ChipMemory :=
  wizchipWriteWord chip Sn_RX_RD rxrd

/-! ### Copies -/

/-- `len` bytes at `wizdata`, into the ring from the write pointer on. -/
def wizchipSendData (chip : ChipMemory) (memory : Memory) (wizdata : Nat) (len : UInt16) :
    ChipMemory :=
  let ptr := getSn_TX_WR chip
  let dst_mask := ptr &&& TxBufferMask
  let dst_ptr := TxBufferAddress + dst_mask
  let chip :=
    if dst_mask + len > TxBufferLength then
      let size := TxBufferLength - dst_mask
      let chip := wizchipWriteBuf chip dst_ptr memory wizdata size
      wizchipWriteBuf chip TxBufferAddress memory (wizdata + size.toNat) (len - size)
    else wizchipWriteBuf chip dst_ptr memory wizdata len
  setSn_TX_WR chip (ptr + len)

/-- `len` bytes out of the ring from the read pointer on, to `wizdata`. -/
def wizchipRecvData (chip : ChipMemory) (memory : Memory) (wizdata : Nat) (len : UInt16) :
    ChipMemory × Memory :=
  let ptr := getSn_RX_RD chip
  let src_mask := ptr &&& RxBufferMask
  let src_ptr := RxBufferAddress + src_mask
  let memory :=
    if src_mask + len > RxBufferLength then
      let size := RxBufferLength - src_mask
      let memory := wizchipReadBuf chip src_ptr wizdata size memory
      wizchipReadBuf chip RxBufferAddress (wizdata + size.toNat) (len - size) memory
    else wizchipReadBuf chip src_ptr wizdata len memory
  (setSn_RX_RD chip (ptr + len), memory)

def wizchipRecvIgnore (chip : ChipMemory) (len : UInt16) : ChipMemory :=
  setSn_RX_RD chip (getSn_RX_RD chip + len)

/-! ### Registers -/

theorem wizchipReadWord_toNat (chip : ChipMemory) (address : UInt16) :
    (wizchipReadWord chip address).toNat =
      (chip address).toNat * 256 + (chip (address + 1)).toNat := by
  have high := (chip address).toNat_lt
  have low := (chip (address + 1)).toNat_lt
  unfold wizchipReadWord wizchipRead
  rw [UInt16.toNat_add, UInt16.toNat_shiftLeft, UInt8.toNat_toUInt16, UInt8.toNat_toUInt16]
  simp only [UInt16.reduceToNat, Nat.reduceMod, Nat.shiftLeft_eq]
  omega

theorem wizchipReadWord_congr {left right : ChipMemory} {address : UInt16}
    (high : left address = right address) (low : left (address + 1) = right (address + 1)) :
    wizchipReadWord left address = wizchipReadWord right address := by
  unfold wizchipReadWord wizchipRead
  rw [high, low]

theorem add_one_ne_self (address : UInt16) : address + 1 ≠ address := by
  intro same
  have values := congrArg UInt16.toNat same
  rw [UInt16.toNat_add] at values
  have bound := address.toNat_lt
  simp only [UInt16.reduceToNat] at values
  omega

theorem wizchipReadWord_write (chip : ChipMemory) (address word : UInt16) :
    wizchipReadWord (wizchipWriteWord chip address word) address = word := by
  apply UInt16.toNat_inj.mp
  have bound := word.toNat_lt
  rw [wizchipReadWord_toNat]
  unfold wizchipWriteWord wizchipWrite
  rw [Function.update_of_ne (add_one_ne_self address).symm, Function.update_self,
    Function.update_self, UInt16.toNat_toUInt8, UInt16.toNat_toUInt8, UInt16.toNat_shiftRight]
  simp only [UInt16.reduceToNat, Nat.reduceMod, Nat.shiftRight_eq_div_pow]
  omega

theorem wizchipWriteWord_of_ne (chip : ChipMemory) {address other : UInt16} (word : UInt16)
    (high : other ≠ address) (low : other ≠ address + 1) :
    wizchipWriteWord chip address word other = chip other := by
  unfold wizchipWriteWord wizchipWrite
  rw [Function.update_of_ne low, Function.update_of_ne high]

theorem wizchipReadWord_write_of_ne (chip : ChipMemory) {address register : UInt16} (wb : UInt8)
    (high : address ≠ register) (low : address + 1 ≠ register) :
    wizchipReadWord (wizchipWrite chip register wb) address = wizchipReadWord chip address :=
  wizchipReadWord_congr (Function.update_of_ne high _ _) (Function.update_of_ne low _ _)

/-! ### The loops -/

/-- The offset of an address behind another decides which pass is the one that writes it. -/
theorem eq_add_iff (address other offset : UInt16) :
    other = address + offset ↔ (other - address).toNat = offset.toNat := by
  rw [UInt16.toNat_inj]
  constructor
  · rintro rfl
    rw [UInt16.add_comm, UInt16.add_sub_cancel]
  · intro same
    rw [← same, UInt16.add_comm, UInt16.sub_add_cancel]

theorem toNat_add_one {i : UInt16} {remaining : Nat} (short : i.toNat + (remaining + 1) < 65536) :
    (i + 1).toNat = i.toNat + 1 := by
  rw [UInt16.toNat_add]
  simp only [UInt16.reduceToNat]
  omega

theorem wizchipWriteBufFrom_apply (address : UInt16) (memory : Memory) (pBuf : Nat)
    (other : UInt16) {remaining : Nat} {i : UInt16} {chip : ChipMemory}
    (short : i.toNat + remaining < 65536) :
    wizchipWriteBufFrom address memory pBuf remaining i chip other =
      if i.toNat ≤ (other - address).toNat ∧ (other - address).toNat < i.toNat + remaining then
        memory (pBuf + (other - address).toNat)
      else chip other := by
  induction remaining generalizing i chip with
  | zero => rw [wizchipWriteBufFrom, if_neg (by omega)]
  | succ remaining ih =>
      have next := toNat_add_one short
      rw [wizchipWriteBufFrom, ih (by omega), next]
      by_cases here : other = address + i
      · have offset := (eq_add_iff _ _ _).mp here
        rw [if_neg (by omega), if_pos (by omega), offset]
        unfold wizchipWrite
        rw [here, Function.update_self]
      · have offset := mt (eq_add_iff _ _ _).mpr here
        have kept : wizchipWrite chip (address + i) (memory (pBuf + i.toNat)) other =
            chip other := Function.update_of_ne here _ _
        rw [kept]
        by_cases later : i.toNat + 1 ≤ (other - address).toNat ∧
            (other - address).toNat < i.toNat + 1 + remaining
        · rw [if_pos later, if_pos (by omega)]
        · rw [if_neg later, if_neg (by omega)]

theorem wizchipWriteBuf_apply (chip : ChipMemory) (address : UInt16) (memory : Memory)
    (pBuf : Nat) (len other : UInt16) :
    wizchipWriteBuf chip address memory pBuf len other =
      if (other - address).toNat < len.toNat then memory (pBuf + (other - address).toNat)
      else chip other := by
  have bound := len.toNat_lt
  have zero : (0 : UInt16).toNat = 0 := rfl
  unfold wizchipWriteBuf
  rw [wizchipWriteBufFrom_apply _ _ _ _ (by omega), zero, Nat.zero_add]
  simp only [Nat.zero_le, true_and]

theorem wizchipReadBufFrom_apply (chip : ChipMemory) (address : UInt16) (pBuf index : Nat)
    {remaining : Nat} {i : UInt16} {memory : Memory} (short : i.toNat + remaining < 65536) :
    wizchipReadBufFrom chip address pBuf remaining i memory index =
      if pBuf + i.toNat ≤ index ∧ index < pBuf + i.toNat + remaining then
        chip (address + UInt16.ofNat (index - pBuf))
      else memory index := by
  induction remaining generalizing i memory with
  | zero => rw [wizchipReadBufFrom, if_neg (by omega)]
  | succ remaining ih =>
      have next := toNat_add_one short
      rw [wizchipReadBufFrom, ih (by omega), next]
      by_cases here : index = pBuf + i.toNat
      · rw [if_neg (by omega), if_pos (by omega), here, Function.update_self,
          Nat.add_sub_cancel_left, UInt16.ofNat_toNat]
        rfl
      · rw [Function.update_of_ne here]
        by_cases later : pBuf + (i.toNat + 1) ≤ index ∧
            index < pBuf + (i.toNat + 1) + remaining
        · rw [if_pos later, if_pos (by omega)]
        · rw [if_neg later, if_neg (by omega)]

theorem wizchipReadBuf_apply (chip : ChipMemory) (address : UInt16) (pBuf index : Nat)
    (len : UInt16) (memory : Memory) :
    wizchipReadBuf chip address pBuf len memory index =
      if pBuf ≤ index ∧ index < pBuf + len.toNat then
        chip (address + UInt16.ofNat (index - pBuf))
      else memory index := by
  have bound := len.toNat_lt
  have zero : (0 : UInt16).toNat = 0 := rfl
  unfold wizchipReadBuf
  rw [wizchipReadBufFrom_apply _ _ _ _ (by omega), zero, Nat.add_zero]

/-! ### Addresses in a ring -/

/-- Where the byte `offset` places behind the pointer lies. -/
def ringAddress (base pointer : UInt16) (offset : Nat) : UInt16 :=
  base + UInt16.ofNat (RingBuffer.position 8192 pointer.toNat offset)

@[simp] theorem TxBufferLength_eq : TxBufferLength = 8192 :=
  rfl

@[simp] theorem TxBufferMask_eq : TxBufferMask = 8191 :=
  rfl

@[simp] theorem RxBufferLength_eq : RxBufferLength = 8192 :=
  rfl

@[simp] theorem RxBufferMask_eq : RxBufferMask = 8191 :=
  rfl

theorem and_mask_toNat (pointer : UInt16) : (pointer &&& 8191).toNat = pointer.toNat % 8192 := by
  rw [UInt16.toNat_and]
  exact Nat.and_two_pow_sub_one_eq_mod _ 13

theorem position_toNat (pointer : UInt16) (offset : Nat) :
    (UInt16.ofNat (RingBuffer.position 8192 pointer.toNat offset)).toNat =
      RingBuffer.position 8192 pointer.toNat offset := by
  have inside : RingBuffer.position 8192 pointer.toNat offset < 8192 :=
    RingBuffer.position_lt (by decide)
  exact UInt16.toNat_ofNat_of_lt' (inside.trans (by decide))

theorem eq_ringAddress_iff (base pointer other : UInt16) (offset : Nat) :
    other = ringAddress base pointer offset ↔
      (other - base).toNat = RingBuffer.position 8192 pointer.toNat offset := by
  unfold ringAddress
  rw [eq_add_iff, position_toNat]

/-- Positions in the window of a ring are different. -/
theorem ringAddress_injective {base pointer : UInt16} {first second : Nat}
    (firstInside : first < 8192) (secondInside : second < 8192)
    (same : ringAddress base pointer first = ringAddress base pointer second) :
    first = second := by
  have offset := (eq_ringAddress_iff _ _ _ _).mp same
  unfold ringAddress at offset
  rw [UInt16.add_comm, UInt16.add_sub_cancel, position_toNat] at offset
  exact RingBuffer.position_injective firstInside secondInside offset

theorem ringAddress_add (base pointer count : UInt16) (offset : Nat) :
    ringAddress base (pointer + count) offset =
      ringAddress base pointer (count.toNat + offset) := by
  unfold ringAddress
  have divides : (8192 : Nat) ∣ 2 ^ 16 := by decide
  rw [UInt16.toNat_add, RingBuffer.position_mod divides, RingBuffer.position_add]

theorem ringAddress_ge {base pointer : UInt16} (offset : Nat) (upper : base.toNat ≤ 57344) :
    base ≤ ringAddress base pointer offset := by
  have inside : RingBuffer.position 8192 pointer.toNat offset < 8192 :=
    RingBuffer.position_lt (by decide)
  unfold ringAddress
  rw [UInt16.le_iff_toNat_le, UInt16.toNat_add, position_toNat]
  omega

theorem mod_add_toNat (pointer : UInt16) {offset : Nat} (short : offset ≤ 8192) :
    ((pointer &&& 8191) + UInt16.ofNat offset).toNat = pointer.toNat % 8192 + offset := by
  have inRing := Nat.mod_lt pointer.toNat (show 0 < 8192 by decide)
  rw [UInt16.toNat_add, and_mask_toNat, UInt16.toNat_ofNat_of_lt' (by
    exact Nat.lt_of_le_of_lt short (by decide))]
  omega

theorem ringAddress_before (base : UInt16) {pointer : UInt16} {offset : Nat}
    (before : pointer.toNat % 8192 + offset < 8192) :
    base + (pointer &&& 8191) + UInt16.ofNat offset = ringAddress base pointer offset := by
  unfold ringAddress
  rw [UInt16.add_assoc, RingBuffer.position_before before]
  congr 1
  apply UInt16.toNat_inj.mp
  rw [mod_add_toNat pointer (by omega), UInt16.toNat_ofNat_of_lt' (before.trans (by decide))]

theorem ringAddress_behind (base : UInt16) {pointer : UInt16} {first offset : Nat}
    (ends : pointer.toNat % 8192 + first = 8192) (short : offset < 8192) :
    base + UInt16.ofNat offset = ringAddress base pointer (first + offset) := by
  have place : pointer.toNat % 8192 + (first + offset) - 8192 = offset := by omega
  unfold ringAddress
  rw [RingBuffer.position_behind (by omega) (by omega), place]

/-- The copies are split exactly if the data goes past the end of the ring. -/
theorem splits_iff {ptr len : UInt16} (fits : len.toNat ≤ 8192) :
    (ptr &&& 8191) + len > 8192 ↔ 8192 < ptr.toNat % 8192 + len.toNat := by
  have inRing := Nat.mod_lt ptr.toNat (show 0 < 8192 by decide)
  have capacity : (8192 : UInt16).toNat = 8192 := rfl
  rw [gt_iff_lt, UInt16.lt_iff_toNat_lt, UInt16.toNat_add, and_mask_toNat, capacity]
  omega

theorem firstRun_toNat (ptr : UInt16) :
    (8192 - (ptr &&& 8191)).toNat = 8192 - ptr.toNat % 8192 := by
  have inRing := Nat.mod_lt ptr.toNat (show 0 < 8192 by decide)
  have capacity : (8192 : UInt16).toNat = 8192 := rfl
  rw [UInt16.toNat_sub, and_mask_toNat, capacity]
  omega

theorem secondRun_toNat {ptr len : UInt16} (fits : len.toNat ≤ 8192)
    (splits : 8192 < ptr.toNat % 8192 + len.toNat) :
    (len - (8192 - (ptr &&& 8191))).toNat = len.toNat - (8192 - ptr.toNat % 8192) := by
  have inRing := Nat.mod_lt ptr.toNat (show 0 < 8192 by decide)
  rw [UInt16.toNat_sub, firstRun_toNat]
  omega

end W5100

end EtherSiaStack
