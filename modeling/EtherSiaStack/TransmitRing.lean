/-
Frames written into the transmit ring.

Data that goes past the end of the ring is copied in two runs, the second from the first
byte of the ring on.  Both ways put a byte where the write pointer, advanced by the byte's
index, stands.
-/

import EtherSiaStack.W5100

namespace EtherSiaStack

namespace W5100

open ByteMemory

/-- The bytes of these indices are in the ring behind the pointer, and nothing else has
changed. -/
structure Copied (before after : ChipMemory) (base pointer : UInt16) (memory : Memory)
    (wizdata first last : Nat) : Prop where
  inside : ∀ index, first ≤ index → index < last →
    after (ringAddress base pointer index) = memory (wizdata + index)
  outside : ∀ other, (∀ index, first ≤ index → index < last →
    other ≠ ringAddress base pointer index) → after other = before other

section Copies

variable {before between after : ChipMemory} {base pointer : UInt16} {memory : Memory}
  {wizdata first middle last : Nat}

/-- A second run does not come back to what the first has written. -/
theorem Copied.trans (left : Copied before between base pointer memory wizdata first middle)
    (right : Copied between after base pointer memory wizdata middle last)
    (toMiddle : first ≤ middle) (fromMiddle : middle ≤ last) (short : last ≤ 8192) :
    Copied before after base pointer memory wizdata first last where
  inside := by
    intro index fromFirst toLast
    by_cases inFirst : index < middle
    · have kept : ∀ other, middle ≤ other → other < last →
          ringAddress base pointer index ≠ ringAddress base pointer other := by
        intro other inSecond otherInside same
        have sameIndex := ringAddress_injective (by omega) (by omega) same
        omega
      rw [right.outside _ kept]
      exact left.inside index fromFirst inFirst
    · exact right.inside index (Nat.le_of_not_lt inFirst) toLast
  outside := by
    intro other untouched
    have kept := right.outside other fun index fromFirst toLast =>
      untouched index (toMiddle.trans fromFirst) toLast
    rw [kept]
    exact left.outside other fun index fromFirst toLast =>
      untouched index fromFirst (Nat.lt_of_lt_of_le toLast fromMiddle)

theorem wizchipWriteBuf_copied {address : UInt16} {len : UInt16}
    (places : ∀ offset < len.toNat,
      address + UInt16.ofNat offset = ringAddress base pointer (first + offset)) :
    Copied before (wizchipWriteBuf before address memory (wizdata + first) len) base pointer
      memory wizdata first (first + len.toNat) where
  inside := by
    intro index fromFirst toLast
    have bound := len.toNat_lt
    have place := places (index - first) (by omega)
    rw [Nat.add_sub_cancel' fromFirst] at place
    have offset := (eq_add_iff _ _ _).mp place.symm
    rw [UInt16.toNat_ofNat_of_lt' (by exact Nat.lt_trans (by omega) bound)] at offset
    rw [wizchipWriteBuf_apply, offset, if_pos (by omega)]
    exact congrArg memory (by omega)
  outside := by
    intro other untouched
    rw [wizchipWriteBuf_apply, if_neg fun written => ?_]
    refine untouched (first + (other - address).toNat) (Nat.le_add_right _ _) (by omega) ?_
    rw [← places _ written, eq_add_iff, UInt16.ofNat_toNat]

theorem wizchipWriteBuf_toEnd {len : UInt16} (room : pointer.toNat % 8192 + len.toNat ≤ 8192) :
    Copied before (wizchipWriteBuf before (base + (pointer &&& 8191)) memory wizdata len) base
      pointer memory wizdata 0 len.toNat := by
  have places : ∀ offset < len.toNat, base + (pointer &&& 8191) + UInt16.ofNat offset =
      ringAddress base pointer (0 + offset) := by
    intro offset inside
    rw [Nat.zero_add]
    exact ringAddress_before base (by omega)
  have copied := @wizchipWriteBuf_copied before base pointer memory wizdata 0 _ _ places
  rw [Nat.zero_add] at copied
  exact copied

theorem wizchipWriteBuf_fromStart {len : UInt16} (ends : pointer.toNat % 8192 + first = 8192)
    (short : len.toNat ≤ 8192) :
    Copied before (wizchipWriteBuf before base memory (wizdata + first) len) base pointer
      memory wizdata first (first + len.toNat) :=
  wizchipWriteBuf_copied fun _ inside =>
    ringAddress_behind base ends (Nat.lt_of_lt_of_le inside short)

end Copies

theorem wizchipSendData_copied (chip : ChipMemory) (memory : Memory) (wizdata : Nat)
    {len : UInt16} (fits : len.toNat ≤ 8192) :
    ∃ copied, wizchipSendData chip memory wizdata len =
        setSn_TX_WR copied (getSn_TX_WR chip + len) ∧
      Copied chip copied TxBufferAddress (getSn_TX_WR chip) memory wizdata 0 len.toNat := by
  generalize pointer : getSn_TX_WR chip = ptr
  have inRing := Nat.mod_lt ptr.toNat (show 0 < 8192 by decide)
  unfold wizchipSendData
  simp only [pointer, TxBufferMask_eq, TxBufferLength_eq]
  by_cases splits : (ptr &&& 8191) + len > 8192
  · -- the first run fills the ring to its end, the second starts at its first byte
    rw [if_pos splits]
    refine ⟨_, rfl, ?_⟩
    have crosses := (splits_iff fits).mp splits
    have size := firstRun_toNat ptr
    have remains := secondRun_toNat fits crosses
    generalize 8192 - (ptr &&& 8191) = first at size remains ⊢
    have toEnd : Copied chip (wizchipWriteBuf chip (TxBufferAddress + (ptr &&& 8191)) memory
        wizdata first) TxBufferAddress ptr memory wizdata 0 first.toNat :=
      wizchipWriteBuf_toEnd (by omega)
    have fromStart := @wizchipWriteBuf_fromStart (wizchipWriteBuf chip
      (TxBufferAddress + (ptr &&& 8191)) memory wizdata first) TxBufferAddress ptr memory
        wizdata first.toNat (len - first) (by omega) (by omega)
    rw [remains, size, Nat.add_sub_cancel' (by omega), ← size] at fromStart
    exact toEnd.trans fromStart (Nat.zero_le _) (by omega) fits
  · have room := mt (splits_iff fits).mpr splits
    rw [if_neg splits]
    exact ⟨_, rfl, wizchipWriteBuf_toEnd (Nat.le_of_not_lt room)⟩

theorem ringAddress_ne_TX_WR (pointer : UInt16) (offset : Nat) :
    ringAddress TxBufferAddress pointer offset ≠ Sn_TX_WR ∧
      ringAddress TxBufferAddress pointer offset ≠ Sn_TX_WR + 1 := by
  have above := @ringAddress_ge TxBufferAddress pointer offset (by decide)
  constructor
  · intro same
    rw [same] at above
    exact absurd above (by decide)
  · intro same
    rw [same] at above
    exact absurd above (by decide)

/-- Whatever the write pointer and wherever the data ends: each byte lies where the pointer
advanced by its index stands, nothing else but the pointer is written, and the pointer is
advanced by the length. -/
theorem wizchipSendData_ring (chip : ChipMemory) (memory : Memory) (wizdata : Nat)
    (len : UInt16) (fits : len ≤ 8192) :
    (∀ index < len.toNat,
        wizchipSendData chip memory wizdata len
          (TxBufferAddress + UInt16.ofNat (((getSn_TX_WR chip).toNat + index) % 8192)) =
            memory (wizdata + index)) ∧
      (∀ other, other ≠ Sn_TX_WR → other ≠ Sn_TX_WR + 1 →
        (∀ index < len.toNat,
          other ≠ TxBufferAddress + UInt16.ofNat (((getSn_TX_WR chip).toNat + index) % 8192)) →
            wizchipSendData chip memory wizdata len other = chip other) ∧
      getSn_TX_WR (wizchipSendData chip memory wizdata len) = getSn_TX_WR chip + len := by
  obtain ⟨copied, sent, copies⟩ :=
    wizchipSendData_copied chip memory wizdata (UInt16.le_iff_toNat_le.mp fits)
  rw [sent]
  refine ⟨?_, ?_, wizchipReadWord_write _ _ _⟩
  · intro index inside
    obtain ⟨notHigh, notLow⟩ := ringAddress_ne_TX_WR (getSn_TX_WR chip) index
    exact (wizchipWriteWord_of_ne _ _ notHigh notLow).trans
      (copies.inside index (Nat.zero_le _) inside)
  · intro other notHigh notLow outside
    exact (wizchipWriteWord_of_ne _ _ notHigh notLow).trans
      (copies.outside other fun index _ inside => outside index inside)

/-- The chip with its write pointer about to wrap. -/
def lastPlaceChip : ChipMemory :=
  setSn_TX_WR (fun _ => 0) 0xFFFF

/-- Three bytes from the last place of the ring on. -/
theorem wizchipSendData_ring_wraps :
    (3 : UInt16) ≤ 8192 ∧
      (∀ index < 3, wizchipSendData lastPlaceChip (fun place => UInt8.ofNat place) 10 3
        (0x4000 + UInt16.ofNat ((65535 + index) % 8192)) = UInt8.ofNat (10 + index)) ∧
      getSn_TX_WR (wizchipSendData lastPlaceChip (fun place => UInt8.ofNat place) 10 3) = 2 := by
  have pointer : getSn_TX_WR lastPlaceChip = 0xFFFF := wizchipReadWord_write _ _ _
  have sent := wizchipSendData_ring lastPlaceChip (fun place => UInt8.ofNat place) 10 3
    (by decide)
  rw [pointer] at sent
  exact ⟨by decide, sent.1, sent.2.2⟩

end W5100

end EtherSiaStack
