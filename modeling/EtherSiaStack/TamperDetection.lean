/-
What a checksum notices.

A packet is valid if its words add up to a multiple of 65535.  Another value of one byte
that is summed changes the sum by less than that, in either half of a word, so it is
noticed wherever it is.
-/

import EtherSiaStack.ChecksumLaws
import EtherSiaStack.TransmittedFrames

namespace EtherSiaStack

open ByteMemory OnesComplement

namespace IPv6Packet

variable {packet : Memory} {address : Nat} {byte : UInt8}

/-- The words of a valid packet add up to a multiple of 65535. -/
theorem isValid_residue (valid : isValid packet = true) :
    (initialSum packet).toNat + total (words (summedBytes packet)) ≡ 0 [MOD 65535] := by
  obtain ⟨-, -, noDifference⟩ := (isValid_iff packet).mp valid
  rw [calculateChecksum_eq_sum, complement_eq_zero_iff] at noDifference
  have residue := sum_modEq (initialSum packet) (words (summedBytes packet))
  rw [noDifference] at residue
  exact residue.symm.trans (by decide)

theorem payloadLength_store_byte (behind : 20 ≤ address) :
    payloadLength (store packet address [byte]) = payloadLength packet :=
  u16At_store_disjoint packet [byte] (Or.inl behind)

/-- One byte of the addresses or the payload, with what is summed before and behind it. -/
theorem summedBytes_store (lower : 22 ≤ address) (upper : address < packetEnd packet) :
    ∃ before after, before.length = address - 22 ∧
      summedBytes packet = before ++ packet address :: after ∧
      summedBytes (store packet address [byte]) = before ++ byte :: after := by
  have ends : packetEnd packet = 54 + (payloadLength packet).toNat := rfl
  have split (memory : Memory) (same : payloadLength memory = payloadLength packet) :
      summedBytes memory = bytesAt memory 22 (address - 22) ++
        memory address :: bytesAt memory (address + 1) (packetEnd packet - (address + 1)) := by
    have count : 32 + (payloadLength packet).toNat =
        address - 22 + (packetEnd packet - (address + 1) + 1) := by
      omega
    have place : 22 + (address - 22) = address := by omega
    unfold summedBytes
    rw [same, count, bytesAt_add, place, bytesAt_succ]
  refine ⟨bytesAt packet 22 (address - 22),
    bytesAt packet (address + 1) (packetEnd packet - (address + 1)), bytesAt_length _ _ _,
    split packet rfl, ?_⟩
  have behind : bytesAt (store packet address [byte]) (address + 1)
      (packetEnd packet - (address + 1)) =
        bytesAt packet (address + 1) (packetEnd packet - (address + 1)) :=
    bytesAt_store_disjoint packet [byte] (Or.inr le_rfl)
  rw [split _ (payloadLength_store_byte (by omega)), u8_store_self,
    bytesAt_store_disjoint packet [byte] (Or.inl (by omega)), behind]

/-- A byte of the addresses or the payload cannot be replaced, however long the packet. -/
theorem isValid_store_summed (valid : isValid packet = true) (lower : 22 ≤ address)
    (upper : address < packetEnd packet) (other : byte ≠ packet address) :
    isValid (store packet address [byte]) = false := by
  apply Bool.eq_false_iff.mpr
  intro stillValid
  obtain ⟨before, after, length, original, replaced⟩ :=
    @summedBytes_store packet address byte lower upper
  have residue := isValid_residue valid
  have residueToo := isValid_residue stillValid
  have sameStart : initialSum (store packet address [byte]) = initialSum packet := by
    have protocol : protocol (store packet address [byte]) = protocol packet :=
      store_before packet [byte] (by omega)
    unfold initialSum
    rw [payloadLength_store_byte (by omega), protocol]
  rw [original, total_words_split] at residue
  rw [replaced, total_words_split, sameStart] at residueToo
  apply other
  apply @byteValue_inj before.length
  have residues := residueToo.trans residue.symm
  rw [Nat.ModEq] at residues ⊢
  omega

/-- The protocol is summed as the low half of a word, as long as the length leaves room. -/
theorem isValid_store_protocol (valid : isValid packet = true)
    (fits : (payloadLength packet).toNat ≤ 546) (other : byte ≠ protocol packet) :
    isValid (store packet 20 [byte]) = false := by
  apply Bool.eq_false_iff.mpr
  intro stillValid
  have residue := isValid_residue valid
  have residueToo := isValid_residue stillValid
  have sameLength : payloadLength (store packet 20 [byte]) = payloadLength packet :=
    payloadLength_store_byte le_rfl
  have newProtocol : protocol (store packet 20 [byte]) = byte := u8_store_self _ _ _
  have sameBytes : summedBytes (store packet 20 [byte]) = summedBytes packet := by
    unfold summedBytes
    rw [sameLength]
    exact bytesAt_store_disjoint packet [byte] (Or.inr (Nat.le_succ 21))
  have oldBound := (protocol packet).toNat_lt
  have newBound := byte.toNat_lt
  rw [initialSum_toNat] at residue residueToo
  rw [sameLength, newProtocol, sameBytes] at residueToo
  have residues := residueToo.trans residue.symm
  rw [Nat.ModEq] at residues
  apply other
  apply UInt8.toNat_inj.mp
  omega

/-- The addresses, the protocol and the payload are protected by the checksum. -/
theorem isValid_detects_change (valid : isValid packet = true)
    (fits : (payloadLength packet).toNat ≤ 546)
    (covered : address = 20 ∨ 22 ≤ address ∧ address < 54 + (payloadLength packet).toNat)
    (other : byte ≠ packet address) : isValid (store packet address [byte]) = false := by
  rcases covered with rfl | ⟨lower, upper⟩
  · exact isValid_store_protocol valid fits other
  · exact isValid_store_summed valid lower upper other

/-- Another last byte of an echo request. -/
theorem echoRequest_changed :
    isValid (store (ofOctets echoRequest.octets) 63 [0x6a]) = false :=
  isValid_detects_change (by decide +kernel) (by decide +kernel)
    (Or.inr ⟨by decide, by decide +kernel⟩) (by decide +kernel)

end IPv6Packet

end EtherSiaStack
