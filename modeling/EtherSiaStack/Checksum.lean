/-
What makes a packet valid.

The loop of `chksum` is the one's-complement sum of the words of its bytes, so
a packet whose checksum field lies inside its payload, at an even offset, is
valid once the field has been filled in.  Validity reads no byte outside the
packet.
-/

import EtherSiaStack.Packet

namespace EtherSiaStack

open ByteMemory

theorem chksum_eq_sum (sum : UInt16) (data : List UInt8) :
    chksum sum data = OnesComplement.sum sum (OnesComplement.words data) := by
  induction sum, data using chksum.induct with
  | case1 sum => rfl
  | case2 sum last => rfl
  | case3 sum high low rest ih =>
      simp only [chksum, OnesComplement.words, OnesComplement.sum_cons]
      exact ih

namespace IPv6Packet

/-- The sum before the payload: length, protocol and both addresses. -/
def pseudoHeaderSum (memory : Memory) : UInt16 :=
  chksum
    (chksum (payloadLength memory + (protocol memory).toUInt16) (bytesAt memory 22 16))
    (bytesAt memory 38 16)

theorem calculateChecksum_eq (memory : Memory) :
    calculateChecksum memory =
      ~~~(chksum (pseudoHeaderSum memory)
        (bytesAt memory payload (payloadLength memory).toNat)) :=
  rfl

theorem pseudoHeaderSum_congr {left right : Memory}
    (agree : Agree left right 18 54) :
    pseudoHeaderSum left = pseudoHeaderSum right := by
  have sameLength : payloadLength left = payloadLength right :=
    agree.u16At_eq (by decide) (by decide)
  have sameProtocol : protocol left = protocol right :=
    agree 20 (by decide) (by decide)
  have sameSource : bytesAt left 22 16 = bytesAt right 22 16 :=
    agree.bytesAt_eq (by decide) (by decide)
  have sameDestination : bytesAt left 38 16 = bytesAt right 38 16 :=
    agree.bytesAt_eq (by decide) (by decide)
  unfold pseudoHeaderSum
  rw [sameLength, sameProtocol, sameSource, sameDestination]

/-- The last address of the packet, as its length field states it. -/
def packetEnd (memory : Memory) : Nat :=
  payload + (payloadLength memory).toNat

theorem payload_le_packetEnd (memory : Memory) : payload ≤ packetEnd memory :=
  Nat.le_add_right _ _

theorem calculateChecksum_congr {left right : Memory}
    (agree : Agree left right 18 (packetEnd left)) :
    calculateChecksum left = calculateChecksum right := by
  have headerInside : 54 ≤ packetEnd left := payload_le_packetEnd left
  have sameLength : payloadLength left = payloadLength right :=
    agree.u16At_eq (by decide) (by omega)
  have sameHeader : pseudoHeaderSum left = pseudoHeaderSum right :=
    pseudoHeaderSum_congr (agree.mono (Nat.le_refl _) headerInside)
  have samePayload : bytesAt left payload (payloadLength left).toNat =
      bytesAt right payload (payloadLength left).toNat :=
    agree.bytesAt_eq (by decide) (Nat.le_refl _)
  rw [calculateChecksum_eq, calculateChecksum_eq, sameHeader, samePayload, sameLength]

theorem calculateChecksum_store {memory : Memory} {octets : List UInt8}
    (whole : (payloadLength (store memory 0 octets)).toNat = octets.length - 54) :
    calculateChecksum (store memory 0 octets) =
      ~~~(chksum (pseudoHeaderSum (store memory 0 octets)) (octets.drop 54)) := by
  have summed : bytesAt (store memory 0 octets) payload (octets.length - 54) =
      octets.drop 54 := bytesAt_store_drop memory octets 54
  rw [calculateChecksum_eq, whole, summed]

/-- Validity looks at nothing but the packet from its EtherType on. -/
theorem isValid_congr {left right : Memory}
    (agree : Agree left right 12 (packetEnd left)) : isValid left = isValid right := by
  have headerInside : 54 ≤ packetEnd left := payload_le_packetEnd left
  have sameType : etherType left = etherType right :=
    agree.u16At_eq (by decide) (by omega)
  have sameVersion : version left = version right := by
    simp only [version, agree 14 (by decide) (by omega)]
  have sameChecksum : calculateChecksum left = calculateChecksum right :=
    calculateChecksum_congr (agree.mono (by decide) (Nat.le_refl _))
  unfold isValid
  rw [sameType, sameVersion, sameChecksum]

theorem isValid_iff (memory : Memory) :
    isValid memory = true ↔
      etherType memory = ETHER_TYPE_IPV6 ∧ version memory = 6 ∧
        calculateChecksum memory = 0 := by
  simp only [isValid]
  split_ifs <;> simp_all

/-! ### Filling in the checksum -/

theorem bytesAt_store_split (memory : Memory) {start address count : Nat}
    (field : List UInt8) (lower : start ≤ address)
    (upper : address + field.length ≤ start + count) :
    bytesAt (store memory address field) start count =
      bytesAt memory start (address - start) ++ field ++
        bytesAt memory (address + field.length)
          (start + count - (address + field.length)) := by
  have parts : count = address - start + (field.length +
      (start + count - (address + field.length))) := by omega
  have middle : start + (address - start) = address := by omega
  conv_lhs => rw [parts]
  rw [bytesAt_add, bytesAt_add, middle, bytesAt_store_self,
    bytesAt_store_disjoint memory field (by omega),
    bytesAt_store_disjoint memory field (by omega), List.append_assoc]

/-- A checksum field that lies in the payload at an even offset. -/
structure ChecksumField (memory : Memory) (address : Nat) : Prop where
  inPayload : payload ≤ address
  even : (address - payload) % 2 = 0
  covered : address + 2 ≤ packetEnd memory

theorem payloadLength_store (memory : Memory) {address : Nat} (bytes : List UInt8)
    (inPayload : payload ≤ address) :
    payloadLength (store memory address bytes) = payloadLength memory := by
  have above : 54 ≤ address := inPayload
  exact u16At_store_disjoint memory bytes (by omega)

theorem pseudoHeaderSum_store (memory : Memory) {address : Nat} (bytes : List UInt8)
    (inPayload : payload ≤ address) :
    pseudoHeaderSum (store memory address bytes) = pseudoHeaderSum memory :=
  pseudoHeaderSum_congr (agree_store memory bytes (Or.inl inPayload))

theorem calculateChecksum_store_field (memory : Memory) {address : Nat}
    (field : ChecksumField memory address) (value : UInt16) :
    calculateChecksum (store memory address (bytes16 value)) =
      ~~~(OnesComplement.sum (pseudoHeaderSum memory)
        (OnesComplement.words
          (bytesAt memory payload (address - payload) ++ bytes16 value ++
            bytesAt memory (address + 2) (packetEnd memory - (address + 2))))) := by
  have covered := field.covered
  rw [calculateChecksum_eq, pseudoHeaderSum_store memory _ field.inPayload,
    payloadLength_store memory _ field.inPayload, chksum_eq_sum,
    bytesAt_store_split memory (bytes16 value) field.inPayload
      (by rw [bytes16_length]; exact covered)]
  rfl

theorem calculateChecksum_storeChecksum (memory : Memory) {address : Nat}
    (field : ChecksumField memory address) :
    calculateChecksum (storeChecksum memory address) = 0 := by
  have clearedField : ChecksumField (store memory address (bytes16 0)) address :=
    { inPayload := field.inPayload
      even := field.even
      covered := by
        rw [packetEnd, payloadLength_store memory _ field.inPayload]
        exact field.covered }
  have evenBefore :
      (bytesAt memory payload (address - payload)).length % 2 = 0 := by
    rw [bytesAt_length]
    exact field.even
  have sealed := OnesComplement.sum_words_complement (pseudoHeaderSum memory) evenBefore
    (bytesAt memory (address + 2) (packetEnd memory - (address + 2)))
  have beforeSame :
      bytesAt (store memory address (bytes16 0)) payload (address - payload) =
        bytesAt memory payload (address - payload) := by
    apply bytesAt_store_disjoint
    have above := field.inPayload
    omega
  have afterSame (count : Nat) :
      bytesAt (store memory address (bytes16 0)) (address + 2) count =
        bytesAt memory (address + 2) count := by
    apply bytesAt_store_disjoint
    rw [bytes16_length]
    exact Or.inr (Nat.le_refl _)
  have endSame : packetEnd (store memory address (bytes16 0)) = packetEnd memory := by
    rw [packetEnd, payloadLength_store memory _ field.inPayload]
    rfl
  unfold storeChecksum
  rw [calculateChecksum_store_field _ clearedField,
    calculateChecksum_store_field memory field,
    pseudoHeaderSum_store memory _ field.inPayload, beforeSame, afterSame, endSame,
    sealed]
  rfl

/-- The header checks of `isValid`. -/
def HeaderValid (memory : Memory) : Prop :=
  etherType memory = ETHER_TYPE_IPV6 ∧ version memory = 6

theorem headerValid_of_isValid {memory : Memory} (valid : isValid memory = true) :
    HeaderValid memory := by
  obtain ⟨typeValid, versionValid, _⟩ := (isValid_iff memory).mp valid
  exact ⟨typeValid, versionValid⟩

theorem HeaderValid.congr {left right : Memory} (valid : HeaderValid left)
    (agree : Agree right left 12 15) : HeaderValid right := by
  constructor
  · exact (agree.u16At_eq (by decide) (by decide)).trans valid.1
  · have same : version right = version left := by
      simp only [version, agree 14 (by decide) (by decide)]
    exact same.trans valid.2

theorem headerValid_init (memory : Memory) : HeaderValid (init memory) := by
  constructor
  · simp
  · simp
    decide

theorem isValid_storeChecksum {memory : Memory} {address : Nat}
    (header : HeaderValid memory) (field : ChecksumField memory address) :
    isValid (storeChecksum memory address) = true := by
  have above : 54 ≤ address := field.inPayload
  have headerKept : HeaderValid (storeChecksum memory address) := by
    apply header.congr
    unfold storeChecksum
    exact (agree_store _ _ (by omega)).trans (agree_store memory _ (by omega))
  exact (isValid_iff _).mpr
    ⟨headerKept.1, headerKept.2, calculateChecksum_storeChecksum memory field⟩

end IPv6Packet

end EtherSiaStack
