/-
The laws of `chksum`, and the checksum of a packet.

The loop of `chksum` runs over two pointers; over the bytes between them it is the
one's-complement sum of their words.  `calculateChecksum` sums the pseudo-header in three
parts after an addition that is said not to carry, which is so for the packets that fit
the buffer, but not for every length a header can state.
-/

import EtherSiaStack.Checksum
import EtherSiaStack.Library.FuelLoop

namespace EtherSiaStack

open ByteMemory OnesComplement FuelLoop

/-! ### The loop -/

/-- The locals of `chksum` that its loop changes. -/
structure ChksumState where
  sum : UInt16
  dataptr : Nat

/-- One pass of `chksum`: two bytes more, or what follows the loop.  With no data
`last_byte` lies before the first byte. -/
def chksumPass (memory : Memory) (last_byte : Int) (state : ChksumState) :
    ChksumState ⊕ UInt16 :=
  if (state.dataptr : Int) < last_byte then
    let t := be16 (memory state.dataptr) (memory (state.dataptr + 1))
    .inl { sum := chksumStep state.sum t, dataptr := state.dataptr + 2 }
  else if (state.dataptr : Int) = last_byte then
    .inr (chksumStep state.sum (be16 (memory state.dataptr) 0))
  else
    .inr state.sum

/-- The loop ends, and has gone over the bytes one after the other. -/
theorem chksum_returns (memory : Memory) (sum : UInt16) (data len : Nat) :
    Returns (chksumPass memory (data + len - 1)) ⟨sum, data⟩
      (chksum sum (bytesAt memory data len)) := by
  induction len using Nat.strong_induction_on generalizing sum data with
  | _ len ih =>
      rcases len with _ | _ | len
      · refine ⟨1, run_leave ?_ 0⟩
        unfold chksumPass
        dsimp only
        rw [if_neg (by omega), if_neg (by omega)]
        rfl
      · refine ⟨1, run_leave ?_ 0⟩
        unfold chksumPass
        dsimp only
        rw [if_neg (by omega), if_pos (by omega)]
        rfl
      · have goesOn : chksumPass memory (data + (len + 2 : Nat) - 1) ⟨sum, data⟩ =
            .inl ⟨chksumStep sum (be16 (memory data) (memory (data + 1))), data + 2⟩ :=
          if_pos (by change (data : Int) < _; omega)
        have rest := ih len (by omega)
          (chksumStep sum (be16 (memory data) (memory (data + 1)))) (data + 2)
        have sameEnd : ((data + 2 : Nat) : Int) + (len : Nat) - 1 =
            data + (len + 2 : Nat) - 1 := by
          omega
        rw [sameEnd] at rest
        rw [bytesAt_succ, bytesAt_succ]
        exact rest.head goesOn

theorem chksum_modEq (sum : UInt16) (data : List UInt8) :
    (chksum sum data).toNat ≡ sum.toNat + total (words data) [MOD 65535] := by
  rw [chksum_eq_sum]
  exact sum_modEq sum (words data)

theorem chksum_eq_zero_iff (sum : UInt16) (data : List UInt8) :
    chksum sum data = 0 ↔ sum = 0 ∧ ∀ byte ∈ data, byte = 0 := by
  rw [chksum_eq_sum, sum_eq_zero_iff, words_eq_zero_iff]

theorem chksum_append {first : List UInt8} (even : first.length % 2 = 0) (sum : UInt16)
    (second : List UInt8) : chksum (chksum sum first) second = chksum sum (first ++ second) := by
  rw [chksum_eq_sum, chksum_eq_sum, chksum_eq_sum, words_append even, sum_append]

theorem chksum_append_odd {first : List UInt8} (odd : first.length % 2 = 1) (sum : UInt16)
    (second : List UInt8) :
    chksum (chksum sum first) second = chksum sum (first ++ [0] ++ second) := by
  rw [chksum_eq_sum, chksum_eq_sum, chksum_eq_sum, words_append_odd odd, sum_append]

/-- The sum that `chksum` returns, its residue, when it is zero, and how it is continued
behind an even and behind an odd number of bytes. -/
theorem chksum_law (memory : Memory) (address : Nat) (len sum : UInt16) :
    let data := bytesAt memory address len.toNat
    Returns (chksumPass memory (address + len.toNat - 1)) ⟨sum, address⟩ (chksum sum data) ∧
      (chksum sum data).toNat ≡ sum.toNat + total (words data) [MOD 65535] ∧
      (chksum sum data = 0 ↔ sum = 0 ∧ ∀ byte ∈ data, byte = 0) ∧
      ∀ behind : List UInt8,
        (data.length % 2 = 0 →
          chksum (chksum sum data) behind = chksum sum (data ++ behind)) ∧
        (data.length % 2 = 1 →
          chksum (chksum sum data) behind = chksum sum (data ++ [0] ++ behind)) :=
  ⟨chksum_returns memory sum address len.toNat, chksum_modEq sum _, chksum_eq_zero_iff sum _,
    fun behind => ⟨fun even => chksum_append even sum behind,
      fun odd => chksum_append_odd odd sum behind⟩⟩

namespace IPv6Packet

/-! ### The checksum of a packet -/

/-- What `calculateChecksum` starts with, an addition of words. -/
def initialSum (packet : Memory) : UInt16 :=
  payloadLength packet + (protocol packet).toUInt16

/-- The addresses and the payload, which lie next to each other. -/
def summedBytes (packet : Memory) : List UInt8 :=
  bytesAt packet 22 (32 + (payloadLength packet).toNat)

theorem initialSum_toNat (packet : Memory) :
    (initialSum packet).toNat =
      ((payloadLength packet).toNat + (protocol packet).toNat) % 65536 := by
  unfold initialSum
  rw [UInt16.toNat_add, UInt8.toNat_toUInt16]

theorem calculateChecksum_eq_sum (packet : Memory) :
    calculateChecksum packet = ~~~(sum (initialSum packet) (words (summedBytes packet))) := by
  have parts : summedBytes packet = bytesAt packet 22 16 ++ bytesAt packet 38 16 ++
      bytesAt packet payload (payloadLength packet).toNat := by
    unfold summedBytes
    rw [bytesAt_add, bytesAt_add packet 22 16 16]
    rfl
  have addresses : (bytesAt packet 22 16 ++ bytesAt packet 38 16).length % 2 = 0 := by
    rw [List.length_append, bytesAt_length, bytesAt_length]
  have source : (bytesAt packet 22 16).length % 2 = 0 := by rw [bytesAt_length]
  rw [calculateChecksum_eq, pseudoHeaderSum, chksum_append source, chksum_append addresses,
    ← parts, chksum_eq_sum]
  rfl

theorem complement_inj {left right : UInt16} : ~~~left = ~~~right ↔ left = right := by
  constructor
  · intro same
    have numbers := congrArg UInt16.toNat same
    rw [complement_toNat, complement_toNat] at numbers
    have leftBound := left.toNat_lt
    have rightBound := right.toNat_lt
    apply UInt16.toNat_inj.mp
    omega
  · intro same
    rw [same]

theorem complement_eq_zero_iff {word : UInt16} : ~~~word = 0 ↔ word = 0xFFFF :=
  @complement_inj word 0xFFFF

/-- The pseudo-header of RFC 8200: both addresses, the length of the payload as a 32-bit
number, three zero bytes and the next header. -/
def pseudoHeader (packet : Memory) : List UInt8 :=
  bytesAt packet 22 16 ++ bytesAt packet 38 16 ++
    bytes32 (payloadLength packet).toUInt32 ++ [0, 0, 0, protocol packet]

/-- The checksum of RFC 8200: the complement of the one's-complement sum of the
pseudo-header and the payload. -/
def upperLayerChecksum (packet : Memory) : UInt16 :=
  ~~~(sum 0 (words (pseudoHeader packet ++
    bytesAt packet payload (payloadLength packet).toNat)))

theorem words_bytes32 (length : UInt16) : words (bytes32 length.toUInt32) = [0, length] := by
  have bound := length.toNat_lt
  have value : length.toUInt32.toNat = length.toNat := rfl
  have low : be16 (UInt8.ofNat (length.toNat / 256)) (UInt8.ofNat length.toNat) = length :=
    be16_high16_low16 length
  have first : UInt8.ofNat (length.toNat / 16777216) = 0 := by
    rw [Nat.div_eq_of_lt (by omega)]
    rfl
  have second : UInt8.ofNat (length.toNat / 65536) = 0 := by
    rw [Nat.div_eq_of_lt (by omega)]
    rfl
  unfold bytes32
  rw [value, first, second]
  simp only [words, low]
  rfl

/-- The sum of RFC 8200 adds up the same words behind the length and the next header. -/
theorem total_pseudoHeader (packet : Memory) :
    total (words (pseudoHeader packet ++
        bytesAt packet payload (payloadLength packet).toNat)) =
      (payloadLength packet).toNat + (protocol packet).toNat +
        total (words (summedBytes packet)) := by
  have parts : summedBytes packet = bytesAt packet 22 32 ++
      bytesAt packet payload (payloadLength packet).toNat := bytesAt_add _ _ _ _
  have addresses : bytesAt packet 22 16 ++ bytesAt packet 38 16 = bytesAt packet 22 32 :=
    (bytesAt_add packet 22 16 16).symm
  have next : words [0, 0, 0, protocol packet] = [0, (protocol packet).toUInt16] := by
    have word : be16 0 (protocol packet) = (protocol packet).toUInt16 := by
      apply UInt16.toNat_inj.mp
      rw [be16_toNat, UInt8.toNat_toUInt16, UInt8.toNat_zero]
      omega
    simp only [words, word]
    rfl
  have addressesEven : (bytesAt packet 22 32).length % 2 = 0 := by rw [bytesAt_length]
  have lengthEven : (bytes32 (payloadLength packet).toUInt32).length % 2 = 0 := by
    rw [bytes32_length]
  have nextEven : [0, 0, 0, protocol packet].length % 2 = 0 := by
    simp only [List.length_cons, List.length_nil]
  unfold pseudoHeader
  rw [addresses, parts, List.append_assoc, List.append_assoc, words_append addressesEven,
    words_append lengthEven, words_append nextEven, words_append addressesEven,
    words_bytes32, next]
  simp only [total_append, total_cons, total_nil, UInt8.toNat_toUInt16, UInt16.toNat_zero]
  omega

theorem upperLayer_eq_zero_iff (packet : Memory) :
    sum 0 (words (pseudoHeader packet ++
        bytesAt packet payload (payloadLength packet).toNat)) = 0 ↔
      (payloadLength packet).toNat + (protocol packet).toNat = 0 ∧
        ∀ word ∈ words (summedBytes packet), word = 0 := by
  have noTotal (list : List UInt16) : (∀ word ∈ list, word = 0) ↔ total list = 0 := by
    induction list with
    | nil => exact iff_of_true (fun _ member => nomatch member) rfl
    | cons word rest ih =>
        rw [List.forall_mem_cons, ih, total_cons, ← UInt16.toNat_inj, UInt16.toNat_zero]
        omega
  rw [sum_eq_zero_iff, noTotal, noTotal, total_pseudoHeader]
  constructor
  · rintro ⟨-, none⟩
    omega
  · rintro ⟨none, noWords⟩
    exact ⟨rfl, by omega⟩

theorem calculateChecksum_of_noCarry {packet : Memory}
    (noCarry : (payloadLength packet).toNat + (protocol packet).toNat < 65536) :
    calculateChecksum packet = upperLayerChecksum packet := by
  have initial := initialSum_toNat packet
  rw [Nat.mod_eq_of_lt noCarry] at initial
  rw [calculateChecksum_eq_sum, upperLayerChecksum, complement_inj]
  apply eq_of_modEq
  · rw [upperLayer_eq_zero_iff, sum_eq_zero_iff, ← UInt16.toNat_inj, initial]
    rfl
  · have residue := sum_modEq (initialSum packet) (words (summedBytes packet))
    have specified := sum_modEq 0 (words (pseudoHeader packet ++
      bytesAt packet payload (payloadLength packet).toNat))
    rw [initial] at residue
    rw [total_pseudoHeader, UInt16.toNat_zero, Nat.zero_add] at specified
    exact residue.trans specified.symm

/-- A carry that is lost leaves the sum one short. -/
theorem calculateChecksum_of_carry {packet : Memory}
    (carries : 65536 ≤ (payloadLength packet).toNat + (protocol packet).toNat) :
    calculateChecksum packet ≠ upperLayerChecksum packet := by
  have initial := initialSum_toNat packet
  have lengthBound := (payloadLength packet).toNat_lt
  have protocolBound := (protocol packet).toNat_lt
  rw [calculateChecksum_eq_sum, upperLayerChecksum, ne_eq, complement_inj]
  intro same
  have residue := sum_modEq (initialSum packet) (words (summedBytes packet))
  have specified := sum_modEq 0 (words (pseudoHeader packet ++
    bytesAt packet payload (payloadLength packet).toNat))
  rw [total_pseudoHeader, UInt16.toNat_zero, Nat.zero_add, ← same] at specified
  have residues := residue.symm.trans specified
  rw [initial, Nat.ModEq] at residues
  omega

/-- The checksum is that of RFC 8200 exactly for the packets whose length and protocol
add up to a word. -/
theorem calculateChecksum_eq_upperLayer_iff (packet : Memory) :
    calculateChecksum packet = upperLayerChecksum packet ↔
      (payloadLength packet).toNat + (protocol packet).toNat < 65536 := by
  constructor
  · intro same
    by_contra carries
    exact calculateChecksum_of_carry (Nat.le_of_not_lt carries) same
  · exact calculateChecksum_of_noCarry

/-- A UDP header that states the longest payload. -/
def longestPayload : Memory :=
  store (fun _ => 0) 18 [0xFF, 0xFF, IP6_PROTO_UDP]

theorem longestPayload_carries :
    ¬ ∀ packet : Memory, calculateChecksum packet = upperLayerChecksum packet := by
  intro always
  have carries : 65536 ≤ (payloadLength longestPayload).toNat +
      (protocol longestPayload).toNat := by
    decide
  exact calculateChecksum_of_carry carries (always longestPayload)

end IPv6Packet

end EtherSiaStack
