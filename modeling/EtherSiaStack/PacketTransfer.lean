/-
Frames sent and received by way of the ENC28J60.

Between two calls of the driver the receiving side is at the start of a packet, and nothing
is being sent.  During a call the controller may receive at any point: the assertions name
the packets that are known to be in the ring, and leave open how many have come in behind
them.
-/

import EtherSiaStack.ControllerAccess
import EtherSiaStack.PacketRing

namespace EtherSiaStack

open ByteMemory Interference

namespace ENC28J60

open Controller (Event)

/-- What the receiving side does not use: the first byte written to the read limit, and the
pointers and the memory for sending. -/
structure SendSide where
  erxrdptLow : UInt8
  etxst : Nat
  ewrpt : Nat
  etxnd : Nat
  memory : Memory

def Controller.sendSide (c : Controller) : SendSide where
  erxrdptLow := c.erxrdptLow
  etxst := c.etxst
  ewrpt := c.ewrpt
  etxnd := c.etxnd
  memory := fun index => c.memory (4096 + index)

/-- `known` is in the ring with some packets behind it, and nothing is being sent. -/
structure Between (first released : Nat) (taken known : List (List UInt8)) (reading : Nat)
    (econ1 : UInt8) (sent : List (List UInt8)) (side : SendSide → Prop) (c : Controller) :
    Prop where
  receives : ∃ rest, Receiving first released taken (known ++ rest) reading c
  econ1 : c.econ1 = econ1
  transmitted : c.transmitted = sent
  side : side c.sendSide

section Between

variable {first released reading : Nat} {taken known sent : List (List UInt8)} {econ1 : UInt8}
  {side after : SendSide → Prop} {c : Controller}

theorem Receiving.keepsSendSide {pending : List (List UInt8)} {packet : List UInt8}
    {received : Controller} (receiving : Receiving first released taken pending reading c)
    (receives : c.Receives packet received) : received.sendSide = c.sendSide := by
  have places : ∀ pointer offset, c.ringPlace pointer offset = place pointer offset :=
    receiving.ringPlace_eq
  obtain ⟨-, -, -, keeps, rest⟩ := receives
  rw [rest]
  unfold Controller.sendSide
  congr 1
  funext index
  refine keeps _ fun offset _ same => ?_
  have inRing := place_lt c.erxwrpt offset
  rw [places] at same
  omega

theorem Between.stable (first released : Nat) (taken known : List (List UInt8)) (reading : Nat)
    {econ1 : UInt8} (idle : econ1 &&& ECON1_TXRTS = 0) (sent : List (List UInt8))
    (side : SendSide → Prop) :
    Stable Event (Between first released taken known reading econ1 sent side) := by
  intro before after holds event
  obtain ⟨⟨rest, receiving⟩, sameEcon1, sameSent, inSide⟩ := holds
  have apart : Apart before := by
    intro requested
    rw [sameEcon1] at requested
    exact absurd idle requested
  have added : ∃ rest, Receiving first released taken (known ++ rest) reading after := by
    obtain ⟨more, grown⟩ := receiving.event apart event
    rw [List.append_assoc] at grown
    exact ⟨_, grown⟩
  cases event with
  | clockReady _ => exact ⟨added, sameEcon1, sameSent, inSide⟩
  | packet _ _ receives =>
      have kept := receiving.keepsSendSide receives
      obtain ⟨-, -, -, -, rest⟩ := receives
      refine ⟨added, ?_, ?_, ?_⟩
      · rw [rest]
        exact sameEcon1
      · rw [rest]
        exact sameSent
      · rw [kept]
        exact inSide
  | corruption _ even =>
      have odd := receiving.odd
      omega
  | transmitted requested _ =>
      rw [sameEcon1] at requested
      exact absurd idle requested

theorem Between.bank (holds : Between first released taken known reading econ1 sent side c) :
    c.bank = econ1.toNat % 4 := by
  unfold Controller.bank
  rw [holds.econ1]

end Between

/-- Nothing but the sending side is different. -/
structure OnlySendSide (before after : Controller) : Prop where
  start : after.erxst = before.erxst
  stop : after.erxnd = before.erxnd
  increments : after.econ2 = before.econ2
  arrived : after.arrived = before.arrived
  released : after.released = before.released
  written : after.erxwrpt = before.erxwrpt
  limit : after.erxrdpt = before.erxrdpt
  read : after.erdpt = before.erdpt
  ring : ∀ address < 4096, after.memory address = before.memory address
  econ1 : after.econ1 = before.econ1
  transmitted : after.transmitted = before.transmitted

section Between

variable {first released reading : Nat} {taken known sent : List (List UInt8)} {econ1 : UInt8}
  {side after : SendSide → Prop} {c : Controller}

theorem Between.write (holds : Between first released taken known reading econ1 sent side c)
    {written : Controller} (only : OnlySendSide c written) (inSide : after written.sendSide) :
    Between first released taken known reading econ1 sent after written where
  receives := by
    obtain ⟨rest, receiving⟩ := holds.receives
    exact ⟨rest, receiving.congr only.start only.stop only.increments only.arrived
      only.released only.written only.limit only.read only.ring⟩
  econ1 := only.econ1.trans holds.econ1
  transmitted := only.transmitted.trans holds.transmitted
  side := inSide

theorem Between.weaken (holds : Between first released taken known reading econ1 sent side c)
    (implies : ∀ s, side s → after s) :
    Between first released taken known reading econ1 sent after c :=
  { holds with side := implies _ holds.side }

theorem onlySendSide_write (c : Controller) (data : UInt8) {address : Nat}
    (sending : address ∈ [2, 3, 4, 5, 6, 7, 0x0c]) :
    OnlySendSide c (c.writeBanked data 0 address) := by
  simp only [List.mem_cons, List.not_mem_nil, or_false] at sending
  rcases sending with rfl | rfl | rfl | rfl | rfl | rfl | rfl
  all_goals exact ⟨rfl, rfl, rfl, rfl, rfl, rfl, rfl, rfl, fun _ _ => rfl, rfl, rfl⟩

end Between

/-! ### Banks and registers -/

section Registers

variable {χ : Type} {bus : SpiBus χ} {view : χ → Port} {bank : UInt8} {localMac : MACAddress}
  {first released reading : Nat} {taken known sent : List (List UInt8)} {econ1 : UInt8}
  {side after : SendSide → Prop}

/-- Reception is on, and nothing is being sent, whichever bank has been chosen. -/
def Chooses (econ1 : UInt8) : Prop :=
  econ1 = ECON1_RXEN ∨ econ1 = ECON1_RXEN ||| 1 ∨ econ1 = ECON1_RXEN ||| 2 ∨
    econ1 = ECON1_RXEN ||| 3

theorem Chooses.idle (chooses : Chooses econ1) : econ1 &&& ECON1_TXRTS = 0 := by
  rcases chooses with rfl | rfl | rfl | rfl <;> rfl

theorem Chooses.next (chooses : Chooses econ1) (newBank : UInt8) :
    (econ1 &&& 0xfc) ||| (newBank &&& 0x03) = ECON1_RXEN ||| (newBank &&& 0x03) := by
  rcases chooses with rfl | rfl | rfl | rfl <;> rfl

theorem macMiiAt_common (bank : UInt8) {reg : UInt8} (common : EIE ≤ reg) :
    macMiiAt bank reg = false := by
  have notBelow : ¬reg < EIE := UInt8.not_lt.mpr common
  have notAddress : ¬reg ≤ MAADR2 := by
    intro small
    exact absurd (UInt8.le_trans common small) (by decide)
  have notStatus : (reg == MISTAT) = false := by
    rw [beq_eq_false_iff_ne]
    rintro rfl
    exact absurd common (by decide)
  unfold macMiiAt
  rw [decide_eq_false notBelow, decide_eq_false notAddress, notStatus]
  split_ifs <;> rfl

theorem isMac_common (bank : Nat) {address : Nat} (common : 0x1b ≤ address) :
    Controller.isMac bank address = false := by
  unfold Controller.isMac
  rw [decide_eq_false_iff_not]
  omega

/-- Whatever the chip's bank is, and the one the driver remembers, `ECON1` is read and
written in one go, so that nothing is sent again. -/
theorem setregbank_triple (follows : Follows bus view) (chooses : Chooses econ1)
    {newBank : UInt8} (next : Chooses (ECON1_RXEN ||| (newBank &&& 0x03))) :
    Triple (Holds view localMac bank
        (Between first released taken known reading econ1 sent side)) (setregbank bus newBank)
      fun _ => Holds view localMac newBank (Between first released taken known reading
        (ECON1_RXEN ||| (newBank &&& 0x03)) sent side) := by
  have stable := Between.stable first released taken known reading chooses.idle sent side
  have reads := @readreg_triple χ bus view bank localMac _ ECON1
    (fun reply c => reply = econ1 ∧ Between first released taken known reading econ1 sent side c)
    follows stable (fun _ => (Stable.const _).and stable)
    (fun c _ => by
      rw [macMiiAt_common bank (by decide)]
      exact isMac_common _ (by decide))
    fun c holds => ⟨holds.econ1, holds⟩
  have written := Between.stable first released taken known reading next.idle sent side
  refine Triple.bind reads fun reply => ?_
  refine Triple.bind (writereg_triple follows ((Stable.const _).and stable) written
    fun c holds => ?_) fun _ => ?_
  · obtain ⟨rfl, between⟩ := holds
    rw [chooses.next]
    obtain ⟨rest, receiving⟩ := between.receives
    exact
      { receives := ⟨rest, receiving.congr rfl rfl rfl rfl rfl rfl rfl rfl fun _ _ => rfl⟩
        econ1 := rfl
        transmitted := between.transmitted
        side := between.side }
  · exact fun enc holds => ⟨rfl, holds.localMac, holds.chip⟩

/-- A register that only sending uses. -/
theorem send_register_triple (follows : Follows bus view) (chooses : Chooses econ1)
    (banked : econ1.toNat % 4 = 0) {reg data : UInt8}
    (sending : reg.toNat % 32 ∈ [2, 3, 4, 5, 6, 7, 0x0c])
    (effect : ∀ c : Controller, side c.sendSide →
      after (c.writeBanked data 0 (reg.toNat % 32)).sendSide) :
    Triple (Holds view localMac bank
        (Between first released taken known reading econ1 sent side)) (writereg bus reg data)
      fun _ => Holds view localMac bank
        (Between first released taken known reading econ1 sent after) := by
  refine writereg_triple follows (Between.stable _ _ _ _ _ chooses.idle _ _)
    (Between.stable _ _ _ _ _ chooses.idle _ _) fun c holds => ?_
  have address : reg.toNat % 32 < 0x1b := by
    simp only [List.mem_cons, List.not_mem_nil, or_false] at sending
    omega
  have banks : c.writeControl (reg.toNat % 32) data =
      c.writeBanked data 0 (reg.toNat % 32) := by
    have bank := holds.bank
    rw [banked] at bank
    unfold Controller.writeControl
    rw [if_neg (by omega), if_neg (by omega), if_neg (by omega), if_neg (by omega),
      if_neg (by omega), bank]
  rw [banks]
  exact holds.write (onlySendSide_write c data sending) (effect c holds.side)

end Registers

/-! ### Sending -/

/-- What is put on the wire for a frame: a control byte, and the bytes. -/
def packetOf (frame : List UInt8) : List UInt8 :=
  0x00 :: frame

/-- The pointers of a transmission, the memory it is taken from, and how much of it has been
written. -/
structure Loaded (bytes : List UInt8) (s : SendSide) : Prop where
  etxst : s.etxst = 0x1200
  ewrpt : s.ewrpt = 0x1200 + bytes.length
  memory : ∀ (index : Nat) (byte : UInt8), bytes[index]? = some byte →
    s.memory (0x200 + index) = byte

section Sending

variable {χ : Type} {bus : SpiBus χ} {view : χ → Port} {bank : UInt8} {localMac : MACAddress}
  {first released reading : Nat} {taken known sent : List (List UInt8)}

/-- A byte more of it. -/
theorem Loaded.writeBuffer {c : Controller} {bytes : List UInt8} (loaded : Loaded bytes c.sendSide)
    (increments : c.econ2 = ECON2_AUTOINC) (room : bytes.length < 3584 - 1) (data : UInt8) :
    OnlySendSide c (c.writeBuffer data) ∧ Loaded (bytes ++ [data]) (c.writeBuffer data).sendSide := by
  have pointer : c.ewrpt = 0x1200 + bytes.length := loaded.ewrpt
  have notFixed : ¬c.econ2 &&& ECON2_AUTOINC = 0 := by
    rw [increments]
    decide
  constructor
  · refine ⟨rfl, rfl, rfl, rfl, rfl, rfl, rfl, rfl, fun address inRing => ?_, rfl, rfl⟩
    exact Function.update_of_ne (by omega) _ _
  · constructor
    · exact loaded.etxst
    · change (if c.econ2 &&& ECON2_AUTOINC = 0 then c.ewrpt else (c.ewrpt + 1) % 8192) = _
      rw [if_neg notFixed, List.length_append, List.length_singleton]
      omega
    · intro index byte present
      change Function.update c.memory c.ewrpt data (4096 + (0x200 + index)) = byte
      by_cases inside : index < bytes.length
      · rw [List.getElem?_append_left inside] at present
        rw [Function.update_of_ne (by omega)]
        exact loaded.memory index byte present
      · rw [List.getElem?_append_right (by omega)] at present
        obtain ⟨last, isByte⟩ := List.getElem?_eq_some_iff.mp present
        rw [List.length_singleton] at last
        have here : 4096 + (0x200 + index) = c.ewrpt := by omega
        rw [here, Function.update_self, ← isByte, List.getElem_singleton]

theorem Between.writeBuffer {econ1 : UInt8} {c : Controller} {bytes : List UInt8}
    (holds : Between first released taken known reading econ1 sent (Loaded bytes) c)
    (room : bytes.length < 3584 - 1) (data : UInt8) :
    Between first released taken known reading econ1 sent (Loaded (bytes ++ [data]))
      (c.writeBuffer data) := by
  obtain ⟨rest, receiving⟩ := holds.receives
  obtain ⟨only, loaded⟩ := holds.side.writeBuffer receiving.increments room data
  exact holds.write only loaded

/-- The whole packet is in the memory, between the two pointers. -/
structure Complete (bytes : List UInt8) (s : SendSide) : Prop extends Loaded bytes s where
  etxnd : s.etxnd = 0x1200 + bytes.length - 1

theorem Complete.outgoing {c : Controller} {bytes : List UInt8}
    (complete : Complete bytes c.sendSide) (filled : bytes ≠ []) : c.outgoing = bytes := by
  have positive := List.length_pos_iff.mpr filled
  have start : c.etxst = 0x1200 := complete.etxst
  have stop : c.etxnd = 0x1200 + bytes.length - 1 := complete.etxnd
  have count : 0x1200 + bytes.length - 1 + 1 - 0x1200 = bytes.length := by omega
  unfold Controller.outgoing
  rw [start, stop, count]
  apply List.ext_getElem (bytesAt_length _ _ _)
  intro index _ inside
  have address : 0x1200 + index = 4096 + (0x200 + index) := by omega
  rw [bytesAt_getElem, address]
  exact complete.memory index _ (List.getElem?_eq_getElem inside)

/-- A transmission is under way or has ended; either way nothing happens to the packets that
have been received. -/
structure Transmits (first released : Nat) (taken known : List (List UInt8)) (reading : Nat)
    (sent : List (List UInt8)) (bytes : List UInt8) (c : Controller) : Prop where
  receives : ∃ rest, Receiving first released taken (known ++ rest) reading c
  progress : c.econ1 = ECON1_RXEN ||| ECON1_TXRTS ∧ c.transmitted = sent ∧
      Complete bytes c.sendSide ∨
    c.econ1 = ECON1_RXEN ∧ c.transmitted = sent ++ [bytes]

theorem Transmits.stable {bytes : List UInt8} (filled : bytes ≠ []) (fits : bytes.length ≤ 3577) :
    Stable Event (Transmits first released taken known reading sent bytes) := by
  intro before after holds event
  obtain ⟨⟨rest, receiving⟩, progress⟩ := holds
  have positive := List.length_pos_iff.mpr filled
  have apart : Apart before := by
    intro requested
    rcases progress with ⟨-, -, complete⟩ | ⟨ended, -⟩
    · have stop : before.etxnd = 0x1200 + bytes.length - 1 := complete.etxnd
      omega
    · rw [ended] at requested
      exact absurd rfl requested
  have added : ∃ rest, Receiving first released taken (known ++ rest) reading after := by
    obtain ⟨more, grown⟩ := receiving.event apart event
    rw [List.append_assoc] at grown
    exact ⟨_, grown⟩
  refine ⟨added, ?_⟩
  rcases progress with ⟨busy, notSent, complete⟩ | ⟨ended, isSent⟩
  · cases event with
    | clockReady _ => exact .inl ⟨busy, notSent, complete⟩
    | packet _ _ receives =>
        have kept := receiving.keepsSendSide receives
        obtain ⟨-, -, -, -, rest⟩ := receives
        rw [kept, rest]
        exact .inl ⟨busy, notSent, complete⟩
    | corruption _ even =>
        have odd := receiving.odd
        omega
    | transmitted _ _ =>
        refine .inr ⟨?_, ?_⟩
        · change before.econ1 &&& ~~~ECON1_TXRTS = _
          rw [busy]
          rfl
        · change before.transmitted ++ [before.outgoing] = _
          rw [notSent, complete.outgoing filled]
  · have idle : ECON1_RXEN &&& ECON1_TXRTS = 0 := rfl
    have between : Between first released taken known reading ECON1_RXEN (sent ++ [bytes])
        (fun _ => True) before := ⟨⟨rest, receiving⟩, ended, isSent, trivial⟩
    have still := Between.stable _ _ _ _ _ idle _ _ before after between event
    exact .inr ⟨still.econ1, still.transmitted⟩

theorem dataend_toNat {datalen : UInt16} (fits : datalen.toNat ≤ 3576) :
    (TX_BUF_START + datalen).toNat = 0x1200 + datalen.toNat := by
  have start : TX_BUF_START.toNat = 0x1200 := rfl
  rw [UInt16.toNat_add, start]
  omega

theorem low_toNat (word : UInt16) : (word &&& 0xff).toUInt8.toNat = word.toNat % 256 := by
  rw [UInt16.toNat_toUInt8, UInt16.toNat_and]
  have mask : (0xff : UInt16).toNat = 2 ^ 8 - 1 := rfl
  rw [mask, Nat.and_two_pow_sub_one_eq_mod]
  omega

theorem high_toNat (word : UInt16) : (word >>> 8).toUInt8.toNat = word.toNat / 256 := by
  have bound := word.toNat_lt
  rw [UInt16.toNat_toUInt8, UInt16.toNat_shiftRight]
  simp only [UInt16.reduceToNat, Nat.reduceMod, Nat.shiftRight_eq_div_pow]
  omega

theorem toInt16_passes {length : UInt16} (short : length.toNat < 32768) :
    length.toInt16.toNatClampNeg = length.toNat := by
  have word : length.toInt16 = Int16.ofNat length.toNat := by
    apply Int16.toBitVec_inj.mp
    change length.toBitVec = BitVec.ofNat 16 length.toNat
    rw [← UInt16.toNat_toBitVec, BitVec.ofNat_toNat, BitVec.setWidth_eq]
  rw [word, Int16.toNatClampNeg_ofNat_of_lt short]

section Request

variable {econ1 : UInt8} {side : SendSide → Prop}

/-- The bank with the pointers, and only the sending side is written. -/
theorem pointer_triple (follows : Follows bus view) (after : SendSide → Prop) {reg data : UInt8}
    (sending : reg.toNat % 32 ∈ [2, 3, 4, 5, 6, 7, 0x0c])
    (effect : ∀ c : Controller, side c.sendSide →
      after (c.writeBanked data 0 (reg.toNat % 32)).sendSide) :
    Triple (Holds view localMac ERXTX_BANK
        (Between first released taken known reading ECON1_RXEN sent side))
      (writereg bus reg data)
      fun _ => Holds view localMac ERXTX_BANK
        (Between first released taken known reading ECON1_RXEN sent after) :=
  send_register_triple follows (.inl rfl) rfl sending effect

theorem copy_triple (follows : Follows bus view) {memory : Memory} {data : Nat}
    {datalen : UInt16} (fits : datalen.toNat ≤ 3576) :
    Triple (Holds view localMac ERXTX_BANK (Between first released taken known reading ECON1_RXEN
        sent (Loaded [0x00])))
      (writedata bus memory data datalen.toInt16)
      fun _ => Holds view localMac ERXTX_BANK (Between first released taken known reading
        ECON1_RXEN sent (Loaded (packetOf (bytesAt memory data datalen.toNat)))) := by
  have length := bytesAt_length memory data datalen.toNat
  have copied := @writedata_triple χ bus view ERXTX_BANK localMac follows
    (fun index => Between first released taken known reading ECON1_RXEN sent
      (Loaded (packetOf ((bytesAt memory data datalen.toNat).take index))))
    (fun _ => Between.stable _ _ _ _ _ rfl _ _) datalen.toInt16 datalen.toNat
    (toInt16_passes (by omega)) memory data
    (by
      intro index inside c holds
      have size : (packetOf ((bytesAt memory data datalen.toNat).take index)).length =
          index + 1 := by
        rw [packetOf, List.length_cons, List.length_take_of_le (by omega)]
      have byte : (bytesAt memory data datalen.toNat)[index] = memory (data + index) :=
        bytesAt_getElem memory data datalen.toNat index (by omega)
      have grown := holds.writeBuffer (by omega) (memory (data + index))
      rw [packetOf, List.cons_append, ← byte, List.take_concat_get'] at grown
      rw [← byte]
      exact grown)
  have whole : (bytesAt memory data datalen.toNat).take datalen.toNat =
      bytesAt memory data datalen.toNat := List.take_of_length_le (by omega)
  rw [whole, List.take_zero] at copied
  exact copied

theorem clearRequest_triple (follows : Follows bus view) :
    Triple (Holds view localMac ERXTX_BANK
        (Between first released taken known reading ECON1_RXEN sent side))
      (clearregbitfield bus EIR EIR_TXIF)
      fun _ => Holds view localMac ERXTX_BANK
        (Between first released taken known reading ECON1_RXEN sent side) := by
  have stable : Stable Event
      (Between first released taken known reading ECON1_RXEN sent side) :=
    Between.stable _ _ _ _ _ rfl _ _
  refine clearregbitfield_triple follows (by decide) stable stable fun c holds => ?_
  have common : Controller.isMac c.bank (EIR.toNat % 32) = false := isMac_common _ (by decide)
  unfold Controller.clearBits
  rw [common]
  exact holds.write ⟨rfl, rfl, rfl, rfl, rfl, rfl, rfl, rfl, fun _ _ => rfl, rfl, rfl⟩ holds.side

theorem setRequest_triple (follows : Follows bus view) {bytes : List UInt8} (filled : bytes ≠ [])
    (fits : bytes.length ≤ 3577) :
    Triple (Holds view localMac ERXTX_BANK
        (Between first released taken known reading ECON1_RXEN sent (Complete bytes)))
      (setregbitfield bus ECON1 ECON1_TXRTS)
      fun _ => Holds view localMac ERXTX_BANK
        (Transmits first released taken known reading sent bytes) := by
  refine setregbitfield_triple follows (by decide) (Between.stable _ _ _ _ _ rfl _ _)
    (Transmits.stable filled fits) fun c holds => ?_
  have common : Controller.isMac c.bank (ECON1.toNat % 32) = false :=
    isMac_common _ (by decide)
  have requested : c.econ1 ||| ECON1_TXRTS = ECON1_RXEN ||| ECON1_TXRTS := by rw [holds.econ1]
  obtain ⟨rest, receiving⟩ := holds.receives
  unfold Controller.setBits
  rw [common]
  constructor
  · exact ⟨rest, receiving.congr rfl rfl rfl rfl rfl rfl rfl rfl fun _ _ => rfl⟩
  · exact .inl ⟨requested, holds.transmitted, holds.side⟩

/-- The packet is written behind the ring, and the transmission started. -/
theorem requestTransmission_triple (follows : Follows bus view) (chooses : Chooses econ1)
    (memory : Memory) (data : Nat) {datalen : UInt16} (fits : datalen.toNat ≤ 3576) :
    Triple (Holds view localMac bank
        (Between first released taken known reading econ1 sent side))
      (requestTransmission bus memory data datalen)
      fun _ => Holds view localMac ERXTX_BANK (Transmits first released taken known reading sent
        (packetOf (bytesAt memory data datalen.toNat))) := by
  have length := bytesAt_length memory data datalen.toNat
  have copied := @copy_triple χ bus view localMac first released reading taken known sent follows
    memory data datalen fits
  have size : (packetOf (bytesAt memory data datalen.toNat)).length = datalen.toNat + 1 := by
    rw [packetOf, List.length_cons, length]
  generalize packetOf (bytesAt memory data datalen.toNat) = packet at copied size ⊢
  have filled : packet ≠ [] := by
    rintro rfl
    cases size
  have dataend := dataend_toNat fits
  refine Triple.bind (setregbank_triple follows chooses (.inl rfl)) fun _ => ?_
  refine Triple.bind (pointer_triple follows (fun s => s.etxst % 256 = 0) (by decide)
    fun c _ => ?_) fun _ => ?_
  · change (c.etxst / 256 * 256 + 0) % 256 = 0
    omega
  refine Triple.bind (pointer_triple follows (fun s => s.etxst = 0x1200) (by decide)
    fun c low => ?_) fun _ => ?_
  · change c.etxst % 256 = 0 at low
    change 0x12 % 32 * 256 + c.etxst % 256 = 0x1200
    rw [low]
  refine Triple.bind (pointer_triple follows
    (fun s => s.etxst = 0x1200 ∧ s.ewrpt % 256 = 0) (by decide)
      fun c started => ⟨started, ?_⟩) fun _ => ?_
  · change (c.ewrpt / 256 * 256 + 0) % 256 = 0
    omega
  refine Triple.bind (pointer_triple follows (Loaded []) (by decide)
    fun c below => ⟨below.1, ?_, fun _ _ present => nomatch present⟩) fun _ => ?_
  · have low : c.ewrpt % 256 = 0 := below.2
    change 0x12 % 32 * 256 + c.ewrpt % 256 = 0x1200
    rw [low]
  refine Triple.bind (writedatabyte_triple follows (Between.stable _ _ _ _ _ rfl _ _)
    (Between.stable _ _ _ _ _ rfl _ _) fun c holds => holds.writeBuffer (by decide) 0x00)
      fun _ => Triple.bind copied fun _ => ?_
  refine Triple.bind (pointer_triple follows
    (fun s => Loaded packet s ∧ s.etxnd % 256 = (0x1200 + datalen.toNat) % 256) (by decide)
      fun c loaded => ⟨⟨loaded.etxst, loaded.ewrpt, loaded.memory⟩, ?_⟩) fun _ => ?_
  · change (c.etxnd / 256 * 256 + ((TX_BUF_START + datalen) &&& 0xff).toUInt8.toNat) % 256 = _
    rw [low_toNat, dataend]
    omega
  refine Triple.bind (pointer_triple follows (Complete packet) (by decide)
    fun c below => ⟨⟨below.1.etxst, below.1.ewrpt, below.1.memory⟩, ?_⟩) fun _ => ?_
  · have low : c.etxnd % 256 = (0x1200 + datalen.toNat) % 256 := below.2
    change ((TX_BUF_START + datalen) >>> 8).toUInt8.toNat % 32 * 256 + c.etxnd % 256 = _
    rw [high_toNat, dataend, low, size]
    omega
  exact Triple.bind (clearRequest_triple follows) fun _ =>
    setRequest_triple follows filled (by omega)

end Request

/-- The end of the transmission is seen in `ECON1`, and not before it. -/
theorem transmittingPass_keeps (follows : Follows bus view) {bytes : List UInt8}
    (filled : bytes ≠ []) (fits : bytes.length ≤ 3577) {enc : ENC28J60 χ}
    (holds : Holds view localMac ERXTX_BANK
      (Transmits first released taken known reading sent bytes) enc) :
    (∀ next, transmittingPass bus enc = .inl next → Holds view localMac ERXTX_BANK
      (Transmits first released taken known reading sent bytes) next) ∧
    ∀ last, transmittingPass bus enc = .inr last → Holds view localMac ERXTX_BANK
      (Between first released taken known reading ECON1_RXEN (sent ++ [bytes]) fun _ => True)
        last := by
  have stable : Stable Event (Transmits first released taken known reading sent bytes) :=
    Transmits.stable filled fits
  have ended : Stable Event (Between first released taken known reading ECON1_RXEN
      (sent ++ [bytes]) fun _ => True) := Between.stable _ _ _ _ _ rfl _ _
  have polls := @readreg_triple χ bus view ERXTX_BANK localMac _ ECON1
    (fun reply c => if reply &&& ECON1_TXRTS > 0 then
        Transmits first released taken known reading sent bytes c
      else Between first released taken known reading ECON1_RXEN (sent ++ [bytes])
        (fun _ => True) c)
    follows stable (fun reply => by
      by_cases busy : reply &&& ECON1_TXRTS > 0
      · simp only [if_pos busy]
        exact stable
      · simp only [if_neg busy]
        exact ended)
    (fun c _ => by
      rw [macMiiAt_common ERXTX_BANK (by decide)]
      exact isMac_common _ (by decide))
    (fun c transmits => by
      change if c.econ1 &&& ECON1_TXRTS > 0 then _ else _
      by_cases busy : c.econ1 &&& ECON1_TXRTS > 0
      · rw [if_pos busy]
        exact transmits
      · rw [if_neg busy]
        rcases transmits.progress with ⟨underWay, -⟩ | ⟨idle, isSent⟩
        · rw [underWay] at busy
          exact absurd (by decide) busy
        · exact ⟨transmits.receives, idle, isSent, trivial⟩)
  have polled := polls enc holds
  unfold transmittingPass
  rcases answer : (readreg bus ECON1).run enc with ⟨econ1, after⟩
  rw [answer] at polled
  dsimp only at polled ⊢
  by_cases busy : econ1 &&& ECON1_TXRTS > 0
  · simp only [if_pos busy] at polled ⊢
    refine ⟨?_, fun _ impossible => nomatch impossible⟩
    rintro next ⟨⟩
    exact polled
  · simp only [if_neg busy] at polled ⊢
    refine ⟨fun _ impossible => (nomatch impossible), ?_⟩
    rintro last ⟨⟩
    exact polled

/-- A call that returns has put the frame on the wire, and has left the packets in the ring
alone. -/
theorem sendFrame_sends (follows : Follows bus view) {econ1 : UInt8} (chooses : Chooses econ1)
    {side : SendSide → Prop} {memory : Memory} {data : Nat} {datalen : UInt16}
    (fits : datalen.toNat ≤ 3576) {enc : ENC28J60 χ}
    (holds : Holds view localMac bank
      (Between first released taken known reading econ1 sent side) enc)
    {fuel : Nat} {result : UInt16 × ENC28J60 χ}
    (returned : sendFrame bus fuel memory data datalen enc = some result) :
    result.1 = datalen ∧ Holds view localMac ERXTX_BANK
      (Between first released taken known reading ECON1_RXEN
        (sent ++ [packetOf (bytesAt memory data datalen.toNat)]) fun _ => True) result.2 := by
  have requested := requestTransmission_triple follows chooses memory data fits enc holds
  have filled : packetOf (bytesAt memory data datalen.toNat) ≠ [] := List.cons_ne_nil _ _
  have size : (packetOf (bytesAt memory data datalen.toNat)).length ≤ 3577 := by
    rw [packetOf, List.length_cons, bytesAt_length]
    omega
  obtain ⟨last, ran, rfl⟩ := Option.map_eq_some_iff.mp returned
  refine ⟨rfl, ?_⟩
  exact FuelLoop.run_invariant _ _
    (fun _ next inside => (transmittingPass_keeps follows filled size inside).1 next)
    (fun _ last inside => (transmittingPass_keeps follows filled size inside).2 last) requested ran

end Sending

end ENC28J60

end EtherSiaStack
