/-
Frames read out of the ring of the ENC28J60.

A call goes through one packet byte by byte, and leaves the read pointer, which it never
writes, at the start of the next; only then it moves the read limit and counts the packet
off.
-/

import EtherSiaStack.LinkLayer
import EtherSiaStack.PacketTransfer

namespace EtherSiaStack

open ByteMemory Interference

namespace ENC28J60

open Controller (Event)

/-! ### Byte by byte -/

section Reading

variable {first released reading : Nat} {taken pending known sent : List (List UInt8)}
  {packet : List UInt8} {econ1 : UInt8} {side : SendSide → Prop} {c : Controller}

theorem Receiving.readBuffer (receiving : Receiving first released taken pending reading c) :
    Receiving first released taken pending (reading + 1) c.readBuffer.2 := by
  have cursor := receiving.cursor
  have inRing := place_lt first reading
  have moves : ¬c.econ2 &&& ECON2_AUTOINC = 0 := by
    rw [receiving.increments]
    decide
  have next : c.nextRead = place first (reading + 1) := by
    unfold Controller.nextRead
    rw [if_neg moves, receiving.start, receiving.stop, cursor]
    unfold place RingBuffer.position at inRing ⊢
    split_ifs with atEnd <;> omega
  exact { receiving with cursor := next }

theorem Between.readBuffer (holds : Between first released taken known reading econ1 sent side c) :
    Between first released taken known (reading + 1) econ1 sent side c.readBuffer.2 where
  receives := by
    obtain ⟨rest, receiving⟩ := holds.receives
    exact ⟨rest, receiving.readBuffer⟩
  econ1 := holds.econ1
  transmitted := holds.transmitted
  side := holds.side

/-- The bytes that are known before a packet has been read: where the next one is, and the
length. -/
def knownHeader (first : Nat) (packet : List UInt8) : List UInt8 :=
  [UInt8.ofNat (place first (span packet)), UInt8.ofNat (place first (span packet) / 256),
    UInt8.ofNat packet.length, UInt8.ofNat (packet.length / 256)]

theorem Between.headerByte
    (holds : Between first released taken (packet :: known) reading econ1 sent side c)
    {byte : UInt8} (present : (knownHeader first packet)[reading]? = some byte) :
    c.readBuffer.1 = byte := by
  obtain ⟨rest, receiving⟩ := holds.receives
  obtain ⟨⟨status0, status1, bytes⟩, -⟩ := receiving.linked
  obtain ⟨inside, -⟩ := List.getElem?_eq_some_iff.mp present
  have there := bytes reading byte (by
    have split : header (place first (span packet)) packet status0 status1 ++ packet =
        knownHeader first packet ++ (status0 :: status1 :: packet) := rfl
    rw [split, List.getElem?_append_left inside]
    exact present)
  change c.memory c.erdpt = byte
  rw [receiving.cursor]
  exact there

theorem Between.packetByte {index : Nat}
    (holds : Between first released taken (packet :: known) (6 + index) econ1 sent side c)
    (inside : index < packet.length) : c.readBuffer.1 = packet[index] := by
  obtain ⟨rest, receiving⟩ := holds.receives
  obtain ⟨⟨status0, status1, bytes⟩, -⟩ := receiving.linked
  have there := bytes (6 + index) packet[index] (by
    rw [List.getElem?_append_right (by rw [header_length]; omega), header_length,
      Nat.add_sub_cancel_left]
    exact List.getElem?_eq_getElem inside)
  change c.memory c.erdpt = _
  rw [receiving.cursor]
  exact there

/-- A packet is as long as its length says. -/
theorem Between.length_lt
    (holds : Between first released taken (packet :: known) reading econ1 sent side c) :
    packet.length < 4089 := by
  obtain ⟨rest, receiving⟩ := holds.receives
  have fits := receiving.fits
  rw [List.cons_append, used_cons] at fits
  unfold span at fits
  omega

/-- With the limit moved on to the end of the packet, the next one is the first. -/
theorem Receiving.release
    (receiving : Receiving first released taken (packet :: pending) (span packet) c)
    {moved : Controller} (limit : moved.erxrdpt = place first (span packet + 4095))
    (rest : moved = { c with erxrdpt := moved.erxrdpt }) :
    Receiving (place first (span packet)) released (taken ++ [packet]) pending 0 moved := by
  have even := span_even packet
  have firstEven := receiving.even
  have fits := receiving.fits
  have behind := receiving.behind
  have arrived := receiving.arrived
  have cursor := receiving.cursor
  have written := receiving.written
  have linked := receiving.linked.2
  rw [used_cons] at fits written
  rw [← place_place] at written
  rw [rest]
  constructor
  · exact receiving.start
  · exact receiving.stop
  · exact receiving.increments
  · exact place_lt _ _
  · unfold place RingBuffer.position
    omega
  · change c.arrived = _
    rw [arrived, List.append_assoc, List.singleton_append]
  · exact receiving.releases
  · rw [List.length_append]
    omega
  · exact receiving.counted
  · exact linked
  · omega
  · exact written
  · change moved.erxrdpt = _
    rw [limit, place_place]
  · change c.erdpt = _
    rw [cursor, place_zero (place_lt _ _)]

end Reading

/-! ### A call -/

theorem word_bytes (number : Nat) :
    ((UInt8.ofNat (number / 256)).toUInt16 <<< 8) + (UInt8.ofNat number).toUInt16 =
      UInt16.ofNat number := by
  apply UInt16.toNat_inj.mp
  rw [UInt16.toNat_add, UInt16.toNat_shiftLeft, UInt8.toNat_toUInt16, UInt8.toNat_toUInt16,
    UInt8.toNat_ofNat', UInt8.toNat_ofNat', UInt16.toNat_ofNat']
  simp only [UInt16.reduceToNat, Nat.reduceMod, Nat.shiftLeft_eq]
  omega

/-- The byte before a place of the ring, as the driver works it out. -/
theorem before_toNat {next : Nat} (inside : next < 4096) :
    (if UInt16.ofNat next = RX_BUF_START then RX_BUF_END else UInt16.ofNat next - 1).toNat =
      place next 4095 := by
  have value : (UInt16.ofNat next).toNat = next :=
    UInt16.toNat_ofNat_of_lt' (Nat.lt_of_lt_of_le inside (by decide))
  have zero : UInt16.ofNat next = RX_BUF_START ↔ next = 0 := by
    rw [← UInt16.toNat_inj, value]
    rfl
  unfold place RingBuffer.position
  by_cases first : next = 0
  · rw [if_pos (zero.mpr first), first]
    rfl
  · rw [if_neg (mt zero.mp first), UInt16.toNat_sub, value]
    have one : (1 : UInt16).toNat = 1 := rfl
    rw [one]
    omega

section Calls

variable {χ : Type} {bus : SpiBus χ} {view : χ → Port} {bank : UInt8} {localMac : MACAddress}
  {first released reading : Nat} {taken known sent : List (List UInt8)} {packet : List UInt8}
  {econ1 : UInt8} {side : SendSide → Prop}

/-- A byte whose value does not matter. -/
theorem skip_triple (follows : Follows bus view) (chooses : Chooses econ1) :
    Triple (Holds view localMac bank
        (Between first released taken known reading econ1 sent side)) (readdatabyte bus)
      fun _ => Holds view localMac bank
        (Between first released taken known (reading + 1) econ1 sent side) :=
  readdatabyte_triple follows (Between.stable _ _ _ _ _ chooses.idle _ _)
    (fun _ => Between.stable _ _ _ _ _ chooses.idle _ _) fun _ holds => holds.readBuffer

theorem headerByte_triple (follows : Follows bus view) (chooses : Chooses econ1) {byte : UInt8}
    (present : (knownHeader first packet)[reading]? = some byte) :
    Triple (Holds view localMac bank
        (Between first released taken (packet :: known) reading econ1 sent side))
      (readdatabyte bus) fun value enc => value = byte ∧ Holds view localMac bank
        (Between first released taken (packet :: known) (reading + 1) econ1 sent side) enc := by
  have stable (reading : Nat) : Stable Event
      (Between first released taken (packet :: known) reading econ1 sent side) :=
    Between.stable _ _ _ _ _ chooses.idle _ _
  have reads := @readdatabyte_triple χ bus view bank localMac _ follows
    (fun value c => value = byte ∧
      Between first released taken (packet :: known) (reading + 1) econ1 sent side c)
    (stable reading) (fun _ => (Stable.const _).and (stable (reading + 1)))
    fun c holds => ⟨holds.headerByte present, holds.readBuffer⟩
  exact fun enc holds =>
    have read := reads enc holds
    ⟨read.chip.1, read.bank, read.localMac, read.chip.2⟩

/-- A packet that has room is copied. -/
theorem copyPacket_triple (follows : Follows bus view) (chooses : Chooses econ1)
    (buffer : Nat) (memory : Memory) {len : UInt16} (length : len.toNat = packet.length)
    (short : packet.length < 4089) :
    Triple (Holds view localMac bank
        (Between first released taken (packet :: known) 6 econ1 sent side))
      (readdata bus buffer len.toInt16 memory) fun after enc =>
        after = store memory buffer packet ∧ Holds view localMac bank
          (Between first released taken (packet :: known) (6 + packet.length) econ1 sent side)
            enc :=
  @readdata_triple χ bus view bank localMac follows
    (fun index => Between first released taken (packet :: known) (6 + index) econ1 sent side)
    (fun _ => Between.stable _ _ _ _ _ chooses.idle _ _) packet len.toInt16
    ((toInt16_passes (by omega)).trans length)
    (fun _ inside _ holds => ⟨holds.packetByte inside, holds.readBuffer⟩) buffer memory

/-- One that has none is read and dropped. -/
theorem flush_triple (follows : Follows bus view) (chooses : Chooses econ1) {len : UInt16} :
    Triple (Holds view localMac bank (Between first released taken known 6 econ1 sent side))
      (flush bus len) fun _ => Holds view localMac bank
        (Between first released taken known (6 + len.toNat) econ1 sent side) := by
  have passes : ∀ index < len.toNat, ∀ value : Unit, Triple (Holds view localMac bank
      (Between first released taken known (6 + index) econ1 sent side)) (do
        let _ ← readdatabyte bus
        return ()) fun _ => Holds view localMac bank
          (Between first released taken known (6 + (index + 1)) econ1 sent side) :=
    fun _ _ _ => Triple.bind (skip_triple follows chooses) fun _ _ holds => holds
  exact @Triple.times (ENC28J60 χ) Unit
    (fun index _ => Holds view localMac bank
      (Between first released taken known (6 + index) econ1 sent side)) _ len.toNat passes
    len.toNat 0 (Nat.zero_add _) ()

/-- The first byte of the limit is kept back, -/
theorem limitLow_triple (follows : Follows bus view) (next : UInt16) :
    Triple (Holds view localMac bank
        (Between first released taken known reading ECON1_RXEN sent side))
      (writereg bus ERXRDPTL (next &&& 0xff).toUInt8) fun _ => Holds view localMac bank
        (Between first released taken known reading ECON1_RXEN sent
          fun s => s.erxrdptLow.toNat = next.toNat % 256) :=
  send_register_triple follows (.inl rfl) rfl (by decide) fun _ _ => low_toNat next

/-- and with the second the packet has been read. -/
theorem limitHigh_triple (follows : Follows bus view) {next : UInt16}
    (value : next.toNat = place first (span packet + 4095)) :
    Triple (Holds view localMac bank (Between first released taken (packet :: known)
        (span packet) ECON1_RXEN sent fun s => s.erxrdptLow.toNat = next.toNat % 256))
      (writereg bus ERXRDPTH (next >>> 8).toUInt8) fun _ =>
        Holds view localMac bank (Between (place first (span packet)) released
          (taken ++ [packet]) known 0 ECON1_RXEN sent fun _ => True) := by
  have small : next.toNat < 4096 := by
    rw [value]
    exact place_lt _ _
  refine writereg_triple follows (Between.stable _ _ _ _ _ rfl _ _)
    (Between.stable _ _ _ _ _ rfl _ _) fun c holds => ?_
  obtain ⟨⟨rest, receiving⟩, control, isSent, low⟩ := id holds
  have inBank := holds.bank
  have writes : c.writeControl (ERXRDPTH.toNat % 32) (next >>> 8).toUInt8 =
      c.writeBanked (next >>> 8).toUInt8 c.bank 0x0d := rfl
  rw [writes, inBank]
  refine ⟨⟨rest, receiving.release ?_ rfl⟩, control, isSent, trivial⟩
  change c.erxrdptLow.toNat = _ at low
  change (next >>> 8).toUInt8.toNat % 32 * 256 + c.erxrdptLow.toNat % 256 = _
  rw [high_toNat, low, ← value]
  omega

theorem countOff_triple (follows : Follows bus view) (behind : released < taken.length) :
    Triple (Holds view localMac ERXTX_BANK
        (Between first released taken known reading ECON1_RXEN sent side))
      (setregbitfield bus ECON2 ECON2_PKTDEC) fun _ => Holds view localMac ERXTX_BANK
        (Between first (released + 1) taken known reading ECON1_RXEN sent side) := by
  refine setregbitfield_triple follows (by decide) (Between.stable _ _ _ _ _ rfl _ _)
    (Between.stable _ _ _ _ _ rfl _ _) fun c holds => ?_
  obtain ⟨⟨rest, receiving⟩, control, isSent, inSide⟩ := holds
  have common : Controller.isMac c.bank (ECON2.toNat % 32) = false :=
    isMac_common _ (by decide)
  have limited := receiving.counted
  unfold Controller.setBits
  rw [common]
  have counted : Receiving first (released + 1) taken (known ++ rest) reading
      (c.writeControl (ECON2.toNat % 32) (c.readControl (ECON2.toNat % 32) ||| ECON2_PKTDEC)) :=
    { receiving with
      increments := by
        change (c.econ2 ||| ECON2_PKTDEC) &&& ~~~ECON2_PKTDEC = _
        rw [receiving.increments]
        rfl
      releases := by
        change (if (c.econ2 ||| ECON2_PKTDEC) &&& ECON2_PKTDEC = 0 then c.released
          else c.released + 1) = _
        rw [receiving.increments, receiving.releases]
        rfl
      behind := behind
      counted := by
        change c.arrived.length ≤ _
        omega }
  exact ⟨⟨rest, counted⟩, control, isSent, inSide⟩

/-- Whether or not it has room, the packet is gone through to its end. -/
theorem readBody_triple (follows : Follows bus view) (chooses : Chooses econ1)
    (buffer : Nat) (bufsize : UInt16) (memory : Memory) {len : UInt16}
    (length : len.toNat = packet.length) (short : packet.length < 4089) :
    Triple (Holds view localMac bank
        (Between first released taken (packet :: known) 6 econ1 sent side))
      (readBody bus buffer bufsize len memory) fun body enc =>
        (if body.1 then 0 else len, body.2) = delivered buffer bufsize memory packet ∧
          Holds view localMac bank (Between first released taken (packet :: known)
            (6 + packet.length) econ1 sent side) enc := by
  have isLength : UInt16.ofNat packet.length = len := by rw [← length, UInt16.ofNat_toNat]
  have roomIff : bufsize ≥ len ↔ packet.length ≤ bufsize.toNat := by
    rw [ge_iff_le, UInt16.le_iff_toNat_le, length]
  unfold delivered
  refine Triple.ite (fun room => ?_) fun tooLong => ?_
  · rw [if_pos (roomIff.mp room), isLength]
    refine Triple.bind (copyPacket_triple follows chooses buffer memory length short)
      fun after => Triple.fact fun stored enc holds => ⟨?_, holds⟩
    rw [← stored]
    rfl
  · rw [if_neg (mt roomIff.mpr tooLong), ← length]
    exact Triple.bind (flush_triple follows chooses) fun _ enc holds => ⟨rfl, holds⟩

theorem readPadding_triple (follows : Follows bus view) (chooses : Chooses econ1) {len : UInt16}
    (length : len.toNat = packet.length) :
    Triple (Holds view localMac bank
        (Between first released taken known (6 + packet.length) econ1 sent side))
      (readPadding bus len) fun _ => Holds view localMac bank
        (Between first released taken known (span packet) econ1 sent side) := by
  have oddIff : len % 2 ≠ 0 ↔ packet.length % 2 = 1 := by
    have two : (2 : UInt16).toNat = 2 := rfl
    have zero : (0 : UInt16).toNat = 0 := rfl
    rw [Ne, ← UInt16.toNat_inj, UInt16.toNat_mod, length, two, zero]
    omega
  refine Triple.ite (fun odd => ?_) fun even => ?_
  · have padded : span packet = 6 + packet.length + 1 := by
      rw [span, oddIff.mp odd]
    rw [padded]
    exact Triple.bind (skip_triple follows chooses) fun _ _ holds => holds
  · have exact_ : span packet = 6 + packet.length := by
      have notOdd := mt oddIff.mpr even
      unfold span
      omega
    rw [exact_]
    exact fun _ holds => holds

/-- A call with packets in the ring takes the first, and is at the start of the next when it
returns. -/
theorem readPacket_triple (follows : Follows bus view) (chooses : Chooses econ1)
    (buffer : Nat) (bufsize : UInt16) (memory : Memory) :
    Triple (Holds view localMac bank
        (Between first taken.length taken (packet :: known) 0 econ1 sent side))
      (readPacket bus buffer bufsize memory) fun result enc =>
        result = delivered buffer bufsize memory packet ∧ Holds view localMac ERXTX_BANK
          (Between (place first (span packet)) (taken.length + 1) (taken ++ [packet]) known 0
            ECON1_RXEN sent fun _ => True) enc := by
  have chosen : Chooses ECON1_RXEN := .inl rfl
  refine Triple.known (fun enc holds => holds.chip.length_lt) fun short => ?_
  have length : (UInt16.ofNat packet.length).toNat = packet.length :=
    UInt16.toNat_ofNat_of_lt' (short.trans (by decide))
  have nextInside := place_lt first (span packet)
  have limit := before_toNat nextInside
  rw [place_place] at limit
  unfold readPacket
  refine Triple.bind (setregbank_triple follows chooses chosen) fun _ =>
    Triple.bind (headerByte_triple follows chosen rfl) fun nxtpkt0 => Triple.fact fun next0 =>
    Triple.bind (headerByte_triple follows chosen rfl) fun nxtpkt1 => Triple.fact fun next1 =>
    Triple.bind (headerByte_triple follows chosen rfl) fun length0 => Triple.fact fun len0 =>
    Triple.bind (headerByte_triple follows chosen rfl) fun length1 => Triple.fact fun len1 =>
    Triple.bind (skip_triple follows chosen) fun _ =>
    Triple.bind (skip_triple follows chosen) fun _ => ?_
  subst next0 next1 len0 len1
  simp only [word_bytes]
  refine Triple.bind (readBody_triple follows chosen buffer bufsize memory length short)
    fun body => Triple.fact fun result => ?_
  refine Triple.bind (readPadding_triple follows chosen length) fun _ => ?_
  refine Triple.bind (limitLow_triple follows _) fun _ =>
    Triple.bind (limitHigh_triple follows limit) fun _ => ?_
  have behind : taken.length < (taken ++ [packet]).length := by
    rw [List.length_append]
    exact Nat.lt_succ_self _
  exact Triple.bind (countOff_triple follows behind) fun _ enc holds => ⟨result, holds⟩

/-- The count tells whether a packet was in the ring when it was read. -/
theorem packetCount_triple (follows : Follows bus view) :
    Triple (Holds view localMac EPKTCNT_BANK
        (Between first taken.length taken known 0 (ECON1_RXEN ||| 1) sent side))
      (readreg bus EPKTCNT) fun n => Holds view localMac EPKTCNT_BANK fun c =>
        (n = 0 → known = [] ∧
          Between first taken.length taken [] 0 (ECON1_RXEN ||| 1) sent side c) ∧
        (n ≠ 0 → ∃ packet others, known <+: packet :: others ∧
          Between first taken.length taken (packet :: others) 0 (ECON1_RXEN ||| 1) sent side
            c) := by
  have stable (known : List (List UInt8)) : Stable Event
      (Between first taken.length taken known 0 (ECON1_RXEN ||| 1) sent side) :=
    Between.stable _ _ _ _ _ rfl _ _
  refine readreg_triple follows (stable known) (fun n => ?_) (fun c holds => ?_)
    fun c holds => ?_
  · intro before after holds event
    refine ⟨fun zero => ?_, fun nonzero => ?_⟩
    · obtain ⟨empty, between⟩ := holds.1 zero
      exact ⟨empty, stable [] _ _ between event⟩
    · obtain ⟨packet, others, isPrefix, between⟩ := holds.2 nonzero
      exact ⟨packet, others, isPrefix, stable _ _ _ between event⟩
  · rw [holds.bank]
    rfl
  · obtain ⟨⟨rest, receiving⟩, control, isSent, inSide⟩ := id holds
    have inBank := holds.bank
    have counts : c.readControl (EPKTCNT.toNat % 32) = c.readBanked c.bank 0x19 := rfl
    have limited := receiving.counted
    have count : c.packetCount = (known ++ rest).length := by
      unfold Controller.packetCount
      rw [receiving.arrived, receiving.releases, List.length_append, Nat.add_sub_cancel_left]
    rw [receiving.arrived, List.length_append] at limited
    rw [counts, inBank]
    change (UInt8.ofNat c.packetCount = 0 → _) ∧ (UInt8.ofNat c.packetCount ≠ 0 → _)
    have zeroIff : UInt8.ofNat c.packetCount = 0 ↔ known ++ rest = [] := by
      rw [← UInt8.toNat_inj, UInt8.toNat_ofNat', count, ← List.length_eq_zero_iff]
      have zero : (0 : UInt8).toNat = 0 := rfl
      rw [zero]
      omega
    refine ⟨fun zero => ?_, fun nonzero => ?_⟩
    · obtain ⟨rfl, rfl⟩ := List.append_eq_nil_iff.mp (zeroIff.mp zero)
      exact ⟨rfl, ⟨[], receiving⟩, control, isSent, inSide⟩
    · cases whole : known ++ rest with
      | nil => exact absurd (zeroIff.mpr whole) nonzero
      | cons packet others =>
          have isPrefix : known <+: packet :: others := ⟨rest, whole⟩
          rw [whole] at receiving
          refine ⟨packet, others, isPrefix, ⟨[], ?_⟩, control, isSent, inSide⟩
          rw [List.append_nil]
          exact receiving

/-- A call takes the first packet, and takes none only if there was none when it began. -/
theorem readFrame_triple (follows : Follows bus view) (chooses : Chooses econ1)
    (buffer : Nat) (bufsize : UInt16) (memory : Memory) :
    Triple (Holds view localMac bank
        (Between first taken.length taken known 0 econ1 sent side))
      (readFrame bus buffer bufsize memory) fun result enc =>
        (known = [] ∧ result = (0, memory) ∧ Holds view localMac EPKTCNT_BANK
          (Between first taken.length taken [] 0 (ECON1_RXEN ||| 1) sent side) enc) ∨
        ∃ packet others, known <+: packet :: others ∧
          result = delivered buffer bufsize memory packet ∧ Holds view localMac ERXTX_BANK
            (Between (place first (span packet)) (taken.length + 1) (taken ++ [packet]) others 0
              ECON1_RXEN sent fun _ => True) enc := by
  have chosen : Chooses (ECON1_RXEN ||| 1) := .inr (.inl rfl)
  unfold readFrame
  refine Triple.bind (setregbank_triple follows chooses chosen) fun _ =>
    Triple.bind (packetCount_triple follows) fun n => Triple.ite (fun zero => ?_) fun nonzero => ?_
  · intro enc holds
    obtain ⟨empty, between⟩ := holds.chip.1 zero
    exact .inl ⟨empty, rfl, holds.bank, holds.localMac, between⟩
  · intro enc holds
    obtain ⟨packet, others, isPrefix, between⟩ := holds.chip.2 nonzero
    obtain ⟨result, left⟩ := readPacket_triple follows chosen buffer bufsize memory enc
      ⟨holds.bank, holds.localMac, between⟩
    exact .inr ⟨packet, others, isPrefix, result, left⟩

end Calls

end ENC28J60

end EtherSiaStack
