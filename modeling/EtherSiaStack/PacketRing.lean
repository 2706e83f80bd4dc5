/-
Packets in the ring of the ENC28J60.

Each packet is behind a pointer to the next and its own length, and is padded to an even
number of bytes.  The driver has read some packets and is inside the next one; the read
limit is the byte before it, so that the controller can add packets but not change any that
is still to be read.
-/

import EtherSiaStack.EthernetController

namespace EtherSiaStack

open ByteMemory Interference

namespace ENC28J60

open Controller (Event)

/-! ### The ring -/

/-- The ring is the first 4 KiB of the memory. -/
def place (pointer offset : Nat) : Nat :=
  RingBuffer.position 4096 pointer offset

/-- The places of packets one behind the other. -/
def used (packets : List (List UInt8)) : Nat :=
  (packets.map span).sum

/-- A packet, and what is before it, is in the ring from a place on. -/
def Stored (memory : Memory) (first : Nat) (packet : List UInt8) : Prop :=
  ∃ status0 status1, ∀ (index : Nat) (byte : UInt8),
    (header (place first (span packet)) packet status0 status1 ++ packet)[index]? = some byte →
      memory (place first index) = byte

def Linked (memory : Memory) : Nat → List (List UInt8) → Prop
  | _, [] => True
  | first, packet :: rest =>
      Stored memory first packet ∧ Linked memory (place first (span packet)) rest

theorem place_lt (pointer offset : Nat) : place pointer offset < 4096 :=
  RingBuffer.position_lt (by decide)

theorem place_place (pointer count offset : Nat) :
    place (place pointer count) offset = place pointer (count + offset) := by
  unfold place RingBuffer.position
  omega

theorem place_injective {pointer first second : Nat} (firstInside : first < 4096)
    (secondInside : second < 4096) (same : place pointer first = place pointer second) :
    first = second :=
  RingBuffer.position_injective firstInside secondInside same

theorem place_zero {pointer : Nat} (inside : pointer < 4096) : place pointer 0 = pointer := by
  unfold place RingBuffer.position
  omega

theorem span_even (packet : List UInt8) : span packet % 2 = 0 := by
  unfold span
  omega

@[simp] theorem used_nil : used [] = 0 :=
  rfl

@[simp] theorem used_cons (packet : List UInt8) (rest : List (List UInt8)) :
    used (packet :: rest) = span packet + used rest :=
  rfl

theorem used_append (left right : List (List UInt8)) :
    used (left ++ right) = used left + used right := by
  unfold used
  rw [List.map_append, List.sum_append]

theorem used_even (packets : List (List UInt8)) : used packets % 2 = 0 := by
  induction packets with
  | nil => rfl
  | cons packet rest ih =>
      have even := span_even packet
      rw [used_cons]
      omega

theorem header_length (next : Nat) (packet : List UInt8) (status0 status1 : UInt8) :
    (header next packet status0 status1).length = 6 :=
  rfl

theorem stored_index {next index : Nat} {packet : List UInt8} {status0 status1 byte : UInt8}
    (present : (header next packet status0 status1 ++ packet)[index]? = some byte) :
    index < span packet := by
  obtain ⟨inside, -⟩ := List.getElem?_eq_some_iff.mp present
  rw [List.length_append, header_length] at inside
  unfold span
  omega

/-- Only the places of the packet matter. -/
theorem Stored.congr {left right : Memory} {first : Nat} {packet : List UInt8}
    (stored : Stored left first packet)
    (same : ∀ offset < span packet, right (place first offset) = left (place first offset)) :
    Stored right first packet := by
  obtain ⟨status0, status1, bytes⟩ := stored
  exact ⟨status0, status1, fun index byte present =>
    (same index (stored_index present)).trans (bytes index byte present)⟩

theorem Linked.congr {left right : Memory} {first : Nat} {packets : List (List UInt8)}
    (linked : Linked left first packets)
    (same : ∀ offset < used packets, right (place first offset) = left (place first offset)) :
    Linked right first packets := by
  induction packets generalizing first with
  | nil => trivial
  | cons packet rest ih =>
      rw [used_cons] at same
      refine ⟨linked.1.congr fun offset inside => same offset (by omega), ih linked.2 ?_⟩
      intro offset inside
      rw [place_place]
      exact same _ (by omega)

theorem Linked.append {memory : Memory} {first : Nat} {packets : List (List UInt8)}
    {packet : List UInt8} (linked : Linked memory first packets)
    (last : Stored memory (place first (used packets)) packet) (inside : first < 4096) :
    Linked memory first (packets ++ [packet]) := by
  induction packets generalizing first with
  | nil =>
      rw [used_nil, place_zero inside] at last
      exact ⟨last, trivial⟩
  | cons other rest ih =>
      rw [used_cons, ← place_place] at last
      exact ⟨linked.1, ih linked.2 last (place_lt _ _)⟩

/-! ### The receiving side -/

/-- The packets `pending` are to be read, and the first of them starts at `first`, of which
`reading` bytes have been read. -/
structure Receiving (first released : Nat) (taken pending : List (List UInt8)) (reading : Nat)
    (c : Controller) : Prop where
  start : c.erxst = 0
  stop : c.erxnd = 4095
  increments : c.econ2 = ECON2_AUTOINC
  inside : first < 4096
  even : first % 2 = 0
  arrived : c.arrived = taken ++ pending
  releases : c.released = released
  behind : released ≤ taken.length
  counted : c.arrived.length ≤ released + 255
  linked : Linked c.memory first pending
  fits : used pending ≤ 4094
  written : c.erxwrpt = place first (used pending)
  limit : c.erxrdpt = place first 4095
  cursor : c.erdpt = place first reading

/-- A transmission under way cannot write its status over the ring. -/
def Apart (c : Controller) : Prop :=
  c.econ1 &&& ECON1_TXRTS ≠ 0 → 4095 ≤ c.etxnd ∧ c.etxnd < 8185

section Events

variable {first released reading : Nat} {taken pending : List (List UInt8)}
  {c after : Controller}

theorem Receiving.ringPlace_eq (receiving : Receiving first released taken pending reading c)
    (pointer offset : Nat) : c.ringPlace pointer offset = place pointer offset := by
  unfold Controller.ringPlace place
  rw [receiving.start, receiving.stop, Nat.zero_add, Nat.sub_zero, Nat.sub_zero]

theorem Receiving.odd (receiving : Receiving first released taken pending reading c) :
    c.erxrdpt % 2 = 1 := by
  have even := receiving.even
  rw [receiving.limit]
  unfold place RingBuffer.position
  omega

/-- Without the place of the limit, a packet has room behind those that are still to be read. -/
theorem Receiving.room (receiving : Receiving first released taken pending reading c)
    {packet : List UInt8}
    (room : ∀ offset < span packet, place c.erxwrpt offset ≠ c.erxrdpt) :
    used pending + span packet ≤ 4094 := by
  have fits := receiving.fits
  have usedEven := used_even pending
  have spanEven := span_even packet
  by_contra beyond
  have hit := room (4095 - used pending) (by omega)
  rw [receiving.written, receiving.limit, place_place] at hit
  exact hit (by congr 1; omega)

theorem Receiving.receives (receiving : Receiving first released taken pending reading c)
    {packet : List UInt8} (receives : c.Receives packet after) :
    Receiving first released taken (pending ++ [packet]) reading after := by
  have fits := receiving.fits
  have arrived := receiving.arrived
  have behind := receiving.behind
  have places : ∀ pointer offset, c.ringPlace pointer offset = place pointer offset :=
    receiving.ringPlace_eq
  obtain ⟨counted, room, written, keeps, rest⟩ := receives
  simp only [places] at room written keeps rest
  have total := receiving.room room
  have atEnd := receiving.written
  unfold Controller.packetCount at counted
  rw [receiving.releases] at counted
  rw [rest]
  constructor
  · exact receiving.start
  · exact receiving.stop
  · exact receiving.increments
  · exact receiving.inside
  · exact receiving.even
  · change c.arrived ++ [packet] = _
    rw [arrived, List.append_assoc]
  · exact receiving.releases
  · exact behind
  · change (c.arrived ++ [packet]).length ≤ _
    rw [List.length_append, List.length_singleton]
    omega
  · have kept : Linked after.memory first pending := by
      refine receiving.linked.congr fun offset inside => keeps _ fun other otherInside same => ?_
      rw [atEnd, place_place] at same
      have sameOffset := place_injective (by omega) (by omega) same
      omega
    refine kept.append ?_ receiving.inside
    rw [atEnd] at written
    exact written
  · rw [used_append, used_cons, used_nil]
    exact total
  · change place c.erxwrpt (span packet) = _
    rw [atEnd, place_place, used_append, used_cons, used_nil, Nat.add_zero]
  · exact receiving.limit
  · exact receiving.cursor

/-- The packets depend on the receiving side only. -/
theorem Receiving.congr (receiving : Receiving first released taken pending reading c)
    (start : after.erxst = c.erxst) (stop : after.erxnd = c.erxnd)
    (increments : after.econ2 = c.econ2) (arrived : after.arrived = c.arrived)
    (counted : after.released = c.released) (written : after.erxwrpt = c.erxwrpt)
    (limit : after.erxrdpt = c.erxrdpt) (read : after.erdpt = c.erdpt)
    (memory : ∀ address < 4096, after.memory address = c.memory address) :
    Receiving first released taken pending reading after where
  start := start.trans receiving.start
  stop := stop.trans receiving.stop
  increments := increments.trans receiving.increments
  inside := receiving.inside
  even := receiving.even
  arrived := arrived.trans receiving.arrived
  releases := counted.trans receiving.releases
  behind := receiving.behind
  counted := by rw [arrived]; exact receiving.counted
  linked := receiving.linked.congr fun _ _ => memory _ (place_lt _ _)
  fits := receiving.fits
  written := written.trans receiving.written
  limit := limit.trans receiving.limit
  cursor := read.trans receiving.cursor

/-- Whatever the controller does by itself, it only adds packets. -/
theorem Receiving.event (receiving : Receiving first released taken pending reading c)
    (apart : Apart c) (event : Event c after) :
    ∃ more, Receiving first released taken (pending ++ more) reading after := by
  cases event with
  | clockReady _ =>
      refine ⟨[], ?_⟩
      rw [List.append_nil]
      exact receiving.congr rfl rfl rfl rfl rfl rfl rfl rfl fun _ _ => rfl
  | packet _ _ receives => exact ⟨_, receiving.receives receives⟩
  | corruption _ even =>
      have odd := receiving.odd
      omega
  | transmitted requested keeps =>
      obtain ⟨behindRing, inMemory⟩ := apart requested
      refine ⟨[], ?_⟩
      rw [List.append_nil]
      refine receiving.congr rfl rfl rfl rfl rfl rfl rfl rfl fun address inRing => ?_
      exact keeps address fun offset inside => by omega

end Events

end ENC28J60

end EtherSiaStack
