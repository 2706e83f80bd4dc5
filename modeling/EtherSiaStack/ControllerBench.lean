/-
A chip on the bench.

It follows the controller and does at once whatever the controller may do by itself: when
its select line rises, the oscillator starts, a transmission ends, and the next of the
packets that are to come is received if there is room for it.
-/

import EtherSiaStack.PacketRing

namespace EtherSiaStack

open ByteMemory Interference

namespace ENC28J60

namespace Controller

/-! ### Packets -/

/-- Whether a packet can be received. -/
def Accepts (c : Controller) (packet : List UInt8) : Prop :=
  (c.econ1 &&& ECON1_RXEN ≠ 0 ∧ c.erxrdpt % 2 = 1) ∧ c.packetCount < 255 ∧
    span packet ≤ c.erxnd + 1 - c.erxst ∧
      ∀ offset < span packet, c.ringPlace c.erxwrpt offset ≠ c.erxrdpt

instance (c : Controller) (packet : List UInt8) : Decidable (c.Accepts packet) :=
  inferInstanceAs (Decidable (_ ∧ _))

/-- The place a packet has for an address, if it has one. -/
def offsetAt (c : Controller) (packet : List UInt8) (address : Nat) : Option Nat :=
  (List.range (span packet)).find? fun offset => c.ringPlace c.erxwrpt offset = address

def receive (c : Controller) (packet : List UInt8) : Controller :=
  let next := c.ringPlace c.erxwrpt (span packet)
  { c with
    memory := fun address =>
      ((c.offsetAt packet address).map fun offset =>
        (header next packet 0 0 ++ packet).getD offset 0).getD (c.memory address)
    erxwrpt := next
    arrived := c.arrived ++ [packet] }

theorem ringPlace_injective {c : Controller} {pointer first second : Nat}
    (firstInside : first < c.erxnd + 1 - c.erxst) (secondInside : second < c.erxnd + 1 - c.erxst)
    (same : c.ringPlace pointer first = c.ringPlace pointer second) : first = second :=
  RingBuffer.position_injective firstInside secondInside (Nat.add_left_cancel same)

theorem offsetAt_place {c : Controller} {packet : List UInt8} {offset : Nat}
    (fits : span packet ≤ c.erxnd + 1 - c.erxst) (inside : offset < span packet) :
    c.offsetAt packet (c.ringPlace c.erxwrpt offset) = some offset := by
  unfold offsetAt
  rcases found : (List.range (span packet)).find? _ with _ | other
  · have absent := List.find?_eq_none.mp found offset (List.mem_range.mpr inside)
    exact absurd (decide_eq_true rfl) absent
  · have isPlace := List.find?_some found
    have same : c.ringPlace c.erxwrpt other = c.ringPlace c.erxwrpt offset :=
      of_decide_eq_true isPlace
    have otherInside := List.mem_range.mp (List.mem_of_find?_eq_some found)
    rw [ringPlace_injective (by omega) (by omega) same]

theorem offsetAt_elsewhere {c : Controller} {packet : List UInt8} {address : Nat}
    (elsewhere : ∀ offset < span packet, address ≠ c.ringPlace c.erxwrpt offset) :
    c.offsetAt packet address = none := by
  refine List.find?_eq_none.mpr fun offset inside same => ?_
  exact elsewhere offset (List.mem_range.mp inside) (of_decide_eq_true same).symm

theorem receive_receives {c : Controller} {packet : List UInt8} (accepts : c.Accepts packet) :
    c.Receives packet (c.receive packet) := by
  obtain ⟨-, counted, fits, room⟩ := accepts
  refine ⟨counted, room, ⟨0, 0, fun index byte present => ?_⟩, fun address elsewhere => ?_, rfl⟩
  · unfold receive
    dsimp only
    rw [offsetAt_place fits (stored_index present), Option.map_some, Option.getD_some,
      List.getD_eq_getElem?_getD, present, Option.getD_some]
  · unfold receive
    dsimp only
    rw [offsetAt_elsewhere elsewhere]
    rfl

/-! ### At once -/

def startClock (c : Controller) : Controller :=
  if c.estat &&& ESTAT_CLKRDY = 0 then { c with estat := c.estat ||| ESTAT_CLKRDY } else c

def endTransmission (c : Controller) : Controller :=
  if c.econ1 &&& ECON1_TXRTS ≠ 0 then
    { c with
      econ1 := c.econ1 &&& ~~~ECON1_TXRTS
      eir := c.eir ||| EIR_TXIF
      transmitted := c.transmitted ++ [c.outgoing] }
  else c

theorem startClock_elapses (c : Controller) : Elapses Event c c.startClock := by
  unfold startClock
  split
  · exact .single (.clockReady ‹_›)
  · exact .refl

theorem endTransmission_elapses (c : Controller) : Elapses Event c c.endTransmission := by
  unfold endTransmission
  split
  · exact .single (.transmitted ‹_› fun _ _ => rfl)
  · exact .refl

theorem startClock_running (c : Controller) : c.startClock.estat &&& ESTAT_CLKRDY ≠ 0 := by
  unfold startClock
  split
  · have kept : (c.estat ||| ESTAT_CLKRDY) &&& ESTAT_CLKRDY =
        (c.estat &&& ESTAT_CLKRDY) ||| (ESTAT_CLKRDY &&& ESTAT_CLKRDY) :=
      congrArg UInt8.ofBitVec BitVec.and_or_distrib_right
    dsimp only
    rw [kept, ‹c.estat &&& ESTAT_CLKRDY = 0›]
    decide
  · assumption

theorem endTransmission_estat (c : Controller) : c.endTransmission.estat = c.estat := by
  unfold endTransmission
  split <;> rfl

theorem endTransmission_idle (c : Controller) : c.endTransmission.econ1 &&& ECON1_TXRTS = 0 := by
  unfold endTransmission
  split
  · have none : ~~~ECON1_TXRTS &&& ECON1_TXRTS = 0 := by decide
    rw [UInt8.and_assoc, none, UInt8.and_zero]
  · exact not_not.mp ‹_›

end Controller

open Controller (Event)

/-! ### The bench -/

structure Bench where
  port : Port
  coming : List (List UInt8)

namespace Bench

/-- The next packet is received, if it can be. -/
def arrive (c : Controller) : List (List UInt8) → Bench
  | [] => ⟨⟨.idle, c⟩, []⟩
  | packet :: rest =>
      if c.Accepts packet then ⟨⟨.idle, c.receive packet⟩, rest⟩ else ⟨⟨.idle, c⟩, packet :: rest⟩

def bus : SpiBus Bench where
  select bench := { bench with port := ⟨.opcode, bench.port.controller⟩ }
  transfer data bench :=
    ((bench.port.transfer data).1, { bench with port := (bench.port.transfer data).2 })
  deselect bench := arrive bench.port.controller.startClock.endTransmission bench.coming
  delayMicroseconds _ bench := bench

theorem arrive_elapses (c : Controller) (coming : List (List UInt8)) :
    (arrive c coming).port.phase = .idle ∧
      Elapses Event c (arrive c coming).port.controller := by
  cases coming with
  | nil => exact ⟨rfl, .refl⟩
  | cons packet rest =>
      unfold arrive
      dsimp only
      by_cases accepts : c.Accepts packet
      · rw [if_pos accepts]
        exact ⟨rfl, .single (.packet accepts.1.1 accepts.1.2 (Controller.receive_receives accepts))⟩
      · rw [if_neg accepts]
        exact ⟨rfl, .refl⟩

theorem arrive_registers (c : Controller) (coming : List (List UInt8)) :
    (arrive c coming).port.controller.estat = c.estat ∧
      (arrive c coming).port.controller.econ1 = c.econ1 := by
  cases coming with
  | nil => exact ⟨rfl, rfl⟩
  | cons packet rest =>
      unfold arrive
      dsimp only
      split <;> exact ⟨rfl, rfl⟩

/-- Behind a rising edge nothing is waited for any more. -/
theorem settled (c : Controller) (coming : List (List UInt8)) :
    (arrive c.startClock.endTransmission coming).port.controller.estat &&& ESTAT_CLKRDY ≠ 0 ∧
      (arrive c.startClock.endTransmission coming).port.controller.econ1 &&& ECON1_TXRTS = 0 := by
  obtain ⟨estat, econ1⟩ := arrive_registers c.startClock.endTransmission coming
  rw [estat, econ1, Controller.endTransmission_estat]
  exact ⟨c.startClock_running, c.startClock.endTransmission_idle⟩

theorem follows : Follows bus port where
  select _ := ⟨rfl, .refl⟩
  transfer _ _ := ⟨rfl, rfl, .refl⟩
  deselect bench := by
    obtain ⟨idle, arrived⟩ :=
      arrive_elapses bench.port.controller.startClock.endTransmission bench.coming
    have clock := bench.port.controller.startClock_elapses
    exact ⟨idle, (clock.trans (Controller.endTransmission_elapses _)).trans arrived⟩
  delay _ _ := ⟨rfl, .refl⟩

/-- In the middle of reading its memory, and with two packets still to come. -/
def supplied : ENC28J60 Bench where
  bank := 2
  localMac := ⟨![0x02, 0, 0, 0, 0, 0x01]⟩
  chip :=
    { port := ⟨.readBuffer, Controller.reset ⟨fun _ => 0, 0, 0, 0, 0, 0, 0, 0, 0, 0, 0, 0, 0, 0, 0,
        fun _ => 0, [], 0, []⟩⟩
      coming := [[1, 2, 3], [4, 5]] }

end Bench

end ENC28J60

end EtherSiaStack
