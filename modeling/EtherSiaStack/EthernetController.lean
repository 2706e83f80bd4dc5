/-
The controller behind the ENC28J60 driver.

An instruction is a byte sent after the select line has fallen, and the bytes behind it are
its operands or its answers.  The 8 KiB of buffer memory hold a ring that the controller
fills with the packets it receives, each behind a pointer to the next, and outside the ring
whatever it is to send.  While the driver does something, or nothing, it may receive a
packet, or end a transmission.  What a chip does is only known as far as it follows this
controller; the three logs are no part of it.
-/

import EtherSiaStack.ENC28J60
import EtherSiaStack.Library.RingBuffer

namespace EtherSiaStack

open ByteMemory Interference

namespace ENC28J60

/-- Registers with a meaning of their own, and a bank and an address for each of the rest. -/
structure Controller where
  memory : Memory
  eie : UInt8
  eir : UInt8
  estat : UInt8
  econ2 : UInt8
  econ1 : UInt8
  erdpt : Nat
  ewrpt : Nat
  etxst : Nat
  etxnd : Nat
  erxst : Nat
  erxnd : Nat
  erxrdptLow : UInt8
  erxrdpt : Nat
  erxwrpt : Nat
  others : Nat × Nat → UInt8
  arrived : List (List UInt8)
  released : Nat
  transmitted : List (List UInt8)

namespace Controller

/-! ### Registers -/

def bank (c : Controller) : Nat :=
  c.econ1.toNat % 4

/-- The packets that are in the ring and have not been counted off. -/
def packetCount (c : Controller) : Nat :=
  c.arrived.length - c.released

/-- A pointer has 13 bits. -/
def withLow (pointer : Nat) (data : UInt8) : Nat :=
  pointer / 256 * 256 + data.toNat

def withHigh (pointer : Nat) (data : UInt8) : Nat :=
  data.toNat % 32 * 256 + pointer % 256

def isMac (bank address : Nat) : Bool :=
  bank = 2 ∧ address < 0x1b ∨ bank = 3 ∧ (address ≤ 5 ∨ address = 0x0a)

def readBanked (c : Controller) : Nat → Nat → UInt8
  | 0, 0x00 => UInt8.ofNat c.erdpt
  | 0, 0x01 => UInt8.ofNat (c.erdpt / 256)
  | 0, 0x02 => UInt8.ofNat c.ewrpt
  | 0, 0x03 => UInt8.ofNat (c.ewrpt / 256)
  | 0, 0x04 => UInt8.ofNat c.etxst
  | 0, 0x05 => UInt8.ofNat (c.etxst / 256)
  | 0, 0x06 => UInt8.ofNat c.etxnd
  | 0, 0x07 => UInt8.ofNat (c.etxnd / 256)
  | 0, 0x08 => UInt8.ofNat c.erxst
  | 0, 0x09 => UInt8.ofNat (c.erxst / 256)
  | 0, 0x0a => UInt8.ofNat c.erxnd
  | 0, 0x0b => UInt8.ofNat (c.erxnd / 256)
  | 0, 0x0c => UInt8.ofNat c.erxrdpt
  | 0, 0x0d => UInt8.ofNat (c.erxrdpt / 256)
  | 0, 0x0e => UInt8.ofNat c.erxwrpt
  | 0, 0x0f => UInt8.ofNat (c.erxwrpt / 256)
  | 1, 0x19 => UInt8.ofNat c.packetCount
  | bank, address => c.others (bank, address)

def readControl (c : Controller) (address : Nat) : UInt8 :=
  if address = 0x1b then c.eie
  else if address = 0x1c then c.eir
  else if address = 0x1d then c.estat
  else if address = 0x1e then c.econ2
  else if address = 0x1f then c.econ1
  else c.readBanked c.bank address

/-- The read limit is taken over with its high byte, and the write pointer of the ring with
the start of the ring. -/
def writeBanked (c : Controller) (data : UInt8) : Nat → Nat → Controller
  | 0, 0x00 => { c with erdpt := withLow c.erdpt data }
  | 0, 0x01 => { c with erdpt := withHigh c.erdpt data }
  | 0, 0x02 => { c with ewrpt := withLow c.ewrpt data }
  | 0, 0x03 => { c with ewrpt := withHigh c.ewrpt data }
  | 0, 0x04 => { c with etxst := withLow c.etxst data }
  | 0, 0x05 => { c with etxst := withHigh c.etxst data }
  | 0, 0x06 => { c with etxnd := withLow c.etxnd data }
  | 0, 0x07 => { c with etxnd := withHigh c.etxnd data }
  | 0, 0x08 => { c with erxst := withLow c.erxst data, erxwrpt := withLow c.erxst data }
  | 0, 0x09 => { c with erxst := withHigh c.erxst data, erxwrpt := withHigh c.erxst data }
  | 0, 0x0a => { c with erxnd := withLow c.erxnd data }
  | 0, 0x0b => { c with erxnd := withHigh c.erxnd data }
  | 0, 0x0c => { c with erxrdptLow := data }
  | 0, 0x0d => { c with erxrdpt := withHigh c.erxrdptLow.toNat data }
  | bank, address => { c with others := Function.update c.others (bank, address) data }

/-- `PKTDEC` counts a packet off and is never set when read. -/
def writeControl (c : Controller) (address : Nat) (data : UInt8) : Controller :=
  if address = 0x1b then { c with eie := data }
  else if address = 0x1c then { c with eir := data }
  else if address = 0x1d then { c with estat := data }
  else if address = 0x1e then
    { c with
      econ2 := data &&& ~~~ECON2_PKTDEC
      released := if data &&& ECON2_PKTDEC = 0 then c.released else c.released + 1 }
  else if address = 0x1f then { c with econ1 := data }
  else c.writeBanked data c.bank address

/-- Bits cannot be set or cleared in the MAC and MII registers. -/
def setBits (c : Controller) (address : Nat) (mask : UInt8) : Controller :=
  if isMac c.bank address then c else c.writeControl address (c.readControl address ||| mask)

def clearBits (c : Controller) (address : Nat) (mask : UInt8) : Controller :=
  if isMac c.bank address then c
  else c.writeControl address (c.readControl address &&& ~~~mask)

/-! ### Buffer memory -/

/-- The place in the ring `offset` places behind a pointer. -/
def ringPlace (c : Controller) (pointer offset : Nat) : Nat :=
  c.erxst + RingBuffer.position (c.erxnd + 1 - c.erxst) (pointer - c.erxst) offset

/-- Reading goes round in the ring, and on to the next byte anywhere else. -/
def nextRead (c : Controller) : Nat :=
  if c.econ2 &&& ECON2_AUTOINC = 0 then c.erdpt
  else if c.erdpt = c.erxnd then c.erxst
  else (c.erdpt + 1) % 8192

def readBuffer (c : Controller) : UInt8 × Controller :=
  (c.memory c.erdpt, { c with erdpt := c.nextRead })

def writeBuffer (c : Controller) (data : UInt8) : Controller :=
  { c with
    memory := Function.update c.memory c.ewrpt data
    ewrpt := if c.econ2 &&& ECON2_AUTOINC = 0 then c.ewrpt else (c.ewrpt + 1) % 8192 }

/-- The registers that matter to the driver, after a reset; the buffer memory stays. -/
def reset (c : Controller) : Controller where
  memory := c.memory
  eie := 0
  eir := 0
  estat := 0
  econ2 := ECON2_AUTOINC
  econ1 := 0
  erdpt := 0x05fa
  ewrpt := 0
  etxst := 0
  etxnd := 0
  erxst := 0x05fa
  erxnd := 0x1fff
  erxrdptLow := 0xfa
  erxrdpt := 0x05fa
  erxwrpt := 0
  others := fun _ => 0
  arrived := []
  released := 0
  transmitted := []

end Controller

/-! ### Instructions -/

/-- What the bytes after an instruction are. -/
inductive Phase
  | idle
  | opcode
  | readControl (address : Nat) (dummy : Bool)
  | writeControl (address : Nat)
  | setBits (address : Nat)
  | clearBits (address : Nat)
  | readBuffer
  | writeBuffer

/-- The controller at its end of the bus. -/
structure Port where
  phase : Phase
  controller : Controller

namespace Port

/-- The first three bits of an opcode tell the instruction, and the other five the register. -/
def instruct (c : Controller) (instruction address : Nat) : Port :=
  match instruction with
  | 0 => ⟨.readControl address (Controller.isMac c.bank address), c⟩
  | 1 => ⟨if address = 0x1a then .readBuffer else .idle, c⟩
  | 2 => ⟨.writeControl address, c⟩
  | 3 => ⟨if address = 0x1a then .writeBuffer else .idle, c⟩
  | 4 => ⟨.setBits address, c⟩
  | 5 => ⟨.clearBits address, c⟩
  | 7 => ⟨.idle, if address = 0x1f then c.reset else c⟩
  | _ => ⟨.idle, c⟩

def transfer (port : Port) (data : UInt8) : UInt8 × Port :=
  let c := port.controller
  match port.phase with
  | .idle => (0, port)
  | .opcode => (0, instruct c (data.toNat / 32) (data.toNat % 32))
  | .readControl address true => (0, ⟨.readControl address false, c⟩)
  | .readControl address false => (c.readControl address, port)
  | .writeControl address => (0, ⟨.idle, c.writeControl address data⟩)
  | .setBits address => (0, ⟨.idle, c.setBits address data⟩)
  | .clearBits address => (0, ⟨.idle, c.clearBits address data⟩)
  | .readBuffer => (c.readBuffer.1, ⟨.readBuffer, c.readBuffer.2⟩)
  | .writeBuffer => (0, ⟨.writeBuffer, c.writeBuffer data⟩)

end Port

/-! ### What the controller does by itself -/

/-- The places a packet takes in the ring: six bytes before its own, and one behind an odd
number of them. -/
def span (packet : List UInt8) : Nat :=
  6 + packet.length + packet.length % 2

/-- What is in the ring before the bytes of a packet. -/
def header (next : Nat) (packet : List UInt8) (status0 status1 : UInt8) : List UInt8 :=
  [UInt8.ofNat next, UInt8.ofNat (next / 256), UInt8.ofNat packet.length,
    UInt8.ofNat (packet.length / 256), status0, status1]

/-- A packet has been put into the ring, which was possible without the place the read limit
is at. -/
structure Controller.Receives (packet : List UInt8) (before after : Controller) : Prop where
  counted : before.packetCount < 255
  room : ∀ offset < span packet, before.ringPlace before.erxwrpt offset ≠ before.erxrdpt
  written : ∃ status0 status1, ∀ (index : Nat) (byte : UInt8),
    (header (before.ringPlace before.erxwrpt (span packet)) packet status0 status1 ++
      packet)[index]? = some byte →
        after.memory (before.ringPlace before.erxwrpt index) = byte
  keeps : ∀ address, (∀ offset < span packet,
    address ≠ before.ringPlace before.erxwrpt offset) → after.memory address = before.memory address
  rest : after = { before with
    memory := after.memory
    erxwrpt := before.ringPlace before.erxwrpt (span packet)
    arrived := before.arrived ++ [packet] }

/-- The bytes from the control byte to the last one. -/
def Controller.outgoing (c : Controller) : List UInt8 :=
  bytesAt c.memory c.etxst (c.etxnd + 1 - c.etxst)

/-- A packet is received, unless the read limit is even: then nothing can be said of the
ring.  Seven bytes of status are put behind what has been sent. -/
inductive Controller.Event : Controller → Controller → Prop
  | clockReady {c : Controller} (waiting : c.estat &&& ESTAT_CLKRDY = 0) :
      Event c { c with estat := c.estat ||| ESTAT_CLKRDY }
  | packet {c after : Controller} {packet : List UInt8}
      (receiving : c.econ1 &&& ECON1_RXEN ≠ 0) (odd : c.erxrdpt % 2 = 1)
      (receives : c.Receives packet after) : Event c after
  | corruption {c : Controller} {memory : Memory} {erxwrpt : Nat} {arrived : List (List UInt8)}
      (receiving : c.econ1 &&& ECON1_RXEN ≠ 0) (even : c.erxrdpt % 2 = 0) :
      Event c { c with memory := memory, erxwrpt := erxwrpt, arrived := arrived }
  | transmitted {c : Controller} {memory : Memory} (requested : c.econ1 &&& ECON1_TXRTS ≠ 0)
      (keeps : ∀ address, (∀ offset < 7, address ≠ (c.etxnd + 1 + offset) % 8192) →
        memory address = c.memory address) :
      Event c { c with
        memory := memory
        econ1 := c.econ1 &&& ~~~ECON1_TXRTS
        eir := c.eir ||| EIR_TXIF
        transmitted := c.transmitted ++ [c.outgoing] }

/-- A chip follows the controller: each of the driver's accesses has the effect it has on the
controller, which may do something by itself after it. -/
structure Follows {χ : Type} (bus : SpiBus χ) (view : χ → Port) : Prop where
  select : ∀ chip, (view (bus.select chip)).phase = .opcode ∧
    Elapses Controller.Event (view chip).controller (view (bus.select chip)).controller
  transfer : ∀ data chip, (bus.transfer data chip).1 = ((view chip).transfer data).1 ∧
    (view (bus.transfer data chip).2).phase = ((view chip).transfer data).2.phase ∧
      Elapses Controller.Event ((view chip).transfer data).2.controller
        (view (bus.transfer data chip).2).controller
  deselect : ∀ chip, (view (bus.deselect chip)).phase = .idle ∧
    Elapses Controller.Event (view chip).controller (view (bus.deselect chip)).controller
  delay : ∀ dt chip, (view (bus.delayMicroseconds dt chip)).phase = (view chip).phase ∧
    Elapses Controller.Event (view chip).controller
      (view (bus.delayMicroseconds dt chip)).controller

end ENC28J60

end EtherSiaStack
