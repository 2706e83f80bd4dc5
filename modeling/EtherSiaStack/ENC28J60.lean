/-
The ENC28J60 driver.

The chip is behind an SPI bus: between a falling and a rising edge of its select line it is
sent an instruction, and answers each byte with one of its own.  Most control registers
are in one of four banks, which the driver chooses in `ECON1` and remembers in `bank`.
What the chip does is a parameter; whatever its state is, it is only reached through these
accesses.
-/

import EtherSiaStack.Address
import EtherSiaStack.Library.FuelLoop
import EtherSiaStack.Library.Interference

namespace EtherSiaStack

open ByteMemory

/-- The pins and the bus, as the driver uses them. -/
structure SpiBus (χ : Type) where
  select : χ → χ
  transfer : UInt8 → χ → UInt8 × χ
  deselect : χ → χ
  delayMicroseconds : UInt16 → χ → χ

structure ENC28J60 (χ : Type) where
  bank : UInt8
  localMac : MACAddress
  chip : χ

namespace ENC28J60

def EIE : UInt8 := 0x1b
def EIR : UInt8 := 0x1c
def ESTAT : UInt8 := 0x1d
def ECON2 : UInt8 := 0x1e
def ECON1 : UInt8 := 0x1f

def ESTAT_CLKRDY : UInt8 := 0x01

def ECON1_RXEN : UInt8 := 0x04
def ECON1_TXRTS : UInt8 := 0x08

def ECON2_AUTOINC : UInt8 := 0x80
def ECON2_PKTDEC : UInt8 := 0x40

def EIR_TXIF : UInt8 := 0x08

def ERXTX_BANK : UInt8 := 0x00

def ERDPTL : UInt8 := 0x00
def ERDPTH : UInt8 := 0x01
def EWRPTL : UInt8 := 0x02
def EWRPTH : UInt8 := 0x03
def ETXSTL : UInt8 := 0x04
def ETXSTH : UInt8 := 0x05
def ETXNDL : UInt8 := 0x06
def ETXNDH : UInt8 := 0x07
def ERXSTL : UInt8 := 0x08
def ERXSTH : UInt8 := 0x09
def ERXNDL : UInt8 := 0x0a
def ERXNDH : UInt8 := 0x0b
def ERXRDPTL : UInt8 := 0x0c
def ERXRDPTH : UInt8 := 0x0d

def RX_BUF_START : UInt16 := 0x0000
def RX_BUF_END : UInt16 := 0x0fff

def TX_BUF_START : UInt16 := 0x1200

def MACONX_BANK : UInt8 := 0x02

def MACON1 : UInt8 := 0x00
def MACON3 : UInt8 := 0x02
def MABBIPG : UInt8 := 0x04
def MAIPGL : UInt8 := 0x06
def MAMXFLL : UInt8 := 0x0a
def MAMXFLH : UInt8 := 0x0b

def MACON1_TXPAUS : UInt8 := 0x08
def MACON1_RXPAUS : UInt8 := 0x04
def MACON1_MARXEN : UInt8 := 0x01

def MACON3_PADCFG_FULL : UInt8 := 0xe0
def MACON3_TXCRCEN : UInt8 := 0x10
def MACON3_FRMLNEN : UInt8 := 0x02
def MACON3_FULDPX : UInt8 := 0x01

def MAX_MAC_LENGTH : UInt16 := 1518

def MAADRX_BANK : UInt8 := 0x03
def MAADR1 : UInt8 := 0x04
def MAADR2 : UInt8 := 0x05
def MAADR3 : UInt8 := 0x02
def MAADR4 : UInt8 := 0x03
def MAADR5 : UInt8 := 0x00
def MAADR6 : UInt8 := 0x01
def MISTAT : UInt8 := 0x0a

def EPKTCNT_BANK : UInt8 := 0x01
def ERXFCON : UInt8 := 0x18
def EPKTCNT : UInt8 := 0x19

def ERXFCON_UCEN : UInt8 := 0x80
def ERXFCON_CRCEN : UInt8 := 0x20
def ERXFCON_MCEN : UInt8 := 0x02

/-- What the driver does, on its own state and the chip's. -/
abbrev Driver (χ : Type) := StateM (ENC28J60 χ)

variable {χ : Type} (bus : SpiBus χ)

/-! ### The bus -/

def enc28j60ArchSpiSelect : Driver χ Unit :=
  modify fun enc => { enc with chip := bus.select enc.chip }

def enc28j60ArchSpiWrite (data : UInt8) : Driver χ UInt8 :=
  modifyGet fun enc =>
    ((bus.transfer data enc.chip).1, { enc with chip := (bus.transfer data enc.chip).2 })

def enc28j60ArchSpiRead : Driver χ UInt8 :=
  enc28j60ArchSpiWrite bus 0

def enc28j60ArchSpiDeselect : Driver χ Unit :=
  modify fun enc => { enc with chip := bus.deselect enc.chip }

/-- Of the pins only the select line matters to the chip. -/
def enc28j60ArchSpiInit : Driver χ Unit :=
  enc28j60ArchSpiDeselect bus

def clockDelayUsec (dt : UInt16) : Driver χ Unit :=
  modify fun enc => { enc with chip := bus.delayMicroseconds dt enc.chip }

/-! ### Registers -/

/-- The choice in `is_mac_mii_reg`. -/
def macMiiAt (bank reg : UInt8) : Bool :=
  if bank = MACONX_BANK then reg < EIE
  else if bank = MAADRX_BANK then reg ≤ MAADR2 || reg == MISTAT
  else false

def isMacMiiReg (reg : UInt8) : Driver χ Bool := do
  return macMiiAt (← get).bank reg

def readreg (reg : UInt8) : Driver χ UInt8 := do
  enc28j60ArchSpiSelect bus
  let _ ← enc28j60ArchSpiWrite bus (0x00 ||| (reg &&& 0x1f))
  if ← isMacMiiReg reg then
    -- MAC and MII registers are behind a dummy byte
    let _ ← enc28j60ArchSpiRead bus
    let r ← enc28j60ArchSpiRead bus
    enc28j60ArchSpiDeselect bus
    return r
  else
    let r ← enc28j60ArchSpiRead bus
    enc28j60ArchSpiDeselect bus
    return r

def writereg (reg data : UInt8) : Driver χ Unit := do
  enc28j60ArchSpiSelect bus
  let _ ← enc28j60ArchSpiWrite bus (0x40 ||| (reg &&& 0x1f))
  let _ ← enc28j60ArchSpiWrite bus data
  enc28j60ArchSpiDeselect bus

def setregbitfield (reg mask : UInt8) : Driver χ Unit := do
  if ← isMacMiiReg reg then
    let r ← readreg bus reg
    writereg bus reg (r ||| mask)
  else
    enc28j60ArchSpiSelect bus
    let _ ← enc28j60ArchSpiWrite bus (0x80 ||| (reg &&& 0x1f))
    let _ ← enc28j60ArchSpiWrite bus mask
    enc28j60ArchSpiDeselect bus

def clearregbitfield (reg mask : UInt8) : Driver χ Unit := do
  if ← isMacMiiReg reg then
    let r ← readreg bus reg
    writereg bus reg (r &&& ~~~mask)
  else
    enc28j60ArchSpiSelect bus
    let _ ← enc28j60ArchSpiWrite bus (0xa0 ||| (reg &&& 0x1f))
    let _ ← enc28j60ArchSpiWrite bus mask
    enc28j60ArchSpiDeselect bus

def setregbank (newBank : UInt8) : Driver χ Unit := do
  let r ← readreg bus ECON1
  writereg bus ECON1 ((r &&& 0xfc) ||| (newBank &&& 0x03))
  modify fun enc => { enc with bank := newBank }

/-! ### Buffer memory -/

/-- An `int` has 16 bits, so a length from 2^15 on is negative and no byte is written. -/
def writedata (memory : Memory) (data : Nat) (datalen : Int16) : Driver χ Unit := do
  enc28j60ArchSpiSelect bus
  let _ ← enc28j60ArchSpiWrite bus 0x7a
  Interference.times (fun i _ => do
    let _ ← enc28j60ArchSpiWrite bus (memory (data + i))
    return ()) datalen.toNatClampNeg 0 ()
  enc28j60ArchSpiDeselect bus

def writedatabyte (byte : UInt8) : Driver χ Unit :=
  writedata bus (fun _ => byte) 0 1

def readdata (buf : Nat) (len : Int16) (memory : Memory) : Driver χ Memory := do
  enc28j60ArchSpiSelect bus
  let _ ← enc28j60ArchSpiWrite bus 0x3a
  let memory ← Interference.times (fun i memory => do
    let r ← enc28j60ArchSpiRead bus
    return Function.update memory (buf + i) r) len.toNatClampNeg 0 memory
  enc28j60ArchSpiDeselect bus
  return memory

def readdatabyte : Driver χ UInt8 := do
  let r ← readdata bus 0 1 (fun _ => 0)
  return r 0

/-! ### Setting up -/

def softreset : Driver χ Unit := do
  enc28j60ArchSpiSelect bus
  let _ ← enc28j60ArchSpiWrite bus 0xff
  enc28j60ArchSpiDeselect bus
  modify fun enc => { enc with bank := ERXTX_BANK }

/-- `reset` up to its loop. -/
def resetChip : Driver χ Unit := do
  enc28j60ArchSpiInit bus
  softreset bus
  clockDelayUsec bus 1000

/-- A pass of the loop that waits for the oscillator. -/
def clockReadyPass (enc : ENC28J60 χ) : ENC28J60 χ ⊕ ENC28J60 χ :=
  let (estat, enc) := (readreg bus ESTAT).run enc
  if estat &&& ESTAT_CLKRDY = 0 then .inl enc else .inr enc

/-- The receive buffer, and the pointers into it. -/
def configureRing : Driver χ Unit := do
  setregbank bus ERXTX_BANK
  writereg bus ERXSTL (RX_BUF_START &&& 0xff).toUInt8
  writereg bus ERXSTH (RX_BUF_START >>> 8).toUInt8
  writereg bus ERXNDL (RX_BUF_END &&& 0xff).toUInt8
  writereg bus ERXNDH (RX_BUF_END >>> 8).toUInt8
  writereg bus ERDPTL (RX_BUF_START &&& 0xff).toUInt8
  writereg bus ERDPTH (RX_BUF_START >>> 8).toUInt8
  writereg bus ERXRDPTL (RX_BUF_END &&& 0xff).toUInt8
  writereg bus ERXRDPTH (RX_BUF_END >>> 8).toUInt8

/-- An address has octets. -/
local instance octets_neZero : NeZero 6 :=
  ⟨Nat.succ_ne_zero 5⟩

/-- The receive filters and the MAC. -/
def configureMac : Driver χ Unit := do
  setregbank bus EPKTCNT_BANK
  writereg bus ERXFCON (ERXFCON_UCEN ||| ERXFCON_CRCEN ||| ERXFCON_MCEN)
  setregbank bus MACONX_BANK
  setregbitfield bus MACON1 (MACON1_MARXEN ||| MACON1_TXPAUS ||| MACON1_RXPAUS)
  setregbitfield bus MACON3
    (MACON3_PADCFG_FULL ||| MACON3_TXCRCEN ||| MACON3_FULDPX ||| MACON3_FRMLNEN)
  writereg bus MAMXFLL (MAX_MAC_LENGTH &&& 0xff).toUInt8
  writereg bus MAMXFLH (MAX_MAC_LENGTH >>> 8).toUInt8
  writereg bus MABBIPG 0x15
  writereg bus MAIPGL 0x12
  setregbank bus MAADRX_BANK
  let localMac := (← get).localMac
  writereg bus MAADR6 (localMac.octet 5)
  writereg bus MAADR5 (localMac.octet 4)
  writereg bus MAADR4 (localMac.octet 3)
  writereg bus MAADR3 (localMac.octet 2)
  writereg bus MAADR2 (localMac.octet 1)
  writereg bus MAADR1 (localMac.octet 0)

/-- `reset` behind its loop. -/
def configure : Driver χ Unit := do
  configureRing bus
  configureMac bus
  setregbitfield bus ECON2 ECON2_AUTOINC
  -- the bank chosen in the chip is 0 from here on, and `bank` is still 3
  writereg bus ECON1 ECON1_RXEN

/-- `none` when the loop is still waiting after `fuel` passes. -/
def reset (fuel : Nat) (enc : ENC28J60 χ) : Option (ENC28J60 χ) :=
  (FuelLoop.run (clockReadyPass bus) fuel ((resetChip bus).run enc).2).map fun ready =>
    ((configure bus).run ready).2

/-! ### Frames -/

/-- `sendFrame` up to its loop. -/
def requestTransmission (memory : Memory) (data : Nat) (datalen : UInt16) : Driver χ Unit := do
  setregbank bus ERXTX_BANK
  writereg bus ETXSTL (TX_BUF_START &&& 0xff).toUInt8
  writereg bus ETXSTH (TX_BUF_START >>> 8).toUInt8
  writereg bus EWRPTL (TX_BUF_START &&& 0xff).toUInt8
  writereg bus EWRPTH (TX_BUF_START >>> 8).toUInt8
  -- the control byte of the packet: as `MACON3` says
  writedatabyte bus 0x00
  writedata bus memory data datalen.toInt16
  let dataend := TX_BUF_START + datalen
  writereg bus ETXNDL (dataend &&& 0xff).toUInt8
  writereg bus ETXNDH (dataend >>> 8).toUInt8
  clearregbitfield bus EIR EIR_TXIF
  setregbitfield bus ECON1 ECON1_TXRTS

/-- A pass of the loop that waits for the end of the transmission. -/
def transmittingPass (enc : ENC28J60 χ) : ENC28J60 χ ⊕ ENC28J60 χ :=
  let (econ1, enc) := (readreg bus ECON1).run enc
  if econ1 &&& ECON1_TXRTS > 0 then .inl enc else .inr enc

/-- `none` when the loop is still waiting after `fuel` passes. -/
def sendFrame (fuel : Nat) (memory : Memory) (data : Nat) (datalen : UInt16)
    (enc : ENC28J60 χ) : Option (UInt16 × ENC28J60 χ) :=
  let requested := ((requestTransmission bus memory data datalen).run enc).2
  (FuelLoop.run (transmittingPass bus) fuel requested).map fun enc => (datalen, enc)

/-- The bytes of a packet that has no room are read one by one, and dropped. -/
def flush (len : UInt16) : Driver χ Unit :=
  Interference.times (fun _ _ => do
    let _ ← readdatabyte bus
    return ()) len.toNat 0 ()

/-- The packet itself, and whether there was no room for it. -/
def readBody (buffer : Nat) (bufsize len : UInt16) (memory : Memory) : Driver χ (Bool × Memory) :=
  if bufsize ≥ len then do
    let memory ← readdata bus buffer len.toInt16 memory
    return (false, memory)
  else do
    flush bus len
    return (true, memory)

/-- A byte more behind an odd length. -/
def readPadding (len : UInt16) : Driver χ Unit :=
  if len % 2 ≠ 0 then do
    let _ ← readdatabyte bus
    return ()
  else return ()

/-- `readFrame` with a packet in the chip. -/
def readPacket (buffer : Nat) (bufsize : UInt16) (memory : Memory) :
    Driver χ (UInt16 × Memory) := do
  setregbank bus ERXTX_BANK
  let nxtpkt0 ← readdatabyte bus
  let nxtpkt1 ← readdatabyte bus
  let length0 ← readdatabyte bus
  let length1 ← readdatabyte bus
  let _status0 ← readdatabyte bus
  let _status1 ← readdatabyte bus
  let len := (length1.toUInt16 <<< 8) + length0.toUInt16
  let body ← readBody bus buffer bufsize len memory
  readPadding bus len
  let next := (nxtpkt1.toUInt16 <<< 8) + nxtpkt0.toUInt16
  -- an even read limit is not safe
  let next := if next = RX_BUF_START then RX_BUF_END else next - 1
  writereg bus ERXRDPTL (next &&& 0xff).toUInt8
  writereg bus ERXRDPTH (next >>> 8).toUInt8
  setregbitfield bus ECON2 ECON2_PKTDEC
  return (if body.1 then 0 else len, body.2)

/-- The length and the buffer a call leaves. -/
def readFrame (buffer : Nat) (bufsize : UInt16) (memory : Memory) :
    Driver χ (UInt16 × Memory) := do
  setregbank bus EPKTCNT_BANK
  let n ← readreg bus EPKTCNT
  if n = 0 then
    return (0, memory)
  else
    readPacket bus buffer bufsize memory

end ENC28J60

end EtherSiaStack
