/-
The TFTP server of the TFTPServer example.

Its files are the serial port, the internal EEPROM and an EEPROM on the two-wire bus.  The
transfers hand over block after block, and each of the two stores keeps the blocks as one
file: block 1 starts at its first byte, and what does not fit is dropped.
-/

import EtherSiaStack.RequestBody
import EtherSiaStack.TFTPRead
import EtherSiaStack.Library.Overwrite

namespace EtherSiaStack

open ByteMemory TFTPServer Overwrite

/-! ### The places a file may be in -/

/-- The internal EEPROM; `EEPROM.length()` has 16 bits. -/
structure Eeprom where
  bytes : List UInt8
  short : bytes.length < 65536

namespace Eeprom

def length (eeprom : Eeprom) : UInt16 :=
  UInt16.ofNat eeprom.bytes.length

def update (idx : UInt16) (value : UInt8) (eeprom : Eeprom) : Eeprom where
  bytes := eeprom.bytes.set idx.toNat value
  short := by
    rw [List.length_set]
    exact eeprom.short

def read (idx : UInt16) (eeprom : Eeprom) : UInt8 :=
  eeprom.bytes.getD idx.toNat 0

theorem length_toNat (eeprom : Eeprom) : eeprom.length.toNat = eeprom.bytes.length :=
  UInt16.toNat_ofNat_of_lt' eeprom.short

end Eeprom

/-- The two-wire bus with what is on it: a transmission of these bytes to an address, and a
request for bytes from it, with those that are available then. -/
structure Wire (σ : Type) where
  transmit : UInt8 → List UInt8 → σ → σ
  requestFrom : UInt8 → UInt8 → σ → List UInt8 × σ

/-- What the serial port has sent, and the two EEPROMs. -/
structure Devices (σ : Type) where
  serial : List UInt8
  eeprom : Eeprom
  bus : σ

namespace CustomTFTPServer

/-! ### CustomTFTPServer.h -/

def AT24C128_LENGTH : UInt16 := 16384
def AT24C128_ADDRESS : UInt8 := 0x50
def AT24C128_BUF_SIZE : UInt8 := 32

/-- `"serial"`. -/
def serialName : List UInt8 :=
  [0x73, 0x65, 0x72, 0x69, 0x61, 0x6c]

/-- `"eeprom"`. -/
def eepromName : List UInt8 :=
  [0x65, 0x65, 0x70, 0x72, 0x6f, 0x6d]

/-- `"i2c"`. -/
def i2cName : List UInt8 :=
  [0x69, 0x32, 0x63]

def openFile (packet : Memory) (filename : Nat) : Int8 :=
  if HTTPServer.sameString packet filename serialName then 1
  else if HTTPServer.sameString packet filename eepromName then 2
  else if HTTPServer.sameString packet filename i2cName then 3
  else -1

def blockOffset (block : UInt16) : UInt16 :=
  (block - 1) * TFTP_BLOCK_SIZE

/-- The loop over the data for the internal EEPROM. -/
def writeToEeprom (idx : UInt16) : List UInt8 → Eeprom → Eeprom
  | [], eeprom => eeprom
  | byte :: rest, eeprom =>
      writeToEeprom (idx + 1) rest
        (if idx < eeprom.length then eeprom.update idx byte else eeprom)

def readFromEeprom (offset : UInt16) (eeprom : Eeprom) : List UInt8 :=
  let len := eeprom.length - offset
  let len := if len > TFTP_BLOCK_SIZE then TFTP_BLOCK_SIZE else len
  (List.range len.toNat).map fun i => eeprom.read (UInt16.ofNat i + offset)

section TwoWire

variable {σ : Type} (wire : Wire σ)

/-- The loop of `writeToI2c`; `none` when it never ends. -/
def writePages (offset : UInt16) (data : List UInt8) (i : UInt16) (bus : σ) : Option σ :=
  if i.toNat < data.length then
    let eeaddress := i + offset
    if eeaddress ≥ AT24C128_LENGTH then some bus
    else
      let last := i + (AT24C128_BUF_SIZE / 2).toUInt16
      -- the sum wraps around: the inner loop does nothing, and `i` stays
      if last ≤ i then none
      else
        let bytes := (data.drop i.toNat).take (last.toNat - i.toNat)
        let bus := wire.transmit AT24C128_ADDRESS (bytes16 eeaddress ++ bytes) bus
        writePages offset data (i + UInt16.ofNat bytes.length) bus
  else some bus
termination_by data.length - i.toNat
decreasing_by
  rename_i inside _ progress
  have further := UInt16.lt_iff_toNat_lt.mp (UInt16.not_le.mp progress)
  change i.toNat < last.toNat at further
  have small : last.toNat < 65536 := UInt16.toNat_lt last
  have count : bytes.length = min (last.toNat - i.toNat) (data.length - i.toNat) := by
    rw [List.length_take, List.length_drop]
  have next : (i + UInt16.ofNat bytes.length).toNat = i.toNat + bytes.length := by
    rw [UInt16.toNat_add, UInt16.toNat_ofNat_of_lt' (by change _ < 65536; omega)]
    exact Nat.mod_eq_of_lt (by change _ < 65536; omega)
  rw [next]
  omega

def writeToI2c (offset : UInt16) (data : List UInt8) (bus : σ) : Option σ :=
  writePages wire offset data 0 bus

/-- The loop of `readFromI2c`, while there are bytes missing: what it has read when it is
left, by its end or because nothing is available any more. -/
def readRequests (offset : UInt16) : Nat → UInt16 → σ → List UInt8 × σ
  | 0, _, bus => ([], bus)
  | requests + 1, i, bus =>
      let eeaddress := i + offset
      let bus := wire.transmit AT24C128_ADDRESS (bytes16 eeaddress) bus
      let (available, bus) := wire.requestFrom AT24C128_ADDRESS AT24C128_BUF_SIZE bus
      let bytes := available.take AT24C128_BUF_SIZE.toNat
      if bytes.length < AT24C128_BUF_SIZE.toNat then (bytes, bus)
      else
        let (rest, bus) := readRequests offset requests (i + AT24C128_BUF_SIZE.toUInt16) bus
        (bytes ++ rest, bus)

def readFromI2c (offset : UInt16) (bus : σ) : List UInt8 × σ :=
  let len := AT24C128_LENGTH - offset
  let len := if len > TFTP_BLOCK_SIZE then TFTP_BLOCK_SIZE else len
  let requests := (len.toNat + AT24C128_BUF_SIZE.toNat - 1) / AT24C128_BUF_SIZE.toNat
  let (bytes, bus) := readRequests wire offset requests 0 bus
  (bytes.take len.toNat, bus)

/-- `none` when the call never returns. -/
def writeBytes (fileno : Int8) (block : UInt16) (data : List UInt8) (devices : Devices σ) :
    Option (Devices σ) :=
  let offset := blockOffset block
  if fileno = 1 then some { devices with serial := devices.serial ++ data }
  else if fileno = 2 then
    some { devices with eeprom := writeToEeprom offset data devices.eeprom }
  else if fileno = 3 then
    (writeToI2c wire offset data devices.bus).map fun bus => { devices with bus := bus }
  else some devices

/-- The bytes stored for the block, which are as many as it returns. -/
def readBytes (fileno : Int8) (block : UInt16) (devices : Devices σ) :
    List UInt8 × Devices σ :=
  let offset := blockOffset block
  if fileno = 2 then (readFromEeprom offset devices.eeprom, devices)
  else if fileno = 3 then
    let (bytes, bus) := readFromI2c wire offset devices.bus
    (bytes, { devices with bus := bus })
  else ([], devices)

end TwoWire

end CustomTFTPServer

end EtherSiaStack
