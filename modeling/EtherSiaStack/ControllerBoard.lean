/-
A station over the ENC28J60.

From the reset of the controller on, the station is given the packets the controller has
received, and what the controller puts on the wire is what the station has sent.
-/

import EtherSiaStack.Board
import EtherSiaStack.ControllerRun

namespace EtherSiaStack

open ByteMemory FrameLink

namespace ENC28J60

variable {χ ι : Type} {bus : SpiBus χ} {view : χ → Port} [DecidableEq ι]

/-- On the bench, what the first call of `readFrame` leaves. -/
def Bench.read : (UInt16 × Memory) × ENC28J60 Bench :=
  (readFrame Bench.bus 0 600 exampleStation.ether.buffer).run
    ((reset Bench.bus 1 Bench.supplied).get rfl)

def Bench.refused : Station Empty where
  ether := { exampleStation.ether.withBuffer Bench.read.1.2 with bufferContainsReceived := false }
  clients := exampleStation.clients

def Bench.solicited : Station Empty where
  ether := Bench.refused.ether.icmp6SendRS
  clients := exampleStation.clients

end ENC28J60

end EtherSiaStack
