/-
What the interface asks of the driver below it.

A driver reads a frame into a buffer, or sends what is in one; the length it returns is 0 if
nothing has come in, and also if the frame had no room.  What is behind the driver is a
link: whoever uses it only sees the frames of the link.
-/

import EtherSiaStack.Library.ByteMemory
import EtherSiaStack.Library.FrameLink

namespace EtherSiaStack

open ByteMemory FrameLink

/-- A call of one of the two virtual functions, and what it returns. -/
inductive DriverCall
  | readFrame (memory : Memory) (buffer : Nat) (bufsize : UInt16) (result : UInt16 × Memory)
  | sendFrame (memory : Memory) (data : Nat) (datalen result : UInt16)

/-- What a call gives for a frame: one that has no room is dropped. -/
def delivered (buffer : Nat) (bufsize : UInt16) (memory : Memory) (frame : List UInt8) :
    UInt16 × Memory :=
  if frame.length ≤ bufsize.toNat then
    (UInt16.ofNat frame.length, store memory buffer frame)
  else (0, memory)

/-- The result is what the link gave, and what was sent is in the buffer. -/
inductive DriverCall.Explains : DriverCall → Action (List UInt8) → Prop
  | nothing {memory : Memory} {buffer : Nat} {bufsize : UInt16} :
      Explains (.readFrame memory buffer bufsize (0, memory)) (.receive none)
  | frame {memory : Memory} {buffer : Nat} {bufsize : UInt16} {frame : List UInt8} :
      Explains (.readFrame memory buffer bufsize (delivered buffer bufsize memory frame))
        (.receive (some frame))
  | sent {memory : Memory} {data : Nat} {datalen : UInt16} :
      Explains (.sendFrame memory data datalen datalen)
        (.send (bytesAt memory data datalen.toNat))

end EtherSiaStack
