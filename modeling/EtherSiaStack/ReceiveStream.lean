/-
Frames read out of the receive ring.

The chip queues a frame behind its length, which counts itself, and moves its own pointer;
the driver reads the length and then the frame, or skips it, and moves the read pointer.
The bytes between the two pointers are the frames still queued, wherever they wrap.  What
the chip does when a command is written to it is a parameter.
-/

import EtherSiaStack.W5100
import EtherSiaStack.Library.FuelLoop
import EtherSiaStack.Library.Spelling

namespace EtherSiaStack

namespace W5100

open ByteMemory FuelLoop

def Sn_CR_RECV : UInt8 := 0x40

/-! ### readFrame -/

/-- What the chip's memory is once a command has been executed, which the driver waits
for. -/
abbrev ChipCommand := UInt8 → ChipMemory → ChipMemory

def setSn_CR (command : ChipCommand) (chip : ChipMemory) (cr : UInt8) : ChipMemory :=
  command cr (wizchipWrite chip Sn_CR cr)

/-- One pass of the loop in `getSn_RX_RSR`, which goes on until two readings agree. -/
def receivedSizePass (chip : ChipMemory) (val : UInt16) : UInt16 ⊕ UInt16 :=
  let val1 := wizchipReadWord chip Sn_RX_RSR
  let val := if val1 ≠ 0 then wizchipReadWord chip Sn_RX_RSR else val
  if val ≠ val1 then .inl val else .inr val

/-- What a call is given: the array for the length, as the stack has it, and the buffer. -/
structure ReadCall where
  head : Memory
  buffer : Memory
  bufsize : UInt16

/-- `readFrame` behind the call of `getSn_RX_RSR`. -/
def readQueued (command : ChipCommand) (chip : ChipMemory) (call : ReadCall) (len : UInt16) :
    (UInt16 × Memory) × ChipMemory :=
  if len > 0 then
    let (chip, head) := wizchipRecvData chip call.head 0 2
    let chip := setSn_CR command chip Sn_CR_RECV
    let data_len := (head 0).toUInt16
    let data_len := (data_len <<< 8) + (head 1).toUInt16
    let data_len := data_len - 2
    if data_len > call.bufsize then
      let chip := wizchipRecvIgnore chip data_len
      ((0, call.buffer), setSn_CR command chip Sn_CR_RECV)
    else
      let (chip, buffer) := wizchipRecvData chip call.buffer 0 data_len
      ((data_len, buffer), setSn_CR command chip Sn_CR_RECV)
  else ((0, call.buffer), chip)

/-- A call of `readFrame` returns the length, and leaves the buffer and the chip. -/
def ReadFrame (command : ChipCommand) (chip : ChipMemory) (call : ReadCall)
    (result : (UInt16 × Memory) × ChipMemory) : Prop :=
  ∃ len, Returns (receivedSizePass chip) 0 len ∧ result = readQueued command chip call len

/-! ### The chip -/

/-- `RECV` makes the chip count the bytes behind the read pointer, and ends. -/
structure ExecutesRecv (command : ChipCommand) : Prop where
  size : ∀ chip, wizchipReadWord (command Sn_CR_RECV chip) Sn_RX_RSR =
    wizchipReadWord chip Sn_RX_WR - getSn_RX_RD chip
  ends : ∀ chip, command Sn_CR_RECV chip Sn_CR = 0
  keeps : ∀ chip address, address ≠ Sn_CR → address ≠ Sn_RX_RSR → address ≠ Sn_RX_RSR + 1 →
    command Sn_CR_RECV chip address = chip address

/-- The bytes behind a pointer in the receive ring. -/
def RingSpells (chip : ChipMemory) (pointer : UInt16) (bytes : List UInt8) : Prop :=
  ∀ (index : Nat) (inside : index < bytes.length),
    chip (ringAddress RxBufferAddress pointer index) = bytes[index]

/-- These bytes are queued, from the pointer on. -/
structure Received (chip : ChipMemory) (pointer : UInt16) (bytes : List UInt8) : Prop where
  fits : bytes.length ≤ 8192
  read : getSn_RX_RD chip = pointer
  ring : RingSpells chip pointer bytes
  written : wizchipReadWord chip Sn_RX_WR = pointer + UInt16.ofNat bytes.length
  size : wizchipReadWord chip Sn_RX_RSR = UInt16.ofNat bytes.length

/-- A frame in the ring: its length, with the two bytes it takes, and its bytes. -/
def queuedBytes (frame : List UInt8) : List UInt8 :=
  bytes16 (UInt16.ofNat (frame.length + 2)) ++ frame

/-- The chip has queued a frame for which there was room. -/
structure Arrives (frame : List UInt8) (before after : ChipMemory) : Prop where
  room : (wizchipReadWord before Sn_RX_RSR).toNat + (queuedBytes frame).length ≤ 8192
  ring : RingSpells after (wizchipReadWord before Sn_RX_WR) (queuedBytes frame)
  written : wizchipReadWord after Sn_RX_WR =
    wizchipReadWord before Sn_RX_WR + UInt16.ofNat (queuedBytes frame).length
  size : wizchipReadWord after Sn_RX_RSR =
    wizchipReadWord before Sn_RX_RSR + UInt16.ofNat (queuedBytes frame).length
  keeps : ∀ address, address ≠ Sn_RX_WR → address ≠ Sn_RX_WR + 1 → address ≠ Sn_RX_RSR →
    address ≠ Sn_RX_RSR + 1 →
      (∀ index < (queuedBytes frame).length,
        address ≠ ringAddress RxBufferAddress (wizchipReadWord before Sn_RX_WR) index) →
        after address = before address

/-! ### The queue -/

/-- The frames that are queued, and where the first of them starts. -/
structure FrameQueue where
  pointer : UInt16
  frames : List (List UInt8)

namespace FrameQueue

def bytes (queue : FrameQueue) : List UInt8 :=
  queue.frames.flatMap queuedBytes

def Holds (queue : FrameQueue) (chip : ChipMemory) : Prop :=
  Received chip queue.pointer queue.bytes

/-- A call takes the first frame, whether or not it has room for it. -/
def read (queue : FrameQueue) (call : ReadCall) : (UInt16 × Memory) × FrameQueue :=
  match queue.frames with
  | [] => ((0, call.buffer), queue)
  | frame :: rest =>
      (if frame.length ≤ call.bufsize.toNat then
          (UInt16.ofNat frame.length, store call.buffer 0 frame)
        else (0, call.buffer),
        ⟨queue.pointer + UInt16.ofNat (frame.length + 2), rest⟩)

def arrive (queue : FrameQueue) (frame : List UInt8) : FrameQueue :=
  { queue with frames := queue.frames ++ [frame] }

end FrameQueue

/-- What happens to the receive side. -/
inductive ReceiveEvent
  | arrival (frame : List UInt8)
  | readFrame (call : ReadCall)

/-- The results of the calls, and the queue they leave. -/
def FrameQueue.run : FrameQueue → List ReceiveEvent → List (UInt16 × Memory) × FrameQueue
  | queue, [] => ([], queue)
  | queue, .arrival frame :: events => (queue.arrive frame).run events
  | queue, .readFrame call :: events =>
      let (outcomes, last) := (queue.read call).2.run events
      ((queue.read call).1 :: outcomes, last)

/-- The same of the chip and the driver. -/
inductive ReceiveRun (command : ChipCommand) :
    ChipMemory → List ReceiveEvent → List (UInt16 × Memory) → ChipMemory → Prop
  | done (chip : ChipMemory) : ReceiveRun command chip [] [] chip
  | arrival {chip next last : ChipMemory} {frame : List UInt8} {events : List ReceiveEvent}
      {outcomes : List (UInt16 × Memory)} (arrives : Arrives frame chip next)
      (rest : ReceiveRun command next events outcomes last) :
      ReceiveRun command chip (.arrival frame :: events) outcomes last
  | readFrame {chip next last : ChipMemory} {call : ReadCall} {outcome : UInt16 × Memory}
      {events : List ReceiveEvent} {outcomes : List (UInt16 × Memory)}
      (returns : ReadFrame command chip call (outcome, next))
      (rest : ReceiveRun command next events outcomes last) :
      ReceiveRun command chip (.readFrame call :: events) (outcome :: outcomes) last

/-! ### Copies out of the ring -/

/-- The bytes behind a pointer, from the index `first` on. -/
def ringBytes (chip : ChipMemory) (pointer : UInt16) (first count : Nat) : List UInt8 :=
  (List.range count).map fun offset =>
    chip (ringAddress RxBufferAddress pointer (first + offset))

theorem ringBytes_length (chip : ChipMemory) (pointer : UInt16) (first count : Nat) :
    (ringBytes chip pointer first count).length = count := by
  rw [ringBytes, List.length_map, List.length_range]

theorem ringBytes_getElem (chip : ChipMemory) (pointer : UInt16) (first count index : Nat)
    (inside : index < (ringBytes chip pointer first count).length) :
    (ringBytes chip pointer first count)[index] =
      chip (ringAddress RxBufferAddress pointer (first + index)) := by
  simp only [ringBytes, List.getElem_map, List.getElem_range]

theorem ringBytes_append (chip : ChipMemory) (pointer : UInt16) (first middle count : Nat) :
    ringBytes chip pointer first middle ++ ringBytes chip pointer (first + middle) count =
      ringBytes chip pointer first (middle + count) := by
  unfold ringBytes
  rw [List.range_add, List.map_append, List.map_map]
  congr 1
  apply List.map_congr_left
  intro offset _
  rw [Function.comp_apply, Nat.add_assoc]

theorem wizchipReadBuf_ring {chip : ChipMemory} {address pointer len : UInt16} {first : Nat}
    (places : ∀ offset < len.toNat,
      address + UInt16.ofNat offset = ringAddress RxBufferAddress pointer (first + offset))
    (pBuf : Nat) (memory : Memory) :
    wizchipReadBuf chip address pBuf len memory =
      store memory pBuf (ringBytes chip pointer first len.toNat) := by
  have length := ringBytes_length chip pointer first len.toNat
  funext index
  rw [wizchipReadBuf_apply]
  by_cases written : pBuf ≤ index ∧ index < pBuf + len.toNat
  · obtain ⟨offset, rfl⟩ := Nat.exists_eq_add_of_le written.1
    have inside : offset < (ringBytes chip pointer first len.toNat).length := by omega
    rw [if_pos written, store_inside _ _ _ offset inside, ringBytes_getElem,
      Nat.add_sub_cancel_left, places offset (by omega)]
  · rw [if_neg written, store_outside _ _ (by omega)]

/-- Both ways to copy leave the bytes behind the read pointer. -/
theorem wizchipRecvData_eq (chip : ChipMemory) (memory : Memory) (wizdata : Nat) {len : UInt16}
    (fits : len.toNat ≤ 8192) :
    wizchipRecvData chip memory wizdata len = (setSn_RX_RD chip (getSn_RX_RD chip + len),
      store memory wizdata (ringBytes chip (getSn_RX_RD chip) 0 len.toNat)) := by
  generalize pointer : getSn_RX_RD chip = ptr
  have inRing := Nat.mod_lt ptr.toNat (show 0 < 8192 by decide)
  unfold wizchipRecvData
  simp only [pointer, RxBufferMask_eq, RxBufferLength_eq]
  refine Prod.ext rfl ?_
  by_cases splits : (ptr &&& 8191) + len > 8192
  · -- the first run reads up to the end of the ring, the second from its first byte on
    simp only [if_pos splits]
    have crosses := (splits_iff fits).mp splits
    have size := firstRun_toNat ptr
    have remains := secondRun_toNat fits crosses
    generalize 8192 - (ptr &&& 8191) = first at size remains ⊢
    have toEnd : ∀ offset < first.toNat, RxBufferAddress + (ptr &&& 8191) +
        UInt16.ofNat offset = ringAddress RxBufferAddress ptr (0 + offset) := by
      intro offset inside
      rw [Nat.zero_add]
      exact ringAddress_before _ (by omega)
    have fromStart : ∀ offset < (len - first).toNat, RxBufferAddress + UInt16.ofNat offset =
        ringAddress RxBufferAddress ptr (first.toNat + offset) :=
      fun offset inside => ringAddress_behind _ (by omega) (by omega)
    have whole : first.toNat + (len - first).toNat = len.toNat := by omega
    have appended := ringBytes_append chip ptr 0 first.toNat (len - first).toNat
    rw [Nat.zero_add, whole] at appended
    rw [wizchipReadBuf_ring toEnd, wizchipReadBuf_ring fromStart, ← appended, store_append,
      ringBytes_length]
  · have room := mt (splits_iff fits).mpr splits
    simp only [if_neg splits]
    apply wizchipReadBuf_ring
    intro offset inside
    rw [Nat.zero_add]
    exact ringAddress_before _ (by omega)

/-! ### The bytes that are queued -/

theorem RingSpells.congr {left right : ChipMemory} {pointer : UInt16} {bytes : List UInt8}
    (spelled : RingSpells left pointer bytes)
    (same : ∀ index < bytes.length, right (ringAddress RxBufferAddress pointer index) =
      left (ringAddress RxBufferAddress pointer index)) : RingSpells right pointer bytes :=
  fun index inside => (same index inside).trans (spelled index inside)

theorem ringSpells_append {chip : ChipMemory} {pointer : UInt16} {first rest : List UInt8}
    (short : first.length < 65536) :
    RingSpells chip pointer (first ++ rest) ↔
      RingSpells chip pointer first ∧
        RingSpells chip (pointer + UInt16.ofNat first.length) rest := by
  have count : (UInt16.ofNat first.length).toNat = first.length :=
    UInt16.toNat_ofNat_of_lt' short
  have place (index : Nat) : ringAddress RxBufferAddress
      (pointer + UInt16.ofNat first.length) index =
        ringAddress RxBufferAddress pointer (first.length + index) := by
    rw [ringAddress_add, count]
  constructor
  · intro spelled
    constructor
    · intro index inside
      have there := spelled index (by rw [List.length_append]; omega)
      rw [List.getElem_append_left inside] at there
      exact there
    · intro index inside
      have there := spelled (first.length + index) (by rw [List.length_append]; omega)
      rw [List.getElem_append_right (Nat.le_add_right _ _)] at there
      rw [place, there]
      simp only [Nat.add_sub_cancel_left]
  · rintro ⟨inFirst, inRest⟩ index inside
    by_cases before : index < first.length
    · rw [List.getElem_append_left before]
      exact inFirst index before
    · obtain ⟨offset, rfl⟩ := Nat.exists_eq_add_of_le (Nat.le_of_not_lt before)
      rw [List.length_append] at inside
      rw [List.getElem_append_right (Nat.le_of_not_lt before), ← place]
      simp only [Nat.add_sub_cancel_left]
      exact inRest offset (by omega)

theorem RingSpells.ringBytes_eq {chip : ChipMemory} {pointer : UInt16} {bytes : List UInt8}
    (spelled : RingSpells chip pointer bytes) :
    ringBytes chip pointer 0 bytes.length = bytes := by
  apply List.ext_getElem (ringBytes_length _ _ _ _)
  intro index _ inside
  rw [ringBytes_getElem, Nat.zero_add]
  exact spelled index inside

theorem ringAddress_ne {register : UInt16} (below : register < RxBufferAddress)
    (pointer : UInt16) (offset : Nat) :
    ringAddress RxBufferAddress pointer offset ≠ register := by
  intro same
  have above := @ringAddress_ge RxBufferAddress pointer offset (by decide)
  rw [same] at above
  exact absurd below (UInt16.not_lt.mpr above)

/-- The chip once the read pointer has been moved and it has been told. -/
def advanced (command : ChipCommand) (chip : ChipMemory) (len : UInt16) : ChipMemory :=
  setSn_CR command (setSn_RX_RD chip (getSn_RX_RD chip + len)) Sn_CR_RECV

section Advance

variable {command : ChipCommand} {chip : ChipMemory} {pointer len : UInt16}
  {first rest : List UInt8}

/-- Apart from three registers nothing changes. -/
theorem advanced_of_ne (executes : ExecutesRecv command) {address : UInt16}
    (notCommand : address ≠ Sn_CR) (notSize : address ≠ Sn_RX_RSR)
    (notSizeLow : address ≠ Sn_RX_RSR + 1) (notRead : address ≠ Sn_RX_RD)
    (notReadLow : address ≠ Sn_RX_RD + 1) :
    advanced command chip len address = chip address := by
  unfold advanced setSn_CR
  rw [executes.keeps _ _ notCommand notSize notSizeLow]
  unfold wizchipWrite
  rw [Function.update_of_ne notCommand]
  exact wizchipWriteWord_of_ne _ _ notRead notReadLow

theorem advanced_read (executes : ExecutesRecv command) :
    getSn_RX_RD (advanced command chip len) = getSn_RX_RD chip + len := by
  unfold advanced setSn_CR
  generalize moved : setSn_RX_RD chip (getSn_RX_RD chip + len) = after
  have told : getSn_RX_RD (wizchipWrite after Sn_CR Sn_CR_RECV) = getSn_RX_RD after :=
    wizchipReadWord_write_of_ne _ _ (by decide) (by decide)
  have kept : getSn_RX_RD (command Sn_CR_RECV (wizchipWrite after Sn_CR Sn_CR_RECV)) =
      getSn_RX_RD (wizchipWrite after Sn_CR Sn_CR_RECV) :=
    wizchipReadWord_congr (executes.keeps _ _ (by decide) (by decide) (by decide))
      (executes.keeps _ _ (by decide) (by decide) (by decide))
  rw [kept, told, ← moved]
  exact wizchipReadWord_write _ _ _

theorem advanced_size (executes : ExecutesRecv command) :
    wizchipReadWord (advanced command chip len) Sn_RX_RSR =
      wizchipReadWord chip Sn_RX_WR - (getSn_RX_RD chip + len) := by
  unfold advanced setSn_CR
  generalize moved : setSn_RX_RD chip (getSn_RX_RD chip + len) = after
  have read : getSn_RX_RD (wizchipWrite after Sn_CR Sn_CR_RECV) = getSn_RX_RD after :=
    wizchipReadWord_write_of_ne _ _ (by decide) (by decide)
  have written : wizchipReadWord (wizchipWrite after Sn_CR Sn_CR_RECV) Sn_RX_WR =
      wizchipReadWord after Sn_RX_WR :=
    wizchipReadWord_write_of_ne _ _ (by decide) (by decide)
  have before : wizchipReadWord after Sn_RX_WR = wizchipReadWord chip Sn_RX_WR := by
    rw [← moved]
    exact wizchipReadWord_congr (wizchipWriteWord_of_ne _ _ (by decide) (by decide))
      (wizchipWriteWord_of_ne _ _ (by decide) (by decide))
  have pointer : getSn_RX_RD after = getSn_RX_RD chip + len := by
    rw [← moved]
    exact wizchipReadWord_write _ _ _
  rw [executes.size, written, before, read, pointer]

theorem Received.advance (executes : ExecutesRecv command)
    (received : Received chip pointer (first ++ rest)) (length : first.length = len.toNat) :
    Received (advanced command chip len) (pointer + len) rest := by
  have fits := received.fits
  rw [List.length_append] at fits
  have count : UInt16.ofNat first.length = len := by rw [length, UInt16.ofNat_toNat]
  have behind : pointer + UInt16.ofNat (first ++ rest).length =
      pointer + len + UInt16.ofNat rest.length := by
    rw [List.length_append, UInt16.ofNat_add, count, UInt16.add_assoc]
  obtain ⟨-, inRest⟩ := (ringSpells_append (by omega)).mp received.ring
  rw [count] at inRest
  have written := received.written
  rw [behind] at written
  have read := received.read
  constructor
  · omega
  · rw [advanced_read executes, read]
  · refine inRest.congr fun index inside => ?_
    have notRegister {register : UInt16} (below : register < RxBufferAddress) :=
      ringAddress_ne below (pointer + len) index
    exact advanced_of_ne executes (notRegister (by decide)) (notRegister (by decide))
      (notRegister (by decide)) (notRegister (by decide)) (notRegister (by decide))
  · rw [← written]
    apply wizchipReadWord_congr
    · exact advanced_of_ne executes (by decide) (by decide) (by decide) (by decide) (by decide)
    · exact advanced_of_ne executes (by decide) (by decide) (by decide) (by decide) (by decide)
  · rw [advanced_size executes, written, read, UInt16.add_comm (pointer + len),
      UInt16.add_sub_cancel]

theorem Received.recvData (received : Received chip pointer (first ++ rest))
    (length : first.length = len.toNat) (memory : Memory) (wizdata : Nat) :
    wizchipRecvData chip memory wizdata len =
      (setSn_RX_RD chip (getSn_RX_RD chip + len), store memory wizdata first) := by
  have fits := received.fits
  rw [List.length_append] at fits
  obtain ⟨inFirst, -⟩ := (ringSpells_append (by omega)).mp received.ring
  have copied := inFirst.ringBytes_eq
  rw [length] at copied
  rw [wizchipRecvData_eq chip memory wizdata (by omega), received.read, copied]

end Advance

/-! ### A call takes a frame -/

/-- The two bytes of a length are put together again. -/
theorem head_word (head : Memory) (word : UInt16) :
    ((store head 0 (bytes16 word) 0).toUInt16 <<< 8) +
      (store head 0 (bytes16 word) 1).toUInt16 = word := by
  have high : store head 0 (bytes16 word) 0 = high16 word :=
    store_inside head 0 (bytes16 word) 0 Nat.zero_lt_two
  have low : store head 0 (bytes16 word) 1 = low16 word :=
    store_inside head 0 (bytes16 word) 1 Nat.one_lt_two
  have bound := word.toNat_lt
  rw [high, low]
  apply UInt16.toNat_inj.mp
  rw [UInt16.toNat_add, UInt16.toNat_shiftLeft, UInt8.toNat_toUInt16, UInt8.toNat_toUInt16,
    high16_toNat, low16_toNat]
  simp only [UInt16.reduceToNat, Nat.reduceMod, Nat.shiftLeft_eq]
  omega

theorem getSn_RX_RSR_returns (chip : ChipMemory) (val : UInt16) :
    Returns (receivedSizePass chip) 0 val ↔ val = wizchipReadWord chip Sn_RX_RSR := by
  have leaves : receivedSizePass chip 0 = .inr (wizchipReadWord chip Sn_RX_RSR) := by
    unfold receivedSizePass
    by_cases nonzero : wizchipReadWord chip Sn_RX_RSR ≠ 0
    · simp only [if_pos nonzero, ne_eq, not_true_eq_false, if_false]
    · have zero := not_not.mp nonzero
      simp only [zero, ne_eq, not_true_eq_false, if_false]
  constructor
  · intro returns
    exact returns.result_unique ⟨1, run_leave leaves 0⟩
  · rintro rfl
    exact ⟨1, run_leave leaves 0⟩

theorem queuedBytes_length (frame : List UInt8) :
    (queuedBytes frame).length = frame.length + 2 := by
  rw [queuedBytes, List.length_append, bytes16_length, Nat.add_comm]

section QueuedFrame

variable {chip : ChipMemory} {pointer : UInt16} {frame rest : List UInt8}

theorem Received.length_toNat {bytes : List UInt8} (received : Received chip pointer bytes) :
    (UInt16.ofNat bytes.length).toNat = bytes.length :=
  UInt16.toNat_ofNat_of_lt' (Nat.lt_of_le_of_lt received.fits (show 8192 < 65536 by decide))

theorem Received.frame_toNat (received : Received chip pointer (queuedBytes frame ++ rest)) :
    (UInt16.ofNat frame.length).toNat = frame.length := by
  have fits := received.fits
  rw [List.length_append, queuedBytes_length] at fits
  exact UInt16.toNat_ofNat_of_lt' (Nat.lt_of_le_of_lt (by omega) (show 8192 < 65536 by decide))

theorem Received.head (received : Received chip pointer (queuedBytes frame ++ rest)) :
    Received chip pointer (bytes16 (UInt16.ofNat (frame.length + 2)) ++ (frame ++ rest)) := by
  rw [← List.append_assoc]
  exact received

/-- With head and frame read, what was queued behind it is left. -/
theorem Received.frame_advance {command : ChipCommand} (executes : ExecutesRecv command)
    (received : Received chip pointer (queuedBytes frame ++ rest)) :
    Received (advanced command (advanced command chip 2) (UInt16.ofNat frame.length))
      (pointer + UInt16.ofNat (frame.length + 2)) rest := by
  have behindHead : Received (advanced command chip 2) (pointer + 2) (frame ++ rest) :=
    received.head.advance executes rfl
  have behindFrame := behindHead.advance executes received.frame_toNat.symm
  have pointers : pointer + 2 + UInt16.ofNat frame.length =
      pointer + UInt16.ofNat (frame.length + 2) := by
    rw [UInt16.ofNat_add, UInt16.add_assoc, UInt16.add_comm 2]
    rfl
  rwa [pointers] at behindFrame

/-- With the head taken off, a frame too long for the buffer is skipped and any other
copied. -/
theorem readQueued_cons {command : ChipCommand} (executes : ExecutesRecv command)
    (received : Received chip pointer (queuedBytes frame ++ rest)) (call : ReadCall)
    {len : UInt16} (nonzero : len > 0) :
    readQueued command chip call len =
      (if frame.length ≤ call.bufsize.toNat then
          (UInt16.ofNat frame.length, store call.buffer 0 frame)
        else (0, call.buffer),
        advanced command (advanced command chip 2) (UInt16.ofNat frame.length)) := by
  have length := received.frame_toNat
  have head := @Received.recvData chip pointer 2 _ _ received.head rfl call.head 0
  have behindHead : Received (advanced command chip 2) (pointer + 2) (frame ++ rest) :=
    received.head.advance executes rfl
  have body := behindHead.recvData length.symm call.buffer 0
  have payload : UInt16.ofNat (frame.length + 2) - 2 = UInt16.ofNat frame.length := by
    rw [UInt16.ofNat_add]
    exact UInt16.add_sub_cancel _ _
  unfold readQueued
  simp only [if_pos nonzero, head, head_word, payload]
  change (if UInt16.ofNat frame.length > call.bufsize then
      ((0, call.buffer), advanced command (advanced command chip 2) (UInt16.ofNat frame.length))
    else ((UInt16.ofNat frame.length, (wizchipRecvData (advanced command chip 2) call.buffer 0
      (UInt16.ofNat frame.length)).2), setSn_CR command (wizchipRecvData
        (advanced command chip 2) call.buffer 0 (UInt16.ofNat frame.length)).1 Sn_CR_RECV)) = _
  rw [body]
  by_cases room : frame.length ≤ call.bufsize.toNat
  · have taken : ¬UInt16.ofNat frame.length > call.bufsize := by
      rw [gt_iff_lt, UInt16.lt_iff_toNat_lt, length]
      omega
    rw [if_neg taken, if_pos room]
    rfl
  · have skipped : UInt16.ofNat frame.length > call.bufsize := by
      rw [gt_iff_lt, UInt16.lt_iff_toNat_lt, length]
      omega
    rw [if_pos skipped, if_neg room]

end QueuedFrame

section Steps

variable {command : ChipCommand} {queue : FrameQueue} {chip next : ChipMemory}
  {call : ReadCall}

/-- What a call gives is what the queue gives, and the chip is left with the next frame at
the read pointer. -/
theorem FrameQueue.Holds.readFrame (executes : ExecutesRecv command)
    (holds : queue.Holds chip) {outcome : UInt16 × Memory}
    (returns : ReadFrame command chip call (outcome, next)) :
    outcome = (queue.read call).1 ∧ (queue.read call).2.Holds next := by
  obtain ⟨len, isSize, called⟩ := returns
  rw [getSn_RX_RSR_returns, holds.size] at isSize
  obtain ⟨pointer, frames⟩ := queue
  cases frames with
  | nil =>
      have empty : ¬len > 0 := by
        rw [isSize]
        exact UInt16.lt_irrefl 0
      unfold readQueued at called
      rw [if_neg empty] at called
      cases called
      exact ⟨rfl, holds⟩
  | cons frame rest =>
      have received : Received chip pointer
          (queuedBytes frame ++ (FrameQueue.mk pointer rest).bytes) := holds
      have nonzero : len > 0 := by
        change len = UInt16.ofNat
          (queuedBytes frame ++ (FrameQueue.mk pointer rest).bytes).length at isSize
        rw [isSize, gt_iff_lt, UInt16.lt_iff_toNat_lt, received.length_toNat,
          List.length_append, queuedBytes_length]
        exact Nat.lt_of_lt_of_le (Nat.succ_pos _) (Nat.le_add_right _ _)
      rw [readQueued_cons executes received call nonzero] at called
      cases called
      exact ⟨rfl, received.frame_advance executes⟩

theorem FrameQueue.Holds.arrival (holds : queue.Holds chip) {frame : List UInt8}
    (arrives : Arrives frame chip next) : (queue.arrive frame).Holds next := by
  have whole : (queue.arrive frame).bytes = queue.bytes ++ queuedBytes frame := by
    unfold FrameQueue.arrive FrameQueue.bytes
    rw [List.flatMap_append, List.flatMap_singleton]
  have fits := holds.fits
  have length := Received.length_toNat holds
  have room := arrives.room
  rw [holds.size, length] at room
  have ring := arrives.ring
  have written := holds.written
  rw [written] at ring
  have inQueue : RingSpells next queue.pointer queue.bytes := by
    refine holds.ring.congr fun index inside => ?_
    have notRegister {register : UInt16} (below : register < RxBufferAddress) :=
      ringAddress_ne below queue.pointer index
    refine arrives.keeps _ (notRegister (by decide)) (notRegister (by decide))
      (notRegister (by decide)) (notRegister (by decide)) fun other otherInside same => ?_
    rw [written, ringAddress_add, length] at same
    have sameIndex := ringAddress_injective (by omega) (by omega) same
    omega
  unfold FrameQueue.Holds
  rw [whole]
  have total : UInt16.ofNat (queue.bytes ++ queuedBytes frame).length =
      UInt16.ofNat queue.bytes.length + UInt16.ofNat (queuedBytes frame).length := by
    rw [List.length_append, UInt16.ofNat_add]
  constructor
  · rw [List.length_append]
    exact room
  · refine Eq.trans ?_ holds.read
    have register : ∀ address : UInt16, address < RxBufferAddress → address ≠ Sn_RX_WR →
        address ≠ Sn_RX_WR + 1 → address ≠ Sn_RX_RSR → address ≠ Sn_RX_RSR + 1 →
          next address = chip address := by
      intro address below notHigh notLow notSize notSizeLow
      exact arrives.keeps address notHigh notLow notSize notSizeLow
        fun index _ => (ringAddress_ne below _ index).symm
    exact wizchipReadWord_congr
      (register _ (by decide) (by decide) (by decide) (by decide) (by decide))
      (register _ (by decide) (by decide) (by decide) (by decide) (by decide))
  · exact (ringSpells_append (by omega)).mpr ⟨inQueue, ring⟩
  · rw [arrives.written, written, total, UInt16.add_assoc]
    rfl
  · rw [arrives.size, holds.size, total]

end Steps

/-- Whatever commands leave the chip alone but for what they are for: in every run of calls
and arrivals, wherever the read pointer stands, the calls return what a queue of frames
would give them, and the chip holds what the queue does, with the read pointer at the start
of its first frame; and each call returns. -/
theorem receiveRun_refines {command : ChipCommand} (executes : ExecutesRecv command)
    {queue : FrameQueue} {chip last : ChipMemory} (holds : queue.Holds chip)
    {events : List ReceiveEvent} {outcomes : List (UInt16 × Memory)}
    (runs : ReceiveRun command chip events outcomes last) :
    outcomes = (queue.run events).1 ∧ (queue.run events).2.Holds last ∧
      getSn_RX_RD last = (queue.run events).2.pointer ∧
        ∀ call, ∃ result, ReadFrame command last call result := by
  have followed : outcomes = (queue.run events).1 ∧ (queue.run events).2.Holds last := by
    induction runs generalizing queue with
    | done chip => exact ⟨rfl, holds⟩
    | arrival arrives _ ih => exact ih (holds.arrival arrives)
    | readFrame returns _ ih =>
        obtain ⟨sameOutcome, holdsNext⟩ := holds.readFrame executes returns
        obtain ⟨sameRest, holdsLast⟩ := ih holdsNext
        refine ⟨?_, holdsLast⟩
        rw [sameOutcome, sameRest]
        rfl
  refine ⟨followed.1, followed.2, followed.2.read, fun call => ?_⟩
  exact ⟨_, _, (getSn_RX_RSR_returns last _).mpr rfl, rfl⟩

/-- A chip that executes every command at once, and counts at `RECV`. -/
def countingCommand : ChipCommand := fun cr chip =>
  let chip := if cr = Sn_CR_RECV then
      wizchipWriteWord chip Sn_RX_RSR (wizchipReadWord chip Sn_RX_WR - getSn_RX_RD chip)
    else chip
  wizchipWrite chip Sn_CR 0

theorem countingCommand_executes : ExecutesRecv countingCommand where
  size := fun chip => (wizchipReadWord_write_of_ne _ _ (by decide) (by decide)).trans
    (wizchipReadWord_write chip Sn_RX_RSR _)
  ends := fun chip => by
    unfold countingCommand wizchipWrite
    exact Function.update_self _ _ _
  keeps := fun chip _ notCommand notSize notSizeLow =>
    (Function.update_of_ne notCommand _ _).trans
      (wizchipWriteWord_of_ne chip _ notSize notSizeLow)

/-- Two frames, the first of which starts at the last place of the ring. -/
def wrappedQueue : FrameQueue :=
  ⟨0xFFFF, [[1, 2, 3], [4]]⟩

def wrappedChip : ChipMemory :=
  let bytes := store (fun _ => 0) 0 wrappedQueue.bytes
  let chip := wizchipWriteBuf (fun _ => 0) 0x7FFF bytes 0 1
  let chip := wizchipWriteBuf chip 0x6000 bytes 1 7
  wizchipWriteWord (wizchipWriteWord (setSn_RX_RD chip 0xFFFF) Sn_RX_WR 7) Sn_RX_RSR 8

theorem wrappedChip_holds : wrappedQueue.Holds wrappedChip where
  fits := by decide
  read := by decide +kernel
  ring := by
    have each : ∀ index, ∀ inside : index < 8, wrappedChip (ringAddress RxBufferAddress 0xFFFF
        index) = [0, 5, 1, 2, 3, 0, 3, 4].get ⟨index, inside⟩ := by
      decide +kernel
    exact each
  written := by decide +kernel
  size := by decide +kernel

/-- The first frame is too long for its call, and the second goes on behind it. -/
theorem wrappedQueue_read :
    ∃ last, ExecutesRecv countingCommand ∧ wrappedQueue.Holds wrappedChip ∧
      ReceiveRun countingCommand wrappedChip [.readFrame ⟨fun _ => 0, fun _ => 0, 2⟩,
        .readFrame ⟨fun _ => 0, fun _ => 0, 600⟩]
          [(0, fun _ => 0), (1, store (fun _ => 0) 0 [4])] last ∧
      getSn_RX_RD last = 7 := by
  obtain ⟨⟨first, between⟩, firstReturns⟩ : ∃ result, ReadFrame countingCommand wrappedChip
      ⟨fun _ => 0, fun _ => 0, 2⟩ result :=
    ⟨_, _, (getSn_RX_RSR_returns _ _).mpr rfl, rfl⟩
  obtain ⟨⟨second, last⟩, secondReturns⟩ : ∃ result, ReadFrame countingCommand between
      ⟨fun _ => 0, fun _ => 0, 600⟩ result :=
    ⟨_, _, (getSn_RX_RSR_returns _ _).mpr rfl, rfl⟩
  have runs := ReceiveRun.readFrame firstReturns (.readFrame secondReturns (.done last))
  have refined := receiveRun_refines countingCommand_executes wrappedChip_holds runs
  have results : [first, second] = [(0, fun _ => 0), (1, store (fun _ => 0) 0 [4])] :=
    refined.1
  rw [results] at runs
  exact ⟨last, countingCommand_executes, wrappedChip_holds, runs, refined.2.2.1⟩

end W5100

end EtherSiaStack
