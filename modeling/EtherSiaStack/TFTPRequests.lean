/-
Requests of the TFTP server, and what its calls into the application point at.

`handleRequest` hands `openFile` a pointer to the third byte of the payload, and
`handleWriteRequest` hands `writeBytes` a pointer to the fifth and the payload's length
less 4.  Neither looks at the length first: a name is inside the payload when a NUL is,
and a block when the payload has at least its header and at most a full block.
-/

import EtherSiaStack.ExposedPayload
import EtherSiaStack.TFTPWrite

namespace EtherSiaStack

open ByteMemory IPv6Packet Trace

namespace TFTPServer

def TFTP_OPCODE_READ : UInt8 := 1
def TFTP_OPCODE_WRITE : UInt8 := 2
def TFTP_OPCODE_ERROR : UInt8 := 5
def TFTP_NOT_FOUND : UInt8 := 1
def TFTP_ILLEGAL_OPERATION : UInt8 := 4

/-! ### sendError -/

/-- The texts: "Not Found", "Illegal Op" and "Error". -/
def errstr (errorCode : UInt8) : List UInt8 :=
  if errorCode = TFTP_NOT_FOUND then [0x4e, 0x6f, 0x74, 0x20, 0x46, 0x6f, 0x75, 0x6e, 0x64]
  else if errorCode = TFTP_ILLEGAL_OPERATION then
    [0x49, 0x6c, 0x6c, 0x65, 0x67, 0x61, 0x6c, 0x20, 0x4f, 0x70]
  else [0x45, 0x72, 0x72, 0x6f, 0x72]

def sendError (server : Socket) (errorCode : UInt8) (ether : EtherSia) : EtherSia :=
  let text := errstr errorCode
  let ether := ether.modifyPacket fun packet =>
    let packet := store packet UDPSocket.payload [0x00, TFTP_OPCODE_ERROR, 0x00, errorCode]
    store packet (UDPSocket.payload + 4) (text ++ [0])
  UDPSocket.send server (4 + (UInt16.ofNat text.length + 1)) true ether

/-! ### handleRequest -/

/-- The transfer that a request starts, with its arguments. -/
inductive Transfer
  | read (fileno : Int8) (address : IPv6Address) (port : UInt16)
  | write (fileno : Int8) (address : IPv6Address) (port : UInt16)

/-- The result of `handleRequest` up to the transfer; `filename` is the address `openFile`
was called with, if it was. -/
structure HandledRequest where
  handled : Bool
  filename : Option Nat
  transfer : Option Transfer
  ether : EtherSia

/-- `openFile` is the application's: it is given the memory and the pointer. -/
def handleRequest (server : Socket) (openFile : Memory → Nat → Int8) (ether : EtherSia) :
    HandledRequest :=
  let packet := ether.buffer
  if UDPSocket.havePacket server ether = false then
    { handled := false, filename := none, transfer := none, ether := ether }
  else if hasOpcode packet TFTP_OPCODE_READ ∨ hasOpcode packet TFTP_OPCODE_WRITE then
    let filename := UDPSocket.payload + 2
    let fileno := openFile packet filename
    if fileno ≤ 0 then
      { handled := true
        filename := some filename
        transfer := none
        ether := sendError server TFTP_NOT_FOUND ether }
    else if hasOpcode packet TFTP_OPCODE_READ then
      { handled := true
        filename := some filename
        transfer := some (.read fileno (source packet) (UDPHeader.sourcePort packet))
        ether := ether }
    else
      { handled := true
        filename := some filename
        transfer := some (.write fileno (source packet) (UDPHeader.sourcePort packet))
        ether := ether }
  else
    { handled := true
      filename := none
      transfer := none
      ether := sendError server TFTP_ILLEGAL_OPERATION ether }

/-! ### The name of the file -/

/-- The string at `address` is ended by the NUL at `nul`. -/
def EndsAt (packet : Memory) (address nul : Nat) : Prop :=
  address ≤ nul ∧ packet nul = 0 ∧ ∀ index, address ≤ index → index < nul → packet index ≠ 0

/-- Where the UDP payload of the packet ends. -/
def payloadEnd (packet : Memory) : Nat :=
  UDPSocket.payload + (UDPSocket.payloadLength packet).toNat

/-- `openFile`, if it is called, is called with a string that ends inside the payload; the
payload itself is inside its packet. -/
def FilenameInside (server : Socket) (openFile : Memory → Nat → Int8) (ether : EtherSia) :
    Prop :=
  UDPSocket.ExposesPayload ether.buffer →
    ∀ filename, (handleRequest server openFile ether).filename = some filename →
      UDPSocket.payload ≤ filename ∧
        ∃ nul, EndsAt ether.buffer filename nul ∧ nul < payloadEnd ether.buffer

/-- The packet is a request for this server. -/
def IsRequest (server : Socket) (ether : EtherSia) : Prop :=
  UDPSocket.havePacket server ether = true ∧
    (hasOpcode ether.buffer TFTP_OPCODE_READ = true ∨
      hasOpcode ether.buffer TFTP_OPCODE_WRITE = true)

instance (server : Socket) (ether : EtherSia) : Decidable (IsRequest server ether) :=
  inferInstanceAs (Decidable (_ ∧ (_ ∨ _)))

instance (packet : Memory) : Decidable (UDPSocket.LengthFits packet) :=
  inferInstanceAs (Decidable (_ ∧ (_ ∨ _)))

instance (packet : Memory) : Decidable (UDPSocket.ExposesPayload packet) :=
  decidable_of_iff _ (UDPSocket.exposesPayload_iff packet).symm

/-- Behind its first two bytes, the payload of a request has a NUL. -/
def NulInRequest (server : Socket) (ether : EtherSia) : Prop :=
  UDPSocket.ExposesPayload ether.buffer → IsRequest server ether →
    0 ∈ (bytesAt ether.buffer UDPSocket.payload
      (UDPSocket.payloadLength ether.buffer).toNat).drop 2

instance (server : Socket) (ether : EtherSia) : Decidable (NulInRequest server ether) :=
  inferInstanceAs (Decidable (_ → _ → _))

theorem handleRequest_filename (server : Socket) (openFile : Memory → Nat → Int8)
    (ether : EtherSia) :
    (handleRequest server openFile ether).filename =
      if IsRequest server ether then some (UDPSocket.payload + 2) else none := by
  by_cases isRequest : IsRequest server ether
  · have taken : ¬ UDPSocket.havePacket server ether = false := by
      rw [isRequest.1]
      decide
    rw [if_pos isRequest]
    unfold handleRequest
    dsimp only
    rw [if_neg taken, if_pos isRequest.2]
    split_ifs
    · rfl
    · rfl
    · rfl
  · rw [if_neg isRequest]
    unfold handleRequest
    dsimp only
    split_ifs with notTaken isOpcode
    · rfl
    · exact absurd ⟨Bool.not_eq_false _ ▸ notTaken, isOpcode⟩ isRequest
    · exact absurd ⟨Bool.not_eq_false _ ▸ notTaken, isOpcode⟩ isRequest
    · exact absurd ⟨Bool.not_eq_false _ ▸ notTaken, isOpcode⟩ isRequest
    · rfl

theorem mem_drop_bytesAt_iff {packet : Memory} {address count skipped : Nat} {byte : UInt8} :
    byte ∈ (bytesAt packet address count).drop skipped ↔
      ∃ place, address + skipped ≤ place ∧ place < address + count ∧ packet place = byte := by
  rw [drop_bytesAt]
  unfold bytesAt
  rw [List.mem_map]
  constructor
  · rintro ⟨offset, inside, isByte⟩
    have below := List.mem_range.mp inside
    exact ⟨address + skipped + offset, by omega, by omega, isByte⟩
  · rintro ⟨place, lower, upper, isByte⟩
    refine ⟨place - (address + skipped), List.mem_range.mpr (by omega), ?_⟩
    rw [Nat.add_sub_cancel' lower]
    exact isByte

/-- The first NUL of a range that has one. -/
theorem exists_endsAt_iff {packet : Memory} {address last : Nat} :
    (∃ nul, EndsAt packet address nul ∧ nul < last) ↔
      ∃ place, address ≤ place ∧ place < last ∧ packet place = 0 := by
  constructor
  · rintro ⟨nul, ⟨lower, isNul, -⟩, inside⟩
    exact ⟨nul, lower, inside, isNul⟩
  · intro found
    let first := Nat.find found
    obtain ⟨lower, inside, isNul⟩ : address ≤ first ∧ first < last ∧ packet first = 0 :=
      Nat.find_spec found
    refine ⟨first, ⟨lower, isNul, fun index above before isZero => ?_⟩, inside⟩
    exact Nat.find_min found before ⟨above, Nat.lt_trans before inside, isZero⟩

theorem filenameInside_iff (server : Socket) (openFile : Memory → Nat → Int8)
    (ether : EtherSia) :
    FilenameInside server openFile ether ↔ NulInRequest server ether := by
  apply imp_congr_right
  intro _exposes
  rw [handleRequest_filename, mem_drop_bytesAt_iff]
  by_cases isRequest : IsRequest server ether
  · rw [if_pos isRequest]
    constructor
    · intro inside _
      exact exists_endsAt_iff.mp (inside _ rfl).2
    · intro hasNul filename called
      cases called
      exact ⟨Nat.le_add_right _ _, exists_endsAt_iff.mpr (hasNul isRequest)⟩
  · rw [if_neg isRequest]
    exact iff_of_true (fun filename called => by cases called)
      fun request => absurd request isRequest

/-! ### The blocks of a write request -/

/-- The calls of `writeBytes` that a pass makes. -/
def writeCalls (taken : Taken WriteTransfer WritePass) : List (UInt16 × List UInt8) :=
  taken.after.written.drop taken.before.written.length

/-- The bytes `writeBytes` is handed are bytes of the payload received, as they stand
there, and 512 at most; the payload itself is inside its packet. -/
def CallsInside (taken : Taken WriteTransfer WritePass) : Prop :=
  OnReceipt taken.before.ether taken.event.frame fun ether =>
    UDPSocket.ExposesPayload ether.buffer → ∀ call ∈ writeCalls taken,
      call.2 = bytesAt ether.buffer (UDPSocket.payload + 4) call.2.length ∧
        UDPSocket.payload + 4 + call.2.length ≤ payloadEnd ether.buffer ∧
          call.2.length ≤ TFTP_BLOCK_SIZE.toNat

/-- The packet that is taken for the block waited for has the header of a DATA message,
and not more than a full block behind it. -/
def BlockSized (data : Socket) (taken : Taken WriteTransfer WritePass) : Prop :=
  OnReceipt taken.before.ether taken.event.frame fun ether =>
    UDPSocket.ExposesPayload ether.buffer → UDPSocket.havePacket data ether = true →
      hasOpcode ether.buffer TFTP_OPCODE_DATA = true →
        blockNumber ether.buffer = taken.before.expectedBlock →
          4 ≤ UDPSocket.payloadLength ether.buffer ∧
            UDPSocket.payloadLength ether.buffer ≤ 4 + TFTP_BLOCK_SIZE

/-- The packet is the block waited for. -/
def IsNextBlock (data : Socket) (expectedBlock : UInt16) (ether : EtherSia) : Prop :=
  UDPSocket.havePacket data ether = true ∧
    hasOpcode ether.buffer TFTP_OPCODE_DATA = true ∧
      blockNumber ether.buffer = expectedBlock

theorem handleReceived_written {data : Socket} {writeTime : UInt32}
    {transfer : WriteTransfer} :
    (IsNextBlock data transfer.expectedBlock transfer.ether →
      (handleReceived data writeTime transfer).written = transfer.written ++
        [(transfer.expectedBlock, bytesAt transfer.ether.buffer (UDPSocket.payload + 4)
          (UDPSocket.payloadLength transfer.ether.buffer - 4).toNat)]) ∧
      (¬ IsNextBlock data transfer.expectedBlock transfer.ether →
        (handleReceived data writeTime transfer).written = transfer.written) := by
  unfold handleReceived
  constructor
  · rintro ⟨taken, isData, isNext⟩
    rw [if_pos ⟨taken, isData⟩, handleData_next isNext, sendAck_dataBytes]
  · intro notNext
    split
    · rename_i isMessage
      have other : blockNumber transfer.ether.buffer ≠ transfer.expectedBlock :=
        fun isNext => notNext ⟨isMessage.1, isMessage.2, isNext⟩
      rcases Nat.lt_or_gt_of_ne (fun same => other (UInt16.toNat_inj.mp same)) with
        isPast | isFuture
      · rw [handleData_past (UInt16.lt_iff_toNat_lt.mpr isPast)]
      · rw [handleData_future (UInt16.lt_iff_toNat_lt.mpr isFuture)]
    · rfl

theorem writePass_writeCalls {data : Socket} {taken : Taken WriteTransfer WritePass}
    (stepped : writePass data taken.before taken.event = some taken.after) :
    ∃ len ether, taken.before.ether.receivePacket taken.event.frame = some (len, ether) ∧
      (IsNextBlock data taken.before.expectedBlock ether →
        writeCalls taken = [(taken.before.expectedBlock, bytesAt ether.buffer
          (UDPSocket.payload + 4) (UDPSocket.payloadLength ether.buffer - 4).toNat)]) ∧
      (¬ IsNextBlock data taken.before.expectedBlock ether → writeCalls taken = []) := by
  unfold writePass at stepped
  split at stepped
  · cases stepped
  · obtain ⟨⟨len, ether⟩, received, same⟩ := Option.map_eq_some_iff.mp stepped
    let receiving : WriteTransfer := { taken.before with ether := ether }
    have written : taken.after.written =
        (handleReceived data taken.event.writeTime receiving).written := by
      rw [← same]
      dsimp only
      split
      · rfl
      · rfl
    obtain ⟨next, other⟩ := @handleReceived_written data taken.event.writeTime receiving
    refine ⟨len, ether, received, fun isNext => ?_, fun notNext => ?_⟩
    · unfold writeCalls
      rw [written, next isNext]
      exact List.drop_left
    · unfold writeCalls
      rw [written, other notNext]
      exact List.drop_length

/-- The step lemma: the length behind the header, as a `uint16_t`. -/
theorem callsInside_iff {data : Socket} {taken : Taken WriteTransfer WritePass}
    (stepped : writePass data taken.before taken.event = some taken.after) :
    CallsInside taken ↔ BlockSized data taken := by
  obtain ⟨len, ether, received, next, other⟩ := writePass_writeCalls stepped
  unfold CallsInside BlockSized
  rw [onReceipt_iff received, onReceipt_iff received]
  apply imp_congr_right
  intro exposes
  by_cases isNext : IsNextBlock data taken.before.expectedBlock ether
  · have number := UInt16.toNat_sub (UDPSocket.payloadLength ether.buffer) 4
    have bound := (UDPSocket.payloadLength ether.buffer).toNat_lt
    have most : (4 + TFTP_BLOCK_SIZE).toNat = 516 := rfl
    have four : (4 : UInt16).toNat = 4 := rfl
    rw [next isNext, List.forall_mem_singleton, bytesAt_length, UInt16.le_iff_toNat_le,
      UInt16.le_iff_toNat_le, most, four]
    unfold payloadEnd
    change _ = (65536 - 4 + _) % 65536 at number
    change _ < 65536 at bound
    have sizes : (UDPSocket.payload + 4 + (UDPSocket.payloadLength ether.buffer - 4).toNat ≤
          UDPSocket.payload + (UDPSocket.payloadLength ether.buffer).toNat ∧
        (UDPSocket.payloadLength ether.buffer - 4).toNat ≤ TFTP_BLOCK_SIZE.toNat) ↔
          4 ≤ (UDPSocket.payloadLength ether.buffer).toNat ∧
            (UDPSocket.payloadLength ether.buffer).toNat ≤ 516 := by
      change _ ∧ _ ≤ 512 ↔ _
      omega
    constructor
    · intro call _ _ _
      exact sizes.mp call.2
    · intro sized
      exact ⟨rfl, sizes.mpr (sized isNext.1 isNext.2.1 isNext.2.2)⟩
  · rw [other isNext]
    refine iff_of_true (fun call none => absurd none List.not_mem_nil) ?_
    exact fun have_ isData number => absurd ⟨have_, isData, number⟩ isNext

theorem callsInside_run_iff (data : Socket) (now : UInt32) (ether : EtherSia)
    (passes : List WritePass) :
    Always (writePass data) (writeStart data now ether) passes CallsInside ↔
      Always (writePass data) (writeStart data now ether) passes (BlockSized data) := by
  constructor
  · intro inside taken member
    exact (callsInside_iff (step_of_mem_trace member)).mp (inside taken member)
  · intro sized taken member
    exact (callsInside_iff (step_of_mem_trace member)).mpr (sized taken member)

/-! ### Requests and their transfers -/

/-- For every packet a server handles and every run of a write transfer: what the
application is handed is inside the UDP payload exactly when the requests have their NUL
there and the blocks their header and no more than 512 bytes. -/
theorem tftp_calls_inside_iff (server data : Socket) (openFile : Memory → Nat → Int8)
    (ether later : EtherSia) (now : UInt32) (passes : List WritePass) :
    (FilenameInside server openFile ether ↔ NulInRequest server ether) ∧
      (Always (writePass data) (writeStart data now later) passes CallsInside ↔
        Always (writePass data) (writeStart data now later) passes (BlockSized data)) :=
  ⟨filenameInside_iff server openFile ether, callsInside_run_iff data now later passes⟩

/-- A read request for "a" without the NUL, to port 69. -/
def unterminatedRequest : Frame :=
  exampleFrame 11 IP6_PROTO_UDP [0x03, 0xe8, 0, 69, 0, 11, 0x9f, 0xa5, 0, 1, 0x61]
    (by decide)

/-- DATA(1) with 513 bytes, from port 1000. -/
def longBlock : WritePass where
  frame := exampleFrame 525 IP6_PROTO_UDP
    ([0x03, 0xe8, 0x4e, 0x20, 0x02, 0x0d, 0xec, 0x61, 0, 3, 0, 1] ++ List.replicate 513 0x61)
    (by rw [List.length_append, List.length_replicate]; decide)
  writeTime := 1
  testTime := 2

theorem longBlock_received :
    (exampleWrite 1000).ether.receivePacket longBlock.frame =
      some (UInt16.ofNat longBlock.frame.octets.length,
        (exampleWrite 1000).ether.accepted longBlock.frame) := by
  refine EtherSia.receivePacket_of_not_icmp ⟨by decide +kernel, ?_⟩ (by decide +kernel)
  refine (EtherSia.acceptsPacket_iff _).mpr ⟨?_, by decide +kernel⟩
  refine (isValid_iff _).mpr ⟨by decide +kernel, by decide +kernel, ?_⟩
  have loaded : ((exampleWrite 1000).ether.loadFrame longBlock.frame).buffer =
      store (exampleWrite 1000).ether.buffer 0 longBlock.frame.octets := rfl
  rw [loaded, calculateChecksum_store (by decide +kernel)]
  decide +kernel

/-- The name runs on behind the packet, and the block is longer than a block. -/
theorem tftp_calls_reach_outside :
    ¬ FilenameInside (exampleSocket 69) (fun _ _ => 1)
        (exampleStation.ether.accepted unterminatedRequest) ∧
      ¬ Always (writePass (exampleTransfer 1000)) (exampleWrite 1000) [longBlock]
        CallsInside := by
  constructor
  · rw [filenameInside_iff]
    decide +kernel
  · intro inside
    let received := (exampleWrite 1000).ether.accepted longBlock.frame
    obtain ⟨after, stepped⟩ : ∃ after, writePass (exampleTransfer 1000) (exampleWrite 1000)
        longBlock = some after := by
      have running : ¬ (exampleWrite 1000).ended = true := Bool.false_ne_true
      unfold writePass
      rw [if_neg running, longBlock_received]
      exact ⟨_, rfl⟩
    let taken : Taken WriteTransfer WritePass := ⟨exampleWrite 1000, longBlock, after⟩
    have here : CallsInside taken := inside taken (by
      rw [trace_cons_of_step stepped]
      exact List.mem_cons_self)
    have exposes : UDPSocket.ExposesPayload received.buffer := by
      rw [UDPSocket.exposesPayload_iff]
      decide +kernel
    have block := (@callsInside_iff _ taken stepped).mp here
    unfold BlockSized at block
    rw [onReceipt_iff longBlock_received] at block
    have isNext : blockNumber received.buffer = (exampleWrite 1000).expectedBlock := by
      decide +kernel
    have sized := block exposes (by decide +kernel) (by decide +kernel) isNext
    have tooLong : ¬ UDPSocket.payloadLength received.buffer ≤ 4 + TFTP_BLOCK_SIZE := by
      decide +kernel
    exact tooLong sized.2

end TFTPServer

end EtherSiaStack
