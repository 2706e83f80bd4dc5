/-
The TFTP server's two transfers.

A transfer has a socket of its own, set to the address and the port of the client;
the loops receive into the same buffer in which they build their messages.  A pass
is given the frame `readFrame` delivers and the readings of `millis()`, and a step
is missing only when `receivePacket` never returns.  The application's part is a
parameter: `readBytes` gives the bytes of a block, and what `writeBytes` is called
with is recorded.
-/

import EtherSiaStack.Datagram
import EtherSiaStack.Library.Trace

namespace EtherSiaStack

open ByteMemory IPv6Packet

namespace TFTPServer

def TFTP_OPCODE_DATA : UInt8 := 3
def TFTP_OPCODE_ACK : UInt8 := 4
def TFTP_BLOCK_SIZE : UInt16 := 512
def TFTP_DATA_TIMEOUT : UInt32 := 10000
def TFTP_ACK_TIMEOUT : UInt32 := 100
def TFTP_RETRIES : UInt8 := 10

/-! ### Messages -/

/-- The first four bytes of a DATA or an ACK message. -/
def header (opcode : UInt8) (block : UInt16) : List UInt8 :=
  0x00 :: opcode :: bytes16 block

/-- `payload[0] == 0x00 && payload[1] == opcode`. -/
def hasOpcode (packet : Memory) (opcode : UInt8) : Bool :=
  packet UDPSocket.payload = 0x00 ∧ packet (UDPSocket.payload + 1) = opcode

/-- `bytesToWord(payload[2], payload[3])`. -/
def blockNumber (packet : Memory) : UInt16 :=
  u16At packet (UDPSocket.payload + 2)

def sendAck (sock : Socket) (block : UInt16) (ether : EtherSia) : EtherSia :=
  let ether := ether.modifyPacket fun packet =>
    store packet UDPSocket.payload (header TFTP_OPCODE_ACK block)
  UDPSocket.send sock 4 false ether

/-! ### handleWriteRequest -/

/-- What a pass gets from outside; `writeTime` is the reading after a block has been
written, `testTime` the one at the end of the pass. -/
structure WritePass where
  frame : Frame
  writeTime : UInt32
  testTime : UInt32

/-- The locals, the interface and the calls of `writeBytes` so far. -/
structure WriteTransfer where
  ether : EtherSia
  timeout : UInt32
  expectedBlock : UInt16
  written : List (UInt16 × List UInt8)
  ended : Bool

def writeStart (data : Socket) (now : UInt32) (ether : EtherSia) : WriteTransfer where
  ether := sendAck data 0 ether
  timeout := now + TFTP_DATA_TIMEOUT
  expectedBlock := 1
  written := []
  ended := false

/-- The part for a DATA message. -/
def handleData (data : Socket) (writeTime : UInt32) (transfer : WriteTransfer) :
    WriteTransfer :=
  let len := UDPSocket.payloadLength transfer.ether.buffer - 4
  let block := blockNumber transfer.ether.buffer
  let transfer :=
    if block ≤ transfer.expectedBlock then
      -- current or past blocks, which may be duplicates
      { transfer with ether := sendAck data block transfer.ether }
    else transfer
  if block = transfer.expectedBlock then
    let bytes := bytesAt transfer.ether.buffer (UDPSocket.payload + 4) len.toNat
    { transfer with
      written := transfer.written ++ [(block, bytes)]
      expectedBlock := transfer.expectedBlock + 1
      timeout := writeTime + TFTP_DATA_TIMEOUT
      ended := len ≠ TFTP_BLOCK_SIZE }
  else transfer

def handleReceived (data : Socket) (writeTime : UInt32) (transfer : WriteTransfer) :
    WriteTransfer :=
  if UDPSocket.havePacket data transfer.ether ∧
      hasOpcode transfer.ether.buffer TFTP_OPCODE_DATA then
    handleData data writeTime transfer
  else transfer

/-- One pass of the loop, while the transfer has not ended. -/
def writePass (data : Socket) (transfer : WriteTransfer) (pass : WritePass) :
    Option WriteTransfer :=
  if transfer.ended then none
  else
    (transfer.ether.receivePacket pass.frame).map fun (_, ether) =>
      let transfer := handleReceived data pass.writeTime { transfer with ether := ether }
      if (transfer.timeout - pass.testTime).toInt32 ≤ 0 then
        { transfer with ended := true }
      else transfer

/-! ### handleReadRequest -/

/-- How the loop of a read request is left. -/
inductive ReadEnd
  | finished
  | tooManyRetries
  | outOfBlocks
  deriving DecidableEq, Repr

/-- What a pass of the loop in `waitForAck` gets from outside; `restartTime` is the
reading at the start of the next call. -/
structure ReadPass where
  frame : Frame
  testTime : UInt32
  restartTime : UInt32

/-- The locals of both functions and the interface. -/
structure ReadTransfer where
  ether : EtherSia
  block : UInt16
  retries : UInt8
  len : UInt16
  timeout : UInt32
  left : Option ReadEnd

/-- The loop's test, its statements up to the call of `waitForAck`, and the first of
that function. -/
def sendBlock (data : Socket) (readBytes : UInt16 → List UInt8) (now : UInt32)
    (transfer : ReadTransfer) : ReadTransfer :=
  if transfer.block < 0xFFFF then
    let ether := transfer.ether.modifyPacket fun packet =>
      store packet UDPSocket.payload (header TFTP_OPCODE_DATA transfer.block)
    let bytes := readBytes transfer.block
    let ether := ether.modifyPacket fun packet =>
      store packet (UDPSocket.payload + 4) bytes
    let len := UInt16.ofNat bytes.length
    { transfer with
      ether := UDPSocket.send data (len + 4) false ether
      len := len
      timeout := now + TFTP_ACK_TIMEOUT }
  else { transfer with left := some .outOfBlocks }

def readStart (data : Socket) (readBytes : UInt16 → List UInt8) (now : UInt32)
    (ether : EtherSia) : ReadTransfer :=
  sendBlock data readBytes now
    { ether := ether, block := 1, retries := 0, len := 0, timeout := 0, left := none }

/-- One pass of the loop in `waitForAck`, behind `receivePacket`: its result, if it
returns. -/
def waitForAckPass (sock : Socket) (expectedBlock : UInt16) (timeout now : UInt32)
    (ether : EtherSia) : Option Bool :=
  if UDPSocket.havePacket sock ether ∧ hasOpcode ether.buffer TFTP_OPCODE_ACK then
    some (blockNumber ether.buffer = expectedBlock)
  else if (timeout - now).toInt32 > 0 then none
  else some false

/-- What the loop does with the result of `waitForAck`. -/
def afterWait (data : Socket) (readBytes : UInt16 → List UInt8) (now : UInt32)
    (gotAck : Bool) (transfer : ReadTransfer) : ReadTransfer :=
  if gotAck then
    let transfer := { transfer with block := transfer.block + 1, retries := 0 }
    if transfer.len < TFTP_BLOCK_SIZE then { transfer with left := some .finished }
    else sendBlock data readBytes now transfer
  else
    let transfer := { transfer with retries := transfer.retries + 1 }
    if transfer.retries > TFTP_RETRIES then
      { transfer with left := some .tooManyRetries }
    else sendBlock data readBytes now transfer

/-- One pass of the inner loop, while the outer one has not been left. -/
def readPass (data : Socket) (readBytes : UInt16 → List UInt8) (transfer : ReadTransfer)
    (pass : ReadPass) : Option ReadTransfer :=
  if transfer.left.isSome then none
  else
    (transfer.ether.receivePacket pass.frame).map fun (_, ether) =>
      let transfer := { transfer with ether := ether }
      match waitForAckPass data transfer.block transfer.timeout pass.testTime ether with
      | none => transfer
      | some gotAck => afterWait data readBytes pass.restartTime gotAck transfer

/-! ### Messages in frames -/

/-- The frame is a datagram that starts with the header of a message. -/
def IsMessage (opcode : UInt8) (block : UInt16) (octets : List UInt8) : Prop :=
  octets[20]? = some IP6_PROTO_UDP ∧ (octets.drop 62).take 4 = header opcode block

instance (opcode : UInt8) (block : UInt16) (octets : List UInt8) :
    Decidable (IsMessage opcode block octets) :=
  inferInstanceAs (Decidable (_ ∧ _))

theorem header_length (opcode : UInt8) (block : UInt16) :
    (header opcode block).length = 4 :=
  rfl

theorem header_inj {opcode other : UInt8} {block number : UInt16}
    (same : header opcode block = header other number) :
    opcode = other ∧ block = number := by
  obtain ⟨_, rest⟩ := List.cons.inj same
  obtain ⟨sameOpcode, words⟩ := List.cons.inj rest
  refine ⟨sameOpcode, ?_⟩
  obtain ⟨high, low⟩ := List.cons.inj words
  rw [← be16_high16_low16 block, ← be16_high16_low16 number, high,
    (List.cons.inj low).1]

/-- The one frame sent in between is a datagram with this data. -/
def SendsData (data : List UInt8) (before after : EtherSia) : Prop :=
  ∃ octets, after.sent = before.sent ++ [octets] ∧
    octets[20]? = some IP6_PROTO_UDP ∧ octets.drop 62 = data

theorem sendData_sendsData (socket : Socket) {data : List UInt8} (ether : EtherSia)
    (fits : data.length ≤ 538) :
    SendsData data ether (UDPSocket.sendData socket data false ether) := by
  have carries := UDPSocket.sendData_carries socket data false ether
    (fun isReply => by cases isReply) fits
  have ends : packetEnd (UDPSocket.sendData socket data false ether).buffer =
      62 + data.length := carries.packetEnd_eq
  have sent := UDPSocket.sendData_sent socket data false ether
    (fun isReply => by cases isReply) fits
  have octets : (UDPSocket.sentFrame socket data false ether).octets =
      bytesAt (UDPSocket.sendData socket data false ether).buffer 0
        (62 + data.length) := by
    unfold UDPSocket.sentFrame
    rw [delivered_octets (by omega), ends]
  rw [octets] at sent
  refine ⟨_, sent, ?_, ?_⟩
  · rw [getElem?_bytesAt (by omega)]
    exact congrArg some carries.isUdp
  · have spelled : bytesAt (UDPSocket.sendData socket data false ether).buffer 62
        data.length = data := carries.data
    rw [bytesAt_add, Nat.zero_add, spelled]
    exact List.drop_left' (bytesAt_length _ _ _)

theorem sendAck_sendsData (sock : Socket) (block : UInt16) (ether : EtherSia) :
    SendsData (header TFTP_OPCODE_ACK block) ether (sendAck sock block ether) :=
  sendData_sendsData sock ether (by rw [header_length]; decide)

/-- No frame sent in between is a datagram. -/
def SendsNoDatagram (before after : EtherSia) : Prop :=
  ∃ frames, after.sent = before.sent ++ frames ∧
    ∀ octets ∈ frames, octets[20]? ≠ some IP6_PROTO_UDP

theorem sendsNoDatagram_of_same {before after : EtherSia}
    (same : after.sent = before.sent) : SendsNoDatagram before after :=
  ⟨[], by rw [same, List.append_nil], fun _ none => absurd none List.not_mem_nil⟩

theorem icmp6PacketSend_sendsNoDatagram {before ether : EtherSia}
    (same : ether.sent = before.sent) :
    SendsNoDatagram before ether.icmp6PacketSend := by
  let packet := storeChecksum (setProtocol ether.buffer IP6_PROTO_ICMP6)
    ICMPv6Packet.checksumAddress
  refine ⟨[packetOctets packet], ?_, fun octets member => ?_⟩
  · rw [← same]
    rfl
  · have isIcmp : packet 20 = IP6_PROTO_ICMP6 := by
      simp [packet, storeChecksum, ICMPv6Packet.checksumAddress]
    rw [List.mem_singleton.mp member]
    unfold packetOctets
    by_cases long : 20 < (length packet).toNat
    · rw [getElem?_bytesAt long, Nat.zero_add, isIcmp]
      decide
    · rw [List.getElem?_eq_none (by rw [bytesAt_length]; omega)]
      exact Option.some_ne_none _ ∘ Eq.symm

theorem icmp6ProcessPacket_sendsNoDatagram {ether after : EtherSia} {handled : Bool}
    (returned : ether.icmp6ProcessPacket = some (handled, after)) :
    SendsNoDatagram ether after := by
  unfold EtherSia.icmp6ProcessPacket at returned
  split_ifs at returned with notOurs isSolicitation isEcho isRouter
  · cases returned
    exact sendsNoDatagram_of_same rfl
  · cases returned
    unfold EtherSia.icmp6NSReply
    dsimp only
    split_ifs
    · exact sendsNoDatagram_of_same rfl
    · exact icmp6PacketSend_sendsNoDatagram rfl
  · cases returned
    exact icmp6PacketSend_sendsNoDatagram rfl
  · obtain ⟨advertised, walked, same⟩ := Option.map_eq_some_iff.mp returned
    cases same
    obtain ⟨_, _, _, rfl⟩ := EtherSia.icmp6ProcessRA_configuresOnly walked
    exact sendsNoDatagram_of_same rfl
  · cases returned
    exact sendsNoDatagram_of_same rfl

theorem dispatchReceived_sendsNoDatagram {ether after : EtherSia} {len result : UInt16}
    (returned : ether.dispatchReceived len = some (result, after)) :
    SendsNoDatagram ether after := by
  unfold EtherSia.dispatchReceived at returned
  split at returned
  · obtain ⟨⟨handled, processed⟩, walked, same⟩ := Option.map_eq_some_iff.mp returned
    have afterSame : processed = after := by
      cases handled <;> exact (Prod.mk.inj same).2
    subst afterSame
    exact icmp6ProcessPacket_sendsNoDatagram walked
  · cases returned
    exact sendsNoDatagram_of_same rfl

/-- While a packet is received, at most ICMPv6 messages are sent. -/
theorem receivePacket_sendsNoDatagram {ether after : EtherSia} {frame : Frame}
    {len : UInt16} (returned : ether.receivePacket frame = some (len, after)) :
    SendsNoDatagram ether after := by
  by_cases accepts : ether.Accepts frame
  · rw [EtherSia.receivePacket_of_accepts accepts] at returned
    have dispatched : SendsNoDatagram (ether.accepted frame) after :=
      dispatchReceived_sendsNoDatagram returned
    exact dispatched
  · rw [EtherSia.receivePacket_of_not_accepts accepts] at returned
    cases returned
    exact sendsNoDatagram_of_same rfl

/-- The message a block is sent in. -/
theorem sendBlock_eq {data : Socket} {readBytes : UInt16 → List UInt8} {now : UInt32}
    {transfer : ReadTransfer} (inRange : transfer.block < 0xFFFF) :
    sendBlock data readBytes now transfer = { transfer with
      ether := UDPSocket.sendData data
        (header TFTP_OPCODE_DATA transfer.block ++ readBytes transfer.block) false
        transfer.ether
      len := UInt16.ofNat (readBytes transfer.block).length
      timeout := now + TFTP_ACK_TIMEOUT } := by
  have length : UInt16.ofNat
      (header TFTP_OPCODE_DATA transfer.block ++ readBytes transfer.block).length =
      UInt16.ofNat (readBytes transfer.block).length + 4 := by
    rw [List.length_append, header_length, Nat.add_comm, UInt16.ofNat_add]
    rfl
  unfold sendBlock UDPSocket.sendData
  rw [if_pos inRange, length]
  unfold EtherSia.modifyPacket
  dsimp only
  rw [store_append]
  rfl

/-- The frames a step adds to those sent. -/
def framesSent (before after : EtherSia) : List (List UInt8) :=
  after.sent.drop before.sent.length

theorem not_isMessage_of_sendsNoDatagram {before after : EtherSia}
    (quiet : SendsNoDatagram before after) {octets : List UInt8}
    (member : octets ∈ framesSent before after) (opcode : UInt8) (block : UInt16) :
    ¬ IsMessage opcode block octets := by
  obtain ⟨frames, sent, others⟩ := quiet
  unfold framesSent at member
  rw [sent, List.drop_left] at member
  exact fun isMessage => others octets member isMessage.1

/-- A message sent behind frames that are no datagrams is the only one. -/
theorem isMessage_of_sendsData {before between after : EtherSia}
    {opcode : UInt8} {number : UInt16} {bytes : List UInt8}
    (quiet : SendsNoDatagram before between)
    (sends : SendsData (header opcode number ++ bytes) between after)
    {octets : List UInt8} (member : octets ∈ framesSent before after)
    {other : UInt8} {block : UInt16} (isMessage : IsMessage other block octets) :
    other = opcode ∧ block = number ∧ octets.drop 62 = header opcode number ++ bytes := by
  obtain ⟨frames, sent, others⟩ := quiet
  obtain ⟨last, sentLast, isUdp, carried⟩ := sends
  unfold framesSent at member
  rw [sentLast, sent, List.append_assoc, List.drop_left] at member
  rcases List.mem_append.mp member with early | isLast
  · exact absurd isMessage.1 (others octets early)
  · obtain rfl := List.mem_singleton.mp isLast
    have start := isMessage.2
    rw [carried, List.take_left' (header_length _ _)] at start
    obtain ⟨sameOpcode, sameBlock⟩ := header_inj start
    exact ⟨sameOpcode.symm, sameBlock.symm, carried⟩

/-! ### The messages of the client -/

/-- The packet in the buffer is a whole message from the address and the port the
socket is set to. -/
structure FromClient (data : Socket) (opcode : UInt8) (ether : EtherSia) : Prop where
  received : ether.bufferContainsReceived = true
  isUdp : protocol ether.buffer = IP6_PROTO_UDP
  port : UDPHeader.destinationPort ether.buffer = data.localPort
  fromPort : UDPHeader.sourcePort ether.buffer = data.remotePort
  ours : ether.isOurAddress (destination ether.buffer) ≠ none
  fromAddress : source ether.buffer = data.remoteAddress
  isMessage : hasOpcode ether.buffer opcode = true
  whole : 12 ≤ (UDPHeader.length ether.buffer).toNat

instance (data : Socket) (opcode : UInt8) (ether : EtherSia) :
    Decidable (FromClient data opcode ether) :=
  decidable_of_iff
    (ether.bufferContainsReceived = true ∧ protocol ether.buffer = IP6_PROTO_UDP ∧
      UDPHeader.destinationPort ether.buffer = data.localPort ∧
        UDPHeader.sourcePort ether.buffer = data.remotePort ∧
          ether.isOurAddress (destination ether.buffer) ≠ none ∧
            source ether.buffer = data.remoteAddress ∧
              hasOpcode ether.buffer opcode = true ∧
                12 ≤ (UDPHeader.length ether.buffer).toNat)
    ⟨fun ⟨received, isUdp, port, fromPort, ours, fromAddress, isMessage, whole⟩ =>
        ⟨received, isUdp, port, fromPort, ours, fromAddress, isMessage, whole⟩,
      fun from_ => ⟨from_.received, from_.isUdp, from_.port, from_.fromPort, from_.ours,
        from_.fromAddress, from_.isMessage, from_.whole⟩⟩

/-- The packet taken for a message of the transfer is long enough for its header. -/
def LongEnough (data : Socket) (opcode : UInt8) (ether : EtherSia) : Prop :=
  UDPSocket.havePacket data ether = true → hasOpcode ether.buffer opcode = true →
    12 ≤ (UDPHeader.length ether.buffer).toNat

instance (data : Socket) (opcode : UInt8) (ether : EtherSia) :
    Decidable (LongEnough data opcode ether) :=
  inferInstanceAs (Decidable (_ → _ → _))

/-- The packet has the port and the address of the client, also where the filters of the
socket let others through. -/
def SentByClient (data : Socket) (ether : EtherSia) : Prop :=
  (data.remotePort = 0 → UDPHeader.sourcePort ether.buffer = 0) ∧
    (data.remoteAddress.isZero = true → source ether.buffer = data.remoteAddress)

instance (data : Socket) (ether : EtherSia) : Decidable (SentByClient data ether) :=
  inferInstanceAs (Decidable (_ ∧ _))

theorem fromClient_of_taken {data : Socket} {opcode : UInt8} {ether : EtherSia}
    (taken : UDPSocket.havePacket data ether = true)
    (isMessage : hasOpcode ether.buffer opcode = true)
    (long : LongEnough data opcode ether) (sent : SentByClient data ether) :
    FromClient data opcode ether := by
  have takes := UDPSocket.havePacket_iff.mp taken
  refine ⟨takes.received, takes.isUdp, takes.port, ?_, takes.ours, ?_, isMessage,
    long taken isMessage⟩
  · rcases takes.fromPort with any | same
    · rw [sent.1 any, any]
    · exact same
  · rcases takes.fromAddress with any | same
    · exact sent.2 any
    · exact same

theorem FromClient.taken {data : Socket} {opcode : UInt8} {ether : EtherSia}
    (fromClient : FromClient data opcode ether) :
    UDPSocket.havePacket data ether = true :=
  UDPSocket.havePacket_iff.mpr ⟨fromClient.received, fromClient.isUdp, fromClient.port,
    Or.inr fromClient.fromPort, fromClient.ours, Or.inr fromClient.fromAddress⟩

/-- What the frame makes of the interface has the property, if `receivePacket` returns. -/
def OnReceipt (ether : EtherSia) (frame : Frame) (property : EtherSia → Prop) : Prop :=
  ∀ len after, ether.receivePacket frame = some (len, after) → property after

instance {ether : EtherSia} {frame : Frame} {property : EtherSia → Prop}
    [DecidablePred property] : Decidable (OnReceipt ether frame property) :=
  match received : ether.receivePacket frame with
  | none => isTrue fun len after some_ => by
      rw [received] at some_
      cases some_
  | some (_, after) => decidable_of_iff (property after)
      ⟨fun holds len other some_ => by
          rw [received] at some_
          cases some_
          exact holds,
        fun holds => holds _ after received⟩

theorem onReceipt_iff {before ether : EtherSia} {frame : Frame}
    {property : EtherSia → Prop} {len : UInt16}
    (received : before.receivePacket frame = some (len, ether)) :
    OnReceipt before frame property ↔ property ether := by
  constructor
  · intro holds
    exact holds len ether received
  · intro holds other after same
    rw [received] at same
    cases same
    exact holds

/-- The socket of a transfer with port `remotePort` of the node 02:00:00:00:00:02. -/
def exampleTransfer (remotePort : UInt16) : Socket where
  remoteAddress := IPv6Address.linkLocalOf (exampleMac 2)
  remoteMac := exampleMac 2
  remotePort := remotePort
  localPort := 20000
  writePos := -1

end TFTPServer

end EtherSiaStack
