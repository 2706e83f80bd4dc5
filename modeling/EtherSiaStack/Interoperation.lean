/-
A client and a server on one network.

Each node runs its loop: receive a frame if one is waiting, call `havePacket`, and
let the application act on what it reports.  The client's application sends its
request on the SYN-ACK; the server's answers the data it is given.  The network
delivers each frame once and in order.  The two state machines, written
independently, follow one script of eight phases.
-/

import EtherSiaStack.Arrival
import EtherSiaStack.ExposedPayload
import EtherSiaStack.SegmentAnswers
import EtherSiaStack.SharedBuffer

namespace EtherSiaStack

open ByteMemory IPv6Packet Trace

/-! ### Two nodes and the frames between them -/

structure Exchange where
  client : TCPClient
  clientEther : EtherSia
  server : Socket
  serverEther : EtherSia
  toServer : List Frame
  toClient : List Frame
  /-- The packets on which the server's `havePacket` returned true. -/
  serverReceived : List (List UInt8)
  /-- The packets on which the client's `havePacket` returned true. -/
  clientReceived : List (List UInt8)
  transmitted : List Frame

/-- One pass of a node's loop. -/
inductive Turn
  | client (clock : HavePacketClock)
  | server (randomNumber : UInt32)

inductive Node
  | client
  | server
  deriving DecidableEq

def Turn.node : Turn → Node
  | .client _ => .client
  | .server _ => .server

/-- The frames a node handed to the network in between. -/
def newFrames (before after : EtherSia) : List Frame :=
  (after.sent.drop before.sent.length).map Frame.delivered

/-- What the node's next `readFrame` finds. -/
def nextFrame (queue : List Frame) : Frame :=
  queue.headD ⟨[], Nat.zero_le _⟩

namespace Exchange

/-- The client's application writes the request and sends it when the connection has
just been acknowledged. -/
def clientApplication (request : List UInt8) (client : TCPClient) (ether : EtherSia) :
    TCPClient × EtherSia :=
  if client.synacked then
    client.send (UInt16.ofNat request.length) false
      (ether.modifyPacket fun packet => store packet TCPClient.transmitPayload request)
  else (client, ether)

/-- The server's application writes the reply and sends it when there is data. -/
def serverApplication (reply : List UInt8) (reports : Bool) (server : Socket)
    (ether : EtherSia) : EtherSia :=
  if reports then
    TCPServer.send server (UInt16.ofNat reply.length) true
      (ether.modifyPacket fun packet => store packet TCPServer.transmitPayload reply)
  else ether

/-- The data of the packet in the buffer, if the call reported it. -/
def reported (reports : Bool) (packet : Memory) : List (List UInt8) :=
  if reports then
    [bytesAt packet (TCPServer.payload packet) (TCPServer.payloadLength packet).toNat]
  else []

/-- The client's pass once `receivePacket` has left its interface in `ether`. -/
def clientTurnOn (request : List UInt8) (clock : HavePacketClock) (exchange : Exchange)
    (ether : EtherSia) : Exchange :=
  let (reports, client, called) := exchange.client.havePacket clock ether
  let (client, sent) := clientApplication request client called
  let frames := newFrames exchange.clientEther sent
  { exchange with
    client := client
    clientEther := sent
    toClient := exchange.toClient.tail
    toServer := exchange.toServer ++ frames
    clientReceived := exchange.clientReceived ++ reported reports ether.buffer
    transmitted := exchange.transmitted ++ frames }

/-- The server's pass once `receivePacket` has left its interface in `ether`. -/
def serverTurnOn (reply : List UInt8) (randomNumber : UInt32) (exchange : Exchange)
    (ether : EtherSia) : Exchange :=
  let (reports, server, called) := TCPServer.havePacket exchange.server randomNumber ether
  let sent := serverApplication reply reports server called
  let frames := newFrames exchange.serverEther sent
  { exchange with
    server := server
    serverEther := sent
    toServer := exchange.toServer.tail
    toClient := exchange.toClient ++ frames
    serverReceived := exchange.serverReceived ++ reported reports ether.buffer
    transmitted := exchange.transmitted ++ frames }

def step (request reply : List UInt8) (exchange : Exchange) : Turn → Option Exchange
  | .client clock =>
      (exchange.clientEther.receivePacket (nextFrame exchange.toClient)).map fun received =>
        exchange.clientTurnOn request clock received.2
  | .server randomNumber =>
      (exchange.serverEther.receivePacket (nextFrame exchange.toServer)).map fun received =>
        exchange.serverTurnOn reply randomNumber received.2

/-- The client has called `connect`; nothing else has happened. -/
def start (client : TCPClient) (clientEther : EtherSia) (server : Socket)
    (serverEther : EtherSia) (randomNumber now : UInt32) : Exchange :=
  let (connecting, sent) := client.connect randomNumber now clientEther
  { client := connecting
    clientEther := sent
    server := server
    serverEther := serverEther
    toServer := newFrames clientEther sent
    toClient := []
    serverReceived := []
    clientReceived := []
    transmitted := newFrames clientEther sent }

end Exchange

/-! ### The script -/

/-- What is in flight, and what each side has seen, with every number in full. -/
structure Progress where
  state : TCPState
  localSeqNum : UInt32
  remoteSeqNum : UInt32
  unAckLen : UInt16
  toServer : List (SegmentHeader × List UInt8)
  toClient : List (SegmentHeader × List UInt8)
  serverReceived : List (List UInt8)
  clientReceived : List (List UInt8)

/-- The phases of a conversation; from the SYN-ACK on with the server's initial
sequence number. -/
inductive Phase
  | syn
  | synAck (irs : UInt32)
  | request (irs : UInt32)
  | requestNext (irs : UInt32)
  | reply (irs : UInt32)
  | finAck (irs : UInt32)
  | lastFin (irs : UInt32)
  | closed (irs : UInt32)

/-- The turn that takes a conversation on; every other turn leaves it where it is. -/
def Phase.next : Phase → Turn → Phase
  | .syn, .server randomNumber => .synAck (htonl randomNumber)
  | .synAck irs, .client _ => .request irs
  | .request irs, .server _ => .requestNext irs
  | .requestNext irs, .server _ => .reply irs
  | .reply irs, .client _ => .finAck irs
  | .finAck irs, .server _ => .lastFin irs
  | .lastFin irs, .client _ => .closed irs
  | phase, _ => phase

/-- The turns still needed. -/
def Phase.script : Phase → List Node
  | .syn => [.server, .client, .server, .server, .client, .server, .client]
  | .synAck _ => [.client, .server, .server, .client, .server, .client]
  | .request _ => [.server, .server, .client, .server, .client]
  | .requestNext _ => [.server, .client, .server, .client]
  | .reply _ => [.client, .server, .client]
  | .finAck _ => [.server, .client]
  | .lastFin _ => [.client]
  | .closed _ => []

/-- The parties to a conversation and what they have to say. -/
structure Setup where
  clientMac : MACAddress
  serverMac : MACAddress
  /-- The client's socket once `connect` has picked the local port. -/
  socket : Socket
  isn : UInt32
  request : List UInt8
  reply : List UInt8
  distinct : clientMac ≠ serverMac
  targets : socket.Targets serverMac
  requestFits : 1 ≤ request.length ∧ request.length ≤ 490
  replyFits : 1 ≤ reply.length ∧ reply.length ≤ 490

namespace Setup

variable (setup : Setup)

/-- A segment from the client. -/
def fromClient (sequenceNum acknowledgementNum : UInt32) (dataOffset flags : UInt8) :
    SegmentHeader where
  sourcePort := setup.socket.localPort
  destinationPort := setup.socket.remotePort
  sequenceNum := sequenceNum
  acknowledgementNum := acknowledgementNum
  dataOffset := dataOffset
  flags := flags

/-- A segment from the server, always with options. -/
def fromServer (sequenceNum acknowledgementNum : UInt32) (flags : UInt8) :
    SegmentHeader where
  sourcePort := setup.socket.remotePort
  destinationPort := setup.socket.localPort
  sequenceNum := sequenceNum
  acknowledgementNum := acknowledgementNum
  dataOffset := 0x60
  flags := flags

/-- The client's sequence number behind its request. -/
def requestEnd : UInt32 :=
  setup.isn + 1 + UInt32.ofNat setup.request.length

/-- The server's sequence number behind its reply and its FIN. -/
def replyEnd (irs : UInt32) : UInt32 :=
  irs + 1 + UInt32.ofNat (setup.reply.length + 1)

def requestSegment (irs : UInt32) : SegmentHeader × List UInt8 :=
  (setup.fromClient (setup.isn + 1) (irs + 1) 0x60 TCP_FLAG_ACK, setup.request)

/-- What each phase looks like. -/
def progress : Phase → Progress
  | .syn =>
      { state := .waitSynAck
        localSeqNum := setup.isn
        remoteSeqNum := 0
        unAckLen := 1
        toServer := [(setup.fromClient setup.isn 0 0x60 TCP_FLAG_SYN, [])]
        toClient := []
        serverReceived := []
        clientReceived := [] }
  | .synAck irs =>
      { state := .waitSynAck
        localSeqNum := setup.isn
        remoteSeqNum := 0
        unAckLen := 1
        toServer := []
        toClient := [(setup.fromServer irs (setup.isn + 1)
          (TCP_FLAG_SYN ||| TCP_FLAG_ACK), [])]
        serverReceived := []
        clientReceived := [] }
  | .request irs =>
      { state := .connected
        localSeqNum := setup.isn + 1
        remoteSeqNum := irs + 1
        unAckLen := UInt16.ofNat setup.request.length
        toServer := [(setup.fromClient (setup.isn + 1) (irs + 1) 0x50 TCP_FLAG_ACK, []),
          setup.requestSegment irs]
        toClient := []
        serverReceived := []
        clientReceived := [] }
  | .requestNext irs =>
      { state := .connected
        localSeqNum := setup.isn + 1
        remoteSeqNum := irs + 1
        unAckLen := UInt16.ofNat setup.request.length
        toServer := [setup.requestSegment irs]
        toClient := []
        serverReceived := []
        clientReceived := [] }
  | .reply irs =>
      { state := .connected
        localSeqNum := setup.isn + 1
        remoteSeqNum := irs + 1
        unAckLen := UInt16.ofNat setup.request.length
        toServer := []
        toClient := [(setup.fromServer (irs + 1) setup.requestEnd
          (TCP_FLAG_ACK ||| TCP_FLAG_FIN ||| TCP_FLAG_PSH), setup.reply)]
        serverReceived := [setup.request]
        clientReceived := [] }
  | .finAck irs =>
      { state := .lastAck
        localSeqNum := setup.requestEnd
        remoteSeqNum := setup.replyEnd irs
        unAckLen := 1
        toServer := [(setup.fromClient setup.requestEnd (setup.replyEnd irs) 0x50
          (TCP_FLAG_FIN ||| TCP_FLAG_ACK), [])]
        toClient := []
        serverReceived := [setup.request]
        clientReceived := [setup.reply] }
  | .lastFin irs =>
      { state := .lastAck
        localSeqNum := setup.requestEnd
        remoteSeqNum := setup.replyEnd irs
        unAckLen := 1
        toServer := []
        toClient := [(setup.fromServer (setup.replyEnd irs) (setup.requestEnd + 1)
          (TCP_FLAG_FIN ||| TCP_FLAG_ACK), [])]
        serverReceived := [setup.request]
        clientReceived := [setup.reply] }
  | .closed irs =>
      { state := .disconnected
        localSeqNum := setup.requestEnd + 1
        remoteSeqNum := setup.replyEnd irs
        unAckLen := 0
        toServer := []
        toClient := []
        serverReceived := [setup.request]
        clientReceived := [setup.reply] }

end Setup

/-! ### The two nodes follow the script -/

/-- The frame carries one segment and nothing behind it. -/
structure FrameCarries (frame : Frame) (sender receiver : MACAddress)
    (segment : SegmentHeader × List UInt8) : Prop where
  carries : Carries (ofOctets frame.octets) sender receiver segment.1 segment.2
  exactLength : frame.octets.length = packetEnd (ofOctets frame.octets)

/-- The two nodes and the network are where the script says. -/
structure Exchange.Matches (exchange : Exchange) (setup : Setup) (progress : Progress) :
    Prop where
  clientAt : exchange.client.At setup.socket progress.state progress.localSeqNum
    progress.remoteSeqNum progress.unAckLen
  clientMac : exchange.clientEther.localMac = setup.clientMac
  clientLinkLocal : exchange.clientEther.UsesLinkLocal
  serverPort : exchange.server.localPort = setup.socket.remotePort
  serverMac : exchange.serverEther.localMac = setup.serverMac
  serverLinkLocal : exchange.serverEther.UsesLinkLocal
  toServer : List.Forall₂ (fun frame => FrameCarries frame setup.clientMac setup.serverMac)
    exchange.toServer progress.toServer
  toClient : List.Forall₂ (fun frame => FrameCarries frame setup.serverMac setup.clientMac)
    exchange.toClient progress.toClient
  serverReceived : exchange.serverReceived = progress.serverReceived
  clientReceived : exchange.clientReceived = progress.clientReceived
  noReset : ∀ frame ∈ exchange.transmitted,
    hasFlag (TCPHeader.flags (ofOctets frame.octets)) TCP_FLAG_RST = false

/-! ### Frames on the network -/

theorem newFrames_of_sent {before after : EtherSia} (octets : List (List UInt8))
    (sent : after.sent = before.sent ++ octets) :
    newFrames before after = octets.map Frame.delivered := by
  unfold newFrames
  rw [sent, List.drop_left]

theorem noNewFrames {before after : EtherSia} {relation : Frame → SegmentHeader × List UInt8 → Prop}
    (same : after.sent = before.sent) :
    List.Forall₂ relation (newFrames before after) [] := by
  rw [newFrames_of_sent [] (same.trans (List.append_nil _).symm)]
  exact List.Forall₂.nil

theorem frameCarries_delivered {memory : Memory} {sender receiver : MACAddress}
    {header : SegmentHeader} {data : List UInt8}
    (carries : Carries memory sender receiver header data)
    (fits : 54 + header.length + data.length ≤ 600) :
    FrameCarries (Frame.delivered (bytesAt memory 0 (length memory).toNat)) sender receiver
      (header, data) := by
  have ends := carries.hasData.packetEnd_eq
  have whole : (Frame.delivered (bytesAt memory 0 (length memory).toNat)).octets =
      bytesAt memory 0 (packetEnd memory) := by
    rw [length_toNat (by omega)]
    apply List.take_of_length_le
    rw [bytesAt_length, ends]
    exact fits
  have agree := ofOctets_bytesAt memory (packetEnd memory)
  have arrives := carries.congr agree
  constructor
  · rw [whole]
    exact arrives
  · rw [whole, bytesAt_length, arrives.hasData.packetEnd_eq, ends]

theorem SendsSegment.of_same {before between after : EtherSia} {peer : MACAddress}
    {header : SegmentHeader} {data : List UInt8}
    (sends : SendsSegment between after peer header data)
    (sameNode : SameNode before between) (sameSent : between.sent = before.sent) :
    SendsSegment before after peer header data where
  carries := sameNode.localMac ▸ sends.carries
  sent := by rw [sends.sent, sameSent]
  sameNode := sameNode.trans sends.sameNode

theorem SendsSegment.newFrames {before after : EtherSia} {peer : MACAddress}
    {header : SegmentHeader} {data : List UInt8}
    (sends : SendsSegment before after peer header data)
    (fits : 54 + header.length + data.length ≤ 600) :
    List.Forall₂ (fun frame => FrameCarries frame before.localMac peer)
      (EtherSiaStack.newFrames before after) [(header, data)] := by
  rw [newFrames_of_sent _ sends.sent]
  exact List.Forall₂.cons (frameCarries_delivered sends.carries fits) List.Forall₂.nil

theorem nextFrame_cons (frame : Frame) (rest : List Frame) :
    nextFrame (frame :: rest) = frame :=
  rfl

theorem SendsSegment.newFrames_two {before between after : EtherSia} {peer : MACAddress}
    {header next : SegmentHeader} {data nextData : List UInt8}
    (first : SendsSegment before between peer header data)
    (second : SendsSegment between after peer next nextData)
    (firstFits : 54 + header.length + data.length ≤ 600)
    (secondFits : 54 + next.length + nextData.length ≤ 600) :
    List.Forall₂ (fun frame => FrameCarries frame before.localMac peer)
      (EtherSiaStack.newFrames before after) [(header, data), (next, nextData)] := by
  have sent := second.sent
  have carries := second.carries
  rw [first.sent, List.append_assoc] at sent
  rw [first.sameNode.localMac] at carries
  rw [newFrames_of_sent _ sent]
  exact List.Forall₂.cons (frameCarries_delivered first.carries firstFits)
    (List.Forall₂.cons (frameCarries_delivered carries secondFits) List.Forall₂.nil)

theorem receivePacket_of_nothing (ether : EtherSia) :
    ether.receivePacket (nextFrame []) =
      some (0, { ether with bufferContainsReceived := false }) := by
  have nothing : (nextFrame []).octets = [] := rfl
  have refuses : ¬ ether.Accepts (nextFrame []) := fun accepts => accepts.1 nothing
  rw [EtherSia.receivePacket_of_not_accepts refuses]
  simp only [EtherSia.loadFrame, EtherSia.modifyPacket, nothing, store_nil]

/-- A segment from the peer gets past the checks and waits in the buffer. -/
theorem receivePacket_of_frameCarries {ether : EtherSia} {peer : MACAddress}
    {frame : Frame} {segment : SegmentHeader × List UInt8}
    (linkLocal : ether.UsesLinkLocal) (distinct : peer ≠ ether.localMac)
    (arrives : FrameCarries frame peer ether.localMac segment) :
    (ether.receivePacket frame).map Prod.snd = some (ether.accepted frame) ∧
      Holds (ether.accepted frame) peer segment.1 segment.2 := by
  have agree : Agree (ether.accepted frame).buffer (ofOctets frame.octets) 0
      (packetEnd (ofOctets frame.octets)) := by
    rw [← arrives.exactLength]
    have same := agree_store_self ether.buffer (fun _ => 0) 0 frame.octets
    rwa [Nat.zero_add] at same
  have carries := arrives.carries.congr agree
  have holds : Holds (ether.accepted frame) peer segment.1 segment.2 :=
    ⟨linkLocal, rfl, carries⟩
  have accepts : ether.Accepts frame := by
    constructor
    · intro empty
      have ends := arrives.carries.hasData.packetEnd_eq
      have length := arrives.exactLength
      rw [ends, empty, List.length_nil] at length
      omega
    · refine (EtherSia.acceptsPacket_iff _).mpr ⟨carries.valid, ?_⟩
      have toUs : etherDestination (ether.loadFrame frame).buffer = ether.localMac :=
        carries.addressed.etherDestination
      have fromPeer : etherSource (ether.loadFrame frame).buffer = peer :=
        carries.addressed.etherSource
      have sameMac : (ether.loadFrame frame).localMac = ether.localMac := rfl
      unfold EtherSia.checkEthernetAddresses
      rw [toUs, fromPeer, sameMac, if_neg (by simp), if_neg distinct]
  refine ⟨?_, holds⟩
  rw [EtherSia.receivePacket_of_not_icmp accepts (by
    rw [carries.hasHeader.isTcp]
    decide)]
  rfl

theorem noReset_of_frameCarries {sender receiver : MACAddress} {frames : List Frame}
    {segments : List (SegmentHeader × List UInt8)}
    (carried : List.Forall₂ (fun frame => FrameCarries frame sender receiver) frames segments)
    (noReset : ∀ segment ∈ segments, hasFlag segment.1.flags TCP_FLAG_RST = false) :
    ∀ frame ∈ frames,
      hasFlag (TCPHeader.flags (ofOctets frame.octets)) TCP_FLAG_RST = false := by
  induction carried with
  | nil => exact fun frame member => absurd member List.not_mem_nil
  | cons head _ ih =>
      obtain ⟨headNoReset, tailNoReset⟩ := List.forall_mem_cons.mp noReset
      refine List.forall_mem_cons.mpr ⟨?_, ih tailNoReset⟩
      rw [head.carries.hasHeader.flags]
      exact headNoReset

theorem noReset_singleton {header : SegmentHeader} {data : List UInt8}
    (noReset : hasFlag header.flags TCP_FLAG_RST = false) :
    ∀ segment ∈ [(header, data)], hasFlag segment.1.flags TCP_FLAG_RST = false :=
  List.forall_mem_singleton.mpr noReset

theorem noSegments : ∀ segment ∈ ([] : List (SegmentHeader × List UInt8)),
    hasFlag segment.1.flags TCP_FLAG_RST = false :=
  fun _ none => absurd none List.not_mem_nil

theorem Setup.fromServer_length (setup : Setup) (sequenceNum acknowledgementNum : UInt32)
    (flags : UInt8) :
    (setup.fromServer sequenceNum acknowledgementNum flags).length = 24 := by
  change ((0x60 &&& 0xF0 : UInt8) >>> 2).toNat = 24
  decide

theorem Setup.fromClient_length (setup : Setup) (sequenceNum acknowledgementNum : UInt32)
    (dataOffset flags : UInt8) :
    (setup.fromClient sequenceNum acknowledgementNum dataOffset flags).length =
      ((dataOffset &&& 0xF0) >>> 2).toNat :=
  rfl

theorem TCPClient.At.headerOf_eq {client : TCPClient} {setup : Setup} {state : TCPState}
    {localSeqNum remoteSeqNum : UInt32} {unAckLen : UInt16}
    (isAt : client.At setup.socket state localSeqNum remoteSeqNum unAckLen)
    (dataOffset flags : UInt8) :
    client.headerOf dataOffset flags =
      setup.fromClient localSeqNum remoteSeqNum dataOffset flags := by
  unfold TCPClient.headerOf Setup.fromClient
  rw [isAt.toSocket, isAt.localSeqNum, isAt.remoteSeqNum]

theorem forall₂_tail {α β : Type} {relation : α → β → Prop} {left : List α}
    {right : List β} (related : List.Forall₂ relation left right) :
    List.Forall₂ relation left.tail right.tail := by
  cases related with
  | nil => exact List.Forall₂.nil
  | cons _ tail => exact tail

/-! ### One turn -/

namespace Exchange

variable {exchange : Exchange} {setup : Setup} {progress : Progress}

theorem Matches.serverTurnOn (isAt : exchange.Matches setup progress)
    {received called : EtherSia} {reports : Bool} {server : Socket}
    (reply : List UInt8) {randomNumber : UInt32}
    {segments : List (SegmentHeader × List UInt8)} {packets : List (List UInt8)}
    (call : TCPServer.havePacket exchange.server randomNumber received =
      (reports, server, called))
    (samePort : server.localPort = exchange.server.localPort)
    (sameNode : SameNode exchange.serverEther
      (serverApplication reply reports server called))
    (frames : List.Forall₂
      (fun frame => FrameCarries frame setup.serverMac setup.clientMac)
      (newFrames exchange.serverEther (serverApplication reply reports server called))
      segments)
    (noReset : ∀ segment ∈ segments, hasFlag segment.1.flags TCP_FLAG_RST = false)
    (report : reported reports received.buffer = packets) :
    (exchange.serverTurnOn reply randomNumber received).Matches setup { progress with
      toServer := progress.toServer.tail
      toClient := progress.toClient ++ segments
      serverReceived := progress.serverReceived ++ packets } := by
  unfold Exchange.serverTurnOn
  rw [call]
  dsimp only
  refine { isAt with
    serverPort := samePort.trans isAt.serverPort
    serverMac := sameNode.localMac.trans isAt.serverMac
    serverLinkLocal := sameNode.usesLinkLocal isAt.serverLinkLocal
    toServer := ?_
    toClient := ?_
    serverReceived := ?_
    noReset := ?_ }
  · exact forall₂_tail isAt.toServer
  · exact List.rel_append isAt.toClient frames
  · rw [isAt.serverReceived, report]
  · intro frame member
    rcases List.mem_append.mp member with earlier | new
    · exact isAt.noReset frame earlier
    · exact noReset_of_frameCarries frames noReset frame new

theorem Matches.clientTurnOn (isAt : exchange.Matches setup progress)
    {received called sent : EtherSia} {client last : TCPClient} {request : List UInt8}
    {clock : HavePacketClock} {state : TCPState} {localSeqNum remoteSeqNum : UInt32}
    {unAckLen : UInt16} {segments : List (SegmentHeader × List UInt8)}
    {packets : List (List UInt8)}
    (call : exchange.client.poll clock received = (client, called))
    (application : clientApplication request client called = (last, sent))
    (clientAt : last.At setup.socket state localSeqNum remoteSeqNum unAckLen)
    (sameNode : SameNode exchange.clientEther sent)
    (frames : List.Forall₂
      (fun frame => FrameCarries frame setup.clientMac setup.serverMac)
      (newFrames exchange.clientEther sent) segments)
    (noReset : ∀ segment ∈ segments, hasFlag segment.1.flags TCP_FLAG_RST = false)
    (report : reported client.appliFlags.newData received.buffer = packets) :
    (exchange.clientTurnOn request clock received).Matches setup
      { state := state
        localSeqNum := localSeqNum
        remoteSeqNum := remoteSeqNum
        unAckLen := unAckLen
        toServer := progress.toServer ++ segments
        toClient := progress.toClient.tail
        serverReceived := progress.serverReceived
        clientReceived := progress.clientReceived ++ packets } := by
  unfold Exchange.clientTurnOn TCPClient.havePacket
  rw [call]
  dsimp only
  rw [application]
  refine { isAt with
    clientAt := clientAt
    clientMac := sameNode.localMac.trans isAt.clientMac
    clientLinkLocal := sameNode.usesLinkLocal isAt.clientLinkLocal
    toServer := ?_
    toClient := ?_
    clientReceived := ?_
    noReset := ?_ }
  · exact List.rel_append isAt.toServer frames
  · exact forall₂_tail isAt.toClient
  · rw [isAt.clientReceived, report]
  · intro frame member
    rcases List.mem_append.mp member with earlier | new
    · exact isAt.noReset frame earlier
    · exact noReset_of_frameCarries frames noReset frame new

/-- With nothing waiting, `receivePacket` only clears the flag. -/
theorem Matches.serverWaits (isAt : exchange.Matches setup progress)
    (nothing : progress.toServer = []) (randomNumber : UInt32) :
    exchange.step setup.request setup.reply (.server randomNumber) =
      some (exchange.serverTurnOn setup.reply randomNumber
        { exchange.serverEther with bufferContainsReceived := false }) := by
  have empty : exchange.toServer = [] := by
    have queue := isAt.toServer
    rw [nothing] at queue
    exact List.forall₂_nil_right_iff.mp queue
  unfold Exchange.step
  rw [empty, receivePacket_of_nothing]
  rfl

theorem Matches.clientWaits (isAt : exchange.Matches setup progress)
    (nothing : progress.toClient = []) (clock : HavePacketClock) :
    exchange.step setup.request setup.reply (.client clock) =
      some (exchange.clientTurnOn setup.request clock
        { exchange.clientEther with bufferContainsReceived := false }) := by
  have empty : exchange.toClient = [] := by
    have queue := isAt.toClient
    rw [nothing] at queue
    exact List.forall₂_nil_right_iff.mp queue
  unfold Exchange.step
  rw [empty, receivePacket_of_nothing]
  rfl

theorem Matches.serverIdle (isAt : exchange.Matches setup progress)
    (nothing : progress.toServer = []) (randomNumber : UInt32) :
    ∃ after, exchange.step setup.request setup.reply (.server randomNumber) = some after ∧
      after.Matches setup progress := by
  let received := { exchange.serverEther with bufferContainsReceived := false }
  have call : TCPServer.havePacket exchange.server randomNumber received =
      (false, exchange.server, received) := rfl
  have noReport : reported false received.buffer = [] := rfl
  have after := isAt.serverTurnOn setup.reply call rfl ⟨rfl, rfl⟩ (noNewFrames rfl)
    noSegments noReport
  refine ⟨_, isAt.serverWaits nothing randomNumber, ?_⟩
  obtain ⟨state, localSeqNum, remoteSeqNum, unAckLen, toServer, toClient,
    serverReceived, clientReceived⟩ := progress
  obtain rfl : toServer = [] := nothing
  simpa using after

theorem Matches.clientIdle (isAt : exchange.Matches setup progress)
    (nothing : progress.toClient = []) {clock : HavePacketClock}
    (inTime : ¬ (exchange.client.unAckLen > 0 ∧ exchange.client.TimerExpires clock)) :
    ∃ after, exchange.step setup.request setup.reply (.client clock) = some after ∧
      after.Matches setup progress := by
  let received := { exchange.clientEther with bufferContainsReceived := false }
  obtain ⟨client, call, clientAt, noData, noSynAck⟩ :=
    TCPClient.poll_of_quiet received isAt.clientAt rfl inTime
  have application : clientApplication setup.request client received =
      (client, received) := by
    unfold clientApplication TCPClient.synacked
    rw [noSynAck]
    rfl
  have noReport : reported client.appliFlags.newData received.buffer = [] := by
    rw [noData]
    rfl
  have after := isAt.clientTurnOn call application clientAt ⟨rfl, rfl⟩ (noNewFrames rfl)
    noSegments noReport
  refine ⟨_, isAt.clientWaits nothing clock, ?_⟩
  obtain ⟨state, localSeqNum, remoteSeqNum, unAckLen, toServer, toClient,
    serverReceived, clientReceived⟩ := progress
  obtain rfl : toClient = [] := nothing
  simpa using after

theorem Matches.serverReceives (isAt : exchange.Matches setup progress)
    {segment : SegmentHeader × List UInt8} {rest : List (SegmentHeader × List UInt8)}
    (waiting : progress.toServer = segment :: rest) (randomNumber : UInt32) :
    ∃ received, exchange.step setup.request setup.reply (.server randomNumber) =
        some (exchange.serverTurnOn setup.reply randomNumber received) ∧
      Holds received setup.clientMac segment.1 segment.2 ∧
        SameNode exchange.serverEther received ∧
          received.sent = exchange.serverEther.sent := by
  have queue := isAt.toServer
  rw [waiting] at queue
  obtain ⟨frame, frames, arrives, _, isQueue⟩ := List.forall₂_cons_right_iff.mp queue
  have distinct : setup.clientMac ≠ exchange.serverEther.localMac := by
    rw [isAt.serverMac]
    exact setup.distinct
  rw [← isAt.serverMac] at arrives
  obtain ⟨returns, holds⟩ :=
    receivePacket_of_frameCarries isAt.serverLinkLocal distinct arrives
  refine ⟨exchange.serverEther.accepted frame, ?_, holds, ⟨rfl, rfl⟩, rfl⟩
  obtain ⟨answer, received, same⟩ := Option.map_eq_some_iff.mp returns
  dsimp only [Exchange.step]
  rw [isQueue, nextFrame_cons, received, Option.map_some, same]

theorem Matches.clientReceives (isAt : exchange.Matches setup progress)
    {segment : SegmentHeader × List UInt8} {rest : List (SegmentHeader × List UInt8)}
    (waiting : progress.toClient = segment :: rest) (clock : HavePacketClock) :
    ∃ received, exchange.step setup.request setup.reply (.client clock) =
        some (exchange.clientTurnOn setup.request clock received) ∧
      Holds received setup.serverMac segment.1 segment.2 ∧
        SameNode exchange.clientEther received ∧
          received.sent = exchange.clientEther.sent := by
  have queue := isAt.toClient
  rw [waiting] at queue
  obtain ⟨frame, frames, arrives, _, isQueue⟩ := List.forall₂_cons_right_iff.mp queue
  have distinct : setup.serverMac ≠ exchange.clientEther.localMac := by
    rw [isAt.clientMac]
    exact setup.distinct.symm
  rw [← isAt.clientMac] at arrives
  obtain ⟨returns, holds⟩ :=
    receivePacket_of_frameCarries isAt.clientLinkLocal distinct arrives
  refine ⟨exchange.clientEther.accepted frame, ?_, holds, ⟨rfl, rfl⟩, rfl⟩
  obtain ⟨answer, received, same⟩ := Option.map_eq_some_iff.mp returns
  dsimp only [Exchange.step]
  rw [isQueue, nextFrame_cons, received, Option.map_some, same]

/-- The server answers the SYN. -/
theorem Matches.serverSyn (isAt : exchange.Matches setup (setup.progress .syn))
    (randomNumber : UInt32) :
    ∃ after, exchange.step setup.request setup.reply (.server randomNumber) = some after ∧
      after.Matches setup (setup.progress (.synAck (htonl randomNumber))) := by
  obtain ⟨received, stepped, holds, sameNode, sameSent⟩ :=
    isAt.serverReceives rfl randomNumber
  obtain ⟨answered, call, sends⟩ :=
    TCPServer.havePacket_of_syn holds isAt.serverPort.symm rfl randomNumber
  have sends := sends.of_same sameNode sameSent
  have header : TCPServer.replyHeader exchange.server
      { setup.fromClient setup.isn 0 0x60 TCP_FLAG_SYN with
        acknowledgementNum := htonl randomNumber
        flags := TCP_FLAG_SYN ||| TCP_FLAG_ACK } 0 =
      setup.fromServer (htonl randomNumber) (setup.isn + 1)
        (TCP_FLAG_SYN ||| TCP_FLAG_ACK) := by
    unfold TCPServer.replyHeader Setup.fromServer
    rw [isAt.serverPort]
    rfl
  rw [header] at sends
  have frames := sends.newFrames (by rw [Setup.fromServer_length]; decide)
  have noRst : hasFlag (TCP_FLAG_SYN ||| TCP_FLAG_ACK) TCP_FLAG_RST = false := by decide
  rw [isAt.serverMac] at frames
  exact ⟨_, stepped, isAt.serverTurnOn setup.reply call rfl sends.sameNode frames
    (noReset_singleton noRst) rfl⟩

/-- The server passes over the acknowledgement that precedes the request. -/
theorem Matches.serverAck {irs : UInt32}
    (isAt : exchange.Matches setup (setup.progress (.request irs))) (randomNumber : UInt32) :
    ∃ after, exchange.step setup.request setup.reply (.server randomNumber) = some after ∧
      after.Matches setup (setup.progress (.requestNext irs)) := by
  obtain ⟨received, stepped, holds, sameNode, sameSent⟩ :=
    isAt.serverReceives rfl randomNumber
  have call := TCPServer.havePacket_of_ack holds isAt.serverPort.symm rfl randomNumber
  exact ⟨_, stepped, isAt.serverTurnOn setup.reply call rfl sameNode (noNewFrames sameSent)
    noSegments rfl⟩

/-- The server hands the request to its application, which replies. -/
theorem Matches.serverRequest {irs : UInt32}
    (isAt : exchange.Matches setup (setup.progress (.requestNext irs)))
    (randomNumber : UInt32) :
    ∃ after, exchange.step setup.request setup.reply (.server randomNumber) = some after ∧
      after.Matches setup (setup.progress (.reply irs)) := by
  obtain ⟨received, stepped, holds, sameNode, sameSent⟩ :=
    isAt.serverReceives rfl randomNumber
  have nonempty : setup.request ≠ [] :=
    List.ne_nil_of_length_pos setup.requestFits.1
  have call := TCPServer.havePacket_of_data holds isAt.serverPort.symm rfl nonempty
    randomNumber
  have sends := (TCPServer.sendReply_of_data { exchange.server with writePos := -1 } holds
    setup.replyFits.2).of_same sameNode sameSent
  have header : TCPServer.replyHeader { exchange.server with writePos := -1 }
      { (setup.requestSegment irs).1 with flags := 0 }
        (UInt16.ofNat (setup.requestSegment irs).2.length) =
      setup.fromServer (irs + 1) setup.requestEnd
        (TCP_FLAG_ACK ||| TCP_FLAG_FIN ||| TCP_FLAG_PSH) := by
    have fits : setup.request.length < 65536 := by
      have most := setup.requestFits.2
      omega
    have notZero : UInt16.ofNat setup.request.length ≠ 0 := by
      have least := setup.requestFits.1
      rw [ne_eq, ← UInt16.toNat_inj, UInt16.toNat_ofNat', Nat.mod_eq_of_lt fits,
        UInt16.toNat_zero]
      omega
    unfold TCPServer.replyHeader Setup.fromServer Setup.requestEnd Setup.requestSegment
    dsimp only [Setup.fromClient]
    rw [if_neg notZero, if_pos rfl, TCPClient.toUInt32_ofNat fits, isAt.serverPort]
  rw [header] at sends
  have frames := sends.newFrames (by
    have fits := setup.replyFits.2
    rw [Setup.fromServer_length]
    omega)
  have noRst : hasFlag (TCP_FLAG_ACK ||| TCP_FLAG_FIN ||| TCP_FLAG_PSH) TCP_FLAG_RST =
      false := by decide
  have report : reported true received.buffer = [setup.request] :=
    congrArg (fun data => [data]) holds.carries.payload_eq
  rw [isAt.serverMac] at frames
  exact ⟨_, stepped, isAt.serverTurnOn setup.reply call rfl sends.sameNode frames
    (noReset_singleton noRst) report⟩

/-- The server answers the client's FIN with another one. -/
theorem Matches.serverFin {irs : UInt32}
    (isAt : exchange.Matches setup (setup.progress (.finAck irs))) (randomNumber : UInt32) :
    ∃ after, exchange.step setup.request setup.reply (.server randomNumber) = some after ∧
      after.Matches setup (setup.progress (.lastFin irs)) := by
  obtain ⟨received, stepped, holds, sameNode, sameSent⟩ :=
    isAt.serverReceives rfl randomNumber
  obtain ⟨answered, call, sends⟩ :=
    TCPServer.havePacket_of_fin holds isAt.serverPort.symm rfl randomNumber
  have sends := sends.of_same sameNode sameSent
  have header : TCPServer.replyHeader exchange.server
      (setup.fromClient setup.requestEnd (setup.replyEnd irs) 0x50
        (TCP_FLAG_FIN ||| TCP_FLAG_ACK)) 0 =
      setup.fromServer (setup.replyEnd irs) (setup.requestEnd + 1)
        (TCP_FLAG_FIN ||| TCP_FLAG_ACK) := by
    unfold TCPServer.replyHeader Setup.fromServer
    rw [isAt.serverPort]
    rfl
  rw [header] at sends
  have frames := sends.newFrames (by rw [Setup.fromServer_length]; decide)
  have noRst : hasFlag (TCP_FLAG_FIN ||| TCP_FLAG_ACK) TCP_FLAG_RST = false := by decide
  rw [isAt.serverMac] at frames
  exact ⟨_, stepped, isAt.serverTurnOn setup.reply call rfl sends.sameNode frames
    (noReset_singleton noRst) rfl⟩

/-- The client accepts the SYN-ACK and its application sends the request. -/
theorem Matches.clientSynAck {irs : UInt32}
    (isAt : exchange.Matches setup (setup.progress (.synAck irs))) (clock : HavePacketClock) :
    ∃ after, exchange.step setup.request setup.reply (.client clock) = some after ∧
      after.Matches setup (setup.progress (.request irs)) := by
  obtain ⟨received, stepped, holds, sameNode, sameSent⟩ := isAt.clientReceives rfl clock
  obtain ⟨client, call, clientAt, flags⟩ := TCPClient.poll_of_synAck isAt.clientAt
    setup.targets ⟨rfl, rfl⟩ holds rfl rfl clock
  have acks := (client.tcpSendNoDataReply_sendsSegment TCP_FLAG_ACK holds).of_same sameNode
    sameSent
  obtain ⟨last, sent, sends, lastAt, requests⟩ := TCPClient.send_of_data
    (client.tcpSendAck received) clientAt (by rw [flags]; rfl) setup.targets
    (acks.sameNode.usesLinkLocal isAt.clientLinkLocal) setup.requestFits.2
  have isAck : TCPHeader.flags (client.tcpSendAck received).buffer = TCP_FLAG_ACK :=
    acks.carries.hasHeader.flags
  rw [isAck, clientAt.headerOf_eq] at requests
  rw [clientAt.headerOf_eq] at acks
  have application : clientApplication setup.request client (client.tcpSendAck received) =
      (last, sent) := by
    unfold clientApplication TCPClient.synacked
    rw [flags]
    exact sends
  have frames := acks.newFrames_two requests (by rw [Setup.fromClient_length]; decide) (by
    have fits := setup.requestFits.2
    have withOptions : ((0x60 &&& 0xF0 : UInt8) >>> 2).toNat = 24 := by decide
    rw [Setup.fromClient_length, withOptions]
    omega)
  have noRst : hasFlag TCP_FLAG_ACK TCP_FLAG_RST = false := by decide
  rw [isAt.clientMac] at frames
  exact ⟨_, stepped, isAt.clientTurnOn call application lastAt
    (acks.sameNode.trans requests.sameNode) frames
    (List.forall_mem_cons.mpr ⟨noRst, noReset_singleton noRst⟩) (by rw [flags]; rfl)⟩

/-- The client reports the reply, accepts the FIN that comes with it and sends its
own. -/
theorem Matches.clientReply {irs : UInt32}
    (isAt : exchange.Matches setup (setup.progress (.reply irs))) (clock : HavePacketClock) :
    ∃ after, exchange.step setup.request setup.reply (.client clock) = some after ∧
      after.Matches setup (setup.progress (.finAck irs)) := by
  obtain ⟨received, stepped, holds, sameNode, sameSent⟩ := isAt.clientReceives rfl clock
  have nonempty : setup.reply ≠ [] := List.ne_nil_of_length_pos setup.replyFits.1
  have requestFits := setup.requestFits
  have replyFits := setup.replyFits
  have outstanding : UInt16.ofNat setup.request.length > 0 := by
    have isLength : (UInt16.ofNat setup.request.length).toNat = setup.request.length := by
      rw [UInt16.toNat_ofNat']
      exact Nat.mod_eq_of_lt (by change setup.request.length < 65536; omega)
    apply UInt16.lt_iff_toNat_lt.mpr
    rw [isLength]
    exact requestFits.1
  have endOfRequest :
      setup.isn + 1 + (UInt16.ofNat setup.request.length).toUInt32 = setup.requestEnd := by
    rw [TCPClient.toUInt32_ofNat (by omega)]
    rfl
  obtain ⟨client, call, clientAt, flags⟩ := TCPClient.poll_of_lastData isAt.clientAt
    outstanding setup.targets ⟨rfl, rfl⟩ holds nonempty
    (show setup.reply.length ≤ 65514 by omega) rfl rfl endOfRequest.symm clock
  change client.At setup.socket .lastAck
    (setup.isn + 1 + (UInt16.ofNat setup.request.length).toUInt32) (setup.replyEnd irs) 1
      at clientAt
  rw [endOfRequest] at clientAt
  have fins := (client.tcpSendNoDataReply_sendsSegment (TCP_FLAG_FIN ||| TCP_FLAG_ACK)
    holds).of_same sameNode sameSent
  rw [clientAt.headerOf_eq] at fins
  have application : clientApplication setup.request client (client.tcpSendFinAck received) =
      (client, client.tcpSendFinAck received) := by
    unfold clientApplication TCPClient.synacked
    rw [flags]
    rfl
  have frames := fins.newFrames (by rw [Setup.fromClient_length]; decide)
  have noRst : hasFlag (TCP_FLAG_FIN ||| TCP_FLAG_ACK) TCP_FLAG_RST = false := by decide
  have report : reported client.appliFlags.newData received.buffer = [setup.reply] := by
    rw [flags]
    exact congrArg (fun data => [data]) holds.carries.payload_eq
  rw [isAt.clientMac] at frames
  exact ⟨_, stepped, isAt.clientTurnOn call application clientAt fins.sameNode frames
    (noReset_singleton noRst) report⟩

/-- The server's last FIN closes the connection. -/
theorem Matches.clientLastFin {irs : UInt32}
    (isAt : exchange.Matches setup (setup.progress (.lastFin irs)))
    (clock : HavePacketClock) :
    ∃ after, exchange.step setup.request setup.reply (.client clock) = some after ∧
      after.Matches setup (setup.progress (.closed irs)) ∧
        after.client.closing = true := by
  obtain ⟨received, stepped, holds, sameNode, sameSent⟩ := isAt.clientReceives rfl clock
  obtain ⟨client, call, clientAt, flags⟩ := TCPClient.poll_of_lastAck isAt.clientAt
    setup.targets ⟨rfl, rfl⟩ holds rfl rfl rfl clock
  have application : clientApplication setup.request client received =
      (client, received) := by
    unfold clientApplication TCPClient.synacked
    rw [flags]
    rfl
  refine ⟨_, stepped, isAt.clientTurnOn call application clientAt sameNode
    (noNewFrames sameSent) noSegments (by rw [flags]; rfl), ?_⟩
  unfold Exchange.clientTurnOn TCPClient.havePacket TCPClient.closing
  rw [call]
  dsimp only
  rw [application]
  dsimp only
  rw [flags]

/-! ### Runs -/

/-- No retransmission timer runs out in this turn. -/
def InTime (taken : Taken Exchange Turn) : Prop :=
  match taken.event with
  | .client clock =>
      ¬ (taken.before.client.unAckLen > 0 ∧ taken.before.client.TimerExpires clock)
  | .server _ => True

instance (taken : Taken Exchange Turn) : Decidable (InTime taken) :=
  match taken with
  | ⟨before, .client clock, _⟩ =>
      inferInstanceAs (Decidable
        (¬ (before.client.unAckLen > 0 ∧ before.client.TimerExpires clock)))
  | ⟨_, .server _, _⟩ => isTrue trivial

theorem Matches.serverStep {phase : Phase}
    (isAt : exchange.Matches setup (setup.progress phase)) (randomNumber : UInt32) :
    ∃ after, exchange.step setup.request setup.reply (.server randomNumber) = some after ∧
      after.Matches setup (setup.progress (phase.next (.server randomNumber))) := by
  cases phase with
  | syn => exact isAt.serverSyn randomNumber
  | synAck irs => exact isAt.serverIdle rfl randomNumber
  | request irs => exact isAt.serverAck randomNumber
  | requestNext irs => exact isAt.serverRequest randomNumber
  | reply irs => exact isAt.serverIdle rfl randomNumber
  | finAck irs => exact isAt.serverFin randomNumber
  | lastFin irs => exact isAt.serverIdle rfl randomNumber
  | closed irs => exact isAt.serverIdle rfl randomNumber

theorem Matches.clientStep {phase : Phase}
    (isAt : exchange.Matches setup (setup.progress phase)) {clock : HavePacketClock}
    (inTime : ¬ (exchange.client.unAckLen > 0 ∧ exchange.client.TimerExpires clock)) :
    ∃ after, exchange.step setup.request setup.reply (.client clock) = some after ∧
      after.Matches setup (setup.progress (phase.next (.client clock))) := by
  cases phase with
  | syn => exact isAt.clientIdle rfl inTime
  | synAck irs => exact isAt.clientSynAck clock
  | request irs => exact isAt.clientIdle rfl inTime
  | requestNext irs => exact isAt.clientIdle rfl inTime
  | reply irs => exact isAt.clientReply clock
  | finAck irs => exact isAt.clientIdle rfl inTime
  | lastFin irs =>
      obtain ⟨after, stepped, reached, _⟩ := isAt.clientLastFin clock
      exact ⟨after, stepped, reached⟩
  | closed irs => exact isAt.clientIdle rfl inTime

theorem Matches.returns (isAt : exchange.Matches setup progress) (turn : Turn) :
    ∃ after, exchange.step setup.request setup.reply turn = some after := by
  cases turn with
  | server randomNumber =>
      cases waiting : progress.toServer with
      | nil => exact ⟨_, isAt.serverWaits waiting randomNumber⟩
      | cons segment rest =>
          obtain ⟨_, stepped, _⟩ := isAt.serverReceives waiting randomNumber
          exact ⟨_, stepped⟩
  | client clock =>
      cases waiting : progress.toClient with
      | nil => exact ⟨_, isAt.clientWaits waiting clock⟩
      | cons segment rest =>
          obtain ⟨_, stepped, _⟩ := isAt.clientReceives waiting clock
          exact ⟨_, stepped⟩

/-- The step lemma: a turn takes the conversation on exactly as the script says. -/
theorem Matches.step {phase : Phase} {turn : Turn} {after : Exchange}
    (isAt : exchange.Matches setup (setup.progress phase))
    (stepped : exchange.step setup.request setup.reply turn = some after)
    (inTime : InTime ⟨exchange, turn, after⟩) :
    after.Matches setup (setup.progress (phase.next turn)) := by
  cases turn with
  | server randomNumber =>
      obtain ⟨reached, steps, reachedAt⟩ := isAt.serverStep randomNumber
      cases stepped.symm.trans steps
      exact reachedAt
  | client clock =>
      obtain ⟨reached, steps, reachedAt⟩ := isAt.clientStep inTime
      cases stepped.symm.trans steps
      exact reachedAt

/-- The run lemma: in time, a run never blocks and stays on the script. -/
theorem Matches.run {phase : Phase} (isAt : exchange.Matches setup (setup.progress phase))
    {schedule : List Turn}
    (inTime : Always (Exchange.step setup.request setup.reply) exchange schedule InTime) :
    ∃ last, Trace.run (Exchange.step setup.request setup.reply) exchange schedule =
        some last ∧
      last.Matches setup (setup.progress (schedule.foldl Phase.next phase)) := by
  induction schedule generalizing exchange phase with
  | nil => exact ⟨exchange, rfl, isAt⟩
  | cons turn rest ih =>
      obtain ⟨after, stepped⟩ := isAt.returns turn
      obtain ⟨headInTime, restInTime⟩ := (always_cons_of_step stepped rest _).mp inTime
      obtain ⟨last, returns, lastAt⟩ := ih (isAt.step stepped headInTime) restInTime
      exact ⟨last, (run_cons_of_step stepped rest).trans returns, lastAt⟩

theorem foldl_next_closed (irs : UInt32) (schedule : List Turn) :
    schedule.foldl Phase.next (.closed irs) = .closed irs := by
  induction schedule with
  | nil => rfl
  | cons turn rest ih => cases turn <;> exact ih

/-- A turn of the node the script waits for takes its first entry, another leaves
it. -/
theorem script_next (phase : Phase) (turn : Turn) :
    phase.script = turn.node :: (phase.next turn).script ∨
      ((phase.next turn).script = phase.script ∧
        ∀ rest, phase.script ≠ turn.node :: rest) := by
  cases phase <;> cases turn <;> simp [Phase.script, Phase.next, Turn.node]

theorem eq_lastFin_of_script {phase : Phase} {turn : Turn}
    (last : phase.script = [turn.node]) :
    ∃ irs clock, phase = .lastFin irs ∧ turn = .client clock := by
  cases phase with
  | lastFin irs =>
      cases turn with
      | client clock => exact ⟨irs, clock, rfl, rfl⟩
      | server randomNumber => simp [Phase.script, Turn.node] at last
  | _ => simp [Phase.script] at last

/-- A schedule that holds the turns still needed reaches the end, with a turn of the
client on its last segment. -/
theorem Matches.completes {phase : Phase}
    (isAt : exchange.Matches setup (setup.progress phase)) {schedule : List Turn}
    (inTime : Always (Exchange.step setup.request setup.reply) exchange schedule InTime)
    (pending : phase.script ≠ [])
    (fair : phase.script.Sublist (schedule.map Turn.node)) :
    ∃ first rest done irs, schedule = first ++ rest ∧
      Trace.run (Exchange.step setup.request setup.reply) exchange first = some done ∧
        done.Matches setup (setup.progress (.closed irs)) ∧
          done.client.closing = true := by
  induction schedule generalizing exchange phase with
  | nil => exact absurd (List.sublist_nil.mp fair) pending
  | cons turn rest ih =>
      obtain ⟨after, stepped⟩ := isAt.returns turn
      obtain ⟨headInTime, restInTime⟩ := (always_cons_of_step stepped rest _).mp inTime
      have afterAt := isAt.step stepped headInTime
      have continues (more : (phase.next turn).script ≠ [])
          (restFair : (phase.next turn).script.Sublist (rest.map Turn.node)) :
          ∃ first last done irs, turn :: rest = first ++ last ∧
            Trace.run (Exchange.step setup.request setup.reply) exchange first =
              some done ∧
            done.Matches setup (setup.progress (.closed irs)) ∧
              done.client.closing = true := by
        obtain ⟨first, last, done, irs, split, returns, doneAt, closing⟩ :=
          ih afterAt restInTime more restFair
        exact ⟨turn :: first, last, done, irs, congrArg (turn :: ·) split,
          (run_cons_of_step stepped first).trans returns, doneAt, closing⟩
      rw [List.map_cons] at fair
      rcases script_next phase turn with takes | ⟨same, notNext⟩
      · by_cases last : (phase.next turn).script = []
        · rw [last] at takes
          obtain ⟨irs, clock, rfl, rfl⟩ := eq_lastFin_of_script takes
          obtain ⟨done, steps, doneAt, closing⟩ := isAt.clientLastFin clock
          exact ⟨[.client clock], rest, done, irs, rfl, run_cons_of_step steps [],
            doneAt, closing⟩
        · rw [takes] at fair
          exact continues last (List.cons_sublist_cons.mp fair)
      · rcases List.sublist_cons_iff.mp fair with skips | ⟨tail, takes, _⟩
        · rw [← same] at skips pending
          exact continues pending skips
        · exact absurd takes (notNext tail)

end Exchange

open Exchange

/-- Everything that the two applications can see of a completed conversation. -/
structure Completed (exchange : Exchange) (request reply : List UInt8) : Prop where
  serverReceived : exchange.serverReceived = [request]
  clientReceived : exchange.clientReceived = [reply]
  disconnected : exchange.client.state = .disconnected
  noneToServer : exchange.toServer = []
  noneToClient : exchange.toClient = []
  noReset : ∀ frame ∈ exchange.transmitted,
    hasFlag (TCPHeader.flags (ofOctets frame.octets)) TCP_FLAG_RST = false

theorem Exchange.Matches.completed {exchange : Exchange} {setup : Setup} {irs : UInt32}
    (isAt : exchange.Matches setup (setup.progress (.closed irs))) :
    Completed exchange setup.request setup.reply where
  serverReceived := isAt.serverReceived
  clientReceived := isAt.clientReceived
  disconnected := isAt.clientAt.state
  noneToServer := List.forall₂_nil_right_iff.mp isAt.toServer
  noneToClient := List.forall₂_nil_right_iff.mp isAt.toClient
  noReset := isAt.noReset

/-- After `connect` the SYN is in flight. -/
theorem start_matches {client : TCPClient} {clientEther : EtherSia} {server : Socket}
    {serverEther : EtherSia} {randomNumber : UInt32} (now : UInt32) (setup : Setup)
    (clientMac : clientEther.localMac = setup.clientMac)
    (serverMac : serverEther.localMac = setup.serverMac)
    (clientLinkLocal : clientEther.UsesLinkLocal)
    (serverLinkLocal : serverEther.UsesLinkLocal)
    (isn : randomNumber = setup.isn)
    (socket : { client.toSocket with localPort := client.localPort + 1 } = setup.socket)
    (targets : client.toSocket.Targets serverEther.localMac)
    (port : server.localPort = setup.socket.remotePort) :
    (start client clientEther server serverEther randomNumber now).Matches setup
      (setup.progress .syn) := by
  obtain ⟨connecting, after, call, connectingAt, sends⟩ :=
    client.connect_sendsSegment targets clientLinkLocal randomNumber now
  rw [socket, isn] at connectingAt
  rw [connectingAt.headerOf_eq] at sends
  have frames := sends.newFrames (by rw [Setup.fromClient_length]; decide)
  have noRst : hasFlag TCP_FLAG_SYN TCP_FLAG_RST = false := by decide
  rw [clientMac, serverMac] at frames
  unfold start
  rw [call]
  exact {
    clientAt := connectingAt
    clientMac := sends.sameNode.localMac.trans clientMac
    clientLinkLocal := sends.sameNode.usesLinkLocal clientLinkLocal
    serverPort := port
    serverMac := serverMac
    serverLinkLocal := serverLinkLocal
    toServer := frames
    toClient := List.Forall₂.nil
    serverReceived := rfl
    clientReceived := rfl
    noReset := noReset_of_frameCarries frames (noReset_singleton noRst) }

/-- Interoperation.  A client and a server on two nodes that use link-local
addresses, over a network that delivers every frame once and in order before a
timer runs out: whatever the initial sequence numbers and however the loops of the
two nodes interleave, once each has had its turns the request has been delivered
once, the reply has been delivered once, and the connection is closed on both
sides without a reset and with nothing left in flight. -/
theorem exchange_completes {client : TCPClient} {clientEther : EtherSia}
    {server : Socket} {serverEther : EtherSia} {request reply : List UInt8}
    (distinct : clientEther.localMac ≠ serverEther.localMac)
    (clientLinkLocal : clientEther.UsesLinkLocal)
    (serverLinkLocal : serverEther.UsesLinkLocal)
    (targets : client.toSocket.Targets serverEther.localMac)
    (port : client.remotePort = server.localPort)
    (requestFits : 1 ≤ request.length ∧ request.length ≤ 490)
    (replyFits : 1 ≤ reply.length ∧ reply.length ≤ 490)
    (randomNumber now : UInt32) {schedule : List Turn}
    (inTime : Always (Exchange.step request reply)
      (start client clientEther server serverEther randomNumber now) schedule InTime)
    (fair : Phase.syn.script.Sublist (schedule.map Turn.node)) :
    ∃ first rest done last, schedule = first ++ rest ∧
      run (Exchange.step request reply)
        (start client clientEther server serverEther randomNumber now) first = some done ∧
      Completed done request reply ∧ done.client.closing = true ∧
        run (Exchange.step request reply) done rest = some last ∧
          Completed last request reply := by
  let setup : Setup :=
    { clientMac := clientEther.localMac
      serverMac := serverEther.localMac
      socket := { client.toSocket with localPort := client.localPort + 1 }
      isn := randomNumber
      request := request
      reply := reply
      distinct := distinct
      targets := ⟨targets.remoteAddress, targets.remoteMac⟩
      requestFits := requestFits
      replyFits := replyFits }
  have started := start_matches now setup rfl rfl clientLinkLocal
    serverLinkLocal rfl rfl targets port.symm
  obtain ⟨first, rest, done, irs, split, returns, doneAt, closing⟩ :=
    started.completes inTime (by simp [Phase.script]) fair
  have restInTime : Always (Exchange.step request reply) done rest InTime := by
    rw [split] at inTime
    exact ((always_append_of_run returns rest _).mp inTime).2
  obtain ⟨last, settles, lastAt⟩ := doneAt.run restInTime
  rw [foldl_next_closed] at lastAt
  exact ⟨first, rest, done, last, split, returns, doneAt.completed, closing, settles,
    lastAt.completed⟩

/-- A three-byte request and a two-byte reply, with an initial sequence number that
wraps and an idle turn in between. -/
theorem exchange_completes_get :
    let request : List UInt8 := [71, 69, 84]
    let reply : List UInt8 := [79, 75]
    let schedule : List Turn :=
      [.server 7, .client (clockAt 1), .server 0, .client (clockAt 2), .server 0,
        .client (clockAt 3), .server 0, .client (clockAt 4)]
    let begins := start (TCPClient.construct (exampleServerSocket 20000))
      (EtherSia.configured (exampleMac 1) fun _ => 0) (exampleSocket 80)
      (EtherSia.configured (exampleMac 2) fun _ => 0) 0xFFFFFFFE 0
    ∃ first rest done last, schedule = first ++ rest ∧
      run (Exchange.step request reply) begins first = some done ∧
      Completed done request reply ∧ done.client.closing = true ∧
        run (Exchange.step request reply) done rest = some last ∧
          Completed last request reply := by
  apply exchange_completes
  · decide
  · rfl
  · rfl
  · exact ⟨rfl, rfl⟩
  · rfl
  · decide
  · decide
  · decide +kernel
  · decide

end EtherSiaStack
