/-
Opening a connection.

`connect` sends a SYN from the address that `prepareSend` picks, and `havePacket` waits
for the answer at the link-local address.  The segment that opens the connection is one
of this connection that acknowledges all that was sent; whether it carries a SYN itself
is not asked.
-/

import EtherSiaStack.ClientDelivery
import EtherSiaStack.ClientTimer

namespace EtherSiaStack

open ByteMemory IPv6Packet Trace

namespace EtherSia

/-- The source address `prepareSend` picks for a packet to `address`. -/
def sendSourceAddress (ether : EtherSia) (address : IPv6Address) : IPv6Address :=
  if address.isLinkLocal ∨ ether.globalAddress.isZero then ether.linkLocalAddress
  else ether.globalAddress

theorem prepareSend_source (ether : EtherSia) :
    source ether.prepareSend.buffer =
      ether.sendSourceAddress (destination ether.buffer) := by
  have sameDestination : destination (init ether.buffer) = destination ether.buffer := by
    simp
  unfold prepareSend sendSourceAddress
  dsimp only
  rw [sameDestination]
  split_ifs
  · simp
  · simp

theorem prepareSend_destination (ether : EtherSia) :
    destination ether.prepareSend.buffer = destination ether.buffer := by
  unfold prepareSend
  dsimp only
  split_ifs
  · simp
  · simp

theorem prepareSend_etherDestination (ether : EtherSia) :
    etherDestination ether.prepareSend.buffer = etherDestination ether.buffer := by
  unfold prepareSend
  dsimp only
  split_ifs
  · simp
  · simp

end EtherSia

/-! ### The SYN -/

/-- The addresses and ports of a TCP segment. -/
structure Endpoints where
  source : IPv6Address
  destination : IPv6Address
  sourcePort : UInt16
  destinationPort : UInt16
  etherDestination : MACAddress
  deriving DecidableEq

def endpoints (packet : Memory) : Endpoints where
  source := source packet
  destination := destination packet
  sourcePort := TCPHeader.sourcePort packet
  destinationPort := TCPHeader.destinationPort packet
  etherDestination := etherDestination packet

namespace TCPClient

open TCPHeader

/-- The endpoints of whatever the client sends from `source` of its own accord. -/
def endpointsFrom (client : TCPClient) (source : IPv6Address) : Endpoints where
  source := source
  destination := client.remoteAddress
  sourcePort := client.localPort
  destinationPort := client.remotePort
  etherDestination := client.remoteMac

theorem fillTCPHeader_endpoints (client : TCPClient) (packet : Memory) :
    endpoints (client.fillTCPHeader packet) =
      { endpoints packet with
        sourcePort := client.localPort
        destinationPort := client.remotePort } := by
  have header := client.fillTCPHeader_hasHeader packet
  have low : Agree (client.fillTCPHeader packet) packet 0 20 :=
    client.fillTCPHeader_agree packet (Or.inl le_rfl)
  have high : Agree (client.fillTCPHeader packet) packet 22 54 :=
    client.fillTCPHeader_agree packet (by decide)
  have sameSource : source (client.fillTCPHeader packet) = source packet :=
    source_congr (high.mono le_rfl (by decide))
  have sameDestination : destination (client.fillTCPHeader packet) = destination packet :=
    destination_congr (high.mono (by decide) le_rfl)
  have sameEther : etherDestination (client.fillTCPHeader packet) =
      etherDestination packet :=
    congrArg MACAddress.mk (low.blockAt_eq (by decide) (by decide))
  unfold endpoints
  rw [sameSource, sameDestination, sameEther, header.sourcePort, header.destinationPort]
  rfl

/-- A segment sent of its own accord, built behind `prepareSend`. -/
theorem send_endpoints (client : TCPClient) (length : UInt16) (ether : EtherSia) :
    endpoints (client.send length false ether).2.buffer =
        client.endpointsFrom (ether.sendSourceAddress client.remoteAddress) ∧
      sequenceNum (client.send length false ether).2.buffer = client.localSeqNum := by
  let addressed := ether.modifyPacket fun packet =>
    setEtherDestination (setDestination packet client.remoteAddress) client.remoteMac
  let packet := setDataOffset addressed.prepareSend.buffer 0x60
  let sized := setPayloadLength packet (receiveHeaderLen packet + length)
  have built : (client.send length false ether).2.buffer = client.fillTCPHeader sized := by
    unfold send sendInternal
    split
    · rfl
    · rfl
  have isDestination : destination addressed.buffer = client.remoteAddress := by
    simp [addressed, EtherSia.modifyPacket]
  have isSource := addressed.prepareSend_source
  have isTarget := addressed.prepareSend_destination
  have isEther := addressed.prepareSend_etherDestination
  have sameEther : etherDestination addressed.buffer = client.remoteMac := by
    simp [addressed, EtherSia.modifyPacket]
  rw [isDestination] at isSource isTarget
  rw [sameEther] at isEther
  constructor
  · rw [built, fillTCPHeader_endpoints]
    unfold endpoints endpointsFrom
    have sized_source : source sized = source addressed.prepareSend.buffer := by
      simp [sized, packet]
    have sized_destination :
        destination sized = destination addressed.prepareSend.buffer := by
      simp [sized, packet]
    have sized_ether :
        etherDestination sized = etherDestination addressed.prepareSend.buffer := by
      simp [sized, packet]
    rw [sized_source, sized_destination, sized_ether, isSource, isTarget, isEther]
    rfl
  · rw [built]
    exact (client.fillTCPHeader_hasHeader sized).sequenceNum

/-- The client as `connect` sets it up. -/
def opening (client : TCPClient) (randomNumber now : UInt32) : TCPClient :=
  { client with
    localSeqNum := randomNumber
    remoteSeqNum := 0
    localPort := client.localPort + 1
    unAckLen := 1
    timer := UIP_RTO
    rto := UIP_RTO
    sa := 0
    sv := 16
    nrtx := 0
    state := .waitSynAck
    timedOut := false
    periodic := now
    inactivity := now }

/-- Unless the application sends data again, a segment starts the counters anew. -/
theorem send_fst (client : TCPClient) (length : UInt16) (isReply : Bool)
    (ether : EtherSia) :
    (client.send length isReply ether).1 =
      if client.appliFlags.rexmit then client
      else { client with
        unAckLen := client.unAckLen + length
        timer := client.rto
        nrtx := 0 } := by
  unfold send sendInternal
  split
  · rfl
  · rfl

theorem connect_eq (client : TCPClient) (randomNumber now : UInt32) (ether : EtherSia) :
    client.connect randomNumber now ether =
      (client.opening randomNumber now).send 0 false
        (ether.modifyPacket fun packet => setFlags packet TCP_FLAG_SYN) :=
  rfl

theorem connect_fst (client : TCPClient) (randomNumber now : UInt32) (ether : EtherSia) :
    (client.connect randomNumber now ether).1 = client.opening randomNumber now := by
  rw [connect_eq, send_fst]
  split
  · rfl
  · rfl

theorem connect_endpoints (client : TCPClient) (randomNumber now : UInt32)
    (ether : EtherSia) :
    endpoints (client.connect randomNumber now ether).2.buffer =
        (client.opening randomNumber now).endpointsFrom
          (ether.sendSourceAddress client.remoteAddress) ∧
      sequenceNum (client.connect randomNumber now ether).2.buffer = randomNumber := by
  rw [connect_eq]
  exact (client.opening randomNumber now).send_endpoints 0 _

/-! ### The segment that opens the connection -/

theorem and_or_distrib (flags first second : UInt8) :
    flags &&& (first ||| second) = flags &&& first ||| flags &&& second := by
  apply UInt8.toBitVec_inj.mp
  rw [UInt8.toBitVec_or, UInt8.toBitVec_and, UInt8.toBitVec_and, UInt8.toBitVec_and,
    UInt8.toBitVec_or]
  ext index
  simp [Bool.and_or_distrib_left]

theorem hasFlag_or {flags first : UInt8} (set : hasFlag flags first = true)
    (second : UInt8) : hasFlag flags (second ||| first) = true := by
  unfold hasFlag at set ⊢
  rw [decide_eq_true_eq] at set ⊢
  intro cleared
  rw [and_or_distrib] at cleared
  exact set (UInt8.or_eq_zero_iff.mp cleared).2

theorem acknowledges_ticked_iff (client : TCPClient) (clock : HavePacketClock)
    (packet : Memory) :
    (client.ticked clock).counted.Acknowledges packet ↔ client.Acknowledges packet := by
  obtain ⟨_, _, _, _, same⟩ := client.ticked_eq clock
  rw [same]
  exact ⟨fun ⟨isAck, outstanding, number⟩ => ⟨isAck, outstanding, number⟩,
    fun ⟨isAck, outstanding, number⟩ => ⟨isAck, outstanding, number⟩⟩

/-- A segment of the connection opens it when it is no reset and acknowledges all. -/
theorem foundSegment_opens_iff {client : TCPClient} (waiting : client.state = .waitSynAck)
    (inTime : client.timedOut = false) (fresh : client.appliFlags.ackData = false)
    (ether : EtherSia) :
    (client.foundSegment ether).1.state = .connected ↔
      hasFlag (flags ether.buffer) TCP_FLAG_RST = false ∧
        client.Acknowledges ether.buffer := by
  have sameState := (client.ackTest_keeps ether.buffer).2.1.trans waiting
  unfold foundSegment
  split
  · rename_i isReset
    refine iff_of_false nofun fun ⟨noReset, _⟩ => ?_
    rw [noReset] at isReset
    cases isReset
  · rename_i noReset
    rw [Bool.not_eq_true] at noReset
    split
    · rename_i unexpected
      refine iff_of_false ?_ fun ⟨_, acknowledges⟩ => ?_
      · dsimp only
        rw [waiting]
        exact nofun
      · have exempt : client.testsSequence ether.buffer = false := by
          unfold testsSequence
          rw [waiting, inTime, hasFlag_or acknowledges.isAck TCP_FLAG_SYN]
          rfl
        rw [exempt] at unexpected
        cases unexpected.1
    · dsimp only
      rw [sameState]
      dsimp only [waitSynAckSegment]
      by_cases acknowledges : client.Acknowledges ether.buffer
      · obtain ⟨_, _, _, _, acked⟩ := ackTest_of_acknowledges acknowledges
        rw [acked, if_pos ⟨rfl, hasFlag_or acknowledges.isAck TCP_FLAG_SYN⟩]
        exact iff_of_true rfl ⟨noReset, acknowledges⟩
      · rw [ackTest_of_not_acknowledges acknowledges]
        have refused : ¬ (client.appliFlags.ackData = true ∧
            hasFlag (flags ether.buffer) (TCP_FLAG_SYN ||| TCP_FLAG_ACK) = true) := by
          rw [fresh]
          exact fun both => Bool.false_ne_true both.1
        rw [if_neg refused]
        exact iff_of_false nofun fun both => acknowledges both.2

/-- The packet in the buffer opens the connection. -/
structure Opens (client : TCPClient) (ether : EtherSia) : Prop where
  received : ether.bufferContainsReceived = true
  ofConnection : client.OfConnection ether
  noReset : hasFlag (flags ether.buffer) TCP_FLAG_RST = false
  acknowledges : client.Acknowledges ether.buffer

theorem poll_opens_iff {client : TCPClient} (waiting : client.state = .waitSynAck)
    (inTime : client.timedOut = false) (clock : HavePacketClock) (ether : EtherSia) :
    (client.poll clock ether).1.state = .connected ↔ client.Opens ether := by
  have active : client.Active := ⟨by rw [waiting]; exact nofun, inTime⟩
  have sameSocket := client.ticked_toSocket clock
  have tickedWaiting := (client.ticked_state clock).trans waiting
  have stays (other : TCPClient) (same : other.state = .waitSynAck) :
      (other.checkForRetransmit ether).1.state ≠ .connected := by
    rw [(other.checkForRetransmit_keeps ether).1, same]
    exact nofun
  rw [poll_of_active active]
  by_cases flagged : ether.bufferContainsReceived = true
  · by_cases ours : (client.ticked clock).OfConnection ether
    · rw [dispatchPacket_of_ofConnection flagged ours]
      obtain ⟨reset, cleared⟩ := client.ticked_appliFlags clock
      have countedWaiting : (client.ticked clock).counted.state = .waitSynAck :=
        tickedWaiting
      have fresh : (client.ticked clock).counted.appliFlags.ackData = false :=
        congrArg AppliFlags.ackData cleared
      rw [foundSegment_opens_iff countedWaiting
        ((client.ticked_timedOut clock).trans inTime) fresh, acknowledges_ticked_iff]
      exact ⟨fun ⟨noReset, acknowledges⟩ =>
          ⟨flagged, ours.of_toSocket sameSocket.symm, noReset, acknowledges⟩,
        fun opens => ⟨opens.noReset, opens.acknowledges⟩⟩
    · have notOurs : ¬ client.OfConnection ether :=
        fun isOurs => ours (isOurs.of_toSocket sameSocket)
      by_cases old : (client.ticked clock).TakenForOld ether
      · rw [dispatchPacket_of_takenForOld flagged old]
        refine iff_of_false (fun connected => ?_) fun opens => notOurs opens.ofConnection
        cases tickedWaiting.symm.trans connected
      · rw [dispatchPacket_of_other flagged ours old]
        exact iff_of_false (stays _ tickedWaiting) fun opens => notOurs opens.ofConnection
  · rw [dispatchPacket_of_not_received _ (by simpa using flagged)]
    exact iff_of_false (stays _ tickedWaiting) fun opens => flagged opens.received

/-! ### The answer to the SYN -/

/-- A conforming answer to a SYN: addresses and ports swapped, SYN and ACK, and the
number behind the SYN. -/
structure AnswersSyn (syn answer : Memory) : Prop where
  source : source answer = destination syn
  destination : destination answer = IPv6Packet.source syn
  isTcp : protocol answer = IP6_PROTO_TCP
  sourcePort : sourcePort answer = destinationPort syn
  destinationPort : destinationPort answer = TCPHeader.sourcePort syn
  flags : flags answer = TCP_FLAG_SYN ||| TCP_FLAG_ACK
  number : acknowledgementNum answer = sequenceNum syn + 1

/-- A client that has connected and still waits, whatever its timers have done. -/
structure StillWaits (connecting client : TCPClient) : Prop where
  toSocket : client.toSocket = connecting.toSocket
  waiting : client.state = .waitSynAck
  inTime : client.timedOut = false
  localSeqNum : client.localSeqNum = connecting.localSeqNum
  unAckLen : client.unAckLen = connecting.unAckLen

/-- The source address of the SYN is the one at which the answer is expected. -/
theorem sendSourceAddress_eq_linkLocal_iff (ether : EtherSia) (address : IPv6Address) :
    ether.sendSourceAddress address = ether.linkLocalAddress ↔
      address.isLinkLocal = true ∨ ether.globalAddress.isZero = true ∨
        ether.globalAddress = ether.linkLocalAddress := by
  unfold EtherSia.sendSourceAddress
  split
  · rename_i isLocal
    exact iff_of_true rfl (isLocal.imp_right Or.inl)
  · rename_i notLocal
    constructor
    · exact fun same => Or.inr (Or.inr same)
    · rintro (isLinkLocal | isZero | same)
      · exact absurd (Or.inl isLinkLocal) notLocal
      · exact absurd (Or.inr isZero) notLocal
      · exact same

theorem poll_answersSyn_iff (client : TCPClient) (iss now : UInt32) (ether : EtherSia)
    {waiting : TCPClient} (waits : StillWaits (client.connect iss now ether).1 waiting)
    {received : EtherSia} (sameAddress : received.linkLocalAddress = ether.linkLocalAddress)
    (flagged : received.bufferContainsReceived = true)
    (answers : AnswersSyn (client.connect iss now ether).2.buffer received.buffer)
    (clock : HavePacketClock) :
    (waiting.poll clock received).1.state = .connected ↔
      ether.sendSourceAddress client.remoteAddress = ether.linkLocalAddress := by
  obtain ⟨synEndpoints, synNumber⟩ := client.connect_endpoints iss now ether
  have isSource := congrArg Endpoints.source synEndpoints
  have isDestination := congrArg Endpoints.destination synEndpoints
  have isSourcePort := congrArg Endpoints.sourcePort synEndpoints
  have isDestinationPort := congrArg Endpoints.destinationPort synEndpoints
  have sameClient := client.connect_fst iss now ether
  rw [poll_opens_iff waits.waiting waits.inTime]
  constructor
  · intro opens
    have toUs := opens.ofConnection.toUs
    rw [answers.destination, sameAddress] at toUs
    exact isSource.symm.trans toUs
  · intro same
    have sameSocket : waiting.toSocket = (client.opening iss now).toSocket := by
      rw [waits.toSocket, sameClient]
    have isNumber : waiting.localSeqNum = iss := by
      rw [waits.localSeqNum, sameClient]
      rfl
    have isLength : waiting.unAckLen = 1 := by
      rw [waits.unAckLen, sameClient]
      rfl
    refine ⟨flagged, ⟨?_, ?_, answers.isTcp, ?_, ?_⟩, ?_, ?_, ?_, ?_⟩
    · rw [answers.destination, sameAddress, ← same]
      exact isSource
    · rw [answers.source, sameSocket]
      exact isDestination
    · rw [answers.sourcePort, sameSocket]
      exact isDestinationPort
    · rw [answers.destinationPort, sameSocket]
      exact isSourcePort
    · rw [answers.flags]
      decide
    · rw [answers.flags]
      decide
    · rw [isLength]
      decide
    · rw [answers.number, synNumber, isNumber, isLength]
      rfl

/-- The conforming answer to the SYN opens the connection exactly when the SYN was sent
from the link-local address. -/
theorem syn_ack_opens_iff (client : TCPClient) (iss now : UInt32) (ether : EtherSia)
    {waiting : TCPClient} (waits : StillWaits (client.connect iss now ether).1 waiting)
    {received : EtherSia} (sameAddress : received.linkLocalAddress = ether.linkLocalAddress)
    (flagged : received.bufferContainsReceived = true)
    (answers : AnswersSyn (client.connect iss now ether).2.buffer received.buffer)
    (clock : HavePacketClock) :
    (waiting.poll clock received).1.state = .connected ↔
      client.remoteAddress.isLinkLocal = true ∨ ether.globalAddress.isZero = true ∨
        ether.globalAddress = ether.linkLocalAddress := by
  rw [poll_answersSyn_iff client iss now ether waits sameAddress flagged answers clock]
  exact sendSourceAddress_eq_linkLocal_iff ether client.remoteAddress

/-- A conforming answer, with its checksum. -/
def exampleAnswer (syn : Memory) : Memory :=
  let packet := setSource syn (destination syn)
  let packet := setDestination packet (source syn)
  let packet := setSourcePort packet (destinationPort syn)
  let packet := setDestinationPort packet (sourcePort syn)
  let packet := setFlags packet (TCP_FLAG_SYN ||| TCP_FLAG_ACK)
  let packet := setAcknowledgementNum packet (sequenceNum syn + 1)
  storeChecksum packet checksumAddress

theorem answersSyn_exampleAnswer {syn : Memory} (isTcp : protocol syn = IP6_PROTO_TCP) :
    AnswersSyn syn (exampleAnswer syn) := by
  let packet := setAcknowledgementNum
    (setFlags (setDestinationPort (setSourcePort
      (setDestination (setSource syn (destination syn)) (source syn))
        (destinationPort syn)) (sourcePort syn)) (TCP_FLAG_SYN ||| TCP_FLAG_ACK))
    (sequenceNum syn + 1)
  have low : Agree (exampleAnswer syn) packet 18 70 :=
    storeChecksum_agree packet (Or.inl le_rfl)
  constructor
  · exact (source_congr (low.mono (by decide) (by decide))).trans (by simp [packet])
  · exact (destination_congr (low.mono (by decide) (by decide))).trans (by simp [packet])
  · exact (low 20 (by decide) (by decide)).trans (by simpa [packet] using isTcp)
  · exact (low.u16At_eq (by decide) (by decide)).trans (by simp [packet])
  · exact (low.u16At_eq (by decide) (by decide)).trans (by simp [packet])
  · exact (low 67 (by decide) (by decide)).trans (by simp [packet])
  · exact (low.u32At_eq (by decide) (by decide)).trans (by simp [packet])

/-- The interface of a node with a global address. -/
def globalEther : EtherSia :=
  { EtherSia.configured (exampleMac 1) (fun _ => 0) with
    globalAddress := ⟨![0x20, 0x01, 0x0d, 0xb8, 0, 0, 0, 0, 0, 0, 0, 0, 0, 0, 0, 1]⟩ }

/-- A client of a server with a global address. -/
def globalClient : TCPClient :=
  construct { exampleServerSocket 20000 with
    remoteAddress := ⟨![0x20, 0x01, 0x0d, 0xb8, 0, 0, 0, 0, 0, 0, 0, 0, 0, 0, 0, 2]⟩ }

/-- The interface with the answer to the SYN it has sent. -/
def exampleAnswered (sent : EtherSia) : EtherSia :=
  { sent with
    buffer := exampleAnswer sent.buffer
    bufferContainsReceived := true }

/-- The SYN goes out from the global address, and the answer to it is passed over. -/
theorem global_syn_ack_passed_over :
    let connecting := globalClient.connect 1000 0 globalEther
    let answered := exampleAnswered connecting.2
    isValid answered.buffer = true ∧ AnswersSyn connecting.2.buffer answered.buffer ∧
      connecting.1.state = .waitSynAck ∧
        (connecting.1.poll (clockAt 1) answered).1.state = .waitSynAck := by
  refine ⟨by decide +kernel, answersSyn_exampleAnswer (by decide +kernel), ?_, ?_⟩
  · decide +kernel
  · decide +kernel

theorem syn_ack_opens_iff_linkLocal :
    let client := construct (exampleServerSocket 20000)
    let connecting := client.connect 1000 0 globalEther
    (connecting.1.poll (clockAt 1) (exampleAnswered connecting.2)).1.state = .connected ↔
      client.remoteAddress.isLinkLocal = true ∨ globalEther.globalAddress.isZero = true ∨
        globalEther.globalAddress = globalEther.linkLocalAddress := by
  intro client connecting
  have waits : StillWaits (client.connect 1000 0 globalEther).1
      (client.connect 1000 0 globalEther).1 := by
    rw [connect_fst]
    exact ⟨rfl, rfl, rfl, rfl, rfl⟩
  have sameAddress : (exampleAnswered (client.connect 1000 0
      globalEther).2).linkLocalAddress = globalEther.linkLocalAddress := by decide +kernel
  exact syn_ack_opens_iff client 1000 0 globalEther waits sameAddress rfl
    (answersSyn_exampleAnswer (by decide +kernel)) (clockAt 1)

/-- The number of the SYN lasts as long as the client waits for an answer. -/
theorem poll_waiting_localSeqNum {client : TCPClient} {clock : HavePacketClock}
    {ether : EtherSia} (waiting : (client.poll clock ether).1.state = .waitSynAck) :
    client.state = .waitSynAck ∧
      (client.poll clock ether).1.localSeqNum = client.localSeqNum := by
  by_cases active : client.Active
  · have sameState := client.ticked_state clock
    have sameNumber := client.ticked_localSeqNum clock
    rcases poll_outcome active clock ether with quiet | ⟨_, expiry⟩
    · cases quiet.outcome with
      | kept _ state _ localSeqNum _ _ _ =>
          exact ⟨(state.trans sameState).symm.trans waiting, localSeqNum.trans sameNumber⟩
      | acknowledged state _ _ _ => cases state.symm.trans waiting
      | closed state _ _ => cases state.symm.trans waiting
      | finReceived _ state _ _ _ _ => cases state.symm.trans waiting
    · exact ⟨(expiry.state.trans sameState).symm.trans waiting,
        expiry.localSeqNum.trans sameNumber⟩
  · rw [poll_of_idle active] at waiting
    cases waiting

end TCPClient

/-! ### Every run -/

section Runs

variable {ι : Type} [DecidableEq ι]

/-- The step takes a client from `TCP_STATE_WAIT_SYN_ACK` to `TCP_STATE_CONNECTED`. -/
structure OpensIn (index : ι) (taken : Taken (Station ι) (StationEvent ι)) : Prop where
  waiting : (taken.before.clients index).state = .waitSynAck
  connected : (taken.after.clients index).state = .connected

/-- The packet in the buffer is a SYN-ACK of the connection for the SYN with number
`iss`, and the connection goes on behind it. -/
structure OnSynAck (index : ι) (iss : UInt32)
    (taken : Taken (Station ι) (StationEvent ι)) : Prop where
  received : taken.before.ether.bufferContainsReceived = true
  ofConnection : (taken.before.clients index).OfConnection taken.before.ether
  syn : hasFlag (TCPHeader.flags taken.before.ether.buffer) TCP_FLAG_SYN = true
  ack : hasFlag (TCPHeader.flags taken.before.ether.buffer) TCP_FLAG_ACK = true
  number : TCPHeader.acknowledgementNum taken.before.ether.buffer = iss + 1
  remoteSeqNum : (taken.after.clients index).remoteSeqNum =
    TCPHeader.sequenceNum taken.before.ether.buffer + 1

instance (index : ι) (taken : Taken (Station ι) (StationEvent ι)) :
    Decidable (OpensIn index taken) :=
  decidable_of_iff ((taken.before.clients index).state = .waitSynAck ∧
      (taken.after.clients index).state = .connected)
    ⟨fun ⟨waiting, connected⟩ => ⟨waiting, connected⟩,
      fun opens => ⟨opens.waiting, opens.connected⟩⟩

instance (index : ι) (iss : UInt32) (taken : Taken (Station ι) (StationEvent ι)) :
    Decidable (OnSynAck index iss taken) :=
  decidable_of_iff (taken.before.ether.bufferContainsReceived = true ∧
      (taken.before.clients index).OfConnection taken.before.ether ∧
        hasFlag (TCPHeader.flags taken.before.ether.buffer) TCP_FLAG_SYN = true ∧
          hasFlag (TCPHeader.flags taken.before.ether.buffer) TCP_FLAG_ACK = true ∧
            TCPHeader.acknowledgementNum taken.before.ether.buffer = iss + 1 ∧
              (taken.after.clients index).remoteSeqNum =
                TCPHeader.sequenceNum taken.before.ether.buffer + 1)
    ⟨fun ⟨received, ofConnection, syn, ack, number, remoteSeqNum⟩ =>
        ⟨received, ofConnection, syn, ack, number, remoteSeqNum⟩,
      fun found => ⟨found.received, found.ofConnection, found.syn, found.ack, found.number,
        found.remoteSeqNum⟩⟩

/-- While the client waits for an answer its number is that of the SYN. -/
def SynNumbered (index : ι) (iss : UInt32) (station : Station ι) : Prop :=
  (station.clients index).state = .waitSynAck → (station.clients index).localSeqNum = iss

theorem step_synNumbered {index : ι} {iss : UInt32}
    {taken : Taken (Station ι) (StationEvent ι)}
    (stepped : taken.before.step taken.event = some taken.after)
    (numbered : SynNumbered index iss taken.before)
    (sameConnection : ∀ randomNumber now, taken.event ≠ .connect index randomNumber now) :
    SynNumbered index iss taken.after := by
  obtain ⟨before, event, after⟩ := taken
  dsimp only at stepped numbered sameConnection ⊢
  unfold SynNumbered
  intro waiting
  apply Station.step_client_cases index stepped
  · intro _ same
    rw [same] at waiting ⊢
    exact numbered waiting
  · rintro socket rfl rfl
    rw [Station.update_clients_same] at waiting ⊢
    exact numbered waiting
  · rintro randomNumber now rfl _
    exact absurd rfl (sameConnection randomNumber now)
  · rintro clock rfl rfl
    rw [Station.update_clients_same] at waiting ⊢
    obtain ⟨wasWaiting, same⟩ := TCPClient.poll_waiting_localSeqNum waiting
    exact same.trans (numbered wasWaiting)
  · rintro length isReply rfl rfl
    rw [Station.update_clients_same] at waiting ⊢
    have sent := (before.clients index).send_fst length isReply before.ether
    split at sent
    · rw [sent] at waiting ⊢
      exact numbered waiting
    · rw [sent] at waiting ⊢
      exact numbered waiting

/-- A call that opens the connection has found a SYN-ACK for the SYN exactly when the
segment carries a SYN and nothing but the SYN was outstanding. -/
theorem poll_onSynAck_iff {index : ι} {iss : UInt32} {before : Station ι}
    {clock : HavePacketClock} (numbered : SynNumbered index iss before)
    (opens : OpensIn index ⟨before, .clientHavePacket index clock,
      before.update index ((before.clients index).poll clock before.ether)⟩) :
    OnSynAck index iss ⟨before, .clientHavePacket index clock,
        before.update index ((before.clients index).poll clock before.ether)⟩ ↔
      hasFlag (TCPHeader.flags before.ether.buffer) TCP_FLAG_SYN = true ∧
        (before.clients index).unAckLen = 1 := by
  obtain ⟨waiting, connected⟩ := opens
  dsimp only at waiting connected
  rw [Station.update_clients_same] at connected
  have inTime : (before.clients index).timedOut = false := by
    by_contra late
    have idle : ¬ (before.clients index).Active := fun active => late active.inTime
    rw [TCPClient.poll_of_idle idle] at connected
    cases connected
  have found := (TCPClient.poll_opens_iff waiting inTime clock before.ether).mp connected
  have expected := found.acknowledges.number
  rw [numbered waiting] at expected
  constructor
  · intro onSynAck
    refine ⟨onSynAck.syn, ?_⟩
    have sameNumber : iss + (before.clients index).unAckLen.toUInt32 = iss + 1 :=
      expected.symm.trans onSynAck.number
    have isOne := add_left_cancel sameNumber
    apply UInt16.toNat_inj.mp
    have asNat := congrArg UInt32.toNat isOne
    rw [UInt16.toNat_toUInt32] at asNat
    exact asNat
  · rintro ⟨syn, isOne⟩
    rw [isOne] at expected
    refine ⟨found.received, found.ofConnection, syn, found.acknowledges.isAck, expected, ?_⟩
    dsimp only
    rw [Station.update_clients_same]
    exact TCPClient.poll_opens waiting connected

theorem step_onSynAck_iff {index : ι} {iss : UInt32}
    {taken : Taken (Station ι) (StationEvent ι)}
    (stepped : taken.before.step taken.event = some taken.after)
    (numbered : SynNumbered index iss taken.before) (opens : OpensIn index taken) :
    OnSynAck index iss taken ↔
      hasFlag (TCPHeader.flags taken.before.ether.buffer) TCP_FLAG_SYN = true ∧
        (taken.before.clients index).unAckLen = 1 := by
  obtain ⟨before, event, after⟩ := taken
  dsimp only at stepped numbered
  have waiting : (before.clients index).state = .waitSynAck := opens.waiting
  have connected : (after.clients index).state = .connected := opens.connected
  apply Station.step_client_cases index stepped
  · intro _ same
    rw [same, waiting] at connected
    cases connected
  · rintro socket rfl rfl
    rw [Station.update_clients_same] at connected
    cases waiting.symm.trans connected
  · rintro randomNumber now rfl rfl
    rw [Station.update_clients_same, TCPClient.connect_fst] at connected
    cases connected
  · rintro clock rfl rfl
    exact poll_onSynAck_iff numbered opens
  · rintro length isReply rfl rfl
    rw [Station.update_clients_same,
      ((before.clients index).send_keeps length isReply before.ether).1] at connected
    cases waiting.symm.trans connected

/-- From a `connect` on, the segment that opens the connection is a SYN-ACK for the SYN
exactly when it carries a SYN and no data was sent ahead of the connection. -/
theorem run_opens_on_syn_ack_iff {index : ι} (start : Station ι) (iss now : UInt32)
    {events : List (StationEvent ι)}
    (sameConnection : ∀ randomNumber now, .connect index randomNumber now ∉ events) :
    Always Station.step start (.connect index iss now :: events) fun taken =>
      OpensIn index taken →
        (OnSynAck index iss taken ↔
          hasFlag (TCPHeader.flags taken.before.ether.buffer) TCP_FLAG_SYN = true ∧
            (taken.before.clients index).unAckLen = 1) := by
  have connects : start.step (.connect index iss now) = some
      (start.update index ((start.clients index).connect iss now start.ether)) := rfl
  have opening : SynNumbered index iss
      (start.update index ((start.clients index).connect iss now start.ether)) := by
    intro _
    rw [Station.update_clients_same, TCPClient.connect_fst]
    rfl
  rw [always_cons_of_step connects]
  constructor
  · intro opens
    have connected := opens.connected
    dsimp only at connected
    rw [Station.update_clients_same, TCPClient.connect_fst] at connected
    cases connected
  · have others : Always Station.step
        (start.update index ((start.clients index).connect iss now start.ether)) events
        fun taken => ∀ randomNumber now, taken.event ≠ .connect index randomNumber now := by
      intro taken member randomNumber now isConnect
      exact sameConnection randomNumber now (isConnect ▸ event_mem_of_mem_trace member)
    exact always_of_invariant (SynNumbered index iss)
      (fun taken stepped numbered other => step_synNumbered stepped numbered other)
      (fun taken stepped numbered _ opens => step_onSynAck_iff stepped numbered opens)
      opening others

end Runs

/-- An ACK without SYN for port 20001, acknowledging sequence number 1000. -/
def ackFirst : Frame :=
  exampleFrame 20 IP6_PROTO_TCP
    [0, 80, 0x4e, 0x21, 0, 0, 0x13, 0x88, 0, 0, 3, 0xe9, 0x50, 0x10, 1, 0xea, 0x4d, 4,
      0, 0] (by decide)

/-- The flag mask takes a plain ACK for the answer to the SYN. -/
theorem plain_ack_opens_connection :
    ¬ Always Station.step twoClients
      [.connect false 1000 0, .receivePacket ackFirst, .clientHavePacket false (clockAt 1)]
      (fun taken => OpensIn false taken → OnSynAck false 1000 taken) := by
  decide +kernel

theorem run_opens_on_syn_ack_iff_first :
    Always Station.step twoClients
      [.connect false 1000 0, .receivePacket synAckFirst,
        .clientHavePacket false (clockAt 1)]
      fun taken => OpensIn false taken →
        (OnSynAck false 1000 taken ↔
          hasFlag (TCPHeader.flags taken.before.ether.buffer) TCP_FLAG_SYN = true ∧
            (taken.before.clients false).unAckLen = 1) := by
  refine run_opens_on_syn_ack_iff twoClients 1000 0 fun randomNumber now member => ?_
  simp at member

end EtherSiaStack
