/-
What is left of the payload when `TCPClient::havePacket` returns.

`payload()` and `payloadLength()` read the header of the packet in the buffer.  When
`havePacket` reports data it has built its acknowledgement there, with a header of 20
bytes and nothing behind it.
-/

import EtherSiaStack.Segment
import EtherSiaStack.SharedBuffer

namespace EtherSiaStack

open ByteMemory IPv6Packet Trace

namespace TCPClient

open TCPHeader

/-- The bytes that `payload()` and `payloadLength()` denote. -/
def payloadBytes (packet : Memory) : List UInt8 :=
  bytesAt packet (payload packet) (payloadLength packet).toNat

theorem payloadBytes_length (packet : Memory) :
    (payloadBytes packet).length = (payloadLength packet).toNat :=
  bytesAt_length _ _ _

/-- A reply without data replaces the header of what it answers. -/
theorem tcpSendNoDataReply_payloadLength (client : TCPClient) (flags : UInt8)
    (ether : EtherSia) :
    payloadLength (client.tcpSendNoDataReply flags ether).buffer = 0 := by
  let flagged := ether.modifyPacket fun packet => setFlags packet flags
  let packet := setDataOffset flagged.prepareReply.buffer 0x50
  let sized := setPayloadLength packet (receiveHeaderLen packet)
  have built : (client.tcpSendNoDataReply flags ether).buffer =
      client.fillTCPHeader sized := rfl
  have isLength : IPv6Packet.payloadLength sized = 20 := by
    have headerLen : receiveHeaderLen packet = 20 := by
      rw [receiveHeaderLen_setDataOffset]
      decide
    exact (u16At_store_self _ _ _).trans headerLen
  have isOffset : dataOffset (client.fillTCPHeader sized) = 0x50 := by
    rw [(client.fillTCPHeader_hasHeader sized).dataOffset]
    simp [headerOf, sized, packet]
  rw [built]
  unfold payloadLength receiveHeaderLen
  rw [fillTCPHeader_payloadLength, isLength, isOffset]
  decide

/-- The call reports data, and has answered it. -/
structure AnswersData (ether : EtherSia) (after : TCPClient × EtherSia) : Prop where
  carriesData : payloadLength ether.buffer > 0
  answered : ∃ (other : TCPClient) (flags : UInt8),
    after.2 = other.tcpSendNoDataReply flags ether

theorem connectedSegment_answersData {client : TCPClient} {ether : EtherSia}
    (quiet : client.appliFlags.newData = false)
    (reports : (client.connectedSegment ether).1.appliFlags.newData = true) :
    AnswersData ether (client.connectedSegment ether) := by
  have silent : ¬ (client.checkForRetransmit ether).1.appliFlags.newData = true := by
    rw [(client.checkForRetransmit_keeps ether).2.2, quiet]
    exact Bool.false_ne_true
  unfold connectedSegment at reports ⊢
  split_ifs at reports ⊢ with fin outstanding data
  · exact absurd reports silent
  · have hasLength : payloadLength ether.buffer > 0 := by
      simpa [quiet] using reports
    exact ⟨hasLength, _, _, rfl⟩
  · exact ⟨data, _, _, rfl⟩
  · exact absurd reports silent

theorem foundSegment_answersData {client : TCPClient} {ether : EtherSia}
    (quiet : client.appliFlags.newData = false)
    (reports : (client.foundSegment ether).1.appliFlags.newData = true) :
    AnswersData ether (client.foundSegment ether) := by
  have stillQuiet := (client.ackTest_keeps ether.buffer).2.2.2 quiet
  unfold foundSegment at reports ⊢
  split_ifs at reports ⊢ with rst unexpected
  · cases reports
  · rw [quiet] at reports
    cases reports
  · dsimp only at reports ⊢
    split at reports
    · unfold waitSynAckSegment at reports
      split_ifs at reports <;> cases reports
    · exact connectedSegment_answersData stillQuiet reports
    · unfold lastAckSegment at reports
      split_ifs at reports
      · cases reports
      · rw [(checkForRetransmit_keeps _ ether).2.2, stillQuiet] at reports
        cases reports
    · rw [stillQuiet] at reports
      cases reports

/-- Data is reported only by a call that has answered it. -/
theorem havePacket_answersData {client : TCPClient} {clock : HavePacketClock}
    {ether : EtherSia} (reports : (client.havePacket clock ether).1 = true) :
    AnswersData ether (client.havePacket clock ether).2 := by
  obtain ⟨reset, flags⟩ := client.ticked_appliFlags clock
  have quiet : (client.ticked clock).appliFlags.newData = false :=
    congrArg AppliFlags.newData flags
  refine poll_cases client clock ether
    (motive := fun after => after.1.appliFlags.newData = true →
      AnswersData ether after) ?_ ?_ ?_ ?_ reports
  · intro _ reports
    obtain ⟨inactivity, reset, started⟩ := client.startCall_eq clock
    rw [started] at reports
    cases reports
  · exact fun _ _ _ reports => foundSegment_answersData quiet reports
  · exact fun _ _ _ reports => absurd (quiet.symm.trans reports) Bool.false_ne_true
  · intro _ nrcvd ndropped reports
    rw [(checkForRetransmit_keeps _ ether).2.2] at reports
    exact absurd (quiet.symm.trans reports) Bool.false_ne_true

/-- Behind a call that reports data, `payload()` and `payloadLength()` never denote the
payload of the segment it was reported for. -/
theorem havePacket_loses_payload (client : TCPClient) (clock : HavePacketClock)
    (ether : EtherSia) (reports : (client.havePacket clock ether).1 = true) :
    payloadBytes (client.havePacket clock ether).2.2.buffer ≠
      payloadBytes ether.buffer := by
  obtain ⟨carriesData, other, flags, answered⟩ := havePacket_answersData reports
  intro same
  have sameLength := congrArg List.length same
  have positive := UInt16.lt_iff_toNat_lt.mp carriesData
  rw [payloadBytes_length, payloadBytes_length, answered,
    tcpSendNoDataReply_payloadLength, UInt16.toNat_zero] at sameLength
  rw [UInt16.toNat_zero] at positive
  omega

end TCPClient

/-! The second client of two connects, and two bytes of data arrive for it. -/

def dataArrives : List (StationEvent Bool) :=
  [.connect true 2000 2, .receivePacket synAckSecond, .clientHavePacket true (clockAt 3),
    .receivePacket dataSecond]

/-- The application is told of the data and then finds none. -/
theorem havePacket_hides_data :
    ∃ station, run Station.step twoClients dataArrives = some station ∧
      ((station.clients true).havePacket (clockAt 4) station.ether).1 = true ∧
        TCPClient.payloadBytes
            ((station.clients true).havePacket (clockAt 4) station.ether).2.2.buffer ≠
          TCPClient.payloadBytes station.ether.buffer := by
  have facts : (run Station.step twoClients dataArrives).map (fun station =>
      let called := (station.clients true).havePacket (clockAt 4) station.ether
      (called.1, TCPClient.payloadBytes called.2.2.buffer,
        TCPClient.payloadBytes station.ether.buffer)) =
      some (true, [], [0x68, 0x69]) := by
    decide +kernel
  obtain ⟨station, reached, outcome⟩ := Option.map_eq_some_iff.mp facts
  simp only [Prod.mk.injEq] at outcome
  obtain ⟨reports, after, before⟩ := outcome
  refine ⟨station, reached, reports, ?_⟩
  rw [after, before]
  exact List.cons_ne_nil _ _ |>.symm

/-- The client and the interface once the data has arrived. -/
def dataArrived : TCPClient × EtherSia :=
  let opened := (TCPClient.construct (exampleServerSocket 20100)).connect 2000 2
    exampleStation.ether
  let connected := opened.1.poll (clockAt 3) (opened.2.accepted synAckSecond)
  (connected.1, connected.2.accepted dataSecond)

theorem havePacket_loses_payload_arrived :
    TCPClient.payloadBytes
        (dataArrived.1.havePacket (clockAt 4) dataArrived.2).2.2.buffer ≠
      TCPClient.payloadBytes dataArrived.2.buffer :=
  dataArrived.1.havePacket_loses_payload (clockAt 4) dataArrived.2 (by decide +kernel)

end EtherSiaStack
