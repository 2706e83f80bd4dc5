/-
In-order delivery by a client.

From the SYN-ACK that opened the connection on, the number a client expects next
counts the bytes it has handed to the application, and one for the FIN.  A call
reports data only for the segment with that number, and every segment the client
sends acknowledges it.
-/

import EtherSiaStack.Segment
import EtherSiaStack.SharedBuffer

namespace EtherSiaStack

open ByteMemory IPv6Packet Trace

namespace TCPClient

open TCPHeader

/-! ### What one call does to the expected number -/

/-- The bytes of the packet that a call reported as data. -/
def delivered (after : TCPClient) (packet : Memory) : Nat :=
  if after.appliFlags.newData then (payloadLength packet).toNat else 0

/-- The call took the connection from `CONNECTED` to `LAST_ACK`: it accepted a
FIN. -/
def acceptsFin (before after : TCPClient) : Bool :=
  before.state = .connected ∧ after.state = .lastAck

/-- A call moves the expected number by what it delivers, and delivers only the
segment that has the expected number. -/
structure MovesInOrder (before : TCPClient) (packet : Memory) (after : TCPClient) :
    Prop where
  number : after.remoteSeqNum = before.remoteSeqNum +
    UInt32.ofNat (after.delivered packet) + if before.acceptsFin after then 1 else 0
  expected : after.appliFlags.newData = true →
    before.state = .connected ∧ sequenceNum packet = before.remoteSeqNum
  closed : before.state ≠ .waitSynAck → after.state ≠ .waitSynAck ∧
    (after.state = .connected → before.state = .connected)

/-- The call delivers nothing and accepts no FIN. -/
structure Unmoved (before after : TCPClient) : Prop where
  number : after.remoteSeqNum = before.remoteSeqNum
  noData : after.appliFlags.newData = false
  state : after.state = before.state ∨ after.state = .disconnected

theorem Unmoved.movesInOrder {before after : TCPClient} (unmoved : Unmoved before after)
    (packet : Memory) : MovesInOrder before packet after where
  number := by
    have noFin : before.acceptsFin after = false := by
      rcases unmoved.state with same | closed
      · simp only [acceptsFin, same, decide_eq_false_iff_not]
        rintro ⟨connected, lastAck⟩
        rw [connected] at lastAck
        cases lastAck
      · simp [acceptsFin, closed]
    simp [delivered, unmoved.noData, noFin, unmoved.number]
  expected := fun newData => by
    rw [unmoved.noData] at newData
    cases newData
  closed := fun notWaiting => by
    rcases unmoved.state with same | closed
    · rw [same]
      exact ⟨notWaiting, id⟩
    · rw [closed]
      exact ⟨by decide, fun connected => by cases connected⟩

theorem MovesInOrder.of_same {before other after : TCPClient} {packet : Memory}
    (moves : MovesInOrder before packet after) (state : before.state = other.state)
    (number : before.remoteSeqNum = other.remoteSeqNum) :
    MovesInOrder other packet after where
  number := by
    have same : other.acceptsFin after = before.acceptsFin after := by
      simp only [acceptsFin, state]
    rw [same, ← number]
    exact moves.number
  expected := by
    rw [← state, ← number]
    exact moves.expected
  closed := by
    rw [← state]
    exact moves.closed

theorem unmoved_checkForRetransmit {client : TCPClient}
    (quiet : client.appliFlags.newData = false) (ether : EtherSia) :
    Unmoved client (client.checkForRetransmit ether).1 := by
  obtain ⟨state, number, newData⟩ := client.checkForRetransmit_keeps ether
  exact ⟨number, newData.trans quiet, Or.inl state⟩

/-- The header of a segment is inside its payload. -/
def OffsetInside (packet : Memory) : Prop :=
  20 ≤ (receiveHeaderLen packet).toNat ∧
    receiveHeaderLen packet ≤ IPv6Packet.payloadLength packet

instance (packet : Memory) : Decidable (OffsetInside packet) :=
  inferInstanceAs (Decidable (20 ≤ (receiveHeaderLen packet).toNat ∧
    receiveHeaderLen packet ≤ IPv6Packet.payloadLength packet))

theorem payloadLength_le {packet : Memory} (inside : OffsetInside packet) :
    (payloadLength packet).toNat ≤ 65515 := by
  have bound : (IPv6Packet.payloadLength packet).toNat < 65536 :=
    (IPv6Packet.payloadLength packet).toNat_lt
  have length : (payloadLength packet).toNat =
      (IPv6Packet.payloadLength packet).toNat - (receiveHeaderLen packet).toNat :=
    UInt16.toNat_sub_of_le _ _ inside.2
  have full := inside.1
  omega

/-- The sum is taken in 16 bits and does not wrap. -/
theorem payloadLength_succ {packet : Memory} (inside : OffsetInside packet) :
    (payloadLength packet + 1).toUInt32 =
      UInt32.ofNat (payloadLength packet).toNat + 1 := by
  have most := payloadLength_le inside
  have sum : (payloadLength packet + 1).toNat = (payloadLength packet).toNat + 1 := by
    rw [UInt16.toNat_add]
    exact Nat.mod_eq_of_lt (by change (payloadLength packet).toNat + 1 < 65536; omega)
  rw [← UInt32.ofNat_uInt16ToNat, sum, UInt32.ofNat_add]
  rfl

/-- The segment is tested when it carries data or a FIN. -/
def Expected (client : TCPClient) (packet : Memory) : Prop :=
  payloadLength packet > 0 ∨ hasFlag (flags packet) TCP_FLAG_FIN = true →
    sequenceNum packet = client.remoteSeqNum

theorem connectedSegment_movesInOrder {client : TCPClient} {ether : EtherSia}
    (connected : client.state = .connected) (quiet : client.appliFlags.newData = false)
    (inside : OffsetInside ether.buffer) (expected : client.Expected ether.buffer) :
    MovesInOrder client ether.buffer (client.connectedSegment ether).1 := by
  unfold connectedSegment
  by_cases fin : hasFlag (flags ether.buffer) TCP_FLAG_FIN = true
  · rw [if_pos fin]
    by_cases outstanding : client.unAckLen > 0
    · rw [if_pos outstanding]
      exact (unmoved_checkForRetransmit quiet ether).movesInOrder ether.buffer
    · rw [if_neg outstanding]
      constructor
      · simp only [acceptsFin, connected, delivered, quiet, Bool.false_or,
          decide_eq_true_eq, payloadLength_succ inside]
        by_cases data : payloadLength ether.buffer > 0
        · simp [data, UInt32.add_assoc]
        · have none : payloadLength ether.buffer = 0 := by
            apply UInt16.toNat_inj.mp
            have notPositive := mt UInt16.lt_iff_toNat_lt.mpr data
            rw [UInt16.toNat_zero] at notPositive ⊢
            omega
          simp [none]
      · exact fun _newData => ⟨connected, expected (Or.inr fin)⟩
      · refine fun _ => ⟨?_, ?_⟩
        · intro waiting
          cases waiting
        · intro stillConnected
          cases stillConnected
  · rw [if_neg fin]
    by_cases data : payloadLength ether.buffer > 0
    · rw [if_pos data]
      constructor
      · simp [acceptsFin, connected, delivered]
      · exact fun _newData => ⟨connected, expected (Or.inl data)⟩
      · exact fun notWaiting => ⟨notWaiting, fun _ => connected⟩
    · rw [if_neg data]
      exact (unmoved_checkForRetransmit quiet ether).movesInOrder ether.buffer

theorem unmoved_lastAckSegment {client : TCPClient}
    (quiet : client.appliFlags.newData = false) (ether : EtherSia) :
    Unmoved client (client.lastAckSegment ether).1 := by
  unfold lastAckSegment
  split
  · exact ⟨rfl, rfl, Or.inr rfl⟩
  · exact unmoved_checkForRetransmit quiet ether

theorem foundSegment_movesInOrder {client : TCPClient} {ether : EtherSia}
    (opened : client.state ≠ .waitSynAck) (quiet : client.appliFlags.newData = false)
    (inside : OffsetInside ether.buffer) :
    MovesInOrder client ether.buffer (client.foundSegment ether).1 := by
  obtain ⟨_, state, number, stillQuiet⟩ := client.ackTest_keeps ether.buffer
  unfold foundSegment
  by_cases rst : hasFlag (flags ether.buffer) TCP_FLAG_RST = true
  · rw [if_pos rst]
    have aborted : Unmoved client { client with
        state := .disconnected
        timedOut := false
        appliFlags := { AppliFlags.none with abort := true } } := ⟨rfl, rfl, Or.inr rfl⟩
    exact aborted.movesInOrder ether.buffer
  · rw [if_neg rst]
    have same : Unmoved client client := ⟨rfl, quiet, Or.inl rfl⟩
    by_cases unexpected : client.testsSequence ether.buffer = true ∧
        sequenceNum ether.buffer ≠ client.remoteSeqNum
    · rw [if_pos unexpected]
      exact same.movesInOrder ether.buffer
    · rw [if_neg unexpected]
      dsimp only
      cases stateIs : client.state with
      | waitSynAck => exact absurd stateIs opened
      | connected =>
          have expected : (client.ackTest ether.buffer).Expected ether.buffer := by
            intro tested
            rw [number]
            by_contra differs
            refine unexpected ⟨?_, differs⟩
            simpa [testsSequence, stateIs] using tested
          rw [state, stateIs]
          exact (connectedSegment_movesInOrder (state.trans stateIs) (stillQuiet quiet)
            inside expected).of_same state number
      | lastAck =>
          rw [state, stateIs]
          exact ((unmoved_lastAckSegment (stillQuiet quiet) ether).movesInOrder
            ether.buffer).of_same state number
      | disconnected =>
          rw [state, stateIs]
          have unmoved : Unmoved client (client.ackTest ether.buffer) :=
            ⟨number, stillQuiet quiet, Or.inl state⟩
          exact unmoved.movesInOrder ether.buffer

/-- What is demanded of the segments received: their data offset covers a header
and stays inside the payload. -/
def OffsetFits (client : TCPClient) (ether : EtherSia) : Prop :=
  ether.bufferContainsReceived = true → client.OfConnection ether →
    OffsetInside ether.buffer

/-- One call of `havePacket` moves the expected number by what it delivers. -/
theorem poll_movesInOrder {client : TCPClient} {ether : EtherSia}
    (opened : client.state ≠ .waitSynAck) (fits : client.OffsetFits ether)
    (clock : HavePacketClock) :
    MovesInOrder client ether.buffer (client.poll clock ether).1 := by
  obtain ⟨reset, flags⟩ := client.ticked_appliFlags clock
  have quiet : (client.ticked clock).appliFlags.newData = false :=
    congrArg AppliFlags.newData flags
  have state := client.ticked_state clock
  have number := client.ticked_remoteSeqNum clock
  refine poll_cases client clock ether
    (motive := fun after => MovesInOrder client ether.buffer after.1) ?_ ?_ ?_ ?_
  · intro _
    obtain ⟨inactivity, reset, started⟩ := client.startCall_eq clock
    have unmoved : Unmoved client { client.startCall clock with
        state := .disconnected, timedOut := false } := by
      rw [started]
      exact ⟨rfl, rfl, Or.inr rfl⟩
    exact unmoved.movesInOrder ether.buffer
  · intro _ flagged ours
    have tickedOpened : (client.ticked clock).counted.state ≠ .waitSynAck :=
      fun waiting => opened (state.symm.trans waiting)
    have inside := fits flagged (ours.of_toSocket (client.ticked_toSocket clock).symm)
    have moves : MovesInOrder (client.ticked clock).counted ether.buffer
        ((client.ticked clock).counted.foundSegment ether).1 :=
      foundSegment_movesInOrder tickedOpened quiet inside
    exact moves.of_same state number
  · intro _ _ _
    have unmoved : Unmoved (client.ticked clock) (client.ticked clock).counted :=
      ⟨rfl, quiet, Or.inl rfl⟩
    exact (unmoved.movesInOrder ether.buffer).of_same state number
  · intro _ nrcvd ndropped
    have stillQuiet : ({ client.ticked clock with
        nrcvd := nrcvd, ndropped := ndropped } : TCPClient).appliFlags.newData = false :=
      quiet
    have unmoved := unmoved_checkForRetransmit stillQuiet ether
    exact (unmoved.movesInOrder ether.buffer).of_same state number

/-! ### The call that opens the connection -/

theorem foundSegment_opens {client : TCPClient} {ether : EtherSia}
    (waiting : client.state = .waitSynAck)
    (connected : (client.foundSegment ether).1.state = .connected) :
    (client.foundSegment ether).1.remoteSeqNum = sequenceNum ether.buffer + 1 := by
  have state := (client.ackTest_keeps ether.buffer).2.1.trans waiting
  unfold foundSegment at connected ⊢
  split at connected
  · cases connected
  · rw [if_neg (by assumption)]
    split at connected
    · rw [show client.state = .connected from connected] at waiting
      cases waiting
    · rw [if_neg (by assumption)]
      dsimp only at connected ⊢
      rw [state] at connected ⊢
      dsimp only [waitSynAckSegment] at connected ⊢
      split at connected
      · rw [if_pos (by assumption)]
      · cases connected

/-- The SYN-ACK that opens the connection sets the expected number. -/
theorem poll_opens {client : TCPClient} {clock : HavePacketClock} {ether : EtherSia}
    (waiting : client.state = .waitSynAck)
    (connected : (client.poll clock ether).1.state = .connected) :
    (client.poll clock ether).1.remoteSeqNum = sequenceNum ether.buffer + 1 := by
  have ticked := (client.ticked_state clock).trans waiting
  refine poll_cases client clock ether (motive := fun after =>
    after.1.state = .connected → after.1.remoteSeqNum = sequenceNum ether.buffer + 1)
    ?_ ?_ ?_ ?_ connected
  · exact fun _ closed => nomatch closed
  · exact fun _ _ _ opens => foundSegment_opens ticked opens
  · exact fun _ _ _ opens => nomatch ticked.symm.trans opens
  · intro _ nrcvd ndropped opens
    rw [(checkForRetransmit_keeps _ ether).1] at opens
    cases ticked.symm.trans opens

/-! ### What a call sends -/

/-- A segment that is no reset acknowledges the number. -/
def FrameAcknowledges (number : UInt32) (octets : List UInt8) : Prop :=
  68 ≤ octets.length → hasFlag (flags (ofOctets octets)) TCP_FLAG_RST = false →
    acknowledgementNum (ofOctets octets) = number

/-- Every frame sent in between acknowledges the number. -/
def SendsAcknowledging (number : UInt32) (before after : EtherSia) : Prop :=
  ∃ frames, after.sent = before.sent ++ frames ∧
    ∀ octets ∈ frames, FrameAcknowledges number octets

theorem sendsAcknowledging_of_same {before after : EtherSia}
    (same : after.sent = before.sent) (number : UInt32) :
    SendsAcknowledging number before after :=
  ⟨[], by rw [same, List.append_nil], fun _ none => absurd none List.not_mem_nil⟩

theorem send_acknowledging {before ether : EtherSia} {number : UInt32}
    (same : ether.sent = before.sent)
    (acknowledges : hasFlag (flags ether.buffer) TCP_FLAG_RST = false →
      acknowledgementNum ether.buffer = number) :
    SendsAcknowledging number before ether.send := by
  refine ⟨[bytesAt ether.buffer 0 (length ether.buffer).toNat], ?_, ?_⟩
  · rw [← same]
    rfl
  · intro octets member long noRst
    rw [List.mem_singleton.mp member] at long noRst ⊢
    rw [bytesAt_length] at long
    have agree := ofOctets_bytesAt ether.buffer (length ether.buffer).toNat
    have sameFlags : flags (ofOctets (bytesAt ether.buffer 0
        (length ether.buffer).toNat)) = flags ether.buffer :=
      agree 67 (Nat.zero_le _) (by omega)
    rw [sameFlags] at noRst
    exact (agree.u32At_eq (Nat.zero_le _) (by omega)).trans (acknowledges noRst)

theorem tcpSendNoData_acknowledging (client : TCPClient) {before ether : EtherSia}
    (same : ether.sent = before.sent) :
    SendsAcknowledging client.remoteSeqNum before (client.tcpSendNoData ether) :=
  send_acknowledging same fun _ => (client.fillTCPHeader_hasHeader _).acknowledgementNum

theorem tcpSendNoDataReply_acknowledging (client : TCPClient) (flags : UInt8)
    (ether : EtherSia) : SendsAcknowledging client.remoteSeqNum ether
      (client.tcpSendNoDataReply flags ether) :=
  client.tcpSendNoData_acknowledging rfl

theorem tcpResend_acknowledging (client : TCPClient) (flags dataOffset : UInt8)
    (ether : EtherSia) : SendsAcknowledging client.remoteSeqNum ether
      (client.tcpResend flags dataOffset ether) :=
  client.tcpSendNoData_acknowledging rfl

theorem send_keeps (client : TCPClient) (length : UInt16) (isReply : Bool)
    (ether : EtherSia) :
    (client.send length isReply ether).1.state = client.state ∧
      (client.send length isReply ether).1.remoteSeqNum = client.remoteSeqNum := by
  unfold send sendInternal
  split
  · exact ⟨rfl, rfl⟩
  · exact ⟨rfl, rfl⟩

theorem send_client_acknowledging (client : TCPClient) (length : UInt16)
    (isReply : Bool) (ether : EtherSia) :
    SendsAcknowledging (client.send length isReply ether).1.remoteSeqNum ether
      (client.send length isReply ether).2 := by
  have prepared := client.toSocket.prepare_sent isReply ether
  unfold send sendInternal
  split
  · exact send_acknowledging prepared
      fun _ => (client.fillTCPHeader_hasHeader _).acknowledgementNum
  · exact send_acknowledging prepared
      fun _ => (client.fillTCPHeader_hasHeader _).acknowledgementNum

/-- A reset acknowledges the number it answers, not the one that is expected. -/
theorem resetReply_acknowledging (client : TCPClient) (number : UInt32)
    (ether : EtherSia) :
    SendsAcknowledging number ether (client.resetReply ether) := by
  unfold resetReply
  split
  · exact sendsAcknowledging_of_same rfl number
  · refine send_acknowledging rfl fun noRst => ?_
    have isRst : hasFlag (TCP_FLAG_RST ||| TCP_FLAG_ACK) TCP_FLAG_RST = true := by
      decide
    simp [EtherSia.modifyPacket, EtherSia.prepareReply, storeChecksum, checksumAddress,
      isRst] at noRst

theorem checkForRetransmit_acknowledging (client : TCPClient) (ether : EtherSia) :
    SendsAcknowledging (client.checkForRetransmit ether).1.remoteSeqNum ether
      (client.checkForRetransmit ether).2 := by
  rw [(client.checkForRetransmit_keeps ether).2.1]
  unfold checkForRetransmit
  split
  · dsimp only
    split
    · exact tcpResend_acknowledging _ _ _ ether
    · split
      · exact tcpResend_acknowledging _ _ _ ether
      · exact sendsAcknowledging_of_same rfl _
      · exact tcpResend_acknowledging _ _ _ ether
      · exact sendsAcknowledging_of_same rfl _
  · exact sendsAcknowledging_of_same rfl _

theorem waitSynAckSegment_acknowledging (client : TCPClient) (ether : EtherSia) :
    SendsAcknowledging (client.waitSynAckSegment ether).1.remoteSeqNum ether
      (client.waitSynAckSegment ether).2 := by
  unfold waitSynAckSegment
  split
  · exact tcpSendNoDataReply_acknowledging _ _ ether
  · exact resetReply_acknowledging _ _ ether

theorem connectedSegment_acknowledging (client : TCPClient) (ether : EtherSia) :
    SendsAcknowledging (client.connectedSegment ether).1.remoteSeqNum ether
      (client.connectedSegment ether).2 := by
  unfold connectedSegment
  split
  · split
    · exact checkForRetransmit_acknowledging _ ether
    · exact tcpSendNoDataReply_acknowledging _ _ ether
  · split
    · exact tcpSendNoDataReply_acknowledging _ _ ether
    · exact checkForRetransmit_acknowledging _ ether

theorem lastAckSegment_acknowledging (client : TCPClient) (ether : EtherSia) :
    SendsAcknowledging (client.lastAckSegment ether).1.remoteSeqNum ether
      (client.lastAckSegment ether).2 := by
  unfold lastAckSegment
  split
  · exact sendsAcknowledging_of_same rfl _
  · exact checkForRetransmit_acknowledging _ ether

theorem foundSegment_acknowledging (client : TCPClient) (ether : EtherSia) :
    SendsAcknowledging (client.foundSegment ether).1.remoteSeqNum ether
      (client.foundSegment ether).2 := by
  unfold foundSegment
  split
  · exact sendsAcknowledging_of_same rfl _
  · split
    · exact tcpSendNoDataReply_acknowledging _ _ ether
    · dsimp only
      split
      · exact waitSynAckSegment_acknowledging _ ether
      · exact connectedSegment_acknowledging _ ether
      · exact lastAckSegment_acknowledging _ ether
      · exact tcpSendNoDataReply_acknowledging _ _ ether

/-- Every segment a call sends acknowledges the number expected after it. -/
theorem poll_acknowledging (client : TCPClient) (clock : HavePacketClock)
    (ether : EtherSia) :
    SendsAcknowledging (client.poll clock ether).1.remoteSeqNum ether
      (client.poll clock ether).2 := by
  refine poll_cases client clock ether (motive := fun after =>
    SendsAcknowledging after.1.remoteSeqNum ether after.2) ?_ ?_ ?_ ?_
  · exact fun _ => sendsAcknowledging_of_same rfl _
  · exact fun _ _ _ => foundSegment_acknowledging _ ether
  · exact fun _ _ _ => resetReply_acknowledging _ _ ether
  · exact fun _ _ _ => checkForRetransmit_acknowledging _ ether

end TCPClient

/-! ### Runs -/

namespace Station

variable {ι : Type} [DecidableEq ι]

/-- What a step hands to the application of a client: the sequence number and the
length of the data of a segment on which `havePacket` returned true. -/
def deliveryIn (index : ι) (taken : Taken (Station ι) (StationEvent ι)) :
    Option (UInt32 × Nat) :=
  match taken.event with
  | .clientHavePacket other clock =>
      if other = index ∧
          ((taken.before.clients index).havePacket clock taken.before.ether).1 = true then
        some (TCPHeader.sequenceNum taken.before.ether.buffer,
          (TCPClient.payloadLength taken.before.ether.buffer).toNat)
      else none
  | _ => none

def deliveries (index : ι) (steps : List (Taken (Station ι) (StationEvent ι))) :
    List (UInt32 × Nat) :=
  steps.filterMap (deliveryIn index)

def totalLength (deliveries : List (UInt32 × Nat)) : Nat :=
  (deliveries.map Prod.snd).sum

/-- Each delivery starts where the one before it ended. -/
def Contiguous : UInt32 → List (UInt32 × Nat) → Prop
  | _, [] => True
  | number, (start, length) :: rest =>
      start = number ∧ Contiguous (number + UInt32.ofNat length) rest

def finAccepted (index : ι) (steps : List (Taken (Station ι) (StationEvent ι))) : Bool :=
  steps.any fun taken =>
    (taken.before.clients index).acceptsFin (taken.after.clients index)

/-- The client is not connected anew, and its segments have a sound data offset. -/
def InConnection (index : ι) (taken : Taken (Station ι) (StationEvent ι)) : Prop :=
  match taken.event with
  | .connect other _ _ => other ≠ index
  | .clientHavePacket other _ =>
      other = index → (taken.before.clients index).OffsetFits taken.before.ether
  | _ => True

/-- `havePacket` returns true only for the segment that is expected. -/
def DeliversExpected (index : ι) (taken : Taken (Station ι) (StationEvent ι)) : Prop :=
  ∀ clock, taken.event = .clientHavePacket index clock →
    ((taken.before.clients index).havePacket clock taken.before.ether).1 = true →
      TCPHeader.sequenceNum taken.before.ether.buffer =
        (taken.before.clients index).remoteSeqNum

/-- Every segment a call on the client sends, resets apart, acknowledges the number
the client expects. -/
def AcknowledgesExpected (index : ι) (taken : Taken (Station ι) (StationEvent ι)) :
    Prop :=
  ((∃ clock, taken.event = .clientHavePacket index clock) ∨
      ∃ length isReply, taken.event = .clientSend index length isReply) →
    TCPClient.SendsAcknowledging (taken.after.clients index).remoteSeqNum
      taken.before.ether taken.after.ether

/-- What a step does to the number the client expects. -/
structure MovesInOrder (index : ι) (taken : Taken (Station ι) (StationEvent ι)) :
    Prop where
  number : (taken.after.clients index).remoteSeqNum =
    (taken.before.clients index).remoteSeqNum +
      UInt32.ofNat (totalLength (deliveryIn index taken).toList) +
        if (taken.before.clients index).acceptsFin (taken.after.clients index) then 1
        else 0
  expected : ∀ delivery, deliveryIn index taken = some delivery →
    (taken.before.clients index).state = .connected ∧
      delivery.1 = (taken.before.clients index).remoteSeqNum
  opened : (taken.after.clients index).state ≠ .waitSynAck
  closed : (taken.after.clients index).state = .connected →
    (taken.before.clients index).state = .connected

/-- A step that is no call of `havePacket` on the client leaves the state of its
connection and the number it expects. -/
theorem movesInOrder_of_same {index : ι} {taken : Taken (Station ι) (StationEvent ι)}
    (noDelivery : deliveryIn index taken = none)
    (opened : (taken.before.clients index).state ≠ .waitSynAck)
    (state : (taken.after.clients index).state = (taken.before.clients index).state)
    (number : (taken.after.clients index).remoteSeqNum =
      (taken.before.clients index).remoteSeqNum) : MovesInOrder index taken where
  number := by
    have noFin : (taken.before.clients index).acceptsFin (taken.after.clients index) =
        false := by
      simp only [TCPClient.acceptsFin, state, decide_eq_false_iff_not]
      rintro ⟨connected, lastAck⟩
      rw [connected] at lastAck
      cases lastAck
    simp [noDelivery, noFin, number, totalLength]
  expected := by
    intro delivery delivered
    rw [noDelivery] at delivered
    cases delivered
  opened := by
    rw [state]
    exact opened
  closed := by
    rw [state]
    exact id

theorem poll_movesInOrder {index : ι} {before : Station ι} {clock : HavePacketClock}
    (opened : (before.clients index).state ≠ .waitSynAck)
    (fits : (before.clients index).OffsetFits before.ether) :
    MovesInOrder index ⟨before, .clientHavePacket index clock,
      before.update index ((before.clients index).poll clock before.ether)⟩ := by
  have moves := (before.clients index).poll_movesInOrder opened fits clock
  have newData : ((before.clients index).havePacket clock before.ether).1 =
      ((before.clients index).poll clock before.ether).1.appliFlags.newData := rfl
  constructor
  · dsimp only [deliveryIn]
    rw [update_clients_same, moves.number, newData, TCPClient.delivered]
    split_ifs <;> simp_all [totalLength]
  · intro delivery delivered
    dsimp only [deliveryIn] at delivered
    rw [newData] at delivered
    split at delivered
    · rename_i reports
      cases delivered
      exact moves.expected reports.2
    · cases delivered
  · rw [update_clients_same]
    exact (moves.closed opened).1
  · rw [update_clients_same]
    exact (moves.closed opened).2

/-- The step lemma: no event but a call of `havePacket` on the client concerns the
number it expects. -/
theorem step_movesInOrder {index : ι} {taken : Taken (Station ι) (StationEvent ι)}
    (stepped : step taken.before taken.event = some taken.after)
    (opened : (taken.before.clients index).state ≠ .waitSynAck)
    (inConnection : InConnection index taken) : MovesInOrder index taken := by
  obtain ⟨before, event, after⟩ := taken
  change before.step event = some after at stepped
  apply step_client_cases index stepped
  · intro unrelated same
    refine movesInOrder_of_same ?_ opened (congrArg TCPClient.state same)
      (congrArg TCPClient.remoteSeqNum same)
    cases event with
    | clientHavePacket other clock => exact if_neg fun called => unrelated called.1
    | _ => rfl
  · rintro socket rfl rfl
    refine movesInOrder_of_same rfl opened ?_ ?_
    · dsimp only
      rw [update_clients_same]
    · dsimp only
      rw [update_clients_same]
  · rintro randomNumber now rfl _
    exact absurd rfl inConnection
  · rintro clock rfl rfl
    exact poll_movesInOrder opened (inConnection rfl)
  · rintro length isReply rfl rfl
    obtain ⟨state, number⟩ :=
      (before.clients index).send_keeps length isReply before.ether
    refine movesInOrder_of_same rfl opened ?_ ?_
    · dsimp only
      rw [update_clients_same, state]
    · dsimp only
      rw [update_clients_same, number]

theorem deliveries_cons (index : ι) (taken : Taken (Station ι) (StationEvent ι))
    (rest : List (Taken (Station ι) (StationEvent ι))) :
    deliveries index (taken :: rest) =
      (deliveryIn index taken).toList ++ deliveries index rest := by
  unfold deliveries
  cases delivered : deliveryIn index taken with
  | none => simp [delivered]
  | some delivery => simp [delivered]

theorem totalLength_append (first rest : List (UInt32 × Nat)) :
    totalLength (first ++ rest) = totalLength first + totalLength rest := by
  simp [totalLength]

theorem contiguous_append {number : UInt32} {head : Option (UInt32 × Nat)}
    {rest : List (UInt32 × Nat)}
    (starts : ∀ delivery, head = some delivery → delivery.1 = number)
    (contiguous : Contiguous (number + UInt32.ofNat (totalLength head.toList)) rest) :
    Contiguous number (head.toList ++ rest) := by
  cases head with
  | none => simpa [totalLength] using contiguous
  | some delivery =>
      refine ⟨starts delivery rfl, ?_⟩
      simpa [totalLength] using contiguous

/-- Once the connection has left `CONNECTED` nothing more is delivered. -/
theorem run_closed {index : ι} {start : Station ι} {events : List (StationEvent ι)}
    (opened : (start.clients index).state ≠ .waitSynAck)
    (closed : (start.clients index).state ≠ .connected)
    (inConnection : Always step start events (InConnection index)) :
    deliveries index (trace step start events) = [] ∧
      finAccepted index (trace step start events) = false := by
  induction events generalizing start with
  | nil => exact ⟨rfl, rfl⟩
  | cons event rest ih =>
      cases stepped : step start event with
      | none => simp [trace, stepped, deliveries, finAccepted]
      | some next =>
          obtain ⟨head, tail⟩ := (always_cons_of_step stepped rest _).mp inConnection
          have moves := step_movesInOrder stepped opened head
          have noDelivery : deliveryIn index ⟨start, event, next⟩ = none := by
            by_contra delivered
            obtain ⟨delivery, reports⟩ := Option.ne_none_iff_exists'.mp delivered
            exact closed (moves.expected delivery reports).1
          have noFin : (start.clients index).acceptsFin (next.clients index) = false := by
            simp [TCPClient.acceptsFin, closed]
          obtain ⟨noneLater, noFinLater⟩ :=
            ih moves.opened (fun connected => closed (moves.closed connected)) tail
          rw [trace_cons_of_step stepped, deliveries_cons, noDelivery, noneLater]
          refine ⟨rfl, ?_⟩
          unfold finAccepted at noFinLater ⊢
          rw [List.any_cons, noFin, noFinLater]
          rfl

/-- The run lemma: the deliveries are contiguous, and the expected number counts
them and the FIN. -/
theorem run_movesInOrder {index : ι} {start : Station ι} {events : List (StationEvent ι)}
    (opened : (start.clients index).state ≠ .waitSynAck)
    (inConnection : Always step start events (InConnection index)) :
    Contiguous (start.clients index).remoteSeqNum
        (deliveries index (trace step start events)) ∧
      ∀ last, run step start events = some last →
        (last.clients index).remoteSeqNum = (start.clients index).remoteSeqNum +
          UInt32.ofNat (totalLength (deliveries index (trace step start events))) +
            if finAccepted index (trace step start events) then 1 else 0 := by
  induction events generalizing start with
  | nil =>
      refine ⟨trivial, ?_⟩
      rintro last ⟨⟩
      simp [trace, deliveries, totalLength, finAccepted]
  | cons event rest ih =>
      cases stepped : step start event with
      | none => simp [trace, run, stepped, deliveries, Contiguous]
      | some next =>
          obtain ⟨head, tail⟩ := (always_cons_of_step stepped rest _).mp inConnection
          have moves := step_movesInOrder stepped opened head
          obtain ⟨contiguous, counts⟩ := ih moves.opened tail
          have number := moves.number
          dsimp only at number
          rw [trace_cons_of_step stepped, deliveries_cons, run_cons_of_step stepped,
            totalLength_append]
          have starts : ∀ delivery, deliveryIn index ⟨start, event, next⟩ = some delivery →
              delivery.1 = (start.clients index).remoteSeqNum :=
            fun delivery delivered => (moves.expected delivery delivered).2
          unfold finAccepted at counts ⊢
          rw [List.any_cons]
          cases fin : (start.clients index).acceptsFin (next.clients index) with
          | true =>
              -- the connection is closed: the rest delivers nothing
              have lastAck : (next.clients index).state = .lastAck :=
                (of_decide_eq_true fin).2
              obtain ⟨noneLater, noFinLater⟩ := run_closed moves.opened
                (fun connected => absurd (lastAck.symm.trans connected) (by decide)) tail
              unfold finAccepted at noFinLater
              rw [noneLater, noFinLater] at counts
              rw [noneLater]
              refine ⟨contiguous_append starts trivial, fun last returns => ?_⟩
              rw [counts last returns, number, fin]
              simp [totalLength]
          | false =>
              rw [fin] at number
              simp only [Bool.false_eq_true, if_false, UInt32.add_zero] at number
              rw [number] at contiguous counts
              refine ⟨contiguous_append starts contiguous, fun last returns => ?_⟩
              rw [counts last returns, UInt32.ofNat_add, Bool.false_or]
              simp only [UInt32.add_assoc]

theorem run_deliversExpected {index : ι} {start : Station ι}
    {events : List (StationEvent ι)} (opened : (start.clients index).state ≠ .waitSynAck)
    (inConnection : Always step start events (InConnection index)) :
    Always step start events (DeliversExpected index) := by
  refine always_of_invariant (fun station => (station.clients index).state ≠ .waitSynAck)
    ?_ ?_ opened inConnection
  · intro taken stepped opened inConnection
    exact (step_movesInOrder stepped opened inConnection).opened
  · rintro ⟨before, event, after⟩ stepped opened inConnection clock rfl reports
    have moves := step_movesInOrder stepped opened inConnection
    exact (moves.expected _ (if_pos ⟨rfl, reports⟩)).2

/-- This holds in every state, whatever has happened to the connection. -/
theorem run_acknowledgesExpected (index : ι) (start : Station ι)
    (events : List (StationEvent ι)) :
    Always step start events (AcknowledgesExpected index) := by
  apply always_of_step
  rintro ⟨before, event, after⟩ stepped (⟨clock, rfl⟩ | ⟨length, isReply, rfl⟩)
  · change before.step (.clientHavePacket index clock) = some after at stepped
    obtain rfl := step_havePacket stepped
    dsimp only
    rw [update_clients_same]
    exact (before.clients index).poll_acknowledging clock before.ether
  · change before.step (.clientSend index length isReply) = some after at stepped
    obtain rfl := Option.some.inj stepped
    dsimp only
    rw [update_clients_same]
    exact (before.clients index).send_client_acknowledging length isReply before.ether

end Station

open Station

variable {ι : Type} [DecidableEq ι]

/-- In-order delivery, exactly once.  From the SYN-ACK that opened the connection on,
whatever segments arrive: the number the client expects counts the bytes delivered
and the FIN, each delivery starts where the one before it ended, and every segment
sent acknowledges the number. -/
theorem run_delivers_in_order {index : ι} {start connected : Station ι}
    {clock : HavePacketClock} {events : List (StationEvent ι)}
    (waiting : (start.clients index).state = .waitSynAck)
    (stepped : start.step (.clientHavePacket index clock) = some connected)
    (opened : (connected.clients index).state = .connected)
    (inConnection : Always Station.step connected events (InConnection index)) :
    (∀ last, run Station.step connected events = some last →
      (last.clients index).remoteSeqNum = TCPHeader.sequenceNum start.ether.buffer + 1 +
        UInt32.ofNat
          (totalLength (deliveries index (trace Station.step connected events))) +
          if finAccepted index (trace Station.step connected events) then 1 else 0) ∧
      Contiguous (TCPHeader.sequenceNum start.ether.buffer + 1)
        (deliveries index (trace Station.step connected events)) ∧
      Always Station.step connected events (DeliversExpected index) ∧
      Always Station.step start (.clientHavePacket index clock :: events)
        (AcknowledgesExpected index) := by
  have notWaiting : (connected.clients index).state ≠ .waitSynAck := by
    rw [opened]
    decide
  have initial : (connected.clients index).remoteSeqNum =
      TCPHeader.sequenceNum start.ether.buffer + 1 := by
    obtain rfl := step_havePacket stepped
    rw [update_clients_same] at opened ⊢
    exact TCPClient.poll_opens waiting opened
  obtain ⟨contiguous, counts⟩ := run_movesInOrder notWaiting inConnection
  rw [initial] at contiguous counts
  exact ⟨counts, contiguous, run_deliversExpected notWaiting inConnection,
    run_acknowledgesExpected index start _⟩

/-- Two bytes of data and a FIN for port 20001. -/
def lastData : Frame :=
  exampleFrame 22 IP6_PROTO_TCP
    [0, 80, 0x4e, 0x21, 0, 0, 0x13, 0x89, 0, 0, 3, 0xe9, 0x50, 0x19, 1, 0xea, 0xe4, 0x8e,
      0, 0, 0x68, 0x69] (by decide)

/-- Opened with sequence number 5000, the first client delivers two bytes and
accepts the FIN. -/
theorem run_delivers_in_order_last :
    ∃ start connected, run Station.step twoClients
        [.connect false 1000 0, .receivePacket synAckFirst] = some start ∧
      start.step (.clientHavePacket false (clockAt 1)) = some connected ∧
        ∀ last, run Station.step connected
            [.receivePacket lastData, .clientHavePacket false (clockAt 2)] = some last →
          (last.clients false).remoteSeqNum = 5000 + 1 + 2 + 1 := by
  have opens : (run Station.step twoClients
      [.connect false 1000 0, .receivePacket synAckFirst]).map (fun start =>
        let connected := start.update false
          ((start.clients false).poll (clockAt 1) start.ether)
        let segments := [.receivePacket lastData, .clientHavePacket false (clockAt 2)]
        let steps := trace Station.step connected segments
        ((start.clients false).state, TCPHeader.sequenceNum start.ether.buffer,
          (connected.clients false).state, totalLength (deliveries false steps),
          finAccepted false steps,
          decide (∀ received ∈ connected.ether.receivePacket lastData,
            TCPClient.OffsetInside received.2.buffer))) =
      some (.waitSynAck, 5000, .connected, 2, true, true) := by
    decide +kernel
  obtain ⟨start, reached, facts⟩ := Option.map_eq_some_iff.mp opens
  simp only [Prod.mk.injEq, decide_eq_true_eq] at facts
  obtain ⟨waiting, irs, opened, total, fin, inside⟩ := facts
  have answered : start.step (.clientHavePacket false (clockAt 1)) = some
      (start.update false ((start.clients false).poll (clockAt 1) start.ether)) := rfl
  generalize start.update false ((start.clients false).poll (clockAt 1) start.ether) =
    connected at *
  refine ⟨start, connected, reached, answered, fun last returns => ?_⟩
  have inConnection : Always Station.step connected
      [.receivePacket lastData, .clientHavePacket false (clockAt 2)]
      (InConnection false) := by
    cases received : connected.ether.receivePacket lastData with
    | none => simp [Always, trace, Station.step, received]
    | some delivered =>
        have stepped : connected.step (.receivePacket lastData) =
            some { connected with ether := delivered.2 } := by
          simp [Station.step, received]
        refine (always_cons_of_step stepped _ _).mpr ⟨trivial, ?_⟩
        exact always_singleton fun _ _ _ _ _ => inside delivered received
  have counts := (run_delivers_in_order waiting answered opened inConnection).1 last returns
  rw [irs, total, fin] at counts
  exact counts

end EtherSiaStack
