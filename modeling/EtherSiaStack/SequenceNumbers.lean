/-
Sequence numbers of the segments a client sends.

`_localSeqNum` moves when everything outstanding is acknowledged, and every header
is filled in from it.  The number a new segment should have is that of the byte
behind the last one sent, which is `_localSeqNum` only while nothing is outstanding.
-/

import EtherSiaStack.ClientDelivery

namespace EtherSiaStack

open ByteMemory IPv6Packet Trace

namespace TCPClient

open TCPHeader

/-- A segment that is no reset has the sequence number. -/
def FrameNumbered (number : UInt32) (octets : List UInt8) : Prop :=
  68 ≤ octets.length → hasFlag (flags (ofOctets octets)) TCP_FLAG_RST = false →
    sequenceNum (ofOctets octets) = number

/-- Every frame sent in between has the sequence number. -/
def SendsNumbered (number : UInt32) (before after : EtherSia) : Prop :=
  ∃ frames, after.sent = before.sent ++ frames ∧
    ∀ octets ∈ frames, FrameNumbered number octets

/-- The number of the byte behind all that was sent. -/
def nextNumber (client : TCPClient) : UInt32 :=
  client.localSeqNum + client.unAckLen.toUInt32

/-- A segment with data or a FIN comes while nothing is outstanding, or it has the
expected number and either closes the connection or acknowledges what is outstanding. -/
def AnsweredUpToDate (client : TCPClient) (packet : Memory) : Prop :=
  hasFlag (flags packet) TCP_FLAG_RST = false →
    payloadLength packet > 0 ∨ hasFlag (flags packet) TCP_FLAG_FIN = true →
      client.unAckLen = 0 ∨
        sequenceNum packet = client.remoteSeqNum ∧
          (hasFlag (flags packet) TCP_FLAG_FIN = true ∨ client.Acknowledges packet)

instance (client : TCPClient) (packet : Memory) :
    Decidable (client.AnsweredUpToDate packet) :=
  inferInstanceAs (Decidable (_ → _ → _))

/-! ### The numbers of the frames sent -/

theorem sendsNumbered_of_same {before after : EtherSia} (same : after.sent = before.sent)
    (number : UInt32) : SendsNumbered number before after :=
  ⟨[], by rw [same, List.append_nil], fun _ none => absurd none List.not_mem_nil⟩

theorem send_numbered {before ether : EtherSia} {number : UInt32}
    (same : ether.sent = before.sent)
    (numbered : hasFlag (flags ether.buffer) TCP_FLAG_RST = false →
      sequenceNum ether.buffer = number) :
    SendsNumbered number before ether.send := by
  refine ⟨[bytesAt ether.buffer 0 (length ether.buffer).toNat], ?_, ?_⟩
  · rw [← same]
    rfl
  · intro octets member long noRst
    rw [List.mem_singleton.mp member] at long noRst ⊢
    rw [bytesAt_length] at long
    have agree := ofOctets_bytesAt ether.buffer (length ether.buffer).toNat
    have sameFlags : flags (ofOctets (bytesAt ether.buffer 0
        (length ether.buffer).toNat)) = flags ether.buffer :=
      agree 67 (Nat.zero_le _) (by omega)
    rw [sameFlags] at noRst
    exact (agree.u32At_eq (Nat.zero_le _) (by omega)).trans (numbered noRst)

theorem tcpSendNoData_numbered (client : TCPClient) {before ether : EtherSia}
    (same : ether.sent = before.sent) :
    SendsNumbered client.localSeqNum before (client.tcpSendNoData ether) :=
  send_numbered same fun _ => (client.fillTCPHeader_hasHeader _).sequenceNum

theorem tcpSendNoDataReply_numbered (client : TCPClient) (flags : UInt8)
    (ether : EtherSia) :
    SendsNumbered client.localSeqNum ether (client.tcpSendNoDataReply flags ether) :=
  client.tcpSendNoData_numbered rfl

theorem tcpSendAck_numbered {client : TCPClient} {number : UInt32}
    (same : client.localSeqNum = number) (ether : EtherSia) :
    SendsNumbered number ether (client.tcpSendAck ether) :=
  same ▸ client.tcpSendNoDataReply_numbered TCP_FLAG_ACK ether

theorem tcpSendFinAck_numbered {client : TCPClient} {number : UInt32}
    (same : client.localSeqNum = number) (ether : EtherSia) :
    SendsNumbered number ether (client.tcpSendFinAck ether) :=
  same ▸ client.tcpSendNoDataReply_numbered (TCP_FLAG_FIN ||| TCP_FLAG_ACK) ether

/-- A reset may have any number. -/
theorem tcpResend_reset_numbered (client : TCPClient) (number : UInt32)
    (ether : EtherSia) :
    SendsNumbered number ether
      (client.tcpResend (TCP_FLAG_RST ||| TCP_FLAG_ACK) 0x50 ether) := by
  let flagged := ether.modifyPacket fun packet =>
    setDataOffset (setFlags packet (TCP_FLAG_RST ||| TCP_FLAG_ACK)) 0x50
  let addressed := setEtherDestination
    (setDestination flagged.prepareSend.buffer client.remoteAddress) client.remoteMac
  have kept : Agree addressed flagged.buffer 67 68 := by
    apply (agree_store _ _ (by simp)).trans
    apply (agree_store _ _ (by simp)).trans
    exact (prepareSend_payload flagged 68).mono (by decide) (Nat.le_refl _)
  have isReset : flags (client.fillTCPHeader
      (setPayloadLength addressed (receiveHeaderLen addressed))) =
      TCP_FLAG_RST ||| TCP_FLAG_ACK := by
    rw [(client.fillTCPHeader_hasHeader _).flags]
    have sameFlags : flags (setPayloadLength addressed (receiveHeaderLen addressed)) =
        flags addressed := by simp
    have isFlags : flags (setDataOffset (setFlags ether.buffer
        (TCP_FLAG_RST ||| TCP_FLAG_ACK)) 0x50) = TCP_FLAG_RST ||| TCP_FLAG_ACK := by simp
    exact sameFlags.trans ((kept 67 (Nat.le_refl _) (by decide)).trans isFlags)
  refine send_numbered rfl fun noRst => ?_
  exact absurd (isReset ▸ noRst) (by decide)

theorem resetReply_numbered (client : TCPClient) (number : UInt32) (ether : EtherSia) :
    SendsNumbered number ether (client.resetReply ether) := by
  unfold resetReply
  split
  · exact sendsNumbered_of_same rfl number
  · refine send_numbered rfl fun noRst => ?_
    have isRst : hasFlag (TCP_FLAG_RST ||| TCP_FLAG_ACK) TCP_FLAG_RST = true := by
      decide
    simp [EtherSia.modifyPacket, EtherSia.prepareReply, storeChecksum, checksumAddress,
      isRst] at noRst

/-- The retransmission check of a connected client sends nothing but a reset. -/
theorem checkForRetransmit_numbered {client : TCPClient}
    (connected : client.state = .connected) (number : UInt32) (ether : EtherSia) :
    SendsNumbered number ether (client.checkForRetransmit ether).2 := by
  unfold checkForRetransmit
  split
  · dsimp only
    split
    · exact tcpResend_reset_numbered _ number ether
    · rw [connected]
      exact sendsNumbered_of_same rfl number
  · exact sendsNumbered_of_same rfl number

theorem send_client_numbered (client : TCPClient) (length : UInt16) (isReply : Bool)
    (ether : EtherSia) :
    SendsNumbered client.localSeqNum ether (client.send length isReply ether).2 := by
  have prepared := client.toSocket.prepare_sent isReply ether
  unfold send sendInternal
  split
  · exact send_numbered prepared
      fun _ => (client.fillTCPHeader_hasHeader _).sequenceNum
  · exact send_numbered prepared
      fun _ => (client.fillTCPHeader_hasHeader _).sequenceNum

theorem send_sequenceNum (client : TCPClient) (length : UInt16) (isReply : Bool)
    (ether : EtherSia) :
    sequenceNum (client.send length isReply ether).2.buffer = client.localSeqNum := by
  unfold send sendInternal
  split
  · exact (client.fillTCPHeader_hasHeader _).sequenceNum
  · exact (client.fillTCPHeader_hasHeader _).sequenceNum

/-! ### What one call does to the next number -/

theorem nextNumber_of_none {client : TCPClient} (none : client.unAckLen = 0) :
    client.nextNumber = client.localSeqNum := by
  unfold nextNumber
  rw [none]
  exact UInt32.add_zero _

theorem send_nextNumber {client : TCPClient} (new : client.appliFlags.rexmit = false)
    (nothing : client.unAckLen = 0) (length : UInt16) (isReply : Bool)
    (ether : EtherSia) :
    (client.send length isReply ether).1.nextNumber =
      client.localSeqNum + length.toUInt32 := by
  unfold send sendInternal
  rw [new]
  change client.localSeqNum + (client.unAckLen + length).toUInt32 = _
  rw [nothing, UInt16.zero_add]

theorem connect_nextNumber (client : TCPClient) (randomNumber now : UInt32)
    (ether : EtherSia) :
    (client.connect randomNumber now ether).1.nextNumber = randomNumber + 1 := by
  unfold connect send sendInternal
  dsimp only
  split
  · rfl
  · rfl

/-- Data acknowledged is data sent: the test leaves the next number as it is. -/
theorem ackTest_nextNumber (client : TCPClient) (packet : Memory) :
    (client.ackTest packet).nextNumber = client.nextNumber := by
  by_cases acknowledges : client.Acknowledges packet
  · obtain ⟨_, _, _, _, acked⟩ := ackTest_of_acknowledges acknowledges
    rw [acked]
    exact UInt32.add_zero _
  · rw [ackTest_of_not_acknowledges acknowledges]

theorem checkForRetransmit_numbers (client : TCPClient) (ether : EtherSia) :
    (client.checkForRetransmit ether).1.localSeqNum = client.localSeqNum ∧
      (client.checkForRetransmit ether).1.unAckLen = client.unAckLen := by
  unfold checkForRetransmit
  split
  · dsimp only
    split
    · exact ⟨rfl, rfl⟩
    · split
      · exact ⟨rfl, rfl⟩
      · exact ⟨rfl, rfl⟩
      · exact ⟨rfl, rfl⟩
      · exact ⟨rfl, rfl⟩
  · exact ⟨rfl, rfl⟩

/-- A connection that is over: closing or closed. -/
def Over (client : TCPClient) : Prop :=
  client.state = .lastAck ∨ client.state = .disconnected

theorem Over.not_waiting {client : TCPClient} (isOver : client.Over) :
    client.state ≠ .waitSynAck := by
  intro waiting
  rcases isOver with lastAck | disconnected
  · cases lastAck.symm.trans waiting
  · cases disconnected.symm.trans waiting

theorem Over.not_connected {client : TCPClient} (isOver : client.Over) :
    client.state ≠ .connected := by
  intro connected
  rcases isOver with lastAck | disconnected
  · cases lastAck.symm.trans connected
  · cases disconnected.symm.trans connected

/-- What a call on a connected client sends has the next number, and the call leaves
that number as it is. -/
structure SendsNext (number : UInt32) (before : EtherSia) (after : TCPClient × EtherSia) :
    Prop where
  numbered : SendsNumbered number before after.2
  next : after.1.state = .connected → after.1.nextNumber = number
  opened : after.1.state ≠ .waitSynAck

theorem sendsNext_of_over {number : UInt32} {before ether : EtherSia}
    {after : TCPClient} (numbered : SendsNumbered number before ether)
    (isOver : after.Over) : SendsNext number before (after, ether) where
  numbered := numbered
  next := fun connected => absurd connected isOver.not_connected
  opened := isOver.not_waiting

theorem checkForRetransmit_sendsNext (client : TCPClient)
    (connected : client.state = .connected) (ether : EtherSia) :
    SendsNext client.nextNumber ether (client.checkForRetransmit ether) where
  numbered := checkForRetransmit_numbered connected _ ether
  next := fun _ => by
    obtain ⟨local_, unAcked⟩ := client.checkForRetransmit_numbers ether
    unfold nextNumber
    rw [local_, unAcked]
  opened := by
    rw [(client.checkForRetransmit_keeps ether).1, connected]
    decide

theorem connectedSegment_sendsNext (client : TCPClient) {ether : EtherSia}
    (connected : client.state = .connected)
    (none : hasFlag (flags ether.buffer) TCP_FLAG_FIN = false →
      payloadLength ether.buffer > 0 → client.unAckLen = 0) :
    SendsNext client.nextNumber ether (client.connectedSegment ether) := by
  unfold connectedSegment
  by_cases fin : hasFlag (flags ether.buffer) TCP_FLAG_FIN = true
  · rw [if_pos fin]
    by_cases outstanding : client.unAckLen > 0
    · rw [if_pos outstanding]
      exact client.checkForRetransmit_sendsNext connected ether
    · rw [if_neg outstanding]
      have nothing : client.unAckLen = 0 := eq_zero_of_not_pos outstanding
      rw [nextNumber_of_none nothing]
      exact sendsNext_of_over (tcpSendFinAck_numbered (by rfl) ether) (Or.inl rfl)
  · rw [if_neg fin]
    by_cases data : payloadLength ether.buffer > 0
    · rw [if_pos data]
      have nothing := none (by simpa using fin) data
      rw [nextNumber_of_none nothing]
      dsimp only
      constructor
      · exact tcpSendAck_numbered (by rfl) ether
      · intro _
        exact nextNumber_of_none nothing
      · dsimp only
        rw [connected]
        decide
    · rw [if_neg data]
      exact client.checkForRetransmit_sendsNext connected ether

theorem foundSegment_sendsNext (client : TCPClient) {ether : EtherSia}
    (connected : client.state = .connected)
    (upToDate : client.AnsweredUpToDate ether.buffer) :
    SendsNext client.nextNumber ether (client.foundSegment ether) := by
  have sameState := (client.ackTest_keeps ether.buffer).2.1.trans connected
  unfold foundSegment
  by_cases rst : hasFlag (flags ether.buffer) TCP_FLAG_RST = true
  · rw [if_pos rst]
    exact sendsNext_of_over (sendsNumbered_of_same rfl _) (Or.inr rfl)
  · rw [if_neg rst]
    have noRst : hasFlag (flags ether.buffer) TCP_FLAG_RST = false := by simpa using rst
    by_cases unexpected : client.testsSequence ether.buffer = true ∧
        sequenceNum ether.buffer ≠ client.remoteSeqNum
    · rw [if_pos unexpected]
      have carries : payloadLength ether.buffer > 0 ∨
          hasFlag (flags ether.buffer) TCP_FLAG_FIN = true := by
        simpa [testsSequence, connected] using unexpected.1
      have nothing : client.unAckLen = 0 :=
        (upToDate noRst carries).resolve_right fun answered => unexpected.2 answered.1
      rw [nextNumber_of_none nothing]
      constructor
      · exact tcpSendAck_numbered (by rfl) ether
      · intro _
        exact nextNumber_of_none nothing
      · rw [connected]
        decide
    · rw [if_neg unexpected]
      dsimp only
      rw [sameState, ← client.ackTest_nextNumber ether.buffer]
      apply connectedSegment_sendsNext _ sameState
      intro noFin data
      rcases upToDate noRst (Or.inl data) with nothing | ⟨_, fin | acknowledges⟩
      · have kept : ¬ client.Acknowledges ether.buffer := by
          intro acknowledges
          have outstanding := acknowledges.outstanding
          rw [nothing] at outstanding
          exact absurd outstanding (by decide)
        rw [ackTest_of_not_acknowledges kept]
        exact nothing
      · rw [noFin] at fin
        cases fin
      · obtain ⟨_, _, _, _, acked⟩ := ackTest_of_acknowledges acknowledges
        rw [acked]

/-- What is demanded of the segments a connected client receives. -/
def AnswersUpToDate (client : TCPClient) (ether : EtherSia) : Prop :=
  ether.bufferContainsReceived = true → client.OfConnection ether →
    client.AnsweredUpToDate ether.buffer

instance (client : TCPClient) (ether : EtherSia) :
    Decidable (client.AnswersUpToDate ether) :=
  inferInstanceAs (Decidable (_ → _ → _))

theorem ticked_nextNumber (client : TCPClient) (clock : HavePacketClock) :
    (client.ticked clock).nextNumber = client.nextNumber := by
  unfold nextNumber
  rw [ticked_localSeqNum, ticked_unAckLen]

theorem AnsweredUpToDate.of_same {client other : TCPClient} {packet : Memory}
    (upToDate : client.AnsweredUpToDate packet)
    (local_ : other.localSeqNum = client.localSeqNum)
    (unAcked : other.unAckLen = client.unAckLen)
    (remote : other.remoteSeqNum = client.remoteSeqNum) :
    other.AnsweredUpToDate packet := by
  intro noRst carries
  rw [unAcked, remote]
  refine (upToDate noRst carries).imp_right (And.imp_right (Or.imp_right ?_))
  rintro ⟨isAck, outstanding, number⟩
  exact ⟨isAck, unAcked ▸ outstanding, by rw [local_, unAcked]; exact number⟩

theorem poll_sendsNext {client : TCPClient} {ether : EtherSia}
    (connected : client.state = .connected) (upToDate : client.AnswersUpToDate ether)
    (clock : HavePacketClock) :
    SendsNext client.nextNumber ether (client.poll clock ether) := by
  have tickedConnected := (client.ticked_state clock).trans connected
  rw [← client.ticked_nextNumber clock]
  apply poll_cases
  case idle =>
    intro _
    exact sendsNext_of_over (sendsNumbered_of_same rfl _) (Or.inr rfl)
  case found =>
    intro _ flagged ours
    have answered := (upToDate flagged
      (ours.of_toSocket (client.ticked_toSocket clock).symm)).of_same
        (client.ticked_localSeqNum clock) (client.ticked_unAckLen clock)
        (client.ticked_remoteSeqNum clock)
    exact (client.ticked clock).counted.foundSegment_sendsNext tickedConnected
      (answered.of_same rfl rfl rfl)
  case old =>
    intro _ _ _
    refine ⟨resetReply_numbered _ _ ether, fun _ => rfl, fun waiting => ?_⟩
    cases tickedConnected.symm.trans waiting
  case checks =>
    intro _ nrcvd ndropped
    let checked : TCPClient :=
      { client.ticked clock with nrcvd := nrcvd, ndropped := ndropped }
    exact checked.checkForRetransmit_sendsNext tickedConnected ether

/-! ### Before and after the connection -/

/-- What a call on a client that waits for its SYN-ACK leaves. -/
structure Connects (client : TCPClient) (before : EtherSia) (after : TCPClient × EtherSia) :
    Prop where
  numbered : after.1.state = .connected →
    SendsNumbered client.nextNumber before after.2
  next : after.1.state = .connected → after.1.nextNumber = client.nextNumber
  waits : after.1.state = .waitSynAck →
    after.1.localSeqNum = client.localSeqNum ∧ after.1.unAckLen = client.unAckLen

theorem connects_of_waiting {client after : TCPClient} {before ether : EtherSia}
    (waiting : after.state ≠ .connected) (local_ : after.localSeqNum = client.localSeqNum)
    (unAcked : after.unAckLen = client.unAckLen) :
    Connects client before (after, ether) where
  numbered := fun connected => absurd connected waiting
  next := fun connected => absurd connected waiting
  waits := fun _ => ⟨local_, unAcked⟩

theorem connects_of_closed {client after : TCPClient} {before ether : EtherSia}
    (closed : after.state = .disconnected) : Connects client before (after, ether) where
  numbered := fun connected => by cases closed.symm.trans connected
  next := fun connected => by cases closed.symm.trans connected
  waits := fun waiting => by cases closed.symm.trans waiting

theorem checkForRetransmit_connects (client : TCPClient)
    (waiting : client.state = .waitSynAck) (ether : EtherSia) :
    Connects client ether (client.checkForRetransmit ether) := by
  obtain ⟨local_, unAcked⟩ := client.checkForRetransmit_numbers ether
  have state := (client.checkForRetransmit_keeps ether).1.trans waiting
  apply connects_of_waiting _ local_ unAcked
  rw [state]
  decide

/-- The SYN-ACK acknowledges all that was sent; a segment that does not ends the
attempt. -/
theorem foundSegment_connects (client : TCPClient) (waiting : client.state = .waitSynAck)
    (fresh : client.appliFlags.ackData = false) (ether : EtherSia) :
    Connects client ether (client.foundSegment ether) := by
  have sameState := (client.ackTest_keeps ether.buffer).2.1.trans waiting
  unfold foundSegment
  split
  · exact connects_of_closed rfl
  · split
    · exact connects_of_waiting (by rw [waiting]; decide) rfl rfl
    · dsimp only
      rw [sameState]
      dsimp only [waitSynAckSegment]
      by_cases acknowledges : client.Acknowledges ether.buffer
      · obtain ⟨_, _, _, _, acked⟩ := ackTest_of_acknowledges acknowledges
        rw [acked]
        split
        · constructor
          · intro _
            exact tcpSendAck_numbered (by rfl) ether
          · intro _
            exact UInt32.add_zero _
          · intro stillWaiting
            cases stillWaiting
        · exact connects_of_closed rfl
      · rw [ackTest_of_not_acknowledges acknowledges]
        have refused : ¬ (client.appliFlags.ackData = true ∧
            hasFlag (flags ether.buffer) (TCP_FLAG_SYN ||| TCP_FLAG_ACK) = true) := by
          rw [fresh]
          exact fun both => Bool.false_ne_true both.1
        rw [if_neg refused]
        exact connects_of_closed rfl

theorem poll_connects {client : TCPClient} (waiting : client.state = .waitSynAck)
    (clock : HavePacketClock) (ether : EtherSia) :
    Connects client ether (client.poll clock ether) := by
  have tickedWaiting := (client.ticked_state clock).trans waiting
  have of_ticked {after : TCPClient × EtherSia}
      (connects : Connects (client.ticked clock) ether after) :
      Connects client ether after := by
    obtain ⟨numbered, next, waits⟩ := connects
    rw [ticked_nextNumber] at numbered next
    rw [ticked_localSeqNum, ticked_unAckLen] at waits
    exact ⟨numbered, next, waits⟩
  apply of_ticked
  apply poll_cases
  case idle =>
    intro _
    exact connects_of_closed rfl
  case found =>
    intro _ _ _
    obtain ⟨reset, cleared⟩ := client.ticked_appliFlags clock
    have fresh : (client.ticked clock).counted.appliFlags.ackData = false :=
      congrArg AppliFlags.ackData cleared
    have connects :=
      (client.ticked clock).counted.foundSegment_connects tickedWaiting fresh ether
    exact ⟨connects.numbered, connects.next, connects.waits⟩
  case old =>
    intro _ _ _
    refine ⟨fun connected => ?_, fun connected => ?_, fun _ => ⟨rfl, rfl⟩⟩
    · cases tickedWaiting.symm.trans connected
    · cases tickedWaiting.symm.trans connected
  case checks =>
    intro _ nrcvd ndropped
    let checked : TCPClient :=
      { client.ticked clock with nrcvd := nrcvd, ndropped := ndropped }
    have connects := checked.checkForRetransmit_connects tickedWaiting ether
    exact ⟨connects.numbered, connects.next, connects.waits⟩

theorem foundSegment_over (client : TCPClient) (isOver : client.Over)
    (ether : EtherSia) : (client.foundSegment ether).1.Over := by
  have sameState := (client.ackTest_keeps ether.buffer).2.1
  unfold foundSegment
  split
  · exact Or.inr rfl
  · split
    · exact isOver
    · dsimp only
      rcases isOver with lastAck | disconnected
      · rw [sameState, lastAck]
        dsimp only [lastAckSegment]
        split
        · exact Or.inr rfl
        · left
          rw [(TCPClient.checkForRetransmit_keeps _ _).1, sameState, lastAck]
      · rw [sameState, disconnected]
        exact Or.inr (sameState.trans disconnected)

theorem poll_over {client : TCPClient} (isOver : client.Over) (clock : HavePacketClock)
    (ether : EtherSia) : (client.poll clock ether).1.Over := by
  have tickedOver : (client.ticked clock).Over := by
    unfold Over
    rw [ticked_state]
    exact isOver
  refine poll_cases (motive := fun after => after.1.Over) client clock ether ?_ ?_ ?_ ?_
  · intro _
    exact Or.inr rfl
  · intro _ _ _
    exact (client.ticked clock).counted.foundSegment_over tickedOver ether
  · intro _ _ _
    exact tickedOver
  · intro _ nrcvd ndropped
    unfold Over
    rw [(TCPClient.checkForRetransmit_keeps _ _).1]
    exact tickedOver

end TCPClient

/-! ### Runs -/

namespace Station

variable {ι : Type} [DecidableEq ι]

/-- The sequence number and the length of the data an application has a client send.
What it sends when asked to send again is not new.  The segment sent is what is left in
the buffer. -/
def newSegmentIn (index : ι) (taken : Taken (Station ι) (StationEvent ι)) :
    Option (UInt32 × Nat) :=
  match taken.event with
  | .clientSend other length _ =>
      if other = index ∧ (taken.before.clients index).appliFlags.rexmit = false then
        some (TCPHeader.sequenceNum taken.after.ether.buffer, length.toNat)
      else none
  | _ => none

def newSegments (index : ι) (steps : List (Taken (Station ι) (StationEvent ι))) :
    List (UInt32 × Nat) :=
  steps.filterMap (newSegmentIn index)

def bytesSent (index : ι) (steps : List (Taken (Station ι) (StationEvent ι))) : Nat :=
  totalLength (newSegments index steps)

/-- A call that has the client send new segments sends them with the number. -/
def SendsNew (index : ι) (number : UInt32) (taken : Taken (Station ι) (StationEvent ι)) :
    Prop :=
  ((∃ clock, taken.event = .clientHavePacket index clock) ∨
      (∃ length isReply, taken.event = .clientSend index length isReply) ∧
        (taken.before.clients index).appliFlags.rexmit = false) →
    TCPClient.SendsNumbered number taken.before.ether taken.after.ether

/-- The client is connected, or this step connects it. -/
def ConnectedIn (index : ι) (taken : Taken (Station ι) (StationEvent ι)) : Prop :=
  (taken.before.clients index).state = .connected ∨
    (taken.after.clients index).state = .connected

/-- Every new segment of the connected client has the number behind all the bytes sent
before it, and the data of one segment starts where that of the one before it ended. -/
def NumbersSegments (index : ι) (iss : UInt32)
    (steps : List (Taken (Station ι) (StationEvent ι))) : Prop :=
  (∀ earlier taken later, steps = earlier ++ taken :: later → ConnectedIn index taken →
    SendsNew index (iss + 1 + UInt32.ofNat (bytesSent index earlier)) taken) ∧
  Contiguous (iss + 1) (newSegments index steps)

/-- New data is sent only while the client is connected and nothing is outstanding, and
what the connected client has to answer finds it up to date. -/
def Paced (index : ι) (taken : Taken (Station ι) (StationEvent ι)) : Prop :=
  match taken.event with
  | .connect other _ _ => other ≠ index
  | .clientSend other _ _ =>
      other = index → (taken.before.clients index).state = .connected ∧
        ((taken.before.clients index).unAckLen = 0 ∨
          (taken.before.clients index).appliFlags.rexmit = true)
  | .clientHavePacket other _ =>
      other = index → (taken.before.clients index).state = .connected →
        (taken.before.clients index).AnswersUpToDate taken.before.ether
  | _ => True

instance (index : ι) : DecidablePred (Paced index) := fun taken =>
  match taken with
  | ⟨_, event, _⟩ => by
      cases event <;> unfold Paced <;> infer_instance

/-- The number behind all that was sent, while the connection is opening or open. -/
def NextIs (number : UInt32) (client : TCPClient) : Prop :=
  client.state = .waitSynAck ∨ client.state = .connected → client.nextNumber = number

/-- What a step does to the numbers of the segments. -/
structure NumbersStep (index : ι) (number : UInt32)
    (taken : Taken (Station ι) (StationEvent ι)) : Prop where
  sends : ConnectedIn index taken → SendsNew index number taken
  starts : ∀ segment, newSegmentIn index taken = some segment → segment.1 = number
  next : NextIs (number + UInt32.ofNat (totalLength (newSegmentIn index taken).toList))
    (taken.after.clients index)

theorem nextIs_of_over {client : TCPClient} (isOver : client.Over) (number : UInt32) :
    NextIs number client := by
  rintro (waiting | connected)
  · exact absurd waiting isOver.not_waiting
  · exact absurd connected isOver.not_connected

theorem numbersStep_of_no_segment {index : ι} {number : UInt32}
    {taken : Taken (Station ι) (StationEvent ι)}
    (sends : ConnectedIn index taken → SendsNew index number taken)
    (none : newSegmentIn index taken = none)
    (next : NextIs number (taken.after.clients index)) :
    NumbersStep index number taken where
  sends := sends
  starts := fun segment some_ => by
    rw [none] at some_
    cases some_
  next := by
    rw [none]
    change NextIs (number + 0) _
    rw [UInt32.add_zero]
    exact next

theorem poll_over_numbersStep {index : ι} {before : Station ι}
    (isOver : (before.clients index).Over) (number : UInt32) (clock : HavePacketClock) :
    NumbersStep index number ⟨before, .clientHavePacket index clock,
      before.update index ((before.clients index).poll clock before.ether)⟩ := by
  have stillOver := TCPClient.poll_over isOver clock before.ether
  apply numbersStep_of_no_segment _ rfl
  · dsimp only
    rw [update_clients_same]
    exact nextIs_of_over stillOver number
  · intro connects
    dsimp only [ConnectedIn] at connects
    rw [update_clients_same] at connects
    rcases connects with connected | connected
    · exact absurd connected isOver.not_connected
    · exact absurd connected stillOver.not_connected

theorem poll_numbersStep {index : ι} {number : UInt32} {before : Station ι}
    {clock : HavePacketClock} (next : NextIs number (before.clients index))
    (paced : (before.clients index).state = .connected →
      (before.clients index).AnswersUpToDate before.ether) :
    NumbersStep index number ⟨before, .clientHavePacket index clock,
      before.update index ((before.clients index).poll clock before.ether)⟩ := by
  cases state : (before.clients index).state with
  | waitSynAck =>
      obtain ⟨numbered, opens, waits⟩ := TCPClient.poll_connects state clock before.ether
      have number_ := next (Or.inl state)
      rw [number_] at numbered opens
      apply numbersStep_of_no_segment _ rfl
      · dsimp only
        rw [update_clients_same]
        rintro (waiting | connected)
        · obtain ⟨local_, unAcked⟩ := waits waiting
          unfold TCPClient.nextNumber
          rw [local_, unAcked]
          exact number_
        · exact opens connected
      · rintro (connected | connected) _
        · cases state.symm.trans connected
        · dsimp only at connected
          rw [update_clients_same] at connected
          exact numbered connected
  | connected =>
      obtain ⟨numbered, stays, opened⟩ :=
        TCPClient.poll_sendsNext state (paced state) clock
      rw [next (Or.inr state)] at numbered stays
      apply numbersStep_of_no_segment _ rfl
      · dsimp only
        rw [update_clients_same]
        rintro (waiting | connected)
        · exact absurd waiting opened
        · exact stays connected
      · intro _ _
        exact numbered
  | lastAck =>
      have isOver : (before.clients index).Over := Or.inl state
      exact poll_over_numbersStep isOver number clock
  | disconnected =>
      have isOver : (before.clients index).Over := Or.inr state
      exact poll_over_numbersStep isOver number clock

theorem send_numbersStep {index : ι} {number : UInt32} {before : Station ι}
    {length : UInt16} {isReply : Bool} (next : NextIs number (before.clients index))
    (connected : (before.clients index).state = .connected)
    (paced : (before.clients index).unAckLen = 0 ∨
      (before.clients index).appliFlags.rexmit = true) :
    NumbersStep index number ⟨before, .clientSend index length isReply,
      before.update index ((before.clients index).send length isReply before.ether)⟩ := by
  have number_ := next (Or.inr connected)
  cases again : (before.clients index).appliFlags.rexmit with
  | true =>
      have sameClient : ((before.clients index).send length isReply before.ether).1 =
          before.clients index := by
        unfold TCPClient.send TCPClient.sendInternal
        rw [again]
        rfl
      apply numbersStep_of_no_segment
      · intro _
        rintro (⟨_, wrong⟩ | ⟨_, new⟩)
        · cases wrong
        · cases again.symm.trans new
      · refine if_neg ?_
        rintro ⟨_, new⟩
        cases again.symm.trans new
      · dsimp only
        rw [update_clients_same, sameClient]
        exact next
  | false =>
      have nothing : (before.clients index).unAckLen = 0 := by
        rcases paced with nothing | resends
        · exact nothing
        · cases again.symm.trans resends
      rw [TCPClient.nextNumber_of_none nothing] at number_
      have isSegment : newSegmentIn index ⟨before, .clientSend index length isReply,
          before.update index
            ((before.clients index).send length isReply before.ether)⟩ =
          some (number, length.toNat) := by
        rw [← number_,
          ← (before.clients index).send_sequenceNum length isReply before.ether]
        exact if_pos ⟨rfl, again⟩
      constructor
      · intro _ _
        rw [← number_]
        exact (before.clients index).send_client_numbered length isReply before.ether
      · intro segment isThis
        rw [isSegment] at isThis
        rw [← Option.some.inj isThis]
      · rw [isSegment]
        intro _
        dsimp only
        rw [update_clients_same, TCPClient.send_nextNumber again nothing, number_,
          ← UInt32.ofNat_uInt16ToNat]
        rfl

theorem newSegmentIn_of_unrelated {index : ι}
    {taken : Taken (Station ι) (StationEvent ι)}
    (unrelated : ¬ Concerns index taken.event) : newSegmentIn index taken = none := by
  obtain ⟨before, event, after⟩ := taken
  cases event with
  | clientSend other length isReply => exact if_neg fun called => unrelated called.1
  | _ => rfl

/-- The step lemma. -/
theorem step_numbersStep {index : ι} {number : UInt32}
    {taken : Taken (Station ι) (StationEvent ι)}
    (stepped : step taken.before taken.event = some taken.after)
    (next : NextIs number (taken.before.clients index)) (paced : Paced index taken) :
    NumbersStep index number taken := by
  obtain ⟨before, event, after⟩ := taken
  change before.step event = some after at stepped
  apply step_client_cases index stepped
  · intro unrelated same
    apply numbersStep_of_no_segment _ (newSegmentIn_of_unrelated unrelated)
    · dsimp only
      rw [same]
      exact next
    · intro _
      rintro (⟨clock, rfl⟩ | ⟨⟨length, isReply, rfl⟩, _⟩)
      · exact absurd rfl unrelated
      · exact absurd rfl unrelated
  · rintro socket rfl rfl
    apply numbersStep_of_no_segment _ rfl
    · dsimp only
      rw [update_clients_same]
      exact next
    · intro _
      rintro (⟨_, called⟩ | ⟨⟨_, _, called⟩, _⟩)
      · cases called
      · cases called
  · rintro randomNumber now rfl _
    exact absurd rfl paced
  · rintro clock rfl rfl
    exact poll_numbersStep next (paced rfl)
  · rintro length isReply rfl rfl
    obtain ⟨connected, upToDate⟩ := paced rfl
    exact send_numbersStep next connected upToDate

theorem newSegments_cons (index : ι) (taken : Taken (Station ι) (StationEvent ι))
    (rest : List (Taken (Station ι) (StationEvent ι))) :
    newSegments index (taken :: rest) =
      (newSegmentIn index taken).toList ++ newSegments index rest := by
  unfold newSegments
  cases isSegment : newSegmentIn index taken with
  | none => simp [isSegment]
  | some segment => simp [isSegment]

/-- The run lemma: the number before each step counts the bytes sent up to it. -/
theorem run_numbers {index : ι} {number : UInt32} {start : Station ι}
    {events : List (StationEvent ι)} (next : NextIs number (start.clients index))
    (paced : Always step start events (Paced index)) :
    (∀ earlier taken later, trace step start events = earlier ++ taken :: later →
      ConnectedIn index taken →
        SendsNew index (number + UInt32.ofNat (bytesSent index earlier)) taken) ∧
      Contiguous number (newSegments index (trace step start events)) := by
  induction events generalizing start number with
  | nil =>
      refine ⟨fun earlier taken later split => ?_, trivial⟩
      have counted := congrArg List.length split
      rw [List.length_append, List.length_cons] at counted
      change 0 = _ at counted
      omega
  | cons event rest ih =>
      cases stepped : step start event with
      | none =>
          have empty : trace step start (event :: rest) = [] := by
            simp only [trace, stepped]
          rw [empty]
          refine ⟨fun earlier taken later split => ?_, trivial⟩
          cases earlier with
          | nil => cases split
          | cons head tail => cases split
      | some reached =>
          obtain ⟨head, tail⟩ := (always_cons_of_step stepped rest _).mp paced
          have numbers : NumbersStep index number ⟨start, event, reached⟩ :=
            step_numbersStep stepped next head
          obtain ⟨sends, contiguous⟩ := ih numbers.next tail
          rw [trace_cons_of_step stepped, newSegments_cons]
          refine ⟨fun earlier taken later split => ?_,
            contiguous_append numbers.starts contiguous⟩
          cases earlier with
          | nil =>
              obtain ⟨rfl, rfl⟩ := List.cons.inj split
              have sent := numbers.sends
              change ConnectedIn index _ → SendsNew index (number + 0) _
              rw [UInt32.add_zero]
              exact sent
          | cons first earlier =>
              obtain ⟨rfl, restSplit⟩ := List.cons.inj split
              have counted : bytesSent index (⟨start, event, reached⟩ :: earlier) =
                  totalLength (newSegmentIn index ⟨start, event, reached⟩).toList +
                    bytesSent index earlier := by
                unfold bytesSent
                rw [newSegments_cons, totalLength_append]
              rw [counted, UInt32.ofNat_add, ← UInt32.add_assoc]
              exact sends earlier taken later restSplit

end Station

open Station

variable {ι : Type} [DecidableEq ι]

/-- The first client has sent its SYN. -/
def firstConnecting : Station Bool :=
  twoClients.update false
    ((twoClients.clients false).connect 1000 0 twoClients.ether)

theorem firstConnecting_step :
    twoClients.step (.connect false 1000 0) = some firstConnecting :=
  rfl

/-- The first client is connected and sends two bytes. -/
def openAndSend : List (StationEvent Bool) :=
  [.receivePacket synAckFirst, .clientHavePacket false (clockAt 1),
    .writePayload 24 [0x68, 0x69], .clientSend false 2 false]

theorem sendTwice_newSegments : newSegments false (trace Station.step firstConnecting
    (openAndSend ++ [.clientSend false 2 false])) = [(1001, 2), (1001, 2)] := by
  decide +kernel

end EtherSiaStack
