/-
What one call of `TCPClient::havePacket` can do.

A call on an idle client changes nothing but the client.  Otherwise the timers
advance and the packet in the buffer is a segment of the connection, is taken
for an old packet, or leads to the retransmission check.  Every result about the
client is derived from these cases.
-/

import EtherSiaStack.Transmission

namespace EtherSiaStack

open ByteMemory IPv6Packet

namespace TCPClient

open TCPHeader

/-! ### The start of a call -/

/-- There is a connection and it has not timed out. -/
structure Active (client : TCPClient) : Prop where
  open_ : client.state ≠ .disconnected
  inTime : client.timedOut = false

instance (client : TCPClient) : Decidable client.Active :=
  decidable_of_iff (client.state ≠ .disconnected ∧ client.timedOut = false)
    ⟨fun ⟨open_, inTime⟩ => ⟨open_, inTime⟩, fun active => ⟨active.open_, active.inTime⟩⟩

/-- The client once the flags are cleared and the timers have advanced. -/
def ticked (client : TCPClient) (clock : HavePacketClock) : TCPClient :=
  (client.startCall clock).tickPeriodic clock

theorem startCall_eq (client : TCPClient) (clock : HavePacketClock) :
    ∃ inactivity reset, client.startCall clock = { client with
      inactivity := inactivity
      appliFlags := { AppliFlags.none with reset := reset } } := by
  unfold startCall
  split <;> exact ⟨_, _, rfl⟩

@[simp] theorem startCall_state (client : TCPClient) (clock : HavePacketClock) :
    (client.startCall clock).state = client.state := by
  obtain ⟨_, _, same⟩ := client.startCall_eq clock
  rw [same]

@[simp] theorem startCall_timedOut (client : TCPClient) (clock : HavePacketClock) :
    (client.startCall clock).timedOut = client.timedOut := by
  obtain ⟨_, _, same⟩ := client.startCall_eq clock
  rw [same]

theorem poll_of_active {client : TCPClient} (active : client.Active)
    (clock : HavePacketClock) (ether : EtherSia) :
    client.poll clock ether = (client.ticked clock).dispatchPacket ether := by
  unfold poll
  dsimp only
  rw [startCall_state, startCall_timedOut, active.inTime,
    if_neg fun idle => active.open_ idle.1]
  exact if_neg Bool.false_ne_true

/-- An idle client leaves the interface alone and ends disconnected. -/
theorem poll_of_idle {client : TCPClient} (idle : ¬ client.Active)
    (clock : HavePacketClock) (ether : EtherSia) :
    client.poll clock ether =
      ({ client.startCall clock with state := .disconnected, timedOut := false },
        ether) := by
  by_cases closed : client.state = .disconnected ∧ client.timedOut = false
  · obtain ⟨inactivity, reset, started⟩ := client.startCall_eq clock
    unfold poll
    dsimp only
    rw [startCall_state, startCall_timedOut, if_pos closed, started, closed.1, closed.2]
  · have expired : client.timedOut = true := by
      by_contra inTime
      rw [Bool.not_eq_true] at inTime
      exact idle ⟨fun state => closed ⟨state, inTime⟩, inTime⟩
    unfold poll
    dsimp only
    rw [startCall_state, startCall_timedOut, if_neg closed, expired]
    exact if_pos rfl

section Ticked

variable (client : TCPClient) (clock : HavePacketClock)

theorem tickPeriodic_eq : ∃ periodic timer, client.tickPeriodic clock =
    { client with periodic := periodic, timer := timer } := by
  unfold tickPeriodic
  split
  · dsimp only
    split <;> exact ⟨_, _, rfl⟩
  · exact ⟨_, _, rfl⟩

/-- Besides, a call only moves the periodic and the retransmission timer. -/
theorem ticked_eq : ∃ inactivity reset periodic timer, client.ticked clock =
    { client with
      inactivity := inactivity
      appliFlags := { AppliFlags.none with reset := reset }
      periodic := periodic
      timer := timer } := by
  obtain ⟨inactivity, reset, started⟩ := client.startCall_eq clock
  obtain ⟨periodic, timer, ticks⟩ := (client.startCall clock).tickPeriodic_eq clock
  refine ⟨inactivity, reset, periodic, timer, ?_⟩
  unfold ticked
  rw [ticks, started]

@[simp] theorem ticked_toSocket : (client.ticked clock).toSocket = client.toSocket := by
  obtain ⟨_, _, _, _, same⟩ := client.ticked_eq clock
  rw [same]

@[simp] theorem ticked_state : (client.ticked clock).state = client.state := by
  obtain ⟨_, _, _, _, same⟩ := client.ticked_eq clock
  rw [same]

@[simp] theorem ticked_timedOut : (client.ticked clock).timedOut = client.timedOut := by
  obtain ⟨_, _, _, _, same⟩ := client.ticked_eq clock
  rw [same]

@[simp] theorem ticked_remoteSeqNum :
    (client.ticked clock).remoteSeqNum = client.remoteSeqNum := by
  obtain ⟨_, _, _, _, same⟩ := client.ticked_eq clock
  rw [same]

@[simp] theorem ticked_localSeqNum :
    (client.ticked clock).localSeqNum = client.localSeqNum := by
  obtain ⟨_, _, _, _, same⟩ := client.ticked_eq clock
  rw [same]

@[simp] theorem ticked_unAckLen :
    (client.ticked clock).unAckLen = client.unAckLen := by
  obtain ⟨_, _, _, _, same⟩ := client.ticked_eq clock
  rw [same]

@[simp] theorem ticked_nrtx : (client.ticked clock).nrtx = client.nrtx := by
  obtain ⟨_, _, _, _, same⟩ := client.ticked_eq clock
  rw [same]

theorem ticked_appliFlags : ∃ reset,
    (client.ticked clock).appliFlags = { AppliFlags.none with reset := reset } := by
  obtain ⟨_, reset, _, _, same⟩ := client.ticked_eq clock
  exact ⟨reset, by rw [same]⟩

/-- The retransmission timer is 0 once the call has advanced the timers. -/
def TimerExpires : Prop :=
  if hasElapsed clock.periodicTest client.periodic PERIODIC_TIME_OUT then
    client.timer = 1
  else client.timer = 0

instance : Decidable (client.TimerExpires clock) :=
  inferInstanceAs (Decidable
    (if hasElapsed clock.periodicTest client.periodic PERIODIC_TIME_OUT then
      client.timer = 1
    else client.timer = 0))

theorem tickPeriodic_timer (outstanding : client.unAckLen > 0) :
    (client.tickPeriodic clock).timer =
      if hasElapsed clock.periodicTest client.periodic PERIODIC_TIME_OUT then
        client.timer - 1
      else client.timer := by
  unfold tickPeriodic
  by_cases elapsed :
      hasElapsed clock.periodicTest client.periodic PERIODIC_TIME_OUT = true
  · rw [if_pos elapsed, if_pos elapsed]
    exact congrArg TCPClient.timer (if_pos outstanding)
  · rw [if_neg elapsed, if_neg elapsed]

theorem ticked_timer_eq_zero_iff (outstanding : client.unAckLen > 0) :
    (client.ticked clock).timer = 0 ↔ client.TimerExpires clock := by
  have sub (timer : UInt8) : timer - 1 = 0 ↔ timer = 1 := sub_eq_zero
  obtain ⟨inactivity, reset, started⟩ := client.startCall_eq clock
  have ticks := tickPeriodic_timer (client.startCall clock) clock
    (by rw [started]; exact outstanding)
  unfold ticked TimerExpires
  rw [ticks, started]
  dsimp only
  split_ifs
  · exact sub client.timer
  · exact Iff.rfl

end Ticked

/-! ### Whose packet it is -/

/-- The packet in the buffer is a segment of this connection. -/
structure OfConnection (client : TCPClient) (ether : EtherSia) : Prop where
  toUs : destination ether.buffer = ether.linkLocalAddress
  fromPeer : source ether.buffer = client.remoteAddress
  isTcp : protocol ether.buffer = IP6_PROTO_TCP
  remotePort : sourcePort ether.buffer = client.remotePort
  localPort : destinationPort ether.buffer = client.localPort

instance (client : TCPClient) (ether : EtherSia) :
    Decidable (client.OfConnection ether) :=
  decidable_of_iff
    (destination ether.buffer = ether.linkLocalAddress ∧
      source ether.buffer = client.remoteAddress ∧
        protocol ether.buffer = IP6_PROTO_TCP ∧
          sourcePort ether.buffer = client.remotePort ∧
            destinationPort ether.buffer = client.localPort)
    ⟨fun ⟨toUs, fromPeer, isTcp, remotePort, localPort⟩ =>
        ⟨toUs, fromPeer, isTcp, remotePort, localPort⟩,
      fun ours => ⟨ours.toUs, ours.fromPeer, ours.isTcp, ours.remotePort, ours.localPort⟩⟩

/-- The packet in the buffer comes from the connection's peer, goes to another
local port and is no SYN. -/
structure TakenForOld (client : TCPClient) (ether : EtherSia) : Prop where
  toUs : destination ether.buffer = ether.linkLocalAddress
  fromPeer : source ether.buffer = client.remoteAddress
  isTcp : protocol ether.buffer = IP6_PROTO_TCP
  remotePort : sourcePort ether.buffer = client.remotePort
  otherPort : destinationPort ether.buffer ≠ client.localPort
  noSyn : hasFlag (flags ether.buffer) TCP_FLAG_SYN = false

theorem OfConnection.of_toSocket {client other : TCPClient} {ether : EtherSia}
    (ofConnection : client.OfConnection ether) (same : other.toSocket = client.toSocket) :
    other.OfConnection ether where
  toUs := ofConnection.toUs
  fromPeer := same ▸ ofConnection.fromPeer
  isTcp := ofConnection.isTcp
  remotePort := same ▸ ofConnection.remotePort
  localPort := same ▸ ofConnection.localPort

theorem TakenForOld.of_toSocket {client other : TCPClient} {ether : EtherSia}
    (old : client.TakenForOld ether) (same : other.toSocket = client.toSocket) :
    other.TakenForOld ether where
  toUs := old.toUs
  fromPeer := same ▸ old.fromPeer
  isTcp := old.isTcp
  remotePort := same ▸ old.remotePort
  otherPort := same ▸ old.otherPort
  noSyn := old.noSyn

/-- The counters a call keeps for statistics. -/
def counted (client : TCPClient) : TCPClient :=
  { client with nrcvd := client.nrcvd + 1 }

def dropped (client : TCPClient) : TCPClient :=
  { client with nrcvd := client.nrcvd + 1, ndropped := client.ndropped + 1 }

theorem dispatchPacket_of_not_received (client : TCPClient) {ether : EtherSia}
    (empty : ether.bufferContainsReceived = false) :
    client.dispatchPacket ether = client.checkForRetransmit ether :=
  if_pos empty

theorem not_flag_false {ether : EtherSia}
    (flagged : ether.bufferContainsReceived = true) :
    ¬ ether.bufferContainsReceived = false := by
  rw [flagged]
  decide

theorem dispatchPacket_of_ofConnection {client : TCPClient} {ether : EtherSia}
    (flagged : ether.bufferContainsReceived = true)
    (ours : client.OfConnection ether) :
    client.dispatchPacket ether = client.counted.foundSegment ether := by
  have pair : ¬ (destination ether.buffer ≠ ether.linkLocalAddress ∨
      source ether.buffer ≠ client.remoteAddress) :=
    not_or.mpr ⟨not_not.mpr ours.toUs, not_not.mpr ours.fromPeer⟩
  unfold dispatchPacket
  dsimp only
  rw [if_neg (not_flag_false flagged), if_neg pair, if_neg (not_not.mpr ours.isTcp),
    if_neg (not_not.mpr ours.remotePort), if_pos ours.localPort]
  rfl

theorem dispatchPacket_of_takenForOld {client : TCPClient} {ether : EtherSia}
    (flagged : ether.bufferContainsReceived = true)
    (old : client.TakenForOld ether) :
    client.dispatchPacket ether =
      (client.counted, client.counted.resetReply ether) := by
  have pair : ¬ (destination ether.buffer ≠ ether.linkLocalAddress ∨
      source ether.buffer ≠ client.remoteAddress) :=
    not_or.mpr ⟨not_not.mpr old.toUs, not_not.mpr old.fromPeer⟩
  unfold dispatchPacket
  dsimp only
  rw [if_neg (not_flag_false flagged), if_neg pair, if_neg (not_not.mpr old.isTcp),
    if_neg (not_not.mpr old.remotePort), if_neg old.otherPort, old.noSyn]
  exact if_neg Bool.false_ne_true

theorem dispatchPacket_of_other {client : TCPClient} {ether : EtherSia}
    (flagged : ether.bufferContainsReceived = true)
    (notOurs : ¬ client.OfConnection ether) (notOld : ¬ client.TakenForOld ether) :
    client.dispatchPacket ether = client.dropped.checkForRetransmit ether := by
  unfold dispatchPacket
  dsimp only
  rw [if_neg (not_flag_false flagged)]
  split_ifs with pair isTcp remotePort localPort syn
  · rfl
  · rfl
  · rfl
  · obtain ⟨toUs, fromPeer⟩ := not_or.mp pair
    exact absurd ⟨not_not.mp toUs, not_not.mp fromPeer, not_not.mp isTcp,
      not_not.mp remotePort, localPort⟩ notOurs
  · rfl
  · obtain ⟨toUs, fromPeer⟩ := not_or.mp pair
    exact absurd ⟨not_not.mp toUs, not_not.mp fromPeer, not_not.mp isTcp,
      not_not.mp remotePort, localPort, by simpa using syn⟩ notOld

/-- What a call comes down to: nothing, a segment of the connection, a reset for an
old packet, or the retransmission check with some of the counters advanced. -/
theorem poll_cases (client : TCPClient) (clock : HavePacketClock) (ether : EtherSia)
    {motive : TCPClient × EtherSia → Prop}
    (idle : ¬ client.Active → motive ({ client.startCall clock with
      state := .disconnected, timedOut := false }, ether))
    (found : client.Active → ether.bufferContainsReceived = true →
      (client.ticked clock).OfConnection ether →
        motive ((client.ticked clock).counted.foundSegment ether))
    (old : client.Active → ether.bufferContainsReceived = true →
      (client.ticked clock).TakenForOld ether →
        motive ((client.ticked clock).counted,
          (client.ticked clock).counted.resetReply ether))
    (checks : client.Active → ∀ nrcvd ndropped,
      motive (({ client.ticked clock with
        nrcvd := nrcvd, ndropped := ndropped } : TCPClient).checkForRetransmit ether)) :
    motive (client.poll clock ether) := by
  by_cases active : client.Active
  · rw [poll_of_active active]
    by_cases flagged : ether.bufferContainsReceived = true
    · by_cases ours : (client.ticked clock).OfConnection ether
      · rw [dispatchPacket_of_ofConnection flagged ours]
        exact found active flagged ours
      · by_cases isOld : (client.ticked clock).TakenForOld ether
        · rw [dispatchPacket_of_takenForOld flagged isOld]
          exact old active flagged isOld
        · rw [dispatchPacket_of_other flagged ours isOld]
          exact checks active _ _
    · rw [dispatchPacket_of_not_received _ (by simpa using flagged)]
      exact checks active _ _
  · rw [poll_of_idle active]
    exact idle active

/-! ### The retransmission check -/

theorem eq_zero_of_not_pos {length : UInt16} (notPositive : ¬ length > 0) :
    length = 0 := by
  apply UInt16.toNat_inj.mp
  have least := mt UInt16.lt_iff_toNat_lt.mpr notPositive
  rw [UInt16.toNat_zero] at least ⊢
  omega

/-- The timer of unacknowledged bytes has run out. -/
def Due (client : TCPClient) : Prop :=
  client.unAckLen > 0 ∧ client.timer = 0

theorem checkForRetransmit_of_not_due {client : TCPClient} (notDue : ¬ client.Due)
    (ether : EtherSia) : client.checkForRetransmit ether = (client, ether) :=
  if_neg notDue

/-- An expiry in a connection that has tries left is reported to the application;
the flags byte of whatever is in the buffer becomes an ACK. -/
theorem checkForRetransmit_of_connected {client : TCPClient} (due : client.Due)
    (connected : client.state = .connected) (triesLeft : client.nrtx ≠ UIP_MAXRTX)
    (ether : EtherSia) :
    (client.checkForRetransmit ether).2 =
      ether.modifyPacket fun packet => setFlags packet TCP_FLAG_ACK := by
  have goesOn : ¬ (client.nrtx = UIP_MAXRTX ∨
      (client.state = .waitSynAck ∧ client.timedOut = false ∧
        client.nrtx = UIP_MAXSYNRTX)) := by
    rw [connected]
    rintro (last | ⟨waiting, _⟩)
    · exact triesLeft last
    · cases waiting
  have expired : client.unAckLen > 0 ∧ client.timer = 0 := due
  unfold checkForRetransmit
  rw [if_pos expired]
  dsimp only
  rw [if_neg goesOn, connected]

/-- Any other expiry of an open connection sends a segment. -/
theorem checkForRetransmit_sends {client : TCPClient} (due : client.Due)
    (open_ : client.state ≠ .disconnected)
    (sends : client.state ≠ .connected ∨ client.nrtx = UIP_MAXRTX) (ether : EtherSia) :
    Transmits ether (client.checkForRetransmit ether).2 := by
  have expired : client.unAckLen > 0 ∧ client.timer = 0 := due
  unfold checkForRetransmit
  rw [if_pos expired]
  dsimp only
  split_ifs with gaveUp
  · exact tcpResend_transmits _ _ (by decide) ether
  · cases stateIs : client.state with
    | disconnected => exact absurd stateIs open_
    | waitSynAck => exact tcpResend_transmits _ _ (by decide) ether
    | connected =>
        rcases sends with notConnected | last
        · exact absurd stateIs notConnected
        · exact absurd (Or.inl last) gaveUp
    | lastAck => exact tcpResend_transmits _ _ (by decide) ether

/-- Whatever the check does, the connection goes on from the same numbers. -/
theorem checkForRetransmit_keeps (client : TCPClient) (ether : EtherSia) :
    (client.checkForRetransmit ether).1.state = client.state ∧
      (client.checkForRetransmit ether).1.remoteSeqNum = client.remoteSeqNum ∧
        (client.checkForRetransmit ether).1.appliFlags.newData =
          client.appliFlags.newData := by
  unfold checkForRetransmit
  split
  · dsimp only
    split
    · exact ⟨rfl, rfl, rfl⟩
    · split
      · exact ⟨rfl, rfl, rfl⟩
      · exact ⟨rfl, rfl, rfl⟩
      · exact ⟨rfl, rfl, rfl⟩
      · exact ⟨rfl, rfl, rfl⟩
  · exact ⟨rfl, rfl, rfl⟩

/-! ### The acking test -/

/-- The packet acknowledges all outstanding bytes. -/
structure Acknowledges (client : TCPClient) (packet : Memory) : Prop where
  isAck : hasFlag (flags packet) TCP_FLAG_ACK = true
  outstanding : client.unAckLen > 0
  number : acknowledgementNum packet = client.localSeqNum + client.unAckLen.toUInt32

instance (client : TCPClient) (packet : Memory) : Decidable (client.Acknowledges packet) :=
  decidable_of_iff
    (hasFlag (flags packet) TCP_FLAG_ACK = true ∧ client.unAckLen > 0 ∧
      acknowledgementNum packet = client.localSeqNum + client.unAckLen.toUInt32)
    ⟨fun ⟨isAck, outstanding, number⟩ => ⟨isAck, outstanding, number⟩,
      fun acked => ⟨acked.isAck, acked.outstanding, acked.number⟩⟩

theorem updateRto_eq (client : TCPClient) : ∃ sa sv rto, client.updateRto =
    { client with sa := sa, sv := sv, rto := rto } :=
  ⟨_, _, _, rfl⟩

theorem ackTest_of_acknowledges {client : TCPClient} {packet : Memory}
    (acknowledges : client.Acknowledges packet) :
    ∃ timer rto sa sv, client.ackTest packet = { client with
      localSeqNum := client.localSeqNum + client.unAckLen.toUInt32
      timer := timer
      rto := rto
      sa := sa
      sv := sv
      unAckLen := 0
      appliFlags := { AppliFlags.none with ackData := true } } := by
  have all : hasFlag (flags packet) TCP_FLAG_ACK ∧ client.unAckLen > 0 ∧
      acknowledgementNum packet = client.localSeqNum + client.unAckLen.toUInt32 :=
    ⟨acknowledges.isAck, acknowledges.outstanding, acknowledges.number⟩
  unfold ackTest
  rw [if_pos all]
  dsimp only
  split
  · obtain ⟨sa, sv, rto, updated⟩ := updateRto_eq
      { client with localSeqNum := client.localSeqNum + client.unAckLen.toUInt32 }
    rw [updated]
    exact ⟨_, _, _, _, rfl⟩
  · exact ⟨_, _, _, _, rfl⟩

theorem ackTest_of_not_acknowledges {client : TCPClient} {packet : Memory}
    (notAcknowledges : ¬ client.Acknowledges packet) :
    client.ackTest packet = client :=
  if_neg fun ⟨isAck, outstanding, number⟩ =>
    notAcknowledges ⟨isAck, outstanding, number⟩

theorem ackTest_keeps (client : TCPClient) (packet : Memory) :
    (client.ackTest packet).toSocket = client.toSocket ∧
      (client.ackTest packet).state = client.state ∧
        (client.ackTest packet).remoteSeqNum = client.remoteSeqNum ∧
          (client.appliFlags.newData = false →
            (client.ackTest packet).appliFlags.newData = false) := by
  by_cases acknowledges : client.Acknowledges packet
  · obtain ⟨_, _, _, _, acked⟩ := ackTest_of_acknowledges acknowledges
    rw [acked]
    exact ⟨rfl, rfl, rfl, fun _ => rfl⟩
  · rw [ackTest_of_not_acknowledges acknowledges]
    exact ⟨rfl, rfl, rfl, id⟩

/-! ### What becomes of the interface -/

/-- The interface after the retransmission check: as it was, with a segment sent again,
or with the flags of a segment that the application is to send again. -/
theorem checkForRetransmit_ether_cases (client : TCPClient) (ether : EtherSia)
    {motive : EtherSia → Prop} (unchanged : motive ether)
    (resends : ∀ (other : TCPClient) flags dataOffset,
      other.toSocket = client.toSocket → motive (other.tcpResend flags dataOffset ether))
    (asks : motive (ether.modifyPacket fun packet => setFlags packet TCP_FLAG_ACK)) :
    motive (client.checkForRetransmit ether).2 := by
  unfold checkForRetransmit
  split
  · dsimp only
    split
    · exact resends _ _ _ rfl
    · split
      · exact resends _ _ _ rfl
      · exact asks
      · exact resends _ _ _ rfl
      · exact unchanged
  · exact unchanged

/-- The interface after a segment of the connection: as it was, or left by a reply, a
reset or the retransmission check of this connection. -/
theorem foundSegment_ether_cases (client : TCPClient) (ether : EtherSia)
    {motive : EtherSia → Prop} (unchanged : motive ether)
    (replies : ∀ (other : TCPClient) flags, motive (other.tcpSendNoDataReply flags ether))
    (resets : ∀ other : TCPClient, motive (other.resetReply ether))
    (checks : ∀ other : TCPClient, other.toSocket = client.toSocket →
      motive (other.checkForRetransmit ether).2) :
    motive (client.foundSegment ether).2 := by
  have sameSocket := (client.ackTest_keeps ether.buffer).1
  unfold foundSegment
  split
  · exact unchanged
  · split
    · exact replies _ _
    · dsimp only
      split
      · unfold waitSynAckSegment
        split
        · exact replies _ _
        · exact resets _
      · unfold connectedSegment
        split
        · split
          · exact checks _ sameSocket
          · exact replies _ _
        · split
          · exact replies _ _
          · exact checks _ sameSocket
      · unfold lastAckSegment
        split
        · exact unchanged
        · exact checks _ sameSocket
      · exact replies _ _

end TCPClient

end EtherSiaStack
