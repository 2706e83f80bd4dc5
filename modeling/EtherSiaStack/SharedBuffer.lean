/-
What a client does with the packets of others.

All sockets look at one buffer and one flag.  A client writes through its header
pointer before it knows whose packet is in the buffer, and answers every packet
from its peer that goes to a port other than its own.
-/

import EtherSiaStack.ClientCall
import EtherSiaStack.Reception

namespace EtherSiaStack

open ByteMemory IPv6Packet Trace

namespace TCPClient

open TCPHeader

/-! ### A packet of no concern to the client -/

/-- If the buffer still counts as received after the call, every byte of a
packet that is no segment of this connection is as it was. -/
def KeepsForeignPacket (client : TCPClient) (before after : EtherSia) : Prop :=
  before.bufferContainsReceived = true → ¬ client.OfConnection before →
    after.bufferContainsReceived = true →
      Agree after.buffer before.buffer 0 (packetEnd before.buffer)

/-- The retransmission timer of a connected client runs out on a packet that is
neither a segment of its connection nor taken for an old one, and that has a
byte where the flags of a segment are. -/
structure OverwritesFlags (client : TCPClient) (clock : HavePacketClock)
    (ether : EtherSia) : Prop where
  received : ether.bufferContainsReceived = true
  foreign : ¬ client.OfConnection ether
  notOld : ¬ client.TakenForOld ether
  connected : client.state = .connected
  inTime : client.timedOut = false
  outstanding : client.unAckLen > 0
  expires : client.TimerExpires clock
  triesLeft : client.nrtx ≠ UIP_MAXRTX
  reaches : 68 ≤ packetEnd ether.buffer
  differs : flags ether.buffer ≠ TCP_FLAG_ACK

theorem resetReply_answers {client : TCPClient} {ether : EtherSia}
    (noRst : hasFlag (flags ether.buffer) TCP_FLAG_RST = false) :
    (client.resetReply ether).bufferContainsReceived = false ∧
      (client.resetReply ether).sent ≠ ether.sent := by
  unfold resetReply
  rw [noRst, if_neg Bool.false_ne_true]
  exact ⟨rfl, by simp [EtherSia.send, EtherSia.modifyPacket, EtherSia.prepareReply]⟩

theorem resetReply_of_rst {client : TCPClient} {ether : EtherSia}
    (rst : hasFlag (flags ether.buffer) TCP_FLAG_RST = true) :
    client.resetReply ether = ether :=
  if_pos rst

theorem agree_setFlags_iff (packet : Memory) (value : UInt8) (last : Nat) :
    Agree (setFlags packet value) packet 0 last ↔
      ¬ (68 ≤ last ∧ flags packet ≠ value) := by
  constructor
  · rintro agree ⟨reaches, differs⟩
    have same : setFlags packet value 67 = packet 67 :=
      agree 67 (Nat.zero_le _) (by omega)
    rw [setFlags, u8_store_self] at same
    exact differs same.symm
  · intro harmless index _lower upper
    by_cases here : index = 67
    · subst here
      rw [setFlags, u8_store_self]
      by_contra differs
      exact harmless ⟨by omega, fun same => differs same.symm⟩
    · exact store_outside _ _ (by rw [List.length_singleton]; omega)

/-- What the retransmission check does to the packet in the buffer. -/
theorem checkForRetransmit_keeps_iff {client : TCPClient}
    (open_ : client.state ≠ .disconnected) (ether : EtherSia)
    (flagged : ether.bufferContainsReceived = true) :
    ((client.checkForRetransmit ether).2.bufferContainsReceived = true →
        Agree (client.checkForRetransmit ether).2.buffer ether.buffer 0
          (packetEnd ether.buffer)) ↔
      ¬ (client.Due ∧ client.state = .connected ∧ client.nrtx ≠ UIP_MAXRTX ∧
        68 ≤ packetEnd ether.buffer ∧ flags ether.buffer ≠ TCP_FLAG_ACK) := by
  by_cases due : client.Due
  · by_cases reports : client.state = .connected ∧ client.nrtx ≠ UIP_MAXRTX
    · have written := checkForRetransmit_of_connected due reports.1 reports.2 ether
      have still : (client.checkForRetransmit ether).2.bufferContainsReceived = true := by
        rw [written]
        exact flagged
      rw [written] at still ⊢
      rw [imp_iff_right still]
      refine (agree_setFlags_iff ether.buffer TCP_FLAG_ACK _).trans (not_congr ?_)
      exact ⟨fun both => ⟨due, reports.1, reports.2, both⟩, fun all => all.2.2.2⟩
    · have sends := checkForRetransmit_sends due open_
        (by by_contra both; exact reports ⟨by simpa using fun h => both (Or.inl h),
          fun last => both (Or.inr last)⟩) ether
      refine iff_of_true (fun still => ?_) fun all => reports ⟨all.2.1, all.2.2.1⟩
      rw [sends.received] at still
      cases still
  · rw [checkForRetransmit_of_not_due due]
    exact iff_of_true (fun _ => Agree.refl _ _ _) fun all => due all.1

theorem poll_keepsForeignPacket_iff (client : TCPClient) (clock : HavePacketClock)
    (ether : EtherSia) :
    client.KeepsForeignPacket ether (client.poll clock ether).2 ↔
      ¬ client.OverwritesFlags clock ether := by
  by_cases active : client.Active
  · rw [poll_of_active active]
    have sameSocket := client.ticked_toSocket clock
    by_cases flagged : ether.bufferContainsReceived = true
    · by_cases ours : client.OfConnection ether
      · exact iff_of_true (fun _ foreign => absurd ours foreign)
          fun overwrites => overwrites.foreign ours
      · have notOurs : ¬ (client.ticked clock).OfConnection ether := fun ofTicked =>
          ours (ofTicked.of_toSocket sameSocket.symm)
        by_cases old : client.TakenForOld ether
        · have oldTicked : (client.ticked clock).TakenForOld ether :=
            old.of_toSocket sameSocket
          rw [dispatchPacket_of_takenForOld flagged oldTicked]
          refine iff_of_true (fun _ _ still => ?_) fun overwrites => overwrites.notOld old
          cases rst : hasFlag (flags ether.buffer) TCP_FLAG_RST with
          | true =>
              rw [resetReply_of_rst rst]
              exact Agree.refl _ _ _
          | false =>
              rw [(resetReply_answers rst).1] at still
              cases still
        · have notOldTicked : ¬ (client.ticked clock).TakenForOld ether := fun ofTicked =>
            old (ofTicked.of_toSocket sameSocket.symm)
          rw [dispatchPacket_of_other flagged notOurs notOldTicked]
          have open_ : (client.ticked clock).dropped.state ≠ .disconnected := by
            simpa [dropped] using active.open_
          have keeps := checkForRetransmit_keeps_iff open_ ether flagged
          unfold KeepsForeignPacket
          rw [imp_iff_right flagged, imp_iff_right ours, keeps]
          refine not_congr ⟨?_, ?_⟩
          · rintro ⟨⟨outstanding, expired⟩, connected, triesLeft, reaches, differs⟩
            simp only [dropped, ticked_unAckLen, ticked_state, ticked_nrtx]
              at outstanding expired connected triesLeft
            exact ⟨flagged, ours, old, connected, active.inTime, outstanding,
              (ticked_timer_eq_zero_iff client clock outstanding).mp expired, triesLeft,
              reaches, differs⟩
          · intro overwrites
            have outstanding := overwrites.outstanding
            have expired := (ticked_timer_eq_zero_iff client clock outstanding).mpr
              overwrites.expires
            refine ⟨⟨?_, expired⟩, ?_, ?_, overwrites.reaches, overwrites.differs⟩
            · simpa [dropped] using outstanding
            · simpa [dropped] using overwrites.connected
            · simpa [dropped] using overwrites.triesLeft
    · exact iff_of_true (fun received => absurd received flagged)
        fun overwrites => flagged overwrites.received
  · rw [poll_of_idle active]
    refine iff_of_true (fun _ _ _ => Agree.refl _ _ _) fun overwrites => active ⟨?_, ?_⟩
    · rw [overwrites.connected]
      decide
    · exact overwrites.inTime

/-! ### A segment for another client -/

/-- Two clients of one interface connected to the same remote address and port
from different local ports. -/
structure Sharing (first second : TCPClient) : Prop where
  remoteAddress : first.remoteAddress = second.remoteAddress
  remotePort : first.remotePort = second.remotePort
  localPorts : first.localPort ≠ second.localPort

/-- The call sent nothing, and a client polled next sees the same packet. -/
structure Undisturbed (before after : EtherSia) : Prop where
  notAnswered : after.sent = before.sent
  notConsumed : after.bufferContainsReceived = true
  unchanged : after.buffer = before.buffer

/-- A client with a connection resets a segment for another port, unless it is a
SYN or a reset itself, and overwrites a SYN when its retransmission is due. -/
def Disturbs (client : TCPClient) (clock : HavePacketClock) (ether : EtherSia) : Prop :=
  client.Active ∧
    if hasFlag (flags ether.buffer) TCP_FLAG_SYN then
      client.unAckLen > 0 ∧ client.TimerExpires clock
    else hasFlag (flags ether.buffer) TCP_FLAG_RST = false

instance (client : TCPClient) (clock : HavePacketClock) (ether : EtherSia) :
    Decidable (client.Disturbs clock ether) :=
  inferInstanceAs (Decidable (client.Active ∧
    if hasFlag (flags ether.buffer) TCP_FLAG_SYN then
      client.unAckLen > 0 ∧ client.TimerExpires clock
    else hasFlag (flags ether.buffer) TCP_FLAG_RST = false))

theorem Undisturbed.refl {ether : EtherSia}
    (flagged : ether.bufferContainsReceived = true) : Undisturbed ether ether :=
  ⟨rfl, flagged, rfl⟩

/-- An expiry always leaves a SYN in the buffer disturbed. -/
theorem checkForRetransmit_disturbs {client : TCPClient} (due : client.Due)
    (open_ : client.state ≠ .disconnected) {ether : EtherSia}
    (syn : hasFlag (flags ether.buffer) TCP_FLAG_SYN = true) :
    ¬ Undisturbed ether (client.checkForRetransmit ether).2 := by
  intro undisturbed
  by_cases reports : client.state = .connected ∧ client.nrtx ≠ UIP_MAXRTX
  · have unchanged := undisturbed.unchanged
    rw [checkForRetransmit_of_connected due reports.1 reports.2 ether] at unchanged
    have overwritten : flags ether.buffer = TCP_FLAG_ACK := by
      have atFlags : setFlags ether.buffer TCP_FLAG_ACK 67 = ether.buffer 67 :=
        congrFun unchanged 67
      rw [setFlags, u8_store_self] at atFlags
      exact atFlags.symm
    rw [overwritten] at syn
    exact absurd syn (by decide)
  · have sends := checkForRetransmit_sends due open_
      (by by_contra both; exact reports ⟨by simpa using fun h => both (Or.inl h),
        fun last => both (Or.inr last)⟩) ether
    have still := undisturbed.notConsumed
    rw [sends.received] at still
    cases still

theorem poll_undisturbed_iff {client other : TCPClient} (sharing : Sharing client other)
    (clock : HavePacketClock) {ether : EtherSia}
    (flagged : ether.bufferContainsReceived = true) (theirs : other.OfConnection ether) :
    Undisturbed ether (client.poll clock ether).2 ↔ ¬ client.Disturbs clock ether := by
  have notOurs : ¬ client.OfConnection ether := fun ours =>
    sharing.localPorts (ours.localPort.symm.trans theirs.localPort)
  have sameSocket := client.ticked_toSocket clock
  have notOursTicked : ¬ (client.ticked clock).OfConnection ether := fun ofTicked =>
    notOurs (ofTicked.of_toSocket sameSocket.symm)
  by_cases active : client.Active
  · rw [poll_of_active active]
    cases syn : hasFlag (flags ether.buffer) TCP_FLAG_SYN with
    | false =>
        have old : client.TakenForOld ether :=
          { toUs := theirs.toUs
            fromPeer := theirs.fromPeer.trans sharing.remoteAddress.symm
            isTcp := theirs.isTcp
            remotePort := theirs.remotePort.trans sharing.remotePort.symm
            otherPort := fun ours => sharing.localPorts (ours.symm.trans theirs.localPort)
            noSyn := syn }
        rw [dispatchPacket_of_takenForOld flagged (old.of_toSocket sameSocket)]
        unfold Disturbs
        rw [syn, and_iff_right active, if_neg Bool.false_ne_true]
        cases rst : hasFlag (flags ether.buffer) TCP_FLAG_RST with
        | true =>
            rw [resetReply_of_rst rst]
            exact iff_of_true (Undisturbed.refl flagged) (by decide)
        | false =>
            refine iff_of_false (fun undisturbed => ?_) (not_not.mpr rfl)
            exact (resetReply_answers rst).2 undisturbed.notAnswered
    | true =>
        have notOld : ¬ (client.ticked clock).TakenForOld ether := fun old => by
          have noSyn := old.noSyn
          rw [syn] at noSyn
          cases noSyn
        rw [dispatchPacket_of_other flagged notOursTicked notOld]
        unfold Disturbs
        rw [syn, and_iff_right active, if_pos rfl]
        by_cases due : (client.ticked clock).dropped.Due
        · have outstanding : client.unAckLen > 0 := by simpa [dropped] using due.1
          refine iff_of_false (checkForRetransmit_disturbs due ?_ syn) (not_not.mpr ⟨?_, ?_⟩)
          · simpa [dropped] using active.open_
          · exact outstanding
          · exact (ticked_timer_eq_zero_iff client clock outstanding).mp due.2
        · rw [checkForRetransmit_of_not_due due]
          refine iff_of_true (Undisturbed.refl flagged) ?_
          rintro ⟨outstanding, expires⟩
          refine due ⟨by simpa [dropped] using outstanding, ?_⟩
          exact (ticked_timer_eq_zero_iff client clock outstanding).mpr expires
  · rw [poll_of_idle active]
    exact iff_of_true (Undisturbed.refl flagged) fun disturbs => active disturbs.1

end TCPClient

/-! ### Runs -/

variable {ι : Type} [DecidableEq ι]

/-- The call of `havePacket` in a step, if it makes one. -/
def OnHavePacket (property : ι → HavePacketClock → Station ι → Station ι → Prop)
    (taken : Taken (Station ι) (StationEvent ι)) : Prop :=
  ∀ index clock, taken.event = .clientHavePacket index clock →
    property index clock taken.before taken.after

theorem Station.step_havePacket {before after : Station ι} {index : ι}
    {clock : HavePacketClock}
    (stepped : before.step (.clientHavePacket index clock) = some after) :
    after = before.update index ((before.clients index).poll clock before.ether) :=
  (Option.some.inj stepped).symm

/-- In every run each call keeps a foreign packet as it was received, unless the
retransmission timer of a connected client runs out on it. -/
theorem run_keeps_foreign_packets_iff (station : Station ι)
    (events : List (StationEvent ι)) :
    Always Station.step station events
      (OnHavePacket fun index clock before after =>
        (before.clients index).KeepsForeignPacket before.ether after.ether ↔
          ¬ (before.clients index).OverwritesFlags clock before.ether) := by
  apply always_of_step
  rintro ⟨before, event, after⟩ stepped index clock rfl
  change before.step (.clientHavePacket index clock) = some after at stepped
  obtain rfl := Station.step_havePacket stepped
  exact (before.clients index).poll_keepsForeignPacket_iff clock before.ether

/-! Two clients, of which `true` names the second, and a server at port 80. -/

def exampleServerSocket (localPort : UInt16) : Socket where
  remoteAddress := IPv6Address.linkLocalOf (exampleMac 2)
  remoteMac := exampleMac 2
  remotePort := 80
  localPort := localPort
  writePos := -1

def twoClients : Station Bool where
  ether := EtherSia.configured (exampleMac 1) fun _ => 0
  clients := fun second =>
    TCPClient.construct (exampleServerSocket (if second then 20100 else 20000))

/-- A call during which the clock stands still. -/
def clockAt (now : UInt32) : HavePacketClock :=
  ⟨now, now, now, now⟩

/-- The SYN-ACK for port 20001, acknowledging sequence number 1000. -/
def synAckFirst : Frame :=
  exampleFrame 20 IP6_PROTO_TCP
    [0, 80, 0x4e, 0x21, 0, 0, 0x13, 0x88, 0, 0, 3, 0xe9, 0x50, 0x12, 1, 0xea, 0x4d, 2,
      0, 0] (by decide)

/-- A datagram for port 5353 with the data "abcdef". -/
def exampleDatagram : Frame :=
  exampleFrame 14 IP6_PROTO_UDP
    [0x10, 0, 0x14, 0xe9, 0, 14, 0xb5, 0xb7, 97, 98, 99, 100, 101, 102] (by decide)

/-- The first client connects, sends two bytes that stay unacknowledged, and is
polled until one tick of its timer is left; then the datagram arrives. -/
def untilLastTick : List (StationEvent Bool) :=
  [.connect false 1000 0, .receivePacket synAckFirst, .clientHavePacket false (clockAt 1),
    .writePayload 24 [0x68, 0x69], .clientSend false 2 false] ++
  ((List.range 11).map fun tick =>
    .clientHavePacket false (clockAt (250 * UInt32.ofNat (tick + 1)))) ++
  [.receivePacket exampleDatagram]

/-- The next call turns the last data byte into an ACK flag and leaves the buffer
marked as received. -/
theorem poll_overwrites_datagram :
    ¬ Always Station.step twoClients
      (untilLastTick ++ [.clientHavePacket false (clockAt 3000)])
      (OnHavePacket fun index _clock before after =>
        (before.clients index).KeepsForeignPacket before.ether after.ether) := by
  have returns : (run Station.step twoClients untilLastTick).isSome := by
    decide +kernel
  obtain ⟨station, reached⟩ := Option.isSome_iff_exists.mp returns
  have facts : (run Station.step twoClients untilLastTick).map (fun station =>
      let after := ((station.clients false).poll (clockAt 3000) station.ether).2
      (station.ether.bufferContainsReceived,
        decide ((station.clients false).OfConnection station.ether),
        after.bufferContainsReceived, packetEnd station.ether.buffer,
        station.ether.buffer 67, after.buffer 67)) =
      some (true, false, true, 68, 102, 0x10) := by
    decide +kernel
  rw [reached, Option.map_some, Option.some_inj] at facts
  simp only [Prod.mk.injEq, decide_eq_false_iff_not] at facts
  obtain ⟨flagged, foreign, still, packetEnds, wasData, isAck⟩ := facts
  rw [always_append_of_run reached, always_cons_of_step rfl]
  rintro ⟨_, keeps, _⟩
  have unchanged := keeps false _ rfl flagged foreign still 67 (by decide)
    (by rw [packetEnds]; decide)
  exact absurd (isAck.symm.trans (unchanged.trans wasData)) (by decide)

/-- In every run, whatever the order of frames and calls, a call on one client
leaves a segment for another alone exactly when it does not take it for an old
packet and no retransmission is due. -/
theorem run_isolates_clients_iff (station : Station ι) (events : List (StationEvent ι)) :
    Always Station.step station events
      (OnHavePacket fun index clock before after =>
        ∀ other, (before.clients index).Sharing (before.clients other) →
          before.ether.bufferContainsReceived = true →
          (before.clients other).OfConnection before.ether →
            (TCPClient.Undisturbed before.ether after.ether ↔
              ¬ (before.clients index).Disturbs clock before.ether)) := by
  apply always_of_step
  rintro ⟨before, event, after⟩ stepped index clock rfl other sharing flagged theirs
  change before.step (.clientHavePacket index clock) = some after at stepped
  obtain rfl := Station.step_havePacket stepped
  exact TCPClient.poll_undisturbed_iff sharing clock flagged theirs

/-- The SYN-ACK for port 20101, acknowledging sequence number 2000. -/
def synAckSecond : Frame :=
  exampleFrame 20 IP6_PROTO_TCP
    [0, 80, 0x4e, 0x85, 0, 0, 0x17, 0x70, 0, 0, 7, 0xd1, 0x50, 0x12, 1, 0xea, 0x44, 0xce,
      0, 0] (by decide)

/-- Two bytes of data for port 20101. -/
def dataSecond : Frame :=
  exampleFrame 22 IP6_PROTO_TCP
    [0, 80, 0x4e, 0x85, 0, 0, 0x17, 0x71, 0, 0, 7, 0xd1, 0x50, 0x18, 1, 0xea, 0xdc, 0x5b,
      0, 0, 0x68, 0x69] (by decide)

/-- Both clients connect, and data for the second arrives. -/
def bothConnected : List (StationEvent Bool) :=
  [.connect false 1000 0, .receivePacket synAckFirst, .clientHavePacket false (clockAt 1),
    .connect true 2000 2, .receivePacket synAckSecond, .clientHavePacket true (clockAt 3),
    .receivePacket dataSecond]

/-- The first client, polled first, resets the connection of the second. -/
theorem poll_resets_other_client :
    ¬ Always Station.step twoClients
      (bothConnected ++ [.clientHavePacket false (clockAt 4)])
      (OnHavePacket fun index _clock before after =>
        ∀ other, (before.clients index).Sharing (before.clients other) →
          before.ether.bufferContainsReceived = true →
          (before.clients other).OfConnection before.ether →
            TCPClient.Undisturbed before.ether after.ether) := by
  have returns : (run Station.step twoClients bothConnected).isSome := by
    decide +kernel
  obtain ⟨station, reached⟩ := Option.isSome_iff_exists.mp returns
  have facts : (run Station.step twoClients bothConnected).map (fun station =>
      decide (station.ether.bufferContainsReceived = true ∧
        (station.clients true).OfConnection station.ether ∧
          (station.clients false).remoteAddress = (station.clients true).remoteAddress ∧
            (station.clients false).remotePort = (station.clients true).remotePort ∧
              (station.clients false).localPort ≠ (station.clients true).localPort ∧
                (station.clients false).Disturbs (clockAt 4) station.ether)) =
      some true := by
    decide +kernel
  rw [reached, Option.map_some, Option.some_inj, decide_eq_true_eq] at facts
  obtain ⟨flagged, theirs, remoteAddress, remotePort, localPorts, disturbs⟩ := facts
  have sharing : (station.clients false).Sharing (station.clients true) :=
    ⟨remoteAddress, remotePort, localPorts⟩
  rw [always_append_of_run reached, always_cons_of_step rfl]
  rintro ⟨_, isolates, _⟩
  have undisturbed := isolates false _ rfl true sharing flagged theirs
  exact (TCPClient.poll_undisturbed_iff sharing _ flagged theirs).mp undisturbed disturbs

end EtherSiaStack
