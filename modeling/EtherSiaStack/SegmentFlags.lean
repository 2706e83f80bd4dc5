/-
The flags of the data segments of a client.

`Socket::send` ends in `TCPClient::sendInternal`, which fills in every field of the TCP
header but the flags.  A data segment therefore leaves with the octet that stands at the
place of the flags in the shared buffer.  An application that sends at once when a call
asks it to sends an ACK; any other may send what a received frame has left there.
-/

import EtherSiaStack.Arrival
import EtherSiaStack.ClientTimer
import EtherSiaStack.SharedBuffer

namespace EtherSiaStack

open ByteMemory IPv6Packet Trace

/-- ACK, and none of SYN, FIN, RST and URG. -/
def AreDataFlags (flags : UInt8) : Prop :=
  hasFlag flags TCP_FLAG_ACK = true ∧
    hasFlag flags (TCP_FLAG_SYN ||| TCP_FLAG_FIN ||| TCP_FLAG_RST ||| TCP_FLAG_URG) = false

instance (flags : UInt8) : Decidable (AreDataFlags flags) :=
  inferInstanceAs (Decidable (_ ∧ _))

/-- One frame is sent, with the flags of a data segment. -/
def SendsDataFlags (before after : EtherSia) : Prop :=
  ∃ octets, after.sent = before.sent ++ [octets] ∧ AreDataFlags (frameFlags octets)

/-- The octets of a frame, short as it may be, are those of the packet, and zero behind. -/
theorem frameFlags_packetOctets (packet : Memory) :
    frameFlags (packetOctets packet) =
      if 68 ≤ (length packet).toNat then TCPHeader.flags packet else 0 := by
  split
  · rename_i long
    exact ofOctets_bytesAt packet (length packet).toNat 67 (Nat.zero_le 67) (by omega)
  · rename_i short
    change (packetOctets packet).getD 67 0 = 0
    apply List.getD_eq_default
    rw [packetOctets, bytesAt_length]
    omega

namespace TCPClient

open TCPHeader

/-! ### A data segment -/

theorem send_buffer (client : TCPClient) (length : UInt16) (isReply : Bool)
    (ether : EtherSia) :
    let packet := setDataOffset (client.toSocket.prepare isReply ether).buffer 0x60
    (client.send length isReply ether).2.buffer =
      client.fillTCPHeader (setPayloadLength packet (receiveHeaderLen packet + length)) := by
  unfold send sendInternal
  split <;> rfl

theorem send_sent (client : TCPClient) (length : UInt16) (isReply : Bool)
    (ether : EtherSia) : (client.send length isReply ether).2.sent =
      ether.sent ++ [packetOctets (client.send length isReply ether).2.buffer] := by
  have prepared : (client.toSocket.prepare isReply ether).sent = ether.sent := by
    cases isReply <;> rfl
  rw [← prepared]
  unfold send sendInternal
  split <;> rfl

/-- `sendInternal` leaves the flags that it finds. -/
theorem send_flags (client : TCPClient) (length : UInt16) (isReply : Bool)
    (ether : EtherSia) :
    flags (client.send length isReply ether).2.buffer = flags ether.buffer := by
  have kept := client.toSocket.prepare_payload isReply ether 68 67 (by decide) (by decide)
  rw [client.send_buffer, (client.fillTCPHeader_hasHeader _).flags]
  simpa [headerOf] using kept

theorem send_length (client : TCPClient) (length : UInt16) (isReply : Bool)
    (ether : EtherSia) :
    IPv6Packet.length (client.send length isReply ether).2.buffer = 78 + length := by
  rw [client.send_buffer, IPv6Packet.length, fillTCPHeader_payloadLength]
  simp only [IPv6Packet.payloadLength, setPayloadLength, u16At_store_self,
    receiveHeaderLen_setDataOffset]
  rw [← UInt16.add_assoc]
  rfl

/-- A segment has the flags of a data segment exactly when the buffer has them before and
the length does not wrap to that of a frame without flags. -/
theorem send_sendsDataFlags_iff (client : TCPClient) (length : UInt16) (isReply : Bool)
    (ether : EtherSia) : SendsDataFlags ether (client.send length isReply ether).2 ↔
      AreDataFlags (flags ether.buffer) ∧ 68 ≤ (78 + length).toNat := by
  have isFlags : frameFlags (packetOctets (client.send length isReply ether).2.buffer) =
      if 68 ≤ (78 + length).toNat then flags ether.buffer else 0 := by
    rw [frameFlags_packetOctets, client.send_length, client.send_flags]
  have sends : SendsDataFlags ether (client.send length isReply ether).2 ↔
      AreDataFlags (frameFlags
        (packetOctets (client.send length isReply ether).2.buffer)) := by
    constructor
    · rintro ⟨octets, sent, areFlags⟩
      rw [client.send_sent] at sent
      rw [List.singleton_inj.mp (List.append_cancel_left sent)]
      exact areFlags
    · exact fun areFlags => ⟨_, client.send_sent length isReply ether, areFlags⟩
  rw [sends, isFlags]
  split
  · rename_i long
    exact (and_iff_left long).symm
  · rename_i short
    exact iff_of_false (by decide) fun ⟨_, long⟩ => short long

/-! ### A call that asks for data -/

/-- The connection can carry data. -/
structure CarriesData (client : TCPClient) : Prop where
  connected : client.state = .connected
  inTime : client.timedOut = false

/-- `synacked()`, new data or `rexmit()`. -/
def AsksForData (client : TCPClient) : Prop :=
  client.appliFlags.connected = true ∨ client.appliFlags.newData = true ∨
    client.appliFlags.rexmit = true

theorem carriesData_of_send {client : TCPClient} {length : UInt16} {isReply : Bool}
    {ether : EtherSia} (carries : (client.send length isReply ether).1.CarriesData) :
    client.CarriesData := by
  unfold send sendInternal at carries
  split at carries
  · exact carries
  · exact ⟨carries.connected, carries.inTime⟩

theorem not_asksForData_ticked (client : TCPClient) (clock : HavePacketClock) :
    ¬ (client.ticked clock).AsksForData := by
  obtain ⟨_, reset, _, _, same⟩ := client.ticked_eq clock
  unfold AsksForData
  rw [same]
  simp [AppliFlags.none]

theorem not_asksForData_ackTest {client : TCPClient} (noData : ¬ client.AsksForData)
    (packet : Memory) : ¬ (client.ackTest packet).AsksForData := by
  unfold ackTest
  split
  · simp [AsksForData, AppliFlags.none]
  · exact noData

/-- Where the call asks for data over an open connection, the flags are those of an ACK. -/
def LeavesAck (after : TCPClient × EtherSia) : Prop :=
  after.1.AsksForData → after.1.CarriesData → flags after.2.buffer = TCP_FLAG_ACK

theorem checkForRetransmit_leavesAck {client : TCPClient} (noData : ¬ client.AsksForData)
    (ether : EtherSia) : LeavesAck (client.checkForRetransmit ether) := by
  by_cases due : client.Due
  · unfold checkForRetransmit
    rw [if_pos ⟨due.1, due.2⟩]
    dsimp only
    split
    · intro _ carries
      exact absurd carries.inTime (by simp)
    · split
      · rename_i state
        exact fun _ carries => absurd (state.symm.trans carries.connected) (by decide)
      · exact fun _ _ => u8_store_self ether.buffer 67 TCP_FLAG_ACK
      · rename_i state
        exact fun _ carries => absurd (state.symm.trans carries.connected) (by decide)
      · exact fun asks => absurd asks noData
  · rw [checkForRetransmit_of_not_due due]
    exact fun asks => absurd asks noData

theorem foundSegment_leavesAck {client : TCPClient} (noData : ¬ client.AsksForData)
    (ether : EtherSia) : LeavesAck (client.foundSegment ether) := by
  have acked := not_asksForData_ackTest noData ether.buffer
  unfold foundSegment
  split
  · exact fun _ carries => absurd carries.connected (by simp)
  · split
    · exact fun _ _ => tcpSendNoDataReply_flags _ _ ether
    · dsimp only
      split
      · unfold waitSynAckSegment
        split
        · exact fun _ _ => tcpSendNoDataReply_flags _ _ ether
        · exact fun _ carries => absurd carries.connected (by simp)
      · unfold connectedSegment
        split
        · split
          · exact checkForRetransmit_leavesAck acked ether
          · exact fun _ carries => absurd carries.connected (by simp)
        · split
          · exact fun _ _ => tcpSendNoDataReply_flags _ _ ether
          · exact checkForRetransmit_leavesAck acked ether
      · unfold lastAckSegment
        split
        · exact fun _ carries => absurd carries.connected (by simp)
        · exact checkForRetransmit_leavesAck acked ether
      · exact fun _ _ => tcpSendNoDataReply_flags _ _ ether

theorem poll_leavesAck (client : TCPClient) (clock : HavePacketClock) (ether : EtherSia) :
    LeavesAck (client.poll clock ether) := by
  have noData := client.not_asksForData_ticked clock
  refine poll_cases client clock ether (motive := LeavesAck) ?_ ?_ ?_ ?_
  · exact fun _ _ carries => absurd carries.connected (by simp)
  · intro _ _ _
    have counted : ¬ (client.ticked clock).counted.AsksForData := noData
    exact foundSegment_leavesAck counted ether
  · exact fun _ _ _ asks => absurd asks noData
  · intro _ nrcvd ndropped
    have counted : ¬ ({ client.ticked clock with
        nrcvd := nrcvd, ndropped := ndropped } : TCPClient).AsksForData := noData
    exact checkForRetransmit_leavesAck counted ether

end TCPClient

/-! ### Runs -/

section Runs

variable {ι : Type} [DecidableEq ι]

/-- Where the step sends data over an open connection of the client, the property holds of
the length and of the interface before and behind. -/
def OnDataSend (index : ι) (property : UInt16 → EtherSia → EtherSia → Prop)
    (taken : Taken (Station ι) (StationEvent ι)) : Prop :=
  ∀ length isReply, taken.event = .clientSend index length isReply →
    (taken.before.clients index).CarriesData → 0 < length →
      property length taken.before.ether taken.after.ether

theorem Station.step_sendsDataFlags {index : ι}
    {taken : Taken (Station ι) (StationEvent ι)}
    (stepped : taken.before.step taken.event = some taken.after) {length : UInt16}
    {isReply : Bool} (called : taken.event = .clientSend index length isReply) :
    SendsDataFlags taken.before.ether taken.after.ether ↔
      AreDataFlags (TCPHeader.flags taken.before.ether.buffer) ∧
        68 ≤ (78 + length).toNat := by
  obtain ⟨before, event, after⟩ := taken
  dsimp only at called
  subst called
  have sent : before.update index
      ((before.clients index).send length isReply before.ether) = after :=
    Option.some.inj stepped
  dsimp only
  rw [← sent, update_ether]
  exact (before.clients index).send_sendsDataFlags_iff length isReply before.ether

/-- The call asks the application for data. -/
structure AsksIn (index : ι) (taken : Taken (Station ι) (StationEvent ι)) : Prop where
  called : ∃ clock, taken.event = .clientHavePacket index clock
  asks : (taken.after.clients index).AsksForData

/-- A `print`, which writes behind the header of a segment, or a `send`. -/
def PrintsOrSends : StationEvent ι → Prop
  | .writePayload offset _ => 24 ≤ offset
  | .clientSend _ _ _ => True
  | _ => False

/-- Behind the last call that asked for data the application has only printed and sent. -/
def AtOnce (index : ι) (history : List (Taken (Station ι) (StationEvent ι))) : Prop :=
  ∃ earlier call since, history = earlier ++ call :: since ∧ AsksIn index call ∧
    ∀ taken ∈ since, PrintsOrSends taken.event

/-- Neither touches the flags in the buffer, nor opens a connection. -/
theorem step_printsOrSends (index : ι) {before after : Station ι} {event : StationEvent ι}
    (stepped : before.step event = some after) (printsOrSends : PrintsOrSends event) :
    TCPHeader.flags after.ether.buffer = TCPHeader.flags before.ether.buffer ∧
      ((after.clients index).CarriesData → (before.clients index).CarriesData) := by
  cases event with
  | writePayload offset bytes =>
      obtain rfl := Option.some.inj stepped
      have behind : 24 ≤ offset := printsOrSends
      have outside : 67 < IPv6Packet.payload + offset := by
        change 67 < 54 + offset
        omega
      exact ⟨store_before before.ether.buffer bytes outside, id⟩
  | clientSend other length isReply =>
      obtain rfl := Option.some.inj stepped
      refine ⟨(before.clients other).send_flags length isReply before.ether, ?_⟩
      intro carries
      by_cases same : index = other
      · subst same
        rw [Station.update_clients_same] at carries
        exact TCPClient.carriesData_of_send carries
      · rw [before.update_clients_other _ same] at carries
        exact carries
  | _ => exact printsOrSends.elim

/-- While the application has only printed and sent since, the flags in the buffer are
those of an ACK. -/
theorem step_atOnce {index : ι} (history : List (Taken (Station ι) (StationEvent ι)))
    (taken : Taken (Station ι) (StationEvent ι))
    (stepped : taken.before.step taken.event = some taken.after)
    (kept : AtOnce index history → (taken.before.clients index).CarriesData →
      TCPHeader.flags taken.before.ether.buffer = TCP_FLAG_ACK) :
    AtOnce index (history ++ [taken]) → (taken.after.clients index).CarriesData →
      TCPHeader.flags taken.after.ether.buffer = TCP_FLAG_ACK := by
  rintro ⟨earlier, call, since, split, asksIn, harmless⟩ carries
  rcases List.eq_nil_or_concat' since with rfl | ⟨since, last, rfl⟩
  · -- the call itself
    obtain ⟨_, isCall⟩ := List.append_inj' split rfl
    obtain rfl := List.singleton_inj.mp isCall
    obtain ⟨before, event, after⟩ := taken
    obtain ⟨⟨clock, isEvent⟩, asks⟩ := asksIn
    dsimp only at isEvent stepped carries asks ⊢
    subst isEvent
    obtain rfl := Station.step_havePacket stepped
    rw [Station.update_clients_same] at carries asks
    exact (before.clients index).poll_leavesAck clock before.ether asks carries
  · -- a print or a send behind it
    rw [← List.cons_append, ← List.append_assoc] at split
    obtain ⟨rfl, isLast⟩ := List.append_inj' split rfl
    obtain rfl := List.singleton_inj.mp isLast
    obtain ⟨sameFlags, carriedBefore⟩ := step_printsOrSends index stepped
      (harmless taken (List.mem_append_right _ List.mem_cons_self))
    rw [sameFlags]
    refine kept ⟨earlier, call, since, rfl, asksIn, fun other member => ?_⟩
      (carriedBefore carries)
    exact harmless other (List.mem_append_left _ member)

/-- The data segments of a run have their flags right exactly when the buffer does before
each of them, whatever it holds; and it does where the application sends at once. -/
theorem run_sends_data_flags (station : Station ι) (index : ι)
    (events : List (StationEvent ι)) :
    (Always Station.step station events
        (OnDataSend index fun _length before after => SendsDataFlags before after) ↔
      Always Station.step station events (OnDataSend index fun length before _after =>
        AreDataFlags (TCPHeader.flags before.buffer) ∧ 68 ≤ (78 + length).toNat)) ∧
    ((∀ earlier taken later, trace Station.step station events = earlier ++ taken :: later →
        OnDataSend index (fun length _before _after =>
          AtOnce index earlier ∧ 68 ≤ (78 + length).toNat) taken) →
      Always Station.step station events
        (OnDataSend index fun _length before after => SendsDataFlags before after)) := by
  refine ⟨⟨fun sends => ?_, fun ready => ?_⟩, fun atOnce => ?_⟩
  · intro taken member length isReply called carries data
    exact (Station.step_sendsDataFlags (step_of_mem_trace member) called).mp
      (sends taken member length isReply called carries data)
  · intro taken member length isReply called carries data
    exact (Station.step_sendsDataFlags (step_of_mem_trace member) called).mpr
      (ready taken member length isReply called carries data)
  · have nothing : ¬ AtOnce index ([] : List (Taken (Station ι) (StationEvent ι))) := by
      rintro ⟨earlier, call, since, split, _⟩
      exact absurd split.symm (List.append_ne_nil_of_right_ne_nil _ (List.cons_ne_nil _ _))
    obtain ⟨_, kept⟩ := history_invariant
      (fun history (station : Station ι) => AtOnce index history →
        (station.clients index).CarriesData →
          TCPHeader.flags station.ether.buffer = TCP_FLAG_ACK)
      step_atOnce events [] (fun none => absurd none nothing)
    intro taken member length isReply called carries data
    obtain ⟨earlier, later, split⟩ := List.append_of_mem member
    obtain ⟨sendsAtOnce, fits⟩ := atOnce earlier taken later split length isReply called
      carries data
    have isAck := kept earlier taken later split sendsAtOnce carries
    refine (Station.step_sendsDataFlags (step_of_mem_trace member) called).mpr ⟨?_, fits⟩
    rw [isAck]
    decide

end Runs

/-- The connection is open, and a datagram arrives before the application sends. -/
def untilDatagram : List (StationEvent Bool) :=
  [.connect false 1000 0, .receivePacket synAckFirst, .clientHavePacket false (clockAt 1),
    .receivePacket exampleDatagram, .clientHavePacket false (clockAt 2)]

/-- The last octet of the datagram is sent as the flags of the segment. -/
theorem segment_with_flags_of_datagram :
    ¬ Always Station.step twoClients (untilDatagram ++ [.clientSend false 2 false])
      (OnDataSend false fun _length before after => SendsDataFlags before after) := by
  have returns : (run Station.step twoClients untilDatagram).map (fun station =>
      decide ((station.clients false).state = .connected ∧
        (station.clients false).timedOut = false ∧
          TCPHeader.flags station.ether.buffer = 102)) = some true := by
    decide +kernel
  obtain ⟨station, reached, facts⟩ := Option.map_eq_some_iff.mp returns
  obtain ⟨connected, inTime, isFlags⟩ := of_decide_eq_true facts
  rw [always_append_of_run reached, always_cons_of_step rfl]
  rintro ⟨_, sends, _⟩
  have areFlags := (TCPClient.send_sendsDataFlags_iff _ 2 false station.ether).mp
    (sends 2 false rfl ⟨connected, inTime⟩ (by decide))
  rw [isFlags] at areFlags
  exact absurd areFlags.1 (by decide)

end EtherSiaStack
