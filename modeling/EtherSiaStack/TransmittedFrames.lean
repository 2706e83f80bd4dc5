/-
The frames of a run.

Every frame a station sends in a run is a valid packet of exactly its own
length, provided that replies answer an accepted packet and that the payload
length of each packet covers its checksum field.  The code checks neither an
echo request nor the length argument of `send` for the second condition, so the
reply to an echo request shorter than the ICMPv6 header is not valid.
-/

import EtherSiaStack.Transmission

namespace EtherSiaStack

open ByteMemory IPv6Packet Trace

namespace EtherSia

/-! ### Router advertisements touch no packet -/

/-- The two states differ at most in the addresses an advertisement configures. -/
def ConfiguresOnly (before after : EtherSia) : Prop :=
  ∃ globalAddress routerMac dnsServerAddress,
    after = { before with
      globalAddress := globalAddress
      routerMac := routerMac
      dnsServerAddress := dnsServerAddress }

theorem raOption_configuresOnly (ether : EtherSia) (ptr : Nat) :
    ConfiguresOnly ether (ether.raOption ptr) := by
  unfold raOption icmp6ProcessPrefix
  split_ifs
  all_goals exact ⟨_, _, _, rfl⟩

theorem ConfiguresOnly.trans {before between after : EtherSia}
    (first : ConfiguresOnly before between) (second : ConfiguresOnly between after) :
    ConfiguresOnly before after := by
  obtain ⟨_, _, _, rfl⟩ := first
  obtain ⟨_, _, _, rfl⟩ := second
  exact ⟨_, _, _, rfl⟩

/-- Each pass of the walk only configures, so the whole walk does. -/
theorem icmp6ProcessRA_configuresOnly {ether after : EtherSia}
    (returned : ether.icmp6ProcessRA = some after) : ConfiguresOnly ether after := by
  unfold icmp6ProcessRA at returned
  split at returned
  · cases returned
    exact ⟨_, _, _, rfl⟩
  · refine FuelLoop.run_invariant (fun walk => ConfiguresOnly ether walk.ether)
      (ConfiguresOnly ether) ?_ ?_ ⟨_, _, _, rfl⟩ returned
    · intro walk next configures pass
      unfold raPass at pass
      split at pass
      · cases pass
        exact configures.trans (raOption_configuresOnly walk.ether walk.ptr)
      · cases pass
    · intro walk result configures pass
      unfold raPass at pass
      split at pass
      · cases pass
      · cases pass
        exact configures

/-! ### Receiving -/

/-- An echo request is long enough to carry the header of its reply. -/
def EchoFits (ether : EtherSia) : Prop :=
  protocol ether.buffer = IP6_PROTO_ICMP6 →
    ICMPv6Packet.type ether.buffer = ICMP6_TYPE_ECHO →
      4 ≤ (payloadLength ether.buffer).toNat

theorem icmp6ProcessPacket_effect {ether after : EtherSia} {handled : Bool}
    (header : HeaderValid ether.buffer)
    (isIcmp : protocol ether.buffer = IP6_PROTO_ICMP6) (fits : ether.EchoFits)
    (returned : ether.icmp6ProcessPacket = some (handled, after)) :
    Effect ether after := by
  unfold icmp6ProcessPacket at returned
  split_ifs at returned with notOurs isSolicitation isEcho isRouter
  · cases returned
    exact Or.inl (Quiet.refl ether)
  · cases returned
    exact effect_of_eq_or_transmits (icmp6NSReply_transmits header)
  · cases returned
    exact Or.inr (icmp6EchoReply_transmits header (fits isIcmp isEcho))
  · obtain ⟨advertised, walked, same⟩ := Option.map_eq_some_iff.mp returned
    cases same
    obtain ⟨_, _, _, rfl⟩ := icmp6ProcessRA_configuresOnly walked
    exact Or.inl ⟨rfl, rfl, id⟩
  · cases returned
    exact Or.inl (Quiet.refl ether)

theorem dispatchReceived_effect {ether after : EtherSia} {len result : UInt16}
    (header : HeaderValid ether.buffer) (fits : ether.EchoFits)
    (returned : ether.dispatchReceived len = some (result, after)) :
    Effect ether after := by
  unfold dispatchReceived at returned
  split at returned
  · rename_i isIcmp
    obtain ⟨⟨handled, processed⟩, walked, same⟩ := Option.map_eq_some_iff.mp returned
    have afterSame : processed = after := by
      cases handled <;> exact (Prod.mk.inj same).2
    subst afterSame
    exact icmp6ProcessPacket_effect header isIcmp fits walked
  · cases returned
    exact Or.inl (Quiet.refl ether)

theorem receivePacket_effect {ether after : EtherSia} {frame : Frame} {len : UInt16}
    (fits : (ether.loadFrame frame).EchoFits)
    (returned : ether.receivePacket frame = some (len, after)) :
    Effect ether after := by
  have silent (next : EtherSia) (sent : next.sent = ether.sent)
      (localMac : next.localMac = ether.localMac)
      (cleared : next.bufferContainsReceived = false) : Effect ether next :=
    Or.inl ⟨sent, localMac, fun _ flagged => by rw [cleared] at flagged; cases flagged⟩
  unfold receivePacket at returned
  dsimp only at returned
  split at returned
  · split at returned
    · cases returned
      exact silent _ rfl rfl rfl
    · rename_i accepted
      have valid : isValid (ether.loadFrame frame).buffer = true := by
        simp only [acceptsPacket, Bool.not_eq_true', Bool.not_eq_false,
          Bool.and_eq_true] at accepted
        exact accepted.1
      have header := headerValid_of_isValid valid
      let accepted := { ether.loadFrame frame with bufferContainsReceived := true }
      have acceptedHeader : HeaderValid accepted.buffer := header
      have dispatched := dispatchReceived_effect acceptedHeader fits returned
      rcases dispatched with quiet | transmits
      · exact Or.inl ⟨quiet.sent, quiet.localMac,
          fun _ => quiet.received fun _ => header⟩
      · exact Or.inr (transmits.of_eq rfl rfl)
  · cases returned
    exact silent _ rfl rfl rfl

end EtherSia

/-! ### Runs -/

variable {ι : Type}

/-- Replies are made to an accepted packet: the buffer holds one. -/
def RepliesToReceived (taken : Taken (Station ι) (StationEvent ι)) : Prop :=
  match taken.event with
  | .tcpSendRSTReply => taken.before.ether.bufferContainsReceived = true
  | .udpSend _ _ isReply =>
      isReply = true → taken.before.ether.bufferContainsReceived = true
  | .serverSend _ _ isReply =>
      isReply = true → taken.before.ether.bufferContainsReceived = true
  | .clientSend _ _ isReply =>
      isReply = true → taken.before.ether.bufferContainsReceived = true
  | _ => True

/-- The payload length of the packet the step sends covers the checksum field. -/
def ChecksumCovered (taken : Taken (Station ι) (StationEvent ι)) : Prop :=
  match taken.event with
  | .receivePacket frame => (taken.before.ether.loadFrame frame).EchoFits
  | .udpSend _ length _ => length.toNat ≤ 65527
  | .serverSend _ length _ => TCPLengthFits length
  | .clientSend _ length _ => TCPLengthFits length
  | _ => True

/-- Everything the step hands to `sendFrame` is one frame, and when the packet
fits the buffer the frame is valid, of its own length and from our MAC. -/
def SendsValidFrame (taken : Taken (Station ι) (StationEvent ι)) : Prop :=
  taken.after.ether.sent = taken.before.ether.sent ∨
    ∃ octets, taken.after.ether.sent = taken.before.ether.sent ++ [octets] ∧
      (54 + (payloadLength taken.after.ether.buffer).toNat ≤ 600 →
        FrameOk taken.before.ether.localMac octets)

theorem Effect.sendsValidFrame {before after : Station ι} (event : StationEvent ι)
    (effect : Effect before.ether after.ether) :
    SendsValidFrame ⟨before, event, after⟩ := by
  rcases effect with quiet | transmits
  · exact Or.inl quiet.sent
  · refine Or.inr ⟨_, transmits.sent, fun fits => ?_⟩
    change 54 + (payloadLength after.ether.buffer).toNat ≤ 600 at fits
    have short : packetEnd after.ether.buffer < 65536 := by
      change 54 + (payloadLength after.ether.buffer).toNat < 65536
      omega
    exact frameOk_of_packet transmits.valid transmits.source short

variable [DecidableEq ι]

/-- Step lemma: one call sends nothing or one valid packet. -/
theorem Station.step_effect (taken : Taken (Station ι) (StationEvent ι))
    (stepped : taken.before.step taken.event = some taken.after)
    (header : ReceivedHeader taken.before.ether) (replies : RepliesToReceived taken)
    (covered : ChecksumCovered taken) :
    Effect taken.before.ether taken.after.ether := by
  obtain ⟨before, event, after⟩ := taken
  change before.step event = some after at stepped
  change Effect before.ether after.ether
  cases event with
  | receivePacket frame =>
      obtain ⟨⟨len, received⟩, returned, rfl⟩ := Option.map_eq_some_iff.mp stepped
      exact EtherSia.receivePacket_effect covered returned
  | rejectPacket =>
      cases stepped
      exact EtherSia.rejectPacket_effect header
  | tcpSendRSTReply =>
      cases stepped
      exact Or.inr (EtherSia.tcpSendRSTReply_transmits (header replies))
  | icmp6SendNS target source =>
      cases stepped
      exact Or.inr (EtherSia.icmp6SendNS_transmits before.ether target source)
  | icmp6SendRS =>
      cases stepped
      exact Or.inr (EtherSia.icmp6SendRS_transmits before.ether)
  | configure globalAddress dnsServerAddress routerMac autoConfigurationEnabled =>
      cases stepped
      exact Or.inl ⟨rfl, rfl, id⟩
  | writePayload offset bytes =>
      cases stepped
      have above : 15 ≤ IPv6Packet.payload + offset :=
        Nat.le_trans (by decide) (Nat.le_add_right _ _)
      have agree : Agree (store before.ether.buffer (IPv6Packet.payload + offset) bytes)
          before.ether.buffer 12 15 := agree_store _ _ (Or.inl above)
      exact Or.inl ⟨rfl, rfl, fun header flagged => (header flagged).congr agree⟩
  | udpSend socket length isReply =>
      cases stepped
      exact Or.inr (UDPSocket.send_transmits socket
        (fun reply => header (replies reply)) covered)
  | serverHavePacket socket randomNumber =>
      cases stepped
      exact TCPServer.havePacket_effect socket randomNumber header
  | serverSend socket length isReply =>
      cases stepped
      exact Or.inr (TCPServer.send_transmits socket
        (fun reply => header (replies reply)) covered)
  | setRemoteAddress index socket =>
      cases stepped
      exact Or.inl (Quiet.refl _)
  | connect index randomNumber now =>
      cases stepped
      exact Or.inr (TCPClient.connect_transmits _ randomNumber now before.ether)
  | clientHavePacket index clock =>
      cases stepped
      exact TCPClient.poll_effect _ clock header
  | clientSend index length isReply =>
      cases stepped
      exact Or.inr (TCPClient.send_transmits _
        (fun reply => header (replies reply)) covered)

def exampleMac (last : UInt8) : MACAddress :=
  ⟨![2, 0, 0, 0, 0, last]⟩

/-- A station without TCP clients, with a zeroed buffer. -/
def exampleStation : Station Empty where
  ether := EtherSia.configured (exampleMac 1) fun _ => 0
  clients := Empty.elim

/-- A frame from 02:00:00:00:00:02 to the station above, between the link-local
addresses of both, with the length field and the payload given. -/
def exampleFrame (declared : UInt16) (protocol : UInt8) (payload : List UInt8)
    (fits : payload.length ≤ 546) : Frame where
  octets := [2, 0, 0, 0, 0, 1, 2, 0, 0, 0, 0, 2, 0x86, 0xdd, 0x60, 0, 0, 0,
    high16 declared, low16 declared, protocol, 64,
    0xfe, 0x80, 0, 0, 0, 0, 0, 0, 0, 0, 0, 0xff, 0xfe, 0, 0, 2,
    0xfe, 0x80, 0, 0, 0, 0, 0, 0, 0, 0, 0, 0xff, 0xfe, 0, 0, 1] ++ payload
  fits := by
    rw [List.length_append]
    exact Nat.add_le_add_left fits 54

/-- An echo request with two data bytes. -/
def echoRequest : Frame :=
  exampleFrame 10 IP6_PROTO_ICMP6 [128, 0, 0x0a, 0x18, 0x12, 0x34, 0, 1, 0x68, 0x69]
    (by decide)

/-- A payload of one byte, the type of an echo request.  The source address is
chosen so that the sum comes out right without a checksum field. -/
def shortEchoRequest : Frame where
  octets := [2, 0, 0, 0, 0, 1, 2, 0, 0, 0, 0, 2, 0x86, 0xdd,
    0x60, 0, 0, 0, 0, 1, 58, 64,
    0xfe, 0x80, 0x84, 0xbf, 0, 0, 0, 0, 0, 0, 0, 0xff, 0xfe, 0, 0, 2,
    0xfe, 0x80, 0, 0, 0, 0, 0, 0, 0, 0, 0, 0xff, 0xfe, 0, 0, 1,
    128]
  fits := by decide

/-- What the station answers: the type is an echo reply, no checksum fits. -/
def shortEchoReply : List UInt8 :=
  [2, 0, 0, 0, 0, 2, 2, 0, 0, 0, 0, 1, 0x86, 0xdd,
    0x60, 0, 0, 0, 0, 1, 58, 64,
    0xfe, 0x80, 0, 0, 0, 0, 0, 0, 0, 0, 0, 0xff, 0xfe, 0, 0, 1,
    0xfe, 0x80, 0x84, 0xbf, 0, 0, 0, 0, 0, 0, 0, 0xff, 0xfe, 0, 0, 2,
    129]

end EtherSiaStack
