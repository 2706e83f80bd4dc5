/-
Two nodes that reject what they do not know.

Each node's loop takes a frame, lets its sockets look at it and rejects it otherwise.
An answer may itself be received and answered, so what bounds the traffic is a
potential: frames in flight and the packets left in both buffers are worth what they
may still cause.  It pays for every transmission as long as no reset is answered with
a reset.
-/

import EtherSiaStack.ForeignPackets
import EtherSiaStack.Segment

namespace EtherSiaStack

open ByteMemory IPv6Packet TCPHeader Trace

/-! ### Packets that cause nothing -/

/-- The type of a request that `receivePacket` answers. -/
def isRequest (type : UInt8) : Bool :=
  type = ICMP6_TYPE_ECHO || type = ICMP6_TYPE_NS

/-- What the protocol, the ICMPv6 type and the TCP flags of a packet in the buffer may
add to a frame that ends before them. -/
def chargeOf (protocol type flags : UInt8) : Nat :=
  if protocol = IP6_PROTO_ICMP6 then
    if isRequest type then 2 else 0
  else if protocol = IP6_PROTO_TCP ∧ hasFlag flags TCP_FLAG_RST then
    if isRequest type then 1 else 0
  else 2

def charge (packet : Memory) : Nat :=
  chargeOf (protocol packet) (ICMPv6Packet.type packet) (flags packet)

/-- The frame holds nothing that a node answers: it ends before its protocol field, or
is ICMPv6 without the type of a request, or a reset. -/
def isInert (octets : List UInt8) : Bool :=
  match octets[20]? with
  | none => true
  | some protocol =>
      if protocol = IP6_PROTO_ICMP6 then
        match octets[54]? with
        | none => true
        | some type => !isRequest type
      else if protocol = IP6_PROTO_TCP then
        match octets[67]? with
        | none => false
        | some flags => hasFlag flags TCP_FLAG_RST
      else false

/-- What a frame in flight is worth. -/
def weight (frame : Frame) : Nat :=
  if isInert frame.octets then 2 else 4

theorem chargeOf_le_two (protocol type flags : UInt8) : chargeOf protocol type flags ≤ 2 := by
  unfold chargeOf
  split_ifs <;> decide

theorem charge_le_two (packet : Memory) : charge packet ≤ 2 :=
  chargeOf_le_two _ _ _

theorem chargeOf_request {type : UInt8} (request : isRequest type = true)
    (protocol flags : UInt8) : 1 ≤ chargeOf protocol type flags := by
  unfold chargeOf
  rw [if_pos request, if_pos request]
  split_ifs <;> decide

theorem chargeOf_reset {flags : UInt8} (reset : hasFlag flags TCP_FLAG_RST = true)
    (type : UInt8) : chargeOf IP6_PROTO_TCP type flags ≤ 1 := by
  unfold chargeOf
  rw [if_neg (by decide), if_pos ⟨rfl, reset⟩]
  split_ifs <;> decide

theorem chargeOf_icmp (type flags : UInt8) :
    chargeOf IP6_PROTO_ICMP6 type flags = if isRequest type then 2 else 0 :=
  if_pos rfl

theorem load_byte (memory : Memory) (octets : List UInt8) (address : Nat) :
    store memory 0 octets address = (octets[address]?).getD (memory address) := by
  simp [store]

theorem getElem?_none_of_le {octets : List UInt8} {address behind : Nat}
    (absent : octets[address]? = none) (above : address ≤ behind) :
    octets[behind]? = none :=
  List.getElem?_eq_none (Nat.le_trans (List.getElem?_eq_none_iff.mp absent) above)

/-- An inert frame makes the buffer worth at most one more, and makes it a packet to be
answered only out of what was there before. -/
theorem charge_load {octets : List UInt8} (inert : isInert octets = true)
    (memory : Memory) :
    charge (store memory 0 octets) ≤ charge memory + 1 ∧
      (charge (store memory 0 octets) = 2 → 1 ≤ charge memory ∧
        (protocol (store memory 0 octets) ≠ IP6_PROTO_ICMP6 → charge memory = 2)) := by
  have bound := charge_le_two memory
  unfold isInert at inert
  unfold charge protocol ICMPv6Packet.type flags at *
  rw [load_byte, load_byte, load_byte]
  cases isProtocol : octets[20]? with
  | none =>
      rw [getElem?_none_of_le isProtocol (by decide : 20 ≤ 54),
        getElem?_none_of_le isProtocol (by decide : 20 ≤ 67)]
      simp only [Option.getD_none]
      omega
  | some protocol =>
      rw [isProtocol] at inert
      dsimp only at inert
      rw [Option.getD_some]
      split_ifs at inert with isIcmp isTcp
      · subst isIcmp
        rw [chargeOf_icmp]
        refine ⟨?_, fun prompts => ⟨?_, fun other => absurd rfl other⟩⟩
        · cases isType : octets[54]? with
          | none =>
              rw [Option.getD_none]
              split_ifs with request
              · have charged := chargeOf_request request (memory 20) (memory 67)
                omega
              · exact Nat.zero_le _
          | some type =>
              rw [isType] at inert
              rw [Option.getD_some, if_neg (by simpa using inert)]
              exact Nat.zero_le _
        · cases isType : octets[54]? with
          | none =>
              rw [isType, Option.getD_none] at prompts
              split_ifs at prompts with request
              exact chargeOf_request request (memory 20) (memory 67)
          | some type =>
              rw [isType, Option.getD_some, if_neg (by rw [isType] at inert; simpa using inert)]
                at prompts
              cases prompts
      · subst isTcp
        cases isFlags : octets[67]? with
        | none =>
            rw [isFlags] at inert
            cases inert
        | some flags =>
            rw [isFlags] at inert
            have reset := chargeOf_reset inert ((octets[54]?).getD (memory 54))
            rw [Option.getD_some]
            omega

/-! ### Answers -/

/-- An answer that no node answers in turn. -/
inductive InertPacket (packet : Memory) : Prop
  | icmp (isIcmp : protocol packet = IP6_PROTO_ICMP6)
      (noRequest : isRequest (ICMPv6Packet.type packet) = false)
  | reset (isTcp : protocol packet = IP6_PROTO_TCP)
      (isReset : hasFlag (flags packet) TCP_FLAG_RST = true)
      (length : IPv6Packet.payloadLength packet = 20)

theorem delivered_getElem? {packet : Memory} {address : Nat} {byte : UInt8}
    (present : (Frame.delivered (packetOctets packet)).octets[address]? = some byte) :
    byte = packet address := by
  change ((packetOctets packet).take 600)[address]? = some byte at present
  obtain ⟨inside, isByte⟩ := List.getElem?_eq_some_iff.mp present
  have bound : address < (packetOctets packet).length := by
    rw [List.length_take] at inside
    omega
  rw [List.getElem_take] at isByte
  have read := bytesAt_getElem packet 0 (length packet).toNat address bound
  rw [Nat.zero_add] at read
  exact isByte.symm.trans read

/-- The frame that carries it is inert, however much of it is sent. -/
theorem InertPacket.frame {packet : Memory} (inert : InertPacket packet) :
    isInert (Frame.delivered (packetOctets packet)).octets = true := by
  unfold isInert
  cases isProtocol : (Frame.delivered (packetOctets packet)).octets[20]? with
  | none => rfl
  | some sentProtocol =>
      have sameProtocol := delivered_getElem? isProtocol
      dsimp only
      cases inert with
      | icmp isIcmp noRequest =>
          rw [if_pos (sameProtocol.trans isIcmp)]
          cases isType : (Frame.delivered (packetOctets packet)).octets[54]? with
          | none => rfl
          | some type =>
              have sameType : type = ICMPv6Packet.type packet := delivered_getElem? isType
              dsimp only
              rw [sameType, noRequest]
              rfl
      | reset isTcp isReset size =>
          have isTcpByte := sameProtocol.trans isTcp
          rw [isTcpByte, if_neg (by decide), if_pos rfl]
          cases isFlags : (Frame.delivered (packetOctets packet)).octets[67]? with
          | none =>
              have short := List.getElem?_eq_none_iff.mp isFlags
              have whole : packetEnd packet = 74 := by
                change 54 + (IPv6Packet.payloadLength packet).toNat = 74
                rw [size]
                decide
              rw [delivered_octets (by omega), bytesAt_length] at short
              omega
          | some sentFlags =>
              have sameFlags : sentFlags = flags packet := delivered_getElem? isFlags
              dsimp only
              rw [sameFlags]
              exact isReset

theorem InertPacket.charge_le {packet : Memory} (inert : InertPacket packet) :
    charge packet ≤ 1 := by
  unfold charge
  cases inert with
  | icmp isIcmp noRequest =>
      rw [isIcmp, chargeOf_icmp, noRequest]
      decide
  | reset isTcp isReset size =>
      rw [isTcp]
      exact chargeOf_reset isReset _

/-- What the library does with the packet in the buffer: nothing, or one answer that
costs what the packet was worth. -/
inductive AnswersInertly (before after : EtherSia) : Prop
  | silent (sent : after.sent = before.sent) (buffer : after.buffer = before.buffer)
  | answer (sent : after.sent = before.sent ++ [packetOctets after.buffer])
      (inert : InertPacket after.buffer) (prompted : charge before.buffer = 2)
      (uncharged : protocol before.buffer = IP6_PROTO_ICMP6 → charge after.buffer = 0)

theorem icmp6PacketSend_inert (ether : EtherSia)
    (noRequest : isRequest (ICMPv6Packet.type ether.buffer) = false) :
    InertPacket ether.icmp6PacketSend.buffer ∧ charge ether.icmp6PacketSend.buffer = 0 := by
  let packet := setProtocol ether.buffer IP6_PROTO_ICMP6
  have sealed : Agree ether.icmp6PacketSend.buffer packet 18 56 :=
    storeChecksum_agree packet (Or.inl le_rfl)
  have isIcmp : protocol ether.icmp6PacketSend.buffer = IP6_PROTO_ICMP6 := by
    have stored : packet 20 = IP6_PROTO_ICMP6 := u8_store_self _ _ _
    exact (sealed 20 (by decide) (by decide)).trans stored
  have sameType : ICMPv6Packet.type ether.icmp6PacketSend.buffer =
      ICMPv6Packet.type ether.buffer := by
    have kept : packet 54 = ether.buffer 54 := u8_store_disjoint _ _ (by decide)
    exact (sealed 54 (by decide) (by decide)).trans kept
  rw [← sameType] at noRequest
  refine ⟨.icmp isIcmp noRequest, ?_⟩
  unfold charge
  rw [isIcmp, chargeOf_icmp, noRequest]
  rfl

theorem charge_of_request {packet : Memory} (isIcmp : protocol packet = IP6_PROTO_ICMP6)
    (request : isRequest (ICMPv6Packet.type packet) = true) : charge packet = 2 := by
  unfold charge
  rw [isIcmp, chargeOf_icmp, request]
  rfl

theorem charge_of_other {packet : Memory} (notIcmp : protocol packet ≠ IP6_PROTO_ICMP6)
    (noReset : ¬ (protocol packet = IP6_PROTO_TCP ∧
      hasFlag (flags packet) TCP_FLAG_RST = true)) : charge packet = 2 := by
  unfold charge chargeOf
  rw [if_neg notIcmp, if_neg noReset]

namespace EtherSia

theorem icmp6NSReply_answers {ether : EtherSia}
    (isIcmp : protocol ether.buffer = IP6_PROTO_ICMP6)
    (isType : ICMPv6Packet.type ether.buffer = ICMP6_TYPE_NS) :
    AnswersInertly ether ether.icmp6NSReply := by
  have prompted : charge ether.buffer = 2 :=
    charge_of_request isIcmp (by rw [isType]; decide)
  unfold icmp6NSReply
  dsimp only
  split
  · exact .silent rfl rfl
  · obtain ⟨inert, uncharged⟩ := icmp6PacketSend_inert
      (ether.prepareReply.modifyPacket fun packet =>
        let packet := setHopLimit packet 255
        let packet := IPv6Packet.setPayloadLength packet 32
        let packet := ICMPv6Packet.setType packet ICMP6_TYPE_NA
        let packet := ICMPv6Packet.setCode packet 0
        let packet := store packet 58 [ICMP6_NA_FLAG_S]
        let packet := store packet 59 [0, 0, 0]
        let packet := store packet 78 [ICMP6_OPTION_TARGET_LINK_ADDRESS]
        let packet := store packet 79 [1]
        store packet 80 (blockBytes ether.localMac.octet))
      (by simp [modifyPacket, isRequest]; decide)
    exact .answer rfl inert prompted fun _ => uncharged

theorem icmp6EchoReply_answers {ether : EtherSia}
    (isIcmp : protocol ether.buffer = IP6_PROTO_ICMP6)
    (isType : ICMPv6Packet.type ether.buffer = ICMP6_TYPE_ECHO) :
    AnswersInertly ether ether.icmp6EchoReply := by
  have prompted : charge ether.buffer = 2 :=
    charge_of_request isIcmp (by rw [isType]; decide)
  obtain ⟨inert, uncharged⟩ := icmp6PacketSend_inert
    (ether.prepareReply.modifyPacket fun packet =>
      let packet := ICMPv6Packet.setType packet ICMP6_TYPE_ECHO_REPLY
      ICMPv6Packet.setCode packet 0)
    (by simp [modifyPacket, isRequest]; decide)
  exact .answer rfl inert prompted fun _ => uncharged

theorem icmp6ErrorReply_answers {ether : EtherSia} {type : UInt8}
    (notIcmp : protocol ether.buffer ≠ IP6_PROTO_ICMP6)
    (notTcp : protocol ether.buffer ≠ IP6_PROTO_TCP) (noRequest : isRequest type = false)
    (code : UInt8) : AnswersInertly ether (ether.icmp6ErrorReply type code) := by
  have prompted : charge ether.buffer = 2 :=
    charge_of_other notIcmp fun ⟨isTcp, _⟩ => notTcp isTcp
  unfold icmp6ErrorReply
  dsimp only
  generalize (if 40 + IPv6Packet.payloadLength ether.buffer > 538 then (538 : UInt16)
    else 40 + IPv6Packet.payloadLength ether.buffer) = payloadLen
  refine .answer rfl ?_ prompted fun isIcmp => absurd isIcmp notIcmp
  refine (icmp6PacketSend_inert _ ?_).1
  split
  · simpa [modifyPacket] using noRequest
  · simpa [modifyPacket] using noRequest

theorem tcpSendRSTReply_built (ether : EtherSia) :
    ∃ packet, ether.tcpSendRSTReply.buffer =
        storeChecksum packet TCPHeader.checksumAddress ∧
      protocol packet = protocol ether.buffer ∧
        flags packet = TCP_FLAG_ACK ||| TCP_FLAG_RST ∧
          IPv6Packet.payloadLength packet = TCP_MINIMUM_HEADER_LEN ∧
            Agree packet ether.prepareReply.buffer 0 12 ∧
              Agree packet ether.prepareReply.buffer 22 54 := by
  refine ⟨_, rfl, by simp [prepareReply], by simp, by simp, ?_, ?_⟩
  · iterate 8 apply (agree_store _ _ (by simp)).trans
    exact agree_store _ _ (by simp)
  · iterate 8 apply (agree_store _ _ (by simp)).trans
    exact agree_store _ _ (by simp)

theorem tcpSendRSTReply_isReset (ether : EtherSia) :
    protocol ether.tcpSendRSTReply.buffer = protocol ether.buffer ∧
      hasFlag (flags ether.tcpSendRSTReply.buffer) TCP_FLAG_RST = true ∧
        IPv6Packet.payloadLength ether.tcpSendRSTReply.buffer = 20 := by
  obtain ⟨packet, built, sameProtocol, isFlags, isLength, _⟩ := ether.tcpSendRSTReply_built
  have low : Agree (storeChecksum packet TCPHeader.checksumAddress) packet 18 70 :=
    storeChecksum_agree packet (Or.inl le_rfl)
  rw [built]
  refine ⟨?_, ?_, ?_⟩
  · exact (low 20 (by decide) (by decide)).trans sameProtocol
  · have sent : flags (storeChecksum packet TCPHeader.checksumAddress) =
        TCP_FLAG_ACK ||| TCP_FLAG_RST := (low 67 (by decide) (by decide)).trans isFlags
    rw [sent]
    decide
  · exact (low.u16At_eq (by decide) (by decide)).trans isLength

theorem tcpSendRSTReply_sends (ether : EtherSia) :
    ether.tcpSendRSTReply.sent =
        ether.sent ++ [packetOctets ether.tcpSendRSTReply.buffer] ∧
      ether.tcpSendRSTReply.localMac = ether.localMac ∧
        ether.tcpSendRSTReply.linkLocalAddress = ether.linkLocalAddress :=
  ⟨rfl, rfl, rfl⟩

theorem tcpSendRSTReply_answers {ether : EtherSia}
    (isTcp : protocol ether.buffer = IP6_PROTO_TCP)
    (noReset : hasFlag (flags ether.buffer) TCP_FLAG_RST = false) :
    AnswersInertly ether ether.tcpSendRSTReply := by
  have notIcmp : protocol ether.buffer ≠ IP6_PROTO_ICMP6 := by
    rw [isTcp]
    decide
  have prompted : charge ether.buffer = 2 := by
    refine charge_of_other notIcmp fun ⟨_, isReset⟩ => ?_
    rw [noReset] at isReset
    cases isReset
  obtain ⟨sameProtocol, isReset, length⟩ := ether.tcpSendRSTReply_isReset
  exact .answer rfl (.reset (sameProtocol.trans isTcp) isReset length) prompted
    fun isIcmp => absurd isIcmp notIcmp

/-- `rejectPacket` on a packet that is no reset to a unicast address. -/
theorem rejectPacket_answers {ether : EtherSia}
    (noReset : protocol ether.buffer = IP6_PROTO_TCP →
      hasFlag (flags ether.buffer) TCP_FLAG_RST = true →
        (destination ether.buffer).isMulticast = true) :
    AnswersInertly ether ether.rejectPacket := by
  unfold rejectPacket
  split_ifs with empty multicast isTcp isUdp isIcmp
  · exact .silent rfl rfl
  · exact .silent rfl rfl
  · refine tcpSendRSTReply_answers isTcp (Bool.eq_false_iff.mpr fun isReset => ?_)
    exact multicast (noReset isTcp isReset)
  · have notIcmp : protocol ether.buffer ≠ IP6_PROTO_ICMP6 := by
      rw [isUdp]
      decide
    exact icmp6ErrorReply_answers notIcmp isTcp (by decide) _
  · exact .silent rfl rfl
  · exact icmp6ErrorReply_answers isIcmp isTcp (by decide) _

theorem dispatchReceived_answers {ether after : EtherSia} {len result : UInt16}
    (returned : ether.dispatchReceived len = some (result, after)) :
    AnswersInertly ether after := by
  refine dispatchReceived_cases returned (motive := fun _ later =>
    AnswersInertly ether later) ?_ ?_ ?_ ?_
  · exact .silent rfl rfl
  · exact fun holds => icmp6NSReply_answers holds.isIcmp holds.isType
  · exact fun holds => icmp6EchoReply_answers holds.isIcmp holds.isType
  · intro _ walked walks
    obtain ⟨_, _, _, rfl⟩ := icmp6ProcessRA_configuresOnly walks
    exact .silent rfl rfl

end EtherSia

/-! ### Two nodes -/

/-- Two nodes and the frames on their way to each. -/
structure Link where
  node : Bool → EtherSia
  waiting : Bool → List Frame

/-- What `readFrame` delivers when nothing is waiting. -/
def noFrame : Frame :=
  ⟨[], Nat.zero_le _⟩

/-- One pass of a node's loop: receive a frame, and reject the packet unless the sockets
have taken it, who may leave anything in the buffer. -/
def EtherSia.loopPass (ether : EtherSia) (frame : Frame) (taken : Option Memory) :
    Option EtherSia :=
  (ether.receivePacket frame).map fun received =>
    match taken with
    | none => received.2.rejectPacket
    | some buffer =>
        if received.2.bufferContainsReceived then { received.2 with buffer := buffer }
        else received.2

/-- `inject` is a frame from elsewhere, `pass` a pass over the frame at `index` of those
waiting, `socketSend` a packet that a socket or the application has built. -/
inductive LinkEvent
  | inject (node : Bool) (frame : Frame)
  | pass (node : Bool) (index : Nat) (taken : Option Memory)
  | socketSend (node : Bool) (buffer : Memory)

namespace Link

/-- Frames sent since the log had `count` entries, as the other node receives them. -/
def sentSince (ether : EtherSia) (count : Nat) : List Frame :=
  (ether.sent.drop count).map Frame.delivered

/-- Put back a node with the frames left for it, and send what it has sent. -/
def update (link : Link) (node : Bool) (after : EtherSia) (left : List Frame) : Link where
  node := Function.update link.node node after
  waiting := Function.update
    (Function.update link.waiting (!node)
      (link.waiting (!node) ++ sentSince after (link.node node).sent.length)) node left

def step (link : Link) : LinkEvent → Option Link
  | .inject node frame =>
      some { link with
        waiting := Function.update link.waiting node (link.waiting node ++ [frame]) }
  | .pass node index taken =>
      ((link.node node).loopPass ((link.waiting node)[index]?.getD noFrame) taken).map
        fun after => link.update node after ((link.waiting node).eraseIdx index)
  | .socketSend node buffer =>
      some (link.update node { link.node node with buffer := buffer }.send
        (link.waiting node))

/-- The frames both nodes have sent. -/
def transmitted (link : Link) : Nat :=
  (link.node false).sent.length + (link.node true).sent.length

/-- What the frames on their way to a node and the packet in its buffer are worth. -/
def worth (link : Link) (node : Bool) : Nat :=
  ((link.waiting node).map weight).sum + charge (link.node node).buffer

/-- Transmissions made and still to be paid for. -/
def account (link : Link) : Nat :=
  link.transmitted + link.worth false + link.worth true

/-- An event from outside the two answers. -/
def cost : LinkEvent → Nat
  | .inject _ _ => 4
  | .pass _ _ _ => 0
  | .socketSend _ _ => 7

theorem weight_le (frame : Frame) : weight frame ≤ 4 := by
  unfold weight
  split_ifs <;> decide

theorem sentSince_self (ether : EtherSia) : sentSince ether ether.sent.length = [] := by
  unfold sentSince
  rw [List.drop_length, List.map_nil]

theorem sentSince_append {before after : EtherSia} {octets : List UInt8}
    (sent : after.sent = before.sent ++ [octets]) :
    sentSince after before.sent.length = [Frame.delivered octets] := by
  unfold sentSince
  rw [sent, List.drop_left, List.map_cons, List.map_nil]

section Update

variable (link : Link) (node : Bool) (after : EtherSia) (left : List Frame)

theorem update_node_same : (link.update node after left).node node = after :=
  Function.update_self _ _ _

theorem update_node_other {other : Bool} (different : other ≠ node) :
    (link.update node after left).node other = link.node other :=
  Function.update_of_ne different _ _

theorem update_waiting_same : (link.update node after left).waiting node = left :=
  Function.update_self _ _ _

theorem update_waiting_other : (link.update node after left).waiting (!node) =
    link.waiting (!node) ++ sentSince after (link.node node).sent.length := by
  cases node
  · simp [update]
  · simp [update]

theorem transmitted_update :
    (link.update node after left).transmitted + (link.node node).sent.length =
      link.transmitted + after.sent.length := by
  cases node
  · simp [transmitted, update]
    omega
  · simp [transmitted, update]
    omega

end Update

/-- The account after a node has acted: only its own share changes, and what it has sent
is added. -/
theorem account_update (link : Link) (node : Bool) (after : EtherSia) (left : List Frame) :
    (link.update node after left).account + (link.node node).sent.length +
        link.worth node =
      link.account + after.sent.length + (left.map weight).sum + charge after.buffer +
        ((sentSince after (link.node node).sent.length).map weight).sum := by
  cases node
  · simp [account, transmitted, worth, update]
    omega
  · simp [account, transmitted, worth, update]
    omega

/-- What a node may send and keep is paid for by the frame and by its buffer. -/
def Pays (ether after : EtherSia) (frame : Frame) : Prop :=
  after.sent.length + charge after.buffer +
      ((sentSince after ether.sent.length).map weight).sum ≤
    ether.sent.length + charge ether.buffer + weight frame

theorem pays_of_silent {ether after : EtherSia} {frame : Frame}
    (sent : after.sent = ether.sent)
    (worth : charge after.buffer ≤ charge ether.buffer + weight frame) :
    Pays ether after frame := by
  unfold Pays
  rw [sent]
  unfold sentSince
  rw [sent, List.drop_length, List.map_nil, List.map_nil, List.sum_nil]
  omega

theorem pays_of_answers {ether after : EtherSia} {frame : Frame}
    (answers : AnswersInertly (ether.accepted frame) after) : Pays ether after frame := by
  have bound := charge_le_two (store ether.buffer 0 frame.octets)
  cases answers with
  | silent sent buffer =>
      have sentNothing : after.sent = ether.sent := sent
      apply pays_of_silent sentNothing
      have same : after.buffer = store ether.buffer 0 frame.octets := buffer
      rw [same]
      unfold weight
      split_ifs with inert
      · have raised := (charge_load inert ether.buffer).1
        omega
      · omega
  | answer sent inert prompted uncharged =>
      have same : (ether.accepted frame).sent = ether.sent := rfl
      have loaded : charge (store ether.buffer 0 frame.octets) = 2 := prompted
      have answerWeight : weight (Frame.delivered (packetOctets after.buffer)) = 2 :=
        if_pos inert.frame
      have atMostOne := inert.charge_le
      unfold Pays
      rw [same] at sent
      rw [sentSince_append sent, sent, List.map_cons, List.map_nil, List.sum_cons,
        List.sum_nil, answerWeight, List.length_append, List.length_singleton]
      unfold weight
      split_ifs with frameInert
      · obtain ⟨charged, full⟩ := (charge_load frameInert ether.buffer).2 loaded
        by_cases isIcmp :
            protocol (store ether.buffer 0 frame.octets) = IP6_PROTO_ICMP6
        · have cleared : charge after.buffer = 0 := uncharged isIcmp
          omega
        · have wasFull := full isIcmp
          omega
      · omega

/-- The packet left to `rejectPacket` is no reset to a unicast address. -/
def LeavesNoReset (ether : EtherSia) (frame : Frame) : Prop :=
  protocol (ether.accepted frame).buffer = IP6_PROTO_TCP →
    hasFlag (flags (ether.accepted frame).buffer) TCP_FLAG_RST = true →
      (destination (ether.accepted frame).buffer).isMulticast = true

instance (ether : EtherSia) (frame : Frame) : Decidable (LeavesNoReset ether frame) :=
  inferInstanceAs (Decidable (protocol (ether.accepted frame).buffer = IP6_PROTO_TCP →
    hasFlag (flags (ether.accepted frame).buffer) TCP_FLAG_RST = true →
      (destination (ether.accepted frame).buffer).isMulticast = true))

/-- After `receivePacket` the packet is in the buffer as it was received, unless it has
been answered and `rejectPacket` has nothing left to do. -/
theorem loopPass_pays {ether after : EtherSia} {frame : Frame} {taken : Option Memory}
    (noReset : taken = none → LeavesNoReset ether frame)
    (returned : ether.loopPass frame taken = some after) : Pays ether after frame := by
  obtain ⟨⟨len, received⟩, receives, rfl⟩ := Option.map_eq_some_iff.mp returned
  by_cases accepts : ether.Accepts frame
  · rw [EtherSia.receivePacket_of_accepts accepts] at receives
    have answers := EtherSia.dispatchReceived_answers receives
    by_cases flagged : received.bufferContainsReceived = true
    · have sent : received.sent = (ether.accepted frame).sent := by
        cases EtherSia.dispatchReceived_sendsOnce receives with
        | nothing sent _ => exact sent
        | frame _ _ cleared =>
            rw [cleared] at flagged
            cases flagged
      have buffer : received.buffer = (ether.accepted frame).buffer := by
        cases answers with
        | silent _ buffer => exact buffer
        | answer sends _ _ _ =>
            rw [sent] at sends
            exact absurd (List.append_right_eq_self.mp sends.symm) (List.cons_ne_nil _ _)
      cases taken with
      | none =>
          have leaves : LeavesNoReset ether frame := noReset rfl
          unfold LeavesNoReset at leaves
          rw [← buffer] at leaves
          have rejects := EtherSia.rejectPacket_answers leaves
          apply pays_of_answers
          cases rejects with
          | silent sends same => exact .silent (sends.trans sent) (same.trans buffer)
          | answer sends inert prompted uncharged =>
              rw [sent] at sends
              rw [buffer] at prompted uncharged
              exact .answer sends inert prompted uncharged
      | some kept =>
          have bound := charge_le_two kept
          dsimp only
          rw [if_pos flagged]
          apply pays_of_silent
          · exact sent
          · unfold weight
            dsimp only
            split_ifs <;> omega
    · cases taken with
      | none =>
          rw [Bool.not_eq_true] at flagged
          dsimp only
          rw [rejectPacket_of_not_received flagged]
          exact pays_of_answers answers
      | some kept =>
          dsimp only
          rw [if_neg flagged]
          exact pays_of_answers answers
  · rw [EtherSia.receivePacket_of_not_accepts accepts] at receives
    cases receives
    apply pays_of_answers
    cases taken with
    | none => exact .silent rfl rfl
    | some kept => exact .silent rfl rfl

theorem loopPass_noFrame {ether after : EtherSia} {taken : Option Memory}
    (returned : ether.loopPass noFrame taken = some after) :
    after.sent = ether.sent ∧ after.buffer = ether.buffer := by
  obtain ⟨⟨len, received⟩, receives, rfl⟩ := Option.map_eq_some_iff.mp returned
  have refuses : ¬ ether.Accepts noFrame := fun accepts => accepts.1 rfl
  rw [EtherSia.receivePacket_of_not_accepts refuses] at receives
  cases receives
  have same : store ether.buffer 0 [] = ether.buffer := store_nil _ _
  cases taken with
  | none => exact ⟨rfl, same⟩
  | some kept => exact ⟨rfl, same⟩

theorem sum_eraseIdx {frames : List Frame} {index : Nat} {frame : Frame}
    (isFrame : frames[index]? = some frame) :
    ((frames.eraseIdx index).map weight).sum + weight frame = (frames.map weight).sum := by
  obtain ⟨inside, isFrame⟩ := List.getElem?_eq_some_iff.mp isFrame
  have moved := (List.getElem_cons_eraseIdx_perm inside).map weight
  rw [← moved.sum_eq, isFrame, List.map_cons, List.sum_cons, Nat.add_comm]

/-! ### One step -/

/-- A packet left to `rejectPacket` is no reset to a unicast address. -/
def RejectsNoReset (taken : Taken Link LinkEvent) : Prop :=
  match taken.event with
  | .pass node index none =>
      LeavesNoReset (taken.before.node node)
        ((taken.before.waiting node)[index]?.getD noFrame)
  | _ => True

instance : DecidablePred RejectsNoReset
  | ⟨before, .pass node index none, _⟩ =>
      inferInstanceAs (Decidable (LeavesNoReset (before.node node)
        ((before.waiting node)[index]?.getD noFrame)))
  | ⟨_, .pass _ _ (some _), _⟩ => isTrue trivial
  | ⟨_, .inject _ _, _⟩ => isTrue trivial
  | ⟨_, .socketSend _ _, _⟩ => isTrue trivial

theorem step_account {taken : Taken Link LinkEvent}
    (stepped : taken.before.step taken.event = some taken.after)
    (noReset : RejectsNoReset taken) :
    taken.after.account ≤ taken.before.account + cost taken.event := by
  obtain ⟨before, event, after⟩ := taken
  change before.step event = some after at stepped
  change after.account ≤ before.account + cost event
  cases event with
  | inject node frame =>
      cases stepped
      have bound := weight_le frame
      cases node
      · simp [account, transmitted, worth, cost]
        omega
      · simp [account, transmitted, worth, cost]
        omega
  | pass node index kept =>
      obtain ⟨behind, passes, rfl⟩ := Option.map_eq_some_iff.mp stepped
      have updated := before.account_update node behind ((before.waiting node).eraseIdx index)
      have worthIs : before.worth node =
        ((before.waiting node).map weight).sum + charge (before.node node).buffer := rfl
      cases isFrame : (before.waiting node)[index]? with
      | none =>
          rw [isFrame] at passes
          obtain ⟨sent, buffer⟩ := loopPass_noFrame passes
          have kept := List.eraseIdx_of_length_le (List.getElem?_eq_none_iff.mp isFrame)
          have nothing := sentSince_self behind
          rw [sent] at nothing
          rw [nothing, kept, sent, buffer, List.map_nil, List.sum_nil] at updated
          change _ ≤ before.account + 0
          rw [kept]
          omega
      | some frame =>
          have pays : Pays (before.node node) behind frame := by
            rw [isFrame] at passes
            apply loopPass_pays _ passes
            rintro rfl
            unfold RejectsNoReset at noReset
            dsimp only at noReset
            rw [isFrame] at noReset
            exact noReset
          have erased := sum_eraseIdx isFrame
          unfold Pays at pays
          change _ ≤ before.account + 0
          omega
  | socketSend node buffer =>
      cases stepped
      let built : EtherSia := { before.node node with buffer := buffer }
      have updated := before.account_update node built.send (before.waiting node)
      have sends : built.send.sent = (before.node node).sent ++ [packetOctets buffer] := rfl
      have worthIs : before.worth node =
        ((before.waiting node).map weight).sum + charge (before.node node).buffer := rfl
      have bound := weight_le (Frame.delivered (packetOctets buffer))
      have charged := charge_le_two built.send.buffer
      rw [sentSince_append sends, sends, List.map_cons, List.map_nil, List.sum_cons,
        List.sum_nil, List.length_append, List.length_singleton] at updated
      change _ ≤ before.account + 7
      change (before.update node built.send (before.waiting node)).account ≤ _
      omega

/-! ### Whole runs -/

theorem account_le (link : Link) :
    link.account ≤ link.transmitted +
      4 * ((link.waiting false).length + (link.waiting true).length) + 4 := by
  have frames (node : Bool) :
      ((link.waiting node).map weight).sum ≤ 4 * (link.waiting node).length := by
    have bound := List.sum_le_card_nsmul ((link.waiting node).map weight) 4
      (by simpa using fun frame _ => weight_le frame)
    rw [List.length_map, smul_eq_mul, Nat.mul_comm] at bound
    exact bound
  have first := frames false
  have second := frames true
  have firstBuffer := charge_le_two (link.node false).buffer
  have secondBuffer := charge_le_two (link.node true).buffer
  unfold account worth
  omega

/-- However the loops of the two nodes interleave, they send at most as many frames as
those in flight and those brought in pay for, when no reset is rejected. -/
theorem transmitted_le (link : Link) {events : List LinkEvent}
    (noReset : Always step link events RejectsNoReset) :
    (reached step link events).transmitted ≤ link.transmitted +
      4 * ((link.waiting false).length + (link.waiting true).length) + 4 +
        (events.map cost).sum := by
  have paid := reached_measure_le account cost (fun _ => step_account) noReset
  have start := link.account_le
  have counted : (reached step link events).transmitted ≤
      (reached step link events).account :=
    Nat.le_trans (Nat.le_add_right _ _) (Nat.le_add_right _ _)
  omega

end Link

/-- A reset from one node to the other. -/
structure IsReset (packet : Memory) (sender receiver : MACAddress) : Prop where
  valid : isValid packet = true
  addressed : Addressed packet sender receiver
  isTcp : protocol packet = IP6_PROTO_TCP
  isReset : hasFlag (flags packet) TCP_FLAG_RST = true
  length : IPv6Packet.payloadLength packet = 20

/-- Two nodes with a reset on its way to one of them. -/
structure Storming (link : Link) (node : Bool) (mac : Bool → MACAddress) : Prop where
  different : mac (!node) ≠ mac node
  localMac : ∀ node, (link.node node).localMac = mac node
  linkLocal : ∀ node, (link.node node).UsesLinkLocal
  waiting : ∃ packet, IsReset packet (mac (!node)) (mac node) ∧
    link.waiting node = [Frame.delivered (packetOctets packet)]
  other : link.waiting (!node) = []

theorem linkLocalOf_not_multicast (mac : MACAddress) :
    (IPv6Address.linkLocalOf mac).isMulticast = false := by
  simp [IPv6Address.isMulticast, IPv6Address.linkLocalOf, IPv6Address.setEui64,
    IPv6Address.setLinkLocalPrefix]

theorem IsReset.packetEnd_eq {packet : Memory} {sender receiver : MACAddress}
    (reset : IsReset packet sender receiver) : packetEnd packet = 74 := by
  change 54 + (IPv6Packet.payloadLength packet).toNat = 74
  rw [reset.length]
  decide

theorem IsReset.congr {left right : Memory} {sender receiver : MACAddress}
    (reset : IsReset left sender receiver) (agree : Agree right left 0 (packetEnd left)) :
    IsReset right sender receiver := by
  have ends := reset.packetEnd_eq
  refine ⟨?_, ?_, ?_, ?_, ?_⟩
  · exact (isValid_congr (agree.symm.mono (by decide) le_rfl)).symm.trans reset.valid
  · exact reset.addressed.congr (agree.mono le_rfl (by omega))
      (agree.mono (by decide) (by omega))
  · exact (agree 20 (by decide) (by omega)).trans reset.isTcp
  · have same : flags right = flags left := agree 67 (by decide) (by omega)
    rw [same]
    exact reset.isReset
  · exact (agree.u16At_eq (by decide) (by omega)).trans reset.length

/-- The node answers the reset with a reset. -/
theorem loopPass_of_reset {ether : EtherSia} {packet : Memory} {sender : MACAddress}
    (linkLocal : ether.UsesLinkLocal) (different : sender ≠ ether.localMac)
    (reset : IsReset packet sender ether.localMac) :
    ∃ after, ether.loopPass (Frame.delivered (packetOctets packet)) none = some after ∧
      IsReset after.buffer ether.localMac sender ∧
        after.sent = ether.sent ++ [packetOctets after.buffer] ∧
          after.localMac = ether.localMac ∧ after.UsesLinkLocal := by
  let frame := Frame.delivered (packetOctets packet)
  have ends := reset.packetEnd_eq
  have meant : MeantFor packet ether :=
    { valid := reset.valid
      fits := by omega
      addressed := Or.inr reset.addressed.etherDestination
      foreign := fun same => different (reset.addressed.etherSource.symm.trans same) }
  have accepted : IsReset (ether.accepted frame).buffer sender ether.localMac :=
    reset.congr (accepted_agree ether meant.fits)
  have notIcmp : protocol (ether.accepted frame).buffer ≠ IP6_PROTO_ICMP6 := by
    rw [accepted.isTcp]
    decide
  have unicast : (destination (ether.accepted frame).buffer).isMulticast = false := by
    rw [accepted.addressed.destination]
    exact linkLocalOf_not_multicast _
  have rejects : (ether.accepted frame).rejectPacket =
      (ether.accepted frame).tcpSendRSTReply := by
    unfold EtherSia.rejectPacket
    rw [if_neg nofun, unicast, if_neg nofun, if_pos accepted.isTcp]
  obtain ⟨sent, sameMac, sameAddress⟩ := (ether.accepted frame).tcpSendRSTReply_sends
  refine ⟨(ether.accepted frame).tcpSendRSTReply, ?_, ?_, sent, sameMac, ?_⟩
  · unfold EtherSia.loopPass
    rw [EtherSia.receivePacket_of_not_icmp meant.accepts notIcmp, Option.map_some]
    dsimp only
    rw [rejects]
  · obtain ⟨sameProtocol, isReset, length⟩ :=
      (ether.accepted frame).tcpSendRSTReply_isReset
    obtain ⟨built, isBuilt, _, _, _, low, high⟩ :=
      (ether.accepted frame).tcpSendRSTReply_built
    have replied : Addressed (ether.accepted frame).prepareReply.buffer ether.localMac
        sender := EtherSia.prepareReply_addressed linkLocal accepted.addressed
    refine ⟨?_, ?_, sameProtocol.trans accepted.isTcp, isReset, length⟩
    · exact (EtherSia.tcpSendRSTReply_transmits
        (headerValid_of_isValid accepted.valid)).valid
    · rw [isBuilt]
      exact (replied.congr low high).congr (storeChecksum_agree _ (Or.inl (by decide)))
        (storeChecksum_agree _ (Or.inl (by decide)))
  · unfold EtherSia.UsesLinkLocal
    rw [sameMac, sameAddress]
    exact linkLocal

theorem storming_step {link : Link} {node : Bool} {mac : Bool → MACAddress}
    (storming : Storming link node mac) :
    ∃ after, link.step (.pass node 0 none) = some after ∧ Storming after (!node) mac ∧
      after.transmitted = link.transmitted + 1 := by
  obtain ⟨different, localMac, linkLocal, ⟨packet, reset, waiting⟩, other⟩ := storming
  have foreign : mac (!node) ≠ (link.node node).localMac := by
    rw [localMac node]
    exact different
  have forNode : IsReset packet (mac (!node)) (link.node node).localMac := by
    rw [localMac node]
    exact reset
  obtain ⟨after, passes, answered, sent, sameMac, sameLinkLocal⟩ :=
    loopPass_of_reset (linkLocal node) foreign forNode
  rw [localMac node] at answered
  have stepped : link.step (.pass node 0 none) =
      some (link.update node after []) := by
    unfold Link.step
    dsimp only
    rw [waiting]
    change ((link.node node).loopPass (Frame.delivered (packetOctets packet)) none).map _ = _
    rw [passes]
    rfl
  have onWay := Link.sentSince_append sent
  refine ⟨_, stepped, ?_, ?_⟩
  · refine ⟨?_, ?_, ?_, ⟨after.buffer, ?_, ?_⟩, ?_⟩
    · rw [Bool.not_not]
      exact different.symm
    · intro any
      by_cases same : any = node
      · subst same
        rw [Link.update_node_same, sameMac, localMac]
      · rw [Link.update_node_other _ _ _ _ same, localMac]
    · intro any
      by_cases same : any = node
      · subst same
        rw [Link.update_node_same]
        exact sameLinkLocal
      · rw [Link.update_node_other _ _ _ _ same]
        exact linkLocal any
    · rw [Bool.not_not]
      exact answered
    · rw [Link.update_waiting_other, other, onWay]
      rfl
    · rw [Bool.not_not]
      exact Link.update_waiting_same _ _ _ _
  · have counted := link.transmitted_update node after []
    rw [sent, List.length_append, List.length_singleton] at counted
    omega

/-- The storm goes on for as long as the loops do, and nothing else is needed for it. -/
theorem storm {link : Link} {node : Bool} {mac : Bool → MACAddress}
    (storming : Storming link node mac) (count : Nat) :
    ∃ events, (∀ event ∈ events, ∃ node, event = .pass node 0 none) ∧
      (reached Link.step link events).transmitted = link.transmitted + count := by
  induction count generalizing link node with
  | zero => exact ⟨[], fun event member => absurd member List.not_mem_nil, rfl⟩
  | succ count ih =>
      obtain ⟨after, stepped, goesOn, sent⟩ := storming_step storming
      obtain ⟨events, passes, transmitted⟩ := ih goesOn
      refine ⟨.pass node 0 none :: events, ?_, ?_⟩
      · intro event member
        rcases List.mem_cons.mp member with rfl | later
        · exact ⟨node, rfl⟩
        · exact passes event later
      · rw [reached_cons_of_step stepped, transmitted, sent]
        omega

/-- A reset from the second node to port 80 of the first. -/
def exampleReset : Frame :=
  exampleFrame 20 IP6_PROTO_TCP
    [0x10, 0, 0, 80, 0, 0, 0, 1, 0, 0, 0, 0, 0x50, 0x04, 0x01, 0xea, 0xa2, 0xa1, 0, 0]
    (by decide)

def exampleNodeMac (node : Bool) : MACAddress :=
  exampleMac (if node then 2 else 1)

/-- Two nodes that have just been configured. -/
def exampleLink : Link where
  node := fun node => EtherSia.configured (exampleNodeMac node) fun _ => 0
  waiting := fun _ => []

theorem exampleReset_isReset :
    IsReset (ofOctets exampleReset.octets) (exampleMac 2) (exampleMac 1) where
  valid := by decide +kernel
  addressed := ⟨by decide +kernel, by decide +kernel, by decide +kernel, by decide +kernel⟩
  isTcp := by decide +kernel
  isReset := by decide +kernel
  length := by decide +kernel

theorem exampleReset_storming :
    Storming { exampleLink with
      waiting := Function.update exampleLink.waiting false [exampleReset] }
      false exampleNodeMac where
  different := by decide
  localMac := fun _ => rfl
  linkLocal := fun _ => rfl
  waiting := by
    refine ⟨ofOctets exampleReset.octets, exampleReset_isReset, ?_⟩
    have sameFrame : Frame.delivered (packetOctets (ofOctets exampleReset.octets)) =
        exampleReset := by decide +kernel
    rw [sameFrame]
    rfl
  other := rfl

end EtherSiaStack
