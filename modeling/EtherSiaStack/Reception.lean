/-
What `receivePacket` accepts.

The length `readFrame` returns is tested for zero and otherwise only handed to
the caller; the extent of the packet comes from its own length field.  A frame
with a length field beyond its last octet is accepted exactly when the bytes the
buffer held before complete the one's-complement sum to 0xFFFF.
-/

import EtherSiaStack.TransmittedFrames

namespace EtherSiaStack

open ByteMemory IPv6Packet Trace

namespace EtherSia

/-- `receivePacket` gets past its checks and sets `_bufferContainsReceived`. -/
def Accepts (ether : EtherSia) (frame : Frame) : Prop :=
  frame.octets ≠ [] ∧ (ether.loadFrame frame).acceptsPacket = true

/-- The interface once it has accepted the frame. -/
def accepted (ether : EtherSia) (frame : Frame) : EtherSia :=
  { ether.loadFrame frame with bufferContainsReceived := true }

/-- The interface with another packet in its buffer, or other bytes behind it. -/
def withBuffer (ether : EtherSia) (memory : Memory) : EtherSia :=
  { ether with buffer := memory }

@[simp] theorem withBuffer_buffer (ether : EtherSia) (memory : Memory) :
    (ether.withBuffer memory).buffer = memory :=
  rfl

@[simp] theorem accepted_buffer (ether : EtherSia) (frame : Frame) :
    (ether.accepted frame).buffer = (ether.loadFrame frame).buffer :=
  rfl

theorem frame_length_toNat (frame : Frame) :
    (UInt16.ofNat frame.octets.length).toNat = frame.octets.length := by
  have fits : frame.octets.length ≤ 600 := frame.fits
  rw [UInt16.toNat_ofNat']
  omega

theorem frame_length_ne_zero_iff (frame : Frame) :
    UInt16.ofNat frame.octets.length ≠ 0 ↔ frame.octets ≠ [] := by
  rw [ne_eq, ← UInt16.toNat_inj, frame_length_toNat, UInt16.toNat_zero,
    List.length_eq_zero_iff]

theorem receivePacket_of_accepts {ether : EtherSia} {frame : Frame}
    (accepts : ether.Accepts frame) :
    ether.receivePacket frame =
      (ether.accepted frame).dispatchReceived (UInt16.ofNat frame.octets.length) := by
  obtain ⟨nonempty, valid⟩ := accepts
  simp only [receivePacket, accepted, (frame_length_ne_zero_iff frame).mpr nonempty, valid,
    not_false_eq_true, if_true, Bool.not_true, Bool.false_eq_true, if_false, ne_eq]

theorem receivePacket_of_not_accepts {ether : EtherSia} {frame : Frame}
    (refuses : ¬ ether.Accepts frame) :
    ether.receivePacket frame =
      some (0, { ether.loadFrame frame with bufferContainsReceived := false }) := by
  by_cases nonempty : frame.octets = []
  · have zero : ¬ UInt16.ofNat frame.octets.length ≠ 0 := fun nonzero =>
      (frame_length_ne_zero_iff frame).mp nonzero nonempty
    have unchanged : ether.loadFrame frame = ether := by
      simp only [loadFrame, modifyPacket, nonempty, store_nil]
    unfold receivePacket
    dsimp only
    rw [if_neg zero, unchanged]
  · have refused : (ether.loadFrame frame).acceptsPacket = false :=
      Bool.eq_false_iff.mpr fun valid => refuses ⟨nonempty, valid⟩
    simp only [receivePacket, (frame_length_ne_zero_iff frame).mpr nonempty, refused,
      not_false_eq_true, if_true, Bool.not_false, ne_eq]

theorem receivePacket_of_not_icmp {ether : EtherSia} {frame : Frame}
    (accepts : ether.Accepts frame)
    (other : protocol (ether.accepted frame).buffer ≠ IP6_PROTO_ICMP6) :
    ether.receivePacket frame =
      some (UInt16.ofNat frame.octets.length, ether.accepted frame) := by
  rw [receivePacket_of_accepts accepts]
  exact if_neg other

theorem acceptsPacket_iff (ether : EtherSia) :
    ether.acceptsPacket = true ↔
      isValid ether.buffer = true ∧ ether.checkEthernetAddresses = true := by
  unfold acceptsPacket
  exact Bool.and_eq_true_iff

/-- The checks look at the packet and our MAC address and at nothing else. -/
theorem acceptsPacket_congr {left right : EtherSia} (sameMac : right.localMac = left.localMac)
    (agree : Agree left.buffer right.buffer 0 (packetEnd left.buffer)) :
    right.acceptsPacket = left.acceptsPacket := by
  have header : 54 ≤ packetEnd left.buffer := payload_le_packetEnd left.buffer
  have sameValid : isValid left.buffer = isValid right.buffer :=
    isValid_congr (agree.mono (by decide) le_rfl)
  have sameDestination : etherDestination left.buffer = etherDestination right.buffer :=
    congrArg MACAddress.mk (agree.blockAt_eq (by decide) (by omega))
  have sameSource : etherSource left.buffer = etherSource right.buffer :=
    congrArg MACAddress.mk (agree.blockAt_eq (by decide) (by omega))
  unfold acceptsPacket checkEthernetAddresses
  rw [sameValid, sameDestination, sameSource, sameMac]

/-! ### What an accepted packet leads to -/

/-- The buffer holds an ICMPv6 message of the type for one of our addresses. -/
structure HoldsMessage (ether : EtherSia) (type : UInt8) : Prop where
  isIcmp : protocol ether.buffer = IP6_PROTO_ICMP6
  ours : ether.isOurAddress (destination ether.buffer) ≠ none
  isType : ICMPv6Packet.type ether.buffer = type

/-- What becomes of an accepted packet: it is left to the caller, it is a solicitation or
an echo request and answered, or an advertisement and walked. -/
theorem dispatchReceived_cases {ether after : EtherSia} {len result : UInt16}
    (returned : ether.dispatchReceived len = some (result, after))
    {motive : UInt16 → EtherSia → Prop} (held : motive len ether)
    (solicited : ether.HoldsMessage ICMP6_TYPE_NS → motive 0 ether.icmp6NSReply)
    (echoed : ether.HoldsMessage ICMP6_TYPE_ECHO → motive 0 ether.icmp6EchoReply)
    (advertised : ether.HoldsMessage ICMP6_TYPE_RA →
      ∀ walked, ether.icmp6ProcessRA = some walked → motive 0 walked) :
    motive result after := by
  unfold dispatchReceived at returned
  split at returned
  · rename_i isIcmp
    obtain ⟨processed, processes, same⟩ := Option.map_eq_some_iff.mp returned
    unfold icmp6ProcessPacket at processes
    split_ifs at processes with notOurs isSolicitation isEcho isRouter
    · cases processes
      cases same
      exact held
    · cases processes
      cases same
      exact solicited ⟨isIcmp, notOurs, isSolicitation⟩
    · cases processes
      cases same
      exact echoed ⟨isIcmp, notOurs, isEcho⟩
    · obtain ⟨walked, walks, isWalked⟩ := Option.map_eq_some_iff.mp processes
      cases isWalked
      cases same
      exact advertised ⟨isIcmp, notOurs, isRouter⟩ _ walks
    · cases processes
      cases same
      exact held
  · cases returned
    exact held

/-- What a call leaves behind: a frame refused, or what becomes of the packet. -/
theorem receivePacket_cases {ether after : EtherSia} {frame : Frame} {len : UInt16}
    (returned : ether.receivePacket frame = some (len, after)) {motive : EtherSia → Prop}
    (refused : ¬ ether.Accepts frame →
      motive { ether.loadFrame frame with bufferContainsReceived := false })
    (held : ether.Accepts frame → motive (ether.accepted frame))
    (solicited : ether.Accepts frame → (ether.accepted frame).HoldsMessage ICMP6_TYPE_NS →
      motive (ether.accepted frame).icmp6NSReply)
    (echoed : ether.Accepts frame → (ether.accepted frame).HoldsMessage ICMP6_TYPE_ECHO →
      motive (ether.accepted frame).icmp6EchoReply)
    (advertised : ether.Accepts frame →
      (ether.accepted frame).HoldsMessage ICMP6_TYPE_RA →
        ∀ walked, (ether.accepted frame).icmp6ProcessRA = some walked → motive walked) :
    motive after := by
  by_cases accepts : ether.Accepts frame
  · rw [receivePacket_of_accepts accepts] at returned
    exact dispatchReceived_cases returned (motive := fun _ later => motive later)
      (held accepts) (solicited accepts) (echoed accepts) (advertised accepts)
  · rw [receivePacket_of_not_accepts accepts] at returned
    cases returned
    exact refused accepts

/-- The options of an advertisement are walked, and a caller is told of no packet. -/
theorem dispatchReceived_advertised {ether : EtherSia}
    (holds : ether.HoldsMessage ICMP6_TYPE_RA) (len : UInt16) :
    ether.dispatchReceived len = ether.icmp6ProcessRA.map fun after => (0, after) := by
  have processed : ether.icmp6ProcessPacket =
      ether.icmp6ProcessRA.map fun after => (true, after) := by
    unfold icmp6ProcessPacket
    rw [if_neg holds.ours, if_neg (by rw [holds.isType]; decide),
      if_neg (by rw [holds.isType]; decide), if_pos holds.isType]
  unfold dispatchReceived
  rw [if_pos holds.isIcmp, processed, Option.map_map]
  rfl

theorem dispatchReceived_solicited {ether : EtherSia}
    (holds : ether.HoldsMessage ICMP6_TYPE_NS) (len : UInt16) :
    ether.dispatchReceived len = some (0, ether.icmp6NSReply) := by
  have processed : ether.icmp6ProcessPacket = some (true, ether.icmp6NSReply) := by
    unfold icmp6ProcessPacket
    rw [if_neg holds.ours, if_pos holds.isType]
  unfold dispatchReceived
  rw [if_pos holds.isIcmp, processed]
  rfl

theorem dispatchReceived_echoed {ether : EtherSia}
    (holds : ether.HoldsMessage ICMP6_TYPE_ECHO) (len : UInt16) :
    ether.dispatchReceived len = some (0, ether.icmp6EchoReply) := by
  have processed : ether.icmp6ProcessPacket = some (true, ether.icmp6EchoReply) := by
    unfold icmp6ProcessPacket
    rw [if_neg holds.ours, if_neg (by rw [holds.isType]; decide), if_pos holds.isType]
  unfold dispatchReceived
  rw [if_pos holds.isIcmp, processed]
  rfl

/-- Every other message for us is left to the caller. -/
theorem dispatchReceived_unhandled {ether : EtherSia} {type : UInt8}
    (holds : ether.HoldsMessage type) (notSolicitation : type ≠ ICMP6_TYPE_NS)
    (notEcho : type ≠ ICMP6_TYPE_ECHO) (notRouter : type ≠ ICMP6_TYPE_RA)
    (len : UInt16) : ether.dispatchReceived len = some (len, ether) := by
  have processed : ether.icmp6ProcessPacket = some (false, ether) := by
    unfold icmp6ProcessPacket
    rw [if_neg holds.ours, holds.isType, if_neg notSolicitation, if_neg notEcho,
      if_neg notRouter]
  unfold dispatchReceived
  rw [if_pos holds.isIcmp, processed]
  rfl

theorem dispatchReceived_of_foreign {ether : EtherSia}
    (foreign : protocol ether.buffer = IP6_PROTO_ICMP6 →
      ether.isOurAddress (destination ether.buffer) = none)
    (len : UInt16) : ether.dispatchReceived len = some (len, ether) := by
  unfold dispatchReceived icmp6ProcessPacket
  by_cases isIcmp : protocol ether.buffer = IP6_PROTO_ICMP6
  · rw [if_pos isIcmp, if_pos (foreign isIcmp)]
    rfl
  · exact if_neg isIcmp

theorem receivePacket_solicited {ether : EtherSia} {frame : Frame}
    (accepts : ether.Accepts frame)
    (holds : (ether.accepted frame).HoldsMessage ICMP6_TYPE_NS) :
    ether.receivePacket frame = some (0, (ether.accepted frame).icmp6NSReply) :=
  (receivePacket_of_accepts accepts).trans (dispatchReceived_solicited holds _)

theorem receivePacket_advertised {ether : EtherSia} {frame : Frame}
    (accepts : ether.Accepts frame)
    (holds : (ether.accepted frame).HoldsMessage ICMP6_TYPE_RA) :
    ether.receivePacket frame =
      (ether.accepted frame).icmp6ProcessRA.map fun after => (0, after) :=
  (receivePacket_of_accepts accepts).trans (dispatchReceived_advertised holds _)

/-! ### The buffer after `readFrame` -/

theorem loadFrame_agree (left right : EtherSia) (frame : Frame) :
    Agree (left.loadFrame frame).buffer (right.loadFrame frame).buffer 0
      frame.octets.length := by
  have agree := agree_store_self left.buffer right.buffer 0 frame.octets
  rwa [Nat.zero_add] at agree

/-- Behind the frame the buffer keeps its earlier contents. -/
theorem loadFrame_stale (ether : EtherSia) (frame : Frame) (last : Nat) :
    Agree (ether.loadFrame frame).buffer ether.buffer frame.octets.length last :=
  agree_store ether.buffer frame.octets (Or.inr (Nat.le_of_eq (Nat.zero_add _)))

/-! ### Acceptance and the frame's extent -/

/-- The packet ends inside the frame, and every result of the checks is the same
whatever the buffer held before, so they looked at nothing else. -/
structure PacketInsideFrame (ether : EtherSia) (frame : Frame) : Prop where
  within : packetEnd (ether.loadFrame frame).buffer ≤ frame.octets.length
  atMost : frame.octets.length ≤ ETHERSIA_MAX_PACKET_SIZE
  length : (length (ether.loadFrame frame).buffer).toNat =
    packetEnd (ether.loadFrame frame).buffer
  valid : ∀ other : EtherSia,
    isValid (other.loadFrame frame).buffer = isValid (ether.loadFrame frame).buffer
  checksum : ∀ other : EtherSia,
    calculateChecksum (other.loadFrame frame).buffer =
      calculateChecksum (ether.loadFrame frame).buffer

theorem packetInsideFrame_iff (ether : EtherSia) (frame : Frame) :
    PacketInsideFrame ether frame ↔
      packetEnd (ether.loadFrame frame).buffer ≤ frame.octets.length := by
  constructor
  · exact PacketInsideFrame.within
  · intro within
    have fits : frame.octets.length ≤ 600 := frame.fits
    have same (other : EtherSia) :
        Agree (ether.loadFrame frame).buffer (other.loadFrame frame).buffer 0
          (packetEnd (ether.loadFrame frame).buffer) :=
      (loadFrame_agree ether other frame).mono (Nat.le_refl _) within
    exact {
      within := within
      atMost := frame.fits
      length := length_toNat (by omega)
      valid := fun other => (isValid_congr ((same other).mono (by decide) le_rfl)).symm
      checksum := fun other =>
        (calculateChecksum_congr ((same other).mono (by decide) le_rfl)).symm }

/-- What `receivePacket` sums as the payload of a frame that ends too early: the
octets delivered, then the bytes of the buffer behind them. -/
def payloadWithStaleBytes (ether : EtherSia) (frame : Frame) : List UInt8 :=
  frame.octets.drop 54 ++
    bytesAt ether.buffer (max 54 frame.octets.length)
      (packetEnd (ether.loadFrame frame).buffer - max 54 frame.octets.length)

/-- A frame for this station that ends before its length field says and that
the bytes left in the buffer complete. -/
structure CompletedByStaleBytes (ether : EtherSia) (frame : Frame) : Prop where
  nonempty : frame.octets ≠ []
  tooShort : frame.octets.length < packetEnd (ether.loadFrame frame).buffer
  header : HeaderValid (ether.loadFrame frame).buffer
  addressed : (ether.loadFrame frame).checkEthernetAddresses = true
  sum : OnesComplement.sum (pseudoHeaderSum (ether.loadFrame frame).buffer)
    (OnesComplement.words (ether.payloadWithStaleBytes frame)) = 0xFFFF

theorem bytesAt_payload_of_tooShort {ether : EtherSia} {frame : Frame}
    (tooShort : frame.octets.length < packetEnd (ether.loadFrame frame).buffer) :
    bytesAt (ether.loadFrame frame).buffer payload
        (payloadLength (ether.loadFrame frame).buffer).toNat =
      ether.payloadWithStaleBytes frame := by
  have endIs : packetEnd (ether.loadFrame frame).buffer =
      54 + (payloadLength (ether.loadFrame frame).buffer).toNat := rfl
  have parts : (payloadLength (ether.loadFrame frame).buffer).toNat =
      frame.octets.length - 54 +
        (packetEnd (ether.loadFrame frame).buffer - max 54 frame.octets.length) := by
    omega
  have boundary : 54 + (frame.octets.length - 54) = max 54 frame.octets.length := by
    omega
  have delivered : bytesAt (ether.loadFrame frame).buffer 54
      (frame.octets.length - 54) = frame.octets.drop 54 :=
    bytesAt_store_drop ether.buffer frame.octets 54
  have stale : bytesAt (ether.loadFrame frame).buffer (max 54 frame.octets.length)
      (packetEnd (ether.loadFrame frame).buffer - max 54 frame.octets.length) =
      bytesAt ether.buffer (max 54 frame.octets.length)
        (packetEnd (ether.loadFrame frame).buffer - max 54 frame.octets.length) :=
    (loadFrame_stale ether frame _).bytesAt_eq (le_max_right _ _) le_rfl
  have start : payload = 54 := rfl
  rw [start]
  conv_lhs => rw [parts]
  rw [bytesAt_add, boundary, delivered, stale]
  rfl

theorem calculateChecksum_eq_zero_iff (memory : Memory) :
    calculateChecksum memory = 0 ↔
      OnesComplement.sum (pseudoHeaderSum memory)
        (OnesComplement.words
          (bytesAt memory payload (payloadLength memory).toNat)) = 0xFFFF := by
  have complement (word : UInt16) : ~~~word = 0 ↔ word = 0xFFFF := by
    rw [← UInt16.toNat_inj, ← UInt16.toNat_inj, OnesComplement.complement_toNat]
    have bound := word.toNat_lt
    change 65535 - word.toNat = 0 ↔ word.toNat = 65535
    omega
  rw [calculateChecksum_eq, chksum_eq_sum]
  exact complement _

theorem completedByStaleBytes_iff (ether : EtherSia) (frame : Frame) :
    CompletedByStaleBytes ether frame ↔
      ether.Accepts frame ∧
        frame.octets.length < packetEnd (ether.loadFrame frame).buffer := by
  constructor
  · intro completed
    refine ⟨⟨completed.nonempty, ?_⟩, completed.tooShort⟩
    apply (acceptsPacket_iff _).mpr
    refine ⟨(isValid_iff _).mpr ⟨completed.header.1, completed.header.2, ?_⟩,
      completed.addressed⟩
    rw [calculateChecksum_eq_zero_iff, bytesAt_payload_of_tooShort completed.tooShort]
    exact completed.sum
  · rintro ⟨⟨nonempty, accepts⟩, tooShort⟩
    obtain ⟨valid, addressed⟩ := (acceptsPacket_iff _).mp accepts
    obtain ⟨_, _, checksum⟩ := (isValid_iff _).mp valid
    refine ⟨nonempty, tooShort, headerValid_of_isValid valid, addressed, ?_⟩
    rw [← bytesAt_payload_of_tooShort tooShort]
    exact (calculateChecksum_eq_zero_iff _).mp checksum

/-- An accepted packet lies inside its frame unless stale bytes completed it. -/
theorem accepts_inside_iff (ether : EtherSia) (frame : Frame) :
    (ether.Accepts frame → PacketInsideFrame ether frame) ↔
      ¬ CompletedByStaleBytes ether frame := by
  rw [packetInsideFrame_iff, completedByStaleBytes_iff]
  constructor
  · rintro inside ⟨accepts, tooShort⟩
    exact absurd (inside accepts) (Nat.not_le.mpr tooShort)
  · intro notBoth accepts
    exact Nat.not_lt.mp fun tooShort => notBoth ⟨accepts, tooShort⟩

end EtherSia

/-! ### Runs -/

/-- What holds of every frame a step receives, in the state before the step. -/
def OnReceive {ι : Type} (property : EtherSia → Frame → Prop)
    (taken : Taken (Station ι) (StationEvent ι)) : Prop :=
  ∀ frame, taken.event = .receivePacket frame → property taken.before.ether frame

/-- In every run, over whatever the buffer holds at its start, each frame that
`receivePacket` accepts holds its packet unless stale bytes completed it. -/
theorem run_accepts_inside_iff {ι : Type} [DecidableEq ι] (station : Station ι)
    (events : List (StationEvent ι)) :
    Always Station.step station events
      (OnReceive fun ether frame =>
        (ether.Accepts frame → EtherSia.PacketInsideFrame ether frame) ↔
          ¬ EtherSia.CompletedByStaleBytes ether frame) :=
  fun taken _member frame _received =>
    EtherSia.accepts_inside_iff taken.before.ether frame

/-- A UDP packet of 16 payload bytes of which the frame delivers six: the ports
and the length, with a source port that makes the sum come out. -/
def truncatedDatagram : Frame :=
  exampleFrame 16 IP6_PROTO_UDP [0x04, 0x95, 0, 53, 0, 16] (by decide)

/-- The zeros behind the 60 octets complete the packet, and it is accepted. -/
theorem truncated_datagram_accepted :
    ¬ Always Station.step exampleStation [.receivePacket truncatedDatagram]
      (OnReceive fun ether frame =>
        ether.Accepts frame → EtherSia.PacketInsideFrame ether frame) := by
  have returns : (exampleStation.step (.receivePacket truncatedDatagram)).isSome := by
    decide +kernel
  obtain ⟨after, stepped⟩ := Option.isSome_iff_exists.mp returns
  have accepts : exampleStation.ether.Accepts truncatedDatagram :=
    ⟨by decide, by decide +kernel⟩
  rw [always_cons_of_step stepped]
  rintro ⟨inside, _⟩
  have within : packetEnd (exampleStation.ether.loadFrame truncatedDatagram).buffer ≤
      truncatedDatagram.octets.length := (inside truncatedDatagram rfl accepts).within
  exact absurd within (by decide +kernel)

end EtherSiaStack
