/-
What earlier packets can change.

`readFrame` overwrites the front of `_buffer`, and `receivePacket` takes the extent of
what it reads from the packet.  The outcome of a call is the same whatever the buffer
held before exactly when every packet that the frame can be completed to, and that is
accepted, lies in the frame together with what its handling reads.
-/

import EtherSiaStack.MessageReplies
import EtherSiaStack.StaleBytes
import EtherSiaStack.TamperDetection
import EtherSiaStack.UnsetAddress

namespace EtherSiaStack

open ByteMemory IPv6Packet

theorem SameUpTo.outcome_eq {last : Nat} {left right : EtherSia}
    (same : SameUpTo last left right) (result : UInt16) :
    right.outcome result = left.outcome result := by
  obtain ⟨_, rfl, _⟩ := same
  rfl

namespace EtherSia

/-- What can be told of a call, if it returns. -/
def outcomeOf (returned : Option (UInt16 × EtherSia)) : Option Outcome :=
  returned.map fun returned => returned.2.outcome returned.1

/-- The outcome of the call is the same whatever the buffer held before. -/
def IgnoresOldContents (ether : EtherSia) (frame : Frame) : Prop :=
  ∀ memory, AgreeOff (· < ETHERSIA_MAX_PACKET_SIZE) ether.buffer memory →
    outcomeOf ((ether.withBuffer memory).receivePacket frame) =
      outcomeOf (ether.receivePacket frame)

/-! ### What decides a packet -/

/-- The octets that were delivered tell the target of the solicitation from `own`. -/
def DeliversAnother (ether : EtherSia) (frame : Frame) (own : IPv6Address) : Prop :=
  ∃ index : Fin 16, ¬ StaleAt frame (62 + index) ∧
    (ICMPv6Packet.target ether.buffer).octet index ≠ own.octet index

/-- The target was delivered, or enough of it to tell that it is not ours. -/
def TargetDecided (ether : EtherSia) (frame : Frame) : Prop :=
  NoneStale frame 62 16 ∨
    ether.DeliversAnother frame ether.linkLocalAddress ∧
      ether.DeliversAnother frame ether.globalAddress

/-- What the handling of an ICMPv6 message for us reads was delivered. -/
structure MessageDecided (ether : EtherSia) (frame : Frame) : Prop where
  type : ¬ StaleAt frame 54
  target : ICMPv6Packet.type ether.buffer = ICMP6_TYPE_NS → ether.TargetDecided frame
  options : ICMPv6Packet.type ether.buffer = ICMP6_TYPE_RA →
    ether.autoConfigurationEnabled = true → ether.AdvertisementDecided frame

/-- The packet was delivered, and what its handling reads. -/
structure PacketDecided (ether : EtherSia) (frame : Frame) : Prop where
  packet : NoneStale frame 0 (packetEnd ether.buffer)
  message : protocol ether.buffer = IP6_PROTO_ICMP6 →
    ether.isOurAddress (destination ether.buffer) ≠ none → ether.MessageDecided frame

/-! ### One message over other stale bytes -/

section Redelivered

variable {ether : EtherSia} {frame : Frame} {memory : Memory}

theorem PartlyFilled.header (filled : PartlyFilled ether frame) :
    54 ≤ frame.octets.length :=
  Nat.le_trans (payload_le_packetEnd ether.buffer) filled.covered

/-- A packet that was delivered is left to the caller whatever lies behind it. -/
theorem PartlyFilled.ours_iff (filled : PartlyFilled ether frame)
    (redelivered : AgreeOff (StaleAt frame) ether.buffer memory) :
    (protocol memory = IP6_PROTO_ICMP6 ↔ protocol ether.buffer = IP6_PROTO_ICMP6) ∧
      (ether.withBuffer memory).isOurAddress (destination memory) =
        ether.isOurAddress (destination ether.buffer) := by
  have header := payload_le_packetEnd ether.buffer
  have start : payload = 54 := rfl
  have agree := (filled.agree redelivered).symm
  have sameProtocol : protocol memory = protocol ether.buffer :=
    agree 20 (Nat.zero_le _) (by omega)
  have sameDestination : destination memory = destination ether.buffer :=
    destination_congr (agree.mono (Nat.zero_le _) (by omega))
  rw [sameProtocol, sameDestination]
  exact ⟨Iff.rfl, rfl⟩

/-- The message is the same once its type was delivered. -/
theorem HoldsMessage.redelivered {type : UInt8} (holds : ether.HoldsMessage type)
    (filled : PartlyFilled ether frame) (typed : ¬ StaleAt frame 54)
    (redelivered : AgreeOff (StaleAt frame) ether.buffer memory) :
    (ether.withBuffer memory).HoldsMessage type := by
  obtain ⟨sameProtocol, sameOurs⟩ := filled.ours_iff redelivered
  exact {
    isIcmp := sameProtocol.mpr holds.isIcmp
    ours := sameOurs.trans_ne holds.ours
    isType := (redelivered 54 typed).trans holds.isType }

def dispatchOutcome (len : UInt16) (ether : EtherSia) : Option Outcome :=
  outcomeOf (ether.dispatchReceived len)

/-! #### Echo requests -/

theorem icmp6EchoReply_sameUpTo {left right : EtherSia} {last : Nat}
    (same : SameUpTo last left right) (inside : packetEnd left.buffer ≤ last)
    (short : packetEnd left.buffer < 65536) :
    SameUpTo last left.icmp6EchoReply right.icmp6EchoReply := by
  have header : 54 ≤ packetEnd left.buffer := payload_le_packetEnd left.buffer
  have prepared := same.prepareReply (header.trans inside)
  let answer : Memory → Memory := fun packet =>
    store (store packet 54 [ICMP6_TYPE_ECHO_REPLY]) 55 [0]
  have answered : SameUpTo last (left.prepareReply.modifyPacket answer)
      (right.prepareReply.modifyPacket answer) :=
    prepared.modifyPacket fun _packet agree => (agree.store_both 54 _).store_both 55 _
  have sameEnd : packetEnd (left.prepareReply.modifyPacket answer).buffer =
      packetEnd left.buffer := by
    simp [answer, packetEnd, modifyPacket, prepareReply]
  exact answered.icmp6PacketSend (sameEnd.trans_le inside) (sameEnd.trans_lt short)

theorem PartlyFilled.echo_same (filled : PartlyFilled ether frame)
    (typed : ¬ StaleAt frame 54) (holds : ether.HoldsMessage ICMP6_TYPE_ECHO)
    (len : UInt16) : ether.SameOver frame (dispatchOutcome len) := by
  intro memory redelivered
  have most : ETHERSIA_MAX_PACKET_SIZE = 600 := rfl
  have covered := filled.covered
  have room := filled.room
  have same : SameUpTo (packetEnd ether.buffer) ether (ether.withBuffer memory) :=
    ⟨memory, rfl, filled.agree redelivered⟩
  have sameReply := icmp6EchoReply_sameUpTo same le_rfl (by omega)
  unfold dispatchOutcome
  rw [dispatchReceived_echoed (holds.redelivered filled typed redelivered),
    dispatchReceived_echoed holds]
  exact congrArg some (sameReply.outcome_eq 0)

/-! #### Solicitations -/

theorem advertisement_sameUpTo {left right : EtherSia} (same : SameUpTo 78 left right) :
    SameUpTo 86 left.advertisement right.advertisement := by
  have prepared := same.prepareReply (by decide)
  obtain ⟨memory, rfl, _⟩ := same
  apply prepared.modifyPacket
  intro packet agree
  have header := (((((agree.store_both 21 [255]).store_both 18 (bytes16 32)).store_both 54
    [ICMP6_TYPE_NA]).store_both 55 [0]).store_both 58 [ICMP6_NA_FLAG_S]).store_both 59
      [0, 0, 0]
  -- the option is written behind the target
  exact ((header.store_onward [ICMP6_OPTION_TARGET_LINK_ADDRESS]).store_onward
    [1]).store_onward (blockBytes left.localMac.octet)

theorem advertisement_packetEnd (ether : EtherSia) :
    packetEnd ether.advertisement.buffer = 86 := by
  have isLength : payloadLength ether.advertisement.buffer = 32 := by
    simp [advertisement, modifyPacket]
  unfold packetEnd
  rw [isLength]
  rfl

theorem DeliversAnother.target_ne {own : IPv6Address}
    (another : ether.DeliversAnother frame own)
    (redelivered : AgreeOff (StaleAt frame) ether.buffer memory) :
    ICMPv6Packet.target memory ≠ own := by
  obtain ⟨index, visible, other⟩ := another
  intro same
  apply other
  rw [← same]
  exact (redelivered (62 + index) visible).symm

theorem PartlyFilled.solicited_same (filled : PartlyFilled ether frame)
    (typed : ¬ StaleAt frame 54) (holds : ether.HoldsMessage ICMP6_TYPE_NS)
    (decided : ether.TargetDecided frame) (len : UInt16) :
    ether.SameOver frame (dispatchOutcome len) := by
  intro memory redelivered
  unfold dispatchOutcome
  rw [dispatchReceived_solicited (holds.redelivered filled typed redelivered),
    dispatchReceived_solicited holds]
  apply congrArg some
  rcases decided with delivered | ⟨notLinkLocal, notGlobal⟩
  · have sameTarget : ICMPv6Packet.target memory = ICMPv6Packet.target ether.buffer :=
      congrArg IPv6Address.mk (blockAt_redelivered redelivered delivered)
    by_cases ours : ether.TargetIsOurs
    · have oursToo : (ether.withBuffer memory).TargetIsOurs := by
        unfold TargetIsOurs
        rw [withBuffer_buffer, sameTarget]
        exact ours
      have lastDelivered : 78 ≤ frame.octets.length := by
        have visible := delivered 77 (by decide) (by decide)
        have most : ETHERSIA_MAX_PACKET_SIZE = 600 := rfl
        unfold StaleAt at visible
        omega
      have same : SameUpTo 78 ether (ether.withBuffer memory) :=
        ⟨memory, rfl, redelivered.agree fun _address _lower upper =>
          not_staleAt_of_lt (Nat.lt_of_lt_of_le upper lastDelivered)⟩
      have sameReply := (advertisement_sameUpTo same).icmp6PacketSend
        (advertisement_packetEnd ether).le
        ((advertisement_packetEnd ether).trans_lt (by decide))
      rw [icmp6NSReply_of_target ((targetIsOurs_iff _).mp ours),
        icmp6NSReply_of_target ((targetIsOurs_iff _).mp oursToo)]
      exact sameReply.outcome_eq 0
    · have foreignToo : ¬ (ether.withBuffer memory).TargetIsOurs := by
        unfold TargetIsOurs
        rw [withBuffer_buffer, sameTarget]
        exact ours
      rw [icmp6NSReply_of_foreign ours, icmp6NSReply_of_foreign foreignToo]
      rfl
  · have foreign (packet : Memory)
        (redelivered : AgreeOff (StaleAt frame) ether.buffer packet) :
        ¬ (ether.withBuffer packet).TargetIsOurs :=
      not_or.mpr ⟨notLinkLocal.target_ne redelivered, notGlobal.target_ne redelivered⟩
    have here : ¬ ether.TargetIsOurs := foreign ether.buffer (AgreeOff.refl _ _)
    rw [icmp6NSReply_of_foreign here, icmp6NSReply_of_foreign (foreign memory redelivered)]
    rfl

/-- The target as the frame tells it, with the octets of `own` where it does not. -/
def targetFilledIn (ether : EtherSia) (frame : Frame) (own : IPv6Address) : Memory :=
  fun address =>
    if StaleAt frame address then store ether.buffer 62 (blockBytes own.octet) address
    else ether.buffer address

theorem targetFilledIn_agreeOff (ether : EtherSia) (frame : Frame) (own : IPv6Address) :
    AgreeOff (StaleAt frame) ether.buffer (ether.targetFilledIn frame own) :=
  fun _address visible => if_neg visible

theorem targetFilledIn_target {own : IPv6Address}
    (notAnother : ¬ ether.DeliversAnother frame own) :
    ICMPv6Packet.target (ether.targetFilledIn frame own) = own := by
  apply congrArg IPv6Address.mk
  funext index
  change ether.targetFilledIn frame own (62 + index) = own.octet index
  unfold targetFilledIn
  by_cases stale : StaleAt frame (62 + index)
  · rw [if_pos stale]
    exact congrFun (blockAt_store_self ether.buffer 62 own.octet) index
  · rw [if_neg stale]
    by_contra other
    exact notAnother ⟨index, stale, other⟩

theorem exists_byte_ne (first second : UInt8) : ∃ byte, byte ≠ first ∧ byte ≠ second := by
  by_contra none
  have taken (byte : UInt8) : byte = first ∨ byte = second := by
    by_contra neither
    exact none ⟨byte, not_or.mp neither⟩
  have zero := taken 0
  have one := taken 1
  have two := taken 2
  grind

theorem SameOver.icmp6NSReply_flag {len : UInt16}
    (same : ether.SameOver frame (dispatchOutcome len)) (filled : PartlyFilled ether frame)
    (typed : ¬ StaleAt frame 54) (holds : ether.HoldsMessage ICMP6_TYPE_NS)
    {left right : Memory} (toLeft : AgreeOff (StaleAt frame) ether.buffer left)
    (toRight : AgreeOff (StaleAt frame) ether.buffer right) :
    (ether.withBuffer left).icmp6NSReply.bufferContainsReceived =
      (ether.withBuffer right).icmp6NSReply.bufferContainsReceived := by
  have both := (same left toLeft).trans (same right toRight).symm
  unfold dispatchOutcome at both
  rw [dispatchReceived_solicited (holds.redelivered filled typed toLeft),
    dispatchReceived_solicited (holds.redelivered filled typed toRight)] at both
  exact congrArg Outcome.bufferContainsReceived (Option.some.inj both)

/-- If a byte of the target is stale, one of ours can be filled in and another address
too, unless what was delivered differs from ours. -/
theorem SameOver.deliversAnother {len : UInt16}
    (same : ether.SameOver frame (dispatchOutcome len)) (filled : PartlyFilled ether frame)
    (typed : ¬ StaleAt frame 54) (holds : ether.HoldsMessage ICMP6_TYPE_NS)
    (received : ether.bufferContainsReceived = true) {index : Fin 16}
    (stale : StaleAt frame (62 + index)) {own : IPv6Address}
    (isOwn : own = ether.linkLocalAddress ∨ own = ether.globalAddress) :
    ether.DeliversAnother frame own := by
  by_contra notAnother
  obtain ⟨byte, notLinkLocal, notGlobal⟩ :=
    exists_byte_ne (ether.linkLocalAddress.octet index) (ether.globalAddress.octet index)
  have toOurs := ether.targetFilledIn_agreeOff frame own
  have toForeign : AgreeOff (StaleAt frame) ether.buffer
      (Function.update ether.buffer (62 + index) byte) :=
    (AgreeOff.refl _ _).update stale byte
  have ours : (ether.withBuffer (ether.targetFilledIn frame own)).TargetIsOurs := by
    unfold TargetIsOurs
    rw [withBuffer_buffer, targetFilledIn_target notAnother]
    exact isOwn
  have octet : (ICMPv6Packet.target
      (Function.update ether.buffer (62 + index) byte)).octet index = byte :=
    Function.update_self _ _ _
  have foreign : ¬ (ether.withBuffer
      (Function.update ether.buffer (62 + index) byte)).TargetIsOurs := by
    rintro (isLinkLocal | isGlobal)
    · exact notLinkLocal (octet.symm.trans
        (congrFun (congrArg IPv6Address.octet isLinkLocal) index))
    · exact notGlobal (octet.symm.trans
        (congrFun (congrArg IPv6Address.octet isGlobal) index))
  have sameFlag := same.icmp6NSReply_flag filled typed holds toOurs toForeign
  rw [icmp6NSReply_of_target ((targetIsOurs_iff _).mp ours),
    icmp6NSReply_of_foreign foreign] at sameFlag
  have kept : (ether.withBuffer
      (Function.update ether.buffer (62 + index) byte)).bufferContainsReceived = true :=
    received
  rw [kept] at sameFlag
  cases sameFlag

theorem SameOver.targetDecided {len : UInt16}
    (same : ether.SameOver frame (dispatchOutcome len)) (filled : PartlyFilled ether frame)
    (typed : ¬ StaleAt frame 54) (holds : ether.HoldsMessage ICMP6_TYPE_NS)
    (received : ether.bufferContainsReceived = true) : ether.TargetDecided frame := by
  by_cases delivered : NoneStale frame 62 16
  · exact Or.inl delivered
  · unfold NoneStale at delivered
    push Not at delivered
    obtain ⟨address, lower, upper, stale⟩ := delivered
    obtain ⟨offset, rfl⟩ := Nat.exists_eq_add_of_le lower
    let index : Fin 16 := ⟨offset, by omega⟩
    have staleOctet : StaleAt frame (62 + index) := stale
    have another {own : IPv6Address}
        (isOwn : own = ether.linkLocalAddress ∨ own = ether.globalAddress) :=
      same.deliversAnother filled typed holds received staleOctet isOwn
    exact Or.inr ⟨another (Or.inl rfl), another (Or.inr rfl)⟩

/-! #### All messages -/

theorem dispatchOutcome_advertised (holds : ether.HoldsMessage ICMP6_TYPE_RA)
    (len : UInt16) : dispatchOutcome len ether = ether.advertisementOutcome := by
  unfold dispatchOutcome outcomeOf advertisementOutcome
  rw [dispatchReceived_advertised holds, Option.map_map]
  rfl

theorem PartlyFilled.advertised_same_iff (filled : PartlyFilled ether frame)
    (typed : ¬ StaleAt frame 54) (holds : ether.HoldsMessage ICMP6_TYPE_RA)
    (len : UInt16) :
    ether.SameOver frame (dispatchOutcome len) ↔
      (ether.autoConfigurationEnabled = true → ether.AdvertisementDecided frame) := by
  have isOutcome (memory : Memory)
      (redelivered : AgreeOff (StaleAt frame) ether.buffer memory) :=
    dispatchOutcome_advertised (holds.redelivered filled typed redelivered) len
  have isSame : ether.SameOver frame (dispatchOutcome len) ↔
      ether.SameOver frame advertisementOutcome := by
    unfold SameOver
    rw [dispatchOutcome_advertised holds]
    refine forall_congr' fun memory => forall_congr' fun redelivered => ?_
    rw [isOutcome memory redelivered]
  rw [isSame]
  by_cases enabled : ether.autoConfigurationEnabled = true
  · rw [sameAdvertisement_iff filled enabled]
    exact (imp_iff_right enabled).symm
  · have disabled : ether.autoConfigurationEnabled = false := Bool.eq_false_iff.mpr enabled
    refine iff_of_true (fun memory _ => ?_) fun isEnabled => absurd isEnabled enabled
    have disabledToo : (ether.withBuffer memory).autoConfigurationEnabled = false := disabled
    unfold advertisementOutcome icmp6ProcessRA
    rw [if_pos disabled, if_pos disabledToo]
    rfl

/-- The type of a message was delivered: over other bytes it would be answered or kept. -/
theorem SameOver.typed {len : UInt16} (same : ether.SameOver frame (dispatchOutcome len))
    (filled : PartlyFilled ether frame) (nonempty : len ≠ 0)
    (isIcmp : protocol ether.buffer = IP6_PROTO_ICMP6)
    (ours : ether.isOurAddress (destination ether.buffer) ≠ none) :
    ¬ StaleAt frame 54 := by
  intro stale
  have filledIn (type : UInt8) : AgreeOff (StaleAt frame) ether.buffer
      (Function.update ether.buffer 54 type) := (AgreeOff.refl _ _).update stale type
  have holds (type : UInt8) :
      (ether.withBuffer (Function.update ether.buffer 54 type)).HoldsMessage type := by
    obtain ⟨sameProtocol, sameOurs⟩ := filled.ours_iff (filledIn type)
    have isType : Function.update ether.buffer 54 type 54 = type :=
      Function.update_self 54 type ether.buffer
    exact ⟨sameProtocol.mpr isIcmp, sameOurs.trans_ne ours, isType⟩
  have both := (same _ (filledIn ICMP6_TYPE_ECHO)).trans
    (same _ (filledIn ICMP6_TYPE_ECHO_REPLY)).symm
  unfold dispatchOutcome at both
  rw [dispatchReceived_echoed (holds ICMP6_TYPE_ECHO),
    dispatchReceived_unhandled (holds ICMP6_TYPE_ECHO_REPLY) (by decide) (by decide)
      (by decide)] at both
  exact nonempty (congrArg Outcome.result (Option.some.inj both)).symm

theorem PartlyFilled.message_same_iff (filled : PartlyFilled ether frame) {len : UInt16}
    (nonempty : len ≠ 0) (received : ether.bufferContainsReceived = true)
    (isIcmp : protocol ether.buffer = IP6_PROTO_ICMP6)
    (ours : ether.isOurAddress (destination ether.buffer) ≠ none) :
    ether.SameOver frame (dispatchOutcome len) ↔ ether.MessageDecided frame := by
  constructor
  · intro same
    have typed := same.typed filled nonempty isIcmp ours
    exact {
      type := typed
      target := fun isType =>
        same.targetDecided filled typed ⟨isIcmp, ours, isType⟩ received
      options := fun isType =>
        (filled.advertised_same_iff typed ⟨isIcmp, ours, isType⟩ len).mp same }
  · rintro ⟨typed, target, options⟩
    by_cases isSolicitation : ICMPv6Packet.type ether.buffer = ICMP6_TYPE_NS
    · exact filled.solicited_same typed ⟨isIcmp, ours, isSolicitation⟩
        (target isSolicitation) len
    by_cases isEcho : ICMPv6Packet.type ether.buffer = ICMP6_TYPE_ECHO
    · exact filled.echo_same typed ⟨isIcmp, ours, isEcho⟩ len
    by_cases isRouter : ICMPv6Packet.type ether.buffer = ICMP6_TYPE_RA
    · exact (filled.advertised_same_iff typed ⟨isIcmp, ours, isRouter⟩ len).mpr
        (options isRouter)
    · intro memory redelivered
      have holds : ether.HoldsMessage (ICMPv6Packet.type ether.buffer) :=
        ⟨isIcmp, ours, rfl⟩
      unfold dispatchOutcome
      rw [dispatchReceived_unhandled (holds.redelivered filled typed redelivered)
          isSolicitation isEcho isRouter,
        dispatchReceived_unhandled holds isSolicitation isEcho isRouter]
      rfl

/-- A packet in the frame is dealt with the same over all stale bytes exactly when, if it
is a message for us, what its handling reads was delivered. -/
theorem PartlyFilled.packet_same_iff (filled : PartlyFilled ether frame) {len : UInt16}
    (nonempty : len ≠ 0) (received : ether.bufferContainsReceived = true) :
    ether.SameOver frame (dispatchOutcome len) ↔
      (protocol ether.buffer = IP6_PROTO_ICMP6 →
        ether.isOurAddress (destination ether.buffer) ≠ none →
          ether.MessageDecided frame) := by
  by_cases message : protocol ether.buffer = IP6_PROTO_ICMP6 ∧
      ether.isOurAddress (destination ether.buffer) ≠ none
  · obtain ⟨isIcmp, ours⟩ := message
    rw [filled.message_same_iff nonempty received isIcmp ours]
    exact ⟨fun decided _ _ => decided, fun decided => decided isIcmp ours⟩
  · have foreign : protocol ether.buffer = IP6_PROTO_ICMP6 →
        ether.isOurAddress (destination ether.buffer) = none :=
      fun isIcmp => not_not.mp fun ours => message ⟨isIcmp, ours⟩
    refine iff_of_true (fun memory redelivered => ?_)
      fun isIcmp ours => absurd ⟨isIcmp, ours⟩ message
    obtain ⟨sameProtocol, sameOurs⟩ := filled.ours_iff redelivered
    unfold dispatchOutcome
    rw [dispatchReceived_of_foreign foreign,
      dispatchReceived_of_foreign fun isIcmp =>
        sameOurs.trans (foreign (sameProtocol.mp isIcmp))]
    rfl

/-! ### Acceptance over other stale bytes -/

/-- What can be told of a call once the frame is in the buffer. -/
def examineOutcome (len : UInt16) (ether : EtherSia) : Option Outcome :=
  if ether.acceptsPacket then dispatchOutcome len ether
  else some ({ ether with bufferContainsReceived := false }.outcome 0)

/-- No accepted packet ends like a refused one: it is kept or something is sent. -/
theorem dispatchOutcome_ne_refused (received : ether.bufferContainsReceived = true)
    (len : UInt16) :
    dispatchOutcome len ether ≠
      some ({ ether with bufferContainsReceived := false }.outcome 0) := by
  intro same
  obtain ⟨⟨result, after⟩, returned, refused⟩ := Option.map_eq_some_iff.mp same
  have isFlag : after.bufferContainsReceived = false :=
    congrArg Outcome.bufferContainsReceived refused
  have isSent : after.sent = ether.sent := congrArg Outcome.sent refused
  have notSent (octets : List UInt8) : ether.sent ++ [octets] ≠ ether.sent := by simp
  refine dispatchReceived_cases returned (motive := fun _ later =>
    later.bufferContainsReceived = false → later.sent = ether.sent → False)
    ?_ ?_ ?_ ?_ isFlag isSent
  · intro isFlag _
    rw [received] at isFlag
    cases isFlag
  · intro _ isFlag isSent
    by_cases ours : ether.TargetIsOurs
    · rw [icmp6NSReply_of_target ((targetIsOurs_iff _).mp ours)] at isSent
      exact notSent _ isSent
    · rw [icmp6NSReply_of_foreign ours, received] at isFlag
      cases isFlag
  · intro _ _ isSent
    exact notSent _ isSent
  · intro _ walked walks isFlag _
    obtain ⟨_, _, _, rfl⟩ := icmp6ProcessRA_configuresOnly walks
    rw [received] at isFlag
    cases isFlag

theorem PartlyFilled.acceptsPacket_eq (filled : PartlyFilled ether frame)
    (redelivered : AgreeOff (StaleAt frame) ether.buffer memory) :
    (ether.withBuffer memory).acceptsPacket = ether.acceptsPacket :=
  acceptsPacket_congr rfl (filled.agree redelivered)

theorem PartlyFilled.examined_same_iff (filled : PartlyFilled ether frame)
    (accepts : ether.acceptsPacket = true) (len : UInt16) :
    ether.SameOver frame (examineOutcome len) ↔
      ether.SameOver frame (dispatchOutcome len) := by
  unfold SameOver examineOutcome
  refine forall_congr' fun memory => forall_congr' fun redelivered => ?_
  rw [filled.acceptsPacket_eq redelivered, accepts, if_pos rfl, if_pos rfl]

theorem PartlyFilled.of_noneStale (packet : NoneStale frame 0 (packetEnd ether.buffer))
    (room : frame.octets.length < ETHERSIA_MAX_PACKET_SIZE) : PartlyFilled ether frame where
  covered := by
    by_contra tooShort
    exact packet frame.octets.length (Nat.zero_le _) (by omega) ⟨le_rfl, room⟩
  room := room

/-- A stale byte of an accepted packet is summed, or the last byte of its header is stale
too and is; with another value there the packet is refused. -/
theorem SameOver.packet {len : UInt16} (same : ether.SameOver frame (examineOutcome len))
    (accepts : ether.acceptsPacket = true)
    (received : ether.bufferContainsReceived = true) :
    NoneStale frame 0 (packetEnd ether.buffer) := by
  rintro address - upper ⟨behind, inBuffer⟩
  have header : 54 ≤ packetEnd ether.buffer := payload_le_packetEnd ether.buffer
  have most : ETHERSIA_MAX_PACKET_SIZE = 600 := rfl
  let place := max address 53
  have stale : StaleAt frame place := ⟨by omega, by omega⟩
  let changed := Function.update ether.buffer place (ether.buffer place + 1)
  have refuses : (ether.withBuffer changed).acceptsPacket = false := by
    have valid := ((acceptsPacket_iff ether).mp accepts).1
    have invalid := isValid_store_summed valid (by omega : 22 ≤ place) (by omega)
      (add_one_ne (ether.buffer place))
    rw [store_byte] at invalid
    exact Bool.and_eq_false_iff.mpr (Or.inl invalid)
  have both := same changed ((AgreeOff.refl _ _).update stale _)
  unfold examineOutcome at both
  rw [refuses, accepts, if_neg (by decide), if_pos rfl] at both
  exact dispatchOutcome_ne_refused received len both.symm

theorem SameOver.packetDecided {len : UInt16}
    (same : ether.SameOver frame (examineOutcome len)) (nonempty : len ≠ 0)
    (room : frame.octets.length < ETHERSIA_MAX_PACKET_SIZE)
    (accepts : ether.acceptsPacket = true)
    (received : ether.bufferContainsReceived = true) : ether.PacketDecided frame := by
  have packet := same.packet accepts received
  have filled := PartlyFilled.of_noneStale packet room
  have sameDispatch := (filled.examined_same_iff accepts len).mp same
  exact ⟨packet, (filled.packet_same_iff nonempty received).mp sameDispatch⟩

theorem PacketDecided.sameOver {len : UInt16} (decided : ether.PacketDecided frame)
    (nonempty : len ≠ 0) (room : frame.octets.length < ETHERSIA_MAX_PACKET_SIZE)
    (accepts : ether.acceptsPacket = true)
    (received : ether.bufferContainsReceived = true) :
    ether.SameOver frame (examineOutcome len) := by
  have filled := PartlyFilled.of_noneStale decided.packet room
  apply (filled.examined_same_iff accepts len).mpr
  exact (filled.packet_same_iff nonempty received).mpr decided.message

/-- Which of the contents is the old one does not matter. -/
theorem SameOver.redelivered {observed : EtherSia → Option Outcome}
    (same : ether.SameOver frame observed)
    (redelivered : AgreeOff (StaleAt frame) ether.buffer memory) :
    (ether.withBuffer memory).SameOver frame observed :=
  fun other toOther =>
    (same other (redelivered.trans toOther)).trans (same memory redelivered).symm

theorem examined_same_iff {len : UInt16} (nonempty : len ≠ 0)
    (room : frame.octets.length < ETHERSIA_MAX_PACKET_SIZE)
    (received : ether.bufferContainsReceived = true) :
    ether.SameOver frame (examineOutcome len) ↔
      ∀ memory, AgreeOff (StaleAt frame) ether.buffer memory →
        (ether.withBuffer memory).acceptsPacket = true →
          (ether.withBuffer memory).PacketDecided frame := by
  constructor
  · intro same memory redelivered accepts
    exact (same.redelivered redelivered).packetDecided nonempty room accepts received
  · intro decided memory redelivered
    by_cases accepted : ∃ other, AgreeOff (StaleAt frame) ether.buffer other ∧
        (ether.withBuffer other).acceptsPacket = true
    · obtain ⟨other, toOther, accepts⟩ := accepted
      have same := (decided other toOther accepts).sameOver nonempty room accepts received
      have fromOther := same memory (toOther.symm.trans redelivered)
      exact fromOther.trans (same ether.buffer toOther.symm).symm
    · have refuses (packet : Memory) (toPacket : AgreeOff (StaleAt frame) ether.buffer packet) :
          ¬ (ether.withBuffer packet).acceptsPacket = true :=
        fun accepts => accepted ⟨packet, toPacket, accepts⟩
      have refusesHere : ¬ ether.acceptsPacket = true := refuses _ (AgreeOff.refl _ _)
      unfold examineOutcome
      rw [if_neg (refuses memory redelivered), if_neg refusesHere]
      rfl

/-- A frame that fills the buffer leaves nothing of it. -/
theorem examined_of_full (full : ETHERSIA_MAX_PACKET_SIZE ≤ frame.octets.length)
    (len : UInt16) :
    ether.SameOver frame (examineOutcome len) ∧ ether.PacketDecided frame := by
  have delivered (address : Nat) : ¬ StaleAt frame address := fun stale =>
    Nat.not_le.mpr stale.2 (full.trans stale.1)
  have noneStale (first count : Nat) : NoneStale frame first count :=
    fun address _ _ => delivered address
  constructor
  · intro memory redelivered
    have same : memory = ether.buffer := funext fun address =>
      redelivered address (delivered address)
    rw [same]
    rfl
  · exact {
      packet := noneStale _ _
      message := fun _ _ => {
        type := delivered 54
        target := fun _ => Or.inl (noneStale _ _)
        options := fun _ _ => {
          lengths := fun option _ => delivered (option + 1)
          effects := Or.inr {
            router := fun _ _ => noneStale _ _
            resolver := fun _ _ => noneStale _ _
            announced := fun _ _ _ => ⟨noneStale _ _, noneStale _ _⟩ } } } }

end Redelivered

/-! ### One call -/

section Call

variable {ether : EtherSia} {frame : Frame} {memory : Memory}

theorem outcomeOf_receivePacket (nonempty : frame.octets ≠ []) :
    outcomeOf (ether.receivePacket frame) =
      examineOutcome (UInt16.ofNat frame.octets.length) (ether.accepted frame) := by
  by_cases accepts : ether.Accepts frame
  · have checked : (ether.accepted frame).acceptsPacket = true := accepts.2
    unfold examineOutcome
    rw [receivePacket_of_accepts accepts, if_pos checked]
    rfl
  · have refused : ¬ (ether.accepted frame).acceptsPacket = true := fun checked =>
      accepts ⟨nonempty, checked⟩
    unfold examineOutcome
    rw [receivePacket_of_not_accepts accepts, if_neg refused]
    rfl

/-- `readFrame` leaves the stale bytes and no others. -/
theorem store_agreeOff (redelivered : AgreeOff (· < ETHERSIA_MAX_PACKET_SIZE) ether.buffer
    memory) :
    AgreeOff (StaleAt frame) (ether.accepted frame).buffer
      (store memory 0 frame.octets) := by
  intro address visible
  by_cases delivered : address < frame.octets.length
  · exact agree_store_self memory ether.buffer 0 frame.octets address (Nat.zero_le _)
      (by omega)
  · have behind : ¬ address < ETHERSIA_MAX_PACKET_SIZE := fun inBuffer =>
      visible ⟨Nat.not_lt.mp delivered, inBuffer⟩
    have outside : 0 + frame.octets.length ≤ address := by omega
    have same : memory address = ether.buffer address := redelivered address behind
    exact (store_after memory frame.octets outside).trans
      (same.trans (store_after ether.buffer frame.octets outside).symm)

/-- A frame read over bytes that hold it changes nothing. -/
theorem store_of_agreeOff (redelivered : AgreeOff (StaleAt frame) (ether.accepted frame).buffer
    memory) : store memory 0 frame.octets = memory := by
  funext address
  by_cases delivered : address < frame.octets.length
  · have same := agree_store_self memory ether.buffer 0 frame.octets address (Nat.zero_le _)
      (by omega)
    exact same.trans (redelivered address (not_staleAt_of_lt delivered)).symm
  · exact store_after memory frame.octets (by omega)

theorem agreeOff_of_stale (redelivered : AgreeOff (StaleAt frame) (ether.accepted frame).buffer
    memory) : AgreeOff (· < ETHERSIA_MAX_PACKET_SIZE) ether.buffer memory := by
  intro address behind
  have fits := frame.fits
  have visible : ¬ StaleAt frame address := fun stale => behind stale.2
  have outside : 0 + frame.octets.length ≤ address := by omega
  have kept : (ether.accepted frame).buffer address = ether.buffer address :=
    store_after ether.buffer frame.octets outside
  exact (redelivered address visible).trans kept

/-- Old contents are told apart by the stale bytes alone. -/
theorem forall_oldContents_iff {property : EtherSia → Prop} :
    (∀ memory, AgreeOff (· < ETHERSIA_MAX_PACKET_SIZE) ether.buffer memory →
      property ((ether.withBuffer memory).accepted frame)) ↔
      ∀ memory, AgreeOff (StaleAt frame) (ether.accepted frame).buffer memory →
        property ((ether.accepted frame).withBuffer memory) := by
  constructor
  · intro holds memory redelivered
    have reached : (ether.withBuffer memory).accepted frame =
        (ether.accepted frame).withBuffer memory :=
      congrArg (ether.accepted frame).withBuffer (store_of_agreeOff redelivered)
    rw [← reached]
    exact holds memory (agreeOff_of_stale redelivered)
  · intro holds memory redelivered
    exact holds _ (store_agreeOff redelivered)

/-- The outcome of a call is the same over all old contents of the buffer exactly when
the frame decides every packet that they complete it to and that is accepted. -/
theorem ignoresOldContents_iff (ether : EtherSia) (frame : Frame) :
    ether.IgnoresOldContents frame ↔
      ∀ memory, AgreeOff (· < ETHERSIA_MAX_PACKET_SIZE) ether.buffer memory →
        (ether.withBuffer memory).Accepts frame →
          ((ether.withBuffer memory).accepted frame).PacketDecided frame := by
  by_cases nonempty : frame.octets = []
  · refine iff_of_true (fun memory _ => ?_) fun _ _ accepts => absurd nonempty accepts.1
    have noLength : ¬ UInt16.ofNat frame.octets.length ≠ 0 := fun nonzero =>
      (frame_length_ne_zero_iff frame).mp nonzero nonempty
    unfold receivePacket
    dsimp only
    rw [if_neg noLength, if_neg noLength]
    rfl
  · have length := (frame_length_ne_zero_iff frame).mpr nonempty
    have isSame : ether.IgnoresOldContents frame ↔ (ether.accepted frame).SameOver frame
        (examineOutcome (UInt16.ofNat frame.octets.length)) := by
      have examined := @forall_oldContents_iff ether frame fun held =>
        examineOutcome (UInt16.ofNat frame.octets.length) held =
          examineOutcome (UInt16.ofNat frame.octets.length) (ether.accepted frame)
      unfold IgnoresOldContents SameOver
      rw [← examined]
      refine forall_congr' fun memory => forall_congr' fun _ => ?_
      rw [outcomeOf_receivePacket nonempty, outcomeOf_receivePacket nonempty]
    have isDecided := @forall_oldContents_iff ether frame fun held =>
      held.acceptsPacket = true → held.PacketDecided frame
    have accepts (memory : Memory) : (ether.withBuffer memory).Accepts frame ↔
        ((ether.withBuffer memory).accepted frame).acceptsPacket = true :=
      and_iff_right nonempty
    simp only [accepts]
    rw [isSame, isDecided]
    by_cases room : frame.octets.length < ETHERSIA_MAX_PACKET_SIZE
    · exact examined_same_iff length room rfl
    · have full := Nat.not_lt.mp room
      exact iff_of_true (examined_of_full full _).1 fun _ _ _ => (examined_of_full full 0).2

end Call

/-- The contents of the buffer after a packet that filled it with ones. -/
def leftBehind (ether : EtherSia) : Memory := fun address =>
  if address < ETHERSIA_MAX_PACKET_SIZE then 1 else ether.buffer address

/-- Ten zeros of an earlier packet complete the datagram, and other bytes do not. -/
theorem truncated_datagram_not_ignoring :
    ¬ ∀ (ether : EtherSia) (frame : Frame), ether.IgnoresOldContents frame := by
  intro ignores
  let ether := exampleStation.ether
  have leftOver : AgreeOff (· < ETHERSIA_MAX_PACKET_SIZE) ether.buffer ether.leftBehind :=
    fun _address behind => if_neg behind
  have same := congrArg (Option.map Outcome.result)
    (ignores ether truncatedDatagram ether.leftBehind leftOver)
  exact absurd same (by decide +kernel)

end EtherSia

end EtherSiaStack
