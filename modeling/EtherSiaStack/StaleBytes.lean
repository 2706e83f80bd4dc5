/-
Router advertisements and the bytes a frame leaves as they were.

`readFrame` overwrites the front of `_buffer`, and the rest of it keeps what earlier
packets left there.  The walk over the options of an advertisement settles the
addresses without those bytes exactly when the length bytes it comes to, the last
router, the last resolver and the first prefix it may take lie off them, or when
it never ends.
-/

import EtherSiaStack.OptionList

namespace EtherSiaStack

open ByteMemory IPv6Packet FuelLoop

/-- A byte of `_buffer` that the frame leaves as it was. -/
def StaleAt (frame : Frame) (address : Nat) : Prop :=
  frame.octets.length ≤ address ∧ address < ETHERSIA_MAX_PACKET_SIZE

instance (frame : Frame) : DecidablePred (StaleAt frame) := fun _address =>
  inferInstanceAs (Decidable (_ ∧ _))

/-- The frame leaves no byte of the range as it was. -/
def NoneStale (frame : Frame) (first count : Nat) : Prop :=
  ∀ address, first ≤ address → address < first + count → ¬ StaleAt frame address

theorem not_staleAt_of_lt {frame : Frame} {address : Nat}
    (delivered : address < frame.octets.length) : ¬ StaleAt frame address :=
  fun stale => Nat.not_le.mpr delivered stale.1

/-- What can be told of a call of `receivePacket`: its result, whether a packet is
held, the frames sent so far and the addresses an advertisement sets. -/
@[ext] structure Outcome where
  result : UInt16
  bufferContainsReceived : Bool
  sent : List (List UInt8)
  globalAddress : IPv6Address
  routerMac : MACAddress
  dnsServerAddress : IPv6Address

namespace EtherSia

def outcome (ether : EtherSia) (result : UInt16) : Outcome where
  result := result
  bufferContainsReceived := ether.bufferContainsReceived
  sent := ether.sent
  globalAddress := ether.globalAddress
  routerMac := ether.routerMac
  dnsServerAddress := ether.dnsServerAddress

/-- What is observed is the same over all stale bytes. -/
def SameOver (ether : EtherSia) (frame : Frame) (observed : EtherSia → Option Outcome) :
    Prop :=
  ∀ memory, AgreeOff (StaleAt frame) ether.buffer memory →
    observed (ether.withBuffer memory) = observed ether

/-! ### What decides an advertisement -/

/-- The option may be a prefix to take, as far as the frame tells. -/
def MayBePrefix (ether : EtherSia) (frame : Frame) (option : Nat) : Prop :=
  ether.buffer option = ICMP6_OPTION_PREFIX_INFORMATION ∧
    (StaleAt frame (option + 2) ∨ ether.buffer (option + 2) = 64) ∧
      (StaleAt frame (option + 3) ∨ ether.buffer (option + 3) &&& 0xC0 = 0xC0)

instance (ether : EtherSia) (frame : Frame) : DecidablePred (ether.MayBePrefix frame) :=
  fun _option => inferInstanceAs (Decidable (_ ∧ (_ ∨ _) ∧ (_ ∨ _)))

def firstPrefix (ether : EtherSia) (frame : Frame) : Option Nat :=
  (raOptionList ether.buffer).find? fun option => ether.MayBePrefix frame option

/-- What the walk takes its addresses from was all delivered. -/
structure AddressesDelivered (ether : EtherSia) (frame : Frame) : Prop where
  router : ∀ option, lastOption ether.buffer ICMP6_OPTION_SOURCE_LINK_ADDRESS =
    some option → NoneStale frame (option + 2) 6
  resolver : ∀ option, lastOption ether.buffer ICMP6_OPTION_RECURSIVE_DNS =
    some option → NoneStale frame (option + 8) 16
  announced : ether.globalAddress.isZero = true →
    ∀ option, ether.firstPrefix frame = some option →
      NoneStale frame (option + 2) 2 ∧ NoneStale frame (option + 16) 8

/-- The length byte of each option was delivered, and what the walk takes from the
options, unless one of them keeps it from ending. -/
structure AdvertisementDecided (ether : EtherSia) (frame : Frame) : Prop where
  lengths : ∀ option ∈ raOptionList ether.buffer, ¬ StaleAt frame (option + 1)
  effects : (∃ option ∈ raOptionList ether.buffer, ether.buffer (option + 1) = 0) ∨
    ether.AddressesDelivered frame

/-- What the walk makes of the advertisement in the buffer, if it ends. -/
def advertisementOutcome (ether : EtherSia) : Option Outcome :=
  ether.icmp6ProcessRA.map fun after => after.outcome 0

theorem setEui64_octet (address : IPv6Address) (mac : MACAddress) (index : Fin 8) :
    (address.setEui64 mac).octet (index.castLE (by decide)) =
      address.octet (index.castLE (by decide)) := by
  fin_cases index <;> rfl

theorem setEui64_congr {left right : IPv6Address} {mac : MACAddress}
    (same : ∀ index : Fin 8, left.octet (index.castLE (by decide)) =
      right.octet (index.castLE (by decide))) :
    left.setEui64 mac = right.setEui64 mac := by
  have zero : left.octet 0 = right.octet 0 := same 0
  have one : left.octet 1 = right.octet 1 := same 1
  have two : left.octet 2 = right.octet 2 := same 2
  have three : left.octet 3 = right.octet 3 := same 3
  have four : left.octet 4 = right.octet 4 := same 4
  have five : left.octet 5 = right.octet 5 := same 5
  have six : left.octet 6 = right.octet 6 := same 6
  have seven : left.octet 7 = right.octet 7 := same 7
  unfold IPv6Address.setEui64
  rw [zero, one, two, three, four, five, six, seven]

/-! ### Other contents of the stale bytes -/

section Redelivered

variable {ether : EtherSia} {frame : Frame} {memory : Memory}

/-- The packet was delivered and the buffer is longer than the frame. -/
structure PartlyFilled (ether : EtherSia) (frame : Frame) : Prop where
  covered : packetEnd ether.buffer ≤ frame.octets.length
  room : frame.octets.length < ETHERSIA_MAX_PACKET_SIZE

theorem PartlyFilled.agree (filled : PartlyFilled ether frame)
    (redelivered : AgreeOff (StaleAt frame) ether.buffer memory) :
    Agree ether.buffer memory 0 (packetEnd ether.buffer) :=
  redelivered.agree fun _address _lower upper =>
    not_staleAt_of_lt (Nat.lt_of_lt_of_le upper filled.covered)

theorem PartlyFilled.payloadLength_eq (filled : PartlyFilled ether frame)
    (redelivered : AgreeOff (StaleAt frame) ether.buffer memory) :
    payloadLength memory = payloadLength ether.buffer := by
  have header := payload_le_packetEnd ether.buffer
  have start : payload = 54 := rfl
  exact ((filled.agree redelivered).u16At_eq (Nat.zero_le 18) (by omega)).symm

theorem PartlyFilled.packetEnd_eq (filled : PartlyFilled ether frame)
    (redelivered : AgreeOff (StaleAt frame) ether.buffer memory) :
    packetEnd memory = packetEnd ether.buffer := by
  unfold packetEnd
  rw [filled.payloadLength_eq redelivered]

theorem PartlyFilled.raOptionsEnd_eq (filled : PartlyFilled ether frame)
    (redelivered : AgreeOff (StaleAt frame) ether.buffer memory) :
    raOptionsEnd memory = raOptionsEnd ether.buffer := by
  unfold raOptionsEnd optionBytes
  rw [filled.payloadLength_eq redelivered]

/-- The type of an option on the list was delivered. -/
theorem PartlyFilled.type_eq (filled : PartlyFilled ether frame)
    (redelivered : AgreeOff (StaleAt frame) ether.buffer memory) {option : Nat}
    (member : option ∈ raOptionList ether.buffer) : memory option = ether.buffer option :=
  ((filled.agree redelivered) option (Nat.zero_le _) (mem_raOptionList member).2).symm

theorem PartlyFilled.raOptionList_eq (filled : PartlyFilled ether frame)
    (redelivered : AgreeOff (StaleAt frame) ether.buffer memory)
    (lengths : ∀ option ∈ raOptionList ether.buffer, ¬ StaleAt frame (option + 1)) :
    raOptionList memory = raOptionList ether.buffer := by
  unfold raOptionList at lengths ⊢
  rw [filled.raOptionsEnd_eq redelivered]
  exact optionsFrom_congr fun option member =>
    redelivered (option + 1) (lengths option member)

theorem PartlyFilled.lastOption_eq (filled : PartlyFilled ether frame)
    (redelivered : AgreeOff (StaleAt frame) ether.buffer memory)
    (lengths : ∀ option ∈ raOptionList ether.buffer, ¬ StaleAt frame (option + 1))
    (type : UInt8) : lastOption memory type = lastOption ether.buffer type := by
  unfold lastOption
  rw [filled.raOptionList_eq redelivered lengths]
  apply List.find?_congr
  intro option member
  rw [filled.type_eq redelivered (List.mem_reverse.mp member)]

/-- An option that is a prefix to take over other stale bytes may be one. -/
theorem PartlyFilled.mayBePrefix (filled : PartlyFilled ether frame)
    (redelivered : AgreeOff (StaleAt frame) ether.buffer memory) {option : Nat}
    (member : option ∈ raOptionList ether.buffer)
    (isPrefix : PrefixInformationAt memory option) : ether.MayBePrefix frame option := by
  obtain ⟨type, prefixLength, flags⟩ := isPrefix
  rw [filled.type_eq redelivered member] at type
  refine ⟨type, ?_, ?_⟩
  · by_cases stale : StaleAt frame (option + 2)
    · exact Or.inl stale
    · rw [redelivered _ stale] at prefixLength
      exact Or.inr prefixLength
  · by_cases stale : StaleAt frame (option + 3)
    · exact Or.inl stale
    · rw [redelivered _ stale] at flags
      exact Or.inr flags

/-- If it was delivered as far as the test reads, it is one. -/
theorem MayBePrefix.prefixInformation {option : Nat}
    (mayBe : ether.MayBePrefix frame option)
    (redelivered : AgreeOff (StaleAt frame) ether.buffer memory)
    (type : memory option = ether.buffer option)
    (delivered : NoneStale frame (option + 2) 2) : PrefixInformationAt memory option := by
  obtain ⟨isType, prefixLength, flags⟩ := mayBe
  have lengthDelivered := delivered (option + 2) le_rfl (by omega)
  have flagsDelivered := delivered (option + 3) (by omega) (by omega)
  refine ⟨type.trans isType, ?_, ?_⟩
  · rw [redelivered _ lengthDelivered]
    exact prefixLength.resolve_left lengthDelivered
  · rw [redelivered _ flagsDelivered]
    exact flags.resolve_left flagsDelivered

theorem blockAt_redelivered (redelivered : AgreeOff (StaleAt frame) ether.buffer memory)
    {first size : Nat} (delivered : NoneStale frame first size) :
    (blockAt memory first : Fin size → UInt8) = blockAt ether.buffer first :=
  ((redelivered.agree delivered).blockAt_eq le_rfl le_rfl).symm

/-- The prefix that is taken, as long as what the test reads of it was delivered. -/
theorem PartlyFilled.find?_prefix (filled : PartlyFilled ether frame)
    (redelivered : AgreeOff (StaleAt frame) ether.buffer memory)
    (tested : ∀ option, ether.firstPrefix frame = some option →
      NoneStale frame (option + 2) 2) :
    (raOptionList ether.buffer).find? (fun option => PrefixInformationAt memory option) =
      ether.firstPrefix frame := by
  cases found : ether.firstPrefix frame with
  | none =>
      apply List.find?_eq_none.mpr
      intro option member isPrefix
      have notOne := List.find?_eq_none.mp found option member
      exact notOne (decide_eq_true
        (filled.mayBePrefix redelivered member (of_decide_eq_true isPrefix)))
  | some option =>
      obtain ⟨mayBe, before, behind, isList, noneBefore⟩ :=
        List.find?_eq_some_iff_append.mp found
      have isOption : option ∈ raOptionList ether.buffer := List.mem_of_find?_eq_some found
      apply List.find?_eq_some_iff_append.mpr
      refine ⟨?_, before, behind, isList, fun other member => ?_⟩
      · exact decide_eq_true ((of_decide_eq_true mayBe).prefixInformation redelivered
          (filled.type_eq redelivered isOption) (tested option found))
      · have onList : other ∈ raOptionList ether.buffer := by
          rw [isList]
          exact List.mem_append_left _ member
        have notOne : ¬ ether.MayBePrefix frame other := by
          simpa using noneBefore other member
        simpa using fun isPrefix => notOne (filled.mayBePrefix redelivered onList isPrefix)

/-! ### What the walk leaves over other stale bytes -/

/-- What a walk that ends leaves, over the bytes given. -/
def advertised (ether : EtherSia) (memory : Memory) : Outcome where
  result := 0
  bufferContainsReceived := ether.bufferContainsReceived
  sent := ether.sent
  globalAddress :=
    if ether.globalAddress.isZero then
      (((raOptionList memory).find? fun option => PrefixInformationAt memory option).map
        (ether.withBuffer memory).announcedAddress).getD ether.globalAddress
    else ether.globalAddress
  routerMac := ((lastOption memory ICMP6_OPTION_SOURCE_LINK_ADDRESS).map fun option =>
    (⟨blockAt memory (option + 2)⟩ : MACAddress)).getD ether.routerMac
  dnsServerAddress := ((lastOption memory ICMP6_OPTION_RECURSIVE_DNS).map fun option =>
    (⟨blockAt memory (option + 8)⟩ : IPv6Address)).getD ether.dnsServerAddress

theorem advertisementOutcome_of_ends (enabled : ether.autoConfigurationEnabled = true)
    (nonzero : ∀ option ∈ raOptionList memory, memory (option + 1) ≠ 0) :
    (ether.withBuffer memory).advertisementOutcome = some (ether.advertised memory) := by
  have sameEnabled : (ether.withBuffer memory).autoConfigurationEnabled = true := enabled
  let walked := (raOptionList memory).foldl raOption (ether.withBuffer memory)
  have isGlobal : walked.globalAddress = (ether.advertised memory).globalAddress := by
    dsimp only [advertised]
    split
    · rename_i unset
      exact foldl_globalAddress _ unset
    · rename_i isSet
      exact foldl_keeps_globalAddress _ (Bool.eq_false_iff.mpr isSet)
  have isRouter := foldl_routerMac (ether.withBuffer memory)
  have isResolver := foldl_dnsServerAddress (ether.withBuffer memory)
  obtain ⟨_, _, _, same⟩ :=
    foldl_raOption_configuresOnly (raOptionList memory) (ether.withBuffer memory)
  have isFlag : walked.bufferContainsReceived = ether.bufferContainsReceived :=
    (congrArg EtherSia.bufferContainsReceived same).trans rfl
  have isSent : walked.sent = ether.sent := (congrArg EtherSia.sent same).trans rfl
  unfold advertisementOutcome
  rw [icmp6ProcessRA_eq_foldl sameEnabled nonzero, Option.map_some, Option.some_inj]
  exact Outcome.ext rfl isFlag isSent isGlobal isRouter isResolver

theorem advertisementOutcome_of_zero (enabled : ether.autoConfigurationEnabled = true)
    {option : Nat} (member : option ∈ raOptionList memory)
    (zero : memory (option + 1) = 0) :
    (ether.withBuffer memory).advertisementOutcome = none := by
  have sameEnabled : (ether.withBuffer memory).autoConfigurationEnabled = true := enabled
  unfold advertisementOutcome
  rw [icmp6ProcessRA_eq_none sameEnabled member zero]
  rfl

/-- The address depends on the first half of the prefix. -/
theorem announcedAddress_eq_iff (left right : EtherSia)
    (sameMac : left.localMac = right.localMac) (option : Nat) :
    left.announcedAddress option = right.announcedAddress option ↔
      (blockAt left.buffer (option + 16) : Fin 8 → UInt8) =
        blockAt right.buffer (option + 16) := by
  unfold announcedAddress
  rw [sameMac]
  constructor
  · intro same
    funext index
    have octets := congrFun (congrArg IPv6Address.octet same) (index.castLE (by decide))
    rwa [setEui64_octet, setEui64_octet] at octets
  · intro same
    exact setEui64_congr fun index => congrFun same index

theorem AddressesDelivered.announcedAddress_eq (delivered : ether.AddressesDelivered frame)
    (redelivered : AgreeOff (StaleAt frame) ether.buffer memory)
    (unset : ether.globalAddress.isZero = true) {option : Nat}
    (found : ether.firstPrefix frame = some option) :
    (ether.withBuffer memory).announcedAddress option =
      (ether.withBuffer ether.buffer).announcedAddress option := by
  have sameBlock := blockAt_redelivered redelivered
    (delivered.announced unset option found).2
  exact (announcedAddress_eq_iff (ether.withBuffer memory) (ether.withBuffer ether.buffer)
    rfl option).mpr sameBlock

theorem AddressesDelivered.globalAddress_eq (delivered : ether.AddressesDelivered frame)
    (filled : PartlyFilled ether frame)
    (redelivered : AgreeOff (StaleAt frame) ether.buffer memory)
    (sameList : raOptionList memory = raOptionList ether.buffer) :
    (ether.advertised memory).globalAddress =
      (ether.advertised ether.buffer).globalAddress := by
  unfold advertised
  dsimp only
  by_cases unset : ether.globalAddress.isZero = true
  · have tested option (isFirst : ether.firstPrefix frame = some option) :=
      (delivered.announced unset option isFirst).1
    rw [if_pos unset, if_pos unset, sameList, filled.find?_prefix redelivered tested,
      filled.find?_prefix (AgreeOff.refl _ _) tested]
    cases found : ether.firstPrefix frame with
    | none => rw [Option.map_none, Option.map_none]
    | some option =>
        rw [Option.map_some, Option.map_some,
          delivered.announcedAddress_eq redelivered unset found]
  · rw [if_neg unset, if_neg unset]

/-- A field that comes from the last option of a type, if that was delivered. -/
theorem PartlyFilled.lastField_eq (filled : PartlyFilled ether frame)
    (redelivered : AgreeOff (StaleAt frame) ether.buffer memory)
    (lengths : ∀ option ∈ raOptionList ether.buffer, ¬ StaleAt frame (option + 1))
    {type : UInt8} {offset size : Nat}
    (delivered : ∀ option, lastOption ether.buffer type = some option →
      NoneStale frame (option + offset) size)
    {α : Type} (field : (Fin size → UInt8) → α) (unset : α) :
    ((lastOption memory type).map fun option =>
        field (blockAt memory (option + offset))).getD unset =
      ((lastOption ether.buffer type).map fun option =>
        field (blockAt ether.buffer (option + offset))).getD unset := by
  rw [filled.lastOption_eq redelivered lengths]
  cases found : lastOption ether.buffer type with
  | none => rw [Option.map_none, Option.map_none]
  | some option =>
      rw [Option.map_some, Option.map_some,
        blockAt_redelivered redelivered (delivered option found)]

/-- Delivered addresses are taken whatever the stale bytes are. -/
theorem AddressesDelivered.advertised_eq (delivered : ether.AddressesDelivered frame)
    (filled : PartlyFilled ether frame)
    (redelivered : AgreeOff (StaleAt frame) ether.buffer memory)
    (lengths : ∀ option ∈ raOptionList ether.buffer, ¬ StaleAt frame (option + 1)) :
    ether.advertised memory = ether.advertised ether.buffer := by
  have sameList := filled.raOptionList_eq redelivered lengths
  have sameRouter : (ether.advertised memory).routerMac =
      (ether.advertised ether.buffer).routerMac :=
    filled.lastField_eq redelivered lengths delivered.router MACAddress.mk _
  have sameResolver : (ether.advertised memory).dnsServerAddress =
      (ether.advertised ether.buffer).dnsServerAddress :=
    filled.lastField_eq redelivered lengths delivered.resolver IPv6Address.mk _
  exact Outcome.ext rfl rfl rfl (delivered.globalAddress_eq filled redelivered sameList)
    sameRouter sameResolver

/-- What decides the advertisement was delivered, so other stale bytes change nothing. -/
theorem AdvertisementDecided.sameOutcome (decided : ether.AdvertisementDecided frame)
    (filled : PartlyFilled ether frame) (enabled : ether.autoConfigurationEnabled = true)
    (redelivered : AgreeOff (StaleAt frame) ether.buffer memory) :
    (ether.withBuffer memory).advertisementOutcome = ether.advertisementOutcome := by
  have sameList := filled.raOptionList_eq redelivered decided.lengths
  have sameLength option (member : option ∈ raOptionList ether.buffer) :
      memory (option + 1) = ether.buffer (option + 1) :=
    redelivered _ (decided.lengths option member)
  by_cases zero : ∃ option ∈ raOptionList ether.buffer, ether.buffer (option + 1) = 0
  · obtain ⟨option, member, isZero⟩ := zero
    have memberToo : option ∈ raOptionList memory := by rwa [sameList]
    rw [advertisementOutcome_of_zero enabled memberToo
      ((sameLength option member).trans isZero)]
    exact (advertisementOutcome_of_zero enabled member isZero).symm
  · have delivered := decided.effects.resolve_left zero
    have nonzero : ∀ option ∈ raOptionList ether.buffer,
        ether.buffer (option + 1) ≠ 0 :=
      fun option member isZero => zero ⟨option, member, isZero⟩
    have nonzeroToo : ∀ option ∈ raOptionList memory, memory (option + 1) ≠ 0 := by
      intro option member
      rw [sameList] at member
      rw [sameLength option member]
      exact nonzero option member
    rw [advertisementOutcome_of_ends enabled nonzeroToo,
      delivered.advertised_eq filled redelivered decided.lengths]
    exact (advertisementOutcome_of_ends enabled nonzero).symm

end Redelivered

/-! ### What was not delivered shows -/

section SameOutcome

variable {ether : EtherSia} {frame : Frame}

/-- A stale length byte is that of the last option: 0 and 1 there make the difference
between a walk that never ends and one that does. -/
theorem SameOver.lengths (same : ether.SameOver frame advertisementOutcome)
    (filled : PartlyFilled ether frame) (enabled : ether.autoConfigurationEnabled = true) :
    ∀ option ∈ raOptionList ether.buffer, ¬ StaleAt frame (option + 1) := by
  intro option member stale
  have inside := (mem_raOptionList member).2
  have isLast : packetEnd ether.buffer = option + 1 := by
    have covered := filled.covered
    have behind := stale.1
    omega
  have filledIn (byte : UInt8) : AgreeOff (StaleAt frame) ether.buffer
      (Function.update ether.buffer (option + 1) byte) :=
    (AgreeOff.refl _ _).update stale byte
  have memberToo (byte : UInt8) :
      option ∈ raOptionList (Function.update ether.buffer (option + 1) byte) := by
    unfold raOptionList at member ⊢
    rw [filled.raOptionsEnd_eq (filledIn byte)]
    refine mem_optionsFrom_congr (fun address upTo => ?_) member
    exact Function.update_of_ne (by omega) _ _
  have stops := advertisementOutcome_of_zero enabled (memberToo 0)
    (Function.update_self (option + 1) 0 ether.buffer)
  have nonzero : ∀ other ∈ raOptionList (Function.update ether.buffer (option + 1) 1),
      Function.update ether.buffer (option + 1) 1 (other + 1) ≠ 0 := by
    intro other isOption
    have upTo := (mem_raOptionList isOption).2
    rw [filled.packetEnd_eq (filledIn 1), isLast] at upTo
    rcases Nat.lt_or_eq_of_le (Nat.le_of_lt_succ upTo) with before | rfl
    · exact (optionsFrom_apart isOption (memberToo 1) before).1
    · rw [Function.update_self]
      decide
  have ends := advertisementOutcome_of_ends enabled nonzero
  rw [same _ (filledIn 0)] at stops
  rw [same _ (filledIn 1), stops] at ends
  cases ends

theorem SameOver.advertised (same : ether.SameOver frame advertisementOutcome)
    (filled : PartlyFilled ether frame) (enabled : ether.autoConfigurationEnabled = true)
    (nonzero : ∀ option ∈ raOptionList ether.buffer, ether.buffer (option + 1) ≠ 0)
    {memory : Memory} (redelivered : AgreeOff (StaleAt frame) ether.buffer memory) :
    ether.advertised memory = ether.advertised ether.buffer := by
  have lengths := same.lengths filled enabled
  have nonzeroToo : ∀ option ∈ raOptionList memory, memory (option + 1) ≠ 0 := by
    intro option member
    rw [filled.raOptionList_eq redelivered lengths] at member
    rw [redelivered _ (lengths option member)]
    exact nonzero option member
  have ends := advertisementOutcome_of_ends enabled nonzero
  have endsToo := advertisementOutcome_of_ends enabled nonzeroToo
  rw [same memory redelivered] at endsToo
  exact Option.some.inj (endsToo.symm.trans ends)

/-- Behind an option whose third or fourth byte is stale there is no other. -/
theorem PartlyFilled.le_of_stale (filled : PartlyFilled ether frame) {option other : Nat}
    (isOption : option ∈ raOptionList ether.buffer)
    (isOther : other ∈ raOptionList ether.buffer)
    (stale : StaleAt frame (option + 2) ∨ StaleAt frame (option + 3)) : other ≤ option := by
  by_contra behind
  have apart := (optionsFrom_apart isOption isOther (Nat.not_le.mp behind)).2
  have inside := (mem_raOptionList isOther).2
  have covered := filled.covered
  rcases stale with stale | stale
  · have start := stale.1
    omega
  · have start := stale.1
    omega

theorem not_mayBePrefix_of_lt {option other : Nat}
    (found : ether.firstPrefix frame = some option)
    (isOther : other ∈ raOptionList ether.buffer) (before : other < option) :
    ¬ ether.MayBePrefix frame other := by
  obtain ⟨_, front, back, isList, noneBefore⟩ := List.find?_eq_some_iff_append.mp found
  have sorted := optionsFrom_sorted ether.buffer (raOptionsEnd ether.buffer)
    (raOptionsEnd ether.buffer) ICMPv6Packet.raOptions
  have inFront : other ∈ front := by
    have isList' := isList
    unfold raOptionList at isList'
    rw [isList'] at sorted
    rw [isList] at isOther
    rcases List.mem_append.mp isOther with inFront | inBack
    · exact inFront
    · have above := (List.pairwise_append.mp sorted).2.1
      rcases List.mem_cons.mp inBack with rfl | later
      · exact absurd before (Nat.lt_irrefl _)
      · have atLeast := List.rel_of_pairwise_cons above later
        omega
  simpa using noneBefore other inFront

/-- A field that comes from the last option of a type shows the bytes it is made of. -/
theorem SameOver.lastField (same : ether.SameOver frame advertisementOutcome)
    (filled : PartlyFilled ether frame) (enabled : ether.autoConfigurationEnabled = true)
    (nonzero : ∀ option ∈ raOptionList ether.buffer, ether.buffer (option + 1) ≠ 0)
    {type : UInt8} {offset size : Nat} {α : Type} (told : Outcome → α)
    {field : (Fin size → UInt8) → α} (injective : Function.Injective field) {unset : α}
    (isField : ∀ memory, told (ether.advertised memory) =
      ((lastOption memory type).map fun option =>
        field (blockAt memory (option + offset))).getD unset)
    {option : Nat} (found : lastOption ether.buffer type = some option) :
    NoneStale frame (option + offset) size := by
  apply visible_of_blockAt_same
  intro memory redelivered
  have sameLast := filled.lastOption_eq redelivered (same.lengths filled enabled) type
  have sameField := congrArg told (same.advertised filled enabled nonzero redelivered)
  rw [isField, isField, sameLast, found] at sameField
  exact injective sameField

/-- The bytes in which the option that may be a prefix is one. -/
def prefixFilledIn (ether : EtherSia) (frame : Frame) (option : Nat) : Memory :=
  fun address =>
    if StaleAt frame address ∧ address = option + 2 then 64
    else if StaleAt frame address ∧ address = option + 3 then 0xC0
    else ether.buffer address

theorem prefixFilledIn_agreeOff (ether : EtherSia) (frame : Frame) (option : Nat) :
    AgreeOff (StaleAt frame) ether.buffer (ether.prefixFilledIn frame option) := by
  intro address visible
  unfold prefixFilledIn
  rw [if_neg fun both => visible both.1, if_neg fun both => visible both.1]

theorem MayBePrefix.filledIn {option : Nat} (mayBe : ether.MayBePrefix frame option) :
    PrefixInformationAt (ether.prefixFilledIn frame option) option := by
  obtain ⟨type, prefixLength, flags⟩ := mayBe
  unfold PrefixInformationAt prefixFilledIn
  refine ⟨?_, ?_, ?_⟩
  · rw [if_neg (by omega), if_neg (by omega)]
    exact type
  · by_cases stale : StaleAt frame (option + 2)
    · rw [if_pos ⟨stale, rfl⟩]
    · rw [if_neg fun both => stale both.1, if_neg fun both => stale both.1]
      exact prefixLength.resolve_left stale
  · by_cases stale : StaleAt frame (option + 3)
    · rw [if_neg (by omega), if_pos ⟨stale, rfl⟩]
      rfl
    · rw [if_neg fun both => stale both.1, if_neg fun both => stale both.1]
      exact flags.resolve_left stale

/-- Over the same walk an interface without an address takes one or goes without. -/
theorem SameOver.find?_isSome (same : ether.SameOver frame advertisementOutcome)
    (filled : PartlyFilled ether frame) (enabled : ether.autoConfigurationEnabled = true)
    (nonzero : ∀ option ∈ raOptionList ether.buffer, ether.buffer (option + 1) ≠ 0)
    (unset : ether.globalAddress.isZero = true) {left right : Memory}
    (toLeft : AgreeOff (StaleAt frame) ether.buffer left)
    (toRight : AgreeOff (StaleAt frame) ether.buffer right)
    (taken : ((raOptionList left).find?
      fun option => PrefixInformationAt left option).isSome) :
    ((raOptionList right).find? fun option => PrefixInformationAt right option).isSome := by
  have sameAddress := congrArg Outcome.globalAddress
    ((same.advertised filled enabled nonzero toLeft).trans
      (same.advertised filled enabled nonzero toRight).symm)
  unfold EtherSia.advertised at sameAddress
  dsimp only at sameAddress
  rw [if_pos unset, if_pos unset] at sameAddress
  obtain ⟨option, found⟩ := Option.isSome_iff_exists.mp taken
  rw [found, Option.map_some, Option.getD_some] at sameAddress
  by_contra none
  rw [Option.not_isSome_iff_eq_none.mp none, Option.map_none, Option.getD_none] at sameAddress
  have notZero : ((ether.withBuffer left).announcedAddress option).isZero = false :=
    setEui64_not_isZero _ _
  rw [sameAddress, unset] at notZero
  cases notZero

/-- What the test of the first prefix reads was delivered: with other bytes there it is
taken or not. -/
theorem SameOver.tested (same : ether.SameOver frame advertisementOutcome)
    (filled : PartlyFilled ether frame) (enabled : ether.autoConfigurationEnabled = true)
    (nonzero : ∀ option ∈ raOptionList ether.buffer, ether.buffer (option + 1) ≠ 0)
    (unset : ether.globalAddress.isZero = true) {option : Nat}
    (found : ether.firstPrefix frame = some option) : NoneStale frame (option + 2) 2 := by
  intro address lower upper stale
  have isOption : option ∈ raOptionList ether.buffer := List.mem_of_find?_eq_some found
  have mayBe : ether.MayBePrefix frame option := by
    simpa using List.find?_some found
  have here : address = option + 2 ∨ address = option + 3 := by omega
  have staleHere : StaleAt frame (option + 2) ∨ StaleAt frame (option + 3) := by
    rcases here with rfl | rfl
    · exact Or.inl stale
    · exact Or.inr stale
  have sameList {memory : Memory} (redelivered : AgreeOff (StaleAt frame) ether.buffer memory) :=
    filled.raOptionList_eq redelivered (same.lengths filled enabled)
  have toOne := ether.prefixFilledIn_agreeOff frame option
  have toNone : AgreeOff (StaleAt frame) ether.buffer
      (Function.update ether.buffer address 0) := (AgreeOff.refl _ _).update stale 0
  have taken := same.find?_isSome filled enabled nonzero unset toOne toNone (by
    rw [sameList toOne, List.find?_isSome]
    exact ⟨option, isOption, decide_eq_true mayBe.filledIn⟩)
  rw [sameList toNone, List.find?_isSome] at taken
  obtain ⟨other, isOther, isPrefix⟩ := taken
  have prefixInformation := of_decide_eq_true isPrefix
  have upTo : other ≤ option := filled.le_of_stale isOption isOther staleHere
  rcases Nat.lt_or_eq_of_le upTo with before | rfl
  · exact not_mayBePrefix_of_lt found isOther before
      (filled.mayBePrefix toNone isOther prefixInformation)
  · obtain ⟨-, prefixLength, flags⟩ := prefixInformation
    rcases here with rfl | rfl
    · rw [Function.update_self] at prefixLength
      exact absurd prefixLength (by decide)
    · rw [Function.update_self] at flags
      exact absurd flags (by decide)

theorem SameOver.announced (same : ether.SameOver frame advertisementOutcome)
    (filled : PartlyFilled ether frame) (enabled : ether.autoConfigurationEnabled = true)
    (nonzero : ∀ option ∈ raOptionList ether.buffer, ether.buffer (option + 1) ≠ 0)
    (unset : ether.globalAddress.isZero = true) {option : Nat}
    (found : ether.firstPrefix frame = some option) : NoneStale frame (option + 16) 8 := by
  have tested first (isFirst : ether.firstPrefix frame = some first) :=
    same.tested filled enabled nonzero unset isFirst
  apply visible_of_blockAt_same
  intro memory redelivered
  have sameList := filled.raOptionList_eq redelivered (same.lengths filled enabled)
  have sameAddress := congrArg Outcome.globalAddress
    (same.advertised filled enabled nonzero redelivered)
  unfold EtherSia.advertised at sameAddress
  dsimp only at sameAddress
  rw [if_pos unset, if_pos unset, sameList, filled.find?_prefix redelivered tested,
    filled.find?_prefix (AgreeOff.refl _ _) tested, found, Option.map_some,
    Option.map_some, Option.getD_some, Option.getD_some] at sameAddress
  exact (announcedAddress_eq_iff (ether.withBuffer memory) (ether.withBuffer ether.buffer)
    rfl option).mp sameAddress

/-- The outcome of an advertisement is the same over all stale bytes exactly when what
decides it was delivered. -/
theorem sameAdvertisement_iff (filled : PartlyFilled ether frame)
    (enabled : ether.autoConfigurationEnabled = true) :
    ether.SameOver frame advertisementOutcome ↔ ether.AdvertisementDecided frame := by
  constructor
  · intro same
    refine ⟨same.lengths filled enabled, ?_⟩
    by_cases zero : ∃ option ∈ raOptionList ether.buffer, ether.buffer (option + 1) = 0
    · exact Or.inl zero
    · have nonzero : ∀ option ∈ raOptionList ether.buffer,
          ether.buffer (option + 1) ≠ 0 :=
        fun option member isZero => zero ⟨option, member, isZero⟩
      exact Or.inr {
        router := fun _ found => same.lastField filled enabled nonzero Outcome.routerMac
          (fun _ _ => MACAddress.mk.inj) (fun _ => rfl) found
        resolver := fun _ found => same.lastField filled enabled nonzero
          Outcome.dnsServerAddress (fun _ _ => IPv6Address.mk.inj) (fun _ => rfl) found
        announced := fun unset option found =>
          ⟨same.tested filled enabled nonzero unset found,
            same.announced filled enabled nonzero unset found⟩ }
  · intro decided memory redelivered
    exact decided.sameOutcome filled enabled redelivered

end SameOutcome

end EtherSia

end EtherSiaStack
