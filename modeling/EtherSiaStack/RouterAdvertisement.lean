/-
What a router advertisement means.

The options of an advertisement are a list, and the loop over their bytes is a
fold of their effects: the last router and the last resolver win, the first
acceptable prefix does, and only while there is no global address.
-/

import EtherSiaStack.NeighbourDiscovery
import EtherSiaStack.Library.Spelling

namespace EtherSiaStack

open ByteMemory IPv6Packet FuelLoop Trace

/-! ### Options as data -/

/-- An option of a router advertisement; `units` is its length byte where the
type does not fix it. -/
inductive RouterOption
  | sourceLinkAddress (mac : MACAddress)
  | prefixInformation (prefixLength flags : UInt8) (lifetimes : Fin 12 → UInt8)
      (announced : IPv6Address)
  | recursiveDns (units : UInt8) (lifetime : Fin 6 → UInt8) (server : IPv6Address)
      (others : List UInt8) (size : 24 + others.length = 8 * units.toNat)
  | other (type units : UInt8) (body : List UInt8)
      (size : 2 + body.length = 8 * units.toNat)
      (skipped : type ≠ ICMP6_OPTION_SOURCE_LINK_ADDRESS ∧
        type ≠ ICMP6_OPTION_PREFIX_INFORMATION ∧ type ≠ ICMP6_OPTION_RECURSIVE_DNS)

namespace RouterOption

def octets : RouterOption → List UInt8
  | sourceLinkAddress mac => ICMP6_OPTION_SOURCE_LINK_ADDRESS :: 1 :: blockBytes mac.octet
  | prefixInformation prefixLength flags lifetimes announced =>
      ICMP6_OPTION_PREFIX_INFORMATION :: 4 :: prefixLength :: flags ::
        (blockBytes lifetimes ++ blockBytes announced.octet)
  | recursiveDns units lifetime server others _ =>
      ICMP6_OPTION_RECURSIVE_DNS :: units ::
        (blockBytes lifetime ++ (blockBytes server.octet ++ others))
  | other type units body _ _ => type :: units :: body

/-- The length byte. -/
def units : RouterOption → UInt8
  | sourceLinkAddress _ => 1
  | prefixInformation _ _ _ _ => 4
  | recursiveDns units _ _ _ _ => units
  | other _ units _ _ _ => units

/-- The router an option announces. -/
def routerMac : RouterOption → Option MACAddress
  | sourceLinkAddress mac => some mac
  | _ => none

/-- The first resolver an option announces. -/
def dnsServer : RouterOption → Option IPv6Address
  | recursiveDns _ _ server _ _ => some server
  | _ => none

/-- The prefix an option announces for autonomous configuration. -/
def acceptablePrefix : RouterOption → Option IPv6Address
  | prefixInformation prefixLength flags _ announced =>
      if flags &&& 0xC0 = 0xC0 ∧ prefixLength = 64 then some announced else none
  | _ => none

theorem octets_length (option : RouterOption) :
    option.octets.length = 8 * option.units.toNat := by
  cases option with
  | sourceLinkAddress mac => simp [octets, units]
  | prefixInformation prefixLength flags lifetimes announced => simp [octets, units]
  | recursiveDns units lifetime server others size =>
      simp only [octets, List.length_cons, List.length_append, blockBytes_length]
      change _ = 8 * units.toNat
      omega
  | other type units body size skipped =>
      simp only [octets, List.length_cons]
      change _ = 8 * units.toNat
      omega

theorem octets_nonempty (option : RouterOption) : 0 < option.octets.length := by
  cases option <;> simp [octets]

/-- The second octet is the length byte. -/
theorem units_of_spells {memory : Memory} {ptr : Nat} {option : RouterOption}
    (spelled : Spells memory ptr option.octets) : memory (ptr + 1) = option.units := by
  cases option with
  | sourceLinkAddress mac => exact (spells_cons.mp (spells_cons.mp spelled).2).1
  | prefixInformation prefixLength flags lifetimes announced =>
      exact (spells_cons.mp (spells_cons.mp spelled).2).1
  | recursiveDns units lifetime server others size =>
      exact (spells_cons.mp (spells_cons.mp spelled).2).1
  | other type units body size skipped =>
      exact (spells_cons.mp (spells_cons.mp spelled).2).1

theorem optionSize_of_spells {memory : Memory} {ptr : Nat} {option : RouterOption}
    (spelled : Spells memory ptr option.octets) :
    EtherSia.optionSize memory ptr = option.octets.length := by
  rw [octets_length, EtherSia.optionSize, units_of_spells spelled]

end RouterOption

namespace EtherSia

/-! ### What one option does -/

/-- The effect of an option on the interface. -/
def announced (ether : EtherSia) : RouterOption → EtherSia
  | .sourceLinkAddress mac => { ether with routerMac := mac }
  | .prefixInformation prefixLength flags _ announced =>
      if flags &&& 0xC0 = 0xC0 ∧ prefixLength = 64 ∧ ether.globalAddress.isZero = true then
        { ether with globalAddress := announced.setEui64 ether.localMac }
      else ether
  | .recursiveDns _ _ server _ _ => { ether with dnsServerAddress := server }
  | .other _ _ _ _ _ => ether

/-- The `switch` does to the interface what the option it points at says. -/
theorem raOption_of_spells {ether : EtherSia} {ptr : Nat} {option : RouterOption}
    (spelled : Spells ether.buffer ptr option.octets) :
    ether.raOption ptr = ether.announced option := by
  cases option with
  | sourceLinkAddress mac =>
      obtain ⟨isType, rest⟩ := spells_cons.mp spelled
      have isMac : blockAt ether.buffer (ptr + 2) = mac.octet :=
        spells_blockBytes.mp (spells_cons.mp rest).2
      unfold raOption
      rw [if_pos isType, isMac]
      rfl
  | prefixInformation prefixLength flags lifetimes announced =>
      obtain ⟨isType, rest⟩ := spells_cons.mp spelled
      obtain ⟨isLength, rest⟩ := spells_cons.mp (spells_cons.mp rest).2
      obtain ⟨areFlags, rest⟩ := spells_cons.mp rest
      have isPrefix := spells_blockBytes.mp (spells_append.mp rest).2
      rw [blockBytes_length] at isPrefix
      unfold raOption icmp6ProcessPrefix
      rw [if_neg (by rw [isType]; decide), if_pos isType]
      change (if ether.buffer (ptr + 1 + 1 + 1) &&& 0xC0 ≠ 0xC0 then ether
        else if ether.buffer (ptr + 1 + 1) ≠ 64 then ether
        else if ether.globalAddress.isZero = true then
          { ether with
            globalAddress :=
              (IPv6Address.mk (blockAt ether.buffer (ptr + 1 + 1 + 1 + 1 + 12))).setEui64
                ether.localMac }
        else ether) = _
      rw [areFlags, isLength, isPrefix]
      unfold EtherSia.announced
      split_ifs <;> simp_all
  | recursiveDns units lifetime server others size =>
      obtain ⟨isType, rest⟩ := spells_cons.mp spelled
      have afterLifetime := (spells_append.mp (spells_cons.mp rest).2).2
      rw [blockBytes_length] at afterLifetime
      have isServer : blockAt ether.buffer (ptr + 8) = server.octet :=
        spells_blockBytes.mp (spells_append.mp afterLifetime).1
      unfold raOption
      rw [if_neg (by rw [isType]; decide), if_neg (by rw [isType]; decide),
        if_pos isType, isServer]
      rfl
  | other type units body size skipped =>
      obtain ⟨isType, rest⟩ := spells_cons.mp spelled
      unfold raOption
      rw [isType, if_neg skipped.1, if_neg skipped.2.1, if_neg skipped.2.2]
      rfl

theorem announced_localMac (ether : EtherSia) (option : RouterOption) :
    (ether.announced option).localMac = ether.localMac := by
  unfold announced
  split
  · rfl
  · split <;> rfl
  · rfl
  · rfl

theorem announced_buffer (ether : EtherSia) (option : RouterOption) :
    (ether.announced option).buffer = ether.buffer := by
  unfold announced
  split
  · rfl
  · split <;> rfl
  · rfl
  · rfl

/-! ### The loop is a fold -/

def optionOctets (options : List RouterOption) : List UInt8 :=
  options.flatMap RouterOption.octets

theorem raPass_of_spells {walk : OptionWalk} {option : RouterOption}
    (positive : walk.remaining > 0)
    (spelled : Spells walk.ether.buffer walk.ptr option.octets) :
    ∃ next, raPass walk = .inl next ∧ next.ether = walk.ether.announced option ∧
      next.ptr = walk.ptr + option.octets.length ∧
        next.remaining.toInt = walk.remaining.toInt - option.octets.length := by
  have same := raOption_of_spells spelled
  have size : optionSize (walk.ether.raOption walk.ptr).buffer walk.ptr =
      option.octets.length := by
    rw [raOption_buffer]
    exact RouterOption.optionSize_of_spells spelled
  have small : option.octets.length ≤ 2040 := by
    rw [← size]
    exact optionSize_le _ _
  refine ⟨_, if_pos positive, same, ?_, ?_⟩
  · exact congrArg (walk.ptr + ·) size
  · simp only [OptionWalk.advance, size]
    exact remaining_sub_toInt positive small

/-- Over well-formed options that fill what remains, the walk returns the fold of
their effects. -/
theorem raWalk_returns_fold (options : List RouterOption) (walk : OptionWalk)
    (fills : walk.remaining.toInt = (optionOctets options).length)
    (spelled : Spells walk.ether.buffer walk.ptr (optionOctets options)) :
    Returns raPass walk (options.foldl announced walk.ether) := by
  induction options generalizing walk with
  | nil =>
      have ended : ¬ walk.remaining > 0 := by
        rw [positive_iff, fills]
        exact lt_irrefl 0
      have leaves : raPass walk = .inr walk.ether := if_neg ended
      exact ⟨1, run_leave leaves 0⟩
  | cons option rest ih =>
      have parts : optionOctets (option :: rest) = option.octets ++ optionOctets rest :=
        List.flatMap_cons
      rw [parts, List.length_append] at fills
      rw [parts, spells_append] at spelled
      have nonempty := option.octets_nonempty
      have positive : walk.remaining > 0 := by
        rw [positive_iff]
        omega
      obtain ⟨next, continues, isEther, isPtr, left⟩ := raPass_of_spells positive spelled.1
      have goesOn : Returns raPass next (rest.foldl announced next.ether) := by
        apply ih next
        · omega
        · rw [isEther, announced_buffer, isPtr]
          exact spelled.2
      rw [isEther] at goesOn
      exact goesOn.head continues

theorem icmp6ProcessRA_of_returns {ether after : EtherSia}
    (enabled : ether.autoConfigurationEnabled = true)
    (returns : Returns raPass ether.raWalk after) : ether.icmp6ProcessRA = some after := by
  have ends : ether.icmp6ProcessRA ≠ none := by
    rw [ne_eq, icmp6ProcessRA_eq_none_iff]
    exact fun stuck => (raWalk_returns_iff ether).mp ⟨after, returns⟩ stuck.2
  obtain ⟨result, processed⟩ := Option.ne_none_iff_exists'.mp ends
  have walked : run raPass optionWalkFuel ether.raWalk = some result := by
    unfold icmp6ProcessRA at processed
    rwa [if_neg (by rw [enabled]; decide)] at processed
  rw [processed, Returns.result_unique ⟨_, walked⟩ returns]

/-! ### What the fold leaves behind -/

theorem foldl_announced_routerMac (options : List RouterOption) (ether : EtherSia) :
    (options.foldl announced ether).routerMac =
      (options.filterMap RouterOption.routerMac).getLast?.getD ether.routerMac := by
  induction options generalizing ether with
  | nil => rfl
  | cons option rest ih =>
      rw [List.foldl_cons, ih]
      cases option with
      | sourceLinkAddress mac =>
          have announces : (RouterOption.sourceLinkAddress mac).routerMac = some mac := rfl
          rw [List.filterMap_cons_some announces, List.getLast?_cons]
          rfl
      | prefixInformation prefixLength flags lifetimes announced =>
          rw [List.filterMap_cons_none rfl]
          congr 1
          unfold EtherSia.announced
          dsimp only
          split <;> rfl
      | recursiveDns units lifetime server others size =>
          rw [List.filterMap_cons_none rfl]
          rfl
      | other type units body size skipped =>
          rw [List.filterMap_cons_none rfl]
          rfl

theorem foldl_announced_dnsServerAddress (options : List RouterOption)
    (ether : EtherSia) :
    (options.foldl announced ether).dnsServerAddress =
      (options.filterMap RouterOption.dnsServer).getLast?.getD ether.dnsServerAddress := by
  induction options generalizing ether with
  | nil => rfl
  | cons option rest ih =>
      rw [List.foldl_cons, ih]
      cases option with
      | sourceLinkAddress mac =>
          rw [List.filterMap_cons_none rfl]
          rfl
      | prefixInformation prefixLength flags lifetimes announced =>
          rw [List.filterMap_cons_none rfl]
          congr 1
          unfold EtherSia.announced
          dsimp only
          split <;> rfl
      | recursiveDns units lifetime server others size =>
          have announces : (RouterOption.recursiveDns units lifetime server others
              size).dnsServer = some server := rfl
          rw [List.filterMap_cons_some announces, List.getLast?_cons]
          rfl
      | other type units body size skipped =>
          rw [List.filterMap_cons_none rfl]
          rfl

/-- An EUI-64 address is not zero: it holds ff:fe in its middle. -/
theorem setEui64_not_isZero (address : IPv6Address) (mac : MACAddress) :
    (address.setEui64 mac).isZero = false := by
  apply Bool.eq_false_iff.mpr
  intro zero
  have octets : ∀ index, (address.setEui64 mac).octet index = 0x00 := of_decide_eq_true zero
  have middle : (0xff : UInt8) = 0x00 := octets 11
  exact absurd middle (by decide)

theorem foldl_announced_keeps_globalAddress (options : List RouterOption)
    (ether : EtherSia) (taken : ether.globalAddress.isZero = false) :
    (options.foldl announced ether).globalAddress = ether.globalAddress := by
  induction options generalizing ether with
  | nil => rfl
  | cons option rest ih =>
      have keeps : (ether.announced option).globalAddress = ether.globalAddress := by
        unfold announced
        split
        · rfl
        · rw [if_neg (by rw [taken]; simp)]
        · rfl
        · rfl
      rw [List.foldl_cons, ih _ (by rw [keeps]; exact taken), keeps]

/-- The address configured from the first acceptable prefix. -/
def firstAcceptable (options : List RouterOption) (localMac : MACAddress) :
    Option IPv6Address :=
  (options.filterMap RouterOption.acceptablePrefix).head?.map fun announced =>
    announced.setEui64 localMac

theorem foldl_announced_globalAddress (options : List RouterOption) (ether : EtherSia)
    (unset : ether.globalAddress.isZero = true) :
    (options.foldl announced ether).globalAddress =
      (firstAcceptable options ether.localMac).getD ether.globalAddress := by
  induction options generalizing ether with
  | nil => rfl
  | cons option rest ih =>
      have skip (none : option.acceptablePrefix = none)
          (same : (ether.announced option).globalAddress = ether.globalAddress) :
          ((option :: rest).foldl announced ether).globalAddress =
            (firstAcceptable (option :: rest) ether.localMac).getD ether.globalAddress := by
        unfold firstAcceptable
        rw [List.foldl_cons, List.filterMap_cons_none none,
          ih _ (by rw [same]; exact unset), same, announced_localMac]
        rfl
      cases option with
      | sourceLinkAddress mac => exact skip rfl rfl
      | prefixInformation prefixLength flags lifetimes announced =>
          by_cases acceptable : flags &&& 0xC0 = 0xC0 ∧ prefixLength = 64
          · have isFirst : (RouterOption.prefixInformation prefixLength flags lifetimes
                announced).acceptablePrefix = some announced := if_pos acceptable
            have configures : ether.announced (.prefixInformation prefixLength flags
                lifetimes announced) =
                { ether with globalAddress := announced.setEui64 ether.localMac } :=
              if_pos ⟨acceptable.1, acceptable.2, unset⟩
            unfold firstAcceptable
            rw [List.foldl_cons, configures, List.filterMap_cons_some isFirst,
              foldl_announced_keeps_globalAddress _ _ (setEui64_not_isZero _ _)]
            rfl
          · have refuses : ether.announced (.prefixInformation prefixLength flags
                lifetimes announced) = ether :=
              if_neg fun all => acceptable ⟨all.1, all.2.1⟩
            exact skip (if_neg acceptable) (by rw [refuses])
      | recursiveDns units lifetime server others size => exact skip rfl rfl
      | other type units body size skipped => exact skip rfl rfl

/-- A router advertisement for us in the buffer, with these options filling its
payload behind the fixed header. -/
structure HoldsAdvertisement (ether : EtherSia) (options : List RouterOption) : Prop where
  isIcmp : protocol ether.buffer = IP6_PROTO_ICMP6
  ours : ether.isOurAddress (destination ether.buffer) ≠ none
  isAdvertisement : ICMPv6Packet.type ether.buffer = ICMP6_TYPE_RA
  inBuffer : packetEnd ether.buffer ≤ ETHERSIA_MAX_PACKET_SIZE
  fills : packetEnd ether.buffer =
    ICMPv6Packet.raOptions + (optionOctets options).length
  spelled : Spells ether.buffer ICMPv6Packet.raOptions (optionOctets options)

theorem HoldsAdvertisement.remaining {ether : EtherSia} {options : List RouterOption}
    (holds : ether.HoldsAdvertisement options) :
    ether.raWalk.remaining.toInt = (optionOctets options).length := by
  have endIs : packetEnd ether.buffer = 54 + (payloadLength ether.buffer).toNat := rfl
  have start : ICMPv6Packet.raOptions = 70 := rfl
  have most : ETHERSIA_MAX_PACKET_SIZE = 600 := rfl
  have fills := holds.fills
  have inBuffer := holds.inBuffer
  have difference : (payloadLength ether.buffer - 16).toNat =
      (optionOctets options).length := by
    have behind : (16 : UInt16) ≤ payloadLength ether.buffer := by
      rw [UInt16.le_iff_toNat_le]
      change 16 ≤ (payloadLength ether.buffer).toNat
      omega
    rw [UInt16.toNat_sub_of_le _ _ behind]
    change (payloadLength ether.buffer).toNat - 16 = _
    omega
  have nonnegative : 2 * (payloadLength ether.buffer - 16).toBitVec.toNat < 2 ^ 16 := by
    change 2 * (payloadLength ether.buffer - 16).toNat < 65536
    omega
  exact (BitVec.toInt_eq_toNat_of_lt nonnegative).trans (congrArg Int.ofNat difference)

/-- An advertisement sets the router to the last one it names, the resolver to the
first of the last list it names, and an address that was zero to the first
acceptable prefix. -/
theorem advertisement_configures (ether : EtherSia) (options : List RouterOption)
    (len : UInt16) (enabled : ether.autoConfigurationEnabled = true)
    (holds : ether.HoldsAdvertisement options) :
    ∃ after, ether.dispatchReceived len = some (0, after) ∧
      ether.icmp6ProcessRA = some after ∧
      after.routerMac =
        (options.filterMap RouterOption.routerMac).getLast?.getD ether.routerMac ∧
      after.dnsServerAddress =
        (options.filterMap RouterOption.dnsServer).getLast?.getD ether.dnsServerAddress ∧
      after.globalAddress =
        if ether.globalAddress.isZero = true then
          ((options.filterMap RouterOption.acceptablePrefix).head?.map fun announced =>
            announced.setEui64 ether.localMac).getD ether.globalAddress
        else ether.globalAddress := by
  have returns := raWalk_returns_fold options ether.raWalk holds.remaining holds.spelled
  have processed := icmp6ProcessRA_of_returns enabled returns
  have handled : ether.icmp6ProcessPacket =
      some (true, options.foldl announced ether) := by
    unfold icmp6ProcessPacket
    rw [if_neg holds.ours, holds.isAdvertisement, if_neg (by decide), if_neg (by decide),
      if_pos rfl, processed]
    rfl
  have dispatched : ether.dispatchReceived len =
      some (0, options.foldl announced ether) := by
    unfold dispatchReceived
    rw [if_pos holds.isIcmp, handled]
    rfl
  refine ⟨_, dispatched, processed, foldl_announced_routerMac options ether,
    foldl_announced_dnsServerAddress options ether, ?_⟩
  split_ifs with unset
  · exact foldl_announced_globalAddress options ether unset
  · exact foldl_announced_keeps_globalAddress options ether (by simpa using unset)

/-- A router at 02:00:00:00:00:09, the prefix 2001:db8:1:2::/64, an MTU and the
resolver 2001:db8::35. -/
def exampleOptions : List RouterOption :=
  [.sourceLinkAddress (exampleMac 9),
    .prefixInformation 64 0xC0 (fun _ => 0)
      ⟨![0x20, 1, 0x0d, 0xb8, 0, 1, 0, 2, 0, 0, 0, 0, 0, 0, 0, 0]⟩,
    .other 5 1 [0, 0, 0, 0, 5, 220] (by decide) (by decide),
    .recursiveDns 3 ![0, 0, 0, 0, 0, 60]
      ⟨![0x20, 1, 0x0d, 0xb8, 0, 0, 0, 0, 0, 0, 0, 0, 0, 0, 0, 0x35]⟩ [] (by decide)]

def exampleAdvertisement : Frame :=
  exampleFrame 88 IP6_PROTO_ICMP6
    ([134, 0, 112, 203, 64, 0, 7, 8, 0, 0, 0, 0, 0, 0, 0, 0] ++
      optionOctets exampleOptions) (by decide +kernel)

theorem advertisement_configures_example :
    ∃ after, exampleStation.ether.receivePacket exampleAdvertisement = some (0, after) ∧
      after.routerMac = exampleMac 9 ∧
      after.dnsServerAddress =
        ⟨![0x20, 1, 0x0d, 0xb8, 0, 0, 0, 0, 0, 0, 0, 0, 0, 0, 0, 0x35]⟩ ∧
      after.globalAddress =
        ⟨![0x20, 1, 0x0d, 0xb8, 0, 1, 0, 2, 0, 0, 0, 0xff, 0xfe, 0, 0, 1]⟩ := by
  have accepts : exampleStation.ether.Accepts exampleAdvertisement :=
    ⟨by decide, by decide +kernel⟩
  have holds : (exampleStation.ether.accepted exampleAdvertisement).HoldsAdvertisement
      exampleOptions :=
    { isIcmp := by decide +kernel
      ours := by decide +kernel
      isAdvertisement := by decide +kernel
      inBuffer := by decide +kernel
      fills := by decide +kernel
      spelled := by
        change bytesAt _ _ _ = _
        decide +kernel }
  obtain ⟨after, dispatched, _, router, resolver, address⟩ :=
    advertisement_configures (exampleStation.ether.accepted exampleAdvertisement)
      exampleOptions (UInt16.ofNat exampleAdvertisement.octets.length) rfl holds
  refine ⟨after, (receivePacket_of_accepts accepts).trans dispatched, ?_, ?_, ?_⟩
  · rw [router]
    decide
  · rw [resolver]
    decide
  · rw [address]
    decide

end EtherSia

end EtherSiaStack
