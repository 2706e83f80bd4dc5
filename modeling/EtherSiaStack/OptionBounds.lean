/-
Where the walks over options stay inside the payload.

Both walks look at an option as long as a byte of it is left.  Its length and as much of
its body as the type calls for are then read without another comparison.  The conditions
say of the options alone which of their bytes have to lie inside.
-/

import EtherSiaStack.OptionList
import EtherSiaStack.Library.Inspection

namespace EtherSiaStack

open ByteMemory Inspector IPv6Packet FuelLoop

/-- The byte lies in the payload, as the length field states it. -/
def InPayload (memory : Memory) (address : Nat) : Prop :=
  payload ≤ address ∧ address < packetEnd memory

namespace EtherSia

/-! ### What a pass reads -/

/-- `icmp6ProcessPrefix`, and whether it takes the prefix. -/
def inspectPrefix (ether : EtherSia) (prefixInformation : Nat) :
    Inspector (EtherSia × Bool) := do
  let flags ← read (prefixInformation + 1)
  if flags &&& 0xC0 ≠ 0xC0 then pure (ether, false)
  else do
    let prefixLength ← read prefixInformation
    if prefixLength ≠ 64 then pure (ether, false)
    else if ether.globalAddress.isZero then do
      let announced ← readBlock (prefixInformation + 14)
      let address : IPv6Address := ⟨announced⟩
      pure ({ ether with globalAddress := address.setEui64 ether.localMac }, true)
    else pure (ether, false)

/-- The `switch` in `icmp6ProcessRA`, and whether it takes an address of the option. -/
def inspectRaOption (ether : EtherSia) (ptr : Nat) : Inspector (EtherSia × Bool) := do
  let type ← read ptr
  if type = ICMP6_OPTION_SOURCE_LINK_ADDRESS then do
    let mac ← readBlock (ptr + 2)
    pure ({ ether with routerMac := ⟨mac⟩ }, true)
  else if type = ICMP6_OPTION_PREFIX_INFORMATION then ether.inspectPrefix (ptr + 2)
  else if type = ICMP6_OPTION_RECURSIVE_DNS then do
    let address ← readBlock (ptr + 8)
    pure ({ ether with dnsServerAddress := ⟨address⟩ }, true)
  else pure (ether, false)

def inspectRaPass (walk : OptionWalk) : Inspector ((OptionWalk ⊕ EtherSia) × Bool) :=
  if walk.remaining > 0 then do
    let (ether, taken) ← walk.ether.inspectRaOption walk.ptr
    let units ← read (walk.ptr + 1)
    let size := 8 * units.toNat
    pure (.inl ⟨walk.remaining - Int16.ofNat size, walk.ptr + size, ether⟩, taken)
  else pure (.inr walk.ether, false)

/-- The target that `icmp6ProcessNA` compares first. -/
def inspectTarget : Inspector IPv6Address := do
  let target ← readBlock 62
  pure ⟨target⟩

/-- The result points at the MAC address; its bytes count as read. -/
def inspectNaPass (walk : OptionWalk) : Inspector ((OptionWalk ⊕ MACAddress) × Bool) :=
  if walk.remaining > 0 then do
    let type ← read walk.ptr
    if type = ICMP6_OPTION_TARGET_LINK_ADDRESS then do
      let mac ← readBlock (walk.ptr + 2)
      pure (.inr ⟨mac⟩, true)
    else do
      let units ← read (walk.ptr + 1)
      let size := 8 * units.toNat
      pure (.inl ⟨walk.remaining - Int16.ofNat size, walk.ptr + size, walk.ether⟩, false)
  else pure (.inr (etherSource walk.ether.buffer), false)

/-- The pass reads bytes of the payload only, and takes an address only of an option that
lies inside as a whole. -/
structure PassInside {α : Type} (memory : Memory) (ptr : Nat)
    (pass : Inspector (α × Bool)) : Prop where
  reads : ReadsOnly (InPayload memory) pass memory
  whole : ∀ result, (pass memory).value = some (result, true) →
    ptr + optionSize memory ptr ≤ packetEnd memory

/-- `icmp6ProcessRA` stays inside the payload in all its passes. -/
def AdvertisementStaysInside (ether : EtherSia) : Prop :=
  ether.autoConfigurationEnabled = true →
    ∀ walk, Reaches raPass ether.raWalk walk →
      PassInside ether.buffer walk.ptr (inspectRaPass walk)

/-- `icmp6ProcessNA` stays inside the payload, with the target and in all its passes. -/
def NeighbourStaysInside (ether : EtherSia) (expected : IPv6Address) : Prop :=
  ReadsOnly (InPayload ether.buffer) inspectTarget ether.buffer ∧
    (ICMPv6Packet.target ether.buffer = expected →
      ∀ walk, Reaches naPass ether.naWalk walk →
        PassInside ether.buffer walk.ptr (inspectNaPass walk))

theorem inspectTarget_value (memory : Memory) :
    (inspectTarget memory).value = some (ICMPv6Packet.target memory) :=
  rfl

/-! ### One option of a router advertisement -/

/-- The option is one that the walk takes an address of. -/
def TakesAddress (memory : Memory) (unset : Prop) (ptr : Nat) : Prop :=
  memory ptr = ICMP6_OPTION_SOURCE_LINK_ADDRESS ∨
    memory ptr = ICMP6_OPTION_RECURSIVE_DNS ∨ PrefixInformationAt memory ptr ∧ unset

/-- The bytes that are used of the option lie inside, and all of it if an address is
taken. -/
structure OptionInside (memory : Memory) (unset : Prop) (ptr : Nat) : Prop where
  length : ptr + 2 ≤ packetEnd memory
  mac : memory ptr = ICMP6_OPTION_SOURCE_LINK_ADDRESS → ptr + 8 ≤ packetEnd memory
  flags : memory ptr = ICMP6_OPTION_PREFIX_INFORMATION → ptr + 4 ≤ packetEnd memory
  announced : PrefixInformationAt memory ptr → unset → ptr + 32 ≤ packetEnd memory
  resolver : memory ptr = ICMP6_OPTION_RECURSIVE_DNS → ptr + 24 ≤ packetEnd memory
  whole : TakesAddress memory unset ptr → ptr + optionSize memory ptr ≤ packetEnd memory

theorem readsOnly_block {memory : Memory} {address size : Nat} (behind : payload ≤ address)
    (positive : 0 < size) :
    ReadsOnly (InPayload memory) (readBlock address : Inspector (Fin size → UInt8)) memory ↔
      address + size ≤ packetEnd memory := by
  rw [readsOnly_readBlock]
  constructor
  · intro inside
    have last := (inside (address + (size - 1)) (by omega) (by omega)).2
    omega
  · intro inside other lower upper
    exact ⟨behind.trans lower, by omega⟩

theorem readsOnly_byte {memory : Memory} {address : Nat} (behind : payload ≤ address) :
    ReadsOnly (InPayload memory) (read address) memory ↔ address < packetEnd memory :=
  readsOnly_read.trans (and_iff_right behind)

theorem inspectPrefix_value (ether : EtherSia) (prefixInformation : Nat) :
    (ether.inspectPrefix prefixInformation ether.buffer).value =
      some (ether.icmp6ProcessPrefix prefixInformation,
        decide (ether.buffer (prefixInformation + 1) &&& 0xC0 = 0xC0 ∧
          ether.buffer prefixInformation = 64 ∧ ether.globalAddress.isZero = true)) := by
  unfold inspectPrefix icmp6ProcessPrefix
  rw [bind_value_of_some (read_value _ _)]
  by_cases flags : ether.buffer (prefixInformation + 1) &&& 0xC0 ≠ 0xC0
  · rw [if_pos flags, if_pos flags, decide_eq_false fun taken => flags taken.1]
    rfl
  rw [if_neg flags, if_neg flags, bind_value_of_some (read_value _ _)]
  by_cases prefixLength : ether.buffer prefixInformation ≠ 64
  · rw [if_pos prefixLength, if_pos prefixLength,
      decide_eq_false fun taken => prefixLength taken.2.1]
    rfl
  rw [if_neg prefixLength, if_neg prefixLength]
  by_cases unset : ether.globalAddress.isZero = true
  · rw [if_pos unset, if_pos unset, bind_value_of_some (readBlock_value _ _),
      decide_eq_true ⟨not_not.mp flags, not_not.mp prefixLength, unset⟩]
    rfl
  · rw [if_neg unset, if_neg unset, decide_eq_false fun taken => unset taken.2.2]
    rfl

theorem readsOnly_inspectPrefix {ether : EtherSia} {memory : Memory}
    {prefixInformation : Nat} (behind : payload ≤ prefixInformation) :
    ReadsOnly (InPayload memory) (ether.inspectPrefix prefixInformation) memory ↔
      prefixInformation + 2 ≤ packetEnd memory ∧
        (memory (prefixInformation + 1) &&& 0xC0 = 0xC0 → memory prefixInformation = 64 →
          ether.globalAddress.isZero = true →
            prefixInformation + 30 ≤ packetEnd memory) := by
  unfold inspectPrefix
  rw [readsOnly_bind_of_some (read_value _ _), readsOnly_byte (by omega)]
  apply and_congr_right
  intro flagsInside
  by_cases flags : memory (prefixInformation + 1) &&& 0xC0 ≠ 0xC0
  · rw [if_pos flags]
    exact iff_of_true (readsOnly_pure _) fun same => absurd same flags
  rw [if_neg flags, readsOnly_bind_of_some (read_value _ _), readsOnly_byte behind,
    and_iff_right (by omega), imp_iff_right (not_not.mp flags)]
  by_cases prefixLength : memory prefixInformation ≠ 64
  · rw [if_pos prefixLength]
    exact iff_of_true (readsOnly_pure _) fun same => absurd same prefixLength
  rw [if_neg prefixLength, imp_iff_right (not_not.mp prefixLength)]
  by_cases unset : ether.globalAddress.isZero = true
  · rw [if_pos unset, readsOnly_bind_of_some (readBlock_value _ _),
      readsOnly_block (by omega) (by decide), and_iff_left (readsOnly_pure _),
      imp_iff_right unset, Nat.add_assoc]
  · rw [if_neg unset]
    exact iff_of_true (readsOnly_pure _) fun same => absurd same unset

theorem inspectRaOption_value (ether : EtherSia) (ptr : Nat) :
    ∃ taken, (ether.inspectRaOption ptr ether.buffer).value =
        some (ether.raOption ptr, taken) ∧
      (taken = true ↔
        TakesAddress ether.buffer (ether.globalAddress.isZero = true) ptr) := by
  unfold inspectRaOption raOption TakesAddress PrefixInformationAt
  rw [bind_value_of_some (read_value _ _)]
  by_cases isLink : ether.buffer ptr = ICMP6_OPTION_SOURCE_LINK_ADDRESS
  · rw [if_pos isLink, if_pos isLink, bind_value_of_some (readBlock_value _ _)]
    exact ⟨true, rfl, iff_of_true rfl (Or.inl isLink)⟩
  rw [if_neg isLink, if_neg isLink, or_iff_right isLink]
  by_cases isPrefix : ether.buffer ptr = ICMP6_OPTION_PREFIX_INFORMATION
  · have notResolver : ether.buffer ptr ≠ ICMP6_OPTION_RECURSIVE_DNS := by
      rw [isPrefix]
      decide
    rw [if_pos isPrefix, if_pos isPrefix, inspectPrefix_value, or_iff_right notResolver,
      and_iff_right isPrefix]
    refine ⟨_, rfl, decide_eq_true_iff.trans ?_⟩
    exact ⟨fun ⟨flags, length, unset⟩ => ⟨⟨length, flags⟩, unset⟩,
      fun ⟨⟨length, flags⟩, unset⟩ => ⟨flags, length, unset⟩⟩
  rw [if_neg isPrefix, if_neg isPrefix,
    or_iff_left fun announces => isPrefix announces.1.1]
  by_cases isResolver : ether.buffer ptr = ICMP6_OPTION_RECURSIVE_DNS
  · rw [if_pos isResolver, if_pos isResolver, bind_value_of_some (readBlock_value _ _)]
    exact ⟨true, rfl, iff_of_true rfl isResolver⟩
  · rw [if_neg isResolver, if_neg isResolver]
    exact ⟨false, rfl, iff_of_false Bool.false_ne_true isResolver⟩

/-- The reads of the `switch`: the type, and what its case reads. -/
theorem readsOnly_inspectRaOption {ether : EtherSia} {memory : Memory} {ptr : Nat}
    (behind : payload ≤ ptr) (inside : ptr < packetEnd memory) :
    ReadsOnly (InPayload memory) (ether.inspectRaOption ptr) memory ↔
      (memory ptr = ICMP6_OPTION_SOURCE_LINK_ADDRESS → ptr + 8 ≤ packetEnd memory) ∧
        (memory ptr = ICMP6_OPTION_PREFIX_INFORMATION → ptr + 4 ≤ packetEnd memory) ∧
          (PrefixInformationAt memory ptr → ether.globalAddress.isZero = true →
            ptr + 32 ≤ packetEnd memory) ∧
            (memory ptr = ICMP6_OPTION_RECURSIVE_DNS → ptr + 24 ≤ packetEnd memory) := by
  unfold inspectRaOption PrefixInformationAt
  rw [readsOnly_bind_of_some (read_value _ _), readsOnly_byte behind, and_iff_right inside]
  by_cases isLink : memory ptr = ICMP6_OPTION_SOURCE_LINK_ADDRESS
  · have others : (1 : UInt8) ≠ 3 ∧ (1 : UInt8) ≠ 25 := by decide
    rw [if_pos isLink, readsOnly_bind_of_some (readBlock_value _ _),
      readsOnly_block (by omega) (by decide), and_iff_left (readsOnly_pure _), isLink,
      Nat.add_assoc]
    exact ⟨fun last => ⟨fun _ => last, fun other => absurd other others.1,
      fun other => absurd other.1 others.1, fun other => absurd other others.2⟩,
      fun conditions => conditions.1 rfl⟩
  by_cases isPrefix : memory ptr = ICMP6_OPTION_PREFIX_INFORMATION
  · have others : (3 : UInt8) ≠ 1 ∧ (3 : UInt8) ≠ 25 := by decide
    rw [if_neg isLink, if_pos isPrefix, readsOnly_inspectPrefix (by omega), isPrefix,
      Nat.add_assoc, Nat.add_assoc, Nat.add_assoc]
    exact ⟨fun ⟨flagsInside, announced⟩ => ⟨fun other => absurd other others.1,
        fun _ => flagsInside, fun ⟨_, length, flags⟩ => announced flags length,
        fun other => absurd other others.2⟩,
      fun ⟨_, flagsInside, announced, _⟩ => ⟨flagsInside rfl,
        fun flags length => announced ⟨rfl, length, flags⟩⟩⟩
  rw [if_neg isLink, if_neg isPrefix]
  by_cases isResolver : memory ptr = ICMP6_OPTION_RECURSIVE_DNS
  · rw [if_pos isResolver, readsOnly_bind_of_some (readBlock_value _ _),
      readsOnly_block (by omega) (by decide), and_iff_left (readsOnly_pure _),
      Nat.add_assoc]
    exact ⟨fun last => ⟨fun other => absurd other isLink,
        fun other => absurd other isPrefix, fun other => absurd other.1 isPrefix,
        fun _ => last⟩,
      fun conditions => conditions.2.2.2 isResolver⟩
  · rw [if_neg isResolver]
    exact iff_of_true (readsOnly_pure _) ⟨fun other => absurd other isLink,
      fun other => absurd other isPrefix, fun other => absurd other.1 isPrefix,
      fun other => absurd other isResolver⟩

/-- The instrumented pass computes what the pass does. -/
theorem inspectRaPass_value (walk : OptionWalk) :
    ∃ taken, (inspectRaPass walk walk.ether.buffer).value = some (raPass walk, taken) ∧
      (taken = true ↔ walk.remaining > 0 ∧
        TakesAddress walk.ether.buffer (walk.ether.globalAddress.isZero = true)
          walk.ptr) := by
  unfold inspectRaPass raPass
  by_cases positive : walk.remaining > 0
  · obtain ⟨taken, yields, takes⟩ := inspectRaOption_value walk.ether walk.ptr
    rw [if_pos positive, if_pos positive, bind_value_of_some yields,
      and_iff_right positive]
    refine ⟨taken, ?_, takes⟩
    simp only [bind_value_of_some (read_value _ _), pure_value, OptionWalk.advance,
      optionSize, raOption_buffer]
  · rw [if_neg positive, if_neg positive]
    exact ⟨false, rfl, iff_of_false Bool.false_ne_true fun both => positive both.1⟩

/-- A pass stays inside exactly if the option it is at does. -/
theorem passInside_ra_iff {walk : OptionWalk} (behind : payload ≤ walk.ptr)
    (positive : walk.remaining > 0) (inside : walk.ptr < packetEnd walk.ether.buffer) :
    PassInside walk.ether.buffer walk.ptr (inspectRaPass walk) ↔
      OptionInside walk.ether.buffer (walk.ether.globalAddress.isZero = true)
        walk.ptr := by
  obtain ⟨taken, passYields, passTakes⟩ := inspectRaPass_value walk
  obtain ⟨_, yields, -⟩ := inspectRaOption_value walk.ether walk.ptr
  have reads : ReadsOnly (InPayload walk.ether.buffer) (inspectRaPass walk)
      walk.ether.buffer ↔
      ReadsOnly (InPayload walk.ether.buffer) (walk.ether.inspectRaOption walk.ptr)
        walk.ether.buffer ∧ walk.ptr + 2 ≤ packetEnd walk.ether.buffer := by
    unfold inspectRaPass
    rw [if_pos positive, readsOnly_bind_of_some yields]
    apply and_congr_right
    intro _
    rw [readsOnly_bind_of_some (read_value _ _), and_iff_left (readsOnly_pure _)]
    exact readsOnly_byte (by omega)
  rw [readsOnly_inspectRaOption behind inside] at reads
  have whole : (∀ result, (inspectRaPass walk walk.ether.buffer).value = some (result, true) →
      walk.ptr + optionSize walk.ether.buffer walk.ptr ≤ packetEnd walk.ether.buffer) ↔
      (TakesAddress walk.ether.buffer (walk.ether.globalAddress.isZero = true) walk.ptr →
        walk.ptr + optionSize walk.ether.buffer walk.ptr ≤ packetEnd walk.ether.buffer) := by
    rw [passYields, ← passTakes.trans (and_iff_right positive)]
    constructor
    · rintro fromValue rfl
      exact fromValue _ rfl
    · intro fromTaken result same
      cases same
      exact fromTaken rfl
  constructor
  · intro stays
    obtain ⟨⟨mac, flags, announced, resolver⟩, length⟩ := reads.mp stays.reads
    exact ⟨length, mac, flags, announced, resolver, whole.mp stays.whole⟩
  · intro option
    exact ⟨reads.mpr ⟨⟨option.mac, option.flags, option.announced, option.resolver⟩,
      option.length⟩, whole.mpr option.whole⟩

/-! ### The walks -/

/-- Where a walk is after a number of passes that went on. -/
structure WalkAt (start : OptionWalk) (number : Nat) (walk : OptionWalk) : Prop where
  ptr : walk.ptr = optionStart start.ether.buffer start.ptr number
  extent : (walk.ptr : Int) + walk.remaining.toInt = start.ptr + start.remaining.toInt
  buffer : walk.ether.buffer = start.ether.buffer

theorem WalkAt.head (start : OptionWalk) : WalkAt start 0 start :=
  ⟨rfl, rfl, rfl⟩

theorem WalkAt.advance {start walk : OptionWalk} {number : Nat} {ether : EtherSia}
    (isAt : WalkAt start number walk) (positive : walk.remaining > 0)
    (sameBuffer : ether.buffer = walk.ether.buffer) :
    WalkAt start (number + 1) (walk.advance ether) where
  ptr := by
    simp only [OptionWalk.advance, sameBuffer, optionStart, isAt.ptr, isAt.buffer]
  extent := (advance_extent positive sameBuffer).trans isAt.extent
  buffer := sameBuffer.trans isAt.buffer

theorem optionStart_mono (memory : Memory) (first : Nat) {early late : Nat}
    (before : early ≤ late) :
    optionStart memory first early ≤ optionStart memory first late := by
  induction before with
  | refl => exact le_rfl
  | step _ ih => exact ih.trans (Nat.le_add_right _ _)

theorem WalkAt.positive_iff {start walk : OptionWalk} {number last : Nat}
    (isAt : WalkAt start number walk)
    (extent : (start.ptr : Int) + start.remaining.toInt = last) :
    walk.remaining > 0 ↔ walk.ptr < last :=
  raWalk_extent_positive (isAt.extent.trans extent)

namespace WalksOptions

variable {ρ : Type} {body : OptionWalk → OptionWalk ⊕ ρ} {leaves : UInt8 → Prop}

theorem continues_iff (walks : WalksOptions body leaves) {walk next : OptionWalk}
    (continues : body walk = .inl next) :
    walk.remaining > 0 ∧ ¬leaves (walk.ether.buffer walk.ptr) ∧
      ∃ ether, ether.buffer = walk.ether.buffer ∧ next = walk.advance ether := by
  by_cases positive : walk.remaining > 0
  · by_cases found : leaves (walk.ether.buffer walk.ptr)
    · obtain ⟨result, left⟩ := walks.found walk positive found
      rw [left] at continues
      cases continues
    · obtain ⟨ether, sameBuffer, advances⟩ := walks.passes walk positive found
      rw [advances] at continues
      cases continues
      exact ⟨positive, found, ether, sameBuffer, rfl⟩
  · obtain ⟨result, left⟩ := walks.ends walk positive
    rw [left] at continues
    cases continues

theorem reachesIn_walkAt (walks : WalksOptions body leaves) {start walk : OptionWalk}
    {number : Nat} (reached : ReachesIn body start number walk) :
    WalkAt start number walk ∧ ∀ earlier < number,
      ¬leaves (start.ether.buffer (optionStart start.ether.buffer start.ptr earlier)) := by
  induction reached with
  | start => exact ⟨.head start, fun _ before => absurd before (Nat.not_lt_zero _)⟩
  | @next number walk next _ continues ih =>
      obtain ⟨isAt, passed⟩ := ih
      obtain ⟨positive, stays, ether, sameBuffer, rfl⟩ := walks.continues_iff continues
      refine ⟨isAt.advance positive sameBuffer, fun earlier before => ?_⟩
      rcases Nat.lt_succ_iff_lt_or_eq.mp before with sooner | rfl
      · exact passed earlier sooner
      · rwa [isAt.ptr, isAt.buffer] at stays

/-- The walk gets to each option that starts inside, if it does not leave before. -/
theorem exists_reachesIn (walks : WalksOptions body leaves) (start : OptionWalk)
    {number : Nat} (inside : (optionStart start.ether.buffer start.ptr number : Int) <
      start.ptr + start.remaining.toInt)
    (passed : ∀ earlier < number,
      ¬leaves (start.ether.buffer (optionStart start.ether.buffer start.ptr earlier))) :
    ∃ walk, ReachesIn body start number walk ∧ walk.remaining > 0 := by
  have ahead {walk : OptionWalk} {number : Nat} (isAt : WalkAt start number walk)
      (before : (optionStart start.ether.buffer start.ptr number : Int) <
        start.ptr + start.remaining.toInt) : walk.remaining > 0 := by
    rw [positive_iff]
    have extent := isAt.extent
    rw [isAt.ptr] at extent
    omega
  induction number with
  | zero => exact ⟨start, .start, ahead (.head start) inside⟩
  | succ number ih =>
      have earlierInside : (optionStart start.ether.buffer start.ptr number : Int) <
          start.ptr + start.remaining.toInt := by
        have mono := optionStart_mono start.ether.buffer start.ptr (Nat.le_add_right number 1)
        omega
      obtain ⟨walk, reached, positive⟩ := ih earlierInside fun earlier before =>
        passed earlier (Nat.lt_succ_of_lt before)
      obtain ⟨isAt, -⟩ := walks.reachesIn_walkAt reached
      have stays : ¬leaves (walk.ether.buffer walk.ptr) := by
        rw [isAt.buffer, isAt.ptr]
        exact passed number (Nat.lt_succ_self _)
      obtain ⟨ether, sameBuffer, continues⟩ := walks.passes walk positive stays
      exact ⟨_, reached.next continues, ahead (isAt.advance positive sameBuffer) inside⟩

/-- What holds at each option a walk gets to, and at its end, holds of the whole walk. -/
theorem forall_reached_iff (walks : WalksOptions body leaves) {start : OptionWalk}
    {last : Nat} (extent : (start.ptr : Int) + start.remaining.toInt = last)
    {inside : OptionWalk → Prop} {condition : Nat → Prop}
    (ended : ∀ walk, ¬walk.remaining > 0 → inside walk)
    (here : ∀ number walk, ReachesIn body start number walk → walk.remaining > 0 →
      (inside walk ↔ condition number)) :
    (∀ walk, Reaches body start walk → inside walk) ↔
      ∀ number, optionStart start.ether.buffer start.ptr number < last →
        (∀ earlier < number, ¬leaves (start.ether.buffer
          (optionStart start.ether.buffer start.ptr earlier))) → condition number := by
  constructor
  · intro stays number before passed
    have ahead : (optionStart start.ether.buffer start.ptr number : Int) <
        start.ptr + start.remaining.toInt := by
      rw [extent]
      exact Int.ofNat_lt.mpr before
    obtain ⟨walk, reached, positive⟩ := walks.exists_reachesIn start ahead passed
    exact (here number walk reached positive).mp
      (stays walk (reaches_iff_reachesIn.mpr ⟨number, reached⟩))
  · intro conditions walk reached
    obtain ⟨number, reachedIn⟩ := reaches_iff_reachesIn.mp reached
    obtain ⟨isAt, passed⟩ := walks.reachesIn_walkAt reachedIn
    by_cases positive : walk.remaining > 0
    · apply (here number walk reachedIn positive).mpr
      refine conditions number ?_ passed
      rw [isAt.positive_iff extent, isAt.ptr] at positive
      exact positive
    · exact ended walk positive

end WalksOptions

/-- The address is still unset after a number of passes if none of the options before
announces an acceptable prefix. -/
theorem raWalk_unset_iff {start walk : OptionWalk} {number : Nat}
    (reached : ReachesIn raPass start number walk) :
    walk.ether.globalAddress.isZero = true ↔
      start.ether.globalAddress.isZero = true ∧ ∀ earlier < number,
        ¬PrefixInformationAt start.ether.buffer
          (optionStart start.ether.buffer start.ptr earlier) := by
  induction reached with
  | start => exact (and_iff_left fun _ before => absurd before (Nat.not_lt_zero _)).symm
  | @next number walk next reached continues ih =>
      obtain ⟨isAt, -⟩ := raPass_walksOptions.reachesIn_walkAt reached
      have step : next.ether = walk.ether.raOption walk.ptr := by
        unfold raPass at continues
        split at continues <;> cases continues
        rfl
      have onwards : (∀ earlier < number + 1, ¬PrefixInformationAt start.ether.buffer
          (optionStart start.ether.buffer start.ptr earlier)) ↔
          (∀ earlier < number, ¬PrefixInformationAt start.ether.buffer
            (optionStart start.ether.buffer start.ptr earlier)) ∧
            ¬PrefixInformationAt walk.ether.buffer walk.ptr := by
        rw [isAt.buffer, isAt.ptr]
        exact Nat.forall_lt_succ_right
      rw [onwards, ← and_assoc, ← ih, step]
      by_cases unset : walk.ether.globalAddress.isZero = true
      · rw [and_iff_right unset]
        by_cases isPrefix : PrefixInformationAt walk.ether.buffer walk.ptr
        · rw [raOption_of_announcement unset isPrefix]
          exact iff_of_false (Bool.eq_false_iff.mp (setEui64_not_isZero _ _))
            (not_not.mpr isPrefix)
        · rw [raOption_keeps_globalAddress fun _ => isPrefix]
          exact iff_of_true unset isPrefix
      · rw [raOption_keeps_globalAddress fun stillUnset => absurd stillUnset unset]
        exact iff_of_false unset fun both => unset both.1

/-! ### The options that have to lie inside -/

/-- Of each option that starts inside, the bytes that are used lie inside too. -/
def AdvertisedOptionsInside (memory : Memory) (unset : Prop) : Prop :=
  ∀ number, optionStart memory ICMPv6Packet.raOptions number < packetEnd memory →
    OptionInside memory
      (unset ∧ ∀ earlier < number,
        ¬PrefixInformationAt memory (optionStart memory ICMPv6Packet.raOptions earlier))
      (optionStart memory ICMPv6Packet.raOptions number)

/-- The first target link-layer address lies inside with all of its option, and so do the
lengths of the options before it. -/
def NeighbourOptionsInside (memory : Memory) : Prop :=
  ∀ number, optionStart memory ICMPv6Packet.naOptions number < packetEnd memory →
    (∀ earlier < number, memory (optionStart memory ICMPv6Packet.naOptions earlier) ≠
      ICMP6_OPTION_TARGET_LINK_ADDRESS) →
      let ptr := optionStart memory ICMPv6Packet.naOptions number
      if memory ptr = ICMP6_OPTION_TARGET_LINK_ADDRESS then
        ptr + 8 ≤ packetEnd memory ∧ ptr + optionSize memory ptr ≤ packetEnd memory
      else ptr + 2 ≤ packetEnd memory

theorem optionBytes_toInt {memory : Memory} {headers : UInt16}
    (fits : packetEnd memory ≤ ETHERSIA_MAX_PACKET_SIZE) (short : headers.toNat ≤ 24) :
    (payload + headers.toNat : Int) + (optionBytes memory headers).toInt =
      packetEnd memory := by
  have endIs : packetEnd memory = 54 + (payloadLength memory).toNat := rfl
  have start : payload = 54 := rfl
  have largest : ETHERSIA_MAX_PACKET_SIZE = 600 := rfl
  have word (value : UInt16) : value.toInt16.toInt = (value.toNat : Int).bmod 65536 :=
    BitVec.toInt_eq_toNat_bmod _
  have left : (optionBytes memory headers).toInt =
      (((payloadLength memory).toNat : Int) - headers.toNat).bmod 65536 := by
    unfold optionBytes
    rw [UInt16.toInt16_sub, Int16.toInt_sub, word, word, Int.sub_bmod_bmod]
    exact Int.bmod_sub_bmod
  rw [left, Int.bmod_eq_of_le (by omega) (by omega)]
  omega

theorem passInside_of_ended {α : Type} (memory : Memory) (ptr : Nat) (result : α) :
    PassInside memory ptr (pure (result, false)) where
  reads := readsOnly_pure _
  whole := fun _ yields => by cases yields

theorem advertisementStaysInside_iff {ether : EtherSia}
    (fits : packetEnd ether.buffer ≤ ETHERSIA_MAX_PACKET_SIZE) :
    ether.AdvertisementStaysInside ↔
      (ether.autoConfigurationEnabled = true →
        AdvertisedOptionsInside ether.buffer (ether.globalAddress.isZero = true)) := by
  have extent : (ether.raWalk.ptr : Int) + ether.raWalk.remaining.toInt =
      packetEnd ether.buffer := @optionBytes_toInt _ 16 fits (by decide)
  have here {walk : OptionWalk} {number : Nat}
      (reached : ReachesIn raPass ether.raWalk number walk) (positive : walk.remaining > 0) :
      PassInside ether.buffer walk.ptr (inspectRaPass walk) ↔
        OptionInside ether.buffer
          (ether.globalAddress.isZero = true ∧ ∀ earlier < number,
            ¬PrefixInformationAt ether.buffer
              (optionStart ether.buffer ICMPv6Packet.raOptions earlier))
          (optionStart ether.buffer ICMPv6Packet.raOptions number) := by
    obtain ⟨isAt, -⟩ := raPass_walksOptions.reachesIn_walkAt reached
    have sameBuffer : walk.ether.buffer = ether.buffer := isAt.buffer
    have ptr : walk.ptr = optionStart ether.buffer ICMPv6Packet.raOptions number := isAt.ptr
    have behind : payload ≤ walk.ptr := by
      rw [ptr]
      exact Nat.le_trans (by decide) (first_le_optionStart _ _ _)
    have inside := (isAt.positive_iff extent).mp positive
    have pass := passInside_ra_iff behind positive (sameBuffer ▸ inside)
    rw [sameBuffer, raWalk_unset_iff reached] at pass
    rw [pass, ptr]
    exact Iff.rfl
  refine imp_congr_right fun _ =>
    (raPass_walksOptions.forall_reached_iff extent ?_ fun _ _ => here).trans ?_
  · intro walk ended
    unfold inspectRaPass
    rw [if_neg ended]
    exact passInside_of_ended _ _ _
  · exact forall_congr' fun number => imp_congr_right fun _ =>
      imp_iff_right fun _ _ absurdity => absurdity

/-! ### Neighbour advertisements -/

/-- The instrumented pass computes what the pass does. -/
theorem inspectNaPass_value (walk : OptionWalk) :
    (inspectNaPass walk walk.ether.buffer).value =
      some (naPass walk, decide (walk.remaining > 0 ∧
        walk.ether.buffer walk.ptr = ICMP6_OPTION_TARGET_LINK_ADDRESS)) := by
  unfold inspectNaPass naPass
  by_cases positive : walk.remaining > 0
  · rw [if_pos positive, if_pos positive, bind_value_of_some (read_value _ _)]
    by_cases isTarget : walk.ether.buffer walk.ptr = ICMP6_OPTION_TARGET_LINK_ADDRESS
    · rw [if_pos isTarget, if_pos isTarget, bind_value_of_some (readBlock_value _ _),
        decide_eq_true ⟨positive, isTarget⟩]
      rfl
    · rw [if_neg isTarget, if_neg isTarget, bind_value_of_some (read_value _ _),
        decide_eq_false fun both => isTarget both.2]
      rfl
  · rw [if_neg positive, if_neg positive, decide_eq_false fun both => positive both.1]
    rfl

theorem readsOnly_inspectNaPass {walk : OptionWalk} (behind : payload ≤ walk.ptr)
    (positive : walk.remaining > 0) {memory : Memory}
    (inside : walk.ptr < packetEnd memory) :
    ReadsOnly (InPayload memory) (inspectNaPass walk) memory ↔
      if memory walk.ptr = ICMP6_OPTION_TARGET_LINK_ADDRESS then
        walk.ptr + 8 ≤ packetEnd memory
      else walk.ptr + 2 ≤ packetEnd memory := by
  unfold inspectNaPass
  rw [if_pos positive, readsOnly_bind_of_some (read_value _ _), readsOnly_byte behind,
    and_iff_right inside]
  by_cases isTarget : memory walk.ptr = ICMP6_OPTION_TARGET_LINK_ADDRESS
  · rw [if_pos isTarget, if_pos isTarget, readsOnly_bind_of_some (readBlock_value _ _),
      readsOnly_block (by omega) (by decide), and_iff_left (readsOnly_pure _),
      Nat.add_assoc]
  · rw [if_neg isTarget, if_neg isTarget, readsOnly_bind_of_some (read_value _ _),
      readsOnly_byte (by omega), and_iff_left (readsOnly_pure _)]
    exact Iff.rfl

theorem passInside_na_iff {walk : OptionWalk} (behind : payload ≤ walk.ptr)
    (positive : walk.remaining > 0) (inside : walk.ptr < packetEnd walk.ether.buffer) :
    PassInside walk.ether.buffer walk.ptr (inspectNaPass walk) ↔
      if walk.ether.buffer walk.ptr = ICMP6_OPTION_TARGET_LINK_ADDRESS then
        walk.ptr + 8 ≤ packetEnd walk.ether.buffer ∧
          walk.ptr + optionSize walk.ether.buffer walk.ptr ≤ packetEnd walk.ether.buffer
      else walk.ptr + 2 ≤ packetEnd walk.ether.buffer := by
  have reads := readsOnly_inspectNaPass behind positive inside
  have yields := inspectNaPass_value walk
  by_cases isTarget : walk.ether.buffer walk.ptr = ICMP6_OPTION_TARGET_LINK_ADDRESS
  · rw [if_pos isTarget] at reads ⊢
    rw [decide_eq_true ⟨positive, isTarget⟩] at yields
    constructor
    · exact fun stays => ⟨reads.mp stays.reads, stays.whole _ yields⟩
    · exact fun ⟨mac, whole⟩ => ⟨reads.mpr mac, fun _ _ => whole⟩
  · rw [if_neg isTarget] at reads ⊢
    rw [decide_eq_false fun both => isTarget both.2] at yields
    constructor
    · exact fun stays => reads.mp stays.reads
    · refine fun length => ⟨reads.mpr length, fun result same => ?_⟩
      rw [yields] at same
      cases same

theorem neighbourStaysInside_iff {ether : EtherSia} (expected : IPv6Address)
    (fits : packetEnd ether.buffer ≤ ETHERSIA_MAX_PACKET_SIZE) :
    ether.NeighbourStaysInside expected ↔
      ICMPv6Packet.naOptions ≤ packetEnd ether.buffer ∧
        (ICMPv6Packet.target ether.buffer = expected →
          NeighbourOptionsInside ether.buffer) := by
  have extent : (ether.naWalk.ptr : Int) + ether.naWalk.remaining.toInt =
      packetEnd ether.buffer := @optionBytes_toInt _ 24 fits (by decide)
  have here {walk : OptionWalk} {number : Nat}
      (reached : ReachesIn naPass ether.naWalk number walk) (positive : walk.remaining > 0) :
      PassInside ether.buffer walk.ptr (inspectNaPass walk) ↔
        let ptr := optionStart ether.buffer ICMPv6Packet.naOptions number
        if ether.buffer ptr = ICMP6_OPTION_TARGET_LINK_ADDRESS then
          ptr + 8 ≤ packetEnd ether.buffer ∧
            ptr + optionSize ether.buffer ptr ≤ packetEnd ether.buffer
        else ptr + 2 ≤ packetEnd ether.buffer := by
    obtain ⟨isAt, -⟩ := naPass_walksOptions.reachesIn_walkAt reached
    have sameBuffer : walk.ether.buffer = ether.buffer := isAt.buffer
    have ptr : walk.ptr = optionStart ether.buffer ICMPv6Packet.naOptions number := isAt.ptr
    have behind : payload ≤ walk.ptr := by
      rw [ptr]
      exact Nat.le_trans (by decide) (first_le_optionStart _ _ _)
    have inside := (isAt.positive_iff extent).mp positive
    have pass := passInside_na_iff behind positive (sameBuffer ▸ inside)
    rw [sameBuffer, ptr] at pass
    rw [ptr]
    exact pass
  have target : ReadsOnly (InPayload ether.buffer) inspectTarget ether.buffer ↔
      ICMPv6Packet.naOptions ≤ packetEnd ether.buffer := by
    unfold inspectTarget
    rw [readsOnly_bind_of_some (readBlock_value _ _),
      readsOnly_block (by decide) (by decide), and_iff_left (readsOnly_pure _)]
    exact Iff.rfl
  refine and_congr target (imp_congr_right fun _ =>
    naPass_walksOptions.forall_reached_iff extent ?_ fun _ _ => here)
  intro walk ended
  unfold inspectNaPass
  rw [if_neg ended]
  exact passInside_of_ended _ _ _

/-- An advertisement is read inside its payload, and gives addresses only of whole options,
exactly if the options that the walk gets to lie inside as far as it uses them. -/
theorem options_read_inside_iff (ether : EtherSia)
    (fits : packetEnd ether.buffer ≤ ETHERSIA_MAX_PACKET_SIZE) :
    (ether.AdvertisementStaysInside ↔
      (ether.autoConfigurationEnabled = true →
        AdvertisedOptionsInside ether.buffer (ether.globalAddress.isZero = true))) ∧
      ∀ expected, ether.NeighbourStaysInside expected ↔
        ICMPv6Packet.naOptions ≤ packetEnd ether.buffer ∧
          (ICMPv6Packet.target ether.buffer = expected →
            NeighbourOptionsInside ether.buffer) :=
  ⟨advertisementStaysInside_iff fits, fun expected => neighbourStaysInside_iff expected fits⟩

/-- The advertisement with a router, a prefix, an MTU and a resolver. -/
theorem options_read_inside_example :
    (exampleStation.ether.accepted exampleAdvertisement).AdvertisementStaysInside := by
  have fits : packetEnd (exampleStation.ether.accepted exampleAdvertisement).buffer ≤
      ETHERSIA_MAX_PACKET_SIZE := by
    decide +kernel
  refine (options_read_inside_iff _ fits).1.mpr fun _ number inside => ?_
  have few : number < 4 := by
    by_contra many
    have behind := optionStart_mono
      (exampleStation.ether.accepted exampleAdvertisement).buffer ICMPv6Packet.raOptions
      (Nat.le_of_not_lt many)
    have last : optionStart (exampleStation.ether.accepted exampleAdvertisement).buffer
        ICMPv6Packet.raOptions 4 =
        packetEnd (exampleStation.ether.accepted exampleAdvertisement).buffer := by
      decide +kernel
    omega
  interval_cases number
  all_goals
    exact ⟨by decide +kernel, by decide +kernel, by decide +kernel,
      fun announces _ => by revert announces; decide +kernel, by decide +kernel,
      fun _ => by decide +kernel⟩

/-- The packet ends behind the type and the length of a source link-layer address. -/
def truncatedAdvertisement : Frame :=
  exampleFrame 18 IP6_PROTO_ICMP6
    [134, 0, 0x36, 0xa5, 64, 0, 7, 8, 0, 0, 0, 0, 0, 0, 0, 0, 1, 1] (by decide)

/-- The MAC address of the router is set from six bytes behind the packet. -/
theorem truncated_link_address_taken :
    ¬∀ (ether : EtherSia) (frame : Frame), ether.Accepts frame →
      (ether.accepted frame).HoldsMessage ICMP6_TYPE_RA →
        packetEnd (ether.accepted frame).buffer ≤ ETHERSIA_MAX_PACKET_SIZE →
          (ether.accepted frame).AdvertisementStaysInside := by
  intro inside
  have fits : packetEnd (exampleStation.ether.accepted truncatedAdvertisement).buffer ≤
      ETHERSIA_MAX_PACKET_SIZE := by
    decide +kernel
  have stays := inside exampleStation.ether truncatedAdvertisement
    ⟨by decide, by decide +kernel⟩
    ⟨by decide +kernel, by decide +kernel, by decide +kernel⟩ fits
  have option := (advertisementStaysInside_iff fits).mp stays rfl 0 (by decide +kernel)
  exact absurd (option.mac (by decide +kernel)) (by decide +kernel)

end EtherSia

end EtherSiaStack
