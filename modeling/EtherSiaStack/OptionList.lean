/-
The options a router advertisement is read as.

Over arbitrary bytes the starts of the options form a list that the length bytes
decide.  The walk is a fold over that list unless one of them has length 0, and
what it leaves behind comes from the last router, the last resolver and the
first acceptable prefix on the list.
-/

import EtherSiaStack.AutoConfiguration

namespace EtherSiaStack

open ByteMemory IPv6Packet FuelLoop

namespace EtherSia

/-! ### The list -/

/-- The options that start before `last`, at most `fuel` of them. -/
def optionsFrom (memory : Memory) (last : Nat) : Nat → Nat → List Nat
  | 0, _ => []
  | fuel + 1, ptr =>
      if ptr < last then
        ptr :: optionsFrom memory last fuel (ptr + optionSize memory ptr)
      else []

/-- Where the options of the router advertisement in the buffer end; the count of their
bytes is taken as a signed word. -/
def raOptionsEnd (memory : Memory) : Nat :=
  ICMPv6Packet.raOptions + (optionBytes memory 16).toInt.toNat

/-- The options of the router advertisement in the buffer. -/
def raOptionList (memory : Memory) : List Nat :=
  optionsFrom memory (raOptionsEnd memory) (raOptionsEnd memory) ICMPv6Packet.raOptions

theorem optionsFrom_of_lt {memory : Memory} {last ptr : Nat} (before : ptr < last)
    (fuel : Nat) :
    optionsFrom memory last (fuel + 1) ptr =
      ptr :: optionsFrom memory last fuel (ptr + optionSize memory ptr) :=
  if_pos before

theorem optionsFrom_of_not_lt {memory : Memory} {last ptr : Nat} (ended : ¬ ptr < last)
    (fuel : Nat) : optionsFrom memory last fuel ptr = [] := by
  cases fuel with
  | zero => rfl
  | succ fuel => exact if_neg ended

/-- What is on the list: an option before the end, and then those behind it. -/
theorem mem_optionsFrom_succ {memory : Memory} {last fuel ptr option : Nat} :
    option ∈ optionsFrom memory last (fuel + 1) ptr ↔
      ptr < last ∧ (option = ptr ∨
        option ∈ optionsFrom memory last fuel (ptr + optionSize memory ptr)) := by
  by_cases before : ptr < last
  · rw [optionsFrom_of_lt before, List.mem_cons]
    exact (and_iff_right before).symm
  · rw [optionsFrom_of_not_lt before]
    exact iff_of_false List.not_mem_nil fun both => before both.1

theorem optionsFrom_bounds {memory : Memory} {last fuel ptr option : Nat}
    (member : option ∈ optionsFrom memory last fuel ptr) :
    ptr ≤ option ∧ option < last := by
  induction fuel generalizing ptr with
  | zero => cases member
  | succ fuel ih =>
      obtain ⟨before, rfl | later⟩ := mem_optionsFrom_succ.mp member
      · exact ⟨le_rfl, before⟩
      · obtain ⟨lower, upper⟩ := ih later
        exact ⟨by omega, upper⟩

theorem le_optionSize {memory : Memory} {ptr : Nat} (nonzero : memory (ptr + 1) ≠ 0) :
    8 ≤ optionSize memory ptr := by
  have size : optionSize memory ptr ≠ 0 := fun noSize =>
    nonzero ((optionSize_eq_zero_iff _ _).mp noSize)
  unfold optionSize at size ⊢
  omega

/-- Behind an option of length 0 there is only that option. -/
theorem optionsFrom_after {memory : Memory} {last fuel ptr option : Nat}
    (member : option ∈ optionsFrom memory last fuel ptr) :
    option = ptr ∨ memory (ptr + 1) ≠ 0 ∧ ptr + 8 ≤ option := by
  by_cases zero : memory (ptr + 1) = 0
  · left
    induction fuel with
    | zero => cases member
    | succ fuel ih =>
        obtain ⟨_, same | later⟩ := mem_optionsFrom_succ.mp member
        · exact same
        · rw [(optionSize_eq_zero_iff _ _).mpr zero, Nat.add_zero] at later
          exact ih later
  · cases fuel with
    | zero => cases member
    | succ fuel =>
        obtain ⟨_, same | later⟩ := mem_optionsFrom_succ.mp member
        · exact Or.inl same
        · have size := le_optionSize zero
          have lower := (optionsFrom_bounds later).1
          exact Or.inr ⟨zero, by omega⟩

/-- Two options on one list lie at least eight bytes apart. -/
theorem optionsFrom_apart {memory : Memory} {last fuel ptr first second : Nat}
    (isFirst : first ∈ optionsFrom memory last fuel ptr)
    (isSecond : second ∈ optionsFrom memory last fuel ptr) (before : first < second) :
    memory (first + 1) ≠ 0 ∧ first + 8 ≤ second := by
  induction fuel generalizing ptr with
  | zero => cases isFirst
  | succ fuel ih =>
      obtain ⟨_, rfl | firstLater⟩ := mem_optionsFrom_succ.mp isFirst
      · exact (optionsFrom_after isSecond).resolve_left (Nat.ne_of_gt before)
      · obtain ⟨_, rfl | secondLater⟩ := mem_optionsFrom_succ.mp isSecond
        · have lower := (optionsFrom_bounds firstLater).1
          omega
        · exact ih firstLater secondLater

theorem optionsFrom_sorted (memory : Memory) (last fuel ptr : Nat) :
    (optionsFrom memory last fuel ptr).Pairwise (· ≤ ·) := by
  induction fuel generalizing ptr with
  | zero => exact List.Pairwise.nil
  | succ fuel ih =>
      by_cases before : ptr < last
      · rw [optionsFrom_of_lt before]
        refine List.pairwise_cons.mpr ⟨fun option member => ?_, ih _⟩
        exact le_trans (Nat.le_add_right _ _) (optionsFrom_bounds member).1
      · rw [optionsFrom_of_not_lt before]
        exact List.Pairwise.nil

/-- The list depends on the length bytes of its options only. -/
theorem optionsFrom_congr {left right : Memory} {last fuel ptr : Nat}
    (same : ∀ option ∈ optionsFrom left last fuel ptr,
      right (option + 1) = left (option + 1)) :
    optionsFrom right last fuel ptr = optionsFrom left last fuel ptr := by
  induction fuel generalizing ptr with
  | zero => rfl
  | succ fuel ih =>
      by_cases before : ptr < last
      · rw [optionsFrom_of_lt before] at same
        obtain ⟨head, tail⟩ := List.forall_mem_cons.mp same
        have sameSize : optionSize right ptr = optionSize left ptr := by
          unfold optionSize
          rw [head]
        rw [optionsFrom_of_lt before, optionsFrom_of_lt before, sameSize, ih tail]
      · rw [optionsFrom_of_not_lt before, optionsFrom_of_not_lt before]

/-- Whether an option is on the list depends on the bytes before it only. -/
theorem mem_optionsFrom_congr {left right : Memory} {last fuel ptr option : Nat}
    (same : ∀ address ≤ option, right address = left address)
    (member : option ∈ optionsFrom left last fuel ptr) :
    option ∈ optionsFrom right last fuel ptr := by
  induction fuel generalizing ptr with
  | zero => cases member
  | succ fuel ih =>
      obtain ⟨before, here | later⟩ := mem_optionsFrom_succ.mp member
      · exact mem_optionsFrom_succ.mpr ⟨before, Or.inl here⟩
      · rcases optionsFrom_after member with here | ⟨_, behind⟩
        · exact mem_optionsFrom_succ.mpr ⟨before, Or.inl here⟩
        · have sameSize : optionSize right ptr = optionSize left ptr := by
            unfold optionSize
            rw [same (ptr + 1) (by omega)]
          refine mem_optionsFrom_succ.mpr ⟨before, Or.inr ?_⟩
          rw [sameSize]
          exact ih later

/-! ### The walk over the list -/

theorem advance_extent {walk : OptionWalk} {ether : EtherSia}
    (positive : walk.remaining > 0) (sameBuffer : ether.buffer = walk.ether.buffer) :
    ((walk.advance ether).ptr : Int) + (walk.advance ether).remaining.toInt =
      walk.ptr + walk.remaining.toInt := by
  have left := remaining_sub_toInt positive (optionSize_le walk.ether.buffer walk.ptr)
  simp only [OptionWalk.advance, sameBuffer, left]
  omega

theorem raWalk_extent_positive {walk : OptionWalk} {last : Nat}
    (extent : (walk.ptr : Int) + walk.remaining.toInt = last) :
    walk.remaining > 0 ↔ walk.ptr < last := by
  rw [positive_iff]
  omega

theorem returns_of_ended {walk : OptionWalk} (ended : ¬ walk.remaining > 0) :
    Returns raPass walk walk.ether := by
  have leaves : raPass walk = .inr walk.ether := if_neg ended
  exact ⟨1, run_leave leaves 0⟩

theorem returns_foldl {last : Nat} (fuel : Nat) (walk : OptionWalk)
    (extent : (walk.ptr : Int) + walk.remaining.toInt = last)
    (enough : last ≤ walk.ptr + fuel)
    (nonzero : ∀ option ∈ optionsFrom walk.ether.buffer last fuel walk.ptr,
      walk.ether.buffer (option + 1) ≠ 0) :
    Returns raPass walk
      ((optionsFrom walk.ether.buffer last fuel walk.ptr).foldl raOption walk.ether) := by
  induction fuel generalizing walk with
  | zero =>
      have ended : ¬ walk.remaining > 0 := by
        rw [raWalk_extent_positive extent]
        omega
      exact returns_of_ended ended
  | succ fuel ih =>
      by_cases before : walk.ptr < last
      · have positive := (raWalk_extent_positive extent).mpr before
        have sameBuffer := raOption_buffer walk.ether walk.ptr
        rw [optionsFrom_of_lt before] at nonzero ⊢
        obtain ⟨here, later⟩ := List.forall_mem_cons.mp nonzero
        have size := le_optionSize here
        have continues : raPass walk =
            .inl (walk.advance (walk.ether.raOption walk.ptr)) := if_pos positive
        have goesOn := ih (walk.advance (walk.ether.raOption walk.ptr))
          ((advance_extent positive sameBuffer).trans extent)
        simp only [OptionWalk.advance, sameBuffer] at goesOn
        exact (goesOn (by omega) later).head (by
          rw [continues]
          simp only [OptionWalk.advance, sameBuffer])
      · have ended : ¬ walk.remaining > 0 := by
          rw [raWalk_extent_positive extent]
          exact before
        rw [optionsFrom_of_not_lt before]
        exact returns_of_ended ended

theorem diverges_of_zero {last : Nat} (fuel : Nat) (walk : OptionWalk) {option : Nat}
    (extent : (walk.ptr : Int) + walk.remaining.toInt = last)
    (member : option ∈ optionsFrom walk.ether.buffer last fuel walk.ptr)
    (zero : walk.ether.buffer (option + 1) = 0) : Diverges raPass walk := by
  induction fuel generalizing walk with
  | zero => cases member
  | succ fuel ih =>
      obtain ⟨before, rfl | later⟩ := mem_optionsFrom_succ.mp member
      · exact raPass_walksOptions.diverges_at_zero
          ((raWalk_extent_positive extent).mpr before) id zero
      · have positive := (raWalk_extent_positive extent).mpr before
        have sameBuffer := raOption_buffer walk.ether walk.ptr
        have continues : raPass walk =
            .inl (walk.advance (walk.ether.raOption walk.ptr)) := if_pos positive
        rw [diverges_iff_of_continue continues]
        apply ih
        · exact (advance_extent positive sameBuffer).trans extent
        · simp only [OptionWalk.advance, sameBuffer]
          exact later
        · simp only [OptionWalk.advance, sameBuffer]
          exact zero

/-- If there is an option at all, the options end where the packet does. -/
theorem raOptionsEnd_eq {memory : Memory} (nonempty : ICMPv6Packet.raOptions <
    raOptionsEnd memory) : raOptionsEnd memory = packetEnd memory := by
  have endIs : packetEnd memory = 54 + (payloadLength memory).toNat := rfl
  have start : ICMPv6Packet.raOptions = 70 := rfl
  have bound := (payloadLength memory).toNat_lt
  have left : (optionBytes memory 16).toInt =
      (((payloadLength memory).toNat : Int) - 16).bmod 65536 := by
    have word : (payloadLength memory).toInt16.toInt =
        ((payloadLength memory).toNat : Int).bmod 65536 :=
      BitVec.toInt_eq_toNat_bmod _
    have fixed : (16 : UInt16).toInt16.toInt = 16 := rfl
    change (payloadLength memory - 16).toInt16.toInt = _
    rw [UInt16.toInt16_sub, Int16.toInt_sub, word, fixed]
    exact Int.bmod_sub_bmod
  unfold raOptionsEnd at nonempty ⊢
  rw [left] at nonempty ⊢
  rw [Int.bmod_def] at nonempty ⊢
  split at nonempty <;> omega

theorem mem_raOptionList {memory : Memory} {option : Nat}
    (member : option ∈ raOptionList memory) :
    ICMPv6Packet.raOptions ≤ option ∧ option < packetEnd memory := by
  obtain ⟨lower, upper⟩ := optionsFrom_bounds member
  rw [raOptionsEnd_eq (Nat.lt_of_le_of_lt lower upper)] at upper
  exact ⟨lower, upper⟩

/-- The walk starts with the options left to it, or is over. -/
theorem raWalk_extent {ether : EtherSia} (positive : ether.raWalk.remaining > 0) :
    (ether.raWalk.ptr : Int) + ether.raWalk.remaining.toInt =
      (raOptionsEnd ether.buffer : Nat) := by
  have left := (positive_iff _).mp positive
  have start : ether.raWalk.ptr = ICMPv6Packet.raOptions := rfl
  have isLeft : ether.raWalk.remaining = optionBytes ether.buffer 16 := rfl
  rw [isLeft] at left ⊢
  unfold raOptionsEnd
  omega

theorem raOptionList_of_ended {ether : EtherSia} (ended : ¬ ether.raWalk.remaining > 0) :
    raOptionList ether.buffer = [] := by
  have isLeft : ether.raWalk.remaining = optionBytes ether.buffer 16 := rfl
  rw [positive_iff, isLeft] at ended
  apply optionsFrom_of_not_lt
  unfold raOptionsEnd
  omega

theorem icmp6ProcessRA_eq_foldl {ether : EtherSia}
    (enabled : ether.autoConfigurationEnabled = true)
    (nonzero : ∀ option ∈ raOptionList ether.buffer, ether.buffer (option + 1) ≠ 0) :
    ether.icmp6ProcessRA = some ((raOptionList ether.buffer).foldl raOption ether) := by
  apply icmp6ProcessRA_of_returns enabled
  by_cases positive : ether.raWalk.remaining > 0
  · exact returns_foldl _ ether.raWalk (raWalk_extent positive) (Nat.le_add_left _ _)
      nonzero
  · rw [raOptionList_of_ended positive]
    exact returns_of_ended positive

theorem icmp6ProcessRA_eq_none {ether : EtherSia} {option : Nat}
    (enabled : ether.autoConfigurationEnabled = true)
    (member : option ∈ raOptionList ether.buffer)
    (zero : ether.buffer (option + 1) = 0) : ether.icmp6ProcessRA = none := by
  rw [icmp6ProcessRA_eq_none_iff]
  refine ⟨enabled, ?_⟩
  have positive : ether.raWalk.remaining > 0 := by
    by_contra ended
    rw [raOptionList_of_ended ended] at member
    cases member
  have diverges := diverges_of_zero _ ether.raWalk (raWalk_extent positive) member zero
  exact (raPass_walksOptions.diverges_iff ether.raWalk).mp diverges

/-! ### What the fold leaves behind -/

theorem foldl_raOption_configuresOnly (options : List Nat) (ether : EtherSia) :
    ConfiguresOnly ether (options.foldl raOption ether) := by
  induction options generalizing ether with
  | nil => exact ⟨_, _, _, rfl⟩
  | cons option rest ih =>
      exact (raOption_configuresOnly ether option).trans (ih (ether.raOption option))

theorem foldl_raOption_buffer (options : List Nat) (ether : EtherSia) :
    (options.foldl raOption ether).buffer = ether.buffer := by
  obtain ⟨_, _, _, same⟩ := foldl_raOption_configuresOnly options ether
  rw [same]

/-- A field that every option of one kind overwrites comes from the last of them. -/
theorem foldl_raOption_last {α : Type} (field : EtherSia → α) {memory : Memory}
    (test : Nat → Bool) (value : Nat → α)
    (overwrites : ∀ (ether : EtherSia) option, ether.buffer = memory →
      field (ether.raOption option) = if test option then value option else field ether)
    (options : List Nat) {ether : EtherSia} (inMemory : ether.buffer = memory) :
    field (options.foldl raOption ether) =
      ((options.reverse.find? test).map value).getD (field ether) := by
  induction options using List.reverseRecOn with
  | nil => rfl
  | append_singleton options option ih =>
      have reached := (foldl_raOption_buffer options ether).trans inMemory
      rw [List.foldl_append, List.foldl_cons, List.foldl_nil, overwrites _ _ reached, ih,
        List.reverse_append, List.reverse_singleton, List.singleton_append, List.find?_cons]
      cases test option <;> rfl

def lastOption (memory : Memory) (type : UInt8) : Option Nat :=
  (raOptionList memory).reverse.find? fun option => memory option = type

theorem foldl_routerMac (ether : EtherSia) :
    ((raOptionList ether.buffer).foldl raOption ether).routerMac =
      ((lastOption ether.buffer ICMP6_OPTION_SOURCE_LINK_ADDRESS).map fun option =>
        (⟨blockAt ether.buffer (option + 2)⟩ : MACAddress)).getD ether.routerMac := by
  apply foldl_raOption_last EtherSia.routerMac _ _ _ _ rfl
  rintro other option inMemory
  unfold raOption icmp6ProcessPrefix
  rw [inMemory]
  split_ifs
  all_goals simp_all

theorem foldl_dnsServerAddress (ether : EtherSia) :
    ((raOptionList ether.buffer).foldl raOption ether).dnsServerAddress =
      ((lastOption ether.buffer ICMP6_OPTION_RECURSIVE_DNS).map fun option =>
        (⟨blockAt ether.buffer (option + 8)⟩ : IPv6Address)).getD
          ether.dnsServerAddress := by
  apply foldl_raOption_last EtherSia.dnsServerAddress _ _ _ _ rfl
  rintro other option inMemory
  unfold raOption icmp6ProcessPrefix
  rw [inMemory]
  split_ifs
  all_goals simp_all [ICMP6_OPTION_RECURSIVE_DNS, ICMP6_OPTION_SOURCE_LINK_ADDRESS,
    ICMP6_OPTION_PREFIX_INFORMATION]

instance (memory : Memory) : DecidablePred (PrefixInformationAt memory) := fun _ptr =>
  inferInstanceAs (Decidable (_ ∧ _ ∧ _))

/-- The address configured from the prefix that the option announces. -/
def announcedAddress (ether : EtherSia) (option : Nat) : IPv6Address :=
  (⟨blockAt ether.buffer (option + 16)⟩ : IPv6Address).setEui64 ether.localMac

theorem raOption_of_announcement {ether : EtherSia} {option : Nat}
    (unset : ether.globalAddress.isZero = true)
    (isPrefix : PrefixInformationAt ether.buffer option) :
    ether.raOption option = { ether with globalAddress := ether.announcedAddress option } := by
  obtain ⟨type, prefixLength, flags⟩ := isPrefix
  unfold raOption icmp6ProcessPrefix
  rw [if_neg (by rw [type]; decide), if_pos type, if_neg (not_not.mpr flags),
    if_neg (not_not.mpr prefixLength), if_pos unset]
  rfl

theorem raOption_keeps_globalAddress {ether : EtherSia} {option : Nat}
    (keeps : ether.globalAddress.isZero = true →
      ¬ PrefixInformationAt ether.buffer option) :
    (ether.raOption option).globalAddress = ether.globalAddress := by
  rcases raOption_globalAddress ether option with same | ⟨unset, isPrefix, _⟩
  · exact same
  · exact absurd isPrefix (keeps unset)

theorem foldl_keeps_globalAddress (options : List Nat) {ether : EtherSia}
    (taken : ether.globalAddress.isZero = false) :
    (options.foldl raOption ether).globalAddress = ether.globalAddress := by
  induction options generalizing ether with
  | nil => rfl
  | cons option rest ih =>
      have keeps : (ether.raOption option).globalAddress = ether.globalAddress :=
        raOption_keeps_globalAddress fun unset => by
          rw [taken] at unset
          cases unset
      rw [List.foldl_cons, ih (by rw [keeps]; exact taken), keeps]

/-- An address that was zero comes from the first acceptable prefix. -/
theorem foldl_globalAddress (options : List Nat) {ether : EtherSia}
    (unset : ether.globalAddress.isZero = true) :
    (options.foldl raOption ether).globalAddress =
      ((options.find? fun option => PrefixInformationAt ether.buffer option).map
        ether.announcedAddress).getD ether.globalAddress := by
  induction options generalizing ether with
  | nil => rfl
  | cons option rest ih =>
      by_cases isPrefix : PrefixInformationAt ether.buffer option
      · have isFirst : (option :: rest).find?
            (fun option => PrefixInformationAt ether.buffer option) = some option :=
          List.find?_cons_of_pos (decide_eq_true isPrefix)
        rw [List.foldl_cons, raOption_of_announcement unset isPrefix, isFirst]
        exact foldl_keeps_globalAddress rest (setEui64_not_isZero _ _)
      · have keeps := raOption_keeps_globalAddress fun _ => isPrefix
        obtain ⟨_, _, _, same⟩ := raOption_configuresOnly ether option
        have announced : (ether.raOption option).announcedAddress =
            ether.announcedAddress := by
          rw [same]
          rfl
        rw [List.foldl_cons, ih (by rw [keeps]; exact unset), keeps, raOption_buffer,
          announced, List.find?_cons_of_neg (by simpa using isPrefix)]

end EtherSia

end EtherSiaStack
