/-
`setRemoteAddress` for a string in flash memory.

The array the string is copied to has 64 bytes, of which `strncpy_P` writes 63.  A string
that leaves room for its NUL there is copied with it.  A longer one is followed by
whatever the stack holds, which is not looked at only if the text is an address: the
search for a colon stops at the first, and the parser at the fortieth character.
-/

import EtherSiaStack.RemoteAddress

namespace EtherSiaStack

open ByteMemory FuelLoop

/-! ### Texts -/

theorem containsColon_iff (text : List UInt8) : containsColon text = true ↔ colon ∈ text := by
  induction text with
  | nil => exact iff_of_false Bool.false_ne_true List.not_mem_nil
  | cons c rest ih =>
      rw [containsColon, List.mem_cons]
      by_cases isColon : c = colon
      · rw [if_pos isColon]
        exact iff_of_true rfl (Or.inl isColon.symm)
      · rw [if_neg isColon, ih, or_iff_right (Ne.symm isColon)]

theorem NullTerminated.unique {memory : Memory} {first second : List UInt8}
    (left : NullTerminated memory first) (right : NullTerminated memory second) :
    first = second := by
  suffices fromHere : ∀ address (others : List UInt8), (∀ c ∈ first, c ≠ 0) →
      (∀ c ∈ others, c ≠ 0) → Spells memory address (first ++ [0]) →
        Spells memory address (others ++ [0]) → first = others from
    fromHere 0 second left.noNul right.noNul left.spelled right.spelled
  clear left right
  induction first with
  | nil =>
      intro address others _ noNul ended spelled
      cases others with
      | nil => rfl
      | cons c rest =>
          have isNul := spells_singleton.mp ended
          have isC := (spells_cons.mp spelled).1
          exact absurd (isC.symm.trans isNul) (noNul c List.mem_cons_self)
  | cons c rest ih =>
      intro address others noNul othersNoNul spelled otherSpelled
      obtain ⟨here, following⟩ := spells_cons.mp spelled
      cases others with
      | nil =>
          have isNul := spells_singleton.mp otherSpelled
          exact absurd (here.symm.trans isNul) (noNul c List.mem_cons_self)
      | cons d others =>
          obtain ⟨otherHere, otherFollowing⟩ := spells_cons.mp otherSpelled
          have same : c = d := here.symm.trans otherHere
          have sameRest := ih (address + 1) others
            (fun later member => noNul later (List.mem_cons_of_mem _ member))
            (fun later member => othersNoNul later (List.mem_cons_of_mem _ member))
            following otherFollowing
          rw [same, sameRest]

theorem NullTerminated.head {memory : Memory} {text : List UInt8} {count : Nat}
    (string : NullTerminated memory text) (noNul : ∀ index < count, memory index ≠ 0) :
    count ≤ text.length ∧ text.take count = bytesAt memory 0 count := by
  obtain ⟨spelled, ended⟩ := spells_append.mp string.spelled
  rw [Nat.zero_add, spells_singleton] at ended
  have goesOn : count ≤ text.length := by
    by_contra stops
    exact noNul text.length (Nat.lt_of_not_le stops) ended
  refine ⟨goesOn, ?_⟩
  apply List.ext_getElem
  · rw [List.length_take, bytesAt_length, Nat.min_eq_left goesOn]
  · intro index inside _
    rw [List.length_take, Nat.min_eq_left goesOn] at inside
    rw [List.getElem_take, bytesAt_getElem]
    exact (spells_iff_getElem.mp spelled index (by omega)).symm

/-! ### The copy -/

theorem FlashString.bytes_getElem (string : FlashString) (index : Nat)
    (inside : index < string.bytes.length) : string.bytes[index] = string.read index :=
  (bytesAt_getElem _ _ _ _ inside).trans (congrArg string.read (Nat.zero_add index))

theorem FlashString.bytes_noNul (string : FlashString) : ∀ c ∈ string.bytes, c ≠ 0 := by
  intro c member
  obtain ⟨index, inside, rfl⟩ := List.mem_iff_getElem.mp member
  have short := inside
  rw [FlashString.bytes_length] at short
  rw [FlashString.bytes_getElem]
  exact string.noNul index short

/-- What `strncpy_P` has written, and the stack behind it. -/
theorem copyOfFlash_at (remoteAddress : FlashString) (stack : Memory) (index : Nat) :
    copyOfFlash remoteAddress stack index =
      if index < 63 then remoteAddress.bytes.getD index 0 else stack index := by
  have written : ((remoteAddress.bytes ++ List.replicate 63 0x00).take 63).length = 63 := by
    rw [List.length_take, List.length_append, List.length_replicate]
    omega
  unfold copyOfFlash
  by_cases inside : index < 63
  · rw [if_pos inside]
    have stored := store_inside stack 0 _ index (by rw [written]; exact inside)
    rw [Nat.zero_add] at stored
    rw [stored, List.getElem_take, List.getD_eq_getElem?_getD]
    by_cases inText : index < remoteAddress.bytes.length
    · rw [List.getElem_append_left inText, List.getElem?_eq_getElem inText, Option.getD_some]
    · rw [List.getElem_append_right (Nat.le_of_not_lt inText), List.getElem_replicate,
        List.getElem?_eq_none (Nat.le_of_not_lt inText), Option.getD_none]
  · rw [if_neg inside, store_after _ _ (by rw [written]; omega)]

/-- The copy of a string is the string, if there is room for its NUL. -/
theorem copyOfFlash_short {remoteAddress : FlashString} (room : remoteAddress.length ≤ 62)
    (stack : Memory) :
    NullTerminated (copyOfFlash remoteAddress stack) remoteAddress.bytes where
  noNul := remoteAddress.bytes_noNul
  spelled := by
    have length := remoteAddress.bytes_length
    rw [spells_append, spells_singleton, spells_iff_getElem]
    constructor
    · intro index inside
      rw [Nat.zero_add, copyOfFlash_at, if_pos (by omega), List.getD_eq_getElem?_getD,
        List.getElem?_eq_getElem inside, Option.getD_some]
    · rw [Nat.zero_add, copyOfFlash_at, if_pos (by omega), List.getD_eq_getElem?_getD,
        List.getElem?_eq_none le_rfl, Option.getD_none]

/-- The copy of a longer one goes on behind its first 63 characters. -/
theorem copyOfFlash_long {remoteAddress : FlashString} (full : 63 ≤ remoteAddress.length)
    {stack : Memory} {text : List UInt8}
    (string : NullTerminated (copyOfFlash remoteAddress stack) text) :
    63 ≤ text.length ∧ text.take 63 = remoteAddress.bytes.take 63 := by
  have length := remoteAddress.bytes_length
  have copied (index : Nat) (inside : index < 63) :
      copyOfFlash remoteAddress stack index = remoteAddress.read index := by
    rw [copyOfFlash_at, if_pos inside, List.getD_eq_getElem?_getD,
      List.getElem?_eq_getElem (by omega), Option.getD_some, FlashString.bytes_getElem]
  have noNul : ∀ index < 63, copyOfFlash remoteAddress stack index ≠ 0 := by
    intro index inside
    rw [copied index inside]
    exact remoteAddress.noNul index (by omega)
  obtain ⟨goesOn, head⟩ := string.head noNul
  refine ⟨goesOn, head.trans ?_⟩
  apply List.ext_getElem
  · rw [bytesAt_length, List.length_take, length, Nat.min_eq_left full]
  · intro index inside _
    rw [bytesAt_length] at inside
    rw [bytesAt_getElem, List.getElem_take, Nat.zero_add, copied index inside,
      FlashString.bytes_getElem]

/-- The string on a stack that holds these characters and a NUL behind the copy. -/
def longCopy (remoteAddress : FlashString) (full : 63 ≤ remoteAddress.length)
    (behind : List UInt8) (noNul : ∀ c ∈ behind, c ≠ 0) : CString where
  memory := copyOfFlash remoteAddress (store (fun _ => 0) 63 behind)
  text := remoteAddress.bytes.take 63 ++ behind
  terminated := by
    have length := remoteAddress.bytes_length
    constructor
    · intro c member
      rcases List.mem_append.mp member with inText | isBehind
      · exact remoteAddress.bytes_noNul c (List.mem_of_mem_take inText)
      · exact noNul c isBehind
    · have taken : (remoteAddress.bytes.take 63).length = 63 := by
        rw [List.length_take, length, Nat.min_eq_left full]
      rw [List.append_assoc, spells_append, spells_append, spells_singleton, taken,
        Nat.zero_add]
      refine ⟨spells_iff_getElem.mpr fun index inside => ?_,
        spells_iff_getElem.mpr fun index inside => ?_, ?_⟩
      · rw [taken] at inside
        rw [Nat.zero_add, copyOfFlash_at, if_pos inside, List.getElem_take,
          List.getD_eq_getElem?_getD, List.getElem?_eq_getElem (by omega), Option.getD_some]
      · rw [copyOfFlash_at, if_neg (by omega)]
        exact store_inside _ 63 behind index inside
      · rw [copyOfFlash_at, if_neg (by omega)]
        exact store_after _ behind le_rfl

/-! ### Texts the socket does not tell apart -/

section SameResult

variable {socket : Socket} {ether : EtherSia} {remotePort : UInt16}
  {surroundings : RemoteSurroundings} {address : IPv6Address}
  {result : Bool × Socket × EtherSia}

/-- An address is parsed from the memory, and a name is its characters. -/
theorem setRemoteAddressText_congr {left right : CString}
    (sameKind : containsColon left.text = containsColon right.text)
    (sameValue : containsColon right.text = true →
      (IPv6Address.fromString left.memory).value = (IPv6Address.fromString right.memory).value)
    (sameName : containsColon right.text = false → left.text = right.text) :
    socket.SetRemoteAddressText ether left remotePort surroundings result ↔
      socket.SetRemoteAddressText ether right remotePort surroundings result := by
  unfold Socket.SetRemoteAddressText
  rw [sameKind]
  by_cases isAddress : containsColon right.text = true
  · rw [if_pos isAddress, if_pos isAddress, sameValue isAddress]
  · rw [if_neg isAddress, if_neg isAddress, sameName (Bool.eq_false_iff.mpr isAddress)]

/-- The parser does not get beyond the fortieth character. -/
theorem fromString_sameStart {left right : CString} (leftLong : 40 ≤ left.text.length)
    (rightLong : 40 ≤ right.text.length) (same : left.text.take 40 = right.text.take 40) :
    (IPv6Address.fromString left.memory).value =
      (IPv6Address.fromString right.memory).value := by
  have leftNonempty : left.text ≠ [] := List.ne_nil_of_length_pos (by omega)
  have rightNonempty : right.text ≠ [] := List.ne_nil_of_length_pos (by omega)
  have read : MAX_IPV6_ADDRESS_STR_LEN + 1 = 40 := rfl
  rw [IPv6Address.fromString_value left.terminated leftNonempty,
    IPv6Address.fromString_value right.terminated rightNonempty, read,
    List.take_append_of_le_length leftLong, List.take_append_of_le_length rightLong, same]

theorem setRemoteAddress_address (sets : socket.SetRemoteAddress ether address remotePort
    surroundings.randomPort surroundings.now surroundings.passes result) :
    result.2.1.remoteAddress = address := by
  unfold Socket.SetRemoteAddress at sets
  dsimp only at sets
  split at sets
  · obtain ⟨mac, after, -, rfl⟩ := sets
    cases mac <;> rfl
  · rw [sets]
    rfl

theorem setRemoteAddressText_parsed {remoteAddress : CString}
    (isAddress : containsColon remoteAddress.text = true) {parsed : Bool}
    (value : (IPv6Address.fromString remoteAddress.memory).value = some (parsed, address))
    (sets : socket.SetRemoteAddressText ether remoteAddress remotePort surroundings result) :
    result.2.1.remoteAddress = address := by
  unfold Socket.SetRemoteAddressText at sets
  rw [if_pos isAddress] at sets
  obtain ⟨parsed', address', value', sets⟩ := sets
  rw [value] at value'
  cases value'
  cases parsed with
  | true => exact setRemoteAddress_address sets
  | false =>
      rw [if_neg Bool.false_ne_true] at sets
      rw [sets]

end SameResult

/-! ### A network in which nothing answers -/

theorem emptyFrame_not_accepted (ether : EtherSia) : ¬ether.Accepts emptyFrame :=
  fun accepts => accepts.1 rfl

theorem silentNetwork_lookup (socket : Socket) {remoteAddress : CString}
    (isName : containsColon remoteAddress.text = false) :
    ∃ after, socket.SetRemoteAddressText exampleStation.ether remoteAddress 7 silentNetwork
      (false, socket, after) := by
  have offLink : exampleStation.ether.inOurSubnet
      exampleStation.ether.dnsServerAddress = none := by
    decide +kernel
  have advances : exampleStation.ether.LookupAdvances remoteAddress.text 0
      silentNetwork.lookup (steadyClock 0 600) (steadyClock 0 600) := {
    discovers := fun onLink => absurd offLink onLink
    discoveryReturns := fun onLink => absurd offLink onLink
    polls := fun call after _ => steadyClock_advances (by decide) (by decide)
      (call.retryLoop_polls 0 (steadyClock 0 600) (fun _ => emptyFrame) _)
    returns := by
      intro call after _ lookup _ stuck
      have hangs : call.PassHangs 0 silentNetwork.lookup.passes lookup :=
        (LookupCall.pass_eq_inr_none_iff lookup).mp stuck
      rcases hangs.2 with endless | ⟨accepts, -⟩
      · exact emptyFrame_not_accepted _ endless.accepts
      · exact emptyFrame_not_accepted _ accepts }
  obtain ⟨⟨found, after⟩, looked⟩ : ∃ result, exampleStation.ether.LookupHostname
      remoteAddress.text 0 silentNetwork.lookup result :=
    EtherSia.lookupHostname_ends advances
  have nothing : found = none := by
    obtain ⟨call, start, -, returns⟩ := looked
    obtain ⟨lookup, -, leaves⟩ := returns_iff_reaches.mp returns
    cases found with
    | none => rfl
    | some address =>
        by_cases going : lookup.requestCount ≤ DNS_REQUEST_ATTEMPTS
        · have answered := (LookupCall.pass_answered_iff going).mp ⟨address, after, leaves⟩
          exact absurd answered.accepts (emptyFrame_not_accepted _)
        · unfold LookupCall.pass at leaves
          rw [if_neg going] at leaves
          cases leaves
  subst nothing
  refine ⟨after, ?_⟩
  unfold Socket.SetRemoteAddressText
  rw [if_neg (Bool.eq_false_iff.mp isName)]
  exact ⟨none, after, looked, rfl⟩

/-- An address assigns what is parsed, a name that is not found nothing. -/
theorem parsed_lookedUp_differ {parsed lookedUp : CString}
    (isAddress : containsColon parsed.text = true)
    (isName : containsColon lookedUp.text = false) :
    ∃ (socket : Socket) (result : Bool × Socket × EtherSia),
      socket.SetRemoteAddressText exampleStation.ether lookedUp 7 silentNetwork result ∧
        ¬socket.SetRemoteAddressText exampleStation.ether parsed 7 silentNetwork result := by
  have nonempty : parsed.text ≠ [] := by
    intro isEmpty
    rw [isEmpty] at isAddress
    cases isAddress
  obtain ⟨⟨whole, address⟩, value⟩ : ∃ outcome,
      (IPv6Address.fromString parsed.memory).value = some outcome :=
    ⟨_, IPv6Address.fromString_value parsed.terminated nonempty⟩
  have other : ∃ remoteAddress : IPv6Address, remoteAddress ≠ address := by
    by_cases isZero : address = IPv6Address.zero
    · refine ⟨refusedAddress, ?_⟩
      rw [isZero]
      decide +kernel
    · exact ⟨IPv6Address.zero, Ne.symm isZero⟩
  obtain ⟨remoteAddress, different⟩ := other
  obtain ⟨after, sets⟩ := silentNetwork_lookup
    { exampleClient with remoteAddress := remoteAddress } isName
  exact ⟨_, _, sets, fun same => different (setRemoteAddressText_parsed isAddress value same)⟩

/-! ### The overloads for a string -/

/-- Called with the string in flash, `setRemoteAddress` does what it does when it is called
with the same characters in RAM, whatever the stack holds. -/
def FlashString.AgreesWithText (string : FlashString) : Prop :=
  ∀ (socket : Socket) (ether : EtherSia) (remotePort : UInt16)
    (surroundings : RemoteSurroundings) (stack : Memory) (temp ram : CString)
    (copied : temp.memory = copyOfFlash string stack), ram.text = string.bytes →
      ∀ result, (RemoteArgument.flash string stack temp copied).Sets socket ether remotePort
          surroundings result ↔
        (RemoteArgument.text ram).Sets socket ether remotePort surroundings result

/-- A string with room for its NUL is copied whole. -/
theorem agreesWithText_of_short {string : FlashString} (room : string.length ≤ 62) :
    string.AgreesWithText := by
  intro socket ether remotePort surroundings stack temp ram copied sameText result
  have isCopy : NullTerminated (copyOfFlash string stack) temp.text := by
    rw [← copied]
    exact temp.terminated
  have whole : temp.text = ram.text := by
    rw [sameText]
    exact isCopy.unique (copyOfFlash_short room stack)
  refine setRemoteAddressText_congr (by rw [whole]) (fun isAddress => ?_) fun _ => whole
  have nonempty : ram.text ≠ [] := by
    intro isEmpty
    rw [isEmpty] at isAddress
    cases isAddress
  rw [IPv6Address.fromString_value ram.terminated nonempty,
    IPv6Address.fromString_value temp.terminated (by rw [whole]; exact nonempty), whole]

/-- With a colon in what is copied, both are addresses with the same start. -/
theorem agreesWithText_of_colon {string : FlashString} (full : 63 ≤ string.length)
    (isAddress : colon ∈ string.bytes.take 63) : string.AgreesWithText := by
  intro socket ether remotePort surroundings stack temp ram copied sameText result
  have isCopy : NullTerminated (copyOfFlash string stack) temp.text := by
    rw [← copied]
    exact temp.terminated
  obtain ⟨goesOn, head⟩ := copyOfFlash_long full isCopy
  rw [← sameText] at head isAddress
  have ramLong : 63 ≤ ram.text.length := by
    rw [sameText, FlashString.bytes_length]
    exact full
  have tempAddress : containsColon temp.text = true := by
    rw [containsColon_iff]
    rw [← head] at isAddress
    exact List.mem_of_mem_take isAddress
  have ramAddress : containsColon ram.text = true := by
    rw [containsColon_iff]
    exact List.mem_of_mem_take isAddress
  refine setRemoteAddressText_congr (tempAddress.trans ramAddress.symm) (fun _ => ?_)
    fun isName => absurd (isName.symm.trans ramAddress) Bool.false_ne_true
  refine fromString_sameStart (by omega) (by omega) ?_
  have heads := congrArg (List.take 40) head
  rw [List.take_take, List.take_take] at heads
  exact heads

/-- Without one, what the stack holds behind the copy decides whether there is an address
or a name. -/
theorem not_agreesWithText {string : FlashString} (full : 63 ≤ string.length)
    (isName : colon ∉ string.bytes.take 63) : ¬string.AgreesWithText := by
  intro agrees
  let ram : CString := {
    memory := store (fun _ => 0) 0 string.bytes
    text := string.bytes
    terminated := nullTerminated_store _ string.bytes_noNul }
  by_cases isAddress : containsColon string.bytes = true
  · have copyIsName : containsColon
        (longCopy string full [] (fun _ member => nomatch member)).text = false := by
      rw [Bool.eq_false_iff, Ne, containsColon_iff]
      change colon ∉ string.bytes.take 63 ++ []
      rw [List.append_nil]
      exact isName
    have ramIsAddress : containsColon ram.text = true := isAddress
    obtain ⟨socket, result, sets, differs⟩ := parsed_lookedUp_differ ramIsAddress copyIsName
    exact differs ((agrees socket _ 7 silentNetwork _ _ ram rfl rfl result).mp sets)
  · have copyIsAddress : containsColon (longCopy string full [colon] (by decide +kernel)).text =
        true :=
      (containsColon_iff _).mpr (List.mem_append_right _ (List.mem_singleton_self colon))
    have ramIsName : containsColon ram.text = false := Bool.eq_false_iff.mpr isAddress
    obtain ⟨socket, result, sets, differs⟩ := parsed_lookedUp_differ copyIsAddress ramIsName
    exact differs ((agrees socket _ 7 silentNetwork _ _ ram rfl rfl result).mpr sets)

/-- The two overloads agree exactly on the strings that leave room for their NUL in the
array, and on the longer ones that have a colon among the characters copied. -/
theorem agreesWithText_iff (string : FlashString) :
    string.AgreesWithText ↔ string.length ≤ 62 ∨ colon ∈ string.bytes.take 63 := by
  constructor
  · intro agrees
    by_contra neither
    obtain ⟨long, isName⟩ := not_or.mp neither
    exact not_agreesWithText (by omega) isName agrees
  · rintro (room | isAddress)
    · exact agreesWithText_of_short room
    · by_cases room : string.length ≤ 62
      · exact agreesWithText_of_short room
      · exact agreesWithText_of_colon (by omega) isAddress

/-- A host name of one label of 63 characters, the longest a label may be. -/
def longestLabel : FlashString :=
  .of (List.replicate 63 0x61) (by decide) (by decide +kernel)

/-- It is copied without its NUL. -/
theorem longestLabel_disagrees : ¬longestLabel.AgreesWithText :=
  not_agreesWithText (by decide +kernel) (by decide +kernel)

end EtherSiaStack
