/-
DNS responses and the address `dnsProcessReply` selects.

Addresses count from the start of the payload.  A response is written down as data,
names with their labels and both kinds of ending, and its octets are what the
message holds; over such octets each skip of the parser goes from the start of one
name, question or record to the start of what follows it.
-/

import EtherSiaStack.Packet
import EtherSiaStack.Library.Inspection
import EtherSiaStack.Library.Spelling

namespace EtherSiaStack

open ByteMemory Inspector

def DNS_RCODE_MASK : UInt8 := 0x0F
def DNS_TYPE_AAAA : UInt16 := 28
def DNS_CLASS_IN : UInt16 := 1

/-! ### dns.cpp -/

/-- One pass of the loop in `skipOverName`. -/
def skipNamePass (ptr : Nat) : Inspector (Nat ⊕ Nat) := do
  let length ← read ptr
  if length = 0 then
    pure (.inr ptr)
  else if length &&& 0xC0 = 0xC0 then
    -- a pointer to somewhere else in the packet
    pure (.inr (ptr + 2))
  else do
    let next := ptr + length.toNat + 1
    let ending ← read next
    if ending = 0 then
      pure (.inr (next + 1))
    else
      pure (.inl next)

def skipOverName (fuel ptr : Nat) : Inspector Nat :=
  loop skipNamePass fuel ptr

/-- `while (questionCount--)`: where the answers start, or nothing beyond the end. -/
def skipQuestions (fuel endPtr : Nat) : Nat → Nat → Inspector (Option Nat)
  | 0, ptr => pure (some ptr)
  | questionCount + 1, ptr => do
      let ptr ← skipOverName fuel ptr
      let ptr := ptr + 4
      if ptr > endPtr then
        pure none
      else
        skipQuestions fuel endPtr questionCount ptr

/-- The three comparisons, of which the last two are made only after a match. -/
def looksLikeAddress (record : Nat) (rdlength : UInt16) : Inspector Bool := do
  let klass ← readWord (record + 2)
  if klass = DNS_CLASS_IN then do
    let type ← readWord record
    pure (type = DNS_TYPE_AAAA ∧ rdlength = 16)
  else
    pure false

/-- `while (answerCount--)`: where the address is. -/
def findAddress (fuel endPtr : Nat) : Nat → Nat → Inspector (Option Nat)
  | 0, _ => pure none
  | answerCount + 1, ptr => do
      let ptr ← skipOverName fuel ptr
      let rdlength ← readWord (ptr + 8)
      let isAddress ← looksLikeAddress ptr rdlength
      if isAddress then
        pure (some (ptr + 10))
      else do
        let ptr := ptr + (10 + rdlength.toNat)
        if ptr > endPtr then
          pure none
        else
          findAddress fuel endPtr answerCount ptr

/-- The counts are kept in a `uint8_t`. -/
def dnsProcessReply (fuel : Nat) (length requestId : UInt16) : Inspector (Option Nat) := do
  let questionCount ← readWord 4
  let answerCount ← readWord 6
  let id ← readWord 0
  if id ≠ requestId then
    pure none
  else do
    let flags2 ← read 3
    if flags2 &&& DNS_RCODE_MASK ≠ 0 then
      pure none
    else do
      let answers ← skipQuestions fuel length.toNat questionCount.toUInt8.toNat 12
      match answers with
      | none => pure none
      | some ptr => findAddress fuel length.toNat answerCount.toUInt8.toNat ptr

/-! ### Responses as data -/

structure DnsLabel where
  octets : List UInt8
  nonempty : 0 < octets.length
  short : octets.length ≤ 63

/-- Labels ended by a zero byte or by a compression pointer, or a pointer alone. -/
inductive DnsName
  | pointer (high low : UInt8) (isPointer : high &&& 0xC0 = 0xC0)
  | last (label : DnsLabel)
  | cons (label : DnsLabel) (rest : DnsName)

structure DnsQuestion where
  name : DnsName
  type : UInt16
  klass : UInt16

structure DnsRecord where
  name : DnsName
  type : UInt16
  klass : UInt16
  ttl : UInt32
  rdata : List UInt8
  rdataFits : rdata.length < 65536

/-- A response without an error; `rest` is what follows the answers. -/
structure DnsResponse where
  id : UInt16
  flags1 : UInt8
  flags2 : UInt8
  noError : flags2 &&& DNS_RCODE_MASK = 0
  questions : List DnsQuestion
  answers : List DnsRecord
  fewQuestions : questions.length ≤ 255
  fewAnswers : answers.length ≤ 255
  nscount : UInt16
  arcount : UInt16
  rest : List UInt8

namespace DnsLabel

/-- The length byte and the label. -/
def encoded (label : DnsLabel) : List UInt8 :=
  UInt8.ofNat label.octets.length :: label.octets

theorem length_toNat (label : DnsLabel) :
    (UInt8.ofNat label.octets.length).toNat = label.octets.length := by
  have short := label.short
  rw [UInt8.toNat_ofNat']
  exact Nat.mod_eq_of_lt (by change label.octets.length < 256; omega)

theorem length_ne_zero (label : DnsLabel) : UInt8.ofNat label.octets.length ≠ 0 := by
  intro zero
  have same := congrArg UInt8.toNat zero
  rw [label.length_toNat] at same
  have nonempty := label.nonempty
  change label.octets.length = 0 at same
  omega

/-- A length byte never looks like a pointer. -/
theorem length_not_pointer (label : DnsLabel) :
    UInt8.ofNat label.octets.length &&& 0xC0 ≠ 0xC0 := by
  have short := label.short
  generalize label.octets.length = length at short
  intro isPointer
  interval_cases length <;> exact absurd isPointer (by decide)

theorem encoded_length (label : DnsLabel) :
    label.encoded.length = label.octets.length + 1 :=
  List.length_cons

end DnsLabel

namespace DnsName

def octets : DnsName → List UInt8
  | pointer high low _ => [high, low]
  | last label => label.encoded ++ [0]
  | cons label rest => label.encoded ++ rest.octets

theorem octets_nonempty (name : DnsName) : 0 < name.octets.length := by
  cases name <;> simp [octets, DnsLabel.encoded]

/-- A name starts with a byte that is not zero. -/
theorem first_ne_zero {name : DnsName} {memory : Memory} {ptr : Nat}
    (spelled : Spells memory ptr name.octets) : memory ptr ≠ 0 := by
  cases name with
  | pointer high low isPointer =>
      have first : memory ptr = high := (spells_cons.mp spelled).1
      rw [first]
      rintro rfl
      exact absurd isPointer (by decide)
  | last label =>
      rw [(spells_cons.mp spelled).1]
      exact label.length_ne_zero
  | cons label rest =>
      rw [(spells_cons.mp spelled).1]
      exact label.length_ne_zero

end DnsName

/-! ### Each skip ends where the next part starts -/

theorem skipNamePass_value (ptr : Nat) (memory : Memory) :
    (skipNamePass ptr memory).value = some (
      if memory ptr = 0 then .inr ptr
      else if memory ptr &&& 0xC0 = 0xC0 then .inr (ptr + 2)
      else if memory (ptr + (memory ptr).toNat + 1) = 0 then
        .inr (ptr + (memory ptr).toNat + 1 + 1)
      else .inl (ptr + (memory ptr).toNat + 1)) := by
  unfold skipNamePass
  rw [bind_value_of_some (read_value ptr memory)]
  split_ifs
  · rfl
  · rfl
  · rw [bind_value_of_some (read_value _ memory), if_pos ‹_›]
    rfl
  · rw [bind_value_of_some (read_value _ memory), if_neg ‹_›]
    rfl

/-- Over the octets of a name the parser gets past it. -/
theorem skipOverName_of_spells {memory : Memory} (name : DnsName) {ptr fuel : Nat}
    (spelled : Spells memory ptr name.octets) (enough : name.octets.length ≤ fuel) :
    (skipOverName fuel ptr memory).value = some (ptr + name.octets.length) := by
  obtain ⟨less, rfl⟩ : ∃ less, fuel = less + 1 :=
    Nat.exists_eq_add_one.mpr (name.octets_nonempty.trans_le enough)
  induction name generalizing ptr less with
  | pointer high low isPointer =>
      have first : memory ptr = high := (spells_cons.mp spelled).1
      apply loop_value_of_result
      rw [skipNamePass_value, if_neg (DnsName.first_ne_zero spelled), first,
        if_pos isPointer]
      rfl
  | last label =>
      have first := (spells_cons.mp spelled).1
      have ending := spells_singleton.mp (spells_append.mp spelled).2
      have next : ptr + (memory ptr).toNat + 1 = ptr + label.encoded.length := by
        rw [first, label.length_toNat, label.encoded_length]
        omega
      apply loop_value_of_result
      rw [skipNamePass_value, if_neg (DnsName.first_ne_zero spelled), next,
        if_neg (by rw [first]; exact label.length_not_pointer), if_pos ending]
      simp [DnsName.octets]
      omega
  | cons label rest ih =>
      have first := (spells_cons.mp spelled).1
      have behind := (spells_append.mp spelled).2
      have next : ptr + (memory ptr).toNat + 1 = ptr + label.encoded.length := by
        rw [first, label.length_toNat, label.encoded_length]
        omega
      have continues : (skipNamePass ptr memory).value =
          some (.inl (ptr + label.encoded.length)) := by
        rw [skipNamePass_value, if_neg (DnsName.first_ne_zero spelled), next,
          if_neg (by rw [first]; exact label.length_not_pointer),
          if_neg (DnsName.first_ne_zero behind)]
      have longer : (DnsName.cons label rest).octets.length =
          label.encoded.length + rest.octets.length := List.length_append
      have some_ := rest.octets_nonempty
      have counted := label.encoded_length
      unfold skipOverName
      rw [loop_value_of_next continues]
      obtain ⟨fewer, rfl⟩ : ∃ fewer, less = fewer + 1 :=
        Nat.exists_eq_add_one.mpr (by omega)
      have skipped := ih behind fewer (by omega)
      unfold skipOverName at skipped
      rw [skipped, longer]
      congr 1
      omega

namespace DnsQuestion

def octets (question : DnsQuestion) : List UInt8 :=
  question.name.octets ++ (bytes16 question.type ++ bytes16 question.klass)

theorem octets_length (question : DnsQuestion) :
    question.octets.length = question.name.octets.length + 4 := by
  simp [octets]

end DnsQuestion

namespace DnsRecord

def octets (record : DnsRecord) : List UInt8 :=
  record.name.octets ++ (bytes16 record.type ++ (bytes16 record.klass ++
    (bytes32 record.ttl ++ (bytes16 (UInt16.ofNat record.rdata.length) ++ record.rdata))))

/-- Type AAAA, class IN and 16 bytes of data. -/
def isAddress (record : DnsRecord) : Bool :=
  record.type = DNS_TYPE_AAAA ∧ record.klass = DNS_CLASS_IN ∧ record.rdata.length = 16

theorem octets_length (record : DnsRecord) :
    record.octets.length =
      record.name.octets.length + (10 + record.rdata.length) := by
  simp [octets]
  omega

theorem rdlength_toNat (record : DnsRecord) :
    (UInt16.ofNat record.rdata.length).toNat = record.rdata.length := by
  rw [UInt16.toNat_ofNat']
  exact Nat.mod_eq_of_lt record.rdataFits

/-- The fields of a record lie behind its name. -/
structure At (record : DnsRecord) (memory : Memory) (ptr : Nat) : Prop where
  type : u16At memory ptr = record.type
  klass : u16At memory (ptr + 2) = record.klass
  rdlength : u16At memory (ptr + 8) = UInt16.ofNat record.rdata.length
  rdata : Spells memory (ptr + 10) record.rdata

theorem at_of_spells {record : DnsRecord} {memory : Memory} {ptr : Nat}
    (spelled : Spells memory ptr record.octets) :
    record.At memory (ptr + record.name.octets.length) := by
  obtain ⟨type, rest⟩ := spells_append.mp (spells_append.mp spelled).2
  obtain ⟨klass, rest⟩ := spells_append.mp rest
  obtain ⟨_, rest⟩ := spells_append.mp rest
  obtain ⟨rdlength, rdata⟩ := spells_append.mp rest
  exact ⟨spells_bytes16.mp type, spells_bytes16.mp klass, spells_bytes16.mp rdlength, rdata⟩

end DnsRecord

def questionOctets (questions : List DnsQuestion) : List UInt8 :=
  questions.flatMap DnsQuestion.octets

def answerOctets (answers : List DnsRecord) : List UInt8 :=
  answers.flatMap DnsRecord.octets

def DnsResponse.octets (response : DnsResponse) : List UInt8 :=
  bytes16 response.id ++ ([response.flags1, response.flags2] ++
    (bytes16 (UInt16.ofNat response.questions.length) ++
      (bytes16 (UInt16.ofNat response.answers.length) ++
        (bytes16 response.nscount ++ (bytes16 response.arcount ++
          (questionOctets response.questions ++
            (answerOctets response.answers ++ response.rest)))))))

/-! ### The two sections -/

theorem skipQuestions_value {memory : Memory} {fuel ptr next : Nat}
    (skipped : (skipOverName fuel ptr memory).value = some next) (endPtr count : Nat) :
    (skipQuestions fuel endPtr (count + 1) ptr memory).value =
      if next + 4 > endPtr then some none
      else (skipQuestions fuel endPtr count (next + 4) memory).value := by
  rw [skipQuestions, bind_value_of_some skipped]
  split_ifs
  · rfl
  · rfl

/-- The record header at an address says IN, AAAA and 16. -/
def AddressRecordAt (memory : Memory) (record : Nat) : Prop :=
  u16At memory (record + 2) = DNS_CLASS_IN ∧ u16At memory record = DNS_TYPE_AAAA ∧
    u16At memory (record + 8) = 16

instance (memory : Memory) (record : Nat) : Decidable (AddressRecordAt memory record) :=
  inferInstanceAs (Decidable (_ ∧ _ ∧ _))

theorem looksLikeAddress_value (memory : Memory) (record : Nat) :
    (looksLikeAddress record (u16At memory (record + 8)) memory).value =
      some (decide (AddressRecordAt memory record)) := by
  unfold looksLikeAddress
  rw [bind_value_of_some (readWord_value _ memory)]
  split_ifs with isInternet
  · rw [bind_value_of_some (readWord_value _ memory)]
    exact congrArg some (decide_eq_decide.mpr (and_iff_right isInternet).symm)
  · exact congrArg some (decide_eq_false fun all => isInternet all.1).symm

theorem findAddress_value {memory : Memory} {fuel ptr next : Nat}
    (skipped : (skipOverName fuel ptr memory).value = some next) (endPtr count : Nat) :
    (findAddress fuel endPtr (count + 1) ptr memory).value =
      if AddressRecordAt memory next then some (some (next + 10))
      else if next + (10 + (u16At memory (next + 8)).toNat) > endPtr then some none
      else (findAddress fuel endPtr count
        (next + (10 + (u16At memory (next + 8)).toNat)) memory).value := by
  rw [findAddress, bind_value_of_some skipped,
    bind_value_of_some (readWord_value (next + 8) memory),
    bind_value_of_some (looksLikeAddress_value memory next)]
  by_cases isAddress : AddressRecordAt memory next
  · rw [decide_eq_true isAddress, if_pos isAddress]
    rfl
  · rw [decide_eq_false isAddress, if_neg isAddress, if_neg Bool.false_ne_true]
    split_ifs
    · rfl
    · rfl

/-- Over well-formed questions the parser gets to the first answer. -/
theorem skipQuestions_of_spells {memory : Memory} (questions : List DnsQuestion)
    {ptr fuel : Nat} (endPtr : Nat)
    (spelled : Spells memory ptr (questionOctets questions))
    (inside : ptr + (questionOctets questions).length ≤ endPtr)
    (enough : (questionOctets questions).length ≤ fuel) :
    (skipQuestions fuel endPtr questions.length ptr memory).value =
      some (some (ptr + (questionOctets questions).length)) := by
  induction questions generalizing ptr with
  | nil => rfl
  | cons question rest ih =>
      have parts : questionOctets (question :: rest) =
          question.octets ++ questionOctets rest := List.flatMap_cons
      have counted := question.octets_length
      rw [parts, List.length_append] at inside enough ⊢
      rw [parts, spells_append] at spelled
      have skipped := skipOverName_of_spells question.name
        (spells_append.mp spelled.1).1 (by omega : question.name.octets.length ≤ fuel)
      have next : ptr + question.name.octets.length + 4 = ptr + question.octets.length := by
        omega
      rw [List.length_cons, skipQuestions_value skipped, next, if_neg (by omega),
        ih spelled.2 (by omega) (by omega)]
      congr 2
      omega

theorem DnsRecord.At.isAddress_iff {record : DnsRecord} {memory : Memory} {ptr : Nat}
    (isAt : record.At memory ptr) :
    AddressRecordAt memory ptr ↔ record.isAddress = true := by
  have sixteen : UInt16.ofNat record.rdata.length = 16 ↔ record.rdata.length = 16 := by
    rw [← UInt16.toNat_inj, record.rdlength_toNat]
    rfl
  unfold AddressRecordAt DnsRecord.isAddress
  rw [isAt.klass, isAt.type, isAt.rdlength, sixteen, decide_eq_true_iff]
  constructor
  · rintro ⟨klass, type, length⟩
    exact ⟨type, klass, length⟩
  · rintro ⟨type, klass, length⟩
    exact ⟨klass, type, length⟩

/-- What the parser should make of the answers that start at `ptr`. -/
structure Selects (answers : List DnsRecord) (ptr : Nat) (result : Option Nat) : Prop where
  first : ∀ before record after, answers = before ++ record :: after →
    (∀ earlier ∈ before, earlier.isAddress = false) → record.isAddress = true →
      result = some (ptr + (answerOctets before).length + record.name.octets.length + 10)
  none : (∀ record ∈ answers, record.isAddress = false) → result = none

theorem selects_nil (ptr : Nat) : Selects [] ptr none where
  first := fun before record after parts => by
    have counted := congrArg List.length parts
    rw [List.length_append, List.length_cons, List.length_nil] at counted
    omega
  none := fun _ => rfl

theorem selects_found {record : DnsRecord} (rest : List DnsRecord) (ptr : Nat)
    (isAddress : record.isAddress = true) :
    Selects (record :: rest) ptr (some (ptr + record.name.octets.length + 10)) where
  first := fun before found after parts noneBefore _ => by
    cases before with
    | nil =>
        rw [(List.cons.inj parts).1]
        rfl
    | cons head before =>
        have noAddress := noneBefore head List.mem_cons_self
        rw [← (List.cons.inj parts).1, isAddress] at noAddress
        cases noAddress
  none := fun noAddress => by
    have refused := noAddress record List.mem_cons_self
    rw [isAddress] at refused
    cases refused

theorem Selects.skip {record : DnsRecord} {rest : List DnsRecord} {ptr : Nat}
    {result : Option Nat} (selects : Selects rest (ptr + record.octets.length) result)
    (other : record.isAddress = false) : Selects (record :: rest) ptr result where
  first := fun before found after parts noneBefore isAddress => by
    cases before with
    | nil =>
        have same : record = found := (List.cons.inj parts).1
        rw [← same, other] at isAddress
        cases isAddress
    | cons head before =>
        obtain ⟨rfl, restParts⟩ := List.cons.inj parts
        have selected := selects.first before found after restParts
          (fun earlier member => noneBefore earlier (List.mem_cons_of_mem _ member)) isAddress
        have split : answerOctets (record :: before) =
            record.octets ++ answerOctets before := List.flatMap_cons
        rw [selected, split, List.length_append, ← Nat.add_assoc]
  none := fun noAddress =>
    selects.none fun later member => noAddress later (List.mem_cons_of_mem _ member)

/-- Where an address is returned, the data of an address record lies. -/
def PointsAtAddress (memory : Memory) (answers : List DnsRecord) (result : Option Nat) :
    Prop :=
  ∀ address, result = some address →
    ∃ record ∈ answers, record.isAddress = true ∧ Spells memory address record.rdata

/-- Over well-formed answers the parser selects the first address. -/
theorem findAddress_of_spells {memory : Memory} (answers : List DnsRecord) {ptr : Nat}
    (spelled : Spells memory ptr (answerOctets answers)) :
    ∃ result,
      (∀ endPtr fuel, ptr + (answerOctets answers).length ≤ endPtr →
        (answerOctets answers).length ≤ fuel →
          (findAddress fuel endPtr answers.length ptr memory).value = some result) ∧
      Selects answers ptr result ∧ PointsAtAddress memory answers result := by
  induction answers generalizing ptr with
  | nil =>
      exact ⟨none, fun _ _ _ _ => rfl, selects_nil ptr,
        fun address absurdity => by cases absurdity⟩
  | cons record rest ih =>
      have parts : answerOctets (record :: rest) = record.octets ++ answerOctets rest :=
        List.flatMap_cons
      have counted := record.octets_length
      rw [parts, spells_append] at spelled
      have ownName := (spells_append.mp spelled.1).1
      have isAt := DnsRecord.at_of_spells spelled.1
      rw [parts, List.length_append, List.length_cons]
      cases isAddress : record.isAddress with
      | true =>
          refine ⟨some (ptr + record.name.octets.length + 10),
            fun endPtr fuel inside enough => ?_, selects_found rest ptr isAddress,
            fun address found => ?_⟩
          · rw [findAddress_value (skipOverName_of_spells record.name ownName (by omega)),
              if_pos (isAt.isAddress_iff.mpr isAddress)]
          · rw [← Option.some.inj found]
            exact ⟨record, List.mem_cons_self, isAddress, isAt.rdata⟩
      | false =>
          have other : ¬ AddressRecordAt memory (ptr + record.name.octets.length) := by
            rw [isAt.isAddress_iff, isAddress]
            exact Bool.false_ne_true
          have next : ptr + record.name.octets.length + (10 + record.rdata.length) =
              ptr + record.octets.length := by omega
          obtain ⟨result, found, selects, points⟩ := ih spelled.2
          refine ⟨result, fun endPtr fuel inside enough => ?_, selects.skip isAddress,
            fun address returned => ?_⟩
          · rw [findAddress_value (skipOverName_of_spells record.name ownName (by omega)),
              isAt.rdlength, record.rdlength_toNat, if_neg other, next, if_neg (by omega)]
            exact found endPtr fuel (by omega) (by omega)
          · obtain ⟨later, member, isLater, data⟩ := points address returned
            exact ⟨later, List.mem_cons_of_mem _ member, isLater, data⟩

/-! ### The whole response -/

/-- The header of a response lies at the start of the payload, and the sections
follow it. -/
structure DnsResponse.At (response : DnsResponse) (memory : Memory) : Prop where
  id : u16At memory 0 = response.id
  noError : memory 3 &&& DNS_RCODE_MASK = 0
  questionCount : u16At memory 4 = UInt16.ofNat response.questions.length
  answerCount : u16At memory 6 = UInt16.ofNat response.answers.length
  questions : Spells memory 12 (questionOctets response.questions)
  answers : Spells memory (12 + (questionOctets response.questions).length)
    (answerOctets response.answers)

theorem DnsResponse.at_of_spells {response : DnsResponse} {memory : Memory}
    (spelled : Spells memory 0 response.octets) : response.At memory := by
  obtain ⟨id, rest⟩ := spells_append.mp spelled
  obtain ⟨flags, rest⟩ := spells_append.mp rest
  obtain ⟨questionCount, rest⟩ := spells_append.mp rest
  obtain ⟨answerCount, rest⟩ := spells_append.mp rest
  obtain ⟨_, rest⟩ := spells_append.mp rest
  obtain ⟨_, rest⟩ := spells_append.mp rest
  obtain ⟨questions, rest⟩ := spells_append.mp rest
  have flags2 : memory 3 = response.flags2 :=
    spells_singleton.mp (spells_cons.mp flags).2
  constructor
  · exact spells_bytes16.mp id
  · rw [flags2]
    exact response.noError
  · exact spells_bytes16.mp questionCount
  · exact spells_bytes16.mp answerCount
  · exact questions
  · exact (spells_append.mp rest).1

theorem ofNat_toUInt8_toNat {count : Nat} (few : count ≤ 255) :
    (UInt16.ofNat count).toUInt8.toNat = count := by
  rw [UInt16.toNat_toUInt8, UInt16.toNat_ofNat']
  change count % 65536 % 256 = count
  omega

theorem dnsProcessReply_value {memory : Memory} {requestId : UInt16}
    (matching : u16At memory 0 = requestId) (noError : memory 3 &&& DNS_RCODE_MASK = 0)
    (fuel : Nat) (length : UInt16) :
    (dnsProcessReply fuel length requestId memory).value =
      ((skipQuestions fuel length.toNat (u16At memory 4).toUInt8.toNat 12 >>= fun answers =>
        match answers with
        | none => pure none
        | some ptr =>
            findAddress fuel length.toNat (u16At memory 6).toUInt8.toNat ptr :
              Inspector (Option Nat)) memory).value := by
  unfold dnsProcessReply
  rw [bind_value_of_some (readWord_value 4 memory),
    bind_value_of_some (readWord_value 6 memory),
    bind_value_of_some (readWord_value 0 memory), if_neg (not_not.mpr matching),
    bind_value_of_some (read_value 3 memory), if_neg (not_not.mpr noError)]

/-- Of a well-formed response to the request the parser returns the address of the
data of the first IN record of type AAAA with 16 bytes, or NULL. -/
theorem dnsProcessReply_selects (response : DnsResponse) (memory : Memory)
    (length : UInt16) (whole : length.toNat = response.octets.length)
    (spelled : Spells memory 0 response.octets) :
    ∃ result, (∀ fuel, response.octets.length ≤ fuel →
        (dnsProcessReply fuel length response.id memory).value = some result) ∧
      Selects response.answers (12 + (questionOctets response.questions).length) result ∧
        PointsAtAddress memory response.answers result := by
  have isAt := DnsResponse.at_of_spells spelled
  have total : response.octets.length = 12 + (questionOctets response.questions).length +
      (answerOctets response.answers).length + response.rest.length := by
    unfold DnsResponse.octets
    simp only [List.length_append, bytes16_length, List.length_cons, List.length_nil]
    omega
  obtain ⟨result, found, selects, points⟩ :=
    findAddress_of_spells response.answers isAt.answers
  refine ⟨result, fun fuel enough => ?_, selects, points⟩
  have skipped := skipQuestions_of_spells response.questions length.toNat
    isAt.questions (by omega) (by omega : _ ≤ fuel)
  rw [dnsProcessReply_value isAt.id isAt.noError, isAt.questionCount, isAt.answerCount,
    ofNat_toUInt8_toNat response.fewQuestions, ofNat_toUInt8_toNat response.fewAnswers,
    bind_value_of_some skipped]
  exact found length.toNat fuel (by omega) (by omega)

/-! ### An alias and its address -/

def exampleLabel : DnsLabel :=
  ⟨[0x77, 0x77, 0x77], by decide, by decide⟩

def exampleQuestion : DnsQuestion :=
  ⟨.last exampleLabel, DNS_TYPE_AAAA, DNS_CLASS_IN⟩

/-- A record of type CNAME whose owner is a pointer to the question's name. -/
def exampleAlias : DnsRecord :=
  ⟨.pointer 0xC0 12 (by decide), 5, DNS_CLASS_IN, 60, [1, 0x61, 0xC0, 12], by decide⟩

def exampleAddress : DnsRecord :=
  ⟨.cons exampleLabel (.pointer 0xC0 12 (by decide)), DNS_TYPE_AAAA, DNS_CLASS_IN, 60,
    [0x20, 1, 0xD, 0xB8, 0, 0, 0, 0, 0, 0, 0, 0, 0, 0, 0, 6], by decide⟩

def exampleResponse : DnsResponse :=
  ⟨0x1234, 0x81, 0x80, by decide, [exampleQuestion], [exampleAlias, exampleAddress],
    by decide, by decide, 0, 0, []⟩

def exampleReply : Memory :=
  store (fun _ => 0) 0 exampleResponse.octets

theorem exampleReply_spells : Spells exampleReply 0 exampleResponse.octets :=
  spells_store _ 0 exampleResponse.octets

theorem dnsProcessReply_selects_after_alias :
    (dnsProcessReply 69 69 0x1234 exampleReply).value = some (some 53) := by
  obtain ⟨result, found, selects, _⟩ :=
    dnsProcessReply_selects exampleResponse exampleReply 69 (by decide) exampleReply_spells
  have second : result = some 53 :=
    selects.first [exampleAlias] exampleAddress [] rfl (by decide) (by decide)
  rw [← second]
  exact found 69 (by decide)

end EtherSiaStack
