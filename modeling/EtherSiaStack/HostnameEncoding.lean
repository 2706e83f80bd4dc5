/-
Writing a host name into a DNS query.

The encoder copies a label first and then writes its length in front of it, so its two
pointers run through the packet in turn.  What they leave is shown to be the encoded name
as a list, and over that list the parser of names and a reader of labels get back what was
encoded.
-/

import EtherSiaStack.HostnameLookup

namespace EtherSiaStack

open ByteMemory Inspector

/-! ### dns.cpp -/

/-- The loops of `encodeName`: `nptr` is where the length of the label goes, `query` where
its next character goes, and `n` how many it has. -/
def encodeLoop (packet : Memory) (nptr query : Nat) (n : UInt8) : List UInt8 → Memory × Nat
  | [] => (store packet nptr [n], query)
  | c :: rest =>
      if c = 0x2E then encodeLoop (store packet nptr [n]) query (query + 1) 0 rest
      else encodeLoop (store packet query [c]) nptr (query + 1) (n + 1) rest

/-- `encodeName`, with the pointer it returns. -/
def encodeNameAt (packet : Memory) (query : Nat) (name : List UInt8) : Memory × Nat :=
  let (packet, query) := encodeLoop packet query (query + 1) 0 name
  (store packet query [0], query + 1)

/-- `dnsMakeRequest` with its pointers. -/
def makeRequestAt (packet : Memory) (buffer : Nat) (host : List UInt8) (requestId : UInt16) :
    UInt16 × Memory :=
  let packet := store packet buffer (bytes16 requestId)
  let packet := store packet (buffer + 2) [DNS_FLAG_QUERY ||| DNS_FLAG_RD]
  let packet := store packet (buffer + 3) [0x00]
  let packet := store packet (buffer + 4) (bytes16 1)
  let packet := store packet (buffer + 6) (bytes16 0)
  let packet := store packet (buffer + 8) (bytes16 0)
  let packet := store packet (buffer + 10) (bytes16 0)
  let (packet, ptr) := encodeNameAt packet (buffer + 12) host
  let packet := store packet ptr (bytes16 DNS_TYPE_AAAA)
  let packet := store packet (ptr + 2) (bytes16 DNS_CLASS_IN)
  (UInt16.ofNat (ptr + 4 - buffer), packet)

/-! ### The pointers write the list -/

/-- The invariant of the loops: the label lies behind the byte for its length. -/
theorem encodeLoop_eq (memory : Memory) (nptr : Nat) (label name : List UInt8) :
    let written := encodeLoop (store memory (nptr + 1) label) nptr
      (nptr + 1 + label.length) (UInt8.ofNat label.length) name
    store written.1 written.2 [0] = store memory nptr (encodeLabels label name) ∧
      written.2 + 1 = nptr + (encodeLabels label name).length := by
  induction name generalizing memory nptr label with
  | nil =>
      unfold encodeLoop encodeLabels
      dsimp only
      have ends : nptr + 1 + label.length =
          nptr + (UInt8.ofNat label.length :: label).length := by
        rw [List.length_cons]
        omega
      rw [store_cons, ends]
      refine ⟨(store_append memory nptr _ [0]).symm, ?_⟩
      rw [List.length_append, Nat.add_assoc]
      rfl
  | cons c rest ih =>
      unfold encodeLoop encodeLabels
      by_cases isDot : c = 0x2E
      · have next := ih (store memory nptr (UInt8.ofNat label.length :: label))
          (nptr + 1 + label.length) []
        rw [if_pos isDot, if_pos isDot, store_cons]
        rw [store_nil] at next
        have ends : nptr + 1 + label.length =
            nptr + (UInt8.ofNat label.length :: label).length := by
          rw [List.length_cons]
          omega
        refine ⟨next.1.trans ?_, next.2.trans ?_⟩
        · rw [ends]
          exact (store_append memory nptr _ _).symm
        · rw [List.length_append, ends, Nat.add_assoc]
      · have next := ih memory nptr (label ++ [c])
        have longer : UInt8.ofNat (label ++ [c]).length = UInt8.ofNat label.length + 1 := by
          rw [List.length_append, UInt8.ofNat_add]
          rfl
        rw [if_neg isDot, if_neg isDot]
        rw [longer, List.length_append, store_append] at next
        exact next

theorem encodeNameAt_eq (packet : Memory) (query : Nat) (name : List UInt8) :
    encodeNameAt packet query name =
      (store packet query (encodeName name), query + (encodeName name).length) := by
  have written := encodeLoop_eq packet query [] name
  rw [store_nil] at written
  exact Prod.ext written.1 written.2

/-- The pointers write the query that the lookup sends. -/
theorem makeRequestAt_eq (packet : Memory) (buffer : Nat) (host : List UInt8)
    (requestId : UInt16) :
    makeRequestAt packet buffer host requestId =
      (UInt16.ofNat (dnsQuery host requestId).length,
        store packet buffer (dnsQuery host requestId)) := by
  have flags : [DNS_FLAG_QUERY ||| DNS_FLAG_RD, 0x00] =
      [DNS_FLAG_QUERY ||| DNS_FLAG_RD] ++ [0x00] := rfl
  have total : (dnsQuery host requestId).length = 12 + (encodeName host).length + 4 := by
    unfold dnsQuery
    simp only [List.length_append, bytes16_length, List.length_cons, List.length_nil]
  have ends : buffer + 12 + (encodeName host).length + 4 - buffer =
      (dnsQuery host requestId).length := by
    omega
  unfold makeRequestAt
  dsimp only
  rw [encodeNameAt_eq, ends]
  refine Prod.ext rfl ?_
  unfold dnsQuery
  rw [flags]
  simp only [store_append, List.length_append, bytes16_length, List.length_cons,
    List.length_nil, Nat.add_assoc, Nat.reduceAdd]

theorem encodeLabels_length (label name : List UInt8) :
    (encodeLabels label name).length = label.length + name.length + 2 := by
  induction name generalizing label with
  | nil =>
      rw [encodeLabels, List.length_append, List.length_cons]
      rfl
  | cons c rest ih =>
      rw [encodeLabels, List.length_cons]
      split
      · rw [List.length_append, ih, List.length_cons, List.length_nil]
        omega
      · rw [ih, List.length_append, List.length_singleton]
        omega

theorem encodeName_length (name : List UInt8) :
    (encodeName name).length = name.length + 2 := by
  unfold encodeName
  rw [encodeLabels_length, List.length_nil, Nat.zero_add]

theorem dnsQuery_length (host : List UInt8) (requestId : UInt16) :
    (dnsQuery host requestId).length = 12 + (host.length + 2) + 4 := by
  unfold dnsQuery
  simp only [List.length_append, bytes16_length, List.length_cons, List.length_nil,
    encodeName_length, Nat.zero_add, Nat.reduceAdd]

/-! ### Names of labels -/

/-- 1 to 63 bytes, none of them a dot or a NUL. -/
structure HostLabel extends DnsLabel where
  noDot : ∀ c ∈ octets, c ≠ 0x2E
  noNul : ∀ c ∈ octets, c ≠ 0

structure HostName where
  first : HostLabel
  rest : List HostLabel

namespace HostName

def labels (name : HostName) : List (List UInt8) :=
  (name.first :: name.rest).map fun label => label.octets

/-- The labels with dots between them. -/
def text (name : HostName) : List UInt8 :=
  List.intercalate [0x2E] name.labels

/-- The name as the parser of responses knows it. -/
def dnsName : HostLabel → List HostLabel → DnsName
  | first, [] => .last first.toDnsLabel
  | first, next :: rest => .cons first.toDnsLabel (dnsName next rest)

theorem text_cons (first next : HostLabel) (rest : List HostLabel) :
    text ⟨first, next :: rest⟩ = first.octets ++ 0x2E :: text ⟨next, rest⟩ :=
  rfl

theorem text_singleton (first : HostLabel) : text ⟨first, []⟩ = first.octets :=
  List.append_nil _

end HostName

/-- Bytes other than dots are added to the label. -/
theorem encodeLabels_append {word : List UInt8} (noDot : ∀ c ∈ word, c ≠ 0x2E)
    (label rest : List UInt8) :
    encodeLabels label (word ++ rest) = encodeLabels (label ++ word) rest := by
  induction word generalizing label with
  | nil => rw [List.nil_append, List.append_nil]
  | cons c word ih =>
      rw [List.cons_append, encodeLabels, if_neg (noDot c List.mem_cons_self),
        ih (fun other member => noDot other (List.mem_cons_of_mem c member)),
        List.append_assoc]
      rfl

/-- A name of labels is encoded label by label. -/
theorem encodeName_text (first : HostLabel) (rest : List HostLabel) :
    encodeName (HostName.text ⟨first, rest⟩) = (HostName.dnsName first rest).octets := by
  unfold encodeName
  induction rest generalizing first with
  | nil =>
      have copied := encodeLabels_append first.noDot [] []
      rw [List.append_nil, List.nil_append] at copied
      rw [HostName.text_singleton, copied]
      rfl
  | cons next rest ih =>
      rw [HostName.text_cons, encodeLabels_append first.noDot, List.nil_append, encodeLabels,
        if_pos rfl, ih next]
      rfl

/-! ### Reading a name back -/

/-- The labels of a name that is not compressed, in at most `fuel` steps. -/
def decodeName (packet : Memory) : Nat → Nat → Option (List (List UInt8))
  | 0, _ => none
  | fuel + 1, ptr =>
      if packet ptr = 0 then some []
      else if packet ptr > 63 then none
      else
        (decodeName packet fuel (ptr + 1 + (packet ptr).toNat)).map
          (bytesAt packet (ptr + 1) (packet ptr).toNat :: ·)

/-- A label that is spelled is read, and reading goes on behind it. -/
theorem decodeName_label {packet : Memory} {ptr : Nat} (label : DnsLabel)
    (spelled : Spells packet ptr label.encoded) (fuel : Nat) :
    decodeName packet (fuel + 1) ptr =
      (decodeName packet fuel (ptr + label.encoded.length)).map (label.octets :: ·) := by
  obtain ⟨first, behind⟩ := spells_cons.mp spelled
  have short : ¬ UInt8.ofNat label.octets.length > 63 := by
    have few := label.short
    rw [gt_iff_lt, UInt8.lt_iff_toNat_lt, label.length_toNat]
    change ¬ 63 < _
    omega
  have next : ptr + 1 + label.octets.length = ptr + label.encoded.length := by
    rw [label.encoded_length]
    omega
  have read : bytesAt packet (ptr + 1) label.octets.length = label.octets := behind
  rw [decodeName, first, if_neg label.length_ne_zero, if_neg short, label.length_toNat, next,
    read]

theorem decodeName_of_spells {packet : Memory} {ptr : Nat} (first : HostLabel)
    (rest : List HostLabel) {fuel : Nat}
    (spelled : Spells packet ptr (HostName.dnsName first rest).octets)
    (enough : rest.length + 1 < fuel) :
    decodeName packet fuel ptr = some (HostName.labels ⟨first, rest⟩) := by
  induction rest generalizing first ptr fuel with
  | nil =>
      obtain ⟨fuel, rfl⟩ : ∃ less, fuel = less + 2 := ⟨fuel - 2, by omega⟩
      obtain ⟨here, behind⟩ := spells_append.mp spelled
      rw [decodeName_label first.toDnsLabel here, decodeName,
        if_pos (spells_singleton.mp behind)]
      rfl
  | cons next rest ih =>
      rw [List.length_cons] at enough
      obtain ⟨fuel, rfl⟩ : ∃ less, fuel = less + 1 := ⟨fuel - 1, by omega⟩
      obtain ⟨here, behind⟩ := spells_append.mp spelled
      rw [decodeName_label first.toDnsLabel here, ih next behind (by omega)]
      rfl

/-! ### What a query holds -/

/-- The query for the name, in the `total` bytes from `buffer` on. -/
structure HoldsQuery (before after : Memory) (buffer total : Nat) (name : HostName) :
    Prop where
  labels : ∀ fuel, name.labels.length < fuel →
    decodeName after fuel (buffer + 12) = some name.labels
  skipped : ∀ fuel, name.text.length + 2 ≤ fuel →
    (skipOverName fuel (buffer + 12) after).value =
      some (buffer + 12 + (name.text.length + 2))
  type : u16At after (buffer + 12 + (name.text.length + 2)) = DNS_TYPE_AAAA
  klass : u16At after (buffer + 12 + (name.text.length + 2) + 2) = DNS_CLASS_IN
  beyond : ∀ index, index < buffer ∨ buffer + total ≤ index → after index = before index

/-- The twelve bytes in front of the name. -/
def dnsHeader (requestId : UInt16) : List UInt8 :=
  bytes16 requestId ++ [DNS_FLAG_QUERY ||| DNS_FLAG_RD, 0x00] ++ bytes16 1 ++ bytes16 0 ++
    bytes16 0 ++ bytes16 0

theorem spells_dnsQuery {after : Memory} {buffer : Nat} {host : List UInt8}
    {requestId : UInt16} (whole : Spells after buffer (dnsQuery host requestId)) :
    Spells after (buffer + 12) (encodeName host) ∧
      u16At after (buffer + 12 + (host.length + 2)) = DNS_TYPE_AAAA ∧
      u16At after (buffer + 12 + (host.length + 2) + 2) = DNS_CLASS_IN := by
  have parts : dnsQuery host requestId = dnsHeader requestId ++ encodeName host ++
      bytes16 DNS_TYPE_AAAA ++ bytes16 DNS_CLASS_IN := rfl
  have count := encodeName_length host
  rw [parts] at whole
  obtain ⟨beforeClass, klass⟩ := spells_append.mp whole
  obtain ⟨beforeType, type⟩ := spells_append.mp beforeClass
  obtain ⟨-, name⟩ := spells_append.mp beforeType
  have headed : (dnsHeader requestId).length = 12 := rfl
  rw [headed] at name
  rw [List.length_append, headed, count, spells_bytes16, ← Nat.add_assoc] at type
  rw [List.length_append, List.length_append, headed, count, bytes16_length,
    spells_bytes16, ← Nat.add_assoc, ← Nat.add_assoc] at klass
  exact ⟨name, type, klass⟩

theorem holdsQuery_store (packet : Memory) (buffer : Nat) (name : HostName)
    (requestId : UInt16) :
    HoldsQuery packet (store packet buffer (dnsQuery name.text requestId)) buffer
      (12 + (name.text.length + 2) + 4) name := by
  have total := dnsQuery_length name.text requestId
  have count := encodeName_length name.text
  obtain ⟨spelled, type, klass⟩ :=
    spells_dnsQuery (spells_store packet buffer (dnsQuery name.text requestId))
  have asName : encodeName name.text = (HostName.dnsName name.first name.rest).octets :=
    encodeName_text name.first name.rest
  rw [asName] at spelled count
  constructor
  · intro fuel enough
    rw [HostName.labels, List.length_map, List.length_cons] at enough
    exact decodeName_of_spells name.first name.rest spelled enough
  · intro fuel enough
    rw [← count] at enough ⊢
    exact skipOverName_of_spells _ spelled enough
  · exact type
  · exact klass
  · intro index outside
    exact store_outside packet _ (by omega)

/-- A request for a name of labels, however many and however long, reads back as those
labels and has the length that the name gives it, as a `uint16_t`. -/
theorem makeRequestAt_encodes (packet : Memory) (buffer : Nat) (name : HostName)
    (requestId : UInt16) :
    let (length, after) := makeRequestAt packet buffer name.text requestId
    HoldsQuery packet after buffer (12 + (name.text.length + 2) + 4) name ∧
      length = UInt16.ofNat (12 + (name.text.length + 2) + 4) ∧
      (name.text.length ≤ 65517 → length.toNat = 12 + (name.text.length + 2) + 4) := by
  rw [makeRequestAt_eq, dnsQuery_length]
  refine ⟨holdsQuery_store packet buffer name requestId, rfl, fun short => ?_⟩
  rw [UInt16.toNat_ofNat']
  exact Nat.mod_eq_of_lt (by change _ < 65536; omega)

/-- "a". -/
def letterLabel : HostLabel where
  octets := [0x61]
  nonempty := by decide
  short := by decide
  noDot := fun c member => by
    rw [List.mem_singleton.mp member]
    decide
  noNul := fun c member => by
    rw [List.mem_singleton.mp member]
    decide

theorem text_length_letters (count : Nat) :
    (HostName.text ⟨letterLabel, List.replicate count letterLabel⟩).length = 2 * count + 1 := by
  induction count with
  | zero => rfl
  | succ count ih =>
      rw [List.replicate_succ, HostName.text_cons, List.length_append, List.length_cons, ih]
      change 1 + (2 * count + 1 + 1) = 2 * (count + 1) + 1
      omega

/-- 32760 labels of one letter: the length does not fit what is returned. -/
theorem long_name_length_wraps :
    ¬ ∀ (packet : Memory) (buffer : Nat) (name : HostName) (requestId : UInt16),
      let (length, after) := makeRequestAt packet buffer name.text requestId
      length.toNat = 12 + (name.text.length + 2) + 4 ∧
        HoldsQuery packet after buffer length.toNat name := by
  intro always
  obtain ⟨name, long⟩ : ∃ name : HostName, name.text.length = 2 * 32759 + 1 :=
    ⟨_, text_length_letters 32759⟩
  have wraps : (makeRequestAt (fun _ => 0) UDPSocket.payload name.text 0).1.toNat =
      12 + (name.text.length + 2) + 4 := (always (fun _ => 0) UDPSocket.payload name 0).1
  have below := (makeRequestAt (fun _ => 0) UDPSocket.payload name.text 0).1.toNat_lt
  omega

/-! ### Names without an encoding -/

/-- A host name, a dot behind it or not, of at most 255 bytes when encoded, whose query
fits the packet buffer. -/
def Encodable (host : List UInt8) : Prop :=
  ∃ name : HostName, (host = name.text ∨ host = name.text ++ [0x2E]) ∧
    name.text.length + 2 ≤ 255 ∧
      UDPSocket.payload + (12 + (name.text.length + 2) + 4) ≤ ETHERSIA_MAX_PACKET_SIZE

/-- Whatever the memory, 0 is returned and nothing behind the buffer is written. -/
def Refuses (host : List UInt8) (requestId : UInt16) : Prop :=
  ∀ packet : Memory,
    (makeRequestAt packet UDPSocket.payload host requestId).1 = 0 ∧
      ∀ index, ETHERSIA_MAX_PACKET_SIZE ≤ index →
        (makeRequestAt packet UDPSocket.payload host requestId).2 index = packet index

theorem not_refuses (host : List UInt8) (requestId : UInt16) : ¬ Refuses host requestId := by
  intro refuses
  have total := dnsQuery_length host requestId
  have returned : ∀ packet, (makeRequestAt packet UDPSocket.payload host requestId).1 = 0 :=
    fun packet => (refuses packet).1
  have wraps : (12 + (host.length + 2) + 4) % 65536 = 0 := by
    have zero := congrArg UInt16.toNat (returned fun _ => 0)
    rw [makeRequestAt_eq, total, UInt16.toNat_ofNat'] at zero
    exact zero
  -- A length that wraps to 0 is longer than the buffer.
  have inside : 538 < (dnsQuery host requestId).length := by omega
  have left := (refuses fun _ => (dnsQuery host requestId)[538] + 1).2 600 le_rfl
  rw [makeRequestAt_eq] at left
  have stored := store_inside (fun _ => (dnsQuery host requestId)[538] + 1) UDPSocket.payload
    (dnsQuery host requestId) 538 inside
  have same := stored.symm.trans left
  exact absurd (left_eq_add.mp same) (by decide)

/-- The encoder refuses no name, and a dot behind a name makes the query longer. -/
theorem nothing_is_refused (host : List UInt8) (requestId : UInt16) (packet : Memory)
    (buffer : Nat) :
    (¬ Encodable host → ¬ Refuses host requestId) ∧
      makeRequestAt packet buffer (host ++ [0x2E]) requestId ≠
        makeRequestAt packet buffer host requestId := by
  constructor
  · intro _
    exact not_refuses host requestId
  · intro same
    have lengths := congrArg Prod.fst same
    rw [makeRequestAt_eq, makeRequestAt_eq, dnsQuery_length, dnsQuery_length,
      List.length_append] at lengths
    have values := congrArg UInt16.toNat lengths
    simp only [UInt16.toNat_ofNat', List.length_singleton] at values
    omega

theorem not_encodable_nil : ¬ Encodable [] := by
  rintro ⟨name, isName, -⟩
  have nonempty := name.first.nonempty
  have some : name.text ≠ [] := by
    intro empty
    obtain ⟨first, rest⟩ := name
    cases rest with
    | nil =>
        rw [HostName.text_singleton] at empty
        rw [empty] at nonempty
        exact Nat.lt_irrefl 0 nonempty
    | cons next rest =>
        rw [HostName.text_cons] at empty
        exact absurd (List.append_eq_nil_iff.mp empty).2 (List.cons_ne_nil _ _)
  rcases isName with whole | dotted
  · exact some whole.symm
  · exact absurd dotted (by simp)

theorem empty_name_is_not_refused : ¬ Refuses [] 0 :=
  (nothing_is_refused [] 0 (fun _ => 0) UDPSocket.payload).1 not_encodable_nil

/-- A query goes out for the empty name. -/
theorem empty_name_is_sent :
    ¬ ((∀ (host : List UInt8) (requestId : UInt16), ¬ Encodable host →
          Refuses host requestId) ∧
        ∀ (packet : Memory) (buffer : Nat) (name : HostName) (requestId : UInt16),
          makeRequestAt packet buffer (name.text ++ [0x2E]) requestId =
            makeRequestAt packet buffer name.text requestId) := by
  rintro ⟨refuses, -⟩
  exact not_refuses [] 0 (refuses [] 0 not_encodable_nil)

end EtherSiaStack
