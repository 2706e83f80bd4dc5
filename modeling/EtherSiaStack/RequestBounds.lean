/-
Where `checkRequest` reads and writes.

Its reads stay in the buffer for every packet that does.  The NUL it puts behind the body
is one byte behind the packet, and one behind the buffer when the packet fills it.
-/

import EtherSiaStack.RequestAccesses

namespace EtherSiaStack

open ByteMemory

namespace HTTPServer

open Accessor

/-! ### Bounds -/

section Bounds

variable {memory : Memory} {bound : Nat}

theorem header_staysBelow (inside : 67 ≤ bound) : StaysBelow bound header memory := by
  refine staysBelow_bind.mpr ⟨staysBelow_read.mpr (by omega), ?_⟩
  refine staysBelow_bind.mpr ⟨staysBelow_read.mpr (by omega), ?_⟩
  exact staysBelow_bind.mpr ⟨staysBelow_read.mpr (by omega), staysBelow_pure _⟩

theorem comparePath_staysBelow {pathPtr : Nat} (path : FlashString) {remaining index : Nat}
    (allowAny : Bool) (inside : pathPtr + index + remaining ≤ bound) :
    StaysBelow bound (comparePath pathPtr path remaining index allowAny) memory := by
  induction remaining generalizing index allowAny with
  | zero => exact staysBelow_pure _
  | succ remaining ih =>
      have next (allowAny : Bool) :
          StaysBelow bound (comparePath pathPtr path remaining (index + 1) allowAny) memory :=
        ih allowAny (by omega)
      unfold comparePath
      refine staysBelow_bind.mpr ⟨staysBelow_read.mpr (by omega), ?_⟩
      rw [read_value, read_memory]
      dsimp only
      split_ifs
      · exact staysBelow_pure _
      · exact staysBelow_pure _
      · exact next _
      · exact staysBelow_pure _
      · exact next _

theorem testBlank_staysBelow {place : Nat} (inside : place < bound) :
    StaysBelow bound (testBlank place) memory := by
  unfold testBlank
  refine staysBelow_bind.mpr ⟨staysBelow_read.mpr inside, ?_⟩
  rw [read_value, read_memory]
  split_ifs
  · refine staysBelow_bind.mpr ⟨staysBelow_read.mpr (by omega), ?_⟩
    rw [read_value, read_memory]
    split_ifs
    · exact staysBelow_pure _
    · exact staysBelow_bind.mpr ⟨staysBelow_read.mpr (by omega), staysBelow_pure _⟩
  · exact staysBelow_pure _

theorem searchBody_staysBelow {payload remaining pos : Nat}
    (inside : payload + pos + remaining ≤ bound) :
    StaysBelow bound (searchBody payload remaining pos) memory := by
  induction remaining generalizing pos with
  | zero => exact staysBelow_pure _
  | succ remaining ih =>
      unfold searchBody
      refine staysBelow_bind.mpr ⟨testBlank_staysBelow (by omega), ?_⟩
      rw [(testBlank_run memory _).2]
      split_ifs
      · exact staysBelow_pure _
      · exact ih (by omega)

/-- The NUL behind the payload is written where a body has been found. -/
theorem endBody_staysBelow_iff {payload : Nat} {first length : UInt16} (server : HTTPServer)
    (found : payload + first.toNat ≤ bound) (inside : payload + length.toNat ≤ bound) :
    StaysBelow bound (endBody payload first length server) memory ↔
      (findBody memory payload first length ≠ none → payload + length.toNat < bound) := by
  obtain ⟨isFound, unchanged⟩ :=
    searchBody_run memory payload (length.toNat - 1 - first.toNat) first.toNat
  have isBody : _ = findBody memory payload first length := isFound
  have searched : StaysBelow bound
      (searchBody payload (length.toNat - 1 - first.toNat) first.toNat) memory :=
    searchBody_staysBelow (by omega)
  unfold endBody
  rw [staysBelow_bind, and_iff_right searched, unchanged, isBody]
  cases findBody memory payload first length with
  | none =>
      exact iff_of_true (staysBelow_pure _) fun differs => absurd rfl differs
  | some bodyPtr =>
      rw [if_pos Option.isSome_some, staysBelow_bind, staysBelow_write,
        and_iff_left (staysBelow_pure _), imp_iff_right (Option.some_ne_none _)]

/-- A string in the buffer that ends there is compared inside it. -/
theorem compareString_staysBelow {ptr stop : Nat} {str : List UInt8} (ends : memory stop = 0)
    (upper : stop < bound) (lower : ptr ≤ stop) (strNoNul : ∀ byte ∈ str, byte ≠ 0) :
    StaysBelow bound (compareString ptr str) memory := by
  induction str generalizing ptr with
  | nil => exact staysBelow_bind.mpr ⟨staysBelow_read.mpr (by omega), staysBelow_pure _⟩
  | cons character rest ih =>
      unfold compareString
      refine staysBelow_bind.mpr ⟨staysBelow_read.mpr (by omega), ?_⟩
      rw [read_value, read_memory]
      split_ifs with same
      · have notEnd : ptr ≠ stop := by
          rintro rfl
          exact strNoNul character List.mem_cons_self (same.symm.trans ends)
        exact ih (by omega) fun byte member => strNoNul byte (List.mem_cons_of_mem _ member)
      · exact staysBelow_pure _

end Bounds

/-! ### When the check gets to a body -/

/-- No place that is compared refuses the path. -/
def PathTaken (packet : Memory) (method path : FlashString) : Prop :=
  ∀ stop < comparedBytes packet method,
    (∀ index < stop, Agrees packet (targetStart packet method) path index) →
      Agrees packet (targetStart packet method) path stop ∨
        BothEnd packet (targetStart packet method) path stop

/-- Behind the method there is an empty line, and something in the payload behind it. -/
def HasEmptyLine (packet : Memory) (method : FlashString) : Prop :=
  ∃ pos, method.length + 1 ≤ pos ∧ pos + 1 < (TCPServer.payloadLength packet).toNat ∧
    packet (TCPServer.payload packet + pos) = 0x0A ∧
      (packet (TCPServer.payload packet + pos - 2) = 0x0A ∨
        packet (TCPServer.payload packet + pos - 1) = 0x0A)

/-- The request has the method and the path, and a body. -/
structure HasBody (packet : Memory) (method path : FlashString) : Prop where
  hasMethod : HasMethod packet method
  pathTaken : PathTaken packet method path
  emptyLine : HasEmptyLine packet method

theorem pathTaken_iff {packet : Memory} {method path : FlashString} :
    PathTaken packet method path ↔ pathMatch packet method path ≠ .refused := by
  constructor
  · intro taken refused
    have compared := pathMatch_compared packet method path
    rw [refused] at compared
    obtain ⟨stop, -, upper, before, parts, notEnd⟩ := compared
    exact (taken stop upper fun index isBefore =>
      before index (Nat.zero_le _) isBefore).elim parts notEnd
  · intro taken stop upper before
    by_cases agrees : Agrees packet (targetStart packet method) path stop
    · exact Or.inl agrees
    · exact Or.inr (bothEnd_of_not_refused taken upper before agrees)

theorem hasEmptyLine_iff {packet : Memory} {method : FlashString}
    (short : method.length < 65535) :
    HasEmptyLine packet method ↔
      findBody packet (TCPServer.payload packet) (UInt16.ofNat method.length + 1)
        (TCPServer.payloadLength packet) ≠ none := by
  have isFirst : (UInt16.ofNat method.length + 1).toNat = method.length + 1 :=
    toNat_ofNat_succ short
  unfold findBody HasEmptyLine
  rw [ne_eq, Option.map_eq_none_iff, List.find?_eq_none, isFirst]
  push Not
  constructor
  · rintro ⟨pos, lower, upper, blank⟩
    exact ⟨pos, List.mem_range'_1.mpr ⟨lower, by omega⟩, decide_eq_true blank⟩
  · rintro ⟨pos, member, blank⟩
    obtain ⟨lower, upper⟩ := List.mem_range'_1.mp member
    exact ⟨pos, lower, by omega, of_decide_eq_true blank⟩

theorem findBody_store {packet : Memory} {place : Nat} (notFeed : packet place ≠ 0x0A)
    (payload : Nat) (first length : UInt16) :
    findBody (store packet place [0]) payload first length =
      findBody packet payload first length := by
  have sameFeeds (address : Nat) : store packet place [0] address = 0x0A ↔
      packet address = 0x0A := by
    by_cases here : address = place
    · rw [here, u8_store_self]
      exact iff_of_false (by decide) notFeed
    · rw [store_outside _ _ (by rw [List.length_singleton]; omega)]
  unfold findBody
  simp only [sameFeeds]

/-! ### The bounds of a check -/

section Check

variable {memory : Memory} {method path : FlashString}

theorem endPath_staysBelow_iff {bound payload : Nat} {first length : UInt16} {left : PathMatch}
    (server : HTTPServer) (isLeft : left = pathMatch memory method path)
    (ends : ∀ index, left = .bothEnded index → targetStart memory method + index < bound)
    (found : payload + first.toNat ≤ bound) (inside : payload + length.toNat ≤ bound) :
    StaysBelow bound (endPath (targetStart memory method) payload first length server left)
        memory ↔
      (left ≠ .refused → findBody memory payload first length ≠ none →
        payload + length.toNat < bound) := by
  unfold endPath
  cases left with
  | refused => exact iff_of_true (staysBelow_pure _) fun taken => absurd rfl taken
  | bothEnded index =>
      have compared := pathMatch_compared memory method path
      rw [← isLeft] at compared
      have notFeed := compared.2.2.2.not_feed
      rw [staysBelow_bind, staysBelow_write, and_iff_right (ends index rfl), write_memory,
        endBody_staysBelow_iff _ found inside, findBody_store notFeed]
      have taken : PathMatch.bothEnded index ≠ .refused := fun same => by cases same
      exact (imp_iff_right taken).symm
  | usedUp =>
      rw [endBody_staysBelow_iff _ found inside]
      exact (imp_iff_right (by decide)).symm

/-- Of the accesses behind `havePacket()` only the NUL behind the payload may lie outside
a buffer that ends there. -/
theorem matchRequest_staysBelow_iff {bound : Nat} (server : HTTPServer)
    (short : method.length ≤ 6) (room : TCPServer.payload memory + 262 ≤ bound)
    (inside : TCPServer.payload memory + (TCPServer.payloadLength memory).toNat ≤ bound) :
    StaysBelow bound (matchRequest method path server (TCPServer.payload memory)
        (TCPServer.payloadLength memory)) memory ↔
      (HasBody memory method path →
        TCPServer.payload memory + (TCPServer.payloadLength memory).toNat < bound) := by
  have length : (UInt16.ofNat method.length).toNat = method.length :=
    UInt16.toNat_ofNat_of_lt' method.short
  have isFirst : (UInt16.ofNat method.length + 1).toNat = method.length + 1 :=
    toNat_ofNat_succ (by omega)
  have spelled : bytesAt method.read 0 method.length = method.bytes := rfl
  have byte : comparedBytes memory method < 256 := UInt8.toNat_lt _
  have start : targetStart memory method = TCPServer.payload memory + method.length + 1 := rfl
  obtain ⟨isLeft, unchanged⟩ := comparePath_run memory (targetStart memory method) path
    (comparedBytes memory method) 0 false
  have readMethod : StaysBelow bound
      (readBytes (TCPServer.payload memory) method.length) memory :=
    staysBelow_readBytes (by omega)
  unfold matchRequest
  dsimp only
  rw [length, spelled, staysBelow_bind, and_iff_right readMethod, readBytes_value,
    readBytes_memory]
  by_cases isMethod : bytesAt memory (TCPServer.payload memory) method.length = method.bytes
  · rw [if_neg (not_not.mpr isMethod), staysBelow_bind, staysBelow_read,
      and_iff_right (by omega), read_value, read_memory]
    by_cases isSpace : memory (TCPServer.payload memory + method.length) = 0x20
    · have compared : StaysBelow bound
          (comparePath (targetStart memory method) path (comparedBytes memory method) 0 false)
            memory :=
        comparePath_staysBelow path false (by omega)
      have isPath : _ = pathMatch memory method path := isLeft
      have ends (index : Nat) (ended : pathMatch memory method path = .bothEnded index) :
          targetStart memory method + index < bound := by
        have atEnd := pathMatch_compared memory method path
        rw [ended] at atEnd
        have upper := atEnd.2.1
        omega
      have bounds := @endPath_staysBelow_iff memory method path bound
        (TCPServer.payload memory) (UInt16.ofNat method.length + 1)
        (TCPServer.payloadLength memory) _
        { server with pathPtr := some (targetStart memory method) } rfl ends (by omega) inside
      rw [if_neg (not_not.mpr isSpace)]
      refine (staysBelow_bind.trans (and_iff_right compared)).trans ?_
      rw [isPath, unchanged]
      refine bounds.trans ⟨fun stays hasBody => ?_, fun stays taken found => ?_⟩
      · exact stays (pathTaken_iff.mp hasBody.pathTaken)
          ((hasEmptyLine_iff (by omega)).mp hasBody.emptyLine)
      · exact stays ⟨hasMethod_iff.mpr ⟨isMethod, isSpace⟩, pathTaken_iff.mpr taken,
          (hasEmptyLine_iff (by omega)).mpr found⟩
    · rw [if_pos isSpace]
      exact iff_of_true (staysBelow_pure _) fun hasBody =>
        absurd (hasMethod_iff.mp hasBody.hasMethod).2 isSpace
  · rw [if_pos isMethod]
    exact iff_of_true (staysBelow_pure _) fun hasBody =>
      absurd (hasMethod_iff.mp hasBody.hasMethod).1 isMethod

end Check

/-! ### Behind the check -/

theorem locateBody_ends {payload bodyPtr : Nat} {first length : UInt16} {server : HTTPServer}
    {ether : EtherSia}
    (isBody : (locateBody payload first length server ether).1.bodyPtr = some bodyPtr) :
    findBody ether.buffer payload first length ≠ none ∧
      bodyPtr ≤ payload + length.toNat ∧
        (locateBody payload first length server ether).2.buffer
          (payload + length.toNat) = 0 := by
  have found : findBody ether.buffer payload first length = some bodyPtr := isBody
  refine ⟨?_, ?_, ?_⟩
  · rw [found]
    exact Option.some_ne_none bodyPtr
  · unfold findBody at found
    obtain ⟨pos, isBlank, rfl⟩ := Option.map_eq_some_iff.mp found
    have inside := List.mem_range'_1.mp (List.mem_of_find?_eq_some isBlank)
    omega
  · unfold locateBody
    dsimp only
    rw [found, if_pos Option.isSome_some]
    exact u8_store_self _ _ _

/-- What is compared behind a check is a string that ends where the payload did. -/
theorem answer_ends {method path : FlashString} {server : HTTPServer} {ether : EtherSia}
    {bodyPtr : Nat} (short : method.length < 65535)
    (matched : (answer method path server ether).1 = true)
    (isBody : (answer method path server ether).2.1.bodyPtr = some bodyPtr) :
    HasBody ether.buffer method path ∧
      bodyPtr ≤ TCPServer.payload ether.buffer +
        (TCPServer.payloadLength ether.buffer).toNat ∧
      (answer method path server ether).2.2.buffer (TCPServer.payload ether.buffer +
        (TCPServer.payloadLength ether.buffer).toNat) = 0 := by
  unfold answer at matched isBody ⊢
  dsimp only at matched isBody ⊢
  by_cases hasMethod : HasMethod ether.buffer method
  · rw [if_pos hasMethod] at matched isBody ⊢
    cases left : pathMatch ether.buffer method path with
    | refused =>
        rw [left] at matched
        cases matched
    | bothEnded index =>
        rw [left] at isBody
        have compared := pathMatch_compared ether.buffer method path
        rw [left] at compared
        have notFeed := compared.2.2.2.not_feed
        obtain ⟨found, upper, ends⟩ := locateBody_ends isBody
        refine ⟨⟨hasMethod, pathTaken_iff.mpr fun refused => ?_, ?_⟩, upper, ends⟩
        · rw [left] at refused
          cases refused
        · exact (hasEmptyLine_iff short).mpr (findBody_store notFeed _ _ _ ▸ found)
    | usedUp =>
        rw [left] at isBody
        obtain ⟨found, upper, ends⟩ := locateBody_ends isBody
        refine ⟨⟨hasMethod, pathTaken_iff.mpr fun refused => ?_, ?_⟩, upper, ends⟩
        · rw [left] at refused
          cases refused
        · exact (hasEmptyLine_iff short).mpr found
  · rw [if_neg hasMethod] at matched
    cases matched

theorem hasBody_opened_iff {method path : FlashString} {ether : EtherSia}
    (behindHeader : 74 ≤ TCPServer.payload ether.buffer) :
    HasBody (opened ether).buffer method path ↔ HasBody ether.buffer method path := by
  have reads {address : Nat} (behind : 68 ≤ address) :
      (opened ether).buffer address = ether.buffer address := store_after _ _ behind
  have sameStart := opened_payload ether
  have sameLength := opened_payloadLength ether
  have sameMethod : HasMethod (opened ether).buffer method ↔ HasMethod ether.buffer method := by
    have sameBytes : bytesAt (opened ether).buffer (TCPServer.payload ether.buffer)
        method.length = bytesAt ether.buffer (TCPServer.payload ether.buffer) method.length :=
      bytesAt_eq_iff.mpr fun index _ => reads (by omega)
    rw [hasMethod_iff, hasMethod_iff, sameStart, sameBytes, reads (by omega)]
  have samePath : PathTaken (opened ether).buffer method path ↔
      PathTaken ether.buffer method path := by
    have readsPath (index : Nat) : (opened ether).buffer
        (TCPServer.payload ether.buffer + method.length + 1 + index) =
          ether.buffer (TCPServer.payload ether.buffer + method.length + 1 + index) :=
      reads (by omega)
    unfold PathTaken comparedBytes targetStart Agrees BothEnd
    rw [sameStart, sameLength]
    simp only [readsPath]
  have sameLine : HasEmptyLine (opened ether).buffer method ↔
      HasEmptyLine ether.buffer method := by
    unfold HasEmptyLine
    rw [sameStart, sameLength]
    refine exists_congr fun pos => and_congr_right fun _ => and_congr_right fun _ => ?_
    rw [reads (by omega), reads (by omega), reads (by omega)]
  constructor
  · intro hasBody
    exact ⟨sameMethod.mp hasBody.hasMethod, samePath.mp hasBody.pathTaken,
      sameLine.mp hasBody.emptyLine⟩
  · intro hasBody
    exact ⟨sameMethod.mpr hasBody.hasMethod, samePath.mpr hasBody.pathTaken,
      sameLine.mpr hasBody.emptyLine⟩

/-! ### The check of a packet -/

/-- A legal data offset, in a packet that is in the buffer as a whole. -/
structure InBuffer (packet : Memory) : Prop where
  fullHeader : 20 ≤ (TCPHeader.receiveHeaderLen packet).toNat
  offsetFits : TCPServer.OffsetFits packet
  inside : IPv6Packet.packetEnd packet ≤ ETHERSIA_MAX_PACKET_SIZE

theorem receiveHeaderLen_le (packet : Memory) :
    (TCPHeader.receiveHeaderLen packet).toNat ≤ 60 := by
  have shifted : (TCPHeader.receiveHeaderLen packet).toNat =
      (TCPHeader.dataOffset packet &&& 0xF0).toNat / 4 := by
    change ((TCPHeader.dataOffset packet &&& 0xF0) >>> 2).toNat = _
    rw [UInt8.toNat_shiftRight]
    exact Nat.shiftRight_eq_div_pow _ 2
  have masked : (TCPHeader.dataOffset packet &&& 0xF0).toNat ≤ 240 := by
    rw [UInt8.toNat_and]
    exact Nat.and_le_right
  omega

theorem InBuffer.behindHeader {packet : Memory} (inBuffer : InBuffer packet) :
    74 ≤ TCPServer.payload packet :=
  Nat.add_le_add_left inBuffer.fullHeader 54

theorem InBuffer.payloadEnd {packet : Memory} (inBuffer : InBuffer packet) :
    TCPServer.payload packet + (TCPServer.payloadLength packet).toNat =
      IPv6Packet.packetEnd packet := by
  have start : TCPServer.payload packet =
      54 + (TCPHeader.receiveHeaderLen packet).toNat := rfl
  have isEnd : IPv6Packet.packetEnd packet =
      54 + (IPv6Packet.payloadLength packet).toNat := rfl
  have length : (TCPServer.payloadLength packet).toNat =
      (IPv6Packet.payloadLength packet).toNat - (TCPHeader.receiveHeaderLen packet).toNat :=
    UInt16.toNat_sub_of_le _ _ inBuffer.offsetFits
  have fits := UInt16.le_iff_toNat_le.mp inBuffer.offsetFits
  omega

section Served

variable {method path : FlashString} {randomNumber : UInt32} {server : HTTPServer}
  {ether : EtherSia}

theorem requestAccesses_staysBelow_iff (short : method.length ≤ 6)
    (inBuffer : InBuffer ether.buffer) :
    StaysBelow ETHERSIA_MAX_PACKET_SIZE
        (requestAccesses method path randomNumber server ether) ether.buffer ↔
      (TCPServer.HasData server.socket ether → HasBody ether.buffer method path →
        IPv6Packet.packetEnd ether.buffer < ETHERSIA_MAX_PACKET_SIZE) := by
  have taken : StaysBelow ETHERSIA_MAX_PACKET_SIZE
      (takePacket server.socket randomNumber ether) ether.buffer :=
    staysBelow_confined _ (by decide)
  obtain ⟨isTaken, isPacket⟩ := takePacket_run server.socket randomNumber ether
  unfold requestAccesses
  rw [staysBelow_bind, and_iff_right (header_staysBelow (by decide)), header_value,
    header_memory]
  dsimp only
  rw [staysBelow_bind, and_iff_right taken, isTaken, isPacket]
  dsimp only
  by_cases hasData : TCPServer.HasData server.socket ether
  · rw [TCPServer.havePacket_of_hasData hasData, imp_iff_right hasData]
    dsimp only
    have behindHeader := inBuffer.behindHeader
    have isEnd := inBuffer.payloadEnd
    have inside := inBuffer.inside
    have limit : ETHERSIA_MAX_PACKET_SIZE = 600 := rfl
    have start : TCPServer.payload ether.buffer ≤ 114 :=
      Nat.add_le_add_left (receiveHeaderLen_le ether.buffer) 54
    have bounds := @matchRequest_staysBelow_iff (opened ether).buffer method path
      ETHERSIA_MAX_PACKET_SIZE server.serving short
      (by rw [opened_payload]; omega) (by rw [opened_payload, opened_payloadLength]; omega)
    rw [opened_payload, opened_payloadLength, hasBody_opened_iff behindHeader, isEnd] at bounds
    rw [if_neg (by decide), staysBelow_bind]
    exact (and_iff_left (staysBelow_pure _)).trans bounds
  · have refused := hasData
    rw [← TCPServer.havePacket_eq_true_iff _ randomNumber, Bool.not_eq_true] at refused
    rw [if_pos refused]
    exact iff_of_true (staysBelow_pure _) fun data => absurd data hasData

/-- Behind a check that stays in the buffer, so does the comparison of the body. -/
theorem bodyAccesses_staysBelow {str : List UInt8} (short : method.length ≤ 6)
    (inBuffer : InBuffer ether.buffer) (strNoNul : ∀ byte ∈ str, byte ≠ 0)
    (room : TCPServer.HasData server.socket ether → HasBody ether.buffer method path →
      IPv6Packet.packetEnd ether.buffer < ETHERSIA_MAX_PACKET_SIZE)
    (matched : (checkRequest method path randomNumber server ether).1 = true) :
    StaysBelow ETHERSIA_MAX_PACKET_SIZE
      (bodyAccesses (checkRequest method path randomNumber server ether).2.1 str)
      (checkRequest method path randomNumber server ether).2.2.buffer := by
  by_cases hasData : TCPServer.HasData server.socket ether
  · rw [checkRequest_of_hasData hasData] at matched ⊢
    unfold bodyAccesses
    split
    · exact staysBelow_pure _
    · rename_i bodyPtr isBody
      obtain ⟨hasBody, upper, ends⟩ := answer_ends (by omega) matched isBody
      rw [opened_payload, opened_payloadLength, inBuffer.payloadEnd] at upper ends
      have isRoom := room hasData ((hasBody_opened_iff inBuffer.behindHeader).mp hasBody)
      exact compareString_staysBelow ends isRoom upper strNoNul
  · rw [checkRequest_of_not_hasData hasData] at matched
    cases matched

end Served

end HTTPServer

open HTTPServer Accessor

theorem Route.method_length_le (route : Route) : route.method.length ≤ 6 := by
  cases route with
  | isGet path => exact (by decide : methodGet.length ≤ 6)
  | isPost path => exact (by decide : methodPost.length ≤ 6)
  | isPut path => exact (by decide : methodPut.length ≤ 6)
  | isDelete path => exact (by decide : methodDelete.length ≤ 6)

/-- Of a packet that is in the buffer, a check and the comparison of the body read and
write bytes of the buffer only, unless the packet fills it and has a body. -/
theorem Route.accesses_inside_iff {ether : EtherSia} {str : List UInt8} (route : Route)
    (randomNumber : UInt32) (server : HTTPServer) (inBuffer : InBuffer ether.buffer)
    (strNoNul : ∀ byte ∈ str, byte ≠ 0) :
    StaysBelow ETHERSIA_MAX_PACKET_SIZE
        (servedAccesses route.method route.path randomNumber str server ether)
        ether.buffer ↔
      (IPv6Packet.packetEnd ether.buffer < ETHERSIA_MAX_PACKET_SIZE ∨
        ¬(TCPServer.HasData server.socket ether ∧
          HasBody ether.buffer route.method route.path)) := by
  have short := route.method_length_le
  have checked := @requestAccesses_staysBelow_iff route.method route.path randomNumber server
    ether short inBuffer
  obtain ⟨isMatch, isServer, isMemory⟩ :=
    requestAccesses_leaves route.method route.path randomNumber server ether
  unfold servedAccesses
  rw [staysBelow_bind]
  refine (and_iff_left_of_imp fun stays => ?_).trans (checked.trans ?_)
  · have room := checked.mp stays
    dsimp only
    rw [isMatch, isServer, isMemory]
    split_ifs with matched
    · exact bodyAccesses_staysBelow short inBuffer strNoNul room matched
    · exact staysBelow_pure _
  · tauto

theorem Route.accesses_inside_example :
    StaysBelow ETHERSIA_MAX_PACKET_SIZE
      (servedAccesses methodPost examplePath 0 [0x68, 0x69] exampleServer postReceived)
      postReceived.buffer :=
  (Route.accesses_inside_iff (.isPost examplePath) 0 exampleServer
    ⟨by decide +kernel, by unfold TCPServer.OffsetFits; decide +kernel, by decide +kernel⟩
    (by simp)).mpr (Or.inl (by decide +kernel))

/-- `POST /on HTTP/1.0` with a body of 505 bytes. -/
def fullRequest : Frame :=
  requestSegment 0x56d7
    { examplePost [] with body := List.replicate 505 0x61 }.octets (by decide +kernel)

theorem fullRequest_accepted : exampleStation.ether.Accepts fullRequest := by
  refine ⟨by decide +kernel, (EtherSia.acceptsPacket_iff _).mpr ⟨?_, by decide +kernel⟩⟩
  refine (IPv6Packet.isValid_iff _).mpr ⟨by decide +kernel, by decide +kernel, ?_⟩
  have loaded : (exampleStation.ether.loadFrame fullRequest).buffer =
      store exampleStation.ether.buffer 0 fullRequest.octets := rfl
  rw [loaded, IPv6Packet.calculateChecksum_store (by decide +kernel)]
  decide +kernel

/-- The frame of 600 bytes is received, and the NUL behind its body is written to the byte
behind the buffer. -/
theorem Route.full_request_ends_outside :
    ¬∀ (frame : Frame) (ether : EtherSia) (route : Route) (randomNumber : UInt32)
      (server : HTTPServer) (str : List UInt8), ether.Accepts frame →
        InBuffer (ether.accepted frame).buffer → (∀ byte ∈ str, byte ≠ 0) →
          StaysBelow ETHERSIA_MAX_PACKET_SIZE
            (servedAccesses route.method route.path randomNumber str server
              (ether.accepted frame)) (ether.accepted frame).buffer := by
  intro inside
  have stays := inside fullRequest exampleStation.ether (.isPost examplePath) 0 exampleServer []
    fullRequest_accepted
    ⟨by decide +kernel, by unfold TCPServer.OffsetFits; decide +kernel, by decide +kernel⟩
    (by simp)
  have touched := stays 600 (by decide +kernel)
  exact absurd touched (by decide)

end EtherSiaStack
