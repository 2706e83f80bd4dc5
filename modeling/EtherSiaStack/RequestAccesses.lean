/-
`checkRequest`, access by access.

The check is written out as reads and writes of the packet, in their order.  The reply
that `havePacket` may send in it counts as one access to the bytes it can see, those up
to the end of a segment without data.
-/

import EtherSiaStack.Library.Access
import EtherSiaStack.MessageReplies
import EtherSiaStack.RequestBody

namespace EtherSiaStack

open ByteMemory

/-! ### The reply to a SYN or FIN -/

namespace TCPServer

open IPv6Packet TCPHeader

/-- The end of a segment without data. -/
def replyEnd : Nat := 78

theorem segmentFields_both {left right : Memory} (agree : Agree left right 0 replyEnd)
    (socket : Socket) (length : UInt16) :
    Agree (segmentFields socket length left) (segmentFields socket length right) 0
      replyEnd := by
  have sameSeq : acknowledgementNum left = acknowledgementNum right :=
    agree.u32At_eq (by decide) (by decide)
  have sameAck : sequenceNum left = sequenceNum right :=
    agree.u32At_eq (by decide) (by decide)
  have sameLen : TCPServer.payloadLength left = TCPServer.payloadLength right :=
    HTTPServer.payloadLength_congr (agree.mono (by decide) (by decide))
  have sameFlags : flags left = flags right := agree 67 (by decide) (by decide)
  unfold segmentFields
  dsimp only
  rw [sameSeq, sameAck, sameLen, sameFlags]
  have flagged : Agree
      (if flags right = 0 then setFlags left (TCP_FLAG_ACK ||| TCP_FLAG_FIN ||| TCP_FLAG_PSH)
        else left)
      (if flags right = 0 then setFlags right (TCP_FLAG_ACK ||| TCP_FLAG_FIN ||| TCP_FLAG_PSH)
        else right) 0 replyEnd := by
    split
    · exact agree.store_both 67 _
    · exact agree
  have ports := (flagged.store_word 56 54 (by decide) (by decide)).store_both 54
    (bytes16 socket.localPort)
  have numbers := (ports.store_both 58 (bytes32 (acknowledgementNum right))).store_both 62
    (bytes32 (sequenceNum right + (if TCPServer.payloadLength right = 0 then 1
      else TCPServer.payloadLength right).toUInt32))
  have fields := ((numbers.store_both 66 [0x60]).store_both 68
    (bytes16 TCP_WINDOW_SIZE)).store_both 72 (bytes16 0)
  have option := ((fields.store_both 74 [2]).store_both 75 [4]).store_word 76 68 (by decide)
    (by decide)
  exact option.store_both 18 (bytes16 (TCP_TRANSMIT_HEADER_LEN + length))

theorem sendReply_both {left right : EtherSia} (same : SameUpTo replyEnd left right)
    (socket : Socket) :
    SameUpTo replyEnd (send socket 0 true left) (send socket 0 true right) := by
  have prepared : SameUpTo replyEnd left.prepareReply right.prepareReply :=
    same.prepareReply (by decide)
  have fieldsEnd (packet : Memory) : packetEnd (segmentFields socket 0 packet) = replyEnd :=
    congrArg (fun total : UInt16 => 54 + total.toNat) (u16At_store_self _ _ _)
  have sealedEnd (packet : Memory) :
      packetEnd (storeChecksum (segmentFields socket 0 packet) checksumAddress) =
        replyEnd := by
    have sealed : Agree (storeChecksum (segmentFields socket 0 packet) checksumAddress)
        (segmentFields socket 0 packet) 18 20 := storeChecksum_agree _ (by decide)
    rw [← fieldsEnd packet]
    exact congrArg (fun total : UInt16 => 54 + total.toNat) (sealed.u16At_eq le_rfl le_rfl)
  refine SameUpTo.send (prepared.modifyPacket ?_) ?_ ?_
  · intro memory agree
    exact EtherSiaStack.Agree.storeChecksum_both (segmentFields_both agree socket 0)
      (Nat.le_of_eq (fieldsEnd _)) checksumAddress (by decide)
  · exact Nat.le_of_eq (sealedEnd _)
  · exact Nat.lt_of_le_of_lt (Nat.le_of_eq (sealedEnd _)) (by decide)

theorem sendReply_behind (socket : Socket) (ether : EtherSia) {address : Nat}
    (behind : replyEnd ≤ address) :
    (send socket 0 true ether).buffer address = ether.buffer address := by
  have bound : 78 ≤ address := behind
  have sealed : Agree (send socket 0 true ether).buffer
      (segmentFields socket 0 ether.prepareReply.buffer) replyEnd (address + 1) :=
    storeChecksum_agree _ (Or.inr (by decide))
  have filled : Agree (segmentFields socket 0 ether.prepareReply.buffer)
      ether.prepareReply.buffer replyEnd (address + 1) :=
    segmentFields_agree socket 0 _ (Or.inr (Or.inr le_rfl))
  have prepared := EtherSiaStack.prepareReply_payload ether (address + 1)
  have inside : address < address + 1 := Nat.lt_succ_self address
  exact (sealed address behind inside).trans
    ((filled address behind inside).trans (prepared address (by omega) inside))

/-- Of a call of `havePacket` the bytes from the end of the header on are no part. -/
theorem havePacket_both {left right : EtherSia} (same : SameUpTo replyEnd left right)
    (socket : Socket) (randomNumber : UInt32) :
    (havePacket socket randomNumber left).1 = (havePacket socket randomNumber right).1 ∧
      (havePacket socket randomNumber left).2.1 =
        (havePacket socket randomNumber right).2.1 ∧
      SameUpTo replyEnd (havePacket socket randomNumber left).2.2
        (havePacket socket randomNumber right).2.2 := by
  obtain ⟨memory, rfl, agree⟩ := same
  have isSame : SameUpTo replyEnd left (left.withBuffer memory) := ⟨memory, rfl, agree⟩
  have sameProtocol : protocol left.buffer = protocol memory := agree 20 (by decide) (by decide)
  have samePort : destinationPort left.buffer = destinationPort memory :=
    agree.u16At_eq (by decide) (by decide)
  have sameFlags : flags left.buffer = flags memory := agree 67 (by decide) (by decide)
  have sameLen : TCPServer.payloadLength left.buffer = TCPServer.payloadLength memory :=
    HTTPServer.payloadLength_congr (agree.mono (by decide) (by decide))
  have sameReceived : (left.withBuffer memory).bufferContainsReceived =
      left.bufferContainsReceived := rfl
  unfold havePacket
  dsimp only
  rw [EtherSia.withBuffer_buffer, sameReceived, sameProtocol, samePort, sameFlags, sameLen]
  split_ifs
  · exact ⟨rfl, rfl, isSame⟩
  · exact ⟨rfl, rfl, isSame⟩
  · exact ⟨rfl, rfl, isSame⟩
  · exact ⟨rfl, rfl, isSame⟩
  · refine ⟨rfl, rfl, sendReply_both (isSame.modifyPacket fun other agreeOther => ?_) socket⟩
    exact agreeOther.store_both 67 _
  · refine ⟨rfl, rfl, sendReply_both (isSame.modifyPacket fun other agreeOther => ?_) socket⟩
    exact (agreeOther.store_both 62 _).store_both 67 _
  · refine ⟨rfl, rfl, ?_⟩
    dsimp only
    exact isSame.modifyPacket fun other agreeOther => agreeOther.store_both 67 _
  · exact ⟨rfl, rfl, isSame⟩

theorem havePacket_behind (socket : Socket) (randomNumber : UInt32) (ether : EtherSia)
    {address : Nat} (behind : replyEnd ≤ address) :
    (havePacket socket randomNumber ether).2.2.buffer address = ether.buffer address := by
  have bound : 78 ≤ address := behind
  unfold havePacket
  dsimp only
  split_ifs
  · rfl
  · rfl
  · rfl
  · rfl
  · refine (sendReply_behind socket _ behind).trans (store_after _ _ ?_)
    rw [List.length_singleton]
    omega
  · refine (sendReply_behind socket _ behind).trans ((store_after _ _ ?_).trans
      (store_after _ _ ?_))
    · rw [List.length_singleton]
      omega
    · rw [bytes32_length]
      omega
  · refine store_after _ _ ?_
    rw [List.length_singleton]
    omega
  · rfl

end TCPServer

/-! ### checkRequest, access by access -/

namespace HTTPServer

open Accessor

/-- `payload()` and `payloadLength()`. -/
def header : Accessor (Nat × UInt16) := do
  let dataOffset ← read 66
  let high ← read 18
  let low ← read 19
  let receiveHeaderLen := ((dataOffset &&& 0xF0) >>> 2).toUInt16
  pure (IPv6Packet.payload + receiveHeaderLen.toNat, be16 high low - receiveHeaderLen)

/-- `havePacket()`: the interface it leaves has its packet in the memory. -/
def takePacket (socket : Socket) (randomNumber : UInt32) (ether : EtherSia) :
    Accessor (Bool × Socket × EtherSia) :=
  confined TCPServer.replyEnd fun packet =>
    let (isRequest, socket, left) :=
      TCPServer.havePacket socket randomNumber (ether.withBuffer packet)
    ((isRequest, socket, left.withBuffer ether.buffer), left.buffer)

/-- The loop over the path. -/
def comparePath (pathPtr : Nat) (path : FlashString) : Nat → Nat → Bool → Accessor PathMatch
  | 0, _, _ => pure .usedUp
  | remaining + 1, index, allowAny => do
      let character ← read (pathPtr + index)
      let match_ := path.read index
      if endsPath character then
        pure (if match_ = 0 then .bothEnded index else .refused)
      else
        let allowAny := allowAny || match_ = 0x23
        if match_ = 0x3F ∨ allowAny = true then
          comparePath pathPtr path remaining (index + 1) allowAny
        else if character ≠ match_ then pure .refused
        else comparePath pathPtr path remaining (index + 1) allowAny

/-- The test for the end of the headers at one place, up to the first part that fails. -/
def testBlank (place : Nat) : Accessor Bool := do
  let character ← read place
  if character = 0x0A then
    let twoBack ← read (place - 2)
    if twoBack = 0x0A then pure true
    else
      let oneBack ← read (place - 1)
      pure (oneBack = 0x0A)
  else pure false

/-- The loop that looks for the empty line, from `pos` on. -/
def searchBody (payload : Nat) : Nat → Nat → Accessor (Option Nat)
  | 0, _ => pure none
  | remaining + 1, pos => do
      let isBlank ← testBlank (payload + pos)
      if isBlank then pure (some (payload + pos + 1))
      else searchBody payload remaining (pos + 1)

def endBody (payload : Nat) (first length : UInt16) (server : HTTPServer) :
    Accessor (Bool × HTTPServer) := do
  let bodyPtr ← searchBody payload (length.toNat - 1 - first.toNat) first.toNat
  if bodyPtr.isSome then
    write (payload + length.toNat) 0
    pure (true, { server with bodyPtr := bodyPtr })
  else pure (true, { server with bodyPtr := bodyPtr })

/-- The part behind the loop over the path, which is left in this way. -/
def endPath (pathPtr payload : Nat) (first length : UInt16) (server : HTTPServer) :
    PathMatch → Accessor (Bool × HTTPServer)
  | .refused => pure (false, server)
  | .bothEnded index => do
      write (pathPtr + index) 0
      endBody payload first length server
  | .usedUp => endBody payload first length server

/-- The part behind `havePacket()`. -/
def matchRequest (method path : FlashString) (server : HTTPServer) (payload : Nat)
    (length : UInt16) : Accessor (Bool × HTTPServer) := do
  let endOfMethod := UInt16.ofNat method.length
  let characters ← readBytes payload endOfMethod.toNat
  if characters ≠ bytesAt method.read 0 endOfMethod.toNat then pure (false, server)
  else
    let space ← read (payload + endOfMethod.toNat)
    if space ≠ 0x20 then pure (false, server)
    else
      let pathPtr := payload + endOfMethod.toNat + 1
      let server := { server with pathPtr := some pathPtr }
      let left ← comparePath pathPtr path (maxlen length endOfMethod).toNat 0 false
      endPath pathPtr payload (endOfMethod + 1) length server left

/-- `checkRequest`, with the interface but for its packet. -/
def requestAccesses (method path : FlashString) (randomNumber : UInt32)
    (server : HTTPServer) (ether : EtherSia) : Accessor (Bool × HTTPServer × EtherSia) := do
  let (payload, length) ← header
  let (isRequest, socket, ether) ← takePacket server.socket randomNumber ether
  let server := { server with socket := socket }
  if isRequest = false then pure (false, server, ether)
  else
    let (isMatch, server) ← matchRequest method path server payload length
    pure (isMatch, server, ether)

/-- `strcmp` of the string at the address with the string of these characters. -/
def compareString : Nat → List UInt8 → Accessor Bool
  | ptr, [] => do
      let byte ← read ptr
      pure (byte = 0)
  | ptr, character :: rest => do
      let byte ← read ptr
      if byte = character then compareString (ptr + 1) rest else pure false

def bodyAccesses (server : HTTPServer) (str : List UInt8) : Accessor Bool :=
  match server.bodyPtr with
  | none => pure false
  | some bodyPtr => compareString bodyPtr str

/-- `checkRequest` and, if it is true, `bodyEquals`. -/
def servedAccesses (method path : FlashString) (randomNumber : UInt32) (str : List UInt8)
    (server : HTTPServer) (ether : EtherSia) : Accessor Bool := do
  let (isMatch, server, _) ← requestAccesses method path randomNumber server ether
  if isMatch then bodyAccesses server str else pure false

/-! ### The accesses compute the check -/

section Runs

variable (memory : Memory)

theorem header_value :
    (header memory).value = (TCPServer.payload memory, TCPServer.payloadLength memory) :=
  rfl

theorem header_memory : (header memory).memory = memory :=
  rfl

theorem takePacket_run (socket : Socket) (randomNumber : UInt32) (ether : EtherSia) :
    (takePacket socket randomNumber ether ether.buffer).value =
        ((TCPServer.havePacket socket randomNumber ether).1,
          (TCPServer.havePacket socket randomNumber ether).2.1,
          (TCPServer.havePacket socket randomNumber ether).2.2.withBuffer ether.buffer) ∧
      (takePacket socket randomNumber ether ether.buffer).memory =
        (TCPServer.havePacket socket randomNumber ether).2.2.buffer := by
  unfold takePacket
  refine confined_run ?_ ?_
  · intro other agree
    have same : SameUpTo TCPServer.replyEnd ether (ether.withBuffer other) :=
      ⟨other, rfl, agree⟩
    obtain ⟨sameResult, sameSocket, left, isLeft, sameBelow⟩ :=
      TCPServer.havePacket_both same socket randomNumber
    dsimp only
    rw [← sameResult, ← sameSocket, isLeft]
    exact ⟨rfl, sameBelow⟩
  · intro address behind
    exact TCPServer.havePacket_behind socket randomNumber ether behind

theorem comparePath_run (pathPtr : Nat) (path : FlashString) (remaining index : Nat)
    (allowAny : Bool) :
    (comparePath pathPtr path remaining index allowAny memory).value =
        matchPath memory pathPtr path remaining index allowAny ∧
      (comparePath pathPtr path remaining index allowAny memory).memory = memory := by
  induction remaining generalizing index allowAny with
  | zero => exact ⟨rfl, rfl⟩
  | succ remaining ih =>
      unfold comparePath matchPath
      rw [bind_value, bind_memory, read_value, read_memory]
      dsimp only
      split_ifs
      · exact ⟨rfl, rfl⟩
      · exact ⟨rfl, rfl⟩
      · exact ih _ _
      · exact ⟨rfl, rfl⟩
      · exact ih _ _

theorem testBlank_run (place : Nat) :
    (testBlank place memory).value =
        decide (memory place = 0x0A ∧
          (memory (place - 2) = 0x0A ∨ memory (place - 1) = 0x0A)) ∧
      (testBlank place memory).memory = memory := by
  unfold testBlank
  rw [bind_value, bind_memory, read_value, read_memory]
  by_cases isFeed : memory place = 0x0A
  · rw [if_pos isFeed, bind_value, bind_memory, read_value, read_memory]
    by_cases twoBack : memory (place - 2) = 0x0A
    · rw [if_pos twoBack]
      exact ⟨(decide_eq_true ⟨isFeed, Or.inl twoBack⟩).symm, rfl⟩
    · rw [if_neg twoBack]
      refine ⟨decide_eq_decide.mpr ?_, rfl⟩
      rw [and_iff_right isFeed, or_iff_right twoBack]
      exact Iff.rfl
  · rw [if_neg isFeed]
    exact ⟨(decide_eq_false fun blank => isFeed blank.1).symm, rfl⟩

theorem searchBody_run (payload remaining pos : Nat) :
    (searchBody payload remaining pos memory).value =
        ((List.range' pos remaining).find? fun pos => memory (payload + pos) = 0x0A ∧
          (memory (payload + pos - 2) = 0x0A ∨ memory (payload + pos - 1) = 0x0A)).map
            (fun pos => payload + pos + 1) ∧
      (searchBody payload remaining pos memory).memory = memory := by
  induction remaining generalizing pos with
  | zero => exact ⟨rfl, rfl⟩
  | succ remaining ih =>
      obtain ⟨isBlank, unchanged⟩ := testBlank_run memory (payload + pos)
      unfold searchBody
      rw [bind_value, bind_memory, isBlank, unchanged, List.range'_succ, List.find?_cons]
      cases decide (memory (payload + pos) = 0x0A ∧
        (memory (payload + pos - 2) = 0x0A ∨ memory (payload + pos - 1) = 0x0A)) with
      | true => exact ⟨rfl, rfl⟩
      | false => exact ih (pos + 1)

/-- What a run leaves, with its memory as the packet of the interface. -/
def outcome (ether : EtherSia) (run : Accessed (Bool × HTTPServer)) :
    Bool × HTTPServer × EtherSia :=
  (run.value.1, run.value.2, ether.withBuffer run.memory)

theorem endBody_run (payload : Nat) (first length : UInt16) (server : HTTPServer)
    (ether : EtherSia) :
    outcome ether (endBody payload first length server memory) =
      (true, locateBody payload first length server (ether.withBuffer memory)) := by
  obtain ⟨found, unchanged⟩ :=
    searchBody_run memory payload (length.toNat - 1 - first.toNat) first.toNat
  have isFound : findBody memory payload first length = _ := found.symm
  unfold outcome endBody locateBody
  rw [bind_value, bind_memory, unchanged, EtherSia.withBuffer_buffer, isFound]
  dsimp only
  split_ifs
  · rfl
  · rfl

theorem matchRequest_run (method path : FlashString) (server : HTTPServer)
    (ether : EtherSia) :
    outcome ether (matchRequest method path server (TCPServer.payload memory)
        (TCPServer.payloadLength memory) memory) =
      answer method path server (ether.withBuffer memory) := by
  have length : (UInt16.ofNat method.length).toNat = method.length :=
    UInt16.toNat_ofNat_of_lt' method.short
  have spelled : bytesAt method.read 0 method.length = method.bytes := rfl
  obtain ⟨isLeft, unchanged⟩ := comparePath_run memory
    (TCPServer.payload memory + method.length + 1) path
    (maxlen (TCPServer.payloadLength memory) (UInt16.ofNat method.length)).toNat 0 false
  have isPath : _ = pathMatch memory method path := isLeft
  unfold outcome matchRequest answer
  dsimp only
  rw [bind_value, bind_memory, readBytes_value, readBytes_memory, EtherSia.withBuffer_buffer,
    length, spelled]
  by_cases isMethod : bytesAt memory (TCPServer.payload memory) method.length = method.bytes
  · rw [if_neg (not_not.mpr isMethod), bind_value, bind_memory, read_value, read_memory]
    by_cases isSpace : memory (TCPServer.payload memory + method.length) = 0x20
    · rw [if_neg (not_not.mpr isSpace), if_pos (hasMethod_iff.mpr ⟨isMethod, isSpace⟩),
        bind_value, bind_memory, isPath, unchanged]
      cases pathMatch memory method path with
      | refused => rfl
      | bothEnded index => exact endBody_run _ _ _ _ _ ether
      | usedUp => exact endBody_run _ _ _ _ _ ether
    · rw [if_pos isSpace, if_neg fun hasMethod => isSpace (hasMethod_iff.mp hasMethod).2]
      rfl
  · rw [if_pos isMethod, if_neg fun hasMethod => isMethod (hasMethod_iff.mp hasMethod).1]
    rfl

/-- The accesses yield what the check does, and leave its packet. -/
theorem requestAccesses_run (method path : FlashString) (randomNumber : UInt32)
    (server : HTTPServer) (ether : EtherSia) :
    let run := requestAccesses method path randomNumber server ether ether.buffer
    (run.value.1, run.value.2.1, run.value.2.2.withBuffer run.memory) =
      checkRequest method path randomNumber server ether := by
  obtain ⟨isTaken, isPacket⟩ := takePacket_run server.socket randomNumber ether
  unfold requestAccesses
  dsimp only
  rw [bind_value, bind_memory, header_value, header_memory]
  dsimp only
  rw [bind_value, bind_memory, isTaken, isPacket]
  dsimp only
  by_cases hasData : TCPServer.HasData server.socket ether
  · rw [checkRequest_of_hasData hasData, TCPServer.havePacket_of_hasData hasData]
    dsimp only
    rw [if_neg (by decide)]
    have answered := matchRequest_run (opened ether).buffer method path server.serving ether
    rw [opened_payload, opened_payloadLength] at answered
    exact answered
  · have refused := hasData
    rw [← TCPServer.havePacket_eq_true_iff _ randomNumber, Bool.not_eq_true] at refused
    rw [checkRequest_of_not_hasData hasData, if_pos refused]
    rfl

theorem requestAccesses_leaves (method path : FlashString) (randomNumber : UInt32)
    (server : HTTPServer) (ether : EtherSia) :
    let run := requestAccesses method path randomNumber server ether ether.buffer
    let result := checkRequest method path randomNumber server ether
    run.value.1 = result.1 ∧ run.value.2.1 = result.2.1 ∧ run.memory = result.2.2.buffer := by
  intro run result
  have ran : (run.value.1, run.value.2.1, run.value.2.2.withBuffer run.memory) = result :=
    requestAccesses_run method path randomNumber server ether
  have isMatch := congrArg Prod.fst ran
  have isServer := congrArg (fun left => left.2.1) ran
  have isMemory := congrArg (fun left => left.2.2.buffer) ran
  exact ⟨isMatch, isServer, isMemory⟩

theorem compareString_run (ptr : Nat) (str : List UInt8) :
    (compareString ptr str memory).value = sameString memory ptr str := by
  induction str generalizing ptr with
  | nil => rfl
  | cons character rest ih =>
      unfold compareString sameString
      rw [bind_value, read_value, read_memory]
      by_cases same : memory ptr = character
      · rw [if_pos same, ih, decide_eq_true same, Bool.true_and]
      · rw [if_neg same, decide_eq_false same, Bool.false_and]
        rfl

theorem bodyAccesses_value (server : HTTPServer) (str : List UInt8) :
    (bodyAccesses server str memory).value = bodyEquals server str memory := by
  unfold bodyAccesses bodyEquals
  cases server.bodyPtr with
  | none => rfl
  | some bodyPtr => exact compareString_run memory bodyPtr str

theorem servedAccesses_value (method path : FlashString) (randomNumber : UInt32)
    (str : List UInt8) (server : HTTPServer) (ether : EtherSia) :
    let result := checkRequest method path randomNumber server ether
    (servedAccesses method path randomNumber str server ether ether.buffer).value =
      (result.1 && bodyEquals result.2.1 str result.2.2.buffer) := by
  obtain ⟨isMatch, isServer, isMemory⟩ :=
    requestAccesses_leaves method path randomNumber server ether
  unfold servedAccesses
  dsimp only
  rw [bind_value, isMatch, isServer, isMemory]
  cases (checkRequest method path randomNumber server ether).1 with
  | false => rfl
  | true =>
      rw [if_pos rfl, Bool.true_and]
      exact bodyAccesses_value _ _ _

end Runs

end HTTPServer

end EtherSiaStack
