/-
A check that is made again.

A check that is true leaves a NUL where the path of the request ended, and one behind the
body.  A second check does not find the end of the path there: it goes on behind it, with
whatever lies in flash behind the pattern.  The rest it finds as the first check did, as
long as neither NUL lies on the data offset, or on the flag behind the buffer.
-/

import EtherSiaStack.RequestBounds
import EtherSiaStack.WildcardRoutes

namespace EtherSiaStack

open ByteMemory

namespace HTTPServer

/-! ### The packet behind a check -/

/-- The path of the request ends where the pattern does, and agrees with it up to there. -/
structure PathEndsAt (packet : Memory) (method path : FlashString) (index : Nat) : Prop where
  compared : index < comparedBytes packet method
  agrees : ∀ before < index, Agrees packet (targetStart packet method) path before
  bothEnd : BothEnd packet (targetStart packet method) path index

/-- A check that is true writes a NUL at this address. -/
def NulAt (packet : Memory) (method path : FlashString) (address : Nat) : Prop :=
  (∃ index, PathEndsAt packet method path index ∧
      address = targetStart packet method + index) ∨
    HasEmptyLine packet method ∧
      address = TCPServer.payload packet + (TCPServer.payloadLength packet).toNat

/-- Where the body is found. -/
def bodyOf (packet : Memory) (method : FlashString) : Option Nat :=
  findBody packet (TCPServer.payload packet) (UInt16.ofNat method.length + 1)
    (TCPServer.payloadLength packet)

/-- The packet once its path is ended. -/
def endedPath (packet : Memory) (method path : FlashString) : Memory :=
  match pathMatch packet method path with
  | .bothEnded index => store packet (targetStart packet method + index) [0]
  | _ => packet

/-- The packet that a check leaves if it is true. -/
def checkedPacket (packet : Memory) (method path : FlashString) : Memory :=
  if (bodyOf packet method).isSome then
    store (endedPath packet method path)
      (TCPServer.payload packet + (TCPServer.payloadLength packet).toNat) [0]
  else endedPath packet method path

section Packet

variable {packet : Memory} {method path : FlashString}

theorem pathEndsAt_iff {index : Nat} :
    PathEndsAt packet method path index ↔ pathMatch packet method path = .bothEnded index := by
  have compared := pathMatch_compared packet method path
  constructor
  · intro ends
    have notAgrees := ends.bothEnd.not_agrees
    cases left : pathMatch packet method path with
    | refused =>
        rw [left] at compared
        obtain ⟨stop, -, -, before, parts, notBoth⟩ := compared
        rcases Nat.lt_trichotomy stop index with isBefore | same | isBehind
        · exact absurd (ends.agrees stop isBefore) parts
        · exact absurd (same ▸ ends.bothEnd) notBoth
        · exact absurd (before index (Nat.zero_le _) isBehind) notAgrees
    | bothEnded stop =>
        rw [left] at compared
        obtain ⟨-, -, before, bothEnd⟩ := compared
        rcases Nat.lt_trichotomy stop index with isBefore | same | isBehind
        · exact absurd (ends.agrees stop isBefore) bothEnd.not_agrees
        · rw [same]
        · exact absurd (before index (Nat.zero_le _) isBehind) notAgrees
    | usedUp =>
        rw [left] at compared
        exact absurd (compared index (Nat.zero_le _) ends.compared) notAgrees
  · intro left
    rw [left] at compared
    obtain ⟨-, inside, before, bothEnd⟩ := compared
    exact ⟨inside, fun earlier isBefore => before earlier (Nat.zero_le _) isBefore, bothEnd⟩

theorem findBody_endedPath (payload : Nat) (first length : UInt16) :
    findBody (endedPath packet method path) payload first length =
      findBody packet payload first length := by
  unfold endedPath
  split
  · rename_i index left
    exact findBody_store (pathEndsAt_iff.mpr left).bothEnd.not_feed payload first length
  · rfl

/-- What `checkRequest` does behind `havePacket`, if it is true. -/
theorem answer_of_taken {server : HTTPServer} {ether : EtherSia}
    (hasMethod : HasMethod ether.buffer method)
    (taken : pathMatch ether.buffer method path ≠ .refused) :
    answer method path server ether =
      (true, { server with
          pathPtr := some (targetStart ether.buffer method)
          bodyPtr := bodyOf ether.buffer method },
        { ether with buffer := checkedPacket ether.buffer method path }) := by
  have sameBody := @findBody_endedPath ether.buffer method path
    (TCPServer.payload ether.buffer) (UInt16.ofNat method.length + 1)
    (TCPServer.payloadLength ether.buffer)
  unfold answer checkedPacket bodyOf
  unfold endedPath at sameBody ⊢
  rw [if_pos hasMethod]
  cases left : pathMatch ether.buffer method path with
  | refused => exact absurd left taken
  | bothEnded index =>
      rw [left] at sameBody
      dsimp only at sameBody ⊢
      unfold locateBody EtherSia.modifyPacket
      dsimp only
      rw [sameBody]
      split
      · rfl
      · rfl
  | usedUp =>
      unfold locateBody EtherSia.modifyPacket
      dsimp only
      split
      · rfl
      · rfl

theorem answer_eq_true_iff {server : HTTPServer} {ether : EtherSia} :
    (answer method path server ether).1 = true ↔
      HasMethod ether.buffer method ∧ pathMatch ether.buffer method path ≠ .refused := by
  constructor
  · intro taken
    unfold answer at taken
    dsimp only at taken
    by_cases hasMethod : HasMethod ether.buffer method
    · refine ⟨hasMethod, fun refused => ?_⟩
      rw [if_pos hasMethod, refused] at taken
      cases taken
    · rw [if_neg hasMethod] at taken
      cases taken
  · rintro ⟨hasMethod, taken⟩
    rw [answer_of_taken hasMethod taken]

theorem bodyOf_isSome_iff (short : method.length < 65535) :
    (bodyOf packet method).isSome = true ↔ HasEmptyLine packet method := by
  rw [hasEmptyLine_iff short, Option.isSome_iff_ne_none]
  rfl

theorem endedPath_of_pathEndsAt {index : Nat} (ends : PathEndsAt packet method path index) :
    endedPath packet method path = store packet (targetStart packet method + index) [0] := by
  unfold endedPath
  rw [pathEndsAt_iff.mp ends]

theorem endedPath_of_not {address : Nat}
    (notEnd : ∀ index, PathEndsAt packet method path index →
      address ≠ targetStart packet method + index) :
    endedPath packet method path address = packet address := by
  unfold endedPath
  cases left : pathMatch packet method path with
  | refused => rfl
  | bothEnded index =>
      have other := notEnd index (pathEndsAt_iff.mpr left)
      exact store_outside packet _ (by rw [List.length_singleton]; omega)
  | usedUp => rfl

/-- The NULs are all that a check writes. -/
theorem checkedPacket_of_nulAt (short : method.length < 65535) {address : Nat}
    (isNul : NulAt packet method path address) :
    checkedPacket packet method path address = 0 := by
  have ended : (∃ index, PathEndsAt packet method path index ∧
      address = targetStart packet method + index) →
        endedPath packet method path address = 0 := by
    rintro ⟨index, ends, rfl⟩
    rw [endedPath_of_pathEndsAt ends]
    exact u8_store_self _ _ _
  unfold checkedPacket
  by_cases hasBody : HasEmptyLine packet method
  · rw [if_pos ((bodyOf_isSome_iff short).mpr hasBody)]
    by_cases isEnd : address =
        TCPServer.payload packet + (TCPServer.payloadLength packet).toNat
    · rw [isEnd]
      exact u8_store_self _ _ _
    · rw [store_outside _ _ (by rw [List.length_singleton]; omega)]
      exact ended (isNul.resolve_right fun body => isEnd body.2)
  · rw [if_neg fun isSome => hasBody ((bodyOf_isSome_iff short).mp isSome)]
    exact ended (isNul.resolve_right fun body => hasBody body.1)

theorem checkedPacket_of_not_nulAt (short : method.length < 65535) {address : Nat}
    (notNul : ¬ NulAt packet method path address) :
    checkedPacket packet method path address = packet address := by
  have kept : endedPath packet method path address = packet address :=
    endedPath_of_not fun index ends same => notNul (Or.inl ⟨index, ends, same⟩)
  unfold checkedPacket
  by_cases hasBody : HasEmptyLine packet method
  · rw [if_pos ((bodyOf_isSome_iff short).mpr hasBody)]
    have other : address ≠ TCPServer.payload packet + (TCPServer.payloadLength packet).toNat :=
      fun same => notNul (Or.inr ⟨hasBody, same⟩)
    rw [store_outside _ _ (by rw [List.length_singleton]; omega)]
    exact kept
  · rw [if_neg fun isSome => hasBody ((bodyOf_isSome_iff short).mp isSome)]
    exact kept

/-- Both lie behind the method and its space. -/
theorem NulAt.behind_method {address : Nat} (isNul : NulAt packet method path address) :
    targetStart packet method ≤ address := by
  rcases isNul with ⟨index, -, rfl⟩ | ⟨⟨pos, lower, upper, -⟩, rfl⟩
  · exact Nat.le_add_right _ _
  · unfold targetStart
    omega

theorem checkedPacket_agree (short : method.length < 65535) :
    Agree (checkedPacket packet method path) packet 0 (targetStart packet method) := by
  intro address _ before
  apply checkedPacket_of_not_nulAt short
  intro isNul
  have behind := isNul.behind_method
  omega

/-! ### The second comparison -/

theorem comparedBytes_le (behind : method.length < (TCPServer.payloadLength packet).toNat) :
    comparedBytes packet method ≤
      (TCPServer.payloadLength packet).toNat - method.length - 1 := by
  have length : (UInt16.ofNat method.length).toNat = method.length :=
    UInt16.toNat_ofNat_of_lt' method.short
  have first : (TCPServer.payloadLength packet - UInt16.ofNat method.length).toNat =
      (TCPServer.payloadLength packet).toNat - method.length := by
    rw [UInt16.toNat_sub_of_le, length]
    rw [UInt16.le_iff_toNat_le, length]
    omega
  have second : (TCPServer.payloadLength packet - UInt16.ofNat method.length - 1).toNat =
      (TCPServer.payloadLength packet).toNat - method.length - 1 := by
    rw [UInt16.toNat_sub_of_le, first]
    · rfl
    · rw [UInt16.le_iff_toNat_le, first]
      change 1 ≤ _
      omega
  unfold comparedBytes maxlen
  rw [UInt16.toNat_toUInt8, second]
  exact Nat.mod_le _ _

/-- Of the places compared, only the one where the path ended is changed. -/
theorem checkedPacket_compared (short : method.length < 65535) {index : Nat}
    (inside : index < comparedBytes packet method)
    (other : ¬ PathEndsAt packet method path index) :
    checkedPacket packet method path (targetStart packet method + index) =
      packet (targetStart packet method + index) := by
  apply checkedPacket_of_not_nulAt short
  rintro (⟨stop, ends, same⟩ | ⟨⟨pos, lower, upper, -⟩, same⟩)
  · have isStop : stop = index := by omega
    exact other (isStop ▸ ends)
  · have few := @comparedBytes_le packet method (by omega)
    unfold targetStart at same
    omega

/-- Where both ended, the second comparison goes on with two NULs. -/
theorem PathEndsAt.agrees_checked (short : method.length < 65535) {index : Nat}
    (ends : PathEndsAt packet method path index) :
    Agrees (checkedPacket packet method path) (targetStart packet method) path index := by
  have isNul : checkedPacket packet method path (targetStart packet method + index) = 0 :=
    checkedPacket_of_nulAt short (Or.inl ⟨index, ends, rfl⟩)
  refine ⟨?_, Or.inr (Or.inr ?_)⟩
  · rw [isNul]
    rfl
  · rw [isNul, ends.bothEnd.2]

theorem agrees_checked_iff (short : method.length < 65535) {index : Nat}
    (inside : index < comparedBytes packet method)
    (other : ¬ PathEndsAt packet method path index) :
    Agrees (checkedPacket packet method path) (targetStart packet method) path index ↔
      Agrees packet (targetStart packet method) path index := by
  unfold Agrees
  rw [checkedPacket_compared short inside other]

theorem bothEnd_checked_iff (short : method.length < 65535) {index : Nat}
    (inside : index < comparedBytes packet method)
    (other : ¬ PathEndsAt packet method path index) :
    BothEnd (checkedPacket packet method path) (targetStart packet method) path index ↔
      BothEnd packet (targetStart packet method) path index := by
  unfold BothEnd
  rw [checkedPacket_compared short inside other]

/-- Behind the place where the path ended, the request goes on as the flash behind the
pattern does, until both end again or no byte is compared any more. -/
def GoesOnBehind (packet : Memory) (method path : FlashString) : Prop :=
  ∀ index, PathEndsAt packet method path index →
    ∀ stop, index < stop → stop < comparedBytes packet method →
      (∀ between, index < between → between < stop →
          Agrees packet (targetStart packet method) path between) →
        Agrees packet (targetStart packet method) path stop ∨
          BothEnd packet (targetStart packet method) path stop

theorem PathEndsAt.unique {first second : Nat} (left : PathEndsAt packet method path first)
    (right : PathEndsAt packet method path second) : first = second := by
  have same := (pathEndsAt_iff.mp left).symm.trans (pathEndsAt_iff.mp right)
  exact PathMatch.bothEnded.inj same

/-- The packet is where it was for the second check. -/
structure SameHeader (before after : Memory) : Prop where
  payload : TCPServer.payload after = TCPServer.payload before
  length : TCPServer.payloadLength after = TCPServer.payloadLength before

theorem SameHeader.targetStart {before after : Memory} (same : SameHeader before after) :
    targetStart after method = targetStart before method := by
  unfold HTTPServer.targetStart
  rw [same.payload]

theorem SameHeader.comparedBytes {before after : Memory} (same : SameHeader before after) :
    comparedBytes after method = comparedBytes before method := by
  unfold HTTPServer.comparedBytes
  rw [same.length]

theorem pathTaken_checked_iff (short : method.length < 65535)
    (same : SameHeader packet (checkedPacket packet method path))
    (taken : PathTaken packet method path) :
    PathTaken (checkedPacket packet method path) method path ↔
      GoesOnBehind packet method path := by
  unfold PathTaken
  rw [same.targetStart, same.comparedBytes]
  constructor
  · intro takenAgain index ends stop behind inside between
    have notEnd : ¬ PathEndsAt packet method path stop :=
      fun again => absurd (ends.unique again) (Nat.ne_of_lt behind)
    rw [← agrees_checked_iff short inside notEnd, ← bothEnd_checked_iff short inside notEnd]
    refine takenAgain stop inside fun earlier isBefore => ?_
    by_cases here : PathEndsAt packet method path earlier
    · exact here.agrees_checked short
    · rw [agrees_checked_iff short (by omega) here]
      rcases Nat.lt_trichotomy earlier index with isEarlier | rfl | isLater
      · exact ends.agrees earlier isEarlier
      · exact absurd ends here
      · exact between earlier isLater isBefore
  · intro goesOn stop inside before
    by_cases here : PathEndsAt packet method path stop
    · exact Or.inl (here.agrees_checked short)
    · rw [agrees_checked_iff short inside here, bothEnd_checked_iff short inside here]
      by_cases ended : ∃ index < stop, PathEndsAt packet method path index
      · obtain ⟨index, isBefore, ends⟩ := ended
        refine goesOn index ends stop isBefore inside fun between isBehind isEarlier => ?_
        have notEnd : ¬ PathEndsAt packet method path between :=
          fun again => absurd (ends.unique again) (Nat.ne_of_lt isBehind)
        exact (agrees_checked_iff short (by omega) notEnd).mp (before between isEarlier)
      · refine taken stop inside fun earlier isEarlier => ?_
        have notEnd : ¬ PathEndsAt packet method path earlier :=
          fun again => ended ⟨earlier, isEarlier, again⟩
        exact (agrees_checked_iff short (by omega) notEnd).mp (before earlier isEarlier)

theorem hasMethod_checked (short : method.length < 65535)
    (same : SameHeader packet (checkedPacket packet method path))
    (hasMethod : HasMethod packet method) :
    HasMethod (checkedPacket packet method path) method := by
  unfold HasMethod at hasMethod ⊢
  rw [same.payload]
  refine hasMethod.congr ((checkedPacket_agree short).mono (Nat.zero_le _) ?_)
  rw [List.length_append, FlashString.bytes_length]
  exact Nat.le_refl _

/-- The search for the body does not get to the NUL behind it. -/
theorem bodyOf_checked (same : SameHeader packet (checkedPacket packet method path)) :
    bodyOf (checkedPacket packet method path) method = bodyOf packet method := by
  unfold bodyOf
  rw [same.payload, same.length, ← @findBody_endedPath packet method path]
  unfold checkedPacket
  split
  · unfold findBody
    congr 1
    apply List.find?_congr
    intro pos member
    obtain ⟨lower, upper⟩ := List.mem_range'_1.mp member
    have reads (place : Nat) (before : place <
        TCPServer.payload packet + (TCPServer.payloadLength packet).toNat) :
        store (endedPath packet method path)
            (TCPServer.payload packet + (TCPServer.payloadLength packet).toNat) [0] place =
          endedPath packet method path place :=
      store_before _ _ before
    rw [reads _ (by omega), reads _ (by omega), reads _ (by omega)]
  · rfl

/-! ### The header -/

theorem targetStart_ge (long : 3 ≤ method.length) : 58 ≤ targetStart packet method := by
  unfold targetStart TCPServer.payload IPv6Packet.payload
  omega

/-- The data offset is kept, or no header length is lost with it. -/
theorem sameHeader_checked (long : 3 ≤ method.length) (short : method.length < 65535)
    (kept : NulAt packet method path 66 → TCPHeader.receiveHeaderLen packet = 0) :
    SameHeader packet (checkedPacket packet method path) := by
  have behind := @targetStart_ge packet method long
  have agree := @checkedPacket_agree packet method path short
  have total : IPv6Packet.payloadLength (checkedPacket packet method path) =
      IPv6Packet.payloadLength packet :=
    agree.u16At_eq (by decide) (by omega)
  have header : TCPHeader.receiveHeaderLen (checkedPacket packet method path) =
      TCPHeader.receiveHeaderLen packet := by
    by_cases isNul : NulAt packet method path 66
    · rw [kept isNul]
      have zero : checkedPacket packet method path 66 = 0 := checkedPacket_of_nulAt short isNul
      simp only [TCPHeader.receiveHeaderLen, TCPHeader.dataOffset, zero]
      rfl
    · have same : checkedPacket packet method path 66 = packet 66 :=
        checkedPacket_of_not_nulAt short isNul
      simp only [TCPHeader.receiveHeaderLen, TCPHeader.dataOffset, same]
  constructor
  · unfold TCPServer.payload
    rw [header]
  · unfold TCPServer.payloadLength
    rw [header, total]

/-- A data offset that is overwritten moves the payload. -/
theorem payload_moves (short : method.length < 65535)
    (isNul : NulAt packet method path 66)
    (stated : TCPHeader.receiveHeaderLen packet ≠ 0) :
    TCPServer.payload (checkedPacket packet method path) ≠ TCPServer.payload packet := by
  have zero : checkedPacket packet method path 66 = 0 := checkedPacket_of_nulAt short isNul
  have header : TCPHeader.receiveHeaderLen (checkedPacket packet method path) = 0 := by
    simp only [TCPHeader.receiveHeaderLen, TCPHeader.dataOffset, zero]
    rfl
  unfold TCPServer.payload
  rw [header]
  intro same
  have none : (TCPHeader.receiveHeaderLen packet).toNat = 0 := (Nat.add_left_cancel same).symm
  exact stated (UInt16.toNat_inj.mp none)

/-- `bodyLength()` does not depend on the header length. -/
theorem bodyLength_congr {server : HTTPServer} {before after : Memory}
    (same : IPv6Packet.payloadLength after = IPv6Packet.payloadLength before) :
    bodyLength server after = bodyLength server before := by
  have total (memory : Memory) : bodyLength server memory =
      server.bodyPtr.elim 0 fun bodyPtr =>
        IPv6Packet.payloadLength memory - UInt16.ofNat bodyPtr + 54 := by
    unfold bodyLength
    cases server.bodyPtr with
    | none => rfl
    | some bodyPtr =>
        have start : UInt16.ofNat (TCPServer.payload memory) =
            54 + TCPHeader.receiveHeaderLen memory := by
          unfold TCPServer.payload
          rw [UInt16.ofNat_add, UInt16.ofNat_toNat]
          rfl
        dsimp only [Option.elim_some]
        unfold TCPServer.payloadLength
        rw [start]
        grind
  rw [total, total, same]

end Packet

/-! ### The check and its repetition -/

/-- The check with its effect on `_bufferContainsReceived`, the byte behind the buffer. -/
def checkStored (route : Route) (randomNumber : UInt32) (server : HTTPServer)
    (ether : EtherSia) : Bool × HTTPServer × EtherSia :=
  let (isMatch, after, left) := route.check randomNumber server ether
  let stop := TCPServer.payload ether.buffer + (TCPServer.payloadLength ether.buffer).toNat
  if isMatch = true ∧ after.bodyPtr.isSome = true ∧ stop = ETHERSIA_MAX_PACKET_SIZE then
    (isMatch, after, { left with bufferContainsReceived := false })
  else (isMatch, after, left)

/-- What the second of two checks returns, and what `path()`, `body()` and `bodyLength()`
do behind each. -/
structure Repeats (first second : Bool × HTTPServer × EtherSia) : Prop where
  isMatch : second.1 = true
  path : second.2.1.pathPtr = first.2.1.pathPtr
  body : second.2.1.bodyPtr = first.2.1.bodyPtr
  bodyLength : bodyLength second.2.1 second.2.2.buffer = bodyLength first.2.1 first.2.2.buffer

/-- Neither NUL is written over what the second check depends on, and the second
comparison gets past the place where the first one ended. -/
structure Repeatable (packet : Memory) (method path : FlashString) : Prop where
  receivedKept : HasEmptyLine packet method →
    TCPServer.payload packet + (TCPServer.payloadLength packet).toNat ≠
      ETHERSIA_MAX_PACKET_SIZE
  offsetKept : NulAt packet method path 66 → TCPHeader.receiveHeaderLen packet = 0
  goesOn : GoesOnBehind packet method path

section Repetition

variable {route : Route} {method path : FlashString} {server : HTTPServer} {ether : EtherSia}

theorem three_le_method (route : Route) : 3 ≤ route.method.length := by
  cases route with
  | isGet path => exact (by decide : 3 ≤ methodGet.length)
  | isPost path => exact (by decide : 3 ≤ methodPost.length)
  | isPut path => exact (by decide : 3 ≤ methodPut.length)
  | isDelete path => exact (by decide : 3 ≤ methodDelete.length)

/-- The flag behind the buffer is the only difference. -/
theorem checkStored_parts (route : Route) (randomNumber : UInt32) (server : HTTPServer)
    (ether : EtherSia) :
    (checkStored route randomNumber server ether).1 =
        (route.check randomNumber server ether).1 ∧
      (checkStored route randomNumber server ether).2.1 =
        (route.check randomNumber server ether).2.1 ∧
      (checkStored route randomNumber server ether).2.2.buffer =
        (route.check randomNumber server ether).2.2.buffer := by
  unfold checkStored
  dsimp only
  split
  · exact ⟨rfl, rfl, rfl⟩
  · exact ⟨rfl, rfl, rfl⟩

/-- The server that a check leaves if it is true. -/
def checkedServer (server : HTTPServer) (packet : Memory) (method : FlashString) :
    HTTPServer :=
  { server.serving with
    pathPtr := some (targetStart packet method)
    bodyPtr := bodyOf packet method }

/-- The body ends where the buffer does. -/
def FillsBuffer (packet : Memory) (method : FlashString) : Prop :=
  (bodyOf packet method).isSome = true ∧
    TCPServer.payload packet + (TCPServer.payloadLength packet).toNat =
      ETHERSIA_MAX_PACKET_SIZE

instance (packet : Memory) (method : FlashString) : Decidable (FillsBuffer packet method) :=
  inferInstanceAs (Decidable (_ ∧ _))

/-- The interface that a check leaves if it is true. -/
def checkedEther (ether : EtherSia) (method path : FlashString) : EtherSia :=
  { opened ether with
    buffer := checkedPacket (opened ether).buffer method path
    bufferContainsReceived :=
      if FillsBuffer (opened ether).buffer method then false
      else ether.bufferContainsReceived }

/-- A check that is true has found its method and its path. -/
theorem check_taken {randomNumber : UInt32}
    (taken : (route.check randomNumber server ether).1 = true) :
    TCPServer.HasData server.socket ether ∧ HasMethod (opened ether).buffer route.method ∧
      PathTaken (opened ether).buffer route.method route.path ∧
      route.check randomNumber server ether =
        answer route.method route.path server.serving (opened ether) := by
  rw [Route.check_eq] at taken ⊢
  by_cases hasData : TCPServer.HasData server.socket ether
  · rw [checkRequest_of_hasData hasData] at taken ⊢
    obtain ⟨hasMethod, notRefused⟩ := answer_eq_true_iff.mp taken
    exact ⟨hasData, hasMethod, pathTaken_iff.mpr notRefused, rfl⟩
  · rw [checkRequest_of_not_hasData hasData] at taken
    cases taken

theorem checkStored_of_taken {randomNumber : UInt32}
    (taken : (route.check randomNumber server ether).1 = true) :
    checkStored route randomNumber server ether =
      (true, checkedServer server (opened ether).buffer route.method,
        checkedEther ether route.method route.path) := by
  obtain ⟨-, hasMethod, pathTaken, answered⟩ := check_taken taken
  rw [answer_of_taken hasMethod (pathTaken_iff.mp pathTaken)] at answered
  unfold checkStored checkedEther
  rw [answered, ← opened_payload ether, ← opened_payloadLength ether]
  dsimp only
  by_cases fills : FillsBuffer (opened ether).buffer route.method
  · rw [if_pos fills, if_pos ⟨rfl, fills⟩]
    rfl
  · rw [if_neg fills, if_neg fun parts => fills parts.2]
    rfl

theorem opened_flags (ether : EtherSia) : (opened ether).buffer 67 = 0 := by
  have cleared : (opened ether).buffer = store ether.buffer 67 [0] := rfl
  rw [cleared, u8_store_self]

/-- The flags are cleared already. -/
theorem opened_checkedEther (short : method.length < 65535) :
    opened (checkedEther ether method path) = checkedEther ether method path := by
  have zero : checkedPacket (opened ether).buffer method path 67 = 0 := by
    by_cases isNul : NulAt (opened ether).buffer method path 67
    · exact checkedPacket_of_nulAt short isNul
    · rw [checkedPacket_of_not_nulAt short isNul, opened_flags]
  unfold opened EtherSia.modifyPacket
  unfold checkedEther
  dsimp only
  congr 1
  exact store_of_spells (spells_singleton.mpr zero)

theorem hasData_checked (long : 3 ≤ method.length) (short : method.length < 65535)
    (hasData : TCPServer.HasData server.socket ether)
    (kept : ¬ FillsBuffer (opened ether).buffer method)
    (same : SameHeader (opened ether).buffer
      (checkedPacket (opened ether).buffer method path)) :
    TCPServer.HasData (checkedServer server (opened ether).buffer method).socket
      (checkedEther ether method path) := by
  have before : TCPServer.HasData
      (checkedServer server (opened ether).buffer method).socket (opened ether) :=
    hasData_opened hasData rfl
  have behind := @targetStart_ge (opened ether).buffer method long
  have agree : Agree (checkedEther ether method path).buffer (opened ether).buffer 0 58 :=
    (checkedPacket_agree short).mono (Nat.zero_le _) behind
  have flags : TCPHeader.flags (checkedEther ether method path).buffer = 0 := by
    have cleared := opened_flags (checkedEther ether method path)
    rwa [opened_checkedEther short] at cleared
  refine ⟨?_, ?_, ?_, ?_, ?_, ?_, ?_⟩
  · unfold checkedEther
    dsimp only
    rw [if_neg kept]
    exact hasData.received
  · exact (agree 20 (by decide) (by decide)).trans before.isTcp
  · exact (agree.u16At_eq (by decide) (by decide)).trans before.ourPort
  · rw [flags]
    rfl
  · rw [flags]
    rfl
  · rw [flags]
    rfl
  · have data := before.data
    rwa [← same.length] at data

/-- The second check, if there is still a packet for it. -/
theorem check_again {again : UInt32} (short : route.method.length < 65535)
    (hasData : TCPServer.HasData
      (checkedServer server (opened ether).buffer route.method).socket
      (checkedEther ether route.method route.path)) :
    route.check again (checkedServer server (opened ether).buffer route.method)
        (checkedEther ether route.method route.path) =
      answer route.method route.path
        (checkedServer server (opened ether).buffer route.method).serving
        (checkedEther ether route.method route.path) := by
  rw [Route.check_eq, checkRequest_of_hasData hasData, opened_checkedEther short]

theorem fillsBuffer_iff {packet : Memory} (short : method.length < 65535) :
    FillsBuffer packet method ↔ HasEmptyLine packet method ∧
      TCPServer.payload packet + (TCPServer.payloadLength packet).toNat =
        ETHERSIA_MAX_PACKET_SIZE := by
  unfold FillsBuffer
  rw [bodyOf_isSome_iff short]

/-- The second check finds the path where the first one did, so the data offset is kept. -/
theorem receiveHeaderLen_of_sameStart {packet : Memory} (short : method.length < 65535)
    (same : targetStart (checkedPacket packet method path) method = targetStart packet method)
    (isNul : NulAt packet method path 66) : TCPHeader.receiveHeaderLen packet = 0 := by
  by_contra stated
  refine payload_moves short isNul stated ?_
  unfold targetStart at same
  exact Nat.add_right_cancel (Nat.add_right_cancel same)

/-- What the second check needs, if it is true and leaves the same path. -/
theorem repeatable_of_checkedAgain {again : UInt32}
    (pathTaken : PathTaken (opened ether).buffer route.method route.path)
    (isMatch : (route.check again (checkedServer server (opened ether).buffer route.method)
      (checkedEther ether route.method route.path)).1 = true)
    (samePath : (route.check again (checkedServer server (opened ether).buffer route.method)
        (checkedEther ether route.method route.path)).2.1.pathPtr =
      some (targetStart (opened ether).buffer route.method)) :
    Repeatable (opened ether).buffer route.method route.path := by
  have short := (isToken_method route).short
  have long := three_le_method route
  obtain ⟨dataAgain, methodAgain, takenAgain, answered⟩ := check_taken isMatch
  rw [opened_checkedEther short] at methodAgain takenAgain answered
  rw [answer_of_taken methodAgain (pathTaken_iff.mp takenAgain)] at answered
  rw [answered] at samePath
  have offsetKept : NulAt (opened ether).buffer route.method route.path 66 →
      TCPHeader.receiveHeaderLen (opened ether).buffer = 0 :=
    receiveHeaderLen_of_sameStart short (Option.some.inj samePath)
  have same := sameHeader_checked long short offsetKept
  refine ⟨fun hasBody fills => ?_, offsetKept, ?_⟩
  · have received := dataAgain.received
    unfold checkedEther at received
    dsimp only at received
    rw [if_pos ((fillsBuffer_iff short).mpr ⟨hasBody, fills⟩)] at received
    cases received
  · exact (pathTaken_checked_iff short same pathTaken).mp takenAgain

/-- What the second check does, if it finds the packet as it was but for the NULs. -/
theorem checkedAgain_of_repeatable {again : UInt32}
    (hasData : TCPServer.HasData server.socket ether)
    (hasMethod : HasMethod (opened ether).buffer route.method)
    (pathTaken : PathTaken (opened ether).buffer route.method route.path)
    (repeatable : Repeatable (opened ether).buffer route.method route.path) :
    Repeats
      (true, checkedServer server (opened ether).buffer route.method,
        checkedEther ether route.method route.path)
      (route.check again (checkedServer server (opened ether).buffer route.method)
        (checkedEther ether route.method route.path)) := by
  have short := (isToken_method route).short
  have long := three_le_method route
  have same := sameHeader_checked long short repeatable.offsetKept
  have kept : ¬ FillsBuffer (opened ether).buffer route.method := by
    intro fills
    obtain ⟨hasBody, isEnd⟩ := (fillsBuffer_iff short).mp fills
    exact repeatable.receivedKept hasBody isEnd
  have methodAgain : HasMethod (checkedEther ether route.method route.path).buffer
      route.method := hasMethod_checked short same hasMethod
  have takenAgain : PathTaken (checkedEther ether route.method route.path).buffer
      route.method route.path :=
    (pathTaken_checked_iff short same pathTaken).mpr repeatable.goesOn
  rw [check_again short (hasData_checked long short hasData kept same),
    answer_of_taken methodAgain (pathTaken_iff.mp takenAgain)]
  have behind := @targetStart_ge (checkedEther ether route.method route.path).buffer
    route.method long
  have agree := @checkedPacket_agree (checkedEther ether route.method route.path).buffer
    route.method route.path short
  have total : IPv6Packet.payloadLength (checkedPacket
      (checkedEther ether route.method route.path).buffer route.method route.path) =
        IPv6Packet.payloadLength (checkedEther ether route.method route.path).buffer :=
    agree.u16At_eq (by decide) (by omega)
  have sameBody : bodyOf (checkedEther ether route.method route.path).buffer route.method =
      bodyOf (opened ether).buffer route.method := bodyOf_checked same
  refine ⟨rfl, congrArg some same.targetStart, sameBody, ?_⟩
  refine (bodyLength_congr total).trans ?_
  unfold bodyLength
  dsimp only
  rw [sameBody]
  rfl

end Repetition

end HTTPServer

namespace Route

open HTTPServer

/-- A check that was true is true again, with the same path and body, exactly if it finds
the packet as it was but for the NULs, and the request goes on behind its path as the flash
behind the pattern does. -/
theorem check_repeats_iff {route : Route} {randomNumber again : UInt32} {server : HTTPServer}
    {ether : EtherSia} (taken : (checkStored route randomNumber server ether).1 = true) :
    Repeats (checkStored route randomNumber server ether)
        (checkStored route again (checkStored route randomNumber server ether).2.1
          (checkStored route randomNumber server ether).2.2) ↔
      Repeatable (opened ether).buffer route.method route.path := by
  have checked : (route.check randomNumber server ether).1 = true :=
    (checkStored_parts route randomNumber server ether).1.symm.trans taken
  obtain ⟨hasData, hasMethod, pathTaken, -⟩ := check_taken checked
  rw [checkStored_of_taken checked]
  dsimp only
  obtain ⟨isMatch, isServer, isBuffer⟩ := checkStored_parts route again
    (checkedServer server (opened ether).buffer route.method)
    (checkedEther ether route.method route.path)
  constructor
  · intro repeats
    exact repeatable_of_checkedAgain pathTaken (isMatch.symm.trans repeats.isMatch)
      ((congrArg HTTPServer.pathPtr isServer.symm).trans repeats.path)
  · intro repeatable
    have repeats := @checkedAgain_of_repeatable route server ether again hasData hasMethod
      pathTaken repeatable
    refine ⟨isMatch.trans repeats.isMatch, ?_, ?_, ?_⟩
    · rw [isServer]
      exact repeats.path
    · rw [isServer]
      exact repeats.body
    · rw [isBuffer, isServer]
      exact repeats.bodyLength

/-- A request that is cut short within the path is found again. -/
theorem check_repeats_cut :
    let first := checkStored (.isGet examplePath) 0 exampleServer cutRequestReceived
    Repeats first (checkStored (.isGet examplePath) 0 first.2.1 first.2.2) ↔
      Repeatable (opened cutRequestReceived).buffer methodGet examplePath := by
  intro first
  exact @check_repeats_iff (.isGet examplePath) 0 0 exampleServer cutRequestReceived
    (by decide +kernel)

/-- `"/"`. -/
def rootPath : FlashString :=
  .of [0x2f] (by simp) (by simp)

/-- `GET /` is found once. -/
theorem check_is_not_repeated :
    ¬∀ (frame : Frame) (ether : EtherSia) (server : HTTPServer) (route : Route)
        (randomNumber again : UInt32), ether.Accepts frame →
      (checkStored route randomNumber server (ether.accepted frame)).1 = true →
        Repeats (checkStored route randomNumber server (ether.accepted frame))
          (checkStored route again
            (checkStored route randomNumber server (ether.accepted frame)).2.1
            (checkStored route randomNumber server (ether.accepted frame)).2.2) := by
  intro always
  have repeats := always rootRequest exampleStation.ether exampleServer (.isGet rootPath) 0 0
    ⟨by decide, by decide +kernel⟩ (by decide +kernel)
  exact absurd repeats.isMatch (by decide +kernel)

end Route

end EtherSiaStack
