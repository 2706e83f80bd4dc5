/-
Requests of the HTTP server.

`checkRequest` compares the payload with a method and a path that are strings in
flash.  The comparison of the path counts in a `uint8_t` up to the length of the
request, as a `uint8_t`, and a path that has not been refused by then is taken.
-/

import EtherSiaStack.ExposedPayload
import EtherSiaStack.Library.Spelling

namespace EtherSiaStack

open ByteMemory

/-- A string in flash: `pgm_read_byte` at each offset, and what `strlen_P` gives. -/
structure FlashString where
  read : Memory
  length : Nat
  short : length < 65536
  terminated : read length = 0
  noNul : ∀ index < length, read index ≠ 0

def FlashString.bytes (string : FlashString) : List UInt8 :=
  bytesAt string.read 0 string.length

/-- No character stands for others. -/
def FlashString.Plain (string : FlashString) : Prop :=
  ∀ index < string.length, string.read index ≠ 0x3F ∧ string.read index ≠ 0x23

theorem FlashString.bytes_length (string : FlashString) :
    string.bytes.length = string.length :=
  bytesAt_length _ _ _

theorem FlashString.spells_bytes_iff {string : FlashString} {packet : Memory}
    {address : Nat} :
    Spells packet address string.bytes ↔
      ∀ index < string.length, packet (address + index) = string.read index := by
  rw [spells_iff_getElem]
  constructor
  · intro reads index inside
    have same := reads index (by rw [FlashString.bytes_length]; exact inside)
    rw [same]
    exact (bytesAt_getElem _ _ _ _ _).trans (congrArg string.read (Nat.zero_add index))
  · intro reads index inside
    have short : index < string.length := by
      rw [FlashString.bytes_length] at inside
      exact inside
    rw [reads index short]
    exact ((bytesAt_getElem _ _ _ _ _).trans
      (congrArg string.read (Nat.zero_add index))).symm

/-- The string of these characters, up to the end of the flash. -/
def FlashString.of (bytes : List UInt8) (short : bytes.length < 65536)
    (noNul : ∀ byte ∈ bytes, byte ≠ 0) : FlashString where
  read := store (fun _ => 0) 0 bytes
  length := bytes.length
  short := short
  terminated := store_after _ bytes (Nat.le_of_eq (Nat.zero_add _))
  noNul := fun index inside => by
    have stored := store_inside (fun _ => 0) 0 bytes index inside
    rw [Nat.zero_add] at stored
    rw [stored]
    exact noNul _ (List.getElem_mem inside)

structure HTTPServer where
  socket : Socket
  pathPtr : Option Nat
  bodyPtr : Option Nat

namespace HTTPServer

/-! ### checkRequest -/

/-- A blank: `' '` or `'\t'`. -/
def isWhitespace (byte : UInt8) : Bool :=
  byte = 0x20 ∨ byte = 0x09

/-- The path of a request ends at a blank or a `'?'`. -/
def endsPath (byte : UInt8) : Bool :=
  isWhitespace byte ∨ byte = 0x3F

/-- How the loop over the path is left. -/
inductive PathMatch
  | refused
  | bothEnded (index : Nat)
  | usedUp
  deriving DecidableEq, Repr

/-- The loop over the path, with the number of turns that remain. -/
def matchPath (packet : Memory) (pathPtr : Nat) (path : FlashString) :
    Nat → Nat → Bool → PathMatch
  | 0, _, _ => .usedUp
  | remaining + 1, index, allowAny =>
      let match_ := path.read index
      if endsPath (packet (pathPtr + index)) then
        if match_ = 0 then .bothEnded index else .refused
      else
        let allowAny := allowAny || match_ = 0x23
        if match_ = 0x3F ∨ allowAny = true then
          matchPath packet pathPtr path remaining (index + 1) allowAny
        else if packet (pathPtr + index) ≠ match_ then .refused
        else matchPath packet pathPtr path remaining (index + 1) allowAny

/-- `length - endOfMethod - 1`, as a `uint8_t`. -/
def maxlen (length endOfMethod : UInt16) : UInt8 :=
  (length - endOfMethod - 1).toUInt8

/-- The loop that looks for the empty line; the body starts behind it. -/
def findBody (packet : Memory) (payload : Nat) (first length : UInt16) : Option Nat :=
  ((List.range' first.toNat (length.toNat - 1 - first.toNat)).find? fun pos =>
    packet (payload + pos) = 0x0A ∧
      (packet (payload + pos - 2) = 0x0A ∨ packet (payload + pos - 1) = 0x0A)).map
    fun pos => payload + pos + 1

/-- The part behind the comparison: the body is found and ended with a NUL. -/
def locateBody (payload : Nat) (first length : UInt16) (server : HTTPServer)
    (ether : EtherSia) : HTTPServer × EtherSia :=
  let bodyPtr := findBody ether.buffer payload first length
  let ether :=
    if bodyPtr.isSome then
      ether.modifyPacket fun packet => store packet (payload + length.toNat) [0]
    else ether
  ({ server with bodyPtr := bodyPtr }, ether)

/-- `randomNumber` is for the reply `havePacket` may send. -/
def checkRequest (method path : FlashString) (randomNumber : UInt32)
    (server : HTTPServer) (ether : EtherSia) : Bool × HTTPServer × EtherSia :=
  let payload := TCPServer.payload ether.buffer
  let length := TCPServer.payloadLength ether.buffer
  let (isRequest, socket, ether) :=
    TCPServer.havePacket server.socket randomNumber ether
  let server := { server with socket := socket }
  let endOfMethod := UInt16.ofNat method.length
  let pathPtr := payload + endOfMethod.toNat + 1
  if isRequest = false then (false, server, ether)
  else if bytesAt ether.buffer payload endOfMethod.toNat ≠
      bytesAt method.read 0 endOfMethod.toNat then
    (false, server, ether)
  else if ether.buffer (payload + endOfMethod.toNat) ≠ 0x20 then (false, server, ether)
  else
    let server := { server with pathPtr := some pathPtr }
    match matchPath ether.buffer pathPtr path (maxlen length endOfMethod).toNat 0 false with
    | .refused => (false, server, ether)
    | .bothEnded index =>
        let ether := ether.modifyPacket fun packet => store packet (pathPtr + index) [0]
        (true, locateBody payload (endOfMethod + 1) length server ether)
    | .usedUp => (true, locateBody payload (endOfMethod + 1) length server ether)

/-! ### The comparison -/

section Comparison

variable {packet : Memory} {pathPtr : Nat} {path : FlashString}

/-- The request goes on at this place as the path does. -/
def Agrees (packet : Memory) (pathPtr : Nat) (path : FlashString) (index : Nat) : Prop :=
  endsPath (packet (pathPtr + index)) = false ∧
    (path.read index = 0x3F ∨ (∃ before ≤ index, path.read before = 0x23) ∨
      packet (pathPtr + index) = path.read index)

/-- The request's path and the string end at this place. -/
def BothEnd (packet : Memory) (pathPtr : Nat) (path : FlashString) (index : Nat) : Prop :=
  endsPath (packet (pathPtr + index)) = true ∧ path.read index = 0

/-- What the way the loop is left says about the places from `first` on. -/
def Compared (packet : Memory) (pathPtr : Nat) (path : FlashString) (first last : Nat) :
    PathMatch → Prop
  | .refused => ∃ stop, first ≤ stop ∧ stop < last ∧
      (∀ index, first ≤ index → index < stop → Agrees packet pathPtr path index) ∧
        ¬ Agrees packet pathPtr path stop ∧ ¬ BothEnd packet pathPtr path stop
  | .bothEnded stop => first ≤ stop ∧ stop < last ∧
      (∀ index, first ≤ index → index < stop → Agrees packet pathPtr path index) ∧
        BothEnd packet pathPtr path stop
  | .usedUp => ∀ index, first ≤ index → index < last → Agrees packet pathPtr path index

theorem Compared.of_agrees {first last : Nat} {left : PathMatch}
    (agrees : Agrees packet pathPtr path first)
    (compared : Compared packet pathPtr path (first + 1) last left) :
    Compared packet pathPtr path first last left := by
  have extend : ∀ stop, (∀ index, first + 1 ≤ index → index < stop →
      Agrees packet pathPtr path index) →
      ∀ index, first ≤ index → index < stop → Agrees packet pathPtr path index := by
    intro stop later index lower upper
    rcases Nat.eq_or_lt_of_le lower with rfl | behind
    · exact agrees
    · exact later index behind upper
  cases left with
  | refused =>
      obtain ⟨stop, lower, upper, later, parts⟩ := compared
      exact ⟨stop, by omega, upper, extend stop later, parts⟩
  | bothEnded stop =>
      obtain ⟨lower, upper, later, ends⟩ := compared
      exact ⟨by omega, upper, extend stop later, ends⟩
  | usedUp => exact extend last compared

/-- The flag of the next turn stands for one place more. -/
theorem allowAny_next {first : Nat} {allowAny : Bool}
    (allows : allowAny = true ↔ ∃ before < first, path.read before = 0x23) :
    (allowAny || decide (path.read first = 0x23)) = true ↔
      ∃ before < first + 1, path.read before = 0x23 := by
  rw [Bool.or_eq_true, allows, decide_eq_true_iff]
  constructor
  · rintro (⟨before, isBefore, isAny⟩ | isAny)
    · exact ⟨before, by omega, isAny⟩
    · exact ⟨first, by omega, isAny⟩
  · rintro ⟨before, isBefore, isAny⟩
    rcases Nat.eq_or_lt_of_le (Nat.le_of_lt_succ isBefore) with rfl | earlier
    · exact Or.inr isAny
    · exact Or.inl ⟨before, earlier, isAny⟩

/-- Where the path of the request goes on, the tests of a turn are those of `Agrees`. -/
theorem agrees_iff_turn {first : Nat} {allowAny : Bool}
    (allows : allowAny = true ↔ ∃ before < first, path.read before = 0x23)
    (goesOn : endsPath (packet (pathPtr + first)) = false) :
    Agrees packet pathPtr path first ↔
      (path.read first = 0x3F ∨
        (allowAny || decide (path.read first = 0x23)) = true) ∨
          packet (pathPtr + first) = path.read first := by
  unfold Agrees
  rw [and_iff_right goesOn, allowAny_next allows, or_assoc]
  simp only [Nat.lt_succ_iff]

theorem not_agrees_of_endsPath {first : Nat}
    (ends : endsPath (packet (pathPtr + first)) = true) :
    ¬ Agrees packet pathPtr path first := by
  intro agrees
  rw [agrees.1] at ends
  cases ends

theorem matchPath_compared (remaining first : Nat) (allowAny : Bool)
    (allows : allowAny = true ↔ ∃ before < first, path.read before = 0x23) :
    Compared packet pathPtr path first (first + remaining)
      (matchPath packet pathPtr path remaining first allowAny) := by
  induction remaining generalizing first allowAny with
  | zero =>
      intro index lower upper
      omega
  | succ remaining ih =>
      have last : first + 1 + remaining = first + (remaining + 1) := by omega
      have ihNext := ih (first + 1) _ (allowAny_next allows)
      rw [last] at ihNext
      have inside : first < first + (remaining + 1) := by omega
      have noneBefore : ∀ index, first ≤ index → index < first →
          Agrees packet pathPtr path index := by
        intro index lower upper
        omega
      rw [matchPath]
      dsimp only
      by_cases ends : endsPath (packet (pathPtr + first)) = true
      · rw [if_pos ends]
        split
        · rename_i isNul
          exact ⟨Nat.le_refl _, inside, noneBefore, ends, isNul⟩
        · rename_i goesOn
          exact ⟨first, Nat.le_refl _, inside, noneBefore, not_agrees_of_endsPath ends,
            fun both => goesOn both.2⟩
      · rw [if_neg ends]
        have turn := agrees_iff_turn allows (Bool.eq_false_iff.mpr ends)
        split
        · rename_i wild
          exact Compared.of_agrees (turn.mpr (Or.inl wild)) ihNext
        · rename_i plain
          split
          · rename_i differs
            refine ⟨first, Nat.le_refl _, inside, noneBefore, ?_, fun both => ends both.1⟩
            exact fun agrees => (turn.mp agrees).elim plain differs
          · rename_i same
            exact Compared.of_agrees (turn.mpr (Or.inr (not_not.mp same))) ihNext

end Comparison

/-! ### What a match says about the payload -/

section Payload

variable (packet : Memory) (method path : FlashString)

/-- Where the path of the request starts. -/
def targetStart : Nat :=
  TCPServer.payload packet + method.length + 1

/-- How many bytes of it are compared. -/
def comparedBytes : Nat :=
  (maxlen (TCPServer.payloadLength packet) (UInt16.ofNat method.length)).toNat

/-- Where the payload starts, the buffer has the method and a space. -/
def HasMethod : Prop :=
  Spells packet (TCPServer.payload packet) (method.bytes ++ [0x20])

/-- The payload begins with the method, a space, the path and a blank or a `'?'`. -/
def Begins : Prop :=
  ∃ last, endsPath last = true ∧
    method.bytes ++ [0x20] ++ (path.bytes ++ [last]) <+:
      bytesAt packet (TCPServer.payload packet) (TCPServer.payloadLength packet).toNat

/-- The request goes on as the path does, as far as it is compared; behind that, its bytes
are those of the path. -/
def GoesOn (index : Nat) : Prop :=
  Agrees packet (targetStart packet method) path index ∨
    comparedBytes packet method ≤ index ∧ index < path.length ∧
      packet (targetStart packet method + index) = path.read index

/-- Where the request parts from the path: both end there, the path with its last byte and
the request inside the payload, or the place is one of those compared. -/
def PartsInTime : Prop :=
  ∃ stop, (∀ index < stop, GoesOn packet method path index) ∧
    ¬ GoesOn packet method path stop ∧
      (BothEnd packet (targetStart packet method) path stop → stop = path.length ∧
        method.length + 1 + stop < (TCPServer.payloadLength packet).toNat) ∧
      (¬ BothEnd packet (targetStart packet method) path stop →
        stop < comparedBytes packet method)

end Payload

theorem begins_iff {packet : Memory} {method path : FlashString} :
    Begins packet method path ↔ HasMethod packet method ∧
      (∀ index < path.length,
        packet (targetStart packet method + index) = path.read index) ∧
      endsPath (packet (targetStart packet method + path.length)) = true ∧
        method.length + 1 + path.length < (TCPServer.payloadLength packet).toNat := by
  have methodLength := FlashString.bytes_length method
  have pathLength := FlashString.bytes_length path
  have start : TCPServer.payload packet + (method.bytes ++ [0x20]).length =
      targetStart packet method := by
    rw [List.length_append, methodLength, List.length_singleton]
    exact (Nat.add_assoc _ _ _).symm
  have total : ∀ last : UInt8,
      (method.bytes ++ [0x20] ++ (path.bytes ++ [last])).length =
        method.length + 1 + path.length + 1 := by
    intro last
    simp only [List.length_append, List.length_singleton, methodLength, pathLength]
    omega
  have split : ∀ last : UInt8,
      Spells packet (TCPServer.payload packet)
          (method.bytes ++ [0x20] ++ (path.bytes ++ [last])) ↔
        HasMethod packet method ∧
          Spells packet (targetStart packet method) (path.bytes ++ [last]) := by
    intro last
    rw [spells_append, start]
    exact Iff.rfl
  have target : ∀ last : UInt8,
      Spells packet (targetStart packet method) (path.bytes ++ [last]) ↔
        (∀ index < path.length,
            packet (targetStart packet method + index) = path.read index) ∧
          packet (targetStart packet method + path.length) = last := by
    intro last
    rw [spells_append, FlashString.spells_bytes_iff, spells_singleton, pathLength]
  constructor
  · rintro ⟨last, ends, begins⟩
    rw [prefix_bytesAt_iff, split, target, total] at begins
    obtain ⟨⟨hasMethod, same, isLast⟩, inside⟩ := begins
    rw [← isLast] at ends
    exact ⟨hasMethod, same, ends, inside⟩
  · rintro ⟨hasMethod, same, ends, inside⟩
    refine ⟨_, ends, ?_⟩
    rw [prefix_bytesAt_iff, split, target, total]
    exact ⟨⟨hasMethod, same, rfl⟩, inside⟩

/-! ### When a match is one -/

section Sound

variable {packet : Memory} {method path : FlashString}

/-- What `checkRequest` finds for a request that has the method. -/
def pathMatch (packet : Memory) (method path : FlashString) : PathMatch :=
  matchPath packet (targetStart packet method) path (comparedBytes packet method) 0 false

theorem pathMatch_compared (packet : Memory) (method path : FlashString) :
    Compared packet (targetStart packet method) path 0 (comparedBytes packet method)
      (pathMatch packet method path) := by
  have compared : Compared packet (targetStart packet method) path 0
      (0 + comparedBytes packet method) (pathMatch packet method path) := by
    apply matchPath_compared
    constructor
    · intro never
      cases never
    · rintro ⟨before, isBefore, _⟩
      exact absurd isBefore (Nat.not_lt_zero before)
  rw [Nat.zero_add] at compared
  exact compared

theorem Agrees.same_of_plain {pathPtr index : Nat} (plain : path.Plain)
    (inside : index < path.length) (agrees : Agrees packet pathPtr path index) :
    packet (pathPtr + index) = path.read index := by
  obtain ⟨_, single | ⟨before, isBefore, any⟩ | same⟩ := agrees
  · exact absurd single (plain index inside).1
  · exact absurd any (plain before (by omega)).2
  · exact same

theorem GoesOn.same_of_plain {index : Nat} (plain : path.Plain)
    (inside : index < path.length) (goesOn : GoesOn packet method path index) :
    packet (targetStart packet method + index) = path.read index := by
  rcases goesOn with agrees | ⟨_, _, same⟩
  · exact agrees.same_of_plain plain inside
  · exact same

theorem GoesOn.agrees {index : Nat} (compared : index < comparedBytes packet method)
    (goesOn : GoesOn packet method path index) :
    Agrees packet (targetStart packet method) path index := by
  rcases goesOn with agrees | ⟨behind, _⟩
  · exact agrees
  · omega

theorem BothEnd.not_agrees {pathPtr index : Nat}
    (bothEnd : BothEnd packet pathPtr path index) :
    ¬ Agrees packet pathPtr path index :=
  not_agrees_of_endsPath bothEnd.1

/-- The string ends at its length, and nowhere before. -/
theorem FlashString.le_of_read_eq_zero {index : Nat} (isNul : path.read index = 0) :
    path.length ≤ index := by
  by_contra inside
  exact path.noNul index (by omega) isNul

/-- Where the loop has not refused the path, the first place that does not agree is the
end of both. -/
theorem bothEnd_of_not_refused {stop : Nat}
    (taken : pathMatch packet method path ≠ .refused)
    (inside : stop < comparedBytes packet method)
    (before : ∀ index < stop, Agrees packet (targetStart packet method) path index)
    (parts : ¬ Agrees packet (targetStart packet method) path stop) :
    BothEnd packet (targetStart packet method) path stop := by
  have compared := pathMatch_compared packet method path
  cases left : pathMatch packet method path with
  | refused => exact absurd left taken
  | bothEnded last =>
      rw [left] at compared
      obtain ⟨_, _, earlier, ends⟩ := compared
      rcases Nat.lt_trichotomy stop last with isBefore | same | isBehind
      · exact absurd (earlier stop (Nat.zero_le _) isBefore) parts
      · rw [same]
        exact ends
      · exact absurd (before last isBehind) ends.not_agrees
  | usedUp =>
      rw [left] at compared
      exact absurd (compared stop (Nat.zero_le _) inside) parts

/-- A path that is spelled in the request is one the request goes on with. -/
theorem goesOn_of_spelled (taken : pathMatch packet method path ≠ .refused)
    (same : ∀ index < path.length,
      packet (targetStart packet method + index) = path.read index) :
    ∀ index < path.length, GoesOn packet method path index := by
  intro index inside
  have compared := pathMatch_compared packet method path
  cases left : pathMatch packet method path with
  | refused => exact absurd left taken
  | bothEnded last =>
      rw [left] at compared
      obtain ⟨_, _, earlier, bothEnd⟩ := compared
      have behind := FlashString.le_of_read_eq_zero bothEnd.2
      exact Or.inl (earlier index (Nat.zero_le _) (by omega))
  | usedUp =>
      rw [left] at compared
      by_cases early : index < comparedBytes packet method
      · exact Or.inl (compared index (Nat.zero_le _) early)
      · exact Or.inr ⟨by omega, inside, same index inside⟩

/-- If the loop has not refused the path, the payload begins with it exactly when the
request parts from the path in time. -/
theorem begins_iff_partsInTime (plain : path.Plain) (hasMethod : HasMethod packet method)
    (taken : pathMatch packet method path ≠ .refused) :
    Begins packet method path ↔ PartsInTime packet method path := by
  rw [begins_iff, and_iff_right hasMethod]
  constructor
  · rintro ⟨same, ends, inside⟩
    refine ⟨path.length, goesOn_of_spelled taken same, ?_, fun _ => ⟨rfl, inside⟩, ?_⟩
    · rintro (⟨goesOn, _⟩ | ⟨_, more, _⟩)
      · rw [goesOn] at ends
        cases ends
      · exact absurd more (Nat.lt_irrefl _)
    · exact fun notBoth => absurd ⟨ends, path.terminated⟩ notBoth
  · rintro ⟨stop, before, parts, bothEnds, early⟩
    have bothEnd : BothEnd packet (targetStart packet method) path stop := by
      by_cases inside : stop < comparedBytes packet method
      · refine bothEnd_of_not_refused taken inside (fun index isBefore => ?_) ?_
        · exact (before index isBefore).agrees (by omega)
        · exact fun agrees => parts (Or.inl agrees)
      · by_contra notBoth
        exact inside (early notBoth)
    obtain ⟨rfl, inside⟩ := bothEnds bothEnd
    refine ⟨fun index isBefore => ?_, bothEnd.1, inside⟩
    exact (before index isBefore).same_of_plain plain isBefore

/-- A path that is refused parts from the request in time. -/
theorem partsInTime_of_refused (refused : pathMatch packet method path = .refused) :
    PartsInTime packet method path := by
  have compared := pathMatch_compared packet method path
  rw [refused] at compared
  obtain ⟨stop, _, inside, before, parts, notBoth⟩ := compared
  refine ⟨stop, fun index isBefore => Or.inl (before index (Nat.zero_le _) isBefore), ?_,
    fun bothEnd => absurd bothEnd notBoth, fun _ => inside⟩
  exact fun goesOn => parts (goesOn.agrees inside)

end Sound

theorem payload_setFlags (packet : Memory) (flags : UInt8) :
    TCPServer.payload (TCPHeader.setFlags packet flags) = TCPServer.payload packet := by
  simp [TCPServer.payload, TCPHeader.receiveHeaderLen]

theorem payloadLength_setFlags (packet : Memory) (flags : UInt8) :
    TCPServer.payloadLength (TCPHeader.setFlags packet flags) =
      TCPServer.payloadLength packet := by
  simp [TCPServer.payloadLength, TCPHeader.receiveHeaderLen]

theorem hasMethod_iff {packet : Memory} {method : FlashString} :
    HasMethod packet method ↔
      bytesAt packet (TCPServer.payload packet) method.length = method.bytes ∧
        packet (TCPServer.payload packet + method.length) = 0x20 := by
  unfold HasMethod
  rw [spells_append, spells_singleton, FlashString.bytes_length]
  unfold Spells
  rw [FlashString.bytes_length]

/-- The packet `havePacket` reports. -/
def request (randomNumber : UInt32) (server : HTTPServer) (ether : EtherSia) : Memory :=
  (TCPServer.havePacket server.socket randomNumber ether).2.2.buffer

theorem checkRequest_iff {method path : FlashString} {randomNumber : UInt32}
    {server : HTTPServer} {ether : EtherSia}
    (accepted : (TCPServer.havePacket server.socket randomNumber ether).1 = true) :
    (checkRequest method path randomNumber server ether).1 = true ↔
      HasMethod (request randomNumber server ether) method ∧
        pathMatch (request randomNumber server ether) method path ≠ .refused := by
  have hasData := (TCPServer.havePacket_eq_true_iff _ _ _).mp accepted
  have length : (UInt16.ofNat method.length).toNat = method.length :=
    UInt16.toNat_ofNat_of_lt' method.short
  have spelled : bytesAt method.read 0 method.length = method.bytes := rfl
  have isPayload := payload_setFlags ether.buffer 0
  have isLength := payloadLength_setFlags ether.buffer 0
  rw [hasMethod_iff]
  unfold request pathMatch targetStart comparedBytes checkRequest
  dsimp only
  rw [TCPServer.havePacket_of_hasData hasData randomNumber]
  unfold EtherSia.modifyPacket
  dsimp only
  rw [isPayload, isLength, length, spelled, if_neg (by decide)]
  by_cases isMethod : bytesAt (TCPHeader.setFlags ether.buffer 0)
      (TCPServer.payload ether.buffer) method.length = method.bytes
  · rw [if_neg (not_not.mpr isMethod), and_iff_right isMethod]
    by_cases isSpace : TCPHeader.setFlags ether.buffer 0
        (TCPServer.payload ether.buffer + method.length) = 0x20
    · rw [if_neg (not_not.mpr isSpace), and_iff_right isSpace]
      split
      · rename_i left
        rw [left]
        exact iff_of_false Bool.false_ne_true fun differs => differs rfl
      · rename_i left
        rw [left]
        exact iff_of_true rfl fun same => by cases same
      · rename_i left
        rw [left]
        exact iff_of_true rfl (by decide)
    · rw [if_pos isSpace]
      exact iff_of_false Bool.false_ne_true fun both => isSpace both.1
  · rw [if_pos isMethod]
    exact iff_of_false Bool.false_ne_true fun both => isMethod both.1.1

/-- `checkRequest` is true only for a payload that begins with the method, a space, the
path and a blank or a `'?'`. -/
def MatchSound (method path : FlashString) (randomNumber : UInt32) (server : HTTPServer)
    (ether : EtherSia) : Prop :=
  (checkRequest method path randomNumber server ether).1 = true →
    Begins (request randomNumber server ether) method path

/-- Every request `havePacket` reports, of any length, and every path without characters
that stand for others. -/
theorem checkRequest_sound_iff {method path : FlashString} {randomNumber : UInt32}
    {server : HTTPServer} {ether : EtherSia} (plain : path.Plain)
    (accepted : (TCPServer.havePacket server.socket randomNumber ether).1 = true) :
    MatchSound method path randomNumber server ether ↔
      (HasMethod (request randomNumber server ether) method →
        PartsInTime (request randomNumber server ether) method path) := by
  unfold MatchSound
  rw [checkRequest_iff accepted]
  constructor
  · intro sound hasMethod
    by_cases refused :
        pathMatch (request randomNumber server ether) method path = .refused
    · exact partsInTime_of_refused refused
    · exact (begins_iff_partsInTime plain hasMethod refused).mp
        (sound ⟨hasMethod, refused⟩)
  · rintro parts ⟨hasMethod, taken⟩
    exact (begins_iff_partsInTime plain hasMethod taken).mpr (parts hasMethod)

/-! ### A request that is cut short -/

def methodGet : FlashString :=
  .of [0x47, 0x45, 0x54] (by simp) (by simp)

/-- `"/on"`. -/
def examplePath : FlashString :=
  .of [0x2f, 0x6f, 0x6e] (by simp) (by simp)

def exampleServer : HTTPServer where
  socket := exampleSocket 80
  pathPtr := none
  bodyPtr := none

/-- A segment with the five bytes of `"GET /"`. -/
def cutRequest : Frame :=
  exampleFrame 25 IP6_PROTO_TCP
    [0x10, 0, 0, 80, 0, 0, 0, 1, 0, 0, 0, 0, 0x50, 0x18, 2, 0, 0xd8, 0x0c, 0, 0,
      0x47, 0x45, 0x54, 0x20, 0x2f] (by decide)

def cutRequestReceived : EtherSia :=
  exampleStation.ether.accepted cutRequest

theorem checkRequest_sound_iff_example :
    MatchSound methodGet examplePath 0 exampleServer cutRequestReceived ↔
      (HasMethod (request 0 exampleServer cutRequestReceived) methodGet →
        PartsInTime (request 0 exampleServer cutRequestReceived) methodGet
          examplePath) := by
  apply checkRequest_sound_iff
  · unfold FlashString.Plain
    decide
  · decide +kernel

/-- The segment is received, and `GET /on` is found in it. -/
theorem checkRequest_matches_cut_request :
    exampleStation.ether.receivePacket cutRequest = some (79, cutRequestReceived) ∧
      ¬ MatchSound methodGet examplePath 0 exampleServer cutRequestReceived := by
  constructor
  · exact EtherSia.receivePacket_of_not_icmp ⟨by decide, by decide +kernel⟩
      (by decide +kernel)
  · intro sound
    have begins := begins_iff.mp (sound (by decide +kernel))
    exact absurd begins.2.2.2 (by decide +kernel)

end HTTPServer

end EtherSiaStack
