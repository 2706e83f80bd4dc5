/-
The body of a request.

`checkRequest` takes a line feed behind another one, or two places behind it, for the
end of the headers.  In lines that end with CR and LF, and of which none is empty, that is
the line feed of the first blank line, and no other.
-/

import EtherSiaStack.RequestChecks

namespace EtherSiaStack

open ByteMemory

namespace HTTPServer

/-! ### bodyLength and bodyEquals -/

/-- The difference of the pointers is taken modulo 2^16. -/
def bodyLength (server : HTTPServer) (packet : Memory) : UInt16 :=
  match server.bodyPtr with
  | none => 0
  | some bodyPtr =>
      TCPServer.payloadLength packet -
        (UInt16.ofNat bodyPtr - UInt16.ofNat (TCPServer.payload packet))

/-- `strcmp` of the string at the address with the string of these characters is 0. -/
def sameString (packet : Memory) : Nat → List UInt8 → Bool
  | ptr, [] => packet ptr = 0
  | ptr, character :: rest => packet ptr = character && sameString packet (ptr + 1) rest

def bodyEquals (server : HTTPServer) (str : List UInt8) (packet : Memory) : Bool :=
  match server.bodyPtr with
  | none => false
  | some bodyPtr => sameString packet bodyPtr str

/-- A string that ends with a NUL is the same as its characters only. -/
theorem sameString_iff {packet : Memory} {ptr : Nat} {str body : List UInt8}
    (spelled : Spells packet ptr body) (terminated : packet (ptr + body.length) = 0)
    (bodyNoNul : ∀ byte ∈ body, byte ≠ 0) (strNoNul : ∀ byte ∈ str, byte ≠ 0) :
    sameString packet ptr str = true ↔ str = body := by
  induction body generalizing ptr str with
  | nil =>
      cases str with
      | nil => exact iff_of_true (decide_eq_true terminated) rfl
      | cons character rest =>
          have differs : packet ptr ≠ character := fun same =>
            strNoNul character List.mem_cons_self (same ▸ terminated)
          refine iff_of_false (fun same => ?_) (List.cons_ne_nil _ _)
          exact differs (of_decide_eq_true (Bool.and_eq_true_iff.mp same).1)
  | cons first others ih =>
      obtain ⟨isFirst, spelledRest⟩ := spells_cons.mp spelled
      have isNot := bodyNoNul first List.mem_cons_self
      cases str with
      | nil =>
          refine iff_of_false (fun same => ?_) (List.cons_ne_nil _ _).symm
          exact isNot (isFirst.symm.trans (of_decide_eq_true same))
      | cons character rest =>
          have rest_iff := @ih (ptr + 1) rest spelledRest
            (by
              rw [List.length_cons, Nat.add_comm others.length, ← Nat.add_assoc] at terminated
              exact terminated)
            (fun byte member => bodyNoNul byte (List.mem_cons_of_mem _ member))
            (fun byte member => strNoNul byte (List.mem_cons_of_mem _ member))
          unfold sameString
          rw [Bool.and_eq_true_iff, rest_iff, decide_eq_true_iff, isFirst, List.cons.injEq]
          exact and_congr_left' eq_comm

/-! ### Lines -/

def CRLF : List UInt8 :=
  [0x0d, 0x0a]

/-- The lines, each with its ending. -/
def lineOctets (lines : List (List UInt8)) : List UInt8 :=
  lines.flatMap fun line => line ++ CRLF

/-- A line has a character, and no line feed. -/
def IsLine (line : List UInt8) : Prop :=
  line ≠ [] ∧ 0x0a ∉ line

/-- The line feeds of such lines lie more than two places apart. -/
theorem lineFeed_alone {lines : List (List UInt8)} (areLines : ∀ line ∈ lines, IsLine line)
    {index : Nat} (isFeed : (lineOctets lines)[index]? = some 0x0a) :
    2 ≤ index ∧ (lineOctets lines)[index - 1]? ≠ some 0x0a ∧
      (lineOctets lines)[index - 2]? ≠ some 0x0a := by
  induction lines generalizing index with
  | nil => cases isFeed
  | cons line rest ih =>
      obtain ⟨nonempty, noFeed⟩ := areLines line List.mem_cons_self
      have long : 0 < line.length := List.length_pos_iff.mpr nonempty
      have split : lineOctets (line :: rest) = line ++ ([0x0d, 0x0a] ++ lineOctets rest) := by
        rw [lineOctets, List.flatMap_cons, List.append_assoc]
        rfl
      have inLine {place : Nat} (inside : place < line.length) :
          (lineOctets (line :: rest))[place]? ≠ some 0x0a := by
        rw [split, List.getElem?_append_left inside]
        exact fun same => noFeed (List.mem_of_getElem? same)
      have behind (place : Nat) : (lineOctets (line :: rest))[line.length + place]? =
          ([0x0d, 0x0a] ++ lineOctets rest)[place]? := by
        rw [split, List.getElem?_append_right (Nat.le_add_right _ _), Nat.add_sub_cancel_left]
      have later (place : Nat) : (lineOctets (line :: rest))[line.length + (place + 2)]? =
          (lineOctets rest)[place]? :=
        behind (place + 2)
      by_cases here : index < line.length
      · exact absurd isFeed (inLine here)
      · obtain ⟨place, rfl⟩ : ∃ place, index = line.length + place :=
          ⟨index - line.length, by omega⟩
        match place with
        | 0 =>
            rw [behind 0] at isFeed
            cases isFeed
        | 1 =>
            refine ⟨by omega, ?_, ?_⟩
            · rw [Nat.add_sub_cancel, ← Nat.add_zero line.length, behind 0]
              intro same
              cases same
            · exact inLine (by omega)
        | place + 2 =>
            rw [later place] at isFeed
            obtain ⟨atLeast, before, twoBefore⟩ :=
              ih (fun line member => areLines line (List.mem_cons_of_mem _ member)) isFeed
            have oneBack : line.length + (place + 2) - 1 = line.length + (place - 1 + 2) := by
              omega
            have twoBack : line.length + (place + 2) - 2 = line.length + (place - 2 + 2) := by
              omega
            rw [oneBack, twoBack, later, later]
            exact ⟨by omega, before, twoBefore⟩

theorem lineOctets_ends (lines : List (List UInt8)) {line : List UInt8}
    (member : line ∈ lines) :
    2 ≤ (lineOctets lines).length ∧
      (lineOctets lines)[(lineOctets lines).length - 1]? = some 0x0a := by
  obtain ⟨last, rest, rfl⟩ : ∃ last rest, lines = rest ++ [last] :=
    ⟨_, _, (List.dropLast_append_getLast (List.ne_nil_of_mem member)).symm⟩
  have split : lineOctets (rest ++ [last]) = lineOctets rest ++ last ++ [0x0d] ++ [0x0a] := by
    rw [lineOctets, List.flatMap_append, List.flatMap_singleton, ← List.append_assoc,
      List.append_assoc _ [0x0d]]
    rfl
  rw [split, List.length_append, List.length_singleton, Nat.add_sub_cancel,
    List.getElem?_concat_length, List.length_append, List.length_singleton]
  exact ⟨by omega, rfl⟩

/-! ### Requests -/

/-- The text of a request: the parts of its first line, its header lines and its body. -/
structure RequestText where
  method : List UInt8
  path : List UInt8
  version : List UInt8
  headers : List (List UInt8)
  body : List UInt8

namespace RequestText

def requestLine (text : RequestText) : List UInt8 :=
  text.method ++ [0x20] ++ text.path ++ [0x20] ++ text.version

/-- The lines with the blank one behind them. -/
def head (text : RequestText) : List UInt8 :=
  lineOctets (text.requestLine :: text.headers) ++ CRLF

def octets (text : RequestText) : List UInt8 :=
  text.head ++ text.body

/-- The first line has no line feed, and the header lines are lines. -/
structure WellFormed (text : RequestText) : Prop where
  requestLine : 0x0a ∉ text.requestLine
  headers : ∀ line ∈ text.headers, IsLine line

variable {text : RequestText}

theorem WellFormed.areLines (wellFormed : text.WellFormed) :
    ∀ line ∈ text.requestLine :: text.headers, IsLine line := by
  intro line member
  rcases List.mem_cons.mp member with rfl | isHeader
  · refine ⟨?_, wellFormed.requestLine⟩
    unfold RequestText.requestLine
    simp
  · exact wellFormed.headers line isHeader

/-- The look-back test of `checkRequest` on the text alone. -/
def BlankAt (octets : List UInt8) (pos : Nat) : Prop :=
  octets[pos]? = some 0x0a ∧ (octets[pos - 2]? = some 0x0a ∨ octets[pos - 1]? = some 0x0a)

theorem octets_eq (text : RequestText) :
    text.octets = lineOctets (text.requestLine :: text.headers) ++
      ([0x0d, 0x0a] ++ text.body) := by
  unfold octets head
  rw [List.append_assoc]
  rfl

theorem head_length (text : RequestText) :
    text.head.length = (lineOctets (text.requestLine :: text.headers)).length + 2 :=
  List.length_append

theorem requestLine_length_le (text : RequestText) :
    text.requestLine.length ≤ text.head.length := by
  rw [head_length, lineOctets, List.flatMap_cons]
  simp only [List.length_append]
  omega

/-- The line feed of the blank line passes the test. -/
theorem WellFormed.blank_last (text : RequestText) :
    BlankAt text.octets (text.head.length - 1) := by
  obtain ⟨long, ends⟩ := lineOctets_ends (text.requestLine :: text.headers)
    (List.mem_cons_self)
  rw [head_length, octets_eq]
  generalize lineOctets (text.requestLine :: text.headers) = lines at long ends ⊢
  refine ⟨?_, Or.inl ?_⟩
  · rw [List.getElem?_append_right (by omega)]
    have second : lines.length + 2 - 1 - lines.length = 1 := by omega
    rw [second]
    rfl
  · have before : lines.length + 2 - 1 - 2 = lines.length - 1 := by omega
    rw [before, List.getElem?_append_left (by omega)]
    exact ends

/-- No line feed before it does. -/
theorem WellFormed.blank_first (wellFormed : text.WellFormed) {pos : Nat}
    (before : pos < text.head.length - 1) : ¬BlankAt text.octets pos := by
  rw [head_length] at before
  rw [octets_eq]
  have alone := @lineFeed_alone _ wellFormed.areLines
  generalize lineOctets (text.requestLine :: text.headers) = lines at before alone ⊢
  rintro ⟨isFeed, back⟩
  by_cases inLines : pos < lines.length
  · rw [List.getElem?_append_left inLines] at isFeed
    obtain ⟨-, one, two⟩ := alone isFeed
    rw [List.getElem?_append_left (by omega), List.getElem?_append_left (by omega)] at back
    exact back.elim two one
  · have isReturn : pos - lines.length = 0 := by omega
    rw [List.getElem?_append_right (Nat.le_of_not_lt inLines), isReturn] at isFeed
    cases isFeed

end RequestText

/-! ### The search -/

/-- The memory has line feeds where the octets do. -/
def FeedsAs (packet : Memory) (start : Nat) (octets : List UInt8) : Prop :=
  ∀ index < octets.length, packet (start + index) = 0x0a ↔ octets[index]? = some 0x0a

theorem FeedsAs.blank_iff {packet : Memory} {start pos : Nat} {octets : List UInt8}
    (feeds : FeedsAs packet start octets) (behind : 2 ≤ pos) (inside : pos < octets.length) :
    (packet (start + pos) = 0x0A ∧
        (packet (start + pos - 2) = 0x0A ∨ packet (start + pos - 1) = 0x0A)) ↔
      RequestText.BlankAt octets pos := by
  have twoBack : start + pos - 2 = start + (pos - 2) := by omega
  have oneBack : start + pos - 1 = start + (pos - 1) := by omega
  rw [twoBack, oneBack, feeds pos inside, feeds (pos - 2) (by omega),
    feeds (pos - 1) (by omega)]
  exact Iff.rfl

/-- The body is found behind the first blank line, if a byte of it is there. -/
theorem findBody_text {text : RequestText} {packet : Memory} {start : Nat}
    {first length : UInt16} (wellFormed : text.WellFormed)
    (feeds : FeedsAs packet start text.octets)
    (total : length.toNat = text.octets.length) (behind : 2 ≤ first.toNat)
    (inHead : first.toNat < text.head.length) :
    findBody packet start first length =
      if text.body = [] then none else some (start + text.head.length) := by
  have parts : text.octets.length = text.head.length + text.body.length :=
    List.length_append
  unfold findBody
  split
  · rename_i empty
    rw [empty, List.length_nil] at parts
    rw [Option.map_eq_none_iff, List.find?_eq_none]
    intro pos member
    obtain ⟨lower, upper⟩ := List.mem_range'_1.mp member
    rw [decide_eq_true_iff, feeds.blank_iff (by omega) (by omega)]
    exact wellFormed.blank_first (by omega)
  · rename_i nonempty
    have some_ : 0 < text.body.length := List.length_pos_iff.mpr nonempty
    rw [Option.map_eq_some_iff]
    refine ⟨text.head.length - 1, List.find?_range'_eq_some.mpr ⟨?_, ?_, ?_⟩, by omega⟩
    · rw [decide_eq_true_iff, feeds.blank_iff (by omega) (by omega)]
      exact RequestText.WellFormed.blank_last text
    · exact List.mem_range'_1.mpr ⟨by omega, by omega⟩
    · intro pos lower upper
      rw [Bool.not_eq_true', decide_eq_false_iff_not, feeds.blank_iff (by omega) (by omega)]
      exact wellFormed.blank_first upper

/-! ### The end of the path -/

/-- A method has a character, and no blank. -/
structure IsToken (method : FlashString) : Prop where
  nonempty : 0 < method.length
  short : method.length < 65535
  noBlank : ∀ index < method.length, method.read index ≠ 0x20

theorem isToken_method (route : Route) : IsToken route.method := by
  cases route with
  | isGet path => exact (⟨by decide, by decide, by decide⟩ : IsToken methodGet)
  | isPost path => exact (⟨by decide, by decide, by decide⟩ : IsToken methodPost)
  | isPut path => exact (⟨by decide, by decide, by decide⟩ : IsToken methodPut)
  | isDelete path => exact (⟨by decide, by decide, by decide⟩ : IsToken methodDelete)

section Edit

variable {text : RequestText} {packet : Memory} {method path : FlashString}

theorem requestLine_parts (text : RequestText) :
    text.octets = text.method ++ ([0x20] ++ (text.path ++ ([0x20] ++
      (text.version ++ (CRLF ++ (lineOctets text.headers ++ (CRLF ++ text.body))))))) := by
  unfold RequestText.octets RequestText.head lineOctets RequestText.requestLine
  simp only [List.flatMap_cons, List.append_assoc]

/-- Behind the method and its blank the first line has another blank. -/
theorem exists_blank (token : IsToken method) (hasMethod : HasMethod packet method)
    (spelled : Spells packet (TCPServer.payload packet) text.octets) :
    ∃ place, method.length + 1 ≤ place ∧ place < text.requestLine.length ∧
      packet (TCPServer.payload packet + place) = 0x20 := by
  have long : text.requestLine.length =
      text.method.length + 1 + text.path.length + 1 + text.version.length := by
    unfold RequestText.requestLine
    simp only [List.length_append, List.length_singleton]
  rw [requestLine_parts, spells_append, spells_append, spells_append, spells_append,
    spells_singleton, spells_singleton] at spelled
  obtain ⟨-, firstBlank, -, secondBlank, -⟩ := spelled
  obtain ⟨spelledMethod, -⟩ := spells_append.mp hasMethod
  rcases Nat.lt_trichotomy method.length text.method.length with longer | same | shorter
  · exact ⟨text.method.length, by omega, by omega, firstBlank⟩
  · refine ⟨text.method.length + 1 + text.path.length, by omega, by omega, ?_⟩
    rw [List.length_singleton] at secondBlank
    rw [← Nat.add_assoc, ← Nat.add_assoc]
    exact secondBlank
  · have character := FlashString.spells_bytes_iff.mp spelledMethod _ shorter
    rw [firstBlank] at character
    exact absurd character.symm (token.noBlank _ shorter)

theorem feedsAs_of_spells {start : Nat} {octets : List UInt8}
    (spelled : Spells packet start octets) : FeedsAs packet start octets := by
  intro index inside
  rw [spells_iff_getElem.mp spelled index inside, List.getElem?_eq_getElem inside,
    Option.some.injEq]

/-- Nothing but the head of the request is changed, and no line feed in it. -/
structure EditsHead (text : RequestText) (start : Nat) (packet edited : Memory) : Prop where
  before : ∀ address < start, edited address = packet address
  behind : ∀ address, start + text.head.length ≤ address → edited address = packet address
  feeds : FeedsAs edited start text.octets

theorem editsHead_refl {start : Nat} (spelled : Spells packet start text.octets) :
    EditsHead text start packet packet :=
  ⟨fun _ _ => rfl, fun _ _ => rfl, feedsAs_of_spells spelled⟩

theorem editsHead_store {start place : Nat} (spelled : Spells packet start text.octets)
    (inHead : place < text.head.length) (notFeed : packet (start + place) ≠ 0x0a) :
    EditsHead text start packet (store packet (start + place) [0]) where
  before := fun address isBefore => store_before _ _ (by omega)
  behind := fun address isBehind => store_after _ _ (by
    rw [List.length_singleton]
    omega)
  feeds := by
    intro index inside
    have feeds := feedsAs_of_spells spelled index inside
    by_cases here : index = place
    · rw [← feeds, here, u8_store_self]
      exact iff_of_false (by decide) notFeed
    · have outside : start + index < start + place ∨
          start + place + [(0 : UInt8)].length ≤ start + index := by
        rw [List.length_singleton]
        omega
      rw [← feeds, store_outside _ _ outside]

theorem BothEnd.not_feed {packet : Memory} {pathPtr index : Nat} {path : FlashString}
    (bothEnd : BothEnd packet pathPtr path index) : packet (pathPtr + index) ≠ 0x0A := by
  intro isFeed
  have ends := bothEnd.1
  rw [isFeed] at ends
  cases ends

/-- The path of the request ends in its first line. -/
theorem editsHead_bothEnded {index : Nat} (token : IsToken method)
    (hasMethod : HasMethod packet method)
    (spelled : Spells packet (TCPServer.payload packet) text.octets)
    (ended : pathMatch packet method path = .bothEnded index) :
    EditsHead text (TCPServer.payload packet) packet
      (store packet (targetStart packet method + index) [0]) := by
  obtain ⟨place, lower, upper, isBlank⟩ := exists_blank token hasMethod spelled
  have compared := pathMatch_compared packet method path
  rw [ended] at compared
  obtain ⟨-, -, passed, bothEnd⟩ := compared
  have start : targetStart packet method = TCPServer.payload packet + (method.length + 1) :=
    Nat.add_assoc _ _ _
  have early : index ≤ place - (method.length + 1) := by
    by_contra late
    have goesOn := (passed (place - (method.length + 1)) (Nat.zero_le _) (by omega)).1
    have isPlace : targetStart packet method + (place - (method.length + 1)) =
        TCPServer.payload packet + place := by
      omega
    rw [isPlace, isBlank] at goesOn
    cases goesOn
  have inHead : method.length + 1 + index < text.head.length := by
    have line := text.requestLine_length_le
    omega
  have notFeed := bothEnd.not_feed
  rw [start, Nat.add_assoc] at notFeed
  rw [start, Nat.add_assoc]
  exact editsHead_store spelled inHead notFeed

end Edit

/-! ### The body -/

/-- `body()`, `bodyLength()` and `bodyEquals()` describe the body of the text. -/
structure BodyExtracted (text : RequestText) (start : Nat) (server : HTTPServer)
    (packet : Memory) : Prop where
  empty : text.body = [] → server.bodyPtr = none ∧ bodyLength server packet = 0
  pointer : text.body ≠ [] → server.bodyPtr = some (start + text.head.length) ∧
    Spells packet (start + text.head.length) text.body
  length : text.body ≠ [] → (bodyLength server packet).toNat = text.body.length
  equals : text.body ≠ [] → (∀ byte ∈ text.body, byte ≠ 0) →
    ∀ str, (∀ byte ∈ str, byte ≠ 0) →
      (bodyEquals server str packet = true ↔ str = text.body)

theorem payload_congr {left right : Memory} (same : left 66 = right 66) :
    TCPServer.payload left = TCPServer.payload right := by
  simp only [TCPServer.payload, TCPHeader.receiveHeaderLen, TCPHeader.dataOffset, same]

theorem payloadLength_congr {left right : Memory} (agree : Agree left right 18 67) :
    TCPServer.payloadLength left = TCPServer.payloadLength right := by
  have total : IPv6Packet.payloadLength left = IPv6Packet.payloadLength right :=
    agree.u16At_eq (by decide) (by decide)
  have offset : left 66 = right 66 := agree 66 (by decide) (by decide)
  simp only [TCPServer.payloadLength, TCPHeader.receiveHeaderLen, TCPHeader.dataOffset,
    total, offset]

theorem toNat_sub_pointers {total : UInt16} {count : Nat} (start : Nat)
    (inside : count ≤ total.toNat) :
    (total - (UInt16.ofNat (start + count) - UInt16.ofNat start)).toNat =
      total.toNat - count := by
  have small : count < 65536 := Nat.lt_of_le_of_lt inside total.toNat_lt
  have counted : (UInt16.ofNat count).toNat = count := UInt16.toNat_ofNat_of_lt' small
  have fits : UInt16.ofNat count ≤ total := by
    rw [UInt16.le_iff_toNat_le, counted]
    exact inside
  rw [UInt16.ofNat_add, UInt16.add_comm, UInt16.add_sub_cancel,
    UInt16.toNat_sub_of_le _ _ fits, counted]

theorem locateBody_extracts {text : RequestText} {packet : Memory} {server : HTTPServer}
    {ether : EtherSia} {first : UInt16} (wellFormed : text.WellFormed)
    (behindHeader : 74 ≤ TCPServer.payload packet)
    (spelled : Spells packet (TCPServer.payload packet) text.octets)
    (total : (TCPServer.payloadLength packet).toNat = text.octets.length)
    (edits : EditsHead text (TCPServer.payload packet) packet ether.buffer)
    (behind : 2 ≤ first.toNat) (inHead : first.toNat < text.head.length) :
    BodyExtracted text (TCPServer.payload packet)
      (locateBody (TCPServer.payload packet) first (TCPServer.payloadLength packet) server
        ether).1
      (locateBody (TCPServer.payload packet) first (TCPServer.payloadLength packet) server
        ether).2.buffer := by
  have found := findBody_text wellFormed edits.feeds total behind inHead
  have parts : text.octets.length = text.head.length + text.body.length :=
    List.length_append
  unfold locateBody
  dsimp only
  rw [found]
  by_cases empty : text.body = []
  · rw [if_pos empty]
    exact ⟨fun _ => ⟨rfl, rfl⟩, fun nonempty => absurd empty nonempty,
      fun nonempty => absurd empty nonempty, fun nonempty => absurd empty nonempty⟩
  · rw [if_neg empty, if_pos Option.isSome_some]
    have nonempty : 0 < text.body.length := List.length_pos_iff.mpr empty
    have addressed : TCPServer.payload packet + (TCPServer.payloadLength packet).toNat =
        TCPServer.payload packet + text.head.length + text.body.length := by
      omega
    let left := store ether.buffer
      (TCPServer.payload packet + (TCPServer.payloadLength packet).toNat) [0]
    -- the header lies before every byte that is written
    have header : Agree left packet 0 (TCPServer.payload packet) := by
      intro address _ isBefore
      exact (store_before _ _ (by omega)).trans (edits.before address isBefore)
    have isStart : TCPServer.payload left = TCPServer.payload packet :=
      payload_congr (header 66 (by omega) (by omega))
    have isLength : TCPServer.payloadLength left = TCPServer.payloadLength packet :=
      payloadLength_congr (header.mono (by omega) (by omega))
    have bodySpelled : Spells left (TCPServer.payload packet + text.head.length) text.body := by
      refine (spells_append.mp spelled).2.congr ?_
      intro address lower upper
      exact (store_before _ _ (by omega)).trans (edits.behind address lower)
    have terminated :
        left (TCPServer.payload packet + text.head.length + text.body.length) = 0 := by
      rw [← addressed]
      exact u8_store_self _ _ _
    refine ⟨fun isEmpty => absurd isEmpty empty, fun _ => ⟨rfl, bodySpelled⟩, fun _ => ?_,
      fun _ bodyNoNul str strNoNul => ?_⟩
    · have counted : bodyLength
          { server with bodyPtr := some (TCPServer.payload packet + text.head.length) } left =
            TCPServer.payloadLength packet -
              (UInt16.ofNat (TCPServer.payload packet + text.head.length) -
                UInt16.ofNat (TCPServer.payload packet)) := by
        unfold bodyLength
        dsimp only
        rw [isStart, isLength]
      refine (congrArg UInt16.toNat counted).trans ?_
      rw [toNat_sub_pointers _ (by omega)]
      omega
    · have compared : bodyEquals
          { server with bodyPtr := some (TCPServer.payload packet + text.head.length) } str left =
            sameString left (TCPServer.payload packet + text.head.length) str := rfl
      exact (iff_of_eq (congrArg (· = true) compared)).trans
        (sameString_iff bodySpelled terminated bodyNoNul strNoNul)

/-! ### Requests with a body -/

/-- The data offset is legal, and the buffer has a byte behind the packet. -/
structure HasRoom (packet : Memory) : Prop where
  fullHeader : 20 ≤ (TCPHeader.receiveHeaderLen packet).toNat
  offsetFits : TCPServer.OffsetFits packet
  room : IPv6Packet.packetEnd packet < ETHERSIA_MAX_PACKET_SIZE

/-- The payload is this text. -/
def IsRequest (text : RequestText) (packet : Memory) : Prop :=
  bytesAt packet (TCPServer.payload packet) (TCPServer.payloadLength packet).toNat =
    text.octets

theorem IsRequest.spells {text : RequestText} {packet : Memory}
    (isRequest : IsRequest text packet) :
    Spells packet (TCPServer.payload packet) text.octets := by
  unfold Spells
  rw [← isRequest, bytesAt_length]

theorem IsRequest.total {text : RequestText} {packet : Memory}
    (isRequest : IsRequest text packet) :
    (TCPServer.payloadLength packet).toNat = text.octets.length := by
  rw [← isRequest, bytesAt_length]

theorem toNat_ofNat_succ {count : Nat} (short : count < 65535) :
    (UInt16.ofNat count + 1).toNat = count + 1 := by
  have fits : count < 65536 := Nat.lt_trans short (by decide)
  rw [UInt16.toNat_add, UInt16.toNat_ofNat_of_lt' fits]
  exact Nat.mod_eq_of_lt (Nat.succ_lt_succ short)

theorem answer_extracts {text : RequestText} {method path : FlashString}
    {server : HTTPServer} {ether : EtherSia} (wellFormed : text.WellFormed)
    (token : IsToken method) (behindHeader : 74 ≤ TCPServer.payload ether.buffer)
    (isRequest : IsRequest text ether.buffer)
    (matched : (answer method path server ether).1 = true) :
    BodyExtracted text (TCPServer.payload ether.buffer) (answer method path server ether).2.1
      (answer method path server ether).2.2.buffer := by
  have spelled := isRequest.spells
  have isFirst : (UInt16.ofNat method.length + 1).toNat = method.length + 1 :=
    toNat_ofNat_succ token.short
  unfold answer at matched ⊢
  dsimp only at matched ⊢
  by_cases hasMethod : HasMethod ether.buffer method
  · obtain ⟨place, lower, upper, -⟩ := exists_blank token hasMethod spelled
    have inHead : (UInt16.ofNat method.length + 1).toNat < text.head.length := by
      have line := text.requestLine_length_le
      omega
    have behind : 2 ≤ (UInt16.ofNat method.length + 1).toNat := by
      have nonempty := token.nonempty
      omega
    rw [if_pos hasMethod] at matched ⊢
    cases left : pathMatch ether.buffer method path with
    | refused =>
        rw [left] at matched
        cases matched
    | bothEnded index =>
        exact locateBody_extracts wellFormed behindHeader spelled isRequest.total
          (editsHead_bothEnded token hasMethod spelled left) behind inHead
    | usedUp =>
        exact locateBody_extracts wellFormed behindHeader spelled isRequest.total
          (editsHead_refl spelled) behind inHead
  · rw [if_neg hasMethod] at matched
    cases matched

theorem isRequest_opened {text : RequestText} {ether : EtherSia}
    (behindHeader : 74 ≤ TCPServer.payload ether.buffer)
    (isRequest : IsRequest text ether.buffer) : IsRequest text (opened ether).buffer := by
  unfold IsRequest
  rw [opened_payload, opened_payloadLength]
  refine (bytesAt_store_disjoint _ _ (Or.inr ?_)).trans isRequest
  rw [List.length_singleton]
  omega

end HTTPServer

open HTTPServer

/-- When a check of a request of this form is true, `body()` and its length are those of
the text, and `bodyEquals()` holds of the body alone. -/
theorem Route.body_extracted {text : RequestText} {ether : EtherSia} (route : Route)
    (randomNumber : UInt32) (server : HTTPServer) (wellFormed : text.WellFormed)
    (hasRoom : HasRoom ether.buffer) (isRequest : IsRequest text ether.buffer)
    (matched : (route.check randomNumber server ether).1 = true) :
    BodyExtracted text (TCPServer.payload ether.buffer)
      (route.check randomNumber server ether).2.1
      (route.check randomNumber server ether).2.2.buffer := by
  have behindHeader : 74 ≤ TCPServer.payload ether.buffer :=
    Nat.add_le_add_left hasRoom.fullHeader 54
  rw [check_eq] at matched ⊢
  by_cases hasData : TCPServer.HasData server.socket ether
  · rw [checkRequest_of_hasData hasData] at matched ⊢
    rw [← opened_payload] at behindHeader ⊢
    exact answer_extracts wellFormed (isToken_method route) behindHeader
      (isRequest_opened behindHeader isRequest) matched
  · rw [checkRequest_of_not_hasData hasData] at matched
    cases matched

/-! ### Example requests -/

/-- A segment of this text from the neighbour's port 4096 to port 80. -/
def requestSegment (checksum : UInt16) (octets : List UInt8) (fits : octets.length ≤ 526) :
    Frame :=
  exampleFrame (20 + UInt16.ofNat octets.length) IP6_PROTO_TCP
    ([0x10, 0, 0, 80, 0, 0, 0, 1, 0, 0, 0, 0, 0x50, 0x18, 2, 0] ++ bytes16 checksum ++ [0, 0] ++
      octets) (by
    rw [List.length_append]
    exact Nat.add_le_add_left fits 20)

/-- `POST /on HTTP/1.0` with the body `hi`. -/
def examplePost (headers : List (List UInt8)) : RequestText where
  method := [0x50, 0x4f, 0x53, 0x54]
  path := [0x2f, 0x6f, 0x6e]
  version := [0x48, 0x54, 0x54, 0x50, 0x2f, 0x31, 0x2e, 0x30]
  headers := headers
  body := [0x68, 0x69]

/-- `A: b`. -/
def exampleHeader : List UInt8 :=
  [0x41, 0x3a, 0x20, 0x62]

def postReceived : EtherSia :=
  exampleStation.ether.accepted
    (requestSegment 0x252e (examplePost [exampleHeader]).octets (by decide))

theorem Route.body_extracted_example :
    BodyExtracted (examplePost [exampleHeader]) 74
      ((Route.isPost examplePath).check 0 exampleServer postReceived).2.1
      ((Route.isPost examplePath).check 0 exampleServer postReceived).2.2.buffer :=
  @Route.body_extracted (examplePost [exampleHeader]) postReceived (.isPost examplePath) 0
    exampleServer ⟨by decide, by unfold IsLine; decide⟩
    ⟨by decide +kernel, by unfold TCPServer.OffsetFits; decide +kernel, by decide +kernel⟩
    (by unfold IsRequest; decide +kernel) (by decide +kernel)

/-- The check finds the body of every request of which the text is formed so. -/
def ExtractsBody (formed : RequestText → Prop) : Prop :=
  ∀ (text : RequestText) (ether : EtherSia) (route : Route) (randomNumber : UInt32)
    (server : HTTPServer), formed text → HasRoom ether.buffer →
      IsRequest text ether.buffer → (route.check randomNumber server ether).1 = true →
        BodyExtracted text (TCPServer.payload ether.buffer)
          (route.check randomNumber server ether).2.1
          (route.check randomNumber server ether).2.2.buffer

/-- Behind an empty line among the headers everything is body, and so it is behind two
line feeds in the version. -/
theorem Route.body_starts_earlier :
    ¬ExtractsBody (fun text =>
        0x0a ∉ text.requestLine ∧ ∀ line ∈ text.headers, 0x0a ∉ line) ∧
      ¬ExtractsBody (fun text => ∀ line ∈ text.headers, IsLine line) := by
  constructor
  · intro extracts
    have extracted := extracts (examplePost [exampleHeader, []])
      (exampleStation.ether.accepted
        (requestSegment 0x1b1f (examplePost [exampleHeader, []]).octets (by decide)))
      (.isPost examplePath) 0 exampleServer ⟨by decide, by decide⟩
      ⟨by decide +kernel, by unfold TCPServer.OffsetFits; decide +kernel, by decide +kernel⟩
      (by unfold IsRequest; decide +kernel) (by decide +kernel)
    exact absurd (extracted.pointer (List.cons_ne_nil _ _)).1 (by decide +kernel)
  · intro extracts
    have extracted := extracts { examplePost [] with version := [0x0a, 0x0a] }
      (exampleStation.ether.accepted
        (requestSegment 0xc798 { examplePost [] with version := [0x0a, 0x0a] }.octets
          (by decide)))
      (.isPost examplePath) 0 exampleServer (by unfold IsLine; decide)
      ⟨by decide +kernel, by unfold TCPServer.OffsetFits; decide +kernel, by decide +kernel⟩
      (by unfold IsRequest; decide +kernel) (by decide +kernel)
    exact absurd (extracted.pointer (List.cons_ne_nil _ _)).1 (by decide +kernel)

end EtherSiaStack
