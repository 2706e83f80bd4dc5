/-
Requests checked against one route after the other.

A check that fails has cleared the flags of the packet and changed nothing else in it:
the path is ended with a NUL in the pass that leaves the loop with a match.  The checks
behind it see the same request.
-/

import EtherSiaStack.HTTPServer

namespace EtherSiaStack

open ByteMemory

namespace HTTPServer

/-! ### One check of a packet with data -/

/-- The server and the interface as `havePacket` leaves them when it is true. -/
def serving (server : HTTPServer) : HTTPServer :=
  { server with socket := { server.socket with writePos := -1 } }

def opened (ether : EtherSia) : EtherSia :=
  ether.modifyPacket fun packet => TCPHeader.setFlags packet 0

@[simp] theorem opened_payload (ether : EtherSia) :
    TCPServer.payload (opened ether).buffer = TCPServer.payload ether.buffer :=
  payload_setFlags ether.buffer 0

@[simp] theorem opened_payloadLength (ether : EtherSia) :
    TCPServer.payloadLength (opened ether).buffer = TCPServer.payloadLength ether.buffer :=
  payloadLength_setFlags ether.buffer 0

instance (packet : Memory) (method : FlashString) : Decidable (HasMethod packet method) :=
  inferInstanceAs (Decidable (bytesAt _ _ _ = _))

/-- The server with the path of the request. -/
def withPath (server : HTTPServer) (packet : Memory) (method : FlashString) : HTTPServer :=
  { server with pathPtr := some (targetStart packet method) }

/-- The part of `checkRequest` behind `havePacket`. -/
def answer (method path : FlashString) (server : HTTPServer) (ether : EtherSia) :
    Bool × HTTPServer × EtherSia :=
  let payload := TCPServer.payload ether.buffer
  let length := TCPServer.payloadLength ether.buffer
  let endOfMethod := UInt16.ofNat method.length
  if HasMethod ether.buffer method then
    let server := server.withPath ether.buffer method
    match pathMatch ether.buffer method path with
    | .refused => (false, server, ether)
    | .bothEnded index =>
        let ether := ether.modifyPacket fun packet =>
          store packet (targetStart ether.buffer method + index) [0]
        (true, locateBody payload (endOfMethod + 1) length server ether)
    | .usedUp => (true, locateBody payload (endOfMethod + 1) length server ether)
  else (false, server, ether)

theorem checkRequest_of_hasData {server : HTTPServer} {ether : EtherSia}
    (hasData : TCPServer.HasData server.socket ether) (method path : FlashString)
    (randomNumber : UInt32) :
    checkRequest method path randomNumber server ether =
      answer method path server.serving (opened ether) := by
  have length : (UInt16.ofNat method.length).toNat = method.length :=
    UInt16.toNat_ofNat_of_lt' method.short
  have spelled : bytesAt method.read 0 method.length = method.bytes := rfl
  have isPayload := payload_setFlags ether.buffer 0
  have isLength := payloadLength_setFlags ether.buffer 0
  unfold checkRequest answer
  dsimp only
  rw [TCPServer.havePacket_of_hasData hasData randomNumber]
  unfold opened EtherSia.modifyPacket
  dsimp only
  rw [isPayload, isLength, length, spelled, if_neg (by decide)]
  by_cases hasMethod : HasMethod (TCPHeader.setFlags ether.buffer 0) method
  · obtain ⟨isMethod, isSpace⟩ := hasMethod_iff.mp hasMethod
    rw [isPayload] at isMethod isSpace
    rw [if_pos hasMethod, if_neg (not_not.mpr isMethod), if_neg (not_not.mpr isSpace)]
    unfold pathMatch comparedBytes withPath targetStart
    rw [isPayload, isLength]
    rfl
  · rw [if_neg hasMethod]
    rw [hasMethod_iff, isPayload] at hasMethod
    split
    · rfl
    · rename_i isMethod
      rw [if_pos fun isSpace => hasMethod ⟨not_not.mp isMethod, isSpace⟩]
      rfl

theorem checkRequest_of_not_hasData {server : HTTPServer} {ether : EtherSia}
    (refuses : ¬TCPServer.HasData server.socket ether) (method path : FlashString)
    (randomNumber : UInt32) :
    checkRequest method path randomNumber server ether =
      (false, { server with
          socket := (TCPServer.havePacket server.socket randomNumber ether).2.1 },
        (TCPServer.havePacket server.socket randomNumber ether).2.2) := by
  rw [← TCPServer.havePacket_eq_true_iff _ randomNumber] at refuses
  unfold checkRequest
  dsimp only
  rw [if_pos (Bool.eq_false_iff.mpr refuses)]

/-! ### Routes -/

def methodPost : FlashString :=
  .of [0x50, 0x4f, 0x53, 0x54] (by simp) (by simp)

def methodPut : FlashString :=
  .of [0x50, 0x55, 0x54] (by simp) (by simp)

def methodDelete : FlashString :=
  .of [0x44, 0x45, 0x4c, 0x45, 0x54, 0x45] (by simp) (by simp)

def isGet (path : FlashString) := checkRequest methodGet path
def isPost (path : FlashString) := checkRequest methodPost path
def isPut (path : FlashString) := checkRequest methodPut path
def isDelete (path : FlashString) := checkRequest methodDelete path

end HTTPServer

/-- One of the checks of an if/else chain, and the path it is for. -/
inductive Route
  | isGet (path : FlashString)
  | isPost (path : FlashString)
  | isPut (path : FlashString)
  | isDelete (path : FlashString)

namespace Route

open HTTPServer

def method : Route → FlashString
  | .isGet _ => methodGet
  | .isPost _ => methodPost
  | .isPut _ => methodPut
  | .isDelete _ => methodDelete

def path : Route → FlashString
  | .isGet path => path
  | .isPost path => path
  | .isPut path => path
  | .isDelete path => path

/-- `randomNumber` is for the reply `havePacket` may send. -/
def check (route : Route) (randomNumber : UInt32) (server : HTTPServer)
    (ether : EtherSia) : Bool × HTTPServer × EtherSia :=
  match route with
  | .isGet path => HTTPServer.isGet path randomNumber server ether
  | .isPost path => HTTPServer.isPost path randomNumber server ether
  | .isPut path => HTTPServer.isPut path randomNumber server ether
  | .isDelete path => HTTPServer.isDelete path randomNumber server ether

theorem check_eq (route : Route) (randomNumber : UInt32) (server : HTTPServer)
    (ether : EtherSia) :
    route.check randomNumber server ether =
      checkRequest route.method route.path randomNumber server ether := by
  cases route <;> rfl

/-- The checks of a chain up to the first that matches: what they leave behind, if none
does. -/
def checkAll : List (Route × UInt32) → HTTPServer → EtherSia →
    Option (HTTPServer × EtherSia)
  | [], server, ether => some (server, ether)
  | (route, randomNumber) :: rest, server, ether =>
      match route.check randomNumber server ether with
      | (true, _, _) => none
      | (false, server, ether) => checkAll rest server ether

end Route

/-! ### What a failed check leaves behind -/

namespace HTTPServer

section Answer

variable {method path : FlashString} {server other : HTTPServer} {ether : EtherSia}

/-- Nothing in the packet is written before the loop over the path is left. -/
theorem answer_failed (failed : (answer method path server ether).1 = false) :
    (answer method path server ether).2.1.socket = server.socket ∧
      (answer method path server ether).2.2 = ether := by
  unfold answer at failed ⊢
  dsimp only at failed ⊢
  by_cases hasMethod : HasMethod ether.buffer method
  · rw [if_pos hasMethod] at failed ⊢
    cases left : pathMatch ether.buffer method path with
    | refused => exact ⟨rfl, rfl⟩
    | bothEnded index =>
        rw [left] at failed
        cases failed
    | usedUp =>
        rw [left] at failed
        cases failed
  · rw [if_neg hasMethod]
    exact ⟨rfl, rfl⟩

/-- The answer depends on nothing of the server but its socket. -/
theorem answer_of_socket (same : server.socket = other.socket) :
    (answer method path server ether).1 = (answer method path other ether).1 ∧
      ((answer method path other ether).1 = true →
        answer method path server ether = answer method path other ether) := by
  obtain ⟨socket, pathPtr, bodyPtr⟩ := server
  obtain ⟨_, otherPath, otherBody⟩ := other
  cases same
  unfold answer
  dsimp only
  by_cases hasMethod : HasMethod ether.buffer method
  · rw [if_pos hasMethod, if_pos hasMethod]
    cases pathMatch ether.buffer method path with
    | refused => exact ⟨rfl, fun taken => by cases taken⟩
    | bothEnded index => exact ⟨rfl, fun _ => rfl⟩
    | usedUp => exact ⟨rfl, fun _ => rfl⟩
  · rw [if_neg hasMethod, if_neg hasMethod]
    exact ⟨rfl, fun taken => by cases taken⟩

end Answer

theorem opened_opened (ether : EtherSia) : opened (opened ether) = opened ether := by
  unfold opened EtherSia.modifyPacket TCPHeader.setFlags
  dsimp only
  rw [store_byte_twice]

theorem hasData_opened {socket other : Socket} {ether : EtherSia}
    (hasData : TCPServer.HasData socket ether) (samePort : other.localPort = socket.localPort) :
    TCPServer.HasData other (opened ether) := by
  have cleared : (opened ether).buffer = store ether.buffer 67 [0] := rfl
  have flags : TCPHeader.flags (opened ether).buffer = 0 := by
    rw [cleared]
    exact u8_store_self _ _ _
  refine ⟨hasData.received, ?_, ?_, ?_, ?_, ?_, ?_⟩
  · rw [cleared]
    have before : (20 : Nat) < 67 := by decide
    exact (store_before _ _ before).trans hasData.isTcp
  · have port : TCPHeader.destinationPort (opened ether).buffer =
        TCPHeader.destinationPort ether.buffer := by
      simp [cleared]
    rw [port, samePort]
    exact hasData.ourPort
  · rw [flags]
    rfl
  · rw [flags]
    rfl
  · rw [flags]
    rfl
  · have data := hasData.data
    rwa [← payloadLength_setFlags ether.buffer 0] at data

/-- The answer to another packet leaves no packet in the buffer, if there is one. -/
theorem havePacket_of_not_hasData {socket : Socket} {ether : EtherSia}
    (refuses : ¬TCPServer.HasData socket ether) (randomNumber : UInt32) :
    (TCPServer.havePacket socket randomNumber ether).2.1 = socket ∧
      ¬TCPServer.HasData socket (TCPServer.havePacket socket randomNumber ether).2.2 := by
  have sentAway (other : EtherSia) : ¬TCPServer.HasData socket (TCPServer.send socket 0 true other) :=
    fun hasData => by cases hasData.received
  have notTaken := refuses
  rw [← TCPServer.havePacket_eq_true_iff _ randomNumber] at notTaken
  unfold TCPServer.havePacket at notTaken ⊢
  dsimp only at notTaken ⊢
  split_ifs at notTaken ⊢
  · exact ⟨rfl, refuses⟩
  · exact ⟨rfl, refuses⟩
  · exact ⟨rfl, refuses⟩
  · exact ⟨rfl, refuses⟩
  · exact ⟨rfl, sentAway _⟩
  · exact ⟨rfl, sentAway _⟩
  · exact absurd rfl notTaken
  · exact ⟨rfl, refuses⟩

/-- What a check that is false leaves: a packet with data has its flags cleared, and of
another packet there is nothing left to check. -/
structure Leaves (server after : HTTPServer) (ether left : EtherSia) : Prop where
  withData : TCPServer.HasData server.socket ether →
    after.socket = server.serving.socket ∧ left = opened ether
  withoutData : ¬TCPServer.HasData server.socket ether →
    ¬TCPServer.HasData after.socket left

theorem checkRequest_leaves {method path : FlashString} {randomNumber : UInt32}
    {server : HTTPServer} {ether : EtherSia}
    (failed : (checkRequest method path randomNumber server ether).1 = false) :
    Leaves server (checkRequest method path randomNumber server ether).2.1 ether
      (checkRequest method path randomNumber server ether).2.2 := by
  by_cases hasData : TCPServer.HasData server.socket ether
  · rw [checkRequest_of_hasData hasData] at failed ⊢
    exact ⟨fun _ => answer_failed failed, fun refuses => absurd hasData refuses⟩
  · rw [checkRequest_of_not_hasData hasData]
    obtain ⟨sameSocket, nothing⟩ := havePacket_of_not_hasData hasData randomNumber
    refine ⟨fun data => absurd data hasData, fun _ => ?_⟩
    dsimp only
    rw [sameSocket]
    exact nothing

/-- Failed checks one after the other leave no more than the first. -/
theorem Leaves.trans {server between after : HTTPServer} {ether middle left : EtherSia}
    (first : Leaves server between ether middle) (second : Leaves between after middle left) :
    Leaves server after ether left where
  withData := by
    intro hasData
    obtain ⟨sameSocket, rfl⟩ := first.withData hasData
    have samePort : between.socket.localPort = server.socket.localPort := by
      rw [sameSocket]
      rfl
    obtain ⟨nextSocket, rfl⟩ := second.withData (hasData_opened hasData samePort)
    refine ⟨?_, opened_opened ether⟩
    rw [nextSocket]
    unfold serving
    rw [sameSocket]
    rfl
  withoutData := fun refuses => second.withoutData (first.withoutData refuses)

/-- The check behind those that failed has the result it would have had before them, and
the same effect if it is true. -/
theorem Leaves.check {server after : HTTPServer} {ether left : EtherSia}
    (leaves : Leaves server after ether left) (method path : FlashString)
    (randomNumber earlier : UInt32) :
    (checkRequest method path randomNumber after left).1 =
        (checkRequest method path earlier server ether).1 ∧
      ((checkRequest method path earlier server ether).1 = true →
        checkRequest method path randomNumber after left =
          checkRequest method path earlier server ether) := by
  by_cases hasData : TCPServer.HasData server.socket ether
  · obtain ⟨sameSocket, rfl⟩ := leaves.withData hasData
    have samePort : after.socket.localPort = server.socket.localPort := by
      rw [sameSocket]
      rfl
    have serves : after.serving.socket = server.serving.socket := by
      unfold serving
      rw [sameSocket]
      rfl
    rw [checkRequest_of_hasData (hasData_opened hasData samePort),
      checkRequest_of_hasData hasData, opened_opened]
    exact answer_of_socket serves
  · rw [checkRequest_of_not_hasData (leaves.withoutData hasData),
      checkRequest_of_not_hasData hasData]
    exact ⟨rfl, fun taken => by cases taken⟩

end HTTPServer

namespace Route

open HTTPServer

theorem checkAll_leaves {routes : List (Route × UInt32)} {server after : HTTPServer}
    {ether left : EtherSia} (nonempty : routes ≠ [])
    (failed : checkAll routes server ether = some (after, left)) :
    Leaves server after ether left := by
  induction routes generalizing server ether with
  | nil => exact absurd rfl nonempty
  | cons first rest ih =>
      obtain ⟨route, randomNumber⟩ := first
      unfold checkAll at failed
      split at failed
      · cases failed
      · rename_i between middle checked
        rw [check_eq] at checked
        have here : Leaves server between ether middle := by
          have leaves := checkRequest_leaves (congrArg Prod.fst checked)
          rwa [checked] at leaves
        cases rest with
        | nil =>
            cases failed
            exact here
        | cons second others =>
            exact here.trans (ih (List.cons_ne_nil _ _) failed)

theorem check_randomNumber (route : Route) (randomNumber earlier : UInt32)
    (server : HTTPServer) (ether : EtherSia) :
    (route.check randomNumber server ether).1 = (route.check earlier server ether).1 ∧
      ((route.check earlier server ether).1 = true →
        route.check randomNumber server ether = route.check earlier server ether) := by
  rw [check_eq, check_eq]
  by_cases hasData : TCPServer.HasData server.socket ether
  · rw [checkRequest_of_hasData hasData, checkRequest_of_hasData hasData]
    exact ⟨rfl, fun _ => rfl⟩
  · rw [checkRequest_of_not_hasData hasData, checkRequest_of_not_hasData hasData]
    exact ⟨rfl, fun taken => by cases taken⟩

/-! ### The payload -/

/-- The socket finds the same bytes as payload in both buffers. -/
structure PayloadUnchanged (before after : Memory) : Prop where
  payload : TCPServer.payload after = TCPServer.payload before
  length : TCPServer.payloadLength after = TCPServer.payloadLength before
  bytes : bytesAt after (TCPServer.payload before) (TCPServer.payloadLength before).toNat =
    bytesAt before (TCPServer.payload before) (TCPServer.payloadLength before).toNat

/-- The flags of the TCP header count as payload: the data offset is below 14 bytes. -/
def FlagsInPayload (packet : Memory) : Prop :=
  TCPServer.payload packet ≤ 67 ∧
    67 < TCPServer.payload packet + (TCPServer.payloadLength packet).toNat

theorem payloadUnchanged_opened_iff (ether : EtherSia) :
    PayloadUnchanged ether.buffer (opened ether).buffer ↔
      (FlagsInPayload ether.buffer → TCPHeader.flags ether.buffer = 0) := by
  have cleared : (opened ether).buffer = store ether.buffer 67 [0] := rfl
  have flags : (opened ether).buffer 67 = 0 := by
    rw [cleared]
    exact u8_store_self _ _ _
  constructor
  · rintro ⟨-, -, bytes⟩ ⟨lower, upper⟩
    have agree := bytesAt_eq_iff.mp bytes (67 - TCPServer.payload ether.buffer) (by omega)
    rw [Nat.add_sub_cancel' lower, flags] at agree
    exact agree.symm
  · intro notSet
    refine ⟨payload_setFlags _ _, payloadLength_setFlags _ _, ?_⟩
    rw [bytesAt_eq_iff]
    intro index inside
    by_cases here : TCPServer.payload ether.buffer + index = 67
    · rw [here, flags]
      exact (notSet ⟨by omega, by omega⟩).symm
    · have outside : TCPServer.payload ether.buffer + index < 67 ∨
          67 + 1 ≤ TCPServer.payload ether.buffer + index := by omega
      rw [cleared]
      exact store_outside _ _ outside

/-- After checks that have all failed, the next check does what it would have done first.
The payload is the same, unless its first bytes are those of the TCP header and the flags
among them were set. -/
theorem failed_checks_keep_request {routes : List (Route × UInt32)}
    {server after : HTTPServer} {ether left : EtherSia}
    (failed : checkAll routes server ether = some (after, left)) :
    (∀ (next : Route) (randomNumber earlier : UInt32),
      (next.check randomNumber after left).1 = (next.check earlier server ether).1 ∧
        ((next.check earlier server ether).1 = true →
          next.check randomNumber after left = next.check earlier server ether)) ∧
      ∀ randomNumber, (TCPServer.havePacket server.socket randomNumber ether).1 = true →
        (PayloadUnchanged ether.buffer left.buffer ↔
          (routes ≠ [] → FlagsInPayload ether.buffer →
            TCPHeader.flags ether.buffer = 0)) := by
  by_cases empty : routes = []
  · rw [empty] at failed
    cases failed
    refine ⟨fun next randomNumber earlier =>
      next.check_randomNumber randomNumber earlier server ether, fun _ _ => ?_⟩
    exact iff_of_true ⟨rfl, rfl, rfl⟩ fun nonempty => absurd empty nonempty
  · have leaves := checkAll_leaves empty failed
    constructor
    · intro next randomNumber earlier
      rw [check_eq, check_eq]
      exact leaves.check next.method next.path randomNumber earlier
    · intro randomNumber accepted
      have hasData := (TCPServer.havePacket_eq_true_iff _ _ _).mp accepted
      rw [(leaves.withData hasData).2, payloadUnchanged_opened_iff]
      exact (imp_iff_right empty).symm

/-- `isPost` fails for the request `GET /`, and `isGet` behind it does what it would do
first. -/
theorem failed_post_keeps_request :
    ∃ after left,
      checkAll [(.isPost examplePath, 0)] exampleServer cutRequestReceived =
          some (after, left) ∧
        (Route.isGet examplePath).check 0 after left =
          (Route.isGet examplePath).check 0 exampleServer cutRequestReceived ∧
        PayloadUnchanged cutRequestReceived.buffer left.buffer := by
  have someLeft : (checkAll [(.isPost examplePath, 0)] exampleServer
      cutRequestReceived).isSome = true := by
    decide +kernel
  obtain ⟨⟨after, left⟩, failed⟩ := Option.isSome_iff_exists.mp someLeft
  obtain ⟨next, payload⟩ := failed_checks_keep_request failed
  refine ⟨after, left, failed, (next _ 0 0).2 (by decide +kernel), ?_⟩
  refine (payload 0 (by decide +kernel)).mpr fun _ inPayload => absurd inPayload.1 ?_
  decide +kernel

/-- A segment with data offset 0: the payload of 38 bytes starts with the TCP header. -/
def offsetZeroRequest : Frame :=
  exampleFrame 38 IP6_PROTO_TCP
    [0x10, 0, 0, 80, 0, 0, 0, 1, 0, 0, 0, 0, 0, 0x18, 2, 0, 0x13, 0xc6, 0, 0,
      0x47, 0x45, 0x54, 0x20, 0x2f, 0x20, 0x48, 0x54, 0x54, 0x50, 0x2f, 0x31, 0x2e, 0x30,
      0x0d, 0x0a, 0x0d, 0x0a] (by decide)

/-- The check that fails clears the flags, byte 13 of that payload. -/
theorem failed_check_changes_payload :
    ¬∀ (frame : Frame) (ether : EtherSia) (server after : HTTPServer) (left : EtherSia)
      (routes : List (Route × UInt32)), ether.Accepts frame →
        (TCPServer.havePacket server.socket 0 (ether.accepted frame)).1 = true →
          checkAll routes server (ether.accepted frame) = some (after, left) →
            PayloadUnchanged (ether.accepted frame).buffer left.buffer := by
  intro unchanged
  have someLeft : (checkAll [(.isGet examplePath, 0)] exampleServer
      (exampleStation.ether.accepted offsetZeroRequest)).isSome = true := by
    decide +kernel
  obtain ⟨⟨after, left⟩, failed⟩ := Option.isSome_iff_exists.mp someLeft
  have same := unchanged offsetZeroRequest exampleStation.ether exampleServer after left _
    ⟨by decide, by decide +kernel⟩ (by decide +kernel) failed
  have leaves := checkAll_leaves (List.cons_ne_nil _ _) failed
  have hasData := (TCPServer.havePacket_eq_true_iff exampleServer.socket 0
    (exampleStation.ether.accepted offsetZeroRequest)).mp (by decide +kernel)
  rw [(leaves.withData hasData).2, payloadUnchanged_opened_iff] at same
  exact absurd (same ⟨by decide +kernel, by decide +kernel⟩) (by decide +kernel)

end Route

end EtherSiaStack
