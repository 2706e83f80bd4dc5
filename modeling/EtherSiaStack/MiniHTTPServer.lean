/-
The MiniHTTPServer example.

Each pass of its loop receives a packet and offers it to one check after the other; the page
of the first that matches is the answer, a request that none matches is answered by 404, and
what is no request is rejected.  Whatever comes in, a pass sends at most one packet.
-/

import EtherSiaStack.HTTPReplies
import EtherSiaStack.Rejection
import EtherSiaStack.RequestBounds

namespace EtherSiaStack

open ByteMemory IPv6Packet Trace HTTPServer

namespace MiniHTTPServer

/-! ### MiniHTTPServer.ino -/

theorem slash_short : [(0x2f : UInt8)].length < 65536 := by
  simp

theorem slash_noNul : ∀ byte ∈ [(0x2f : UInt8)], byte ≠ 0 := by
  simp

/-- `"/"`. -/
def rootPath : FlashString :=
  .of [0x2f] slash_short slash_noNul

/-- `"/text"`. -/
def textPath : FlashString :=
  .of [0x2f, 0x74, 0x65, 0x78, 0x74] (by simp) (by simp)

/-- `"<h1>Hello World</h1>"`. -/
def helloWorld : List UInt8 :=
  [0x3c, 0x68, 0x31, 0x3e, 0x48, 0x65, 0x6c, 0x6c, 0x6f, 0x20, 0x57, 0x6f, 0x72, 0x6c, 0x64,
   0x3c, 0x2f, 0x68, 0x31, 0x3e]

/-- `"This is some plain text"`. -/
def plainText : List UInt8 :=
  [0x54, 0x68, 0x69, 0x73, 0x20, 0x69, 0x73, 0x20, 0x73, 0x6f, 0x6d, 0x65, 0x20, 0x70, 0x6c,
   0x61, 0x69, 0x6e, 0x20, 0x74, 0x65, 0x78, 0x74]

/-- What `readFrame` finds, and a number from `random()` for each call of `havePacket`. -/
structure Pass where
  frame : Frame
  forRoot : UInt32
  forText : UInt32
  forOther : UInt32
  forNotFound : UInt32

/-- A check, on the state the Print interface works with. -/
def isGet (path : FlashString) (randomNumber : UInt32) (state : PrintState HTTPServer) :
    Bool × PrintState HTTPServer :=
  let (matched, server, ether) := HTTPServer.isGet path randomNumber state.socket state.ether
  (matched, { state with socket := server, ether := ether })

/-- `loop` behind `receivePacket`. -/
def serve (pass : Pass) (state : PrintState HTTPServer) : PrintState HTTPServer :=
  let (isRoot, state) := isGet rootPath pass.forRoot state
  if isRoot then
    let state := printHeaders typeHtml status200 state
    let state := println helloWorld state
    sendReply state
  else
    let (isText, state) := isGet textPath pass.forText state
    if isText then
      let state := printHeaders typePlain status200 state
      let state := println plainText state
      sendReply state
    else
      let (isOther, state) := havePacket pass.forOther state
      if isOther then notFound pass.forNotFound state
      else { state with ether := state.ether.rejectPacket }

/-- `none` when `receivePacket` never returns. -/
def loop (state : PrintState HTTPServer) (pass : Pass) : Option (PrintState HTTPServer) :=
  (state.ether.receivePacket pass.frame).map fun received =>
    serve pass { state with ether := received.2 }

/-! ### The pages -/

def rootPage : List UInt8 :=
  page typeHtml status200 helloWorld

def textPage : List UInt8 :=
  page typePlain status200 plainText

def notFoundPage : List UInt8 :=
  page typePlain status404 status404

/-- The packet in the buffer is a GET request for the path. -/
def AsksFor (ether : EtherSia) (path : FlashString) : Prop :=
  HasMethod (opened ether).buffer methodGet ∧ PathTaken (opened ether).buffer methodGet path

/-- The page that answers the request in the buffer. -/
inductive Page (ether : EtherSia) : List UInt8 → Prop
  | root (asks : AsksFor ether rootPath) : Page ether rootPage
  | text (notRoot : ¬AsksFor ether rootPath) (asks : AsksFor ether textPath) :
      Page ether textPage
  | notFound (notRoot : ¬AsksFor ether rootPath) (notText : ¬AsksFor ether textPath) :
      Page ether notFoundPage

end MiniHTTPServer

/-! ### A request that has been checked -/

namespace HTTPServer

theorem opens_opened (ether : EtherSia) : Opens ether (opened ether) where
  sent := rfl
  addresses := agree_store _ _ (Or.inl (by decide))
  header := fun _ => Agree.refl _ _ _

theorem receiveHeaderLen_opened (ether : EtherSia) :
    TCPHeader.receiveHeaderLen (opened ether).buffer =
      TCPHeader.receiveHeaderLen ether.buffer := by
  have cleared : (opened ether).buffer = store ether.buffer 67 [0] := rfl
  unfold TCPHeader.receiveHeaderLen
  simp [cleared]

theorem Opens.of_opened {before after : EtherSia} (opens : Opens (opened before) after) :
    Opens before after where
  sent := opens.sent
  addresses := opens.addresses.trans (opens_opened before).addresses
  header := by
    intro whole
    rw [← receiveHeaderLen_opened] at whole
    have header := opens.header whole
    rwa [opened_opened] at header

/-- A check writes behind the header of the packet only. -/
theorem answer_keeps (method path : FlashString) (server : HTTPServer) (ether : EtherSia) :
    (answer method path server ether).2.2.sent = ether.sent ∧
      Agree (answer method path server ether).2.2.buffer ether.buffer 0
        (TCPServer.payload ether.buffer) := by
  have locates (first length : UInt16) (server : HTTPServer) (other : EtherSia) :
      (locateBody (TCPServer.payload ether.buffer) first length server other).2.sent =
          other.sent ∧
        Agree (locateBody (TCPServer.payload ether.buffer) first length server other).2.buffer
          other.buffer 0 (TCPServer.payload ether.buffer) := by
    unfold locateBody
    dsimp only
    split
    · exact ⟨rfl, agree_store _ _ (Or.inl (Nat.le_add_right _ _))⟩
    · exact ⟨rfl, Agree.refl _ _ _⟩
  unfold answer
  dsimp only
  by_cases hasMethod : HasMethod ether.buffer method
  · rw [if_pos hasMethod]
    cases pathMatch ether.buffer method path with
    | refused => exact ⟨rfl, Agree.refl _ _ _⟩
    | bothEnded index =>
        have ends : Agree (store ether.buffer (targetStart ether.buffer method + index) [0])
            ether.buffer 0 (TCPServer.payload ether.buffer) := by
          refine agree_store _ _ (Or.inl ?_)
          unfold targetStart
          omega
        obtain ⟨sent, agree⟩ := locates (UInt16.ofNat method.length + 1)
          (TCPServer.payloadLength ether.buffer) (server.withPath ether.buffer method)
          (ether.modifyPacket fun packet =>
            store packet (targetStart ether.buffer method + index) [0])
        exact ⟨sent, agree.trans ends⟩
    | usedUp => exact locates _ _ _ ether
  · rw [if_neg hasMethod]
    exact ⟨rfl, Agree.refl _ _ _⟩

theorem answer_socket (method path : FlashString) (server : HTTPServer) (ether : EtherSia) :
    (answer method path server ether).2.1.socket = server.socket := by
  unfold answer
  dsimp only
  by_cases hasMethod : HasMethod ether.buffer method
  · rw [if_pos hasMethod]
    cases pathMatch ether.buffer method path <;> rfl
  · rw [if_neg hasMethod]

/-- What a check leaves of a packet with data. -/
theorem checkRequest_opens {server : HTTPServer} {ether : EtherSia}
    (hasData : TCPServer.HasData server.socket ether) (method path : FlashString)
    (randomNumber : UInt32) :
    (checkRequest method path randomNumber server ether).2.1.socket = server.serving.socket ∧
      Opens ether (checkRequest method path randomNumber server ether).2.2 := by
  rw [checkRequest_of_hasData hasData]
  obtain ⟨sent, agree⟩ := answer_keeps method path server.serving (opened ether)
  have start : TCPServer.payload (opened ether).buffer =
      54 + (TCPHeader.receiveHeaderLen ether.buffer).toNat := opened_payload ether
  rw [start] at agree
  refine ⟨answer_socket _ _ _ _, sent, ?_, fun whole => ?_⟩
  · exact (agree.mono le_rfl (Nat.le_add_right _ _)).trans (opens_opened ether).addresses
  · exact agree.mono (Nat.zero_le _) (by omega)

end HTTPServer

/-! ### One pass -/

namespace MiniHTTPServer

/-- The call sends at most one packet, and none without a packet in the buffer. -/
structure Answers (before after : EtherSia) : Prop where
  once : SendsOnce before after
  idle : before.bufferContainsReceived = false → after.sent = before.sent

theorem Answers.trans {before between after : EtherSia} (first : Answers before between)
    (second : Answers between after) : Answers before after := by
  refine ⟨?_, fun empty => ?_⟩
  · cases first.once with
    | nothing sent flag =>
        cases second.once with
        | nothing sentLater flagLater =>
            exact .nothing (sentLater.trans sent) fun later => flag (flagLater later)
        | frame octets sentLater flagLater =>
            exact .frame octets (sentLater.trans (congrArg (· ++ [octets]) sent)) flagLater
    | frame octets sent flag =>
        refine .frame octets ((second.idle flag).trans sent) ?_
        cases second.once with
        | nothing sentLater flagLater =>
            refine Bool.eq_false_iff.mpr fun later => ?_
            rw [flagLater later] at flag
            cases flag
        | frame octetsLater sentLater flagLater => exact flagLater
  · cases first.once with
    | nothing sent flag =>
        have stillEmpty : between.bufferContainsReceived = false := by
          refine Bool.eq_false_iff.mpr fun later => ?_
          rw [flag later] at empty
          cases empty
        exact (second.idle stillEmpty).trans sent
    | frame octets sent flag => exact (second.idle flag).trans (first.idle empty)

theorem rejectPacket_answers (ether : EtherSia) : Answers ether ether.rejectPacket where
  once := ether.rejectPacket_sendsOnce
  idle := fun empty => congrArg EtherSia.sent (rejectPacket_of_not_received empty)

theorem havePacket_answers (socket : Socket) (randomNumber : UInt32) (ether : EtherSia) :
    Answers ether (TCPServer.havePacket socket randomNumber ether).2.2 where
  once := TCPServer.havePacket_sendsOnce socket randomNumber ether
  idle := by
    intro empty
    unfold TCPServer.havePacket
    simp [empty]

/-- What a check that is false has done with a packet without data. -/
structure PassedOn (before after : PrintState HTTPServer) : Prop where
  localPort : after.socket.socket.localPort = before.socket.socket.localPort
  answers : Answers before.ether after.ether
  noData : ¬TCPServer.HasData after.socket.socket after.ether

theorem PassedOn.trans {before between after : PrintState HTTPServer}
    (first : PassedOn before between) (second : PassedOn between after) :
    PassedOn before after where
  localPort := second.localPort.trans first.localPort
  answers := first.answers.trans second.answers
  noData := second.noData

theorem isGet_of_not_hasData {state : PrintState HTTPServer} (path : FlashString)
    (randomNumber : UInt32) (refuses : ¬TCPServer.HasData state.socket.socket state.ether) :
    (isGet path randomNumber state).1 = false ∧
      PassedOn state (isGet path randomNumber state).2 := by
  obtain ⟨sameSocket, nothing⟩ := havePacket_of_not_hasData refuses randomNumber
  have checked := checkRequest_of_not_hasData refuses methodGet path randomNumber
  unfold isGet HTTPServer.isGet
  rw [checked]
  refine ⟨rfl, congrArg Socket.localPort sameSocket, havePacket_answers _ _ _, ?_⟩
  dsimp only
  rw [sameSocket]
  exact nothing

theorem havePacket_passedOn {state : PrintState HTTPServer} (randomNumber : UInt32)
    (refuses : ¬TCPServer.HasData state.socket.socket state.ether) :
    (havePacket randomNumber state).1 = false ∧
      PassedOn state (havePacket randomNumber state).2 := by
  obtain ⟨sameSocket, nothing⟩ := havePacket_of_not_hasData refuses randomNumber
  rw [← TCPServer.havePacket_eq_true_iff _ randomNumber] at refuses
  refine ⟨Bool.eq_false_iff.mpr refuses, congrArg Socket.localPort sameSocket,
    havePacket_answers _ _ _, ?_⟩
  unfold havePacket
  dsimp only
  rw [sameSocket]
  exact nothing

/-- The request is as it was received, but for its flags. -/
structure Unanswered (before after : PrintState HTTPServer) : Prop where
  socket : after.socket.socket = before.socket.serving.socket
  ether : after.ether = opened before.ether

theorem Unanswered.hasData {before after : PrintState HTTPServer}
    (unanswered : Unanswered before after)
    (hasData : TCPServer.HasData before.socket.socket before.ether) :
    TCPServer.HasData after.socket.socket after.ether := by
  rw [unanswered.ether, unanswered.socket]
  exact hasData_opened hasData rfl

theorem serving_socket {before after : PrintState HTTPServer}
    (unanswered : Unanswered before after) :
    after.socket.serving.socket = before.socket.serving.socket := by
  unfold serving
  rw [unanswered.socket]
  rfl

theorem Unanswered.trans {before between after : PrintState HTTPServer}
    (first : Unanswered before between) (second : Unanswered between after) :
    Unanswered before after where
  socket := second.socket.trans (serving_socket first)
  ether := by rw [second.ether, first.ether, opened_opened]

theorem Unanswered.opens {before between : PrintState HTTPServer} {after : EtherSia}
    (unanswered : Unanswered before between) (opens : Opens between.ether after) :
    Opens before.ether after := by
  rw [unanswered.ether] at opens
  exact opens.of_opened

theorem isGet_iff {state : PrintState HTTPServer} (path : FlashString) (randomNumber : UInt32)
    (hasData : TCPServer.HasData state.socket.socket state.ether) :
    (isGet path randomNumber state).1 = true ↔ AsksFor state.ether path := by
  have accepted := (TCPServer.havePacket_eq_true_iff _ randomNumber _).mpr hasData
  have isRequest : request randomNumber state.socket state.ether =
      (opened state.ether).buffer := by
    unfold request
    rw [TCPServer.havePacket_of_hasData hasData randomNumber]
    rfl
  have checks := @checkRequest_iff methodGet path _ _ _ accepted
  rw [isRequest, ← pathTaken_iff] at checks
  exact checks

theorem isGet_failed {state : PrintState HTTPServer} {path : FlashString}
    {randomNumber : UInt32} (hasData : TCPServer.HasData state.socket.socket state.ether)
    (failed : (isGet path randomNumber state).1 = false) :
    Unanswered state (isGet path randomNumber state).2 := by
  obtain ⟨socket, ether⟩ := (checkRequest_leaves failed).withData hasData
  exact ⟨socket, ether⟩

theorem havePacket_unanswered {state : PrintState HTTPServer} (randomNumber : UInt32)
    (hasData : TCPServer.HasData state.socket.socket state.ether) :
    (havePacket randomNumber state).1 = true ∧
      Unanswered state (havePacket randomNumber state).2 := by
  unfold havePacket
  rw [TCPServer.havePacket_of_hasData hasData randomNumber]
  exact ⟨rfl, rfl, rfl⟩

/-- The answer to a request is this page. -/
structure Serves (text : List UInt8) (before after : PrintState HTTPServer) : Prop where
  localPort : after.socket.socket.localPort = before.socket.socket.localPort
  payload : SendsPayload text before.ether after.ether
  segment : 20 ≤ (TCPHeader.receiveHeaderLen before.ether.buffer).toNat →
    AnswersSegment before.ether after.ether

theorem reply_serves {before state : PrintState HTTPServer}
    (hasData : TCPServer.HasData before.socket.socket before.ether)
    (contentType status line : List UInt8)
    (fits : (page contentType status line).length ≤ 522)
    (socket : state.socket.socket = before.socket.serving.socket)
    (opens : Opens before.ether state.ether) :
    Serves (page contentType status line) before
      (sendReply (println line (printHeaders contentType status state))) := by
  have fresh : state.socket.socket.writePos = -1 := by
    rw [socket]
    rfl
  have nonempty : page contentType status line ≠ [] := List.cons_ne_nil _ _
  obtain ⟨sameSocket, payload, segment⟩ := reply_answers opens fresh nonempty rfl fits
  rw [page_eq]
  refine ⟨?_, payload, segment hasData.data⟩
  rw [sameSocket]
  change state.socket.socket.localPort = _
  rw [socket]
  rfl

theorem serve_eq (pass : Pass) (state : PrintState HTTPServer) :
    serve pass state =
      let root := isGet rootPath pass.forRoot state
      let text := isGet textPath pass.forText root.2
      let other := havePacket pass.forOther text.2
      if root.1 then sendReply (println helloWorld (printHeaders typeHtml status200 root.2))
      else if text.1 then sendReply (println plainText (printHeaders typePlain status200 text.2))
      else if other.1 then notFound pass.forNotFound other.2
      else { other.2 with ether := other.2.ether.rejectPacket } :=
  rfl

theorem serve_request (state : PrintState HTTPServer)
    (hasData : TCPServer.HasData state.socket.socket state.ether) (pass : Pass) :
    ∃ text, Page state.ether text ∧ Serves text state (serve pass state) := by
  rw [serve_eq]
  dsimp only
  have rootIff := isGet_iff rootPath pass.forRoot hasData
  by_cases root : (isGet rootPath pass.forRoot state).1 = true
  · rw [if_pos root]
    obtain ⟨socket, opens⟩ := checkRequest_opens hasData methodGet rootPath pass.forRoot
    exact ⟨rootPage, .root (rootIff.mp root),
      reply_serves hasData _ _ _ (by decide) socket opens⟩
  · rw [if_neg root]
    have notRoot : ¬AsksFor state.ether rootPath := fun asks => root (rootIff.mpr asks)
    have passed := isGet_failed hasData (Bool.eq_false_iff.mpr root)
    have stillData := passed.hasData hasData
    have textIff := isGet_iff textPath pass.forText stillData
    have sameQuestion : AsksFor (isGet rootPath pass.forRoot state).2.ether textPath ↔
        AsksFor state.ether textPath := by
      unfold AsksFor
      rw [passed.ether, opened_opened]
    rw [sameQuestion] at textIff
    by_cases text : (isGet textPath pass.forText (isGet rootPath pass.forRoot state).2).1 = true
    · rw [if_pos text]
      obtain ⟨socket, opens⟩ := checkRequest_opens stillData methodGet textPath pass.forText
      have sameSocket := socket.trans (serving_socket passed)
      exact ⟨textPage, .text notRoot (textIff.mp text),
        reply_serves hasData _ _ _ (by decide) sameSocket (passed.opens opens)⟩
    · rw [if_neg text]
      have notText : ¬AsksFor state.ether textPath := fun asks => text (textIff.mpr asks)
      have passedTwice := passed.trans (isGet_failed stillData (Bool.eq_false_iff.mpr text))
      obtain ⟨isOther, third⟩ :=
        havePacket_unanswered pass.forOther (passedTwice.hasData hasData)
      rw [if_pos isOther]
      have passedThrice := passedTwice.trans third
      obtain ⟨isRequest, fourth⟩ :=
        havePacket_unanswered pass.forNotFound (passedThrice.hasData hasData)
      have left := passedThrice.trans fourth
      unfold notFound
      dsimp only
      rw [if_pos isRequest]
      have opens : Opens state.ether (havePacket pass.forNotFound (havePacket pass.forOther
          (isGet textPath pass.forText (isGet rootPath pass.forRoot state).2).2).2).2.ether := by
        rw [left.ether]
        exact opens_opened _
      exact ⟨notFoundPage, .notFound notRoot notText,
        reply_serves hasData _ _ _ (by decide) left.socket opens⟩

/-- Another packet is answered by one packet at most. -/
theorem serve_other (state : PrintState HTTPServer)
    (refuses : ¬TCPServer.HasData state.socket.socket state.ether) (pass : Pass) :
    (serve pass state).socket.socket.localPort = state.socket.socket.localPort ∧
      Answers state.ether (serve pass state).ether := by
  rw [serve_eq]
  dsimp only
  obtain ⟨root, first⟩ := isGet_of_not_hasData rootPath pass.forRoot refuses
  obtain ⟨text, second⟩ := isGet_of_not_hasData textPath pass.forText first.noData
  obtain ⟨other, third⟩ := havePacket_passedOn pass.forOther second.noData
  rw [if_neg (by rw [root]; decide), if_neg (by rw [text]; decide), if_neg (by rw [other]; decide)]
  have passed := (first.trans second).trans third
  exact ⟨passed.localPort, passed.answers.trans (rejectPacket_answers _)⟩

/-! ### Runs -/

/-- What a pass does with what it receives. -/
structure PassSpec (taken : Taken (PrintState HTTPServer) Pass) : Prop where
  localPort : taken.after.socket.socket.localPort = taken.before.socket.socket.localPort
  atMostOne : ∃ octets, taken.after.ether.sent = taken.before.ether.sent ++ octets ∧
    octets.length ≤ 1
  request : ∀ len received,
    taken.before.ether.receivePacket taken.event.frame = some (len, received) →
      TCPServer.HasData taken.before.socket.socket received →
        received.sent = taken.before.ether.sent ∧ ∃ text, Page received text ∧
          Serves text { taken.before with ether := received } taken.after

theorem sendsOnce_octets {before after : EtherSia} (once : SendsOnce before after) :
    ∃ octets, after.sent = before.sent ++ octets ∧ octets.length ≤ 1 := by
  cases once with
  | nothing sent _ => exact ⟨[], by rw [sent, List.append_nil], Nat.zero_le _⟩
  | frame octets sent _ => exact ⟨[octets], sent, le_rfl⟩

/-- With a packet left in the buffer, nothing has been sent yet. -/
theorem receivePacket_sends {ether received : EtherSia} {frame : Frame} {len : UInt16}
    (returned : ether.receivePacket frame = some (len, received)) :
    received.sent = ether.sent ∨ received.bufferContainsReceived = false ∧
      ∃ octets, received.sent = ether.sent ++ [octets] := by
  rcases EtherSia.receivePacket_sendsOnce returned with ⟨empty, once⟩ | ⟨_, once⟩
  · cases once with
    | nothing sent _ => exact Or.inl sent
    | frame octets sent _ => exact Or.inr ⟨empty, octets, sent⟩
  · cases once with
    | nothing sent _ => exact Or.inl sent
    | frame octets sent flag => exact Or.inr ⟨flag, octets, sent⟩

theorem loop_spec {state after : PrintState HTTPServer} {pass : Pass}
    (stepped : loop state pass = some after) : PassSpec ⟨state, pass, after⟩ := by
  obtain ⟨⟨len, received⟩, returned, serves⟩ := Option.map_eq_some_iff.mp stepped
  subst serves
  have receives := receivePacket_sends returned
  by_cases hasData : TCPServer.HasData state.socket.socket received
  · have unsent : received.sent = state.ether.sent := by
      rcases receives with same | ⟨empty, _⟩
      · exact same
      · exact absurd (hasData.received.symm.trans empty) (by decide)
    obtain ⟨text, page, serves⟩ := serve_request { state with ether := received }
      hasData pass
    have sent := serves.payload.sent.trans (congrArg (· ++ [_]) unsent)
    refine ⟨serves.localPort, ⟨_, sent, Nat.le_refl 1⟩, fun sameLen same again _ => ?_⟩
    cases again.symm.trans returned
    exact ⟨unsent, text, page, serves⟩
  · obtain ⟨samePort, answers⟩ := serve_other { state with ether := received }
      hasData pass
    refine ⟨samePort, ?_, fun sameLen same again data => ?_⟩
    · rcases receives with same | ⟨empty, octets, sent⟩
      · obtain ⟨octets, sent, short⟩ := sendsOnce_octets answers.once
        exact ⟨octets, sent.trans (congrArg (· ++ octets) same), short⟩
      · exact ⟨[octets], (answers.idle empty).trans sent, le_rfl⟩
    · cases again.symm.trans returned
      exact absurd data hasData

end MiniHTTPServer

end EtherSiaStack
