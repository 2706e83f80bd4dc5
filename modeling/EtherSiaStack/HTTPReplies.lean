/-
The replies of the HTTP server.

A reply is printed line by line, from its status line on, and sent as one packet.  Each of
the functions prints; only the ones that make a whole reply send it.
-/

import EtherSiaStack.Acknowledgement
import EtherSiaStack.RequestChecks
import EtherSiaStack.Responses
import EtherSiaStack.SocketWrite

namespace EtherSiaStack

open ByteMemory IPv6Packet

namespace HTTPServer

/-! ### HTTPServer.cpp -/

/-- `"text/html"`. -/
def typeHtml : List UInt8 :=
  [0x74, 0x65, 0x78, 0x74, 0x2f, 0x68, 0x74, 0x6d, 0x6c]

/-- `"text/plain"`. -/
def typePlain : List UInt8 :=
  [0x74, 0x65, 0x78, 0x74, 0x2f, 0x70, 0x6c, 0x61, 0x69, 0x6e]

/-- `"application/json"`. -/
def typeJson : List UInt8 :=
  [0x61, 0x70, 0x70, 0x6c, 0x69, 0x63, 0x61, 0x74, 0x69, 0x6f, 0x6e, 0x2f, 0x6a, 0x73, 0x6f,
   0x6e]

/-- `"200 OK"`. -/
def status200 : List UInt8 :=
  [0x32, 0x30, 0x30, 0x20, 0x4f, 0x4b]

/-- `"302 Redirect"`. -/
def status302 : List UInt8 :=
  [0x33, 0x30, 0x32, 0x20, 0x52, 0x65, 0x64, 0x69, 0x72, 0x65, 0x63, 0x74]

/-- `"404 Not Found"`. -/
def status404 : List UInt8 :=
  [0x34, 0x30, 0x34, 0x20, 0x4e, 0x6f, 0x74, 0x20, 0x46, 0x6f, 0x75, 0x6e, 0x64]

/-- `"HTTP/1.0 "`. -/
def httpVersion : List UInt8 :=
  [0x48, 0x54, 0x54, 0x50, 0x2f, 0x31, 0x2e, 0x30, 0x20]

/-- `"Server: EtherSia"`. -/
def serverLine : List UInt8 :=
  [0x53, 0x65, 0x72, 0x76, 0x65, 0x72, 0x3a, 0x20, 0x45, 0x74, 0x68, 0x65, 0x72, 0x53, 0x69,
   0x61]

/-- `"Content-Type: "`. -/
def contentTypeName : List UInt8 :=
  [0x43, 0x6f, 0x6e, 0x74, 0x65, 0x6e, 0x74, 0x2d, 0x54, 0x79, 0x70, 0x65, 0x3a, 0x20]

/-- `"Location: "`. -/
def locationName : List UInt8 :=
  [0x4c, 0x6f, 0x63, 0x61, 0x74, 0x69, 0x6f, 0x6e, 0x3a, 0x20]

def lineEnd : List UInt8 :=
  [0x0d, 0x0a]

/-- The class of the server, as far as printing and sending go: a `TCPServer`. -/
def socketClass : SocketClass HTTPServer where
  transmitPayload := TCPServer.transmitPayload
  writePos := fun server => server.socket.writePos
  setWritePos := fun pos server =>
    { server with socket := { server.socket with writePos := pos } }
  send := fun length isReply server ether =>
    (server, TCPServer.send server.socket length isReply ether)
  writePos_setWritePos := fun _ _ => rfl
  setWritePos_writePos := fun _ => rfl
  setWritePos_twice := fun _ _ _ => rfl
  send_setWritePos := fun _ _ _ _ _ => rfl
  afterHeaders := TCPServer.socketClass.afterHeaders
  sent := fun length isReply server => TCPServer.socketClass.sent length isReply server.socket
  sentLength := fun length isReply server =>
    TCPServer.socketClass.sentLength length isReply server.socket
  keepsPayload := fun length isReply server =>
    TCPServer.socketClass.keepsPayload length isReply server.socket

def print (str : List UInt8) (state : PrintState HTTPServer) : PrintState HTTPServer :=
  socketClass.print .default str state

def println (str : List UInt8) (state : PrintState HTTPServer) : PrintState HTTPServer :=
  print lineEnd (print str state)

def sendReply (state : PrintState HTTPServer) : PrintState HTTPServer :=
  socketClass.sendWritten true state

def printStatus (status : List UInt8) (state : PrintState HTTPServer) :
    PrintState HTTPServer :=
  let state := print httpVersion state
  let state := println status state
  println serverLine state

def printHeaders (contentType status : List UInt8) (state : PrintState HTTPServer) :
    PrintState HTTPServer :=
  let state := printStatus status state
  let state := print contentTypeName state
  let state := println contentType state
  println [] state

/-- `havePacket` of the class, on the state the Print interface works with. -/
def havePacket (randomNumber : UInt32) (state : PrintState HTTPServer) :
    Bool × PrintState HTTPServer :=
  let (isRequest, socket, ether) :=
    TCPServer.havePacket state.socket.socket randomNumber state.ether
  (isRequest, { state with socket := { state.socket with socket := socket }, ether := ether })

def notFound (randomNumber : UInt32) (state : PrintState HTTPServer) :
    PrintState HTTPServer :=
  let (isRequest, state) := havePacket randomNumber state
  if isRequest then
    let state := printHeaders typePlain status404 state
    let state := println status404 state
    sendReply state
  else state

def redirect (location : List UInt8) (state : PrintState HTTPServer) : PrintState HTTPServer :=
  let state := printStatus status302 state
  let state := print locationName state
  let state := println location state
  let state := println [] state
  let state := println status302 state
  sendReply state

/-! ### The texts -/

def statusText (status : List UInt8) : List UInt8 :=
  httpVersion ++ (status ++ lineEnd) ++ (serverLine ++ lineEnd)

def headerText (contentType status : List UInt8) : List UInt8 :=
  statusText status ++ contentTypeName ++ (contentType ++ lineEnd) ++ lineEnd

theorem print_append (front rest : List UInt8) (state : PrintState HTTPServer) :
    print (front ++ rest) state = print rest (print front state) :=
  List.foldl_append

theorem println_eq (str : List UInt8) (state : PrintState HTTPServer) :
    println str state = print (str ++ lineEnd) state :=
  (print_append str lineEnd state).symm

theorem printStatus_eq (status : List UInt8) (state : PrintState HTTPServer) :
    printStatus status state = print (statusText status) state := by
  unfold printStatus statusText
  rw [println_eq, println_eq, ← print_append, ← print_append]
  simp only [List.append_assoc]

theorem printHeaders_eq (contentType status : List UInt8) (state : PrintState HTTPServer) :
    printHeaders contentType status state = print (headerText contentType status) state := by
  unfold printHeaders headerText
  rw [printStatus_eq, println_eq, println_eq, ← print_append, ← print_append, ← print_append]
  simp only [List.append_assoc, List.nil_append]

/-- A whole reply of one line. -/
def page (contentType status line : List UInt8) : List UInt8 :=
  headerText contentType status ++ (line ++ lineEnd)

def redirection (location : List UInt8) : List UInt8 :=
  statusText status302 ++ locationName ++ (location ++ lineEnd) ++ lineEnd ++
    (status302 ++ lineEnd)

theorem page_eq (contentType status line : List UInt8) (state : PrintState HTTPServer) :
    println line (printHeaders contentType status state) =
      print (page contentType status line) state := by
  unfold page
  rw [println_eq, printHeaders_eq, ← print_append]

theorem redirect_eq (location : List UInt8) (state : PrintState HTTPServer) :
    redirect location state = sendReply (print (redirection location) state) := by
  unfold redirect redirection
  dsimp only
  rw [printStatus_eq, println_eq, println_eq, println_eq, ← print_append, ← print_append,
    ← print_append, ← print_append]
  simp only [List.append_assoc, List.nil_append]

/-! ### One reply -/

/-- One packet has been sent to where the one in the buffer came from, with this payload. -/
structure SendsPayload (payload : List UInt8) (before after : EtherSia) : Prop where
  sent : after.sent = before.sent ++ [packetOctets after.buffer]
  destination : destination after.buffer = source before.buffer
  length : (packetOctets after.buffer).length = TCPServer.transmitPayload + payload.length
  payload : (packetOctets after.buffer).drop TCPServer.transmitPayload = payload

/-- The packet in the buffer answers that segment: it goes back to its port, takes its
numbers on, and ends the connection. -/
structure AnswersSegment (before after : EtherSia) : Prop where
  destinationPort : TCPHeader.destinationPort after.buffer = TCPHeader.sourcePort before.buffer
  sequenceNum : TCPHeader.sequenceNum after.buffer = TCPHeader.acknowledgementNum before.buffer
  acknowledgementNum : TCPHeader.acknowledgementNum after.buffer =
    TCPHeader.sequenceNum before.buffer + (TCPServer.payloadLength before.buffer).toUInt32
  flags : TCPHeader.flags after.buffer = TCP_FLAG_ACK ||| TCP_FLAG_FIN ||| TCP_FLAG_PSH

/-- What is printed from a fresh state is sent as one reply. -/
theorem sendReply_print {text : List UInt8} {state : PrintState HTTPServer}
    (fresh : state.socket.socket.writePos = -1) (nonempty : text ≠ [])
    (starts : isNewline (text.head nonempty) = false) (fits : text.length ≤ 522) :
    (sendReply (print text state)).socket = state.socket.serving ∧
      (sendReply (print text state)).ether = TCPServer.send state.socket.socket
        (UInt16.ofNat text.length) true
          (state.ether.modifyPacket fun packet => store packet TCPServer.transmitPayload text) := by
  obtain ⟨chr, rest, rfl⟩ := List.exists_cons_of_ne_nil nonempty
  have small : rest.length + 1 ≤ 522 := fits
  have plain : isNewline chr = false := starts
  have start : socketClass.writePos (socketClass.setPos 0 state).socket = Int16.ofNat 0 := rfl
  unfold sendReply print
  rw [print_of_not_newline fresh plain (by omega),
    sendWritten_puts start nonempty (by rw [List.length_cons]; omega)]
  exact ⟨rfl, rfl⟩

/-- What a request has become when it is answered: it is where it was and goes where it
came from, and if its TCP header is a whole one, only the flags of that have been cleared. -/
structure Opens (before after : EtherSia) : Prop where
  sent : after.sent = before.sent
  addresses : Agree after.buffer before.buffer 0 54
  header : 20 ≤ (TCPHeader.receiveHeaderLen before.buffer).toNat →
    Agree after.buffer (opened before).buffer 54 74

theorem segmentFields_ports (socket : Socket) (length : UInt16) (packet : Memory) :
    TCPHeader.destinationPort (TCPServer.segmentFields socket length packet) =
        TCPHeader.sourcePort packet ∧
      TCPHeader.sequenceNum (TCPServer.segmentFields socket length packet) =
        TCPHeader.acknowledgementNum packet := by
  unfold TCPServer.segmentFields
  constructor
  · by_cases cleared : TCPHeader.flags packet = 0
    · rw [if_pos cleared]
      simp
    · rw [if_neg cleared]
      simp
  · by_cases cleared : TCPHeader.flags packet = 0
    · rw [if_pos cleared]
      simp
    · rw [if_neg cleared]
      simp

theorem segmentFields_flags (socket : Socket) (length : UInt16) {packet : Memory}
    (cleared : TCPHeader.flags packet = 0) :
    TCPHeader.flags (TCPServer.segmentFields socket length packet) =
      TCP_FLAG_ACK ||| TCP_FLAG_FIN ||| TCP_FLAG_PSH := by
  unfold TCPServer.segmentFields
  rw [if_pos cleared]
  simp

/-- The reply to a segment from the packet in the buffer: its header is made from the
segment's, and the payload stays. -/
theorem send_answersSegment {socket : Socket} {before ether : EtherSia} (length : UInt16)
    (data : 0 < TCPServer.payloadLength before.buffer)
    (low : Agree ether.buffer before.buffer 18 20)
    (header : Agree ether.buffer (opened before).buffer 54 74) :
    AnswersSegment before (TCPServer.send socket length true ether) := by
  have agree : Agree ether.buffer before.buffer 54 67 :=
    (header.mono le_rfl (by decide)).trans (agree_store _ _ (Or.inl le_rfl))
  have noFlags : (opened before).buffer 67 = 0 := by
    change store before.buffer 67 [0] 67 = 0
    exact u8_store_self _ _ _
  have cleared : TCPHeader.flags ether.buffer = 0 :=
    (header 67 (by decide) (by decide)).trans noFlags
  have kept : Agree ether.prepareReply.buffer ether.buffer 54 74 := prepareReply_payload ether 74
  have sealed : Agree (TCPServer.send socket length true ether).buffer
      (TCPServer.segmentFields socket length ether.prepareReply.buffer) 54 70 :=
    storeChecksum_agree _ (Or.inl le_rfl)
  obtain ⟨port, number⟩ := segmentFields_ports socket length ether.prepareReply.buffer
  have keptFlags : TCPHeader.flags ether.prepareReply.buffer = 0 :=
    (kept 67 (by decide) (by decide)).trans cleared
  have nonzero : TCPServer.payloadLength before.buffer ≠ 0 := fun none => by
    rw [none] at data
    exact absurd data (by decide)
  have received : TCPServer.receivedLen ether.buffer = TCPServer.payloadLength before.buffer := by
    rw [TCPServer.receivedLen_congr low (agree.mono (by decide) le_rfl)]
    exact if_neg nonzero
  constructor
  · exact (sealed.u16At_eq (by decide) (by decide)).trans (port.trans
      ((kept.u16At_eq (by decide) (by decide)).trans (agree.u16At_eq (by decide) (by decide))))
  · exact (sealed.u32At_eq (by decide) (by decide)).trans (number.trans
      ((kept.u32At_eq (by decide) (by decide)).trans (agree.u32At_eq (by decide) (by decide))))
  · rw [TCPServer.send_acknowledgementNum, received]
    exact congrArg (· + _) (agree.u32At_eq (by decide) (by decide))
  · exact (sealed 67 (by decide) (by decide)).trans (segmentFields_flags socket length keptFlags)

theorem send_destination (socket : Socket) (length : UInt16) (ether : EtherSia) :
    destination (TCPServer.send socket length true ether).buffer = source ether.buffer := by
  have kept : Agree (TCPServer.send socket length true ether).buffer
      ether.prepareReply.buffer 38 54 :=
    (storeChecksum_agree _ (Or.inl (by decide))).trans
      (TCPServer.segmentFields_destination socket length _)
  exact (destination_congr kept.symm).symm.trans (prepareReply_destination ether)

/-- What is printed for a request that has been opened is its answer. -/
theorem reply_answers {before : EtherSia} {state : PrintState HTTPServer} {text : List UInt8}
    (opens : Opens before state.ether) (fresh : state.socket.socket.writePos = -1)
    (nonempty : text ≠ []) (starts : isNewline (text.head nonempty) = false)
    (fits : text.length ≤ 522) :
    let after := sendReply (print text state)
    after.socket = state.socket.serving ∧ SendsPayload text before after.ether ∧
      (0 < TCPServer.payloadLength before.buffer →
        20 ≤ (TCPHeader.receiveHeaderLen before.buffer).toNat →
          AnswersSegment before after.ether) := by
  intro after
  obtain ⟨sameSocket, isSent⟩ := sendReply_print fresh nonempty starts fits
  change after.ether = _ at isSent
  let printed := state.ether.modifyPacket fun packet =>
    store packet TCPServer.transmitPayload text
  have above : TCPServer.transmitPayload = 78 := rfl
  have stored : Agree printed.buffer state.ether.buffer 0 74 :=
    agree_store _ _ (Or.inl (by omega))
  have addresses : Agree printed.buffer before.buffer 0 54 :=
    (stored.mono le_rfl (by decide)).trans opens.addresses
  have spelled : Spells printed.buffer TCPServer.transmitPayload text := spells_store _ _ _
  have sends := TCPServer.socketClass.send_packetOctets spelled
    (show 78 + text.length < 65536 by omega) true state.socket.socket
  refine ⟨sameSocket, ⟨?_, ?_, ?_, ?_⟩, fun data whole => ?_⟩
  · rw [isSent, ← opens.sent]
    exact TCPServer.socketClass.sent _ true state.socket.socket printed
  · rw [isSent, send_destination]
    exact source_congr (addresses.mono (Nat.zero_le 22) (by decide))
  · rw [isSent]
    exact sends.1
  · rw [isSent]
    exact sends.2
  · rw [isSent]
    exact send_answersSegment _ data (addresses.mono (Nat.zero_le 18) (by decide))
      ((stored.mono (Nat.zero_le 54) le_rfl).trans (opens.header whole))

end HTTPServer

end EtherSiaStack
