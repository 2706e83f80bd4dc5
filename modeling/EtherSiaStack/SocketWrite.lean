/-
The Print interface of the sockets.

`Socket` is an abstract class: where the payload to be sent lies and how it is sent are
virtual methods, as are the handling of line breaks and of the start of a packet.  A
`SocketClass` holds what a class defines for the first two, with what is relied on about
them; the others are the `Overrides` a call of `write` works with.
-/

import EtherSiaStack.Datagram

namespace EtherSiaStack

open ByteMemory IPv6Packet

/-! ### The classes -/

/-- `send` is `send(length, isReply)`: one packet is sent, of that payload length, and
what lies at `transmitPayload` and behind it is left alone. -/
structure SocketClass (σ : Type) where
  transmitPayload : Nat
  writePos : σ → Int16
  setWritePos : Int16 → σ → σ
  send : UInt16 → Bool → σ → EtherSia → σ × EtherSia
  writePos_setWritePos : ∀ pos socket, writePos (setWritePos pos socket) = pos
  setWritePos_writePos : ∀ socket, setWritePos (writePos socket) socket = socket
  setWritePos_twice : ∀ pos earlier socket,
    setWritePos pos (setWritePos earlier socket) = setWritePos pos socket
  send_setWritePos : ∀ length isReply pos socket ether,
    send length isReply (setWritePos pos socket) ether =
      (setWritePos pos (send length isReply socket ether).1,
        (send length isReply socket ether).2)
  afterHeaders : 54 ≤ transmitPayload ∧ transmitPayload ≤ 78
  sent : ∀ length isReply socket ether, (send length isReply socket ether).2.sent =
    ether.sent ++ [packetOctets (send length isReply socket ether).2.buffer]
  sentLength : ∀ length isReply socket ether,
    IPv6Packet.length (send length isReply socket ether).2.buffer =
      UInt16.ofNat transmitPayload + length
  keepsPayload : ∀ length isReply socket ether last,
    Agree (send length isReply socket ether).2.buffer ether.buffer transmitPayload last

theorem length_of_payloadLength {packet : Memory} {total : UInt16}
    (isTotal : IPv6Packet.payloadLength packet = total) :
    IPv6Packet.length packet = 54 + total := by
  unfold IPv6Packet.length
  rw [isTotal]
  rfl

theorem EtherSia.send_sent (ether : EtherSia) :
    ether.send.sent = ether.sent ++ [packetOctets ether.send.buffer] :=
  rfl

def UDPSocket.socketClass : SocketClass Socket where
  transmitPayload := UDPSocket.payload
  writePos := Socket.writePos
  setWritePos := fun pos socket => { socket with writePos := pos }
  send := fun length isReply socket ether => (socket, UDPSocket.send socket length isReply ether)
  writePos_setWritePos := fun _ _ => rfl
  setWritePos_writePos := fun _ => rfl
  setWritePos_twice := fun _ _ _ => rfl
  send_setWritePos := fun _ _ _ _ _ => rfl
  afterHeaders := by decide
  sent := fun _ isReply socket ether =>
    congrArg (· ++ [_]) (socket.prepare_sent isReply ether)
  sentLength := fun length isReply socket ether => by
    have filled := UDPSocket.sendInternal_fillsHeader socket length isReply
      (socket.prepare isReply ether)
    have total := length_of_payloadLength filled.payloadLength
    rw [← add_assoc] at total
    exact total
  keepsPayload := fun length isReply socket ether last =>
    (UDPSocket.sendInternal_agree socket length isReply (socket.prepare isReply ether)
      (Or.inr (Or.inr le_rfl))).trans
      ((socket.prepare_payload isReply ether last).mono (by decide) le_rfl)

def TCPServer.socketClass : SocketClass Socket where
  transmitPayload := TCPServer.transmitPayload
  writePos := Socket.writePos
  setWritePos := fun pos socket => { socket with writePos := pos }
  send := fun length isReply socket ether => (socket, TCPServer.send socket length isReply ether)
  writePos_setWritePos := fun _ _ => rfl
  setWritePos_writePos := fun _ => rfl
  setWritePos_twice := fun _ _ _ => rfl
  send_setWritePos := fun _ _ _ _ _ => rfl
  afterHeaders := by decide
  sent := fun _ isReply socket ether =>
    congrArg (· ++ [_]) (socket.prepare_sent isReply ether)
  sentLength := fun length isReply socket ether => by
    let packet := (socket.prepare isReply ether).buffer
    have filled : IPv6Packet.payloadLength
        (storeChecksum (segmentFields socket length packet) TCPHeader.checksumAddress) =
          TCP_TRANSMIT_HEADER_LEN + length := by
      simp [storeChecksum, segmentFields, TCPHeader.checksumAddress]
    have total := length_of_payloadLength filled
    rw [← add_assoc] at total
    exact total
  keepsPayload := fun length isReply socket ether last => by
    let packet := (socket.prepare isReply ether).buffer
    have fills : Agree
        (storeChecksum (segmentFields socket length packet) TCPHeader.checksumAddress)
        packet 78 last :=
      (storeChecksum_agree _ (Or.inr (by decide))).trans (segmentFields_agree socket length packet
        (Or.inr (Or.inr le_rfl)))
    exact fills.trans ((socket.prepare_payload isReply ether last).mono (by decide) le_rfl)

/-- What `sendInternal` does to the interface, whatever the timers. -/
theorem TCPClient.sendInternal_ether (client : TCPClient) (length : UInt16) (ether : EtherSia) :
    (client.sendInternal length ether).2 = (ether.modifyPacket fun packet =>
      client.fillTCPHeader (setPayloadLength (TCPHeader.setDataOffset packet 0x60)
        (TCPHeader.receiveHeaderLen (TCPHeader.setDataOffset packet 0x60) + length))).send := by
  unfold sendInternal
  dsimp only
  split
  · rfl
  · rfl

def TCPClient.socketClass : SocketClass TCPClient where
  transmitPayload := TCPClient.transmitPayload
  writePos := fun client => client.writePos
  setWritePos := fun pos client => { client with writePos := pos }
  send := fun length isReply client ether => client.send length isReply ether
  writePos_setWritePos := fun _ _ => rfl
  setWritePos_writePos := fun _ => rfl
  setWritePos_twice := fun _ _ _ => rfl
  send_setWritePos := fun length isReply pos client ether => by
    unfold TCPClient.send TCPClient.sendInternal
    dsimp only
    split
    · rfl
    · rfl
  afterHeaders := by decide
  sent := fun length isReply client ether => by
    unfold TCPClient.send
    rw [TCPClient.sendInternal_ether]
    exact congrArg (· ++ [_]) (client.toSocket.prepare_sent isReply ether)
  sentLength := fun length isReply client ether => by
    unfold TCPClient.send
    rw [TCPClient.sendInternal_ether]
    let packet := (client.toSocket.prepare isReply ether).buffer
    have filled : IPv6Packet.payloadLength (client.fillTCPHeader (setPayloadLength
        (TCPHeader.setDataOffset packet 0x60)
          (TCPHeader.receiveHeaderLen (TCPHeader.setDataOffset packet 0x60) + length))) =
        24 + length := by
      rw [TCPClient.fillTCPHeader_payloadLength, TCPClient.receiveHeaderLen_setDataOffset]
      exact u16At_store_self _ _ _
    have total := length_of_payloadLength filled
    rw [← add_assoc] at total
    exact total
  keepsPayload := fun length isReply client ether last => by
    unfold TCPClient.send
    rw [TCPClient.sendInternal_ether]
    apply (client.fillTCPHeader_agree _ (Or.inr (Or.inr (by decide)))).trans
    apply (agree_store _ _ (Or.inr (by rw [bytes16_length]; decide))).trans
    apply (agree_store _ _ (Or.inr (by decide))).trans
    exact (client.toSocket.prepare_payload isReply ether last).mono (by decide) le_rfl

/-! ### Writing -/

/-- A socket, its interface and the addresses that data has been stored at; the last is a
log and not a member of the class. -/
structure PrintState (σ : Type) where
  socket : σ
  ether : EtherSia
  stored : List Int

/-- The virtual methods that only some classes define. -/
structure Overrides (σ : Type) where
  handleWriteNewline : PrintState σ → Bool × PrintState σ
  writePayloadHeader : PrintState σ → PrintState σ

/-- What `Socket` itself defines. -/
def Overrides.default {σ : Type} : Overrides σ where
  handleWriteNewline := fun state => (true, state)
  writePayloadHeader := fun state => state

/-- `'\n'` or `'\r'`. -/
def isNewline (chr : UInt8) : Bool :=
  chr = 0x0A ∨ chr = 0x0D

/-- The addresses of a range. -/
def addresses (first : Int) (count : Nat) : List Int :=
  (List.range count).map fun index : Nat => first + (index : Int)

/-- A store of one byte.  What lies in front of the buffer is not in this memory. -/
def storeByte (packet : Memory) (address : Int) (byte : UInt8) : Memory :=
  if 0 ≤ address then store packet address.toNat [byte] else packet

namespace SocketClass

variable {σ : Type} (cls : SocketClass σ)

/-- Where the next character goes. -/
def writeAddress (state : PrintState σ) : Int :=
  cls.transmitPayload + (cls.writePos state.socket).toInt

/-- `payload[_writePos++] = chr`. -/
def put (chr : UInt8) (state : PrintState σ) : PrintState σ where
  socket := cls.setWritePos (cls.writePos state.socket + 1) state.socket
  ether := state.ether.modifyPacket fun packet =>
    storeByte packet (cls.writeAddress state) chr
  stored := state.stored ++ [cls.writeAddress state]

def setPos (pos : Int16) (state : PrintState σ) : PrintState σ :=
  { state with socket := cls.setWritePos pos state.socket }

/-- `Socket::write`, and the number of characters written. -/
def write (overrides : Overrides σ) (chr : UInt8) (state : PrintState σ) :
    Nat × PrintState σ :=
  let (doWriteChar, state) :=
    if isNewline chr then overrides.handleWriteNewline state
    else if cls.writePos state.socket = -1 then
      (true, overrides.writePayloadHeader (cls.setPos 0 state))
    else (true, state)
  if doWriteChar then (1, cls.put chr state) else (0, state)

/-- `Print::print` of a string, which is not stopped by what `write` returns. -/
def print (overrides : Overrides σ) (str : List UInt8) (state : PrintState σ) :
    PrintState σ :=
  str.foldl (fun state chr => (cls.write overrides chr state).2) state

/-- `Socket::send(length, isReply)`. -/
def sendLength (length : UInt16) (isReply : Bool) (state : PrintState σ) : PrintState σ :=
  let (socket, ether) := cls.send length isReply state.socket state.ether
  { state with socket := socket, ether := ether }

/-- `Socket::send(isReply)`; `sendReply()` is `send(true)`. -/
def sendWritten (isReply : Bool) (state : PrintState σ) : PrintState σ :=
  if cls.writePos state.socket > 0 then
    cls.setPos (-1)
      (cls.sendLength (cls.writePos state.socket).toUInt16 isReply state)
  else state

/-- `Socket::send(data, length, isReply)`. -/
def sendData (data : Memory) (length : UInt16) (isReply : Bool) (state : PrintState σ) :
    PrintState σ :=
  let bytes := bytesAt data 0 length.toNat
  cls.sendLength length isReply
    { state with
      ether := state.ether.modifyPacket fun packet => store packet cls.transmitPayload bytes
      stored := state.stored ++ addresses cls.transmitPayload length.toNat }

/-! ### Characters in a row -/

/-- The part of `write` that stores, for each character. -/
def puts (str : List UInt8) (state : PrintState σ) : PrintState σ :=
  str.foldl (fun state chr => cls.put chr state) state

theorem writeAddress_of_writePos {state : PrintState σ} {pos : Nat}
    (here : cls.writePos state.socket = Int16.ofNat pos) (small : pos < 32768) :
    cls.writeAddress state = ((cls.transmitPayload + pos : Nat) : Int) := by
  unfold writeAddress
  rw [here, Int16.toInt_ofNat_of_lt small]
  rfl

theorem storeByte_natCast (packet : Memory) (address : Nat) (byte : UInt8) :
    storeByte packet address byte = store packet address [byte] := by
  unfold storeByte
  rw [if_pos (Int.natCast_nonneg _), Int.toNat_natCast]

theorem addresses_succ (first : Int) (count : Nat) :
    addresses first (count + 1) = first :: addresses (first + 1) count := by
  unfold addresses
  rw [List.range_succ_eq_map, List.map_cons, List.map_map]
  refine congrArg₂ List.cons (Int.add_zero _) (List.map_congr_left fun index _ => ?_)
  change first + ((index + 1 : Nat) : Int) = first + 1 + index
  omega

/-- From a position that is not negative, the characters are stored one behind the
other. -/
theorem puts_eq (str : List UInt8) {state : PrintState σ} {pos : Nat}
    (here : cls.writePos state.socket = Int16.ofNat pos)
    (small : pos + str.length < 32768) :
    cls.puts str state =
      { socket := cls.setWritePos (Int16.ofNat (pos + str.length)) state.socket
        ether := state.ether.modifyPacket fun packet =>
          store packet (cls.transmitPayload + pos) str
        stored := state.stored ++
          addresses (cls.transmitPayload + pos : Nat) str.length } := by
  induction str generalizing state pos with
  | nil =>
      have same := cls.setWritePos_writePos state.socket
      rw [here] at same
      simp only [puts, List.foldl_nil, List.length_nil, Nat.add_zero, same,
        EtherSia.modifyPacket, store_nil, addresses, List.range_zero, List.map_nil,
        List.append_nil]
  | cons chr rest ih =>
      rw [List.length_cons] at small
      have address := cls.writeAddress_of_writePos here (by omega)
      have next : cls.writePos (cls.put chr state).socket = Int16.ofNat (pos + 1) := by
        rw [put, cls.writePos_setWritePos, here, Int16.ofNat_add]
        rfl
      have behind := ih next (by omega)
      have ends : pos + 1 + rest.length = pos + (chr :: rest).length := by
        rw [List.length_cons]
        omega
      have start : cls.transmitPayload + (pos + 1) = cls.transmitPayload + pos + 1 := rfl
      change cls.puts rest (cls.put chr state) = _
      rw [behind, put, address, cls.setWritePos_twice, ends]
      congr 1
      · have joined : store state.ether.buffer (cls.transmitPayload + pos) (chr :: rest) =
            store (store state.ether.buffer (cls.transmitPayload + pos) [chr])
              (cls.transmitPayload + pos + 1) rest :=
          store_append _ _ [chr] rest
        unfold EtherSia.modifyPacket
        dsimp only
        rw [storeByte_natCast, start, joined]
      · rw [List.length_cons, addresses_succ, List.append_assoc]
        rfl

theorem write_of_writePos {overrides : Overrides σ} {chr : UInt8} {state : PrintState σ}
    (plain : isNewline chr = true → overrides.handleWriteNewline state = (true, state))
    (started : isNewline chr = false → cls.writePos state.socket ≠ -1) :
    cls.write overrides chr state = (1, cls.put chr state) := by
  unfold write
  cases isLine : isNewline chr with
  | true =>
      rw [if_pos rfl, plain isLine]
      rfl
  | false =>
      rw [if_neg Bool.false_ne_true, if_neg (started isLine)]
      rfl

theorem ofNat_ne_neg_one {pos : Nat} (small : pos < 32768) : Int16.ofNat pos ≠ -1 := by
  intro same
  have value := congrArg Int16.toInt same
  rw [Int16.toInt_ofNat_of_lt small] at value
  change (pos : Int) = -1 at value
  omega

/-- Behind the start of a packet, `print` only stores. -/
theorem print_eq_puts {overrides : Overrides σ} (str : List UInt8)
    (plain : ∀ chr ∈ str, isNewline chr = true →
      ∀ state, overrides.handleWriteNewline state = (true, state))
    {state : PrintState σ} {pos : Nat}
    (here : cls.writePos state.socket = Int16.ofNat pos)
    (small : pos + str.length < 32768) :
    cls.print overrides str state = cls.puts str state := by
  induction str generalizing state pos with
  | nil => rfl
  | cons chr rest ih =>
      rw [List.length_cons] at small
      have written : cls.write overrides chr state = (1, cls.put chr state) :=
        cls.write_of_writePos (fun isLine => plain chr List.mem_cons_self isLine state)
          fun _ => here ▸ ofNat_ne_neg_one (by omega)
      have next : cls.writePos (cls.put chr state).socket = Int16.ofNat (pos + 1) := by
        rw [put, cls.writePos_setWritePos, here, Int16.ofNat_add]
        rfl
      have behind := ih (fun other member => plain other (List.mem_cons_of_mem _ member)) next
        (by omega)
      unfold print puts at behind ⊢
      rw [List.foldl_cons, List.foldl_cons, written]
      exact behind

/-! ### What is sent -/

/-- The packet that is sent ends with the data in the buffer. -/
theorem send_packetOctets {data : List UInt8} {ether : EtherSia}
    (spelled : Spells ether.buffer cls.transmitPayload data)
    (short : cls.transmitPayload + data.length < 65536) (isReply : Bool) (socket : σ) :
    let buffer := (cls.send (UInt16.ofNat data.length) isReply socket ether).2.buffer
    (packetOctets buffer).length = cls.transmitPayload + data.length ∧
      (packetOctets buffer).drop cls.transmitPayload = data := by
  intro buffer
  have count : (IPv6Packet.length buffer).toNat = cls.transmitPayload + data.length := by
    rw [cls.sentLength, ← UInt16.ofNat_add, UInt16.toNat_ofNat_of_lt' short]
  have kept := cls.keepsPayload (UInt16.ofNat data.length) isReply socket ether
    (cls.transmitPayload + data.length)
  unfold packetOctets
  rw [count]
  refine ⟨bytesAt_length _ _ _, ?_⟩
  rw [drop_bytesAt, Nat.zero_add, Nat.add_sub_cancel_left,
    kept.bytesAt_eq le_rfl le_rfl]
  exact spelled

theorem ofNat_pos {pos : Nat} (positive : 0 < pos) (small : pos < 32768) :
    Int16.ofNat pos > 0 := by
  rw [gt_iff_lt, Int16.lt_iff_toInt_lt, Int16.toInt_ofNat_of_lt small]
  change (0 : Int) < pos
  omega

/-- What `sendWritten` does behind characters that have been stored. -/
theorem sendWritten_of_writePos {state : PrintState σ} {pos : Nat}
    (here : cls.writePos state.socket = Int16.ofNat pos) (positive : 0 < pos)
    (small : pos < 32768) (isReply : Bool) :
    cls.sendWritten isReply state =
      cls.setPos (-1) (cls.sendLength (UInt16.ofNat pos) isReply state) := by
  unfold sendWritten
  rw [here, if_pos (ofNat_pos positive small), Int16.toUInt16_ofNat']

end SocketClass

/-! ### print() and then send() -/

/-- The message has been sent as its own packet, and the socket is ready for the next. -/
structure PrintsAndSends {σ : Type} (cls : SocketClass σ) (str : List UInt8) (isReply : Bool)
    (before after : PrintState σ) : Prop where
  payload : ∃ octets, after.ether.sent = before.ether.sent ++ [octets] ∧
    octets.length = cls.transmitPayload + str.length ∧ octets.drop cls.transmitPayload = str
  headers : after.ether = (cls.send (UInt16.ofNat str.length) isReply before.socket
    (before.ether.modifyPacket fun packet => store packet cls.transmitPayload str)).2
  untouched : ∀ address ∈ after.stored.drop before.stored.length,
    cls.transmitPayload ≤ address ∧ address < cls.transmitPayload + str.length
  ready : cls.writePos after.socket = -1

section PrintAndSend

variable {σ : Type} {cls : SocketClass σ} {chr : UInt8} {rest : List UInt8}
  {state : PrintState σ}

theorem plain_default (str : List UInt8) : ∀ chr ∈ str, isNewline chr = true →
    ∀ state : PrintState σ, Overrides.default.handleWriteNewline state = (true, state) :=
  fun _ _ _ _ => rfl

/-- A first character that is no line break starts the message. -/
theorem print_of_not_newline (fresh : cls.writePos state.socket = -1)
    (plain : isNewline chr = false) (small : rest.length + 1 < 32768) :
    cls.print .default (chr :: rest) state = cls.puts (chr :: rest) (cls.setPos 0 state) := by
  have started : cls.writePos (cls.setPos 0 state).socket = Int16.ofNat 0 :=
    cls.writePos_setWritePos _ _
  have first : cls.write .default chr state = (1, cls.put chr (cls.setPos 0 state)) := by
    unfold SocketClass.write
    rw [plain, if_neg Bool.false_ne_true, if_pos fresh]
    rfl
  have next : cls.writePos (cls.put chr (cls.setPos 0 state)).socket = Int16.ofNat 1 := by
    rw [SocketClass.put, cls.writePos_setWritePos, started]
    rfl
  have behind := cls.print_eq_puts rest (plain_default rest) next (by omega)
  unfold SocketClass.print SocketClass.puts at behind ⊢
  rw [List.foldl_cons, List.foldl_cons, first]
  exact behind

/-- A first line break is stored in front of the payload. -/
theorem print_of_newline (fresh : cls.writePos state.socket = -1)
    (isLine : isNewline chr = true) (small : rest.length < 32768) :
    cls.writePos (cls.put chr state).socket = Int16.ofNat 0 ∧
      cls.print .default (chr :: rest) state = cls.puts rest (cls.put chr state) := by
  have next : cls.writePos (cls.put chr state).socket = Int16.ofNat 0 := by
    rw [SocketClass.put, cls.writePos_setWritePos, fresh]
    rfl
  have first : cls.write .default chr state = (1, cls.put chr state) :=
    cls.write_of_writePos (fun _ => rfl) fun plain => by
      rw [plain] at isLine
      cases isLine
  have behind := cls.print_eq_puts rest (plain_default rest) next (by omega)
  refine ⟨next, ?_⟩
  unfold SocketClass.print SocketClass.puts at behind ⊢
  rw [List.foldl_cons, first]
  exact behind

theorem sendWritten_puts {str : List UInt8}
    (here : cls.writePos state.socket = Int16.ofNat 0) (nonempty : str ≠ [])
    (small : str.length < 32768) (isReply : Bool) :
    cls.sendWritten isReply (cls.puts str state) =
      { socket := cls.setWritePos (-1) (cls.send (UInt16.ofNat str.length) isReply
          state.socket (state.ether.modifyPacket fun packet =>
            store packet cls.transmitPayload str)).1
        ether := (cls.send (UInt16.ofNat str.length) isReply state.socket
          (state.ether.modifyPacket fun packet => store packet cls.transmitPayload str)).2
        stored := state.stored ++ addresses cls.transmitPayload str.length } := by
  have positive := List.length_pos_of_ne_nil nonempty
  have put := cls.puts_eq str here (by omega)
  rw [Nat.zero_add, Nat.add_zero] at put
  have ends : cls.writePos (cls.puts str state).socket = Int16.ofNat str.length := by
    rw [put]
    exact cls.writePos_setWritePos _ _
  rw [cls.sendWritten_of_writePos ends positive small, put]
  unfold SocketClass.setPos SocketClass.sendLength
  simp only [cls.send_setWritePos, cls.setWritePos_twice]

/-- One packet or none is sent, by how many characters have been stored. -/
theorem sendWritten_puts_payload {str : List UInt8} {octets : List UInt8}
    (here : cls.writePos state.socket = Int16.ofNat 0) (small : str.length < 32768)
    {isReply : Bool}
    (sent : (cls.sendWritten isReply (cls.puts str state)).ether.sent =
      state.ether.sent ++ [octets]) :
    octets.length = cls.transmitPayload + str.length := by
  by_cases nonempty : str = []
  · have stays : cls.sendWritten isReply (cls.puts str state) = state := by
      rw [nonempty]
      unfold SocketClass.sendWritten
      change (if cls.writePos state.socket > 0 then _ else _) = _
      rw [here, if_neg (by decide)]
      rfl
    rw [stays] at sent
    exact absurd (List.append_right_eq_self.mp sent.symm) (List.cons_ne_nil _ _)
  · have after := cls.afterHeaders.2
    have spelled : Spells (state.ether.modifyPacket fun packet =>
        store packet cls.transmitPayload str).buffer cls.transmitPayload str :=
      spells_store _ _ _
    have sends := cls.send_packetOctets spelled (by omega) isReply state.socket
    rw [sendWritten_puts here nonempty small, cls.sent] at sent
    have last := List.append_cancel_left sent
    rw [← (List.cons.inj last).1]
    exact sends.1

/-- For every class with the default handling of line breaks: what is written one byte at
a time from a fresh state is sent as the payload exactly when it does not begin with a line
break. -/
theorem print_then_send_iff {str : List UInt8} (nonempty : str ≠ [])
    (fits : cls.transmitPayload + str.length ≤ ETHERSIA_MAX_PACKET_SIZE) (isReply : Bool)
    (fresh : cls.writePos state.socket = -1) :
    PrintsAndSends cls str isReply state
        (cls.sendWritten isReply (cls.print .default str state)) ↔
      isNewline (str.head nonempty) = false := by
  have room : str.length ≤ 600 := Nat.le_trans (Nat.le_add_left _ _) fits
  obtain ⟨chr, rest, rfl⟩ := List.exists_cons_of_ne_nil nonempty
  rw [List.length_cons] at room
  rw [List.head_cons]
  cases isLine : isNewline chr with
  | true =>
      refine iff_of_false (fun prints => ?_) (by decide)
      have small : rest.length < 32768 := by omega
      obtain ⟨next, printed⟩ := print_of_newline fresh isLine small
      obtain ⟨octets, sent, count, -⟩ := prints.payload
      rw [printed] at sent
      have counted := sendWritten_puts_payload next small sent
      rw [List.length_cons] at count
      omega
  | false =>
      refine iff_of_true ?_ rfl
      have start : cls.writePos (cls.setPos 0 state).socket = Int16.ofNat 0 :=
        cls.writePos_setWritePos _ _
      have spelled : Spells (state.ether.modifyPacket fun packet =>
          store packet cls.transmitPayload (chr :: rest)).buffer cls.transmitPayload
            (chr :: rest) := spells_store _ _ _
      have after := cls.afterHeaders.2
      have small : rest.length + 1 < 32768 := by omega
      have total : (chr :: rest).length = rest.length + 1 := List.length_cons
      have sends := cls.send_packetOctets spelled (by omega) isReply state.socket
      rw [print_of_not_newline fresh isLine small,
        sendWritten_puts start nonempty (total ▸ small)]
      simp only [SocketClass.setPos, cls.send_setWritePos, cls.setWritePos_twice]
      refine ⟨⟨_, cls.sent _ _ _ _, sends.1, sends.2⟩, rfl, ?_, cls.writePos_setWritePos _ _⟩
      intro address member
      dsimp only at member
      rw [List.drop_left] at member
      obtain ⟨index, inside, rfl⟩ := List.mem_map.mp member
      have below := List.mem_range.mp inside
      omega

end PrintAndSend

def exampleStart : PrintState Socket where
  socket := exampleClient
  ether := EtherSia.configured (exampleMac 1) fun _ => 0
  stored := []

/-- "hi", from a datagram socket and as the answer of a server. -/
theorem print_then_send_hi :
    PrintsAndSends UDPSocket.socketClass [0x68, 0x69] false exampleStart
        (UDPSocket.socketClass.sendWritten false
          (UDPSocket.socketClass.print .default [0x68, 0x69] exampleStart)) ∧
      PrintsAndSends TCPServer.socketClass [0x68, 0x69] true exampleStart
        (TCPServer.socketClass.sendWritten true
          (TCPServer.socketClass.print .default [0x68, 0x69] exampleStart)) := by
  constructor
  · exact (print_then_send_iff (by decide) (by decide) false rfl).mpr rfl
  · exact (print_then_send_iff (by decide) (by decide) true rfl).mpr rfl

/-- A line feed alone is not sent. -/
theorem newline_is_not_sent :
    ¬ ∀ (str : List UInt8) (isReply : Bool) (state : PrintState Socket), str ≠ [] →
      UDPSocket.socketClass.transmitPayload + str.length ≤ ETHERSIA_MAX_PACKET_SIZE →
        UDPSocket.socketClass.writePos state.socket = -1 →
          PrintsAndSends UDPSocket.socketClass str isReply state
            (UDPSocket.socketClass.sendWritten isReply
              (UDPSocket.socketClass.print .default str state)) := by
  intro always
  obtain ⟨octets, sent, -⟩ :=
    (always [0x0A] false exampleStart (by decide) (by decide) rfl).payload
  have nothing : (UDPSocket.socketClass.sendWritten false
      (UDPSocket.socketClass.print .default [0x0A] exampleStart)).ether.sent =
        exampleStart.ether.sent := rfl
  rw [nothing] at sent
  exact absurd (List.append_right_eq_self.mp sent.symm) (List.cons_ne_nil _ _)

end EtherSiaStack
