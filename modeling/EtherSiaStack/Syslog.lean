/-
The syslog client.

A line break is not written into the packet: it ends the message with a NUL and sends it.
The first character of a line finds no packet begun, and `write` prints the header before
it, which makes `write` call itself.  How deep it does so is a parameter here, and the
calls within the header never start another header.
-/

import EtherSiaStack.SocketWrite

namespace EtherSiaStack

open ByteMemory IPv6Packet

structure Syslog extends Socket where
  pri : UInt8

namespace Syslog

/-! ### Syslog.cpp -/

def socketClass : SocketClass Syslog where
  transmitPayload := UDPSocket.payload
  writePos := fun syslog => syslog.writePos
  setWritePos := fun pos syslog => { syslog with writePos := pos }
  send := fun length isReply syslog ether =>
    (syslog, UDPSocket.send syslog.toSocket length isReply ether)
  writePos_setWritePos := fun _ _ => rfl
  setWritePos_writePos := fun _ => rfl
  setWritePos_twice := fun _ _ _ => rfl
  send_setWritePos := fun _ _ _ _ _ => rfl
  afterHeaders := UDPSocket.socketClass.afterHeaders
  sent := fun length isReply syslog => UDPSocket.socketClass.sent length isReply syslog.toSocket
  sentLength := fun length isReply syslog =>
    UDPSocket.socketClass.sentLength length isReply syslog.toSocket
  keepsPayload := fun length isReply syslog =>
    UDPSocket.socketClass.keepsPayload length isReply syslog.toSocket

def handleWriteNewline (state : PrintState Syslog) : Bool × PrintState Syslog :=
  if state.socket.writePos > 0 then
    let state := socketClass.put 0x00 state
    let state := socketClass.sendLength state.socket.writePos.toUInt16 false state
    (false, socketClass.setPos (-1) state)
  else (false, state)

/-- `snprintf` of a byte with `"%d"`. -/
def decimal (value : UInt8) : List UInt8 :=
  (Nat.toDigits 10 value.toNat).map fun digit => UInt8.ofNat digit.toNat

/-- `"EtherSia: "`. -/
def tag : List UInt8 :=
  [0x45, 0x74, 0x68, 0x65, 0x72, 0x53, 0x69, 0x61, 0x3a, 0x20]

/-- The virtual methods, with `write` calling itself as deep as `depth` through
`writePayloadHeader`. -/
def overrides : Nat → Overrides Syslog
  | 0 =>
      { handleWriteNewline := handleWriteNewline
        writePayloadHeader := fun state => state }
  | depth + 1 =>
      { handleWriteNewline := handleWriteNewline
        writePayloadHeader := fun state =>
          let state := socketClass.print (overrides depth) [0x3c] state
          let state := socketClass.print (overrides depth) (decimal state.socket.pri) state
          let state := socketClass.print (overrides depth) [0x3e] state
          socketClass.print (overrides depth) tag state }

/-- A call of the Print interface; numbers are printed as their digits. -/
inductive PrintCall
  | print (str : List UInt8)
  | println (str : List UInt8)

def PrintCall.run (depth : Nat) (state : PrintState Syslog) : PrintCall → PrintState Syslog
  | .print str => socketClass.print (overrides depth) str state
  | .println str =>
      let state := socketClass.print (overrides depth) str state
      socketClass.print (overrides depth) [0x0d, 0x0a] state

/-! ### Lines and messages -/

def PrintCall.text : PrintCall → List UInt8
  | .print str => str
  | .println str => str ++ [0x0d, 0x0a]

/-- The lines that a line break has ended. -/
def endedLines (text : List UInt8) : List (List UInt8) :=
  (text.splitOnP isNewline).dropLast

/-- What comes behind the last line break. -/
def lastLine (text : List UInt8) : List UInt8 :=
  (text.splitOnP isNewline).getLast (List.splitOnP_ne_nil _ _)

def header (pri : UInt8) : List UInt8 :=
  [0x3c] ++ decimal pri ++ [0x3e] ++ tag

/-- The payload of the message for a line. -/
def message (pri : UInt8) (line : List UInt8) : List UInt8 :=
  header pri ++ line ++ [0x00]

/-- The datagram that takes a line to the remote address. -/
def lineDatagram (start : PrintState Syslog) (line : List UInt8) : Datagram :=
  UDPSocket.sentDatagram start.socket.toSocket (message start.socket.pri line) false
    start.ether

/-- The frame is this datagram and nothing more. -/
structure FrameCarries (octets : List UInt8) (datagram : Datagram) : Prop where
  carries : CarriesDatagram (ofOctets octets) datagram
  length : octets.length = 62 + datagram.data.length

/-- Each line that has ended fits a packet with its header and its NUL, and the last line
with its header. -/
def LinesFit (pri : UInt8) (text : List UInt8) : Prop :=
  (∀ line ∈ endedLines text, (message pri line).length ≤ 538) ∧
    (header pri ++ lastLine text).length ≤ 538

instance (pri : UInt8) (text : List UInt8) : Decidable (LinesFit pri text) :=
  inferInstanceAs (Decidable ((∀ line ∈ endedLines text, _) ∧ _))

/-! ### The header -/

theorem decimal_plain (pri : UInt8) : ∀ chr ∈ decimal pri, isNewline chr = false := by
  have each : ∀ value < 256,
      (decimal (UInt8.ofNat value)).all (fun chr => !isNewline chr) = true := by
    decide +kernel
  have here := each pri.toNat pri.toNat_lt
  rw [UInt8.ofNat_toNat, List.all_eq_true] at here
  intro chr member
  have plain := here chr member
  rwa [Bool.not_eq_true'] at plain

theorem decimal_length (pri : UInt8) : (decimal pri).length ≤ 3 := by
  have each : ∀ value < 256, (decimal (UInt8.ofNat value)).length ≤ 3 := by
    decide +kernel
  have here := each pri.toNat pri.toNat_lt
  rwa [UInt8.ofNat_toNat] at here

theorem header_plain (pri : UInt8) : ∀ chr ∈ header pri, isNewline chr = false := by
  intro chr member
  unfold header at member
  rcases List.mem_append.mp member with member | inTag
  · rcases List.mem_append.mp member with member | isClose
    · rcases List.mem_append.mp member with isOpen | isDigit
      · rw [List.mem_singleton.mp isOpen]
        decide
      · exact decimal_plain pri chr isDigit
    · rw [List.mem_singleton.mp isClose]
      decide
  · have tagPlain : ∀ chr ∈ tag, isNewline chr = false := by decide +kernel
    exact tagPlain chr inTag

theorem header_length (pri : UInt8) : (header pri).length ≤ 15 ∧ header pri ≠ [] := by
  have digits := decimal_length pri
  unfold header tag
  simp only [List.length_append, List.length_cons, List.length_nil]
  refine ⟨by omega, ?_⟩
  simp

theorem message_length (pri : UInt8) (line : List UInt8) :
    (message pri line).length = (header pri ++ line).length + 1 :=
  List.length_append

section Header

variable {state : PrintState Syslog}

theorem overrides_handleWriteNewline (depth : Nat) :
    (overrides depth).handleWriteNewline = handleWriteNewline := by
  cases depth with
  | zero => rfl
  | succ depth => rfl

/-- Text without line breaks is only stored, once a packet is begun. -/
theorem print_of_plain (depth : Nat) {str : List UInt8}
    (plain : ∀ chr ∈ str, isNewline chr = false) {pos : Nat}
    (here : state.socket.writePos = Int16.ofNat pos) (small : pos + str.length < 32768) :
    socketClass.print (overrides depth) str state = socketClass.puts str state := by
  refine socketClass.print_eq_puts str (fun chr member isLine => ?_) here small
  rw [plain chr member] at isLine
  cases isLine

theorem print_append (depth : Nat) (first second : List UInt8) (state : PrintState Syslog) :
    socketClass.print (overrides depth) (first ++ second) state =
      socketClass.print (overrides depth) second
        (socketClass.print (overrides depth) first state) :=
  List.foldl_append

theorem puts_socket (str : List UInt8) {pos : Nat}
    (here : state.socket.writePos = Int16.ofNat pos) (small : pos + str.length < 32768) :
    (socketClass.puts str state).socket.writePos = Int16.ofNat (pos + str.length) ∧
      (socketClass.puts str state).socket.pri = state.socket.pri := by
  rw [socketClass.puts_eq str here small]
  exact ⟨rfl, rfl⟩

theorem writePayloadHeader_succ (depth : Nat) (state : PrintState Syslog) :
    (overrides (depth + 1)).writePayloadHeader state =
      socketClass.print (overrides depth) tag (socketClass.print (overrides depth) [0x3e]
        (socketClass.print (overrides depth)
          (decimal (socketClass.print (overrides depth) [0x3c] state).socket.pri)
          (socketClass.print (overrides depth) [0x3c] state))) := by
  rw [overrides]

/-- The header is stored at the start of the payload, however deep `write` may go. -/
theorem writePayloadHeader_eq (depth : Nat)
    (here : state.socket.writePos = Int16.ofNat 0) :
    (overrides (depth + 1)).writePayloadHeader state =
      socketClass.puts (header state.socket.pri) state := by
  have few := (header_length state.socket.pri).1
  have openPlain : ∀ chr ∈ [(0x3c : UInt8)], isNewline chr = false := by
    intro chr member
    rw [List.mem_singleton.mp member]
    decide
  have samePri : (socketClass.print (overrides depth) [0x3c] state).socket.pri =
      state.socket.pri := by
    rw [print_of_plain depth openPlain here (by decide)]
    exact (puts_socket [0x3c] here (by decide)).2
  rw [writePayloadHeader_succ, samePri, ← print_append, ← print_append, ← print_append,
    ← List.append_assoc, ← List.append_assoc]
  have whole : [0x3c] ++ decimal state.socket.pri ++ [0x3e] ++ tag =
      header state.socket.pri := rfl
  rw [whole]
  exact print_of_plain depth (header_plain state.socket.pri) here (by omega)

end Header

/-! ### One more character -/

theorem splitOnP_lines (text : List UInt8) :
    text.splitOnP isNewline = endedLines text ++ [lastLine text] :=
  (List.dropLast_concat_getLast _).symm

theorem lines_of_splitOnP {text last : List UInt8} {ended : List (List UInt8)}
    (lines : text.splitOnP isNewline = ended ++ [last]) :
    endedLines text = ended ∧ lastLine text = last := by
  rw [splitOnP_lines] at lines
  obtain ⟨sameEnded, sameLast⟩ := List.append_inj' lines rfl
  exact ⟨sameEnded, (List.cons.inj sameLast).1⟩

/-- A line break ends the last line. -/
theorem lines_of_newline {chr : UInt8} (text : List UInt8) (isLine : isNewline chr = true) :
    endedLines (text ++ [chr]) = endedLines text ++ [lastLine text] ∧
      lastLine (text ++ [chr]) = [] := by
  apply lines_of_splitOnP
  rw [List.splitOnP_append_cons text [] isLine, splitOnP_lines]
  rfl

theorem lines_of_plain {chr : UInt8} (text : List UInt8) (plain : isNewline chr = false) :
    endedLines (text ++ [chr]) = endedLines text ∧
      lastLine (text ++ [chr]) = lastLine text ++ [chr] := by
  apply lines_of_splitOnP
  induction text with
  | nil =>
      exact List.splitOnP_eq_singleton fun other member => by
        rw [List.mem_singleton.mp member]
        exact plain
  | cons first rest ih =>
      have before := splitOnP_lines rest
      rw [List.cons_append, List.splitOnP_cons_eq_if_modifyHead, ih]
      cases isLine : isNewline first with
      | true =>
          have lines : (first :: rest).splitOnP isNewline =
              ([] :: endedLines rest) ++ [lastLine rest] := by
            rw [List.splitOnP_cons_eq_if_modifyHead, isLine, before]
            rfl
          obtain ⟨ended, last⟩ := lines_of_splitOnP lines
          rw [ended, last]
          rfl
      | false =>
          have lines : (first :: rest).splitOnP isNewline =
              (endedLines rest ++ [lastLine rest]).modifyHead (first :: ·) := by
            rw [List.splitOnP_cons_eq_if_modifyHead, isLine, before]
            rfl
          cases ended : endedLines rest with
          | nil =>
              rw [ended] at lines
              obtain ⟨sameEnded, sameLast⟩ := @lines_of_splitOnP _ _ [] lines
              rw [sameEnded, sameLast]
              rfl
          | cons head others =>
              rw [ended] at lines
              obtain ⟨sameEnded, sameLast⟩ :=
                @lines_of_splitOnP _ _ ((first :: head) :: others) lines
              rw [sameEnded, sameLast]
              rfl

/-- What has been written of the line that has not ended yet. -/
structure Pending (start state : PrintState Syslog) (line : List UInt8) : Prop where
  socket : state.socket = socketClass.setWritePos
    (if line = [] then -1 else Int16.ofNat (header start.socket.pri ++ line).length)
    start.socket
  node : SameNodeAddresses start.ether state.ether
  written : line ≠ [] →
    Spells state.ether.buffer UDPSocket.payload (header start.socket.pri ++ line)

/-- One frame has been sent for each line that has ended and is not empty. -/
structure Framed (start : PrintState Syslog) (text : List UInt8)
    (state : PrintState Syslog) : Prop where
  sent : ∃ frames, state.ether.sent = start.ether.sent ++ frames ∧
    List.Forall₂ FrameCarries frames
      (((endedLines text).filter (· ≠ [])).map (lineDatagram start))
  pending : Pending start state (lastLine text)

theorem sameNodeAddresses_store {before after : EtherSia}
    (same : SameNodeAddresses before after) (address : Nat) (bytes : List UInt8) :
    SameNodeAddresses before (after.modifyPacket fun packet => store packet address bytes) :=
  ⟨same.linkLocalAddress, same.globalAddress, same.localMac⟩

section Characters

variable {start state : PrintState Syslog} {line : List UInt8} {chr : UInt8}

theorem Pending.writePos_nil (pending : Pending start state []) :
    state.socket.writePos = -1 :=
  congrArg (fun socket : Syslog => socket.writePos) pending.socket

theorem Pending.writePos_of_ne (pending : Pending start state line) (begun : line ≠ []) :
    state.socket.writePos = Int16.ofNat (header start.socket.pri ++ line).length := by
  rw [pending.socket, if_neg begun]
  rfl

theorem Pending.pri (pending : Pending start state line) :
    state.socket.pri = start.socket.pri :=
  (congrArg Syslog.pri pending.socket).trans rfl

/-- The first character of a line comes behind the header. -/
theorem Pending.write_first (depth : Nat) (pending : Pending start state [])
    (plain : isNewline chr = false) :
    (socketClass.write (overrides (depth + 1)) chr state).2 =
      socketClass.puts (header start.socket.pri ++ [chr]) (socketClass.setPos 0 state) := by
  have idle : socketClass.writePos state.socket = -1 := pending.writePos_nil
  have begun := @writePayloadHeader_eq (socketClass.setPos 0 state) depth rfl
  have samePri : (socketClass.setPos 0 state).socket.pri = start.socket.pri := pending.pri
  rw [samePri] at begun
  unfold SocketClass.write
  rw [plain, if_neg Bool.false_ne_true, if_pos idle, begun]
  unfold SocketClass.puts
  rw [List.foldl_append]
  rfl

theorem Pending.write_plain (depth : Nat) (pending : Pending start state line)
    (plain : isNewline chr = false) (fits : (header start.socket.pri ++ line).length < 538) :
    let after := (socketClass.write (overrides (depth + 1)) chr state).2
    after.ether.sent = state.ether.sent ∧ Pending start after (line ++ [chr]) := by
  intro after
  have some : line ++ [chr] ≠ [] := by simp
  by_cases begun : line = []
  · subst begun
    have count : (header start.socket.pri ++ [chr]).length < 32768 := by
      rw [List.length_append] at fits ⊢
      change _ + 0 < 538 at fits
      change _ + 1 < 32768
      omega
    have atStart : socketClass.writePos (socketClass.setPos 0 state).socket =
        Int16.ofNat 0 := rfl
    have stored := socketClass.puts_eq (header start.socket.pri ++ [chr]) atStart (by omega)
    have writes : after = _ := (pending.write_first depth plain).trans stored
    rw [writes]
    refine ⟨rfl, ?_, sameNodeAddresses_store pending.node _ _, fun _ => spells_store _ _ _⟩
    rw [if_neg some, Nat.zero_add]
    change socketClass.setWritePos _ (socketClass.setWritePos 0 state.socket) = _
    rw [pending.socket, socketClass.setWritePos_twice, socketClass.setWritePos_twice]
    rfl
  · have here := pending.writePos_of_ne begun
    have notIdle : socketClass.writePos state.socket ≠ -1 := by
      change state.socket.writePos ≠ -1
      rw [here]
      exact SocketClass.ofNat_ne_neg_one (by omega)
    have only : after = socketClass.put chr state := by
      have written : socketClass.write (overrides (depth + 1)) chr state =
          (1, socketClass.put chr state) :=
        socketClass.write_of_writePos (fun isLine => by rw [plain] at isLine; cases isLine)
          fun _ => notIdle
      exact congrArg Prod.snd written
    have stored := socketClass.puts_eq [chr] here (by simp only [List.length_singleton]; omega)
    have writes : after = _ := only.trans stored
    have before := pending.written begun
    rw [writes]
    refine ⟨rfl, ?_, sameNodeAddresses_store pending.node _ _, fun _ => ?_⟩
    · have total : (header start.socket.pri ++ line ++ [chr]).length =
          (header start.socket.pri ++ line).length + [chr].length := List.length_append
      rw [if_neg some, ← List.append_assoc, total, pending.socket,
        socketClass.setWritePos_twice]
    · rw [← List.append_assoc]
      refine spells_append.mpr ⟨?_, spells_store _ _ _⟩
      exact before.congr (agree_store _ _ (Or.inl le_rfl))

theorem sendSourceAddress_congr {before after : EtherSia}
    (same : SameNodeAddresses before after) (destination : IPv6Address) :
    UDPSocket.sendSourceAddress after destination =
      UDPSocket.sendSourceAddress before destination := by
  unfold UDPSocket.sendSourceAddress
  rw [same.linkLocalAddress, same.globalAddress]

theorem sentDatagram_eq (same : SameNodeAddresses start.ether state.ether) (pos : Int16) :
    UDPSocket.sentDatagram (socketClass.setWritePos pos start.socket).toSocket
        (message start.socket.pri line) false state.ether = lineDatagram start line := by
  unfold lineDatagram UDPSocket.sentDatagram
  simp only [Bool.false_eq_true, if_false, same.localMac, sendSourceAddress_congr same]
  rfl

/-- The NUL that a line break writes completes the message. -/
theorem Pending.put_nul (pending : Pending start state line) (begun : line ≠ [])
    (fits : (message start.socket.pri line).length ≤ 538) :
    let ended := socketClass.put 0x00 state
    ended.socket = socketClass.setWritePos
        (Int16.ofNat (message start.socket.pri line).length) start.socket ∧
      Spells ended.ether.buffer UDPSocket.payload (message start.socket.pri line) ∧
      SameNodeAddresses start.ether ended.ether ∧ ended.ether.sent = state.ether.sent := by
  intro ended
  have total := message_length start.socket.pri line
  have here := pending.writePos_of_ne begun
  have stored : ended = _ := socketClass.puts_eq [0x00] here (by rw [List.length_singleton]; omega)
  rw [stored]
  refine ⟨?_, ?_, sameNodeAddresses_store pending.node _ _, rfl⟩
  · rw [total, pending.socket, socketClass.setWritePos_twice]
    rfl
  · refine spells_append.mpr ⟨?_, spells_store _ _ _⟩
    exact (pending.written begun).congr (agree_store _ _ (Or.inl le_rfl))

theorem frameCarries_of_packet {packet : Memory} {datagram : Datagram}
    (carries : CarriesDatagram packet datagram) (fits : datagram.data.length ≤ 538) :
    FrameCarries (packetOctets packet) datagram := by
  have ends := carries.packetEnd_eq
  have count : (IPv6Packet.length packet).toNat = packetEnd packet := length_toNat (by omega)
  unfold packetOctets
  rw [count]
  refine ⟨carries.congr (ofOctets_bytesAt packet _), ?_⟩
  rw [bytesAt_length, ends]

theorem sendData_node (socket : Socket) (data : List UInt8) (ether : EtherSia) :
    SameNodeAddresses ether (UDPSocket.sendData socket data false ether) := by
  unfold UDPSocket.sendData UDPSocket.send UDPSocket.sendInternal EtherSia.send
  exact ⟨rfl, rfl, rfl⟩

/-- `send` as `handleWriteNewline` calls it, with the whole message in its place. -/
theorem handleWriteNewline_begun {payload : List UInt8}
    (begun : state.socket.writePos > 0)
    (spelled : Spells (socketClass.put 0x00 state).ether.buffer UDPSocket.payload payload)
    (count : (socketClass.put 0x00 state).socket.writePos = Int16.ofNat payload.length) :
    handleWriteNewline state =
      (false, socketClass.setPos (-1) { socketClass.put 0x00 state with
        ether := UDPSocket.sendData (socketClass.put 0x00 state).socket.toSocket payload
          false (socketClass.put 0x00 state).ether }) := by
  have same : ((socketClass.put 0x00 state).ether.modifyPacket fun packet =>
      store packet UDPSocket.payload payload) = (socketClass.put 0x00 state).ether := by
    unfold EtherSia.modifyPacket
    dsimp only
    rw [store_of_spells spelled]
  unfold handleWriteNewline UDPSocket.sendData
  rw [if_pos begun, same]
  dsimp only
  rw [count, Int16.toUInt16_ofNat']
  rfl

theorem write_of_isNewline (depth : Nat) (isLine : isNewline chr = true)
    {after : PrintState Syslog} (handled : handleWriteNewline state = (false, after)) :
    (socketClass.write (overrides depth) chr state).2 = after := by
  unfold SocketClass.write
  rw [isLine, if_pos rfl, overrides_handleWriteNewline, handled]
  rfl

/-- A line break sends the line that has been begun. -/
theorem Pending.write_newline (depth : Nat) (pending : Pending start state line)
    (isLine : isNewline chr = true) (begun : line ≠ [])
    (fits : (message start.socket.pri line).length ≤ 538) :
    let after := (socketClass.write (overrides depth) chr state).2
    (∃ octets, after.ether.sent = state.ether.sent ++ [octets] ∧
      FrameCarries octets (lineDatagram start line)) ∧ Pending start after [] := by
  intro after
  obtain ⟨socket, spelled, node, unsent⟩ := pending.put_nul begun fits
  have positive : state.socket.writePos > 0 := by
    have total := message_length start.socket.pri line
    have some := List.length_pos_of_ne_nil (List.append_ne_nil_of_right_ne_nil
      (header start.socket.pri) begun)
    rw [pending.writePos_of_ne begun]
    exact SocketClass.ofNat_pos some (by omega)
  have count := congrArg (fun socket : Syslog => socket.writePos) socket
  have writes : after = _ :=
    write_of_isNewline depth isLine (handleWriteNewline_begun positive spelled count)
  have noReply : false = true → HeaderValid (socketClass.put 0x00 state).ether.buffer :=
    fun reply => nomatch reply
  have carries := UDPSocket.sendData_carries (socketClass.put 0x00 state).socket.toSocket
    (message start.socket.pri line) false (socketClass.put 0x00 state).ether noReply fits
  have sent := UDPSocket.sendData_sent (socketClass.put 0x00 state).socket.toSocket
    (message start.socket.pri line) false (socketClass.put 0x00 state).ether noReply fits
  have sentWhole := delivered_eq_packetOctets (Nat.le_trans (Nat.le_of_eq carries.packetEnd_eq)
    (Nat.add_le_add_left fits 62))
  have datagram : UDPSocket.sentDatagram (socketClass.put 0x00 state).socket.toSocket
      (message start.socket.pri line) false (socketClass.put 0x00 state).ether =
        lineDatagram start line := by
    rw [socket]
    exact sentDatagram_eq node _
  rw [datagram] at carries
  refine ⟨⟨_, ?_, frameCarries_of_packet carries fits⟩, ?_⟩
  · rw [writes, ← unsent, ← sentWhole]
    exact sent
  · rw [writes]
    refine ⟨?_, node.trans (sendData_node _ _ _), fun some => absurd rfl some⟩
    change socketClass.setWritePos (-1) (socketClass.put 0x00 state).socket = _
    rw [socket, socketClass.setWritePos_twice, if_pos rfl]

/-- A line break behind another does nothing. -/
theorem Pending.write_newline_nil (depth : Nat) (pending : Pending start state [])
    (isLine : isNewline chr = true) :
    (socketClass.write (overrides depth) chr state).2 = state := by
  apply write_of_isNewline depth isLine
  unfold handleWriteNewline
  rw [pending.writePos_nil]
  rfl

end Characters

/-! ### A whole text -/

section Texts

variable {start state : PrintState Syslog} {text : List UInt8} {chr : UInt8}

theorem LinesFit.before {pri : UInt8} (fits : LinesFit pri (text ++ [chr])) :
    LinesFit pri text := by
  obtain ⟨endedFit, lastFits⟩ := fits
  cases isLine : isNewline chr with
  | true =>
      obtain ⟨ended, -⟩ := lines_of_newline text isLine
      rw [ended] at endedFit
      have here := endedFit (lastLine text) (List.mem_append_right _ List.mem_cons_self)
      rw [message_length] at here
      exact ⟨fun line member => endedFit line (List.mem_append_left _ member), by omega⟩
  | false =>
      obtain ⟨ended, last⟩ := lines_of_plain text isLine
      rw [ended] at endedFit
      rw [last, ← List.append_assoc, List.length_append] at lastFits
      exact ⟨endedFit, by omega⟩

theorem Framed.next (depth : Nat) (framed : Framed start text state)
    (fits : LinesFit start.socket.pri (text ++ [chr])) :
    Framed start (text ++ [chr])
      (socketClass.write (overrides (depth + 1)) chr state).2 := by
  obtain ⟨frames, sent, carried⟩ := framed.sent
  have pending := framed.pending
  cases isLine : isNewline chr with
  | false =>
      obtain ⟨ended, last⟩ := lines_of_plain text isLine
      have room := fits.2
      rw [last, ← List.append_assoc, List.length_append] at room
      change _ + 1 ≤ 538 at room
      obtain ⟨unsent, behind⟩ := pending.write_plain depth isLine (by omega)
      refine ⟨⟨frames, unsent.trans sent, ?_⟩, ?_⟩
      · rw [ended]
        exact carried
      · rw [last]
        exact behind
  | true =>
      obtain ⟨ended, last⟩ := lines_of_newline text isLine
      by_cases begun : lastLine text = []
      · -- The line feed behind a carriage return, or an empty line.
        rw [begun] at pending ended
        rw [pending.write_newline_nil (depth + 1) isLine]
        refine ⟨⟨frames, sent, ?_⟩, ?_⟩
        · rw [ended, List.filter_append]
          simpa using carried
        · rw [last]
          exact pending
      · have lineFits := fits.1
        rw [ended] at lineFits
        obtain ⟨⟨octets, sentNow, frame⟩, behind⟩ :=
          pending.write_newline (depth + 1) isLine begun
            (lineFits _ (List.mem_append_right _ List.mem_cons_self))
        refine ⟨⟨frames ++ [octets], ?_, ?_⟩, ?_⟩
        · rw [sentNow, sent, List.append_assoc]
        · have kept : [lastLine text].filter (· ≠ []) = [lastLine text] := by
            simp [begun]
          rw [ended, List.filter_append, kept, List.map_append]
          exact List.rel_append carried (List.Forall₂.cons frame List.Forall₂.nil)
        · rw [last]
          exact behind

theorem framed_print (depth : Nat) (fresh : start.socket.writePos = -1)
    (fits : LinesFit start.socket.pri text) :
    Framed start text (socketClass.print (overrides (depth + 1)) text start) := by
  induction text using List.reverseRecOn with
  | nil =>
      refine ⟨⟨[], (List.append_nil _).symm, List.Forall₂.nil⟩, ?_⟩
      refine ⟨?_, ⟨rfl, rfl, rfl⟩, fun some => absurd rfl some⟩
      change start.socket = socketClass.setWritePos (-1) start.socket
      rw [← fresh]
      rfl
  | append_singleton rest chr ih =>
      rw [print_append]
      exact (ih fits.before).next depth fits

/-- Only the text of the calls matters, not how it is split into calls. -/
theorem run_eq_print (depth : Nat) (calls : List PrintCall) (state : PrintState Syslog) :
    calls.foldl (PrintCall.run depth) state =
      socketClass.print (overrides depth) (calls.flatMap PrintCall.text) state := by
  induction calls generalizing state with
  | nil => rfl
  | cons call rest ih =>
      rw [List.foldl_cons, ih, List.flatMap_cons, print_append]
      cases call with
      | print str => rfl
      | println str =>
          rw [PrintCall.text, print_append]
          rfl

end Texts

/-- Whatever the calls that print a text, each of its lines that has ended and is not
empty is sent as one message, and the rest of it waits. -/
theorem lines_are_sent (depth : Nat) {start : PrintState Syslog} (calls : List PrintCall)
    (fresh : start.socket.writePos = -1)
    (fits : LinesFit start.socket.pri (calls.flatMap PrintCall.text)) :
    Framed start (calls.flatMap PrintCall.text)
      (calls.foldl (PrintCall.run (depth + 1)) start) := by
  rw [run_eq_print]
  exact framed_print depth fresh fits

def exampleLogger : PrintState Syslog where
  socket := { exampleClient with pri := 0x86 }
  ether := EtherSia.configured (exampleMac 1) fun _ => 0
  stored := []

/-- "hi", an empty line, "a" with a line feed of its own, and "b". -/
theorem hi_and_a_are_sent :
    let calls : List PrintCall := [.print [0x68], .println [0x69], .println [],
      .print [0x61, 0x0a, 0x62]]
    Framed exampleLogger (calls.flatMap PrintCall.text)
      (calls.foldl (PrintCall.run 1) exampleLogger) := by
  intro calls
  exact lines_are_sent 0 calls rfl (by decide +kernel)

end Syslog

end EtherSiaStack
