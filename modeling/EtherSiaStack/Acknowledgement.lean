/-
What a TCP server acknowledges.

`sendInternal` acknowledges the bytes of the segment, or one number when there are
none, without asking which flags `havePacket` acted on.  That is the delivered
data and the flags exactly when a FIN or a SYN carries nothing more than the
number it is counted as.
-/

import EtherSiaStack.Arrival
import EtherSiaStack.Segment

namespace EtherSiaStack

open ByteMemory IPv6Packet

namespace TCPServer

open TCPHeader

/-- `Socket::send(data, length, isReply)`. -/
def sendData (socket : Socket) (data : List UInt8) (isReply : Bool) (ether : EtherSia) :
    EtherSia :=
  let ether := ether.modifyPacket fun packet => store packet transmitPayload data
  send socket (UInt16.ofNat data.length) isReply ether

/-- The numbers `sendInternal` adds to the sequence number it answers. -/
def receivedLen (packet : Memory) : UInt16 :=
  if payloadLength packet = 0 then 1 else payloadLength packet

theorem payloadLength_congr {left right : Memory} (low : Agree left right 18 20)
    (offset : Agree left right 66 67) : payloadLength left = payloadLength right := by
  have sameLength : IPv6Packet.payloadLength left = IPv6Packet.payloadLength right :=
    low.u16At_eq le_rfl le_rfl
  unfold payloadLength
  rw [sameLength, TCPClient.receiveHeaderLen_congr offset]

theorem receivedLen_congr {left right : Memory} (low : Agree left right 18 20)
    (offset : Agree left right 66 67) : receivedLen left = receivedLen right := by
  unfold receivedLen
  rw [payloadLength_congr low offset]

/-- Every reply acknowledges `receivedLen` numbers from the segment in the buffer. -/
theorem send_acknowledgementNum (socket : Socket) (length : UInt16) (ether : EtherSia) :
    acknowledgementNum (send socket length true ether).buffer =
      sequenceNum ether.buffer + (receivedLen ether.buffer).toUInt32 := by
  have keeps (last : Nat) : Agree ether.prepareReply.buffer ether.buffer 54 last :=
    prepareReply_payload ether last
  have low : Agree ether.prepareReply.buffer ether.buffer 18 20 := by
    unfold EtherSia.prepareReply
    repeat apply (agree_store _ _ (by simp)).trans
    exact Agree.refl _ _ _
  have sameLen := receivedLen_congr low ((keeps 67).mono (by decide) le_rfl)
  have sameSequence : sequenceNum ether.prepareReply.buffer = sequenceNum ether.buffer :=
    (keeps 62).u32At_eq (by decide) le_rfl
  have filled : acknowledgementNum (segmentFields socket length ether.prepareReply.buffer) =
      sequenceNum ether.prepareReply.buffer +
        (receivedLen ether.prepareReply.buffer).toUInt32 := by
    unfold segmentFields
    simp [receivedLen]
  have sealed : acknowledgementNum (send socket length true ether).buffer =
      acknowledgementNum (segmentFields socket length ether.prepareReply.buffer) :=
    (storeChecksum_agree _ (by decide)).u32At_eq le_rfl le_rfl
  rw [sealed, filled, sameLen, sameSequence]

/-! ### One segment -/

/-- `havePacket` and, when it returns true, the application's reply. -/
def answer (socket : Socket) (randomNumber : UInt32) (reply : List UInt8)
    (ether : EtherSia) : EtherSia :=
  let (accepted, socket, ether) := havePacket socket randomNumber ether
  if accepted then sendData socket reply true ether else ether

/-- The bytes of the segment that the application is given. -/
def delivered (socket : Socket) (randomNumber : UInt32) (ether : EtherSia) : Nat :=
  if (havePacket socket randomNumber ether).1 then (payloadLength ether.buffer).toNat
  else 0

/-- The segment in the buffer is for the server, and is one it answers. -/
structure Answered (socket : Socket) (ether : EtherSia) : Prop where
  received : ether.bufferContainsReceived = true
  isTcp : protocol ether.buffer = IP6_PROTO_TCP
  port : destinationPort ether.buffer = socket.localPort
  noReset : hasFlag (flags ether.buffer) TCP_FLAG_RST = false
  answers : hasFlag (flags ether.buffer) TCP_FLAG_FIN = true ∨
    hasFlag (flags ether.buffer) TCP_FLAG_SYN = true ∨ payloadLength ether.buffer > 0

/-- How many sequence numbers the flags of a segment take. -/
def flagNumbers (packet : Memory) : Nat :=
  (if hasFlag (flags packet) TCP_FLAG_SYN then 1 else 0) +
    if hasFlag (flags packet) TCP_FLAG_FIN then 1 else 0

/-- The segment carries no SYN and no FIN; or one of them and at most one byte; or
both and two bytes. -/
def FlagsCountedAsData (packet : Memory) : Prop :=
  match hasFlag (flags packet) TCP_FLAG_SYN, hasFlag (flags packet) TCP_FLAG_FIN with
  | false, false => True
  | true, true => payloadLength packet = 2
  | _, _ => payloadLength packet ≤ 1

/-- A reply after rewriting bytes that neither the sequence number nor the length of
the segment depends on. -/
theorem send_after_change (socket : Socket) (length : UInt16) (ether : EtherSia)
    (change : Memory → Memory) (low : Agree (change ether.buffer) ether.buffer 18 20)
    (numbers : Agree (change ether.buffer) ether.buffer 58 62)
    (offset : Agree (change ether.buffer) ether.buffer 66 67) :
    let after := send socket length true (ether.modifyPacket change)
    after.sent = ether.sent ++ [packetOctets after.buffer] ∧
      acknowledgementNum after.buffer =
        sequenceNum ether.buffer + (receivedLen ether.buffer).toUInt32 := by
  have acknowledges := send_acknowledgementNum socket length (ether.modifyPacket change)
  have sameSequence : sequenceNum (change ether.buffer) = sequenceNum ether.buffer :=
    numbers.u32At_eq le_rfl le_rfl
  have sameLen := receivedLen_congr low offset
  refine ⟨rfl, ?_⟩
  rw [acknowledges]
  change sequenceNum (change ether.buffer) + (receivedLen (change ether.buffer)).toUInt32 = _
  rw [sameSequence, sameLen]

section Answers

variable {socket : Socket} {ether : EtherSia}

theorem havePacket_of_answered (answered : Answered socket ether) (randomNumber : UInt32) :
    havePacket socket randomNumber ether =
      if hasFlag (flags ether.buffer) TCP_FLAG_FIN then
        (false, socket, send socket 0 true
          (ether.modifyPacket fun packet => setFlags packet (TCP_FLAG_FIN ||| TCP_FLAG_ACK)))
      else if hasFlag (flags ether.buffer) TCP_FLAG_SYN then
        (false, socket, send socket 0 true
          (ether.modifyPacket fun packet =>
            setFlags (setAcknowledgementNum packet (htonl randomNumber))
              (TCP_FLAG_SYN ||| TCP_FLAG_ACK)))
      else
        (true, { socket with writePos := -1 },
          ether.modifyPacket fun packet => setFlags packet 0) := by
  unfold havePacket
  dsimp only
  rw [if_neg (by rw [answered.received]; decide), if_neg (not_not.mpr answered.isTcp),
    if_neg (not_not.mpr answered.port), answered.noReset, if_neg Bool.false_ne_true]
  split_ifs with fin syn data
  · rfl
  · rfl
  · rfl
  · rcases answered.answers with isFin | isSyn | isData
    · exact absurd isFin fin
    · exact absurd isSyn syn
    · exact absurd isData data

theorem havePacket_of_not_answered (notAnswered : ¬ Answered socket ether)
    (randomNumber : UInt32) :
    havePacket socket randomNumber ether = (false, socket, ether) := by
  unfold havePacket
  dsimp only
  split_ifs with empty isTcp port reset fin syn data
  · rfl
  · rfl
  · rfl
  · rfl
  · exact absurd ⟨by simpa using empty, not_not.mp isTcp, not_not.mp port,
      by simpa using reset, Or.inl fin⟩ notAnswered
  · exact absurd ⟨by simpa using empty, not_not.mp isTcp, not_not.mp port,
      by simpa using reset, Or.inr (Or.inl syn)⟩ notAnswered
  · exact absurd ⟨by simpa using empty, not_not.mp isTcp, not_not.mp port,
      by simpa using reset, Or.inr (Or.inr data)⟩ notAnswered
  · rfl

/-- The server sends one frame, which acknowledges `receivedLen` numbers. -/
theorem answer_of_answered (answered : Answered socket ether) (randomNumber : UInt32)
    (reply : List UInt8) :
    let after := answer socket randomNumber reply ether
    after.sent = ether.sent ++ [packetOctets after.buffer] ∧
      acknowledgementNum after.buffer =
        sequenceNum ether.buffer + (receivedLen ether.buffer).toUInt32 := by
  have call := havePacket_of_answered answered randomNumber
  unfold answer
  rw [call]
  split_ifs
  · exact send_after_change socket 0 ether _ (agree_store _ _ (by simp))
      (agree_store _ _ (by simp)) (agree_store _ _ (by simp))
  · exact send_after_change socket 0 ether _
      ((agree_store _ _ (by simp)).trans (agree_store _ _ (by simp)))
      ((agree_store _ _ (by simp)).trans (agree_store _ _ (by simp)))
      ((agree_store _ _ (by simp)).trans (agree_store _ _ (by simp)))
  · -- the data is written behind the header that the reply is made from
    have start : transmitPayload = 78 := rfl
    exact send_after_change { socket with writePos := -1 } _ ether
      (fun packet => store (setFlags packet 0) transmitPayload reply)
      ((agree_store _ _ (by omega)).trans (agree_store _ _ (by simp)))
      ((agree_store _ _ (by omega)).trans (agree_store _ _ (by simp)))
      ((agree_store _ _ (by omega)).trans (agree_store _ _ (by simp)))

/-- Data is delivered unless a flag of the segment takes precedence. -/
theorem delivered_eq (answered : Answered socket ether) (randomNumber : UInt32) :
    delivered socket randomNumber ether =
      if flagNumbers ether.buffer = 0 then (payloadLength ether.buffer).toNat else 0 := by
  unfold delivered flagNumbers
  rw [havePacket_of_answered answered randomNumber]
  cases hasFlag (flags ether.buffer) TCP_FLAG_FIN with
  | true => cases hasFlag (flags ether.buffer) TCP_FLAG_SYN <;> rfl
  | false => cases hasFlag (flags ether.buffer) TCP_FLAG_SYN <;> rfl

theorem receivedLen_toNat (packet : Memory) :
    (receivedLen packet).toNat =
      if (payloadLength packet).toNat = 0 then 1 else (payloadLength packet).toNat := by
  have zero : payloadLength packet = 0 ↔ (payloadLength packet).toNat = 0 := by
    rw [← UInt16.toNat_inj, UInt16.toNat_zero]
  unfold receivedLen
  split_ifs with empty nonempty
  · rfl
  · exact absurd (zero.mp empty) nonempty
  · exact absurd (zero.mpr ‹_›) empty
  · rfl

/-- The reply to a segment acknowledges what was delivered and the flags exactly when
the flags take the numbers that `sendInternal` counts as data. -/
theorem answer_acknowledges_iff (socket : Socket) (ether : EtherSia)
    (randomNumber : UInt32) (reply : List UInt8) (answered : Answered socket ether) :
    let after := answer socket randomNumber reply ether
    after.sent = ether.sent ++ [packetOctets after.buffer] ∧
      (acknowledgementNum after.buffer = sequenceNum ether.buffer +
          UInt32.ofNat (delivered socket randomNumber ether + flagNumbers ether.buffer) ↔
        FlagsCountedAsData ether.buffer) := by
  obtain ⟨sent, acknowledges⟩ := answer_of_answered answered randomNumber reply
  refine ⟨sent, ?_⟩
  have bound : (payloadLength ether.buffer).toNat < 65536 := UInt16.toNat_lt _
  have numbers : flagNumbers ether.buffer ≤ 2 := by
    unfold flagNumbers
    split_ifs <;> omega
  have small : delivered socket randomNumber ether + flagNumbers ether.buffer < 4294967296 := by
    rw [delivered_eq answered]
    split_ifs <;> omega
  have expected : (UInt32.ofNat (delivered socket randomNumber ether +
      flagNumbers ether.buffer)).toNat =
        delivered socket randomNumber ether + flagNumbers ether.buffer := by
    rw [UInt32.toNat_ofNat']
    exact Nat.mod_eq_of_lt small
  rw [acknowledges, add_right_inj, ← UInt32.toNat_inj, expected, UInt16.toNat_toUInt32,
    receivedLen_toNat, delivered_eq answered]
  have atMostOne : payloadLength ether.buffer ≤ 1 ↔
      (payloadLength ether.buffer).toNat ≤ 1 := UInt16.le_iff_toNat_le
  have isTwo : payloadLength ether.buffer = 2 ↔
      (payloadLength ether.buffer).toNat = 2 := UInt16.toNat_inj.symm
  have hasData : payloadLength ether.buffer > 0 ↔
      0 < (payloadLength ether.buffer).toNat := UInt16.lt_iff_toNat_lt
  have answers := answered.answers
  unfold FlagsCountedAsData flagNumbers
  cases syn : hasFlag (flags ether.buffer) TCP_FLAG_SYN with
  | false =>
      cases fin : hasFlag (flags ether.buffer) TCP_FLAG_FIN with
      | false =>
          rw [syn, fin, hasData] at answers
          have data : 0 < (payloadLength ether.buffer).toNat := by simpa using answers
          refine iff_of_true ?_ trivial
          rw [if_neg (by omega)]
          rfl
      | true =>
          change _ ↔ payloadLength ether.buffer ≤ 1
          rw [atMostOne]
          change _ = 0 + (0 + 1) ↔ _
          split_ifs <;> omega
  | true =>
      cases fin : hasFlag (flags ether.buffer) TCP_FLAG_FIN with
      | false =>
          change _ ↔ payloadLength ether.buffer ≤ 1
          rw [atMostOne]
          change _ = 0 + (1 + 0) ↔ _
          split_ifs <;> omega
      | true =>
          change _ ↔ payloadLength ether.buffer = 2
          rw [isTwo]
          change _ = 0 + (1 + 1) ↔ _
          split_ifs <;> omega

end Answers

/-! ### A FIN with data -/

/-- The socket of a server on port 80. -/
def exampleServer : Socket where
  remoteAddress := IPv6Address.zero
  remoteMac := ⟨fun _ => 0⟩
  remotePort := 0
  localPort := 80
  writePos := -1

/-- A SYN with sequence number 1000. -/
def exampleSyn : Frame :=
  exampleFrame 20 IP6_PROTO_TCP
    [0x13, 0x88, 0, 80, 0, 0, 0x03, 0xe8, 0, 0, 0, 0, 0x50, 0x02, 0x01, 0xea,
      0x9b, 0x34, 0, 0] (by decide)

/-- The two bytes "hi" with PSH, ACK and FIN, and sequence number 1000. -/
def exampleFinWithData : Frame :=
  exampleFrame 22 IP6_PROTO_TCP
    [0x13, 0x88, 0, 80, 0, 0, 0x03, 0xe8, 0, 0, 0, 1, 0x50, 0x19, 0x01, 0xea,
      0x32, 0xb1, 0, 0, 0x68, 0x69] (by decide)

theorem answer_acknowledges_syn :
    let ether := exampleStation.ether.accepted exampleSyn
    let after := answer exampleServer 7 [] ether
    after.sent = ether.sent ++ [packetOctets after.buffer] ∧
      (acknowledgementNum after.buffer = sequenceNum ether.buffer +
          UInt32.ofNat (delivered exampleServer 7 ether + flagNumbers ether.buffer) ↔
        FlagsCountedAsData ether.buffer) :=
  answer_acknowledges_iff exampleServer (exampleStation.ether.accepted exampleSyn) 7 []
    { received := rfl
      isTcp := by decide +kernel
      port := by decide +kernel
      noReset := by decide +kernel
      answers := Or.inr (Or.inl (by decide +kernel)) }

/-- The server delivers neither byte and acknowledges both, and not the FIN. -/
theorem fin_with_data_not_acknowledged :
    let ether := exampleStation.ether.accepted exampleFinWithData
    exampleStation.ether.Accepts exampleFinWithData ∧ Answered exampleServer ether ∧
      acknowledgementNum (answer exampleServer 7 [] ether).buffer ≠
        sequenceNum ether.buffer +
          UInt32.ofNat (delivered exampleServer 7 ether + flagNumbers ether.buffer) := by
  let ether := exampleStation.ether.accepted exampleFinWithData
  have answered : Answered exampleServer ether :=
    { received := rfl
      isTcp := by decide +kernel
      port := by decide +kernel
      noReset := by decide +kernel
      answers := Or.inl (by decide +kernel) }
  refine ⟨⟨by decide, by decide +kernel⟩, answered, fun claimed => ?_⟩
  obtain ⟨_, acknowledges⟩ := answer_of_answered answered 7 []
  have two : receivedLen ether.buffer = 2 := by decide +kernel
  have one : flagNumbers ether.buffer = 1 := by decide +kernel
  rw [acknowledges, add_right_inj, two, delivered_eq answered, one] at claimed
  exact absurd claimed (by decide)

end TCPServer

end EtherSiaStack
