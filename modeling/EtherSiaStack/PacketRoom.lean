/-
Room for what is written and sent.

A character goes to the running position and the data of `send` is copied with the
caller's length; neither is compared with what is left of the buffer behind the headers.
A call stays in the buffer exactly when its position or its length does, and a sequence
of calls when each of them does.
-/

import EtherSiaStack.SocketWrite
import EtherSiaStack.Library.Trace

namespace EtherSiaStack

open ByteMemory IPv6Packet Trace

/-- A call the application makes; `print` and `println` are calls of `write`, and each
`sendReply` is the `send` for a reply. -/
inductive SocketCall
  | write (chr : UInt8)
  | send (isReply : Bool)
  | sendData (data : Memory) (length : UInt16) (isReply : Bool)

namespace SocketClass

variable {σ : Type} (cls : SocketClass σ)

def callStep (state : PrintState σ) : SocketCall → Option (PrintState σ)
  | .write chr => some (cls.write .default chr state).2
  | .send isReply => some (cls.sendWritten isReply state)
  | .sendData data length isReply => some (cls.sendData data length isReply state)

/-- The position is set before the first character that is no line break. -/
def started (chr : UInt8) (state : PrintState σ) : PrintState σ :=
  if isNewline chr = false ∧ cls.writePos state.socket = -1 then cls.setPos 0 state else state

/-- What the call writes or sends fits the buffer, by the position it finds and the length
it is given. -/
def HasRoom (state : PrintState σ) : SocketCall → Prop
  | .write chr => 0 ≤ cls.writeAddress (cls.started chr state) ∧
      cls.writeAddress (cls.started chr state) < ETHERSIA_MAX_PACKET_SIZE
  | .send _ => cls.writeAddress state ≤ ETHERSIA_MAX_PACKET_SIZE
  | .sendData _ length _ => cls.transmitPayload + length.toNat ≤ ETHERSIA_MAX_PACKET_SIZE

/-- The call stores in the buffer only, and sends no frame longer than the buffer. -/
structure InRoom (taken : Taken (PrintState σ) SocketCall) : Prop where
  stored : ∀ address ∈ taken.after.stored.drop taken.before.stored.length,
    0 ≤ address ∧ address < ETHERSIA_MAX_PACKET_SIZE
  frames : ∀ octets ∈ taken.after.ether.sent.drop taken.before.ether.sent.length,
    octets.length ≤ ETHERSIA_MAX_PACKET_SIZE
  outside : ∀ last, Agree taken.after.ether.buffer taken.before.ether.buffer
    ETHERSIA_MAX_PACKET_SIZE last

section Call

variable {state after : PrintState σ}

theorem write_default (chr : UInt8) (state : PrintState σ) :
    cls.write .default chr state = (1, cls.put chr (cls.started chr state)) := by
  unfold write started
  cases isNewline chr with
  | true => rfl
  | false =>
      by_cases fresh : cls.writePos state.socket = -1
      · rw [if_neg Bool.false_ne_true, if_pos fresh, if_pos ⟨rfl, fresh⟩]
        rfl
      · rw [if_neg Bool.false_ne_true, if_neg fresh, if_neg fun both => fresh both.2]
        rfl

theorem started_keeps (chr : UInt8) (state : PrintState σ) :
    (cls.started chr state).ether = state.ether ∧
      (cls.started chr state).stored = state.stored := by
  unfold started
  split
  · exact ⟨rfl, rfl⟩
  · exact ⟨rfl, rfl⟩

/-- A store of one byte in the buffer keeps what is behind it. -/
theorem storeByte_agree {packet : Memory} {address : Int} {last : Nat} (byte : UInt8)
    (inside : address < ETHERSIA_MAX_PACKET_SIZE) :
    Agree (storeByte packet address byte) packet ETHERSIA_MAX_PACKET_SIZE last := by
  unfold storeByte
  split
  · apply agree_store
    right
    rw [List.length_singleton]
    omega
  · exact Agree.refl _ _ _

theorem write_inRoom_iff (chr : UInt8)
    (called : cls.callStep state (.write chr) = some after) :
    InRoom ⟨state, .write chr, after⟩ ↔ cls.HasRoom state (.write chr) := by
  have isAfter : cls.put chr (cls.started chr state) = after := by
    have written := Option.some.inj called
    rwa [cls.write_default] at written
  obtain ⟨sameEther, sameStored⟩ := cls.started_keeps chr state
  have stored : after.stored = state.stored ++ [cls.writeAddress (cls.started chr state)] := by
    rw [← isAfter, put, sameStored]
  have ether : after.ether = state.ether.modifyPacket fun packet =>
      storeByte packet (cls.writeAddress (cls.started chr state)) chr := by
    rw [← isAfter, put, sameEther]
  constructor
  · intro inRoom
    have inBuffer := inRoom.stored
    rw [stored, List.drop_left, List.forall_mem_singleton] at inBuffer
    exact inBuffer
  · intro hasRoom
    refine ⟨?_, ?_, fun last => ?_⟩
    · rw [stored, List.drop_left, List.forall_mem_singleton]
      exact hasRoom
    · have none : after.ether.sent = state.ether.sent := by
        rw [ether]
        rfl
      rw [none, List.drop_length]
      exact fun octets member => absurd member List.not_mem_nil
    · rw [ether]
      exact storeByte_agree chr hasRoom.2

theorem sendLength_frames (length : UInt16) (isReply : Bool) (state : PrintState σ) :
    ∃ octets, (cls.sendLength length isReply state).ether.sent =
        state.ether.sent ++ [octets] ∧
      octets.length = (UInt16.ofNat cls.transmitPayload + length).toNat := by
  refine ⟨_, cls.sent length isReply state.socket state.ether, ?_⟩
  rw [packetOctets, bytesAt_length, cls.sentLength]

theorem sum_toNat (length : UInt16)
    (short : cls.transmitPayload + length.toNat < 65536) :
    (UInt16.ofNat cls.transmitPayload + length).toNat =
      cls.transmitPayload + length.toNat := by
  rw [UInt16.toNat_add, UInt16.toNat_ofNat_of_lt' (by change _ < 65536; omega)]
  exact Nat.mod_eq_of_lt short

theorem send_inRoom_iff (isReply : Bool)
    (called : cls.callStep state (.send isReply) = some after) :
    InRoom ⟨state, .send isReply, after⟩ ↔ cls.HasRoom state (.send isReply) := by
  obtain ⟨headers, few⟩ := cls.afterHeaders
  have isAfter := Option.some.inj called
  unfold sendWritten at isAfter
  have most := (cls.writePos state.socket).toInt_lt
  have room : ETHERSIA_MAX_PACKET_SIZE = 600 := rfl
  unfold HasRoom writeAddress
  by_cases written : cls.writePos state.socket > 0
  · rw [if_pos written] at isAfter
    obtain ⟨octets, sent, count⟩ :=
      cls.sendLength_frames (cls.writePos state.socket).toUInt16 isReply state
    have positive := Int16.lt_iff_toInt_lt.mp written
    change (0 : Int) < _ at positive
    have length : ((cls.writePos state.socket).toUInt16.toNat : Int) =
        (cls.writePos state.socket).toInt := by
      rw [Int16.toNat_toUInt16_of_le (Int16.le_of_lt written), ← Int16.toNat_toInt]
      omega
    rw [cls.sum_toNat _ (by omega)] at count
    rw [← isAfter]
    constructor
    · intro inRoom
      have short := inRoom.frames
      dsimp only [setPos] at short
      rw [sent, List.drop_left, List.forall_mem_singleton] at short
      omega
    · intro hasRoom
      refine ⟨?_, ?_, fun last => ?_⟩
      · have none : (cls.setPos (-1) (cls.sendLength (cls.writePos state.socket).toUInt16
            isReply state)).stored = state.stored := rfl
        rw [none, List.drop_length]
        exact fun address member => absurd member List.not_mem_nil
      · dsimp only [setPos]
        rw [sent, List.drop_left, List.forall_mem_singleton]
        omega
      · exact (cls.keepsPayload _ isReply _ _ last).mono (by omega) le_rfl
  · rw [if_neg written] at isAfter
    have notPositive := Int16.le_iff_toInt_le.mp (Int16.not_lt.mp written)
    change _ ≤ (0 : Int) at notPositive
    rw [← isAfter]
    refine iff_of_true ⟨?_, ?_, fun last => Agree.refl _ _ _⟩ (by omega)
    · rw [List.drop_length]
      exact fun address member => absurd member List.not_mem_nil
    · rw [List.drop_length]
      exact fun octets member => absurd member List.not_mem_nil

theorem sendData_inRoom_iff (data : Memory) (length : UInt16) (isReply : Bool)
    (called : cls.callStep state (.sendData data length isReply) = some after) :
    InRoom ⟨state, .sendData data length isReply, after⟩ ↔
      cls.HasRoom state (.sendData data length isReply) := by
  obtain ⟨headers, few⟩ := cls.afterHeaders
  have isAfter := Option.some.inj called
  have room : ETHERSIA_MAX_PACKET_SIZE = 600 := rfl
  let copied : PrintState σ := { state with
    ether := state.ether.modifyPacket fun packet =>
      store packet cls.transmitPayload (bytesAt data 0 length.toNat)
    stored := state.stored ++ addresses cls.transmitPayload length.toNat }
  have sends : cls.sendLength length isReply copied = after := isAfter
  obtain ⟨octets, sent, count⟩ := cls.sendLength_frames length isReply copied
  rw [sends] at sent
  have stored : after.stored = state.stored ++ addresses cls.transmitPayload length.toNat := by
    rw [← sends]
    rfl
  unfold HasRoom
  constructor
  · intro inRoom
    by_cases empty : length.toNat = 0
    · omega
    · have inBuffer := inRoom.stored
      rw [stored, List.drop_left] at inBuffer
      have last := inBuffer (cls.transmitPayload + (length.toNat - 1 : Nat))
        (List.mem_map.mpr ⟨length.toNat - 1, List.mem_range.mpr (by omega), rfl⟩)
      omega
  · intro hasRoom
    rw [cls.sum_toNat _ (by omega)] at count
    refine ⟨?_, ?_, fun last => ?_⟩
    · rw [stored, List.drop_left]
      intro address member
      obtain ⟨index, inside, rfl⟩ := List.mem_map.mp member
      have below := List.mem_range.mp inside
      omega
    · rw [sent]
      change ∀ other ∈ (state.ether.sent ++ [octets]).drop state.ether.sent.length, _
      rw [List.drop_left, List.forall_mem_singleton]
      omega
    · rw [← sends]
      have kept := (cls.keepsPayload length isReply copied.socket copied.ether last).mono
        (by omega : cls.transmitPayload ≤ ETHERSIA_MAX_PACKET_SIZE) le_rfl
      refine kept.trans (agree_store _ _ (Or.inr ?_))
      rw [bytesAt_length]
      exact hasRoom

end Call

/-- The step lemma. -/
theorem inRoom_iff {taken : Taken (PrintState σ) SocketCall}
    (called : cls.callStep taken.before taken.event = some taken.after) :
    InRoom taken ↔ cls.HasRoom taken.before taken.event := by
  obtain ⟨before, call, after⟩ := taken
  cases call with
  | write chr => exact cls.write_inRoom_iff chr called
  | send isReply => exact cls.send_inRoom_iff isReply called
  | sendData data length isReply => exact cls.sendData_inRoom_iff data length isReply called

/-- For every sequence of calls, from any state: all of them stay in the buffer exactly
when each finds room. -/
theorem calls_in_room_iff (start : PrintState σ) (calls : List SocketCall) :
    Always cls.callStep start calls InRoom ↔
      Always cls.callStep start calls fun taken => cls.HasRoom taken.before taken.event := by
  constructor
  · intro inRoom taken member
    exact (cls.inRoom_iff (step_of_mem_trace member)).mp (inRoom taken member)
  · intro hasRoom taken member
    exact (cls.inRoom_iff (step_of_mem_trace member)).mpr (hasRoom taken member)

/-- 539 bytes in a datagram. -/
theorem long_data_leaves_buffer :
    ¬ ∀ (start : PrintState Socket) (calls : List SocketCall),
      Always UDPSocket.socketClass.callStep start calls InRoom := by
  intro always
  let call : SocketCall := .sendData (fun _ => 0x61) 539 false
  have inRoom := always exampleStart [call]
    ⟨exampleStart, call, _⟩ (List.mem_singleton.mpr rfl)
  have hasRoom : 601 ≤ 600 := (UDPSocket.socketClass.inRoom_iff rfl).mp inRoom
  omega

end SocketClass

end EtherSiaStack
