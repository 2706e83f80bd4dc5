/-
Comparing a received payload with a string.

`payloadEquals` compares no more characters than the payload has, and `strncmp` stops at a
NUL that both have.  So it also takes the beginning of the string for the string, and the
string with a NUL and anything behind it.
-/

import EtherSiaStack.AddressText
import EtherSiaStack.ExposedPayload

namespace EtherSiaStack

open ByteMemory IPv6Packet

/-! ### Socket.cpp -/

/-- What a class defines as the payload of the packet in the buffer. -/
structure PayloadClass where
  payload : Memory → Nat
  payloadLength : Memory → UInt16

def UDPSocket.payloadClass : PayloadClass where
  payload := fun _ => UDPSocket.payload
  payloadLength := UDPSocket.payloadLength

def TCPServer.payloadClass : PayloadClass where
  payload := TCPServer.payload
  payloadLength := TCPServer.payloadLength

def TCPClient.payloadClass : PayloadClass where
  payload := TCPClient.payload
  payloadLength := TCPClient.payloadLength

/-- `strncmp` of the strings at two addresses. -/
def strncmp (left right : Memory) (leftPtr rightPtr : Nat) : Nat → Int
  | 0 => 0
  | count + 1 =>
      if left leftPtr ≠ right rightPtr then
        (left leftPtr).toNat - (right rightPtr).toNat
      else if left leftPtr = 0 then 0
      else strncmp left right (leftPtr + 1) (rightPtr + 1) count

namespace PayloadClass

def payloadEquals (cls : PayloadClass) (ether : EtherSia) (str : Memory) : Bool :=
  strncmp ether.buffer str (cls.payload ether.buffer) 0
    (cls.payloadLength ether.buffer).toNat = 0

/-- The bytes of the payload. -/
def bytes (cls : PayloadClass) (ether : EtherSia) : List UInt8 :=
  bytesAt ether.buffer (cls.payload ether.buffer) (cls.payloadLength ether.buffer).toNat

end PayloadClass

/-! ### What the comparison accepts -/

theorem strncmp_of_ne {left right : Memory} {leftPtr rightPtr : Nat} (count : Nat)
    (differs : left leftPtr ≠ right rightPtr) :
    strncmp left right leftPtr rightPtr (count + 1) ≠ 0 := by
  intro same
  rw [strncmp, if_pos differs] at same
  exact differs (UInt8.toNat_inj.mp (by omega))

/-- The first string ends within the second, or the second ends within the first. -/
theorem strncmp_eq_zero_iff {left right : Memory} {leftPtr rightPtr count : Nat}
    {text : List UInt8} (noNul : ∀ c ∈ text, c ≠ 0)
    (spelled : Spells right rightPtr (text ++ [0])) :
    strncmp left right leftPtr rightPtr count = 0 ↔
      bytesAt left leftPtr count <+: text ∨ text ++ [0] <+: bytesAt left leftPtr count := by
  induction count generalizing leftPtr rightPtr text with
  | zero => exact iff_of_true rfl (Or.inl List.nil_prefix)
  | succ count ih =>
      rw [bytesAt_succ]
      cases text with
      | nil =>
          have here : right rightPtr = 0 := spells_singleton.mp spelled
          by_cases isNul : left leftPtr = 0
          · rw [strncmp, if_neg (not_not.mpr (isNul.trans here.symm)), if_pos isNul, isNul]
            exact iff_of_true rfl
              (Or.inr (List.cons_prefix_cons.mpr ⟨rfl, List.nil_prefix⟩))
          · refine iff_of_false (strncmp_of_ne count (here ▸ isNul)) ?_
            rintro (inText | behind)
            · exact List.cons_ne_nil _ _ (List.prefix_nil.mp inText)
            · exact isNul (List.cons_prefix_cons.mp behind).1.symm
      | cons c rest =>
          obtain ⟨here, following⟩ := NullTerminated.tail spelled
          have some : c ≠ 0 := noNul c List.mem_cons_self
          by_cases same : left leftPtr = c
          · rw [strncmp, if_neg (not_not.mpr (same.trans here.symm)),
              if_neg (same ▸ some), ih (fun c member => noNul c (List.mem_cons_of_mem _ member))
                following, same, List.cons_prefix_cons, List.cons_append,
              List.cons_prefix_cons]
            simp only [true_and]
          · refine iff_of_false (strncmp_of_ne count (here ▸ same)) ?_
            rintro (inText | behind)
            · exact same (List.cons_prefix_cons.mp inText).1
            · exact same (List.cons_prefix_cons.mp behind).1.symm

namespace PayloadClass

variable (cls : PayloadClass) (ether : EtherSia) {str : Memory} {text : List UInt8}

theorem payloadEquals_iff (string : NullTerminated str text) :
    cls.payloadEquals ether str = true ↔
      cls.bytes ether <+: text ∨ text ++ [0] <+: cls.bytes ether := by
  unfold payloadEquals bytes
  rw [decide_eq_true_iff]
  exact strncmp_eq_zero_iff string.noNul string.spelled

/-- For every class of sockets: `payloadEquals` says whether the payload is the string
exactly when the payload is not only the beginning of the string, nor the string with a NUL
behind it. -/
theorem payloadEquals_exact_iff (string : NullTerminated str text) :
    (cls.payloadEquals ether str = true ↔ cls.bytes ether = text) ↔
      (cls.bytes ether <+: text → cls.bytes ether = text) ∧
        ¬ text ++ [0] <+: cls.bytes ether := by
  have accepts := cls.payloadEquals_iff ether string
  constructor
  · intro exactly
    constructor
    · intro begins
      exact exactly.mp (accepts.mpr (Or.inl begins))
    · intro behind
      have same := exactly.mp (accepts.mpr (Or.inr behind))
      have count := behind.length_le
      rw [same, List.length_append] at count
      exact absurd count (Nat.not_succ_le_self _)
  · rintro ⟨whole, noNul⟩
    rw [accepts]
    constructor
    · rintro (begins | behind)
      · exact whole begins
      · exact absurd behind noNul
    · intro same
      exact Or.inl (same ▸ List.prefix_rfl)

end PayloadClass

/-- A datagram with the payload "o", for port 7. -/
def shortPayload : Frame :=
  exampleFrame 9 IP6_PROTO_UDP [0x03, 0xe8, 0, 7, 0, 9, 0x91, 0xe8, 0x6f] (by decide)

/-- "on". -/
def onText : List UInt8 :=
  [0x6f, 0x6e]

theorem onText_string : NullTerminated (store (fun _ => 0) 0 onText) onText :=
  nullTerminated_store onText (by decide +kernel)

/-- The packet in the buffer, as each kind of socket compares it with "on". -/
theorem payloadEquals_exact_on :
    let ether := exampleStation.ether.accepted shortPayload
    ∀ cls ∈ [UDPSocket.payloadClass, TCPServer.payloadClass, TCPClient.payloadClass],
      (cls.payloadEquals ether (store (fun _ => 0) 0 onText) = true ↔
          cls.bytes ether = onText) ↔
        (cls.bytes ether <+: onText → cls.bytes ether = onText) ∧
          ¬ onText ++ [0] <+: cls.bytes ether := by
  intro ether cls _
  exact cls.payloadEquals_exact_iff ether onText_string

/-- A received "o" is taken for "on". -/
theorem payloadEquals_takes_beginning :
    ¬ ∀ (before after : EtherSia) (frame : Frame) (length : UInt16) (socket : Socket)
        (str : Memory) (text : List UInt8),
      before.receivePacket frame = some (length, after) →
        UDPSocket.havePacket socket after = true → NullTerminated str text →
          (UDPSocket.payloadClass.payloadEquals after str = true ↔
            UDPSocket.payloadClass.bytes after = text) := by
  intro always
  let after := exampleStation.ether.accepted shortPayload
  have received : exampleStation.ether.receivePacket shortPayload =
      some (UInt16.ofNat shortPayload.octets.length, after) :=
    EtherSia.receivePacket_of_not_icmp ⟨by decide +kernel, by decide +kernel⟩ (by decide +kernel)
  have taken : UDPSocket.havePacket (exampleSocket 7) after = true := by decide +kernel
  have isShort : UDPSocket.payloadClass.bytes after = [0x6f] := by decide +kernel
  have equals := always exampleStation.ether after shortPayload _ (exampleSocket 7) _ onText
    received taken onText_string
  rw [UDPSocket.payloadClass.payloadEquals_iff after onText_string, isShort] at equals
  have same := equals.mp (Or.inl (by decide))
  exact absurd same (by decide)

end EtherSiaStack
