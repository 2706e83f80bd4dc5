/-
Several server sockets on one interface.

The program asks one socket after another for the packet in the shared buffer.  Each
socket looks first at the protocol and the destination port, and neither changes as
long as the buffer is flagged as received; so with distinct ports there is one socket
that may act, whatever was called before.
-/

import EtherSiaStack.Reception

namespace EtherSiaStack

open ByteMemory IPv6Packet Trace

/-- A socket whose `havePacket` is asked. -/
inductive ServerSocket
  | udp (socket : Socket)
  | tcp (socket : Socket)

namespace ServerSocket

/-- Protocol and local port. -/
def key : ServerSocket → UInt8 × UInt16
  | udp socket => (IP6_PROTO_UDP, socket.localPort)
  | tcp socket => (IP6_PROTO_TCP, socket.localPort)

/-- `randomNumber` is what `random()` returns, should the call need it. -/
def havePacket (socket : ServerSocket) (randomNumber : UInt32) (ether : EtherSia) :
    Bool × ServerSocket × EtherSia :=
  match socket with
  | udp socket => (UDPSocket.havePacket socket ether, udp socket, ether)
  | tcp socket =>
      let (accepted, socket, ether) := TCPServer.havePacket socket randomNumber ether
      (accepted, tcp socket, ether)

end ServerSocket

/-- The protocol and the destination port of a packet; TCP and UDP have the port in
the same place. -/
def packetKey (packet : Memory) : UInt8 × UInt16 :=
  (protocol packet, TCPHeader.destinationPort packet)

/-! ### One call -/

namespace ServerSocket

theorem havePacket_of_other {socket : ServerSocket} {ether : EtherSia}
    (other : ether.bufferContainsReceived = true → packetKey ether.buffer ≠ socket.key)
    (randomNumber : UInt32) :
    socket.havePacket randomNumber ether = (false, socket, ether) := by
  cases socket with
  | udp socket =>
      have refuses : UDPSocket.havePacket socket ether = false := by
        unfold UDPSocket.havePacket
        dsimp only
        split_ifs with empty isUdp port
        · rfl
        · rfl
        · rfl
        · rfl
        · rfl
        · rfl
        · have same : packetKey ether.buffer = (IP6_PROTO_UDP, socket.localPort) :=
            Prod.ext (not_not.mp isUdp) (not_not.mp port)
          exact absurd same (other (by simpa using empty))
      unfold havePacket
      dsimp only
      rw [refuses]
  | tcp socket =>
      have refuses : TCPServer.havePacket socket randomNumber ether =
          (false, socket, ether) := by
        unfold TCPServer.havePacket
        dsimp only
        by_cases empty : ether.bufferContainsReceived = false
        · exact if_pos empty
        · by_cases isTcp : protocol ether.buffer = IP6_PROTO_TCP
          · have port : TCPHeader.destinationPort ether.buffer ≠ socket.localPort := by
              intro same
              exact other (by simpa using empty) (Prod.ext isTcp same)
            rw [if_neg empty, if_neg (not_not.mpr isTcp)]
            exact if_pos port
          · rw [if_neg empty]
            exact if_pos isTcp
      unfold havePacket
      dsimp only
      rw [refuses]

/-- The call keeps the socket's port; and it keeps the protocol and the port of the
packet, or clears the flag. -/
theorem havePacket_keepsKeys (socket : ServerSocket) (randomNumber : UInt32)
    (ether : EtherSia) :
    (socket.havePacket randomNumber ether).2.1.key = socket.key ∧
      ((socket.havePacket randomNumber ether).2.2.bufferContainsReceived = true →
        ether.bufferContainsReceived = true ∧
          packetKey (socket.havePacket randomNumber ether).2.2.buffer =
            packetKey ether.buffer) := by
  cases socket with
  | udp socket => exact ⟨rfl, fun flag => ⟨flag, rfl⟩⟩
  | tcp socket =>
      unfold havePacket TCPServer.havePacket
      dsimp only
      split_ifs
      · exact ⟨rfl, fun flag => ⟨flag, rfl⟩⟩
      · exact ⟨rfl, fun flag => ⟨flag, rfl⟩⟩
      · exact ⟨rfl, fun flag => ⟨flag, rfl⟩⟩
      · exact ⟨rfl, fun flag => ⟨flag, rfl⟩⟩
      · exact ⟨rfl, nofun⟩
      · exact ⟨rfl, nofun⟩
      · refine ⟨rfl, fun flag => ⟨flag, ?_⟩⟩
        exact Prod.ext (by simp [packetKey, EtherSia.modifyPacket])
          (by simp [packetKey, EtherSia.modifyPacket])
      · exact ⟨rfl, fun flag => ⟨flag, rfl⟩⟩

end ServerSocket

/-! ### Any number of calls -/

structure Servers (ι : Type) where
  ether : EtherSia
  socket : ι → ServerSocket

namespace Servers

variable {ι : Type} [DecidableEq ι]

/-- The outcome of `havePacket` on one of the sockets. -/
def call (servers : Servers ι) (index : ι) (randomNumber : UInt32) :
    Bool × ServerSocket × EtherSia :=
  (servers.socket index).havePacket randomNumber servers.ether

/-- A socket is asked; the number is its random number. -/
def step (servers : Servers ι) (asked : ι × UInt32) : Option (Servers ι) :=
  let (_, socket, ether) := servers.call asked.1 asked.2
  some ⟨ether, Function.update servers.socket asked.1 socket⟩

/-- The call returns false and leaves the interface as it was: the buffer, the flag and
what has been sent. -/
def PassesOver (taken : Taken (Servers ι) (ι × UInt32)) : Prop :=
  (taken.before.call taken.event.1 taken.event.2).1 = false ∧
    taken.after.ether = taken.before.ether

/-- The sockets have the ports they started with, and a packet still flagged is the one
that was received. -/
structure SameKeys (start servers : Servers ι) : Prop where
  sockets : ∀ index, (servers.socket index).key = (start.socket index).key
  packet : servers.ether.bufferContainsReceived = true →
    start.ether.bufferContainsReceived = true ∧
      packetKey servers.ether.buffer = packetKey start.ether.buffer

omit [DecidableEq ι] in
theorem SameKeys.refl (start : Servers ι) : SameKeys start start :=
  ⟨fun _ => rfl, fun flag => ⟨flag, rfl⟩⟩

theorem sameKeys_step {start : Servers ι} {taken : Taken (Servers ι) (ι × UInt32)}
    (stepped : taken.before.step taken.event = some taken.after)
    (same : SameKeys start taken.before) : SameKeys start taken.after := by
  obtain ⟨before, ⟨asked, randomNumber⟩, after⟩ := taken
  change before.step (asked, randomNumber) = some after at stepped
  cases stepped
  obtain ⟨keepsSocket, keepsPacket⟩ :=
    (before.socket asked).havePacket_keepsKeys randomNumber before.ether
  constructor
  · intro index
    by_cases isAsked : index = asked
    · subst isAsked
      change (Function.update before.socket index _ index).key = _
      rw [Function.update_self]
      exact keepsSocket.trans (same.sockets index)
    · change (Function.update before.socket asked _ index).key = _
      rw [Function.update_of_ne isAsked]
      exact same.sockets index
  · intro flag
    obtain ⟨wasSet, sameBuffer⟩ := keepsPacket flag
    obtain ⟨received, sameStart⟩ := same.packet wasSet
    exact ⟨received, sameBuffer.trans sameStart⟩

theorem step_passesOver {start : Servers ι} {taken : Taken (Servers ι) (ι × UInt32)}
    (stepped : taken.before.step taken.event = some taken.after)
    (same : SameKeys start taken.before)
    (other : packetKey start.ether.buffer ≠ (start.socket taken.event.1).key) :
    PassesOver taken := by
  obtain ⟨before, ⟨asked, randomNumber⟩, after⟩ := taken
  change before.step (asked, randomNumber) = some after at stepped
  cases stepped
  have outcome : before.call asked randomNumber =
      (false, before.socket asked, before.ether) := by
    refine ServerSocket.havePacket_of_other (fun flag isSame => other ?_) randomNumber
    rw [← (same.packet flag).2, isSame]
    exact same.sockets asked
  exact ⟨congrArg Prod.fst outcome, congrArg (fun result => result.2.2) outcome⟩

/-- One socket, the same for all orders of calls, may take or answer the packet; every
call on another one, however often and in whatever order they are made, passes it
over. -/
theorem run_passesOver (servers : Servers ι)
    (distinct : Function.Injective fun index => (servers.socket index).key) :
    ∃ chosen : Option ι, ∀ calls : List (ι × UInt32),
      Always Servers.step servers calls fun taken =>
        some taken.event.1 ≠ chosen → PassesOver taken := by
  have holds (chosen : Option ι)
      (isOther : ∀ index, some index ≠ chosen →
        packetKey servers.ether.buffer ≠ (servers.socket index).key)
      (calls : List (ι × UInt32)) :
      Always Servers.step servers calls fun taken =>
        some taken.event.1 ≠ chosen → PassesOver taken := by
    refine always_of_invariant (SameKeys servers) ?_ ?_ (SameKeys.refl servers)
      (fun _ _ => trivial)
    · exact fun _ stepped same _ => sameKeys_step stepped same
    · exact fun _ stepped same _ other => step_passesOver stepped same (isOther _ other)
  by_cases isFor : ∃ index, packetKey servers.ether.buffer = (servers.socket index).key
  · obtain ⟨index, isKey⟩ := isFor
    refine ⟨some index, holds (some index) fun other different same => different ?_⟩
    have sameKey : (servers.socket other).key = (servers.socket index).key :=
      same.symm.trans isKey
    exact congrArg some (distinct sameKey)
  · exact ⟨none, holds none fun index _ same => isFor ⟨index, same⟩⟩

/-- A name server and a web server with a datagram for the former in the buffer. -/
def exampleServers : Servers Bool where
  ether := exampleStation.ether.accepted truncatedDatagram
  socket
    | false => .udp ⟨IPv6Address.zero, ⟨fun _ => 0⟩, 0, 53, -1⟩
    | true => .tcp ⟨IPv6Address.zero, ⟨fun _ => 0⟩, 0, 80, -1⟩

theorem run_passesOver_datagram :
    ∃ chosen : Option Bool, ∀ calls : List (Bool × UInt32),
      Always Servers.step exampleServers calls fun taken =>
        some taken.event.1 ≠ chosen → PassesOver taken :=
  run_passesOver exampleServers (by decide)

end Servers

end EtherSiaStack
