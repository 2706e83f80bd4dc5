/-
A station: one interface, its TCP clients and everything that can happen to them.

UDP sockets and TCP servers keep no protocol state of their own, so an event
carries the socket it is called on; TCP clients are part of the state.  An
application may write anything into the payload area of the buffer and change
the configuration at any time.  A step is missing only when a call never
returns.
-/

import EtherSiaStack.TCPClient
import EtherSiaStack.Library.Trace

namespace EtherSiaStack

open ByteMemory

structure Station (ι : Type) where
  ether : EtherSia
  clients : ι → TCPClient

inductive StationEvent (ι : Type)
  | receivePacket (frame : Frame)
  | rejectPacket
  | tcpSendRSTReply
  | icmp6SendNS (target source : IPv6Address)
  | icmp6SendRS
  | configure (globalAddress dnsServerAddress : IPv6Address) (routerMac : MACAddress)
      (autoConfigurationEnabled : Bool)
  | writePayload (offset : Nat) (bytes : List UInt8)
  | udpSend (socket : Socket) (length : UInt16) (isReply : Bool)
  | serverHavePacket (socket : Socket) (randomNumber : UInt32)
  | serverSend (socket : Socket) (length : UInt16) (isReply : Bool)
  | setRemoteAddress (client : ι) (socket : Socket)
  | connect (client : ι) (randomNumber now : UInt32)
  | clientHavePacket (client : ι) (clock : HavePacketClock)
  | clientSend (client : ι) (length : UInt16) (isReply : Bool)

namespace Station

variable {ι : Type} [DecidableEq ι]

/-- Put back a client and the interface a call on it left behind. -/
def update (station : Station ι) (index : ι) (after : TCPClient × EtherSia) :
    Station ι :=
  { ether := after.2, clients := Function.update station.clients index after.1 }

def step (station : Station ι) : StationEvent ι → Option (Station ι)
  | .receivePacket frame =>
      (station.ether.receivePacket frame).map fun received =>
        { station with ether := received.2 }
  | .rejectPacket => some { station with ether := station.ether.rejectPacket }
  | .tcpSendRSTReply => some { station with ether := station.ether.tcpSendRSTReply }
  | .icmp6SendNS target source =>
      some { station with ether := station.ether.icmp6SendNS target source }
  | .icmp6SendRS => some { station with ether := station.ether.icmp6SendRS }
  | .configure globalAddress dnsServerAddress routerMac autoConfigurationEnabled =>
      let ether := { station.ether with
        globalAddress := globalAddress
        dnsServerAddress := dnsServerAddress
        routerMac := routerMac
        autoConfigurationEnabled := autoConfigurationEnabled }
      some { station with ether := ether }
  | .writePayload offset bytes =>
      let ether := station.ether.modifyPacket fun packet =>
        store packet (IPv6Packet.payload + offset) bytes
      some { station with ether := ether }
  | .udpSend socket length isReply =>
      some { station with ether := UDPSocket.send socket length isReply station.ether }
  | .serverHavePacket socket randomNumber =>
      some { station with
        ether := (TCPServer.havePacket socket randomNumber station.ether).2.2 }
  | .serverSend socket length isReply =>
      some { station with ether := TCPServer.send socket length isReply station.ether }
  | .setRemoteAddress index socket =>
      some (station.update index
        ({ station.clients index with toSocket := socket }, station.ether))
  | .connect index randomNumber now =>
      some (station.update index
        ((station.clients index).connect randomNumber now station.ether))
  | .clientHavePacket index clock =>
      some (station.update index ((station.clients index).poll clock station.ether))
  | .clientSend index length isReply =>
      some (station.update index
        ((station.clients index).send length isReply station.ether))

@[simp] theorem update_ether (station : Station ι) (index : ι)
    (after : TCPClient × EtherSia) : (station.update index after).ether = after.2 :=
  rfl

@[simp] theorem update_clients_same (station : Station ι) (index : ι)
    (after : TCPClient × EtherSia) :
    (station.update index after).clients index = after.1 := by
  simp [update]

theorem update_clients_other (station : Station ι) {index other : ι}
    (after : TCPClient × EtherSia) (different : other ≠ index) :
    (station.update index after).clients other = station.clients other := by
  simp [update, Function.update_of_ne different]

/-- The event is a call on this client. -/
def Concerns (index : ι) : StationEvent ι → Prop
  | .setRemoteAddress other _ => other = index
  | .connect other _ _ => other = index
  | .clientHavePacket other _ => other = index
  | .clientSend other _ _ => other = index
  | _ => False

/-- What a step does to one of the clients: nothing, or one of the calls on it. -/
theorem step_client_cases (index : ι) {before after : Station ι} {event : StationEvent ι}
    (stepped : before.step event = some after) {motive : Prop}
    (unrelated : ¬ Concerns index event → after.clients index = before.clients index →
      motive)
    (setsRemote : ∀ socket, event = .setRemoteAddress index socket →
      after = before.update index
        ({ before.clients index with toSocket := socket }, before.ether) → motive)
    (connects : ∀ randomNumber now, event = .connect index randomNumber now →
      after = before.update index
        ((before.clients index).connect randomNumber now before.ether) → motive)
    (polls : ∀ clock, event = .clientHavePacket index clock →
      after = before.update index ((before.clients index).poll clock before.ether) →
        motive)
    (sends : ∀ length isReply, event = .clientSend index length isReply →
      after = before.update index
        ((before.clients index).send length isReply before.ether) → motive) : motive := by
  cases event with
  | receivePacket frame =>
      obtain ⟨received, _, rfl⟩ := Option.map_eq_some_iff.mp stepped
      exact unrelated id rfl
  | setRemoteAddress other socket =>
      obtain rfl := Option.some.inj stepped
      by_cases same : other = index
      · subst same
        exact setsRemote socket rfl rfl
      · exact unrelated same (update_clients_other _ _ (Ne.symm same))
  | connect other randomNumber now =>
      obtain rfl := Option.some.inj stepped
      by_cases same : other = index
      · subst same
        exact connects randomNumber now rfl rfl
      · exact unrelated same (update_clients_other _ _ (Ne.symm same))
  | clientHavePacket other clock =>
      obtain rfl := Option.some.inj stepped
      by_cases same : other = index
      · subst same
        exact polls clock rfl rfl
      · exact unrelated same (update_clients_other _ _ (Ne.symm same))
  | clientSend other length isReply =>
      obtain rfl := Option.some.inj stepped
      by_cases same : other = index
      · subst same
        exact sends length isReply rfl rfl
      · exact unrelated same (update_clients_other _ _ (Ne.symm same))
  | _ =>
      obtain rfl := Option.some.inj stepped
      exact unrelated id rfl

end Station

end EtherSiaStack
