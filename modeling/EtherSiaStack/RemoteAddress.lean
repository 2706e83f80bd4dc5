/-
Setting the remote address of a socket.

A text is parsed into the socket's own address, and the address and the port are assigned
before discovery looks for the neighbour.  What a failing call leaves behind is therefore
the old peer only where it was the new one as well, or where the lookup of a host name
fails, which comes before any assignment.
-/

import EtherSiaStack.AddressText
import EtherSiaStack.Datagram
import EtherSiaStack.HTTPServer
import EtherSiaStack.LateAnswers

namespace EtherSiaStack

open ByteMemory FuelLoop

/-! ### The overloads -/

/-- A string in memory, with its characters. -/
structure CString where
  memory : Memory
  text : List UInt8
  terminated : NullTerminated memory text

def containsColon : List UInt8 → Bool
  | [] => false
  | c :: rest => if c = colon then true else containsColon rest

/-- What a call gets from outside: the value of `random`, and what the lookup of a host
name and the discovery of a neighbour see. -/
structure RemoteSurroundings where
  randomPort : UInt16
  lookup : LookupSurroundings
  fuel : Nat
  now : UInt32
  passes : Nat → DiscoveryPass

/-- `strncpy_P(temp, …, sizeof(temp)-1)`: the array, and what lies behind it on the
stack.  Its last byte is not written. -/
def copyOfFlash (remoteAddress : FlashString) (stack : Memory) : Memory :=
  store stack 0 ((remoteAddress.bytes ++ List.replicate 63 0x00).take 63)

namespace Socket

/-- `setRemoteAddress` for a text. -/
def SetRemoteAddressText (socket : Socket) (ether : EtherSia) (remoteAddress : CString)
    (remotePort : UInt16) (surroundings : RemoteSurroundings)
    (result : Bool × Socket × EtherSia) : Prop :=
  if containsColon remoteAddress.text then
    ∃ parsed address,
      (IPv6Address.fromString remoteAddress.memory).value = some (parsed, address) ∧
        let socket := { socket with remoteAddress := address }
        if parsed then
          socket.SetRemoteAddress ether address remotePort surroundings.randomPort
            surroundings.now surroundings.passes result
        else result = (false, socket, ether)
  else
    ∃ found after, ether.LookupHostname remoteAddress.text surroundings.fuel
        surroundings.lookup (found, after) ∧
      match found with
      | some address =>
          let socket := { socket with remoteAddress := address }
          socket.SetRemoteAddress after address remotePort surroundings.randomPort
            surroundings.now surroundings.passes result
      | none => result = (false, socket, after)

end Socket

/-- The argument of each overload.  A string in flash is copied to an array first, which
`temp` is as a string. -/
inductive RemoteArgument
  | address (remoteAddress : IPv6Address)
  | text (remoteAddress : CString)
  | flash (remoteAddress : FlashString) (stack : Memory) (temp : CString)
      (copied : temp.memory = copyOfFlash remoteAddress stack)

/-- A call of `setRemoteAddress` returns this. -/
def RemoteArgument.Sets (argument : RemoteArgument) (socket : Socket) (ether : EtherSia)
    (remotePort : UInt16) (surroundings : RemoteSurroundings)
    (result : Bool × Socket × EtherSia) : Prop :=
  match argument with
  | .address remoteAddress =>
      socket.SetRemoteAddress ether remoteAddress remotePort surroundings.randomPort
        surroundings.now surroundings.passes result
  | .text remoteAddress =>
      socket.SetRemoteAddressText ether remoteAddress remotePort surroundings result
  | .flash _ _ temp _ => socket.SetRemoteAddressText ether temp remotePort surroundings result

/-! ### What a failing call leaves -/

/-- The socket still has the peer it had. -/
structure KeepsRemote (before after : Socket) : Prop where
  remoteAddress : after.remoteAddress = before.remoteAddress
  remotePort : after.remotePort = before.remotePort
  remoteMac : after.remoteMac = before.remoteMac

/-- The router takes what goes to the address, or the neighbour answers. -/
def MacFound (ether : EtherSia) (address : IPv6Address) (surroundings : RemoteSurroundings) :
    Prop :=
  ether.inOurSubnet address = none ∨
    ∃ mac after, ether.DiscoverNeighbour address NEIGHBOUR_SOLICITATION_ATTEMPTS
      surroundings.now surroundings.passes (some mac, after)

/-- Discovery does not fail, or the peer is the one the socket has. -/
def AddressSafe (socket : Socket) (ether : EtherSia) (address : IPv6Address)
    (remotePort : UInt16) (surroundings : RemoteSurroundings) : Prop :=
  MacFound ether address surroundings ∨
    address = socket.remoteAddress ∧ remotePort = socket.remotePort

/-- A text that is refused leaves the address the socket has; an address, parsed or looked
up, is safe. -/
def TextSafe (socket : Socket) (ether : EtherSia) (remoteAddress : CString)
    (remotePort : UInt16) (surroundings : RemoteSurroundings) : Prop :=
  if containsColon remoteAddress.text then
    ∀ parsed address,
      (IPv6Address.fromString remoteAddress.memory).value = some (parsed, address) →
        if parsed then AddressSafe socket ether address remotePort surroundings
        else address = socket.remoteAddress
  else
    ∀ address after, ether.LookupHostname remoteAddress.text surroundings.fuel
        surroundings.lookup (some address, after) →
      AddressSafe socket after address remotePort surroundings

def RemoteArgument.Safe (argument : RemoteArgument) (socket : Socket) (ether : EtherSia)
    (remotePort : UInt16) (surroundings : RemoteSurroundings) : Prop :=
  match argument with
  | .address remoteAddress => AddressSafe socket ether remoteAddress remotePort surroundings
  | .text remoteAddress => TextSafe socket ether remoteAddress remotePort surroundings
  | .flash _ _ temp _ => TextSafe socket ether temp remotePort surroundings

section Failures

variable {socket assigned : Socket} {ether : EtherSia} {address : IPv6Address}
  {remotePort : UInt16} {surroundings : RemoteSurroundings}
  {result : Bool × Socket × EtherSia}

theorem keepsRemote_setRemoteAddress_iff (sameMac : assigned.remoteMac = socket.remoteMac)
    (sets : assigned.SetRemoteAddress ether address remotePort surroundings.randomPort
      surroundings.now surroundings.passes result) :
    (result.1 = false → KeepsRemote socket result.2.1) ↔
      AddressSafe socket ether address remotePort surroundings := by
  unfold Socket.SetRemoteAddress at sets
  dsimp only at sets
  by_cases onLink : ether.inOurSubnet address ≠ none
  · rw [if_pos onLink] at sets
    obtain ⟨mac, after, discovered, rfl⟩ := sets
    cases mac with
    | some mac =>
        exact iff_of_true (fun failed => nomatch failed) (Or.inl (Or.inr ⟨mac, after, discovered⟩))
    | none =>
        constructor
        · intro keeps
          have kept := keeps rfl
          exact Or.inr ⟨kept.remoteAddress, kept.remotePort⟩
        · intro safe _
          rcases safe with (offLink | ⟨mac, other, found⟩) | ⟨sameAddress, samePort⟩
          · exact absurd offLink onLink
          · cases Returns.result_unique discovered found
          · exact ⟨sameAddress, samePort, sameMac⟩
  · rw [if_neg onLink] at sets
    rw [sets]
    exact iff_of_true (fun failed => nomatch failed) (Or.inl (Or.inl (not_not.mp onLink)))

theorem lookupHostname_unique {hostname : List UInt8} {fuel : Nat}
    {lookup : LookupSurroundings} {first second : Option IPv6Address × EtherSia}
    (left : ether.LookupHostname hostname fuel lookup first)
    (right : ether.LookupHostname hostname fuel lookup second) : first = second := by
  obtain ⟨call, after, starts, returns⟩ := left
  rw [EtherSia.lookupHostname_iff starts] at right
  exact Option.some.inj (Returns.result_unique returns right)

theorem keepsRemote_setRemoteAddressText_iff {remoteAddress : CString}
    (sets : socket.SetRemoteAddressText ether remoteAddress remotePort surroundings result) :
    (result.1 = false → KeepsRemote socket result.2.1) ↔
      TextSafe socket ether remoteAddress remotePort surroundings := by
  unfold Socket.SetRemoteAddressText at sets
  unfold TextSafe
  by_cases isAddress : containsColon remoteAddress.text = true
  · rw [if_pos isAddress] at sets ⊢
    obtain ⟨parsed, address, value, sets⟩ := sets
    have only : ∀ other : Bool × IPv6Address,
        (IPv6Address.fromString remoteAddress.memory).value = some other →
          other = (parsed, address) := by
      intro other isOther
      rw [value] at isOther
      exact (Option.some.inj isOther).symm
    cases parsed with
    | true =>
        have here : (result.1 = false → KeepsRemote socket result.2.1) ↔
            AddressSafe socket ether address remotePort surroundings :=
          keepsRemote_setRemoteAddress_iff rfl sets
        rw [here]
        constructor
        · intro safe parsed other isOther
          cases only _ isOther
          exact safe
        · intro safe
          exact safe true address value
    | false =>
        rw [if_neg Bool.false_ne_true] at sets
        rw [sets]
        constructor
        · intro keeps parsed other isOther
          cases only _ isOther
          exact (keeps rfl).remoteAddress
        · intro safe _
          exact ⟨safe false address value, rfl, rfl⟩
  · rw [if_neg isAddress] at sets ⊢
    obtain ⟨found, after, looked, sets⟩ := sets
    cases found with
    | some address =>
        have here : (result.1 = false → KeepsRemote socket result.2.1) ↔
            AddressSafe socket after address remotePort surroundings :=
          keepsRemote_setRemoteAddress_iff rfl sets
        rw [here]
        constructor
        · intro safe other later isOther
          cases lookupHostname_unique looked isOther
          exact safe
        · intro safe
          exact safe address after looked
    | none =>
        rw [sets]
        refine iff_of_true (fun _ => ⟨rfl, rfl, rfl⟩) ?_
        intro other later isOther
        cases lookupHostname_unique looked isOther

end Failures

/-- Whatever the overload, a failing call leaves the peer exactly when none of the three
ways to fail has assigned another before. -/
theorem setRemoteAddress_atomic_iff {argument : RemoteArgument} {socket : Socket}
    {ether : EtherSia} {remotePort : UInt16} {surroundings : RemoteSurroundings}
    {result : Bool × Socket × EtherSia}
    (sets : argument.Sets socket ether remotePort surroundings result) :
    (result.1 = false → KeepsRemote socket result.2.1) ↔
      argument.Safe socket ether remotePort surroundings := by
  cases argument with
  | address remoteAddress => exact keepsRemote_setRemoteAddress_iff rfl sets
  | text remoteAddress => exact keepsRemote_setRemoteAddressText_iff sets
  | flash remoteAddress stack temp copied => exact keepsRemote_setRemoteAddressText_iff sets

/-- "1:g". -/
def refusedText : CString where
  memory := store (fun _ => 0) 0 [0x31, 0x3a, 0x67]
  text := [0x31, 0x3a, 0x67]
  terminated := nullTerminated_store _ (by decide +kernel)

/-- What lies in front of the "g": 1::. -/
def refusedAddress : IPv6Address :=
  IPv6Address.zero.setGroup 0 1

/-- Nothing is received, and solicitations are due in every pass. -/
def silentNetwork : RemoteSurroundings where
  randomPort := 20000
  lookup := ⟨0, 0, 20000, exampleMac 0, 0, pollingPasses (steadyClock 0 600) fun _ => emptyFrame,
    pollingPasses (steadyClock 0 600) fun _ => emptyFrame⟩
  fuel := 0
  now := 0
  passes := pollingPasses (steadyClock 0 600) fun _ => emptyFrame

theorem refusedText_sets :
    (RemoteArgument.text refusedText).Sets exampleClient exampleStation.ether 7 silentNetwork
      (false, { exampleClient with remoteAddress := refusedAddress },
        exampleStation.ether) := by
  have value : (IPv6Address.fromString refusedText.memory).value =
      some (false, refusedAddress) := by
    decide +kernel
  have isAddress : containsColon refusedText.text = true := by decide +kernel
  unfold RemoteArgument.Sets Socket.SetRemoteAddressText
  dsimp only
  rw [if_pos isAddress]
  exact ⟨false, refusedAddress, value, rfl⟩

/-- No neighbour is found for an address on the link. -/
theorem silentNetwork_finds_nothing : ∃ after,
    exampleStation.ether.DiscoverNeighbour (IPv6Address.linkLocalOf (exampleMac 3))
      NEIGHBOUR_SOLICITATION_ATTEMPTS silentNetwork.now silentNetwork.passes
        (none, after) := by
  have ends : (run (EtherSia.discoverPass (IPv6Address.linkLocalOf (exampleMac 3))
      NEIGHBOUR_SOLICITATION_ATTEMPTS silentNetwork.passes) 6
        (exampleStation.ether.discoveryStart silentNetwork.now)).map
          (fun outcome => outcome.map fun found => found.1.isNone) = some (some true) := by
    decide +kernel
  obtain ⟨outcome, ran, left⟩ := Option.map_eq_some_iff.mp ends
  obtain ⟨⟨mac, after⟩, rfl, nothing⟩ := Option.map_eq_some_iff.mp left
  cases Option.isNone_iff_eq_none.mp nothing
  exact ⟨after, 6, ran⟩

/-- A refused text, on a socket that has a peer. -/
theorem setRemoteAddress_atomic_refused :
    ((false : Bool) = false → KeepsRemote exampleClient
        { exampleClient with remoteAddress := refusedAddress }) ↔
      (RemoteArgument.text refusedText).Safe exampleClient exampleStation.ether 7
        silentNetwork :=
  setRemoteAddress_atomic_iff refusedText_sets

/-- A refused text clears most of the address, and an address whose neighbour does not
answer is left with the MAC address of another. -/
theorem failing_calls_assign :
    (∃ result, (RemoteArgument.text refusedText).Sets exampleClient exampleStation.ether 7
        silentNetwork result ∧ result.1 = false ∧ ¬ KeepsRemote exampleClient result.2.1) ∧
      ∃ result, (RemoteArgument.address (IPv6Address.linkLocalOf (exampleMac 3))).Sets
          exampleClient exampleStation.ether 7 silentNetwork result ∧
        result.1 = false ∧
          result.2.1.remoteAddress = IPv6Address.linkLocalOf (exampleMac 3) ∧
            result.2.1.remoteMac = exampleMac 2 ∧ ¬ KeepsRemote exampleClient result.2.1 := by
  constructor
  · refine ⟨_, refusedText_sets, rfl, fun keeps => ?_⟩
    have other : refusedAddress ≠ exampleClient.remoteAddress := by decide +kernel
    exact other keeps.remoteAddress
  · obtain ⟨after, nothing⟩ := silentNetwork_finds_nothing
    have onLink : exampleStation.ether.inOurSubnet (IPv6Address.linkLocalOf (exampleMac 3)) ≠
        none := by
      decide +kernel
    have other : IPv6Address.linkLocalOf (exampleMac 3) ≠ exampleClient.remoteAddress := by
      decide +kernel
    refine ⟨(false, exampleClient.withRemote (IPv6Address.linkLocalOf (exampleMac 3)) 7 20000,
      after), ?_, rfl, rfl, rfl, fun keeps => other keeps.remoteAddress⟩
    unfold RemoteArgument.Sets Socket.SetRemoteAddress
    dsimp only
    rw [if_pos onLink]
    exact ⟨none, after, nothing, rfl⟩

end EtherSiaStack
