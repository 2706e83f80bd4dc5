/-
`lookupHostname`: a query is sent again until a reply gives an address.

A socket is set up for the resolver first, which discovers its MAC address if it is on
the link; the loop then polls like the one in `discoverNeighbour`.  `fuel` bounds the
passes over a name in a reply: more of them stand for a call that never returns.
-/

import EtherSiaStack.AddressScope
import EtherSiaStack.DnsReply

namespace EtherSiaStack

open ByteMemory IPv6Packet FuelLoop

def DNS_REQUEST_TIMEOUT : UInt32 := 3500
def DNS_REQUEST_ATTEMPTS : UInt8 := 3
def DNS_PORT_NUMBER : UInt16 := 53
def DNS_FLAG_QUERY : UInt8 := 0
def DNS_FLAG_RD : UInt8 := 1
def NEIGHBOUR_SOLICITATION_ATTEMPTS : UInt8 := 5

/-! ### The query -/

/-- The loops of `encodeName`, with the bytes of the label that is being copied: a
label is preceded by its length as a `uint8_t`, and the name ends with a zero. -/
def encodeLabels (label : List UInt8) : List UInt8 → List UInt8
  | [] => UInt8.ofNat label.length :: label ++ [0]
  | c :: rest =>
      if c = 0x2E then UInt8.ofNat label.length :: label ++ encodeLabels [] rest
      else encodeLabels (label ++ [c]) rest

def encodeName (name : List UInt8) : List UInt8 :=
  encodeLabels [] name

/-- What `dnsMakeRequest` writes. -/
def dnsQuery (host : List UInt8) (requestId : UInt16) : List UInt8 :=
  bytes16 requestId ++ [DNS_FLAG_QUERY ||| DNS_FLAG_RD, 0x00] ++ bytes16 1 ++ bytes16 0 ++
    bytes16 0 ++ bytes16 0 ++ encodeName host ++ bytes16 DNS_TYPE_AAAA ++
      bytes16 DNS_CLASS_IN

/-- `ptr-buffer`, as a `uint16_t`. -/
def dnsMakeRequest (host : List UInt8) (requestId : UInt16) (packet : Memory) :
    UInt16 × Memory :=
  let query := dnsQuery host requestId
  (UInt16.ofNat query.length, store packet UDPSocket.payload query)

/-! ### The socket -/

namespace Socket

/-- `setRemoteAddress` up to the search for the MAC address; `randomPort` is the value
of `random(20000, 30000)`. -/
def withRemote (socket : Socket) (remoteAddress : IPv6Address) (remotePort randomPort : UInt16) :
    Socket :=
  { socket with
    remotePort := remotePort
    remoteAddress := remoteAddress
    localPort := if socket.localPort = 0 then randomPort else socket.localPort }

/-- `setRemoteAddress` for an address; the passes are those of `discoverNeighbour`,
if the address is on the link. -/
def SetRemoteAddress (socket : Socket) (ether : EtherSia) (remoteAddress : IPv6Address)
    (remotePort randomPort : UInt16) (now : UInt32) (passes : Nat → DiscoveryPass)
    (result : Bool × Socket × EtherSia) : Prop :=
  let socket := socket.withRemote remoteAddress remotePort randomPort
  if ether.inOurSubnet remoteAddress ≠ none then
    ∃ mac after, ether.DiscoverNeighbour remoteAddress NEIGHBOUR_SOLICITATION_ATTEMPTS now
        passes (mac, after) ∧
      result = match mac with
        | none => (false, socket, after)
        | some mac => (true, { socket with remoteMac := mac }, after)
  else
    result = (true, { socket with remoteMac := ether.routerMac }, ether)

end Socket

/-! ### The loop -/

/-- What a call of `lookupHostname` keeps: the host name, the `random` id and the
socket. -/
structure LookupCall where
  hostname : List UInt8
  id : UInt16
  udp : Socket

/-- The locals of `lookupHostname` that change, the interface and the number of the
pass. -/
structure HostnameLookup where
  ether : EtherSia
  nextRequest : UInt32
  requestCount : UInt8
  passNumber : Nat

namespace LookupCall

/-- The length of the request: `dnsMakeRequest` computes it from the name alone. -/
def requestLength (call : LookupCall) : UInt16 :=
  UInt16.ofNat (dnsQuery call.hostname call.id).length

/-- The interface with the query in its buffer. -/
def makeRequest (call : LookupCall) (ether : EtherSia) : UInt16 × EtherSia :=
  let (len, packet) := dnsMakeRequest call.hostname call.id ether.buffer
  (len, { ether with buffer := packet })

/-- The request at the start of a pass, once it is due. -/
def requestWhenDue (call : LookupCall) (pass : DiscoveryPass) (lookup : HostnameLookup) :
    HostnameLookup :=
  if hasElapsed pass.testTime lookup.nextRequest 0 then
    let (len, ether) := call.makeRequest lookup.ether
    if len ≠ 0 then
      { lookup with
        ether := UDPSocket.send call.udp len false ether
        nextRequest := pass.restartTime + DNS_REQUEST_TIMEOUT
        requestCount := lookup.requestCount + 1 }
    else
      { lookup with ether := ether, requestCount := lookup.requestCount + 1 }
  else lookup

/-- `dnsProcessReply` on the payload in the buffer: nothing if it never returns, or
else its result, as the address it points at. -/
def processReply (call : LookupCall) (fuel : Nat) (packet : Memory) :
    Option (Option IPv6Address) :=
  let payload : Memory := fun offset => packet (UDPSocket.payload + offset)
  ((dnsProcessReply fuel (UDPSocket.payloadLength packet) call.id) payload).value.map
    fun result => result.map fun ptr => ⟨blockAt packet (UDPSocket.payload + ptr)⟩

/-- One pass of the loop.  Leaving with `none` is a call inside the loop that never
returns. -/
def pass (call : LookupCall) (fuel : Nat) (passes : Nat → DiscoveryPass)
    (lookup : HostnameLookup) : HostnameLookup ⊕ Option (Option IPv6Address × EtherSia) :=
  if lookup.requestCount ≤ DNS_REQUEST_ATTEMPTS then
    let pass := passes lookup.passNumber
    let lookup := call.requestWhenDue pass lookup
    match lookup.ether.receivePacket pass.frame with
    | none => .inr none
    | some (_, ether) =>
        let next := { lookup with ether := ether, passNumber := lookup.passNumber + 1 }
        if UDPSocket.havePacket call.udp ether then
          match call.processReply fuel ether.buffer with
          | none => .inr none
          | some (some address) => .inr (some (some address, ether))
          | some none => .inl next
        else .inl next
  else .inr (some (none, lookup.ether))

/-- The loop as it starts. -/
def start (ether : EtherSia) (now : UInt32) : HostnameLookup where
  ether := ether
  nextRequest := now
  requestCount := 0
  passNumber := 0

end LookupCall

/-- The socket `lookupHostname` declares; `unsetMac` is what its MAC address is before
it is set. -/
def newSocket (unsetMac : MACAddress) : Socket where
  remoteAddress := IPv6Address.zero
  remoteMac := unsetMac
  remotePort := 0
  localPort := 0
  writePos := -1

/-- What a call of `lookupHostname` gets from outside: the first reading of `millis()`,
the two values of `random`, the bytes of a new socket, and what discovery and the loop
see. -/
structure LookupSurroundings where
  now : UInt32
  id : UInt16
  randomPort : UInt16
  unsetMac : MACAddress
  discoveryNow : UInt32
  discoveryPasses : Nat → DiscoveryPass
  passes : Nat → DiscoveryPass

/-- The loop of a call and the interface it starts with: the socket is set up for the
resolver, whether or not its MAC address is found. -/
def EtherSia.StartsLookup (ether : EtherSia) (hostname : List UInt8)
    (surroundings : LookupSurroundings) (call : LookupCall) (after : EtherSia) : Prop :=
  call.hostname = hostname ∧ call.id = surroundings.id ∧
    ∃ found, Socket.SetRemoteAddress (newSocket surroundings.unsetMac) ether
      ether.dnsServerAddress DNS_PORT_NUMBER surroundings.randomPort
      surroundings.discoveryNow surroundings.discoveryPasses (found, call.udp, after)

/-- The call returns the address or NULL, and the interface it leaves behind. -/
def EtherSia.LookupHostname (ether : EtherSia) (hostname : List UInt8) (fuel : Nat)
    (surroundings : LookupSurroundings) (result : Option IPv6Address × EtherSia) : Prop :=
  ∃ call after, ether.StartsLookup hostname surroundings call after ∧
    Returns (call.pass fuel surroundings.passes)
      (LookupCall.start after surroundings.now) (some result)

end EtherSiaStack
