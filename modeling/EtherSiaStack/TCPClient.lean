/-
The TCP client.

`havePacket` is one function of labels and jumps; each label is a definition
here and a `goto` is a call in tail position.  The state byte is its connection
state and the bit `TCP_STATE_TIMEDOUT`, the application flags byte one field
for each bit.
-/

import EtherSiaStack.Socket

namespace EtherSiaStack

open ByteMemory IPv6Packet

/-- The low four bits of `_state`. -/
inductive TCPState
  | disconnected
  | waitSynAck
  | connected
  | lastAck
  deriving DecidableEq, Repr

/-- The bits of `_appliFlags`. -/
structure AppliFlags where
  ackData : Bool
  newData : Bool
  rexmit : Bool
  close : Bool
  abort : Bool
  connected : Bool
  reset : Bool
  deriving DecidableEq, Repr

def AppliFlags.none : AppliFlags :=
  ⟨false, false, false, false, false, false, false⟩

structure TCPClient extends Socket where
  remoteSeqNum : UInt32
  localSeqNum : UInt32
  state : TCPState
  timedOut : Bool
  appliFlags : AppliFlags
  unAckLen : UInt16
  inactivity : UInt32
  periodic : UInt32
  timer : UInt8
  rto : UInt8
  sa : UInt8
  sv : UInt8
  nrtx : UInt8
  nrcvd : UInt16
  ndropped : UInt16
  nrexmitSynAck : UInt16
  nrexmitData : UInt16
  nrexmitFinAck : UInt16

/-- The four readings of `millis()` one call of `havePacket` can make. -/
structure HavePacketClock where
  inactivityReset : UInt32
  inactivityTest : UInt32
  periodicTest : UInt32
  periodicReset : UInt32

/-- `(long)(now - start) >= interval` for a 32-bit `long`. -/
def hasElapsed (now start : UInt32) (interval : Int) : Bool :=
  (now - start).toInt32.toInt ≥ interval

namespace TCPClient

open TCPHeader

def PERIODIC_TIME_OUT : Int := 250
def UIP_RTO : UInt8 := 3
def UIP_MAXRTX : UInt8 := 8
def UIP_MAXSYNRTX : UInt8 := 5

/-- The constructor, for an object in static storage: the members it does not
set are zero. -/
def construct (socket : Socket) : TCPClient where
  toSocket := socket
  remoteSeqNum := 0
  localSeqNum := 0
  state := .disconnected
  timedOut := false
  appliFlags := AppliFlags.none
  unAckLen := 0
  inactivity := 0
  periodic := 0
  timer := 0
  rto := 0
  sa := 0
  sv := 0
  nrtx := 0
  nrcvd := 0
  ndropped := 0
  nrexmitSynAck := 0
  nrexmitData := 0
  nrexmitFinAck := 0

/-- Where `transmitPayload()` points. -/
def transmitPayload : Nat := 78

/-- Where `payload()` points. -/
def payload (packet : Memory) : Nat :=
  IPv6Packet.payload + (receiveHeaderLen packet).toNat

/-- As a `uint16_t`. -/
def payloadLength (packet : Memory) : UInt16 :=
  IPv6Packet.payloadLength packet - receiveHeaderLen packet

/-! ### Sending -/

/-- `fillTCPHeader` up to the checksum. -/
def tcpHeaderFields (client : TCPClient) (packet : Memory) : Memory :=
  let packet := setDestinationPort packet client.remotePort
  let packet := setSourcePort packet client.localPort
  let packet := setSequenceNum packet client.localSeqNum
  let packet := setAcknowledgementNum packet client.remoteSeqNum
  let packet := setProtocol packet IP6_PROTO_TCP
  let packet := setWindow packet TCP_WINDOW_SIZE
  let packet := if dataOffset packet &&& 0xF0 > 0x50 then setMssOption packet else packet
  setUrgentPointer packet 0

def fillTCPHeader (client : TCPClient) (packet : Memory) : Memory :=
  storeChecksum (client.tcpHeaderFields packet) checksumAddress

def sendInternal (client : TCPClient) (length : UInt16) (ether : EtherSia) :
    TCPClient × EtherSia :=
  let ether := ether.modifyPacket fun packet =>
    let packet := setDataOffset packet 0x60
    let packet := setPayloadLength packet (receiveHeaderLen packet + length)
    client.fillTCPHeader packet
  let ether := ether.send
  if client.appliFlags.rexmit then
    (client, ether)
  else
    ({ client with
        unAckLen := client.unAckLen + length
        timer := client.rto
        nrtx := 0 }, ether)

def send (client : TCPClient) (length : UInt16) (isReply : Bool) (ether : EtherSia) :
    TCPClient × EtherSia :=
  client.sendInternal length (client.toSocket.prepare isReply ether)

/-- Active open; `randomNumber` is `random()` and `now` is `millis()`. -/
def connect (client : TCPClient) (randomNumber now : UInt32) (ether : EtherSia) :
    TCPClient × EtherSia :=
  let client := { client with
    localSeqNum := randomNumber
    remoteSeqNum := 0
    localPort := client.localPort + 1
    unAckLen := 1
    timer := UIP_RTO
    rto := UIP_RTO
    sa := 0
    sv := 16
    nrtx := 0
    state := .waitSynAck
    timedOut := false
    periodic := now
    inactivity := now }
  let ether := ether.modifyPacket fun packet => setFlags packet TCP_FLAG_SYN
  client.send 0 false ether

/-- Label `tcp_send_nodata`. -/
def tcpSendNoData (client : TCPClient) (ether : EtherSia) : EtherSia :=
  let ether := ether.modifyPacket fun packet =>
    let packet := setPayloadLength packet (receiveHeaderLen packet)
    client.fillTCPHeader packet
  ether.send

/-- Label `tcp_send_nodata_reply`, with the flags set before the jump. -/
def tcpSendNoDataReply (client : TCPClient) (flags : UInt8) (ether : EtherSia) :
    EtherSia :=
  let ether := ether.modifyPacket fun packet => setFlags packet flags
  let ether := ether.prepareReply
  let ether := ether.modifyPacket fun packet => setDataOffset packet 0x50
  client.tcpSendNoData ether

/-- Label `tcp_send_ack`. -/
def tcpSendAck (client : TCPClient) (ether : EtherSia) : EtherSia :=
  client.tcpSendNoDataReply TCP_FLAG_ACK ether

/-- Label `tcp_send_finack`. -/
def tcpSendFinAck (client : TCPClient) (ether : EtherSia) : EtherSia :=
  client.tcpSendNoDataReply (TCP_FLAG_FIN ||| TCP_FLAG_ACK) ether

/-- Label `tcp_resend`, with the flags and data offset set before the jump. -/
def tcpResend (client : TCPClient) (flags dataOffset : UInt8) (ether : EtherSia) :
    EtherSia :=
  let ether := ether.modifyPacket fun packet =>
    let packet := setFlags packet flags
    setDataOffset packet dataOffset
  let ether := ether.prepareSend
  let ether := ether.modifyPacket fun packet =>
    let packet := setDestination packet client.remoteAddress
    setEtherDestination packet client.remoteMac
  client.tcpSendNoData ether

/-- Label `reset`.  The destination port is stored without `htons`. -/
def resetReply (client : TCPClient) (ether : EtherSia) : EtherSia :=
  if hasFlag (flags ether.buffer) TCP_FLAG_RST then ether
  else
    let ether := ether.modifyPacket fun packet =>
      setFlags packet (TCP_FLAG_RST ||| TCP_FLAG_ACK)
    let ether := ether.prepareReply
    let ether := ether.modifyPacket fun packet =>
      let packet := setProtocol packet IP6_PROTO_TCP
      let packet := setSourcePort packet (destinationPort packet)
      let packet := setDestinationPort packet (htons client.remotePort)
      let tmp32 := sequenceNum packet
      let packet := setSequenceNum packet (acknowledgementNum packet)
      let packet := setAcknowledgementNum packet (tmp32 + 1)
      let packet := setDataOffset packet 0x50
      let packet := setPayloadLength packet (receiveHeaderLen packet)
      let packet := setWindow packet TCP_WINDOW_SIZE
      let packet := setUrgentPointer packet 0
      storeChecksum packet checksumAddress
    ether.send

/-! ### Retransmission -/

/-- The timer after an expiry: `UIP_RTO << (_nrtx > 4 ? 4 : _nrtx)`. -/
def backoff (nrtx : UInt8) : UInt8 :=
  UIP_RTO <<< (if nrtx > 4 then 4 else nrtx)

/-- Label `check_for_retransmit`. -/
def checkForRetransmit (client : TCPClient) (ether : EtherSia) :
    TCPClient × EtherSia :=
  if client.unAckLen > 0 ∧ client.timer = 0 then
    let client := { client with timer := backoff client.nrtx }
    if client.nrtx = UIP_MAXRTX ∨
        (client.state = .waitSynAck ∧ client.timedOut = false ∧
          client.nrtx = UIP_MAXSYNRTX) then
      -- network congestion: inform the application and send a reset
      ({ client with timedOut := true },
        client.tcpResend (TCP_FLAG_RST ||| TCP_FLAG_ACK) 0x50 ether)
    else
      let client := { client with nrtx := client.nrtx + 1 }
      match client.state with
      | .waitSynAck =>
          ({ client with nrexmitSynAck := client.nrexmitSynAck + 1 },
            client.tcpResend TCP_FLAG_SYN 0x60 ether)
      | .connected =>
          -- the application has to send the data again
          ({ client with
              nrexmitData := client.nrexmitData + 1
              appliFlags := { client.appliFlags with rexmit := true } },
            ether.modifyPacket fun packet => setFlags packet TCP_FLAG_ACK)
      | .lastAck =>
          ({ client with nrexmitFinAck := client.nrexmitFinAck + 1 },
            client.tcpResend (TCP_FLAG_FIN ||| TCP_FLAG_ACK) 0x50 ether)
      | .disconnected => (client, ether)
  else (client, ether)

/-! ### Receiving -/

/-- The Van Jacobson update; `m` is a `signed char`. -/
def updateRto (client : TCPClient) : TCPClient :=
  let m : Int8 := (client.rto - client.timer).toInt8
  let m := m - (client.sa >>> 3).toInt8
  let sa := client.sa + m.toUInt8
  let m := if m < 0 then -m else m
  let m := m - (client.sv >>> 2).toInt8
  let sv := client.sv + m.toUInt8
  { client with sa := sa, sv := sv, rto := (sa >>> 3) + sv }

/-- The acking test: does the packet acknowledge all outstanding data? -/
def ackTest (client : TCPClient) (packet : Memory) : TCPClient :=
  if hasFlag (flags packet) TCP_FLAG_ACK ∧ client.unAckLen > 0 ∧
      acknowledgementNum packet = client.localSeqNum + client.unAckLen.toUInt32 then
    let client :=
      { client with localSeqNum := client.localSeqNum + client.unAckLen.toUInt32 }
    let client := if client.nrtx = 0 then client.updateRto else client
    { client with
      timer := client.rto
      unAckLen := 0
      appliFlags := { AppliFlags.none with ackData := true } }
  else client

/-- State `TCP_STATE_WAIT_SYN_ACK` after the acking test. -/
def waitSynAckSegment (client : TCPClient) (ether : EtherSia) :
    TCPClient × EtherSia :=
  if client.appliFlags.ackData ∧
      hasFlag (flags ether.buffer) (TCP_FLAG_SYN ||| TCP_FLAG_ACK) then
    let client := { client with
      state := .connected
      timedOut := false
      remoteSeqNum := sequenceNum ether.buffer + 1
      appliFlags := { AppliFlags.none with connected := true } }
    (client, client.tcpSendAck ether)
  else
    -- the connection has failed
    let client := { client with
      appliFlags := { AppliFlags.none with abort := true }
      state := .disconnected
      timedOut := false }
    (client, client.resetReply ether)

/-- State `TCP_STATE_CONNECTED` after the acking test. -/
def connectedSegment (client : TCPClient) (ether : EtherSia) : TCPClient × EtherSia :=
  if hasFlag (flags ether.buffer) TCP_FLAG_FIN then
    if client.unAckLen > 0 then client.checkForRetransmit ether
    else
      let length := payloadLength ether.buffer
      let client := { client with
        remoteSeqNum := client.remoteSeqNum + (length + 1).toUInt32
        appliFlags := { client.appliFlags with
          close := true
          newData := client.appliFlags.newData || length > 0 }
        unAckLen := 1
        state := .lastAck
        timedOut := false
        nrtx := 0 }
      (client, client.tcpSendFinAck ether)
  else if payloadLength ether.buffer > 0 then
    let client := { client with
      appliFlags := { client.appliFlags with newData := true }
      remoteSeqNum := client.remoteSeqNum + (payloadLength ether.buffer).toUInt32 }
    (client, client.tcpSendAck ether)
  else client.checkForRetransmit ether

/-- State `TCP_STATE_LAST_ACK` after the acking test. -/
def lastAckSegment (client : TCPClient) (ether : EtherSia) : TCPClient × EtherSia :=
  if client.appliFlags.ackData then
    ({ client with
        state := .disconnected
        timedOut := false
        appliFlags := { AppliFlags.none with close := true } }, ether)
  else client.checkForRetransmit ether

/-- Whether the sequence number of a segment is tested against `_remoteSeqNum`:
it carries data or a FIN and is no answer to our SYN. -/
def testsSequence (client : TCPClient) (packet : Memory) : Bool :=
  !(client.state = .waitSynAck ∧ client.timedOut = false ∧
      hasFlag (flags packet) (TCP_FLAG_SYN ||| TCP_FLAG_ACK)) &&
    (payloadLength packet > 0 || hasFlag (flags packet) TCP_FLAG_FIN)

/-- Label `found`: a segment of this connection. -/
def foundSegment (client : TCPClient) (ether : EtherSia) : TCPClient × EtherSia :=
  if hasFlag (flags ether.buffer) TCP_FLAG_RST then
    ({ client with
        state := .disconnected
        timedOut := false
        appliFlags := { AppliFlags.none with abort := true } }, ether)
  else if client.testsSequence ether.buffer ∧
      sequenceNum ether.buffer ≠ client.remoteSeqNum then
    (client, client.tcpSendAck ether)
  else
    let client := client.ackTest ether.buffer
    match client.state with
    | .waitSynAck => client.waitSynAckSegment ether
    | .connected => client.connectedSegment ether
    | .lastAck => client.lastAckSegment ether
    | .disconnected => (client, client.tcpSendAck ether)

/-- The tests from `bufferContainsReceived()` on that decide where a packet goes. -/
def dispatchPacket (client : TCPClient) (ether : EtherSia) : TCPClient × EtherSia :=
  let packet := ether.buffer
  let dropped := { client with
    nrcvd := client.nrcvd + 1
    ndropped := client.ndropped + 1 }
  let counted := { client with nrcvd := client.nrcvd + 1 }
  if ether.bufferContainsReceived = false then client.checkForRetransmit ether
  else if destination packet ≠ ether.linkLocalAddress ∨
      source packet ≠ client.remoteAddress then
    dropped.checkForRetransmit ether
  else if protocol packet ≠ IP6_PROTO_TCP then dropped.checkForRetransmit ether
  else if sourcePort packet ≠ client.remotePort then dropped.checkForRetransmit ether
  else if destinationPort packet = client.localPort then counted.foundSegment ether
  else if hasFlag (flags packet) TCP_FLAG_SYN then dropped.checkForRetransmit ether
  else
    -- taken for an old packet
    (counted, counted.resetReply ether)

/-- The start of `havePacket`: the inactivity timer and the application flags. -/
def startCall (client : TCPClient) (clock : HavePacketClock) : TCPClient :=
  let client :=
    if client.appliFlags ≠ AppliFlags.none then
      { client with inactivity := clock.inactivityReset }
    else client
  { client with
    appliFlags := { AppliFlags.none with
      reset := hasElapsed clock.inactivityTest client.inactivity 600000 } }

/-- The periodic timer, which drives the retransmission timer. -/
def tickPeriodic (client : TCPClient) (clock : HavePacketClock) : TCPClient :=
  if hasElapsed clock.periodicTest client.periodic PERIODIC_TIME_OUT then
    let client := { client with periodic := clock.periodicReset }
    if client.unAckLen > 0 then { client with timer := client.timer - 1 } else client
  else client

/-- `havePacket` up to its label `drop`. -/
def poll (client : TCPClient) (clock : HavePacketClock) (ether : EtherSia) :
    TCPClient × EtherSia :=
  let client := client.startCall clock
  if client.state = .disconnected ∧ client.timedOut = false then (client, ether)
  else if client.timedOut then
    ({ client with state := .disconnected, timedOut := false }, ether)
  else (client.tickPeriodic clock).dispatchPacket ether

def havePacket (client : TCPClient) (clock : HavePacketClock) (ether : EtherSia) :
    Bool × TCPClient × EtherSia :=
  let (client, ether) := client.poll clock ether
  (client.appliFlags.newData, client, ether)

/-- `synacked()`. -/
def synacked (client : TCPClient) : Bool :=
  client.appliFlags.connected

/-- `closing()`. -/
def closing (client : TCPClient) : Bool :=
  client.appliFlags.close

end TCPClient

end EtherSiaStack
