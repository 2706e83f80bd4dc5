import EtherSiaStack.AutoConfiguration
import EtherSiaStack.ExposedPayload
import EtherSiaStack.SharedBuffer
import EtherSiaStack.ClientDelivery
import EtherSiaStack.Interoperation
import EtherSiaStack.NeighbourResolution
import EtherSiaStack.Acknowledgement
import EtherSiaStack.SequenceNumbers
import EtherSiaStack.DnsBounds
import EtherSiaStack.TFTPWrite
import EtherSiaStack.TFTPRead
import EtherSiaStack.HTTPServer
import EtherSiaStack.Responses
import EtherSiaStack.ResetStorm
import EtherSiaStack.ServerSockets
import EtherSiaStack.TimerExpiry
import EtherSiaStack.EarlierPackets
import EtherSiaStack.MessageReplies
import EtherSiaStack.ResetReplies
import EtherSiaStack.ReceivedPayload
import EtherSiaStack.OffLinkDiscovery
import EtherSiaStack.RoundTripEstimate
import EtherSiaStack.SegmentFlags
import EtherSiaStack.AddressText
import EtherSiaStack.AddressForms
import EtherSiaStack.AddressRejection
import EtherSiaStack.RetryLoops
import EtherSiaStack.LateAnswers
import EtherSiaStack.OptionBounds
import EtherSiaStack.RequestChecks
import EtherSiaStack.WildcardRoutes
import EtherSiaStack.RequestBody
import EtherSiaStack.RequestAccesses
import EtherSiaStack.RequestBounds
import EtherSiaStack.StrayAcks
import EtherSiaStack.TFTPRequests
import EtherSiaStack.SocketWrite
import EtherSiaStack.PacketRoom
import EtherSiaStack.Syslog
import EtherSiaStack.PayloadText
import EtherSiaStack.RemoteAddress
import EtherSiaStack.HostnameEncoding
import EtherSiaStack.RepeatedChecks
import EtherSiaStack.ChecksumLaws
import EtherSiaStack.TamperDetection
import EtherSiaStack.UDPChecksum
import EtherSiaStack.NameSkipping
import EtherSiaStack.FlashAddress
import EtherSiaStack.TransmitRing
import EtherSiaStack.ReceiveStream
import EtherSiaStack.MACText
import EtherSiaStack.MACRejection
import EtherSiaStack.ControllerBoard
import EtherSiaStack.MiniHTTPServer
import EtherSiaStack.StoredFiles
import EtherSiaStack.Startup
