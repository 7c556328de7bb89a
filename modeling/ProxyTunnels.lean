import ProxyTunnels.Machine.Run
import ProxyTunnels.Machine.History
import ProxyTunnels.Machine.Table
import ProxyTunnels.Error
import ProxyTunnels.Ssh.HostKey
import ProxyTunnels.Ssh.TrustOnFirstUse
import ProxyTunnels.Ssh.Continuity
import ProxyTunnels.Ssh.PinTiming
import ProxyTunnels.Machine.Conversation
import ProxyTunnels.Net.Address
import ProxyTunnels.Socks5.Front
import ProxyTunnels.Socks5.Grammar
import ProxyTunnels.Http3.Frame
import ProxyTunnels.Http3.FrameStream
import ProxyTunnels.Http3.Read
import ProxyTunnels.Http3.Unread
import ProxyTunnels.Http3.Truncation
import ProxyTunnels.Http3.Framing
import ProxyTunnels.Http3.Write
import ProxyTunnels.Http3.WriteOrder
import ProxyTunnels.Wireguard.Inner
import ProxyTunnels.Wireguard.Stack
import ProxyTunnels.Wireguard.Ledger
import ProxyTunnels.Wireguard.Conservation
import ProxyTunnels.Wireguard.Custody
import ProxyTunnels.Wireguard.Ownership
import ProxyTunnels.Wireguard.Stopping
import ProxyTunnels.Wireguard.Waiters
import ProxyTunnels.Wireguard.Mtu
import ProxyTunnels.Socks5.Transcript
import ProxyTunnels.Machine.Lock
import ProxyTunnels.Provider.Slot
import ProxyTunnels.Provider.Exclusion
import ProxyTunnels.Http3.Sessions
import ProxyTunnels.Http3.SessionSteps
import ProxyTunnels.Http3.SessionLimit
import ProxyTunnels.Http3.Shutdown
import ProxyTunnels.Registry.Entries
import ProxyTunnels.Registry.Lifecycle
import ProxyTunnels.Wireguard.Queries
import ProxyTunnels.Wireguard.Ports
import ProxyTunnels.Wireguard.ListenPorts
import ProxyTunnels.Http3.Addresses
import ProxyTunnels.Http3.Writers
import ProxyTunnels.Socks5.Admission
import ProxyTunnels.Wireguard.DialOn
import ProxyTunnels.Wireguard.Reclaim
import ProxyTunnels.Wireguard.Capacity
import ProxyTunnels.Wireguard.Claim
import ProxyTunnels.Wireguard.Resets
import ProxyTunnels.Ssh.Dial
import ProxyTunnels.Ssh.Mismatch
import ProxyTunnels.Http3.Packed
import ProxyTunnels.Http3.Room
import ProxyTunnels.Wireguard.Chain
import ProxyTunnels.Http3.Budget
import ProxyTunnels.Net.Authority
import ProxyTunnels.Net.IpLiteral
import ProxyTunnels.Wireguard.Phy
import ProxyTunnels.Http3.Authority
import ProxyTunnels.Net.Text
import ProxyTunnels.Wireguard.Spec
import ProxyTunnels.Wireguard.Keys
import ProxyTunnels.Wireguard.BringUp
import ProxyTunnels.Socks5.Observed
import ProxyTunnels.Wireguard.UdpSend
import ProxyTunnels.Http3.ReadAdapter
import ProxyTunnels.Wireguard.Linger
import ProxyTunnels.Net.IpText
import ProxyTunnels.Wireguard.Cidr
import ProxyTunnels.Net.OnesComplement
import ProxyTunnels.Wireguard.Probe
import ProxyTunnels.Wireguard.Rotation
import ProxyTunnels.Wire.Bits
import ProxyTunnels.Wire.LookupTree
import ProxyTunnels.Http3.Qpack.BitWindow
import ProxyTunnels.Http3.Qpack.HuffmanTable
import ProxyTunnels.Http3.Qpack.Huffman
import ProxyTunnels.Http3.Qpack.PrefixInt
import ProxyTunnels.Http3.Qpack.PrefixString
import ProxyTunnels.Http3.Qpack.StaticTable
import ProxyTunnels.Http3.Qpack.Block
import ProxyTunnels.Http3.Transmit.Encode
import ProxyTunnels.Http3.Transmit.WriteBuf
import ProxyTunnels.Http3.Transmit.Config
import ProxyTunnels.Http3.Transmit.Headers
import ProxyTunnels.Http3.Transmit.Request
import ProxyTunnels.Http3.Transmit.Response
import ProxyTunnels.Http3.Driver
import ProxyTunnels.Wireguard.Turns
