import ProxyTunnels.Net.Address

/-! What a tunnel's stack uses of smoltcp.

smoltcp is a library the stack is written against, so its sockets are a parameter: a
type for each kind of socket and the operations the stack calls on it. `Documented`
lists what its documentation promises about them and results about stopping need;
`Smoltcp.reference` is a small implementation that keeps these promises.
-/

set_option autoImplicit false

namespace ProxyTunnels.Wireguard

/-- `SocketHandle`: an index into the socket set. -/
abbrev Handle := Nat

inductive TcpState where
  | closed
  | listen
  | synSent
  | synReceived
  | established
  | finWait1
  | finWait2
  | closeWait
  | closing
  | lastAck
  | timeWait
  deriving DecidableEq, Repr

structure SocketAddr where
  octets : List UInt8
  port : UInt16
  deriving DecidableEq, Repr

def SocketAddr.host (address : SocketAddr) : String :=
  if address.octets.length = 4 then Net.ipv4Text address.octets else Net.ipv6Text address.octets

inductive ConnectError where
  | unaddressable
  | invalidState
  deriving DecidableEq, Repr

inductive RecvError where
  | finished
  | invalidState
  deriving DecidableEq, Repr

inductive UdpSendError where
  | bufferFull
  | unaddressable
  deriving DecidableEq, Repr

inductive UdpRecvError where
  | exhausted
  | truncated
  deriving DecidableEq, Repr

inductive StartQueryError where
  | noFreeSlot
  | invalidName
  | nameTooLong
  deriving DecidableEq, Repr

inductive QueryResult where
  | pending
  | failed
  | ready (addresses : List (List UInt8))
  deriving DecidableEq, Repr

/-- `DnsQueryType`, as far as the stack asks. -/
inductive DnsQueryType where
  | a
  | aaaa
  deriving DecidableEq, Repr

/-- The sockets and the calls the stack makes on them. `listen` and `bind` report their
error as the text its debug format has. -/
structure Smoltcp where
  Iface : Type
  Tcp : Type
  Udp : Type
  Dns : Type
  Query : Type
  tcpNew : Nat → Tcp
  state : Tcp → TcpState
  mayRecv : Tcp → Bool
  maySend : Tcp → Bool
  recvQueue : Tcp → Nat
  sendQueue : Tcp → Nat
  listenPort : Tcp → UInt16
  remoteEndpoint : Tcp → Option SocketAddr
  connect : Iface → Tcp → SocketAddr → UInt16 → Except ConnectError Tcp
  listen : Tcp → UInt16 → Except String Tcp
  close : Tcp → Tcp
  abort : Tcp → Tcp
  recvSlice : Tcp → Nat → Except RecvError (List UInt8 × Tcp)
  sendSlice : Tcp → List UInt8 → Option (Nat × Tcp)
  udpNew : Nat → Nat → Udp
  udpBind : Udp → UInt16 → Except String Udp
  udpSend : Udp → List UInt8 → SocketAddr → Except UdpSendError Udp
  udpRecv : Udp → Nat → Except UdpRecvError ((List UInt8 × SocketAddr) × Udp)
  udpClose : Udp → Udp
  dnsNew : Nat → Dns
  startQuery : Iface → Dns → String → DnsQueryType → Except StartQueryError (Query × Dns)
  getQueryResult : Dns → Query → QueryResult × Dns
  cancelQuery : Dns → Query → Dns

/-- Promises of smoltcp's documentation. -/
structure Documented (smoltcp : Smoltcp) : Prop where
  abort_closed : ∀ socket, smoltcp.state (smoltcp.abort socket) = .closed
  close_closed : ∀ socket, smoltcp.state socket = .closed → smoltcp.state (smoltcp.close socket) = .closed
  connect_synSent : ∀ iface socket remote port next,
    smoltcp.connect iface socket remote port = .ok next → smoltcp.state next = .synSent
  listen_new : ∀ bytes port, port ≠ 0 → ∃ next, smoltcp.listen (smoltcp.tcpNew bytes) port = .ok next
  /-- A closed socket takes no more data. -/
  closed_maySend : ∀ socket, smoltcp.state socket = .closed → smoltcp.maySend socket = false
  /-- What a closed socket had received can still be read. -/
  closed_mayRecv : ∀ socket, smoltcp.state socket = .closed →
    (smoltcp.mayRecv socket = true ↔ 0 < smoltcp.recvQueue socket)
  /-- Reading takes as many bytes as fit, and leaves the connection's state alone. -/
  recvSlice_takes : ∀ socket room, smoltcp.mayRecv socket = true → ∃ bytes next,
    smoltcp.recvSlice socket room = .ok (bytes, next) ∧
      bytes.length = min room (smoltcp.recvQueue socket) ∧ smoltcp.state next = smoltcp.state socket

structure ReferenceTcp where
  state : TcpState
  unread : List UInt8
  unsent : List UInt8
  port : UInt16
  remote : Option SocketAddr
  deriving DecidableEq, Repr

def ReferenceTcp.mayRecv (socket : ReferenceTcp) : Bool :=
  socket.state ∈ [.established, .finWait1, .finWait2] || !socket.unread.isEmpty

def ReferenceTcp.maySend (socket : ReferenceTcp) : Bool := socket.state ∈ [.established, .closeWait]

/-- An implementation without buffers' limits, with an interface that reaches everything
and a resolver that keeps its queries pending. -/
def Smoltcp.reference : Smoltcp where
  Iface := Unit
  Tcp := ReferenceTcp
  Udp := List (List UInt8 × SocketAddr)
  Dns := List (String × DnsQueryType)
  Query := Nat
  tcpNew _ := ⟨.closed, [], [], 0, none⟩
  state := ReferenceTcp.state
  mayRecv := ReferenceTcp.mayRecv
  maySend := ReferenceTcp.maySend
  recvQueue socket := socket.unread.length
  sendQueue socket := socket.unsent.length
  listenPort := ReferenceTcp.port
  remoteEndpoint := ReferenceTcp.remote
  connect _ socket remote port :=
    if socket.state = .closed then .ok ⟨.synSent, [], [], port, some remote⟩ else .error .invalidState
  listen socket port :=
    if port = 0 then .error "Unaddressable"
    else if socket.state = .closed then .ok ⟨.listen, [], [], port, none⟩
    else .error "InvalidState"
  close socket := if socket.state = .established then { socket with state := .finWait1 } else
    if socket.state = .closeWait then { socket with state := .lastAck } else
    if socket.state ∈ [.listen, .synSent] then { socket with state := .closed } else socket
  abort socket := { socket with state := .closed }
  recvSlice socket room :=
    if socket.mayRecv then .ok (socket.unread.take room, { socket with unread := socket.unread.drop room })
    else .error .finished
  sendSlice socket data :=
    if socket.maySend then some (data.length, { socket with unsent := socket.unsent ++ data }) else none
  udpNew _ _ := []
  udpBind socket _ := .ok socket
  udpSend socket _ _ := .ok socket
  udpRecv socket _ :=
    match socket with
    | [] => .error .exhausted
    | datagram :: rest => .ok (datagram, rest)
  udpClose _ := []
  dnsNew _ := []
  startQuery _ socket host kind := .ok (socket.length, socket ++ [(host, kind)])
  getQueryResult socket _ := (.pending, socket)
  cancelQuery socket _ := socket

theorem reference_documented : Documented .reference where
  abort_closed _ := rfl
  close_closed socket closed := by
    change ReferenceTcp.state socket = _ at closed
    simp [Smoltcp.reference, closed]
  connect_synSent iface socket remote port next connected := by
    simp only [Smoltcp.reference] at connected
    split at connected
    · cases connected
      rfl
    · cases connected
  listen_new bytes port nonzero := by
    refine ⟨⟨.listen, [], [], port, none⟩, ?_⟩
    simp [Smoltcp.reference, nonzero]
  closed_maySend socket closed := by
    change ReferenceTcp.state socket = _ at closed
    simp [Smoltcp.reference, ReferenceTcp.maySend, closed]
  closed_mayRecv socket closed := by
    change ReferenceTcp.state socket = _ at closed
    simp [Smoltcp.reference, ReferenceTcp.mayRecv, closed, List.length_pos_iff]
  recvSlice_takes socket room ready := by
    change ReferenceTcp.mayRecv socket = true at ready
    refine ⟨socket.unread.take room, { socket with unread := socket.unread.drop room }, ?_, ?_, rfl⟩
    · simp [Smoltcp.reference, ready]
    · exact List.length_take

end ProxyTunnels.Wireguard
