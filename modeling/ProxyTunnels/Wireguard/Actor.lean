import ProxyTunnels.Error
import ProxyTunnels.Wireguard.Inner

/-! The calls on a tunnel's stack and the objects they return, and how sockets are polled.

Each call in progress and each live object is an actor. It stands at a point between two
locked sections or atomic operations; an actor that polled a socket and found it would
block is marked asleep until something wakes its waker.
-/

set_option autoImplicit false

namespace ProxyTunnels.Wireguard
open Machine

/-- `StackConfig`, as far as names are resolved with it. -/
structure StackConfig where
  hasIpv4 : Bool
  hasIpv6 : Bool
  deriving DecidableEq, Repr

inductive Polled (α : Type) where
  | pending
  | ready (value : α)
  | brokenPipe (message : String)
  | invalidInput (message : String)
  | invalidData (message : String)
  deriving DecidableEq, Repr

def Polled.isPending {α : Type} : Polled α → Bool
  | .pending => true
  | _ => false

section SocketPolls
variable {smoltcp : Smoltcp}

/-- `WgTcpStream::poll_read` into `room` free bytes. Nothing read is the end of the stream. -/
def pollRead (socket : smoltcp.Tcp) (room : Nat) : Polled (List UInt8) × smoltcp.Tcp :=
  if !smoltcp.mayRecv socket then (.ready [], socket)
  else
    match smoltcp.recvSlice socket room with
    | .ok ([], socket) => (.pending, socket)
    | .ok (bytes, socket) => (.ready bytes, socket)
    | .error _ => (.ready [], socket)

/-- `WgTcpStream::poll_write`, once the stream is known not to be shut down. -/
def pollWrite (socket : smoltcp.Tcp) (data : List UInt8) : Polled Nat × smoltcp.Tcp :=
  if !smoltcp.maySend socket then (.brokenPipe "the far side closed this tunnel connection", socket)
  else
    match smoltcp.sendSlice socket data with
    | some (0, socket) => (.pending, socket)
    | some (written, socket) => (.ready written, socket)
    | none => (.brokenPipe "the far side closed this tunnel connection", socket)

/-- `WgTcpStream::poll_flush`. -/
def pollFlush (socket : smoltcp.Tcp) : Polled Unit :=
  if smoltcp.sendQueue socket = 0 then .ready ()
  else if !smoltcp.maySend socket && smoltcp.state socket = .closed then
    .brokenPipe "the tunnel connection closed before everything was sent"
  else .pending

def pollConnect (socket : smoltcp.Tcp) : Polled Bool :=
  match smoltcp.state socket with
  | .synSent | .synReceived => .pending
  | .closed | .timeWait => .ready false
  | _ => .ready true

/-- The poll of `WgUdpSocket::send_to`. -/
def pollSendTo (stopped : Bool) (socket : smoltcp.Udp) (data : List UInt8) (remote : SocketAddr) :
    Polled Unit × smoltcp.Udp :=
  if stopped then (.brokenPipe "the tunnel has stopped", socket)
  else
    match smoltcp.udpSend socket data remote with
    | .ok socket => (.ready (), socket)
    | .error .bufferFull => (.pending, socket)
    | .error .unaddressable =>
        (.invalidInput "the tunnel has no address in that destination's family", socket)

/-- The poll of `WgUdpSocket::recv_from`. -/
def pollRecvFrom (stopped : Bool) (socket : smoltcp.Udp) (room : Nat) :
    Polled (List UInt8 × SocketAddr) × smoltcp.Udp :=
  if stopped then (.brokenPipe "the tunnel has stopped", socket)
  else
    match smoltcp.udpRecv socket room with
    | .ok (datagram, socket) => (.ready datagram, socket)
    | .error .exhausted => (.pending, socket)
    | .error .truncated => (.invalidData "the datagram did not fit in the supplied buffer", socket)

end SocketPolls

inductive Claim where
  | load
  | reclaim
  | update
  deriving DecidableEq, Repr

/-- `WgStack::connect`. The socket slot is held from `start` on. -/
inductive Connecting where
  | claim (point : Claim)
  | start
  | wait (handle : Handle) (asleep : Bool)
  | discard (handle : Handle) (aborts : Bool) (error : Option TunnelError)
  | release (error : Option TunnelError)
  deriving DecidableEq, Repr

/-- `bind_udp_sized`. The socket slot is held from `start` on. -/
inductive Binding where
  | check
  | claim (point : Claim)
  | start
  | discard (handle : Handle) (error : TunnelError)
  | release (error : TunnelError)
  deriving DecidableEq, Repr

/-- `WgStack::listen`. -/
inductive Listening where
  | explicit (port : UInt16)
  | search (first step : Nat)
  | bind (port : UInt16)
  | fill (port : UInt16) (left : Nat) (pool : List Handle)
  | drop (pool : List Handle) (error : TunnelError)
  deriving DecidableEq, Repr

/-- `WgTcpListener::accept`, from no call in progress through its loop. -/
inductive Accepting where
  | idle
  | polling (asleep : Bool)
  | taken (handle : Handle) (peer : Option SocketAddr)
  | claim (handle : Handle) (peer : Option SocketAddr) (point : Claim)
  | full (handle : Handle)
  | failed (handle : Handle) (error : TunnelError)
  deriving DecidableEq, Repr

/-- The loop of `WgStack::resolve` over `query`; `kinds` starts with the one being asked. -/
inductive Resolving (smoltcp : Smoltcp) where
  | next (kinds : List DnsQueryType)
  | acquire (kinds : List DnsQueryType)
  | start (kinds : List DnsQueryType)
  | wait (kinds : List DnsQueryType) (query : smoltcp.Query) (asleep : Bool)

/-- `wait_stopped`. A registered waiter remembers whether it has been notified. -/
inductive WaitStopped where
  | register
  | check (notified : Bool)
  | asleep
  deriving DecidableEq, Repr

inductive Actor (smoltcp : Smoltcp) where
  | connecting (remote : SocketAddr) (point : Connecting)
  | stream (peer : SocketAddr) (handle : Handle) (shutDown reading writing : Bool)
  | retiring (handle : Handle)
  | binding (port : UInt16) (packets bytes : Nat) (point : Binding)
  | udp (handle : Handle) (localPort : UInt16) (sending receiving : Bool)
  | udpRelease
  | listening (backlog : Nat) (point : Listening)
  | listener (port : UInt16) (pool : List Handle) (point : Accepting)
  | resolving (host : String) (lastError : Option TunnelError) (point : Resolving smoltcp)
  | resolved (addresses : List (List UInt8))
  | waitStopped (point : WaitStopped)
  | ended (error : Option TunnelError)

structure Shared (smoltcp : Smoltcp) where
  inner : Inner smoltcp
  slots : SocketSlots
  dnsPermits : Nat
  stopped : Bool
  config : StackConfig

inductive Poll where
  | connect
  | accept
  | read (room : Nat)
  | write (data : List UInt8)
  | flush
  | sendTo (data : List UInt8) (remote : SocketAddr)
  | recvFrom (room : Nat)
  | query
  deriving DecidableEq, Repr

/-- What an actor is made to do: take its next step (`fresh` is the place the socket set picks
if the step adds a socket), poll, shut down, run into its timeout, have its future dropped, or
be dropped itself. -/
inductive Input where
  | advance (fresh : Handle)
  | poll (poll : Poll)
  | shutdown
  | timeout
  | cancel (poll : Poll)
  | drop
  deriving DecidableEq, Repr

structure Effect (smoltcp : Smoltcp) where
  shared : Shared smoltcp
  actor : Actor smoltcp
  spawned : List (Actor smoltcp)

end ProxyTunnels.Wireguard
