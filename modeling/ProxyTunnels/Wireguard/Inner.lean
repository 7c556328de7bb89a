import ProxyTunnels.Machine.Run
import ProxyTunnels.Machine.Table
import ProxyTunnels.Wireguard.Smoltcp

/-! The state behind the stack's lock, and what one locked section does with it.

Using a handle whose place is free, or taken by a socket of another kind, panics, as
`SocketSet::get_mut` and `SocketSet::remove` do.
-/

set_option autoImplicit false

namespace ProxyTunnels.Wireguard
open Machine

def maxSockets : Nat := 256

/-- `EPHEMERAL_FIRST` and `EPHEMERAL_LAST`. -/
def ephemeralFirst : UInt16 := 49152
def ephemeralLast : UInt16 := 65535

/-- `LINGER`, in microseconds. -/
def linger : Nat := 10 * 1000 * 1000

inductive Kind where
  | tcp
  | udp
  | dns
  deriving DecidableEq, Repr

inductive Socket (smoltcp : Smoltcp) where
  | tcp (socket : smoltcp.Tcp)
  | udp (socket : smoltcp.Udp)
  | dns (socket : smoltcp.Dns)

variable {smoltcp : Smoltcp}

def Socket.kind : Socket smoltcp → Kind
  | .tcp _ => .tcp
  | .udp _ => .udp
  | .dns _ => .dns

structure Closing where
  handle : Handle
  deadline : Nat
  counted : Bool
  deriving DecidableEq, Repr

/-- `SocketSlots`: the number of claimed slots. `underflowed` remembers whether a release
ever found none, where the machine's subtraction wraps. -/
structure SocketSlots where
  opened : Nat
  underflowed : Bool
  deriving DecidableEq, Repr

def SocketSlots.release (slots : SocketSlots) : SocketSlots :=
  if slots.opened = 0 then ⟨2 ^ 64 - 1, true⟩ else { slots with opened := slots.opened - 1 }

/-- `StackInner`. The clock counts microseconds since the stack started. -/
structure Inner (smoltcp : Smoltcp) where
  iface : smoltcp.Iface
  sockets : Slab (Socket smoltcp)
  dns : Option Handle
  now : Nat
  nextPort : UInt16
  closing : List Closing
  tcpBufferBytes : Nat

section Access
variable (inner : Inner smoltcp) (handle : Handle)

def Inner.kindAt : Option Kind := (inner.sockets.get handle).map Socket.kind

def Inner.getTcp : Option smoltcp.Tcp :=
  match inner.sockets.get handle with
  | some (.tcp socket) => some socket
  | _ => none

def Inner.getUdp : Option smoltcp.Udp :=
  match inner.sockets.get handle with
  | some (.udp socket) => some socket
  | _ => none

def Inner.getDns : Option smoltcp.Dns :=
  match inner.sockets.get handle with
  | some (.dns socket) => some socket
  | _ => none

def Inner.put (socket : Socket smoltcp) : Inner smoltcp :=
  { inner with sockets := inner.sockets.replace handle socket }

/-- `SocketSet::add`, at the place the set picks. -/
def Inner.add (socket : Socket smoltcp) : Inner smoltcp :=
  { inner with sockets := inner.sockets.insert handle socket }

def Inner.addTcpSocket : Inner smoltcp := inner.add handle (.tcp (smoltcp.tcpNew inner.tcpBufferBytes))

def Inner.addUdpSocketSized (packets bytes : Nat) : Inner smoltcp :=
  inner.add handle (.udp (smoltcp.udpNew packets bytes))

def Inner.retire (counted : Bool) : Inner smoltcp :=
  { inner with closing := inner.closing ++ [⟨handle, inner.now + linger, counted⟩] }

def Inner.discard : Outcome (Inner smoltcp) :=
  match inner.sockets.get handle with
  | none => .panicked
  | some _ => .next { inner with sockets := inner.sockets.remove handle }

def Inner.updateTcp (change : smoltcp.Tcp → smoltcp.Tcp) : Outcome (Inner smoltcp) :=
  match inner.getTcp handle with
  | none => .panicked
  | some socket => .next (inner.put handle (.tcp (change socket)))

/-- `abort` and `discard` in one locked section. -/
def Inner.abortDiscard : Outcome (Inner smoltcp) :=
  (inner.updateTcp handle smoltcp.abort).bind fun inner => inner.discard handle

end Access

/-- `next_ephemeral_port`: the port handed out, and the state after it. -/
def Inner.nextEphemeralPort (inner : Inner smoltcp) : UInt16 × Inner smoltcp :=
  (inner.nextPort,
    { inner with nextPort := if inner.nextPort = ephemeralLast then ephemeralFirst else inner.nextPort + 1 })

def Inner.abortDiscardAll (inner : Inner smoltcp) : List Handle → Outcome (Inner smoltcp)
  | [] => .next inner
  | handle :: rest => (inner.abortDiscard handle).bind fun inner => inner.abortDiscardAll rest

def finishedClosing (smoltcp : Smoltcp) (socket : smoltcp.Tcp) (underPressure : Bool) : Bool :=
  smoltcp.state socket = .closed || (underPressure && smoltcp.state socket = .timeWait)

/-- The loop of `reclaim_finished`: `rounds` is the number of entries not looked at yet. -/
def reclaimLoop (now : Nat) (underPressure : Bool) :
    Nat → Nat → Inner smoltcp × SocketSlots → Outcome (Inner smoltcp × SocketSlots)
  | 0, _, state => .next state
  | rounds + 1, index, (inner, slots) =>
      match inner.closing[index]? with
      | none => .next (inner, slots)
      | some entry =>
          match inner.getTcp entry.handle with
          | none => .panicked
          | some socket =>
              let finished := finishedClosing smoltcp socket underPressure
              if !finished && now < entry.deadline then
                reclaimLoop now underPressure rounds (index + 1) (inner, slots)
              else
                (if finished then inner.discard entry.handle
                  else inner.abortDiscard entry.handle).bind fun inner =>
                  reclaimLoop now underPressure rounds index
                    ({ inner with closing := swapRemove inner.closing index },
                      if entry.counted then slots.release else slots)

def reclaimFinished (underPressure : Bool) (state : Inner smoltcp × SocketSlots) :
    Outcome (Inner smoltcp × SocketSlots) :=
  reclaimLoop state.1.now underPressure state.1.closing.length 0 state

/-- `listening_on`: whether some socket of the set listens on `port`. -/
def Inner.listeningOn (inner : Inner smoltcp) (port : UInt16) : Bool :=
  inner.sockets.values.any fun socket =>
    match socket with
    | .tcp socket => smoltcp.state socket = .listen && smoltcp.listenPort socket = port
    | _ => false

/-- `listen_one`: a fresh listening socket, or the error smoltcp reported. -/
def Inner.listenOne (inner : Inner smoltcp) (port : UInt16) (fresh : Handle) :
    Outcome (Inner smoltcp × Option String) :=
  let inner := inner.addTcpSocket fresh
  match inner.getTcp fresh with
  | none => .panicked
  | some socket =>
      match smoltcp.listen socket port with
      | .ok socket => .next (inner.put fresh (.tcp socket), none)
      | .error error => (inner.discard fresh).bind fun inner => .next (inner, some error)

/-- The scan of `accept` over the listening pool: the first connection that is ready, with its
peer. Sockets before it that were reset are put back to work. -/
def scanPool (port : UInt16) :
    List Handle → Nat → Inner smoltcp → Outcome (Option (Nat × Option SocketAddr) × Inner smoltcp)
  | [], _, inner => .next (none, inner)
  | handle :: rest, index, inner =>
      match inner.getTcp handle with
      | none => .panicked
      | some socket =>
          if smoltcp.maySend socket || smoltcp.mayRecv socket then
            .next (some (index, smoltcp.remoteEndpoint socket), inner)
          else if smoltcp.state socket = .closed then
            match smoltcp.listen socket port with
            | .ok socket => scanPool port rest (index + 1) (inner.put handle (.tcp socket))
            | .error _ => scanPool port rest (index + 1) inner
          else scanPool port rest (index + 1) inner

/-- What `Interface::poll` may do: change sockets, never their number or kinds. -/
structure PollEffect (smoltcp : Smoltcp) where
  iface : smoltcp.Iface → smoltcp.Iface
  tcp : Handle → smoltcp.Tcp → smoltcp.Tcp
  udp : Handle → smoltcp.Udp → smoltcp.Udp
  dns : Handle → smoltcp.Dns → smoltcp.Dns

def PollEffect.socket (effect : PollEffect smoltcp) (handle : Handle) : Socket smoltcp → Socket smoltcp
  | .tcp socket => .tcp (effect.tcp handle socket)
  | .udp socket => .udp (effect.udp handle socket)
  | .dns socket => .dns (effect.dns handle socket)

def Inner.interfacePoll (inner : Inner smoltcp) (effect : PollEffect smoltcp) : Inner smoltcp :=
  { inner with
    iface := effect.iface inner.iface
    sockets := inner.sockets.mapIdx effect.socket }

/-- What `stop` does to a socket. -/
def Socket.shut (_ : Handle) : Socket smoltcp → Socket smoltcp
  | .tcp socket => .tcp (smoltcp.abort socket)
  | .udp socket => .udp (smoltcp.udpClose socket)
  | .dns socket => .dns socket

def Inner.shutAll (inner : Inner smoltcp) : Inner smoltcp :=
  { inner with sockets := inner.sockets.mapIdx Socket.shut }

end ProxyTunnels.Wireguard
