import ProxyTunnels.Wireguard.Actor

/-! What each actor does in one step. -/

set_option autoImplicit false

namespace ProxyTunnels.Wireguard
open Machine

section Steps
variable {smoltcp : Smoltcp}

def stoppedError : TunnelError := .engine "the tunnel has stopped"

def dialError (remote : SocketAddr) (detail : String) : TunnelError :=
  .dial remote.host remote.port detail

def connectErrorDetail : ConnectError → String
  | .unaddressable =>
      "the tunnel has no address in that destination's family, so it cannot reach it"
  | .invalidState => "the tunnel could not open a socket for that destination"

def resolveFailure (host detail : String) : TunnelError := .dial host 53 detail

def startQueryDetail : StartQueryError → String
  | .noFreeSlot => "the tunnel has too many DNS queries in flight"
  | .invalidName => "the name is not a valid host name"
  | .nameTooLong => "the name is too long for DNS"

variable (shared : Shared smoltcp)

def Shared.become (actor : Actor smoltcp) : Outcome (Effect smoltcp) := .next ⟨shared, actor, []⟩

def Shared.setInner (inner : Inner smoltcp) : Shared smoltcp := { shared with inner }

def Shared.releaseSocket : Shared smoltcp := { shared with slots := shared.slots.release }

/-- Where a step of `claim_socket` leads. -/
inductive Claimed where
  | goOn (point : Claim)
  | got
  | refused
  deriving DecidableEq, Repr

def Shared.claimSocket : Claim → Outcome (Shared smoltcp × Claimed)
  | .load => .next (shared, .goOn (if maxSockets ≤ shared.slots.opened then .reclaim else .update))
  | .reclaim =>
      (reclaimFinished true (shared.inner, shared.slots)).bind fun (inner, slots) =>
        .next ({ shared with inner, slots }, .goOn .update)
  | .update =>
      if shared.slots.opened < maxSockets then
        .next ({ shared with slots := { shared.slots with opened := shared.slots.opened + 1 } }, .got)
      else .next (shared, .refused)

/-- The full tunnel's error carries the stack's one wake-up signal. -/
def atCapacityError : TunnelError := .atCapacity maxSockets 0

def Shared.startConnect (remote : SocketAddr) (fresh : Handle) : Outcome (Effect smoltcp) :=
  let (port, inner) := (shared.inner.addTcpSocket fresh).nextEphemeralPort
  match inner.getTcp fresh with
  | none => .panicked
  | some socket =>
      match smoltcp.connect inner.iface socket remote port with
      | .ok socket =>
          (shared.setInner (inner.put fresh (.tcp socket))).become
            (.connecting remote (.wait fresh false))
      | .error error =>
          (shared.setInner inner).become
            (.connecting remote (.discard fresh false (some (dialError remote (connectErrorDetail error)))))

def Shared.stepConnecting (remote : SocketAddr) : Connecting → Input → Outcome (Effect smoltcp)
  | .claim point, .advance _ =>
      (shared.claimSocket point).bind fun (shared, claimed) =>
        match claimed with
        | .goOn point => shared.become (.connecting remote (.claim point))
        | .got => shared.become (.connecting remote .start)
        | .refused => shared.become (.ended (some atCapacityError))
  | .start, .advance fresh =>
      .guarded (shared.inner.sockets.Vacant fresh) (shared.startConnect remote fresh)
  | .wait handle _, .poll .connect =>
      match shared.inner.getTcp handle with
      | none => .panicked
      | some socket =>
          match pollConnect socket with
          | .ready true => shared.become (.stream remote handle false false false)
          | .ready false =>
              shared.become (.connecting remote (.discard handle false
                (some (dialError remote "the far side refused the connection"))))
          | _ => shared.become (.connecting remote (.wait handle true))
  | .wait handle _, .timeout =>
      shared.become (.connecting remote (.discard handle true
        (some (dialError remote "the tunnel did not open a connection in time"))))
  -- The future is dropped at its await: `PendingConnect` discards the socket, then the guard releases.
  | .wait handle _, .cancel .connect => shared.become (.connecting remote (.discard handle false none))
  | .discard handle aborts error, .advance _ =>
      (if aborts then shared.inner.abortDiscard handle else shared.inner.discard handle).bind fun inner =>
        (shared.setInner inner).become (.connecting remote (.release error))
  | .release error, .advance _ => shared.releaseSocket.become (.ended error)
  | _, _ => .blocked

def Shared.stepStream (peer : SocketAddr) (handle : Handle) (shutDown reading writing : Bool) :
    Input → Outcome (Effect smoltcp)
  | .poll (.read room) =>
      match shared.inner.getTcp handle with
      | none => .panicked
      | some socket =>
          let (polled, socket) := pollRead socket room
          (shared.setInner (shared.inner.put handle (.tcp socket))).become
            (.stream peer handle shutDown polled.isPending writing)
  | .poll (.write data) =>
      if shutDown then shared.become (.stream peer handle shutDown reading false)
      else
        match shared.inner.getTcp handle with
        | none => .panicked
        | some socket =>
            let (polled, socket) := pollWrite socket data
            (shared.setInner (shared.inner.put handle (.tcp socket))).become
              (.stream peer handle shutDown reading polled.isPending)
  | .poll .flush =>
      match shared.inner.getTcp handle with
      | none => .panicked
      | some socket => shared.become (.stream peer handle shutDown reading (pollFlush socket).isPending)
  | .shutdown =>
      if shutDown then shared.become (.stream peer handle shutDown reading false)
      else
        (shared.inner.updateTcp handle smoltcp.close).bind fun inner =>
          (shared.setInner inner).become (.stream peer handle true reading false)
  | .cancel (.read _) => shared.become (.stream peer handle shutDown false writing)
  | .cancel (.write _) | .cancel .flush => shared.become (.stream peer handle shutDown reading false)
  -- `close_half`, then `retire` in a locked section of its own.
  | .drop =>
      if shutDown then shared.become (.retiring handle)
      else
        (shared.inner.updateTcp handle smoltcp.close).bind fun inner =>
          (shared.setInner inner).become (.retiring handle)
  | _ => .blocked

def Shared.stepRetiring (handle : Handle) : Input → Outcome (Effect smoltcp)
  | .advance _ => (shared.setInner (shared.inner.retire handle true)).become (.ended none)
  | _ => .blocked

/-- The locked section of `WgUdpSocket::bind`. -/
def Shared.startBind (port : UInt16) (packets bytes : Nat) (fresh : Handle) : Outcome (Effect smoltcp) :=
  let inner := shared.inner.addUdpSocketSized fresh packets bytes
  let (localPort, inner) := if port = 0 then inner.nextEphemeralPort else (port, inner)
  match inner.getUdp fresh with
  | none => .panicked
  | some socket =>
      match smoltcp.udpBind socket localPort with
      | .ok socket =>
          (shared.setInner (inner.put fresh (.udp socket))).become (.udp fresh localPort false false)
      | .error error =>
          (shared.setInner inner).become (.binding port packets bytes (.discard fresh
            (.engine s!"the tunnel could not bind UDP port {localPort}: {error}")))

def Shared.stepBinding (port : UInt16) (packets bytes : Nat) : Binding → Input → Outcome (Effect smoltcp)
  | .check, .advance _ =>
      if shared.stopped then shared.become (.ended (some stoppedError))
      else shared.become (.binding port packets bytes (.claim .load))
  | .claim point, .advance _ =>
      (shared.claimSocket point).bind fun (shared, claimed) =>
        match claimed with
        | .goOn point => shared.become (.binding port packets bytes (.claim point))
        | .got => shared.become (.binding port packets bytes .start)
        | .refused => shared.become (.ended (some atCapacityError))
  | .start, .advance fresh =>
      .guarded (shared.inner.sockets.Vacant fresh) (shared.startBind port packets bytes fresh)
  | .discard handle error, .advance _ =>
      (shared.inner.discard handle).bind fun inner =>
        (shared.setInner inner).become (.binding port packets bytes (.release error))
  | .release error, .advance _ => shared.releaseSocket.become (.ended (some error))
  | _, _ => .blocked

/-- The polls are those of the task that holds the direction's lock. -/
def Shared.stepUdp (handle : Handle) (localPort : UInt16) (sending receiving : Bool) :
    Input → Outcome (Effect smoltcp)
  | .poll (.sendTo data remote) =>
      match shared.inner.getUdp handle with
      | none => .panicked
      | some socket =>
          let (polled, socket) := pollSendTo shared.stopped socket data remote
          (shared.setInner (shared.inner.put handle (.udp socket))).become
            (.udp handle localPort polled.isPending receiving)
  | .poll (.recvFrom room) =>
      match shared.inner.getUdp handle with
      | none => .panicked
      | some socket =>
          let (polled, socket) := pollRecvFrom shared.stopped socket room
          (shared.setInner (shared.inner.put handle (.udp socket))).become
            (.udp handle localPort sending polled.isPending)
  | .cancel (.sendTo _ _) => shared.become (.udp handle localPort false receiving)
  | .cancel (.recvFrom _) => shared.become (.udp handle localPort sending false)
  | .drop =>
      match shared.inner.getUdp handle with
      | none => .panicked
      | some socket =>
          ((shared.inner.put handle (.udp (smoltcp.udpClose socket))).discard handle).bind fun inner =>
            (shared.setInner inner).become .udpRelease
  | _ => .blocked

def Shared.stepUdpRelease : Input → Outcome (Effect smoltcp)
  | .advance _ => shared.releaseSocket.become (.ended none)
  | _ => .blocked

def ephemeralSpan : Nat := ephemeralLast.toNat - ephemeralFirst.toNat + 1

/-- The port `free_listen_port` looks at in a given step of its search. -/
def searchedPort (first step : Nat) : UInt16 :=
  ephemeralFirst + UInt16.ofNat ((first + step) % ephemeralSpan)

theorem ephemeralSpan_eq : ephemeralSpan = 16384 := rfl

theorem ephemeralFirst_toNat : ephemeralFirst.toNat = 49152 := rfl

theorem searchedPort_toNat (first step : Nat) :
    (searchedPort first step).toNat = ephemeralFirst.toNat + (first + step) % ephemeralSpan := by
  have small : (first + step) % ephemeralSpan < 16384 := Nat.mod_lt _ (by decide)
  rw [searchedPort, UInt16.toNat_add, UInt16.toNat_ofNat', ephemeralFirst_toNat]
  omega

def listenError (port : UInt16) (error : String) : TunnelError :=
  .engine s!"the tunnel could not listen on port {port}: {error}"

def Shared.stepListening (backlog : Nat) : Listening → Input → Outcome (Effect smoltcp)
  | .explicit port, .advance _ =>
      if shared.inner.listeningOn port then
        shared.become (.ended (some (.engine s!"the tunnel already listens on port {port}")))
      else shared.become (.listening backlog (.bind port))
  | .search first step, .advance _ =>
      if ephemeralSpan ≤ step then
        shared.become (.ended (some (.engine "the tunnel has no free port left to listen on")))
      else if shared.inner.listeningOn (searchedPort first step) then
        shared.become (.listening backlog (.search first (step + 1)))
      else shared.become (.listening backlog (.bind (searchedPort first step)))
  | .bind port, .advance _ =>
      if shared.stopped then shared.become (.ended (some stoppedError))
      else shared.become (.listening backlog (.fill port (max backlog 1) []))
  | .fill port left pool, .advance fresh =>
      match left with
      | 0 => shared.become (.listener port pool .idle)
      | left + 1 =>
          .guarded (shared.inner.sockets.Vacant fresh)
            ((shared.inner.listenOne port fresh).bind fun (inner, failure) =>
              match failure with
              | none => (shared.setInner inner).become (.listening backlog (.fill port left (pool ++ [fresh])))
              | some error =>
                  (shared.setInner inner).become (.listening backlog (.drop pool (listenError port error))))
  | .drop pool error, .advance _ =>
      (shared.inner.abortDiscardAll pool).bind fun inner =>
        (shared.setInner inner).become (.ended (some error))
  | _, _ => .blocked

def unspecifiedPeer : SocketAddr := ⟨[0, 0, 0, 0], 0⟩

/-- The locked section of `accept`'s poll. -/
def Shared.pollAccept (port : UInt16) (pool : List Handle) : Outcome (Effect smoltcp) :=
  if shared.stopped then shared.become (.listener port pool .idle)
  else
    (scanPool port pool 0 shared.inner).bind fun (found, inner) =>
      match found with
      | none => (shared.setInner inner).become (.listener port pool (.polling true))
      | some (index, peer) =>
          match pool[index]? with
          | none => .panicked
          | some handle =>
              (shared.setInner inner).become (.listener port (swapRemove pool index) (.taken handle peer))

def Shared.stepListener (port : UInt16) (pool : List Handle) : Accepting → Input → Outcome (Effect smoltcp)
  | .idle, .advance _ => shared.become (.listener port pool (.polling false))
  | .idle, .drop =>
      (shared.inner.abortDiscardAll pool).bind fun inner => (shared.setInner inner).become (.ended none)
  | .polling _, .poll .accept => shared.pollAccept port pool
  | .polling _, .cancel .accept => shared.become (.listener port pool .idle)
  | .taken handle peer, .advance fresh =>
      .guarded (shared.inner.sockets.Vacant fresh)
        ((shared.inner.listenOne port fresh).bind fun (inner, failure) =>
          match failure with
          | none =>
              (shared.setInner inner).become (.listener port (pool ++ [fresh]) (.claim handle peer .load))
          | some error =>
              (shared.setInner inner).become (.listener port pool (.failed handle (listenError port error))))
  | .claim handle peer point, .advance _ =>
      (shared.claimSocket point).bind fun (shared, claimed) =>
        match claimed with
        | .goOn point => shared.become (.listener port pool (.claim handle peer point))
        | .got =>
            .next ⟨shared, .listener port pool .idle,
              [.stream (peer.getD unspecifiedPeer) handle false false false]⟩
        | .refused => shared.become (.listener port pool (.full handle))
  -- The refused connection is reset, and the loop goes on.
  | .full handle, .advance _ =>
      (shared.inner.updateTcp handle smoltcp.abort).bind fun inner =>
        (shared.setInner (inner.retire handle false)).become (.listener port pool (.polling false))
  | .failed handle _, .advance _ =>
      (shared.inner.abortDiscard handle).bind fun inner =>
        (shared.setInner inner).become (.listener port pool .idle)
  | _, _ => .blocked

def resolveError (host : String) (lastError : Option TunnelError) : TunnelError :=
  lastError.getD (resolveFailure host "the tunnel's DNS server returned no address for this name")

def Shared.queryEnded (host : String) (lastError : Option TunnelError) (kinds : List DnsQueryType) :
    Outcome (Effect smoltcp) :=
  { shared with dnsPermits := shared.dnsPermits + 1 }.become (.resolving host lastError (.next kinds.tail))

def Shared.startQuery (host : String) (lastError : Option TunnelError) (kinds : List DnsQueryType)
    (kind : DnsQueryType) : Outcome (Effect smoltcp) :=
  match shared.inner.dns with
  | none => .panicked
  | some handle =>
      match shared.inner.getDns handle with
      | none => .panicked
      | some socket =>
          match smoltcp.startQuery shared.inner.iface socket host kind with
          | .ok (query, socket) =>
              (shared.setInner (shared.inner.put handle (.dns socket))).become
                (.resolving host lastError (.wait kinds query false))
          | .error error => shared.queryEnded host (some (resolveFailure host (startQueryDetail error))) kinds

def Shared.pollQuery (host : String) (lastError : Option TunnelError) (kinds : List DnsQueryType)
    (query : smoltcp.Query) : Outcome (Effect smoltcp) :=
  match shared.inner.dns with
  | none => .panicked
  | some handle =>
      match shared.inner.getDns handle with
      | none => .panicked
      | some socket =>
          let (result, socket) := smoltcp.getQueryResult socket query
          let shared := shared.setInner (shared.inner.put handle (.dns socket))
          match result with
          | .pending => shared.become (.resolving host lastError (.wait kinds query true))
          | .failed =>
              shared.queryEnded host
                (some (resolveFailure host "the tunnel's DNS server does not know this name")) kinds
          | .ready [] => shared.queryEnded host lastError kinds
          | .ready addresses =>
              { shared with dnsPermits := shared.dnsPermits + 1 }.become (.resolved addresses)

/-- `QueryGuard`'s drop, and the permit's. -/
def Shared.cancelQuery (query : smoltcp.Query) (error : Option TunnelError) : Outcome (Effect smoltcp) :=
  match shared.inner.dns with
  | none => { shared with dnsPermits := shared.dnsPermits + 1 }.become (.ended error)
  | some handle =>
      match shared.inner.getDns handle with
      | none => .panicked
      | some socket =>
          let inner := shared.inner.put handle (.dns (smoltcp.cancelQuery socket query))
          { shared with inner, dnsPermits := shared.dnsPermits + 1 }.become (.ended error)

def Shared.stepResolving (host : String) (lastError : Option TunnelError) :
    Resolving smoltcp → Input → Outcome (Effect smoltcp)
  | .next [], .advance _ | .next _, .timeout => shared.become (.ended (some (resolveError host lastError)))
  | .next kinds, .advance _ => shared.become (.resolving host lastError (.acquire kinds))
  | .acquire kinds, .advance _ =>
      .guarded (0 < shared.dnsPermits)
        ({ shared with dnsPermits := shared.dnsPermits - 1 }.become (.resolving host lastError (.start kinds)))
  | .acquire _, .timeout =>
      shared.become (.ended (some (resolveFailure host "timed out waiting for a tunnel DNS slot")))
  | .acquire _, .cancel .query => shared.become (.ended none)
  | .start (kind :: kinds), .advance _ => shared.startQuery host lastError (kind :: kinds) kind
  | .wait kinds query _, .poll .query => shared.pollQuery host lastError kinds query
  | .wait _ query _, .timeout =>
      shared.cancelQuery query
        (some (resolveFailure host "the tunnel's DNS server did not answer in time"))
  | .wait _ query _, .cancel .query => shared.cancelQuery query none
  | _, _ => .blocked

def Shared.stepWaitStopped : WaitStopped → Input → Outcome (Effect smoltcp)
  | .register, .advance _ => shared.become (.waitStopped (.check false))
  | .check notified, .advance _ =>
      if shared.stopped then shared.become (.ended none)
      else if notified then shared.become (.waitStopped .register)
      else shared.become (.waitStopped .asleep)
  | _, _ => .blocked

def Shared.stepActor : Actor smoltcp → Input → Outcome (Effect smoltcp)
  | .connecting remote point, input => shared.stepConnecting remote point input
  | .stream peer handle shutDown reading writing, input =>
      shared.stepStream peer handle shutDown reading writing input
  | .retiring handle, input => shared.stepRetiring handle input
  | .binding port packets bytes point, input => shared.stepBinding port packets bytes point input
  | .udp handle localPort sending receiving, input => shared.stepUdp handle localPort sending receiving input
  | .udpRelease, input => shared.stepUdpRelease input
  | .listening backlog point, input => shared.stepListening backlog point input
  | .listener port pool point, input => shared.stepListener port pool point input
  | .resolving host lastError point, input => shared.stepResolving host lastError point input
  | .waitStopped point, input => shared.stepWaitStopped point input
  | .resolved _, _ | .ended _, _ => .blocked

end Steps

end ProxyTunnels.Wireguard
