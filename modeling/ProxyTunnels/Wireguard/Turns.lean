import ProxyTunnels.Wireguard.Holdings

/-! What a step of an actor can be.

`Turns` has one rule for each way a step can go, with what the step found and what it leaves
behind. A rule may allow more than the source does where nothing depends on the difference. That
every step is one of them, and that none panics for an actor whose holdings are in order, is shown
here once; what the steps preserve is then shown by going through the rules.
-/

set_option autoImplicit false

namespace ProxyTunnels.Wireguard
open Machine

section Rules
variable {smoltcp : Smoltcp}

def Claimed.dial (remote : SocketAddr) : Claimed → Actor smoltcp
  | .goOn point => .connecting remote (.claim point)
  | .got => .connecting remote .start
  | .refused => .ended (some atCapacityError)

def Claimed.bindUdp (port : UInt16) (packets bytes : Nat) : Claimed → Actor smoltcp
  | .goOn point => .binding port packets bytes (.claim point)
  | .got => .binding port packets bytes .start
  | .refused => .ended (some atCapacityError)

def Claimed.accept (port : UInt16) (pool : List Handle) (handle : Handle) (peer : Option SocketAddr) :
    Claimed → Actor smoltcp
  | .goOn point => .listener port pool (.claim handle peer point)
  | .got => .listener port pool .idle
  | .refused => .listener port pool (.full handle)

/-- The stream that `accept` returns. -/
def Claimed.accepted (handle : Handle) (peer : Option SocketAddr) : Claimed → List (Actor smoltcp)
  | .got => [.stream (peer.getD unspecifiedPeer) handle false false false]
  | _ => []

/-- The steps that leave everything but the actor as it is. -/
inductive Rests (shared : Shared smoltcp) : Actor smoltcp → Input → Actor smoltcp → Prop where
  | connected {remote : SocketAddr} {handle : Handle} {asleep : Bool} {socket : smoltcp.Tcp} :
      shared.inner.getTcp handle = some socket → pollConnect socket = .ready true →
      Rests shared (.connecting remote (.wait handle asleep)) (.poll .connect)
        (.stream remote handle false false false)
  | refused {remote : SocketAddr} {handle : Handle} {asleep : Bool} {socket : smoltcp.Tcp} :
      shared.inner.getTcp handle = some socket → pollConnect socket = .ready false →
      Rests shared (.connecting remote (.wait handle asleep)) (.poll .connect)
        (.connecting remote (.discard handle false
          (some (dialError remote "the far side refused the connection"))))
  | unanswered {remote : SocketAddr} {handle : Handle} {asleep : Bool} {socket : smoltcp.Tcp} :
      shared.inner.getTcp handle = some socket → pollConnect socket ≠ .ready true →
      pollConnect socket ≠ .ready false →
      Rests shared (.connecting remote (.wait handle asleep)) (.poll .connect)
        (.connecting remote (.wait handle true))
  | timedOut {remote : SocketAddr} {handle : Handle} {asleep : Bool} :
      Rests shared (.connecting remote (.wait handle asleep)) .timeout
        (.connecting remote (.discard handle true
          (some (dialError remote "the tunnel did not open a connection in time"))))
  | dialDropped {remote : SocketAddr} {handle : Handle} {asleep : Bool} :
      Rests shared (.connecting remote (.wait handle asleep)) (.cancel .connect)
        (.connecting remote (.discard handle false none))
  | unread {peer : SocketAddr} {handle : Handle} {shutDown reading writing : Bool} {room : Nat} :
      Rests shared (.stream peer handle shutDown reading writing) (.cancel (.read room))
        (.stream peer handle shutDown false writing)
  | unwritten {peer : SocketAddr} {handle : Handle} {shutDown reading writing : Bool} {input : Input} :
      Rests shared (.stream peer handle shutDown reading writing) input (.stream peer handle shutDown reading false)
  | flushed {peer : SocketAddr} {handle : Handle} {shutDown reading writing : Bool} {socket : smoltcp.Tcp} :
      shared.inner.getTcp handle = some socket →
      Rests shared (.stream peer handle shutDown reading writing) (.poll .flush)
        (.stream peer handle shutDown reading (pollFlush socket).isPending)
  | dropped {peer : SocketAddr} {handle : Handle} {reading writing : Bool} :
      Rests shared (.stream peer handle true reading writing) .drop (.retiring handle)
  | bindRefused {port : UInt16} {packets bytes : Nat} {fresh : Handle} :
      shared.stopped = true →
      Rests shared (.binding port packets bytes .check) (.advance fresh) (.ended (some stoppedError))
  | bindChecked {port : UInt16} {packets bytes : Nat} {fresh : Handle} :
      shared.stopped = false →
      Rests shared (.binding port packets bytes .check) (.advance fresh) (.binding port packets bytes (.claim .load))
  | unsent {handle : Handle} {port : UInt16} {sending receiving : Bool} {data : List UInt8} {remote : SocketAddr} :
      Rests shared (.udp handle port sending receiving) (.cancel (.sendTo data remote))
        (.udp handle port false receiving)
  | unreceived {handle : Handle} {port : UInt16} {sending receiving : Bool} {room : Nat} :
      Rests shared (.udp handle port sending receiving) (.cancel (.recvFrom room)) (.udp handle port sending false)
  | listenRefused {backlog : Nat} {point : Listening} {fresh : Handle} {error : TunnelError} :
      point.pool = [] → Rests shared (.listening backlog point) (.advance fresh) (.ended (some error))
  | portFree {backlog : Nat} {port : UInt16} {fresh : Handle} :
      shared.inner.listeningOn port = false →
      Rests shared (.listening backlog (.explicit port)) (.advance fresh) (.listening backlog (.bind port))
  | portFound {backlog first step : Nat} {fresh : Handle} :
      shared.inner.listeningOn (searchedPort first step) = false →
      Rests shared (.listening backlog (.search first step)) (.advance fresh)
        (.listening backlog (.bind (searchedPort first step)))
  | portTaken {backlog first step : Nat} {fresh : Handle} :
      shared.inner.listeningOn (searchedPort first step) = true →
      Rests shared (.listening backlog (.search first step)) (.advance fresh)
        (.listening backlog (.search first (step + 1)))
  | binds {backlog : Nat} {port : UInt16} {fresh : Handle} :
      shared.stopped = false →
      Rests shared (.listening backlog (.bind port)) (.advance fresh)
        (.listening backlog (.fill port (max backlog 1) []))
  | filled {backlog : Nat} {port : UInt16} {pool : List Handle} {fresh : Handle} :
      Rests shared (.listening backlog (.fill port 0 pool)) (.advance fresh) (.listener port pool .idle)
  | accepts {port : UInt16} {pool : List Handle} {fresh : Handle} :
      Rests shared (.listener port pool .idle) (.advance fresh) (.listener port pool (.polling false))
  | acceptStopped {port : UInt16} {pool : List Handle} {asleep : Bool} :
      shared.stopped = true →
      Rests shared (.listener port pool (.polling asleep)) (.poll .accept) (.listener port pool .idle)
  | acceptDropped {port : UInt16} {pool : List Handle} {asleep : Bool} :
      Rests shared (.listener port pool (.polling asleep)) (.cancel .accept) (.listener port pool .idle)
  | unresolved {host : String} {lastError : Option TunnelError} {kinds : List DnsQueryType} {input : Input} :
      Rests shared (.resolving host lastError (.next kinds)) input (.ended (some (resolveError host lastError)))
  | asks {host : String} {lastError : Option TunnelError} {kinds : List DnsQueryType} {fresh : Handle} :
      Rests shared (.resolving host lastError (.next kinds)) (.advance fresh)
        (.resolving host lastError (.acquire kinds))
  | unacquired {host : String} {lastError error : Option TunnelError} {kinds : List DnsQueryType} {input : Input} :
      Rests shared (.resolving host lastError (.acquire kinds)) input (.ended error)
  | registers {fresh : Handle} :
      Rests shared (.waitStopped .register) (.advance fresh) (.waitStopped (.check false))
  | notices {notified : Bool} {fresh : Handle} :
      shared.stopped = true → Rests shared (.waitStopped (.check notified)) (.advance fresh) (.ended none)
  | again {fresh : Handle} :
      shared.stopped = false → Rests shared (.waitStopped (.check true)) (.advance fresh) (.waitStopped .register)
  | sleeps {fresh : Handle} :
      shared.stopped = false → Rests shared (.waitStopped (.check false)) (.advance fresh) (.waitStopped .asleep)

inductive Turns (shared : Shared smoltcp) : Actor smoltcp → Input → Effect smoltcp → Prop where
  | rests {actor new : Actor smoltcp} {input : Input} :
      Rests shared actor input new → Turns shared actor input ⟨shared, new, []⟩
  | dialClaims {remote : SocketAddr} {point : Claim} {fresh : Handle} {next : Shared smoltcp} {claimed : Claimed} :
      shared.claimSocket point = .next (next, claimed) →
      Turns shared (.connecting remote (.claim point)) (.advance fresh) ⟨next, claimed.dial remote, []⟩
  | opens {remote : SocketAddr} {fresh : Handle} {port : UInt16} {inner : Inner smoltcp} {socket opened : smoltcp.Tcp} :
      shared.inner.sockets.Vacant fresh → (shared.inner.addTcpSocket fresh).nextEphemeralPort = (port, inner) →
      smoltcp.connect inner.iface socket remote port = .ok opened →
      Turns shared (.connecting remote .start) (.advance fresh)
        ⟨shared.setInner (inner.put fresh (.tcp opened)), .connecting remote (.wait fresh false), []⟩
  | unopened {remote : SocketAddr} {fresh : Handle} {port : UInt16} {inner : Inner smoltcp} {error : ConnectError} :
      shared.inner.sockets.Vacant fresh → (shared.inner.addTcpSocket fresh).nextEphemeralPort = (port, inner) →
      Turns shared (.connecting remote .start) (.advance fresh)
        ⟨shared.setInner inner,
          .connecting remote (.discard fresh false (some (dialError remote (connectErrorDetail error)))), []⟩
  | discards {remote : SocketAddr} {handle fresh : Handle} {error : Option TunnelError} {inner : Inner smoltcp} :
      shared.inner.discard handle = .next inner →
      Turns shared (.connecting remote (.discard handle false error)) (.advance fresh)
        ⟨shared.setInner inner, .connecting remote (.release error), []⟩
  | aborts {remote : SocketAddr} {handle fresh : Handle} {error : Option TunnelError} {inner : Inner smoltcp} :
      shared.inner.abortDiscard handle = .next inner →
      Turns shared (.connecting remote (.discard handle true error)) (.advance fresh)
        ⟨shared.setInner inner, .connecting remote (.release error), []⟩
  | dialReleases {remote : SocketAddr} {error : Option TunnelError} {fresh : Handle} :
      Turns shared (.connecting remote (.release error)) (.advance fresh) ⟨shared.releaseSocket, .ended error, []⟩
  | reads {peer : SocketAddr} {handle : Handle} {shutDown reading writing : Bool} {room : Nat} {socket : smoltcp.Tcp} :
      shared.inner.getTcp handle = some socket →
      Turns shared (.stream peer handle shutDown reading writing) (.poll (.read room))
        ⟨shared.setInner (shared.inner.put handle (.tcp (pollRead socket room).2)),
          .stream peer handle shutDown (pollRead socket room).1.isPending writing, []⟩
  | writes {peer : SocketAddr} {handle : Handle} {reading writing : Bool} {data : List UInt8} {socket : smoltcp.Tcp} :
      shared.inner.getTcp handle = some socket →
      Turns shared (.stream peer handle false reading writing) (.poll (.write data))
        ⟨shared.setInner (shared.inner.put handle (.tcp (pollWrite socket data).2)),
          .stream peer handle false reading (pollWrite socket data).1.isPending, []⟩
  | shutsDown {peer : SocketAddr} {handle : Handle} {reading writing : Bool} {inner : Inner smoltcp} :
      shared.inner.updateTcp handle smoltcp.close = .next inner →
      Turns shared (.stream peer handle false reading writing) .shutdown
        ⟨shared.setInner inner, .stream peer handle true reading false, []⟩
  | closes {peer : SocketAddr} {handle : Handle} {reading writing : Bool} {inner : Inner smoltcp} :
      shared.inner.updateTcp handle smoltcp.close = .next inner →
      Turns shared (.stream peer handle false reading writing) .drop
        ⟨shared.setInner inner, .retiring handle, []⟩
  | retires {handle fresh : Handle} :
      Turns shared (.retiring handle) (.advance fresh)
        ⟨shared.setInner (shared.inner.retire handle true), .ended none, []⟩
  | bindClaims {port : UInt16} {packets bytes : Nat} {point : Claim} {fresh : Handle} {next : Shared smoltcp}
      {claimed : Claimed} :
      shared.claimSocket point = .next (next, claimed) →
      Turns shared (.binding port packets bytes (.claim point)) (.advance fresh)
        ⟨next, claimed.bindUdp port packets bytes, []⟩
  | bound {port localPort : UInt16} {packets bytes : Nat} {fresh : Handle} {inner : Inner smoltcp}
      {socket : smoltcp.Udp} :
      shared.inner.sockets.Vacant fresh →
      (if port = 0 then (shared.inner.addUdpSocketSized fresh packets bytes).nextEphemeralPort
        else (port, shared.inner.addUdpSocketSized fresh packets bytes)) = (localPort, inner) →
      Turns shared (.binding port packets bytes .start) (.advance fresh)
        ⟨shared.setInner (inner.put fresh (.udp socket)), .udp fresh localPort false false, []⟩
  | unbound {port localPort : UInt16} {packets bytes : Nat} {fresh : Handle} {inner : Inner smoltcp}
      {error : TunnelError} :
      shared.inner.sockets.Vacant fresh →
      (if port = 0 then (shared.inner.addUdpSocketSized fresh packets bytes).nextEphemeralPort
        else (port, shared.inner.addUdpSocketSized fresh packets bytes)) = (localPort, inner) →
      Turns shared (.binding port packets bytes .start) (.advance fresh)
        ⟨shared.setInner inner, .binding port packets bytes (.discard fresh error), []⟩
  | unbinds {port : UInt16} {packets bytes : Nat} {handle fresh : Handle} {error : TunnelError}
      {inner : Inner smoltcp} :
      shared.inner.discard handle = .next inner →
      Turns shared (.binding port packets bytes (.discard handle error)) (.advance fresh)
        ⟨shared.setInner inner, .binding port packets bytes (.release error), []⟩
  | bindReleases {port : UInt16} {packets bytes : Nat} {error : TunnelError} {fresh : Handle} :
      Turns shared (.binding port packets bytes (.release error)) (.advance fresh)
        ⟨shared.releaseSocket, .ended (some error), []⟩
  | sends {handle : Handle} {port : UInt16} {sending receiving : Bool} {data : List UInt8} {remote : SocketAddr}
      {socket : smoltcp.Udp} :
      shared.inner.getUdp handle = some socket →
      Turns shared (.udp handle port sending receiving) (.poll (.sendTo data remote))
        ⟨shared.setInner (shared.inner.put handle (.udp (pollSendTo shared.stopped socket data remote).2)),
          .udp handle port (pollSendTo shared.stopped socket data remote).1.isPending receiving, []⟩
  | receives {handle : Handle} {port : UInt16} {sending receiving : Bool} {room : Nat} {socket : smoltcp.Udp} :
      shared.inner.getUdp handle = some socket →
      Turns shared (.udp handle port sending receiving) (.poll (.recvFrom room))
        ⟨shared.setInner (shared.inner.put handle (.udp (pollRecvFrom shared.stopped socket room).2)),
          .udp handle port sending (pollRecvFrom shared.stopped socket room).1.isPending, []⟩
  | udpDrops {handle : Handle} {port : UInt16} {sending receiving : Bool} {socket : smoltcp.Udp}
      {inner : Inner smoltcp} :
      (shared.inner.put handle (.udp (smoltcp.udpClose socket))).discard handle = .next inner →
      Turns shared (.udp handle port sending receiving) .drop ⟨shared.setInner inner, .udpRelease, []⟩
  | udpReleases {fresh : Handle} :
      Turns shared .udpRelease (.advance fresh) ⟨shared.releaseSocket, .ended none, []⟩
  | stocks {backlog left : Nat} {port : UInt16} {pool : List Handle} {fresh : Handle} {inner : Inner smoltcp} :
      shared.inner.sockets.Vacant fresh → shared.inner.listenOne port fresh = .next (inner, none) →
      Turns shared (.listening backlog (.fill port (left + 1) pool)) (.advance fresh)
        ⟨shared.setInner inner, .listening backlog (.fill port left (pool ++ [fresh])), []⟩
  | unstocks {backlog left : Nat} {port : UInt16} {pool : List Handle} {fresh : Handle} {inner : Inner smoltcp}
      {error : String} :
      shared.inner.sockets.Vacant fresh → shared.inner.listenOne port fresh = .next (inner, some error) →
      Turns shared (.listening backlog (.fill port (left + 1) pool)) (.advance fresh)
        ⟨shared.setInner inner, .listening backlog (.drop pool (listenError port error)), []⟩
  | emptiesPool {backlog : Nat} {pool : List Handle} {error : TunnelError} {fresh : Handle} {inner : Inner smoltcp} :
      shared.inner.abortDiscardAll pool = .next inner →
      Turns shared (.listening backlog (.drop pool error)) (.advance fresh)
        ⟨shared.setInner inner, .ended (some error), []⟩
  | listenerDrops {port : UInt16} {pool : List Handle} {inner : Inner smoltcp} :
      shared.inner.abortDiscardAll pool = .next inner →
      Turns shared (.listener port pool .idle) .drop ⟨shared.setInner inner, .ended none, []⟩
  | scans {port : UInt16} {pool : List Handle} {asleep : Bool} {inner : Inner smoltcp} :
      shared.stopped = false → scanPool port pool 0 shared.inner = .next (none, inner) →
      Turns shared (.listener port pool (.polling asleep)) (.poll .accept)
        ⟨shared.setInner inner, .listener port pool (.polling true), []⟩
  | takes {port : UInt16} {pool : List Handle} {asleep : Bool} {inner : Inner smoltcp} {index : Nat}
      {peer : Option SocketAddr} {handle : Handle} :
      shared.stopped = false → scanPool port pool 0 shared.inner = .next (some (index, peer), inner) →
      pool[index]? = some handle →
      Turns shared (.listener port pool (.polling asleep)) (.poll .accept)
        ⟨shared.setInner inner, .listener port (swapRemove pool index) (.taken handle peer), []⟩
  | restocks {port : UInt16} {pool : List Handle} {handle fresh : Handle} {peer : Option SocketAddr}
      {inner : Inner smoltcp} :
      shared.inner.sockets.Vacant fresh → shared.inner.listenOne port fresh = .next (inner, none) →
      Turns shared (.listener port pool (.taken handle peer)) (.advance fresh)
        ⟨shared.setInner inner, .listener port (pool ++ [fresh]) (.claim handle peer .load), []⟩
  | restocksNot {port : UInt16} {pool : List Handle} {handle fresh : Handle} {peer : Option SocketAddr}
      {inner : Inner smoltcp} {error : String} :
      shared.inner.sockets.Vacant fresh → shared.inner.listenOne port fresh = .next (inner, some error) →
      Turns shared (.listener port pool (.taken handle peer)) (.advance fresh)
        ⟨shared.setInner inner, .listener port pool (.failed handle (listenError port error)), []⟩
  | acceptClaims {port : UInt16} {pool : List Handle} {handle fresh : Handle} {peer : Option SocketAddr}
      {point : Claim} {next : Shared smoltcp} {claimed : Claimed} :
      shared.claimSocket point = .next (next, claimed) →
      Turns shared (.listener port pool (.claim handle peer point)) (.advance fresh)
        ⟨next, claimed.accept port pool handle peer, claimed.accepted handle peer⟩
  | resets {port : UInt16} {pool : List Handle} {handle fresh : Handle} {inner : Inner smoltcp} :
      shared.inner.updateTcp handle smoltcp.abort = .next inner →
      Turns shared (.listener port pool (.full handle)) (.advance fresh)
        ⟨shared.setInner (inner.retire handle false), .listener port pool (.polling false), []⟩
  | givesUp {port : UInt16} {pool : List Handle} {handle fresh : Handle} {error : TunnelError}
      {inner : Inner smoltcp} :
      shared.inner.abortDiscard handle = .next inner →
      Turns shared (.listener port pool (.failed handle error)) (.advance fresh)
        ⟨shared.setInner inner, .listener port pool .idle, []⟩
  | acquires {host : String} {lastError : Option TunnelError} {kinds : List DnsQueryType} {fresh : Handle} :
      0 < shared.dnsPermits →
      Turns shared (.resolving host lastError (.acquire kinds)) (.advance fresh)
        ⟨{ shared with dnsPermits := shared.dnsPermits - 1 }, .resolving host lastError (.start kinds), []⟩
  | starts {host : String} {lastError : Option TunnelError} {kind : DnsQueryType} {kinds : List DnsQueryType}
      {fresh handle : Handle} {socket later : smoltcp.Dns} {query : smoltcp.Query} :
      shared.inner.dns = some handle → shared.inner.getDns handle = some socket →
      smoltcp.startQuery shared.inner.iface socket host kind = .ok (query, later) →
      Turns shared (.resolving host lastError (.start (kind :: kinds))) (.advance fresh)
        ⟨shared.setInner (shared.inner.put handle (.dns later)),
          .resolving host lastError (.wait (kind :: kinds) query false), []⟩
  | startsNot {host : String} {lastError error : Option TunnelError} {kind : DnsQueryType}
      {kinds : List DnsQueryType} {fresh : Handle} :
      Turns shared (.resolving host lastError (.start (kind :: kinds))) (.advance fresh)
        ⟨{ shared with dnsPermits := shared.dnsPermits + 1 }, .resolving host error (.next kinds), []⟩
  | awaits {host : String} {lastError : Option TunnelError} {kinds : List DnsQueryType} {query : smoltcp.Query}
      {asleep : Bool} {handle : Handle} {socket : smoltcp.Dns} :
      shared.inner.dns = some handle → shared.inner.getDns handle = some socket →
      (smoltcp.getQueryResult socket query).1 = .pending →
      Turns shared (.resolving host lastError (.wait kinds query asleep)) (.poll .query)
        ⟨shared.setInner (shared.inner.put handle (.dns (smoltcp.getQueryResult socket query).2)),
          .resolving host lastError (.wait kinds query true), []⟩
  | asksOn {host : String} {lastError error : Option TunnelError} {kinds : List DnsQueryType}
      {query : smoltcp.Query} {asleep : Bool} {handle : Handle} {socket : smoltcp.Dns} :
      shared.inner.dns = some handle → shared.inner.getDns handle = some socket →
      (smoltcp.getQueryResult socket query).1 ≠ .pending →
      Turns shared (.resolving host lastError (.wait kinds query asleep)) (.poll .query)
        ⟨{ shared with
            inner := shared.inner.put handle (.dns (smoltcp.getQueryResult socket query).2)
            dnsPermits := shared.dnsPermits + 1 },
          .resolving host error (.next kinds.tail), []⟩
  | resolves {host : String} {lastError : Option TunnelError} {kinds : List DnsQueryType}
      {query : smoltcp.Query} {asleep : Bool} {handle : Handle} {socket : smoltcp.Dns}
      {addresses : List (List UInt8)} :
      shared.inner.dns = some handle → shared.inner.getDns handle = some socket →
      (smoltcp.getQueryResult socket query).1 = .ready addresses →
      Turns shared (.resolving host lastError (.wait kinds query asleep)) (.poll .query)
        ⟨{ shared with
            inner := shared.inner.put handle (.dns (smoltcp.getQueryResult socket query).2)
            dnsPermits := shared.dnsPermits + 1 },
          .resolved addresses, []⟩
  | cancels {host : String} {lastError error : Option TunnelError} {kinds : List DnsQueryType}
      {query : smoltcp.Query} {asleep : Bool} {input : Input} {handle : Handle} {socket : smoltcp.Dns} :
      shared.inner.dns = some handle → shared.inner.getDns handle = some socket →
      Turns shared (.resolving host lastError (.wait kinds query asleep)) input
        ⟨{ shared with
            inner := shared.inner.put handle (.dns (smoltcp.cancelQuery socket query))
            dnsPermits := shared.dnsPermits + 1 },
          .ended error, []⟩
  | cancelsNothing {host : String} {lastError error : Option TunnelError} {kinds : List DnsQueryType}
      {query : smoltcp.Query} {asleep : Bool} {input : Input} :
      shared.inner.dns = none →
      Turns shared (.resolving host lastError (.wait kinds query asleep)) input
        ⟨{ shared with dnsPermits := shared.dnsPermits + 1 }, .ended error, []⟩

end Rules

section Summary
variable {smoltcp : Smoltcp} {shared : Shared smoltcp}

theorem Secured.getTcp_ne_none {actor : Actor smoltcp} (secured : Secured shared actor) {handle : Handle}
    (held : (handle, Kind.tcp) ∈ actor.holds) : shared.inner.getTcp handle ≠ none := by
  obtain ⟨socket, place⟩ := Inner.getTcp_of_kindAt (secured.kindAt_held held)
  rw [place]
  exact Option.some_ne_none _

theorem Secured.getUdp_ne_none {actor : Actor smoltcp} (secured : Secured shared actor) {handle : Handle}
    (held : (handle, Kind.udp) ∈ actor.holds) : shared.inner.getUdp handle ≠ none := by
  obtain ⟨socket, place⟩ := Inner.getUdp_of_kindAt (secured.kindAt_held held)
  rw [place]
  exact Option.some_ne_none _

theorem Inner.drawTcp_changes {inner after : Inner smoltcp} {fresh : Handle} {port : UInt16}
    (vacant : inner.sockets.Vacant fresh) (drawn : (inner.addTcpSocket fresh).nextEphemeralPort = (port, after)) :
    inner.Changes after [] [(fresh, .tcp)] [] ∧ after.kindAt fresh = some .tcp := by
  cases drawn
  have added : inner.Changes (inner.addTcpSocket fresh) [] [(fresh, .tcp)] [] := Inner.changes_add vacant
  exact ⟨added.trans Inner.nextEphemeralPort_changes, Inner.kindAt_add vacant⟩

theorem Inner.drawUdp_changes {inner after : Inner smoltcp} {fresh : Handle} {port localPort : UInt16}
    {packets bytes : Nat} (vacant : inner.sockets.Vacant fresh)
    (drawn : (if port = 0 then (inner.addUdpSocketSized fresh packets bytes).nextEphemeralPort
      else (port, inner.addUdpSocketSized fresh packets bytes)) = (localPort, after)) :
    inner.Changes after [] [(fresh, .udp)] [] ∧ after.kindAt fresh = some .udp := by
  have added : inner.Changes (inner.addUdpSocketSized fresh packets bytes) [] [(fresh, .udp)] [] :=
    Inner.changes_add vacant
  split at drawn
  · cases drawn
    exact ⟨added.trans Inner.nextEphemeralPort_changes, Inner.kindAt_add vacant⟩
  · cases drawn
    exact ⟨added, Inner.kindAt_add vacant⟩

/-- A step of an actor is one of the rules, and panics only if the actor's holdings are not in order. -/
def Turning (shared : Shared smoltcp) (actor : Actor smoltcp) (input : Input) (outcome : Outcome (Effect smoltcp)) :
    Prop :=
  outcome.Meets (Secured shared actor) (Turns shared actor input)

theorem startConnect_turns {remote : SocketAddr} {fresh : Handle} (vacant : shared.inner.sockets.Vacant fresh) :
    Turning shared (.connecting remote .start) (.advance fresh) (shared.startConnect remote fresh) := by
  unfold Shared.startConnect
  dsimp only
  split
  · next absent =>
    obtain ⟨-, found⟩ := Inner.drawTcp_changes vacant rfl
    obtain ⟨socket, place⟩ := Inner.getTcp_of_kindAt found
    cases absent.symm.trans place
  · split
    · next opened => exact Turns.opens vacant rfl opened
    · exact Turns.unopened vacant rfl

theorem stepConnecting_turns {remote : SocketAddr} (point : Connecting) (input : Input) :
    Turning shared (.connecting remote point) input (shared.stepConnecting remote point input) := by
  unfold Shared.stepConnecting
  split
  · next point fresh =>
    refine Outcome.meets_bind (fun secured => (claimSocket_claims secured point).not_panicked) ?_
    rintro ⟨next, claimed⟩ claiming
    have turns : Turns shared (.connecting remote (.claim point)) (.advance fresh) ⟨next, claimed.dial remote, []⟩ :=
      .dialClaims claiming
    cases claimed <;> exact turns
  · exact Outcome.meets_guarded fun vacant => startConnect_turns (of_decide_eq_true vacant)
  · split
    · next absent => exact fun secured => secured.getTcp_ne_none List.mem_cons_self absent
    · next place =>
      split
      · next established => exact .rests (.connected place established)
      · next refused => exact .rests (.refused place refused)
      · next waits fails => exact .rests (.unanswered place waits fails)
  · exact Turns.rests .timedOut
  · exact Turns.rests .dialDropped
  · next handle aborts error fresh =>
    have held : (handle, Kind.tcp) ∈ (Actor.connecting remote (.discard handle aborts error) : Actor smoltcp).holds :=
      List.mem_cons_self
    cases aborts with
    | false =>
      refine Outcome.meets_bind (fun secured => (Inner.changes_discard (secured.kindAt_held held)).not_panicked) ?_
      exact fun inner removed => Turns.discards removed
    | true =>
      refine Outcome.meets_bind (fun secured => (Inner.abortDiscard_changes (secured.kindAt_held held)).not_panicked) ?_
      exact fun inner removed => Turns.aborts removed
  · exact Turns.dialReleases
  · exact trivial

theorem stepStream_turns {peer : SocketAddr} {handle : Handle} {shutDown reading writing : Bool} (input : Input) :
    Turning shared (.stream peer handle shutDown reading writing) input
      (shared.stepStream peer handle shutDown reading writing input) := by
  have held : (handle, Kind.tcp) ∈ (Actor.stream peer handle shutDown reading writing : Actor smoltcp).holds :=
    List.mem_cons_self
  have sound : Secured shared (.stream peer handle shutDown reading writing) →
      shared.inner.updateTcp handle smoltcp.close ≠ .panicked :=
    fun secured => (Inner.updateTcp_changes (secured.kindAt_held held)).not_panicked
  unfold Shared.stepStream
  split
  · split
    · next absent => exact fun secured => secured.getTcp_ne_none held absent
    · next place => exact Turns.reads place
  · cases shutDown with
    | true => exact Turns.rests .unwritten
    | false =>
      simp only [Bool.false_eq_true, if_false]
      split
      · next absent => exact fun secured => secured.getTcp_ne_none held absent
      · next place => exact Turns.writes place
  · split
    · next absent => exact fun secured => secured.getTcp_ne_none held absent
    · next place => exact Turns.rests (.flushed place)
  · cases shutDown with
    | true => exact Turns.rests .unwritten
    | false => exact Outcome.meets_bind sound fun inner closed => Turns.shutsDown closed
  · exact Turns.rests .unread
  · exact Turns.rests .unwritten
  · exact Turns.rests .unwritten
  · cases shutDown with
    | true => exact Turns.rests .dropped
    | false => exact Outcome.meets_bind sound fun inner closed => Turns.closes closed
  · exact trivial

theorem startBind_turns {port : UInt16} {packets bytes : Nat} {fresh : Handle}
    (vacant : shared.inner.sockets.Vacant fresh) :
    Turning shared (.binding port packets bytes .start) (.advance fresh)
      (shared.startBind port packets bytes fresh) := by
  unfold Shared.startBind
  dsimp only
  split
  · next absent =>
    obtain ⟨-, found⟩ := Inner.drawUdp_changes vacant rfl
    obtain ⟨socket, place⟩ := Inner.getUdp_of_kindAt found
    cases absent.symm.trans place
  · split
    · exact Turns.bound vacant rfl
    · exact Turns.unbound vacant rfl

theorem stepBinding_turns {port : UInt16} {packets bytes : Nat} (point : Binding) (input : Input) :
    Turning shared (.binding port packets bytes point) input
      (shared.stepBinding port packets bytes point input) := by
  unfold Shared.stepBinding
  split
  · split
    · next stopped => exact Turns.rests (.bindRefused stopped)
    · next running => exact Turns.rests (.bindChecked (Bool.eq_false_iff.mpr running))
  · next point fresh =>
    refine Outcome.meets_bind (fun secured => (claimSocket_claims secured point).not_panicked) ?_
    rintro ⟨next, claimed⟩ claiming
    have turns : Turns shared (.binding port packets bytes (.claim point)) (.advance fresh)
        ⟨next, claimed.bindUdp port packets bytes, []⟩ := .bindClaims claiming
    cases claimed <;> exact turns
  · exact Outcome.meets_guarded fun vacant => startBind_turns (of_decide_eq_true vacant)
  · next handle error fresh =>
    have held : (handle, Kind.udp) ∈ (Actor.binding port packets bytes (.discard handle error) : Actor smoltcp).holds :=
      List.mem_cons_self
    refine Outcome.meets_bind (fun secured => (Inner.changes_discard (secured.kindAt_held held)).not_panicked) ?_
    exact fun inner removed => Turns.unbinds removed
  · exact Turns.bindReleases
  · exact trivial

theorem stepUdp_turns {handle : Handle} {port : UInt16} {sending receiving : Bool} (input : Input) :
    Turning shared (.udp handle port sending receiving) input
      (shared.stepUdp handle port sending receiving input) := by
  have held : (handle, Kind.udp) ∈ (Actor.udp handle port sending receiving : Actor smoltcp).holds :=
    List.mem_cons_self
  unfold Shared.stepUdp
  split
  · split
    · next absent => exact fun secured => secured.getUdp_ne_none held absent
    · next place => exact Turns.sends place
  · split
    · next absent => exact fun secured => secured.getUdp_ne_none held absent
    · next place => exact Turns.receives place
  · exact Turns.rests .unsent
  · exact Turns.rests .unreceived
  · split
    · next absent => exact fun secured => secured.getUdp_ne_none held absent
    · next socket _ =>
      refine Outcome.meets_bind (fun secured => ?_) fun inner removed => Turns.udpDrops removed
      have found := secured.kindAt_held held
      have closed : shared.inner.Changes (shared.inner.put handle (.udp (smoltcp.udpClose socket))) [handle] [] [] :=
        Inner.changes_put found
      exact (Inner.changes_discard (closed.kindAt found rfl)).not_panicked
  · exact trivial

theorem stepListening_turns {backlog : Nat} (point : Listening) (input : Input) :
    Turning shared (.listening backlog point) input (shared.stepListening backlog point input) := by
  unfold Shared.stepListening
  split
  · split
    · exact Turns.rests (.listenRefused rfl)
    · next free => exact Turns.rests (.portFree (Bool.eq_false_iff.mpr free))
  · split
    · exact Turns.rests (.listenRefused rfl)
    · split
      · next taken => exact Turns.rests (.portTaken taken)
      · next free => exact Turns.rests (.portFound (Bool.eq_false_iff.mpr free))
  · split
    · exact Turns.rests (.listenRefused rfl)
    · next running => exact Turns.rests (.binds (Bool.eq_false_iff.mpr running))
  · split
    · exact Turns.rests .filled
    · refine Outcome.meets_guarded fun vacant => ?_
      have free := of_decide_eq_true vacant
      refine Outcome.meets_bind (fun _ => (Inner.listenOne_changes free).not_panicked) ?_
      rintro ⟨inner, failure⟩ listened
      cases failure with
      | none => exact Turns.stocks free listened
      | some error => exact Turns.unstocks free listened
  · exact Outcome.meets_bind (fun secured => (Inner.abortDiscardAll_changes secured.tokens_held).not_panicked)
      fun inner removed => Turns.emptiesPool removed
  · exact trivial

theorem pollAccept_turns {port : UInt16} {pool : List Handle} {asleep : Bool} :
    Turning shared (.listener port pool (.polling asleep)) (.poll .accept) (shared.pollAccept port pool) := by
  unfold Shared.pollAccept
  split
  · next stopped => exact Turns.rests (.acceptStopped stopped)
  · next running =>
    have flag := Bool.eq_false_iff.mpr running
    refine Outcome.meets_bind (fun secured => (scanPool_changes secured.pool_kindAt 0).not_panicked) ?_
    rintro ⟨found, inner⟩ scan
    cases found with
    | none => exact Turns.scans flag scan
    | some chosen =>
      obtain ⟨index, peer⟩ := chosen
      dsimp only
      split
      · next absent =>
        intro secured
        have bound := (((scanPool_changes secured.pool_kindAt 0).of_next scan).2 index peer rfl).2
        have beyond := List.getElem?_eq_none_iff.mp absent
        omega
      · next place => exact Turns.takes flag scan place

theorem stepListener_turns {port : UInt16} {pool : List Handle} (point : Accepting) (input : Input) :
    Turning shared (.listener port pool point) input (shared.stepListener port pool point input) := by
  unfold Shared.stepListener
  split
  · exact Turns.rests .accepts
  · refine Outcome.meets_bind (fun secured => ?_) fun inner removed => Turns.listenerDrops removed
    have tokens := secured.tokens_held
    simp only [Actor.holds, Accepting.inHand, List.append_nil] at tokens
    exact (Inner.abortDiscardAll_changes tokens).not_panicked
  · exact pollAccept_turns
  · exact Turns.rests .acceptDropped
  · refine Outcome.meets_guarded fun vacant => ?_
    have free := of_decide_eq_true vacant
    refine Outcome.meets_bind (fun _ => (Inner.listenOne_changes free).not_panicked) ?_
    rintro ⟨inner, failure⟩ listened
    cases failure with
    | none => exact Turns.restocks free listened
    | some error => exact Turns.restocksNot free listened
  · next handle peer point fresh =>
    refine Outcome.meets_bind (fun secured => (claimSocket_claims secured point).not_panicked) ?_
    rintro ⟨next, claimed⟩ claiming
    have turns : Turns shared (.listener port pool (.claim handle peer point)) (.advance fresh)
        ⟨next, claimed.accept port pool handle peer, claimed.accepted handle peer⟩ := .acceptClaims claiming
    cases claimed <;> exact turns
  · next handle fresh =>
    refine Outcome.meets_bind (fun secured => ?_) fun inner aborted => Turns.resets aborted
    exact (Inner.updateTcp_changes (secured.kindAt_held (listener_holds_inHand List.mem_cons_self))).not_panicked
  · next handle error fresh =>
    refine Outcome.meets_bind (fun secured => ?_) fun inner removed => Turns.givesUp removed
    exact (Inner.abortDiscard_changes (secured.kindAt_held (listener_holds_inHand List.mem_cons_self))).not_panicked
  · exact trivial

section Resolver
variable {host : String} {lastError : Option TunnelError} {kinds : List DnsQueryType} {query : smoltcp.Query}
  {asleep : Bool}

theorem Secured.dns_found {point : Resolving smoltcp} (secured : Secured shared (.resolving host lastError point)) :
    shared.inner.dns ≠ none ∧ ∀ handle, shared.inner.dns = some handle → shared.inner.getDns handle ≠ none := by
  obtain ⟨handle, socket, configured, place, -⟩ := secured.dnsSocket
  constructor
  · rw [configured]
    exact Option.some_ne_none _
  · intro other same
    cases configured.symm.trans same
    rw [place]
    exact Option.some_ne_none _

theorem startQuery_turns {kind : DnsQueryType} {fresh : Handle} :
    Turning shared (.resolving host lastError (.start (kind :: kinds))) (.advance fresh)
      (shared.startQuery host lastError (kind :: kinds) kind) := by
  unfold Shared.startQuery
  split
  · next absent => exact fun secured => secured.dns_found.1 absent
  · next handle configured =>
    split
    · next absent => exact fun secured => secured.dns_found.2 handle configured absent
    · next place =>
      split
      · next started => exact Turns.starts configured place started
      · exact Turns.startsNot

theorem pollQuery_turns :
    Turning shared (.resolving host lastError (.wait kinds query asleep)) (.poll .query)
      (shared.pollQuery host lastError kinds query) := by
  unfold Shared.pollQuery
  split
  · next absent => exact fun secured => secured.dns_found.1 absent
  · next handle configured =>
    split
    · next absent => exact fun secured => secured.dns_found.2 handle configured absent
    · next place =>
      dsimp only
      split
      · next waits => exact Turns.awaits configured place waits
      · next failed => exact Turns.asksOn configured place (by rw [failed]; exact nofun)
      · next empty => exact Turns.asksOn configured place (by rw [empty]; exact nofun)
      · next answered => exact Turns.resolves configured place answered

theorem cancelQuery_turns {error : Option TunnelError} {input : Input} :
    Turning shared (.resolving host lastError (.wait kinds query asleep)) input (shared.cancelQuery query error) := by
  unfold Shared.cancelQuery
  split
  · next absent => exact Turns.cancelsNothing absent
  · next handle configured =>
    split
    · next absent => exact fun secured => secured.dns_found.2 handle configured absent
    · next place => exact Turns.cancels configured place

theorem stepResolving_turns (point : Resolving smoltcp) (input : Input) :
    Turning shared (.resolving host lastError point) input (shared.stepResolving host lastError point input) := by
  unfold Shared.stepResolving
  split
  · exact Turns.rests .unresolved
  · exact Turns.rests .unresolved
  · exact Turns.rests .asks
  · exact Outcome.meets_guarded fun available => Turns.acquires (of_decide_eq_true available)
  · exact Turns.rests .unacquired
  · exact Turns.rests .unacquired
  · exact startQuery_turns
  · exact pollQuery_turns
  · exact cancelQuery_turns
  · exact cancelQuery_turns
  · exact trivial

end Resolver

theorem stepWaitStopped_turns (point : WaitStopped) (input : Input) :
    Turning shared (.waitStopped point) input (shared.stepWaitStopped point input) := by
  unfold Shared.stepWaitStopped
  split
  · exact Turns.rests .registers
  · next notified fresh =>
    split
    · next stopped => exact Turns.rests (.notices stopped)
    · next running =>
      have flag := Bool.eq_false_iff.mpr running
      cases notified with
      | true => exact Turns.rests (.again flag)
      | false => exact Turns.rests (.sleeps flag)
  · exact trivial

theorem stepActor_turns (actor : Actor smoltcp) (input : Input) :
    Turning shared actor input (shared.stepActor actor input) := by
  cases actor with
  | connecting remote point => exact stepConnecting_turns point input
  | stream peer handle shutDown reading writing => exact stepStream_turns input
  | retiring handle =>
    cases input with
    | advance fresh => exact Turns.retires
    | _ => exact trivial
  | binding port packets bytes point => exact stepBinding_turns point input
  | udp handle localPort sending receiving => exact stepUdp_turns input
  | udpRelease =>
    cases input with
    | advance fresh => exact Turns.udpReleases
    | _ => exact trivial
  | listening backlog point => exact stepListening_turns point input
  | listener port pool point => exact stepListener_turns point input
  | resolving host lastError point => exact stepResolving_turns point input
  | resolved addresses => exact trivial
  | waitStopped point => exact stepWaitStopped_turns point input
  | ended error => exact trivial

theorem turns_of_step {actor : Actor smoltcp} {input : Input} {effect : Effect smoltcp}
    (taken : shared.stepActor actor input = .next effect) : Turns shared actor input effect :=
  (stepActor_turns actor input).ensures.of_next taken

end Summary

end ProxyTunnels.Wireguard
