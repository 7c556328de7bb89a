import ProxyTunnels.Error
import ProxyTunnels.Machine.Lock
import ProxyTunnels.Machine.Run

/-! The HTTP/3 provider's QUIC sessions and the calls that share them.

A session is listed weakly in `all` and held by whoever still uses it: the provider's
`current`, a dial that waits on it, a stream, or a call that is about to stop it. It is
alive as long as someone does. The provider's short critical sections are one step each;
between them a call is parked at an await, where its future may be dropped, or about to
enter its next section, where it may not. Sessions appear in the table when they are
pushed: one that finds the provider stopped at that moment is never seen by anybody.
-/

set_option autoImplicit false

namespace ProxyTunnels.Http3.Sessions
open Machine

def maxSessions : Nat := 4

/-- The task that drives a session's connection; `stop` takes it out. -/
inductive Driver where
  | running
  | finished
  | taken
  deriving DecidableEq, Repr

structure Session where
  retiring : Bool
  stopped : Bool
  /-- The connection has a `close_reason`. -/
  closed : Bool
  driver : Driver
  deriving DecidableEq, Repr

def Session.new : Session := ⟨false, false, false, .running⟩

def Session.usable (session : Session) : Bool :=
  !session.retiring && !session.closed && session.driver == .running

def Session.stop (session : Session) : Session :=
  { session with stopped := true, closed := true, driver := .taken }

/-- What a caller of `session` wants one for. -/
inductive Task where
  | prepare
  | dial
  deriving DecidableEq, Repr

inductive Ending where
  | prepared
  | streaming
  | failed (error : TunnelError)
  | retired
  | shutDown
  | dropped
  deriving DecidableEq, Repr

inductive Point where
  | dial
  | permit
  | connectLock (task : Task)
  | check (task : Task)
  | connecting (task : Task)
  | register (task : Task)
  | request (session : Nat)
  | retireLock
  | drain
  | retiring (rest : List Nat)
  | idling (session : Nat) (rest : List Nat)
  | shutdown
  | stopSessions
  | stopping (left done : List Nat)
  | joining
  | ended (ending : Ending)
  deriving DecidableEq, Repr

/-- The calls that hold `connect_lock`. -/
def Point.holdsLock : Point → Bool
  | .check _ => true
  | .connecting _ => true
  | .register _ => true
  | .drain => true
  | .retiring _ => true
  | .idling _ _ => true
  | _ => false

def Point.refs : Point → List Nat
  | .request session => [session]
  | .retiring rest => rest
  | .idling session rest => session :: rest
  | .stopping left done => left ++ done
  | _ => []

def Point.pending : Point → List Nat
  | .retiring rest => rest
  | .idling _ rest => rest
  | .stopping left _ => left
  | _ => []

def Point.isAwait : Point → Bool
  | .permit => true
  | .connectLock _ => true
  | .connecting _ => true
  | .request _ => true
  | .retireLock => true
  | .idling _ _ => true
  | .joining => true
  | _ => false

inductive RequestResult where
  /-- `send_request` failed, after GOAWAY or the loss of the connection. -/
  | unsent
  | refused (error : TunnelError)
  | accepted
  deriving DecidableEq, Repr

inductive Answer where
  | proceed
  | permitted (granted : Bool)
  | connected (result : Except TunnelError Unit)
  | requested (result : RequestResult)

inductive Call where
  | prepare
  | dial
  | retire
  | shutdown
  deriving DecidableEq, Repr

def Call.start : Call → Point
  | .prepare => .connectLock .prepare
  | .dial => .dial
  | .retire => .retireLock
  | .shutdown => .shutdown

/-- What the provider's own errors are made of; `freed` is the identity of its signal. -/
structure Http3TunnelSpec where
  host : String
  port : UInt16
  freed : Nat

structure State where
  sessions : List Session
  current : Option Nat
  all : List Nat
  stop : Bool
  streams : List Nat
  callers : List Point

def State.new : State := ⟨[], none, [], false, [], []⟩

inductive Action where
  | call (call : Call)
  | resume (index : Nat) (answer : Answer)
  | drop (index : Nat)
  /-- The connection of a session is closed by the peer, the network or a timeout. -/
  | lose (session : Nat)
  /-- The driver task of a session ends. -/
  | finish (session : Nat)
  | dropStream (index : Nat)

section Calls
variable (spec : Http3TunnelSpec)

def connectError (detail : String) : TunnelError := .http3Connect spec.host spec.port detail

def providerStopped : TunnelError := connectError spec "provider stopped"

def State.lockFree (state : State) : Bool := LockFree Point.holdsLock state.callers

/-- `strong_count` is not zero. -/
def State.alive (state : State) (session : Nat) : Bool :=
  state.current == some session || state.streams.contains session ||
    state.callers.any fun point => point.refs.contains session

def State.usable (state : State) (session : Nat) : Bool :=
  match state.sessions[session]? with
  | some entry => entry.usable
  | none => false

def State.become (state : State) (index : Nat) (point : Point) : State :=
  { state with callers := state.callers.set index point }

def State.change (state : State) (session : Nat) (change : Session → Session) : State :=
  match state.sessions[session]? with
  | some entry => { state with sessions := state.sessions.set session (change entry) }
  | none => state

def Task.resume : Task → Nat → Point
  | .prepare, _ => .ended .prepared
  | .dial, session => .request session

/-- The first section of `session`, without a usable current session: the list loses its
dead entries, and the limit is checked. -/
def State.evict (state : State) (index : Nat) (task : Task) : State :=
  let emptied := { state with current := none }
  let kept := state.all.filter emptied.alive
  if maxSessions ≤ kept.length then
    { emptied with
      all := kept
      callers := state.callers.set index (.ended (.failed (.atCapacity maxSessions spec.freed))) }
  else { emptied with all := kept, callers := state.callers.set index (.connecting task) }

/-- The first section of `session`. -/
def State.check (state : State) (index : Nat) (task : Task) : State :=
  match state.current with
  | some session =>
      if state.usable session then state.become index (task.resume session)
      else state.evict spec index task
  | none => state.evict spec index task

/-- The end of `connect_addresses`: a connected session is pushed unless the provider was stopped. -/
def State.register (state : State) (index : Nat) (task : Task) : State :=
  if state.stop then state.become index (.ended (.failed (providerStopped spec)))
  else { state with
    sessions := state.sessions ++ [.new]
    all := state.all ++ [state.sessions.length]
    current := some state.sessions.length
    callers := state.callers.set index (task.resume state.sessions.length) }

/-- Take every session that is still alive out of the list; both `retire` and
`stop_sessions` do. -/
def State.drainInto (state : State) (index : Nat) (into : List Nat → Point) : State :=
  { state with
    all := []
    current := none
    callers := state.callers.set index (into (state.all.filter state.alive)) }

/-- The rest of `dial` on the session it was given. -/
def State.request (state : State) (index session : Nat) : RequestResult → State
  | .unsent =>
      (state.change session fun entry => { entry with retiring := true }).become index
        (.ended (.failed (connectError spec "HTTP/3 connection cannot open a new stream")))
  | .refused error => state.become index (.ended (.failed error))
  | .accepted =>
      -- `Http3Stream::new` refuses a session that was stopped meanwhile.
      if ((state.sessions[session]?).map Session.stopped).getD true then
        state.become index (.ended (.failed (providerStopped spec)))
      else { state with
        streams := state.streams ++ [session]
        callers := state.callers.set index (.ended .streaming) }

def State.resume (state : State) (index : Nat) : Point → Answer → Outcome State
  | .dial, .proceed => .next (state.become index
      (if state.stop then .ended (.failed (providerStopped spec)) else .permit))
  | .permit, .permitted granted => .next (state.become index
      (if granted then .connectLock .dial else .ended (.failed (providerStopped spec))))
  | .connectLock task, .proceed => .guarded state.lockFree (.next (state.become index (.check task)))
  | .check task, .proceed => .next (state.check spec index task)
  | .connecting task, .connected (.ok ()) => .next (state.become index (.register task))
  | .connecting _, .connected (.error error) => .next (state.become index (.ended (.failed error)))
  | .register task, .proceed => .next (state.register spec index task)
  | .request session, .requested result => .next (state.request spec index session result)
  | .retireLock, .proceed => .guarded state.lockFree (.next (state.become index .drain))
  | .drain, .proceed => .next (state.drainInto index .retiring)
  -- A retire stops one session at a time and waits for it before the next.
  | .retiring (session :: rest), .proceed =>
      .next ((state.change session Session.stop).become index (.idling session rest))
  | .retiring [], .proceed => .next (state.become index (.ended .retired))
  | .idling _ rest, .proceed => .next (state.become index (.retiring rest))
  | .shutdown, .proceed => .next { state with
      stop := true
      callers := state.callers.set index .stopSessions }
  | .stopSessions, .proceed => .next (state.drainInto index fun sessions => .stopping sessions [])
  -- A shutdown stops all of them before it waits for any.
  | .stopping (session :: left) done, .proceed =>
      .next ((state.change session Session.stop).become index (.stopping left (session :: done)))
  | .stopping [] _, .proceed => .next (state.become index .joining)
  | .joining, .proceed => .next (state.become index (.ended .shutDown))
  | _, _ => .blocked

def step (state : State) : Action → Outcome State
  | .call call => .next { state with callers := state.callers ++ [call.start] }
  | .resume index answer =>
      match state.callers[index]? with
      | none => .blocked
      | some point => state.resume spec index point answer
  | .drop index =>
      match state.callers[index]? with
      | none => .blocked
      | some point => .guarded point.isAwait (.next (state.become index (.ended .dropped)))
  | .lose session => .next (state.change session fun entry => { entry with closed := true })
  | .finish session => .next (state.change session fun entry =>
      { entry with driver := if entry.driver = .running then .finished else entry.driver })
  | .dropStream index => .next { state with streams := state.streams.eraseIdx index }

end Calls

end ProxyTunnels.Http3.Sessions
