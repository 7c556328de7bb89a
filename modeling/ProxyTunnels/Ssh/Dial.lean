import ProxyTunnels.Machine.Lock
import ProxyTunnels.Machine.Run
import ProxyTunnels.Net.Text
import ProxyTunnels.Ssh.HostKey

/-! Dials on one SSH provider: the cached session, its replacement, and the channels.

Any number of dials and `prepare` calls share the session slot; the one that holds the
slot's lock may be inside `connect`. A connection's session task runs on its own: russh has
the server's key checked in the first key exchange, and no other, and the task ends when the
key is rejected or the connection is lost. What the observer, the network and the server
answer is part of the action. The log keeps what the dials are judged by.
-/

set_option autoImplicit false

namespace ProxyTunnels.Ssh.Dialing
open Machine

/-- The parts of `TunnelSpec` that `connect` reads. -/
structure Settings where
  spec : Spec
  username : String
  privateKeyPem : String
  /-- `decode_ed25519_private_key`, with the configured passphrase. -/
  decode : String → Except TunnelError Unit

/-- The session task behind a handle. -/
inductive Link where
  | handshaking
  | running
  | ended (error : TunnelError)
  deriving DecidableEq, Repr

inductive Round where
  | first
  | again
  deriving DecidableEq, Repr

inductive Call where
  | prepare
  | dial (host : String) (port : UInt16)
  deriving DecidableEq, Repr

inductive Point where
  | session
  | handshake (round : Round) (connection : Nat)
  | authenticating (round : Round) (connection : Nat)
  | authorizingSession (round : Round) (connection : Nat)
  | authorizingChannel (round : Round) (connection : Nat)
  | opening (round : Round) (connection : Nat)
  | replacing (stale : Nat)
  | ended (result : Except TunnelError Unit)
  | dropped

/-- The calls inside `connect` hold the session slot's lock. -/
def Point.holdsLock : Point → Bool
  | .handshake _ _ => true
  | .authenticating _ _ => true
  | .authorizingSession _ _ => true
  | _ => false

def Point.isAwait : Point → Bool
  | .session => true
  | .handshake _ _ => true
  | .authenticating _ _ => true
  | .opening _ _ => true
  | .replacing _ => true
  | _ => false

structure Caller where
  call : Call
  point : Point

inductive Event where
  | rejected (connection : Nat) (error : TunnelError)
  | pinned (fingerprint : String)
  | opened (caller : Nat)
  deriving DecidableEq, Repr

structure State where
  hostKey : HostKeyState
  links : List Link
  /-- The session slot. -/
  session : Option Nat
  closed : Bool
  callers : List Caller
  log : List Event

/-- `SshTunnelProvider::new`. -/
def State.new : State := ⟨.default, [], none, false, [], []⟩

/-- What `authenticate_publickey` returns. -/
inductive Authentication where
  | accepted
  | refused
  | failed (detail : String)
  deriving DecidableEq, Repr

/-- What `channel_open_direct_tcpip` returns within `request_timeout`. -/
inductive ChannelAnswer where
  | opened
  /-- `ChannelOpenFailure`. -/
  | refused (reason : String)
  | failed (detail : String)
  | timedOut
  deriving DecidableEq, Repr

def ChannelAnswer.fromServer : ChannelAnswer → Bool
  | .opened => true
  | .refused _ => true
  | _ => false

inductive Answer where
  | proceed
  | timedOut
  | authenticated (result : Authentication)
  | authorized (verdict : Except TunnelError Unit)
  | channel (answer : ChannelAnswer)

inductive Action (Key : Type) where
  | call (call : Call)
  | resume (index : Nat) (answer : Answer)
  | drop (index : Nat)
  | present (connection : Nat) (key : Key)
  | lose (connection : Nat) (error : TunnelError)
  | retire
  | shutdown

inductive ChannelFailure where
  | destination (error : TunnelError)
  | session (error : TunnelError)
  deriving DecidableEq, Repr

/-- The match at the end of `open_channel`. -/
def openedChannel (host : String) (port : UInt16) : ChannelAnswer → Except ChannelFailure Unit
  | .opened => .ok ()
  | .refused reason => .error (.destination (.dial host port reason))
  | .failed detail => .error (.session (.dial host port detail))
  | .timedOut => .error (.session (.dial host port "the tunnel did not open a channel in time"))

def authorizeHostKey (hostKey : HostKeyState) (verdict : Except TunnelError Unit) : Except TunnelError Unit :=
  match fingerprintToAuthorize hostKey with
  | .error error => .error error
  | .ok _ => verdict

def Call.withSession : Call → Round → Nat → Point
  | .prepare, _, _ => .ended (.ok ())
  | .dial _ _, round, connection => .authorizingChannel round connection

section Provider
variable (settings : Settings)

/-- The first lines of `connect`. -/
def privateKey : Except TunnelError Unit :=
  if (Net.trim settings.privateKeyPem).isEmpty then
    .error (.configuration ("SSH tunnels require an Ed25519 private key; " ++
      "password authentication is no longer supported"))
  else settings.decode settings.privateKeyPem

def connectError (detail : String) : TunnelError := .connect settings.spec.host settings.spec.port detail

/-- How `connect` passes on a failed handshake: a host-key mismatch keeps its identity. -/
def handshakeFailure (error : TunnelError) : TunnelError :=
  match error with
  | .hostKeyMismatch _ _ _ _ => error
  | other => connectError settings other.display

def Authentication.failure : Authentication → Option String
  | .accepted => none
  | .refused => some "the server rejected the private key"
  | .failed detail => some (if detail.isEmpty then "no configured credential was accepted" else detail)

def State.lockFree (state : State) : Bool := LockFree (fun caller => caller.point.holdsLock) state.callers

def State.become (state : State) (index : Nat) (call : Call) (point : Point) : State :=
  { state with callers := state.callers.set index ⟨call, point⟩ }

def State.fail (state : State) (index : Nat) (call : Call) (error : TunnelError) : State :=
  state.become index call (.ended (.error error))

/-- `connect` starts. -/
def State.connect (state : State) (index : Nat) (call : Call) (round : Round) : State :=
  match privateKey settings with
  | .error error => state.fail index call error
  | .ok () => { state with
      links := state.links ++ [.handshaking]
      callers := state.callers.set index ⟨call, .handshake round state.links.length⟩ }

def providerStopped : TunnelError := .engine "tunnel provider stopped"

/-- `session`, once it has the lock. -/
def State.enterSession (state : State) (index : Nat) (call : Call) : State :=
  if state.closed then state.fail index call providerStopped
  else match state.session with
    | some existing => state.become index call (call.withSession .first existing)
    | none => state.connect settings index call .first

/-- `replace_session`, once it has the lock. -/
def State.enterReplace (state : State) (index : Nat) (call : Call) (stale : Nat) : State :=
  if state.closed then state.fail index call providerStopped
  else match state.session with
    | some current =>
        -- Another dial may have reconnected already.
        if current ≠ stale then state.become index call (call.withSession .again current)
        else { state with session := none }.connect settings index call .again
    | none => state.connect settings index call .again

/-- The handshake of `connect` returns. -/
def State.shakeHands (state : State) (index : Nat) (call : Call) (round : Round) (connection : Nat) :
    Outcome State :=
  match state.links[connection]? with
  | some .running => .next (state.become index call (.authenticating round connection))
  | some (.ended error) => .next (state.fail index call (handshakeFailure settings error))
  | _ => .blocked

def State.authenticate (state : State) (index : Nat) (call : Call) (round : Round) (connection : Nat)
    (result : Authentication) : State :=
  match result.failure with
  | some detail => state.fail index call
      (.auth settings.username settings.spec.host settings.spec.port detail)
  | none => state.become index call (.authorizingSession round connection)

/-- The end of `connect`, and the slot is filled. -/
def State.settle (state : State) (index : Nat) (call : Call) (round : Round) (connection : Nat)
    (verdict : Except TunnelError Unit) : State :=
  match authorizeHostKey state.hostKey verdict with
  | .error error => state.fail index call error
  | .ok () => { state with
      hostKey := (takePin state.hostKey).1
      session := some connection
      callers := state.callers.set index ⟨call, call.withSession round connection⟩
      log := state.log ++ (takePin state.hostKey).2.toList.map .pinned }

/-- The start of `open_channel`. -/
def State.authorizeChannel (state : State) (index : Nat) (call : Call) (round : Round) (connection : Nat)
    (verdict : Except TunnelError Unit) : State :=
  match authorizeHostKey state.hostKey verdict with
  | .error error => state.fail index call error
  | .ok () => state.become index call (.opening round connection)

/-- `dial` goes on from what `open_channel` returned: it reconnects once, and only for a session that
looks dead. -/
def State.finishOpen (state : State) (index : Nat) (call : Call) (connection : Nat) :
    Round → Except ChannelFailure Unit → State
  | _, .ok () => { state with
      callers := state.callers.set index ⟨call, .ended (.ok ())⟩
      log := state.log ++ [.opened index] }
  | _, .error (.destination error) => state.fail index call error
  | .first, .error (.session _) => state.become index call (.replacing connection)
  | .again, .error (.session error) => state.fail index call error

def State.openChannel (state : State) (index : Nat) (call : Call) (round : Round) (connection : Nat)
    (answer : ChannelAnswer) : Outcome State :=
  match call with
  | .prepare => .blocked
  | .dial host port =>
      .guarded (!answer.fromServer || state.links[connection]? == some .running)
        (.next (state.finishOpen index call connection round (openedChannel host port answer)))

def State.resume (state : State) (index : Nat) (call : Call) : Point → Answer → Outcome State
  | .session, .proceed => .guarded state.lockFree (.next (state.enterSession settings index call))
  | .replacing stale, .proceed =>
      .guarded state.lockFree (.next (state.enterReplace settings index call stale))
  | .handshake round connection, .proceed => state.shakeHands settings index call round connection
  | .handshake _ _, .timedOut => .next (state.fail index call
      (connectError settings "the server did not complete the handshake in time"))
  | .authenticating round connection, .authenticated result =>
      .next (state.authenticate settings index call round connection result)
  | .authorizingSession round connection, .authorized verdict =>
      .next (state.settle index call round connection verdict)
  | .authorizingChannel round connection, .authorized verdict =>
      .next (state.authorizeChannel index call round connection verdict)
  | .opening round connection, .channel answer => state.openChannel index call round connection answer
  | _, _ => .blocked

def State.present (state : State) (connection : Nat) (actual : String) : State :=
  match checkServerKey settings.spec state.hostKey actual with
  | (_, .error error) => { state with
      links := state.links.set connection (.ended error)
      log := state.log ++ [.rejected connection error] }
  | (hostKey, .ok _) => { state with hostKey, links := state.links.set connection .running }

variable {Key : Type} (hostKeyFingerprint : Key → String)

def step (state : State) : Action Key → Outcome State
  | .call call => .next { state with callers := state.callers ++ [⟨call, .session⟩] }
  | .resume index answer =>
      match state.callers[index]? with
      | some caller => state.resume settings index caller.call caller.point answer
      | none => .blocked
  | .drop index =>
      match state.callers[index]? with
      | some caller => .guarded caller.point.isAwait (.next (state.become index caller.call .dropped))
      | none => .blocked
  | .present connection key =>
      match state.links[connection]? with
      | some .handshaking => .next (state.present settings connection (hostKeyFingerprint key))
      | _ => .blocked
  | .lose connection error =>
      match state.links[connection]? with
      | none => .blocked
      | some (.ended _) => .blocked
      | some _ => .next { state with links := state.links.set connection (.ended error) }
  | .retire => .guarded state.lockFree (.next { state with session := none })
  | .shutdown => .next { state with closed := true }

end Provider

end ProxyTunnels.Ssh.Dialing
