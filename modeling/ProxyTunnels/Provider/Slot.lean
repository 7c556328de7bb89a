import ProxyTunnels.Error
import ProxyTunnels.Machine.Lock
import ProxyTunnels.Machine.Run

/-! The slot a WireGuard or SSH provider keeps its one tunnel in.

Both providers guard the slot with an async mutex and a flag that closes them for good;
`tunnel`, `replace_tunnel` and `retire` are `session`, `replace_session` and `retire`
of the SSH provider, which never asks a session whether it is alive and never looks at
the age of a handshake. A caller is a future: it is parked at one of its awaits, what
that await returns is an action, and it may be dropped there instead. A tunnel is named
by the order in which tunnels were installed, which is what comparing the pointers of
two tunnels that are both still held amounts to.
-/

set_option autoImplicit false

namespace ProxyTunnels.Provider
open Machine

/-- Where the two providers differ. -/
structure Family where
  /-- `tunnel` asks the tunnel it finds whether it is alive. -/
  checksAlive : Bool
  /-- `dial` does not replace a tunnel whose peer shook hands recently. -/
  checksHandshake : Bool

def wireguard : Family := ⟨true, true⟩

def ssh : Family := ⟨false, false⟩

inductive Task where
  | prepare
  | dial
  | redial
  deriving DecidableEq, Repr

inductive Ending where
  | prepared
  | dialled
  | failed (error : TunnelError)
  | retired
  | shutDown
  | dropped
  deriving DecidableEq, Repr

inductive Point where
  | tunnel (task : Task)
  | replaceTunnel (stale : Nat)
  | isAlive (task : Task) (existing : Nat)
  | bringUp (task : Task)
  | dialOn (tunnel : Nat) (first : Bool)
  | lastHandshakeAge (tunnel : Nat) (first : TunnelError)
  | shutdown
  | retire (closing : Bool)
  | stopping (closing : Bool)
  | ended (ending : Ending)
  deriving DecidableEq, Repr

def Point.holdsLock : Point → Bool
  | .isAlive _ _ => true
  | .bringUp _ => true
  | .stopping _ => true
  | _ => false

/-- `DialFailure` and `ChannelFailure`, next to success. -/
inductive DialResult where
  | connected
  | destination (error : TunnelError)
  | tunnel (error : TunnelError)
  deriving DecidableEq, Repr

inductive Answer where
  | proceed
  | alive (alive : Bool)
  | broughtUp (result : Except TunnelError Unit)
  | dialled (result : DialResult)
  | recentHandshake (recent : Bool)

inductive Call where
  | prepare
  | dial
  | retire
  | shutdown
  deriving DecidableEq, Repr

def Call.start : Call → Point
  | .prepare => .tunnel .prepare
  | .dial => .tunnel .dial
  | .retire => .retire false
  | .shutdown => .shutdown

/-- A provider and its callers. `installed` counts the tunnels that were put into the
slot, `bringUps` the bring-ups that were begun. -/
structure State where
  slot : Option Nat
  closed : Bool
  installed : Nat
  bringUps : Nat
  callers : List Point

def State.new : State := ⟨none, false, 0, 0, []⟩

inductive Action where
  | call (call : Call)
  | resume (index : Nat) (answer : Answer)
  | drop (index : Nat)

section Callers
variable (family : Family)

def providerStopped : TunnelError := .engine "tunnel provider stopped"

def State.lockFree (state : State) : Bool := LockFree Point.holdsLock state.callers

def State.become (state : State) (index : Nat) (point : Point) : State :=
  { state with callers := state.callers.set index point }

def Task.resume : Task → Nat → Point
  | .prepare, _ => .ended .prepared
  | .dial, tunnel => .dialOn tunnel true
  | .redial, tunnel => .dialOn tunnel false

def State.startBringUp (state : State) (index : Nat) (task : Task) : State :=
  { state with
    slot := none
    bringUps := state.bringUps + 1
    callers := state.callers.set index (.bringUp task) }

/-- `tunnel` and `session`, from taking the lock to the next await. -/
def State.tunnel (state : State) (index : Nat) (task : Task) : State :=
  if state.closed then state.become index (.ended (.failed providerStopped))
  else
    match state.slot with
    | some existing =>
        if family.checksAlive then state.become index (.isAlive task existing)
        else state.become index (task.resume existing)
    | none => state.startBringUp index task

/-- `replace_tunnel` and `replace_session`, from taking the lock to the next await. -/
def State.replaceTunnel (state : State) (index : Nat) (stale : Nat) : State :=
  if state.closed then state.become index (.ended (.failed providerStopped))
  else
    match state.slot with
    | some current =>
        -- Another dial already rebuilt it: use theirs.
        if current ≠ stale then state.become index (Task.redial.resume current)
        else state.startBringUp index .redial
    | none => state.startBringUp index .redial

def retired (closing : Bool) : Point := .ended (if closing then .shutDown else .retired)

/-- `retire`: the guard lives as long as the tunnel it yields is being stopped. -/
def State.retire (state : State) (index : Nat) (closing : Bool) : State :=
  match state.slot with
  | some _ => { state with slot := none, callers := state.callers.set index (.stopping closing) }
  | none => state.become index (retired closing)

def State.resume (state : State) (index : Nat) : Point → Answer → Outcome State
  | .tunnel task, .proceed => .guarded state.lockFree (.next (state.tunnel family index task))
  | .replaceTunnel stale, .proceed => .guarded state.lockFree (.next (state.replaceTunnel index stale))
  | .isAlive task existing, .alive true => .next (state.become index (task.resume existing))
  -- The lock is kept from the question to the end of the bring-up.
  | .isAlive task _, .alive false => .next (state.startBringUp index task)
  | .bringUp task, .broughtUp (.ok ()) => .next { state with
      slot := some state.installed
      installed := state.installed + 1
      callers := state.callers.set index (task.resume state.installed) }
  | .bringUp _, .broughtUp (.error error) => .next (state.become index (.ended (.failed error)))
  | .dialOn _ _, .dialled .connected => .next (state.become index (.ended .dialled))
  | .dialOn _ _, .dialled (.destination error) => .next (state.become index (.ended (.failed error)))
  | .dialOn tunnel true, .dialled (.tunnel error) =>
      .next (state.become index (if family.checksHandshake then .lastHandshakeAge tunnel error
        else .replaceTunnel tunnel))
  -- A dial reconnects once: what goes wrong on the second tunnel is its result.
  | .dialOn _ false, .dialled (.tunnel error) => .next (state.become index (.ended (.failed error)))
  -- A peer that shook hands moments ago is up, so the silence is the destination's.
  | .lastHandshakeAge _ first, .recentHandshake true => .next (state.become index (.ended (.failed first)))
  | .lastHandshakeAge tunnel _, .recentHandshake false => .next (state.become index (.replaceTunnel tunnel))
  | .shutdown, .proceed => .next { state with
      closed := true
      callers := state.callers.set index (.retire true) }
  | .retire closing, .proceed => .guarded state.lockFree (.next (state.retire index closing))
  | .stopping closing, .proceed => .next (state.become index (retired closing))
  | _, _ => .blocked

/-- A future that is dropped at its await lets go of the lock, and of nothing else. -/
def State.dropAt (state : State) (index : Nat) : Point → Outcome State
  | .ended _ => .blocked
  | _ => .next (state.become index (.ended .dropped))

def step (state : State) : Action → Outcome State
  | .call call => .next { state with callers := state.callers ++ [call.start] }
  | .resume index answer =>
      match state.callers[index]? with
      | none => .blocked
      | some point => state.resume family index point answer
  | .drop index =>
      match state.callers[index]? with
      | none => .blocked
      | some point => state.dropAt index point

end Callers

end ProxyTunnels.Provider
