import Mathlib.Data.List.AList
import ProxyTunnels.Error
import ProxyTunnels.Machine.Run
import ProxyTunnels.Machine.Table
import ProxyTunnels.Socks5.Front

/-! The tunnel registry: one SOCKS5 front per proxy configuration.

`ensure_tunnel_with` and `stop_revision` do all their work under the lock of the entries,
so each is one step. `stop` and `stop_all` only take entries out of the map under the
lock and stop the fronts after letting go of it; such a call is in progress until it has
stopped what it took. An accept loop is a row of a table that remembers what it was
started for; an entry of the map names its row.
-/

set_option autoImplicit false

namespace ProxyTunnels.Registry
open Machine Socks5

/-- `TunnelFront`. The address is on 127.0.0.1. -/
structure TunnelFront where
  port : UInt16
  credentials : Credentials

structure Loop where
  proxyConfigId : String
  revision : String
  front : TunnelFront
  /-- The task ended on its own. -/
  finished : Bool
  /-- `TunnelEntry::stop` was called. -/
  stopped : Bool

/-- `TunnelEntry`; `task` is the row of its accept loop. -/
structure TunnelEntry where
  revision : String
  front : TunnelFront
  task : Nat

/-- A `stop` or `stop_all` call that has yet to stop some of what it took; `target` is
the id a `stop` is about. -/
structure Stop where
  target : Option String
  left : List Nat

/-- `TunnelRegistry`. `built` counts the calls of `make_provider`. -/
structure TunnelRegistry where
  entries : AList fun _ : String => TunnelEntry
  loops : List Loop
  built : Nat
  stops : List Stop

def TunnelRegistry.new : TunnelRegistry := ⟨∅, [], 0, []⟩

inductive Listener where
  | unbound (error : String)
  | unprepared (error : String)
  | unnamed (error : String)
  | bound (port : UInt16)

section Operations
variable (registry : TunnelRegistry)

/-- `TunnelEntry::stop`. -/
def TunnelRegistry.stopLoop (task : Nat) : TunnelRegistry :=
  match registry.loops[task]? with
  | some entry => { registry with loops := registry.loops.set task { entry with stopped := true } }
  | none => registry

/-- `JoinHandle::is_finished`. -/
def TunnelRegistry.isFinished (task : Nat) : Bool :=
  match registry.loops[task]? with
  | some entry => entry.finished
  | none => true

/-- The end of `ensure_tunnel_with`: spawn the accept loop and enter it. -/
def TunnelRegistry.start (proxyConfigId revision : String) (front : TunnelFront) : TunnelRegistry :=
  { registry with
    entries := registry.entries.insert proxyConfigId ⟨revision, front, registry.loops.length⟩
    loops := registry.loops ++ [⟨proxyConfigId, revision, front, false, false⟩] }

/-- `ensure_tunnel_with` from `make_provider` on, the id having no entry any more. -/
def TunnelRegistry.build (proxyConfigId revision : String) (credentials : Credentials)
    (makeProvider : Except TunnelError Unit) (listener : Listener) :
    Except TunnelError TunnelFront × TunnelRegistry :=
  let called := { registry with built := registry.built + 1 }
  match makeProvider with
  | .error error => (.error error, called)
  | .ok () =>
    match listener with
    | .unbound error => (.error (.engine s!"could not bind a loopback tunnel front: {error}"), called)
    | .unprepared error => (.error (.engine s!"could not prepare the tunnel front: {error}"), called)
    | .unnamed error => (.error (.engine s!"could not read the tunnel front address: {error}"), called)
    | .bound port => (.ok ⟨port, credentials⟩, called.start proxyConfigId revision ⟨port, credentials⟩)

def TunnelRegistry.ensureTunnelWith (proxyConfigId revision : String) (credentials : Credentials)
    (makeProvider : Except TunnelError Unit) (listener : Listener) :
    Except TunnelError TunnelFront × TunnelRegistry :=
  match registry.entries.lookup proxyConfigId with
  | some existing =>
      if existing.revision = revision ∧ registry.isFinished existing.task = false then
        (.ok existing.front, registry)
      else
        -- The old front is gone before anything new is tried, also when that then fails.
        TunnelRegistry.build
          (TunnelRegistry.stopLoop { registry with entries := registry.entries.erase proxyConfigId } existing.task)
          proxyConfigId revision credentials makeProvider listener
  | none => registry.build proxyConfigId revision credentials makeProvider listener

def TunnelRegistry.stopRevision (proxyConfigId revision : String) : TunnelRegistry :=
  match registry.entries.lookup proxyConfigId with
  | some existing =>
      if existing.revision = revision then
        TunnelRegistry.stopLoop { registry with entries := registry.entries.erase proxyConfigId } existing.task
      else registry
  | none => registry

/-- The locked half of `stop`. -/
def TunnelRegistry.stop (proxyConfigId : String) : TunnelRegistry :=
  match registry.entries.lookup proxyConfigId with
  | some existing => { registry with
      entries := registry.entries.erase proxyConfigId
      stops := registry.stops ++ [⟨some proxyConfigId, [existing.task]⟩] }
  | none => registry

/-- The locked half of `stop_all`. -/
def TunnelRegistry.stopAll : TunnelRegistry :=
  { registry with
    entries := ∅
    stops := registry.stops ++ [⟨none, registry.entries.entries.map fun entry => entry.2.task⟩] }

end Operations

inductive Action where
  | ensure (proxyConfigId revision : String) (credentials : Credentials)
      (makeProvider : Except TunnelError Unit) (listener : Listener)
  | stopRevision (proxyConfigId revision : String)
  | stop (proxyConfigId : String)
  | stopAll
  /-- A call in progress stops one of the fronts it took, in any order. -/
  | stopTaken (call task : Nat)
  /-- An accept loop ends on its own. -/
  | finish (task : Nat)

def step (registry : TunnelRegistry) : Action → Outcome TunnelRegistry
  | .ensure proxyConfigId revision credentials makeProvider listener =>
      .next (registry.ensureTunnelWith proxyConfigId revision credentials makeProvider listener).2
  | .stopRevision proxyConfigId revision => .next (registry.stopRevision proxyConfigId revision)
  | .stop proxyConfigId => .next (registry.stop proxyConfigId)
  | .stopAll => .next registry.stopAll
  | .stopTaken call task =>
      match registry.stops[call]? with
      | some taken => .guarded (taken.left.contains task) (.next (TunnelRegistry.stopLoop { registry with
          stops := registry.stops.set call { taken with left := taken.left.erase task } } task))
      | none => .blocked
  | .finish task =>
      match registry.loops[task]? with
      | some entry => .next { registry with loops := registry.loops.set task { entry with finished := true } }
      | none => .blocked

end ProxyTunnels.Registry
