import ProxyTunnels.Machine.Run
import ProxyTunnels.Machine.Table
import ProxyTunnels.Net.Address

/-! The connection budgets of the SOCKS5 fronts.

A connection is admitted with a permit of its front's semaphore and then one of the registry's,
which all fronts share; its task owns both. Each taking and each giving back of a permit is a
step of its own, so loops and tasks of all fronts interleave in any order. A front's loop ends
when it is told to, aborted, or out of a listener; its `JoinSet` then aborts the tasks, which
keep their permits until the runtime drops them.
-/

set_option autoImplicit false

namespace ProxyTunnels.Socks5.Admission
open Machine

def maxFrontConnections : Nat := 256

def maxRegistryConnections : Nat := 1024

/-- `IpAddr::is_loopback`. -/
def isLoopback : Net.IpAddr → Bool
  | .v4 octets => octets.toList.head? = some 127
  | .v6 octets => octets.toList = [0, 0, 0, 0, 0, 0, 0, 0, 0, 0, 0, 0, 0, 0, 0, 1]

def peerIsPermitted (peer : Net.IpAddr) : Bool := isLoopback peer

inductive Loop where
  | accepting
  | acquireLocal
  | acquireGlobal
  | spawn
  | ended
  deriving DecidableEq, Repr

/-- A connection's task. Its slots are dropped one after the other, the front's first. -/
inductive Connection where
  | running
  | aborted
  | dropping
  | gone
  deriving DecidableEq, Repr

structure Front where
  available : Nat
  loop : Loop
  /-- `TunnelEntry::stop` was called. -/
  stopped : Bool
  connections : List Connection
  deriving DecidableEq, Repr

def Front.new : Front := ⟨maxFrontConnections, .accepting, false, []⟩

structure Registry where
  available : Nat
  fronts : List Front

def Registry.new : Registry := ⟨maxRegistryConnections, []⟩

inductive Reason where
  | shutdown
  | aborted
  | acceptFailed
  deriving DecidableEq, Repr

inductive Action where
  | start
  | accept (front : Nat) (peer : Net.IpAddr)
  /-- The loop of a front goes on to its next step. -/
  | advance (front : Nat)
  /-- A connection's task returns, fails, times out or is dropped after an abort. -/
  | finish (front connection : Nat)
  | release (front connection : Nat)
  | stop (front : Nat)
  | leave (front : Nat) (reason : Reason)
  deriving DecidableEq, Repr

def Connection.abort : Connection → Connection
  | .running => .aborted
  | connection => connection

section Steps
variable (registry : Registry)

def Registry.become (index : Nat) (front : Front) : Registry :=
  { registry with fronts := registry.fronts.set index front }

/-- The way from an accepted connection to its task. A permit that cannot be had ends it, and
the one already taken goes back. -/
def Registry.advance (index : Nat) (front : Front) : Outcome Registry :=
  match front.loop with
  | .acquireLocal =>
      if front.available = 0 then .next (registry.become index { front with loop := .accepting })
      else .next (registry.become index { front with available := front.available - 1, loop := .acquireGlobal })
  | .acquireGlobal =>
      if registry.available = 0 then
        .next (registry.become index { front with available := front.available + 1, loop := .accepting })
      else
        .next { registry.become index { front with loop := .spawn } with available := registry.available - 1 }
  | .spawn =>
      .next (registry.become index
        { front with loop := .accepting, connections := front.connections ++ [.running] })
  | .accepting | .ended => .blocked

def Registry.finish (index : Nat) (front : Front) (place : Nat) : Outcome Registry :=
  match front.connections[place]? with
  | some .running | some .aborted =>
      .next (registry.become index
        { front with available := front.available + 1, connections := front.connections.set place .dropping })
  | _ => .blocked

def Registry.release (index : Nat) (front : Front) (place : Nat) : Outcome Registry :=
  match front.connections[place]? with
  | some .dropping =>
      .next { registry.become index { front with connections := front.connections.set place .gone } with
        available := registry.available + 1 }
  | _ => .blocked

def Registry.leave (index : Nat) (front : Front) (reason : Reason) : Outcome Registry :=
  .guarded (front.loop = .accepting && (front.stopped || reason = .acceptFailed))
    (.next (registry.become index
      { front with loop := .ended, connections := front.connections.map Connection.abort }))

def Registry.onFront (index : Nat) (act : Front → Outcome Registry) : Outcome Registry :=
  match registry.fronts[index]? with
  | none => .blocked
  | some front => act front

def Registry.step : Action → Outcome Registry
  | .start => .next { registry with fronts := registry.fronts ++ [.new] }
  | .accept index peer => registry.onFront index fun front =>
      .guarded (front.loop = .accepting) (.next (registry.become index
        (if peerIsPermitted peer then { front with loop := .acquireLocal } else front)))
  | .advance index => registry.onFront index (registry.advance index)
  | .finish index place => registry.onFront index fun front => registry.finish index front place
  | .release index place => registry.onFront index fun front => registry.release index front place
  | .stop index => registry.onFront index fun front =>
      .next (registry.become index { front with stopped := true })
  | .leave index reason => registry.onFront index fun front => registry.leave index front reason

end Steps

def Connection.live : Connection → Nat
  | .running | .aborted => 1
  | .dropping | .gone => 0

def Connection.holdsGlobal : Connection → Nat
  | .running | .aborted | .dropping => 1
  | .gone => 0

def Loop.holdsLocal : Loop → Nat
  | .acquireGlobal | .spawn => 1
  | _ => 0

def Loop.holdsGlobal : Loop → Nat
  | .spawn => 1
  | _ => 0

def Front.live (front : Front) : Nat := total Connection.live front.connections

def Front.holdsGlobal (front : Front) : Nat :=
  front.loop.holdsGlobal + total Connection.holdsGlobal front.connections

structure Front.Balanced (front : Front) : Prop where
  permits : front.available + front.loop.holdsLocal + front.live = maxFrontConnections
  ended : front.loop = .ended → ∀ connection ∈ front.connections, connection ≠ .running

structure Balanced (registry : Registry) : Prop where
  fronts : ∀ front ∈ registry.fronts, front.Balanced
  permits : registry.available + total Front.holdsGlobal registry.fronts = maxRegistryConnections

theorem balanced_new : Balanced .new := ⟨nofun, rfl⟩

section Invariant
variable {registry next : Registry} {index : Nat} {front new : Front}

theorem Balanced.become (balanced : Balanced registry) (found : registry.fronts[index]? = some front)
    (fronts : next.fronts = registry.fronts.set index new) (after : new.Balanced)
    (moved : next.available + new.holdsGlobal = registry.available + front.holdsGlobal) : Balanced next where
  fronts other member := by
    rw [fronts] at member
    rcases List.mem_or_eq_of_mem_set member with before | rfl
    · exact balanced.fronts other before
    · exact after
  permits := by
    have exchanged := total_set Front.holdsGlobal found new
    have before := balanced.permits
    rw [fronts]
    omega

theorem Front.Balanced.goTo (balanced : front.Balanced) {available : Nat} {loop : Loop} (onward : loop ≠ .ended)
    (moved : available + loop.holdsLocal = front.available + front.loop.holdsLocal) :
    Front.Balanced { front with available, loop } := by
  refine ⟨?_, fun ended => absurd ended onward⟩
  have before := balanced.permits
  change available + loop.holdsLocal + front.live = _
  omega

theorem balanced_advance (balanced : Balanced registry) (found : registry.fronts[index]? = some front) :
    (registry.advance index front).Ensures Balanced := by
  have here := balanced.fronts front (List.mem_of_getElem? found)
  unfold Registry.advance
  cases point : front.loop with
  | accepting => exact trivial
  | ended => exact trivial
  | acquireLocal =>
    dsimp only
    split
    · refine balanced.become found rfl (here.goTo nofun ?_) ?_
      · rw [point]
        rfl
      · simp [Front.holdsGlobal, point, Loop.holdsGlobal, Registry.become]
    · next left =>
      refine balanced.become found rfl (here.goTo nofun ?_) ?_
      · simp only [point, Loop.holdsLocal]
        omega
      · simp [Front.holdsGlobal, point, Loop.holdsGlobal, Registry.become]
  | acquireGlobal =>
    dsimp only
    split
    · refine balanced.become found rfl (here.goTo nofun ?_) ?_
      · rw [point]
        rfl
      · simp [Front.holdsGlobal, point, Loop.holdsGlobal, Registry.become]
    · next left =>
      refine balanced.become found rfl (here.goTo nofun ?_) ?_
      · rw [point]
        rfl
      · simp only [Front.holdsGlobal, point, Loop.holdsGlobal]
        omega
  | spawn =>
    refine balanced.become found rfl ⟨?_, nofun⟩ ?_
    · have permits := here.permits
      simp only [Front.live, point, Loop.holdsLocal, total_append, total_cons, total_nil, Connection.live] at permits ⊢
      omega
    · simp only [Front.holdsGlobal, point, Loop.holdsGlobal, total_append, total_cons, total_nil,
        Connection.holdsGlobal, Registry.become]
      omega

theorem Front.Balanced.drop (balanced : front.Balanced) {place : Nat} {connection : Connection}
    (found : front.connections[place]? = some connection) (later : Connection) (still : later ≠ .running)
    {available : Nat} (moved : available + later.live = front.available + connection.live) :
    Front.Balanced { front with available, connections := front.connections.set place later } := by
  constructor
  · have exchanged := total_set Connection.live found later
    have before := balanced.permits
    simp only [Front.live] at before ⊢
    omega
  · intro ended other member
    rcases List.mem_or_eq_of_mem_set member with before | rfl
    · exact balanced.ended ended other before
    · exact still

theorem balanced_finish (balanced : Balanced registry) (found : registry.fronts[index]? = some front)
    (place : Nat) : (registry.finish index front place).Ensures Balanced := by
  have here := balanced.fronts front (List.mem_of_getElem? found)
  have drops : ∀ connection, front.connections[place]? = some connection → connection.live = 1 →
      connection.holdsGlobal = 1 → Balanced (registry.become index { front with
        available := front.available + 1, connections := front.connections.set place .dropping }) := by
    intro connection there live holds
    have exchanged := total_set Connection.holdsGlobal there .dropping
    refine balanced.become found rfl (here.drop there .dropping nofun (by rw [live]; rfl)) ?_
    simp only [Front.holdsGlobal, Registry.become]
    rw [holds] at exchanged
    change _ = _ + 1 at exchanged
    omega
  unfold Registry.finish
  split
  · next there => exact drops _ there rfl rfl
  · next there => exact drops _ there rfl rfl
  · exact trivial

theorem balanced_release (balanced : Balanced registry) (found : registry.fronts[index]? = some front)
    (place : Nat) : (registry.release index front place).Ensures Balanced := by
  have here := balanced.fronts front (List.mem_of_getElem? found)
  unfold Registry.release
  split
  · next there =>
    have exchanged := total_set Connection.holdsGlobal there .gone
    refine balanced.become found rfl (here.drop there .gone nofun rfl) ?_
    simp only [Front.holdsGlobal, Connection.holdsGlobal] at exchanged ⊢
    omega
  · exact trivial

theorem total_map_abort {weight : Connection → Nat} (same : ∀ connection, weight connection.abort = weight connection)
    (connections : List Connection) :
    total weight (connections.map Connection.abort) = total weight connections := by
  induction connections with
  | nil => rfl
  | cons head rest ih => rw [List.map_cons, total_cons, total_cons, same, ih]

theorem Connection.abort_ne_running (connection : Connection) : connection.abort ≠ .running := by
  cases connection <;> exact nofun

theorem balanced_leave (balanced : Balanced registry) (found : registry.fronts[index]? = some front)
    (reason : Reason) : (registry.leave index front reason).Ensures Balanced := by
  have here := balanced.fronts front (List.mem_of_getElem? found)
  refine Outcome.ensures_guarded fun allowed => ?_
  have awaiting : front.loop = .accepting := of_decide_eq_true (Bool.and_eq_true_iff.mp allowed).1
  refine balanced.become found rfl ⟨?_, ?_⟩ ?_
  · have permits := here.permits
    rw [awaiting] at permits
    unfold Front.live at permits ⊢
    rw [total_map_abort fun connection => by cases connection <;> rfl]
    exact permits
  · intro _ connection member
    obtain ⟨before, -, rfl⟩ := List.mem_map.mp member
    exact before.abort_ne_running
  · unfold Front.holdsGlobal
    rw [awaiting, total_map_abort fun connection => by cases connection <;> rfl]
    rfl

theorem ensures_onFront {act : Front → Outcome Registry} {post : Registry → Prop}
    (each : ∀ front, registry.fronts[index]? = some front → (act front).Ensures post) :
    (registry.onFront index act).Ensures post := by
  unfold Registry.onFront
  split
  · exact trivial
  · next front found => exact each front found

theorem balanced_step (balanced : Balanced registry) (action : Action) :
    (registry.step action).Ensures Balanced := by
  cases action with
  | start =>
    constructor
    · intro front member
      rcases List.mem_append.mp member with before | added
      · exact balanced.fronts front before
      · rw [List.mem_singleton.mp added]
        exact ⟨rfl, nofun⟩
    · have permits := balanced.permits
      simpa [Front.holdsGlobal, Front.new, Loop.holdsGlobal] using permits
  | accept index peer =>
    refine ensures_onFront fun front found => Outcome.ensures_guarded fun allowed => ?_
    have here := balanced.fronts front (List.mem_of_getElem? found)
    have awaiting : front.loop = .accepting := of_decide_eq_true allowed
    refine balanced.become found rfl ?_ ?_
    · split
      · refine here.goTo nofun ?_
        rw [awaiting]
        rfl
      · exact here
    · split
      · simp [Front.holdsGlobal, awaiting, Loop.holdsGlobal, Registry.become]
      · rfl
  | advance index => exact ensures_onFront fun front found => balanced_advance balanced found
  | finish index place => exact ensures_onFront fun front found => balanced_finish balanced found place
  | release index place => exact ensures_onFront fun front found => balanced_release balanced found place
  | stop index =>
    refine ensures_onFront fun front found => ?_
    have here := balanced.fronts front (List.mem_of_getElem? found)
    exact balanced.become found rfl ⟨here.permits, here.ended⟩ rfl
  | leave index reason => exact ensures_onFront fun front found => balanced_leave balanced found reason

theorem balanced_of_reachable (reached : Reachable Registry.step (· = Registry.new) registry) :
    Balanced registry := by
  refine reached.invariant ?_ ?_
  · rintro _ rfl
    exact balanced_new
  · intro registry action next balanced taken
    exact (balanced_step balanced action).of_next taken

end Invariant

section Draining
variable {registry : Registry} {index : Nat} {front : Front}

def Connection.left : Connection → Nat
  | .running | .aborted => 2
  | .dropping => 1
  | .gone => 0

theorem exists_of_left {connections : List Connection} (some : 0 < total Connection.left connections) :
    ∃ (place : Nat) (connection : Connection), connections[place]? = .some connection ∧ connection ≠ .gone := by
  by_contra none
  refine Nat.ne_of_gt some (total_eq_zero fun connection member => ?_)
  obtain ⟨place, found⟩ := List.mem_iff_getElem?.mp member
  have gone : connection = .gone := by
    by_contra other
    exact none ⟨place, connection, found, other⟩
  rw [gone]
  rfl

theorem Connection.bounds (connection : Connection) :
    connection.live ≤ connection.left ∧ connection.holdsGlobal ≤ connection.left := by
  cases connection <;> decide

theorem total_le_left {weight : Connection → Nat} (below : ∀ connection, weight connection ≤ connection.left)
    (connections : List Connection) : total weight connections ≤ total Connection.left connections := by
  induction connections with
  | nil => exact Nat.le_refl 0
  | cons head rest ih =>
    have here := below head
    rw [total_cons, total_cons]
    omega

theorem drop_step (found : registry.fronts[index]? = some front) (balanced : front.Balanced)
    (ended : front.loop = .ended) (some : 0 < total Connection.left front.connections) :
    ∃ (action : Action) (next : Registry) (after : Front), registry.step action = .next next ∧
      (∃ place, action = .finish index place ∨ action = .release index place) ∧
      next.fronts[index]? = .some after ∧ after.loop = .ended ∧
      total Connection.left after.connections + 1 = total Connection.left front.connections ∧
      next.available + total Connection.holdsGlobal after.connections =
        registry.available + total Connection.holdsGlobal front.connections := by
  obtain ⟨place, connection, there, unreleased⟩ := exists_of_left some
  cases connection with
  | running => exact absurd rfl (balanced.ended ended _ (List.mem_of_getElem? there))
  | gone => exact absurd rfl unreleased
  | aborted =>
    have steps := total_set Connection.left there .dropping
    have holds := total_set Connection.holdsGlobal there .dropping
    simp only [Connection.left, Connection.holdsGlobal] at steps holds
    refine ⟨.finish index place, registry.become index { front with
      available := front.available + 1, connections := front.connections.set place .dropping }, _, ?_,
      ⟨place, .inl rfl⟩, getElem?_set_found found, ended, by dsimp only; omega,
      by simp only [Registry.become]; omega⟩
    simp [Registry.step, Registry.onFront, found, Registry.finish, there]
  | dropping =>
    have steps := total_set Connection.left there .gone
    have holds := total_set Connection.holdsGlobal there .gone
    simp only [Connection.left, Connection.holdsGlobal] at steps holds
    refine ⟨.release index place, { registry.become index { front with
      connections := front.connections.set place .gone } with available := registry.available + 1 }, _, ?_,
      ⟨place, .inr rfl⟩, getElem?_set_found found, ended, by dsimp only; omega, by dsimp only; omega⟩
    simp [Registry.step, Registry.onFront, found, Registry.release, there]

theorem drained (balanced : Balanced registry) (found : registry.fronts[index]? = some front)
    (ended : front.loop = .ended) :
    ∃ (actions : List Action) (final : Registry) (after : Front),
      Run Registry.step registry actions final ∧
      (∀ action ∈ actions, ∃ place, action = .finish index place ∨ action = .release index place) ∧
      final.fronts[index]? = some after ∧ after.available = maxFrontConnections ∧ after.live = 0 ∧
      final.available = registry.available + total Connection.holdsGlobal front.connections := by
  generalize count : total Connection.left front.connections = left
  induction left generalizing registry front with
  | zero =>
    have here := balanced.fronts front (List.mem_of_getElem? found)
    have permits := here.permits
    have live := total_le_left (fun connection => connection.bounds.1) front.connections
    have holds := total_le_left (fun connection => connection.bounds.2) front.connections
    rw [ended] at permits
    simp only [Front.live, Loop.holdsLocal] at permits
    refine ⟨[], registry, front, .done, nofun, found, by omega, ?_, by omega⟩
    unfold Front.live
    omega
  | succ left ih =>
    have here := balanced.fronts front (List.mem_of_getElem? found)
    obtain ⟨action, next, after, taken, drops, there, still, fewer, moved⟩ :=
      drop_step found here ended (by omega)
    obtain ⟨actions, final, last, run, only, place, full, dead, given⟩ :=
      ih ((balanced_step balanced action).of_next taken) there still (by omega)
    refine ⟨action :: actions, final, last, .next trivial taken run, ?_, place, full, dead, by omega⟩
    intro other member
    rcases List.mem_cons.mp member with rfl | later
    · exact drops
    · exact only other later

end Draining

/-- No loop is between taking a permit and spawning, and no task between dropping its two. -/
def Registry.Settled (registry : Registry) : Prop :=
  ∀ front ∈ registry.fronts, (front.loop = .accepting ∨ front.loop = .ended) ∧
    ∀ connection ∈ front.connections, connection ≠ .dropping

end ProxyTunnels.Socks5.Admission
