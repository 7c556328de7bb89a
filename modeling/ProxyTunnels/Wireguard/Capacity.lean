import ProxyTunnels.Machine.Lock
import ProxyTunnels.Wireguard.Inner

/-! Claims, releases and waiters on a full tunnel.

A release is a decrement followed by a signal, and a reclaim pass under the stack's lock makes
one for each counted entry it takes out, so here a pass is taken apart into its steps. A waiter
follows the protocol of `SlotFreed`: refused once, it enables a future on the signal, claims
again, and sleeps on the future if it is refused again. `notify_waiters` reaches the futures
enabled before the call, so a future remembers how many calls came before it was enabled.
-/

set_option autoImplicit false

namespace ProxyTunnels.Wireguard.Capacity
open Machine

inductive Phase where
  | look
  | decrement
  | signal
  deriving DecidableEq, Repr

/-- `reclaim_finished` on its way, the stack's lock held; `rounds` entries are not looked at yet. -/
structure Pass where
  now : Nat
  underPressure : Bool
  rounds : Nat
  index : Nat
  phase : Phase
  deriving DecidableEq, Repr

inductive Point where
  | load
  | lock
  | reclaim (pass : Pass)
  | update
  deriving DecidableEq, Repr

/-- A claim carries the future its caller has enabled, if it is a waiter's second one. -/
inductive Thread where
  | claim (enabled : Option Nat) (point : Point)
  | holding
  | releasing
  | pump (pass : Pass)
  | refused
  | asleep (enabled refusedAt : Nat)
  | ended
  deriving DecidableEq, Repr

def Thread.holdsLock : Thread → Bool
  | .claim _ (.reclaim _) | .pump _ => true
  | _ => false

/-- `signals` counts the calls of `notify_waiters`. -/
structure State (smoltcp : Smoltcp) where
  inner : Inner smoltcp
  slots : SocketSlots
  signals : Nat
  threads : List Thread

inductive Action (smoltcp : Smoltcp) where
  | call
  | advance (index : Nat)
  /-- The pump polls the interface and begins its pass. -/
  | poll (effect : PollEffect smoltcp)
  /-- Any other locked section. -/
  | change (inner : Inner smoltcp)
  /-- The slot now belongs to a socket. -/
  | keep (index : Nat)
  /-- A refused caller gives up, also while it sleeps. -/
  | leave (index : Nat)

section Steps
variable {smoltcp : Smoltcp} (state : State smoltcp)

def State.lockFree : Bool := LockFree Thread.holdsLock state.threads

def State.become (index : Nat) (thread : Thread) : State smoltcp :=
  { state with threads := state.threads.set index thread }

def State.newPass (underPressure : Bool) : Pass :=
  ⟨state.inner.now, underPressure, state.inner.closing.length, 0, .look⟩

def State.look (pass : Pass) : Outcome (State smoltcp × Option Pass) :=
  match pass.rounds, state.inner.closing[pass.index]? with
  | 0, _ | _, none => .next (state, none)
  | rounds + 1, some entry =>
      match state.inner.getTcp entry.handle with
      | none => .panicked
      | some socket =>
          let finished := finishedClosing smoltcp socket pass.underPressure
          if !finished && pass.now < entry.deadline then
            .next (state, some { pass with rounds, index := pass.index + 1 })
          else
            (if finished then state.inner.discard entry.handle
              else state.inner.abortDiscard entry.handle).bind fun inner =>
              if entry.counted then .next ({ state with inner }, some { pass with phase := .decrement })
              else .next ({ state with inner := { inner with closing := swapRemove inner.closing pass.index } },
                some { pass with rounds })

def State.pass (pass : Pass) : Outcome (State smoltcp × Option Pass) :=
  match pass.phase with
  | .look => state.look pass
  | .decrement => .next ({ state with slots := state.slots.release }, some { pass with phase := .signal })
  | .signal =>
      .next ({ state with
          signals := state.signals + 1
          inner := { state.inner with closing := swapRemove state.inner.closing pass.index } },
        some { pass with rounds := pass.rounds - 1, phase := .look })

def State.advance (index : Nat) : Thread → Outcome (State smoltcp)
  | .claim enabled .load =>
      .next (state.become index (.claim enabled (if maxSockets ≤ state.slots.opened then .lock else .update)))
  | .claim enabled .lock =>
      .guarded state.lockFree (.next (state.become index (.claim enabled (.reclaim (state.newPass true)))))
  | .claim enabled (.reclaim pass) =>
      (state.pass pass).bind fun (state, pass) =>
        .next (state.become index (.claim enabled (pass.elim .update .reclaim)))
  | .claim enabled .update =>
      if state.slots.opened < maxSockets then
        .next ({ state with slots := { state.slots with opened := state.slots.opened + 1 } }.become index .holding)
      else .next (state.become index (enabled.elim .refused fun count => .asleep count state.signals))
  | .holding => .next ({ state with slots := state.slots.release }.become index .releasing)
  | .releasing => .next ({ state with signals := state.signals + 1 }.become index .ended)
  | .pump pass =>
      (state.pass pass).bind fun (state, pass) => .next (state.become index (pass.elim .ended .pump))
  -- The future is enabled before the second claim begins.
  | .refused => .next (state.become index (.claim (some state.signals) .load))
  | .asleep enabled _ => .guarded (enabled < state.signals) (.next (state.become index .refused))
  | .ended => .blocked

def State.step : Action smoltcp → Outcome (State smoltcp)
  | .call => .next { state with threads := state.threads ++ [.claim none .load] }
  | .advance index =>
      match state.threads[index]? with
      | none => .blocked
      | some thread => state.advance index thread
  | .poll effect =>
      let polled := { state with inner := state.inner.interfacePoll effect }
      .guarded state.lockFree (.next { polled with threads := state.threads ++ [.pump (polled.newPass false)] })
  | .change inner => .guarded state.lockFree (.next { state with inner })
  | .keep index => .guarded (state.threads[index]? = some .holding) (.next (state.become index .ended))
  | .leave index =>
      match state.threads[index]? with
      | some .refused | some (.asleep _ _) => .next (state.become index .ended)
      | _ => .blocked

def State.Initial (state : State smoltcp) : Prop := state.threads = []

end Steps

def Pass.inFlight (pass : Pass) : Nat := if pass.phase = .signal then 1 else 0

def Thread.inFlight : Thread → Nat
  | .releasing => 1
  | .claim _ (.reclaim pass) | .pump pass => pass.inFlight
  | _ => 0

section Waiting
variable {smoltcp : Smoltcp} {state next : State smoltcp} {index : Nat} {thread new : Thread}

def State.inFlight (state : State smoltcp) : Nat := total Thread.inFlight state.threads

/-- The counter before the releases in flight. -/
def State.pressure (state : State smoltcp) : Nat := state.slots.opened + state.inFlight

def Thread.Watched (signals pressure : Nat) : Thread → Prop
  | .claim (some enabled) _ => enabled ≤ signals
  | .asleep enabled refusedAt =>
      enabled ≤ refusedAt ∧ refusedAt ≤ signals ∧ (signals = enabled → maxSockets ≤ pressure)
  | _ => True

structure Later (state next : State smoltcp) : Prop where
  signals : state.signals ≤ next.signals
  pressure : next.signals = state.signals → state.pressure ≤ next.pressure

theorem Thread.Watched.claim {enabled : Option Nat} {point : Point} {signals pressure other : Nat}
    (watched : (Thread.claim enabled point).Watched signals pressure) (onward : Point) :
    (Thread.claim enabled onward).Watched signals other := by
  cases enabled with
  | none => exact trivial
  | some count => exact watched

theorem Thread.Watched.more {enabled : Option Nat} {point : Point} {signals pressure more : Nat}
    (watched : (Thread.claim enabled point).Watched signals pressure) (rung : signals ≤ more) :
    (Thread.claim enabled point).Watched more pressure := by
  cases enabled with
  | none => exact trivial
  | some count => exact Nat.le_trans watched rung

theorem Thread.Watched.later (watched : thread.Watched state.signals state.pressure) (later : Later state next) :
    thread.Watched next.signals next.pressure := by
  have more := later.signals
  cases thread with
  | claim enabled point => exact (watched.claim point).more more
  | asleep enabled refusedAt =>
    obtain ⟨before, since, full⟩ := watched
    refine ⟨before, Nat.le_trans since more, fun silent => ?_⟩
    have same : next.signals = state.signals := by omega
    exact Nat.le_trans (full (same ▸ silent)) (later.pressure same)
  | holding => exact trivial
  | releasing => exact trivial
  | pump pass => exact trivial
  | refused => exact trivial
  | ended => exact trivial

theorem SocketSlots.opened_le_release (slots : SocketSlots) : slots.opened ≤ slots.release.opened + 1 := by
  unfold SocketSlots.release
  split
  · omega
  · dsimp only
    omega

structure Moved (state : State smoltcp) (index : Nat) (thread new : Thread) (next : State smoltcp) : Prop where
  threads : next.threads = state.threads.set index new
  signals : state.signals ≤ next.signals
  pressure : next.signals = state.signals →
    state.slots.opened + thread.inFlight ≤ next.slots.opened + new.inFlight
  watched : thread.Watched state.signals state.pressure → ∀ pressure, next.slots.opened ≤ pressure →
    new.Watched next.signals pressure

theorem Moved.later (moved : Moved state index thread new next) (found : state.threads[index]? = some thread) :
    Later state next := by
  refine ⟨moved.signals, fun silent => ?_⟩
  have exchanged := total_set Thread.inFlight found new
  have kept := moved.pressure silent
  unfold State.pressure State.inFlight
  rw [moved.threads]
  omega

theorem Moved.of_same (threads : next.threads = state.threads.set index new) (slots : next.slots = state.slots)
    (signals : next.signals = state.signals) (inFlight : thread.inFlight ≤ new.inFlight)
    (watched : thread.Watched state.signals state.pressure → ∀ pressure, state.slots.opened ≤ pressure →
      new.Watched state.signals pressure) : Moved state index thread new next where
  threads := threads
  signals := Nat.le_of_eq signals.symm
  pressure _ := by rw [slots]; omega
  watched := by rw [slots, signals]; exact watched

structure Passes (state : State smoltcp) (pass : Pass) (result : State smoltcp × Option Pass) : Prop where
  threads : result.1.threads = state.threads
  signals : state.signals ≤ result.1.signals
  pressure : result.1.signals = state.signals →
    state.slots.opened + pass.inFlight ≤ result.1.slots.opened + result.2.elim 0 Pass.inFlight

theorem look_passes {pass : Pass} (looks : pass.phase = .look) : (state.look pass).Ensures (Passes state pass) := by
  have idle : pass.inFlight = 0 := by
    unfold Pass.inFlight
    rw [looks]
    rfl
  have quiet : ∀ (inner : Inner smoltcp) (onward : Option Pass),
      Passes state pass ({ state with inner }, onward) :=
    fun inner onward => ⟨rfl, Nat.le_refl _, fun _ => by rw [idle]; exact Nat.le_add_right _ _⟩
  unfold State.look
  split
  · exact quiet state.inner none
  · exact quiet state.inner none
  · split
    · exact trivial
    · dsimp only
      split
      · exact quiet state.inner _
      · refine Outcome.ensures_bind fun inner _ => ?_
        split
        · exact quiet inner _
        · exact quiet _ _

theorem pass_passes (pass : Pass) : (state.pass pass).Ensures (Passes state pass) := by
  unfold State.pass
  split
  · next looks => exact look_passes looks
  · next decrements =>
    refine ⟨rfl, Nat.le_refl _, fun _ => ?_⟩
    have one := SocketSlots.opened_le_release state.slots
    simp only [Pass.inFlight, decrements, Option.elim_some]
    exact one
  · refine ⟨rfl, Nat.le_succ _, fun same => ?_⟩
    exact absurd same (Nat.succ_ne_self _)

theorem advance_moved (index : Nat) (thread : Thread) :
    (state.advance index thread).Ensures fun next => ∃ new, Moved state index thread new next := by
  unfold State.advance
  split
  · exact ⟨_, .of_same rfl rfl rfl (Nat.zero_le _) fun watched _ _ => watched.claim _⟩
  · exact Outcome.ensures_guarded fun _ =>
      ⟨_, .of_same rfl rfl rfl (Nat.zero_le _) fun watched _ _ => watched.claim _⟩
  · next enabled pass =>
    refine Outcome.ensures_bind ?_
    rintro ⟨after, onward⟩ passed
    have passes := (pass_passes pass).of_next passed
    refine ⟨_, congrArg (List.set · index _) passes.threads, passes.signals, ?_, ?_⟩
    · cases onward with
      | none => exact passes.pressure
      | some onward => exact passes.pressure
    · exact fun watched _ _ => (watched.claim _).more passes.signals
  · next enabled =>
    split
    · exact ⟨_, rfl, Nat.le_refl _, fun _ => Nat.le_succ _, fun _ _ _ => trivial⟩
    · next full =>
      cases enabled with
      | none => exact ⟨_, .of_same rfl rfl rfl (Nat.le_refl 0) fun _ _ _ => trivial⟩
      | some count =>
        refine ⟨_, .of_same rfl rfl rfl (Nat.le_refl 0) fun watched pressure covers => ?_⟩
        exact ⟨watched, Nat.le_refl _, fun _ => Nat.le_trans (Nat.le_of_not_lt full) covers⟩
  · refine ⟨_, rfl, Nat.le_refl _, fun _ => ?_, fun _ _ _ => trivial⟩
    exact SocketSlots.opened_le_release state.slots
  · refine ⟨_, rfl, Nat.le_succ _, fun same => ?_, fun _ _ _ => trivial⟩
    exact absurd same (Nat.succ_ne_self _)
  · next pass =>
    refine Outcome.ensures_bind ?_
    rintro ⟨after, onward⟩ passed
    have passes := (pass_passes pass).of_next passed
    refine ⟨_, congrArg (List.set · index _) passes.threads, passes.signals, ?_, ?_⟩
    · cases onward with
      | none => exact passes.pressure
      | some onward => exact passes.pressure
    · intro _ _ _
      cases onward with
      | none => exact trivial
      | some onward => exact trivial
  · exact ⟨_, .of_same rfl rfl rfl (Nat.le_refl 0) fun _ _ _ => Nat.le_refl _⟩
  · exact Outcome.ensures_guarded fun _ => ⟨_, .of_same rfl rfl rfl (Nat.le_refl 0) fun _ _ _ => trivial⟩
  · exact trivial

def Sound (state : State smoltcp) : Prop :=
  ∀ thread ∈ state.threads, thread.Watched state.signals state.pressure

theorem Sound.moved (sound : Sound state) (found : state.threads[index]? = some thread)
    (moved : Moved state index thread new next) : Sound next := by
  have later := moved.later found
  intro other member
  rw [moved.threads] at member
  rcases List.mem_or_eq_of_mem_set member with before | rfl
  · exact (sound other before).later later
  · exact moved.watched (sound thread (List.mem_of_getElem? found)) _ (Nat.le_add_right _ _)

theorem Sound.joined (sound : Sound state) (threads : next.threads = state.threads ++ [new])
    (slots : next.slots = state.slots) (signals : next.signals = state.signals) (idle : new.inFlight = 0)
    (watched : new.Watched next.signals next.pressure) : Sound next := by
  have later : Later state next := by
    refine ⟨Nat.le_of_eq signals.symm, fun _ => ?_⟩
    unfold State.pressure State.inFlight
    rw [slots, threads, total_append, total_cons, total_nil, idle]
    omega
  intro other member
  rw [threads] at member
  rcases List.mem_append.mp member with before | added
  · exact (sound other before).later later
  · rw [List.mem_singleton.mp added]
    exact watched

theorem sound_step {action : Action smoltcp} (sound : Sound state) (taken : state.step action = .next next) :
    Sound next := by
  cases action with
  | call =>
    cases taken
    exact sound.joined rfl rfl rfl rfl trivial
  | advance index =>
    unfold State.step at taken
    dsimp only at taken
    split at taken
    · cases taken
    · next thread found =>
      obtain ⟨new, moved⟩ := (advance_moved index thread).of_next taken
      exact sound.moved found moved
  | poll effect =>
    obtain ⟨-, same⟩ := Outcome.guarded_eq_next.mp taken
    cases same
    exact sound.joined rfl rfl rfl rfl trivial
  | change inner =>
    obtain ⟨-, same⟩ := Outcome.guarded_eq_next.mp taken
    cases same
    exact sound
  | keep index =>
    obtain ⟨here, same⟩ := Outcome.guarded_eq_next.mp taken
    cases same
    exact sound.moved (of_decide_eq_true here) (.of_same rfl rfl rfl (Nat.le_refl 0) fun _ _ _ => trivial)
  | leave index =>
    unfold State.step at taken
    dsimp only at taken
    split at taken
    · next here =>
      cases taken
      exact sound.moved here (.of_same rfl rfl rfl (Nat.le_refl 0) fun _ _ _ => trivial)
    · next here =>
      cases taken
      exact sound.moved here (.of_same rfl rfl rfl (Nat.le_refl 0) fun _ _ _ => trivial)
    · cases taken

/-- In every interleaving, a waiter that sleeps and has not been notified has seen no release
completed since its claim was refused, so the counter is at its limit but for the releases that
are between their decrement and their signal. -/
theorem sleeper_misses_no_slot (reached : Reachable State.step State.Initial state) {enabled refusedAt : Nat}
    (asleep : state.threads[index]? = some (.asleep enabled refusedAt)) (unnotified : state.signals = enabled) :
    state.signals = refusedAt ∧ maxSockets - state.inFlight ≤ state.slots.opened := by
  have sound : Sound state := by
    refine reached.invariant ?_ ?_
    · intro state initial thread member
      rw [initial] at member
      cases member
    · intro state action next sound taken
      exact sound_step sound taken
  obtain ⟨before, since, full⟩ := sound _ (List.mem_of_getElem? asleep)
  have limit := full unnotified
  unfold State.pressure at limit
  exact ⟨by omega, by omega⟩

end Waiting

def fullTunnel : State .reference where
  inner := ⟨(), [], none, 0, ephemeralFirst, [], 65536⟩
  slots := ⟨maxSockets, false⟩
  signals := 0
  threads := []

theorem sleeper_misses_no_slot_full : ∃ state : State .reference,
    state.threads = [.asleep 0 0] ∧ state.signals = 0 ∧ maxSockets - state.inFlight ≤ state.slots.opened := by
  have evaluated : ∃ state : State .reference,
      execute State.step fullTunnel (.call :: List.replicate 9 (.advance 0)) = .next state ∧
        state.threads = [.asleep 0 0] ∧ state.signals = 0 := ⟨_, rfl, rfl, rfl⟩
  obtain ⟨state, executed, threads, signals⟩ := evaluated
  have reached : Reachable State.step State.Initial state := ⟨fullTunnel, _, rfl, run_of_execute executed⟩
  have asleep : state.threads[0]? = some (.asleep 0 0) := by rw [threads]; rfl
  exact ⟨state, threads, signals, (sleeper_misses_no_slot reached asleep signals).2⟩

end ProxyTunnels.Wireguard.Capacity
