import ProxyTunnels.Provider.Slot

/-! What holding the slot's lock is worth, over every interleaving of a provider's callers.

`Turn` says once what one caller's step can do to the slot, the flag and the lock. From
it follow the invariant `Orderly` (one holder, and the slot is what the holder last saw)
and its consequences: a provider that was shut down stays empty, and a tunnel leaves the
slot only by the hands of a caller that means that very tunnel.
-/

set_option autoImplicit false

namespace ProxyTunnels.Provider
open Machine

def Point.Fits (slot : Option Nat) : Point → Prop
  | .isAlive _ existing => slot = some existing
  | .bringUp _ => slot = none
  | .stopping _ => slot = none
  | _ => True

theorem Point.fits_of_outside {slot : Option Nat} {point : Point} (outside : point.holdsLock = false) :
    point.Fits slot := by
  cases point <;> first | exact trivial | cases outside

def Point.builds : Point → Bool
  | .isAlive _ _ => true
  | .bringUp _ => true
  | _ => false

theorem Point.holdsLock_of_builds {point : Point} (building : point.builds = true) :
    point.holdsLock = true := by
  cases point <;> first | rfl | cases building

structure Sealed (state : State) : Prop where
  closed : state.closed = true
  empty : state.slot = none
  quiet : ∀ point ∈ state.callers, point.builds = false

def Point.Achieved (state : State) : Point → Prop
  | .retire true => state.closed = true
  | .stopping true => Sealed state
  | .ended .shutDown => Sealed state
  | _ => True

/-- One caller goes from `old` to `new`. -/
structure Turn (family : Family) (state next : State) (index : Nat) (old new : Point) : Prop where
  found : state.callers[index]? = some old
  callers : next.callers = state.callers.set index new
  /-- Only a caller that holds the lock or finds it free enters or touches the slot. -/
  entitled : old.holdsLock = true ∨ state.lockFree = true ∨
    (new.holdsLock = false ∧ next.slot = state.slot)
  fits : new.Fits next.slot
  checks : ∀ task existing, new = .isAlive task existing → family.checksAlive = true
  /-- A bring-up is begun with the slot emptied for it. -/
  begun : next.bringUps = state.bringUps ∨ next.slot = none
  /-- The flag is never cleared. -/
  closed : state.closed = true → next.closed = true
  /-- Behind the flag nothing is built any more. -/
  sealed : state.closed = true → old.builds = false →
    new.builds = false ∧ (state.slot = none → next.slot = none) ∧ next.bringUps = state.bringUps
  /-- How a shutdown gets on. -/
  achieved : (new = .retire true → next.closed = true) ∧
    (new = .stopping true ∨ new = .ended .shutDown →
      next.slot = none ∧ (old = .retire true ∧ state.lockFree = true ∨ old = .stopping true))

def Point.plain : Point → Bool
  | .isAlive _ _ => false
  | .bringUp _ => false
  | .stopping _ => false
  | .retire true => false
  | .ended .shutDown => false
  | _ => true

theorem Task.resume_plain (task : Task) (tunnel : Nat) : (task.resume tunnel).plain = true := by
  cases task <;> rfl

section Turns
variable {family : Family} {state next : State} {index : Nat} {old new : Point}

theorem turn_become (found : state.callers[index]? = some old) (plain : new.plain = true) :
    Turn family state (state.become index new) index old new := by
  have outside : new.holdsLock = false := by
    cases new <;> first | rfl | cases plain
  refine ⟨found, rfl, Or.inr (Or.inr ⟨outside, rfl⟩), Point.fits_of_outside outside, ?_, Or.inl rfl,
    id, ?_, ?_, ?_⟩
  · rintro task existing rfl
    cases plain
  · intro _ _
    refine ⟨?_, id, rfl⟩
    cases building : new.builds with
    | false => rfl
    | true =>
      rw [Point.holdsLock_of_builds building] at outside
      cases outside
  · rintro rfl
    cases plain
  · rintro (rfl | rfl)
    · cases plain
    · cases plain

theorem turn_startBringUp (found : state.callers[index]? = some old) (task : Task)
    (entitled : old.holdsLock = true ∨ state.lockFree = true)
    (past : state.closed = true → old.builds = true) :
    Turn family state (state.startBringUp index task) index old (.bringUp task) := by
  refine ⟨found, rfl, ?_, rfl, nofun, Or.inr rfl, id, ?_, nofun, ?_⟩
  · rcases entitled with inside | free
    · exact Or.inl inside
    · exact Or.inr (Or.inl free)
  · intro closed outside
    rw [past closed] at outside
    cases outside
  · rintro (impossible | impossible)
    · cases impossible
    · cases impossible

theorem turn_tunnel (found : state.callers[index]? = some old) (free : state.lockFree = true) (task : Task) :
    ∃ new, Turn family state (state.tunnel family index task) index old new := by
  unfold State.tunnel
  split
  next => exact ⟨_, turn_become found rfl⟩
  next isOpen =>
    have past : state.closed = true → old.builds = true := fun closed => absurd closed isOpen
    split
    next existing holding =>
      split
      next checked =>
        refine ⟨.isAlive task existing, found, rfl, Or.inr (Or.inl free), holding, fun _ _ _ => checked,
          Or.inl rfl, id, ?_, nofun, ?_⟩
        · intro closed
          exact absurd closed isOpen
        · rintro (impossible | impossible)
          · cases impossible
          · cases impossible
      next => exact ⟨_, turn_become found (Task.resume_plain _ _)⟩
    next => exact ⟨_, turn_startBringUp found task (Or.inr free) past⟩

theorem turn_replaceTunnel (found : state.callers[index]? = some old) (free : state.lockFree = true)
    (stale : Nat) : ∃ new, Turn family state (state.replaceTunnel index stale) index old new := by
  unfold State.replaceTunnel
  split
  next => exact ⟨_, turn_become found rfl⟩
  next isOpen =>
    have past : state.closed = true → old.builds = true := fun closed => absurd closed isOpen
    split
    · split
      · exact ⟨_, turn_become found (Task.resume_plain _ _)⟩
      · exact ⟨_, turn_startBringUp found _ (Or.inr free) past⟩
    · exact ⟨_, turn_startBringUp found _ (Or.inr free) past⟩

theorem turn_retired (found : state.callers[index]? = some old) (empty : state.slot = none) {closing : Bool}
    (earlier : closing = true → old = .retire true ∧ state.lockFree = true ∨ old = .stopping true) :
    Turn family state (state.become index (retired closing)) index old (retired closing) := by
  cases closing with
  | false => exact turn_become found rfl
  | true =>
    refine ⟨found, rfl, Or.inr (Or.inr ⟨rfl, rfl⟩), trivial, nofun, Or.inl rfl, id, ?_, nofun, ?_⟩
    · exact fun _ _ => ⟨rfl, id, rfl⟩
    · exact fun _ => ⟨empty, earlier rfl⟩

theorem turn_retire {closing : Bool} (found : state.callers[index]? = some (.retire closing))
    (free : state.lockFree = true) :
    ∃ new, Turn family state (state.retire index closing) index (.retire closing) new := by
  unfold State.retire
  split
  next =>
    refine ⟨.stopping closing, found, rfl, Or.inr (Or.inl free), rfl, nofun, Or.inl rfl, id, ?_, nofun, ?_⟩
    · exact fun _ _ => ⟨rfl, fun _ => rfl, rfl⟩
    · rintro (same | impossible)
      · cases same
        exact ⟨rfl, Or.inl ⟨rfl, free⟩⟩
      · cases impossible
  next empty =>
    refine ⟨_, turn_retired found empty ?_⟩
    rintro rfl
    exact Or.inl ⟨rfl, free⟩

theorem turn_of_resume (found : state.callers[index]? = some old) (fitting : old.Fits state.slot)
    {answer : Answer} (taken : state.resume family index old answer = .next next) :
    ∃ new, Turn family state next index old new := by
  unfold State.resume at taken
  split at taken
  next task =>
    obtain ⟨free, same⟩ := Outcome.guarded_eq_next.mp taken
    cases same
    exact turn_tunnel found free task
  next stale =>
    obtain ⟨free, same⟩ := Outcome.guarded_eq_next.mp taken
    cases same
    exact turn_replaceTunnel found free stale
  next =>
    cases taken
    exact ⟨_, turn_become found (Task.resume_plain _ _)⟩
  next task existing =>
    cases taken
    exact ⟨_, turn_startBringUp found task (Or.inl rfl) fun _ => rfl⟩
  next task =>
    cases taken
    refine ⟨task.resume state.installed, found, rfl, Or.inl rfl, ?_, ?_, Or.inl rfl, id, nofun, ?_, ?_⟩
    · cases task <;> exact trivial
    · intro _ _ same
      cases task <;> cases same
    · intro same
      cases task <;> cases same
    · rintro (same | same)
      · cases task <;> cases same
      · cases task <;> cases same
  next =>
    cases taken
    exact ⟨_, turn_become found rfl⟩
  next =>
    cases taken
    exact ⟨_, turn_become found rfl⟩
  next =>
    cases taken
    exact ⟨_, turn_become found rfl⟩
  next tunnel error =>
    cases taken
    refine ⟨_, turn_become found ?_⟩
    split <;> rfl
  next =>
    cases taken
    exact ⟨_, turn_become found rfl⟩
  next =>
    cases taken
    exact ⟨_, turn_become found rfl⟩
  next =>
    cases taken
    exact ⟨_, turn_become found rfl⟩
  next =>
    cases taken
    refine ⟨.retire true, found, rfl, Or.inr (Or.inr ⟨rfl, rfl⟩), trivial, nofun, Or.inl rfl,
      fun _ => rfl, ?_, fun _ => rfl, ?_⟩
    · exact fun _ _ => ⟨rfl, id, rfl⟩
    · rintro (impossible | impossible)
      · cases impossible
      · cases impossible
  next closing =>
    obtain ⟨free, same⟩ := Outcome.guarded_eq_next.mp taken
    cases same
    exact turn_retire found free
  next closing =>
    cases taken
    refine ⟨_, turn_retired found fitting ?_⟩
    rintro rfl
    exact Or.inr rfl
  next => cases taken

end Turns

section Invariant
variable {family : Family} {state next : State} {index : Nat} {old new : Point}

/-- One caller at most is inside the lock, the slot is what that caller last saw, and
every shutdown has achieved what its place in the code says. -/
structure Orderly (family : Family) (state : State) : Prop where
  alone : Exclusive Point.holdsLock state.callers
  fits : ∀ point ∈ state.callers, point.Fits state.slot
  achieved : ∀ point ∈ state.callers, point.Achieved state
  checks : ∀ task existing, Point.isAlive task existing ∈ state.callers → family.checksAlive = true

theorem Turn.keeps_sealed (turn : Turn family state next index old new) (isSealed : Sealed state) : Sealed next := by
  have idle := isSealed.quiet old (List.mem_of_getElem? turn.found)
  obtain ⟨quiet, empty, -⟩ := turn.sealed isSealed.closed idle
  refine ⟨turn.closed isSealed.closed, empty isSealed.empty, ?_⟩
  rw [turn.callers]
  intro point member
  rcases List.mem_or_eq_of_mem_set member with kept | rfl
  · exact isSealed.quiet point kept
  · exact quiet

theorem Turn.achieved_of_old (turn : Turn family state next index old new) {point : Point}
    (held : point.Achieved state) : point.Achieved next := by
  unfold Point.Achieved at held ⊢
  split
  · exact turn.closed held
  · exact turn.keeps_sealed held
  · exact turn.keeps_sealed held
  · exact trivial

theorem Turn.sealed_of_shutdown (turn : Turn family state next index old new) (orderly : Orderly family state)
    (past : new = .stopping true ∨ new = .ended .shutDown) : Sealed next := by
  obtain ⟨empty, ⟨rfl, free⟩ | rfl⟩ := turn.achieved.2 past
  · have closed : state.closed = true := orderly.achieved _ (List.mem_of_getElem? turn.found)
    refine ⟨turn.closed closed, empty, ?_⟩
    rw [turn.callers]
    intro point member
    rcases List.mem_or_eq_of_mem_set member with kept | rfl
    · -- The lock was free, so nobody is inside who could still build.
      have outside := not_holds_of_lockFree free kept
      cases building : point.builds with
      | false => rfl
      | true =>
        rw [Point.holdsLock_of_builds building] at outside
        cases outside
    · rcases past with rfl | rfl
      · rfl
      · rfl
  · exact turn.keeps_sealed (orderly.achieved _ (List.mem_of_getElem? turn.found))

theorem Turn.keeps_orderly (turn : Turn family state next index old new) (orderly : Orderly family state) :
    Orderly family next := by
  refine ⟨?_, ?_, ?_, ?_⟩
  · rw [turn.callers]
    rcases turn.entitled with inside | free | ⟨outside, -⟩
    · exact orderly.alone.set turn.found fun _ => inside
    · exact exclusive_of_lockFree free
    · refine orderly.alone.set turn.found fun inside => ?_
      rw [outside] at inside
      cases inside
  · rw [turn.callers]
    intro point member
    obtain ⟨place, there⟩ := List.mem_iff_getElem?.mp member
    rcases mem_set_cases there with ⟨-, rfl⟩ | ⟨apart, there⟩
    · exact turn.fits
    -- Another caller knows something of the slot only inside the lock, where the one moving is.
    · rcases turn.entitled with inside | free | ⟨-, same⟩
      · exact Point.fits_of_outside (orderly.alone.outside turn.found inside there apart)
      · exact Point.fits_of_outside (not_holds_of_lockFree free (List.mem_of_getElem? there))
      · rw [same]
        exact orderly.fits point (List.mem_of_getElem? there)
  · rw [turn.callers]
    intro point member
    rcases List.mem_or_eq_of_mem_set member with kept | rfl
    · exact turn.achieved_of_old (orderly.achieved point kept)
    · unfold Point.Achieved
      split
      next => exact turn.achieved.1 rfl
      next => exact turn.sealed_of_shutdown orderly (Or.inl rfl)
      next => exact turn.sealed_of_shutdown orderly (Or.inr rfl)
      next => exact trivial
  · rw [turn.callers]
    intro task existing member
    rcases List.mem_or_eq_of_mem_set member with kept | same
    · exact orderly.checks task existing kept
    · exact turn.checks task existing same.symm

/-- Every step is a new call or one caller's turn. -/
theorem turn_of_step (orderly : Orderly family state) {action : Action}
    (taken : step family state action = .next next) :
    (∃ call, action = .call call ∧ next = { state with callers := state.callers ++ [call.start] }) ∨
    ∃ index old new, Turn family state next index old new := by
  cases action with
  | call call =>
    cases taken
    exact Or.inl ⟨call, rfl, rfl⟩
  | resume index answer =>
    unfold step at taken
    simp only at taken
    split at taken
    next => cases taken
    next old found =>
      obtain ⟨new, turn⟩ := turn_of_resume found (orderly.fits old (List.mem_of_getElem? found)) taken
      exact Or.inr ⟨index, old, new, turn⟩
  | drop index =>
    unfold step at taken
    simp only at taken
    split at taken
    next => cases taken
    next old found =>
      unfold State.dropAt at taken
      split at taken
      next => cases taken
      next =>
        cases taken
        exact Or.inr ⟨index, old, _, turn_become found rfl⟩

theorem Call.start_holdsLock (call : Call) : call.start.holdsLock = false := by
  cases call <;> rfl

theorem sealed_call (isSealed : Sealed state) (call : Call) :
    Sealed { state with callers := state.callers ++ [call.start] } := by
  refine ⟨isSealed.closed, isSealed.empty, ?_⟩
  intro point member
  rcases List.mem_append.mp member with kept | added
  · exact isSealed.quiet point kept
  · rw [List.mem_singleton.mp added]
    cases call <;> rfl

theorem orderly_call (orderly : Orderly family state) (call : Call) :
    Orderly family { state with callers := state.callers ++ [call.start] } := by
  refine ⟨orderly.alone.concat call.start_holdsLock, ?_, ?_, ?_⟩
  · intro point member
    rcases List.mem_append.mp member with kept | added
    · exact orderly.fits point kept
    · rw [List.mem_singleton.mp added]
      exact Point.fits_of_outside call.start_holdsLock
  · intro point member
    rcases List.mem_append.mp member with kept | added
    · have held := orderly.achieved point kept
      unfold Point.Achieved at held ⊢
      split
      · exact held
      · exact sealed_call held call
      · exact sealed_call held call
      · exact trivial
    · rw [List.mem_singleton.mp added]
      cases call <;> exact trivial
  · intro task existing member
    rcases List.mem_append.mp member with kept | added
    · exact orderly.checks task existing kept
    · have same := List.mem_singleton.mp added
      cases call <;> cases same

theorem orderly_step (orderly : Orderly family state) {action : Action}
    (taken : step family state action = .next next) : Orderly family next := by
  rcases turn_of_step orderly taken with ⟨call, -, rfl⟩ | ⟨index, old, new, turn⟩
  · exact orderly_call orderly call
  · exact turn.keeps_orderly orderly

theorem orderly_of_reachable (reached : Reachable (step family) (· = State.new) state) : Orderly family state := by
  refine Reachable.invariant ?_ (fun _ _ _ orderly taken => orderly_step orderly taken) reached
  rintro state rfl
  exact ⟨exclusive_nil, nofun, nofun, nofun⟩

end Invariant

section Closing
variable {family : Family} {state later : State} {actions : List Action}

theorem closed_step (orderly : Orderly family state) (closed : state.closed = true) {action : Action} {next : State}
    (taken : step family state action = .next next) : next.closed = true := by
  rcases turn_of_step orderly taken with ⟨call, -, rfl⟩ | ⟨index, old, new, turn⟩
  · exact closed
  · exact turn.closed closed

theorem sealed_step (orderly : Orderly family state) (isSealed : Sealed state) {action : Action} {next : State}
    (taken : step family state action = .next next) :
    Sealed next ∧ next.bringUps = state.bringUps := by
  rcases turn_of_step orderly taken with ⟨call, -, rfl⟩ | ⟨index, old, new, turn⟩
  · exact ⟨sealed_call isSealed call, rfl⟩
  · have idle := isSealed.quiet old (List.mem_of_getElem? turn.found)
    exact ⟨turn.keeps_sealed isSealed, (turn.sealed isSealed.closed idle).2.2⟩

theorem closed_of_run (run : Run (step family) state actions later) (orderly : Orderly family state)
    (closed : state.closed = true) : later.closed = true := by
  induction run with
  | done => exact closed
  | next _ taken _ ih => exact ih (orderly_step orderly taken) (closed_step orderly closed taken)

theorem sealed_of_run (run : Run (step family) state actions later) (orderly : Orderly family state)
    (isSealed : Sealed state) : Sealed later ∧ later.bringUps = state.bringUps := by
  induction run with
  | done => exact ⟨isSealed, rfl⟩
  | next _ taken _ ih =>
    obtain ⟨stays, same⟩ := sealed_step orderly isSealed taken
    obtain ⟨final, counted⟩ := ih (orderly_step orderly taken) stays
    exact ⟨final, counted.trans same⟩

theorem tunnel_closed (closed : state.closed = true) (index : Nat) (task : Task) :
    state.tunnel family index task = state.become index (.ended (.failed providerStopped)) :=
  if_pos closed

theorem replaceTunnel_closed (closed : state.closed = true) (index stale : Nat) :
    state.replaceTunnel index stale = state.become index (.ended (.failed providerStopped)) :=
  if_pos closed

/-- Once a shutdown has returned, the slot is empty in every later state and no bring-up
is begun any more. From the setting of the flag on, whoever takes the lock for a tunnel,
be it for the first time or to replace one that failed, is turned away without one. -/
theorem closed_for_good (family : Family) {state : State}
    (reached : Reachable (step family) (· = State.new) state) {actions : List Action} {later : State}
    (run : Run (step family) state actions later) :
    (∀ index : Nat, state.callers[index]? = some (.ended .shutDown) →
      later.slot = none ∧ later.bringUps = state.bringUps) ∧
    (state.closed = true → ∀ (index : Nat) (point : Point) (next : State),
      later.callers[index]? = some point →
      (∃ task, point = .tunnel task) ∨ (∃ stale, point = .replaceTunnel stale) →
      step family later (.resume index .proceed) = .next next →
      next.callers[index]? = some (.ended (.failed providerStopped)) ∧
        next.bringUps = later.bringUps ∧ next.slot = later.slot) := by
  have orderly := orderly_of_reachable reached
  constructor
  · intro index returned
    have isSealed : Sealed state := orderly.achieved _ (List.mem_of_getElem? returned)
    obtain ⟨final, same⟩ := sealed_of_run run orderly isSealed
    exact ⟨final.empty, same⟩
  · intro closed index point next found asking taken
    have still := closed_of_run run orderly closed
    simp only [step, found] at taken
    rcases asking with ⟨task, rfl⟩ | ⟨stale, rfl⟩
    · obtain ⟨-, same⟩ := Outcome.guarded_eq_next.mp taken
      rw [tunnel_closed still] at same
      cases same
      exact ⟨getElem?_set_found found, rfl, rfl⟩
    · obtain ⟨-, same⟩ := Outcome.guarded_eq_next.mp taken
      rw [replaceTunnel_closed still] at same
      cases same
      exact ⟨getElem?_set_found found, rfl, rfl⟩

/-- A WireGuard dial installs its tunnel behind the flag, fails on it and comes back to
replace it after the shutdown has returned: it gets neither a tunnel nor a bring-up. -/
theorem closed_for_good_late_dial :
    let state : State := ⟨none, true, 1, 1, [.replaceTunnel 0, .ended .shutDown]⟩
    Run (step wireguard) .new [.call .dial, .resume 0 .proceed, .call .shutdown, .resume 1 .proceed,
      .resume 0 (.broughtUp (.ok ())), .resume 0 (.dialled (.tunnel (.dial "host" 80 "silence"))),
      .resume 0 (.recentHandshake false), .resume 1 .proceed, .resume 1 .proceed] state ∧
    ∃ next, step wireguard state (.resume 0 .proceed) = .next next ∧
      next.callers[0]? = some (.ended (.failed providerStopped)) ∧ next.bringUps = 1 ∧ next.slot = none := by
  intro state
  have run : Run (step wireguard) .new [.call .dial, .resume 0 .proceed, .call .shutdown,
      .resume 1 .proceed, .resume 0 (.broughtUp (.ok ())),
      .resume 0 (.dialled (.tunnel (.dial "host" 80 "silence"))), .resume 0 (.recentHandshake false),
      .resume 1 .proceed, .resume 1 .proceed] state := run_of_execute rfl
  have final := closed_for_good wireguard ⟨.new, _, rfl, run⟩ .done
  have failed := final.2 rfl 0 _ _ rfl (Or.inr ⟨0, rfl⟩) rfl
  exact ⟨run, _, rfl, failed.1, failed.2.1, (final.1 1 rfl).1⟩

end Closing

section Keeping
variable {family : Family} {state next : State} {index : Nat} {old : Point}

inductive Removes (family : Family) (state : State) (tunnel : Nat) : Action → Prop where
  | retired {index : Nat} {closing : Bool} : state.callers[index]? = some (.retire closing) →
      Removes family state tunnel (.resume index .proceed)
  | foundDead {index : Nat} {task : Task} : family.checksAlive = true →
      state.callers[index]? = some (.isAlive task tunnel) →
      Removes family state tunnel (.resume index (.alive false))
  | replaced {index : Nat} : state.callers[index]? = some (.replaceTunnel tunnel) →
      Removes family state tunnel (.resume index .proceed)

theorem tunnel_slot {tunnel : Nat} (holding : state.slot = some tunnel) (index : Nat) (task : Task) :
    (state.tunnel family index task).slot = some tunnel := by
  simp only [State.tunnel, holding]
  split
  · exact holding
  · split
    · exact holding
    · exact holding

theorem replaceTunnel_other {tunnel stale : Nat} (isOpen : state.closed = false)
    (holding : state.slot = some tunnel) (other : tunnel ≠ stale) (index : Nat) :
    state.replaceTunnel index stale = state.become index (.dialOn tunnel false) := by
  unfold State.replaceTunnel
  rw [isOpen, if_neg Bool.false_ne_true, holding]
  exact if_pos other

theorem replaceTunnel_slot {tunnel stale : Nat} (holding : state.slot = some tunnel)
    (other : tunnel ≠ stale) (index : Nat) : (state.replaceTunnel index stale).slot = some tunnel := by
  cases closed : state.closed with
  | true =>
    rw [replaceTunnel_closed closed]
    exact holding
  | false =>
    rw [replaceTunnel_other closed holding other]
    exact holding

theorem removes_of_resume (orderly : Orderly family state) (found : state.callers[index]? = some old)
    {answer : Answer} (taken : state.resume family index old answer = .next next) {tunnel : Nat}
    (holding : state.slot = some tunnel) (gone : next.slot ≠ some tunnel) :
    Removes family state tunnel (.resume index answer) := by
  have fitting := orderly.fits old (List.mem_of_getElem? found)
  unfold State.resume at taken
  split at taken
  case h_1 task =>
    obtain ⟨-, same⟩ := Outcome.guarded_eq_next.mp taken
    cases same
    exact absurd (tunnel_slot holding index task) gone
  case h_2 stale =>
    obtain ⟨-, same⟩ := Outcome.guarded_eq_next.mp taken
    cases same
    by_cases other : tunnel = stale
    · subst other
      exact .replaced found
    · exact absurd (replaceTunnel_slot holding other index) gone
  case h_4 task existing =>
    have same : existing = tunnel := Option.some.inj (Eq.trans (Eq.symm fitting) holding)
    subst same
    exact .foundDead (orderly.checks task existing (List.mem_of_getElem? found)) found
  case h_5 task =>
    have empty : state.slot = none := fitting
    rw [empty] at holding
    cases holding
  case h_14 closing => exact .retired found
  -- The other steps do not touch the slot.
  all_goals
    cases taken
    try exact absurd holding gone

theorem removes_of_step (orderly : Orderly family state) {action : Action}
    (taken : step family state action = .next next) {tunnel : Nat} (holding : state.slot = some tunnel)
    (gone : next.slot ≠ some tunnel) : Removes family state tunnel action := by
  cases action with
  | call call =>
    cases taken
    exact absurd holding gone
  | resume index answer =>
    unfold step at taken
    simp only at taken
    split at taken
    next => cases taken
    next old found => exact removes_of_resume orderly found taken holding gone
  | drop index =>
    unfold step at taken
    simp only at taken
    split at taken
    next => cases taken
    next old found =>
      unfold State.dropAt at taken
      split at taken
      · cases taken
      · cases taken
        exact absurd holding gone

theorem bringUps_of_run {tunnel : Nat} {actions : List Action} {later : State}
    (run : RunWhile (step family) (fun state _ => state.slot = some tunnel) state actions later)
    (orderly : Orderly family state) (stays : later.slot = some tunnel) :
    later.bringUps = state.bringUps := by
  induction run with
  | done => rfl
  | @next state middle later action rest _ taken remaining ih =>
    have counted := ih (orderly_step orderly taken) stays
    have holding : middle.slot = some tunnel := by
      cases remaining with
      | done => exact stays
      | next met _ _ => exact met
    rcases turn_of_step orderly taken with ⟨call, -, rfl⟩ | ⟨index, old, new, turn⟩
    · exact counted
    · rcases turn.begun with same | empty
      · exact counted.trans same
      · rw [empty] at holding
        cases holding

/-- A tunnel leaves the slot only through a retire or a shutdown, through `tunnel` finding
that very tunnel dead, or through a caller that failed on that very tunnel; bring-ups
are never concurrent; and who comes to replace a tunnel that was replaced already gets
the current one. So while a rebuilt tunnel stays in the slot nothing is rebuilt. -/
theorem healthy_tunnel_kept (family : Family) {state : State}
    (reached : Reachable (step family) (· = State.new) state) :
    (∀ (action : Action) (next : State) (tunnel : Nat), step family state action = .next next →
      state.slot = some tunnel → next.slot ≠ some tunnel → Removes family state tunnel action) ∧
    (∀ (first second : Nat) (task other : Task), state.callers[first]? = some (.bringUp task) →
      state.callers[second]? = some (.bringUp other) → first = second) ∧
    (∀ (index stale tunnel : Nat) (next : State), state.closed = false →
      state.callers[index]? = some (.replaceTunnel stale) → state.slot = some tunnel → tunnel ≠ stale →
      step family state (.resume index .proceed) = .next next →
      next.callers[index]? = some (.dialOn tunnel false) ∧ next.slot = some tunnel ∧
        next.bringUps = state.bringUps) ∧
    (∀ (tunnel : Nat) (actions : List Action) (later : State),
      RunWhile (step family) (fun state _ => state.slot = some tunnel) state actions later →
      later.slot = some tunnel → later.bringUps = state.bringUps) := by
  have orderly := orderly_of_reachable reached
  refine ⟨?_, ?_, ?_, ?_⟩
  · intro action next tunnel taken holding gone
    exact removes_of_step orderly taken holding gone
  · intro first second task other found there
    exact orderly.alone first second _ _ found there rfl rfl
  · intro index stale tunnel next isOpen found holding other taken
    simp only [step, found] at taken
    obtain ⟨-, same⟩ := Outcome.guarded_eq_next.mp taken
    rw [replaceTunnel_other isOpen holding other] at same
    cases same
    exact ⟨getElem?_set_found found, holding, rfl⟩
  · intro tunnel actions later run stays
    exact bringUps_of_run run orderly stays

/-- Two SSH dials fail on session 0. The first reconnects; the second comes to replace
session 0 as well and is given session 1. -/
theorem healthy_tunnel_kept_two_dials :
    let state : State := ⟨some 1, false, 2, 2, [.dialOn 1 false, .replaceTunnel 0]⟩
    Run (step ssh) .new [.call .dial, .resume 0 .proceed, .resume 0 (.broughtUp (.ok ())), .call .dial,
      .resume 1 .proceed, .resume 0 (.dialled (.tunnel (.dial "host" 80 "closed"))),
      .resume 1 (.dialled (.tunnel (.dial "host" 80 "closed"))), .resume 0 .proceed,
      .resume 0 (.broughtUp (.ok ()))] state ∧
    ∃ next, step ssh state (.resume 1 .proceed) = .next next ∧
      next.callers[1]? = some (.dialOn 1 false) ∧ next.slot = some 1 ∧ next.bringUps = 2 := by
  intro state
  have run : Run (step ssh) .new [.call .dial, .resume 0 .proceed, .resume 0 (.broughtUp (.ok ())),
      .call .dial, .resume 1 .proceed, .resume 0 (.dialled (.tunnel (.dial "host" 80 "closed"))),
      .resume 1 (.dialled (.tunnel (.dial "host" 80 "closed"))), .resume 0 .proceed,
      .resume 0 (.broughtUp (.ok ()))] state := run_of_execute rfl
  have kept := healthy_tunnel_kept ssh ⟨.new, _, rfl, run⟩
  have taken : step ssh state (.resume 1 .proceed) = .next (state.become 1 (.dialOn 1 false)) := rfl
  exact ⟨run, _, taken, kept.2.2.1 1 0 1 _ rfl rfl rfl (by decide) taken⟩

end Keeping

end ProxyTunnels.Provider
