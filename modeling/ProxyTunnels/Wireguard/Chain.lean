import ProxyTunnels.Wireguard.Waiters

/-! Tunnels carried by tunnels.

Every level of a chain has its own stack; above the lowest it was brought up over a
datagram socket on the stack of the level beneath it. Once a level is up, a watch waits
for the carrier's stack to stop and then aborts the level's pump, and the pump's
`StopOnExit` stops the level's own stack. That guard is a local of the pump's body: it
exists from the pump task's first poll on, and a task that is aborted before it is
dropped without it.
-/

set_option autoImplicit false

namespace ProxyTunnels.Wireguard
open Machine

section Levels
variable {smoltcp : Smoltcp}

/-- `SESSION_EXPIRY`, in seconds. -/
def sessionExpiry : Nat := 180 * 3

inductive CarrierWatch where
  | none
  /-- It waits in `wait_stopped`, an actor of the carrier's stack. -/
  | waiting (waiter : Nat)
  /-- It has aborted the pump, or was itself aborted after that. -/
  | over
  deriving DecidableEq, Repr

/-- One tunnel of the chain; `up` says that its bring-up is complete. -/
structure Level (smoltcp : Smoltcp) where
  stack : Stack smoltcp
  /-- The pump task has been polled, so its `StopOnExit` exists. -/
  polled : Bool
  aborted : Bool
  up : Bool
  watch : CarrierWatch

/-- The state of a bring-up after `WgStack::start`. -/
def Level.start (stack : Stack smoltcp) : Level smoltcp := ⟨stack, false, false, false, .none⟩

/-- `pump.is_finished()`. -/
def Level.pumpFinished (level : Level smoltcp) : Bool :=
  level.stack.pump == .finished || (level.aborted && !level.polled)

/-- `WgTunnel::is_alive`, given whether the carrier is closed and the age of the last handshake. -/
def Level.isAlive (level : Level smoltcp) (carrierClosed : Bool) (lastHandshakeAge : Option Nat) : Bool :=
  if level.pumpFinished then false
  else if carrierClosed then false
  else match lastHandshakeAge with
    | some age => age < sessionExpiry
    | none => false

/-- The lowest level first. -/
abbrev Chain (smoltcp : Smoltcp) := List (Level smoltcp)

/-- `is_closed` of the socket that a level rides on. -/
def Chain.carrierClosed (chain : Chain smoltcp) : Nat → Bool
  | 0 => false
  | below + 1 => (chain[below]?).any fun carrier => carrier.stack.shared.stopped

inductive ChainAction (smoltcp : Smoltcp) where
  /-- A bring-up starts its stack, over a socket bound on the highest level's. -/
  | bringUp (socket : Nat) (config : StackConfig) (iface : smoltcp.Iface) (resolver : Bool)
      (seed tcpBufferBytes : Nat)
  /-- The bring-up of a level sees the handshake. -/
  | complete (level : Nat)
  /-- The highest level's bring-up fails. -/
  | fail
  | firstPoll (level : Nat)
  | stack (level : Nat) (action : Action smoltcp)
  /-- A watch whose wait is over aborts the pump. -/
  | watch (level : Nat)
  /-- `retire` or the tunnel's `Drop` aborts the pump, and then the watch. -/
  | abort (level : Nat)
  | abortWatch (level : Nat)

def Action.byPump : Action smoltcp → Bool
  | .poll _ _ => true
  | .stop => true
  | _ => false

def Stack.bound (stack : Stack smoltcp) (socket : Nat) : Bool :=
  match stack.actors[socket]? with
  | some (.udp _ _ _ _) => true
  | _ => false

/-- `wait_stopped` has returned. -/
def Stack.waitOver (stack : Stack smoltcp) (waiter : Nat) : Bool :=
  match stack.actors[waiter]? with
  | some (.ended none) => true
  | _ => false

def Chain.bringUp (chain : Chain smoltcp) (socket : Nat) (stack : Stack smoltcp) : Outcome (Chain smoltcp) :=
  match chain.getLast? with
  | none => .next [.start stack]
  | some carrier => .guarded (carrier.up && carrier.stack.bound socket) (.next (chain ++ [.start stack]))

/-- The end of `bring_up`, which spawns the watch of a carried tunnel. -/
def Chain.complete (chain : Chain smoltcp) : Nat → Outcome (Chain smoltcp)
  | 0 =>
      match chain[0]? with
      | some level => .guarded (!level.up) (.next (chain.set 0 { level with up := true }))
      | none => .blocked
  | below + 1 =>
      match chain[below]?, chain[below + 1]? with
      | some carrier, some level =>
          let waited := { carrier.stack with actors := carrier.stack.actors ++ [.waitStopped .register] }
          .guarded (!level.up) (.next ((chain.set below { carrier with stack := waited }).set (below + 1)
            { level with up := true, watch := .waiting carrier.stack.actors.length }))
      | _, _ => .blocked

def Chain.watchAborts (chain : Chain smoltcp) : Nat → Outcome (Chain smoltcp)
  | 0 => .blocked
  | below + 1 =>
      match chain[below]?, chain[below + 1]? with
      | some carrier, some level =>
          match level.watch with
          | .waiting waiter => .guarded (carrier.stack.waitOver waiter)
              (.next (chain.set (below + 1) { level with watch := .over, aborted := true }))
          | _ => .blocked
      | _, _ => .blocked

def Chain.step (chain : Chain smoltcp) : ChainAction smoltcp → Outcome (Chain smoltcp)
  | .bringUp socket config iface resolver seed bytes =>
      chain.bringUp socket (.start config iface resolver seed bytes)
  | .complete level => chain.complete level
  | .fail =>
      match chain.getLast? with
      | some level => .guarded (!level.up) (.next chain.dropLast)
      | none => .blocked
  | .firstPoll index =>
      match chain[index]? with
      | some level => .guarded (!level.aborted) (.next (chain.set index { level with polled := true }))
      | none => .blocked
  | .stack index action =>
      match chain[index]? with
      | some level => .guarded (!action.byPump || level.polled)
          ((level.stack.step action).bind fun stack => .next (chain.set index { level with stack }))
      | none => .blocked
  | .watch index => chain.watchAborts index
  | .abort index =>
      match chain[index]? with
      | some level => .guarded level.up (.next (chain.set index { level with aborted := true }))
      | none => .blocked
  | .abortWatch index =>
      match chain[index]? with
      | some level => .guarded level.aborted (.next (chain.set index { level with watch := .over }))
      | none => .blocked

end Levels

section Heeding
variable {smoltcp : Smoltcp} {stack next : Stack smoltcp} {waiter : Nat}

structure Heeds (stack : Stack smoltcp) : Prop where
  flag : stack.shared.stopped = true ↔ stack.pump ≠ .running
  noticed : stack.pump = .finished → ∀ actor ∈ stack.actors, actor ≠ .waitStopped .asleep

theorem heeds_start (initial : stack.Initial) : Heeds stack := by
  obtain ⟨config, iface, resolver, seed, bytes, rfl⟩ := initial
  exact ⟨by simp [Stack.start], nofun⟩

theorem Heeds.step (balanced : Balanced stack) (heeds : Heeds stack) {action : Action smoltcp}
    (taken : stack.step action = .next next) : Heeds next := by
  cases Stack.moves_of_step taken with
  | call call =>
    refine ⟨heeds.flag, fun finished => List.forall_mem_append.mpr ⟨heeds.noticed finished, ?_⟩⟩
    exact List.forall_mem_singleton.mpr (call.actor_roused stack.shared).2
  | @act index input actor effect found stepped =>
    have conserves := (stepActor_conserves actor input (balanced.secured found)).of_next stepped
    refine ⟨?_, fun finished => ?_⟩
    · change effect.shared.stopped = true ↔ stack.pump ≠ .running
      rw [conserves.stopped]
      exact heeds.flag
    · change stack.pump = .finished at finished
      have own := stepActor_notices (heeds.flag.mpr (by simp [finished])) stepped
      refine forall_mem_set_append (heeds.noticed finished) own ?_
      intro other new
      obtain ⟨-, peer, handle, rfl⟩ := ((stepActor_flows actor input).of_next stepped).spawned other new
      exact nofun
  | elapse micros => exact ⟨heeds.flag, heeds.noticed⟩
  | poll running reclaimed =>
    refine ⟨heeds.flag, fun finished => ?_⟩
    cases running.symm.trans finished
  | flag running => exact ⟨by simp, nofun⟩
  | shut flagged =>
    have stopped : stack.shared.stopped = true := heeds.flag.mpr (by simp [flagged])
    exact ⟨by simp [Shared.setInner, stopped], nofun⟩
  | notify shut =>
    have stopped : stack.shared.stopped = true := heeds.flag.mpr (by simp [shut])
    exact ⟨by simp [stopped], fun _ => List.forall_mem_map.mpr fun actor _ => actor.notify_awake⟩

theorem heeds_of_reachable (reached : Reachable Stack.step Stack.Initial stack) : Heeds stack := by
  have atStart : ∀ stack : Stack smoltcp, stack.Initial → Balanced stack ∧ Heeds stack :=
    fun _ initial => ⟨balanced_start initial, heeds_start initial⟩
  refine (Reachable.invariant atStart ?_ reached).2
  rintro stack action next ⟨balanced, heeds⟩ taken
  exact ⟨(balanced.step action).of_next taken, heeds.step balanced taken⟩

/-- A call of `wait_stopped`, under way or returned. -/
def Actor.waits : Actor smoltcp → Bool
  | .waitStopped _ => true
  | .ended none => true
  | _ => false

def Stack.WaitedAt (stack : Stack smoltcp) (waiter : Nat) : Prop :=
  ∃ actor, stack.actors[waiter]? = some actor ∧ actor.waits = true

theorem Actor.Stirs.waits {actor other : Actor smoltcp} (stirs : actor.Stirs other) : other.waits = actor.waits := by
  cases stirs <;> rfl

theorem stepActor_waits {shared : Shared smoltcp} {actor : Actor smoltcp} {input : Input} {effect : Effect smoltcp}
    (waits : actor.waits = true) (taken : shared.stepActor actor input = .next effect) :
    effect.actor.waits = true := by
  cases turns_of_step taken with
  | rests rests =>
    cases rests with
    | registers | notices | again | sleeps => rfl
    | _ => cases waits
  | _ => cases waits

theorem Stack.WaitedAt.append (waited : stack.WaitedAt waiter) (more : List (Actor smoltcp)) :
    Stack.WaitedAt { stack with actors := stack.actors ++ more } waiter := by
  obtain ⟨actor, found, waits⟩ := waited
  refine ⟨actor, ?_, waits⟩
  rw [List.getElem?_append_left (List.getElem?_eq_some_iff.mp found).1]
  exact found

theorem Stack.WaitedAt.map (waited : stack.WaitedAt waiter) {shared : Shared smoltcp} {pump : PumpPhase}
    {change : Actor smoltcp → Actor smoltcp}
    (stirs : ∀ actor : Actor smoltcp, actor.Stirs (change actor)) :
    Stack.WaitedAt ⟨shared, pump, stack.actors.map change⟩ waiter := by
  obtain ⟨actor, found, waits⟩ := waited
  refine ⟨change actor, ?_, (stirs actor).waits.trans waits⟩
  rw [List.getElem?_map, found, Option.map_some]

theorem Stack.WaitedAt.step (waited : stack.WaitedAt waiter) {action : Action smoltcp}
    (taken : stack.step action = .next next) : next.WaitedAt waiter := by
  cases Stack.moves_of_step taken with
  | call call => exact waited.append _
  | @act index input actor effect found stepped =>
    obtain ⟨waiting, there, waits⟩ := waited
    by_cases here : index = waiter
    · subst here
      cases found.symm.trans there
      exact ⟨effect.actor, getElem?_set_append_self found _, stepActor_waits waits stepped⟩
    · exact ⟨waiting, getElem?_set_append_ne there here, waits⟩
  | elapse micros => exact waited
  | poll running reclaimed => exact waited.map (Actor.wake_stirs _)
  | flag running => exact waited
  | shut flagged => exact waited.map (Actor.wake_stirs _)
  | notify shut => exact waited.map Actor.notify_stirs

theorem Stack.WaitedAt.moves (waited : stack.WaitedAt waiter) (heeds : Heeds stack)
    (finished : stack.pump = .finished) :
    stack.waitOver waiter = true ∨ ∃ next, stack.step (.act waiter (.advance 0)) = .next next := by
  obtain ⟨actor, found, waits⟩ := waited
  have awake := heeds.noticed finished actor (List.mem_of_getElem? found)
  have stopped : stack.shared.stopped = true := heeds.flag.mpr (by simp [finished])
  cases actor with
  | waitStopped point =>
    refine .inr ?_
    cases point with
    | asleep => exact absurd rfl awake
    | register => exact ⟨_, by simp only [Stack.step, found]; rfl⟩
    | check notified =>
      refine ⟨{ stack with actors := stack.actors.set waiter (.ended none) }, ?_⟩
      simp [Stack.step, found, Shared.stepActor, Shared.stepWaitStopped, stopped, Shared.become, Outcome.bind]
  | ended error =>
    cases error with
    | none => exact .inl (by simp [Stack.waitOver, found])
    | some error => cases waits
  | _ => cases waits

end Heeding

section Links
variable {smoltcp : Smoltcp} {chain after : Chain smoltcp} {old new level : Level smoltcp} {index : Nat}

structure Level.Sound (level : Level smoltcp) : Prop where
  reached : Reachable Stack.step Stack.Initial level.stack
  guarded : level.stack.pump ≠ .running → level.polled = true
  prompt : level.aborted = true → level.polled = true

structure Level.Watches (level : Level smoltcp) (carrier : Stack smoltcp) : Prop where
  armed : level.aborted = true ∨ ∃ waiter, level.watch = .waiting waiter
  waited : ∀ waiter, level.watch = .waiting waiter → carrier.WaitedAt waiter

theorem Level.Watches.mono {carrier later : Stack smoltcp} (watches : level.Watches carrier)
    (waits : ∀ waiter, carrier.WaitedAt waiter → later.WaitedAt waiter) : level.Watches later :=
  ⟨watches.armed, fun waiter waiting => waits waiter (watches.waited waiter waiting)⟩

structure Linked (chain : Chain smoltcp) : Prop where
  sound : ∀ level ∈ chain, level.Sound
  /-- Only the highest level can still be coming up. -/
  below : ∀ (place : Nat) (level above : Level smoltcp), chain[place]? = some level →
    chain[place + 1]? = some above → level.up = true
  watched : ∀ (place : Nat) (carrier level : Level smoltcp), chain[place]? = some carrier →
    chain[place + 1]? = some level → level.up = true → level.Watches carrier.stack

theorem linked_nil : Linked ([] : Chain smoltcp) := by
  refine ⟨fun level member => ?_, fun place level above found => ?_, fun place carrier level found => ?_⟩
  · cases member
  · cases found
  · cases found

theorem Linked.set (linked : Linked chain) (found : chain[index]? = some old) (sound : new.Sound)
    (up : old.up = true → new.up = true)
    (waits : ∀ waiter, old.stack.WaitedAt waiter → new.stack.WaitedAt waiter)
    (watches : ∀ (place : Nat) (carrier : Level smoltcp), index = place + 1 → chain[place]? = some carrier →
      new.up = true → new.Watches carrier.stack) : Linked (chain.set index new) := by
  refine ⟨?_, ?_, ?_⟩
  · intro level member
    rcases List.mem_or_eq_of_mem_set member with kept | rfl
    · exact linked.sound level kept
    · exact sound
  · intro place lower above here there
    rcases mem_set_cases here with ⟨rfl, rfl⟩ | ⟨-, beneath⟩
    · rcases mem_set_cases there with ⟨same, -⟩ | ⟨-, there⟩
      · exact absurd same (Nat.succ_ne_self _)
      · exact up (linked.below _ _ _ found there)
    · rcases mem_set_cases there with ⟨rfl, -⟩ | ⟨-, there⟩
      · exact linked.below _ _ _ beneath found
      · exact linked.below _ _ _ beneath there
  · intro place carrier level here there isUp
    rcases mem_set_cases here with ⟨rfl, rfl⟩ | ⟨-, beneath⟩
    · rcases mem_set_cases there with ⟨same, -⟩ | ⟨-, there⟩
      · exact absurd same (Nat.succ_ne_self _)
      · exact (linked.watched _ _ _ found there isUp).mono waits
    · rcases mem_set_cases there with ⟨rfl, rfl⟩ | ⟨-, there⟩
      · exact watches place carrier rfl beneath isUp
      · exact linked.watched _ _ _ beneath there isUp

theorem Linked.keep (linked : Linked chain) (found : chain[index]? = some old) (sound : new.Sound)
    (up : new.up = old.up) (waits : ∀ waiter, old.stack.WaitedAt waiter → new.stack.WaitedAt waiter)
    (watches : ∀ carrier, old.Watches carrier → new.Watches carrier) : Linked (chain.set index new) := by
  refine linked.set found sound (fun isUp => up.trans isUp) waits ?_
  rintro place carrier rfl there isUp
  exact watches carrier.stack (linked.watched place carrier old there found (up.symm.trans isUp))

theorem Level.sound_start {stack : Stack smoltcp} (initial : stack.Initial) : (Level.start stack).Sound := by
  refine ⟨⟨stack, [], initial, .done⟩, fun ending => ?_, nofun⟩
  obtain ⟨config, iface, resolver, seed, bytes, rfl⟩ := initial
  exact absurd rfl ending

theorem Linked.push (linked : Linked chain) (sound : new.Sound) (coming : new.up = false)
    (carried : ∀ carrier, chain.getLast? = some carrier → carrier.up = true) : Linked (chain ++ [new]) := by
  refine ⟨?_, ?_, ?_⟩
  · exact List.forall_mem_append.mpr ⟨linked.sound, List.forall_mem_singleton.mpr sound⟩
  · intro place lower above here there
    rcases mem_concat_cases here with ⟨rfl, -⟩ | here
    · simp at there
    rcases mem_concat_cases there with ⟨last, -⟩ | there
    · -- The carrier is the level that was highest.
      refine carried lower ?_
      rw [List.getLast?_eq_getElem?, ← last, Nat.add_sub_cancel]
      exact here
    · exact linked.below _ _ _ here there
  · intro place carrier level here there isUp
    rcases mem_concat_cases there with ⟨-, rfl⟩ | there
    · cases coming.symm.trans isUp
    · have within := (List.getElem?_eq_some_iff.mp there).1
      rw [List.getElem?_append_left (by omega)] at here
      exact linked.watched _ _ _ here there isUp

theorem Linked.bringUp (linked : Linked chain) {socket : Nat} {stack : Stack smoltcp} (initial : stack.Initial)
    (taken : chain.bringUp socket stack = .next after) : Linked after := by
  unfold Chain.bringUp at taken
  split at taken
  next empty =>
    cases taken
    have none : chain = [] := List.getLast?_eq_none_iff.mp empty
    subst none
    refine linked.push (Level.sound_start initial) rfl fun carrier last => ?_
    cases last
  next carrier last =>
    obtain ⟨ready, same⟩ := Outcome.guarded_eq_next.mp taken
    cases same
    refine linked.push (Level.sound_start initial) rfl fun other there => ?_
    cases last.symm.trans there
    exact (Bool.and_eq_true_iff.mp ready).1

theorem Level.Sound.waited (sound : level.Sound) :
    Level.Sound { level with
      stack := { level.stack with actors := level.stack.actors ++ [.waitStopped .register] } } := by
  have called : level.stack.step (.call .waitStopped) = .next _ := rfl
  exact ⟨sound.reached.extend (.single trivial called), sound.guarded, sound.prompt⟩

theorem Linked.complete (linked : Linked chain) (taken : chain.complete index = .next after) : Linked after := by
  cases index with
  | zero =>
    simp only [Chain.complete] at taken
    split at taken
    next level found =>
      obtain ⟨-, same⟩ := Outcome.guarded_eq_next.mp taken
      cases same
      have sound := linked.sound level (List.mem_of_getElem? found)
      refine linked.set found ⟨sound.reached, sound.guarded, sound.prompt⟩ (fun _ => rfl) (fun _ => id) ?_
      intro place carrier lowest
      cases lowest
    next => cases taken
  | succ place =>
    simp only [Chain.complete] at taken
    split at taken
    next carrier level below found =>
      obtain ⟨-, same⟩ := Outcome.guarded_eq_next.mp taken
      cases same
      have waiting := linked.keep below (linked.sound carrier (List.mem_of_getElem? below)).waited rfl
        (fun _ waited => waited.append _) (fun _ watches => ⟨watches.armed, watches.waited⟩)
      have sound := linked.sound level (List.mem_of_getElem? found)
      refine waiting.set ((List.getElem?_set_ne (Nat.succ_ne_self _).symm).trans found)
        ⟨sound.reached, sound.guarded, sound.prompt⟩ (fun _ => rfl) (fun _ => id) ?_
      -- The watch waits on the stack of the carrier as it is now.
      intro other there same beneath _
      cases Nat.succ.inj same
      rw [getElem?_set_found below] at beneath
      cases beneath
      refine ⟨.inr ⟨_, rfl⟩, ?_⟩
      rintro waiter ⟨⟩
      exact ⟨.waitStopped .register, by simp, rfl⟩
    next => cases taken

theorem Linked.dropLast (linked : Linked chain) : Linked chain.dropLast := by
  have kept : ∀ (place : Nat) (level : Level smoltcp), chain.dropLast[place]? = some level →
      chain[place]? = some level := by
    intro place level found
    rw [List.getElem?_dropLast] at found
    split at found
    · exact found
    · cases found
  refine ⟨fun level member => linked.sound level (List.dropLast_subset chain member), ?_, ?_⟩
  · intro place lower above here there
    exact linked.below place lower above (kept _ _ here) (kept _ _ there)
  · intro place carrier level here there
    exact linked.watched place carrier level (kept _ _ here) (kept _ _ there)

theorem Linked.watchAborts (linked : Linked chain)
    (prompt : ∀ level, chain[index]? = some level → level.polled = true)
    (taken : chain.watchAborts index = .next after) : Linked after := by
  cases index with
  | zero => cases taken
  | succ place =>
    simp only [Chain.watchAborts] at taken
    split at taken
    next carrier level below found =>
      split at taken
      next waiter waiting =>
        obtain ⟨-, same⟩ := Outcome.guarded_eq_next.mp taken
        cases same
        have sound := linked.sound level (List.mem_of_getElem? found)
        exact linked.keep found ⟨sound.reached, sound.guarded, fun _ => prompt level found⟩ rfl (fun _ => id)
          fun _ _ => ⟨.inl rfl, nofun⟩
      next => cases taken
    next => cases taken

/-- No pump is aborted before its task has been polled. -/
def Chain.Prompt (chain : Chain smoltcp) : ChainAction smoltcp → Prop
  | .watch index => ∀ level, chain[index]? = some level → level.polled = true
  | .abort index => ∀ level, chain[index]? = some level → level.polled = true
  | _ => True

theorem Level.Sound.step (sound : level.Sound) {action : Action smoltcp} {next : Stack smoltcp}
    (polled : action.byPump = true → level.polled = true) (taken : level.stack.step action = .next next) :
    Level.Sound { level with stack := next } := by
  refine ⟨sound.reached.extend (.single trivial taken), fun ending => ?_, sound.prompt⟩
  cases Stack.moves_of_step taken with
  | call call => exact sound.guarded ending
  | act found stepped => exact sound.guarded ending
  | elapse micros => exact sound.guarded ending
  | poll running reclaimed => exact polled rfl
  | flag running => exact polled rfl
  | shut flagged => exact polled rfl
  | notify shut => exact polled rfl

theorem Linked.step (linked : Linked chain) {action : ChainAction smoltcp} (prompt : chain.Prompt action)
    (taken : chain.step action = .next after) : Linked after := by
  cases action with
  | bringUp socket config iface resolver seed bytes =>
    exact linked.bringUp ⟨config, iface, resolver, seed, bytes, rfl⟩ taken
  | complete index => exact linked.complete taken
  | fail =>
    simp only [Chain.step] at taken
    split at taken
    · obtain ⟨-, same⟩ := Outcome.guarded_eq_next.mp taken
      cases same
      exact linked.dropLast
    · cases taken
  | firstPoll index =>
    simp only [Chain.step] at taken
    split at taken
    next level found =>
      obtain ⟨-, same⟩ := Outcome.guarded_eq_next.mp taken
      cases same
      have sound := linked.sound level (List.mem_of_getElem? found)
      exact linked.keep found ⟨sound.reached, fun _ => rfl, fun _ => rfl⟩ rfl (fun _ => id)
        fun _ watches => ⟨watches.armed, watches.waited⟩
    next => cases taken
  | stack index action =>
    simp only [Chain.step] at taken
    split at taken
    next level found =>
      obtain ⟨ready, stepped⟩ := Outcome.guarded_eq_next.mp taken
      obtain ⟨next, moved, same⟩ := Outcome.bind_eq_next stepped
      cases same
      have polled : action.byPump = true → level.polled = true := by
        intro pumps
        simpa [pumps] using ready
      have sound := linked.sound level (List.mem_of_getElem? found)
      exact linked.keep found (sound.step polled moved) rfl (fun _ waited => waited.step moved)
        fun _ watches => ⟨watches.armed, watches.waited⟩
    next => cases taken
  | watch index => exact linked.watchAborts prompt taken
  | abort index =>
    simp only [Chain.step] at taken
    split at taken
    next level found =>
      obtain ⟨-, same⟩ := Outcome.guarded_eq_next.mp taken
      cases same
      have sound := linked.sound level (List.mem_of_getElem? found)
      exact linked.keep found ⟨sound.reached, sound.guarded, fun _ => prompt level found⟩ rfl (fun _ => id)
        fun _ watches => ⟨.inl rfl, watches.waited⟩
    next => cases taken
  | abortWatch index =>
    simp only [Chain.step] at taken
    split at taken
    next level found =>
      obtain ⟨aborted, same⟩ := Outcome.guarded_eq_next.mp taken
      cases same
      have sound := linked.sound level (List.mem_of_getElem? found)
      exact linked.keep found ⟨sound.reached, sound.guarded, sound.prompt⟩ rfl (fun _ => id)
        fun _ _ => ⟨.inl aborted, nofun⟩
    next => cases taken

/-- No watch whose carrier has closed still has to abort its pump, and no pump that was aborted still has to
stop its stack. -/
def Chain.Quiescent (chain : Chain smoltcp) : Prop :=
  ∀ (index : Nat) (level : Level smoltcp), chain[index]? = some level →
    (chain.carrierClosed index = true → ∀ waiter, level.watch ≠ .waiting waiter) ∧
      (level.aborted = true → chain.step (.stack index .stop) = .blocked)

theorem Stack.stop_moves (stack : Stack smoltcp) :
    stack.pump = .finished ∨ ∃ next, stack.step .stop = .next next := by
  cases phase : stack.pump with
  | finished => exact .inl rfl
  | running => exact .inr ⟨_, by simp only [Stack.step, phase]; rfl⟩
  | flagged => exact .inr ⟨_, by simp only [Stack.step, phase]; rfl⟩
  | shut => exact .inr ⟨_, by simp only [Stack.step, phase]; rfl⟩

theorem Chain.stop_moves (found : chain[index]? = some level) (polled : level.polled = true) :
    level.stack.pump = .finished ∨ ∃ after, chain.step (.stack index .stop) = .next after := by
  rcases level.stack.stop_moves with finished | ⟨next, moved⟩
  · exact .inl finished
  · refine .inr ⟨chain.set index { level with stack := next }, ?_⟩
    simp [Chain.step, found, polled, moved, Outcome.guarded, Outcome.bind]

theorem carrierClosed_succ {carrier : Level smoltcp} (found : chain[index]? = some carrier) :
    chain.carrierClosed (index + 1) = carrier.stack.shared.stopped := by
  simp [Chain.carrierClosed, found]

theorem Linked.finished_above (linked : Linked chain) (quiescent : chain.Quiescent) {carrier : Level smoltcp}
    (below : chain[index]? = some carrier) (stopped : carrier.stack.shared.stopped = true)
    (found : chain[index + 1]? = some level) (up : level.up = true) : level.stack.pump = .finished := by
  obtain ⟨watchless, stopless⟩ := quiescent _ _ found
  have closed : chain.carrierClosed (index + 1) = true := (carrierClosed_succ below).trans stopped
  rcases (linked.watched _ _ _ below found up).armed with aborted | ⟨waiter, waiting⟩
  · have sound := linked.sound level (List.mem_of_getElem? found)
    rcases Chain.stop_moves found (sound.prompt aborted) with finished | ⟨after, moves⟩
    · exact finished
    · cases moves.symm.trans (stopless aborted)
  · exact absurd waiting (watchless closed waiter)

theorem Linked.stopped_of_finished (linked : Linked chain) (found : chain[index]? = some level)
    (finished : level.stack.pump = .finished) : level.stack.shared.stopped = true := by
  have sound := linked.sound level (List.mem_of_getElem? found)
  exact (heeds_of_reachable sound.reached).flag.mpr (by simp [finished])

/-- In a quiescent chain a stop has reached every level above it. -/
theorem Linked.finished_of_stopped (linked : Linked chain) (quiescent : chain.Quiescent) {lowest : Level smoltcp}
    (below : chain[index]? = some lowest) (stopped : lowest.stack.shared.stopped = true) (gap : Nat)
    (found : chain[index + gap + 1]? = some level) (up : level.up = true) : level.stack.pump = .finished := by
  induction gap generalizing level with
  | zero => exact linked.finished_above quiescent below stopped found up
  | succ gap ih =>
    have within := (List.getElem?_eq_some_iff.mp found).1
    have there : chain[index + gap + 1]? = some chain[index + gap + 1] := List.getElem?_eq_getElem (by omega)
    have finished := ih there (linked.below _ _ _ there found)
    exact linked.finished_above quiescent there (linked.stopped_of_finished there finished) found up

def Chain.Pending (chain : Chain smoltcp) (below waiter : Nat) : Prop :=
  ∃ action after, (action = .stack below .stop ∨ action = .stack below (.act waiter (.advance 0)) ∨
    action = .watch (below + 1)) ∧ chain.step action = .next after

theorem Linked.pending (linked : Linked chain) {carrier : Level smoltcp} {waiter : Nat}
    (below : chain[index]? = some carrier) (stopped : carrier.stack.shared.stopped = true)
    (found : chain[index + 1]? = some level) (up : level.up = true) (waiting : level.watch = .waiting waiter) :
    chain.Pending index waiter := by
  have sound := linked.sound carrier (List.mem_of_getElem? below)
  have heeds := heeds_of_reachable sound.reached
  rcases Chain.stop_moves below (sound.guarded (heeds.flag.mp stopped)) with finished | ⟨after, moves⟩
  · have waited := (linked.watched _ _ _ below found up).waited waiter waiting
    rcases waited.moves heeds finished with returned | ⟨next, moves⟩
    · refine ⟨_, chain.set (index + 1) { level with watch := .over, aborted := true }, .inr (.inr rfl), ?_⟩
      simp [Chain.step, Chain.watchAborts, below, found, waiting, returned, Outcome.guarded]
    · refine ⟨_, chain.set index { carrier with stack := next }, .inr (.inl rfl), ?_⟩
      simp [Chain.step, below, Action.byPump, moves, Outcome.guarded, Outcome.bind]
  · exact ⟨_, after, .inl rfl, moves⟩

/-- As long as no pump is aborted before its first poll: in a quiescent chain every tunnel above a stopped one
is stopped and dead, and a watch whose carrier has closed, however early, has not slept through it. -/
theorem stop_reaches_every_level {actions : List (ChainAction smoltcp)}
    (run : RunWhile Chain.step Chain.Prompt [] actions chain) :
    (chain.Quiescent → ∀ (lower upper : Nat) (lowest level : Level smoltcp), lower < upper →
      chain[lower]? = some lowest → lowest.stack.shared.stopped = true → chain[upper]? = some level →
      level.up = true → level.stack.shared.stopped = true ∧
        ∀ age, level.isAlive (chain.carrierClosed upper) age = false) ∧
    ∀ (below waiter : Nat) (carrier level : Level smoltcp), chain[below]? = some carrier →
      carrier.stack.shared.stopped = true → chain[below + 1]? = some level → level.up = true →
      level.watch = .waiting waiter → chain.Pending below waiter := by
  have linked : Linked chain := by
    exact run.preserves (fun chain action after held prompt taken => held.step prompt taken) linked_nil
  constructor
  · intro quiescent lower upper lowest level above here stopped there up
    obtain ⟨gap, rfl⟩ := Nat.exists_eq_add_of_lt above
    have finished := linked.finished_of_stopped quiescent here stopped gap there up
    refine ⟨linked.stopped_of_finished there finished, fun age => ?_⟩
    simp [Level.isAlive, Level.pumpFinished, finished]
  · intro below waiter carrier level here stopped there up waiting
    exact linked.pending here stopped there up waiting

end Links

/-! Two levels: the lower one's pump ends, and the watch of the upper one notices. -/

section Two

def startsLevel (socket : Nat) : ChainAction .reference := .bringUp socket ⟨true, true⟩ () false 0 65536

def bindsCarrier : List (ChainAction .reference) :=
  [startsLevel 0, .firstPoll 0, .complete 0, .stack 0 (.call (.bindUdp 0 64 65536))] ++
    List.replicate 4 (.stack 0 (.act 0 (.advance 0)))

def carrierStops : List (ChainAction .reference) :=
  List.replicate 3 (.stack 0 .stop) ++ List.replicate 2 (.stack 0 (.act 1 (.advance 0))) ++ [.watch 1]

def Chain.prompt (chain : Chain .reference) : ChainAction .reference → Bool
  | .watch index => (chain[index]?).all Level.polled
  | .abort index => (chain[index]?).all Level.polled
  | _ => true

theorem Chain.prompt_meets (chain : Chain .reference) (action : ChainAction .reference)
    (checked : chain.prompt action = true) : chain.Prompt action := by
  cases action with
  | watch index =>
    intro level found
    simpa [Chain.prompt, found] using checked
  | abort index =>
    intro level found
    simpa [Chain.prompt, found] using checked
  | _ => trivial

theorem quiescent_pair {lower upper : Level .reference} (lowest : lower.aborted = false)
    (watched : upper.watch = .over)
    (stopless : Chain.step [lower, upper] (.stack 1 .stop) = .blocked) : Chain.Quiescent [lower, upper] := by
  intro index level found
  rcases index with - | - | index
  · cases found
    refine ⟨nofun, fun aborted => ?_⟩
    cases lowest.symm.trans aborted
  · cases found
    refine ⟨fun _ waiter waiting => ?_, fun _ => stopless⟩
    cases watched.symm.trans waiting
  · cases found

theorem stop_reaches_every_level_two : ∃ lower upper : Level .reference,
    lower.stack.shared.stopped = true ∧ upper.stack.shared.stopped = true ∧
      ∀ age, upper.isAlive lower.stack.shared.stopped age = false := by
  have evaluated : ∃ lower upper : Level .reference, execute (fun chain action =>
      .guarded (Chain.prompt chain action) (Chain.step chain action)) []
        (bindsCarrier ++ [startsLevel 0, .firstPoll 1, .complete 1] ++ carrierStops ++
          List.replicate 3 (.stack 1 .stop)) = .next [lower, upper] ∧
      lower.aborted = false ∧ upper.watch = .over ∧ upper.up = true ∧ lower.stack.shared.stopped = true ∧
      Chain.step [lower, upper] (.stack 1 .stop) = .blocked :=
    ⟨_, _, rfl, rfl, rfl, rfl, rfl, rfl⟩
  obtain ⟨lower, upper, finished, lowest, watched, up, stopped, stopless⟩ := evaluated
  have run := runWhile_of_execute Chain.prompt_meets finished
  have reached := (stop_reaches_every_level run).1 (quiescent_pair lowest watched stopless) 0 1 lower upper
    Nat.zero_lt_one rfl stopped rfl up
  exact ⟨lower, upper, stopped, reached.1, reached.2⟩

/-- The upper level's pump is aborted before its first poll: nothing is left to run, and its stack was never
stopped. -/
theorem unpolled_pump_never_stops : ∃ lower upper : Level .reference,
    Run Chain.step [] (bindsCarrier ++ [startsLevel 0, .complete 1] ++ carrierStops) [lower, upper] ∧
      Chain.Quiescent [lower, upper] ∧ lower.stack.shared.stopped = true ∧ upper.up = true ∧
      upper.aborted = true ∧ upper.stack.shared.stopped = false := by
  have evaluated : ∃ lower upper : Level .reference,
      execute Chain.step [] (bindsCarrier ++ [startsLevel 0, .complete 1] ++ carrierStops) =
        .next [lower, upper] ∧
      lower.aborted = false ∧ upper.watch = .over ∧ Chain.step [lower, upper] (.stack 1 .stop) = .blocked ∧
      lower.stack.shared.stopped = true ∧ upper.up = true ∧ upper.aborted = true ∧
      upper.stack.shared.stopped = false :=
    ⟨_, _, rfl, rfl, rfl, rfl, rfl, rfl, rfl, rfl⟩
  obtain ⟨lower, upper, finished, lowest, watched, stopless, rest⟩ := evaluated
  exact ⟨lower, upper, run_of_execute finished, quiescent_pair lowest watched stopless, rest⟩

end Two

end ProxyTunnels.Wireguard
