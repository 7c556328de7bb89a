import ProxyTunnels.Wireguard.Stopping

/-! Nobody who waits when the stack stops is forgotten.

The flag goes up before the sockets are closed, and each wrapper looks at the flag, or at its
socket, in the same locked section in which it registers its waker. So a waiter either
registered before the sockets were closed, and closing woke it, or it saw that the stack is
gone. The exception is a read without room for the bytes there are.
-/

set_option autoImplicit false

namespace ProxyTunnels.Wireguard
open Machine

section Roused
variable {smoltcp : Smoltcp} {inner next : Inner smoltcp}

/-- Whether an actor waits for a waker that the stop has to wake; of dials only those that had
begun are owed one. -/
def Actor.asleep : Actor smoltcp → Bool
  | .stream _ _ _ reading writing => reading || writing
  | .udp _ _ sending receiving => sending || receiving
  | .listener _ _ (.polling asleep) => asleep
  | .waitStopped .asleep => true
  | _ => false

def Actor.Roused : Actor smoltcp → Prop
  | .stream _ _ _ reading writing => reading = false ∧ writing = false
  | .udp _ _ sending receiving => sending = false ∧ receiving = false
  | .listener _ _ (.polling asleep) => asleep = false
  | _ => True

theorem Actor.awake_of_roused {actor : Actor smoltcp} (roused : actor.Roused)
    (noticed : actor ≠ .waitStopped .asleep) : actor.asleep = false := by
  cases actor with
  | stream peer handle shutDown reading writing => simp [Actor.asleep, roused.1, roused.2]
  | udp handle localPort sending receiving => simp [Actor.asleep, roused.1, roused.2]
  | listener port pool point =>
    cases point with
    | polling asleep => exact roused
    | _ => rfl
  | waitStopped point =>
    cases point with
    | asleep => exact absurd rfl noticed
    | _ => rfl
  | _ => rfl

def Actor.Answered (inner : Inner smoltcp) : Actor smoltcp → Prop
  | .connecting _ (.wait handle asleep) => asleep = false ∧ inner.stateAt handle = some .closed
  | _ => True

theorem Actor.Answered.frame {actor : Actor smoltcp} (answered : actor.Answered inner)
    (same : ∀ token ∈ actor.holds, next.sockets.get token.1 = inner.sockets.get token.1) :
    actor.Answered next := by
  cases actor with
  | connecting remote point =>
    cases point with
    | wait handle asleep =>
      have here : next.stateAt handle = inner.stateAt handle :=
        Inner.stateAt_congr (same (handle, .tcp) List.mem_cons_self)
      exact ⟨answered.1, here.trans answered.2⟩
    | _ => exact trivial
  | _ => exact trivial

theorem Actor.Stirs.dialled {actor other : Actor smoltcp} (stirs : actor.Stirs other) (dialled : actor.Dialled) :
    other.Dialled := by
  cases stirs <;> exact dialled

end Roused

section Closing
variable {smoltcp : Smoltcp} {stack : Stack smoltcp} {actor : Actor smoltcp}

theorem Inner.shutWoken_held {shared : Shared smoltcp} (secured : Secured shared actor) {handle : Handle}
    {kind : Kind} (held : (handle, kind) ∈ actor.holds) (socket : kind = .tcp ∨ kind = .udp) :
    shared.inner.shutWoken.recv handle = true ∧ shared.inner.shutWoken.send handle = true := by
  have found := secured.kindAt_held held
  have shut : (shared.inner.kindAt handle = some .tcp || shared.inner.kindAt handle = some .udp) = true := by
    rw [found]
    rcases socket with rfl | rfl <;> rfl
  exact ⟨shut, shut⟩

/-- Closing a socket wakes whoever waits on it; an `accept` waits on all of its pool. -/
theorem wake_roused {shared : Shared smoltcp} (secured : Secured shared actor) (serving : actor.Serving) :
    (actor.wake shared.inner.shutWoken).Roused := by
  cases actor with
  | stream peer handle shutDown reading writing =>
    obtain ⟨recv, send⟩ := Inner.shutWoken_held secured List.mem_cons_self (Or.inl rfl)
    simp [Actor.wake, Actor.Roused, recv, send]
  | udp handle localPort sending receiving =>
    obtain ⟨recv, send⟩ := Inner.shutWoken_held secured List.mem_cons_self (Or.inr rfl)
    simp [Actor.wake, Actor.Roused, recv, send]
  | listener port pool point =>
    cases point with
    | polling asleep =>
      -- `accept` registered with every socket of the pool, and there is at least one.
      obtain ⟨handle, rest, rfl⟩ := List.exists_cons_of_ne_nil serving.2
      obtain ⟨recv, -⟩ := Inner.shutWoken_held secured List.mem_cons_self (Or.inl rfl)
      simp [Actor.wake, Actor.Roused, Woken.any, recv]
    | _ => exact trivial
  | connecting remote point => cases point <;> exact trivial
  | resolving host lastError point => cases point <;> exact trivial
  | _ => exact trivial

theorem wake_answered (documented : Documented smoltcp) {shared : Shared smoltcp} (secured : Secured shared actor) :
    (actor.wake shared.inner.shutWoken).Answered shared.inner.shutAll := by
  cases actor with
  | connecting remote point =>
    cases point with
    | wait handle asleep =>
      have held : (handle, Kind.tcp) ∈ (Actor.connecting remote (.wait handle asleep) : Actor smoltcp).holds :=
        List.mem_cons_self
      obtain ⟨-, send⟩ := Inner.shutWoken_held secured held (Or.inl rfl)
      refine ⟨by simp [send], ?_⟩
      exact Inner.stateAt_shutAll documented (secured.kindAt_held held)
    | _ => exact trivial
  | listener port pool point => cases point <;> exact trivial
  | resolving host lastError point => cases point <;> exact trivial
  | _ => exact trivial

end Closing

section Steps
variable {smoltcp : Smoltcp} {shared : Shared smoltcp} {actor : Actor smoltcp} {input : Input}

def Actor.ReadsNothing (inner : Inner smoltcp) : Actor smoltcp → Input → Prop
  | .stream _ handle _ _ _, .poll (.read room) => room = 0 ∧ 0 < inner.unreadAt handle
  | _, _ => False

theorem Rests.roused (documented : Documented smoltcp) {new : Actor smoltcp} (rests : Rests shared actor input new)
    (severed : actor.Severed shared.inner) (roused : actor.Roused) : new.Roused := by
  cases rests with
  | connected | accepts => exact (by simp [Actor.Roused])
  | unread => exact ⟨rfl, roused.2⟩
  | unwritten => exact ⟨roused.1, rfl⟩
  | flushed place => exact ⟨roused.1, pollFlush_closed documented (Inner.state_of_stateAt severed place)⟩
  | unsent => exact ⟨rfl, roused.2⟩
  | unreceived => exact ⟨roused.1, rfl⟩
  | _ => exact trivial

theorem stepActor_roused (documented : Documented smoltcp) {effect : Effect smoltcp}
    (stopped : shared.stopped = true) (severed : actor.Severed shared.inner) (roused : actor.Roused)
    (attentive : ¬ actor.ReadsNothing shared.inner input) (taken : shared.stepActor actor input = .next effect) :
    effect.actor.Roused := by
  cases turns_of_step taken with
  | rests rests => exact rests.roused documented severed roused
  | @dialClaims remote point fresh next claimed claiming => cases claimed <;> exact trivial
  | @bindClaims port packets bytes point fresh next claimed claiming => cases claimed <;> exact trivial
  | @acceptClaims port pool handle fresh peer point next claimed claiming => cases claimed <;> exact trivial
  | @reads peer handle shutDown reading writing room socket place =>
    refine ⟨Bool.eq_false_iff.mpr fun waits => ?_, roused.2⟩
    have stuck := (pollRead_closed documented (Inner.state_of_stateAt severed place) room).1.mp waits
    have unread : shared.inner.unreadAt handle = smoltcp.recvQueue socket := by simp [Inner.unreadAt, place]
    exact attentive ⟨stuck.1, unread.symm ▸ stuck.2⟩
  | @writes peer handle reading writing data socket place =>
    exact ⟨roused.1, (pollWrite_closed documented (Inner.state_of_stateAt severed place) data).1⟩
  | shutsDown => exact ⟨roused.1, rfl⟩
  | bound => exact ⟨rfl, rfl⟩
  | sends place =>
    rw [stopped]
    exact ⟨rfl, roused.2⟩
  | receives place =>
    rw [stopped]
    exact ⟨roused.1, rfl⟩
  | scans running scanned => cases stopped.symm.trans running
  | resets => exact rfl
  | _ => exact trivial

theorem stepActor_answered {effect : Effect smoltcp} (dialled : actor.Dialled)
    (answered : actor.Answered shared.inner) (taken : shared.stepActor actor input = .next effect) :
    effect.actor.Answered effect.shared.inner := by
  cases turns_of_step taken with
  | rests rests =>
    cases rests with
    | unanswered place undecided refused =>
      -- The poll finds the socket closed and reports a refusal.
      refine absurd ?_ refused
      unfold pollConnect
      rw [Inner.state_of_stateAt answered.2 place]
    | _ => exact trivial
  | dialClaims claiming => exact dialled.elim
  | opens vacant drawn connected => exact dialled.elim
  | @bindClaims port packets bytes point fresh next claimed claiming => cases claimed <;> exact trivial
  | @acceptClaims port pool handle fresh peer point next claimed claiming => cases claimed <;> exact trivial
  | _ => exact trivial

theorem stepActor_notices {effect : Effect smoltcp} (stopped : shared.stopped = true)
    (taken : shared.stepActor actor input = .next effect) : effect.actor ≠ .waitStopped .asleep := by
  have follows := ((stepActor_flows actor input).of_next taken).follows
  intro asleep
  rw [asleep] at follows
  cases follows with
  | waitStopped =>
    cases turns_of_step taken with
    | rests rests =>
      cases rests with
      -- A waiter registers first and reads the flag second, so now it always sees it.
      | sleeps running => cases stopped.symm.trans running
      | _ => cases asleep

end Steps

section Runs
variable {smoltcp : Smoltcp} {stack next : Stack smoltcp}

/-- Once the sockets have been closed, nobody reads without room for what there is to read. -/
def Attentive (stack : Stack smoltcp) (action : Action smoltcp) : Prop :=
  stack.pump.hasShut = true → ∀ index input actor, action = .act index input →
    stack.actors[index]? = some actor → ¬ actor.ReadsNothing stack.shared.inner input

structure Freed (stack : Stack smoltcp) : Prop where
  roused : stack.pump.hasShut = true → ∀ actor ∈ stack.actors, actor.Roused
  noticed : stack.pump = .finished → ∀ actor ∈ stack.actors, actor ≠ .waitStopped .asleep

theorem StackCall.actor_roused (shared : Shared smoltcp) (call : StackCall) :
    (call.actor shared).Roused ∧ call.actor shared ≠ .waitStopped .asleep := by
  cases call with
  | resolve host =>
    unfold StackCall.actor
    dsimp only
    split <;> exact ⟨trivial, fun same => by cases same⟩
  | _ => exact ⟨trivial, fun same => by cases same⟩

theorem Actor.notify_awake (actor : Actor smoltcp) : actor.notify ≠ .waitStopped .asleep := by
  cases actor with
  | waitStopped point => cases point <;> exact fun same => by cases same
  | _ => exact fun same => by cases same

theorem Freed.step (documented : Documented smoltcp) (balanced : Balanced stack) (stopping : Stopping stack)
    (serving : ∀ actor ∈ stack.actors, actor.Serving) (freed : Freed stack) {action : Action smoltcp}
    (attentive : Attentive stack action) (taken : stack.step action = .next next) : Freed next := by
  cases Stack.moves_of_step taken with
  | call call =>
    have new := call.actor_roused stack.shared
    constructor
    · intro shut
      exact List.forall_mem_append.mpr ⟨freed.roused shut, List.forall_mem_singleton.mpr new.1⟩
    · intro finished
      exact List.forall_mem_append.mpr ⟨freed.noticed finished, List.forall_mem_singleton.mpr new.2⟩
  | @act index input actor effect found stepped =>
    have spawned := ((stepActor_flows actor input).of_next stepped).spawned
    have inside := List.mem_of_getElem? found
    constructor
    · intro shut
      have stopped := stopping.stopped_of_shut shut
      have own := stepActor_roused documented stopped (stopping.severed shut actor inside)
        (freed.roused shut actor inside) (attentive shut index input actor rfl found) stepped
      refine forall_mem_set_append (freed.roused shut) own ?_
      intro other new
      obtain ⟨-, peer, handle, rfl⟩ := spawned other new
      exact ⟨rfl, rfl⟩
    · intro finished
      change stack.pump = .finished at finished
      have own := stepActor_notices (stopping.flag (by simp [finished])) stepped
      refine forall_mem_set_append (freed.noticed finished) own ?_
      intro other new
      obtain ⟨-, peer, handle, rfl⟩ := spawned other new
      exact fun same => by cases same
  | elapse micros => exact ⟨freed.roused, freed.noticed⟩
  | poll running reclaimed =>
    constructor
    · intro shut
      change stack.pump.hasShut = true at shut
      rw [running] at shut
      cases shut
    · intro finished
      cases running.symm.trans finished
  | flag running => exact ⟨fun shut => (by cases shut), fun finished => (by cases finished)⟩
  | shut flagged =>
    -- Whoever registered a waker before this locked section is woken by it.
    refine ⟨fun _ => List.forall_mem_map.mpr ?_, fun finished => by cases finished⟩
    intro actor inside
    obtain ⟨index, found⟩ := List.mem_iff_getElem?.mp inside
    exact wake_roused (balanced.secured found) (serving actor inside)
  | notify shut =>
    have roused := freed.roused (by rw [shut]; rfl)
    constructor
    · intro _
      exact List.forall_mem_map.mpr fun actor inside => Actor.notify_keeps (fun _ => trivial) (roused actor inside)
    · intro _
      exact List.forall_mem_map.mpr fun actor _ => actor.notify_awake

structure Owed (index : Nat) (stack : Stack smoltcp) (actor : Actor smoltcp) : Prop where
  found : stack.actors[index]? = some actor
  dialled : actor.Dialled
  answered : stack.pump.hasShut = true → actor.Answered stack.shared.inner

theorem Owed.step (documented : Documented smoltcp) (balanced : Balanced stack) {index : Nat}
    {actor : Actor smoltcp} (owed : Owed index stack actor) {action : Action smoltcp}
    (taken : stack.step action = .next next) : ∃ after, Owed index next after := by
  have inside := (List.getElem?_eq_some_iff.mp owed.found).1
  cases Stack.moves_of_step taken with
  | call call =>
    refine ⟨actor, ?_, owed.dialled, owed.answered⟩
    rw [List.getElem?_append_left inside, owed.found]
  | @act other input acting effect found stepped =>
    by_cases here : other = index
    · subst here
      cases owed.found.symm.trans found
      refine ⟨effect.actor, getElem?_set_append_self found _, stepActor_dialled stepped owed.dialled, ?_⟩
      intro shut
      exact stepActor_answered owed.dialled (owed.answered shut) stepped
    · -- Somebody else's step: the dial and its socket stay as they are.
      refine ⟨actor, getElem?_set_append_ne owed.found here, owed.dialled, ?_⟩
      intro shut
      refine (owed.answered shut).frame ?_
      intro token held
      have conserves := (stepActor_conserves acting input (balanced.secured found)).of_next stepped
      exact balanced.bystander found owed.found here conserves held
  | elapse micros =>
    refine ⟨actor, owed.found, owed.dialled, ?_⟩
    intro shut
    exact (owed.answered shut).frame fun _ _ => rfl
  | @poll effect woken inner slots running reclaimed =>
    refine ⟨actor.wake woken, ?_, (actor.wake_stirs woken).dialled owed.dialled, ?_⟩
    · rw [List.getElem?_map, owed.found, Option.map_some]
    · intro shut
      change stack.pump.hasShut = true at shut
      rw [running] at shut
      cases shut
  | flag running => exact ⟨actor, owed.found, owed.dialled, fun shut => by cases shut⟩
  | shut flagged =>
    refine ⟨actor.wake stack.shared.inner.shutWoken, ?_, (actor.wake_stirs _).dialled owed.dialled, ?_⟩
    · rw [List.getElem?_map, owed.found, Option.map_some]
    · intro _
      exact wake_answered documented (balanced.secured owed.found)
  | notify shut =>
    refine ⟨actor.notify, ?_, actor.notify_stirs.dialled owed.dialled, ?_⟩
    · rw [List.getElem?_map, owed.found, Option.map_some]
    · intro _
      exact Actor.notify_keeps (fun _ => trivial) (owed.answered (by rw [shut]; rfl))

variable {before : Stack smoltcp} {actions : List (Action smoltcp)}

theorem freed_of_run (documented : Documented smoltcp) (reached : Reachable Stack.step Stack.Initial before)
    (early : before.pump.hasShut = false) (run : RunWhile Stack.step Attentive before actions stack) :
    Freed stack := by
  let holds (stack : Stack smoltcp) : Prop := Reachable Stack.step Stack.Initial stack ∧ Freed stack
  have start : holds before := by
    refine ⟨reached, ?_, ?_⟩
    · intro shut
      cases early.symm.trans shut
    · intro finished
      rw [finished] at early
      cases early
  refine (@RunWhile.preserves _ _ _ _ holds ?_ _ _ _ run start).2
  rintro stack action next ⟨reached, freed⟩ attentive taken
  have balanced := balanced_of_reachable reached
  have stopping := stopping_of_reachable documented reached
  have serving := serving_of_reachable documented reached
  exact ⟨reached.extend (.single trivial taken), freed.step documented balanced stopping serving attentive taken⟩

theorem owed_of_run (documented : Documented smoltcp) (reached : Reachable Stack.step Stack.Initial before)
    (early : before.pump.hasShut = false) {index : Nat} {actor : Actor smoltcp}
    (found : before.actors[index]? = some actor) (dialled : actor.Dialled)
    (run : Run Stack.step before actions stack) : ∃ after, Owed index stack after := by
  let holds (stack : Stack smoltcp) : Prop :=
    Reachable Stack.step Stack.Initial stack ∧ ∃ after, Owed index stack after
  have start : holds before := by
    refine ⟨reached, actor, found, dialled, ?_⟩
    intro shut
    cases early.symm.trans shut
  refine (@Run.preserves _ _ _ holds ?_ _ _ _ run start).2
  rintro stack action next ⟨reached, after, owed⟩ taken
  exact ⟨reached.extend (.single trivial taken), owed.step documented (balanced_of_reachable reached) taken⟩

end Runs

/-- Take any run that begins before the sockets are closed and goes on until `stop` is over, in
which nobody reads without room from a closed connection that has bytes left. At its end nobody
waits in `accept`, on a UDP socket, on a stream or for the stop, and no dial waits that had its
socket when the run began. -/
theorem no_waiter_stranded {smoltcp : Smoltcp} (documented : Documented smoltcp) {before stack : Stack smoltcp}
    (reached : Reachable Stack.step Stack.Initial before) (early : before.pump.hasShut = false)
    {actions : List (Action smoltcp)} (run : RunWhile Stack.step Attentive before actions stack)
    (finished : stack.pump = .finished) :
    (∀ actor ∈ stack.actors, actor.asleep = false) ∧
    ∀ (index : Nat) (remote : SocketAddr) (handle : Handle) (asleep : Bool),
      before.actors[index]? = some (.connecting remote (.wait handle asleep)) →
      ∀ remote handle, stack.actors[index]? ≠ some (.connecting remote (.wait handle true)) := by
  have shut : stack.pump.hasShut = true := by
    rw [finished]
    rfl
  constructor
  · intro actor member
    have freed := freed_of_run documented reached early run
    exact Actor.awake_of_roused (freed.roused shut actor member) (freed.noticed finished actor member)
  · intro index remote handle asleep found remote' handle' waits
    obtain ⟨after, owed⟩ := owed_of_run documented reached early found trivial run.toRun
    cases owed.found.symm.trans waits
    cases (owed.answered shut).1

theorem no_waiter_stranded_sleepers :
    ∃ before stack : Stack .reference, Reachable Stack.step Stack.Initial before ∧
      before.actors = [.listener 80 [1] (.polling true), .waitStopped .asleep,
        .connecting ⟨[10, 0, 0, 2], 80⟩ (.wait 2 true)] ∧
      Run Stack.step before [.stop, .stop, .stop] stack ∧ stack.pump = .finished ∧
      (∀ actor ∈ stack.actors, actor.asleep = false) ∧
      stack.actors[2]? ≠ some (.connecting ⟨[10, 0, 0, 2], 80⟩ (.wait 2 true)) := by
  let actions : List (Action .reference) :=
    [.call (.listen 80 1 0), .act 0 (.advance 0), .act 0 (.advance 0), .act 0 (.advance 1), .act 0 (.advance 0),
      .act 0 (.advance 0), .act 0 (.poll .accept), .call .waitStopped, .act 1 (.advance 0), .act 1 (.advance 0),
      .call (.connect ⟨[10, 0, 0, 2], 80⟩), .act 2 (.advance 0), .act 2 (.advance 0), .act 2 (.advance 2),
      .act 2 (.poll .connect)]
  have ran : ∃ before stack, execute Stack.step (.start ⟨true, false⟩ () true 0 65536) actions = .next before ∧
      before.actors = [.listener 80 [1] (.polling true), .waitStopped .asleep,
        .connecting ⟨[10, 0, 0, 2], 80⟩ (.wait 2 true)] ∧ before.pump.hasShut = false ∧
      RunWhile Stack.step Attentive before [.stop, .stop, .stop] stack ∧ stack.pump = .finished := by
    have met : ∀ stack : Stack .reference, Attentive stack .stop := by
      intro stack shut index input actor same
      cases same
    exact ⟨_, _, rfl, rfl, rfl, .next (met _) rfl (.next (met _) rfl (.next (met _) rfl .done)), rfl⟩
  obtain ⟨before, stack, ran, sleeping, early, run, finished⟩ := ran
  have reached : Reachable Stack.step Stack.Initial before :=
    ⟨_, actions, ⟨_, _, _, _, _, rfl⟩, run_of_execute ran⟩
  obtain ⟨awake, dials⟩ := no_waiter_stranded reference_documented reached early run finished
  have dial : before.actors[2]? = some (.connecting ⟨[10, 0, 0, 2], 80⟩ (.wait 2 true)) := by rw [sleeping]; rfl
  exact ⟨before, stack, reached, sleeping, run.toRun, finished, awake, dials 2 _ _ _ dial _ _⟩

/-- A read without room, taken between the closing of the sockets and the notification, on a
connection that has a byte left: it is never woken. -/
theorem roomless_read_stranded :
    ∃ stack : Stack .reference, Reachable Stack.step Stack.Initial stack ∧ stack.pump = .finished ∧
      stack.actors = [.stream ⟨[10, 0, 0, 2], 80⟩ 1 false true false] := by
  let established : PollEffect .reference :=
    ⟨id, fun _ (socket : ReferenceTcp) => { socket with state := .established, unread := [7] }, fun _ => id,
      fun _ => id⟩
  let actions : List (Action .reference) :=
    [.call (.connect ⟨[10, 0, 0, 2], 80⟩), .act 0 (.advance 0), .act 0 (.advance 0), .act 0 (.advance 1),
      .poll established ⟨fun _ => true, fun _ => true, false⟩, .act 0 (.poll .connect), .stop, .stop,
      .act 0 (.poll (.read 0)), .stop]
  have ran : ∃ stack, execute Stack.step (.start ⟨true, false⟩ () true 0 65536) actions = .next stack ∧
      stack.pump = .finished ∧ stack.actors = [.stream ⟨[10, 0, 0, 2], 80⟩ 1 false true false] := ⟨_, rfl, rfl, rfl⟩
  obtain ⟨stack, ran, finished, actors⟩ := ran
  exact ⟨stack, ⟨_, actions, ⟨_, _, _, _, _, rfl⟩, run_of_execute ran⟩, finished, actors⟩

end ProxyTunnels.Wireguard
