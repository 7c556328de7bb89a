import ProxyTunnels.Http3.SessionLimit

/-! What a returned HTTP/3 shutdown has achieved.

`shutdown` stops the sessions it finds in the list. A `retire` takes sessions out of the
list first and stops them one after the other, with awaits in between, so a shutdown
that returns in one of those awaits has not seen the rest; nor will anybody stop them if
the retire is dropped there. The run below that does this is the counterexample to the
unconditional statement. Nothing is ever pushed again, in any run.
-/

set_option autoImplicit false

namespace ProxyTunnels.Http3.Sessions
open Machine
variable {spec : Http3TunnelSpec} {state next : State} {action : Action}

/-- No shutdown returns while another call has sessions left to stop, and no call is dropped with any. -/
def Unhurried (state : State) (action : Action) : Prop :=
  Completes state action ∧ ∀ (index : Nat) (answer : Answer), action = .resume index answer →
    state.callers[index]? = some .joining →
    ∀ point ∈ state.callers, ∀ session ∈ point.pending, state.Stopped session

def Finished (state : State) : Prop :=
  Point.ended .shutDown ∈ state.callers →
    ∀ session < state.sessions.length, state.alive session = true → state.Stopped session

theorem Counted.stopped_of_joining (counted : Counted state) (joining : Point.joining ∈ state.callers)
    (settled : ∀ point ∈ state.callers, ∀ session ∈ point.pending, state.Stopped session) {session : Nat}
    (inside : session < state.sessions.length) (alive : state.alive session = true) :
    state.Stopped session := by
  rcases counted.tracked session inside alive with listed | ⟨point, member, waiting⟩ | stopped
  · rw [counted.drained .joining joining rfl] at listed
    cases listed
  · exact settled point member session waiting
  · exact stopped

theorem finished_step (counted : Counted state) (finished : Finished state)
    (unhurried : Unhurried state action) (taken : step spec state action = .next next) : Finished next := by
  intro returned session inside alive
  cases moves_of_step counted.sound unhurried.1 taken with
  | call call =>
    rcases List.mem_append.mp returned with before | added
    · exact finished before session inside (alive_of_call alive)
    · have same := List.mem_singleton.mp added
      cases call <;> cases same
  | @turn _ _ index old new origin turn =>
    rw [← turn.fades.1] at inside
    refine turn.fades.stopped ?_
    rcases turn.caller_cases returned with before | same
    · exact finished before session inside (turn.alive session alive)
    · obtain rfl := turn.returned same.symm
      rcases origin with ⟨answer, rfl⟩ | dropped
      · have settled := unhurried.2 index answer rfl turn.found
        exact counted.stopped_of_joining (List.mem_of_getElem? turn.found) settled inside
          (turn.alive session alive)
      · cases same.trans dropped
  | push found running =>
    cases (pushed_unflagged counted running returned).symm.trans rfl
  | fade fades sub =>
    have earlier : session < state.sessions.length := by
      rw [fades.1]
      exact inside
    exact Fades.stopped fades (finished returned session earlier (alive_of_fade sub alive))

/-- What every step keeps, also the drop of a call that has sessions left to stop: the flag
stays set, behind it the table does not grow, and no call gets behind it before it is set. -/
structure Guards (state next : State) : Prop where
  flag : state.stop = true → next.stop = true
  length : state.stop = true → next.sessions.length = state.sessions.length
  flagged : ∀ point ∈ next.callers, point.flagged = true → next.stop = true ∨ point ∈ state.callers ∨
    ∃ old ∈ state.callers, old.flagged = true

theorem guards_step (taken : step spec state action = .next next) : Guards state next := by
  cases action with
  | call call =>
    cases taken
    refine ⟨id, fun _ => rfl, fun point member flagged => ?_⟩
    rcases List.mem_append.mp member with before | added
    · exact Or.inr (Or.inl before)
    · rw [List.mem_singleton.mp added, call.start_idle.2.1] at flagged
      cases flagged
  | resume index answer =>
    unfold step at taken
    simp only at taken
    split at taken
    next => cases taken
    next old found =>
      rcases turn_of_resume found taken with ⟨new, turn⟩ | ⟨task, -, running, rfl⟩
      · refine ⟨turn.flag, fun _ => turn.fades.1.symm, fun point member flagged => ?_⟩
        rcases turn.caller_cases member with before | rfl
        · exact Or.inr (Or.inl before)
        · rcases turn.flagged flagged with stopped | already
          · exact Or.inl stopped
          · exact Or.inr (Or.inr ⟨old, List.mem_of_getElem? found, already⟩)
      · -- A push has found the flag clear.
        refine ⟨id, fun stopped => ?_, fun point member flagged => ?_⟩
        · cases running.symm.trans stopped
        · rcases List.mem_or_eq_of_mem_set member with before | rfl
          · exact Or.inr (Or.inl before)
          · cases (task.resume_idle _).2.1.symm.trans flagged
  | drop index =>
    unfold step at taken
    simp only at taken
    split at taken
    next => cases taken
    next =>
      obtain ⟨-, same⟩ := Outcome.guarded_eq_next.mp taken
      cases same
      refine ⟨id, fun _ => rfl, fun point member flagged => ?_⟩
      rcases List.mem_or_eq_of_mem_set member with before | rfl
      · exact Or.inr (Or.inl before)
      · cases flagged
  | lose session =>
    cases taken
    rw [State.change_eq]
    exact ⟨id, fun _ => (State.change_fades state session Session.fades_closed).1.symm,
      fun _ member _ => Or.inr (Or.inl member)⟩
  | finish session =>
    cases taken
    rw [State.change_eq]
    exact ⟨id, fun _ => (State.change_fades state session Session.fades_finish).1.symm,
      fun _ member _ => Or.inr (Or.inl member)⟩
  | dropStream index =>
    cases taken
    exact ⟨id, fun _ => rfl, fun _ member _ => Or.inr (Or.inl member)⟩

theorem stop_of_returned {actions : List Action} (run : Run (step spec) .new actions state)
    (returned : Point.ended .shutDown ∈ state.callers) : state.stop = true := by
  let behind : State → Prop := fun state => ∀ point ∈ state.callers, point.flagged = true → state.stop = true
  have kept : ∀ (state : State) (action : Action) (next : State), behind state →
      step spec state action = .next next → behind next := by
    intro state action next held taken point member flagged
    have guards := guards_step taken
    rcases guards.flagged point member flagged with stopped | before | ⟨old, before, already⟩
    · exact stopped
    · exact guards.flag (held point before flagged)
    · exact guards.flag (held old before already)
  have held : behind state := run.preserves kept nofun
  exact held _ returned rfl

theorem length_of_stopped_run {actions : List Action} {later : State}
    (run : Run (step spec) state actions later) (stopped : state.stop = true) :
    later.sessions.length = state.sessions.length := by
  induction run with
  | done => rfl
  | next _ taken _ ih =>
    have guards := guards_step taken
    exact (ih (guards.flag stopped)).trans (guards.length stopped)

theorem finished_of_run {actions : List Action} (run : RunWhile (step spec) Unhurried .new actions state) :
    Counted state ∧ Finished state := by
  let holds : State → Prop := fun state => Counted state ∧ Finished state
  refine @RunWhile.preserves _ _ _ _ holds ?_ _ _ _ run ⟨counted_new, nofun⟩
  rintro state action next ⟨counted, finished⟩ unhurried taken
  exact ⟨counted_step counted unhurried.1 taken, finished_step counted finished unhurried taken⟩

/-- Once a shutdown has returned no session is pushed any more; and if no shutdown returned
while another call had sessions left to stop and no call was dropped with any, then every
session that was pushed and is still alive is stopped and closed. -/
theorem shutdown_complete (spec : Http3TunnelSpec) {actions : List Action} {state : State}
    (run : Run (step spec) .new actions state) {index : Nat}
    (returned : state.callers[index]? = some (.ended .shutDown)) :
    (RunWhile (step spec) Unhurried .new actions state → ∀ (session : Nat) (entry : Session),
      state.sessions[session]? = some entry → state.alive session = true →
      entry.stopped = true ∧ entry.closed = true) ∧
    (∀ (more : List Action) (later : State), Run (step spec) state more later →
      later.sessions.length = state.sessions.length) := by
  have member := List.mem_of_getElem? returned
  constructor
  · intro unhurried session entry found alive
    obtain ⟨counted, finished⟩ := finished_of_run unhurried
    have inside := (List.getElem?_eq_some_iff.mp found).1
    have stopped := finished member session inside alive entry found
    exact ⟨stopped, counted.sound session entry found stopped⟩
  · intro more later continued
    exact length_of_stopped_run continued (stop_of_returned run member)

def unhurried (state : State) : Action → Bool
  | .drop _ => false
  | .resume index _ => state.callers[index]? != some .joining ||
      state.callers.all fun point => point.pending.isEmpty
  | _ => true

theorem unhurried_meets (state : State) (action : Action) (checked : unhurried state action = true) :
    Unhurried state action := by
  cases action with
  | drop index => cases checked
  | resume index answer =>
    refine ⟨trivial, ?_⟩
    rintro _ _ ⟨⟩ joining point member session waiting
    simp only [unhurried, joining, bne_self_eq_false, Bool.false_or, List.all_eq_true] at checked
    rw [List.isEmpty_iff.mp (checked point member)] at waiting
    cases waiting
  | _ => exact ⟨trivial, nofun⟩

/-- A retire empties the list while a stream holds its session; the shutdown that follows
returns with that session stopped, as well as the one pushed after it. -/
theorem shutdown_complete_after_retire :
    ∃ state, RunWhile (step ⟨"proxy", 443, 0⟩) Unhurried .new
      [.call .dial, .resume 0 .proceed, .resume 0 (.permitted true), .resume 0 .proceed, .resume 0 .proceed,
        .resume 0 (.connected (.ok ())), .resume 0 .proceed, .resume 0 (.requested .accepted),
        .call .retire, .resume 1 .proceed, .resume 1 .proceed, .resume 1 .proceed, .resume 1 .proceed,
        .resume 1 .proceed, .call .prepare, .resume 2 .proceed, .resume 2 .proceed,
        .resume 2 (.connected (.ok ())), .resume 2 .proceed, .call .shutdown, .resume 3 .proceed,
        .resume 3 .proceed, .resume 3 .proceed, .resume 3 .proceed, .resume 3 .proceed] state ∧
      state.alive 0 = true ∧ (state.sessions[0]?).map Session.stopped = some true ∧
      state.sessions.length = 2 := by
  have run : ∃ state, RunWhile (step ⟨"proxy", 443, 0⟩) Unhurried .new
      [.call .dial, .resume 0 .proceed, .resume 0 (.permitted true), .resume 0 .proceed, .resume 0 .proceed,
        .resume 0 (.connected (.ok ())), .resume 0 .proceed, .resume 0 (.requested .accepted),
        .call .retire, .resume 1 .proceed, .resume 1 .proceed, .resume 1 .proceed, .resume 1 .proceed,
        .resume 1 .proceed, .call .prepare, .resume 2 .proceed, .resume 2 .proceed,
        .resume 2 (.connected (.ok ())), .resume 2 .proceed, .call .shutdown, .resume 3 .proceed,
        .resume 3 .proceed, .resume 3 .proceed, .resume 3 .proceed, .resume 3 .proceed] state ∧
      state.callers[3]? = some (.ended .shutDown) ∧ state.alive 0 = true ∧ state.sessions.length = 2 :=
    ⟨_, runWhile_of_execute unhurried_meets rfl, rfl, rfl, rfl⟩
  obtain ⟨state, run, returned, alive, two⟩ := run
  have inside : 0 < state.sessions.length := by omega
  have found := List.getElem?_eq_getElem inside
  have stopped := (shutdown_complete _ run.toRun returned).1 run 0 _ found alive
  refine ⟨state, run, alive, ?_, two⟩
  rw [found]
  exact congrArg some stopped.1

/-- Two sessions, each held by a stream. A retire has stopped the first and waits for its
endpoint when a shutdown runs and returns: the second is alive and was not stopped. -/
theorem shutdown_overtakes_retire :
    ∃ state, Run (step ⟨"proxy", 443, 0⟩) .new
      [.call .dial, .resume 0 .proceed, .resume 0 (.permitted true), .resume 0 .proceed, .resume 0 .proceed,
        .resume 0 (.connected (.ok ())), .resume 0 .proceed, .resume 0 (.requested .accepted), .lose 0,
        .call .dial, .resume 1 .proceed, .resume 1 (.permitted true), .resume 1 .proceed, .resume 1 .proceed,
        .resume 1 (.connected (.ok ())), .resume 1 .proceed, .resume 1 (.requested .accepted),
        .call .retire, .resume 2 .proceed, .resume 2 .proceed, .resume 2 .proceed,
        .call .shutdown, .resume 3 .proceed, .resume 3 .proceed, .resume 3 .proceed, .resume 3 .proceed] state ∧
      state.callers[2]? = some (.idling 0 [1]) ∧ state.callers[3]? = some (.ended .shutDown) ∧
      state.alive 1 = true ∧ state.sessions[1]? = some .new :=
  ⟨_, run_of_execute rfl, rfl, rfl, rfl, rfl⟩

end ProxyTunnels.Http3.Sessions
