import ProxyTunnels.Http3.SessionSteps

/-! How many sessions an HTTP/3 provider can have, and how many of them in use.

The limit is checked in one critical section and the session pushed in another, with
awaits in between; what ties them together is `connect_lock`. `Counted` is the invariant
of every run in which no call is dropped with sessions left to stop: a live session that
was not stopped is in the list or owed by the call that took it out, a usable one is the
current session or owed likewise, and list and debts together stay within the limit.
-/

set_option autoImplicit false

namespace ProxyTunnels.Http3.Sessions
open Machine

structure Counted (state : State) : Prop where
  alone : Exclusive Point.holdsLock state.callers
  sound : state.Sound
  flagged : ∀ point ∈ state.callers, point.flagged = true → state.stop = true
  drained : ∀ point ∈ state.callers, point.drained = true → state.all = []
  listed : ∀ session, state.current = some session → session ∈ state.all
  tracked : ∀ session < state.sessions.length, state.alive session = true →
    session ∈ state.all ∨ (∃ point ∈ state.callers, session ∈ point.pending) ∨ state.Stopped session
  held : ∀ session, state.alive session = true → state.usable session = true →
    state.current = some session ∨ ∃ point ∈ state.callers, session ∈ point.pending
  count : state.all.length + total (fun point => point.pending.length) state.callers ≤ maxSessions
  room : ∀ point ∈ state.callers, point.connects = true → state.all.length < maxSessions
  /-- Past the check nothing is in use, or the push will find the flag set. -/
  lone : ∀ point ∈ state.callers, point.connects = true →
    state.stop = true ∨ ∀ session, state.alive session = true → state.usable session = false
  unique : ∀ first second, state.alive first = true → state.usable first = true →
    state.alive second = true → state.usable second = true → first = second

section Points

theorem Point.holdsLock_or_flagged {point : Point} {session : Nat} (owed : session ∈ point.pending) :
    point.holdsLock = true ∨ point.flagged = true := by
  cases point with
  | retiring rest => exact Or.inl rfl
  | idling head rest => exact Or.inl rfl
  | stopping left done => exact Or.inr rfl
  | _ => cases owed

theorem Point.holdsLock_of_connects {point : Point} (connects : point.connects = true) :
    point.holdsLock = true := by
  cases point <;> first | rfl | cases connects

theorem Point.flagged_of_drained {point : Point} (drained : point.drained = true) :
    point.flagged = true := by
  unfold Point.drained at drained
  split at drained
  · rfl
  · rfl
  · rfl
  · cases drained

variable {callers : List Point} {index session : Nat} {old new : Point}

theorem pending_of_set (found : callers[index]? = some old)
    (owed : ∃ point ∈ callers, session ∈ point.pending) :
    session ∈ old.pending ∨ ∃ point ∈ callers.set index new, session ∈ point.pending := by
  obtain ⟨point, member, waiting⟩ := owed
  obtain ⟨place, there⟩ := List.mem_iff_getElem?.mp member
  by_cases same : place = index
  · subst same
    cases found.symm.trans there
    exact Or.inl waiting
  · refine Or.inr ⟨point, List.mem_of_getElem? (i := place) ?_, waiting⟩
    rw [List.getElem?_set_ne (Ne.symm same), there]

end Points

section Calls
variable {state : State}

theorem Call.start_idle (call : Call) : call.start.holdsLock = false ∧ call.start.flagged = false ∧
    call.start.drained = false ∧ call.start.connects = false ∧ call.start.pending = [] := by
  cases call <;> exact ⟨rfl, rfl, rfl, rfl, rfl⟩

theorem counted_call (counted : Counted state) (call : Call) :
    Counted { state with callers := state.callers ++ [call.start] } := by
  obtain ⟨outside, unflagged, undrained, unconnected, owesNothing⟩ := call.start_idle
  have older : ∀ point ∈ state.callers ++ [call.start], point ∈ state.callers ∨ point = call.start := by
    intro point member
    rcases List.mem_append.mp member with before | added
    · exact Or.inl before
    · exact Or.inr (List.mem_singleton.mp added)
  have owed : ∀ session, (∃ point ∈ state.callers, session ∈ point.pending) →
      ∃ point ∈ state.callers ++ [call.start], session ∈ point.pending := by
    rintro session ⟨point, member, waiting⟩
    exact ⟨point, List.mem_append_left _ member, waiting⟩
  constructor
  case alone =>
    exact counted.alone.concat outside
  case sound =>
    exact counted.sound
  case flagged =>
    intro point member flagged
    rcases older point member with before | rfl
    · exact counted.flagged point before flagged
    · rw [unflagged] at flagged
      cases flagged
  case drained =>
    intro point member drained
    rcases older point member with before | rfl
    · exact counted.drained point before drained
    · rw [undrained] at drained
      cases drained
  case listed =>
    exact counted.listed
  case tracked =>
    intro session inside alive
    rcases counted.tracked session inside (alive_of_call alive) with listed | waiting | stopped
    · exact Or.inl listed
    · exact Or.inr (Or.inl (owed session waiting))
    · exact Or.inr (Or.inr stopped)
  case held =>
    intro session alive usable
    rcases counted.held session (alive_of_call alive) usable with holding | waiting
    · exact Or.inl holding
    · exact Or.inr (owed session waiting)
  case count =>
    have count := counted.count
    change state.all.length + total _ (state.callers ++ [call.start]) ≤ _
    rw [total_append, total_cons, owesNothing, total_nil]
    exact count
  case room =>
    intro point member connects
    rcases older point member with before | rfl
    · exact counted.room point before connects
    · rw [unconnected] at connects
      cases connects
  case lone =>
    intro point member connects
    rcases older point member with before | rfl
    · rcases counted.lone point before connects with stopped | none
      · exact Or.inl stopped
      · exact Or.inr fun session alive => none session (alive_of_call alive)
    · rw [unconnected] at connects
      cases connects
  case unique =>
    intro first second alive usable other worth
    exact counted.unique first second (alive_of_call alive) usable (alive_of_call other) worth

end Calls

section Turns
variable {state next : State} {index : Nat} {old new : Point}

theorem Fades.sound (fades : Fades state.sessions next.sessions) (sound : state.Sound) : next.Sound := by
  intro session entry found stopped
  have inside : session < state.sessions.length := by
    rw [fades.1]
    exact (List.getElem?_eq_some_iff.mp found).1
  have before := List.getElem?_eq_getElem inside
  obtain ⟨now, there, older⟩ := fades.2 session _ before
  cases there.symm.trans found
  exact older.closed (sound session _ before) stopped

theorem Counted.owed_by (counted : Counted state) (found : state.callers[index]? = some old)
    (locked : old.holdsLock = true) {point : Point} {session : Nat} (member : point ∈ state.callers)
    (waiting : session ∈ point.pending) : point = old ∨ state.stop = true := by
  rcases Point.holdsLock_or_flagged waiting with inside | flagged
  · obtain ⟨place, there⟩ := List.mem_iff_getElem?.mp member
    have same := counted.alone _ _ _ _ there found inside locked
    subst same
    cases found.symm.trans there
    exact Or.inl rfl
  · exact Or.inr (counted.flagged point member flagged)

theorem Counted.unused (counted : Counted state) (found : state.callers[index]? = some old)
    (locked : old.holdsLock = true) (owes : old.pending = [])
    (current : ∀ session, state.current = some session → state.usable session = false) :
    state.stop = true ∨ ∀ session, state.alive session = true → state.usable session = false := by
  by_cases stopped : state.stop = true
  · exact Or.inl stopped
  · refine Or.inr fun session alive => ?_
    cases usable : state.usable session with
    | false => rfl
    | true =>
      rcases counted.held session alive usable with holding | ⟨point, member, waiting⟩
      · rw [current session holding] at usable
        cases usable
      · rcases counted.owed_by found locked member waiting with rfl | flagged
        · rw [owes] at waiting
          cases waiting
        · exact absurd flagged stopped

theorem Turn.caller_cases (turn : Turn state next index old new) {point : Point}
    (member : point ∈ next.callers) : point ∈ state.callers ∨ point = new := by
  rw [turn.callers] at member
  exact List.mem_or_eq_of_mem_set member

theorem Turn.owed (turn : Turn state next index old new) {session : Nat}
    (waiting : ∃ point ∈ state.callers, session ∈ point.pending) :
    session ∈ old.pending ∨ ∃ point ∈ next.callers, session ∈ point.pending := by
  rw [turn.callers]
  exact pending_of_set turn.found waiting

theorem Turn.owed_new (turn : Turn state next index old new) {session : Nat} (waiting : session ∈ new.pending) :
    ∃ point ∈ next.callers, session ∈ point.pending := by
  refine ⟨new, ?_, waiting⟩
  rw [turn.callers]
  exact mem_set_found turn.found

theorem Turn.keeps_tracked (turn : Turn state next index old new) (counted : Counted state) {session : Nat}
    (inside : session < next.sessions.length) (alive : next.alive session = true) :
    session ∈ next.all ∨ (∃ point ∈ next.callers, session ∈ point.pending) ∨ next.Stopped session := by
  have accounted : session ∈ state.all ∨ session ∈ old.pending →
      session ∈ next.all ∨ (∃ point ∈ next.callers, session ∈ point.pending) ∨ next.Stopped session := by
    intro tracked
    rcases turn.kept session tracked alive with listed | waiting | stopped
    · exact Or.inl listed
    · exact Or.inr (Or.inl (turn.owed_new waiting))
    · exact Or.inr (Or.inr stopped)
  rw [← turn.fades.1] at inside
  rcases counted.tracked session inside (turn.alive session alive) with listed | waiting | stopped
  · exact accounted (Or.inl listed)
  · rcases turn.owed waiting with own | other
    · exact accounted (Or.inr own)
    · exact Or.inr (Or.inl other)
  · exact Or.inr (Or.inr (turn.fades.stopped stopped))

theorem Turn.keeps_held (turn : Turn state next index old new) (counted : Counted state) {session : Nat}
    (alive : next.alive session = true) (usable : next.usable session = true) :
    next.current = some session ∨ ∃ point ∈ next.callers, session ∈ point.pending := by
  have accounted : (state.current = some session ∧ session ∈ state.all) ∨ session ∈ old.pending →
      next.current = some session ∨ ∃ point ∈ next.callers, session ∈ point.pending := by
    intro tracked
    rcases turn.held session tracked usable alive with holding | waiting
    · exact Or.inl holding
    · exact Or.inr (turn.owed_new waiting)
  rcases counted.held session (turn.alive session alive) (turn.fades.usable usable) with holding | waiting
  · exact accounted (Or.inl ⟨holding, counted.listed session holding⟩)
  · rcases turn.owed waiting with own | other
    · exact accounted (Or.inr own)
    · exact Or.inr other

theorem Turn.keeps_room (turn : Turn state next index old new) (counted : Counted state) {point : Point}
    (member : point ∈ next.callers) (connects : point.connects = true) :
    next.all.length < maxSessions := by
  have shorter := turn.sub.length_le
  rcases turn.caller_cases member with before | rfl
  · exact Nat.lt_of_le_of_lt shorter (counted.room point before connects)
  · rcases turn.room connects with room | earlier
    · exact room
    · exact Nat.lt_of_le_of_lt shorter (counted.room old (List.mem_of_getElem? turn.found) earlier)

theorem Turn.keeps_lone (turn : Turn state next index old new) (counted : Counted state) {point : Point}
    (member : point ∈ next.callers) (connects : point.connects = true) :
    next.stop = true ∨ ∀ session, next.alive session = true → next.usable session = false := by
  have before : state.stop = true ∨ ∀ session, state.alive session = true →
      state.usable session = false := by
    rcases turn.caller_cases member with before | rfl
    · exact counted.lone point before connects
    · rcases turn.lone connects with earlier | ⟨locked, owes, current⟩
      · exact counted.lone old (List.mem_of_getElem? turn.found) earlier
      · exact counted.unused turn.found locked owes current
  rcases before with stopped | none
  · exact Or.inl (turn.flag stopped)
  · refine Or.inr fun session alive => ?_
    cases usable : next.usable session with
    | false => rfl
    | true => cases (none session (turn.alive session alive)).symm.trans (turn.fades.usable usable)

theorem Turn.keeps_drained (turn : Turn state next index old new) (counted : Counted state) {point : Point}
    (member : point ∈ next.callers) (drained : point.drained = true) : next.all = [] := by
  have nothing : state.all = [] → next.all = [] := by
    intro empty
    exact List.sublist_nil.mp (empty ▸ turn.sub)
  rcases turn.caller_cases member with before | rfl
  · exact nothing (counted.drained point before drained)
  · rcases turn.drained drained with empty | earlier
    · exact empty
    · exact nothing (counted.drained old (List.mem_of_getElem? turn.found) earlier)

theorem Turn.keeps_counted (turn : Turn state next index old new) (counted : Counted state) :
    Counted next where
  alone := by
    rw [turn.callers]
    exact counted.alone.turn turn.found turn.entitled
  sound := turn.fades.sound counted.sound
  flagged := by
    intro point member flagged
    rcases turn.caller_cases member with before | rfl
    · exact turn.flag (counted.flagged point before flagged)
    · rcases turn.flagged flagged with stopped | earlier
      · exact stopped
      · exact turn.flag (counted.flagged old (List.mem_of_getElem? turn.found) earlier)
  drained := fun _ => turn.keeps_drained counted
  listed := by
    intro session holding
    obtain ⟨before, kept⟩ := turn.current session holding
    exact kept (counted.listed session before)
  tracked := fun _ => turn.keeps_tracked counted
  held := fun _ => turn.keeps_held counted
  count := by
    rw [turn.callers]
    -- What leaves the list without being stopped is owed by the caller itself.
    have exchanged := total_set (fun point : Point => point.pending.length) turn.found new
    have count := counted.count
    have shift := turn.count
    omega
  room := fun _ => turn.keeps_room counted
  lone := fun _ => turn.keeps_lone counted
  unique := by
    intro first second alive usable other worth
    exact counted.unique first second (turn.alive first alive) (turn.fades.usable usable)
      (turn.alive second other) (turn.fades.usable worth)

end Turns

section Pushes
variable {state : State} {index : Nat} {task : Task}

theorem Counted.owes_nothing (counted : Counted state)
    (found : state.callers[index]? = some (.register task)) (running : state.stop = false)
    {point : Point} (member : point ∈ state.callers) : point.pending = [] := by
  cases owed : point.pending with
  | nil => rfl
  | cons session rest =>
    have waiting : session ∈ point.pending := by
      rw [owed]
      exact List.mem_cons_self
    rcases counted.owed_by found rfl member waiting with rfl | stopped
    · cases waiting
    · cases running.symm.trans stopped

theorem Task.resume_idle (task : Task) (session : Nat) : (task.resume session).holdsLock = false ∧
    (task.resume session).flagged = false ∧ (task.resume session).drained = false ∧
    (task.resume session).connects = false ∧ (task.resume session).pending = [] := by
  cases task <;> exact ⟨rfl, rfl, rfl, rfl, rfl⟩

theorem Counted.pushed_outside (counted : Counted state)
    (found : state.callers[index]? = some (.register task)) {point : Point}
    (member : point ∈ (state.pushed index task).callers) : point.holdsLock = false := by
  obtain ⟨place, there⟩ := List.mem_iff_getElem?.mp member
  rcases mem_set_cases there with ⟨-, rfl⟩ | ⟨apart, there⟩
  · exact (task.resume_idle _).1
  · exact counted.alone.outside found rfl there apart

theorem pushed_unflagged (counted : Counted state) (running : state.stop = false) {point : Point}
    (member : point ∈ (state.pushed index task).callers) : point.flagged = false := by
  rcases List.mem_or_eq_of_mem_set member with before | rfl
  · cases flagged : point.flagged with
    | false => rfl
    | true => cases running.symm.trans (counted.flagged point before flagged)
  · exact (task.resume_idle _).2.1

theorem pushed_sessions_cases {session : Nat} {entry : Session}
    (found : (state.pushed index task).sessions[session]? = some entry) :
    (session = state.sessions.length ∧ entry = .new) ∨ state.sessions[session]? = some entry :=
  mem_concat_cases found

theorem Counted.pushed_usable (counted : Counted state)
    (found : state.callers[index]? = some (.register task)) (running : state.stop = false) {session : Nat}
    (alive : (state.pushed index task).alive session = true)
    (usable : (state.pushed index task).usable session = true) : session = state.sessions.length := by
  rcases alive_of_push alive with fresh | before
  · exact fresh
  · rcases counted.lone _ (List.mem_of_getElem? found) rfl with stopped | none
    · cases running.symm.trans stopped
    · have unusable := none session before
      unfold State.usable at usable unusable
      split at usable
      next entry there =>
        rcases pushed_sessions_cases there with ⟨fresh, -⟩ | old
        · exact fresh
        · rw [old] at unusable
          cases unusable.symm.trans usable
      next => cases usable

theorem counted_push (counted : Counted state) (found : state.callers[index]? = some (.register task))
    (running : state.stop = false) : Counted (state.pushed index task) where
  alone := by
    refine counted.alone.set found fun inside => ?_
    rw [(task.resume_idle _).1] at inside
    cases inside
  sound := by
    intro session entry there stopped
    rcases pushed_sessions_cases there with ⟨-, rfl⟩ | before
    · cases stopped
    · exact counted.sound session entry before stopped
  flagged := by
    intro point member flagged
    cases (pushed_unflagged counted running member).symm.trans flagged
  drained := by
    intro point member drained
    cases (pushed_unflagged counted running member).symm.trans (Point.flagged_of_drained drained)
  listed := by
    intro session holding
    cases holding
    exact List.mem_append_right _ (List.mem_singleton_self _)
  tracked := by
    intro session inside alive
    by_cases fresh : session = state.sessions.length
    · subst fresh
      exact Or.inl (List.mem_append_right _ (List.mem_singleton_self _))
    · have earlier : session < state.sessions.length := by
        change session < (state.sessions ++ [Session.new]).length at inside
        rw [List.length_append, List.length_singleton] at inside
        omega
      have before := (alive_of_push alive).resolve_left fresh
      rcases counted.tracked session earlier before with listed | ⟨point, member, waiting⟩ | stopped
      · exact Or.inl (List.mem_append_left _ listed)
      · rw [counted.owes_nothing found running member] at waiting
        cases waiting
      · refine Or.inr (Or.inr fun entry there => ?_)
        rcases pushed_sessions_cases there with ⟨same, -⟩ | old
        · exact absurd same fresh
        · exact stopped entry old
  held := by
    intro session alive usable
    rw [counted.pushed_usable found running alive usable]
    exact Or.inl rfl
  count := by
    have room := counted.room _ (List.mem_of_getElem? found) rfl
    have nothing : total (fun point : Point => point.pending.length) (state.pushed index task).callers = 0 := by
      refine total_eq_zero fun point member => ?_
      rcases List.mem_or_eq_of_mem_set member with before | rfl
      · rw [counted.owes_nothing found running before]
        rfl
      · rw [(task.resume_idle _).2.2.2.2]
        rfl
    rw [nothing]
    change (state.all ++ [state.sessions.length]).length + 0 ≤ maxSessions
    rw [List.length_append, List.length_singleton]
    exact room
  room := by
    intro point member connects
    cases (counted.pushed_outside found member).symm.trans (Point.holdsLock_of_connects connects)
  lone := by
    intro point member connects
    cases (counted.pushed_outside found member).symm.trans (Point.holdsLock_of_connects connects)
  unique := by
    intro first second alive usable other worth
    rw [counted.pushed_usable found running alive usable, counted.pushed_usable found running other worth]

end Pushes

section Fading
variable {state : State} {sessions : List Session} {streams : List Nat}

theorem counted_fade (counted : Counted state) (fades : Fades state.sessions sessions)
    (sub : ∀ session ∈ streams, session ∈ state.streams) :
    Counted { state with sessions := sessions, streams := streams } where
  alone := counted.alone
  sound := by
    have sound : State.Sound { state with sessions := sessions, streams := streams } :=
      Fades.sound fades counted.sound
    exact sound
  flagged := counted.flagged
  drained := counted.drained
  listed := counted.listed
  tracked := by
    intro session inside alive
    have earlier : session < state.sessions.length := by
      rw [fades.1]
      exact inside
    rcases counted.tracked session earlier (alive_of_fade sub alive) with listed | waiting | stopped
    · exact Or.inl listed
    · exact Or.inr (Or.inl waiting)
    · exact Or.inr (Or.inr (Fades.stopped fades stopped))
  held := fun session alive usable => counted.held session (alive_of_fade sub alive) (Fades.usable fades usable)
  count := counted.count
  room := counted.room
  lone := by
    intro point member connects
    rcases counted.lone point member connects with stopped | none
    · exact Or.inl stopped
    · refine Or.inr fun session alive => ?_
      cases usable : State.usable { state with sessions := sessions, streams := streams } session with
      | false => rfl
      | true => cases (none session (alive_of_fade sub alive)).symm.trans (Fades.usable fades usable)
  unique := fun first second alive usable other worth =>
    counted.unique first second (alive_of_fade sub alive) (Fades.usable fades usable)
      (alive_of_fade sub other) (Fades.usable fades worth)

end Fading

section Runs
variable {spec : Http3TunnelSpec} {state next : State} {action : Action}

theorem counted_step (counted : Counted state) (completes : Completes state action)
    (taken : step spec state action = .next next) : Counted next := by
  cases moves_of_step counted.sound completes taken with
  | call call => exact counted_call counted call
  | turn _ turn => exact turn.keeps_counted counted
  | push found running => exact counted_push counted found running
  | fade fades sub => exact counted_fade counted fades sub

theorem counted_new : Counted State.new where
  alone := exclusive_nil
  sound := nofun
  flagged := nofun
  drained := nofun
  listed := nofun
  tracked := nofun
  held := by
    intro session _ usable
    cases usable
  count := by decide
  room := nofun
  lone := nofun
  unique := by
    intro first _ _ usable
    cases usable

/-- No `retire` is dropped between taking the sessions out of the list and stopping the last. -/
def RetiresComplete (state : State) : Action → Prop
  | .drop index => ∀ session rest, state.callers[index]? ≠ some (.idling session rest)
  | _ => True

theorem completes_of_retiresComplete (completes : RetiresComplete state action) : Completes state action := by
  cases action with
  | drop index =>
    intro point found awaiting session owed
    cases point with
    | idling head rest => exact absurd found (completes head rest)
    | retiring rest => cases awaiting
    | stopping left done => cases awaiting
    | _ => cases owed
  | _ => exact trivial

theorem counted_of_run {actions : List Action}
    (run : RunWhile (step spec) RetiresComplete .new actions state) : Counted state :=
  RunWhile.preserves (fun _ _ _ counted completes taken =>
    counted_step counted (completes_of_retiresComplete completes) taken) run counted_new

theorem Moves.length_le (moves : Moves state action next) : state.sessions.length ≤ next.sessions.length := by
  cases moves with
  | call call => exact Nat.le_refl _
  | turn _ turn => exact Nat.le_of_eq turn.fades.1
  | push found running =>
    change _ ≤ (state.sessions ++ [Session.new]).length
    rw [List.length_append]
    omega
  | fade fades sub => exact Nat.le_of_eq fades.1

theorem Moves.usable (moves : Moves state action next) {session : Nat}
    (inside : session < state.sessions.length) (usable : next.usable session = true) :
    state.usable session = true := by
  cases moves with
  | call call => exact usable
  | turn _ turn => exact turn.fades.usable usable
  | @push index task answer found running =>
    have same : (state.pushed index task).sessions[session]? = state.sessions[session]? :=
      List.getElem?_append_left inside
    unfold State.usable at usable ⊢
    rw [same] at usable
    exact usable
  | fade fades sub => exact Fades.usable fades usable

theorem unusable_of_run {actions : List Action} {later : State}
    (run : RunWhile (step spec) RetiresComplete state actions later) (counted : Counted state) {session : Nat}
    (inside : session < state.sessions.length) (unusable : state.usable session = false) :
    later.usable session = false := by
  induction run with
  | done => exact unusable
  | @next state middle later action rest completes taken _ ih =>
    have finishes := completes_of_retiresComplete completes
    have moves := moves_of_step counted.sound finishes taken
    refine ih (counted_step counted finishes taken) (Nat.lt_of_lt_of_le inside moves.length_le) ?_
    cases usable : middle.usable session with
    | false => rfl
    | true => cases unusable.symm.trans (moves.usable inside usable)

theorem Counted.length_le (counted : Counted state) {sessions : List Nat} (distinct : sessions.Nodup)
    (live : ∀ session ∈ sessions, ∃ entry, state.sessions[session]? = some entry ∧
      state.alive session = true ∧ entry.stopped = false) : sessions.length ≤ maxSessions := by
  have accounted : sessions ⊆ state.all ++ state.callers.flatMap Point.pending := by
    intro session member
    obtain ⟨entry, found, alive, unstopped⟩ := live session member
    have inside := (List.getElem?_eq_some_iff.mp found).1
    rcases counted.tracked session inside alive with listed | ⟨point, calling, waiting⟩ | stopped
    · exact List.mem_append_left _ listed
    · exact List.mem_append_right _ (List.mem_flatMap.mpr ⟨point, calling, waiting⟩)
    · cases unstopped.symm.trans (stopped entry found)
  have shorter := (List.subperm_of_subset distinct accounted).length_le
  rw [List.length_append, List.length_flatMap] at shorter
  exact shorter.trans counted.count

/-- In every state reached with retires running to their end: at most `MAX_SESSIONS`
registered sessions are alive and not stopped, at most one is usable, and none becomes
usable again. A session is pushed only when none that is alive is usable. -/
theorem session_limit (spec : Http3TunnelSpec) {actions : List Action} {state : State}
    (run : RunWhile (step spec) RetiresComplete .new actions state) :
    (∀ sessions : List Nat, sessions.Nodup →
      (∀ session ∈ sessions, ∃ entry, state.sessions[session]? = some entry ∧
        state.alive session = true ∧ entry.stopped = false) → sessions.length ≤ maxSessions) ∧
    (∀ first second, state.alive first = true → state.usable first = true →
      state.alive second = true → state.usable second = true → first = second) ∧
    (∀ (more : List Action) (later : State), RunWhile (step spec) RetiresComplete state more later →
      ∀ session < state.sessions.length, state.usable session = false → later.usable session = false) ∧
    (∀ (action : Action) (next : State), RetiresComplete state action →
      step spec state action = .next next → state.sessions.length < next.sessions.length →
      ∀ session, state.alive session = true → state.usable session = false) := by
  have counted := counted_of_run run
  refine ⟨fun sessions distinct live => counted.length_le distinct live, counted.unique, ?_, ?_⟩
  · intro more later continued session inside unusable
    exact unusable_of_run continued counted inside unusable
  · intro action next completes taken grown session alive
    cases moves_of_step counted.sound (completes_of_retiresComplete completes) taken with
    | call call => exact absurd grown (Nat.lt_irrefl _)
    | turn _ turn => exact absurd turn.fades.1 (Nat.ne_of_lt grown)
    | fade fades sub => exact absurd fades.1 (Nat.ne_of_lt grown)
    | push found running =>
      rcases counted.lone _ (List.mem_of_getElem? found) rfl with stopped | none
      · cases running.symm.trans stopped
      · exact none session alive

/-- The first session is lost while a stream still holds it, and a second one is pushed:
two are alive, the second alone is usable. -/
theorem session_limit_replaced :
    let state : State := ⟨[⟨false, false, true, .running⟩, .new], some 1, [0, 1], false, [0],
      [.ended .streaming, .ended .prepared]⟩
    RunWhile (step ⟨"proxy", 443, 0⟩) RetiresComplete .new
      [.call .dial, .resume 0 .proceed, .resume 0 (.permitted true), .resume 0 .proceed, .resume 0 .proceed,
        .resume 0 (.connected (.ok ())), .resume 0 .proceed, .resume 0 (.requested .accepted), .lose 0,
        .call .prepare, .resume 1 .proceed, .resume 1 .proceed, .resume 1 (.connected (.ok ())),
        .resume 1 .proceed] state ∧
    state.alive 0 = true ∧ state.alive 1 = true ∧ state.usable 1 = true ∧ state.usable 0 = false := by
  intro state
  have run : Run (step ⟨"proxy", 443, 0⟩) .new
      [.call .dial, .resume 0 .proceed, .resume 0 (.permitted true), .resume 0 .proceed, .resume 0 .proceed,
        .resume 0 (.connected (.ok ())), .resume 0 .proceed, .resume 0 (.requested .accepted), .lose 0,
        .call .prepare, .resume 1 .proceed, .resume 1 .proceed, .resume 1 (.connected (.ok ())),
        .resume 1 .proceed] state := run_of_execute rfl
  have complete : RunWhile (step ⟨"proxy", 443, 0⟩) RetiresComplete .new _ state :=
    run.restrict (by simp [RetiresComplete])
  refine ⟨complete, rfl, rfl, rfl, ?_⟩
  cases usable : state.usable 0 with
  | false => rfl
  | true => cases (session_limit _ complete).2.1 0 1 rfl usable rfl rfl

end Runs

end ProxyTunnels.Http3.Sessions
