import ProxyTunnels.Http3.Sessions

/-! What one step of the HTTP/3 provider can do, said once.

A session only ever gets worse: it is stopped for good, unusable for good, and dead for
good. `Turn` describes the step of one call that pushes no session, with its guards and
with what becomes of the sessions that the call or the list accounted for; pushing one
is the only other thing a call can do, and the world outside can only make sessions
fade. `Moves` puts these together.
-/

set_option autoImplicit false

namespace ProxyTunnels.Http3.Sessions
open Machine

section Fading

structure Session.Fades (entry later : Session) : Prop where
  stopped : entry.stopped = true → later.stopped = true
  usable : later.usable = true → entry.usable = true
  closed : (entry.stopped = true → entry.closed = true) → later.stopped = true → later.closed = true

theorem Session.fades_refl (entry : Session) : entry.Fades entry := ⟨id, id, id⟩

theorem Session.fades_stop (entry : Session) : entry.Fades entry.stop :=
  ⟨fun _ => rfl, by simp [Session.usable, Session.stop], fun _ _ => rfl⟩

theorem Session.fades_retiring (entry : Session) : entry.Fades { entry with retiring := true } :=
  ⟨id, by simp [Session.usable], id⟩

theorem Session.fades_closed (entry : Session) : entry.Fades { entry with closed := true } :=
  ⟨id, by simp [Session.usable], fun _ _ => rfl⟩

theorem Session.fades_finish (entry : Session) :
    entry.Fades { entry with driver := if entry.driver = .running then .finished else entry.driver } := by
  refine ⟨id, ?_, id⟩
  cases driver : entry.driver <;> simp [Session.usable, driver]

def Fades (sessions later : List Session) : Prop :=
  sessions.length = later.length ∧ ∀ (session : Nat) (entry : Session), sessions[session]? = some entry →
    ∃ now, later[session]? = some now ∧ entry.Fades now

theorem fades_refl (sessions : List Session) : Fades sessions sessions :=
  ⟨rfl, fun _ entry found => ⟨entry, found, entry.fades_refl⟩⟩

variable {state : State} {session : Nat}

theorem State.change_fades (state : State) (session : Nat) {change : Session → Session}
    (fades : ∀ entry : Session, entry.Fades (change entry)) :
    Fades state.sessions (state.change session change).sessions := by
  unfold State.change
  split
  next entry found =>
    refine ⟨(List.length_set).symm, ?_⟩
    intro other old there
    by_cases same : session = other
    · subst same
      cases found.symm.trans there
      exact ⟨change entry, getElem?_set_found found, fades entry⟩
    · exact ⟨old, (List.getElem?_set_ne same).trans there, old.fades_refl⟩
  next => exact fades_refl _

theorem State.change_eq (state : State) (session : Nat) (change : Session → Session) :
    state.change session change = { state with sessions := (state.change session change).sessions } := by
  unfold State.change
  split <;> rfl

def State.Stopped (state : State) (session : Nat) : Prop :=
  ∀ entry : Session, state.sessions[session]? = some entry → entry.stopped = true

theorem State.change_stop (state : State) (session : Nat) :
    (state.change session Session.stop).Stopped session ∧
      (state.change session Session.stop).usable session = false := by
  unfold State.change
  split
  next old there =>
    have now : (state.sessions.set session old.stop)[session]? = some old.stop := getElem?_set_found there
    constructor
    · intro entry found
      cases now.symm.trans found
      rfl
    · simp only [State.usable, now]
      simp [Session.usable, Session.stop]
  next missing =>
    constructor
    · intro entry found
      cases missing.symm.trans found
    · simp only [State.usable, missing]

theorem Fades.stopped {next : State} (fades : Fades state.sessions next.sessions)
    (stopped : state.Stopped session) : next.Stopped session := by
  intro entry found
  have inside : session < state.sessions.length := by
    rw [fades.1]
    exact (List.getElem?_eq_some_iff.mp found).1
  obtain ⟨now, there, older⟩ := fades.2 session _ (List.getElem?_eq_getElem inside)
  cases there.symm.trans found
  exact older.stopped (stopped _ (List.getElem?_eq_getElem inside))

theorem Fades.usable {next : State} (fades : Fades state.sessions next.sessions)
    (usable : next.usable session = true) : state.usable session = true := by
  unfold State.usable at usable ⊢
  split at usable
  next entry found =>
    have inside : session < state.sessions.length := by
      rw [fades.1]
      exact (List.getElem?_eq_some_iff.mp found).1
    obtain ⟨now, there, older⟩ := fades.2 session _ (List.getElem?_eq_getElem inside)
    cases there.symm.trans found
    rw [List.getElem?_eq_getElem inside]
    exact older.usable usable
  next => cases usable

end Fading

section Alive
variable {state next : State} {session index : Nat} {old new : Point}

theorem State.alive_iff : state.alive session = true ↔
    state.current = some session ∨ session ∈ state.streams ∨
      ∃ point ∈ state.callers, session ∈ point.refs := by
  unfold State.alive
  simp only [Bool.or_eq_true, beq_iff_eq, List.contains_iff_mem, List.any_eq_true, or_assoc]

theorem alive_of_refs (found : state.callers[index]? = some old) (held : session ∈ old.refs) :
    state.alive session = true :=
  State.alive_iff.mpr (Or.inr (Or.inr ⟨old, List.mem_of_getElem? found, held⟩))

theorem alive_of_set (callers : next.callers = state.callers.set index new)
    (current : next.current = some session → state.alive session = true)
    (streams : session ∈ next.streams → state.alive session = true)
    (refs : session ∈ new.refs → state.alive session = true) (alive : next.alive session = true) :
    state.alive session = true := by
  rcases State.alive_iff.mp alive with holding | streaming | ⟨point, member, held⟩
  · exact current holding
  · exact streams streaming
  · rw [callers] at member
    rcases List.mem_or_eq_of_mem_set member with kept | rfl
    · exact State.alive_iff.mpr (Or.inr (Or.inr ⟨point, kept, held⟩))
    · exact refs held

end Alive

section Turns

def Point.flagged : Point → Bool
  | .stopSessions => true
  | .stopping _ _ => true
  | .joining => true
  | .ended .shutDown => true
  | _ => false

def Point.drained : Point → Bool
  | .stopping _ _ => true
  | .joining => true
  | .ended .shutDown => true
  | _ => false

def Point.connects : Point → Bool
  | .connecting _ => true
  | .register _ => true
  | _ => false

/-- One call goes from `old` to `new` and pushes no session. -/
structure Turn (state next : State) (index : Nat) (old new : Point) : Prop where
  found : state.callers[index]? = some old
  callers : next.callers = state.callers.set index new
  entitled : new.holdsLock = true → old.holdsLock = true ∨ state.lockFree = true
  flag : state.stop = true → next.stop = true
  flagged : new.flagged = true → next.stop = true ∨ old.flagged = true
  fades : Fades state.sessions next.sessions
  alive : ∀ session, next.alive session = true → state.alive session = true
  sub : next.all.Sublist state.all
  drained : new.drained = true → next.all = [] ∨ old.drained = true
  current : ∀ session, next.current = some session →
    state.current = some session ∧ (session ∈ state.all → session ∈ next.all)
  /-- A session that was accounted for still is, unless it is dead or stopped. -/
  kept : ∀ session, session ∈ state.all ∨ session ∈ old.pending → next.alive session = true →
    session ∈ next.all ∨ session ∈ new.pending ∨ next.Stopped session
  /-- So is the one that may be in use. -/
  held : ∀ session, (state.current = some session ∧ session ∈ state.all) ∨ session ∈ old.pending →
    next.usable session = true → next.alive session = true →
    next.current = some session ∨ session ∈ new.pending
  count : next.all.length + new.pending.length ≤ state.all.length + old.pending.length
  room : new.connects = true → next.all.length < maxSessions ∨ old.connects = true
  lone : new.connects = true → old.connects = true ∨
    old.holdsLock = true ∧ old.pending = [] ∧
      ∀ session, state.current = some session → state.usable session = false
  returned : new = .ended .shutDown → old = .joining

variable {spec : Http3TunnelSpec} {state next : State} {index : Nat} {old new : Point}

structure Onward (state next : State) (old new : Point) : Prop where
  entitled : new.holdsLock = true → old.holdsLock = true ∨ state.lockFree = true
  flagged : new.flagged = true → old.flagged = true
  drained : new.drained = true → old.drained = true
  refs : ∀ session ∈ new.refs, state.alive session = true
  pending : ∀ session ∈ old.pending, session ∈ new.pending ∨
    (next.Stopped session ∧ next.usable session = false)
  count : new.pending.length ≤ old.pending.length
  connects : new.connects = true → old.connects = true
  returned : new = .ended .shutDown → old = .joining

theorem turn_of_onward (found : state.callers[index]? = some old) {sessions : List Session}
    (fades : Fades state.sessions sessions)
    (same : next = { state with sessions := sessions, callers := state.callers.set index new })
    (onward : Onward state next old new) : Turn state next index old new := by
  subst same
  refine ⟨found, rfl, onward.entitled, id, fun flagged => Or.inr (onward.flagged flagged), fades, ?_,
    List.Sublist.refl _, fun drained => Or.inr (onward.drained drained), fun _ holding => ⟨holding, id⟩,
    ?_, ?_, Nat.add_le_add_left onward.count _, fun connects => Or.inr (onward.connects connects),
    fun connects => Or.inl (onward.connects connects), onward.returned⟩
  · intro session alive
    refine alive_of_set rfl ?_ ?_ ?_ alive
    · exact fun holding => State.alive_iff.mpr (Or.inl holding)
    · exact fun streaming => State.alive_iff.mpr (Or.inr (Or.inl streaming))
    · exact onward.refs session
  · intro session accounted _
    rcases accounted with listed | waiting
    · exact Or.inl listed
    · rcases onward.pending session waiting with still | ⟨stopped, -⟩
      · exact Or.inr (Or.inl still)
      · exact Or.inr (Or.inr stopped)
  · intro session accounted usable _
    rcases accounted with ⟨holding, -⟩ | waiting
    · exact Or.inl holding
    · rcases onward.pending session waiting with still | ⟨-, unusable⟩
      · exact Or.inr still
      · rw [unusable] at usable
        cases usable

def Point.quiet : Point → Bool
  | .permit => true
  | .connectLock _ => true
  | .ended .shutDown => false
  | .ended _ => true
  | _ => false

theorem onward_quiet (quiet : new.quiet = true)
    (settled : ∀ session ∈ old.pending, next.Stopped session ∧ next.usable session = false) :
    Onward state next old new := by
  have nothing : new.holdsLock = false ∧ new.flagged = false ∧ new.drained = false ∧ new.refs = [] ∧
      new.pending = [] ∧ new.connects = false ∧ new ≠ .ended .shutDown := by
    unfold Point.quiet at quiet
    split at quiet
    · exact ⟨rfl, rfl, rfl, rfl, rfl, rfl, nofun⟩
    · exact ⟨rfl, rfl, rfl, rfl, rfl, rfl, nofun⟩
    · cases quiet
    next ending other =>
      cases ending with
      | shutDown => exact absurd rfl other
      | _ => exact ⟨rfl, rfl, rfl, rfl, rfl, rfl, nofun⟩
    · cases quiet
  obtain ⟨unlocked, unflagged, undrained, noRefs, nonePending, unconnected, unreturned⟩ := nothing
  constructor
  · intro inside
    rw [unlocked] at inside
    cases inside
  · intro flagged
    rw [unflagged] at flagged
    cases flagged
  · intro drained
    rw [undrained] at drained
    cases drained
  · rw [noRefs]
    exact nofun
  · exact fun session waiting => Or.inr (settled session waiting)
  · rw [nonePending]
    exact Nat.zero_le _
  · intro connects
    rw [unconnected] at connects
    cases connects
  · exact fun same => absurd same unreturned

theorem turn_quiet (found : state.callers[index]? = some old) (owes : old.pending = [])
    (quiet : new.quiet = true) : Turn state (state.become index new) index old new := by
  refine turn_of_onward found (fades_refl _) rfl (onward_quiet quiet ?_)
  rw [owes]
  exact nofun

theorem turn_stop {session : Nat} {rest : List Nat} (found : state.callers[index]? = some old)
    (owes : old.pending = session :: rest) (owed : new.pending = rest)
    (refs : ∀ held ∈ new.refs, held ∈ old.refs) (lock : new.holdsLock = true → old.holdsLock = true)
    (flagged : new.flagged = true → old.flagged = true) (drained : new.drained = true → old.drained = true)
    (connects : new.connects = false) (unreturned : new ≠ .ended .shutDown) :
    Turn state ((state.change session Session.stop).become index new) index old new := by
  have same : (state.change session Session.stop).become index new =
      { state with
        sessions := (state.change session Session.stop).sessions
        callers := state.callers.set index new } := by
    rw [State.change_eq]
    rfl
  have fades := State.change_fades state session Session.fades_stop
  refine turn_of_onward found fades same ⟨fun inside => Or.inl (lock inside), flagged, drained,
    fun held member => alive_of_refs found (refs held member), ?_, ?_, ?_, fun ended => absurd ended unreturned⟩
  · rw [owes, owed]
    intro waiting member
    rcases List.mem_cons.mp member with rfl | still
    · exact Or.inr (State.change_stop state waiting)
    · exact Or.inl still
  · rw [owes, owed]
    exact Nat.le_succ _
  · intro impossible
    rw [connects] at impossible
    cases impossible

theorem turn_drain {into : List Nat → Point} (found : state.callers[index]? = some old)
    (owes : old.pending = []) (refs : ∀ sessions, (into sessions).refs = sessions)
    (owed : ∀ sessions, (into sessions).pending = sessions)
    (lock : ∀ sessions, (into sessions).holdsLock = true → old.holdsLock = true)
    (flagged : ∀ sessions, (into sessions).flagged = true → old.flagged = true)
    (connects : ∀ sessions, (into sessions).connects = false)
    (unreturned : ∀ sessions, into sessions ≠ .ended .shutDown) :
    ∃ new, Turn state (state.drainInto index into) index old new := by
  have alive : ∀ session, (state.drainInto index into).alive session = true → state.alive session = true := by
    intro session alive
    refine alive_of_set rfl (by rintro ⟨⟩) ?_ ?_ alive
    · exact fun streaming => State.alive_iff.mpr (Or.inr (Or.inl streaming))
    · rw [refs]
      exact fun member => (List.mem_filter.mp member).2
  refine ⟨_, found, rfl, fun inside => Or.inl (lock _ inside), id, fun flag => Or.inr (flagged _ flag),
    fades_refl _, alive, List.nil_sublist _, fun _ => Or.inl rfl, nofun, ?_, ?_, ?_, ?_, ?_,
    fun ended => absurd ended (unreturned _)⟩
  · intro session accounted still
    rw [owes] at accounted
    rw [owed]
    have listed := accounted.resolve_right List.not_mem_nil
    exact Or.inr (Or.inl (List.mem_filter.mpr ⟨listed, alive session still⟩))
  · intro session accounted _ still
    rw [owes] at accounted
    rw [owed]
    have listed := (accounted.resolve_right List.not_mem_nil).2
    exact Or.inr (List.mem_filter.mpr ⟨listed, alive session still⟩)
  · rw [owed, owes]
    change 0 + _ ≤ _
    have shorter := List.length_filter_le state.alive state.all
    simp only [List.length_nil]
    omega
  · intro impossible
    rw [connects] at impossible
    cases impossible
  · intro impossible
    rw [connects] at impossible
    cases impossible

theorem turn_evict {task : Task} (found : state.callers[index]? = some (.check task))
    (unusable : ∀ session, state.current = some session → state.usable session = false) :
    ∃ new, Turn state (state.evict spec index task) index (.check task) new := by
  -- Whether the limit is reached decides only where the call goes.
  have either : ∀ new : Point, new.refs = [] → new.pending = [] → new.flagged = false →
      new.drained = false → new ≠ .ended .shutDown →
      (new.connects = true →
        (state.all.filter (State.alive { state with current := none })).length < maxSessions) →
      Turn state { state with
        current := none
        all := state.all.filter (State.alive { state with current := none })
        callers := state.callers.set index new } index (.check task) new := by
    intro new refs owed unflagged undrained unreturned room
    refine ⟨found, rfl, fun _ => Or.inl rfl, id, ?_, fades_refl _, ?_, List.filter_sublist, ?_, nofun, ?_, ?_,
      ?_, fun connects => Or.inl (room connects), fun _ => Or.inr ⟨rfl, rfl, unusable⟩,
      fun ended => absurd ended unreturned⟩
    · intro flagged
      rw [unflagged] at flagged
      cases flagged
    · intro session alive
      refine alive_of_set rfl (by rintro ⟨⟩) ?_ ?_ alive
      · exact fun streaming => State.alive_iff.mpr (Or.inr (Or.inl streaming))
      · rw [refs]
        exact nofun
    · intro drained
      rw [undrained] at drained
      cases drained
    · intro session accounted alive
      have listed := accounted.resolve_right List.not_mem_nil
      have still : State.alive { state with current := none } session = true := by
        refine alive_of_set rfl (by rintro ⟨⟩) ?_ ?_ alive
        · exact fun streaming => State.alive_iff.mpr (Or.inr (Or.inl streaming))
        · rw [refs]
          exact nofun
      exact Or.inl (List.mem_filter.mpr ⟨listed, still⟩)
    · intro session accounted usable _
      obtain ⟨holding, -⟩ := accounted.resolve_right List.not_mem_nil
      cases (unusable session holding).symm.trans usable
    · rw [owed]
      exact Nat.add_le_add (List.length_filter_le _ _) (Nat.zero_le _)
  unfold State.evict
  simp only
  split
  next => exact ⟨_, either _ rfl rfl rfl rfl nofun nofun⟩
  next roomy => exact ⟨_, either _ rfl rfl rfl rfl nofun fun _ => Nat.not_le.mp roomy⟩

theorem turn_check {task : Task} (found : state.callers[index]? = some (.check task)) :
    ∃ new, Turn state (state.check spec index task) index (.check task) new := by
  unfold State.check
  split
  next session holding =>
    split
    next =>
      refine ⟨_, turn_of_onward found (fades_refl _) rfl ?_⟩
      cases task with
      | prepare => exact onward_quiet rfl nofun
      | dial =>
        refine ⟨nofun, nofun, nofun, ?_, nofun, Nat.le_refl _, nofun, nofun⟩
        intro held member
        rw [List.mem_singleton.mp member]
        exact State.alive_iff.mpr (Or.inl holding)
    next unusable =>
      refine turn_evict found ?_
      intro other same
      cases holding.symm.trans same
      simpa using unusable
  next empty =>
    refine turn_evict found ?_
    intro other same
    cases empty.symm.trans same

theorem turn_shutdown (found : state.callers[index]? = some .shutdown) :
    Turn state { state with stop := true, callers := state.callers.set index .stopSessions } index
      .shutdown .stopSessions := by
  refine ⟨found, rfl, nofun, fun _ => rfl, fun _ => Or.inl rfl, fades_refl _, ?_, List.Sublist.refl _, nofun,
    fun _ holding => ⟨holding, id⟩, ?_, ?_, Nat.le_refl _, nofun, nofun, nofun⟩
  · intro session alive
    refine alive_of_set rfl ?_ ?_ (by rintro ⟨⟩) alive
    · exact fun holding => State.alive_iff.mpr (Or.inl holding)
    · exact fun streaming => State.alive_iff.mpr (Or.inr (Or.inl streaming))
  · exact fun session accounted _ => Or.inl (accounted.resolve_right List.not_mem_nil)
  · exact fun session accounted _ _ => Or.inl (accounted.resolve_right List.not_mem_nil).1

theorem turn_request {session : Nat} (found : state.callers[index]? = some (.request session))
    (result : RequestResult) :
    ∃ new, Turn state (state.request spec index session result) index (.request session) new := by
  cases result with
  | refused error => exact ⟨_, turn_quiet found rfl rfl⟩
  | unsent =>
    have same : state.request spec index session .unsent = { state with
        sessions := (state.change session fun entry => { entry with retiring := true }).sessions
        callers := state.callers.set index
          (.ended (.failed (connectError spec "HTTP/3 connection cannot open a new stream"))) } := by
      unfold State.request
      simp only
      rw [State.change_eq]
      rfl
    exact ⟨_, turn_of_onward found (State.change_fades state session Session.fades_retiring) same
      (onward_quiet rfl nofun)⟩
  | accepted =>
    unfold State.request
    simp only
    split
    · exact ⟨_, turn_quiet found rfl rfl⟩
    · refine ⟨.ended .streaming, found, rfl, nofun, id, nofun, fades_refl _, ?_, List.Sublist.refl _, nofun,
        fun _ holding => ⟨holding, id⟩, ?_, ?_, Nat.le_refl _, nofun, nofun, nofun⟩
      · intro other alive
        refine alive_of_set rfl ?_ ?_ (by rintro ⟨⟩) alive
        · exact fun holding => State.alive_iff.mpr (Or.inl holding)
        · intro streaming
          rcases List.mem_append.mp streaming with before | added
          · exact State.alive_iff.mpr (Or.inr (Or.inl before))
          · -- The stream takes over the dial's hold on its session.
            exact alive_of_refs found added
      · exact fun other accounted _ => Or.inl (accounted.resolve_right List.not_mem_nil)
      · exact fun other accounted _ _ => Or.inl (accounted.resolve_right List.not_mem_nil).1

/-- The state after `connect_addresses` has pushed its session. -/
def State.pushed (state : State) (index : Nat) (task : Task) : State :=
  { state with
    sessions := state.sessions ++ [.new]
    all := state.all ++ [state.sessions.length]
    current := some state.sessions.length
    callers := state.callers.set index (task.resume state.sessions.length) }

theorem turn_of_resume (found : state.callers[index]? = some old) {answer : Answer}
    (taken : state.resume spec index old answer = .next next) :
    (∃ new, Turn state next index old new) ∨
      ∃ task, old = .register task ∧ state.stop = false ∧ next = state.pushed index task := by
  unfold State.resume at taken
  split at taken
  next =>
    cases taken
    refine Or.inl ⟨_, turn_quiet found rfl ?_⟩
    split <;> rfl
  next granted =>
    cases taken
    refine Or.inl ⟨_, turn_quiet found rfl ?_⟩
    split <;> rfl
  next task =>
    obtain ⟨free, same⟩ := Outcome.guarded_eq_next.mp taken
    cases same
    exact Or.inl ⟨_, turn_of_onward found (fades_refl _) rfl
      ⟨fun _ => Or.inr free, nofun, nofun, nofun, nofun, Nat.le_refl _, nofun, nofun⟩⟩
  next task =>
    cases taken
    exact Or.inl (turn_check found)
  next task =>
    cases taken
    exact Or.inl ⟨_, turn_of_onward found (fades_refl _) rfl
      ⟨fun _ => Or.inl rfl, nofun, nofun, nofun, nofun, Nat.le_refl _, fun _ => rfl, nofun⟩⟩
  next =>
    cases taken
    exact Or.inl ⟨_, turn_quiet found rfl rfl⟩
  next task =>
    cases taken
    unfold State.register
    split
    next => exact Or.inl ⟨_, turn_quiet found rfl rfl⟩
    next running => exact Or.inr ⟨task, rfl, by simpa using running, rfl⟩
  next session result =>
    cases taken
    exact Or.inl (turn_request found result)
  next =>
    obtain ⟨free, same⟩ := Outcome.guarded_eq_next.mp taken
    cases same
    exact Or.inl ⟨_, turn_of_onward found (fades_refl _) rfl
      ⟨fun _ => Or.inr free, nofun, nofun, nofun, nofun, Nat.le_refl _, nofun, nofun⟩⟩
  next =>
    cases taken
    exact Or.inl (turn_drain found rfl (fun _ => rfl) (fun _ => rfl) (fun _ _ => rfl) nofun (fun _ => rfl) nofun)
  next session rest =>
    cases taken
    exact Or.inl ⟨_, turn_stop found rfl rfl (fun _ member => member) (fun _ => rfl) nofun nofun rfl nofun⟩
  next =>
    cases taken
    exact Or.inl ⟨_, turn_quiet found rfl rfl⟩
  next session rest =>
    cases taken
    refine Or.inl ⟨_, turn_of_onward found (fades_refl _) rfl
      ⟨fun _ => Or.inl rfl, nofun, nofun, ?_, fun _ waiting => Or.inl waiting, Nat.le_refl _, nofun, nofun⟩⟩
    exact fun held member => alive_of_refs found (List.mem_cons_of_mem _ member)
  next =>
    cases taken
    exact Or.inl ⟨_, turn_shutdown found⟩
  next =>
    cases taken
    exact Or.inl (turn_drain found rfl (fun _ => List.append_nil _) (fun _ => rfl) nofun (fun _ _ => rfl)
      (fun _ => rfl) nofun)
  next session left done =>
    cases taken
    refine Or.inl ⟨_, turn_stop found rfl rfl ?_ nofun (fun _ => rfl) (fun _ => rfl) rfl nofun⟩
    intro held member
    simp only [Point.refs, List.mem_append, List.mem_cons] at member ⊢
    tauto
  next done =>
    cases taken
    exact Or.inl ⟨_, turn_of_onward found (fades_refl _) rfl
      ⟨nofun, fun _ => rfl, fun _ => rfl, nofun, nofun, Nat.zero_le _, nofun, nofun⟩⟩
  next =>
    cases taken
    exact Or.inl ⟨_, turn_of_onward found (fades_refl _) rfl
      ⟨nofun, fun _ => rfl, fun _ => rfl, nofun, nofun, Nat.le_refl _, nofun, fun _ => rfl⟩⟩
  next => cases taken

end Turns

section Steps
variable {spec : Http3TunnelSpec} {state next : State} {action : Action}

def Completes (state : State) : Action → Prop
  | .drop index => ∀ point, state.callers[index]? = some point → point.isAwait = true →
      ∀ session ∈ point.pending, state.Stopped session
  | _ => True

def State.Sound (state : State) : Prop :=
  ∀ (session : Nat) (entry : Session), state.sessions[session]? = some entry →
    entry.stopped = true → entry.closed = true

theorem State.Sound.unusable (sound : state.Sound) {session : Nat} (stopped : state.Stopped session) :
    state.usable session = false := by
  unfold State.usable
  split
  next entry found => simp [Session.usable, sound session entry found (stopped entry found)]
  next => rfl

inductive Moves (state : State) : Action → State → Prop where
  | call (call : Call) : Moves state (.call call) { state with callers := state.callers ++ [call.start] }
  | turn {action : Action} {next : State} {index : Nat} {old new : Point} :
      (∃ answer, action = .resume index answer) ∨ new = .ended .dropped →
      Turn state next index old new → Moves state action next
  | push {index : Nat} {task : Task} {answer : Answer} :
      state.callers[index]? = some (.register task) → state.stop = false →
      Moves state (.resume index answer) (state.pushed index task)
  | fade {action : Action} {sessions : List Session} {streams : List Nat} :
      Fades state.sessions sessions → (∀ session ∈ streams, session ∈ state.streams) →
      Moves state action { state with sessions := sessions, streams := streams }

theorem moves_of_step (sound : state.Sound) (completes : Completes state action)
    (taken : step spec state action = .next next) : Moves state action next := by
  cases action with
  | call call =>
    cases taken
    exact .call call
  | resume index answer =>
    unfold step at taken
    simp only at taken
    split at taken
    next => cases taken
    next old found =>
      rcases turn_of_resume found taken with ⟨new, turn⟩ | ⟨task, rfl, running, rfl⟩
      · exact .turn (Or.inl ⟨answer, rfl⟩) turn
      · exact .push found running
  | drop index =>
    unfold step at taken
    simp only at taken
    split at taken
    next => cases taken
    next old found =>
      obtain ⟨awaiting, same⟩ := Outcome.guarded_eq_next.mp taken
      cases same
      refine .turn (Or.inr rfl) (turn_of_onward found (fades_refl _) rfl (onward_quiet rfl ?_))
      intro session waiting
      have stopped := completes old found awaiting session waiting
      exact ⟨stopped, sound.unusable stopped⟩
  | lose session =>
    cases taken
    rw [State.change_eq]
    exact .fade (State.change_fades state session Session.fades_closed) fun _ member => member
  | finish session =>
    cases taken
    rw [State.change_eq]
    exact .fade (State.change_fades state session Session.fades_finish) fun _ member => member
  | dropStream index =>
    cases taken
    exact .fade (fades_refl _) fun _ member => List.mem_of_mem_eraseIdx member

theorem alive_of_fade {sessions : List Session} {streams : List Nat}
    (sub : ∀ session ∈ streams, session ∈ state.streams) {session : Nat}
    (alive : State.alive { state with sessions := sessions, streams := streams } session = true) :
    state.alive session = true := by
  rcases State.alive_iff.mp alive with holding | streaming | calling
  · exact State.alive_iff.mpr (Or.inl holding)
  · exact State.alive_iff.mpr (Or.inr (Or.inl (sub session streaming)))
  · exact State.alive_iff.mpr (Or.inr (Or.inr calling))

theorem alive_of_call {call : Call} {session : Nat}
    (alive : State.alive { state with callers := state.callers ++ [call.start] } session = true) :
    state.alive session = true := by
  rcases State.alive_iff.mp alive with holding | streaming | ⟨point, member, held⟩
  · exact State.alive_iff.mpr (Or.inl holding)
  · exact State.alive_iff.mpr (Or.inr (Or.inl streaming))
  · rcases List.mem_append.mp member with before | added
    · exact State.alive_iff.mpr (Or.inr (Or.inr ⟨point, before, held⟩))
    · rw [List.mem_singleton.mp added] at held
      cases call <;> cases held

theorem alive_of_push {index : Nat} {task : Task} {session : Nat}
    (alive : (state.pushed index task).alive session = true) :
    session = state.sessions.length ∨ state.alive session = true := by
  by_cases fresh : session = state.sessions.length
  · exact Or.inl fresh
  · refine Or.inr (alive_of_set rfl ?_ ?_ ?_ alive)
    · intro holding
      exact absurd (Option.some.inj holding).symm fresh
    · exact fun streaming => State.alive_iff.mpr (Or.inr (Or.inl streaming))
    · intro held
      cases task with
      | prepare => cases held
      | dial => exact absurd (List.mem_singleton.mp held) fresh

end Steps

end ProxyTunnels.Http3.Sessions
