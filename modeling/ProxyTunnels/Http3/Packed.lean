import ProxyTunnels.Http3.SessionLimit

/-! When an HTTP/3 provider stays full.

`Shifts` says what a step can do to the list of sessions, also when calls are dropped with
sessions left to stop. A provider is packed when its list is full of sessions that are
alive, none of them is current and nobody is past the limit check; it stays packed until
the list is emptied or a session loses its last holder. A dial is refused by the limit
only in a packed state.
-/

set_option autoImplicit false

namespace ProxyTunnels.Http3.Sessions
open Machine

section Steps
variable {spec : Http3TunnelSpec} {state next : State} {index : Nat} {old new : Point}

def Point.drains : Point → Bool
  | .drain => true
  | .stopSessions => true
  | _ => false

def State.Lists (state next : State) : Prop :=
  next.all = state.all ∨ next.all = state.all.filter (State.alive { state with current := none })

theorem lists_change (state : State) (session : Nat) (change : Session → Session) (point : Point) :
    state.Lists ((state.change session change).become index point) := by
  rw [State.change_eq]
  exact .inl rfl

theorem lists_evict (state : State) (index : Nat) (task : Task) : state.Lists (state.evict spec index task) := by
  unfold State.evict
  simp only
  split
  · exact .inr rfl
  · exact .inr rfl

theorem lists_check (state : State) (index : Nat) (task : Task) : state.Lists (state.check spec index task) := by
  unfold State.check
  split
  · split
    · exact .inl rfl
    · exact lists_evict ..
  · exact lists_evict ..

theorem lists_request (state : State) (index session : Nat) (result : RequestResult) :
    state.Lists (state.request spec index session result) := by
  cases result with
  | unsent => exact lists_change ..
  | refused error => exact .inl rfl
  | accepted =>
    simp only [State.request]
    split
    · exact .inl rfl
    · exact .inl rfl

theorem lists_of_resume {answer : Answer} (keeps : old.drains = false)
    (unpushed : ∀ task, next ≠ state.pushed index task)
    (taken : state.resume spec index old answer = .next next) : state.Lists next := by
  unfold State.resume at taken
  split at taken
  next => cases taken; exact .inl rfl
  next => cases taken; exact .inl rfl
  next =>
    obtain ⟨-, moved⟩ := Outcome.guarded_eq_next.mp taken
    cases moved
    exact .inl rfl
  next => cases taken; exact lists_check ..
  next => cases taken; exact .inl rfl
  next => cases taken; exact .inl rfl
  next task =>
    cases taken
    unfold State.register at unpushed ⊢
    split at unpushed
    · next stopped =>
      rw [if_pos stopped]
      exact .inl rfl
    · exact absurd rfl (unpushed task)
  next => cases taken; exact lists_request ..
  next =>
    obtain ⟨-, moved⟩ := Outcome.guarded_eq_next.mp taken
    cases moved
    exact .inl rfl
  next => cases keeps
  next => cases taken; exact lists_change ..
  next => cases taken; exact .inl rfl
  next => cases taken; exact .inl rfl
  next => cases taken; exact .inl rfl
  next => cases keeps
  next => cases taken; exact lists_change ..
  next => cases taken; exact .inl rfl
  next => cases taken; exact .inl rfl
  next => cases taken

/-- One call goes from `old` to `new` and pushes no session; its future may have been dropped with sessions
left to stop. -/
structure Shift (state next : State) (index : Nat) (old new : Point) : Prop where
  found : state.callers[index]? = some old
  callers : next.callers = state.callers.set index new
  entitled : new.holdsLock = true → old.holdsLock = true ∨ state.lockFree = true
  flag : state.stop = true → next.stop = true
  flagged : new.flagged = true → next.stop = true ∨ old.flagged = true
  length : next.sessions.length = state.sessions.length
  sub : next.all.Sublist state.all
  current : ∀ session, next.current = some session → state.current = some session
  room : new.connects = true → next.all.length < maxSessions ∨ old.connects = true
  lists : old.drains = false → state.Lists next

theorem Turn.shift (turn : Turn state next index old new) (lists : old.drains = false → state.Lists next) :
    Shift state next index old new :=
  ⟨turn.found, turn.callers, turn.entitled, turn.flag, turn.flagged, turn.fades.1.symm, turn.sub,
    fun session holding => (turn.current session holding).1, turn.room, lists⟩

theorem shift_drop (found : state.callers[index]? = some old) :
    Shift state (state.become index (.ended .dropped)) index old (.ended .dropped) :=
  ⟨found, rfl, nofun, id, nofun, rfl, List.Sublist.refl _, fun _ holding => holding, nofun, fun _ => .inl rfl⟩

inductive Shifts (state : State) : Action → State → Prop where
  | call (call : Call) : Shifts state (.call call) { state with callers := state.callers ++ [call.start] }
  | shift {action : Action} {next : State} {index : Nat} {old new : Point} :
      (∃ answer, action = .resume index answer) ∨ old.isAwait = true → Shift state next index old new →
      Shifts state action next
  | push {index : Nat} {task : Task} {answer : Answer} : state.callers[index]? = some (.register task) →
      Shifts state (.resume index answer) (state.pushed index task)
  | fade {action : Action} {sessions : List Session} {streams : List Nat} :
      sessions.length = state.sessions.length →
      Shifts state action { state with sessions := sessions, streams := streams }

theorem shifts_of_step {action : Action} (taken : step spec state action = .next next) :
    Shifts state action next := by
  cases action with
  | call call =>
    cases taken
    exact .call call
  | resume index answer =>
    unfold step at taken
    simp only at taken
    split at taken
    next => cases taken
    next old found =>
      rcases turn_of_resume found taken with ⟨new, turn⟩ | ⟨task, rfl, running, rfl⟩
      · refine .shift (.inl ⟨answer, rfl⟩) (turn.shift fun keeps => lists_of_resume keeps ?_ taken)
        -- A turn leaves the table as long as it was.
        rintro task rfl
        have same := turn.fades.1
        simp [State.pushed] at same
      · exact .push found
  | drop index =>
    unfold step at taken
    simp only at taken
    split at taken
    next => cases taken
    next old found =>
      obtain ⟨awaiting, same⟩ := Outcome.guarded_eq_next.mp taken
      cases same
      exact .shift (.inr awaiting) (shift_drop found)
  | lose session =>
    cases taken
    rw [State.change_eq]
    exact .fade (State.change_fades state session Session.fades_closed).1.symm
  | finish session =>
    cases taken
    rw [State.change_eq]
    exact .fade (State.change_fades state session Session.fades_finish).1.symm
  | dropStream index =>
    cases taken
    exact .fade rfl

end Steps

section Limit
variable {spec : Http3TunnelSpec} {state next : State} {index : Nat} {old new : Point}

structure Limited (state : State) : Prop where
  alone : Exclusive Point.holdsLock state.callers
  flagged : ∀ point ∈ state.callers, point.flagged = true → state.stop = true
  bounded : ∀ session ∈ state.all, session < state.sessions.length
  limit : state.all.length ≤ maxSessions
  room : ∀ point ∈ state.callers, point.connects = true → state.all.length < maxSessions

theorem limited_new : Limited State.new :=
  ⟨exclusive_nil, nofun, nofun, Nat.zero_le _, nofun⟩

theorem Limited.call (limited : Limited state) (call : Call) :
    Limited { state with callers := state.callers ++ [call.start] } := by
  obtain ⟨outside, unflagged, -, unconnected, -⟩ := call.start_idle
  refine ⟨limited.alone.concat outside, ?_, limited.bounded, limited.limit, ?_⟩
  · intro point member flagged
    rcases List.mem_append.mp member with there | added
    · exact limited.flagged point there flagged
    · rw [List.mem_singleton.mp added, unflagged] at flagged
      cases flagged
  · intro point member connects
    rcases List.mem_append.mp member with there | added
    · exact limited.room point there connects
    · rw [List.mem_singleton.mp added, unconnected] at connects
      cases connects

theorem Limited.shift (limited : Limited state) (shift : Shift state next index old new) : Limited next := by
  have there : old ∈ state.callers := List.mem_of_getElem? shift.found
  refine ⟨?_, ?_, ?_, shift.sub.length_le.trans limited.limit, ?_⟩
  · rw [shift.callers]
    exact limited.alone.turn shift.found shift.entitled
  · intro point member flagged
    rw [shift.callers] at member
    rcases List.mem_or_eq_of_mem_set member with kept | rfl
    · exact shift.flag (limited.flagged point kept flagged)
    · exact (shift.flagged flagged).elim id fun before => shift.flag (limited.flagged old there before)
  · intro session member
    rw [shift.length]
    exact limited.bounded session (shift.sub.subset member)
  · intro point member connects
    rw [shift.callers] at member
    rcases List.mem_or_eq_of_mem_set member with kept | rfl
    · exact shift.sub.length_le.trans_lt (limited.room point kept connects)
    · exact (shift.room connects).elim id fun before =>
        shift.sub.length_le.trans_lt (limited.room old there before)

theorem Limited.push (limited : Limited state) {task : Task} (found : state.callers[index]? = some (.register task)) :
    Limited (state.pushed index task) := by
  have there := List.mem_of_getElem? found
  refine ⟨?_, ?_, ?_, ?_, ?_⟩
  · exact limited.alone.set found fun _ => rfl
  · intro point member flagged
    rcases List.mem_or_eq_of_mem_set member with kept | rfl
    · exact limited.flagged point kept flagged
    · cases (task.resume_idle _).2.1.symm.trans flagged
  · intro session member
    rw [State.pushed, List.length_append]
    rcases List.mem_append.mp member with before | added
    · exact Nat.lt_succ_of_lt (limited.bounded session before)
    · exact List.mem_singleton.mp added ▸ Nat.lt_succ_self _
  · rw [State.pushed, List.length_append]
    exact limited.room _ there rfl
  · intro point member connects
    -- Whoever pushes is alone inside the lock.
    have inside := Point.holdsLock_of_connects connects
    obtain ⟨place, present⟩ := List.mem_iff_getElem?.mp member
    rcases mem_set_cases present with ⟨rfl, rfl⟩ | ⟨apart, unmoved⟩
    · cases (task.resume_idle _).1.symm.trans inside
    · cases (limited.alone.outside found rfl unmoved apart).symm.trans inside

theorem Limited.step (limited : Limited state) {action : Action} (moved : Shifts state action next) :
    Limited next := by
  cases moved with
  | call call => exact limited.call call
  | shift means shift => exact limited.shift shift
  | push found => exact limited.push found
  | fade length =>
    refine ⟨limited.alone, limited.flagged, ?_, limited.limit, limited.room⟩
    intro session member
    exact length.symm ▸ limited.bounded session member

end Limit

section Packed
variable {spec : Http3TunnelSpec} {state next : State} {index : Nat} {old new : Point}

def State.died (state after : State) : List Nat :=
  (List.range state.sessions.length).filter fun session => state.alive session && !after.alive session

/-- Every place is taken by a session that is alive, and none of them is the current one. -/
structure State.Packed (state : State) : Prop where
  current : state.current = none
  connects : ∀ point ∈ state.callers, point.connects = false
  full : maxSessions ≤ (state.all.filter state.alive).length

theorem alive_of_died_nil (none : state.died next = []) {session : Nat} (bounded : session < state.sessions.length)
    (alive : state.alive session = true) : next.alive session = true := by
  have kept := List.filter_eq_nil_iff.mp none session (List.mem_range.mpr bounded)
  simpa [alive] using kept

theorem full_of_lists (packed : state.Packed) (lists : state.Lists next)
    (still : ∀ session ∈ state.all, state.alive session = true → next.alive session = true) :
    maxSessions ≤ (next.all.filter next.alive).length := by
  have unchanged : (state.all.filter state.alive).filter next.alive = state.all.filter state.alive := by
    refine List.filter_eq_self.mpr fun session member => ?_
    obtain ⟨listed, alive⟩ := List.mem_filter.mp member
    exact still session listed alive
  refine packed.full.trans ?_
  rw [← unchanged]
  rcases lists with same | pruned
  · rw [same]
    exact (List.filter_sublist.filter _).length_le
  · have emptied : { state with current := none } = state := by rw [← packed.current]
    rw [pruned, emptied]

theorem State.Packed.append (packed : state.Packed) (outside : new.connects = false) :
    State.Packed { state with callers := state.callers ++ [new] } := by
  refine ⟨packed.current, ?_, full_of_lists packed (.inl rfl) ?_⟩
  · intro point member
    rcases List.mem_append.mp member with there | added
    · exact packed.connects point there
    · rw [List.mem_singleton.mp added]
      exact outside
  · intro session _ alive
    rcases State.alive_iff.mp alive with holding | streaming | ⟨point, member, held⟩
    · exact State.alive_iff.mpr (.inl holding)
    · exact State.alive_iff.mpr (.inr (.inl streaming))
    · exact State.alive_iff.mpr (.inr (.inr ⟨point, List.mem_append_left _ member, held⟩))

theorem State.Packed.call (packed : state.Packed) (call : Call) :
    State.Packed { state with callers := state.callers ++ [call.start] } :=
  packed.append call.start_idle.2.2.2.1

theorem State.Packed.shift (limited : Limited state) (packed : state.Packed)
    (shift : Shift state next index old new) (keeps : old.drains = false) (none : state.died next = []) :
    next.Packed := by
  have full : maxSessions ≤ (next.all.filter next.alive).length := by
    refine full_of_lists packed (shift.lists keeps) fun session member alive => ?_
    exact alive_of_died_nil none (limited.bounded session member) alive
  refine ⟨?_, ?_, full⟩
  · cases holding : next.current with
    | none => rfl
    | some session => cases packed.current.symm.trans (shift.current session holding)
  · intro point member
    rw [shift.callers] at member
    rcases List.mem_or_eq_of_mem_set member with kept | rfl
    · exact packed.connects point kept
    · -- A call only passes the check while there is room.
      cases connects : point.connects with
      | false => rfl
      | true =>
        have taken := full.trans (List.length_filter_le next.alive next.all)
        have before := (shift.room connects).resolve_left (Nat.not_lt.mpr taken)
        cases (packed.connects old (List.mem_of_getElem? shift.found)).symm.trans before

theorem Shifts.stop {action : Action} (moved : Shifts state action next) (running : next.stop = false) :
    state.stop = false := by
  cases moved with
  | call call => exact running
  | push found => exact running
  | fade length => exact running
  | shift means shift =>
    cases stopped : state.stop with
    | false => rfl
    | true => cases (shift.flag stopped).symm.trans running

theorem State.Packed.step (limited : Limited state) (packed : state.Packed) {action : Action}
    (moved : Shifts state action next) (running : next.stop = false)
    (undrained : ∀ index answer, action = .resume index answer → state.callers[index]? ≠ some .drain) :
    state.died next ≠ [] ∨ next.Packed := by
  refine or_iff_not_imp_left.mpr fun alive => ?_
  have none : state.died next = [] := not_not.mp alive
  have runs := moved.stop running
  cases moved with
  | call call => exact packed.call call
  | push found =>
    -- Nobody is past the check.
    cases (packed.connects _ (List.mem_of_getElem? found)).symm
  | fade length =>
    refine ⟨packed.current, packed.connects, full_of_lists packed (.inl rfl) fun session member alive => ?_⟩
    exact alive_of_died_nil none (limited.bounded session member) alive
  | @shift action next index old new means shift =>
    refine packed.shift limited shift ?_ none
    cases old with
    | drain =>
      rcases means with ⟨answer, rfl⟩ | awaiting
      · exact absurd shift.found (undrained index answer rfl)
      · cases awaiting
    | stopSessions =>
      cases (limited.flagged _ (List.mem_of_getElem? shift.found) rfl).symm.trans runs
    | _ => rfl

theorem alive_set {session : Nat} (alive : state.alive session = true) {sessions : List Nat}
    (found : state.callers[index]? = some old) (idle : old.refs = []) :
    State.alive { state with all := sessions, callers := state.callers.set index new } session = true := by
  rcases State.alive_iff.mp alive with holding | streaming | ⟨point, member, held⟩
  · exact State.alive_iff.mpr (.inl holding)
  · exact State.alive_iff.mpr (.inr (.inl streaming))
  · obtain ⟨place, there⟩ := List.mem_iff_getElem?.mp member
    have apart : index ≠ place := by
      rintro rfl
      cases found.symm.trans there
      rw [idle] at held
      cases held
    have unmoved : (state.callers.set index new)[place]? = some point :=
      (List.getElem?_set_ne apart).trans there
    exact State.alive_iff.mpr (.inr (.inr ⟨point, List.mem_of_getElem? unmoved, held⟩))

def Point.refused : Point → Bool
  | .ended (.failed (.atCapacity _ _)) => true
  | _ => false

def State.refused (state : State) (index : Nat) : Bool := (state.callers[index]?).any Point.refused

theorem packed_of_evict (limited : Limited state) {task : Task} (found : state.callers[index]? = some (.check task))
    (refused : (state.evict spec index task).refused index = true) : (state.evict spec index task).Packed := by
  unfold State.evict at refused ⊢
  simp only at refused ⊢
  split at refused
  next full =>
    rw [if_pos full]
    refine ⟨rfl, ?_, ?_⟩
    · intro point member
      cases connects : point.connects with
      | false => rfl
      | true =>
        have inside := Point.holdsLock_of_connects connects
        obtain ⟨place, present⟩ := List.mem_iff_getElem?.mp member
        rcases mem_set_cases present with ⟨rfl, rfl⟩ | ⟨apart, unmoved⟩
        · cases inside
        · cases (limited.alone.outside found rfl unmoved apart).symm.trans inside
    · refine full.trans (Nat.le_of_eq (congrArg List.length (Eq.symm ?_)))
      refine List.filter_eq_self.mpr fun session member => ?_
      exact alive_set (List.mem_filter.mp member).2 found rfl
  next roomy =>
    simp [State.refused, getElem?_set_found found, Point.refused] at refused

theorem packed_of_check (limited : Limited state) {task : Task} (found : state.callers[index]? = some (.check task))
    (refused : (state.check spec index task).refused index = true) : (state.check spec index task).Packed := by
  unfold State.check at refused ⊢
  split
  next session holding =>
    simp only [holding] at refused
    split
    next usable =>
      rw [if_pos usable] at refused
      cases task <;> simp [State.refused, State.become, getElem?_set_found found, Task.resume, Point.refused]
        at refused
    next unusable =>
      rw [if_neg unusable] at refused
      exact packed_of_evict limited found refused
  next empty =>
    simp only [empty] at refused
    exact packed_of_evict limited found refused

end Packed

end ProxyTunnels.Http3.Sessions
