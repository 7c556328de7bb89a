import ProxyTunnels.Http3.Packed

/-! Waiting for room on a full HTTP/3 provider.

The signal is rung by a session's `Drop`, so a waiter hears of the room that appears when
the last holder of a session lets go of it. A waiter enables its future, dials again, and
sleeps on the future if it is refused again. Between the moment the last reference goes
and the signal the drop is under way. Unless a `retire` empties the list, a waiter that
sleeps unnotified either has such a drop ahead of it or the provider is still full.
-/

set_option autoImplicit false

namespace ProxyTunnels.Http3.Sessions
open Machine

/-- A waiter's future, enabled when `enabled` signals had been given, and the dial it made then. -/
structure Waiter where
  enabled : Nat
  dial : Option Nat
  deriving DecidableEq, Repr

structure Room where
  provider : State
  /-- Sessions whose last holder is gone and whose `Drop` has not rung yet. -/
  dropping : List Nat
  /-- How often `notify_waiters` was called. -/
  signals : Nat
  waiters : List Waiter

def Room.new : Room := ⟨.new, [], 0, []⟩

inductive RoomAction where
  | provider (action : Action)
  | ring (index : Nat)
  | enable (refused : Nat)
  | redial (waiter : Nat)

def Action.foreign : Action → Bool
  | .resume _ (.connected (.error (.atCapacity _ _))) => false
  | .resume _ (.requested (.refused (.atCapacity _ _))) => false
  | _ => true

def Room.step (spec : Http3TunnelSpec) (room : Room) : RoomAction → Outcome Room
  | .provider action => .guarded action.foreign
      ((Sessions.step spec room.provider action).bind fun after =>
        .next { room with provider := after, dropping := room.dropping ++ room.provider.died after })
  | .ring index =>
      match room.dropping[index]? with
      | some _ => .next { room with dropping := room.dropping.eraseIdx index, signals := room.signals + 1 }
      | none => .blocked
  | .enable refused => .guarded (room.provider.refused refused)
      (.next { room with waiters := room.waiters ++ [⟨room.signals, none⟩] })
  | .redial waiter =>
      match room.waiters[waiter]? with
      | some ⟨enabled, none⟩ => .next { room with
          provider := { room.provider with callers := room.provider.callers ++ [Call.start .dial] }
          waiters := room.waiters.set waiter ⟨enabled, some room.provider.callers.length⟩ }
      | _ => .blocked

def Room.Sleeps (room : Room) (waiter : Nat) : Prop :=
  ∃ dial, room.waiters[waiter]? = some ⟨room.signals, some dial⟩ ∧ room.provider.refused dial = true

section Refusal
variable {spec : Http3TunnelSpec} {state next : State} {index dial : Nat} {old new : Point}

theorem refused_iff : state.refused index = true ↔
    ∃ point, state.callers[index]? = some point ∧ point.refused = true := by
  unfold State.refused
  cases state.callers[index]? <;> simp

theorem refused_of_call {call : Call}
    (refused : State.refused { state with callers := state.callers ++ [call.start] } dial = true) :
    state.refused dial = true := by
  obtain ⟨point, found, isRefused⟩ := refused_iff.mp refused
  rcases mem_concat_cases found with ⟨-, rfl⟩ | before
  · cases call <;> cases isRefused
  · exact refused_iff.mpr ⟨point, before, isRefused⟩

theorem refused_of_set (callers : next.callers = state.callers.set index new)
    (refused : next.refused dial = true) :
    dial = index ∧ new.refused = true ∨ state.refused dial = true := by
  obtain ⟨point, found, isRefused⟩ := refused_iff.mp refused
  rw [callers] at found
  rcases mem_set_cases found with ⟨same, rfl⟩ | ⟨-, before⟩
  · exact .inl ⟨same, isRefused⟩
  · exact .inr (refused_iff.mpr ⟨point, before, isRefused⟩)

theorem refused_of_other (refused : next.refused dial = true)
    (callers : next.callers = state.callers.set index new) (other : new.refused = false) :
    state.refused dial = true := by
  rcases refused_of_set callers refused with ⟨-, isRefused⟩ | before
  · cases other.symm.trans isRefused
  · exact before

theorem refused_of_become (refused : (state.become index new).refused dial = true)
    (other : new.refused = false) : state.refused dial = true :=
  refused_of_other refused rfl other

theorem refused_of_request {session : Nat} {result : RequestResult}
    (foreign : Action.foreign (.resume index (.requested result)) = true)
    (refused : (state.request spec index session result).refused dial = true) : state.refused dial = true := by
  cases result with
  | unsent =>
    have same : (state.request spec index session .unsent).callers = state.callers.set index
        (.ended (.failed (connectError spec "HTTP/3 connection cannot open a new stream"))) := by
      simp only [State.request]
      rw [State.change_eq]
      rfl
    exact refused_of_other refused same rfl
  | refused error =>
    refine refused_of_become refused ?_
    cases error with
    | atCapacity opened freed => cases foreign
    | _ => rfl
  | accepted =>
    simp only [State.request] at refused
    split at refused
    · exact refused_of_become refused rfl
    · exact refused_of_other refused rfl rfl

theorem refused_of_resume {answer : Answer} (foreign : Action.foreign (.resume index answer) = true)
    (taken : state.resume spec index old answer = .next next) (refused : next.refused dial = true) :
    state.refused dial = true ∨ ∃ task, old = .check task ∧ next = state.check spec index task := by
  unfold State.resume at taken
  split at taken
  next =>
    cases taken
    refine .inl (refused_of_become refused ?_)
    split <;> rfl
  next granted =>
    cases taken
    refine .inl (refused_of_become refused ?_)
    split <;> rfl
  next =>
    obtain ⟨-, moved⟩ := Outcome.guarded_eq_next.mp taken
    cases moved
    exact .inl (refused_of_become refused rfl)
  next task =>
    cases taken
    exact .inr ⟨task, rfl, rfl⟩
  next =>
    cases taken
    exact .inl (refused_of_become refused rfl)
  next task error =>
    cases taken
    refine .inl (refused_of_become refused ?_)
    cases error with
    | atCapacity opened freed => cases foreign
    | _ => rfl
  next task =>
    cases taken
    unfold State.register at refused
    split at refused
    · exact .inl (refused_of_become refused rfl)
    · refine .inl (refused_of_other refused rfl ?_)
      cases task <;> rfl
  next =>
    cases taken
    exact .inl (refused_of_request foreign refused)
  next =>
    obtain ⟨-, moved⟩ := Outcome.guarded_eq_next.mp taken
    cases moved
    exact .inl (refused_of_become refused rfl)
  next =>
    cases taken
    exact .inl (refused_of_other refused rfl rfl)
  next session rest =>
    cases taken
    rw [State.change_eq] at refused
    exact .inl (refused_of_become refused rfl)
  next =>
    cases taken
    exact .inl (refused_of_become refused rfl)
  next =>
    cases taken
    exact .inl (refused_of_become refused rfl)
  next =>
    cases taken
    exact .inl (refused_of_other refused rfl rfl)
  next =>
    cases taken
    exact .inl (refused_of_other refused rfl rfl)
  next =>
    cases taken
    rw [State.change_eq] at refused
    exact .inl (refused_of_become refused rfl)
  next =>
    cases taken
    exact .inl (refused_of_become refused rfl)
  next =>
    cases taken
    exact .inl (refused_of_become refused rfl)
  next => cases taken

theorem refused_of_step {action : Action} (foreign : action.foreign = true)
    (taken : step spec state action = .next next) (refused : next.refused dial = true) :
    state.refused dial = true ∨
      ∃ task, state.callers[dial]? = some (.check task) ∧ next = state.check spec dial task := by
  cases action with
  | call call =>
    cases taken
    exact .inl (refused_of_call refused)
  | resume index answer =>
    unfold step at taken
    simp only at taken
    split at taken
    next => cases taken
    next old found =>
      rcases refused_of_resume foreign taken refused with before | ⟨task, rfl, rfl⟩
      · exact .inl before
      · obtain ⟨new, turn⟩ := @turn_check spec _ _ _ found
        rcases refused_of_set turn.callers refused with ⟨rfl, -⟩ | before
        · exact .inr ⟨task, found, rfl⟩
        · exact .inl before
  | drop index =>
    unfold step at taken
    simp only at taken
    split at taken
    next => cases taken
    next old found =>
      obtain ⟨-, same⟩ := Outcome.guarded_eq_next.mp taken
      cases same
      exact .inl (refused_of_become refused rfl)
  | lose session =>
    cases taken
    rw [State.change_eq] at refused
    exact .inl refused
  | finish session =>
    cases taken
    rw [State.change_eq] at refused
    exact .inl refused
  | dropStream index =>
    cases taken
    exact .inl refused

end Refusal

section Waiting
variable {spec : Http3TunnelSpec} {room after : Room} {waiter : Nat}

/-- No `retire` empties the list while the waiter sleeps. -/
def Room.Undrained (waiter : Nat) (room : Room) : RoomAction → Prop
  | .provider (.resume index _) => room.Sleeps waiter → room.provider.callers[index]? ≠ some .drain
  | _ => True

/-- A sleeping waiter has a signal ahead of it, or nothing to wake up for. -/
structure Room.Watched (waiter : Nat) (room : Room) : Prop where
  limited : Limited room.provider
  enabled : ∀ entry ∈ room.waiters, entry.enabled ≤ room.signals
  asleep : room.provider.stop = false → room.Sleeps waiter → room.dropping ≠ [] ∨ room.provider.Packed

theorem Room.Watched.provider (watched : room.Watched waiter) {action : Action} {next : State}
    (undrained : room.Undrained waiter (.provider action)) (foreign : action.foreign = true)
    (taken : Sessions.step spec room.provider action = .next next) :
    Room.Watched waiter { room with provider := next, dropping := room.dropping ++ room.provider.died next } := by
  have moved := shifts_of_step taken
  refine ⟨watched.limited.step moved, watched.enabled, ?_⟩
  rintro running ⟨dial, waits, refused⟩
  rcases refused_of_step foreign taken refused with before | ⟨task, found, rfl⟩
  · have sleeps : room.Sleeps waiter := ⟨dial, waits, before⟩
    rcases watched.asleep (moved.stop running) sleeps with ahead | packed
    · exact .inl fun none => ahead (List.append_eq_nil_iff.mp none).1
    · have still := packed.step watched.limited moved running (by
        rintro index answer rfl
        exact undrained sleeps)
      exact still.imp_left fun died none => died (List.append_eq_nil_iff.mp none).2
  · exact .inr (packed_of_check watched.limited found refused)

theorem Room.Watched.ring (watched : room.Watched waiter) (dropping : List Nat) :
    Room.Watched waiter { room with dropping, signals := room.signals + 1 } := by
  refine ⟨watched.limited, fun entry member => (watched.enabled entry member).trans (Nat.le_succ _), ?_⟩
  -- Every future that was enabled so far is notified.
  rintro - ⟨dial, waits, -⟩
  exact absurd (watched.enabled _ (List.mem_of_getElem? waits)) (Nat.not_succ_le_self _)

theorem Room.Watched.enable (watched : room.Watched waiter) :
    Room.Watched waiter { room with waiters := room.waiters ++ [⟨room.signals, none⟩] } := by
  refine ⟨watched.limited, ?_, ?_⟩
  · intro entry member
    rcases List.mem_append.mp member with there | added
    · exact watched.enabled entry there
    · rw [List.mem_singleton.mp added]
  · rintro running ⟨dial, waits, refused⟩
    rcases mem_concat_cases waits with ⟨-, same⟩ | before
    · cases same
    · exact watched.asleep running ⟨dial, before, refused⟩

theorem Room.Watched.redial (watched : room.Watched waiter) {other enabled : Nat}
    (found : room.waiters[other]? = some ⟨enabled, none⟩) :
    Room.Watched waiter { room with
      provider := { room.provider with callers := room.provider.callers ++ [Call.start .dial] }
      waiters := room.waiters.set other ⟨enabled, some room.provider.callers.length⟩ } := by
  refine ⟨watched.limited.call .dial, ?_, ?_⟩
  · intro entry member
    rcases List.mem_or_eq_of_mem_set member with kept | rfl
    · exact watched.enabled entry kept
    · exact watched.enabled ⟨enabled, none⟩ (List.mem_of_getElem? found)
  · rintro running ⟨dial, waits, refused⟩
    have before := refused_of_call refused
    rcases mem_set_cases waits with ⟨rfl, same⟩ | ⟨-, unmoved⟩
    · -- The dial has only just been made.
      obtain rfl : dial = room.provider.callers.length := Option.some.inj (congrArg Waiter.dial same)
      obtain ⟨point, there, -⟩ := refused_iff.mp before
      exact absurd (List.getElem?_eq_some_iff.mp there).1 (Nat.lt_irrefl _)
    · exact (watched.asleep running ⟨dial, unmoved, before⟩).imp_right fun packed => packed.call .dial

theorem Room.Watched.step (watched : room.Watched waiter) {action : RoomAction}
    (undrained : room.Undrained waiter action) (taken : room.step spec action = .next after) :
    after.Watched waiter := by
  cases action with
  | provider action =>
    obtain ⟨foreign, stepped⟩ := Outcome.guarded_eq_next.mp taken
    obtain ⟨next, moved, same⟩ := Outcome.bind_eq_next stepped
    cases same
    exact watched.provider undrained foreign moved
  | ring index =>
    simp only [Room.step] at taken
    split at taken
    · cases taken
      exact watched.ring _
    · cases taken
  | enable refused =>
    obtain ⟨-, same⟩ := Outcome.guarded_eq_next.mp taken
    cases same
    exact watched.enable
  | redial other =>
    simp only [Room.step] at taken
    split at taken
    · next enabled found =>
      cases taken
      exact watched.redial found
    · cases taken

/-- A `session` call made now is refused when it comes to its check. -/
def State.Refuses (spec : Http3TunnelSpec) (state : State) : Prop :=
  ∀ task, (State.check spec { state with callers := state.callers ++ [.check task] } state.callers.length
    task).callers[state.callers.length]? = some (.ended (.failed (.atCapacity maxSessions spec.freed)))

theorem State.Packed.refuses {state : State} (packed : state.Packed) : state.Refuses spec := by
  intro task
  have inside : state.callers.length < (state.callers ++ [Point.check task]).length := by simp
  have crowded : State.Packed { state with callers := state.callers ++ [.check task] } := packed.append rfl
  have emptied : { state with callers := state.callers ++ [.check task], current := none } =
      { state with callers := state.callers ++ [Point.check task] } := by rw [← packed.current]
  unfold State.check
  simp only [packed.current]
  unfold State.evict
  simp only [emptied]
  rw [if_pos crowded.full]
  exact List.getElem?_set_self inside

/-- A waiter that sleeps while no drop is under way has missed nothing: the provider has no usable current
session, all its places are taken by sessions that are alive, and a dial made now is refused. -/
theorem sleeper_misses_no_room {actions : List RoomAction} {final : Room}
    (run : RunWhile (Room.step spec) (Room.Undrained waiter) Room.new actions final)
    (running : final.provider.stop = false) (settled : final.dropping = []) (sleeps : final.Sleeps waiter) :
    (∀ session, final.provider.current = some session → final.provider.usable session = false) ∧
      (final.provider.all.filter final.provider.alive).length = maxSessions ∧ final.provider.Refuses spec := by
  have watched : final.Watched waiter := by
    refine run.preserves (fun room action after held undrained taken => held.step undrained taken) ?_
    exact ⟨limited_new, nofun, nofun⟩
  have packed := (watched.asleep running sleeps).resolve_left fun ahead => ahead settled
  refine ⟨?_, ?_, packed.refuses⟩
  · intro session holding
    cases packed.current.symm.trans holding
  · exact Nat.le_antisymm ((List.length_filter_le _ _).trans watched.limited.limit) packed.full

end Waiting

/-! Four sessions that were lost, each kept alive by its stream. -/

section Crowded

def anySpec : Http3TunnelSpec := ⟨"proxy", 443, 0⟩

def goesOn (index : Nat) (answers : List Answer) : List RoomAction :=
  answers.map fun answer => .provider (.resume index answer)

def toCheck (index : Nat) : List RoomAction := goesOn index [.proceed, .permitted true, .proceed]

def loses (index : Nat) : List RoomAction :=
  .provider (.call .dial) :: toCheck index ++
    goesOn index [.proceed, .connected (.ok ()), .proceed, .requested .accepted] ++ [.provider (.lose index)]

def fallsAsleep : List RoomAction :=
  loses 0 ++ loses 1 ++ loses 2 ++ loses 3 ++ .provider (.call .dial) :: toCheck 4 ++ goesOn 4 [.proceed] ++
    [.enable 4, .redial 0] ++ toCheck 5 ++ goesOn 5 [.proceed]

def retires (index : Nat) : List RoomAction :=
  .provider (.call .retire) :: goesOn index (List.replicate 11 .proceed)

def undrained (room : Room) : RoomAction → Bool
  | .provider (.resume index _) => room.provider.callers[index]? != some .drain
  | _ => true

theorem undrained_meets (room : Room) (action : RoomAction) (checked : undrained room action = true) :
    room.Undrained 0 action := by
  cases action with
  | provider action =>
    cases action with
    | resume index answer => exact fun _ => by simpa [undrained] using checked
    | _ => trivial
  | _ => trivial

theorem sleeper_misses_no_room_streaming : ∃ final : Room, final.provider.streams = [0, 1, 2, 3] ∧
    final.Sleeps 0 ∧ final.provider.Refuses anySpec := by
  have evaluated : ∃ final : Room, execute (fun room action => .guarded (undrained room action)
      (Room.step anySpec room action)) Room.new fallsAsleep = .next final ∧ final.provider.stop = false ∧
      final.dropping = [] ∧ final.provider.streams = [0, 1, 2, 3] ∧ final.Sleeps 0 :=
    ⟨_, rfl, rfl, rfl, rfl, 5, rfl, rfl⟩
  obtain ⟨final, finished, running, settled, streams, sleeps⟩ := evaluated
  have run := runWhile_of_execute undrained_meets finished
  exact ⟨final, streams, sleeps, (sleeper_misses_no_room run running settled sleeps).2.2⟩

/-- A `retire` that has returned. The streams keep its sessions from being dropped, so nobody rings, and the
waiter sleeps on although the list is empty and a dial would connect. -/
theorem retire_wakes_nobody : ∃ final : Room,
    Run (Room.step anySpec) Room.new (fallsAsleep ++ retires 6) final ∧ final.provider.stop = false ∧
      final.dropping = [] ∧ final.provider.callers[6]? = some (.ended .retired) ∧ final.Sleeps 0 ∧
      final.provider.all = [] ∧ ¬ final.provider.Refuses anySpec := by
  have evaluated : ∃ final : Room, execute (Room.step anySpec) Room.new (fallsAsleep ++ retires 6) = .next final ∧
      final.provider.stop = false ∧ final.dropping = [] ∧
      final.provider.callers[6]? = some (.ended .retired) ∧ final.Sleeps 0 ∧ final.provider.all = [] ∧
      (State.check anySpec { final.provider with callers := final.provider.callers ++ [.check .dial] }
        final.provider.callers.length .dial).callers[final.provider.callers.length]? = some (.connecting .dial) :=
    ⟨_, rfl, rfl, rfl, rfl, ⟨5, rfl, rfl⟩, rfl, rfl⟩
  obtain ⟨final, finished, running, settled, retired, sleeps, emptied, connects⟩ := evaluated
  refine ⟨final, run_of_execute finished, running, settled, retired, sleeps, emptied, fun refuses => ?_⟩
  cases connects.symm.trans (refuses .dial)

end Crowded

end ProxyTunnels.Http3.Sessions
