import ProxyTunnels.Machine.Lock
import ProxyTunnels.Machine.Run

/-! The tasks of one HTTP/3 session, and what its teardown leaves of them.

`Http3Stream::new` spawns a writer and registers it inside one section of the writers' lock,
after a look at a flag that is not behind the lock; `Session::stop` sets the flag and takes the
list in separate steps, and may run more than once, from the provider and from the session's
drop. Tasks are named by the order in which they were spawned; the first is the driver.
-/

set_option autoImplicit false

namespace ProxyTunnels.Http3.Writers
open Machine

structure Task where
  finished : Bool
  aborted : Bool
  deriving DecidableEq, Repr

/-- The steps of `Http3Stream::new` and of `Session::stop`. -/
inductive Point where
  | lock
  | check
  | spawn
  | register (task : Nat)
  | opened (task : Nat)
  | refused
  | store
  | close
  | takeEndpoint
  | takeWriters (endpoint : Bool)
  | takeDriver (endpoint : Bool) (tasks : List Nat)
  | abort (endpoint : Bool) (tasks : List Nat) (next : Nat)
  | returned (endpoint : Bool) (tasks : List Nat)
  deriving DecidableEq, Repr

/-- The writers' lock is held from the look at the flag to the end of the registration;
`stop` takes it and the list in one step. -/
def Point.holdsLock : Point → Bool
  | .check | .spawn | .register _ => true
  | _ => false

structure State where
  stopped : Bool
  closed : Bool
  endpoint : Bool
  driver : Option Nat
  writers : List Nat
  tasks : List Task
  calls : List Point

def State.new : State := ⟨false, false, true, some 0, [], [⟨false, false⟩], []⟩

inductive Call where
  | openStream
  | stop
  deriving DecidableEq, Repr

def Call.start : Call → Point
  | .openStream => .lock
  | .stop => .store

inductive Action where
  | call (call : Call)
  | advance (index : Nat)
  /-- A task comes to its end, by itself or because it was aborted. -/
  | finish (task : Nat)
  deriving DecidableEq, Repr

def State.lockFree (state : State) : Bool := LockFree Point.holdsLock state.calls

def State.become (state : State) (index : Nat) (point : Point) : State :=
  { state with calls := state.calls.set index point }

/-- `JoinHandle::is_finished`. -/
def State.isFinished (state : State) (task : Nat) : Bool := (state.tasks[task]?).any Task.finished

def State.update (state : State) (task : Nat) (change : Task → Task) : State :=
  { state with tasks := state.tasks.modify task change }

def State.abort (state : State) (task : Nat) : State :=
  state.update task fun task => { task with aborted := true }

def State.advance (state : State) (index : Nat) : Point → Outcome State
  | .lock => .guarded state.lockFree (.next (state.become index .check))
  | .check => .next (state.become index (if state.stopped then .refused else .spawn))
  | .spawn => .next { state with
      tasks := state.tasks ++ [⟨false, false⟩]
      calls := state.calls.set index (.register state.tasks.length) }
  | .register task => .next { state with
      writers := (state.writers.filter fun writer => !state.isFinished writer) ++ [task]
      calls := state.calls.set index (.opened task) }
  | .store => .next ({ state with stopped := true }.become index .close)
  | .close => .next ({ state with closed := true }.become index .takeEndpoint)
  | .takeEndpoint => .next ({ state with endpoint := false }.become index (.takeWriters state.endpoint))
  | .takeWriters endpoint => .guarded state.lockFree (.next { state with
      writers := []
      calls := state.calls.set index (.takeDriver endpoint state.writers) })
  | .takeDriver endpoint tasks => .next { state with
      driver := none
      calls := state.calls.set index (.abort endpoint (tasks ++ state.driver.toList) 0) }
  | .abort endpoint tasks next =>
      match tasks[next]? with
      | none => .next (state.become index (.returned endpoint tasks))
      | some task => .next ((state.abort task).become index (.abort endpoint tasks (next + 1)))
  | .opened _ | .refused | .returned _ _ => .blocked

def State.step (state : State) : Action → Outcome State
  | .call call => .next { state with calls := state.calls ++ [call.start] }
  | .advance index =>
      match state.calls[index]? with
      | none => .blocked
      | some point => state.advance index point
  | .finish task => .next (state.update task fun task => { task with finished := true })

def Point.spawning : Point → Bool
  | .spawn | .register _ => true
  | _ => false

/-- A `stop` that has set the flag. -/
def Point.stored : Point → Bool
  | .close | .takeEndpoint | .takeWriters _ | .takeDriver _ _ | .abort _ _ _ | .returned _ _ => true
  | _ => false

/-- A `stop` that has taken the list. -/
def Point.hasTaken : Point → Bool
  | .takeDriver _ _ | .abort _ _ _ | .returned _ _ => true
  | _ => false

def Point.owned : Point → List Nat
  | .register task => [task]
  | .takeDriver _ tasks | .abort _ tasks _ | .returned _ tasks => tasks
  | _ => []

/-- The tasks a `stop` has aborted so far. -/
def Point.abortedTasks : Point → List Nat
  | .abort _ tasks next => tasks.take next
  | .returned _ tasks => tasks
  | _ => []

def State.Aborted (state : State) (task : Nat) : Prop :=
  ∃ entry, state.tasks[task]? = some entry ∧ entry.aborted = true

/-- Some `stop` has taken the list of writers. -/
def State.Taken (state : State) : Prop := ∃ call ∈ state.calls, call.hasTaken = true

def State.Kept (state : State) (task : Nat) : Prop :=
  task ∈ state.writers ∨ state.driver = some task ∨ ∃ call ∈ state.calls, task ∈ call.owned

structure Sound (state : State) : Prop where
  stored : ∀ call ∈ state.calls, call.stored = true → state.stopped = true
  emptied : state.Taken → state.writers = [] ∧ ∀ call ∈ state.calls, call.spawning = false
  driver : ∀ task, state.driver = some task → task = 0
  kept : ∀ task entry, state.tasks[task]? = some entry → entry.finished = true ∨ state.Kept task
  known : ∀ task, state.Kept task → task < state.tasks.length
  aborted : ∀ call ∈ state.calls, ∀ task ∈ call.abortedTasks, state.Aborted task

theorem sound_new : Sound .new where
  stored := nofun
  emptied := nofun
  driver task found := (Option.some.inj found).symm
  kept task entry found := by
    have first : task = 0 := Nat.lt_one_iff.mp (List.getElem?_eq_some_iff.mp found).1
    subst first
    exact .inr (.inr (.inl rfl))
  known := by
    rintro task (listed | found | ⟨call, listed, -⟩)
    · cases listed
    · cases found
      exact Nat.zero_lt_one
    · cases listed
  aborted := nofun

section Steps
variable {state next : State} {index : Nat} {old new : Point}

theorem Point.stored_of_hasTaken (taken : old.hasTaken = true) : old.stored = true := by
  cases old <;> first | rfl | cases taken

theorem Sound.stopped (sound : Sound state) (taken : state.Taken) : state.stopped = true := by
  obtain ⟨call, member, took⟩ := taken
  exact sound.stored call member (Point.stored_of_hasTaken took)

theorem owned_set {calls : List Point} (found : calls[index]? = some old) (new : Point) {task : Nat}
    (owned : ∃ call ∈ calls, task ∈ call.owned) :
    task ∈ old.owned ∨ ∃ call ∈ calls.set index new, task ∈ call.owned := by
  obtain ⟨call, member, owns⟩ := owned
  obtain ⟨place, there⟩ := List.mem_iff_getElem?.mp member
  by_cases same : place = index
  · subst same
    obtain rfl := Option.some.inj (found.symm.trans there)
    exact .inl owns
  · refine .inr ⟨call, List.mem_of_getElem? (i := place) ?_, owns⟩
    rw [List.getElem?_set_ne (Ne.symm same)]
    exact there

theorem taken_of_set (found : state.calls[index]? = some old)
    (someTaken : ∃ call ∈ state.calls.set index new, call.hasTaken = true)
    (taken : new.hasTaken = true → old.hasTaken = true) : state.Taken := by
  obtain ⟨call, member, took⟩ := someTaken
  rcases List.mem_or_eq_of_mem_set member with before | rfl
  · exact ⟨call, before, took⟩
  · exact ⟨old, List.mem_of_getElem? found, taken took⟩

theorem Sound.frame (sound : Sound state) (calls : next.calls = state.calls)
    (writers : next.writers = state.writers) (driver : next.driver = state.driver)
    (stopped : state.stopped = true → next.stopped = true)
    (length : next.tasks.length = state.tasks.length)
    (tasks : ∀ (task : Nat) (entry : Task), state.tasks[task]? = some entry →
      ∃ after : Task, next.tasks[task]? = some after ∧
        (entry.finished = true → after.finished = true) ∧ (entry.aborted = true → after.aborted = true)) :
    Sound next where
  stored := by
    rw [calls]
    exact fun call member stored => stopped (sound.stored call member stored)
  emptied := by
    unfold State.Taken
    rw [calls, writers]
    exact sound.emptied
  driver := by
    rw [driver]
    exact sound.driver
  kept task entry found := by
    have inside : task < state.tasks.length := length ▸ (List.getElem?_eq_some_iff.mp found).1
    obtain ⟨after, there, finished, -⟩ := tasks task _ (List.getElem?_eq_getElem inside)
    obtain rfl := Option.some.inj (found.symm.trans there)
    unfold State.Kept
    rw [calls, writers, driver]
    exact (sound.kept task _ (List.getElem?_eq_getElem inside)).imp_left finished
  known := by
    unfold State.Kept
    rw [calls, writers, driver, length]
    exact sound.known
  aborted := by
    rw [calls]
    intro call member task aborted
    obtain ⟨entry, found, was⟩ := sound.aborted call member task aborted
    obtain ⟨after, there, -, still⟩ := tasks task entry found
    exact ⟨after, there, still was⟩

theorem Sound.update (sound : Sound state) (task : Nat) {change : Task → Task}
    (finished : ∀ entry : Task, entry.finished = true → (change entry).finished = true)
    (aborted : ∀ entry : Task, entry.aborted = true → (change entry).aborted = true) :
    Sound (state.update task change) := by
  refine sound.frame rfl rfl rfl id (List.length_modify _ _ _) ?_
  intro other entry found
  by_cases same : task = other
  · exact ⟨change entry, by simp [State.update, same, found], finished entry, aborted entry⟩
  · exact ⟨entry, by simp [State.update, same, found], id, id⟩

def State.KeptBy (state : State) (call : Point) (task : Nat) : Prop :=
  task ∈ state.writers ∨ state.driver = some task ∨ task ∈ call.owned

theorem State.KeptBy.kept {task : Nat} (kept : state.KeptBy old task) (member : old ∈ state.calls) :
    state.Kept task :=
  kept.imp_right fun rest => rest.imp_right fun owned => ⟨old, member, owned⟩

/-- A call moves on: tasks may pass between it, the list and the driver's slot, but stay with one
of them until they have finished. -/
theorem Sound.move (sound : Sound state) (found : state.calls[index]? = some old)
    (calls : next.calls = state.calls.set index new) (tasks : next.tasks = state.tasks)
    (stopped : next.stopped = state.stopped) (stored : new.stored = true → state.stopped = true)
    (emptied : next.Taken → next.writers = [] ∧ new.spawning = false ∧ ∀ call ∈ state.calls, call.spawning = false)
    (driver : ∀ task, next.driver = some task → state.driver = some task)
    (kept : ∀ task, state.KeptBy old task → state.isFinished task = true ∨ next.KeptBy new task)
    (known : ∀ task, next.KeptBy new task → state.KeptBy old task)
    (aborted : ∀ task ∈ new.abortedTasks, state.Aborted task) : Sound next where
  stored call member isStored := by
    rw [calls] at member
    rw [stopped]
    rcases List.mem_or_eq_of_mem_set member with before | rfl
    · exact sound.stored call before isStored
    · exact stored isStored
  emptied taken := by
    obtain ⟨empty, silent, quiet⟩ := emptied taken
    refine ⟨empty, ?_⟩
    intro call member
    rw [calls] at member
    rcases List.mem_or_eq_of_mem_set member with before | rfl
    · exact quiet call before
    · exact silent
  driver task here := sound.driver task (driver task here)
  kept task entry there := by
    rw [tasks] at there
    have finished : state.isFinished task = entry.finished := by simp [State.isFinished, there]
    have moved : state.KeptBy old task → entry.finished = true ∨ next.Kept task := by
      rw [← finished]
      exact fun here => (kept task here).imp_right fun after => after.kept (calls ▸ mem_set_found found)
    rcases sound.kept task entry there with ended | listed | inSlot | inHand
    · exact .inl ended
    · exact moved (.inl listed)
    · exact moved (.inr (.inl inSlot))
    · rcases owned_set found new inHand with mine | others
      · exact moved (.inr (.inr mine))
      · exact .inr (.inr (.inr (calls ▸ others)))
  known task here := by
    rw [tasks]
    have before : next.KeptBy new task → task < state.tasks.length := fun after =>
      sound.known task ((known task after).kept (List.mem_of_getElem? found))
    rcases here with listed | inSlot | ⟨call, member, owns⟩
    · exact before (.inl listed)
    · exact before (.inr (.inl inSlot))
    · rw [calls] at member
      rcases List.mem_or_eq_of_mem_set member with earlier | rfl
      · exact sound.known task (.inr (.inr ⟨call, earlier, owns⟩))
      · exact before (.inr (.inr owns))
  aborted call member task isAborted := by
    unfold State.Aborted
    rw [calls] at member
    rw [tasks]
    rcases List.mem_or_eq_of_mem_set member with before | rfl
    · exact sound.aborted call before task isAborted
    · exact aborted task isAborted

theorem Sound.become (sound : Sound state) (found : state.calls[index]? = some old)
    (stored : new.stored = true → state.stopped = true) (taken : new.hasTaken = true → old.hasTaken = true)
    (spawning : new.spawning = true → state.stopped = false) (owned : new.owned = old.owned)
    (aborted : ∀ task ∈ new.abortedTasks, state.Aborted task) : Sound (state.become index new) := by
  refine sound.move found rfl rfl rfl stored ?_ (fun _ => id) ?_ ?_ aborted
  · intro someTaken
    have before : state.Taken := taken_of_set found someTaken taken
    obtain ⟨empty, quiet⟩ := sound.emptied before
    refine ⟨empty, Bool.eq_false_iff.mpr fun spawns => ?_, quiet⟩
    exact Bool.false_ne_true ((spawning spawns).symm.trans (sound.stopped before))
  · intro task kept
    unfold State.KeptBy
    rw [owned]
    exact .inr kept
  · intro task kept
    unfold State.KeptBy at kept
    rw [owned] at kept
    exact kept

theorem Sound.not_taken (sound : Sound state) (found : state.calls[index]? = some old)
    (spawning : old.spawning = true) : ¬ state.Taken := by
  intro taken
  have quiet := (sound.emptied taken).2 old (List.mem_of_getElem? found)
  exact Bool.false_ne_true (quiet.symm.trans spawning)

theorem Sound.spawn (sound : Sound state) (found : state.calls[index]? = some .spawn) :
    Sound { state with
      tasks := state.tasks ++ [⟨false, false⟩]
      calls := state.calls.set index (.register state.tasks.length) } where
  stored call member isStored := by
    rcases List.mem_or_eq_of_mem_set member with before | rfl
    · exact sound.stored call before isStored
    · cases isStored
  emptied taken := absurd (taken_of_set found taken nofun) (sound.not_taken found rfl)
  driver := sound.driver
  kept task entry there := by
    rcases mem_concat_cases there with ⟨rfl, -⟩ | there
    · exact .inr (.inr (.inr ⟨_, mem_set_found found, List.mem_cons_self⟩))
    · rcases sound.kept task entry there with finished | listed | driver | inHand
      · exact .inl finished
      · exact .inr (.inl listed)
      · exact .inr (.inr (.inl driver))
      · rcases owned_set found (.register state.tasks.length) inHand with mine | others
        · cases mine
        · exact .inr (.inr (.inr others))
  known task kept := by
    rw [List.length_append, List.length_singleton]
    refine Nat.lt_succ_of_le ?_
    rcases kept with listed | driver | ⟨call, member, owns⟩
    · exact Nat.le_of_lt (sound.known task (.inl listed))
    · exact Nat.le_of_lt (sound.known task (.inr (.inl driver)))
    · rcases List.mem_or_eq_of_mem_set member with before | rfl
      · exact Nat.le_of_lt (sound.known task (.inr (.inr ⟨call, before, owns⟩)))
      · exact Nat.le_of_eq (List.mem_singleton.mp owns)
  aborted call member task isAborted := by
    rcases List.mem_or_eq_of_mem_set member with before | rfl
    · obtain ⟨entry, there, was⟩ := sound.aborted call before task isAborted
      refine ⟨entry, ?_, was⟩
      rw [List.getElem?_append_left (List.getElem?_eq_some_iff.mp there).1]
      exact there
    · cases isAborted

theorem Sound.register (sound : Sound state) {task : Nat} (found : state.calls[index]? = some (.register task)) :
    Sound { state with
      writers := (state.writers.filter fun writer => !state.isFinished writer) ++ [task]
      calls := state.calls.set index (.opened task) } := by
  refine sound.move found rfl rfl rfl nofun ?_ (fun _ => id) ?_ ?_ nofun
  · exact fun taken => absurd (taken_of_set found taken nofun) (sound.not_taken found rfl)
  · rintro other (listed | inSlot | mine)
    · cases finished : state.isFinished other with
      | true => exact .inl rfl
      | false =>
        refine .inr (.inl (List.mem_append_left _ (List.mem_filter.mpr ⟨listed, ?_⟩)))
        rw [finished]
        rfl
    · exact .inr (.inr (.inl inSlot))
    · exact .inr (.inl (List.mem_append_right _ mine))
  · rintro other (listed | inSlot | mine)
    · rcases List.mem_append.mp listed with before | added
      · exact .inl (List.mem_of_mem_filter before)
      · exact .inr (.inr added)
    · exact .inr (.inl inSlot)
    · cases mine

/-- With the lock free nobody spawns, and with the flag set nobody will. -/
theorem Sound.takeWriters (sound : Sound state) {endpoint : Bool}
    (found : state.calls[index]? = some (.takeWriters endpoint)) (free : state.lockFree = true) :
    Sound { state with
      writers := []
      calls := state.calls.set index (.takeDriver endpoint state.writers) } := by
  refine sound.move found rfl rfl rfl (fun _ => sound.stored _ (List.mem_of_getElem? found) rfl) ?_
    (fun _ => id) ?_ ?_ nofun
  · refine fun _ => ⟨rfl, rfl, fun call member => ?_⟩
    have outside := not_holds_of_lockFree free member
    cases call <;> first | rfl | cases outside
  · rintro task (listed | inSlot | mine)
    · exact .inr (.inr (.inr listed))
    · exact .inr (.inr (.inl inSlot))
    · cases mine
  · rintro task (listed | inSlot | mine)
    · cases listed
    · exact .inr (.inl inSlot)
    · exact .inl mine

theorem Sound.takeDriver (sound : Sound state) {endpoint : Bool} {tasks : List Nat}
    (found : state.calls[index]? = some (.takeDriver endpoint tasks)) :
    Sound { state with
      driver := none
      calls := state.calls.set index (.abort endpoint (tasks ++ state.driver.toList) 0) } := by
  refine sound.move found rfl rfl rfl (fun _ => sound.stored _ (List.mem_of_getElem? found) rfl) ?_
    nofun ?_ ?_ nofun
  · intro taken
    obtain ⟨empty, quiet⟩ := sound.emptied (taken_of_set found taken fun _ => rfl)
    exact ⟨empty, rfl, quiet⟩
  · rintro task (listed | inSlot | mine)
    · exact .inr (.inl listed)
    · exact .inr (.inr (.inr (List.mem_append_right _ (Option.mem_toList.mpr inSlot))))
    · exact .inr (.inr (.inr (List.mem_append_left _ mine)))
  · rintro task (listed | inSlot | mine)
    · exact .inl listed
    · cases inSlot
    · rcases List.mem_append.mp mine with before | driver
      · exact .inr (.inr before)
      · exact .inr (.inl (Option.mem_toList.mp driver))

theorem Sound.abort (sound : Sound state) {endpoint : Bool} {tasks : List Nat} {position task : Nat}
    (found : state.calls[index]? = some (.abort endpoint tasks position)) (there : tasks[position]? = some task) :
    Sound ((state.abort task).become index (.abort endpoint tasks (position + 1))) := by
  have before : Sound (state.abort task) := sound.update task (fun _ => id) fun _ _ => rfl
  have member : Point.abort endpoint tasks position ∈ state.calls := List.mem_of_getElem? found
  refine before.become found (fun _ => sound.stored _ member rfl) (fun _ => rfl) nofun rfl ?_
  intro other aborted
  rw [Point.abortedTasks, List.take_add_one, there] at aborted
  rcases List.mem_append.mp aborted with earlier | here
  · exact before.aborted _ member other earlier
  · obtain rfl := List.mem_singleton.mp here
    have inside := sound.known other (.inr (.inr ⟨_, member, List.mem_of_getElem? there⟩))
    exact ⟨{ state.tasks[other] with aborted := true }, by simp [State.abort, State.update, inside], rfl⟩

theorem Sound.returned (sound : Sound state) {endpoint : Bool} {tasks : List Nat} {position : Nat}
    (found : state.calls[index]? = some (.abort endpoint tasks position)) (beyond : tasks[position]? = none) :
    Sound (state.become index (.returned endpoint tasks)) := by
  have member : Point.abort endpoint tasks position ∈ state.calls := List.mem_of_getElem? found
  refine sound.become found (fun _ => sound.stored _ member rfl) (fun _ => rfl) nofun rfl ?_
  intro task aborted
  refine sound.aborted _ member task ?_
  rw [Point.abortedTasks, List.take_of_length_le (List.getElem?_eq_none_iff.mp beyond)]
  exact aborted

structure Point.Fresh (point : Point) : Prop where
  stored : point.stored = false
  hasTaken : point.hasTaken = false
  spawning : point.spawning = false
  owned : point.owned = []
  abortedTasks : point.abortedTasks = []
  unopened : ∀ task, point ≠ .opened task

theorem Call.fresh_start (call : Call) : call.start.Fresh := by
  cases call with
  | openStream => exact ⟨rfl, rfl, rfl, rfl, rfl, nofun⟩
  | stop => exact ⟨rfl, rfl, rfl, rfl, rfl, nofun⟩

theorem mem_concat {calls : List Point} {call : Point} (member : call ∈ calls ++ [new]) :
    call ∈ calls ∨ call = new :=
  (List.mem_append.mp member).imp_right List.mem_singleton.mp

theorem Sound.call (sound : Sound state) (fresh : new.Fresh) :
    Sound { state with calls := state.calls ++ [new] } where
  stored call member stored := by
    rcases mem_concat member with before | rfl
    · exact sound.stored call before stored
    · exact absurd (fresh.stored.symm.trans stored) Bool.false_ne_true
  emptied taken := by
    have before : state.Taken := by
      obtain ⟨call, member, took⟩ := taken
      rcases mem_concat member with before | rfl
      · exact ⟨call, before, took⟩
      · exact absurd (fresh.hasTaken.symm.trans took) Bool.false_ne_true
    obtain ⟨empty, quiet⟩ := sound.emptied before
    refine ⟨empty, ?_⟩
    intro call member
    rcases mem_concat member with earlier | rfl
    · exact quiet call earlier
    · exact fresh.spawning
  driver := sound.driver
  kept task entry found := by
    refine (sound.kept task entry found).imp_right (Or.imp_right (Or.imp_right ?_))
    rintro ⟨call, member, owns⟩
    exact ⟨call, List.mem_append_left _ member, owns⟩
  known task kept := by
    refine sound.known task (kept.imp_right (Or.imp_right ?_))
    rintro ⟨call, member, owns⟩
    rcases mem_concat member with before | rfl
    · exact ⟨call, before, owns⟩
    · rw [fresh.owned] at owns
      cases owns
  aborted call member task aborted := by
    rcases mem_concat member with before | rfl
    · exact sound.aborted call before task aborted
    · rw [fresh.abortedTasks] at aborted
      cases aborted

theorem sound_advance (sound : Sound state) (found : state.calls[index]? = some old) :
    (state.advance index old).Ensures Sound := by
  have member : old ∈ state.calls := List.mem_of_getElem? found
  cases old with
  | lock => exact Outcome.ensures_guarded fun _ => sound.become found nofun nofun nofun rfl nofun
  | check =>
    refine sound.become found ?_ ?_ ?_ ?_ ?_
    all_goals
      cases flag : state.stopped with
      | true => simp [Point.stored, Point.hasTaken, Point.spawning, Point.owned, Point.abortedTasks]
      | false => simp [Point.stored, Point.hasTaken, Point.spawning, Point.owned, Point.abortedTasks]
  | spawn => exact sound.spawn found
  | register task => exact sound.register found
  | store =>
    have flagged : Sound { state with stopped := true } :=
      sound.frame rfl rfl rfl (fun _ => rfl) rfl fun _ entry there => ⟨entry, there, id, id⟩
    exact flagged.become found (fun _ => rfl) nofun nofun rfl nofun
  | close =>
    have closed : Sound { state with closed := true } :=
      sound.frame rfl rfl rfl id rfl fun _ entry there => ⟨entry, there, id, id⟩
    exact closed.become found (fun _ => sound.stored _ member rfl) nofun nofun rfl nofun
  | takeEndpoint =>
    have emptied : Sound { state with endpoint := false } :=
      sound.frame rfl rfl rfl id rfl fun _ entry there => ⟨entry, there, id, id⟩
    exact emptied.become found (fun _ => sound.stored _ member rfl) nofun nofun rfl nofun
  | takeWriters endpoint => exact Outcome.ensures_guarded fun free => sound.takeWriters found free
  | takeDriver endpoint tasks => exact sound.takeDriver found
  | abort endpoint tasks position =>
    unfold State.advance
    dsimp only
    split
    · next beyond => exact sound.returned found beyond
    · next task there => exact sound.abort found there
  | opened task => exact trivial
  | refused => exact trivial
  | returned endpoint tasks => exact trivial

theorem sound_step {action : Action} (sound : Sound state) (taken : state.step action = .next next) :
    Sound next := by
  cases action with
  | call call =>
    cases taken
    exact sound.call call.fresh_start
  | advance index =>
    unfold State.step at taken
    dsimp only at taken
    split at taken
    · cases taken
    · next point found => exact (sound_advance sound found).of_next taken
  | finish task =>
    cases taken
    exact sound.update task (fun _ _ => rfl) fun _ => id

structure Moved (state : State) (index : Nat) (old new : Point) (next : State) : Prop where
  calls : next.calls = state.calls.set index new
  hasTaken : old.hasTaken = true → new.hasTaken = true
  opened : ∀ task, new = .opened task → old.spawning = true
  tasks : old.spawning = false → next.tasks.length = state.tasks.length

theorem advance_moved (state : State) (index : Nat) (old : Point) :
    (state.advance index old).Ensures fun next => ∃ new, Moved state index old new next := by
  cases old with
  | lock => exact Outcome.ensures_guarded fun _ => ⟨_, rfl, nofun, nofun, fun _ => rfl⟩
  | check =>
    refine ⟨_, rfl, nofun, ?_, fun _ => rfl⟩
    cases state.stopped with
    | true => exact nofun
    | false => exact nofun
  | spawn => exact ⟨_, rfl, nofun, nofun, nofun⟩
  | register task => exact ⟨_, rfl, nofun, fun _ _ => rfl, nofun⟩
  | store => exact ⟨_, rfl, nofun, nofun, fun _ => rfl⟩
  | close => exact ⟨_, rfl, nofun, nofun, fun _ => rfl⟩
  | takeEndpoint => exact ⟨_, rfl, nofun, nofun, fun _ => rfl⟩
  | takeWriters endpoint => exact Outcome.ensures_guarded fun _ => ⟨_, rfl, nofun, nofun, fun _ => rfl⟩
  | takeDriver endpoint tasks => exact ⟨_, rfl, fun _ => rfl, nofun, fun _ => rfl⟩
  | abort endpoint tasks position =>
    unfold State.advance
    dsimp only
    split
    · exact ⟨_, rfl, fun _ => rfl, nofun, fun _ => rfl⟩
    · exact ⟨_, rfl, fun _ => rfl, nofun, fun _ => List.length_modify _ _ _⟩
  | opened task => exact trivial
  | refused => exact trivial
  | returned endpoint tasks => exact trivial

end Steps

/-- After the list was taken in `start`: no task was spawned and no stream opened since. -/
structure Settled (start state : State) : Prop where
  sound : Sound state
  taken : state.Taken
  tasks : state.tasks.length = start.tasks.length
  opened : ∀ (index task : Nat), state.calls[index]? = some (Point.opened task) →
    start.calls[index]? = some (Point.opened task)

section Runs
variable {start state next final : State} {index : Nat} {old new : Point}

theorem Settled.move (settled : Settled start state) (found : state.calls[index]? = some old)
    (moved : Moved state index old new next) (sound : Sound next) : Settled start next := by
  have quiet : old.spawning = false := (settled.sound.emptied settled.taken).2 old (List.mem_of_getElem? found)
  refine ⟨sound, ?_, (moved.tasks quiet).trans settled.tasks, ?_⟩
  · obtain ⟨call, member, took⟩ := settled.taken
    obtain ⟨place, there⟩ := List.mem_iff_getElem?.mp member
    unfold State.Taken
    rw [moved.calls]
    by_cases same : place = index
    · subst same
      obtain rfl := Option.some.inj (found.symm.trans there)
      exact ⟨new, mem_set_found found, moved.hasTaken took⟩
    · refine ⟨call, List.mem_of_getElem? (i := place) ?_, took⟩
      rw [List.getElem?_set_ne (Ne.symm same)]
      exact there
  · intro place task there
    rw [moved.calls] at there
    rcases mem_set_cases there with ⟨-, here⟩ | ⟨-, before⟩
    · exact absurd (quiet.symm.trans (moved.opened task here.symm)) Bool.false_ne_true
    · exact settled.opened place task before

theorem settled_step {action : Action} (settled : Settled start state)
    (taken : state.step action = .next next) : Settled start next := by
  have sound : Sound next := sound_step settled.sound taken
  cases action with
  | call call =>
    cases taken
    obtain ⟨other, member, took⟩ := settled.taken
    refine ⟨sound, ⟨other, List.mem_append_left _ member, took⟩, settled.tasks, ?_⟩
    intro place task there
    rcases mem_concat_cases there with ⟨-, here⟩ | before
    · exact absurd here.symm (call.fresh_start.unopened task)
    · exact settled.opened place task before
  | advance index =>
    unfold State.step at taken
    dsimp only at taken
    split at taken
    · cases taken
    · next point found =>
      obtain ⟨new, moved⟩ := (advance_moved state index point).of_next taken
      exact settled.move found moved sound
  | finish task =>
    cases taken
    exact ⟨sound, settled.taken, (List.length_modify _ _ _).trans settled.tasks, settled.opened⟩

theorem sound_of_reachable (reached : Reachable State.step (· = State.new) state) : Sound state := by
  refine reached.invariant ?_ ?_
  · rintro _ rfl
    exact sound_new
  · intro state action next sound taken
    exact sound_step sound taken

theorem Point.hasTaken_of_owned {task : Nat} (owned : task ∈ old.owned) (quiet : old.spawning = false) :
    old.hasTaken = true := by
  cases old <;> simp_all [Point.owned, Point.spawning, Point.hasTaken]

/-- Once a `stop` has taken the list of writers, in whatever order calls go on and tasks end: the
list stays empty, every writer has finished or is among the tasks some `stop` took, a `stop` that
has returned has aborted all it took, no writer is spawned and no stream opened any more, and a
call that looks at the flag is refused. -/
theorem teardown_leaves_no_writer {actions : List Action}
    (reached : Reachable State.step (· = State.new) state) (taken : state.Taken)
    (run : Run State.step state actions final) :
    final.writers = [] ∧
      (∀ (task : Nat) (entry : Task), task ≠ 0 → final.tasks[task]? = some entry →
        entry.finished = true ∨ ∃ call ∈ final.calls, call.hasTaken = true ∧ task ∈ call.owned) ∧
      (∀ endpoint tasks, .returned endpoint tasks ∈ final.calls → ∀ task ∈ tasks, final.Aborted task) ∧
      final.tasks.length = state.tasks.length ∧
      (∀ call ∈ final.calls, call.spawning = false) ∧
      (∀ (index task : Nat), final.calls[index]? = some (Point.opened task) →
        state.calls[index]? = some (Point.opened task)) ∧
      ∀ index : Nat, final.calls[index]? = some .check →
        final.step (.advance index) = .next (final.become index .refused) := by
  have settled : Settled state final :=
    Run.preserves (fun _ _ _ before moved => settled_step before moved) run
      ⟨sound_of_reachable reached, taken, rfl, fun _ _ found => found⟩
  obtain ⟨empty, quiet⟩ := settled.sound.emptied settled.taken
  refine ⟨empty, ?_, ?_, settled.tasks, quiet, settled.opened, ?_⟩
  · intro task entry writer found
    rcases settled.sound.kept task entry found with finished | listed | inSlot | ⟨call, member, owned⟩
    · exact .inl finished
    · rw [empty] at listed
      cases listed
    · exact absurd (settled.sound.driver task inSlot) writer
    · exact .inr ⟨call, member, Point.hasTaken_of_owned owned (quiet call member), owned⟩
  · intro endpoint tasks member task inside
    exact settled.sound.aborted _ member task inside
  · intro index found
    have flagged : final.stopped = true := settled.sound.stopped settled.taken
    unfold State.step
    dsimp only
    rw [found]
    unfold State.advance
    dsimp only
    rw [flagged]
    rfl

end Runs

theorem teardown_leaves_no_writer_one_stream : ∃ state : State, state.Taken ∧ state.writers = [] ∧
    state.calls = [.opened 1, .returned true [1, 0], .refused] := by
  have evaluated : ∃ state : State, execute State.step .new
      [.call .openStream, .advance 0, .advance 0, .advance 0, .advance 0, .call .stop, .advance 1, .advance 1,
        .call .openStream, .advance 1, .advance 1, .advance 1, .advance 1, .advance 1, .advance 1,
        .advance 2, .advance 2] = .next state ∧
      state.calls = [.opened 1, .returned true [1, 0], .refused] := ⟨_, rfl, rfl⟩
  obtain ⟨state, executed, calls⟩ := evaluated
  have reached : Reachable State.step (· = State.new) state := ⟨_, _, rfl, run_of_execute executed⟩
  have taken : state.Taken := ⟨.returned true [1, 0], by simp [calls], rfl⟩
  exact ⟨state, taken, (teardown_leaves_no_writer reached taken .done).1, calls⟩

end ProxyTunnels.Http3.Writers
