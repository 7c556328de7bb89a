import ProxyTunnels.Registry.Entries

/-! No front is lost between the registry's map, its accept loops and its callers.

`Consistent` ties the three together: an entry names a running loop that was started for
it, and a loop that was not stopped is named by the entry of its id or is in the hands of
a stop call that is still in progress. Each operation is shown once to keep it, along
with what it leaves alone.
-/

set_option autoImplicit false

namespace ProxyTunnels.Registry
open Machine Socks5

structure Consistent (registry : TunnelRegistry) : Prop where
  entered : ∀ proxyConfigId existing, registry.entries.lookup proxyConfigId = some existing →
    ∃ loop, registry.loops[existing.task]? = some loop ∧ loop.proxyConfigId = proxyConfigId ∧
      loop.revision = existing.revision ∧ loop.front = existing.front ∧ loop.stopped = false
  covered : ∀ (task : Nat) (loop : Loop), registry.loops[task]? = some loop → loop.stopped = true ∨
    (∃ existing, registry.entries.lookup loop.proxyConfigId = some existing ∧ existing.task = task) ∨
    ∃ call ∈ registry.stops, task ∈ call.left
  taken : ∀ call ∈ registry.stops, ∀ task ∈ call.left, ∃ loop, registry.loops[task]? = some loop ∧
    (∀ proxyConfigId, call.target = some proxyConfigId → loop.proxyConfigId = proxyConfigId) ∧
    ∀ existing, registry.entries.lookup loop.proxyConfigId = some existing → existing.task ≠ task

section Loops
variable {registry : TunnelRegistry} {task other : Nat} {loop : Loop}

theorem stopLoop_entries : (registry.stopLoop task).entries = registry.entries := by
  unfold TunnelRegistry.stopLoop
  split <;> rfl

theorem stopLoop_stops : (registry.stopLoop task).stops = registry.stops := by
  unfold TunnelRegistry.stopLoop
  split <;> rfl

theorem stopLoop_self (found : registry.loops[task]? = some loop) :
    (registry.stopLoop task).loops[task]? = some { loop with stopped := true } := by
  simp only [TunnelRegistry.stopLoop, found]
  exact getElem?_set_found found

theorem stopLoop_other (apart : other ≠ task) : (registry.stopLoop task).loops[other]? = registry.loops[other]? := by
  unfold TunnelRegistry.stopLoop
  split
  · exact List.getElem?_set_ne (Ne.symm apart)
  · rfl

theorem stopLoop_cases (found : (registry.stopLoop task).loops[other]? = some loop) :
    (other = task ∧ loop.stopped = true) ∨ (other ≠ task ∧ registry.loops[other]? = some loop) := by
  by_cases same : other = task
  · subst same
    cases before : registry.loops[other]? with
    | none =>
      simp only [TunnelRegistry.stopLoop, before] at found
      cases found
    | some old =>
      cases (stopLoop_self before).symm.trans found
      exact Or.inl ⟨rfl, rfl⟩
  · rw [stopLoop_other same] at found
    exact Or.inr ⟨same, found⟩

theorem stopLoop_some (found : registry.loops[other]? = some loop) (task : Nat) :
    ∃ later, (registry.stopLoop task).loops[other]? = some later ∧
      later.proxyConfigId = loop.proxyConfigId := by
  by_cases same : other = task
  · subst same
    exact ⟨_, stopLoop_self found, rfl⟩
  · exact ⟨loop, (stopLoop_other same).trans found, rfl⟩

theorem consistent_stopLoop
    (entered : ∀ proxyConfigId existing, registry.entries.lookup proxyConfigId = some existing →
      existing.task ≠ task ∧ ∃ loop, registry.loops[existing.task]? = some loop ∧
        loop.proxyConfigId = proxyConfigId ∧ loop.revision = existing.revision ∧
        loop.front = existing.front ∧ loop.stopped = false)
    (covered : ∀ (other : Nat) (loop : Loop), other ≠ task → registry.loops[other]? = some loop →
      loop.stopped = true ∨
      (∃ existing, registry.entries.lookup loop.proxyConfigId = some existing ∧ existing.task = other) ∨
      ∃ call ∈ registry.stops, other ∈ call.left)
    (taken : ∀ call ∈ registry.stops, ∀ other ∈ call.left, ∃ loop, registry.loops[other]? = some loop ∧
      (∀ proxyConfigId, call.target = some proxyConfigId → loop.proxyConfigId = proxyConfigId) ∧
      ∀ existing, registry.entries.lookup loop.proxyConfigId = some existing → existing.task ≠ other) :
    Consistent (registry.stopLoop task) := by
  constructor
  · intro proxyConfigId existing named
    rw [stopLoop_entries] at named
    obtain ⟨apart, loop, placed, facts⟩ := entered proxyConfigId existing named
    exact ⟨loop, (stopLoop_other apart).trans placed, facts⟩
  · intro other loop placed
    rw [stopLoop_entries, stopLoop_stops]
    rcases stopLoop_cases placed with ⟨-, stopped⟩ | ⟨apart, before⟩
    · exact Or.inl stopped
    · exact covered other loop apart before
  · intro call member other owed
    rw [stopLoop_stops] at member
    rw [stopLoop_entries]
    obtain ⟨loop, placed, aimed, unnamed⟩ := taken call member other owed
    obtain ⟨later, now, owner⟩ := stopLoop_some placed task
    refine ⟨later, now, ?_, ?_⟩
    · rw [owner]
      exact aimed
    · rw [owner]
      exact unnamed

end Loops

section Evicting
variable {registry : TunnelRegistry} {proxyConfigId : String} {existing : TunnelEntry}

def TunnelRegistry.evict (registry : TunnelRegistry) (proxyConfigId : String) (existing : TunnelEntry) :
    TunnelRegistry :=
  TunnelRegistry.stopLoop { registry with entries := registry.entries.erase proxyConfigId } existing.task

theorem evict_entries : (registry.evict proxyConfigId existing).entries = registry.entries.erase proxyConfigId :=
  stopLoop_entries

theorem lookup_of_erase {entries : AList fun _ : String => TunnelEntry} {other : String} {entry : TunnelEntry}
    (found : (entries.erase proxyConfigId).lookup other = some entry) :
    other ≠ proxyConfigId ∧ entries.lookup other = some entry := by
  by_cases same : other = proxyConfigId
  · subst same
    rw [AList.lookup_erase] at found
    cases found
  · rw [AList.lookup_erase_ne same] at found
    exact ⟨same, found⟩

theorem Consistent.task_ne (consistent : Consistent registry)
    (found : registry.entries.lookup proxyConfigId = some existing) {other : String} {entry : TunnelEntry}
    (named : registry.entries.lookup other = some entry) (apart : other ≠ proxyConfigId) :
    entry.task ≠ existing.task := by
  obtain ⟨loop, placed, owner, -⟩ := consistent.entered other entry named
  obtain ⟨running, there, isFor, -⟩ := consistent.entered proxyConfigId existing found
  intro same
  rw [same, there] at placed
  cases placed
  exact apart (owner.symm.trans isFor)

theorem Consistent.covered_erase (consistent : Consistent registry)
    (found : registry.entries.lookup proxyConfigId = some existing) {task : Nat} {loop : Loop}
    (apart : task ≠ existing.task) (placed : registry.loops[task]? = some loop) :
    loop.stopped = true ∨
      (∃ entry, (registry.entries.erase proxyConfigId).lookup loop.proxyConfigId = some entry ∧
        entry.task = task) ∨
      ∃ call ∈ registry.stops, task ∈ call.left := by
  rcases consistent.covered task loop placed with stopped | ⟨entry, named, same⟩ | owed
  · exact Or.inl stopped
  · refine Or.inr (Or.inl ⟨entry, ?_, same⟩)
    have another : loop.proxyConfigId ≠ proxyConfigId := by
      intro equal
      rw [equal, found] at named
      cases named
      exact apart same.symm
    rw [AList.lookup_erase_ne another]
    exact named
  · exact Or.inr (Or.inr owed)

theorem consistent_evict (consistent : Consistent registry)
    (found : registry.entries.lookup proxyConfigId = some existing) :
    Consistent (registry.evict proxyConfigId existing) := by
  refine consistent_stopLoop ?_ ?_ ?_
  · intro other entry named
    obtain ⟨apart, before⟩ := lookup_of_erase named
    exact ⟨consistent.task_ne found before apart, consistent.entered other entry before⟩
  · intro task loop apart placed
    exact consistent.covered_erase found apart placed
  · intro call member task owed
    obtain ⟨loop, placed, aimed, unnamed⟩ := consistent.taken call member task owed
    exact ⟨loop, placed, aimed, fun entry named => unnamed entry (lookup_of_erase named).2⟩

theorem consistent_stop (consistent : Consistent registry) (proxyConfigId : String) :
    Consistent (registry.stop proxyConfigId) := by
  unfold TunnelRegistry.stop
  split
  next existing found =>
    constructor
    · intro other entry named
      exact consistent.entered other entry (lookup_of_erase named).2
    · intro task loop placed
      by_cases own : task = existing.task
      -- The loop of the erased entry is what the call has to stop now.
      · refine Or.inr (Or.inr ⟨⟨some proxyConfigId, [existing.task]⟩, ?_, ?_⟩)
        · exact List.mem_append_right _ (List.mem_singleton_self _)
        · rw [own]
          exact List.mem_singleton_self _
      · rcases consistent.covered_erase found own placed with stopped | named | ⟨call, member, owed⟩
        · exact Or.inl stopped
        · exact Or.inr (Or.inl named)
        · exact Or.inr (Or.inr ⟨call, List.mem_append_left _ member, owed⟩)
    · intro call member task owed
      rcases List.mem_append.mp member with before | added
      · obtain ⟨loop, placed, aimed, unnamed⟩ := consistent.taken call before task owed
        exact ⟨loop, placed, aimed, fun entry named => unnamed entry (lookup_of_erase named).2⟩
      · obtain ⟨loop, placed, owner, -⟩ := consistent.entered proxyConfigId existing found
        rw [List.mem_singleton.mp added] at owed ⊢
        rw [List.mem_singleton.mp owed]
        refine ⟨loop, placed, ?_, ?_⟩
        · rintro aim ⟨⟩
          exact owner
        · intro entry named
          exact absurd owner (lookup_of_erase named).1
  next => exact consistent

theorem consistent_stopAll (consistent : Consistent registry) : Consistent registry.stopAll := by
  have empty : ∀ other : String, (∅ : AList fun _ : String => TunnelEntry).lookup other = none :=
    fun other => AList.lookup_empty other
  constructor
  · intro other entry named
    cases (empty other).symm.trans named
  · intro task loop placed
    rcases consistent.covered task loop placed with stopped | ⟨entry, named, same⟩ | ⟨call, member, owed⟩
    · exact Or.inl stopped
    · refine Or.inr (Or.inr ⟨_, List.mem_append_right _ (List.mem_singleton_self _), ?_⟩)
      exact List.mem_map.mpr ⟨_, AList.mem_lookup_iff.mp named, same⟩
    · exact Or.inr (Or.inr ⟨call, List.mem_append_left _ member, owed⟩)
  · intro call member task owed
    rcases List.mem_append.mp member with before | added
    · obtain ⟨loop, placed, aimed, -⟩ := consistent.taken call before task owed
      exact ⟨loop, placed, aimed, fun entry named => by cases (empty _).symm.trans named⟩
    · rw [List.mem_singleton.mp added] at owed ⊢
      obtain ⟨⟨owner, entry⟩, inside, rfl⟩ := List.mem_map.mp owed
      obtain ⟨loop, placed, -⟩ := consistent.entered owner entry (AList.mem_lookup_iff.mpr inside)
      exact ⟨loop, placed, nofun, fun entry named => by cases (empty _).symm.trans named⟩

end Evicting

section Ensuring
variable {registry : TunnelRegistry} {proxyConfigId revision : String}

theorem consistent_start (consistent : Consistent registry)
    (vacant : registry.entries.lookup proxyConfigId = none) (front : TunnelFront) :
    Consistent (registry.start proxyConfigId revision front) := by
  have older : ∀ {task : Nat} {loop : Loop}, registry.loops[task]? = some loop →
      (registry.start proxyConfigId revision front).loops[task]? = some loop := by
    intro task loop placed
    exact (List.getElem?_append_left (List.getElem?_eq_some_iff.mp placed).1).trans placed
  have kept : ∀ {other : String} {entry : TunnelEntry}, registry.entries.lookup other = some entry →
      (registry.start proxyConfigId revision front).entries.lookup other = some entry := by
    intro other entry named
    have apart : other ≠ proxyConfigId := by
      rintro rfl
      cases vacant.symm.trans named
    exact (AList.lookup_insert_ne apart).trans named
  have split : ∀ {other : String} {entry : TunnelEntry},
      (registry.start proxyConfigId revision front).entries.lookup other = some entry →
      (other = proxyConfigId ∧ entry = ⟨revision, front, registry.loops.length⟩) ∨
        registry.entries.lookup other = some entry := by
    intro other entry named
    by_cases same : other = proxyConfigId
    · subst same
      cases (AList.lookup_insert _).symm.trans named
      exact Or.inl ⟨rfl, rfl⟩
    · exact Or.inr ((AList.lookup_insert_ne same).symm.trans named)
  constructor
  · intro other entry named
    rcases split named with ⟨rfl, rfl⟩ | before
    · exact ⟨_, List.getElem?_concat_length, rfl, rfl, rfl, rfl⟩
    · obtain ⟨loop, placed, facts⟩ := consistent.entered other entry before
      exact ⟨loop, older placed, facts⟩
  · intro task loop placed
    rcases mem_concat_cases placed with ⟨rfl, rfl⟩ | before
    · exact Or.inr (Or.inl ⟨_, AList.lookup_insert _, rfl⟩)
    · rcases consistent.covered task loop before with stopped | ⟨entry, named, same⟩ | owed
      · exact Or.inl stopped
      · exact Or.inr (Or.inl ⟨entry, kept named, same⟩)
      · exact Or.inr (Or.inr owed)
  · intro call member task owed
    obtain ⟨loop, placed, aimed, unnamed⟩ := consistent.taken call member task owed
    refine ⟨loop, older placed, aimed, ?_⟩
    intro entry named
    rcases split named with ⟨-, rfl⟩ | before
    · exact Nat.ne_of_gt (List.getElem?_eq_some_iff.mp placed).1
    · exact unnamed entry before

variable {credentials : Credentials} {makeProvider : Except TunnelError Unit} {listener : Listener}

/-- From `make_provider` on: an error and no entry, or a front that was just started. -/
theorem build_cases (registry : TunnelRegistry) :
    (∃ error, registry.build proxyConfigId revision credentials makeProvider listener =
      (.error error, { registry with built := registry.built + 1 })) ∨
    ∃ port, registry.build proxyConfigId revision credentials makeProvider listener =
      (.ok ⟨port, credentials⟩, TunnelRegistry.start { registry with built := registry.built + 1 }
        proxyConfigId revision ⟨port, credentials⟩) := by
  unfold TunnelRegistry.build
  cases makeProvider with
  | error error => exact Or.inl ⟨error, rfl⟩
  | ok _ =>
    cases listener with
    | unbound error => exact Or.inl ⟨_, rfl⟩
    | unprepared error => exact Or.inl ⟨_, rfl⟩
    | unnamed error => exact Or.inl ⟨_, rfl⟩
    | bound port => exact Or.inr ⟨port, rfl⟩

/-- The registry once `ensure_tunnel_with` has seen to the previous entry of the id. -/
inductive Vacated (registry : TunnelRegistry) (proxyConfigId : String) : TunnelRegistry → Prop where
  | already : registry.entries.lookup proxyConfigId = none → Vacated registry proxyConfigId registry
  | evicted {existing : TunnelEntry} : registry.entries.lookup proxyConfigId = some existing →
      Vacated registry proxyConfigId (registry.evict proxyConfigId existing)

theorem Vacated.vacant {vacated : TunnelRegistry} (done : Vacated registry proxyConfigId vacated) :
    vacated.entries.lookup proxyConfigId = none := by
  cases done with
  | already vacant => exact vacant
  | evicted found =>
    rw [evict_entries]
    exact AList.lookup_erase _ _

theorem Vacated.consistent {vacated : TunnelRegistry} (done : Vacated registry proxyConfigId vacated)
    (consistent : Consistent registry) : Consistent vacated := by
  cases done with
  | already vacant => exact consistent
  | evicted found => exact consistent_evict consistent found

/-- `ensure_tunnel_with` reuses a running front of the same revision, or vacates the id and builds. -/
theorem ensure_cases (registry : TunnelRegistry) (proxyConfigId revision : String) (credentials : Credentials)
    (makeProvider : Except TunnelError Unit) (listener : Listener) :
    (∃ existing, registry.entries.lookup proxyConfigId = some existing ∧ existing.revision = revision ∧
      registry.isFinished existing.task = false ∧
      registry.ensureTunnelWith proxyConfigId revision credentials makeProvider listener =
        (.ok existing.front, registry)) ∨
    ∃ vacated, Vacated registry proxyConfigId vacated ∧
      registry.ensureTunnelWith proxyConfigId revision credentials makeProvider listener =
        vacated.build proxyConfigId revision credentials makeProvider listener := by
  unfold TunnelRegistry.ensureTunnelWith
  split
  next existing found =>
    split
    next reusable => exact Or.inl ⟨existing, found, reusable.1, reusable.2, rfl⟩
    next => exact Or.inr ⟨_, .evicted found, rfl⟩
  next vacant => exact Or.inr ⟨registry, .already vacant, rfl⟩

theorem consistent_called (consistent : Consistent registry) (built : Nat) :
    Consistent { registry with built := built } :=
  ⟨consistent.entered, consistent.covered, consistent.taken⟩

theorem consistent_ensure (consistent : Consistent registry) :
    Consistent (registry.ensureTunnelWith proxyConfigId revision credentials makeProvider listener).2 := by
  rcases ensure_cases registry proxyConfigId revision credentials makeProvider listener with
    ⟨existing, -, -, -, same⟩ | ⟨vacated, done, same⟩
  · rw [same]
    exact consistent
  · rw [same]
    have called := consistent_called (done.consistent consistent) (vacated.built + 1)
    rcases build_cases vacated with ⟨error, built⟩ | ⟨port, built⟩
    · rw [built]
      exact called
    · rw [built]
      exact consistent_start called done.vacant _

end Ensuring

section Steps
variable {registry next : TunnelRegistry}

theorem consistent_stopRevision (consistent : Consistent registry) (proxyConfigId revision : String) :
    Consistent (registry.stopRevision proxyConfigId revision) := by
  unfold TunnelRegistry.stopRevision
  split
  next existing found =>
    split
    · exact consistent_evict consistent found
    · exact consistent
  next => exact consistent

theorem consistent_stopTaken (consistent : Consistent registry) {call task : Nat} {taken : Stop}
    (found : registry.stops[call]? = some taken) (owed : task ∈ taken.left) :
    Consistent (TunnelRegistry.stopLoop { registry with
      stops := registry.stops.set call { taken with left := taken.left.erase task } } task) := by
  have earlier : ∀ later ∈ registry.stops.set call { taken with left := taken.left.erase task },
      ∃ before ∈ registry.stops, later.target = before.target ∧ ∀ other ∈ later.left, other ∈ before.left := by
    intro later member
    rcases List.mem_or_eq_of_mem_set member with kept | rfl
    · exact ⟨later, kept, rfl, fun _ inside => inside⟩
    · exact ⟨taken, List.mem_of_getElem? found, rfl, fun _ inside => List.mem_of_mem_erase inside⟩
  refine consistent_stopLoop ?_ ?_ ?_
  · intro proxyConfigId existing named
    obtain ⟨loop, placed, owner, facts⟩ := consistent.entered proxyConfigId existing named
    refine ⟨?_, loop, placed, owner, facts⟩
    intro same
    -- No entry names a loop that a call has taken.
    obtain ⟨other, there, -, unnamed⟩ := consistent.taken taken (List.mem_of_getElem? found) task owed
    rw [← same, placed] at there
    cases there
    exact unnamed existing (owner ▸ named) same
  · intro other loop apart placed
    rcases consistent.covered other loop placed with stopped | named | ⟨before, member, inside⟩
    · exact Or.inl stopped
    · exact Or.inr (Or.inl named)
    · refine Or.inr (Or.inr ?_)
      obtain ⟨place, there⟩ := List.mem_iff_getElem?.mp member
      by_cases same : place = call
      · subst same
        cases found.symm.trans there
        have bound := (List.getElem?_eq_some_iff.mp found).1
        exact ⟨_, List.mem_set bound _, (List.mem_erase_of_ne apart).mpr inside⟩
      · refine ⟨before, List.mem_of_getElem? (i := place) ?_, inside⟩
        rw [List.getElem?_set_ne (Ne.symm same), there]
  · intro later member other inside
    obtain ⟨before, listed, aim, sub⟩ := earlier later member
    obtain ⟨loop, placed, aimed, unnamed⟩ := consistent.taken before listed other (sub other inside)
    exact ⟨loop, placed, fun proxyConfigId target => aimed proxyConfigId (aim ▸ target), unnamed⟩

theorem consistent_finish (consistent : Consistent registry) {task : Nat} {ended : Loop}
    (found : registry.loops[task]? = some ended) :
    Consistent { registry with loops := registry.loops.set task { ended with finished := true } } := by
  have forward : ∀ {other : Nat} {loop : Loop}, registry.loops[other]? = some loop →
      ∃ later, (registry.loops.set task { ended with finished := true })[other]? = some later ∧
        later.proxyConfigId = loop.proxyConfigId ∧ later.revision = loop.revision ∧
        later.front = loop.front ∧ later.stopped = loop.stopped := by
    intro other loop placed
    by_cases same : task = other
    · subst same
      cases found.symm.trans placed
      exact ⟨_, getElem?_set_found found, rfl, rfl, rfl, rfl⟩
    · exact ⟨loop, (List.getElem?_set_ne same).trans placed, rfl, rfl, rfl, rfl⟩
  constructor
  · intro proxyConfigId existing named
    obtain ⟨loop, placed, owner, dated, shown, running⟩ := consistent.entered proxyConfigId existing named
    obtain ⟨later, now, sameOwner, sameDate, sameFront, sameFate⟩ := forward placed
    exact ⟨later, now, sameOwner.trans owner, sameDate.trans dated, sameFront.trans shown,
      sameFate.trans running⟩
  · intro other loop placed
    rcases mem_set_cases placed with ⟨rfl, rfl⟩ | ⟨-, before⟩
    · exact consistent.covered other ended found
    · exact consistent.covered other loop before
  · intro call member other owed
    obtain ⟨loop, placed, aimed, unnamed⟩ := consistent.taken call member other owed
    obtain ⟨later, now, sameOwner, -⟩ := forward placed
    exact ⟨later, now, fun proxyConfigId target => sameOwner.trans (aimed proxyConfigId target),
      sameOwner ▸ unnamed⟩

theorem consistent_step (consistent : Consistent registry) {action : Action}
    (taken : step registry action = .next next) : Consistent next := by
  cases action with
  | ensure proxyConfigId revision credentials makeProvider listener =>
    cases taken
    exact consistent_ensure consistent
  | stopRevision proxyConfigId revision =>
    cases taken
    exact consistent_stopRevision consistent proxyConfigId revision
  | stop proxyConfigId =>
    cases taken
    exact consistent_stop consistent proxyConfigId
  | stopAll =>
    cases taken
    exact consistent_stopAll consistent
  | stopTaken call task =>
    unfold step at taken
    simp only at taken
    split at taken
    next stop found =>
      obtain ⟨owed, same⟩ := Outcome.guarded_eq_next.mp taken
      cases same
      exact consistent_stopTaken consistent found (List.contains_iff_mem.mp owed)
    next => cases taken
  | finish task =>
    unfold step at taken
    simp only at taken
    split at taken
    next ended found =>
      cases taken
      exact consistent_finish consistent found
    next => cases taken

theorem consistent_of_reachable (reached : Reachable step (· = TunnelRegistry.new) registry) :
    Consistent registry := by
  refine Reachable.invariant ?_ (fun _ _ _ consistent taken => consistent_step consistent taken) reached
  rintro registry rfl
  refine ⟨?_, nofun, nofun⟩
  intro proxyConfigId existing named
  cases (AList.lookup_empty _).symm.trans named

end Steps

section Results
variable {registry : TunnelRegistry} {proxyConfigId revision : String} {credentials : Credentials}
  {makeProvider : Except TunnelError Unit} {listener : Listener}

theorem ensure_ok {front : TunnelFront}
    (returned : (registry.ensureTunnelWith proxyConfigId revision credentials makeProvider listener).1 =
      .ok front) :
    ∃ existing, (registry.ensureTunnelWith proxyConfigId revision credentials makeProvider
        listener).2.entries.lookup proxyConfigId = some existing ∧
      existing.revision = revision ∧ existing.front = front := by
  rcases ensure_cases registry proxyConfigId revision credentials makeProvider listener with
    ⟨existing, found, dated, -, same⟩ | ⟨vacated, -, same⟩
  · rw [same] at returned ⊢
    cases returned
    exact ⟨existing, found, dated, rfl⟩
  · rw [same] at returned ⊢
    rcases build_cases vacated with ⟨error, built⟩ | ⟨port, built⟩
    · rw [built] at returned
      cases returned
    · rw [built] at returned ⊢
      cases returned
      exact ⟨_, AList.lookup_insert _, rfl, rfl⟩

theorem ensure_running {existing : TunnelEntry}
    (found : registry.entries.lookup proxyConfigId = some existing) (dated : existing.revision = revision)
    (running : registry.isFinished existing.task = false) :
    registry.ensureTunnelWith proxyConfigId revision credentials makeProvider listener =
      (.ok existing.front, registry) := by
  unfold TunnelRegistry.ensureTunnelWith
  rw [found]
  exact if_pos ⟨dated, running⟩

theorem ensure_error (consistent : Consistent registry) {error : TunnelError}
    (failed : (registry.ensureTunnelWith proxyConfigId revision credentials makeProvider listener).1 =
      .error error) :
    (registry.ensureTunnelWith proxyConfigId revision credentials makeProvider listener).2.entries.lookup
        proxyConfigId = none ∧
      ∀ existing, registry.entries.lookup proxyConfigId = some existing →
        ∃ loop, (registry.ensureTunnelWith proxyConfigId revision credentials makeProvider
          listener).2.loops[existing.task]? = some loop ∧ loop.stopped = true := by
  rcases ensure_cases registry proxyConfigId revision credentials makeProvider listener with
    ⟨existing, -, -, -, same⟩ | ⟨vacated, done, same⟩
  · rw [same] at failed
    cases failed
  · rw [same] at failed ⊢
    rcases build_cases vacated with ⟨error, built⟩ | ⟨port, built⟩
    · rw [built]
      refine ⟨done.vacant, ?_⟩
      intro existing found
      cases done with
      | already vacant => cases vacant.symm.trans found
      | evicted named =>
        cases named.symm.trans found
        obtain ⟨loop, placed, -⟩ := consistent.entered proxyConfigId existing found
        exact ⟨_, stopLoop_self placed, rfl⟩
    · rw [built] at failed
      cases failed

end Results

section Frames
variable {registry next : TunnelRegistry} {proxyConfigId : String}

structure LeavesOthers (registry next : TunnelRegistry) (proxyConfigId : String) : Prop where
  entries : ∀ other ≠ proxyConfigId, next.entries.lookup other = registry.entries.lookup other
  loops : ∀ (task : Nat) (loop : Loop), registry.loops[task]? = some loop →
    loop.proxyConfigId ≠ proxyConfigId → next.loops[task]? = some loop

theorem leavesOthers_refl (registry : TunnelRegistry) (proxyConfigId : String) :
    LeavesOthers registry registry proxyConfigId := ⟨fun _ _ => rfl, fun _ _ placed _ => placed⟩

theorem LeavesOthers.trans {last : TunnelRegistry} (first : LeavesOthers registry next proxyConfigId)
    (second : LeavesOthers next last proxyConfigId) : LeavesOthers registry last proxyConfigId :=
  ⟨fun other apart => (second.entries other apart).trans (first.entries other apart),
    fun task loop placed apart => second.loops task loop (first.loops task loop placed apart) apart⟩

theorem leavesOthers_evict (consistent : Consistent registry) {existing : TunnelEntry}
    (found : registry.entries.lookup proxyConfigId = some existing) :
    LeavesOthers registry (registry.evict proxyConfigId existing) proxyConfigId := by
  constructor
  · intro other apart
    rw [evict_entries]
    exact AList.lookup_erase_ne apart
  · intro task loop placed apart
    obtain ⟨running, there, owner, -⟩ := consistent.entered proxyConfigId existing found
    have elsewhere : task ≠ existing.task := by
      rintro rfl
      cases there.symm.trans placed
      exact apart owner
    exact (stopLoop_other elsewhere).trans placed

theorem leavesOthers_start (revision : String) (front : TunnelFront) :
    LeavesOthers registry (registry.start proxyConfigId revision front) proxyConfigId :=
  ⟨fun _ apart => AList.lookup_insert_ne apart, fun _ _ placed _ =>
    (List.getElem?_append_left (List.getElem?_eq_some_iff.mp placed).1).trans placed⟩

theorem leavesOthers_ensure (consistent : Consistent registry) (revision : String) (credentials : Credentials)
    (makeProvider : Except TunnelError Unit) (listener : Listener) :
    LeavesOthers registry
      (registry.ensureTunnelWith proxyConfigId revision credentials makeProvider listener).2 proxyConfigId := by
  rcases ensure_cases registry proxyConfigId revision credentials makeProvider listener with
    ⟨existing, -, -, -, same⟩ | ⟨vacated, done, same⟩
  · rw [same]
    exact leavesOthers_refl registry proxyConfigId
  · rw [same]
    have vacating : LeavesOthers registry { vacated with built := vacated.built + 1 } proxyConfigId := by
      cases done with
      | already vacant => exact ⟨fun _ _ => rfl, fun _ _ placed _ => placed⟩
      | evicted found =>
        obtain ⟨entries, loops⟩ := leavesOthers_evict consistent found
        exact ⟨entries, loops⟩
    rcases build_cases vacated with ⟨error, built⟩ | ⟨port, built⟩
    · rw [built]
      exact vacating
    · rw [built]
      exact vacating.trans (leavesOthers_start revision _)

inductive Concerns (registry : TunnelRegistry) (proxyConfigId : String) : Action → Prop where
  | ensure {revision : String} {credentials : Credentials} {makeProvider : Except TunnelError Unit}
      {listener : Listener} :
      Concerns registry proxyConfigId (.ensure proxyConfigId revision credentials makeProvider listener)
  | stopRevision {revision : String} : Concerns registry proxyConfigId (.stopRevision proxyConfigId revision)
  | stop : Concerns registry proxyConfigId (.stop proxyConfigId)
  | stopTaken {call task : Nat} {taken : Stop} : registry.stops[call]? = some taken →
      taken.target = some proxyConfigId → Concerns registry proxyConfigId (.stopTaken call task)

theorem leavesOthers_step (consistent : Consistent registry) {action : Action}
    (concerns : Concerns registry proxyConfigId action) (taken : step registry action = .next next) :
    LeavesOthers registry next proxyConfigId := by
  cases concerns with
  | ensure =>
    cases taken
    exact leavesOthers_ensure consistent _ _ _ _
  | stopRevision =>
    cases taken
    unfold TunnelRegistry.stopRevision
    split
    next existing found =>
      split
      · exact leavesOthers_evict consistent found
      · exact leavesOthers_refl _ _
    next => exact leavesOthers_refl _ _
  | stop =>
    cases taken
    unfold TunnelRegistry.stop
    split
    · exact ⟨fun _ apart => AList.lookup_erase_ne apart, fun _ _ placed _ => placed⟩
    · exact leavesOthers_refl _ _
  | @stopTaken call task stop found aim =>
    simp only [step, found] at taken
    obtain ⟨owed, same⟩ := Outcome.guarded_eq_next.mp taken
    cases same
    obtain ⟨stopping, there, aimed, -⟩ :=
      consistent.taken stop (List.mem_of_getElem? found) task (List.contains_iff_mem.mp owed)
    constructor
    · intro other _
      rw [stopLoop_entries]
    · intro other loop placed apart
      have elsewhere : other ≠ task := by
        rintro rfl
        cases there.symm.trans placed
        exact apart (aimed proxyConfigId aim)
      exact (stopLoop_other elsewhere).trans placed

/-- `stop_revision` leaves every front and entry of another revision alone. -/
theorem stopRevision_other (consistent : Consistent registry) (proxyConfigId revision : String) :
    (∀ (task : Nat) (loop : Loop), registry.loops[task]? = some loop → loop.revision ≠ revision →
      (registry.stopRevision proxyConfigId revision).loops[task]? = some loop) ∧
    ∀ (other : String) (entry : TunnelEntry), registry.entries.lookup other = some entry →
      entry.revision ≠ revision →
      (registry.stopRevision proxyConfigId revision).entries.lookup other = some entry := by
  unfold TunnelRegistry.stopRevision
  split
  next existing found =>
    split
    next dated =>
      obtain ⟨running, there, -, sameDate, -⟩ := consistent.entered proxyConfigId existing found
      constructor
      · intro task loop placed another
        have elsewhere : task ≠ existing.task := by
          rintro rfl
          cases there.symm.trans placed
          exact another (sameDate.trans dated)
        exact (stopLoop_other elsewhere).trans placed
      · intro other entry named another
        have apart : other ≠ proxyConfigId := by
          rintro rfl
          cases found.symm.trans named
          exact another dated
        rw [stopLoop_entries]
        exact (AList.lookup_erase_ne apart).trans named
    next => exact ⟨fun _ _ placed _ => placed, fun _ _ named _ => named⟩
  next => exact ⟨fun _ _ placed _ => placed, fun _ _ named _ => named⟩

end Frames

section Lifecycle
variable {registry : TunnelRegistry}

def TunnelRegistry.Enters (registry : TunnelRegistry) (proxyConfigId : String) (task : Nat) : Prop :=
  ∃ existing, registry.entries.lookup proxyConfigId = some existing ∧ existing.task = task

/-- No `stop` or `stop_all` has fronts left to stop. -/
def TunnelRegistry.Quiet (registry : TunnelRegistry) : Prop := ∀ call ∈ registry.stops, call.left = []

theorem Consistent.accounted (consistent : Consistent registry) {task : Nat} {loop : Loop}
    (placed : registry.loops[task]? = some loop) : loop.stopped = true ∨
      (∃ call ∈ registry.stops, task ∈ call.left) ∨
      ∀ proxyConfigId, registry.Enters proxyConfigId task ↔ proxyConfigId = loop.proxyConfigId := by
  rcases consistent.covered task loop placed with stopped | ⟨existing, named, same⟩ | owed
  · exact Or.inl stopped
  · refine Or.inr (Or.inr fun proxyConfigId => ⟨?_, ?_⟩)
    · rintro ⟨entry, found, rfl⟩
      obtain ⟨running, there, owner, -⟩ := consistent.entered proxyConfigId entry found
      cases there.symm.trans placed
      exact owner.symm
    · rintro rfl
      exact ⟨existing, named, same⟩
  · exact Or.inr (Or.inl owed)

theorem Consistent.one_front (consistent : Consistent registry) (quiet : registry.Quiet) {first second : Nat}
    {one other : Loop} (placed : registry.loops[first]? = some one)
    (there : registry.loops[second]? = some other) (running : one.stopped = false)
    (alive : other.stopped = false) (same : one.proxyConfigId = other.proxyConfigId) : first = second := by
  have entered : ∀ (task : Nat) (loop : Loop), registry.loops[task]? = some loop → loop.stopped = false →
      registry.Enters loop.proxyConfigId task := by
    intro task loop found unstopped
    rcases consistent.accounted found with stopped | ⟨call, member, owed⟩ | named
    · cases unstopped.symm.trans stopped
    · rw [quiet call member] at owed
      cases owed
    · exact (named _).mpr rfl
  obtain ⟨existing, named, rfl⟩ := entered first one placed running
  obtain ⟨entry, found, rfl⟩ := entered second other there alive
  rw [same] at named
  cases named.symm.trans found
  rfl

/-- The registry's life, over every sequence of calls and of loops ending on their own.
A loop is stopped, or in exactly the entry of the id it was started for, or about to be
stopped by a call in progress; between calls one front at most runs per id. A returned
front is the one now entered for the id and revision; a running entry of that revision
is returned as it is, without a provider being built; after an error the id has no entry
and its front was stopped. Calls leave other ids alone, and `stop_revision` other
revisions. -/
theorem registry_lifecycle (reached : Reachable step (· = TunnelRegistry.new) registry) :
    (∀ (task : Nat) (loop : Loop), registry.loops[task]? = some loop → loop.stopped = true ∨
      (∃ call ∈ registry.stops, task ∈ call.left) ∨
      ∀ proxyConfigId, registry.Enters proxyConfigId task ↔ proxyConfigId = loop.proxyConfigId) ∧
    (registry.Quiet → ∀ (first second : Nat) (one other : Loop), registry.loops[first]? = some one →
      registry.loops[second]? = some other → one.stopped = false → other.stopped = false →
      one.proxyConfigId = other.proxyConfigId → first = second) ∧
    (∀ proxyConfigId revision credentials makeProvider listener,
      let ensured := registry.ensureTunnelWith proxyConfigId revision credentials makeProvider listener
      (∀ front, ensured.1 = .ok front → ∃ existing loop,
        ensured.2.entries.lookup proxyConfigId = some existing ∧ existing.revision = revision ∧
        ensured.2.loops[existing.task]? = some loop ∧ loop.proxyConfigId = proxyConfigId ∧
        loop.revision = revision ∧ loop.front = front ∧ loop.stopped = false) ∧
      (∀ existing, registry.entries.lookup proxyConfigId = some existing → existing.revision = revision →
        registry.isFinished existing.task = false → ensured = (.ok existing.front, registry)) ∧
      (∀ error, ensured.1 = .error error → ensured.2.entries.lookup proxyConfigId = none ∧
        ∀ existing, registry.entries.lookup proxyConfigId = some existing →
          ∃ loop, ensured.2.loops[existing.task]? = some loop ∧ loop.stopped = true)) ∧
    (∀ proxyConfigId action next, Concerns registry proxyConfigId action →
      step registry action = .next next → LeavesOthers registry next proxyConfigId) ∧
    (∀ proxyConfigId revision,
      (∀ (task : Nat) (loop : Loop), registry.loops[task]? = some loop → loop.revision ≠ revision →
        (registry.stopRevision proxyConfigId revision).loops[task]? = some loop) ∧
      ∀ other entry, registry.entries.lookup other = some entry → entry.revision ≠ revision →
        (registry.stopRevision proxyConfigId revision).entries.lookup other = some entry) := by
  have consistent := consistent_of_reachable reached
  refine ⟨fun _ _ => consistent.accounted, ?_, ?_, ?_, ?_⟩
  · intro quiet first second one other placed there running alive same
    exact consistent.one_front quiet placed there running alive same
  · intro proxyConfigId revision credentials makeProvider listener ensured
    refine ⟨?_, fun _ => ensure_running, fun _ => ensure_error consistent⟩
    intro front returned
    obtain ⟨existing, named, rfl, rfl⟩ := ensure_ok returned
    obtain ⟨loop, placed, owner, dated, shown, running⟩ :=
      (consistent_ensure consistent).entered proxyConfigId existing named
    exact ⟨existing, loop, named, rfl, placed, owner, dated, shown, running⟩
  · intro proxyConfigId action next concerns taken
    exact leavesOthers_step consistent concerns taken
  · exact stopRevision_other consistent

theorem registry_lifecycle_replaced :
    ∃ (credentials : Credentials) (registry : TunnelRegistry),
      Run step .new [.ensure "a" "1" credentials (.ok ()) (.bound 4001),
        .ensure "a" "2" credentials (.ok ()) (.bound 4002),
        .ensure "b" "1" credentials (.ok ()) (.unbound "in use")] registry ∧
      registry.loops.map Loop.stopped = [true, false] ∧ registry.built = 3 ∧
      ∀ proxyConfigId, registry.Enters proxyConfigId 1 ↔ proxyConfigId = "a" := by
  let credentials : Credentials := ⟨"u", "p", by decide, by decide⟩
  have run : ∃ registry, Run step .new [.ensure "a" "1" credentials (.ok ()) (.bound 4001),
      .ensure "a" "2" credentials (.ok ()) (.bound 4002),
      .ensure "b" "1" credentials (.ok ()) (.unbound "in use")] registry ∧
      registry.loops = [⟨"a", "1", ⟨4001, credentials⟩, false, true⟩,
        ⟨"a", "2", ⟨4002, credentials⟩, false, false⟩] ∧
      registry.stops = [] ∧ registry.built = 3 := ⟨_, run_of_execute rfl, rfl, rfl, rfl⟩
  obtain ⟨registry, run, loops, idle, built⟩ := run
  refine ⟨credentials, registry, run, by rw [loops]; rfl, built, ?_⟩
  have second : registry.loops[1]? = some ⟨"a", "2", ⟨4002, credentials⟩, false, false⟩ := by
    rw [loops]
    rfl
  rcases (registry_lifecycle ⟨.new, _, rfl, run⟩).1 1 _ second with stopped | ⟨call, member, -⟩ | entered
  · cases stopped
  · rw [idle] at member
    cases member
  · exact entered

end Lifecycle

end ProxyTunnels.Registry
