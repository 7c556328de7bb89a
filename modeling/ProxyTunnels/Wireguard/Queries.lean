import ProxyTunnels.Wireguard.Custody
import ProxyTunnels.Wireguard.Lifecycle
import ProxyTunnels.Wireguard.QuerySlots

/-! Slots, guards and permits agree in every reachable state.

Three things are taken and given back at different points of a resolution: a permit of the
semaphore, a slot of the resolver, and the guard that cancels an abandoned query. `Booked`
ties them together; what a caller may rely on follows from it.
-/

set_option autoImplicit false

namespace ProxyTunnels.Wireguard
open Machine

section Runs
variable {smoltcp : Smoltcp} (slots : QuerySlots smoltcp)

/-- A poll of the interface answers queries; it neither starts nor frees any. -/
def QuerySlots.Respects (_ : Stack smoltcp) : Action smoltcp → Prop
  | .poll effect _ => ∀ handle socket,
      (slots.occupied (effect.dns handle socket)).Perm (slots.occupied socket) ∧
        slots.capacity socket ≤ slots.capacity (effect.dns handle socket)
  | _ => True

structure Booked (stack : Stack smoltcp) : Prop where
  permits : stack.shared.dnsPermits + total Actor.permits stack.actors = dnsQuerySlots
  queries : (slots.occupiedIn stack.shared.inner).Perm (stack.actors.flatMap Actor.queries)
  nodup : (slots.occupiedIn stack.shared.inner).Nodup
  capacity : ∀ socket, stack.shared.inner.resolver = some socket → dnsQuerySlots ≤ slots.capacity socket

variable {slots} {stack next : Stack smoltcp}

theorem booked_start {start : Stack smoltcp} (initial : start.Initial) : Booked slots start := by
  obtain ⟨config, iface, resolver, seed, bytes, rfl⟩ := initial
  cases resolver with
  | false =>
    refine ⟨rfl, .nil, .nil, ?_⟩
    intro socket found
    cases found
  | true =>
    have found : (Stack.start config iface true seed bytes).shared.inner.resolver = some (smoltcp.dnsNew 8) := rfl
    have empty := @QuerySlots.occupiedIn_of_resolver _ slots _ _ found
    rw [slots.occupied_new] at empty
    refine ⟨rfl, ?_, ?_, ?_⟩
    · rw [empty]
      exact .nil
    · rw [empty]
      exact .nil
    · intro socket same
      cases found.symm.trans same
      rw [slots.capacity_new]
      exact Nat.le_refl _

theorem Booked.act (booked : Booked slots stack) {index : Nat} {actor : Actor smoltcp}
    (found : stack.actors[index]? = some actor) {effect : Effect smoltcp}
    (books : Books slots stack.shared actor effect) :
    Booked slots { stack with
      shared := effect.shared
      actors := stack.actors.set index effect.actor ++ effect.spawned } where
  permits := by
    have before := booked.permits
    have moved := total_set Actor.permits found effect.actor
    have law := books.permits
    have none : total Actor.permits effect.spawned = 0 :=
      total_eq_zero fun other member => (books.spawned other member).1
    dsimp only
    rw [total_append, none]
    omega
  queries := by
    have none : effect.spawned.flatMap Actor.queries = [] :=
      List.flatMap_eq_nil_iff.mpr fun other member => (books.spawned other member).2
    dsimp only
    rw [List.flatMap_append, none, List.append_nil]
    -- Both sides are what the exchange leaves once the actor's own query is taken off.
    have exchanged := books.queries.trans (booked.queries.append_left effect.actor.queries)
    have moved := flatMap_set_perm Actor.queries found effect.actor
    exact (List.perm_append_left_iff actor.queries).mp (exchanged.trans moved.symm)
  nodup := books.nodup booked.nodup
  capacity socket here := by
    obtain ⟨old, there, grows⟩ := books.capacity socket here
    exact Nat.le_trans (booked.capacity old there) grows

theorem Actor.Stirs.books {actor other : Actor smoltcp} (stirs : actor.Stirs other) :
    other.permits = actor.permits ∧ other.queries = actor.queries := by
  cases stirs <;> exact ⟨rfl, rfl⟩

theorem Booked.remap (booked : Booked slots stack) {change : Actor smoltcp → Actor smoltcp}
    (stirs : ∀ actor : Actor smoltcp, actor.Stirs (change actor)) {shared : Shared smoltcp} {pump : PumpPhase} (permits : shared.dnsPermits = stack.shared.dnsPermits)
    (queries : (slots.occupiedIn shared.inner).Perm (slots.occupiedIn stack.shared.inner))
    (capacity : ∀ socket, shared.inner.resolver = some socket → dnsQuerySlots ≤ slots.capacity socket) :
    Booked slots ⟨shared, pump, stack.actors.map change⟩ where
  permits := by
    have unchanged : total (fun actor => (change actor).permits) stack.actors = total Actor.permits stack.actors :=
      total_congr fun actor _ => (stirs actor).books.1
    dsimp only
    rw [total_map, unchanged, permits]
    exact booked.permits
  queries := by
    have unchanged : (stack.actors.map change).flatMap Actor.queries = stack.actors.flatMap Actor.queries := by
      rw [List.flatMap_map]
      exact List.flatMap_congr fun actor _ => (stirs actor).books.2
    dsimp only
    rw [unchanged]
    exact queries.trans booked.queries
  nodup := queries.nodup_iff.mpr booked.nodup
  capacity := capacity

theorem StackCall.actor_books (shared : Shared smoltcp) (call : StackCall) :
    (call.actor shared).permits = 0 ∧ (call.actor shared).queries = [] := by
  cases call with
  | listen port backlog first => exact ⟨rfl, rfl⟩
  | resolve host =>
    unfold StackCall.actor
    dsimp only
    split
    · exact ⟨rfl, rfl⟩
    · exact ⟨rfl, rfl⟩
  | _ => exact ⟨rfl, rfl⟩

theorem Balanced.getDns (balanced : Balanced stack) {handle : Handle}
    (configured : stack.shared.inner.dns = some handle) :
    ∃ socket, stack.shared.inner.getDns handle = some socket := by
  have reserved : (handle, Kind.dns) ∈ stack.shared.inner.reserved := by simp [Inner.reserved, configured]
  have held := mem_of_total_owns reserved
  have tokens := balanced.tokens (handle, .dns)
  unfold Stack.holders at tokens
  have present : 0 < stack.shared.inner.present (handle, .dns) := by omega
  exact Inner.getDns_of_kindAt (Inner.kindAt_of_present present)

theorem Inner.resolver_interfacePoll (inner : Inner smoltcp) (effect : PollEffect smoltcp) :
    ∃ handle, (inner.interfacePoll effect).resolver = inner.resolver.map (effect.dns handle) := by
  have polled : ∀ handle, (inner.interfacePoll effect).sockets.get handle =
      (inner.sockets.get handle).map (effect.socket handle) := Slab.get_mapIdx _ _
  unfold Inner.resolver
  change ∃ handle, inner.dns.bind _ = _
  cases inner.dns with
  | none => exact ⟨0, rfl⟩
  | some handle =>
    refine ⟨handle, ?_⟩
    change (inner.interfacePoll effect).getDns handle = (inner.getDns handle).map _
    unfold Inner.getDns
    rw [polled]
    cases inner.sockets.get handle with
    | none => rfl
    | some socket => cases socket <;> rfl

theorem Inner.resolver_shutAll (inner : Inner smoltcp) : inner.shutAll.resolver = inner.resolver := by
  have shut : ∀ handle, inner.shutAll.sockets.get handle =
      (inner.sockets.get handle).map (Socket.shut handle) := Slab.get_mapIdx _ _
  unfold Inner.resolver
  change inner.dns.bind _ = _
  congr 1
  funext handle
  unfold Inner.getDns
  rw [shut]
  cases inner.sockets.get handle with
  | none => rfl
  | some socket => cases socket <;> rfl

theorem Booked.step (balanced : Balanced stack) (booked : Booked slots stack) {action : Action smoltcp}
    (respects : slots.Respects stack action) (taken : stack.step action = .next next) : Booked slots next := by
  have after : Balanced next := (balanced.step action).of_next taken
  cases Stack.moves_of_step taken with
  | call call =>
    obtain ⟨noPermit, noQuery⟩ := call.actor_books stack.shared
    refine ⟨?_, ?_, booked.nodup, booked.capacity⟩
    · dsimp only
      rw [total_append, total_cons, total_nil, noPermit]
      exact booked.permits
    · dsimp only
      rw [List.flatMap_append, List.flatMap_singleton, noQuery, List.append_nil]
      exact booked.queries
  | @act index input actor effect found stepped =>
    have secured := balanced.secured found
    have conserves := (stepActor_conserves actor input secured).of_next stepped
    refine booked.act found ?_
    by_cases resolves : actor.Resolves
    · cases actor with
      | resolving host lastError point =>
        refine stepResolving_books secured ?_ stepped
        intro query member
        exact booked.queries.mem_iff.mpr (List.mem_flatMap.mpr ⟨_, List.mem_of_getElem? found, member⟩)
      | _ => exact resolves.elim
    · have aside := (stepActor_aside resolves input).of_next stepped
      refine Books.of_aside resolves conserves aside ?_
      exact Inner.resolver_same conserves.dns aside.sockets fun handle configured => after.getDns configured
  | elapse micros => exact ⟨booked.permits, booked.queries, booked.nodup, booked.capacity⟩
  | @poll effect woken inner reclaiming running reclaimed =>
    have able := balanced.reclaimable effect
    have reserved := (reclaimFinished_reclaimed false able).of_next reclaimed
    obtain ⟨handle, polled⟩ := stack.shared.inner.resolver_interfacePoll effect
    have same : inner.resolver = stack.shared.inner.resolver.map (effect.dns handle) := by
      rw [← polled]
      exact Inner.resolver_same reserved.dns (reclaimLoop_beside.of_next reclaimed).dns
        fun handle configured => after.getDns configured
    refine booked.remap (Actor.wake_stirs woken) rfl ?_ ?_
    · dsimp only [QuerySlots.occupiedIn]
      rw [same]
      cases stack.shared.inner.resolver with
      | none => exact .nil
      | some socket => exact (respects handle socket).1
    · intro socket here
      obtain ⟨old, there, written⟩ := Option.map_eq_some_iff.mp (same.symm.trans here)
      subst written
      exact Nat.le_trans (booked.capacity old there) (respects handle old).2
  | flag running => exact ⟨booked.permits, booked.queries, booked.nodup, booked.capacity⟩
  | shut flagged =>
    have same : stack.shared.inner.shutAll.resolver = stack.shared.inner.resolver := Inner.resolver_shutAll _
    refine booked.remap (Actor.wake_stirs _) rfl ?_ ?_
    · change (stack.shared.inner.shutAll.resolver.elim [] slots.occupied).Perm _
      rw [same]
      exact .refl _
    · intro socket here
      exact booked.capacity socket (same.symm.trans here)
  | notify shut => exact booked.remap Actor.notify_stirs rfl (.refl _) booked.capacity

theorem booked_of_run {start : Stack smoltcp} {actions : List (Action smoltcp)} (initial : start.Initial)
    (run : RunWhile Stack.step slots.Respects start actions stack) : Booked slots stack := by
  let holds (stack : Stack smoltcp) : Prop := Balanced stack ∧ Booked slots stack
  have both : holds stack := by
    refine @RunWhile.preserves _ _ _ _ holds ?_ _ _ _ run ⟨balanced_start initial, booked_start initial⟩
    rintro stack action next ⟨balanced, booked⟩ respects taken
    exact ⟨(balanced.step action).of_next taken, booked.step balanced respects taken⟩
  exact both.2

def Actor.starting : Actor smoltcp → Nat
  | .resolving _ _ (.start _) => 1
  | _ => 0

theorem Booked.permits_eq (booked : Booked slots stack) :
    total Actor.permits stack.actors =
      total Actor.starting stack.actors + (slots.occupiedIn stack.shared.inner).length := by
  have each : ∀ actor ∈ stack.actors, Actor.permits actor = Actor.starting actor + actor.queries.length := by
    intro actor _
    cases actor with
    | resolving host lastError point => cases point <;> rfl
    | _ => rfl
  rw [booked.queries.length_eq, List.length_flatMap, total_congr each, total_add]
  rfl

/-- A call that holds a permit finds a free slot. -/
theorem Booked.startQuery_ne_noFreeSlot (booked : Booked slots stack) {host : String}
    {lastError : Option TunnelError} {kinds : List DnsQueryType}
    (starts : .resolving host lastError (.start kinds) ∈ stack.actors) {socket : smoltcp.Dns}
    (found : stack.shared.inner.resolver = some socket) (kind : DnsQueryType) :
    smoltcp.startQuery stack.shared.inner.iface socket host kind ≠ .error .noFreeSlot := by
  intro refused
  have full := slots.noFreeSlot _ _ _ _ refused
  have room := booked.capacity socket found
  have held := booked.permits_eq
  have bound := booked.permits
  obtain ⟨index, there⟩ := List.mem_iff_getElem?.mp starts
  have one : 1 ≤ total Actor.starting stack.actors := le_total Actor.starting there
  rw [QuerySlots.occupiedIn_of_resolver found] at held
  omega

/-- The call at `index` holds a guard on `query`. -/
def Stack.Waits (index : Nat) (query : smoltcp.Query) (stack : Stack smoltcp) : Prop :=
  ∃ actor, stack.actors[index]? = some actor ∧ query ∈ actor.queries

theorem Booked.occupied_of_waits (booked : Booked slots stack) {index : Nat} {query : smoltcp.Query}
    (waits : stack.Waits index query) : query ∈ slots.occupiedIn stack.shared.inner := by
  obtain ⟨actor, found, held⟩ := waits
  exact booked.queries.mem_iff.mpr (List.mem_flatMap.mpr ⟨actor, List.mem_of_getElem? found, held⟩)

theorem Booked.waits_unique (booked : Booked slots stack) {index other : Nat} {query : smoltcp.Query}
    (waits : stack.Waits index query) (also : stack.Waits other query) : other = index := by
  obtain ⟨actor, found, held⟩ := waits
  obtain ⟨second, there, shared⟩ := also
  have apart := (List.nodup_flatMap.mp (booked.queries.nodup_iff.mp booked.nodup)).2
  have ordered : ∀ {first last : Nat} {left right : Actor smoltcp}, first < last →
      stack.actors[first]? = some left → stack.actors[last]? = some right →
      query ∈ left.queries → query ∈ right.queries → False := by
    intro first last left right before one two inLeft inRight
    obtain ⟨firstBound, rfl⟩ := List.getElem?_eq_some_iff.mp one
    obtain ⟨lastBound, rfl⟩ := List.getElem?_eq_some_iff.mp two
    exact List.pairwise_iff_getElem.mp apart first last firstBound lastBound before inLeft inRight
  rcases Nat.lt_trichotomy other index with less | same | more
  · exact (ordered less there found shared held).elim
  · exact same
  · exact (ordered more found there held shared).elim

/-- The call at `index` starts `query` in this step. -/
def Stack.Starts (index : Nat) (query : smoltcp.Query) (stack : Stack smoltcp) (action : Action smoltcp) : Prop :=
  ∃ fresh host lastError kind kinds socket later, action = .act index (.advance fresh) ∧
    stack.actors[index]? = some (.resolving host lastError (.start (kind :: kinds))) ∧
    stack.shared.inner.resolver = some socket ∧
    smoltcp.startQuery stack.shared.inner.iface socket host kind = .ok (query, later)

theorem stepActor_origin {shared : Shared smoltcp} {actor : Actor smoltcp} {input : Input} {effect : Effect smoltcp}
    (taken : shared.stepActor actor input = .next effect) {query : smoltcp.Query}
    (held : query ∈ effect.actor.queries) :
    query ∈ actor.queries ∨ ∃ fresh host lastError kind kinds socket later, input = .advance fresh ∧
      actor = .resolving host lastError (.start (kind :: kinds)) ∧ shared.inner.resolver = some socket ∧
      smoltcp.startQuery shared.inner.iface socket host kind = .ok (query, later) := by
  cases turns_of_step taken with
  | rests rests => cases rests <;> cases held
  | @dialClaims remote point fresh next claimed claiming => cases claimed <;> cases held
  | @bindClaims port packets bytes point fresh next claimed claiming => cases claimed <;> cases held
  | @acceptClaims port pool handle fresh peer point next claimed claiming => cases claimed <;> cases held
  | starts configured place started =>
    obtain rfl := List.mem_singleton.mp held
    exact Or.inr ⟨_, _, _, _, _, _, _, rfl, rfl, Inner.resolver_eq_some configured place, started⟩
  | awaits configured place waits => exact Or.inl held
  | _ => cases held

/-- A guard comes from nowhere but its own call's `start_query`. -/
theorem waits_origin {action : Action smoltcp} (taken : stack.step action = .next next) {index : Nat}
    {query : smoltcp.Query} (waits : next.Waits index query) :
    stack.Waits index query ∨ stack.Starts index query action := by
  obtain ⟨waiting, there, held⟩ := waits
  -- Waking up does not give a call a guard.
  have mapped : ∀ {change : Actor smoltcp → Actor smoltcp},
      (∀ actor : Actor smoltcp, actor.Stirs (change actor)) →
      (stack.actors.map change)[index]? = some waiting → stack.Waits index query := by
    intro change stirs found
    rw [List.getElem?_map] at found
    obtain ⟨actor, old, rfl⟩ := Option.map_eq_some_iff.mp found
    exact ⟨actor, old, (stirs actor).books.2 ▸ held⟩
  cases Stack.moves_of_step taken with
  | call call =>
    rcases mem_concat_cases there with ⟨_, new⟩ | old
    · rw [new, (call.actor_books stack.shared).2] at held
      cases held
    · exact Or.inl ⟨waiting, old, held⟩
  | @act place input actor effect found stepped =>
    rcases getElem?_set_append_cases there with ⟨here, same⟩ | ⟨_, old⟩ | ⟨_, new⟩
    · subst here same
      rcases stepActor_origin stepped held with before | started
      · exact Or.inl ⟨_, found, before⟩
      · obtain ⟨fresh, host, lastError, kind, kinds, socket, later, rfl, rfl, resolver, started⟩ := started
        exact Or.inr ⟨fresh, host, lastError, kind, kinds, socket, later, rfl, found, resolver, started⟩
    · exact Or.inl ⟨waiting, old, held⟩
    · obtain ⟨_, peer, handle, rfl⟩ := ((stepActor_flows actor input).of_next stepped).spawned waiting new
      cases held
  | elapse micros => exact Or.inl ⟨waiting, there, held⟩
  | poll running reclaimed => exact Or.inl (mapped (Actor.wake_stirs _) there)
  | flag running => exact Or.inl ⟨waiting, there, held⟩
  | shut flagged => exact Or.inl (mapped (Actor.wake_stirs _) there)
  | notify shut => exact Or.inl (mapped Actor.notify_stirs there)

/-- The part of a run since the call at `index` started `query`, all of which it waited. -/
def StartedIn (index : Nat) (query : smoltcp.Query) (start : Stack smoltcp) (actions : List (Action smoltcp))
    (stack : Stack smoltcp) : Prop :=
  ∃ earlier action later before after, actions = earlier ++ action :: later ∧
    Run Stack.step start earlier before ∧ before.Starts index query action ∧ before.step action = .next after ∧
    RunWhile Stack.step (fun stack _ => stack.Waits index query) after later stack

theorem started_of_run {start : Stack smoltcp} {actions : List (Action smoltcp)} {index : Nat}
    {query : smoltcp.Query} (run : Run Stack.step start actions stack) (waits : stack.Waits index query) :
    RunWhile Stack.step (fun stack _ => stack.Waits index query) start actions stack ∧ start.Waits index query ∨
      StartedIn index query start actions stack := by
  induction run with
  | done => exact Or.inl ⟨.done, waits⟩
  | @next start middle final action rest _ taken _ ih =>
    rcases ih waits with ⟨since, waiting⟩ | started
    · rcases waits_origin taken waiting with already | starts
      · exact Or.inl ⟨.next already taken since, already⟩
      · exact Or.inr ⟨[], action, rest, start, middle, rfl, .done, starts, taken, since⟩
    · obtain ⟨earlier, starting, later, before, after, rfl, reach, rest⟩ := started
      exact Or.inr ⟨action :: earlier, starting, later, before, after, rfl, .next trivial taken reach, rest⟩

end Runs

/-- In every reachable state the occupied slots of the resolver are the queries of the calls that
hold a guard, at most the permits that are held, at most the slots there are. So a query never
fails for want of a slot, the slot a call asks about or cancels is occupied, is no other call's and
is the one this call started and has waited for since, and with no resolution in progress every
permit and every slot is free. -/
theorem dns_slots_exact {smoltcp : Smoltcp} (slots : QuerySlots smoltcp) {start stack : Stack smoltcp}
    {actions : List (Action smoltcp)} (initial : start.Initial)
    (run : RunWhile Stack.step slots.Respects start actions stack) :
    (slots.occupiedIn stack.shared.inner).length = (stack.actors.flatMap Actor.queries).length ∧
      (stack.actors.flatMap Actor.queries).length ≤ total Actor.permits stack.actors ∧
      total Actor.permits stack.actors = dnsQuerySlots - stack.shared.dnsPermits ∧
      stack.shared.dnsPermits ≤ dnsQuerySlots ∧
      (∀ host lastError kinds socket kind, .resolving host lastError (.start kinds) ∈ stack.actors →
        stack.shared.inner.resolver = some socket →
        smoltcp.startQuery stack.shared.inner.iface socket host kind ≠ .error .noFreeSlot) ∧
      (∀ index query, stack.Waits index query → query ∈ slots.occupiedIn stack.shared.inner ∧
        (∀ other, stack.Waits other query → other = index) ∧ StartedIn index query start actions stack) ∧
      ((∀ actor ∈ stack.actors, ¬ actor.Resolves) →
        stack.shared.dnsPermits = dnsQuerySlots ∧ slots.occupiedIn stack.shared.inner = []) := by
  have booked := booked_of_run initial run
  have held := booked.permits
  have split := booked.permits_eq
  rw [booked.queries.length_eq] at split
  refine ⟨booked.queries.length_eq, by omega, by omega, by omega, ?_, ?_, ?_⟩
  · intro host lastError kinds socket kind starts found
    exact booked.startQuery_ne_noFreeSlot starts found kind
  · intro index query waits
    refine ⟨booked.occupied_of_waits waits, fun other also => booked.waits_unique waits also, ?_⟩
    rcases started_of_run run.toRun waits with ⟨_, actor, found, _⟩ | started
    · -- A stack starts without any calls.
      obtain ⟨config, iface, resolver, seed, bytes, rfl⟩ := initial
      cases found
    · exact started
  · intro quiet
    have none : total Actor.permits stack.actors = 0 :=
      total_eq_zero fun actor member => (Actor.books_of_not_resolves (quiet actor member)).1
    refine ⟨by omega, List.eq_nil_of_length_eq_zero ?_⟩
    rw [booked.queries.length_eq]
    omega

/-- Of three resolutions one is answered, one is dropped while it waits, and one is still waiting
for the slot that the first had. -/
theorem dns_slots_exact_reused :
    ∃ stack : Stack .answering, Reachable Stack.step Stack.Initial stack ∧ stack.shared.dnsPermits = 7 ∧
      (stack.actors.flatMap Actor.queries).length = 1 ∧
      (answeringSlots.occupiedIn stack.shared.inner).length = 1 := by
  have evaluated : ∃ stack : Stack .answering,
      execute Stack.step (.start ⟨true, false⟩ () true 0 65536)
        [.call (.resolve "a"), .call (.resolve "b"), .call (.resolve "c"),
          .act 0 (.advance 0), .act 0 (.advance 0), .act 0 (.advance 0),
          .act 1 (.advance 0), .act 1 (.advance 0), .act 1 (.advance 0),
          .poll ⟨id, fun _ => id, fun _ => id,
            fun _ (socket : ReferenceDns) => { socket with result := fun _ => .ready [[10, 0, 0, 7]] }⟩
            ⟨fun _ => false, fun _ => false, true⟩,
          .act 0 (.poll .query), .act 1 (.cancel .query),
          .act 2 (.advance 0), .act 2 (.advance 0), .act 2 (.advance 0)] = .next stack ∧
      stack.shared.dnsPermits = 7 ∧ (stack.actors.flatMap Actor.queries).length = 1 := ⟨_, rfl, rfl, rfl⟩
  obtain ⟨stack, ran, permits, guards⟩ := evaluated
  have starts : (Stack.start ⟨true, false⟩ () true 0 65536 : Stack .answering).Initial := ⟨_, _, _, _, _, rfl⟩
  refine ⟨stack, ⟨_, _, starts, run_of_execute ran⟩, permits, guards, ?_⟩
  refine (dns_slots_exact answeringSlots starts ((run_of_execute ran).restrict ?_)).1.trans guards
  -- The one poll answers what is pending and leaves the slots as they are.
  intro action member state
  simp only [List.mem_cons, List.not_mem_nil, or_false] at member
  rcases member with rfl | rfl | rfl | rfl | rfl | rfl | rfl | rfl | rfl | rfl | rfl | rfl | rfl | rfl | rfl
  all_goals first | exact trivial | exact fun _ _ => ⟨.refl _, Nat.le_refl _⟩

end ProxyTunnels.Wireguard
