import Mathlib.Data.List.Nodup
import ProxyTunnels.Wireguard.Aside

/-! The resolver's query slots, and what one step of a resolution does to them.

The slots are counted inside smoltcp, so what its resolver keeps is observed through
`QuerySlots`. A resolution takes a permit, starts a query, waits for it and gives both back,
wherever it ends: `Books` is the exchange of permits and queries in one step.
-/

set_option autoImplicit false

namespace ProxyTunnels.Wireguard
open Machine

def dnsQuerySlots : Nat := 8

/-- What smoltcp's resolver keeps: the queries that occupy a slot, and how many slots there are. -/
structure QuerySlots (smoltcp : Smoltcp) where
  occupied : smoltcp.Dns → List smoltcp.Query
  capacity : smoltcp.Dns → Nat
  occupied_new : ∀ count, occupied (smoltcp.dnsNew count) = []
  capacity_new : ∀ count, capacity (smoltcp.dnsNew count) = count
  /-- A query that starts occupies a slot that was free. -/
  started : ∀ iface socket host kind query next, smoltcp.startQuery iface socket host kind = .ok (query, next) →
    query ∉ occupied socket ∧ (occupied next).Perm (query :: occupied socket) ∧ capacity socket ≤ capacity next
  noFreeSlot : ∀ iface socket host kind, smoltcp.startQuery iface socket host kind = .error .noFreeSlot →
    capacity socket ≤ (occupied socket).length
  pending : ∀ socket query, (smoltcp.getQueryResult socket query).1 = .pending →
    (occupied (smoltcp.getQueryResult socket query).2).Perm (occupied socket) ∧
      capacity socket ≤ capacity (smoltcp.getQueryResult socket query).2
  /-- A result, or a failure, frees the slot. -/
  answered : ∀ socket query, query ∈ occupied socket → (smoltcp.getQueryResult socket query).1 ≠ .pending →
    (query :: occupied (smoltcp.getQueryResult socket query).2).Perm (occupied socket) ∧
      capacity socket ≤ capacity (smoltcp.getQueryResult socket query).2
  cancelled : ∀ socket query, query ∈ occupied socket →
    (query :: occupied (smoltcp.cancelQuery socket query)).Perm (occupied socket) ∧
      capacity socket ≤ capacity (smoltcp.cancelQuery socket query)

structure ReferenceDns where
  slots : Nat
  occupied : List Nat
  result : Nat → QueryResult

def ReferenceDns.free (socket : ReferenceDns) (query : Nat) : ReferenceDns :=
  { socket with occupied := socket.occupied.erase query }

def ReferenceDns.startQuery (socket : ReferenceDns) : Except StartQueryError (Nat × ReferenceDns) :=
  match (List.range socket.slots).find? fun slot => slot ∉ socket.occupied with
  | none => .error .noFreeSlot
  | some slot =>
      .ok (slot, { socket with
        occupied := slot :: socket.occupied
        result := fun other => if other = slot then .pending else socket.result other })

def ReferenceDns.getQueryResult (socket : ReferenceDns) (query : Nat) : QueryResult × ReferenceDns :=
  if socket.result query = .pending then (.pending, socket) else (socket.result query, socket.free query)

def Smoltcp.answering : Smoltcp :=
  { Smoltcp.reference with
    Dns := ReferenceDns
    Query := Nat
    dnsNew := fun count => ⟨count, [], fun _ => .pending⟩
    startQuery := fun _ socket _ _ => socket.startQuery
    getQueryResult := ReferenceDns.getQueryResult
    cancelQuery := ReferenceDns.free }

namespace ReferenceDns
variable {socket next : ReferenceDns} {query : Nat}

theorem free_perm (held : query ∈ socket.occupied) :
    (query :: (socket.free query).occupied).Perm socket.occupied :=
  (List.perm_cons_erase held).symm

theorem startQuery_ok (started : socket.startQuery = .ok (query, next)) :
    query ∉ socket.occupied ∧ next.occupied.Perm (query :: socket.occupied) ∧ socket.slots ≤ next.slots := by
  unfold startQuery at started
  split at started
  · cases started
  · next slot first =>
    cases started
    exact ⟨by simpa using List.find?_some first, .refl _, Nat.le_refl _⟩

theorem startQuery_full (refused : socket.startQuery = .error .noFreeSlot) :
    socket.slots ≤ socket.occupied.length := by
  unfold startQuery at refused
  split at refused
  · next full =>
    have all : List.range socket.slots ⊆ socket.occupied := by
      intro slot member
      simpa using List.find?_eq_none.mp full slot member
    have fits := (List.subperm_of_subset List.nodup_range all).length_le
    rwa [List.length_range] at fits
  · cases refused

theorem getQueryResult_pending (waiting : (socket.getQueryResult query).1 = .pending) :
    (socket.getQueryResult query).2 = socket := by
  unfold getQueryResult at waiting ⊢
  split
  · rfl
  · next known =>
    rw [if_neg known] at waiting
    exact absurd waiting known

theorem getQueryResult_answered (answered : (socket.getQueryResult query).1 ≠ .pending) :
    (socket.getQueryResult query).2 = socket.free query := by
  unfold getQueryResult at answered ⊢
  split
  · next unknown =>
    rw [if_pos unknown] at answered
    exact absurd rfl answered
  · rfl

end ReferenceDns

def answeringSlots : QuerySlots .answering where
  occupied := ReferenceDns.occupied
  capacity := ReferenceDns.slots
  occupied_new _ := rfl
  capacity_new _ := rfl
  started _ _ _ _ _ _ := ReferenceDns.startQuery_ok
  noFreeSlot _ _ _ _ := ReferenceDns.startQuery_full
  pending socket query waiting := by
    have same : (ReferenceDns.getQueryResult socket query).2 = socket := ReferenceDns.getQueryResult_pending waiting
    exact ⟨.of_eq (congrArg ReferenceDns.occupied same), Nat.le_of_eq (congrArg ReferenceDns.slots same).symm⟩
  answered socket query held answered := by
    have freed : (ReferenceDns.getQueryResult socket query).2 = ReferenceDns.free socket query :=
      ReferenceDns.getQueryResult_answered answered
    change (query :: (ReferenceDns.getQueryResult socket query).2.occupied).Perm _ ∧
      _ ≤ (ReferenceDns.getQueryResult socket query).2.slots
    rw [freed]
    exact ⟨ReferenceDns.free_perm held, Nat.le_refl _⟩
  cancelled _ _ held := ⟨ReferenceDns.free_perm held, Nat.le_refl _⟩

section Books
variable {smoltcp : Smoltcp}

def Actor.permits : Actor smoltcp → Nat
  | .resolving _ _ (.start _) | .resolving _ _ (.wait _ _ _) => 1
  | _ => 0

/-- The handle a live `QueryGuard` still holds. -/
def Actor.queries : Actor smoltcp → List smoltcp.Query
  | .resolving _ _ (.wait _ query _) => [query]
  | _ => []

def Inner.resolver (inner : Inner smoltcp) : Option smoltcp.Dns := inner.dns.bind inner.getDns

variable (slots : QuerySlots smoltcp)

def QuerySlots.occupiedIn (inner : Inner smoltcp) : List smoltcp.Query := inner.resolver.elim [] slots.occupied

/-- One step's exchange of permits and queries between an actor and the resolver. -/
structure Books (shared : Shared smoltcp) (actor : Actor smoltcp) (effect : Effect smoltcp) : Prop where
  permits : effect.shared.dnsPermits + effect.actor.permits = shared.dnsPermits + actor.permits
  queries : (actor.queries ++ slots.occupiedIn effect.shared.inner).Perm
    (effect.actor.queries ++ slots.occupiedIn shared.inner)
  nodup : (slots.occupiedIn shared.inner).Nodup → (slots.occupiedIn effect.shared.inner).Nodup
  capacity : ∀ socket, effect.shared.inner.resolver = some socket →
    ∃ old, shared.inner.resolver = some old ∧ slots.capacity old ≤ slots.capacity socket
  spawned : ∀ other ∈ effect.spawned, other.permits = 0 ∧ other.queries = []

variable {slots} {inner next : Inner smoltcp} {shared : Shared smoltcp} {actor new : Actor smoltcp}

theorem QuerySlots.occupiedIn_of_resolver {socket : smoltcp.Dns} (found : inner.resolver = some socket) :
    slots.occupiedIn inner = slots.occupied socket := by
  unfold QuerySlots.occupiedIn
  rw [found]
  rfl

theorem Inner.resolver_eq_some {handle : Handle} {socket : smoltcp.Dns} (configured : inner.dns = some handle)
    (place : inner.getDns handle = some socket) : inner.resolver = some socket := by
  unfold Inner.resolver
  rw [configured]
  exact place

theorem Inner.resolver_put {handle : Handle} {old : smoltcp.Dns} (configured : inner.dns = some handle)
    (place : inner.getDns handle = some old) (socket : smoltcp.Dns) :
    (inner.put handle (.dns socket)).resolver = some socket := by
  have here : (inner.put handle (.dns socket)).getDns handle = some socket := by
    rw [Inner.getDns_eq_some] at place ⊢
    exact (Slab.get_replace place (Socket.dns socket) handle).trans (if_pos rfl)
  exact Inner.resolver_eq_some configured here

theorem Inner.resolver_same (dns : next.dns = inner.dns) (same : inner.SameDns next)
    (present : ∀ handle, next.dns = some handle → ∃ socket, next.getDns handle = some socket) :
    next.resolver = inner.resolver := by
  unfold Inner.resolver
  cases configured : next.dns with
  | none =>
    rw [← dns, configured]
    rfl
  | some handle =>
    obtain ⟨socket, place⟩ := present handle configured
    rw [← dns, configured]
    change next.getDns handle = inner.getDns handle
    rw [place, same.getDns place]

theorem Books.stay {permits : Nat} (balance : permits + new.permits = shared.dnsPermits + actor.permits)
    (same : new.queries = actor.queries) :
    Books slots shared actor ⟨{ shared with dnsPermits := permits }, new, []⟩ where
  permits := balance
  queries := by rw [same]
  nodup := id
  capacity socket found := ⟨socket, found, Nat.le_refl _⟩
  spawned := by simp

theorem Books.put {handle : Handle} {old socket : smoltcp.Dns} {permits : Nat}
    (configured : shared.inner.dns = some handle) (place : shared.inner.getDns handle = some old)
    (balance : permits + new.permits = shared.dnsPermits + actor.permits)
    (queries : (actor.queries ++ slots.occupied socket).Perm (new.queries ++ slots.occupied old))
    (nodup : (slots.occupied old).Nodup → (slots.occupied socket).Nodup)
    (capacity : slots.capacity old ≤ slots.capacity socket) :
    Books slots shared actor
      ⟨{ shared with inner := shared.inner.put handle (.dns socket), dnsPermits := permits }, new, []⟩ := by
  have before := Inner.resolver_eq_some configured place
  have after := Inner.resolver_put configured place socket
  refine ⟨balance, ?_, ?_, ?_, by simp⟩
  · rw [QuerySlots.occupiedIn_of_resolver before, QuerySlots.occupiedIn_of_resolver after]
    exact queries
  · rw [QuerySlots.occupiedIn_of_resolver before, QuerySlots.occupiedIn_of_resolver after]
    exact nodup
  · intro other found
    cases after.symm.trans found
    exact ⟨old, before, capacity⟩

section Resolver
variable {host : String} {lastError : Option TunnelError} {point : Resolving smoltcp}

theorem Books.ends {kinds : List DnsQueryType} {query : smoltcp.Query} {asleep : Bool} {handle : Handle}
    {old socket : smoltcp.Dns} (configured : shared.inner.dns = some handle)
    (place : shared.inner.getDns handle = some old)
    (freed : (query :: slots.occupied socket).Perm (slots.occupied old) ∧ slots.capacity old ≤ slots.capacity socket)
    (without : new.permits = 0 ∧ new.queries = []) :
    Books slots shared (.resolving host lastError (.wait kinds query asleep))
      ⟨{ shared with inner := shared.inner.put handle (.dns socket), dnsPermits := shared.dnsPermits + 1 },
        new, []⟩ := by
  refine Books.put configured place ?_ ?_ ?_ freed.2
  · rw [without.1]
    rfl
  · rw [without.2]
    exact freed.1
  · intro nodup
    exact (List.nodup_cons.mp (freed.1.nodup_iff.mpr nodup)).2

theorem stepResolving_books {input : Input} {effect : Effect smoltcp}
    (secured : Secured shared (.resolving host lastError point))
    (held : ∀ query ∈ Actor.queries (.resolving host lastError point : Actor smoltcp),
      query ∈ slots.occupiedIn shared.inner)
    (taken : shared.stepActor (.resolving host lastError point) input = .next effect) :
    Books slots shared (.resolving host lastError point) effect := by
  -- A query that is waited for occupies a slot of the resolver's socket.
  have occupies : ∀ {handle : Handle} {socket : smoltcp.Dns} {query : smoltcp.Query},
      shared.inner.dns = some handle → shared.inner.getDns handle = some socket →
      query ∈ Actor.queries (.resolving host lastError point : Actor smoltcp) → query ∈ slots.occupied socket := by
    intro handle socket query configured place mine
    have there := held query mine
    rwa [QuerySlots.occupiedIn_of_resolver (Inner.resolver_eq_some configured place)] at there
  cases turns_of_step taken with
  | rests rests => cases rests <;> exact Books.stay rfl rfl
  | acquires available =>
    refine Books.stay ?_ rfl
    change shared.dnsPermits - 1 + 1 = shared.dnsPermits
    omega
  | starts configured place started =>
    obtain ⟨fresh, occupied, capacity⟩ := slots.started _ _ _ _ _ _ started
    -- The permit stays with the call, which now has a query to show for it.
    refine Books.put configured place rfl occupied ?_ capacity
    intro nodup
    exact occupied.nodup_iff.mpr (List.nodup_cons.mpr ⟨fresh, nodup⟩)
  | startsNot => exact Books.stay rfl rfl
  | @awaits _ _ kinds query asleep handle socket configured place waits =>
    obtain ⟨same, capacity⟩ := slots.pending socket query waits
    exact Books.put configured place rfl (same.cons query) same.nodup_iff.mpr capacity
  -- However a query ends, its slot is freed by the very poll that reports it.
  | asksOn configured place ended =>
    have freed := slots.answered _ _ (occupies configured place List.mem_cons_self) ended
    exact Books.ends configured place freed ⟨rfl, rfl⟩
  | resolves configured place answered =>
    have freed := slots.answered _ _ (occupies configured place List.mem_cons_self) (by rw [answered]; exact nofun)
    exact Books.ends configured place freed ⟨rfl, rfl⟩
  | cancels configured place =>
    have freed := slots.cancelled _ _ (occupies configured place List.mem_cons_self)
    exact Books.ends configured place freed ⟨rfl, rfl⟩
  | cancelsNothing absent => exact absurd absent secured.dns_found.1

end Resolver

theorem Actor.books_of_not_resolves (quiet : ¬ actor.Resolves) : actor.permits = 0 ∧ actor.queries = [] := by
  cases actor with
  | resolving host lastError point => exact absurd trivial quiet
  | _ => exact ⟨rfl, rfl⟩

theorem Books.of_aside {effect : Effect smoltcp} {port : UInt16} (quiet : ¬ actor.Resolves)
    (conserves : Conserves shared actor effect) (aside : Aside shared port effect)
    (resolver : effect.shared.inner.resolver = shared.inner.resolver) : Books slots shared actor effect := by
  obtain ⟨noPermit, noQuery⟩ := Actor.books_of_not_resolves quiet
  obtain ⟨stillNone, stillNothing⟩ := Actor.books_of_not_resolves fun resolves => quiet (conserves.resolver resolves)
  have same : slots.occupiedIn effect.shared.inner = slots.occupiedIn shared.inner := by
    unfold QuerySlots.occupiedIn
    rw [resolver]
  refine ⟨?_, ?_, ?_, ?_, fun other member => Actor.books_of_not_resolves (conserves.spawned other member)⟩
  · rw [aside.permits, noPermit, stillNone]
  · rw [same, noQuery, stillNothing]
  · rw [same]
    exact id
  · intro socket found
    exact ⟨socket, resolver ▸ found, Nat.le_refl _⟩

end Books

end ProxyTunnels.Wireguard
