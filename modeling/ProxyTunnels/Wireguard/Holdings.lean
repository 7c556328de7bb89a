import ProxyTunnels.Wireguard.Ledger
import ProxyTunnels.Wireguard.Steps

/-! What an actor holds, and what it relies on.

An actor has handles of sockets and slots of the counter. It may use a handle only if the socket
set has a socket of the right kind there and nobody else has the handle.
-/

set_option autoImplicit false

namespace ProxyTunnels.Wireguard
open Machine

section Holdings
variable {smoltcp : Smoltcp}

def Actor.slots : Actor smoltcp → Nat
  | .connecting _ (.claim _) => 0
  | .connecting _ _ => 1
  | .stream _ _ _ _ _ | .retiring _ => 1
  | .binding _ _ _ .check | .binding _ _ _ (.claim _) => 0
  | .binding _ _ _ _ => 1
  | .udp _ _ _ _ | .udpRelease => 1
  | _ => 0

def Listening.pool : Listening → List Handle
  | .fill _ _ pool | .drop pool _ => pool
  | _ => []

/-- The connection an `accept` has taken out of the pool. -/
def Accepting.inHand : Accepting → List Handle
  | .taken handle _ | .claim handle _ _ | .full handle | .failed handle _ => [handle]
  | _ => []

def Actor.holds : Actor smoltcp → List Token
  | .connecting _ (.wait handle _) | .connecting _ (.discard handle _ _) => [(handle, .tcp)]
  | .stream _ handle _ _ _ | .retiring handle => [(handle, .tcp)]
  | .binding _ _ _ (.discard handle _) => [(handle, .udp)]
  | .udp handle _ _ _ => [(handle, .udp)]
  | .listening _ point => poolTokens point.pool
  | .listener _ pool point => poolTokens (pool ++ point.inHand)
  | _ => []

def Actor.Resolves : Actor smoltcp → Prop
  | .resolving _ _ _ => True
  | _ => False

/-- What an actor relies on: its tokens and those of the locked state are in the set, each
once, and its slots and those of closing sockets are claimed. -/
structure Secured (shared : Shared smoltcp) (actor : Actor smoltcp) : Prop where
  tokens : ∀ token, total (owns token) (shared.inner.reserved ++ actor.holds) ≤ shared.inner.present token
  slots : actor.slots + total Closing.slots shared.inner.closing ≤ shared.slots.opened
  resolver : actor.Resolves → shared.inner.dns ≠ none

variable {shared : Shared smoltcp} {actor : Actor smoltcp}

theorem mem_of_total_owns {token : Token} {tokens : List Token} (member : token ∈ tokens) :
    1 ≤ total (owns token) tokens := by
  obtain ⟨index, found⟩ := List.mem_iff_getElem?.mp member
  have bound := le_total (owns token) found
  rwa [owns_self] at bound

theorem Secured.kindAt (secured : Secured shared actor) {handle : Handle} {kind : Kind}
    (member : (handle, kind) ∈ shared.inner.reserved ++ actor.holds) :
    shared.inner.kindAt handle = some kind := by
  have held := mem_of_total_owns member
  have taken : 0 < shared.inner.present (handle, kind) := Nat.lt_of_lt_of_le held (secured.tokens _)
  exact Inner.kindAt_of_present taken

theorem Secured.kindAt_held (secured : Secured shared actor) {handle : Handle} {kind : Kind}
    (member : (handle, kind) ∈ actor.holds) : shared.inner.kindAt handle = some kind :=
  secured.kindAt (List.mem_append_right _ member)

theorem Secured.not_reserved (secured : Secured shared actor) {token : Token} (held : token ∈ actor.holds) :
    token ∉ shared.inner.reserved := by
  intro member
  have bound := secured.tokens token
  have one := mem_of_total_owns member
  have two := mem_of_total_owns held
  have most : shared.inner.present token = 1 := Inner.present_of_kindAt (secured.kindAt_held held)
  rw [total_append] at bound
  omega

theorem Secured.reclaimable (secured : Secured shared actor) : Reclaimable (shared.inner, shared.slots) where
  present token := by
    have bound := secured.tokens token
    simp only [Inner.reserved, total_append] at bound
    simp only [Inner.closingTokens]
    omega
  slots := by
    have bound := secured.slots
    dsimp only
    omega

@[simp] theorem total_poolTokens_append (token : Token) (first second : List Handle) :
    total (owns token) (poolTokens (first ++ second)) =
      total (owns token) (poolTokens first) + total (owns token) (poolTokens second) := by
  simp [poolTokens]

theorem mem_poolTokens {handle : Handle} {pool : List Handle} (member : handle ∈ pool) :
    (handle, Kind.tcp) ∈ poolTokens pool := List.mem_map.mpr ⟨handle, member, rfl⟩

section Listener
variable {port : UInt16} {pool : List Handle} {point : Accepting} {handle : Handle}

theorem listener_holds_pool (member : handle ∈ pool) :
    (handle, Kind.tcp) ∈ (Actor.listener port pool point : Actor smoltcp).holds :=
  mem_poolTokens (List.mem_append_left _ member)

theorem listener_holds_inHand (member : handle ∈ point.inHand) :
    (handle, Kind.tcp) ∈ (Actor.listener port pool point : Actor smoltcp).holds :=
  mem_poolTokens (List.mem_append_right _ member)

theorem Secured.pool_kindAt (secured : Secured shared (.listener port pool point)) :
    ∀ handle ∈ pool, shared.inner.kindAt handle = some .tcp := fun _ member =>
  secured.kindAt_held (listener_holds_pool member)

end Listener

theorem Secured.tokens_held (secured : Secured shared actor) (token : Token) :
    total (owns token) actor.holds ≤ shared.inner.present token := by
  have bound := secured.tokens token
  rw [total_append] at bound
  omega

theorem Secured.dnsSocket {host : String} {lastError : Option TunnelError} {point : Resolving smoltcp}
    (secured : Secured shared (.resolving host lastError point)) :
    ∃ handle socket, shared.inner.dns = some handle ∧ shared.inner.getDns handle = some socket ∧
      (handle, Kind.dns) ∈ shared.inner.reserved ++ Actor.holds (.resolving host lastError point : Actor smoltcp) := by
  cases configured : shared.inner.dns with
  | none => exact absurd configured (secured.resolver trivial)
  | some handle =>
    have held : (handle, Kind.dns) ∈ shared.inner.reserved ++
        Actor.holds (.resolving host lastError point : Actor smoltcp) := by
      simp [Inner.reserved, configured]
    obtain ⟨socket, place⟩ := Inner.getDns_of_kindAt (secured.kindAt held)
    exact ⟨handle, socket, rfl, place, held⟩

end Holdings

section Claims
variable {smoltcp : Smoltcp} {shared : Shared smoltcp} {actor : Actor smoltcp}

def Claimed.slots : Claimed → Nat
  | .got => 1
  | _ => 0

/-- What a step of `claim_socket` may do. -/
structure Claims (shared : Shared smoltcp) (result : Shared smoltcp × Claimed) : Prop where
  tokens : ∀ token, total (owns token) result.1.inner.reserved + shared.inner.present token =
    total (owns token) shared.inner.reserved + result.1.inner.present token
  slots : result.1.slots.opened + total Closing.slots shared.inner.closing =
    shared.slots.opened + (result.2.slots + total Closing.slots result.1.inner.closing)
  underflowed : result.1.slots.underflowed = shared.slots.underflowed
  cap : shared.slots.opened ≤ maxSockets → result.1.slots.opened ≤ maxSockets
  dns : result.1.inner.dns = shared.inner.dns
  stopped : result.1.stopped = shared.stopped
  frame : ∀ handle, shared.inner.kindAt handle ≠ none → (handle, .tcp) ∉ shared.inner.reserved →
    result.1.inner.sockets.get handle = shared.inner.sockets.get handle

theorem Claims.refl (point : Claim) : Claims shared (shared, .goOn point) :=
  ⟨fun _ => rfl, by simp [Claimed.slots], rfl, id, rfl, rfl, fun _ _ _ => rfl⟩

theorem claimSocket_claims (secured : Secured shared actor) (point : Claim) :
    (shared.claimSocket point).Satisfies (Claims shared) := by
  cases point with
  | load => exact Claims.refl _
  | reclaim =>
    refine (reclaimFinished_reclaimed true secured.reclaimable).bind ?_
    rintro ⟨inner, slots⟩ reclaimed
    refine ⟨?_, ?_, reclaimed.underflowed, ?_, reclaimed.dns, rfl, ?_⟩
    · intro token
      have ledger := reclaimed.ledger token
      have dns : inner.dns = shared.inner.dns := reclaimed.dns
      simp only [Inner.closingTokens] at ledger
      simp only [Inner.reserved, total_append, dns]
      omega
    · have balance := reclaimed.slots
      dsimp only at balance
      simp only [Claimed.slots]
      omega
    · intro cap
      exact Nat.le_trans reclaimed.fewer cap
    · intro handle taken foreign
      refine reclaimed.frame handle ?_ taken
      intro member
      obtain ⟨entry, inside, same⟩ := List.mem_map.mp member
      subst same
      exact foreign (List.mem_append_right _ (List.mem_map.mpr ⟨entry, inside, rfl⟩))
  | update =>
    unfold Shared.claimSocket
    dsimp only
    split
    · next room =>
      refine ⟨fun _ => rfl, ?_, rfl, fun _ => room, rfl, rfl, fun _ _ _ => rfl⟩
      simp only [Claimed.slots]
      omega
    · exact ⟨fun _ => rfl, by simp [Claimed.slots], rfl, id, rfl, rfl, fun _ _ _ => rfl⟩

end Claims

end ProxyTunnels.Wireguard
