import ProxyTunnels.Wireguard.Turns

/-! No step of an actor creates or destroys a claim on a socket or a slot.

What an actor holds is a list of tokens and a number of slots. A step exchanges them with
the locked state and the slot counter one for one, uses only handles that refer to the
sockets they are meant for, and leaves every other socket alone.
-/

set_option autoImplicit false

namespace ProxyTunnels.Wireguard
open Machine

section Rules
variable {smoltcp : Smoltcp}

structure Conserves (shared : Shared smoltcp) (actor : Actor smoltcp) (effect : Effect smoltcp) : Prop where
  tokens : ∀ token,
    total (owns token) (effect.shared.inner.reserved ++ effect.actor.holds) +
        total (fun spawned => total (owns token) spawned.holds) effect.spawned +
        shared.inner.present token =
      total (owns token) (shared.inner.reserved ++ actor.holds) + effect.shared.inner.present token
  slots : effect.shared.slots.opened + (actor.slots + total Closing.slots shared.inner.closing) =
    shared.slots.opened + (effect.actor.slots + total Actor.slots effect.spawned +
      total Closing.slots effect.shared.inner.closing)
  underflowed : effect.shared.slots.underflowed = shared.slots.underflowed
  cap : shared.slots.opened ≤ maxSockets → effect.shared.slots.opened ≤ maxSockets
  dns : effect.shared.inner.dns = shared.inner.dns
  stopped : effect.shared.stopped = shared.stopped
  resolver : effect.actor.Resolves → actor.Resolves
  spawned : ∀ other ∈ effect.spawned, ¬ other.Resolves
  frame : ∀ handle, shared.inner.kindAt handle ≠ none →
    (∀ kind, (handle, kind) ∉ shared.inner.reserved ++ actor.holds) →
    effect.shared.inner.sockets.get handle = shared.inner.sockets.get handle

variable {shared next : Shared smoltcp} {actor new : Actor smoltcp}

theorem Inner.Changes.reserved {inner after : Inner smoltcp} {touched : List Handle} {gained lost : List Token}
    (changes : inner.Changes after touched gained lost) : after.reserved = inner.reserved := by
  unfold Inner.reserved
  rw [changes.dns, changes.closing]

theorem owned_singleton {tokens : List Token} {handle : Handle} {kind : Kind} (held : (handle, kind) ∈ tokens) :
    ∀ other ∈ [handle], ∃ kind, (other, kind) ∈ tokens := by
  intro other member
  rw [List.mem_singleton] at member
  subst member
  exact ⟨kind, held⟩

/-- A step that neither closes nor reclaims a socket and leaves the counter alone. -/
theorem Conserves.of_changes {touched : List Handle} {gained lost : List Token}
    (changes : shared.inner.Changes next.inner touched gained lost) (slots : next.slots = shared.slots)
    (stopped : next.stopped = shared.stopped) (weight : new.slots = actor.slots)
    (tokens : ∀ token, total (owns token) new.holds + total (owns token) lost =
      total (owns token) actor.holds + total (owns token) gained)
    (own : ∀ handle ∈ touched, ∃ kind, (handle, kind) ∈ shared.inner.reserved ++ actor.holds)
    (resolver : new.Resolves → actor.Resolves) :
    Conserves shared actor ⟨next, new, []⟩ where
  tokens token := by
    have ledger := changes.ledger token
    have balance := tokens token
    simp only [changes.reserved, total_append, total_nil]
    omega
  slots := by
    simp only [slots, changes.closing, total_nil, weight]
    omega
  underflowed := by rw [slots]
  cap := by
    rw [slots]
    exact id
  dns := changes.dns
  stopped := stopped
  resolver := resolver
  spawned := by simp
  frame handle taken foreign := by
    refine changes.frame handle ?_ taken
    intro member
    obtain ⟨kind, held⟩ := own handle member
    exact foreign kind held

theorem Conserves.become (weight : new.slots = actor.slots) (same : new.holds = actor.holds)
    (resolver : new.Resolves → actor.Resolves) :
    Conserves shared actor ⟨shared, new, []⟩ :=
  Conserves.of_changes (Inner.Changes.refl _) rfl rfl weight (by simp [same]) (by simp) resolver

theorem Conserves.put (secured : Secured shared actor) {handle : Handle} {socket : Socket smoltcp}
    (held : (handle, socket.kind) ∈ shared.inner.reserved ++ actor.holds) (weight : new.slots = actor.slots)
    (same : new.holds = actor.holds) (resolver : new.Resolves → actor.Resolves) :
    Conserves shared actor ⟨shared.setInner (shared.inner.put handle socket), new, []⟩ := by
  exact Conserves.of_changes (Inner.changes_put (secured.kindAt held)) rfl rfl weight (by simp [same])
    (owned_singleton held) resolver

theorem Conserves.update (secured : Secured shared actor) {handle : Handle} {inner : Inner smoltcp}
    {change : smoltcp.Tcp → smoltcp.Tcp} (held : (handle, Kind.tcp) ∈ actor.holds)
    (updated : shared.inner.updateTcp handle change = .next inner) (weight : new.slots = actor.slots)
    (same : new.holds = actor.holds) (resolver : new.Resolves → actor.Resolves) :
    Conserves shared actor ⟨shared.setInner inner, new, []⟩ := by
  have changes := (Inner.updateTcp_changes (secured.kindAt_held held)).of_next updated
  exact Conserves.of_changes changes rfl rfl weight (by simp [same])
    (owned_singleton (List.mem_append_right _ held)) resolver

theorem Claims.conserves {claimed : Claimed} {spawned : List (Actor smoltcp)}
    (claims : Claims shared (next, claimed))
    (weight : new.slots + total Actor.slots spawned = actor.slots + claimed.slots)
    (tokens : ∀ token, total (owns token) new.holds +
      total (fun spawned => total (owns token) spawned.holds) spawned = total (owns token) actor.holds)
    (resolver : new.Resolves → actor.Resolves) (quiet : ∀ other ∈ spawned, ¬ other.Resolves) :
    Conserves shared actor ⟨next, new, spawned⟩ where
  tokens token := by
    have ledger := claims.tokens token
    have balance := tokens token
    simp only [total_append]
    dsimp only at ledger
    omega
  slots := by
    have slots := claims.slots
    dsimp only at slots ⊢
    omega
  underflowed := claims.underflowed
  cap := claims.cap
  dns := claims.dns
  stopped := claims.stopped
  resolver := resolver
  spawned := quiet
  frame handle taken foreign :=
    claims.frame handle taken fun member => foreign .tcp (List.mem_append_left _ member)

theorem Conserves.release (secured : Secured shared actor) (one : actor.slots = 1) (nothing : actor.holds = [])
    (weight : new.slots = 0) (empty : new.holds = []) (resolver : new.Resolves → actor.Resolves) :
    Conserves shared actor ⟨shared.releaseSocket, new, []⟩ := by
  have bound := secured.slots
  have positive : shared.slots.opened ≠ 0 := by omega
  have released : shared.slots.release = { shared.slots with opened := shared.slots.opened - 1 } :=
    if_neg positive
  refine ⟨?_, ?_, ?_, ?_, rfl, rfl, resolver, by simp, fun _ _ _ => rfl⟩
  · intro token
    simp [nothing, empty, Shared.releaseSocket]
  · simp only [Shared.releaseSocket, released, weight, one, total_nil]
    omega
  · simp only [Shared.releaseSocket, released]
  · intro cap
    simp only [Shared.releaseSocket, released]
    omega

theorem Conserves.retire {inner : Inner smoltcp} {handle : Handle} {counted : Bool} {touched : List Handle}
    (changes : shared.inner.Changes inner touched [] [])
    (own : ∀ handle ∈ touched, ∃ kind, (handle, kind) ∈ shared.inner.reserved ++ actor.holds)
    (weight : actor.slots = new.slots + if counted then 1 else 0)
    (tokens : ∀ token, total (owns token) actor.holds = total (owns token) new.holds + owns token (handle, .tcp))
    (resolver : new.Resolves → actor.Resolves) :
    Conserves shared actor ⟨shared.setInner (inner.retire handle counted), new, []⟩ := by
  refine ⟨?_, ?_, rfl, id, changes.dns, rfl, resolver, by simp, ?_⟩
  · intro token
    have ledger := changes.ledger token
    have balance := tokens token
    have present : (inner.retire handle counted).present token = inner.present token := rfl
    have reserved : (inner.retire handle counted).reserved = shared.inner.reserved ++ [(handle, .tcp)] := by
      simp [Inner.reserved, Inner.retire, changes.dns, changes.closing]
    simp only [Shared.setInner, present, reserved, total_append, total_cons, total_nil] at ledger ⊢
    omega
  · simp only [Shared.setInner, Inner.retire, changes.closing, total_append, total_cons, total_nil,
      Closing.slots]
    omega
  · intro other taken foreign
    refine changes.frame other ?_ taken
    intro member
    obtain ⟨kind, held⟩ := own other member
    exact foreign kind held

theorem Conserves.discard {inner : Inner smoltcp} {handle : Handle} {kind : Kind}
    (removed : shared.inner.Changes inner [handle] [] [(handle, kind)]) (weight : new.slots = actor.slots)
    (tokens : ∀ token, total (owns token) actor.holds = total (owns token) new.holds + owns token (handle, kind))
    (held : (handle, kind) ∈ actor.holds) (resolver : new.Resolves → actor.Resolves) :
    Conserves shared actor ⟨shared.setInner inner, new, []⟩ := by
  refine Conserves.of_changes removed rfl rfl weight ?_ (owned_singleton (List.mem_append_right _ held)) resolver
  intro token
  rw [tokens token]
  rfl

theorem Conserves.open {inner : Inner smoltcp} {fresh : Handle} {socket : Socket smoltcp}
    (vacant : shared.inner.sockets.Vacant fresh) (added : shared.inner.Changes inner [] [(fresh, socket.kind)] [])
    (found : inner.kindAt fresh = some socket.kind) (weight : new.slots = actor.slots)
    (tokens : ∀ token, total (owns token) new.holds = total (owns token) actor.holds + owns token (fresh, socket.kind))
    (resolver : new.Resolves → actor.Resolves) :
    Conserves shared actor ⟨shared.setInner (inner.put fresh socket), new, []⟩ := by
  have opened := (added.trans (Inner.changes_put found)).untouch (Inner.kindAt_vacant vacant)
  refine Conserves.of_changes opened rfl rfl weight (fun token => ?_) (by simp) resolver
  rw [tokens token]
  rfl

theorem Conserves.dropPool {pool : List Handle} {error : Option TunnelError} {inner : Inner smoltcp}
    (secured : Secured shared actor) (dropped : shared.inner.abortDiscardAll pool = .next inner)
    (weight : actor.slots = 0) (holds : actor.holds = poolTokens pool) :
    Conserves shared actor ⟨shared.setInner inner, .ended error, []⟩ := by
  have tokens := secured.tokens_held
  rw [holds] at tokens
  have removed := (Inner.abortDiscardAll_changes tokens).of_next dropped
  refine Conserves.of_changes removed rfl rfl weight.symm ?_ ?_ False.elim
  · intro token
    rw [holds]
    exact Nat.zero_add _
  · intro other member
    rw [holds]
    exact ⟨.tcp, List.mem_append_right _ (mem_poolTokens member)⟩

theorem Conserves.listen {port : UInt16} {fresh : Handle} {inner : Inner smoltcp} {failure : Option String}
    (vacant : shared.inner.sockets.Vacant fresh) (listened : shared.inner.listenOne port fresh = .next (inner, failure))
    (weight : new.slots = actor.slots)
    (gains : ∀ token, total (owns token) new.holds =
      total (owns token) actor.holds + total (owns token) (if failure.isNone then [(fresh, .tcp)] else []))
    (quiet : ¬ new.Resolves) : Conserves shared actor ⟨shared.setInner inner, new, []⟩ := by
  have changes := (Inner.listenOne_changes vacant).of_next listened
  refine Conserves.of_changes changes rfl rfl weight ?_ (by simp) quiet.elim
  intro token
  have balance := gains token
  rw [total_nil]
  exact balance

section Resolver
variable {host : String} {lastError : Option TunnelError} {point : Resolving smoltcp}

theorem Conserves.putDns (secured : Secured shared (.resolving host lastError point)) {handle : Handle}
    (configured : shared.inner.dns = some handle)
    (socket : smoltcp.Dns) (permits : Nat) {new : Actor smoltcp} (weight : new.slots = 0)
    (empty : new.holds = []) :
    Conserves shared (.resolving host lastError point)
      ⟨{ shared with inner := shared.inner.put handle (.dns socket), dnsPermits := permits }, new, []⟩ := by
  have held : (handle, Kind.dns) ∈ shared.inner.reserved ++
      Actor.holds (.resolving host lastError point : Actor smoltcp) := by
    simp [Inner.reserved, configured]
  exact Conserves.of_changes (Inner.changes_put (secured.kindAt held)) rfl rfl weight
    (fun _ => by rw [empty]; rfl) (owned_singleton held) fun _ => trivial

theorem Conserves.permits (permits : Nat) {new : Actor smoltcp} (weight : new.slots = 0)
    (empty : new.holds = []) :
    Conserves shared (.resolving host lastError point) ⟨{ shared with dnsPermits := permits }, new, []⟩ :=
  Conserves.of_changes (Inner.Changes.refl _) rfl rfl weight (fun _ => by rw [empty]; rfl) (by simp)
    fun _ => trivial

end Resolver

theorem Rests.holdings {input : Input} (rests : Rests shared actor input new) :
    new.slots = actor.slots ∧ new.holds = actor.holds ∧ (new.Resolves → actor.Resolves) := by
  cases rests with
  | listenRefused empty => exact ⟨rfl, congrArg poolTokens empty.symm, id⟩
  | filled => exact ⟨rfl, congrArg poolTokens (List.append_nil _), id⟩
  | unresolved | unacquired => exact ⟨rfl, rfl, False.elim⟩
  | _ => exact ⟨rfl, rfl, id⟩

theorem listener_owns_pool {port : UInt16} {pool : List Handle} {point : Accepting} :
    ∀ handle ∈ pool, ∃ kind, (handle, kind) ∈ shared.inner.reserved ++
      Actor.holds (.listener port pool point : Actor smoltcp) := fun _ member =>
  ⟨.tcp, List.mem_append_right _ (listener_holds_pool member)⟩

end Rules

section ActorSteps
variable {smoltcp : Smoltcp} {shared : Shared smoltcp} {actor : Actor smoltcp}

theorem Turns.conserves {input : Input} {effect : Effect smoltcp} (turns : Turns shared actor input effect)
    (secured : Secured shared actor) : Conserves shared actor effect := by
  cases turns with
  | rests rests =>
    obtain ⟨weight, same, resolver⟩ := rests.holdings
    exact Conserves.become weight same resolver
  | @dialClaims remote point fresh next claimed claiming =>
    have claims := (claimSocket_claims secured point).of_next claiming
    cases claimed <;> exact claims.conserves rfl (fun _ => rfl) id (by simp)
  | opens vacant drawn opened =>
    obtain ⟨added, found⟩ := Inner.drawTcp_changes vacant drawn
    exact Conserves.open vacant added found rfl (by simp [Actor.holds, Socket.kind]) id
  | unopened vacant drawn =>
    obtain ⟨added, -⟩ := Inner.drawTcp_changes vacant drawn
    exact Conserves.of_changes added rfl rfl rfl (by simp [Actor.holds]) (by simp) id
  | discards removed =>
    have held := secured.kindAt_held List.mem_cons_self
    exact Conserves.discard ((Inner.changes_discard held).of_next removed) rfl (by simp [Actor.holds])
      List.mem_cons_self id
  | aborts removed =>
    have held := secured.kindAt_held List.mem_cons_self
    exact Conserves.discard ((Inner.abortDiscard_changes held).of_next removed) rfl (by simp [Actor.holds])
      List.mem_cons_self id
  | dialReleases => exact Conserves.release secured rfl rfl rfl rfl id
  | reads place => exact Conserves.put secured (List.mem_append_right _ List.mem_cons_self) rfl rfl id
  | writes place => exact Conserves.put secured (List.mem_append_right _ List.mem_cons_self) rfl rfl id
  | shutsDown closed => exact Conserves.update secured List.mem_cons_self closed rfl rfl id
  | closes closed => exact Conserves.update secured List.mem_cons_self closed rfl rfl id
  | retires => exact Conserves.retire (Inner.Changes.refl _) (by simp) rfl (by simp [Actor.holds]) id
  | @bindClaims port packets bytes point fresh next claimed claiming =>
    have claims := (claimSocket_claims secured point).of_next claiming
    cases claimed <;> exact claims.conserves rfl (fun _ => rfl) id (by simp)
  | bound vacant drawn =>
    obtain ⟨added, found⟩ := Inner.drawUdp_changes vacant drawn
    exact Conserves.open vacant added found rfl (by simp [Actor.holds, Socket.kind]) id
  | unbound vacant drawn =>
    obtain ⟨added, -⟩ := Inner.drawUdp_changes vacant drawn
    exact Conserves.of_changes added rfl rfl rfl (by simp [Actor.holds]) (by simp) id
  | unbinds removed =>
    have held := secured.kindAt_held List.mem_cons_self
    exact Conserves.discard ((Inner.changes_discard held).of_next removed) rfl (by simp [Actor.holds])
      List.mem_cons_self id
  | bindReleases => exact Conserves.release secured rfl rfl rfl rfl id
  | sends place => exact Conserves.put secured (List.mem_append_right _ List.mem_cons_self) rfl rfl id
  | receives place => exact Conserves.put secured (List.mem_append_right _ List.mem_cons_self) rfl rfl id
  | @udpDrops handle port sending receiving socket inner removed =>
    have found := secured.kindAt_held (List.mem_cons_self (a := (handle, Kind.udp)))
    have closed : shared.inner.Changes (shared.inner.put handle (.udp (smoltcp.udpClose socket))) [handle] [] [] :=
      Inner.changes_put found
    have gone := closed.trans ((Inner.changes_discard (closed.kindAt found rfl)).of_next removed)
    exact Conserves.discard (gone.weaken (by simp)) rfl (by simp [Actor.holds]) List.mem_cons_self id
  | udpReleases => exact Conserves.release secured rfl rfl rfl rfl id
  | stocks vacant listened =>
    refine Conserves.listen vacant listened rfl (fun token => ?_) id
    simp [Actor.holds, Listening.pool, poolTokens]
  | unstocks vacant listened => exact Conserves.listen vacant listened rfl (fun _ => rfl) id
  | emptiesPool dropped => exact Conserves.dropPool secured dropped rfl rfl
  | listenerDrops dropped =>
    exact Conserves.dropPool secured dropped rfl (congrArg poolTokens (List.append_nil _))
  | @scans port pool asleep inner running scanned =>
    have changes := ((scanPool_changes secured.pool_kindAt 0).of_next scanned).1
    exact Conserves.of_changes changes rfl rfl rfl (fun _ => rfl) listener_owns_pool id
  | @takes port pool asleep inner index peer handle running scanned place =>
    have changes := ((scanPool_changes secured.pool_kindAt 0).of_next scanned).1
    refine Conserves.of_changes changes rfl rfl rfl (fun token => ?_) listener_owns_pool id
    -- The pool without the connection, and the connection in hand, are the pool.
    have shuffled := (swapRemove_perm place).map fun handle => (handle, Kind.tcp)
    have tokens := total_perm (owns token) shuffled
    simp only [Actor.holds, Accepting.inHand, total_poolTokens_append, total_nil]
    simp only [List.map_cons, total_cons] at tokens
    simp only [poolTokens, List.map_cons, List.map_nil, total_cons, total_nil]
    omega
  | restocks vacant listened =>
    refine Conserves.listen vacant listened rfl (fun token => ?_) id
    simp only [Actor.holds, Accepting.inHand, total_poolTokens_append]
    simp only [poolTokens, List.map_cons, List.map_nil, total_cons, total_nil, Option.isNone_none, if_true]
    omega
  | restocksNot vacant listened => exact Conserves.listen vacant listened rfl (fun _ => rfl) id
  | @acceptClaims port pool handle fresh peer point next claimed claiming =>
    have claims := (claimSocket_claims secured point).of_next claiming
    cases claimed with
    | goOn point => exact claims.conserves rfl (fun _ => rfl) id (by simp [Claimed.accepted])
    | got =>
      refine claims.conserves rfl (fun token => ?_) id (by simp [Claimed.accepted, Actor.Resolves])
      simp [Actor.holds, Claimed.accept, Claimed.accepted, Accepting.inHand, poolTokens]
    | refused => exact claims.conserves rfl (fun _ => rfl) id (by simp [Claimed.accepted])
  | @resets port pool handle fresh inner aborted =>
    have held : (handle, Kind.tcp) ∈ (Actor.listener port pool (.full handle) : Actor smoltcp).holds :=
      listener_holds_inHand List.mem_cons_self
    have changes := (Inner.updateTcp_changes (secured.kindAt_held held)).of_next aborted
    refine Conserves.retire changes (owned_singleton (List.mem_append_right _ held)) rfl (fun token => ?_) id
    simp [Actor.holds, Accepting.inHand, poolTokens]
  | @givesUp port pool handle fresh error inner removed =>
    have held : (handle, Kind.tcp) ∈ (Actor.listener port pool (.failed handle error) : Actor smoltcp).holds :=
      listener_holds_inHand List.mem_cons_self
    have gone := (Inner.abortDiscard_changes (secured.kindAt_held held)).of_next removed
    refine Conserves.discard gone rfl (fun token => ?_) held id
    simp [Actor.holds, Accepting.inHand, poolTokens]
  | acquires available => exact Conserves.permits _ rfl rfl
  | starts configured place started => exact Conserves.putDns secured configured _ _ rfl rfl
  | startsNot => exact Conserves.permits _ rfl rfl
  | awaits configured place waits => exact Conserves.putDns secured configured _ _ rfl rfl
  | asksOn configured place ended => exact Conserves.putDns secured configured _ _ rfl rfl
  | resolves configured place answered => exact Conserves.putDns secured configured _ _ rfl rfl
  | cancels configured place => exact Conserves.putDns secured configured _ _ rfl rfl
  | cancelsNothing absent => exact Conserves.permits _ rfl rfl

/-- No step of an actor whose holdings are in order panics, and each conserves them. -/
theorem stepActor_conserves (actor : Actor smoltcp) (input : Input) (secured : Secured shared actor) :
    (shared.stepActor actor input).Satisfies (Conserves shared actor) :=
  ((stepActor_turns actor input).satisfies secured).mono fun _ turns => turns.conserves secured

end ActorSteps

end ProxyTunnels.Wireguard
