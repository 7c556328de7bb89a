import ProxyTunnels.Wireguard.Custody
import ProxyTunnels.Wireguard.Lifecycle

/-! Who holds a port to listen on.

`listen` refuses a port some socket of the set listens on, and then binds it in locked sections
of their own. What the check reads is the state of sockets that peers change by connecting, so
whether it sees a listener depends on the listener's backlog; what it misses is shared silently.
-/

set_option autoImplicit false

namespace ProxyTunnels.Wireguard
open Machine

structure ListenLaws (smoltcp : Smoltcp) : Prop where
  listens : ∀ socket port next, smoltcp.listen socket port = .ok next →
    smoltcp.state next = .listen ∧ smoltcp.listenPort next = port
  /-- A listening socket has no connection to send or receive on. -/
  idle : ∀ socket, smoltcp.state socket = .listen → smoltcp.maySend socket = false ∧ smoltcp.mayRecv socket = false

section Sockets
variable {smoltcp : Smoltcp} {inner next : Inner smoltcp} {handle : Handle} {port : UInt16}

/-- Whether the TCP socket a handle refers to listens on `port`. -/
def Inner.listensAt (inner : Inner smoltcp) (port : UInt16) (handle : Handle) : Bool :=
  (inner.getTcp handle).any fun socket => smoltcp.state socket = .listen && smoltcp.listenPort socket = port

theorem Inner.listensAt_iff : inner.listensAt port handle = true ↔ ∃ socket, inner.getTcp handle = some socket ∧
    smoltcp.state socket = .listen ∧ smoltcp.listenPort socket = port := by
  unfold Inner.listensAt
  cases inner.getTcp handle with
  | none => simp
  | some socket => simp

theorem Inner.listensAt_frame (same : next.sockets.get handle = inner.sockets.get handle) :
    next.listensAt port handle = inner.listensAt port handle := by
  unfold Inner.listensAt Inner.getTcp
  rw [same]

theorem Inner.kindAt_of_listensAt (listens : inner.listensAt port handle = true) :
    inner.kindAt handle = some .tcp := by
  obtain ⟨socket, found, -⟩ := Inner.listensAt_iff.mp listens
  exact Inner.kindAt_of_getTcp found

theorem Inner.listeningOn_of_listensAt (listens : inner.listensAt port handle = true) :
    inner.listeningOn port = true := by
  obtain ⟨socket, found, listening, here⟩ := Inner.listensAt_iff.mp listens
  have place := Slab.get_eq_some.mp (Inner.get_of_getTcp found)
  have member : Socket.tcp socket ∈ inner.sockets.values :=
    List.mem_filterMap.mpr ⟨_, List.mem_of_getElem? place, rfl⟩
  refine List.any_eq_true.mpr ⟨_, member, ?_⟩
  simp [listening, here]

theorem Inner.Changes.listensAt {touched : List Handle} {gained lost : List Token}
    (changes : inner.Changes next touched gained lost) (listens : inner.listensAt port handle = true)
    (untouched : handle ∉ touched) : next.listensAt port handle = true := by
  rw [Inner.listensAt_frame (changes.frame handle untouched ?_)]
  · exact listens
  · rw [Inner.kindAt_of_listensAt listens]
    exact Option.some_ne_none _

variable (laws : ListenLaws smoltcp)
include laws

theorem Inner.listensAt_put (found : inner.kindAt handle = some .tcp) {socket opened : smoltcp.Tcp}
    (listened : smoltcp.listen socket port = .ok opened) :
    (inner.put handle (.tcp opened)).listensAt port handle = true := by
  obtain ⟨listening, here⟩ := laws.listens _ _ _ listened
  exact Inner.listensAt_iff.mpr ⟨opened, Inner.getTcp_put found opened, listening, here⟩

theorem Inner.listenOne_listens (vacant : inner.sockets.Vacant handle) :
    (inner.listenOne port handle).Ensures fun result =>
      result.2 = none → result.1.listensAt port handle = true := by
  have found : (inner.addTcpSocket handle).kindAt handle = some .tcp := Inner.kindAt_add vacant
  unfold Inner.listenOne
  dsimp only
  split
  · exact trivial
  · split
    · next listened => exact fun _ => Inner.listensAt_put laws found listened
    · exact Outcome.ensures_bind fun _ _ => nofun

theorem scanPool_listens {pool : List Handle} {index : Nat} :
    (scanPool port pool index inner).Ensures fun result =>
      (∀ handle, inner.listensAt port handle = true → result.2.listensAt port handle = true) ∧
        ∀ found peer, result.1 = some (found, peer) → index ≤ found ∧
          ∀ handle, pool[found - index]? = some handle → result.2.listensAt port handle = false := by
  induction pool generalizing inner index with
  | nil => exact ⟨fun _ listens => listens, nofun⟩
  | cons chosen rest ih =>
    -- What holds of the rest of the pool holds of the pool.
    have onward : ∀ middle : Inner smoltcp,
        (∀ handle, inner.listensAt port handle = true → middle.listensAt port handle = true) →
        (scanPool port rest (index + 1) middle).Ensures fun result =>
          (∀ handle, inner.listensAt port handle = true → result.2.listensAt port handle = true) ∧
            ∀ found peer, result.1 = some (found, peer) → index ≤ found ∧
              ∀ handle, (chosen :: rest)[found - index]? = some handle → result.2.listensAt port handle = false := by
      intro middle keeps
      refine ih.mono ?_
      rintro ⟨result, final⟩ ⟨listens, taken⟩
      refine ⟨fun handle before => listens handle (keeps handle before), ?_⟩
      intro found peer same
      obtain ⟨beyond, silent⟩ := taken found peer same
      refine ⟨by omega, fun handle there => silent handle ?_⟩
      have shifted : found - index = (found - (index + 1)) + 1 := by omega
      rw [shifted, List.getElem?_cons_succ] at there
      exact there
    unfold scanPool
    split
    · exact trivial
    · next socket place =>
      split
      · next ready =>
        refine ⟨fun _ listens => listens, ?_⟩
        intro found peer same
        cases same
        refine ⟨Nat.le_refl _, fun handle there => ?_⟩
        rw [Nat.sub_self, List.getElem?_cons_zero] at there
        cases there
        -- A socket that can send or receive does not listen.
        refine Bool.eq_false_iff.mpr fun listens => ?_
        obtain ⟨same, found, listening, -⟩ := Inner.listensAt_iff.mp listens
        cases place.symm.trans found
        obtain ⟨silent, deaf⟩ := laws.idle socket listening
        rw [silent, deaf] at ready
        cases ready
      · split
        · next closed =>
          split
          · next again _ =>
            refine onward _ fun handle listens => ?_
            refine (Inner.changes_put (Inner.kindAt_of_getTcp place)).listensAt listens ?_
            intro member
            cases List.mem_singleton.mp member
            obtain ⟨same, found, listening, -⟩ := Inner.listensAt_iff.mp listens
            cases place.symm.trans found
            cases closed.symm.trans listening
          · exact onward _ fun _ listens => listens
        · exact onward _ fun _ listens => listens

end Sockets

section Actors
variable {smoltcp : Smoltcp} {inner next : Inner smoltcp} {actor : Actor smoltcp} {shared : Shared smoltcp}

def Actor.heldPort : Actor smoltcp → Option UInt16
  | .listening _ (.bind port) | .listening _ (.fill port _ _) | .listener port _ _ => some port
  | _ => none

def Actor.checks : Actor smoltcp → Option UInt16
  | .listening _ (.explicit port) => some port
  | .listening _ (.search first step) => some (searchedPort first step)
  | _ => none

/-- A call that has passed its check of `port` and has no socket there yet. -/
def Actor.unstocked (port : UInt16) : Actor smoltcp → Bool
  | .listening _ (.bind other) => other = port
  | .listening _ (.fill other _ pool) => other = port && pool.isEmpty
  | _ => false

def Actor.listens (inner : Inner smoltcp) : Actor smoltcp → Bool
  | .listening _ (.fill port left pool) => (left ≠ 0 && pool.isEmpty) || pool.any (inner.listensAt port)
  | .listener port pool _ => pool.any (inner.listensAt port)
  | _ => true

theorem Actor.listens_frame (same : ∀ token ∈ actor.holds, next.sockets.get token.1 = inner.sockets.get token.1) :
    actor.listens next = actor.listens inner := by
  have pools : ∀ (port : UInt16) (pool : List Handle), (∀ handle ∈ pool, (handle, Kind.tcp) ∈ actor.holds) →
      pool.any (next.listensAt port) = pool.any (inner.listensAt port) := by
    intro port pool held
    rw [Bool.eq_iff_iff, List.any_eq_true, List.any_eq_true]
    refine exists_congr fun handle => and_congr_right fun member => ?_
    rw [Inner.listensAt_frame (same (handle, .tcp) (held handle member))]
  cases actor with
  | listening backlog point =>
    cases point with
    | fill port left pool =>
      have unchanged := pools port pool fun handle member => mem_poolTokens member
      exact congrArg (fun listening => (left ≠ 0 && pool.isEmpty) || listening) unchanged
    | _ => rfl
  | listener port pool point =>
    exact pools port pool fun handle member => mem_poolTokens (List.mem_append_left _ member)
  | _ => rfl

theorem Actor.listeningOn_of_heldPort {port : UInt16} (held : actor.heldPort = some port)
    (listens : actor.listens inner = true) (stocked : actor.unstocked port = false) :
    inner.listeningOn port = true := by
  have found : ∀ pool : List Handle, pool.any (inner.listensAt port) = true → inner.listeningOn port = true := by
    intro pool listens
    obtain ⟨handle, -, listening⟩ := List.any_eq_true.mp listens
    exact Inner.listeningOn_of_listensAt listening
  cases actor with
  | listening backlog point =>
    cases point with
    | bind other =>
      cases held
      simp [Actor.unstocked] at stocked
    | fill other left pool =>
      cases held
      have filled : pool.isEmpty = false := by simpa [Actor.unstocked] using stocked
      change ((left ≠ 0 && pool.isEmpty) || pool.any (inner.listensAt port)) = true at listens
      rw [filled, Bool.and_false, Bool.false_or] at listens
      exact found pool listens
    | _ => cases held
  | listener other pool point =>
    cases held
    exact found pool listens
  | _ => cases held

theorem Actor.Stirs.port {other : Actor smoltcp} (stirs : actor.Stirs other) :
    other.heldPort = actor.heldPort ∧ other.listens inner = actor.listens inner := by
  cases stirs <;> exact ⟨rfl, rfl⟩

theorem StackCall.actor_port (shared : Shared smoltcp) (call : StackCall) :
    (call.actor shared).heldPort = none ∧ (call.actor shared).listens inner = true := by
  cases call with
  | listen port backlog first =>
    unfold StackCall.actor
    dsimp only
    split
    · exact ⟨rfl, rfl⟩
    · exact ⟨rfl, rfl⟩
  | resolve host =>
    unfold StackCall.actor
    dsimp only
    split
    · exact ⟨rfl, rfl⟩
    · exact ⟨rfl, rfl⟩
  | _ => exact ⟨rfl, rfl⟩

/-- A port is taken only by a check that found nobody listening on it. -/
theorem stepActor_heldPort {input : Input} {effect : Effect smoltcp}
    (taken : shared.stepActor actor input = .next effect) {port : UInt16} (held : effect.actor.heldPort = some port) :
    actor.heldPort = some port ∨ actor.checks = some port ∧ shared.inner.listeningOn port = false := by
  cases turns_of_step taken with
  | rests rests =>
    cases rests with
    | portFree free =>
      cases held
      exact Or.inr ⟨rfl, free⟩
    | portFound free =>
      cases held
      exact Or.inr ⟨rfl, free⟩
    | binds | filled | accepts | acceptStopped | acceptDropped => exact Or.inl held
    | _ => cases held
  | stocks | scans | takes | restocks | restocksNot | resets | givesUp => exact Or.inl held
  | @acceptClaims port pool handle fresh peer point next claimed claiming => cases claimed <;> exact Or.inl held
  | @dialClaims remote point fresh next claimed claiming => cases claimed <;> cases held
  | @bindClaims port packets bytes point fresh next claimed claiming => cases claimed <;> cases held
  | _ => cases held

theorem Secured.pool_ne_inHand {port : UInt16} {pool : List Handle} {point : Accepting}
    (secured : Secured shared (.listener port pool point)) {handle chosen : Handle} (member : handle ∈ pool)
    (inHand : chosen ∈ point.inHand) : handle ≠ chosen := by
  intro same
  subst same
  have bound := secured.tokens (handle, .tcp)
  have found := secured.kindAt_held (mem_poolTokens (List.mem_append_left point.inHand member))
  have most : shared.inner.present (handle, .tcp) = 1 := Inner.present_of_kindAt found
  have one := mem_of_total_owns (mem_poolTokens member)
  have two := mem_of_total_owns (mem_poolTokens inHand)
  simp only [total_append, Actor.holds, total_poolTokens_append] at bound
  omega

theorem Rests.listens {new : Actor smoltcp} {input : Input} (rests : Rests shared actor input new)
    (listens : actor.listens shared.inner = true) : new.listens shared.inner = true := by
  cases rests with
  | @binds backlog port fresh running =>
    have some : max backlog 1 ≠ 0 := by omega
    change ((max backlog 1 ≠ 0 && _) || _) = true
    simp [some]
  | filled =>
    -- Nothing is left to add: the pool is not empty, so it listens already.
    simpa [Actor.listens] using listens
  | accepts | acceptStopped | acceptDropped => exact listens
  | _ => rfl

theorem listens_onward {port : UInt16} {pool later : List Handle}
    (listens : pool.any (inner.listensAt port) = true) (wider : pool ⊆ later)
    (stays : ∀ handle ∈ pool, inner.listensAt port handle = true → next.listensAt port handle = true) :
    later.any (next.listensAt port) = true := by
  obtain ⟨handle, member, listening⟩ := List.any_eq_true.mp listens
  exact List.any_eq_true.mpr ⟨handle, wider member, stays handle member listening⟩

theorem Inner.Changes.listens_onward {port : UInt16} {pool later touched : List Handle} {gained lost : List Token}
    (changes : inner.Changes next touched gained lost) (listens : pool.any (inner.listensAt port) = true)
    (wider : pool ⊆ later) (apart : ∀ handle ∈ pool, handle ∉ touched) :
    later.any (next.listensAt port) = true :=
  Wireguard.listens_onward listens wider fun handle member listening =>
    changes.listensAt listening (apart handle member)

variable (laws : ListenLaws smoltcp)
include laws

theorem stepActor_listens {input : Input} {effect : Effect smoltcp} (secured : Secured shared actor)
    (listens : actor.listens shared.inner = true) (taken : shared.stepActor actor input = .next effect) :
    effect.actor.listens effect.shared.inner = true := by
  cases turns_of_step taken with
  | rests rests => exact rests.listens listens
  | @dialClaims remote point fresh next claimed claiming => cases claimed <;> rfl
  | @bindClaims port packets bytes point fresh next claimed claiming => cases claimed <;> rfl
  | @stocks backlog left port pool fresh inner vacant listened =>
    have new := (Inner.listenOne_listens laws vacant).of_next listened rfl
    change (_ || (pool ++ [fresh]).any (inner.listensAt port)) = true
    simp [new]
  | scans running scanned =>
    obtain ⟨keeps, -⟩ := (scanPool_listens laws).of_next scanned
    exact listens_onward listens (List.Subset.refl _) fun handle _ => keeps handle
  | @takes port pool asleep inner index peer chosen running scanned place =>
    obtain ⟨keeps, silent⟩ := (scanPool_listens laws).of_next scanned
    have deaf := (silent index peer rfl).2 chosen place
    obtain ⟨handle, member, listening⟩ := List.any_eq_true.mp listens
    have still := keeps handle listening
    -- What was taken does not listen, so the socket that does is still in the pool.
    rcases List.mem_cons.mp ((swapRemove_perm place).mem_iff.mpr member) with same | rest
    · rw [same, deaf] at still
      cases still
    · exact List.any_eq_true.mpr ⟨handle, rest, still⟩
  | restocks vacant listened =>
    have changes := (Inner.listenOne_changes vacant).of_next listened
    exact changes.listens_onward listens (List.subset_append_left _ _) (by simp)
  | restocksNot vacant listened =>
    have changes := (Inner.listenOne_changes vacant).of_next listened
    exact changes.listens_onward listens (List.Subset.refl _) (by simp)
  | @acceptClaims port pool chosen fresh peer point middle claimed claiming =>
    have claims := (claimSocket_claims secured point).of_next claiming
    have still : pool.any (middle.inner.listensAt port) = true := by
      refine listens_onward listens (List.Subset.refl _) fun handle member listening => ?_
      have taken : shared.inner.kindAt handle ≠ none := by
        rw [Inner.kindAt_of_listensAt listening]
        exact Option.some_ne_none _
      rw [Inner.listensAt_frame (claims.frame handle taken (secured.not_reserved (listener_holds_pool member)))]
      exact listening
    cases claimed <;> exact still
  | @resets port pool chosen fresh inner aborted =>
    have inHand : chosen ∈ (Accepting.full chosen).inHand := List.mem_singleton.mpr rfl
    have changes := (Inner.updateTcp_changes (secured.kindAt_held (listener_holds_inHand inHand))).of_next aborted
    exact changes.listens_onward listens (List.Subset.refl _) fun handle member =>
      mt List.mem_singleton.mp (secured.pool_ne_inHand member inHand)
  | @givesUp port pool chosen fresh error inner removed =>
    have inHand : chosen ∈ (Accepting.failed chosen error).inHand := List.mem_singleton.mpr rfl
    have changes := (Inner.abortDiscard_changes (secured.kindAt_held (listener_holds_inHand inHand))).of_next removed
    exact changes.listens_onward listens (List.Subset.refl _) fun handle member =>
      mt List.mem_singleton.mp (secured.pool_ne_inHand member inHand)
  | _ => rfl

end Actors

section Runs
variable {smoltcp : Smoltcp} {stack next : Stack smoltcp}

/-- No stop begins; inbound connections never take all the sockets a listener has; and no call
checks a port while another call has passed its check of it and has no socket there yet. -/
def Stack.uncontested (stack : Stack smoltcp) : Action smoltcp → Bool
  | .stop => false
  | .poll effect _ => stack.actors.all (Actor.listens (stack.shared.inner.interfacePoll effect))
  | .act index _ =>
      ((stack.actors[index]?).bind Actor.checks).all fun port => !stack.actors.any (Actor.unstocked port)
  | _ => true

structure PortsHeld (stack : Stack smoltcp) : Prop where
  listens : ∀ actor ∈ stack.actors, actor.listens stack.shared.inner = true
  apart : ∀ (first second : Nat) (left right : Actor smoltcp) (port : UInt16), stack.actors[first]? = some left →
    stack.actors[second]? = some right → left.heldPort = some port → right.heldPort = some port → first = second

theorem portsHeld_start {start : Stack smoltcp} (initial : start.Initial) : PortsHeld start := by
  obtain ⟨config, iface, resolver, seed, bytes, rfl⟩ := initial
  constructor
  · intro actor member
    cases member
  · intro first second left right port one
    cases List.getElem?_nil.symm.trans one

theorem PortsHeld.newcomer (portsHeld : PortsHeld stack) {index : Nat} {input : Input} {actor : Actor smoltcp}
    {effect : Effect smoltcp} (calm : stack.uncontested (.act index input) = true)
    (found : stack.actors[index]? = some actor) (stepped : stack.shared.stepActor actor input = .next effect)
    {port : UInt16} (held : effect.actor.heldPort = some port) {other : Nat} {bystander : Actor smoltcp}
    (there : stack.actors[other]? = some bystander) (also : bystander.heldPort = some port) : index = other := by
  rcases stepActor_heldPort stepped held with own | ⟨checks, free⟩
  · exact portsHeld.apart index other actor bystander port found there own also
  · have member := List.mem_of_getElem? there
    -- Nobody was between the check and the first socket, so the check would have seen the other.
    have stocked : bystander.unstocked port = false := by
      unfold Stack.uncontested at calm
      dsimp only at calm
      rw [found, Option.bind_some, checks, Option.all_some, Bool.not_eq_true', List.any_eq_false] at calm
      exact Bool.eq_false_iff.mpr (calm bystander member)
    have seen := Actor.listeningOn_of_heldPort also (portsHeld.listens bystander member) stocked
    rw [free] at seen
    cases seen

theorem PortsHeld.act (laws : ListenLaws smoltcp) (balanced : Balanced stack) (portsHeld : PortsHeld stack)
    {index : Nat} {input : Input} {actor : Actor smoltcp} {effect : Effect smoltcp}
    (calm : stack.uncontested (.act index input) = true) (found : stack.actors[index]? = some actor)
    (stepped : stack.shared.stepActor actor input = .next effect) :
    PortsHeld { stack with
      shared := effect.shared
      actors := stack.actors.set index effect.actor ++ effect.spawned } := by
  have secured := balanced.secured found
  have conserves := (stepActor_conserves actor input secured).of_next stepped
  have spawned : ∀ other ∈ effect.spawned, other.heldPort = none ∧ other.listens effect.shared.inner = true := by
    intro other member
    obtain ⟨-, peer, handle, rfl⟩ := ((stepActor_flows actor input).of_next stepped).spawned other member
    exact ⟨rfl, rfl⟩
  constructor
  · intro other member
    obtain ⟨place, there⟩ := List.mem_iff_getElem?.mp member
    rcases getElem?_set_append_cases there with ⟨-, same⟩ | ⟨apart, old⟩ | ⟨-, new⟩
    · rw [same]
      exact stepActor_listens laws secured (portsHeld.listens actor (List.mem_of_getElem? found)) stepped
    · rw [Actor.listens_frame fun token held => balanced.bystander found old (Ne.symm apart) conserves held]
      exact portsHeld.listens other (List.mem_of_getElem? old)
    · exact (spawned other new).2
  · intro first second left right port one two leftHeld rightHeld
    rcases getElem?_set_append_cases one with ⟨here, rfl⟩ | ⟨-, old⟩ | ⟨-, new⟩
    · subst here
      rcases getElem?_set_append_cases two with ⟨also, -⟩ | ⟨-, other⟩ | ⟨-, new⟩
      · exact also.symm
      · exact portsHeld.newcomer calm found stepped leftHeld other rightHeld
      · cases (spawned right new).1.symm.trans rightHeld
    · rcases getElem?_set_append_cases two with ⟨here, rfl⟩ | ⟨-, other⟩ | ⟨-, new⟩
      · subst here
        exact (portsHeld.newcomer calm found stepped rightHeld old leftHeld).symm
      · exact portsHeld.apart first second left right port old other leftHeld rightHeld
      · cases (spawned right new).1.symm.trans rightHeld
    · cases (spawned left new).1.symm.trans leftHeld

theorem PortsHeld.step (laws : ListenLaws smoltcp) (balanced : Balanced stack) (portsHeld : PortsHeld stack)
    {action : Action smoltcp} (calm : stack.uncontested action = true) (taken : stack.step action = .next next) :
    PortsHeld next := by
  cases Stack.moves_of_step taken with
  | call call =>
    obtain ⟨noPort, quiet⟩ := @StackCall.actor_port _ stack.shared.inner stack.shared call
    constructor
    · exact List.forall_mem_append.mpr ⟨portsHeld.listens, List.forall_mem_singleton.mpr quiet⟩
    · intro first second left right port one two leftHeld rightHeld
      rcases mem_concat_cases one with ⟨-, rfl⟩ | old
      · cases noPort.symm.trans leftHeld
      · rcases mem_concat_cases two with ⟨-, rfl⟩ | other
        · cases noPort.symm.trans rightHeld
        · exact portsHeld.apart first second left right port old other leftHeld rightHeld
  | act found stepped => exact portsHeld.act laws balanced calm found stepped
  | elapse micros =>
    constructor
    · intro actor member
      rw [← portsHeld.listens actor member]
      exact Actor.listens_frame fun _ _ => rfl
    · exact portsHeld.apart
  | @poll effect woken inner slots running reclaimed =>
    have reserved := (reclaimFinished_reclaimed false (balanced.reclaimable effect)).of_next reclaimed
    constructor
    · intro woke member
      obtain ⟨actor, inside, rfl⟩ := List.mem_map.mp member
      obtain ⟨index, found⟩ := List.mem_iff_getElem?.mp inside
      have secured := balanced.secured found
      -- The poll leaves it listening, and its sockets are not among those reclaimed.
      rw [(actor.wake_stirs woken).port.2, Actor.listens_frame ?_]
      · exact List.all_eq_true.mp calm actor inside
      · intro token held
        refine reserved.frame token.1 ?_ ?_
        · intro closing
          obtain ⟨entry, entered, same⟩ := List.mem_map.mp closing
          have closingToken : (entry.handle, Kind.tcp) ∈ stack.shared.inner.reserved :=
            List.mem_append_right _ (List.mem_map.mpr ⟨entry, entered, rfl⟩)
          have tcp := secured.kindAt (List.mem_append_left _ closingToken)
          rw [same, secured.kindAt_held held] at tcp
          have both : token = (entry.handle, Kind.tcp) := Prod.ext same.symm (Option.some.inj tcp)
          exact secured.not_reserved held (both ▸ closingToken)
        · change (stack.shared.inner.interfacePoll effect).kindAt token.1 ≠ none
          rw [Inner.kindAt_interfacePoll, secured.kindAt_held held]
          exact Option.some_ne_none _
    · intro first second left right port one two leftHeld rightHeld
      simp only [List.getElem?_map] at one two
      obtain ⟨before, old, rfl⟩ := Option.map_eq_some_iff.mp one
      obtain ⟨other, there, rfl⟩ := Option.map_eq_some_iff.mp two
      have woke := fun actor : Actor smoltcp => (@Actor.Stirs.port _ stack.shared.inner _ _ (actor.wake_stirs woken)).1
      rw [woke] at leftHeld rightHeld
      exact portsHeld.apart first second before other port old there leftHeld rightHeld
  | flag running => cases calm
  | shut flagged => cases calm
  | notify shut => cases calm

theorem portsHeld_of_run (laws : ListenLaws smoltcp) {start : Stack smoltcp} {actions : List (Action smoltcp)}
    (initial : start.Initial)
    (run : RunWhile Stack.step (fun stack action => stack.uncontested action = true) start actions stack) :
    PortsHeld stack := by
  let holds (stack : Stack smoltcp) : Prop := Balanced stack ∧ PortsHeld stack
  have both : holds stack := by
    refine @RunWhile.preserves _ _ _ _ holds ?_ _ _ _ run ⟨balanced_start initial, portsHeld_start initial⟩
    rintro stack action next ⟨balanced, portsHeld⟩ calm taken
    exact ⟨(balanced.step action).of_next taken, portsHeld.step laws balanced calm taken⟩
  exact both.2

end Runs

/-- Where inbound connections leave every listener a socket that listens, and no two calls race
for a port, no two live listeners have the same port and each one's port is listened on. -/
theorem listener_ports_exclusive {smoltcp : Smoltcp} (laws : ListenLaws smoltcp) {start stack : Stack smoltcp}
    {actions : List (Action smoltcp)} (initial : start.Initial)
    (run : RunWhile Stack.step (fun stack action => stack.uncontested action = true) start actions stack) :
    (∀ (first second : Nat) port other pool otherPool point otherPoint,
      stack.actors[first]? = some (.listener port pool point) →
      stack.actors[second]? = some (.listener other otherPool otherPoint) → first ≠ second → port ≠ other) ∧
      ∀ port pool point, .listener port pool point ∈ stack.actors → stack.shared.inner.listeningOn port = true := by
  have held := portsHeld_of_run laws initial run
  constructor
  · intro first second port other pool otherPool point otherPoint one two apart same
    subst same
    exact apart (held.apart first second _ _ port one two rfl rfl)
  · intro port pool point member
    exact Actor.listeningOn_of_heldPort rfl (held.listens _ member) rfl

def Smoltcp.accepting : Smoltcp :=
  { Smoltcp.reference with
    mayRecv := fun (socket : ReferenceTcp) => socket.state ≠ .listen && socket.mayRecv }

theorem reference_listens {socket next : ReferenceTcp} {port : UInt16}
    (listened : Smoltcp.reference.listen socket port = .ok next) : next.state = .listen ∧ next.port = port := by
  simp only [Smoltcp.reference] at listened
  split at listened
  · cases listened
  · split at listened
    · cases listened
      exact ⟨rfl, rfl⟩
    · cases listened

theorem accepting_laws : ListenLaws .accepting where
  listens _ _ _ := reference_listens
  idle socket listening := by
    change ReferenceTcp.state socket = .listen at listening
    change ReferenceTcp.maySend socket = false ∧
      (decide (ReferenceTcp.state socket ≠ .listen) && ReferenceTcp.mayRecv socket) = false
    simp [ReferenceTcp.maySend, listening]

theorem listener_ports_exclusive_accepted :
    ∃ stack : Stack .accepting, stack.actors[0]? = some (.listener 80 [1, 3] .idle) ∧
      stack.actors[1]? = some (.listener 81 [2] .idle) ∧ stack.shared.inner.listeningOn 80 = true ∧
      stack.shared.inner.listeningOn 81 = true := by
  have evaluated : ∃ stack : Stack .accepting,
      execute (fun stack action => .guarded (stack.uncontested action) (Stack.step stack action))
        (.start ⟨true, false⟩ () false 0 65536)
        [.call (.listen 80 2 0), .call (.listen 81 1 0),
          .act 0 (.advance 0), .act 0 (.advance 0), .act 0 (.advance 0), .act 0 (.advance 1), .act 0 (.advance 0),
          .act 1 (.advance 0), .act 1 (.advance 0), .act 1 (.advance 2), .act 1 (.advance 0),
          .poll ⟨id, fun handle (socket : ReferenceTcp) => if handle = 0 then { socket with state := .established }
            else socket, fun _ => id, fun _ => id⟩ ⟨fun _ => true, fun _ => true, false⟩,
          .act 0 (.advance 0), .act 0 (.poll .accept), .act 0 (.advance 3), .act 0 (.advance 0),
          .act 0 (.advance 0)] = .next stack ∧
      stack.actors[0]? = some (.listener 80 [1, 3] .idle) ∧ stack.actors[1]? = some (.listener 81 [2] .idle) :=
    ⟨_, rfl, rfl, rfl⟩
  obtain ⟨stack, ran, first, second⟩ := evaluated
  have held := listener_ports_exclusive accepting_laws ⟨_, _, _, _, _, rfl⟩ (runWhile_of_execute (fun _ _ => id) ran)
  exact ⟨stack, first, second, held.2 _ _ _ (List.mem_of_getElem? first), held.2 _ _ _ (List.mem_of_getElem? second)⟩

/-- A peer opens a connection to a listener with one socket: nothing listens on its port any more,
and a second listener gets it. -/
theorem port_listened_on_twice :
    ∃ (before after : Stack .accepting) (actions : List (Action .accepting)),
      Reachable Stack.step Stack.Initial before ∧ Run Stack.step before actions after ∧
      before.actors = [.listener 80 [0] .idle] ∧ before.shared.inner.listeningOn 80 = false ∧
      after.actors = [.listener 80 [0] .idle, .listener 80 [1] .idle] := by
  have knocked : ∃ before : Stack .accepting,
      execute Stack.step (.start ⟨true, false⟩ () false 0 65536)
        [.call (.listen 80 1 0), .act 0 (.advance 0), .act 0 (.advance 0), .act 0 (.advance 0), .act 0 (.advance 0),
          .poll ⟨id, fun _ (socket : ReferenceTcp) => { socket with state := .synReceived }, fun _ => id, fun _ => id⟩
            ⟨fun _ => true, fun _ => true, false⟩] = .next before ∧
      before.actors = [.listener 80 [0] .idle] ∧ before.shared.inner.listeningOn 80 = false ∧
      ∃ after, execute Stack.step before [.call (.listen 80 1 0), .act 1 (.advance 0), .act 1 (.advance 0),
          .act 1 (.advance 1), .act 1 (.advance 0)] = .next after ∧
        after.actors = [.listener 80 [0] .idle, .listener 80 [1] .idle] :=
    ⟨_, rfl, rfl, rfl, _, rfl, rfl⟩
  obtain ⟨before, reach, listener, silent, after, ran, both⟩ := knocked
  exact ⟨before, after, _, ⟨_, _, ⟨_, _, _, _, _, rfl⟩, run_of_execute reach⟩, run_of_execute ran, listener, silent,
    both⟩

end ProxyTunnels.Wireguard
