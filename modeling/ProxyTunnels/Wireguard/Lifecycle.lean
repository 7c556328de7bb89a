import ProxyTunnels.Wireguard.Stack
import ProxyTunnels.Wireguard.Turns

/-! How calls and objects move on, whatever their sockets do.

`Follows` says which actors can come of which. From it and from the steps of calls that listen
follow two facts about every run: a listener has a port and, whenever it is not in the middle
of taking a connection, a pool that is not empty; and a dial whose socket is open never goes
back to opening one.
-/

set_option autoImplicit false

namespace ProxyTunnels.Wireguard
open Machine

section Flow
variable {smoltcp : Smoltcp}

inductive Actor.Follows : Actor smoltcp → Actor smoltcp → Prop where
  | dial {remote : SocketAddr} {point next : Connecting} :
      Follows (.connecting remote point) (.connecting remote next)
  | connected {remote : SocketAddr} {point : Connecting} {handle : Handle} :
      Follows (.connecting remote point) (.stream remote handle false false false)
  | stream {peer : SocketAddr} {handle : Handle} {shutDown reading writing shutDown' reading' writing' : Bool} :
      Follows (.stream peer handle shutDown reading writing) (.stream peer handle shutDown' reading' writing')
  | retired {peer : SocketAddr} {handle : Handle} {shutDown reading writing : Bool} :
      Follows (.stream peer handle shutDown reading writing) (.retiring handle)
  | bind {port : UInt16} {packets bytes : Nat} {point next : Binding} :
      Follows (.binding port packets bytes point) (.binding port packets bytes next)
  | bound {port : UInt16} {packets bytes : Nat} {point : Binding} {handle : Handle} {localPort : UInt16} :
      Follows (.binding port packets bytes point) (.udp handle localPort false false)
  | udp {handle : Handle} {port : UInt16} {sending receiving sending' receiving' : Bool} :
      Follows (.udp handle port sending receiving) (.udp handle port sending' receiving')
  | released {handle : Handle} {port : UInt16} {sending receiving : Bool} :
      Follows (.udp handle port sending receiving) .udpRelease
  | listen {backlog : Nat} {point next : Listening} :
      Follows (.listening backlog point) (.listening backlog next)
  | listens {backlog : Nat} {point : Listening} {port : UInt16} {pool : List Handle} :
      Follows (.listening backlog point) (.listener port pool .idle)
  | listener {port : UInt16} {pool pool' : List Handle} {point next : Accepting} :
      Follows (.listener port pool point) (.listener port pool' next)
  | resolve {host : String} {error error' : Option TunnelError} {point next : Resolving smoltcp} :
      Follows (.resolving host error point) (.resolving host error' next)
  | resolved {host : String} {error : Option TunnelError} {point : Resolving smoltcp}
      {addresses : List (List UInt8)} : Follows (.resolving host error point) (.resolved addresses)
  | waitStopped {point next : WaitStopped} : Follows (.waitStopped point) (.waitStopped next)
  | ended {actor : Actor smoltcp} {error : Option TunnelError} : Follows actor (.ended error)

/-- The actor moves on, and only a listener spawns anything, a stream nobody has polled. -/
structure Flows (actor : Actor smoltcp) (effect : Effect smoltcp) : Prop where
  follows : actor.Follows effect.actor
  spawned : ∀ other ∈ effect.spawned, (∃ port pool point, actor = .listener port pool point) ∧
    ∃ peer handle, other = .stream peer handle false false false

variable {shared : Shared smoltcp} {actor new : Actor smoltcp} {input : Input}

theorem Rests.follows (rests : Rests shared actor input new) : actor.Follows new := by
  cases rests <;> constructor

theorem Flows.of_follows {next : Shared smoltcp} (follows : actor.Follows new) : Flows actor ⟨next, new, []⟩ :=
  ⟨follows, List.forall_mem_nil _⟩

theorem Turns.flows {effect : Effect smoltcp} (turns : Turns shared actor input effect) : Flows actor effect := by
  cases turns with
  | rests rests => exact .of_follows rests.follows
  | @dialClaims remote point fresh next claimed claiming =>
    cases claimed with
    | goOn point => exact .of_follows .dial
    | got => exact .of_follows .dial
    | refused => exact .of_follows .ended
  | opens | unopened | discards | aborts => exact .of_follows .dial
  | reads | writes | shutsDown => exact .of_follows .stream
  | closes => exact .of_follows .retired
  | @bindClaims port packets bytes point fresh next claimed claiming =>
    cases claimed with
    | goOn point => exact .of_follows .bind
    | got => exact .of_follows .bind
    | refused => exact .of_follows .ended
  | bound => exact .of_follows .bound
  | unbound | unbinds => exact .of_follows .bind
  | sends | receives => exact .of_follows .udp
  | udpDrops => exact .of_follows .released
  | stocks | unstocks => exact .of_follows .listen
  | scans | takes | restocks | restocksNot | resets | givesUp => exact .of_follows .listener
  | @acceptClaims port pool handle fresh peer point next claimed claiming =>
    cases claimed with
    | goOn point => exact .of_follows .listener
    | got => exact ⟨.listener, fun other member => ⟨⟨_, _, _, rfl⟩, _, _, List.mem_singleton.mp member⟩⟩
    | refused => exact .of_follows .listener
  | acquires | starts | startsNot | awaits | asksOn => exact .of_follows .resolve
  | resolves => exact .of_follows .resolved
  | dialReleases | retires | bindReleases | udpReleases | emptiesPool | listenerDrops | cancels | cancelsNothing =>
    exact .of_follows .ended

theorem stepActor_flows (actor : Actor smoltcp) (input : Input) :
    (shared.stepActor actor input).Ensures (Flows actor) :=
  (stepActor_turns actor input).ensures.mono fun _ => Turns.flows

end Flow

section Invariants
variable {smoltcp : Smoltcp}

/-- A listener, or a call that sets one up, has a port it can listen on and a pool to listen with. -/
def Actor.Serving : Actor smoltcp → Prop
  | .listening _ (.explicit port) | .listening _ (.bind port) => port ≠ 0
  | .listening _ (.fill port left pool) => port ≠ 0 ∧ (left = 0 → pool ≠ [])
  | .listener port _ (.taken _ _) => port ≠ 0
  | .listener _ _ (.failed _ _) => False
  | .listener port pool _ => port ≠ 0 ∧ pool ≠ []
  | _ => True

def Actor.Dialled : Actor smoltcp → Prop
  | .connecting _ (.claim _) | .connecting _ .start => False
  | _ => True

variable {shared : Shared smoltcp}

theorem searchedPort_ne_zero (first step : Nat) : searchedPort first step ≠ 0 := by
  intro zero
  have value := searchedPort_toNat first step
  rw [zero, ephemeralFirst_toNat, UInt16.toNat_zero] at value
  omega

theorem listenOne_succeeds (documented : Documented smoltcp) {inner : Inner smoltcp} {port : UInt16}
    {fresh : Handle} (vacant : inner.sockets.Vacant fresh) (nonzero : port ≠ 0) :
    (inner.listenOne port fresh).Ensures fun result => result.2 = none := by
  have place : (inner.addTcpSocket fresh).getTcp fresh = some (smoltcp.tcpNew inner.tcpBufferBytes) := by
    unfold Inner.getTcp Inner.addTcpSocket Inner.add
    rw [Slab.get_insert vacant, if_pos rfl]
  obtain ⟨socket, listens⟩ := documented.listen_new inner.tcpBufferBytes port nonzero
  unfold Inner.listenOne
  dsimp only
  rw [place]
  dsimp only
  rw [listens]
  rfl

variable {actor new : Actor smoltcp} {input : Input} {effect : Effect smoltcp}

theorem Rests.serving (rests : Rests shared actor input new) (serving : actor.Serving) : new.Serving := by
  cases rests with
  | portFree free => exact serving
  | portFound free => exact searchedPort_ne_zero _ _
  | binds running => exact ⟨serving, by omega⟩
  -- Nothing is left to add, so the pool has the `backlog.max(1)` sockets asked for.
  | filled => exact ⟨serving.1, serving.2 rfl⟩
  | accepts | acceptStopped | acceptDropped => exact serving
  | _ => exact trivial

theorem stepActor_serving (documented : Documented smoltcp) (taken : shared.stepActor actor input = .next effect)
    (serving : actor.Serving) : effect.actor.Serving := by
  cases turns_of_step taken with
  | rests rests => exact rests.serving serving
  | @dialClaims remote point fresh next claimed claiming => cases claimed <;> exact trivial
  | @bindClaims port packets bytes point fresh next claimed claiming => cases claimed <;> exact trivial
  | stocks vacant listened => exact ⟨serving.1, by simp⟩
  | scans running scanned => exact serving
  | takes running scanned place => exact serving.1
  | restocks vacant listened => exact ⟨serving, by simp⟩
  | restocksNot vacant listened =>
    -- A fresh socket can listen, so no listener gets to `failed`.
    have listens := (listenOne_succeeds documented vacant serving).of_next listened
    cases listens
  | @acceptClaims port pool handle fresh peer point next claimed claiming => cases claimed <;> exact serving
  | resets aborted => exact serving
  | givesUp removed => exact serving.elim
  | _ => exact trivial

theorem stepActor_dialled (taken : shared.stepActor actor input = .next effect) (dialled : actor.Dialled) :
    effect.actor.Dialled := by
  cases turns_of_step taken with
  | rests rests => cases rests <;> exact trivial
  | dialClaims claiming => exact dialled.elim
  | @bindClaims port packets bytes point fresh next claimed claiming => cases claimed <;> exact trivial
  | @acceptClaims port pool handle fresh peer point next claimed claiming => cases claimed <;> exact trivial
  | _ => exact trivial

theorem Actor.Stirs.serving (stirs : actor.Stirs new) (serving : actor.Serving) : new.Serving := by
  cases stirs <;> exact serving

theorem StackCall.actor_serving (shared : Shared smoltcp) (call : StackCall) : (call.actor shared).Serving := by
  cases call with
  | listen port backlog first =>
    unfold StackCall.actor
    dsimp only
    split
    · exact trivial
    · assumption
  | resolve host =>
    unfold StackCall.actor
    dsimp only
    split <;> exact trivial
  | _ => exact trivial

/-- Every listener of a reachable stack is in working order. -/
theorem serving_of_reachable (documented : Documented smoltcp) {stack : Stack smoltcp}
    (reached : Reachable Stack.step Stack.Initial stack) : ∀ actor ∈ stack.actors, actor.Serving := by
  let holds (stack : Stack smoltcp) : Prop := ∀ actor ∈ stack.actors, actor.Serving
  refine @Reachable.invariant _ _ _ _ holds ?_ ?_ _ reached
  · rintro start ⟨config, iface, resolver, seed, bytes, rfl⟩ actor member
    cases member
  · intro stack action next serving taken
    cases Stack.moves_of_step taken with
    | call call =>
      exact List.forall_mem_append.mpr ⟨serving, List.forall_mem_singleton.mpr (call.actor_serving stack.shared)⟩
    | @act index input actor effect found stepped =>
      have own := stepActor_serving documented stepped (serving actor (List.mem_of_getElem? found))
      refine forall_mem_set_append serving own ?_
      intro other spawned
      obtain ⟨-, peer, handle, rfl⟩ := ((stepActor_flows actor input).of_next stepped).spawned other spawned
      exact trivial
    | elapse micros => exact serving
    | poll running reclaimed =>
      exact List.forall_mem_map.mpr fun actor inside => (actor.wake_stirs _).serving (serving actor inside)
    | flag running => exact serving
    | shut flagged =>
      exact List.forall_mem_map.mpr fun actor inside => (actor.wake_stirs _).serving (serving actor inside)
    | notify shut =>
      exact List.forall_mem_map.mpr fun actor inside => actor.notify_stirs.serving (serving actor inside)

end Invariants

end ProxyTunnels.Wireguard
