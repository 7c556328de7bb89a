import ProxyTunnels.Wireguard.Custody
import ProxyTunnels.Wireguard.Lifecycle

/-! What waits on a stopped stack.

Once `stop` has closed every socket, each connection somebody still has is closed, or is a
dial that was opened later and whose handshake will never go on. This is an invariant of
every run, and it says which polls are left waiting.
-/

set_option autoImplicit false

namespace ProxyTunnels.Wireguard
open Machine

section Sockets
variable {smoltcp : Smoltcp} {inner next : Inner smoltcp} {handle : Handle}

def Inner.stateAt (inner : Inner smoltcp) (handle : Handle) : Option TcpState :=
  (inner.getTcp handle).map smoltcp.state

def Inner.unreadAt (inner : Inner smoltcp) (handle : Handle) : Nat :=
  ((inner.getTcp handle).map smoltcp.recvQueue).getD 0

theorem Inner.getTcp_congr (same : next.sockets.get handle = inner.sockets.get handle) :
    next.getTcp handle = inner.getTcp handle := by
  unfold Inner.getTcp
  rw [same]

theorem Inner.stateAt_congr (same : next.sockets.get handle = inner.sockets.get handle) :
    next.stateAt handle = inner.stateAt handle := by
  unfold Inner.stateAt
  rw [Inner.getTcp_congr same]

theorem Inner.stateAt_eq_some {state : TcpState} :
    inner.stateAt handle = some state ↔ ∃ socket, inner.getTcp handle = some socket ∧ smoltcp.state socket = state := by
  unfold Inner.stateAt
  rw [Option.map_eq_some_iff]

theorem Inner.state_of_stateAt {socket : smoltcp.Tcp} {state : TcpState} (there : inner.stateAt handle = some state)
    (place : inner.getTcp handle = some socket) : smoltcp.state socket = state := by
  unfold Inner.stateAt at there
  rw [place] at there
  exact Option.some.inj there

theorem Inner.stateAt_put (found : inner.kindAt handle = some .tcp) (socket : smoltcp.Tcp) :
    (inner.put handle (.tcp socket)).stateAt handle = some (smoltcp.state socket) := by
  unfold Inner.stateAt
  rw [Inner.getTcp_put found]
  rfl

theorem Inner.stateAt_shutAll (documented : Documented smoltcp) (found : inner.kindAt handle = some .tcp) :
    inner.shutAll.stateAt handle = some .closed := by
  obtain ⟨socket, place⟩ := Inner.getTcp_of_kindAt found
  unfold Inner.stateAt Inner.getTcp Inner.shutAll
  rw [Slab.get_mapIdx, Inner.get_of_getTcp place]
  exact congrArg some (documented.abort_closed socket)

end Sockets

section ClosedPolls
variable {smoltcp : Smoltcp} (documented : Documented smoltcp) {socket : smoltcp.Tcp}
include documented

/-- Reading from a closed connection waits only if there is something to read and no room for it. -/
theorem pollRead_closed (closed : smoltcp.state socket = .closed) (room : Nat) :
    ((pollRead socket room).1.isPending = true ↔ room = 0 ∧ 0 < smoltcp.recvQueue socket) ∧
      smoltcp.state (pollRead socket room).2 = .closed := by
  have unread := documented.closed_mayRecv socket closed
  unfold pollRead
  cases ready : smoltcp.mayRecv socket with
  | false =>
    rw [ready] at unread
    simp only [Bool.false_eq_true, false_iff] at unread
    simp [Polled.isPending, unread, closed]
  | true =>
    have left := unread.mp ready
    obtain ⟨bytes, next, received, length, same⟩ := documented.recvSlice_takes socket room ready
    simp only [Bool.not_true, Bool.false_eq_true, if_false, received]
    -- `recv_slice` hands out as much as fits, so nothing means no room, not nothing to read.
    cases bytes with
    | nil =>
      have empty : room = 0 := by
        rw [List.length_nil] at length
        omega
      exact ⟨⟨fun _ => ⟨empty, left⟩, fun _ => rfl⟩, same.trans closed⟩
    | cons byte bytes =>
      have positive : room ≠ 0 := by
        rw [List.length_cons] at length
        omega
      exact ⟨⟨fun waits => Bool.noConfusion waits, fun roomless => absurd roomless.1 positive⟩, same.trans closed⟩

theorem pollWrite_closed (closed : smoltcp.state socket = .closed) (data : List UInt8) :
    (pollWrite socket data).1.isPending = false ∧ (pollWrite socket data).2 = socket := by
  unfold pollWrite
  rw [documented.closed_maySend socket closed]
  exact ⟨rfl, rfl⟩

theorem pollFlush_closed (closed : smoltcp.state socket = .closed) : (pollFlush socket).isPending = false := by
  unfold pollFlush
  rw [documented.closed_maySend socket closed, closed]
  split <;> rfl

end ClosedPolls

section Severed
variable {smoltcp : Smoltcp} {inner next : Inner smoltcp} {actor : Actor smoltcp}

/-- The connections an actor has are closed; a dial may also be one that will never get an answer. -/
def Actor.Severed (inner : Inner smoltcp) : Actor smoltcp → Prop
  | .connecting _ (.wait handle _) => inner.stateAt handle = some .closed ∨ inner.stateAt handle = some .synSent
  | .stream _ handle _ _ _ => inner.stateAt handle = some .closed
  | .listener _ _ point => ∀ handle ∈ point.inHand, inner.stateAt handle = some .closed
  | _ => True

theorem Actor.severed_of_closed
    (closed : ∀ handle, (handle, .tcp) ∈ actor.holds → inner.stateAt handle = some .closed) :
    actor.Severed inner := by
  cases actor with
  | connecting remote point =>
    cases point with
    | wait handle asleep => exact Or.inl (closed handle List.mem_cons_self)
    | _ => exact trivial
  | stream peer handle shutDown reading writing => exact closed handle List.mem_cons_self
  | listener port pool point =>
    intro handle member
    exact closed handle (mem_poolTokens (List.mem_append_right _ member))
  | _ => exact trivial

theorem Actor.Severed.frame (severed : actor.Severed inner)
    (same : ∀ token ∈ actor.holds, next.sockets.get token.1 = inner.sockets.get token.1) :
    actor.Severed next := by
  cases actor with
  | connecting remote point =>
    cases point with
    | wait handle asleep =>
      have here : next.stateAt handle = inner.stateAt handle :=
        Inner.stateAt_congr (same (handle, .tcp) List.mem_cons_self)
      exact severed.imp here.trans here.trans
    | _ => exact trivial
  | stream peer handle shutDown reading writing =>
    exact (Inner.stateAt_congr (same (handle, .tcp) List.mem_cons_self)).trans severed
  | listener port pool point =>
    intro handle member
    have held := mem_poolTokens (List.mem_append_right pool member)
    exact (Inner.stateAt_congr (same (handle, .tcp) held)).trans (severed handle member)
  | _ => exact trivial

end Severed

section Steps
variable {smoltcp : Smoltcp} {shared : Shared smoltcp}

def Effect.Severed (effect : Effect smoltcp) : Prop :=
  effect.actor.Severed effect.shared.inner ∧ ∀ other ∈ effect.spawned, other.Severed effect.shared.inner

variable {actor new : Actor smoltcp} {input : Input} {effect : Effect smoltcp}

theorem Effect.Severed.of_actor {next : Shared smoltcp} (severed : new.Severed next.inner) :
    Effect.Severed ⟨next, new, []⟩ :=
  ⟨severed, List.forall_mem_nil _⟩

theorem pollConnect_severed {remote : SocketAddr} {handle : Handle} {asleep : Bool} {socket : smoltcp.Tcp}
    (severed : (Actor.connecting remote (.wait handle asleep)).Severed shared.inner)
    (place : shared.inner.getTcp handle = some socket) : pollConnect socket ≠ .ready true := by
  intro established
  unfold pollConnect at established
  rcases severed with closed | waiting
  · rw [Inner.state_of_stateAt closed place] at established
    cases established
  · rw [Inner.state_of_stateAt waiting place] at established
    cases established

theorem Rests.severed (rests : Rests shared actor input new) (severed : actor.Severed shared.inner) :
    new.Severed shared.inner := by
  cases rests with
  | connected place established => exact absurd established (pollConnect_severed severed place)
  | unanswered | unread | unwritten | flushed => exact severed
  | filled | accepts | acceptStopped | acceptDropped => exact List.forall_mem_nil _
  | _ => exact trivial

theorem restocked_severed {port : UInt16} {pool : List Handle} {handle fresh : Handle} {peer : Option SocketAddr}
    {inner : Inner smoltcp} {failure : Option String}
    (secured : Secured shared (.listener port pool (.taken handle peer)))
    (severed : (Actor.listener port pool (.taken handle peer)).Severed shared.inner)
    (vacant : shared.inner.sockets.Vacant fresh)
    (listened : shared.inner.listenOne port fresh = .next (inner, failure)) :
    ∀ other ∈ [handle], inner.stateAt other = some .closed := by
  have changes := (Inner.listenOne_changes vacant).of_next listened
  have found := secured.kindAt_held (listener_holds_inHand (List.mem_singleton.mpr rfl))
  have same := changes.frame handle (by simp) (by simp [found])
  exact List.forall_mem_singleton.mpr ((Inner.stateAt_congr same).trans (severed handle List.mem_cons_self))

/-- On a stack whose sockets have been closed, no actor comes by a connection that works. -/
theorem stepActor_severed (documented : Documented smoltcp) (secured : Secured shared actor)
    (stopped : shared.stopped = true) (severed : actor.Severed shared.inner)
    (taken : shared.stepActor actor input = .next effect) : effect.Severed := by
  cases turns_of_step taken with
  | rests rests => exact .of_actor (rests.severed severed)
  | @dialClaims remote point fresh next claimed claiming => cases claimed <;> exact .of_actor trivial
  | @bindClaims port packets bytes point fresh next claimed claiming => cases claimed <;> exact .of_actor trivial
  | @opens remote fresh port inner socket opened vacant drawn connected =>
    -- `connect` never looks at the flag: this dial waits for a pump that is gone.
    have waiting := documented.connect_synSent _ _ _ _ _ connected
    have found := (Inner.drawTcp_changes vacant drawn).2
    exact .of_actor (.inr ((Inner.stateAt_put found opened).trans (congrArg some waiting)))
  | @reads peer handle shutDown reading writing room socket place =>
    have closed := Inner.state_of_stateAt severed place
    exact .of_actor ((Inner.stateAt_put (Inner.kindAt_of_getTcp place) _).trans
      (congrArg some (pollRead_closed documented closed room).2))
  | @writes peer handle reading writing data socket place =>
    have closed := Inner.state_of_stateAt severed place
    refine .of_actor ((Inner.stateAt_put (Inner.kindAt_of_getTcp place) _).trans (congrArg some ?_))
    rw [(pollWrite_closed documented closed data).2, closed]
  | @shutsDown peer handle reading writing inner shut =>
    obtain ⟨socket, place, closed⟩ := Inner.stateAt_eq_some.mp severed
    refine .of_actor ?_
    unfold Inner.updateTcp at shut
    rw [place] at shut
    cases shut
    exact (Inner.stateAt_put (Inner.kindAt_of_getTcp place) _).trans
      (congrArg some (documented.close_closed socket closed))
  -- The flag is checked under the lock, so no further connection is taken.
  | scans running scanned => cases stopped.symm.trans running
  | takes running scanned place => cases stopped.symm.trans running
  | restocks vacant listened => exact .of_actor (restocked_severed secured severed vacant listened)
  | restocksNot vacant listened => exact .of_actor (restocked_severed secured severed vacant listened)
  | @acceptClaims port pool handle fresh peer point next claimed claiming =>
    have held : (handle, Kind.tcp) ∈ (Actor.listener port pool (.claim handle peer point) : Actor smoltcp).holds :=
      listener_holds_inHand (List.mem_singleton.mpr rfl)
    have claims := (claimSocket_claims secured point).of_next claiming
    -- A closing socket that is reclaimed is never the connection in hand.
    have same := claims.frame handle (by simp [secured.kindAt_held held]) (secured.not_reserved held)
    have closed := (Inner.stateAt_congr same).trans (severed handle List.mem_cons_self)
    cases claimed with
    | goOn point => exact .of_actor (List.forall_mem_singleton.mpr closed)
    | got => exact ⟨List.forall_mem_nil _, List.forall_mem_singleton.mpr closed⟩
    | refused => exact .of_actor (List.forall_mem_singleton.mpr closed)
  | resets | givesUp => exact .of_actor (List.forall_mem_nil _)
  | _ => exact .of_actor trivial

end Steps

section Runs
variable {smoltcp : Smoltcp} {stack next : Stack smoltcp}

/-- Whether `stop` has been through its locked section. -/
def PumpPhase.hasShut : PumpPhase → Bool
  | .shut | .finished => true
  | .running | .flagged => false

/-- The flag is up from the first step of `stop` on, and connections are severed from the second on. -/
structure Stopping (stack : Stack smoltcp) : Prop where
  flag : stack.pump ≠ .running → stack.shared.stopped = true
  severed : stack.pump.hasShut = true → ∀ actor ∈ stack.actors, actor.Severed stack.shared.inner

theorem Stopping.stopped_of_shut (stopping : Stopping stack) (shut : stack.pump.hasShut = true) :
    stack.shared.stopped = true := by
  apply stopping.flag
  intro running
  rw [running] at shut
  cases shut

theorem StackCall.actor_severed (shared : Shared smoltcp) (call : StackCall) :
    (call.actor shared).Severed shared.inner := by
  cases call with
  | resolve host =>
    unfold StackCall.actor
    dsimp only
    split <;> exact trivial
  | _ => exact trivial

theorem Balanced.shut_severed (documented : Documented smoltcp) (balanced : Balanced stack)
    {actor : Actor smoltcp} (member : actor ∈ stack.actors) (woken : Woken) :
    (actor.wake woken).Severed stack.shared.inner.shutAll := by
  obtain ⟨index, found⟩ := List.mem_iff_getElem?.mp member
  apply Actor.severed_of_closed
  intro handle held
  rw [(actor.wake_stirs woken).holdings.holds] at held
  exact Inner.stateAt_shutAll documented ((balanced.secured found).kindAt_held held)

theorem Stopping.step (documented : Documented smoltcp) (balanced : Balanced stack) (stopping : Stopping stack)
    {action : Action smoltcp} (taken : stack.step action = .next next) : Stopping next := by
  cases Stack.moves_of_step taken with
  | call call =>
    refine ⟨stopping.flag, ?_⟩
    intro shut
    have new := List.forall_mem_singleton.mpr (call.actor_severed stack.shared)
    exact List.forall_mem_append.mpr ⟨stopping.severed shut, new⟩
  | @act index input actor effect found stepped =>
    have secured := balanced.secured found
    have conserves := (stepActor_conserves actor input secured).of_next stepped
    refine ⟨fun later => conserves.stopped.trans (stopping.flag later), ?_⟩
    intro shut other member
    have stopped := stopping.stopped_of_shut shut
    have own := stopping.severed shut actor (List.mem_of_getElem? found)
    obtain ⟨self, spawned⟩ := stepActor_severed documented secured stopped own stepped
    obtain ⟨place, there⟩ := List.mem_iff_getElem?.mp member
    rcases getElem?_set_append_cases there with ⟨-, same⟩ | ⟨apart, old⟩ | ⟨-, new⟩
    · rw [same]
      exact self
    · -- Another actor's connections are not touched by this step.
      refine (stopping.severed shut other (List.mem_of_getElem? old)).frame ?_
      intro token held
      exact balanced.bystander found old (Ne.symm apart) conserves held
    · exact spawned other new
  | elapse micros =>
    refine ⟨stopping.flag, ?_⟩
    intro shut actor member
    exact (stopping.severed shut actor member).frame fun _ _ => rfl
  | poll running reclaimed =>
    refine ⟨stopping.flag, ?_⟩
    intro shut
    change stack.pump.hasShut = true at shut
    rw [running] at shut
    cases shut
  | flag running => exact ⟨fun _ => rfl, fun shut => by cases shut⟩
  | shut flagged =>
    refine ⟨fun _ => stopping.flag (by simp [flagged]), ?_⟩
    intro _
    exact List.forall_mem_map.mpr fun actor inside => balanced.shut_severed documented inside _
  | notify shut =>
    refine ⟨fun _ => stopping.flag (by simp [shut]), ?_⟩
    intro _
    have severed := stopping.severed (by rw [shut]; rfl)
    exact List.forall_mem_map.mpr fun actor inside =>
      Actor.notify_keeps (fun _ => trivial) (severed actor inside)

theorem stopping_of_reachable (documented : Documented smoltcp)
    (reached : Reachable Stack.step Stack.Initial stack) : Stopping stack := by
  let holds (stack : Stack smoltcp) : Prop := Balanced stack ∧ Stopping stack
  have both : holds stack := by
    refine @Reachable.invariant _ _ _ _ holds ?_ ?_ _ reached
    · intro start initial
      refine ⟨balanced_start initial, ?_⟩
      obtain ⟨config, iface, resolver, seed, bytes, rfl⟩ := initial
      exact ⟨fun later => absurd rfl later, fun shut => by cases shut⟩
    · rintro stack action next ⟨balanced, stopping⟩ taken
      exact ⟨(balanced.step action).of_next taken, stopping.step documented balanced taken⟩
  exact both.2

end Runs

section Polls
variable {smoltcp : Smoltcp}

inductive Actor.Awaits : Actor smoltcp → Poll → Prop where
  | connect {remote : SocketAddr} {handle : Handle} {asleep : Bool} :
      Awaits (.connecting remote (.wait handle asleep)) .connect
  | accept {port : UInt16} {pool : List Handle} {asleep : Bool} :
      Awaits (.listener port pool (.polling asleep)) .accept
  | read {peer : SocketAddr} {handle : Handle} {shutDown reading writing : Bool} (room : Nat) :
      Awaits (.stream peer handle shutDown reading writing) (.read room)
  | write {peer : SocketAddr} {handle : Handle} {shutDown reading writing : Bool} (data : List UInt8) :
      Awaits (.stream peer handle shutDown reading writing) (.write data)
  | flush {peer : SocketAddr} {handle : Handle} {shutDown reading writing : Bool} :
      Awaits (.stream peer handle shutDown reading writing) .flush
  | sendTo {handle : Handle} {port : UInt16} {sending receiving : Bool} (data : List UInt8)
      (remote : SocketAddr) : Awaits (.udp handle port sending receiving) (.sendTo data remote)
  | recvFrom {handle : Handle} {port : UInt16} {sending receiving : Bool} (room : Nat) :
      Awaits (.udp handle port sending receiving) (.recvFrom room)
  | query {host : String} {lastError : Option TunnelError} {kinds : List DnsQueryType}
      {query : smoltcp.Query} {asleep : Bool} :
      Awaits (.resolving host lastError (.wait kinds query asleep)) .query

def Actor.parked : Actor smoltcp → Poll → Bool
  | .connecting _ (.wait _ asleep), .connect => asleep
  | .listener _ _ (.polling asleep), .accept => asleep
  | .stream _ _ _ reading _, .read _ => reading
  | .stream _ _ _ _ writing, .write _ | .stream _ _ _ _ writing, .flush => writing
  | .udp _ _ sending _, .sendTo _ _ => sending
  | .udp _ _ _ receiving, .recvFrom _ => receiving
  | .resolving _ _ (.wait _ _ asleep), .query => asleep
  | _, _ => false

def Inner.QueryPending (inner : Inner smoltcp) (query : smoltcp.Query) : Prop :=
  ∃ handle socket, inner.dns = some handle ∧ inner.getDns handle = some socket ∧
    (smoltcp.getQueryResult socket query).1 = .pending

/-- The polls that wait although the stack has stopped: of a dial opened after the sockets were
closed, of a query without a result, and of a read that has no room for what there is. -/
def Actor.Stuck (inner : Inner smoltcp) : Actor smoltcp → Poll → Prop
  | .connecting _ (.wait handle _), .connect => inner.stateAt handle = some .synSent
  | .stream _ handle _ _ _, .read room => room = 0 ∧ 0 < inner.unreadAt handle
  | .resolving _ _ (.wait _ query _), .query => inner.QueryPending query
  | _, _ => False

variable {shared : Shared smoltcp}

/-- A poll that leads to a state, and leaves its operation waiting exactly if `stuck`. -/
def PollsTo (outcome : Outcome (Effect smoltcp)) (poll : Poll) (stuck : Prop) : Prop :=
  ∃ effect, outcome = .next effect ∧ (effect.actor.parked poll = true ↔ stuck)

theorem pollConnect_stopped {remote : SocketAddr} {handle : Handle} {asleep : Bool}
    (severed : (Actor.connecting remote (.wait handle asleep)).Severed shared.inner) :
    PollsTo (shared.stepConnecting remote (.wait handle asleep) (.poll .connect)) .connect
      (shared.inner.stateAt handle = some .synSent) := by
  unfold Shared.stepConnecting
  dsimp only
  rcases severed with closed | waiting
  · obtain ⟨socket, place, state⟩ := Inner.stateAt_eq_some.mp closed
    rw [place]
    dsimp only [pollConnect]
    rw [state]
    refine ⟨_, rfl, ?_⟩
    rw [closed]
    simp [Actor.parked]
  · obtain ⟨socket, place, state⟩ := Inner.stateAt_eq_some.mp waiting
    rw [place]
    dsimp only [pollConnect]
    rw [state]
    exact ⟨_, rfl, fun _ => waiting, fun _ => rfl⟩

theorem pollStream_stopped (documented : Documented smoltcp) {peer : SocketAddr} {handle : Handle}
    {shutDown reading writing : Bool}
    (severed : (Actor.stream peer handle shutDown reading writing).Severed shared.inner) {poll : Poll}
    (awaits : (Actor.stream peer handle shutDown reading writing : Actor smoltcp).Awaits poll) :
    PollsTo (shared.stepStream peer handle shutDown reading writing (.poll poll)) poll
      ((Actor.stream peer handle shutDown reading writing).Stuck shared.inner poll) := by
  obtain ⟨socket, place, closed⟩ := Inner.stateAt_eq_some.mp severed
  unfold Shared.stepStream
  cases awaits with
  | read room =>
    dsimp only
    rw [place]
    refine ⟨_, rfl, ?_⟩
    have unread : shared.inner.unreadAt handle = smoltcp.recvQueue socket := by simp [Inner.unreadAt, place]
    change _ ↔ room = 0 ∧ 0 < shared.inner.unreadAt handle
    rw [unread]
    exact (pollRead_closed documented closed room).1
  | write data =>
    dsimp only
    split
    · exact ⟨_, rfl, fun waits => Bool.noConfusion waits, False.elim⟩
    · rw [place]
      refine ⟨_, rfl, fun waits => ?_, False.elim⟩
      have ready := (pollWrite_closed documented closed data).1
      exact Bool.noConfusion (ready.symm.trans waits)
  | flush =>
    dsimp only
    rw [place]
    refine ⟨_, rfl, fun waits => ?_, False.elim⟩
    exact Bool.noConfusion ((pollFlush_closed documented closed).symm.trans waits)

theorem pollUdp_stopped {handle : Handle} {port : UInt16} {sending receiving : Bool}
    (secured : Secured shared (.udp handle port sending receiving)) (stopped : shared.stopped = true)
    {poll : Poll} (awaits : (Actor.udp handle port sending receiving : Actor smoltcp).Awaits poll) :
    PollsTo (shared.stepUdp handle port sending receiving (.poll poll)) poll False := by
  obtain ⟨socket, place⟩ := Inner.getUdp_of_kindAt (secured.kindAt_held List.mem_cons_self)
  unfold Shared.stepUdp
  cases awaits with
  | sendTo data remote =>
    dsimp only
    rw [place, stopped]
    exact ⟨_, rfl, fun waits => Bool.noConfusion waits, False.elim⟩
  | recvFrom room =>
    dsimp only
    rw [place, stopped]
    exact ⟨_, rfl, fun waits => Bool.noConfusion waits, False.elim⟩

theorem pollQuery_pending_iff {host : String} {lastError : Option TunnelError} {kinds : List DnsQueryType}
    {query : smoltcp.Query} {asleep : Bool}
    (secured : Secured shared (.resolving host lastError (.wait kinds query asleep))) :
    PollsTo (shared.pollQuery host lastError kinds query) .query (shared.inner.QueryPending query) := by
  obtain ⟨handle, socket, dns, place, -⟩ := secured.dnsSocket
  have pending : shared.inner.QueryPending query ↔ (smoltcp.getQueryResult socket query).1 = .pending := by
    constructor
    · rintro ⟨other, found, same, there, waits⟩
      cases dns.symm.trans same
      cases place.symm.trans there
      exact waits
    · intro waits
      exact ⟨handle, socket, dns, place, waits⟩
  unfold Shared.pollQuery
  rw [dns, pending]
  dsimp only
  rw [place]
  dsimp only
  split
  · next waits => exact ⟨_, rfl, fun _ => waits, fun _ => rfl⟩
  · next result => exact ⟨_, rfl, fun waits => Bool.noConfusion waits, fun waits => by cases result.symm.trans waits⟩
  · next result => exact ⟨_, rfl, fun waits => Bool.noConfusion waits, fun waits => by cases result.symm.trans waits⟩
  · next result => exact ⟨_, rfl, fun waits => Bool.noConfusion waits, fun waits => by cases result.symm.trans waits⟩

/-- Every poll on a stopped stack leads on, and waits only where it is stuck. -/
theorem poll_stopped (documented : Documented smoltcp) {actor : Actor smoltcp} (secured : Secured shared actor)
    (stopped : shared.stopped = true) (severed : actor.Severed shared.inner) {poll : Poll}
    (awaits : actor.Awaits poll) :
    PollsTo (shared.stepActor actor (.poll poll)) poll (actor.Stuck shared.inner poll) := by
  cases actor with
  | connecting remote point =>
    cases awaits with
    | connect => exact pollConnect_stopped severed
  | stream peer handle shutDown reading writing => exact pollStream_stopped documented severed awaits
  | udp handle port sending receiving =>
    obtain ⟨effect, taken, idle⟩ := pollUdp_stopped secured stopped awaits
    refine ⟨effect, taken, idle.trans ?_⟩
    cases awaits <;> exact Iff.rfl
  | listener port pool point =>
    cases awaits with
    | accept =>
      change PollsTo (shared.pollAccept port pool) _ _
      unfold Shared.pollAccept
      rw [stopped]
      exact ⟨_, rfl, fun waits => Bool.noConfusion waits, False.elim⟩
  | resolving host lastError point =>
    cases awaits with
    | query => exact pollQuery_pending_iff secured
  | _ => cases awaits

end Polls

/-- Once `stop` is over, every poll of an operation leads on, and it leaves the operation waiting
exactly if the operation is a dial opened after the sockets were closed, a query without a result,
or a read without room for the bytes there are. -/
theorem stopped_poll_waits_iff {smoltcp : Smoltcp} (documented : Documented smoltcp) {stack : Stack smoltcp}
    (reached : Reachable Stack.step Stack.Initial stack) (finished : stack.pump = .finished) {index : Nat}
    {actor : Actor smoltcp} (found : stack.actors[index]? = some actor) {poll : Poll}
    (awaits : actor.Awaits poll) :
    ∃ next after, stack.step (.act index (.poll poll)) = .next next ∧ next.actors[index]? = some after ∧
      (after.parked poll = true ↔ actor.Stuck stack.shared.inner poll) := by
  have secured := (balanced_of_reachable reached).secured found
  have stopping := stopping_of_reachable documented reached
  have stopped : stack.shared.stopped = true := stopping.flag (by simp [finished])
  have severed := stopping.severed (by rw [finished]; rfl) actor (List.mem_of_getElem? found)
  obtain ⟨effect, taken, waits⟩ := poll_stopped documented secured stopped severed awaits
  have stepped : stack.step (.act index (.poll poll)) =
      .next { stack with
        shared := effect.shared, actors := stack.actors.set index effect.actor ++ effect.spawned } := by
    unfold Stack.step
    dsimp only
    rw [found]
    dsimp only
    rw [taken]
    rfl
  exact ⟨_, effect.actor, stepped, getElem?_set_append_self found effect.actor, waits⟩

theorem stopped_poll_waits_iff_dial :
    ∃ stack next after, Reachable Stack.step Stack.Initial stack ∧ stack.pump = .finished ∧
      stack.step (.act 0 (.poll .connect)) = .next next ∧ next.actors[0]? = some after ∧
      (after : Actor .reference).parked .connect = false := by
  let remote : SocketAddr := ⟨[10, 0, 0, 2], 80⟩
  let actions : List (Action .reference) :=
    [.call (.connect remote), .act 0 (.advance 0), .act 0 (.advance 0), .act 0 (.advance 1),
      .act 0 (.poll .connect), .stop, .stop, .stop]
  let stack : UInt16 → UInt16 → Stack .reference := fun port nextPort =>
    { shared :=
        { inner :=
            { iface := (), sockets := [some (.dns []), some (.tcp ⟨.closed, [], [], port, some remote⟩)]
              dns := some 0, now := 0, nextPort, closing := [], tcpBufferBytes := 65536 }
          slots := ⟨1, false⟩, dnsPermits := 8, stopped := true, config := ⟨true, false⟩ }
      pump := .finished
      actors := [.connecting remote (.wait 1 false)] }
  obtain ⟨port, nextPort, ran⟩ : ∃ port nextPort,
      execute Stack.step (.start ⟨true, false⟩ () true 0 65536) actions = .next (stack port nextPort) :=
    ⟨_, _, rfl⟩
  have reached : Reachable Stack.step Stack.Initial (stack port nextPort) :=
    ⟨_, actions, ⟨_, _, _, _, _, rfl⟩, run_of_execute ran⟩
  have place : (stack port nextPort).actors[0]? = some (.connecting remote (.wait 1 false)) := rfl
  obtain ⟨next, after, taken, there, waits⟩ :=
    stopped_poll_waits_iff reference_documented reached rfl place .connect
  refine ⟨_, next, after, reached, rfl, taken, there, ?_⟩
  rw [Bool.eq_false_iff]
  intro parked
  have waiting : some TcpState.closed = some TcpState.synSent := waits.mp parked
  cases waiting

/-- A dial and a resolution that begin after the stack has stopped are left waiting. -/
theorem late_calls_wait :
    ∃ stack : Stack .reference, Reachable Stack.step Stack.Initial stack ∧ stack.pump = .finished ∧
      stack.actors = [.connecting ⟨[10, 0, 0, 2], 80⟩ (.wait 1 true),
        .resolving "far.example" none (.wait [.a] (0 : Nat) true)] := by
  let actions : List (Action .reference) :=
    [.stop, .stop, .stop, .call (.connect ⟨[10, 0, 0, 2], 80⟩), .act 0 (.advance 0), .act 0 (.advance 0),
      .act 0 (.advance 1), .act 0 (.poll .connect), .call (.resolve "far.example"), .act 1 (.advance 0),
      .act 1 (.advance 0), .act 1 (.advance 0), .act 1 (.poll .query)]
  have ran : ∃ stack, execute Stack.step (.start ⟨true, false⟩ () true 0 65536) actions = .next stack ∧
      stack.pump = .finished ∧ stack.actors = [.connecting ⟨[10, 0, 0, 2], 80⟩ (.wait 1 true),
        .resolving "far.example" none (.wait [.a] (0 : Nat) true)] := ⟨_, rfl, rfl, rfl⟩
  obtain ⟨stack, ran, finished, actors⟩ := ran
  exact ⟨stack, ⟨_, actions, ⟨_, _, _, _, _, rfl⟩, run_of_execute ran⟩, finished, actors⟩

end ProxyTunnels.Wireguard
