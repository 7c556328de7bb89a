import ProxyTunnels.Wireguard.Custody
import ProxyTunnels.Wireguard.Lifecycle

/-! Every socket has one owner, every handle refers to its socket, and a connection a listener
has is handed on, never lost. -/

set_option autoImplicit false

namespace ProxyTunnels.Wireguard
open Machine

section Handover
variable {smoltcp : Smoltcp} {stack next : Stack smoltcp}

/-- Where a listener's connection may be after a step: still with the listener, in an accepted
stream, or closing after a refusal. -/
inductive HandedOn (next : Stack smoltcp) (index : Nat) (handle : Handle) : Prop where
  | kept {port : UInt16} {pool : List Handle} {point : Accepting} :
      next.actors[index]? = some (.listener port pool point) → handle ∈ pool ++ point.inHand →
      HandedOn next index handle
  | accepted {other : Nat} {peer : SocketAddr} :
      next.actors[other]? = some (.stream peer handle false false false) → HandedOn next index handle
  | refused {entry : Closing} :
      entry ∈ next.shared.inner.closing → entry.handle = handle → entry.counted = false →
      HandedOn next index handle

inductive Effect.HandsOn (handle : Handle) (effect : Effect smoltcp) : Prop where
  | kept {port : UInt16} {pool : List Handle} {point : Accepting} :
      effect.actor = .listener port pool point → handle ∈ pool ++ point.inHand → HandsOn handle effect
  | accepted {peer : SocketAddr} :
      effect.spawned = [.stream peer handle false false false] → HandsOn handle effect
  | refused {entry : Closing} :
      entry ∈ effect.shared.inner.closing → entry.handle = handle → entry.counted = false →
      HandsOn handle effect

theorem stepActor_handsOn {shared : Shared smoltcp} {port : UInt16} {pool : List Handle} {point : Accepting}
    {input : Input} {effect : Effect smoltcp} {handle : Handle}
    (taken : shared.stepActor (.listener port pool point) input = .next effect) (notDropped : input ≠ .drop)
    (member : handle ∈ pool ++ point.inHand)
    (notFailed : ∀ error fresh, point = .failed handle error → input ≠ .advance fresh) :
    effect.HandsOn handle := by
  have apart := List.mem_append.mp member
  cases turns_of_step taken with
  | rests rests => cases rests <;> exact .kept rfl member
  | listenerDrops dropped => exact absurd rfl notDropped
  | scans running scanned => exact .kept rfl member
  | takes running scanned place =>
    have inside := apart.resolve_right List.not_mem_nil
    refine .kept rfl ?_
    -- `swap_remove` reorders the pool and loses only the one in hand.
    rcases List.mem_cons.mp ((swapRemove_perm place).mem_iff.mpr inside) with same | rest
    · exact List.mem_append_right _ (List.mem_singleton.mpr same)
    · exact List.mem_append_left _ rest
  | restocks vacant listened =>
    exact .kept rfl (List.mem_append.mpr (apart.imp_left (List.mem_append_left _)))
  | restocksNot vacant listened => exact .kept rfl member
  | @acceptClaims port pool chosen fresh peer point next claimed claiming =>
    cases claimed with
    | goOn point => exact .kept rfl member
    | got =>
      rcases apart with inside | inHand
      · exact .kept rfl (List.mem_append_left _ inside)
      · cases List.mem_singleton.mp inHand
        exact .accepted rfl
    | refused => exact .kept rfl member
  | resets aborted =>
    rcases apart with inside | inHand
    · exact .kept rfl (List.mem_append_left _ inside)
    · cases List.mem_singleton.mp inHand
      exact .refused (List.mem_append_right _ List.mem_cons_self) rfl rfl
  | @givesUp port pool chosen fresh error inner removed =>
    rcases apart with inside | inHand
    · exact .kept rfl (List.mem_append_left _ inside)
    · cases List.mem_singleton.mp inHand
      exact absurd rfl (notFailed error fresh rfl)

theorem HandedOn.of_map {change : Actor smoltcp → Actor smoltcp} {index : Nat} {handle : Handle}
    {port : UInt16} {pool : List Handle} {point : Accepting}
    (found : stack.actors[index]? = some (.listener port pool point)) (member : handle ∈ pool ++ point.inHand)
    (stays : ∃ after, change (.listener port pool point) = .listener port pool after ∧
      after.inHand = point.inHand) {shared : Shared smoltcp} {pump : PumpPhase} :
    HandedOn ⟨shared, pump, stack.actors.map change⟩ index handle := by
  obtain ⟨after, same, inHand⟩ := stays
  have place : (stack.actors.map change)[index]? = some (.listener port pool after) := by
    rw [List.getElem?_map, found, Option.map_some, same]
  exact .kept place (inHand.symm ▸ member)

theorem Actor.wake_listener (woken : Woken) (port : UInt16) (pool : List Handle) (point : Accepting) :
    ∃ after, (Actor.listener port pool point : Actor smoltcp).wake woken = .listener port pool after ∧
      after.inHand = point.inHand := by
  cases point <;> exact ⟨_, rfl, rfl⟩

/-- A listener's connection is handed on by every step, other than the listener's drop and the
discard of a connection in whose place no fresh socket could listen. -/
theorem step_handsOn {action : Action smoltcp} (taken : stack.step action = .next next) {index : Nat}
    {port : UInt16} {pool : List Handle} {point : Accepting}
    (found : stack.actors[index]? = some (.listener port pool point)) {handle : Handle}
    (member : handle ∈ pool ++ point.inHand) (notDropped : action ≠ .act index .drop)
    (notFailed : ∀ error fresh, point = .failed handle error → action ≠ .act index (.advance fresh)) :
    HandedOn next index handle := by
  have inside := (List.getElem?_eq_some_iff.mp found).1
  cases Stack.moves_of_step taken with
  | call call =>
    have place : (stack.actors ++ [call.actor stack.shared])[index]? = some (.listener port pool point) := by
      rw [List.getElem?_append_left inside, found]
    exact .kept place member
  | @act other input actor effect acting stepped =>
    by_cases here : other = index
    · subst here
      cases found.symm.trans acting
      have stays : input ≠ .drop := fun same => notDropped (by rw [same])
      have keeps : ∀ error fresh, point = .failed handle error → input ≠ .advance fresh :=
        fun error fresh failed same => notFailed error fresh failed (by rw [same])
      cases stepActor_handsOn stepped stays member keeps with
      | kept same still =>
        have place := @getElem?_set_append_self _ _ effect.spawned _ _ acting effect.actor
        exact .kept (place.trans (congrArg some same)) still
      | @accepted peer spawned =>
        -- The accepted stream is the actor that was added.
        refine @HandedOn.accepted _ _ _ _ stack.actors.length peer ?_
        change (stack.actors.set other effect.actor ++ effect.spawned)[_]? = _
        rw [spawned, List.getElem?_append_right (by simp)]
        simp
      | refused closing same uncounted => exact .refused closing same uncounted
    · exact .kept (getElem?_set_append_ne found here) member
  | elapse micros => exact .kept found member
  | poll running reclaimed => exact .of_map found member (Actor.wake_listener _ port pool point)
  | flag running => exact .kept found member
  | shut flagged => exact .of_map found member (Actor.wake_listener _ port pool point)
  | notify shut => exact .of_map found member ⟨point, rfl, rfl⟩

end Handover

/-- In every reachable state each socket of the set has exactly one owner and no handle is held
for a socket that is not there; no step uses a handle wrongly; and a connection a listener has
is handed on, unless the listener is dropped or no fresh socket could listen in the connection's
place, which smoltcp's documentation rules out. -/
theorem handle_ownership {smoltcp : Smoltcp} {stack : Stack smoltcp}
    (reached : Reachable Stack.step Stack.Initial stack) :
    (∀ handle kind, stack.holders (handle, kind) =
      if stack.shared.inner.kindAt handle = some kind then 1 else 0) ∧
    (∀ action, stack.step action ≠ .panicked) ∧
    (∀ action next index port pool point handle, stack.step action = .next next →
      stack.actors[index]? = some (.listener port pool point) → handle ∈ pool ++ point.inHand →
      action ≠ .act index .drop →
      (∀ error fresh, point = .failed handle error → action ≠ .act index (.advance fresh)) →
      HandedOn next index handle) ∧
    (Documented smoltcp → ∀ actor ∈ stack.actors, ∀ port pool handle error,
      actor ≠ .listener port pool (.failed handle error)) := by
  have balanced := balanced_of_reachable reached
  refine ⟨?_, ?_, ?_, ?_⟩
  · intro handle kind
    exact balanced.tokens (handle, kind)
  · intro action
    exact (balanced.step action).not_panicked
  · intro action next index port pool point handle taken found member notDropped notFailed
    exact step_handsOn taken found member notDropped notFailed
  · rintro documented actor member port pool handle error rfl
    exact serving_of_reachable documented reached _ member

theorem handle_ownership_accepted :
    ∃ stack : Stack .reference, Reachable Stack.step Stack.Initial stack ∧
      stack.actors = [.listener 80 [2, 3] .idle, .stream ⟨[10, 0, 0, 2], 5000⟩ 1 false false false] ∧
      stack.holders (1, .tcp) = 1 ∧ stack.step (.act 0 .drop) ≠ .panicked := by
  let arrival : PollEffect .reference :=
    ⟨id, fun handle (socket : ReferenceTcp) =>
      if handle = 1 then { socket with state := .established, remote := some ⟨[10, 0, 0, 2], 5000⟩ }
      else socket, fun _ => id, fun _ => id⟩
  let actions : List (Action .reference) :=
    [.call (.listen 80 2 0), .act 0 (.advance 0), .act 0 (.advance 0), .act 0 (.advance 1), .act 0 (.advance 2),
      .act 0 (.advance 0), .act 0 (.advance 0), .poll arrival ⟨fun _ => true, fun _ => true, false⟩,
      .act 0 (.poll .accept), .act 0 (.advance 3), .act 0 (.advance 0), .act 0 (.advance 0)]
  let connected : ReferenceTcp := ⟨.established, [], [], 80, some ⟨[10, 0, 0, 2], 5000⟩⟩
  let listening : ReferenceTcp := ⟨.listen, [], [], 80, none⟩
  let stack : Stack .reference :=
    { shared :=
        { inner :=
            { iface := ()
              sockets := [some (.dns []), some (.tcp connected), some (.tcp listening), some (.tcp listening)]
              dns := some 0, now := 0, nextPort := ephemeralFirst, closing := [], tcpBufferBytes := 65536 }
          slots := ⟨1, false⟩, dnsPermits := 8, stopped := false, config := ⟨true, false⟩ }
      pump := .running
      actors := [.listener 80 [2, 3] .idle, .stream ⟨[10, 0, 0, 2], 5000⟩ 1 false false false] }
  have reached : Reachable Stack.step Stack.Initial stack :=
    ⟨.start ⟨true, false⟩ () true 0 65536, actions, ⟨_, _, _, _, _, rfl⟩, run_of_execute rfl⟩
  obtain ⟨owners, calm, -, -⟩ := handle_ownership reached
  refine ⟨stack, reached, rfl, ?_, calm _⟩
  rw [owners]
  rfl

end ProxyTunnels.Wireguard
