import ProxyTunnels.Wireguard.Reclaim
import ProxyTunnels.Wireguard.Turns

/-! The queue of closing sockets, as the actors use it.

An actor only ever puts a socket at its end, with the full time to linger. What takes sockets
out are the reclaim passes, of the pump and of a claim on a full tunnel.
-/

set_option autoImplicit false

namespace ProxyTunnels.Wireguard
open Machine

section Closing
variable {smoltcp : Smoltcp} {inner : Inner smoltcp} {handle : Handle}

theorem Inner.abortDiscardAll_sameQueue (inner : Inner smoltcp) (pool : List Handle) :
    (inner.abortDiscardAll pool).Ensures inner.SameQueue := by
  induction pool generalizing inner with
  | nil => exact ⟨rfl, rfl⟩
  | cons handle rest ih =>
    refine Outcome.ensures_bind fun middle gone => ?_
    refine (ih middle).mono fun next => ?_
    exact ((Inner.abortDiscard_sameQueue inner handle).of_next gone).trans

theorem Inner.listenOne_sameQueue (inner : Inner smoltcp) (port : UInt16) (handle : Handle) :
    (inner.listenOne port handle).Ensures fun result => inner.SameQueue result.1 := by
  unfold Inner.listenOne
  dsimp only
  split
  · exact trivial
  · split
    · exact ⟨rfl, rfl⟩
    · refine Outcome.ensures_bind fun middle gone => ?_
      have same := (Inner.discard_sameQueue _ _).of_next gone
      exact ⟨same.now, same.closing⟩

theorem scanPool_sameQueue (port : UInt16) (pool : List Handle) (index : Nat) (inner : Inner smoltcp) :
    (scanPool port pool index inner).Ensures fun result => inner.SameQueue result.2 := by
  induction pool generalizing inner index with
  | nil => exact ⟨rfl, rfl⟩
  | cons handle rest ih =>
    unfold scanPool
    cases inner.getTcp handle with
    | none => exact trivial
    | some socket =>
      dsimp only
      split
      · exact ⟨rfl, rfl⟩
      · split
        · cases smoltcp.listen socket port with
          | ok again => exact (ih (index + 1) _).mono fun _ same => ⟨same.now, same.closing⟩
          | error _ => exact ih (index + 1) inner
        · exact ih (index + 1) inner

def Actor.reclaims : Actor smoltcp → Input → Bool
  | .connecting _ (.claim .reclaim), .advance _ => true
  | .binding _ _ _ (.claim .reclaim), .advance _ => true
  | .listener _ _ (.claim _ _ .reclaim), .advance _ => true
  | _, _ => false

structure Queues (shared : Shared smoltcp) (effect : Effect smoltcp) : Prop where
  now : effect.shared.inner.now = shared.inner.now
  closing : ∃ added, effect.shared.inner.closing = shared.inner.closing ++ added ∧
    ∀ entry ∈ added, entry.deadline = shared.inner.now + linger

variable {shared : Shared smoltcp} {actor new : Actor smoltcp} {input : Input}

theorem Queues.of_same {effect : Effect smoltcp} (same : shared.inner.SameQueue effect.shared.inner) :
    Queues shared effect :=
  ⟨same.now, [], by rw [same.closing, List.append_nil], nofun⟩

theorem Queues.retire {next : Inner smoltcp} (same : shared.inner.SameQueue next) (counted : Bool) :
    Queues shared ⟨shared.setInner (next.retire handle counted), new, []⟩ := by
  refine ⟨same.now, [⟨handle, next.now + linger, counted⟩], congrArg (· ++ _) same.closing, ?_⟩
  intro entry member
  rw [List.mem_singleton.mp member, same.now]

theorem claimSocket_closing {point : Claim} (lazy : point ≠ .reclaim) :
    (shared.claimSocket point).Ensures fun result => result.1.inner = shared.inner := by
  cases point with
  | load => exact rfl
  | reclaim => exact absurd rfl lazy
  | update =>
    unfold Shared.claimSocket
    dsimp only
    split
    · exact rfl
    · exact rfl

theorem Queues.claim {point : Claim} {middle : Shared smoltcp} {claimed : Claimed} {spawned : List (Actor smoltcp)}
    (claiming : shared.claimSocket point = .next (middle, claimed)) (lazy : point ≠ .reclaim) :
    Queues shared ⟨middle, new, spawned⟩ := by
  have same : middle.inner = shared.inner := (claimSocket_closing lazy).of_next claiming
  refine .of_same ?_
  rw [same]
  exact ⟨rfl, rfl⟩

theorem Inner.drawUdp_sameQueue {after : Inner smoltcp} {port localPort : UInt16} {packets bytes : Nat}
    (drawn : (if port = 0 then (inner.addUdpSocketSized handle packets bytes).nextEphemeralPort
      else (port, inner.addUdpSocketSized handle packets bytes)) = (localPort, after)) : inner.SameQueue after := by
  split at drawn
  · cases drawn
    exact ⟨rfl, rfl⟩
  · cases drawn
    exact ⟨rfl, rfl⟩

theorem Turns.queues {effect : Effect smoltcp} (turns : Turns shared actor input effect)
    (lazy : actor.reclaims input = false) : Queues shared effect := by
  cases turns with
  | dialClaims claiming => exact .claim claiming (by rintro rfl; cases lazy)
  | bindClaims claiming => exact .claim claiming (by rintro rfl; cases lazy)
  | acceptClaims claiming => exact .claim claiming (by rintro rfl; cases lazy)
  | opens vacant drawn opened =>
    cases drawn
    exact .of_same ⟨rfl, rfl⟩
  | unopened vacant drawn =>
    cases drawn
    exact .of_same ⟨rfl, rfl⟩
  | bound vacant drawn => exact .of_same ⟨(Inner.drawUdp_sameQueue drawn).now, (Inner.drawUdp_sameQueue drawn).closing⟩
  | unbound vacant drawn => exact .of_same (Inner.drawUdp_sameQueue drawn)
  | discards removed => exact .of_same ((Inner.discard_sameQueue _ _).of_next removed)
  | unbinds removed => exact .of_same ((Inner.discard_sameQueue _ _).of_next removed)
  | aborts removed => exact .of_same ((Inner.abortDiscard_sameQueue _ _).of_next removed)
  | givesUp removed => exact .of_same ((Inner.abortDiscard_sameQueue _ _).of_next removed)
  | shutsDown closed => exact .of_same ((Inner.updateTcp_sameQueue _ _ _).of_next closed)
  | closes closed => exact .of_same ((Inner.updateTcp_sameQueue _ _ _).of_next closed)
  | retires => exact .retire ⟨rfl, rfl⟩ true
  | resets aborted => exact .retire ((Inner.updateTcp_sameQueue _ _ _).of_next aborted) false
  | udpDrops removed =>
    have same := (Inner.discard_sameQueue _ _).of_next removed
    exact .of_same ⟨same.now, same.closing⟩
  | stocks vacant listened => exact .of_same ((Inner.listenOne_sameQueue _ _ _).of_next listened)
  | unstocks vacant listened => exact .of_same ((Inner.listenOne_sameQueue _ _ _).of_next listened)
  | restocks vacant listened => exact .of_same ((Inner.listenOne_sameQueue _ _ _).of_next listened)
  | restocksNot vacant listened => exact .of_same ((Inner.listenOne_sameQueue _ _ _).of_next listened)
  | emptiesPool dropped => exact .of_same ((Inner.abortDiscardAll_sameQueue _ _).of_next dropped)
  | listenerDrops dropped => exact .of_same ((Inner.abortDiscardAll_sameQueue _ _).of_next dropped)
  | scans running scanned => exact .of_same ((scanPool_sameQueue _ _ _ _).of_next scanned)
  | takes running scanned place => exact .of_same ((scanPool_sameQueue _ _ _ _).of_next scanned)
  -- What is left writes sockets, slots or permits.
  | _ => exact .of_same ⟨rfl, rfl⟩

theorem stepActor_queues (lazy : actor.reclaims input = false) :
    (shared.stepActor actor input).Ensures (Queues shared) :=
  (stepActor_turns actor input).ensures.mono fun _ turns => turns.queues lazy

end Closing

end ProxyTunnels.Wireguard
