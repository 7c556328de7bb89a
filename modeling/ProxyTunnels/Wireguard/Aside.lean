import ProxyTunnels.Wireguard.Conservation

/-! What has nothing to do with name resolution leaves the resolver alone.

The resolver's handle belongs to the locked state, not to an actor, so that only resolutions
touch its socket does not follow from who owns which handle. It follows from what the other
calls write: sockets of the other two kinds.
-/

set_option autoImplicit false

namespace ProxyTunnels.Wireguard
open Machine

section Aside
variable {smoltcp : Smoltcp} {inner next : Inner smoltcp} {handle : Handle}

theorem Inner.getDns_eq_some {socket : smoltcp.Dns} :
    inner.getDns handle = some socket ↔ inner.sockets.get handle = some (.dns socket) := by
  unfold Inner.getDns
  split
  · next found => simp [found]
  · next other => simpa using other socket

def Inner.SameDns (inner next : Inner smoltcp) : Prop :=
  Slab.Inherits (fun socket => socket.kind = .dns) inner.sockets next.sockets

theorem Inner.SameDns.getDns {socket : smoltcp.Dns} (same : inner.SameDns next)
    (found : next.getDns handle = some socket) : inner.getDns handle = some socket := by
  rw [Inner.getDns_eq_some] at found ⊢
  exact same handle (.dns socket) rfl found

structure Inner.Beside (inner next : Inner smoltcp) : Prop where
  dns : inner.SameDns next
  port : next.nextPort = inner.nextPort

theorem Inner.Beside.refl (inner : Inner smoltcp) : inner.Beside inner := ⟨Slab.Inherits.refl _, rfl⟩

theorem Inner.Beside.trans {final : Inner smoltcp} (first : inner.Beside next) (second : next.Beside final) :
    inner.Beside final :=
  ⟨Slab.Inherits.trans first.dns second.dns, second.port.trans first.port⟩

theorem Inner.beside_put {socket : Socket smoltcp} (other : socket.kind ≠ .dns) :
    inner.Beside (inner.put handle socket) :=
  ⟨Slab.inherits_set fun _ written => Option.some.inj written ▸ other, rfl⟩

theorem Inner.beside_putTcp {socket : smoltcp.Tcp} : inner.Beside (inner.put handle (.tcp socket)) :=
  Inner.beside_put nofun

theorem Inner.beside_putUdp {socket : smoltcp.Udp} : inner.Beside (inner.put handle (.udp socket)) :=
  Inner.beside_put nofun

theorem Inner.beside_add {socket : Socket smoltcp} (other : socket.kind ≠ .dns) :
    inner.Beside (inner.add handle socket) :=
  ⟨Slab.inherits_insert other, rfl⟩

theorem Inner.Beside.of_retire {counted : Bool} (beside : inner.Beside next) :
    inner.Beside (next.retire handle counted) :=
  ⟨beside.dns, beside.port⟩

theorem Inner.discard_beside : (inner.discard handle).Ensures inner.Beside := by
  unfold Inner.discard
  split
  · exact trivial
  · exact ⟨Slab.inherits_set nofun, rfl⟩

theorem Inner.updateTcp_beside {change : smoltcp.Tcp → smoltcp.Tcp} :
    (inner.updateTcp handle change).Ensures inner.Beside := by
  unfold Inner.updateTcp
  split
  · exact trivial
  · exact Inner.beside_putTcp

theorem Inner.abortDiscard_beside : (inner.abortDiscard handle).Ensures inner.Beside :=
  Outcome.ensures_bind fun _ aborted =>
    Inner.discard_beside.mono fun _ => (Inner.updateTcp_beside.of_next aborted).trans

theorem Inner.abortDiscardAll_beside {pool : List Handle} :
    (inner.abortDiscardAll pool).Ensures inner.Beside := by
  induction pool generalizing inner with
  | nil => exact Inner.Beside.refl inner
  | cons handle rest ih =>
    refine Outcome.ensures_bind fun middle discarded => ?_
    exact ih.mono fun _ => (Inner.abortDiscard_beside.of_next discarded).trans

theorem Inner.listenOne_beside {port : UInt16} :
    (inner.listenOne port handle).Ensures fun result => inner.Beside result.1 := by
  have added : inner.Beside (inner.addTcpSocket handle) := Inner.beside_add nofun
  unfold Inner.listenOne
  dsimp only
  split
  · exact trivial
  · split
    · exact added.trans (Inner.beside_putTcp)
    · refine Outcome.ensures_bind fun middle discarded => ?_
      exact added.trans (Inner.discard_beside.of_next discarded)

theorem scanPool_beside {port : UInt16} {pool : List Handle} {index : Nat} :
    (scanPool port pool index inner).Ensures fun result => inner.Beside result.2 := by
  induction pool generalizing inner index with
  | nil => exact Inner.Beside.refl inner
  | cons handle rest ih =>
    -- Listening again is all the scan does to a socket on its way.
    have onward : ∀ middle : Inner smoltcp, inner.Beside middle →
        (scanPool port rest (index + 1) middle).Ensures fun result => inner.Beside result.2 :=
      fun middle beside => ih.mono fun _ => beside.trans
    have untouched : inner.Beside inner := Inner.Beside.refl inner
    unfold scanPool
    cases inner.getTcp handle with
    | none => exact trivial
    | some socket =>
      dsimp only
      split
      · exact untouched
      · split
        · cases smoltcp.listen socket port with
          | ok again => exact onward _ (Inner.beside_putTcp)
          | error _ => exact onward _ untouched
        · exact onward _ untouched

theorem reclaimLoop_beside {now : Nat} {underPressure : Bool} {rounds index : Nat}
    {state : Inner smoltcp × SocketSlots} :
    (reclaimLoop now underPressure rounds index state).Ensures fun result => state.1.Beside result.1 := by
  induction rounds generalizing index state with
  | zero => exact Inner.Beside.refl _
  | succ rounds ih =>
    obtain ⟨inner, slots⟩ := state
    unfold reclaimLoop
    split
    · exact Inner.Beside.refl _
    · split
      · exact trivial
      · dsimp only
        split
        · exact ih
        · refine Outcome.ensures_bind fun middle removed => ?_
          have gone : inner.Beside middle := by
            split at removed
            · exact Inner.discard_beside.of_next removed
            · exact Inner.abortDiscard_beside.of_next removed
          exact ih.mono fun _ later => gone.trans ⟨later.dns, later.port⟩

def followingPort (port : UInt16) : UInt16 := if port = ephemeralLast then ephemeralFirst else port + 1

/-- Whom a step hands an ephemeral port to: a dial, by its far end, or a UDP socket. -/
def Actor.handsOut : Actor smoltcp → Input → Option (Option SocketAddr)
  | .connecting remote .start, .advance _ => some (some remote)
  | .binding port _ _ .start, .advance _ => if port = 0 then some none else none
  | _, _ => none

def Shared.portAfter (shared : Shared smoltcp) (actor : Actor smoltcp) (input : Input) : UInt16 :=
  if (actor.handsOut input).isSome then followingPort shared.inner.nextPort else shared.inner.nextPort

/-- A step that has nothing to do with name resolution; `port` is handed out next. -/
structure Aside (shared : Shared smoltcp) (port : UInt16) (effect : Effect smoltcp) : Prop where
  permits : effect.shared.dnsPermits = shared.dnsPermits
  sockets : shared.inner.SameDns effect.shared.inner
  port : effect.shared.inner.nextPort = port

variable {shared : Shared smoltcp} {actor new : Actor smoltcp} {input : Input}

theorem Aside.setInner (beside : shared.inner.Beside next) :
    Aside shared shared.inner.nextPort ⟨shared.setInner next, new, []⟩ :=
  ⟨rfl, beside.dns, beside.port⟩

theorem Aside.release : Aside shared shared.inner.nextPort ⟨shared.releaseSocket, new, []⟩ :=
  ⟨rfl, Slab.Inherits.refl _, rfl⟩

theorem claimSocket_aside (point : Claim) :
    (shared.claimSocket point).Ensures fun result =>
      result.1.dnsPermits = shared.dnsPermits ∧ shared.inner.Beside result.1.inner := by
  cases point with
  | load => exact ⟨rfl, Inner.Beside.refl _⟩
  | reclaim =>
    refine Outcome.ensures_bind fun state reclaimed => ?_
    exact ⟨rfl, reclaimLoop_beside.of_next reclaimed⟩
  | update =>
    unfold Shared.claimSocket
    dsimp only
    split
    · exact ⟨rfl, Inner.Beside.refl _⟩
    · exact ⟨rfl, Inner.Beside.refl _⟩

theorem Aside.claim {point : Claim} {middle : Shared smoltcp} {claimed : Claimed} {spawned : List (Actor smoltcp)}
    (claiming : shared.claimSocket point = .next (middle, claimed)) :
    Aside shared shared.inner.nextPort ⟨middle, new, spawned⟩ := by
  obtain ⟨permits, beside⟩ := (claimSocket_aside point).of_next claiming
  exact ⟨permits, beside.dns, beside.port⟩

theorem Aside.draw {middle : Inner smoltcp} {port : UInt16} {remote : SocketAddr} {fresh : Handle}
    (drawn : (shared.inner.addTcpSocket fresh).nextEphemeralPort = (port, middle)) (beside : middle.Beside next) :
    Aside shared (shared.portAfter (.connecting remote .start) (.advance fresh)) ⟨shared.setInner next, new, []⟩ := by
  have added : shared.inner.Beside (shared.inner.addTcpSocket fresh) := Inner.beside_add nofun
  cases drawn
  exact ⟨rfl, Slab.Inherits.trans added.dns beside.dns, beside.port⟩

theorem Aside.bind {middle : Inner smoltcp} {port localPort : UInt16} {packets bytes : Nat} {fresh : Handle}
    (drawn : (if port = 0 then (shared.inner.addUdpSocketSized fresh packets bytes).nextEphemeralPort
      else (port, shared.inner.addUdpSocketSized fresh packets bytes)) = (localPort, middle))
    (beside : middle.Beside next) :
    Aside shared (shared.portAfter (.binding port packets bytes .start) (.advance fresh))
      ⟨shared.setInner next, new, []⟩ := by
  have added : shared.inner.Beside (shared.inner.addUdpSocketSized fresh packets bytes) := Inner.beside_add nofun
  unfold Shared.portAfter Actor.handsOut
  split at drawn
  · next ephemeral =>
    cases drawn
    simp only [if_pos ephemeral, Option.isSome_some, if_true]
    exact ⟨rfl, Slab.Inherits.trans added.dns beside.dns, beside.port⟩
  · next fixed =>
    cases drawn
    simp only [if_neg fixed, Option.isSome_none, Bool.false_eq_true, if_false]
    exact .setInner (added.trans beside)

theorem Rests.portAfter (rests : Rests shared actor input new) :
    shared.portAfter actor input = shared.inner.nextPort := by
  cases rests <;> rfl

theorem Turns.aside {effect : Effect smoltcp} (turns : Turns shared actor input effect) (quiet : ¬ actor.Resolves) :
    Aside shared (shared.portAfter actor input) effect := by
  cases turns with
  | rests rests =>
    rw [rests.portAfter]
    exact .setInner (.refl _)
  | dialClaims claiming => exact .claim claiming
  | bindClaims claiming => exact .claim claiming
  | acceptClaims claiming => exact .claim claiming
  | opens vacant drawn opened => exact .draw drawn Inner.beside_putTcp
  | unopened vacant drawn => exact .draw drawn (.refl _)
  | bound vacant drawn => exact .bind drawn Inner.beside_putUdp
  | unbound vacant drawn => exact .bind drawn (.refl _)
  | discards removed => exact .setInner (Inner.discard_beside.of_next removed)
  | unbinds removed => exact .setInner (Inner.discard_beside.of_next removed)
  | aborts removed => exact .setInner (Inner.abortDiscard_beside.of_next removed)
  | givesUp removed => exact .setInner (Inner.abortDiscard_beside.of_next removed)
  | dialReleases | bindReleases | udpReleases => exact .release
  | reads | writes => exact .setInner Inner.beside_putTcp
  | sends | receives => exact .setInner Inner.beside_putUdp
  | shutsDown closed => exact .setInner (Inner.updateTcp_beside.of_next closed)
  | closes closed => exact .setInner (Inner.updateTcp_beside.of_next closed)
  | retires => exact .setInner (.of_retire (.refl _))
  | udpDrops removed => exact .setInner (Inner.beside_putUdp.trans (Inner.discard_beside.of_next removed))
  | stocks vacant listened => exact .setInner (Inner.listenOne_beside.of_next listened)
  | unstocks vacant listened => exact .setInner (Inner.listenOne_beside.of_next listened)
  | restocks vacant listened => exact .setInner (Inner.listenOne_beside.of_next listened)
  | restocksNot vacant listened => exact .setInner (Inner.listenOne_beside.of_next listened)
  | emptiesPool dropped => exact .setInner (Inner.abortDiscardAll_beside.of_next dropped)
  | listenerDrops dropped => exact .setInner (Inner.abortDiscardAll_beside.of_next dropped)
  | scans running scanned => exact .setInner (scanPool_beside.of_next scanned)
  | takes running scanned place => exact .setInner (scanPool_beside.of_next scanned)
  | resets aborted => exact .setInner (.of_retire (Inner.updateTcp_beside.of_next aborted))
  | acquires | starts | startsNot | awaits | asksOn | resolves | cancels | cancelsNothing => exact absurd trivial quiet

theorem stepActor_aside (quiet : ¬ actor.Resolves) (input : Input) :
    (shared.stepActor actor input).Ensures (Aside shared (shared.portAfter actor input)) :=
  (stepActor_turns actor input).ensures.mono fun _ turns => turns.aside quiet

end Aside

end ProxyTunnels.Wireguard
