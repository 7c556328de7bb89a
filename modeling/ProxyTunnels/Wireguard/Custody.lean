import ProxyTunnels.Wireguard.Conservation
import ProxyTunnels.Wireguard.Stack

/-! The books of a whole stack balance, in every reachable state.

Every token is held once exactly when its socket is in the set, and the counter of claimed
slots is the number of slots held. One invariant carries both, together with the absence of
panics: an actor's step conserves what it holds, and the pump only changes sockets in place
and reclaims.
-/

set_option autoImplicit false

namespace ProxyTunnels.Wireguard
open Machine

section Custody
variable {smoltcp : Smoltcp} {stack next : Stack smoltcp}

def Stack.holders (stack : Stack smoltcp) (token : Token) : Nat :=
  total (owns token) stack.shared.inner.reserved +
    total (fun actor => total (owns token) actor.holds) stack.actors

/-- The unreleased slots: of guards, of live objects, and of counted closing sockets. -/
def Stack.heldSlots (stack : Stack smoltcp) : Nat :=
  total Actor.slots stack.actors + total Closing.slots stack.shared.inner.closing

structure Balanced (stack : Stack smoltcp) : Prop where
  tokens : ∀ token, stack.holders token = stack.shared.inner.present token
  slots : stack.shared.slots.opened = stack.heldSlots
  underflowed : stack.shared.slots.underflowed = false
  cap : stack.shared.slots.opened ≤ maxSockets
  resolver : ∀ actor ∈ stack.actors, actor.Resolves → stack.shared.inner.dns ≠ none

theorem balanced_start {start : Stack smoltcp} (initial : start.Initial) : Balanced start := by
  obtain ⟨config, iface, resolver, seed, bytes, rfl⟩ := initial
  refine ⟨?_, rfl, rfl, Nat.zero_le _, by simp [Stack.start]⟩
  intro token
  obtain ⟨handle, kind⟩ := token
  cases resolver with
  | false => simp [Stack.holders, Stack.start, Inner.reserved, Inner.present, Inner.kindAt, Slab.get]
  | true =>
    cases handle with
    | zero =>
      simp [Stack.holders, Stack.start, Inner.reserved, Inner.present, Inner.kindAt, Slab.get, owns,
        Socket.kind]
    | succ handle =>
      simp [Stack.holders, Stack.start, Inner.reserved, Inner.present, Inner.kindAt, Slab.get, owns]

theorem Balanced.secured (balanced : Balanced stack) {index : Nat} {actor : Actor smoltcp}
    (found : stack.actors[index]? = some actor) : Secured stack.shared actor where
  tokens token := by
    have held := balanced.tokens token
    have part := le_total (fun actor => total (owns token) actor.holds) found
    rw [total_append]
    unfold Stack.holders at held
    omega
  slots := by
    have held := balanced.slots
    have part := le_total Actor.slots found
    unfold Stack.heldSlots at held
    omega
  resolver := balanced.resolver actor (List.mem_of_getElem? found)

theorem Balanced.act (balanced : Balanced stack) {index : Nat} {actor : Actor smoltcp}
    (found : stack.actors[index]? = some actor) {effect : Effect smoltcp}
    (conserves : Conserves stack.shared actor effect) :
    Balanced { stack with
      shared := effect.shared
      actors := stack.actors.set index effect.actor ++ effect.spawned } where
  tokens token := by
    have held := balanced.tokens token
    have moved := total_set (fun actor => total (owns token) actor.holds) found effect.actor
    have law := conserves.tokens token
    unfold Stack.holders at held ⊢
    rw [total_append] at law ⊢
    rw [total_append] at law
    dsimp only at moved ⊢
    omega
  slots := by
    have held := balanced.slots
    have moved := total_set Actor.slots found effect.actor
    have law := conserves.slots
    unfold Stack.heldSlots at held ⊢
    rw [total_append]
    dsimp only
    omega
  underflowed := conserves.underflowed.trans balanced.underflowed
  cap := conserves.cap balanced.cap
  resolver other member resolves := by
    rw [conserves.dns]
    rcases List.mem_append.mp member with old | spawned
    · rcases List.mem_or_eq_of_mem_set old with kept | changed
      · exact balanced.resolver other kept resolves
      · subst changed
        exact balanced.resolver actor (List.mem_of_getElem? found) (conserves.resolver resolves)
    · exact absurd resolves (conserves.spawned other spawned)

theorem Balanced.foreign (balanced : Balanced stack) {index other : Nat} {actor bystander : Actor smoltcp}
    (found : stack.actors[index]? = some actor) (there : stack.actors[other]? = some bystander)
    (apart : index ≠ other) {token : Token} (held : token ∈ bystander.holds) (kind : Kind) :
    (token.1, kind) ∉ stack.shared.inner.reserved ++ actor.holds := by
  intro member
  have here := (balanced.secured there).kindAt_held held
  have same : kind = token.2 := Option.some.inj (((balanced.secured found).kindAt member).symm.trans here)
  subst same
  change token ∈ _ at member
  -- Both would hold the token, but the set has its socket only once.
  have shares := balanced.tokens token
  have pair := le_total_pair (fun actor => total (owns token) actor.holds) found there apart
  have own := mem_of_total_owns held
  have once : stack.shared.inner.present token = 1 := Inner.present_of_kindAt here
  have twice := mem_of_total_owns member
  rw [total_append] at twice
  unfold Stack.holders at shares
  omega

/-- One actor's step leaves the sockets of the others alone. -/
theorem Balanced.bystander (balanced : Balanced stack) {index other : Nat} {actor bystander : Actor smoltcp}
    (found : stack.actors[index]? = some actor) (there : stack.actors[other]? = some bystander)
    (apart : index ≠ other) {effect : Effect smoltcp} (conserves : Conserves stack.shared actor effect)
    {token : Token} (held : token ∈ bystander.holds) :
    effect.shared.inner.sockets.get token.1 = stack.shared.inner.sockets.get token.1 := by
  have here := (balanced.secured there).kindAt_held held
  refine conserves.frame token.1 ?_ (balanced.foreign found there apart held)
  rw [here]
  exact Option.some_ne_none _

structure Actor.SameHoldings (actor other : Actor smoltcp) : Prop where
  slots : other.slots = actor.slots
  holds : other.holds = actor.holds
  resolves : other.Resolves ↔ actor.Resolves

theorem Actor.Stirs.holdings {actor other : Actor smoltcp} (stirs : actor.Stirs other) : actor.SameHoldings other := by
  cases stirs <;> exact ⟨rfl, rfl, Iff.rfl⟩

theorem total_map {α β : Type} (weight : β → Nat) (change : α → β) (table : List α) :
    total weight (table.map change) = total (fun entry => weight (change entry)) table := by
  simp [total, Function.comp_def]

theorem Balanced.remap (balanced : Balanced stack) {change : Actor smoltcp → Actor smoltcp}
    (stirs : ∀ actor : Actor smoltcp, actor.Stirs (change actor)) {shared : Shared smoltcp} {pump : PumpPhase}
    (tokens : ∀ token, total (owns token) shared.inner.reserved + stack.shared.inner.present token =
      total (owns token) stack.shared.inner.reserved + shared.inner.present token)
    (slots : shared.slots.opened + total Closing.slots stack.shared.inner.closing =
      stack.shared.slots.opened + total Closing.slots shared.inner.closing)
    (underflowed : shared.slots.underflowed = stack.shared.slots.underflowed)
    (fewer : shared.slots.opened ≤ stack.shared.slots.opened)
    (dns : shared.inner.dns = stack.shared.inner.dns) :
    Balanced ⟨shared, pump, stack.actors.map change⟩ where
  tokens token := by
    have held := balanced.tokens token
    have law := tokens token
    have unchanged : total (fun actor => total (owns token) (change actor).holds) stack.actors =
        total (fun actor => total (owns token) actor.holds) stack.actors :=
      total_congr fun actor _ => by rw [(stirs actor).holdings.holds]
    unfold Stack.holders at held ⊢
    dsimp only
    rw [total_map, unchanged]
    omega
  slots := by
    have held := balanced.slots
    have unchanged : total (fun actor => (change actor).slots) stack.actors = total Actor.slots stack.actors :=
      total_congr fun actor _ => (stirs actor).holdings.slots
    unfold Stack.heldSlots at held ⊢
    dsimp only
    rw [total_map, unchanged]
    omega
  underflowed := underflowed.trans balanced.underflowed
  cap := Nat.le_trans fewer balanced.cap
  resolver other member resolves := by
    obtain ⟨actor, inside, rfl⟩ := List.mem_map.mp member
    dsimp only
    rw [dns]
    exact balanced.resolver actor inside ((stirs actor).holdings.resolves.mp resolves)

theorem Inner.present_interfacePoll {inner : Inner smoltcp} (effect : PollEffect smoltcp) (token : Token) :
    (inner.interfacePoll effect).present token = inner.present token := by
  unfold Inner.present
  rw [Inner.kindAt_interfacePoll]

theorem Inner.present_shutAll {inner : Inner smoltcp} (token : Token) :
    inner.shutAll.present token = inner.present token := by
  unfold Inner.present
  rw [Inner.kindAt_shutAll]

theorem Balanced.call (balanced : Balanced stack) (call : StackCall) :
    Balanced { stack with actors := stack.actors ++ [call.actor stack.shared] } := by
  have empty : (call.actor stack.shared).slots = 0 ∧ (call.actor stack.shared).holds = [] ∧
      ((call.actor stack.shared).Resolves → stack.shared.inner.dns ≠ none) := by
    cases call with
    | listen port backlog first =>
      unfold StackCall.actor
      dsimp only
      split <;> exact ⟨rfl, rfl, False.elim⟩
    | resolve host =>
      unfold StackCall.actor
      dsimp only
      split
      · exact ⟨rfl, rfl, False.elim⟩
      · next configured => exact ⟨rfl, rfl, fun _ => by simpa using configured⟩
    | _ => exact ⟨rfl, rfl, False.elim⟩
  obtain ⟨noSlot, noHandle, resolver⟩ := empty
  refine ⟨?_, ?_, balanced.underflowed, balanced.cap, ?_⟩
  · intro token
    have held := balanced.tokens token
    unfold Stack.holders at held ⊢
    rw [total_append]
    simpa [noHandle] using held
  · have held := balanced.slots
    unfold Stack.heldSlots at held ⊢
    rw [total_append]
    simpa [noSlot] using held
  · intro actor member resolves
    rcases List.mem_append.mp member with old | new
    · exact balanced.resolver actor old resolves
    · rw [List.mem_singleton] at new
      subst new
      exact resolver resolves

theorem Balanced.reclaimable_shared (balanced : Balanced stack) :
    Reclaimable (stack.shared.inner, stack.shared.slots) := by
  constructor
  · intro token
    have held := balanced.tokens token
    unfold Stack.holders Inner.reserved at held
    rw [total_append] at held
    change total (owns token) stack.shared.inner.closingTokens ≤ _
    simp only [Inner.closingTokens]
    omega
  · have held := balanced.slots
    unfold Stack.heldSlots at held
    change total Closing.slots stack.shared.inner.closing ≤ stack.shared.slots.opened
    omega

theorem Balanced.reclaimable (balanced : Balanced stack) (effect : PollEffect smoltcp) :
    Reclaimable (stack.shared.inner.interfacePoll effect, stack.shared.slots) := by
  refine ⟨fun token => ?_, balanced.reclaimable_shared.slots⟩
  rw [Inner.present_interfacePoll]
  exact balanced.reclaimable_shared.present token

theorem Balanced.poll (balanced : Balanced stack) (effect : PollEffect smoltcp) (woken : Woken) :
    (stack.step (.poll effect woken)).Satisfies Balanced := by
  refine Outcome.satisfies_guarded fun _ => ?_
  refine (reclaimFinished_reclaimed false (balanced.reclaimable effect)).bind ?_
  rintro ⟨inner, slots⟩ reclaimed
  refine balanced.remap (Actor.wake_stirs woken) ?_ reclaimed.slots reclaimed.underflowed
    reclaimed.fewer reclaimed.dns
  intro token
  have ledger := reclaimed.ledger token
  have dns : inner.dns = stack.shared.inner.dns := reclaimed.dns
  rw [Inner.present_interfacePoll] at ledger
  change total (owns token) inner.closingTokens + _ = total (owns token) stack.shared.inner.closingTokens + _
    at ledger
  simp only [Inner.closingTokens] at ledger
  simp only [Inner.reserved, total_append, dns]
  omega

theorem Balanced.stop (balanced : Balanced stack) : (stack.step .stop).Satisfies Balanced := by
  unfold Stack.step
  dsimp only
  split
  · exact ⟨balanced.tokens, balanced.slots, balanced.underflowed, balanced.cap, balanced.resolver⟩
  · refine balanced.remap (Actor.wake_stirs _) ?_ rfl rfl (Nat.le_refl _) rfl
    intro token
    change _ + _ = _ + stack.shared.inner.shutAll.present token
    rw [Inner.present_shutAll]
    rfl
  · exact balanced.remap Actor.notify_stirs (fun _ => rfl) rfl rfl (Nat.le_refl _) rfl
  · exact trivial

theorem Balanced.step (balanced : Balanced stack) (action : Action smoltcp) :
    (stack.step action).Satisfies Balanced := by
  cases action with
  | call call => exact balanced.call call
  | act index input =>
    unfold Stack.step
    dsimp only
    cases found : stack.actors[index]? with
    | none => exact trivial
    | some actor =>
      refine (stepActor_conserves actor input (balanced.secured found)).bind ?_
      intro effect conserves
      exact balanced.act found conserves
  | elapse micros =>
    exact ⟨balanced.tokens, balanced.slots, balanced.underflowed, balanced.cap, balanced.resolver⟩
  | poll effect woken => exact balanced.poll effect woken
  | stop => exact balanced.stop

/-- Every reachable stack's books balance. -/
theorem balanced_of_reachable (reached : Reachable Stack.step Stack.Initial stack) : Balanced stack :=
  reached.invariant (fun _ initial => balanced_start initial)
    fun _ action _ balanced taken => (Balanced.step balanced action).of_next taken

end Custody

/-- In every reachable state the counter of claimed slots is the number of unreleased holders;
so it stays within the cap and no release ever finds it at zero. -/
theorem slot_counter_exact {smoltcp : Smoltcp} {stack : Stack smoltcp}
    (reached : Reachable Stack.step Stack.Initial stack) :
    stack.shared.slots.opened = stack.heldSlots ∧ stack.shared.slots.opened ≤ maxSockets ∧
      stack.shared.slots.underflowed = false := by
  have balanced := balanced_of_reachable reached
  exact ⟨balanced.slots, balanced.cap, balanced.underflowed⟩

theorem slot_counter_exact_retired :
    ∃ stack : Stack .reference, Reachable Stack.step Stack.Initial stack ∧
      total Closing.slots stack.shared.inner.closing = 1 ∧ stack.heldSlots = 1 := by
  let established : PollEffect .reference :=
    ⟨id, fun _ (socket : ReferenceTcp) => { socket with state := .established }, fun _ => id, fun _ => id⟩
  let actions : List (Action .reference) :=
    [.call (.connect ⟨[10, 0, 0, 2], 80⟩), .act 0 (.advance 0), .act 0 (.advance 0), .act 0 (.advance 1),
      .poll established ⟨fun _ => false, fun _ => true, false⟩, .act 0 (.poll .connect), .act 0 .drop,
      .act 0 (.advance 0)]
  let stack : UInt16 → UInt16 → Nat → Stack .reference := fun port nextPort deadline =>
    let closing : ReferenceTcp := ⟨.finWait1, [], [], port, some ⟨[10, 0, 0, 2], 80⟩⟩
    { shared :=
        { inner :=
            { iface := (), sockets := [some (.dns []), some (.tcp closing)], dns := some 0, now := 0
              nextPort, closing := [⟨1, deadline, true⟩], tcpBufferBytes := 65536 }
          slots := ⟨1, false⟩, dnsPermits := 8, stopped := false, config := ⟨true, false⟩ }
      pump := .running
      actors := [.ended none] }
  obtain ⟨port, nextPort, deadline, ran⟩ : ∃ port nextPort deadline,
      execute Stack.step (.start ⟨true, false⟩ () true 0 65536) actions = .next (stack port nextPort deadline) :=
    ⟨_, _, _, rfl⟩
  have reached : Reachable Stack.step Stack.Initial (stack port nextPort deadline) :=
    ⟨_, actions, ⟨_, _, _, _, _, rfl⟩, run_of_execute ran⟩
  have counted := (slot_counter_exact reached).1
  exact ⟨_, reached, rfl, counted.symm⟩

end ProxyTunnels.Wireguard
