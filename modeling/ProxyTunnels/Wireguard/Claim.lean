import ProxyTunnels.Wireguard.Capacity
import ProxyTunnels.Wireguard.Custody
import ProxyTunnels.Wireguard.Reclaim

/-! A claim nobody interferes with.

Taken alone, the steps of a pass come to the loop of `reclaim_finished`, with one signal for
each slot given back, and the whole claim is decided by how many of the closing sockets that
hold a slot are spent.
-/

set_option autoImplicit false

namespace ProxyTunnels.Wireguard.Capacity
open Machine

section Alone
variable {smoltcp : Smoltcp} {state middle final : State smoltcp} {index : Nat} {thread : Thread}

/-- The thread is inside `claim_socket`. -/
def State.Claiming (state : State smoltcp) (index : Nat) : Prop :=
  ∃ enabled point, state.threads[index]? = some (.claim enabled point)

/-- The call runs and no other thread does, for as long as it has not returned. -/
def Alone (index : Nat) (state final : State smoltcp) : Prop :=
  ∃ count, RunWhile State.step (fun state _ => state.Claiming index) state
    (List.replicate count (.advance index)) final

structure Returns (index : Nat) (state final : State smoltcp) : Prop where
  alone : Alone index state final
  returned : ¬ final.Claiming index

theorem Returns.unique {other : State smoltcp} (one : Returns index state final) (two : Returns index state other) :
    final = other := by
  obtain ⟨_, run⟩ := one.alone
  obtain ⟨_, again⟩ := two.alone
  exact run.stops_once again one.returned two.returned

theorem Alone.refl (index : Nat) (state : State smoltcp) : Alone index state state := ⟨0, .done⟩

theorem Alone.step {enabled : Option Nat} {point : Point}
    (found : state.threads[index]? = some (.claim enabled point))
    (taken : state.advance index (.claim enabled point) = .next middle) (rest : Alone index middle final) :
    Alone index state final := by
  obtain ⟨count, run⟩ := rest
  refine ⟨count + 1, .next ⟨enabled, point, found⟩ ?_ run⟩
  unfold State.step
  dsimp only
  rw [found]
  exact taken

theorem Alone.trans (first : Alone index state middle) (second : Alone index middle final) :
    Alone index state final := by
  obtain ⟨before, left⟩ := first
  obtain ⟨after, right⟩ := second
  refine ⟨before + after, ?_⟩
  rw [List.replicate_add]
  exact left.append right

theorem become_threads (found : state.threads[index]? = some thread) (new : Thread) :
    (state.become index new).threads[index]? = some new :=
  getElem?_set_found found

variable {enabled : Option Nat} {pass : Pass}

theorem Alone.passing {after : State smoltcp} {onward : Option Pass}
    (found : state.threads[index]? = some (.claim enabled (.reclaim pass)))
    (passed : state.pass pass = .next (after, onward))
    (rest : Alone index (after.become index (.claim enabled (onward.elim .update .reclaim))) final) :
    Alone index state final := by
  refine rest.step found ?_
  unfold State.advance
  dsimp only
  rw [passed]
  rfl

theorem total_swapRemove {table : List Closing} {place : Nat} {entry : Closing} (found : table[place]? = some entry) :
    entry.slots + total Closing.slots (swapRemove table place) = total Closing.slots table := by
  rw [← total_cons, total_perm Closing.slots (swapRemove_perm found)]

/-- A pass that runs alone does what the loop does, and signals once for each slot it gives back. -/
theorem pass_alone (now : Nat) (underPressure : Bool) (rounds place : Nat) {result : Inner smoltcp × SocketSlots}
    (found : state.threads[index]? =
      some (.claim enabled (.reclaim ⟨now, underPressure, rounds, place, .look⟩)))
    (reclaims : reclaimLoop now underPressure rounds place (state.inner, state.slots) = .next result) :
    ∃ signals, Alone index state
        ⟨result.1, result.2, signals, state.threads.set index (.claim enabled .update)⟩ ∧
      signals + total Closing.slots result.1.closing = state.signals + total Closing.slots state.inner.closing := by
  induction rounds generalizing state place with
  | zero =>
    cases reclaims
    exact ⟨state.signals, .passing found rfl (.refl _ _), rfl⟩
  | succ rounds ih =>
    unfold reclaimLoop at reclaims
    have looks : state.pass ⟨now, underPressure, rounds + 1, place, .look⟩ =
      state.look ⟨now, underPressure, rounds + 1, place, .look⟩ := rfl
    unfold State.look at looks
    dsimp only at looks
    cases here : state.inner.closing[place]? with
    | none =>
      rw [here] at reclaims looks
      cases reclaims
      exact ⟨state.signals, .passing found looks (.refl _ _), rfl⟩
    | some entry =>
      rw [here] at reclaims looks
      dsimp only at reclaims looks
      cases socketAt : state.inner.getTcp entry.handle with
      | none =>
        rw [socketAt] at reclaims
        cases reclaims
      | some socket =>
        rw [socketAt] at reclaims looks
        dsimp only at reclaims looks
        by_cases lingers : (!finishedClosing smoltcp socket underPressure && decide (now < entry.deadline)) = true
        · rw [if_pos lingers] at reclaims looks
          obtain ⟨signals, alone, counts⟩ :=
            @ih (state.become index (.claim enabled (.reclaim ⟨now, underPressure, rounds, place + 1, .look⟩)))
              (place + 1) (become_threads found _) reclaims
          refine ⟨signals, .passing found looks ?_, counts⟩
          simpa [State.become] using alone
        · rw [if_neg lingers] at reclaims looks
          obtain ⟨inner, removed, reclaims⟩ := Outcome.bind_eq_next reclaims
          have closing : inner.closing = state.inner.closing := by
            split at removed
            · exact ((Inner.discard_sameQueue _ _).of_next removed).closing
            · exact ((Inner.abortDiscard_sameQueue _ _).of_next removed).closing
          have weights := total_swapRemove here
          rw [removed] at looks
          change _ = ite _ _ _ at looks
          rw [← closing] at weights
          cases counted : entry.counted with
          | false =>
            simp only [counted, Bool.false_eq_true, if_false] at reclaims looks
            obtain ⟨signals, alone, counts⟩ := @ih (State.become
              { state with inner := { inner with closing := swapRemove inner.closing place } } index
              (.claim enabled (.reclaim ⟨now, underPressure, rounds, place, .look⟩))) place
              (become_threads found _) reclaims
            refine ⟨signals, .passing found looks ?_, counts.trans ?_⟩
            · simpa [State.become] using alone
            · simp only [Closing.slots, counted, Bool.false_eq_true, if_false] at weights
              simp only [State.become]
              rw [← closing]
              omega
          | true =>
            simp only [counted, if_true] at reclaims looks
            obtain ⟨signals, alone, counts⟩ := @ih (State.become
              ⟨{ inner with closing := swapRemove inner.closing place }, state.slots.release, state.signals + 1,
                state.threads⟩ index
              (.claim enabled (.reclaim ⟨now, underPressure, rounds, place, .look⟩))) place
              (become_threads found _) reclaims
            -- The entry is looked at, the counter decremented, and the release signalled.
            refine ⟨signals, .passing found looks (.passing (become_threads found _) rfl
              (.passing (become_threads (become_threads found _) _) rfl ?_)), counts.trans ?_⟩
            · simpa [State.become] using alone
            · simp only [Closing.slots, counted, if_true] at weights
              simp only [State.become]
              rw [← closing]
              omega

theorem lockFree_become (free : state.lockFree = true) {new : Thread} (outside : new.holdsLock = false) :
    (state.become index new).lockFree = true := by
  refine List.all_eq_true.mpr fun other member => ?_
  rcases List.mem_or_eq_of_mem_set member with before | rfl
  · exact List.all_eq_true.mp free other before
  · rw [outside]
    rfl

def State.spent (state : State smoltcp) : List Closing :=
  state.inner.closing.filter (state.inner.spent state.inner.now true)

def State.decided (state : State smoltcp) (index : Nat) : State smoltcp :=
  if state.slots.opened < maxSockets then
    { state with slots := { state.slots with opened := state.slots.opened + 1 } }.become index .holding
  else state.become index .refused

theorem decided_threads (found : state.threads[index]? = some thread) :
    (state.decided index).threads[index]? =
      some (if state.slots.opened < maxSockets then .holding else .refused) := by
  unfold State.decided
  split
  · exact getElem?_set_found found
  · exact become_threads found _

theorem returns_decided {before : State smoltcp} (alone : Alone index before state)
    (found : state.threads[index]? = some (.claim none .update)) : Returns index before (state.decided index) := by
  constructor
  · refine alone.trans ((Alone.refl index _).step found ?_)
    unfold State.advance State.decided
    dsimp only
    split <;> rfl
  · rintro ⟨enabled, point, claiming⟩
    rw [decided_threads found] at claiming
    split at claiming <;> cases claiming

theorem claim_with_room (begins : state.threads[index]? = some (.claim none .load))
    (room : state.slots.opened < maxSockets) :
    Returns index state ((state.become index (.claim none .update)).decided index) := by
  refine returns_decided ((Alone.refl index _).step begins ?_) (become_threads begins _)
  unfold State.advance
  dsimp only
  rw [if_neg (Nat.not_le_of_lt room)]

theorem claim_when_full (able : Reclaimable (state.inner, state.slots)) (free : state.lockFree = true)
    (begins : state.threads[index]? = some (.claim none .load)) (full : maxSockets ≤ state.slots.opened) :
    ∃ after : State smoltcp, Returns index state (after.decided index) ∧
      after.threads[index]? = some (.claim none .update) ∧
      Swept state.inner.now true 0 (state.inner, state.slots) (after.inner, after.slots) ∧
      after.signals + total Closing.slots after.inner.closing =
        state.signals + total Closing.slots state.inner.closing := by
  obtain ⟨result, reclaims, swept⟩ := reclaimFinished_swept true able
  have locked := become_threads begins (.claim none .lock)
  have passes := become_threads locked (.claim none (.reclaim (state.newPass true)))
  have updates := become_threads passes (.claim none .update)
  obtain ⟨signals, alone, counts⟩ :=
    pass_alone state.inner.now true state.inner.closing.length 0 passes reclaims
  refine ⟨⟨result.1, result.2, signals, _⟩, returns_decided ((alone.step locked ?_).step begins ?_) updates,
    updates, swept, counts⟩
  · unfold State.advance
    dsimp only
    rw [lockFree_become free rfl]
    rfl
  · unfold State.advance
    dsimp only
    rw [if_pos full]

theorem decided_inner (state : State smoltcp) (index : Nat) :
    (state.decided index).inner = state.inner ∧ (state.decided index).signals = state.signals := by
  unfold State.decided
  split <;> exact ⟨rfl, rfl⟩

theorem decided_slots (room : state.slots.opened < maxSockets) :
    (state.decided index).slots = { state.slots with opened := state.slots.opened + 1 } := by
  unfold State.decided
  rw [if_pos room]
  rfl

/-- From any state whose books balance, a claim that runs alone returns, and is refused just when the
held slots without those of spent closing sockets fill the tunnel. On a full tunnel it takes out
the spent entries with their sockets and nothing else, signals once for each of their slots, and
counts the remaining holders and itself; on any other it only counts. -/
theorem claim_decided_by_spent {stack : Stack smoltcp} (balanced : Balanced stack)
    (inner : state.inner = stack.shared.inner) (slots : state.slots = stack.shared.slots)
    (begins : state.threads[index]? = some (.claim none .load)) (free : state.lockFree = true) :
    (∃ final, Returns index state final) ∧ ∀ final, Returns index state final →
      (final.threads[index]? = some .holding ∨ final.threads[index]? = some .refused) ∧
      (final.threads[index]? = some .refused ↔
        maxSockets ≤ stack.heldSlots - total Closing.slots state.spent) ∧
      (maxSockets ≤ state.slots.opened → final.threads[index]? = some .holding →
        final.inner.closing.Perm (state.inner.closing.filter fun entry =>
          !state.inner.spent state.inner.now true entry) ∧
        (∀ handle, final.inner.sockets.get handle =
          if handle ∈ state.spent.map Closing.handle then none else state.inner.sockets.get handle) ∧
        final.inner = { state.inner with sockets := final.inner.sockets, closing := final.inner.closing } ∧
        final.signals = state.signals + total Closing.slots state.spent ∧
        final.slots.opened = total Actor.slots stack.actors + total Closing.slots final.inner.closing + 1) ∧
      (state.slots.opened < maxSockets → final.threads[index]? = some .holding ∧ final.inner = state.inner ∧
        final.signals = state.signals ∧
        final.slots = { state.slots with opened := state.slots.opened + 1 }) := by
  have held : state.slots.opened = total Actor.slots stack.actors + total Closing.slots state.inner.closing := by
    rw [slots, inner]
    exact balanced.slots
  have heldSlots : stack.heldSlots = state.slots.opened := by
    rw [slots]
    exact balanced.slots.symm
  rw [heldSlots]
  rcases Nat.lt_or_ge state.slots.opened maxSockets with room | full
  · have updates := become_threads begins (.claim none .update)
    have threads := decided_threads updates
    have same := decided_inner (state.become index (.claim none .update)) index
    rw [if_pos (show (state.become index (.claim none .update)).slots.opened < maxSockets from room)] at threads
    have returns := claim_with_room begins room
    refine ⟨⟨_, returns⟩, fun final also => ?_⟩
    obtain rfl := returns.unique also
    refine ⟨.inl threads, ?_, fun full => absurd room (Nat.not_lt_of_le full),
      fun _ => ⟨threads, same.1, same.2, decided_slots room⟩⟩
    rw [threads]
    simp only [Option.some.injEq, reduceCtorEq, false_iff]
    omega
  · have able : Reclaimable (state.inner, state.slots) := by
      rw [inner, slots]
      exact balanced.reclaimable_shared
    obtain ⟨after, returns, updates, swept, counts⟩ := claim_when_full able free begins full
    have threads := decided_threads updates
    have same := decided_inner after index
    have spentSlots : after.slots.opened + total Closing.slots state.spent = state.slots.opened := swept.slots
    have kept : after.inner.closing.Perm (state.inner.closing.filter fun entry =>
        !state.inner.spent state.inner.now true entry) := swept.closing
    have parts := total_perm Closing.slots
      (List.filter_append_perm (state.inner.spent state.inner.now true) state.inner.closing)
    have keeps := total_perm Closing.slots kept
    rw [total_append] at parts
    change total Closing.slots state.spent + _ = _ at parts
    refine ⟨⟨_, returns⟩, fun final also => ?_⟩
    obtain rfl := returns.unique also
    refine ⟨?_, ?_, ?_, fun room => absurd room (Nat.not_lt_of_le full)⟩
    · rw [threads]
      split
      · exact .inl rfl
      · exact .inr rfl
    · rw [threads]
      split
      · next room =>
        simp only [Option.some.injEq, reduceCtorEq, false_iff]
        omega
      · next none =>
        simp only [true_iff]
        omega
    · intro _ holding
      have room : after.slots.opened < maxSockets := by
        by_contra none
        rw [threads, if_neg none] at holding
        cases holding
      rw [same.1, same.2, decided_slots room]
      refine ⟨kept, swept.sockets, swept.rest, by omega, ?_⟩
      dsimp only
      omega

end Alone

section Full

def retiredPair : Inner .reference where
  iface := ()
  sockets := [some (.tcp (⟨.timeWait, [], [], 49152, none⟩ : ReferenceTcp)),
    some (.tcp (⟨.finWait1, [], [], 49153, none⟩ : ReferenceTcp))]
  dns := none
  now := 0
  nextPort := 49154
  closing := [⟨0, linger, true⟩, ⟨1, linger, true⟩]
  tcpBufferBytes := 65536

def fullStack : Stack .reference where
  shared := ⟨retiredPair, ⟨maxSockets, false⟩, 8, false, ⟨true, false⟩⟩
  pump := .running
  actors := List.replicate 254 (.connecting ⟨[10, 0, 0, 2], 80⟩ .start)

theorem retiredPair_tokens (token : Token) :
    total (owns token) retiredPair.reserved = retiredPair.present token := by
  obtain ⟨handle, kind⟩ := token
  match handle with
  | 0 => cases kind <;> rfl
  | 1 => cases kind <;> rfl
  | handle + 2 => simp [retiredPair, Inner.reserved, Inner.present, Inner.kindAt, Slab.get, owns]

theorem fullStack_balanced : Balanced fullStack where
  tokens token := by
    have nothing : total (fun actor : Actor .reference => total (owns token) actor.holds) fullStack.actors = 0 := by
      refine total_eq_zero fun actor member => ?_
      obtain ⟨-, rfl⟩ := List.mem_replicate.mp member
      rfl
    exact (congrArg (total (owns token) retiredPair.reserved + ·) nothing).trans (retiredPair_tokens token)
  slots := by decide +kernel
  underflowed := rfl
  cap := Nat.le_refl _
  resolver actor member resolves := by
    rw [fullStack, List.mem_replicate] at member
    obtain ⟨-, rfl⟩ := member
    exact resolves.elim

theorem claim_decided_by_spent_full :
    ∃ final : State .reference, Returns 0 ⟨retiredPair, ⟨maxSockets, false⟩, 0, [.claim none .load]⟩ final ∧
      final.threads[0]? = some .holding ∧ final.inner.closing = [⟨1, linger, true⟩] ∧
      final.inner.sockets.get 0 = none ∧ final.signals = 1 ∧ final.slots.opened = maxSockets := by
  obtain ⟨⟨final, returns⟩, outcome⟩ := @claim_decided_by_spent .reference
    ⟨retiredPair, ⟨maxSockets, false⟩, 0, [.claim none .load]⟩ 0 fullStack fullStack_balanced rfl rfl rfl rfl
  obtain ⟨answered, refused, full, -⟩ := outcome final returns
  have holding : final.threads[0]? = some .holding := by
    refine answered.resolve_right fun denied => ?_
    exact absurd (refused.mp denied) (by decide +kernel)
  obtain ⟨closing, sockets, -, signals, slots⟩ := full (Nat.le_refl _) holding
  have left : final.inner.closing = [⟨1, linger, true⟩] := List.perm_singleton.mp closing
  refine ⟨final, returns, holding, left, sockets 0, signals, ?_⟩
  rw [slots, left]
  decide +kernel

end Full

end ProxyTunnels.Wireguard.Capacity
