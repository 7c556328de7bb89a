import ProxyTunnels.Wireguard.Ledger

/-! What one reclaim pass takes out.

The pass walks the closing sockets by index and swap-removes the ones it is done with, so an
entry it has yet to look at may move into the place it is looking at. Its result is still that
of a filter: the entries that are spent leave with their sockets and slots, and all else stays.
-/

set_option autoImplicit false

namespace ProxyTunnels.Wireguard
open Machine

section Pass
variable {smoltcp : Smoltcp}

/-- The pass takes this entry out: its socket is closed, in TIME-WAIT where the tunnel is full,
or out of time. -/
def Inner.spent (inner : Inner smoltcp) (now : Nat) (underPressure : Bool) (entry : Closing) : Bool :=
  match inner.getTcp entry.handle with
  | none => false
  | some socket => finishedClosing smoltcp socket underPressure || decide (entry.deadline ≤ now)

structure Inner.SameQueue (inner next : Inner smoltcp) : Prop where
  now : next.now = inner.now
  closing : next.closing = inner.closing

theorem Inner.SameQueue.trans {inner middle final : Inner smoltcp} (first : inner.SameQueue middle)
    (second : middle.SameQueue final) : inner.SameQueue final :=
  ⟨second.now.trans first.now, second.closing.trans first.closing⟩

theorem Inner.discard_sameQueue (inner : Inner smoltcp) (handle : Handle) :
    (inner.discard handle).Ensures inner.SameQueue := by
  unfold Inner.discard
  split
  · exact trivial
  · exact ⟨rfl, rfl⟩

theorem Inner.updateTcp_sameQueue (inner : Inner smoltcp) (handle : Handle) (change : smoltcp.Tcp → smoltcp.Tcp) :
    (inner.updateTcp handle change).Ensures inner.SameQueue := by
  unfold Inner.updateTcp
  split
  · exact trivial
  · exact ⟨rfl, rfl⟩

theorem Inner.abortDiscard_sameQueue (inner : Inner smoltcp) (handle : Handle) :
    (inner.abortDiscard handle).Ensures inner.SameQueue := by
  refine Outcome.ensures_bind fun middle aborted => ?_
  refine (Inner.discard_sameQueue middle handle).mono fun next => ?_
  exact ((Inner.updateTcp_sameQueue inner handle _).of_next aborted).trans

structure Inner.Removes (inner next : Inner smoltcp) (handle : Handle) : Prop where
  rest : next = { inner with sockets := next.sockets }
  get : ∀ other, next.sockets.get other = if other = handle then none else inner.sockets.get other

variable {inner next : Inner smoltcp} {slots : SocketSlots} {handle : Handle} {now : Nat}
  {underPressure : Bool}

theorem Inner.discard_removes (found : inner.kindAt handle = some .tcp) :
    (inner.discard handle).Satisfies fun next => inner.Removes next handle := by
  unfold Inner.discard
  cases place : inner.sockets.get handle with
  | none => simp [Inner.kindAt, place] at found
  | some socket => exact ⟨rfl, Slab.get_remove _ _⟩

theorem Inner.abortDiscard_removes (found : inner.kindAt handle = some .tcp) :
    (inner.abortDiscard handle).Satisfies fun next => inner.Removes next handle := by
  obtain ⟨socket, place⟩ := Inner.getTcp_of_kindAt found
  unfold Inner.abortDiscard Inner.updateTcp
  rw [place]
  have taken := Inner.get_of_getTcp place
  have put := Slab.get_replace taken (Socket.tcp (smoltcp.abort socket))
  have still : (inner.put handle (.tcp (smoltcp.abort socket))).kindAt handle = some .tcp := by
    unfold Inner.kindAt Inner.put
    rw [put, if_pos rfl]
    rfl
  refine (Inner.discard_removes still).mono ?_
  intro next removes
  refine ⟨removes.rest, fun other => ?_⟩
  rw [removes.get]
  split
  · rfl
  · next apart => exact (put other).trans (if_neg apart)

theorem Inner.Removes.spent_eq (removes : inner.Removes next handle) {entry : Closing} (apart : entry.handle ≠ handle)
    (closing : List Closing) :
    Inner.spent { next with closing } now underPressure entry = inner.spent now underPressure entry := by
  unfold Inner.spent Inner.getTcp
  rw [removes.get, if_neg apart]

theorem Reclaimable.handles_apart (able : Reclaimable (inner, slots)) {first second : Nat} {one other : Closing}
    (here : inner.closing[first]? = some one) (there : inner.closing[second]? = some other)
    (apart : first ≠ second) : one.handle ≠ other.handle := by
  intro same
  have tokens : ∀ (place : Nat) (entry : Closing), inner.closing[place]? = some entry →
      inner.closingTokens[place]? = some (entry.handle, .tcp) := by
    intro place entry found
    simp [Inner.closingTokens, found]
  have both := le_total_pair (owns (one.handle, .tcp)) (tokens first one here) (tokens second other there) apart
  have present := able.present (one.handle, .tcp)
  rw [same, owns_self] at both
  rw [same] at present
  have once : inner.present (other.handle, .tcp) ≤ 1 := by
    unfold Inner.present
    split <;> omega
  dsimp only at present
  omega

theorem Reclaimable.kindAt (able : Reclaimable (inner, slots)) {index : Nat} {entry : Closing}
    (found : inner.closing[index]? = some entry) : inner.kindAt entry.handle = some .tcp := by
  have member : inner.closingTokens[index]? = some (entry.handle, .tcp) := by
    simp [Inner.closingTokens, found]
  have held := le_total (owns (entry.handle, .tcp)) member
  rw [owns_self] at held
  exact Inner.kindAt_of_present (Nat.lt_of_lt_of_le held (able.present (entry.handle, .tcp)))

/-- What a pass from `index` on leaves: of the entries from there on, those that are not spent. -/
structure Swept (now : Nat) (underPressure : Bool) (index : Nat) (before after : Inner smoltcp × SocketSlots) :
    Prop where
  closing : after.1.closing.Perm (before.1.closing.take index ++
    (before.1.closing.drop index).filter fun entry => !before.1.spent now underPressure entry)
  sockets : ∀ handle, after.1.sockets.get handle =
    if handle ∈ ((before.1.closing.drop index).filter (before.1.spent now underPressure)).map Closing.handle
    then none else before.1.sockets.get handle
  rest : after.1 = { before.1 with sockets := after.1.sockets, closing := after.1.closing }
  slots : after.2.opened +
    total Closing.slots ((before.1.closing.drop index).filter (before.1.spent now underPressure)) = before.2.opened
  underflowed : after.2.underflowed = before.2.underflowed

theorem swept_nothing {index : Nat} (beyond : inner.closing.length ≤ index) :
    Swept now underPressure index (inner, slots) (inner, slots) where
  closing := by simp [List.take_of_length_le beyond, List.drop_eq_nil_of_le beyond]
  sockets := by simp [List.drop_eq_nil_of_le beyond]
  rest := rfl
  slots := by simp [List.drop_eq_nil_of_le beyond]
  underflowed := rfl

theorem Swept.keep {index : Nat} {entry : Closing} {after : Inner smoltcp × SocketSlots}
    (found : inner.closing[index]? = some entry) (kept : inner.spent now underPressure entry = false)
    (swept : Swept now underPressure (index + 1) (inner, slots) after) :
    Swept now underPressure index (inner, slots) after := by
  obtain ⟨inside, rfl⟩ := List.getElem?_eq_some_iff.mp found
  have behind : inner.closing.drop index = inner.closing[index] :: inner.closing.drop (index + 1) :=
    List.drop_eq_getElem_cons inside
  have spent : (inner.closing.drop index).filter (inner.spent now underPressure) =
      (inner.closing.drop (index + 1)).filter (inner.spent now underPressure) := by
    rw [behind, List.filter_cons_of_neg (by simp [kept])]
  refine ⟨?_, ?_, swept.rest, ?_, swept.underflowed⟩
  · have closing := swept.closing
    dsimp only at closing ⊢
    rw [behind, List.filter_cons_of_pos (by simp [kept])]
    rw [List.take_add_one, found, List.append_assoc] at closing
    exact closing
  · intro handle
    rw [swept.sockets]
    dsimp only
    rw [spent]
  · have slots := swept.slots
    dsimp only at slots ⊢
    rw [spent]
    exact slots

theorem Swept.remove {index : Nat} {entry : Closing} {after : Inner smoltcp × SocketSlots}
    (able : Reclaimable (inner, slots)) (found : inner.closing[index]? = some entry)
    (spent : inner.spent now underPressure entry = true) (removes : inner.Removes next entry.handle)
    {released : SocketSlots} (counter : released.opened + entry.slots = slots.opened)
    (underflowed : released.underflowed = slots.underflowed)
    (swept : Swept now underPressure index
      ({ next with closing := swapRemove next.closing index }, released) after) :
    Swept now underPressure index (inner, slots) after := by
  have inside := (List.getElem?_eq_some_iff.mp found).1
  have same : next.closing = inner.closing := by rw [removes.rest]
  have behind : inner.closing.drop index = entry :: inner.closing.drop (index + 1) := by
    rw [List.drop_eq_getElem_cons inside, (List.getElem?_eq_some_iff.mp found).2]
  have moved : ((swapRemove next.closing index).drop index).Perm (inner.closing.drop (index + 1)) := by
    rw [same]
    exact drop_swapRemove_perm found
  have front : (swapRemove next.closing index).take index = inner.closing.take index := by
    rw [same]
    exact take_swapRemove inside
  -- The entries behind this one have other sockets, so they are spent now if they were before.
  have alike : ∀ other ∈ (swapRemove next.closing index).drop index,
      Inner.spent { next with closing := swapRemove next.closing index } now underPressure other =
        inner.spent now underPressure other := by
    intro other member
    obtain ⟨place, there⟩ := List.mem_iff_getElem?.mp (moved.subset member)
    rw [List.getElem?_drop] at there
    exact removes.spent_eq (able.handles_apart there found (by omega)) _
  have gone : (((swapRemove next.closing index).drop index).filter
      (Inner.spent { next with closing := swapRemove next.closing index } now underPressure)).Perm
        ((inner.closing.drop (index + 1)).filter (inner.spent now underPressure)) := by
    rw [List.filter_congr alike]
    exact moved.filter _
  have all : (inner.closing.drop index).filter (inner.spent now underPressure) =
      entry :: (inner.closing.drop (index + 1)).filter (inner.spent now underPressure) := by
    rw [behind, List.filter_cons_of_pos spent]
  refine ⟨?_, ?_, ?_, ?_, swept.underflowed.trans underflowed⟩
  · have closing := swept.closing
    dsimp only at closing ⊢
    rw [behind, List.filter_cons_of_neg (by simp [spent])]
    refine closing.trans ?_
    rw [front]
    refine List.Perm.append_left _ ?_
    rw [List.filter_congr fun other member => congrArg not (alike other member)]
    exact moved.filter _
  · intro handle
    rw [swept.sockets]
    dsimp only
    rw [all, List.map_cons, removes.get]
    have members := (gone.map Closing.handle).mem_iff (a := handle)
    by_cases here : handle = entry.handle
    · simp [here]
    · simp only [List.mem_cons, here, false_or, if_false, members]
  · have rest := swept.rest
    dsimp only at rest ⊢
    rw [rest, removes.rest]
  · have slots := swept.slots
    have weights := total_perm Closing.slots gone
    dsimp only at slots ⊢
    rw [all, total_cons]
    omega

theorem Reclaimable.release (able : Reclaimable (inner, slots)) {index : Nat} {entry : Closing}
    (found : inner.closing[index]? = some entry) :
    (if entry.counted then slots.release else slots).opened + entry.slots = slots.opened ∧
      (if entry.counted then slots.release else slots).underflowed = slots.underflowed := by
  have bound := Nat.le_trans (le_total Closing.slots found) able.slots
  unfold Closing.slots at bound ⊢
  cases counted : entry.counted with
  | false => exact ⟨rfl, rfl⟩
  | true =>
    simp only [counted, if_true] at bound ⊢
    have positive : slots.opened ≠ 0 := by omega
    simp only [SocketSlots.release, if_neg positive]
    exact ⟨by omega, trivial⟩

theorem reclaimLoop_swept (now : Nat) (underPressure : Bool) (rounds index : Nat)
    (state : Inner smoltcp × SocketSlots) (able : Reclaimable state)
    (all : index + rounds = state.1.closing.length) :
    (reclaimLoop now underPressure rounds index state).Satisfies (Swept now underPressure index state) := by
  induction rounds generalizing index state with
  | zero => exact swept_nothing (by omega)
  | succ rounds ih =>
    obtain ⟨inner, slots⟩ := state
    unfold reclaimLoop
    have inside : index < inner.closing.length := by dsimp only at all; omega
    have found : inner.closing[index]? = some inner.closing[index] := List.getElem?_eq_getElem inside
    generalize inner.closing[index] = entry at found
    have kind := able.kindAt found
    obtain ⟨socket, place⟩ := Inner.getTcp_of_kindAt kind
    have spent : inner.spent now underPressure entry =
        (finishedClosing smoltcp socket underPressure || decide (entry.deadline ≤ now)) := by
      unfold Inner.spent
      rw [place]
    rw [found]
    dsimp only
    rw [place]
    dsimp only
    split
    · next lingers =>
      have kept : inner.spent now underPressure entry = false := by
        rw [spent]
        simp only [Bool.and_eq_true, Bool.not_eq_true', decide_eq_true_eq] at lingers
        simp [lingers.1, lingers.2]
      refine (ih (index + 1) (inner, slots) able (by dsimp only at all ⊢; omega)).mono ?_
      intro after swept
      exact swept.keep found kept
    · next done =>
      have gone : inner.spent now underPressure entry = true := by
        rw [spent]
        cases finished : finishedClosing smoltcp socket underPressure with
        | true => rfl
        | false =>
          simp only [finished, Bool.not_false, Bool.true_and, decide_eq_true_eq, not_lt] at done
          simpa using done
      have leaves : (if finishedClosing smoltcp socket underPressure = true then inner.discard entry.handle
          else inner.abortDiscard entry.handle).Satisfies fun next =>
            inner.Removes next entry.handle ∧ inner.Changes next [entry.handle] [] [(entry.handle, .tcp)] := by
        split
        · exact (Inner.discard_removes kind).and (Inner.changes_discard kind)
        · exact (Inner.abortDiscard_removes kind).and (Inner.abortDiscard_changes kind)
      refine leaves.bind ?_
      rintro next ⟨removes, changes⟩
      obtain ⟨counter, underflowed⟩ := able.release found
      have shorter : (swapRemove next.closing index).length + 1 = inner.closing.length := by
        rw [changes.closing, ← List.length_cons (a := entry), (swapRemove_perm found).length_eq]
      have first := reclaimed_entry able found changes
      refine (ih index _ (first.reclaimable able) (by dsimp only at all ⊢; omega)).mono ?_
      intro after swept
      exact swept.remove able found gone removes counter underflowed

theorem Inner.discard_ne_blocked (inner : Inner smoltcp) (handle : Handle) : inner.discard handle ≠ .blocked := by
  unfold Inner.discard
  split <;> exact nofun

theorem Inner.abortDiscard_ne_blocked (inner : Inner smoltcp) (handle : Handle) :
    inner.abortDiscard handle ≠ .blocked := by
  unfold Inner.abortDiscard Inner.updateTcp
  split
  · exact nofun
  · exact Inner.discard_ne_blocked _ handle

theorem reclaimLoop_ne_blocked (now : Nat) (underPressure : Bool) (rounds index : Nat)
    (state : Inner smoltcp × SocketSlots) : reclaimLoop now underPressure rounds index state ≠ .blocked := by
  induction rounds generalizing index state with
  | zero =>
    intro blocked
    cases blocked
  | succ rounds ih =>
    obtain ⟨inner, slots⟩ := state
    unfold reclaimLoop
    split
    · intro blocked
      cases blocked
    · split
      · intro blocked
        cases blocked
      · dsimp only
        split
        · exact ih _ _
        · refine Outcome.bind_ne_blocked ?_ fun _ => ih _ _
          split
          · exact Inner.discard_ne_blocked _ _
          · exact Inner.abortDiscard_ne_blocked _ _

/-- A pass over everything returns, and leaves what it should. -/
theorem reclaimFinished_swept (underPressure : Bool) {state : Inner smoltcp × SocketSlots}
    (able : Reclaimable state) :
    ∃ after, reclaimFinished underPressure state = .next after ∧ Swept state.1.now underPressure 0 state after := by
  have swept := reclaimLoop_swept state.1.now underPressure state.1.closing.length 0 state able (Nat.zero_add _)
  have returns := reclaimLoop_ne_blocked state.1.now underPressure state.1.closing.length 0 state
  unfold reclaimFinished
  cases result : reclaimLoop state.1.now underPressure state.1.closing.length 0 state with
  | blocked => exact absurd result returns
  | panicked => exact absurd result swept.not_panicked
  | next after => exact ⟨after, rfl, swept.of_next result⟩

end Pass

end ProxyTunnels.Wireguard
