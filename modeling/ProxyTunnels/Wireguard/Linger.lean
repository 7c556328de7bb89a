import ProxyTunnels.Wireguard.Resets

/-! How long a closed socket waits for its slot.

A poll of the stack answers with the time the pump may sleep: no longer than smoltcp asks for,
and no longer than the next closing socket has left. The time left is a difference of two
instants, which smoltcp takes without its sign; the reclaim pass just before it has taken every
socket out whose deadline is past.
-/

set_option autoImplicit false

namespace ProxyTunnels.Wireguard
open Machine

def instantSub (instant other : Nat) : Nat := ((instant : Int) - other).natAbs

theorem instantSub_of_lt {deadline now : Nat} (ahead : now < deadline) :
    instantSub deadline now = deadline - now := by
  unfold instantSub
  omega

def lingerDelay (now : Nat) (closing : List Closing) : Option Nat :=
  (closing.map fun entry => instantSub entry.deadline now).min?

def shorterDelay : Option Nat → Option Nat → Option Nat
  | some first, some second => some (min first second)
  | first, second => first.or second

section Poll
variable {smoltcp : Smoltcp}

/-- `StackInner::poll`: `effect` is what the interface's poll did, `protocolDelay` what it then
said about the next one. -/
def Inner.poll (inner : Inner smoltcp) (slots : SocketSlots) (effect : PollEffect smoltcp)
    (protocolDelay : Option Nat) : Outcome (Option Nat × (Inner smoltcp × SocketSlots)) :=
  (reclaimFinished false (inner.interfacePoll effect, slots)).bind fun after =>
    .next (shorterDelay protocolDelay (lingerDelay inner.now after.1.closing), after)

/-- From any state, a pass that returns leaves no socket whose deadline is past. -/
theorem reclaimLoop_ahead (now : Nat) (underPressure : Bool) (rounds index : Nat)
    (state : Inner smoltcp × SocketSlots) (all : state.1.closing.length ≤ index + rounds)
    (passed : ∀ entry ∈ state.1.closing.take index, now < entry.deadline) :
    (reclaimLoop now underPressure rounds index state).Ensures fun after =>
      ∀ entry ∈ after.1.closing, now < entry.deadline := by
  induction rounds generalizing index state with
  | zero =>
    intro entry member
    rw [List.take_of_length_le (by omega)] at passed
    exact passed entry member
  | succ rounds ih =>
    obtain ⟨inner, slots⟩ := state
    unfold reclaimLoop
    cases found : inner.closing[index]? with
    | none =>
      intro entry member
      rw [List.take_of_length_le (List.getElem?_eq_none_iff.mp found)] at passed
      exact passed entry member
    | some entry =>
      have inside := (List.getElem?_eq_some_iff.mp found).1
      dsimp only
      cases inner.getTcp entry.handle with
      | none => exact trivial
      | some socket =>
        dsimp only
        split
        · next lingers =>
          refine ih (index + 1) (inner, slots) (by dsimp only at all ⊢; omega) ?_
          intro other member
          rw [List.take_add_one, found] at member
          rcases List.mem_append.mp member with before | here
          · exact passed other before
          · cases List.mem_singleton.mp here
            simp only [Bool.and_eq_true, decide_eq_true_eq] at lingers
            exact lingers.2
        · refine Outcome.ensures_bind fun next removed => ?_
          have same : next.closing = inner.closing := by
            split at removed
            · exact ((Inner.discard_sameQueue _ _).of_next removed).closing
            · exact ((Inner.abortDiscard_sameQueue _ _).of_next removed).closing
          have shorter : (swapRemove inner.closing index).length + 1 = inner.closing.length :=
            (swapRemove_perm found).length_eq
          -- The last entry was moved to this place, so the index stays where it is.
          refine ih index _ ?_ ?_
          · dsimp only at all ⊢
            rw [same]
            omega
          · dsimp only
            rw [same, take_swapRemove inside]
            exact passed

theorem reclaimFinished_ahead (underPressure : Bool) (state : Inner smoltcp × SocketSlots) :
    (reclaimFinished underPressure state).Ensures fun after =>
      ∀ entry ∈ after.1.closing, state.1.now < entry.deadline :=
  reclaimLoop_ahead _ _ _ 0 state (Nat.le_of_eq (Nat.zero_add _).symm) (by simp)

/-- The closing sockets a poll at `now` left, and the sleep it answered with. -/
structure Sleeps (now : Nat) (protocolDelay delay : Option Nat) (closing : List Closing) : Prop where
  ahead : ∀ entry ∈ closing, now < entry.deadline
  left : ∀ entry ∈ closing, instantSub entry.deadline now = entry.deadline - now
  linger : ∀ entry ∈ closing, ∃ sleep, delay = some sleep ∧ sleep ≤ entry.deadline - now
  protocol : ∀ asked, protocolDelay = some asked → ∃ sleep, delay = some sleep ∧ sleep ≤ asked

theorem shorterDelay_le_first (first : Nat) (second : Option Nat) :
    ∃ sleep, shorterDelay (some first) second = some sleep ∧ sleep ≤ first := by
  cases second with
  | none => exact ⟨first, rfl, Nat.le_refl first⟩
  | some second => exact ⟨_, rfl, Nat.min_le_left first second⟩

theorem shorterDelay_le_second (first : Option Nat) (second : Nat) :
    ∃ sleep, shorterDelay first (some second) = some sleep ∧ sleep ≤ second := by
  cases first with
  | none => exact ⟨second, rfl, Nat.le_refl second⟩
  | some first => exact ⟨_, rfl, Nat.min_le_right first second⟩

theorem lingerDelay_le (now : Nat) {closing : List Closing} {entry : Closing} (member : entry ∈ closing) :
    ∃ least, lingerDelay now closing = some least ∧ least ≤ instantSub entry.deadline now := by
  have inside := List.mem_map_of_mem (f := fun entry : Closing => instantSub entry.deadline now) member
  cases least : lingerDelay now closing with
  | none =>
    rw [List.min?_eq_none_iff.mp least] at inside
    cases inside
  | some least' => exact ⟨least', rfl, (List.min?_eq_some_iff.mp least).2 _ inside⟩

theorem Inner.poll_sleeps {inner : Inner smoltcp} {slots : SocketSlots} {effect : PollEffect smoltcp}
    {protocolDelay delay : Option Nat} {after : Inner smoltcp × SocketSlots}
    (polled : inner.poll slots effect protocolDelay = .next (delay, after)) :
    Sleeps inner.now protocolDelay delay after.1.closing := by
  obtain ⟨result, passed, same⟩ := Outcome.bind_eq_next polled
  cases same
  have ahead : ∀ entry ∈ after.1.closing, inner.now < entry.deadline :=
    (reclaimFinished_ahead false _).of_next passed
  refine ⟨ahead, fun entry member => instantSub_of_lt (ahead entry member), ?_, ?_⟩
  · intro entry member
    obtain ⟨least, found, bound⟩ := lingerDelay_le inner.now member
    obtain ⟨sleep, shorter, within⟩ := shorterDelay_le_second protocolDelay least
    rw [instantSub_of_lt (ahead entry member)] at bound
    exact ⟨sleep, by rw [found, shorter], Nat.le_trans within bound⟩
  · rintro asked rfl
    exact shorterDelay_le_first asked _

end Poll

section Queue
variable {smoltcp : Smoltcp} {stack next : Stack smoltcp}

theorem stepActor_passes {shared : Shared smoltcp} {actor : Actor smoltcp} {input : Input} {effect : Effect smoltcp}
    (reclaims : actor.reclaims input = true) (taken : shared.stepActor actor input = .next effect) :
    reclaimFinished true (shared.inner, shared.slots) = .next (effect.shared.inner, effect.shared.slots) := by
  have passes : ∀ {middle : Shared smoltcp} {claimed : Claimed},
      shared.claimSocket .reclaim = .next (middle, claimed) →
      reclaimFinished true (shared.inner, shared.slots) = .next (middle.inner, middle.slots) := by
    intro middle claimed claiming
    obtain ⟨result, passed, same⟩ := Outcome.bind_eq_next claiming
    cases same
    exact passed
  unfold Actor.reclaims at reclaims
  split at reclaims
  · cases turns_of_step taken with
    | rests rests => cases rests
    | dialClaims claiming => exact passes claiming
  · cases turns_of_step taken with
    | rests rests => cases rests
    | bindClaims claiming => exact passes claiming
  · cases turns_of_step taken with
    | rests rests => cases rests
    | acceptClaims claiming => exact passes claiming
  · cases reclaims

inductive Stack.Requeues (stack next : Stack smoltcp) : Prop where
  | joins (added : List Closing) :
      next.shared.inner.closing = stack.shared.inner.closing ++ added → Requeues stack next
  | sweeps (underPressure : Bool) (inner : Inner smoltcp) :
      inner.closing = stack.shared.inner.closing →
      Swept stack.shared.inner.now underPressure 0 (inner, stack.shared.slots)
        (next.shared.inner, next.shared.slots) → Requeues stack next

theorem Stack.Requeues.of_same (same : next.shared.inner.closing = stack.shared.inner.closing) :
    stack.Requeues next := .joins [] (by rw [same, List.append_nil])

theorem Balanced.claim_swept (balanced : Balanced stack) {actor : Actor smoltcp} {input : Input}
    {effect : Effect smoltcp} (reclaims : actor.reclaims input = true)
    (stepped : stack.shared.stepActor actor input = .next effect) :
    Swept stack.shared.inner.now true 0 (stack.shared.inner, stack.shared.slots)
      (effect.shared.inner, effect.shared.slots) := by
  obtain ⟨after, reclaimed, swept⟩ := reclaimFinished_swept true balanced.reclaimable_shared
  rw [stepActor_passes reclaims stepped] at reclaimed
  cases reclaimed
  exact swept

theorem Balanced.poll_swept (balanced : Balanced stack) {effect : PollEffect smoltcp} {inner : Inner smoltcp}
    {slots : SocketSlots}
    (passed : reclaimFinished false (stack.shared.inner.interfacePoll effect, stack.shared.slots) =
      .next (inner, slots)) :
    Swept stack.shared.inner.now false 0 (stack.shared.inner.interfacePoll effect, stack.shared.slots)
      (inner, slots) := by
  obtain ⟨after, reclaimed, swept⟩ := reclaimFinished_swept false (balanced.reclaimable effect)
  rw [passed] at reclaimed
  cases reclaimed
  exact swept

theorem Balanced.requeues (balanced : Balanced stack) {action : Action smoltcp}
    (taken : stack.step action = .next next) : stack.Requeues next := by
  cases Stack.moves_of_step taken with
  | call => exact .of_same rfl
  | @act index input actor effect _ stepped =>
    cases reclaims : actor.reclaims input with
    | false =>
      obtain ⟨added, joined, _⟩ := ((stepActor_queues reclaims).of_next stepped).closing
      exact .joins added joined
    | true => exact .sweeps true stack.shared.inner rfl (balanced.claim_swept reclaims stepped)
  | elapse => exact .of_same rfl
  | @poll effect woken inner slots _ passed =>
    exact .sweeps false (stack.shared.inner.interfacePoll effect) rfl (balanced.poll_swept passed)
  | flag => exact .of_same rfl
  | shut => exact .of_same rfl
  | notify => exact .of_same rfl

theorem Swept.now {now index : Nat} {underPressure : Bool} {before after : Inner smoltcp × SocketSlots}
    (swept : Swept now underPressure index before after) : after.1.now = before.1.now := by
  rw [swept.rest]

def Action.micros : Action smoltcp → Nat
  | .elapse micros => micros
  | _ => 0

theorem Balanced.clock (balanced : Balanced stack) {action : Action smoltcp}
    (taken : stack.step action = .next next) :
    next.shared.inner.now = stack.shared.inner.now + action.micros := by
  cases Stack.moves_of_step taken with
  | @act index input actor effect _ stepped =>
    cases reclaims : actor.reclaims input with
    | false => exact ((stepActor_queues reclaims).of_next stepped).now
    | true => exact (balanced.claim_swept reclaims stepped).now
  | poll _ passed => exact (balanced.poll_swept passed).now
  | _ => rfl

theorem Stack.running_before {action : Action smoltcp} (taken : stack.step action = .next next)
    (running : next.pump = .running) : stack.pump = .running := by
  cases Stack.moves_of_step taken with
  | flag before => exact before
  | shut => cases running
  | notify => cases running
  | _ => exact running

/-- A reclaim pass takes the entry out: its socket leaves the set, and the slots of all the counted
entries that leave with it are free again. -/
structure TakenOut (entry : Closing) (stack next : Stack smoltcp) : Prop where
  waited : entry ∈ stack.shared.inner.closing
  gone : entry ∉ next.shared.inner.closing
  removed : next.shared.inner.sockets.get entry.handle = none
  released : next.shared.slots.opened + total Closing.slots
    (stack.shared.inner.closing.filter fun other => other ∉ next.shared.inner.closing) = stack.shared.slots.opened

theorem Stack.Requeues.waits_or_leaves (requeues : stack.Requeues next) {entry : Closing}
    (waits : entry ∈ stack.shared.inner.closing) :
    entry ∈ next.shared.inner.closing ∨ TakenOut entry stack next := by
  cases requeues with
  | joins added joined =>
    rw [joined]
    exact .inl (List.mem_append_left added waits)
  | sweeps underPressure inner same swept =>
    have remains : ∀ other ∈ stack.shared.inner.closing, other ∈ next.shared.inner.closing ↔
        inner.spent stack.shared.inner.now underPressure other = false := by
      intro other member
      rw [swept.closing.mem_iff]
      simp [same, member]
    by_cases stays : entry ∈ next.shared.inner.closing
    · exact .inl stays
    · have spent : inner.spent stack.shared.inner.now underPressure entry = true := by
        simpa using mt (remains entry waits).mpr stays
      have leaving : (stack.shared.inner.closing.filter fun other => other ∉ next.shared.inner.closing) =
          inner.closing.filter (inner.spent stack.shared.inner.now underPressure) := by
        rw [same]
        refine List.filter_congr fun other member => ?_
        simp [remains other member]
      refine .inr ⟨waits, stays, ?_, ?_⟩
      · rw [swept.sockets, if_pos]
        refine List.mem_map.mpr ⟨entry, List.mem_filter.mpr ⟨?_, spent⟩, rfl⟩
        simpa [same] using waits
      · rw [leaving]
        exact swept.slots

end Queue

section Pump
variable {smoltcp : Smoltcp}

/-- The pump between two polls: the stack, and the time at which its sleep ends. A pump that was
given no delay sleeps until something wakes it. -/
structure Pump (smoltcp : Smoltcp) where
  stack : Stack smoltcp
  due : Option Nat

def Pump.now (pump : Pump smoltcp) : Nat := pump.stack.shared.inner.now

def Pump.closing (pump : Pump smoltcp) : List Closing := pump.stack.shared.inner.closing

inductive PumpAction (smoltcp : Smoltcp) where
  | poll (effect : PollEffect smoltcp) (woken : Woken) (protocolDelay : Option Nat)
  | meanwhile (action : Action smoltcp)

/-- One round of `pump`'s loop as far as it polls, and what happens between two of them. -/
def Pump.step (pump : Pump smoltcp) : PumpAction smoltcp → Outcome (Pump smoltcp)
  | .poll effect woken protocolDelay =>
      .guarded (pump.stack.pump = .running)
        ((pump.stack.shared.inner.poll pump.stack.shared.slots effect protocolDelay).bind
          fun (delay, inner, slots) =>
            .next
              { stack :=
                  { pump.stack with
                    shared := { pump.stack.shared with inner, slots }
                    actors := pump.stack.actors.map (Actor.wake woken) }
                due := delay.map (pump.now + ·) })
  | .meanwhile (.poll _ _) => .blocked
  | .meanwhile action => (pump.stack.step action).bind fun stack => .next { pump with stack }

/-- While the pump runs, the clock does not pass the end of its sleep without a poll. -/
def Pump.Punctual (pump : Pump smoltcp) : PumpAction smoltcp → Prop
  | .meanwhile (.elapse micros) =>
      pump.stack.pump = .running → ∀ due, pump.due = some due → pump.now + micros ≤ due
  | _ => True

def Pump.Initial (pump : Pump smoltcp) : Prop := pump.stack.Initial ∧ pump.due = none

def Pump.Reached (pump : Pump smoltcp) : Prop :=
  ∃ start past, Pump.Initial start ∧ RunWhile Pump.step Pump.Punctual start past pump

variable {pump next : Pump smoltcp}

inductive Pump.Moves (pump next : Pump smoltcp) : PumpAction smoltcp → Prop where
  | poll {effect : PollEffect smoltcp} {woken : Woken} {protocolDelay delay : Option Nat} :
      pump.stack.step (.poll effect woken) = .next next.stack →
      Sleeps pump.now protocolDelay delay next.closing → next.due = delay.map (pump.now + ·) →
      Moves pump next (.poll effect woken protocolDelay)
  | meanwhile {action : Action smoltcp} :
      pump.stack.step action = .next next.stack → next.due = pump.due → Moves pump next (.meanwhile action)

theorem Pump.moves_of_step {action : PumpAction smoltcp} (taken : pump.step action = .next next) :
    pump.Moves next action := by
  unfold Pump.step at taken
  split at taken
  · next effect woken protocolDelay =>
    obtain ⟨running, taken⟩ := Outcome.guarded_eq_next.mp taken
    obtain ⟨⟨delay, inner, slots⟩, polled, same⟩ := Outcome.bind_eq_next taken
    obtain ⟨after, passed, result⟩ := Outcome.bind_eq_next polled
    have sleeps := Inner.poll_sleeps polled
    cases same
    cases result
    refine .poll (Outcome.guarded_eq_next.mpr ⟨running, ?_⟩) sleeps rfl
    rw [passed]
    rfl
  · cases taken
  · obtain ⟨stack, moved, same⟩ := Outcome.bind_eq_next taken
    cases same
    exact .meanwhile moved rfl

theorem Pump.Moves.stack_step {action : PumpAction smoltcp} (moves : pump.Moves next action) :
    ∃ move, pump.stack.step move = .next next.stack := by
  cases moves with
  | poll stepped => exact ⟨_, stepped⟩
  | meanwhile stepped => exact ⟨_, stepped⟩

theorem Pump.Moves.balanced {action : PumpAction smoltcp} (moves : pump.Moves next action)
    (balanced : Balanced pump.stack) : Balanced next.stack := by
  obtain ⟨move, stepped⟩ := moves.stack_step
  exact (Balanced.step balanced move).of_next stepped

theorem Pump.Reached.balanced (reached : pump.Reached) : Balanced pump.stack := by
  obtain ⟨start, past, initial, run⟩ := reached
  exact run.preserves (fun _ _ _ balanced _ taken => (Pump.moves_of_step taken).balanced balanced)
    (balanced_start initial.1)

theorem Pump.Moves.waits_or_leaves {action : PumpAction smoltcp} (moves : pump.Moves next action)
    (balanced : Balanced pump.stack) {entry : Closing} (waits : entry ∈ pump.closing) :
    entry ∈ next.closing ∨ TakenOut entry pump.stack next.stack := by
  obtain ⟨move, stepped⟩ := moves.stack_step
  exact (balanced.requeues stepped).waits_or_leaves waits

def Pump.LeavesDuring (entry : Closing) (pump : Pump smoltcp) (actions : List (PumpAction smoltcp))
    (final : Pump smoltcp) : Prop :=
  Occurs Pump.step Pump.Punctual (fun before after => TakenOut entry before.stack after.stack) pump actions final

structure Pump.Awaits (pump : Pump smoltcp) (entry : Closing) : Prop where
  balanced : Balanced pump.stack
  waits : entry ∈ pump.closing
  due : pump.stack.pump = .running → ∃ due, pump.due = some due ∧ pump.now ≤ due ∧ due ≤ entry.deadline

theorem Pump.awaits_polled (balanced : Balanced pump.stack) {effect : PollEffect smoltcp} {woken : Woken}
    {protocolDelay : Option Nat} (moves : pump.Moves next (.poll effect woken protocolDelay)) {entry : Closing}
    (waits : entry ∈ next.closing) : next.Awaits entry := by
  refine ⟨moves.balanced balanced, waits, fun _ => ?_⟩
  cases moves with
  | poll stepped sleeps delayed =>
    have still : next.now = pump.now := balanced.clock stepped
    have ahead := sleeps.ahead entry waits
    obtain ⟨sleep, given, within⟩ := sleeps.linger entry waits
    refine ⟨pump.now + sleep, ?_, ?_, ?_⟩
    · rw [delayed, given]
      rfl
    · omega
    · omega

theorem Pump.Awaits.step {entry : Closing} (awaits : pump.Awaits entry) {action : PumpAction smoltcp}
    (punctual : pump.Punctual action) (taken : pump.step action = .next next) :
    next.Awaits entry ∨ TakenOut entry pump.stack next.stack := by
  have moves := Pump.moves_of_step taken
  rcases moves.waits_or_leaves awaits.balanced awaits.waits with waits | leaves
  · left
    cases moves with
    | poll stepped sleeps delayed =>
      exact Pump.awaits_polled awaits.balanced (.poll stepped sleeps delayed) waits
    | @meanwhile action stepped same =>
      refine ⟨(Balanced.step awaits.balanced action).of_next stepped, waits, fun running => ?_⟩
      have before := Stack.running_before stepped running
      obtain ⟨due, given, early, within⟩ := awaits.due before
      refine ⟨due, same.trans given, ?_, within⟩
      have clock : next.now = pump.now + action.micros := awaits.balanced.clock stepped
      rw [clock]
      -- Only time that passes moves the clock, and a punctual pump has polled by then.
      cases action with
      | elapse micros => exact punctual before due given
      | _ => exact early
  · exact .inr leaves

/-- Whatever the pump has seen waiting is taken out by its deadline, for as long as the pump runs. -/
theorem Pump.Awaits.run {entry : Closing} (awaits : pump.Awaits entry) {actions : List (PumpAction smoltcp)}
    {final : Pump smoltcp} (run : RunWhile Pump.step Pump.Punctual pump actions final) :
    final.Awaits entry ∨ Pump.LeavesDuring entry pump actions final := by
  refine run.keeps_or_occurs (Pump.Awaits · entry) _ ?_ awaits
  intro state action next awaits punctual taken
  exact awaits.step punctual taken

theorem Pump.leaves_by_poll (balanced : Balanced pump.stack) {entry : Closing} (waits : entry ∈ pump.closing)
    {actions : List (PumpAction smoltcp)} {effect : PollEffect smoltcp} {woken : Woken}
    {protocolDelay : Option Nat} {final : Pump smoltcp}
    (run : RunWhile Pump.step Pump.Punctual pump (actions ++ [.poll effect woken protocolDelay]) final)
    (late : entry.deadline ≤ final.now) :
    Pump.LeavesDuring entry pump (actions ++ [.poll effect woken protocolDelay]) final := by
  have kept : (Balanced final.stack ∧ entry ∈ final.closing) ∨
      Pump.LeavesDuring entry pump (actions ++ [.poll effect woken protocolDelay]) final := by
    refine run.keeps_or_occurs (fun pump => Balanced pump.stack ∧ entry ∈ pump.closing) _ ?_ ⟨balanced, waits⟩
    rintro state action next ⟨balanced, waits⟩ _ taken
    have moves := Pump.moves_of_step taken
    rcases moves.waits_or_leaves balanced waits with waits | leaves
    · exact .inl ⟨moves.balanced balanced, waits⟩
    · exact .inr leaves
  rcases kept with ⟨-, still⟩ | leaves
  -- What the last poll left would be due after it, not before.
  · obtain ⟨before, earlier, last⟩ := run.of_concat
    have holds : Balanced before.stack :=
      earlier.preserves (fun _ _ _ balanced _ taken => (Pump.moves_of_step taken).balanced balanced) balanced
    cases Pump.moves_of_step last with
    | poll stepped sleeps =>
      have ahead := sleeps.ahead entry still
      have same : final.now = before.now := holds.clock stepped
      omega
  · exact leaves

theorem Inner.poll_returns {stack : Stack smoltcp} (balanced : Balanced stack) (effect : PollEffect smoltcp)
    (protocolDelay : Option Nat) :
    ∃ delay after, stack.shared.inner.poll stack.shared.slots effect protocolDelay = .next (delay, after) := by
  obtain ⟨after, passed, _⟩ := reclaimFinished_swept false (balanced.reclaimable effect)
  unfold Inner.poll
  rw [passed]
  exact ⟨_, _, rfl⟩

end Pump

/-- From any state a poll that returns leaves only closing sockets whose deadlines are ahead, and
the sleep it answers with is no longer than the least time one of them has left, nor than smoltcp
asked for. In every run of a pump that polls in time, polls return; a closing socket that a poll
has left is never overdue while the pump runs; and a poll at or after its deadline finds or leaves
it taken out, with its slot released if it held one. -/
theorem linger_bounded {smoltcp : Smoltcp} :
    (∀ (inner : Inner smoltcp) (slots : SocketSlots) (effect : PollEffect smoltcp)
      (protocolDelay delay : Option Nat) (after : Inner smoltcp × SocketSlots),
      inner.poll slots effect protocolDelay = .next (delay, after) →
        Sleeps inner.now protocolDelay delay after.1.closing) ∧
    (∀ pump : Pump smoltcp, pump.Reached →
      (∀ effect protocolDelay, ∃ delay after,
        pump.stack.shared.inner.poll pump.stack.shared.slots effect protocolDelay = .next (delay, after)) ∧
      (∀ entry ∈ pump.closing, ∀ actions effect woken protocolDelay final,
        RunWhile Pump.step Pump.Punctual pump (actions ++ [.poll effect woken protocolDelay]) final →
        entry.deadline ≤ final.now →
        Pump.LeavesDuring entry pump (actions ++ [.poll effect woken protocolDelay]) final) ∧
      (∀ effect woken protocolDelay polled, pump.step (.poll effect woken protocolDelay) = .next polled →
        ∀ entry ∈ polled.closing, ∀ actions final, RunWhile Pump.step Pump.Punctual polled actions final →
        final.stack.pump = .running → (entry ∈ final.closing ∧ final.now ≤ entry.deadline) ∨
          Pump.LeavesDuring entry polled actions final)) := by
  refine ⟨fun _ _ _ _ _ _ polled => Inner.poll_sleeps polled, fun pump reached => ?_⟩
  have balanced := reached.balanced
  refine ⟨fun effect protocolDelay => Inner.poll_returns balanced effect protocolDelay, ?_, ?_⟩
  · intro entry waits actions effect woken protocolDelay final run late
    exact Pump.leaves_by_poll balanced waits run late
  · intro effect woken protocolDelay polled taken entry waits actions final run running
    have seen := Pump.awaits_polled balanced (Pump.moves_of_step taken) waits
    rcases seen.run run with awaits | leaves
    · obtain ⟨due, _, early, within⟩ := awaits.due running
      exact .inl ⟨awaits.waits, Nat.le_trans early within⟩
    · exact .inr leaves

section Dropped

def quiet : PollEffect .reference := ⟨id, fun _ => id, fun _ => id, fun _ => id⟩

def nobody : Woken := ⟨fun _ => false, fun _ => false, false⟩

def droppedStream : List (PumpAction .reference) :=
  [.meanwhile (.call (.connect ⟨[10, 0, 0, 2], 80⟩)), .meanwhile (.act 0 (.advance 0)),
    .meanwhile (.act 0 (.advance 0)), .meanwhile (.act 0 (.advance 0)), .poll reached nobody none,
    .meanwhile (.act 0 (.poll .connect)), .meanwhile (.act 0 .drop), .meanwhile (.act 0 (.advance 0))]

def lingering : Pump .reference where
  stack :=
    { shared :=
        { inner := ⟨(), [some (.tcp ⟨.finWait1, [], [], ephemeralFirst, some ⟨[10, 0, 0, 2], 80⟩⟩)], none, 0,
            ephemeralFirst + 1, [⟨0, linger, true⟩], 65536⟩
          slots := ⟨1, false⟩
          dnsPermits := 8
          stopped := false
          config := ⟨true, true⟩ }
      pump := .running
      actors := [.ended none] }
  due := none

theorem lingering_reached : lingering.Reached := by
  refine ⟨⟨Stack.start ⟨true, true⟩ () false 0 65536, none⟩, droppedStream, ⟨⟨_, _, _, _, _, rfl⟩, rfl⟩, ?_⟩
  exact .next trivial rfl (.next trivial rfl (.next trivial rfl (.next trivial rfl (.next trivial rfl
    (.next trivial rfl (.next trivial rfl (.next trivial rfl .done)))))))

end Dropped

theorem linger_bounded_dropped : ∃ final : Pump .reference, final.now = linger ∧
    Pump.LeavesDuring ⟨0, linger, true⟩ lingering
      ([.poll quiet nobody none, .meanwhile (.elapse linger)] ++ [.poll quiet nobody none]) final := by
  have runs : ∃ final : Pump .reference, final.now = linger ∧ RunWhile Pump.step Pump.Punctual lingering
      ([.poll quiet nobody none, .meanwhile (.elapse linger)] ++ [.poll quiet nobody none]) final := by
    refine ⟨_, ?_, .next trivial rfl (.next ?_ rfl (.next trivial rfl .done))⟩
    · rfl
    · intro _ due given
      cases given
      exact Nat.le_refl _
  obtain ⟨final, late, run⟩ := runs
  refine ⟨final, late, (linger_bounded.2 lingering lingering_reached).2.1 _ List.mem_cons_self _ _ _ _ _ run ?_⟩
  exact Nat.le_of_eq late.symm

end ProxyTunnels.Wireguard
