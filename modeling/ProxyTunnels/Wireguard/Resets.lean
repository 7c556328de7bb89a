import ProxyTunnels.Wireguard.Custody
import ProxyTunnels.Wireguard.Queue

/-! What becomes of the connections a listener refuses.

A connection that arrives while the tunnel is full is aborted and queued for reclamation; its
reset leaves with the next poll of the interface, if its socket is still in the set by then. The
machine is followed together with the refused connections no poll has come after yet. A claim on
the full tunnel makes a reclaim pass of its own, and that may come before the poll.
-/

set_option autoImplicit false

namespace ProxyTunnels.Wireguard
open Machine

section Resets
variable {smoltcp : Smoltcp}

/-- The stack, and the refused connections whose reset has not had a poll to leave with. -/
structure Resets (smoltcp : Smoltcp) where
  stack : Stack smoltcp
  unsent : List Handle

def Actor.refuses : Actor smoltcp → Input → List Handle
  | .listener _ _ (.full handle), .advance _ => [handle]
  | _, _ => []

def Resets.after (resets : Resets smoltcp) : Action smoltcp → List Handle
  | .poll _ _ => []
  | .act index input => resets.unsent ++ (resets.stack.actors[index]?).elim [] fun actor => actor.refuses input
  | _ => resets.unsent

def Resets.step (resets : Resets smoltcp) (action : Action smoltcp) : Outcome (Resets smoltcp) :=
  (resets.stack.step action).bind fun next => .next ⟨next, resets.after action⟩

structure Resets.Initial (resets : Resets smoltcp) : Prop where
  stack : resets.stack.Initial
  unsent : resets.unsent = []

def Stack.reclaims (stack : Stack smoltcp) : Action smoltcp → Bool
  | .act index input => (stack.actors[index]?).any fun actor => actor.reclaims input
  | _ => false

/-- No claim makes its reclaim pass while a refused connection waits for a poll. -/
def Resets.Patient (resets : Resets smoltcp) (action : Action smoltcp) : Prop :=
  resets.stack.reclaims action = true → resets.unsent = []

def Stack.Keeps (stack : Stack smoltcp) (handle : Handle) : Prop :=
  stack.shared.inner.kindAt handle = some .tcp ∧ handle ∈ stack.shared.inner.closing.map Closing.handle

variable {stack next : Stack smoltcp} {resets after : Resets smoltcp} {action : Action smoltcp}

theorem Balanced.keeps (balanced : Balanced stack) {handle : Handle}
    (queued : handle ∈ stack.shared.inner.closing.map Closing.handle) : stack.Keeps handle := by
  obtain ⟨entry, member, rfl⟩ := List.mem_map.mp queued
  obtain ⟨place, found⟩ := List.mem_iff_getElem?.mp member
  exact ⟨balanced.reclaimable_shared.kindAt found, queued⟩

structure Resets.Sound (resets : Resets smoltcp) : Prop where
  balanced : Balanced resets.stack
  queued : ∀ handle ∈ resets.unsent, handle ∈ resets.stack.shared.inner.closing.map Closing.handle

theorem refuses_queued {shared : Shared smoltcp} {actor : Actor smoltcp} {input : Input} {effect : Effect smoltcp}
    {handle : Handle} (refused : handle ∈ actor.refuses input) (taken : shared.stepActor actor input = .next effect) :
    handle ∈ effect.shared.inner.closing.map Closing.handle := by
  unfold Actor.refuses at refused
  split at refused
  · obtain rfl := List.mem_singleton.mp refused
    cases turns_of_step taken with
    | rests rests => cases rests
    | resets aborted => exact List.mem_map.mpr ⟨_, List.mem_append_right _ List.mem_cons_self, rfl⟩
  · cases refused

theorem Resets.Sound.step (sound : resets.Sound) (patient : resets.Patient action)
    (taken : resets.step action = .next after) : after.Sound := by
  obtain ⟨next, moved, same⟩ := Outcome.bind_eq_next taken
  cases same
  refine ⟨(sound.balanced.step action).of_next moved, ?_⟩
  cases Stack.moves_of_step moved with
  | call call => exact sound.queued
  | @act index input actor effect found stepped =>
    intro handle member
    change handle ∈ resets.unsent ++ (resets.stack.actors[index]?).elim [] _ at member
    rw [found] at member
    rcases List.mem_append.mp member with before | refused
    · have lazy : actor.reclaims input = false := by
        refine Bool.eq_false_iff.mpr fun reclaims => ?_
        rw [patient (by simp [Stack.reclaims, found, reclaims])] at before
        cases before
      obtain ⟨added, closing, -⟩ := ((stepActor_queues lazy).of_next stepped).closing
      change handle ∈ effect.shared.inner.closing.map Closing.handle
      rw [closing, List.map_append]
      exact List.mem_append_left _ (sound.queued handle before)
    · exact refuses_queued refused stepped
  | elapse => exact sound.queued
  | poll => exact nofun
  | flag => exact sound.queued
  | shut => exact sound.queued
  | notify => exact sound.queued

/-- In every run in which no claim makes a reclaim pass between a refusal and the next poll, each
refused connection keeps its socket until that poll. -/
theorem refused_connections_keep_sockets {start final : Resets smoltcp} {actions : List (Action smoltcp)}
    (initial : start.Initial) (run : RunWhile Resets.step Resets.Patient start actions final) :
    ∀ handle ∈ final.unsent, final.stack.Keeps handle := by
  have sound : final.Sound := by
    refine run.preserves ?_ ⟨balanced_start initial.stack, ?_⟩
    · intro resets action after sound patient taken
      exact sound.step patient taken
    · rw [initial.unsent]
      exact nofun
  intro handle member
  exact sound.balanced.keeps (sound.queued handle member)

end Resets

/-! A listener with two connections waiting, on a tunnel whose slots others hold. -/

section Crowd
variable {smoltcp : Smoltcp}

def Resets.patient (resets : Resets smoltcp) (action : Action smoltcp) : Bool :=
  !resets.stack.reclaims action || resets.unsent.isEmpty

theorem Resets.patient_meets (resets : Resets smoltcp) (action : Action smoltcp)
    (checked : resets.patient action = true) : resets.Patient action := by
  intro reclaims
  simpa [Resets.patient, reclaims] using checked

def established : ReferenceTcp := ⟨.established, [], [], 80, none⟩

def crowded : Stack .reference where
  shared :=
    { inner := ⟨(), [some (.tcp established), some (.tcp established)], none, 0, ephemeralFirst, [], 65536⟩
      slots := ⟨0, false⟩
      dnsPermits := 8
      stopped := false
      config := ⟨true, true⟩ }
  pump := .running
  actors := [.listener 80 [0, 1] .idle]

def reached : PollEffect .reference :=
  ⟨id, fun _ (socket : ReferenceTcp) => { socket with state := .established }, fun _ => id, fun _ => id⟩

theorem crowded_runs : RunWhile Resets.step Resets.Patient ⟨Stack.start ⟨true, true⟩ () false 0 65536, []⟩
    [.call (.listen 80 2 0), .act 0 (.advance 0), .act 0 (.advance 0), .act 0 (.advance 0), .act 0 (.advance 1),
      .act 0 (.advance 0), .poll reached ⟨fun _ => true, fun _ => true, false⟩]
    (⟨crowded, []⟩ : Resets .reference) := runWhile_of_execute Resets.patient_meets rfl

/-- The stack once others have claimed `count` slots more. -/
def Stack.claimed (stack : Stack smoltcp) (count : Nat) (callers : List (Actor smoltcp)) :
    Stack smoltcp :=
  { stack with
    shared := { stack.shared with slots := { stack.shared.slots with opened := stack.shared.slots.opened + count } }
    actors := stack.actors ++ callers }

theorem claim_runs (stack : Stack smoltcp) (remote : SocketAddr) (room : stack.shared.slots.opened < maxSockets) :
    RunWhile Resets.step Resets.Patient ⟨stack, []⟩
      [.call (.connect remote), .act stack.actors.length (.advance 0), .act stack.actors.length (.advance 0)]
      ⟨stack.claimed 1 [.connecting remote .start], []⟩ := by
  have loads : Resets.step ⟨{ stack with actors := stack.actors ++ [.connecting remote (.claim .load)] }, []⟩
      (.act stack.actors.length (.advance 0)) =
        .next ⟨{ stack with actors := stack.actors ++ [.connecting remote (.claim .update)] }, []⟩ := by
    simp [Resets.step, Stack.step, Shared.stepActor, Shared.stepConnecting, Shared.claimSocket,
      Nat.not_le_of_lt room, Outcome.bind, Shared.become, Resets.after, Actor.refuses]
  have updates : Resets.step ⟨{ stack with actors := stack.actors ++ [.connecting remote (.claim .update)] }, []⟩
      (.act stack.actors.length (.advance 0)) = .next ⟨stack.claimed 1 [.connecting remote .start], []⟩ := by
    simp [Resets.step, Stack.step, Shared.stepActor, Shared.stepConnecting, Shared.claimSocket, room,
      Outcome.bind, Shared.become, Resets.after, Actor.refuses, Stack.claimed]
  exact .next (fun _ => rfl) rfl (.next (fun _ => rfl) loads (.next (fun _ => rfl) updates .done))

theorem claims_run (stack : Stack smoltcp) (remote : SocketAddr) (count : Nat)
    (room : stack.shared.slots.opened + count ≤ maxSockets) :
    ∃ actions callers,
      RunWhile Resets.step Resets.Patient ⟨stack, []⟩ actions ⟨stack.claimed count callers, []⟩ := by
  induction count with
  | zero => exact ⟨[], [], by simpa [Stack.claimed] using RunWhile.done⟩
  | succ count ih =>
    obtain ⟨actions, callers, run⟩ := ih (by omega)
    have last := claim_runs (stack.claimed count callers) remote (by simp only [Stack.claimed]; omega)
    have same : (stack.claimed count callers).claimed 1 [.connecting remote .start] =
        stack.claimed (count + 1) (callers ++ [.connecting remote .start]) := by
      simp [Stack.claimed, Nat.add_assoc]
    rw [same] at last
    exact ⟨_, _, run.append last⟩

def refusal : List (Action .reference) :=
  [.act 0 (.advance 0), .act 0 (.poll .accept), .act 0 (.advance 2), .act 0 (.advance 0), .act 0 (.advance 0),
    .act 0 (.advance 0), .act 0 (.advance 0)]

def secondClaim : List (Action .reference) :=
  [.act 0 (.poll .accept), .act 0 (.advance 3), .act 0 (.advance 0), .act 0 (.advance 0)]

def afterRefusal (others : List (Actor .reference)) : Resets .reference where
  stack :=
    { shared :=
        { inner := ⟨(), [some (.tcp { established with state := .closed }), some (.tcp established),
            some (.tcp ⟨.listen, [], [], 80, none⟩)], none, 0, ephemeralFirst, [⟨0, 0 + linger, false⟩], 65536⟩
          slots := ⟨maxSockets, false⟩
          dnsPermits := 8
          stopped := false
          config := ⟨true, true⟩ }
      pump := .running
      actors := .listener 80 [1, 2] (.polling false) :: others }
  unsent := [0]

def beforeClaim (others : List (Actor .reference)) : Resets .reference where
  stack :=
    { shared :=
        { inner := ⟨(), [some (.tcp established), some (.tcp established), some (.tcp ⟨.listen, [], [], 80, none⟩)],
            none, 0, ephemeralFirst, [], 65536⟩
          slots := ⟨0 + 256, false⟩
          dnsPermits := 8
          stopped := false
          config := ⟨true, true⟩ }
      pump := .running
      actors := .listener 80 [1, 2] (.claim 0 none .load) :: others }
  unsent := []

theorem refusal_runs (callers : List (Actor .reference)) :
    ∃ others, RunWhile Resets.step Resets.Patient ⟨crowded.claimed 256 callers, []⟩ refusal (afterRefusal others) := by
  have takes : ∃ others, execute (fun resets action => .guarded (resets.patient action) (resets.step action))
      ⟨crowded.claimed 256 callers, []⟩ (refusal.take 3) = .next (beforeClaim others) := ⟨_, rfl⟩
  have refuses : ∀ callers, ∃ others,
      execute (fun resets action => .guarded (resets.patient action) (resets.step action))
        (beforeClaim callers) (refusal.drop 3) = .next (afterRefusal others) := fun _ => ⟨_, rfl⟩
  obtain ⟨middle, taken⟩ := takes
  obtain ⟨others, refused⟩ := refuses middle
  have first := runWhile_of_execute Resets.patient_meets taken
  exact ⟨others, first.append (runWhile_of_execute Resets.patient_meets refused)⟩

theorem refused_once : ∃ actions others, RunWhile Resets.step Resets.Patient
    ⟨Stack.start ⟨true, true⟩ () false 0 65536, []⟩ actions (afterRefusal others) := by
  obtain ⟨actions, callers, claims⟩ := claims_run crowded ⟨[10, 0, 0, 2], 80⟩ 256 (Nat.le_refl 256)
  obtain ⟨others, refuses⟩ := refusal_runs callers
  exact ⟨_, others, (crowded_runs.append claims).append refuses⟩

end Crowd

theorem refused_connections_keep_sockets_one : ∃ others, (afterRefusal others).stack.Keeps 0 := by
  obtain ⟨actions, others, run⟩ := refused_once
  exact ⟨others, refused_connections_keep_sockets ⟨⟨_, _, _, _, _, rfl⟩, rfl⟩ run 0 List.mem_cons_self⟩

/-- With a second connection waiting, the accept loop's next claim reclaims the socket of the first
before any poll. -/
theorem refused_connection_loses_socket :
    ∃ (start : Stack .reference) (before : List (Action .reference)) (refused last : Resets .reference),
      start.Initial ∧ Run Resets.step ⟨start, []⟩ before refused ∧ refused.unsent = [0] ∧
      Run Resets.step refused secondClaim last ∧ last.unsent = [0] ∧
      last.stack.shared.inner.kindAt 0 = none := by
  obtain ⟨before, others, run⟩ := refused_once
  have evaluated : ∃ last : Resets .reference, execute Resets.step (afterRefusal others) secondClaim = .next last ∧
      last.unsent = [0] ∧ last.stack.shared.inner.kindAt 0 = none := ⟨_, rfl, rfl, rfl⟩
  obtain ⟨last, executed, still, gone⟩ := evaluated
  exact ⟨_, before, _, last, ⟨_, _, _, _, _, rfl⟩, run.toRun, rfl, run_of_execute executed, still, gone⟩

end ProxyTunnels.Wireguard
