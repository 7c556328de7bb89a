import Mathlib.Data.List.Nodup
import ProxyTunnels.Wireguard.Ports

/-! The two walks round the ephemeral range.

Ports for dials and UDP sockets come from the stack's counter, ports for listeners from a
search that starts anywhere. Both visit the port at some offset first and then go on one by
one, so one fact about lists serves both: a stretch as long as the range has every port of it.
-/

set_option autoImplicit false

namespace ProxyTunnels.Wireguard
open Machine

section Round
variable {offset : Nat} {ports : List UInt16} {port : UInt16}

def Ephemeral (port : UInt16) : Prop := ephemeralFirst ≤ port ∧ port ≤ ephemeralLast

def Consecutive (offset : Nat) (ports : List UInt16) : Prop :=
  ∀ place port, ports[place]? = some port →
    port.toNat = ephemeralFirst.toNat + (offset + place) % ephemeralSpan

theorem ephemeral_iff : Ephemeral port ↔ ephemeralFirst.toNat ≤ port.toNat := by
  have bound := port.toNat_lt
  have last : ephemeralLast.toNat = 65535 := rfl
  unfold Ephemeral
  rw [UInt16.le_iff_toNat_le, UInt16.le_iff_toNat_le, last]
  omega

theorem Consecutive.ephemeral (consecutive : Consecutive offset ports) (member : port ∈ ports) : Ephemeral port := by
  obtain ⟨place, found⟩ := List.mem_iff_getElem?.mp member
  rw [ephemeral_iff, consecutive place port found]
  exact Nat.le_add_right _ _

theorem Consecutive.nil : Consecutive offset [] := by
  intro place port found
  cases found

theorem Consecutive.concat (consecutive : Consecutive offset ports)
    (next : port.toNat = ephemeralFirst.toNat + (offset + ports.length) % ephemeralSpan) :
    Consecutive offset (ports ++ [port]) := by
  intro place other found
  rcases Nat.lt_or_ge place ports.length with inside | beyond
  · rw [List.getElem?_append_left inside] at found
    exact consecutive place other found
  · rw [List.getElem?_append_right beyond] at found
    obtain ⟨last, same⟩ := List.getElem?_eq_some_iff.mp found
    have here : place = ports.length := by
      rw [List.length_singleton] at last
      omega
    subst here
    simp only [Nat.sub_self, List.getElem_cons_zero] at same
    rw [← same, next]

theorem Consecutive.part {front back : List UInt16} (consecutive : Consecutive offset (front ++ ports ++ back)) :
    Consecutive (offset + front.length) ports := by
  intro place port found
  have inside : (front ++ ports ++ back)[front.length + place]? = some port := by
    obtain ⟨bound, -⟩ := List.getElem?_eq_some_iff.mp found
    rw [List.append_assoc, List.getElem?_append_right (Nat.le_add_right _ _), Nat.add_sub_cancel_left,
      List.getElem?_append_left bound, found]
  rw [consecutive _ port inside, Nat.add_assoc]

theorem Consecutive.rounds {first second : Nat} (consecutive : Consecutive offset ports) (before : first ≤ second)
    (here : ports[first]? = some port) (there : ports[second]? = some port) :
    (second - first) % ephemeralSpan = 0 := by
  have level := (consecutive first port here).symm.trans (consecutive second port there)
  exact (rotated_eq_iff before).mp (Nat.add_left_cancel level)

theorem Consecutive.covers (consecutive : Consecutive offset ports) (long : ephemeralSpan ≤ ports.length)
    (ephemeral : Ephemeral port) : port ∈ ports := by
  rw [ephemeral_iff] at ephemeral
  have bound := port.toNat_lt
  rw [ephemeralSpan_eq] at long
  -- How far behind the offset the port comes.
  obtain ⟨place, inside, reached⟩ : ∃ place < 16384, (offset + place) % 16384 = port.toNat - ephemeralFirst.toNat := by
    rw [ephemeralFirst_toNat] at *
    refine ⟨(port.toNat - 49152 + 16384 - offset % 16384) % 16384, Nat.mod_lt _ (by decide), ?_⟩
    omega
  have short : place < ports.length := Nat.lt_of_lt_of_le inside long
  have value := consecutive place _ (List.getElem?_eq_getElem short)
  rw [ephemeralSpan_eq, reached, Nat.add_sub_cancel' ephemeral] at value
  rw [← UInt16.toNat_inj.mp value]
  exact List.getElem_mem short

theorem Consecutive.nodup (consecutive : Consecutive offset ports) (short : ports.length ≤ ephemeralSpan) :
    ports.Nodup := by
  rw [List.nodup_iff_getElem?_ne_getElem?]
  intro first second before inside same
  have here := List.getElem?_eq_getElem inside
  have rounds := consecutive.rounds (Nat.le_of_lt before) (same.trans here) here
  rw [Nat.mod_eq_of_lt (by omega)] at rounds
  omega

structure Rotates (ports : List UInt16) : Prop where
  ephemeral : ∀ port ∈ ports, Ephemeral port
  once : ∀ window, window <:+: ports → window.length = ephemeralSpan →
    ∀ port, Ephemeral port → window.count port = 1
  returns : ∀ front port middle back, ports = front ++ (port :: middle) ++ port :: back →
    ∀ other, Ephemeral other → other ∈ port :: middle

theorem Consecutive.rotates (consecutive : Consecutive offset ports) : Rotates ports := by
  refine ⟨fun port member => consecutive.ephemeral member, ?_, ?_⟩
  · rintro window ⟨front, back, rfl⟩ full port ephemeral
    have part := consecutive.part
    exact List.count_eq_one_of_mem (part.nodup (Nat.le_of_eq full)) (part.covers (Nat.le_of_eq full.symm) ephemeral)
  · rintro front port middle back rfl other ephemeral
    -- The port comes back after a whole number of rounds, and not at once.
    have here : (front ++ (port :: middle) ++ port :: back)[front.length]? = some port := by simp
    have there : (front ++ (port :: middle) ++ port :: back)[front.length + (middle.length + 1)]? = some port := by
      simp
    have rounds := consecutive.rounds (Nat.le_add_right _ _) here there
    rw [Nat.add_sub_cancel_left] at rounds
    have long : ephemeralSpan ≤ (port :: middle).length :=
      Nat.le_of_dvd (Nat.succ_pos _) (Nat.dvd_of_mod_eq_zero rounds)
    exact consecutive.part.covers long ephemeral

end Round

section Counter
variable {smoltcp : Smoltcp}

/-- The ports of so many calls of `next_ephemeral_port`, and the state after them. -/
def Inner.allocate (inner : Inner smoltcp) : Nat → List UInt16 × Inner smoltcp
  | 0 => ([], inner)
  | count + 1 =>
      let (ports, inner) := inner.allocate count
      let (port, inner) := inner.nextEphemeralPort
      (ports ++ [port], inner)

theorem allocate_succ (inner : Inner smoltcp) (count : Nat) :
    (inner.allocate (count + 1)).1 = (inner.allocate count).1 ++ [(inner.allocate count).2.nextPort] := rfl

theorem allocate_length (inner : Inner smoltcp) (count : Nat) : (inner.allocate count).1.length = count := by
  induction count with
  | zero => rfl
  | succ count ih => rw [allocate_succ, List.length_append, ih, List.length_singleton]

theorem allocate_consecutive {inner : Inner smoltcp} {offset : Nat}
    (start : inner.nextPort.toNat = ephemeralFirst.toNat + offset % ephemeralSpan) (count : Nat) :
    Consecutive offset (inner.allocate count).1 ∧
      (inner.allocate count).2.nextPort.toNat = ephemeralFirst.toNat + (offset + count) % ephemeralSpan := by
  induction count with
  | zero => exact ⟨.nil, start⟩
  | succ count ih =>
    obtain ⟨consecutive, next⟩ := ih
    refine ⟨consecutive.concat ?_, followingPort_rotates next⟩
    rw [allocate_length]
    exact next

structure Handing (smoltcp : Smoltcp) where
  stack : Stack smoltcp
  log : List UInt16

def Handing.step (handing : Handing smoltcp) (action : Action smoltcp) : Outcome (Handing smoltcp) :=
  (handing.stack.step action).bind fun next => .next
    { stack := next
      log := handing.log ++
        if (handing.stack.handsOut action).isSome then [handing.stack.shared.inner.nextEphemeralPort.1] else [] }

structure Handing.Allocates (inner : Inner smoltcp) (handing : Handing smoltcp) : Prop where
  log : handing.log = (inner.allocate handing.log.length).1
  next : handing.stack.shared.inner.nextPort = (inner.allocate handing.log.length).2.nextPort

theorem Handing.Allocates.step {inner : Inner smoltcp} {handing later : Handing smoltcp} {action : Action smoltcp}
    (allocates : handing.Allocates inner) (taken : handing.step action = .next later) : later.Allocates inner := by
  obtain ⟨next, stepped, same⟩ := Outcome.bind_eq_next taken
  cases same
  have counter := nextPort_step stepped
  by_cases hands : (handing.stack.handsOut action).isSome = true
  · rw [if_pos hands] at counter
    constructor
    · dsimp only
      rw [if_pos hands, List.length_append, List.length_singleton, allocate_succ, ← allocates.log, ← allocates.next]
      rfl
    · dsimp only
      rw [if_pos hands, counter, List.length_append, List.length_singleton, allocates.next]
      rfl
  · rw [if_neg hands] at counter
    constructor
    · dsimp only
      rw [if_neg hands, List.append_nil]
      exact allocates.log
    · dsimp only
      rw [if_neg hands, List.append_nil, counter]
      exact allocates.next

theorem allocates_of_run {stack : Stack smoltcp} {handing : Handing smoltcp} {actions : List (Action smoltcp)}
    (run : Run Handing.step ⟨stack, []⟩ actions handing) : handing.Allocates stack.shared.inner := by
  refine Run.preserves ?_ run ⟨rfl, rfl⟩
  intro handing action later held taken
  exact held.step taken

end Counter

section Search
variable {listeningOn : UInt16 → Bool} {port : UInt16}

/-- `ok_or_else`, of the search for a free port. -/
def orNoPort : Option UInt16 → Except TunnelError UInt16
  | some port => .ok port
  | none => .error (.engine "the tunnel has no free port left to listen on")

/-- `free_listen_port`, with the hash it starts from. -/
def freeListenPort (listeningOn : UInt16 → Bool) (hash : UInt64) : Except TunnelError UInt16 :=
  let start := hash.toNat % ephemeralSpan
  orNoPort (((List.range ephemeralSpan).map (searchedPort start)).find? fun port => !listeningOn port)

theorem searched_consecutive (first : Nat) :
    Consecutive first ((List.range ephemeralSpan).map (searchedPort first)) := by
  intro place port found
  rw [List.getElem?_map] at found
  obtain ⟨step, ranged, same⟩ := Option.map_eq_some_iff.mp found
  obtain ⟨inside, here⟩ := List.getElem?_eq_some_iff.mp ranged
  have place : place = step := by rwa [List.getElem_range] at here
  rw [← same, ← place, searchedPort_toNat]

theorem freeListenPort_ok {hash : UInt64} (found : freeListenPort listeningOn hash = .ok port) :
    Ephemeral port ∧ listeningOn port = false := by
  unfold freeListenPort orNoPort at found
  dsimp only at found
  split at found
  · next free search =>
    cases found
    have unused := List.find?_some search
    exact ⟨(searched_consecutive _).ephemeral (List.mem_of_find?_eq_some search), by simpa using unused⟩
  · cases found

/-- The search looks at every port, so it fails only if all are in use. -/
theorem freeListenPort_error {hash : UInt64} {error : TunnelError}
    (failed : freeListenPort listeningOn hash = .error error) :
    error = .engine "the tunnel has no free port left to listen on" ∧
      ∀ port, Ephemeral port → listeningOn port = true := by
  unfold freeListenPort orNoPort at failed
  dsimp only at failed
  split at failed
  · cases failed
  · next search =>
    cases failed
    refine ⟨rfl, fun port ephemeral => ?_⟩
    have long : ephemeralSpan ≤ ((List.range ephemeralSpan).map
        (searchedPort (hash.toNat % ephemeralSpan))).length := by simp
    have seen := (searched_consecutive _).covers long ephemeral
    simpa using List.find?_eq_none.mp search port seen

variable {smoltcp : Smoltcp} {stack : Stack smoltcp} {index backlog : Nat}

def Actor.searched (backlog : Nat) : Except TunnelError UInt16 → Actor smoltcp
  | .ok port => .listening backlog (.bind port)
  | .error error => .ended (some error)

theorem Stack.step_become {actor new : Actor smoltcp} {input : Input} (found : stack.actors[index]? = some actor)
    (becomes : stack.shared.stepActor actor input = stack.shared.become new) :
    stack.step (.act index input) = .next { stack with actors := stack.actors.set index new } := by
  unfold Stack.step
  simp only [found, becomes, Shared.become, Outcome.bind, List.append_nil]

theorem search_runs {first : Nat} (left step : Nat) (total : step + left = ephemeralSpan)
    (found : stack.actors[index]? = some (.listening backlog (.search first step))) :
    ∃ actions, Run Stack.step stack actions { stack with
      actors := stack.actors.set index (.searched backlog (orNoPort
        (((List.range' step left).map (searchedPort first)).find? fun port =>
          !stack.shared.inner.listeningOn port))) } := by
  induction left generalizing stack step with
  | zero =>
    have exhausted : ephemeralSpan ≤ step := Nat.le_of_eq total.symm
    have ends : stack.shared.stepActor (.listening backlog (.search first step)) (.advance 0) =
        stack.shared.become (.searched backlog (orNoPort none)) := if_pos exhausted
    exact ⟨_, .single trivial (Stack.step_become found ends)⟩
  | succ left ih =>
    have more : ¬ ephemeralSpan ≤ step := by omega
    rw [List.range'_succ, List.map_cons, List.find?_cons]
    cases used : stack.shared.inner.listeningOn (searchedPort first step) with
    | false =>
      have binds : stack.shared.stepActor (.listening backlog (.search first step)) (.advance 0) =
          stack.shared.become (.searched backlog (orNoPort (some (searchedPort first step)))) := by
        refine (if_neg more).trans (if_neg ?_)
        rw [used]
        exact Bool.false_ne_true
      exact ⟨_, .single trivial (Stack.step_become found binds)⟩
    | true =>
      have goesOn : stack.shared.stepActor (.listening backlog (.search first step)) (.advance 0) =
          stack.shared.become (.listening backlog (.search first (step + 1))) :=
        (if_neg more).trans (if_pos used)
      have inside := (List.getElem?_eq_some_iff.mp found).1
      obtain ⟨actions, run⟩ := @ih { stack with
        actors := stack.actors.set index (.listening backlog (.search first (step + 1))) } (step + 1) (by omega)
        (List.getElem?_set_self inside)
      rw [List.set_set] at run
      exact ⟨_, .next trivial (Stack.step_become found goesOn) run⟩

/-- A search that nobody comes between ends as `free_listen_port` does. -/
theorem search_alone {hash : UInt64}
    (found : stack.actors[index]? = some (.listening backlog (.search (hash.toNat % ephemeralSpan) 0))) :
    ∃ actions, Run Stack.step stack actions { stack with
      actors := stack.actors.set index (.searched backlog (freeListenPort stack.shared.inner.listeningOn hash)) } := by
  have run := search_runs ephemeralSpan 0 (Nat.zero_add _) found
  rwa [← List.range_eq_range'] at run

end Search

/-- The stack's counter hands out every port of the range once a round, from whatever seed it starts, and
a search for a free port of the range finds one if there is one. -/
theorem ephemeral_ports_rotate {smoltcp : Smoltcp} (config : StackConfig) (iface : smoltcp.Iface) (resolver : Bool)
    (seed : UInt64) (bytes : Nat) :
    (Stack.start config iface resolver seed.toNat bytes).shared.inner.nextPort.toNat =
      ephemeralFirst.toNat + seed.toNat % ephemeralSpan ∧
    (∀ count ports inner, (Stack.start config iface resolver seed.toNat bytes).shared.inner.allocate count =
        (ports, inner) →
      ports.length = count ∧ Rotates ports ∧ Ephemeral inner.nextPort ∧
        (inner.nextPort ≠ ephemeralLast → (inner.nextPort + 1).toNat = inner.nextPort.toNat + 1)) ∧
    (∀ actions handing, Run Handing.step ⟨Stack.start config iface resolver seed.toNat bytes, []⟩ actions handing →
      Rotates handing.log) ∧
    ∀ (listeningOn : UInt16 → Bool) (hash : UInt64),
      (∀ port, freeListenPort listeningOn hash = .ok port → Ephemeral port ∧ listeningOn port = false) ∧
      ((∃ port, Ephemeral port ∧ listeningOn port = false) → ∃ port, freeListenPort listeningOn hash = .ok port) ∧
      ∀ error, freeListenPort listeningOn hash = .error error →
        error = .engine "the tunnel has no free port left to listen on" ∧
          ∀ port, Ephemeral port → listeningOn port = true := by
  have start : (Stack.start config iface resolver seed.toNat bytes).shared.inner.nextPort.toNat =
      ephemeralFirst.toNat + seed.toNat % ephemeralSpan := searchedPort_toNat seed.toNat 0
  refine ⟨start, ?_, ?_, ?_⟩
  · intro count ports inner allocated
    have length := allocate_length (Stack.start config iface resolver seed.toNat bytes).shared.inner count
    obtain ⟨consecutive, next⟩ := allocate_consecutive start count
    rw [allocated] at length consecutive next
    refine ⟨length, consecutive.rotates, ?_, ?_⟩
    · rw [ephemeral_iff, next]
      exact Nat.le_add_right _ _
    · exact succ_toNat
  · intro actions handing run
    have allocates := allocates_of_run run
    rw [allocates.log]
    exact (allocate_consecutive start _).1.rotates
  · intro listeningOn hash
    refine ⟨fun port => freeListenPort_ok, ?_, fun error => freeListenPort_error⟩
    rintro ⟨free, ephemeral, unused⟩
    cases outcome : freeListenPort listeningOn hash with
    | ok port => exact ⟨port, rfl⟩
    | error error =>
      have used := (freeListenPort_error outcome).2 free ephemeral
      rw [unused] at used
      cases used

theorem ephemeral_ports_rotate_wraps :
    (∃ handing : Handing .reference, handing.log = [65535, 49152] ∧ Rotates handing.log) ∧
      ∃ port, freeListenPort (fun port => port = 65535) 16383 = .ok port := by
  have rotate := ephemeral_ports_rotate (⟨true, false⟩ : StackConfig) (show Smoltcp.reference.Iface from ()) false
    16383 65536
  constructor
  · have evaluated : ∃ handing : Handing .reference,
        execute Handing.step ⟨.start ⟨true, false⟩ () false 16383 65536, []⟩
          [.call (.bindUdp 0 4 4096), .call (.connect ⟨[10, 0, 0, 2], 80⟩),
            .act 0 (.advance 0), .act 0 (.advance 0), .act 0 (.advance 0), .act 0 (.advance 0),
            .act 1 (.advance 0), .act 1 (.advance 0), .act 1 (.advance 1)] = .next handing ∧
        handing.log = [65535, 49152] :=
      ⟨_, rfl, rfl⟩
    obtain ⟨handing, ran, log⟩ := evaluated
    exact ⟨handing, log, rotate.2.2.1 _ handing (run_of_execute ran)⟩
  · exact (rotate.2.2.2 (fun port => port = 65535) 16383).2.1 ⟨49152, by unfold Ephemeral; decide, by decide⟩

end ProxyTunnels.Wireguard
