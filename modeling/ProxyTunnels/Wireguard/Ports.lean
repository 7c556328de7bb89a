import ProxyTunnels.Wireguard.Aside
import ProxyTunnels.Wireguard.Stack

/-! Which sockets share a pair of endpoints.

The ephemeral ports come from one counter that goes round the range and looks at nothing
else, so whether a port is still in use when its turn comes again is a matter of what happened
meanwhile. The machine is followed together with a record of the sockets that were opened with
such a port and are still in the set, each with its place in the order of the ports handed out.
-/

set_option autoImplicit false

namespace ProxyTunnels.Wireguard
open Machine

section Rotation
variable {port : UInt16} {offset count earlier : Nat}

theorem succ_toNat (below : port ≠ ephemeralLast) : (port + 1).toNat = port.toNat + 1 := by
  have bound := port.toNat_lt
  have other : port.toNat ≠ 65535 := fun top => below (UInt16.toNat.inj top)
  rw [UInt16.toNat_add]
  change (port.toNat + 1) % 65536 = _
  omega

theorem followingPort_rotates (here : port.toNat = ephemeralFirst.toNat + (offset + count) % ephemeralSpan) :
    (followingPort port).toNat = ephemeralFirst.toNat + (offset + (count + 1)) % ephemeralSpan := by
  rw [ephemeralSpan_eq, ephemeralFirst_toNat] at *
  unfold followingPort
  by_cases last : port = ephemeralLast
  · rw [if_pos last]
    have top : port.toNat = 65535 := congrArg UInt16.toNat last
    change 49152 = _
    omega
  · rw [if_neg last, succ_toNat last]
    have below : port.toNat ≠ 65535 := fun top => last (UInt16.toNat.inj top)
    omega

theorem rotated_eq_iff (before : earlier ≤ count) :
    (offset + earlier) % ephemeralSpan = (offset + count) % ephemeralSpan ↔
      (count - earlier) % ephemeralSpan = 0 := by
  rw [ephemeralSpan_eq]
  omega

end Rotation

section Record
variable {smoltcp : Smoltcp}

/-- A socket that was opened with an ephemeral port: its place in the set, the port, the far end
of the dial it is for (none for UDP), and how many ports had been handed out before its own. -/
structure Opened where
  token : Token
  port : UInt16
  remote : Option SocketAddr
  serial : Nat
  deriving DecidableEq, Repr

def Opened.Apart (first second : Opened) : Prop := first.remote = second.remote → first.port ≠ second.port

structure Ports (smoltcp : Smoltcp) where
  stack : Stack smoltcp
  handed : Nat
  opened : List Opened

def Stack.handsOut (stack : Stack smoltcp) : Action smoltcp → Option (Option SocketAddr)
  | .act index input => (stack.actors[index]?).bind fun actor => actor.handsOut input
  | _ => none

def Actor.opened : Actor smoltcp → Option Token
  | .connecting _ (.wait handle _) => some (handle, .tcp)
  | .udp handle _ _ _ => some (handle, .udp)
  | _ => none

def Stack.openedBy (next : Stack smoltcp) : Action smoltcp → Option Token
  | .act index _ => (next.actors[index]?).bind Actor.opened
  | _ => none

def Ports.entry (ports : Ports smoltcp) : Option (Option SocketAddr) → Option Token → List Opened
  | some remote, some token => [⟨token, ports.stack.shared.inner.nextEphemeralPort.1, remote, ports.handed⟩]
  | _, _ => []

def Ports.step (ports : Ports smoltcp) (action : Action smoltcp) : Outcome (Ports smoltcp) :=
  (ports.stack.step action).bind fun next => .next
    { stack := next
      handed := ports.handed + if (ports.stack.handsOut action).isSome then 1 else 0
      opened := (ports.opened.filter fun entry => next.shared.inner.kindAt entry.token.1 = some entry.token.2) ++
        ports.entry (ports.stack.handsOut action) (next.openedBy action) }

structure Ports.Initial (ports : Ports smoltcp) : Prop where
  stack : ports.stack.Initial
  handed : ports.handed = 0
  opened : ports.opened = []

/-- No port is handed out whole rounds after one whose socket, for the same far end or likewise
for UDP, is still in the set. -/
def Ports.Spaced (ports : Ports smoltcp) (action : Action smoltcp) : Prop :=
  ∀ remote, ports.stack.handsOut action = some remote → ∀ entry ∈ ports.opened, entry.remote = remote →
    (ports.handed - entry.serial) % ephemeralSpan ≠ 0

end Record

section Runs
variable {smoltcp : Smoltcp} {stack next : Stack smoltcp}

theorem stepActor_port {shared : Shared smoltcp} {actor : Actor smoltcp} {input : Input} {effect : Effect smoltcp}
    (taken : shared.stepActor actor input = .next effect) :
    effect.shared.inner.nextPort = shared.portAfter actor input := by
  by_cases resolves : actor.Resolves
  · cases turns_of_step taken with
    | rests rests => exact rests.portAfter.symm
    | acquires | starts | startsNot | awaits | asksOn | resolves | cancels | cancelsNothing => rfl
    | _ => exact resolves.elim
  · exact ((stepActor_aside resolves input).of_next taken).port

/-- Only handing out a port moves the counter. -/
theorem nextPort_step {action : Action smoltcp} (taken : stack.step action = .next next) :
    next.shared.inner.nextPort =
      if (stack.handsOut action).isSome then followingPort stack.shared.inner.nextPort
      else stack.shared.inner.nextPort := by
  cases Stack.moves_of_step taken with
  | @act index input actor effect found stepped =>
    have same : stack.handsOut (.act index input) = actor.handsOut input := by
      unfold Stack.handsOut
      dsimp only
      rw [found]
      rfl
    rw [same]
    exact stepActor_port stepped
  | poll running reclaimed =>
    have beside := reclaimLoop_beside.of_next reclaimed
    exact beside.port
  | _ => rfl

variable {ports later : Ports smoltcp}

def Ports.Numbered (ports : Ports smoltcp) : Prop := ∀ entry ∈ ports.opened, entry.serial < ports.handed

structure Ports.Rotating (offset : Nat) (ports : Ports smoltcp) : Prop where
  next : ports.stack.shared.inner.nextPort.toNat = ephemeralFirst.toNat + (offset + ports.handed) % ephemeralSpan
  numbered : ports.Numbered
  placed : ∀ entry ∈ ports.opened,
    entry.port.toNat = ephemeralFirst.toNat + (offset + entry.serial) % ephemeralSpan
  apart : ports.opened.Pairwise Opened.Apart

theorem rotating_start (initial : ports.Initial) : ∃ offset, ports.Rotating offset := by
  obtain ⟨⟨config, iface, resolver, seed, bytes, same⟩, handed, opened⟩ := initial
  refine ⟨seed, ?_, ?_, ?_, ?_⟩
  · rw [same, handed]
    exact searchedPort_toNat seed 0
  · unfold Ports.Numbered
    rw [opened]
    exact nofun
  · rw [opened]
    exact nofun
  · rw [opened]
    exact .nil

theorem Ports.mem_entry {hands : Option (Option SocketAddr)} {token : Option Token} {new : Opened}
    (member : new ∈ ports.entry hands token) :
    hands = some new.remote ∧ new.serial = ports.handed ∧ new.port = ports.stack.shared.inner.nextPort := by
  unfold Ports.entry at member
  split at member
  · rw [List.mem_singleton] at member
    subst member
    exact ⟨rfl, rfl, rfl⟩
  · cases member

theorem Ports.entry_pairwise (hands : Option (Option SocketAddr)) (token : Option Token) :
    (ports.entry hands token).Pairwise Opened.Apart := by
  unfold Ports.entry
  split
  · exact List.pairwise_singleton _ _
  · exact .nil

theorem Ports.Numbered.step (numbered : ports.Numbered) {action : Action smoltcp}
    (taken : ports.step action = .next later) : later.Numbered ∧ later.handed ≤ ports.handed + 1 := by
  obtain ⟨next, stepped, same⟩ := Outcome.bind_eq_next taken
  cases same
  constructor
  · intro entry member
    rcases List.mem_append.mp member with kept | new
    · exact Nat.lt_of_lt_of_le (numbered entry (List.mem_filter.mp kept).1) (Nat.le_add_right _ _)
    · obtain ⟨hands, serial, -⟩ := Ports.mem_entry new
      rw [serial]
      dsimp only
      rw [hands]
      exact Nat.lt_succ_self _
  · dsimp only
    split
    · exact Nat.le_refl _
    · exact Nat.le_succ _

theorem Ports.Rotating.step {offset : Nat} (rotating : ports.Rotating offset) {action : Action smoltcp}
    (spaced : ports.Spaced action) (taken : ports.step action = .next later) : later.Rotating offset := by
  have numbered := (rotating.numbered.step taken).1
  obtain ⟨next, stepped, same⟩ := Outcome.bind_eq_next taken
  cases same
  have counter := nextPort_step stepped
  refine ⟨?_, numbered, ?_, ?_⟩
  · dsimp only
    rw [counter]
    split
    · exact followingPort_rotates rotating.next
    · exact rotating.next
  · intro entry member
    rcases List.mem_append.mp member with kept | new
    · exact rotating.placed entry (List.mem_filter.mp kept).1
    · obtain ⟨-, serial, port⟩ := Ports.mem_entry new
      rw [serial, port]
      exact rotating.next
  · refine List.pairwise_append.mpr ⟨rotating.apart.filter _, Ports.entry_pairwise _ _, ?_⟩
    -- An older socket with the new one's far end has another port, or whole rounds would lie between them.
    intro entry kept new member alike clash
    have old := (List.mem_filter.mp kept).1
    obtain ⟨hands, -, port⟩ := Ports.mem_entry member
    have level := congrArg UInt16.toNat (clash.trans port)
    rw [rotating.placed entry old, rotating.next] at level
    have rounds := (rotated_eq_iff (Nat.le_of_lt (rotating.numbered entry old))).mp (Nat.add_left_cancel level)
    exact spaced new.remote hands entry old alike rounds

theorem rotating_of_run {start : Ports smoltcp} {actions : List (Action smoltcp)} (initial : start.Initial)
    (run : RunWhile Ports.step Ports.Spaced start actions ports) : ∃ offset, ports.Rotating offset := by
  obtain ⟨offset, rotating⟩ := rotating_start initial
  refine ⟨offset, RunWhile.preserves ?_ run rotating⟩
  intro state action next held spaced taken
  exact held.step spaced taken

end Runs

/-- Where no port comes round while a socket that has it is still in the set, no two sockets of
dials to one far end, and no two UDP sockets with an ephemeral port, have the same port. -/
theorem endpoint_pairs_distinct {smoltcp : Smoltcp} {start ports : Ports smoltcp} {actions : List (Action smoltcp)}
    (initial : start.Initial) (run : RunWhile Ports.step Ports.Spaced start actions ports) :
    ports.opened.Pairwise Opened.Apart := by
  obtain ⟨offset, rotating⟩ := rotating_of_run initial run
  exact rotating.apart

theorem spaced_of_short {smoltcp : Smoltcp} {ports final : Ports smoltcp} {actions : List (Action smoltcp)}
    (numbered : ports.Numbered) (short : ports.handed + actions.length ≤ ephemeralSpan)
    (run : Run Ports.step ports actions final) : RunWhile Ports.step Ports.Spaced ports actions final := by
  induction run with
  | done => exact .done
  | @next ports middle final action rest _ taken _ ih =>
    rw [List.length_cons] at short
    obtain ⟨still, fewer⟩ := numbered.step taken
    refine .next ?_ taken (ih still (by omega))
    intro remote _ entry member _
    have earlier := numbered entry member
    rw [Nat.mod_eq_of_lt (by omega)]
    omega

theorem endpoint_pairs_distinct_two_dials :
    ∃ ports : Ports .reference, ports.opened.map Opened.token = [(0, .tcp), (1, .tcp), (2, .udp)] ∧
      ports.opened.map Opened.remote = [some ⟨[10, 0, 0, 2], 80⟩, some ⟨[10, 0, 0, 2], 80⟩, none] ∧
      ports.opened.Pairwise Opened.Apart := by
  have evaluated : ∃ ports : Ports .reference,
      execute Ports.step ⟨.start ⟨true, false⟩ () false 0 65536, 0, []⟩
        [.call (.connect ⟨[10, 0, 0, 2], 80⟩), .call (.connect ⟨[10, 0, 0, 2], 80⟩), .call (.bindUdp 0 4 4096),
          .act 0 (.advance 0), .act 0 (.advance 0), .act 0 (.advance 0),
          .act 1 (.advance 0), .act 1 (.advance 0), .act 1 (.advance 1),
          .act 2 (.advance 0), .act 2 (.advance 0), .act 2 (.advance 0), .act 2 (.advance 2)] = .next ports ∧
      ports.opened.map Opened.token = [(0, .tcp), (1, .tcp), (2, .udp)] ∧
      ports.opened.map Opened.remote = [some ⟨[10, 0, 0, 2], 80⟩, some ⟨[10, 0, 0, 2], 80⟩, none] :=
    ⟨_, rfl, rfl, rfl⟩
  obtain ⟨ports, ran, tokens, remotes⟩ := evaluated
  have short : 0 + 13 ≤ ephemeralSpan := by
    rw [ephemeralSpan_eq]
    decide
  have spaced := spaced_of_short (fun _ member => by cases member) short (run_of_execute ran)
  exact ⟨ports, tokens, remotes, endpoint_pairs_distinct ⟨⟨_, _, _, _, _, rfl⟩, rfl, rfl⟩ spaced⟩

section Round

theorem Ports.step_last {smoltcp : Smoltcp} {shared later : Shared smoltcp} {pump : PumpPhase}
    {actors : List (Actor smoltcp)} {actor new : Actor smoltcp} {handed : Nat} {opened : List Opened} {input : Input}
    (stepped : shared.stepActor actor input = .next ⟨later, new, []⟩) :
    Ports.step ⟨⟨shared, pump, actors ++ [actor]⟩, handed, opened⟩ (.act actors.length input) = .next
      { stack := ⟨later, pump, actors ++ [new]⟩
        handed := handed + if (actor.handsOut input).isSome then 1 else 0
        opened := (opened.filter fun entry => later.inner.kindAt entry.token.1 = some entry.token.2) ++
          Ports.entry ⟨⟨shared, pump, actors⟩, handed, opened⟩ (actor.handsOut input) new.opened } := by
  have moved : Stack.step ⟨shared, pump, actors ++ [actor]⟩ (.act actors.length input) =
      .next ⟨later, pump, actors ++ [new]⟩ := by
    unfold Stack.step
    simp only [List.getElem?_concat_length, stepped, Outcome.bind]
    simp
  have hands : Stack.handsOut ⟨shared, pump, actors ++ [actor]⟩ (.act actors.length input) =
      actor.handsOut input := by
    unfold Stack.handsOut
    simp only [List.getElem?_concat_length, Option.bind_some]
  have opens : Stack.openedBy ⟨later, pump, actors ++ [new]⟩ (.act actors.length input) = new.opened := by
    unfold Stack.openedBy
    simp only [List.getElem?_concat_length, Option.bind_some]
  unfold Ports.step
  dsimp only
  rw [moved, hands]
  simp only [Outcome.bind, opens]
  rfl

def farEnd : SocketAddr := ⟨[10, 0, 0, 2], 80⟩

/-- An established connection whose port was the first to be handed out, and dials that have come
and gone. The second place of the set is free, or has the socket of the dial that came last. -/
def longLived (first : UInt16) (actors : List (Actor .reference)) (place : Option ReferenceTcp) (slots : Nat)
    (port : UInt16) (handed : Nat) (more : List Opened) : Ports .reference where
  stack :=
    { shared :=
        { inner :=
            { iface := ()
              sockets := [some (.tcp (⟨.established, [], [], first, some farEnd⟩ : ReferenceTcp)),
                place.map fun socket => .tcp socket]
              dns := none, now := 0, nextPort := port, closing := [], tcpBufferBytes := 65536 }
          slots := ⟨slots, false⟩, dnsPermits := 8, stopped := false, config := ⟨true, false⟩ }
      pump := .running
      actors }
  handed
  opened := ⟨(0, .tcp), first, some farEnd, 0⟩ :: more

variable (first port : UInt16) (actors : List (Actor .reference)) (handed : Nat)

def redialled : Ports .reference :=
  longLived first (actors ++ [.connecting farEnd (.wait 1 false)]) (some ⟨.synSent, [], [], port, some farEnd⟩) 2
    (followingPort port) (handed + 1) [⟨(1, .tcp), port, some farEnd, handed⟩]

theorem redial_runs : ∃ actions,
    Run Ports.step (longLived first actors none 1 port handed []) actions (redialled first port actors handed) := by
  refine ⟨[.call (.connect farEnd), .act actors.length (.advance 0), .act actors.length (.advance 0),
    .act actors.length (.advance 1)], ?_⟩
  have loaded : Ports.step (longLived first (actors ++ [.connecting farEnd (.claim .load)]) none 1 port handed [])
      (.act actors.length (.advance 0)) =
        .next (longLived first (actors ++ [.connecting farEnd (.claim .update)]) none 1 port handed []) :=
    Ports.step_last rfl
  have claimed : Ports.step (longLived first (actors ++ [.connecting farEnd (.claim .update)]) none 1 port handed [])
      (.act actors.length (.advance 0)) =
        .next (longLived first (actors ++ [.connecting farEnd .start]) none 2 port handed []) :=
    Ports.step_last rfl
  have started : Ports.step (longLived first (actors ++ [.connecting farEnd .start]) none 2 port handed [])
      (.act actors.length (.advance 1)) = .next (redialled first port actors handed) :=
    Ports.step_last rfl
  exact .next trivial rfl (.next trivial loaded (.next trivial claimed (.next trivial started .done)))

/-- The dial is dropped while it waits: its socket and its slot go, and its port is spent. -/
theorem hangUp_runs : ∃ actions, Run Ports.step (redialled first port actors handed) actions
    (longLived first (actors ++ [.ended none]) none 1 (followingPort port) (handed + 1) []) := by
  refine ⟨[.act actors.length (.cancel .connect), .act actors.length (.advance 0), .act actors.length (.advance 0)], ?_⟩
  have dropped : Ports.step (redialled first port actors handed) (.act actors.length (.cancel .connect)) =
      .next (longLived first (actors ++ [.connecting farEnd (.discard 1 false none)])
        (some ⟨.synSent, [], [], port, some farEnd⟩) 2 (followingPort port) (handed + 1)
        [⟨(1, .tcp), port, some farEnd, handed⟩]) :=
    Ports.step_last rfl
  have discarded : Ports.step (longLived first (actors ++ [.connecting farEnd (.discard 1 false none)])
      (some ⟨.synSent, [], [], port, some farEnd⟩) 2 (followingPort port) (handed + 1)
      [⟨(1, .tcp), port, some farEnd, handed⟩]) (.act actors.length (.advance 0)) =
        .next (longLived first (actors ++ [.connecting farEnd (.release none)]) none 2 (followingPort port)
          (handed + 1) []) :=
    Ports.step_last rfl
  have released : Ports.step (longLived first (actors ++ [.connecting farEnd (.release none)]) none 2
      (followingPort port) (handed + 1) []) (.act actors.length (.advance 0)) =
        .next (longLived first (actors ++ [.ended none]) none 1 (followingPort port) (handed + 1) []) :=
    Ports.step_last rfl
  exact .next trivial dropped (.next trivial discarded (.next trivial released .done))

variable {first port actors handed}

theorem redials_run (count : Nat)
    (here : port.toNat = ephemeralFirst.toNat + (0 + handed) % ephemeralSpan) :
    ∃ gone later actions,
      Run Ports.step (longLived first actors none 1 port handed []) actions
        (longLived first (actors ++ gone) none 1 later (handed + count) []) ∧
      later.toNat = ephemeralFirst.toNat + (0 + (handed + count)) % ephemeralSpan := by
  induction count generalizing port actors handed with
  | zero =>
    refine ⟨[], port, [], ?_, here⟩
    rw [List.append_nil]
    exact .done
  | succ count ih =>
    obtain ⟨dialling, dialled⟩ := redial_runs first port actors handed
    obtain ⟨ending, ended⟩ := hangUp_runs first port actors handed
    have following := followingPort_rotates here
    obtain ⟨gone, later, rest, run, there⟩ := @ih (followingPort port) (actors ++ [.ended none]) (handed + 1) following
    rw [List.append_assoc] at run
    have counted : handed + 1 + count = handed + (count + 1) := by omega
    rw [counted] at run there
    exact ⟨_, later, _, (dialled.append ended).append run, there⟩

end Round

/-- A connection is established and stays; 16383 more dials to its far end come and go, and the
next one gets the connection's port while the connection's stream is in use. -/
theorem ports_come_round :
    ∃ (start ports : Ports .reference) (actions : List (Action .reference)) (old new : Opened),
      start.Initial ∧ Run Ports.step start actions ports ∧ ports.opened = [old, new] ∧ old.token ≠ new.token ∧
      old.remote = some farEnd ∧ new.remote = some farEnd ∧ old.port = new.port ∧
      .stream farEnd old.token.1 false false false ∈ ports.stack.actors := by
  have connected : ∃ first : UInt16, first.toNat = ephemeralFirst.toNat ∧
      execute Ports.step ⟨.start ⟨true, false⟩ () false 0 65536, 0, []⟩
        [.call (.connect farEnd), .act 0 (.advance 0), .act 0 (.advance 0), .act 0 (.advance 0),
          .poll ⟨id, fun _ (socket : ReferenceTcp) => { socket with state := .established }, fun _ => id, fun _ => id⟩
            ⟨fun _ => false, fun _ => true, false⟩,
          .act 0 (.poll .connect), .call (.connect farEnd), .act 1 (.advance 0), .act 1 (.advance 0),
          .act 1 (.advance 1), .act 1 (.cancel .connect), .act 1 (.advance 0), .act 1 (.advance 0)] =
        .next (longLived first [.stream farEnd 0 false false false, .ended none] none 1
          (followingPort (followingPort first)) 2 []) :=
    ⟨_, rfl, rfl⟩
  obtain ⟨first, lowest, ran⟩ := connected
  have second : (followingPort (followingPort first)).toNat = ephemeralFirst.toNat + (0 + 2) % ephemeralSpan :=
    followingPort_rotates (followingPort_rotates lowest)
  obtain ⟨gone, port, redialling, redials, round⟩ := redials_run 16382 second
  -- Every port has been handed out once: the next one is the first again.
  have again : port = first := UInt16.toNat.inj (round.trans lowest.symm)
  subst again
  obtain ⟨dialling, dialled⟩ := redial_runs port port ([.stream farEnd 0 false false false, .ended none] ++ gone) 16384
  refine ⟨_, _, _, _, _, ⟨⟨_, _, _, _, _, rfl⟩, rfl, rfl⟩, ((run_of_execute ran).append redials).append dialled,
    rfl, nofun, rfl, rfl, rfl, ?_⟩
  exact List.mem_append_left _ List.mem_cons_self

end ProxyTunnels.Wireguard
