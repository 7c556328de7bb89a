import ProxyTunnels.Ssh.Dial

/-! Where a rejected host key surfaces.

A key that is rejected in a handshake the dial itself waits for ends the dial with the
mismatch, whatever the other dials do. A key that another dial's handshake rejects ends
that dial only: this one may open its channel on the session it already has.
-/

set_option autoImplicit false

namespace ProxyTunnels.Ssh.Dialing
open Machine

section Steps
variable {settings : Settings} {state after : State} {index : Nat} {call : Call}

structure Turn (state : State) (index : Nat) (call : Call) (after : State) (point : Point)
    (started : List Link) (news : List Event) : Prop where
  callers : after.callers = state.callers.set index ⟨call, point⟩
  links : after.links = state.links ++ started
  log : after.log = state.log ++ news
  opened : ∀ other, .opened other ∈ news → other = index ∧ point = .ended (.ok ())

def State.Turns (state : State) (index : Nat) (call : Call) (after : State) : Prop :=
  ∃ point started news, Turn state index call after point started news

theorem turns_become (state : State) (index : Nat) (call : Call) (point : Point) :
    state.Turns index call (state.become index call point) := by
  refine ⟨point, [], [], rfl, ?_, ?_, nofun⟩
  · exact (List.append_nil _).symm
  · exact (List.append_nil _).symm

theorem turns_connect (state : State) (index : Nat) (call : Call) (round : Round) :
    state.Turns index call (state.connect settings index call round) := by
  unfold State.connect
  split
  · exact turns_become ..
  · refine ⟨.handshake round state.links.length, [.handshaking], [], rfl, rfl, ?_, nofun⟩
    exact (List.append_nil _).symm

theorem turns_enterSession (state : State) (index : Nat) (call : Call) :
    state.Turns index call (state.enterSession settings index call) := by
  unfold State.enterSession
  split
  · exact turns_become ..
  · split
    · exact turns_become ..
    · exact turns_connect ..

theorem turns_enterReplace (state : State) (index : Nat) (call : Call) (stale : Nat) :
    state.Turns index call (state.enterReplace settings index call stale) := by
  unfold State.enterReplace
  split
  · exact turns_become ..
  · split
    · split
      · exact turns_become ..
      · -- The emptied slot is nobody's business but the next caller's.
        obtain ⟨point, started, news, turn⟩ :=
          @turns_connect settings { state with session := none } index call .again
        exact ⟨point, started, news, turn.callers, turn.links, turn.log, turn.opened⟩
    · exact turns_connect ..

theorem turns_shakeHands (state : State) (index : Nat) (call : Call) (round : Round) (connection : Nat) :
    (state.shakeHands settings index call round connection).Ensures (state.Turns index call) := by
  unfold State.shakeHands
  split
  · exact turns_become ..
  · exact turns_become ..
  · exact trivial

theorem turns_authenticate (state : State) (index : Nat) (call : Call) (round : Round) (connection : Nat)
    (result : Authentication) :
    state.Turns index call (state.authenticate settings index call round connection result) := by
  unfold State.authenticate
  split
  · exact turns_become ..
  · exact turns_become ..

theorem turns_settle (state : State) (index : Nat) (call : Call) (round : Round) (connection : Nat)
    (verdict : Except TunnelError Unit) :
    state.Turns index call (state.settle index call round connection verdict) := by
  unfold State.settle
  split
  · exact turns_become ..
  · refine ⟨call.withSession round connection, [], _, rfl, (List.append_nil _).symm, rfl, ?_⟩
    intro other member
    obtain ⟨fingerprint, -, pinned⟩ := List.mem_map.mp member
    cases pinned

theorem turns_authorizeChannel (state : State) (index : Nat) (call : Call) (round : Round) (connection : Nat)
    (verdict : Except TunnelError Unit) :
    state.Turns index call (state.authorizeChannel index call round connection verdict) := by
  unfold State.authorizeChannel
  split
  · exact turns_become ..
  · exact turns_become ..

theorem turns_finishOpen (state : State) (index : Nat) (call : Call) (connection : Nat) (round : Round)
    (result : Except ChannelFailure Unit) :
    state.Turns index call (state.finishOpen index call connection round result) := by
  unfold State.finishOpen
  split
  · refine ⟨.ended (.ok ()), [], [.opened index], rfl, (List.append_nil _).symm, rfl, ?_⟩
    intro other member
    cases List.mem_singleton.mp member
    exact ⟨rfl, rfl⟩
  · exact turns_become ..
  · exact turns_become ..
  · exact turns_become ..

theorem turns_openChannel (state : State) (index : Nat) (call : Call) (round : Round) (connection : Nat)
    (answer : ChannelAnswer) :
    (state.openChannel index call round connection answer).Ensures (state.Turns index call) := by
  unfold State.openChannel
  split
  · exact trivial
  · exact Outcome.ensures_guarded fun _ => turns_finishOpen ..

theorem turns_resume (state : State) (index : Nat) (call : Call) (point : Point) (answer : Answer) :
    (state.resume settings index call point answer).Ensures (state.Turns index call) := by
  unfold State.resume
  split
  · exact Outcome.ensures_guarded fun _ => turns_enterSession ..
  · exact Outcome.ensures_guarded fun _ => turns_enterReplace ..
  · exact turns_shakeHands ..
  · exact turns_become ..
  · exact turns_authenticate ..
  · exact turns_settle ..
  · exact turns_authorizeChannel ..
  · exact turns_openChannel ..
  · exact trivial

/-- What the caller `index` notices of a step that is not its own. -/
structure Elsewhere (index : Nat) (state after : State) : Prop where
  caller : ∀ caller, state.callers[index]? = some caller → after.callers[index]? = some caller
  ended : ∀ (connection : Nat) (error : TunnelError), state.links[connection]? = some (.ended error) →
    after.links[connection]? = some (.ended error)
  opened : .opened index ∈ after.log → .opened index ∈ state.log

theorem Elsewhere.of_turns {other : Nat} (turns : state.Turns other call after) (apart : other ≠ index) :
    Elsewhere index state after := by
  obtain ⟨point, started, news, turn⟩ := turns
  refine ⟨?_, ?_, ?_⟩
  · intro caller found
    rw [turn.callers, List.getElem?_set_ne apart]
    exact found
  · intro connection error found
    rw [turn.links]
    exact List.getElem?_append_left (List.getElem?_eq_some_iff.mp found).1 ▸ found
  · intro member
    rw [turn.log, List.mem_append] at member
    refine member.resolve_right fun fresh => ?_
    exact apart (turn.opened index fresh).1.symm

theorem ended_stays {links : List Link} {changed : Nat} {old new : Link} (found : links[changed]? = some old)
    (alive : ∀ error, old ≠ .ended error) {connection : Nat} {error : TunnelError}
    (ended : links[connection]? = some (.ended error)) :
    (links.set changed new)[connection]? = some (.ended error) := by
  have apart : changed ≠ connection := by
    rintro rfl
    rw [found] at ended
    exact alive error (Option.some.inj ended)
  rw [List.getElem?_set_ne apart]
  exact ended

theorem Elsewhere.of_links {changed : Nat} {old new : Link} {hostKey : HostKeyState} {news : List Event}
    (found : state.links[changed]? = some old) (alive : ∀ error, old ≠ .ended error)
    (unopened : .opened index ∉ news) :
    Elsewhere index state { state with hostKey, links := state.links.set changed new, log := state.log ++ news } := by
  refine ⟨fun _ same => same, fun _ _ ended => ended_stays found alive ended, fun member => ?_⟩
  exact (List.mem_append.mp member).resolve_right unopened

theorem Elsewhere.of_present {connection : Nat} {actual : String}
    (found : state.links[connection]? = some .handshaking) :
    Elsewhere index state (state.present settings connection actual) := by
  unfold State.present
  split
  · exact .of_links found nofun (by simp)
  · simpa using @Elsewhere.of_links state index connection .handshaking .running _ [] found nofun nofun

/-- What a step is to the call `index`: something that happens elsewhere, or one of the two things only
the call itself does. -/
inductive Moves {Key : Type} (settings : Settings) (index : Nat) (state : State) : Action Key → State → Prop where
  | elsewhere {action : Action Key} {after : State} : Elsewhere index state after →
      Moves settings index state action after
  | resumes {caller : Caller} {answer : Answer} {after : State} : state.callers[index]? = some caller →
      state.resume settings index caller.call caller.point answer = .next after →
      Moves settings index state (.resume index answer) after
  | drops {caller : Caller} : state.callers[index]? = some caller → caller.point.isAwait = true →
      Moves settings index state (.drop index) (state.become index caller.call .dropped)

theorem step_moves {Key : Type} {hostKeyFingerprint : Key → String} (index : Nat) {action : Action Key}
    (taken : step settings hostKeyFingerprint state action = .next after) :
    Moves settings index state action after := by
  cases action with
  | call call =>
    cases taken
    refine .elsewhere ⟨fun caller found => ?_, fun _ _ ended => ended, id⟩
    exact List.getElem?_append_left (List.getElem?_eq_some_iff.mp found).1 ▸ found
  | resume other answer =>
    simp only [step] at taken
    split at taken
    · next caller found =>
      by_cases own : other = index
      · subst own
        exact .resumes found taken
      · exact .elsewhere (.of_turns ((turns_resume ..).of_next taken) own)
    · cases taken
  | drop other =>
    simp only [step] at taken
    split at taken
    · next caller found =>
      obtain ⟨awaits, dropped⟩ := Outcome.guarded_eq_next.mp taken
      cases dropped
      by_cases own : other = index
      · subst own
        exact .drops found awaits
      · exact .elsewhere (.of_turns (turns_become ..) own)
    · cases taken
  | present connection key =>
    simp only [step] at taken
    split at taken
    · next found =>
      cases taken
      exact .elsewhere (.of_present found)
    · cases taken
  | lose connection error =>
    simp only [step] at taken
    split at taken
    · cases taken
    · cases taken
    · next link alive found =>
      cases taken
      have moved := @Elsewhere.of_links state index connection link (.ended error) state.hostKey [] found alive nofun
      exact .elsewhere (by simpa using moved)
  | retire =>
    obtain ⟨-, emptied⟩ := Outcome.guarded_eq_next.mp taken
    cases emptied
    exact .elsewhere ⟨fun _ same => same, fun _ _ same => same, id⟩
  | shutdown =>
    cases taken
    exact .elsewhere ⟨fun _ same => same, fun _ _ same => same, id⟩

theorem checkServerKey_error {spec : Spec} {hostKey : HostKeyState} {actual : String} {error : TunnelError}
    (refused : (checkServerKey spec hostKey actual).2 = .error error) :
    ∃ expected, error = .hostKeyMismatch spec.host spec.port expected actual := by
  unfold checkServerKey at refused
  split at refused
  · next expected found =>
    split at refused
    · cases refused
      exact ⟨expected, rfl⟩
    · cases refused
  · cases refused

end Steps

section Surfacing
variable {settings : Settings} {Key : Type} {hostKeyFingerprint : Key → String} {state after : State} {index : Nat}

def State.Refused (state : State) (index : Nat) (error : TunnelError) : Prop :=
  ∃ call round connection, state.callers[index]? = some ⟨call, .handshake round connection⟩ ∧
    state.links[connection]? = some (.ended error)

def State.InTime (index : Nat) (state : State) : Action Key → Prop
  | .resume other .timedOut => other = index → ∀ host port expected actual,
      ¬ state.Refused index (.hostKeyMismatch host port expected actual)
  | _ => True

def OverIfOpened (index : Nat) (state : State) : Prop :=
  .opened index ∈ state.log → ∃ call, state.callers[index]? = some ⟨call, .ended (.ok ())⟩

structure Surfacing (settings : Settings) (index : Nat) (error : TunnelError) (state : State) : Prop where
  mismatch : ∃ expected actual, error = .hostKeyMismatch settings.spec.host settings.spec.port expected actual
  opened : .opened index ∉ state.log
  place : state.Refused index error ∨ (∃ call, state.callers[index]? = some ⟨call, .ended (.error error)⟩) ∨
    ∃ call, state.callers[index]? = some ⟨call, .dropped⟩

theorem resume_ended {call : Call} {result : Except TunnelError Unit} (answer : Answer) :
    state.resume settings index call (.ended result) answer = .blocked := by
  cases answer <;> rfl

theorem resume_dropped {call : Call} (answer : Answer) :
    state.resume settings index call .dropped answer = .blocked := by
  cases answer <;> rfl

theorem OverIfOpened.moves (ended : OverIfOpened index state) {action : Action Key}
    (moved : Moves settings index state action after) : OverIfOpened index after := by
  intro member
  cases moved with
  | elsewhere moved =>
    obtain ⟨call, settled⟩ := ended (moved.opened member)
    exact ⟨call, moved.caller _ settled⟩
  | @resumes caller answer after found taken =>
    obtain ⟨point, started, news, turn⟩ := (turns_resume state index caller.call caller.point answer).of_next taken
    rw [turn.log, List.mem_append] at member
    rcases member with old | fresh
    · obtain ⟨call, settled⟩ := ended old
      cases found.symm.trans settled
      rw [resume_ended] at taken
      cases taken
    · obtain ⟨-, rfl⟩ := turn.opened index fresh
      refine ⟨caller.call, ?_⟩
      rw [turn.callers]
      exact getElem?_set_found found
  | drops found awaits =>
    obtain ⟨call, settled⟩ := ended member
    cases found.symm.trans settled
    cases awaits

theorem shakeHands_refused {call : Call} {round : Round} {connection : Nat} {host expected actual : String}
    {port : UInt16} (refused : state.links[connection]? = some (.ended (.hostKeyMismatch host port expected actual))) :
    state.shakeHands settings index call round connection =
      .next (state.fail index call (.hostKeyMismatch host port expected actual)) := by
  simp only [State.shakeHands, refused, handshakeFailure]

theorem Surfacing.resume {error : TunnelError} (surfacing : Surfacing settings index error state)
    {caller : Caller} {answer : Answer} (found : state.callers[index]? = some caller)
    (inTime : answer = .timedOut → ¬ state.Refused index error)
    (taken : state.resume settings index caller.call caller.point answer = .next after) :
    Surfacing settings index error after := by
  obtain ⟨expected, actual, rfl⟩ := surfacing.mismatch
  rcases surfacing.place with ⟨call, round, connection, waits, refused⟩ | ⟨call, settled⟩ | ⟨call, settled⟩
  · cases found.symm.trans waits
    -- The await has two ways to return, and its time is not up.
    cases answer with
    | proceed =>
      have returned := (shakeHands_refused refused).symm.trans taken
      cases returned
      refine ⟨⟨_, _, rfl⟩, surfacing.opened, .inr (.inl ⟨call, ?_⟩)⟩
      exact getElem?_set_found found
    | timedOut => exact absurd ⟨call, round, connection, waits, refused⟩ (inTime rfl)
    | authenticated result => cases taken
    | authorized verdict => cases taken
    | channel channelAnswer => cases taken
  · cases found.symm.trans settled
    rw [resume_ended] at taken
    cases taken
  · cases found.symm.trans settled
    rw [resume_dropped] at taken
    cases taken

theorem Surfacing.moves {error : TunnelError} (surfacing : Surfacing settings index error state)
    {action : Action Key} (inTime : state.InTime index action) (moved : Moves settings index state action after) :
    Surfacing settings index error after := by
  cases moved with
  | elsewhere moved =>
    refine ⟨surfacing.mismatch, fun member => surfacing.opened (moved.opened member), ?_⟩
    rcases surfacing.place with ⟨call, round, connection, found, refused⟩ | ⟨call, found⟩ | ⟨call, found⟩
    · exact .inl ⟨call, round, connection, moved.caller _ found, moved.ended _ _ refused⟩
    · exact .inr (.inl ⟨call, moved.caller _ found⟩)
    · exact .inr (.inr ⟨call, moved.caller _ found⟩)
  | resumes found taken =>
    refine surfacing.resume found ?_ taken
    rintro rfl
    obtain ⟨expected, actual, rfl⟩ := surfacing.mismatch
    exact inTime rfl _ _ _ _
  | @drops caller found awaits =>
    refine ⟨surfacing.mismatch, surfacing.opened, .inr (.inr ⟨caller.call, ?_⟩)⟩
    exact getElem?_set_found found

theorem surfacing_of_rejected (ended : OverIfOpened index state) {call : Call} {round : Round} {connection : Nat}
    {key : Key} {error : TunnelError} (waits : state.callers[index]? = some ⟨call, .handshake round connection⟩)
    (refused : (checkServerKey settings.spec state.hostKey (hostKeyFingerprint key)).2 = .error error)
    (presented : step settings hostKeyFingerprint state (.present connection key) = .next after) :
    Surfacing settings index error after := by
  simp only [step] at presented
  split at presented
  · next found =>
    cases presented
    unfold State.present
    split
    · next hostKey told checked =>
      rw [checked] at refused
      cases refused
      have told : ∃ expected, error = _ :=
        checkServerKey_error (by rw [checked] : (checkServerKey settings.spec state.hostKey _).2 = .error error)
      obtain ⟨expected, rfl⟩ := told
      refine ⟨⟨_, _, rfl⟩, fun member => ?_, .inl ⟨call, round, connection, waits, getElem?_set_found found⟩⟩
      rcases List.mem_append.mp member with old | fresh
      · obtain ⟨owner, settled⟩ := ended old
        cases waits.symm.trans settled
      · cases List.mem_singleton.mp fresh
    · next accepted =>
      rw [accepted] at refused
      cases refused
  · cases presented

/-- A dial begins in any state of the provider; the log is kept from here on. -/
structure State.Begins (state : State) (index : Nat) : Prop where
  caller : ∃ host port, state.callers[index]? = some ⟨.dial host port, .session⟩
  log : state.log = []

def State.Surfaces (settings : Settings) (index : Nat) (error : TunnelError) (state : State) : Prop :=
  ∃ call, state.callers[index]? = some ⟨call, .ended (.error error)⟩ ∨
    state.callers[index]? = some ⟨call, .dropped⟩ ∨
    ∃ round connection after, state.callers[index]? = some ⟨call, .handshake round connection⟩ ∧
      state.resume settings index call (.handshake round connection) .proceed = .next after ∧
      after.callers[index]? = some ⟨call, .ended (.error error)⟩

theorem Surfacing.surfaces {error : TunnelError} (surfacing : Surfacing settings index error state) :
    state.Surfaces settings index error := by
  obtain ⟨expected, actual, rfl⟩ := surfacing.mismatch
  rcases surfacing.place with ⟨call, round, connection, waits, refused⟩ | ⟨call, settled⟩ | ⟨call, settled⟩
  · refine ⟨call, .inr (.inr ⟨round, connection, _, waits, shakeHands_refused refused, ?_⟩)⟩
    exact getElem?_set_found waits
  · exact ⟨call, .inl settled⟩
  · exact ⟨call, .inr (.inl settled)⟩

/-- Whatever keys other dials are shown before and after, a key rejected in a handshake that a dial itself
waits for ends that dial with the mismatch and without a channel. -/
theorem own_rejection_surfaces {start middle rejected final : State} {before later : List (Action Key)}
    (begins : start.Begins index) (run : Run (step settings hostKeyFingerprint) start before middle) {call : Call}
    {round : Round} {connection : Nat} {key : Key} {error : TunnelError}
    (waits : middle.callers[index]? = some ⟨call, .handshake round connection⟩)
    (refused : (checkServerKey settings.spec middle.hostKey (hostKeyFingerprint key)).2 = .error error)
    (presented : step settings hostKeyFingerprint middle (.present connection key) = .next rejected)
    (onward : RunWhile (step settings hostKeyFingerprint) (State.InTime index) rejected later final) :
    (∃ expected, error = .hostKeyMismatch settings.spec.host settings.spec.port expected (hostKeyFingerprint key)) ∧
      final.Surfaces settings index error ∧ .opened index ∉ final.log := by
  have ended : OverIfOpened index middle := by
    refine Run.preserves (fun state action after held taken => held.moves (step_moves index taken)) run ?_
    rw [OverIfOpened, begins.log]
    exact nofun
  have surfacing : Surfacing settings index error final := by
    refine onward.preserves (fun state action after held inTime taken => ?_)
      (surfacing_of_rejected ended waits refused presented)
    exact held.moves inTime (step_moves index taken)
  exact ⟨checkServerKey_error refused, surfacing.surfaces, surfacing.opened⟩

end Surfacing

/-! A server whose pinned key is "old", and a provider that already has a session to it. -/

section Replaced

def pinnedSettings : Settings := ⟨⟨"seedbox", 22, some "old"⟩, "user", "key", fun _ => .ok ()⟩

def connects (index connection : Nat) : List (Action String) :=
  [.resume index .proceed, .present connection "old", .resume index .proceed,
    .resume index (.authenticated .accepted), .resume index (.authorized (.ok ()))]

/-- A `prepare` and then the first step of a dial. -/
def beforeDial : List (Action String) := .call .prepare :: connects 0 0 ++ [.call (.dial "indexer" 443)]

/-- While the dial opens its channel on the cached session, a second dial gives that session up, connects
anew and is shown another key. -/
def replacedByAnother : List (Action String) :=
  [.resume 1 .proceed, .resume 1 (.authorized (.ok ())), .call (.dial "indexer" 443), .resume 2 .proceed,
    .resume 2 (.authorized (.ok ())), .resume 2 (.channel .timedOut), .resume 2 .proceed, .present 1 "new",
    .resume 1 (.channel .opened)]

def newKey : TunnelError := .hostKeyMismatch "seedbox" 22 "old" "new"

/-- A key is rejected between the first dial's start and its end, and that dial opens its channel afterwards. -/
theorem others_rejection_passes_by : ∃ start final : State,
    Run (step pinnedSettings id) State.new beforeDial start ∧ start.Begins 1 ∧
      Run (step pinnedSettings id) start replacedByAnother final ∧ final.log = [.rejected 1 newKey, .opened 1] ∧
      final.callers[1]? = some ⟨.dial "indexer" 443, .ended (.ok ())⟩ :=
  ⟨_, _, run_of_execute rfl, ⟨⟨_, _, rfl⟩, rfl⟩, run_of_execute rfl, rfl, rfl⟩

theorem own_rejection_surfaces_first : ∃ final : State,
    final.log = [.rejected 0 newKey] ∧ final.Surfaces pinnedSettings 0 newKey := by
  have begins : State.Begins ⟨.default, [], none, false, [⟨.dial "indexer" 443, .session⟩], []⟩ 0 :=
    ⟨⟨_, _, rfl⟩, rfl⟩
  have run : Run (step pinnedSettings id) ⟨.default, [], none, false, [⟨.dial "indexer" 443, .session⟩], []⟩
      [.resume 0 .proceed]
      ⟨.default, [.handshaking], none, false, [⟨.dial "indexer" 443, .handshake .first 0⟩], []⟩ :=
    run_of_execute rfl
  have presented : step pinnedSettings id
      ⟨.default, [.handshaking], none, false, [⟨.dial "indexer" 443, .handshake .first 0⟩], []⟩
      (.present 0 "new") = .next ⟨.default, [.ended newKey], none, false,
        [⟨.dial "indexer" 443, .handshake .first 0⟩], [.rejected 0 newKey]⟩ := rfl
  exact ⟨_, rfl, (own_rejection_surfaces begins run rfl rfl presented .done).2.1⟩

end Replaced

end ProxyTunnels.Ssh.Dialing
