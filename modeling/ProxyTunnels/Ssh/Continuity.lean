import ProxyTunnels.Ssh.TrustOnFirstUse

/-! Host-key continuity of one provider over every interleaving of its connections.

One consistency predicate ties the shared `HostKeyState`, the phase of every
connection and every channel call to the log. It is closed under two moves,
recording an event and changing one phase; each step of the machine is at most
one of each.
-/

set_option autoImplicit false

namespace ProxyTunnels.Ssh
open Machine

def PhaseLaw (spec : Spec) (log : List Event) (connection : Nat) : Phase → Prop
  | .authenticated => .authenticated connection ∈ log
  | .authorizing fingerprint =>
      .authenticated connection ∈ log ∧ firstAccepted log = some fingerprint
  | .authorized => .authenticated connection ∈ log ∧ ∃ fingerprint,
      .authorizedConnection connection fingerprint true ∈ log ∧
        firstAccepted log = some fingerprint
  | .reporting fingerprint => spec.pinnedHostKey = none ∧ .authenticated connection ∈ log ∧
      .authorizedConnection connection fingerprint true ∈ log ∧
        firstAccepted log = some fingerprint
  | _ => True

def ChannelPhaseLaw (log : List Event) (channel : Nat) : ChannelPhase → Prop
  | .authorizing fingerprint => firstAccepted log = some fingerprint
  | .opening => ∃ fingerprint, .authorizedChannel channel fingerprint true ∈ log ∧
      firstAccepted log = some fingerprint
  | .finished => True

def Phase.reports : Phase → Nat
  | .reporting _ => 1
  | _ => 0

structure Consistent (provider : Provider) : Prop where
  learned : provider.hostKey.fingerprint = firstAccepted provider.log
  verdicts : Recorded (VerdictLaw provider.spec) provider.log
  opened : Recorded (ChannelLaw provider.spec) provider.log
  pins : Recorded (PinLaw provider.spec) provider.log
  unpinned : provider.hostKey.newlyPinned = true → provider.spec.pinnedHostKey = none
  phases : ∀ (connection : Nat) (phase : Phase), provider.connections[connection]? = some phase →
    PhaseLaw provider.spec provider.log connection phase
  calls : ∀ (channel : Nat) (call : Channel), provider.channels[channel]? = some call →
    ChannelPhaseLaw provider.log channel call.phase
  once : total Phase.reports provider.connections + provider.log.countP Event.isReport ≤
    if provider.hostKey.reported then 1 else 0

theorem PhaseLaw.mono {spec : Spec} {log : List Event} {connection : Nat} {phase : Phase}
    (law : PhaseLaw spec log connection phase) (event : Event) :
    PhaseLaw spec (log ++ [event]) connection phase := by
  cases phase with
  | authenticated => exact List.mem_append_left _ law
  | authorizing fingerprint =>
    exact ⟨List.mem_append_left _ law.1, firstAccepted_mono law.2 event⟩
  | authorized =>
    obtain ⟨known, fingerprint, granted, first⟩ := law
    exact ⟨List.mem_append_left _ known, fingerprint, List.mem_append_left _ granted,
      firstAccepted_mono first event⟩
  | reporting fingerprint =>
    obtain ⟨unpinned, known, granted, first⟩ := law
    exact ⟨unpinned, List.mem_append_left _ known, List.mem_append_left _ granted,
      firstAccepted_mono first event⟩
  | _ => trivial

theorem ChannelPhaseLaw.mono {log : List Event} {channel : Nat} {phase : ChannelPhase}
    (law : ChannelPhaseLaw log channel phase) (event : Event) :
    ChannelPhaseLaw (log ++ [event]) channel phase := by
  cases phase with
  | authorizing fingerprint => exact firstAccepted_mono law event
  | opening =>
    obtain ⟨fingerprint, granted, first⟩ := law
    exact ⟨fingerprint, List.mem_append_left _ granted, firstAccepted_mono first event⟩
  | finished => trivial

theorem Consistent.new (spec : Spec) : Consistent (Provider.new spec) where
  learned := rfl
  verdicts := Recorded.nil
  opened := Recorded.nil
  pins := Recorded.nil
  unpinned := by intro pinned; cases pinned
  phases := by intro connection phase found; simp [Provider.new] at found
  calls := by intro channel call found; simp [Provider.new] at found
  once := Nat.le_refl _

section Moves
variable {provider : Provider}

theorem Consistent.extend (held : Consistent provider) {hostKey : HostKeyState} {event : Event}
    (learned : hostKey.fingerprint = firstAccepted (provider.log ++ [event]))
    (verdict : VerdictLaw provider.spec provider.log event)
    (channel : ChannelLaw provider.spec provider.log event)
    (pin : PinLaw provider.spec provider.log event)
    (unpinned : hostKey.newlyPinned = true → provider.spec.pinnedHostKey = none)
    (once : total Phase.reports provider.connections +
      (provider.log ++ [event]).countP Event.isReport ≤ if hostKey.reported then 1 else 0) :
    Consistent (({ provider with hostKey } : Provider).record event) where
  learned := learned
  verdicts := recorded_concat.mpr ⟨held.verdicts, verdict⟩
  opened := recorded_concat.mpr ⟨held.opened, channel⟩
  pins := recorded_concat.mpr ⟨held.pins, pin⟩
  unpinned := unpinned
  phases := fun connection phase found => (held.phases connection phase found).mono event
  calls := fun channel call found => (held.calls channel call found).mono event
  once := once

theorem Consistent.record (held : Consistent provider) {event : Event}
    (neutral : event.acceptedKey = none) (quiet : event.isReport = false)
    (verdict : VerdictLaw provider.spec provider.log event)
    (channel : ChannelLaw provider.spec provider.log event) :
    Consistent (provider.record event) := by
  have pin : PinLaw provider.spec provider.log event := by
    cases event with
    | hostKeyPinned connection fingerprint => cases quiet
    | _ => trivial
  refine held.extend ?_ verdict channel pin held.unpinned ?_
  · rw [firstAccepted_neutral neutral]
    exact held.learned
  · simpa [List.countP_append, quiet] using held.once

theorem Consistent.setPhase (held : Consistent provider) {connection : Nat} {phase : Phase}
    (law : PhaseLaw provider.spec provider.log connection phase)
    (once : total Phase.reports (provider.connections.set connection phase) +
      provider.log.countP Event.isReport ≤ if provider.hostKey.reported then 1 else 0) :
    Consistent (provider.setPhase connection phase) where
  learned := held.learned
  verdicts := held.verdicts
  opened := held.opened
  pins := held.pins
  unpinned := held.unpinned
  phases := by
    intro other found present
    rcases mem_set_cases present with ⟨rfl, rfl⟩ | ⟨_, earlier⟩
    · exact law
    · exact held.phases other found earlier
  calls := held.calls
  once := once

theorem Consistent.advance (held : Consistent provider) {connection : Nat} {old phase : Phase}
    (found : provider.connections[connection]? = some old)
    (law : PhaseLaw provider.spec provider.log connection phase) (empty : phase.reports = 0) :
    Consistent (provider.setPhase connection phase) := by
  refine held.setPhase law ?_
  have moved := total_set Phase.reports found phase
  have bound := held.once
  omega

theorem Consistent.setChannel (held : Consistent provider) {channel connection : Nat}
    {phase : ChannelPhase} (law : ChannelPhaseLaw provider.log channel phase) :
    Consistent { provider with channels := provider.channels.set channel ⟨connection, phase⟩ } where
  learned := held.learned
  verdicts := held.verdicts
  opened := held.opened
  pins := held.pins
  unpinned := held.unpinned
  phases := held.phases
  calls := by
    intro other call present
    rcases mem_set_cases present with ⟨rfl, rfl⟩ | ⟨_, earlier⟩
    · exact law
    · exact held.calls other call earlier
  once := held.once

theorem Consistent.startChannel (held : Consistent provider) {connection : Nat}
    {phase : ChannelPhase} (law : ChannelPhaseLaw provider.log provider.channels.length phase) :
    Consistent { provider with channels := provider.channels ++ [⟨connection, phase⟩] } where
  learned := held.learned
  verdicts := held.verdicts
  opened := held.opened
  pins := held.pins
  unpinned := held.unpinned
  phases := held.phases
  calls := by
    intro other call present
    rcases mem_concat_cases present with ⟨rfl, rfl⟩ | earlier
    · exact law
    · exact held.calls other call earlier
  once := held.once

theorem Consistent.attempt (held : Consistent provider) :
    Consistent { provider with connections := provider.connections ++ [.handshaking] } where
  learned := held.learned
  verdicts := held.verdicts
  opened := held.opened
  pins := held.pins
  unpinned := held.unpinned
  phases := by
    intro other phase present
    rcases mem_concat_cases present with ⟨rfl, rfl⟩ | earlier
    · trivial
    · exact held.phases other phase earlier
  calls := held.calls
  once := by simpa [Phase.reports] using held.once

/-- The learned fingerprint is what the log alone says it is, so the comparison
`check_server_key` makes is the one the past dictates. -/
theorem Consistent.expected (held : Consistent provider) :
    provider.spec.pinnedHostKey.or provider.hostKey.fingerprint =
      identity provider.spec provider.log := by
  rw [held.learned, identity]

def Phase.afterExchange (phase : Phase) : Phase :=
  if phase = Phase.handshaking then Phase.keyed else phase

theorem Phase.reports_afterExchange (phase : Phase) :
    phase.afterExchange.reports = phase.reports := by
  cases phase <;> rfl

theorem PhaseLaw.afterExchange {spec : Spec} {log : List Event} {connection : Nat} {phase : Phase}
    (law : PhaseLaw spec log connection phase) :
    PhaseLaw spec log connection phase.afterExchange := by
  unfold Phase.afterExchange
  by_cases first : phase = Phase.handshaking
  · rw [if_pos first]; trivial
  · rw [if_neg first]; exact law

theorem Consistent.accept (held : Consistent provider) {connection : Nat} {phase : Phase}
    {hostKey : HostKeyState} {actual : String}
    (found : provider.connections[connection]? = some phase)
    (accepting : verdictFor (identity provider.spec provider.log) actual = .accepted)
    (learned : hostKey.fingerprint = some actual)
    (unpinned : hostKey.newlyPinned = true → provider.spec.pinnedHostKey = none)
    (reported : hostKey.reported = provider.hostKey.reported) :
    Consistent ((({ provider with hostKey } : Provider).setPhase connection
      phase.afterExchange).record (.checked connection actual .accepted)) := by
  have first : firstAccepted (provider.log ++ [.checked connection actual .accepted]) =
      some actual := by
    rw [firstAccepted_concat]
    cases known : firstAccepted provider.log with
    | none => rfl
    | some earlier =>
      have trusted := identity_of_firstAccepted held.verdicts known
      have same := accepted_of_verdict accepting
      rw [trusted] at same
      exact same
  have extended : Consistent (({ provider with hostKey } : Provider).record
      (.checked connection actual .accepted)) := by
    refine held.extend (by rw [learned, first]) accepting.symm trivial trivial unpinned ?_
    rw [reported]
    simpa [List.countP_append, Event.isReport] using held.once
  refine extended.setPhase (extended.phases connection phase found).afterExchange ?_
  have moved := total_set Phase.reports found phase.afterExchange
  rw [Phase.reports_afterExchange] at moved
  have bound := extended.once
  simp only [Provider.record] at bound ⊢
  omega

theorem Consistent.reject (held : Consistent provider) {connection : Nat} {phase : Phase}
    {actual expected : String} (found : provider.connections[connection]? = some phase)
    (rejecting : verdictFor (identity provider.spec provider.log) actual = .rejected expected) :
    Consistent ((provider.setPhase connection .dead).record
      (.checked connection actual (.rejected expected))) := by
  have recorded : Consistent (provider.record (.checked connection actual (.rejected expected))) :=
    held.record rfl rfl rejecting.symm trivial
  exact recorded.advance found trivial rfl

theorem Consistent.present (held : Consistent provider) {connection : Nat} {phase : Phase}
    (found : provider.connections[connection]? = some phase) (actual : String) :
    Consistent (provider.present connection phase actual) := by
  unfold Provider.present checkServerKey
  rw [held.expected]
  cases known : identity provider.spec provider.log with
  | none =>
    have unpinned : provider.spec.pinnedHostKey = none := (Option.or_eq_none_iff.mp known).1
    exact held.accept found (by rw [known]; rfl) rfl (fun _ => unpinned) rfl
  | some expected =>
    by_cases differs : expected ≠ actual
    · simp only [if_pos differs]
      exact held.reject found (by simp [known, verdictFor, differs])
    · simp only [if_neg differs]
      refine held.accept found ?_ rfl ?_ rfl
      · simpa [known, verdictFor] using differs
      · intro newly
        cases pin : provider.spec.pinnedHostKey with
        | none => rfl
        | some value => simp [pin] at newly

theorem Consistent.toAuthorize (held : Consistent provider) {fingerprint : String}
    (asked : fingerprintToAuthorize provider.hostKey = .ok fingerprint) :
    firstAccepted provider.log = some fingerprint := by
  rw [← held.learned]
  unfold fingerprintToAuthorize at asked
  split at asked
  · rename_i value known
    cases asked
    exact known
  · cases asked

theorem Consistent.takePin (held : Consistent provider) {connection : Nat}
    (found : provider.connections[connection]? = some .authorized) {phase : Phase}
    (decided : (takePin provider.hostKey).2 = none ∧ phase = .live ∨
      ∃ fingerprint, (takePin provider.hostKey).2 = some fingerprint ∧ phase = .reporting fingerprint) :
    Consistent (({ provider with hostKey := (Ssh.takePin provider.hostKey).1 } :
      Provider).setPhase connection phase) := by
  have bound := held.once
  have marked : Consistent { provider with hostKey := (Ssh.takePin provider.hostKey).1 } := by
    refine { held with once := ?_ }
    simp only [Ssh.takePin, if_true]
    split at bound <;> omega
  rcases decided with ⟨-, rfl⟩ | ⟨fingerprint, taken, rfl⟩
  · exact marked.advance found trivial rfl
  · obtain ⟨known, granted, accepted, first⟩ := held.phases connection _ found
    -- a pin is handed out only while `reported` is still clear, so none was before
    simp only [Ssh.takePin] at taken
    split at taken
    · rename_i pending
      simp only [Bool.and_eq_true, Bool.not_eq_true'] at pending
      have same : granted = fingerprint := by
        rw [held.learned, first] at taken
        exact Option.some.inj taken
      subst same
      refine marked.setPhase ⟨held.unpinned pending.1, known, accepted, first⟩ ?_
      have moved := total_set Phase.reports found (.reporting granted)
      rw [pending.2] at bound
      simp only [Phase.reports, Ssh.takePin, if_true, Bool.false_eq_true, if_false] at moved bound ⊢
      omega
    · cases taken

theorem Consistent.reportPin (held : Consistent provider) {connection : Nat} {fingerprint : String}
    (found : provider.connections[connection]? = some (.reporting fingerprint)) :
    Consistent ((provider.setPhase connection .live).record
      (.hostKeyPinned connection fingerprint)) := by
  obtain ⟨unpinned, known, granted, first⟩ := held.phases connection _ found
  have bound := held.once
  have moved := total_set Phase.reports found .live
  have pending := le_total Phase.reports found
  simp only [Phase.reports] at moved pending
  have marked : provider.hostKey.reported = true := by
    by_contra clear
    rw [if_neg clear] at bound
    omega
  rw [if_pos marked] at bound
  have fresh : provider.log.countP Event.isReport = 0 := by omega
  have settled : Consistent (provider.setPhase connection .live) :=
    held.advance found trivial rfl
  refine @Consistent.extend _ settled provider.hostKey _ ?_ trivial trivial
    ⟨unpinned, identity_of_firstAccepted held.verdicts first, known, granted, ?_⟩ held.unpinned ?_
  · change provider.hostKey.fingerprint = firstAccepted (provider.log ++ _)
    rw [firstAccepted_neutral rfl]
    exact held.learned
  · intro event member
    exact Bool.eq_false_iff.mpr (List.countP_eq_zero.mp fresh event member)
  · rw [if_pos marked]
    simp only [Provider.setPhase, List.countP_append, List.countP_singleton, Event.isReport,
      if_true]
    omega

theorem Consistent.authenticate (held : Consistent provider) {connection : Nat}
    (found : provider.connections[connection]? = some .keyed) :
    Consistent ((provider.setPhase connection .authenticated).record (.authenticated connection)) := by
  have recorded : Consistent (provider.record (.authenticated connection)) :=
    held.record rfl rfl trivial trivial
  exact recorded.advance found (List.mem_append_right _ (List.mem_singleton_self _)) rfl

theorem Consistent.answer (held : Consistent provider) {connection : Nat} {fingerprint : String}
    (found : provider.connections[connection]? = some (.authorizing fingerprint)) (granted : Bool) :
    Consistent ((provider.setPhase connection (if granted then .authorized else .dead)).record
      (.authorizedConnection connection fingerprint granted)) := by
  obtain ⟨known, first⟩ := held.phases _ _ found
  have recorded : Consistent (provider.record (.authorizedConnection connection fingerprint granted)) :=
    held.record rfl rfl trivial trivial
  cases granted with
  | true =>
    refine recorded.advance found ⟨List.mem_append_left _ known, fingerprint, ?_, ?_⟩ rfl
    · exact List.mem_append_right _ (List.mem_singleton_self _)
    · exact firstAccepted_mono first _
  | false => exact recorded.advance found trivial rfl

theorem Consistent.answerChannel (held : Consistent provider) {channel connection : Nat} {fingerprint : String}
    (found : provider.channels[channel]? = some ⟨connection, .authorizing fingerprint⟩) (granted : Bool) :
    Consistent (({ provider with
      channels := provider.channels.set channel
        ⟨connection, if granted then .opening else .finished⟩ } : Provider).record
          (.authorizedChannel channel fingerprint granted)) := by
  have first : firstAccepted provider.log = some fingerprint := held.calls _ _ found
  have recorded : Consistent (provider.record (.authorizedChannel channel fingerprint granted)) :=
    held.record rfl rfl trivial trivial
  refine recorded.setChannel ?_
  cases granted with
  | true => exact ⟨fingerprint, List.mem_append_right _ (List.mem_singleton_self _), firstAccepted_mono first _⟩
  | false => trivial

theorem Consistent.openedChannel (held : Consistent provider) {channel connection : Nat}
    (found : provider.channels[channel]? = some ⟨connection, .opening⟩) :
    Consistent (({ provider with
      channels := provider.channels.set channel ⟨connection, .finished⟩ } : Provider).record
        (.channelOpened channel)) := by
  obtain ⟨fingerprint, granted, first⟩ := held.calls _ _ found
  have recorded : Consistent (provider.record (.channelOpened channel)) :=
    held.record rfl rfl trivial ⟨fingerprint, granted, identity_of_firstAccepted held.verdicts first⟩
  exact recorded.setChannel trivial

end Moves

section Steps
variable {Key : Type} {hostKeyFingerprint : Key → String} {provider next : Provider}

theorem Consistent.step (held : Consistent provider) {action : Action Key}
    (taken : step hostKeyFingerprint provider action = .next next) : Consistent next := by
  cases action with
  | attempt =>
    cases taken
    exact held.attempt
  | present connection key =>
    simp only [Ssh.step] at taken
    split at taken
    · rename_i phase found
      obtain ⟨-, same⟩ := Outcome.guarded_eq_next.mp taken
      cases same
      exact held.present found _
    · cases taken
  | abandon connection =>
    simp only [Ssh.step] at taken
    split at taken
    · rename_i phase found
      cases taken
      exact held.advance found trivial rfl
    · cases taken
  | authenticate connection success =>
    simp only [Ssh.step] at taken
    split at taken
    · rename_i found
      cases success with
      | true =>
        cases taken
        exact held.authenticate found
      | false =>
        cases taken
        exact held.advance found trivial rfl
    · cases taken
  | askObserver connection =>
    simp only [Ssh.step] at taken
    split at taken
    · rename_i found
      split at taken
      · rename_i fingerprint asked
        cases taken
        exact held.advance found ⟨held.phases _ _ found, held.toAuthorize asked⟩ rfl
      · cases taken
        exact held.advance found trivial rfl
    · cases taken
  | observerAnswers connection granted =>
    simp only [Ssh.step] at taken
    split at taken
    · rename_i fingerprint found
      cases taken
      exact held.answer found granted
    · cases taken
  | takePin connection =>
    simp only [Ssh.step] at taken
    split at taken
    · rename_i found
      split at taken
      · rename_i hostKey fingerprint decided
        cases taken
        have state : (Ssh.takePin provider.hostKey).1 = hostKey := by rw [decided]
        rw [← state]
        exact held.takePin found (Or.inr ⟨fingerprint, by rw [decided], rfl⟩)
      · rename_i hostKey decided
        cases taken
        have state : (Ssh.takePin provider.hostKey).1 = hostKey := by rw [decided]
        rw [← state]
        exact held.takePin found (Or.inl ⟨by rw [decided], rfl⟩)
    · cases taken
  | reportPin connection =>
    simp only [Ssh.step] at taken
    split at taken
    · rename_i fingerprint found
      cases taken
      exact held.reportPin found
    · cases taken
  | openChannel connection =>
    simp only [Ssh.step] at taken
    split at taken
    · split at taken
      · rename_i fingerprint asked
        cases taken
        exact held.startChannel (held.toAuthorize asked)
      · cases taken
        exact held.startChannel trivial
    · cases taken
  | observerAnswersChannel channel granted =>
    simp only [Ssh.step] at taken
    split at taken
    · rename_i connection fingerprint found
      cases taken
      exact held.answerChannel found granted
    · cases taken
  | channelAnswered channel opened =>
    simp only [Ssh.step] at taken
    split at taken
    · rename_i connection found
      cases opened with
      | true =>
        cases taken
        exact held.openedChannel found
      | false =>
        cases taken
        exact held.setChannel trivial
    · cases taken

theorem spec_present (connection : Nat) (phase : Phase) (actual : String) :
    (provider.present connection phase actual).spec = provider.spec := by
  unfold Provider.present
  split <;> rfl

theorem spec_step {action : Action Key}
    (taken : step hostKeyFingerprint provider action = .next next) :
    next.spec = provider.spec := by
  cases action with
  | present connection key =>
    simp only [step] at taken
    split at taken
    · obtain ⟨-, same⟩ := Outcome.guarded_eq_next.mp taken
      cases same
      exact spec_present ..
    · cases taken
  | _ =>
    simp only [step] at taken
    repeat' split at taken
    all_goals first | cases taken; rfl | cases taken

theorem consistent_of_run {spec : Spec} {actions : List (Action Key)}
    (run : Run (step hostKeyFingerprint) (Provider.new spec) actions provider) :
    Consistent provider ∧ provider.spec = spec := by
  have kept : ∀ (state : Provider) (action : Action Key) (after : Provider),
      (Consistent state ∧ state.spec = spec) → step hostKeyFingerprint state action = .next after →
      (Consistent after ∧ after.spec = spec) := by
    rintro state action after ⟨held, same⟩ taken
    exact ⟨held.step taken, (spec_step taken).trans same⟩
  exact run.preserves kept ⟨Consistent.new spec, rfl⟩

/-- Over every run: all accepted keys have the trusted fingerprint, every opened
channel was granted on it, and it is reported at most once, by a connection that
authenticated and was authorized, and only when no pin is configured. -/
theorem host_key_continuity {spec : Spec} {actions : List (Action Key)}
    (run : Run (step hostKeyFingerprint) (Provider.new spec) actions provider) :
    (∀ connection fingerprint, Event.checked connection fingerprint .accepted ∈ provider.log →
      identity spec provider.log = some fingerprint) ∧
    Recorded (ChannelLaw spec) provider.log ∧ Recorded (PinLaw spec) provider.log := by
  obtain ⟨held, rfl⟩ := consistent_of_run run
  refine ⟨?_, held.opened, held.pins⟩
  intro connection fingerprint member
  exact identity_of_accepted held.verdicts member

def firstUse : List (Action String) :=
  [.attempt, .present 0 "SHA256:one", .authenticate 0 true, .askObserver 0,
    .observerAnswers 0 true, .takePin 0, .reportPin 0, .openChannel 0,
    .observerAnswersChannel 0 true, .channelAnswered 0 true]

def firstUseLog : List Event :=
  [.checked 0 "SHA256:one" .accepted, .authenticated 0, .authorizedConnection 0 "SHA256:one" true,
    .hostKeyPinned 0 "SHA256:one", .authorizedChannel 0 "SHA256:one" true, .channelOpened 0]

theorem host_key_continuity_first_use :
    identity ⟨"seedbox", 22, none⟩ firstUseLog = some "SHA256:one" ∧
    Recorded (ChannelLaw ⟨"seedbox", 22, none⟩) firstUseLog ∧
    Recorded (PinLaw ⟨"seedbox", 22, none⟩) firstUseLog := by
  have run : Run (step id) (Provider.new ⟨"seedbox", 22, none⟩) firstUse
      ⟨⟨"seedbox", 22, none⟩, ⟨some "SHA256:one", true, true⟩, [.live], [⟨0, .finished⟩],
        firstUseLog⟩ := run_of_execute rfl
  obtain ⟨accepted, opened, pins⟩ := host_key_continuity run
  exact ⟨accepted 0 _ (List.mem_cons_self ..), opened, pins⟩

end Steps

end ProxyTunnels.Ssh
