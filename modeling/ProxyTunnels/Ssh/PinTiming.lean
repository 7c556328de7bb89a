import ProxyTunnels.Ssh.Continuity

/-! When an unpinned provider starts to compare later servers with an earlier one.

`check_server_key` stores the presented fingerprint during the key exchange, before
authentication and authorization are attempted, and nothing clears it when they fail.
So the key that later servers are held to is the first one any server presented.
Whether that server ever proved itself is a matter of how the attempts went.
-/

set_option autoImplicit false

namespace ProxyTunnels.Ssh
open Machine

def Event.presentedKey : Event → Option String
  | .checked _ fingerprint _ => some fingerprint
  | _ => none

def firstPresented (log : List Event) : Option String := log.findSome? Event.presentedKey

def Proven (log : List Event) (fingerprint : String) : Prop :=
  ∃ connection, (∃ verdict, Event.checked connection fingerprint verdict ∈ log) ∧
    Event.authenticated connection ∈ log ∧
    ∃ asked, Event.authorizedConnection connection asked true ∈ log

def RefusalLaw (before : List Event) : Event → Prop
  | .checked _ _ (.rejected expected) => Proven before expected
  | _ => True

def ArrivalLaw (before : List Event) : Event → Prop
  | .checked _ fingerprint _ => ∀ first, firstPresented before = some first →
      fingerprint ≠ first → Proven before first
  | _ => True

theorem firstPresented_eq_firstAccepted {spec : Spec} (unpinned : spec.pinnedHostKey = none)
    {log : List Event} (lawful : Recorded (VerdictLaw spec) log) :
    firstPresented log = firstAccepted log := by
  induction log using List.reverseRecOn with
  | nil => rfl
  | append_singleton log last ih =>
    obtain ⟨earlier, newest⟩ := recorded_concat.mp lawful
    have same := ih earlier
    rw [firstAccepted_concat, ← same]
    unfold firstPresented at same ⊢
    rw [findSome?_concat]
    cases last with
    | checked connection fingerprint verdict =>
      cases known : log.findSome? Event.presentedKey with
      | some first => rfl
      | none =>
        have nothing : firstAccepted log = none := same.symm.trans known
        have accepting : verdict = .accepted := by
          rw [show verdict = _ from newest, identity, unpinned, nothing]
          rfl
        subst accepting
        rfl
    | _ => rfl

/-- One key exchange is refused fairly exactly when it arrives fairly. -/
theorem refusalLaw_iff_arrivalLaw {spec : Spec} (unpinned : spec.pinnedHostKey = none)
    {before : List Event} {event : Event} (lawful : Recorded (VerdictLaw spec) before)
    (newest : VerdictLaw spec before event) : RefusalLaw before event ↔ ArrivalLaw before event := by
  cases event with
  | checked connection fingerprint verdict =>
    have decided : verdict = verdictFor (firstPresented before) fingerprint := by
      rw [firstPresented_eq_firstAccepted unpinned lawful]
      simpa [VerdictLaw, identity, unpinned] using newest
    subst decided
    cases known : firstPresented before with
    | none => simp [verdictFor, RefusalLaw, ArrivalLaw, known]
    | some first =>
      by_cases same : first = fingerprint
      · subst same
        simp [verdictFor, RefusalLaw, ArrivalLaw, known]
      · simp [verdictFor, RefusalLaw, ArrivalLaw, known, same, Ne.symm same]
  | _ => exact Iff.rfl

section Runs
variable {Key : Type} {hostKeyFingerprint : Key → String} {provider : Provider}

/-- Over every run without a configured pin: keys are refused only for a proven
fingerprint exactly when every key that differs from the first presented one
arrives after the first one was proven. -/
theorem refused_for_proven_iff {spec : Spec} (unpinned : spec.pinnedHostKey = none)
    {actions : List (Action Key)}
    (run : Run (step hostKeyFingerprint) (Provider.new spec) actions provider) :
    Recorded RefusalLaw provider.log ↔ Recorded ArrivalLaw provider.log := by
  obtain ⟨held, rfl⟩ := consistent_of_run run
  exact recorded_iff held.verdicts fun before event lawful newest =>
    refusalLaw_iff_arrivalLaw unpinned lawful newest

theorem refused_for_proven_iff_rebuilt :
    ∃ provider, Run (step id) (Provider.new ⟨"seedbox", 22, none⟩)
      [.attempt, .present 0 "SHA256:one", .authenticate 0 true, .askObserver 0,
        .observerAnswers 0 true, .attempt, .present 1 "SHA256:two"] provider ∧
      Event.checked 1 "SHA256:two" (.rejected "SHA256:one") ∈ provider.log ∧
      (Recorded RefusalLaw provider.log ↔ Recorded ArrivalLaw provider.log) := by
  let provider : Provider := ⟨⟨"seedbox", 22, none⟩, ⟨some "SHA256:one", true, false⟩,
    [.authorized, .dead], [], [.checked 0 "SHA256:one" .accepted, .authenticated 0,
      .authorizedConnection 0 "SHA256:one" true,
      .checked 1 "SHA256:two" (.rejected "SHA256:one")]⟩
  have run : Run (step id) (Provider.new ⟨"seedbox", 22, none⟩)
      [.attempt, .present 0 "SHA256:one", .authenticate 0 true, .askObserver 0,
        .observerAnswers 0 true, .attempt, .present 1 "SHA256:two"] provider := run_of_execute rfl
  exact ⟨provider, run, by decide, refused_for_proven_iff rfl run⟩

/-- The first server fails to authenticate us, and the genuine one is then refused
for the impostor's sake. -/
theorem refused_for_unproven_key :
    ∃ provider, Run (step id) (Provider.new ⟨"seedbox", 22, none⟩)
      [.attempt, .present 0 "SHA256:one", .authenticate 0 false,
        .attempt, .present 1 "SHA256:two"] provider ∧
      ¬ Recorded RefusalLaw provider.log := by
  refine ⟨⟨⟨"seedbox", 22, none⟩, ⟨some "SHA256:one", true, false⟩, [.dead, .dead], [],
    [.checked 0 "SHA256:one" .accepted, .checked 1 "SHA256:two" (.rejected "SHA256:one")]⟩,
    run_of_execute rfl, ?_⟩
  intro fair
  have proven : Proven [.checked 0 "SHA256:one" .accepted] "SHA256:one" :=
    fair [.checked 0 "SHA256:one" .accepted] _ [] rfl
  obtain ⟨connection, -, authenticated, -⟩ := proven
  simp at authenticated

end Runs

end ProxyTunnels.Ssh
