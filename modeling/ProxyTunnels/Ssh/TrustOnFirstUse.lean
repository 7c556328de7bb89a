import ProxyTunnels.Ssh.HostKey

/-! What the host-key log of a provider satisfies over every interleaving.

The learned fingerprint is a function of the log: it is the first key any handshake
accepted. So each verdict is decided by the past of its key exchange, and the pin
report, the observer's answers and the channels all speak about one fingerprint.
-/

set_option autoImplicit false

namespace ProxyTunnels.Ssh
open Machine

def Event.acceptedKey : Event → Option String
  | .checked _ fingerprint .accepted => some fingerprint
  | _ => none

def Event.isReport : Event → Bool
  | .hostKeyPinned _ _ => true
  | _ => false

def firstAccepted (log : List Event) : Option String := log.findSome? Event.acceptedKey

/-- The one fingerprint a provider trusts: the configured pin, else the first accepted key. -/
def identity (spec : Spec) (log : List Event) : Option String :=
  spec.pinnedHostKey.or (firstAccepted log)

def verdictFor (expected : Option String) (actual : String) : Verdict :=
  match expected with
  | some expected => if expected ≠ actual then .rejected expected else .accepted
  | none => .accepted

theorem firstAccepted_concat (log : List Event) (event : Event) :
    firstAccepted (log ++ [event]) = (firstAccepted log).or event.acceptedKey :=
  findSome?_concat Event.acceptedKey log event

theorem firstAccepted_mono {log : List Event} {fingerprint : String}
    (known : firstAccepted log = some fingerprint) (event : Event) :
    firstAccepted (log ++ [event]) = some fingerprint := by
  rw [firstAccepted_concat, known]
  rfl

theorem firstAccepted_neutral {event : Event} (neutral : event.acceptedKey = none)
    (log : List Event) : firstAccepted (log ++ [event]) = firstAccepted log := by
  rw [firstAccepted_concat, neutral, Option.or_none]

theorem accepted_of_verdict {expected : Option String} {actual : String}
    (accepting : verdictFor expected actual = .accepted) :
    expected.or (some actual) = some actual := by
  cases expected with
  | none => rfl
  | some known =>
    by_cases same : known = actual
    · subst same; rfl
    · simp [verdictFor, same] at accepting

def VerdictLaw (spec : Spec) (before : List Event) : Event → Prop
  | .checked _ fingerprint verdict => verdict = verdictFor (identity spec before) fingerprint
  | _ => True

def ChannelLaw (spec : Spec) (before : List Event) : Event → Prop
  | .channelOpened channel => ∃ fingerprint,
      .authorizedChannel channel fingerprint true ∈ before ∧ identity spec before = some fingerprint
  | _ => True

/-- A pin report names the trusted fingerprint of an unpinned provider, follows the
same connection's authentication and authorization, and is the first report. -/
def PinLaw (spec : Spec) (before : List Event) : Event → Prop
  | .hostKeyPinned connection fingerprint =>
      spec.pinnedHostKey = none ∧ identity spec before = some fingerprint ∧
      .authenticated connection ∈ before ∧
      .authorizedConnection connection fingerprint true ∈ before ∧
      ∀ event ∈ before, event.isReport = false
  | _ => True

theorem identity_of_firstAccepted {spec : Spec} {log : List Event} {fingerprint : String}
    (lawful : Recorded (VerdictLaw spec) log) (known : firstAccepted log = some fingerprint) :
    identity spec log = some fingerprint := by
  cases pin : spec.pinnedHostKey with
  | none => simp [identity, pin, known]
  | some pinned =>
    obtain ⟨event, member, selected⟩ := List.exists_of_findSome?_eq_some known
    obtain ⟨before, after, -, law⟩ := lawful.of_mem member
    cases event with
    | checked connection presented verdict =>
      cases verdict with
      | rejected expected => cases selected
      | accepted =>
        simp only [Event.acceptedKey, Option.some.injEq] at selected
        subst selected
        have accepting := accepted_of_verdict (Eq.symm law)
        simpa [identity, pin] using accepting
    | _ => cases selected

theorem identity_of_accepted {spec : Spec} {log : List Event} {connection : Nat}
    {fingerprint : String} (lawful : Recorded (VerdictLaw spec) log)
    (member : Event.checked connection fingerprint .accepted ∈ log) :
    identity spec log = some fingerprint := by
  obtain ⟨before, after, rfl, law⟩ := lawful.of_mem member
  have accepting := accepted_of_verdict (Eq.symm law)
  simp only [identity, firstAccepted, List.findSome?_append, List.findSome?_cons,
    Event.acceptedKey] at accepting ⊢
  rw [← Option.or_assoc]
  cases known : spec.pinnedHostKey.or (before.findSome? Event.acceptedKey) with
  | none => simp
  | some value => simpa [known] using accepting

end ProxyTunnels.Ssh
