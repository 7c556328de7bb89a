import Mathlib.Data.List.Induction
import ProxyTunnels.Machine.Run

/-! Laws about what each logged event is preceded by.

A log is kept oldest first. `Recorded law log` says that every event of the log
stands in `law` to the part of the log before it, so a temporal statement ("only
after", "at most once", "never before") is one predicate on a past and an event.
-/

set_option autoImplicit false

namespace ProxyTunnels.Machine

variable {ε : Type} {law : List ε → ε → Prop}

def Recorded (law : List ε → ε → Prop) (log : List ε) : Prop :=
  ∀ before event after, log = before ++ event :: after → law before event

theorem Recorded.nil : Recorded law [] := by
  intro before event after same
  simp at same

theorem concat_split {log before after : List ε} {last event : ε}
    (same : log ++ [last] = before ++ event :: after) :
    (after = [] ∧ before = log ∧ event = last) ∨
      ∃ shorter, after = shorter ++ [last] ∧ log = before ++ event :: shorter := by
  rcases List.eq_nil_or_concat after with rfl | ⟨shorter, final, rfl⟩
  · obtain ⟨front, back⟩ := List.append_inj' same rfl
    simp only [List.cons.injEq, and_true] at back
    exact Or.inl ⟨rfl, front.symm, back.symm⟩
  · rw [List.concat_eq_append] at same ⊢
    have regrouped : log ++ [last] = (before ++ event :: shorter) ++ [final] := by
      simpa only [List.append_assoc, List.cons_append] using same
    obtain ⟨front, back⟩ := List.append_inj' regrouped rfl
    simp only [List.cons.injEq, and_true] at back
    exact Or.inr ⟨shorter, by rw [back], front⟩

/-- The step rule: a longer log is lawful when its newest event is. -/
theorem recorded_concat {log : List ε} {last : ε} :
    Recorded law (log ++ [last]) ↔ Recorded law log ∧ law log last := by
  constructor
  · intro held
    refine ⟨fun before event after same => ?_, held log last [] rfl⟩
    exact held before event (after ++ [last]) (by rw [same, List.append_assoc, List.cons_append])
  · rintro ⟨earlier, newest⟩ before event after same
    rcases concat_split same with ⟨rfl, rfl, rfl⟩ | ⟨shorter, rfl, past⟩
    · exact newest
    · exact earlier before event shorter past

theorem Recorded.of_mem {log : List ε} {event : ε} (held : Recorded law log)
    (member : event ∈ log) : ∃ before after, log = before ++ event :: after ∧ law before event := by
  obtain ⟨before, after, same⟩ := List.append_of_mem member
  exact ⟨before, after, same, held before event after same⟩

theorem recorded_iff {other known : List ε → ε → Prop} {log : List ε}
    (held : Recorded known log)
    (same : ∀ before event, Recorded known before → known before event →
      (law before event ↔ other before event)) : Recorded law log ↔ Recorded other log := by
  induction log using List.reverseRecOn with
  | nil => exact ⟨fun _ => Recorded.nil, fun _ => Recorded.nil⟩
  | append_singleton log last ih =>
    obtain ⟨earlier, newest⟩ := recorded_concat.mp held
    rw [recorded_concat, recorded_concat, ih earlier, same log last earlier newest]

theorem findSome?_concat {β : Type} (select : ε → Option β) (log : List ε) (last : ε) :
    (log ++ [last]).findSome? select = (log.findSome? select).or (select last) := by
  rw [List.findSome?_append]
  cases found : select last <;> simp [List.findSome?, found]

end ProxyTunnels.Machine
