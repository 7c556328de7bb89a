import Mathlib.Tactic.Ring
import ProxyTunnels.Http3.Addresses

/-! How `connect_addresses` shares a dial's time between the addresses.

Every attempt gets an equal share, rounded down, of what the earlier ones left over. The
number of shares is a length cast to 32 bits; a longer list could make it wrap to zero, by
which a duration must not be divided.
-/

set_option autoImplicit false

namespace ProxyTunnels.Http3.Addresses
open Machine

section Sharing
variable {budget count shares remaining spent : Nat}

theorem share_keeps (covered : budget * (shares + 1) ≤ remaining * count)
    (within : spent ≤ remaining / (shares + 1)) : budget * shares ≤ (remaining - spent) * count := by
  have whole : spent * (shares + 1) ≤ remaining := (Nat.le_div_iff_mul_le (Nat.succ_pos _)).mp within
  have kept : remaining * shares ≤ (remaining - spent) * (shares + 1) := by
    rw [Nat.sub_mul, Nat.mul_succ]
    omega
  have scaled : budget * shares * (shares + 1) ≤ (remaining - spent) * count * (shares + 1) :=
    calc budget * shares * (shares + 1) = budget * (shares + 1) * shares := by ring
      _ ≤ remaining * count * shares := Nat.mul_le_mul_right _ covered
      _ = remaining * shares * count := by ring
      _ ≤ (remaining - spent) * (shares + 1) * count := Nat.mul_le_mul_right _ kept
      _ = (remaining - spent) * count * (shares + 1) := by ring
  exact Nat.le_of_mul_le_mul_right scaled (Nat.succ_pos _)

theorem share_ge (nonempty : 0 < count) (some : 0 < shares) (covered : budget * shares ≤ remaining * count) :
    budget / count ≤ remaining / shares := by
  rw [Nat.le_div_iff_mul_le some]
  refine Nat.le_of_mul_le_mul_right ?_ nonempty
  calc budget / count * shares * count = budget / count * count * shares := by ring
    _ ≤ budget * shares := Nat.mul_le_mul_right _ (Nat.div_mul_le_self budget count)
    _ ≤ remaining * count := covered

end Sharing

section Clock
variable (deadline count : Nat)

/-- One attempt that fails after `duration`, not past its deadline, and leaves the rest to
the next address. -/
def Clock.step (clock : Clock) (duration : Nat) : Outcome Clock :=
  .guarded (decide (clock.index < count ∧ clock.remaining deadline ≠ 0))
    ((clock.attemptDeadline deadline count).bind fun attemptDeadline =>
      .guarded (decide (clock.now + duration ≤ attemptDeadline))
        (.next ⟨clock.now + duration, clock.index + 1⟩))

end Clock

section Fairness
variable {deadline count budget : Nat}

structure Clock.Fair (deadline count budget : Nat) (clock : Clock) : Prop where
  early : clock.now ≤ deadline
  inside : clock.index ≤ count
  covered : budget * (count - clock.index) ≤ clock.remaining deadline * count

theorem divisor_toNat (short : count < 2 ^ 32) (clock : Clock) :
    (clock.divisor count).toNat = count - clock.index := by
  unfold Clock.divisor
  rw [UInt32.toNat_ofNat']
  exact Nat.mod_eq_of_lt (by omega)

theorem divisor_ne_zero (short : count < 2 ^ 32) {clock : Clock} (inside : clock.index < count) :
    clock.divisor count ≠ 0 := by
  intro zero
  have value := divisor_toNat short clock
  rw [zero, UInt32.toNat_zero] at value
  omega

theorem attemptDeadline_eq (short : count < 2 ^ 32) {clock : Clock} (inside : clock.index < count) :
    clock.attemptDeadline deadline count =
      .next (clock.now + clock.remaining deadline / (count - clock.index)) := by
  unfold Clock.attemptDeadline
  rw [if_neg (divisor_ne_zero short inside), divisor_toNat short]

theorem step_fair (short : count < 2 ^ 32) (clock : Clock) (duration : Nat) (next : Clock)
    (fair : clock.Fair deadline count budget) (taken : clock.step deadline count duration = .next next) :
    next.Fair deadline count budget := by
  obtain ⟨enabled, moved⟩ := Outcome.guarded_eq_next.mp taken
  obtain ⟨inside, -⟩ := of_decide_eq_true enabled
  rw [attemptDeadline_eq short inside] at moved
  obtain ⟨punctual, moved⟩ := Outcome.guarded_eq_next.mp moved
  have within : clock.now + duration ≤ clock.now + clock.remaining deadline / (count - clock.index) :=
    of_decide_eq_true punctual
  have share : clock.remaining deadline / (count - clock.index) ≤ clock.remaining deadline :=
    Nat.div_le_self _ _
  have early := fair.early
  have covered := fair.covered
  cases moved
  refine ⟨?_, inside, ?_⟩
  · unfold Clock.remaining at share within
    show clock.now + duration ≤ deadline
    omega
  · obtain ⟨shares, shape⟩ : ∃ shares, count - clock.index = shares + 1 :=
      ⟨count - clock.index - 1, by omega⟩
    rw [shape] at covered within
    have later : count - (clock.index + 1) = shares := by omega
    have left : (Clock.remaining deadline ⟨clock.now + duration, clock.index + 1⟩) =
        clock.remaining deadline - duration := Nat.sub_add_eq _ _ _
    rw [later, left]
    exact share_keeps covered (by omega)

theorem run_fair (short : count < 2 ^ 32) {start : Nat} {durations : List Nat} {clock : Clock}
    (run : Run (Clock.step (start + budget) count) ⟨start, 0⟩ durations clock) :
    clock.Fair (start + budget) count budget := by
  refine Run.preserves (step_fair short) run ⟨Nat.le_add_right _ _, Nat.zero_le _, ?_⟩
  simp [Clock.remaining]

/-- With fewer addresses than the cast can hold, every attempt is left its share of the budget
and is given at least that, the last one is given all that remains, and no attempt's deadline
is past the dial's. -/
theorem budget_shared_fairly (count budget start : Nat) (nonempty : 1 ≤ count) (short : count < 2 ^ 32)
    (durations : List Nat) (clock : Clock)
    (run : Run (Clock.step (start + budget) count) ⟨start, 0⟩ durations clock)
    (inside : clock.index < count) :
    budget * (count - clock.index) ≤ clock.remaining (start + budget) * count ∧
      clock.divisor count ≠ 0 ∧
      ∃ attemptDeadline, clock.attemptDeadline (start + budget) count = .next attemptDeadline ∧
        attemptDeadline ≤ start + budget ∧
        clock.now + budget / count ≤ attemptDeadline ∧
        (clock.index + 1 = count → attemptDeadline = start + budget) := by
  have fair := run_fair short run
  refine ⟨fair.covered, divisor_ne_zero short inside, _, attemptDeadline_eq short inside, ?_, ?_, ?_⟩
  · have share : clock.remaining (start + budget) / (count - clock.index) ≤ clock.remaining (start + budget) :=
      Nat.div_le_self _ _
    have early := fair.early
    unfold Clock.remaining at share ⊢
    omega
  · exact Nat.add_le_add_left (share_ge nonempty (Nat.sub_pos_of_lt inside) fair.covered) _
  · intro last
    have alone : count - clock.index = 1 := by omega
    rw [alone, Nat.div_one]
    exact Nat.add_sub_cancel' fair.early

/-- Three addresses and ten nanoseconds: after a first attempt that used its share and a second
that ended early, the third has the remaining six. -/
theorem budget_shared_fairly_three :
    Clock.attemptDeadline 10 3 ⟨4, 2⟩ = .next 10 ∧ 10 * (3 - 2) ≤ Clock.remaining 10 ⟨4, 2⟩ * 3 := by
  have run : Run (Clock.step (0 + 10) 3) ⟨0, 0⟩ [3, 1] ⟨4, 2⟩ := run_of_execute rfl
  obtain ⟨covered, -, attemptDeadline, given, -, -, last⟩ :=
    budget_shared_fairly 3 10 0 (by decide) (by decide) [3, 1] ⟨4, 2⟩ run (by decide)
  cases last rfl
  exact ⟨given, covered⟩

/-- At 2 ^ 32 addresses the cast gives zero and the first division panics; with one address
more the first attempt is given the whole budget, and may leave nothing. -/
theorem wrapped_divisor :
    Clock.attemptDeadline 8 (2 ^ 32) ⟨0, 0⟩ = .panicked ∧
      Clock.attemptDeadline 8 (2 ^ 32 + 1) ⟨0, 0⟩ = .next 8 ∧
      ∃ clock, Run (Clock.step 8 (2 ^ 32 + 1)) ⟨0, 0⟩ [8] clock ∧ clock.remaining 8 = 0 := by
  have run : Run (Clock.step 8 (2 ^ 32 + 1)) ⟨0, 0⟩ [8] ⟨8, 1⟩ := run_of_execute rfl
  exact ⟨rfl, rfl, _, run, rfl⟩

/-- Time does not go back, and no attempt before `index` runs past its own deadline. -/
def Network.Punctual (network : Network) (deadline count index : Nat) : Prop :=
  ∀ earlier < index, network.now earlier ≤ network.now (earlier + 1) ∧
    ∀ attemptDeadline, (network.clock earlier).attemptDeadline deadline count = .next attemptDeadline →
      network.now (earlier + 1) ≤ attemptDeadline

theorem Clock.Fair.now_lt {clock : Clock} (fair : clock.Fair deadline count budget) (positive : 0 < budget)
    (inside : clock.index < count) : clock.now < deadline := by
  have shares : 0 < budget * (count - clock.index) := Nat.mul_pos positive (Nat.sub_pos_of_lt inside)
  have remains : 0 < clock.remaining deadline := Nat.pos_of_mul_pos_right (shares.trans_le fair.covered)
  exact Nat.lt_of_sub_pos remains

theorem Network.Punctual.step {network : Network} {index : Nat} (short : count < 2 ^ 32)
    (inside : index < count) (early : network.now index < deadline)
    (punctual : network.Punctual deadline count (index + 1)) :
    Clock.step deadline count ⟨network.now index, index⟩ (network.now (index + 1) - network.now index) =
      .next ⟨network.now (index + 1), index + 1⟩ := by
  obtain ⟨forward, within⟩ := punctual index (Nat.lt_succ_self index)
  have arrives : network.now index + (network.now (index + 1) - network.now index) =
      network.now (index + 1) := Nat.add_sub_cancel' forward
  have remains : Clock.remaining deadline ⟨network.now index, index⟩ ≠ 0 := Nat.sub_ne_zero_of_lt early
  have given := @attemptDeadline_eq deadline count short (network.clock index) inside
  have punctually := within _ given
  simp only [Network.clock] at given punctually
  simp [Clock.step, given, Outcome.bind, Outcome.guarded, arrives, punctually, inside, remains]

theorem Network.Punctual.inTime {network : Network} (short : count < 2 ^ 32)
    (ahead : network.now 0 < deadline) (punctual : network.Punctual deadline count (count - 1)) :
    ∀ index < count, network.now index < deadline := by
  obtain ⟨budget, rfl⟩ := Nat.exists_eq_add_of_le ahead.le
  have positive : 0 < budget := by omega
  -- The loop's clock reaches every index, so what holds along its runs holds of the network's times.
  have reached : ∀ index < count, ∃ durations,
      Run (Clock.step (network.now 0 + budget) count) ⟨network.now 0, 0⟩ durations
        ⟨network.now index, index⟩ := by
    intro index
    induction index with
    | zero => exact fun _ => ⟨[], .done⟩
    | succ index ih =>
      intro inside
      obtain ⟨durations, run⟩ := ih (Nat.lt_of_succ_lt inside)
      have early := (run_fair short run).now_lt positive (Nat.lt_of_succ_lt inside)
      have taken := Network.Punctual.step short (Nat.lt_of_succ_lt inside) early
        fun earlier before => punctual earlier (by omega)
      exact ⟨_, run.append (.single trivial taken)⟩
  intro index inside
  obtain ⟨durations, run⟩ := reached index inside
  exact (run_fair short run).now_lt positive inside

end Fairness

end ProxyTunnels.Http3.Addresses
