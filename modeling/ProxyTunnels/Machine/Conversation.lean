import Mathlib.Data.List.Basic

/-! Programs that talk over a byte stream: exact reads, whole writes, early exits.

A `Wire` is what one end of a stream still has to read and has already written. A
`Talk` runs on a wire and leaves one behind whether or not it succeeds, so how much
was consumed is part of every result. The rules below peel a successful run apart
one operation at a time, follow what is said over a wire that delivers, and show that
a run which did not starve does not depend on what it left unread.
-/

set_option autoImplicit false

namespace ProxyTunnels.Machine

/-- The bytes up to the peer's EOF, the writes made so far, and which writes succeed. -/
structure Wire where
  unread : List UInt8
  written : List (List UInt8)
  delivers : Nat → Bool

inductive WireError where
  | unexpectedEof
  | writeFailed
  deriving DecidableEq, Repr

def Wire.Reliable (wire : Wire) : Prop := ∀ count, wire.delivers count = true

def Wire.rest (wire : Wire) (unread : List UInt8) : Wire := { wire with unread }

def Wire.wrote (wire : Wire) (bytes : List UInt8) : Wire :=
  { wire with written := wire.written ++ [bytes] }

@[simp] theorem Wire.rest_unread (wire : Wire) (unread : List UInt8) :
    (wire.rest unread).unread = unread := rfl

theorem Wire.Reliable.rest {wire : Wire} (reliable : wire.Reliable) (unread : List UInt8) :
    (wire.rest unread).Reliable := reliable

theorem Wire.Reliable.wrote {wire : Wire} (reliable : wire.Reliable) (bytes : List UInt8) :
    (wire.wrote bytes).Reliable := reliable

def Talk (ε α : Type) := Wire → Except ε α × Wire

section Operations
variable {ε α β : Type}

def Talk.pure (value : α) : Talk ε α := fun wire => (.ok value, wire)

def Talk.bind (talk : Talk ε α) (next : α → Talk ε β) : Talk ε β := fun wire =>
  match talk wire with
  | (.ok value, later) => next value later
  | (.error failure, later) => (.error failure, later)

instance : Monad (Talk ε) where
  pure := Talk.pure
  bind := Talk.bind

def Talk.fail (failure : ε) : Talk ε α := fun wire => (.error failure, wire)

/-- Run for its writes only, as `let _ =` does. -/
def Talk.ignore (talk : Talk ε Unit) : Talk ε Unit := fun wire => (.ok (), (talk wire).2)

/-- Leave through `refusal` unless the check holds. -/
def Talk.require (check : Bool) (refusal : Talk ε Unit) : Talk ε Unit :=
  if check then Talk.pure () else refusal

/-- `read_exact`: all of the bytes, or an error that has eaten what there was. -/
def Talk.readExact (wrap : WireError → ε) (count : Nat) : Talk ε (List UInt8) := fun wire =>
  if count ≤ wire.unread.length then (.ok (wire.unread.take count), wire.rest (wire.unread.drop count))
  else (.error (wrap .unexpectedEof), wire.rest [])

/-- `write_all`. A failed write stays failed: the count of writes does not move on. -/
def Talk.writeAll (wrap : WireError → ε) (bytes : List UInt8) : Talk ε Unit := fun wire =>
  if wire.delivers wire.written.length then (.ok (), wire.wrote bytes)
  else (.error (wrap .writeFailed), wire)

end Operations

section Rules
variable {ε α β : Type} {wrap : WireError → ε} {wire final : Wire} {value : β}

def Talk.Refuses (talk : Talk ε α) : Prop := ∀ wire value later, talk wire ≠ (.ok value, later)

theorem Talk.fail_refuses (failure : ε) : (Talk.fail failure : Talk ε α).Refuses := by
  intro wire value later same
  simp [Talk.fail] at same

theorem Talk.bind_ok {talk : Talk ε α} {next : α → Talk ε β} :
    (talk >>= next) wire = (.ok value, final) ↔
      ∃ middle later, talk wire = (.ok middle, later) ∧ next middle later = (.ok value, final) := by
  change Talk.bind talk next wire = _ ↔ _
  unfold Talk.bind
  rcases talk wire with ⟨failure | middle, later⟩
  · simp
  · simp

theorem Talk.bind_refuses {talk : Talk ε α} {next : α → Talk ε β}
    (refuses : ∀ value, (next value).Refuses) : (talk >>= next).Refuses := by
  intro wire value later same
  obtain ⟨middle, between, -, last⟩ := Talk.bind_ok.mp same
  exact refuses middle _ _ _ last

theorem Talk.pure_ok {middle : β} :
    (Pure.pure middle : Talk ε β) wire = (.ok value, final) ↔ value = middle ∧ final = wire := by
  change (Except.ok middle, wire) = _ ↔ _
  simp only [Prod.mk.injEq, Except.ok.injEq]
  exact and_congr eq_comm eq_comm

theorem Talk.readExact_bind {count : Nat} {next : List UInt8 → Talk ε β} :
    (Talk.readExact wrap count >>= next) wire = (.ok value, final) ↔
      ∃ bytes unread, bytes.length = count ∧ wire.unread = bytes ++ unread ∧
        next bytes (wire.rest unread) = (.ok value, final) := by
  rw [Talk.bind_ok]
  constructor
  · rintro ⟨bytes, later, taken, continued⟩
    unfold Talk.readExact at taken
    split at taken
    · rename_i enough
      cases taken
      exact ⟨_, _, List.length_take_of_le enough, (List.take_append_drop _ _).symm, continued⟩
    · cases taken
  · rintro ⟨bytes, unread, rfl, same, continued⟩
    refine ⟨bytes, wire.rest unread, ?_, continued⟩
    unfold Talk.readExact
    rw [if_pos (by simp [same]), same, List.take_left, List.drop_left]

theorem Talk.writeAll_ok {bytes : List UInt8} (reliable : wire.Reliable) {done : Unit} :
    Talk.writeAll wrap bytes wire = (.ok done, final) ↔ final = wire.wrote bytes := by
  unfold Talk.writeAll
  rw [if_pos (reliable _)]
  simp only [Prod.mk.injEq, true_and]
  exact eq_comm

theorem Talk.require_bind {check : Bool} {refusal : Talk ε Unit} {next : Unit → Talk ε β}
    (refuses : refusal.Refuses) :
    (Talk.require check refusal >>= next) wire = (.ok value, final) ↔
      check = true ∧ next () wire = (.ok value, final) := by
  rw [Talk.bind_ok]
  unfold Talk.require
  cases check with
  | false =>
    constructor
    · rintro ⟨middle, later, taken, -⟩
      exact absurd taken (refuses _ _ _)
    · rintro ⟨impossible, -⟩
      cases impossible
  | true =>
    constructor
    · rintro ⟨middle, later, taken, continued⟩
      cases taken
      exact ⟨rfl, continued⟩
    · rintro ⟨-, continued⟩
      exact ⟨(), wire, rfl, continued⟩

theorem Talk.bind_of_ok {talk : Talk ε α} {next : α → Talk ε β} {middle : α} {later : Wire}
    (first : talk wire = (.ok middle, later)) : (talk >>= next) wire = next middle later := by
  change Talk.bind talk next wire = _
  simp only [Talk.bind, first]

theorem Talk.bind_of_error {talk : Talk ε α} {next : α → Talk ε β} {failure : ε} {later : Wire}
    (first : talk wire = (.error failure, later)) : (talk >>= next) wire = (.error failure, later) := by
  change Talk.bind talk next wire = _
  simp only [Talk.bind, first]

end Rules

section Locality
variable {ε α β : Type} {starved : ε} {wrap : WireError → ε}

/-- Unless it starved, a run does not depend on the bytes it left unread. -/
def Talk.Local (starved : ε) (talk : Talk ε α) : Prop :=
  ∀ wire more result final, talk wire = (result, final) → result ≠ .error starved →
    talk (wire.rest (wire.unread ++ more)) = (result, final.rest (final.unread ++ more))

theorem Talk.pure_local (value : α) : Talk.Local starved (Pure.pure value : Talk ε α) := by
  intro wire more result final ran _
  cases ran
  rfl

theorem Talk.fail_local (failure : ε) : Talk.Local starved (Talk.fail failure : Talk ε α) := by
  intro wire more result final ran _
  cases ran
  rfl

theorem Talk.Local.bind {talk : Talk ε α} {next : α → Talk ε β} (first : Talk.Local starved talk)
    (second : ∀ value, Talk.Local starved (next value)) : Talk.Local starved (talk >>= next) := by
  intro wire more result final ran fed
  cases begun : talk wire with
  | mk outcome later =>
    cases outcome with
    | error failure =>
      rw [Talk.bind_of_error begun] at ran
      cases ran
      exact Talk.bind_of_error (first wire more _ _ begun fun same => fed (by cases same; rfl))
    | ok middle =>
      rw [Talk.bind_of_ok begun] at ran
      rw [Talk.bind_of_ok (first wire more _ _ begun nofun)]
      exact second middle later more result final ran fed

theorem Talk.readExact_local (count : Nat) :
    Talk.Local (wrap .unexpectedEof) (Talk.readExact wrap count) := by
  intro wire more result final ran fed
  unfold Talk.readExact at ran ⊢
  split at ran
  next enough =>
    cases ran
    have longer : count ≤ (wire.unread ++ more).length := by
      rw [List.length_append]
      omega
    rw [if_pos (by exact longer), Wire.rest_unread, List.take_append_of_le_length enough,
      List.drop_append_of_le_length enough]
    rfl
  next short =>
    cases ran
    exact absurd rfl fed

theorem Talk.writeAll_local (bytes : List UInt8) : Talk.Local starved (Talk.writeAll wrap bytes) := by
  intro wire more result final ran _
  unfold Talk.writeAll at ran ⊢
  split at ran
  next delivered =>
    cases ran
    exact if_pos delivered
  next lost =>
    cases ran
    exact if_neg lost

theorem Talk.ignore_writeAll_local (bytes : List UInt8) :
    Talk.Local starved (Talk.ignore (Talk.writeAll wrap bytes)) := by
  intro wire more result final ran _
  cases ran
  unfold Talk.ignore Talk.writeAll Wire.rest
  split
  next => rfl
  next => rfl

theorem Talk.Local.require {check : Bool} {refusal : Talk ε Unit} (refused : Talk.Local starved refusal) :
    Talk.Local starved (Talk.require check refusal) := by
  unfold Talk.require
  cases check with
  | false => exact refused
  | true => exact Talk.pure_local ()

end Locality

section Answers
variable {ε α β : Type} {starved : ε} {wrap : WireError → ε} {answer : List (List UInt8)}
  {refusal : List UInt8 → Prop}

def Wire.wroteAll (wire : Wire) (messages : List (List UInt8)) : Wire :=
  { wire with written := wire.written ++ messages }

@[simp] theorem Wire.wroteAll_nil (wire : Wire) : wire.wroteAll [] = wire := by
  simp only [Wire.wroteAll, List.append_nil]

theorem Wire.Reliable.wroteAll {wire : Wire} (reliable : wire.Reliable) (messages : List (List UInt8)) :
    (wire.wroteAll messages).Reliable := reliable

/-- Over a wire that delivers, the talk succeeds with `answer` written, fails with
nothing written, or fails with one refusal written and not for want of bytes. -/
def Talk.Answers (starved : ε) (answer : List (List UInt8)) (refusal : List UInt8 → Prop)
    (talk : Talk ε α) : Prop :=
  ∀ wire : Wire, wire.Reliable → ∃ unread,
    (∃ value, talk wire = (.ok value, (wire.rest unread).wroteAll answer)) ∨
    (∃ failure, talk wire = (.error failure, wire.rest unread)) ∨
    ∃ failure message, failure ≠ starved ∧ refusal message ∧
      talk wire = (.error failure, (wire.rest unread).wroteAll [message])

theorem Talk.pure_answers (value : α) : Talk.Answers starved [] refusal (Pure.pure value : Talk ε α) := by
  intro wire _
  refine ⟨wire.unread, Or.inl ⟨value, ?_⟩⟩
  rw [Wire.wroteAll_nil]
  rfl

theorem Talk.fail_answers (failure : ε) : Talk.Answers starved answer refusal (Talk.fail failure : Talk ε α) :=
  fun wire _ => ⟨wire.unread, Or.inr (Or.inl ⟨failure, rfl⟩)⟩

theorem Talk.writeAll_answers (bytes : List UInt8) :
    Talk.Answers starved [bytes] refusal (Talk.writeAll wrap bytes) := by
  intro wire reliable
  refine ⟨wire.unread, Or.inl ⟨(), ?_⟩⟩
  unfold Talk.writeAll
  rw [if_pos (reliable _)]
  rfl

theorem Talk.refusing_answers {write : Talk ε Unit} {message : List UInt8} {failure : ε}
    (writes : ∀ wire : Wire, wire.Reliable → write wire = (.ok (), wire.wrote message))
    (deliberate : failure ≠ starved) (refuses : refusal message) :
    Talk.Answers starved answer refusal (write >>= fun _ => (Talk.fail failure : Talk ε α)) := by
  intro wire reliable
  refine ⟨wire.unread, Or.inr (Or.inr ⟨failure, message, deliberate, refuses, ?_⟩)⟩
  rw [Talk.bind_of_ok (writes wire reliable)]
  rfl

theorem Talk.Answers.read {count : Nat} {next : List UInt8 → Talk ε β}
    (continued : ∀ bytes, Talk.Answers starved answer refusal (next bytes)) :
    Talk.Answers starved answer refusal (Talk.readExact wrap count >>= next) := by
  intro wire reliable
  by_cases enough : count ≤ wire.unread.length
  · have taken : Talk.readExact wrap count wire =
        (.ok (wire.unread.take count), wire.rest (wire.unread.drop count)) := if_pos enough
    rw [Talk.bind_of_ok taken]
    exact continued _ (wire.rest _) (reliable.rest _)
  · have short : Talk.readExact wrap count wire = (.error (wrap .unexpectedEof), wire.rest []) :=
      if_neg enough
    exact ⟨[], Or.inr (Or.inl ⟨_, Talk.bind_of_error short⟩)⟩

theorem Talk.Answers.require {check : Bool} {otherwise : Talk ε Unit} {next : Unit → Talk ε β}
    (refuses : otherwise.Refuses) (refused : Talk.Answers starved answer refusal otherwise)
    (continued : Talk.Answers starved answer refusal (next ())) :
    Talk.Answers starved answer refusal (Talk.require check otherwise >>= next) := by
  intro wire reliable
  cases check with
  | true => exact continued wire reliable
  | false =>
    change ∃ unread, (∃ value, (otherwise >>= next) wire = _) ∨ (∃ failure, (otherwise >>= next) wire = _) ∨
      ∃ failure message, _ ∧ _ ∧ (otherwise >>= next) wire = _
    obtain ⟨unread, ⟨value, ran⟩ | ⟨failure, ran⟩ | ⟨failure, message, deliberate, isRefusal, ran⟩⟩ :=
      refused wire reliable
    · exact absurd ran (refuses _ _ _)
    · exact ⟨unread, Or.inr (Or.inl ⟨failure, Talk.bind_of_error ran⟩)⟩
    · exact ⟨unread, Or.inr (Or.inr ⟨failure, message, deliberate, isRefusal, Talk.bind_of_error ran⟩)⟩

theorem Talk.Answers.bind {talk : Talk ε α} {next : α → Talk ε β}
    (first : Talk.Answers starved [] refusal talk)
    (continued : ∀ value, Talk.Answers starved answer refusal (next value)) :
    Talk.Answers starved answer refusal (talk >>= next) := by
  intro wire reliable
  obtain ⟨unread, ⟨value, ran⟩ | ⟨failure, ran⟩ | ⟨failure, message, deliberate, isRefusal, ran⟩⟩ :=
    first wire reliable
  · rw [Talk.bind_of_ok ran, Wire.wroteAll_nil]
    exact continued value (wire.rest unread) (reliable.rest _)
  · exact ⟨unread, Or.inr (Or.inl ⟨failure, Talk.bind_of_error ran⟩)⟩
  · exact ⟨unread, Or.inr (Or.inr ⟨failure, message, deliberate, isRefusal, Talk.bind_of_error ran⟩)⟩

end Answers

end ProxyTunnels.Machine
