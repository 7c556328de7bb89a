import Mathlib.Data.List.Basic

/-! Step functions with blocked and panicking outcomes, and their runs.

A machine is a function from a state and an action to an `Outcome`. Choices the
modelled program does not make itself are carried by the action, so one state
and one action have one outcome. A run keeps the actions it took: invariants are
proved once per step and transported along runs, and a run may be restricted to
steps that meet a side condition on the state they start from.
-/

set_option autoImplicit false

namespace ProxyTunnels.Machine

/-- What one attempted action does in a given state. -/
inductive Outcome (σ : Type) where
  | blocked
  | panicked
  | next (state : σ)

variable {σ α : Type}

def Outcome.bind {τ : Type} (outcome : Outcome σ) (continuation : σ → Outcome τ) : Outcome τ :=
  match outcome with
  | .blocked => .blocked
  | .panicked => .panicked
  | .next state => continuation state

def Outcome.orPanic : Option σ → Outcome σ
  | none => .panicked
  | some state => .next state

def Outcome.guarded (enabled : Bool) (outcome : Outcome σ) : Outcome σ :=
  if enabled then outcome else .blocked

@[simp] theorem Outcome.orPanic_eq_next {result : Option σ} {state : σ} :
    Outcome.orPanic result = .next state ↔ result = some state := by
  cases result <;> simp [orPanic]

@[simp] theorem Outcome.orPanic_eq_panicked {result : Option σ} :
    Outcome.orPanic result = .panicked ↔ result = none := by
  cases result <;> simp [orPanic]

@[simp] theorem Outcome.guarded_eq_next {enabled : Bool} {outcome : Outcome σ} {state : σ} :
    Outcome.guarded enabled outcome = .next state ↔ enabled = true ∧ outcome = .next state := by
  cases enabled <;> simp [guarded]

@[simp] theorem Outcome.guarded_eq_panicked {enabled : Bool} {outcome : Outcome σ} :
    Outcome.guarded enabled outcome = .panicked ↔ enabled = true ∧ outcome = .panicked := by
  cases enabled <;> simp [guarded]

theorem Outcome.bind_eq_next {τ : Type} {outcome : Outcome σ} {continuation : σ → Outcome τ}
    {final : τ} (h : outcome.bind continuation = .next final) :
    ∃ state, outcome = .next state ∧ continuation state = .next final := by
  cases outcome with
  | blocked => cases h
  | panicked => cases h
  | next state => exact ⟨state, rfl, h⟩

theorem Outcome.bind_ne_blocked {τ : Type} {outcome : Outcome σ} {continuation : σ → Outcome τ}
    (first : outcome ≠ .blocked) (second : ∀ state, continuation state ≠ .blocked) :
    outcome.bind continuation ≠ .blocked := by
  cases outcome with
  | blocked => exact absurd rfl first
  | panicked => exact nofun
  | next state => exact second state

/-- An outcome that does not panic and, if there is a next state, meets `post` there. -/
def Outcome.Satisfies (post : σ → Prop) : Outcome σ → Prop
  | .blocked => True
  | .panicked => False
  | .next state => post state

theorem Outcome.Satisfies.mono {post weaker : σ → Prop} {outcome : Outcome σ} (held : outcome.Satisfies post)
    (sub : ∀ state, post state → weaker state) : outcome.Satisfies weaker := by
  cases outcome with
  | blocked => exact trivial
  | panicked => exact held
  | next state => exact sub state held

/-- The rule of sequence. -/
theorem Outcome.Satisfies.bind {τ : Type} {middle : σ → Prop} {post : τ → Prop} {outcome : Outcome σ}
    {continuation : σ → Outcome τ} (first : outcome.Satisfies middle)
    (second : ∀ state, middle state → (continuation state).Satisfies post) :
    (outcome.bind continuation).Satisfies post := by
  cases outcome with
  | blocked => exact trivial
  | panicked => exact first
  | next state => exact second state first

theorem Outcome.Satisfies.and {first second : σ → Prop} {outcome : Outcome σ} (left : outcome.Satisfies first)
    (right : outcome.Satisfies second) : outcome.Satisfies fun state => first state ∧ second state := by
  cases outcome with
  | blocked => exact trivial
  | panicked => exact left
  | next state => exact ⟨left, right⟩

theorem Outcome.satisfies_guarded {post : σ → Prop} {enabled : Bool} {outcome : Outcome σ}
    (held : enabled = true → outcome.Satisfies post) : (Outcome.guarded enabled outcome).Satisfies post := by
  cases enabled with
  | false => exact trivial
  | true => exact held rfl

theorem Outcome.Satisfies.of_next {post : σ → Prop} {outcome : Outcome σ} {state : σ}
    (held : outcome.Satisfies post) (taken : outcome = .next state) : post state := by
  rw [taken] at held
  exact held

theorem Outcome.Satisfies.not_panicked {post : σ → Prop} {outcome : Outcome σ}
    (held : outcome.Satisfies post) : outcome ≠ .panicked := by
  intro failed
  rw [failed] at held
  exact held

/-- An outcome that meets `post` in the next state, if there is one; unlike with `Satisfies` it may panic. -/
def Outcome.Ensures (post : σ → Prop) : Outcome σ → Prop
  | .next state => post state
  | _ => True

theorem Outcome.Ensures.mono {post weaker : σ → Prop} {outcome : Outcome σ} (held : outcome.Ensures post)
    (sub : ∀ state, post state → weaker state) : outcome.Ensures weaker := by
  cases outcome with
  | blocked => exact trivial
  | panicked => exact trivial
  | next state => exact sub state held

theorem Outcome.ensures_bind {τ : Type} {post : τ → Prop} {outcome : Outcome σ} {continuation : σ → Outcome τ}
    (second : ∀ state, outcome = .next state → (continuation state).Ensures post) :
    (outcome.bind continuation).Ensures post := by
  cases outcome with
  | blocked => exact trivial
  | panicked => exact trivial
  | next state => exact second state rfl

theorem Outcome.ensures_guarded {post : σ → Prop} {enabled : Bool} {outcome : Outcome σ}
    (held : enabled = true → outcome.Ensures post) : (Outcome.guarded enabled outcome).Ensures post := by
  cases enabled with
  | false => exact trivial
  | true => exact held rfl

theorem Outcome.Ensures.of_next {post : σ → Prop} {outcome : Outcome σ} {state : σ}
    (held : outcome.Ensures post) (taken : outcome = .next state) : post state := by
  rw [taken] at held
  exact held

/-- An outcome that panics only if `safe` fails, and that meets `post` in the next state, if there is one. -/
def Outcome.Meets (safe : Prop) (post : σ → Prop) : Outcome σ → Prop
  | .blocked => True
  | .panicked => ¬ safe
  | .next state => post state

theorem Outcome.meets_bind {τ : Type} {safe : Prop} {post : τ → Prop} {outcome : Outcome σ}
    {continuation : σ → Outcome τ} (sound : safe → outcome ≠ .panicked)
    (second : ∀ state, outcome = .next state → (continuation state).Meets safe post) :
    (outcome.bind continuation).Meets safe post := by
  cases outcome with
  | blocked => exact trivial
  | panicked => exact fun held => sound held rfl
  | next state => exact second state rfl

theorem Outcome.meets_guarded {safe : Prop} {post : σ → Prop} {enabled : Bool} {outcome : Outcome σ}
    (held : enabled = true → outcome.Meets safe post) : (Outcome.guarded enabled outcome).Meets safe post := by
  cases enabled with
  | false => exact trivial
  | true => exact held rfl

theorem Outcome.Meets.ensures {safe : Prop} {post : σ → Prop} {outcome : Outcome σ}
    (met : outcome.Meets safe post) : outcome.Ensures post := by
  cases outcome with
  | blocked => exact trivial
  | panicked => exact trivial
  | next state => exact met

theorem Outcome.Meets.satisfies {safe : Prop} {post : σ → Prop} {outcome : Outcome σ}
    (met : outcome.Meets safe post) (held : safe) : outcome.Satisfies post := by
  cases outcome with
  | blocked => exact trivial
  | panicked => exact met held
  | next state => exact met

/-- The actions of a finite run, each allowed in the state it was taken from. -/
inductive RunWhile (step : σ → α → Outcome σ) (allowed : σ → α → Prop) :
    σ → List α → σ → Prop where
  | done {state : σ} : RunWhile step allowed state [] state
  | next {state middle final : σ} {action : α} {rest : List α} :
      allowed state action → step state action = .next middle →
      RunWhile step allowed middle rest final → RunWhile step allowed state (action :: rest) final

abbrev Run (step : σ → α → Outcome σ) : σ → List α → σ → Prop :=
  RunWhile step (fun _ _ => True)

variable {step : σ → α → Outcome σ} {allowed : σ → α → Prop}

theorem RunWhile.weaken {weaker : σ → α → Prop} {state final : σ} {actions : List α}
    (run : RunWhile step allowed state actions final)
    (sub : ∀ state action, allowed state action → weaker state action) :
    RunWhile step weaker state actions final := by
  induction run with
  | done => exact .done
  | next met taken _ ih => exact .next (sub _ _ met) taken ih

theorem RunWhile.toRun {state final : σ} {actions : List α}
    (run : RunWhile step allowed state actions final) : Run step state actions final :=
  run.weaken fun _ _ _ => trivial

theorem RunWhile.append {state middle final : σ} {first second : List α}
    (left : RunWhile step allowed state first middle)
    (right : RunWhile step allowed middle second final) :
    RunWhile step allowed state (first ++ second) final := by
  induction left with
  | done => exact right
  | next met taken _ ih => exact .next met taken (ih right)

theorem RunWhile.single {state final : σ} {action : α} (met : allowed state action)
    (taken : step state action = .next final) : RunWhile step allowed state [action] final :=
  .next met taken .done

theorem RunWhile.restrict {state final : σ} {actions : List α} (run : RunWhile step allowed state actions final)
    {stricter : σ → α → Prop} (always : ∀ action ∈ actions, ∀ state, stricter state action) :
    RunWhile step stricter state actions final := by
  induction run with
  | done => exact .done
  | next _ taken _ ih =>
    refine .next (always _ List.mem_cons_self _) taken (ih ?_)
    exact fun action member => always action (List.mem_cons_of_mem _ member)

/-- The induction every safety statement uses: one step lemma covers all runs. -/
theorem RunWhile.preserves {holds : σ → Prop}
    (onStep : ∀ state action next, holds state → allowed state action →
      step state action = .next next → holds next)
    {state final : σ} {actions : List α} (run : RunWhile step allowed state actions final)
    (start : holds state) : holds final := by
  induction run with
  | done => exact start
  | next met taken _ ih => exact ih (onStep _ _ _ start met taken)

theorem Run.preserves {holds : σ → Prop}
    (onStep : ∀ state action next, holds state → step state action = .next next → holds next)
    {state final : σ} {actions : List α} (run : Run step state actions final)
    (start : holds state) : holds final :=
  RunWhile.preserves (fun _ _ _ held _ taken => onStep _ _ _ held taken) run start

/-- Some step of the run is an `event`. -/
def Occurs (step : σ → α → Outcome σ) (allowed : σ → α → Prop) (event : σ → σ → Prop) (state : σ)
    (actions : List α) (final : σ) : Prop :=
  ∃ first action second before after, actions = first ++ action :: second ∧
    RunWhile step allowed state first before ∧ step before action = .next after ∧
    RunWhile step allowed after second final ∧ event before after

theorem RunWhile.keeps_or_occurs (holds : σ → Prop) (event : σ → σ → Prop)
    (onStep : ∀ state action next, holds state → allowed state action →
      step state action = .next next → holds next ∨ event state next)
    {state final : σ} {actions : List α} (run : RunWhile step allowed state actions final)
    (start : holds state) : holds final ∨ Occurs step allowed event state actions final := by
  induction run with
  | done => exact .inl start
  | @next state middle final action rest met taken later ih =>
    rcases onStep _ _ _ start met taken with kept | here
    · rcases ih kept with kept | ⟨first, act, second, before, after, split, earlier, moved, onward, there⟩
      · exact .inl kept
      · refine .inr ⟨action :: first, act, second, before, after, ?_, .next met taken earlier, moved, onward, there⟩
        rw [split, List.cons_append]
    · exact .inr ⟨[], action, rest, state, middle, rfl, .done, taken, later, here⟩

theorem RunWhile.of_concat {state final : σ} {actions : List α} {action : α}
    (run : RunWhile step allowed state (actions ++ [action]) final) :
    ∃ before, RunWhile step allowed state actions before ∧ step before action = .next final := by
  induction actions generalizing state with
  | nil =>
    cases run with
    | next _ taken rest =>
      cases rest
      exact ⟨state, .done, taken⟩
  | cons head rest ih =>
    cases run with
    | next met taken later =>
      obtain ⟨before, earlier, last⟩ := ih later
      exact ⟨before, .next met taken earlier, last⟩

/-- One action taken for as long as it is allowed leads to one end. -/
theorem RunWhile.stops_once {action : α} {first second state : σ} {left right : Nat}
    (one : RunWhile step allowed state (List.replicate left action) first)
    (other : RunWhile step allowed state (List.replicate right action) second)
    (stopped : ¬ allowed first action) (halted : ¬ allowed second action) : first = second := by
  induction left generalizing state right with
  | zero =>
    cases one
    cases right with
    | zero =>
      cases other
      rfl
    | succ right =>
      cases other with
      | next met _ _ => exact absurd met stopped
  | succ left ih =>
    cases one with
    | next met taken later =>
      cases right with
      | zero =>
        cases other
        exact absurd met halted
      | succ right =>
        cases other with
        | next _ same rest =>
          cases taken.symm.trans same
          exact ih later rest

def execute (step : σ → α → Outcome σ) (state : σ) : List α → Outcome σ
  | [] => .next state
  | action :: rest => (step state action).bind fun middle => execute step middle rest

theorem run_of_execute {state final : σ} {actions : List α}
    (finished : execute step state actions = .next final) : Run step state actions final := by
  induction actions generalizing state with
  | nil =>
    cases finished
    exact .done
  | cons action rest ih =>
    obtain ⟨middle, taken, remaining⟩ := Outcome.bind_eq_next finished
    exact .next trivial taken (ih remaining)

theorem runWhile_of_execute {check : σ → α → Bool}
    (meets : ∀ state action, check state action = true → allowed state action) {state final : σ}
    {actions : List α}
    (finished : execute (fun state action => .guarded (check state action) (step state action)) state actions =
      .next final) : RunWhile step allowed state actions final := by
  induction actions generalizing state with
  | nil =>
    cases finished
    exact .done
  | cons action rest ih =>
    obtain ⟨middle, taken, remaining⟩ := Outcome.bind_eq_next finished
    obtain ⟨checked, moved⟩ := Outcome.guarded_eq_next.mp taken
    exact .next (meets state action checked) moved (ih remaining)

def Reachable (step : σ → α → Outcome σ) (initial : σ → Prop) (state : σ) : Prop :=
  ∃ start actions, initial start ∧ Run step start actions state

theorem Reachable.invariant {initial : σ → Prop} {holds : σ → Prop}
    (atStart : ∀ state, initial state → holds state)
    (onStep : ∀ state action next, holds state → step state action = .next next → holds next)
    {state : σ} (reached : Reachable step initial state) : holds state := by
  obtain ⟨start, actions, isInitial, run⟩ := reached
  exact Run.preserves onStep run (atStart start isInitial)

theorem Reachable.extend {initial : σ → Prop} {state final : σ} {actions : List α}
    (reached : Reachable step initial state) (run : Run step state actions final) :
    Reachable step initial final := by
  obtain ⟨start, before, isInitial, earlier⟩ := reached
  exact ⟨start, before ++ actions, isInitial, earlier.append run⟩

end ProxyTunnels.Machine
