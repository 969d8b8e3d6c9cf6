/-
**Actions.**

* `Action σ α` — a step on a state `σ` that yields an `α` or fails. The state it reached and the
  events it told of stay, whether it fails or not.
* `Action.attempt` — an action whose failure becomes part of its result.
* `Lens`, `Action.on` — an action on a part of a larger state.
* `Action.effect` — an action with its events left out; it commutes with everything above, so what
  is true of results and states can be shown without them.

The monad is lawful (`instLawfulMonad`): a failure skips what follows, and events come in the order
of the steps.
-/

import CatalogSync.Event
import CatalogSync.SearchError

namespace CatalogSync

/-- What one run of an action leaves behind. -/
structure Outcome (σ α : Type) where
  result : Except SearchError α
  state : σ
  events : List Event

/-- A step on a state that may fail and that tells of events. -/
def Action (σ α : Type) : Type := σ → Outcome σ α

namespace Action

variable {σ τ α β : Type}

/-- What the action leaves behind when it starts from a state. -/
def run (action : Action σ α) (state : σ) : Outcome σ α := action state

/-- The second action on the value of the first, unless the first fails. -/
def andThen (action : Action σ α) (next : α → Action σ β) : Action σ β := fun state =>
  match action state with
  | ⟨.error failure, reached, events⟩ => ⟨.error failure, reached, events⟩
  | ⟨.ok value, reached, events⟩ =>
    let last := next value reached
    ⟨last.result, last.state, events ++ last.events⟩

instance : Monad (Action σ) where
  pure value := fun state => ⟨.ok value, state, []⟩
  bind := andThen

/-- Fails. -/
def fail (failure : SearchError) : Action σ α := fun state => ⟨.error failure, state, []⟩

/-- Yields what is there, or fails. -/
def ofExcept : Except SearchError α → Action σ α
  | .ok value => pure value
  | .error failure => fail failure

/-- Tells of an event. -/
def tell (level : Level) (message : String) (fields : List (String × Detail)) : Action σ Unit :=
  fun state => ⟨.ok (), state, [⟨level, message, fields⟩]⟩

/-- Yields a function of the state. -/
def ask (question : σ → α) : Action σ α := fun state => ⟨.ok (question state), state, []⟩

/-- Changes the state. -/
def change (step : σ → σ) : Action σ Unit := fun state => ⟨.ok (), step state, []⟩

/-- The action with its failure, if it has one, as part of the result. -/
def attempt (action : Action σ α) : Action σ (Except SearchError α) := fun state =>
  let outcome := action state
  ⟨.ok outcome.result, outcome.state, outcome.events⟩

/-- The action with another failure in place of its own. -/
def mapFailure (rename : SearchError → SearchError) (action : Action σ α) : Action σ α :=
  fun state =>
    let outcome := action state
    ⟨outcome.result.mapError rename, outcome.state, outcome.events⟩

/-! ### The laws of the monad -/

theorem run_pure (value : α) (state : σ) :
    (pure value : Action σ α).run state = ⟨.ok value, state, []⟩ := rfl

theorem run_bind (action : Action σ α) (next : α → Action σ β) (state : σ) :
    (action >>= next).run state = andThen action next state := rfl

theorem andThen_pure (action : Action σ α) : action.andThen pure = action := by
  funext state
  unfold andThen
  rcases action state with ⟨result, reached, events⟩
  cases result
  · rfl
  · show (⟨_, _, events ++ []⟩ : Outcome σ α) = _
    rw [List.append_nil]
    rfl

theorem pure_andThen (value : α) (next : α → Action σ β) :
    andThen (pure value) next = next value := by
  funext state
  show (⟨_, _, [] ++ _⟩ : Outcome σ β) = _
  rw [List.nil_append]

theorem andThen_assoc {γ : Type} (action : Action σ α) (first : α → Action σ β)
    (second : β → Action σ γ) :
    (action.andThen first).andThen second =
      action.andThen fun value => (first value).andThen second := by
  funext state
  unfold andThen
  rcases action state with ⟨result, reached, events⟩
  cases result with
  | error failure => rfl
  | ok value =>
    rcases ran : first value reached with ⟨result', reached', events'⟩
    cases result' <;> simp [ran, List.append_assoc]

instance instLawfulMonad : LawfulMonad (Action σ) :=
  LawfulMonad.mk' _ andThen_pure pure_andThen andThen_assoc

/-! ### Results and states without the events -/

/-- The result of the action and the state it reaches. -/
def effect (action : Action σ α) (state : σ) : Except SearchError α × σ :=
  ((action state).result, (action state).state)

@[simp]
theorem effect_pure (value : α) (state : σ) :
    (pure value : Action σ α).effect state = (.ok value, state) := rfl

@[simp]
theorem effect_fail (failure : SearchError) (state : σ) :
    (fail failure : Action σ α).effect state = (.error failure, state) := rfl

@[simp]
theorem effect_ofExcept (given : Except SearchError α) (state : σ) :
    (ofExcept given).effect state = (given, state) := by
  cases given
  · rfl
  · rfl

@[simp]
theorem effect_tell (level : Level) (message : String) (fields : List (String × Detail))
    (state : σ) : (tell level message fields).effect state = (.ok (), state) := rfl

@[simp]
theorem effect_ask (question : σ → α) (state : σ) :
    (ask question).effect state = (.ok (question state), state) := rfl

@[simp]
theorem effect_change (step : σ → σ) (state : σ) :
    (change step).effect state = (.ok (), step state) := rfl

/-- The effect of two actions in a row is the effect of the second on that of the first. -/
theorem effect_bind (action : Action σ α) (next : α → Action σ β) (state : σ) :
    (action >>= next).effect state =
      match action.effect state with
      | (.error failure, reached) => (.error failure, reached)
      | (.ok value, reached) => (next value).effect reached := by
  show ((andThen action next state).result, (andThen action next state).state) = _
  unfold andThen effect
  rcases action state with ⟨result, reached, events⟩
  cases result <;> rfl

/-- An action that comes to its end hands its value and the state it reached to the next. -/
theorem effect_bind_of_ok {action : Action σ α} {state reached : σ} {value : α}
    (ended : action.effect state = (.ok value, reached)) (next : α → Action σ β) :
    (action >>= next).effect state = (next value).effect reached := by
  rw [effect_bind, ended]

/-- What follows an action that fails is skipped. -/
theorem effect_bind_of_error {action : Action σ α} {state reached : σ} {failure : SearchError}
    (failed : action.effect state = (.error failure, reached)) (next : α → Action σ β) :
    (action >>= next).effect state = (.error failure, reached) := by
  rw [effect_bind, failed]

@[simp]
theorem effect_attempt (action : Action σ α) (state : σ) :
    action.attempt.effect state = (.ok (action.effect state).1, (action.effect state).2) := rfl

end Action

/-! ### Parts of a state -/

/-- A part of a state that can be read and replaced. -/
structure Lens (σ τ : Type) where
  get : σ → τ
  set : σ → τ → σ
  get_set : ∀ state part, get (set state part) = part := by intros; rfl
  set_get : ∀ state, set state (get state) = state := by intros; rfl
  set_set : ∀ state first second, set (set state first) second = set state second := by
    intros; rfl

namespace Lens

variable {σ τ : Type}

/-- The whole of a state. -/
def whole : Lens σ σ where
  get state := state
  set _ part := part

/-- The first of two parts. -/
def first : Lens (σ × τ) σ where
  get := Prod.fst
  set state part := (part, state.2)

/-- The second of two parts. -/
def second : Lens (σ × τ) τ where
  get := Prod.snd
  set state part := (state.1, part)

end Lens

namespace Action

variable {σ τ α : Type}

/-- The action on a part of a larger state. -/
def on (lens : Lens σ τ) (action : Action τ α) : Action σ α := fun state =>
  let outcome := action (lens.get state)
  ⟨outcome.result, lens.set state outcome.state, outcome.events⟩

@[simp]
theorem effect_on (lens : Lens σ τ) (action : Action τ α) (state : σ) :
    (action.on lens).effect state =
      ((action.effect (lens.get state)).1, lens.set state (action.effect (lens.get state)).2) := rfl

end Action

end CatalogSync
