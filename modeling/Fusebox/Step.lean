import Fusebox.Crash

/-! The shape of every operation with side effects. A step leaves behind a state
and a list of effects whether or not it ends abruptly, so what was changed or
reported before a crash is never lost. -/
namespace Fusebox

/-- What an operation leaves behind. -/
structure Step (ε σ α : Type) where
  state : σ
  effects : List ε
  result : Except Crash α

namespace Step

variable {ε δ σ τ α β : Type}

/-- Nothing happens and `value` is the answer. -/
def pure (state : σ) (value : α) : Step ε σ α := ⟨state, [], .ok value⟩

/-- Nothing happens and there is no answer. -/
def crash (state : σ) (cause : Crash) : Step ε σ α := ⟨state, [], .error cause⟩

/-- Goes on from where a step ended, unless it ended abruptly. -/
def bind (first : Step ε σ α) (next : σ → α → Step ε σ β) : Step ε σ β :=
  match first.result with
  | .error cause => ⟨first.state, first.effects, .error cause⟩
  | .ok value =>
    let second := next first.state value
    ⟨second.state, first.effects ++ second.effects, second.result⟩

/-- The same step with something reported before it. -/
def after (effects : List ε) (step : Step ε σ α) : Step ε σ α :=
  { step with effects := effects ++ step.effects }

/-- The same step with a different view of its answer. -/
def map (f : α → β) (step : Step ε σ α) : Step ε σ β :=
  ⟨step.state, step.effects, step.result.map f⟩

/-- The same step with every report seen in another way. -/
def relabel (f : ε → δ) (step : Step ε σ α) : Step δ σ α :=
  ⟨step.state, step.effects.map f, step.result⟩

/-- The same step on a larger state, into which `put` sets the smaller one. -/
def within (put : σ → τ) (step : Step ε σ α) : Step ε τ α :=
  ⟨put step.state, step.effects, step.result⟩

end Step
end Fusebox
