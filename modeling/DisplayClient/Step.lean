import DisplayClient.Fault
import DisplayClient.Log

/-!
# Steps

A step works on a state. It ends with a result or a fault, and either way
with the state that it leaves and the lines that it logged: what a step did
before it failed is not undone.

* `Step.bind_apply`: a step after a step;
* steps are a lawful monad: how they are bracketed does not matter.
-/

namespace DisplayClient

/-- How a step ended. -/
structure Outcome (σ α : Type) where
  /-- What the step gives, or why it failed. -/
  result : Except Fault α
  state : σ
  /-- What was logged, in order. -/
  log : List LogLine

/-- An operation on a state `σ` that gives an `α`. -/
def Step (σ α : Type) : Type := σ → Outcome σ α

namespace Step

variable {σ τ α β : Type}

/-- Gives a value and does nothing. -/
protected def pure (a : α) : Step σ α := fun s => ⟨.ok a, s, []⟩

/-- Runs a step and, unless it fails, the step that its value leads to. -/
protected def bind (step : Step σ α) (next : α → Step σ β) : Step σ β := fun s =>
  let first := step s
  match first.result with
  | .error fault => ⟨.error fault, first.state, first.log⟩
  | .ok a =>
    let second := next a first.state
    ⟨second.result, second.state, first.log ++ second.log⟩

instance : Monad (Step σ) where
  pure := Step.pure
  bind := Step.bind

def fail (fault : Fault) : Step σ α := fun s => ⟨.error fault, s, []⟩

/-- A result that does not concern the state. -/
def ofExcept (result : Except Fault α) : Step σ α := fun s => ⟨result, s, []⟩

instance : MonadLift (Except Fault) (Step σ) where
  monadLift := ofExcept

def log (line : LogLine) : Step σ Unit := fun s => ⟨.ok (), s, [line]⟩

/-- Gives what `f` finds in the state. -/
def read (f : σ → α) : Step σ α := fun s => ⟨.ok (f s), s, []⟩

def modify (f : σ → σ) : Step σ Unit := fun s => ⟨.ok (), f s, []⟩

/-- Runs a step on the part of the state that `get` finds and `set` puts back. -/
def onPart (get : σ → τ) (set : τ → σ → σ) (step : Step τ α) : Step σ α := fun s =>
  let part := step (get s)
  ⟨part.result, set part.state s, part.log⟩

/-- Runs a step on a state of its own, and gives what it leaves. -/
def onOwn (start : τ) (step : Step τ α) : Step σ (α × τ) := fun s =>
  let own := step start
  ⟨own.result.map fun a => (a, own.state), s, own.log⟩

/-- Makes a call that can fail with an I/O fault, which `fault` explains. -/
def call (fault : IoFault → Fault) (f : σ → Except IoFault α × σ) : Step σ α := fun s =>
  let answer := f s
  ⟨answer.1.mapError fault, answer.2, []⟩

theorem pure_apply (a : α) (s : σ) : (pure a : Step σ α) s = ⟨.ok a, s, []⟩ := rfl

theorem bind_apply (step : Step σ α) (next : α → Step σ β) (s : σ) :
    (step >>= next) s =
      match (step s).result with
      | .error fault => ⟨.error fault, (step s).state, (step s).log⟩
      | .ok a =>
        ⟨(next a (step s).state).result, (next a (step s).state).state,
          (step s).log ++ (next a (step s).state).log⟩ := rfl

theorem bind_of_ok {step : Step σ α} {next : α → Step σ β} {s t : σ} {a : α} {lines : List LogLine}
    (h : step s = ⟨.ok a, t, lines⟩) :
    (step >>= next) s =
      ⟨(next a t).result, (next a t).state, lines ++ (next a t).log⟩ := by
  rw [bind_apply, h]

theorem bind_of_error {step : Step σ α} {next : α → Step σ β} {s t : σ} {fault : Fault}
    {lines : List LogLine} (h : step s = ⟨.error fault, t, lines⟩) :
    (step >>= next) s = ⟨.error fault, t, lines⟩ := by
  rw [bind_apply, h]

/-- The logs of three steps join the same either way, and a fault ends them all. -/
theorem bind_assoc {γ : Type} (step : Step σ α) (next : α → Step σ β) (last : β → Step σ γ) :
    step >>= next >>= last = step >>= fun a => next a >>= last := by
  funext s
  simp only [bind_apply]
  cases (step s).result with
  | error fault => rfl
  | ok a =>
    cases h : (next a (step s).state).result with
    | error fault => simp [h]
    | ok b => simp [h, List.append_assoc]

theorem pure_bind (a : α) (next : α → Step σ β) : (pure a >>= next : Step σ β) = next a := rfl

theorem bind_pure (step : Step σ α) : (step >>= fun a => pure a) = step := by
  funext s
  rw [bind_apply]
  cases h : step s with
  | mk result state log =>
    cases result with
    | error fault => rfl
    | ok a => simp [pure_apply]

instance : LawfulMonad (Step σ) := LawfulMonad.mk' (Step σ) bind_pure pure_bind bind_assoc

end Step

end DisplayClient
