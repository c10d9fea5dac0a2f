import DisplayClient.Step

/-!
# Steps one after the other

What a sequence of steps does, by its first step: a step that only looks or
logs passes on to the rest (`read_bind`, `log_bind`), and so does a result
that does not concern the state, unless it is a fault (`liftM_ok_bind`,
`liftM_error_bind`). A step on a part of the state leaves the other parts
alone (`onPart_apply`), and if the rest leaves the state alone, the first step
says what it is (`state_bind`), and everything else, too, if the rest only
works on the value (`bind_pure_apply`). A sequence of results is a value if
all of them are (`bind_eq_ok_iff`). Conditions that show what a result is, and
one of which always holds, hold of nothing else (`result_iff_of_settled`).
-/

namespace DisplayClient

theorem bind_eq_ok_iff {α β : Type} {result : Except Fault α} {next : α → Except Fault β} {b : β} :
    (result >>= next) = .ok b ↔ ∃ a, result = .ok a ∧ next a = .ok b := by
  cases result with
  | error fault => simp [bind, Except.bind]
  | ok a => simp [bind, Except.bind]

/-- Each value has a condition to be the result, and so has each fault. -/
theorem result_iff_of_settled {α : Type} {result : Except Fault α} {value : α → Prop}
    {fault : Fault → Prop} (hvalue : ∀ a, value a → result = .ok a)
    (hfault : ∀ f, fault f → result = .error f) (hsettled : (∃ a, value a) ∨ ∃ f, fault f) :
    (∀ a, result = .ok a ↔ value a) ∧ ∀ f, result = .error f ↔ fault f := by
  rcases hsettled with ⟨a, ha⟩ | ⟨f, hf⟩
  · have hresult := hvalue a ha
    refine ⟨fun b => ⟨fun hb => ?_, hvalue b⟩, fun g => ⟨fun hg => ?_, hfault g⟩⟩
    · rw [hresult] at hb
      cases hb
      exact ha
    · rw [hresult] at hg
      cases hg
  · have hresult := hfault f hf
    refine ⟨fun b => ⟨fun hb => ?_, hvalue b⟩, fun g => ⟨fun hg => ?_, hfault g⟩⟩
    · rw [hresult] at hb
      cases hb
    · rw [hresult] at hg
      cases hg
      exact hf

namespace Step

variable {σ τ α β : Type}

@[simp] theorem call_apply (fault : IoFault → Fault) (f : σ → Except IoFault α × σ) (s : σ) :
    call fault f s = ⟨(f s).1.mapError fault, (f s).2, []⟩ := rfl

@[simp] theorem onPart_apply (get : σ → τ) (set : τ → σ → σ) (step : Step τ α) (s : σ) :
    step.onPart get set s = ⟨(step (get s)).result, set (step (get s)).state s, (step (get s)).log⟩ :=
  rfl

@[simp] theorem read_bind (f : σ → τ) (next : τ → Step σ β) (s : σ) :
    (read f >>= next) s = next (f s) s := rfl

@[simp] theorem log_bind (line : LogLine) (next : Unit → Step σ β) (s : σ) :
    (log line >>= next) s =
      ⟨(next () s).result, (next () s).state, line :: (next () s).log⟩ := rfl

theorem liftM_ok_bind {result : Except Fault α} {a : α} (h : result = .ok a)
    (next : α → Step σ β) (s : σ) : (liftM result >>= next) s = next a s := by
  subst h
  rfl

theorem liftM_error_bind {result : Except Fault α} {fault : Fault} (h : result = .error fault)
    (next : α → Step σ β) (s : σ) :
    (liftM result >>= next) s = ⟨.error fault, s, []⟩ := by
  subst h
  rfl

/-- A sequence whose rest leaves the state alone. -/
theorem state_bind {step : Step σ α} {next : α → Step σ β} (h : ∀ a s, (next a s).state = s)
    (s : σ) : ((step >>= next) s).state = (step s).state := by
  rw [bind_apply]
  cases (step s).result with
  | error fault => rfl
  | ok a => exact h a _

/-- A sequence whose rest is a function of the value. -/
theorem bind_pure_apply (step : Step σ α) (f : α → β) (s : σ) :
    (step >>= fun a => pure (f a)) s = ⟨(step s).result.map f, (step s).state, (step s).log⟩ := by
  rw [bind_apply]
  cases h : step s with
  | mk result state log =>
    cases result with
    | error fault => rfl
    | ok a => simp [pure_apply, Except.map]

end Step

end DisplayClient
