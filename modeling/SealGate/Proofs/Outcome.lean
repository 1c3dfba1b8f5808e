/-! Steps that may fail. A chain of steps succeeds exactly when each of them does, with what the one
before has given, and if it fails it is for one of them. Where a step may also have no result at
all, the chain has one as long as each step has that is reached. -/

namespace SealGate.Outcome

variable {ε α β : Type}

theorem bind_eq_ok {step : Except ε α} {next : α → Except ε β} {result : β} :
    step >>= next = .ok result ↔ ∃ given, step = .ok given ∧ next given = .ok result := by
  cases step with
  | error error => simp [bind, Except.bind]
  | ok given => simp [bind, Except.bind]

theorem pure_eq_ok {given result : α} :
    (pure given : Except ε α) = .ok result ↔ given = result := by
  simp [pure, Except.pure]

/-! ### Errors -/

/-- The error of a step, if it fails, is of a kind. -/
def Blames (kind : ε → Prop) (step : Except ε α) : Prop := ∀ error, step = .error error → kind error

section Blames

variable {kind : ε → Prop} {step : Except ε α}

theorem blames_ok (value : α) : Blames kind (.ok value) := by
  intro error same
  cases same

theorem blames_error {error : ε} (of : kind error) : Blames kind (.error error : Except ε α) := by
  intro other same
  obtain rfl := Except.error.inj same
  exact of

theorem Blames.imp {other : ε → Prop} (first : Blames kind step)
    (each : ∀ error, kind error → other error) : Blames other step :=
  fun error failed => each error (first error failed)

theorem Blames.bind {next : α → Except ε β} (first : Blames kind step)
    (rest : ∀ value, Blames kind (next value)) : Blames kind (step >>= next) := by
  cases step with
  | ok value => exact rest value
  | error error => exact blames_error (first error rfl)

theorem Blames.map {change : α → β} (first : Blames kind step) : Blames kind (step.map change) := by
  cases step with
  | ok value => exact blames_ok _
  | error error => exact blames_error (first error rfl)

theorem Blames.mapError {δ : Type} {other : δ → Prop} {change : ε → δ} (first : Blames kind step)
    (each : ∀ error, kind error → other (change error)) : Blames other (step.mapError change) := by
  cases step with
  | ok value => exact blames_ok _
  | error error => exact blames_error (each error (first error rfl))

end Blames

/-! ### Steps that may have no result -/

variable {next : α → ExceptT ε Option β}

theorem run_bind {step : ExceptT ε Option α} {result : Except ε α} {total : α → Except ε β}
    (ran : step.run = some result)
    (each : ∀ given, result = .ok given → (next given).run = some (total given)) :
    (step >>= next).run = some (result >>= total) := by
  rw [ExceptT.run_bind, ran]
  cases result with
  | error error => rfl
  | ok given => exact each given rfl

/-- A step that cannot fail, with a result. -/
theorem run_bind_of_some {step : Option α} {given : α} (result : step = some given) :
    ((liftM step : ExceptT ε Option α) >>= next).run = (next given).run := by
  rw [result]
  rfl

end SealGate.Outcome
