/-
This file computes with results: a success is handed on to the next step of a chain, and an error ends
the chain.
-/

namespace HtmlTemplate.Result

variable {ε α β : Type}

@[simp] theorem pure_eq_ok (value : α) : (pure value : Except ε α) = .ok value := rfl

@[simp] theorem ok_bind (value : α) (next : α → Except ε β) :
    (Except.ok value >>= next) = next value := rfl

@[simp] theorem throw_eq_error (fault : ε) : (throw fault : Except ε α) = .error fault := rfl

@[simp] theorem error_bind (fault : ε) (next : α → Except ε β) :
    (Except.error fault >>= next) = .error fault := rfl

@[simp] theorem bind_ok (result : Except ε α) : (result >>= fun value => .ok value) = result := by
  cases result <;> rfl

/-- A chain of steps succeeds when each of its steps does. -/
theorem bind_eq_ok {result : Except ε α} {next : α → Except ε β} {value : β}
    (success : (result >>= next) = .ok value) :
    ∃ first, result = .ok first ∧ next first = .ok value := by
  cases result with
  | error fault => contradiction
  | ok first => exact ⟨first, rfl, success⟩

/-- A result that has a value has succeeded. -/
theorem eq_ok_of_toOption {result : Except ε α} {value : α}
    (found : result.toOption = some value) : result = .ok value := by
  cases result with
  | error fault => contradiction
  | ok other => rw [Option.some.inj found]

end HtmlTemplate.Result
