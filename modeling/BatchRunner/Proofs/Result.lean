/-
**Results whose errors are put in other words.**

A caller passes on the value of a callee as it is, and puts its errors in words of its own.

Main results:

* `mapError_ok`, `mapError_error` — what becomes of a value and of an error;
* `exists_of_mapError_bind` — what succeeds after such a call had the value of the callee;
* `error_of_mapError_bind` — what fails with such a call passes on an error of the callee, or fails
  with its value.
-/

set_option autoImplicit false

namespace BatchRunner

variable {ε ε' α β : Type}

@[simp] theorem mapError_ok (f : ε → ε') (a : α) :
    (Except.ok a : Except ε α).mapError f = .ok a := rfl

@[simp] theorem mapError_error (f : ε → ε') (e : ε) :
    (Except.error e : Except ε α).mapError f = .error (f e) := rfl

theorem exists_of_mapError_bind {a? : Except ε α} {f : ε → ε'} {g : α → Except ε' β} {b : β}
    (h : (a?.mapError f >>= g) = .ok b) : ∃ a, a? = .ok a ∧ g a = .ok b := by
  cases a? with
  | error e => exact nomatch h
  | ok a => exact ⟨a, rfl, h⟩

theorem error_of_mapError_bind {a? : Except ε α} {f : ε → ε'} {g : α → Except ε' β} {e' : ε'}
    (h : (a?.mapError f >>= g) = .error e') :
    (∃ e, a? = .error e ∧ f e = e') ∨ ∃ a, a? = .ok a ∧ g a = .error e' := by
  cases a? with
  | error e => exact .inl ⟨e, rfl, Except.error.inj h⟩
  | ok a => exact .inr ⟨a, rfl, h⟩

end BatchRunner
