import TradeRegister.Attribute

/-! # Results

A chain of operations that may fail succeeds exactly when each of them does, and fails only with
the faults of one of them.
-/

namespace TradeRegister

variable {ε α β : Type}

theorem bind_eq_ok_iff {x : Except ε α} {f : α → Except ε β} {b : β} :
    x >>= f = .ok b ↔ ∃ a, x = .ok a ∧ f a = .ok b := by
  cases x with
  | error e => simp [bind, Except.bind]
  | ok a => simp [bind, Except.bind]

theorem bind_eq_error_iff {x : Except ε α} {f : α → Except ε β} {e : ε} :
    x >>= f = .error e ↔ x = .error e ∨ ∃ a, x = .ok a ∧ f a = .error e := by
  cases x with
  | error e => simp [bind, Except.bind]
  | ok a => simp [bind, Except.bind]

/-- Dropping the value of a check keeps only whether it succeeds. -/
theorem discard_eq_ok_iff {x : Except ε α} {u : PUnit} : discard x = .ok u ↔ ∃ a, x = .ok a := by
  cases x with
  | error e => simp [discard, Functor.discard, Functor.mapConst, Except.map]
  | ok a => simp [discard, Functor.discard, Functor.mapConst, Except.map]

theorem map_eq_ok_iff {x : Except ε α} {f : α → β} {b : β} :
    x.map f = .ok b ↔ ∃ a, x = .ok a ∧ f a = b := by
  cases x <;> simp [Except.map]

theorem map_eq_error_iff {x : Except ε α} {f : α → β} {e : ε} :
    x.map f = .error e ↔ x = .error e := by
  cases x <;> simp [Except.map]

/-- Every fault of the result satisfies `P`. -/
def Refuses (P : ε → Prop) (x : Except ε α) : Prop := ∀ e, x = .error e → P e

namespace Refuses

variable {P Q : ε → Prop} {x : Except ε α}

theorem ok (a : α) : Refuses P (.ok a : Except ε α) := by
  intro e h
  cases h

theorem error {e : ε} (h : P e) : Refuses P (.error e : Except ε α) := by
  intro f hf
  exact Except.error.inj hf ▸ h

/-- A fault that is passed on. -/
theorem passOn (h : Refuses P x) {e : ε} (hx : x = .error e) : Refuses P (.error e : Except ε β) :=
  error (h e hx)

theorem mono (h : Refuses P x) (hPQ : ∀ e, P e → Q e) : Refuses Q x :=
  fun e he => hPQ e (h e he)

theorem bind (h : Refuses P x) {f : α → Except ε β} (hf : ∀ a, Refuses P (f a)) :
    Refuses P (x >>= f) := by
  cases x with
  | error e => exact error (h e rfl)
  | ok a => exact hf a

theorem map (h : Refuses P x) (f : α → β) : Refuses P (x.map f) := by
  cases x with
  | error e => exact error (h e rfl)
  | ok a => exact ok (f a)

theorem discarded (h : Refuses P x) : Refuses P (discard x) := by
  cases x with
  | error e => exact error (h e rfl)
  | ok a => exact ok PUnit.unit

end Refuses

/-! ## Faults of records -/

namespace Fault

/-- A fault of the request itself. -/
def IsValidation (f : Fault) : Prop := ∃ field message, f = .validation field message

/-- A fault that does not keep back what the storage engine said. -/
def IsTold (f : Fault) : Prop := f ≠ .infrastructure .engine

theorem isTold_of_isValidation {f : Fault} (h : f.IsValidation) : f.IsTold := by
  obtain ⟨field, message, rfl⟩ := h
  intro h
  cases h

end Fault

theorem Refuses.isTold {x : Except Fault α} (h : Refuses Fault.IsValidation x) :
    Refuses Fault.IsTold x :=
  h.mono fun _ => Fault.isTold_of_isValidation

theorem refuses_validation (field message : String) :
    Refuses Fault.IsValidation (.error (.validation field message) : Except Fault α) :=
  .error ⟨field, message, rfl⟩

namespace Attribute

theorem refuses_require (field : String) (x : Attribute α) :
    Refuses Fault.IsValidation (x.require field) := by
  cases x with
  | unset => exact refuses_validation field "is required"
  | cleared => exact refuses_validation field "cannot be cleared"
  | value a => exact .ok a

theorem refuses_rejectCleared (field : String) (x : Attribute α) :
    Refuses Fault.IsValidation (x.rejectCleared field) := by
  cases x with
  | unset => exact .ok none
  | cleared => exact refuses_validation field "cannot be cleared"
  | value a => exact .ok (some a)

end Attribute
end TradeRegister
