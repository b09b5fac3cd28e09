/-!
# Results

When a computation that may fail gives a result: each of its parts did. When it fails: one of them
failed, after those before it did not.
-/

namespace Espresso

variable {α β ε δ : Type} {value : Except ε α}

theorem bind_eq_ok_iff {f : α → Except ε β} {result : β} :
    value >>= f = .ok result ↔ ∃ a, value = .ok a ∧ f a = .ok result := by
  cases value <;> simp [bind, Except.bind]

theorem map_eq_ok_iff {f : α → β} {result : β} :
    value.map f = .ok result ↔ ∃ a, value = .ok a ∧ f a = result := by
  cases value <;> simp [Except.map]

theorem bind_eq_error_iff {f : α → Except ε β} {error : ε} :
    value >>= f = .error error ↔
      value = .error error ∨ ∃ a, value = .ok a ∧ f a = .error error := by
  cases value <;> simp [bind, Except.bind]

theorem bind_ne_error {f : α → Except ε β} {error : ε} (hvalue : value ≠ .error error)
    (hf : ∀ a, f a ≠ .error error) : value >>= f ≠ .error error := by
  intro h
  rcases bind_eq_error_iff.mp h with hfailed | ⟨a, _, hlater⟩
  · exact hvalue hfailed
  · exact hf a hlater

theorem map_eq_error_iff {f : α → β} {error : ε} :
    value.map f = .error error ↔ value = .error error := by
  cases value <;> simp [Except.map]

theorem mapError_ok (f : ε → δ) (a : α) : (Except.ok a : Except ε α).mapError f = .ok a :=
  rfl

theorem mapError_error (f : ε → δ) (error : ε) :
    (Except.error error : Except ε α).mapError f = .error (f error) :=
  rfl

theorem mapError_eq_ok_iff {f : ε → δ} {a : α} : value.mapError f = .ok a ↔ value = .ok a := by
  cases value <;> simp [mapError_ok, mapError_error]

theorem mapError_eq_error_iff {f : ε → δ} {error : δ} :
    value.mapError f = .error error ↔ ∃ cause, value = .error cause ∧ f cause = error := by
  cases value <;> simp [mapError_ok, mapError_error]

theorem mapError_ne_error {f : ε → δ} {error : δ} (h : ∀ cause, f cause ≠ error) :
    value.mapError f ≠ .error error := by
  cases value <;> simp [mapError_ok, mapError_error, h]

theorem toOption_eq_some_iff {a : α} : value.toOption = some a ↔ value = .ok a := by
  cases value <;> simp [Except.toOption]

/-- The error, where there is one. -/
def failure? : Except ε α → Option ε
  | .ok _ => none
  | .error error => some error

theorem failure?_eq_some_iff {error : ε} : failure? value = some error ↔ value = .error error := by
  cases value <;> simp [failure?]

theorem exists_mapM_eq_ok {f : α → Except ε β} {items : List α}
    (h : ∀ item ∈ items, ∃ result, f item = .ok result) :
    ∃ results, items.mapM f = .ok results := by
  induction items with
  | nil => exact ⟨[], rfl⟩
  | cons item items ih =>
    obtain ⟨result, hresult⟩ := h item (by simp)
    obtain ⟨results, hresults⟩ := ih fun other hother => h other (by simp [hother])
    refine ⟨result :: results, ?_⟩
    rw [List.mapM_cons, hresult, hresults]
    rfl

end Espresso
