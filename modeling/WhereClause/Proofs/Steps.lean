/-
# Steps that may fail

A run of steps each of which may fail succeeds exactly if all its steps do, one from where
the other one ended.
-/

namespace WhereClause

section

variable {ε α β σ : Type}

/-- What is read in two steps is read in both of them. -/
theorem bind_eq_ok {first : Except ε α} {second : α → Except ε β} {answer : β} :
    (first >>= second) = .ok answer ↔
      ∃ between, first = .ok between ∧ second between = .ok answer := by
  cases first <;> simp [bind, Except.bind]

theorem foldlM_nil_eq_ok {step : σ → α → Except ε σ} {state last : σ} :
    ([] : List α).foldlM step state = .ok last ↔ last = state := by
  rw [List.foldlM_nil]
  exact ⟨fun same => (Except.ok.inj same).symm, fun same => same ▸ rfl⟩

theorem foldlM_cons_eq_ok {step : σ → α → Except ε σ} {state last : σ} {item : α}
    {items : List α} : (item :: items).foldlM step state = .ok last ↔
      ∃ between, step state item = .ok between ∧ items.foldlM step between = .ok last := by
  rw [List.foldlM_cons, bind_eq_ok]

theorem foldlM_cons_of_step {step : σ → α → Except ε σ} {state between : σ} {item : α}
    (taken : step state item = .ok between) (items : List α) :
    (item :: items).foldlM step state = items.foldlM step between := by
  rw [List.foldlM_cons, taken]
  rfl

theorem foldlM_append_eq_ok {step : σ → α → Except ε σ} {state last : σ} {items others : List α} :
    (items ++ others).foldlM step state = .ok last ↔
      ∃ between, items.foldlM step state = .ok between ∧
        others.foldlM step between = .ok last := by
  rw [List.foldlM_append, bind_eq_ok]

theorem foldlM_append_of_steps {step : σ → α → Except ε σ} {state between : σ} {items : List α}
    (taken : items.foldlM step state = .ok between) (others : List α) :
    (items ++ others).foldlM step state = others.foldlM step between := by
  rw [List.foldlM_append, taken]
  rfl

theorem foldlM_cons_of_fault {step : σ → α → Except ε σ} {state : σ} {item : α} {fault : ε}
    (refused : step state item = .error fault) (items : List α) :
    (item :: items).foldlM step state = .error fault := by
  rw [List.foldlM_cons, refused]
  rfl

end

end WhereClause
