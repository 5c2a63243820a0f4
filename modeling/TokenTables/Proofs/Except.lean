/-!
When a computation that can be refused gives a value, and when it gives a refusal.
-/

namespace TokenTables

variable {ε α β : Type}

@[simp] theorem ok_bind (a : α) (f : α → Except ε β) : (.ok a : Except ε α) >>= f = f a := rfl

@[simp] theorem error_bind (e : ε) (f : α → Except ε β) : (.error e : Except ε α) >>= f = .error e := rfl

theorem bind_eq_ok_iff {x : Except ε α} {f : α → Except ε β} {b : β} :
    x >>= f = .ok b ↔ ∃ a, x = .ok a ∧ f a = .ok b := by
  cases x with
  | error e => exact ⟨nofun, fun ⟨_, found, _⟩ => nomatch found⟩
  | ok a => exact ⟨fun h => ⟨a, rfl, h⟩, fun ⟨_, found, h⟩ => Except.ok.inj found ▸ h⟩

theorem map_eq_ok_iff {f : α → β} {x : Except ε α} {y : β} :
    x.map f = .ok y ↔ ∃ a, x = .ok a ∧ f a = y := by
  cases x with
  | error e => simp [Except.map]
  | ok a => simp [Except.map]

theorem map_eq_error_iff {f : α → β} {x : Except ε α} {e : ε} :
    x.map f = .error e ↔ x = .error e := by
  cases x with
  | error own => simp [Except.map]
  | ok a => simp [Except.map]

/-- A check that has one refusal only gives it where it gives no value. -/
theorem eq_error_iff_of_ok {x : Except ε α} {refusal e : ε} {stands : α → Prop}
    (ok : ∀ a, x = .ok a ↔ stands a) (only : ∀ own, x = .error own → own = refusal) :
    x = .error e ↔ (∀ a, ¬ stands a) ∧ e = refusal := by
  cases x with
  | ok a =>
    have given : stands a := (ok a).1 rfl
    exact ⟨nofun, fun other => absurd given (other.1 a)⟩
  | error own =>
    obtain rfl := only own rfl
    have none (a : α) : ¬ stands a := fun given => nomatch (ok a).2 given
    rw [Except.error.injEq, eq_comm]
    exact ⟨fun same => ⟨none, same⟩, And.right⟩

end TokenTables
