/-!
# What a computation that may fail comes to

A check is a chain of smaller checks, and the first that fails decides. These
lemmas take such a chain apart: it succeeds with a value when each part does
(`bind_eq_ok_iff`), and it fails when one part fails after those before it
succeeded (`bind_eq_error_iff`).
-/

namespace InstructionStore.Outcome

variable {ε ε' α β : Type}

@[simp] theorem pure_eq (a : α) : (pure a : Except ε α) = .ok a := rfl

@[simp] theorem throw_eq (e : ε) : (throw e : Except ε α) = .error e := rfl

@[simp] theorem ok_bind (a : α) (f : α → Except ε β) : (Except.ok a >>= f) = f a := rfl

@[simp] theorem error_bind (e : ε) (f : α → Except ε β) :
    ((Except.error e : Except ε α) >>= f) = .error e := rfl

theorem exists_eq_ok_of_isOk {x : Except ε α} (h : x.isOk = true) : ∃ a, x = .ok a := by
  cases x with
  | ok a => exact ⟨a, rfl⟩
  | error e => exact nomatch h

theorem eq_ok_of_toOption {x : Except ε α} {a : α} (h : x.toOption = some a) : x = .ok a := by
  cases x with
  | ok b => exact congrArg Except.ok (Option.some.inj h)
  | error e => exact nomatch h

/-- A run that succeeds gives its result, and there is a state after it. -/
theorem run_eq_of_toOption {σ : Type} {run : Except ε α × σ} {a : α}
    (h : run.1.toOption = some a) : run = (.ok a, run.2) :=
  Prod.ext (eq_ok_of_toOption h) rfl

/-- A chain succeeds when its first part does and then the rest. -/
theorem bind_eq_ok_iff {x : Except ε α} {f : α → Except ε β} {b : β} :
    (x >>= f) = .ok b ↔ ∃ a, x = .ok a ∧ f a = .ok b := by
  cases x <;> simp

/-- A chain fails when its first part does, or the rest after it. -/
theorem bind_eq_error_iff {x : Except ε α} {f : α → Except ε β} {e : ε} :
    (x >>= f) = .error e ↔ x = .error e ∨ ∃ a, x = .ok a ∧ f a = .error e := by
  cases x <;> simp

theorem map_eq_ok_iff {x : Except ε α} {f : α → β} {b : β} :
    x.map f = .ok b ↔ ∃ a, x = .ok a ∧ f a = b := by
  cases x <;> simp [Except.map]

theorem map_eq_error_iff {x : Except ε α} {f : α → β} {e : ε} :
    x.map f = .error e ↔ x = .error e := by
  cases x <;> simp [Except.map]

theorem mapError_eq_ok_iff {x : Except ε α} {f : ε → ε'} {a : α} :
    x.mapError f = .ok a ↔ x = .ok a := by
  cases x with
  | ok b => rw [show (Except.ok b).mapError f = .ok b from rfl, Except.ok.injEq, Except.ok.injEq]
  | error d => exact ⟨nofun, nofun⟩

theorem mapError_eq_error_iff {x : Except ε α} {f : ε → ε'} {e : ε'} :
    x.mapError f = .error e ↔ ∃ d, x = .error d ∧ f d = e := by
  cases x with
  | ok b => exact ⟨nofun, nofun⟩
  | error d =>
    rw [show (Except.error d : Except ε α).mapError f = .error (f d) from rfl, Except.error.injEq]
    exact ⟨fun h => ⟨d, rfl, h⟩, fun ⟨_, hd, h⟩ => Except.error.inj hd ▸ h⟩

/-- A demand in front of a chain has to be met. -/
theorem demand_eq_ok_iff {c : Prop} [Decidable c] {e : ε} {x : Except ε α} {a : α} :
    (if c then .error e else x) = .ok a ↔ ¬c ∧ x = .ok a := by
  by_cases h : c <;> simp [h]

/-- A chain with a demand in front fails when the demand is not met, or the
chain after it. -/
theorem demand_eq_error_iff {c : Prop} [Decidable c] {d e : ε} {x : Except ε α} :
    (if c then .error d else x) = .error e ↔ c ∧ d = e ∨ ¬c ∧ x = .error e := by
  by_cases h : c <;> simp [h]

end InstructionStore.Outcome
