import InstructionStore.Database.Table
import InstructionStore.Proofs.Outcome

/-!
# Rows that are added

A row is added at the end of a table, and it is added exactly if it is allowed on its own
and clashes with no other row.
-/

namespace InstructionStore.Database

variable {Row : Type}

theorem Slot.read_eq_ok_iff {slot : Slot Row} {rows : List Row} :
    slot.read = .ok rows ↔ slot = .rows rows := by
  cases slot with
  | vacant => exact ⟨nofun, nofun⟩
  | foreign => exact ⟨nofun, nofun⟩
  | rows rs => rw [Slot.read, Except.ok.injEq, Slot.rows.injEq]

namespace Table

variable {table : Table Row} {row : Row} {rows rows' : List Row}

/-- **A row is added** at the end, and only if it clashes with none. -/
theorem insert_eq_ok_iff :
    table.insert row rows = .ok rows'
      ↔ (table.allows row = true ∧ ∀ other ∈ rows, table.clash row other = false)
        ∧ rows' = rows ++ [row] := by
  have hfree : (table.allows row && !rows.any (table.clash row)) = true
      ↔ table.allows row = true ∧ ∀ other ∈ rows, table.clash row other = false := by
    rw [Bool.and_eq_true, Bool.not_eq_true', List.any_eq_false]
    simp only [Bool.not_eq_true]
  unfold insert
  split
  case isTrue h =>
    rw [Except.ok.injEq]
    exact ⟨fun heq => ⟨hfree.1 h, heq.symm⟩, fun heq => heq.2.symm⟩
  case isFalse h => exact ⟨nofun, fun heq => absurd (hfree.2 heq.1) h⟩

/-- A row that clashes with another is refused. -/
theorem insert_eq_error {other : Row} (hmem : other ∈ rows)
    (h : table.clash row other = true) : table.insert row rows = .error .constraint := by
  unfold insert
  rw [List.any_eq_true.2 ⟨other, hmem, h⟩, Bool.not_true, Bool.and_false]
  rfl

end Table

end InstructionStore.Database
