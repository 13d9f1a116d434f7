import Mathlib.Data.List.Basic
import Mathlib.Tactic.TypeStar

/-!
# Rows that are checked first and written later

A request checks its new row against a table, and writes it in a later step.  The table grows
at its end in between, and its rows may be updated.  With the length that the table had at the
check (`seen`), what was checked is still known of these rows (`Checked`), so the new row
agrees with the whole table exactly if it agrees with the rows since (`Checked.forall_iff`).
-/

namespace CheckedWrites

variable {Row New : Type*} {R S : Row → New → Prop} {rows : List Row} {seen : ℕ} {new : New}

/-- The new row agrees with the rows that the table had at the check. -/
def Checked (R : Row → New → Prop) (rows : List Row) (seen : ℕ) (new : New) : Prop :=
  seen ≤ rows.length ∧ ∀ row ∈ rows.take seen, R row new

theorem checked_length (h : ∀ row ∈ rows, R row new) : Checked R rows rows.length new := by
  refine ⟨Nat.le_refl _, ?_⟩
  rw [List.take_length]
  exact h

theorem Checked.append (h : Checked R rows seen new) (more : List Row) :
    Checked R (rows ++ more) seen new := by
  constructor
  · rw [List.length_append]
    exact Nat.le_trans h.1 (Nat.le_add_right _ _)
  · rw [List.take_append_of_le_length h.1]
    exact h.2

theorem Checked.map (h : Checked R rows seen new) {f : Row → Row}
    (hf : ∀ row, R row new → R (f row) new) : Checked R (rows.map f) seen new := by
  constructor
  · rw [List.length_map]
    exact h.1
  rw [← List.map_take]
  intro row hrow
  obtain ⟨old, hold, rfl⟩ := List.mem_map.mp hrow
  exact hf old (h.2 old hold)

theorem Checked.mono (h : Checked R rows seen new) (hRS : ∀ row, R row new → S row new) :
    Checked S rows seen new :=
  ⟨h.1, fun row hrow => hRS row (h.2 row hrow)⟩

theorem Checked.forall_iff (h : Checked R rows seen new) :
    (∀ row ∈ rows, R row new) ↔ ∀ row ∈ rows.drop seen, R row new := by
  constructor
  · exact fun hall row hrow => hall row (List.mem_of_mem_drop hrow)
  · intro hsince row hrow
    rw [← List.take_append_drop seen rows, List.mem_append] at hrow
    exact hrow.elim (h.2 row) (hsince row)

end CheckedWrites
