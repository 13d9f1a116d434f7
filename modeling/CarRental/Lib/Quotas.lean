import CarRental.Lib.KeyedRows
import Mathlib.Data.List.Count
import Mathlib.Data.List.Perm.Subperm

/-!
# Quotas

A quota bounds how many rows of a table count for it.  `Within counts limit` says that no
quota with a limit is overdrawn, as with a coupon that may be used so many times, in all
and by each customer.

Each write has an exact condition under which the table stays within its quotas: a row is
inserted (`within_concat`), or the one row of a key is rewritten (`within_updateKey`), and what
is asked is that the quotas for which the new row counts, and the old one did not, have room.
-/

namespace Quotas

open KeyedRows

variable {Row Key Quota : Type*} (counts : Quota → Row → Bool) (limit : Quota → Option ℕ)

/-- How many rows count for the quota. -/
def used (quota : Quota) (rows : List Row) : ℕ := rows.countP (counts quota)

def Within (rows : List Row) : Prop :=
  ∀ quota, ∀ max ∈ limit quota, used counts quota rows ≤ max

variable {counts limit} {quota : Quota} {rows : List Row} {row : Row}

theorem within_nil : Within counts limit ([] : List Row) := fun _ _ _ => Nat.zero_le _

theorem used_concat :
    used counts quota (rows ++ [row]) =
      used counts quota rows + if counts quota row then 1 else 0 := by
  rw [used, used, List.countP_append, List.countP_singleton]

theorem used_concat_of_counts (h : counts quota row = true) :
    used counts quota (rows ++ [row]) = used counts quota rows + 1 := by
  rw [used_concat, if_pos h]

theorem used_concat_of_not_counts (h : counts quota row = false) :
    used counts quota (rows ++ [row]) = used counts quota rows := by
  rw [used_concat, h, if_neg Bool.false_ne_true, Nat.add_zero]

theorem used_eq_zero (h : ∀ row ∈ rows, counts quota row = false) :
    used counts quota rows = 0 :=
  List.countP_eq_zero.mpr fun row hrow => by rw [h row hrow]; exact Bool.false_ne_true

theorem used_le_used {Row' : Type*} {counts' : Quota → Row' → Bool} {rows' : List Row'}
    {key : Row → Key} (key' : Row' → Key) (hnodup : (rows.map key).Nodup)
    (h : ∀ row ∈ rows, counts quota row = true →
      ∃ row' ∈ rows', counts' quota row' = true ∧ key' row' = key row) :
    used counts quota rows ≤ used counts' quota rows' := by
  have hkeys : ((rows.filter (counts quota)).map key).Nodup :=
    hnodup.sublist (List.filter_sublist.map key)
  have hsubset : (rows.filter (counts quota)).map key ⊆
      (rows'.filter (counts' quota)).map key' := by
    intro k hk
    obtain ⟨row, hrow, rfl⟩ := List.mem_map.mp hk
    obtain ⟨hmem, hcounts⟩ := List.mem_filter.mp hrow
    obtain ⟨row', hmem', hcounts', heq⟩ := h row hmem hcounts
    exact List.mem_map.mpr ⟨row', List.mem_filter.mpr ⟨hmem', hcounts'⟩, heq⟩
  have hlength := (List.subperm_of_subset hkeys hsubset).length_le
  rwa [List.length_map, List.length_map, ← List.countP_eq_length_filter,
    ← List.countP_eq_length_filter] at hlength

theorem within_concat (h : Within counts limit rows) :
    Within counts limit (rows ++ [row]) ↔
      ∀ quota, counts quota row = true → ∀ max ∈ limit quota, used counts quota rows < max := by
  constructor
  · intro hnew quota hcounts max hmax
    have hle := hnew quota max hmax
    rw [used_concat, if_pos hcounts] at hle
    omega
  · intro hroom quota max hmax
    rw [used_concat]
    split
    next hcounts => exact hroom quota hcounts max hmax
    · exact h quota max hmax

section Update

variable [DecidableEq Key] {key : Row → Key} {k : Key} {f : Row → Row}

theorem used_updateKey_of_same (hf : ∀ row, counts quota (f row) = counts quota row) :
    used counts quota (updateKey key k f rows) = used counts quota rows := by
  rw [used, used, updateKey, List.countP_map]
  congr 1
  funext row
  simp only [Function.comp]
  split
  · exact hf row
  · rfl

theorem within_updateKey_of_same (hf : ∀ quota row, counts quota (f row) = counts quota row) :
    Within counts limit (updateKey key k f rows) ↔ Within counts limit rows := by
  simp only [Within, used_updateKey_of_same (hf _)]

theorem updateKey_of_absent (h : ∀ other ∈ rows, key other ≠ k) : updateKey key k f rows = rows := by
  rw [updateKey]
  conv_rhs => rw [← List.map_id rows]
  exact List.map_congr_left fun other hother => if_neg (h other hother)

theorem used_updateKey (hnodup : (rows.map key).Nodup) (hrow : row ∈ rows) (hkey : key row = k) :
    used counts quota (updateKey key k f rows) + (if counts quota row then 1 else 0) =
      used counts quota rows + if counts quota (f row) then 1 else 0 := by
  induction rows with
  | nil => cases hrow
  | cons first rest ih =>
    obtain ⟨habsent, hrest⟩ := List.nodup_cons.mp hnodup
    have hcons : ∀ (row : Row) (rows : List Row), used counts quota (row :: rows) =
        used counts quota rows + if counts quota row then 1 else 0 :=
      fun row rows => List.countP_cons
    have hupdate : updateKey key k f (first :: rest) =
        (if key first = k then f first else first) :: updateKey key k f rest := rfl
    rw [hupdate, hcons, hcons]
    rcases List.mem_cons.mp hrow with rfl | hmem
    · have hothers : ∀ other ∈ rest, key other ≠ k := fun other hother heq =>
        habsent (List.mem_map.mpr ⟨other, hother, heq.trans hkey.symm⟩)
      rw [if_pos hkey, updateKey_of_absent hothers]
      omega
    · have hfirst : key first ≠ k := fun heq =>
        habsent (List.mem_map.mpr ⟨row, hmem, hkey.trans heq.symm⟩)
      rw [if_neg hfirst]
      have := ih hrest hmem
      omega

theorem within_updateKey (hnodup : (rows.map key).Nodup) (hrow : row ∈ rows)
    (hkey : key row = k) (h : Within counts limit rows) :
    Within counts limit (updateKey key k f rows) ↔
      ∀ quota, counts quota (f row) = true → counts quota row = false →
        ∀ max ∈ limit quota, used counts quota rows < max := by
  constructor
  · intro hnew quota hafter hbefore max hmax
    have hle := hnew quota max hmax
    have hused : used counts quota (updateKey key k f rows) + (if counts quota row then 1 else 0) =
        used counts quota rows + if counts quota (f row) then 1 else 0 :=
      used_updateKey hnodup hrow hkey
    rw [if_pos hafter, hbefore, if_neg Bool.false_ne_true] at hused
    omega
  · intro hroom quota max hmax
    have hused : used counts quota (updateKey key k f rows) + (if counts quota row then 1 else 0) =
        used counts quota rows + if counts quota (f row) then 1 else 0 :=
      used_updateKey hnodup hrow hkey
    have hle := h quota max hmax
    cases hafter : counts quota (f row) with
    | false =>
      rw [hafter, if_neg Bool.false_ne_true] at hused
      omega
    | true =>
      cases hbefore : counts quota row with
      | true =>
        rw [hafter, hbefore] at hused
        omega
      | false =>
        rw [hafter, hbefore, if_pos rfl, if_neg Bool.false_ne_true] at hused
        have := hroom quota hafter hbefore max hmax
        omega

end Update

end Quotas
