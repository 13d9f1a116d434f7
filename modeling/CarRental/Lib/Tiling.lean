import Mathlib.Data.Set.Insert
import Mathlib.Order.Defs.LinearOrder

/-!
# Intervals that tile a span

A set of members, each with a half-open interval, tiles the span from `a` to `b` when
the intervals are pairwise disjoint and their union is `[a, b)`.

Growing a tiling at its end is exact: with one more nonempty interval `[start, stop)` that
does not begin before `a`, the members tile the span from `a` to `stop` if and only if the
interval begins where the tiling ended (`tiles_insert_iff`).
-/

namespace Tiling

variable {Member Time : Type*} [LinearOrder Time]

/-- The members' intervals are disjoint and together cover exactly `[a, b)`. -/
structure Tiles (members : Set Member) (start stop : Member → Time) (a b : Time) : Prop where
  disjoint : ∀ i ∈ members, ∀ j ∈ members, i ≠ j →
    ∀ t, start i ≤ t → t < stop i → start j ≤ t → ¬ t < stop j
  cover : ∀ t, (∃ i ∈ members, start i ≤ t ∧ t < stop i) ↔ a ≤ t ∧ t < b

variable {members : Set Member} {start stop : Member → Time} {a b c : Time} {i : Member}

theorem tiles_empty (start stop : Member → Time) (a : Time) : Tiles ∅ start stop a a where
  disjoint := fun _ hi => absurd hi (Set.notMem_empty _)
  cover := by
    intro t
    simp only [Set.mem_empty_iff_false, false_and, exists_false, false_iff, not_and]
    exact fun hle => not_lt.mpr hle

theorem Tiles.end_eq (h : Tiles members start stop a b) (hab : a ≤ b)
    (h' : Tiles members start stop a c) (hac : a ≤ c) : b = c := by
  have hsame : ∀ t, a ≤ t → (t < b ↔ t < c) := by
    intro t hat
    have hiff := (h.cover t).symm.trans (h'.cover t)
    exact ⟨fun hlt => (hiff.mp ⟨hat, hlt⟩).2, fun hlt => (hiff.mpr ⟨hat, hlt⟩).2⟩
  refine le_antisymm ?_ ?_
  · by_contra hlt
    exact lt_irrefl c ((hsame c hac).mp (not_le.mp hlt))
  · by_contra hlt
    exact lt_irrefl b ((hsame b hab).mpr (not_le.mp hlt))

theorem tiles_insert_iff (h : Tiles members start stop a b) (hab : a ≤ b) (hnew : i ∉ members)
    (hlt : start i < stop i) (hle : a ≤ start i) :
    Tiles (insert i members) start stop a (stop i) ↔ start i = b := by
  constructor
  · intro hins
    by_contra hne
    rcases lt_or_gt_of_ne hne with hearly | hlate
    · -- the interval begins inside the tiling, where some member lies already
      obtain ⟨j, hj, hstart, hstop⟩ := (h.cover (start i)).mpr ⟨hle, hearly⟩
      have hij : i ≠ j := fun heq => hnew (heq ▸ hj)
      exact hins.disjoint i (Set.mem_insert i members) j (Set.mem_insert_of_mem i hj) hij
        (start i) (le_refl _) hlt hstart hstop
    · -- the interval begins after the tiling, so nothing covers the old end
      obtain ⟨j, hj, hstart, hstop⟩ := (hins.cover b).mpr ⟨hab, hlate.trans hlt⟩
      rcases Set.mem_insert_iff.mp hj with rfl | hmem
      · exact absurd hstart (not_le.mpr hlate)
      · exact lt_irrefl b ((h.cover b).mp ⟨j, hmem, hstart, hstop⟩).2
  · intro hend
    -- the old members lie before the new interval
    have hbefore : ∀ j ∈ members, ∀ t, start j ≤ t → t < stop j → t < start i := by
      intro j hj t hstart hstop
      rw [hend]
      exact ((h.cover t).mp ⟨j, hj, hstart, hstop⟩).2
    refine ⟨?_, fun t => ?_⟩
    · rintro j (rfl | hj) k (rfl | hk) hne t hstart hstop hstart' hstop'
      · exact hne rfl
      · exact absurd hstart (not_le.mpr (hbefore k hk t hstart' hstop'))
      · exact absurd hstart' (not_le.mpr (hbefore j hj t hstart hstop))
      · exact h.disjoint j hj k hk hne t hstart hstop hstart' hstop'
    · constructor
      · rintro ⟨j, hj, hstart, hstop⟩
        rcases Set.mem_insert_iff.mp hj with rfl | hmem
        · exact ⟨hle.trans hstart, hstop⟩
        · obtain ⟨hat, htb⟩ := (h.cover t).mp ⟨j, hmem, hstart, hstop⟩
          exact ⟨hat, htb.trans (hend ▸ hlt)⟩
      · rintro ⟨hat, hstop⟩
        rcases lt_or_ge t b with hbefore | hafter
        · obtain ⟨j, hj, hcovered⟩ := (h.cover t).mpr ⟨hat, hbefore⟩
          exact ⟨j, Set.mem_insert_of_mem i hj, hcovered⟩
        · exact ⟨i, Set.mem_insert i members, hend ▸ hafter, hstop⟩

end Tiling
