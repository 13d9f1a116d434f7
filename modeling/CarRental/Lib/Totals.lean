import Mathlib.Algebra.Order.BigOperators.Group.List
import Mathlib.Algebra.Order.Group.Int
import Mathlib.Algebra.Ring.Int.Defs
import Mathlib.Tactic.TypeStar
import Mathlib.Data.List.Chain

/-!
# Totals of a table

`total p weight rows` is the sum of a weight over the rows that satisfy `p`, as a
database sums a column under a filter.  Two filters that should agree are compared by
splitting the one by the other (`total_split`); a filter that lets through more rows of
a weight that is nowhere negative has the larger total (`total_mono`).
-/

namespace Totals

variable {Row : Type*} {p q r : Row → Bool} {weight : Row → ℤ} {rows : List Row}

def total (p : Row → Bool) (weight : Row → ℤ) (rows : List Row) : ℤ :=
  ((rows.filter p).map weight).sum

@[simp] theorem total_nil : total p weight [] = 0 := rfl

theorem total_cons (row : Row) :
    total p weight (row :: rows) = (if p row then weight row else 0) + total p weight rows := by
  unfold total
  by_cases h : p row = true
  · simp [h]
  · simp [h]

theorem total_concat (row : Row) :
    total p weight (rows ++ [row]) = total p weight rows + if p row then weight row else 0 := by
  unfold total
  by_cases h : p row = true
  · simp [h]
  · simp [h]

theorem total_append (first second : List Row) :
    total p weight (first ++ second) = total p weight first + total p weight second := by
  simp [total]

theorem total_set {index : ℕ} {row : Row} (h : rows[index]? = some row) (row' : Row) :
    total p weight (rows.set index row') =
      total p weight rows - (if p row then weight row else 0) +
        if p row' then weight row' else 0 := by
  induction rows generalizing index with
  | nil => simp at h
  | cons first rest ih =>
    cases index with
    | zero =>
      rw [List.getElem?_cons_zero, Option.some.injEq] at h
      rw [List.set_cons_zero, total_cons, total_cons, h]
      omega
    | succ index =>
      rw [List.getElem?_cons_succ] at h
      rw [List.set_cons_succ, total_cons, total_cons, ih h]
      omega

theorem total_perm (p : Row → Bool) (weight : Row → ℤ) {rows' : List Row} (h : rows.Perm rows') :
    total p weight rows = total p weight rows' :=
  ((h.filter p).map weight).sum_eq

theorem total_of_all (h : ∀ row ∈ rows, p row = true) :
    total p weight rows = (rows.map weight).sum := by
  rw [total, List.filter_eq_self.mpr h]

theorem total_congr (h : ∀ row ∈ rows, p row = q row) :
    total p weight rows = total q weight rows := by
  rw [total, total, List.filter_congr h]

theorem total_split (h : ∀ row, p row = (q row || r row))
    (hdisjoint : ∀ row, (q row && r row) = false) :
    total p weight rows = total q weight rows + total r weight rows := by
  induction rows with
  | nil => rfl
  | cons row rest ih =>
    have hrow : (if p row then weight row else 0) =
        (if q row then weight row else 0) + if r row then weight row else 0 := by
      have hdis := hdisjoint row
      rw [h row]
      cases hq : q row <;> cases hr : r row <;> simp_all
    rw [total_cons, total_cons, total_cons, ih, hrow]
    omega

theorem total_nonneg (h : ∀ row ∈ rows, 0 ≤ weight row) : 0 ≤ total p weight rows := by
  refine List.sum_nonneg fun x hx => ?_
  obtain ⟨row, hrow, rfl⟩ := List.mem_map.mp hx
  exact h row (List.mem_of_mem_filter hrow)

/-! ### Tables that are put together -/

section Assembled

variable {Part : Type*}

theorem total_flatMap (f : Part → List Row) (parts : List Part) :
    total p weight (parts.flatMap f) = (parts.map fun part => total p weight (f part)).sum := by
  induction parts with
  | nil => rfl
  | cons part rest ih => rw [List.flatMap_cons, total_append, ih, List.map_cons, List.sum_cons]

theorem sum_map_eq_total {f : Row → ℤ}
    (h : ∀ row ∈ rows, f row = if p row then weight row else 0) :
    (rows.map f).sum = total p weight rows := by
  induction rows with
  | nil => rfl
  | cons row rest ih =>
    rw [List.map_cons, List.sum_cons, total_cons, h row List.mem_cons_self,
      ih fun other hmem => h other (List.mem_cons_of_mem row hmem)]

theorem total_filterMap_of_key {key : Row → Part} {f : Part → Option Row} {parts : List Part}
    {part : Part} (hkey : ∀ other row, f other = some row → key row = other)
    (hp : ∀ row, p row = true → key row = part) (hnodup : parts.Nodup) (hmem : part ∈ parts) :
    total p weight (parts.filterMap f) = total p weight (f part).toList := by
  have hother : ∀ other, other ≠ part → total p weight (f other).toList = 0 := by
    intro other hne
    cases hrow : f other with
    | none => rfl
    | some row =>
      have hnot : p row ≠ true := fun h => hne ((hkey other row hrow).symm.trans (hp row h))
      simp [total, hnot]
  have hcons : ∀ first (rest : List Part), total p weight ((first :: rest).filterMap f) =
      total p weight (f first).toList + total p weight (rest.filterMap f) := by
    intro first rest
    rw [← total_append]
    cases hrow : f first with
    | none => rw [List.filterMap_cons_none hrow]; rfl
    | some row => rw [List.filterMap_cons_some hrow]; rfl
  induction parts with
  | nil => cases hmem
  | cons first rest ih =>
    obtain ⟨hfirst, hrest⟩ := List.nodup_cons.mp hnodup
    rw [hcons]
    rcases List.mem_cons.mp hmem with rfl | hlater
    · have hzero : total p weight (rest.filterMap f) = 0 := by
        rw [total, List.filter_eq_nil_iff.mpr, List.map_nil, List.sum_nil]
        intro row hrow hpasses
        obtain ⟨other, hother', hf⟩ := List.mem_filterMap.mp hrow
        exact hfirst ((hp row hpasses).symm.trans (hkey other row hf) ▸ hother')
      rw [hzero, add_zero]
    · have hne : first ≠ part := fun heq => hfirst (heq ▸ hlater)
      rw [hother first hne, ih hrest hlater, zero_add]

theorem total_of_key {key : Row → Part} {row : Row} (hkeys : (rows.map key).Nodup)
    (hmem : row ∈ rows) (hp : ∀ other ∈ rows, p other = true ↔ key other = key row) :
    total p weight rows = weight row := by
  induction rows with
  | nil => cases hmem
  | cons first rest ih =>
    obtain ⟨hfirst, hrest⟩ := List.nodup_cons.mp hkeys
    rw [total_cons]
    rcases List.mem_cons.mp hmem with rfl | hlater
    · have hzero : total p weight rest = 0 := by
        rw [total, List.filter_eq_nil_iff.mpr, List.map_nil, List.sum_nil]
        intro other hother hpasses
        have hkey := (hp other (List.mem_cons_of_mem _ hother)).mp hpasses
        exact hfirst (hkey ▸ List.mem_map_of_mem hother)
      rw [if_pos ((hp row List.mem_cons_self).mpr rfl), hzero, add_zero]
    · have hne : p first ≠ true := by
        intro hpasses
        have hkey := (hp first List.mem_cons_self).mp hpasses
        exact hfirst (hkey ▸ List.mem_map_of_mem hlater)
      rw [if_neg hne, zero_add,
        ih hrest hlater fun other hother => hp other (List.mem_cons_of_mem _ hother)]

end Assembled

theorem sum_min_le_iff {bound : ℤ} {amounts : List ℤ} (hpos : ∀ amount ∈ amounts, 0 < amount)
    (hbound : 0 < bound) :
    (amounts.map (min · bound)).sum ≤ bound ↔ amounts.length ≤ 1 ∨ amounts.sum ≤ bound := by
  constructor
  · intro hsum
    by_contra hnot
    obtain ⟨hmany, hover⟩ := not_or.mp hnot
    have hcut : ∀ amount ∈ amounts, 0 < min amount bound := fun amount hmem =>
      lt_min (hpos amount hmem) hbound
    -- an amount at the bound leaves no room for another one
    have hbelow : ∀ amount ∈ amounts, min amount bound = amount := by
      intro amount hmem
      by_contra hne
      have hfull : min amount bound = bound := by omega
      have hperm := List.perm_cons_erase hmem
      have htotal := (hperm.map (min · bound)).sum_eq
      rw [List.map_cons, List.sum_cons, hfull] at htotal
      have hlength := hperm.length_eq
      rw [List.length_cons] at hlength
      obtain ⟨second, hsecond⟩ := List.exists_mem_of_length_pos
        (show 0 < (amounts.erase amount).length by omega)
      have hrest : 0 < ((amounts.erase amount).map (min · bound)).sum :=
        List.sum_pos _ (fun cut hcutMem => by
          obtain ⟨other, hother, rfl⟩ := List.mem_map.mp hcutMem
          exact hcut other (List.mem_of_mem_erase hother))
          (by simpa using List.ne_nil_of_mem hsecond)
      omega
    rw [List.map_congr_left hbelow, List.map_id'] at hsum
    exact hover hsum
  · rintro (hfew | hwithin)
    · rcases amounts with _ | ⟨amount, _ | ⟨second, rest⟩⟩
      · simpa using hbound.le
      · simp
      · simp at hfew
    · refine le_trans ?_ hwithin
      have hmap := List.sum_le_sum (l := amounts) (f := (min · bound)) (g := fun amount => amount)
        fun amount _ => min_le_left amount bound
      rwa [List.map_id'] at hmap

end Totals

/-!
## Account statements

A statement is a list of rows, each with the balance before and after it.  It runs
from an opening to a closing balance when every row starts where the one before it
ended (`Runs opening rows closing`).  Then consecutive rows are chained
(`Runs.isChain`), and where each row changes the balance by the signed amount of one
of two kinds, the closing balance is the opening one plus the total of the first kind
less the total of the second (`Runs.closing_eq`).
-/

namespace Statement

open Totals

variable {Row : Type*} (before after : Row → ℤ)

/-- Every row starts from the balance at which the one before it ended. -/
def Runs : ℤ → List Row → ℤ → Prop
  | opening, [], closing => opening = closing
  | opening, row :: rest, closing => before row = opening ∧ Runs (after row) rest closing

variable {before after} {opening closing : ℤ} {rows : List Row} {row : Row}

theorem runs_nil : Runs before after opening [] opening := rfl

theorem Runs.concat (h : Runs before after opening rows closing) (hrow : before row = closing) :
    Runs before after opening (rows ++ [row]) (after row) := by
  induction rows generalizing opening with
  | nil => exact ⟨hrow.trans h.symm, rfl⟩
  | cons first rest ih => exact ⟨h.1, ih h.2⟩

theorem Runs.head (h : Runs before after opening rows closing) :
    ∀ first ∈ rows.head?, before first = opening := by
  cases rows with
  | nil => simp
  | cons first rest =>
    intro row hrow
    obtain rfl : first = row := by simpa using hrow
    exact h.1

theorem Runs.isChain (h : Runs before after opening rows closing) :
    rows.IsChain fun previous next => before next = after previous := by
  induction rows generalizing opening with
  | nil => exact List.isChain_nil
  | cons first rest ih => exact List.isChain_cons.mpr ⟨h.2.head, ih h.2⟩

theorem Runs.closing_eq (plus minus : Row → Bool) (amount : Row → ℤ)
    (hrows : ∀ row ∈ rows, after row = before row + (if plus row then amount row else 0) -
      if minus row then amount row else 0)
    (h : Runs before after opening rows closing) :
    closing = opening + total plus amount rows - total minus amount rows := by
  induction rows generalizing opening with
  | nil =>
    have hclosing : opening = closing := h
    simp [hclosing]
  | cons first rest ih =>
    have hfirst := hrows first (List.mem_cons_self ..)
    have hrest := ih (fun row hrow => hrows row (List.mem_cons_of_mem _ hrow)) h.2
    rw [total_cons, total_cons, hrest, hfirst, h.1]
    omega

end Statement
