import Mathlib.Data.List.Nodup
import Mathlib.Tactic.TypeStar

/-!
# Tables of rows with a key

A table is a list of rows, each with a key.  `updateKey` rewrites the rows of one
key, and `Exclusive R` says that rows of different keys are pairwise related by `R`,
as with reservations that must not collide.

For a symmetric `R`, one insert and one update each have an exact condition under
which the table stays exclusive: `exclusive_concat` and `exclusive_updateKey`.
-/

namespace KeyedRows

variable {Row Key : Type*} (key : Row → Key)

def updateKey [DecidableEq Key] (k : Key) (f : Row → Row) (rows : List Row) : List Row :=
  rows.map fun row => if key row = k then f row else row

/-- Any two rows with different keys are related. -/
def Exclusive (R : Row → Row → Prop) (rows : List Row) : Prop :=
  ∀ a ∈ rows, ∀ b ∈ rows, key a ≠ key b → R a b

instance decidableExclusive [DecidableEq Key] (R : Row → Row → Prop) [∀ a b, Decidable (R a b)]
    (rows : List Row) : Decidable (Exclusive key R rows) :=
  inferInstanceAs (Decidable (∀ a ∈ rows, ∀ b ∈ rows, key a ≠ key b → R a b))

section Update

variable {key} [DecidableEq Key] {k : Key} {f : Row → Row} {rows : List Row} {a : Row}

theorem mem_updateKey :
    a ∈ updateKey key k f rows ↔
      (∃ row ∈ rows, key row = k ∧ f row = a) ∨ (a ∈ rows ∧ key a ≠ k) := by
  simp only [updateKey, List.mem_map]
  constructor
  · rintro ⟨row, hrow, rfl⟩
    split
    next h => exact .inl ⟨row, hrow, h, rfl⟩
    next h => exact .inr ⟨hrow, h⟩
  · rintro (⟨row, hrow, h, rfl⟩ | ⟨hrow, h⟩)
    · exact ⟨row, hrow, if_pos h⟩
    · exact ⟨a, hrow, if_neg h⟩

theorem map_key_updateKey (hf : ∀ row, key (f row) = key row) :
    (updateKey key k f rows).map key = rows.map key := by
  rw [updateKey, List.map_map]
  refine List.map_congr_left fun row _ => ?_
  simp only [Function.comp]
  split
  · exact hf row
  · rfl

theorem find?_updateKey (hf : ∀ row, key (f row) = key row) (other : Key) :
    (updateKey key k f rows).find? (fun row => key row = other) =
      (rows.find? fun row => key row = other).map fun row => if key row = k then f row else row := by
  rw [updateKey, List.find?_map]
  congr 2
  funext row
  simp only [Function.comp]
  split
  · rw [hf]
  · rfl

omit [DecidableEq Key] in
theorem find?_map_of_mem {p : Row → Bool} (hp : ∀ row ∈ rows, p (f row) = p row) :
    (rows.map f).find? p = (rows.find? p).map f := by
  induction rows with
  | nil => rfl
  | cons first rest ih =>
    have hrest := ih fun row hrow => hp row (List.mem_cons_of_mem _ hrow)
    rw [List.map_cons, List.find?_cons, List.find?_cons, hp first List.mem_cons_self]
    cases p first with
    | true => rfl
    | false => exact hrest

omit [DecidableEq Key] in
theorem eq_of_key_eq (hnodup : (rows.map key).Nodup) {b : Row} (ha : a ∈ rows) (hb : b ∈ rows)
    (h : key a = key b) : a = b :=
  List.inj_on_of_nodup_map hnodup ha hb h

omit [DecidableEq Key] in
theorem nodup_map_concat (hnodup : (rows.map key).Nodup) (hfresh : key a ∉ rows.map key) :
    ((rows ++ [a]).map key).Nodup := by
  rw [List.map_append, List.nodup_append]
  refine ⟨hnodup, List.nodup_singleton _, fun k hk other hother heq => hfresh ?_⟩
  rwa [← List.mem_singleton.mp hother, ← heq]

theorem find?_eq_some_of_mem (hnodup : (rows.map key).Nodup) (ha : a ∈ rows) (h : key a = k) :
    (rows.find? fun row => key row = k) = some a := by
  have hisSome : (rows.find? fun row => key row = k).isSome = true :=
    List.find?_isSome.mpr ⟨a, ha, decide_eq_true h⟩
  obtain ⟨b, hb⟩ := Option.isSome_iff_exists.mp hisSome
  have hkey : key b = k := of_decide_eq_true (List.find?_some hb :)
  rw [hb, eq_of_key_eq hnodup (List.mem_of_find?_eq_some hb) ha (hkey.trans h.symm)]

theorem filter_updateKey {p : Row → Bool} (hf : ∀ row, p (f row) = false) :
    (updateKey key k f rows).filter p = (rows.filter p).filter fun row => key row ≠ k := by
  rw [updateKey, List.filter_map, List.filter_filter]
  induction rows with
  | nil => rfl
  | cons first rest ih =>
    rw [List.filter_cons, List.filter_cons]
    by_cases hkey : key first = k
    · simpa [hkey, hf] using ih
    · cases hp : p first with
      | false => simpa [hkey, hp] using ih
      | true => simpa [hkey, hp] using ih

section Count

variable {p : Row → Bool}

theorem countP_updateKey_le (hf : ∀ row, p (f row) = true → p row = true) :
    (updateKey key k f rows).countP p ≤ rows.countP p := by
  rw [updateKey, List.countP_map]
  refine List.countP_mono_left fun row _ h => ?_
  rw [Function.comp] at h
  split at h
  · exact hf row h
  · exact h

theorem countP_updateKey_add (hnodup : (rows.map key).Nodup) (ha : a ∈ rows) (hk : key a = k) :
    (updateKey key k f rows).countP p + (if p a then 1 else 0) =
      rows.countP p + if p (f a) then 1 else 0 := by
  induction rows with
  | nil => cases ha
  | cons first rest ih =>
    obtain ⟨hfirst, hrest⟩ := List.nodup_cons.mp hnodup
    rw [updateKey, List.map_cons, ← updateKey, List.countP_cons, List.countP_cons]
    rcases List.mem_cons.mp ha with rfl | ha
    · have hsame : updateKey key k f rest = rest := by
        rw [updateKey, List.map_congr_left (g := id), List.map_id]
        intro row hrow
        exact if_neg fun h : key row = k =>
          hfirst (hk.trans h.symm ▸ List.mem_map_of_mem hrow)
      rw [if_pos hk, hsame]
      omega
    · have hne : key first ≠ k := fun h => hfirst (h.trans hk.symm ▸ List.mem_map_of_mem ha)
      have := ih hrest ha
      rw [if_neg hne]
      omega

theorem countP_key (hnodup : (rows.map key).Nodup) (ha : a ∈ rows) :
    rows.countP (fun row => key row = key a ∧ p row = true) = if p a then 1 else 0 := by
  induction rows with
  | nil => cases ha
  | cons first rest ih =>
    obtain ⟨hfirst, hrest⟩ := List.nodup_cons.mp hnodup
    rw [List.countP_cons]
    rcases List.mem_cons.mp ha with rfl | ha
    · have hnone : rest.countP (fun row => key row = key a ∧ p row = true) = 0 := by
        refine List.countP_eq_zero.mpr fun row hrow h => hfirst ?_
        exact (of_decide_eq_true h).1 ▸ List.mem_map_of_mem hrow
      rw [hnone]
      by_cases hp : p a = true <;> simp [hp]
    · have hne : key first ≠ key a := fun h => hfirst (h ▸ List.mem_map_of_mem ha)
      have hother : ¬ decide (key first = key a ∧ p first = true) = true :=
        fun h => hne (of_decide_eq_true h).1
      rw [ih hrest ha, if_neg hother, Nat.add_zero]

theorem countP_updateKey_lt (hf : ∀ row, p (f row) = true → p row = true) (ha : a ∈ rows)
    (hk : key a = k) (hbefore : p a = true) (hafter : p (f a) = false) :
    (updateKey key k f rows).countP p < rows.countP p := by
  induction rows with
  | nil => cases ha
  | cons first rest ih =>
    have hrest : (updateKey key k f rest).countP p ≤ rest.countP p := countP_updateKey_le hf
    rw [updateKey, List.map_cons, ← updateKey, List.countP_cons, List.countP_cons]
    rcases List.mem_cons.mp ha with rfl | ha
    · rw [if_pos hk, if_pos hbefore, if_neg (by rw [hafter]; exact Bool.false_ne_true)]
      omega
    · have hlt := ih ha
      have hfirst : (if p (if key first = k then f first else first) = true then 1 else 0) ≤
          if p first = true then 1 else 0 := by
        by_cases hkey : key first = k
        · rw [if_pos hkey]
          split
          next h => exact Nat.le_of_eq (if_pos (hf first h)).symm
          next => exact Nat.zero_le _
        · exact Nat.le_of_eq (by rw [if_neg hkey])
      omega

end Count

end Update

section Exclusive

variable {key} {R : Row → Row → Prop} {rows : List Row}

theorem exclusive_nil : Exclusive key R [] := by
  intro a ha
  cases ha

theorem exclusive_concat (hsymm : ∀ a b, R a b → R b a) {row : Row} :
    Exclusive key R (rows ++ [row]) ↔
      Exclusive key R rows ∧ ∀ other ∈ rows, key other ≠ key row → R row other := by
  constructor
  · intro h
    refine ⟨fun a ha b hb hne => ?_, fun other hother hne => ?_⟩
    · exact h a (List.mem_append_left _ ha) b (List.mem_append_left _ hb) hne
    · exact h row (List.mem_append_right _ (List.mem_singleton_self row)) other
        (List.mem_append_left _ hother) hne.symm
  · rintro ⟨hrows, hrow⟩ a ha b hb hne
    rw [List.mem_append, List.mem_singleton] at ha hb
    rcases ha with ha | rfl
    · rcases hb with hb | rfl
      · exact hrows a ha b hb hne
      · exact hsymm _ _ (hrow a ha hne)
    · rcases hb with hb | rfl
      · exact hrow b hb hne.symm
      · exact absurd rfl hne

theorem exclusive_updateKey [DecidableEq Key] {k : Key} {f : Row → Row}
    (hsymm : ∀ a b, R a b → R b a) (hf : ∀ row, key (f row) = key row)
    (h : Exclusive key R rows) :
    Exclusive key R (updateKey key k f rows) ↔
      ∀ row ∈ rows, key row = k → ∀ other ∈ rows, key other ≠ k → R (f row) other := by
  constructor
  · intro hupdated row hrow hk other hother hne
    refine hupdated (f row) (mem_updateKey.mpr (.inl ⟨row, hrow, hk, rfl⟩)) other
      (mem_updateKey.mpr (.inr ⟨hother, hne⟩)) ?_
    rw [hf, hk]
    exact hne.symm
  · intro hnew a ha b hb hne
    rcases mem_updateKey.mp ha with ⟨row, hrow, hk, rfl⟩ | ⟨ha, hka⟩
    · rcases mem_updateKey.mp hb with ⟨other, hother, hk', rfl⟩ | ⟨hb, hkb⟩
      · rw [hf, hf, hk, hk'] at hne
        exact absurd rfl hne
      · exact hnew row hrow hk b hb hkb
    · rcases mem_updateKey.mp hb with ⟨other, hother, hk', rfl⟩ | ⟨hb, hkb⟩
      · exact hsymm _ _ (hnew other hother hk' a ha hka)
      · exact h a ha b hb hne

end Exclusive

end KeyedRows
