import Mathlib.Data.List.Basic
import Mathlib.Data.Prod.Lex

/-!
# Stable sorting and the last value that is set

A list is sorted by a key, elements with the same key stay in the order that they had, and of the
elements that set a value the last one counts.

* `filter_mergeSort`: among elements that compare as equal a stable sort changes nothing.
* `Sorted.eq_of_filter_eq`: two sorted lists that agree on every key are the same.
* `Sorted.lastSet_eq`: the value that counts is one from the highest key at which a value is set.
-/

namespace StableSort

variable {α β κ : Type*} [LinearOrder κ] {key : α → κ} {f : α → Option β} {l l' : List α} {a : α}

/-! ## Sorting -/

/-- No key is lower than the one before it. -/
def Sorted (key : α → κ) (l : List α) : Prop := l.Pairwise fun a b => key a ≤ key b

theorem sorted_mergeSort (key : α → κ) (l : List α) :
    Sorted key (l.mergeSort fun a b => key a ≤ key b) := by
  have hsorted : (l.mergeSort fun a b => key a ≤ key b).Pairwise
      fun a b => decide (key a ≤ key b) = true :=
    List.pairwise_mergeSort (by simpa using fun a b c => le_trans)
      (by simpa using fun a b => le_total (key a) (key b)) l
  simpa [Sorted] using hsorted

theorem filter_mergeSort {le : α → α → Bool} (htrans : ∀ a b c, le a b → le b c → le a c)
    (htotal : ∀ a b, le a b || le b a) {p : α → Bool} (hp : ∀ a b, p a → p b → le a b)
    (l : List α) : (l.mergeSort le).filter p = l.filter p := by
  have hpairwise : (l.filter p).Pairwise fun a b => le a b :=
    List.pairwise_of_forall_mem_list fun a ha b hb =>
      hp a b (List.of_mem_filter ha) (List.of_mem_filter hb)
  have hsublist : (l.filter p).Sublist (l.mergeSort le) :=
    List.sublist_mergeSort htrans htotal hpairwise List.filter_sublist
  have hfiltered := hsublist.filter p
  rw [List.filter_filter, funext fun a => Bool.and_self (p a)] at hfiltered
  exact (hfiltered.eq_of_length ((List.mergeSort_perm l le).filter p).length_eq.symm).symm

theorem filter_key_mergeSort (l : List α) (k : κ) :
    (l.mergeSort fun a b => key a ≤ key b).filter (key · = k) = l.filter (key · = k) := by
  apply filter_mergeSort
  · simpa using fun a b c => le_trans
  · simpa using fun a b => le_total (key a) (key b)
  · intro a b ha hb
    have hka : key a = k := of_decide_eq_true ha
    have hkb : key b = k := of_decide_eq_true hb
    exact decide_eq_true (hka.trans hkb.symm).le

theorem Sorted.split (h : Sorted key l) (k : κ) :
    l = l.filter (key · < k) ++ l.filter (key · = k) ++ l.filter (k < key ·) := by
  induction l with
  | nil => rfl
  | cons a l ih =>
    obtain ⟨hle, hsorted⟩ := List.pairwise_cons.mp h
    have hnone : ∀ p : α → Bool, (∀ b ∈ l, p b = false) → l.filter p = [] := fun p hp =>
      List.filter_eq_nil_iff.mpr fun b hb => by simp [hp b hb]
    rcases lt_trichotomy (key a) k with hlt | heq | hgt
    · rw [List.filter_cons_of_pos (by simpa using hlt),
        List.filter_cons_of_neg (by simpa using hlt.ne),
        List.filter_cons_of_neg (by simpa using hlt.le)]
      exact congrArg (a :: ·) (ih hsorted)
    · have hlow := hnone (key · < k) fun b hb => by simpa using heq ▸ hle b hb
      have hrest := ih hsorted
      rw [hlow, List.nil_append] at hrest
      rw [List.filter_cons_of_neg (by simpa using heq.ge), hlow,
        List.filter_cons_of_pos (by simpa using heq),
        List.filter_cons_of_neg (by simpa using heq.le)]
      exact congrArg (a :: ·) hrest
    · have hlow := hnone (key · < k) fun b hb => by simpa using hgt.le.trans (hle b hb)
      have hsame := hnone (key · = k) fun b hb => by simpa using (hgt.trans_le (hle b hb)).ne'
      have hrest := ih hsorted
      rw [hlow, hsame, List.nil_append, List.nil_append] at hrest
      rw [List.filter_cons_of_neg (by simpa using hgt.le), hlow,
        List.filter_cons_of_neg (by simpa using hgt.ne'), hsame,
        List.filter_cons_of_pos (by simpa using hgt)]
      exact congrArg (a :: ·) hrest

theorem Sorted.eq_of_filter_eq (h : Sorted key l) (h' : Sorted key l')
    (hfilter : ∀ k, l.filter (key · = k) = l'.filter (key · = k)) : l = l' := by
  have hmem : ∀ a, a ∈ l ↔ a ∈ l' := fun a => by
    have hkey := hfilter (key a)
    constructor
    · intro ha
      exact (List.mem_filter.mp (hkey ▸ List.mem_filter.mpr ⟨ha, by simp⟩)).1
    · intro ha
      exact (List.mem_filter.mp (hkey ▸ List.mem_filter.mpr ⟨ha, by simp⟩)).1
  induction l generalizing l' with
  | nil =>
    cases l' with
    | nil => rfl
    | cons b l' => exact absurd ((hmem b).mpr List.mem_cons_self) List.not_mem_nil
  | cons a l ih =>
    cases l' with
    | nil => exact absurd ((hmem a).mp List.mem_cons_self) List.not_mem_nil
    | cons b l' =>
      obtain ⟨hle, hsorted⟩ := List.pairwise_cons.mp h
      obtain ⟨hle', hsorted'⟩ := List.pairwise_cons.mp h'
      -- both heads have the lowest key, so they head the same part
      have hkeys : key a = key b := by
        apply le_antisymm
        · rcases List.mem_cons.mp ((hmem b).mpr List.mem_cons_self) with rfl | hb
          · exact le_refl _
          · exact hle b hb
        · rcases List.mem_cons.mp ((hmem a).mp List.mem_cons_self) with rfl | ha
          · exact le_refl _
          · exact hle' a ha
      have hheads := hfilter (key a)
      rw [List.filter_cons_of_pos (by simp), List.filter_cons_of_pos (by simp [hkeys])] at hheads
      obtain ⟨rfl, -⟩ := List.cons.inj hheads
      have htail : ∀ k, l.filter (key · = k) = l'.filter (key · = k) := by
        intro k
        have hk := hfilter k
        by_cases hak : key a = k
        · rw [List.filter_cons_of_pos (by simpa using hak),
            List.filter_cons_of_pos (by simpa using hak)] at hk
          exact (List.cons.inj hk).2
        · rwa [List.filter_cons_of_neg (by simpa using hak),
            List.filter_cons_of_neg (by simpa using hak)] at hk
      have htailmem : ∀ c, c ∈ l ↔ c ∈ l' := fun c => by
        have hc := htail (key c)
        constructor
        · intro hcl
          exact (List.mem_filter.mp (hc ▸ List.mem_filter.mpr ⟨hcl, by simp⟩)).1
        · intro hcl
          exact (List.mem_filter.mp (hc ▸ List.mem_filter.mpr ⟨hcl, by simp⟩)).1
      rw [ih hsorted hsorted' htail htailmem]

theorem exists_perm_concat (h : a ∈ l) : ∃ rest, l.Perm (rest ++ [a]) := by
  obtain ⟨before, after, rfl⟩ := List.append_of_mem h
  refine ⟨before ++ after, ?_⟩
  have hmoved : (a :: after).Perm (after ++ [a]) := (List.perm_append_singleton a after).symm
  rw [List.append_assoc]
  exact hmoved.append_left before

theorem exists_perm_concat_concat {b : α} (h : l.Perm (l' ++ [a])) (hb : b ∈ l) (hne : b ≠ a) :
    ∃ rest, l.Perm (rest ++ [b] ++ [a]) := by
  have hmem : b ∈ l' := by
    rcases List.mem_append.mp (h.mem_iff.mp hb) with hl' | hlast
    · exact hl'
    · exact absurd (List.mem_singleton.mp hlast) hne
  obtain ⟨rest, hrest⟩ := exists_perm_concat hmem
  exact ⟨rest, h.trans (hrest.append_right [a])⟩

/-! ## The last value -/

/-- The value of the last element that sets one. -/
def lastSet (f : α → Option β) (l : List α) : Option β := (l.filterMap f).getLast?

/-- An element that sets a value, and none with a higher key does. -/
structure Decides (key : α → κ) (f : α → Option β) (l : List α) (a : α) : Prop where
  mem : a ∈ l
  isSome : (f a).isSome
  highest : ∀ b ∈ l, (f b).isSome → key b ≤ key a

theorem Decides.of_mem_iff (h : Decides key f l a) (hmem : ∀ b, b ∈ l ↔ b ∈ l') :
    Decides key f l' a :=
  ⟨(hmem a).mp h.mem, h.isSome, fun b hb => h.highest b ((hmem b).mpr hb)⟩

theorem Sorted.decides {before after : List α} (h : Sorted key (before ++ a :: after))
    (ha : (f a).isSome) (hafter : ∀ b ∈ after, f b = none) :
    Decides key f (before ++ a :: after) a := by
  refine ⟨by simp, ha, fun b hb hsome => ?_⟩
  rcases List.mem_append.mp hb with hbefore | hrest
  · exact (List.pairwise_append.mp h).2.2 b hbefore a List.mem_cons_self
  · rcases List.mem_cons.mp hrest with rfl | hlater
    · exact le_refl _
    · rw [hafter b hlater] at hsome
      cases hsome

theorem lastSet_append : lastSet f (l ++ l') = (lastSet f l').or (lastSet f l) := by
  rw [lastSet, List.filterMap_append, List.getLast?_append]
  rfl

@[simp] theorem lastSet_singleton : lastSet f [a] = f a := by
  cases h : f a with
  | none => simp [lastSet, h]
  | some value => simp [lastSet, h]

theorem lastSet_eq_none_iff : lastSet f l = none ↔ ∀ a ∈ l, f a = none := by
  simp [lastSet]

theorem lastSet_concat (h : (f a).isSome) : lastSet f (l ++ [a]) = f a := by
  obtain ⟨value, hvalue⟩ := Option.isSome_iff_exists.mp h
  rw [lastSet_append, lastSet_singleton, hvalue, Option.some_or]

theorem lastSet_append_of_none (h : ∀ b ∈ l', f b = none) :
    lastSet f (l ++ l') = lastSet f l := by
  rw [lastSet_append, lastSet_eq_none_iff.mpr h, Option.none_or]

theorem lastSet_append_of_some (h : ∃ b ∈ l', (f b).isSome) :
    lastSet f (l ++ l') = lastSet f l' := by
  rw [lastSet_append]
  cases hlast : lastSet f l' with
  | none =>
    obtain ⟨b, hb, hsome⟩ := h
    rw [lastSet_eq_none_iff.mp hlast b hb] at hsome
    cases hsome
  | some value => rfl

theorem exists_of_lastSet {value : β} (h : lastSet f l = some value) :
    ∃ before b after, l = before ++ b :: after ∧ f b = some value ∧ ∀ c ∈ after, f c = none := by
  induction l with
  | nil => cases h
  | cons a l ih =>
    cases hl : lastSet f l with
    | none =>
      have hnone := lastSet_eq_none_iff.mp hl
      refine ⟨[], a, l, rfl, ?_, hnone⟩
      have hcons : lastSet f ([a] ++ l) = some value := h
      rwa [lastSet_append_of_none hnone, lastSet_singleton] at hcons
    | some last =>
      have hcons : lastSet f ([a] ++ l) = some value := h
      rw [lastSet_append, hl, Option.some_or] at hcons
      obtain ⟨before, b, after, rfl, hb, hafter⟩ := ih (hl.trans hcons)
      exact ⟨a :: before, b, after, rfl, hb, hafter⟩

theorem Sorted.lastSet_eq (h : Sorted key l) (ha : Decides key f l a) :
    lastSet f l = lastSet f (l.filter (key · = key a)) := by
  have habove : ∀ b ∈ l.filter (key a < key ·), f b = none := by
    intro b hb
    obtain ⟨hmem, hlt⟩ := List.mem_filter.mp hb
    by_contra hsome
    have hle := ha.highest b hmem (Option.isSome_iff_ne_none.mpr hsome)
    exact absurd (of_decide_eq_true hlt) (not_lt.mpr hle)
  have hsplit := congrArg (lastSet f) (h.split (key a))
  rw [lastSet_append_of_none habove, lastSet_append_of_some] at hsplit
  · exact hsplit
  · exact ⟨a, List.mem_filter.mpr ⟨ha.mem, by simp⟩, ha.isSome⟩

theorem foldl_getD (f : α → Option β) (l : List α) (init : β) :
    l.foldl (fun value a => (f a).getD value) init = (lastSet f l).getD init := by
  induction l generalizing init with
  | nil => rfl
  | cons a l ih =>
    have hcons : lastSet f (a :: l) = (lastSet f l).or (f a) := by
      have happend := @lastSet_append α β f [a] l
      rwa [lastSet_singleton] at happend
    rw [List.foldl_cons, ih, hcons]
    cases lastSet f l with
    | none => rfl
    | some value => rfl

end StableSort
