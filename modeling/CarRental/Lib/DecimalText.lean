import Mathlib.Data.List.Basic
import Mathlib.Data.List.Induction
import Mathlib.Tactic.Ring

/-!
# Numbers as text

Decimal notation, and what of a number can be read back from it.

* `digitList` writes a number with a fixed width; below the power of ten it can be read back
  (`digitList_inj`).
* `decimal n places` is `n / 10 ^ places` with that many decimals; two such texts are equal only if
  both the digits and the places are (`decimal_inj`).
* A text that is put together with a separator that none of its pieces has can be taken apart
  again, from the left (`split_inj`) and, whatever its head, from the right (`joined_inj`).
-/

namespace DecimalText

/-! ## Separators -/

section Separators

variable {α : Type*} {sep : α} {left left' right right' head head' : List α}
  {pieces pieces' : List (List α)}

theorem split_inj (hleft : sep ∉ left) (hleft' : sep ∉ left')
    (h : left ++ sep :: right = left' ++ sep :: right') : left = left' ∧ right = right' := by
  induction left generalizing left' with
  | nil =>
    cases left' with
    | nil => exact ⟨rfl, List.tail_eq_of_cons_eq h⟩
    | cons first rest => exact absurd (List.head_eq_of_cons_eq h ▸ List.mem_cons_self) hleft'
  | cons first rest ih =>
    cases left' with
    | nil =>
      exact absurd ((List.head_eq_of_cons_eq h).symm ▸ List.mem_cons_self) hleft
    | cons first' rest' =>
      have hfirst : first = first' := List.head_eq_of_cons_eq h
      obtain ⟨hrest, hright⟩ := ih (fun hmem => hleft (List.mem_cons_of_mem _ hmem))
        (fun hmem => hleft' (List.mem_cons_of_mem _ hmem)) (List.tail_eq_of_cons_eq h)
      exact ⟨by rw [hfirst, hrest], hright⟩

theorem split_inj_right (hright : sep ∉ right) (hright' : sep ∉ right')
    (h : left ++ sep :: right = left' ++ sep :: right') : left = left' ∧ right = right' := by
  have hreverse : right.reverse ++ sep :: left.reverse = right'.reverse ++ sep :: left'.reverse := by
    have := congrArg List.reverse h
    simpa using this
  obtain ⟨h₁, h₂⟩ := split_inj (mt List.mem_reverse.mp hright) (mt List.mem_reverse.mp hright')
    hreverse
  exact ⟨List.reverse_injective h₂, List.reverse_injective h₁⟩

/-- The pieces behind the head, each after a separator. -/
def joined (sep : α) (head : List α) (pieces : List (List α)) : List α :=
  pieces.foldl (fun text piece => text ++ sep :: piece) head

theorem joined_inj (hlength : pieces.length = pieces'.length)
    (hpieces : ∀ piece ∈ pieces, sep ∉ piece) (hpieces' : ∀ piece ∈ pieces', sep ∉ piece)
    (h : joined sep head pieces = joined sep head' pieces') : head = head' ∧ pieces = pieces' := by
  induction pieces using List.reverseRecOn generalizing pieces' with
  | nil =>
    have hnil : pieces' = [] := List.length_eq_zero_iff.mp hlength.symm
    subst hnil
    exact ⟨h, rfl⟩
  | append_singleton init last ih =>
    rcases List.eq_nil_or_concat pieces' with rfl | ⟨init', last', rfl⟩
    · simp at hlength
    · rw [joined, joined, List.foldl_append, List.concat_eq_append, List.foldl_append] at h
      rw [List.concat_eq_append] at hlength hpieces' ⊢
      obtain ⟨hinit, hlast⟩ := split_inj_right
        (hpieces last (List.mem_append_right _ List.mem_cons_self))
        (hpieces' last' (List.mem_append_right _ List.mem_cons_self)) h
      obtain ⟨hhead, hrest⟩ := ih (by simpa using hlength)
        (fun piece hmem => hpieces piece (List.mem_append_left _ hmem))
        (fun piece hmem => hpieces' piece (List.mem_append_left _ hmem)) hinit
      exact ⟨hhead, by rw [hrest, hlast]⟩

end Separators

/-! ## Digits -/

theorem digitChar_inj {n m : ℕ} (hn : n < 10) (hm : m < 10) (h : n.digitChar = m.digitChar) :
    n = m := by
  have hcode := congrArg Char.toNat h
  rw [Nat.toNat_digitChar_of_lt_ten hn, Nat.toNat_digitChar_of_lt_ten hm] at hcode
  omega

/-- The last `width` digits of a number. -/
def digitList : ℕ → ℕ → List Char
  | 0, _ => []
  | width + 1, n => digitList width (n / 10) ++ [(n % 10).digitChar]

@[simp] theorem length_digitList (width n : ℕ) : (digitList width n).length = width := by
  induction width generalizing n with
  | zero => rfl
  | succ width ih => rw [digitList, List.length_append, ih, List.length_singleton]

theorem isDigit_of_mem_digitList {width n : ℕ} {c : Char} (h : c ∈ digitList width n) :
    c.isDigit = true := by
  induction width generalizing n with
  | zero => cases h
  | succ width ih =>
    rcases List.mem_append.mp h with hinit | hlast
    · exact ih hinit
    · rw [List.mem_singleton.mp hlast, Nat.isDigit_digitChar]
      exact decide_eq_true (Nat.mod_lt _ (by decide))

theorem digitList_inj {width n m : ℕ} (hn : n < 10 ^ width) (hm : m < 10 ^ width)
    (h : digitList width n = digitList width m) : n = m := by
  induction width generalizing n m with
  | zero =>
    rw [pow_zero] at hn hm
    omega
  | succ width ih =>
    obtain ⟨hinit, hlast⟩ := List.append_inj' h rfl
    rw [pow_succ] at hn hm
    have htens : n / 10 = m / 10 := ih (by omega) (by omega) hinit
    have hones : n % 10 = m % 10 := digitChar_inj (Nat.mod_lt _ (by decide))
      (Nat.mod_lt _ (by decide)) (List.head_eq_of_cons_eq hlast)
    omega

theorem isDigit_of_mem_repr {n : ℕ} {c : Char} (h : c ∈ n.repr.toList) : c.isDigit = true := by
  rw [Nat.toList_repr] at h
  exact Nat.isDigit_of_mem_toDigits (by decide) (by decide) h

theorem repr_inj {n m : ℕ} (h : n.repr.toList = m.repr.toList) : n = m := by
  rw [Nat.toList_repr, Nat.toList_repr] at h
  have hvalue := congrArg (fun digits => Nat.ofDigitChars 10 digits 0) h
  simpa only [Nat.ofDigitChars_toDigits (by decide : 1 < 10) (le_refl 10)] using hvalue

/-! ## Decimal notation -/

/-- The sign and the whole part. -/
def whole (n : ℤ) (places : ℕ) : List Char :=
  (if n < 0 then ['-'] else []) ++ (n.natAbs / 10 ^ places).repr.toList

/-- `n / 10 ^ places` -/
def decimal (n : ℤ) (places : ℕ) : List Char :=
  if places = 0 then whole n places
  else whole n places ++ '.' :: digitList places (n.natAbs % 10 ^ places)

theorem mem_whole {n : ℤ} {places : ℕ} {c : Char} (h : c ∈ whole n places) :
    c = '-' ∨ c.isDigit = true := by
  rcases List.mem_append.mp h with hsign | hdigits
  · split at hsign
    · exact .inl (List.mem_singleton.mp hsign)
    · cases hsign
  · exact .inr (isDigit_of_mem_repr hdigits)

theorem mem_decimal {n : ℤ} {places : ℕ} {c : Char} (h : c ∈ decimal n places) :
    c = '-' ∨ c = '.' ∨ c.isDigit = true := by
  unfold decimal at h
  split at h
  · exact (mem_whole h).imp_right .inr
  · rcases List.mem_append.mp h with hwhole | hrest
    · exact (mem_whole hwhole).imp_right .inr
    · rcases List.mem_cons.mp hrest with hpoint | hdigits
      · exact .inr (.inl hpoint)
      · exact .inr (.inr (isDigit_of_mem_digitList hdigits))

theorem point_not_mem_whole (n : ℤ) (places : ℕ) : '.' ∉ whole n places := by
  intro h
  rcases mem_whole h with hsign | hdigit
  · exact absurd hsign (by decide)
  · exact absurd hdigit (by decide)

theorem whole_inj {n m : ℤ} {places places' : ℕ} (h : whole n places = whole m places') :
    (n < 0 ↔ m < 0) ∧ n.natAbs / 10 ^ places = m.natAbs / 10 ^ places' := by
  have hsign : ∀ {k : ℕ} {rest : List Char}, k.repr.toList ≠ '-' :: rest := by
    intro k rest heq
    have hdigit : '-'.isDigit = true := isDigit_of_mem_repr (heq ▸ List.mem_cons_self)
    exact absurd hdigit (by decide)
  unfold whole at h
  by_cases hn : n < 0
  · by_cases hm : m < 0
    · rw [if_pos hn, if_pos hm] at h
      exact ⟨iff_of_true hn hm, repr_inj (List.tail_eq_of_cons_eq h)⟩
    · rw [if_pos hn, if_neg hm] at h
      exact absurd h.symm hsign
  · by_cases hm : m < 0
    · rw [if_neg hn, if_pos hm] at h
      exact absurd h hsign
    · rw [if_neg hn, if_neg hm] at h
      exact ⟨iff_of_false hn hm, repr_inj h⟩

theorem eq_of_natAbs_eq {n m : ℤ} (hsign : n < 0 ↔ m < 0) (h : n.natAbs = m.natAbs) : n = m := by
  omega

theorem decimal_inj {n m : ℤ} {places places' : ℕ} (h : decimal n places = decimal m places') :
    n = m ∧ places = places' := by
  unfold decimal at h
  by_cases hp : places = 0
  · by_cases hp' : places' = 0
    · rw [if_pos hp, if_pos hp'] at h
      obtain ⟨hsign, habs⟩ := whole_inj h
      rw [hp, hp', pow_zero, Nat.div_one, Nat.div_one] at habs
      exact ⟨eq_of_natAbs_eq hsign habs, hp.trans hp'.symm⟩
    · rw [if_pos hp, if_neg hp'] at h
      exact absurd (h ▸ List.mem_append_right _ List.mem_cons_self) (point_not_mem_whole n places)
  · by_cases hp' : places' = 0
    · rw [if_neg hp, if_pos hp'] at h
      exact absurd (h.symm ▸ List.mem_append_right _ List.mem_cons_self)
        (point_not_mem_whole m places')
    · rw [if_neg hp, if_neg hp'] at h
      obtain ⟨hwhole, hdigits⟩ :=
        split_inj (point_not_mem_whole n places) (point_not_mem_whole m places') h
      have hplaces : places = places' := by
        have hlength := congrArg List.length hdigits
        rwa [length_digitList, length_digitList] at hlength
      subst hplaces
      obtain ⟨hsign, hdiv⟩ := whole_inj hwhole
      have hmod : n.natAbs % 10 ^ places = m.natAbs % 10 ^ places :=
        digitList_inj (Nat.mod_lt _ (Nat.pow_pos (by decide)))
          (Nat.mod_lt _ (Nat.pow_pos (by decide))) hdigits
      have habs : n.natAbs = m.natAbs := by
        rw [← Nat.div_add_mod n.natAbs (10 ^ places), hdiv, hmod, Nat.div_add_mod]
      exact ⟨eq_of_natAbs_eq hsign habs, rfl⟩

end DecimalText
