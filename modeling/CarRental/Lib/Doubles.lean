import CarRental.Lib.DecimalText
import CarRental.Lib.Rounding
import Mathlib.Data.Rat.Floor

/-!
# Double arithmetic and its texts

The result of an operation on doubles is the nearest rational of 53 significant bits, halves to the
even one (`double`).  Overflow and the loss of bits near zero are left out.

What can be said of amounts of money needs little of that: `Arithmetic fl` is a rounding with a
relative error below `2 ^ -53` that keeps the integers up to `2 ^ 53`.  Doubles have it, and so has
exact arithmetic.

The text of a number has as few decimals as tell it from its neighbours (`numberText`).  An amount
of two decimals is told by two (`decimalOf_fl`), and by its text (`numberText_fl_inj`).
-/

namespace Doubles

open DecimalText Rounding

/-! ## Rounding -/

/-- The nearest integer, halves to the even one. -/
def roundEven (x : ℚ) : ℤ :=
  let rest := x - ⌊x⌋
  if rest < 1 / 2 then ⌊x⌋
  else if 1 / 2 < rest then ⌊x⌋ + 1
  else if ⌊x⌋ % 2 = 0 then ⌊x⌋
  else ⌊x⌋ + 1

def lastPlace (x : ℚ) : ℚ := 2 ^ (Int.log 2 |x| - 52)

def double (x : ℚ) : ℚ := roundEven (x / lastPlace x) * lastPlace x

theorem roundEven_intCast (n : ℤ) : roundEven n = n := by
  have hrest : ((n : ℚ) - ⌊(n : ℚ)⌋) < 1 / 2 := by
    rw [Int.floor_intCast, sub_self]
    norm_num
  rw [roundEven, if_pos hrest, Int.floor_intCast]

theorem abs_roundEven_sub_le (x : ℚ) : |(roundEven x : ℚ) - x| ≤ 1 / 2 := by
  have hfloor := Int.floor_le x
  have hlt := Int.lt_floor_add_one x
  rw [roundEven, abs_le]
  split
  next h =>
    constructor
    · linarith
    · linarith
  next h =>
    have hhalf := not_lt.mp h
    split
    next h' =>
      push_cast
      constructor
      · linarith
      · linarith
    next h' =>
      have hhalf' := not_lt.mp h'
      split
      · constructor
        · linarith
        · linarith
      · push_cast
        constructor
        · linarith
        · linarith

theorem lastPlace_pos (x : ℚ) : 0 < lastPlace x := zpow_pos (by norm_num) _

theorem lastPlace_le {x : ℚ} (hx : x ≠ 0) : lastPlace x ≤ |x| / 2 ^ 52 := by
  have hlog := Int.zpow_log_le_self (by decide : 1 < 2) (abs_pos.mpr hx)
  have hsplit : lastPlace x = 2 ^ Int.log 2 |x| / 2 ^ 52 := by
    rw [lastPlace, zpow_sub₀ (by norm_num)]
    norm_num
  have hle : (2 : ℚ) ^ Int.log 2 |x| ≤ |x| := by exact_mod_cast hlog
  rw [hsplit]
  exact div_le_div_of_nonneg_right hle (by norm_num)

/-! ## What is needed of an arithmetic -/

/-- The result of an operation is off by at most `2 ^ -53` of it, and exact when it is an integer
that is not too large. -/
structure Arithmetic (fl : ℚ → ℚ) : Prop where
  error : ∀ x, |fl x - x| ≤ |x| / 2 ^ 53
  intCast : ∀ n : ℤ, |n| < 2 ^ 53 → fl n = n

theorem arithmetic_double : Arithmetic double where
  error x := by
    by_cases hx : x = 0
    · subst hx
      simp [double, roundEven]
    · have hpos := lastPlace_pos x
      have hscaled : double x - x =
          (roundEven (x / lastPlace x) - x / lastPlace x) * lastPlace x := by
        rw [double, sub_mul, div_mul_cancel₀ _ hpos.ne']
      calc |double x - x|
          = |(roundEven (x / lastPlace x) : ℚ) - x / lastPlace x| * lastPlace x := by
            rw [hscaled, abs_mul, abs_of_pos hpos]
        _ ≤ 1 / 2 * (|x| / 2 ^ 52) :=
            mul_le_mul (abs_roundEven_sub_le _) (lastPlace_le hx) hpos.le (by norm_num)
        _ = |x| / 2 ^ 53 := by ring
  intCast n hn := by
    by_cases hzero : n = 0
    · subst hzero
      simp [double, roundEven]
    · have habs : (0 : ℚ) < |(n : ℚ)| := abs_pos.mpr (by exact_mod_cast hzero)
      -- the last place of an integer of less than 53 bits is one over a power of two
      have hlog : Int.log 2 |(n : ℚ)| ≤ 52 := by
        by_contra hlarge
        have hpow : (2 : ℚ) ^ (53 : ℤ) ≤ 2 ^ Int.log 2 |(n : ℚ)| :=
          zpow_le_zpow_right₀ (by norm_num) (by omega)
        have hle := Int.zpow_log_le_self (by decide : 1 < 2) habs
        have hlt : |(n : ℚ)| < 2 ^ 53 := by exact_mod_cast hn
        push_cast at hle
        have hcast : (2 : ℚ) ^ (53 : ℤ) = 2 ^ 53 := by norm_num
        linarith
      obtain ⟨k, hk⟩ : ∃ k : ℕ, (52 : ℤ) - Int.log 2 |(n : ℚ)| = k :=
        ⟨(52 - Int.log 2 |(n : ℚ)|).toNat, by omega⟩
      have hplace : lastPlace n = 1 / 2 ^ k := by
        rw [lastPlace, show Int.log 2 |(n : ℚ)| - 52 = -(k : ℤ) by omega, zpow_neg, zpow_natCast,
          one_div]
      have hscaled : (n : ℚ) / lastPlace n = ((n * 2 ^ k : ℤ) : ℚ) := by
        rw [hplace]
        push_cast
        rw [div_div_eq_mul_div, div_one]
      rw [double, hscaled, roundEven_intCast, hplace]
      push_cast
      rw [mul_assoc, mul_one_div_cancel (by positivity), mul_one]

/-! ## Amounts of two decimals -/

section Arithmetic

variable {fl : ℚ → ℚ} {x c : ℚ}

theorem Arithmetic.zero (h : Arithmetic fl) : fl 0 = 0 := by
  have := h.intCast 0 (by decide)
  simpa using this

theorem Arithmetic.toScale_fl (h : Arithmetic fl) (hc : OnGrid 2 c) (hbound : |c| < 10 ^ 9) :
    toScale 2 (fl c) = c := by
  have herror := h.error c
  have hround := abs_toScale_sub_le 2 (fl c)
  apply (onGrid_toScale (fl c)).eq_of_abs_sub_lt hc
  calc |toScale 2 (fl c) - c|
      = |(toScale 2 (fl c) - fl c) + (fl c - c)| := by congr 1; ring
    _ ≤ |toScale 2 (fl c) - fl c| + |fl c - c| := abs_add_le _ _
    _ ≤ 1 / 2 / 10 ^ 2 + |c| / 2 ^ 53 := add_le_add hround herror
    _ < 1 / 2 / 10 ^ 2 + 10 ^ 9 / 2 ^ 53 := by
        have := div_lt_div_of_pos_right hbound (by norm_num : (0 : ℚ) < 2 ^ 53)
        linarith
    _ < 1 / 10 ^ 2 := by norm_num

end Arithmetic

/-! ## Texts -/

section Texts

variable (fl : ℚ → ℚ)

/-- How few decimals tell a number from its neighbours. -/
def places (x : ℚ) : Option ℕ :=
  (List.range 24).find? fun k => fl (toScale k x) = x

/-- The decimal number that a double is converted to. -/
def decimalOf (x : ℚ) : ℚ := (places fl x).elim x fun k => toScale k x

/-- Exponential notation: a digit before the point, and as few behind it as tell the number. -/
def exponentText (x : ℚ) : List Char :=
  let exponent := Int.log 10 |x|
  let digits := ((List.range 17).find? fun k =>
    fl (toScale k (x / 10 ^ exponent) * 10 ^ exponent) = x).getD 17
  let mantissa := toScale digits (x / 10 ^ exponent)
  -- rounding may have reached the next power of ten
  let (mantissa, exponent) :=
    if |mantissa| = 10 then (mantissa / 10, exponent + 1) else (mantissa, exponent)
  decimal (roundAway (mantissa * 10 ^ digits)) digits ++
    'e' :: (if exponent < 0 then '-' else '+') :: exponent.natAbs.repr.toList

/-- `${x}`: decimal notation, unless the number is too small or too large for it. -/
def numberText (x : ℚ) : List Char :=
  if x ≠ 0 ∧ |x| < 1 / 10 ^ 6 ∨ 10 ^ 21 ≤ |x| then exponentText fl x
  else (places fl x).elim (exponentText fl x) fun k => decimal (roundAway (x * 10 ^ k)) k

end Texts

section Reading

variable {fl : ℚ → ℚ} {x c : ℚ}

theorem fl_of_places {k : ℕ} (h : places fl x = some k) : fl (toScale k x) = x :=
  of_decide_eq_true (List.find?_some h :)

theorem Arithmetic.places_fl (h : Arithmetic fl) (hc : OnGrid 2 c) (hbound : |c| < 2 * 10 ^ 8) :
    ∃ k, places fl (fl c) = some k ∧ toScale k (fl c) = c := by
  have hsmall : |c| < 10 ^ 9 := hbound.trans (by norm_num)
  have htwo : fl (toScale 2 (fl c)) = fl c := by rw [h.toScale_fl hc hsmall]
  have hsome : (places fl (fl c)).isSome = true := by
    rw [places, List.find?_isSome]
    exact ⟨2, List.mem_range.mpr (by decide), decide_eq_true htwo⟩
  obtain ⟨k, hk⟩ := Option.isSome_iff_exists.mp hsome
  refine ⟨k, hk, ?_⟩
  have hfl := fl_of_places hk
  -- at most two decimals are needed
  have hle : k ≤ 2 := by
    by_contra hlarge
    have hnone := (List.find?_range_eq_some.mp hk).2.2 2 (by omega)
    simp [htwo] at hnone
  have hgrid : OnGrid 2 (toScale k (fl c)) := (onGrid_toScale (fl c)).mono hle
  have hnear : |toScale k (fl c)| < 10 ^ 9 := by
    have herror := abs_le.mp (h.error c)
    have hround := abs_le.mp (abs_toScale_sub_le k (fl c))
    have hpow : (1 : ℚ) / 2 / 10 ^ k ≤ 1 / 2 :=
      div_le_self (by norm_num) (one_le_pow₀ (by norm_num))
    have hc := abs_lt.mp hbound
    have hpart : |c| / 2 ^ 53 ≤ |c| := div_le_self (abs_nonneg c) (by norm_num)
    rw [abs_lt]
    constructor
    · linarith
    · linarith
  calc toScale k (fl c) = toScale 2 (fl (toScale k (fl c))) := (h.toScale_fl hgrid hnear).symm
    _ = toScale 2 (fl c) := by rw [hfl]
    _ = c := h.toScale_fl hc hsmall

theorem abs_decimalOf_sub_le (x : ℚ) : |decimalOf fl x - x| ≤ 1 / 2 := by
  unfold decimalOf
  cases places fl x with
  | none =>
    show |x - x| ≤ 1 / 2
    rw [sub_self, abs_zero]
    norm_num
  | some k =>
    calc |toScale k x - x| ≤ 1 / 2 / 10 ^ k := abs_toScale_sub_le k x
      _ ≤ 1 / 2 := div_le_self (by norm_num) (one_le_pow₀ (by norm_num))

theorem Arithmetic.decimalOf_fl (h : Arithmetic fl) (hc : OnGrid 2 c) (hbound : |c| < 2 * 10 ^ 8) :
    decimalOf fl (fl c) = c := by
  obtain ⟨k, hk, hscale⟩ := h.places_fl hc hbound
  rw [decimalOf, hk]
  exact hscale

theorem e_mem_exponentText (x : ℚ) : 'e' ∈ exponentText fl x :=
  List.mem_append_right _ List.mem_cons_self

theorem not_e_mem_decimal (n : ℤ) (k : ℕ) : 'e' ∉ decimal n k := by
  intro h
  rcases mem_decimal h with heq | heq | hdigit
  · exact absurd heq (by decide)
  · exact absurd heq (by decide)
  · exact absurd hdigit (by decide)

theorem fl_of_numberText {n : ℤ} {k : ℕ} (h : numberText fl x = decimal n k) :
    x = fl (n / 10 ^ k) := by
  unfold numberText at h
  split at h
  · exact absurd (h ▸ e_mem_exponentText x) (not_e_mem_decimal n k)
  · cases hplaces : places fl x with
    | none =>
      rw [hplaces] at h
      exact absurd (h ▸ e_mem_exponentText x) (not_e_mem_decimal n k)
    | some k' =>
      rw [hplaces] at h
      obtain ⟨hdigits, hk⟩ := decimal_inj h
      rw [← fl_of_places hplaces, toScale, hdigits, hk]

theorem Arithmetic.numberText_fl (h : Arithmetic fl) (hc : OnGrid 2 c) (hbound : |c| < 2 * 10 ^ 8) :
    ∃ n k, numberText fl (fl c) = decimal n k ∧ (n : ℚ) / 10 ^ k = c := by
  obtain ⟨k, hk, hscale⟩ := h.places_fl hc hbound
  refine ⟨roundAway (fl c * 10 ^ k), k, ?_, hscale⟩
  have herror := abs_le.mp (h.error c)
  rw [numberText, if_neg, hk]
  · rfl
  · rintro (⟨hne, hsmall⟩ | hlarge)
    · -- an amount that is not zero is at least 0.01
      have hc' : c ≠ 0 := by
        rintro rfl
        exact hne h.zero
      obtain ⟨m, hm⟩ := hc
      have hunit : 1 / 100 ≤ |c| := by
        have hm0 : m ≠ 0 := by
          rintro rfl
          norm_num at hm
          exact hc' hm
        have hone : (1 : ℚ) ≤ |(m : ℚ)| := by exact_mod_cast Int.one_le_abs hm0
        have habs : |c| * 10 ^ 2 = |(m : ℚ)| := by
          rw [← hm, abs_mul, abs_of_pos (by norm_num : (0 : ℚ) < 10 ^ 2)]
        linarith
      have hnear : |c| - |fl c| ≤ |c| / 2 ^ 53 :=
        (abs_sub_abs_le_abs_sub c (fl c)).trans (abs_sub_comm c (fl c) ▸ h.error c)
      linarith
    · have hnear : |fl c| - |c| ≤ |c| / 2 ^ 53 :=
        (abs_sub_abs_le_abs_sub (fl c) c).trans (h.error c)
      linarith

theorem Arithmetic.numberText_fl_inj (h : Arithmetic fl) (hc : OnGrid 2 c)
    (hbound : |c| < 2 * 10 ^ 8) (htext : numberText fl x = numberText fl (fl c)) : x = fl c := by
  obtain ⟨n, k, hdecimal, hvalue⟩ := h.numberText_fl hc hbound
  rw [fl_of_numberText (htext.trans hdecimal), hvalue]

theorem colon_not_mem_numberText (x : ℚ) : ':' ∉ numberText fl x := by
  have hdecimal : ∀ n k, ':' ∉ decimal n k := by
    intro n k h
    rcases mem_decimal h with heq | heq | hdigit
    · exact absurd heq (by decide)
    · exact absurd heq (by decide)
    · exact absurd hdigit (by decide)
  have hexponent : ':' ∉ exponentText fl x := by
    intro h
    rcases List.mem_append.mp h with hmantissa | hrest
    · exact hdecimal _ _ hmantissa
    · rcases List.mem_cons.mp hrest with he | hrest'
      · exact absurd he (by decide)
      · rcases List.mem_cons.mp hrest' with hsign | hdigits
        · split at hsign <;> exact absurd hsign (by decide)
        · exact absurd (isDigit_of_mem_repr hdigits) (by decide)
  unfold numberText
  split
  · exact hexponent
  · cases places fl x with
    | none => exact hexponent
    | some k => exact hdecimal _ _

end Reading

example : numberText double (double (double (1 / 10) + double (1 / 5))) =
    "0.30000000000000004".toList := by decide +kernel

end Doubles
