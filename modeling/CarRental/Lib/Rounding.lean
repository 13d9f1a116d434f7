import Mathlib.Algebra.Order.Round
import Mathlib.Data.Int.Log
import Mathlib.Tactic.Linarith
import Mathlib.Tactic.Positivity
import Mathlib.Tactic.FieldSimp
import Mathlib.Tactic.Ring
import Mathlib.Tactic.NormNum

/-!
# Decimal rounding

Two roundings of a decimal library, over any ordered field with a floor.

* `toScale places` keeps a fixed number of decimals, as a `DECIMAL(p, places)`
  column does, with halves away from zero.
* `toDigits digits` keeps a fixed number of significant digits, as the arithmetic
  of an arbitrary-precision decimal type with a precision does.

A number is `OnGrid places` when it is a whole number of units `10 ^ (-places)`.
On the grid, and below the precision, both roundings are the identity
(`toScale_of_onGrid`, `toDigits_of_onGrid`), so a running sum of grid numbers in
rounded arithmetic is exact (`sumDigits_of_onGrid`).  A number that `HasDigits digits` is what
`toDigits` gives and keeps.  Off the grid it is wrong by
at most half a last digit per addition (`abs_sumDigits_sub_le`).
-/

set_option linter.unusedSectionVars false

namespace Rounding

variable {K : Type*} [Field K] [LinearOrder K] [IsStrictOrderedRing K] [FloorRing K]

/-- The nearest integer, halves away from zero. -/
def roundAway (x : K) : ℤ :=
  if 0 ≤ x then round x else -round (-x)

def toScale (places : ℕ) (x : K) : K :=
  roundAway (x * 10 ^ places) / 10 ^ places

def toDigits (digits : ℕ) (x : K) : K :=
  let unit : K := 10 ^ (Int.log 10 |x| + 1 - digits)
  roundAway (x / unit) * unit

/-- `x` is a whole number of units of the last of `places` decimals. -/
def OnGrid (places : ℕ) (x : K) : Prop :=
  ∃ n : ℤ, x * 10 ^ places = n

/-- A running sum in which every addition is rounded to `digits` digits. -/
def sumDigits (digits : ℕ) (start : K) (xs : List K) : K :=
  xs.foldl (fun total x => toDigits digits (total + x)) start

/-! ## Rounding to an integer -/

@[simp] theorem roundAway_intCast (n : ℤ) : roundAway (n : K) = n := by
  unfold roundAway
  split
  · exact round_intCast n
  · rw [← Int.cast_neg, round_intCast, neg_neg]

theorem roundAway_of_nonneg {x : K} (hx : 0 ≤ x) : roundAway x = round x := if_pos hx

theorem roundAway_neg (x : K) : roundAway (-x) = -roundAway x := by
  unfold roundAway
  rcases lt_trichotomy x 0 with hx | rfl | hx
  · rw [if_pos (by linarith), if_neg (by linarith), neg_neg]
  · simp
  · rw [if_neg (by linarith), if_pos hx.le, neg_neg]

theorem abs_roundAway_sub_le (x : K) : |(roundAway x : K) - x| ≤ 1 / 2 := by
  unfold roundAway
  split
  · rw [abs_sub_comm]
    exact abs_sub_round x
  · have h := abs_sub_round (-x)
    rw [Int.cast_neg]
    calc |-(round (-x) : K) - x| = |-x - (round (-x) : K)| := by congr 1; ring
      _ ≤ 1 / 2 := h

theorem roundAway_add_intCast {x : K} {n : ℤ} (hx : 0 ≤ x) (hn : 0 ≤ x + n) :
    roundAway (x + n) = roundAway x + n := by
  rw [roundAway_of_nonneg hx, roundAway_of_nonneg hn, round_add_intCast]

theorem round_mono {x y : K} (h : x ≤ y) : round x ≤ round y := by
  rw [round_eq, round_eq]
  exact Int.floor_mono (by linarith)

theorem roundAway_nonneg {x : K} (hx : 0 ≤ x) : 0 ≤ roundAway x := by
  rw [roundAway_of_nonneg hx]
  simpa using round_mono hx

theorem roundAway_nonpos {x : K} (hx : x ≤ 0) : roundAway x ≤ 0 := by
  have h : 0 ≤ roundAway (-x) := roundAway_nonneg (by linarith)
  rw [roundAway_neg] at h
  omega

theorem roundAway_mono {x y : K} (h : x ≤ y) : roundAway x ≤ roundAway y := by
  rcases le_total 0 x with hx | hx
  · rw [roundAway_of_nonneg hx, roundAway_of_nonneg (hx.trans h)]
    exact round_mono h
  · rcases le_total 0 y with hy | hy
    · exact (roundAway_nonpos hx).trans (roundAway_nonneg hy)
    · have hneg : round (-y) ≤ round (-x) := round_mono (by linarith)
      rw [← neg_neg x, ← neg_neg y, roundAway_neg, roundAway_neg (-y),
        roundAway_of_nonneg (x := -x) (by linarith), roundAway_of_nonneg (x := -y) (by linarith)]
      omega

/-! ## Two parts of a whole number -/

theorem le_round_iff {x : K} {n : ℤ} : n ≤ round x ↔ (n : K) - 1 / 2 ≤ x := by
  rw [round_eq, Int.le_floor]
  exact sub_le_iff_le_add.symm

theorem round_lt_iff {x : K} {n : ℤ} : round x < n ↔ x < (n : K) - 1 / 2 := by
  rw [← not_le, le_round_iff, not_le]

theorem le_roundAway_iff_of_pos {x : K} {n : ℤ} (hn : 0 < n) :
    n ≤ roundAway x ↔ (n : K) - 1 / 2 ≤ x := by
  have hone : (1 : K) ≤ n := by exact_mod_cast hn
  rcases le_or_gt 0 x with hx | hx
  · rw [roundAway_of_nonneg hx, le_round_iff]
  · have hnonpos := roundAway_nonpos hx.le
    constructor
    · intro h
      omega
    · intro h
      linarith

theorem roundAway_nonneg_iff {x : K} : 0 ≤ roundAway x ↔ -(1 / 2) < x := by
  have hpos := le_roundAway_iff_of_pos (x := -x) (n := 1) one_pos
  rw [roundAway_neg, Int.cast_one] at hpos
  constructor
  · intro h
    by_contra hle
    have hone := hpos.mpr (by linarith)
    omega
  · intro h
    by_contra hlt
    have hone := hpos.mp (by omega)
    linarith

theorem round_eq_of_le_of_lt {x : K} {n : ℤ} (hle : n - 1 / 2 ≤ x) (hlt : x < n + 1 / 2) :
    round x = n := by
  rw [round_eq, Int.floor_eq_iff]
  constructor <;> linarith

theorem roundAway_sub_add_roundAway {n : ℤ} {x r : K} (hx : 0 ≤ x) (hxn : x ≤ n)
    (hle : ∀ k : ℤ, x ≤ k / 2 → r ≤ k / 2) (hge : ∀ k : ℤ, (k : K) / 2 ≤ x → (k : K) / 2 ≤ r) :
    roundAway ((n : K) - x) + roundAway r =
      n + if Int.fract r = 1 / 2 ∧ x ≤ r then 1 else 0 := by
  have hr : 0 ≤ r := by simpa using hge 0 (by simpa using hx)
  rw [roundAway_of_nonneg (sub_nonneg.mpr hxn), roundAway_of_nonneg hr]
  set m := ⌊x⌋ with hm
  have hmx : (m : K) ≤ x := Int.floor_le x
  have hxm : x < m + 1 := Int.lt_floor_add_one x
  -- the halves, counted from the floor
  have hbelow : ∀ k : ℤ, x ≤ m + k / 2 → r ≤ m + k / 2 := by
    intro k hk
    have hcast : ((2 * m + k : ℤ) : K) / 2 = m + k / 2 := by push_cast; ring
    rw [← hcast] at hk ⊢
    exact hle _ hk
  have habove : ∀ k : ℤ, (m : K) + k / 2 ≤ x → (m : K) + k / 2 ≤ r := by
    intro k hk
    have hcast : ((2 * m + k : ℤ) : K) / 2 = m + k / 2 := by push_cast; ring
    rw [← hcast] at hk ⊢
    exact hge _ hk
  have hmr : (m : K) ≤ r := by simpa using habove 0 (by simpa using hmx)
  have hrm : r ≤ m + 1 := by simpa using hbelow 2 (by simpa using hxm.le)
  rcases le_or_gt x (m + 1 / 2) with hlow | hhigh
  · -- the first part is rounded up to `n - m`, the second one down unless it is a half
    have hr' : r ≤ m + 1 / 2 := by simpa using hbelow 1 (by simpa using hlow)
    have hfirst : round ((n : K) - x) = n - m :=
      round_eq_of_le_of_lt (by push_cast; linarith) (by push_cast; linarith)
    have hfract : Int.fract r = r - m := by
      rw [Int.fract, Int.floor_eq_iff.mpr ⟨hmr, by linarith⟩]
    rw [hfirst, hfract]
    rcases hr'.eq_or_lt with heq | hlt
    · rw [if_pos ⟨by rw [heq]; ring, heq ▸ hlow⟩,
        round_eq_of_le_of_lt (n := m + 1) (by push_cast; linarith) (by push_cast; linarith)]
      ring
    · rw [if_neg fun h => hlt.ne (by linarith [h.1]),
        round_eq_of_le_of_lt (n := m) (by linarith) hlt]
      ring
  · have hr' : m + 1 / 2 ≤ r := by simpa using habove 1 (by simpa using hhigh.le)
    have hfirst : round ((n : K) - x) = n - m - 1 :=
      round_eq_of_le_of_lt (by push_cast; linarith) (by push_cast; linarith)
    have hsecond : round r = m + 1 :=
      round_eq_of_le_of_lt (by push_cast; linarith) (by push_cast; linarith)
    have hfract : ¬ (Int.fract r = 1 / 2 ∧ x ≤ r) := by
      rintro ⟨hhalf, hxr⟩
      rcases hrm.eq_or_lt with heq | hlt
      · have hcast : ((m : K) + 1) = ((m + 1 : ℤ) : K) := by push_cast; ring
        rw [heq, hcast, Int.fract_intCast] at hhalf
        norm_num at hhalf
      · rw [Int.fract, Int.floor_eq_iff.mpr ⟨hmr, hlt⟩] at hhalf
        linarith
    rw [hfirst, hsecond, if_neg hfract]
    ring

/-! ## The grid -/

section Grid

variable {places digits : ℕ} {x y : K}

theorem onGrid_div (n : ℤ) : OnGrid places ((n : K) / 10 ^ places) :=
  ⟨n, by field_simp⟩

theorem onGrid_zero : OnGrid places (0 : K) := ⟨0, by simp⟩

theorem OnGrid.add (hx : OnGrid places x) (hy : OnGrid places y) : OnGrid places (x + y) := by
  obtain ⟨n, hn⟩ := hx
  obtain ⟨m, hm⟩ := hy
  exact ⟨n + m, by rw [add_mul, hn, hm, Int.cast_add]⟩

theorem OnGrid.neg (hx : OnGrid places x) : OnGrid places (-x) := by
  obtain ⟨n, hn⟩ := hx
  exact ⟨-n, by rw [neg_mul, hn, Int.cast_neg]⟩

theorem OnGrid.sub (hx : OnGrid places x) (hy : OnGrid places y) : OnGrid places (x - y) := by
  rw [sub_eq_add_neg]
  exact hx.add hy.neg

theorem OnGrid.mul {places' : ℕ} (hx : OnGrid places x) (hy : OnGrid places' y) :
    OnGrid (places + places') (x * y) := by
  obtain ⟨n, hn⟩ := hx
  obtain ⟨m, hm⟩ := hy
  refine ⟨n * m, ?_⟩
  rw [pow_add, Int.cast_mul, ← hn, ← hm]
  ring

theorem OnGrid.mono {places' : ℕ} (h : places ≤ places') (hx : OnGrid places x) :
    OnGrid places' x := by
  obtain ⟨n, hn⟩ := hx
  obtain ⟨k, rfl⟩ := Nat.exists_eq_add_of_le h
  refine ⟨n * 10 ^ k, ?_⟩
  rw [pow_add, ← mul_assoc, hn]
  push_cast
  rfl

theorem OnGrid.min (hx : OnGrid places x) (hy : OnGrid places y) : OnGrid places (min x y) := by
  rcases min_choice x y with h | h
  · rwa [h]
  · rwa [h]

theorem OnGrid.sum {xs : List K} (h : ∀ x ∈ xs, OnGrid places x) : OnGrid places xs.sum := by
  induction xs with
  | nil => simpa using onGrid_zero
  | cons x rest ih =>
    rw [List.sum_cons]
    exact (h x (List.mem_cons_self ..)).add (ih fun y hy => h y (List.mem_cons_of_mem _ hy))

theorem onGrid_toScale (x : K) : OnGrid places (toScale places x) := onGrid_div _

theorem OnGrid.eq_of_abs_sub_lt (hx : OnGrid places x) (hy : OnGrid places y)
    (h : |x - y| < 1 / 10 ^ places) : x = y := by
  obtain ⟨n, hn⟩ := hx.sub hy
  have hpos : (0 : K) < 10 ^ places := by positivity
  have hlt : |(n : K)| < 1 := by
    rw [← hn, abs_mul, abs_of_pos hpos]
    exact (lt_div_iff₀ hpos).mp h
  have hzero : n = 0 := by
    rw [← Int.cast_abs] at hlt
    have : |n| < 1 := by exact_mod_cast hlt
    exact Int.abs_lt_one_iff.mp this
  rw [hzero, Int.cast_zero] at hn
  exact sub_eq_zero.mp ((mul_eq_zero.mp hn).resolve_right hpos.ne')

/-! ## Fixed decimals -/

theorem toScale_of_onGrid (h : OnGrid places x) : toScale places x = x := by
  obtain ⟨n, hn⟩ := h
  rw [toScale, hn, roundAway_intCast, ← hn]
  field_simp

theorem abs_toScale_sub_le (places : ℕ) (x : K) : |toScale places x - x| ≤ 1 / 2 / 10 ^ places := by
  have hpos : (0 : K) < 10 ^ places := by positivity
  have hsplit : toScale places x - x =
      ((roundAway (x * 10 ^ places) : K) - x * 10 ^ places) / 10 ^ places := by
    rw [toScale]
    field_simp
  rw [hsplit, abs_div, abs_of_pos hpos]
  gcongr
  exact abs_roundAway_sub_le _

/-! ## Significant digits -/

@[simp] theorem toDigits_zero : toDigits digits (0 : K) = 0 := by
  simp [toDigits, roundAway]

theorem exists_eq_units (hy : OnGrid places y) (hx : x ≠ 0)
    (hlt : |x| * 10 ^ places < 10 ^ digits) :
    ∃ n : ℤ, y / 10 ^ (Int.log 10 |x| + 1 - digits) = n := by
  obtain ⟨n, hn⟩ := hy
  have hpos : 0 < |x| := abs_pos.mpr hx
  have hten : (10 : K) ≠ 0 := by norm_num
  set e : ℤ := Int.log 10 |x| + 1 - digits with he
  have hlog : (10 : K) ^ (Int.log 10 |x| + places) < 10 ^ (digits : ℤ) := by
    calc (10 : K) ^ (Int.log 10 |x| + places)
        = 10 ^ Int.log 10 |x| * 10 ^ places := by
          rw [zpow_add₀ hten, zpow_natCast]
      _ ≤ |x| * 10 ^ places := by
          gcongr
          exact_mod_cast Int.zpow_log_le_self (by norm_num : 1 < 10) hpos
      _ < 10 ^ digits := hlt
      _ = 10 ^ (digits : ℤ) := (zpow_natCast _ _).symm
  have hexp : 0 ≤ -(places : ℤ) - e := by
    have := (zpow_lt_zpow_iff_right₀ (by norm_num : (1 : K) < 10)).mp hlog
    omega
  obtain ⟨k, hk⟩ := Int.eq_ofNat_of_zero_le hexp
  have hunit : (10 : K) ^ e ≠ 0 := zpow_ne_zero _ hten
  have hsplit : (10 : K) ^ places * 10 ^ e * 10 ^ k = 1 := by
    rw [← zpow_natCast, ← zpow_natCast (10 : K) k, ← zpow_add₀ hten, ← zpow_add₀ hten, ← hk]
    simp
  refine ⟨n * 10 ^ k, ?_⟩
  rw [Int.cast_mul, ← hn, div_eq_iff hunit]
  push_cast
  calc y = y * (10 ^ places * 10 ^ e * 10 ^ k) := by rw [hsplit, mul_one]
    _ = y * 10 ^ places * 10 ^ k * 10 ^ e := by ring

theorem toDigits_of_onGrid (h : OnGrid places x) (hlt : |x| * 10 ^ places < 10 ^ digits) :
    toDigits digits x = x := by
  rcases eq_or_ne x 0 with rfl | hx
  · exact toDigits_zero
  obtain ⟨n, hn⟩ := exists_eq_units h hx hlt
  have hunit : (10 : K) ^ (Int.log 10 |x| + 1 - digits) ≠ 0 := zpow_ne_zero _ (by norm_num)
  show (roundAway (x / 10 ^ (Int.log 10 |x| + 1 - digits)) : K) * _ = x
  rw [hn, roundAway_intCast, ← hn, div_mul_cancel₀ _ hunit]

theorem toDigits_le_of_onGrid (hy : OnGrid places y) (hlt : |x| * 10 ^ places < 10 ^ digits)
    (h : x ≤ y) : toDigits digits x ≤ y := by
  rcases eq_or_ne x 0 with rfl | hx
  · rwa [toDigits_zero]
  obtain ⟨n, hn⟩ := exists_eq_units hy hx hlt
  have hunit : (0 : K) < 10 ^ (Int.log 10 |x| + 1 - digits) := zpow_pos (by norm_num) _
  have hround : roundAway (x / 10 ^ (Int.log 10 |x| + 1 - digits)) ≤ n := by
    rw [← roundAway_intCast (K := K) n, ← hn]
    exact roundAway_mono (div_le_div_of_nonneg_right h hunit.le)
  calc toDigits digits x ≤ n * 10 ^ (Int.log 10 |x| + 1 - digits) :=
        mul_le_mul_of_nonneg_right (by exact_mod_cast hround) hunit.le
    _ = y := by rw [← hn, div_mul_cancel₀ _ hunit.ne']

theorem le_toDigits_of_onGrid (hy : OnGrid places y) (hlt : |x| * 10 ^ places < 10 ^ digits)
    (h : y ≤ x) : y ≤ toDigits digits x := by
  rcases eq_or_ne x 0 with rfl | hx
  · rwa [toDigits_zero]
  obtain ⟨n, hn⟩ := exists_eq_units hy hx hlt
  have hunit : (0 : K) < 10 ^ (Int.log 10 |x| + 1 - digits) := zpow_pos (by norm_num) _
  have hround : n ≤ roundAway (x / 10 ^ (Int.log 10 |x| + 1 - digits)) := by
    rw [← roundAway_intCast (K := K) n, ← hn]
    exact roundAway_mono (div_le_div_of_nonneg_right h hunit.le)
  calc y = n * 10 ^ (Int.log 10 |x| + 1 - digits) := by rw [← hn, div_mul_cancel₀ _ hunit.ne']
    _ ≤ toDigits digits x := mul_le_mul_of_nonneg_right (by exact_mod_cast hround) hunit.le

theorem abs_toDigits_sub_le (x : K) :
    |toDigits digits x - x| ≤ |x| * (10 ^ (1 - digits : ℤ) / 2) := by
  rcases eq_or_ne x 0 with rfl | hx
  · simp
  have hpos : 0 < |x| := abs_pos.mpr hx
  have hten : (0 : K) < 10 := by norm_num
  set unit : K := 10 ^ (Int.log 10 |x| + 1 - digits) with hunitdef
  have hunit : 0 < unit := zpow_pos hten _
  have hle : unit ≤ |x| * 10 ^ (1 - digits : ℤ) := by
    rw [hunitdef, add_sub_assoc, zpow_add₀ hten.ne']
    refine mul_le_mul_of_nonneg_right ?_ (zpow_pos hten _).le
    exact_mod_cast Int.zpow_log_le_self (by norm_num : 1 < 10) hpos
  have hsplit : toDigits digits x - x = ((roundAway (x / unit) : K) - x / unit) * unit := by
    rw [sub_mul, div_mul_cancel₀ _ hunit.ne']
    rfl
  calc |toDigits digits x - x|
      = |(roundAway (x / unit) : K) - x / unit| * unit := by
        rw [hsplit, abs_mul, abs_of_pos hunit]
    _ ≤ 1 / 2 * unit := mul_le_mul_of_nonneg_right (abs_roundAway_sub_le _) hunit.le
    _ ≤ 1 / 2 * (|x| * 10 ^ (1 - digits : ℤ)) := mul_le_mul_of_nonneg_left hle (by norm_num)
    _ = |x| * (10 ^ (1 - digits : ℤ) / 2) := by ring

theorem abs_toDigits_sub_le_half (hdigits : 1 ≤ digits) (x : K) :
    |toDigits digits x - x| ≤ |x| / 2 := by
  have hunit : (10 : K) ^ (1 - digits : ℤ) ≤ 1 :=
    zpow_le_one_of_nonpos₀ (by norm_num) (by omega)
  calc |toDigits digits x - x| ≤ |x| * (10 ^ (1 - digits : ℤ) / 2) := abs_toDigits_sub_le x
    _ ≤ |x| * (1 / 2) := by gcongr
    _ = |x| / 2 := by ring

theorem abs_le_two_mul_abs_toDigits (hdigits : 1 ≤ digits) (x : K) :
    |x| ≤ 2 * |toDigits digits x| := by
  have herror := abs_toDigits_sub_le_half hdigits x
  have htriangle : |x| - |toDigits digits x| ≤ |toDigits digits x - x| := by
    rw [abs_sub_comm]
    exact abs_sub_abs_le_abs_sub x (toDigits digits x)
  linarith

theorem toDigits_of_onGrid_of_result (hdigits : 1 ≤ digits) (h : OnGrid places x)
    (hlt : 2 * |toDigits digits x| * 10 ^ places < 10 ^ digits) : toDigits digits x = x := by
  refine toDigits_of_onGrid h (lt_of_le_of_lt ?_ hlt)
  gcongr
  exact abs_le_two_mul_abs_toDigits hdigits x

theorem toDigits_nonneg (hx : 0 ≤ x) : 0 ≤ toDigits digits x := by
  have hunit : (0 : K) < 10 ^ (Int.log 10 |x| + 1 - digits) := zpow_pos (by norm_num) _
  have hround : (0 : ℤ) ≤ roundAway (x / 10 ^ (Int.log 10 |x| + 1 - digits)) :=
    roundAway_nonneg (div_nonneg hx hunit.le)
  exact mul_nonneg (by exact_mod_cast hround) hunit.le

theorem toDigits_le_half (hdigits : 1 ≤ digits) (hx : x ≤ 0) : toDigits digits x ≤ x / 2 := by
  have herror := (le_abs_self _).trans (abs_toDigits_sub_le_half hdigits x)
  rw [abs_of_nonpos hx] at herror
  linarith

/-! ### Few digits -/

def HasDigits (digits : ℕ) (x : K) : Prop :=
  ∃ n e : ℤ, x = n * 10 ^ e ∧ |n| < 10 ^ digits

theorem hasDigits_zero : HasDigits digits (0 : K) := ⟨0, 0, by simp, by simp⟩

theorem HasDigits.mono {digits' : ℕ} (hle : digits ≤ digits') (h : HasDigits digits x) :
    HasDigits digits' x := by
  obtain ⟨n, e, hx, hlt⟩ := h
  exact ⟨n, e, hx, hlt.trans_le (pow_le_pow_right₀ (by norm_num) hle)⟩

theorem OnGrid.hasDigits (h : OnGrid places x) (hlt : |x| * 10 ^ places < 10 ^ digits) :
    HasDigits digits x := by
  obtain ⟨n, hn⟩ := h
  have hpos : (0 : K) < 10 ^ places := by positivity
  refine ⟨n, -places, ?_, ?_⟩
  · rw [← hn, zpow_neg, zpow_natCast, mul_inv_cancel_right₀ hpos.ne']
  · rw [← abs_of_pos hpos, ← abs_mul, hn] at hlt
    exact_mod_cast hlt

theorem abs_roundAway_le {z : K} {bound : ℤ} (h : |z| ≤ bound) : |roundAway z| ≤ bound := by
  obtain ⟨hlower, hupper⟩ := abs_le.mp h
  have hlow := roundAway_mono hlower
  have hhigh := roundAway_mono hupper
  rw [roundAway_neg, roundAway_intCast] at hlow
  rw [roundAway_intCast] at hhigh
  exact abs_le.mpr ⟨hlow, hhigh⟩

theorem hasDigits_toDigits (hdigits : 1 ≤ digits) (x : K) :
    HasDigits digits (toDigits digits x) := by
  rcases eq_or_ne x 0 with rfl | hx
  · rw [toDigits_zero]
    exact hasDigits_zero
  have hten : (10 : K) ≠ 0 := by norm_num
  have hpos : 0 < |x| := abs_pos.mpr hx
  set e : ℤ := Int.log 10 |x| + 1 - digits with he
  have hunit : (0 : K) < 10 ^ e := zpow_pos (by norm_num) _
  have hle : |x / 10 ^ e| ≤ ((10 ^ digits : ℤ) : K) := by
    rw [abs_div, abs_of_pos hunit, div_le_iff₀ hunit]
    calc |x| ≤ 10 ^ (Int.log 10 |x| + 1) := by
          exact_mod_cast (Int.lt_zpow_succ_log_self (by norm_num : 1 < 10) |x|).le
      _ = ((10 ^ digits : ℤ) : K) * 10 ^ e := by
          push_cast
          rw [← zpow_natCast, ← zpow_add₀ hten]
          congr 1
          omega
  rcases (abs_roundAway_le hle).lt_or_eq with hlt | heq
  · exact ⟨roundAway (x / 10 ^ e), e, rfl, hlt⟩
  · obtain ⟨d, rfl⟩ := Nat.exists_eq_add_of_le' hdigits
    have hten' : (0 : ℤ) < 10 ^ d := by positivity
    rcases (abs_eq (by positivity)).mp heq with hround | hround
    · refine ⟨10 ^ d, e + 1, ?_, ?_⟩
      · show ((roundAway (x / 10 ^ e) : ℤ) : K) * 10 ^ e = _
        rw [hround, zpow_add_one₀ hten]
        push_cast
        ring
      · rw [abs_of_pos hten']
        exact pow_lt_pow_right₀ (by norm_num) (by omega)
    · refine ⟨-10 ^ d, e + 1, ?_, ?_⟩
      · show ((roundAway (x / 10 ^ e) : ℤ) : K) * 10 ^ e = _
        rw [hround, zpow_add_one₀ hten]
        push_cast
        ring
      · rw [abs_neg, abs_of_pos hten']
        exact pow_lt_pow_right₀ (by norm_num) (by omega)

theorem toDigits_of_hasDigits (h : HasDigits digits x) : toDigits digits x = x := by
  rcases eq_or_ne x 0 with rfl | hx
  · exact toDigits_zero
  obtain ⟨n, e, hn, hlt⟩ := h
  have hten : (10 : K) ≠ 0 := by norm_num
  have hpos : 0 < |x| := abs_pos.mpr hx
  have hbelow : (10 : K) ^ Int.log 10 |x| < 10 ^ (digits + e : ℤ) := by
    calc (10 : K) ^ Int.log 10 |x| ≤ |x| := by
          exact_mod_cast Int.zpow_log_le_self (by norm_num : 1 < 10) hpos
      _ = |(n : K)| * 10 ^ e := by
          rw [hn, abs_mul, abs_of_pos (zpow_pos (by norm_num : (0 : K) < 10) e)]
      _ < 10 ^ digits * 10 ^ e := by
          refine mul_lt_mul_of_pos_right ?_ (zpow_pos (by norm_num) e)
          exact_mod_cast hlt
      _ = 10 ^ (digits + e : ℤ) := by rw [zpow_add₀ hten, zpow_natCast]
  have hlog := (zpow_lt_zpow_iff_right₀ (by norm_num : (1 : K) < 10)).mp hbelow
  set u : ℤ := Int.log 10 |x| + 1 - digits with hu
  have hunit : (10 : K) ^ u ≠ 0 := zpow_ne_zero _ hten
  obtain ⟨k, hk⟩ := Int.eq_ofNat_of_zero_le (show 0 ≤ e - u by omega)
  have hunits : x / 10 ^ u = ((n * 10 ^ k : ℤ) : K) := by
    rw [div_eq_iff hunit, hn]
    push_cast
    rw [mul_assoc, ← zpow_natCast, ← zpow_add₀ hten]
    congr 2
    rw [show ((k : ℕ) : ℤ) = e - u from hk.symm]
    omega
  show (roundAway (x / 10 ^ u) : K) * 10 ^ u = x
  rw [hunits, roundAway_intCast, ← hunits, div_mul_cancel₀ _ hunit]

theorem HasDigits.sub_onGrid (hx : HasDigits digits x) (hy : OnGrid places y) (hnonneg : 0 ≤ y)
    (hle : y ≤ x) (hlt : x * 10 ^ places < 10 ^ digits) : HasDigits digits (x - y) := by
  have hten : (10 : K) ≠ 0 := by norm_num
  have hpart : |x - y| ≤ |x| := by
    rw [abs_of_nonneg (sub_nonneg.mpr hle), abs_of_nonneg (hnonneg.trans hle)]
    linarith
  obtain ⟨n, e, hn, hndigits⟩ := hx
  obtain ⟨m, hm⟩ := hy
  have hunit : (0 : K) < 10 ^ e := zpow_pos (by norm_num) e
  rcases le_or_gt e (-(places : ℤ)) with hfine | hcoarse
  · -- the digits of `x` reach below the grid
    obtain ⟨k, hk⟩ := Int.eq_ofNat_of_zero_le (show 0 ≤ -(places : ℤ) - e by omega)
    have hyunits : y = ((m * 10 ^ k : ℤ) : K) * 10 ^ e := by
      have hsplit : (10 : K) ^ places * 10 ^ e * 10 ^ k = 1 := by
        rw [← zpow_natCast, ← zpow_natCast (10 : K) k, ← zpow_add₀ hten, ← zpow_add₀ hten, ← hk]
        simp
      push_cast
      rw [← hm]
      calc y = y * (10 ^ places * 10 ^ e * 10 ^ k) := by rw [hsplit, mul_one]
        _ = y * 10 ^ places * 10 ^ k * 10 ^ e := by ring
    have hsub : x - y = ((n - m * 10 ^ k : ℤ) : K) * 10 ^ e := by
      rw [hn, hyunits]
      push_cast
      ring
    refine ⟨n - m * 10 ^ k, e, hsub, lt_of_le_of_lt ?_ hndigits⟩
    rw [hsub, hn, abs_mul, abs_mul, abs_of_pos hunit] at hpart
    exact_mod_cast le_of_mul_le_mul_right hpart hunit
  · -- `x` is on the grid
    obtain ⟨k, hk⟩ := Int.eq_ofNat_of_zero_le (show 0 ≤ e + places by omega)
    have hgrid : OnGrid places x := by
      refine ⟨n * 10 ^ k, ?_⟩
      rw [hn, mul_assoc, ← zpow_natCast (10 : K) places, ← zpow_add₀ hten, hk]
      push_cast
      rw [zpow_natCast]
    apply (hgrid.sub ⟨m, hm⟩).hasDigits
    calc |x - y| * 10 ^ places ≤ |x| * 10 ^ places := by gcongr
      _ = x * 10 ^ places := by rw [abs_of_nonneg (hnonneg.trans hle)]
      _ < 10 ^ digits := hlt

end Grid

/-! ## Running sums -/

section Sums

variable {places digits : ℕ}

@[simp] theorem sumDigits_nil (start : K) : sumDigits digits start [] = start := rfl

@[simp] theorem sumDigits_cons (start x : K) (xs : List K) :
    sumDigits digits start (x :: xs) = sumDigits digits (toDigits digits (start + x)) xs := rfl

theorem sumDigits_append (start : K) (xs ys : List K) :
    sumDigits digits start (xs ++ ys) = sumDigits digits (sumDigits digits start xs) ys := by
  simp [sumDigits]

theorem sumDigits_of_onGrid {xs : List K} {start : K} (hstart : OnGrid places start)
    (h : ∀ x ∈ xs, OnGrid places x)
    (hlt : (|start| + (xs.map abs).sum) * 10 ^ places < 10 ^ digits) :
    sumDigits digits start xs = start + xs.sum := by
  induction xs generalizing start with
  | nil => simp
  | cons x rest ih =>
    have hx := h x (List.mem_cons_self ..)
    have hrest : 0 ≤ (rest.map abs).sum :=
      List.sum_nonneg fun y hy => by
        obtain ⟨z, -, rfl⟩ := List.mem_map.mp hy
        exact abs_nonneg z
    rw [List.map_cons, List.sum_cons] at hlt
    have hle : |start + x| + (rest.map abs).sum ≤ |start| + (|x| + (rest.map abs).sum) := by
      linarith [abs_add_le start x]
    have hscaled : (|start + x| + (rest.map abs).sum) * 10 ^ places < 10 ^ digits :=
      lt_of_le_of_lt (mul_le_mul_of_nonneg_right hle (by positivity)) hlt
    have hhead : |start + x| * 10 ^ places < 10 ^ digits :=
      lt_of_le_of_lt (mul_le_mul_of_nonneg_right (by linarith) (by positivity)) hscaled
    rw [sumDigits_cons, toDigits_of_onGrid (hstart.add hx) hhead,
      ih (hstart.add hx) (fun y hy => h y (List.mem_cons_of_mem _ hy)) hscaled,
      List.sum_cons, add_assoc]

theorem abs_sumDigits_sub_le (digits : ℕ) {xs : List K} {start bound : K} (hstart : 0 ≤ start)
    (hxs : ∀ x ∈ xs, 0 ≤ x) (hbound : 0 ≤ bound)
    (hle : start + xs.sum + xs.length * (bound * (10 ^ (1 - digits : ℤ) / 2)) ≤ bound) :
    |sumDigits digits start xs - (start + xs.sum)| ≤
      xs.length * (bound * (10 ^ (1 - digits : ℤ) / 2)) := by
  have hunit : (0 : K) < 10 ^ (1 - digits : ℤ) / 2 := half_pos (zpow_pos (by norm_num) _)
  set unit : K := 10 ^ (1 - digits : ℤ) / 2 with hdef
  have hstep : 0 ≤ bound * unit := mul_nonneg hbound hunit.le
  induction xs generalizing start with
  | nil => simp
  | cons x rest ih =>
    have hx := hxs x (List.mem_cons_self ..)
    have hrest : ∀ y ∈ rest, 0 ≤ y := fun y hy => hxs y (List.mem_cons_of_mem _ hy)
    have hsum : 0 ≤ rest.sum := List.sum_nonneg hrest
    have hlen : (0 : K) ≤ rest.length * (bound * unit) :=
      mul_nonneg (Nat.cast_nonneg _) hstep
    rw [List.sum_cons, List.length_cons] at hle ⊢
    push_cast at hle ⊢
    have hhead : |toDigits digits (start + x) - (start + x)| ≤ bound * unit := by
      calc |toDigits digits (start + x) - (start + x)|
          ≤ |start + x| * unit := abs_toDigits_sub_le _
        _ ≤ bound * unit := by
            rw [abs_of_nonneg (add_nonneg hstart hx)]
            exact mul_le_mul_of_nonneg_right (by linarith) hunit.le
    have hupper := (abs_le.mp hhead).2
    have hpartial : 0 ≤ toDigits digits (start + x) := toDigits_nonneg (add_nonneg hstart hx)
    have htail := ih hpartial hrest (by linarith)
    rw [sumDigits_cons]
    rw [abs_le] at htail hhead ⊢
    constructor <;> linarith [htail.1, htail.2, hhead.1, hhead.2]

theorem sum_le_two_mul_sumDigits {xs : List K} (hxs : ∀ x ∈ xs, 0 ≤ x)
    (hfew : (xs.length : K) * 10 ^ (1 - digits : ℤ) ≤ 1 / 2) :
    xs.sum ≤ 2 * sumDigits digits 0 xs := by
  have hsum : 0 ≤ xs.sum := List.sum_nonneg hxs
  have herror : xs.length * (2 * xs.sum * (10 ^ (1 - digits : ℤ) / 2)) ≤ xs.sum / 2 := by
    calc xs.length * (2 * xs.sum * (10 ^ (1 - digits : ℤ) / 2))
        = xs.length * 10 ^ (1 - digits : ℤ) * xs.sum := by ring
      _ ≤ 1 / 2 * xs.sum := mul_le_mul_of_nonneg_right hfew hsum
      _ = xs.sum / 2 := by ring
  have hclose : |sumDigits digits 0 xs - (0 + xs.sum)| ≤
      xs.length * (2 * xs.sum * (10 ^ (1 - digits : ℤ) / 2)) :=
    abs_sumDigits_sub_le digits le_rfl hxs (by linarith) (by linarith)
  rw [zero_add, abs_le] at hclose
  linarith [hclose.1]

end Sums

end Rounding
