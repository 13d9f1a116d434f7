import CarRental.Lib.Rounding
import Mathlib.Data.Rat.Floor

/-!
# Money

The services compute with an arbitrary-precision decimal type and store the
results in `DECIMAL(p, 2)` columns.

* A decimal value is a rational; every operation on it rounds its result to
  `Decimal.precision` significant digits.  Building one from a literal does not
  round.
* A column value is a whole number of paise within the column's range
  (`Column`).  Writing a decimal into a column rounds it to two decimals, halves
  away from zero, and fails when it does not fit (`Column.ofDecimal?`).

Sums of a few column values are exact in decimal arithmetic
(`Rounding.toDigits_of_onGrid`), so the services' own sums of column values are
written in paise.
-/

namespace CarRental

open Rounding

/-- The name of a row: customers, vendors, cars, bookings. -/
abbrev Id := String

/-! ## Decimal arithmetic -/

abbrev Decimal := ℚ

namespace Decimal

/-- Significant digits of the result of an operation. -/
def precision : ℕ := 20

def add (x y : Decimal) : Decimal := toDigits precision (x + y)

def sub (x y : Decimal) : Decimal := toDigits precision (x - y)

def mul (x y : Decimal) : Decimal := toDigits precision (x * y)

def div (x y : Decimal) : Decimal := toDigits precision (x / y)

theorem hasDigits_sub (x y : Decimal) : HasDigits precision (sub x y) :=
  hasDigits_toDigits (by decide) _

theorem hasDigits_div (x y : Decimal) : HasDigits precision (div x y) :=
  hasDigits_toDigits (by decide) _

theorem toDigits_of_abs_lt {z : Decimal} (hgrid : OnGrid 2 z)
    (hlt : |toDigits precision z| < 10 ^ 16) : toDigits precision z = z := by
  refine toDigits_of_onGrid_of_result (by decide) hgrid ?_
  calc 2 * |toDigits precision z| * 10 ^ 2
      < 2 * 10 ^ 16 * 10 ^ 2 := by gcongr
    _ ≤ 10 ^ precision := by norm_num [precision]

theorem abs_le_of_abs_toDigits_le {z bound : Decimal} (h : |toDigits precision z| ≤ bound) :
    |z| ≤ 2 * bound := by
  have := abs_le_two_mul_abs_toDigits (K := Decimal) (by decide : 1 ≤ precision) z
  linarith

end Decimal

/-- `value || fallback` -/
def orDefault (value fallback : Decimal) : Decimal := if value = 0 then fallback else value

/-! ## Paise -/

def rupees (paise : ℤ) : Decimal := paise / 100

/-- The paise that a column stores of an amount in rupees. -/
def toPaise (x : Decimal) : ℤ := roundAway (x * 100)

theorem rupees_mul_hundred (paise : ℤ) : rupees paise * 100 = paise := by
  rw [rupees]
  ring

@[simp] theorem toPaise_rupees (paise : ℤ) : toPaise (rupees paise) = paise := by
  rw [toPaise, rupees_mul_hundred, roundAway_intCast]

@[simp] theorem rupees_zero : rupees 0 = 0 := by simp [rupees]

@[simp] theorem rupees_le {a b : ℤ} : rupees a ≤ rupees b ↔ a ≤ b := by
  rw [rupees, rupees, div_le_div_iff_of_pos_right (by norm_num), Int.cast_le]

@[simp] theorem rupees_lt {a b : ℤ} : rupees a < rupees b ↔ a < b := by
  rw [rupees, rupees, div_lt_div_iff_of_pos_right (by norm_num), Int.cast_lt]

@[simp] theorem rupees_nonneg {a : ℤ} : 0 ≤ rupees a ↔ 0 ≤ a := by
  rw [← rupees_zero, rupees_le]

@[simp] theorem rupees_pos {a : ℤ} : 0 < rupees a ↔ 0 < a := by
  rw [← rupees_zero, rupees_lt]

theorem rupees_min (a b : ℤ) : rupees (min a b) = min (rupees a) (rupees b) := by
  rcases le_total a b with h | h
  · rw [min_eq_left h, min_eq_left (rupees_le.mpr h)]
  · rw [min_eq_right h, min_eq_right (rupees_le.mpr h)]

theorem rupees_sub (a b : ℤ) : rupees (a - b) = rupees a - rupees b := by
  rw [rupees, rupees, rupees]
  push_cast
  ring

theorem onGrid_rupees (a : ℤ) : OnGrid 2 (rupees a) := ⟨a, by
  rw [← rupees_mul_hundred]
  norm_num⟩

theorem exists_rupees {x : Decimal} (h : OnGrid 2 x) : ∃ a : ℤ, x = rupees a := by
  obtain ⟨a, ha⟩ := h
  refine ⟨a, ?_⟩
  rw [rupees, ← ha]
  ring

theorem toPaise_mono {x y : Decimal} (h : x ≤ y) : toPaise x ≤ toPaise y :=
  roundAway_mono (by linarith)

theorem Decimal.sub_rupees {a b : ℤ} (h : |a - b| < 10 ^ 20) :
    Decimal.sub (rupees a) (rupees b) = rupees (a - b) := by
  rw [Decimal.sub, ← rupees_sub]
  apply toDigits_of_onGrid (onGrid_rupees _)
  have habs : |rupees (a - b)| * 10 ^ 2 = ((|a - b| : ℤ) : ℚ) := by
    rw [show (10 : ℚ) ^ 2 = |100| by norm_num, ← abs_mul, rupees_mul_hundred, Int.cast_abs]
  rw [habs]
  exact_mod_cast h

/-! ## Columns -/

/-- A value of a `DECIMAL(digits, 2)` column. -/
structure Column (digits : ℕ) where
  paise : ℤ
  inRange : |paise| < 10 ^ digits
deriving DecidableEq

/-- The `DECIMAL(10, 2)` columns of bookings, payments, deposits and payouts. -/
abbrev Money := Column 10

namespace Column

variable {digits : ℕ}

def zero : Column digits := ⟨0, by simp⟩

/-- The column value of a whole number of paise, if it fits. -/
def ofPaise? (paise : ℤ) : Option (Column digits) :=
  if h : |paise| < 10 ^ digits then some ⟨paise, h⟩ else none

/-- The column value a decimal is stored as, if it fits. -/
def ofDecimal? (x : Decimal) : Option (Column digits) :=
  ofPaise? (roundAway (x * 100))

/-- The column value read back, in rupees. -/
def value (c : Column digits) : Decimal := c.paise / 100

@[ext] theorem ext {c d : Column digits} (h : c.paise = d.paise) : c = d := by
  cases c
  cases d
  congr

theorem ofPaise?_eq_some {paise : ℤ} {c : Column digits} :
    ofPaise? paise = some c ↔ c.paise = paise := by
  unfold ofPaise?
  split
  next h =>
    constructor
    · rintro ⟨⟩
      rfl
    · intro heq
      exact congrArg some (ext heq.symm)
  next h =>
    constructor
    · rintro ⟨⟩
    · intro heq
      exact absurd (heq ▸ c.inRange) h

@[simp] theorem ofPaise?_paise (c : Column digits) : ofPaise? c.paise = some c :=
  ofPaise?_eq_some.mpr rfl

theorem value_mul_hundred (c : Column digits) : c.value * 100 = c.paise := by
  rw [value]
  ring

theorem value_inj {c d : Column digits} : c.value = d.value ↔ c.paise = d.paise := by
  rw [value, value, div_left_inj' (by norm_num), Int.cast_inj]

theorem value_nonneg_iff {c : Column digits} : 0 ≤ c.value ↔ 0 ≤ c.paise := by
  rw [value, le_div_iff₀ (by norm_num), zero_mul, Int.cast_nonneg_iff]

theorem value_pos_iff {c : Column digits} : 0 < c.value ↔ 0 < c.paise := by
  rw [value, lt_div_iff₀ (by norm_num), zero_mul, Int.cast_pos]

theorem value_eq_zero_iff {c : Column digits} : c.value = 0 ↔ c.paise = 0 := by
  rw [value, div_eq_zero_iff]
  norm_num

theorem onGrid_value (c : Column digits) : OnGrid 2 c.value := ⟨c.paise, by
  norm_num [value]⟩

theorem abs_value_lt (c : Column digits) : |c.value| < 10 ^ digits / 100 := by
  have hcast : |(c.paise : ℚ)| < 10 ^ digits := by exact_mod_cast c.inRange
  rw [value, abs_div, abs_of_pos (by norm_num : (0 : ℚ) < 100)]
  gcongr

theorem paise_of_ofDecimal? {x : Decimal} {c : Column digits} (h : ofDecimal? x = some c) :
    c.paise = roundAway (x * 100) :=
  ofPaise?_eq_some.mp h

theorem value_of_ofDecimal? {x : Decimal} {c : Column digits} (h : ofDecimal? x = some c) :
    c.value = toScale 2 x := by
  rw [value, paise_of_ofDecimal? h, toScale]
  norm_num

theorem roundAway_le_paise {x : Decimal} {c : Column digits} (hle : x ≤ c.value) :
    roundAway (x * 100) ≤ c.paise := by
  rw [← roundAway_intCast (K := ℚ) c.paise, ← value_mul_hundred]
  exact roundAway_mono (by linarith)

theorem paise_le_roundAway {x : Decimal} {c : Column digits} (hle : c.value ≤ x) :
    c.paise ≤ roundAway (x * 100) := by
  rw [← roundAway_intCast (K := ℚ) c.paise, ← value_mul_hundred]
  exact roundAway_mono (by linarith)

theorem ofDecimal?_of_le {x : Decimal} {bound : Column digits} (hx : 0 ≤ x)
    (hbound : x ≤ bound.value) : ∃ c : Column digits, ofDecimal? x = some c := by
  have hnonneg : 0 ≤ roundAway (x * 100) := roundAway_nonneg (by linarith)
  have hrange : |roundAway (x * 100)| < 10 ^ digits := by
    rw [abs_of_nonneg hnonneg]
    exact (roundAway_le_paise hbound).trans_lt (lt_of_abs_lt bound.inRange)
  exact ⟨⟨_, hrange⟩, ofPaise?_eq_some.mpr rfl⟩

theorem abs_lt_of_ofDecimal? {x : Decimal} {c : Money} (h : ofDecimal? x = some c) :
    |x| < 10 ^ 8 + 1 := by
  have hstored : |toScale 2 x| < 10 ^ 8 := by
    rw [← value_of_ofDecimal? h]
    exact c.abs_value_lt.trans_eq (by norm_num)
  have herror := abs_toScale_sub_le 2 x
  have htriangle : |x| - |toScale 2 x| ≤ |toScale 2 x - x| := by
    rw [abs_sub_comm]
    exact abs_sub_abs_le_abs_sub x (toScale 2 x)
  linarith

/-- Storing what a column holds gives the column back. -/
@[simp] theorem ofDecimal?_value (c : Column digits) : ofDecimal? c.value = some c := by
  rw [ofDecimal?, value_mul_hundred, roundAway_intCast, ofPaise?_paise]

end Column

end CarRental
