import Mathlib.Algebra.Order.Round
import Mathlib.Data.Rat.Floor
import Mathlib.Tactic.Linarith

/-!
# Numbers with infinities

The numbers of JavaScript, exact where they are finite.  A quotient by zero is infinite or not a
number, and what is not a number stays so and compares with nothing.  Zero has no sign.
-/

inductive JsNumber where
  | finite (value : ℚ)
  | infinite (positive : Bool)
  | nan
deriving DecidableEq, Repr

namespace JsNumber

def add : JsNumber → JsNumber → JsNumber
  | finite a, finite b => finite (a + b)
  | finite _, infinite p => infinite p
  | infinite p, finite _ => infinite p
  | infinite p, infinite q => if p = q then infinite p else nan
  | nan, _ => nan
  | _, nan => nan

def neg : JsNumber → JsNumber
  | finite a => finite (-a)
  | infinite p => infinite (!p)
  | nan => nan

def mul : JsNumber → JsNumber → JsNumber
  | finite a, finite b => finite (a * b)
  | finite a, infinite p => if a = 0 then nan else infinite (p == decide (0 < a))
  | infinite p, finite b => if b = 0 then nan else infinite (p == decide (0 < b))
  | infinite p, infinite q => infinite (p == q)
  | nan, _ => nan
  | _, nan => nan

def div : JsNumber → JsNumber → JsNumber
  | finite a, finite b =>
    if b = 0 then if a = 0 then nan else infinite (decide (0 < a)) else finite (a / b)
  | finite _, infinite _ => finite 0
  | infinite p, finite b => infinite (p == decide (0 ≤ b))
  | infinite _, infinite _ => nan
  | nan, _ => nan
  | _, nan => nan

instance : Add JsNumber := ⟨add⟩
instance : Sub JsNumber := ⟨fun x y => add x (neg y)⟩
instance : Mul JsNumber := ⟨mul⟩
instance : Div JsNumber := ⟨div⟩

/-- `x < y` -/
def lt : JsNumber → JsNumber → Bool
  | finite a, finite b => a < b
  | finite _, infinite p => p
  | infinite p, finite _ => !p
  | infinite p, infinite q => !p && q
  | nan, _ => false
  | _, nan => false

def mathMin : JsNumber → JsNumber → JsNumber
  | nan, _ => nan
  | _, nan => nan
  | x, y => if lt y x then y else x

def mathRound : JsNumber → JsNumber
  | finite a => finite (round a : ℤ)
  | infinite p => infinite p
  | nan => nan

section Laws

variable {a b c : ℚ} {x : JsNumber}

@[simp] theorem finite_add : finite a + finite b = finite (a + b) := rfl

@[simp] theorem finite_sub : finite a - finite b = finite (a - b) := by
  rw [sub_eq_add_neg]
  rfl

@[simp] theorem finite_mul : finite a * finite b = finite (a * b) := rfl

theorem finite_div (hb : b ≠ 0) : finite a / finite b = finite (a / b) := if_neg hb

@[simp] theorem div_zero_self : finite 0 / finite 0 = nan := by
  show div (finite 0) (finite 0) = nan
  rw [div, if_pos rfl, if_pos rfl]

@[simp] theorem nan_mul : nan * x = nan := by
  cases x <;> rfl

@[simp] theorem mul_nan : x * nan = nan := by
  cases x <;> rfl

@[simp] theorem nan_div : nan / x = nan := by
  cases x <;> rfl

@[simp] theorem lt_finite : lt (finite a) (finite b) = decide (a < b) := rfl

@[simp] theorem nan_lt : lt nan x = false := by
  cases x <;> rfl

@[simp] theorem lt_nan : lt x nan = false := by
  cases x <;> rfl

@[simp] theorem mathMin_finite : mathMin (finite a) (finite b) = finite (min a b) := by
  have hmin : mathMin (finite a) (finite b) = if lt (finite b) (finite a) then finite b else finite a :=
    rfl
  rw [hmin, lt_finite]
  by_cases h : b < a
  · rw [if_pos (decide_eq_true h), min_eq_right h.le]
  · rw [if_neg (by simpa using h), min_eq_left (not_lt.mp h)]

theorem clamp_finite {β : Type*} {above below within : β} (h : a ≤ b) :
    (if lt (finite b) (finite c) then (finite b, above)
      else if lt (finite c) (finite a) then (finite a, below)
      else (finite c, within)).1 = finite (max a (min b c)) := by
  simp only [lt_finite, decide_eq_true_eq]
  split
  next hover => rw [min_eq_left hover.le, max_eq_right h]
  next hover =>
    rw [min_eq_right (not_lt.mp hover)]
    split
    next hunder => rw [max_eq_left hunder.le]
    next hunder => rw [max_eq_right (not_lt.mp hunder)]

@[simp] theorem mathRound_finite : mathRound (finite a) = finite (round a : ℤ) := rfl

@[simp] theorem mathRound_nan : mathRound nan = nan := rfl

end Laws

end JsNumber
