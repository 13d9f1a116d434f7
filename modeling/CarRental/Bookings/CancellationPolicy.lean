import CarRental.Money
import Mathlib.Data.List.Sort

/-!
# The cancellation policy

`CancellationPolicyService.calculateCancellation`: what a cancellation costs, by who cancels and
how long before the pickup, and what it gives back.

Times are in milliseconds.  The configuration's validator keeps every fee between 0 and 100
percent, so a fee is a `Percent`.
-/

namespace CarRental

open Rounding

/-- `Role`, and `SYSTEM` for the platform itself. -/
inductive ActorRole where
  | customer
  | vendor
  | admin
  | supportAgent
  | system
deriving DecidableEq, Repr

structure Percent where
  value : Decimal
  nonneg : 0 ≤ value
  le_hundred : value ≤ 100

structure CancellationTier where
  minHoursBeforePickup : Decimal
  feePercent : Percent

structure CancellationMatrixConfig where
  tiers : List CancellationTier
  afterStartFeePercent : Percent

def defaultCancellationMatrix : CancellationMatrixConfig where
  tiers := [
    ⟨24, ⟨0, by norm_num, by norm_num⟩⟩,
    ⟨6, ⟨25, by norm_num, by norm_num⟩⟩,
    ⟨0, ⟨50, by norm_num, by norm_num⟩⟩]
  afterStartFeePercent := ⟨100, by norm_num, by norm_num⟩

/-- The matrix of `calculateCancellationWithConfig`: the one that the booking was made under, or
the configured one if it has tiers, or the default. -/
def resolveMatrix (historical configured : Option CancellationMatrixConfig) :
    CancellationMatrixConfig :=
  match historical, configured with
  | some matrix, _ => matrix
  | none, some matrix => if matrix.tiers.isEmpty then defaultCancellationMatrix else matrix
  | none, none => defaultCancellationMatrix

/-- Amounts in paise. -/
structure CalculateCancellationParams where
  startDate : ℤ
  cancellationTime : ℤ
  amountPaid : ℤ
  depositAmount : ℤ
  actorRole : ActorRole
  isAdminOverride : Bool
  isPendingConfirmation : Bool

structure CancellationCalculationResult where
  cancellationFee : ℤ
  refundAmountInPaise : ℤ
deriving DecidableEq

/-- With two decimals. -/
def hoursRemaining (startDate cancellationTime : ℤ) : Decimal :=
  toScale 2 (((startDate - cancellationTime : ℤ) : ℚ) / 3600000)

theorem hoursRemaining_eq (startDate now : ℤ) :
    hoursRemaining startDate now =
      (roundAway (((startDate - now : ℤ) : ℚ) / 36000) : ℤ) / 100 := by
  have hscaled : ((startDate - now : ℤ) : ℚ) / 3600000 * 10 ^ 2 =
      ((startDate - now : ℤ) : ℚ) / 36000 := by ring
  unfold hoursRemaining toScale
  rw [hscaled]
  norm_num

/-- The tier of 24 hours starts after them, every other one with them. -/
def CancellationTier.isMatch (tier : CancellationTier) (hours : Decimal) : Bool :=
  if tier.minHoursBeforePickup = 24 then 24 < hours else tier.minHoursBeforePickup ≤ hours

/-- The fee by the time that is left. -/
def CancellationMatrixConfig.fee (matrix : CancellationMatrixConfig) (hours : Decimal) : Percent :=
  if hours < 0 then matrix.afterStartFeePercent
  else
    let tiers := matrix.tiers.insertionSort fun a b =>
      b.minHoursBeforePickup ≤ a.minHoursBeforePickup
    match tiers.find? fun tier => tier.isMatch hours with
    | some matched => matched.feePercent
    | none => matrix.afterStartFeePercent

def noFee : Percent := ⟨0, le_rfl, by norm_num⟩

def cancellationFeePercent (matrix : CancellationMatrixConfig)
    (params : CalculateCancellationParams) : Percent :=
  if params.isPendingConfirmation then noFee
  else if params.actorRole = .vendor then noFee
  else if params.actorRole = .admin ∧ params.isAdminOverride then noFee
  else matrix.fee (hoursRemaining params.startDate params.cancellationTime)

/-- The fee is taken of the fare alone, in whole paise. -/
def calculateCancellation (matrix : CancellationMatrixConfig)
    (params : CalculateCancellationParams) : CancellationCalculationResult :=
  let fare := max 0 (params.amountPaid - params.depositAmount)
  let cancellationFee := roundAway (fare * (cancellationFeePercent matrix params).value / 100)
  { cancellationFee
    refundAmountInPaise := params.amountPaid - cancellationFee }

/-! ## Bounds -/

section Bounds

variable (matrix : CancellationMatrixConfig) (params : CalculateCancellationParams)

theorem cancellationFee_nonneg : 0 ≤ (calculateCancellation matrix params).cancellationFee := by
  have hfee := (cancellationFeePercent matrix params).nonneg
  have hfare : (0 : ℚ) ≤ (max 0 (params.amountPaid - params.depositAmount) : ℤ) := by
    exact_mod_cast le_max_left _ _
  exact roundAway_nonneg (by positivity)

theorem cancellationFee_le :
    (calculateCancellation matrix params).cancellationFee ≤
      max 0 (params.amountPaid - params.depositAmount) := by
  have hfee := (cancellationFeePercent matrix params).le_hundred
  set fare := max 0 (params.amountPaid - params.depositAmount) with hfare
  have hnonneg : (0 : ℚ) ≤ fare := by exact_mod_cast le_max_left _ _
  have hle : (fare : ℚ) * (cancellationFeePercent matrix params).value / 100 ≤ (fare : ℤ) := by
    rw [div_le_iff₀ (by norm_num)]
    exact mul_le_mul_of_nonneg_left hfee hnonneg
  calc (calculateCancellation matrix params).cancellationFee
      ≤ roundAway ((fare : ℤ) : ℚ) := roundAway_mono hle
    _ = fare := roundAway_intCast fare

theorem refundAmountInPaise_le :
    (calculateCancellation matrix params).refundAmountInPaise ≤ params.amountPaid :=
  sub_le_self _ (cancellationFee_nonneg matrix params)

theorem min_le_refundAmountInPaise :
    min params.amountPaid params.depositAmount ≤
      (calculateCancellation matrix params).refundAmountInPaise := by
  have hle := cancellationFee_le matrix params
  have hrefund : (calculateCancellation matrix params).refundAmountInPaise =
      params.amountPaid - (calculateCancellation matrix params).cancellationFee := rfl
  rw [hrefund]
  omega

end Bounds

end CarRental
