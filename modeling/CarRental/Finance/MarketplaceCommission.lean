import CarRental.Money

/-!
# The commission of the marketplace

`MarketplaceCommissionService.calculateCommission`: how an amount is split between the platform, the
vendor and its branch, and the GST on it, by a rule or by the defaults.

The service computes with numbers, and rounds an amount to two decimals by `Math.round`, halves up.
What is rounded so is kept in paise here.
-/

namespace CarRental

open Rounding

structure MarketplaceCommissionRule where
  platformPct : Column 5
  vendorPct : Column 5
  branchPct : Column 5
  fixedPlatformFee : Money
  gatewayFeeRecovery : Column 5
  taxGstPct : Column 5
deriving DecidableEq

/-- The numbers that a split is computed with. -/
structure CommissionRates where
  platformPct : Decimal
  vendorPct : Decimal
  branchPct : Decimal
  fixedFee : Decimal
  gatewayFeePct : Decimal
  gstPct : Decimal

/-- Those of the rule, or the defaults where there is none. -/
def commissionRates (rule : Option MarketplaceCommissionRule) : CommissionRates :=
  match rule with
  | some rule => ⟨rule.platformPct.value, rule.vendorPct.value, rule.branchPct.value,
      rule.fixedPlatformFee.value, rule.gatewayFeeRecovery.value, rule.taxGstPct.value⟩
  | none => ⟨15, 80, 5, 0, 2, 18⟩

structure CommissionContext where
  grossAmount : Decimal
  discountAmount : Option Decimal
  subsidyAmount : Option Decimal

structure CommissionBreakdown where
  grossAmount : Decimal
  discountAmount : Decimal
  taxableAmount : Decimal
  gstAmount : ℤ
  totalCustomerPayable : ℤ
  platformFee : ℤ
  vendorNetPayable : ℤ
  branchShare : ℤ
  gatewayFeeRecovery : ℤ
  promotionalSubsidy : Decimal
  isBalanced : Bool

/-- `Math.round(x * 100)` -/
def roundPaise (x : Decimal) : ℤ := round (x * 100)

def calculateCommission (rates : CommissionRates) (ctx : CommissionContext) : CommissionBreakdown :=
  let discount := ctx.discountAmount.getD 0
  let taxable := max 0 (ctx.grossAmount - discount)
  let gstAmount := roundPaise (taxable * rates.gstPct / 100)
  let totalCustomerPayable := roundPaise (taxable + rupees gstAmount)
  let platformFee := roundPaise (taxable * rates.platformPct / 100 + rates.fixedFee)
  let branchShare := roundPaise (taxable * rates.branchPct / 100)
  let vendorNetPayable := roundPaise (taxable - rupees platformFee - rupees branchShare)
  let sumSplits := roundPaise (rupees platformFee + rupees branchShare + rupees vendorNetPayable)
  { grossAmount := ctx.grossAmount
    discountAmount := discount
    taxableAmount := taxable
    gstAmount
    totalCustomerPayable
    platformFee
    vendorNetPayable
    branchShare
    gatewayFeeRecovery := roundPaise (rupees totalCustomerPayable * rates.gatewayFeePct / 100)
    promotionalSubsidy := ctx.subsidyAmount.getD 0
    isBalanced := |rupees sumSplits - taxable| < 0.05 }

/-! ## A split of whole paise -/

section Split

variable {rates : CommissionRates} {ctx : CommissionContext} {taxable : ℤ}

@[simp] theorem roundPaise_rupees (paise : ℤ) : roundPaise (rupees paise) = paise := by
  rw [roundPaise, rupees, div_mul_cancel₀ _ (by norm_num), round_intCast]

theorem rupees_max (paise : ℤ) : rupees (max 0 paise) = max 0 (rupees paise) := by
  have hmax := max_div_div_right (by norm_num : (0 : ℚ) ≤ 100) 0 (paise : ℚ)
  rw [zero_div] at hmax
  rw [rupees, rupees, Int.cast_max, Int.cast_zero, hmax]

theorem roundPaise_sub (a b c : ℤ) : roundPaise (rupees a - rupees b - rupees c) = a - b - c := by
  rw [← roundPaise_rupees (a - b - c)]
  congr 1
  rw [rupees, rupees, rupees, rupees]
  push_cast
  ring

theorem roundPaise_share (paise : ℤ) (percent fixed : Decimal) :
    roundPaise (rupees paise * percent / 100 + fixed) =
      round (paise * percent / 100 + fixed * 100 : ℚ) := by
  rw [roundPaise, rupees]
  congr 1
  ring

theorem roundPaise_percent (paise : ℤ) (percent : Decimal) :
    roundPaise (rupees paise * percent / 100) = round (paise * percent / 100 : ℚ) := by
  have h := roundPaise_share paise percent 0
  rwa [add_zero, zero_mul, add_zero] at h

theorem vendor_and_branch (h : (calculateCommission rates ctx).taxableAmount = rupees taxable) :
    (calculateCommission rates ctx).vendorNetPayable + (calculateCommission rates ctx).branchShare =
      taxable - (calculateCommission rates ctx).platformFee := by
  have hvendor : (calculateCommission rates ctx).vendorNetPayable =
      roundPaise (rupees taxable - rupees (calculateCommission rates ctx).platformFee -
        rupees (calculateCommission rates ctx).branchShare) := by
    rw [← h]
    rfl
  rw [hvendor, roundPaise_sub]
  omega

end Split

/-!
## The parts of a commission

The platform, the branch and the vendor should share the taxable amount, to the paisa and none of
them less than nothing.  The vendor has what the other two leave, so the sum is always exact; but
nothing keeps the fees, with the fixed fee and each rounded on its own, within the amount.

The percentages are in hundredths, so with the amount in paise the parts are integers
(`platformFee_eq`, `branchShare_eq`).
-/

/-- The parts of the taxable amount: none is negative and they add up to it. -/
structure CommissionSplitLaw (rates : CommissionRates) (ctx : CommissionContext) : Prop where
  platform_nonneg : 0 ≤ (calculateCommission rates ctx).platformFee
  branch_nonneg : 0 ≤ (calculateCommission rates ctx).branchShare
  vendor_nonneg : 0 ≤ (calculateCommission rates ctx).vendorNetPayable
  sum : rupees (calculateCommission rates ctx).platformFee +
      rupees (calculateCommission rates ctx).branchShare +
        rupees (calculateCommission rates ctx).vendorNetPayable =
    (calculateCommission rates ctx).taxableAmount

/-- What the rule, or else the default, takes: percentages in hundredths, and the fixed fee in
paise. -/
structure Take where
  platform : ℤ
  branch : ℤ
  fixed : ℤ

def takeOf (rule : Option MarketplaceCommissionRule) : Take :=
  match rule with
  | some rule => ⟨rule.platformPct.paise, rule.branchPct.paise, rule.fixedPlatformFee.paise⟩
  | none => ⟨1500, 500, 0⟩

/-- The percentage of an amount in paise, halves up. -/
def percentageOf (paise hundredths : ℤ) : ℤ := (paise * hundredths + 5000) / 10000

/-- The fees are not negative, and together no more than the amount. -/
structure Affordable (take : Take) (taxable : ℤ) : Prop where
  platform : 0 ≤ percentageOf taxable take.platform + take.fixed
  branch : 0 ≤ percentageOf taxable take.branch
  together : percentageOf taxable take.platform + take.fixed + percentageOf taxable take.branch ≤
    taxable

section Parts

variable {rule : Option MarketplaceCommissionRule} {ctx : CommissionContext} {taxable : ℤ}

theorem round_percentageOf (paise hundredths fixed : ℤ) :
    round (paise * (hundredths / 100) / 100 + fixed / 100 * 100 : ℚ) =
      percentageOf paise hundredths + fixed := by
  have hsum : (paise * (hundredths / 100) / 100 + fixed / 100 * 100 : ℚ) + 1 / 2 =
      ((paise * hundredths + 5000 : ℤ) : ℚ) / (10000 : ℕ) + fixed := by
    push_cast
    ring
  rw [round_eq, hsum, Int.floor_add_intCast, Rat.floor_intCast_div_natCast]
  rfl

theorem platformPct_eq (rule : Option MarketplaceCommissionRule) :
    (commissionRates rule).platformPct = ((takeOf rule).platform : ℚ) / 100 ∧
      (commissionRates rule).branchPct = ((takeOf rule).branch : ℚ) / 100 ∧
        (commissionRates rule).fixedFee = ((takeOf rule).fixed : ℚ) / 100 := by
  cases rule with
  | none => norm_num [commissionRates, takeOf]
  | some rule => exact ⟨rfl, rfl, rfl⟩

theorem platformFee_eq
    (h : (calculateCommission (commissionRates rule) ctx).taxableAmount = rupees taxable) :
    (calculateCommission (commissionRates rule) ctx).platformFee =
      percentageOf taxable (takeOf rule).platform + (takeOf rule).fixed := by
  have hfee : (calculateCommission (commissionRates rule) ctx).platformFee =
      roundPaise (rupees taxable * (commissionRates rule).platformPct / 100 +
        (commissionRates rule).fixedFee) := by
    rw [← h]
    rfl
  rw [hfee, roundPaise_share, (platformPct_eq rule).1, (platformPct_eq rule).2.2,
    round_percentageOf]

theorem branchShare_eq
    (h : (calculateCommission (commissionRates rule) ctx).taxableAmount = rupees taxable) :
    (calculateCommission (commissionRates rule) ctx).branchShare =
      percentageOf taxable (takeOf rule).branch := by
  have hshare : (calculateCommission (commissionRates rule) ctx).branchShare =
      roundPaise (rupees taxable * (commissionRates rule).branchPct / 100) := by
    rw [← h]
    rfl
  have hround := round_percentageOf taxable (takeOf rule).branch 0
  rw [Int.cast_zero, zero_div, zero_mul, add_zero, add_zero] at hround
  rw [hshare, roundPaise_percent, (platformPct_eq rule).2.1, hround]

theorem sum_parts {rates : CommissionRates}
    (h : (calculateCommission rates ctx).taxableAmount = rupees taxable) :
    rupees (calculateCommission rates ctx).platformFee +
        rupees (calculateCommission rates ctx).branchShare +
          rupees (calculateCommission rates ctx).vendorNetPayable =
      (calculateCommission rates ctx).taxableAmount := by
  have hsplit := vendor_and_branch h
  have hpaise : (calculateCommission rates ctx).platformFee +
      (calculateCommission rates ctx).branchShare +
        (calculateCommission rates ctx).vendorNetPayable = taxable := by omega
  rw [h, ← hpaise, rupees, rupees, rupees, rupees]
  push_cast
  ring

theorem splitLaw_iff
    (h : (calculateCommission (commissionRates rule) ctx).taxableAmount = rupees taxable) :
    CommissionSplitLaw (commissionRates rule) ctx ↔ Affordable (takeOf rule) taxable := by
  have hplatform := platformFee_eq h
  have hbranch := branchShare_eq h
  have hvendor := vendor_and_branch h
  constructor
  · intro hlaw
    have hnonneg := hlaw.vendor_nonneg
    exact ⟨hplatform ▸ hlaw.platform_nonneg, hbranch ▸ hlaw.branch_nonneg, by omega⟩
  · intro haffordable
    have htogether := haffordable.together
    exact ⟨hplatform ▸ haffordable.platform, hbranch ▸ haffordable.branch, by omega, sum_parts h⟩

end Parts

def paiseContext (grossAmount : ℤ) (discountAmount : Option ℤ) (subsidyAmount : Option Decimal) :
    CommissionContext :=
  ⟨rupees grossAmount, discountAmount.map rupees, subsidyAmount⟩

theorem taxableAmount_paiseContext (rates : CommissionRates) (grossAmount : ℤ)
    (discountAmount : Option ℤ) (subsidyAmount : Option Decimal) :
    (calculateCommission rates (paiseContext grossAmount discountAmount
        subsidyAmount)).taxableAmount =
      rupees (max 0 (grossAmount - discountAmount.getD 0)) := by
  have hdiscount : (discountAmount.map rupees).getD 0 = rupees (discountAmount.getD 0) := by
    cases discountAmount with
    | none => simp [rupees]
    | some discount => rfl
  have hsub : rupees grossAmount - rupees (discountAmount.getD 0) =
      rupees (grossAmount - discountAmount.getD 0) := by
    rw [rupees, rupees, rupees, Int.cast_sub, sub_div]
  rw [rupees_max, ← hsub, ← hdiscount]
  rfl

theorem fivePercent_inRange : |(500 : ℤ)| < 10 ^ 5 := by decide

def fixedFeeRule : MarketplaceCommissionRule where
  platformPct := ⟨1500, by decide⟩
  vendorPct := ⟨8000, by decide⟩
  branchPct := ⟨500, fivePercent_inRange⟩
  fixedPlatformFee := ⟨6000, by decide⟩
  gatewayFeeRecovery := ⟨250, by decide⟩
  taxGstPct := ⟨1800, by decide⟩

end CarRental
