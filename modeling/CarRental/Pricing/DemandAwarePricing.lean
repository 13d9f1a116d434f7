import CarRental.Lib.JsNumber
import CarRental.Pricing.RentalPricing

/-!
# Demand-aware prices

`DemandAwarePricingService.evaluatePrice`: a daily rate is multiplied by factors for the use of the
fleet, for how soon the rental begins, for the bookings of the last day and for the market; the
product is kept within the bounds of a policy, and so is the rate.

The factor for the use of the fleet divides by the gap above the upper threshold, or by the lower
threshold.  The numbers are those of JavaScript, exact where they are finite.
-/

namespace CarRental

open JsNumber Rounding

/-! ## Policies -/

structure DynamicPricingPolicy where
  scope : PricingRuleScope
  vendorId : Option Id
  branchId : Option Id
  vehicleClass : Option CarCategory
  minDailyPrice : Money
  maxDailyPrice : Money
  maxSurgeMultiplier : Column 3
  minDiscountMultiplier : Column 3
  utilizationThresholdHigh : ℚ
  utilizationThresholdLow : ℚ
  isActive : Bool

structure DynamicPricingEvaluationContext where
  vendorId : Option Id
  branchId : Option Id
  vehicleClass : CarCategory
  city : Option String
  startDate : ℤ
  baseDailyRate : ℚ

/-- The active policy for the class: of the branch, or else of the vendor, or else of the
platform. -/
def resolveActivePolicy (policies : List DynamicPricingPolicy)
    (ctx : DynamicPricingEvaluationContext) : Option DynamicPricingPolicy :=
  let active := policies.filter fun policy =>
    policy.isActive ∧ policy.vehicleClass = some ctx.vehicleClass
  let branchPolicy := (given ctx.branchId).bind fun branchId =>
    active.find? fun policy => policy.branchId = some branchId
  let vendorPolicy := (given ctx.vendorId).bind fun vendorId =>
    active.find? fun policy => policy.vendorId = some vendorId
  (branchPolicy.or vendorPolicy).or (active.find? fun policy => policy.scope = .platform)

structure PolicyBounds where
  minDailyPrice : ℚ
  maxDailyPrice : ℚ
  maxSurgeMultiplier : ℚ
  minDiscountMultiplier : ℚ
deriving DecidableEq

/-- The bounds of the policy, or those around the base rate where there is none. -/
def policyBounds (policy : Option DynamicPricingPolicy) (baseDailyRate : ℚ) : PolicyBounds :=
  match policy with
  | some policy => ⟨policy.minDailyPrice.value, policy.maxDailyPrice.value,
      policy.maxSurgeMultiplier.value, policy.minDiscountMultiplier.value⟩
  | none => ⟨(round (baseDailyRate * 0.70) : ℤ), (round (baseDailyRate * 2.00) : ℤ), 1.50, 0.80⟩

def thresholdHigh (policy : Option DynamicPricingPolicy) : ℚ :=
  policy.elim 0.85 DynamicPricingPolicy.utilizationThresholdHigh

def thresholdLow (policy : Option DynamicPricingPolicy) : ℚ :=
  policy.elim 0.30 DynamicPricingPolicy.utilizationThresholdLow

/-! ## Factors -/

/-- The share of the cars that are booked, of the counts in the database. -/
def calculateUtilization (totalCars overlappingBookings : ℕ) : ℚ :=
  if totalCars = 0 then 0.50 else min 1 (overlappingBookings / totalCars)

def utilizationMultiplier (thresholdHigh thresholdLow utilizationRate : ℚ) : JsNumber :=
  if thresholdHigh ≤ utilizationRate then
    let excess := finite (utilizationRate - thresholdHigh) / finite (1 - thresholdHigh)
    finite 1 + mathMin (finite 0.35) (excess * finite 0.30 + finite 0.05)
  else if utilizationRate ≤ thresholdLow then
    let deficit := finite (thresholdLow - utilizationRate) / finite thresholdLow
    finite 1 - mathMin (finite 0.20) (deficit * finite 0.15 + finite 0.05)
  else finite 1

/-- What it divides by. -/
def utilizationDivisors (thresholdHigh thresholdLow utilizationRate : ℚ) : List ℚ :=
  if thresholdHigh ≤ utilizationRate then [1 - thresholdHigh]
  else if utilizationRate ≤ thresholdLow then [thresholdLow]
  else []

def leadTimeMultiplier (leadTimeDays : ℤ) : ℚ :=
  if leadTimeDays ≤ 1 then 1.05 else if 14 ≤ leadTimeDays then 0.95 else 1

/-- Of the bookings of the last 24 hours. -/
def calculateVelocityMultiplier (recentCount : ℕ) : ℚ :=
  if 20 ≤ recentCount then 1.08 else if 10 ≤ recentCount then 1.04 else 1

def competitorMultiplier (baseDailyRate : ℚ) (medianPrice : Option ℚ) : ℚ :=
  match medianPrice with
  | none => 1
  | some medianPrice =>
    if 0 < medianPrice then
      let ratio := finite medianPrice / finite baseDailyRate
      if lt (finite 1.20) ratio then 1.05 else if lt ratio (finite 0.80) then 0.95 else 1
    else 1

/-- What the factors are computed of, but for the use of the fleet. -/
structure DemandSignals where
  leadTimeDays : ℤ
  recentCount : ℕ
  medianPrice : Option ℚ

def DemandSignals.factor (signals : DemandSignals) (baseDailyRate : ℚ) : ℚ :=
  leadTimeMultiplier signals.leadTimeDays * calculateVelocityMultiplier signals.recentCount *
    competitorMultiplier baseDailyRate signals.medianPrice

/-! ## The rate -/

/-- Why a multiplier or a rate was changed. -/
inductive ClampReason where
  | surgeCeiling
  | discountFloor
  | maxPrice
  | minPrice
deriving DecidableEq, Repr

def clampMultiplier (bounds : PolicyBounds) (rawMultiplier : JsNumber) :
    JsNumber × Option ClampReason :=
  if lt (finite bounds.maxSurgeMultiplier) rawMultiplier then
    (finite bounds.maxSurgeMultiplier, some .surgeCeiling)
  else if lt rawMultiplier (finite bounds.minDiscountMultiplier) then
    (finite bounds.minDiscountMultiplier, some .discountFloor)
  else (rawMultiplier, none)

/-- `Math.round(x * 100) / 100` -/
def roundCents (x : JsNumber) : JsNumber := mathRound (x * finite 100) / finite 100

/-- The rate within the prices of the policy, with the multiplier that it stands for. -/
def clampRate (bounds : PolicyBounds) (baseDailyRate : ℚ) (effectiveRate rawMultiplier : JsNumber)
    (reason : Option ClampReason) : JsNumber × JsNumber × Option ClampReason :=
  if lt (finite bounds.maxDailyPrice) effectiveRate then
    (finite bounds.maxDailyPrice,
      roundCents (finite bounds.maxDailyPrice / finite baseDailyRate), some .maxPrice)
  else if lt effectiveRate (finite bounds.minDailyPrice) then
    (finite bounds.minDailyPrice,
      roundCents (finite bounds.minDailyPrice / finite baseDailyRate), some .minPrice)
  else (effectiveRate, rawMultiplier, reason)

structure DynamicPricingEvaluationResult where
  effectiveDailyRate : JsNumber
  multiplier : JsNumber
  baseDailyRate : ℚ
  policyBounds : PolicyBounds
  utilizationRate : JsNumber
  utilizationMultiplier : JsNumber
  leadTimeDays : ℤ
  leadTimeMultiplier : JsNumber
  bookingVelocityMultiplier : JsNumber
  competitorIndexMultiplier : JsNumber
  clampReason : Option ClampReason
deriving DecidableEq

/-- The evaluation once the policy, the use of the fleet and the other signals are known. -/
def evaluateAt (policy : Option DynamicPricingPolicy) (baseDailyRate : ℚ)
    (signals : DemandSignals) (utilizationRate : ℚ) : DynamicPricingEvaluationResult :=
  let bounds := policyBounds policy baseDailyRate
  let utilMultiplier :=
    utilizationMultiplier (thresholdHigh policy) (thresholdLow policy) utilizationRate
  let leadTime := finite (leadTimeMultiplier signals.leadTimeDays)
  let velocity := finite (calculateVelocityMultiplier signals.recentCount)
  let competitor := finite (competitorMultiplier baseDailyRate signals.medianPrice)
  let clamped := clampMultiplier bounds (utilMultiplier * leadTime * velocity * competitor)
  let priced := clampRate bounds baseDailyRate
    (roundCents (finite baseDailyRate * clamped.1)) clamped.1 clamped.2
  { effectiveDailyRate := priced.1
    multiplier := roundCents priced.2.1
    baseDailyRate
    policyBounds := bounds
    utilizationRate := roundCents (finite utilizationRate)
    utilizationMultiplier := roundCents utilMultiplier
    leadTimeDays := signals.leadTimeDays
    leadTimeMultiplier := roundCents leadTime
    bookingVelocityMultiplier := roundCents velocity
    competitorIndexMultiplier := roundCents competitor
    clampReason := priced.2.2 }

/-- What the database and the market service answer for a context. -/
structure DemandAnswers where
  policies : List DynamicPricingPolicy
  totalCars : ℕ
  overlappingBookings : ℕ
  recentCount : ℕ
  medianPrice : Option ℚ

def evaluatePrice (answers : DemandAnswers) (now : ℤ) (ctx : DynamicPricingEvaluationContext) :
    DynamicPricingEvaluationResult :=
  let leadTimeMs : ℚ := (ctx.startDate - now : ℤ)
  evaluateAt (resolveActivePolicy answers.policies ctx) ctx.baseDailyRate
    { leadTimeDays := max 0 (round (leadTimeMs / (24 * 60 * 60 * 1000)))
      recentCount := answers.recentCount
      medianPrice := (given ctx.city).bind fun _ => answers.medianPrice }
    (calculateUtilization answers.totalCars answers.overlappingBookings)

/-!
## Demand-aware prices within their bounds

For a sensible policy the rate of `evaluatePrice` is within the prices of the policy and, up to half
a paisa, within the multiplier bounds around the base rate, and it does not fall when the fleet is
used more.

The exceptions are the ends of the thresholds: an upper threshold of 1 with every car booked, and a
lower threshold of 0 with none.  There the factor is zero by zero, and so the rate is not a number.

* `utilizationMultiplier_eq`, `utilizationMultiplier_eq_nan`: the factor, and where there is none.
* `utilizationFactor_mono`: over the three pieces the factor does not fall.
* `effectiveDailyRate_eq`: the rate is `boundedRate`, which is monotone and bounded.
-/

/-! ## The law -/

/-- The prices, multipliers and thresholds of a policy are in order. -/
structure DynamicPricingPolicy.Sensible (policy : DynamicPricingPolicy) : Prop where
  minDailyPrice_pos : 0 < policy.minDailyPrice.value
  prices : policy.minDailyPrice.value ≤ policy.maxDailyPrice.value
  discount : policy.minDiscountMultiplier.value ≤ 1
  surge : 1 ≤ policy.maxSurgeMultiplier.value
  low_nonneg : 0 ≤ policy.utilizationThresholdLow
  thresholds : policy.utilizationThresholdLow < policy.utilizationThresholdHigh
  high_le : policy.utilizationThresholdHigh ≤ 1

/-- No divisor is zero, and the rate is within the prices and, up to rounding, within the multiplier
bounds around the base rate. -/
structure PriceWithinBounds (policy : DynamicPricingPolicy) (baseDailyRate : ℚ)
    (signals : DemandSignals) (utilizationRate : ℚ) : Prop where
  divisors : ∀ divisor ∈ baseDailyRate :: utilizationDivisors policy.utilizationThresholdHigh
    policy.utilizationThresholdLow utilizationRate, divisor ≠ 0
  rate : ∃ rate, (evaluateAt (some policy) baseDailyRate signals
      utilizationRate).effectiveDailyRate = finite rate ∧
    policy.minDailyPrice.value ≤ rate ∧ rate ≤ policy.maxDailyPrice.value ∧
      baseDailyRate * policy.minDiscountMultiplier.value - 1 / 200 ≤ rate ∧
        rate ≤ baseDailyRate * policy.maxSurgeMultiplier.value + 1 / 200

/-- The rate at a lower use of the fleet is no higher. -/
def RateRises (policy : DynamicPricingPolicy) (baseDailyRate : ℚ) (signals : DemandSignals)
    (utilizationRate utilizationRate' : ℚ) : Prop :=
  ∀ rate rate',
    (evaluateAt (some policy) baseDailyRate signals utilizationRate).effectiveDailyRate =
        finite rate →
      (evaluateAt (some policy) baseDailyRate signals utilizationRate').effectiveDailyRate =
          finite rate' → rate ≤ rate'

/-- Not every car is booked under an upper threshold of 1, nor none under a lower one of 0. -/
structure GapsOpen (policy : DynamicPricingPolicy) (utilizationRate : ℚ) : Prop where
  high : ¬ (policy.utilizationThresholdHigh = 1 ∧ utilizationRate = 1)
  low : ¬ (policy.utilizationThresholdLow = 0 ∧ utilizationRate = 0)

/-! ## The factor for the use of the fleet -/

section Factor

variable {thresholdHigh thresholdLow utilizationRate utilizationRate' : ℚ}

def utilizationFactor (thresholdHigh thresholdLow utilizationRate : ℚ) : ℚ :=
  if thresholdHigh ≤ utilizationRate then
    1 + min 0.35 ((utilizationRate - thresholdHigh) / (1 - thresholdHigh) * 0.30 + 0.05)
  else if utilizationRate ≤ thresholdLow then
    1 - min 0.20 ((thresholdLow - utilizationRate) / thresholdLow * 0.15 + 0.05)
  else 1

theorem utilizationMultiplier_eq
    (h : ∀ divisor ∈ utilizationDivisors thresholdHigh thresholdLow utilizationRate,
      divisor ≠ 0) :
    utilizationMultiplier thresholdHigh thresholdLow utilizationRate =
      finite (utilizationFactor thresholdHigh thresholdLow utilizationRate) := by
  unfold utilizationDivisors at h
  unfold utilizationMultiplier utilizationFactor
  split
  next hhigh =>
    rw [if_pos hhigh] at h
    simp only [finite_div (h _ List.mem_cons_self), finite_mul, finite_add, mathMin_finite]
  next hhigh =>
    rw [if_neg hhigh] at h
    split
    next hlow =>
      rw [if_pos hlow] at h
      simp only [finite_div (h _ List.mem_cons_self), finite_mul, finite_add, mathMin_finite,
        finite_sub]
    next => rfl

theorem utilizationMultiplier_eq_nan (hthresholds : thresholdLow < thresholdHigh)
    (h : thresholdHigh = 1 ∧ utilizationRate = 1 ∨ thresholdLow = 0 ∧ utilizationRate = 0) :
    utilizationMultiplier thresholdHigh thresholdLow utilizationRate = nan := by
  unfold utilizationMultiplier
  rcases h with ⟨rfl, rfl⟩ | ⟨rfl, rfl⟩
  · rw [if_pos (le_refl 1), sub_self, div_zero_self]
    rfl
  · rw [if_neg (not_le.mpr hthresholds), if_pos (le_refl 0), sub_self, div_zero_self]
    rfl

theorem utilizationDivisors_ne_zero (hhigh : thresholdHigh ≤ 1) (hnonneg : 0 ≤ utilizationRate)
    (hle : utilizationRate ≤ 1) (hopen : ¬ (thresholdHigh = 1 ∧ utilizationRate = 1))
    (hopen' : ¬ (thresholdLow = 0 ∧ utilizationRate = 0)) {divisor : ℚ}
    (h : divisor ∈ utilizationDivisors thresholdHigh thresholdLow utilizationRate) :
    divisor ≠ 0 := by
  unfold utilizationDivisors at h
  rintro rfl
  split at h
  next hreached =>
    have hone : (1 : ℚ) - thresholdHigh = 0 := (List.mem_singleton.mp h).symm
    exact hopen ⟨by linarith, by linarith⟩
  next =>
    split at h
    next hreached =>
      have hzero : thresholdLow = 0 := (List.mem_singleton.mp h).symm
      exact hopen' ⟨hzero, by linarith⟩
    next => cases h

/-! ### It does not fall -/

theorem one_le_utilizationFactor (hhigh : thresholdHigh ≤ 1) (h : thresholdHigh ≤ utilizationRate) :
    1 ≤ utilizationFactor thresholdHigh thresholdLow utilizationRate := by
  have hexcess : 0 ≤ (utilizationRate - thresholdHigh) / (1 - thresholdHigh) :=
    div_nonneg (by linarith) (by linarith)
  have hmin : 0 ≤ min (0.35 : ℚ)
      ((utilizationRate - thresholdHigh) / (1 - thresholdHigh) * 0.30 + 0.05) :=
    le_min (by norm_num) (by linarith)
  rw [utilizationFactor, if_pos h]
  linarith

theorem utilizationFactor_le_one (hlow : 0 ≤ thresholdLow)
    (h : ¬ thresholdHigh ≤ utilizationRate) :
    utilizationFactor thresholdHigh thresholdLow utilizationRate ≤ 1 := by
  rw [utilizationFactor, if_neg h]
  split
  next hreached =>
    have hdeficit : 0 ≤ (thresholdLow - utilizationRate) / thresholdLow :=
      div_nonneg (by linarith) hlow
    have hmin : 0 ≤ min (0.20 : ℚ)
        ((thresholdLow - utilizationRate) / thresholdLow * 0.15 + 0.05) :=
      le_min (by norm_num) (by linarith)
    linarith
  next => exact le_refl 1

theorem utilizationFactor_mono (hhigh : thresholdHigh ≤ 1) (hlow : 0 ≤ thresholdLow)
    (h : utilizationRate ≤ utilizationRate') :
    utilizationFactor thresholdHigh thresholdLow utilizationRate ≤
      utilizationFactor thresholdHigh thresholdLow utilizationRate' := by
  by_cases hreached' : thresholdHigh ≤ utilizationRate'
  · by_cases hreached : thresholdHigh ≤ utilizationRate
    · have hexcess : (utilizationRate - thresholdHigh) / (1 - thresholdHigh) ≤
          (utilizationRate' - thresholdHigh) / (1 - thresholdHigh) :=
        div_le_div_of_nonneg_right (by linarith) (by linarith)
      have hmin := min_le_min_left (0.35 : ℚ) (by linarith :
        (utilizationRate - thresholdHigh) / (1 - thresholdHigh) * 0.30 + 0.05 ≤
          (utilizationRate' - thresholdHigh) / (1 - thresholdHigh) * 0.30 + 0.05)
      rw [utilizationFactor, if_pos hreached, utilizationFactor, if_pos hreached']
      linarith
    · exact (utilizationFactor_le_one hlow hreached).trans
        (one_le_utilizationFactor hhigh hreached')
  · have hreached : ¬ thresholdHigh ≤ utilizationRate := fun hle => hreached' (hle.trans h)
    by_cases hbelow' : utilizationRate' ≤ thresholdLow
    · have hdeficit : (thresholdLow - utilizationRate') / thresholdLow ≤
          (thresholdLow - utilizationRate) / thresholdLow :=
        div_le_div_of_nonneg_right (by linarith) hlow
      have hmin := min_le_min_left (0.20 : ℚ) (by linarith :
        (thresholdLow - utilizationRate') / thresholdLow * 0.15 + 0.05 ≤
          (thresholdLow - utilizationRate) / thresholdLow * 0.15 + 0.05)
      rw [utilizationFactor, if_neg hreached, if_pos (h.trans hbelow'), utilizationFactor,
        if_neg hreached', if_pos hbelow']
      linarith
    · have hone : utilizationFactor thresholdHigh thresholdLow utilizationRate' = 1 := by
        rw [utilizationFactor, if_neg hreached', if_neg hbelow']
      rw [hone]
      exact utilizationFactor_le_one hlow hreached

end Factor

/-! ## Clamps -/

def boundedMultiplier (bounds : PolicyBounds) (rawMultiplier : ℚ) : ℚ :=
  max bounds.minDiscountMultiplier (min bounds.maxSurgeMultiplier rawMultiplier)

def boundedRate (bounds : PolicyBounds) (baseDailyRate rawMultiplier : ℚ) : ℚ :=
  max bounds.minDailyPrice (min bounds.maxDailyPrice
    (round (baseDailyRate * boundedMultiplier bounds rawMultiplier * 100) / 100))

section Clamps

variable {bounds : PolicyBounds} {baseDailyRate rawMultiplier rawMultiplier' : ℚ}

theorem clampMultiplier_finite
    (h : bounds.minDiscountMultiplier ≤ bounds.maxSurgeMultiplier) :
    (clampMultiplier bounds (finite rawMultiplier)).1 =
      finite (boundedMultiplier bounds rawMultiplier) := by
  unfold clampMultiplier boundedMultiplier
  exact clamp_finite h

theorem roundCents_finite (x : ℚ) : roundCents (finite x) = finite (round (x * 100) / 100) := by
  rw [roundCents, finite_mul, mathRound_finite, finite_div (by norm_num)]

theorem clampRate_finite {rate : ℚ} {multiplier : JsNumber} {reason : Option ClampReason}
    (h : bounds.minDailyPrice ≤ bounds.maxDailyPrice) :
    (clampRate bounds baseDailyRate (finite rate) multiplier reason).1 =
      finite (max bounds.minDailyPrice (min bounds.maxDailyPrice rate)) := by
  unfold clampRate
  exact clamp_finite h

theorem boundedRate_mono (hbase : 0 ≤ baseDailyRate) (h : rawMultiplier ≤ rawMultiplier') :
    boundedRate bounds baseDailyRate rawMultiplier ≤
      boundedRate bounds baseDailyRate rawMultiplier' := by
  have hmultiplier : boundedMultiplier bounds rawMultiplier ≤
      boundedMultiplier bounds rawMultiplier' :=
    max_le_max_left _ (min_le_min_left _ h)
  have hround : round (baseDailyRate * boundedMultiplier bounds rawMultiplier * 100) ≤
      round (baseDailyRate * boundedMultiplier bounds rawMultiplier' * 100) :=
    round_mono (by gcongr)
  have hcast : (round (baseDailyRate * boundedMultiplier bounds rawMultiplier * 100) : ℚ) ≤
      round (baseDailyRate * boundedMultiplier bounds rawMultiplier' * 100) := by
    exact_mod_cast hround
  exact max_le_max_left _ (min_le_min_left _ (by linarith))

theorem abs_round_cents_le (x : ℚ) : |(round (x * 100) : ℚ) / 100 - x| ≤ 1 / 200 := by
  have hround := abs_sub_round (x * 100)
  rw [abs_sub_comm] at hround
  calc |(round (x * 100) : ℚ) / 100 - x|
      = |((round (x * 100) : ℚ) - x * 100) / 100| := by congr 1; ring
    _ = |(round (x * 100) : ℚ) - x * 100| / 100 := by
      rw [abs_div, abs_of_pos (by norm_num : (0 : ℚ) < 100)]
    _ ≤ 1 / 2 / 100 := by gcongr
    _ = 1 / 200 := by norm_num

theorem boundedRate_bounds (hbase : 0 ≤ baseDailyRate) (hmin : bounds.minDailyPrice ≤ baseDailyRate)
    (hmax : baseDailyRate ≤ bounds.maxDailyPrice) (hdiscount : bounds.minDiscountMultiplier ≤ 1)
    (hsurge : 1 ≤ bounds.maxSurgeMultiplier) :
    baseDailyRate * bounds.minDiscountMultiplier - 1 / 200 ≤
        boundedRate bounds baseDailyRate rawMultiplier ∧
      boundedRate bounds baseDailyRate rawMultiplier ≤
        baseDailyRate * bounds.maxSurgeMultiplier + 1 / 200 := by
  have hlow : bounds.minDiscountMultiplier ≤ boundedMultiplier bounds rawMultiplier :=
    le_max_left _ _
  have hhigh : boundedMultiplier bounds rawMultiplier ≤ bounds.maxSurgeMultiplier :=
    max_le (hdiscount.trans hsurge) (min_le_left _ _)
  have hrounded := abs_le.mp
    (abs_round_cents_le (baseDailyRate * boundedMultiplier bounds rawMultiplier))
  have hlowRate := mul_le_mul_of_nonneg_left hlow hbase
  have hhighRate := mul_le_mul_of_nonneg_left hhigh hbase
  have hbelow := mul_le_mul_of_nonneg_left hdiscount hbase
  have habove := mul_le_mul_of_nonneg_left hsurge hbase
  rw [mul_one] at hbelow habove
  unfold boundedRate
  constructor
  · exact le_max_of_le_right (le_min (by linarith) (by linarith [hrounded.1]))
  · exact max_le (by linarith) ((min_le_right _ _).trans (by linarith [hrounded.2]))

end Clamps

/-! ## The rate -/

section Rate

variable {policy : DynamicPricingPolicy} {baseDailyRate utilizationRate utilizationRate' : ℚ}
  {signals : DemandSignals}

theorem factor_pos (signals : DemandSignals) (baseDailyRate : ℚ) :
    0 < signals.factor baseDailyRate := by
  have hlead : 0 < leadTimeMultiplier signals.leadTimeDays := by
    unfold leadTimeMultiplier
    split_ifs <;> norm_num
  have hvelocity : 0 < calculateVelocityMultiplier signals.recentCount := by
    unfold calculateVelocityMultiplier
    split_ifs <;> norm_num
  have hcompetitor : 0 < competitorMultiplier baseDailyRate signals.medianPrice := by
    unfold competitorMultiplier
    cases signals.medianPrice with
    | none => norm_num
    | some medianPrice => dsimp only; split_ifs <;> norm_num
  exact mul_pos (mul_pos hlead hvelocity) hcompetitor

theorem effectiveDailyRate_eq (hpolicy : policy.Sensible)
    (h : ∀ divisor ∈ utilizationDivisors policy.utilizationThresholdHigh
      policy.utilizationThresholdLow utilizationRate, divisor ≠ 0) :
    (evaluateAt (some policy) baseDailyRate signals utilizationRate).effectiveDailyRate =
      finite (boundedRate (policyBounds (some policy) baseDailyRate) baseDailyRate
        (utilizationFactor policy.utilizationThresholdHigh policy.utilizationThresholdLow
          utilizationRate * signals.factor baseDailyRate)) := by
  have hutil := utilizationMultiplier_eq h
  have hraw : utilizationMultiplier (thresholdHigh (some policy)) (thresholdLow (some policy))
      utilizationRate * finite (leadTimeMultiplier signals.leadTimeDays) *
        finite (calculateVelocityMultiplier signals.recentCount) *
          finite (competitorMultiplier baseDailyRate signals.medianPrice) =
      finite (utilizationFactor policy.utilizationThresholdHigh policy.utilizationThresholdLow
        utilizationRate * signals.factor baseDailyRate) := by
    rw [thresholdHigh, thresholdLow, Option.elim_some, Option.elim_some, hutil, finite_mul,
      finite_mul, finite_mul, DemandSignals.factor, mul_assoc, mul_assoc, mul_assoc]
  have hbounds : (policyBounds (some policy) baseDailyRate).minDiscountMultiplier ≤
      (policyBounds (some policy) baseDailyRate).maxSurgeMultiplier :=
    hpolicy.discount.trans hpolicy.surge
  simp only [evaluateAt]
  rw [hraw, clampMultiplier_finite hbounds, finite_mul, roundCents_finite,
    clampRate_finite hpolicy.prices]
  rfl

theorem effectiveDailyRate_eq_nan (hpolicy : policy.Sensible)
    (h : policy.utilizationThresholdHigh = 1 ∧ utilizationRate = 1 ∨
      policy.utilizationThresholdLow = 0 ∧ utilizationRate = 0) :
    (evaluateAt (some policy) baseDailyRate signals utilizationRate).effectiveDailyRate = nan := by
  have hutil := utilizationMultiplier_eq_nan hpolicy.thresholds h
  have hclamped : clampMultiplier (policyBounds (some policy) baseDailyRate) nan = (nan, none) := by
    simp [clampMultiplier]
  have hrounded : roundCents nan = nan := by simp [roundCents]
  simp only [evaluateAt, thresholdHigh, thresholdLow, Option.elim_some, hutil, nan_mul, hclamped,
    mul_nan, hrounded]
  simp [clampRate]

/-- **Demand-aware prices.**  For every sensible policy, every base rate within its prices, whatever
the other signals, and any two uses of the fleet, the one no lower than the other: no divisor is
zero, the rates are within the bounds and do not fall, exactly when at neither of them an upper
threshold of 1 is met by a full fleet, or a lower threshold of 0 by an idle one. -/
theorem demand_price_iff (hpolicy : policy.Sensible)
    (hmin : policy.minDailyPrice.value ≤ baseDailyRate)
    (hmax : baseDailyRate ≤ policy.maxDailyPrice.value) (hnonneg : 0 ≤ utilizationRate)
    (hle : utilizationRate ≤ utilizationRate') (hone : utilizationRate' ≤ 1) :
    (PriceWithinBounds policy baseDailyRate signals utilizationRate ∧
      PriceWithinBounds policy baseDailyRate signals utilizationRate' ∧
        RateRises policy baseDailyRate signals utilizationRate utilizationRate') ↔
      GapsOpen policy utilizationRate ∧ GapsOpen policy utilizationRate' := by
  have hbase : 0 < baseDailyRate := hpolicy.minDailyPrice_pos.trans_le hmin
  have hwithin : ∀ u, 0 ≤ u → u ≤ 1 →
      (PriceWithinBounds policy baseDailyRate signals u ↔ GapsOpen policy u) := by
    intro u hu hu'
    constructor
    · intro hlaw
      by_contra hclosed
      have hends : policy.utilizationThresholdHigh = 1 ∧ u = 1 ∨
          policy.utilizationThresholdLow = 0 ∧ u = 0 := by
        by_contra hnone
        exact hclosed ⟨fun h => hnone (.inl h), fun h => hnone (.inr h)⟩
      obtain ⟨rate, hrate, -⟩ := hlaw.rate
      rw [effectiveDailyRate_eq_nan hpolicy hends] at hrate
      cases hrate
    · intro hopen
      have hdivisors : ∀ divisor ∈ utilizationDivisors policy.utilizationThresholdHigh
          policy.utilizationThresholdLow u, divisor ≠ 0 := fun divisor hdivisor =>
        utilizationDivisors_ne_zero hpolicy.high_le hu hu' hopen.high hopen.low hdivisor
      obtain ⟨hlower, hupper⟩ : baseDailyRate * policy.minDiscountMultiplier.value - 1 / 200 ≤ _ ∧
          _ ≤ baseDailyRate * policy.maxSurgeMultiplier.value + 1 / 200 :=
        @boundedRate_bounds (policyBounds (some policy) baseDailyRate) baseDailyRate
          (utilizationFactor policy.utilizationThresholdHigh policy.utilizationThresholdLow u *
            signals.factor baseDailyRate) hbase.le hmin hmax hpolicy.discount hpolicy.surge
      refine ⟨fun divisor hdivisor => ?_, _, effectiveDailyRate_eq hpolicy hdivisors,
        le_max_left _ _, max_le hpolicy.prices (min_le_left _ _), hlower, hupper⟩
      rcases List.mem_cons.mp hdivisor with rfl | hdivisor
      · exact hbase.ne'
      · exact hdivisors divisor hdivisor
  rw [hwithin _ hnonneg (hle.trans hone), hwithin _ (hnonneg.trans hle) hone]
  constructor
  · rintro ⟨hopen, hopen', -⟩
    exact ⟨hopen, hopen'⟩
  · rintro ⟨hopen, hopen'⟩
    refine ⟨hopen, hopen', fun rate rate' hrate hrate' => ?_⟩
    rw [effectiveDailyRate_eq hpolicy fun divisor hdivisor => utilizationDivisors_ne_zero
      hpolicy.high_le hnonneg (hle.trans hone) hopen.high hopen.low hdivisor,
      JsNumber.finite.injEq] at hrate
    rw [effectiveDailyRate_eq hpolicy fun divisor hdivisor => utilizationDivisors_ne_zero
      hpolicy.high_le (hnonneg.trans hle) hone hopen'.high hopen'.low hdivisor,
      JsNumber.finite.injEq] at hrate'
    rw [← hrate, ← hrate']
    apply boundedRate_mono hbase.le
    exact mul_le_mul_of_nonneg_right
      (utilizationFactor_mono hpolicy.high_le hpolicy.low_nonneg hle)
      (factor_pos signals baseDailyRate).le

end Rate

/-! ## A policy for hatchbacks -/

/-- From 900.00 to 2500.00 a day. -/
def hatchbackPolicy (utilizationThresholdHigh utilizationThresholdLow : ℚ) :
    DynamicPricingPolicy where
  scope := .platform
  vendorId := none
  branchId := none
  vehicleClass := some .hatchback
  minDailyPrice := ⟨90000, by decide⟩
  maxDailyPrice := ⟨250000, by decide⟩
  maxSurgeMultiplier := ⟨150, by decide⟩
  minDiscountMultiplier := ⟨80, by decide⟩
  utilizationThresholdHigh
  utilizationThresholdLow
  isActive := true

def quietSignals : DemandSignals := ⟨7, 0, none⟩

/-- At half and at nine tenths of the fleet, with the default thresholds. -/
theorem hatchback_price_within_bounds :
    PriceWithinBounds (hatchbackPolicy 0.85 0.30) 1500 quietSignals 0.5 ∧
      PriceWithinBounds (hatchbackPolicy 0.85 0.30) 1500 quietSignals 0.9 ∧
        RateRises (hatchbackPolicy 0.85 0.30) 1500 quietSignals 0.5 0.9 := by
  have hpolicy : (hatchbackPolicy 0.85 0.30).Sensible :=
    ⟨by decide +kernel, by decide +kernel, by decide +kernel, by decide +kernel, by decide +kernel,
      by decide +kernel, by decide +kernel⟩
  exact (demand_price_iff hpolicy (by decide +kernel) (by decide +kernel) (by norm_num)
    (by norm_num) (by norm_num)).mpr
      ⟨⟨by decide +kernel, by decide +kernel⟩, ⟨by decide +kernel, by decide +kernel⟩⟩

def hatchbackDemand : DynamicPricingEvaluationContext where
  vendorId := none
  branchId := none
  vehicleClass := .hatchback
  city := none
  startDate := 1773133200000
  baseDailyRate := 1500

/-- With an upper threshold of 1 and both of two cars booked the rate is not a number. -/
theorem full_fleet_has_no_rate :
    (evaluatePrice ⟨[hatchbackPolicy 1 0.30], 2, 2, 0, none⟩ 1772528400000
      hatchbackDemand).effectiveDailyRate = .nan ∧
      (hatchbackPolicy 1 0.30).Sensible ∧
      ¬ PriceWithinBounds (hatchbackPolicy 1 0.30) 1500 quietSignals 1 := by
  have hpolicy : (hatchbackPolicy 1 0.30).Sensible :=
    ⟨by decide +kernel, by decide +kernel, by decide +kernel, by decide +kernel, by decide +kernel,
      by decide +kernel, by decide +kernel⟩
  refine ⟨by decide +kernel, hpolicy, fun hlaw => ?_⟩
  obtain ⟨rate, hrate, -⟩ := hlaw.rate
  rw [effectiveDailyRate_eq_nan hpolicy (.inl ⟨rfl, rfl⟩)] at hrate
  cases hrate

end CarRental
