import CarRental.Fleet.VehicleSubstitution
import CarRental.Pricing.QuotedFare
import CarRental.Text

/-!
# Resolved rental prices

`RentalPricingResolutionService.resolvePricing`: the rules that match a rental override its rates,
the less specific ones first; the amounts are computed from the rates, and each is put on a line of
the breakdown under a condition of its own.

The numbers are JavaScript numbers, taken to be exact.  The display texts of the lines are left out,
as nothing reads them.
-/

namespace CarRental

/-! ## Rules -/

inductive PricingRuleScope where
  | platform
  | vendor
  | branch
  | vehicleClass
deriving DecidableEq, Repr

def PricingRuleScope.rank : PricingRuleScope → ℕ
  | .platform => 1
  | .vendor => 2
  | .branch => 3
  | .vehicleClass => 4

/-- A row of the pricing rules; a rate that is not set is left as it is. -/
structure RentalPricingRule where
  id : Id
  name : String
  scope : PricingRuleScope
  vendorId : Option Id
  branchId : Option Id
  vehicleClass : Option CarCategory
  carId : Option Id
  hourlyRateMultiplier : Option (Column 5)
  dailyRate : Option Money
  weeklyDiscountPct : Option ℚ
  monthlyDiscountPct : Option ℚ
  weekendMultiplier : Option (Column 5)
  peakSeasonMultiplier : Option (Column 5)
  holidayMultiplier : Option (Column 5)
  extraKmRate : Option Money
  lateReturnHourlyFee : Option Money
  securityDepositAmount : Option Money
  convenienceFee : Option Money
  oneWayBaseFee : Option Money
  isActive : Bool
  priority : ℤ
  effectiveFrom : Option ℤ
  effectiveTo : Option ℤ

/-- What is to be rented; an interval's date that is no date is `none`. -/
structure PricingResolutionContext where
  vendorId : Id
  branchId : Option Id
  returnBranchId : Option Id
  vehicleClass : CarCategory
  carId : Option Id
  startDate : Option ℤ
  endDate : Option ℤ
  tripType : TripType
  couponDiscountAmount : Option ℚ
  deliveryFee : Option ℚ
  pickupFee : Option ℚ
  returnFee : Option ℚ

/-- The rules and the cars. -/
structure RentalPricingTables where
  rules : List RentalPricingRule
  cars : Id → Option PricedCar

/-- The `OR` of `fetchActiveHierarchyRules`. -/
def RentalPricingRule.Matches (r : RentalPricingRule) (ctx : PricingResolutionContext) : Prop :=
  r.scope = .platform ∨
    ctx.vendorId ≠ "" ∧ r.scope = .vendor ∧ r.vendorId = some ctx.vendorId ∨
    given ctx.branchId ≠ none ∧ r.scope = .branch ∧ r.branchId = ctx.branchId ∨
    r.scope = .vehicleClass ∧ r.vehicleClass = some ctx.vehicleClass ∨
    given ctx.carId ≠ none ∧ r.carId = ctx.carId

instance (r : RentalPricingRule) (ctx : PricingResolutionContext) : Decidable (r.Matches ctx) :=
  inferInstanceAs (Decidable (_ ∨ _))

def fetchActiveHierarchyRules (tables : RentalPricingTables) (now : ℤ)
    (ctx : PricingResolutionContext) : List RentalPricingRule :=
  (tables.rules.filter fun r => r.isActive ∧ r.Matches ctx ∧
    r.effectiveFrom.all (· ≤ now) ∧ r.effectiveTo.all (now ≤ ·)).mergeSort
      fun a b => b.priority ≤ a.priority

/-- By scope, and in a scope by priority. -/
def sortedRules (rules : List RentalPricingRule) : List RentalPricingRule :=
  rules.mergeSort fun a b =>
    a.scope.rank < b.scope.rank ∨ a.scope.rank = b.scope.rank ∧ a.priority ≤ b.priority

/-! ## Rates -/

structure RentalRates where
  dailyRate : ℚ
  hourlyRate : ℚ
  weekendMultiplier : ℚ
  peakMultiplier : ℚ
  holidayMultiplier : ℚ
  weeklyDiscountPct : ℚ
  monthlyDiscountPct : ℚ
  extraKmRate : ℚ
  lateReturnHourlyFee : ℚ
  deposit : ℚ
  convenienceFee : ℚ
  oneWayBaseFee : ℚ
deriving DecidableEq

def getDefaultDailyRateForClass : CarCategory → ℚ
  | .hatchback => 1499
  | .sedan => 2299
  | .suv => 3499
  | .luxury => 7999
  | .tempoTraveller => 5499
  | .miniBus => 8999

/-- The rates without any rule. -/
def defaultRates (car : Option PricedCar) (vehicleClass : CarCategory) : RentalRates :=
  let defaultDailyRate := car.elim (getDefaultDailyRateForClass vehicleClass) (·.pricePerDay.value)
  let defaultHourlyRate : ℚ :=
    car.elim (round (defaultDailyRate / 8) : ℤ) (·.pricePerHour.value)
  { dailyRate := defaultDailyRate
    hourlyRate := defaultHourlyRate
    weekendMultiplier := 1
    peakMultiplier := 1
    holidayMultiplier := 1
    weeklyDiscountPct := car.elim 0 (·.weeklyDiscountPercent)
    monthlyDiscountPct := car.elim 0 (·.monthlyDiscountPercent)
    extraKmRate := car.elim 12 (·.pricePerKm.value)
    lateReturnHourlyFee := (round (defaultHourlyRate * 1.5) : ℤ)
    deposit := 3000
    convenienceFee := 150
    oneWayBaseFee := 500 }

/-- A rule sets the rates that it has; a rate of zero is set as well. -/
def RentalRates.override (rates : RentalRates) (r : RentalPricingRule) : RentalRates :=
  let dailyRate := r.dailyRate.elim rates.dailyRate Column.value
  { dailyRate
    hourlyRate := r.hourlyRateMultiplier.elim rates.hourlyRate fun multiplier =>
      (round (dailyRate * multiplier.value) : ℤ)
    weekendMultiplier := r.weekendMultiplier.elim rates.weekendMultiplier Column.value
    peakMultiplier := r.peakSeasonMultiplier.elim rates.peakMultiplier Column.value
    holidayMultiplier := r.holidayMultiplier.elim rates.holidayMultiplier Column.value
    weeklyDiscountPct := r.weeklyDiscountPct.getD rates.weeklyDiscountPct
    monthlyDiscountPct := r.monthlyDiscountPct.getD rates.monthlyDiscountPct
    extraKmRate := r.extraKmRate.elim rates.extraKmRate Column.value
    lateReturnHourlyFee := r.lateReturnHourlyFee.elim rates.lateReturnHourlyFee Column.value
    deposit := r.securityDepositAmount.elim rates.deposit Column.value
    convenienceFee := r.convenienceFee.elim rates.convenienceFee Column.value
    oneWayBaseFee := r.oneWayBaseFee.elim rates.oneWayBaseFee Column.value }

def resolveRates (car : Option PricedCar) (vehicleClass : CarCategory)
    (rules : List RentalPricingRule) : RentalRates :=
  rules.foldl RentalRates.override (defaultRates car vehicleClass)

/-! ## The calendar -/

/-- Dates in the time zone of the server. -/
structure LocalCalendar where
  getDay : ℤ → ℕ
  getMonth : ℤ → ℕ
  /-- The same time on the next day. -/
  nextDay : ℤ → ℤ
  lt_nextDay : ∀ current, current < nextDay current

/-- The month of a day since the start of 1970, from zero on. -/
def monthOfDay (day : ℤ) : ℕ :=
  -- counted from March on in eras of 400 years, so that a leap day is the last day of its year
  let dayOfEra := (day + 719468) % 146097
  let year := (dayOfEra - dayOfEra / 1460 + dayOfEra / 36524 - dayOfEra / 146096) / 365
  let dayOfYear := dayOfEra - (365 * year + year / 4 - year / 100)
  ((5 * dayOfYear + 2) / 153 + 2).toNat % 12

/-- A server in UTC; the first day of 1970 was a Thursday. -/
def utcDays : LocalCalendar where
  getDay current := ((current / 86400000 + 4) % 7).toNat
  getMonth current := monthOfDay (current / 86400000)
  nextDay current := current + 86400000
  lt_nextDay _ := by omega

/-- December, January, May and June. -/
def peakMonths : List ℕ := [0, 4, 5, 11]

/-- The loop of `calculateCalendarFactors`, with the counts so far. -/
def countDays (calendar : LocalCalendar) (current endDate : ℤ) (weekendDays peakDays : ℕ) :
    ℕ × ℕ :=
  if current < endDate then
    countDays calendar (calendar.nextDay current) endDate
      (if calendar.getDay current = 0 ∨ calendar.getDay current = 6 then weekendDays + 1
        else weekendDays)
      (if calendar.getMonth current ∈ peakMonths then peakDays + 1 else peakDays)
  else (weekendDays, peakDays)
termination_by (endDate - current).toNat
decreasing_by
  have := calendar.lt_nextDay current
  omega

def calculateCalendarFactors (calendar : LocalCalendar) (startDate endDate : ℤ) : ℕ × ℕ :=
  countDays calendar startDate endDate 0 0

/-! ## Amounts -/

inductive BillingBasis where
  | hourly
  | daily
deriving DecidableEq, Repr

/-- What the amounts of a rental are computed from. -/
structure RentalTerms where
  ctx : PricingResolutionContext
  rates : RentalRates
  totalHours : ℕ
  totalDays : ℕ
  weekendDays : ℕ
  peakDays : ℕ

inductive PricingCategory where
  | base
  | multiplier
  | fee
  | tax
  | discount
  | deposit
deriving DecidableEq, Repr

structure PricingBreakdownItem where
  code : String
  category : PricingCategory
  rate : ℚ
  quantity : ℚ
  amount : ℚ
  isRefundable : Bool
deriving DecidableEq

namespace RentalTerms

variable (terms : RentalTerms)

def billingBasis : BillingBasis :=
  if (terms.ctx.tripType = .localTrip ∨ terms.ctx.tripType = .airportTransfer) ∧
      terms.totalHours < 24 then .hourly
  else .daily

def baseFare : ℤ :=
  match terms.billingBasis with
  | .hourly => round (terms.rates.hourlyRate * terms.totalHours)
  | .daily => round (terms.rates.dailyRate * terms.totalDays)

def dailyRatePortion : ℚ :=
  match terms.billingBasis with
  | .hourly => terms.rates.hourlyRate * 8
  | .daily => terms.rates.dailyRate

def surcharge (multiplier : ℚ) (days : ℕ) : ℤ :=
  if 0 < days ∧ 1 < multiplier then
    round (terms.dailyRatePortion * (multiplier - 1) * days)
  else 0

def weekendSurcharge : ℤ := terms.surcharge terms.rates.weekendMultiplier terms.weekendDays

def maxMultiplier : ℚ := max terms.rates.peakMultiplier terms.rates.holidayMultiplier

def peakSurcharge : ℤ := terms.surcharge terms.maxMultiplier terms.peakDays

def durationDiscountLine : Option (String × ℚ) :=
  if 30 ≤ terms.totalDays ∧ 0 < terms.rates.monthlyDiscountPct then
    some ("MONTHLY_DURATION_DISCOUNT", terms.rates.monthlyDiscountPct)
  else if 7 ≤ terms.totalDays ∧ 0 < terms.rates.weeklyDiscountPct then
    some ("WEEKLY_DURATION_DISCOUNT", terms.rates.weeklyDiscountPct)
  else none

def durationDiscount : ℤ :=
  terms.durationDiscountLine.elim 0 fun line => round (terms.baseFare * (line.2 / 100))

def couponDiscount : ℚ := max 0 (terms.ctx.couponDiscountAmount.getD 0)

def OneWay : Prop :=
  given terms.ctx.branchId ≠ none ∧ given terms.ctx.returnBranchId ≠ none ∧
    terms.ctx.branchId ≠ terms.ctx.returnBranchId

instance : Decidable terms.OneWay := inferInstanceAs (Decidable (_ ∧ _ ∧ _))

def oneWayFee : ℚ := if terms.OneWay then terms.rates.oneWayBaseFee else 0

def pickupFee : ℚ := terms.ctx.pickupFee.getD 0

def returnFee : ℚ := terms.ctx.returnFee.getD 0

def deliveryFee : ℚ := terms.ctx.deliveryFee.getD 0

def subtotal : ℤ := max 0 (terms.baseFare + terms.weekendSurcharge + terms.peakSurcharge)

def totalDiscounts : ℚ := terms.durationDiscount + terms.couponDiscount

def totalFees : ℚ :=
  terms.rates.convenienceFee + terms.oneWayFee + terms.pickupFee + terms.returnFee +
    terms.deliveryFee

def taxableAmount : ℚ := max 0 (terms.subtotal - terms.totalDiscounts + terms.totalFees)

def taxTotal : ℤ := round (terms.taxableAmount * 0.18)

def totalPayable : ℚ := terms.taxableAmount + terms.taxTotal + terms.rates.deposit

def netToVendor : ℤ := round ((terms.subtotal - terms.totalDiscounts) * 0.85)

/-! ## Lines -/

def baseLine : PricingBreakdownItem :=
  match terms.billingBasis with
  | .hourly => ⟨"BASE_FARE_HOURLY", .base, terms.rates.hourlyRate, terms.totalHours,
      terms.baseFare, false⟩
  | .daily => ⟨"BASE_FARE_DAILY", .base, terms.rates.dailyRate, terms.totalDays,
      terms.baseFare, false⟩

/-- A line that is left out when its amount is not positive. -/
def positiveLine (item : PricingBreakdownItem) : List PricingBreakdownItem :=
  if 0 < item.amount then [item] else []

def lineItems : List PricingBreakdownItem :=
  [terms.baseLine] ++
  positiveLine ⟨"WEEKEND_SURCHARGE", .multiplier,
    Rounding.toScale 2 (terms.rates.weekendMultiplier - 1), terms.weekendDays,
    terms.weekendSurcharge, false⟩ ++
  positiveLine ⟨"SEASONAL_PEAK_SURCHARGE", .multiplier,
    Rounding.toScale 2 (terms.maxMultiplier - 1), terms.peakDays, terms.peakSurcharge, false⟩ ++
  (terms.durationDiscountLine.toList.map fun line =>
    ⟨line.1, .discount, line.2, 1, -terms.durationDiscount, false⟩) ++
  (if 0 < terms.couponDiscount then
    [⟨"COUPON_PROMOTIONAL_DISCOUNT", .discount, terms.couponDiscount, 1, -terms.couponDiscount,
      false⟩]
   else []) ++
  (if terms.OneWay then
    [⟨"ONE_WAY_RELOCATION_FEE", .fee, terms.oneWayFee, 1, terms.oneWayFee, false⟩]
   else []) ++
  positiveLine ⟨"PLATFORM_CONVENIENCE_FEE", .fee, terms.rates.convenienceFee, 1,
    terms.rates.convenienceFee, false⟩ ++
  positiveLine ⟨"DOORSTEP_DELIVERY_FEE", .fee, terms.pickupFee, 1, terms.pickupFee, false⟩ ++
  positiveLine ⟨"DOORSTEP_COLLECTION_FEE", .fee, terms.returnFee, 1, terms.returnFee, false⟩ ++
  [⟨"GST_TAX_18", .tax, 18, 1, terms.taxTotal, false⟩] ++
  positiveLine ⟨"REFUNDABLE_SECURITY_DEPOSIT", .deposit, terms.rates.deposit, 1,
    terms.rates.deposit, true⟩

end RentalTerms

/-! ## The resolution -/

structure EffectivePricingResolution where
  resolvedScope : PricingRuleScope
  appliedRuleIds : List Id
  rulesAppliedSummary : List (Id × PricingRuleScope × String)
  totalHours : ℕ
  totalDays : ℕ
  billingBasis : BillingBasis
  weekendDays : ℕ
  holidayOrPeakDays : ℕ
  rates : RentalRates
  lineItems : List PricingBreakdownItem
  subtotal : ℚ
  discountTotal : ℚ
  feesTotal : ℚ
  taxTotal : ℚ
  depositTotal : ℚ
  totalPayable : ℚ
  netToVendor : ℚ

def rentalTerms (tables : RentalPricingTables) (calendar : LocalCalendar) (now : ℤ)
    (ctx : PricingResolutionContext) (startDate endDate : ℤ) : RentalTerms :=
  let durationMs : ℚ := (endDate - startDate : ℤ)
  let days := calculateCalendarFactors calendar startDate endDate
  { ctx
    rates := resolveRates ((given ctx.carId).bind tables.cars) ctx.vehicleClass
      (sortedRules (fetchActiveHierarchyRules tables now ctx))
    totalHours := max 1 ⌈durationMs / (1000 * 60 * 60)⌉₊
    totalDays := max 1 ⌈durationMs / (1000 * 60 * 60 * 24)⌉₊
    weekendDays := days.1
    peakDays := days.2 }

def resolvePricing (tables : RentalPricingTables) (calendar : LocalCalendar) (now : ℤ)
    (ctx : PricingResolutionContext) : Except HttpError EffectivePricingResolution :=
  match ctx.startDate, ctx.endDate with
  | some startDate, some endDate =>
    if endDate ≤ startDate then
      .error (.badRequest "Start date must be before end date.")
    else
      let rules := sortedRules (fetchActiveHierarchyRules tables now ctx)
      let terms := rentalTerms tables calendar now ctx startDate endDate
      .ok {
        resolvedScope := (rules.getLast?.map RentalPricingRule.scope).getD .platform
        appliedRuleIds := rules.map RentalPricingRule.id
        rulesAppliedSummary := rules.map fun r => (r.id, r.scope, r.name)
        totalHours := terms.totalHours
        totalDays := terms.totalDays
        billingBasis := terms.billingBasis
        weekendDays := terms.weekendDays
        holidayOrPeakDays := terms.peakDays
        rates := terms.rates
        lineItems := terms.lineItems
        subtotal := terms.subtotal
        discountTotal := terms.totalDiscounts
        feesTotal := terms.totalFees
        taxTotal := terms.taxTotal
        depositTotal := terms.rates.deposit
        totalPayable := terms.totalPayable
        netToVendor := terms.netToVendor }
  | _, _ => .error (.badRequest "Invalid start or end date format.")

end CarRental
