import CarRental.Bookings.CreateBooking
import CarRental.Bookings.FleetCalendar

/-!
# The fare of a booking and the fare of a quote

A trip is priced in two places.  `createBooking` without a quote asks the fare calculator, with
the rates of the car, its weekly and monthly discounts, the default GST rate and no duration
tiers; the calculator rounds each amount once, at the end.  `generateQuote` computes the amounts
itself, with the rate of the demand-aware pricing, the configured duration tiers and the
configured GST rate, and rounds each amount before it computes the next one from it.

Both are translated here for a trip without deliveries.  What the tables and the other services
answer for both of them is the same: the car, the package, the coupon, the protection package,
the commission and the deposit.
-/

namespace CarRental

open Rounding

/-! ## What is priced -/

/-- The car, with the city of its vendor. -/
structure PricedCar where
  pricePerKm : Money
  pricePerDay : Money
  pricePerHour : Money
  weeklyDiscountPercent : Decimal
  monthlyDiscountPercent : Decimal
  city : String

inductive DiscountType where
  | percentage
  | fixed
deriving DecidableEq

structure CouponTerms where
  discountType : DiscountType
  discountValue : Money
  maxDiscountAmount : Option Money
  minBookingAmount : Option Money

structure ProtectionPackage where
  dailyRate : Money
  city : Option String
  isActive : Bool

/-- A booking has the package in the city it is for, written the same way, and everywhere if it
is for no city. -/
def ProtectionPackage.BookedIn (package : ProtectionPackage) (city : String) : Prop :=
  package.isActive ∧
    (package.city = none ∨ package.city = some "" ∨ package.city = some city)

/-- A quote does not look at upper and lower case. -/
def ProtectionPackage.QuotedIn (package : ProtectionPackage) (city : String) : Prop :=
  package.isActive ∧ (package.city = none ∨ package.city = some "" ∨
    package.city.map String.toLower = some city.toLower)

instance (package : ProtectionPackage) (city : String) : Decidable (package.BookedIn city) :=
  inferInstanceAs (Decidable (_ ∧ _))

instance (package : ProtectionPackage) (city : String) : Decidable (package.QuotedIn city) :=
  inferInstanceAs (Decidable (_ ∧ _))

/-- The first-booking benefit of a referred customer. -/
structure RefereeBenefit where
  discountAmount : Money
  minBookingAmount : Money
  minimum_nonneg : 0 ≤ minBookingAmount.paise

/-- The pricing configuration: the duration tiers, the GST rate, and the daily rate that the
demand-aware pricing finds, if it answers. -/
structure PricingConfig where
  durationDiscounts : List DurationDiscount
  gstRate : Option Decimal
  effectiveDailyRate : Option Money

/-- The same trip, as it is asked for in a booking and in a quote.  The coupon is the one of the
code, with every rule met that does not depend on the amount; `draft` has the ids. -/
structure TripRequest where
  car : PricedCar
  tripType : TripType
  startDate : ℤ
  endDate : ℤ
  distanceKm : Option Decimal
  /-- `basePricePerDay` of the selected mileage package. -/
  mileagePackage : Option Money
  coupon : Option CouponTerms
  protectionPackage : Option ProtectionPackage
  refereeBenefit : Option RefereeBenefit
  commissionPercent : Decimal
  depositAmount : Decimal
  config : PricingConfig
  draft : BookingRequest
  start_lt_end : startDate < endDate

/-- The parts of a fare, in rupees. -/
structure FareComponents where
  originalBaseFare : Decimal
  durationDiscount : Decimal
  platformFee : Decimal
  gst : Decimal
  discount : Decimal
  protectionFee : Decimal
  totalFare : Decimal
  netToVendor : Decimal
deriving DecidableEq

/-- `calculatedDiscount`, before it is limited to the amount. -/
def CouponTerms.calculatedDiscount (terms : CouponTerms) (subtotal : Decimal) : Decimal :=
  match terms.discountType with
  | .percentage =>
    let share := subtotal * terms.discountValue.value / 100
    terms.maxDiscountAmount.elim share fun maxCap => min share maxCap.value
  | .fixed => terms.discountValue.value

/-- `validateCoupon` on the amount it is to be used for: the discount, or `none` below the
coupon's minimum.  `Math.round` rounds halves up. -/
def CouponTerms.validateCoupon (terms : CouponTerms) (subtotal : Decimal) : Option Decimal :=
  if ∃ minAmount ∈ terms.minBookingAmount, subtotal < minAmount.value then none
  else some (round (min (terms.calculatedDiscount subtotal) subtotal * 100) / 100)

namespace TripRequest

def durationMs (trip : TripRequest) : ℚ := (trip.endDate - trip.startDate : ℤ)

def durationDays (trip : TripRequest) : ℕ := max 1 ⌈trip.durationMs / (1000 * 60 * 60 * 24)⌉₊

/-- Local trips and airport transfers are rented by the hour. -/
def Hourly (trip : TripRequest) : Prop :=
  trip.tripType = .localTrip ∨ trip.tripType = .airportTransfer

instance (trip : TripRequest) : Decidable trip.Hourly := inferInstanceAs (Decidable (_ ∨ _))

/-! ## The fare of a booking -/

def basePackagePrice (trip : TripRequest) : Decimal :=
  match trip.mileagePackage with
  | some basePricePerDay => Decimal.mul basePricePerDay.value trip.durationDays
  | none =>
    if trip.Hourly then
      Decimal.mul trip.car.pricePerHour.value ⌈trip.durationMs / (1000 * 60 * 60)⌉₊
    else Decimal.mul trip.car.pricePerDay.value trip.durationDays

/-- The call of the fare calculator; its last two arguments keep their defaults. -/
def fareRequest (trip : TripRequest) : FareRequest where
  distanceKm := if trip.mileagePackage.isSome then 0 else trip.distanceKm.getD 0
  basePackagePrice := trip.basePackagePrice
  pricePerKm := if trip.mileagePackage.isSome then 0 else trip.car.pricePerKm.value
  commissionPercent := trip.commissionPercent
  durationDays := trip.durationDays
  weeklyDiscountPercent := trip.car.weeklyDiscountPercent
  monthlyDiscountPercent := trip.car.monthlyDiscountPercent
  gstRatePercent := 18
  durationDiscounts := []

/-- The discount of the coupon, or else of the referral; `none` when the coupon is refused. -/
def discountAmount? (trip : TripRequest) : Option (Option Decimal) :=
  let total := (calculateFare trip.fareRequest).total
  match trip.coupon with
  | some terms => (terms.validateCoupon total).map some
  | none =>
    match trip.refereeBenefit with
    | some benefit =>
      if benefit.minBookingAmount.value ≤ total then some (some benefit.discountAmount.value)
      else some none
    | none => some none

def bookedProtectionFee (trip : TripRequest) : Decimal :=
  match trip.protectionPackage with
  | some package =>
    if package.BookedIn trip.car.city then
      Decimal.mul package.dailyRate.value trip.durationDays
    else 0
  | none => 0

def bookingRequest (trip : TripRequest) (discountAmount : Option Decimal) : BookingRequest :=
  { trip.draft with
    fare := trip.fareRequest
    deliveryFee := 0
    pickupFee := 0
    returnFee := 0
    oneWayFee := 0
    discountAmount
    protectionFee := trip.bookedProtectionFee
    depositAmount := trip.depositAmount
    acceptedQuote := none }

/-- The fare `createBooking` writes; `none` when the coupon is refused or an amount does not fit
its column. -/
def createdFare (trip : TripRequest) : Option FareComponents := do
  let fareDetails := calculateFare trip.fareRequest
  let discountAmount ← trip.discountAmount?
  let (booking, _) ← createBooking (trip.bookingRequest discountAmount)
  let protectionFee : Money ← Column.ofDecimal? trip.bookedProtectionFee
  return {
    originalBaseFare := fareDetails.originalBaseFare
    durationDiscount := fareDetails.discountAmount
    platformFee := booking.platformFee.value
    gst := booking.gstAmount.value
    discount := booking.discountAmount.elim 0 Column.value
    protectionFee := protectionFee.value
    totalFare := booking.totalFare.value
    netToVendor := booking.netToVendor.value }

/-! ## The fare of a quote -/

def baseUnitPrice (trip : TripRequest) : Money :=
  match trip.mileagePackage with
  | some basePricePerDay => basePricePerDay
  | none =>
    if trip.Hourly then trip.car.pricePerHour
    else
      match trip.config.effectiveDailyRate with
      | some rate => if 0 < rate.paise then rate else trip.car.pricePerDay
      | none => trip.car.pricePerDay

def baseQuantity (trip : TripRequest) : ℕ :=
  if trip.mileagePackage = none ∧ trip.Hourly then
    max 1 ⌈trip.durationMs / (1000 * 60 * 60)⌉₊
  else trip.durationDays

def initialBaseFare (trip : TripRequest) : Decimal :=
  Decimal.mul trip.baseUnitPrice.value trip.baseQuantity

def durationDiscountPct (trip : TripRequest) : Decimal :=
  let validTiers := trip.config.durationDiscounts.filter fun tier =>
    0 < tier.minDays ∧ 0 ≤ tier.discountPercent
  if validTiers ≠ [] then
    let configuredDurationTiers := validTiers.mergeSort fun a b => b.minDays ≤ a.minDays
    match configuredDurationTiers.find? fun tier => tier.minDays ≤ trip.durationDays with
    | some tier => tier.discountPercent
    | none => 0
  else if 30 ≤ trip.durationDays ∧ 0 < trip.car.monthlyDiscountPercent then
    trip.car.monthlyDiscountPercent
  else if 7 ≤ trip.durationDays ∧ 0 < trip.car.weeklyDiscountPercent then
    trip.car.weeklyDiscountPercent
  else 0

def durationDiscountAmount (trip : TripRequest) : Decimal :=
  if 0 < trip.durationDiscountPct then
    toScale 2 (Decimal.mul trip.initialBaseFare (trip.durationDiscountPct / 100))
  else 0

def baseFareAfterDurationDiscount (trip : TripRequest) : Decimal :=
  if 0 < trip.durationDiscountPct then
    Decimal.sub trip.initialBaseFare trip.durationDiscountAmount
  else trip.initialBaseFare

def platformFee (trip : TripRequest) : Decimal :=
  toScale 2 (Decimal.mul trip.baseFareAfterDurationDiscount
    (Decimal.div trip.commissionPercent 100))

def gstRate (trip : TripRequest) : Decimal :=
  match trip.config.gstRate with
  | some rate => if 0 ≤ rate ∧ rate ≤ 100 then rate else 18
  | none => 18

def gstAmount (trip : TripRequest) : Decimal :=
  toScale 2 (Decimal.mul trip.platformFee (Decimal.div trip.gstRate 100))

def quotedProtectionFee (trip : TripRequest) : Decimal :=
  match trip.protectionPackage with
  | some package =>
    if package.QuotedIn trip.car.city then
      toScale 2 (Decimal.mul package.dailyRate.value trip.durationDays)
    else 0
  | none => 0

def subtotalForCoupon (trip : TripRequest) : Decimal :=
  Decimal.add (Decimal.add trip.baseFareAfterDurationDiscount trip.platformFee) trip.gstAmount

/-- `none` when the coupon is refused. -/
def couponDiscount? (trip : TripRequest) : Option Decimal :=
  match trip.coupon with
  | some terms => (terms.validateCoupon trip.subtotalForCoupon).map (toScale 2)
  | none => some 0

end TripRequest

/-- The row of a quote, with the amounts of its discount, fee and protection lines. -/
structure FareQuote where
  subtotal : Money
  durationDiscount : Money
  platformFee : Money
  protectionFee : Money
  discountTotal : Money
  feesTotal : Money
  taxTotal : Money
  depositTotal : Money
  totalPayable : Money
  netToVendor : Money
deriving DecidableEq

/-- `generateQuote`; `none` when the coupon is refused or an amount does not fit its column. -/
def generateQuote (trip : TripRequest) : Option FareQuote := do
  let couponDiscount ← trip.couponDiscount?
  let fulfillmentTotal := toScale 2 (Decimal.add (Decimal.add (Decimal.add 0 0) 0) 0)
  let tripFare := toScale 2 (Decimal.sub (Decimal.add (Decimal.add trip.subtotalForCoupon
    fulfillmentTotal) trip.quotedProtectionFee) couponDiscount)
  let depositTotal := toScale 2 trip.depositAmount
  let subtotal ← Column.ofDecimal? (toScale 2 trip.initialBaseFare)
  let durationDiscount ← Column.ofDecimal? trip.durationDiscountAmount
  let platformFee ← Column.ofDecimal? trip.platformFee
  let protectionFee ← Column.ofDecimal? trip.quotedProtectionFee
  let discountTotal ← Column.ofDecimal?
    (toScale 2 (Decimal.add trip.durationDiscountAmount couponDiscount))
  let feesTotal ← Column.ofDecimal? (toScale 2 (Decimal.add
    (Decimal.add trip.platformFee fulfillmentTotal) trip.quotedProtectionFee))
  let taxTotal ← Column.ofDecimal? (toScale 2 trip.gstAmount)
  let depositColumn ← Column.ofDecimal? depositTotal
  let totalPayable ← Column.ofDecimal? (toScale 2 (Decimal.add tripFare depositTotal))
  let netToVendor ← Column.ofDecimal?
    (toScale 2 (Decimal.add trip.baseFareAfterDurationDiscount fulfillmentTotal))
  return {
    subtotal, durationDiscount, platformFee, protectionFee, discountTotal, feesTotal, taxTotal
    depositTotal := depositColumn
    totalPayable, netToVendor }

/-- The parts of the fare in the answer to a quote: `tripFare` is computed from the columns, the
coupon's discount is what is not a duration discount. -/
def FareQuote.components (quote : FareQuote) : FareComponents where
  originalBaseFare := quote.subtotal.value
  durationDiscount := quote.durationDiscount.value
  platformFee := quote.platformFee.value
  gst := quote.taxTotal.value
  discount := quote.discountTotal.value - quote.durationDiscount.value
  protectionFee := quote.protectionFee.value
  totalFare := quote.subtotal.value - quote.discountTotal.value + quote.feesTotal.value +
    quote.taxTotal.value
  netToVendor := quote.netToVendor.value

def TripRequest.quotedFare (trip : TripRequest) : Option FareComponents :=
  (generateQuote trip).map FareQuote.components

end CarRental
