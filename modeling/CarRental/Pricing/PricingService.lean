import CarRental.Fleet.VehicleSubstitution
import CarRental.Locations.DeliveryQuote
import CarRental.Pricing.QuoteAcceptance
import CarRental.Pricing.QuotedFare

/-!
# Quotes and their lines

`PricingService.generateQuote` and `refreshQuote`, with the delivery fees, the lines and what the
row keeps of the request.  The amounts that do not depend on a delivery are those of `TripRequest`.

What a quote is priced from are the tables and settings (`PriceList`); what else may change from
one moment to the next is in `QuoteMoment`: the time, the availability of the car, and whether a
customer may use a coupon.
-/

namespace CarRental

open KeyedRows Rounding

/-! ## The request -/

inductive DeliveryType where
  | notDelivered
  | doorstepDelivery
  | doorstepPickup
  | roundTripDelivery
deriving DecidableEq, Repr

/-- The fields that a quote reads; a date that is no date is `none`. -/
structure CreateQuoteDto where
  carId : Id
  startDate : Option ℤ
  endDate : Option ℤ
  tripType : TripType
  pickupHubId : Option Id
  returnHubId : Option Id
  deliveryType : Option DeliveryType
  deliveryAddress : Option String
  deliveryLatitude : Option ℚ
  deliveryLongitude : Option ℚ
  couponCode : Option String
  protectionPackageId : Option Id
  mileagePackageId : Option Id
  idempotencyKey : Option String
deriving DecidableEq

/-! ## What a quote is priced from -/

structure MileagePackage where
  id : Id
  name : String
  tripType : TripType
  isActive : Bool
  includedKmPerDay : Option ℕ
  basePricePerDay : Money
deriving DecidableEq

structure QuotedCar extends PricedCar where
  id : Id
  vendorId : Id
  vendorVerified : Bool
  isAvailable : Bool
  type : CarCategory
  availableTripTypes : List TripType
  mileagePackages : List MileagePackage

structure NamedProtection extends ProtectionPackage where
  id : Id
  name : String
  deductibleAmount : Money

structure CodedCoupon extends CouponTerms where
  code : String

structure DemandPrice where
  effectiveDailyRate : Money
  multiplier : ℚ
deriving DecidableEq

/-- Prices and settings.  `evaluatePrice` is `none` when the demand-aware pricing fails. -/
structure PriceList where
  cars : List QuotedCar
  protectionPackages : List NamedProtection
  coupons : List CodedCoupon
  durationDiscounts : List DurationDiscount
  gstRate : Option Decimal
  validityMinutes : Option ℤ
  locations : LocationTables
  resolveCommissionPercent : String → CarCategory → TripType → Decimal
  getDepositAmount : CarCategory → String → Decimal
  evaluatePrice : QuotedCar → ℤ → ℤ → Option DemandPrice
  upper : CaseMapping
  /-- A number as text, and with two decimals. -/
  numberText : Decimal → String
  toFixed : Decimal → String

structure QuoteMoment where
  now : ℤ
  /-- What `checkAvailability` answers for a car, an interval and an actor. -/
  availability : Id → ℤ → ℤ → Option Id → Bool × Option String
  /-- Why a customer may not use a coupon for a car and a trip type, whatever the amount. -/
  couponRefusal : Id → CodedCoupon → QuotedCar → TripType → Option HttpError

/-! ## Rows -/

inductive QuoteLineItemType where
  | baseRental
  | hourlyRental
  | packageTier
  | durationDiscount
  | couponDiscount
  | platformFee
  | gst
  | deliveryFee
  | pickupFee
  | returnFee
  | oneWaySurcharge
  | protectionFee
  | securityDeposit
deriving DecidableEq, Repr

/-- A line, in decimals as it is computed or in columns as it is stored. -/
structure QuoteLineItem (number : Type) where
  type : QuoteLineItemType
  name : String
  description : String
  rate : number
  quantity : number
  amount : number
  isRefundable : Bool
  displayOrder : ℕ
deriving DecidableEq

def QuoteLineItem.store? (line : QuoteLineItem Decimal) : Option (QuoteLineItem Money) := do
  let rate ← Column.ofDecimal? line.rate
  let quantity ← Column.ofDecimal? line.quantity
  let amount ← Column.ofDecimal? line.amount
  return { line with rate, quantity, amount }

structure QuoteMetadata where
  mileagePackageId : Option Id
  mileagePackageName : Option String
  couponCode : Option String
  protectionPackageName : Option String
  protectionDeductible : Option Decimal
  deliveryAddress : Option String
  pickupHubId : Option Id
  returnHubId : Option Id
deriving DecidableEq

/-- A quote with its lines in the order of display. -/
structure StoredQuote extends BookingQuote where
  tenantId : Id
  durationDays : ℕ
  durationHours : ℕ
  idempotencyKey : Option String
  metadata : QuoteMetadata
  lineItems : List (QuoteLineItem Money)
deriving DecidableEq

/-! ## Checks -/

structure QuoteInterval where
  startDate : ℤ
  endDate : ℤ
  start_lt_end : startDate < endDate

/-- A start in the last two minutes is taken. -/
def checkDates (now : ℤ) (dto : CreateQuoteDto) : Except HttpError QuoteInterval :=
  match dto.startDate, dto.endDate with
  | some startDate, some endDate =>
    if h : startDate < endDate then
      if startDate < now - 120000 then
        .error (.badRequest "Start date cannot be in the past.")
      else .ok ⟨startDate, endDate, h⟩
    else .error (.badRequest "Start date must be before end date.")
  | _, _ => .error (.badRequest "Invalid start or end date format.")

def checkQuotedCar (car : QuotedCar) (tripType : TripType) : Except HttpError Unit :=
  (require (car.isAvailable = true)
    (.conflict "This car is marked as unavailable.")).bind fun _ =>
  (require (car.vendorVerified = true)
    (.badRequest "Cannot book a vehicle from an unverified vendor.")).bind fun _ =>
  require (car.availableTripTypes = [] ∨ tripType ∈ car.availableTripTypes)
    (.badRequest ("This car does not support " ++ tripType.text ++ " trip type."))

def checkQuotedInterval (moment : QuoteMoment) (carId : Id) (interval : QuoteInterval)
    (user : Option Id) : Except HttpError Unit :=
  let avail := moment.availability carId interval.startDate interval.endDate user
  require (avail.1 = true)
    (.conflict (orText avail.2 "Vehicle is not available for the requested period."))

def selectMileagePackage (car : QuotedCar) (dto : CreateQuoteDto) :
    Except HttpError (Option MileagePackage) :=
  match given dto.mileagePackageId with
  | none => .ok none
  | some packageId =>
    match car.mileagePackages.find? fun pkg => pkg.id = packageId ∧ pkg.isActive with
    | none => .error (.notFound "Selected mileage package not found or inactive.")
    | some pkg =>
      if pkg.tripType = dto.tripType then .ok (some pkg)
      else .error (.badRequest ("Mileage package is for " ++ pkg.tripType.text ++
        " but requested trip is for " ++ dto.tripType.text ++ "."))

/-! ## Fees of the locations -/

/-- Fees in whole paise. -/
structure LocationFees where
  deliveryFee : Decimal
  pickupFee : Decimal
  returnFee : Decimal
  oneWayFee : Decimal
  onGrid : OnGrid 2 deliveryFee ∧ OnGrid 2 pickupFee ∧ OnGrid 2 returnFee ∧ OnGrid 2 oneWayFee

def LocationFees.none : LocationFees where
  deliveryFee := 0
  pickupFee := 0
  returnFee := 0
  oneWayFee := 0
  onGrid := ⟨onGrid_zero, onGrid_zero, onGrid_zero, onGrid_zero⟩

def LocationFees.ofQuote (quote : LocationQuote) : LocationFees where
  deliveryFee := toScale 2 quote.deliveryFee
  pickupFee := toScale 2 quote.pickupFee
  returnFee := toScale 2 quote.returnFee
  oneWayFee := toScale 2 quote.oneWaySurcharge
  onGrid := ⟨onGrid_toScale _, onGrid_toScale _, onGrid_toScale _, onGrid_toScale _⟩

def LocationFees.total (fees : LocationFees) : Decimal :=
  toScale 2 (Decimal.add (Decimal.add (Decimal.add fees.deliveryFee fees.pickupFee)
    fees.returnFee) fees.oneWayFee)

def CreateQuoteDto.AsksLocations (dto : CreateQuoteDto) : Prop :=
  given dto.pickupHubId ≠ none ∨ given dto.returnHubId ≠ none ∨ dto.deliveryLatitude ≠ none ∨
    given dto.deliveryAddress ≠ none

instance (dto : CreateQuoteDto) : Decidable dto.AsksLocations :=
  inferInstanceAs (Decidable (_ ∨ _))

def CreateQuoteDto.locationRequest (dto : CreateQuoteDto) (vendorId : Id)
    (interval : QuoteInterval) : CalculateDeliveryQuoteDto where
  vendorId
  customerLatitude := dto.deliveryLatitude
  customerLongitude := dto.deliveryLongitude
  deliveryAddress := dto.deliveryAddress
  pickupLocationId := dto.pickupHubId
  returnLocationId := dto.returnHubId
  pickupDate := interval.startDate
  returnDate := interval.endDate

/-- A bad request and a conflict are passed on; after any other failure nothing is charged. -/
def locationFees (prices : PriceList) (vendorId : Id) (dto : CreateQuoteDto)
    (interval : QuoteInterval) : Except HttpError LocationFees :=
  if dto.AsksLocations then
    match calculateDeliveryQuote prices.locations (dto.locationRequest vendorId interval) with
    | .ok locQuote =>
      if !locQuote.isAvailable ∧ dto.deliveryType ≠ none ∧
          dto.deliveryType ≠ some .notDelivered then
        .error (.badRequest
          (orText locQuote.reason "Requested fulfillment option is unavailable."))
      else .ok (LocationFees.ofQuote locQuote)
    | .error (.badRequest message) => .error (.badRequest message)
    | .error (.conflict message) => .error (.conflict message)
    | .error _ => .ok LocationFees.none
  else .ok LocationFees.none

/-! ## Coupon and protection -/

def findCoupon (prices : PriceList) (code : String) : Option CodedCoupon :=
  prices.coupons.find? fun coupon => coupon.code = prices.upper.toUpperCase (trim code)

/-- The coupon of the request, unless the customer may not use it. -/
def quotedCoupon (prices : PriceList) (moment : QuoteMoment) (car : QuotedCar)
    (dto : CreateQuoteDto) (user : Option Id) : Except HttpError (Option CodedCoupon) :=
  match given dto.couponCode with
  | none => .ok none
  | some code =>
    match findCoupon prices code with
    | none => .error (.notFound "Invalid coupon code.")
    | some coupon =>
      match moment.couponRefusal ((given user).getD "anonymous-quote") coupon car
          dto.tripType with
      | some refusal => .error refusal
      | none => .ok (some coupon)

/-- The package of the request, if it is quoted in the city of the vendor. -/
def quotedProtection (prices : PriceList) (city : String) (dto : CreateQuoteDto) :
    Option NamedProtection :=
  ((given dto.protectionPackageId).bind fun packageId =>
    prices.protectionPackages.find? fun pkg => pkg.id = packageId).filter fun pkg =>
      pkg.QuotedIn city

/-! ## The trip -/

def noBooking : BookingRequest where
  bookingId := ""
  customerId := ""
  vendorId := ""
  fare := ⟨0, 0, 0, 0, 0, 0, 0, 0, []⟩
  deliveryFee := 0
  pickupFee := 0
  returnFee := 0
  oneWayFee := 0
  couponId := none
  discountAmount := none
  protectionFee := 0
  depositId := ""
  depositAmount := 0
  acceptedQuote := none
  corporateAccountId := none

def quotedTrip (prices : PriceList) (car : QuotedCar) (tripType : TripType)
    (interval : QuoteInterval) (mileagePackage : Option MileagePackage)
    (protection : Option NamedProtection) (coupon : Option CodedCoupon) : TripRequest where
  car := car.toPricedCar
  tripType
  startDate := interval.startDate
  endDate := interval.endDate
  distanceKm := none
  mileagePackage := mileagePackage.map MileagePackage.basePricePerDay
  coupon := coupon.map CodedCoupon.toCouponTerms
  protectionPackage := protection.map NamedProtection.toProtectionPackage
  refereeBenefit := none
  commissionPercent := prices.resolveCommissionPercent car.city car.type tripType
  depositAmount := prices.getDepositAmount car.type car.city
  config := {
    durationDiscounts := prices.durationDiscounts
    gstRate := prices.gstRate
    effectiveDailyRate := (prices.evaluatePrice car interval.startDate interval.endDate).map
      DemandPrice.effectiveDailyRate }
  draft := noBooking
  start_lt_end := interval.start_lt_end

def TripRequest.durationHours (trip : TripRequest) : ℕ :=
  max 1 ⌈trip.durationMs / (1000 * 60 * 60)⌉₊

/-- What the lines and totals of a quote are made from. -/
structure QuoteDraft where
  trip : TripRequest
  car : QuotedCar
  mileagePackage : Option MileagePackage
  demandPrice : Option DemandPrice
  fees : LocationFees
  protection : Option NamedProtection
  coupon : Option CodedCoupon
  couponDiscount : Decimal
  covered : trip.protectionPackage = protection.map NamedProtection.toProtectionPackage
  discounted : trip.couponDiscount? = some couponDiscount

def belowCouponMinimum (prices : PriceList) (coupon : Option CodedCoupon) : HttpError :=
  let minAmount := (coupon.bind fun coupon => coupon.minBookingAmount).elim 0 Column.value
  .badRequest ("Booking amount must be at least ₹" ++ prices.numberText minAmount ++
    " to use this coupon.")

def draftQuote (prices : PriceList) (moment : QuoteMoment) (dto : CreateQuoteDto)
    (user : Option Id) (interval : QuoteInterval) : Except HttpError QuoteDraft :=
  match prices.cars.find? fun car => car.id = dto.carId with
  | none => .error (.notFound "Car not found.")
  | some car =>
    (checkQuotedCar car dto.tripType).bind fun _ =>
    (checkQuotedInterval moment dto.carId interval user).bind fun _ =>
    (selectMileagePackage car dto).bind fun mileagePackage =>
    (locationFees prices car.vendorId dto interval).bind fun fees =>
    (quotedCoupon prices moment car dto user).bind fun coupon =>
    let protection := quotedProtection prices car.city dto
    let trip := quotedTrip prices car dto.tripType interval mileagePackage protection coupon
    match discounted : trip.couponDiscount? with
    | none => .error (belowCouponMinimum prices coupon)
    | some couponDiscount =>
      .ok {
        trip, car, mileagePackage, fees, protection, coupon, couponDiscount, discounted
        demandPrice := prices.evaluatePrice car interval.startDate interval.endDate
        covered := rfl }

/-! ## Lines -/

namespace QuoteDraft

variable (prices : PriceList) (draft : QuoteDraft)

/-- `day(s) @ ₹…/day` -/
def dailyText (rate : Money) : String :=
  prices.numberText draft.trip.durationDays ++ " day(s) @ ₹" ++ prices.toFixed rate.value ++ "/day"

/-- The type, name and description of the first line. -/
def baseText : QuoteLineItemType × String × String :=
  match draft.mileagePackage with
  | some pkg =>
    let kmDesc :=
      match pkg.includedKmPerDay.filter (· ≠ 0) with
      | some km => prices.numberText (km * draft.trip.durationDays) ++ " km included"
      | none => "Unlimited km"
    (.packageTier, "Package: " ++ pkg.name,
      draft.dailyText prices pkg.basePricePerDay ++ " (" ++ kmDesc ++ ")")
  | none =>
    if draft.trip.Hourly then
      (.hourlyRental, "Hourly Rental Rate", prices.numberText draft.trip.durationHours ++
        " hour(s) @ ₹" ++ prices.toFixed draft.car.pricePerHour.value ++ "/hour")
    else
      let plain := draft.dailyText prices draft.car.pricePerDay
      let description :=
        match draft.demandPrice.filter fun price => 0 < price.effectiveDailyRate.paise with
        | none => plain
        | some price =>
          let rated := draft.dailyText prices price.effectiveDailyRate
          if 1 < price.multiplier then
            rated ++ " (Demand Surge " ++ prices.numberText price.multiplier ++ "x)"
          else if price.multiplier < 1 then
            rated ++ " (Value Saver " ++ prices.numberText price.multiplier ++ "x)"
          else plain
      (.baseRental, "Daily Rental Rate", description)

/-- A line with one amount, in its place later. -/
def line (type : QuoteLineItemType) (name description : String) (rate quantity amount : Decimal) :
    QuoteLineItem Decimal :=
  ⟨type, name, description, rate, quantity, amount, false, 0⟩

/-- A fee with a line only when it is positive. -/
def feeLine (type : QuoteLineItemType) (name description : String) (fee : Decimal) :
    List (QuoteLineItem Decimal) :=
  if 0 < fee then [line type name description fee 1 fee] else []

def protectionLine : List (QuoteLineItem Decimal) :=
  match draft.protection with
  | none => []
  | some pkg => [line .protectionFee ("Protection Plan (" ++ pkg.name ++ ")")
      ("Zero-deductible coverage (Deductible: ₹" ++ prices.numberText pkg.deductibleAmount.value ++
        ")") pkg.dailyRate.value draft.trip.durationDays draft.trip.quotedProtectionFee]

def durationDiscountLine : List (QuoteLineItem Decimal) :=
  if 0 < draft.trip.durationDiscountPct then
    [line .durationDiscount
      ("Duration Discount (" ++ prices.numberText draft.trip.durationDiscountPct ++ "%)")
      ("Special rate applied for " ++ prices.numberText draft.trip.durationDays ++ "+ days rental")
      draft.trip.durationDiscountAmount 1 (-draft.trip.durationDiscountAmount)]
  else []

def couponLine : List (QuoteLineItem Decimal) :=
  if 0 < draft.couponDiscount then
    [line .couponDiscount
      ("Coupon Discount (" ++ draft.coupon.elim "" CodedCoupon.code ++ ")")
      "Promotional discount voucher" draft.couponDiscount 1 (-draft.couponDiscount)]
  else []

/-- The lines before the deposit. -/
def fareLines : List (QuoteLineItem Decimal) :=
  let base := draft.baseText prices
  [line base.1 base.2.1 base.2.2 draft.trip.baseUnitPrice.value draft.trip.baseQuantity
    (toScale 2 draft.trip.initialBaseFare)] ++
  draft.durationDiscountLine prices ++
  [line .platformFee "Platform Service Fee" ("Platform technology & roadside assistance fee (" ++
    prices.numberText draft.trip.commissionPercent ++ "%)") draft.trip.platformFee 1
    draft.trip.platformFee,
   line .gst ("GST (" ++ prices.numberText draft.trip.gstRate ++ "% on Platform Fee)")
    "Government Goods and Services Tax on platform services" draft.trip.gstAmount 1
    draft.trip.gstAmount] ++
  feeLine .deliveryFee "Doorstep Delivery Fee" "Vehicle delivery to specified customer address"
    draft.fees.deliveryFee ++
  feeLine .pickupFee "Pickup Hub Fee" "Operational processing at pickup branch"
    draft.fees.pickupFee ++
  feeLine .returnFee "Return Hub Fee" "Operational processing at return branch"
    draft.fees.returnFee ++
  feeLine .oneWaySurcharge "One-Way Relocation Surcharge" "Cross-branch fleet repositioning fee"
    draft.fees.oneWayFee ++
  draft.protectionLine prices ++
  draft.couponLine

def depositAmount : Decimal := toScale 2 draft.trip.depositAmount

/-- The lines in the order of display, the deposit last. -/
def lineItems : List (QuoteLineItem Decimal) :=
  ((draft.fareLines prices).mapIdx fun i item => { item with displayOrder := i + 1 }) ++
  [{ line .securityDeposit "Refundable Security Deposit"
      "Refunded automatically within 24 hours after safe return" draft.depositAmount 1
      draft.depositAmount with isRefundable := true, displayOrder := 99 }]

/-! ## Totals -/

def feesTotal : Decimal :=
  toScale 2 (Decimal.add (Decimal.add draft.trip.platformFee draft.fees.total)
    draft.trip.quotedProtectionFee)

def tripFare : Decimal :=
  toScale 2 (Decimal.sub (Decimal.add (Decimal.add draft.trip.subtotalForCoupon draft.fees.total)
    draft.trip.quotedProtectionFee) draft.couponDiscount)

/-- The columns of the amounts; `none` when one does not fit. -/
def price? : Option QuotePrice := do
  let subtotal ← Column.ofDecimal? (toScale 2 draft.trip.initialBaseFare)
  let discountTotal ← Column.ofDecimal?
    (toScale 2 (Decimal.add draft.trip.durationDiscountAmount draft.couponDiscount))
  let feesTotal ← Column.ofDecimal? draft.feesTotal
  let taxTotal ← Column.ofDecimal? (toScale 2 draft.trip.gstAmount)
  let depositTotal ← Column.ofDecimal? (toScale 2 draft.depositAmount)
  let totalPayable ← Column.ofDecimal?
    (toScale 2 (Decimal.add draft.tripFare (toScale 2 draft.depositAmount)))
  let netToVendor ← Column.ofDecimal?
    (toScale 2 (Decimal.add draft.trip.baseFareAfterDurationDiscount draft.fees.total))
  let platformFee ← Column.ofDecimal? draft.trip.platformFee
  return {
    subtotal, discountTotal, feesTotal, taxTotal, depositTotal, totalPayable, netToVendor
    platformFee }

def metadata (dto : CreateQuoteDto) : QuoteMetadata where
  mileagePackageId := draft.mileagePackage.map MileagePackage.id
  mileagePackageName := draft.mileagePackage.map MileagePackage.name
  couponCode := draft.coupon.map CodedCoupon.code
  protectionPackageName := draft.protection.map NamedProtection.name
  protectionDeductible := draft.protection.map (·.deductibleAmount.value)
  deliveryAddress := dto.deliveryAddress
  pickupHubId := dto.pickupHubId
  returnHubId := dto.returnHubId

end QuoteDraft

/-! ## Storing a quote -/

/-- `QUOTE_VALIDITY_MINUTES`, unless another number is configured. -/
def quoteValidityMinutes (prices : PriceList) : ℤ :=
  (prices.validityMinutes.filter (0 < ·)).getD 15

/-- The row and its lines; `none` when an amount does not fit. -/
def storeQuote (prices : PriceList) (now : ℤ) (newId : Id) (dto : CreateQuoteDto)
    (user : Option Id) (interval : QuoteInterval) (draft : QuoteDraft) : Option StoredQuote := do
  let price ← draft.price?
  let lineItems ← (draft.lineItems prices).mapM QuoteLineItem.store?
  return {
    id := newId
    customerId := user
    issuedTo := user
    carId := dto.carId
    tripType := dto.tripType
    startDate := interval.startDate
    endDate := interval.endDate
    price
    status := .active
    expiresAt := now + quoteValidityMinutes prices * 60 * 1000
    tenantId := draft.car.vendorId
    durationDays := draft.trip.durationDays
    durationHours := draft.trip.durationHours
    idempotencyKey := dto.idempotencyKey
    metadata := draft.metadata dto
    lineItems }

/-- The quote that an earlier request with the same key has been given. -/
def activeQuote? (quotes : List StoredQuote) (now : ℤ) (key : Option String) :
    Option StoredQuote :=
  ((given key).bind fun key => quotes.find? fun quote => quote.idempotencyKey = some key).filter
    fun quote => quote.status = .active ∧ now < quote.expiresAt

def newQuote (prices : PriceList) (moment : QuoteMoment) (newId : Id) (dto : CreateQuoteDto)
    (user : Option Id) (interval : QuoteInterval) : Except HttpError StoredQuote :=
  (draftQuote prices moment dto user interval).bind fun draft =>
    match storeQuote prices moment.now newId dto user interval draft with
    | none => .error (.internal "numeric field overflow")
    | some quote => .ok quote

/-- The keys of the rows are unique. -/
def keyTaken (quotes : List StoredQuote) (key : Option String) : Bool :=
  key.isSome && quotes.any fun quote => quote.idempotencyKey = key

/-- The request that the row keeps. -/
def StoredQuote.request (quote : StoredQuote) : CreateQuoteDto where
  carId := quote.carId
  startDate := some quote.startDate
  endDate := some quote.endDate
  tripType := quote.tripType
  pickupHubId := quote.metadata.pickupHubId
  returnHubId := quote.metadata.returnHubId
  deliveryType := none
  deliveryAddress := quote.metadata.deliveryAddress
  deliveryLatitude := none
  deliveryLongitude := none
  couponCode := quote.metadata.couponCode
  protectionPackageId := none
  mileagePackageId := quote.metadata.mileagePackageId
  idempotencyKey := none

namespace PricingService

def generateQuote (prices : PriceList) (moment : QuoteMoment) (quotes : List StoredQuote)
    (newId : Id) (dto : CreateQuoteDto) (user : Option Id) :
    List StoredQuote × Except HttpError StoredQuote :=
  match checkDates moment.now dto with
  | .error e => (quotes, .error e)
  | .ok interval =>
    match activeQuote? quotes moment.now dto.idempotencyKey with
    | some quote => (quotes, .ok quote)
    | none =>
      match newQuote prices moment newId dto user interval with
      | .error e => (quotes, .error e)
      | .ok quote =>
        if keyTaken quotes dto.idempotencyKey then
          (quotes, .error (.internal "Unique constraint failed"))
        else (quotes ++ [quote], .ok quote)

/-- The old quote stays superseded when no new one can be made. -/
def refreshQuote (prices : PriceList) (moment : QuoteMoment) (quotes : List StoredQuote)
    (newId quoteId : Id) (user : Option Id) : List StoredQuote × Except HttpError StoredQuote :=
  match quotes.find? fun quote => quote.id = quoteId with
  | none => (quotes, .error (.notFound "Quote not found."))
  | some oldQuote =>
    let superseded :=
      if oldQuote.status = .active then
        updateKey (fun quote : StoredQuote => quote.id) quoteId
          (fun quote => { quote with status := .superseded }) quotes
      else quotes
    generateQuote prices moment superseded newId oldQuote.request user

end PricingService

end CarRental
