import CarRental.Lib.Doubles
import CarRental.Lib.CivilDate
import CarRental.Pricing.RentalPricing
import CarRental.Pricing.QuoteAcceptance

/-!
# Promotions and optional products

`PromotionEngineService.evaluatePromotion`, which says what a coupon is worth for a rental, and
`AncillaryProductsService.calculateAncillariesTotal`, which prices the products that are selected
with it.

The numbers are JavaScript numbers: `fl` is what an operation makes of its exact result.
-/

namespace CarRental

open Doubles KeyedRows

/-- `Math.round(x * 100) / 100` -/
def roundedPaise (fl : ℚ → ℚ) (x : ℚ) : ℚ := fl ((round (fl (x * 100)) : ℤ) / 100)

/-- `Number(...)` of a column -/
def columnNumber {digits : ℕ} (fl : ℚ → ℚ) (column : Column digits) : ℚ := fl column.value

/-! ## Coupons -/

structure MarketplaceCoupon extends CouponTerms where
  id : Id
  code : String
  description : Option String
  startDate : Option ℤ
  expiresAt : Option ℤ
  isActive : Bool
  globalUsageLimit : Option ℤ
  usageCount : ℤ
  perCustomerLimit : Option ℤ
  firstBookingOnly : Bool
  tripType : Option TripType
  carCategory : Option CarCategory
  vendorId : Option Id
  branchId : Option Id
  minRentalDays : Option ℤ
  stackable : Bool

structure PromotionEvaluationContext where
  customerId : Option Id
  vendorId : Id
  branchId : Option Id
  vehicleClass : CarCategory
  tripType : Option TripType
  subtotal : ℚ
  durationDays : ℕ
  existingDiscountsCount : ℕ

/-- The coupons, and what is counted of the customers. -/
structure PromotionTables where
  coupons : List MarketplaceCoupon
  /-- The confirmed, running and completed bookings of a customer. -/
  previousBookings : Id → ℕ
  couponUsages : Id → Id → ℤ

/-- Why a coupon is rejected; the texts, which nothing reads, are left out. -/
inductive RejectionReason where
  | inactive
  | notStarted
  | expired
  | otherVendor
  | otherBranch
  | otherCategory
  | otherTripType
  | tooShort
  | belowMinimum
  | usageLimit
  | notFirstBooking
  | customerLimit
  | notStackable
deriving DecidableEq, Repr

structure PromotionEvaluationResult where
  isValid : Bool
  code : String
  description : String
  discountType : DiscountType
  discountAmount : ℚ
  effectiveDiscountAmount : ℚ
  isStackable : Bool
  rejectionReason : Option RejectionReason
deriving DecidableEq

namespace MarketplaceCoupon

/-- The checks of `evaluatePromotion` in their order. -/
def rejection (fl : ℚ → ℚ) (tables : PromotionTables) (now : ℤ) (coupon : MarketplaceCoupon)
    (ctx : PromotionEvaluationContext) : Option RejectionReason :=
  if !coupon.isActive then some .inactive
  else if coupon.startDate.any (now < ·) then some .notStarted
  else if coupon.expiresAt.any (· < now) then some .expired
  else if (given coupon.vendorId).any (· ≠ ctx.vendorId) then some .otherVendor
  else if given coupon.branchId ≠ none ∧ given ctx.branchId ≠ none ∧
      coupon.branchId ≠ ctx.branchId then some .otherBranch
  else if coupon.carCategory.any (· ≠ ctx.vehicleClass) then some .otherCategory
  else if coupon.tripType ≠ none ∧ ctx.tripType ≠ none ∧ coupon.tripType ≠ ctx.tripType then
    some .otherTripType
  else if coupon.minRentalDays.any fun days => days ≠ 0 ∧ (ctx.durationDays : ℤ) < days then
    some .tooShort
  else if coupon.minBookingAmount.any fun amount => ctx.subtotal < columnNumber fl amount then
    some .belowMinimum
  else if coupon.globalUsageLimit.any (· ≤ coupon.usageCount) then some .usageLimit
  else if coupon.firstBookingOnly ∧ (given ctx.customerId).any fun customerId =>
      0 < tables.previousBookings customerId then some .notFirstBooking
  else if coupon.perCustomerLimit.any fun limit => 0 < limit ∧
      (given ctx.customerId).any fun customerId =>
        limit ≤ tables.couponUsages coupon.id customerId then some .customerLimit
  else if !coupon.stackable ∧ 0 < ctx.existingDiscountsCount then some .notStackable
  else none

/-- `calculatedDiscount`; a cap of zero is a cap. -/
def calculatedDiscountOf (fl : ℚ → ℚ) (coupon : MarketplaceCoupon) (subtotal : ℚ) : ℚ :=
  let discountVal := columnNumber fl coupon.discountValue
  match coupon.discountType with
  | .percentage =>
    let share := fl (fl (subtotal * discountVal) / 100)
    coupon.maxDiscountAmount.elim share fun cap => min share (columnNumber fl cap)
  | .fixed => discountVal

/-- `effectiveDiscount`: no more than the subtotal, which no discount is taken from. -/
def effectiveDiscount (fl : ℚ → ℚ) (coupon : MarketplaceCoupon) (subtotal : ℚ) : ℚ :=
  max 0 (min subtotal (coupon.calculatedDiscountOf fl subtotal))

end MarketplaceCoupon

def evaluatePromotion (fl : ℚ → ℚ) (upper : CaseMapping) (tables : PromotionTables) (now : ℤ)
    (code : String) (ctx : PromotionEvaluationContext) :
    Except HttpError PromotionEvaluationResult :=
  let normalizedCode := upper.toUpperCase (trim code)
  match tables.coupons.find? fun coupon => coupon.code = normalizedCode with
  | none => .error (.notFound ("Promotional coupon code '" ++ normalizedCode ++ "' not found."))
  | some coupon =>
    let description := (given coupon.description).getD "Promotional Discount"
    match coupon.rejection fl tables now ctx with
    | some reason => .ok {
        isValid := false
        code := normalizedCode
        description
        discountType := .fixed
        discountAmount := 0
        effectiveDiscountAmount := 0
        isStackable := false
        rejectionReason := some reason }
    | none => .ok {
        isValid := true
        code := coupon.code
        description
        discountType := coupon.discountType
        discountAmount := roundedPaise fl (coupon.calculatedDiscountOf fl ctx.subtotal)
        effectiveDiscountAmount := roundedPaise fl (coupon.effectiveDiscount fl ctx.subtotal)
        isStackable := coupon.stackable
        rejectionReason := none }

/-! ## Optional products -/

/-- A selection; its quantity is a number of the request. -/
structure AncillarySelectionInput where
  code : String
  quantity : Option ℚ
deriving DecidableEq

/-- How a product is priced: any other text in the column is priced flat. -/
inductive AncillaryPricingModel where
  | perDay
  | percentage
  | flat
deriving DecidableEq, Repr

structure AncillaryProduct where
  id : Id
  code : String
  name : String
  category : String
  pricingModel : AncillaryPricingModel
  basePrice : Money
  taxRate : Column 5
  vendorId : Option Id
  isActive : Bool
  maxQuantity : ℤ
deriving DecidableEq

structure CalculatedAncillaryItem where
  id : Id
  code : String
  name : String
  category : String
  pricingModel : AncillaryPricingModel
  unitPrice : ℚ
  quantity : ℚ
  taxRate : ℚ
  taxAmount : ℚ
  subtotal : ℚ
  totalAmount : ℚ
deriving DecidableEq

namespace AncillaryProduct

/-- `OR: [{ vendorId: null }, { vendorId: vendorId || undefined }]` -/
def OfferedBy (product : AncillaryProduct) (vendorId : Id) : Prop :=
  product.vendorId = none ∨ vendorId = "" ∨ product.vendorId = some vendorId

instance (product : AncillaryProduct) (vendorId : Id) : Decidable (product.OfferedBy vendorId) :=
  inferInstanceAs (Decidable (_ ∨ _))

def quantityOf (product : AncillaryProduct) (quantity : Option ℚ) : ℚ :=
  max 1 (min (orDefault product.maxQuantity 5) (orDefault (quantity.getD 0) 1))

def subtotalOf (fl : ℚ → ℚ) (product : AncillaryProduct) (durationDays : ℕ)
    (baseFare quantity : ℚ) : ℚ :=
  let unitPrice := columnNumber fl product.basePrice
  match product.pricingModel with
  | .perDay => fl (fl (unitPrice * durationDays) * quantity)
  | .percentage => fl (fl (baseFare * fl (unitPrice / 100)) * quantity)
  | .flat => fl (unitPrice * quantity)

def item (fl : ℚ → ℚ) (product : AncillaryProduct) (durationDays : ℕ) (baseFare : ℚ)
    (selection : AncillarySelectionInput) : CalculatedAncillaryItem :=
  let quantity := product.quantityOf selection.quantity
  let taxRate := columnNumber fl product.taxRate
  let itemSubtotal := product.subtotalOf fl durationDays baseFare quantity
  let taxAmount := fl (itemSubtotal * taxRate)
  { id := product.id
    code := product.code
    name := product.name
    category := product.category
    pricingModel := product.pricingModel
    unitPrice := columnNumber fl product.basePrice
    quantity
    taxRate
    taxAmount := roundedPaise fl taxAmount
    subtotal := roundedPaise fl itemSubtotal
    totalAmount := roundedPaise fl (fl (itemSubtotal + taxAmount)) }

end AncillaryProduct

/-- The items of the selections; a product that is not found or not active is left out. -/
def calculateAncillaries (fl : ℚ → ℚ) (upper : CaseMapping) (products : List AncillaryProduct)
    (selections : List AncillarySelectionInput) (rentalDurationDays : ℕ) (baseFare : ℚ)
    (vendorId : Id) : List CalculatedAncillaryItem :=
  selections.filterMap fun selection =>
    (products.find? fun product => product.code = upper.toUpperCase (trim selection.code) ∧
        product.isActive ∧ product.OfferedBy vendorId).map fun product =>
      product.item fl (max 1 rentalDurationDays) baseFare selection

/-!
## Quotes of the marketplace

`MarketplaceQuoteService`: a quote is priced from the resolved price of the rental, the coupon and
the optional products, and stored with a checksum of its amounts and dates; `getVerifiedQuote` reads
it back and compares the checksum, and `refreshQuote` makes it again from what its row keeps.

The numbers are JavaScript numbers: `fl` is what an operation makes of its exact result, with
doubles `Doubles.double`, and `id` where the arithmetic is taken to be exact.  A column stores the
decimal number that a double is converted to, with two decimals.

The hash is a parameter.  The names and descriptions of the lines are left out, as nothing reads
them.
-/

/-! ## The tables -/

structure ListedCar extends PricedCar where
  vendorId : Id
  pickupHubId : Option Id
  type : CarCategory

/-- What a quote is priced from. -/
structure MarketplaceTables where
  cars : Id → Option ListedCar
  rules : List RentalPricingRule
  calendar : LocalCalendar
  promotions : PromotionTables
  products : List AncillaryProduct
  upper : CaseMapping
  sha256 : String → String

/-- A date that is no date is `none`. -/
structure CreateMarketplaceQuoteInput where
  customerId : Option Id
  vendorId : Option Id
  branchId : Option Id
  returnBranchId : Option Id
  vehicleClass : Option CarCategory
  carId : Id
  startDate : Option ℤ
  endDate : Option ℤ
  tripType : Option TripType
  couponCode : Option String
  ancillaries : List AncillarySelectionInput
  deliveryAddress : Option String
  idempotencyKey : Option String
deriving DecidableEq

inductive MarketplaceLineType where
  | baseRental
  | gst
  | securityDeposit
  | durationDiscount
  | platformFee
  | couponDiscount
  | extraAddon
deriving DecidableEq, Repr

/-- A line, with the numbers that are computed or the columns that are stored. -/
structure MarketplaceLine (number : Type) where
  type : MarketplaceLineType
  rate : number
  quantity : number
  amount : number
  isRefundable : Bool
deriving DecidableEq

/-- What the row keeps of the request. -/
structure MarketplaceQuoteMetadata where
  integrityChecksum : String
  vehicleClass : CarCategory
  appliedCouponCode : Option String
  appliedRuleIds : List Id
  ancillarySelections : List AncillarySelectionInput
  deliveryAddress : Option String
deriving DecidableEq

/-- A row with its lines, in their order. -/
structure MarketplaceQuote where
  id : Id
  tenantId : Id
  customerId : Option Id
  carId : Id
  tripType : TripType
  startDate : ℤ
  endDate : ℤ
  durationDays : ℕ
  durationHours : ℕ
  subtotal : Money
  discountTotal : Money
  feesTotal : Money
  taxTotal : Money
  depositTotal : Money
  totalPayable : Money
  netToVendor : Money
  status : QuoteStatus
  expiresAt : ℤ
  idempotencyKey : Option String
  metadata : MarketplaceQuoteMetadata
  lineItems : List (MarketplaceLine Money)
deriving DecidableEq

/-! ## The price -/

/-- The number of a decimal column in which a number is stored. -/
def storedColumn (fl : ℚ → ℚ) (x : ℚ) : Option Money := Column.ofDecimal? (decimalOf fl x)

def MarketplaceLineType.ofCategory : PricingCategory → MarketplaceLineType
  | .base => .baseRental
  | .tax => .gst
  | .deposit => .securityDeposit
  | .discount => .durationDiscount
  | .multiplier | .fee => .platformFee

/-- The branches of a context are both given and differ. -/
def PricingResolutionContext.OneWay (ctx : PricingResolutionContext) : Prop :=
  given ctx.branchId ≠ none ∧ given ctx.returnBranchId ≠ none ∧ ctx.branchId ≠ ctx.returnBranchId

instance (ctx : PricingResolutionContext) : Decidable ctx.OneWay :=
  inferInstanceAs (Decidable (_ ∧ _ ∧ _))

/-- The sum of the fees of a context without deliveries. -/
def feesOf (fl : ℚ → ℚ) (ctx : PricingResolutionContext) (rates : RentalRates) : ℚ :=
  fl (fl rates.convenienceFee + if ctx.OneWay then fl rates.oneWayBaseFee else 0)

/-- `resolvePricing`, with its columns and its sum as numbers; its other totals are whole. -/
def resolvePricingIn (fl : ℚ → ℚ) (tables : RentalPricingTables) (calendar : LocalCalendar)
    (now : ℤ) (ctx : PricingResolutionContext) : Except HttpError EffectivePricingResolution :=
  (resolvePricing tables calendar now ctx).map fun price =>
    { price with
      feesTotal := feesOf fl ctx price.rates
      depositTotal := fl price.depositTotal
      lineItems := price.lineItems.map fun item =>
        { item with rate := fl item.rate, amount := fl item.amount } }

/-- A resolved price with the coupon that is applied and the products. -/
structure PricedQuote where
  price : EffectivePricingResolution
  coupon : Option PromotionEvaluationResult
  addons : List CalculatedAncillaryItem

def runningSum (fl : ℚ → ℚ) (start : ℚ) (amounts : List ℚ) : ℚ :=
  amounts.foldl (fun total amount => fl (total + amount)) start

namespace PricedQuote

variable (quote : PricedQuote) (fl : ℚ → ℚ)

def couponDiscounts : List ℚ :=
  quote.coupon.toList.map PromotionEvaluationResult.effectiveDiscountAmount

def discountTotal : ℚ := runningSum fl quote.price.discountTotal quote.couponDiscounts

def feesTotal : ℚ :=
  runningSum fl quote.price.feesTotal (quote.addons.map CalculatedAncillaryItem.subtotal)

def taxTotal : ℚ :=
  runningSum fl quote.price.taxTotal (quote.addons.map CalculatedAncillaryItem.taxAmount)

def totalPayable : ℚ :=
  max 0 (roundedPaise fl (fl (fl (fl (fl (quote.price.subtotal - quote.discountTotal fl) +
    quote.feesTotal fl) + quote.taxTotal fl) + quote.price.depositTotal)))

/-- The amounts of the checksum, in their order. -/
def amounts : List ℚ :=
  [quote.price.subtotal, quote.discountTotal fl, quote.feesTotal fl, quote.taxTotal fl,
    quote.price.depositTotal, quote.totalPayable fl]

/-- The lines of the resolved price, the coupon, and the products; a product's tax has none. -/
def lines : List (MarketplaceLine ℚ) :=
  (quote.price.lineItems.map fun item =>
    ⟨.ofCategory item.category, item.rate, item.quantity, item.amount, item.isRefundable⟩) ++
  (quote.coupon.toList.map fun coupon =>
    ⟨.couponDiscount, coupon.effectiveDiscountAmount, 1, -coupon.effectiveDiscountAmount, false⟩) ++
  (quote.addons.map fun addon =>
    ⟨.extraAddon, addon.unitPrice, addon.quantity, addon.subtotal, false⟩)

end PricedQuote

/-- `${carId}:${start}:${end}:` and the amounts. -/
def checksumPayload (fl : ℚ → ℚ) (carId : Id) (startDate endDate : ℤ) (amounts : List ℚ) :
    String :=
  amounts.foldl (fun text amount => text ++ ":" ++ String.ofList (numberText fl amount))
    (carId ++ ":" ++ CivilDate.toISOString startDate ++ ":" ++ CivilDate.toISOString endDate)

def quoteLockDurationMinutes : ℤ := 15

namespace MarketplaceTables

variable (fl : ℚ → ℚ) (market : MarketplaceTables) (now : ℤ) (input : CreateMarketplaceQuoteInput)

def pricingTables : RentalPricingTables where
  rules := market.rules
  cars carId := (market.cars carId).map ListedCar.toPricedCar

/-! ## Making a quote -/

/-- The interval of a request, if its dates are dates and in their order. -/
def interval : Option (ℤ × ℤ) :=
  match input.startDate, input.endDate with
  | some startDate, some endDate =>
    if CivilDate.ValidTime startDate ∧ CivilDate.ValidTime endDate ∧ startDate < endDate then
      some (startDate, endDate)
    else none
  | _, _ => none

def durationDays (interval : ℤ × ℤ) : ℕ :=
  max 1 ⌈((interval.2 - interval.1 : ℤ) : ℚ) / (1000 * 60 * 60 * 24)⌉₊

def durationHours (interval : ℤ × ℤ) : ℕ :=
  max 1 ⌈((interval.2 - interval.1 : ℤ) : ℚ) / (1000 * 60 * 60)⌉₊

def vendorOf (car : ListedCar) : Id := (given input.vendorId).getD car.vendorId

def classOf (car : ListedCar) : CarCategory := input.vehicleClass.getD car.type

def pricingContext (car : ListedCar) (interval : ℤ × ℤ) : PricingResolutionContext where
  vendorId := vendorOf input car
  branchId := given input.branchId <|> given car.pickupHubId
  returnBranchId := input.returnBranchId
  vehicleClass := classOf input car
  carId := some input.carId
  startDate := some interval.1
  endDate := some interval.2
  tripType := input.tripType.getD .selfDrive
  couponDiscountAmount := none
  deliveryFee := none
  pickupFee := none
  returnFee := none

def promotionContext (car : ListedCar) (interval : ℤ × ℤ) (price : EffectivePricingResolution) :
    PromotionEvaluationContext where
  customerId := input.customerId
  vendorId := vendorOf input car
  branchId := input.branchId
  vehicleClass := classOf input car
  tripType := input.tripType
  subtotal := price.subtotal
  durationDays := durationDays interval
  existingDiscountsCount := if 0 < price.discountTotal then 1 else 0

/-- The coupon of the request, if it is valid and worth something. -/
def couponOf (car : ListedCar) (interval : ℤ × ℤ) (price : EffectivePricingResolution) :
    Except HttpError (Option PromotionEvaluationResult) :=
  match given input.couponCode with
  | none => .ok none
  | some code =>
    (evaluatePromotion fl market.upper market.promotions now code
      (promotionContext input car interval price)).map fun result =>
        if result.isValid ∧ 0 < result.effectiveDiscountAmount then some result else none

def addonsOf (car : ListedCar) (interval : ℤ × ℤ) (price : EffectivePricingResolution) :
    List CalculatedAncillaryItem :=
  calculateAncillaries fl market.upper market.products input.ancillaries (durationDays interval)
    price.subtotal (vendorOf input car)

def priceQuote (car : ListedCar) (interval : ℤ × ℤ) : Except HttpError PricedQuote :=
  (resolvePricingIn fl market.pricingTables market.calendar now
    (pricingContext input car interval)).bind fun price =>
      (market.couponOf fl now input car interval price).map fun coupon =>
        { price, coupon, addons := market.addonsOf fl input car interval price }

/-- The line in columns, if it fits. -/
def storedLine (line : MarketplaceLine ℚ) : Option (MarketplaceLine Money) := do
  let rate ← storedColumn fl line.rate
  let quantity ← storedColumn fl line.quantity
  let amount ← storedColumn fl line.amount
  return { line with rate, quantity, amount }

def metadataOf (car : ListedCar) (interval : ℤ × ℤ) (quote : PricedQuote) :
    MarketplaceQuoteMetadata where
  integrityChecksum := market.sha256
    (checksumPayload fl input.carId interval.1 interval.2 (quote.amounts fl))
  vehicleClass := classOf input car
  appliedCouponCode := quote.coupon.map PromotionEvaluationResult.code
  appliedRuleIds := quote.price.appliedRuleIds
  ancillarySelections := input.ancillaries
  deliveryAddress := input.deliveryAddress

/-- The row, if its columns hold it. -/
def row (newId : Id) (car : ListedCar) (interval : ℤ × ℤ) (quote : PricedQuote) :
    Option MarketplaceQuote := do
  let subtotal ← storedColumn fl quote.price.subtotal
  let discountTotal ← storedColumn fl (quote.discountTotal fl)
  let feesTotal ← storedColumn fl (quote.feesTotal fl)
  let taxTotal ← storedColumn fl (quote.taxTotal fl)
  let depositTotal ← storedColumn fl quote.price.depositTotal
  let totalPayable ← storedColumn fl (quote.totalPayable fl)
  let netToVendor ← storedColumn fl quote.price.netToVendor
  let lineItems ← (quote.lines).mapM (storedLine fl)
  return {
    id := newId
    tenantId := vendorOf input car
    customerId := input.customerId
    carId := input.carId
    tripType := input.tripType.getD .selfDrive
    startDate := interval.1
    endDate := interval.2
    durationDays := durationDays interval
    durationHours := durationHours interval
    subtotal
    discountTotal
    feesTotal
    taxTotal
    depositTotal
    totalPayable
    netToVendor
    status := .active
    expiresAt := now + quoteLockDurationMinutes * 60 * 1000
    idempotencyKey := input.idempotencyKey
    metadata := market.metadataOf fl input car interval quote
    lineItems }

/-- The active quote that a repeated request is answered with. -/
def existingQuote (quotes : List MarketplaceQuote) : Option MarketplaceQuote :=
  match given input.idempotencyKey with
  | none => none
  | some key => (quotes.find? fun quote => quote.idempotencyKey = some key).filter fun quote =>
    quote.status = .active ∧ now < quote.expiresAt

/-- The row that a request which is not answered with an active quote would get. -/
def newQuote (newId : Id) : Except HttpError MarketplaceQuote :=
  match interval input with
  | none => .error (.badRequest "Invalid start or end date for quote creation.")
  | some interval =>
    match market.cars input.carId with
    | none => .error (.notFound ("Vehicle with ID '" ++ input.carId ++ "' not found."))
    | some car =>
      (market.priceQuote fl now input car interval).bind fun quote =>
        match market.row fl now input newId car interval quote with
        | none => .error (.internal "numeric field overflow")
        | some row => .ok row

/-- The table takes a row whose id and key are new. -/
def insertQuote (quotes : List MarketplaceQuote) (row : MarketplaceQuote) :
    Except HttpError (List MarketplaceQuote × MarketplaceQuote) :=
  if row.id ∈ quotes.map MarketplaceQuote.id ∨ row.idempotencyKey ≠ none ∧
      ∃ other ∈ quotes, other.idempotencyKey = row.idempotencyKey then
    .error (.internal "Unique constraint failed")
  else .ok (quotes ++ [row], row)

def createQuote (quotes : List MarketplaceQuote) (newId : Id) :
    Except HttpError (List MarketplaceQuote × MarketplaceQuote) :=
  match interval input with
  | none => .error (.badRequest "Invalid start or end date for quote creation.")
  | some _ =>
    match existingQuote now input quotes with
    | some existing => .ok (quotes, existing)
    | none => (market.newQuote fl now input newId).bind (insertQuote quotes)

/-! ## Reading and renewing a quote -/

def setStatus (status : QuoteStatus) (quote : MarketplaceQuote) : MarketplaceQuote :=
  { quote with status }

/-- `expectedChecksum` of a row, unless a date of it is none. -/
def expectedChecksum (quote : MarketplaceQuote) : Except HttpError String :=
  if CivilDate.ValidTime quote.startDate ∧ CivilDate.ValidTime quote.endDate then
    .ok (market.sha256 (checksumPayload fl quote.carId quote.startDate quote.endDate
      ([quote.subtotal, quote.discountTotal, quote.feesTotal, quote.taxTotal, quote.depositTotal,
        quote.totalPayable].map (columnNumber fl))))
  else .error (.internal "Invalid time value")

/-- The checks of a row that is read, without the write of its expiry. -/
def verifyQuote (quote : MarketplaceQuote) : Except HttpError MarketplaceQuote :=
  if quote.status = .active ∧ quote.expiresAt < now then
    .error (.conflict ("The quote has expired (15-minute lock exceeded). " ++
      "Please refresh the quote to proceed with current rates."))
  else if quote.status ≠ .active then
    .error (.conflict ("This quote is no longer active (status: " ++ quote.status.text ++ ")."))
  else if quote.metadata.integrityChecksum = "" then .ok quote
  else
    (market.expectedChecksum fl quote).bind fun expected =>
      if quote.metadata.integrityChecksum ≠ expected then
        .error (.conflict ("Quote financial integrity violation: " ++
          "quote amounts or dates have been tampered with."))
      else .ok quote

def getVerifiedQuote (quotes : List MarketplaceQuote) (quoteId : Id) :
    List MarketplaceQuote × Except HttpError MarketplaceQuote :=
  match quotes.find? fun quote => quote.id = quoteId with
  | none => (quotes, .error (.notFound ("Quote '" ++ quoteId ++ "' not found.")))
  | some quote =>
    (if quote.status = .active ∧ quote.expiresAt < now then
      updateKey MarketplaceQuote.id quoteId (setStatus .expired) quotes
     else quotes,
     market.verifyQuote fl now quote)

/-- The request that a refresh makes of what the row has kept. -/
def refreshInput (quote : MarketplaceQuote) (customerId : Option Id) :
    CreateMarketplaceQuoteInput where
  customerId := given customerId <|> given quote.customerId
  vendorId := some quote.tenantId
  branchId := none
  returnBranchId := none
  vehicleClass := some quote.metadata.vehicleClass
  carId := quote.carId
  startDate := some quote.startDate
  endDate := some quote.endDate
  tripType := some quote.tripType
  couponCode := quote.metadata.appliedCouponCode
  ancillaries := quote.metadata.ancillarySelections
  deliveryAddress := quote.metadata.deliveryAddress
  idempotencyKey := none

/-- The old quote is superseded before the new one is made. -/
def supersede (quotes : List MarketplaceQuote) (quote : MarketplaceQuote) :
    List MarketplaceQuote :=
  if quote.status = .active ∨ quote.status = .expired then
    updateKey MarketplaceQuote.id quote.id (setStatus .superseded) quotes
  else quotes

def refreshQuote (quotes : List MarketplaceQuote) (quoteId : Id) (customerId : Option Id)
    (newId : Id) : List MarketplaceQuote × Except HttpError MarketplaceQuote :=
  match quotes.find? fun quote => quote.id = quoteId with
  | none => (quotes, .error (.notFound ("Quote '" ++ quoteId ++ "' not found.")))
  | some quote =>
    let superseded := supersede quotes quote
    match market.createQuote fl now (refreshInput quote customerId) superseded newId with
    | .error e => (superseded, .error e)
    | .ok (quotes', renewed) => (quotes', .ok renewed)

end MarketplaceTables

end CarRental
