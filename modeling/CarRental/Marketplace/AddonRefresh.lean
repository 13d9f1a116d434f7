import CarRental.Marketplace.CheckoutOrchestrator
import CarRental.Marketplace.QuoteIdentity
import CarRental.Pricing.QuoteRefresh

/-!
# Addons of a checkout session

`configureAddons` renews the session's quote from what the row of the quote has kept, and writes the
chosen addons to the session.  The chosen addons do not reach `refreshQuote`, so that the new quote
has the addons of the old one.

The branches of the request are not kept, nor is a coupon that was not applied.  Where that makes no
difference (`PassedOn`), the new quote is the one that the request would get with the addons that
the first quote had.
-/

namespace CarRental

open KeyedRows Marketplace

/-! ## The calls -/

/-- A session, with what `configureAddons` reads and writes of it. -/
structure AddonSession where
  sessionId : Id
  customerId : Id
  quoteId : Id
  status : CheckoutSessionStatus
  ancillarySelections : Option (List AncillarySelectionInput)
  expiresAt : ℤ
deriving DecidableEq

structure AddonDesk where
  quotes : List MarketplaceQuote
  sessions : List AddonSession
deriving DecidableEq

/-- A call, with the tables and the clock that it meets. -/
structure AddonCall where
  market : MarketplaceTables
  now : ℤ
  customerId : Id
  addons : List AncillarySelectionInput
  newId : Id

def AddonCall.tables (upper : CaseMapping) (call : AddonCall) : MarketplaceTables :=
  { call.market with upper }

/-- The write of a check that finds the session expired. -/
def AddonSession.expire (session : AddonSession) : AddonSession :=
  { session with status := .expired }

def AddonSession.configured (session : AddonSession) (quoteId : Id)
    (addons : List AncillarySelectionInput) : AddonSession :=
  { session with quoteId, ancillarySelections := some addons }

namespace AddonDesk

variable (fl : ℚ → ℚ) (desk : AddonDesk) (sessionId : Id)

def session? : Option AddonSession :=
  desk.sessions.find? fun session => session.sessionId = sessionId

def quote? (quoteId : Id) : Option MarketplaceQuote :=
  desk.quotes.find? fun quote => quote.id = quoteId

def sessionQuote : Option MarketplaceQuote :=
  (desk.session? sessionId).bind fun session => desk.quote? session.quoteId

/-- A session with a quote that is accepted; it expires with it. -/
def createCheckoutSession (market : MarketplaceTables) (now : ℤ) (quoteId customerId : Id) :
    AddonDesk × Except HttpError AddonSession :=
  match market.getVerifiedQuote fl now desk.quotes quoteId with
  | (quotes, .error e) => ({ desk with quotes }, .error e)
  | (quotes, .ok quote) =>
    if sessionId ∈ desk.sessions.map AddonSession.sessionId then
      ({ desk with quotes }, .error (.internal "Unique constraint failed"))
    else
      let session : AddonSession :=
        ⟨sessionId, customerId, quote.id, .quoteLocked, none, quote.expiresAt⟩
      ({ quotes, sessions := desk.sessions ++ [session] }, .ok session)

/-- The addons are written to the session, and are not passed on to `refreshQuote`. -/
def configureAddons (upper : CaseMapping) (call : AddonCall) :
    AddonDesk × Except HttpError AddonSession :=
  match desk.session? sessionId with
  | none => (desk, .error (.notFound ("Checkout session '" ++ sessionId ++ "' not found.")))
  | some session =>
    if session.customerId ≠ call.customerId then
      (desk, .error (.notFound ("Checkout session '" ++ sessionId ++ "' not found.")))
    else if session.status = .confirmed then
      (desk, .error (.conflict "This checkout session has already been completed."))
    else if session.status = .expired ∨ session.expiresAt < call.now then
      ({ desk with
          sessions := updateKey AddonSession.sessionId sessionId
            AddonSession.expire desk.sessions },
        .error (.conflict "The checkout session has expired. Please restart checkout."))
    else
      match (call.tables upper).refreshQuote fl call.now desk.quotes session.quoteId
          (some call.customerId) call.newId with
      | (quotes, .error e) => ({ desk with quotes }, .error e)
      | (quotes, .ok renewed) =>
        ({ quotes
           sessions := updateKey AddonSession.sessionId sessionId
            (fun session => session.configured renewed.id call.addons) desk.sessions },
          .ok (session.configured renewed.id call.addons))

end AddonDesk

/-- A call of the session, whether it returns or not. -/
def addonStep (fl : ℚ → ℚ) (upper : CaseMapping) (sessionId : Id) (desk : AddonDesk)
    (call : AddonCall) : AddonDesk :=
  (desk.configureAddons fl sessionId upper call).1

/-! ## What a refresh passes on -/

namespace RentalTerms

variable {terms : RentalTerms}

def returned (terms : RentalTerms) : RentalTerms :=
  { terms with ctx := { terms.ctx with returnBranchId := none } }

theorem not_oneWay_returned (terms : RentalTerms) : ¬terms.returned.OneWay := by
  rintro ⟨-, hreturn, -⟩
  exact hreturn rfl

theorem oneWayFee_returned (h : ¬terms.OneWay) : terms.returned.oneWayFee = terms.oneWayFee := by
  rw [oneWayFee, oneWayFee, if_neg h, if_neg terms.not_oneWay_returned]

theorem totalFees_returned (h : ¬terms.OneWay) : terms.returned.totalFees = terms.totalFees := by
  rw [totalFees, totalFees, oneWayFee_returned h]
  rfl

theorem taxableAmount_returned (h : ¬terms.OneWay) :
    terms.returned.taxableAmount = terms.taxableAmount := by
  rw [taxableAmount, taxableAmount, totalFees_returned h]
  rfl

theorem taxTotal_returned (h : ¬terms.OneWay) : terms.returned.taxTotal = terms.taxTotal := by
  rw [taxTotal, taxTotal, taxableAmount_returned h]

theorem totalPayable_returned (h : ¬terms.OneWay) :
    terms.returned.totalPayable = terms.totalPayable := by
  rw [totalPayable, totalPayable, taxableAmount_returned h, taxTotal_returned h]
  rfl

theorem lineItems_returned (h : ¬terms.OneWay) : terms.returned.lineItems = terms.lineItems := by
  unfold lineItems
  rw [if_neg h, if_neg terms.not_oneWay_returned, taxTotal_returned h]
  rfl

end RentalTerms

theorem resolvePricing_returned {tables : RentalPricingTables} {calendar : LocalCalendar} {now : ℤ}
    {ctx : PricingResolutionContext} (h : ¬ctx.OneWay) :
    resolvePricing tables calendar now { ctx with returnBranchId := none } =
      resolvePricing tables calendar now ctx := by
  obtain ⟨vendorId, branchId, returnBranchId, vehicleClass, carId, startDate, endDate, tripType,
    couponDiscountAmount, deliveryFee, pickupFee, returnFee⟩ := ctx
  cases startDate with
  | none => rfl
  | some startDate =>
    cases endDate with
    | none => rfl
    | some endDate =>
      have hterms : ¬(rentalTerms tables calendar now ⟨vendorId, branchId, returnBranchId,
          vehicleClass, carId, some startDate, some endDate, tripType, couponDiscountAmount,
          deliveryFee, pickupFee, returnFee⟩ startDate endDate).OneWay := h
      have hreturned : rentalTerms tables calendar now ⟨vendorId, branchId, none, vehicleClass,
            carId, some startDate, some endDate, tripType, couponDiscountAmount, deliveryFee,
            pickupFee, returnFee⟩ startDate endDate =
          (rentalTerms tables calendar now ⟨vendorId, branchId, returnBranchId, vehicleClass,
            carId, some startDate, some endDate, tripType, couponDiscountAmount, deliveryFee,
            pickupFee, returnFee⟩ startDate endDate).returned := rfl
      unfold resolvePricing
      dsimp only
      rw [hreturned, RentalTerms.lineItems_returned hterms,
        RentalTerms.totalFees_returned hterms, RentalTerms.taxTotal_returned hterms,
        RentalTerms.totalPayable_returned hterms]
      rfl

/-- The branch and the trip type of a request decide no more of a coupon than those that its quote
has kept. -/
def MarketplaceCoupon.SameFor (coupon : MarketplaceCoupon) (input : CreateMarketplaceQuoteInput) :
    Prop :=
  (coupon.tripType = none ∨ coupon.tripType = some (input.tripType.getD .selfDrive) ∨
      input.tripType ≠ none) ∧
    (given coupon.branchId = none ∨ given input.branchId = none ∨
      coupon.branchId = input.branchId)

instance (coupon : MarketplaceCoupon) (input : CreateMarketplaceQuoteInput) :
    Decidable (coupon.SameFor input) :=
  inferInstanceAs (Decidable ((_ ∨ _ ∨ _) ∧ (_ ∨ _ ∨ _)))

theorem MarketplaceCoupon.SameFor.rejection {coupon : MarketplaceCoupon}
    {input : CreateMarketplaceQuoteInput} (h : coupon.SameFor input) (fl : ℚ → ℚ)
    (tables : PromotionTables) (now : ℤ) {ctx : PromotionEvaluationContext}
    (hbranch : ctx.branchId = input.branchId) (htrip : ctx.tripType = input.tripType) :
    coupon.rejection fl tables now
        { ctx with branchId := none, tripType := some (input.tripType.getD .selfDrive) } =
      coupon.rejection fl tables now ctx := by
  obtain ⟨htripType, hbranchId⟩ := h
  have hother : (given coupon.branchId ≠ none ∧ given ctx.branchId ≠ none ∧
      coupon.branchId ≠ ctx.branchId) ↔ False := by
    rw [hbranch]
    rcases hbranchId with hnone | hnone | hequal
    · simp [hnone]
    · simp [hnone]
    · simp [hequal]
  have hkept : (coupon.tripType ≠ none ∧ some (input.tripType.getD .selfDrive) ≠ none ∧
      coupon.tripType ≠ some (input.tripType.getD .selfDrive)) ↔
      (coupon.tripType ≠ none ∧ ctx.tripType ≠ none ∧ coupon.tripType ≠ ctx.tripType) := by
    rw [htrip]
    cases hgiven : input.tripType with
    | some tripType => simp
    | none =>
      rw [hgiven] at htripType
      rcases htripType with hnone | hself | hgiven'
      · simp [hnone]
      · simp [hself]
      · exact absurd rfl hgiven'
  have hnoBranch : (given coupon.branchId ≠ none ∧ given (none : Option Id) ≠ none ∧
      coupon.branchId ≠ none) ↔ False := by simp
  unfold MarketplaceCoupon.rejection
  simp only [hother, hkept, hnoBranch]

theorem evaluatePromotion_congr {fl : ℚ → ℚ} {upper : CaseMapping} {tables : PromotionTables}
    {now : ℤ} {code code' : String} {ctx ctx' : PromotionEvaluationContext}
    (hcode : upper.toUpperCase (trim code) = upper.toUpperCase (trim code'))
    (hsubtotal : ctx.subtotal = ctx'.subtotal)
    (hrejection : ∀ coupon ∈ tables.coupons, coupon.code = upper.toUpperCase (trim code') →
      coupon.rejection fl tables now ctx = coupon.rejection fl tables now ctx') :
    evaluatePromotion fl upper tables now code ctx =
      evaluatePromotion fl upper tables now code' ctx' := by
  unfold evaluatePromotion
  dsimp only
  rw [hcode]
  cases hfound : tables.coupons.find? fun coupon =>
      coupon.code = upper.toUpperCase (trim code') with
  | none => rfl
  | some coupon =>
    have hequal : coupon.code = upper.toUpperCase (trim code') :=
      of_decide_eq_true (List.find?_some hfound :)
    dsimp only
    rw [hrejection coupon (List.mem_of_find?_eq_some hfound) hequal, hsubtotal]

/-! ## What a row keeps of a request -/

/-- What a row has of a request that a customer asks for again. -/
structure KeepsRequest (upper : CaseMapping) (customerId : Id)
    (input : CreateMarketplaceQuoteInput) (row : MarketplaceQuote) : Prop where
  carId : row.carId = input.carId
  startDate : input.startDate = some row.startDate
  endDate : input.endDate = some row.endDate
  tripType : row.tripType = input.tripType.getD .selfDrive
  ancillaries : row.metadata.ancillarySelections = input.ancillaries
  deliveryAddress : row.metadata.deliveryAddress = input.deliveryAddress
  customerId : (given (some customerId) <|> given row.customerId) =
    (given (some customerId) <|> given input.customerId)
  couponCode : ∀ code ∈ row.metadata.appliedCouponCode, ∃ asked,
    given input.couponCode = some asked ∧ code = upper.toUpperCase (trim asked)

namespace MarketplaceTables

variable {fl : ℚ → ℚ} {market : MarketplaceTables} {now : ℤ} {upper : CaseMapping}
  {input : CreateMarketplaceQuoteInput} {newId customerId : Id} {row row' : MarketplaceQuote}
  {car : ListedCar} {interval : ℤ × ℤ} {quote : PricedQuote} {price : EffectivePricingResolution}

theorem dates_of_interval (h : MarketplaceTables.interval input = some interval) :
    input.startDate = some interval.1 ∧ input.endDate = some interval.2 := by
  unfold MarketplaceTables.interval at h
  split at h
  next hstart hend =>
    split at h
    · cases h
      exact ⟨hstart, hend⟩
    · cases h
  · cases h

theorem request_of_row (h : market.row fl now input newId car interval quote = some row) :
    row.id = newId ∧ row.tenantId = vendorOf input car ∧ row.customerId = input.customerId ∧
      row.tripType = input.tripType.getD .selfDrive ∧
      row.idempotencyKey = input.idempotencyKey := by
  simp only [MarketplaceTables.row, Option.bind_eq_bind, Option.bind_eq_some_iff] at h
  obtain ⟨subtotal, -, discountTotal, -, feesTotal, -, taxTotal, -, depositTotal, -, totalPayable,
    -, netToVendor, -, lineItems, -, hrow⟩ := h
  cases hrow
  exact ⟨rfl, rfl, rfl, rfl, rfl⟩

theorem code_of_couponOf {coupon : PromotionEvaluationResult}
    (h : market.couponOf fl now input car interval price = .ok (some coupon)) :
    ∃ asked, given input.couponCode = some asked ∧
      coupon.code = market.upper.toUpperCase (trim asked) := by
  unfold couponOf at h
  split at h
  · cases h
  next asked hasked =>
    obtain ⟨result, hresult, happlied⟩ := bind_eq_ok.mp h
    dsimp only at happlied
    split at happlied
    next hvalid =>
      cases happlied
      refine ⟨asked, hasked, ?_⟩
      unfold evaluatePromotion at hresult
      dsimp only at hresult
      split at hresult
      · cases hresult
      next found hfound =>
        split at hresult
        · cases hresult
          rfl
        · cases hresult
          exact of_decide_eq_true (List.find?_some hfound :)
    · cases happlied

theorem keepsRequest_of_newQuote (h : market.newQuote fl now input newId = .ok row) :
    KeepsRequest market.upper customerId input row := by
  obtain ⟨interval, car, quote, hinterval, hcar, hquote, hrow⟩ := newQuote_eq_ok h
  obtain ⟨-, -, -, -, -, -, -, hcarId, hstartDate, hendDate, -, -, hmetadata⟩ := row_eq_some hrow
  obtain ⟨-, -, hcustomer, htripType, -⟩ := request_of_row hrow
  obtain ⟨hstart, hend⟩ := dates_of_interval hinterval
  obtain ⟨-, -, -, -, -, -, hcoupon, -⟩ := priceQuote_eq_ok (interval_eq_some hinterval).2.2 hquote
  constructor
  · exact hcarId
  · rw [hstartDate, hstart]
  · rw [hendDate, hend]
  · exact htripType
  · rw [hmetadata, metadataOf]
  · rw [hmetadata, metadataOf]
  · rw [hcustomer]
  · intro code hcode
    rw [hmetadata] at hcode
    obtain ⟨coupon, happlied, rfl⟩ := Option.map_eq_some_iff.mp hcode
    rw [happlied] at hcoupon
    exact code_of_couponOf hcoupon

theorem given_of_ne {text : String} (h : text ≠ "") : given (some text) = some text :=
  given_eq_some.mpr ⟨rfl, h⟩

theorem given_orElse (x y : Option String) :
    given (given x <|> given y) = (given x <|> given y) := by
  cases hx : given x with
  | some value => simp [given, (given_eq_some.mp hx).2]
  | none =>
    cases hy : given y with
    | some value => simp [given, (given_eq_some.mp hy).2]
    | none => rfl

theorem KeepsRequest.refresh (hupper : market.upper.StableUpper)
    (h : KeepsRequest market.upper customerId input row)
    (hmade : market.newQuote fl now (refreshInput row (some customerId)) newId = .ok row') :
    KeepsRequest market.upper customerId input row' := by
  have hkept : KeepsRequest market.upper customerId (refreshInput row (some customerId)) row' :=
    keepsRequest_of_newQuote hmade
  constructor
  · exact hkept.carId.trans h.carId
  · exact h.startDate.trans hkept.startDate
  · exact h.endDate.trans hkept.endDate
  · exact hkept.tripType.trans h.tripType
  · exact hkept.ancillaries.trans h.ancillaries
  · exact hkept.deliveryAddress.trans h.deliveryAddress
  · rw [hkept.customerId, refreshInput, given_orElse, ← h.customerId]
    cases given (some customerId) with
    | none => rfl
    | some value => rfl
  · intro code hcode
    obtain ⟨again, hagain, hequal⟩ := hkept.couponCode code hcode
    obtain ⟨asked, hasked, happlied⟩ := h.couponCode again (given_mem hagain)
    refine ⟨asked, hasked, ?_⟩
    rw [hequal, happlied, hupper.trim_toUpperCase, hupper.toUpperCase_toUpperCase]

/-! ## A kept request and the request -/

/-- The request with other addons, asked for again by a customer. -/
def requestAgain (input : CreateMarketplaceQuoteInput) (customerId : Id)
    (addons : List AncillarySelectionInput) : CreateMarketplaceQuoteInput :=
  { input with
    customerId := given (some customerId) <|> given input.customerId
    ancillaries := addons
    idempotencyKey := none }

/-- What a refresh does not pass on makes no difference to the request. -/
structure PassedOn (market : MarketplaceTables) (input : CreateMarketplaceQuoteInput)
    (refreshed : MarketplaceQuote) (car : ListedCar) : Prop where
  vendor : vendorOf input car = refreshed.tenantId
  vehicleClass : classOf input car = refreshed.metadata.vehicleClass
  branch : given input.branchId = none ∨ given input.branchId = given car.pickupHubId
  oneWay : ¬(pricingContext input car (refreshed.startDate, refreshed.endDate)).OneWay
  coupon : given input.couponCode = none ∨
    given refreshed.metadata.appliedCouponCode ≠ none ∧
      ∀ coupon ∈ market.promotions.coupons,
        coupon.code = market.upper.toUpperCase (trim (input.couponCode.getD "")) →
          coupon.SameFor input

section Kept

variable {refreshed : MarketplaceQuote}

theorem interval_refreshInput (h : KeepsRequest upper customerId input refreshed) :
    MarketplaceTables.interval (refreshInput refreshed (some customerId)) =
      MarketplaceTables.interval (requestAgain input customerId input.ancillaries) := by
  unfold MarketplaceTables.interval refreshInput requestAgain
  rw [h.startDate, h.endDate]

theorem vendorOf_refreshInput (h : market.PassedOn input refreshed car) :
    vendorOf (refreshInput refreshed (some customerId)) car = vendorOf input car := by
  have hvendor := h.vendor
  unfold vendorOf refreshInput at *
  cases hgiven : given input.vendorId with
  | none =>
    rw [hgiven, Option.getD_none] at hvendor
    rw [Option.getD_none, ← hvendor]
    by_cases hempty : car.vendorId = ""
    · rw [hempty]
      rfl
    · rw [given_of_ne hempty, Option.getD_some]
  | some vendorId =>
    rw [hgiven, Option.getD_some] at hvendor
    rw [Option.getD_some, ← hvendor, given_of_ne (given_eq_some.mp hgiven).2, Option.getD_some]

theorem classOf_refreshInput (h : market.PassedOn input refreshed car) :
    classOf (refreshInput refreshed (some customerId)) car = classOf input car :=
  h.vehicleClass.symm

theorem pricingContext_refreshInput (hkept : KeepsRequest upper customerId input refreshed)
    (h : market.PassedOn input refreshed car) (interval : ℤ × ℤ) :
    pricingContext (refreshInput refreshed (some customerId)) car interval =
      { pricingContext input car interval with returnBranchId := none } := by
  have hbranch : (given (none : Option Id) <|> given car.pickupHubId) =
      (given input.branchId <|> given car.pickupHubId) := by
    rcases h.branch with hnone | hhub
    · rw [hnone]
      rfl
    · rw [hhub]
      cases given car.pickupHubId with
      | none => rfl
      | some hub => rfl
  have htrip : (refreshInput refreshed (some customerId)).tripType.getD .selfDrive =
      input.tripType.getD .selfDrive := hkept.tripType
  unfold pricingContext
  rw [vendorOf_refreshInput h, classOf_refreshInput h, htrip]
  simp only [refreshInput, hbranch, hkept.carId]

theorem customerId_refreshInput (h : KeepsRequest upper customerId input refreshed) :
    (refreshInput refreshed (some customerId)).customerId =
      (requestAgain input customerId input.ancillaries).customerId := h.customerId

theorem couponOf_refreshInput (hupper : market.upper.StableUpper)
    (hkept : KeepsRequest market.upper customerId input refreshed)
    (h : market.PassedOn input refreshed car) (interval : ℤ × ℤ)
    (price : EffectivePricingResolution) :
    market.couponOf fl now (refreshInput refreshed (some customerId)) car interval price =
      market.couponOf fl now (requestAgain input customerId input.ancillaries) car interval
        price := by
  have hnormal : ∀ code, given refreshed.metadata.appliedCouponCode = some code → ∃ asked,
      given input.couponCode = some asked ∧
        market.upper.toUpperCase (trim code) = market.upper.toUpperCase (trim asked) := by
    intro code hcode
    obtain ⟨asked, hasked, happlied⟩ := hkept.couponCode code (given_mem hcode)
    refine ⟨asked, hasked, ?_⟩
    rw [happlied, hupper.trim_toUpperCase, hupper.toUpperCase_toUpperCase]
  have hkeptCode : (refreshInput refreshed (some customerId)).couponCode =
      refreshed.metadata.appliedCouponCode := rfl
  have hcode : (requestAgain input customerId input.ancillaries).couponCode = input.couponCode :=
    rfl
  unfold couponOf
  rw [hkeptCode, hcode]
  cases happlied : given refreshed.metadata.appliedCouponCode with
  | none =>
    rcases h.coupon with hnone | ⟨hne, -⟩
    · rw [hnone]
    · exact absurd happlied hne
  | some code =>
    obtain ⟨asked, hasked, hequal⟩ := hnormal code happlied
    have hcontext : promotionContext (refreshInput refreshed (some customerId)) car interval
          price =
        { promotionContext (requestAgain input customerId input.ancillaries) car interval price
          with branchId := none, tripType := some (input.tripType.getD .selfDrive) } := by
      unfold promotionContext
      rw [customerId_refreshInput hkept, vendorOf_refreshInput h, classOf_refreshInput h]
      simp only [refreshInput, hkept.tripType]
      rfl
    have hsame : ∀ coupon ∈ market.promotions.coupons,
        coupon.code = market.upper.toUpperCase (trim asked) → coupon.SameFor input := by
      rcases h.coupon with hnone | ⟨-, hsame⟩
      · rw [hnone] at hasked
        cases hasked
      · rwa [given_mem hasked] at hsame
    have hpromotion : evaluatePromotion fl market.upper market.promotions now code
          (promotionContext (refreshInput refreshed (some customerId)) car interval price) =
        evaluatePromotion fl market.upper market.promotions now asked
          (promotionContext (requestAgain input customerId input.ancillaries) car interval
            price) := by
      refine evaluatePromotion_congr hequal ?_ ?_
      · rfl
      · intro coupon hmem hcoupon
        rw [hcontext]
        exact (hsame coupon hmem hcoupon).rejection fl _ _ rfl rfl
    rw [hasked]
    dsimp only
    rw [hpromotion]

theorem resolvePricingIn_returned {tables : RentalPricingTables} {calendar : LocalCalendar}
    {ctx : PricingResolutionContext} (h : ¬ctx.OneWay) :
    resolvePricingIn fl tables calendar now { ctx with returnBranchId := none } =
      resolvePricingIn fl tables calendar now ctx := by
  have hreturned : ¬PricingResolutionContext.OneWay { ctx with returnBranchId := none } := by
    rintro ⟨-, hreturn, -⟩
    exact hreturn rfl
  unfold resolvePricingIn feesOf
  rw [resolvePricing_returned h]
  simp only [if_neg h, if_neg hreturned]

theorem priceQuote_kept (hupper : market.upper.StableUpper)
    (hkept : KeepsRequest market.upper customerId input refreshed)
    (h : market.PassedOn input refreshed car) (interval : ℤ × ℤ) :
    market.priceQuote fl now (refreshInput refreshed (some customerId)) car interval =
      market.priceQuote fl now (requestAgain input customerId input.ancillaries) car interval := by
  have hresolved : resolvePricingIn fl market.pricingTables market.calendar now
        (pricingContext (refreshInput refreshed (some customerId)) car interval) =
      resolvePricingIn fl market.pricingTables market.calendar now
        (pricingContext (requestAgain input customerId input.ancillaries) car interval) := by
    rw [pricingContext_refreshInput hkept h]
    exact resolvePricingIn_returned h.oneWay
  have haddons : ∀ price,
      market.addonsOf fl (refreshInput refreshed (some customerId)) car interval price =
        market.addonsOf fl (requestAgain input customerId input.ancillaries) car interval
          price := by
    intro price
    unfold addonsOf
    rw [vendorOf_refreshInput h]
    simp only [refreshInput, requestAgain, hkept.ancillaries]
    rfl
  unfold priceQuote
  rw [hresolved]
  simp only [couponOf_refreshInput hupper hkept h, haddons]

theorem row_kept (hkept : KeepsRequest upper customerId input refreshed)
    (h : market.PassedOn input refreshed car) (interval : ℤ × ℤ) (quote : PricedQuote) :
    market.row fl now (refreshInput refreshed (some customerId)) newId car interval quote =
      market.row fl now (requestAgain input customerId input.ancillaries) newId car interval
        quote := by
  have hcarId : (refreshInput refreshed (some customerId)).carId =
      (requestAgain input customerId input.ancillaries).carId := hkept.carId
  have htrip : (refreshInput refreshed (some customerId)).tripType.getD .selfDrive =
      (requestAgain input customerId input.ancillaries).tripType.getD .selfDrive := hkept.tripType
  have hmetadata : market.metadataOf fl (refreshInput refreshed (some customerId)) car interval
        quote =
      market.metadataOf fl (requestAgain input customerId input.ancillaries) car interval
        quote := by
    unfold metadataOf
    rw [classOf_refreshInput h, hcarId]
    simp only [refreshInput, requestAgain, hkept.ancillaries, hkept.deliveryAddress]
    rfl
  unfold MarketplaceTables.row
  rw [vendorOf_refreshInput h, customerId_refreshInput hkept, hcarId, htrip, hmetadata]
  rfl

theorem newQuote_kept (hupper : market.upper.StableUpper)
    (hkept : KeepsRequest market.upper customerId input refreshed)
    (h : ∀ car ∈ market.cars input.carId, market.PassedOn input refreshed car) :
    market.newQuote fl now (refreshInput refreshed (some customerId)) newId =
      market.newQuote fl now (requestAgain input customerId input.ancillaries) newId := by
  have hcarId : (refreshInput refreshed (some customerId)).carId =
      (requestAgain input customerId input.ancillaries).carId := hkept.carId
  unfold newQuote
  rw [interval_refreshInput hkept, hcarId]
  cases MarketplaceTables.interval (requestAgain input customerId input.ancillaries) with
  | none => rfl
  | some interval =>
    cases hcar : market.cars (requestAgain input customerId input.ancillaries).carId with
    | none => rfl
    | some car =>
      have hpassed := h car hcar
      have hprice : market.priceQuote fl now (refreshInput refreshed (some customerId)) car
            interval =
          market.priceQuote fl now (requestAgain input customerId input.ancillaries) car
            interval :=
        priceQuote_kept hupper hkept hpassed interval
      have hrow : ∀ quote, market.row fl now (refreshInput refreshed (some customerId)) newId
            car interval quote =
          market.row fl now (requestAgain input customerId input.ancillaries) newId car
            interval quote := row_kept hkept hpassed interval
      dsimp only
      rw [hprice]
      simp only [hrow]

end Kept

/-! ## Tables of quotes -/

variable {quotes : List MarketplaceQuote}

theorem insertQuote_eq_ok {made : MarketplaceQuote}
    {stored : List MarketplaceQuote × MarketplaceQuote} (hkey : made.idempotencyKey = none) :
    insertQuote quotes made = .ok stored ↔
      made = stored.2 ∧ stored.2.id ∉ quotes.map MarketplaceQuote.id ∧
        stored.1 = quotes ++ [stored.2] := by
  unfold insertQuote
  rw [hkey]
  constructor
  · intro h
    split at h
    · cases h
    next hfresh =>
      cases h
      exact ⟨rfl, fun hmem => hfresh (.inl hmem), rfl⟩
  · rintro ⟨rfl, hfresh, hquotes⟩
    rw [if_neg (by simpa using hfresh), ← hquotes]

theorem createQuote_eq_ok {stored : List MarketplaceQuote × MarketplaceQuote}
    (hkey : input.idempotencyKey = none) :
    market.createQuote fl now input quotes newId = .ok stored ↔
      market.newQuote fl now input newId = .ok stored.2 ∧
        stored.2.id ∉ quotes.map MarketplaceQuote.id ∧ stored.1 = quotes ++ [stored.2] := by
  have hexisting : existingQuote now input quotes = none := by rw [existingQuote, hkey]; rfl
  have hinsert : ∀ made, market.newQuote fl now input newId = .ok made →
      (insertQuote quotes made = .ok stored ↔
        made = stored.2 ∧ stored.2.id ∉ quotes.map MarketplaceQuote.id ∧
          stored.1 = quotes ++ [stored.2]) := by
    intro made hmade
    obtain ⟨interval, car, quote, -, -, -, hrow⟩ := newQuote_eq_ok hmade
    obtain ⟨-, -, -, -, hrequest⟩ := request_of_row hrow
    exact insertQuote_eq_ok (hrequest.trans hkey)
  unfold createQuote
  cases hinterval : MarketplaceTables.interval input with
  | none =>
    dsimp only
    constructor
    · nofun
    · rintro ⟨hmade, -⟩
      obtain ⟨interval, -, -, hsome, -⟩ := newQuote_eq_ok hmade
      rw [hinterval] at hsome
      cases hsome
  | some interval =>
    rw [hexisting]
    dsimp only
    rw [bind_eq_ok]
    constructor
    · rintro ⟨made, hmade, hinserted⟩
      obtain ⟨rfl, hrest⟩ := (hinsert made hmade).mp hinserted
      exact ⟨hmade, hrest⟩
    · rintro ⟨hmade, hrest⟩
      exact ⟨_, hmade, (hinsert _ hmade).mpr ⟨rfl, hrest⟩⟩

theorem map_id_supersede (quotes : List MarketplaceQuote) (quote : MarketplaceQuote) :
    (supersede quotes quote).map MarketplaceQuote.id = quotes.map MarketplaceQuote.id := by
  unfold supersede
  split
  · exact map_key_updateKey fun _ => rfl
  · rfl

theorem find?_supersede {quote : MarketplaceQuote} {quoteId : Id}
    (h : quotes.find? (fun quote => quote.id = quoteId) = some row) :
    ∃ status, (supersede quotes quote).find? (fun quote => quote.id = quoteId) =
      some (setStatus status row) := by
  unfold supersede
  split
  · have hid : ∀ row, (MarketplaceTables.setStatus .superseded row).id = row.id := fun _ => rfl
    rw [find?_updateKey hid, h, Option.map_some]
    split
    · exact ⟨.superseded, rfl⟩
    · exact ⟨row.status, rfl⟩
  · exact ⟨row.status, h⟩

theorem KeepsRequest.setStatus (h : KeepsRequest upper customerId input row)
    (status : QuoteStatus) : KeepsRequest upper customerId input (setStatus status row) :=
  ⟨h.carId, h.startDate, h.endDate, h.tripType, h.ancillaries, h.deliveryAddress, h.customerId,
    h.couponCode⟩

end MarketplaceTables

/-! ## Sessions -/

namespace AddonDesk

open MarketplaceTables

variable {fl : ℚ → ℚ} {upper : CaseMapping} {desk configured : AddonDesk} {sessionId : Id}
  {call : AddonCall} {input : CreateMarketplaceQuoteInput} {customerId : Id}
  {session updated : AddonSession}

def SessionKeeps (upper : CaseMapping) (customerId : Id) (input : CreateMarketplaceQuoteInput)
    (sessionId : Id) (desk : AddonDesk) : Prop :=
  ∃ session quote, desk.session? sessionId = some session ∧ session.customerId = customerId ∧
    desk.quote? session.quoteId = some quote ∧ KeepsRequest upper customerId input quote

variable {quotes : List MarketplaceQuote}

theorem session?_updateKey {sessions : List AddonSession} {f : AddonSession → AddonSession}
    (hid : ∀ session, (f session).sessionId = session.sessionId)
    (h : sessions.find? (fun session => session.sessionId = sessionId) = some session) :
    session? ⟨quotes, updateKey AddonSession.sessionId sessionId f sessions⟩ sessionId =
      some (f session) := by
  have hfound : (updateKey AddonSession.sessionId sessionId f sessions).find?
        (fun session => session.sessionId = sessionId) =
      (sessions.find? fun session => session.sessionId = sessionId).map
        fun session => if session.sessionId = sessionId then f session else session :=
    find?_updateKey hid sessionId
  have hsession : session.sessionId = sessionId := of_decide_eq_true (List.find?_some h :)
  rw [session?, hfound, h, Option.map_some, if_pos hsession]

variable {market : MarketplaceTables}

theorem refreshQuote_cases {now : ℤ} {quoteId newId : Id} {quote : MarketplaceQuote}
    (h : quotes.find? (fun quote => quote.id = quoteId) = some quote) :
    (∃ e, market.refreshQuote fl now quotes quoteId (some customerId) newId =
      (supersede quotes quote, .error e)) ∨
    ∃ renewed, market.newQuote fl now (refreshInput quote (some customerId)) newId = .ok renewed ∧
      renewed.id ∉ quotes.map MarketplaceQuote.id ∧
      market.refreshQuote fl now quotes quoteId (some customerId) newId =
        (supersede quotes quote ++ [renewed], .ok renewed) := by
  unfold MarketplaceTables.refreshQuote
  simp only [h]
  cases hmade : market.createQuote fl now (refreshInput quote (some customerId))
      (supersede quotes quote) newId with
  | error e => exact .inl ⟨e, rfl⟩
  | ok stored =>
    obtain ⟨hnew, hfresh, hquotes⟩ := (createQuote_eq_ok rfl).mp hmade
    rw [map_id_supersede] at hfresh
    exact .inr ⟨stored.2, hnew, hfresh, by simp only [hquotes]⟩

theorem refreshQuote_of_none {now : ℤ} {quoteId newId : Id}
    (h : quotes.find? (fun quote => quote.id = quoteId) = none) :
    ∃ e, market.refreshQuote fl now quotes quoteId (some customerId) newId =
      (quotes, .error e) := by
  unfold MarketplaceTables.refreshQuote
  simp only [h]
  exact ⟨_, rfl⟩

theorem configureAddons_cases :
    (∃ e, desk.configureAddons fl sessionId upper call = (desk, .error e)) ∨
    (∃ e, desk.configureAddons fl sessionId upper call =
      ({ desk with
          sessions := updateKey AddonSession.sessionId sessionId AddonSession.expire
            desk.sessions }, .error e)) ∨
    (∃ refreshed e, desk.configureAddons fl sessionId upper call =
      ({ desk with quotes := supersede desk.quotes refreshed }, .error e)) ∨
    ∃ session refreshed renewed, desk.session? sessionId = some session ∧
      session.customerId = call.customerId ∧ desk.quote? session.quoteId = some refreshed ∧
      (call.tables upper).newQuote fl call.now (refreshInput refreshed (some call.customerId))
        call.newId = .ok renewed ∧
      renewed.id ∉ desk.quotes.map MarketplaceQuote.id ∧
      desk.configureAddons fl sessionId upper call =
        ({ quotes := supersede desk.quotes refreshed ++ [renewed]
           sessions := updateKey AddonSession.sessionId sessionId
            (fun session => session.configured renewed.id call.addons) desk.sessions },
          .ok (session.configured renewed.id call.addons)) := by
  unfold configureAddons
  cases hsession : desk.session? sessionId with
  | none => exact .inl ⟨_, rfl⟩
  | some session =>
    dsimp only
    split
    · exact .inl ⟨_, rfl⟩
    next hcustomer =>
      split
      · exact .inl ⟨_, rfl⟩
      · split
        · exact .inr (.inl ⟨_, rfl⟩)
        · cases hfound : desk.quote? session.quoteId with
          | none =>
            obtain ⟨e, hrefused⟩ := refreshQuote_of_none hfound
            rw [hrefused]
            exact .inl ⟨e, rfl⟩
          | some refreshed =>
            rcases refreshQuote_cases hfound with
              ⟨e, hrefused⟩ | ⟨renewed, hnew, hfresh, hrenewed⟩
            · rw [hrefused]
              exact .inr (.inr (.inl ⟨refreshed, e, rfl⟩))
            · rw [hrenewed]
              exact .inr (.inr (.inr ⟨session, refreshed, renewed, rfl, not_not.mp hcustomer,
                hfound, hnew, hfresh, rfl⟩))

theorem configureAddons_eq_ok
    (h : desk.configureAddons fl sessionId upper call = (configured, .ok updated)) :
    ∃ session refreshed renewed, desk.session? sessionId = some session ∧
      session.customerId = call.customerId ∧ desk.quote? session.quoteId = some refreshed ∧
      (call.tables upper).newQuote fl call.now (refreshInput refreshed (some call.customerId))
        call.newId = .ok renewed ∧
      renewed.id ∉ desk.quotes.map MarketplaceQuote.id ∧
      configured =
        { quotes := supersede desk.quotes refreshed ++ [renewed]
          sessions := updateKey AddonSession.sessionId sessionId
            (fun session => session.configured renewed.id call.addons) desk.sessions } := by
  rcases configureAddons_cases with ⟨e, hresult⟩ | ⟨e, hresult⟩ | ⟨refreshed, e, hresult⟩ |
    ⟨session, refreshed, renewed, hsession, hcustomer, hquote, hnew, hfresh, hresult⟩
  · cases hresult.symm.trans h
  · cases hresult.symm.trans h
  · cases hresult.symm.trans h
  · have hdesk := congrArg Prod.fst (h.symm.trans hresult)
    exact ⟨session, refreshed, renewed, hsession, hcustomer, hquote, hnew, hfresh, hdesk⟩

theorem found_of_configured {refreshed renewed : MarketplaceQuote}
    {addons : List AncillarySelectionInput} (hsession : desk.session? sessionId = some session)
    (hfresh : renewed.id ∉ desk.quotes.map MarketplaceQuote.id)
    (h : configured =
      { quotes := supersede desk.quotes refreshed ++ [renewed]
        sessions := updateKey AddonSession.sessionId sessionId
          (fun session => session.configured renewed.id addons) desk.sessions }) :
    configured.session? sessionId = some (session.configured renewed.id addons) ∧
      configured.quote? renewed.id = some renewed := by
  have hid : ∀ session : AddonSession,
      (session.configured renewed.id addons).sessionId = session.sessionId := fun _ => rfl
  rw [← map_id_supersede desk.quotes refreshed] at hfresh
  rw [h]
  exact ⟨session?_updateKey hid hsession, find?_append_fresh hfresh⟩

theorem addonStep_of_error {e : HttpError}
    (h : (desk.configureAddons fl sessionId upper call).2 = .error e) :
    addonStep fl upper sessionId desk call = desk ∨
      addonStep fl upper sessionId desk call =
        { desk with
          sessions := updateKey AddonSession.sessionId sessionId AddonSession.expire
            desk.sessions } ∨
      ∃ refreshed, addonStep fl upper sessionId desk call =
        { desk with quotes := supersede desk.quotes refreshed } := by
  unfold addonStep
  rcases configureAddons_cases with ⟨e, hresult⟩ | ⟨e, hresult⟩ | ⟨refreshed, e, hresult⟩ |
    ⟨session, refreshed, renewed, -, -, -, -, -, hresult⟩
  · exact .inl (congrArg Prod.fst hresult)
  · exact .inr (.inl (congrArg Prod.fst hresult))
  · exact .inr (.inr ⟨refreshed, congrArg Prod.fst hresult⟩)
  · rw [hresult] at h
    cases h

theorem SessionKeeps.step (hupper : upper.StableUpper)
    (h : SessionKeeps upper customerId input sessionId desk) :
    SessionKeeps upper customerId input sessionId (addonStep fl upper sessionId desk call) := by
  obtain ⟨session, quote, hsession, hcustomer, hquote, hkeeps⟩ := h
  cases hresult : (desk.configureAddons fl sessionId upper call).2 with
  | error e =>
    rcases addonStep_of_error hresult with hstep | hstep | ⟨refreshed, hstep⟩
    · rw [hstep]
      exact ⟨session, quote, hsession, hcustomer, hquote, hkeeps⟩
    · rw [hstep]
      exact ⟨session.expire, quote, session?_updateKey (fun _ => rfl) hsession, hcustomer, hquote,
        hkeeps⟩
    · rw [hstep]
      have hsuperseded : ∃ status,
          (supersede desk.quotes refreshed).find? (fun other => other.id = session.quoteId) =
            some (setStatus status quote) := find?_supersede hquote
      obtain ⟨status, hfound⟩ := hsuperseded
      exact ⟨session, setStatus status quote, hsession, hcustomer, hfound,
        KeepsRequest.setStatus hkeeps status⟩
  | ok updated =>
    have hcall : desk.configureAddons fl sessionId upper call =
        (addonStep fl upper sessionId desk call, .ok updated) := Prod.ext rfl hresult
    obtain ⟨session', refreshed, renewed, hsession', hcustomer', hrefreshed, hmade, hfresh,
      hstep⟩ := configureAddons_eq_ok hcall
    cases Option.some_inj.mp (hsession.symm.trans hsession')
    cases Option.some_inj.mp (hquote.symm.trans hrefreshed)
    rw [hcustomer] at hcustomer'
    rw [← hcustomer'] at hmade
    have hstable : (call.tables upper).upper.StableUpper := hupper
    have hkept : KeepsRequest upper customerId input renewed :=
      KeepsRequest.refresh hstable hkeeps hmade
    obtain ⟨hsessionAfter, hquoteAfter⟩ := found_of_configured hsession hfresh hstep
    exact ⟨_, renewed, hsessionAfter, hcustomer, hquoteAfter, hkept⟩

theorem sessionKeeps_of_createCheckoutSession {shop : MarketplaceTables} {now opening : ℤ}
    {newId : Id} {row : MarketplaceQuote} (hmade : market.newQuote fl now input newId = .ok row)
    (hstored : desk.quote? row.id = some row)
    (hopened : desk.createCheckoutSession fl sessionId shop opening row.id customerId =
      (configured, .ok session)) :
    SessionKeeps market.upper customerId input sessionId configured := by
  have hkeeps : KeepsRequest market.upper customerId input row := keepsRequest_of_newQuote hmade
  have hfound : desk.quotes.find? (fun quote => quote.id = row.id) = some row := hstored
  unfold createCheckoutSession getVerifiedQuote at hopened
  rw [hfound] at hopened
  dsimp only at hopened
  cases hverified : shop.verifyQuote fl opening row with
  | error e =>
    rw [hverified] at hopened
    cases hopened
  | ok read =>
    obtain ⟨rfl, hexpired⟩ := read_of_verifyQuote hverified
    rw [hverified, if_neg hexpired] at hopened
    dsimp only at hopened
    split at hopened
    · cases hopened
    next hnew =>
      cases hopened
      have hsession : (desk.sessions ++ [(⟨sessionId, customerId, read.id, .quoteLocked, none,
          read.expiresAt⟩ : AddonSession)]).find?
            (fun session => session.sessionId = sessionId) =
          some ⟨sessionId, customerId, read.id, .quoteLocked, none, read.expiresAt⟩ := by
        have hnone : desk.sessions.find? (fun session => session.sessionId = sessionId) =
            none := by
          apply List.find?_eq_none.mpr
          intro other hmem hid
          exact hnew (List.mem_map.mpr ⟨other, hmem, of_decide_eq_true hid⟩)
        rw [List.find?_append, hnone]
        simp
      exact ⟨_, read, hsession, rfl, hfound, hkeeps⟩

end AddonDesk

open AddonDesk MarketplaceTables

/-- After a call, the quote of the session is what `createQuote` would have stored for the request
with the addons of the call. -/
def QuoteAsConfigured (fl : ℚ → ℚ) (upper : CaseMapping) (input : CreateMarketplaceQuoteInput)
    (sessionId : Id) (before after : AddonDesk) (call : AddonCall) : Prop :=
  ∃ quote, after.sessionQuote sessionId = some quote ∧
    (call.tables upper).createQuote fl call.now (requestAgain input call.customerId call.addons)
      before.quotes call.newId = .ok (before.quotes ++ [quote], quote)

/-- **Whose addons the quote of a session has.**  For every session that is opened with a stored
quote, every sequence of calls, whether they return or not, and a call that returns: if the quote of
the session is the one of the request with the chosen addons, these are the addons that the first
quote was made with.  If they are, it is, where what a refresh does not pass on makes no
difference. -/
theorem configured_quote_law {fl : ℚ → ℚ} {market shop : MarketplaceTables} {now opening : ℤ}
    {input : CreateMarketplaceQuoteInput} {quotes : List MarketplaceQuote} {newId : Id}
    {row : MarketplaceQuote} {desk opened configured : AddonDesk} {sessionId customerId : Id}
    {session updated : AddonSession} {calls : List AddonCall} {call : AddonCall}
    (hupper : market.upper.StableUpper)
    (hquote : market.createQuote fl now input quotes newId = .ok (quotes ++ [row], row))
    (hstored : desk.quote? row.id = some row)
    (hopened : desk.createCheckoutSession fl sessionId shop opening row.id customerId =
      (opened, .ok session))
    (hcall : (Runs.run (addonStep fl market.upper sessionId) opened calls).configureAddons fl
      sessionId market.upper call = (configured, .ok updated)) :
    (QuoteAsConfigured fl market.upper input sessionId
        (Runs.run (addonStep fl market.upper sessionId) opened calls) configured call →
      call.addons = input.ancillaries) ∧
    ((∀ refreshed ∈ (Runs.run (addonStep fl market.upper sessionId) opened calls).sessionQuote
        sessionId, ∀ car ∈ call.market.cars input.carId,
        (call.tables market.upper).PassedOn input refreshed car) →
      call.addons = input.ancillaries →
      QuoteAsConfigured fl market.upper input sessionId
        (Runs.run (addonStep fl market.upper sessionId) opened calls) configured call) := by
  have hstart : SessionKeeps market.upper customerId input sessionId opened :=
    sessionKeeps_of_createCheckoutSession (createQuote_made hquote).1 hstored hopened
  have hkeeps : SessionKeeps market.upper customerId input sessionId
      (Runs.run (addonStep fl market.upper sessionId) opened calls) :=
    (Runs.along_true opened calls).invariant (fun _ _ h _ => h.step hupper) hstart
  generalize Runs.run (addonStep fl market.upper sessionId) opened calls = before at *
  obtain ⟨session', quote, hsession, hcustomer, hfound, hrequest⟩ := hkeeps
  obtain ⟨session'', refreshed, renewed, hsession', hcustomer', hrefreshed, hmade, hfresh,
    hconfigured⟩ := configureAddons_eq_ok hcall
  cases Option.some_inj.mp (hsession.symm.trans hsession')
  cases Option.some_inj.mp (hfound.symm.trans hrefreshed)
  rw [hcustomer] at hcustomer'
  subst hcustomer'
  have hstable : (call.tables market.upper).upper.StableUpper := hupper
  have hkeptRequest : KeepsRequest (call.tables market.upper).upper call.customerId input quote :=
    hrequest
  have hkept := KeepsRequest.refresh hstable hkeptRequest hmade
  have hafter : configured.sessionQuote sessionId = some renewed := by
    obtain ⟨hsessionAfter, hquoteAfter⟩ := found_of_configured hsession hfresh hconfigured
    rw [sessionQuote, hsessionAfter]
    exact hquoteAfter
  constructor
  · rintro ⟨stored, hstoredQuote, hcreated⟩
    cases Option.some_inj.mp (hafter.symm.trans hstoredQuote)
    have hasked : KeepsRequest (call.tables market.upper).upper call.customerId
        (requestAgain input call.customerId call.addons) renewed :=
      keepsRequest_of_newQuote (createQuote_made hcreated).1
    exact hasked.ancillaries.symm.trans hkept.ancillaries
  · intro hpassed haddons
    refine ⟨renewed, hafter, (createQuote_eq_ok rfl).mpr ⟨?_, hfresh, rfl⟩⟩
    have hquoteOf : before.sessionQuote sessionId = some quote := by
      rw [sessionQuote, hsession]
      exact hfound
    rw [haddons,
      ← newQuote_kept hstable hkeptRequest fun car hcar => hpassed quote hquoteOf car hcar]
    exact hmade

/-! ## An additional driver -/

def additionalDriver : AncillarySelectionInput := ⟨"ADDITIONAL_DRIVER", none⟩

def hatchbackSession (row : MarketplaceQuote) : AddonDesk × Except HttpError AddonSession :=
  AddonDesk.createCheckoutSession id ⟨[row], []⟩ "session" oneHatchback 1773000001000 row.id
    "customer"

def driverCall (addons : List AncillarySelectionInput) (newId : Id) : AddonCall where
  market := oneHatchback
  now := 1773000002000
  customerId := "customer"
  addons
  newId

theorem pair_eq {α β : Type} {pair : α × β} {b : β} (h : pair.2 = b) : pair = (pair.1, b) :=
  Prod.ext rfl h

/-- A driver that the first quote has, left out by one call and chosen by the next. -/
theorem driver_of_first_quote_is_charged : ∃ row configured updated,
    oneHatchback.createQuote id 1773000000000 (dayRental [additionalDriver]) [] "quote" =
        .ok ([] ++ [row], row) ∧
      (Runs.run (addonStep id .ascii "session") (hatchbackSession row).1
        [driverCall [] "second"]).configureAddons id "session" .ascii
          (driverCall [additionalDriver] "third") = (configured, .ok updated) ∧
      QuoteAsConfigured id .ascii (dayRental [additionalDriver]) "session"
        (Runs.run (addonStep id .ascii "session") (hatchbackSession row).1
          [driverCall [] "second"]) configured (driverCall [additionalDriver] "third") := by
  obtain ⟨⟨quotes, row⟩, hmade, hstored⟩ := exists_ok_of_any
    (x := oneHatchback.createQuote id 1773000000000 (dayRental [additionalDriver]) [] "quote")
    (p := fun stored => stored.1 = [] ++ [stored.2] ∧
      (hatchbackSession stored.2).2.toOption.isSome ∧
      ((Runs.run (addonStep id .ascii "session") (hatchbackSession stored.2).1
        [driverCall [] "second"]).configureAddons id "session" .ascii
          (driverCall [additionalDriver] "third")).2.toOption.isSome ∧
      ((Runs.run (addonStep id .ascii "session") (hatchbackSession stored.2).1
        [driverCall [] "second"]).sessionQuote "session").all fun quote =>
          quote.tenantId = "vendor" ∧ quote.metadata.vehicleClass = .hatchback)
    (by decide +kernel)
  obtain ⟨hquotes, hopened, hcalled, hkept⟩ := of_decide_eq_true hstored
  dsimp only at hquotes hopened hcalled hkept
  subst hquotes
  obtain ⟨session, hsession⟩ := exists_ok_of_isSome hopened
  obtain ⟨updated, hupdated⟩ := exists_ok_of_isSome hcalled
  refine ⟨row, _, updated, hmade, pair_eq hupdated, ?_⟩
  have hfound : AddonDesk.quote? ⟨[row], []⟩ row.id = some row := by simp [AddonDesk.quote?]
  refine (configured_quote_law stableUpper_ascii hmade hfound (pair_eq hsession)
    (pair_eq hupdated)).2 ?_ rfl
  intro refreshed hrefreshed car hcar
  have hquote : (Runs.run (addonStep id .ascii "session") (hatchbackSession row).1
      [driverCall [] "second"]).sessionQuote "session" = some refreshed := hrefreshed
  rw [hquote] at hkept
  obtain ⟨htenant, hclass⟩ := of_decide_eq_true (show decide _ = true from hkept)
  cases Option.some_inj.mp (show some hatchback = some car from hcar)
  exact ⟨htenant.symm, hclass.symm, .inl rfl, fun honeWay => honeWay.2.1 rfl, .inl rfl⟩

/-- A driver that is chosen and not charged: 5537 stay payable, where 5832 would be. -/
theorem chosen_driver_is_not_charged : ∃ row configured updated,
    oneHatchback.createQuote id 1773000000000 (dayRental []) [] "quote" =
        .ok ([] ++ [row], row) ∧
      (hatchbackSession row).1.configureAddons id "session" .ascii
        (driverCall [additionalDriver] "second") = (configured, .ok updated) ∧
      updated.ancillarySelections = some [additionalDriver] ∧
      ((configured.sessionQuote "session").map fun quote => quote.totalPayable.value) =
        some 5537 ∧
      ¬QuoteAsConfigured id .ascii (dayRental []) "session" (hatchbackSession row).1 configured
        (driverCall [additionalDriver] "second") := by
  obtain ⟨⟨quotes, row⟩, hmade, hstored⟩ := exists_ok_of_any
    (x := oneHatchback.createQuote id 1773000000000 (dayRental []) [] "quote")
    (p := fun stored => stored.1 = [] ++ [stored.2] ∧
      ((hatchbackSession stored.2).1.configureAddons id "session" .ascii
        (driverCall [additionalDriver] "second")).2.toOption.any (fun updated =>
          updated.ancillarySelections = some [additionalDriver]) ∧
      ((((hatchbackSession stored.2).1.configureAddons id "session" .ascii
        (driverCall [additionalDriver] "second")).1.sessionQuote "session").map
          fun quote => quote.totalPayable.value) = some 5537 ∧
      (oneHatchback.createQuote id 1773000002000
        (requestAgain (dayRental []) "customer" [additionalDriver])
        (hatchbackSession stored.2).1.quotes "second").toOption.all fun renewed =>
          renewed.2.totalPayable.value = 5832)
    (by decide +kernel)
  obtain ⟨hquotes, hcalled, htotal, hexpected⟩ := of_decide_eq_true hstored
  dsimp only at hquotes hcalled htotal hexpected
  subst hquotes
  obtain ⟨updated, hupdated, haddons⟩ := exists_ok_of_any hcalled
  refine ⟨row, _, updated, hmade, pair_eq hupdated, of_decide_eq_true haddons, htotal, ?_⟩
  rintro ⟨quote, hquote, hcreated⟩
  have hcharged : quote.totalPayable.value = 5832 := by
    have hcreated' : oneHatchback.createQuote id 1773000002000
        (requestAgain (dayRental []) "customer" [additionalDriver])
        (hatchbackSession row).1.quotes "second" =
          .ok ((hatchbackSession row).1.quotes ++ [quote], quote) := hcreated
    rw [hcreated'] at hexpected
    exact of_decide_eq_true (show decide _ = true from hexpected)
  rw [hquote, Option.map_some, hcharged] at htotal
  norm_num at htotal

end CarRental
