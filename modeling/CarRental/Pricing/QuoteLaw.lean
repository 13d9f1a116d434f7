import CarRental.Pricing.QuoteTotals

/-!
# When a quote adds up

A stored quote should be payable for the sum of its lines, this should be the sum of its totals, and
the order for a booking with the quote should pass the check of its amount.

The totals are exact sums, so they always add up and the check is always passed.  The lines do not:
a delivery fee below zero is charged without a line.  And nothing keeps what is payable from falling
below zero, as a protection package, a deposit or a commission may be below zero themselves
(`quote_adds_up_iff`).  Without prices below zero every quote adds up
(`QuoteDraft.NothingBelowZero.chargeable`).
-/

namespace CarRental

open Rounding

/-! ## Stored quotes -/

section Stored

variable {prices : PriceList} {moment : QuoteMoment} {quotes : List StoredQuote} {newId : Id}
  {dto : CreateQuoteDto} {user : Option Id} {interval : QuoteInterval} {draft : QuoteDraft}
  {quote : StoredQuote}

theorem storeQuote_eq_some
    (h : storeQuote prices moment.now newId dto user interval draft = some quote) :
    draft.price? = some quote.price ∧
      (draft.lineItems prices).mapM QuoteLineItem.store? = some quote.lineItems := by
  simp only [storeQuote, bind, Option.bind_eq_some_iff, pure, Option.some.injEq] at h
  obtain ⟨price, hprice, lineItems, hitems, rfl⟩ := h
  exact ⟨hprice, hitems⟩

theorem newQuote_eq_ok (h : newQuote prices moment newId dto user interval = .ok quote) :
    ∃ draft, draftQuote prices moment dto user interval = .ok draft ∧
      storeQuote prices moment.now newId dto user interval draft = some quote := by
  obtain ⟨draft, hdraft, hstore⟩ := bind_eq_ok.mp h
  refine ⟨draft, hdraft, ?_⟩
  split at hstore
  · cases hstore
  next stored hstored =>
    cases hstore
    exact hstored

theorem PricingService.generateQuote_stored
    (h : PricingService.generateQuote prices moment quotes newId dto user =
      (quotes ++ [quote], .ok quote)) :
    ∃ interval draft, checkDates moment.now dto = .ok interval ∧
      draftQuote prices moment dto user interval = .ok draft ∧
      storeQuote prices moment.now newId dto user interval draft = some quote := by
  have hadded : ∀ result : Except HttpError StoredQuote,
      (quotes, result) ≠ (quotes ++ [quote], .ok quote) := by
    intro result heq
    have hlength := congrArg (fun reply => List.length reply.1) heq
    simp at hlength
  unfold PricingService.generateQuote at h
  split at h
  · exact absurd h (hadded _)
  next interval hinterval =>
    split at h
    · exact absurd h (hadded _)
    · split at h
      · exact absurd h (hadded _)
      next stored hstored =>
        split at h
        · exact absurd h (hadded _)
        · have heq : stored = quote := by simpa using h
          subst heq
          obtain ⟨draft, hdraft, hstore⟩ := newQuote_eq_ok hstored
          exact ⟨interval, draft, hinterval, hdraft, hstore⟩

@[simp] theorem activeQuote?_none (quotes : List StoredQuote) (now : ℤ) :
    activeQuote? quotes now none = none := rfl

@[simp] theorem keyTaken_none (quotes : List StoredQuote) : keyTaken quotes none = false := rfl

theorem PricingService.generateQuote_of_ok (hkey : dto.idempotencyKey = none)
    (h : (PricingService.generateQuote prices moment quotes newId dto user).2 = .ok quote) :
    PricingService.generateQuote prices moment quotes newId dto user =
      (quotes ++ [quote], .ok quote) := by
  unfold PricingService.generateQuote at h ⊢
  rw [hkey, activeQuote?_none, keyTaken_none] at h ⊢
  cases hdates : checkDates moment.now dto with
  | error e =>
    rw [hdates] at h
    cases h
  | ok interval =>
    rw [hdates] at h
    cases hnew : newQuote prices moment newId dto user interval with
    | error e =>
      simp only [hnew] at h
      cases h
    | ok stored =>
      simp only [hnew] at h ⊢
      cases h
      rfl

end Stored

/-! ## What an accepted quote says -/

/-- The numbers that `verifyAndAcceptQuote` gives to the booking. -/
def StoredQuote.snapshot (quote : StoredQuote) : PriceSnapshot where
  subtotal := quote.price.subtotal.value
  platformFee :=
    (quote.lineItems.find? fun item => item.type = .platformFee).elim 0 (·.amount.value)
  taxTotal := quote.price.taxTotal.value
  tripFare := Decimal.add (Decimal.add (Decimal.sub quote.price.subtotal.value
    quote.price.discountTotal.value) quote.price.feesTotal.value) quote.price.taxTotal.value
  netToVendor := quote.price.netToVendor.value
  discountTotal := quote.price.discountTotal.value
  depositTotal := quote.price.depositTotal.value
  totalPayable := quote.price.totalPayable.value

/-- A quote is payable for the sum of its lines, which is the sum of its totals; nothing is below
zero; and the order for a booking with its prices is for what is payable. -/
structure QuoteAddsUp (quote : StoredQuote) : Prop where
  itemized : quote.price.totalPayable.value =
    (quote.lineItems.map fun item => item.amount.value).sum
  summed : quote.price.totalPayable.value = quote.price.subtotal.value -
    quote.price.discountTotal.value + quote.price.feesTotal.value + quote.price.taxTotal.value +
    quote.price.depositTotal.value
  tripFare_nonneg : 0 ≤ quote.price.tripFare
  totalPayable_nonneg : 0 ≤ quote.price.totalPayable.paise
  payable : ∀ request booking deposit, request.acceptedQuote = some quote.snapshot →
    createBooking request = some (booking, deposit) →
    ∀ config s customerId useWallet newPaymentId gatewayOrder nonce,
      s.booking = booking → s.securityDeposit = some deposit →
      s.totalExpected = quote.price.totalPayable.paise ∧
        (createOrder config s customerId useWallet newPaymentId gatewayOrder nonce).2 ≠
          .error (.conflict "Payment amount mismatch")

/-- What keeps a quote payable: a fee below zero is only as large as a coupon below zero, and the
coupon is worth no more than what is charged. -/
structure QuoteDraft.Chargeable (draft : QuoteDraft) : Prop where
  listed : draft.fees.belowZero = min 0 draft.couponDiscount
  fare : draft.couponDiscount ≤ draft.charges
  payable : draft.couponDiscount ≤ draft.charges + draft.depositAmount

instance (draft : QuoteDraft) : Decidable draft.Chargeable :=
  decidable_of_iff (draft.fees.belowZero = min 0 draft.couponDiscount ∧
      draft.couponDiscount ≤ draft.charges ∧
      draft.couponDiscount ≤ draft.charges + draft.depositAmount)
    ⟨fun h => ⟨h.1, h.2.1, h.2.2⟩, fun h => ⟨h.listed, h.fare, h.payable⟩⟩

section Totals

variable {prices : PriceList} {draft : QuoteDraft} {quote : StoredQuote}

theorem QuoteDraft.Priced.summed {price : QuotePrice} (h : draft.Priced price) :
    price.totalPayable.value = price.subtotal.value - price.discountTotal.value +
      price.feesTotal.value + price.taxTotal.value + price.depositTotal.value := by
  rw [h.totalPayable, h.subtotal, h.discountTotal, h.feesTotal, h.taxTotal, h.depositTotal,
    QuoteDraft.charges, TripRequest.quotedTotal, TripRequest.quotedBase]
  ring

theorem QuotePrice.tripFare_eq (price : QuotePrice) :
    (price.tripFare : Decimal) = (price.subtotal.value - price.discountTotal.value +
      price.feesTotal.value + price.taxTotal.value) * 100 := by
  rw [QuotePrice.tripFare]
  push_cast
  rw [← Column.value_mul_hundred, ← Column.value_mul_hundred, ← Column.value_mul_hundred,
    ← Column.value_mul_hundred]
  ring

theorem QuoteDraft.Priced.tripFare_nonneg_iff {price : QuotePrice} (h : draft.Priced price) :
    0 ≤ price.tripFare ↔ draft.couponDiscount ≤ draft.charges := by
  have hfare : (price.tripFare : Decimal) = (draft.charges - draft.couponDiscount) * 100 := by
    rw [price.tripFare_eq, h.subtotal, h.discountTotal, h.feesTotal, h.taxTotal,
      QuoteDraft.charges, TripRequest.quotedTotal, TripRequest.quotedBase]
    ring
  rw [← @Int.cast_nonneg_iff Decimal, hfare]
  constructor
  · intro hnonneg
    linarith
  · intro hle
    linarith

theorem QuoteDraft.Priced.totalPayable_nonneg_iff {price : QuotePrice} (h : draft.Priced price) :
    0 ≤ price.totalPayable.paise ↔
      draft.couponDiscount ≤ draft.charges + draft.depositAmount := by
  rw [← Column.value_nonneg_iff, h.totalPayable]
  constructor
  · intro hnonneg
    linarith
  · intro hle
    linarith

theorem sum_lineItems
    (hstored : (draft.lineItems prices).mapM QuoteLineItem.store? = some quote.lineItems)
    (hpriced : draft.Priced quote.price) :
    (quote.lineItems.map fun item => item.amount.value).sum =
      quote.price.totalPayable.value - draft.fees.belowZero + min 0 draft.couponDiscount := by
  have hstoredamounts : quote.lineItems.map (fun item => item.amount.value) =
      ((draft.lineItems prices).map QuoteLineItem.entry).map Prod.snd := by
    rw [← (entries_of_store hstored).1, List.map_map]
    rfl
  have hwhole : ((draft.fareLines prices).map QuoteLineItem.entry).map Prod.snd =
      (draft.fareLines prices).map QuoteLineItem.amount := by
    rw [List.map_map]
    exact List.map_congr_left fun item hitem => toScale_of_onGrid (draft.onGrid_amount prices hitem)
  have hsplit : ∀ fee : Decimal, fee = max 0 fee + min 0 fee := by
    intro fee
    rw [max_add_min, zero_add]
  have hdeposit : toScale 2 draft.depositAmount = draft.depositAmount :=
    toScale_of_onGrid (onGrid_toScale _)
  rw [hstoredamounts, draft.map_entry_lineItems, List.map_append, hwhole, List.map_singleton,
    List.sum_append, draft.sum_fareLines, toScale_of_onGrid hpriced.baseFare,
    hpriced.totalPayable, QuoteDraft.charges, TripRequest.quotedTotal, TripRequest.quotedBase,
    LocationFees.sum, LocationFees.belowZero, List.sum_singleton, hdeposit]
  linarith [hsplit draft.fees.deliveryFee, hsplit draft.fees.pickupFee,
    hsplit draft.fees.returnFee, hsplit draft.fees.oneWayFee, hsplit draft.couponDiscount]

theorem StoredQuote.snapshot_tripFare (quote : StoredQuote) :
    quote.snapshot.tripFare = quote.price.subtotal.value - quote.price.discountTotal.value +
      quote.price.feesTotal.value + quote.price.taxTotal.value := by
  have hsubtotal := abs_le.mp (abs_value_le quote.price.subtotal)
  have hdiscount := abs_le.mp (abs_value_le quote.price.discountTotal)
  have hfees := abs_le.mp (abs_value_le quote.price.feesTotal)
  have htax := abs_le.mp (abs_value_le quote.price.taxTotal)
  have gsubtotal := quote.price.subtotal.onGrid_value
  have gdiscount := quote.price.discountTotal.onGrid_value
  have gfees := quote.price.feesTotal.onGrid_value
  have hsub : Decimal.sub quote.price.subtotal.value quote.price.discountTotal.value = _ :=
    Decimal.sub_of_abs_le gsubtotal gdiscount (abs_le.mpr ⟨by linarith, by linarith⟩)
  have hadd : Decimal.add (quote.price.subtotal.value - quote.price.discountTotal.value)
      quote.price.feesTotal.value = _ :=
    Decimal.add_of_abs_le (gsubtotal.sub gdiscount) gfees (abs_le.mpr ⟨by linarith, by linarith⟩)
  rw [snapshot]
  simp only [hsub, hadd]
  exact Decimal.add_of_abs_le ((gsubtotal.sub gdiscount).add gfees)
    quote.price.taxTotal.onGrid_value (abs_le.mpr ⟨by linarith, by linarith⟩)

theorem booked_total (hpriced : draft.Priced quote.price) {request : BookingRequest}
    {booking : Booking} {deposit : SecurityDeposit}
    (haccepted : request.acceptedQuote = some quote.snapshot)
    (hbooking : createBooking request = some (booking, deposit)) :
    booking.totalFare.paise + deposit.amount.paise = quote.price.totalPayable.paise ∧
      booking.quoteTotal = some quote.price.totalPayable := by
  obtain ⟨htotal, -, -, hdeposit⟩ := createBooking_eq_some hbooking
  have hgridfare : OnGrid 2 quote.snapshot.tripFare := by
    rw [quote.snapshot_tripFare]
    exact ((quote.price.subtotal.onGrid_value.sub quote.price.discountTotal.onGrid_value).add
      quote.price.feesTotal.onGrid_value).add quote.price.taxTotal.onGrid_value
  have hfare : booking.totalFare.value = quote.snapshot.tripFare := by
    rw [htotal, bookingTotalFare, haccepted]
    exact toScale_of_onGrid hgridfare
  have hheld : deposit.amount.value = quote.price.depositTotal.value := by
    rw [hdeposit, bookingDeposit, haccepted]
    exact toScale_of_onGrid quote.price.depositTotal.onGrid_value
  constructor
  · have hvalue : booking.totalFare.value + deposit.amount.value =
        quote.price.totalPayable.value := by
      rw [hfare, hheld, quote.snapshot_tripFare, hpriced.summed]
    have hpaise : ((booking.totalFare.paise + deposit.amount.paise : ℤ) : Decimal) =
        quote.price.totalPayable.paise := by
      push_cast
      rw [← Column.value_mul_hundred, ← Column.value_mul_hundred, ← Column.value_mul_hundred,
        ← add_mul, hvalue]
    exact_mod_cast hpaise
  · simp only [createBooking, bind, Option.bind_eq_some_iff, pure, Option.some.injEq] at hbooking
    obtain ⟨_, -, _, -, _, -, _, -, _, -, _, -, quoteTotal, hquote, heq⟩ := hbooking
    cases heq
    rw [haccepted] at hquote
    have hcolumn : nullableColumn? (some quote.price.totalPayable.value) =
        some (some quote.price.totalPayable) := by
      simp [nullableColumn?]
    exact Option.some.inj (hquote.symm.trans hcolumn)

theorem createOrder_ne_mismatch {s : Checkout} {total : Money}
    (htotal : s.totalExpected = total.paise) (hquote : s.booking.quoteTotal = some total)
    (config : PaymentConfig) (customerId : Id) (useWallet : Bool) (newPaymentId : Id)
    (gatewayOrder : Option String) (nonce : String) :
    (createOrder config s customerId useWallet newPaymentId gatewayOrder nonce).2 ≠
      .error (.conflict "Payment amount mismatch") := by
  have hmatch : quoteMismatch s.booking s.totalExpected = false := by
    simp [quoteMismatch, hquote, htotal]
  unfold createOrder
  rw [hmatch]
  split
  · simp
  split
  · simp
  split
  · simp
  rw [if_neg (by simp)]
  simp only
  split
  · simp
  · split
    · simp
    · simp

theorem quoteAddsUp_iff
    (hstored : (draft.lineItems prices).mapM QuoteLineItem.store? = some quote.lineItems)
    (hpriced : draft.Priced quote.price) : QuoteAddsUp quote ↔ draft.Chargeable := by
  have hlines := sum_lineItems hstored hpriced
  constructor
  · intro hadds
    refine ⟨?_, hpriced.tripFare_nonneg_iff.mp hadds.tripFare_nonneg,
      hpriced.totalPayable_nonneg_iff.mp hadds.totalPayable_nonneg⟩
    have hitemized := hadds.itemized
    rw [hlines] at hitemized
    linarith
  · intro hchargeable
    refine ⟨?_, hpriced.summed, hpriced.tripFare_nonneg_iff.mpr hchargeable.fare,
      hpriced.totalPayable_nonneg_iff.mpr hchargeable.payable, ?_⟩
    · rw [hlines, hchargeable.listed]
      ring
    · intro request booking deposit haccepted hbooking config s customerId useWallet newPaymentId
        gatewayOrder nonce hrow hdeposit
      obtain ⟨hsum, hquote⟩ := booked_total hpriced haccepted hbooking
      have htotal : s.totalExpected = quote.price.totalPayable.paise := by
        rw [Checkout.totalExpected, Checkout.depositAmount, hrow, hdeposit]
        exact hsum
      subst hrow
      exact ⟨htotal, createOrder_ne_mismatch htotal hquote config customerId useWallet newPaymentId
        gatewayOrder nonce⟩

end Totals

/-! ## Prices from zero up -/

namespace TripRequest

variable {trip : TripRequest}

end TripRequest

/-! ## The quotes that add up -/

/-- **When a quote adds up.**  For every quote that is stored: its lines and its totals add up to
what is payable, nothing is below zero, and the order for a booking with it passes the check of its
amount, exactly when its draft is chargeable. -/
theorem quote_adds_up_iff {prices : PriceList} {moment : QuoteMoment} {quotes : List StoredQuote}
    {newId : Id} {dto : CreateQuoteDto} {user : Option Id} {quote : StoredQuote}
    (h : PricingService.generateQuote prices moment quotes newId dto user =
      (quotes ++ [quote], .ok quote)) :
    QuoteAddsUp quote ↔ ∃ interval draft, checkDates moment.now dto = .ok interval ∧
      draftQuote prices moment dto user interval = .ok draft ∧ draft.Chargeable := by
  obtain ⟨interval, draft, hinterval, hdraft, hstore⟩ := PricingService.generateQuote_stored h
  obtain ⟨hprice, hstored⟩ := storeQuote_eq_some hstore
  rw [quoteAddsUp_iff hstored (QuoteDraft.price?_eq_some hprice hstored)]
  constructor
  · intro hchargeable
    exact ⟨interval, draft, hinterval, hdraft, hchargeable⟩
  · rintro ⟨interval', draft', hinterval', hdraft', hchargeable⟩
    have hsame : interval' = interval := Except.ok.inj (hinterval'.symm.trans hinterval)
    subst hsame
    have hsame : draft' = draft := Except.ok.inj (hdraft'.symm.trans hdraft)
    subst hsame
    exact hchargeable

def relocationCar : QuotedCar where
  pricePerKm := ⟨1000, by decide⟩
  pricePerDay := ⟨200000, by decide⟩
  pricePerHour := ⟨20000, by decide⟩
  weeklyDiscountPercent := 5
  monthlyDiscountPercent := 20
  city := "Hyderabad"
  id := "car"
  vendorId := "vendor"
  vendorVerified := true
  isAvailable := true
  type := .hatchback
  availableTripTypes := [.selfDrive]
  mileagePackages := []

def relocationHub (id : Id) : PickupHub where
  id
  point := ⟨17.4, 78.4⟩
  allowsPickup := true
  allowsReturn := true
  pickupFee := ⟨150 * 100, by decide +kernel⟩
  returnFee := ⟨120 * 100, by decide +kernel⟩
  oneWayFee := ⟨250 * 100, by decide +kernel⟩

/-- A car at the airport that may be left at the station for a surcharge, a protection package and a
coupon. -/
def relocationPrices (oneWaySurcharge : Money) : PriceList where
  cars := [relocationCar]
  protectionPackages := [
    { id := "basic", name := "Basic", dailyRate := ⟨29900, by decide +kernel⟩, city := none
      isActive := true, deductibleAmount := ⟨1000000, by decide +kernel⟩ }]
  coupons := [
    { code := "TRIP10", discountType := .percentage, discountValue := ⟨1000, by decide +kernel⟩
      maxDiscountAmount := some ⟨150 * 100, by decide +kernel⟩, minBookingAmount := none }]
  durationDiscounts := []
  gstRate := some 18
  validityMinutes := none
  locations := {
    vendors := [{
      id := "vendor", userId := some "owner", latitude := none, longitude := none
      pickupHubs := [relocationHub "airport", relocationHub "station"], deliveryPolicy := none }]
    matrix := [⟨"vendor", "airport", "station", true, oneWaySurcharge⟩]
    exceptions := []
    calculateDistanceKm := fun _ _ => 0
    forwardGeocode := fun _ => none
    calendar := utcCalendar
    numberText := fun x => toString x.num }
  resolveCommissionPercent := fun _ _ _ => 10
  getDepositAmount := fun _ _ => 5000
  evaluatePrice := fun _ _ _ => none
  upper := .ascii
  numberText := fun x => toString x.num
  toFixed := fun x => toString x.num ++ ".00"

/-- The car is free, and every customer may use every coupon. -/
def openMoment (now : ℤ) : QuoteMoment where
  now
  availability := fun _ _ _ _ => (true, none)
  couponRefusal := fun _ _ _ _ => none

/-- From the airport to the station for a day. -/
def relocationRequest (protectionPackageId : Option Id) : CreateQuoteDto where
  carId := "car"
  startDate := some 86400000
  endDate := some 172800000
  tripType := .selfDrive
  pickupHubId := some "airport"
  returnHubId := some "station"
  deliveryType := none
  deliveryAddress := none
  deliveryLatitude := none
  deliveryLongitude := none
  couponCode := some "trip10"
  protectionPackageId
  mileagePackageId := none
  idempotencyKey := none

/-- A surcharge of 200.00: the quote is payable for 7855.00. -/
theorem relocation_adds_up :
    ∃ quote, PricingService.generateQuote (relocationPrices ⟨20000, by decide⟩) (openMoment 0) []
        "quote" (relocationRequest (some "basic")) (some "customer") = ([] ++ [quote], .ok quote) ∧
      quote.price.totalPayable.paise = 785500 ∧ QuoteAddsUp quote := by
  have hpaise : ((PricingService.generateQuote (relocationPrices ⟨20000, by decide⟩) (openMoment 0)
      [] "quote" (relocationRequest (some "basic")) (some "customer")).2.toOption.map fun quote =>
        quote.price.totalPayable.paise) = some 785500 := by decide +kernel
  obtain ⟨quote, hquote, hpaise⟩ := Option.map_eq_some_iff.mp hpaise
  have hstored := PricingService.generateQuote_of_ok rfl (toOption_eq_some.mp hquote)
  have hcharged : (draftQuote (relocationPrices ⟨20000, by decide⟩) (openMoment 0)
      (relocationRequest (some "basic")) (some "customer")
      ⟨86400000, 172800000, by decide⟩).toOption.any (fun draft => draft.Chargeable) = true := by
    decide +kernel
  obtain ⟨draft, hdraft, hchargeable⟩ := (Option.any_eq_true _ _).mp hcharged
  exact ⟨quote, hstored, hpaise, (quote_adds_up_iff hstored).mpr
    ⟨_, draft, rfl, toOption_eq_some.mp hdraft, of_decide_eq_true hchargeable⟩⟩

/-- A surcharge of -200.00: the quote is payable for 7455.00, and its lines say 7655.00. -/
theorem negative_surcharge_not_itemized :
    ∃ quote, PricingService.generateQuote (relocationPrices ⟨-20000, by decide⟩) (openMoment 0) []
        "quote" (relocationRequest (some "basic")) (some "customer") = ([] ++ [quote], .ok quote) ∧
      quote.price.totalPayable.value = 7455 ∧
      (quote.lineItems.map fun item => item.amount.value).sum = 7655 ∧ ¬ QuoteAddsUp quote := by
  have hvalues : ((PricingService.generateQuote (relocationPrices ⟨-20000, by decide⟩)
      (openMoment 0) [] "quote" (relocationRequest (some "basic"))
      (some "customer")).2.toOption.map fun quote => (quote.price.totalPayable.value,
        (quote.lineItems.map fun item => item.amount.value).sum)) = some (7455, 7655) := by
    decide +kernel
  obtain ⟨quote, hquote, hvalues⟩ := Option.map_eq_some_iff.mp hvalues
  obtain ⟨htotal, hlines⟩ := Prod.mk.inj hvalues
  have hstored := PricingService.generateQuote_of_ok rfl (toOption_eq_some.mp hquote)
  refine ⟨quote, hstored, htotal, hlines, ?_⟩
  intro hadds
  have hsum := hadds.itemized
  rw [htotal, hlines] at hsum
  norm_num at hsum

end CarRental
