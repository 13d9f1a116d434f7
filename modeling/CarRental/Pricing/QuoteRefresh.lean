import CarRental.Pricing.QuoteLaw
import Mathlib.Data.List.DropRight

/-!
# Refreshing a quote

`refreshQuote` asks for a new quote with what the row has kept of the request.  At the same prices
the new quote should have the lines and the total of the old one.

The row keeps the car, the dates, the hubs, the address, the mileage package and the code of the
coupon, and each of them is found again (`QuoteDraft.DraftedFrom.renewal`).  It does not keep the
protection package, the coordinates and the type of the delivery.  So a protected quote is never
renewed as it was, and one with coordinates only if the fees are the same without them
(`refreshed_quote_same_iff`).
-/

namespace CarRental

open KeyedRows Rounding

/-! ## Codes in upper case -/

/-- Upper case is final, and neither makes nor removes white space. -/
structure CaseMapping.StableUpper (mapping : CaseMapping) : Prop where
  ne_nil : ∀ c, mapping.upper c ≠ []
  upper : ∀ c, ∀ d ∈ mapping.upper c, mapping.upper d = [d]
  space : ∀ c, ∀ d ∈ mapping.upper c, isTrimmed d = isTrimmed c

section Codes

variable {mapping : CaseMapping}

theorem CaseMapping.StableUpper.toUpperCase_toUpperCase (h : mapping.StableUpper) (text : String) :
    mapping.toUpperCase (mapping.toUpperCase text) = mapping.toUpperCase text := by
  have hfinal : ∀ c, (mapping.upper c).flatMap mapping.upper = mapping.upper c := by
    intro c
    calc (mapping.upper c).flatMap mapping.upper
        = (mapping.upper c).flatMap fun d => [d] := List.flatMap_congr (h.upper c)
      _ = mapping.upper c := List.flatMap_singleton' _
  unfold toUpperCase
  rw [String.toList_ofList, List.flatMap_assoc]
  simp only [hfinal]

theorem dropWhile_flatMap {f : Char → List Char} {chars : List Char} (hne : ∀ c, f c ≠ [])
    (hspace : ∀ c, ∀ d ∈ f c, isTrimmed d = isTrimmed c)
    (h : chars.dropWhile isTrimmed = chars) :
    (chars.flatMap f).dropWhile isTrimmed = chars.flatMap f := by
  cases chars with
  | nil => rfl
  | cons c rest =>
    have hc : isTrimmed c = false := by
      have hfirst := List.dropWhile_eq_self_iff.mp h (by simp)
      simpa using hfirst
    obtain ⟨d, ds, hd⟩ := List.exists_cons_of_ne_nil (hne c)
    have hdc : isTrimmed d = false := by
      rw [hspace c d (by simp [hd]), hc]
    simp [hd, hdc]

theorem trim_eq (text : String) :
    trim text = String.ofList ((text.toList.dropWhile isTrimmed).rdropWhile isTrimmed) := rfl

theorem CaseMapping.StableUpper.trim_toUpperCase (h : mapping.StableUpper) (text : String) :
    trim (mapping.toUpperCase (trim text)) = mapping.toUpperCase (trim text) := by
  -- the trimmed characters begin and end with characters that stay
  have hback : ((text.toList.dropWhile isTrimmed).rdropWhile isTrimmed).rdropWhile isTrimmed =
      (text.toList.dropWhile isTrimmed).rdropWhile isTrimmed := List.rdropWhile_idempotent _ _
  have hfront : ((text.toList.dropWhile isTrimmed).rdropWhile isTrimmed).dropWhile isTrimmed =
      (text.toList.dropWhile isTrimmed).rdropWhile isTrimmed := by
    obtain ⟨rest, hrest⟩ := List.rdropWhile_prefix isTrimmed (text.toList.dropWhile isTrimmed)
    have hself := List.dropWhile_idempotent isTrimmed text.toList
    rw [← hrest] at hself
    cases hkept : (text.toList.dropWhile isTrimmed).rdropWhile isTrimmed with
    | nil => rfl
    | cons c chars =>
      rw [hkept] at hself
      have hc := List.dropWhile_eq_self_iff.mp hself (by simp)
      exact List.dropWhile_eq_self_iff.mpr fun _ => by simpa using hc
  rw [trim_eq, toUpperCase, trim_eq, String.toList_ofList, String.toList_ofList]
  generalize (text.toList.dropWhile isTrimmed).rdropWhile isTrimmed = chars at hback hfront
  rw [dropWhile_flatMap h.ne_nil h.space hfront]
  have hreverse : chars.reverse.dropWhile isTrimmed = chars.reverse := by
    rw [← List.reverse_reverse (chars.reverse.dropWhile isTrimmed)]
    exact congrArg List.reverse hback
  have hlast : (chars.reverse.flatMap fun c => (mapping.upper c).reverse).dropWhile isTrimmed =
      chars.reverse.flatMap fun c => (mapping.upper c).reverse :=
    dropWhile_flatMap (fun c => by simpa using h.ne_nil c)
      (fun c d hd => h.space c d (by simpa using hd)) hreverse
  have hkept : (chars.flatMap mapping.upper).rdropWhile isTrimmed =
      chars.flatMap mapping.upper := by
    have hflat : (chars.flatMap mapping.upper).reverse =
        chars.reverse.flatMap fun c => (mapping.upper c).reverse := List.reverse_flatMap
    rw [List.rdropWhile, hflat, hlast, ← hflat, List.reverse_reverse]
  rw [hkept]

theorem toNat_toUpper (c : Char) :
    c.toUpper.toNat = if 97 ≤ c.toNat ∧ c.toNat ≤ 122 then c.toNat - 32 else c.toNat := by
  unfold Char.toUpper
  split
  next h =>
    have hletter : 97 ≤ c.toNat ∧ c.toNat ≤ 122 := h
    rw [if_pos hletter]
    show (c.val + (65 - 97)).toNat = c.val.toNat - 32
    have hlow : 97 ≤ c.val.toNat := hletter.1
    have hhigh : c.val.toNat ≤ 122 := hletter.2
    have hshift : (65 - 97 : UInt32).toNat = 4294967264 := by decide
    rw [UInt32.toNat_add, hshift]
    omega
  next h => exact (if_neg h).symm

theorem toUpper_toUpper (c : Char) : c.toUpper.toUpper = c.toUpper := by
  apply Char.toNat_inj.mp
  rw [toNat_toUpper, toNat_toUpper]
  split
  · rw [if_neg (by omega)]
  · rfl

theorem isTrimmed_toUpper (c : Char) : isTrimmed c.toUpper = isTrimmed c := by
  unfold isTrimmed
  rw [toNat_toUpper]
  split
  next h =>
    apply decide_eq_decide.mpr
    simp only [List.mem_cons, List.not_mem_nil, or_false]
    omega
  · rfl

theorem stableUpper_ascii : CaseMapping.ascii.StableUpper where
  ne_nil _ := List.cons_ne_nil _ _
  upper c d hd := by
    rw [List.mem_singleton.mp hd]
    exact congrArg (fun e => [e]) (toUpper_toUpper c)
  space c d hd := by
    rw [List.mem_singleton.mp hd]
    exact isTrimmed_toUpper c

end Codes

/-! ## What a draft is made from -/

/-- The draft is that of the request. -/
structure QuoteDraft.DraftedFrom (prices : PriceList) (moment : QuoteMoment)
    (dto : CreateQuoteDto) (user : Option Id) (interval : QuoteInterval) (draft : QuoteDraft) :
    Prop where
  car : (prices.cars.find? fun car => car.id = dto.carId) = some draft.car
  admitted : checkQuotedCar draft.car dto.tripType = .ok ()
  available : checkQuotedInterval moment dto.carId interval user = .ok ()
  mileagePackage : selectMileagePackage draft.car dto = .ok draft.mileagePackage
  fees : locationFees prices draft.car.vendorId dto interval = .ok draft.fees
  coupon : quotedCoupon prices moment draft.car dto user = .ok draft.coupon
  protection : draft.protection = quotedProtection prices draft.car.city dto
  trip : draft.trip = quotedTrip prices draft.car dto.tripType interval draft.mileagePackage
    draft.protection draft.coupon
  demandPrice : draft.demandPrice =
    prices.evaluatePrice draft.car interval.startDate interval.endDate

section Drafts

variable {prices : PriceList} {moment : QuoteMoment} {dto : CreateQuoteDto} {user : Option Id}
  {interval : QuoteInterval} {draft : QuoteDraft}

theorem draftedFrom_of_ok (h : draftQuote prices moment dto user interval = .ok draft) :
    draft.DraftedFrom prices moment dto user interval := by
  unfold draftQuote at h
  split at h
  · cases h
  next car hcar =>
    obtain ⟨_, hadmitted, h⟩ := bind_eq_ok.mp h
    obtain ⟨_, havailable, h⟩ := bind_eq_ok.mp h
    obtain ⟨mileagePackage, hpackage, h⟩ := bind_eq_ok.mp h
    obtain ⟨fees, hfees, h⟩ := bind_eq_ok.mp h
    obtain ⟨coupon, hcoupon, h⟩ := bind_eq_ok.mp h
    dsimp only at h
    split at h
    · cases h
    · cases h
      exact ⟨hcar, hadmitted, havailable, hpackage, hfees, hcoupon, rfl, rfl, rfl⟩

theorem QuoteDraft.DraftedFrom.ok (h : draft.DraftedFrom prices moment dto user interval) :
    draftQuote prices moment dto user interval = .ok draft := by
  obtain ⟨trip, car, mileagePackage, demandPrice, fees, protection, coupon, couponDiscount,
    covered, discounted⟩ := draft
  obtain ⟨hcar, hadmitted, havailable, hpackage, hfees, hcoupon, hprotection, htrip, hdemand⟩ := h
  dsimp only at hcar hadmitted havailable hpackage hfees hcoupon hprotection htrip hdemand
  subst hprotection htrip hdemand
  unfold draftQuote
  rw [hcar]
  simp only [hadmitted, havailable, hpackage, hfees, hcoupon, Except.bind]
  split
  next hrefused =>
    rw [discounted] at hrefused
    cases hrefused
  next discount hdiscount =>
    have hsame : discount = couponDiscount := Option.some.inj (hdiscount.symm.trans discounted)
    subst hsame
    rfl

end Drafts

/-! ## What the row keeps -/

def QuoteDraft.request (draft : QuoteDraft) (dto : CreateQuoteDto) (interval : QuoteInterval) :
    CreateQuoteDto where
  carId := dto.carId
  startDate := some interval.startDate
  endDate := some interval.endDate
  tripType := dto.tripType
  pickupHubId := dto.pickupHubId
  returnHubId := dto.returnHubId
  deliveryType := none
  deliveryAddress := dto.deliveryAddress
  deliveryLatitude := none
  deliveryLongitude := none
  couponCode := draft.coupon.map CodedCoupon.code
  protectionPackageId := none
  mileagePackageId := draft.mileagePackage.map MileagePackage.id
  idempotencyKey := none

/-- A coupon with a code can be found again. -/
def keptCoupon (coupon : Option CodedCoupon) : Option CodedCoupon :=
  coupon.filter fun coupon => coupon.code ≠ ""

theorem keptCoupon_eq {coupon : Option CodedCoupon}
    (h : ¬ (coupon.any fun coupon => coupon.code = "") = true) : keptCoupon coupon = coupon := by
  cases coupon with
  | none => rfl
  | some found =>
    have hcode : found.code ≠ "" := by simpa using h
    simp [keptCoupon, Option.filter, hcode]

namespace QuoteDraft

/-- What the coupon gives if it is found again. -/
def keptDiscount (draft : QuoteDraft) : Decimal :=
  if draft.coupon.any fun coupon => coupon.code = "" then 0 else draft.couponDiscount

/-- The trip without protection, with the coupon that is found again. -/
def renewedTrip (draft : QuoteDraft) : TripRequest :=
  { draft.trip with
    protectionPackage := none
    coupon := (keptCoupon draft.coupon).map CodedCoupon.toCouponTerms }

/-- The same draft without protection, with the coupon that is found again. -/
structure Renewal (draft renewed : QuoteDraft) : Prop where
  car : renewed.car = draft.car
  mileagePackage : renewed.mileagePackage = draft.mileagePackage
  demandPrice : renewed.demandPrice = draft.demandPrice
  protection : renewed.protection = none
  coupon : renewed.coupon = keptCoupon draft.coupon
  couponDiscount : renewed.couponDiscount = draft.keptDiscount
  trip : renewed.trip = draft.renewedTrip

/-- The car is still free for the user, who may use the coupon. -/
structure AdmittedAgain (draft : QuoteDraft) (moment : QuoteMoment) (user : Option Id)
    (dto : CreateQuoteDto) (interval : QuoteInterval) : Prop where
  start : moment.now - 120000 ≤ interval.startDate
  available :
    (moment.availability dto.carId interval.startDate interval.endDate user).1 = true
  coupon : ∀ coupon ∈ draft.coupon, coupon.code ≠ "" →
    moment.couponRefusal ((given user).getD "anonymous-quote") coupon draft.car dto.tripType = none

section Request

variable {prices : PriceList} {moment : QuoteMoment} {dto : CreateQuoteDto} {user : Option Id}
  {interval : QuoteInterval} {draft : QuoteDraft}

theorem checkDates_request (draft : QuoteDraft) (dto : CreateQuoteDto) (interval : QuoteInterval)
    (now : ℤ) {found : QuoteInterval} :
    checkDates now (draft.request dto interval) = .ok found ↔
      now - 120000 ≤ interval.startDate ∧ found = interval := by
  unfold checkDates request
  simp only [interval.start_lt_end, dif_pos]
  split
  next hpast =>
    constructor
    · intro h
      cases h
    · rintro ⟨hstart, -⟩
      omega
  next hstart =>
    constructor
    · intro h
      cases h
      exact ⟨not_lt.mp hstart, rfl⟩
    · rintro ⟨-, rfl⟩
      rfl

theorem selectMileagePackage_request
    (h : selectMileagePackage draft.car dto = .ok draft.mileagePackage) :
    selectMileagePackage draft.car (draft.request dto interval) = .ok draft.mileagePackage := by
  unfold selectMileagePackage at h
  split at h
  · have hnone : draft.mileagePackage = none := (Except.ok.inj h).symm
    simp [selectMileagePackage, request, hnone]
  next packageId hid =>
    split at h
    · cases h
    next pkg hpkg =>
      split at h
      next htrip =>
        have hsome : draft.mileagePackage = some pkg := (Except.ok.inj h).symm
        have hfound : pkg.id = packageId ∧ pkg.isActive = true := by
          simpa using List.find?_some hpkg
        have hgiven : given (some pkg.id) = some packageId := by
          rw [hfound.1]
          exact given_eq_some.mpr ⟨rfl, (given_eq_some.mp hid).2⟩
        unfold selectMileagePackage
        simp only [request, hsome, Option.map_some, hgiven, hpkg, if_pos htrip]
      · cases h

theorem findCoupon_code {code : String} {coupon : CodedCoupon}
    (hupper : prices.upper.StableUpper) (h : findCoupon prices code = some coupon) :
    findCoupon prices coupon.code = some coupon := by
  have hcode : coupon.code = prices.upper.toUpperCase (trim code) := by
    simpa using List.find?_some h
  have hsame : prices.upper.toUpperCase (trim coupon.code) =
      prices.upper.toUpperCase (trim code) := by
    rw [hcode, hupper.trim_toUpperCase, hupper.toUpperCase_toUpperCase]
  unfold findCoupon at h ⊢
  rw [hsame]
  exact h

theorem quotedCoupon_cases {car : QuotedCar} {coupon : Option CodedCoupon}
    (h : quotedCoupon prices moment car dto user = .ok coupon) :
    coupon = none ∨ ∃ code found, coupon = some found ∧ findCoupon prices code = some found := by
  unfold quotedCoupon at h
  split at h
  · exact .inl (Except.ok.inj h).symm
  next code hcode =>
    split at h
    · cases h
    next found hfound =>
      split at h
      · cases h
      · exact .inr ⟨code, found, (Except.ok.inj h).symm, hfound⟩

theorem quotedCoupon_request {moment' : QuoteMoment} {user' : Option Id}
    {coupon : Option CodedCoupon} (hupper : prices.upper.StableUpper)
    (h : quotedCoupon prices moment draft.car dto user = .ok draft.coupon) :
    quotedCoupon prices moment' draft.car (draft.request dto interval) user' = .ok coupon ↔
      coupon = keptCoupon draft.coupon ∧ ∀ coupon ∈ draft.coupon, coupon.code ≠ "" →
        moment'.couponRefusal ((given user').getD "anonymous-quote") coupon draft.car
          dto.tripType = none := by
  rcases quotedCoupon_cases h with hnone | ⟨code, found, hsome, hfound⟩
  · have hreply : quotedCoupon prices moment' draft.car (draft.request dto interval) user' =
        .ok none := by
      simp [quotedCoupon, request, hnone]
    rw [hreply, Except.ok.injEq, hnone, @eq_comm _ none]
    simp [keptCoupon]
  · by_cases hblank : found.code = ""
    · have hreply : quotedCoupon prices moment' draft.car (draft.request dto interval) user' =
          .ok none := by
        simp only [quotedCoupon, request, hsome, Option.map_some, hblank]
        rfl
      have hkept : keptCoupon (some found) = none := by
        simp [keptCoupon, Option.filter, hblank]
      rw [hreply, Except.ok.injEq, hsome, @eq_comm _ none, hkept]
      simp [hblank]
    · have hagain := findCoupon_code hupper hfound
      have hgiven : given (some found.code) = some found.code := given_eq_some.mpr ⟨rfl, hblank⟩
      have hkept : keptCoupon (some found) = some found := by
        simp [keptCoupon, hblank]
      unfold quotedCoupon
      simp only [request, hsome, hkept, Option.map_some, hgiven, hagain, Option.mem_some_iff,
        forall_eq']
      split
      next refusal hrefusal => simp [hrefusal, hblank]
      next hallowed =>
        rw [Except.ok.injEq, @eq_comm _ (some found)]
        simp [hallowed]

theorem checkQuotedInterval_eq_ok {carId : Id} :
    checkQuotedInterval moment carId interval user = .ok () ↔
      (moment.availability carId interval.startDate interval.endDate user).1 = true := by
  unfold checkQuotedInterval require
  dsimp only
  split
  next h => simp [h]
  next h => simp [h]

namespace DraftedFrom

variable {moment' : QuoteMoment} {user' : Option Id} {renewed : QuoteDraft} {fees : LocationFees}

theorem coupon_trip (h : draft.DraftedFrom prices moment dto user interval) :
    draft.trip.coupon = draft.coupon.map CodedCoupon.toCouponTerms := by
  rw [h.trip]
  rfl

theorem couponDiscount?_renewedTrip (h : draft.DraftedFrom prices moment dto user interval) :
    draft.renewedTrip.couponDiscount? = some draft.keptDiscount := by
  unfold keptDiscount
  split
  next hblank =>
    obtain ⟨found, hsome, hcode⟩ := (Option.any_eq_true _ _).mp hblank
    have hkept : keptCoupon draft.coupon = none := by
      rw [hsome]
      simpa [keptCoupon, Option.filter] using hcode
    simp [renewedTrip, TripRequest.couponDiscount?, hkept]
  next hcoded =>
    have hkept := keptCoupon_eq hcoded
    have hsame : draft.renewedTrip.couponDiscount? = draft.trip.couponDiscount? := by
      unfold TripRequest.couponDiscount?
      rw [h.coupon_trip, renewedTrip]
      simp only [hkept]
      rfl
    rw [hsame, draft.discounted]

theorem trip_request (h : draft.DraftedFrom prices moment dto user interval) :
    quotedTrip prices draft.car (draft.request dto interval).tripType interval
      draft.mileagePackage none (keptCoupon draft.coupon) = draft.renewedTrip := by
  unfold renewedTrip
  rw [h.trip]
  rfl

theorem renewal (h : draft.DraftedFrom prices moment dto user interval)
    (hupper : prices.upper.StableUpper)
    (hagain : renewed.DraftedFrom prices moment' (draft.request dto interval) user' interval)
    (hstart : moment'.now - 120000 ≤ interval.startDate) :
    draft.Renewal renewed ∧ draft.AdmittedAgain moment' user' dto interval ∧
      locationFees prices draft.car.vendorId (draft.request dto interval) interval =
        .ok renewed.fees := by
  have hcar : renewed.car = draft.car := Option.some.inj (hagain.car.symm.trans h.car)
  have hpackage : renewed.mileagePackage = draft.mileagePackage := by
    have hfound := hagain.mileagePackage
    rw [hcar, selectMileagePackage_request h.mileagePackage] at hfound
    exact (Except.ok.inj hfound).symm
  have hcoupon := hagain.coupon
  rw [hcar, quotedCoupon_request hupper h.coupon] at hcoupon
  have hprotection : renewed.protection = none := hagain.protection
  have htrip : renewed.trip = draft.renewedTrip := by
    rw [hagain.trip, hcar, hpackage, hprotection, hcoupon.1, h.trip_request]
  have hdiscount : renewed.couponDiscount = draft.keptDiscount := by
    have hfound := renewed.discounted
    rw [htrip, h.couponDiscount?_renewedTrip] at hfound
    exact (Option.some.inj hfound).symm
  have hdemand : renewed.demandPrice = draft.demandPrice := by
    rw [hagain.demandPrice, h.demandPrice, hcar]
  refine ⟨⟨hcar, hpackage, hdemand, hprotection, hcoupon.1, hdiscount, htrip⟩,
    ⟨hstart, checkQuotedInterval_eq_ok.mp hagain.available, hcoupon.2⟩, ?_⟩
  rw [← hcar]
  exact hagain.fees

theorem renew (h : draft.DraftedFrom prices moment dto user interval)
    (hupper : prices.upper.StableUpper)
    (hadmitted : draft.AdmittedAgain moment' user' dto interval)
    (hfees : locationFees prices draft.car.vendorId (draft.request dto interval) interval =
      .ok fees) :
    ∃ renewed : QuoteDraft,
      renewed.DraftedFrom prices moment' (draft.request dto interval) user' interval ∧
        renewed.fees = fees := by
  refine ⟨{
    trip := draft.renewedTrip
    car := draft.car
    mileagePackage := draft.mileagePackage
    demandPrice := draft.demandPrice
    fees
    protection := none
    coupon := keptCoupon draft.coupon
    couponDiscount := draft.keptDiscount
    covered := rfl
    discounted := h.couponDiscount?_renewedTrip }, ?_, rfl⟩
  exact {
    car := h.car
    admitted := h.admitted
    available := checkQuotedInterval_eq_ok.mpr hadmitted.available
    mileagePackage := selectMileagePackage_request h.mileagePackage
    fees := hfees
    coupon := (quotedCoupon_request hupper h.coupon).mpr ⟨rfl, hadmitted.coupon⟩
    protection := rfl
    trip := h.trip_request.symm
    demandPrice := h.demandPrice }

end DraftedFrom

end Request

end QuoteDraft

/-! ## The lines of two drafts -/

def amountOf (type : QuoteLineItemType) (entries : List (QuoteLineItemType × Decimal)) : Decimal :=
  ((entries.filter fun entry => entry.1 = type).map Prod.snd).sum

def LocationFees.lines (fees : LocationFees) : List (QuoteLineItem Decimal) :=
  QuoteDraft.feeLine .deliveryFee "Doorstep Delivery Fee"
    "Vehicle delivery to specified customer address" fees.deliveryFee ++
  QuoteDraft.feeLine .pickupFee "Pickup Hub Fee" "Operational processing at pickup branch"
    fees.pickupFee ++
  QuoteDraft.feeLine .returnFee "Return Hub Fee" "Operational processing at return branch"
    fees.returnFee ++
  QuoteDraft.feeLine .oneWaySurcharge "One-Way Relocation Surcharge"
    "Cross-branch fleet repositioning fee" fees.oneWayFee

/-- The amounts of the lines of the fees. -/
def LocationFees.listed (fees : LocationFees) : List Decimal :=
  [max 0 fees.deliveryFee, max 0 fees.pickupFee, max 0 fees.returnFee, max 0 fees.oneWayFee]

/-- The lines before the fees. -/
def QuoteDraft.ratedLines (prices : PriceList) (draft : QuoteDraft) :
    List (QuoteLineItem Decimal) :=
  let base := draft.baseText prices
  [QuoteDraft.line base.1 base.2.1 base.2.2 draft.trip.baseUnitPrice.value draft.trip.baseQuantity
    (toScale 2 draft.trip.initialBaseFare)] ++
  draft.durationDiscountLine prices ++
  [QuoteDraft.line .platformFee "Platform Service Fee"
    ("Platform technology & roadside assistance fee (" ++
      prices.numberText draft.trip.commissionPercent ++ "%)") draft.trip.platformFee 1
    draft.trip.platformFee,
   QuoteDraft.line .gst ("GST (" ++ prices.numberText draft.trip.gstRate ++ "% on Platform Fee)")
    "Government Goods and Services Tax on platform services" draft.trip.gstAmount 1
    draft.trip.gstAmount]

theorem amountOf_append (type : QuoteLineItemType)
    (first second : List (QuoteLineItemType × Decimal)) :
    amountOf type (first ++ second) = amountOf type first + amountOf type second := by
  simp [amountOf]

namespace QuoteDraft

variable {prices : PriceList} {draft renewed : QuoteDraft}

theorem fareLines_eq (prices : PriceList) (draft : QuoteDraft) :
    draft.fareLines prices = draft.ratedLines prices ++
      (draft.fees.lines ++ (draft.protectionLine prices ++ draft.couponLine)) := by
  simp [fareLines, ratedLines, LocationFees.lines]

theorem pos_of_max_eq {x y : Decimal} (h : max 0 x = max 0 y) :
    (0 < x ↔ 0 < y) ∧ (0 < x → x = y) := by
  have hpos : 0 < x ↔ 0 < y := by
    have hmax : 0 < max 0 x ↔ 0 < max 0 y := by rw [h]
    simpa using hmax
  refine ⟨hpos, ?_⟩
  intro hx
  rwa [max_eq_right hx.le, max_eq_right (hpos.mp hx).le] at h

theorem feeLine_congr {type : QuoteLineItemType} {name description : String} {fee other : Decimal}
    (h : max 0 fee = max 0 other) :
    feeLine type name description fee = feeLine type name description other := by
  obtain ⟨hpos, hsame⟩ := pos_of_max_eq h
  unfold feeLine
  by_cases hfee : 0 < fee
  · rw [hsame hfee]
  · rw [if_neg hfee, if_neg (mt hpos.mpr hfee)]

theorem amountOf_feeLine (type lineType : QuoteLineItemType) (name description : String)
    {fee : Decimal} (hfee : OnGrid 2 fee) :
    amountOf type ((feeLine lineType name description fee).map QuoteLineItem.entry) =
      if lineType = type then max 0 fee else 0 := by
  unfold feeLine
  by_cases hpos : 0 < fee
  · by_cases htype : lineType = type
    · simp [amountOf, QuoteLineItem.entry, line, hpos, htype, toScale_of_onGrid hfee, hpos.le]
    · simp [amountOf, QuoteLineItem.entry, line, hpos, htype]
  · simp [amountOf, hpos, not_lt.mp hpos]

theorem amountOf_couponLine (type : QuoteLineItemType) (draft : QuoteDraft) :
    amountOf type (draft.couponLine.map QuoteLineItem.entry) =
      if QuoteLineItemType.couponDiscount = type then -max 0 draft.couponDiscount else 0 := by
  have hgrid : OnGrid 2 draft.couponDiscount := TripRequest.onGrid_couponDiscount? draft.discounted
  unfold couponLine
  by_cases hpos : 0 < draft.couponDiscount
  · by_cases htype : QuoteLineItemType.couponDiscount = type
    · simp [amountOf, QuoteLineItem.entry, line, hpos, htype, toScale_of_onGrid hgrid.neg, hpos.le]
    · simp [amountOf, QuoteLineItem.entry, line, hpos, htype]
  · simp [amountOf, hpos, not_lt.mp hpos]

theorem amountOf_feesLines (type : QuoteLineItemType) (fees : LocationFees) :
    amountOf type (fees.lines.map QuoteLineItem.entry) =
      (if QuoteLineItemType.deliveryFee = type then max 0 fees.deliveryFee else 0) +
      (if QuoteLineItemType.pickupFee = type then max 0 fees.pickupFee else 0) +
      (if QuoteLineItemType.returnFee = type then max 0 fees.returnFee else 0) +
      (if QuoteLineItemType.oneWaySurcharge = type then max 0 fees.oneWayFee else 0) := by
  obtain ⟨gdelivery, gpickup, greturn, goneWay⟩ := fees.onGrid
  simp only [LocationFees.lines, List.map_append, amountOf_append,
    amountOf_feeLine _ _ _ _ gdelivery, amountOf_feeLine _ _ _ _ gpickup,
    amountOf_feeLine _ _ _ _ greturn, amountOf_feeLine _ _ _ _ goneWay]

theorem protectionFee_notMem (fees : LocationFees) (draft : QuoteDraft) (amount : Decimal) :
    (QuoteLineItemType.protectionFee, amount) ∉
      (fees.lines ++ draft.couponLine).map QuoteLineItem.entry := by
  intro hmem
  obtain ⟨item, hitem, hentry⟩ := List.mem_map.mp hmem
  have htype : item.type = .protectionFee := congrArg Prod.fst hentry
  have hfee : ∀ {type : QuoteLineItemType} {name description : String} {fee : Decimal},
      item ∈ feeLine type name description fee → type = .protectionFee := by
    intro type name description fee hline
    unfold feeLine at hline
    split at hline
    · rw [List.mem_singleton.mp hline] at htype
      exact htype
    · cases hline
  simp only [LocationFees.lines, List.mem_append] at hitem
  rcases hitem with (((hdelivery | hpickup) | hreturn) | honeWay) | hcoupon
  · cases hfee hdelivery
  · cases hfee hpickup
  · cases hfee hreturn
  · cases hfee honeWay
  · unfold couponLine at hcoupon
    split at hcoupon
    · rw [List.mem_singleton.mp hcoupon] at htype
      cases htype
    · cases hcoupon

namespace Renewal

theorem ratedLines (h : draft.Renewal renewed) :
    renewed.ratedLines prices = draft.ratedLines prices := by
  obtain ⟨trip, car, mileagePackage, demandPrice, fees, protection, coupon, couponDiscount,
    covered, discounted⟩ := renewed
  obtain ⟨hcar, hpackage, hdemand, hprotection, hcoupon, hdiscount, htrip⟩ := h
  dsimp only at hcar hpackage hdemand hprotection hcoupon hdiscount htrip
  subst hcar hpackage hdemand hprotection hcoupon hdiscount htrip
  rfl

theorem unique {other : QuoteDraft} (h : draft.Renewal renewed) (h' : draft.Renewal other)
    (hfees : renewed.fees = other.fees) : renewed = other := by
  obtain ⟨trip, car, mileagePackage, demandPrice, fees, protection, coupon, couponDiscount,
    covered, discounted⟩ := renewed
  obtain ⟨trip', car', mileagePackage', demandPrice', fees', protection', coupon',
    couponDiscount', covered', discounted'⟩ := other
  obtain ⟨hcar, hpackage, hdemand, hprotection, hcoupon, hdiscount, htrip⟩ := h
  obtain ⟨hcar', hpackage', hdemand', hprotection', hcoupon', hdiscount', htrip'⟩ := h'
  dsimp only at hcar hpackage hdemand hprotection hcoupon hdiscount htrip
  dsimp only at hcar' hpackage' hdemand' hprotection' hcoupon' hdiscount' htrip' hfees
  subst hcar hpackage hdemand hprotection hcoupon hdiscount htrip
  subst hcar' hpackage' hdemand' hprotection' hcoupon' hdiscount' htrip' hfees
  rfl

theorem depositAmount (h : draft.Renewal renewed) :
    renewed.depositAmount = draft.depositAmount := by
  unfold QuoteDraft.depositAmount
  rw [h.trip]
  rfl

theorem of_entries (h : draft.Renewal renewed)
    (heq : (renewed.lineItems prices).map QuoteLineItem.entry =
      (draft.lineItems prices).map QuoteLineItem.entry) :
    draft.protection = none ∧ renewed.fees.listed = draft.fees.listed ∧
      max 0 renewed.couponDiscount = max 0 draft.couponDiscount := by
  have hsplit : ∀ other : QuoteDraft, (other.fareLines prices).map QuoteLineItem.entry =
      (other.ratedLines prices).map QuoteLineItem.entry ++
        (other.fees.lines ++ (other.protectionLine prices ++ other.couponLine)).map
          QuoteLineItem.entry := by
    intro other
    rw [fareLines_eq, List.map_append]
  rw [map_entry_lineItems, map_entry_lineItems, h.depositAmount, List.append_cancel_right_eq,
    hsplit, hsplit, h.ratedLines, List.append_cancel_left_eq] at heq
  have hnone : renewed.protectionLine prices = [] := by
    simp [protectionLine, h.protection]
  rw [hnone, List.nil_append] at heq
  have hprotection : draft.protection = none := by
    cases hpkg : draft.protection with
    | none => rfl
    | some pkg =>
      exfalso
      have hmem : (QuoteLineItemType.protectionFee, toScale 2 draft.trip.quotedProtectionFee) ∈
          (draft.fees.lines ++ (draft.protectionLine prices ++ draft.couponLine)).map
            QuoteLineItem.entry := by
        simp [protectionLine, hpkg, QuoteLineItem.entry, line]
      rw [← heq] at hmem
      exact protectionFee_notMem _ _ _ hmem
  have hnone : draft.protectionLine prices = [] := by
    simp [protectionLine, hprotection]
  rw [hnone, List.nil_append, List.map_append, List.map_append] at heq
  have hamount : ∀ type : QuoteLineItemType, _ := fun type => congrArg (amountOf type) heq
  simp only [amountOf_append, amountOf_feesLines, amountOf_couponLine] at hamount
  have hdelivery : max 0 renewed.fees.deliveryFee = max 0 draft.fees.deliveryFee := by
    simpa using hamount .deliveryFee
  have hpickup : max 0 renewed.fees.pickupFee = max 0 draft.fees.pickupFee := by
    simpa using hamount .pickupFee
  have hreturn : max 0 renewed.fees.returnFee = max 0 draft.fees.returnFee := by
    simpa using hamount .returnFee
  have honeWay : max 0 renewed.fees.oneWayFee = max 0 draft.fees.oneWayFee := by
    simpa using hamount .oneWaySurcharge
  have hcoupon : max 0 renewed.couponDiscount = max 0 draft.couponDiscount := by
    simpa using hamount .couponDiscount
  refine ⟨hprotection, ?_, hcoupon⟩
  rw [LocationFees.listed, LocationFees.listed, hdelivery, hpickup, hreturn, honeWay]

theorem couponLine (h : draft.Renewal renewed)
    (hcoupon : max 0 renewed.couponDiscount = max 0 draft.couponDiscount) :
    renewed.couponLine = draft.couponLine := by
  obtain ⟨hpos, hsame⟩ := pos_of_max_eq hcoupon
  unfold QuoteDraft.couponLine
  by_cases hrenewed : 0 < renewed.couponDiscount
  · have hcoded : ¬ (draft.coupon.any fun coupon => coupon.code = "") = true := by
      intro hblank
      rw [h.couponDiscount, keptDiscount, if_pos hblank] at hrenewed
      exact hrenewed.false
    rw [hsame hrenewed, h.coupon, keptCoupon_eq hcoded]
  · rw [if_neg hrenewed, if_neg (mt hpos.mpr hrenewed)]

theorem lineItems (h : draft.Renewal renewed) (hprotection : draft.protection = none)
    (hlisted : renewed.fees.listed = draft.fees.listed)
    (hcoupon : max 0 renewed.couponDiscount = max 0 draft.couponDiscount) :
    renewed.lineItems prices = draft.lineItems prices := by
  have hnone : renewed.protectionLine prices = draft.protectionLine prices := by
    simp [protectionLine, h.protection, hprotection]
  simp only [LocationFees.listed, List.cons.injEq, and_true] at hlisted
  obtain ⟨hdelivery, hpickup, hreturn, honeWay⟩ := hlisted
  have hfees : renewed.fees.lines = draft.fees.lines := by
    rw [LocationFees.lines, LocationFees.lines, feeLine_congr hdelivery, feeLine_congr hpickup,
      feeLine_congr hreturn, feeLine_congr honeWay]
  have hfare : renewed.fareLines prices = draft.fareLines prices := by
    rw [fareLines_eq, fareLines_eq, h.ratedLines, hfees, hnone, h.couponLine hcoupon]
  rw [QuoteDraft.lineItems, QuoteDraft.lineItems, hfare, h.depositAmount]

theorem totalPayable_iff {price price' : QuotePrice} (h : draft.Renewal renewed)
    (hpriced : draft.Priced price) (hpriced' : renewed.Priced price')
    (hprotection : draft.protection = none) :
    price'.totalPayable = price.totalPayable ↔
      renewed.fees.total - draft.keptDiscount = draft.fees.total - draft.couponDiscount := by
  have hnone : draft.trip.quotedProtectionFee = 0 := by
    rw [TripRequest.quotedProtectionFee, draft.covered, hprotection]
    rfl
  have hcharges : renewed.charges = draft.trip.quotedTotal + renewed.fees.sum + 0 := by
    rw [charges, h.trip]
    rfl
  rw [hpriced.total, hpriced'.total]
  constructor
  · intro heq
    have hvalue := hpriced'.totalPayable
    rw [heq, hpriced.totalPayable, charges, hcharges, hnone, h.couponDiscount,
      h.depositAmount] at hvalue
    linarith
  · intro heq
    have hvalue : price'.totalPayable.value = price.totalPayable.value := by
      rw [hpriced'.totalPayable, hpriced.totalPayable, hcharges, charges, hnone,
        h.couponDiscount, h.depositAmount]
      linarith
    exact Column.ext (Column.value_inj.mp hvalue)

theorem price?_eq (h : draft.Renewal renewed) (hprotection : draft.protection = none)
    (htotal : renewed.fees.total = draft.fees.total)
    (hcoupon : renewed.couponDiscount = draft.couponDiscount) :
    renewed.price? = draft.price? := by
  have hnone : draft.trip.quotedProtectionFee = 0 := by
    rw [TripRequest.quotedProtectionFee, draft.covered, hprotection]
    rfl
  unfold price? feesTotal tripFare
  rw [h.depositAmount, h.trip, htotal, hcoupon, hnone]
  rfl

end Renewal

end QuoteDraft

/-! ## Refreshing -/

/-- What makes the renewed quote the same: there is no protection package, and the fees and the
coupon that are found again have the same lines and are charged alike. -/
structure QuoteDraft.RenewedBy (draft : QuoteDraft) (fees : LocationFees) : Prop where
  unprotected : draft.protection = none
  listed : fees.listed = draft.fees.listed
  coupon : max 0 draft.keptDiscount = max 0 draft.couponDiscount
  charged : fees.total - draft.keptDiscount = draft.fees.total - draft.couponDiscount
  /-- Other amounts may not fit their columns. -/
  fits : draft.keptDiscount ≠ draft.couponDiscount → ∀ renewed : QuoteDraft,
    draft.Renewal renewed → renewed.fees = fees → renewed.price? ≠ none

theorem QuoteDraft.renewedBy_iff {draft : QuoteDraft} {fees : LocationFees}
    (hkept : draft.keptDiscount = draft.couponDiscount) :
    draft.RenewedBy fees ↔ draft.protection = none ∧ fees.listed = draft.fees.listed ∧
      fees.total = draft.fees.total := by
  constructor
  · intro h
    have hcharged := h.charged
    rw [hkept] at hcharged
    exact ⟨h.unprotected, h.listed, sub_left_injective hcharged⟩
  · rintro ⟨hprotection, hlisted, htotal⟩
    exact ⟨hprotection, hlisted, by rw [hkept], by rw [hkept, htotal],
      fun hne => absurd hkept hne⟩

section Refresh

variable {prices : PriceList} {moment moment' : QuoteMoment} {quotes : List StoredQuote}
  {newId : Id} {dto : CreateQuoteDto} {user user' : Option Id} {interval : QuoteInterval}
  {draft : QuoteDraft} {quote : StoredQuote}

theorem locationFees_request {vendorId : Id} {fees : LocationFees}
    (hlatitude : dto.deliveryLatitude = none)
    (h : locationFees prices vendorId dto interval = .ok fees) :
    locationFees prices vendorId (draft.request dto interval) interval = .ok fees := by
  have hasks : (draft.request dto interval).AsksLocations ↔ dto.AsksLocations := by
    simp [CreateQuoteDto.AsksLocations, QuoteDraft.request, hlatitude]
  have hquote : calculateDeliveryQuote prices.locations
      ((draft.request dto interval).locationRequest vendorId interval) =
        calculateDeliveryQuote prices.locations (dto.locationRequest vendorId interval) := by
    have hpoint : customerPoint prices.locations
        ((draft.request dto interval).locationRequest vendorId interval) =
          customerPoint prices.locations (dto.locationRequest vendorId interval) := by
      simp [customerPoint, CreateQuoteDto.locationRequest, QuoteDraft.request, hlatitude]
    unfold calculateDeliveryQuote
    rw [hpoint]
    rfl
  unfold locationFees at h ⊢
  rw [hquote]
  by_cases hask : dto.AsksLocations
  · rw [if_pos hask] at h
    rw [if_pos (hasks.mpr hask)]
    split at h
    next locQuote hloc =>
      split at h
      · cases h
      · rw [if_neg (by simp [QuoteDraft.request])]
        exact h
    · cases h
    · cases h
    · exact h
  · rw [if_neg hask] at h
    rw [if_neg (mt hasks.mp hask)]
    exact h

theorem request_of_store
    (h : storeQuote prices moment.now newId dto user interval draft = some quote) :
    quote.request = draft.request dto interval := by
  simp only [storeQuote, bind, Option.bind_eq_some_iff, pure, Option.some.injEq] at h
  obtain ⟨price, -, lineItems, -, rfl⟩ := h
  rfl

theorem PricingService.generateQuote_reply (hkey : dto.idempotencyKey = none) :
    (PricingService.generateQuote prices moment quotes newId dto user).2 =
      (checkDates moment.now dto).bind fun interval =>
        newQuote prices moment newId dto user interval := by
  unfold PricingService.generateQuote
  rw [hkey, activeQuote?_none, keyTaken_none]
  cases checkDates moment.now dto with
  | error e => rfl
  | ok interval =>
    show _ = newQuote prices moment newId dto user interval
    cases hnew : newQuote prices moment newId dto user interval with
    | error e => simp [hnew]
    | ok stored => simp [hnew]

theorem PricingService.refreshQuote_eq_ok {renewed row : StoredQuote} {quoteId : Id}
    (hrow : (quotes.find? fun row => row.id = quoteId) = some row)
    (hkept : row.request = draft.request dto interval) :
    (PricingService.refreshQuote prices moment quotes newId quoteId user).2 = .ok renewed ↔
      moment.now - 120000 ≤ interval.startDate ∧ ∃ next : QuoteDraft,
        next.DraftedFrom prices moment (draft.request dto interval) user interval ∧
        storeQuote prices moment.now newId (draft.request dto interval) user interval next =
          some renewed := by
  unfold PricingService.refreshQuote
  rw [hrow]
  dsimp only
  rw [hkept, PricingService.generateQuote_reply rfl, bind_eq_ok]
  constructor
  · rintro ⟨found, hdates, hnew⟩
    obtain ⟨hstart, rfl⟩ := (QuoteDraft.checkDates_request draft dto interval _).mp hdates
    obtain ⟨next, hnext, hstore⟩ := newQuote_eq_ok hnew
    exact ⟨hstart, next, draftedFrom_of_ok hnext, hstore⟩
  · rintro ⟨hstart, next, hnext, hstore⟩
    refine ⟨interval, (QuoteDraft.checkDates_request draft dto interval _).mpr ⟨hstart, rfl⟩, ?_⟩
    rw [newQuote, hnext.ok]
    simp only [Except.bind, hstore]

theorem renewed_same_iff {renewed : QuoteDraft} {other : StoredQuote}
    (hrenewal : draft.Renewal renewed)
    (hprice : draft.price? = some quote.price)
    (hstored : (draft.lineItems prices).mapM QuoteLineItem.store? = some quote.lineItems)
    (hprice' : renewed.price? = some other.price)
    (hstored' : (renewed.lineItems prices).mapM QuoteLineItem.store? = some other.lineItems) :
    other.lineItems = quote.lineItems ∧ other.price.totalPayable = quote.price.totalPayable ↔
      draft.RenewedBy renewed.fees := by
  have hpriced := QuoteDraft.price?_eq_some hprice hstored
  have hpriced' := QuoteDraft.price?_eq_some hprice' hstored'
  constructor
  · rintro ⟨hlines, htotal⟩
    have hentries : (renewed.lineItems prices).map QuoteLineItem.entry =
        (draft.lineItems prices).map QuoteLineItem.entry := by
      rw [← (entries_of_store hstored).1, ← (entries_of_store hstored').1, hlines]
    obtain ⟨hprotection, hlisted, hcoupon⟩ := hrenewal.of_entries hentries
    rw [hrenewal.couponDiscount] at hcoupon
    have hcharged := (hrenewal.totalPayable_iff hpriced hpriced' hprotection).mp htotal
    refine ⟨hprotection, hlisted, hcoupon, hcharged, ?_⟩
    intro _ next hnext hfees
    rw [hnext.unique hrenewal hfees, hprice']
    exact Option.some_ne_none _
  · intro h
    have hcoupon : max 0 renewed.couponDiscount = max 0 draft.couponDiscount := by
      rw [hrenewal.couponDiscount]
      exact h.coupon
    have hlines : renewed.lineItems prices = draft.lineItems prices :=
      hrenewal.lineItems h.unprotected h.listed hcoupon
    rw [hlines, hstored] at hstored'
    exact ⟨(Option.some.inj hstored').symm,
      (hrenewal.totalPayable_iff hpriced hpriced' h.unprotected).mpr h.charged⟩

theorem storeQuote_renewed {renewed : QuoteDraft} (now : ℤ) (id : Id)
    (request : CreateQuoteDto) (user : Option Id) (interval : QuoteInterval)
    (hrenewal : draft.Renewal renewed) (h : draft.RenewedBy renewed.fees)
    (hprice : draft.price? = some quote.price)
    (hstored : (draft.lineItems prices).mapM QuoteLineItem.store? = some quote.lineItems) :
    ∃ other, storeQuote prices now id request user interval renewed = some other := by
  have hcoupon : max 0 renewed.couponDiscount = max 0 draft.couponDiscount := by
    rw [hrenewal.couponDiscount]
    exact h.coupon
  have hlines : (renewed.lineItems prices).mapM QuoteLineItem.store? = some quote.lineItems := by
    rw [hrenewal.lineItems h.unprotected h.listed hcoupon]
    exact hstored
  obtain ⟨price, hprice'⟩ : ∃ price, renewed.price? = some price := by
    by_cases hkept : draft.keptDiscount = draft.couponDiscount
    · have htotal : renewed.fees.total = draft.fees.total :=
        ((QuoteDraft.renewedBy_iff hkept).mp h).2.2
      rw [hrenewal.price?_eq h.unprotected htotal (hrenewal.couponDiscount.trans hkept)]
      exact ⟨quote.price, hprice⟩
    · exact Option.ne_none_iff_exists'.mp (h.fits hkept renewed hrenewal rfl)
  simp only [storeQuote, hprice', hlines, bind, Option.bind_some, pure]
  exact ⟨_, rfl⟩

end Refresh

/-- **When a refreshed quote is the same.**  For every quote that has been given and every later
moment at the same prices: the refresh answers with the same lines and the same total exactly when
the car is still admitted, there is no protection package, and the fees that the kept request is
quoted have the same lines and the same total. -/
theorem refreshed_quote_same_iff {prices : PriceList} {moment moment' : QuoteMoment}
    {quotes table : List StoredQuote} {newId newId' : Id} {dto : CreateQuoteDto}
    {user user' customerId : Option Id} {quote : StoredQuote} {status : QuoteStatus}
    (hupper : prices.upper.StableUpper)
    (h : PricingService.generateQuote prices moment quotes newId dto user =
      (quotes ++ [quote], .ok quote))
    (hrow : (table.find? fun row => row.id = quote.id) = some { quote with status, customerId }) :
    (∃ renewed, (PricingService.refreshQuote prices moment' table newId' quote.id user').2 =
        .ok renewed ∧ renewed.lineItems = quote.lineItems ∧
        renewed.price.totalPayable = quote.price.totalPayable) ↔
      ∃ interval draft fees, checkDates moment.now dto = .ok interval ∧
        draftQuote prices moment dto user interval = .ok draft ∧
        draft.AdmittedAgain moment' user' dto interval ∧
        locationFees prices draft.car.vendorId (draft.request dto interval) interval = .ok fees ∧
        draft.RenewedBy fees := by
  obtain ⟨interval, draft, hinterval, hdraft, hstore⟩ := PricingService.generateQuote_stored h
  obtain ⟨hprice, hstored⟩ := storeQuote_eq_some hstore
  have hfrom := draftedFrom_of_ok hdraft
  have hrequest : quote.request = draft.request dto interval := request_of_store hstore
  have hkept : ({ quote with status, customerId } : StoredQuote).request =
      draft.request dto interval := hrequest
  constructor
  · rintro ⟨renewed, hrefresh, hlines, htotal⟩
    obtain ⟨hstart, next, hnext, hnextstore⟩ :=
      (PricingService.refreshQuote_eq_ok hrow hkept).mp hrefresh
    obtain ⟨hrenewal, hadmitted, hfees⟩ := hfrom.renewal hupper hnext hstart
    obtain ⟨hprice', hstored'⟩ := storeQuote_eq_some hnextstore
    exact ⟨interval, draft, next.fees, hinterval, hdraft, hadmitted, hfees,
      (renewed_same_iff hrenewal hprice hstored hprice' hstored').mp ⟨hlines, htotal⟩⟩
  · rintro ⟨interval', draft', fees, hinterval', hdraft', hadmitted, hfees, hsame⟩
    have heq : interval' = interval := Except.ok.inj (hinterval'.symm.trans hinterval)
    subst heq
    have heq : draft' = draft := Except.ok.inj (hdraft'.symm.trans hdraft)
    subst heq
    obtain ⟨next, hnext, rfl⟩ := hfrom.renew hupper hadmitted hfees
    obtain ⟨hrenewal, -, -⟩ := hfrom.renewal hupper hnext hadmitted.start
    obtain ⟨renewed, hnextstore⟩ := storeQuote_renewed moment'.now newId'
      (draft'.request dto interval') user' interval' hrenewal hsame hprice hstored
    obtain ⟨hprice', hstored'⟩ := storeQuote_eq_some hnextstore
    obtain ⟨hlines, htotal⟩ :=
      (renewed_same_iff hrenewal hprice hstored hprice' hstored').mpr hsame
    exact ⟨renewed, (PricingService.refreshQuote_eq_ok hrow hkept).mpr
      ⟨hadmitted.start, next, hnext, hnextstore⟩, hlines, htotal⟩

/-- A quote without protection, refreshed after a minute. -/
theorem unprotected_quote_renewed :
    ∃ quote, PricingService.generateQuote (relocationPrices ⟨20000, by decide⟩) (openMoment 0) []
        "quote" (relocationRequest none) (some "customer") = ([] ++ [quote], .ok quote) ∧
      ∃ renewed, (PricingService.refreshQuote (relocationPrices ⟨20000, by decide⟩)
          (openMoment 60000) [quote] "renewed" quote.id (some "customer")).2 = .ok renewed ∧
        renewed.lineItems = quote.lineItems ∧
        renewed.price.totalPayable = quote.price.totalPayable := by
  have hgiven : (PricingService.generateQuote (relocationPrices ⟨20000, by decide⟩) (openMoment 0)
      [] "quote" (relocationRequest none) (some "customer")).2.toOption.isSome = true := by
    decide +kernel
  obtain ⟨quote, hquote⟩ := Option.isSome_iff_exists.mp hgiven
  have hstored := PricingService.generateQuote_of_ok rfl (toOption_eq_some.mp hquote)
  have hcoded : (draftQuote (relocationPrices ⟨20000, by decide⟩) (openMoment 0)
      (relocationRequest none) (some "customer") ⟨86400000, 172800000, by decide⟩).toOption.any
        (fun draft => draft.protection.isNone ∧
          ¬ (draft.coupon.any fun coupon => coupon.code = "") = true) = true := by
    decide +kernel
  obtain ⟨draft, hdraft, hcoded⟩ := (Option.any_eq_true _ _).mp hcoded
  obtain ⟨hprotection, hcoupon⟩ := of_decide_eq_true hcoded
  have hkept : draft.keptDiscount = draft.couponDiscount := if_neg hcoupon
  have hfrom := draftedFrom_of_ok (toOption_eq_some.mp hdraft)
  have hrow : ([quote].find? fun row => row.id = quote.id) =
      some { quote with status := quote.status, customerId := quote.customerId } := by
    simp
  exact ⟨quote, hstored, (refreshed_quote_same_iff stableUpper_ascii hstored hrow).mpr
    ⟨_, draft, draft.fees, rfl, toOption_eq_some.mp hdraft,
      ⟨by decide, rfl, fun _ _ _ => rfl⟩, locationFees_request rfl hfrom.fees,
      (QuoteDraft.renewedBy_iff hkept).mpr
        ⟨Option.isNone_iff_eq_none.mp hprotection, rfl, rfl⟩⟩⟩

/-- A quote of 7855.00 with a protection package is refreshed after a minute: it is 7556.00, without
the line of the package. -/
theorem protection_not_renewed :
    ∃ quote renewed, PricingService.generateQuote (relocationPrices ⟨20000, by decide⟩)
        (openMoment 0) [] "quote" (relocationRequest (some "basic")) (some "customer") =
          ([] ++ [quote], .ok quote) ∧
      60000 < quote.expiresAt ∧
      (PricingService.refreshQuote (relocationPrices ⟨20000, by decide⟩) (openMoment 60000) [quote]
        "renewed" quote.id (some "customer")).2 = .ok renewed ∧
      quote.price.totalPayable.paise = 785500 ∧ renewed.price.totalPayable.paise = 755600 ∧
      quote.lineItems.length = 9 ∧ renewed.lineItems.length = 8 := by
  have hvalues : ((PricingService.generateQuote (relocationPrices ⟨20000, by decide⟩)
      (openMoment 0) [] "quote" (relocationRequest (some "basic"))
      (some "customer")).2.toOption.bind fun quote =>
        (PricingService.refreshQuote (relocationPrices ⟨20000, by decide⟩) (openMoment 60000)
          [quote] "renewed" quote.id (some "customer")).2.toOption.map fun renewed =>
            (quote.expiresAt, quote.price.totalPayable.paise, renewed.price.totalPayable.paise,
              quote.lineItems.length, renewed.lineItems.length)) =
      some (900000, 785500, 755600, 9, 8) := by
    decide +kernel
  obtain ⟨quote, hquote, hvalues⟩ := Option.bind_eq_some_iff.mp hvalues
  obtain ⟨renewed, hrenewed, hvalues⟩ := Option.map_eq_some_iff.mp hvalues
  simp only [Prod.mk.injEq] at hvalues
  obtain ⟨hexpires, htotal, htotal', hlines, hlines'⟩ := hvalues
  exact ⟨quote, renewed, PricingService.generateQuote_of_ok rfl (toOption_eq_some.mp hquote),
    by omega, toOption_eq_some.mp hrenewed, htotal, htotal', hlines, hlines'⟩

end CarRental
