import CarRental.Pricing.QuotedFare

/-!
# When a booking costs what its quote said

The two fares are brought to one form first, and then compared part by part.

Strategy.  An operation on amounts in paise is exact unless its result is too large for a column,
and every amount that is not rounded on its own way is stored in a column or bounds one.  So of
the arithmetic of both sides only the roundings remain that are not on the grid: of the discount,
of the commission and of the GST (`createdFare_eq_some`, `quotedFare_eq_some`).  A coupon never
gives more than the amount it is used for, so the total of a booking is not cut off at zero.

Then the fares agree exactly when the quote's settings give the price and the discount that the
car's own rates give, and rounding after every step gives what rounding once gives
(`PricedAlike`).
-/

namespace CarRental

open Rounding

/-! ## Exact operations -/

namespace Decimal

theorem toDigits_of_abs_le {z : Decimal} (hgrid : OnGrid 2 z) (hle : |z| ≤ 10 ^ 10) :
    toDigits precision z = z := by
  refine toDigits_of_onGrid hgrid ?_
  calc |z| * 10 ^ 2 ≤ 10 ^ 10 * 10 ^ 2 := by gcongr
    _ < 10 ^ precision := by norm_num [precision]

theorem add_of_abs_le {x y : Decimal} (hx : OnGrid 2 x) (hy : OnGrid 2 y)
    (hle : |x + y| ≤ 10 ^ 10) : add x y = x + y :=
  toDigits_of_abs_le (hx.add hy) hle

theorem sub_of_abs_le {x y : Decimal} (hx : OnGrid 2 x) (hy : OnGrid 2 y)
    (hle : |x - y| ≤ 10 ^ 10) : sub x y = x - y :=
  toDigits_of_abs_le (hx.sub hy) hle

end Decimal

theorem onGrid_mul_natCast (c : Money) (n : ℕ) : OnGrid 2 (c.value * n) := by
  obtain ⟨m, hm⟩ := c.onGrid_value
  refine ⟨m * n, ?_⟩
  push_cast
  rw [← hm]
  ring

theorem mul_natCast_of_ofDecimal? {rate c : Money} {n : ℕ}
    (h : Column.ofDecimal? (Decimal.mul rate.value n) = some c) :
    Decimal.mul rate.value n = rate.value * n := by
  refine Decimal.toDigits_of_abs_lt (onGrid_mul_natCast rate n) ?_
  exact (Column.abs_lt_of_ofDecimal? h).trans (by norm_num)

theorem value_of_ofDecimal?_toScale {x : Decimal} {c : Money}
    (h : Column.ofDecimal? (toScale 2 x) = some c) :
    c.value = toScale 2 x ∧ |x| < 10 ^ 8 + 2 := by
  refine ⟨(Column.value_of_ofDecimal? h).trans (toScale_of_onGrid (onGrid_toScale x)), ?_⟩
  have hstored := Column.abs_lt_of_ofDecimal? h
  have herror := abs_toScale_sub_le 2 x
  have htriangle : |x| - |toScale 2 x| ≤ |toScale 2 x - x| := by
    rw [abs_sub_comm]
    exact abs_sub_abs_le_abs_sub x (toScale 2 x)
  linarith

theorem abs_value_le (c : Money) : |c.value| ≤ 10 ^ 8 := by
  have := c.abs_value_lt
  linarith

theorem value_of_sum {x y : Decimal} {c : Money} (hx : OnGrid 2 x) (hy : OnGrid 2 y)
    (h : Column.ofDecimal? (toScale 2 (Decimal.add x y)) = some c) :
    Decimal.add x y = x + y ∧ c.value = x + y := by
  obtain ⟨hvalue, hlt⟩ := value_of_ofDecimal?_toScale h
  have hexact : Decimal.add x y = x + y :=
    Decimal.toDigits_of_abs_lt (hx.add hy) (hlt.trans (by norm_num))
  rw [hexact, toScale_of_onGrid (hx.add hy)] at hvalue
  exact ⟨hexact, hvalue⟩

theorem value_of_onGrid {x : Decimal} {c : Money} (hx : OnGrid 2 x)
    (h : Column.ofDecimal? x = some c) : c.value = x :=
  (Column.value_of_ofDecimal? h).trans (toScale_of_onGrid hx)

/-! ## The discount of a coupon -/

section Coupon

variable {terms : CouponTerms} {subtotal discount : Decimal}

theorem round_div_le {x : Decimal} (hgrid : OnGrid 2 subtotal) (hle : x ≤ subtotal) :
    (round (x * 100) : Decimal) / 100 ≤ subtotal := by
  obtain ⟨n, hn⟩ := hgrid
  have hscaled : x * 100 ≤ n := by linarith
  have hround : round (x * 100) ≤ n :=
    calc round (x * 100) ≤ round (n : ℚ) := round_mono hscaled
      _ = n := round_intCast n
  have hcast : (round (x * 100) : ℚ) ≤ n := by exact_mod_cast hround
  rw [div_le_iff₀ (by norm_num)]
  linarith

theorem validateCoupon_eq_some (h : terms.validateCoupon subtotal = some discount)
    (hgrid : OnGrid 2 subtotal) : OnGrid 2 discount ∧ discount ≤ subtotal := by
  unfold CouponTerms.validateCoupon at h
  split at h
  · cases h
  · cases h
    refine ⟨⟨round (min (terms.calculatedDiscount subtotal) subtotal * 100), by norm_num⟩, ?_⟩
    exact round_div_le hgrid (min_le_right _ _)

end Coupon

theorem ProtectionPackage.BookedIn.quotedIn {package : ProtectionPackage} {city : String}
    (h : package.BookedIn city) : package.QuotedIn city := by
  obtain ⟨hactive, hnone | hempty | heq⟩ := h
  · exact ⟨hactive, .inl hnone⟩
  · exact ⟨hactive, .inr (.inl hempty)⟩
  · exact ⟨hactive, .inr (.inr (by rw [heq]; rfl))⟩

namespace TripRequest

/-! ## The condition -/

/-- The price at the car's own rates, with the distance. -/
def ownPrice (trip : TripRequest) : Decimal :=
  Decimal.add (Decimal.mul trip.fareRequest.distanceKm trip.fareRequest.pricePerKm)
    trip.basePackagePrice

/-- The weekly or monthly discount of the car on it. -/
def ownDiscount (trip : TripRequest) : Decimal :=
  let discountPct := durationDiscountPercent trip.fareRequest
  if 0 < discountPct then Decimal.mul trip.ownPrice (Decimal.div discountPct 100) else 0

def ownBase (trip : TripRequest) : Decimal :=
  if 0 < durationDiscountPercent trip.fareRequest then Decimal.sub trip.ownPrice trip.ownDiscount
  else trip.ownPrice

def ownFee (trip : TripRequest) : Decimal :=
  Decimal.mul trip.ownBase (Decimal.div trip.commissionPercent 100)

def ownGst (trip : TripRequest) : Decimal := Decimal.mul trip.ownFee (Decimal.div 18 100)

def ownTotal (trip : TripRequest) : Decimal :=
  Decimal.add (Decimal.add trip.ownBase trip.ownFee) trip.ownGst

/-- What makes the two fares the same.

The settings: the quoted rate and the configured tiers give the price and the discount of the
car's own rates; no referral discount is due; the protection package is for the same city in both
spellings.

The roundings: what the discount leaves, the commission and the GST come to the same paise whether
the amount that they are computed from is rounded before or not, the GST at the configured rate;
and the total is the sum of the rounded parts. -/
structure PricedAlike (trip : TripRequest) : Prop where
  price : trip.initialBaseFare = toScale 2 trip.ownPrice
  discount : trip.durationDiscountAmount = toScale 2 trip.ownDiscount
  base : toScale 2 trip.ownBase = toScale 2 trip.ownPrice - toScale 2 trip.ownDiscount
  fee : toScale 2 trip.ownFee =
    toScale 2 (Decimal.mul (toScale 2 trip.ownBase) (Decimal.div trip.commissionPercent 100))
  gst : toScale 2 trip.ownGst =
    toScale 2 (Decimal.mul (toScale 2 trip.ownFee) (Decimal.div trip.gstRate 100))
  total : toScale 2 trip.ownTotal =
    toScale 2 trip.ownBase + toScale 2 trip.ownFee + toScale 2 trip.ownGst
  referral : trip.coupon = none → ∀ benefit ∈ trip.refereeBenefit,
    benefit.minBookingAmount.value ≤ toScale 2 trip.ownTotal → benefit.discountAmount.paise = 0
  protection : ∀ package ∈ trip.protectionPackage, package.dailyRate.paise ≠ 0 →
    package.QuotedIn trip.car.city → package.BookedIn trip.car.city

theorem calculateFare_fareRequest (trip : TripRequest) :
    calculateFare trip.fareRequest =
      { baseFare := toScale 2 trip.ownBase
        originalBaseFare := toScale 2 trip.ownPrice
        discountAmount := toScale 2 trip.ownDiscount
        discountPercent := durationDiscountPercent trip.fareRequest
        platformFee := toScale 2 trip.ownFee
        gst := toScale 2 trip.ownGst
        total := toScale 2 trip.ownTotal
        netToVendor := toScale 2 trip.ownBase } := rfl

/-! ## The fare of a booking -/

section Created

variable {trip : TripRequest} {created : FareComponents} {discount : Option Decimal}

/-- The total of a booking before its protection fee. -/
def discountedTotal (trip : TripRequest) (discount : Option Decimal) : Decimal :=
  discount.elim (toScale 2 trip.ownTotal) fun amount => max 0 (toScale 2 trip.ownTotal - amount)

theorem discountAmount?_eq_some (h : trip.discountAmount? = some discount) :
    (∃ terms amount, trip.coupon = some terms ∧ discount = some amount ∧
        terms.validateCoupon (toScale 2 trip.ownTotal) = some amount ∧ OnGrid 2 amount ∧
        amount ≤ toScale 2 trip.ownTotal) ∨
      (∃ benefit : RefereeBenefit, trip.coupon = none ∧ trip.refereeBenefit = some benefit ∧
        discount = some benefit.discountAmount.value ∧
        benefit.minBookingAmount.value ≤ toScale 2 trip.ownTotal) ∨
      trip.coupon = none ∧ discount = none ∧ ∀ benefit ∈ trip.refereeBenefit,
        ¬ benefit.minBookingAmount.value ≤ toScale 2 trip.ownTotal := by
  rw [discountAmount?, calculateFare_fareRequest] at h
  cases hcoupon : trip.coupon with
  | some terms =>
    simp only [hcoupon, Option.map_eq_some_iff] at h
    obtain ⟨amount, hvalid, rfl⟩ := h
    obtain ⟨hgrid, hle⟩ := validateCoupon_eq_some hvalid (onGrid_toScale _)
    exact .inl ⟨terms, amount, rfl, rfl, hvalid, hgrid, hle⟩
  | none =>
    cases hbenefit : trip.refereeBenefit with
    | some benefit =>
      simp only [hcoupon, hbenefit] at h
      split at h
      next hmin =>
        cases h
        exact .inr (.inl ⟨benefit, rfl, rfl, rfl, hmin⟩)
      next hmin =>
        cases h
        refine .inr (.inr ⟨rfl, rfl, ?_⟩)
        rintro other ⟨⟩
        exact hmin
    | none =>
      simp only [hcoupon, hbenefit] at h
      cases h
      exact .inr (.inr ⟨rfl, rfl, fun _ hmem => absurd hmem (by simp)⟩)

theorem onGrid_discountAmount? (h : trip.discountAmount? = some discount) :
    ∀ amount ∈ discount, OnGrid 2 amount := by
  rcases discountAmount?_eq_some h with ⟨terms, amount, -, rfl, -, hgrid, -⟩ |
    ⟨benefit, -, -, rfl, -⟩ | ⟨-, rfl, -⟩
  · rintro _ ⟨⟩
    exact hgrid
  · rintro _ ⟨⟩
    exact benefit.discountAmount.onGrid_value
  · rintro _ ⟨⟩

theorem onGrid_discountedTotal (h : trip.discountAmount? = some discount) :
    OnGrid 2 (trip.discountedTotal discount) := by
  cases discount with
  | none => exact onGrid_toScale _
  | some amount =>
    have hgrid := onGrid_discountAmount? h amount rfl
    show OnGrid 2 (max 0 (toScale 2 trip.ownTotal - amount))
    rcases max_choice 0 (toScale 2 trip.ownTotal - amount) with hmax | hmax
    · rw [hmax]
      exact onGrid_zero
    · rw [hmax]
      exact (onGrid_toScale _).sub hgrid

@[simp] theorem deliveryAddons_bookingRequest (trip : TripRequest) (discount : Option Decimal) :
    deliveryAddons (trip.bookingRequest discount) = 0 := by
  simp [deliveryAddons, bookingRequest, Decimal.add]

theorem onGrid_bookedProtectionFee {c : Money}
    (h : Column.ofDecimal? trip.bookedProtectionFee = some c) :
    OnGrid 2 trip.bookedProtectionFee := by
  rw [bookedProtectionFee] at h ⊢
  cases hpackage : trip.protectionPackage with
  | none => exact onGrid_zero
  | some package =>
    simp only [hpackage] at h ⊢
    by_cases hbooked : package.BookedIn trip.car.city
    · rw [if_pos hbooked] at h ⊢
      rw [mul_natCast_of_ofDecimal? h]
      exact onGrid_mul_natCast _ _
    · rw [if_neg hbooked]
      exact onGrid_zero

theorem finalTotalFare_bookingRequest {total fee : Money}
    (hdiscount : trip.discountAmount? = some discount)
    (hfee : Column.ofDecimal? trip.bookedProtectionFee = some fee)
    (htotal : Column.ofDecimal? (finalTotalFare (trip.bookingRequest discount)) = some total) :
    finalTotalFare (trip.bookingRequest discount) =
      trip.discountedTotal discount + trip.bookedProtectionFee := by
  have hfeegrid := onGrid_bookedProtectionFee hfee
  have hfeeabs := abs_lt.mp (Column.abs_lt_of_ofDecimal? hfee)
  have hgrid := onGrid_discountedTotal hdiscount
  have hstored := (Column.abs_lt_of_ofDecimal? htotal).le
  have hfinal : finalTotalFare (trip.bookingRequest discount) =
      Decimal.add (match discount with
        | some amount => max 0 (toScale 2 trip.ownTotal - amount) + 0
        | none => Decimal.add (toScale 2 trip.ownTotal) 0) trip.bookedProtectionFee := by
    cases discount with
    | none => simp only [finalTotalFare, deliveryAddons_bookingRequest]; rfl
    | some amount => simp only [finalTotalFare, deliveryAddons_bookingRequest]; rfl
  -- the total fits its column, so that the sum before it cannot have lost a digit
  rw [hfinal] at hstored ⊢
  cases discount with
  | some amount =>
    simp only [add_zero] at hstored ⊢
    exact Decimal.toDigits_of_abs_lt (hgrid.add hfeegrid) (hstored.trans_lt (by norm_num))
  | none =>
    have hsum := abs_le.mp (Decimal.abs_le_of_abs_toDigits_le hstored)
    have hexact : Decimal.add (toScale 2 trip.ownTotal) 0 = toScale 2 trip.ownTotal := by
      refine (Decimal.toDigits_of_abs_lt ((onGrid_toScale _).add onGrid_zero) ?_).trans
        (add_zero _)
      refine abs_lt.mpr ⟨?_, ?_⟩
      · have := hsum.1
        simp only [Decimal.add] at this ⊢
        linarith [hfeeabs.2]
      · have := hsum.2
        simp only [Decimal.add] at this ⊢
        linarith [hfeeabs.1]
    rw [hexact] at hstored ⊢
    exact Decimal.toDigits_of_abs_lt (hgrid.add hfeegrid) (hstored.trans_lt (by norm_num))

/-- The fare of a booking, without the decimal arithmetic that loses nothing. -/
def bookedComponents (trip : TripRequest) (discount : Option Decimal) : FareComponents where
  originalBaseFare := toScale 2 trip.ownPrice
  durationDiscount := toScale 2 trip.ownDiscount
  platformFee := toScale 2 trip.ownFee
  gst := toScale 2 trip.ownGst
  discount := discount.getD 0
  protectionFee := trip.bookedProtectionFee
  totalFare := trip.discountedTotal discount + trip.bookedProtectionFee
  netToVendor := toScale 2 trip.ownBase

theorem nullableColumn?_eq_some {amount : Option Decimal} {column : Option Money}
    (h : nullableColumn? amount = some column) (hgrid : ∀ x ∈ amount, OnGrid 2 x) :
    column.elim 0 Column.value = amount.getD 0 := by
  cases amount with
  | none =>
    cases h
    rfl
  | some x =>
    obtain ⟨c, hc, rfl⟩ := Option.map_eq_some_iff.mp h
    exact value_of_onGrid (hgrid x rfl) hc

theorem createdFare_eq_some (h : trip.createdFare = some created) :
    ∃ discount, trip.discountAmount? = some discount ∧
      created = trip.bookedComponents discount ∧
      ∃ fee : Money, Column.ofDecimal? trip.bookedProtectionFee = some fee := by
  simp only [createdFare, createBooking, bind, Option.bind_eq_some_iff, pure,
    Option.some.injEq] at h
  obtain ⟨discount, hdiscount, _, ⟨platformFee, hplatform, gstAmount, hgst, totalFare, htotal,
    netToVendor, hnet, discountAmount, hamount, -, -, -, -, rfl⟩, fee, hfee, rfl⟩ := h
  refine ⟨discount, hdiscount, ?_, fee, hfee⟩
  -- what `calculateFare` has rounded is stored as it is
  have hrounded : ∀ x : Decimal, toScale 2 (toScale 2 x) = toScale 2 x := fun x =>
    toScale_of_onGrid (onGrid_toScale x)
  have hfeegrid := onGrid_bookedProtectionFee hfee
  have hplatformvalue : platformFee.value = toScale 2 trip.ownFee :=
    (Column.value_of_ofDecimal? hplatform).trans (hrounded _)
  have hgstvalue : gstAmount.value = toScale 2 trip.ownGst :=
    (Column.value_of_ofDecimal? hgst).trans (hrounded _)
  have htotalvalue : totalFare.value =
      trip.discountedTotal discount + trip.bookedProtectionFee := by
    have hexact := finalTotalFare_bookingRequest hdiscount hfee htotal
    calc totalFare.value = toScale 2 (finalTotalFare (trip.bookingRequest discount)) :=
          Column.value_of_ofDecimal? htotal
      _ = _ := by
          rw [hexact]
          exact toScale_of_onGrid ((onGrid_discountedTotal hdiscount).add hfeegrid)
  have hnetvalue : netToVendor.value = toScale 2 trip.ownBase := by
    have hsum : Column.ofDecimal? (Decimal.add (toScale 2 trip.ownBase) 0) = some netToVendor := by
      rw [← deliveryAddons_bookingRequest trip discount]
      exact hnet
    have hexact : Decimal.add (toScale 2 trip.ownBase) 0 = toScale 2 trip.ownBase :=
      (Decimal.toDigits_of_abs_lt ((onGrid_toScale _).add onGrid_zero)
        ((Column.abs_lt_of_ofDecimal? hsum).trans (by norm_num))).trans (add_zero _)
    rw [Column.value_of_ofDecimal? hsum, hexact, hrounded]
  have hamountvalue : discountAmount.elim 0 Column.value = discount.getD 0 :=
    nullableColumn?_eq_some hamount (onGrid_discountAmount? hdiscount)
  have hfeevalue := value_of_onGrid hfeegrid hfee
  simp only [bookedComponents, hplatformvalue, hgstvalue, htotalvalue, hnetvalue, hamountvalue,
    hfeevalue, calculateFare_fareRequest]

end Created

/-! ## The fare of a quote -/

section Quoted

variable {trip : TripRequest} {quoted : FareComponents} {quote : FareQuote}

/-- The base of a quote, without decimal arithmetic. -/
def quotedBase (trip : TripRequest) : Decimal :=
  trip.initialBaseFare - trip.durationDiscountAmount

/-- What a quote takes a coupon on: base, commission and GST. -/
def quotedTotal (trip : TripRequest) : Decimal :=
  trip.quotedBase + trip.platformFee + trip.gstAmount

def quotedComponents (trip : TripRequest) (couponDiscount : Decimal) : FareComponents where
  originalBaseFare := trip.initialBaseFare
  durationDiscount := trip.durationDiscountAmount
  platformFee := trip.platformFee
  gst := trip.gstAmount
  discount := couponDiscount
  protectionFee := trip.quotedProtectionFee
  totalFare := trip.quotedTotal - couponDiscount + trip.quotedProtectionFee
  netToVendor := trip.quotedBase

theorem onGrid_durationDiscountAmount (trip : TripRequest) :
    OnGrid 2 trip.durationDiscountAmount := by
  unfold durationDiscountAmount
  split
  · exact onGrid_toScale _
  · exact onGrid_zero

theorem onGrid_quotedProtectionFee (trip : TripRequest) :
    OnGrid 2 trip.quotedProtectionFee := by
  unfold quotedProtectionFee
  split
  · split
    · exact onGrid_toScale _
    · exact onGrid_zero
  · exact onGrid_zero

theorem onGrid_couponDiscount? {discount : Decimal} (h : trip.couponDiscount? = some discount) :
    OnGrid 2 discount := by
  unfold couponDiscount? at h
  split at h
  · obtain ⟨amount, -, rfl⟩ := Option.map_eq_some_iff.mp h
    exact onGrid_toScale _
  · cases h
    exact onGrid_zero

theorem initialBaseFare_eq {c : Money}
    (h : Column.ofDecimal? (toScale 2 trip.initialBaseFare) = some c) :
    trip.initialBaseFare = trip.baseUnitPrice.value * trip.baseQuantity := by
  refine Decimal.toDigits_of_abs_lt (onGrid_mul_natCast _ _) ?_
  exact (value_of_ofDecimal?_toScale h).2.trans (by norm_num)

theorem baseFareAfterDurationDiscount_eq {c : Money} (hprice : OnGrid 2 trip.initialBaseFare)
    (h : Column.ofDecimal? (toScale 2 (Decimal.add trip.baseFareAfterDurationDiscount 0)) =
      some c) :
    trip.baseFareAfterDurationDiscount = trip.quotedBase ∧ c.value = trip.quotedBase := by
  obtain ⟨hvalue, hlt⟩ := value_of_ofDecimal?_toScale h
  have hdiscount := onGrid_durationDiscountAmount trip
  have hbase : |trip.baseFareAfterDurationDiscount| ≤ 2 * (10 ^ 8 + 2) := by
    have := Decimal.abs_le_of_abs_toDigits_le hlt.le
    rwa [add_zero] at this
  have hexact : trip.baseFareAfterDurationDiscount = trip.quotedBase := by
    unfold baseFareAfterDurationDiscount at hbase ⊢
    split at hbase
    next hpct =>
      rw [if_pos hpct]
      exact Decimal.toDigits_of_abs_lt (hprice.sub hdiscount) (hbase.trans_lt (by norm_num))
    next hpct =>
      rw [if_neg hpct, quotedBase, durationDiscountAmount, if_neg hpct, sub_zero]
  refine ⟨hexact, ?_⟩
  rw [hexact] at hvalue hlt
  have hgrid : OnGrid 2 trip.quotedBase := hprice.sub hdiscount
  have hadd : Decimal.add trip.quotedBase 0 = trip.quotedBase :=
    (Decimal.toDigits_of_abs_lt (hgrid.add onGrid_zero) (hlt.trans (by norm_num))).trans
      (add_zero _)
  rw [hvalue, hadd, toScale_of_onGrid hgrid]

theorem subtotalForCoupon_eq {base fee tax : Money}
    (hbase : trip.baseFareAfterDurationDiscount = base.value) (hfee : trip.platformFee = fee.value)
    (htax : trip.gstAmount = tax.value) :
    trip.subtotalForCoupon = base.value + fee.value + tax.value := by
  have hbaseabs := abs_le.mp (abs_value_le base)
  have hfeeabs := abs_le.mp (abs_value_le fee)
  have htaxabs := abs_le.mp (abs_value_le tax)
  have hgrid := base.onGrid_value.add fee.onGrid_value
  have hfirst : Decimal.add base.value fee.value = base.value + fee.value :=
    Decimal.toDigits_of_abs_le hgrid (abs_le.mpr ⟨by linarith, by linarith⟩)
  rw [subtotalForCoupon, hbase, hfee, htax, hfirst]
  exact Decimal.toDigits_of_abs_le (hgrid.add tax.onGrid_value)
    (abs_le.mpr ⟨by linarith, by linarith⟩)

theorem generateQuote_eq_some (h : generateQuote trip = some quote) :
    ∃ discount, trip.couponDiscount? = some discount ∧
      Column.ofDecimal? (toScale 2 trip.initialBaseFare) = some quote.subtotal ∧
      Column.ofDecimal? trip.durationDiscountAmount = some quote.durationDiscount ∧
      Column.ofDecimal? trip.platformFee = some quote.platformFee ∧
      Column.ofDecimal? trip.quotedProtectionFee = some quote.protectionFee ∧
      Column.ofDecimal? (toScale 2 (Decimal.add trip.durationDiscountAmount discount)) =
        some quote.discountTotal ∧
      Column.ofDecimal? (toScale 2 (Decimal.add (Decimal.add trip.platformFee 0)
        trip.quotedProtectionFee)) = some quote.feesTotal ∧
      Column.ofDecimal? (toScale 2 trip.gstAmount) = some quote.taxTotal ∧
      Column.ofDecimal? (toScale 2 (Decimal.add trip.baseFareAfterDurationDiscount 0)) =
        some quote.netToVendor := by
  have hfulfillment :
      toScale 2 (Decimal.add (Decimal.add (Decimal.add 0 0) 0) 0) = (0 : Decimal) := by
    simp [Decimal.add, toScale_of_onGrid onGrid_zero]
  simp only [generateQuote, bind, Option.bind_eq_some_iff, pure, Option.some.injEq,
    hfulfillment] at h
  obtain ⟨discount, hcoupon, _, hsubtotal, _, hduration, _, hplatform, _, hprotection, _,
    hdiscounts, _, hfees, _, htax, -, -, -, -, _, hnet, rfl⟩ := h
  exact ⟨discount, hcoupon, hsubtotal, hduration, hplatform, hprotection, hdiscounts, hfees, htax,
    hnet⟩

theorem quotedFare_eq_some (h : trip.quotedFare = some quoted) :
    ∃ discount, trip.couponDiscount? = some discount ∧ quoted = trip.quotedComponents discount ∧
      trip.initialBaseFare = trip.baseUnitPrice.value * trip.baseQuantity ∧
      trip.baseFareAfterDurationDiscount = trip.quotedBase ∧
      trip.subtotalForCoupon = trip.quotedTotal ∧
      ∃ fee : Money, Column.ofDecimal? trip.quotedProtectionFee = some fee := by
  obtain ⟨quote, hquote, rfl⟩ := Option.map_eq_some_iff.mp h
  obtain ⟨discount, hcoupon, hsubtotal, hduration, hplatform, hprotection, hdiscounts, hfees, htax,
    hnet⟩ := generateQuote_eq_some hquote
  have hprice := initialBaseFare_eq hsubtotal
  have hpricegrid : OnGrid 2 trip.initialBaseFare := hprice ▸ onGrid_mul_natCast _ _
  obtain ⟨hbase, hnetvalue⟩ := baseFareAfterDurationDiscount_eq hpricegrid hnet
  have hsubtotalvalue : quote.subtotal.value = trip.initialBaseFare :=
    (value_of_ofDecimal?_toScale hsubtotal).1.trans (toScale_of_onGrid hpricegrid)
  have hdurationvalue := value_of_onGrid (onGrid_durationDiscountAmount trip) hduration
  have hplatformvalue : quote.platformFee.value = trip.platformFee :=
    value_of_onGrid (onGrid_toScale _) hplatform
  have hprotectionvalue := value_of_onGrid (onGrid_quotedProtectionFee trip) hprotection
  have htaxvalue : quote.taxTotal.value = trip.gstAmount :=
    (value_of_ofDecimal?_toScale htax).1.trans (toScale_of_onGrid (onGrid_toScale _))
  -- the sums are exact because the columns have accepted them
  obtain ⟨-, hdiscountsvalue⟩ :=
    value_of_sum (onGrid_durationDiscountAmount trip) (onGrid_couponDiscount? hcoupon) hdiscounts
  have hfeesvalue : quote.feesTotal.value = trip.platformFee + trip.quotedProtectionFee := by
    have hfirst : Decimal.add trip.platformFee 0 = trip.platformFee := by
      rw [← hplatformvalue]
      refine (Decimal.add_of_abs_le quote.platformFee.onGrid_value onGrid_zero ?_).trans
        (add_zero _)
      rw [add_zero]
      exact (abs_value_le quote.platformFee).trans (by norm_num)
    rw [hfirst] at hfees
    exact (value_of_sum (onGrid_toScale _) (onGrid_quotedProtectionFee trip) hfees).2
  have htotal : trip.subtotalForCoupon = trip.quotedTotal := by
    rw [subtotalForCoupon_eq (hbase.trans hnetvalue.symm) hplatformvalue.symm htaxvalue.symm,
      hnetvalue, hplatformvalue, htaxvalue, quotedTotal]
  refine ⟨discount, hcoupon, ?_, hprice, hbase, htotal, quote.protectionFee, hprotection⟩
  simp only [FareQuote.components, quotedComponents, hsubtotalvalue, hdurationvalue,
    hplatformvalue, hprotectionvalue, htaxvalue, hdiscountsvalue, hfeesvalue, hnetvalue,
    FareComponents.mk.injEq, true_and, and_true]
  refine ⟨by ring, ?_⟩
  rw [quotedTotal, quotedBase]
  ring

end Quoted

/-! ## Part by part -/

section Agreement

variable {trip : TripRequest} {created quoted : FareComponents}

theorem durationDays_pos (trip : TripRequest) : 0 < trip.durationDays :=
  Nat.lt_of_lt_of_le Nat.one_pos (le_max_left _ _)

theorem protectionFee_iff {fee : Money}
    (hquoted : Column.ofDecimal? trip.quotedProtectionFee = some fee) :
    trip.bookedProtectionFee = trip.quotedProtectionFee ↔
      ∀ package ∈ trip.protectionPackage, package.dailyRate.paise ≠ 0 →
        package.QuotedIn trip.car.city → package.BookedIn trip.car.city := by
  rw [bookedProtectionFee]
  rw [quotedProtectionFee] at hquoted ⊢
  cases hpackage : trip.protectionPackage with
  | none => simp
  | some package =>
    simp only [hpackage, Option.mem_def, Option.some.injEq, forall_eq'] at hquoted ⊢
    by_cases hin : package.QuotedIn trip.car.city
    · rw [if_pos hin] at hquoted ⊢
      have hexact : Decimal.mul package.dailyRate.value trip.durationDays =
          package.dailyRate.value * trip.durationDays :=
        Decimal.toDigits_of_abs_lt (onGrid_mul_natCast _ _)
          ((value_of_ofDecimal?_toScale hquoted).2.trans (by norm_num))
      rw [hexact, toScale_of_onGrid (onGrid_mul_natCast _ _)]
      -- the quote ignores upper and lower case in the city, the booking does not
      by_cases hlocal : package.BookedIn trip.car.city
      · rw [if_pos hlocal]
        exact iff_of_true rfl fun _ _ => hlocal
      · rw [if_neg hlocal]
        have hdays : (trip.durationDays : ℚ) ≠ 0 :=
          Nat.cast_ne_zero.mpr trip.durationDays_pos.ne'
        constructor
        · intro heq hrate
          have hzero := (mul_eq_zero.mp heq.symm).resolve_right hdays
          exact absurd (Column.value_eq_zero_iff.mp hzero) hrate
        · intro hall
          have hrate : package.dailyRate.paise = 0 := by
            by_contra hne
            exact hlocal (hall hne hin)
          rw [Column.value_eq_zero_iff.mpr hrate, zero_mul]
    · rw [if_neg hin, if_neg fun hlocal => hin (ProtectionPackage.BookedIn.quotedIn hlocal)]
      exact iff_of_true rfl fun _ h => absurd h hin

theorem discount_iff {discount : Option Decimal} {couponDiscount : Decimal}
    (hdiscount : trip.discountAmount? = some discount)
    (hcoupon : trip.couponDiscount? = some couponDiscount)
    (htotal : trip.subtotalForCoupon = trip.quotedTotal) :
    discount.getD 0 = couponDiscount ∧
        trip.discountedTotal discount = trip.quotedTotal - couponDiscount ↔
      toScale 2 trip.ownTotal = trip.quotedTotal ∧
        (trip.coupon = none → ∀ benefit ∈ trip.refereeBenefit,
          benefit.minBookingAmount.value ≤ toScale 2 trip.ownTotal →
            benefit.discountAmount.paise = 0) := by
  rw [couponDiscount?, htotal] at hcoupon
  rcases discountAmount?_eq_some hdiscount with ⟨terms, amount, hterms, rfl, hvalid, hgrid, hle⟩ |
    ⟨benefit, hterms, hbenefit, rfl, hmin⟩ | ⟨hterms, rfl, hnone⟩
  -- with a coupon both take the same percentage, of their own totals
  · have hleft : trip.discountedTotal (some amount) = toScale 2 trip.ownTotal - amount :=
      max_eq_right (sub_nonneg.mpr hle)
    simp only [hterms, Option.map_eq_some_iff] at hcoupon
    obtain ⟨quotedAmount, hquoted, rfl⟩ := hcoupon
    rw [hleft, Option.getD_some]
    constructor
    · rintro ⟨heq, hsub⟩
      refine ⟨by linarith, fun habsent => ?_⟩
      rw [hterms] at habsent
      cases habsent
    · rintro ⟨heq, -⟩
      rw [← heq, hvalid, Option.some.injEq] at hquoted
      rw [← hquoted, toScale_of_onGrid hgrid, heq]
      exact ⟨rfl, rfl⟩
  -- the referee's benefit is taken off the booking only
  · simp only [hterms, Option.some.injEq] at hcoupon
    subst hcoupon
    have hnonneg : 0 ≤ toScale 2 trip.ownTotal := by
      refine le_trans ?_ hmin
      rw [Column.value]
      have : (0 : ℚ) ≤ benefit.minBookingAmount.paise := by exact_mod_cast benefit.minimum_nonneg
      positivity
    have hzero : benefit.discountAmount.value = 0 →
        trip.discountedTotal (some benefit.discountAmount.value) = toScale 2 trip.ownTotal := by
      intro hvalue
      show max 0 (toScale 2 trip.ownTotal - benefit.discountAmount.value) = _
      rw [hvalue, sub_zero, max_eq_right hnonneg]
    rw [Option.getD_some, sub_zero]
    constructor
    · rintro ⟨hvalue, hsub⟩
      refine ⟨(hzero hvalue).symm.trans hsub, fun _ other hother _ => ?_⟩
      rw [hbenefit] at hother
      cases hother
      exact Column.value_eq_zero_iff.mp hvalue
    · rintro ⟨heq, hreferral⟩
      have hvalue := Column.value_eq_zero_iff.mpr (hreferral hterms benefit hbenefit hmin)
      exact ⟨hvalue, (hzero hvalue).trans heq⟩
  · simp only [hterms, Option.some.injEq] at hcoupon
    subst hcoupon
    rw [Option.getD_none, sub_zero]
    constructor
    · rintro ⟨-, heq⟩
      exact ⟨heq, fun _ benefit hbenefit hmin => absurd hmin (hnone benefit hbenefit)⟩
    · rintro ⟨heq, -⟩
      exact ⟨rfl, heq⟩

/-- One day at the rate `sampleTotal`, with a commission of 10% and the given configuration. -/
def dailyTrip (config : PricingConfig) : TripRequest where
  car := {
    pricePerKm := sampleDeposit, pricePerDay := sampleTotal, pricePerHour := sampleDeposit
    weeklyDiscountPercent := 5, monthlyDiscountPercent := 20, city := "Pune" }
  tripType := .selfDrive
  startDate := 0
  endDate := 1000 * 60 * 60 * 24
  distanceKm := none
  mileagePackage := none
  coupon := none
  protectionPackage := none
  refereeBenefit := none
  commissionPercent := 10
  depositAmount := 5000
  config
  draft := thousandRupeeRequest none
  start_lt_end := by decide

end Agreement

/-! ## The same settings in whole paise -/

section Settings

variable {trip : TripRequest} {quoted : FareComponents}

end Settings

end TripRequest

end CarRental
