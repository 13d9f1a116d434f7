import CarRental.Pricing.RentalPricing

/-!
# When a resolved price adds up

The total of a resolved price should be the sum of its lines, and the sum of its totals; the
vendor's share should be no more than what the discounts leave of the rental.

The amounts and the lines are under different conditions: a delivery fee is charged and has no line,
an amount below zero is charged where its line is left out, and the amount that is taxed is cut off
at zero while the discounts are not.  The share is rounded to rupees, which may pass an amount with
paise.
-/

namespace CarRental

open Rounding

/-- The lines and the totals add up to what is payable, and the vendor's share is within what the
discounts leave. -/
structure PriceAdds (price : EffectivePricingResolution) : Prop where
  lines : (price.lineItems.map PricingBreakdownItem.amount).sum = price.totalPayable
  total : price.totalPayable = price.subtotal - price.discountTotal + price.feesTotal +
    price.taxTotal + price.depositTotal
  share_nonneg : 0 ≤ price.netToVendor
  share_le : price.netToVendor ≤ price.subtotal - price.discountTotal

namespace RentalTerms

variable (terms : RentalTerms)

/-! ## The condition -/

/-- The rental with its surcharges, as the lines have it. -/
def listedRental : ℤ :=
  terms.baseFare + max 0 terms.weekendSurcharge + max 0 terms.peakSurcharge

/-- What is charged without a line: the delivery fee, every amount below zero, and what the cut at
zero adds to a rental below zero. -/
def unlisted : ℚ :=
  terms.deliveryFee + min 0 terms.rates.convenienceFee + min 0 terms.pickupFee +
    min 0 terms.returnFee + min 0 terms.rates.deposit + (terms.subtotal - terms.listedRental)

/-- What the discounts leave of the rental. -/
def discounted : ℚ := terms.subtotal - terms.totalDiscounts

/-- Nothing is charged without a line; the discounts are no more than the rental, with and without
the fees; and of the rupees that they leave, few enough are paise for 85% to round to no more. -/
structure Itemized : Prop where
  unlisted : terms.unlisted = 0
  discounts : terms.totalDiscounts ≤ terms.subtotal
  fees : terms.totalDiscounts ≤ terms.subtotal + terms.totalFees
  paise : 17 * Int.fract terms.discounted < 3 * ⌊terms.discounted⌋ + 10

/-! ## The lines -/

theorem sum_positiveLine (item : PricingBreakdownItem) :
    ((positiveLine item).map PricingBreakdownItem.amount).sum = max 0 item.amount := by
  unfold positiveLine
  split
  next h => simp [max_eq_right h.le]
  next h => simp [max_eq_left (not_lt.mp h)]

theorem sum_durationDiscountLine :
    ((terms.durationDiscountLine.toList.map fun line =>
      (⟨line.1, .discount, line.2, 1, -terms.durationDiscount, false⟩ :
        PricingBreakdownItem)).map PricingBreakdownItem.amount).sum = -terms.durationDiscount := by
  cases h : terms.durationDiscountLine with
  | none => simp [durationDiscount, h]
  | some line => simp

theorem couponDiscount_nonneg : 0 ≤ terms.couponDiscount := le_max_left _ _

theorem sum_lineItems :
    (terms.lineItems.map PricingBreakdownItem.amount).sum =
      terms.listedRental - terms.totalDiscounts + terms.oneWayFee +
        max 0 terms.rates.convenienceFee + max 0 terms.pickupFee + max 0 terms.returnFee +
        terms.taxTotal + max 0 terms.rates.deposit := by
  have hbase : terms.baseLine.amount = terms.baseFare := by
    unfold baseLine
    split <;> rfl
  have hcoupon : ((if 0 < terms.couponDiscount then
      [(⟨"COUPON_PROMOTIONAL_DISCOUNT", .discount, terms.couponDiscount, 1,
        -terms.couponDiscount, false⟩ : PricingBreakdownItem)] else []).map
        PricingBreakdownItem.amount).sum = -terms.couponDiscount := by
    split
    · simp
    next h =>
      have : terms.couponDiscount = 0 := le_antisymm (not_lt.mp h) terms.couponDiscount_nonneg
      simp [this]
  have honeWay : ((if terms.OneWay then
      [(⟨"ONE_WAY_RELOCATION_FEE", .fee, terms.oneWayFee, 1, terms.oneWayFee, false⟩ :
        PricingBreakdownItem)] else []).map PricingBreakdownItem.amount).sum =
        terms.oneWayFee := by
    split
    · simp
    next h => simp [oneWayFee, h]
  simp only [lineItems, List.map_append, List.sum_append, sum_positiveLine,
    sum_durationDiscountLine, hcoupon, honeWay, List.map_cons, List.map_nil, List.sum_cons,
    List.sum_nil, add_zero, hbase, listedRental, totalDiscounts]
  push_cast
  ring

theorem sum_lineItems_eq (h : terms.totalDiscounts ≤ terms.subtotal + terms.totalFees) :
    (terms.lineItems.map PricingBreakdownItem.amount).sum =
      terms.totalPayable - terms.unlisted := by
  have htaxable : terms.taxableAmount =
      terms.subtotal - terms.totalDiscounts + terms.totalFees := max_eq_right (by linarith)
  have hconvenience := max_add_min 0 terms.rates.convenienceFee
  have hpickup := max_add_min 0 terms.pickupFee
  have hreturn := max_add_min 0 terms.returnFee
  have hdeposit := max_add_min 0 terms.rates.deposit
  rw [sum_lineItems, totalPayable, htaxable, unlisted, totalFees]
  linarith

/-! ## The vendor's share -/

theorem round_share_le_iff (x : ℚ) :
    (round (x * 0.85) : ℚ) ≤ x ↔ 17 * Int.fract x < 3 * ⌊x⌋ + 10 := by
  have hparts := Int.floor_add_fract x
  calc (round (x * 0.85) : ℚ) ≤ x
      ↔ round (x * 0.85) ≤ ⌊x⌋ := Int.le_floor.symm
    _ ↔ round (x * 0.85) < ⌊x⌋ + 1 := Int.lt_add_one_iff.symm
    _ ↔ x * 0.85 < ((⌊x⌋ + 1 : ℤ) : ℚ) - 1 / 2 := round_lt_iff
    _ ↔ 17 * Int.fract x < 3 * ⌊x⌋ + 10 := by
        push_cast
        constructor
        · intro h
          linarith
        · intro h
          linarith

theorem share_iff :
    0 ≤ terms.netToVendor ∧ (terms.netToVendor : ℚ) ≤ terms.discounted ↔
      0 ≤ terms.discounted ∧ 17 * Int.fract terms.discounted < 3 * ⌊terms.discounted⌋ + 10 := by
  have hshare : terms.netToVendor = round (terms.discounted * 0.85) := rfl
  rw [hshare, round_share_le_iff]
  constructor
  · rintro ⟨hnonneg, hpaise⟩
    have hle := (round_share_le_iff _).mpr hpaise
    have hcast : (0 : ℚ) ≤ round (terms.discounted * 0.85) := by exact_mod_cast hnonneg
    exact ⟨hcast.trans hle, hpaise⟩
  · rintro ⟨hnonneg, hpaise⟩
    refine ⟨?_, hpaise⟩
    have hround := round_mono (by linarith : 0 ≤ terms.discounted * 0.85)
    rwa [round_zero] at hround

theorem adds_iff :
    ((terms.lineItems.map PricingBreakdownItem.amount).sum = terms.totalPayable ∧
      terms.totalPayable = terms.subtotal - terms.totalDiscounts + terms.totalFees +
        terms.taxTotal + terms.rates.deposit ∧
      0 ≤ terms.netToVendor ∧
      (terms.netToVendor : ℚ) ≤ terms.subtotal - terms.totalDiscounts) ↔
      terms.Itemized := by
  have htotal : terms.totalPayable = terms.subtotal - terms.totalDiscounts + terms.totalFees +
      terms.taxTotal + terms.rates.deposit ↔
        terms.totalDiscounts ≤ terms.subtotal + terms.totalFees := by
    constructor
    · intro h
      have hle : terms.subtotal - terms.totalDiscounts + terms.totalFees = terms.taxableAmount := by
        rw [totalPayable] at h
        linarith
      have hnonneg : 0 ≤ terms.taxableAmount := le_max_left _ _
      linarith
    · intro h
      rw [totalPayable, taxableAmount, max_eq_right (by linarith)]
  constructor
  · rintro ⟨hlines, hpayable, hshare⟩
    have hfees := htotal.mp hpayable
    obtain ⟨hdiscounted, hpaise⟩ := terms.share_iff.mp hshare
    refine ⟨?_, by unfold discounted at hdiscounted; linarith, hfees, hpaise⟩
    rw [terms.sum_lineItems_eq hfees] at hlines
    linarith
  · intro h
    refine ⟨?_, htotal.mpr h.fees, terms.share_iff.mpr ⟨?_, h.paise⟩⟩
    · rw [terms.sum_lineItems_eq h.fees, h.unlisted, sub_zero]
    · have := h.discounts
      unfold discounted
      linarith

/-! ## Rates that are not below zero -/

variable {terms}

end RentalTerms

/-! ## Every context -/

theorem resolvePricing_adds_iff {tables : RentalPricingTables} {calendar : LocalCalendar} {now : ℤ}
    {ctx : PricingResolutionContext} {price : EffectivePricingResolution}
    (h : resolvePricing tables calendar now ctx = .ok price) :
    ∃ startDate endDate, ctx.startDate = some startDate ∧ ctx.endDate = some endDate ∧
      (PriceAdds price ↔ (rentalTerms tables calendar now ctx startDate endDate).Itemized) := by
  unfold resolvePricing at h
  split at h
  next startDate endDate hstart hend =>
    split at h
    · cases h
    · cases h
      refine ⟨startDate, endDate, hstart, hend, ?_⟩
      rw [← RentalTerms.adds_iff]
      constructor
      · rintro ⟨hlines, htotal, hnonneg, hle⟩
        exact ⟨hlines, htotal, Int.cast_nonneg_iff.mp hnonneg, hle⟩
      · rintro ⟨hlines, htotal, hnonneg, hle⟩
        exact ⟨hlines, htotal, Int.cast_nonneg_iff.mpr hnonneg, hle⟩
  · cases h

/-- A hatchback for one day in March at the default rates, with a coupon. -/
def marchRental (couponDiscountAmount : ℚ) : PricingResolutionContext where
  vendorId := "vendor"
  branchId := none
  returnBranchId := none
  vehicleClass := .hatchback
  carId := none
  startDate := some 1773133200000
  endDate := some 1773219600000
  tripType := .selfDrive
  couponDiscountAmount := some couponDiscountAmount
  deliveryFee := none
  pickupFee := none
  returnFee := none

end CarRental
