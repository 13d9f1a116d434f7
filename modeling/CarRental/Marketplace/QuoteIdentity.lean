import CarRental.Marketplace.MarketplaceQuote
import CarRental.Pricing.RentalPriceLaw

/-!
# The parts of a quote that is stored

What a row of the marketplace's quotes is made of: `createQuote_stored` finds the resolved price,
the coupon and the products behind a row, and `row_eq_some` what its columns hold of them.

The totals of the resolved price are whole, except for the fees and the deposit, which are columns
of the rules or defaults (`ColumnRates`).
-/

namespace CarRental

open Doubles Rounding

/-! ## Rates that are columns -/

/-- The rates that a quote charges as they are. -/
structure ColumnRates (rates : RentalRates) : Prop where
  convenienceFee : ∃ fee : Money, rates.convenienceFee = fee.value
  oneWayBaseFee : ∃ fee : Money, rates.oneWayBaseFee = fee.value
  deposit : ∃ deposit : Money, rates.deposit = deposit.value

theorem columnRates_default (car : Option PricedCar) (vehicleClass : CarCategory) :
    ColumnRates (defaultRates car vehicleClass) where
  convenienceFee := ⟨⟨15000, by decide⟩, by norm_num [defaultRates, Column.value]⟩
  oneWayBaseFee := ⟨⟨50000, by decide⟩, by norm_num [defaultRates, Column.value]⟩
  deposit := ⟨⟨300000, by decide⟩, by norm_num [defaultRates, Column.value]⟩

theorem ColumnRates.override {rates : RentalRates} (h : ColumnRates rates)
    (r : RentalPricingRule) : ColumnRates (rates.override r) where
  convenienceFee := by
    simp only [RentalRates.override]
    cases r.convenienceFee with
    | none => exact h.convenienceFee
    | some fee => exact ⟨fee, rfl⟩
  oneWayBaseFee := by
    simp only [RentalRates.override]
    cases r.oneWayBaseFee with
    | none => exact h.oneWayBaseFee
    | some fee => exact ⟨fee, rfl⟩
  deposit := by
    simp only [RentalRates.override]
    cases r.securityDepositAmount with
    | none => exact h.deposit
    | some deposit => exact ⟨deposit, rfl⟩

theorem columnRates_resolveRates (car : Option PricedCar) (vehicleClass : CarCategory)
    (rules : List RentalPricingRule) : ColumnRates (resolveRates car vehicleClass rules) := by
  have hfold : ∀ rates, ColumnRates rates →
      ColumnRates (rules.foldl RentalRates.override rates) := by
    induction rules with
    | nil => exact fun rates h => h
    | cons r rest ih => exact fun rates h => ih _ (h.override r)
  exact hfold _ (columnRates_default car vehicleClass)

/-! ## What is stored -/

namespace MarketplaceTables

variable {fl : ℚ → ℚ} {market : MarketplaceTables} {now : ℤ} {input : CreateMarketplaceQuoteInput}
  {quotes : List MarketplaceQuote} {newId : Id} {row : MarketplaceQuote} {car : ListedCar}
  {interval : ℤ × ℤ} {quote : PricedQuote}

/-- The terms of the rental that a request is for. -/
def termsOf (market : MarketplaceTables) (now : ℤ) (input : CreateMarketplaceQuoteInput)
    (car : ListedCar) (interval : ℤ × ℤ) : RentalTerms :=
  rentalTerms market.pricingTables market.calendar now (pricingContext input car interval)
    interval.1 interval.2

theorem columnRates_termsOf : ColumnRates (market.termsOf now input car interval).rates :=
  columnRates_resolveRates _ _ _

theorem newQuote_eq_ok (h : market.newQuote fl now input newId = .ok row) :
    ∃ interval car quote, MarketplaceTables.interval input = some interval ∧
      market.cars input.carId = some car ∧
      market.priceQuote fl now input car interval = .ok quote ∧
      market.row fl now input newId car interval quote = some row := by
  unfold newQuote at h
  cases hinterval : MarketplaceTables.interval input with
  | none =>
    rw [hinterval] at h
    cases h
  | some interval =>
    cases hcar : market.cars input.carId with
    | none =>
      rw [hinterval, hcar] at h
      cases h
    | some car =>
      rw [hinterval, hcar] at h
      obtain ⟨quote, hquote, hrow⟩ := bind_eq_ok.mp h
      cases hstored : market.row fl now input newId car interval quote with
      | none =>
        rw [hstored] at hrow
        cases hrow
      | some stored =>
        rw [hstored] at hrow
        cases hrow
        exact ⟨interval, car, quote, rfl, rfl, hquote, hstored⟩

theorem createQuote_made
    (h : market.createQuote fl now input quotes newId = .ok (quotes ++ [row], row)) :
    market.newQuote fl now input newId = .ok row ∧ row.id ∉ quotes.map MarketplaceQuote.id := by
  unfold createQuote at h
  split at h
  · cases h
  · split at h
    next existing _ =>
      -- an active quote is answered with the table as it is
      have hlength := congrArg (fun stored => stored.1.length) (Except.ok.inj h)
      simp at hlength
    · obtain ⟨made, hmade, hinsert⟩ := bind_eq_ok.mp h
      unfold insertQuote at hinsert
      split at hinsert
      · cases hinsert
      next hfresh =>
        have hrow : made = row := congrArg Prod.snd (Except.ok.inj hinsert)
        subst hrow
        exact ⟨hmade, fun hmem => hfresh (.inl hmem)⟩

theorem createQuote_stored
    (h : market.createQuote fl now input quotes newId = .ok (quotes ++ [row], row)) :
    ∃ interval car quote, MarketplaceTables.interval input = some interval ∧
      market.cars input.carId = some car ∧
      market.priceQuote fl now input car interval = .ok quote ∧
      market.row fl now input newId car interval quote = some row :=
  newQuote_eq_ok (createQuote_made h).1

theorem find?_append_fresh (hfresh : row.id ∉ quotes.map MarketplaceQuote.id) :
    (quotes ++ [row]).find? (fun quote => quote.id = row.id) = some row := by
  have hnone : quotes.find? (fun quote => quote.id = row.id) = none := by
    apply List.find?_eq_none.mpr
    intro other hmem hid
    exact hfresh (List.mem_map.mpr ⟨other, hmem, of_decide_eq_true hid⟩)
  rw [List.find?_append, hnone]
  simp

theorem read_of_verifyQuote {read : MarketplaceQuote}
    (h : market.verifyQuote fl now row = .ok read) :
    read = row ∧ ¬(row.status = .active ∧ row.expiresAt < now) := by
  unfold verifyQuote at h
  split at h
  · cases h
  next hexpired =>
    split at h
    · cases h
    · split at h
      · cases h
        exact ⟨rfl, hexpired⟩
      · obtain ⟨expected, -, hequal⟩ := bind_eq_ok.mp h
        split at hequal
        · cases hequal
        · cases hequal
          exact ⟨rfl, hexpired⟩

theorem interval_eq_some (h : MarketplaceTables.interval input = some interval) :
    CivilDate.ValidTime interval.1 ∧ CivilDate.ValidTime interval.2 ∧
      interval.1 < interval.2 := by
  unfold MarketplaceTables.interval at h
  split at h
  · split at h
    next hvalid =>
      cases h
      exact hvalid
    · cases h
  · cases h

theorem priceQuote_eq_ok (hinterval : interval.1 < interval.2)
    (h : market.priceQuote fl now input car interval = .ok quote) :
    quote.price.subtotal = (market.termsOf now input car interval).subtotal ∧
      quote.price.discountTotal = (market.termsOf now input car interval).durationDiscount ∧
      quote.price.feesTotal = feesOf fl (pricingContext input car interval)
        (market.termsOf now input car interval).rates ∧
      quote.price.taxTotal = (market.termsOf now input car interval).taxTotal ∧
      quote.price.depositTotal = fl (market.termsOf now input car interval).rates.deposit ∧
      quote.price.lineItems = (market.termsOf now input car interval).lineItems.map
        (fun item => { item with rate := fl item.rate, amount := fl item.amount }) ∧
      market.couponOf fl now input car interval quote.price = .ok quote.coupon ∧
      quote.addons = market.addonsOf fl input car interval quote.price := by
  obtain ⟨price, hprice, hcoupon⟩ := bind_eq_ok.mp h
  have hresolved : resolvePricingIn fl market.pricingTables market.calendar now
      (pricingContext input car interval) = .ok price := hprice
  unfold resolvePricingIn resolvePricing at hresolved
  simp only [pricingContext, not_le.mpr hinterval, if_false, Except.map] at hresolved
  have hcouponDiscount : (market.termsOf now input car interval).couponDiscount = 0 := by
    simp [termsOf, rentalTerms, RentalTerms.couponDiscount, pricingContext]
  cases hfound : market.couponOf fl now input car interval price with
  | error e =>
    rw [hfound] at hcoupon
    cases hcoupon
  | ok coupon =>
    rw [hfound] at hcoupon
    cases hcoupon
    cases hresolved
    refine ⟨rfl, ?_, rfl, rfl, rfl, rfl, hfound, rfl⟩
    show (market.termsOf now input car interval).totalDiscounts = _
    rw [RentalTerms.totalDiscounts, hcouponDiscount, add_zero]

theorem row_eq_some (h : market.row fl now input newId car interval quote = some row) :
    storedColumn fl quote.price.subtotal = some row.subtotal ∧
      storedColumn fl (quote.discountTotal fl) = some row.discountTotal ∧
      storedColumn fl (quote.feesTotal fl) = some row.feesTotal ∧
      storedColumn fl (quote.taxTotal fl) = some row.taxTotal ∧
      storedColumn fl quote.price.depositTotal = some row.depositTotal ∧
      storedColumn fl (quote.totalPayable fl) = some row.totalPayable ∧
      quote.lines.mapM (storedLine fl) = some row.lineItems ∧
      row.carId = input.carId ∧ row.startDate = interval.1 ∧ row.endDate = interval.2 ∧
      row.status = .active ∧ row.expiresAt = now + quoteLockDurationMinutes * 60 * 1000 ∧
      row.metadata = market.metadataOf fl input car interval quote := by
  simp only [MarketplaceTables.row, Option.bind_eq_bind, Option.bind_eq_some_iff] at h
  obtain ⟨subtotal, hsubtotal, discountTotal, hdiscountTotal, feesTotal, hfeesTotal, taxTotal,
    htaxTotal, depositTotal, hdepositTotal, totalPayable, htotalPayable, netToVendor, -, lineItems,
    hlineItems, hrow⟩ := h
  cases hrow
  exact ⟨hsubtotal, hdiscountTotal, hfeesTotal, htaxTotal, hdepositTotal, htotalPayable, hlineItems,
    rfl, rfl, rfl, rfl, rfl, rfl⟩

end MarketplaceTables

/-!
## What a quote of the marketplace is payable for

The total of a stored quote should be the sum of its lines, and of its totals, and its discounts
should be no more than the rental.

The tax of a product is in the total and has no line; the coupon is limited to the rental without
the discount for the duration; and what is payable is cut off at zero.  The numbers are taken to be
exact, so that every amount is one of its column.

* `stored_amount`: a column of an amount in paise holds the amount.
* `sum_lines_eq`: what the lines add up to.
* `marketplace_quote_adds_up_iff`: when the total is right.
-/

/-- The lines and the totals add up to what is payable, and the discounts are within the rental. -/
structure StoredQuoteAddsUp (row : MarketplaceQuote) : Prop where
  lines : (row.lineItems.map fun line => line.amount.value).sum = row.totalPayable.value
  total : row.totalPayable.value = row.subtotal.value - row.discountTotal.value +
    row.feesTotal.value + row.taxTotal.value + row.depositTotal.value
  discounts : row.discountTotal.value ≤ row.subtotal.value

/-! ## Amounts in paise -/

theorem decimalOf_id (x : ℚ) : decimalOf id x = x := by
  unfold decimalOf
  cases hplaces : places id x with
  | none => rfl
  | some k => exact fl_of_places hplaces

theorem stored_amount {x : ℚ} {column : Money} (hgrid : OnGrid 2 x)
    (h : storedColumn id x = some column) : column.value = x := by
  rw [storedColumn, decimalOf_id] at h
  rw [Column.value_of_ofDecimal? h, toScale_of_onGrid hgrid]

theorem onGrid_intCast (n : ℤ) : OnGrid 2 (n : ℚ) := ⟨n * 100, by
  push_cast
  norm_num⟩

theorem onGrid_roundedPaise (x : ℚ) : OnGrid 2 (roundedPaise id x) := ⟨round (x * 100), by
  rw [roundedPaise, id, id]
  norm_num⟩

theorem roundedPaise_of_onGrid {x : ℚ} (h : OnGrid 2 x) : roundedPaise id x = x := by
  obtain ⟨n, hn⟩ := h
  have hcents : x * 100 = n := by
    rw [← hn]
    norm_num
  rw [roundedPaise, id, id, hcents, round_intCast, ← hcents]
  ring

theorem runningSum_id (start : ℚ) (amounts : List ℚ) :
    runningSum id start amounts = start + amounts.sum := by
  induction amounts generalizing start with
  | nil => simp [runningSum]
  | cons first rest ih =>
    rw [runningSum, List.foldl_cons, ← runningSum, ih, List.sum_cons, id, add_assoc]

theorem onGrid_sum_map {α : Type} {items : List α} {f : α → ℚ}
    (h : ∀ item ∈ items, OnGrid 2 (f item)) : OnGrid 2 (items.map f).sum := by
  refine OnGrid.sum fun x hx => ?_
  obtain ⟨item, hitem, rfl⟩ := List.mem_map.mp hx
  exact h item hitem

theorem stored_lines {lines : List (MarketplaceLine ℚ)} {stored : List (MarketplaceLine Money)}
    (hgrid : ∀ line ∈ lines, OnGrid 2 line.amount)
    (h : lines.mapM (MarketplaceTables.storedLine id) = some stored) :
    (stored.map fun line => line.amount.value).sum = (lines.map MarketplaceLine.amount).sum := by
  induction lines generalizing stored with
  | nil =>
    cases h
    rfl
  | cons first rest ih =>
    rw [List.mapM_cons] at h
    simp only [Option.bind_eq_bind, Option.bind_eq_some_iff] at h
    obtain ⟨line, hline, others, hothers, hstored⟩ := h
    cases hstored
    simp only [MarketplaceTables.storedLine, Option.bind_eq_bind,
      Option.bind_eq_some_iff] at hline
    obtain ⟨rate, -, quantity, -, amount, hamount, hmade⟩ := hline
    cases hmade
    have hfirst := stored_amount (hgrid first List.mem_cons_self) hamount
    rw [List.map_cons, List.sum_cons, List.map_cons, List.sum_cons, hfirst,
      ih (fun line hmem => hgrid line (List.mem_cons_of_mem _ hmem)) hothers]

/-! ## The parts -/

namespace RentalTerms

variable {terms : RentalTerms}

theorem eq_of_mem_positiveLine {item line : PricingBreakdownItem} (h : item ∈ positiveLine line) :
    item = line := by
  unfold positiveLine at h
  split at h
  · exact List.mem_singleton.mp h
  · cases h

theorem lineItems_onGrid (h : ColumnRates terms.rates) (hcoupon : terms.couponDiscount = 0)
    (hpickup : terms.pickupFee = 0) (hreturn : terms.returnFee = 0) :
    ∀ item ∈ terms.lineItems, OnGrid 2 item.amount := by
  obtain ⟨convenienceFee, hconvenience⟩ := h.convenienceFee
  obtain ⟨oneWayFee, honeWay⟩ := h.oneWayBaseFee
  obtain ⟨deposit, hdeposit⟩ := h.deposit
  intro item hitem
  simp only [lineItems, List.mem_append] at hitem
  rcases hitem with ((((((((((hbase | hweekend) | hpeak) | hduration) | hpromotion) | hrelocation) |
    hplatform) | hdelivery) | hcollection) | htax) | hrefundable)
  · rw [List.mem_singleton.mp hbase, baseLine]
    split
    · exact onGrid_intCast _
    · exact onGrid_intCast _
  · rw [eq_of_mem_positiveLine hweekend]
    exact onGrid_intCast _
  · rw [eq_of_mem_positiveLine hpeak]
    exact onGrid_intCast _
  · obtain ⟨line, -, rfl⟩ := List.mem_map.mp hduration
    exact (onGrid_intCast _).neg
  · rw [hcoupon] at hpromotion
    simp at hpromotion
  · split at hrelocation
    next h =>
      rw [List.mem_singleton.mp hrelocation]
      dsimp only
      rw [RentalTerms.oneWayFee, if_pos h, honeWay]
      exact oneWayFee.onGrid_value
    · cases hrelocation
  · rw [eq_of_mem_positiveLine hplatform]
    dsimp only
    rw [hconvenience]
    exact convenienceFee.onGrid_value
  · rw [eq_of_mem_positiveLine hdelivery]
    dsimp only
    rw [hpickup]
    exact onGrid_zero
  · rw [eq_of_mem_positiveLine hcollection]
    dsimp only
    rw [hreturn]
    exact onGrid_zero
  · rw [List.mem_singleton.mp htax]
    exact onGrid_intCast _
  · rw [eq_of_mem_positiveLine hrefundable]
    dsimp only
    rw [hdeposit]
    exact deposit.onGrid_value

end RentalTerms

namespace PricedQuote

variable (quote : PricedQuote)

def couponWorth : ℚ := quote.couponDiscounts.sum

def addonFees : ℚ := (quote.addons.map CalculatedAncillaryItem.subtotal).sum

def addonTax : ℚ := (quote.addons.map CalculatedAncillaryItem.taxAmount).sum

/-- What the totals add up to, before it is cut off at zero. -/
def payable (terms : RentalTerms) : ℚ :=
  terms.subtotal - (terms.durationDiscount + quote.couponWorth) +
    (terms.rates.convenienceFee + terms.oneWayFee + quote.addonFees) +
    (terms.taxTotal + quote.addonTax) + terms.rates.deposit

/-- The discount for the duration and the coupon are within the rental, what is payable is not below
zero, and nothing is charged without a line. -/
structure FullyListed (terms : RentalTerms) : Prop where
  discounts : terms.durationDiscount + quote.couponWorth ≤ terms.subtotal
  payable : 0 ≤ quote.payable terms
  unlisted : terms.unlisted + quote.addonTax = 0

instance (terms : RentalTerms) : Decidable (quote.FullyListed terms) :=
  decidable_of_iff (terms.durationDiscount + quote.couponWorth ≤ terms.subtotal ∧
      0 ≤ quote.payable terms ∧ terms.unlisted + quote.addonTax = 0)
    ⟨fun h => ⟨h.1, h.2.1, h.2.2⟩, fun h => ⟨h.discounts, h.payable, h.unlisted⟩⟩

variable {quote} {terms : RentalTerms}

end PricedQuote

namespace MarketplaceTables

variable {market : MarketplaceTables} {now : ℤ} {input : CreateMarketplaceQuoteInput}
  {newId : Id} {row : MarketplaceQuote} {car : ListedCar} {interval : ℤ × ℤ} {quote : PricedQuote}

theorem feesOf_termsOf :
    feesOf id (pricingContext input car interval) (market.termsOf now input car interval).rates =
      (market.termsOf now input car interval).rates.convenienceFee +
        (market.termsOf now input car interval).oneWayFee := by
  have honeWay : (pricingContext input car interval).OneWay ↔
      (market.termsOf now input car interval).OneWay := Iff.rfl
  rw [feesOf, RentalTerms.oneWayFee]
  simp only [honeWay, id]

theorem onGrid_oneWayFee : OnGrid 2 (market.termsOf now input car interval).oneWayFee := by
  unfold RentalTerms.oneWayFee
  split
  · obtain ⟨fee, hfee⟩ := columnRates_termsOf.oneWayBaseFee
    rw [hfee]
    exact fee.onGrid_value
  · exact onGrid_zero

theorem couponOf_onGrid {price : EffectivePricingResolution} {coupon : PromotionEvaluationResult}
    (h : market.couponOf id now input car interval price = .ok (some coupon)) :
    OnGrid 2 coupon.effectiveDiscountAmount := by
  unfold couponOf at h
  split at h
  · cases h
  next code _ =>
    cases hresult : evaluatePromotion id market.upper market.promotions now code
        (promotionContext input car interval price) with
    | error e =>
      rw [hresult] at h
      cases h
    | ok result =>
      rw [hresult] at h
      have happlied := Except.ok.inj h
      dsimp only at happlied
      split at happlied
      next hvalid =>
        cases happlied
        unfold evaluatePromotion at hresult
        dsimp only at hresult
        split at hresult
        · cases hresult
        · split at hresult
          · cases hresult
            exact onGrid_zero
          · cases hresult
            exact onGrid_roundedPaise _
      · cases happlied

theorem addonsOf_onGrid {price : EffectivePricingResolution} {addon : CalculatedAncillaryItem}
    (h : addon ∈ market.addonsOf id input car interval price) :
    OnGrid 2 addon.subtotal ∧ OnGrid 2 addon.taxAmount := by
  obtain ⟨selection, -, hfound⟩ := List.mem_filterMap.mp h
  obtain ⟨product, -, rfl⟩ := Option.map_eq_some_iff.mp hfound
  exact ⟨onGrid_roundedPaise _, onGrid_roundedPaise _⟩

theorem noDelivery (market : MarketplaceTables) (now : ℤ) (input : CreateMarketplaceQuoteInput)
    (car : ListedCar) (interval : ℤ × ℤ) :
    (market.termsOf now input car interval).couponDiscount = 0 ∧
      (market.termsOf now input car interval).pickupFee = 0 ∧
      (market.termsOf now input car interval).returnFee = 0 ∧
      (market.termsOf now input car interval).deliveryFee = 0 := by
  refine ⟨?_, rfl, rfl, rfl⟩
  simp [termsOf, rentalTerms, RentalTerms.couponDiscount, pricingContext]

theorem totals_of_priceQuote (hinterval : interval.1 < interval.2)
    (h : market.priceQuote id now input car interval = .ok quote) :
    quote.discountTotal id =
        (market.termsOf now input car interval).durationDiscount + quote.couponWorth ∧
      quote.feesTotal id = (market.termsOf now input car interval).rates.convenienceFee +
        (market.termsOf now input car interval).oneWayFee + quote.addonFees ∧
      quote.taxTotal id = (market.termsOf now input car interval).taxTotal + quote.addonTax := by
  obtain ⟨-, hdiscount, hfees, htax, -⟩ := priceQuote_eq_ok hinterval h
  refine ⟨?_, ?_, ?_⟩
  · rw [PricedQuote.discountTotal, runningSum_id, hdiscount, PricedQuote.couponWorth]
  · rw [PricedQuote.feesTotal, runningSum_id, hfees, feesOf_termsOf, PricedQuote.addonFees]
  · rw [PricedQuote.taxTotal, runningSum_id, htax, PricedQuote.addonTax]

theorem parts_onGrid (hinterval : interval.1 < interval.2)
    (h : market.priceQuote id now input car interval = .ok quote) :
    (∀ coupon ∈ quote.coupon, OnGrid 2 coupon.effectiveDiscountAmount) ∧
      ∀ addon ∈ quote.addons, OnGrid 2 addon.subtotal ∧ OnGrid 2 addon.taxAmount := by
  obtain ⟨-, -, -, -, -, -, hcoupon, haddons⟩ := priceQuote_eq_ok hinterval h
  constructor
  · intro coupon hmem
    rw [Option.mem_def.mp hmem] at hcoupon
    exact couponOf_onGrid hcoupon
  · intro addon hmem
    rw [haddons] at hmem
    exact addonsOf_onGrid hmem

theorem worths_onGrid (hinterval : interval.1 < interval.2)
    (h : market.priceQuote id now input car interval = .ok quote) :
    OnGrid 2 quote.couponWorth ∧ OnGrid 2 quote.addonFees ∧ OnGrid 2 quote.addonTax := by
  obtain ⟨hcoupon, haddons⟩ := parts_onGrid hinterval h
  refine ⟨?_, onGrid_sum_map fun addon hmem => (haddons addon hmem).1,
    onGrid_sum_map fun addon hmem => (haddons addon hmem).2⟩
  refine onGrid_sum_map fun coupon hmem => hcoupon coupon ?_
  rwa [Option.mem_toList] at hmem

theorem sum_lines_eq (hinterval : interval.1 < interval.2)
    (h : market.priceQuote id now input car interval = .ok quote) :
    (quote.lines.map MarketplaceLine.amount).sum =
      quote.payable (market.termsOf now input car interval) -
        ((market.termsOf now input car interval).unlisted + quote.addonTax) := by
  obtain ⟨-, -, -, -, -, hlines, -⟩ := priceQuote_eq_ok hinterval h
  obtain ⟨hcoupon, hpickup, hreturn, hdelivery⟩ := noDelivery market now input car interval
  set terms := market.termsOf now input car interval
  have hprice : ((quote.price.lineItems.map fun item =>
      (⟨.ofCategory item.category, item.rate, item.quantity, item.amount, item.isRefundable⟩ :
        MarketplaceLine ℚ)).map MarketplaceLine.amount).sum =
      (terms.lineItems.map PricingBreakdownItem.amount).sum := by
    rw [hlines, List.map_map, List.map_map]
    rfl
  have hpromotion : ((quote.coupon.toList.map fun coupon =>
      (⟨.couponDiscount, coupon.effectiveDiscountAmount, 1, -coupon.effectiveDiscountAmount,
        false⟩ : MarketplaceLine ℚ)).map MarketplaceLine.amount).sum = -quote.couponWorth := by
    rw [PricedQuote.couponWorth, PricedQuote.couponDiscounts]
    cases quote.coupon with
    | none => simp
    | some coupon => simp
  have haddons : ((quote.addons.map fun addon =>
      (⟨.extraAddon, addon.unitPrice, addon.quantity, addon.subtotal, false⟩ :
        MarketplaceLine ℚ)).map MarketplaceLine.amount).sum = quote.addonFees := by
    rw [PricedQuote.addonFees, List.map_map]
    rfl
  have hconvenience := max_add_min 0 terms.rates.convenienceFee
  have hdeposit := max_add_min 0 terms.rates.deposit
  rw [PricedQuote.lines, List.map_append, List.map_append, List.sum_append, List.sum_append, hprice,
    hpromotion, haddons, terms.sum_lineItems, PricedQuote.payable, RentalTerms.unlisted,
    RentalTerms.totalDiscounts, hcoupon, hpickup, hreturn, hdelivery, max_self, min_self]
  linarith

theorem lines_onGrid (hinterval : interval.1 < interval.2)
    (h : market.priceQuote id now input car interval = .ok quote) :
    ∀ line ∈ quote.lines, OnGrid 2 line.amount := by
  obtain ⟨-, -, -, -, -, hlines, -⟩ := priceQuote_eq_ok hinterval h
  obtain ⟨hcoupon, haddons⟩ := parts_onGrid hinterval h
  obtain ⟨hpromotion, hpickup, hreturn, -⟩ := noDelivery market now input car interval
  intro line hline
  simp only [PricedQuote.lines, List.mem_append, List.mem_map] at hline
  rcases hline with (⟨item, hitem, rfl⟩ | ⟨coupon, hmem, rfl⟩) | ⟨addon, hmem, rfl⟩
  · rw [hlines] at hitem
    obtain ⟨resolved, hresolved, rfl⟩ := List.mem_map.mp hitem
    exact RentalTerms.lineItems_onGrid columnRates_termsOf hpromotion hpickup hreturn resolved
      hresolved
  · exact (hcoupon coupon (Option.mem_toList.mp hmem)).neg
  · exact (haddons addon hmem).1

theorem values_of_row (hinterval : interval.1 < interval.2)
    (hquote : market.priceQuote id now input car interval = .ok quote)
    (hrow : market.row id now input newId car interval quote = some row) :
    row.subtotal.value = (market.termsOf now input car interval).subtotal ∧
      row.discountTotal.value =
        (market.termsOf now input car interval).durationDiscount + quote.couponWorth ∧
      row.feesTotal.value = (market.termsOf now input car interval).rates.convenienceFee +
        (market.termsOf now input car interval).oneWayFee + quote.addonFees ∧
      row.taxTotal.value = (market.termsOf now input car interval).taxTotal + quote.addonTax ∧
      row.depositTotal.value = (market.termsOf now input car interval).rates.deposit ∧
      row.totalPayable.value = max 0 (quote.payable (market.termsOf now input car interval)) := by
  obtain ⟨hsubtotal, -, -, -, hdeposit, -⟩ := priceQuote_eq_ok hinterval hquote
  obtain ⟨hdiscounts, hfees, htax⟩ := totals_of_priceQuote hinterval hquote
  obtain ⟨hcoupon, haddonFees, haddonTax⟩ := worths_onGrid hinterval hquote
  obtain ⟨hsubtotal', hdiscounts', hfees', htax', hdeposit', htotal', -⟩ := row_eq_some hrow
  have hcolumns : ColumnRates (market.termsOf now input car interval).rates := columnRates_termsOf
  have honeWay : OnGrid 2 (market.termsOf now input car interval).oneWayFee := onGrid_oneWayFee
  obtain ⟨convenienceFee, hconvenience⟩ := hcolumns.convenienceFee
  obtain ⟨deposit, hdepositColumn⟩ := hcolumns.deposit
  set terms := market.termsOf now input car interval
  have hgridConvenience : OnGrid 2 terms.rates.convenienceFee :=
    hconvenience ▸ convenienceFee.onGrid_value
  have hgridDeposit : OnGrid 2 terms.rates.deposit := hdepositColumn ▸ deposit.onGrid_value
  have hgridDiscounts : OnGrid 2 (terms.durationDiscount + quote.couponWorth) :=
    (onGrid_intCast _).add hcoupon
  have hgridFees : OnGrid 2 (terms.rates.convenienceFee + terms.oneWayFee + quote.addonFees) :=
    (hgridConvenience.add honeWay).add haddonFees
  have hgridTax : OnGrid 2 (terms.taxTotal + quote.addonTax) := (onGrid_intCast _).add haddonTax
  have hgridPayable : OnGrid 2 (quote.payable terms) :=
    ((((onGrid_intCast _).sub hgridDiscounts).add hgridFees).add hgridTax).add hgridDeposit
  have hpayable : quote.totalPayable id = max 0 (quote.payable terms) := by
    rw [PricedQuote.totalPayable, hsubtotal, hdiscounts, hfees, htax, hdeposit]
    exact congrArg (max 0) (roundedPaise_of_onGrid hgridPayable)
  rw [hsubtotal] at hsubtotal'
  rw [hdiscounts] at hdiscounts'
  rw [hfees] at hfees'
  rw [htax] at htax'
  rw [hdeposit] at hdeposit'
  rw [hpayable] at htotal'
  refine ⟨stored_amount (onGrid_intCast _) hsubtotal', stored_amount hgridDiscounts hdiscounts',
    stored_amount hgridFees hfees', stored_amount hgridTax htax',
    stored_amount hgridDeposit hdeposit', stored_amount ?_ htotal'⟩
  rcases max_choice 0 (quote.payable terms) with hzero | hpositive
  · rw [hzero]
    exact onGrid_zero
  · rw [hpositive]
    exact hgridPayable

/-- The quote that the request gets has all of it in its lines. -/
def QuoteListed (market : MarketplaceTables) (now : ℤ) (input : CreateMarketplaceQuoteInput) :
    Prop :=
  ∃ interval ∈ MarketplaceTables.interval input, ∃ car ∈ market.cars input.carId, ∃ quote,
    market.priceQuote id now input car interval = .ok quote ∧
      quote.FullyListed (market.termsOf now input car interval)

theorem addsUp_iff (hinterval : interval.1 < interval.2)
    (hquote : market.priceQuote id now input car interval = .ok quote)
    (hrow : market.row id now input newId car interval quote = some row) :
    StoredQuoteAddsUp row ↔ quote.FullyListed (market.termsOf now input car interval) := by
  obtain ⟨hsubtotal, hdiscounts, hfees, htax, hdeposit, htotal⟩ :=
    values_of_row hinterval hquote hrow
  have hlines : (row.lineItems.map fun line => line.amount.value).sum =
      quote.payable (market.termsOf now input car interval) -
        ((market.termsOf now input car interval).unlisted + quote.addonTax) := by
    obtain ⟨-, -, -, -, -, -, hstored, -⟩ := row_eq_some hrow
    rw [stored_lines (lines_onGrid hinterval hquote) hstored, sum_lines_eq hinterval hquote]
  set terms := market.termsOf now input car interval
  have hsum : row.subtotal.value - row.discountTotal.value + row.feesTotal.value +
      row.taxTotal.value + row.depositTotal.value = quote.payable terms := by
    rw [hsubtotal, hdiscounts, hfees, htax, hdeposit, PricedQuote.payable]
  constructor
  · intro h
    have hpayable : max 0 (quote.payable terms) = quote.payable terms := by
      rw [← htotal, h.total, hsum]
    have hlisted := h.lines
    rw [hlines, htotal, hpayable] at hlisted
    refine ⟨?_, max_eq_right_iff.mp hpayable, by linarith⟩
    rw [← hdiscounts, ← hsubtotal]
    exact h.discounts
  · intro h
    have hpayable : max 0 (quote.payable terms) = quote.payable terms := max_eq_right h.payable
    constructor
    · rw [hlines, htotal, hpayable, h.unlisted, sub_zero]
    · rw [htotal, hpayable, hsum]
    · rw [hdiscounts, hsubtotal]
      exact h.discounts

end MarketplaceTables

open MarketplaceTables

/-- **What a stored quote is payable for.**  For all tables, every request and every quote that is
stored for it: its lines and its totals add up to what is payable and its discounts are within the
rental, exactly when the discount for the duration and the coupon are within the rental together,
what they leave to pay is not below zero, and nothing is charged without a line. -/
theorem marketplace_quote_adds_up_iff {market : MarketplaceTables} {now : ℤ}
    {input : CreateMarketplaceQuoteInput} {quotes : List MarketplaceQuote} {newId : Id}
    {row : MarketplaceQuote}
    (h : market.createQuote id now input quotes newId = .ok (quotes ++ [row], row)) :
    StoredQuoteAddsUp row ↔ QuoteListed market now input := by
  obtain ⟨interval, car, quote, hinterval, hcar, hquote, hrow⟩ := createQuote_stored h
  have hiff := addsUp_iff (interval_eq_some hinterval).2.2 hquote hrow
  constructor
  · intro hadds
    exact ⟨interval, hinterval, car, hcar, quote, hquote, hiff.mp hadds⟩
  · rintro ⟨interval', hinterval', car', hcar', quote', hquote', hlisted⟩
    have hintervals : interval' = interval :=
      Option.some_inj.mp (Option.mem_def.mp hinterval' ▸ hinterval)
    have hcars : car' = car := Option.some_inj.mp (Option.mem_def.mp hcar' ▸ hcar)
    subst hintervals hcars
    have hquotes : quote' = quote := Except.ok.inj (hquote' ▸ hquote)
    subst hquotes
    exact hiff.mpr hlisted

/-! ## A hatchback for a day -/

theorem dayRate_inRange : |(200000 : ℤ)| < 10 ^ 10 := by decide

theorem gstRate_inRange : |(18 : ℤ)| < 10 ^ 5 := by decide

def hatchback : ListedCar where
  pricePerKm := ⟨1200, by decide⟩
  pricePerDay := ⟨200000, dayRate_inRange⟩
  pricePerHour := ⟨25000, by decide⟩
  weeklyDiscountPercent := 0
  monthlyDiscountPercent := 0
  city := "Hyderabad"
  vendorId := "vendor"
  pickupHubId := none
  type := .hatchback

/-- One car, and an additional driver at 250.00 a day with 18% tax. -/
def oneHatchback : MarketplaceTables where
  cars carId := if carId = "car" then some hatchback else none
  rules := []
  calendar := utcDays
  promotions := ⟨[], fun _ => 0, fun _ _ => 0⟩
  products := [⟨"driver", "ADDITIONAL_DRIVER", "Additional Authorised Driver", "DRIVER", .perDay,
    ⟨25000, by decide⟩, ⟨18, gstRate_inRange⟩, none, true, 2⟩]
  upper := .ascii
  sha256 := id

/-- A day in March. -/
def dayRental (ancillaries : List AncillarySelectionInput) : CreateMarketplaceQuoteInput where
  customerId := none
  vendorId := none
  branchId := none
  returnBranchId := none
  vehicleClass := none
  carId := "car"
  startDate := some 1773133200000
  endDate := some 1773219600000
  tripType := none
  couponCode := none
  ancillaries
  deliveryAddress := none
  idempotencyKey := none

theorem exists_ok_of_any {ε α : Type} {x : Except ε α} {p : α → Bool}
    (h : x.toOption.any p = true) : ∃ a, x = .ok a ∧ p a = true := by
  cases x with
  | error e => cases h
  | ok a => exact ⟨a, rfl, h⟩

theorem exists_ok_of_isSome {ε α : Type} {x : Except ε α} (h : x.toOption.isSome = true) :
    ∃ a, x = .ok a := by
  cases x with
  | error e => cases h
  | ok a => exact ⟨a, rfl⟩

theorem day_rental_adds_up : ∃ row,
    oneHatchback.createQuote id 1773000000000 (dayRental []) [] "quote" = .ok ([] ++ [row], row) ∧
      StoredQuoteAddsUp row := by
  obtain ⟨⟨quotes, row⟩, hmade, hstored⟩ := exists_ok_of_any
    (x := oneHatchback.createQuote id 1773000000000 (dayRental []) [] "quote")
    (p := fun stored => stored.1 = [] ++ [stored.2]) (by decide +kernel)
  have hquotes : quotes = [] ++ [row] := of_decide_eq_true hstored
  subst hquotes
  refine ⟨row, hmade, (marketplace_quote_adds_up_iff hmade).mpr ?_⟩
  refine ⟨(1773133200000, 1773219600000), by decide +kernel, hatchback, rfl, ?_⟩
  obtain ⟨quote, hquote, hlisted⟩ := exists_ok_of_any
    (x := oneHatchback.priceQuote id 1773000000000 (dayRental []) hatchback
      (1773133200000, 1773219600000))
    (p := fun quote => quote.FullyListed (oneHatchback.termsOf 1773000000000 (dayRental [])
      hatchback (1773133200000, 1773219600000))) (by decide +kernel)
  exact ⟨quote, hquote, of_decide_eq_true hlisted⟩

/-- The tax of the additional driver is charged, and no line has it: 5832 are payable, the lines
add up to 5787. -/
theorem addon_tax_has_no_line : ∃ row,
    oneHatchback.createQuote id 1773000000000 (dayRental [⟨"ADDITIONAL_DRIVER", none⟩]) []
        "quote" = .ok ([row], row) ∧
      row.totalPayable.value = 5832 ∧
      (row.lineItems.map fun line => line.amount.value).sum = 5787 ∧ ¬StoredQuoteAddsUp row := by
  obtain ⟨⟨quotes, row⟩, hmade, hstored⟩ := exists_ok_of_any
    (x := oneHatchback.createQuote id 1773000000000 (dayRental [⟨"ADDITIONAL_DRIVER", none⟩]) []
      "quote")
    (p := fun stored => stored.1 = [stored.2] ∧ stored.2.totalPayable.value = 5832 ∧
      (stored.2.lineItems.map fun line => line.amount.value).sum = 5787) (by decide +kernel)
  obtain ⟨hquotes, htotal, hlines⟩ := of_decide_eq_true hstored
  dsimp only at hquotes
  subst hquotes
  refine ⟨row, hmade, htotal, hlines, fun hadds => ?_⟩
  have h := hadds.lines
  rw [htotal, hlines] at h
  norm_num at h

end CarRental
