import CarRental.Pricing.FareAgreement
import CarRental.Pricing.PricingService

/-!
# The totals of a quote

Every amount of a quote is in whole paise when the next one is computed from it, and a sum that fits
its column has lost no digit.  So what is stored are the exact sums (`price?_eq_some`), and the
lines add up to all of them but the fees below zero, which have no line (`sum_fareLines`).

An amount that has no column of its own is bounded by a line, or by a total that it is part of.
-/

namespace CarRental

open Rounding

/-! ## Exact sums -/

namespace Decimal

theorem add_eq_or_le {x exact y low : Decimal}
    (hx : x = exact ∨ x ≤ -(2 * low + 10 ^ 9)) (hgrid : OnGrid 2 (exact + y))
    (hle : exact + y ≤ 10 ^ 10) (hy : y ≤ 10 ^ 9) (hlow : 0 ≤ low) (hlowle : low ≤ 10 ^ 15) :
    add x y = exact + y ∨ add x y ≤ -low := by
  have hdigits : 1 ≤ precision := by decide
  rcases hx with rfl | hx
  · by_cases hsmall : -10 ^ 16 ≤ x + y
    · left
      apply toDigits_of_onGrid hgrid
      calc |x + y| * 10 ^ 2 ≤ 10 ^ 16 * 10 ^ 2 := by
            gcongr
            exact abs_le.mpr ⟨hsmall, hle.trans (by norm_num)⟩
        _ < 10 ^ precision := by norm_num [precision]
    · right
      have hneg : x + y ≤ 0 := by linarith
      calc add x y ≤ (x + y) / 2 := toDigits_le_half hdigits hneg
        _ ≤ -low := by linarith
  · right
    have hneg : x + y ≤ 0 := by linarith
    calc add x y ≤ (x + y) / 2 := toDigits_le_half hdigits hneg
      _ ≤ -low := by linarith

end Decimal

namespace LocationFees

variable (fees : LocationFees)

def sum : Decimal := fees.deliveryFee + fees.pickupFee + fees.returnFee + fees.oneWayFee

/-- The fees below zero, which have no line. -/
def belowZero : Decimal :=
  min 0 fees.deliveryFee + min 0 fees.pickupFee + min 0 fees.returnFee + min 0 fees.oneWayFee

theorem onGrid_total : OnGrid 2 fees.total := onGrid_toScale _

/-- No fee is too large for a line. -/
def Fit : Prop :=
  fees.deliveryFee ≤ 10 ^ 8 ∧ fees.pickupFee ≤ 10 ^ 8 ∧ fees.returnFee ≤ 10 ^ 8 ∧
    fees.oneWayFee ≤ 10 ^ 8

variable {fees}

theorem total_eq (hfit : fees.Fit) (htotal : |fees.total| ≤ 10 ^ 10) : fees.total = fees.sum := by
  obtain ⟨hdelivery, hpickup, hreturn, honeWay⟩ := hfit
  obtain ⟨gdelivery, gpickup, greturn, goneWay⟩ := fees.onGrid
  have hfirst : Decimal.add fees.deliveryFee fees.pickupFee = fees.deliveryFee + fees.pickupFee ∨
      Decimal.add fees.deliveryFee fees.pickupFee ≤ -(2 * (3 * 10 ^ 12) + 10 ^ 9) :=
    Decimal.add_eq_or_le (.inl rfl) (gdelivery.add gpickup) (by linarith) (by linarith)
      (by norm_num) (by norm_num)
  have hsecond := Decimal.add_eq_or_le hfirst ((gdelivery.add gpickup).add greturn) (by linarith)
    (by linarith) (by norm_num) (by norm_num)
  have hthird : _ = fees.deliveryFee + fees.pickupFee + fees.returnFee + fees.oneWayFee ∨
      _ ≤ -(10 ^ 12 : Decimal) :=
    Decimal.add_eq_or_le (hsecond.imp_right fun h => h.trans (by norm_num))
      (((gdelivery.add gpickup).add greturn).add goneWay) (by linarith) (by linarith)
      (by norm_num) (by norm_num)
  have herror := abs_le.mp (abs_toScale_sub_le 2 (Decimal.add (Decimal.add (Decimal.add
    fees.deliveryFee fees.pickupFee) fees.returnFee) fees.oneWayFee))
  have hbounds := abs_le.mp htotal
  rcases hthird with hexact | hlow
  · rw [total, hexact]
    exact toScale_of_onGrid (((gdelivery.add gpickup).add greturn).add goneWay)
  · exfalso
    rw [total] at hbounds
    linarith [hbounds.1, herror.2]

end LocationFees

/-! ## Lines -/

/-- The type and the amount of a line as it is stored. -/
def QuoteLineItem.entry (line : QuoteLineItem Decimal) : QuoteLineItemType × Decimal :=
  (line.type, toScale 2 line.amount)

theorem entries_of_store {lines : List (QuoteLineItem Decimal)}
    {stored : List (QuoteLineItem Money)} (h : lines.mapM QuoteLineItem.store? = some stored) :
    stored.map (fun item => (item.type, item.amount.value)) = lines.map QuoteLineItem.entry ∧
      ∀ item ∈ lines, ∃ amount : Money, Column.ofDecimal? item.amount = some amount := by
  induction lines generalizing stored with
  | nil =>
    cases h
    exact ⟨rfl, fun item hitem => absurd hitem (List.not_mem_nil)⟩
  | cons line rest ih =>
    simp only [List.mapM_cons, bind, pure, Option.bind_eq_some_iff, Option.some.injEq] at h
    obtain ⟨item, hitem, items, hitems, rfl⟩ := h
    obtain ⟨hentries, hcolumns⟩ := ih hitems
    simp only [QuoteLineItem.store?, bind, pure, Option.bind_eq_some_iff,
      Option.some.injEq] at hitem
    obtain ⟨rate, -, quantity, -, amount, hamount, rfl⟩ := hitem
    constructor
    · rw [List.map_cons, List.map_cons, hentries]
      exact congrArg (fun value => (line.type, value) :: _) (Column.value_of_ofDecimal? hamount)
    · intro other hother
      rcases List.mem_cons.mp hother with rfl | hrest
      · exact ⟨amount, hamount⟩
      · exact hcolumns other hrest

namespace QuoteDraft

variable (prices : PriceList) (draft : QuoteDraft)

theorem map_lineItems {β : Type} {f : QuoteLineItem Decimal → β}
    (hf : ∀ (item : QuoteLineItem Decimal) (place : ℕ),
      f { item with displayOrder := place } = f item) :
    (draft.lineItems prices).map f = (draft.fareLines prices).map f ++
      [f { line .securityDeposit "Refundable Security Deposit"
        "Refunded automatically within 24 hours after safe return" draft.depositAmount 1
        draft.depositAmount with isRefundable := true, displayOrder := 99 }] := by
  have hplaced : ((draft.fareLines prices).mapIdx fun i item =>
      { item with displayOrder := i + 1 }).map f = (draft.fareLines prices).map f := by
    apply List.ext_getElem
    · simp
    · simp [hf]
  rw [lineItems, List.map_append, hplaced]
  rfl

theorem map_amount_lineItems :
    (draft.lineItems prices).map QuoteLineItem.amount =
      (draft.fareLines prices).map QuoteLineItem.amount ++ [draft.depositAmount] :=
  draft.map_lineItems prices fun _ _ => rfl

theorem map_entry_lineItems :
    (draft.lineItems prices).map QuoteLineItem.entry =
      (draft.fareLines prices).map QuoteLineItem.entry ++
        [(.securityDeposit, toScale 2 draft.depositAmount)] :=
  draft.map_lineItems prices fun _ _ => rfl

theorem sum_feeLine (type : QuoteLineItemType) (name description : String) (fee : Decimal) :
    ((feeLine type name description fee).map QuoteLineItem.amount).sum = max 0 fee := by
  unfold feeLine
  split
  next h => simp [line, max_eq_right h.le]
  next h => simp [max_eq_left (not_lt.mp h)]

theorem sum_durationDiscountLine :
    ((draft.durationDiscountLine prices).map QuoteLineItem.amount).sum =
      -draft.trip.durationDiscountAmount := by
  unfold durationDiscountLine
  split
  · simp [line]
  next h => simp [TripRequest.durationDiscountAmount, h]

theorem sum_protectionLine :
    ((draft.protectionLine prices).map QuoteLineItem.amount).sum =
      draft.trip.quotedProtectionFee := by
  unfold protectionLine
  cases h : draft.protection with
  | none =>
    have hnone : draft.trip.protectionPackage = none := by rw [draft.covered, h]; rfl
    simp [TripRequest.quotedProtectionFee, hnone]
  | some pkg => simp [line]

theorem sum_couponLine :
    (draft.couponLine.map QuoteLineItem.amount).sum = -max 0 draft.couponDiscount := by
  unfold couponLine
  split
  next h => simp [line, max_eq_right h.le]
  next h => simp [max_eq_left (not_lt.mp h)]

theorem sum_fareLines :
    ((draft.fareLines prices).map QuoteLineItem.amount).sum =
      toScale 2 draft.trip.initialBaseFare - draft.trip.durationDiscountAmount +
        draft.trip.platformFee + draft.trip.gstAmount +
        (max 0 draft.fees.deliveryFee + max 0 draft.fees.pickupFee +
          max 0 draft.fees.returnFee + max 0 draft.fees.oneWayFee) +
        draft.trip.quotedProtectionFee - max 0 draft.couponDiscount := by
  simp only [fareLines, List.map_append, List.sum_append, sum_feeLine, sum_durationDiscountLine,
    sum_protectionLine, sum_couponLine, List.map_cons, List.map_nil, List.sum_cons, List.sum_nil,
    line]
  ring

theorem onGrid_amount {item : QuoteLineItem Decimal} (h : item ∈ draft.fareLines prices) :
    OnGrid 2 item.amount := by
  obtain ⟨gdelivery, gpickup, greturn, goneWay⟩ := draft.fees.onGrid
  have hfee : ∀ {type : QuoteLineItemType} {name description : String} {fee : Decimal},
      OnGrid 2 fee → item ∈ feeLine type name description fee → OnGrid 2 item.amount := by
    intro type name description fee hfee hmem
    unfold feeLine at hmem
    split at hmem
    · rw [List.mem_singleton.mp hmem]
      exact hfee
    · cases hmem
  simp only [fareLines, List.mem_append] at h
  rcases h with (((((((hbase | hduration) | hplatform) | hdelivery) | hpickup) | hreturn) |
    honeWay) | hprotection) | hcoupon
  · rw [List.mem_singleton.mp hbase]
    exact onGrid_toScale _
  · unfold durationDiscountLine at hduration
    split at hduration
    · rw [List.mem_singleton.mp hduration]
      exact (TripRequest.onGrid_durationDiscountAmount _).neg
    · cases hduration
  · rcases List.mem_pair.mp hplatform with rfl | rfl
    · exact onGrid_toScale _
    · exact onGrid_toScale _
  · exact hfee gdelivery hdelivery
  · exact hfee gpickup hpickup
  · exact hfee greturn hreturn
  · exact hfee goneWay honeWay
  · unfold protectionLine at hprotection
    split at hprotection
    · cases hprotection
    · rw [List.mem_singleton.mp hprotection]
      exact TripRequest.onGrid_quotedProtectionFee _
  · unfold couponLine at hcoupon
    split at hcoupon
    · rw [List.mem_singleton.mp hcoupon]
      exact (TripRequest.onGrid_couponDiscount? draft.discounted).neg
    · cases hcoupon

/-! ## Columns -/

/-- What is charged for the trip, before the coupon. -/
def charges : Decimal :=
  draft.trip.quotedTotal + draft.fees.sum + draft.trip.quotedProtectionFee

/-- The columns of the amounts, in rupees. -/
structure Priced (price : QuotePrice) : Prop where
  baseFare : OnGrid 2 draft.trip.initialBaseFare
  total : draft.fees.total = draft.fees.sum
  couponBase : draft.trip.subtotalForCoupon = draft.trip.quotedTotal
  subtotal : price.subtotal.value = draft.trip.initialBaseFare
  discountTotal : price.discountTotal.value =
    draft.trip.durationDiscountAmount + draft.couponDiscount
  feesTotal : price.feesTotal.value =
    draft.trip.platformFee + draft.fees.sum + draft.trip.quotedProtectionFee
  taxTotal : price.taxTotal.value = draft.trip.gstAmount
  depositTotal : price.depositTotal.value = draft.depositAmount
  totalPayable : price.totalPayable.value =
    draft.charges - draft.couponDiscount + draft.depositAmount

variable {prices} {draft} {price : QuotePrice} {stored : List (QuoteLineItem Money)}

theorem abs_amount_le (hstored : (draft.lineItems prices).mapM QuoteLineItem.store? = some stored)
    {amount : Decimal} (h : amount ∈ (draft.fareLines prices).map QuoteLineItem.amount) :
    |amount| ≤ 10 ^ 8 := by
  have hmem : amount ∈ (draft.lineItems prices).map QuoteLineItem.amount := by
    rw [map_amount_lineItems]
    exact List.mem_append_left _ h
  obtain ⟨placed, hplaced, rfl⟩ := List.mem_map.mp hmem
  obtain ⟨column, hcolumn⟩ := (entries_of_store hstored).2 placed hplaced
  obtain ⟨item, hitem, heq⟩ := List.mem_map.mp h
  have hgrid : OnGrid 2 placed.amount := heq ▸ onGrid_amount prices draft hitem
  have hvalue : column.value = placed.amount :=
    (Column.value_of_ofDecimal? hcolumn).trans (toScale_of_onGrid hgrid)
  rw [← hvalue]
  exact abs_value_le column

theorem feeLine_le {type : QuoteLineItemType} {name description : String} {fee : Decimal}
    (h : ∀ amount ∈ (feeLine type name description fee).map QuoteLineItem.amount,
      |amount| ≤ 10 ^ 8) : fee ≤ 10 ^ 8 := by
  unfold feeLine at h
  split at h
  · exact (le_abs_self fee).trans (h fee (by simp [line]))
  next hfee => exact (not_lt.mp hfee).trans (by norm_num)

theorem fees_fit (hstored : (draft.lineItems prices).mapM QuoteLineItem.store? = some stored) :
    draft.fees.Fit := by
  have hlines : ∀ amount ∈ (draft.fareLines prices).map QuoteLineItem.amount, |amount| ≤ 10 ^ 8 :=
    fun amount hamount => abs_amount_le hstored hamount
  simp only [fareLines, List.map_append, List.forall_mem_append] at hlines
  obtain ⟨⟨⟨⟨⟨⟨-, hdelivery⟩, hpickup⟩, hreturn⟩, honeWay⟩, -⟩, -⟩ := hlines
  exact ⟨feeLine_le hdelivery, feeLine_le hpickup, feeLine_le hreturn, feeLine_le honeWay⟩

theorem abs_durationDiscountAmount_le
    (hstored : (draft.lineItems prices).mapM QuoteLineItem.store? = some stored) :
    |draft.trip.durationDiscountAmount| ≤ 10 ^ 8 := by
  have hlines : ∀ amount ∈ (draft.fareLines prices).map QuoteLineItem.amount, |amount| ≤ 10 ^ 8 :=
    fun amount hamount => abs_amount_le hstored hamount
  simp only [fareLines, List.map_append, List.forall_mem_append] at hlines
  obtain ⟨⟨⟨⟨⟨⟨⟨⟨-, hduration⟩, -⟩, -⟩, -⟩, -⟩, -⟩, -⟩, -⟩ := hlines
  unfold durationDiscountLine at hduration
  split at hduration
  · rw [← abs_neg]
    exact hduration _ (by simp [line])
  next hpct =>
    rw [TripRequest.durationDiscountAmount, if_neg hpct, abs_zero]
    norm_num

theorem base_eq {subtotal : Money}
    (hsubtotal : Column.ofDecimal? (toScale 2 draft.trip.initialBaseFare) = some subtotal)
    (hstored : (draft.lineItems prices).mapM QuoteLineItem.store? = some stored) :
    OnGrid 2 draft.trip.initialBaseFare ∧ subtotal.value = draft.trip.initialBaseFare ∧
      draft.trip.baseFareAfterDurationDiscount = draft.trip.quotedBase ∧
      |draft.trip.quotedBase| ≤ 2 * 10 ^ 8 := by
  have hinitial : OnGrid 2 draft.trip.initialBaseFare :=
    TripRequest.initialBaseFare_eq hsubtotal ▸ onGrid_mul_natCast _ _
  have hvalue : subtotal.value = draft.trip.initialBaseFare :=
    (value_of_ofDecimal?_toScale hsubtotal).1.trans (toScale_of_onGrid hinitial)
  have hinitialle := abs_le.mp (hvalue ▸ abs_value_le subtotal)
  have hdurationle := abs_le.mp (abs_durationDiscountAmount_le hstored)
  have hle : |draft.trip.quotedBase| ≤ 2 * 10 ^ 8 := by
    unfold TripRequest.quotedBase
    exact abs_le.mpr ⟨by linarith, by linarith⟩
  refine ⟨hinitial, hvalue, ?_, hle⟩
  unfold TripRequest.baseFareAfterDurationDiscount
  split
  · exact Decimal.sub_of_abs_le hinitial (TripRequest.onGrid_durationDiscountAmount _)
      (hle.trans (by norm_num))
  next hpct =>
    rw [TripRequest.quotedBase, TripRequest.durationDiscountAmount, if_neg hpct, sub_zero]

theorem fees_total_eq {netToVendor : Money} (hbasegrid : OnGrid 2 draft.trip.quotedBase)
    (hbase : |draft.trip.quotedBase| ≤ 2 * 10 ^ 8)
    (hnet : Column.ofDecimal? (toScale 2 (Decimal.add draft.trip.quotedBase draft.fees.total)) =
      some netToVendor)
    (hstored : (draft.lineItems prices).mapM QuoteLineItem.store? = some stored) :
    draft.fees.total = draft.fees.sum ∧ |draft.fees.sum| ≤ 3 * 10 ^ 8 := by
  obtain ⟨-, hvalue⟩ := value_of_sum hbasegrid draft.fees.onGrid_total hnet
  have hnetle := abs_le.mp (hvalue ▸ abs_value_le netToVendor)
  have hbasele := abs_le.mp hbase
  have hle : |draft.fees.total| ≤ 3 * 10 ^ 8 := abs_le.mpr ⟨by linarith, by linarith⟩
  have heq := LocationFees.total_eq (fees_fit hstored) (hle.trans (by norm_num))
  exact ⟨heq, heq ▸ hle⟩

theorem subtotalForCoupon_eq (hbasegrid : OnGrid 2 draft.trip.quotedBase)
    (hbase : draft.trip.baseFareAfterDurationDiscount = draft.trip.quotedBase)
    (hbasele : |draft.trip.quotedBase| ≤ 2 * 10 ^ 8)
    (hplatform : |draft.trip.platformFee| ≤ 10 ^ 8) (hgst : |draft.trip.gstAmount| ≤ 10 ^ 8) :
    draft.trip.subtotalForCoupon = draft.trip.quotedTotal ∧ OnGrid 2 draft.trip.quotedTotal ∧
      |draft.trip.quotedTotal| ≤ 4 * 10 ^ 8 := by
  have gplatform : OnGrid 2 draft.trip.platformFee := onGrid_toScale _
  have ggst : OnGrid 2 draft.trip.gstAmount := onGrid_toScale _
  rw [abs_le] at hbasele hplatform hgst
  have hle : |draft.trip.quotedTotal| ≤ 4 * 10 ^ 8 := by
    unfold TripRequest.quotedTotal
    exact abs_le.mpr ⟨by linarith, by linarith⟩
  refine ⟨?_, (hbasegrid.add gplatform).add ggst, hle⟩
  have hfirst : Decimal.add draft.trip.quotedBase draft.trip.platformFee = _ :=
    Decimal.add_of_abs_le hbasegrid gplatform (abs_le.mpr ⟨by linarith, by linarith⟩)
  rw [TripRequest.subtotalForCoupon, hbase, hfirst]
  exact Decimal.add_of_abs_le (hbasegrid.add gplatform) ggst (hle.trans (by norm_num))

theorem tripFare_eq (hsubtotal : draft.trip.subtotalForCoupon = draft.trip.quotedTotal)
    (gtotal : OnGrid 2 draft.trip.quotedTotal)
    (htotalle : |draft.trip.quotedTotal| ≤ 4 * 10 ^ 8)
    (htotal : draft.fees.total = draft.fees.sum) (hfees : |draft.fees.sum| ≤ 3 * 10 ^ 8)
    (hprotection : |draft.trip.quotedProtectionFee| ≤ 10 ^ 9)
    (hcoupon : |draft.couponDiscount| ≤ 10 ^ 9) :
    draft.tripFare = draft.charges - draft.couponDiscount := by
  have gfees : OnGrid 2 draft.fees.sum := htotal ▸ draft.fees.onGrid_total
  have gprotection := TripRequest.onGrid_quotedProtectionFee draft.trip
  have gcoupon := TripRequest.onGrid_couponDiscount? draft.discounted
  rw [abs_le] at htotalle hfees hprotection hcoupon
  have hsecond : Decimal.add draft.trip.quotedTotal draft.fees.sum = _ :=
    Decimal.add_of_abs_le gtotal gfees (abs_le.mpr ⟨by linarith, by linarith⟩)
  have hthird : Decimal.add (draft.trip.quotedTotal + draft.fees.sum)
      draft.trip.quotedProtectionFee = draft.charges :=
    Decimal.add_of_abs_le (gtotal.add gfees) gprotection (abs_le.mpr ⟨by linarith, by linarith⟩)
  have gcharges : OnGrid 2 draft.charges := (gtotal.add gfees).add gprotection
  have hlast : Decimal.sub draft.charges draft.couponDiscount =
      draft.charges - draft.couponDiscount := by
    refine Decimal.sub_of_abs_le gcharges gcoupon (abs_le.mpr ⟨?_, ?_⟩)
    · unfold charges
      linarith
    · unfold charges
      linarith
  rw [tripFare, hsubtotal, htotal, hsecond, hthird, hlast]
  exact toScale_of_onGrid (gcharges.sub gcoupon)

theorem price?_eq_some (hprice : draft.price? = some price)
    (hstored : (draft.lineItems prices).mapM QuoteLineItem.store? = some stored) :
    draft.Priced price := by
  simp only [price?, bind, Option.bind_eq_some_iff, pure, Option.some.injEq] at hprice
  obtain ⟨subtotal, hsubtotal, discountColumn, hdiscount, feesColumn, hfees, taxColumn, htax,
    depositColumn, hdeposit, totalColumn, htotal, netToVendor, hnet, platformColumn, hplatform,
    rfl⟩ := hprice
  obtain ⟨hinitial, hsubtotalvalue, hbase, hbasele⟩ := base_eq hsubtotal hstored
  have gduration := TripRequest.onGrid_durationDiscountAmount draft.trip
  have gcoupon := TripRequest.onGrid_couponDiscount? draft.discounted
  have gprotection := TripRequest.onGrid_quotedProtectionFee draft.trip
  have gplatform : OnGrid 2 draft.trip.platformFee := onGrid_toScale _
  have gdeposit : OnGrid 2 draft.depositAmount := onGrid_toScale _
  have gbase : OnGrid 2 draft.trip.quotedBase := hinitial.sub gduration
  rw [hbase] at hnet
  obtain ⟨hfeestotal, hfeesle⟩ := fees_total_eq gbase hbasele hnet hstored
  have gfees : OnGrid 2 draft.fees.sum := hfeestotal ▸ draft.fees.onGrid_total
  have hplatformvalue := value_of_onGrid gplatform hplatform
  have hplatformle := hplatformvalue ▸ abs_value_le platformColumn
  have htaxvalue : taxColumn.value = draft.trip.gstAmount :=
    (value_of_ofDecimal?_toScale htax).1.trans (toScale_of_onGrid (onGrid_toScale _))
  have htaxle := htaxvalue ▸ abs_value_le taxColumn
  have hdepositvalue : depositColumn.value = draft.depositAmount :=
    (value_of_ofDecimal?_toScale hdeposit).1.trans (toScale_of_onGrid gdeposit)
  have hdepositle := abs_le.mp (hdepositvalue ▸ abs_value_le depositColumn)
  -- the discount and the protection fee are bounded by the totals that they are part of
  obtain ⟨-, hdiscountvalue⟩ := value_of_sum gduration gcoupon hdiscount
  have hdiscountle := abs_le.mp (hdiscountvalue ▸ abs_value_le discountColumn)
  have hdurationle := abs_le.mp (abs_durationDiscountAmount_le hstored)
  have hcouponle : |draft.couponDiscount| ≤ 10 ^ 9 := abs_le.mpr ⟨by linarith, by linarith⟩
  have hplatformbounds := abs_le.mp hplatformle
  have hfeesbounds := abs_le.mp hfeesle
  have hfeesfirst : Decimal.add draft.trip.platformFee draft.fees.sum = _ :=
    Decimal.add_of_abs_le gplatform gfees (abs_le.mpr ⟨by linarith, by linarith⟩)
  rw [feesTotal, hfeestotal, hfeesfirst] at hfees
  obtain ⟨-, hfeesvalue⟩ := value_of_sum (gplatform.add gfees) gprotection hfees
  have hfeestotalle := abs_le.mp (hfeesvalue ▸ abs_value_le feesColumn)
  have hprotectionle : |draft.trip.quotedProtectionFee| ≤ 10 ^ 9 :=
    abs_le.mpr ⟨by linarith, by linarith⟩
  obtain ⟨hcouponbase, gtotal, htotalle⟩ :=
    subtotalForCoupon_eq gbase hbase hbasele hplatformle htaxle
  have hfare := tripFare_eq hcouponbase gtotal htotalle hfeestotal hfeesle hprotectionle hcouponle
  have gfare : OnGrid 2 (draft.charges - draft.couponDiscount) :=
    ((gtotal.add gfees).add gprotection).sub gcoupon
  rw [hfare, toScale_of_onGrid gdeposit] at htotal
  obtain ⟨-, htotalvalue⟩ := value_of_sum gfare gdeposit htotal
  exact ⟨hinitial, hfeestotal, hcouponbase, hsubtotalvalue, hdiscountvalue, hfeesvalue, htaxvalue,
    hdepositvalue, htotalvalue⟩

end QuoteDraft

end CarRental
