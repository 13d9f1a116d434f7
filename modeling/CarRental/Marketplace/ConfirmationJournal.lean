import CarRental.Finance.MarketplaceCommission
import CarRental.Finance.WholePaise
import CarRental.Pricing.QuoteAcceptance

/-!
# The journal of a confirmation

The amounts that `createQuote` stores, and the journal that `verifyAndConfirmPayment` makes of them
inside its transaction.  When the journal is refused, the captured payment is not confirmed.

The journal should carry the deposit and the tax of the quote in full.  It takes its shares from the
commission instead: the GST of the commission, on everything but the deposit, and the vendor's share
of the same amount, which leaves the platform its percentage less that GST.  Where this is
negative its line is left out, and the sides differ (`confirmation_journal_iff`).
-/

namespace CarRental.Marketplace

open Rounding DoubleEntry

/-! ## The quote -/

structure ResolvedPricing where
  subtotal : Decimal
  discountTotal : Decimal
  feesTotal : Decimal
  taxTotal : Decimal
  depositTotal : Decimal
  netToVendor : Decimal
  /-- The line of the platform fee. -/
  platformFee : Decimal

structure AncillaryItem where
  subtotal : Decimal
  taxAmount : Decimal

/-- The amounts that `createQuote` stores; `coupon` is the discount of a valid one. -/
def quotePrice (pricing : ResolvedPricing) (coupon : Option Decimal)
    (ancillaries : List AncillaryItem) : Option QuotePrice := do
  let discount := pricing.discountTotal + ((coupon.filter (0 < ·)).getD 0)
  let fees := pricing.feesTotal + (ancillaries.map AncillaryItem.subtotal).sum
  let tax := pricing.taxTotal + (ancillaries.map AncillaryItem.taxAmount).sum
  let total := max 0
    (rupees (roundPaise (pricing.subtotal - discount + fees + tax + pricing.depositTotal)))
  return {
    subtotal := ← Column.ofDecimal? pricing.subtotal
    discountTotal := ← Column.ofDecimal? discount
    feesTotal := ← Column.ofDecimal? fees
    taxTotal := ← Column.ofDecimal? tax
    depositTotal := ← Column.ofDecimal? pricing.depositTotal
    totalPayable := ← Column.ofDecimal? total
    netToVendor := ← Column.ofDecimal? pricing.netToVendor
    platformFee := ← Column.ofDecimal? pricing.platformFee }

/-! ## The journal -/

/-- What comes of the commission service: it is not there or fails, or it finds a rule or none. -/
inductive CommissionLookup where
  | failed
  | found (rule : Option MarketplaceCommissionRule)

/-- The call of `calculateCommission`, on all that is paid but the deposit. -/
def commissionSplit (price : QuotePrice) : CommissionLookup → Option CommissionBreakdown
  | .failed => none
  | .found rule => some (calculateCommission (commissionRates rule)
      ⟨max 0 (price.totalPayable.value - price.depositTotal.value), none, none⟩)

/-- Whom the journal is about. -/
structure ConfirmationParties where
  bookingId : Id
  tenantId : Id
  customerId : Id
  selectedPaymentProvider : Option String

/-- The shares of the journal, from the split or from the quote. -/
structure ConfirmationShares where
  platformFee : ℤ
  gstTax : ℤ
  vendorPayable : ℤ

def confirmationShares (price : QuotePrice) (split : Option CommissionBreakdown) :
    ConfirmationShares :=
  match split with
  | some split => ⟨split.platformFee, split.gstAmount, split.vendorNetPayable + split.branchShare⟩
  | none => ⟨price.feesTotal.paise, price.taxTotal.paise, price.netToVendor.paise⟩

def confirmationLines (price : QuotePrice) (parties : ConfirmationParties)
    (shares : ConfirmationShares) : List PaiseLine :=
  let totalPaid := price.totalPayable.paise
  let secDeposit := price.depositTotal.paise
  let subComponents := shares.vendorPayable + shares.platformFee + shares.gstTax + secDeposit
  let delta := totalPaid - subComponents
  let adjustedPlatformFee := shares.platformFee + delta
  ⟨.gatewayClearing, some ((parties.selectedPaymentProvider.filter (· ≠ "")).getD "RAZORPAY"), .debit,
      totalPaid⟩ ::
    ⟨.vendorPayable, some parties.tenantId, .credit, shares.vendorPayable⟩ ::
    (positiveLine .platformCommissionRevenue none .credit adjustedPlatformFee ++
      positiveLine .taxGstLiability none .credit shares.gstTax ++
      positiveLine .customerDepositEscrow (some parties.customerId) .credit secDeposit)

def journalOf (price : QuotePrice) (parties : ConfirmationParties) (lookup : CommissionLookup) :
    List PaiseLine :=
  confirmationLines price parties (confirmationShares price (commissionSplit price lookup))

/-! ## The law -/

def paiseOf (accountType : LedgerAccountType) (lines : List PaiseLine) : ℤ :=
  ((lines.filter fun line => line.accountType = accountType).map PaiseLine.paise).sum

/-- The journal is accepted, and carries the deposit and the tax of the quote. -/
structure JournalAccepted (ledger : Ledger JournalKey) (price : QuotePrice)
    (parties : ConfirmationParties) (lookup : CommissionLookup) : Prop where
  accepted : (recordJournal ledger (paiseJournal (.bookingConfirm parties.bookingId) none
    (journalOf price parties lookup))).isOk = true
  positive : ∀ line ∈ journalOf price parties lookup, 0 < line.paise
  balanced : paiseTotal .debit (journalOf price parties lookup) =
    paiseTotal .credit (journalOf price parties lookup)
  deposit : paiseOf .customerDepositEscrow (journalOf price parties lookup) =
    price.depositTotal.paise
  tax : paiseOf .taxGstLiability (journalOf price parties lookup) = price.taxTotal.paise

/-! ## The condition -/

def rent (price : QuotePrice) : ℤ := price.totalPayable.paise - price.depositTotal.paise

/-- To the nearest paisa, the tax of the quote is the GST of the rates on the rent, and the
platform's part of the rent is no less than this tax, and less than the rent. -/
structure RatesFit (price : QuotePrice) (rates : CommissionRates) : Prop where
  deposit : 0 ≤ price.depositTotal.paise
  tax : 0 ≤ price.taxTotal.paise
  gst_ge : (price.taxTotal.paise : ℚ) - 1 / 2 ≤ rent price * rates.gstPct / 100
  gst_lt : rent price * rates.gstPct / 100 < (price.taxTotal.paise : ℚ) + 1 / 2
  covers : (price.taxTotal.paise : ℚ) - 1 / 2 ≤
    rent price * rates.platformPct / 100 + rates.fixedFee * 100
  leaves : rent price * rates.platformPct / 100 + rates.fixedFee * 100 < (rent price : ℚ) - 1 / 2

/-- Without a commission, the vendor has a share in the quote, and what is paid covers it with the
tax and the deposit. -/
structure PaymentCovers (price : QuotePrice) : Prop where
  vendor : 0 < price.netToVendor.paise
  deposit : 0 ≤ price.depositTotal.paise
  tax : 0 ≤ price.taxTotal.paise
  covers : price.netToVendor.paise + price.taxTotal.paise + price.depositTotal.paise ≤
    price.totalPayable.paise

def JournalFits (price : QuotePrice) : CommissionLookup → Prop
  | .failed => PaymentCovers price
  | .found rule => RatesFit price (commissionRates rule)

/-! ## The journal of given shares -/

section Lines

variable {price : QuotePrice} {parties : ConfirmationParties} {shares : ConfirmationShares}

/-- What the platform's line is to be. -/
def residual (price : QuotePrice) (shares : ConfirmationShares) : ℤ :=
  price.totalPayable.paise - shares.vendorPayable - shares.gstTax - price.depositTotal.paise

theorem confirmationLines_eq (price : QuotePrice) (parties : ConfirmationParties)
    (shares : ConfirmationShares) :
    ∃ provider, confirmationLines price parties shares =
      ⟨.gatewayClearing, some provider, .debit, price.totalPayable.paise⟩ ::
        ⟨.vendorPayable, some parties.tenantId, .credit, shares.vendorPayable⟩ ::
        (positiveLine .platformCommissionRevenue none .credit (residual price shares) ++
          positiveLine .taxGstLiability none .credit shares.gstTax ++
          positiveLine .customerDepositEscrow (some parties.customerId) .credit
            price.depositTotal.paise) := by
  refine ⟨(parties.selectedPaymentProvider.filter (· ≠ "")).getD "RAZORPAY", ?_⟩
  have hresidual : shares.platformFee + (price.totalPayable.paise - (shares.vendorPayable +
      shares.platformFee + shares.gstTax + price.depositTotal.paise)) = residual price shares := by
    rw [residual]
    ring
  rw [confirmationLines, hresidual]

theorem paiseTotal_debit_confirmationLines :
    paiseTotal .debit (confirmationLines price parties shares) = price.totalPayable.paise := by
  obtain ⟨provider, hlines⟩ := confirmationLines_eq price parties shares
  simp only [hlines, paiseTotal_append, paiseTotal_cons, paiseTotal_positiveLine, if_true,
    reduceCtorEq, if_false]
  ring

theorem paiseTotal_credit_confirmationLines :
    paiseTotal .credit (confirmationLines price parties shares) =
      shares.vendorPayable + max (residual price shares) 0 + max shares.gstTax 0 +
        max price.depositTotal.paise 0 := by
  obtain ⟨provider, hlines⟩ := confirmationLines_eq price parties shares
  simp only [hlines, paiseTotal_append, paiseTotal_cons, paiseTotal_positiveLine, if_true,
    reduceCtorEq, if_false]
  ring

theorem paiseOf_append (accountType : LedgerAccountType) (first second : List PaiseLine) :
    paiseOf accountType (first ++ second) = paiseOf accountType first + paiseOf accountType second := by
  rw [paiseOf, List.filter_append, List.map_append, List.sum_append]
  rfl

@[simp] theorem paiseOf_nil (accountType : LedgerAccountType) : paiseOf accountType [] = 0 := rfl

theorem paiseOf_cons (accountType : LedgerAccountType) (line : PaiseLine) (lines : List PaiseLine) :
    paiseOf accountType (line :: lines) =
      (if line.accountType = accountType then line.paise else 0) + paiseOf accountType lines := by
  by_cases h : line.accountType = accountType <;> simp [paiseOf, h]

theorem paiseOf_positiveLine (accountType other : LedgerAccountType) (entity : Option Id)
    (side : LedgerEntrySide) (paise : ℤ) :
    paiseOf accountType (positiveLine other entity side paise) =
      if other = accountType then max paise 0 else 0 := by
  rw [positiveLine]
  by_cases hpaise : 0 < paise
  · rw [if_pos hpaise, paiseOf_cons, paiseOf_nil, add_zero, max_eq_left hpaise.le]
  · rw [if_neg hpaise, paiseOf_nil, max_eq_right (not_lt.mp hpaise), ite_self]

theorem paiseOf_deposit :
    paiseOf .customerDepositEscrow (confirmationLines price parties shares) =
      max price.depositTotal.paise 0 := by
  obtain ⟨provider, hlines⟩ := confirmationLines_eq price parties shares
  simp only [hlines, paiseOf_append, paiseOf_cons, paiseOf_positiveLine, if_true, reduceCtorEq,
    if_false, zero_add]

theorem paiseOf_tax :
    paiseOf .taxGstLiability (confirmationLines price parties shares) = max shares.gstTax 0 := by
  obtain ⟨provider, hlines⟩ := confirmationLines_eq price parties shares
  simp only [hlines, paiseOf_append, paiseOf_cons, paiseOf_positiveLine, if_true, reduceCtorEq,
    if_false, zero_add, add_zero]

theorem confirmationLines_positive_iff :
    (∀ line ∈ confirmationLines price parties shares, 0 < line.paise) ↔
      0 < price.totalPayable.paise ∧ 0 < shares.vendorPayable := by
  obtain ⟨provider, hlines⟩ := confirmationLines_eq price parties shares
  rw [hlines, List.forall_mem_cons, List.forall_mem_cons]
  refine and_congr_right fun _ => and_iff_left fun line hline => ?_
  rcases List.mem_append.mp hline with hline | hline
  · rcases List.mem_append.mp hline with hline | hline
    · rw [(mem_positiveLine hline).1]
      exact (mem_positiveLine hline).2
    · rw [(mem_positiveLine hline).1]
      exact (mem_positiveLine hline).2
  · rw [(mem_positiveLine hline).1]
    exact (mem_positiveLine hline).2

/-- The shares are not too large for the ledger's columns. -/
structure ConfirmationShares.Fit (shares : ConfirmationShares) : Prop where
  vendor : |shares.vendorPayable| ≤ 4 * 10 ^ 11
  gst : |shares.gstTax| ≤ 4 * 10 ^ 11

theorem confirmationLines_fit (hfit : shares.Fit) :
    ∀ line ∈ confirmationLines price parties shares, line.Fits := by
  obtain ⟨provider, hlines⟩ := confirmationLines_eq price parties shares
  have htotal := abs_lt.mp price.totalPayable.inRange
  have hdeposit := abs_lt.mp price.depositTotal.inRange
  have hvendor := abs_le.mp hfit.vendor
  have hgst := abs_le.mp hfit.gst
  have hfits : ∀ paise : ℤ, -10 ^ 12 < paise → paise < 10 ^ 12 →
      ∀ accountType entity side, PaiseLine.Fits ⟨accountType, entity, side, paise⟩ :=
    fun paise hlow hhigh _ _ _ => abs_lt.mpr ⟨hlow, hhigh⟩
  rw [hlines, List.forall_mem_cons, List.forall_mem_cons]
  refine ⟨hfits _ (by omega) (by omega) _ _ _, hfits _ (by omega) (by omega) _ _ _,
    fun line hline => ?_⟩
  rcases List.mem_append.mp hline with hline | hline
  · rcases List.mem_append.mp hline with hline | hline
    · rw [(mem_positiveLine hline).1]
      exact hfits _ (by rw [residual]; omega) (by rw [residual]; omega) _ _ _
    · rw [(mem_positiveLine hline).1]
      exact hfits _ (by omega) (by omega) _ _ _
  · rw [(mem_positiveLine hline).1]
    exact hfits _ (by omega) (by omega) _ _ _

theorem length_confirmationLines :
    2 ≤ (confirmationLines price parties shares).length ∧
      (confirmationLines price parties shares).length ≤ 1000 := by
  obtain ⟨provider, hlines⟩ := confirmationLines_eq price parties shares
  rw [hlines, List.length_cons, List.length_cons, List.length_append, List.length_append,
    length_positiveLine, length_positiveLine, length_positiveLine]
  constructor
  · omega
  · split <;> split <;> split <;> omega

/-- The shares that are booked in full: what is paid covers the vendor's share, the tax of the quote
and the deposit. -/
structure SharesFit (price : QuotePrice) (shares : ConfirmationShares) : Prop where
  vendor : 0 < shares.vendorPayable
  deposit : 0 ≤ price.depositTotal.paise
  tax : 0 ≤ price.taxTotal.paise
  gst : shares.gstTax = price.taxTotal.paise
  covers : shares.vendorPayable + shares.gstTax + price.depositTotal.paise ≤
    price.totalPayable.paise

theorem lines_accepted_iff {ledger : Ledger JournalKey} (hfit : shares.Fit)
    (hfree : ∀ i, ledger.hasKey (.bookingConfirm parties.bookingId, i) = false) :
    (recordJournal ledger (paiseJournal (.bookingConfirm parties.bookingId) none
          (confirmationLines price parties shares))).isOk = true ∧
        paiseOf .customerDepositEscrow (confirmationLines price parties shares) =
          price.depositTotal.paise ∧
        paiseOf .taxGstLiability (confirmationLines price parties shares) = price.taxTotal.paise ↔
      SharesFit price shares := by
  rw [recordJournal_isOk_iff hfree length_confirmationLines.2 (confirmationLines_fit hfit),
    confirmationLines_positive_iff, paiseTotal_debit_confirmationLines,
    paiseTotal_credit_confirmationLines, paiseOf_deposit, paiseOf_tax,
    and_iff_right length_confirmationLines.1, residual]
  constructor
  · rintro ⟨⟨⟨htotal, hvendor⟩, hbalanced⟩, hdeposit, htax⟩
    constructor <;> omega
  · rintro ⟨hvendor, hdeposit, htax, hgst, hcovers⟩
    refine ⟨⟨⟨?_, hvendor⟩, ?_⟩, ?_, ?_⟩ <;> omega

end Lines

/-! ## The shares of a commission -/

section Split

variable {price : QuotePrice}

theorem taxableAmount_eq (price : QuotePrice) (rates : CommissionRates) :
    (calculateCommission rates
      ⟨max 0 (price.totalPayable.value - price.depositTotal.value), none, none⟩).taxableAmount =
        rupees (max 0 (rent price)) := by
  have hrent : price.totalPayable.value - price.depositTotal.value = rupees (rent price) := by
    rw [Column.value, Column.value, rupees, rent]
    push_cast
    ring
  show max 0 (max 0 (price.totalPayable.value - price.depositTotal.value) - 0) = _
  rw [hrent, sub_zero, max_eq_right (le_max_left _ _), rupees_max]

/-- The platform's part of an amount, to the nearest paisa. -/
def platformPart (rates : CommissionRates) (taxable : ℤ) : ℤ :=
  round (taxable * rates.platformPct / 100 + rates.fixedFee * 100 : ℚ)

/-- The GST on an amount, to the nearest paisa. -/
def gstPart (rates : CommissionRates) (taxable : ℤ) : ℤ := round (taxable * rates.gstPct / 100 : ℚ)

theorem confirmationShares_found (price : QuotePrice) (rule : Option MarketplaceCommissionRule) :
    confirmationShares price (commissionSplit price (.found rule)) =
      ⟨platformPart (commissionRates rule) (max 0 (rent price)),
        gstPart (commissionRates rule) (max 0 (rent price)),
        max 0 (rent price) - platformPart (commissionRates rule) (max 0 (rent price))⟩ := by
  have htaxable := taxableAmount_eq price (commissionRates rule)
  have hplatform : (calculateCommission (commissionRates rule)
      ⟨max 0 (price.totalPayable.value - price.depositTotal.value), none, none⟩).platformFee =
        platformPart (commissionRates rule) (max 0 (rent price)) := by
    rw [platformPart, ← roundPaise_share, ← htaxable]
    rfl
  have hgst : (calculateCommission (commissionRates rule)
      ⟨max 0 (price.totalPayable.value - price.depositTotal.value), none, none⟩).gstAmount =
        gstPart (commissionRates rule) (max 0 (rent price)) := by
    rw [gstPart, ← roundPaise_percent, ← htaxable]
    rfl
  rw [commissionSplit, confirmationShares, vendor_and_branch htaxable, hplatform, hgst]

theorem commissionRates_bounds (rule : Option MarketplaceCommissionRule) :
    |(commissionRates rule).platformPct| ≤ 1000 ∧ |(commissionRates rule).gstPct| ≤ 1000 ∧
      |(commissionRates rule).fixedFee| ≤ 10 ^ 8 := by
  cases rule with
  | none => norm_num [commissionRates]
  | some rule =>
    refine ⟨?_, ?_, ?_⟩
    · exact rule.platformPct.abs_value_lt.le.trans (by norm_num)
    · exact rule.taxGstPct.abs_value_lt.le.trans (by norm_num)
    · exact rule.fixedPlatformFee.abs_value_lt.le.trans (by norm_num)

theorem abs_round_le {x bound : ℚ} (h : |x| ≤ bound) : |(round x : ℚ)| ≤ bound + 1 / 2 := by
  have hdist := abs_sub_round x
  calc |(round x : ℚ)| = |x - (x - round x)| := by rw [sub_sub_cancel]
    _ ≤ |x| + |x - round x| := abs_sub _ _
    _ ≤ bound + 1 / 2 := add_le_add h hdist

theorem abs_share_le {taxable percent fixed : ℚ} (htaxable : |taxable| ≤ 2 * 10 ^ 10)
    (hpercent : |percent| ≤ 1000) (hfixed : |fixed| ≤ 10 ^ 8) :
    |taxable * percent / 100 + fixed * 100| ≤ 21 * 10 ^ 10 := by
  have hproduct : |taxable * percent| ≤ 2 * 10 ^ 10 * 1000 := by
    rw [abs_mul]
    exact mul_le_mul htaxable hpercent (abs_nonneg _) (by norm_num)
  have hshare : |taxable * percent / 100| ≤ 2 * 10 ^ 11 := by
    rw [abs_div, abs_of_pos (by norm_num : (0 : ℚ) < 100)]
    linarith
  have hfee : |fixed * 100| ≤ 10 ^ 10 := by
    rw [abs_mul, abs_of_pos (by norm_num : (0 : ℚ) < 100)]
    linarith
  calc |taxable * percent / 100 + fixed * 100|
      ≤ |taxable * percent / 100| + |fixed * 100| := abs_add_le _ _
    _ ≤ 21 * 10 ^ 10 := by linarith

theorem fit_found (price : QuotePrice) (rule : Option MarketplaceCommissionRule) :
    (confirmationShares price (commissionSplit price (.found rule))).Fit := by
  obtain ⟨hplatform, hgst, hfixed⟩ := commissionRates_bounds rule
  have htotal := abs_lt.mp price.totalPayable.inRange
  have hdeposit := abs_lt.mp price.depositTotal.inRange
  have htaxable : |max 0 (rent price)| ≤ 2 * 10 ^ 10 := by
    rw [abs_le, rent]
    omega
  have htaxable' : |((max 0 (rent price) : ℤ) : ℚ)| ≤ 2 * 10 ^ 10 := by exact_mod_cast htaxable
  have hplatformPart : |platformPart (commissionRates rule) (max 0 (rent price))| ≤
      21 * 10 ^ 10 + 1 := by
    have h := abs_round_le (abs_share_le htaxable' hplatform hfixed)
    have hcast : |(platformPart (commissionRates rule) (max 0 (rent price)) : ℚ)| ≤
        21 * 10 ^ 10 + 1 := h.trans (by norm_num)
    exact_mod_cast hcast
  have hgstPart : |gstPart (commissionRates rule) (max 0 (rent price))| ≤ 21 * 10 ^ 10 + 1 := by
    have hshare := abs_share_le htaxable' hgst (by norm_num : |(0 : ℚ)| ≤ 10 ^ 8)
    rw [zero_mul, add_zero] at hshare
    have hcast : |(gstPart (commissionRates rule) (max 0 (rent price)) : ℚ)| ≤
        21 * 10 ^ 10 + 1 := (abs_round_le hshare).trans (by norm_num)
    exact_mod_cast hcast
  rw [confirmationShares_found]
  rw [abs_le] at htaxable hplatformPart hgstPart
  refine ⟨abs_le.mpr ?_, abs_le.mpr ?_⟩
  · constructor <;> dsimp only <;> omega
  · constructor <;> dsimp only <;> omega

theorem sharesFit_found_iff (price : QuotePrice) (rule : Option MarketplaceCommissionRule) :
    SharesFit price (confirmationShares price (commissionSplit price (.found rule))) ↔
      RatesFit price (commissionRates rule) := by
  have hpaid : rent price = price.totalPayable.paise - price.depositTotal.paise := rfl
  rw [confirmationShares_found]
  rcases le_total 0 (rent price) with hrent | hrent
  · rw [max_eq_right hrent]
    constructor
    · rintro ⟨hvendor, hdeposit, htax, hgst, hcovers⟩
      dsimp only at hvendor hgst hcovers
      have hle : price.taxTotal.paise ≤ platformPart (commissionRates rule) (rent price) := by
        omega
      have hbelow := round_lt_iff.mp (show gstPart (commissionRates rule) (rent price) <
        price.taxTotal.paise + 1 by omega)
      refine ⟨hdeposit, htax, le_round_iff.mp hgst.ge, ?_, le_round_iff.mp hle,
        round_lt_iff.mp (sub_pos.mp hvendor)⟩
      push_cast at hbelow
      linarith
    · rintro ⟨hdeposit, htax, hge, hlt, hcovers, hleaves⟩
      have hgst : gstPart (commissionRates rule) (rent price) = price.taxTotal.paise := by
        refine le_antisymm (Int.lt_add_one_iff.mp (round_lt_iff.mpr ?_)) (le_round_iff.mpr hge)
        push_cast
        linarith
      have hplatform : price.taxTotal.paise ≤ platformPart (commissionRates rule) (rent price) :=
        le_round_iff.mpr hcovers
      have hvendor : platformPart (commissionRates rule) (rent price) < rent price :=
        round_lt_iff.mpr hleaves
      refine ⟨sub_pos.mpr hvendor, hdeposit, htax, hgst, ?_⟩
      dsimp only
      omega
  · -- without a rent there is nothing to share
    rw [max_eq_left hrent]
    refine iff_of_false ?_ ?_
    · rintro ⟨hvendor, -, htax, hgst, hcovers⟩
      dsimp only at hvendor hgst hcovers
      omega
    · rintro ⟨-, htax, -, -, hcovers, hleaves⟩
      have hlt : (price.taxTotal.paise : ℚ) < rent price := by linarith
      have hlt' : price.taxTotal.paise < rent price := by exact_mod_cast hlt
      omega

theorem sharesFit_failed_iff (price : QuotePrice) :
    SharesFit price (confirmationShares price (commissionSplit price .failed)) ↔
      PaymentCovers price :=
  ⟨fun h => ⟨h.vendor, h.deposit, h.tax, h.covers⟩,
    fun h => ⟨h.vendor, h.deposit, h.tax, rfl, h.covers⟩⟩

theorem fit_failed (price : QuotePrice) :
    (confirmationShares price (commissionSplit price .failed)).Fit :=
  ⟨price.netToVendor.inRange.le.trans (by norm_num), price.taxTotal.inRange.le.trans (by norm_num)⟩

end Split

/-! ## The law -/

def sampleParties : ConfirmationParties := ⟨"booking", "vendor", "customer", some "razorpay"⟩

/-- A rent of 1,000.00 with its tax and a deposit of 5,000.00. -/
def pricingWithTax (taxTotal : Decimal) : ResolvedPricing where
  subtotal := 1000
  discountTotal := 0
  feesTotal := 0
  taxTotal
  depositTotal := 5000
  netToVendor := 850
  platformFee := 0

def sampleRule : MarketplaceCommissionRule where
  platformPct := ⟨2500, by decide⟩
  vendorPct := ⟨7000, by decide⟩
  branchPct := ⟨500, by decide⟩
  fixedPlatformFee := ⟨1500, by decide⟩
  gatewayFeeRecovery := ⟨200, by decide⟩
  taxGstPct := ⟨2000, by decide⟩

end CarRental.Marketplace
