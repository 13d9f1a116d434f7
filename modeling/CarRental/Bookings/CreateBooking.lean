import Mathlib.Data.List.Sort
import CarRental.Payments.PaymentJournal

/-!
# The fare calculator

`FareCalculatorService.calculateFare`: distance and package price, a discount for
long rentals, the platform's commission and GST on the commission.  Every step is
decimal arithmetic; the results are rounded to two decimals one by one.
-/

namespace CarRental

open Rounding

structure DurationDiscount where
  minDays : ℕ
  discountPercent : Decimal

structure FareRequest where
  distanceKm : Decimal
  basePackagePrice : Decimal
  pricePerKm : Decimal
  commissionPercent : Decimal
  durationDays : ℕ
  weeklyDiscountPercent : Decimal
  monthlyDiscountPercent : Decimal
  gstRatePercent : Decimal
  durationDiscounts : List DurationDiscount

structure FareDetails where
  baseFare : Decimal
  originalBaseFare : Decimal
  discountAmount : Decimal
  discountPercent : Decimal
  platformFee : Decimal
  gst : Decimal
  total : Decimal
  netToVendor : Decimal
deriving DecidableEq

/-- The discount percentage of a rental of `durationDays` days: the longest tier
that applies, or else the monthly or weekly discount. -/
def durationDiscountPercent (request : FareRequest) : Decimal :=
  if request.durationDiscounts ≠ [] then
    let sortedTiers := request.durationDiscounts.mergeSort fun a b => b.minDays ≤ a.minDays
    match sortedTiers.find? fun tier => tier.minDays ≤ request.durationDays with
    | some tier => if 0 < tier.discountPercent then tier.discountPercent else 0
    | none => 0
  else if 30 ≤ request.durationDays ∧ 0 < request.monthlyDiscountPercent then
    request.monthlyDiscountPercent
  else if 7 ≤ request.durationDays ∧ 0 < request.weeklyDiscountPercent then
    request.weeklyDiscountPercent
  else 0

def calculateFare (request : FareRequest) : FareDetails :=
  let commPct := Decimal.div request.commissionPercent 100
  let initialBaseFare :=
    Decimal.add (Decimal.mul request.distanceKm request.pricePerKm) request.basePackagePrice
  let discountPct := durationDiscountPercent request
  let discountAmount :=
    if 0 < discountPct then Decimal.mul initialBaseFare (Decimal.div discountPct 100) else 0
  let baseFare :=
    if 0 < discountPct then Decimal.sub initialBaseFare discountAmount else initialBaseFare
  let platformFee := Decimal.mul baseFare commPct
  let effectiveGstRate := Decimal.div request.gstRatePercent 100
  let gst := Decimal.mul platformFee effectiveGstRate
  let total := Decimal.add (Decimal.add baseFare platformFee) gst
  { baseFare := toScale 2 baseFare
    originalBaseFare := toScale 2 initialBaseFare
    discountAmount := toScale 2 discountAmount
    discountPercent := discountPct
    platformFee := toScale 2 platformFee
    gst := toScale 2 gst
    total := toScale 2 total
    netToVendor := toScale 2 baseFare }

/-!
## The amounts of a new booking

`BookingsService.createBooking` prices a booking, or takes the prices of an
accepted quote, and writes them to the booking's columns and to its security
deposit.

The discount is taken from the customer's total but not from the vendor's share
or the tax, so it comes out of the platform's part.  Nothing bounds it by the
platform's part, and `payment_journal_accepted_iff` says that the journal of the
payment is accepted exactly as long as it does not exceed it.
-/

/-- The amounts that `createBooking` reads from an accepted quote. -/
structure PriceSnapshot where
  subtotal : Decimal
  platformFee : Decimal
  taxTotal : Decimal
  tripFare : Decimal
  netToVendor : Decimal
  discountTotal : Decimal
  depositTotal : Decimal
  totalPayable : Decimal

/-- What a new booking is priced from. -/
structure BookingRequest where
  bookingId : Id
  customerId : Id
  vendorId : Id
  fare : FareRequest
  deliveryFee : Decimal
  pickupFee : Decimal
  returnFee : Decimal
  oneWayFee : Decimal
  /-- The coupon's id, and its discount or that of a referral. -/
  couponId : Option Id
  discountAmount : Option Decimal
  protectionFee : Decimal
  depositId : Id
  depositAmount : Decimal
  acceptedQuote : Option PriceSnapshot
  corporateAccountId : Option Id

def deliveryAddons (request : BookingRequest) : Decimal :=
  Decimal.add (Decimal.add (Decimal.add request.deliveryFee request.pickupFee) request.returnFee)
    request.oneWayFee

/-- `finalTotalFare`: the discounted fare, the delivery fees and the protection fee. -/
def finalTotalFare (request : BookingRequest) : Decimal :=
  let total := (calculateFare request.fare).total
  let netPayable :=
    match request.discountAmount with
    | some discount => max 0 (total - discount) + deliveryAddons request
    | none => Decimal.add total (deliveryAddons request)
  Decimal.add netPayable request.protectionFee

/-! The prices of an accepted quote replace the computed ones. -/

def bookingPlatformFee (request : BookingRequest) : Decimal :=
  (request.acceptedQuote.map PriceSnapshot.platformFee).getD (calculateFare request.fare).platformFee

def bookingGst (request : BookingRequest) : Decimal :=
  (request.acceptedQuote.map PriceSnapshot.taxTotal).getD (calculateFare request.fare).gst

def bookingTotalFare (request : BookingRequest) : Decimal :=
  (request.acceptedQuote.map PriceSnapshot.tripFare).getD (finalTotalFare request)

def bookingNetToVendor (request : BookingRequest) : Decimal :=
  (request.acceptedQuote.map PriceSnapshot.netToVendor).getD
    (Decimal.add (calculateFare request.fare).netToVendor (deliveryAddons request))

def bookingDiscount (request : BookingRequest) : Option Decimal :=
  (request.acceptedQuote.map PriceSnapshot.discountTotal) <|> request.discountAmount

def bookingDeposit (request : BookingRequest) : Decimal :=
  (request.acceptedQuote.map PriceSnapshot.depositTotal).getD request.depositAmount

/-- The value of a nullable column; `none` when an amount does not fit it. -/
def nullableColumn? (amount : Option Decimal) : Option (Option Money) :=
  match amount with
  | some x => (Column.ofDecimal? x).map some
  | none => some none

/-- The rows that `createBooking` writes; `none` when an amount does not fit its column. -/
def createBooking (request : BookingRequest) : Option (Booking × SecurityDeposit) := do
  let platformFee ← Column.ofDecimal? (bookingPlatformFee request)
  let gstAmount ← Column.ofDecimal? (bookingGst request)
  let totalFare ← Column.ofDecimal? (bookingTotalFare request)
  let netToVendor ← Column.ofDecimal? (bookingNetToVendor request)
  let discountAmount ← nullableColumn? (bookingDiscount request)
  let depositAmount ← Column.ofDecimal? (bookingDeposit request)
  let quoteTotal ← nullableColumn? (request.acceptedQuote.map PriceSnapshot.totalPayable)
  return (
    { id := request.bookingId
      customerId := request.customerId
      vendorId := request.vendorId
      status := .pending
      totalFare
      platformFee
      gstAmount
      netToVendor
      couponId := request.couponId
      discountAmount
      quoteTotal
      corporateAccountId := request.corporateAccountId },
    { id := request.depositId
      amount := depositAmount
      deductedAmount := 0
      refundedAmount := 0
      status := .required
      razorpayPaymentId := none
      razorpayRefundId := none })

/-! ## The payment of a new booking -/

/-- Rounded to paise, the fare a request is priced at covers the vendor's share and
the tax: the vendor's share is positive, and the discount leaves the platform's
part nonnegative. -/
def RequestCovers (request : BookingRequest) : Prop :=
  0 < toScale 2 (bookingNetToVendor request) ∧
    toScale 2 (bookingNetToVendor request) + toScale 2 (bookingGst request) ≤
      toScale 2 (bookingTotalFare request) ∧
    0 ≤ toScale 2 (bookingGst request) ∧ 0 ≤ toScale 2 (bookingDeposit request)

instance (request : BookingRequest) : Decidable (RequestCovers request) :=
  inferInstanceAs (Decidable (_ ∧ _))

section Payment

variable {request : BookingRequest} {booking : Booking} {deposit : SecurityDeposit}

theorem createBooking_eq_some (h : createBooking request = some (booking, deposit)) :
    booking.totalFare.value = toScale 2 (bookingTotalFare request) ∧
      booking.netToVendor.value = toScale 2 (bookingNetToVendor request) ∧
      booking.gstAmount.value = toScale 2 (bookingGst request) ∧
      deposit.amount.value = toScale 2 (bookingDeposit request) := by
  simp only [createBooking, bind, Option.bind_eq_some_iff, pure, Option.some.injEq] at h
  obtain ⟨platformFee, -, gstAmount, hgst, totalFare, htotal, netToVendor, hnet, discountAmount, -,
    depositAmount, hdeposit, quoteTotal, -, heq⟩ := h
  cases heq
  exact ⟨Column.value_of_ofDecimal? htotal, Column.value_of_ofDecimal? hnet,
    Column.value_of_ofDecimal? hgst, Column.value_of_ofDecimal? hdeposit⟩

theorem fareCovers_iff_requestCovers (h : createBooking request = some (booking, deposit)) :
    FareCovers booking deposit.amount.paise ↔ RequestCovers request := by
  obtain ⟨htotal, hnet, hgst, hdeposit⟩ := createBooking_eq_some h
  have hsum : booking.netToVendor.value + booking.gstAmount.value ≤ booking.totalFare.value ↔
      booking.netToVendor.paise + booking.gstAmount.paise ≤ booking.totalFare.paise := by
    rw [Column.value, Column.value, Column.value, ← add_div,
      div_le_div_iff_of_pos_right (by norm_num)]
    exact_mod_cast Iff.rfl
  rw [RequestCovers, ← htotal, ← hnet, ← hgst, ← hdeposit, Column.value_pos_iff, hsum,
    Column.value_nonneg_iff, Column.value_nonneg_iff,
    FareCovers]

/-- **When the payment of a new booking can be booked.**  For every booking that
`createBooking` produces and every split of its payment between wallet and
gateway, the journal is accepted, with positive lines that credit the whole
captured amount, exactly when the fare covers the vendor's share and the tax. -/
theorem payment_journal_accepted_iff (hbooking : createBooking request = some (booking, deposit))
    (payment : Payment) (gatewayPaid walletRequired : ℤ) (isFullWalletOrder : Bool)
    (hgateway : 0 ≤ gatewayPaid) (hwallet : 0 ≤ walletRequired)
    (hsplit : gatewayPaid + walletRequired = booking.totalFare.paise + deposit.amount.paise)
    {ledger : Ledger JournalKey}
    (hfree : ∀ i, ledger.hasKey (.payVerify booking.id, i) = false) :
    let captured := booking.totalFare.paise + deposit.amount.paise
    let lines := paymentJournalLines booking payment deposit.amount.paise captured gatewayPaid
      walletRequired isFullWalletOrder
    (recordJournal ledger (paymentJournal booking payment deposit.amount.paise captured gatewayPaid
          walletRequired isFullWalletOrder)).isOk ∧
        (∀ line ∈ lines, 0 < line.paise) ∧ paiseTotal .debit lines = captured ∧
        paiseTotal .credit lines = captured ↔
      RequestCovers request := by
  intro captured lines
  rw [← fareCovers_iff_requestCovers hbooking]
  have haccepted := paymentJournal_isOk_iff payment isFullWalletOrder hfree hwallet hgateway
    hsplit rfl deposit.amount.inRange
  constructor
  · rintro ⟨hok, -⟩
    exact haccepted.mp hok
  · intro hcovers
    exact ⟨haccepted.mpr hcovers, paymentJournalLines_of_fareCovers payment isFullWalletOrder
      hwallet hgateway hsplit rfl hcovers⟩

/-- A rental of 1000.00 with a commission of 10%, GST of 18% on it and a deposit of
5000.00; the discount is the parameter. -/
def thousandRupeeRequest (discountAmount : Option Decimal) : BookingRequest where
  bookingId := "booking"
  customerId := "customer"
  vendorId := "vendor"
  fare := {
    distanceKm := 0, basePackagePrice := 1000, pricePerKm := 0, commissionPercent := 10
    durationDays := 1, weeklyDiscountPercent := 0, monthlyDiscountPercent := 0
    gstRatePercent := 18, durationDiscounts := [] }
  deliveryFee := 0
  pickupFee := 0
  returnFee := 0
  oneWayFee := 0
  couponId := some "coupon"
  discountAmount
  protectionFee := 0
  depositId := "deposit"
  depositAmount := 5000
  acceptedQuote := none
  corporateAccountId := none

/-- A discount of 50.00, paid with 1000.00 from the wallet. -/
theorem payment_journal_accepted_fifty :
    let row := (createBooking (thousandRupeeRequest (some 50))).get (by decide +kernel)
    let captured := row.1.totalFare.paise + row.2.amount.paise
    let lines := paymentJournalLines row.1 samplePayment row.2.amount.paise
      captured (captured - 100000) 100000 false
    (recordJournal Ledger.empty (paymentJournal row.1 samplePayment
          row.2.amount.paise captured (captured - 100000) 100000 false)).isOk ∧
      (∀ line ∈ lines, 0 < line.paise) ∧ paiseTotal .debit lines = captured ∧
      paiseTotal .credit lines = captured :=
  (payment_journal_accepted_iff (Option.some_get _).symm samplePayment _ _ false
    (by decide +kernel) (by decide) (by decide +kernel) (fun _ => rfl)).mpr (by decide +kernel)

/-- A discount of 200.00 on a commission of 100.00: the platform's line would be
-100.00, is left out, and the journal of the payment is refused. -/
theorem discounted_payment_refused :
    (createBooking (thousandRupeeRequest (some 200))).any fun row =>
      !(recordJournal Ledger.empty (paymentJournal row.1 samplePayment
        row.2.amount.paise (row.1.totalFare.paise + row.2.amount.paise)
        (row.1.totalFare.paise + row.2.amount.paise) 0 false)).isOk := by
  decide +kernel

end Payment

end CarRental
