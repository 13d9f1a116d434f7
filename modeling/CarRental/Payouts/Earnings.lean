import CarRental.Lib.Totals
import CarRental.Lib.Runs
import CarRental.Payouts.PayoutJournal

/-!
# Earnings and payout requests

`getVendorEarningsSummary` tells a vendor what can be paid out; `requestPayout` decides
what is.  Both add up the vendor's completed bookings, adjustments and payouts, each
with filters of its own.

A request is checked in two parts: some checks first, and the rest in a transaction
that holds a lock on the vendor's row.  Between the two, other requests may come in, so
the state keeps the requests in flight.

Sums are in paise.  A requested amount is any decimal; what is stored is rounded to two
decimals.
-/

namespace CarRental

open Totals Rounding

/-! ## The rows -/

/-- The fields of a booking that its vendor's earnings are computed from.  Times are in
milliseconds. -/
structure VendorBooking where
  vendorId : Id
  status : BookingStatus
  paymentStatus : Option PaymentStatus
  netToVendor : Money
  disputeFlag : Bool
  damageClaims : List DamageClaimStatus
  createdAt : ℤ
  updatedAt : ℤ
deriving DecidableEq

inductive AdjustmentTarget where
  | vendor
  | customerWallet
  | booking
  | securityDeposit
deriving DecidableEq, Repr

structure FinancialAdjustment where
  targetType : AdjustmentTarget
  targetId : Id
  amount : Money
  direction : LedgerDirection
deriving DecidableEq

structure PayoutRow where
  vendorId : Id
  amount : Money
  status : PayoutStatus
  idempotencyKey : Option String
  initiatedByUserId : Option Id
  createdAt : ℤ
deriving DecidableEq

/-- Amounts in rupees.  A limit of zero is no limit, and without a configuration all of
them are zero. -/
structure PayoutConfig where
  minPayoutAmount : Decimal
  maxSinglePayoutAmount : Decimal
  dailyVendorPayoutCap : Decimal
  settlementHoldDays : ℤ
deriving DecidableEq

/-- The present and what the server's calendar derives from it. -/
structure Clock where
  now : ℤ
  todayStart : ℤ
  thisMonthStart : ℤ
  lastMonthStart : ℤ
  lastMonthEnd : ℤ
deriving DecidableEq

structure RequestPayoutDto where
  vendorId : Id
  amount : Decimal
  idempotencyKey : Option String
  initiatedByUserId : Option Id
deriving DecidableEq

structure VendorBooks where
  vendors : List Id
  bookings : List VendorBooking
  adjustments : List FinancialAdjustment
  payouts : List PayoutRow
  ledger : Ledger JournalKey
  config : PayoutConfig
  clock : Clock
  /-- Requests whose transaction has not run yet. -/
  inFlight : List RequestPayoutDto
deriving DecidableEq

def dayMillis : ℤ := 86400000

namespace VendorBooking

variable (vendorId : Id) (b : VendorBooking)

/-- Completed, with its payment `PAID`. -/
def earns : Bool :=
  b.vendorId = vendorId && b.status = .completed && b.paymentStatus = some .paid

def hasClaim (status : DamageClaimStatus) : Bool := b.damageClaims.contains status

/-- Flagged, or with a claim that is not decided yet: the filter of the summary. -/
def isDisputed : Bool := b.disputeFlag || b.hasClaim .submitted || b.hasClaim .underReview

/-- The filter of a request.  It looks for claims in status `OPEN`, which no claim has. -/
def isLocked : Bool := b.disputeFlag || b.hasClaim .underReview

end VendorBooking

namespace VendorBooks

variable (s : VendorBooks) (vendorId : Id)

def bookingTotal (p : VendorBooking → Bool) : ℤ :=
  total p (fun b => b.netToVendor.paise) s.bookings

def payoutTotal (p : PayoutRow → Bool) : ℤ :=
  total (fun row => row.vendorId = vendorId && p row) (fun row => row.amount.paise) s.payouts

/-- Credits less debits of the adjustments that `p` selects. -/
def adjustmentTotal (p : FinancialAdjustment → Bool) : ℤ :=
  total (fun a => p a && a.direction = .credit) (fun a => a.amount.paise) s.adjustments -
    total (fun a => p a && a.direction = .debit) (fun a => a.amount.paise) s.adjustments

end VendorBooks

def PayoutStatus.isReserved : PayoutStatus → Bool
  | .pending | .approved | .processing => true
  | _ => false

/-- Neither rejected, failed nor reversed. -/
def PayoutStatus.countsToday : PayoutStatus → Bool
  | .rejected | .failed | .reversed => false
  | _ => true

/-! ## The summary -/

structure EarningsSummary where
  totalEarnings : ℤ
  heldEarnings : ℤ
  totalPaid : ℤ
  totalPending : ℤ
  netAdjustments : ℤ
  availableBalance : ℤ
  outstandingBalance : ℤ
  thisMonthEarnings : ℤ
  lastMonthEarnings : ℤ
  ledgerPayableBalance : Decimal
deriving DecidableEq

/-- Without a hold window the cutoff is the epoch. -/
def holdCutoff (s : VendorBooks) : ℤ :=
  if 0 < s.config.settlementHoldDays then
    s.clock.now - s.config.settlementHoldDays * dayMillis
  else 0

def getVendorEarningsSummary (s : VendorBooks) (vendorId : Id) : Except HttpError EarningsSummary :=
  if vendorId ∉ s.vendors then .error (.notFound "Vendor not found.")
  else
    let totalEarnings := s.bookingTotal fun b => b.earns vendorId && !b.isDisputed
    let heldEarnings := s.bookingTotal fun b =>
      b.earns vendorId && !b.isDisputed && holdCutoff s < b.updatedAt
    let totalPaid := s.payoutTotal vendorId fun row => row.status = .paid
    let totalPending := s.payoutTotal vendorId fun row => row.status.isReserved
    let netAdjustments := s.adjustmentTotal fun a =>
      a.targetType = .vendor && a.targetId = vendorId
    let grossEarnedWithAdj := totalEarnings + netAdjustments
    let availableBalance := grossEarnedWithAdj - heldEarnings - totalPaid - totalPending
    let outstandingBalance := grossEarnedWithAdj - totalPaid
    .ok
      { totalEarnings
        heldEarnings
        totalPaid
        totalPending
        netAdjustments
        availableBalance := max 0 availableBalance
        outstandingBalance := max 0 outstandingBalance
        thisMonthEarnings := s.bookingTotal fun b =>
          b.earns vendorId && s.clock.thisMonthStart ≤ b.createdAt
        lastMonthEarnings := s.bookingTotal fun b =>
          b.earns vendorId && s.clock.lastMonthStart ≤ b.createdAt &&
            b.createdAt ≤ s.clock.lastMonthEnd
        ledgerPayableBalance := getVendorPayableBalance s.ledger vendorId }

/-! ## A request -/

def findPayout (s : VendorBooks) (idempotencyKey : String) : Option PayoutRow :=
  s.payouts.find? fun row => row.idempotencyKey = some idempotencyKey

/-- The checks before the transaction, and the payout that an earlier request with the
same key has made. -/
def checkPayoutRequest (s : VendorBooks) (dto : RequestPayoutDto) :
    Except HttpError (Option PayoutRow) :=
  if dto.amount ≤ 0 then .error (.badRequest "Payout amount must be greater than zero.")
  else
    match (dto.idempotencyKey.filter (· ≠ "")).bind (findPayout s) with
    | some existing => .ok (some existing)
    | none =>
      if s.config.minPayoutAmount ≠ 0 ∧ dto.amount < s.config.minPayoutAmount then
        .error (.badRequest "Minimum payout amount.")
      else if s.config.maxSinglePayoutAmount ≠ 0 ∧ s.config.maxSinglePayoutAmount < dto.amount then
        .error (.badRequest "Maximum single payout amount.")
      else .ok none

def todaySum (s : VendorBooks) (vendorId : Id) : ℤ :=
  s.payoutTotal vendorId fun row => s.clock.todayStart ≤ row.createdAt && row.status.countsToday

/-- Settled, as a request sees it: without a hold window every booking is. -/
def isSettled (s : VendorBooks) (b : VendorBooking) : Bool :=
  s.config.settlementHoldDays ≤ 0 ||
    b.updatedAt ≤ s.clock.now - s.config.settlementHoldDays * dayMillis

/-- What a request may take at most. -/
def requestAvailable (s : VendorBooks) (vendorId : Id) : ℤ :=
  let totalSettledEarned := s.bookingTotal fun b =>
    b.earns vendorId && !b.isLocked && isSettled s b
  let netAdjustments := s.adjustmentTotal fun a => a.targetId = vendorId
  let totalPaidAmount := s.payoutTotal vendorId fun row => row.status = .paid
  let totalReservedAmount := s.payoutTotal vendorId fun row => row.status.isReserved
  totalSettledEarned + netAdjustments - totalPaidAmount - totalReservedAmount

def payoutTransaction (s : VendorBooks) (dto : RequestPayoutDto) :
    Except HttpError (VendorBooks × PayoutRow) :=
  if dto.vendorId ∉ s.vendors then .error (.notFound "Vendor not found")
  else if s.config.dailyVendorPayoutCap ≠ 0 ∧
      s.config.dailyVendorPayoutCap < todaySum s dto.vendorId / 100 + dto.amount then
    .error (.badRequest "Daily payout limit exceeded.")
  -- compared before the amount is rounded to its column
  else if (requestAvailable s dto.vendorId : Decimal) / 100 < dto.amount then
    .error (.badRequest "Requested payout amount exceeds vendor's available balance.")
  else
    match Column.ofDecimal? dto.amount with
    | none => .error (.internal "numeric field overflow")
    | some amount =>
      -- the key is unique among all payouts
      if (dto.idempotencyKey.bind (findPayout s)).isSome then
        .error (.internal "Unique constraint failed")
      else
        let payout : PayoutRow :=
          { vendorId := dto.vendorId
            amount
            status := .pending
            idempotencyKey := dto.idempotencyKey
            initiatedByUserId := dto.initiatedByUserId
            createdAt := s.clock.now }
        .ok ({ s with payouts := s.payouts ++ [payout] }, payout)

/-- A request with nothing in between. -/
def requestPayout (s : VendorBooks) (dto : RequestPayoutDto) :
    VendorBooks × Except HttpError PayoutRow :=
  match checkPayoutRequest s dto with
  | .error e => (s, .error e)
  | .ok (some existing) => (s, .ok existing)
  | .ok none =>
    match payoutTransaction s dto with
    | .error e => (s, .error e)
    | .ok (s', payout) => (s', .ok payout)

/-! ## Interleavings -/

inductive RequestAction where
  /-- A request comes in and is checked. -/
  | receive (dto : RequestPayoutDto)
  /-- The transaction of a request in flight runs. -/
  | transact (index : ℕ)
  /-- Time passes. -/
  | wait (clock : Clock)
deriving DecidableEq

def requestStep (s : VendorBooks) : RequestAction → VendorBooks
  | .receive dto =>
    match checkPayoutRequest s dto with
    | .ok none => { s with inFlight := s.inFlight ++ [dto] }
    | _ => s
  | .transact index =>
    match s.inFlight[index]? with
    | none => s
    | some dto =>
      let s' := { s with inFlight := s.inFlight.eraseIdx index }
      match payoutTransaction s' dto with
      | .ok (s'', _) => s''
      | .error _ => s'
  | .wait clock => if s.clock.now ≤ clock.now then { s with clock } else s

end CarRental
