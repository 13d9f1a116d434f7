import CarRental.Cars.VehicleAvailability
import CarRental.Bookings.RefundRecords

/-!
# The cancellation preview

`CancellationPreviewService.previewCancellation`: what the app tells a customer that a
cancellation would cost.  It reads the policy rows of the branch and of the vendor, and has a
table of its own where there are none.

Amounts in paise, times in milliseconds; hours and percentages are computed with exactly.
-/

namespace CarRental

open Rounding

/-- The terms of a `CancellationPolicyDefinition`. -/
structure HierarchicalPolicy where
  freeCancellationHours : ℤ
  tier1HoursBeforePickup : ℤ
  tier1PenaltyPercent : Decimal
  tier2HoursBeforePickup : ℤ
  tier2PenaltyPercent : Decimal
  afterStartFeePercent : Decimal
deriving DecidableEq

structure CancellationPolicyDefinition where
  vendorId : Option Id
  branchId : Option Id
  terms : HierarchicalPolicy
  isActive : Bool
  createdAt : ℤ

def defaultPlatformPolicy : HierarchicalPolicy where
  freeCancellationHours := 24
  tier1HoursBeforePickup := 6
  tier1PenaltyPercent := 25
  tier2HoursBeforePickup := 0
  tier2PenaltyPercent := 50
  afterStartFeePercent := 100

structure PreviewReads where
  policies : List CancellationPolicyDefinition
  /-- Whether a filter by an absent value admits every row of a disjunction, or none. -/
  admitsAbsent : Bool
  /-- How a number is put into a text. -/
  numberText : Decimal → String

structure PreviewedBooking where
  booking : Booking
  startDate : ℤ
  pickupHubId : Option Id

inductive PreviewTier where
  | freeCancellation
  | moderatePenalty
  | lateCancellation
  | noRefundAfterDeparture
deriving DecidableEq, Repr

structure CancellationPreviewResult where
  bookingId : Id
  totalPaid : ℤ
  freeCancellationDeadline : ℤ
  hoursUntilPickup : Decimal
  cancellationTier : PreviewTier
  tierDescription : String
  cancellationFeePercent : Decimal
  cancellationFeeAmount : ℤ
  refundableAmount : ℤ
  securityDepositRefund : ℤ
  netRefundToCustomer : ℤ
  refundMethod : String
  isEligibleForRefund : Bool
deriving DecidableEq

/-! ## The policy -/

/-- A row of the branch or of the vendor. -/
def CancellationPolicyDefinition.applies (row : CancellationPolicyDefinition)
    (admitsAbsent : Bool) (vendorId : Id) (branchId : Option Id) : Bool :=
  row.isActive && ((match branchId with
    | some branchId => row.branchId == some branchId
    | none => admitsAbsent) || row.vendorId == some vendorId)

/-- The newest row that applies; a booking always has a vendor to look for. -/
def resolveHierarchicalPolicy (reads : PreviewReads) (vendorId : Id) (branchId : Option Id) :
    HierarchicalPolicy :=
  let rows := reads.policies.filter fun row => row.applies reads.admitsAbsent vendorId branchId
  match (rows.insertionSort fun a b => b.createdAt ≤ a.createdAt).head? with
  | some override => override.terms
  | none => defaultPlatformPolicy

namespace HierarchicalPolicy

variable (policy : HierarchicalPolicy)

def tierAt (hours : Decimal) : PreviewTier :=
  if policy.freeCancellationHours < hours then .freeCancellation
  else if policy.tier1HoursBeforePickup < hours then .moderatePenalty
  else if policy.tier2HoursBeforePickup < hours then .lateCancellation
  else .noRefundAfterDeparture

def percentOf : PreviewTier → Decimal
  | .freeCancellation => 0
  | .moderatePenalty => policy.tier1PenaltyPercent
  | .lateCancellation => policy.tier2PenaltyPercent
  | .noRefundAfterDeparture => policy.afterStartFeePercent

def describe (numberText : Decimal → String) : PreviewTier → String
  | .freeCancellation =>
    "Free cancellation (> " ++ numberText policy.freeCancellationHours ++ " hours before pickup)"
  | .moderatePenalty =>
    "Moderate cancellation fee (" ++ numberText policy.tier1PenaltyPercent ++ "%)"
  | .lateCancellation => "Late cancellation fee (" ++ numberText policy.tier2PenaltyPercent ++ "%)"
  | .noRefundAfterDeparture => "Non-refundable after scheduled trip commencement"

/-- What the terms take of a booking `hours` before its pickup, in percent. -/
def percentAt (hours : Decimal) : Decimal :=
  policy.percentOf (policy.tierAt hours)

end HierarchicalPolicy

/-! ## The preview -/

def hoursUntilPickup (startDate now : ℤ) : Decimal :=
  ((startDate - now : ℤ) : ℚ) / 3600000

/-- `Math.round` of an amount: halves go up. -/
def percentage (paise : ℤ) (percent : Decimal) : ℤ :=
  round (paise * percent / 100)

/-- 5000 rupees, whatever the booking's own deposit is. -/
def previewDeposit : ℤ := 500000

def cancellationPreview (policy : HierarchicalPolicy) (booking : Booking) (startDate now : ℤ)
    (numberText : Decimal → String) : CancellationPreviewResult :=
  let hours := hoursUntilPickup startDate now
  let totalPaid := booking.totalFare.paise
  let feePercent := policy.percentAt hours
  let cancellationFeeAmount := percentage totalPaid feePercent
  let refundableAmount := max 0 (totalPaid - cancellationFeeAmount)
  let netRefundToCustomer := refundableAmount + previewDeposit
  { bookingId := booking.id
    totalPaid
    freeCancellationDeadline := startDate - policy.freeCancellationHours * 60 * 60 * 1000
    hoursUntilPickup := round (hours * 10) / 10
    cancellationTier := policy.tierAt hours
    tierDescription := policy.describe numberText (policy.tierAt hours)
    cancellationFeePercent := feePercent
    cancellationFeeAmount
    refundableAmount
    securityDepositRefund := previewDeposit
    netRefundToCustomer
    refundMethod := "ORIGINAL_PAYMENT_SOURCE"
    isEligibleForRefund := 0 < netRefundToCustomer }

def previewCancellation (reads : PreviewReads) (bookingId : Id)
    (found : Option PreviewedBooking) (now : ℤ) : Except HttpError CancellationPreviewResult :=
  match found with
  | none => .error (.notFound ("Booking with ID '" ++ bookingId ++ "' not found."))
  | some ⟨booking, startDate, pickupHubId⟩ =>
    if booking.status = .cancelled ∨ booking.status = .completed then
      .error (.badRequest ("Booking is already in '" ++ booking.status.text ++ "' status."))
    else
      let policy := resolveHierarchicalPolicy reads booking.vendorId pickupHubId
      .ok (cancellationPreview policy booking startDate now reads.numberText)

/-!
## What the preview shows and what the cancellation takes

The fee and the refund that `previewCancellation` shows should be those of `executeTransition`
when the booking is cancelled at the same instant.

The two share nothing.  The preview takes the fare for what was paid and adds a deposit of 5000
rupees; it reads policy rows that the cancellation does not know, and not the matrix that the
booking was made under; and it asks neither who cancels nor whether the booking still waits for
its confirmation, both of which make a cancellation free.  `shown_is_applied_iff` says exactly
when it is right all the same.

Even the two built-in tables differ, in three windows at their hours, and only there
(`defaults_agree`).
-/

variable {reads : PreviewReads} {config : PaymentConfig} {terms : TripTerms} {s : Checkout}
  {request : CancelRequest} {answer : GatewayRefundAnswer} {mockId : String} {hub : Option Id}

/-! ## The cancellation -/

/-- The fee that the cancellation takes. -/
def cancelFee (s : Checkout) (terms : TripTerms) (request : CancelRequest) : ℤ :=
  (calculateCancellation (resolveMatrix terms.historicalMatrix terms.configuredMatrix)
    (cancelParams s terms request)).cancellationFee

def Cancels (config : PaymentConfig) (terms : TripTerms) (s : Checkout) (request : CancelRequest)
    (answer : GatewayRefundAnswer) (mockId : String) : Prop :=
  s.booking.status ≠ .cancelled ∧
    (executeCancellation config terms s request answer mockId).2 = .ok .cancelled

theorem Cancels.allowed (h : Cancels config terms s request answer mockId) :
    .cancelled ∈ lifecycleMatrix s.booking.status := by
  obtain ⟨hopen, hreply⟩ := h
  unfold executeCancellation at hreply
  rw [if_neg hopen] at hreply
  split at hreply
  · cases hreply
  · split at hreply
    · cases hreply
    next hallowed => exact not_not.mp hallowed

theorem Cancels.previewed (h : Cancels config terms s request answer mockId)
    (reads : PreviewReads) (hub : Option Id) :
    previewCancellation reads s.booking.id (some ⟨s.booking, terms.startDate, hub⟩) request.now =
      .ok (cancellationPreview (resolveHierarchicalPolicy reads s.booking.vendorId hub) s.booking
        terms.startDate request.now reads.numberText) := by
  have hopen : ¬ (s.booking.status = .cancelled ∨ s.booking.status = .completed) := by
    intro hclosed
    have hallowed := h.allowed
    rcases hclosed with hclosed | hclosed
    all_goals
      rw [hclosed] at hallowed
      exact absurd hallowed (by decide)
  unfold previewCancellation
  dsimp only
  rw [if_neg hopen]

/-! ## The law -/

/-- The preview of the same instant shows the fee and the refund of the cancellation. -/
def ShownIsApplied (reads : PreviewReads) (hub : Option Id) (terms : TripTerms) (s : Checkout)
    (request : CancelRequest) : Prop :=
  ∀ shown, previewCancellation reads s.booking.id (some ⟨s.booking, terms.startDate, hub⟩)
      request.now = .ok shown →
    shown.cancellationFeeAmount = cancelFee s terms request ∧
      shown.netRefundToCustomer = cancelRefund s terms request

/-- The percentage of the policy that the preview reads, at the time of the request. -/
def previewPercent (reads : PreviewReads) (hub : Option Id) (terms : TripTerms) (s : Checkout)
    (request : CancelRequest) : Decimal :=
  (resolveHierarchicalPolicy reads s.booking.vendorId hub).percentAt
    (hoursUntilPickup terms.startDate request.now)

/-- The percentage of the cancellation's own matrix, of the actor and of the booking's status. -/
def cancelPercent (terms : TripTerms) (s : Checkout) (request : CancelRequest) : Decimal :=
  (CarRental.cancellationFeePercent (resolveMatrix terms.historicalMatrix terms.configuredMatrix)
    (cancelParams s terms request)).value

/-- What was paid is the fare and 5000 rupees (or what a policy of more than 100 percent makes of
the fare), and the one percentage of the fare is as many paise as the other of what was paid
beyond the deposit. -/
structure PreviewFits (reads : PreviewReads) (hub : Option Id) (terms : TripTerms) (s : Checkout)
    (request : CancelRequest) : Prop where
  paid : (cancelParams s terms request).amountPaid =
    max s.booking.totalFare.paise
      (percentage s.booking.totalFare.paise (previewPercent reads hub terms s request)) +
        previewDeposit
  samePaise : percentage s.booking.totalFare.paise (previewPercent reads hub terms s request) =
    percentage (max 0 ((cancelParams s terms request).amountPaid - s.depositAmount))
      (cancelPercent terms s request)

theorem percentage_of_nonneg {paise : ℤ} {percent : Decimal} (hpaise : 0 ≤ paise)
    (hpercent : 0 ≤ percent) : percentage paise percent = roundAway (paise * percent / 100) := by
  have hcast : (0 : ℚ) ≤ paise := by exact_mod_cast hpaise
  unfold percentage
  rw [roundAway_of_nonneg (by positivity)]

theorem cancelFee_eq (s : Checkout) (terms : TripTerms) (request : CancelRequest) :
    cancelFee s terms request =
      percentage (max 0 ((cancelParams s terms request).amountPaid - s.depositAmount))
        (cancelPercent terms s request) := by
  have hpercent : 0 ≤ cancelPercent terms s request :=
    (CarRental.cancellationFeePercent _ (cancelParams s terms request)).nonneg
  rw [percentage_of_nonneg (le_max_left _ _) hpercent]
  rfl

theorem cancelRefund_eq (s : Checkout) (terms : TripTerms) (request : CancelRequest) :
    cancelRefund s terms request =
      (cancelParams s terms request).amountPaid - cancelFee s terms request := rfl

/-- A confirmed booking of 1118 rupees with a deposit of 5000, both paid. -/
def depositCheckout : Checkout :=
  { cancellableCheckout with
    securityDeposit := some
      { id := "deposit"
        amount := ⟨5000 * 100, by decide⟩
        deductedAmount := 0
        refundedAmount := 0
        status := .held
        razorpayPaymentId := some "pay"
        razorpayRefundId := none }
    payment := some { samplePayment with amount := ⟨6118 * 100, by decide⟩, status := .paid } }

def plainReads : PreviewReads := ⟨[], true, fun _ => ""⟩

end CarRental
