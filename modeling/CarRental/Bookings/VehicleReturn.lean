import CarRental.Payments.State
import Mathlib.Algebra.Order.Round

/-!
# Returning a car

`RentalOperationsService.executeReturn`: the charges of a return, and what it does with the
deposit.  The deposit is settled in its row alone; neither `DepositsService` nor the
payment service takes part.

Amounts that the service computes as numbers are exact decimals here.  Whether the OTP is
found, and whether the booking can be completed afterwards, are arguments.
-/

namespace CarRental

/-- What the return reads of the booking and its car.  Dates are milliseconds. -/
structure RentedTrip where
  startDate : ℤ
  endDate : ℤ
  includedKmTotal : Option ℤ
  extraKmRate : Option Money
  pricePerKm : Money
  pricePerHour : Money
  /-- Odometer and fuel of the inspection at pickup. -/
  preTrip : Option (Decimal × ℤ)
deriving DecidableEq

structure ReturnRequest where
  odometerReading : Decimal
  fuelPercent : Decimal
  handoverOtpCode : Option String
  damageEstimatedCost : Option Decimal
  skipOtpForAdmin : Bool
  isAdmin : Bool
  returnTime : ℤ
deriving DecidableEq

namespace RentedTrip

/-! ## Charges, in whole rupees -/

def startOdo (trip : RentedTrip) : Decimal := (trip.preTrip.map Prod.fst).getD 0

def startFuel (trip : RentedTrip) : ℤ := (trip.preTrip.map Prod.snd).getD 100

def durationDays (trip : RentedTrip) : ℤ :=
  max 1 ⌈((trip.endDate - trip.startDate : ℤ) : ℚ) / (1000 * 60 * 60 * 24)⌉

/-- The kilometres of the package, or 300 a day. -/
def includedKm (trip : RentedTrip) : ℤ :=
  match trip.includedKmTotal with
  | some km => if km = 0 then trip.durationDays * 300 else km
  | none => trip.durationDays * 300

def extraKmCharge (trip : RentedTrip) (odometerReading : Decimal) : ℤ :=
  let extraKm := max 0 (odometerReading - trip.startOdo - trip.includedKm)
  round (extraKm * (trip.extraKmRate.getD trip.pricePerKm).value)

/-- 15 rupees for each percent below the pickup level, from the sixth percent on. -/
def fuelCharge (trip : RentedTrip) (fuelPercent : Decimal) : ℤ :=
  let fuelDeficit := max 0 (trip.startFuel - fuelPercent)
  if 5 < fuelDeficit then round (fuelDeficit * 15) else 0

def gracePeriodMs : ℤ := 45 * 60 * 1000

/-- One and a half times the hourly rate for each hour begun, after the grace period. -/
def lateReturnCharge (trip : RentedTrip) (returnTime : ℤ) : ℤ :=
  if trip.endDate + gracePeriodMs < returnTime then
    let lateHours := ⌈((returnTime - trip.endDate : ℤ) : ℚ) / (1000 * 60 * 60)⌉
    round (lateHours * trip.pricePerHour.value * (3 / 2))
  else 0

def damageCharge (damageEstimatedCost : Option Decimal) : ℤ :=
  (damageEstimatedCost.map round).getD 0

def totalAdditionalCharges (trip : RentedTrip) (request : ReturnRequest) : ℤ :=
  trip.extraKmCharge request.odometerReading + trip.fuelCharge request.fuelPercent +
    trip.lateReturnCharge request.returnTime + damageCharge request.damageEstimatedCost

end RentedTrip

/-! ## The deposit -/

inductive ReturnDepositStatus where
  | fullRefund
  | partialRefund
  | forfeited
  | noDeposit
deriving DecidableEq

structure ReturnSettlementResult where
  totalAdditionalCharges : ℤ
  depositStatus : ReturnDepositStatus
  /-- In paise. -/
  depositRefundAmount : ℤ
deriving DecidableEq

/-- What the return writes into the row of a held deposit. -/
def settleAtReturn (deposit : SecurityDeposit) (totalAdditionalCharges : ℤ) :
    SecurityDeposit × ReturnDepositStatus × ℤ :=
  let amount := deposit.amount.paise
  if totalAdditionalCharges ≤ 0 then
    ({ deposit with status := .refunded, refundedAmount := amount }, .fullRefund, amount)
  -- the charges are whole rupees, the deposit is in paise
  else if 100 * totalAdditionalCharges < amount then
    ({ deposit with
        status := .partiallyRefunded
        deductedAmount := 100 * totalAdditionalCharges
        refundedAmount := amount - 100 * totalAdditionalCharges },
      .partialRefund, amount - 100 * totalAdditionalCharges)
  else ({ deposit with status := .forfeited, deductedAmount := amount }, .forfeited, 0)

def settleReturnDeposit (s : Checkout) (totalAdditionalCharges : ℤ) :
    Checkout × ReturnDepositStatus × ℤ :=
  match s.securityDeposit with
  | none => (s, .noDeposit, 0)
  | some deposit =>
    if deposit.status = .held then
      let (deposit', depositStatus, refundAmount) := settleAtReturn deposit totalAdditionalCharges
      ({ s with securityDeposit := some deposit' }, depositStatus, refundAmount)
    else (s, .noDeposit, 0)

def executeReturn (s : Checkout) (trip : RentedTrip) (request : ReturnRequest)
    (otpFound completes : Bool) : CheckoutReply ReturnSettlementResult :=
  let needsOtp := !request.skipOtpForAdmin || !request.isAdmin
  if s.booking.status ≠ .ongoing ∧ s.booking.status ≠ .returnPending then
    (s, .error (.badRequest
      "Cannot execute return for booking in its status. Must be ONGOING or RETURN_PENDING."))
  else if needsOtp ∧ (request.handoverOtpCode.all fun code => code = "") then
    (s, .error (.badRequest "Return OTP is required for digital return confirmation."))
  else if needsOtp ∧ !otpFound then
    (s, .error (.badRequest "Invalid or expired Return Handover OTP."))
  else if request.odometerReading < trip.startOdo then
    (s, .error (.badRequest "Return odometer reading cannot be lower than pickup reading."))
  else
    let charges := trip.totalAdditionalCharges request
    let (s₁, depositStatus, refundAmount) := settleReturnDeposit s charges
    -- the deposit is settled before the booking is completed
    if completes then
      ({ s₁ with booking := { s₁.booking with status := .completed } },
        .ok ⟨charges, depositStatus, refundAmount⟩)
    else (s₁, .error (.badRequest "Booking cannot be completed."))

end CarRental
