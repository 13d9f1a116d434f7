import CarRental.Payments.Refund

/-!
# A deposit and the calls that work on it

`DepositsService` for one booking, with calls that overlap.  `holdDeposit` and
`recordCollateral` are one write.  A release or a settlement reads the row, claims it by
moving its status away from `HELD` if it is still there, asks for a refund, and then
either writes the refunded amount or puts the row back: three steps, between which others
may come (`DepositOperation`).  The answer of the refund is an argument.

The hourly job looks for eligible deposits in one step and releases in a later one.
`adjudicateClaim` is the caller of the settlement, and checks the amount.
-/

namespace CarRental

/-! ## Operations in flight -/

inductive DepositCall where
  | release
  | settle (deductAmount : Decimal)
deriving DecidableEq

/-- A release or settlement from the row it has read on. -/
structure DepositOperation where
  call : DepositCall
  deposit : SecurityDeposit
  /-- It has moved the status of the row. -/
  claimed : Bool
deriving DecidableEq

namespace DepositOperation

/-- What stays with the vendor: an earlier deduction, or the new one up to the amount. -/
def deducted (operation : DepositOperation) : Decimal :=
  match operation.call with
  | .release => operation.deposit.deductedAmount / 100
  | .settle deductAmount =>
    if operation.deposit.amount.value < deductAmount then operation.deposit.amount.value
    else deductAmount

/-- What goes back to the customer. -/
def remaining (operation : DepositOperation) : Decimal :=
  Decimal.sub operation.deposit.amount.value operation.deducted

/-- The two amounts as the columns hold them; neither exceeds the deposit, so they fit. -/
def deductedPaise (operation : DepositOperation) : ℤ :=
  Rounding.roundAway (operation.deducted * 100)

def refundedPaise (operation : DepositOperation) : ℤ :=
  Rounding.roundAway (operation.remaining * 100)

def targetStatus (operation : DepositOperation) : SecurityDepositStatus :=
  match operation.call with
  | .release =>
    if 0 < operation.deposit.deductedAmount then .partiallyRefunded else .refunded
  | .settle _ => if 0 < operation.remaining then .partiallyRefunded else .forfeited

/-- Whether a refund is asked for: collateral is handed back by hand, and a forfeited
deposit leaves nothing. -/
def asksRefund (operation : DepositOperation) : Bool :=
  match operation.call with
  | .release => !operation.deposit.isCollateral
  | .settle _ => 0 < operation.remaining

def claimRow (operation : DepositOperation) (deposit : SecurityDeposit) : SecurityDeposit :=
  match operation.call with
  | .release => { deposit with status := operation.targetStatus }
  | .settle _ => { deposit with
      status := operation.targetStatus, deductedAmount := operation.deductedPaise }

/-- The row as a failed refund leaves it, to be tried again. -/
def revertRow (operation : DepositOperation) (deposit : SecurityDeposit) : SecurityDeposit :=
  match operation.call with
  | .release => { deposit with status := .held }
  | .settle _ => { deposit with status := .held, deductedAmount := 0 }

def finishRow (operation : DepositOperation) (refundId : Option GatewayRefundId)
    (deposit : SecurityDeposit) : SecurityDeposit :=
  { deposit with
    refundedAmount := operation.refundedPaise
    razorpayRefundId := refundId <|> operation.deposit.razorpayRefundId }

end DepositOperation

/-! ## The desk -/

/-- The deposit of a booking and what works on it. -/
structure DepositDesk where
  bookingStatus : BookingStatus
  deposit : Option SecurityDeposit
  operations : List DepositOperation
  /-- The job has found the deposit eligible and has not released it yet. -/
  eligible : Bool
  /-- How many releases and settlements have succeeded. -/
  completed : ℕ
deriving DecidableEq

inductive CollateralType where
  | monetaryOnline
  | physicalVehicle
  | originalDocument
  | digilockerHighTrust
deriving DecidableEq

structure RecordCollateralDto where
  collateralType : CollateralType
  vehicleRegistrationNumber : Option String
  keysCollected : Bool
  documentType : Option String
  documentNumberMasked : Option String
  verifiedPhysically : Bool
deriving DecidableEq

namespace DepositDesk

/-! ## Holds -/

/-- The upsert of `holdDeposit`; without a payment id the row keeps the one it has. -/
def holdDeposit (desk : DepositDesk) (newId : Id) (amount : Decimal)
    (razorpayPaymentId : Option String) : DepositDesk × Except HttpError SecurityDeposit :=
  match Column.ofDecimal? amount with
  | none => (desk, .error (.internal "numeric field overflow"))
  | some amount =>
    let deposit := match desk.deposit with
      | none => ⟨newId, amount, 0, 0, .held, razorpayPaymentId, none⟩
      | some deposit => { deposit with
          amount
          razorpayPaymentId := razorpayPaymentId <|> deposit.razorpayPaymentId
          status := .held }
    ({ desk with deposit := some deposit }, .ok deposit)

def isBlank (text : Option String) : Bool := text.all fun text => text = ""

/-- The validation by collateral type. -/
def validateCollateral (dto : RecordCollateralDto) : Except HttpError Unit :=
  match dto.collateralType with
  | .physicalVehicle =>
    if isBlank dto.vehicleRegistrationNumber then
      .error (.badRequest
        "Vehicle registration number is mandatory for physical vehicle collateral.")
    else if !dto.keysCollected then
      .error (.badRequest
        "Physical vehicle keys must be confirmed collected by vendor yard staff.")
    else .ok ()
  | .originalDocument =>
    if isBlank dto.documentType ∨ isBlank dto.documentNumberMasked then
      .error (.badRequest
        "Document type and masked document number are mandatory for original document collateral.")
    else if !dto.verifiedPhysically then
      .error (.badRequest "Physical document must be verified in person by vendor staff.")
    else .ok ()
  | .monetaryOnline | .digilockerHighTrust => .ok ()

def collateralTag (dto : RecordCollateralDto) : String :=
  match dto.collateralType with
  | .physicalVehicle =>
    "COLLATERAL:PHYSICAL_VEHICLE:" ++ dto.vehicleRegistrationNumber.getD "undefined"
  | .originalDocument =>
    "COLLATERAL:ORIGINAL_DOCUMENT:" ++ dto.documentType.getD "undefined" ++ "_" ++
      dto.documentNumberMasked.getD "undefined"
  | .monetaryOnline => "COLLATERAL:MONETARY_ONLINE:DIGILOCKER_HIGH_TRUST"
  | .digilockerHighTrust => "COLLATERAL:DIGILOCKER_HIGH_TRUST:DIGILOCKER_HIGH_TRUST"

/-- 5000.00, for a booking without a deposit row. -/
def defaultCollateralAmount : Money := ⟨500000, by decide⟩

/-- `recordCollateral`: the booking's status is checked, the deposit's is not. -/
def recordCollateral (desk : DepositDesk) (newId : Id) (dto : RecordCollateralDto)
    (isAdminOrVendor : Bool) : DepositDesk × Except HttpError SecurityDeposit :=
  if !isAdminOrVendor then
    (desk, .error (.forbidden
      "Access denied: Only the booking vendor or admin can record customer collateral."))
  else if desk.bookingStatus ≠ .confirmed ∧ desk.bookingStatus ≠ .handoverReady then
    (desk, .error (.badRequest
      "Collateral can only be recorded for CONFIRMED or HANDOVER_READY bookings."))
  else
    match validateCollateral dto with
    | .error e => (desk, .error e)
    | .ok () =>
      let tag := some (collateralTag dto)
      let deposit := match desk.deposit with
        | none => ⟨newId, defaultCollateralAmount, 0, 0, .held, tag, none⟩
        | some deposit => { deposit with razorpayPaymentId := tag, status := .held }
      ({ desk with deposit := some deposit }, .ok deposit)

/-! ## Releases and settlements -/

/-- The reading part of `releaseDeposit`; without a row there is nothing to release. -/
def readRelease (desk : DepositDesk) : Except HttpError (Option DepositOperation) :=
  match desk.deposit with
  | none => .ok none
  | some deposit =>
    if deposit.status ≠ .held then
      .error (.conflict "Deposit cannot be released in its status.")
    else
      let operation : DepositOperation := ⟨.release, deposit, false⟩
      if operation.remaining ≤ 0 then
        .error (.badRequest "No remaining deposit balance available to refund.")
      else .ok (some operation)

/-- The reading part of `settleDeduction`; a deposit that is not held is skipped. -/
def readSettlement (desk : DepositDesk) (deductAmount : Decimal) : Option DepositOperation :=
  match desk.deposit with
  | none => none
  | some deposit =>
    if deposit.status ≠ .held then none else some ⟨.settle deductAmount, deposit, false⟩

/-- The checks of `adjudicateClaim` before it settles an approved claim. -/
def checkApprovedAmount (approvedAmount claimedAmount : Decimal)
    (deductibleCeiling : Option Decimal) : Except HttpError Unit :=
  if approvedAmount ≤ 0 then
    .error (.badRequest "Approved amount must be greater than zero for approved claims.")
  else if claimedAmount < approvedAmount then
    .error (.badRequest "Approved amount cannot exceed claimed amount.")
  else if deductibleCeiling.any (· < approvedAmount) then
    .error (.badRequest
      "Approved amount cannot exceed customer protection package deductible ceiling.")
  else .ok ()

def addOperation (desk : DepositDesk) (operation : Option DepositOperation) : DepositDesk :=
  { desk with operations := operation.toList ++ desk.operations }

/-- The compare-and-swap: the row is claimed if it is still held. -/
def claimDeposit (desk : DepositDesk) (operation : DepositOperation) : DepositDesk :=
  match desk.deposit with
  | none => desk
  | some deposit =>
    if deposit.status = .held then
      { desk with
        deposit := some (operation.claimRow deposit)
        operations := { operation with claimed := true } :: desk.operations }
    else desk

/-- The end of a claimed operation; `none` is a refund that threw. -/
def finishOperation (desk : DepositDesk) (operation : DepositOperation)
    (refunded : Option (Option GatewayRefundId)) : DepositDesk :=
  if operation.asksRefund then
    match refunded with
    | none => { desk with deposit := desk.deposit.map operation.revertRow }
    | some refundId => { desk with
        deposit := desk.deposit.map (operation.finishRow refundId)
        completed := desk.completed + 1 }
  else
    let refundId := match operation.call with
      | .release => some .collateralReleased
      | .settle _ => none
    { desk with
      deposit := desk.deposit.map (operation.finishRow refundId)
      completed := desk.completed + 1 }

/-- What `autoReleaseEligibleDeposits` looks for. -/
def isEligible (desk : DepositDesk) (completedADayAgo activeClaim : Bool) : Bool :=
  desk.deposit.any (fun deposit => deposit.status = .held) &&
    desk.bookingStatus = .completed && completedADayAgo && !activeClaim

/-! ## Steps -/

inductive Action where
  | holdDeposit (newId : Id) (amount : Decimal) (razorpayPaymentId : Option String)
  | recordCollateral (newId : Id) (dto : RecordCollateralDto) (isAdminOrVendor : Bool)
  | releaseDeposit
  | adjudicateClaim (approvedAmount claimedAmount : Decimal) (deductibleCeiling : Option Decimal)
  | findEligible (completedADayAgo activeClaim : Bool)
  | autoRelease
  /-- The compare-and-swap of an operation in flight. -/
  | claim (operation : DepositOperation)
  /-- The answer of the refund and the writes after it. -/
  | finish (operation : DepositOperation) (refunded : Option (Option GatewayRefundId))
  /-- The booking goes on through its statuses. -/
  | setStatus (status : BookingStatus)
deriving DecidableEq

def startRelease (desk : DepositDesk) : DepositDesk :=
  match desk.readRelease with
  | .ok operation => desk.addOperation operation
  | .error _ => desk

def step (desk : DepositDesk) : Action → DepositDesk
  | .holdDeposit newId amount razorpayPaymentId =>
    (desk.holdDeposit newId amount razorpayPaymentId).1
  | .recordCollateral newId dto isAdminOrVendor =>
    (desk.recordCollateral newId dto isAdminOrVendor).1
  | .releaseDeposit => desk.startRelease
  | .adjudicateClaim approvedAmount claimedAmount deductibleCeiling =>
    match checkApprovedAmount approvedAmount claimedAmount deductibleCeiling with
    | .ok () => desk.addOperation (desk.readSettlement approvedAmount)
    | .error _ => desk
  | .findEligible completedADayAgo activeClaim =>
    { desk with eligible := desk.isEligible completedADayAgo activeClaim }
  | .autoRelease =>
    if desk.eligible then { desk with eligible := false }.startRelease else desk
  | .claim operation =>
    if operation ∈ desk.operations ∧ operation.claimed = false then
      { desk with operations := desk.operations.erase operation }.claimDeposit operation
    else desk
  | .finish operation refunded =>
    if operation ∈ desk.operations ∧ operation.claimed = true then
      { desk with operations := desk.operations.erase operation }.finishOperation operation
        refunded
    else desk
  | .setStatus status => { desk with bookingStatus := status }

end DepositDesk

end CarRental
