import CarRental.Lib.KeyedRows
import CarRental.Deposits.Custody

/-!
# Damage claims

`DamageClaimsService` for one booking and its deposit.

`createClaim` is one transaction, beside a unique index on the active claims of a booking.
`disputeClaim` reads and writes.  An adjudication reads the claim and then goes on in writes of its
own: a rejection writes the claim and releases the deposit, an approval settles the deposit and
writes the claim, and what it does with the deposit is again a read, a compare-and-swap and the end
of it with the refund's answer (`Stage`).  It can die before each of these.
-/

namespace CarRental.DamageClaims

open KeyedRows

structure Claim where
  id : Id
  claimedAmount : Money
  approvedAmount : Option Money
  status : DamageClaimStatus
  customerDispute : Option String
  adminNotes : Option String
deriving DecidableEq

inductive ClaimDecision where
  | approved
  | partiallyApproved
  | rejected
deriving DecidableEq, Repr

structure AdjudicateClaimDto where
  decision : ClaimDecision
  approvedAmount : Option Decimal
  adminNotes : String
deriving DecidableEq

/-- What the service reads of the booking. -/
structure ClaimedBooking where
  customerId : Id
  vendorUserId : Id
  status : BookingStatus
  protectionDeductible : Option Money
  /-- `protectionPackage.deductibleAmount` -/
  packageDeductible : Option Money
deriving DecidableEq

def ClaimedBooking.deductibleCeiling (booking : ClaimedBooking) : Option Money :=
  booking.protectionDeductible.or booking.packageDeductible

/-! ## Statuses -/

def statusName : DamageClaimStatus → String
  | .submitted => "SUBMITTED"
  | .underReview => "UNDER_REVIEW"
  | .approved => "APPROVED"
  | .partiallyApproved => "PARTIALLY_APPROVED"
  | .rejected => "REJECTED"
  | .settled => "SETTLED"

namespace Claim

/-- The customer may dispute it, and it may be adjudicated. -/
def isOpen (claim : Claim) : Bool :=
  claim.status = .submitted ∨ claim.status = .underReview

def isFinalized (claim : Claim) : Bool :=
  claim.status = .settled ∨ claim.status = .rejected ∨ claim.status = .approved ∨
    claim.status = .partiallyApproved

/-- It keeps others from being filed; the statuses of the index are the same. -/
def isActive (claim : Claim) : Bool :=
  claim.status ≠ .rejected ∧ claim.status ≠ .settled

theorem isActive_of_isOpen {claim : Claim} (h : claim.isOpen = true) : claim.isActive = true := by
  cases hstatus : claim.status <;> simp_all [isActive, isOpen]

end Claim

/-! ## Adjudications -/

/-- What an adjudication does next. -/
inductive Stage where
  /-- It writes the rejection. -/
  | rejecting
  /-- It reads the deposit to release it. -/
  | releasing
  /-- It reads the deposit to settle it. -/
  | settling
  /-- It claims the deposit it has read. -/
  | claiming (operation : DepositOperation)
  /-- It ends the release or settlement with the refund's answer. -/
  | refunding (operation : DepositOperation)
  /-- It writes the approval, with what it has settled. -/
  | recording (settled : Option DepositOperation)
deriving DecidableEq

structure Adjudication where
  /-- As it was read. -/
  claim : Claim
  dto : AdjudicateClaimDto
  stage : Stage
deriving DecidableEq

def Adjudication.approvedAmount (adj : Adjudication) : Decimal :=
  adj.dto.approvedAmount.getD 0

def Adjudication.targetStatus (adj : Adjudication) : DamageClaimStatus :=
  if adj.dto.decision = .partiallyApproved ∨ adj.approvedAmount < adj.claim.claimedAmount.value then
    .partiallyApproved
  else .approved

structure Dispute where
  claimId : Id
  customerDispute : String
deriving DecidableEq

/-- A release of the deposit after a rejection, with the other claims that were open. -/
structure Release where
  claimId : Id
  othersOpen : List Id
deriving DecidableEq

structure ClaimsOffice where
  booking : ClaimedBooking
  deposit : Option SecurityDeposit
  claims : List Claim
  disputes : List Dispute
  adjudications : List Adjudication
  /-- The claims whose adjudication has been written. -/
  decisions : List Id
  /-- What has been deducted from the deposit for a claim, in paise. -/
  deductions : List (Id × ℤ)
  releases : List Release
deriving DecidableEq

/-- What a settlement deducts. -/
def deduction (operation : DepositOperation) : Option ℤ :=
  match operation.call with
  | .release => none
  | .settle _ => some operation.deductedPaise

namespace ClaimsOffice

def claim? (s : ClaimsOffice) (claimId : Id) : Option Claim :=
  s.claims.find? (·.id = claimId)

/-- The deposit's desk, with nothing in flight. -/
def desk (s : ClaimsOffice) : DepositDesk := ⟨s.booking.status, s.deposit, [], false, 0⟩

/-- The unique index lets a claim be active. -/
def mayBeActive (s : ClaimsOffice) (claimId : Id) : Bool :=
  s.claims.all fun claim => claim.id = claimId ∨ claim.isActive = false

/-! ## Filing and disputing -/

/-- `createClaim`, with an amount that the DTO lets through. -/
def createClaim (s : ClaimsOffice) (newId requestingUserId : Id) (isAdmin : Bool)
    (claimedAmount : Decimal) : Except HttpError Claim :=
  if claimedAmount ≤ 0 then .error (.badRequest "claimedAmount must be a positive number")
  else if !isAdmin && s.booking.vendorUserId ≠ requestingUserId then
    .error (.forbidden
      "Access denied: Only the fleet owner or admin can file a damage claim.")
  else if s.booking.status ≠ .completed then
    .error (.badRequest "Damage claims can only be submitted for COMPLETED trips.")
  else if s.claims.any (·.isActive) then
    .error (.conflict "An active damage claim is already undergoing review for this booking.")
  else if (s.claim? newId).isSome then
    .error (.conflict
      "An active damage claim already exists for this booking (database constraint enforced).")
  else
    match Column.ofDecimal? claimedAmount with
    | none => .error (.internal "numeric field overflow")
    | some claimedAmount => .ok ⟨newId, claimedAmount, none, .submitted, none, none⟩

/-- `disputeClaim` up to its write. -/
def readDispute (s : ClaimsOffice) (claimId requestingUserId : Id) (customerDispute : String) :
    Except HttpError Dispute :=
  match s.claim? claimId with
  | none => .error (.notFound "Damage claim not found.")
  | some claim =>
    if s.booking.customerId ≠ requestingUserId then
      .error (.forbidden
        "Access denied: You can only dispute claims against your own bookings.")
    else if !claim.isOpen then
      .error (.badRequest ("Cannot dispute claim in status: " ++ statusName claim.status))
    else .ok ⟨claimId, customerDispute⟩

def writeDispute (s : ClaimsOffice) (dispute : Dispute) : ClaimsOffice :=
  if s.mayBeActive dispute.claimId then
    { s with
      claims := updateKey Claim.id dispute.claimId (fun claim => { claim with
        customerDispute := some dispute.customerDispute
        status := .underReview }) s.claims }
  else s

/-! ## Adjudicating -/

/-- `adjudicateClaim` up to its first write. -/
def readAdjudication (s : ClaimsOffice) (claimId : Id) (dto : AdjudicateClaimDto) :
    Except HttpError Adjudication :=
  match s.claim? claimId with
  | none => .error (.notFound "Damage claim not found.")
  | some claim =>
    if claim.isFinalized then
      .error (.conflict ("Claim is already finalized with status: " ++ statusName claim.status))
    else if dto.decision = .rejected then .ok ⟨claim, dto, .rejecting⟩
    else
      (DepositDesk.checkApprovedAmount (dto.approvedAmount.getD 0) claim.claimedAmount.value
        (s.booking.deductibleCeiling.map Column.value)).map fun _ => ⟨claim, dto, .settling⟩

def proceed (s : ClaimsOffice) (adj : Adjudication) (stage : Stage) : ClaimsOffice :=
  { s with adjudications := { adj with stage } :: s.adjudications }

def reject (s : ClaimsOffice) (adj : Adjudication) : ClaimsOffice :=
  { s with
    claims := updateKey Claim.id adj.claim.id (fun claim => { claim with
      status := .rejected
      adminNotes := some adj.dto.adminNotes }) s.claims
    decisions := s.decisions ++ [adj.claim.id] }

def openOthers (s : ClaimsOffice) (claimId : Id) : List Id :=
  (s.claims.filter fun claim => claim.id ≠ claimId ∧ claim.isOpen).map Claim.id

def newReleases (s : ClaimsOffice) (claimId : Id) (operation : DepositOperation) : List Release :=
  match operation.call with
  | .release => [⟨claimId, s.openOthers claimId⟩]
  | .settle _ => []

/-- The compare-and-swap of a release or settlement. -/
def claimDeposit (s : ClaimsOffice) (adj : Adjudication) (operation : DepositOperation) :
    ClaimsOffice :=
  match s.deposit with
  | none => s
  | some deposit =>
    if deposit.status = .held then
      { s with
        deposit := some (operation.claimRow deposit)
        deductions := s.deductions ++ (deduction operation).toList.map fun paise =>
          (adj.claim.id, paise)
        releases := s.releases ++ s.newReleases adj.claim.id operation
        adjudications := { adj with stage := .refunding operation } :: s.adjudications }
    else s

/-- The end of a release or settlement; a refund that throws undoes it. -/
def finishDeposit (s : ClaimsOffice) (adj : Adjudication) (operation : DepositOperation)
    (refunded : Option (Option GatewayRefundId)) : ClaimsOffice :=
  let deposit := (s.desk.finishOperation operation refunded).deposit
  match deduction operation with
  | none => { s with deposit }
  | some paise =>
    if operation.asksRefund ∧ refunded = none then
      { s with deposit, deductions := s.deductions.erase (adj.claim.id, paise) }
    else { s with deposit }.proceed adj (.recording (some operation))

def record (s : ClaimsOffice) (adj : Adjudication) : ClaimsOffice :=
  match Column.ofDecimal? adj.approvedAmount with
  | none => s
  | some approvedAmount =>
    if s.mayBeActive adj.claim.id then
      { s with
        claims := updateKey Claim.id adj.claim.id (fun claim => { claim with
          status := adj.targetStatus
          approvedAmount := some approvedAmount
          adminNotes := some adj.dto.adminNotes }) s.claims
        decisions := s.decisions ++ [adj.claim.id] }
    else s

/-- The next part of an adjudication; where nothing follows, it is over. -/
def advance (s : ClaimsOffice) (adj : Adjudication) (refunded : Option (Option GatewayRefundId)) :
    ClaimsOffice :=
  match adj.stage with
  | .rejecting => (s.reject adj).proceed adj .releasing
  | .releasing =>
    match s.desk.readRelease with
    | .ok (some operation) => s.proceed adj (.claiming operation)
    | _ => s
  | .settling =>
    match s.desk.readSettlement adj.approvedAmount with
    | some operation => s.proceed adj (.claiming operation)
    -- there is no deposit, or it is not held: the settlement is skipped
    | none => s.proceed adj (.recording none)
  | .claiming operation => s.claimDeposit adj operation
  | .refunding operation => s.finishDeposit adj operation refunded
  | .recording _ => s.record adj

def opened (booking : ClaimedBooking) (deposit : Option SecurityDeposit) : ClaimsOffice :=
  ⟨booking, deposit, [], [], [], [], [], []⟩

end ClaimsOffice

inductive ClaimAction where
  | createClaim (newId requestingUserId : Id) (isAdmin : Bool) (claimedAmount : Decimal)
  | readDispute (claimId requestingUserId : Id) (customerDispute : String)
  | writeDispute (dispute : Dispute)
  | adjudicate (claimId : Id) (dto : AdjudicateClaimDto)
  | advance (adj : Adjudication) (refunded : Option (Option GatewayRefundId))
  | crash (adj : Adjudication)
  /-- The booking goes on through its statuses. -/
  | setStatus (status : BookingStatus)
  /-- What anything else makes of the deposit. -/
  | setDeposit (deposit : Option SecurityDeposit)

def claimsStep (s : ClaimsOffice) : ClaimAction → ClaimsOffice
  | .createClaim newId requestingUserId isAdmin claimedAmount =>
    match s.createClaim newId requestingUserId isAdmin claimedAmount with
    | .ok claim => { s with claims := s.claims ++ [claim] }
    | .error _ => s
  | .readDispute claimId requestingUserId customerDispute =>
    match s.readDispute claimId requestingUserId customerDispute with
    | .ok dispute => { s with disputes := dispute :: s.disputes }
    | .error _ => s
  | .writeDispute dispute =>
    if dispute ∈ s.disputes then
      { s with disputes := s.disputes.erase dispute }.writeDispute dispute
    else s
  | .adjudicate claimId dto =>
    match s.readAdjudication claimId dto with
    | .ok adj => { s with adjudications := adj :: s.adjudications }
    | .error _ => s
  | .advance adj refunded =>
    if adj ∈ s.adjudications then
      { s with adjudications := s.adjudications.erase adj }.advance adj refunded
    else s
  | .crash adj => { s with adjudications := s.adjudications.erase adj }
  | .setStatus status => { s with booking := { s.booking with status } }
  | .setDeposit deposit => { s with deposit }

end CarRental.DamageClaims
