import CarRental.Text
import CarRental.Vendors.SecurityDeposit
import CarRental.Bookings.RentalOperations
import CarRental.Cars.VehicleLifecycle

/-!
# Whether a vehicle may be active

`VehicleOperationsEligibilityService.evaluateEligibility`: eight rules, each with what it has against
the car.  One of them looks at the status that the car has now, as the transition matrix does too.

* `evaluateEligibility_eligible_iff`: a car is eligible if everything but its status is in order, and
  it is not in maintenance, suspended or retired.
-/

namespace CarRental

open Runs
open Vendors (VendorDepositStatus)

/-! ## What the rules read -/

inductive DocumentType where
  | rcBook
  | tradeLicense
  | insurance
deriving DecidableEq, Repr

def DocumentType.text : DocumentType → String
  | .rcBook => "RC_BOOK"
  | .tradeLicense => "TRADE_LICENSE"
  | .insurance => "INSURANCE"

inductive DocumentStatus where
  | pending
  | verified
  | rejected
deriving DecidableEq, Repr

structure VehicleDocument where
  type : DocumentType
  status : DocumentStatus
deriving DecidableEq

structure VendorDepositTerms where
  status : VendorDepositStatus
  remainingAmount : Money
deriving DecidableEq

/-- `fleet.operations.rules`, as far as it is read. -/
structure FleetOperationsRules where
  fleetActivationEnabled : Bool
  requireVendorVerified : Bool
  requireVendorSecurityDeposit : Bool
  requireServiceAreaAssignment : Bool
  requireVehicleVerification : Bool
  mandatoryVehicleDocuments : List String
deriving DecidableEq

/-- The rules where none can be loaded. -/
def defaultFleetOperationsRules : FleetOperationsRules where
  fleetActivationEnabled := true
  requireVendorVerified := true
  requireVendorSecurityDeposit := true
  requireServiceAreaAssignment := true
  requireVehicleVerification := true
  mandatoryVehicleDocuments := ["RC_BOOK", "INSURANCE"]

/-- What is read with the row of a car: its other columns, its vendor, its documents, and whether the
vendor's assignment to its service area is active, if there is one. -/
structure VehicleFile where
  vendorBusinessName : String
  vendorSecurityDeposit : Option VendorDepositTerms
  serviceAreaId : Option Id
  vendorAssignment : Option Bool
  rejectionReason : Option String
  maintenanceReason : Option String
  registrationNumber : String
  photos : List String
  pricePerDay : Money
  documents : List VehicleDocument
deriving DecidableEq

/-- What one evaluation reads: the configuration, if it can be loaded, the car and its file. -/
structure EligibilityRead where
  config : Option FleetOperationsRules
  car : Car
  file : VehicleFile

def EligibilityRead.rules (read : EligibilityRead) : FleetOperationsRules :=
  read.config.getD defaultFleetOperationsRules

/-! ## Texts -/

def VerificationStatus.text : VerificationStatus → String
  | .pending => "PENDING"
  | .verified => "VERIFIED"
  | .suspended => "SUSPENDED"

def vendorDepositStatusText : VendorDepositStatus → String
  | .required => "REQUIRED"
  | .notRequired => "NOT_REQUIRED"
  | .pending => "PENDING"
  | .paymentInitiated => "PAYMENT_INITIATED"
  | .partiallyPaid => "PARTIALLY_PAID"
  | .paid => "PAID"
  | .paymentFailed => "PAYMENT_FAILED"
  | .held => "HELD"
  | .released => "RELEASED"
  | .refundPending => "REFUND_PENDING"
  | .partiallyRefunded => "PARTIALLY_REFUNDED"
  | .refunded => "REFUNDED"
  | .forfeited => "FORFEITED"
  | .reviewRequired => "REVIEW_REQUIRED"

/-- An amount in rupees, without the zeros at its end. -/
def rupeesText (amount : Money) : String :=
  let paise := amount.paise.natAbs
  let fraction := paise % 100
  (if amount.paise < 0 then "-" else "") ++ toString (paise / 100) ++
    if fraction = 0 then ""
    else if fraction % 10 = 0 then "." ++ toString (fraction / 10)
    else "." ++ (if fraction < 10 then "0" else "") ++ toString fraction

/-! ## The rules -/

inductive BlockerSeverity where
  | blocker
  | warning
deriving DecidableEq, Repr

structure VehicleEligibilityBlocker where
  code : String
  message : String
  severity : BlockerSeverity
deriving DecidableEq

/-- A blocker with the action that is required of it. -/
structure EligibilityFinding where
  code : String
  message : String
  requiredAction : String
deriving DecidableEq

/-- What is pushed to `blockers`; all of them have the severity `BLOCKER`. -/
def EligibilityFinding.blocker (found : EligibilityFinding) : VehicleEligibilityBlocker :=
  ⟨found.code, found.message, .blocker⟩

/-- What is found where something is not in order. -/
def findUnless (inOrder : Prop) [Decidable inOrder] (found : EligibilityFinding) :
    List EligibilityFinding :=
  if inOrder then [] else [found]

namespace EligibilityRead

variable (read : EligibilityRead)

def checkActivation : List EligibilityFinding :=
  findUnless (read.rules.fleetActivationEnabled = true)
    { code := "PLATFORM_FLEET_ACTIVATION_DISABLED"
      message := "Platform administrator has temporarily disabled vehicle activations."
      requiredAction := "Await platform administration reenabling vehicle activations." }

def checkVendor : List EligibilityFinding :=
  if read.rules.requireVendorVerified then
    findUnless (read.car.vendorStatus = .verified)
      { code := "VENDOR_NOT_VERIFIED"
        message := s!"Vendor '{read.file.vendorBusinessName}' verification status is " ++
          s!"{read.car.vendorStatus.text}. Must be VERIFIED."
        requiredAction := "Complete vendor business onboarding verification with admin." }
  else []

def checkDepositTerms (deposit : VendorDepositTerms) : List EligibilityFinding :=
  if deposit.status = .required ∨ deposit.status = .pending ∨ deposit.status = .forfeited then
    [{  code := "VENDOR_DEPOSIT_UNPAID"
        message := s!"Vendor security deposit is in status '{vendorDepositStatusText deposit.status}'." ++
          " Required deposit must be settled."
        requiredAction := "Settle outstanding vendor security deposit." }]
  else
    findUnless (¬ (deposit.status = .partiallyPaid ∧ 0 < deposit.remainingAmount.paise))
      { code := "VENDOR_DEPOSIT_PARTIAL"
        message := "Vendor has unpaid security deposit balance of INR " ++
          s!"{rupeesText deposit.remainingAmount}."
        requiredAction := "Pay remaining vendor security deposit balance." }

def checkDeposit : List EligibilityFinding :=
  if read.rules.requireVendorSecurityDeposit then
    match read.file.vendorSecurityDeposit with
    | none =>
      [{  code := "VENDOR_DEPOSIT_MISSING"
          message := "Vendor has not initialized their required platform security deposit."
          requiredAction := "Pay or configure the mandatory vendor security deposit." }]
    | some deposit => checkDepositTerms deposit
  else []

def checkServiceArea : List EligibilityFinding :=
  if read.rules.requireServiceAreaAssignment then
    match given read.file.serviceAreaId with
    | none =>
      [{  code := "SERVICE_AREA_NOT_ASSIGNED"
          message := "Vehicle is not assigned to any operational service area."
          requiredAction := "Assign vehicle to an authorized operational service area." }]
    | some serviceAreaId =>
      findUnless (read.file.vendorAssignment = some true)
        { code := "SERVICE_AREA_NOT_AUTHORIZED"
          message := "Vendor is not authorized or active in assigned service area '" ++
            s!"{(given (read.car.serviceArea.map (·.name))).getD serviceAreaId}'."
          requiredAction :=
            "Obtain active vendor service area coverage from platform operations." } ++
      match read.car.serviceArea with
      | none => []
      | some area =>
        findUnless (area.status = .active)
          { code := "SERVICE_AREA_INACTIVE"
            message := s!"Assigned service area '{area.name}' is currently {area.status.text}."
            requiredAction := "Select an active service area." }
  else []

def checkVerification : List EligibilityFinding :=
  if read.rules.requireVehicleVerification then
    match read.car.verificationStatus with
    | .pending =>
      [{  code := "VEHICLE_VERIFICATION_PENDING"
          message := "Vehicle registration and documentation verification is pending review."
          requiredAction := "Submit vehicle for admin verification review." }]
    | .rejected =>
      [{  code := "VEHICLE_VERIFICATION_REJECTED"
          message := "Vehicle verification was rejected: " ++
            (given read.file.rejectionReason).getD "No reason provided."
          requiredAction := "Address rejection reason and resubmit vehicle for verification." }]
    | .verified => []
  else []

/-- Rule 6, on the status that the car has now. -/
def checkOperationalStatus : List EligibilityFinding :=
  match read.car.operationalStatus with
  | .maintenance =>
    [{  code := "VEHICLE_IN_MAINTENANCE"
        message := "Vehicle is currently under maintenance: " ++
          ((given read.file.maintenanceReason).getD "Routine maintenance" ++ ".")
        requiredAction :=
          "Complete scheduled maintenance before returning vehicle to active status." }]
  | .suspended =>
    [{  code := "VEHICLE_SUSPENDED"
        message := "Vehicle has been administratively suspended from operations."
        requiredAction := "Contact platform administration to lift administrative suspension." }]
  | .retired =>
    [{  code := "VEHICLE_RETIRED"
        message := "Vehicle is permanently retired and decommissioned from the fleet."
        requiredAction := "Retired vehicles cannot be reactivated." }]
  | .draft | .pendingVerification | .active | .inactive => []

def checkMetadata : List EligibilityFinding :=
  findUnless (trim read.file.registrationNumber ≠ "")
    { code := "MISSING_REGISTRATION_NUMBER"
      message := "Vehicle registration number is missing."
      requiredAction := "Provide a valid vehicle registration plate number." } ++
  findUnless (read.file.photos ≠ [])
    { code := "MISSING_PHOTOS"
      message := "Vehicle must have at least one photo."
      requiredAction := "Upload at least one exterior/interior photo of the vehicle." } ++
  findUnless (0 < read.file.pricePerDay.paise)
    { code := "INVALID_PRICING"
      message := "Vehicle daily pricing must be greater than zero."
      requiredAction := "Set a valid daily rental rate." }

def hasDocument (requiredDocType : String) : Bool :=
  read.file.documents.any fun d => d.type.text = requiredDocType ∧ d.status ≠ .rejected

def checkDocuments : List EligibilityFinding :=
  read.rules.mandatoryVehicleDocuments.flatMap fun requiredDocType =>
    findUnless (read.hasDocument requiredDocType = true)
      { code := "MISSING_DOCUMENT_" ++ requiredDocType
        message := s!"Mandatory vehicle document '{requiredDocType}' is missing or rejected."
        requiredAction := s!"Upload valid {requiredDocType} document." }

def findings : List EligibilityFinding :=
  read.checkActivation ++ read.checkVendor ++ read.checkDeposit ++ read.checkServiceArea ++
    read.checkVerification ++ read.checkOperationalStatus ++ read.checkMetadata ++
    read.checkDocuments

end EligibilityRead

structure VehicleEligibilityResult where
  eligible : Bool
  carId : Id
  operationalStatus : VehicleOperationalStatus
  verificationStatus : VehicleVerificationStatus
  blockers : List VehicleEligibilityBlocker
  requiredActions : List String
  serviceAreaId : Option Id
  serviceAreaName : Option String
  vendorId : Id
  vendorBusinessName : String
deriving DecidableEq

/-- `evaluateEligibility`, where no cached result is used. -/
def evaluateEligibility (read : EligibilityRead) : VehicleEligibilityResult :=
  let blockers := read.findings.map (·.blocker)
  { eligible := (blockers.filter (·.severity = .blocker)).length = 0
    carId := read.car.id
    operationalStatus := read.car.operationalStatus
    verificationStatus := read.car.verificationStatus
    blockers
    requiredActions := read.findings.map (·.requiredAction)
    serviceAreaId := read.file.serviceAreaId
    serviceAreaName := given (read.car.serviceArea.map (·.name))
    vendorId := read.car.vendorId
    vendorBusinessName := read.file.vendorBusinessName }

def VehicleEligibilityResult.blockerMessages (result : VehicleEligibilityResult) : String :=
  " | ".intercalate ((result.blockers.filter (·.severity = .blocker)).map (·.message))

/-! ## What it takes to be eligible -/

/-- Everything but the status of the car is in order. -/
structure OtherwiseEligible (read : EligibilityRead) : Prop where
  activation : read.rules.fleetActivationEnabled = true
  vendor : read.rules.requireVendorVerified = true → read.car.vendorStatus = .verified
  deposit : read.rules.requireVendorSecurityDeposit = true → ∃ deposit,
    read.file.vendorSecurityDeposit = some deposit ∧
      deposit.status ∉ [.required, .pending, .forfeited] ∧
      (deposit.status = .partiallyPaid → deposit.remainingAmount.paise ≤ 0)
  serviceArea : read.rules.requireServiceAreaAssignment = true →
    given read.file.serviceAreaId ≠ none ∧ read.file.vendorAssignment = some true ∧
      ∀ area, read.car.serviceArea = some area → area.status = .active
  verification : read.rules.requireVehicleVerification = true →
    read.car.verificationStatus = .verified
  registration : trim read.file.registrationNumber ≠ ""
  photos : read.file.photos ≠ []
  price : 0 < read.file.pricePerDay.paise
  documents : ∀ docType ∈ read.rules.mandatoryVehicleDocuments, read.hasDocument docType = true

/-- The statuses that rule 6 blocks. -/
def VehicleOperationalStatus.isBlocked : VehicleOperationalStatus → Bool
  | .maintenance | .suspended | .retired => true
  | .draft | .pendingVerification | .active | .inactive => false

section Rules

variable {read : EligibilityRead}

@[simp] theorem findUnless_eq_nil_iff {inOrder : Prop} [Decidable inOrder]
    {found : EligibilityFinding} : findUnless inOrder found = [] ↔ inOrder := by
  unfold findUnless
  split
  next h => exact iff_of_true rfl h
  next h => exact iff_of_false (List.cons_ne_nil found []) h

theorem checkDeposit_eq_nil_iff : read.checkDeposit = [] ↔
    (read.rules.requireVendorSecurityDeposit = true → ∃ deposit,
      read.file.vendorSecurityDeposit = some deposit ∧
        deposit.status ∉ [.required, .pending, .forfeited] ∧
        (deposit.status = .partiallyPaid → deposit.remainingAmount.paise ≤ 0)) := by
  unfold EligibilityRead.checkDeposit
  by_cases hrequired : read.rules.requireVendorSecurityDeposit = true
  · rw [if_pos hrequired]
    simp only [hrequired, true_implies]
    cases hdeposit : read.file.vendorSecurityDeposit with
    | none =>
      refine iff_of_false (List.cons_ne_nil _ _) ?_
      rintro ⟨deposit, hsome, -⟩
      cases hsome
    | some deposit =>
      simp only [Option.some.injEq, exists_eq_left']
      unfold EligibilityRead.checkDepositTerms
      by_cases hunpaid : deposit.status = .required ∨ deposit.status = .pending ∨
          deposit.status = .forfeited
      · rw [if_pos hunpaid]
        refine iff_of_false (List.cons_ne_nil _ _) fun h => h.1 ?_
        simpa using hunpaid
      · rw [if_neg hunpaid, findUnless_eq_nil_iff]
        simp only [not_and, not_lt, List.mem_cons, List.not_mem_nil, or_false, hunpaid,
          not_false_eq_true, true_and]
  · rw [if_neg hrequired]
    exact iff_of_true rfl fun h => absurd h hrequired

theorem checkServiceArea_eq_nil_iff : read.checkServiceArea = [] ↔
    (read.rules.requireServiceAreaAssignment = true →
      given read.file.serviceAreaId ≠ none ∧ read.file.vendorAssignment = some true ∧
        ∀ area, read.car.serviceArea = some area → area.status = .active) := by
  unfold EligibilityRead.checkServiceArea
  by_cases hrequired : read.rules.requireServiceAreaAssignment = true
  · rw [if_pos hrequired]
    simp only [hrequired, true_implies]
    cases harea : given read.file.serviceAreaId with
    | none => exact iff_of_false (List.cons_ne_nil _ _) fun h => h.1 rfl
    | some serviceAreaId =>
      dsimp only
      rw [List.append_eq_nil_iff, findUnless_eq_nil_iff]
      cases hrow : read.car.serviceArea with
      | none => simp
      | some area =>
        dsimp only
        rw [findUnless_eq_nil_iff]
        simp
  · rw [if_neg hrequired]
    exact iff_of_true rfl fun h => absurd h hrequired

theorem checkVerification_eq_nil_iff : read.checkVerification = [] ↔
    (read.rules.requireVehicleVerification = true → read.car.verificationStatus = .verified) := by
  unfold EligibilityRead.checkVerification
  by_cases hrequired : read.rules.requireVehicleVerification = true
  · rw [if_pos hrequired]
    simp only [hrequired, true_implies]
    cases read.car.verificationStatus with
    | pending => exact iff_of_false (List.cons_ne_nil _ _) nofun
    | rejected => exact iff_of_false (List.cons_ne_nil _ _) nofun
    | verified => exact iff_of_true rfl rfl
  · rw [if_neg hrequired]
    exact iff_of_true rfl fun h => absurd h hrequired

theorem checkVendor_eq_nil_iff : read.checkVendor = [] ↔
    (read.rules.requireVendorVerified = true → read.car.vendorStatus = .verified) := by
  unfold EligibilityRead.checkVendor
  by_cases hrequired : read.rules.requireVendorVerified = true
  · rw [if_pos hrequired, findUnless_eq_nil_iff]
    simp only [hrequired, true_implies]
  · rw [if_neg hrequired]
    exact iff_of_true rfl fun h => absurd h hrequired

theorem checkOperationalStatus_eq_nil_iff : read.checkOperationalStatus = [] ↔
    read.car.operationalStatus.isBlocked = false := by
  unfold EligibilityRead.checkOperationalStatus
  cases read.car.operationalStatus with
  | draft => exact iff_of_true rfl rfl
  | pendingVerification => exact iff_of_true rfl rfl
  | active => exact iff_of_true rfl rfl
  | inactive => exact iff_of_true rfl rfl
  | maintenance => exact iff_of_false (List.cons_ne_nil _ _) nofun
  | suspended => exact iff_of_false (List.cons_ne_nil _ _) nofun
  | retired => exact iff_of_false (List.cons_ne_nil _ _) nofun

theorem findings_eq_nil_iff : read.findings = [] ↔
    OtherwiseEligible read ∧ read.car.operationalStatus.isBlocked = false := by
  simp only [EligibilityRead.findings, List.append_eq_nil_iff, checkVendor_eq_nil_iff,
    checkDeposit_eq_nil_iff, checkServiceArea_eq_nil_iff, checkVerification_eq_nil_iff,
    checkOperationalStatus_eq_nil_iff, EligibilityRead.checkActivation,
    EligibilityRead.checkMetadata, EligibilityRead.checkDocuments, findUnless_eq_nil_iff,
    List.flatMap_eq_nil_iff]
  constructor
  · rintro ⟨⟨⟨⟨⟨⟨⟨h1, h2⟩, h3⟩, h4⟩, h5⟩, h6⟩, ⟨h7, h8⟩, h9⟩, h10⟩
    exact ⟨⟨h1, h2, h3, h4, h5, h7, h8, h9, h10⟩, h6⟩
  · rintro ⟨⟨h1, h2, h3, h4, h5, h7, h8, h9, h10⟩, h6⟩
    exact ⟨⟨⟨⟨⟨⟨⟨h1, h2⟩, h3⟩, h4⟩, h5⟩, h6⟩, ⟨h7, h8⟩, h9⟩, h10⟩

theorem evaluateEligibility_eligible_iff : (evaluateEligibility read).eligible = true ↔
    OtherwiseEligible read ∧ read.car.operationalStatus.isBlocked = false := by
  rw [← findings_eq_nil_iff]
  have hall : (read.findings.map (·.blocker)).filter (·.severity = .blocker) =
      read.findings.map (·.blocker) := by
    apply List.filter_eq_self.mpr
    intro blocker hblocker
    obtain ⟨found, -, rfl⟩ := List.mem_map.mp hblocker
    exact decide_eq_true rfl
  simp [evaluateEligibility, hall]

end Rules

/-!
## Which cars become active

`transitionStatus` with the evaluation that it asks for.  The matrix lets five statuses move to
ACTIVE, and the evaluation blocks two of them, whatever else is in order: out of MAINTENANCE and
SUSPENDED only a call that skips the evaluation leads to ACTIVE, or one to INACTIVE before.
-/

/-- A call of `transitionStatus`, with what it finds and what its evaluation reads. -/
structure StatusCall where
  bookingIds : List Id
  req : StatusRequest
  locked : Bool
  read : EligibilityRead

def StatusCall.env (call : StatusCall) : StatusEnv where
  locked := call.locked
  blockerMessages :=
    if (evaluateEligibility call.read).eligible then none
    else some (evaluateEligibility call.read).blockerMessages

def changeStatus (desk : RentalDesk) (call : StatusCall) : DeskReply Car :=
  transitionStatus desk call.bookingIds call.req call.env

/-- The actor may make the car active: it is theirs, or they are not a vendor, and the move is one
of theirs. -/
structure MayActivate (car : Car) (actor : LifecycleActor) : Prop where
  owner : ¬ (actor.role = .vendor ∧ actor.vendorId.any (· ≠ car.vendorId))
  authorised : checkStatusActor car.operationalStatus .active actor = .ok ()

def ActiveAfter (desk : RentalDesk) (call : StatusCall) : Prop :=
  ∃ car, (changeStatus desk call).1.cars call.req.carId = some car ∧
    car.operationalStatus = .active

theorem mayActivate_of_isAdmin (car : Car) {actor : LifecycleActor} (hadmin : actor.isAdmin = true) :
    MayActivate car actor := by
  have hrole : actor.role = .admin ∨ actor.role = .supportAgent := of_decide_eq_true hadmin
  constructor
  · rintro ⟨hvendor, -⟩
    rw [hvendor] at hrole
    rcases hrole with h | h <;> cases h
  · simp [checkStatusActor, hadmin]

section Call

variable {desk : RentalDesk} {call : StatusCall} {car : Car}

variable (desk) in
theorem checkOngoingRental_active (bookingIds : List Id) {req : StatusRequest}
    (htarget : req.targetStatus = .active) : checkOngoingRental desk bookingIds req = .ok () := by
  simp [checkOngoingRental, htarget]

theorem activeAfter_iff (hcar : desk.cars call.req.carId = some car)
    (htarget : call.req.targetStatus = .active) (hstatus : car.operationalStatus ≠ .active) :
    ActiveAfter desk call ↔
      call.locked = false ∧ MayActivate car call.req.actor ∧
        .active ∈ allowedTransitions car.operationalStatus ∧
        (call.req.skipEligibilityCheck = true ∨
          (evaluateEligibility call.read).eligible = true) := by
  have hstays : (changeStatus desk call).1 = desk → ¬ ActiveAfter desk call := by
    rintro hsame ⟨car', hcar', hactive⟩
    rw [hsame, hcar] at hcar'
    exact hstatus (Option.some_inj.mp hcar' ▸ hactive)
  by_cases hlocked : call.locked = true
  · refine iff_of_false (hstays ?_) fun h => by simp [hlocked] at h
    simp [changeStatus, transitionStatus, StatusCall.env, hlocked]
  by_cases howner : call.req.actor.role = .vendor ∧
      call.req.actor.vendorId.any (· ≠ car.vendorId)
  · refine iff_of_false (hstays ?_) fun h => h.2.1.owner howner
    simp only [changeStatus, transitionStatus, StatusCall.env, hlocked, hcar, if_pos howner]
    rfl
  by_cases hallowed : .active ∉ allowedTransitions car.operationalStatus
  · refine iff_of_false (hstays ?_) fun h => hallowed h.2.2.1
    simp only [changeStatus, transitionStatus, StatusCall.env, hlocked, hcar, if_neg howner,
      htarget, if_neg hstatus, if_pos hallowed]
    rfl
  have hongoing := checkOngoingRental_active desk call.bookingIds htarget
  cases hactor : checkStatusActor car.operationalStatus .active call.req.actor with
  | error e =>
    refine iff_of_false (hstays ?_) fun h => ?_
    · simp only [changeStatus, transitionStatus, StatusCall.env, hlocked, hcar, if_neg howner,
        htarget, if_neg hstatus, if_neg hallowed, hactor]
      rfl
    · rw [h.2.1.authorised] at hactor
      cases hactor
  | ok authorised =>
    have hmay : MayActivate car call.req.actor := ⟨howner, hactor⟩
    by_cases hpasses : call.req.skipEligibilityCheck = true ∨
        (evaluateEligibility call.read).eligible = true
    · refine iff_of_true ?_ ⟨by simpa using hlocked, hmay, not_not.mp hallowed, hpasses⟩
      refine ⟨{ car with operationalStatus := .active, isAvailable := true }, ?_, rfl⟩
      have hnone : call.env.blockerMessages.filter
          (fun _ => VehicleOperationalStatus.active = .active ∧
            !call.req.skipEligibilityCheck) = none := by
        rcases hpasses with hskip | heligible
        · simp [hskip]
        · simp [StatusCall.env, heligible]
      simp only [StatusCall.env] at hnone
      simp only [changeStatus, transitionStatus, StatusCall.env, hlocked, hcar, if_neg howner,
        htarget, if_neg hstatus, if_neg hallowed, hactor, hongoing, hnone]
      simp
    · refine iff_of_false (hstays ?_) fun h => hpasses h.2.2.2
      obtain ⟨hskip, heligible⟩ := not_or.mp hpasses
      simp only [changeStatus, transitionStatus, StatusCall.env, hlocked, hcar, if_neg howner,
        htarget, if_neg hstatus, if_neg hallowed, hactor, hongoing]
      simp [hskip, heligible, Option.filter_some]

theorem becomes_active {id : Id} {before after : Car} (hbefore : desk.cars id = some before)
    (hstatus : before.operationalStatus ≠ .active)
    (hafter : (changeStatus desk call).1.cars id = some after)
    (hactive : after.operationalStatus = .active) :
    id = call.req.carId ∧ call.req.targetStatus = .active := by
  have hcases := transitionStatus_cases desk call.bookingIds call.req call.env
  rw [← changeStatus] at hcases
  rcases hcases with hsame | ⟨car, hcar, -, hmoved⟩
  · rw [hsame, hbefore] at hafter
    exact absurd (Option.some_inj.mp hafter ▸ hactive) hstatus
  · rw [hmoved] at hafter
    dsimp only at hafter
    by_cases hid : id = call.req.carId
    · subst hid
      refine ⟨rfl, ?_⟩
      rw [Function.update_self] at hafter
      obtain rfl := Option.some_inj.mp hafter
      exact hactive
    · rw [Function.update_of_ne hid, hbefore] at hafter
      exact absurd (Option.some_inj.mp hafter ▸ hactive) hstatus

theorem retired_changeStatus {id : Id} (call : StatusCall) (hcar : desk.cars id = some car)
    (hretired : car.operationalStatus = .retired) :
    (changeStatus desk call).1.cars id = some car := by
  have hcases := transitionStatus_cases desk call.bookingIds call.req call.env
  rw [← changeStatus] at hcases
  rcases hcases with hsame | ⟨other, hother, hallowed, hmoved⟩
  · rw [hsame, hcar]
  · have hne : id ≠ call.req.carId := by
      rintro rfl
      obtain rfl := Option.some_inj.mp (hcar.symm.trans hother)
      simp [hretired, allowedTransitions] at hallowed
    rw [hmoved]
    exact (Function.update_of_ne hne _ _).trans hcar

end Call

theorem retired_run {desk : RentalDesk} {id : Id} {car : Car} (hcar : desk.cars id = some car)
    (hretired : car.operationalStatus = .retired) (calls : List StatusCall) :
    (run (fun desk call => (changeStatus desk call).1) desk calls).cars id = some car :=
  Along.invariant (P := fun _ _ => True) (I := fun desk : RentalDesk => desk.cars id = some car)
    (fun _ call h _ => retired_changeStatus call h hretired) hcar (along_true _ calls)

/-! ## The law -/

/-- **Activation.**  An actor who may make a car active, which is otherwise eligible, does so along
the matrix exactly if the evaluation is skipped or the car is neither in maintenance nor suspended;
a car becomes active without skipping only if the evaluation of the call finds it eligible; and no
sequence of calls changes a retired car. -/
theorem activation_law :
    (∀ (desk : RentalDesk) (call : StatusCall) (car : Car),
        desk.cars call.req.carId = some car → call.read.car = car → call.locked = false →
        call.req.targetStatus = .active → .active ∈ allowedTransitions car.operationalStatus →
        MayActivate car call.req.actor → OtherwiseEligible call.read →
          (ActiveAfter desk call ↔ call.req.skipEligibilityCheck = true ∨
            car.operationalStatus ∉ [.maintenance, .suspended])) ∧
      (∀ (desk : RentalDesk) (call : StatusCall) (id : Id) (before after : Car),
        desk.cars id = some before → before.operationalStatus ≠ .active →
        (changeStatus desk call).1.cars id = some after → after.operationalStatus = .active →
        call.req.skipEligibilityCheck = false →
          (evaluateEligibility call.read).eligible = true) ∧
      ∀ (desk : RentalDesk) (calls : List StatusCall) (id : Id) (car : Car),
        desk.cars id = some car → car.operationalStatus = .retired →
          (run (fun desk call => (changeStatus desk call).1) desk calls).cars id = some car := by
  refine ⟨?_, ?_, fun desk calls id car hcar hretired => retired_run hcar hretired calls⟩
  · intro desk call car hcar hread hlocked htarget hallowed hmay hotherwise
    have hstatus : car.operationalStatus ≠ .active := by
      intro hactive
      simp [hactive, allowedTransitions] at hallowed
    have heligible : (evaluateEligibility call.read).eligible = true ↔
        car.operationalStatus ∉ [.maintenance, .suspended] := by
      rw [evaluateEligibility_eligible_iff, hread, and_iff_right hotherwise]
      cases hcurrent : car.operationalStatus <;>
        simp_all [VehicleOperationalStatus.isBlocked, allowedTransitions]
    rw [activeAfter_iff hcar htarget hstatus, heligible]
    exact ⟨fun h => h.2.2.2, fun h => ⟨hlocked, hmay, hallowed, h⟩⟩
  · intro desk call id before after hbefore hstatus hafter hactive hskip
    obtain ⟨rfl, htarget⟩ := becomes_active hbefore hstatus hafter hactive
    obtain ⟨-, -, -, hpasses⟩ :=
      (activeAfter_iff hbefore htarget hstatus).mp ⟨after, hafter, hactive⟩
    rcases hpasses with hskipped | heligible
    · rw [hskip] at hskipped
      cases hskipped
    · exact heligible

def servicedCar : Car := { sampleCar with operationalStatus := .maintenance }

def servicedFile : VehicleFile where
  vendorBusinessName := "Vendor"
  vendorSecurityDeposit := some ⟨.paid, sampleDeposit⟩
  serviceAreaId := some "area"
  vendorAssignment := some true
  rejectionReason := none
  maintenanceReason := none
  registrationNumber := "KA-01-AB-1234"
  photos := ["front"]
  pricePerDay := sampleDeposit
  documents := [⟨.rcBook, .verified⟩, ⟨.insurance, .verified⟩]

def servicedDesk : RentalDesk := { sampleDesk with cars := fun _ => some servicedCar }

def activateServiced : StatusCall where
  bookingIds := []
  req := ⟨"car", .active, ⟨.admin, none⟩, none, false⟩
  locked := false
  read := ⟨none, servicedCar, servicedFile⟩

theorem maintenance_blocks_activation :
    OtherwiseEligible activateServiced.read ∧
      .active ∈ allowedTransitions servicedCar.operationalStatus ∧
      MayActivate servicedCar activateServiced.req.actor ∧
      (changeStatus servicedDesk activateServiced).2 =
        .error (.badRequest ("Vehicle activation rejected by operational readiness engine: " ++
          "Vehicle is currently under maintenance: Routine maintenance.")) ∧
      ¬ ActiveAfter servicedDesk activateServiced := by
  refine ⟨⟨rfl, fun _ => rfl, fun _ => ⟨_, rfl, by decide, nofun⟩, fun _ => ⟨by decide, rfl, nofun⟩,
    fun _ => rfl, by decide +kernel, by decide, by decide, by decide⟩, by decide,
    mayActivate_of_isAdmin _ rfl, by decide +kernel, ?_⟩
  rintro ⟨car, hcar, hactive⟩
  obtain rfl := Option.some_inj.mp hcar
  exact absurd hactive (by decide +kernel)

end CarRental
