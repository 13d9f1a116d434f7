import CarRental.Fulfillment.FulfillmentOrchestrator
import Mathlib.Data.List.Sort

/-!
# Allocating and substituting vehicles

`VehicleAllocationService.allocateVehicle` and `VehicleSubstitutionService.executeSubstitution`.
Both work under the lock of the booking, and the second calls the first.

Whether a vehicle is free for the period of the booking is an argument (`isFree`), and so is whether
the database client takes the queries for candidates, which name a status that no vehicle can have.
-/

namespace CarRental

open Calls KeyedRows

/-! ## The tables -/

inductive CarCategory where
  | hatchback
  | sedan
  | suv
  | luxury
  | tempoTraveller
  | miniBus
deriving DecidableEq, Repr

structure FleetCar where
  id : Id
  vendorId : Id
  pickupHubId : Option Id
  isAvailable : Bool
  operationalStatus : VehicleOperationalStatus
  type : CarCategory
  year : ℤ
  pricePerDay : Money
deriving DecidableEq

structure AllocatedBooking where
  vendorId : Id
  carId : Id
  status : BookingStatus
  vehicleClass : Option CarCategory
  pickupHubId : Option Id
deriving DecidableEq

inductive AllocationStrategy where
  | exactVehicle
  | sameClass
  | automatic
  | branchBased
  | nearestSuitable
  | manualOverride
deriving DecidableEq, Repr

structure VehicleAllocationRecord where
  id : Id
  bookingId : Id
  carId : Id
  strategy : AllocationStrategy
  isActive : Bool
deriving DecidableEq

inductive SubstitutionDecision where
  | autoSubstitute
  | manualSubstitute
  | customerApprovalRequired
  | upgradeRequired
  | noAlternative
deriving DecidableEq, Repr

structure VehicleSubstitutionRecord where
  bookingId : Id
  originalCarId : Id
  substitutedCarId : Id
  decision : SubstitutionDecision
  priceDifference : ℤ
  isCustomerApproved : Bool
  isFreeUpgrade : Bool
deriving DecidableEq

structure AllocationDesk where
  bookings : Id → Option AllocatedBooking
  cars : List FleetCar
  /-- The vendor that a user logs in for. -/
  vendorOf : Id → Option Id
  allocations : List VehicleAllocationRecord
  substitutions : List VehicleSubstitutionRecord
  fulfillment : Id → Option FulfillmentRecord
  locks : CancellationLocks

abbrev AllocationReply (R : Type) := Outcome AllocationDesk HttpError R

/-- What a call finds outside the tables. -/
structure AllocationEnv where
  now : ℤ
  token : String
  isFree : Id → Bool
  queryTaken : Bool
  recordId : Id

def AllocationDesk.findCar (desk : AllocationDesk) (carId : Id) : Option FleetCar :=
  desk.cars.find? fun car => car.id = carId

def terminalForAllocation : List BookingStatus := [.completed, .cancelled, .expired]

/-! ## Allocation -/

structure AllocateVehicleRequest where
  bookingId : Id
  targetCarId : Option Id
  strategy : AllocationStrategy
  reason : Option String
  allocatedBy : Id
  allocatedByRole : ActorRole
  allowUpgrade : Bool
deriving DecidableEq

/-- The class that an upgrade from a class leads to. -/
def nextClass : CarCategory → Option CarCategory
  | .hatchback => some .sedan
  | .sedan => some .suv
  | .suv => some .luxury
  | _ => none

/-- The first free car of the class, at the branch if it has any, else of the vendor. -/
def firstFreeOfClass (desk : AllocationDesk) (vendorId : Id) (branchId : Option Id)
    (targetClass : CarCategory) (env : AllocationEnv) : Option FleetCar :=
  let ofVendor := desk.cars.filter fun car =>
    car.vendorId = vendorId ∧ car.isAvailable ∧ car.operationalStatus = .active ∧
      car.type = targetClass
  let atBranch := ofVendor.filter fun car => branchId.all fun branch => car.pickupHubId = some branch
  (if atBranch.isEmpty then ofVendor else atBranch).find? fun car => env.isFree car.id

/-- An upgrade is one class at most. -/
def findOptimalVehicleCandidate (desk : AllocationDesk) (vendorId : Id) (branchId : Option Id)
    (targetClass : CarCategory) (allowUpgrade : Bool) (env : AllocationEnv) :
    Except HttpError (Option FleetCar) :=
  if !env.queryTaken then .error (.internal "Invalid value for argument `in`.")
  else
    .ok (firstFreeOfClass desk vendorId branchId targetClass env <|>
      if allowUpgrade then
        (nextClass targetClass).bind fun next => firstFreeOfClass desk vendorId branchId next env
      else none)

/-- The car that the request names, if the vendor has it and it is free. -/
def namedCar (desk : AllocationDesk) (booking : AllocatedBooking) (req : AllocateVehicleRequest)
    (env : AllocationEnv) : Except HttpError FleetCar :=
  match req.targetCarId.filter (· ≠ "") with
  | none => .error (.badRequest "A targetCarId is required for this strategy.")
  | some targetCarId =>
    if req.strategy = .manualOverride ∧ req.reason.all (fun text => textLength (trim text) = 0) then
      .error (.badRequest
        "A reason is mandatory when performing a MANUAL_OVERRIDE allocation.")
    else
      match desk.findCar targetCarId with
      | none => .error (.notFound ("Vehicle #" ++ targetCarId ++ " not found."))
      | some car =>
        if car.vendorId ≠ booking.vendorId then
          .error (.badRequest "Cannot allocate a vehicle belonging to a different vendor.")
        else if !env.isFree car.id then
          .error (.conflict
            "Vehicle is not available for the requested reservation timeframe.")
        else .ok car

def chooseCar (desk : AllocationDesk) (booking : AllocatedBooking) (current : FleetCar)
    (req : AllocateVehicleRequest) (env : AllocationEnv) : Except HttpError FleetCar :=
  if req.strategy = .exactVehicle ∨ req.strategy = .manualOverride then
    namedCar desk booking req env
  else
    match findOptimalVehicleCandidate desk booking.vendorId
        (booking.pickupHubId <|> current.pickupHubId) (booking.vehicleClass.getD current.type)
        req.allowUpgrade env with
    | .error e => .error e
    | .ok none =>
      .error (.conflict "No available vehicles found matching class for the required time window.")
    | .ok (some car) => .ok car

structure AllocationResult where
  allocatedCarId : Id
  allocationRecordId : Id
deriving DecidableEq

/-- The transaction: the old record is released, the new one created, the booking points to the
car. -/
def allocate (desk : AllocationDesk) (booking : AllocatedBooking) (car : FleetCar)
    (previous : Option VehicleAllocationRecord) (req : AllocateVehicleRequest)
    (env : AllocationEnv) : AllocationDesk :=
  let released := match previous with
    | none => desk.allocations
    | some record =>
      updateKey VehicleAllocationRecord.id record.id (fun row => { row with isActive := false })
        desk.allocations
  { desk with
    allocations := released ++ [⟨env.recordId, req.bookingId, car.id, req.strategy, true⟩]
    bookings := Function.update desk.bookings req.bookingId
      (some { booking with
        carId := car.id
        vehicleClass := some car.type }) }

def allocationBody (desk : AllocationDesk) (req : AllocateVehicleRequest) (env : AllocationEnv) :
    AllocationReply AllocationResult :=
  match desk.bookings req.bookingId with
  | none => (desk, .error (.notFound ("Booking #" ++ req.bookingId ++ " not found.")))
  | some booking =>
    if booking.status ∈ terminalForAllocation then
      (desk, .error (.badRequest ("Cannot allocate vehicle for booking in terminal status " ++
        booking.status.text ++ ".")))
    else if req.allocatedByRole = .vendor ∧ booking.vendorId ≠ req.allocatedBy ∧
        desk.vendorOf req.allocatedBy ≠ some booking.vendorId then
      (desk, .error (.forbidden
        "Unauthorized: You can only allocate vehicles for your own fleet."))
    else
      match desk.findCar booking.carId with
      -- the booking's car is a foreign key
      | none => (desk, .error (.internal "Inconsistent query result"))
      | some current =>
        andThen (desk, chooseCar desk booking current req env) fun desk car =>
        let previous := desk.allocations.find? fun record =>
          record.bookingId = req.bookingId ∧ record.isActive
        match previous.filter (·.carId = car.id) with
        | some record => (desk, .ok ⟨car.id, record.id⟩)
        | none => (allocate desk booking car previous req env, .ok ⟨car.id, env.recordId⟩)

def AllocationDesk.release (desk : AllocationDesk) (bookingId : Id) (token : String) :
    AllocationDesk :=
  { desk with locks := releaseCancellationLock desk.locks bookingId token }

def withAllocationLock {R : Type} (desk : AllocationDesk) (bookingId : Id) (token : String)
    (now : ℤ) (body : AllocationDesk → AllocationReply R) : AllocationReply R :=
  match acquireCancellationLock desk.locks bookingId token now with
  | .error e => (desk, .error e)
  | .ok locks => ensuring (body { desk with locks }) (·.release bookingId token)

def AllocationDesk.allocateVehicle (desk : AllocationDesk) (req : AllocateVehicleRequest)
    (env : AllocationEnv) : AllocationReply AllocationResult :=
  withAllocationLock desk req.bookingId env.token env.now fun desk => allocationBody desk req env

/-! ## Substitution -/

structure ExecuteSubstitutionRequest where
  bookingId : Id
  targetCarId : Option Id
  decision : SubstitutionDecision
  /-- `SubstitutionReason` -/
  reason : String
  actorId : Id
  actorRole : ActorRole
  customerApproved : Option Bool
  waivePriceDifference : Bool
deriving DecidableEq

inductive SubstitutionMatch where
  | exactClass
  | upgrade
  | otherBranch
deriving DecidableEq, Repr

structure SubstitutionCandidate where
  carId : Id
  dailyRate : Money
  isUpgrade : Bool
  score : ℤ
  matchType : SubstitutionMatch
  sameBranch : Bool
deriving DecidableEq

def upgradeRank : CarCategory → Option ℕ
  | .hatchback => some 0
  | .sedan => some 1
  | .suv => some 2
  | .luxury => some 3
  | .tempoTraveller | .miniBus => none

def isClassUpgrade (original candidate : CarCategory) : Bool :=
  match upgradeRank original, upgradeRank candidate with
  | some origIdx, some candIdx => origIdx < candIdx
  | _, _ => false

def candidateOf (original : FleetCar) (targetClass : CarCategory) (homeBranchId : Option Id)
    (car : FleetCar) : Option SubstitutionCandidate :=
  let sameBranch : Bool := homeBranchId.any fun branch => car.pickupHubId = some branch
  let sameClass : Bool := car.type = targetClass
  let isUpgrade := isClassUpgrade targetClass car.type
  let candidate (score : ℤ) (matchType : SubstitutionMatch) : SubstitutionCandidate :=
    ⟨car.id, car.pricePerDay, isUpgrade, score, matchType, sameBranch⟩
  if sameBranch && sameClass then
    some (candidate (100 + (car.year - original.year) * 2) .exactClass)
  else if sameBranch && isUpgrade then some (candidate (85 + (car.year - original.year)) .upgrade)
  else if !sameBranch && sameClass then some (candidate 60 .otherBranch)
  else if !sameBranch && isUpgrade then some (candidate 50 .upgrade)
  else none

structure SubstitutionEvaluation where
  originalCar : FleetCar
  originalClass : CarCategory
  bestCandidate : Option SubstitutionCandidate
deriving DecidableEq

namespace SubstitutionEvaluation

def isFreeUpgrade (evaluation : SubstitutionEvaluation) : Bool :=
  evaluation.bestCandidate.any fun best => best.matchType ≠ .exactClass ∧ best.isUpgrade

def requiresCustomerApproval (evaluation : SubstitutionEvaluation) : Bool :=
  evaluation.bestCandidate.any fun best => !best.isUpgrade && best.matchType = .otherBranch

/-- In paise. -/
def priceDifference (evaluation : SubstitutionEvaluation) : ℤ :=
  match evaluation.bestCandidate with
  | none => 0
  | some best =>
    if evaluation.isFreeUpgrade then 0
    else max 0 (best.dailyRate.paise - evaluation.originalCar.pricePerDay.paise)

end SubstitutionEvaluation

def evaluateSubstitution (desk : AllocationDesk) (bookingId : Id) (env : AllocationEnv) :
    Except HttpError SubstitutionEvaluation :=
  match desk.bookings bookingId with
  | none => .error (.notFound ("Booking #" ++ bookingId ++ " not found."))
  | some booking =>
    match desk.findCar booking.carId with
    | none => .error (.internal "Inconsistent query result")
    | some original =>
      if booking.status ∈ terminalForAllocation then
        .error (.badRequest ("Cannot substitute vehicle for booking in terminal status '" ++
          booking.status.text ++ "'."))
      else if !env.queryTaken then .error (.internal "Invalid value for argument `in`.")
      else
        let targetClass := booking.vehicleClass.getD original.type
        let homeBranchId := booking.pickupHubId <|> original.pickupHubId
        let candidates := desk.cars.filter fun car =>
          car.vendorId = booking.vendorId ∧ car.id ≠ original.id ∧ car.isAvailable ∧
            car.operationalStatus = .active ∧ env.isFree car.id
        let evaluated := candidates.filterMap (candidateOf original targetClass homeBranchId)
        .ok ⟨original, targetClass,
          (evaluated.mergeSort fun a b => decide (b.score ≤ a.score)).head?⟩

/-- The car that takes over: the one that is named, or the best candidate. -/
def substituteCar (desk : AllocationDesk) (req : ExecuteSubstitutionRequest)
    (evaluation : SubstitutionEvaluation) : Except HttpError FleetCar :=
  match req.targetCarId.filter (· ≠ "") <|>
      evaluation.bestCandidate.map SubstitutionCandidate.carId with
  | none => .error (.conflict "Cannot execute substitution: No alternative vehicle available.")
  | some targetCarId =>
    if req.decision = .noAlternative then
      .error (.conflict "Cannot execute substitution: No alternative vehicle available.")
    else
      match desk.findCar targetCarId with
      | none => .error (.notFound ("Target vehicle #" ++ targetCarId ++ " not found."))
      | some car => .ok car

def ExecuteSubstitutionRequest.allocation (req : ExecuteSubstitutionRequest)
    (evaluation : SubstitutionEvaluation) (targetCarId : Id) : AllocateVehicleRequest where
  bookingId := req.bookingId
  targetCarId := some targetCarId
  strategy := .manualOverride
  reason := some ("Substituted from #" ++ evaluation.originalCar.id ++ " due to " ++ req.reason)
  allocatedBy := req.actorId
  allocatedByRole := if req.actorRole = .system then .admin else req.actorRole
  allowUpgrade := true

def substitutionRecord (req : ExecuteSubstitutionRequest) (evaluation : SubstitutionEvaluation)
    (car : FleetCar) : VehicleSubstitutionRecord :=
  let isFreeUpgrade := req.waivePriceDifference ||
    isClassUpgrade evaluation.originalClass car.type || evaluation.isFreeUpgrade
  { bookingId := req.bookingId
    originalCarId := evaluation.originalCar.id
    substitutedCarId := car.id
    decision := req.decision
    priceDifference := if isFreeUpgrade then 0 else evaluation.priceDifference
    isCustomerApproved := req.customerApproved.getD !evaluation.requiresCustomerApproval
    isFreeUpgrade }

def recordSubstitution (desk : AllocationDesk) (req : ExecuteSubstitutionRequest)
    (evaluation : SubstitutionEvaluation) (car : FleetCar) : AllocationDesk :=
  { desk with
    substitutions := desk.substitutions ++ [substitutionRecord req evaluation car]
    fulfillment := Function.update desk.fulfillment req.bookingId
      ((desk.fulfillment req.bookingId).map fun record =>
        { record with
          carId := car.id
          stage := .allocated }) }

def prepareSubstitution (desk : AllocationDesk) (req : ExecuteSubstitutionRequest)
    (env : AllocationEnv) : Except HttpError (SubstitutionEvaluation × FleetCar) :=
  match evaluateSubstitution desk req.bookingId env with
  | .error e => .error e
  | .ok evaluation =>
    match substituteCar desk req evaluation with
    | .error e => .error e
    | .ok car => .ok (evaluation, car)

/-- `env` is what the allocation finds; the substitution itself asks for the lock at `start`. -/
def AllocationDesk.executeSubstitution (desk : AllocationDesk) (req : ExecuteSubstitutionRequest)
    (start : ℤ) (token : String) (env : AllocationEnv) : AllocationReply AllocationResult :=
  withAllocationLock desk req.bookingId token start fun desk =>
  andThen (desk, prepareSubstitution desk req env) fun desk prepared =>
  andThen (desk.allocateVehicle (req.allocation prepared.1 prepared.2.id) env) fun desk result =>
    (recordSubstitution desk req prepared.1 prepared.2, .ok result)

/-! ## The locks -/

theorem allocationBody_locks (desk : AllocationDesk) (locks : CancellationLocks)
    (req : AllocateVehicleRequest) (env : AllocationEnv) :
    (allocationBody { desk with locks } req env).2 = (allocationBody desk req env).2 := by
  unfold allocationBody
  dsimp only
  cases desk.bookings req.bookingId with
  | none => rfl
  | some booking =>
    dsimp only
    split
    · rfl
    split
    · rfl
    have hcar : AllocationDesk.findCar { desk with locks } booking.carId =
        desk.findCar booking.carId := rfl
    rw [hcar]
    cases desk.findCar booking.carId with
    | none => rfl
    | some current =>
      have hchoice : chooseCar { desk with locks } booking current req env =
          chooseCar desk booking current req env := by
        unfold chooseCar namedCar findOptimalVehicleCandidate firstFreeOfClass
          AllocationDesk.findCar
        rfl
      dsimp only
      rw [hchoice]
      cases chooseCar desk booking current req env with
      | error e => rfl
      | ok car =>
        rw [andThen_ok, andThen_ok]
        dsimp only
        split
        · rfl
        · rfl

theorem succeeds_withAllocationLock_iff {R : Type} {desk : AllocationDesk} {bookingId : Id}
    {token : String} {now : ℤ} {body : AllocationDesk → AllocationReply R} :
    Succeeds (withAllocationLock desk bookingId token now body) ↔
      desk.locks.held bookingId now = false ∧ Succeeds (body { desk with
        locks := Function.update desk.locks bookingId
          (some ⟨token, now + cancellationLockTtlMs⟩) }) := by
  unfold withAllocationLock
  cases hheld : desk.locks.held bookingId now with
  | true =>
    rw [acquireCancellationLock, hheld]
    exact iff_of_false not_succeeds_error fun h => by cases h.1
  | false =>
    rw [acquireCancellationLock_eq hheld]
    exact (and_iff_right rfl).symm

end CarRental
