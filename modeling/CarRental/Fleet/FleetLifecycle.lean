import CarRental.Http
import Mathlib.Logic.Function.Basic

/-!
# The operational states of the fleet

`FleetLifecycleService`: the state of a vehicle is kept in the memory of the process, and the
database only has the flag `isAvailable`, which stands for `AVAILABLE` or `ACTIVE` when the
memory knows nothing.

A call of `transitionState` first asks `getVehicleState`, which may read the row; then it checks
and sets the new state, and then it writes the flag.  Between these it waits, and others go on.
A write that fails is logged, and the call goes on without it.  A restart loses the memory and
the calls under way.
-/

namespace CarRental

inductive FleetOperationalState where
  | draft
  | active
  | available
  | reserved
  | pickupPending
  | onRent
  | extensionPending
  | returnPending
  | inspection
  | cleaning
  | maintenance
  | accident
  | damaged
  | quarantined
  | complianceBlocked
  | gpsOffline
  | inactive
  | retired
  | sold
deriving DecidableEq, Repr

def FleetOperationalState.text : FleetOperationalState → String
  | .draft => "DRAFT"
  | .active => "ACTIVE"
  | .available => "AVAILABLE"
  | .reserved => "RESERVED"
  | .pickupPending => "PICKUP_PENDING"
  | .onRent => "ON_RENT"
  | .extensionPending => "EXTENSION_PENDING"
  | .returnPending => "RETURN_PENDING"
  | .inspection => "INSPECTION"
  | .cleaning => "CLEANING"
  | .maintenance => "MAINTENANCE"
  | .accident => "ACCIDENT"
  | .damaged => "DAMAGED"
  | .quarantined => "QUARANTINED"
  | .complianceBlocked => "COMPLIANCE_BLOCKED"
  | .gpsOffline => "GPS_OFFLINE"
  | .inactive => "INACTIVE"
  | .retired => "RETIRED"
  | .sold => "SOLD"

/-! ## The checks -/

def FleetOperationalState.allowedTransitions : FleetOperationalState → List FleetOperationalState
  | .draft => [.active, .inactive, .retired]
  | .active => [.available, .inspection, .cleaning, .maintenance, .quarantined,
      .complianceBlocked, .gpsOffline, .inactive, .retired]
  | .available => [.reserved, .pickupPending, .inspection, .cleaning, .maintenance, .accident,
      .damaged, .quarantined, .complianceBlocked, .gpsOffline, .inactive, .retired]
  | .reserved => [.pickupPending, .available, .maintenance, .complianceBlocked, .gpsOffline]
  | .pickupPending => [.onRent, .available, .inspection, .maintenance]
  | .onRent => [.extensionPending, .returnPending, .accident, .damaged, .gpsOffline]
  | .extensionPending => [.onRent, .returnPending]
  | .returnPending => [.inspection, .onRent]
  | .inspection => [.cleaning, .damaged, .maintenance, .quarantined, .available]
  | .cleaning => [.available, .inspection, .maintenance]
  | .maintenance => [.cleaning, .inspection, .available, .retired]
  | .accident => [.damaged, .maintenance, .quarantined, .retired]
  | .damaged => [.maintenance, .quarantined, .retired]
  | .quarantined => [.inspection, .maintenance, .retired]
  | .complianceBlocked => [.active, .available, .inspection, .retired]
  | .gpsOffline => [.available, .active, .onRent, .maintenance, .quarantined]
  | .inactive => [.active, .available, .retired]
  | .retired => [.sold]
  | .sold => []

def isValidTransition (fromState toState : FleetOperationalState) : Bool :=
  fromState = toState || fromState.allowedTransitions.contains toState

def validateTransitionPrerequisites (carId : Id)
    (currentState targetState : FleetOperationalState) : Except HttpError Unit :=
  if targetState = .available ∧ currentState = .quarantined then
    .error (.conflict ("Vehicle " ++ carId ++ " is QUARANTINED and must undergo formal " ++
      "clearance inspection before becoming AVAILABLE."))
  else if targetState = .available ∧ currentState = .complianceBlocked then
    .error (.conflict ("Vehicle " ++ carId ++ " is COMPLIANCE_BLOCKED. Renew and verify " ++
      "mandatory documents (Insurance/Fitness/PUC) first."))
  else if targetState = .onRent ∧ currentState ≠ .pickupPending then
    .error (.conflict ("Vehicle " ++ carId ++ " must be in PICKUP_PENDING state before starting " ++
      "rental. Current state: " ++ currentState.text))
  else if targetState = .sold ∧ currentState ≠ .retired then
    .error (.conflict ("Vehicle " ++ carId ++ " must be decommissioned/RETIRED before it can be " ++
      "marked SOLD. Current state: " ++ currentState.text))
  else .ok ()

/-- What a caller of `transitionState` passes. -/
structure TransitionRequest where
  targetState : FleetOperationalState
  actorId : Id
  actorRole : String
  reason : String
  skipPrerequisitesCheck : Bool
deriving DecidableEq

def TransitionRequest.check (request : TransitionRequest) (carId : Id)
    (currentState : FleetOperationalState) : Except HttpError Unit :=
  if isValidTransition currentState request.targetState = false then
    .error (.badRequest ("Illegal vehicle state transition: Cannot transition vehicle " ++ carId ++
      " from " ++ currentState.text ++ " to " ++ request.targetState.text ++ "."))
  else if request.skipPrerequisitesCheck then .ok ()
  else validateTransitionPrerequisites carId currentState request.targetState

/-! ## The service -/

structure TrackedCar where
  isAvailable : Bool
  maintenanceReason : Option String
  maintenanceStartedAt : Option ℤ
deriving DecidableEq

/-- What the flag stands for. -/
def TrackedCar.mapped (car : TrackedCar) : FleetOperationalState :=
  if car.isAvailable then .available else .active

/-- The update of the row.  Fields that are not given stay as they are. -/
def TransitionRequest.writeRow (request : TransitionRequest) (now : ℤ) (car : TrackedCar) :
    TrackedCar where
  isAvailable := request.targetState = .available
  maintenanceReason :=
    if request.targetState = .maintenance then some request.reason else car.maintenanceReason
  maintenanceStartedAt :=
    if request.targetState = .maintenance then some now else car.maintenanceStartedAt

structure TransitionAuditRecord where
  carId : Id
  actorId : Id
  actorRole : String
  fromState : FleetOperationalState
  toState : FleetOperationalState
  reason : String
  timestamp : ℤ
deriving DecidableEq

/-- A call that waits; without a request it is one of `getVehicleState` alone. -/
inductive LifecycleCall where
  /-- For the row. -/
  | reading (carId : Id) (request : Option TransitionRequest)
  /-- With the row read and not kept yet. -/
  | found (carId : Id) (request : Option TransitionRequest) (isAvailable : Bool)
  /-- With what `getVehicleState` has returned. -/
  | known (carId : Id) (request : TransitionRequest) (currentState : FleetOperationalState)
  /-- For the write of the flag, with the new state set. -/
  | writing (carId : Id) (request : TransitionRequest) (fromState : FleetOperationalState)
deriving DecidableEq

/-- The call waits for a write of the vehicle. -/
def LifecycleCall.writes (carId : Id) : LifecycleCall → Bool
  | .writing written _ _ => written == carId
  | .reading _ _ | .found _ _ _ | .known _ _ _ => false

structure FleetLifecycle where
  cars : Id → Option TrackedCar
  vehicleStates : Id → Option FleetOperationalState
  vehicleStateReasons : Id → Option String
  auditTrail : List TransitionAuditRecord
  calls : List LifecycleCall
  /-- Kept by nobody: the vehicle was on rent, and has not been inspected since. -/
  owesInspection : Id → Bool

namespace FleetLifecycle

/-- A process that has just started, with its database. -/
def boot (cars : Id → Option TrackedCar) : FleetLifecycle where
  cars
  vehicleStates := fun _ => none
  vehicleStateReasons := fun _ => none
  auditTrail := []
  calls := []
  owesInspection := fun _ => false

/-- What `getVehicleState` reports of a vehicle. -/
def report (s : FleetLifecycle) (carId : Id) : Option FleetOperationalState :=
  match s.vehicleStates carId with
  | some state => some state
  | none => (s.cars carId).map TrackedCar.mapped

/-- A write of the vehicle is under way. -/
def writing (s : FleetLifecycle) (carId : Id) : Bool :=
  s.calls.any fun call => call.writes carId

def addCall (s : FleetLifecycle) (call : LifecycleCall) : FleetLifecycle :=
  { s with calls := s.calls ++ [call] }

def setCall (s : FleetLifecycle) (i : ℕ) (call : LifecycleCall) : FleetLifecycle :=
  { s with calls := s.calls.set i call }

def endCall (s : FleetLifecycle) (i : ℕ) : FleetLifecycle :=
  { s with calls := s.calls.eraseIdx i }

def setState (s : FleetLifecycle) (carId : Id) (state : FleetOperationalState) : FleetLifecycle :=
  { s with vehicleStates := Function.update s.vehicleStates carId (some state) }

/-- The new state, with its reason if there is one, and what it means for the inspection. -/
def applyState (s : FleetLifecycle) (carId : Id) (request : TransitionRequest) : FleetLifecycle :=
  { s.setState carId request.targetState with
    vehicleStateReasons :=
      if request.reason = "" then s.vehicleStateReasons
      else Function.update s.vehicleStateReasons carId (some request.reason)
    owesInspection := Function.update s.owesInspection carId
      (request.targetState = .onRent ||
        (s.owesInspection carId && request.targetState ≠ .inspection)) }

def writeFlag (s : FleetLifecycle) (carId : Id) (request : TransitionRequest) (now : ℤ) :
    FleetLifecycle :=
  { s with cars := Function.update s.cars carId ((s.cars carId).map (request.writeRow now)) }

def audit (s : FleetLifecycle) (carId : Id) (request : TransitionRequest)
    (fromState : FleetOperationalState) (now : ℤ) : FleetLifecycle :=
  { s with auditTrail := s.auditTrail ++
      [⟨carId, request.actorId, request.actorRole, fromState, request.targetState,
        request.reason, now⟩] }

/-! ### The parts of a call -/

/-- A call begins: what is in the memory is returned, and the row is asked for otherwise. -/
def begin (s : FleetLifecycle) (carId : Id) (request : Option TransitionRequest) :
    FleetLifecycle :=
  match s.vehicleStates carId, request with
  | some _, none => s
  | some state, some request => s.addCall (.known carId request state)
  | none, request => s.addCall (.reading carId request)

/-- The row is read; without one the call throws. -/
def readRow (s : FleetLifecycle) (i : ℕ) : FleetLifecycle :=
  match s.calls[i]? with
  | some (.reading carId request) =>
    match s.cars carId with
    | some car => s.setCall i (.found carId request car.isAvailable)
    | none => s.endCall i
  | _ => s

def failRead (s : FleetLifecycle) (i : ℕ) : FleetLifecycle :=
  match s.calls[i]? with
  | some (.reading _ _) => s.endCall i
  | _ => s

/-- The mapped state is kept, whatever is there by now, and returned. -/
def keepState (s : FleetLifecycle) (i : ℕ) : FleetLifecycle :=
  match s.calls[i]? with
  | some (.found carId request isAvailable) =>
    let mapped := if isAvailable then FleetOperationalState.available else .active
    match request with
    | none => (s.setState carId mapped).endCall i
    | some request => (s.setState carId mapped).setCall i (.known carId request mapped)
  | _ => s

/-- The checks, against the state that was returned, and the new state. -/
def applyTransition (s : FleetLifecycle) (i : ℕ) : FleetLifecycle :=
  match s.calls[i]? with
  | some (.known carId request currentState) =>
    if currentState = request.targetState then s.endCall i
    else
      match request.check carId currentState with
      | .error _ => s.endCall i
      | .ok () => (s.applyState carId request).setCall i (.writing carId request currentState)
  | _ => s

/-- The write commits or fails; the call goes on and returns either way. -/
def finishWrite (s : FleetLifecycle) (i : ℕ) (commits : Bool) (now : ℤ) : FleetLifecycle :=
  match s.calls[i]? with
  | some (.writing carId request fromState) =>
    let written := if commits then s.writeFlag carId request now else s
    (written.audit carId request fromState now).endCall i
  | _ => s

/-- The memory is lost, with the calls under way and their writes. -/
def restart (s : FleetLifecycle) : FleetLifecycle :=
  { boot s.cars with owesInspection := s.owesInspection }

end FleetLifecycle

inductive LifecycleAction where
  | getVehicleState (carId : Id)
  | transitionState (carId : Id) (request : TransitionRequest)
  | readRow (i : ℕ)
  | failRead (i : ℕ)
  | keepState (i : ℕ)
  | applyTransition (i : ℕ)
  | finishWrite (i : ℕ) (commits : Bool) (now : ℤ)
  | restart
deriving DecidableEq

def lifecycleStep (s : FleetLifecycle) : LifecycleAction → FleetLifecycle
  | .getVehicleState carId => s.begin carId none
  | .transitionState carId request => s.begin carId (some request)
  | .readRow i => s.readRow i
  | .failRead i => s.failRead i
  | .keepState i => s.keepState i
  | .applyTransition i => s.applyTransition i
  | .finishWrite i commits now => s.finishWrite i commits now
  | .restart => s.restart

end CarRental
