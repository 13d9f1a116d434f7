import CarRental.Bookings.RentalLifecycle

/-!
# The operational status of a vehicle

`VehicleLifecycleService.transitionStatus`.  The status of a car moves along a matrix; some moves are
an administrator's, and a rental that is under way allows fewer.
-/

namespace CarRental

def allowedTransitions : VehicleOperationalStatus → List VehicleOperationalStatus
  | .draft => [.pendingVerification, .active, .retired]
  | .pendingVerification => [.active, .inactive, .draft, .retired]
  | .active => [.inactive, .maintenance, .suspended, .retired]
  | .inactive => [.active, .maintenance, .suspended, .retired]
  | .maintenance => [.active, .inactive, .suspended, .retired]
  | .suspended => [.active, .inactive, .retired]
  | .retired => []

structure LifecycleActor where
  role : ActorRole
  vendorId : Option Id
deriving DecidableEq

def LifecycleActor.isAdmin (actor : LifecycleActor) : Bool :=
  actor.role = .admin ∨ actor.role = .supportAgent

/-- What a call finds outside the tables. -/
structure StatusEnv where
  /-- The lock of the car is taken. -/
  locked : Bool
  /-- What `evaluateEligibility` has against the car, if anything. -/
  blockerMessages : Option String
deriving DecidableEq

structure StatusRequest where
  carId : Id
  targetStatus : VehicleOperationalStatus
  actor : LifecycleActor
  reason : Option String
  skipEligibilityCheck : Bool
deriving DecidableEq

def checkStatusActor (current target : VehicleOperationalStatus) (actor : LifecycleActor) :
    Except HttpError Unit :=
  if current = .suspended ∧ !actor.isAdmin then
    .error (.forbidden "Only platform administrators can lift a vehicle suspension.")
  else if (target = .suspended ∨ target = .retired) ∧ !actor.isAdmin then
    .error (.forbidden "Only platform administrators can suspend or retire a vehicle.")
  else if (current = .draft ∨ current = .pendingVerification) ∧ target = .active ∧
      !actor.isAdmin then
    .error (.forbidden
      "Vehicle verification and initial activation must be approved by platform administration.")
  else .ok ()

/-- The protection of a rental that is under way; `bookingIds` are the ids in the table. -/
def checkOngoingRental (desk : RentalDesk) (bookingIds : List Id) (req : StatusRequest) :
    Except HttpError Unit :=
  let target := req.targetStatus
  let ongoing := bookingIds.find? fun id =>
    (desk.bookings id).any fun booking => booking.carId = req.carId ∧ booking.status = .ongoing
  if target ∈ [.inactive, .maintenance, .suspended, .retired] then
    match ongoing with
    | none => .ok ()
    | some id =>
      if target = .inactive ∨ target = .maintenance then
        .error (.conflict ("Cannot deactivate or place vehicle into maintenance during an active rental (Booking ID: " ++
          id ++ ")."))
      else if lacksReason req.reason then
        .error (.badRequest "Administrative intervention (suspension/retirement) of a vehicle during an active ongoing rental requires explicit justification (minimum 10 characters).")
      else .ok ()
  else .ok ()

def transitionStatus (desk : RentalDesk) (bookingIds : List Id) (req : StatusRequest)
    (env : StatusEnv) : DeskReply Car :=
  if env.locked then
    (desk, .error (.badRequest "Vehicle lifecycle update in progress. Please retry."))
  else
    match desk.cars req.carId with
    | none => (desk, .error (.notFound ("Vehicle with ID " ++ req.carId ++ " not found.")))
    | some car =>
      let current := car.operationalStatus
      if req.actor.role = .vendor ∧ req.actor.vendorId.any (· ≠ car.vendorId) then
        (desk, .error (.forbidden "You do not have permission to modify this vehicle."))
      else if current = req.targetStatus then (desk, .ok car)
      else if req.targetStatus ∉ allowedTransitions current then
        (desk, .error (.badRequest ("Illegal lifecycle transition: Cannot move vehicle from '" ++
          current.text ++ "' to '" ++ req.targetStatus.text ++ "'.")))
      else
        match checkStatusActor current req.targetStatus req.actor,
            checkOngoingRental desk bookingIds req with
        | .error e, _ => (desk, .error e)
        | _, .error e => (desk, .error e)
        | .ok (), .ok () =>
          match env.blockerMessages.filter
              (fun _ => req.targetStatus = .active ∧ !req.skipEligibilityCheck) with
          | some messages =>
            (desk, .error (.badRequest
              ("Vehicle activation rejected by operational readiness engine: " ++ messages)))
          | none =>
            let updated : Car :=
              { car with
                operationalStatus := req.targetStatus
                isAvailable := req.targetStatus = .active }
            ({ desk with cars := Function.update desk.cars req.carId (some updated) },
              .ok updated)

theorem transitionStatus_cases (desk : RentalDesk) (bookingIds : List Id) (req : StatusRequest)
    (env : StatusEnv) :
    (transitionStatus desk bookingIds req env).1 = desk ∨
      ∃ car, desk.cars req.carId = some car ∧
        req.targetStatus ∈ allowedTransitions car.operationalStatus ∧
        (transitionStatus desk bookingIds req env).1 =
          { desk with
            cars := Function.update desk.cars req.carId
              (some { car with
                operationalStatus := req.targetStatus
                isAvailable := req.targetStatus = .active }) } := by
  unfold transitionStatus
  split
  · exact .inl rfl
  split
  · exact .inl rfl
  next car hcar =>
    dsimp only
    split
    · exact .inl rfl
    split
    · exact .inl rfl
    split
    · exact .inl rfl
    next hallowed =>
      split
      · exact .inl rfl
      · exact .inl rfl
      · split
        · exact .inl rfl
        · exact .inr ⟨car, hcar, not_not.mp hallowed, rfl⟩

end CarRental
