import CarRental.Bookings.RentalLifecycle

/-!
# Pickup and return

`RentalOperationsService.executePickup` and `executeReturn`.  Both take the lock of the booking,
check and write the handover code, the inspection and (at the return) the deposit, each with its own
commit, and then call the lifecycle service, whose transition asks for the same lock.

An operation is two parts here: `begin…` is what it does up to that call, `finish…` is the call and
what follows.  Between the two parts time passes.
-/

namespace CarRental

open Calls KeyedRows

/-! ## Steps that both share -/

/-- What an operation finds outside the tables. -/
structure OperationEnv where
  /-- When it asks for the lock, and its token. -/
  start : ℤ
  token : String
  /-- What the transition inside it finds. -/
  inner : TransitionEnv
  /-- Whether the fleet's state machine, kept in memory, goes along. -/
  fleetMoves : Bool
deriving DecidableEq

def RentalDesk.release (desk : RentalDesk) (bookingId : Id) (token : String) : RentalDesk :=
  { desk with locks := releaseCancellationLock desk.locks bookingId token }

/-- Takes the lock and runs the first part under it; the lock stays taken when it returns. -/
def beginOperation {R : Type} (desk : RentalDesk) (bookingId : Id) (env : OperationEnv)
    (prepare : RentalDesk → DeskReply R) : DeskReply R :=
  if !env.inner.up .lock then
    (desk, .error (.internal "Cancellation lock coordination service is temporarily unavailable. Please retry in a few moments."))
  else
    match acquireCancellationLock desk.locks bookingId env.token env.start with
    | .error e => (desk, .error e)
    | .ok locks =>
      let prepared := prepare { desk with locks }
      match prepared.2 with
      | .error e => (prepared.1.release bookingId env.token, .error e)
      | .ok reply => (prepared.1, .ok reply)

/-- `otpRecord` is any unverified row of the booking and the type: neither its code nor its expiry
is looked at. -/
def consumeOtp (desk : RentalDesk) (bookingId : Id) (otpType : HandoverOtpType)
    (code : Option String) (env : TransitionEnv) (missingCode noOtp : String) :
    Except HttpError RentalDesk :=
  if code.all (· = "") then .error (.badRequest missingCode)
  else
    match desk.otps.find? (·.awaits bookingId otpType) with
    | none => .error (.badRequest noOtp)
    | some otp =>
      env.guard .markOtp
        (.ok { desk with otps := updateKey HandoverOtp.id otp.id HandoverOtp.verify desk.otps })

/-- One inspection for each booking and type; its odometer has to fit into the column. -/
def recordInspection (desk : RentalDesk) (bookingId : Id) (type : InspectionType)
    (odometerReading fuelPercent : Decimal) (damagePhotos : List String) (conditionNotes : String)
    (env : TransitionEnv) : Except HttpError RentalDesk :=
  match (Column.ofDecimal? odometerReading : Option Money) with
  | none => .error (.internal "Numeric value out of range")
  | some odometer =>
    if (desk.findInspection bookingId type).isSome then
      .error (.internal "Unique constraint failed")
    else
      env.guard .inspection
        (.ok { desk with
          inspections := desk.inspections ++
            [⟨bookingId, type, odometer, round fuelPercent, damagePhotos, some conditionNotes,
              true⟩] })

/-- The fleet's state machine marks the car as not available; when it refuses, this is only
logged. -/
def RentalDesk.moveFleet (desk : RentalDesk) (carId : Id) (env : OperationEnv) : RentalDesk :=
  if env.fleetMoves then
    { desk with
      cars := Function.update desk.cars carId
        ((desk.cars carId).map fun car => { car with isAvailable := false }) }
  else desk

/-! ## Pickup -/

structure PickupExecutionRequest where
  bookingId : Id
  actorId : Id
  actorRole : ActorRole
  odometerReading : Decimal
  fuelPercent : Decimal
  handoverOtpCode : Option String
  inspectionPhotos : List String
  notes : Option String
  skipOtpForAdmin : Bool
deriving DecidableEq

namespace PickupExecutionRequest

/-- The code is only dispensable for an administrator who says so. -/
def needsOtp (req : PickupExecutionRequest) : Bool :=
  !req.skipOtpForAdmin || req.actorRole ≠ .admin

/-- The transition that the pickup asks for (`startRental`). -/
def transition (req : PickupExecutionRequest) : TransitionContext where
  bookingId := req.bookingId
  actorId := req.actorId
  actorRole := req.actorRole
  target := .ongoing
  reason := req.notes
  handoverOtp := req.handoverOtpCode

end PickupExecutionRequest

def checkPickup (desk : RentalDesk) (req : PickupExecutionRequest) (env : TransitionEnv) :
    Except HttpError RentalBooking :=
  if !env.up .reads then .error (.internal "The database is unavailable.")
  else
    match desk.bookings req.bookingId with
    | none => .error (.notFound ("Booking #" ++ req.bookingId ++ " not found."))
    | some booking =>
      if booking.status ≠ .confirmed ∧ booking.status ≠ .handoverReady then
        .error (.badRequest ("Cannot execute pickup for booking in status '" ++
          booking.status.text ++ "'. Must be CONFIRMED or HANDOVER_READY."))
      else if desk.kyc booking.customerId ≠ some .verified then
        .error (.badRequest "Customer driving licence / KYC must be VERIFIED prior to vehicle handover.")
      else .ok booking

def pickupOtp (desk : RentalDesk) (req : PickupExecutionRequest) (env : TransitionEnv) :
    Except HttpError RentalDesk :=
  if req.needsOtp then
    consumeOtp desk req.bookingId .pickup req.handoverOtpCode env
      "Handover OTP is required for pickup confirmation."
      "Invalid or expired Pickup Handover OTP."
  else .ok desk

def pickupInspection (desk : RentalDesk) (req : PickupExecutionRequest) (env : TransitionEnv) :
    Except HttpError RentalDesk :=
  recordInspection desk req.bookingId .preTrip req.odometerReading req.fuelPercent
    req.inspectionPhotos (orText req.notes "Clean pre-trip condition confirmed") env

def preparePickup (desk : RentalDesk) (req : PickupExecutionRequest) (env : TransitionEnv) :
    DeskReply RentalBooking :=
  andThen (desk, checkPickup desk req env) fun desk booking =>
  andThen (step desk (pickupOtp desk req env)) fun desk _ =>
  andThen (step desk (pickupInspection desk req env)) fun desk _ => (desk, .ok booking)

def beginPickup (desk : RentalDesk) (req : PickupExecutionRequest) (env : OperationEnv) :
    DeskReply RentalBooking :=
  beginOperation desk req.bookingId env fun desk => preparePickup desk req env.inner

def finishPickup (desk : RentalDesk) (req : PickupExecutionRequest) (booking : RentalBooking)
    (env : OperationEnv) : DeskReply BookingTransitionResult :=
  ensuring
    (andThen (executeTransition desk req.transition env.inner) fun desk result =>
      (desk.moveFleet booking.carId env, .ok result))
    fun desk => desk.release req.bookingId env.token

def RentalDesk.executePickup (desk : RentalDesk) (req : PickupExecutionRequest)
    (env : OperationEnv) : DeskReply BookingTransitionResult :=
  andThen (beginPickup desk req env) fun desk booking => finishPickup desk req booking env

/-! ## Return -/

structure ReturnExecutionRequest where
  bookingId : Id
  actorId : Id
  actorRole : ActorRole
  odometerReading : Decimal
  fuelPercent : Decimal
  handoverOtpCode : Option String
  inspectionPhotos : List String
  newDamagesNotes : Option String
  damageEstimatedCost : Option Decimal
  skipOtpForAdmin : Bool
  returnTime : ℤ
deriving DecidableEq

def ReturnExecutionRequest.needsOtp (req : ReturnExecutionRequest) : Bool :=
  !req.skipOtpForAdmin || req.actorRole ≠ .admin

/-- The trip, with the inspection at its pickup. -/
def RentalDesk.rentedTrip (desk : RentalDesk) (bookingId : Id) (booking : RentalBooking) :
    RentedTrip where
  startDate := booking.startDate
  endDate := booking.endDate
  includedKmTotal := booking.includedKmTotal
  extraKmRate := booking.extraKmRate
  pricePerKm := booking.pricePerKm
  pricePerHour := booking.pricePerHour
  preTrip := (desk.findInspection bookingId .preTrip).map fun inspection =>
    (inspection.odometer.value, inspection.fuelPercent)

/-- What the charges are computed from. -/
def ReturnExecutionRequest.charged (req : ReturnExecutionRequest) : ReturnRequest where
  odometerReading := req.odometerReading
  fuelPercent := req.fuelPercent
  handoverOtpCode := req.handoverOtpCode
  damageEstimatedCost := req.damageEstimatedCost
  skipOtpForAdmin := req.skipOtpForAdmin
  isAdmin := req.actorRole = .admin
  returnTime := req.returnTime

def ReturnDepositStatus.text : ReturnDepositStatus → String
  | .fullRefund => "FULL_REFUND"
  | .partialRefund => "PARTIAL_REFUND"
  | .forfeited => "FORFEITED"
  | .noDeposit => "NO_DEPOSIT"

def checkReturn (desk : RentalDesk) (req : ReturnExecutionRequest) (env : TransitionEnv) :
    Except HttpError RentalBooking :=
  if !env.up .reads then .error (.internal "The database is unavailable.")
  else
    match desk.bookings req.bookingId with
    | none => .error (.notFound ("Booking #" ++ req.bookingId ++ " not found."))
    | some booking =>
      if booking.status ≠ .ongoing ∧ booking.status ≠ .returnPending then
        .error (.badRequest ("Cannot execute return for booking in status '" ++
          booking.status.text ++ "'. Must be ONGOING or RETURN_PENDING."))
      else .ok booking

def returnOtp (desk : RentalDesk) (req : ReturnExecutionRequest) (env : TransitionEnv) :
    Except HttpError RentalDesk :=
  if req.needsOtp then
    consumeOtp desk req.bookingId .return req.handoverOtpCode env
      "Return OTP is required for digital return confirmation."
      "Invalid or expired Return Handover OTP."
  else .ok desk

def returnInspection (desk : RentalDesk) (req : ReturnExecutionRequest) (trip : RentedTrip)
    (env : TransitionEnv) : Except HttpError RentalDesk :=
  if req.odometerReading < trip.startOdo then
    .error (.badRequest "Return odometer reading cannot be lower than pickup reading.")
  else
    recordInspection desk req.bookingId .postTrip req.odometerReading req.fuelPercent
      req.inspectionPhotos (orText req.newDamagesNotes "Vehicle returned in satisfactory condition")
      env

/-- Only a held deposit is settled, in its row alone. -/
def settleDeposit (desk : RentalDesk) (bookingId : Id) (charges : ℤ) (env : TransitionEnv) :
    DeskReply ReturnSettlementResult :=
  match (desk.deposits bookingId).filter (·.status = .held) with
  | none => (desk, .ok ⟨charges, .noDeposit, 0⟩)
  | some deposit =>
    let (deposit', depositStatus, refundAmount) := settleAtReturn deposit charges
    andThen (step desk (env.guard .deposit
      (.ok { desk with deposits := Function.update desk.deposits bookingId (some deposit') })))
      fun desk _ => (desk, .ok ⟨charges, depositStatus, refundAmount⟩)

def prepareReturn (desk : RentalDesk) (req : ReturnExecutionRequest) (env : TransitionEnv) :
    DeskReply (RentalBooking × ReturnSettlementResult) :=
  andThen (desk, checkReturn desk req env) fun desk booking =>
  andThen (step desk (returnOtp desk req env)) fun desk _ =>
  let trip := desk.rentedTrip req.bookingId booking
  andThen (step desk (returnInspection desk req trip env)) fun desk _ =>
  andThen (settleDeposit desk req.bookingId (trip.totalAdditionalCharges req.charged) env)
    fun desk settlement => (desk, .ok (booking, settlement))

/-- The transition that the return asks for (`completeBooking`). -/
def ReturnExecutionRequest.transition (req : ReturnExecutionRequest)
    (settlement : ReturnSettlementResult) : TransitionContext where
  bookingId := req.bookingId
  actorId := req.actorId
  actorRole := req.actorRole
  target := .completed
  reason := some ("Trip completed. Additional charges: ₹" ++
    toString settlement.totalAdditionalCharges ++ ". Deposit status: " ++
    settlement.depositStatus.text)
  handoverOtp := req.handoverOtpCode

def beginReturn (desk : RentalDesk) (req : ReturnExecutionRequest) (env : OperationEnv) :
    DeskReply (RentalBooking × ReturnSettlementResult) :=
  beginOperation desk req.bookingId env fun desk => prepareReturn desk req env.inner

def finishReturn (desk : RentalDesk) (req : ReturnExecutionRequest)
    (prepared : RentalBooking × ReturnSettlementResult) (env : OperationEnv) :
    DeskReply ReturnSettlementResult :=
  ensuring
    (andThen (executeTransition desk (req.transition prepared.2) env.inner) fun desk _ =>
      (desk.moveFleet prepared.1.carId env, .ok prepared.2))
    fun desk => desk.release req.bookingId env.token

def RentalDesk.executeReturn (desk : RentalDesk) (req : ReturnExecutionRequest)
    (env : OperationEnv) : DeskReply ReturnSettlementResult :=
  andThen (beginReturn desk req env) fun desk prepared => finishReturn desk req prepared env

/-! ## Taking the lock -/

/-- The lock service answers, and nobody has the lock. -/
def Obtains (desk : RentalDesk) (bookingId : Id) (env : OperationEnv) : Prop :=
  env.inner.up .lock = true ∧ desk.locks.held bookingId env.start = false

instance (desk : RentalDesk) (bookingId : Id) (env : OperationEnv) :
    Decidable (Obtains desk bookingId env) :=
  inferInstanceAs (Decidable (_ ∧ _))

def RentalDesk.locked (desk : RentalDesk) (bookingId : Id) (env : OperationEnv) : RentalDesk :=
  { desk with
    locks := Function.update desk.locks bookingId
      (some ⟨env.token, env.start + cancellationLockTtlMs⟩) }

theorem locked_locks (desk : RentalDesk) (bookingId : Id) (env : OperationEnv) :
    (desk.locked bookingId env).locks bookingId =
      some ⟨env.token, env.start + cancellationLockTtlMs⟩ :=
  Function.update_self ..

variable {desk : RentalDesk} {bookingId : Id}

theorem beginOperation_of_not_obtains {R : Type} {env : OperationEnv}
    (h : ¬ Obtains desk bookingId env) (prepare : RentalDesk → DeskReply R) :
    ∃ e, beginOperation desk bookingId env prepare = (desk, .error e) := by
  unfold beginOperation
  cases hup : env.inner.up .lock with
  | false => exact ⟨_, rfl⟩
  | true =>
    cases hheld : desk.locks.held bookingId env.start with
    | false => exact absurd ⟨hup, hheld⟩ h
    | true =>
      rw [acquireCancellationLock, hheld]
      exact ⟨_, rfl⟩

variable {desk' : RentalDesk}

theorem beginOperation_of_error {R : Type} {env : OperationEnv} {prepare : RentalDesk → DeskReply R}
    {e : HttpError} (h : Obtains desk bookingId env)
    (hprepare : prepare (desk.locked bookingId env) = (desk', .error e)) :
    beginOperation desk bookingId env prepare = (desk'.release bookingId env.token, .error e) := by
  unfold beginOperation
  rw [RentalDesk.locked] at hprepare
  rw [h.1, acquireCancellationLock_eq h.2]
  simp only [Bool.not_true, Bool.false_eq_true, if_false, hprepare]

theorem beginOperation_of_ok {R : Type} {env : OperationEnv} {prepare : RentalDesk → DeskReply R}
    {reply : R} (h : Obtains desk bookingId env)
    (hprepare : prepare (desk.locked bookingId env) = (desk', .ok reply)) :
    beginOperation desk bookingId env prepare = (desk', .ok reply) := by
  unfold beginOperation
  rw [RentalDesk.locked] at hprepare
  rw [h.1, acquireCancellationLock_eq h.2]
  simp only [Bool.not_true, Bool.false_eq_true, if_false, hprepare]

/-! ## An operation whose lock has run out -/

/-- When the transition inside an operation asks for the lock, the one of the operation itself has
run out. -/
def LockExpired (env : OperationEnv) : Prop :=
  env.inner.up .transitionLock = true ∧ env.start + cancellationLockTtlMs ≤ env.inner.now

instance (env : OperationEnv) : Decidable (LockExpired env) := inferInstanceAs (Decidable (_ ∧ _))

theorem lockFree_locked_iff {env : OperationEnv}
    (hlock : desk.locks bookingId = some ⟨env.token, env.start + cancellationLockTtlMs⟩) :
    LockFree desk bookingId env.inner ↔ LockExpired env := by
  rw [LockFree, LockExpired, ← Bool.not_eq_true, held_iff_of_lease hlock, not_lt]

/-- The transition of the operation, asked for in the state `desk` in which the operation is then,
goes through. -/
def GoesThrough (desk : RentalDesk) (ctx : TransitionContext) (env : OperationEnv) : Prop :=
  LockExpired env ∧ TransitionReady desk ctx env.inner

/-! ## The first parts -/

variable {env : TransitionEnv}

theorem consumeOtp_eq_ok {otpType : HandoverOtpType} {code : Option String}
    {missingCode noOtp : String}
    (h : consumeOtp desk bookingId otpType code env missingCode noOtp = .ok desk') :
    ∃ otps, desk' = { desk with otps } ∧ unverifiedCount otps < unverifiedCount desk.otps := by
  unfold consumeOtp at h
  split at h
  · cases h
  cases hfind : desk.otps.find? (·.awaits bookingId otpType) with
  | none =>
    rw [hfind] at h
    cases h
  | some otp =>
    rw [hfind] at h
    dsimp only [TransitionEnv.guard] at h
    split at h
    · cases h
      have hawaits := of_decide_eq_true (List.find?_some hfind :)
      exact ⟨_, rfl, unverifiedCount_verify_lt (List.mem_of_find?_eq_some hfind) hawaits.2.2⟩
    · cases h

theorem recordInspection_eq_ok {type : InspectionType} {odometerReading fuelPercent : Decimal}
    {damagePhotos : List String} {conditionNotes : String}
    (h : recordInspection desk bookingId type odometerReading fuelPercent damagePhotos
      conditionNotes env = .ok desk') :
    desk.findInspection bookingId type = none ∧ ∃ inspection,
      desk' = { desk with inspections := desk.inspections ++ [inspection] } := by
  unfold recordInspection at h
  split at h
  · cases h
  split at h
  · cases h
  next hnone =>
    dsimp only [TransitionEnv.guard] at h
    split at h
    · cases h
      exact ⟨Option.not_isSome_iff_eq_none.mp hnone, _, rfl⟩
    · cases h

theorem checkPickup_eq_ok {req : PickupExecutionRequest} {booking : RentalBooking}
    (h : checkPickup desk req env = .ok booking) :
    desk.bookings req.bookingId = some booking ∧
      (booking.status = .confirmed ∨ booking.status = .handoverReady) := by
  unfold checkPickup at h
  split at h
  · cases h
  cases hbooking : desk.bookings req.bookingId with
  | none =>
    rw [hbooking] at h
    cases h
  | some found =>
    rw [hbooking] at h
    dsimp only at h
    split at h
    · cases h
    next hstatus =>
      split at h
      · cases h
      · cases h
        refine ⟨rfl, ?_⟩
        by_contra hne
        exact hstatus (not_or.mp hne)

variable {req : ReturnExecutionRequest}

theorem checkReturn_eq_ok {booking : RentalBooking} (h : checkReturn desk req env = .ok booking) :
    desk.bookings req.bookingId = some booking ∧
      (booking.status = .ongoing ∨ booking.status = .returnPending) := by
  unfold checkReturn at h
  split at h
  · cases h
  cases hbooking : desk.bookings req.bookingId with
  | none =>
    rw [hbooking] at h
    cases h
  | some found =>
    rw [hbooking] at h
    dsimp only at h
    split at h
    · cases h
    next hstatus =>
      cases h
      refine ⟨rfl, ?_⟩
      by_contra hne
      exact hstatus (not_or.mp hne)

theorem neededOtp_eq_ok {needed : Bool} {otpType : HandoverOtpType} {code : Option String}
    {missingCode noOtp : String}
    (h : (if needed then consumeOtp desk bookingId otpType code env missingCode noOtp
      else .ok desk) = .ok desk') :
    ∃ otps, desk' = { desk with otps } ∧ unverifiedCount otps ≤ unverifiedCount desk.otps ∧
      (needed = true → unverifiedCount otps < unverifiedCount desk.otps) := by
  split at h
  · obtain ⟨otps, rfl, hlt⟩ := consumeOtp_eq_ok h
    exact ⟨otps, rfl, hlt.le, fun _ => hlt⟩
  next hneeds =>
    cases h
    exact ⟨desk.otps, rfl, le_rfl, fun h => absurd h hneeds⟩

theorem pickupOtp_eq_ok {req : PickupExecutionRequest} (h : pickupOtp desk req env = .ok desk') :
    ∃ otps, desk' = { desk with otps } ∧ unverifiedCount otps ≤ unverifiedCount desk.otps ∧
      (req.needsOtp = true → unverifiedCount otps < unverifiedCount desk.otps) := by
  unfold pickupOtp at h
  exact neededOtp_eq_ok h

theorem returnOtp_eq_ok (h : returnOtp desk req env = .ok desk') :
    ∃ otps, desk' = { desk with otps } ∧ unverifiedCount otps ≤ unverifiedCount desk.otps ∧
      (req.needsOtp = true → unverifiedCount otps < unverifiedCount desk.otps) := by
  unfold returnOtp at h
  exact neededOtp_eq_ok h

theorem returnInspection_eq_ok {trip : RentedTrip}
    (h : returnInspection desk req trip env = .ok desk') :
    desk.findInspection req.bookingId .postTrip = none ∧ ∃ inspection,
      desk' = { desk with inspections := desk.inspections ++ [inspection] } := by
  unfold returnInspection at h
  split at h
  · cases h
  · exact recordInspection_eq_ok h

/-- The pickup is refused before it has written anything: the booking does not allow it, the code
is missing, or, where none is needed, the inspection cannot be recorded. -/
def PickupRefusedFirst (desk : RentalDesk) (req : PickupExecutionRequest) (env : TransitionEnv) :
    Prop :=
  (checkPickup desk req env).isOk = false ∨ (pickupOtp desk req env).isOk = false ∨
    req.needsOtp = false ∧ (pickupInspection desk req env).isOk = false

def ReturnRefusedFirst (desk : RentalDesk) (req : ReturnExecutionRequest) (env : TransitionEnv) :
    Prop :=
  (checkReturn desk req env).isOk = false ∨ (returnOtp desk req env).isOk = false ∨
    req.needsOtp = false ∧ ∃ booking, desk.bookings req.bookingId = some booking ∧
      (returnInspection desk req (desk.rentedTrip req.bookingId booking) env).isOk = false

theorem pickupOtp_of_not_needsOtp {req : PickupExecutionRequest} (h : req.needsOtp = false)
    : pickupOtp desk req env = .ok desk := by
  rw [pickupOtp, h]
  rfl

theorem returnOtp_of_not_needsOtp (h : req.needsOtp = false)
    : returnOtp desk req env = .ok desk := by
  rw [returnOtp, h]
  rfl

theorem preparePickup_cases (desk : RentalDesk) (req : PickupExecutionRequest)
    (env : TransitionEnv) :
    (PickupRefusedFirst desk req env ∧ ∃ e, preparePickup desk req env = (desk, .error e)) ∨
      (¬ PickupRefusedFirst desk req env ∧
        ((∃ e otps, unverifiedCount otps < unverifiedCount desk.otps ∧
            preparePickup desk req env = ({ desk with otps }, .error e)) ∨
          ∃ booking otps inspection, desk.bookings req.bookingId = some booking ∧
            (booking.status = .confirmed ∨ booking.status = .handoverReady) ∧
            desk.findInspection req.bookingId .preTrip = none ∧
            preparePickup desk req env =
              ({ desk with otps, inspections := desk.inspections ++ [inspection] },
                .ok booking))) := by
  unfold preparePickup PickupRefusedFirst
  cases hcheck : checkPickup desk req env with
  | error e => exact .inl ⟨.inl rfl, e, rfl⟩
  | ok booking =>
    rw [andThen_ok]
    obtain ⟨hbooking, hstatus⟩ := checkPickup_eq_ok hcheck
    cases hotp : pickupOtp desk req env with
    | error e => exact .inl ⟨.inr (.inl rfl), e, rfl⟩
    | ok marked =>
      obtain ⟨otps, rfl, -, hlt⟩ := pickupOtp_eq_ok hotp
      rw [step_ok, andThen_ok]
      cases hinspection : pickupInspection { desk with otps } req env with
      | error e =>
        cases hneeds : req.needsOtp with
        | false =>
          have hdesk : ({ desk with otps } : RentalDesk) = desk :=
            Except.ok.inj (hotp.symm.trans (pickupOtp_of_not_needsOtp hneeds))
          rw [step_error, andThen_error, hdesk]
          rw [hdesk] at hinspection
          refine .inl ⟨.inr (.inr ⟨rfl, ?_⟩), e, rfl⟩
          rw [hinspection]
          rfl
        | true =>
          refine .inr ⟨?_, .inl ⟨e, otps, hlt hneeds, rfl⟩⟩
          rintro (h | h | ⟨h, -⟩)
          · cases h
          · cases h
          · cases h
      | ok recorded =>
        obtain ⟨hnone, inspection, rfl⟩ := recordInspection_eq_ok hinspection
        refine .inr ⟨?_, .inr ⟨booking, otps, inspection, hbooking, hstatus, hnone, rfl⟩⟩
        rintro (h | h | ⟨hneeds, hfails⟩)
        · cases h
        · cases h
        · have hdesk : ({ desk with otps } : RentalDesk) = desk :=
            Except.ok.inj (hotp.symm.trans (pickupOtp_of_not_needsOtp hneeds))
          rw [hdesk] at hinspection
          rw [hinspection] at hfails
          cases hfails

theorem settleDeposit_fst (desk : RentalDesk) (bookingId : Id) (charges : ℤ)
    (env : TransitionEnv) :
    ∃ deposits, (settleDeposit desk bookingId charges env).1 = { desk with deposits } := by
  unfold settleDeposit
  cases (desk.deposits bookingId).filter (·.status = .held) with
  | none => exact ⟨desk.deposits, rfl⟩
  | some deposit =>
    dsimp only [TransitionEnv.guard]
    split
    · exact ⟨_, rfl⟩
    · exact ⟨desk.deposits, rfl⟩

theorem prepareReturn_cases (desk : RentalDesk) (req : ReturnExecutionRequest)
    (env : TransitionEnv) :
    (ReturnRefusedFirst desk req env ∧ ∃ e, prepareReturn desk req env = (desk, .error e)) ∨
      (¬ ReturnRefusedFirst desk req env ∧
        ((∃ e otps, unverifiedCount otps < unverifiedCount desk.otps ∧
            prepareReturn desk req env = ({ desk with otps }, .error e)) ∨
          ∃ booking otps inspection deposits reply, desk.bookings req.bookingId = some booking ∧
            (booking.status = .ongoing ∨ booking.status = .returnPending) ∧
            desk.findInspection req.bookingId .postTrip = none ∧
            (∀ prepared, reply = .ok prepared → prepared.1 = booking) ∧
            prepareReturn desk req env =
              ({ desk with otps, deposits, inspections := desk.inspections ++ [inspection] },
                reply))) := by
  unfold prepareReturn ReturnRefusedFirst
  cases hcheck : checkReturn desk req env with
  | error e => exact .inl ⟨.inl rfl, e, rfl⟩
  | ok booking =>
    rw [andThen_ok]
    obtain ⟨hbooking, hstatus⟩ := checkReturn_eq_ok hcheck
    cases hotp : returnOtp desk req env with
    | error e => exact .inl ⟨.inr (.inl rfl), e, rfl⟩
    | ok marked =>
      obtain ⟨otps, rfl, -, hlt⟩ := returnOtp_eq_ok hotp
      rw [step_ok, andThen_ok]
      dsimp only
      have htrip : RentalDesk.rentedTrip { desk with otps } req.bookingId booking =
        desk.rentedTrip req.bookingId booking := rfl
      rw [htrip]
      cases hinspection : returnInspection { desk with otps } req
          (desk.rentedTrip req.bookingId booking) env with
      | error e =>
        cases hneeds : req.needsOtp with
        | false =>
          have hdesk : ({ desk with otps } : RentalDesk) = desk :=
            Except.ok.inj (hotp.symm.trans (returnOtp_of_not_needsOtp hneeds))
          rw [step_error, andThen_error, hdesk]
          rw [hdesk] at hinspection
          refine .inl ⟨.inr (.inr ⟨rfl, booking, hbooking, ?_⟩), e, rfl⟩
          rw [hinspection]
          rfl
        | true =>
          refine .inr ⟨?_, .inl ⟨e, otps, hlt hneeds, rfl⟩⟩
          rintro (h | h | ⟨h, -⟩)
          · cases h
          · cases h
          · cases h
      | ok recorded =>
        obtain ⟨hnone, inspection, rfl⟩ := returnInspection_eq_ok hinspection
        rw [step_ok, andThen_ok]
        obtain ⟨deposits, hsettled⟩ := settleDeposit_fst
          { desk with otps, inspections := desk.inspections ++ [inspection] } req.bookingId
          ((desk.rentedTrip req.bookingId booking).totalAdditionalCharges req.charged) env
        refine .inr ⟨?_, .inr ⟨booking, otps, inspection, deposits, ?_⟩⟩
        · rintro (h | h | ⟨hneeds, other, hother, hfails⟩)
          · cases h
          · cases h
          · have hdesk : ({ desk with otps } : RentalDesk) = desk :=
              Except.ok.inj (hotp.symm.trans (returnOtp_of_not_needsOtp hneeds))
            rw [hdesk, ← Option.some.inj (hother.symm.trans hbooking)] at hinspection
            rw [hinspection] at hfails
            cases hfails
        · cases hreply : (settleDeposit
              { desk with otps, inspections := desk.inspections ++ [inspection] } req.bookingId
              ((desk.rentedTrip req.bookingId booking).totalAdditionalCharges req.charged) env).2 with
          | error e =>
            refine ⟨.error e, hbooking, hstatus, hnone, ?_, ?_⟩
            · rintro prepared ⟨⟩
            · rw [andThen_of_error hreply, hsettled]
          | ok settlement =>
            refine ⟨.ok (booking, settlement), hbooking, hstatus, hnone, ?_, ?_⟩
            · rintro prepared ⟨⟩
              rfl
            · rw [andThen_of_ok hreply, hsettled]

/-! ## Whole operations -/

/-- Nothing but the locks has changed. -/
structure OnlyLocks (before after : RentalDesk) : Prop where
  bookings : after.bookings = before.bookings
  otps : after.otps = before.otps
  inspections : after.inspections = before.inspections
  deposits : after.deposits = before.deposits
  fulfillment : after.fulfillment = before.fulfillment

/-- The booking is where it was, but a code is verified or an inspection recorded.  Neither is ever
taken back. -/
structure Spoiled (before after : RentalDesk) : Prop where
  bookings : after.bookings = before.bookings
  fulfillment : after.fulfillment = before.fulfillment
  written : unverifiedCount after.otps < unverifiedCount before.otps ∨
    ∃ inspection, after.inspections = before.inspections ++ [inspection]

/-- What the second part of an operation leaves, as far as its transition decides it. -/
structure Follows (after left : RentalDesk) : Prop where
  bookings : after.bookings = left.bookings
  otps : after.otps = left.otps
  inspections : after.inspections = left.inspections
  fulfillment : after.fulfillment = left.fulfillment

/-- A first part that is refused before it writes, or writes something that stays. -/
def PreparesAs {R : Type} (refusedFirst : Prop) (desk : RentalDesk) (prepared : DeskReply R) : Prop :=
  (refusedFirst ∧ ∃ e, prepared = (desk, .error e)) ∨
    ¬ refusedFirst ∧ prepared.1.locks = desk.locks ∧ Spoiled desk prepared.1

theorem operation_cases {R T : Type} (desk : RentalDesk) (bookingId : Id) (env : OperationEnv)
    (prepare : RentalDesk → DeskReply R) (finish : RentalDesk → R → DeskReply T)
    (ctx : R → TransitionContext) {refusedFirst : Prop}
    (hprepare : PreparesAs refusedFirst (desk.locked bookingId env)
      (prepare (desk.locked bookingId env)))
    (hbooking : ∀ reply, (ctx reply).bookingId = bookingId)
    (hstatus : ∀ reply, (prepare (desk.locked bookingId env)).2 = .ok reply →
      desk.statusOf bookingId ≠ some (ctx reply).target.status)
    (hreturns : ∀ desk reply, Succeeds (finish desk reply) ↔
      Succeeds (executeTransition desk (ctx reply) env.inner))
    (hfollows : ∀ desk reply, Follows (finish desk reply).1
      (executeTransition desk (ctx reply) env.inner).1) :
    let outcome := andThen (beginOperation desk bookingId env prepare) finish
    let prepared := prepare (desk.locked bookingId env)
    let goes := Obtains desk bookingId env ∧
      ∃ reply, prepared.2 = .ok reply ∧ GoesThrough prepared.1 (ctx reply) env
    (¬ goes ∧ ¬ Succeeds outcome ∧
      ((¬ Obtains desk bookingId env ∨ refusedFirst) ∧ OnlyLocks desk outcome.1 ∨
        ¬ (¬ Obtains desk bookingId env ∨ refusedFirst) ∧ Spoiled desk outcome.1)) ∨
    (goes ∧ Succeeds outcome ∧ ¬ (¬ Obtains desk bookingId env ∨ refusedFirst) ∧
      outcome.1.statusOf bookingId ≠ desk.statusOf bookingId) := by
  dsimp only
  by_cases hobtains : Obtains desk bookingId env
  swap
  · obtain ⟨e, h⟩ := beginOperation_of_not_obtains hobtains prepare
    rw [h, andThen_error]
    exact .inl ⟨fun h => hobtains h.1, not_succeeds_error,
      .inl ⟨.inl hobtains, rfl, rfl, rfl, rfl, rfl⟩⟩
  rw [and_iff_right hobtains, or_iff_right (not_not.mpr hobtains)]
  rcases hprepare with ⟨hrefused, e, h⟩ | ⟨hrefused, hlocks, hspoiled⟩
  · rw [beginOperation_of_error hobtains h, andThen_error, h]
    refine .inl ⟨?_, not_succeeds_error, .inl ⟨hrefused, rfl, rfl, rfl, rfl, rfl⟩⟩
    rintro ⟨reply, hreply, -⟩
    cases hreply
  cases hreply : (prepare (desk.locked bookingId env)).2 with
  | error e =>
    rw [beginOperation_of_error hobtains (Prod.ext rfl hreply), andThen_error]
    refine .inl ⟨?_, not_succeeds_error, .inr ⟨hrefused, hspoiled.bookings, hspoiled.fulfillment,
      hspoiled.written⟩⟩
    rintro ⟨reply, h, -⟩
    cases h
  | ok reply =>
    rw [beginOperation_of_ok hobtains (Prod.ext rfl hreply), andThen_ok]
    have hreturns' := hreturns (prepare (desk.locked bookingId env)).1 reply
    have hleft := hfollows (prepare (desk.locked bookingId env)).1 reply
    have hfree : LockFree (prepare (desk.locked bookingId env)).1 (ctx reply).bookingId env.inner ↔
        LockExpired env := by
      refine lockFree_locked_iff ?_
      rw [hlocks, hbooking]
      exact locked_locks desk bookingId env
    have hgoes : (∃ other, (Except.ok reply : Except HttpError R) = .ok other ∧
        GoesThrough (prepare (desk.locked bookingId env)).1 (ctx other) env) ↔
          LockFree (prepare (desk.locked bookingId env)).1 (ctx reply).bookingId env.inner ∧
            TransitionReady (prepare (desk.locked bookingId env)).1 (ctx reply) env.inner := by
      rw [hfree]
      constructor
      · rintro ⟨other, ⟨⟩, h⟩
        exact h
      · exact fun h => ⟨reply, rfl, h⟩
    rcases executeTransition_cases (prepare (desk.locked bookingId env)).1 (ctx reply) env.inner with
      ⟨hnot, e, otps, locks, h, hcount, -⟩ | ⟨hyes, desk', result, h, hmoved⟩
    · rw [h] at hreturns' hleft
      refine .inl ⟨fun h => hnot (hgoes.mp h), fun h => not_succeeds_error (hreturns'.mp h),
        .inr ⟨hrefused, hleft.bookings.trans hspoiled.bookings,
          hleft.fulfillment.trans hspoiled.fulfillment, ?_⟩⟩
      rw [hleft.otps, hleft.inspections]
      exact hspoiled.written.imp_left fun h => lt_of_le_of_lt hcount h
    · rw [h] at hreturns' hleft
      refine .inr ⟨hgoes.mpr hyes, hreturns'.mpr succeeds_ok, hrefused, ?_⟩
      rw [RentalDesk.statusOf, hleft.bookings, ← RentalDesk.statusOf, ← hbooking reply, hmoved,
        hbooking reply]
      exact (hstatus reply hreply).symm

/-! ## Pickup and return as wholes -/

/-- The pickup gets the lock, its first part returns, and its transition, asked for in the state
that was reached, goes through. -/
def PickupGetsThrough (desk : RentalDesk) (req : PickupExecutionRequest) (env : OperationEnv) :
    Prop :=
  let prepared := preparePickup (desk.locked req.bookingId env) req env.inner
  Obtains desk req.bookingId env ∧
    ∃ booking, prepared.2 = .ok booking ∧ GoesThrough prepared.1 req.transition env

def ReturnGetsThrough (desk : RentalDesk) (req : ReturnExecutionRequest) (env : OperationEnv) :
    Prop :=
  let prepared := prepareReturn (desk.locked req.bookingId env) req env.inner
  Obtains desk req.bookingId env ∧
    ∃ trip, prepared.2 = .ok trip ∧ GoesThrough prepared.1 (req.transition trip.2) env

/-- The lock is not to be had, or the pickup is refused before its first write. -/
def PickupRefused (desk : RentalDesk) (req : PickupExecutionRequest) (env : OperationEnv) : Prop :=
  ¬ Obtains desk req.bookingId env ∨
    PickupRefusedFirst (desk.locked req.bookingId env) req env.inner

def ReturnRefused (desk : RentalDesk) (req : ReturnExecutionRequest) (env : OperationEnv) : Prop :=
  ¬ Obtains desk req.bookingId env ∨
    ReturnRefusedFirst (desk.locked req.bookingId env) req env.inner

theorem follows_moveFleet (left : RentalDesk) (bookingId carId : Id) (env : OperationEnv) :
    Follows ((left.moveFleet carId env).release bookingId env.token) left := by
  unfold RentalDesk.moveFleet
  split
  · exact ⟨rfl, rfl, rfl, rfl⟩
  · exact ⟨rfl, rfl, rfl, rfl⟩

theorem succeeds_finishPickup_iff {req : PickupExecutionRequest} {booking : RentalBooking}
    {env : OperationEnv} :
    Succeeds (finishPickup desk req booking env) ↔
      Succeeds (executeTransition desk req.transition env.inner) := by
  rw [finishPickup, succeeds_ensuring]
  exact succeeds_andThen_of_returns fun _ _ => succeeds_ok

theorem succeeds_finishReturn_iff {prepared : RentalBooking × ReturnSettlementResult}
    {env : OperationEnv} :
    Succeeds (finishReturn desk req prepared env) ↔
      Succeeds (executeTransition desk (req.transition prepared.2) env.inner) := by
  rw [finishReturn, succeeds_ensuring]
  exact succeeds_andThen_of_returns fun _ _ => succeeds_ok

theorem follows_finishPickup (desk : RentalDesk) (req : PickupExecutionRequest)
    (booking : RentalBooking) (env : OperationEnv) :
    Follows (finishPickup desk req booking env).1
      (executeTransition desk req.transition env.inner).1 := by
  unfold finishPickup
  cases h : (executeTransition desk req.transition env.inner).2 with
  | error e =>
    rw [andThen_of_error h]
    exact ⟨rfl, rfl, rfl, rfl⟩
  | ok result =>
    rw [andThen_of_ok h]
    exact follows_moveFleet _ _ _ env

theorem follows_finishReturn (desk : RentalDesk) (req : ReturnExecutionRequest)
    (prepared : RentalBooking × ReturnSettlementResult) (env : OperationEnv) :
    Follows (finishReturn desk req prepared env).1
      (executeTransition desk (req.transition prepared.2) env.inner).1 := by
  unfold finishReturn
  cases h : (executeTransition desk (req.transition prepared.2) env.inner).2 with
  | error e =>
    rw [andThen_of_error h]
    exact ⟨rfl, rfl, rfl, rfl⟩
  | ok result =>
    rw [andThen_of_ok h]
    exact follows_moveFleet _ _ _ env

theorem preparePickup_as (desk : RentalDesk) (req : PickupExecutionRequest) (env : TransitionEnv) :
    PreparesAs (PickupRefusedFirst desk req env) desk (preparePickup desk req env) := by
  rcases preparePickup_cases desk req env with
    hrefused | ⟨hrefused, ⟨e, otps, hlt, h⟩ | ⟨booking, otps, inspection, -, -, -, h⟩⟩
  · exact .inl hrefused
  · rw [h]
    exact .inr ⟨hrefused, rfl, rfl, rfl, .inl hlt⟩
  · rw [h]
    exact .inr ⟨hrefused, rfl, rfl, rfl, .inr ⟨inspection, rfl⟩⟩

theorem prepareReturn_as (desk : RentalDesk) (req : ReturnExecutionRequest) (env : TransitionEnv) :
    PreparesAs (ReturnRefusedFirst desk req env) desk (prepareReturn desk req env) := by
  rcases prepareReturn_cases desk req env with
    hrefused | ⟨hrefused, ⟨e, otps, hlt, h⟩ |
      ⟨booking, otps, inspection, deposits, reply, -, -, -, -, h⟩⟩
  · exact .inl hrefused
  · rw [h]
    exact .inr ⟨hrefused, rfl, rfl, rfl, .inl hlt⟩
  · rw [h]
    exact .inr ⟨hrefused, rfl, rfl, rfl, .inr ⟨inspection, rfl⟩⟩

theorem rentalPickup_cases (desk : RentalDesk) (req : PickupExecutionRequest)
    (env : OperationEnv) :
    (¬ PickupGetsThrough desk req env ∧ ¬ Succeeds (desk.executePickup req env) ∧
      (PickupRefused desk req env ∧ OnlyLocks desk (desk.executePickup req env).1 ∨
        ¬ PickupRefused desk req env ∧ Spoiled desk (desk.executePickup req env).1)) ∨
    (PickupGetsThrough desk req env ∧ Succeeds (desk.executePickup req env) ∧
      ¬ PickupRefused desk req env ∧
      (desk.executePickup req env).1.statusOf req.bookingId ≠ desk.statusOf req.bookingId) := by
  refine operation_cases desk req.bookingId env (fun desk => preparePickup desk req env.inner)
    (fun desk booking => finishPickup desk req booking env) (fun _ => req.transition)
    (preparePickup_as _ req env.inner) (fun _ => rfl) (fun booking hbooking => ?_)
    (fun desk booking => ?_) fun desk booking => ?_
  · rcases preparePickup_cases (desk.locked req.bookingId env) req env.inner with
      ⟨-, e, h⟩ | ⟨-, ⟨e, otps, -, h⟩ | ⟨found, otps, inspection, hfound, hstatus, -, h⟩⟩
    · rw [h] at hbooking
      cases hbooking
    · rw [h] at hbooking
      cases hbooking
    · rw [show desk.statusOf req.bookingId = some found.status from
        congrArg (Option.map RentalBooking.status) hfound]
      rcases hstatus with hstatus | hstatus
      · rw [hstatus]
        exact fun h => by cases h
      · rw [hstatus]
        exact fun h => by cases h
  · exact succeeds_finishPickup_iff
  · exact follows_finishPickup desk req booking env

theorem rentalReturn_cases (desk : RentalDesk) (req : ReturnExecutionRequest)
    (env : OperationEnv) :
    (¬ ReturnGetsThrough desk req env ∧ ¬ Succeeds (desk.executeReturn req env) ∧
      (ReturnRefused desk req env ∧ OnlyLocks desk (desk.executeReturn req env).1 ∨
        ¬ ReturnRefused desk req env ∧ Spoiled desk (desk.executeReturn req env).1)) ∨
    (ReturnGetsThrough desk req env ∧ Succeeds (desk.executeReturn req env) ∧
      ¬ ReturnRefused desk req env ∧
      (desk.executeReturn req env).1.statusOf req.bookingId ≠ desk.statusOf req.bookingId) := by
  refine operation_cases desk req.bookingId env (fun desk => prepareReturn desk req env.inner)
    (fun desk trip => finishReturn desk req trip env) (fun trip => req.transition trip.2)
    (prepareReturn_as _ req env.inner) (fun _ => rfl) (fun trip htrip => ?_)
    (fun desk trip => ?_) fun desk trip => ?_
  · rcases prepareReturn_cases (desk.locked req.bookingId env) req env.inner with
      ⟨-, e, h⟩ | ⟨-, ⟨e, otps, -, h⟩ |
        ⟨found, otps, inspection, deposits, reply, hfound, hstatus, -, -, h⟩⟩
    · rw [h] at htrip
      cases htrip
    · rw [h] at htrip
      cases htrip
    · rw [show desk.statusOf req.bookingId = some found.status from
        congrArg (Option.map RentalBooking.status) hfound]
      rcases hstatus with hstatus | hstatus
      · rw [hstatus]
        exact fun h => by cases h
      · rw [hstatus]
        exact fun h => by cases h
  · exact succeeds_finishReturn_iff
  · exact follows_finishReturn desk req trip env

theorem succeeds_executePickup_iff {req : PickupExecutionRequest} {env : OperationEnv} :
    Succeeds (desk.executePickup req env) ↔ PickupGetsThrough desk req env := by
  rcases rentalPickup_cases desk req env with ⟨hnot, hfails, -⟩ | ⟨hgoes, hreturns, -⟩
  · exact iff_of_false hfails hnot
  · exact iff_of_true hreturns hgoes

theorem succeeds_executeReturn_iff {env : OperationEnv} :
    Succeeds (desk.executeReturn req env) ↔ ReturnGetsThrough desk req env := by
  rcases rentalReturn_cases desk req env with ⟨hnot, hfails, -⟩ | ⟨hgoes, hreturns, -⟩
  · exact iff_of_false hfails hnot
  · exact iff_of_true hreturns hgoes

/-! ## A desk to run on -/

def sampleRental : RentalBooking where
  customerId := "customer"
  vendorId := "vendor"
  vendorUserId := "vendor user"
  carId := "car"
  status := .confirmed
  startDate := 0
  endDate := 86400000
  disputeFlag := false
  paymentStatus := some .paid
  includedKmTotal := none
  extraKmRate := none
  pricePerKm := sampleDeposit
  pricePerHour := sampleDeposit

def sampleCar : Car where
  id := "car"
  vendorId := "vendor"
  pickupHubId := none
  isAvailable := true
  operationalStatus := .active
  verificationStatus := .verified
  vendorStatus := .verified
  serviceArea := none
  availableTripTypes := []
  blockedDates := []

def sampleOtp : HandoverOtp where
  id := "otp"
  bookingId := "booking"
  otpType := .pickup
  code := "123456"
  expiresAt := 900000
  verified := false
  attemptCount := 0

def sampleDesk : RentalDesk where
  bookings id := if id = "booking" then some sampleRental else none
  cars id := if id = "car" then some sampleCar else none
  kyc id := if id = "customer" then some .verified else none
  deposits _ := none
  fulfillment _ := none
  otps := [sampleOtp]
  inspections := []
  claims := []
  blocks := []
  locks _ := none

def samplePickup : PickupExecutionRequest where
  bookingId := "booking"
  actorId := "vendor user"
  actorRole := .vendor
  odometerReading := 0
  fuelPercent := 100
  handoverOtpCode := some "000000"
  inspectionPhotos := []
  notes := none
  skipOtpForAdmin := false

/-- The lock is asked for at the time 0, by the transition inside at `inner`. -/
def sampleEnv (inner : ℤ) : OperationEnv where
  start := 0
  token := "outer"
  inner := ⟨inner, "inner", true, 30, "block", none⟩
  fleetMoves := true

end CarRental
