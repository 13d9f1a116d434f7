import CarRental.Bookings.Admission
import CarRental.Bookings.Cancellation
import CarRental.Bookings.HandoverOtp
import CarRental.Bookings.VehicleReturn
import CarRental.Lib.Calls
import CarRental.Redis.BookingLock

/-!
# The lifecycle of a rental

`BookingLifecycleService.executeTransition` with the targets of a rental: ready for handover,
on the road, coming back, completed.  (`Bookings/Cancellation.lean` has the target `CANCELLED`.)

A transition takes the lock of the booking for itself.  Its checks may already write: a missed
handover code is counted, a matching one is used up.  Its transaction moves the booking, and with
it the fulfillment record and, at the end of the trip, the car.

What lies outside the tables (the clock, the tokens and ids that are drawn, the readiness engine, an
outage) is the argument `env`.
-/

namespace CarRental

open Calls

/-! ## The tables -/

inductive KycStatus where
  | pending
  | verified
  | rejected
  | expired
deriving DecidableEq, Repr

inductive InspectionType where
  | preTrip
  | postTrip
deriving DecidableEq, Repr

inductive FulfillmentStage where
  | pendingAllocation
  | allocated
  | preparationScheduled
  | preparationInProgress
  | cleaningCompleted
  | inspectionCompleted
  | readyForPickup
  | customerCheckedIn
  | handoverInProgress
  | activeRental
  | returnInspectionPending
  | settlementPending
  | completed
  | cancelled
deriving DecidableEq, Repr

/-- A booking without its id, with what is read of its vendor, its car's prices and its payment. -/
structure RentalBooking where
  customerId : Id
  vendorId : Id
  vendorUserId : Id
  carId : Id
  status : BookingStatus
  startDate : ℤ
  endDate : ℤ
  disputeFlag : Bool
  paymentStatus : Option PaymentStatus
  includedKmTotal : Option ℤ
  extraKmRate : Option Money
  pricePerKm : Money
  pricePerHour : Money
deriving DecidableEq

structure Inspection where
  bookingId : Id
  type : InspectionType
  odometer : Money
  fuelPercent : ℤ
  damagePhotos : List String
  conditionNotes : Option String
  finalized : Bool
deriving DecidableEq

structure DamageClaim where
  id : Id
  bookingId : Id
  status : DamageClaimStatus
deriving DecidableEq

structure FulfillmentRecord where
  vendorId : Id
  carId : Id
  stage : FulfillmentStage
deriving DecidableEq

/-- Bookings and cars by their ids, deposits and fulfillment records by the id of the booking, KYC
by the id of the customer. -/
structure RentalDesk where
  bookings : Id → Option RentalBooking
  cars : Id → Option Car
  kyc : Id → Option KycStatus
  deposits : Id → Option SecurityDeposit
  fulfillment : Id → Option FulfillmentRecord
  otps : List HandoverOtp
  inspections : List Inspection
  claims : List DamageClaim
  blocks : List VehicleBlock
  locks : CancellationLocks

/-- What a call leaves and what it returns or throws. -/
abbrev DeskReply (R : Type) := Outcome RentalDesk HttpError R

/-! ## Outages -/

/-- The places at which the database or the lock service may fail a call. -/
inductive HandoverStep where
  | lock
  | reads
  | markOtp
  | inspection
  | deposit
  | transitionLock
  | transitionReads
  | transitionCommit
  | fulfillmentRecord
  | stage
  | finalStage
deriving DecidableEq, Repr

/-- What a call finds outside the tables. -/
structure TransitionEnv where
  now : ℤ
  /-- The token of the lock. -/
  token : String
  /-- The verdict of `evaluateEligibility` on the car. -/
  eligible : Bool
  allowEarlyPickupMinutes : ℤ
  /-- The id of a new block. -/
  blockId : Id
  outage : Option HandoverStep
deriving DecidableEq

def TransitionEnv.up (env : TransitionEnv) (step : HandoverStep) : Bool := env.outage ≠ some step

/-- A step that the outage fails before it writes. -/
def TransitionEnv.guard {R : Type} (env : TransitionEnv) (step : HandoverStep)
    (result : Except HttpError R) : Except HttpError R :=
  if env.up step then result else .error (.internal "The database is unavailable.")

/-! ## Targets -/

inductive RentalTarget where
  | handoverReady
  | ongoing
  | returnPending
  | completed
deriving DecidableEq, Repr

def RentalTarget.status : RentalTarget → BookingStatus
  | .handoverReady => .handoverReady
  | .ongoing => .ongoing
  | .returnPending => .returnPending
  | .completed => .completed

structure TransitionContext where
  bookingId : Id
  actorId : Id
  actorRole : ActorRole
  target : RentalTarget
  reason : Option String
  handoverOtp : Option String
deriving DecidableEq

/-- `isAdmin` of the preconditions: the platform counts as an administrator. -/
def TransitionContext.isAdmin (ctx : TransitionContext) : Bool :=
  ctx.actorRole = .admin ∨ ctx.actorRole = .system

/-! ## Checks that do not write -/

/-- `validateAuthorization`, for the targets of a rental. -/
def validateActor (booking : RentalBooking) (ctx : TransitionContext) : Except HttpError Unit :=
  let isCustomer := booking.customerId = ctx.actorId
  let isVendor := booking.vendorUserId = ctx.actorId
  if ctx.actorRole = .system ∨ ctx.actorRole = .admin then .ok ()
  else if ¬ isCustomer ∧ ¬ isVendor then
    .error (.forbidden
      "Access denied: You are not authorized to perform actions on this booking.")
  else if ctx.actorRole = .customer ∧ ¬ isCustomer then
    .error (.forbidden "You can only perform actions on your own bookings.")
  else if ctx.actorRole = .customer ∧ ctx.target ≠ .returnPending then
    .error (.forbidden ("Customers are not permitted to transition bookings to " ++
      ctx.target.status.text ++ "."))
  else if ctx.actorRole = .vendor ∧ ¬ isVendor then
    .error (.forbidden "You can only transition bookings for your own fleet.")
  else .ok ()

/-- `!text || text.trim().length < 10` -/
def lacksReason (reason : Option String) : Bool :=
  reason.all fun text => textLength (trim text) < 10

def RentalDesk.findInspection (desk : RentalDesk) (bookingId : Id) (type : InspectionType) :
    Option Inspection :=
  desk.inspections.find? fun inspection =>
    inspection.bookingId = bookingId ∧ inspection.type = type

def RentalDesk.hasFinalized (desk : RentalDesk) (bookingId : Id) (type : InspectionType) : Bool :=
  (desk.findInspection bookingId type).any (·.finalized)

def RentalDesk.carStatus (desk : RentalDesk) (booking : RentalBooking) :
    Option VehicleOperationalStatus :=
  (desk.cars booking.carId).map Car.operationalStatus

def checkHandoverReady (desk : RentalDesk) (bookingId : Id) (booking : RentalBooking) :
    Except HttpError Unit :=
  match (desk.carStatus booking).filter (· ≠ .active) with
  | some status =>
    .error (.conflict ("Cannot mark ready for handover: Vehicle operational status is " ++
      status.text ++ ". Must be ACTIVE."))
  | none =>
    if desk.hasFinalized bookingId .preTrip then .ok ()
    else .error (.badRequest "Cannot mark ready for handover: Pre-trip vehicle inspection must be recorded and finalized first.")

/-- The preconditions of `ONGOING`, up to the handover code. -/
def checkOngoing (desk : RentalDesk) (booking : RentalBooking) (ctx : TransitionContext)
    (env : TransitionEnv) : Except HttpError Unit :=
  match (desk.carStatus booking).filter (· ≠ .active) with
  | some status =>
    .error (.conflict ("Cannot start trip: Vehicle operational status is " ++ status.text ++
      ". Vehicle must be ACTIVE."))
  | none =>
    match ((desk.cars booking.carId).map Car.verificationStatus).filter (· ≠ .verified) with
    | some status =>
      .error (.conflict ("Cannot start trip: Vehicle verification status is " ++ status.text ++
        ". Vehicle must be VERIFIED."))
    | none =>
      if !env.eligible then
        .error (.conflict "Cannot start trip: Vehicle has operational blockers.")
      else if (desk.deposits ctx.bookingId).any (·.status = .required) ∧ !ctx.isAdmin then
        .error (.badRequest "Cannot start trip: Mandatory customer security deposit must be held prior to pickup.")
      else if booking.paymentStatus.any (· ≠ .paid) ∧ !ctx.isAdmin then
        .error (.badRequest "Cannot start trip: Booking payment has not been completed.")
      else if env.now < booking.startDate - env.allowEarlyPickupMinutes * 60 * 1000 ∧
          !ctx.isAdmin then
        .error (.badRequest ("Early pickup is not permitted more than " ++
          toString env.allowEarlyPickupMinutes ++ " minutes before scheduled start time."))
      else if !desk.hasFinalized ctx.bookingId .preTrip then
        .error (.badRequest "Cannot start trip: Pre-trip vehicle inspection must be recorded and finalized before vehicle handover.")
      else .ok ()

/-- The preconditions of `COMPLETED`, up to the handover code. -/
def checkCompleted (desk : RentalDesk) (booking : RentalBooking) (ctx : TransitionContext) :
    Except HttpError Unit :=
  if booking.disputeFlag ∧ !ctx.isAdmin then
    .error (.badRequest "Cannot complete trip: Booking is flagged with an active dispute or damage claim. Resolve dispute before completion.")
  else if !desk.hasFinalized ctx.bookingId .postTrip then
    .error (.badRequest "Cannot complete trip: Post-trip vehicle inspection must be recorded and finalized before completing trip.")
  else .ok ()

/-! ## The handover code -/

/-- An administrator may give a reason in place of the code, and the code that he gives is not
compared. -/
def checkHandoverCode (desk : RentalDesk) (ctx : TransitionContext) (otpType : HandoverOtpType)
    (now : ℤ) (missingCode missingReason : String) : DeskReply Unit :=
  -- an empty code counts as none
  match ctx.handoverOtp.filter (· ≠ "") with
  | none =>
    if !ctx.isAdmin then (desk, .error (.badRequest missingCode))
    else if lacksReason ctx.reason then (desk, .error (.badRequest missingReason))
    else (desk, .ok ())
  | some code =>
    if ctx.isAdmin then (desk, .ok ())
    else
      let verified := verifyOtp desk.otps ctx.bookingId otpType code now
      ({ desk with otps := verified.1 }, verified.2)

def validateBusinessPreconditions (desk : RentalDesk) (booking : RentalBooking)
    (ctx : TransitionContext) (env : TransitionEnv) : DeskReply Unit :=
  match ctx.target with
  | .handoverReady => (desk, checkHandoverReady desk ctx.bookingId booking)
  | .ongoing =>
    andThen (desk, checkOngoing desk booking ctx env) fun desk _ =>
      checkHandoverCode desk ctx .pickup env.now
        "Customer handover OTP is required to verify pickup and start the trip."
        "Admin trip start override requires explicit justification (minimum 10 characters)."
  | .returnPending => (desk, .ok ())
  | .completed =>
    andThen (desk, checkCompleted desk booking ctx) fun desk _ =>
      checkHandoverCode desk ctx .return env.now
        "Customer return verification OTP is required to complete the trip."
        "Admin trip completion override requires explicit justification (minimum 10 characters)."

/-! ## The transaction -/

/-- The words of `/damage|scratch|dent|accident|broken|cracked/i`. -/
def mentionsDamage (notes : String) : Bool :=
  ["damage", "scratch", "dent", "accident", "broken", "cracked"].any
    (includesText (String.ofList (notes.toList.map Char.toLower)))

def Inspection.showsDamage (inspection : Inspection) : Bool :=
  !inspection.damagePhotos.isEmpty || inspection.conditionNotes.any mentionsDamage

def DamageClaim.unresolved (claim : DamageClaim) : Bool :=
  claim.status ≠ .rejected ∧ claim.status ≠ .settled

def RentalDesk.hasDamage (desk : RentalDesk) (bookingId : Id) : Bool :=
  (desk.findInspection bookingId .postTrip).any (·.showsDamage) ||
    desk.claims.any fun claim => claim.bookingId = bookingId ∧ claim.unresolved

/-- The safety hold after a trip with damage. -/
def damageHold (bookingId carId : Id) (env : TransitionEnv) : VehicleBlock where
  id := env.blockId
  carId
  startDate := env.now
  endDate := env.now + 7 * 24 * 60 * 60 * 1000
  blockType := .safetyHold
  reason := some ("Post-rental damage inspection hold for booking " ++ bookingId)

def Car.afterTrip (car : Car) (hasDamage : Bool) : Car :=
  if hasDamage then { car with operationalStatus := .inactive, isAvailable := false }
  else { car with operationalStatus := .active, isAvailable := true }

def RentalDesk.setBookingStatus (desk : RentalDesk) (bookingId : Id) (status : BookingStatus) :
    RentalDesk :=
  { desk with
    bookings := Function.update desk.bookings bookingId
      ((desk.bookings bookingId).map fun booking => { booking with status := status }) }

/-- `fulfillmentRecord.updateMany` -/
def RentalDesk.setStage (desk : RentalDesk) (bookingId : Id) (stage : FulfillmentStage) :
    RentalDesk :=
  { desk with
    fulfillment := Function.update desk.fulfillment bookingId
      ((desk.fulfillment bookingId).map fun record => { record with stage := stage }) }

def RentalDesk.endTrip (desk : RentalDesk) (bookingId carId : Id) (env : TransitionEnv) :
    RentalDesk :=
  let hasDamage := desk.hasDamage bookingId
  { desk with
    cars := Function.update desk.cars carId ((desk.cars carId).map (·.afterTrip hasDamage))
    blocks := if hasDamage then desk.blocks ++ [damageHold bookingId carId env] else desk.blocks }

def rentalTransaction (desk : RentalDesk) (bookingId carId : Id) (target : RentalTarget)
    (env : TransitionEnv) : RentalDesk :=
  let moved := desk.setBookingStatus bookingId target.status
  match target with
  | .handoverReady => moved.setStage bookingId .readyForPickup
  | .ongoing => moved.setStage bookingId .activeRental
  | .returnPending => moved
  | .completed => (moved.endTrip bookingId carId env).setStage bookingId .completed

/-! ## The transition -/

structure BookingTransitionResult where
  previousStatus : BookingStatus
  newStatus : BookingStatus
deriving DecidableEq

/-- What a transition does once it holds the lock. -/
def transitionBody (desk : RentalDesk) (ctx : TransitionContext) (env : TransitionEnv) :
    DeskReply BookingTransitionResult :=
  if !env.up .transitionReads then (desk, .error (.internal "The database is unavailable."))
  else
    match desk.bookings ctx.bookingId with
    | none => (desk, .error (.notFound ("Booking with ID " ++ ctx.bookingId ++ " not found.")))
    | some booking =>
      -- without any check: a booking that is there already counts as moved
      if booking.status = ctx.target.status then (desk, .ok ⟨booking.status, booking.status⟩)
      else
        andThen (desk, validateActor booking ctx) fun desk _ =>
        if ctx.target.status ∉ lifecycleMatrix booking.status then
          (desk, .error (.badRequest ("Invalid lifecycle transition: Cannot move booking from " ++
            booking.status.text ++ " to " ++ ctx.target.status.text ++ ".")))
        else
          andThen (validateBusinessPreconditions desk booking ctx env) fun desk _ =>
          if !env.up .transitionCommit then
            (desk, .error (.internal "The database is unavailable."))
          else
            (rentalTransaction desk ctx.bookingId booking.carId ctx.target env,
              .ok ⟨booking.status, ctx.target.status⟩)

def withCancellationLock {R : Type} (desk : RentalDesk) (bookingId : Id) (token : String) (now : ℤ)
    (up : Bool) (body : RentalDesk → DeskReply R) : DeskReply R :=
  if !up then
    (desk, .error (.internal "Cancellation lock coordination service is temporarily unavailable. Please retry in a few moments."))
  else
    match acquireCancellationLock desk.locks bookingId token now with
    | .error e => (desk, .error e)
    | .ok locks =>
      ensuring (body { desk with locks }) fun desk =>
        { desk with locks := releaseCancellationLock desk.locks bookingId token }

def executeTransition (desk : RentalDesk) (ctx : TransitionContext) (env : TransitionEnv) :
    DeskReply BookingTransitionResult :=
  withCancellationLock desk ctx.bookingId env.token env.now (env.up .transitionLock) fun desk =>
    transitionBody desk ctx env

/-! ## What a transition can do -/

/-- The targets whose preconditions look at a handover code. -/
def RentalTarget.takesCode : RentalTarget → Bool
  | .ongoing | .completed => true
  | .handoverReady | .returnPending => false

/-- The checks of a transition that is not there yet. -/
structure TransitionAdmitted (desk : RentalDesk) (booking : RentalBooking) (ctx : TransitionContext)
    (env : TransitionEnv) : Prop where
  actor : validateActor booking ctx = .ok ()
  legal : ctx.target.status ∈ lifecycleMatrix booking.status
  preconditions : (validateBusinessPreconditions desk booking ctx env).2 = .ok ()

namespace TransitionAdmitted

variable {desk : RentalDesk} {booking : RentalBooking} {ctx : TransitionContext}
  {env : TransitionEnv}

theorem checked_ongoing (h : TransitionAdmitted desk booking ctx env)
    (htarget : ctx.target = .ongoing) :
    checkOngoing desk booking ctx env = .ok () ∧ ∃ missingCode missingReason,
      (checkHandoverCode desk ctx .pickup env.now missingCode missingReason).2 = .ok () := by
  have hpre := h.preconditions
  rw [validateBusinessPreconditions, htarget] at hpre
  obtain ⟨_, hcheck, hcode⟩ := andThen_eq_ok.mp hpre
  exact ⟨hcheck, _, _, hcode⟩

theorem checked_completed (h : TransitionAdmitted desk booking ctx env)
    (htarget : ctx.target = .completed) :
    checkCompleted desk booking ctx = .ok () ∧ ∃ missingCode missingReason,
      (checkHandoverCode desk ctx .return env.now missingCode missingReason).2 = .ok () := by
  have hpre := h.preconditions
  rw [validateBusinessPreconditions, htarget] at hpre
  obtain ⟨_, hcheck, hcode⟩ := andThen_eq_ok.mp hpre
  exact ⟨hcheck, _, _, hcode⟩

end TransitionAdmitted

/-- The transition goes through once it has the lock. -/
def TransitionReady (desk : RentalDesk) (ctx : TransitionContext) (env : TransitionEnv) : Prop :=
  env.up .transitionReads ∧ ∃ booking, desk.bookings ctx.bookingId = some booking ∧
    (booking.status = ctx.target.status ∨
      TransitionAdmitted desk booking ctx env ∧ env.up .transitionCommit)

theorem checkHandoverCode_fst (desk : RentalDesk) (ctx : TransitionContext)
    (otpType : HandoverOtpType) (now : ℤ) (missingCode missingReason : String) :
    ∃ otps, (checkHandoverCode desk ctx otpType now missingCode missingReason).1 =
      { desk with otps } ∧ unverifiedCount otps ≤ unverifiedCount desk.otps := by
  unfold checkHandoverCode
  split
  · split
    · exact ⟨desk.otps, rfl, le_rfl⟩
    · split
      · exact ⟨desk.otps, rfl, le_rfl⟩
      · exact ⟨desk.otps, rfl, le_rfl⟩
  · split
    · exact ⟨desk.otps, rfl, le_rfl⟩
    · exact ⟨_, rfl, unverifiedCount_verifyOtp_le _ _ _ _ _⟩

theorem validateBusinessPreconditions_fst (desk : RentalDesk) (booking : RentalBooking)
    (ctx : TransitionContext) (env : TransitionEnv) :
    ∃ otps, (validateBusinessPreconditions desk booking ctx env).1 = { desk with otps } ∧
      unverifiedCount otps ≤ unverifiedCount desk.otps ∧
      (ctx.target.takesCode = false → otps = desk.otps) := by
  unfold validateBusinessPreconditions
  cases ctx.target with
  | handoverReady => exact ⟨desk.otps, rfl, le_rfl, fun _ => rfl⟩
  | ongoing =>
    cases hcheck : checkOngoing desk booking ctx env with
    | error e => exact ⟨desk.otps, rfl, le_rfl, fun _ => rfl⟩
    | ok =>
      rw [andThen_ok]
      obtain ⟨otps, hfst, hcount⟩ := checkHandoverCode_fst desk ctx _ _ _ _
      exact ⟨otps, hfst, hcount, fun h => by cases h⟩
  | returnPending => exact ⟨desk.otps, rfl, le_rfl, fun _ => rfl⟩
  | completed =>
    cases hcheck : checkCompleted desk booking ctx with
    | error e => exact ⟨desk.otps, rfl, le_rfl, fun _ => rfl⟩
    | ok =>
      rw [andThen_ok]
      obtain ⟨otps, hfst, hcount⟩ := checkHandoverCode_fst desk ctx _ _ _ _
      exact ⟨otps, hfst, hcount, fun h => by cases h⟩

theorem transitionBody_cases (desk : RentalDesk) (ctx : TransitionContext) (env : TransitionEnv) :
    (¬ TransitionReady desk ctx env ∧ ∃ e otps, transitionBody desk ctx env =
        ({ desk with otps }, .error e) ∧ unverifiedCount otps ≤ unverifiedCount desk.otps ∧
          (ctx.target.takesCode = false → otps = desk.otps)) ∨
      (TransitionReady desk ctx env ∧ ∃ booking, desk.bookings ctx.bookingId = some booking ∧
        ((booking.status = ctx.target.status ∧
            transitionBody desk ctx env = (desk, .ok ⟨booking.status, booking.status⟩)) ∨
          (booking.status ≠ ctx.target.status ∧ TransitionAdmitted desk booking ctx env ∧
            ∃ otps, unverifiedCount otps ≤ unverifiedCount desk.otps ∧
              transitionBody desk ctx env =
                (rentalTransaction { desk with otps } ctx.bookingId booking.carId ctx.target env,
                  .ok ⟨booking.status, ctx.target.status⟩)))) := by
  unfold transitionBody
  cases hreads : env.up .transitionReads with
  | false =>
    refine .inl ⟨fun h => ?_, _, desk.otps, rfl, le_rfl, fun _ => rfl⟩
    rw [h.1] at hreads
    cases hreads
  | true =>
    cases hbooking : desk.bookings ctx.bookingId with
    | none =>
      refine .inl ⟨?_, _, desk.otps, rfl, le_rfl, fun _ => rfl⟩
      rintro ⟨-, booking, hsome, -⟩
      rw [hbooking] at hsome
      cases hsome
    | some booking =>
      have hready : TransitionReady desk ctx env ↔ booking.status = ctx.target.status ∨
          TransitionAdmitted desk booking ctx env ∧ env.up .transitionCommit = true := by
        constructor
        · rintro ⟨-, other, hother, h⟩
          rwa [← Option.some.inj (hbooking.symm.trans hother)] at h
        · exact fun h => ⟨hreads, booking, hbooking, h⟩
      rw [hready]
      dsimp only [Bool.not_true, Bool.false_eq_true, if_false]
      by_cases hstatus : booking.status = ctx.target.status
      · rw [if_pos hstatus]
        exact .inr ⟨.inl hstatus, booking, rfl, .inl ⟨hstatus, rfl⟩⟩
      rw [if_neg hstatus]
      cases hactor : validateActor booking ctx with
      | error e =>
        refine .inl ⟨?_, e, desk.otps, rfl, le_rfl, fun _ => rfl⟩
        rintro (h | ⟨h, -⟩)
        · exact hstatus h
        · have := h.actor
          rw [hactor] at this
          cases this
      | ok =>
        rw [andThen_ok]
        by_cases hlegal : ctx.target.status ∈ lifecycleMatrix booking.status
        · rw [if_neg (not_not.mpr hlegal)]
          obtain ⟨otps, hfst, hcount, hsame⟩ :=
            validateBusinessPreconditions_fst desk booking ctx env
          cases hpre : (validateBusinessPreconditions desk booking ctx env).2 with
          | error e =>
            rw [andThen_of_error hpre, hfst]
            refine .inl ⟨?_, e, otps, rfl, hcount, hsame⟩
            rintro (h | ⟨h, -⟩)
            · exact hstatus h
            · have := h.preconditions
              rw [hpre] at this
              cases this
          | ok =>
            rw [andThen_of_ok hpre, hfst]
            have hadmitted : TransitionAdmitted desk booking ctx env :=
              ⟨hactor, hlegal, hpre⟩
            cases hcommit : env.up .transitionCommit with
            | false =>
              refine .inl ⟨?_, _, otps, rfl, hcount, hsame⟩
              rintro (h | ⟨-, h⟩)
              · exact hstatus h
              · cases h
            | true =>
              exact .inr ⟨.inr ⟨hadmitted, rfl⟩, booking, rfl,
                .inr ⟨hstatus, hadmitted, otps, hcount, rfl⟩⟩
        · rw [if_pos hlegal]
          refine .inl ⟨?_, _, desk.otps, rfl, le_rfl, fun _ => rfl⟩
          rintro (h | ⟨h, -⟩)
          · exact hstatus h
          · exact hlegal h.legal

variable {desk : RentalDesk} {ctx : TransitionContext} {env : TransitionEnv}

theorem succeeds_transitionBody_iff :
    Succeeds (transitionBody desk ctx env) ↔ TransitionReady desk ctx env := by
  rcases transitionBody_cases desk ctx env with
    ⟨hnot, e, otps, h, -⟩ | ⟨hready, booking, -, ⟨-, h⟩ | ⟨-, -, otps, -, h⟩⟩
  · rw [h]
    exact iff_of_false not_succeeds_error hnot
  · rw [h]
    exact iff_of_true succeeds_ok hready
  · rw [h]
    exact iff_of_true succeeds_ok hready

theorem transitionReady_congr (desk : RentalDesk) (locks : CancellationLocks)
    (fulfillment : Id → Option FulfillmentRecord) (ctx : TransitionContext) (env : TransitionEnv) :
    TransitionReady { desk with locks, fulfillment } ctx env ↔ TransitionReady desk ctx env := by
  have hcode : ∀ otpType missingCode missingReason,
      (checkHandoverCode { desk with locks, fulfillment } ctx otpType env.now missingCode
        missingReason).2 =
        (checkHandoverCode desk ctx otpType env.now missingCode missingReason).2 := by
    intro otpType missingCode missingReason
    unfold checkHandoverCode
    cases ctx.handoverOtp.filter (· ≠ "") with
    | none =>
      cases ctx.isAdmin with
      | false => rfl
      | true =>
        cases lacksReason ctx.reason with
        | false => rfl
        | true => rfl
    | some code =>
      cases ctx.isAdmin with
      | false => rfl
      | true => rfl
  have hpreconditions : ∀ booking,
      (validateBusinessPreconditions { desk with locks, fulfillment } booking ctx env).2 =
        (validateBusinessPreconditions desk booking ctx env).2 := by
    intro booking
    unfold validateBusinessPreconditions
    cases ctx.target with
    | handoverReady => rfl
    | ongoing =>
      have hcheck : checkOngoing { desk with locks, fulfillment } booking ctx env =
          checkOngoing desk booking ctx env := by
        unfold checkOngoing RentalDesk.carStatus RentalDesk.hasFinalized RentalDesk.findInspection
        rfl
      dsimp only
      rw [hcheck]
      cases checkOngoing desk booking ctx env with
      | error e => rfl
      | ok =>
        rw [andThen_ok, andThen_ok]
        exact hcode _ _ _
    | returnPending => rfl
    | completed =>
      have hcheck : checkCompleted { desk with locks, fulfillment } booking ctx =
          checkCompleted desk booking ctx := by
        unfold checkCompleted RentalDesk.hasFinalized RentalDesk.findInspection
        rfl
      dsimp only
      rw [hcheck]
      cases checkCompleted desk booking ctx with
      | error e => rfl
      | ok =>
        rw [andThen_ok, andThen_ok]
        exact hcode _ _ _
  have hadmitted : ∀ booking, TransitionAdmitted { desk with locks, fulfillment } booking ctx env ↔
      TransitionAdmitted desk booking ctx env := by
    intro booking
    constructor
    · exact fun h => ⟨h.actor, h.legal, hpreconditions booking ▸ h.preconditions⟩
    · exact fun h => ⟨h.actor, h.legal, (hpreconditions booking).symm ▸ h.preconditions⟩
  unfold TransitionReady
  simp only [hadmitted]

theorem transitionReady_locks (desk : RentalDesk) (locks : CancellationLocks)
    (ctx : TransitionContext) (env : TransitionEnv) :
    TransitionReady { desk with locks } ctx env ↔ TransitionReady desk ctx env :=
  transitionReady_congr desk locks desk.fulfillment ctx env

/-! ## With the lock -/

theorem acquireCancellationLock_eq {locks : CancellationLocks} {bookingId : Id} {token : String}
    {now : ℤ} (hfree : locks.held bookingId now = false) :
    acquireCancellationLock locks bookingId token now =
      .ok (Function.update locks bookingId (some ⟨token, now + cancellationLockTtlMs⟩)) := by
  rw [acquireCancellationLock, hfree]
  rfl

theorem executeTransition_of_held (hheld : desk.locks.held ctx.bookingId env.now = true) :
    ∃ e, executeTransition desk ctx env = (desk, .error e) := by
  unfold executeTransition withCancellationLock
  cases env.up .transitionLock with
  | false => exact ⟨_, rfl⟩
  | true =>
    rw [acquireCancellationLock, hheld]
    exact ⟨_, rfl⟩

theorem executeTransition_of_down (desk : RentalDesk) (ctx : TransitionContext)
    (hdown : env.up .transitionLock = false) :
    ∃ e, executeTransition desk ctx env = (desk, .error e) := by
  unfold executeTransition withCancellationLock
  rw [hdown]
  exact ⟨_, rfl⟩

theorem executeTransition_of_free (hup : env.up .transitionLock = true)
    (hfree : desk.locks.held ctx.bookingId env.now = false) :
    executeTransition desk ctx env =
      ensuring
        (transitionBody { desk with
            locks := Function.update desk.locks ctx.bookingId
              (some ⟨env.token, env.now + cancellationLockTtlMs⟩) } ctx env)
        fun desk => { desk with
          locks := releaseCancellationLock desk.locks ctx.bookingId env.token } := by
  unfold executeTransition withCancellationLock
  rw [hup, acquireCancellationLock_eq hfree]
  rfl

def LockFree (desk : RentalDesk) (bookingId : Id) (env : TransitionEnv) : Prop :=
  env.up .transitionLock = true ∧ desk.locks.held bookingId env.now = false

instance (desk : RentalDesk) (bookingId : Id) (env : TransitionEnv) :
    Decidable (LockFree desk bookingId env) :=
  inferInstanceAs (Decidable (_ ∧ _))

theorem succeeds_executeTransition_iff :
    Succeeds (executeTransition desk ctx env) ↔
      LockFree desk ctx.bookingId env ∧ TransitionReady desk ctx env := by
  cases hup : env.up .transitionLock with
  | false =>
    obtain ⟨e, h⟩ := executeTransition_of_down desk ctx hup
    rw [h]
    exact iff_of_false not_succeeds_error fun hfree => by
      have := hfree.1.1
      rw [hup] at this
      cases this
  | true =>
    cases hheld : desk.locks.held ctx.bookingId env.now with
    | true =>
      obtain ⟨e, h⟩ := executeTransition_of_held hheld
      rw [h]
      exact iff_of_false not_succeeds_error fun hfree => by
        have := hfree.1.2
        rw [hheld] at this
        cases this
    | false =>
      rw [executeTransition_of_free hup hheld, succeeds_ensuring, succeeds_transitionBody_iff,
        transitionReady_locks]
      exact (and_iff_right ⟨hup, hheld⟩).symm

theorem rentalTransaction_frame (desk : RentalDesk) (bookingId carId : Id) (target : RentalTarget)
    (env : TransitionEnv) :
    (rentalTransaction desk bookingId carId target env).inspections = desk.inspections ∧
      (rentalTransaction desk bookingId carId target env).otps = desk.otps ∧
      (rentalTransaction desk bookingId carId target env).deposits = desk.deposits ∧
      (rentalTransaction desk bookingId carId target env).bookings =
        (desk.setBookingStatus bookingId target.status).bookings := by
  cases target with
  | handoverReady => exact ⟨rfl, rfl, rfl, rfl⟩
  | ongoing => exact ⟨rfl, rfl, rfl, rfl⟩
  | returnPending => exact ⟨rfl, rfl, rfl, rfl⟩
  | completed => exact ⟨rfl, rfl, rfl, rfl⟩

def RentalDesk.statusOf (desk : RentalDesk) (bookingId : Id) : Option BookingStatus :=
  (desk.bookings bookingId).map RentalBooking.status

theorem statusOf_setBookingStatus {bookingId : Id} {booking : RentalBooking}
    (h : desk.bookings bookingId = some booking) (status : BookingStatus) :
    (desk.setBookingStatus bookingId status).statusOf bookingId = some status := by
  rw [RentalDesk.statusOf, RentalDesk.setBookingStatus]
  dsimp only
  rw [Function.update_self, h]
  rfl

theorem executeTransition_cases (desk : RentalDesk) (ctx : TransitionContext)
    (env : TransitionEnv) :
    (¬ (LockFree desk ctx.bookingId env ∧ TransitionReady desk ctx env) ∧
      ∃ e otps locks, executeTransition desk ctx env = ({ desk with otps, locks }, .error e) ∧
        unverifiedCount otps ≤ unverifiedCount desk.otps ∧
        (ctx.target.takesCode = false → otps = desk.otps)) ∨
    ((LockFree desk ctx.bookingId env ∧ TransitionReady desk ctx env) ∧
      ∃ desk' result, executeTransition desk ctx env = (desk', .ok result) ∧
        desk'.statusOf ctx.bookingId = some ctx.target.status) := by
  by_cases hfree : LockFree desk ctx.bookingId env
  · rw [executeTransition_of_free hfree.1 hfree.2, and_iff_right hfree]
    rcases transitionBody_cases { desk with
        locks := Function.update desk.locks ctx.bookingId
          (some ⟨env.token, env.now + cancellationLockTtlMs⟩) } ctx env with
      ⟨hnot, e, otps, h, hcount, hsame⟩ |
        ⟨hready, booking, hbooking, ⟨hstatus, h⟩ | ⟨-, -, otps, -, h⟩⟩
    · rw [transitionReady_locks] at hnot
      rw [h]
      exact .inl ⟨hnot, e, otps, _, rfl, hcount, hsame⟩
    · rw [transitionReady_locks] at hready
      rw [h]
      refine .inr ⟨hready, _, _, rfl, ?_⟩
      have hbooking' : desk.bookings ctx.bookingId = some booking := hbooking
      exact (congrArg (Option.map RentalBooking.status) hbooking').trans (congrArg some hstatus)
    · rw [transitionReady_locks] at hready
      rw [h]
      refine .inr ⟨hready, _, _, rfl, ?_⟩
      have hframe := (rentalTransaction_frame { desk with
        otps
        locks := Function.update desk.locks ctx.bookingId
          (some ⟨env.token, env.now + cancellationLockTtlMs⟩) } ctx.bookingId booking.carId ctx.target
            env).2.2.2
      rw [RentalDesk.statusOf]
      dsimp only
      rw [hframe]
      exact statusOf_setBookingStatus hbooking _
  · refine .inl ⟨fun h => hfree h.1, ?_⟩
    cases hup : env.up .transitionLock with
    | false =>
      obtain ⟨e, h⟩ := executeTransition_of_down desk ctx hup
      exact ⟨e, desk.otps, desk.locks, h, le_rfl, fun _ => rfl⟩
    | true =>
      have hheld : desk.locks.held ctx.bookingId env.now = true := by
        rw [← Bool.not_eq_false]
        exact fun h => hfree ⟨hup, h⟩
      obtain ⟨e, h⟩ := executeTransition_of_held hheld
      exact ⟨e, desk.otps, desk.locks, h, le_rfl, fun _ => rfl⟩

end CarRental
