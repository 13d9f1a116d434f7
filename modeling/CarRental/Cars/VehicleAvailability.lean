import CarRental.Bookings.FleetCalendar

/-!
# The availability of a vehicle

`VehicleAvailabilityService.checkAvailability`: the conflicts that a vehicle has in an
interval, for the customer who asks.

Dates are milliseconds.  What the server's time zone makes of them is a parameter
(`ServerCalendar`).  Ids are never the empty string, so the source's tests of an optional id
only ask whether it is there.
-/

namespace CarRental

/-! ## The tables -/

inductive VehicleOperationalStatus where
  | draft
  | pendingVerification
  | active
  | inactive
  | maintenance
  | suspended
  | retired
deriving DecidableEq, Repr

inductive VehicleVerificationStatus where
  | pending
  | verified
  | rejected
deriving DecidableEq, Repr

inductive VerificationStatus where
  | pending
  | verified
  | suspended
deriving DecidableEq, Repr

inductive VehicleBlockType where
  | maintenance
  | accidentRepair
  | routineInspection
  | vendorBlackout
  | adminLock
  | safetyHold
deriving DecidableEq, Repr

inductive VehicleHoldStatus where
  | active
  | released
  | expired
  | converted
deriving DecidableEq, Repr

inductive ServiceAreaStatus where
  | active
  | comingSoon
  | inactive
deriving DecidableEq, Repr

structure SupportedCity where
  name : String
  status : ServiceAreaStatus
deriving DecidableEq

structure ServiceArea where
  name : String
  status : ServiceAreaStatus
  city : SupportedCity
deriving DecidableEq

/-- A car, with its vendor's verification and its service area. -/
structure Car where
  id : Id
  vendorId : Id
  pickupHubId : Option Id
  isAvailable : Bool
  operationalStatus : VehicleOperationalStatus
  verificationStatus : VehicleVerificationStatus
  vendorStatus : VerificationStatus
  serviceArea : Option ServiceArea
  availableTripTypes : List TripType
  blockedDates : List ℤ
deriving DecidableEq

structure LocationException where
  id : Id
  locationId : Id
  date : ℤ
  isClosed : Bool
  reason : Option String
deriving DecidableEq

structure VehicleBlock where
  id : Id
  carId : Id
  startDate : ℤ
  endDate : ℤ
  blockType : VehicleBlockType
  reason : Option String
deriving DecidableEq

structure VehicleHold where
  id : Id
  carId : Id
  customerId : Id
  vendorId : Id
  startDate : ℤ
  endDate : ℤ
  expiresAt : ℤ
  status : VehicleHoldStatus
  idempotencyKey : Option String
deriving DecidableEq

structure VehicleDb where
  cars : List Car
  exceptions : List LocationException
  bookings : List FleetBooking
  blocks : List VehicleBlock
  holds : List VehicleHold
deriving DecidableEq

/-- Midnight and 23:59:59 of the day of an instant, in the time zone of the server. -/
structure ServerCalendar where
  startOfDay : ℤ → ℤ
  lastSecond : ℤ → ℤ

/-! ## Texts -/

def BookingStatus.text : BookingStatus → String
  | .pending => "PENDING"
  | .confirmed => "CONFIRMED"
  | .handoverReady => "HANDOVER_READY"
  | .ongoing => "ONGOING"
  | .returnPending => "RETURN_PENDING"
  | .completed => "COMPLETED"
  | .cancelled => "CANCELLED"
  | .refundPending => "REFUND_PENDING"
  | .refunded => "REFUNDED"
  | .disputed => "DISPUTED"
  | .expired => "EXPIRED"

def VehicleBlockType.text : VehicleBlockType → String
  | .maintenance => "MAINTENANCE"
  | .accidentRepair => "ACCIDENT_REPAIR"
  | .routineInspection => "ROUTINE_INSPECTION"
  | .vendorBlackout => "VENDOR_BLACKOUT"
  | .adminLock => "ADMIN_LOCK"
  | .safetyHold => "SAFETY_HOLD"

/-- `reason || fallback` -/
def orText (reason : Option String) (fallback : String) : String :=
  (reason.filter (· ≠ "")).getD fallback

/-! ## Conflicts -/

inductive ConflictType where
  | booking
  | hold
  | block
  | maintenance
  | locationClosure
deriving DecidableEq, Repr

structure VehicleAvailabilityConflict where
  type : ConflictType
  id : Option Id
  startDate : ℤ
  endDate : ℤ
  status : Option BookingStatus
  reason : String
deriving DecidableEq

structure VehicleAvailabilityResult where
  available : Bool
  reason : Option String
  conflicts : List VehicleAvailabilityConflict
deriving DecidableEq

structure AvailabilityOptions where
  excludeBookingId : Option Id
  actorId : Option Id
  hubId : Option Id

/-- Two half-open intervals meet. -/
def meets (startDate endDate otherStart otherEnd : ℤ) : Bool :=
  otherStart < endDate ∧ startDate < otherEnd

def LocationException.closes (exc : LocationException) (locationId : Id) (first last : ℤ) : Bool :=
  exc.locationId = locationId ∧ exc.isClosed ∧ first ≤ exc.date ∧ exc.date ≤ last

def VehicleBlock.overlaps (blk : VehicleBlock) (carId : Id) (startDate endDate : ℤ) : Bool :=
  blk.carId = carId ∧ meets startDate endDate blk.startDate blk.endDate

/-- A hold that still binds others. -/
def VehicleHold.live (hold : VehicleHold) (now : ℤ) : Bool :=
  hold.status = .active ∧ now < hold.expiresAt

def VehicleHold.overlaps (hold : VehicleHold) (carId : Id) (startDate endDate now : ℤ) : Bool :=
  hold.carId = carId ∧ hold.live now ∧ meets startDate endDate hold.startDate hold.endDate

def Car.hasBlockedDate (car : Car) (startDate endDate : ℤ) : Bool :=
  car.blockedDates.any fun blockedDate => startDate ≤ blockedDate ∧ blockedDate ≤ endDate

/-- The closures of a hub, on any day of the interval. -/
def closuresOf (calendar : ServerCalendar) (db : VehicleDb) (hubId : Option Id)
    (startDate endDate : ℤ) : List LocationException :=
  match hubId with
  | none => []
  | some locationId => db.exceptions.filter
      (·.closes locationId (calendar.startOfDay startDate) (calendar.lastSecond endDate))

def closureConflict (exc : LocationException) : VehicleAvailabilityConflict :=
  ⟨.locationClosure, some exc.id, exc.date, exc.date, none,
    orText exc.reason "Location closure / holiday"⟩

def bookingConflict (booking : FleetBooking) : VehicleAvailabilityConflict :=
  ⟨.booking, some booking.id, booking.startDate, booking.endDate, some booking.status,
    "Reserved by active booking " ++ booking.id ++ " (" ++ booking.status.text ++ ")"⟩

def blockConflict (blk : VehicleBlock) : VehicleAvailabilityConflict :=
  ⟨if blk.blockType = .maintenance then .maintenance else .block, some blk.id, blk.startDate,
    blk.endDate, none, orText blk.reason ("Operational block (" ++ blk.blockType.text ++ ")")⟩

def holdConflict (hold : VehicleHold) : VehicleAvailabilityConflict :=
  ⟨.hold, some hold.id, hold.startDate, hold.endDate, none,
    "Vehicle is currently on temporary hold during checkout."⟩

def bookingsInTheWay (db : VehicleDb) (carId : Id) (startDate endDate : ℤ)
    (excludeBookingId : Option Id) : List FleetBooking :=
  db.bookings.filter fun booking =>
    booking.overlaps creationStatuses carId startDate endDate ∧ some booking.id ≠ excludeBookingId

def holdsInTheWay (holds : List VehicleHold) (carId : Id) (startDate endDate now : ℤ)
    (actorId : Option Id) : List VehicleHold :=
  holds.filter fun hold =>
    hold.overlaps carId startDate endDate now ∧ some hold.customerId ≠ actorId

/-- A result with one conflict for the whole interval. -/
def unavailable (reason : String) (startDate endDate : ℤ) (conflictReason : String) :
    VehicleAvailabilityResult :=
  ⟨false, some reason, [⟨.block, none, startDate, endDate, none, conflictReason⟩]⟩

def unavailableReason : VehicleOperationalStatus → String
  | .maintenance => "Vehicle is currently undergoing maintenance."
  | .suspended => "Vehicle is administratively suspended."
  | .retired => "Vehicle is retired from service."
  | _ => "This vehicle is currently marked as unavailable or deactivated."

def conflictsOf (calendar : ServerCalendar) (db : VehicleDb) (car : Car) (startDate endDate : ℤ)
    (options : AvailabilityOptions) (now : ℤ) : List VehicleAvailabilityConflict :=
  (closuresOf calendar db (options.hubId.or car.pickupHubId) startDate endDate).map
      closureConflict ++
    (bookingsInTheWay db car.id startDate endDate options.excludeBookingId).map bookingConflict ++
    (db.blocks.filter (·.overlaps car.id startDate endDate)).map blockConflict ++
    (holdsInTheWay db.holds car.id startDate endDate now options.actorId).map holdConflict ++
    if car.hasBlockedDate startDate endDate then
      [⟨.block, none, startDate, endDate, none,
        "Vehicle is marked blocked by fleet owner on requested dates."⟩]
    else []

def VehicleDb.findCar (db : VehicleDb) (carId : Id) : Option Car :=
  db.cars.find? fun car => car.id = carId

def checkAvailability (calendar : ServerCalendar) (db : VehicleDb) (carId : Id)
    (startDate endDate : ℤ) (options : AvailabilityOptions) (now : ℤ) :
    Except HttpError VehicleAvailabilityResult :=
  if startDate ≥ endDate then .error (.badRequest "Start date must be before end date.")
  else
    match db.findCar carId with
    | none => .error (.notFound ("Vehicle with ID " ++ carId ++ " not found."))
    | some car =>
      if ¬ car.isAvailable ∨ car.operationalStatus ≠ .active then
        .ok (unavailable (unavailableReason car.operationalStatus) startDate endDate
          (if car.operationalStatus = .maintenance then "Scheduled maintenance in progress."
          else "Vehicle listing is deactivated or not operational."))
      else if car.verificationStatus ≠ .verified then
        .ok (unavailable "Vehicle verification is pending or rejected." startDate endDate
          "Vehicle verification is not completed.")
      else if car.vendorStatus ≠ .verified then
        .ok (unavailable "Vendor is not verified." startDate endDate
          "Vendor verification is pending or suspended.")
      else
        let conflicts := conflictsOf calendar db car startDate endDate options now
        if conflicts = [] then .ok ⟨true, none, []⟩
        else .ok ⟨false, some ("; ".intercalate (conflicts.map (·.reason))), conflicts⟩

def ReportsAvailable (result : Except HttpError VehicleAvailabilityResult) : Prop :=
  ∃ report, result = .ok report ∧ report.available = true

instance (result : Except HttpError VehicleAvailabilityResult) :
    Decidable (ReportsAvailable result) :=
  match result with
  | .ok report =>
    decidable_of_iff (report.available = true)
      ⟨fun h => ⟨report, rfl, h⟩, fun ⟨_, heq, h⟩ => by cases heq; exact h⟩
  | .error _ => .isFalse fun ⟨_, heq, _⟩ => by cases heq

/-! ## What a report says -/

/-- A car that its owner, its vendor's verification and its own leave on the road. -/
structure Car.Operational (car : Car) : Prop where
  listed : car.isAvailable = true
  active : car.operationalStatus = .active
  verified : car.verificationStatus = .verified
  vendor : car.vendorStatus = .verified

theorem findCar_id {db : VehicleDb} {carId : Id} {car : Car} (h : db.findCar carId = some car) :
    car.id = carId :=
  of_decide_eq_true (List.find?_some h :)

section Report

variable {calendar : ServerCalendar} {db : VehicleDb} {car : Car} {startDate endDate now : ℤ}
  {options : AvailabilityOptions}

theorem conflictsOf_eq_nil :
    conflictsOf calendar db car startDate endDate options now = [] ↔
      closuresOf calendar db (options.hubId.or car.pickupHubId) startDate endDate = [] ∧
        bookingsInTheWay db car.id startDate endDate options.excludeBookingId = [] ∧
        db.blocks.filter (·.overlaps car.id startDate endDate) = [] ∧
        holdsInTheWay db.holds car.id startDate endDate now options.actorId = [] ∧
        car.hasBlockedDate startDate endDate = false := by
  have hblocked : (if car.hasBlockedDate startDate endDate = true then
      [(⟨.block, none, startDate, endDate, none,
        "Vehicle is marked blocked by fleet owner on requested dates."⟩ :
        VehicleAvailabilityConflict)] else []) = [] ↔
      car.hasBlockedDate startDate endDate = false := by
    cases car.hasBlockedDate startDate endDate <;> simp
  simp only [conflictsOf, List.append_eq_nil_iff, List.map_eq_nil_iff, and_assoc, hblocked]

theorem checkAvailability_iff (hcar : db.findCar car.id = some car) :
    ReportsAvailable (checkAvailability calendar db car.id startDate endDate options now) ↔
      startDate < endDate ∧ car.Operational ∧
        conflictsOf calendar db car startDate endDate options now = [] := by
  unfold checkAvailability
  split
  next hdates =>
    refine iff_of_false ?_ fun h => absurd h.1 (not_lt.mpr hdates)
    rintro ⟨report, heq, -⟩
    cases heq
  next hdates =>
    rw [hcar]
    have hlt : startDate < endDate := not_le.mp hdates
    dsimp only
    split
    next hstatic =>
      refine iff_of_false ?_ fun ⟨_, hop, _⟩ => hstatic.elim (absurd hop.listed) (absurd hop.active)
      rintro ⟨report, heq, havailable⟩
      cases heq
      cases havailable
    next hstatic =>
      obtain ⟨hlisted, hactive⟩ := not_or.mp hstatic
      split
      next hunverified =>
        refine iff_of_false ?_ fun ⟨_, hop, _⟩ => hunverified hop.verified
        rintro ⟨report, heq, havailable⟩
        cases heq
        cases havailable
      next hverified =>
        split
        next hunverified =>
          refine iff_of_false ?_ fun ⟨_, hop, _⟩ => hunverified hop.vendor
          rintro ⟨report, heq, havailable⟩
          cases heq
          cases havailable
        next hvendor =>
          split
          next hnone =>
            refine iff_of_true ⟨_, rfl, rfl⟩ ⟨hlt, ⟨?_, ?_, ?_, ?_⟩, hnone⟩
            · exact not_not.mp hlisted
            · exact not_not.mp hactive
            · exact not_not.mp hverified
            · exact not_not.mp hvendor
          next hsome =>
            refine iff_of_false ?_ fun ⟨_, _, hnone⟩ => hsome hnone
            rintro ⟨report, heq, havailable⟩
            cases heq
            cases havailable

theorem reportsAvailable_iff {carId : Id} :
    ReportsAvailable (checkAvailability calendar db carId startDate endDate options now) ↔
      startDate < endDate ∧ ∃ car, db.findCar carId = some car ∧ car.Operational ∧
        conflictsOf calendar db car startDate endDate options now = [] := by
  cases hfind : db.findCar carId with
  | none =>
    refine iff_of_false ?_ ?_
    · rintro ⟨report, heq, -⟩
      unfold checkAvailability at heq
      rw [hfind] at heq
      split at heq <;> cases heq
    · rintro ⟨-, car, hcar, -⟩
      cases hcar
  | some car =>
    obtain rfl := findCar_id hfind
    rw [checkAvailability_iff hfind]
    simp only [Option.some.injEq, exists_eq_left']

end Report

end CarRental
