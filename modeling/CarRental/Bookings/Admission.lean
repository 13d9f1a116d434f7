import CarRental.Cars.VehicleAvailability

/-!
# What a new booking is checked against

The checks of `BookingsService.createBooking`, in its order, and how they compare with
`checkAvailability`.

Both know the same conflicts but one.  `checkAvailability` looks for closures of the hub on
every day of the interval, at the car's own hub when none is asked for; `createBooking` looks
at the hub of the request on the first day, and at the hub of the return on the last.  So an
admitted booking is one that is reported available exactly if the hub has no closure besides
(`admitted_available_iff`).

Neither of them keeps a buffer around a booking.  What the checks of other services answer
(prices, coupons, deliveries, risk, quotes) is an argument.
-/

namespace CarRental

def VehicleOperationalStatus.text : VehicleOperationalStatus → String
  | .draft => "DRAFT"
  | .pendingVerification => "PENDING_VERIFICATION"
  | .active => "ACTIVE"
  | .inactive => "INACTIVE"
  | .maintenance => "MAINTENANCE"
  | .suspended => "SUSPENDED"
  | .retired => "RETIRED"

def VehicleVerificationStatus.text : VehicleVerificationStatus → String
  | .pending => "PENDING"
  | .verified => "VERIFIED"
  | .rejected => "REJECTED"

def ServiceAreaStatus.text : ServiceAreaStatus → String
  | .active => "ACTIVE"
  | .comingSoon => "COMING_SOON"
  | .inactive => "INACTIVE"

def TripType.text : TripType → String
  | .localTrip => "LOCAL"
  | .outstation => "OUTSTATION"
  | .airportTransfer => "AIRPORT_TRANSFER"
  | .selfDrive => "SELF_DRIVE"

structure CreateBookingDto where
  carId : Id
  tripType : TripType
  startDate : ℤ
  endDate : ℤ
  pickupHubId : Option Id
  returnHubId : Option Id
deriving DecidableEq

/-- What `evaluateEligibility` returns. -/
structure VehicleEligibility where
  eligible : Bool
  blockerMessages : List String

/-- What the other services answer to the request. -/
structure OtherChecks where
  enabledTripTypes : List TripType
  lock : Except HttpError Unit
  eligibility : Option (Except HttpError VehicleEligibility)
  pricing : Except HttpError Unit
  fulfillment : Except HttpError Unit
  coupon : Except HttpError Unit
  risk : Except HttpError Unit
  quote : Except HttpError Unit

/-- `if (!p) throw error` -/
def require (p : Prop) [Decidable p] (error : HttpError) : Except HttpError Unit :=
  if p then .ok () else .error error

theorem require_bind {α : Type} {p : Prop} [Decidable p] {error : HttpError}
    {next : Unit → Except HttpError α} {a : α} :
    (require p error).bind next = .ok a ↔ p ∧ next () = .ok a := by
  unfold require
  split <;> simp_all [Except.bind]

/-- The first closure of a hub on the day of an instant. -/
def closureOn (calendar : ServerCalendar) (db : VehicleDb) (locationId : Id) (date : ℤ) :
    Option LocationException :=
  db.exceptions.find? (·.closes locationId (calendar.startOfDay date)
    (calendar.lastSecond date + 999))

def checkCar (car : Car) : Except HttpError Unit :=
  (require (car.operationalStatus = .active) (.conflict
    ("Cannot book vehicle: Vehicle operational status is " ++ car.operationalStatus.text ++
      ". Vehicle must be ACTIVE."))).bind fun _ =>
  (require (car.verificationStatus = .verified) (.badRequest
    ("Cannot book vehicle: Vehicle verification status is " ++ car.verificationStatus.text ++
      ". Vehicle must be VERIFIED."))).bind fun _ =>
  (require (car.vendorStatus = .verified)
    (.badRequest "Cannot book a vehicle from an unverified vendor.")).bind fun _ =>
  (require (car.isAvailable = true) (.conflict "This car is marked as unavailable.")).bind fun _ =>
  match car.serviceArea with
  | none => .ok ()
  | some area =>
    (require (area.status = .active) (.conflict
      ("Cannot book vehicle: Assigned service area '" ++ area.name ++ "' is currently " ++
        area.status.text ++ "."))).bind fun _ =>
    require (area.city.status = .active) (.conflict
      ("Cannot book vehicle: City '" ++ area.city.name ++ "' is currently " ++
        area.city.status.text ++ "."))

def checkEligibility (eligibility : Option (Except HttpError VehicleEligibility)) :
    Except HttpError Unit :=
  match eligibility with
  | none => .ok ()
  | some report => report.bind fun report =>
    let messages := " | ".intercalate report.blockerMessages
    require (report.eligible = true) (.badRequest ("Cannot book vehicle: " ++
      if messages = "" then "Vehicle does not meet platform operational readiness standards."
      else messages))

def checkClosures (calendar : ServerCalendar) (db : VehicleDb) (dto : CreateBookingDto) :
    Except HttpError Unit :=
  let pickup : Except HttpError Unit :=
    match dto.pickupHubId.bind fun hub => closureOn calendar db hub dto.startDate with
    | none => .ok ()
    | some exc => .error (.conflict ("Pickup location is closed on the selected date: " ++
        orText exc.reason "Holiday/Closure" ++ "."))
  pickup.bind fun _ =>
    if dto.returnHubId = dto.pickupHubId then .ok ()
    else
      match dto.returnHubId.bind fun hub => closureOn calendar db hub dto.endDate with
      | none => .ok ()
      | some exc => .error (.conflict
          ("Return location is closed on the selected return date: " ++
            orText exc.reason "Holiday/Closure" ++ "."))

/-- The checks of the transaction, under the row lock of the car. -/
def checkCalendar (db : VehicleDb) (customerId : Id) (dto : CreateBookingDto) (now : ℤ) :
    Except HttpError Unit :=
  (require (bookingsInTheWay db dto.carId dto.startDate dto.endDate none = [])
    (.conflict "This car is already booked during the selected date range.")).bind fun _ =>
  match db.blocks.find? (·.overlaps dto.carId dto.startDate dto.endDate) with
  | some blk => .error (.conflict (orText blk.reason ("This car has a scheduled maintenance or " ++
      "operational block during the selected date range.")))
  | none =>
    require (holdsInTheWay db.holds dto.carId dto.startDate dto.endDate now (some customerId) = [])
      (.conflict "This car is currently on temporary hold by another customer during checkout.")

/-- `createBooking` up to its insert. -/
def admitBooking (calendar : ServerCalendar) (db : VehicleDb) (checks : OtherChecks)
    (customerId : Id) (dto : CreateBookingDto) (now : ℤ) : Except HttpError Unit :=
  (require (dto.startDate < dto.endDate)
    (.badRequest "Start date must be before end date.")).bind fun _ =>
  (require (now ≤ dto.startDate) (.badRequest "Start date cannot be in the past.")).bind fun _ =>
  (require (dto.tripType ∈ checks.enabledTripTypes)
    (.badRequest "This trip type is not currently available")).bind fun _ =>
  -- from here on the booking lock of the car is held
  checks.lock.bind fun _ =>
  match db.findCar dto.carId with
  | none => .error (.notFound "Car not found.")
  | some car =>
    (checkCar car).bind fun _ =>
    (checkEligibility checks.eligibility).bind fun _ =>
    (require (dto.tripType ∈ car.availableTripTypes) (.badRequest
      ("This car does not support " ++ dto.tripType.text ++ " trip type."))).bind fun _ =>
    (require (car.hasBlockedDate dto.startDate dto.endDate = false) (.conflict
      "The requested date range conflicts with blocked dates for this car.")).bind fun _ =>
    checks.pricing.bind fun _ =>
    (checkClosures calendar db dto).bind fun _ =>
    checks.fulfillment.bind fun _ =>
    checks.coupon.bind fun _ =>
    checks.risk.bind fun _ =>
    (checkCalendar db customerId dto now).bind fun _ =>
    checks.quote

/-! ## What an admitted booking has passed -/

section Admitted

variable {calendar : ServerCalendar} {db : VehicleDb} {checks : OtherChecks} {customerId : Id}
  {dto : CreateBookingDto} {now : ℤ}

theorem checkCar_eq_ok {car : Car} (h : checkCar car = .ok ()) : car.Operational := by
  simp only [checkCar, require_bind] at h
  obtain ⟨hactive, hverified, hvendor, hlisted, -⟩ := h
  exact ⟨hlisted, hactive, hverified, hvendor⟩

theorem checkCalendar_eq_ok (h : checkCalendar db customerId dto now = .ok ()) :
    bookingsInTheWay db dto.carId dto.startDate dto.endDate none = [] ∧
      db.blocks.filter (·.overlaps dto.carId dto.startDate dto.endDate) = [] ∧
      holdsInTheWay db.holds dto.carId dto.startDate dto.endDate now (some customerId) = [] := by
  simp only [checkCalendar, require_bind] at h
  obtain ⟨hbookings, h⟩ := h
  split at h
  · cases h
  next hblocks =>
    refine ⟨hbookings, List.filter_eq_nil_iff.mpr (List.find?_eq_none.mp hblocks), ?_⟩
    by_contra hholds
    rw [require, if_neg hholds] at h
    cases h

/-- A closure that `createBooking` looks for. -/
def SeenAtBooking (calendar : ServerCalendar) (dto : CreateBookingDto) (exc : LocationException) :
    Prop :=
  (∃ hub ∈ dto.pickupHubId, exc.closes hub (calendar.startOfDay dto.startDate)
      (calendar.lastSecond dto.startDate + 999) = true) ∨
    dto.returnHubId ≠ dto.pickupHubId ∧
      ∃ hub ∈ dto.returnHubId, exc.closes hub (calendar.startOfDay dto.endDate)
        (calendar.lastSecond dto.endDate + 999) = true

instance (exc : LocationException) : Decidable (SeenAtBooking calendar dto exc) :=
  inferInstanceAs (Decidable ((∃ hub ∈ dto.pickupHubId, _) ∨ _ ∧ ∃ hub ∈ dto.returnHubId, _))

theorem checkClosures_eq_ok (h : checkClosures calendar db dto = .ok ()) :
    ∀ exc ∈ db.exceptions, ¬ SeenAtBooking calendar dto exc := by
  unfold checkClosures at h
  obtain ⟨_, hpickup, hreturn⟩ := bind_eq_ok.mp h
  have hnone : ∀ {hubId : Option Id} {date : ℤ},
      (hubId.bind fun hub => closureOn calendar db hub date) = none →
      ∀ exc ∈ db.exceptions, ∀ hub ∈ hubId, ¬ exc.closes hub (calendar.startOfDay date)
        (calendar.lastSecond date + 999) = true := by
    intro hubId date hfind exc hexc hub hhub
    rw [Option.mem_def.mp hhub, Option.bind_some] at hfind
    exact List.find?_eq_none.mp hfind exc hexc
  rintro exc hexc (⟨hub, hhub, hcloses⟩ | ⟨hother, hub, hhub, hcloses⟩)
  · split at hpickup
    next hfind => exact hnone hfind exc hexc hub hhub hcloses
    · cases hpickup
  · rw [if_neg hother] at hreturn
    split at hreturn
    next hfind => exact hnone hfind exc hexc hub hhub hcloses
    · cases hreturn

theorem admitBooking_eq_ok (h : admitBooking calendar db checks customerId dto now = .ok ()) :
    ∃ car, db.findCar dto.carId = some car ∧ dto.startDate < dto.endDate ∧ car.Operational ∧
      car.hasBlockedDate dto.startDate dto.endDate = false ∧
      (∀ exc ∈ db.exceptions, ¬ SeenAtBooking calendar dto exc) ∧
      bookingsInTheWay db dto.carId dto.startDate dto.endDate none = [] ∧
      db.blocks.filter (·.overlaps dto.carId dto.startDate dto.endDate) = [] ∧
      holdsInTheWay db.holds dto.carId dto.startDate dto.endDate now (some customerId) = [] := by
  simp only [admitBooking, require_bind] at h
  obtain ⟨hdates, -, -, h⟩ := h
  obtain ⟨-, -, h⟩ := bind_eq_ok.mp h
  split at h
  · cases h
  next car hcar =>
    obtain ⟨_, hcheck, h⟩ := bind_eq_ok.mp h
    obtain ⟨-, -, h⟩ := bind_eq_ok.mp h
    simp only [require_bind] at h
    obtain ⟨-, hblocked, h⟩ := h
    obtain ⟨-, -, h⟩ := bind_eq_ok.mp h
    obtain ⟨_, hclosures, h⟩ := bind_eq_ok.mp h
    obtain ⟨-, -, h⟩ := bind_eq_ok.mp h
    obtain ⟨-, -, h⟩ := bind_eq_ok.mp h
    obtain ⟨-, -, h⟩ := bind_eq_ok.mp h
    obtain ⟨_, hcalendar, -⟩ := bind_eq_ok.mp h
    exact ⟨car, hcar, hdates, checkCar_eq_ok hcheck, hblocked, checkClosures_eq_ok hclosures,
      checkCalendar_eq_ok hcalendar⟩

end Admitted

/-! ## Availability -/

/-- Every closure of the hub in the interval is one that `createBooking` looks for. -/
def ClosuresSeen (calendar : ServerCalendar) (db : VehicleDb) (dto : CreateBookingDto)
    (hubId : Option Id) : Prop :=
  ∀ car ∈ db.findCar dto.carId,
    ∀ exc ∈ closuresOf calendar db (hubId.or car.pickupHubId) dto.startDate dto.endDate,
      SeenAtBooking calendar dto exc

instance (calendar : ServerCalendar) (db : VehicleDb) (dto : CreateBookingDto)
    (hubId : Option Id) : Decidable (ClosuresSeen calendar db dto hubId) :=
  inferInstanceAs (Decidable (∀ car ∈ db.findCar dto.carId, ∀ exc ∈ closuresOf ..,
    SeenAtBooking calendar dto exc))

/-- A booking that is admitted is reported available, for its car, dates and customer and
whatever hub is asked for, exactly if the hub has no closure but those that `createBooking`
looks for. -/
theorem admitted_available_iff (calendar : ServerCalendar) {db : VehicleDb} {checks : OtherChecks}
    {customerId : Id} {dto : CreateBookingDto} {now : ℤ} (hubId : Option Id)
    (h : admitBooking calendar db checks customerId dto now = .ok ()) :
    ReportsAvailable (checkAvailability calendar db dto.carId dto.startDate dto.endDate
        ⟨none, some customerId, hubId⟩ now) ↔
      ClosuresSeen calendar db dto hubId := by
  obtain ⟨car, hcar, hdates, hoperational, hblocked, hclosures, hbookings, hblocks, hholds⟩ :=
    admitBooking_eq_ok h
  have hid := findCar_id hcar
  have hcar' : db.findCar car.id = some car := by rw [hid, hcar]
  -- an admitted booking has none of the closures that the admission looks for
  have hseen : closuresOf calendar db (hubId.or car.pickupHubId) dto.startDate dto.endDate = [] ↔
      ClosuresSeen calendar db dto hubId := by
    have hmem : ∀ exc ∈ closuresOf calendar db (hubId.or car.pickupHubId) dto.startDate dto.endDate,
        exc ∈ db.exceptions := by
      intro exc hexc
      unfold closuresOf at hexc
      split at hexc
      · cases hexc
      · exact List.mem_of_mem_filter hexc
    constructor
    · rintro hnone other hother exc hexc
      cases hcar.symm.trans hother
      rw [hnone] at hexc
      cases hexc
    · intro hseen
      refine List.eq_nil_iff_forall_not_mem.mpr fun exc hexc => ?_
      exact hclosures exc (hmem exc hexc) (hseen car hcar exc hexc)
  rw [← hid, checkAvailability_iff hcar', conflictsOf_eq_nil, hseen, hid]
  constructor
  · rintro ⟨-, -, hok, -⟩
    exact hok
  · intro hok
    exact ⟨hdates, hoperational, hok, hbookings, hblocks, hholds, hblocked⟩

/-! ### A holiday at the car's own hub -/

def utcCalendar : ServerCalendar where
  startOfDay date := date - date % 86400000
  lastSecond date := date - date % 86400000 + 86399000

def hubFleet (closedOn : ℤ) : VehicleDb where
  cars := [⟨"car", "vendor", some "hub", true, .active, .verified, .verified, none, [.selfDrive],
    []⟩]
  exceptions := [⟨"holiday", "hub", closedOn, true, none⟩]
  bookings := []
  blocks := []
  holds := []

def noObjections : OtherChecks :=
  ⟨[.selfDrive], .ok (), none, .ok (), .ok (), .ok (), .ok (), .ok ()⟩

def twoDays (pickupHubId : Option Id) : CreateBookingDto :=
  ⟨"car", .selfDrive, 0, 172800000, pickupHubId, none⟩

theorem open_hub_admitted_available :
    ReportsAvailable (checkAvailability utcCalendar (hubFleet 432000000) "car" 0 172800000
      ⟨none, some "customer", some "hub"⟩ 0) := by
  have hadmitted : admitBooking utcCalendar (hubFleet 432000000) noObjections "customer"
      (twoDays (some "hub")) 0 = .ok () := by decide
  exact (admitted_available_iff utcCalendar (some "hub") hadmitted).mpr (by decide)

/-- The hub is closed on the day of the pickup, which a request without a hub does not see. -/
theorem closed_hub_admitted :
    ¬ (admitBooking utcCalendar (hubFleet 0) noObjections "customer" (twoDays none) 0 = .ok () →
      ReportsAvailable (checkAvailability utcCalendar (hubFleet 0) "car" 0 172800000
        ⟨none, some "customer", none⟩ 0)) := by
  decide

end CarRental
