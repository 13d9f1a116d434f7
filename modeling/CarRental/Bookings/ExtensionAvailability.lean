import CarRental.Bookings.ExtensionLaw
import CarRental.Cars.VehicleAvailability

/-!
# Extensions and the availability of the vehicle

`TripExtensionsService` looks for conflicts in its own way, once when it quotes an extension and
once when it verifies the payment.  `checkAvailability` looks for more: what the two leave out is
`NothingMissed`, and an extension goes only where the vehicle is free exactly if nothing of that
is there (`extension_available_iff`).

The two looks are at two states of the database, so each is a statement of its own about any state.
-/

namespace CarRental

open KeyedRows ExtendedTrip

/-! ## The checks of an extension -/

/-- The first check of `validateExtensionAvailability`. -/
def Car.blockedInExtension (car : Car) (currentEndDate requestedEndDate : ℤ) : Bool :=
  car.blockedDates.any fun date => currentEndDate < date ∧ date ≤ requestedEndDate

/-- The second check, and that of `verifyExtensionPayment`. -/
def VehicleDb.extensionOccupied (db : VehicleDb) (booking : FleetBooking)
    (currentEndDate requestedEndDate : ℤ) : Bool :=
  db.bookings.any fun other => other.id ≠ booking.id ∧
    other.overlaps extensionStatuses booking.carId currentEndDate requestedEndDate

def quoteExtension (db : VehicleDb) (trip : ExtendedTrip) (userId : Id) (isCustomer : Bool)
    (requestedEndDate : ℤ) (commissionPercent : Decimal) : Except HttpError ExtensionQuote :=
  match db.findCar trip.booking.carId with
  | none => .error (.notFound "Booking not found.")
  | some car =>
    trip.getQuote userId isCustomer requestedEndDate
      (car.blockedInExtension trip.booking.endDate requestedEndDate)
      (db.extensionOccupied trip.booking trip.booking.endDate requestedEndDate)
      commissionPercent

/-- The transaction of `verifyExtensionPayment`. -/
def verifyExtension (db : VehicleDb) (booking : FleetBooking) (terms : ExtensionTerms) :
    Except HttpError VehicleDb :=
  if db.extensionOccupied booking terms.currentEndDate terms.requestedEndDate then
    .error (.conflict
      "Cannot complete extension: A conflicting booking was confirmed concurrently.")
  else .ok { db with
    bookings := updateKey FleetBooking.id booking.id
      (fun booking => { booking with endDate := terms.requestedEndDate }) db.bookings }

/-- The vehicle is reported available to the customer of a booking, who has it now. -/
def FreeFor (calendar : ServerCalendar) (db : VehicleDb) (booking : FleetBooking)
    (startDate endDate now : ℤ) : Prop :=
  ReportsAvailable (checkAvailability calendar db booking.carId startDate endDate
    ⟨some booking.id, some booking.customerId, none⟩ now)

/-! ## What is left out -/

/-- A vehicle that is on the road, with no closure of its hub, no other booking of it about to be
returned, no block, no hold of another customer and no blocked date of the kind that was not
looked for. -/
structure NothingMissed (calendar : ServerCalendar) (db : VehicleDb) (booking : FleetBooking)
    (startDate endDate now : ℤ) (missedDate : Car → Bool) (car : Car) : Prop where
  found : db.findCar booking.carId = some car
  operational : car.Operational
  closures : closuresOf calendar db car.pickupHubId startDate endDate = []
  returns : ∀ other ∈ db.bookings,
    other.overlaps [.returnPending] booking.carId startDate endDate = true → other.id = booking.id
  blocks : db.blocks.filter (·.overlaps booking.carId startDate endDate) = []
  holds : holdsInTheWay db.holds booking.carId startDate endDate now (some booking.customerId) = []
  dates : missedDate car = false

/-- The requests that pass the checks of a quote. -/
structure PassesQuote (db : VehicleDb) (trip : ExtendedTrip) (userId : Id) (isCustomer : Bool)
    (requestedEndDate : ℤ) (car : Car) : Prop where
  found : db.findCar trip.booking.carId = some car
  owner : isCustomer = true → trip.booking.customerId = userId
  ongoing : trip.booking.status = .ongoing
  later : trip.booking.endDate < requestedEndDate
  unblocked : car.blockedInExtension trip.booking.endDate requestedEndDate = false
  unoccupied :
    db.extensionOccupied trip.booking trip.booking.endDate requestedEndDate = false

section

variable {calendar : ServerCalendar} {db : VehicleDb} {trip : ExtendedTrip} {booking : FleetBooking}
  {startDate endDate now : ℤ} {car : Car}

theorem overlaps_creation_iff {other : FleetBooking} {carId : Id} :
    other.overlaps creationStatuses carId startDate endDate = true ↔
      other.overlaps extensionStatuses carId startDate endDate = true ∨
        other.overlaps [.returnPending] carId startDate endDate = true := by
  simp only [FleetBooking.overlaps, creationStatuses, extensionStatuses, List.mem_cons,
    List.not_mem_nil, or_false, decide_eq_true_eq]
  tauto

theorem bookingsInTheWay_eq_nil :
    bookingsInTheWay db booking.carId startDate endDate (some booking.id) = [] ↔
      db.extensionOccupied booking startDate endDate = false ∧ ∀ other ∈ db.bookings,
        other.overlaps [.returnPending] booking.carId startDate endDate = true →
          other.id = booking.id := by
  simp only [bookingsInTheWay, VehicleDb.extensionOccupied, List.filter_eq_nil_iff,
    List.any_eq_false, decide_eq_true_eq, overlaps_creation_iff, Option.some.injEq, not_and,
    not_not, ne_eq]
  constructor
  · exact fun h => ⟨fun other hother hne hoverlaps => hne (h other hother (.inl hoverlaps)),
      fun other hother hoverlaps => h other hother (.inr hoverlaps)⟩
  · rintro ⟨hactive, hreturns⟩ other hother (hoverlaps | hoverlaps)
    · by_contra hne
      exact hactive other hother hne hoverlaps
    · exact hreturns other hother hoverlaps

theorem freeFor_iff (hlater : startDate < endDate)
    (hoccupied : db.extensionOccupied booking startDate endDate = false) :
    FreeFor calendar db booking startDate endDate now ↔
      ∃ car, NothingMissed calendar db booking startDate endDate now
        (·.hasBlockedDate startDate endDate) car := by
  rw [FreeFor, reportsAvailable_iff]
  constructor
  · rintro ⟨-, car, hcar, hop, hnone⟩
    obtain ⟨hclosures, hbookings, hblocks, hholds, hdates⟩ := conflictsOf_eq_nil.mp hnone
    rw [findCar_id hcar] at hbookings hblocks hholds
    exact ⟨car, hcar, hop, hclosures, (bookingsInTheWay_eq_nil.mp hbookings).2, hblocks, hholds,
      hdates⟩
  · rintro ⟨car, h⟩
    refine ⟨hlater, car, h.found, h.operational, conflictsOf_eq_nil.mpr ?_⟩
    rw [findCar_id h.found]
    exact ⟨h.closures, bookingsInTheWay_eq_nil.mpr ⟨hoccupied, h.returns⟩, h.blocks, h.holds,
      h.dates⟩

theorem quoteExtension_isOk_iff {userId : Id} {isCustomer : Bool} {requestedEndDate : ℤ}
    {commissionPercent : Decimal} (hcar : db.findCar trip.booking.carId = some car) :
    (∃ quote, quoteExtension db trip userId isCustomer requestedEndDate commissionPercent =
      .ok quote) ↔ PassesQuote db trip userId isCustomer requestedEndDate car := by
  unfold quoteExtension getQuote
  rw [hcar]
  dsimp only
  constructor
  · rintro ⟨quote, h⟩
    split at h
    · cases h
    next howner =>
      split at h
      · cases h
      next hongoing =>
        split at h
        · cases h
        next hlater =>
          split at h
          · cases h
          next hunblocked =>
            split at h
            · cases h
            next hunoccupied =>
              refine ⟨hcar, ?_, not_not.mp hongoing, not_le.mp hlater, ?_, ?_⟩
              · exact fun hcustomer => not_not.mp fun hne => howner ⟨hcustomer, hne⟩
              · simpa using hunblocked
              · simpa using hunoccupied
  · intro h
    have howner : ¬ (isCustomer = true ∧ trip.booking.customerId ≠ userId) :=
      fun ⟨hcustomer, hne⟩ => hne (h.owner hcustomer)
    rw [if_neg howner, if_neg (not_not.mpr h.ongoing), if_neg (not_le.mpr h.later),
      if_neg (by simp [h.unblocked]), if_neg (by simp [h.unoccupied])]
    exact ⟨_, rfl⟩

theorem hasBlockedDate_iff (hlater : startDate < endDate)
    (hunblocked : car.blockedInExtension startDate endDate = false) :
    car.hasBlockedDate startDate endDate = false ↔
      decide (startDate ∈ car.blockedDates) = false := by
  simp only [Car.blockedInExtension, List.any_eq_false, decide_eq_true_eq, not_and,
    not_le] at hunblocked
  simp only [Car.hasBlockedDate, List.any_eq_false, decide_eq_true_eq, not_and, not_le,
    decide_eq_false_iff_not]
  constructor
  · exact fun h hmem => absurd (h startDate hmem le_rfl) (not_lt.mpr hlater.le)
  · intro h date hdate hle
    rcases hle.eq_or_lt with rfl | hlt
    · exact absurd hdate h
    · exact hunblocked date hdate hlt

end

/-! ## The law -/

/-- A quote is given, and a payment confirms an extension, only where the vehicle is free exactly
if the checks that let them pass have missed nothing. -/
theorem extension_available_iff (calendar : ServerCalendar) (db : VehicleDb) (trip : ExtendedTrip)
    (userId : Id) (isCustomer : Bool) (requestedEndDate : ℤ) (commissionPercent : Decimal)
    (booking : FleetBooking) (terms : ExtensionTerms) (now : ℤ) :
    ((∀ quote, quoteExtension db trip userId isCustomer requestedEndDate commissionPercent =
        .ok quote →
          FreeFor calendar db trip.booking trip.booking.endDate requestedEndDate now) ↔
      ∀ car, PassesQuote db trip userId isCustomer requestedEndDate car →
        NothingMissed calendar db trip.booking trip.booking.endDate requestedEndDate now
          (fun car => trip.booking.endDate ∈ car.blockedDates) car) ∧
    ((∀ db', verifyExtension db booking terms = .ok db' →
        FreeFor calendar db booking terms.currentEndDate terms.requestedEndDate now) ↔
      (db.extensionOccupied booking terms.currentEndDate terms.requestedEndDate = false →
        terms.currentEndDate < terms.requestedEndDate ∧
          ∃ car, NothingMissed calendar db booking terms.currentEndDate terms.requestedEndDate now
            (·.hasBlockedDate terms.currentEndDate terms.requestedEndDate) car)) := by
  constructor
  · have hmissed : ∀ car, PassesQuote db trip userId isCustomer requestedEndDate car →
        (FreeFor calendar db trip.booking trip.booking.endDate requestedEndDate now ↔
          NothingMissed calendar db trip.booking trip.booking.endDate requestedEndDate now
            (fun car => trip.booking.endDate ∈ car.blockedDates) car) := by
      intro car hpasses
      rw [freeFor_iff hpasses.later hpasses.unoccupied]
      constructor
      · rintro ⟨other, h⟩
        obtain rfl := Option.some.inj (h.found.symm.trans hpasses.found)
        exact { h with dates := (hasBlockedDate_iff hpasses.later hpasses.unblocked).mp h.dates }
      · exact fun h => ⟨car, { h with
          dates := (hasBlockedDate_iff hpasses.later hpasses.unblocked).mpr h.dates }⟩
    constructor
    · intro h car hpasses
      obtain ⟨quote, hquote⟩ := (quoteExtension_isOk_iff hpasses.found).mpr hpasses
      exact (hmissed car hpasses).mp (h quote hquote)
    · intro h quote hquote
      obtain ⟨car, hcar⟩ : ∃ car, db.findCar trip.booking.carId = some car := by
        cases hcar : db.findCar trip.booking.carId with
        | some car => exact ⟨car, rfl⟩
        | none =>
          unfold quoteExtension at hquote
          rw [hcar] at hquote
          cases hquote
      have hpasses := (quoteExtension_isOk_iff hcar).mp ⟨quote, hquote⟩
      exact (hmissed car hpasses).mpr (h car hpasses)
  · unfold verifyExtension
    cases hoccupied : db.extensionOccupied booking terms.currentEndDate terms.requestedEndDate with
    | true =>
      refine iff_of_true (fun _ h => ?_) (fun h => by cases h)
      cases h
    | false =>
      have hfree : FreeFor calendar db booking terms.currentEndDate terms.requestedEndDate now ↔
          terms.currentEndDate < terms.requestedEndDate ∧ ∃ car, NothingMissed calendar db booking
            terms.currentEndDate terms.requestedEndDate now
              (·.hasBlockedDate terms.currentEndDate terms.requestedEndDate) car := by
        constructor
        · intro h
          have hlater := (reportsAvailable_iff.mp h).1
          exact ⟨hlater, (freeFor_iff hlater hoccupied).mp h⟩
        · exact fun ⟨hlater, h⟩ => (freeFor_iff hlater hoccupied).mpr h
      simp only [Bool.false_eq_true, if_false, Except.ok.injEq, forall_eq', true_imp_iff, hfree]

def maintenanceDb : VehicleDb where
  cars := [⟨"car", "vendor", none, true, .active, .verified, .verified, none, [], []⟩]
  exceptions := []
  bookings := [sampleTrip.booking]
  blocks := [⟨"block", "car", day, 2 * day, .maintenance, none⟩]
  holds := []

theorem extension_over_maintenance :
    ¬ ∀ calendar db trip userId isCustomer requestedEndDate commissionPercent now quote,
      quoteExtension db trip userId isCustomer requestedEndDate commissionPercent = .ok quote →
        FreeFor calendar db trip.booking trip.booking.endDate requestedEndDate now := by
  intro h
  have hpasses : PassesQuote maintenanceDb sampleTrip.start "customer" true (2 * day)
      ⟨"car", "vendor", none, true, .active, .verified, .verified, none, [], []⟩ :=
    ⟨rfl, fun _ => rfl, rfl, by decide, rfl, by decide⟩
  obtain ⟨quote, hquote⟩ :=
    (@quoteExtension_isOk_iff _ _ _ _ _ _ 10 hpasses.found).mpr hpasses
  have hrefused : ¬ ReportsAvailable (checkAvailability ⟨id, id⟩ maintenanceDb "car" day (2 * day)
      ⟨some "booking", some "customer", none⟩ 0) := by decide +kernel
  exact hrefused (h ⟨id, id⟩ maintenanceDb sampleTrip.start "customer" true (2 * day) 10 0 quote
    hquote)

end CarRental
