import CarRental.Fleet.FleetLifecycle
import CarRental.Fleet.VehicleSubstitution
import CarRental.Text

/-!
# The availability of the fleet

`FleetAvailabilityService`: `explainAvailability` says of a vehicle whether it is available in an
interval and why not, and `searchClassAvailability` counts the available vehicles of each class.

The state of a vehicle is kept in the memory of the process (`getVehicleState`).  What the database
client makes of the texts of a filter on an enumeration is a parameter, and so are its comparison of
cities and the text of a number of minutes.  Instants are milliseconds; an instant that is returned
is the number, not its text.
-/

namespace CarRental

/-! ## The tables -/

inductive FuelType where
  | petrol
  | diesel
  | cng
  | electric
deriving DecidableEq, Repr

structure FleetHub where
  name : String
  city : String
deriving DecidableEq

/-- A car, with its hub and the city of its vendor. -/
structure SearchedCar extends FleetCar where
  vendorCity : String
  pickupHub : Option FleetHub
  make : String
  model : String
  registrationNumber : String
  pricePerHour : Money
  fuelType : FuelType
  seating : ℤ
  expectedReturnDate : Option ℤ
  maintenanceReason : Option String
deriving DecidableEq

/-- The tables; the id is the key of the cars. -/
structure FleetDb where
  cars : List SearchedCar
  bookings : List FleetBooking
  blocks : List VehicleBlock
  holds : List VehicleHold
  nodup : (cars.map fun car => car.id).Nodup

def FleetDb.findCar (db : FleetDb) (carId : Id) : Option SearchedCar :=
  db.cars.find? fun car => car.id = carId

/-- What the process keeps of the vehicles. -/
structure FleetMemory where
  vehicleStates : Id → Option FleetOperationalState
  vehicleStateReasons : Id → Option String

structure FleetClient where
  /-- The values of a filter on `operationalStatus`, unless it is refused. -/
  readStatuses : List String → Except HttpError (List VehicleOperationalStatus)
  /-- `equals` with `mode: 'insensitive'` -/
  equalsInsensitive : String → String → Bool

/-- The state of a vehicle, which is kept when it is read of the row. -/
def getVehicleState (db : FleetDb) (memory : FleetMemory) (carId : Id) :
    Except HttpError FleetOperationalState × FleetMemory :=
  match memory.vehicleStates carId with
  | some state => (.ok state, memory)
  | none =>
    match db.findCar carId with
    | none => (.error (.notFound ("Vehicle " ++ carId ++ " not found")), memory)
    | some car =>
      let mapped := if car.isAvailable then FleetOperationalState.available else .active
      (.ok mapped,
        { memory with
          vehicleStates := Function.update memory.vehicleStates carId (some mapped) })

/-! ## Intervals -/

def defaultTurnaroundBufferMinutes : ℚ := 60

/-- The instant of a number of milliseconds: its fraction is cut off. -/
def instantOf (milliseconds : ℚ) : ℤ :=
  if 0 ≤ milliseconds then ⌊milliseconds⌋ else ⌈milliseconds⌉

/-- An interval with the turnaround buffer on both sides. -/
def buffered (startDate endDate : ℤ) (bufferMinutes : ℚ) : ℤ × ℤ :=
  (instantOf (startDate - bufferMinutes * 60 * 1000),
    instantOf (endDate + bufferMinutes * 60 * 1000))

def Within (startDate endDate : ℤ) (interval : ℤ × ℤ) : Prop :=
  startDate < interval.2 ∧ interval.1 < endDate

instance (startDate endDate : ℤ) (interval : ℤ × ℤ) :
    Decidable (Within startDate endDate interval) :=
  inferInstanceAs (Decidable (_ ∧ _))

/-- `CONFIRMED`, `HANDOVER_READY`, `ONGOING` and `RETURN_PENDING` -/
def reservingStatuses : List BookingStatus :=
  [.confirmed, .handoverReady, .ongoing, .returnPending]

namespace FleetDb

variable (db : FleetDb) (carId : Id) (interval : ℤ × ℤ)

def bookingsIn : List FleetBooking :=
  db.bookings.filter fun booking => booking.carId = carId ∧ booking.status ∈ reservingStatuses ∧
    Within booking.startDate booking.endDate interval

def blocksIn : List VehicleBlock :=
  db.blocks.filter fun block => block.carId = carId ∧
    Within block.startDate block.endDate interval

/-- The holds that are active and have not expired. -/
def holdsIn (now : ℤ) : List VehicleHold :=
  db.holds.filter fun hold => hold.carId = carId ∧ hold.status = .active ∧ now < hold.expiresAt ∧
    Within hold.startDate hold.endDate interval

end FleetDb

/-! ## The explanation -/

structure AvailabilityInterval where
  startDate : ℤ
  endDate : ℤ

structure AvailabilityEvaluationOptions where
  excludeBookingId : Option Id
  bufferMinutes : Option ℚ
  includeAlternatives : Option Bool

inductive BlockingFactorType where
  | rental
  | reservation
  | maintenance
  | compliance
  | cleaning
  | gpsOffline
deriving DecidableEq, Repr

structure BlockingFactor where
  type : BlockingFactorType
  details : String
  blockedUntil : Option ℤ
deriving DecidableEq

structure AlternativeVehicle where
  carId : Id
  make : String
  model : String
  vehicleClass : CarCategory
  branchId : Id
  branchName : String
  pricePerDay : Money
deriving DecidableEq

structure FleetAvailabilityExplanation where
  carId : Id
  isAvailable : Bool
  operationalState : FleetOperationalState
  reason : Option String
  blockingFactors : Option (List BlockingFactor)
  nextAvailableAt : Option ℤ
  turnaroundBufferMinutes : ℚ
  alternativeVehicles : Option (List AlternativeVehicle)

/-- The states in which a vehicle can be rented. -/
def FleetOperationalState.Rentable (state : FleetOperationalState) : Prop :=
  state = .available ∨ state = .active

instance (state : FleetOperationalState) : Decidable state.Rentable :=
  inferInstanceAs (Decidable (_ ∨ _))

def stateFactor (now : ℤ) (car : SearchedCar) (stateReason : Option String) :
    FleetOperationalState → Option BlockingFactor
  | .complianceBlocked => some ⟨.compliance,
      "Mandatory vehicle documents (Insurance/Fitness/PUC) expired or suspended.", none⟩
  | .maintenance => some ⟨.maintenance,
      (given stateReason <|> given car.maintenanceReason).getD
        "Scheduled routine maintenance or repair in progress.",
      some (car.expectedReturnDate.getD (now + 86400000))⟩
  | .cleaning => some ⟨.cleaning,
      "Post-rental turnaround cleaning and sanitization in progress.", some (now + 45 * 60000)⟩
  | .gpsOffline => some ⟨.gpsOffline,
      "Telematics signal heartbeat lost. Commercial dispatch temporarily suspended.", none⟩
  | .onRent => some ⟨.rental, "Vehicle is currently active on customer rental trip.",
      some (car.expectedReturnDate.getD (now + 3600000 * 4))⟩
  | _ => none

def findAlternativeVehicles (db : FleetDb) (currentCarId : Id) (categoryType : CarCategory)
    (branchId : Option Id) : List AlternativeVehicle :=
  ((db.cars.filter fun car => car.id ≠ currentCarId ∧ car.isAvailable ∧ car.type = categoryType ∧
      (given branchId).all fun branch => car.pickupHubId = some branch).take 3).map fun car =>
    { carId := car.id
      make := car.make
      model := car.model
      vehicleClass := car.type
      branchId := (given car.pickupHubId).getD "platform"
      branchName := (given (car.pickupHub.map FleetHub.name)).getD "Central Hub"
      pricePerDay := car.pricePerDay }

def reservationFactor (minutesText : ℚ → String) (bufferMinutes : ℚ) (booking : FleetBooking) :
    BlockingFactor where
  type := .reservation
  details := "Reserved for Booking #" ++ String.ofList (booking.id.toList.take 8) ++ " with " ++
    minutesText bufferMinutes ++ "m turnaround buffer."
  blockedUntil := some (instantOf (booking.endDate + bufferMinutes * 60 * 1000))

def blockFactor (block : VehicleBlock) : BlockingFactor where
  type := .maintenance
  details := "Vendor operational blackout: " ++ (given block.reason).getD "Blocked period"
  blockedUntil := some block.endDate

/-- The conflicting bookings, the last to end first. -/
def conflictingBookings (db : FleetDb) (carId : Id) (excludeBookingId : Option Id)
    (interval : ℤ × ℤ) : List FleetBooking :=
  ((db.bookingsIn carId interval).filter fun booking =>
    (given excludeBookingId).all (booking.id ≠ ·)).mergeSort fun a b => b.endDate ≤ a.endDate

/-- The factors of an interval, and when the vehicle is available next. -/
def intervalFactors (minutesText : ℚ → String) (db : FleetDb) (carId : Id)
    (excludeBookingId : Option Id) (bufferMinutes : ℚ) (interval : AvailabilityInterval) :
    List BlockingFactor × Option ℤ :=
  let window := buffered interval.startDate interval.endDate bufferMinutes
  let reservations := (conflictingBookings db carId excludeBookingId window).head?.toList.map
    (reservationFactor minutesText bufferMinutes)
  let blackouts := (db.blocksIn carId window).head?.toList.map blockFactor
  let factors := reservations ++ blackouts
  (factors, (factors.filterMap BlockingFactor.blockedUntil).max?)

/-- A vehicle is available if nothing blocks it and its state is one of the rentable ones.  The
holds of the vehicle are read, and not looked at. -/
def explainAvailability (minutesText : ℚ → String) (db : FleetDb) (memory : FleetMemory) (now : ℤ)
    (carId : Id) (interval : Option AvailabilityInterval)
    (options : AvailabilityEvaluationOptions) :
    Except HttpError FleetAvailabilityExplanation × FleetMemory :=
  let bufferMinutes := options.bufferMinutes.getD defaultTurnaroundBufferMinutes
  match db.findCar carId with
  | none => (.error (.notFound ("Vehicle " ++ carId ++ " not found")), memory)
  | some car =>
    match getVehicleState db memory carId with
    | (.error e, memory) => (.error e, memory)
    | (.ok state, memory) =>
      let ofInterval := (interval.map (intervalFactors minutesText db carId
        options.excludeBookingId bufferMinutes)).getD ([], none)
      let blockingFactors :=
        (stateFactor now car (memory.vehicleStateReasons carId) state).toList ++ ofInterval.1
      let isAvailable := decide (blockingFactors = [] ∧ state.Rentable)
      (.ok {
        carId
        isAvailable
        operationalState := state
        reason := blockingFactors.head?.map BlockingFactor.details
        blockingFactors := if blockingFactors = [] then none else some blockingFactors
        nextAvailableAt := ofInterval.2
        turnaroundBufferMinutes := bufferMinutes
        alternativeVehicles :=
          if !isAvailable ∧ options.includeAlternatives ≠ some false then
            some (findAlternativeVehicles db carId car.type (given car.pickupHubId))
          else none }, memory)

/-! ## The search -/

structure ClassAvailabilityQuery where
  vendorId : Option Id
  branchId : Option Id
  city : Option String
  vehicleClass : Option CarCategory
  startDate : ℤ
  endDate : ℤ
  minCapacity : Option ℤ
  fuelType : Option FuelType
  turnaroundBufferMinutes : Option ℚ

structure AvailableVehicle where
  id : Id
  make : String
  model : String
  year : ℤ
  registrationNumber : String
  pricePerDay : Money
  pricePerHour : Money
  pickupHubId : Option Id
  pickupHubName : Option String
  seating : ℤ
  fuelType : FuelType
deriving DecidableEq

/-- Why a vehicle is not counted: its type is the state or one of three texts. -/
structure ClassBlockingReason where
  carId : Id
  reason : String
  type : String
  blockedUntil : Option ℤ
deriving DecidableEq

structure ClassAvailabilitySummary where
  vehicleClass : CarCategory
  totalFleet : ℕ
  availableCount : ℕ
  blockedCount : ℕ
  availableVehicles : List AvailableVehicle
  blockingReasons : List ClassBlockingReason
deriving DecidableEq

namespace ClassAvailabilityQuery

variable (query : ClassAvailabilityQuery)

def bufferMinutes : ℚ := query.turnaroundBufferMinutes.getD defaultTurnaroundBufferMinutes

def window : ℤ × ℤ := buffered query.startDate query.endDate query.bufferMinutes

/-- The filters that the request adds; a capacity of zero is none. -/
def Matches (client : FleetClient) (car : SearchedCar) : Prop :=
  ((given query.vendorId).all fun vendorId => car.vendorId = vendorId) ∧
  ((given query.branchId).all fun branchId => car.pickupHubId = some branchId) ∧
  (query.vehicleClass.all fun vehicleClass => car.type = vehicleClass) ∧
  (query.minCapacity.all fun capacity => capacity = 0 ∨ capacity ≤ car.seating) ∧
  (query.fuelType.all fun fuelType => car.fuelType = fuelType) ∧
  ((given query.city).all fun city =>
    car.pickupHub.any (fun hub => client.equalsInsensitive hub.city city) ∨
      client.equalsInsensitive car.vendorCity city)

instance (client : FleetClient) (car : SearchedCar) : Decidable (query.Matches client car) :=
  inferInstanceAs (Decidable (_ ∧ _ ∧ _ ∧ _ ∧ _ ∧ _))

end ClassAvailabilityQuery

def SearchedCar.listing (car : SearchedCar) : AvailableVehicle where
  id := car.id
  make := car.make
  model := car.model
  year := car.year
  registrationNumber := car.registrationNumber
  pricePerDay := car.pricePerDay
  pricePerHour := car.pricePerHour
  pickupHubId := car.pickupHubId
  pickupHubName := car.pickupHub.map FleetHub.name
  seating := car.seating
  fuelType := car.fuelType

/-- The first reason, in the order of the checks, not to count a car. -/
def blockingReason (minutesText : ℚ → String) (db : FleetDb) (now : ℤ)
    (query : ClassAvailabilityQuery) (car : SearchedCar) (state : FleetOperationalState) :
    Option ClassBlockingReason :=
  if ¬state.Rentable then
    some ⟨car.id, "Vehicle in " ++ state.text ++ " operational state", state.text, none⟩
  else
    match db.bookingsIn car.id query.window with
    | booking :: _ => some ⟨car.id, "Reserved for Booking #" ++
        String.ofList (booking.id.toList.take 8) ++ " (" ++ minutesText query.bufferMinutes ++
        "m turnaround buffer)", "BOOKING_CONFLICT",
        some (instantOf (booking.endDate + query.bufferMinutes * 60 * 1000))⟩
    | [] =>
      match db.blocksIn car.id query.window with
      | block :: _ => some ⟨car.id, (given block.reason).getD "Operational blackout block",
          "BLACKOUT", some block.endDate⟩
      | [] =>
        match db.holdsIn car.id query.window now with
        | hold :: _ => some ⟨car.id, "Temporarily held in checkout", "CHECKOUT_HOLD",
            some hold.expiresAt⟩
        | [] => none

structure ClassEntry where
  vehicleClass : CarCategory
  total : ℕ
  available : List AvailableVehicle
  blockingReasons : List ClassBlockingReason

def ClassEntry.add (car : SearchedCar) (reason : Option ClassBlockingReason) (entry : ClassEntry) :
    ClassEntry :=
  { entry with
    total := entry.total + 1
    available := match reason with
      | none => entry.available ++ [car.listing]
      | some _ => entry.available
    blockingReasons := entry.blockingReasons ++ reason.toList }

/-- The map with an entry for the class, in the order of insertion. -/
def withClass (vehicleClass : CarCategory) (entries : List ClassEntry) : List ClassEntry :=
  if vehicleClass ∈ entries.map ClassEntry.vehicleClass then entries
  else entries ++ [⟨vehicleClass, 0, [], []⟩]

def addToClass (car : SearchedCar) (reason : Option ClassBlockingReason)
    (entries : List ClassEntry) : List ClassEntry :=
  KeyedRows.updateKey ClassEntry.vehicleClass car.type (ClassEntry.add car reason)
    (withClass car.type entries)

/-- The loop over the cars that were found. -/
def groupCars (minutesText : ℚ → String) (db : FleetDb) (now : ℤ) (query : ClassAvailabilityQuery) :
    List SearchedCar → FleetMemory → List ClassEntry →
      Except HttpError (List ClassEntry) × FleetMemory
  | [], memory, entries => (.ok entries, memory)
  | car :: rest, memory, entries =>
    match getVehicleState db memory car.id with
    | (.error e, memory) => (.error e, memory)
    | (.ok state, memory) =>
      groupCars minutesText db now query rest memory
        (addToClass car (blockingReason minutesText db now query car state) entries)

def ClassEntry.summary (entry : ClassEntry) : ClassAvailabilitySummary where
  vehicleClass := entry.vehicleClass
  totalFleet := entry.total
  availableCount := entry.available.length
  blockedCount := entry.total - entry.available.length
  availableVehicles := entry.available
  blockingReasons := entry.blockingReasons

def findCars (client : FleetClient) (db : FleetDb) (query : ClassAvailabilityQuery)
    (statuses : List VehicleOperationalStatus) : List SearchedCar :=
  db.cars.filter fun car => car.isAvailable ∧ car.operationalStatus ∈ statuses ∧
    query.Matches client car

/-- `operationalStatus: { in: ['ACTIVE', 'AVAILABLE'] }`; the second is no value of the column. -/
def searchClassAvailability (minutesText : ℚ → String) (client : FleetClient) (db : FleetDb)
    (memory : FleetMemory) (now : ℤ) (query : ClassAvailabilityQuery) :
    Except HttpError (List ClassAvailabilitySummary) × FleetMemory :=
  match client.readStatuses ["ACTIVE", "AVAILABLE"] with
  | .error e => (.error e, memory)
  | .ok statuses =>
    match groupCars minutesText db now query (findCars client db query statuses) memory [] with
    | (.error e, memory) => (.error e, memory)
    | (.ok entries, memory) => (.ok (entries.map ClassEntry.summary), memory)

end CarRental
