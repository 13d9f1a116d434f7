import CarRental.Fleet.FleetAvailability

/-!
# The search and the explanation

`searchClassAvailability` should count a car exactly when `explainAvailability` reports it available
for the same interval and buffer.

Both ask for a rentable state and for no booking and no block (`FreeIn`).  The search asks for more:
that the client takes its filter, that the car passes it, and that nobody holds the car
(`Searched`).  The explanation reads the holds and does not look at them.
-/

namespace CarRental

open KeyedRows

variable {minutesText : ℚ → String} {client : FleetClient} {db : FleetDb} {memory : FleetMemory}
  {now : ℤ} {query : ClassAvailabilityQuery} {carId : Id} {car : SearchedCar}

/-! ## The state of a car -/

/-- What `getVehicleState` reports of a car. -/
def FleetMemory.stateOf (memory : FleetMemory) (car : SearchedCar) : FleetOperationalState :=
  (memory.vehicleStates car.id).getD (if car.isAvailable then .available else .active)

theorem FleetDb.findCar_of_mem (h : car ∈ db.cars) : db.findCar car.id = some car :=
  find?_eq_some_of_mem db.nodup h rfl

theorem FleetDb.mem_of_findCar (h : db.findCar carId = some car) :
    car ∈ db.cars ∧ car.id = carId :=
  ⟨List.mem_of_find?_eq_some h, of_decide_eq_true (List.find?_some h :)⟩

theorem getVehicleState_of_mem (memory : FleetMemory) (h : car ∈ db.cars) :
    ∃ kept, getVehicleState db memory car.id = (.ok (memory.stateOf car), kept) ∧
      ∀ other ∈ db.cars, kept.stateOf other = memory.stateOf other := by
  unfold getVehicleState FleetMemory.stateOf
  cases hstate : memory.vehicleStates car.id with
  | some state => exact ⟨memory, rfl, fun other _ => rfl⟩
  | none =>
    rw [FleetDb.findCar_of_mem h]
    refine ⟨_, rfl, fun other hother => ?_⟩
    dsimp only
    by_cases hid : other.id = car.id
    · have hsame : other = car := eq_of_key_eq db.nodup hother h hid
      rw [hsame, Function.update_self, hstate]
      rfl
    · rw [Function.update_of_ne hid]

/-! ## What the explanation asks for -/

/-- The car is in a rentable state, and has no booking and no block in the interval. -/
structure FleetDb.FreeIn (db : FleetDb) (memory : FleetMemory) (interval : ℤ × ℤ)
    (car : SearchedCar) : Prop where
  state : (memory.stateOf car).Rentable
  bookings : db.bookingsIn car.id interval = []
  blocks : db.blocksIn car.id interval = []

theorem stateFactor_of_rentable {state : FleetOperationalState} (h : state.Rentable)
    (stateReason : Option String) : stateFactor now car stateReason state = none := by
  rcases h with rfl | rfl
  · rfl
  · rfl

theorem conflictingBookings_eq_nil {interval : ℤ × ℤ} :
    conflictingBookings db carId none interval = [] ↔ db.bookingsIn carId interval = [] := by
  have hall : (db.bookingsIn carId interval).filter (fun booking =>
      (given (none : Option Id)).all fun other => decide (booking.id ≠ other)) =
        db.bookingsIn carId interval := List.filter_eq_self.mpr fun _ _ => rfl
  unfold conflictingBookings
  rw [hall, ← List.length_eq_zero_iff, List.length_mergeSort, List.length_eq_zero_iff]

theorem intervalFactors_eq_nil {bufferMinutes : ℚ} {interval : AvailabilityInterval} :
    (intervalFactors minutesText db carId none bufferMinutes interval).1 = [] ↔
      db.bookingsIn carId (buffered interval.startDate interval.endDate bufferMinutes) = [] ∧
        db.blocksIn carId (buffered interval.startDate interval.endDate bufferMinutes) = [] := by
  unfold intervalFactors
  dsimp only
  rw [List.append_eq_nil_iff, List.map_eq_nil_iff, List.map_eq_nil_iff, Option.toList_eq_nil_iff,
    Option.toList_eq_nil_iff, List.head?_eq_none_iff, List.head?_eq_none_iff,
    conflictingBookings_eq_nil]

/-- The explanation for the interval and the buffer of a request reports the car available. -/
def ExplainsAvailable (minutesText : ℚ → String) (db : FleetDb) (memory : FleetMemory) (now : ℤ)
    (query : ClassAvailabilityQuery) (includeAlternatives : Option Bool) (carId : Id) : Prop :=
  ∃ explanation, (explainAvailability minutesText db memory now carId
      (some ⟨query.startDate, query.endDate⟩)
      ⟨none, query.turnaroundBufferMinutes, includeAlternatives⟩).1 = .ok explanation ∧
    explanation.isAvailable = true

theorem explainsAvailable_iff {includeAlternatives : Option Bool} :
    ExplainsAvailable minutesText db memory now query includeAlternatives carId ↔
      ∃ car, db.findCar carId = some car ∧ db.FreeIn memory query.window car := by
  unfold ExplainsAvailable explainAvailability
  cases hcar : db.findCar carId with
  | none =>
    constructor
    · rintro ⟨explanation, hok, -⟩
      cases hok
    · rintro ⟨car, hsome, -⟩
      cases hsome
  | some car =>
    obtain ⟨hmem, rfl⟩ := FleetDb.mem_of_findCar hcar
    obtain ⟨kept, hkept, -⟩ := getVehicleState_of_mem memory hmem
    rw [hkept]
    have hnothing : ((stateFactor now car (kept.vehicleStateReasons car.id)
          (memory.stateOf car)).toList ++ (intervalFactors minutesText db car.id none
            query.bufferMinutes ⟨query.startDate, query.endDate⟩).1 = [] ∧
          (memory.stateOf car).Rentable) ↔ db.FreeIn memory query.window car := by
      rw [List.append_eq_nil_iff, intervalFactors_eq_nil]
      constructor
      · rintro ⟨⟨-, hbookings, hblocks⟩, hrentable⟩
        exact ⟨hrentable, hbookings, hblocks⟩
      · intro hfree
        rw [stateFactor_of_rentable hfree.state]
        exact ⟨⟨rfl, hfree.bookings, hfree.blocks⟩, hfree.state⟩
    constructor
    · rintro ⟨explanation, hok, havailable⟩
      cases Except.ok.inj hok
      exact ⟨car, rfl, hnothing.mp (of_decide_eq_true havailable)⟩
    · rintro ⟨other, hother, hfree⟩
      cases Option.some_inj.mp hother
      exact ⟨_, rfl, decide_eq_true (hnothing.mpr hfree)⟩

/-! ## What the search asks for -/

theorem blockingReason_eq_none :
    blockingReason minutesText db now query car (memory.stateOf car) = none ↔
      db.FreeIn memory query.window car ∧ db.holdsIn car.id query.window now = [] := by
  unfold blockingReason
  constructor
  · intro h
    split at h
    · cases h
    next hrentable =>
      split at h
      · cases h
      next hbookings =>
        split at h
        · cases h
        next hblocks =>
          split at h
          · cases h
          next hholds => exact ⟨⟨not_not.mp hrentable, hbookings, hblocks⟩, hholds⟩
  · rintro ⟨hfree, hholds⟩
    rw [if_neg (not_not.mpr hfree.state), hfree.bookings, hfree.blocks, hholds]

def ListedIn (carId : Id) (entries : List ClassEntry) : Prop :=
  ∃ entry ∈ entries, ∃ listing ∈ entry.available, listing.id = carId

theorem listedIn_withClass {vehicleClass : CarCategory} {entries : List ClassEntry} :
    ListedIn carId (withClass vehicleClass entries) ↔ ListedIn carId entries := by
  unfold withClass
  split
  · rfl
  · constructor
    · rintro ⟨entry, hentry, listing, hlisting, hid⟩
      rcases List.mem_append.mp hentry with hold | hnew
      · exact ⟨entry, hold, listing, hlisting, hid⟩
      · rw [List.mem_singleton.mp hnew] at hlisting
        cases hlisting
    · rintro ⟨entry, hentry, hlisting⟩
      exact ⟨entry, List.mem_append_left _ hentry, hlisting⟩

theorem mem_withClass (vehicleClass : CarCategory) (entries : List ClassEntry) :
    ∃ entry ∈ withClass vehicleClass entries, entry.vehicleClass = vehicleClass := by
  unfold withClass
  split
  next h => exact List.mem_map.mp h
  next => exact ⟨_, List.mem_append_right _ List.mem_cons_self, rfl⟩

theorem listedIn_addToClass {reason : Option ClassBlockingReason} {entries : List ClassEntry} :
    ListedIn carId (addToClass car reason entries) ↔
      ListedIn carId entries ∨ reason = none ∧ car.id = carId := by
  have hentries : ListedIn carId entries ↔ ListedIn carId (withClass car.type entries) :=
    listedIn_withClass.symm
  rw [hentries]
  unfold addToClass
  constructor
  · rintro ⟨entry, hentry, listing, hlisting, hid⟩
    rcases mem_updateKey.mp hentry with ⟨before, hbefore, -, rfl⟩ | ⟨hother, -⟩
    · cases reason with
      | some reason => exact .inl ⟨before, hbefore, listing, hlisting, hid⟩
      | none =>
        rcases List.mem_append.mp hlisting with hold | hnew
        · exact .inl ⟨before, hbefore, listing, hold, hid⟩
        · rw [List.mem_singleton.mp hnew] at hid
          exact .inr ⟨rfl, hid⟩
    · exact .inl ⟨entry, hother, listing, hlisting, hid⟩
  · rintro (⟨entry, hentry, listing, hlisting, hid⟩ | ⟨rfl, hid⟩)
    · by_cases hclass : entry.vehicleClass = car.type
      · refine ⟨entry.add car reason, mem_updateKey.mpr (.inl ⟨entry, hentry, hclass, rfl⟩),
          listing, ?_, hid⟩
        cases reason with
        | some reason => exact hlisting
        | none => exact List.mem_append_left _ hlisting
      · exact ⟨entry, mem_updateKey.mpr (.inr ⟨hentry, hclass⟩), listing, hlisting, hid⟩
    · obtain ⟨entry, hentry, hclass⟩ := mem_withClass car.type entries
      exact ⟨entry.add car none, mem_updateKey.mpr (.inl ⟨entry, hentry, hclass, rfl⟩),
        car.listing, List.mem_append_right _ List.mem_cons_self, hid⟩

theorem groupCars_eq_ok {cars : List SearchedCar} {reported : FleetMemory}
    {entries : List ClassEntry} (hcars : ∀ car ∈ cars, car ∈ db.cars)
    (hreported : ∀ car ∈ db.cars, reported.stateOf car = memory.stateOf car) :
    ∃ entries', (groupCars minutesText db now query cars reported entries).1 = .ok entries' ∧
      (ListedIn carId entries' ↔ ListedIn carId entries ∨ ∃ car ∈ cars, car.id = carId ∧
        db.FreeIn memory query.window car ∧ db.holdsIn car.id query.window now = []) := by
  induction cars generalizing reported entries with
  | nil => exact ⟨entries, rfl, by simp⟩
  | cons car rest ih =>
    have hmem := hcars car List.mem_cons_self
    obtain ⟨kept, hkept, hothers⟩ := getVehicleState_of_mem reported hmem
    rw [hreported car hmem] at hkept
    rw [groupCars, hkept]
    obtain ⟨entries', hok, hlisted⟩ := ih (fun other hother => hcars other (.tail _ hother))
      fun other hother => (hothers other hother).trans (hreported other hother)
    refine ⟨entries', hok, ?_⟩
    rw [hlisted, listedIn_addToClass, blockingReason_eq_none, or_assoc, List.exists_mem_cons_iff,
      and_comm]

/-- The search for a request counts the car as available. -/
def SearchCounts (minutesText : ℚ → String) (client : FleetClient) (db : FleetDb)
    (memory : FleetMemory) (now : ℤ) (query : ClassAvailabilityQuery) (carId : Id) : Prop :=
  ∃ summaries,
    (searchClassAvailability minutesText client db memory now query).1 = .ok summaries ∧
      ∃ summary ∈ summaries, ∃ listing ∈ summary.availableVehicles, listing.id = carId

/-- The client takes the filter of the search, the car passes it and what the request adds to it,
and nobody holds the car in the interval. -/
structure Searched (client : FleetClient) (db : FleetDb) (now : ℤ) (query : ClassAvailabilityQuery)
    (car : SearchedCar) : Prop where
  status : ∃ statuses, client.readStatuses ["ACTIVE", "AVAILABLE"] = .ok statuses ∧
    car.operationalStatus ∈ statuses
  flag : car.isAvailable = true
  request : query.Matches client car
  holds : db.holdsIn car.id query.window now = []

theorem searchCounts_iff :
    SearchCounts minutesText client db memory now query carId ↔
      ∃ car, db.findCar carId = some car ∧ db.FreeIn memory query.window car ∧
        Searched client db now query car := by
  unfold SearchCounts searchClassAvailability
  cases hstatuses : client.readStatuses ["ACTIVE", "AVAILABLE"] with
  | error e =>
    constructor
    · rintro ⟨summaries, hok, -⟩
      cases hok
    · rintro ⟨car, -, -, hsearched⟩
      obtain ⟨statuses, hok, -⟩ := hsearched.status
      rw [hstatuses] at hok
      cases hok
  | ok statuses =>
    have hfound : ∀ car ∈ findCars client db query statuses, car ∈ db.cars :=
      fun car hcar => List.mem_of_mem_filter hcar
    obtain ⟨entries, hok, hlisted⟩ : ∃ entries,
        (groupCars minutesText db now query (findCars client db query statuses) memory []).1 =
          .ok entries ∧
        (ListedIn carId entries ↔ ListedIn carId [] ∨
          ∃ car ∈ findCars client db query statuses, car.id = carId ∧
            db.FreeIn memory query.window car ∧ db.holdsIn car.id query.window now = []) :=
      groupCars_eq_ok hfound fun _ _ => rfl
    have hnone : ¬ListedIn carId [] := by
      rintro ⟨entry, hentry, -⟩
      cases hentry
    have hgrouped : groupCars minutesText db now query (findCars client db query statuses) memory
        [] = (.ok entries, (groupCars minutesText db now query
          (findCars client db query statuses) memory []).2) := Prod.ext hok rfl
    dsimp only
    rw [hgrouped]
    constructor
    · rintro ⟨summaries, hsummaries, summary, hsummary, listing, hlisting, hid⟩
      cases Except.ok.inj hsummaries
      obtain ⟨entry, hentry, rfl⟩ := List.mem_map.mp hsummary
      obtain ⟨car, hcar, hcarId, hfree, hholds⟩ :=
        (hlisted.mp ⟨entry, hentry, listing, hlisting, hid⟩).resolve_left hnone
      obtain ⟨hflag, hstatus, hrequest⟩ := of_decide_eq_true (List.mem_filter.mp hcar).2
      refine ⟨car, ?_, hfree, ⟨statuses, hstatuses, hstatus⟩, hflag, hrequest, hholds⟩
      rw [← hcarId]
      exact FleetDb.findCar_of_mem (hfound car hcar)
    · rintro ⟨car, hcar, hfree, hsearched⟩
      obtain ⟨hmem, hid⟩ := FleetDb.mem_of_findCar hcar
      obtain ⟨statuses', hstatuses', hstatus⟩ := hsearched.status
      cases Except.ok.inj (hstatuses.symm.trans hstatuses')
      have hpassed : car ∈ findCars client db query statuses :=
        List.mem_filter.mpr ⟨hmem, decide_eq_true ⟨hsearched.flag, hstatus, hsearched.request⟩⟩
      obtain ⟨entry, hentry, listing, hlisting, hlistingId⟩ :=
        hlisted.mpr (.inr ⟨car, hpassed, hid, hfree, hsearched.holds⟩)
      exact ⟨_, rfl, entry.summary, List.mem_map_of_mem hentry, listing, hlisting, hlistingId⟩

/-- **When the search and the explanation agree.**  For every state of the tables and of the memory,
every request and every vehicle: the search counts it exactly when the explanation reports it
available for the same interval and buffer, if and only if it is not free in the interval, or the
client takes the filter, the car passes it, is of the kind that the request asks for, and nobody
holds it. -/
theorem class_search_agrees_iff {includeAlternatives : Option Bool} :
    (SearchCounts minutesText client db memory now query carId ↔
      ExplainsAvailable minutesText db memory now query includeAlternatives carId) ↔
    ∀ car, db.findCar carId = some car → db.FreeIn memory query.window car →
      Searched client db now query car := by
  rw [searchCounts_iff, explainsAvailable_iff]
  constructor
  · intro hagree car hcar hfree
    obtain ⟨other, hother, -, hsearched⟩ := hagree.mpr ⟨car, hcar, hfree⟩
    cases Option.some_inj.mp (hcar.symm.trans hother)
    exact hsearched
  · intro hall
    constructor
    · rintro ⟨car, hcar, hfree, -⟩
      exact ⟨car, hcar, hfree⟩
    · rintro ⟨car, hcar, hfree⟩
      exact ⟨car, hcar, hfree, hall car hcar hfree⟩

/-! ## A free car and a held one -/

/-- The values of the enumeration. -/
def VehicleOperationalStatus.ofText? : String → Option VehicleOperationalStatus
  | "DRAFT" => some .draft
  | "PENDING_VERIFICATION" => some .pendingVerification
  | "ACTIVE" => some .active
  | "INACTIVE" => some .inactive
  | "MAINTENANCE" => some .maintenance
  | "SUSPENDED" => some .suspended
  | "RETIRED" => some .retired
  | _ => none

def strictClient : FleetClient where
  readStatuses texts :=
    match texts.mapM VehicleOperationalStatus.ofText? with
    | some statuses => .ok statuses
    | none => .error (.internal "Invalid value for argument in. Expected VehicleOperationalStatus.")
  equalsInsensitive a b := CaseMapping.ascii.toLowerCase a == CaseMapping.ascii.toLowerCase b

def lenientClient : FleetClient :=
  { strictClient with
    readStatuses := fun texts => .ok (texts.filterMap VehicleOperationalStatus.ofText?) }

def searchedSedan : SearchedCar where
  id := "car"
  vendorId := "vendor"
  pickupHubId := none
  isAvailable := true
  operationalStatus := .active
  type := .sedan
  year := 2024
  pricePerDay := ⟨190000, by decide⟩
  vendorCity := "Hyderabad"
  pickupHub := none
  make := "Honda"
  model := "City"
  registrationNumber := "TS09AB1234"
  pricePerHour := ⟨24000, by decide⟩
  fuelType := .petrol
  seating := 5
  expectedReturnDate := none
  maintenanceReason := none

def sedanDb (holds : List VehicleHold) : FleetDb where
  cars := [searchedSedan]
  bookings := []
  blocks := []
  holds
  nodup := List.nodup_singleton _

def freshMemory : FleetMemory := ⟨fun _ => none, fun _ => none⟩

def sedanQuery : ClassAvailabilityQuery where
  vendorId := none
  branchId := none
  city := none
  vehicleClass := some .sedan
  startDate := 1773133200000
  endDate := 1773219600000
  minCapacity := none
  fuelType := none
  turnaroundBufferMinutes := none

def sedanHold : VehicleHold where
  id := "hold"
  carId := "car"
  customerId := "customer"
  vendorId := "vendor"
  startDate := 1773133200000
  endDate := 1773219600000
  expiresAt := 1773000600000
  status := .active
  idempotencyKey := none

theorem sedan_is_free (holds : List VehicleHold) :
    (sedanDb holds).FreeIn freshMemory sedanQuery.window searchedSedan :=
  ⟨.inl rfl, rfl, rfl⟩

/-- A free sedan is explained as available and never counted, as `AVAILABLE` is no status; and were
that text left out of the filter, a held one would be explained as available and not counted. -/
theorem free_sedan_is_not_counted :
    ¬(SearchCounts (fun _ => "60") strictClient (sedanDb []) freshMemory 1773000000000 sedanQuery
        "car" ↔
      ExplainsAvailable (fun _ => "60") (sedanDb []) freshMemory 1773000000000 sedanQuery none
        "car") ∧
    ¬(SearchCounts (fun _ => "60") lenientClient (sedanDb [sedanHold]) freshMemory 1773000000000
        sedanQuery "car" ↔
      ExplainsAvailable (fun _ => "60") (sedanDb [sedanHold]) freshMemory 1773000000000 sedanQuery
        none "car") := by
  constructor
  · intro hagree
    obtain ⟨car, -, -, hsearched⟩ := searchCounts_iff.mp
      (hagree.mpr (explainsAvailable_iff.mpr ⟨searchedSedan, rfl, sedan_is_free []⟩))
    obtain ⟨statuses, hstatuses, -⟩ := hsearched.status
    have hrefused : (strictClient.readStatuses ["ACTIVE", "AVAILABLE"]).toOption = none := by
      decide +kernel
    rw [hstatuses] at hrefused
    cases hrefused
  · intro hagree
    obtain ⟨car, hcar, -, hsearched⟩ := searchCounts_iff.mp
      (hagree.mpr (explainsAvailable_iff.mpr ⟨searchedSedan, rfl, sedan_is_free [sedanHold]⟩))
    have hfound : (sedanDb [sedanHold]).findCar "car" = some searchedSedan := rfl
    cases Option.some_inj.mp (hfound.symm.trans hcar)
    have hheld : (sedanDb [sedanHold]).holdsIn "car" sedanQuery.window 1773000000000 ≠ [] := by
      decide +kernel
    exact hheld hsearched.holds

end CarRental
