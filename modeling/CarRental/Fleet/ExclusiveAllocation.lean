import CarRental.Fleet.VehicleSubstitution
import CarRental.Bookings.NoOverlap

/-!
# Allocations on the calendar of the fleet

`allocateVehicle` beside `createBooking` and the transitions of bookings, for any number of
bookings.  An allocation reads the booking with its active record, looks for a car that is free by
then, and writes the record and the booking's car in a transaction that reads nothing again: three
steps, between which anything else may happen.

The lock that it takes is that of its booking and runs out after twenty seconds; it keeps no other
booking away, and is left out.  What else is asked of the request and the car (who asks, the class,
the branch, the blocks and the state of the vehicle) is the argument `admitted`.

`executeSubstitution` calls `allocateVehicle` and writes neither bookings nor records by itself.
-/

namespace CarRental

open Calls KeyedRows Runs

/-- An allocation that has read its booking. -/
structure AllocationCall where
  booking : FleetBooking
  previous : Option VehicleAllocationRecord
  strategy : AllocationStrategy
  /-- The car that it has found free. -/
  chosen : Option Id
deriving DecidableEq

structure AllocatedFleet where
  fleet : Fleet
  records : List VehicleAllocationRecord
  calls : List AllocationCall

/-- The turnaround around a booking, in milliseconds. -/
def turnaroundBuffer : ℤ := 60 * 60 * 1000

/-- The calendar's part of `isVehicleAvailable`: pending bookings do not count. -/
def Fleet.isFree (s : Fleet) (booking : FleetBooking) (carId : Id) : Bool :=
  !s.bookings.any fun other => other.id ≠ booking.id ∧
    other.overlaps confirmationStatuses carId (booking.startDate - turnaroundBuffer)
      (booking.endDate + turnaroundBuffer)

def recordAllocation (records : List VehicleAllocationRecord)
    (previous : Option VehicleAllocationRecord) (record : VehicleAllocationRecord) :
    List VehicleAllocationRecord :=
  (match previous with
    | none => records
    | some old =>
      updateKey VehicleAllocationRecord.id old.id (fun row => { row with isActive := false })
        records) ++ [record]

namespace AllocatedFleet

def empty : AllocatedFleet := ⟨.empty, [], []⟩

def activeRecords (s : AllocatedFleet) (bookingId : Id) : List VehicleAllocationRecord :=
  s.records.filter fun record => record.bookingId = bookingId ∧ record.isActive

/-- The reading part of `allocateVehicle`. -/
def startAllocation (s : AllocatedFleet) (bookingId : Id) (strategy : AllocationStrategy)
    (admitted : Bool) : AllocatedFleet :=
  match s.fleet.findBooking bookingId with
  | none => s
  | some booking =>
    if booking.status ∈ terminalForAllocation then s
    else if !admitted then s
    else { s with
      calls := ⟨booking, (s.activeRecords bookingId).head?, strategy, none⟩ :: s.calls }

/-- A car is looked at, until one is free; with the car that the booking has already, the call is
over. -/
def chooseCar (s : AllocatedFleet) (call : AllocationCall) (carId : Id) (admitted : Bool) :
    AllocatedFleet :=
  if call.chosen.isSome then s
  else if !admitted || !s.fleet.isFree call.booking carId then s
  else if call.previous.any (·.carId = carId) then { s with calls := s.calls.erase call }
  else { s with calls := { call with chosen := some carId } :: s.calls.erase call }

/-- The transaction, unless the database refuses the id of the record. -/
def commitAllocation (s : AllocatedFleet) (call : AllocationCall) (recordId : Id) :
    AllocatedFleet :=
  match call.chosen with
  | none => s
  | some carId =>
    let s := { s with calls := s.calls.erase call }
    if s.records.any (·.id = recordId) then s
    else { s with
      records := recordAllocation s.records call.previous
        ⟨recordId, call.booking.id, carId, call.strategy, true⟩
      fleet := s.fleet.setBooking call.booking.id fun booking => { booking with carId } }

end AllocatedFleet

inductive AllocationAction where
  | createBooking (newId customerId carId : Id) (startDate endDate now : ℤ) (admitted : Bool)
  | startTransition (bookingId : Id) (targetStatus : BookingStatus) (admitted : Bool)
  | commitTransition (bookingId : Id) (previousStatus targetStatus : BookingStatus)
  | startAllocation (bookingId : Id) (strategy : AllocationStrategy) (admitted : Bool)
  | chooseCar (call : AllocationCall) (carId : Id) (admitted : Bool)
  | commitAllocation (call : AllocationCall) (recordId : Id)
  | failAllocation (call : AllocationCall)
deriving DecidableEq

def allocationStep (s : AllocatedFleet) : AllocationAction → AllocatedFleet
  | .createBooking newId customerId carId startDate endDate now admitted =>
    { s with
      fleet := fleetStep s.fleet
        (.createBooking newId customerId carId startDate endDate now admitted) }
  | .startTransition bookingId targetStatus admitted =>
    { s with fleet := fleetStep s.fleet (.startTransition bookingId targetStatus admitted) }
  | .commitTransition bookingId previousStatus targetStatus =>
    { s with
      fleet := fleetStep s.fleet (.commit (.transition bookingId previousStatus targetStatus)) }
  | .startAllocation bookingId strategy admitted => s.startAllocation bookingId strategy admitted
  | .chooseCar call carId admitted => if call ∈ s.calls then s.chooseCar call carId admitted else s
  | .commitAllocation call recordId =>
    if call ∈ s.calls then s.commitAllocation call recordId else s
  | .failAllocation call => { s with calls := s.calls.erase call }

/-! ## The allocations of the desk -/

section Desk

variable {desk : AllocationDesk} {req : AllocateVehicleRequest} {env : AllocationEnv}

end Desk

/-!
## A car is allocated to one booking at a time

No two bookings that need their cars should have the same one at the same time, and a booking
should have one active allocation, that of its car.

`createBooking` and the transitions keep this.  An allocation looks for a car that is free of
confirmed bookings and trips, but not of pending ones (`pending_car_allocated`), and writes it
later without looking again, under the lock of its own booking: by then the car may be another's.
The record that it releases is the one that it has read.  Nothing else goes wrong
(`exclusive_allocation_iff`).
-/

/-! ## The law -/

structure AllocationsExclusive (s : AllocatedFleet) : Prop where
  noOverlap : NoOverlap s.fleet
  single : ∀ booking ∈ s.fleet.bookings, (s.activeRecords booking.id).length ≤ 1
  allocated : ∀ booking ∈ s.fleet.bookings, ∀ record ∈ s.activeRecords booking.id,
    record.carId = booking.carId

/-! ## The condition -/

/-- The car is not another's while the booking needs it, and the active record is the one that was
read. -/
structure ClearCommit (s : AllocatedFleet) (call : AllocationCall) (carId : Id) : Prop where
  free : ∀ booking ∈ s.fleet.bookings, booking.id = call.booking.id → booking.isActive →
    ∀ other ∈ s.fleet.bookings, other.id ≠ call.booking.id →
      other.overlaps creationStatuses carId booking.startDate booking.endDate = false
  read : ∀ record ∈ s.activeRecords call.booking.id,
    call.previous.map VehicleAllocationRecord.id = some record.id

def AllocationsClear (s : AllocatedFleet) : AllocationAction → Prop
  | .commitAllocation call recordId => call ∈ s.calls → ∀ carId ∈ call.chosen,
      s.records.any (·.id = recordId) = false → ClearCommit s call carId
  | _ => True

/-! ## The invariant -/

def Fleet.ids (s : Fleet) : List Id := s.bookings.map FleetBooking.id

structure AllocatedFleet.WellFormed (s : AllocatedFleet) : Prop where
  fleet : s.fleet.WellFormed
  nodup : (s.records.map VehicleAllocationRecord.id).Nodup
  records : ∀ record ∈ s.records, record.bookingId ∈ s.fleet.ids
  calls : ∀ call ∈ s.calls, call.booking.id ∈ s.fleet.ids ∧
    ∀ old ∈ call.previous, ∃ row ∈ s.records, row.id = old.id ∧ row.bookingId = call.booking.id

/-- Bookings stay and keep their cars. -/
structure KeepsCars (s s' : Fleet) : Prop where
  ids : ∀ bookingId ∈ s.ids, bookingId ∈ s'.ids
  cars : ∀ booking ∈ s'.bookings,
    (∃ old ∈ s.bookings, old.id = booking.id ∧ old.carId = booking.carId) ∨ booking.id ∉ s.ids

section Calendar

variable {s : Fleet}

theorem KeepsCars.refl (s : Fleet) : KeepsCars s s :=
  ⟨fun _ hid => hid, fun booking hbooking => .inl ⟨booking, hbooking, rfl, rfl⟩⟩

theorem keepsCars_setStatus (bookingId : Id) (status : BookingStatus) :
    KeepsCars s (s.setBooking bookingId fun booking => { booking with status }) := by
  refine ⟨fun id hid => ?_, fun booking hbooking => .inl ?_⟩
  · have hkeys : (s.setBooking bookingId fun booking => { booking with status }).ids = s.ids :=
      map_key_updateKey fun _ => rfl
    rw [hkeys]
    exact hid
  · rcases mem_updateKey.mp hbooking with ⟨row, hrow, -, rfl⟩ | ⟨hrow, -⟩
    · exact ⟨row, hrow, rfl, rfl⟩
    · exact ⟨booking, hrow, rfl, rfl⟩

theorem keepsCars_createBooking (newId customerId carId : Id) (startDate endDate now : ℤ)
    (admitted : Bool) :
    KeepsCars s (s.createBooking newId customerId carId startDate endDate now admitted) := by
  unfold Fleet.createBooking
  split_ifs with _ _ _ hnew
  · exact .refl s
  · exact .refl s
  · exact .refl s
  · exact .refl s
  refine ⟨fun id hid => ?_, fun booking hbooking => ?_⟩
  · rw [Fleet.ids, List.map_append]
    exact List.mem_append_left _ hid
  · rcases List.mem_append.mp hbooking with hold | hadded
    · exact .inl ⟨booking, hold, rfl, rfl⟩
    · refine .inr fun hmem => hnew ?_
      rw [List.mem_singleton.mp hadded] at hmem
      obtain ⟨row, hrow, hid⟩ := List.mem_map.mp hmem
      exact List.find?_isSome.mpr ⟨row, hrow, decide_eq_true hid⟩

theorem keepsCars_startTransition (bookingId : Id) (targetStatus : BookingStatus)
    (admitted : Bool) : KeepsCars s (startTransition s bookingId targetStatus admitted) := by
  rcases startTransition_cases s bookingId targetStatus admitted with hsame | ⟨_, -, hstarted⟩
  · rw [hsame]
    exact .refl s
  · rw [hstarted]
    exact ⟨(KeepsCars.refl s).ids, (KeepsCars.refl s).cars⟩

theorem keepsCars_commitTransition (bookingId : Id) (previousStatus targetStatus : BookingStatus) :
    KeepsCars s (commitTransition s bookingId previousStatus targetStatus) := by
  unfold commitTransition
  split
  · exact .refl s
  split_ifs
  · exact keepsCars_setStatus bookingId targetStatus
  · exact .refl s

theorem keepsCars_fleetStep_commit (bookingId : Id) (previousStatus targetStatus : BookingStatus) :
    KeepsCars s (fleetStep s (.commit (.transition bookingId previousStatus targetStatus))) := by
  simp only [fleetStep]
  split_ifs
  · have hkeeps := keepsCars_commitTransition
      (s := { s with
        inFlight := s.inFlight.erase (.transition bookingId previousStatus targetStatus) })
      bookingId previousStatus targetStatus
    exact ⟨hkeeps.ids, hkeeps.cars⟩
  · exact .refl s

end Calendar

section Steps

variable {s : AllocatedFleet} {call : AllocationCall} {recordId carId : Id}

theorem mem_activeRecords {bookingId : Id} {record : VehicleAllocationRecord} :
    record ∈ s.activeRecords bookingId ↔
      record ∈ s.records ∧ record.bookingId = bookingId ∧ record.isActive = true := by
  simp [AllocatedFleet.activeRecords]

/-! ### Steps on the calendar -/

theorem AllocatedFleet.WellFormed.of_keepsCars (h : s.WellFormed) {fleet : Fleet}
    (hfleet : fleet.WellFormed) (hkeeps : KeepsCars s.fleet fleet) :
    AllocatedFleet.WellFormed { s with fleet } :=
  ⟨hfleet, h.nodup, fun record hrecord => hkeeps.ids _ (h.records record hrecord),
    fun call hcall => ⟨hkeeps.ids _ (h.calls call hcall).1, (h.calls call hcall).2⟩⟩

theorem AllocationsExclusive.of_keepsCars (h : AllocationsExclusive s) (hwf : s.WellFormed)
    {fleet : Fleet} (hno : NoOverlap fleet) (hkeeps : KeepsCars s.fleet fleet) :
    AllocationsExclusive { s with fleet } := by
  have hnone : ∀ bookingId, bookingId ∉ s.fleet.ids → s.activeRecords bookingId = [] := by
    intro bookingId hnew
    refine List.filter_eq_nil_iff.mpr fun record hrecord hactive => hnew ?_
    exact (of_decide_eq_true hactive).1 ▸ hwf.records record hrecord
  refine ⟨hno, fun booking hbooking => ?_, fun booking hbooking => ?_⟩
  · rcases hkeeps.cars booking hbooking with ⟨old, hold, hid, -⟩ | hnew
    · exact hid ▸ h.single old hold
    · show (s.activeRecords booking.id).length ≤ 1
      rw [hnone _ hnew]
      exact Nat.zero_le 1
  · rcases hkeeps.cars booking hbooking with ⟨old, hold, hid, hcar⟩ | hnew
    · rw [← hid, ← hcar]
      exact h.allocated old hold
    · show ∀ record ∈ s.activeRecords booking.id, record.carId = booking.carId
      rw [hnone _ hnew]
      exact fun _ hmem => absurd hmem List.not_mem_nil

/-! ### The transaction of an allocation -/

theorem activeRecords_recordAllocation (previous : Option VehicleAllocationRecord)
    (record : VehicleAllocationRecord) (bookingId : Id) :
    AllocatedFleet.activeRecords
        { s with records := recordAllocation s.records previous record } bookingId =
      (s.activeRecords bookingId).filter
          (fun row => previous.map VehicleAllocationRecord.id ≠ some row.id) ++
        [record].filter fun row => row.bookingId = bookingId ∧ row.isActive := by
  cases previous with
  | none =>
    rw [AllocatedFleet.activeRecords, recordAllocation, List.filter_append]
    congr 1
    refine (List.filter_eq_self.mpr fun row _ => ?_).symm
    rfl
  | some old =>
    rw [AllocatedFleet.activeRecords, recordAllocation, List.filter_append, filter_updateKey]
    · congr 2
      funext row
      simp [eq_comm]
    · intro row
      simp

theorem activeRecords_of_ne (hwf : s.WellFormed) (hcall : call ∈ s.calls)
    {record : VehicleAllocationRecord} (hrecord : record.bookingId = call.booking.id)
    {bookingId : Id} (hne : bookingId ≠ call.booking.id) :
    AllocatedFleet.activeRecords
        { s with records := recordAllocation s.records call.previous record } bookingId =
      s.activeRecords bookingId := by
  rw [activeRecords_recordAllocation, List.filter_eq_self.mpr, List.filter_eq_nil_iff.mpr,
    List.append_nil]
  · intro row hrow hof
    rw [List.mem_singleton.mp hrow, hrecord] at hof
    exact hne (of_decide_eq_true hof).1.symm
  · intro row hrow
    obtain ⟨hrow, hof, -⟩ := mem_activeRecords.mp hrow
    refine decide_eq_true fun hprevious => hne ?_
    obtain ⟨old, hold, hid⟩ := Option.map_eq_some_iff.mp hprevious
    obtain ⟨released, hreleased, hreleasedId, hbooking⟩ := (hwf.calls call hcall).2 old hold
    have hsame := eq_of_key_eq hwf.nodup hreleased hrow (hreleasedId.trans hid)
    rw [← hof, ← hsame, hbooking]

theorem setCar_noOverlap_iff (hwf : s.WellFormed) (hno : NoOverlap s.fleet) (bookingId : Id) :
    NoOverlap (s.fleet.setBooking bookingId fun booking => { booking with carId }) ↔
      ∀ booking ∈ s.fleet.bookings, booking.id = bookingId → booking.isActive →
        ∀ other ∈ s.fleet.bookings, other.id ≠ bookingId →
          other.overlaps creationStatuses carId booking.startDate booking.endDate = false := by
  refine (noOverlap_setBooking hno _ _ ?_).trans ?_
  · exact fun _ => rfl
  refine forall₃_congr fun booking hbooking hid => ⟨fun h hactive other hother hne => ?_,
    fun h other hother hne hcar hactive hotherActive => ?_⟩
  · by_contra hmeets
    obtain ⟨hcar, hotherActive, hbefore, hafter⟩ :=
      overlaps_eq_true.mp (Bool.eq_true_of_not_eq_false hmeets)
    have hdisjoint := h other hother hne hcar.symm hactive hotherActive
    exact (disjoint_period_iff (hwf.fleet.ordered booking hbooking)
      (hwf.fleet.ordered other hother)).mp hdisjoint ⟨hbefore, hafter⟩
  · refine (disjoint_period_iff (hwf.fleet.ordered booking hbooking)
      (hwf.fleet.ordered other hother)).mpr fun hmeets => ?_
    have hapart := h hactive other hother hne
    rw [overlaps_eq_true.mpr ⟨hcar.symm, hotherActive, hmeets.1, hmeets.2⟩] at hapart
    cases hapart

def AllocatedFleet.allocated (s : AllocatedFleet) (call : AllocationCall) (recordId carId : Id) :
    AllocatedFleet where
  fleet := s.fleet.setBooking call.booking.id fun booking => { booking with carId }
  records := recordAllocation s.records call.previous
    ⟨recordId, call.booking.id, carId, call.strategy, true⟩
  calls := s.calls.erase call

theorem activeRecords_allocated (bookingId : Id) :
    (s.allocated call recordId carId).activeRecords bookingId =
      AllocatedFleet.activeRecords
        { s with
          records := recordAllocation s.records call.previous
            ⟨recordId, call.booking.id, carId, call.strategy, true⟩ } bookingId := rfl

theorem single_allocated_iff (recordId carId : Id) :
    ((s.allocated call recordId carId).activeRecords call.booking.id).length ≤ 1 ↔
      ∀ record ∈ s.activeRecords call.booking.id,
        call.previous.map VehicleAllocationRecord.id = some record.id := by
  rw [activeRecords_allocated, activeRecords_recordAllocation, List.length_append]
  have hadded : ([⟨recordId, call.booking.id, carId, call.strategy, true⟩] :
      List VehicleAllocationRecord).filter
        (fun row => row.bookingId = call.booking.id ∧ row.isActive) =
      [⟨recordId, call.booking.id, carId, call.strategy, true⟩] := by simp
  have hone : ∀ n : ℕ, n + 1 ≤ 1 ↔ n = 0 := by omega
  rw [hadded, List.length_singleton, hone, List.length_eq_zero_iff, List.filter_eq_nil_iff]
  refine forall₂_congr fun record _ => ?_
  simp

theorem wellFormed_allocated (h : s.WellFormed) (hcall : call ∈ s.calls)
    (hfresh : s.records.any (·.id = recordId) = false) :
    (s.allocated call recordId carId).WellFormed := by
  have hids : (s.allocated call recordId carId).fleet.ids = s.fleet.ids :=
    map_key_updateKey fun _ => rfl
  have hreleased : ∀ records : List VehicleAllocationRecord, ∀ old : VehicleAllocationRecord,
      (updateKey VehicleAllocationRecord.id old.id (fun row => { row with isActive := false })
        records).map VehicleAllocationRecord.id = records.map VehicleAllocationRecord.id :=
    fun _ _ => map_key_updateKey fun _ => rfl
  have hrow : ∀ row ∈ s.records, ∃ kept ∈ (s.allocated call recordId carId).records,
      kept.id = row.id ∧ kept.bookingId = row.bookingId := by
    intro row hrow
    simp only [AllocatedFleet.allocated, recordAllocation]
    cases call.previous with
    | none => exact ⟨row, List.mem_append_left _ hrow, rfl, rfl⟩
    | some old =>
      by_cases hold : row.id = old.id
      · exact ⟨{ row with isActive := false }, List.mem_append_left _
          (mem_updateKey.mpr (.inl ⟨row, hrow, hold, rfl⟩)), rfl, rfl⟩
      · exact ⟨row, List.mem_append_left _ (mem_updateKey.mpr (.inr ⟨hrow, hold⟩)), rfl, rfl⟩
  refine ⟨?_, ?_, fun record hrecord => ?_, fun other hother => ?_⟩
  · exact h.fleet.setBooking (fun _ => rfl) (fun _ => rfl) fun booking hbooking _ =>
      h.fleet.ordered booking hbooking
  · have hnew : recordId ∉ s.records.map VehicleAllocationRecord.id := by
      intro hmem
      obtain ⟨row, hrow, hid⟩ := List.mem_map.mp hmem
      exact absurd hfresh (by simpa using ⟨row, hrow, hid⟩)
    refine nodup_map_concat ?_ ?_
    · cases call.previous with
      | none => exact h.nodup
      | some old => exact (hreleased s.records old).symm ▸ h.nodup
    · cases call.previous with
      | none => exact hnew
      | some old => exact (hreleased s.records old).symm ▸ hnew
  · rw [hids]
    rcases List.mem_append.mp hrecord with hold | hnew
    · cases hprevious : call.previous with
      | none =>
        rw [hprevious] at hold
        exact h.records record hold
      | some old =>
        rw [hprevious] at hold
        rcases mem_updateKey.mp hold with ⟨row, hrow, -, rfl⟩ | ⟨hrow, -⟩
        · exact h.records row hrow
        · exact h.records record hrow
    · rw [List.mem_singleton.mp hnew]
      exact (h.calls call hcall).1
  · rw [hids]
    obtain ⟨hbooking, hprevious⟩ := h.calls other (List.mem_of_mem_erase hother)
    refine ⟨hbooking, fun old hold => ?_⟩
    obtain ⟨row, hmem, hid, hof⟩ := hprevious old hold
    obtain ⟨kept, hkept, hkeptId, hkeptOf⟩ := hrow row hmem
    exact ⟨kept, hkept, hkeptId.trans hid, hkeptOf.trans hof⟩

theorem exclusive_allocated_iff (hwf : s.WellFormed) (h : AllocationsExclusive s)
    (hcall : call ∈ s.calls) :
    AllocationsExclusive (s.allocated call recordId carId) ↔ ClearCommit s call carId := by
  obtain ⟨found, hfound, hid⟩ := List.mem_map.mp (hwf.calls call hcall).1
  have hupdated : ∀ booking ∈ (s.allocated call recordId carId).fleet.bookings,
      (booking.id = call.booking.id ∧ booking.carId = carId) ∨
        (booking ∈ s.fleet.bookings ∧ booking.id ≠ call.booking.id) := by
    intro booking hbooking
    exact (mem_updateKey.mp hbooking).imp_left fun ⟨row, _, hrow, hset⟩ => hset ▸ ⟨hrow, rfl⟩
  have hothers : ∀ bookingId, bookingId ≠ call.booking.id →
      (s.allocated call recordId carId).activeRecords bookingId = s.activeRecords bookingId :=
    fun _ hne => activeRecords_of_ne hwf hcall rfl hne
  constructor
  · intro hafter
    refine ⟨(setCar_noOverlap_iff hwf h.noOverlap _).mp hafter.noOverlap,
      (single_allocated_iff recordId carId).mp ?_⟩
    have hmem : { found with carId } ∈ (s.allocated call recordId carId).fleet.bookings :=
      mem_updateKey.mpr (.inl ⟨found, hfound, hid, rfl⟩)
    have hsingle := hafter.single _ hmem
    rwa [show ({ found with carId } : FleetBooking).id = call.booking.id from hid] at hsingle
  · rintro ⟨hfree, hread⟩
    have hsingle := (single_allocated_iff recordId carId).mpr hread
    refine ⟨(setCar_noOverlap_iff hwf h.noOverlap _).mpr hfree, fun booking hbooking => ?_,
      fun booking hbooking record hrecord => ?_⟩
    · rcases hupdated booking hbooking with ⟨hbookingId, -⟩ | ⟨hold, hne⟩
      · rw [hbookingId]
        exact hsingle
      · rw [hothers _ hne]
        exact h.single booking hold
    · rcases hupdated booking hbooking with ⟨hbookingId, hcar⟩ | ⟨hold, hne⟩
      · rw [hbookingId, activeRecords_allocated, activeRecords_recordAllocation] at hrecord
        rcases List.mem_append.mp hrecord with hkept | hnew
        · obtain ⟨hmem, hof⟩ := List.mem_filter.mp hkept
          exact absurd (hread record hmem) (of_decide_eq_true hof)
        · rw [List.mem_singleton.mp (List.mem_of_mem_filter hnew), hcar]
      · rw [hothers _ hne] at hrecord
        exact h.allocated booking hold record hrecord

/-! ### All steps -/

theorem commitAllocation_cases (s : AllocatedFleet) (call : AllocationCall) (recordId : Id) :
    (∃ carId ∈ call.chosen, s.records.any (·.id = recordId) = false ∧
        s.commitAllocation call recordId = s.allocated call recordId carId) ∨
      ((∀ carId ∈ call.chosen, s.records.any (·.id = recordId) = true) ∧
        ∃ calls, s.commitAllocation call recordId = { s with calls } ∧
          ∀ other ∈ calls, other ∈ s.calls) := by
  unfold AllocatedFleet.commitAllocation
  cases call.chosen with
  | none => exact .inr ⟨fun _ h => absurd h (Option.not_mem_none _), s.calls, rfl, fun _ h => h⟩
  | some carId =>
    dsimp only
    split_ifs with htaken
    · exact .inr ⟨fun _ _ => htaken, s.calls.erase call, rfl,
        fun _ hother => List.mem_of_mem_erase hother⟩
    · exact .inl ⟨carId, rfl, Bool.eq_false_of_not_eq_true htaken, rfl⟩

theorem AllocatedFleet.WellFormed.of_calls (h : s.WellFormed) {calls : List AllocationCall}
    (hcalls : ∀ call ∈ calls, call ∈ s.calls ∨ call.booking.id ∈ s.fleet.ids ∧
      ∀ old ∈ call.previous, ∃ row ∈ s.records,
        row.id = old.id ∧ row.bookingId = call.booking.id) :
    AllocatedFleet.WellFormed { s with calls } :=
  ⟨h.fleet, h.nodup, h.records, fun call hcall => (hcalls call hcall).elim (h.calls call) id⟩

theorem AllocationsExclusive.of_calls (h : AllocationsExclusive s) (calls : List AllocationCall) :
    AllocationsExclusive { s with calls } :=
  ⟨h.noOverlap, h.single, h.allocated⟩

theorem startAllocation_calls (s : AllocatedFleet) (bookingId : Id) (strategy : AllocationStrategy)
    (admitted : Bool) :
    ∃ calls, s.startAllocation bookingId strategy admitted = { s with calls } ∧
      ∀ call ∈ calls, call ∈ s.calls ∨ call.booking.id ∈ s.fleet.ids ∧
        ∀ old ∈ call.previous, ∃ row ∈ s.records,
          row.id = old.id ∧ row.bookingId = call.booking.id := by
  have hold : ∃ calls, s = { s with calls } ∧ ∀ call ∈ calls, call ∈ s.calls ∨
      call.booking.id ∈ s.fleet.ids ∧ ∀ old ∈ call.previous, ∃ row ∈ s.records,
        row.id = old.id ∧ row.bookingId = call.booking.id :=
    ⟨s.calls, rfl, fun _ hcall => .inl hcall⟩
  unfold AllocatedFleet.startAllocation
  split
  · exact hold
  next booking hbooking =>
  split_ifs
  · exact hold
  · exact hold
  obtain ⟨hmem, hid⟩ := mem_of_findBooking hbooking
  refine ⟨_, rfl, fun call hcall => ?_⟩
  rcases List.mem_cons.mp hcall with rfl | hcall
  · refine .inr ⟨List.mem_map_of_mem hmem, fun old hprevious => ?_⟩
    obtain ⟨hrow, hof, -⟩ := mem_activeRecords.mp (List.mem_of_mem_head? hprevious)
    exact ⟨old, hrow, rfl, hof.trans hid.symm⟩
  · exact .inl hcall

theorem chooseCar_calls (hwf : s.WellFormed) (hcall : call ∈ s.calls) (carId : Id)
    (admitted : Bool) :
    ∃ calls, s.chooseCar call carId admitted = { s with calls } ∧
      ∀ call ∈ calls, call ∈ s.calls ∨ call.booking.id ∈ s.fleet.ids ∧
        ∀ old ∈ call.previous, ∃ row ∈ s.records,
          row.id = old.id ∧ row.bookingId = call.booking.id := by
  unfold AllocatedFleet.chooseCar
  split_ifs
  · exact ⟨s.calls, rfl, fun _ hother => .inl hother⟩
  · exact ⟨s.calls, rfl, fun _ hother => .inl hother⟩
  · exact ⟨_, rfl, fun _ hother => .inl (List.mem_of_mem_erase hother)⟩
  · refine ⟨_, rfl, fun other hother => ?_⟩
    rcases List.mem_cons.mp hother with rfl | hother
    · exact .inr (hwf.calls call hcall)
    · exact .inl (List.mem_of_mem_erase hother)

theorem wellFormed_allocationStep (s : AllocatedFleet) (action : AllocationAction)
    (h : s.WellFormed) : (allocationStep s action).WellFormed := by
  cases action with
  | createBooking newId customerId carId startDate endDate now admitted =>
    exact h.of_keepsCars (wellFormed_fleetStep h.fleet _) (keepsCars_createBooking ..)
  | startTransition bookingId targetStatus admitted =>
    exact h.of_keepsCars (wellFormed_fleetStep h.fleet _) (keepsCars_startTransition ..)
  | commitTransition bookingId previousStatus targetStatus =>
    exact h.of_keepsCars (wellFormed_fleetStep h.fleet _) (keepsCars_fleetStep_commit ..)
  | startAllocation bookingId strategy admitted =>
    obtain ⟨calls, hstep, hcalls⟩ := startAllocation_calls s bookingId strategy admitted
    rw [allocationStep, hstep]
    exact h.of_calls hcalls
  | chooseCar call carId admitted =>
    simp only [allocationStep]
    split_ifs with hcall
    · obtain ⟨calls, hstep, hcalls⟩ := chooseCar_calls h hcall carId admitted
      rw [hstep]
      exact h.of_calls hcalls
    · exact h
  | commitAllocation call recordId =>
    simp only [allocationStep]
    split_ifs with hcall
    · rcases commitAllocation_cases s call recordId with
        ⟨carId, -, hfresh, hstep⟩ | ⟨-, calls, hstep, hcalls⟩
      · rw [hstep]
        exact wellFormed_allocated h hcall hfresh
      · rw [hstep]
        exact h.of_calls fun other hother => .inl (hcalls other hother)
    · exact h
  | failAllocation call =>
    exact h.of_calls fun other hother => .inl (List.mem_of_mem_erase hother)

theorem exclusive_allocationStep_iff (s : AllocatedFleet) (action : AllocationAction)
    (hwf : s.WellFormed) (h : AllocationsExclusive s) :
    AllocationsExclusive (allocationStep s action) ↔ AllocationsClear s action := by
  cases action with
  | createBooking newId customerId carId startDate endDate now admitted =>
    exact iff_of_true (h.of_keepsCars hwf
      (createBooking_noOverlap hwf.fleet h.noOverlap _ _ _ _ _ _ _) (keepsCars_createBooking ..))
      trivial
  | startTransition bookingId targetStatus admitted =>
    refine iff_of_true (h.of_keepsCars hwf ?_ (keepsCars_startTransition ..)) trivial
    exact (noOverlap_fleetStep hwf.fleet h.noOverlap (.startTransition ..)).mpr id
  | commitTransition bookingId previousStatus targetStatus =>
    refine iff_of_true (h.of_keepsCars hwf ?_ (keepsCars_fleetStep_commit ..)) trivial
    exact (noOverlap_fleetStep hwf.fleet h.noOverlap (.commit (.transition ..))).mpr id
  | startAllocation bookingId strategy admitted =>
    obtain ⟨calls, hstep, -⟩ := startAllocation_calls s bookingId strategy admitted
    rw [allocationStep, hstep]
    exact iff_of_true (h.of_calls calls) trivial
  | chooseCar call carId admitted =>
    simp only [allocationStep]
    split_ifs with hcall
    · obtain ⟨calls, hstep, -⟩ := chooseCar_calls hwf hcall carId admitted
      rw [hstep]
      exact iff_of_true (h.of_calls calls) trivial
    · exact iff_of_true h trivial
  | commitAllocation call recordId =>
    simp only [allocationStep, AllocationsClear]
    split_ifs with hcall
    · rw [forall_prop_of_true hcall]
      rcases commitAllocation_cases s call recordId with
        ⟨carId, hchosen, hfresh, hstep⟩ | ⟨htaken, calls, hstep, -⟩
      · rw [hstep, exclusive_allocated_iff hwf h hcall]
        refine ⟨fun hclear other hother _ => ?_, fun hclear => hclear carId hchosen hfresh⟩
        exact Option.mem_unique hchosen hother ▸ hclear
      · rw [hstep]
        refine iff_of_true (h.of_calls calls) fun carId hchosen hfresh => ?_
        rw [htaken carId hchosen] at hfresh
        cases hfresh
    · exact iff_of_true h fun hboth => absurd hboth hcall
  | failAllocation call => exact iff_of_true (h.of_calls _) trivial

end Steps

/-! ## Runs -/

theorem wellFormed_emptyAllocations : AllocatedFleet.empty.WellFormed :=
  ⟨wellFormed_empty, List.nodup_nil, fun _ h => absurd h List.not_mem_nil,
    fun _ h => absurd h List.not_mem_nil⟩

/-- In a run no car is assigned to two bookings at once, and every booking has at most one active
allocation, that of its car, exactly if the transactions of the allocations are clear. -/
theorem exclusive_allocation_iff (actions : List AllocationAction) :
    Everywhere allocationStep AllocationsExclusive .empty actions ↔
      Along allocationStep AllocationsClear .empty actions :=
  everywhere_iff_along_of_invariant wellFormed_allocationStep
    (fun s action _ => exclusive_allocationStep_iff s action) wellFormed_emptyAllocations
    ⟨noOverlap_empty, fun _ h => absurd h List.not_mem_nil, fun _ h => absurd h List.not_mem_nil⟩

/-- The second booking is given the car of the first, which is still pending: one call after the
other. -/
theorem pending_car_allocated :
    ¬ Everywhere allocationStep AllocationsExclusive .empty
      [.createBooking "booking" "customer" "car" 10 20 0 true,
        .createBooking "other booking" "other customer" "other car" 15 25 0 true,
        .startAllocation "other booking" .exactVehicle true,
        .chooseCar ⟨⟨"other booking", "other customer", "other car", 15, 25, .pending⟩, none,
          .exactVehicle, none⟩ "car" true,
        .commitAllocation ⟨⟨"other booking", "other customer", "other car", 15, 25, .pending⟩, none,
          .exactVehicle, some "car"⟩ "record"] := by
  intro h
  have hoverlap := h.last.noOverlap
  revert hoverlap
  decide +kernel

end CarRental
