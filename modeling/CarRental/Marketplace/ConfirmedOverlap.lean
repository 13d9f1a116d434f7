import CarRental.Bookings.NoOverlap
import CarRental.Cars.VehicleBlocks
import CarRental.Marketplace.CheckoutOrchestrator

/-!
# Confirmations on the calendar

A booking that a checkout confirms should stand alone on its car: no other active booking, no block
and no live hold of another customer meets it (`CheckoutApart`), and the car is available when it is
confirmed (`ConfirmsAvailable`).

Nothing in the checkout looks at the calendar.  Neither `createQuote` nor `verifyAndConfirmPayment`
asks whether the car is free, and the booking is inserted under no lock of its own: it only waits, by
its foreign key, for a transaction that has locked the row of the car.  `createBooking` has, so it
sees the bookings of the checkout.  A block or a hold may have looked before one of them was inserted
(`confirmed_overlap_iff`).
-/

namespace CarRental.Marketplace

open KeyedRows Runs CheckedWrites

/-! ## The desk -/

/-- A creation of a hold, with the number of bookings that there were at its check. -/
structure CheckedHold where
  request : PendingHold
  bookingsSeen : ℕ
deriving DecidableEq

structure CalendarDesk where
  db : VehicleDb
  now : ℤ
  locks : List CarLock
  calls : List BookingCall
  blocks : List PendingBlock
  holds : List CheckedHold
  confirmations : List PendingVerification
  /-- The bookings that the checkout has confirmed. -/
  confirmed : List Id
deriving DecidableEq

namespace CalendarDesk

/-- The part that `createBooking` and `blockVehicle` work on. -/
def blockDesk (desk : CalendarDesk) : BlockDesk :=
  ⟨desk.db, desk.now, desk.locks, desk.calls, desk.blocks⟩

def withBlockDesk (desk : CalendarDesk) (part : BlockDesk) : CalendarDesk :=
  { desk with
    db := part.db
    locks := part.locks
    calls := part.calls
    blocks := part.blocks }

/-- The part that a hold works on; those under way are kept with their checks. -/
def holdDesk (desk : CalendarDesk) : HoldDesk := ⟨desk.db, desk.now, desk.locks, [], []⟩

end CalendarDesk

/-! ## Holds -/

def beginHold (calendar : ServerCalendar) (desk : CalendarDesk) (carId customerId : Id)
    (startDate endDate ttlSeconds : ℤ) (idempotencyKey : Option String) (token : String) :
    CalendarDesk :=
  let begun := (startHold calendar desk.holdDesk carId customerId startDate endDate ttlSeconds
    idempotencyKey token).1
  { desk with
    locks := begun.locks
    holds := (begun.pending.map fun request => ⟨request, desk.db.bookings.length⟩) ++ desk.holds }

/-- The insert, once no transaction has locked the row of the car. -/
def insertHold (desk : CalendarDesk) (hold : CheckedHold) (newId : Id) : CalendarDesk :=
  if desk.blockDesk.rowLocked hold.request.carId then desk
  else
    let inserted := (finishHold desk.holdDesk hold.request newId).1
    { desk with
      db := inserted.db
      locks := inserted.locks
      holds := desk.holds.erase hold }

/-! ## Confirmations -/

/-- The booking of a confirmation, on the calendar. -/
def PendingVerification.fleetBooking (call : PendingVerification) (newId : Id) : FleetBooking :=
  ⟨newId, call.session.customerId, call.quote.carId, call.quote.startDate, call.quote.endDate,
    .confirmed⟩

/-- Nothing fails in the transaction, and its insert does not have to wait. -/
def confirms (desk : CalendarDesk) (call : PendingVerification) (newId : Id) (failed : Bool) : Bool :=
  call ∈ desk.confirmations ∧ failed = false ∧ desk.blockDesk.rowLocked call.quote.carId = false ∧
    newId ∉ desk.db.bookings.map FleetBooking.id

/-- What the transaction writes: the booking, and the customer's holds of the car. -/
def book (desk : CalendarDesk) (call : PendingVerification) (newId : Id) : CalendarDesk :=
  { desk with
    db := { desk.db with
      bookings := desk.db.bookings ++ [call.fleetBooking newId]
      holds := convertHolds desk.db.holds call.quote.carId call.session.customerId }
    confirmations := desk.confirmations.erase call
    confirmed := newId :: desk.confirmed }

/-- A booking that is active takes another status. -/
def moveBooking (status : BookingStatus) (booking : FleetBooking) : FleetBooking :=
  if booking.status ∈ creationStatuses then { booking with status } else booking

/-! ## Steps -/

inductive CalendarAction where
  | startBooking (customerId : Id) (dto : CreateBookingDto) (token : String) (admitted : Bool)
  | beginBooking (call : BookingCall)
  | commitBooking (call : BookingCall) (newId : Id) (failed : Bool)
  | startBlock (carId vendorId : Id) (startDate endDate : ℤ) (blockType : VehicleBlockType)
      (reason : Option String) (actorRole : Role) (token : String)
  | finishBlock (request : PendingBlock) (newId : Id)
  | startHold (carId customerId : Id) (startDate endDate ttlSeconds : ℤ)
      (idempotencyKey : Option String) (token : String)
  | finishHold (hold : CheckedHold) (newId : Id)
  | releaseHold (holdId : Id) (customerId : Option Id)
  /-- `verifyAndConfirmPayment` up to its transaction; the dates of a quote are in order. -/
  | beginConfirmation (call : PendingVerification)
  | commitConfirmation (call : PendingVerification) (newId : Id) (failed : Bool)
  /-- A transition of the lifecycle. -/
  | moveBooking (bookingId : Id) (status : BookingStatus)
  | advance (milliseconds : ℕ)
  | elsewhere (cars : List Car) (exceptions : List LocationException)

def calendarStep (calendar : ServerCalendar) (desk : CalendarDesk) : CalendarAction → CalendarDesk
  | .startBooking customerId dto token admitted =>
    desk.withBlockDesk (blockStep desk.blockDesk (.startBooking customerId dto token admitted))
  | .beginBooking call => desk.withBlockDesk (blockStep desk.blockDesk (.beginBooking call))
  | .commitBooking call newId failed =>
    desk.withBlockDesk (blockStep desk.blockDesk (.commitBooking call newId failed))
  | .startBlock carId vendorId startDate endDate blockType reason actorRole token =>
    desk.withBlockDesk (blockStep desk.blockDesk
      (.startBlock carId vendorId startDate endDate blockType reason actorRole token))
  | .finishBlock request newId =>
    desk.withBlockDesk (blockStep desk.blockDesk (.finishBlock request newId))
  | .startHold carId customerId startDate endDate ttlSeconds idempotencyKey token =>
    beginHold calendar desk carId customerId startDate endDate ttlSeconds idempotencyKey token
  | .finishHold hold newId => if hold ∈ desk.holds then insertHold desk hold newId else desk
  | .releaseHold holdId customerId =>
    { desk with db := (releaseHold desk.holdDesk holdId customerId).1.db }
  | .beginConfirmation call =>
    if call.quote.startDate < call.quote.endDate then
      { desk with confirmations := call :: desk.confirmations }
    else desk
  | .commitConfirmation call newId failed =>
    if confirms desk call newId failed then book desk call newId
    else if failed then { desk with confirmations := desk.confirmations.erase call }
    else desk
  | .moveBooking bookingId status =>
    { desk with db := { desk.db with
        bookings := updateKey FleetBooking.id bookingId (moveBooking status) desk.db.bookings } }
  | .advance milliseconds => { desk with now := desk.now + milliseconds }
  | .elsewhere cars exceptions => { desk with db := { desk.db with cars, exceptions } }

/-! ## The law -/

/-- Nothing on the calendar meets the booking. -/
structure Unobstructed (desk : CalendarDesk) (booking : FleetBooking) : Prop where
  bookings : ∀ other ∈ desk.db.bookings, other.id ≠ booking.id →
    other.overlaps creationStatuses booking.carId booking.startDate booking.endDate = false
  blocks : ∀ blk ∈ desk.db.blocks,
    blk.overlaps booking.carId booking.startDate booking.endDate = false
  holds : ∀ hold ∈ desk.db.holds, hold.customerId ≠ booking.customerId →
    hold.overlaps booking.carId booking.startDate booking.endDate desk.now = false

/-- The active bookings of the checkout stand alone. -/
def CheckoutApart (desk : CalendarDesk) : Prop :=
  ∀ booking ∈ desk.db.bookings, booking.id ∈ desk.confirmed → booking.isActive →
    Unobstructed desk booking

/-- A confirmation meets a car that is available to its customer. -/
def ConfirmsAvailable (calendar : ServerCalendar) (desk : CalendarDesk) : CalendarAction → Prop
  | .commitConfirmation call newId failed => confirms desk call newId failed = true →
      ReportsAvailable (checkAvailability calendar desk.db call.quote.carId call.quote.startDate
        call.quote.endDate ⟨none, some call.session.customerId, none⟩ desk.now)
  | _ => True

/-! ## The condition -/

def OnTheRoad (calendar : ServerCalendar) (db : VehicleDb) (carId : Id) (startDate endDate : ℤ) :
    Prop :=
  ∃ car, db.findCar carId = some car ∧ car.Operational ∧
    closuresOf calendar db car.pickupHubId startDate endDate = [] ∧
      car.hasBlockedDate startDate endDate = false

/-- A confirmation meets a car on the road and nothing on its calendar; a block or a hold is
inserted while no confirmation since its check meets it, for a hold of another customer. -/
def ConfirmsInOrder (calendar : ServerCalendar) (desk : CalendarDesk) : CalendarAction → Prop
  | .commitConfirmation call newId failed => confirms desk call newId failed = true →
      Unobstructed desk (call.fleetBooking newId) ∧
        OnTheRoad calendar desk.db call.quote.carId call.quote.startDate call.quote.endDate
  | .finishBlock request newId => request ∈ desk.blocks →
      desk.blockDesk.rowLocked request.carId = false →
        newId ∉ desk.db.blocks.map VehicleBlock.id →
          ∀ booking ∈ desk.db.bookings.drop request.seen, booking.id ∈ desk.confirmed →
            Clears booking request
  | .finishHold hold newId => hold ∈ desk.holds →
      desk.blockDesk.rowLocked hold.request.carId = false →
        insertable desk.db.holds hold.request newId = true →
          ∀ booking ∈ desk.db.bookings.drop hold.bookingsSeen, booking.id ∈ desk.confirmed →
            booking.isActive → hold.request.customerId ≠ booking.customerId →
              (hold.request.row newId desk.now).overlaps booking.carId booking.startDate
                booking.endDate desk.now = false
  | _ => True

/-! ## What the steps of bookings and blocks do -/

section Parts

variable {part : BlockDesk}

theorem mem_calls_blockStep {action : BlockAction} {call : BookingCall}
    (hcall : call ∈ (blockStep part action).calls) (hbegan : call.beganAt.isSome = true) :
    call ∈ part.calls ∨
      bookingsInTheWay part.db call.dto.carId call.dto.startDate call.dto.endDate none = [] := by
  cases action with
  | startBooking customerId dto token admitted =>
    simp only [blockStep, startBooking] at hcall
    split at hcall
    · exact .inl hcall
    split at hcall
    · exact .inl hcall
    split at hcall
    · rcases List.mem_cons.mp hcall with rfl | hold
      · cases hbegan
      · exact .inl hold
    · exact .inl hcall
  | beginBooking other =>
    simp only [blockStep, beginBooking] at hcall
    split at hcall
    · split at hcall
      · exact .inl hcall
      split at hcall
      · exact .inl (List.mem_of_mem_erase hcall)
      next hok =>
        rcases List.mem_cons.mp hcall with rfl | hold
        · exact .inr (checkCalendar_eq_ok hok).1
        · exact .inl (List.mem_of_mem_erase hold)
    · exact .inl hcall
  | commitBooking other newId failed =>
    simp only [blockStep, commitBooking] at hcall
    split at hcall
    · exact .inl hcall
    split at hcall
    · split at hcall <;> exact .inl (List.mem_of_mem_erase hcall)
    · exact .inl hcall
  | startBlock carId vendorId startDate endDate blockType reason actorRole token =>
    simp only [blockStep, startBlock] at hcall
    repeat' split at hcall
    all_goals exact .inl hcall
  | finishBlock request newId =>
    simp only [blockStep, finishBlock] at hcall
    repeat' split at hcall
    all_goals exact .inl hcall
  | advance milliseconds => exact .inl hcall
  | elsewhere cars exceptions holds => exact .inl hcall

theorem startBooking_db (customerId : Id) (dto : CreateBookingDto) (token : String)
    (admitted : Bool) : (startBooking part customerId dto token admitted).db = part.db := by
  rw [startBooking]
  repeat' split
  all_goals rfl

theorem beginBooking_db (call : BookingCall) :
    (blockStep part (.beginBooking call)).db = part.db := by
  simp only [blockStep, beginBooking]
  repeat' split
  all_goals rfl

theorem startBlock_db (carId vendorId : Id) (startDate endDate : ℤ) (blockType : VehicleBlockType)
    (reason : Option String) (actorRole : Role) (token : String) :
    (startBlock part carId vendorId startDate endDate blockType reason actorRole token).1.db =
      part.db := by
  rw [startBlock]
  repeat' split
  all_goals rfl

theorem commitBooking_cases (part : BlockDesk) (call : BookingCall) (newId : Id) (failed : Bool) :
    (blockStep part (.commitBooking call newId failed)).db = part.db ∨
      call ∈ part.calls ∧ call.beganAt.isSome = true ∧
        newId ∉ part.db.bookings.map FleetBooking.id ∧
        (blockStep part (.commitBooking call newId failed)).db = { part.db with
          bookings := part.db.bookings ++ [bookingOf call newId]
          holds := convertHolds part.db.holds call.dto.carId call.customerId } := by
  simp only [blockStep, commitBooking]
  split
  · exact .inl rfl
  next beganAt hbegan =>
    split
    next hcall =>
      split
      · exact .inl rfl
      next hcommits =>
        have hfresh := fun hused => hcommits (.inr (.inr hused))
        exact .inr ⟨hcall, by rw [hbegan]; rfl, hfresh, rfl⟩
    · exact .inl rfl

theorem finishBlock_cases (part : BlockDesk) (request : PendingBlock) (newId : Id) :
    (¬ (request ∈ part.blocks ∧ part.rowLocked request.carId = false ∧
          newId ∉ part.db.blocks.map VehicleBlock.id) ∧
        (blockStep part (.finishBlock request newId)).db = part.db) ∨
      (request ∈ part.blocks ∧ part.rowLocked request.carId = false ∧
          newId ∉ part.db.blocks.map VehicleBlock.id) ∧
        (blockStep part (.finishBlock request newId)).db = { part.db with
          blocks := part.db.blocks ++ [request.row newId] } := by
  simp only [blockStep, finishBlock]
  split
  next hrequest =>
    split
    next hlocked =>
      refine .inl ⟨fun h => ?_, rfl⟩
      rw [h.2.1] at hlocked
      cases hlocked
    next hfree =>
      split
      next hused => exact .inl ⟨fun h => h.2.2 hused, rfl⟩
      next hfresh => exact .inr ⟨⟨hrequest, Bool.not_eq_true _ ▸ hfree, hfresh⟩, rfl⟩
  next hother => exact .inl ⟨fun h => hother h.1, rfl⟩

end Parts

/-! ## What holds in every state -/

def LeavesAlone (booking : FleetBooking) (request : PendingHold) : Prop :=
  booking.overlaps creationStatuses request.carId request.startDate request.endDate = false

/-- The bookings of the checkout are bookings and leave alone what `createBooking` has begun with; a
hold leaves the bookings alone that there were at its check. -/
structure SoundCalendar (desk : CalendarDesk) : Prop where
  blocks : SoundBlocks desk.blockDesk
  known : ∀ id ∈ desk.confirmed, id ∈ desk.db.bookings.map FleetBooking.id
  begun : ∀ call ∈ desk.calls, call.beganAt.isSome = true →
    ∀ booking ∈ desk.db.bookings, booking.id ∈ desk.confirmed →
      booking.overlaps creationStatuses call.dto.carId call.dto.startDate call.dto.endDate = false
  holds : ∀ hold ∈ desk.holds, Checked LeavesAlone desk.db.bookings hold.bookingsSeen hold.request
  ordered : ∀ call ∈ desk.confirmations, call.quote.startDate < call.quote.endDate

theorem not_overlaps_of_inTheWay {db : VehicleDb} {carId : Id} {startDate endDate : ℤ}
    (h : bookingsInTheWay db carId startDate endDate none = []) {booking : FleetBooking}
    (hbooking : booking ∈ db.bookings) :
    booking.overlaps creationStatuses carId startDate endDate = false := by
  have hnot := List.filter_eq_nil_iff.mp h booking hbooking
  by_contra hmeets
  exact hnot (decide_eq_true ⟨Bool.not_eq_false _ ▸ hmeets, Option.some_ne_none _⟩)

theorem not_overlaps_moveBooking (status : BookingStatus) {booking : FleetBooking} {carId : Id}
    {startDate endDate : ℤ}
    (h : booking.overlaps creationStatuses carId startDate endDate = false) :
    (moveBooking status booking).overlaps creationStatuses carId startDate endDate = false := by
  rw [moveBooking]
  split
  next hactive =>
    refine decide_eq_false fun hmeets => ?_
    exact absurd ⟨hmeets.1, hactive, hmeets.2.2⟩ (of_decide_eq_false h)
  · exact h

theorem moveBooking_id (status : BookingStatus) (booking : FleetBooking) :
    (moveBooking status booking).id = booking.id := by
  rw [moveBooking]
  split <;> rfl

section Sound

variable {calendar : ServerCalendar} {desk : CalendarDesk}

theorem SoundCalendar.withBlockDesk (h : SoundCalendar desk) (action : BlockAction)
    (hbookings : (blockStep desk.blockDesk action).db.bookings = desk.db.bookings ∨
      ∃ new, new.id ∉ desk.db.bookings.map FleetBooking.id ∧
        (blockStep desk.blockDesk action).db.bookings = desk.db.bookings ++ [new]) :
    SoundCalendar (desk.withBlockDesk (blockStep desk.blockDesk action)) := by
  have hsound := blockStep_sound h.blocks action
  have hold : ∀ booking ∈ (blockStep desk.blockDesk action).db.bookings,
      booking.id ∈ desk.confirmed → booking ∈ desk.db.bookings := by
    intro booking hbooking hconfirmed
    rcases hbookings with heq | ⟨new, hfresh, heq⟩
    · rw [heq] at hbooking
      exact hbooking
    · rw [heq] at hbooking
      refine (List.mem_append.mp hbooking).resolve_right fun hnew => hfresh ?_
      rw [← List.mem_singleton.mp hnew]
      exact h.known booking.id hconfirmed
  refine ⟨⟨hsound.begun, hsound.checked⟩, fun id hid => ?_, fun call hcall hbegan booking hbooking
    hconfirmed => ?_, fun hold' hhold => ?_, h.ordered⟩
  · show id ∈ (blockStep desk.blockDesk action).db.bookings.map FleetBooking.id
    rcases hbookings with heq | ⟨new, -, heq⟩
    · rw [heq]
      exact h.known id hid
    · rw [heq, List.map_append]
      exact List.mem_append_left _ (h.known id hid)
  · have hbefore := hold booking hbooking hconfirmed
    rcases mem_calls_blockStep hcall hbegan with hcall' | hfree
    · exact h.begun call hcall' hbegan booking hbefore hconfirmed
    · exact not_overlaps_of_inTheWay hfree hbefore
  · show Checked LeavesAlone (blockStep desk.blockDesk action).db.bookings hold'.bookingsSeen
      hold'.request
    rcases hbookings with heq | ⟨new, -, heq⟩
    · rw [heq]
      exact h.holds hold' hhold
    · rw [heq]
      exact (h.holds hold' hhold).append [new]

theorem SoundCalendar.congr {desk' : CalendarDesk} (h : SoundCalendar desk)
    (hbookings : desk'.db.bookings = desk.db.bookings) (hblocks : desk'.db.blocks = desk.db.blocks)
    (hcalls : desk'.calls = desk.calls) (hpending : desk'.blocks = desk.blocks)
    (hholds : desk'.holds ⊆ desk.holds) (hconfirmations : desk'.confirmations ⊆ desk.confirmations)
    (hconfirmed : desk'.confirmed = desk.confirmed) : SoundCalendar desk' := by
  obtain ⟨⟨hclear, hchecked⟩, hknown, hbegun, hleaves, hordered⟩ := h
  refine ⟨⟨?_, ?_⟩, ?_, ?_, ?_, fun call hcall => hordered call (hconfirmations hcall)⟩
  · show ∀ call ∈ desk'.calls, call.beganAt.isSome = true → ∀ blk ∈ desk'.db.blocks, _
    rw [hcalls, hblocks]
    exact hclear
  · show ∀ request ∈ desk'.blocks, Checked Clears desk'.db.bookings request.seen request
    rw [hpending, hbookings]
    exact hchecked
  · rw [hconfirmed, hbookings]
    exact hknown
  · rw [hcalls, hbookings, hconfirmed]
    exact hbegun
  · rw [hbookings]
    exact fun hold hhold => hleaves hold (hholds hhold)

theorem leavesAlone_of_available {db : VehicleDb} {request : PendingHold} {now : ℤ}
    (h : Available calendar db request now) :
    ∀ booking ∈ db.bookings, LeavesAlone booking request := by
  obtain ⟨-, car, hfind, -, hclear⟩ := reportsAvailable_iff.mp h
  obtain ⟨-, hbookings, -⟩ := conflictsOf_eq_nil.mp hclear
  rw [findCar_id hfind] at hbookings
  exact fun booking hbooking => not_overlaps_of_inTheWay hbookings hbooking

theorem SoundCalendar.beginHold (h : SoundCalendar desk) (carId customerId : Id)
    (startDate endDate ttlSeconds : ℤ) (idempotencyKey : Option String) (token : String) :
    SoundCalendar (beginHold calendar desk carId customerId startDate endDate ttlSeconds
      idempotencyKey token) := by
  obtain ⟨-, -, hpending⟩ := startHold_cases calendar desk.holdDesk carId customerId startDate
    endDate ttlSeconds idempotencyKey token
  refine ⟨⟨h.blocks.begun, h.blocks.checked⟩, h.known, h.begun, fun hold hhold => ?_, h.ordered⟩
  rcases List.mem_append.mp hhold with hnew | hold'
  · obtain ⟨request, hrequest, rfl⟩ := List.mem_map.mp hnew
    rcases hpending with heq | ⟨begun, heq, -, havailable⟩
    · rw [heq] at hrequest
      cases hrequest
    · rw [heq] at hrequest
      rw [List.mem_singleton.mp hrequest]
      exact checked_length (leavesAlone_of_available havailable)
  · exact h.holds hold hold'

theorem SoundCalendar.book (h : SoundCalendar desk) {call : PendingVerification} {newId : Id}
    {failed : Bool} (hconfirms : confirms desk call newId failed = true) :
    SoundCalendar (book desk call newId) := by
  obtain ⟨-, -, hfree, hfresh⟩ := of_decide_eq_true hconfirms
  refine ⟨⟨h.blocks.begun, fun request hrequest => (h.blocks.checked request hrequest).append _⟩,
    fun id hid => ?_, fun other hother hbegan booking hbooking hconfirmed => ?_,
    fun hold hhold => (h.holds hold hhold).append _,
    fun other hother => h.ordered other (List.mem_of_mem_erase hother)⟩
  · show id ∈ (desk.db.bookings ++ [call.fleetBooking newId]).map FleetBooking.id
    rw [List.map_append, List.mem_append]
    rcases List.mem_cons.mp hid with rfl | hid
    · exact .inr (List.mem_singleton.mpr rfl)
    · exact .inl (h.known id hid)
  · rcases List.mem_append.mp hbooking with hold | hnew
    · have hne : booking.id ≠ newId := fun heq => hfresh (heq ▸ List.mem_map_of_mem hold)
      exact h.begun other hother hbegan booking hold
        ((List.mem_cons.mp hconfirmed).resolve_left hne)
    · -- a transaction of `createBooking` on the car would have locked its row
      rw [List.mem_singleton.mp hnew]
      refine decide_eq_false fun hmeets => ?_
      have hnot := List.any_eq_false.mp hfree other hother
      rw [Bool.and_eq_true, decide_eq_true_eq] at hnot
      exact hnot ⟨hmeets.1.symm, hbegan⟩

theorem SoundCalendar.moveBooking (h : SoundCalendar desk) (bookingId : Id)
    (status : BookingStatus) :
    SoundCalendar (calendarStep calendar desk (.moveBooking bookingId status)) := by
  have hmove : ∀ (booking : FleetBooking) {carId : Id} {startDate endDate : ℤ},
      booking.overlaps creationStatuses carId startDate endDate = false →
        (if booking.id = bookingId then Marketplace.moveBooking status booking
          else booking).overlaps creationStatuses carId startDate endDate = false := by
    intro booking carId startDate endDate hnot
    split
    · exact not_overlaps_moveBooking status hnot
    · exact hnot
  refine ⟨⟨h.blocks.begun, fun request hrequest =>
      (h.blocks.checked request hrequest).map fun booking hclear => hmove booking hclear⟩, ?_,
    fun call hcall hbegan booking hbooking hconfirmed => ?_,
    fun hold hhold => (h.holds hold hhold).map fun booking halone => hmove booking halone, h.ordered⟩
  · show ∀ id ∈ desk.confirmed, id ∈ (updateKey FleetBooking.id bookingId
      (Marketplace.moveBooking status) desk.db.bookings).map FleetBooking.id
    rw [map_key_updateKey (moveBooking_id status)]
    exact h.known
  · rcases mem_updateKey.mp hbooking with ⟨before, hbefore, -, rfl⟩ | ⟨hbefore, -⟩
    · rw [moveBooking_id] at hconfirmed
      exact not_overlaps_moveBooking status (h.begun call hcall hbegan before hbefore hconfirmed)
    · exact h.begun call hcall hbegan booking hbefore hconfirmed

theorem calendarStep_sound (h : SoundCalendar desk) (action : CalendarAction) :
    SoundCalendar (calendarStep calendar desk action) := by
  cases action with
  | startBooking customerId dto token admitted =>
    exact h.withBlockDesk _ (.inl (congrArg VehicleDb.bookings (startBooking_db ..)))
  | beginBooking call =>
    exact h.withBlockDesk _ (.inl (congrArg VehicleDb.bookings (beginBooking_db call)))
  | commitBooking call newId failed =>
    refine h.withBlockDesk _ ?_
    rcases commitBooking_cases desk.blockDesk call newId failed with hdb | ⟨-, -, hfresh, hdb⟩
    · exact .inl (congrArg VehicleDb.bookings hdb)
    · exact .inr ⟨bookingOf call newId, hfresh, congrArg VehicleDb.bookings hdb⟩
  | startBlock carId vendorId startDate endDate blockType reason actorRole token =>
    exact h.withBlockDesk _ (.inl (congrArg VehicleDb.bookings (startBlock_db ..)))
  | finishBlock request newId =>
    refine h.withBlockDesk _ (.inl ?_)
    rcases finishBlock_cases desk.blockDesk request newId with ⟨-, hdb⟩ | ⟨-, hdb⟩
    · rw [hdb]
      rfl
    · rw [hdb]
      rfl
  | startHold carId customerId startDate endDate ttlSeconds idempotencyKey token =>
    exact h.beginHold carId customerId startDate endDate ttlSeconds idempotencyKey token
  | finishHold hold newId =>
    rw [calendarStep]
    split
    · rw [insertHold]
      split
      · exact h
      · rw [finishHold]
        dsimp only
        split <;> exact h.congr rfl rfl rfl rfl List.erase_subset (List.Subset.refl _) rfl
    · exact h
  | releaseHold holdId customerId =>
    rw [calendarStep, releaseHold]
    split
    · exact h.congr rfl rfl rfl rfl (List.Subset.refl _) (List.Subset.refl _) rfl
    · split <;> exact h.congr rfl rfl rfl rfl (List.Subset.refl _) (List.Subset.refl _) rfl
  | beginConfirmation call =>
    rw [calendarStep]
    split
    next hordered =>
      refine ⟨⟨h.blocks.begun, h.blocks.checked⟩, h.known, h.begun, h.holds, fun other hother => ?_⟩
      rcases List.mem_cons.mp hother with rfl | hold
      · exact hordered
      · exact h.ordered other hold
    · exact h
  | commitConfirmation call newId failed =>
    rw [calendarStep]
    split
    next hconfirms => exact h.book hconfirms
    · split
      · exact h.congr rfl rfl rfl rfl (List.Subset.refl _) List.erase_subset rfl
      · exact h
  | moveBooking bookingId status => exact h.moveBooking bookingId status
  | advance milliseconds =>
    exact h.congr rfl rfl rfl rfl (List.Subset.refl _) (List.Subset.refl _) rfl
  | elsewhere cars exceptions =>
    exact h.congr rfl rfl rfl rfl (List.Subset.refl _) (List.Subset.refl _) rfl

/-! ## Which steps keep the law -/

theorem overlaps_comm {a b : FleetBooking} (ha : a.isActive) (hb : b.isActive) :
    a.overlaps creationStatuses b.carId b.startDate b.endDate =
      b.overlaps creationStatuses a.carId a.startDate a.endDate := by
  refine decide_eq_decide.mpr ⟨?_, ?_⟩
  · rintro ⟨hcar, -, hstart, hend⟩
    exact ⟨hcar.symm, hb, hend, hstart⟩
  · rintro ⟨hcar, -, hstart, hend⟩
    exact ⟨hcar.symm, ha, hend, hstart⟩

theorem mem_of_convertHolds {holds : List VehicleHold} {carId customerId : Id} {hold : VehicleHold}
    {now : ℤ} (h : hold ∈ convertHolds holds carId customerId) (hlive : hold.live now = true) :
    hold ∈ holds := by
  obtain ⟨before, hbefore, rfl⟩ := List.mem_map.mp h
  split
  next hconverted =>
    rw [if_pos hconverted] at hlive
    cases (of_decide_eq_true hlive).1
  · exact hbefore

theorem not_overlaps_of_live {hold : VehicleHold} {carId : Id} {startDate endDate now : ℤ}
    (h : hold.live now = true → hold.overlaps carId startDate endDate now = false) :
    hold.overlaps carId startDate endDate now = false := by
  by_contra hmeets
  have htrue : hold.overlaps carId startDate endDate now = true := Bool.not_eq_false _ ▸ hmeets
  exact hmeets (h (of_decide_eq_true htrue).2.1)

theorem CheckoutApart.of_tables {desk' : CalendarDesk} (h : CheckoutApart desk)
    (hbookings : desk'.db.bookings = desk.db.bookings) (hblocks : desk'.db.blocks = desk.db.blocks)
    (hconfirmed : desk'.confirmed = desk.confirmed)
    (hholds : ∀ hold ∈ desk'.db.holds, hold.live desk'.now = true →
      hold ∈ desk.db.holds ∧ hold.live desk.now = true) : CheckoutApart desk' := by
  rw [CheckoutApart, hbookings, hconfirmed]
  intro booking hbooking hin hactive
  obtain ⟨hothers, hblocked, hheld⟩ := h booking hbooking hin hactive
  refine ⟨?_, ?_, fun hold hhold hother => not_overlaps_of_live fun hlive => ?_⟩
  · rw [hbookings]
    exact hothers
  · rw [hblocks]
    exact hblocked
  · obtain ⟨hbefore, hlive'⟩ := hholds hold hhold hlive
    have hnot := of_decide_eq_false (hheld hold hbefore hother)
    exact decide_eq_false fun hmeets => hnot ⟨hmeets.1, hlive', hmeets.2.2⟩

theorem CheckoutApart.of_db {desk' : CalendarDesk} (h : CheckoutApart desk)
    (hdb : desk'.db = desk.db) (hnow : desk'.now = desk.now)
    (hconfirmed : desk'.confirmed = desk.confirmed) : CheckoutApart desk' := by
  refine h.of_tables ?_ ?_ hconfirmed fun hold hhold hlive => ?_
  · rw [hdb]
  · rw [hdb]
  · rw [hdb] at hhold
    rw [hnow] at hlive
    exact ⟨hhold, hlive⟩

theorem Unobstructed.insert {desk' : CalendarDesk} {booking new : FleetBooking}
    {carId customerId : Id} (h : Unobstructed desk booking)
    (hbookings : desk'.db.bookings = desk.db.bookings ++ [new])
    (hblocks : desk'.db.blocks = desk.db.blocks)
    (hholds : desk'.db.holds = convertHolds desk.db.holds carId customerId)
    (hnow : desk'.now = desk.now)
    (hnew : new.id ≠ booking.id →
      new.overlaps creationStatuses booking.carId booking.startDate booking.endDate = false) :
    Unobstructed desk' booking := by
  refine ⟨fun other hother hne => ?_, ?_, fun hold hhold hcustomer => ?_⟩
  · rw [hbookings] at hother
    rcases List.mem_append.mp hother with hold | hlast
    · exact h.bookings other hold hne
    · rw [List.mem_singleton.mp hlast] at hne ⊢
      exact hnew hne
  · rw [hblocks]
    exact h.blocks
  · rw [hnow]
    rw [hholds] at hhold
    exact not_overlaps_of_live fun hlive =>
      h.holds hold (mem_of_convertHolds hhold hlive) hcustomer

theorem commitBooking_apart (h : SoundCalendar desk) (hapart : CheckoutApart desk)
    (call : BookingCall) (newId : Id) (failed : Bool) :
    CheckoutApart (calendarStep calendar desk (.commitBooking call newId failed)) := by
  rcases commitBooking_cases desk.blockDesk call newId failed with
    hdb | ⟨hcall, hbegan, hfresh, hdb⟩
  · exact hapart.of_db hdb rfl rfl
  · have hbookings : (calendarStep calendar desk (.commitBooking call newId failed)).db.bookings =
        desk.db.bookings ++ [bookingOf call newId] := congrArg VehicleDb.bookings hdb
    have hblocks : (calendarStep calendar desk (.commitBooking call newId failed)).db.blocks =
        desk.db.blocks := by
      show (blockStep desk.blockDesk (.commitBooking call newId failed)).db.blocks = _
      rw [hdb]
      rfl
    intro booking hbooking hin hactive
    rw [hbookings] at hbooking
    rcases List.mem_append.mp hbooking with hold | hlast
    · refine (hapart booking hold hin hactive).insert hbookings hblocks
        (congrArg VehicleDb.holds hdb) rfl fun _ => ?_
      have hnew : (bookingOf call newId).isActive := List.mem_cons_self ..
      rw [overlaps_comm hnew hactive]
      exact h.begun call hcall hbegan booking hold hin
    · rw [List.mem_singleton.mp hlast] at hin
      exact absurd (h.known newId hin) hfresh

theorem moveBooking_apart (hapart : CheckoutApart desk) (bookingId : Id) (status : BookingStatus) :
    CheckoutApart (calendarStep calendar desk (.moveBooking bookingId status)) := by
  -- a booking that is active now was so before, at the same place
  have hbefore : ∀ booking ∈ updateKey FleetBooking.id bookingId (moveBooking status)
      desk.db.bookings, booking.isActive → ∃ before ∈ desk.db.bookings, before.id = booking.id ∧
        before.isActive ∧ before.customerId = booking.customerId ∧ before.carId = booking.carId ∧
          before.startDate = booking.startDate ∧ before.endDate = booking.endDate := by
    intro booking hbooking hactive
    rcases mem_updateKey.mp hbooking with ⟨before, hbefore, -, rfl⟩ | ⟨hbefore, -⟩
    · rw [moveBooking] at hactive ⊢
      split
      next hwas => exact ⟨before, hbefore, rfl, hwas, rfl, rfl, rfl, rfl⟩
      next hnot =>
        rw [if_neg hnot] at hactive
        exact ⟨before, hbefore, rfl, hactive, rfl, rfl, rfl, rfl⟩
    · exact ⟨booking, hbefore, rfl, hactive, rfl, rfl, rfl, rfl⟩
  intro booking hbooking hin hactive
  obtain ⟨before, hbefore', hid, hwas, hcustomer, hcar, hstart, hend⟩ :=
    hbefore booking hbooking hactive
  rw [← hid] at hin
  obtain ⟨hothers, hblocked, hheld⟩ := hapart before hbefore' hin hwas
  rw [hcar, hstart, hend] at hothers hblocked hheld
  rw [hid] at hothers
  rw [hcustomer] at hheld
  refine ⟨fun other hother hne => ?_, hblocked, hheld⟩
  rcases mem_updateKey.mp hother with ⟨old, hold, -, rfl⟩ | ⟨hold, -⟩
  · rw [moveBooking_id] at hne
    exact not_overlaps_moveBooking status (hothers old hold hne)
  · exact hothers other hold hne

theorem finishBlock_apart_iff (h : SoundCalendar desk) (hapart : CheckoutApart desk)
    (request : PendingBlock) (newId : Id) :
    CheckoutApart (calendarStep calendar desk (.finishBlock request newId)) ↔
      ConfirmsInOrder calendar desk (.finishBlock request newId) := by
  rcases finishBlock_cases desk.blockDesk request newId with
    ⟨hnot, hdb⟩ | ⟨⟨hrequest, hfree, hfresh⟩, hdb⟩
  · exact iff_of_true (hapart.of_db hdb rfl rfl) fun hrequest hfree hfresh =>
      absurd ⟨hrequest, hfree, hfresh⟩ hnot
  · have hblocks : (calendarStep calendar desk (.finishBlock request newId)).db.blocks =
        desk.db.blocks ++ [request.row newId] := (congrArg VehicleDb.blocks hdb :)
    have hsame : (calendarStep calendar desk (.finishBlock request newId)).db.bookings =
        desk.db.bookings := by
      show (blockStep desk.blockDesk (.finishBlock request newId)).db.bookings = _
      rw [hdb]
      rfl
    have hholds : (calendarStep calendar desk (.finishBlock request newId)).db.holds =
        desk.db.holds := by
      show (blockStep desk.blockDesk (.finishBlock request newId)).db.holds = _
      rw [hdb]
      rfl
    constructor
    · intro hafter _ _ _ booking hbooking hin
      by_cases hactive : booking.isActive
      · have hrow := (hafter booking (hsame ▸ List.mem_of_mem_drop hbooking) hin hactive).blocks
          (request.row newId) (hblocks ▸ List.mem_append_right _ (List.mem_singleton_self _))
        refine decide_eq_false fun hmeets => of_decide_eq_false hrow ⟨hmeets.1.symm, ?_⟩
        exact decide_eq_true ⟨hmeets.2.2.2, hmeets.2.2.1⟩
      · exact decide_eq_false fun hmeets => hactive hmeets.2.1
    · intro horder booking hbooking hin hactive
      rw [hsame] at hbooking
      have hbefore := hapart booking hbooking hin hactive
      refine ⟨hsame ▸ hbefore.bookings, fun blk hblk => ?_, hholds ▸ hbefore.holds⟩
      rw [hblocks] at hblk
      rcases List.mem_append.mp hblk with hold | hlast
      · exact hbefore.blocks blk hold
      · rw [List.mem_singleton.mp hlast]
        have hclears : Clears booking request := by
          rw [← List.take_append_drop request.seen desk.db.bookings, List.mem_append] at hbooking
          rcases hbooking with hseen | hsince
          · exact (h.blocks.checked request hrequest).2 booking hseen
          · exact horder hrequest hfree hfresh booking hsince hin
        refine decide_eq_false fun hmeets => of_decide_eq_false hclears ⟨hmeets.1.symm, hactive, ?_⟩
        exact (of_decide_eq_true hmeets.2).symm

theorem row_not_overlaps {booking : FleetBooking} {request : PendingHold} {newId : Id} {now : ℤ}
    (hactive : booking.isActive) (h : LeavesAlone booking request) :
    (request.row newId now).overlaps booking.carId booking.startDate booking.endDate now =
      false := by
  refine decide_eq_false fun hmeets => of_decide_eq_false h ⟨hmeets.1.symm, hactive, ?_⟩
  exact (of_decide_eq_true hmeets.2.2).symm

theorem finishHold_apart_iff (h : SoundCalendar desk) (hapart : CheckoutApart desk)
    (hold : CheckedHold) (newId : Id) :
    CheckoutApart (calendarStep calendar desk (.finishHold hold newId)) ↔
      ConfirmsInOrder calendar desk (.finishHold hold newId) := by
  rw [calendarStep, ConfirmsInOrder]
  by_cases hhold : hold ∈ desk.holds
  case neg =>
    rw [if_neg hhold]
    exact iff_of_true hapart fun hin => absurd hin hhold
  rw [if_pos hhold, imp_iff_right hhold, insertHold]
  by_cases hlocked : desk.blockDesk.rowLocked hold.request.carId = true
  case pos =>
    rw [if_pos hlocked]
    refine iff_of_true hapart fun hfree => ?_
    rw [hfree] at hlocked
    cases hlocked
  rw [if_neg hlocked, imp_iff_right (Bool.not_eq_true _ ▸ hlocked), finishHold]
  by_cases hinsertable : insertable desk.holdDesk.db.holds hold.request newId = true
  case neg =>
    dsimp only
    rw [if_neg hinsertable]
    exact iff_of_true (hapart.of_db rfl rfl rfl) fun hin => absurd hin hinsertable
  dsimp only
  rw [if_pos hinsertable]
  refine Iff.trans ?_ (imp_iff_right hinsertable).symm
  constructor
  · intro hafter booking hbooking hin hactive hcustomer
    exact (hafter booking (List.mem_of_mem_drop hbooking) hin hactive).holds
      (hold.request.row newId desk.now) (List.mem_append_right _ (List.mem_singleton_self _)) hcustomer
  · intro horder booking hbooking hin hactive
    have hbefore := hapart booking hbooking hin hactive
    refine ⟨hbefore.bookings, hbefore.blocks, fun other hother hcustomer => ?_⟩
    rcases List.mem_append.mp hother with hold' | hlast
    · exact hbefore.holds other hold' hcustomer
    · rw [List.mem_singleton.mp hlast] at hcustomer ⊢
      replace hbooking : booking ∈ desk.db.bookings := hbooking
      rw [← List.take_append_drop hold.bookingsSeen desk.db.bookings, List.mem_append] at hbooking
      rcases hbooking with hseen | hsince
      · exact row_not_overlaps hactive ((h.holds hold hhold).2 booking hseen)
      · exact horder booking hsince hin hactive hcustomer

/-! ### The confirmation -/

theorem available_iff (call : PendingVerification) {newId : Id}
    (hfresh : newId ∉ desk.db.bookings.map FleetBooking.id)
    (hordered : call.quote.startDate < call.quote.endDate) :
    ReportsAvailable (checkAvailability calendar desk.db call.quote.carId call.quote.startDate
        call.quote.endDate ⟨none, some call.session.customerId, none⟩ desk.now) ↔
      Unobstructed desk (call.fleetBooking newId) ∧
        OnTheRoad calendar desk.db call.quote.carId call.quote.startDate call.quote.endDate := by
  have hne : ∀ other ∈ desk.db.bookings, other.id ≠ newId :=
    fun other hother heq => hfresh (heq ▸ List.mem_map_of_mem hother)
  rw [reportsAvailable_iff, and_iff_right hordered]
  constructor
  · rintro ⟨car, hfind, hoperational, hclear⟩
    obtain ⟨hclosures, hbookings, hblocks, hholds, hdates⟩ := conflictsOf_eq_nil.mp hclear
    rw [findCar_id hfind] at hbookings hblocks hholds
    refine ⟨⟨fun other hother _ => not_overlaps_of_inTheWay hbookings hother, fun blk hblk => ?_,
      fun hold hhold hcustomer => ?_⟩, car, hfind, hoperational, hclosures, hdates⟩
    · exact Bool.not_eq_true _ ▸ List.filter_eq_nil_iff.mp hblocks blk hblk
    · have hnot := List.filter_eq_nil_iff.mp hholds hold hhold
      by_contra hmeets
      exact hnot (decide_eq_true ⟨Bool.not_eq_false _ ▸ hmeets,
        fun heq => hcustomer (Option.some.inj heq)⟩)
  · rintro ⟨hclear, car, hfind, hoperational, hclosures, hdates⟩
    refine ⟨car, hfind, hoperational, conflictsOf_eq_nil.mpr ⟨hclosures, ?_, ?_, ?_, hdates⟩⟩
    · rw [findCar_id hfind]
      refine List.filter_eq_nil_iff.mpr fun other hother hmeets => ?_
      exact absurd ((hclear.bookings other hother (hne other hother)).symm.trans
        (of_decide_eq_true hmeets).1) Bool.false_ne_true
    · rw [findCar_id hfind]
      refine List.filter_eq_nil_iff.mpr fun blk hblk hmeets => ?_
      exact absurd ((hclear.blocks blk hblk).symm.trans hmeets) Bool.false_ne_true
    · rw [findCar_id hfind]
      refine List.filter_eq_nil_iff.mpr fun hold hhold hmeets => ?_
      obtain ⟨hoverlaps, hother⟩ := of_decide_eq_true hmeets
      exact absurd ((hclear.holds hold hhold fun heq => hother (congrArg some heq)).symm.trans
        hoverlaps) Bool.false_ne_true

theorem book_apart (hapart : CheckoutApart desk) {call : PendingVerification} {newId : Id}
    (hfresh : newId ∉ desk.db.bookings.map FleetBooking.id)
    (hclear : Unobstructed desk (call.fleetBooking newId)) :
    CheckoutApart (book desk call newId) := by
  have hnew : (call.fleetBooking newId).isActive := List.mem_cons_of_mem _ (List.mem_cons_self ..)
  intro booking hbooking hin hactive
  rcases List.mem_append.mp hbooking with hold | hlast
  · have hne : booking.id ≠ newId := fun heq => hfresh (heq ▸ List.mem_map_of_mem hold)
    refine (hapart booking hold ((List.mem_cons.mp hin).resolve_left hne) hactive).insert rfl rfl rfl
      rfl fun _ => ?_
    rw [overlaps_comm hnew hactive]
    exact hclear.bookings booking hold hne
  · rw [List.mem_singleton.mp hlast]
    exact hclear.insert rfl rfl rfl rfl fun hne => absurd rfl hne

theorem calendarStep_law_iff (h : SoundCalendar desk) (hapart : CheckoutApart desk)
    (action : CalendarAction) :
    CheckoutApart (calendarStep calendar desk action) ∧ ConfirmsAvailable calendar desk action ↔
      ConfirmsInOrder calendar desk action := by
  cases action with
  | startBooking customerId dto token admitted =>
    exact iff_of_true ⟨hapart.of_db (startBooking_db ..) rfl rfl, trivial⟩ trivial
  | beginBooking call =>
    exact iff_of_true ⟨hapart.of_db (beginBooking_db call) rfl rfl, trivial⟩ trivial
  | commitBooking call newId failed =>
    exact iff_of_true ⟨commitBooking_apart h hapart call newId failed, trivial⟩ trivial
  | startBlock carId vendorId startDate endDate blockType reason actorRole token =>
    exact iff_of_true ⟨hapart.of_db (startBlock_db ..) rfl rfl, trivial⟩ trivial
  | finishBlock request newId =>
    exact (and_iff_left trivial).trans (finishBlock_apart_iff h hapart request newId)
  | startHold carId customerId startDate endDate ttlSeconds idempotencyKey token =>
    exact iff_of_true ⟨hapart.of_db rfl rfl rfl, trivial⟩ trivial
  | finishHold hold newId =>
    exact (and_iff_left trivial).trans (finishHold_apart_iff h hapart hold newId)
  | releaseHold holdId customerId =>
    refine iff_of_true ⟨?_, trivial⟩ trivial
    rw [calendarStep, releaseHold]
    split
    · exact hapart.of_db rfl rfl rfl
    · split
      · exact hapart.of_db rfl rfl rfl
      · exact hapart.of_tables rfl rfl rfl fun hold hhold hlive =>
          ⟨mem_of_live_setStatus VehicleHoldStatus.noConfusion hhold hlive, hlive⟩
  | beginConfirmation call =>
    refine iff_of_true ⟨?_, trivial⟩ trivial
    rw [calendarStep]
    split <;> exact hapart.of_db rfl rfl rfl
  | commitConfirmation call newId failed =>
    rw [calendarStep, ConfirmsAvailable, ConfirmsInOrder]
    by_cases hconfirms : confirms desk call newId failed = true
    · obtain ⟨hcall, -, -, hfresh⟩ := of_decide_eq_true hconfirms
      rw [if_pos hconfirms, imp_iff_right hconfirms, imp_iff_right hconfirms,
        available_iff call hfresh (h.ordered call hcall)]
      exact and_iff_right_of_imp fun hclear => book_apart hapart hfresh hclear.1
    · rw [if_neg hconfirms]
      refine iff_of_true ⟨?_, fun hin => absurd hin hconfirms⟩ fun hin => absurd hin hconfirms
      split <;> exact hapart.of_db rfl rfl rfl
  | moveBooking bookingId status =>
    exact iff_of_true ⟨moveBooking_apart hapart bookingId status, trivial⟩ trivial
  | advance milliseconds =>
    refine iff_of_true ⟨?_, trivial⟩ trivial
    exact hapart.of_tables rfl rfl rfl fun hold hhold hlive =>
      ⟨hhold, live_mono hlive (Int.le_add_of_nonneg_right (Int.natCast_nonneg _))⟩
  | elsewhere cars exceptions =>
    refine iff_of_true ⟨?_, trivial⟩ trivial
    exact hapart.of_tables rfl rfl rfl fun hold hhold hlive => ⟨hhold, hlive⟩

end Sound

/-! ## Runs -/

/-- Nobody is at work, and the checkout has confirmed nothing. -/
def CalendarDesk.idle (db : VehicleDb) (now : ℤ) : CalendarDesk := ⟨db, now, [], [], [], [], [], []⟩

theorem soundCalendar_idle (db : VehicleDb) (now : ℤ) : SoundCalendar (.idle db now) := by
  constructor
  case blocks => exact ⟨fun call hcall => absurd hcall List.not_mem_nil,
    fun request hrequest => absurd hrequest List.not_mem_nil⟩
  all_goals
    intro row hrow
    cases hrow

/-- In a run of bookings, holds, blocks and confirmations, the bookings of the checkout stand alone
and each is confirmed on an available car exactly if each confirmation meets a car on the road and
nothing on its calendar, and blocks and holds are not overtaken by one. -/
theorem confirmed_overlap_iff (calendar : ServerCalendar) (db : VehicleDb) (now : ℤ)
    (actions : List CalendarAction) :
    Everywhere (calendarStep calendar) CheckoutApart (.idle db now) actions ∧
        Along (calendarStep calendar) (ConfirmsAvailable calendar) (.idle db now) actions ↔
      Along (calendarStep calendar) (ConfirmsInOrder calendar) (.idle db now) actions :=
  everywhere_and_along_iff (I := SoundCalendar) (fun _ action h => calendarStep_sound h action)
    (fun _ action _ h hapart => calendarStep_law_iff h hapart action) (soundCalendar_idle db now)
    fun _ _ hin => absurd hin List.not_mem_nil

def sampleConfirmation : PendingVerification where
  session := ⟨"cs", "customer", "quote", .paymentPending, some "razorpay", 1, some "order_1", none, none,
    900000⟩
  quote := sampleQuote
  payload := ⟨some "order_1", some "pay_1"⟩
  lookedUp := true

/-- Another customer's booking of that day. -/
def othersBooking (beganAt : Option ℤ) : BookingCall :=
  ⟨"other", ⟨"car", .selfDrive, 86400000, 172800000, none, none⟩, "token", beganAt⟩

/-- Another customer books the car while the quote is being paid, and the payment is confirmed. -/
theorem booked_car_confirmed :
    ¬ (Everywhere (calendarStep everyDay) CheckoutApart (.idle freeCar 0)
        [.startBooking "other" (othersBooking none).dto "token" true,
          .beginBooking (othersBooking none), .commitBooking (othersBooking (some 0)) "first" false,
          .beginConfirmation sampleConfirmation,
          .commitConfirmation sampleConfirmation "second" false] ∧
      Along (calendarStep everyDay) (ConfirmsAvailable everyDay) (.idle freeCar 0)
        [.startBooking "other" (othersBooking none).dto "token" true,
          .beginBooking (othersBooking none), .commitBooking (othersBooking (some 0)) "first" false,
          .beginConfirmation sampleConfirmation,
          .commitConfirmation sampleConfirmation "second" false]) := by
  rintro ⟨hapart, -⟩
  have hclear := hapart.last (sampleConfirmation.fleetBooking "second") (by decide +kernel)
    (by decide +kernel) (by decide +kernel)
  exact absurd (hclear.bookings (bookingOf (othersBooking none) "first") (by decide +kernel)
    (by decide +kernel)) (by decide +kernel)

end CarRental.Marketplace
