import CarRental.Bookings.Admission
import CarRental.Cars.VehicleHolds

/-!
# Blocks against bookings

`VehicleAvailabilityService.blockVehicle` and `BookingsService.createBooking` should never
leave a block and an active booking that meet on a car.

Both take the booking lock of the car, which may run out while they are still at work.
`createBooking` then locks the row of the car for its transaction, and looks for blocks under
this lock.  `blockVehicle` looks for bookings under the booking lock only, and inserts its block
in a later statement.  That insert has to wait while a transaction has locked the row of the car,
which its foreign key refers to, but what was committed since is not looked at again.

So the only step that can go wrong is the insert of a block (`blocks_law_iff`).
-/

namespace CarRental

open KeyedRows Runs CheckedWrites

/-! ## The desk -/

inductive Role where
  | customer
  | vendor
  | admin
  | supportAgent
deriving DecidableEq, Repr

/-- A `createBooking` that has the booking lock, or that has begun its transaction. -/
structure BookingCall where
  customerId : Id
  dto : CreateBookingDto
  token : String
  /-- When the transaction began. -/
  beganAt : Option ℤ
deriving DecidableEq

/-- A `blockVehicle` between its look at the bookings and its insert, with the number of
bookings that there were. -/
structure PendingBlock where
  carId : Id
  startDate : ℤ
  endDate : ℤ
  blockType : VehicleBlockType
  reason : Option String
  token : String
  seen : ℕ
deriving DecidableEq

structure BlockDesk where
  db : VehicleDb
  now : ℤ
  locks : List CarLock
  calls : List BookingCall
  blocks : List PendingBlock
deriving DecidableEq

namespace BlockDesk

def rowLocked (desk : BlockDesk) (carId : Id) : Bool :=
  desk.calls.any fun call => call.dto.carId = carId && call.beganAt.isSome

/-- The call ends, and gives its booking lock back. -/
def endCall (desk : BlockDesk) (call : BookingCall) : BlockDesk :=
  { desk with
    calls := desk.calls.erase call
    locks := releaseLock desk.locks call.dto.carId call.token }

def endBlock (desk : BlockDesk) (request : PendingBlock) : BlockDesk :=
  { desk with
    blocks := desk.blocks.erase request
    locks := releaseLock desk.locks request.carId request.token }

end BlockDesk

/-! ## `createBooking` -/

/-- Up to the transaction; `admitted` is what its checks outside the transaction say. -/
def startBooking (desk : BlockDesk) (customerId : Id) (dto : CreateBookingDto) (token : String)
    (admitted : Bool) : BlockDesk :=
  if dto.startDate ≥ dto.endDate ∨ dto.startDate < desk.now then desk
  else
    match acquireLock desk.locks dto.carId token desk.now with
    | .error _ => desk
    | .ok locks =>
      if admitted then
        { desk with locks, calls := ⟨customerId, dto, token, none⟩ :: desk.calls }
      else { desk with locks := releaseLock locks dto.carId token }

/-- The begin of the transaction, which waits for the row of the car, and its checks. -/
def beginBooking (desk : BlockDesk) (call : BookingCall) : BlockDesk :=
  if desk.rowLocked call.dto.carId then desk
  else
    match checkCalendar desk.db call.customerId call.dto desk.now with
    | .error _ => desk.endCall call
    | .ok _ =>
      { desk with calls := { call with beganAt := some desk.now } :: desk.calls.erase call }

def transactionTimeout : ℤ := 15000

def convertHolds (holds : List VehicleHold) (carId customerId : Id) : List VehicleHold :=
  holds.map fun hold =>
    if hold.carId = carId ∧ hold.customerId = customerId ∧ hold.status = .active then
      { hold with status := .converted }
    else hold

def bookingOf (call : BookingCall) (newId : Id) : FleetBooking :=
  ⟨newId, call.customerId, call.dto.carId, call.dto.startDate, call.dto.endDate, .pending⟩

/-- The commit of the transaction, unless something fails in it or its time is over. -/
def commitBooking (desk : BlockDesk) (call : BookingCall) (beganAt : ℤ) (newId : Id)
    (failed : Bool) : BlockDesk :=
  if failed ∨ beganAt + transactionTimeout < desk.now ∨
      newId ∈ desk.db.bookings.map FleetBooking.id then desk.endCall call
  else
    { desk.endCall call with db := { desk.db with
        bookings := desk.db.bookings ++ [bookingOf call newId]
        holds := convertHolds desk.db.holds call.dto.carId call.customerId } }

/-! ## `blockVehicle` -/

/-- Up to the insert. -/
def startBlock (desk : BlockDesk) (carId vendorId : Id) (startDate endDate : ℤ)
    (blockType : VehicleBlockType) (reason : Option String) (actorRole : Role) (token : String) :
    BlockDesk × Except HttpError Unit :=
  if startDate ≥ endDate then (desk, .error (.badRequest "Start date must be before end date."))
  else if actorRole = .customer then
    (desk, .error (.forbidden "Customers are not authorized to block vehicles."))
  else
    match acquireLock desk.locks carId token desk.now with
    | .error e => (desk, .error e)
    | .ok locks =>
      let released := { desk with locks := releaseLock locks carId token }
      match desk.db.findCar carId with
      | none => (released, .error (.notFound "Vehicle not found."))
      | some car =>
        if actorRole = .vendor ∧ car.vendorId ≠ vendorId then
          (released, .error (.forbidden
            "You can only block vehicles belonging to your own fleet."))
        else
          match desk.db.bookings.filter
              (·.overlaps creationStatuses carId startDate endDate) with
          | booking :: _ => (released, .error (.conflict
              ("Cannot block vehicle: Existing active booking (" ++ booking.id ++
                ") conflicts with requested dates.")))
          | [] =>
            let request : PendingBlock := ⟨carId, startDate, endDate, blockType, reason,
              token, desk.db.bookings.length⟩
            ({ desk with locks, blocks := request :: desk.blocks }, .ok ())

def PendingBlock.row (request : PendingBlock) (newId : Id) : VehicleBlock :=
  ⟨newId, request.carId, request.startDate, request.endDate, request.blockType, request.reason⟩

/-- The insert, once no transaction has locked the row of the car. -/
def finishBlock (desk : BlockDesk) (request : PendingBlock) (newId : Id) : BlockDesk :=
  if desk.rowLocked request.carId then desk
  else if newId ∈ desk.db.blocks.map VehicleBlock.id then desk.endBlock request
  else
    { desk.endBlock request with db := { desk.db with
        blocks := desk.db.blocks ++ [request.row newId] } }

/-! ## Steps -/

inductive BlockAction where
  | startBooking (customerId : Id) (dto : CreateBookingDto) (token : String) (admitted : Bool)
  | beginBooking (call : BookingCall)
  | commitBooking (call : BookingCall) (newId : Id) (failed : Bool)
  | startBlock (carId vendorId : Id) (startDate endDate : ℤ) (blockType : VehicleBlockType)
      (reason : Option String) (actorRole : Role) (token : String)
  | finishBlock (request : PendingBlock) (newId : Id)
  | advance (milliseconds : ℕ)
  /-- What other services do to the other tables. -/
  | elsewhere (cars : List Car) (exceptions : List LocationException) (holds : List VehicleHold)

def blockStep (desk : BlockDesk) : BlockAction → BlockDesk
  | .startBooking customerId dto token admitted => startBooking desk customerId dto token admitted
  | .beginBooking call =>
    if call ∈ desk.calls ∧ call.beganAt = none then beginBooking desk call else desk
  | .commitBooking call newId failed =>
    match call.beganAt with
    | none => desk
    | some beganAt =>
      if call ∈ desk.calls then commitBooking desk call beganAt newId failed else desk
  | .startBlock carId vendorId startDate endDate blockType reason actorRole token =>
    (startBlock desk carId vendorId startDate endDate blockType reason actorRole token).1
  | .finishBlock request newId =>
    if request ∈ desk.blocks then finishBlock desk request newId else desk
  | .advance milliseconds => { desk with now := desk.now + milliseconds }
  | .elsewhere cars exceptions holds =>
    { desk with db := { desk.db with cars, exceptions, holds } }

/-! ## The law -/

/-- No active booking meets a block. -/
def BlocksApart (desk : BlockDesk) : Prop :=
  ∀ blk ∈ desk.db.blocks, ∀ booking ∈ desk.db.bookings,
    booking.overlaps creationStatuses blk.carId blk.startDate blk.endDate = false

instance (desk : BlockDesk) : Decidable (BlocksApart desk) :=
  inferInstanceAs (Decidable (∀ blk ∈ desk.db.blocks, ∀ booking ∈ desk.db.bookings, _ = false))

/-- The booking leaves the request alone. -/
def Clears (booking : FleetBooking) (request : PendingBlock) : Prop :=
  booking.overlaps creationStatuses request.carId request.startDate request.endDate = false

/-- A block is inserted while no booking that was committed since its look at the bookings
meets it. -/
def BlocksInOrder (desk : BlockDesk) : BlockAction → Prop
  | .finishBlock request newId =>
    request ∈ desk.blocks → desk.rowLocked request.carId = false →
      newId ∉ desk.db.blocks.map VehicleBlock.id →
        ∀ booking ∈ desk.db.bookings.drop request.seen, Clears booking request
  | _ => True

instance (desk : BlockDesk) (action : BlockAction) : Decidable (BlocksInOrder desk action) :=
  match action with
  | .finishBlock request newId =>
    inferInstanceAs (Decidable (request ∈ desk.blocks → _ = false →
      newId ∉ desk.db.blocks.map VehicleBlock.id →
        ∀ booking ∈ desk.db.bookings.drop request.seen, _ = false))
  | .startBooking _ _ _ _ | .beginBooking _ | .commitBooking _ _ _ | .startBlock _ _ _ _ _ _ _ _
  | .advance _ | .elsewhere _ _ _ => .isTrue trivial

/-! ## What holds in every state -/

/-- A transaction has a car without blocks in its way, and the bookings that a block was checked
against leave it alone. -/
structure SoundBlocks (desk : BlockDesk) : Prop where
  begun : ∀ call ∈ desk.calls, call.beganAt.isSome = true →
    ∀ blk ∈ desk.db.blocks,
      blk.overlaps call.dto.carId call.dto.startDate call.dto.endDate = false
  checked : ∀ request ∈ desk.blocks, Checked Clears desk.db.bookings request.seen request

theorem bookingOf_overlaps (call : BookingCall) (newId : Id) (blk : VehicleBlock) :
    (bookingOf call newId).overlaps creationStatuses blk.carId blk.startDate blk.endDate =
      blk.overlaps call.dto.carId call.dto.startDate call.dto.endDate := by
  refine decide_eq_decide.mpr ⟨?_, ?_⟩
  · rintro ⟨hcar, -, hstart, hend⟩
    exact ⟨hcar.symm, decide_eq_true ⟨hend, hstart⟩⟩
  · rintro ⟨hcar, hmeets⟩
    obtain ⟨hend, hstart⟩ := of_decide_eq_true hmeets
    exact ⟨hcar.symm, List.mem_cons_self .., hstart, hend⟩

section Laws

variable {desk : BlockDesk}

theorem SoundBlocks.endCall (h : SoundBlocks desk) (call : BookingCall) :
    SoundBlocks (desk.endCall call) where
  begun other hother := h.begun other (List.mem_of_mem_erase hother)
  checked := h.checked

theorem SoundBlocks.endBlock (h : SoundBlocks desk) (request : PendingBlock) :
    SoundBlocks (desk.endBlock request) where
  begun := h.begun
  checked other hother := h.checked other (List.mem_of_mem_erase hother)

theorem SoundBlocks.beginBooking (h : SoundBlocks desk) (call : BookingCall) :
    SoundBlocks (beginBooking desk call) := by
  unfold CarRental.beginBooking
  split
  · exact h
  split
  · exact h.endCall call
  next hok =>
    refine ⟨fun other hother hbegun => ?_, h.checked⟩
    rcases List.mem_cons.mp hother with rfl | hold
    · intro blk hblk
      have hclear := (checkCalendar_eq_ok hok).2.1
      simpa using List.filter_eq_nil_iff.mp hclear blk hblk
    · exact h.begun other (List.mem_of_mem_erase hold) hbegun

theorem SoundBlocks.commitBooking (h : SoundBlocks desk) (call : BookingCall) (beganAt : ℤ)
    (newId : Id) (failed : Bool) :
    SoundBlocks (commitBooking desk call beganAt newId failed) := by
  unfold CarRental.commitBooking
  split
  · exact h.endCall call
  · exact ⟨(h.endCall call).begun, fun request hrequest => (h.checked request hrequest).append _⟩

theorem SoundBlocks.startBlock (h : SoundBlocks desk) (carId vendorId : Id)
    (startDate endDate : ℤ) (blockType : VehicleBlockType) (reason : Option String)
    (actorRole : Role) (token : String) :
    SoundBlocks (startBlock desk carId vendorId startDate endDate blockType reason actorRole
      token).1 := by
  unfold CarRental.startBlock
  split
  · exact h
  split
  · exact h
  split
  · exact h
  dsimp only
  split
  · exact { h with }
  split
  · exact { h with }
  split
  · exact { h with }
  next hnone =>
    refine ⟨h.begun, fun request hrequest => ?_⟩
    rcases List.mem_cons.mp hrequest with rfl | hold
    · refine checked_length fun booking hbooking => ?_
      simpa [Clears] using List.filter_eq_nil_iff.mp hnone booking hbooking
    · exact h.checked request hold

theorem SoundBlocks.finishBlock (h : SoundBlocks desk) (request : PendingBlock) (newId : Id) :
    SoundBlocks (finishBlock desk request newId) := by
  unfold CarRental.finishBlock
  split
  · exact h
  next hfree =>
    split
    · exact h.endBlock request
    · refine ⟨fun call hcall hbegun blk hblk => ?_, (h.endBlock request).checked⟩
      rcases List.mem_append.mp hblk with hold | hlast
      · exact h.begun call hcall hbegun blk hold
      · rw [List.mem_singleton.mp hlast]
        have hother : ¬ request.carId = call.dto.carId := by
          intro hcar
          refine hfree (List.any_eq_true.mpr ⟨call, hcall, ?_⟩)
          rw [Bool.and_eq_true, decide_eq_true_eq]
          exact ⟨hcar.symm, hbegun⟩
        exact decide_eq_false fun hmeets => hother hmeets.1

theorem blockStep_sound (h : SoundBlocks desk) (action : BlockAction) :
    SoundBlocks (blockStep desk action) := by
  cases action with
  | startBooking customerId dto token admitted =>
    simp only [blockStep, startBooking]
    split
    · exact h
    split
    · exact h
    split
    · refine ⟨fun call hcall hbegun => ?_, h.checked⟩
      rcases List.mem_cons.mp hcall with rfl | hold
      · cases hbegun
      · exact h.begun call hold hbegun
    · exact { h with }
  | beginBooking call =>
    simp only [blockStep]
    split
    · exact h.beginBooking call
    · exact h
  | commitBooking call newId failed =>
    simp only [blockStep]
    split
    · exact h
    split
    · exact h.commitBooking call _ newId failed
    · exact h
  | startBlock carId vendorId startDate endDate blockType reason actorRole token =>
    exact h.startBlock carId vendorId startDate endDate blockType reason actorRole token
  | finishBlock request newId =>
    simp only [blockStep]
    split
    · exact h.finishBlock request newId
    · exact h
  | advance milliseconds => exact { h with }
  -- the invariant does not speak of what other services write
  | elsewhere cars exceptions holds => exact { h with }

theorem BlocksApart.congr {desk' : BlockDesk} (h : BlocksApart desk)
    (hblocks : desk'.db.blocks = desk.db.blocks) (hbookings : desk'.db.bookings = desk.db.bookings) :
    BlocksApart desk' := by
  rw [BlocksApart, hblocks, hbookings]
  exact h

theorem SoundBlocks.commit_apart (h : SoundBlocks desk) (hapart : BlocksApart desk)
    {call : BookingCall} (hcall : call ∈ desk.calls) {beganAt : ℤ}
    (hbegan : call.beganAt = some beganAt) (newId : Id) (failed : Bool) :
    BlocksApart (CarRental.commitBooking desk call beganAt newId failed) := by
  unfold CarRental.commitBooking
  split
  · exact hapart.congr rfl rfl
  · intro blk hblk booking hbooking
    rcases List.mem_append.mp hbooking with hold | hlast
    · exact hapart blk hblk booking hold
    · rw [List.mem_singleton.mp hlast, bookingOf_overlaps]
      exact h.begun call hcall (by rw [hbegan]; rfl) blk hblk

theorem SoundBlocks.insert_apart_iff (h : SoundBlocks desk) (hapart : BlocksApart desk)
    {request : PendingBlock} (hrequest : request ∈ desk.blocks) (newId : Id) :
    (∀ blk ∈ desk.db.blocks ++ [request.row newId], ∀ booking ∈ desk.db.bookings,
        booking.overlaps creationStatuses blk.carId blk.startDate blk.endDate = false) ↔
      ∀ booking ∈ desk.db.bookings.drop request.seen, Clears booking request := by
  rw [← (h.checked request hrequest).forall_iff]
  constructor
  · intro hall booking hbooking
    exact hall _ (List.mem_append_right _ (List.mem_singleton_self _)) booking hbooking
  · intro hnew blk hblk booking hbooking
    rcases List.mem_append.mp hblk with hold | hlast
    · exact hapart blk hold booking hbooking
    · rw [List.mem_singleton.mp hlast]
      exact hnew booking hbooking

theorem blockStep_apart_iff (h : SoundBlocks desk) (hapart : BlocksApart desk)
    (action : BlockAction) : BlocksApart (blockStep desk action) ↔ BlocksInOrder desk action := by
  -- bookings and blocks are only written by the two commits; a booking looks for blocks while it
  -- has the row of the car locked, a block does not look for bookings then
  cases action with
  | startBooking customerId dto token admitted =>
    refine iff_of_true ?_ trivial
    simp only [blockStep, startBooking]
    split
    · exact hapart
    split
    · exact hapart
    split <;> exact hapart.congr rfl rfl
  | beginBooking call =>
    refine iff_of_true ?_ trivial
    simp only [blockStep, beginBooking]
    split
    · split
      · exact hapart
      split <;> exact hapart.congr rfl rfl
    · exact hapart
  | commitBooking call newId failed =>
    refine iff_of_true ?_ trivial
    simp only [blockStep]
    split
    · exact hapart
    next beganAt hbegan =>
      split
      next hcall => exact h.commit_apart hapart hcall hbegan newId failed
      · exact hapart
  | startBlock carId vendorId startDate endDate blockType reason actorRole token =>
    refine iff_of_true ?_ trivial
    simp only [blockStep, startBlock]
    split
    · exact hapart
    split
    · exact hapart
    split
    · exact hapart
    split
    · exact hapart.congr rfl rfl
    split
    · exact hapart.congr rfl rfl
    split <;> exact hapart.congr rfl rfl
  | finishBlock request newId =>
    by_cases hrequest : request ∈ desk.blocks
    · rw [show blockStep desk (.finishBlock request newId) = finishBlock desk request newId from
        if_pos hrequest]
      unfold finishBlock
      split
      -- a block waits while a booking's transaction holds the row
      next hlocked =>
        refine iff_of_true hapart fun _ hfree => ?_
        rw [hfree] at hlocked
        cases hlocked
      next hfree =>
        split
        next hused => exact iff_of_true (hapart.congr rfl rfl) fun _ _ hnew => absurd hused hnew
        next hnew =>
          have hfree : desk.rowLocked request.carId = false := by simpa using hfree
          simp only [BlocksInOrder, hrequest, hfree, forall_const, hnew, not_false_eq_true]
          exact h.insert_apart_iff hapart hrequest newId
    · rw [show blockStep desk (.finishBlock request newId) = desk from if_neg hrequest]
      exact iff_of_true hapart fun hin => absurd hin hrequest
  | advance milliseconds => exact iff_of_true hapart trivial
  | elsewhere cars exceptions holds => exact iff_of_true hapart trivial

end Laws

/-! ## Runs -/

/-- Nobody is at work. -/
def idleDesk (db : VehicleDb) (now : ℤ) : BlockDesk := ⟨db, now, [], [], []⟩

/-- Blocks and active bookings stay apart exactly along the runs in which no booking is
committed between a block's look at the bookings and its insert that meets it. -/
theorem blocks_law_iff {db : VehicleDb} {now : ℤ} (hapart : BlocksApart (idleDesk db now))
    (actions : List BlockAction) :
    Everywhere blockStep BlocksApart (idleDesk db now) actions ↔
      Along blockStep BlocksInOrder (idleDesk db now) actions :=
  everywhere_iff_along_of_invariant (I := SoundBlocks) (fun _ action h => blockStep_sound h action)
    (fun _ action _ h hapart => blockStep_apart_iff h hapart action)
    ⟨fun _ hcall => absurd hcall List.not_mem_nil, fun _ hrequest => absurd hrequest List.not_mem_nil⟩
    hapart

/-! ### A booking while the lock has run out -/

def shortBlock : PendingBlock := ⟨"car", 20000, 30000, .maintenance, none, "first", 0⟩

def shortBooking (beganAt : Option ℤ) : BookingCall :=
  ⟨"customer", ⟨"car", .selfDrive, 20000, 30000, none, none⟩, "second", beganAt⟩

def looksForBookings : BlockAction :=
  .startBlock "car" "vendor" 20000 30000 .maintenance none .vendor "first"

/-- A booking that begins and commits at once. -/
def bookedAt (now : ℤ) : List BlockAction :=
  [.startBooking "customer" (shortBooking none).dto "second" true,
    .beginBooking (shortBooking none), .commitBooking (shortBooking (some now)) "booking" false]

/-- While the block has the lock, the booking is refused. -/
theorem locked_block_apart :
    Everywhere blockStep BlocksApart (idleDesk freeCar 0)
      ([looksForBookings] ++ bookedAt 0 ++ [.finishBlock shortBlock "block"]) :=
  (blocks_law_iff (by decide) _).mpr (by decide)

/-- The lock runs out, the car is booked, and the block is inserted all the same. -/
theorem lapsed_block_meets_booking :
    ¬ Everywhere blockStep BlocksApart (idleDesk freeCar 0)
      ([looksForBookings, .advance 10000] ++ bookedAt 10000 ++
        [.finishBlock shortBlock "block"]) := by
  decide

end CarRental
