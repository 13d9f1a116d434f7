import CarRental.Lib.KeyedRows
import CarRental.Payments.State

/-!
# The calendar of the fleet

Which bookings occupy which car when, and the four paths that change it:
`createBooking`, the status transitions of `executeTransition`, the extensions of a
trip, and the reconciliation's confirmations.

A path that reads in one step and writes in a later one is two actions: the first
puts what was read `inFlight`, `commit` is the transaction.  `createBooking` is one
action, as it checks and inserts under the car's row lock.

Checks that do not concern the calendar (the actor, inspections, payment, blocks,
holds, quotes) are the argument `admitted`.  Dates are milliseconds.
-/

namespace CarRental

open KeyedRows

inductive TripType where
  | localTrip
  | outstation
  | airportTransfer
  | selfDrive
deriving DecidableEq

/-- What the calendar reads of a booking. -/
structure FleetBooking where
  id : Id
  customerId : Id
  carId : Id
  startDate : ℤ
  endDate : ℤ
  status : BookingStatus
deriving DecidableEq

inductive ExtensionStatus where
  | pendingPayment
  | confirmed
  | cancelled
  | expired
deriving DecidableEq, Repr

structure TripExtension where
  id : Id
  bookingId : Id
  currentEndDate : ℤ
  requestedEndDate : ℤ
  status : ExtensionStatus
deriving DecidableEq

/-- An operation that has read what it needs and has not written yet. -/
inductive InFlight where
  | transition (bookingId : Id) (previousStatus targetStatus : BookingStatus)
  | extension (extension : TripExtension)
  | confirmation (bookingId : Id)
deriving DecidableEq

structure Fleet where
  bookings : List FleetBooking
  extensions : List TripExtension
  inFlight : List InFlight
deriving DecidableEq

def Fleet.empty : Fleet := ⟨[], [], []⟩

namespace Fleet

def findBooking (s : Fleet) (bookingId : Id) : Option FleetBooking :=
  s.bookings.find? fun booking => booking.id = bookingId

def setBooking (s : Fleet) (bookingId : Id) (f : FleetBooking → FleetBooking) : Fleet :=
  { s with bookings := updateKey FleetBooking.id bookingId f s.bookings }

def start (s : Fleet) (operation : InFlight) : Fleet :=
  { s with inFlight := s.inFlight ++ [operation] }

end Fleet

/-! ## Overlap checks -/

/-- The filter of every overlap check: a booking of the car, in one of the statuses,
that meets the period. -/
def FleetBooking.overlaps (booking : FleetBooking) (statuses : List BookingStatus) (carId : Id)
    (startDate endDate : ℤ) : Bool :=
  booking.carId = carId ∧ booking.status ∈ statuses ∧ booking.startDate < endDate ∧
    startDate < booking.endDate

def creationStatuses : List BookingStatus :=
  [.pending, .confirmed, .handoverReady, .ongoing, .returnPending]

/-- The statuses that a confirmation by `executeTransition` respects. -/
def confirmationStatuses : List BookingStatus :=
  [.confirmed, .handoverReady, .ongoing, .returnPending]

def extensionStatuses : List BookingStatus :=
  [.pending, .confirmed, .ongoing, .handoverReady]

/-! ## The paths -/

def Fleet.createBooking (s : Fleet) (newId customerId carId : Id) (startDate endDate now : ℤ)
    (admitted : Bool) : Fleet :=
  if startDate ≥ endDate ∨ startDate < now then s
  else if !admitted then s
  else if s.bookings.any (·.overlaps creationStatuses carId startDate endDate) then s
  else if (s.findBooking newId).isSome then s
  else { s with
    bookings := s.bookings ++ [⟨newId, customerId, carId, startDate, endDate, .pending⟩] }

/-- `validateStateTransition` -/
def lifecycleMatrix : BookingStatus → List BookingStatus
  | .pending => [.confirmed, .cancelled, .expired]
  | .confirmed => [.handoverReady, .ongoing, .cancelled, .refundPending]
  | .handoverReady => [.ongoing, .cancelled]
  | .ongoing => [.returnPending, .completed]
  | .returnPending => [.completed, .disputed]
  | .refundPending => [.refunded, .disputed]
  | .disputed => [.completed, .refundPending, .refunded]
  | .completed | .refunded | .cancelled | .expired => []

/-- The reading part of `executeTransition`. -/
def startTransition (s : Fleet) (bookingId : Id) (targetStatus : BookingStatus) (admitted : Bool) :
    Fleet :=
  match s.findBooking bookingId with
  | none => s
  | some booking =>
    if booking.status = targetStatus then s
    else if targetStatus ∉ lifecycleMatrix booking.status then s
    else if targetStatus = .confirmed ∧ s.bookings.any (fun other => other.id ≠ bookingId ∧
        other.overlaps confirmationStatuses booking.carId booking.startDate booking.endDate) then s
    else if !admitted then s
    else s.start (.transition bookingId booking.status targetStatus)

/-- The transaction of `executeTransition`, guarded by the status that was read. -/
def commitTransition (s : Fleet) (bookingId : Id) (previousStatus targetStatus : BookingStatus) :
    Fleet :=
  match s.findBooking bookingId with
  | none => s
  | some booking =>
    if booking.status = previousStatus then
      s.setBooking bookingId fun booking => { booking with status := targetStatus }
    else s

/-- `createExtension` with its quote; the order at the gateway is part of `admitted`. -/
def createExtension (s : Fleet) (newId bookingId customerId : Id) (requestedEndDate : ℤ)
    (admitted : Bool) : Fleet :=
  match s.findBooking bookingId with
  | none => s
  | some booking =>
    if booking.customerId ≠ customerId then s
    else if booking.status ≠ .ongoing then s
    else if requestedEndDate ≤ booking.endDate then s
    else if s.bookings.any (fun other => other.id ≠ bookingId ∧
        other.overlaps extensionStatuses booking.carId booking.endDate requestedEndDate) then s
    else if !admitted then s
    else { s with
      extensions := s.extensions ++
        [⟨newId, bookingId, booking.endDate, requestedEndDate, .pendingPayment⟩] }

/-- The checks of `verifyExtensionPayment` before its transaction. -/
def startVerifyExtension (s : Fleet) (bookingId extensionId customerId : Id) (admitted : Bool) :
    Fleet :=
  match s.extensions.find? fun extension => extension.id = extensionId with
  | none => s
  | some extension =>
    if extension.bookingId ≠ bookingId then s
    else if (s.findBooking bookingId).all (·.customerId ≠ customerId) then s
    else if extension.status = .confirmed then s
    else if !admitted then s
    else s.start (.extension extension)

/-- Whether the transaction of an extension finds a conflicting booking. -/
def extensionCollides (s : Fleet) (extension : TripExtension) (carId : Id) : Bool :=
  s.bookings.any fun other => other.id ≠ extension.bookingId ∧
    other.overlaps extensionStatuses carId extension.currentEndDate extension.requestedEndDate

/-- The transaction of `verifyExtensionPayment`: the booking's own status and end date
are not read again. -/
def commitExtension (s : Fleet) (extension : TripExtension) : Fleet :=
  match s.findBooking extension.bookingId with
  | none => s
  | some booking =>
    if extensionCollides s extension booking.carId then s
    else
      let s := { s with
        extensions := updateKey TripExtension.id extension.id
          (fun extension => { extension with status := .confirmed }) s.extensions }
      s.setBooking extension.bookingId fun booking =>
        { booking with endDate := extension.requestedEndDate }

/-- `reconcileUnconfirmedPaidBookings` picks a pending booking as a candidate. -/
def startConfirmation (s : Fleet) (bookingId : Id) (admitted : Bool) : Fleet :=
  match s.findBooking bookingId with
  | none => s
  | some booking =>
    if booking.status ≠ .pending then s
    else if !admitted then s
    else s.start (.confirmation bookingId)

/-- The transaction of the reconciliation: the status is written unconditionally. -/
def commitConfirmation (s : Fleet) (bookingId : Id) : Fleet :=
  s.setBooking bookingId fun booking => { booking with status := .confirmed }

/-! ## What the reading parts can do

A reading part leaves the fleet alone, or records what it has found. -/

section Reading

variable {s : Fleet}

theorem mem_of_findBooking {bookingId : Id} {booking : FleetBooking}
    (h : s.findBooking bookingId = some booking) : booking ∈ s.bookings ∧ booking.id = bookingId :=
  ⟨List.mem_of_find?_eq_some h, of_decide_eq_true (List.find?_some h :)⟩

theorem startTransition_cases (s : Fleet) (bookingId : Id) (targetStatus : BookingStatus)
    (admitted : Bool) :
    startTransition s bookingId targetStatus admitted = s ∨
      ∃ previousStatus, targetStatus ∈ lifecycleMatrix previousStatus ∧
        startTransition s bookingId targetStatus admitted =
          s.start (.transition bookingId previousStatus targetStatus) := by
  unfold startTransition
  split
  · exact .inl rfl
  next booking hfind =>
    split
    · exact .inl rfl
    split
    · exact .inl rfl
    next hlegal =>
      split
      · exact .inl rfl
      split
      · exact .inl rfl
      · exact .inr ⟨booking.status, not_not.mp hlegal, rfl⟩

theorem createExtension_cases (s : Fleet) (newId bookingId customerId : Id)
    (requestedEndDate : ℤ) (admitted : Bool) :
    createExtension s newId bookingId customerId requestedEndDate admitted = s ∨
      ∃ booking ∈ s.bookings, booking.id = bookingId ∧ booking.endDate < requestedEndDate ∧
        createExtension s newId bookingId customerId requestedEndDate admitted =
          { s with
            extensions := s.extensions ++
              [⟨newId, bookingId, booking.endDate, requestedEndDate, .pendingPayment⟩] } := by
  unfold createExtension
  split
  · exact .inl rfl
  next booking hfind =>
    obtain ⟨hbooking, hid⟩ := mem_of_findBooking hfind
    split
    · exact .inl rfl
    split
    · exact .inl rfl
    split
    · exact .inl rfl
    next hlater =>
      split
      · exact .inl rfl
      split
      · exact .inl rfl
      · exact .inr ⟨booking, hbooking, hid, not_le.mp hlater, rfl⟩

theorem startVerifyExtension_cases (s : Fleet) (bookingId extensionId customerId : Id)
    (admitted : Bool) :
    startVerifyExtension s bookingId extensionId customerId admitted = s ∨
      ∃ extension ∈ s.extensions,
        startVerifyExtension s bookingId extensionId customerId admitted =
          s.start (.extension extension) := by
  unfold startVerifyExtension
  split
  · exact .inl rfl
  next extension hfind =>
    split
    · exact .inl rfl
    split
    · exact .inl rfl
    split
    · exact .inl rfl
    split
    · exact .inl rfl
    · exact .inr ⟨extension, List.mem_of_find?_eq_some hfind, rfl⟩

theorem startConfirmation_cases (s : Fleet) (bookingId : Id) (admitted : Bool) :
    startConfirmation s bookingId admitted = s ∨
      startConfirmation s bookingId admitted = s.start (.confirmation bookingId) := by
  unfold startConfirmation
  split
  · exact .inl rfl
  split
  · exact .inl rfl
  split
  · exact .inl rfl
  · exact .inr rfl

end Reading

/-! ## Steps -/

inductive FleetAction where
  | createBooking (newId customerId carId : Id) (startDate endDate now : ℤ) (admitted : Bool)
  | startTransition (bookingId : Id) (targetStatus : BookingStatus) (admitted : Bool)
  | createExtension (newId bookingId customerId : Id) (requestedEndDate : ℤ) (admitted : Bool)
  | startVerifyExtension (bookingId extensionId customerId : Id) (admitted : Bool)
  | startConfirmation (bookingId : Id) (admitted : Bool)
  | commit (operation : InFlight)
deriving DecidableEq

def commitOperation (s : Fleet) : InFlight → Fleet
  | .transition bookingId previousStatus targetStatus =>
    commitTransition s bookingId previousStatus targetStatus
  | .extension extension => commitExtension s extension
  | .confirmation bookingId => commitConfirmation s bookingId

def fleetStep (s : Fleet) : FleetAction → Fleet
  | .createBooking newId customerId carId startDate endDate now admitted =>
    s.createBooking newId customerId carId startDate endDate now admitted
  | .startTransition bookingId targetStatus admitted =>
    startTransition s bookingId targetStatus admitted
  | .createExtension newId bookingId customerId requestedEndDate admitted =>
    createExtension s newId bookingId customerId requestedEndDate admitted
  | .startVerifyExtension bookingId extensionId customerId admitted =>
    startVerifyExtension s bookingId extensionId customerId admitted
  | .startConfirmation bookingId admitted => startConfirmation s bookingId admitted
  | .commit operation =>
    if operation ∈ s.inFlight then
      commitOperation { s with inFlight := s.inFlight.erase operation } operation
    else s

end CarRental
