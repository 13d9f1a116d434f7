import CarRental.Http

/-!
# The booking lock

`BookingLockService`: a lock for each car and one for each booking, kept in Redis.  A lock is a
lease: after its time to live it is gone, whatever its holder still does.

An attempt to lock is one `SET … PX … NX`, a release one script that compares the token, so
both are single steps.  Times are milliseconds.
-/

namespace CarRental

structure CarLock where
  carId : Id
  token : String
  expiresAt : ℤ
deriving DecidableEq

def CarLock.held (lock : CarLock) (carId : Id) (now : ℤ) : Bool :=
  lock.carId = carId ∧ now < lock.expiresAt

def lockTtlMs : ℤ := 10000

def acquireLock (locks : List CarLock) (carId : Id) (token : String) (now : ℤ) :
    Except HttpError (List CarLock) :=
  if locks.any (·.held carId now) then
    .error (.conflict "This car is currently being booked by someone else, please try again.")
  else .ok (⟨carId, token, now + lockTtlMs⟩ :: locks.filter fun lock => lock.carId ≠ carId)

def releaseLock (locks : List CarLock) (carId : Id) (token : String) : List CarLock :=
  locks.filter fun lock => ¬ (lock.carId = carId ∧ lock.token = token)

/-! ## The lock of a booking -/

/-- What the key of a lock holds. -/
structure Lease where
  token : String
  expiresAt : ℤ
deriving DecidableEq

/-- The keys `lock:cancel:booking:<bookingId>`. -/
abbrev CancellationLocks := Id → Option Lease

def CancellationLocks.held (locks : CancellationLocks) (bookingId : Id) (now : ℤ) : Bool :=
  (locks bookingId).any fun lease => now < lease.expiresAt

def cancellationLockTtlMs : ℤ := 20000

def acquireCancellationLock (locks : CancellationLocks) (bookingId : Id) (token : String) (now : ℤ) :
    Except HttpError CancellationLocks :=
  if locks.held bookingId now then
    .error (.conflict
      "This booking is currently undergoing cancellation/refund processing. Please wait.")
  else .ok (Function.update locks bookingId (some ⟨token, now + cancellationLockTtlMs⟩))

def releaseCancellationLock (locks : CancellationLocks) (bookingId : Id) (token : String) :
    CancellationLocks :=
  if (locks bookingId).any (·.token = token) then Function.update locks bookingId none else locks

theorem held_iff_of_lease {locks : CancellationLocks} {bookingId : Id} {lease : Lease}
    (h : locks bookingId = some lease) (now : ℤ) :
    locks.held bookingId now = true ↔ now < lease.expiresAt := by
  rw [CancellationLocks.held, h, Option.any_some, decide_eq_true_iff]

end CarRental
