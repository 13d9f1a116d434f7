import CarRental.Fleet.VehicleSubstitution
import CarRental.Fulfillment.HandoverAtomicity

/-!
# Operations inside operations

`executePickup`, `executeReturn`, `markReadyForPickup` and `executeSubstitution` take the lock of
the booking and then call a service that takes it again.  The lock does not know its holder, so the
inner call can only get it when the outer one has run out, after twenty seconds
(`nested_locks_iff`).

Where the inner call would go through on its own already before the operation, pickup and return
fail even then: the transition asks for an inspection that they would record a second time.
-/

namespace CarRental

open Calls

/-! ## Ready inner calls -/

/-- The pickup reaches its inner call, which would go through with the lock free. -/
def PickupCallReady (desk : RentalDesk) (req : PickupExecutionRequest) (env : OperationEnv) : Prop :=
  let prepared := preparePickup (desk.locked req.bookingId env) req env.inner
  Obtains desk req.bookingId env ∧ (∃ booking, prepared.2 = .ok booking) ∧
    env.inner.up .transitionLock = true ∧ TransitionReady prepared.1 req.transition env.inner

def ReturnCallReady (desk : RentalDesk) (req : ReturnExecutionRequest) (env : OperationEnv) : Prop :=
  let prepared := prepareReturn (desk.locked req.bookingId env) req env.inner
  Obtains desk req.bookingId env ∧ ∃ trip, prepared.2 = .ok trip ∧
    env.inner.up .transitionLock = true ∧ TransitionReady prepared.1 (req.transition trip.2) env.inner

/-- The lock is free, and a transition would go through at once. -/
def CallReady (desk : RentalDesk) (ctx : TransitionContext) (env : OperationEnv) : Prop :=
  Obtains desk ctx.bookingId env ∧ env.inner.up .transitionLock = true ∧
    TransitionReady desk ctx env.inner

/-- The lock is free, and the allocation that the substitution asks for would go through. -/
def SubstitutionCallReady (desk : AllocationDesk) (req : ExecuteSubstitutionRequest) (start : ℤ)
    (env : AllocationEnv) : Prop :=
  desk.locks.held req.bookingId start = false ∧
    ∃ prepared, prepareSubstitution desk req env = .ok prepared ∧
      Succeeds (allocationBody desk (req.allocation prepared.1 prepared.2.id) env)

/-! ## Pickup and return -/

variable {desk : RentalDesk} {env : OperationEnv}

theorem succeeds_executePickup_iff_lockExpired {req : PickupExecutionRequest}
    (hready : PickupCallReady desk req env) :
    Succeeds (desk.executePickup req env) ↔ LockExpired env := by
  obtain ⟨hobtains, ⟨booking, hbooking⟩, -, hready⟩ := hready
  rw [succeeds_executePickup_iff]
  constructor
  · rintro ⟨-, other, -, hexpired, -⟩
    exact hexpired
  · exact fun hexpired => ⟨hobtains, booking, hbooking, hexpired, hready⟩

theorem succeeds_executeReturn_iff_lockExpired {req : ReturnExecutionRequest}
    (hready : ReturnCallReady desk req env) :
    Succeeds (desk.executeReturn req env) ↔ LockExpired env := by
  obtain ⟨hobtains, trip, htrip, -, hready⟩ := hready
  rw [succeeds_executeReturn_iff]
  constructor
  · rintro ⟨-, other, -, hexpired, -⟩
    exact hexpired
  · exact fun hexpired => ⟨hobtains, trip, htrip, hexpired, hready⟩

theorem findInspection_of_hasFinalized {bookingId : Id} {type : InspectionType}
    (h : desk.hasFinalized bookingId type = true) : desk.findInspection bookingId type ≠ none := by
  intro hnone
  rw [RentalDesk.hasFinalized, hnone] at h
  cases h

variable {booking : RentalBooking}

theorem hasFinalized_of_admitted_ongoing {ctx : TransitionContext} {env : TransitionEnv}
    (htarget : ctx.target = .ongoing) (h : TransitionAdmitted desk booking ctx env) :
    desk.hasFinalized ctx.bookingId .preTrip = true := by
  have hcheck := (h.checked_ongoing htarget).1
  unfold checkOngoing at hcheck
  split at hcheck
  · cases hcheck
  split at hcheck
  · cases hcheck
  split at hcheck
  · cases hcheck
  split at hcheck
  · cases hcheck
  split at hcheck
  · cases hcheck
  split at hcheck
  · cases hcheck
  split at hcheck
  · cases hcheck
  next hfinalized =>
    rwa [Bool.not_eq_true', Bool.not_eq_false] at hfinalized

theorem hasFinalized_of_admitted_completed {ctx : TransitionContext} {env : TransitionEnv}
    (htarget : ctx.target = .completed) (h : TransitionAdmitted desk booking ctx env) :
    desk.hasFinalized ctx.bookingId .postTrip = true := by
  have hcheck := (h.checked_completed htarget).1
  unfold checkCompleted at hcheck
  split at hcheck
  · cases hcheck
  split at hcheck
  · cases hcheck
  next hfinalized =>
    rwa [Bool.not_eq_true', Bool.not_eq_false] at hfinalized

theorem TransitionReady.admitted {ctx : TransitionContext} {env : TransitionEnv}
    (h : TransitionReady desk ctx env) (hbooking : desk.bookings ctx.bookingId = some booking)
    (hstatus : booking.status ≠ ctx.target.status) : TransitionAdmitted desk booking ctx env := by
  obtain ⟨-, other, hother, hcase⟩ := h
  have hsame : other = booking := Option.some.inj (hother.symm.trans hbooking)
  rw [hsame] at hcase
  rcases hcase with hthere | ⟨hadmitted, -⟩
  · exact absurd hthere hstatus
  · exact hadmitted

theorem not_succeeds_executePickup_of_ready {req : PickupExecutionRequest}
    (hready : TransitionReady desk req.transition env.inner) :
    ¬ Succeeds (desk.executePickup req env) := by
  rw [succeeds_executePickup_iff]
  rintro ⟨-, booking, hbooking, -⟩
  rcases preparePickup_cases (desk.locked req.bookingId env) req env.inner with
    ⟨-, e, h⟩ | ⟨-, ⟨e, otps, -, h⟩ | ⟨found, otps, inspection, hfound, hstatus, hnone, h⟩⟩
  · rw [h] at hbooking
    cases hbooking
  · rw [h] at hbooking
    cases hbooking
  · have hleft : found.status ≠ .ongoing := by
      rcases hstatus with hstatus | hstatus
      · simp [hstatus]
      · simp [hstatus]
    have hadmitted := hready.admitted hfound hleft
    exact findInspection_of_hasFinalized (hasFinalized_of_admitted_ongoing rfl hadmitted) hnone

theorem not_succeeds_executeReturn_of_ready {req : ReturnExecutionRequest}
    {settlement : ReturnSettlementResult}
    (hready : TransitionReady desk (req.transition settlement) env.inner) :
    ¬ Succeeds (desk.executeReturn req env) := by
  rw [succeeds_executeReturn_iff]
  rintro ⟨-, trip, htrip, -⟩
  rcases prepareReturn_cases (desk.locked req.bookingId env) req env.inner with
    ⟨-, e, h⟩ | ⟨-, ⟨e, otps, -, h⟩ |
      ⟨found, otps, inspection, deposits, reply, hfound, hstatus, hnone, -, h⟩⟩
  · rw [h] at htrip
    cases htrip
  · rw [h] at htrip
    cases htrip
  · have hleft : found.status ≠ .completed := by
      rcases hstatus with hstatus | hstatus
      · simp [hstatus]
      · simp [hstatus]
    have hadmitted := hready.admitted hfound hleft
    exact findInspection_of_hasFinalized (hasFinalized_of_admitted_completed rfl hadmitted) hnone

/-! ## Ready for pickup -/

theorem prepareReady_of_booking (desk : RentalDesk) (req : MarkReadyForPickupRequest)
    (env : TransitionEnv) (hbooking : desk.bookings req.bookingId = some booking) :
    (∃ fulfillment, (prepareReady desk req env).1 = { desk with fulfillment }) ∧
      ((∃ other, (prepareReady desk req env).2 = .ok other) ↔
        env.up .fulfillmentRecord = true ∧ env.up .stage = true) := by
  unfold prepareReady ensureFulfillmentRecord updateStage TransitionEnv.guard
  cases env.up .fulfillmentRecord with
  | false => exact ⟨⟨desk.fulfillment, rfl⟩, by simp⟩
  | true =>
    cases hrecord : desk.fulfillment req.bookingId with
    | some record =>
      simp only [Bool.not_true, Bool.false_eq_true, if_false, andThen_ok, hbooking]
      cases env.up .stage with
      | false => exact ⟨⟨desk.fulfillment, rfl⟩, by simp⟩
      | true => exact ⟨⟨_, rfl⟩, by simp⟩
    | none =>
      simp only [Bool.not_true, Bool.false_eq_true, if_false, andThen_ok, hbooking]
      cases env.up .stage with
      | false => exact ⟨⟨_, rfl⟩, by simp⟩
      | true => exact ⟨⟨_, rfl⟩, by simp⟩

theorem succeeds_finishReady_iff {req : MarkReadyForPickupRequest} :
    Succeeds (finishReady desk req booking env) ↔
      (booking.status = .confirmed →
        LockFree desk req.bookingId env.inner ∧ TransitionReady desk req.transition env.inner) := by
  unfold finishReady
  by_cases hconfirmed : booking.status = .confirmed
  · rw [if_pos hconfirmed, succeeds_ensuring, forall_prop_of_true hconfirmed]
    rcases executeTransition_cases desk req.transition env.inner with
      ⟨hnot, e, otps, locks, h, -⟩ | ⟨hgoes, desk', result, h, -⟩
    · rw [h]
      exact iff_of_false not_succeeds_error hnot
    · rw [h]
      exact iff_of_true succeeds_ok hgoes
  · rw [if_neg hconfirmed, succeeds_ensuring]
    exact iff_of_true succeeds_ok fun h => absurd h hconfirmed

theorem confirmed_of_handoverReady_mem {status : BookingStatus}
    (h : BookingStatus.handoverReady ∈ lifecycleMatrix status) : status = .confirmed := by
  revert h
  cases status <;> decide

theorem succeeds_markReadyForPickup_iff {req : MarkReadyForPickupRequest}
    (hready : CallReady desk req.transition env) :
    Succeeds (desk.markReadyForPickup req env) ↔
      env.inner.up .fulfillmentRecord = true ∧ env.inner.up .stage = true ∧
        (desk.statusOf req.bookingId = some .handoverReady ∨ LockExpired env) := by
  obtain ⟨hobtains, hup, hready⟩ := hready
  have hobtains : Obtains desk req.bookingId env := hobtains
  have hfound := hready
  obtain ⟨-, booking, hbooking, hcase⟩ := hfound
  have hstatus : desk.statusOf req.bookingId = some booking.status :=
    congrArg (Option.map RentalBooking.status) hbooking
  obtain ⟨⟨fulfillment, hfst⟩, hok⟩ :=
    prepareReady_of_booking (desk.locked req.bookingId env) req env.inner hbooking
  obtain ⟨-, hlocks, -, hsame⟩ :=
    prepareReady_cases (desk.locked req.bookingId env) req env.inner
  have hfree : LockFree (prepareReady (desk.locked req.bookingId env) req env.inner).1
      req.bookingId env.inner ↔ LockExpired env := by
    refine lockFree_locked_iff ?_
    rw [hlocks]
    exact locked_locks desk req.bookingId env
  have hstill : TransitionReady (prepareReady (desk.locked req.bookingId env) req env.inner).1
      req.transition env.inner := by
    rw [hfst]
    exact (transitionReady_congr desk _ fulfillment req.transition env.inner).mpr hready
  -- what is left of the transition is the lock
  have hfinish : Succeeds (finishReady (prepareReady (desk.locked req.bookingId env) req env.inner).1
      req booking env) ↔ (desk.statusOf req.bookingId = some .handoverReady ∨ LockExpired env) := by
    rw [succeeds_finishReady_iff, hfree, and_iff_left hstill, hstatus]
    rcases hcase with hthere | ⟨hadmitted, -⟩
    · rw [show booking.status = .handoverReady from hthere]
      simp
    · rw [confirmed_of_handoverReady_mem hadmitted.legal]
      simp
  unfold RentalDesk.markReadyForPickup beginReady
  cases hreply : (prepareReady (desk.locked req.bookingId env) req env.inner).2 with
  | error e =>
    rw [beginOperation_of_error hobtains (Prod.ext rfl hreply), andThen_error]
    refine iff_of_false not_succeeds_error ?_
    rintro ⟨hrecord, hstage, -⟩
    obtain ⟨other, hother⟩ := hok.mpr ⟨hrecord, hstage⟩
    rw [hreply] at hother
    cases hother
  | ok other =>
    have hother : booking = other := Option.some.inj (hbooking.symm.trans (hsame other hreply))
    rw [beginOperation_of_ok hobtains (Prod.ext rfl hreply), andThen_ok, ← hother, hfinish]
    obtain ⟨hrecord, hstage⟩ := hok.mp ⟨other, hreply⟩
    rw [hrecord, hstage]
    simp

/-! ## Substitution -/

theorem succeeds_executeSubstitution_iff {desk : AllocationDesk} {req : ExecuteSubstitutionRequest}
    {start : ℤ} {token : String} {env : AllocationEnv}
    (hready : SubstitutionCallReady desk req start env) :
    Succeeds (desk.executeSubstitution req start token env) ↔
      start + cancellationLockTtlMs ≤ env.now := by
  obtain ⟨hfree, prepared, hprepared, hallocates⟩ := hready
  rw [AllocationDesk.executeSubstitution, succeeds_withAllocationLock_iff, and_iff_right hfree]
  have hsame : prepareSubstitution { desk with
      locks := Function.update desk.locks req.bookingId
        (some ⟨token, start + cancellationLockTtlMs⟩) } req env = .ok prepared := by
    rw [← hprepared]
    unfold prepareSubstitution evaluateSubstitution substituteCar AllocationDesk.findCar
    rfl
  have hheld : CancellationLocks.held (Function.update desk.locks req.bookingId
      (some ⟨token, start + cancellationLockTtlMs⟩)) req.bookingId env.now = true ↔
        env.now < start + cancellationLockTtlMs := held_iff_of_lease (Function.update_self ..) env.now
  rw [hsame, andThen_ok, succeeds_andThen_of_returns fun _ _ => succeeds_ok,
    AllocationDesk.allocateVehicle, succeeds_withAllocationLock_iff, Succeeds,
    allocationBody_locks desk]
  rw [← not_lt, ← hheld, Bool.not_eq_true]
  exact and_iff_left hallocates

/-! ## The law of all four -/

/-- An operation whose inner call is ready succeeds exactly if its own lock has run out by then.
Where the transition is ready before the operation, pickup and return succeed at no time, and
`markReadyForPickup` also if the booking is there already. -/
theorem nested_locks_iff (desk : RentalDesk) (env : OperationEnv) (pickup : PickupExecutionRequest)
    (return_ : ReturnExecutionRequest) (settlement : ReturnSettlementResult)
    (ready : MarkReadyForPickupRequest) (fleet : AllocationDesk)
    (substitution : ExecuteSubstitutionRequest) (start : ℤ) (token : String)
    (allocationEnv : AllocationEnv) :
    ((PickupCallReady desk pickup env → Succeeds (desk.executePickup pickup env)) ↔
        (PickupCallReady desk pickup env → LockExpired env)) ∧
      ((CallReady desk pickup.transition env → Succeeds (desk.executePickup pickup env)) ↔
        ¬ CallReady desk pickup.transition env) ∧
      ((ReturnCallReady desk return_ env → Succeeds (desk.executeReturn return_ env)) ↔
        (ReturnCallReady desk return_ env → LockExpired env)) ∧
      ((CallReady desk (return_.transition settlement) env →
          Succeeds (desk.executeReturn return_ env)) ↔
        ¬ CallReady desk (return_.transition settlement) env) ∧
      ((CallReady desk ready.transition env → Succeeds (desk.markReadyForPickup ready env)) ↔
        (CallReady desk ready.transition env →
          env.inner.up .fulfillmentRecord = true ∧ env.inner.up .stage = true ∧
            (desk.statusOf ready.bookingId = some .handoverReady ∨ LockExpired env))) ∧
      ((SubstitutionCallReady fleet substitution start allocationEnv →
          Succeeds (fleet.executeSubstitution substitution start token allocationEnv)) ↔
        (SubstitutionCallReady fleet substitution start allocationEnv →
          start + cancellationLockTtlMs ≤ allocationEnv.now)) := by
  refine ⟨imp_congr_right fun h => ?_, imp_congr_right fun h => ?_, imp_congr_right fun h => ?_,
    imp_congr_right fun h => ?_, imp_congr_right fun h => ?_, imp_congr_right fun h => ?_⟩
  · exact succeeds_executePickup_iff_lockExpired h
  · exact iff_false_intro (not_succeeds_executePickup_of_ready h.2.2)
  · exact succeeds_executeReturn_iff_lockExpired h
  · exact iff_false_intro (not_succeeds_executeReturn_of_ready h.2.2)
  · exact succeeds_markReadyForPickup_iff h
  · exact succeeds_executeSubstitution_iff h

def inspectedDesk : RentalDesk :=
  { sampleDesk with
    inspections := [⟨"booking", .preTrip, sampleDeposit, 100, [], none, true⟩] }

def sampleReady : MarkReadyForPickupRequest := ⟨"booking", "vendor user", .vendor⟩

/-- `markReadyForHandover` would move the booking, `markReadyForPickup` meets its own lock. -/
theorem markReadyForPickup_blocks_itself :
    CallReady inspectedDesk sampleReady.transition (sampleEnv 1000) ∧
      ¬ Succeeds (inspectedDesk.markReadyForPickup sampleReady (sampleEnv 1000)) := by
  refine ⟨⟨by decide +kernel, by decide +kernel, by decide +kernel, sampleRental, rfl,
    .inr ⟨⟨by decide +kernel, by decide +kernel, by decide +kernel⟩, by decide +kernel⟩⟩, ?_⟩
  decide +kernel

end CarRental
