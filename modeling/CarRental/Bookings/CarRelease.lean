import CarRental.Bookings.HandoverCodes
import CarRental.Cars.VehicleLifecycle

/-!
# The car at the end of a trip

A booking that completes writes the status and the availability of its car, whatever they are: ACTIVE
and available after a clean trip, INACTIVE and not available after one with damage.  It looks at the
claims of its own booking only.

So a car that was taken out of service meanwhile, or that is held by the claim of another booking,
keeps its state exactly if the completion does not go through or finds the row as it writes it
(`car_release_iff`).
-/

namespace CarRental

open Calls Runs

/-! ## Out of service -/

/-- The statuses that take a car out of service. -/
def takenOut (status : VehicleOperationalStatus) : Bool :=
  status = .maintenance ∨ status = .suspended ∨ status = .retired

/-- What decides whether a car can be booked. -/
def Car.service (car : Car) : VehicleOperationalStatus × Bool :=
  (car.operationalStatus, car.isAvailable)

def RentalDesk.service (desk : RentalDesk) (carId : Id) :
    Option (VehicleOperationalStatus × Bool) :=
  (desk.cars carId).map Car.service

def RentalDesk.heldByClaim (desk : RentalDesk) (bookingId carId : Id) : Bool :=
  desk.claims.any fun claim => claim.unresolved ∧ claim.bookingId ≠ bookingId ∧
    (desk.bookings claim.bookingId).any (·.carId = carId)

/-- Something other than the booking has taken the car out of service. -/
def OutOfService (desk : RentalDesk) (bookingId carId : Id) : Prop :=
  (desk.cars carId).any (fun car => takenOut car.operationalStatus) = true ∨
    desk.heldByClaim bookingId carId = true

/-! ## The law and the condition -/

/-- The completion that a step asks for. -/
def completionOf (s : HandoverSystem) : HandoverAction → Option (TransitionContext × TransitionEnv)
  | .transition ctx env => if ctx.target = .completed then some (ctx, env.at s.now) else none
  | .finishReturn call env => (s.returns call).map fun p =>
    (p.req.transition p.prepared.2, env.inner.at s.now)
  | _ => none

/-- A car that is out of service stays as it is when the booking completes. -/
def CarKept (desk : RentalDesk) (ctx : TransitionContext) (env : TransitionEnv) : Prop :=
  ∀ booking, desk.bookings ctx.bookingId = some booking →
    OutOfService desk ctx.bookingId booking.carId →
      (executeTransition desk ctx env).1.service booking.carId = desk.service booking.carId

def KeepsOutOfService (s : HandoverSystem) (action : HandoverAction) : Prop :=
  ∀ ctx env, completionOf s action = some (ctx, env) → CarKept s.desk ctx env

/-- The transition goes through and moves the booking. -/
def Moves (desk : RentalDesk) (ctx : TransitionContext) (env : TransitionEnv) : Prop :=
  LockFree desk ctx.bookingId env ∧ TransitionReady desk ctx env ∧
    desk.statusOf ctx.bookingId ≠ some ctx.target.status

/-- A completion that goes through finds the car in service and, where the claim of another booking
holds it, as it will write it. -/
def Harmless (desk : RentalDesk) (ctx : TransitionContext) (env : TransitionEnv) : Prop :=
  Moves desk ctx env → ∀ booking car, desk.bookings ctx.bookingId = some booking →
    desk.cars booking.carId = some car →
      takenOut car.operationalStatus = false ∧
        (desk.heldByClaim ctx.bookingId booking.carId = true →
          car.service = if desk.hasDamage ctx.bookingId then (.inactive, false) else (.active, true))

def HarmlessCompletions (s : HandoverSystem) (action : HandoverAction) : Prop :=
  ∀ ctx env, completionOf s action = some (ctx, env) → Harmless s.desk ctx env

theorem target_of_completionOf {s : HandoverSystem} {action : HandoverAction}
    {ctx : TransitionContext} {env : TransitionEnv} (h : completionOf s action = some (ctx, env)) :
    ctx.target = .completed := by
  cases action with
  | transition other env' =>
    unfold completionOf at h
    dsimp only at h
    split at h
    next htarget =>
      cases h
      exact htarget
    · cases h
  | finishReturn call env' =>
    obtain ⟨p, -, hp⟩ := Option.map_eq_some_iff.mp h
    cases hp
    rfl
  | _ => cases h

/-! ## What a completion writes -/

theorem service_afterTrip (car : Car) (hasDamage : Bool) :
    (car.afterTrip hasDamage).service = if hasDamage then (.inactive, false) else (.active, true) := by
  cases hasDamage with
  | false => rfl
  | true => rfl

theorem hasDamage_congr (desk : RentalDesk) (bookings : Id → Option RentalBooking)
    (otps : List HandoverOtp) (locks : CancellationLocks) (bookingId : Id) :
    RentalDesk.hasDamage { desk with bookings, otps, locks } bookingId = desk.hasDamage bookingId := by
  unfold RentalDesk.hasDamage RentalDesk.findInspection
  rfl

theorem executeTransition_completed_cars (desk : RentalDesk) (ctx : TransitionContext)
    (env : TransitionEnv) (htarget : ctx.target = .completed) :
    (¬ Moves desk ctx env ∧ (executeTransition desk ctx env).1.cars = desk.cars) ∨
      (Moves desk ctx env ∧ ∃ booking, desk.bookings ctx.bookingId = some booking ∧
        (executeTransition desk ctx env).1.cars = Function.update desk.cars booking.carId
          ((desk.cars booking.carId).map (·.afterTrip (desk.hasDamage ctx.bookingId)))) := by
  by_cases hfree : LockFree desk ctx.bookingId env
  swap
  · refine .inl ⟨fun h => hfree h.1, ?_⟩
    rcases executeTransition_cases desk ctx env with ⟨-, e, otps, locks, h, -⟩ | ⟨hgoes, -⟩
    · rw [h]
    · exact absurd hgoes.1 hfree
  rw [executeTransition_of_free hfree.1 hfree.2]
  rcases transitionBody_cases { desk with
      locks := Function.update desk.locks ctx.bookingId
        (some ⟨env.token, env.now + cancellationLockTtlMs⟩) } ctx env with
    ⟨hnot, e, otps, h, -⟩ | ⟨hready, booking, hbooking, ⟨hthere, h⟩ | ⟨hother, -, otps, -, h⟩⟩
  · rw [transitionReady_locks] at hnot
    rw [h]
    exact .inl ⟨fun hmoves => hnot hmoves.2.1, rfl⟩
  · rw [h]
    refine .inl ⟨fun hmoves => hmoves.2.2 ?_, rfl⟩
    exact (congrArg (Option.map RentalBooking.status) hbooking).trans (congrArg some hthere)
  · rw [transitionReady_locks] at hready
    rw [h, htarget]
    refine .inr ⟨⟨hfree, hready, fun hthere => hother ?_⟩, booking, hbooking, ?_⟩
    · have hstatus : desk.statusOf ctx.bookingId = some booking.status :=
        congrArg (Option.map RentalBooking.status) hbooking
      exact Option.some.inj (hstatus.symm.trans hthere)
    · rw [← hasDamage_congr desk _ otps _ ctx.bookingId]
      rfl

theorem carKept_iff {desk : RentalDesk} {ctx : TransitionContext} {env : TransitionEnv}
    (htarget : ctx.target = .completed) : CarKept desk ctx env ↔ Harmless desk ctx env := by
  rcases executeTransition_completed_cars desk ctx env htarget with
    ⟨hnot, hcars⟩ | ⟨hmoves, booking, hbooking, hcars⟩
  · refine iff_of_true (fun booking _ _ => ?_) fun hmoves => absurd hmoves hnot
    rw [RentalDesk.service, hcars, RentalDesk.service]
  have hwritten : ∀ car, desk.cars booking.carId = some car →
      (executeTransition desk ctx env).1.service booking.carId =
        some (if desk.hasDamage ctx.bookingId then (.inactive, false) else (.active, true)) := by
    intro car hcar
    rw [RentalDesk.service, hcars, Function.update_self, hcar, ← service_afterTrip car]
    rfl
  constructor
  · intro hkept _ other car hother hcar
    have hsame : other = booking := Option.some.inj (hother.symm.trans hbooking)
    rw [hsame] at hcar
    have hafter := hwritten car hcar
    have hbefore : desk.service booking.carId = some car.service := by
      rw [RentalDesk.service, hcar, Option.map_some]
    rw [hsame]
    constructor
    · -- a completion leaves no such status
      by_contra htaken
      have hout : OutOfService desk ctx.bookingId booking.carId := by
        refine .inl ?_
        rw [hcar]
        exact Bool.not_eq_false _ ▸ htaken
      have hsame' := (hafter.symm.trans (hkept booking hbooking hout)).trans hbefore
      have hstatus : car.operationalStatus = .inactive ∨ car.operationalStatus = .active := by
        have hpair := Option.some.inj hsame'
        cases hdamage : desk.hasDamage ctx.bookingId with
        | false =>
          rw [hdamage] at hpair
          exact .inr (congrArg Prod.fst hpair).symm
        | true =>
          rw [hdamage] at hpair
          exact .inl (congrArg Prod.fst hpair).symm
      rcases hstatus with hstatus | hstatus
      · exact htaken (by rw [hstatus]; rfl)
      · exact htaken (by rw [hstatus]; rfl)
    · intro hheld
      have hsame' := (hafter.symm.trans (hkept booking hbooking (.inr hheld))).trans hbefore
      exact (Option.some.inj hsame').symm
  · intro hharmless other hother hout
    have hsame : other = booking := Option.some.inj (hother.symm.trans hbooking)
    rw [hsame] at hout ⊢
    cases hcar : desk.cars booking.carId with
    | none =>
      rw [RentalDesk.service, hcars, Function.update_self, RentalDesk.service, hcar]
      rfl
    | some car =>
      obtain ⟨hin, hclaim⟩ := hharmless hmoves booking car hbooking hcar
      rw [hwritten car hcar, RentalDesk.service, hcar, Option.map_some]
      rcases hout with htaken | hheld
      · rw [hcar, Option.any_some, hin] at htaken
        cases htaken
      · rw [hclaim hheld]

/-! ## The law -/

/-- In a run of transitions, pickups, returns and whatever else is written, every completion leaves a
car as it is that something else took out of service, exactly if every completion is harmless. -/
theorem car_release_iff (desk : RentalDesk) (now : ℤ) (actions : List HandoverAction) :
    Along HandoverSystem.step KeepsOutOfService (.start desk now) actions ↔
      Along HandoverSystem.step HarmlessCompletions (.start desk now) actions := by
  refine along_congr (I := fun _ => True) (fun _ _ _ => trivial) (fun s action _ _ => ?_) trivial
  refine forall_congr' fun ctx => forall_congr' fun env => imp_congr_right fun h => ?_
  exact carKept_iff (target_of_completionOf h)

def returnedDesk : RentalDesk :=
  { sampleDesk with
    bookings := fun id => if id = "booking" then some { sampleRental with status := .ongoing } else none
    inspections := [⟨"booking", .postTrip, sampleDeposit, 100, [], none, true⟩] }

def sampleSuspension : StatusRequest where
  carId := "car"
  targetStatus := .suspended
  actor := ⟨.admin, none⟩
  reason := some "Stolen plates were reported"
  skipEligibilityCheck := false

def overridingEnd : TransitionContext where
  bookingId := "booking"
  actorId := "admin"
  actorRole := .admin
  target := .completed
  reason := some "The customer is back"
  handoverOtp := none

/-- The car is suspended during the trip; the end of the trip makes it ACTIVE and available. -/
theorem suspended_car_released :
    ¬ Along HandoverSystem.step KeepsOutOfService (.start returnedDesk 0)
      [.others fun desk => (transitionStatus desk ["booking"] sampleSuspension ⟨false, none⟩).1,
        .transition overridingEnd (sampleEnv 0).inner] := by
  rintro ⟨-, h, -⟩
  have hkept := h overridingEnd (sampleEnv 0).inner rfl { sampleRental with status := .ongoing } rfl
    (.inl (by decide +kernel))
  exact absurd hkept (by decide +kernel)

end CarRental
