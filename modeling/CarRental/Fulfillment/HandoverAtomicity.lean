import CarRental.Fulfillment.FulfillmentOrchestrator

/-!
# Handovers that fail

A handover that leaves the booking's status as it is should also leave the codes, the inspections,
the deposits and the stages as they are (`Atomic`).  Each of its steps commits on its own, and the
transition comes last or nearly so.

Two facts decide the question.  The first write of an operation is never taken back: a verified code
stays verified (`unverifiedCount`), an inspection stays recorded.  And a transition that returns has
moved the booking.  So an operation is atomic exactly if it is refused before its first write or its
transition goes through, and the latter needs the operation's own lock to have run out
(`handover_atomic_iff`).
-/

namespace CarRental

open Calls

/-! ## The law -/

def RentalDesk.stageOf (desk : RentalDesk) (bookingId : Id) : Option FulfillmentStage :=
  (desk.fulfillment bookingId).map FulfillmentRecord.stage

/-- Codes, inspections, deposits and stages are the same. -/
structure SameRows (before after : RentalDesk) : Prop where
  otps : after.otps = before.otps
  inspections : after.inspections = before.inspections
  deposits : after.deposits = before.deposits
  stages : ∀ bookingId, after.stageOf bookingId = before.stageOf bookingId

/-- A status that did not change leaves the rows the same. -/
def Atomic (bookingId : Id) (before after : RentalDesk) : Prop :=
  after.statusOf bookingId = before.statusOf bookingId → SameRows before after

theorem OnlyLocks.sameRows {before after : RentalDesk} (h : OnlyLocks before after) :
    SameRows before after :=
  ⟨h.otps, h.inspections, h.deposits, fun _ => by
    rw [RentalDesk.stageOf, h.fulfillment, RentalDesk.stageOf]⟩

theorem Spoiled.not_sameRows {before after : RentalDesk} (h : Spoiled before after) :
    ¬ SameRows before after := by
  intro hsame
  rcases h.written with hlt | ⟨inspection, hinspections⟩
  · rw [hsame.otps] at hlt
    exact lt_irrefl _ hlt
  · have hlength := hsame.inspections
    rw [hinspections, List.append_right_eq_self] at hlength
    cases hlength

theorem statusOf_congr {before after : RentalDesk} (h : after.bookings = before.bookings)
    (bookingId : Id) : after.statusOf bookingId = before.statusOf bookingId := by
  rw [RentalDesk.statusOf, RentalDesk.statusOf, h]

theorem atomic_iff_sameRows {before after : RentalDesk} (h : after.bookings = before.bookings)
    (bookingId : Id) : Atomic bookingId before after ↔ SameRows before after :=
  ⟨fun hatomic => hatomic (statusOf_congr h bookingId), fun hsame _ => hsame⟩

/-! ## Pickup and return -/

/-- The pickup is refused before its first write, or its transition goes through. -/
def PickupAtomicWhen (desk : RentalDesk) (req : PickupExecutionRequest) (env : OperationEnv) :
    Prop :=
  PickupRefused desk req env ∨ PickupGetsThrough desk req env

def ReturnAtomicWhen (desk : RentalDesk) (req : ReturnExecutionRequest) (env : OperationEnv) :
    Prop :=
  ReturnRefused desk req env ∨ ReturnGetsThrough desk req env

theorem executePickup_atomic_iff (desk : RentalDesk) (req : PickupExecutionRequest)
    (env : OperationEnv) :
    Atomic req.bookingId desk (desk.executePickup req env).1 ↔ PickupAtomicWhen desk req env := by
  rcases rentalPickup_cases desk req env with
    ⟨hnot, -, ⟨hrefused, hlocks⟩ | ⟨hrefused, hspoiled⟩⟩ | ⟨hgoes, -, -, hmoved⟩
  · exact iff_of_true (fun _ => hlocks.sameRows) (.inl hrefused)
  · rw [atomic_iff_sameRows hspoiled.bookings]
    exact iff_of_false hspoiled.not_sameRows (not_or.mpr ⟨hrefused, hnot⟩)
  · exact iff_of_true (fun hsame => absurd hsame hmoved) (.inr hgoes)

theorem executeReturn_atomic_iff (desk : RentalDesk) (req : ReturnExecutionRequest)
    (env : OperationEnv) :
    Atomic req.bookingId desk (desk.executeReturn req env).1 ↔ ReturnAtomicWhen desk req env := by
  rcases rentalReturn_cases desk req env with
    ⟨hnot, -, ⟨hrefused, hlocks⟩ | ⟨hrefused, hspoiled⟩⟩ | ⟨hgoes, -, -, hmoved⟩
  · exact iff_of_true (fun _ => hlocks.sameRows) (.inl hrefused)
  · rw [atomic_iff_sameRows hspoiled.bookings]
    exact iff_of_false hspoiled.not_sameRows (not_or.mpr ⟨hrefused, hnot⟩)
  · exact iff_of_true (fun hsame => absurd hsame hmoved) (.inr hgoes)

/-! ## Stages -/

/-- Nothing but the fulfillment record of the booking has changed. -/
structure OnlyRecord (bookingId : Id) (before after : RentalDesk) : Prop where
  bookings : after.bookings = before.bookings
  otps : after.otps = before.otps
  inspections : after.inspections = before.inspections
  deposits : after.deposits = before.deposits
  others : ∀ other, other ≠ bookingId → after.fulfillment other = before.fulfillment other

theorem OnlyRecord.refl (bookingId : Id) (desk : RentalDesk) : OnlyRecord bookingId desk desk :=
  ⟨rfl, rfl, rfl, rfl, fun _ _ => rfl⟩

theorem OnlyRecord.trans {bookingId : Id} {a b c : RentalDesk} (h : OnlyRecord bookingId a b)
    (h' : OnlyRecord bookingId b c) : OnlyRecord bookingId a c :=
  ⟨h'.bookings.trans h.bookings, h'.otps.trans h.otps, h'.inspections.trans h.inspections,
    h'.deposits.trans h.deposits, fun other hne => (h'.others other hne).trans (h.others other hne)⟩

theorem OnlyRecord.sameRows_iff {bookingId : Id} {before after : RentalDesk}
    (h : OnlyRecord bookingId before after) :
    SameRows before after ↔ after.stageOf bookingId = before.stageOf bookingId := by
  constructor
  · exact fun hsame => hsame.stages bookingId
  · intro hstage
    refine ⟨h.otps, h.inspections, h.deposits, fun other => ?_⟩
    by_cases hother : other = bookingId
    · rw [hother, hstage]
    · rw [RentalDesk.stageOf, h.others other hother, RentalDesk.stageOf]

theorem onlyRecord_setStage (desk : RentalDesk) (bookingId : Id) (stage : FulfillmentStage) :
    OnlyRecord bookingId desk (desk.setStage bookingId stage) :=
  ⟨rfl, rfl, rfl, rfl, fun _ hne => Function.update_of_ne hne ..⟩

theorem stageOf_setStage (desk : RentalDesk) (bookingId : Id) (stage : FulfillmentStage) :
    (desk.setStage bookingId stage).stageOf bookingId =
      (desk.stageOf bookingId).map fun _ => stage := by
  rw [RentalDesk.stageOf, RentalDesk.setStage, RentalDesk.stageOf]
  dsimp only
  rw [Function.update_self, Option.map_map, Option.map_map]
  rfl

def stageWritten (desk : RentalDesk) (bookingId : Id) (stage : FulfillmentStage)
    (env : TransitionEnv) : DeskReply Unit :=
  andThen (ensureFulfillmentRecord desk bookingId env) fun desk _ =>
    updateStage desk bookingId stage .stage env

/-- Ensuring the record and writing the stage shows no change: one of the two is not reached, or the
stage is that one already.  A record that has to be created is a change. -/
def StageKept (desk : RentalDesk) (bookingId : Id) (stage : FulfillmentStage)
    (env : TransitionEnv) : Prop :=
  env.up .fulfillmentRecord = false ∨
    match desk.fulfillment bookingId with
    | some record => env.up .stage = false ∨ record.stage = stage
    | none => desk.bookings bookingId = none

theorem updateStage_cases (desk : RentalDesk) (bookingId : Id) (stage : FulfillmentStage)
    (place : HandoverStep) (env : TransitionEnv) :
    (env.up place = false ∧
        ∃ e, updateStage desk bookingId stage place env = (desk, .error e)) ∨
      (env.up place = true ∧ updateStage desk bookingId stage place env =
        (desk.setStage bookingId stage, .ok ())) := by
  unfold updateStage TransitionEnv.guard
  cases env.up place with
  | false => exact .inl ⟨rfl, _, rfl⟩
  | true => exact .inr ⟨rfl, rfl⟩

theorem ensureFulfillmentRecord_cases (desk : RentalDesk) (bookingId : Id) (env : TransitionEnv) :
    ((env.up .fulfillmentRecord = false ∨
          desk.fulfillment bookingId = none ∧ desk.bookings bookingId = none) ∧
        ∃ e, ensureFulfillmentRecord desk bookingId env = (desk, .error e)) ∨
      (env.up .fulfillmentRecord = true ∧ ∃ desk' record,
        ensureFulfillmentRecord desk bookingId env = (desk', .ok record) ∧
        OnlyRecord bookingId desk desk' ∧ desk'.locks = desk.locks ∧
        (desk' = desk ∧ desk.fulfillment bookingId = some record ∨
          desk.fulfillment bookingId = none ∧ (∃ booking, desk.bookings bookingId = some booking) ∧
            desk'.stageOf bookingId = some .allocated)) := by
  unfold ensureFulfillmentRecord
  cases env.up .fulfillmentRecord with
  | false => exact .inl ⟨.inl rfl, _, rfl⟩
  | true =>
    cases hrecord : desk.fulfillment bookingId with
    | some record =>
      exact .inr ⟨rfl, desk, record, rfl, .refl bookingId desk, rfl, .inl ⟨rfl, rfl⟩⟩
    | none =>
      cases hbooking : desk.bookings bookingId with
      | none => exact .inl ⟨.inr ⟨rfl, rfl⟩, _, rfl⟩
      | some booking =>
        refine .inr ⟨rfl, _, _, rfl, ⟨rfl, rfl, rfl, rfl, fun _ hne => ?_⟩, rfl,
          .inr ⟨rfl, ⟨booking, rfl⟩, ?_⟩⟩
        · exact Function.update_of_ne hne ..
        · rw [RentalDesk.stageOf]
          dsimp only
          rw [Function.update_self]
          rfl

theorem stageWritten_cases (desk : RentalDesk) (bookingId : Id) (stage : FulfillmentStage)
    (env : TransitionEnv) :
    OnlyRecord bookingId desk (stageWritten desk bookingId stage env).1 ∧
      (stageWritten desk bookingId stage env).1.locks = desk.locks ∧
      ((stageWritten desk bookingId stage env).1.stageOf bookingId = desk.stageOf bookingId ↔
        StageKept desk bookingId stage env) := by
  unfold stageWritten StageKept
  rcases ensureFulfillmentRecord_cases desk bookingId env with
    ⟨hnone, e, h⟩ | ⟨hup, desk', record, h, honly, hlocks, hfound⟩
  · rw [h, andThen_error]
    refine ⟨.refl bookingId desk, rfl, iff_of_true rfl ?_⟩
    refine hnone.imp_right fun hnone => ?_
    rw [hnone.1]
    exact hnone.2
  rw [h, andThen_ok, hup]
  rcases hfound with ⟨rfl, hrecord⟩ | ⟨hnone, ⟨booking, hbooking⟩, hallocated⟩
  · rw [hrecord]
    rcases updateStage_cases desk' bookingId stage .stage env with
      ⟨hstage, e, hupdate⟩ | ⟨hstage, hupdate⟩
    · rw [hupdate, hstage]
      exact ⟨.refl bookingId desk', rfl, iff_of_true rfl (.inr (.inl rfl))⟩
    · rw [hupdate, hstage]
      refine ⟨onlyRecord_setStage _ _ _, rfl, ?_⟩
      rw [stageOf_setStage, RentalDesk.stageOf, hrecord]
      simp [eq_comm]
  · rw [hnone, hbooking]
    have hbefore : desk.stageOf bookingId = none := by
      rw [RentalDesk.stageOf, hnone]
      rfl
    rcases updateStage_cases desk' bookingId stage .stage env with
      ⟨hstage, e, hupdate⟩ | ⟨hstage, hupdate⟩
    · rw [hupdate, hbefore, hallocated]
      exact ⟨honly, hlocks, by simp⟩
    · rw [hupdate, hbefore, stageOf_setStage, hallocated]
      exact ⟨honly.trans (onlyRecord_setStage _ _ _), hlocks, by simp⟩

/-! ## With the orchestrator around them -/

theorem bookings_ensure (desk : RentalDesk) (bookingId : Id) (env : TransitionEnv) :
    (ensureFulfillmentRecord desk bookingId env).1.bookings = desk.bookings := by
  rcases ensureFulfillmentRecord_cases desk bookingId env with
    ⟨-, e, h⟩ | ⟨-, desk', record, h, honly, -⟩
  · rw [h]
  · rw [h]
    exact honly.bookings

theorem bookings_updateStage (desk : RentalDesk) (bookingId : Id) (stage : FulfillmentStage)
    (place : HandoverStep) (env : TransitionEnv) :
    (updateStage desk bookingId stage place env).1.bookings = desk.bookings := by
  rcases updateStage_cases desk bookingId stage place env with ⟨-, e, h⟩ | ⟨-, h⟩
  · rw [h]
  · rw [h]
    rfl

theorem orchestratePickup_atomic_iff (desk : RentalDesk) (req : PickupExecutionRequest)
    (env : OperationEnv) :
    Atomic req.bookingId desk (desk.orchestratePickup req env).1 ↔ PickupAtomicWhen desk req env := by
  unfold RentalDesk.orchestratePickup
  cases hreply : (desk.executePickup req env).2 with
  | error e =>
    rw [andThen_of_error hreply]
    exact executePickup_atomic_iff desk req env
  | ok result =>
    have hbookings : (andThen (desk.executePickup req env) fun desk result =>
        andThen (ensureFulfillmentRecord desk req.bookingId env.inner) fun desk _ =>
        andThen (updateStage desk req.bookingId .activeRental .finalStage env.inner) fun desk _ =>
          (desk, .ok result)).1.bookings = (desk.executePickup req env).1.bookings := by
      rw [andThen_of_ok hreply]
      refine andThen_rel (R := fun before after : RentalDesk => after.bookings = before.bookings)
        (fun a b c h h' => h'.trans h) (bookings_ensure _ _ _) fun record => ?_
      exact andThen_rel (R := fun before after : RentalDesk => after.bookings = before.bookings)
        (fun a b c h h' => h'.trans h) (bookings_updateStage _ _ _ _ _) fun _ => rfl
    have hsucceeds : Succeeds (desk.executePickup req env) := succeeds_iff.mpr ⟨result, hreply⟩
    rcases rentalPickup_cases desk req env with ⟨-, hfails, -⟩ | ⟨hgoes, -, -, hmoved⟩
    · exact absurd hsucceeds hfails
    refine iff_of_true (fun hsame => absurd ?_ hmoved) (.inr hgoes)
    rw [← hsame]
    exact (statusOf_congr hbookings req.bookingId).symm

/-- The stage is written before the return begins: either this shows no change and the return is
refused before its own first write, or the return goes through. -/
def OrchestratedReturnAtomicWhen (desk : RentalDesk) (req : ReturnExecutionRequest)
    (env : OperationEnv) : Prop :=
  let staged := stageWritten desk req.bookingId .returnInspectionPending env.inner
  (StageKept desk req.bookingId .returnInspectionPending env.inner ∧
      (¬ Succeeds staged ∨ ReturnRefused staged.1 req env)) ∨
    Succeeds staged ∧ ReturnGetsThrough staged.1 req env

theorem orchestrateReturn_eq (desk : RentalDesk) (req : ReturnExecutionRequest)
    (env : OperationEnv) :
    desk.orchestrateReturn req env =
      andThen (stageWritten desk req.bookingId .returnInspectionPending env.inner) fun desk _ =>
      andThen (desk.executeReturn req env) fun desk result =>
      andThen (updateStage desk req.bookingId .completed .finalStage env.inner) fun desk _ =>
        (desk, .ok result) := by
  unfold RentalDesk.orchestrateReturn stageWritten
  cases h : (ensureFulfillmentRecord desk req.bookingId env.inner).2 with
  | error e => rw [andThen_of_error h, andThen_of_error h, andThen_error]
  | ok record => rw [andThen_of_ok h, andThen_of_ok h]

theorem orchestrateReturn_atomic_iff (desk : RentalDesk) (req : ReturnExecutionRequest)
    (env : OperationEnv) :
    Atomic req.bookingId desk (desk.orchestrateReturn req env).1 ↔
      OrchestratedReturnAtomicWhen desk req env := by
  rw [orchestrateReturn_eq, OrchestratedReturnAtomicWhen]
  obtain ⟨honly, -, hkept⟩ := stageWritten_cases desk req.bookingId .returnInspectionPending env.inner
  cases hstaged : (stageWritten desk req.bookingId .returnInspectionPending env.inner).2 with
  | error e =>
    have hfails : ¬ Succeeds (stageWritten desk req.bookingId .returnInspectionPending env.inner) := by
      rintro h
      obtain ⟨reply, hreply⟩ := succeeds_iff.mp h
      rw [hstaged] at hreply
      cases hreply
    rw [andThen_of_error hstaged, atomic_iff_sameRows honly.bookings, honly.sameRows_iff, hkept]
    simp [hfails]
  | ok =>
    have hsucceeds : Succeeds (stageWritten desk req.bookingId .returnInspectionPending env.inner) :=
      succeeds_iff.mpr ⟨(), hstaged⟩
    rw [andThen_of_ok hstaged, and_iff_right hsucceeds, or_iff_right (not_not.mpr hsucceeds)]
    generalize hdesk : (stageWritten desk req.bookingId .returnInspectionPending env.inner).1 = staged
      at honly hkept
    rcases rentalReturn_cases staged req env with
      ⟨hnot, hfails, hleft⟩ | ⟨hgoes, hreturns, hrefused, hmoved⟩
    · have hreply : ∃ e, (staged.executeReturn req env).2 = .error e := by
        cases h : (staged.executeReturn req env).2 with
        | error e => exact ⟨e, rfl⟩
        | ok result => exact absurd (succeeds_iff.mpr ⟨result, h⟩) hfails
      obtain ⟨e, hreply⟩ := hreply
      rw [andThen_of_error hreply]
      rcases hleft with ⟨hrefused, hlocks⟩ | ⟨hrefused, hspoiled⟩
      · have hrecord : OnlyRecord req.bookingId desk (staged.executeReturn req env).1 := by
          refine honly.trans ⟨hlocks.bookings, hlocks.otps, hlocks.inspections, hlocks.deposits,
            fun other _ => ?_⟩
          rw [hlocks.fulfillment]
        have hstage : (staged.executeReturn req env).1.stageOf req.bookingId =
            staged.stageOf req.bookingId := by
          rw [RentalDesk.stageOf, hlocks.fulfillment, RentalDesk.stageOf]
        rw [atomic_iff_sameRows hrecord.bookings, hrecord.sameRows_iff, hstage, hkept]
        simp [hrefused, hnot]
      · have hnotSame : ¬ SameRows desk (staged.executeReturn req env).1 := by
          intro hsame
          refine hspoiled.not_sameRows ⟨?_, ?_, ?_, fun other => ?_⟩
          · rw [hsame.otps, honly.otps]
          · rw [hsame.inspections, honly.inspections]
          · rw [hsame.deposits, honly.deposits]
          · rw [RentalDesk.stageOf, hspoiled.fulfillment, RentalDesk.stageOf]
        rw [atomic_iff_sameRows (hspoiled.bookings.trans honly.bookings)]
        simp [hnotSame, hrefused, hnot]
    · obtain ⟨result, hreply⟩ := succeeds_iff.mp hreturns
      have hbookings : (andThen (staged.executeReturn req env) fun desk result =>
          andThen (updateStage desk req.bookingId .completed .finalStage env.inner) fun desk _ =>
            (desk, .ok result)).1.bookings = (staged.executeReturn req env).1.bookings := by
        rw [andThen_of_ok hreply]
        exact andThen_rel (R := fun before after : RentalDesk => after.bookings = before.bookings)
          (fun a b c h h' => h'.trans h) (bookings_updateStage _ _ _ _ _) fun _ => rfl
      refine iff_of_true (fun hsame => absurd ?_ hmoved) (.inr hgoes)
      rw [← statusOf_congr hbookings, hsame, statusOf_congr honly.bookings]

/-! ## Ready for pickup -/

/-- `markReadyForPickup` shows no change before its transition: the stage is not reached, or it is
`READY_FOR_PICKUP` already. -/
def ReadyKept (desk : RentalDesk) (bookingId : Id) (env : TransitionEnv) : Prop :=
  env.up .fulfillmentRecord = false ∨ desk.bookings bookingId = none ∨
    ∃ record, desk.fulfillment bookingId = some record ∧
      (env.up .stage = false ∨ record.stage = .readyForPickup)

/-- The booking is confirmed, and its transition goes through. -/
def ReadyGoesThrough (desk : RentalDesk) (req : MarkReadyForPickupRequest) (env : OperationEnv) :
    Prop :=
  let prepared := prepareReady (desk.locked req.bookingId env) req env.inner
  Obtains desk req.bookingId env ∧ ∃ booking, prepared.2 = .ok booking ∧
    booking.status = .confirmed ∧ GoesThrough prepared.1 req.transition env

theorem prepareReady_cases (desk : RentalDesk) (req : MarkReadyForPickupRequest)
    (env : TransitionEnv) :
    OnlyRecord req.bookingId desk (prepareReady desk req env).1 ∧
      (prepareReady desk req env).1.locks = desk.locks ∧
      ((prepareReady desk req env).1.stageOf req.bookingId = desk.stageOf req.bookingId ↔
        ReadyKept desk req.bookingId env) ∧
      ∀ booking, (prepareReady desk req env).2 = .ok booking →
        desk.bookings req.bookingId = some booking := by
  unfold prepareReady ReadyKept
  rcases ensureFulfillmentRecord_cases desk req.bookingId env with
    ⟨hnone, e, h⟩ | ⟨hup, desk', record, h, honly, hlocks, hfound⟩
  · rw [h, andThen_error]
    refine ⟨.refl _ desk, rfl, iff_of_true rfl (hnone.imp_right fun h => .inl h.2), ?_⟩
    exact fun booking h => by cases h
  rw [h, andThen_ok, hup, honly.bookings]
  cases hbooking : desk.bookings req.bookingId with
  | none =>
    refine ⟨honly, hlocks, ?_, fun booking h => by cases h⟩
    rcases hfound with ⟨rfl, -⟩ | ⟨-, ⟨booking, hsome⟩, -⟩
    · exact iff_of_true rfl (.inr (.inl rfl))
    · rw [hbooking] at hsome
      cases hsome
  | some booking =>
    rcases hfound with ⟨rfl, hrecord⟩ | ⟨hnone, -, hallocated⟩
    · rw [hrecord]
      rcases updateStage_cases desk' req.bookingId .readyForPickup .stage env with
        ⟨hstage, e, hupdate⟩ | ⟨hstage, hupdate⟩
      · dsimp only
        rw [hupdate, andThen_error, hstage]
        refine ⟨honly, rfl, iff_of_true rfl ?_, fun booking h => by cases h⟩
        exact .inr (.inr ⟨record, rfl, .inl rfl⟩)
      · dsimp only
        rw [hupdate, andThen_ok, hstage]
        refine ⟨onlyRecord_setStage _ _ _, rfl, ?_, fun other h => by cases h; rfl⟩
        rw [stageOf_setStage, RentalDesk.stageOf, hrecord]
        simp [eq_comm]
    · have hbefore : desk.stageOf req.bookingId = none := by
        rw [RentalDesk.stageOf, hnone]
        rfl
      rw [hnone, hbefore]
      rcases updateStage_cases desk' req.bookingId .readyForPickup .stage env with
        ⟨-, e, hupdate⟩ | ⟨-, hupdate⟩
      · dsimp only
        rw [hupdate, andThen_error, hallocated]
        exact ⟨honly, hlocks, by simp, fun booking h => by cases h⟩
      · dsimp only
        rw [hupdate, andThen_ok, stageOf_setStage, hallocated]
        exact ⟨honly.trans (onlyRecord_setStage _ _ _), hlocks, by simp,
          fun other h => by cases h; rfl⟩

theorem finishReady_cases (desk : RentalDesk) (req : MarkReadyForPickupRequest)
    (booking : RentalBooking) (env : OperationEnv) :
    (¬ (booking.status = .confirmed ∧ LockFree desk req.bookingId env.inner ∧
          TransitionReady desk req.transition env.inner) ∧
        OnlyLocks desk (finishReady desk req booking env).1) ∨
      ((booking.status = .confirmed ∧ LockFree desk req.bookingId env.inner ∧
          TransitionReady desk req.transition env.inner) ∧
        Succeeds (finishReady desk req booking env) ∧
        (finishReady desk req booking env).1.statusOf req.bookingId = some .handoverReady) := by
  unfold finishReady
  by_cases hconfirmed : booking.status = .confirmed
  · rw [if_pos hconfirmed, and_iff_right hconfirmed]
    rcases executeTransition_cases desk req.transition env.inner with
      ⟨hnot, e, otps, locks, h, -, hsame⟩ | ⟨hgoes, desk', result, h, hmoved⟩
    · rw [h]
      exact .inl ⟨hnot, rfl, hsame rfl, rfl, rfl, rfl⟩
    · rw [h]
      exact .inr ⟨hgoes, succeeds_ok, hmoved⟩
  · rw [if_neg hconfirmed]
    exact .inl ⟨fun h => hconfirmed h.1, rfl, rfl, rfl, rfl, rfl⟩

theorem markReadyForPickup_atomic_iff (desk : RentalDesk) (req : MarkReadyForPickupRequest)
    (env : OperationEnv) :
    Atomic req.bookingId desk (desk.markReadyForPickup req env).1 ↔
      ¬ Obtains desk req.bookingId env ∨ ReadyKept desk req.bookingId env.inner ∨
        ReadyGoesThrough desk req env := by
  unfold RentalDesk.markReadyForPickup beginReady ReadyGoesThrough
  by_cases hobtains : Obtains desk req.bookingId env
  swap
  · obtain ⟨e, h⟩ := beginOperation_of_not_obtains hobtains fun desk =>
      prepareReady desk req env.inner
    rw [h, andThen_error]
    exact iff_of_true (fun _ => ⟨rfl, rfl, rfl, fun _ => rfl⟩) (.inl hobtains)
  rw [or_iff_right (not_not.mpr hobtains), and_iff_right hobtains]
  obtain ⟨honly, hlocks, hkept, hfound⟩ :=
    prepareReady_cases (desk.locked req.bookingId env) req env.inner
  -- what the first part leaves, seen from before the lock was taken
  have hrecord : OnlyRecord req.bookingId desk
      (prepareReady (desk.locked req.bookingId env) req env.inner).1 :=
    ⟨honly.bookings, honly.otps, honly.inspections, honly.deposits, honly.others⟩
  have hkept' : (prepareReady (desk.locked req.bookingId env) req env.inner).1.stageOf
      req.bookingId = desk.stageOf req.bookingId ↔ ReadyKept desk req.bookingId env.inner := hkept
  cases hreply : (prepareReady (desk.locked req.bookingId env) req env.inner).2 with
  | error e =>
    rw [beginOperation_of_error hobtains (Prod.ext rfl hreply), andThen_error]
    have hreleased : OnlyRecord req.bookingId desk
        ((prepareReady (desk.locked req.bookingId env) req env.inner).1.release req.bookingId
          env.token) :=
      ⟨hrecord.bookings, hrecord.otps, hrecord.inspections, hrecord.deposits, hrecord.others⟩
    rw [atomic_iff_sameRows hreleased.bookings, hreleased.sameRows_iff]
    refine Iff.trans hkept' ⟨.inl, ?_⟩
    rintro (h | ⟨booking, h, -⟩)
    · exact h
    · cases h
  | ok booking =>
    rw [beginOperation_of_ok hobtains (Prod.ext rfl hreply), andThen_ok]
    have hbooking : desk.bookings req.bookingId = some booking := hfound booking hreply
    have hfree : LockFree (prepareReady (desk.locked req.bookingId env) req env.inner).1
        req.bookingId env.inner ↔ LockExpired env := by
      refine lockFree_locked_iff ?_
      rw [hlocks]
      exact locked_locks desk req.bookingId env
    have hgoes : (∃ other, (Except.ok booking : Except HttpError RentalBooking) = .ok other ∧
        other.status = .confirmed ∧ GoesThrough
          (prepareReady (desk.locked req.bookingId env) req env.inner).1 req.transition env) ↔
        booking.status = .confirmed ∧ LockFree
            (prepareReady (desk.locked req.bookingId env) req env.inner).1 req.bookingId env.inner ∧
          TransitionReady (prepareReady (desk.locked req.bookingId env) req env.inner).1
            req.transition env.inner := by
      rw [hfree]
      constructor
      · rintro ⟨other, ⟨⟩, h⟩
        exact h
      · exact fun h => ⟨booking, rfl, h⟩
    rw [hgoes]
    rcases finishReady_cases
        (prepareReady (desk.locked req.bookingId env) req env.inner).1 req booking env with
      ⟨hnot, hleft⟩ | ⟨hyes, -, hmoved⟩
    · have hleft' : OnlyRecord req.bookingId desk (finishReady
          (prepareReady (desk.locked req.bookingId env) req env.inner).1 req booking env).1 :=
        hrecord.trans ⟨hleft.bookings, hleft.otps, hleft.inspections, hleft.deposits,
          fun other _ => by rw [hleft.fulfillment]⟩
      have hstage : (finishReady (prepareReady (desk.locked req.bookingId env) req env.inner).1 req
          booking env).1.stageOf req.bookingId =
          (prepareReady (desk.locked req.bookingId env) req env.inner).1.stageOf req.bookingId := by
        rw [RentalDesk.stageOf, hleft.fulfillment, RentalDesk.stageOf]
      rw [atomic_iff_sameRows hleft'.bookings, hleft'.sameRows_iff, hstage, hkept']
      exact (or_iff_left hnot).symm
    · refine iff_of_true (fun hsame => absurd hsame ?_) (.inr hyes)
      rw [hmoved, RentalDesk.statusOf, hbooking, Option.map_some, hyes.1]
      exact fun h => by cases h

/-! ## The law of all five -/

/-- A handover operation leaves everything as it was whenever it leaves the status as it was,
exactly if it is refused before its first write or its transition goes through. -/
theorem handover_atomic_iff (desk : RentalDesk) (env : OperationEnv)
    (pickup : PickupExecutionRequest) (return_ : ReturnExecutionRequest)
    (ready : MarkReadyForPickupRequest) :
    (Atomic pickup.bookingId desk (desk.executePickup pickup env).1 ↔
        PickupAtomicWhen desk pickup env) ∧
      (Atomic return_.bookingId desk (desk.executeReturn return_ env).1 ↔
        ReturnAtomicWhen desk return_ env) ∧
      (Atomic pickup.bookingId desk (desk.orchestratePickup pickup env).1 ↔
        PickupAtomicWhen desk pickup env) ∧
      (Atomic return_.bookingId desk (desk.orchestrateReturn return_ env).1 ↔
        OrchestratedReturnAtomicWhen desk return_ env) ∧
      (Atomic ready.bookingId desk (desk.markReadyForPickup ready env).1 ↔
        ¬ Obtains desk ready.bookingId env ∨ ReadyKept desk ready.bookingId env.inner ∨
          ReadyGoesThrough desk ready env) :=
  ⟨executePickup_atomic_iff desk pickup env, executeReturn_atomic_iff desk return_ env,
    orchestratePickup_atomic_iff desk pickup env, orchestrateReturn_atomic_iff desk return_ env,
    markReadyForPickup_atomic_iff desk ready env⟩

/-- A pickup whose transition meets the pickup's own lock: the booking stays confirmed, its code is
used up and its inspection is recorded. -/
theorem pickup_not_atomic :
    ¬ Atomic "booking" sampleDesk (sampleDesk.executePickup samplePickup (sampleEnv 1000)).1 := by
  intro h
  have hsame := (h (by decide +kernel)).otps
  exact absurd hsame (by decide +kernel)

end CarRental
