import CarRental.Bookings.RentalLifecycle

/-!
# The stage of a fulfillment beside the status of its booking

The operations of `FulfillmentOrchestratorService` and the transitions of `BookingLifecycleService`
for one booking, step by step.  An operation is the list of what it still does to the record and
the booking (`FulfillmentOperation.steps`); a step is one access of the database, and between two of
them anything else may happen.  A transition is two steps: it reads and checks the status, and
commits if the status is still there.

The lock of the booking is left out: it runs out after twenty seconds, and `executePickup` and
`executeReturn` write their stages outside of it.  So are the checks that look at neither the stage
nor the status: a call may fail at any step (`StageAction.fail`), as in an outage.
-/

namespace CarRental

open Runs

inductive FulfillmentStep where
  /-- `ensureFulfillmentRecord`, and a refusal of the stages that it finds. -/
  | ensureRecord (refused : List FulfillmentStage)
  /-- `markReadyForPickup` reads the booking, and moves it later if it is confirmed. -/
  | readReady
  /-- The booking has to have one of the statuses. -/
  | require (statuses : List BookingStatus)
  | write (stage : FulfillmentStage)
  /-- `executeTransition` up to its transaction. -/
  | transition (target : BookingStatus)
  | commit (target read : BookingStatus)
deriving DecidableEq, Repr

inductive FulfillmentOperation where
  | initializeFulfillment
  | startPreparation
  | markCleaned
  | markInspected
  | markReadyForPickup
  | recordCustomerArrival
  | executePickup
  | executeReturn
  | executeTransition (target : BookingStatus)
deriving DecidableEq, Repr

namespace FulfillmentOperation

def steps : FulfillmentOperation → List FulfillmentStep
  | .initializeFulfillment => [.ensureRecord []]
  | .startPreparation =>
    [.ensureRecord [.cancelled, .completed, .activeRental], .write .preparationInProgress]
  | .markCleaned => [.ensureRecord [], .write .cleaningCompleted]
  | .markInspected => [.ensureRecord [], .write .inspectionCompleted]
  | .markReadyForPickup => [.ensureRecord [], .readReady, .write .readyForPickup]
  | .recordCustomerArrival => [.ensureRecord [], .write .customerCheckedIn]
  | .executePickup =>
    [.require [.confirmed, .handoverReady], .transition .ongoing, .ensureRecord [],
      .write .activeRental]
  -- the stage is written before anything is checked
  | .executeReturn =>
    [.ensureRecord [], .write .returnInspectionPending, .require [.ongoing, .returnPending],
      .transition .completed, .write .completed]
  | .executeTransition target => [.transition target]

end FulfillmentOperation

structure FulfilledBooking where
  status : BookingStatus
  /-- The stage of the record, if there is one. -/
  stage : Option FulfillmentStage
  /-- What the operations under way still do. -/
  calls : List (List FulfillmentStep)
deriving DecidableEq

/-- What the transaction of a transition makes of the record. -/
def stageAfter (target : BookingStatus) (stage : Option FulfillmentStage) :
    Option FulfillmentStage :=
  match target with
  | .confirmed => some .allocated
  | .cancelled | .expired => stage.map fun _ => .cancelled
  | .handoverReady => stage.map fun _ => .readyForPickup
  | .ongoing => stage.map fun _ => .activeRental
  | .completed => stage.map fun _ => .completed
  | .pending | .returnPending | .refundPending | .refunded | .disputed => stage

namespace FulfilledBooking

/-- A booking that nothing has happened to, with its record or without. -/
def opened (status : BookingStatus) (allocated : Bool) : FulfilledBooking :=
  ⟨status, if allocated then some .allocated else none, []⟩

def goOn (s : FulfilledBooking) (rest : List FulfillmentStep) : FulfilledBooking :=
  { s with calls := rest :: s.calls }

def ensured (s : FulfilledBooking) : FulfillmentStage := s.stage.getD .allocated

/-- The next step of a call; where it throws, the call is over. -/
def advance (s : FulfilledBooking) : List FulfillmentStep → FulfilledBooking
  | [] => s
  | .ensureRecord refused :: rest =>
    let s := { s with stage := some s.ensured }
    if s.ensured ∈ refused then s else s.goOn rest
  | .readReady :: rest =>
    s.goOn (if s.status = .confirmed then rest ++ [.transition .handoverReady] else rest)
  | .require statuses :: rest => if s.status ∈ statuses then s.goOn rest else s
  | .write stage :: rest => { s with stage := some stage }.goOn rest
  | .transition target :: rest =>
    -- a booking that is there already counts as moved
    if s.status = target then s.goOn rest
    else if target ∈ lifecycleMatrix s.status then s.goOn (.commit target s.status :: rest)
    else s
  | .commit target read :: rest =>
    if s.status = read then
      { s with status := target, stage := stageAfter target s.stage }.goOn rest
    else s

end FulfilledBooking

inductive StageAction where
  | start (operation : FulfillmentOperation)
  | advance (call : List FulfillmentStep)
  | fail (call : List FulfillmentStep)
deriving DecidableEq

def stageStep (s : FulfilledBooking) : StageAction → FulfilledBooking
  | .start operation => s.goOn operation.steps
  | .advance call =>
    if call ∈ s.calls then { s with calls := s.calls.erase call }.advance call else s
  | .fail call => { s with calls := s.calls.erase call }

/-! ## The transactions of the rental desk -/

/-!
## The stage agrees with the status

A final stage should stay, a booking that is on the road, completed or cancelled should not be in
preparation, and a rental should only be active while the booking is on the road or coming back.

The transitions keep this by themselves, up to a dispute in the middle of a rental.  Of the
operations only `startPreparation` looks at the stage, and none at the status when it writes: a
completed booking is cleaned again (`completed_stage_changed`), `executeReturn` puts the stage back
before it checks anything, and a call that has read in time may write when it is over.  Nothing else
goes wrong (`stage_agreement_iff`).
-/

/-! ## The law -/

namespace FulfillmentStage

def isFinal (stage : FulfillmentStage) : Bool :=
  stage = .completed ∨ stage = .cancelled

/-- From `PREPARATION_IN_PROGRESS` through `CUSTOMER_CHECKED_IN`. -/
def isPreparation : FulfillmentStage → Bool
  | .preparationInProgress | .cleaningCompleted | .inspectionCompleted | .readyForPickup
  | .customerCheckedIn => true
  | _ => false

end FulfillmentStage

structure StageAgrees (status : BookingStatus) (stage : FulfillmentStage) : Prop where
  preparation : stage.isPreparation = true →
    status ≠ .ongoing ∧ status ≠ .completed ∧ status ≠ .cancelled
  active : stage = .activeRental → status = .ongoing ∨ status = .returnPending

def StageAgreement (s : FulfilledBooking) : Prop := ∀ stage ∈ s.stage, StageAgrees s.status stage

def FinalStays (s : FulfilledBooking) (action : StageAction) : Prop :=
  ∀ stage ∈ s.stage, stage.isFinal = true → (stageStep s action).stage = some stage

/-! ## The condition -/

def WriteInStep (s : FulfilledBooking) (stage : FulfillmentStage) : Prop :=
  if stage.isPreparation then
    s.status ≠ .ongoing ∧ s.status ≠ .completed ∧ s.status ≠ .cancelled ∧ s.stage ≠ some .cancelled
  else if stage = .activeRental then s.status = .ongoing ∨ s.status = .returnPending
  else if stage = .completed then True
  else ∀ old ∈ s.stage, old.isFinal = false

/-- Stages are written in step, and no dispute is opened while the rental is active. -/
def StageInStep (s : FulfilledBooking) : StageAction → Prop
  | .advance call => call ∈ s.calls →
      match call with
      | .write stage :: _ => WriteInStep s stage
      | .commit target read :: _ =>
        s.status = read → target = .disputed → s.stage ≠ some .activeRental
      | _ => True
  | _ => True

/-! ## The invariant -/

/-- A call writes no final stage but `COMPLETED`, and that only once it knows the booking to be
completed; it commits what the matrix allows. -/
def Guarded : Prop → List FulfillmentStep → Prop
  | _, [] => True
  | isCompleted, .write stage :: rest =>
    (stage.isFinal = true → stage = .completed ∧ isCompleted) ∧ Guarded isCompleted rest
  | _, .transition target :: rest => Guarded (target = .completed) rest
  | _, .commit target read :: rest =>
    target ∈ lifecycleMatrix read ∧ Guarded (target = .completed) rest
  | isCompleted, .ensureRecord _ :: rest => Guarded isCompleted rest
  | isCompleted, .readReady :: rest => Guarded isCompleted rest
  | isCompleted, .require _ :: rest => Guarded isCompleted rest

structure StagesSound (s : FulfilledBooking) : Prop where
  completed : s.stage = some .completed → s.status = .completed
  cancelled : s.stage = some .cancelled → s.status = .cancelled ∨ s.status = .expired
  calls : ∀ call ∈ s.calls, Guarded (s.status = .completed) call

section Guards

variable {isCompleted isCompleted' : Prop}

theorem Guarded.mono {call : List FulfillmentStep} (himp : isCompleted → isCompleted')
    (h : Guarded isCompleted call) : Guarded isCompleted' call := by
  induction call with
  | nil => trivial
  | cons step rest ih =>
    cases step with
    | write stage => exact ⟨fun hfinal => (h.1 hfinal).imp_right himp, ih h.2⟩
    | transition target => exact h
    | commit target read => exact h
    | ensureRecord refused => exact ih h
    | readReady => exact ih h
    | require statuses => exact ih h

theorem Guarded.append_transition {call : List FulfillmentStep} (target : BookingStatus)
    (h : Guarded isCompleted call) : Guarded isCompleted (call ++ [.transition target]) := by
  induction call generalizing isCompleted with
  | nil => trivial
  | cons step rest ih =>
    cases step with
    | write stage => exact ⟨h.1, ih h.2⟩
    | transition target => exact ih h
    | commit target read => exact ⟨h.1, ih h.2⟩
    | ensureRecord refused => exact ih h
    | readReady => exact ih h
    | require statuses => exact ih h

theorem guarded_steps (operation : FulfillmentOperation) : Guarded isCompleted operation.steps := by
  cases operation <;>
    simp [FulfillmentOperation.steps, Guarded, FulfillmentStage.isFinal]

end Guards

section Steps

variable {s : FulfilledBooking} {call rest : List FulfillmentStep}

variable {target status : BookingStatus}

theorem not_final_of_mem_matrix (h : target ∈ lifecycleMatrix status) :
    status ≠ .completed ∧ status ≠ .cancelled ∧ status ≠ .expired := by
  refine ⟨?_, ?_, ?_⟩
  all_goals
    rintro rfl
    exact absurd h List.not_mem_nil

variable {stage : Option FulfillmentStage}

theorem eq_completed_of_stageAfter (hleft : stage ≠ some .completed)
    (h : stageAfter target stage = some .completed) : target = .completed := by
  cases target <;> simp_all [stageAfter]

theorem eq_cancelled_of_stageAfter (hleft : stage ≠ some .cancelled)
    (h : stageAfter target stage = some .cancelled) : target = .cancelled ∨ target = .expired := by
  cases target <;> simp_all [stageAfter]

theorem StagesSound.isFinal_eq_false (h : StagesSound s)
    (hstatus : s.status ≠ .completed ∧ s.status ≠ .cancelled ∧ s.status ≠ .expired) :
    ∀ stage ∈ s.stage, stage.isFinal = false := by
  intro stage hstage
  by_contra hfinal
  rcases of_decide_eq_true (Bool.eq_true_of_not_eq_false hfinal) with rfl | rfl
  · exact hstatus.1 (h.completed hstage)
  · exact (h.cancelled hstage).elim hstatus.2.1 hstatus.2.2

/-! ### The invariant is kept -/

theorem StagesSound.of_calls (h : StagesSound s) {s' : FulfilledBooking}
    (hcompleted : s'.stage = some .completed → s'.status = .completed)
    (hcancelled : s'.stage = some .cancelled → s'.status = .cancelled ∨ s'.status = .expired)
    (hstays : s.status = .completed → s'.status = .completed)
    (hcalls : ∀ other ∈ s'.calls, other ∈ s.calls ∨ Guarded (s'.status = .completed) other) :
    StagesSound s' := by
  refine ⟨hcompleted, hcancelled, fun other hother => ?_⟩
  exact (hcalls other hother).elim (fun hold => (h.calls other hold).mono hstays) id

theorem stagesSound_advance (h : StagesSound s) (hcall : call ∈ s.calls) :
    StagesSound ({ s with calls := s.calls.erase call }.advance call) := by
  have hguarded := h.calls call hcall
  have hold : ∀ other ∈ s.calls.erase call, other ∈ s.calls := fun other hother =>
    List.mem_of_mem_erase hother
  have hdone : StagesSound { s with calls := s.calls.erase call } :=
    h.of_calls h.completed h.cancelled id fun other hother => .inl (hold other hother)
  have hgoOn : ∀ rest, Guarded (s.status = .completed) rest →
      StagesSound ({ s with calls := s.calls.erase call }.goOn rest) := by
    intro rest hrest
    refine h.of_calls h.completed h.cancelled id fun other hother => ?_
    rcases List.mem_cons.mp hother with rfl | hother
    · exact .inr hrest
    · exact .inl (hold other hother)
  cases call with
  | nil => exact hdone
  | cons step rest =>
  cases step with
  | ensureRecord refused =>
    have hcompleted : some s.ensured = some .completed → s.status = .completed := by
      intro hstage
      cases hs : s.stage with
      | none => simp [FulfilledBooking.ensured, hs] at hstage
      | some stage => exact h.completed (by simpa [FulfilledBooking.ensured, hs] using hstage)
    have hcancelled : some s.ensured = some .cancelled →
        s.status = .cancelled ∨ s.status = .expired := by
      intro hstage
      cases hs : s.stage with
      | none => simp [FulfilledBooking.ensured, hs] at hstage
      | some stage => exact h.cancelled (by simpa [FulfilledBooking.ensured, hs] using hstage)
    simp only [FulfilledBooking.advance]
    split_ifs
    · exact h.of_calls hcompleted hcancelled id fun other hother => .inl (hold other hother)
    · refine h.of_calls hcompleted hcancelled id fun other hother => ?_
      rcases List.mem_cons.mp hother with rfl | hother
      · exact .inr hguarded
      · exact .inl (hold other hother)
  | readReady =>
    simp only [FulfilledBooking.advance]
    split_ifs
    · exact hgoOn _ (Guarded.append_transition _ hguarded)
    · exact hgoOn _ hguarded
  | require statuses =>
    simp only [FulfilledBooking.advance]
    split_ifs
    · exact hgoOn _ hguarded
    · exact hdone
  | write stage =>
    refine h.of_calls (fun hstage => ?_) (fun hstage => ?_) id fun other hother => ?_
    · exact (hguarded.1 (by rw [Option.some_inj.mp hstage]; rfl)).2
    · have hwritten := (hguarded.1 (by rw [Option.some_inj.mp hstage]; rfl)).1
      rw [Option.some_inj.mp hstage] at hwritten
      cases hwritten
    · rcases List.mem_cons.mp hother with rfl | hother
      · exact .inr hguarded.2
      · exact .inl (hold other hother)
  | transition target =>
    simp only [FulfilledBooking.advance]
    split_ifs with hthere hallowed
    · exact hgoOn _ (hthere ▸ hguarded)
    · exact hgoOn _ ⟨hallowed, hguarded⟩
    · exact hdone
  | commit target read =>
    simp only [FulfilledBooking.advance]
    split_ifs with hread
    swap
    · exact hdone
    have hleft := not_final_of_mem_matrix (hread ▸ hguarded.1)
    have hstage := h.isFinal_eq_false hleft
    refine h.of_calls (fun hnow => ?_) (fun hnow => ?_) (fun hwas => absurd hwas hleft.1)
      fun other hother => ?_
    · change stageAfter target s.stage = some .completed at hnow
      refine eq_completed_of_stageAfter (fun hwas => ?_) hnow
      have hopen := hstage _ hwas
      cases hopen
    · change stageAfter target s.stage = some .cancelled at hnow
      refine eq_cancelled_of_stageAfter (fun hwas => ?_) hnow
      have hopen := hstage _ hwas
      cases hopen
    · rcases List.mem_cons.mp hother with rfl | hother
      · exact .inr hguarded.2
      · exact .inl (hold other hother)

theorem stagesSound_of_step (s : FulfilledBooking) (action : StageAction) (h : StagesSound s) :
    StagesSound (stageStep s action) := by
  cases action with
  | start operation =>
    refine h.of_calls h.completed h.cancelled id fun other hother => ?_
    rcases List.mem_cons.mp hother with rfl | hother
    · exact .inr (guarded_steps operation)
    · exact .inl hother
  | advance call =>
    simp only [stageStep]
    split_ifs with hcall
    · exact stagesSound_advance h hcall
    · exact h
  | fail call =>
    exact h.of_calls h.completed h.cancelled id fun other hother =>
      .inl (List.mem_of_mem_erase hother)

/-! ### Exactly when a step keeps the law -/

theorem write_inStep_iff (h : StagesSound s) {stage : FulfillmentStage}
    (hguarded : stage.isFinal = true → stage = .completed ∧ s.status = .completed) :
    (StageAgrees s.status stage ∧ ∀ old ∈ s.stage, old.isFinal = true → stage = old) ↔
      WriteInStep s stage := by
  have hnotFinal : stage.isFinal = false →
      ((∀ old ∈ s.stage, old.isFinal = true → stage = old) ↔
        ∀ old ∈ s.stage, old.isFinal = false) := by
    intro hstage
    refine forall₂_congr fun old _ => ⟨fun hstays => ?_, fun hold hfinal => ?_⟩
    · by_contra hfinal
      have hsame := hstays (Bool.eq_true_of_not_eq_false hfinal)
      exact hfinal (hsame ▸ hstage)
    · rw [hold] at hfinal
      cases hfinal
  unfold WriteInStep
  split_ifs with hpreparation hactive hcompleted
  · have hstage : stage.isFinal = false := by
      revert hpreparation
      cases stage <;> decide
    rw [hnotFinal hstage]
    constructor
    · rintro ⟨hagrees, hold⟩
      obtain ⟨hongoing, hdone, hcancelled⟩ := hagrees.preparation hpreparation
      refine ⟨hongoing, hdone, hcancelled, fun hstage => ?_⟩
      have := hold .cancelled hstage
      cases this
    · rintro ⟨hongoing, hdone, hcancelled, hstage⟩
      refine ⟨⟨fun _ => ⟨hongoing, hdone, hcancelled⟩, fun hboth => ?_⟩, fun old hold => ?_⟩
      · rw [hboth] at hpreparation
        cases hpreparation
      · by_contra hfinal
        rcases of_decide_eq_true (Bool.eq_true_of_not_eq_false hfinal) with rfl | rfl
        · exact hdone (h.completed hold)
        · exact hstage hold
  · subst hactive
    rw [hnotFinal rfl]
    refine ⟨fun hboth => hboth.1.active rfl, fun hstatus => ⟨⟨nofun, fun _ => hstatus⟩, ?_⟩⟩
    refine h.isFinal_eq_false ?_
    rcases hstatus with hstatus | hstatus
    · rw [hstatus]
      decide
    · rw [hstatus]
      decide
  · subst hcompleted
    have hstatus := (hguarded rfl).2
    refine iff_of_true ⟨⟨nofun, nofun⟩, fun old hold hfinal => ?_⟩ trivial
    rcases of_decide_eq_true hfinal with rfl | rfl
    · rfl
    · have hcancelled := h.cancelled hold
      rw [hstatus] at hcancelled
      exact absurd hcancelled (by decide)
  · have hstage : stage.isFinal = false :=
      Bool.eq_false_of_not_eq_true fun hfinal => hcompleted (hguarded hfinal).1
    rw [hnotFinal hstage]
    exact and_iff_right ⟨fun hboth => absurd hboth hpreparation, fun hboth => absurd hboth hactive⟩

theorem agrees_of_map {old : Option FulfillmentStage} {written : FulfillmentStage}
    (h : StageAgrees status written) :
    ∀ stage ∈ old.map fun _ => written, StageAgrees status stage := by
  intro stage hstage
  obtain ⟨_, -, rfl⟩ := Option.map_eq_some_iff.mp hstage
  exact h

theorem agrees_commit_iff (hallowed : target ∈ lifecycleMatrix status)
    (h : ∀ old ∈ stage, StageAgrees status old) :
    (∀ new ∈ stageAfter target stage, StageAgrees target new) ↔
      (target = .disputed → stage ≠ some .activeRental) := by
  have hactive : status ≠ .ongoing ∧ status ≠ .returnPending → stage ≠ some .activeRental :=
    fun hstatus hstage => ((h _ hstage).active rfl).elim hstatus.1 hstatus.2
  have hkept : (target ≠ .ongoing ∧ target ≠ .completed ∧ target ≠ .cancelled) →
      stage ≠ some .activeRental → ∀ new ∈ stage, StageAgrees target new := by
    refine fun htarget hstage new hnew => ⟨fun _ => htarget, fun hboth => ?_⟩
    exact absurd (hboth ▸ hnew) hstage
  cases target with
  | confirmed => exact iff_of_true (by rintro _ ⟨⟩; exact ⟨nofun, nofun⟩) nofun
  | handoverReady => exact iff_of_true (agrees_of_map ⟨by decide, nofun⟩) nofun
  | ongoing => exact iff_of_true (agrees_of_map ⟨nofun, fun _ => .inl rfl⟩) nofun
  | completed => exact iff_of_true (agrees_of_map ⟨nofun, nofun⟩) nofun
  | cancelled => exact iff_of_true (agrees_of_map ⟨nofun, nofun⟩) nofun
  | expired => exact iff_of_true (agrees_of_map ⟨nofun, nofun⟩) nofun
  | pending => cases status <;> simp [lifecycleMatrix] at hallowed
  | returnPending =>
    refine iff_of_true (fun new hnew => ⟨fun _ => by decide, fun _ => .inr rfl⟩) nofun
  | refundPending =>
    refine iff_of_true (hkept (by decide) (hactive ?_)) nofun
    cases status <;> simp [lifecycleMatrix] at hallowed ⊢
  | refunded =>
    refine iff_of_true (hkept (by decide) (hactive ?_)) nofun
    cases status <;> simp [lifecycleMatrix] at hallowed ⊢
  | disputed =>
    rw [forall_prop_of_true rfl]
    refine ⟨fun hagrees hstage => ?_, hkept (by decide)⟩
    exact absurd ((hagrees _ hstage).active rfl) (by decide)

theorem advance_inStep_iff (h : StagesSound s) (hagrees : StageAgreement s)
    (hcall : call ∈ s.calls) :
    StageAgreement ({ s with calls := s.calls.erase call }.advance call) ∧
        (∀ stage ∈ s.stage, stage.isFinal = true →
          ({ s with calls := s.calls.erase call }.advance call).stage = some stage) ↔
      StageInStep s (.advance call) := by
  have hguarded := h.calls call hcall
  have hsame : ∀ s' : FulfilledBooking, s'.status = s.status → s'.stage = s.stage →
      (StageAgreement s' ∧ ∀ stage ∈ s.stage, stage.isFinal = true → s'.stage = some stage) := by
    intro s' hstatus hstage
    refine ⟨?_, fun stage hold _ => hstage.trans hold⟩
    rw [StageAgreement, hstatus, hstage]
    exact hagrees
  cases call with
  | nil => exact iff_of_true (hsame _ rfl rfl) fun _ => trivial
  | cons step rest =>
  cases step with
  | ensureRecord refused =>
    refine iff_of_true ?_ fun _ => trivial
    have hrecord : StageAgrees s.status s.ensured ∧
        ∀ stage ∈ s.stage, stage.isFinal = true → some s.ensured = some stage := by
      rw [FulfilledBooking.ensured]
      cases hs : s.stage with
      | none => exact ⟨⟨nofun, nofun⟩, nofun⟩
      | some stage => exact ⟨hagrees stage hs, fun other hother _ => hother⟩
    simp only [FulfilledBooking.advance]
    split_ifs
    · exact ⟨by rintro _ ⟨⟩; exact hrecord.1, hrecord.2⟩
    · exact ⟨by rintro _ ⟨⟩; exact hrecord.1, hrecord.2⟩
  | readReady =>
    refine iff_of_true ?_ fun _ => trivial
    exact hsame _ rfl rfl
  | require statuses =>
    refine iff_of_true ?_ fun _ => trivial
    simp only [FulfilledBooking.advance]
    split_ifs
    · exact hsame _ rfl rfl
    · exact hsame _ rfl rfl
  | write stage =>
    have hcondition : StageInStep s (.advance (.write stage :: rest)) ↔ WriteInStep s stage :=
      forall_prop_of_true hcall
    rw [hcondition, ← write_inStep_iff h hguarded.1]
    simp only [FulfilledBooking.advance, StageAgreement, FulfilledBooking.goOn, Option.mem_def,
      Option.some.injEq, forall_eq']
  | transition target =>
    refine iff_of_true ?_ fun _ => trivial
    simp only [FulfilledBooking.advance]
    split_ifs
    · exact hsame _ rfl rfl
    · exact hsame _ rfl rfl
    · exact hsame _ rfl rfl
  | commit target read =>
    have hcondition : StageInStep s (.advance (.commit target read :: rest)) ↔
        (s.status = read → target = .disputed → s.stage ≠ some .activeRental) :=
      forall_prop_of_true hcall
    rw [hcondition]
    simp only [FulfilledBooking.advance]
    by_cases hread : s.status = read
    · rw [if_pos hread, forall_prop_of_true hread,
        ← agrees_commit_iff (hread ▸ hguarded.1) hagrees]
      refine and_iff_left fun stage hstage hfinal => ?_
      have hleft := h.isFinal_eq_false (not_final_of_mem_matrix (hread ▸ hguarded.1)) stage hstage
      rw [hleft] at hfinal
      cases hfinal
    · rw [if_neg hread]
      exact iff_of_true (hsame _ rfl rfl) fun hboth => absurd hboth hread

theorem step_inStep_iff (s : FulfilledBooking) (action : StageAction) (h : StagesSound s)
    (hagrees : StageAgreement s) :
    StageAgreement (stageStep s action) ∧ FinalStays s action ↔ StageInStep s action := by
  cases action with
  | start operation => exact iff_of_true ⟨hagrees, fun _ hstage _ => hstage⟩ trivial
  | fail call => exact iff_of_true ⟨hagrees, fun _ hstage _ => hstage⟩ trivial
  | advance call =>
    unfold FinalStays
    simp only [stageStep]
    split_ifs with hcall
    · exact advance_inStep_iff h hagrees hcall
    · exact iff_of_true ⟨hagrees, fun _ hstage _ => hstage⟩ fun hboth => absurd hboth hcall

end Steps

/-! ## Runs -/

/-- In a run the stage agrees with the status in every state and a final stage stays exactly if the
stages are written in step with the booking. -/
theorem stage_agreement_iff (status : BookingStatus) (allocated : Bool)
    (actions : List StageAction) :
    Everywhere stageStep StageAgreement (.opened status allocated) actions ∧
        Along stageStep FinalStays (.opened status allocated) actions ↔
      Along stageStep StageInStep (.opened status allocated) actions := by
  have hstage : ∀ stage ∈ (FulfilledBooking.opened status allocated).stage, stage = .allocated := by
    cases allocated with
    | false => exact fun _ h => absurd h (Option.not_mem_none _)
    | true => exact fun _ h => (Option.some_inj.mp h).symm
  refine everywhere_and_along_iff stagesSound_of_step
    (fun s action _ => step_inStep_iff s action) ⟨fun h => ?_, fun h => ?_, ?_⟩ fun stage h => ?_
  · cases hstage _ h
  · cases hstage _ h
  · exact fun _ h => absurd h List.not_mem_nil
  · rw [hstage stage h]
    exact ⟨nofun, nofun⟩

/-- A trip that is over, and a car that is marked as cleaned once more. -/
def cleanedAfterTrip : List StageAction :=
  [.start (.executeTransition .ongoing), .advance [.transition .ongoing],
    .advance [.commit .ongoing .confirmed], .start (.executeTransition .completed),
    .advance [.transition .completed], .advance [.commit .completed .ongoing],
    .start .markCleaned, .advance [.ensureRecord [], .write .cleaningCompleted],
    .advance [.write .cleaningCompleted]]

/-- The completed fulfillment of a completed booking is in preparation again. -/
theorem completed_stage_changed :
    ¬ (Everywhere stageStep StageAgreement (.opened .confirmed true) cleanedAfterTrip ∧
      Along stageStep FinalStays (.opened .confirmed true) cleanedAfterTrip) := by
  rintro ⟨-, -, -, -, -, -, -, -, -, hcleaned, -⟩
  have hstays := hcleaned .completed (by decide +kernel) rfl
  revert hstays
  decide +kernel

end CarRental
