import CarRental.Fleet.FleetLifecycle
import CarRental.Lib.Runs

/-!
# The flag and the inspection

A vehicle's flag in the database should say `AVAILABLE` exactly when `getVehicleState` does,
whenever no write of it is under way; and a vehicle that was on rent should not be `AVAILABLE`
again before its inspection.

The flag is lost when its write fails, or when the writes of two transitions overtake each other,
and the state when a row that was read early is kept late.  The inspection is missed on the edges
of `shortcutSources`: the heartbeat of a vehicle on rent is lost and restored, or it is damaged
and repaired.  It is missed too when a call acts on a state that is gone (`StepFits`).

## Strategy

A vehicle that owes an inspection is in none of the `inspectedStates`.  From the other states
every edge into these leads to the inspection, or is one of the shortcuts
(`edge_to_inspected`), so the invariant `Kept` survives every step that fits.
-/

namespace CarRental

open Runs FleetOperationalState

/-! ## The matrix -/

/-- The states from which a rental starts, and the inspection. -/
def inspectedStates : List FleetOperationalState :=
  [.available, .reserved, .pickupPending, .inspection]

/-- The states that a vehicle which owes an inspection can reach, and leave for `AVAILABLE`. -/
def shortcutSources : List FleetOperationalState :=
  [.active, .cleaning, .maintenance, .complianceBlocked, .gpsOffline, .inactive]

theorem edge_to_inspected {fromState toState : FleetOperationalState}
    (hedge : toState ∈ fromState.allowedTransitions) (hfrom : fromState ∉ inspectedStates)
    (hto : toState ∈ inspectedStates) :
    toState = .inspection ∨ toState = .available ∧ fromState ∈ shortcutSources := by
  have hall : ∀ toState ∈ fromState.allowedTransitions, fromState ∉ inspectedStates →
      toState ∈ inspectedStates →
        toState = .inspection ∨ toState = .available ∧ fromState ∈ shortcutSources := by
    cases fromState <;> decide
  exact hall toState hedge hfrom hto

theorem mem_allowedTransitions_of_check {request : TransitionRequest} {carId : Id}
    {currentState : FleetOperationalState} (hne : currentState ≠ request.targetState)
    (h : request.check carId currentState = .ok ()) :
    request.targetState ∈ currentState.allowedTransitions := by
  unfold TransitionRequest.check at h
  split at h
  · cases h
  next hvalid =>
    simp only [Bool.not_eq_false] at hvalid
    simpa [isValidTransition, hne] using hvalid

namespace FleetLifecycle

variable {s s' : FleetLifecycle} {carId : Id}

/-! ## The law -/

structure Lawful (s : FleetLifecycle) : Prop where
  flag : ∀ carId, ∀ car ∈ s.cars carId, s.writing carId = false →
    (car.isAvailable = true ↔ s.report carId = some .available)
  inspected : ∀ carId, s.owesInspection carId = true → s.report carId ≠ some .available

/-- What every step that fits keeps, for one vehicle. -/
structure KeptFor (s : FleetLifecycle) (carId : Id) : Prop where
  flag : ∀ car ∈ s.cars carId, s.writing carId = false →
    (car.isAvailable = true ↔ s.report carId = some .available)
  owing : s.owesInspection carId = true →
    ∀ state ∈ s.report carId, state ∉ inspectedStates
  known : s.writing carId = true → s.vehicleStates carId ≠ none

def Kept (s : FleetLifecycle) : Prop := ∀ carId, s.KeptFor carId

theorem Kept.lawful (h : s.Kept) : s.Lawful := by
  apply Lawful.mk
  · intro carId
    exact (h carId).flag
  · intro carId howes havailable
    exact (h carId).owing howes _ havailable (by decide)

theorem report_congr (hcars : s'.cars carId = s.cars carId)
    (hstates : s'.vehicleStates carId = s.vehicleStates carId) :
    s'.report carId = s.report carId := by
  rw [report, report, hcars, hstates]

theorem KeptFor.congr (h : s.KeptFor carId) (hcars : s'.cars carId = s.cars carId)
    (hstates : s'.vehicleStates carId = s.vehicleStates carId)
    (howes : s'.owesInspection carId = s.owesInspection carId)
    (hwriting : s'.writing carId = s.writing carId) : s'.KeptFor carId := by
  have hreport := report_congr hcars hstates
  apply KeptFor.mk
  · rw [hcars, hreport, hwriting]
    exact h.flag
  · rw [howes, hreport]
    exact h.owing
  · rw [hwriting, hstates]
    exact h.known

theorem keptFor_of_unknown (hstates : s.vehicleStates carId = none)
    (hquiet : s.writing carId = false)
    (howes : s.owesInspection carId = true → ∀ car ∈ s.cars carId, car.isAvailable = false) :
    s.KeptFor carId := by
  have hreport : s.report carId = (s.cars carId).map TrackedCar.mapped := by
    rw [report, hstates]
  apply KeptFor.mk
  · intro car hcar _
    rw [hreport, Option.mem_def.mp hcar]
    cases hflag : car.isAvailable <;> simp [TrackedCar.mapped, hflag]
  · intro h state hstate
    rw [hreport] at hstate
    obtain ⟨car, hcar, rfl⟩ := Option.mem_map.mp hstate
    rw [TrackedCar.mapped, howes h car hcar]
    decide
  · intro hwriting
    rw [hquiet] at hwriting
    cases hwriting

/-! ## Calls under way -/

section Calls

variable {i : ℕ} {call call' : LifecycleCall}

theorem writing_addCall (hcall : call.writes carId = false) :
    (s.addCall call).writing carId = s.writing carId := by
  simp [writing, addCall, hcall]

theorem any_around {α : Type} {a : α} (p : α → Bool) (as : List α) (hi : as[i]? = some a)
    (ha : p a = false) : as.any p = ((as.take i).any p || (as.drop (i + 1)).any p) := by
  obtain ⟨hlt, rfl⟩ := List.getElem?_eq_some_iff.mp hi
  calc as.any p = (as.take i ++ as.drop i).any p := by rw [List.take_append_drop]
    _ = ((as.take i).any p || (as.drop (i + 1)).any p) := by
      rw [List.any_append, List.drop_eq_getElem_cons hlt, List.any_cons, ha, Bool.false_or]

theorem writing_setCall (hi : s.calls[i]? = some call) (hcall : call.writes carId = false)
    (hcall' : call'.writes carId = false) :
    (s.setCall i call').writing carId = s.writing carId := by
  have hlt := (List.getElem?_eq_some_iff.mp hi).1
  show (s.calls.set i call').any _ = s.calls.any _
  rw [any_around _ s.calls hi hcall, List.set_eq_take_append_cons_drop, if_pos hlt]
  simp [hcall']

theorem writing_endCall (hi : s.calls[i]? = some call) (hcall : call.writes carId = false) :
    (s.endCall i).writing carId = s.writing carId := by
  show (s.calls.eraseIdx i).any _ = s.calls.any _
  rw [any_around _ s.calls hi hcall, List.eraseIdx_eq_take_drop_succ, List.any_append]

theorem writing_of_setCall (hi : s.calls[i]? = some call) (hcall' : call'.writes carId = true) :
    (s.setCall i call').writing carId = true := by
  have hlt := (List.getElem?_eq_some_iff.mp hi).1
  exact List.any_eq_true.mpr ⟨call', List.mem_set hlt call', hcall'⟩

theorem KeptFor.state_of_write (h : s.KeptFor carId) {request : TransitionRequest}
    {fromState : FleetOperationalState}
    (hi : s.calls[i]? = some (.writing carId request fromState)) :
    ∃ state, s.vehicleStates carId = some state ∧ s.report carId = some state := by
  have hwriting : s.writing carId = true := by
    apply List.any_eq_true.mpr
    exact ⟨_, List.mem_of_getElem? hi, by simp [LifecycleCall.writes]⟩
  obtain ⟨state, hstate⟩ := Option.ne_none_iff_exists'.mp (h.known hwriting)
  refine ⟨state, hstate, ?_⟩
  rw [report, hstate]

end Calls

/-! ## Steps that fit -/

/-- The call goes on to set its state. -/
def Admits (request : TransitionRequest) (carId : Id) (currentState : FleetOperationalState) :
    Prop :=
  currentState ≠ request.targetState ∧ request.check carId currentState = .ok ()

/-- A vehicle that owes an inspection takes no shortcut to `AVAILABLE`, and a call that was told
a state which it no longer has does not make it rentable again. -/
def TransitionFits (s : FleetLifecycle) (carId : Id) (request : TransitionRequest)
    (currentState : FleetOperationalState) : Prop :=
  s.owesInspection carId = true → Admits request carId currentState →
    (currentState ∈ shortcutSources → request.targetState ≠ .available) ∧
      (s.vehicleStates carId ≠ some currentState →
        request.targetState ∉ [.available, .reserved, .pickupPending])

/-- A row that is kept still says what was read, and does not say that a vehicle may be rented
which owes an inspection. -/
def RowFits (s : FleetLifecycle) (carId : Id) (isAvailable : Bool) : Prop :=
  (s.owesInspection carId = true → isAvailable = false) ∧
    (s.writing carId = false → ∀ car ∈ s.cars carId, car.isAvailable = isAvailable)

/-- The last write of a vehicle to commit is one of the availability that is reported, and one
that fails would have changed nothing. -/
def WriteFits (s : FleetLifecycle) (i : ℕ) (carId : Id) (request : TransitionRequest)
    (commits : Bool) : Prop :=
  (s.endCall i).writing carId = false → ∀ car ∈ s.cars carId,
    ((if commits then request.targetState = .available else car.isAvailable = true) ↔
      s.report carId = some .available)

/-- What a step has to meet. -/
def StepFits (s : FleetLifecycle) : LifecycleAction → Prop
  | .keepState i =>
    ∀ carId request isAvailable, s.calls[i]? = some (.found carId request isAvailable) →
      s.RowFits carId isAvailable
  | .applyTransition i =>
    ∀ carId request currentState, s.calls[i]? = some (.known carId request currentState) →
      s.TransitionFits carId request currentState
  | .finishWrite i commits _ =>
    ∀ carId request fromState, s.calls[i]? = some (.writing carId request fromState) →
      s.WriteFits i carId request commits
  | .restart =>
    ∀ carId, s.owesInspection carId = true → ∀ car ∈ s.cars carId, car.isAvailable = false
  | .getVehicleState _ | .transitionState _ _ | .readRow _ | .failRead _ => True

/-! ### The steps that change no vehicle -/

theorem Kept.begin (h : s.Kept) (carId : Id) (request : Option TransitionRequest) :
    (s.begin carId request).Kept := by
  intro other
  unfold FleetLifecycle.begin
  split
  · exact h other
  · exact (h other).congr rfl rfl rfl (writing_addCall rfl)
  · exact (h other).congr rfl rfl rfl (writing_addCall rfl)

theorem Kept.readRow (h : s.Kept) (i : ℕ) : (s.readRow i).Kept := by
  intro other
  unfold FleetLifecycle.readRow
  split
  next hi =>
    split
    · exact (h other).congr rfl rfl rfl (writing_setCall hi rfl rfl)
    · exact (h other).congr rfl rfl rfl (writing_endCall hi rfl)
  · exact h other

theorem Kept.failRead (h : s.Kept) (i : ℕ) : (s.failRead i).Kept := by
  intro other
  unfold FleetLifecycle.failRead
  split
  next hi => exact (h other).congr rfl rfl rfl (writing_endCall hi rfl)
  · exact h other

/-! ### The steps that change one -/

theorem keptFor_of_state {state : FleetOperationalState}
    (hstates : s.vehicleStates carId = some state)
    (hflag : s.writing carId = false → ∀ car ∈ s.cars carId,
      (car.isAvailable = true ↔ state = .available))
    (howing : s.owesInspection carId = true → state ∉ inspectedStates) : s.KeptFor carId := by
  have hreport : s.report carId = some state := by rw [report, hstates]
  apply KeptFor.mk
  · intro car hcar hquiet
    rw [hreport, hflag hquiet car hcar, Option.some.injEq]
  · intro howes reported hreported
    rw [hreport] at hreported
    cases hreported
    exact howing howes
  · rw [hstates]
    exact fun _ => Option.some_ne_none state

theorem writeFlag_cars (s : FleetLifecycle) (carId : Id) (request : TransitionRequest) (now : ℤ) :
    (s.writeFlag carId request now).cars carId = (s.cars carId).map (request.writeRow now) :=
  Function.update_self ..

theorem KeptFor.of_ne {other : Id} (h : s.KeptFor other) {state : Option FleetOperationalState}
    (hne : other ≠ carId) (hcars : s'.cars other = s.cars other)
    (hstates : s'.vehicleStates = Function.update s.vehicleStates carId state)
    (howes : s'.owesInspection other = s.owesInspection other)
    (hwriting : s'.writing other = s.writing other) : s'.KeptFor other := by
  apply h.congr hcars _ howes hwriting
  rw [hstates, Function.update_of_ne hne]

theorem Kept.keepState (h : s.Kept) {i : ℕ} (hfits : s.StepFits (.keepState i)) :
    (s.keepState i).Kept := by
  intro other
  unfold FleetLifecycle.keepState
  split
  next carId request isAvailable hi =>
    obtain ⟨howed, hrow⟩ := hfits carId request isAvailable hi
    have hkept : ∀ s' : FleetLifecycle, s'.cars = s.cars → s'.owesInspection = s.owesInspection →
        s'.vehicleStates = Function.update s.vehicleStates carId
          (some (if isAvailable then FleetOperationalState.available else .active)) →
        s'.writing other = s.writing other → s'.KeptFor other := by
      intro s' hcars howes hstates hwriting
      by_cases hother : other = carId
      · subst hother
        apply keptFor_of_state (by rw [hstates, Function.update_self])
        · intro hquiet car hcar
          rw [hwriting] at hquiet
          rw [hcars] at hcar
          rw [hrow hquiet car hcar]
          cases isAvailable <;> decide
        · intro howing
          rw [howes] at howing
          rw [howed howing]
          decide
      · exact (h other).of_ne hother (by rw [hcars]) hstates (by rw [howes]) hwriting
    cases request with
    | none => exact hkept _ rfl rfl rfl (writing_endCall hi rfl)
    | some request => exact hkept _ rfl rfl rfl (writing_setCall hi rfl rfl)
  · exact h other

theorem not_mem_inspectedStates (h : s.KeptFor carId) {request : TransitionRequest}
    {currentState : FleetOperationalState} (hadmits : Admits request carId currentState)
    (hfits : s.TransitionFits carId request currentState)
    (howes : s.owesInspection carId = true) (hinspected : request.targetState ≠ .inspection) :
    request.targetState ∉ inspectedStates := by
  obtain ⟨hshortcut, hstale⟩ := hfits howes hadmits
  intro hmem
  by_cases hcurrent : s.vehicleStates carId = some currentState
  · have hreport : s.report carId = some currentState := by rw [report, hcurrent]
    have hfrom := h.owing howes currentState hreport
    have hedge := mem_allowedTransitions_of_check hadmits.1 hadmits.2
    rcases edge_to_inspected hedge hfrom hmem with hto | ⟨hto, hsource⟩
    · exact hinspected hto
    · exact hshortcut hsource hto
  · have hrental := hstale hcurrent
    simp only [inspectedStates, List.mem_cons, List.not_mem_nil, or_false] at hmem hrental
    tauto

theorem Kept.applyTransition (h : s.Kept) {i : ℕ} (hfits : s.StepFits (.applyTransition i)) :
    (s.applyTransition i).Kept := by
  intro other
  unfold FleetLifecycle.applyTransition
  split
  next carId request currentState hi =>
    split
    · exact (h other).congr rfl rfl rfl (writing_endCall hi rfl)
    next hne =>
      split
      · exact (h other).congr rfl rfl rfl (writing_endCall hi rfl)
      next hcheck =>
        by_cases hother : other = carId
        · subst hother
          have hwriting : ((s.applyState other request).setCall i
              (.writing other request currentState)).writing other = true := by
            apply writing_of_setCall hi
            simp [LifecycleCall.writes]
          apply keptFor_of_state (Function.update_self ..)
          · intro hquiet
            rw [hwriting] at hquiet
            cases hquiet
          · intro howes
            have howes' : request.targetState = .onRent ∨
                s.owesInspection other = true ∧ request.targetState ≠ .inspection := by
              simpa [applyState, setCall] using howes
            rcases howes' with hrent | ⟨howed, hinspected⟩
            · rw [hrent]
              decide
            · exact not_mem_inspectedStates (h other) ⟨hne, hcheck⟩
                (hfits other request currentState hi) howed hinspected
        · have hwriting : (s.setCall i (.writing carId request currentState)).writing other =
              s.writing other := by
            apply writing_setCall hi rfl
            simp [LifecycleCall.writes, Ne.symm hother]
          exact (h other).of_ne hother rfl rfl (Function.update_of_ne hother ..) hwriting
  · exact h other

theorem Kept.finishWrite (h : s.Kept) {i : ℕ} {commits : Bool} {now : ℤ}
    (hfits : s.StepFits (.finishWrite i commits now)) : (s.finishWrite i commits now).Kept := by
  intro other
  unfold FleetLifecycle.finishWrite
  split
  next carId request fromState hi =>
    have hwrite := hfits carId request fromState hi
    unfold WriteFits at hwrite
    by_cases hother : other = carId
    · subst hother
      obtain ⟨state, hstate, hreport⟩ := (h other).state_of_write hi
      rw [hreport] at hwrite
      cases commits with
      | true =>
        refine keptFor_of_state (by exact hstate) ?_ ?_
        · intro hquiet car hcar
          have hcar' : car ∈ (s.writeFlag other request now).cars other := hcar
          rw [writeFlag_cars, Option.mem_map] at hcar'
          obtain ⟨old, hold, rfl⟩ := hcar'
          simpa [TransitionRequest.writeRow] using hwrite hquiet old hold
        · intro howes
          exact (h other).owing howes state hreport
      | false =>
        refine keptFor_of_state (by exact hstate) ?_ ?_
        · intro hquiet car hcar
          simpa using hwrite hquiet car hcar
        · intro howes
          exact (h other).owing howes state hreport
    · have hquiet : (s.endCall i).writing other = s.writing other := by
        apply writing_endCall hi
        simp [LifecycleCall.writes, Ne.symm hother]
      cases commits with
      | true => exact (h other).congr (Function.update_of_ne hother ..) rfl rfl hquiet
      | false => exact (h other).congr rfl rfl rfl hquiet
  · exact h other

theorem Kept.restart (h : s.StepFits .restart) : s.restart.Kept := by
  intro carId
  apply keptFor_of_unknown rfl rfl
  exact h carId

theorem Kept.step (h : s.Kept) {action : LifecycleAction} (hfits : s.StepFits action) :
    (lifecycleStep s action).Kept := by
  cases action with
  | getVehicleState carId => exact h.begin carId none
  | transitionState carId request => exact h.begin carId (some request)
  | readRow i => exact h.readRow i
  | failRead i => exact h.failRead i
  | keepState i => exact h.keepState hfits
  | applyTransition i => exact h.applyTransition hfits
  | finishWrite i commits now => exact h.finishWrite hfits
  | restart => exact Kept.restart hfits

theorem kept_boot (cars : Id → Option TrackedCar) : (boot cars).Kept := by
  intro carId
  apply keptFor_of_unknown rfl rfl
  intro howes
  cases howes

/-! ## The converse -/

/-- The call that goes on was told the state that its vehicle still has. -/
def ActsOnCurrent (s : FleetLifecycle) : LifecycleAction → Prop
  | .applyTransition i =>
    ∀ carId request currentState, s.calls[i]? = some (.known carId request currentState) →
      s.vehicleStates carId = some currentState
  | .getVehicleState _ | .transitionState _ _ | .readRow _ | .failRead _ | .keepState _
  | .finishWrite _ _ _ | .restart => True

theorem rowFits_of_lawful {i : ℕ} (hlaw : (s.keepState i).Lawful) : s.StepFits (.keepState i) := by
  intro carId request isAvailable hi
  unfold FleetLifecycle.keepState at hlaw
  rw [hi] at hlaw
  dsimp only at hlaw
  have hrow : ∀ s' : FleetLifecycle, s'.Lawful → s'.cars = s.cars →
      s'.owesInspection = s.owesInspection →
      s'.vehicleStates carId = some (if isAvailable then .available else .active) →
      s'.writing carId = s.writing carId → s.RowFits carId isAvailable := by
    intro s' hlaw hcars howes hstates hwriting
    have hreport : s'.report carId = some (if isAvailable then .available else .active) := by
      rw [report, hstates]
    apply And.intro
    · intro howing
      have hinspected := hlaw.inspected carId (by rw [howes, howing])
      rw [hreport] at hinspected
      cases isAvailable with
      | true => exact absurd rfl hinspected
      | false => rfl
    · intro hquiet car hcar
      have hflag := hlaw.flag carId car (by rw [hcars]; exact hcar) (by rw [hwriting, hquiet])
      rw [hreport] at hflag
      cases isAvailable <;> simpa using hflag
  cases request with
  | none =>
    exact hrow _ hlaw rfl rfl (Function.update_self ..) (writing_endCall hi rfl)
  | some request =>
    exact hrow _ hlaw rfl rfl (Function.update_self ..) (writing_setCall hi rfl rfl)

theorem transitionFits_of_lawful {i : ℕ} (hcurrent : s.ActsOnCurrent (.applyTransition i))
    (hlaw : (s.applyTransition i).Lawful) : s.StepFits (.applyTransition i) := by
  intro carId request currentState hi howes hadmits
  obtain ⟨hne, hcheck⟩ := hadmits
  unfold FleetLifecycle.applyTransition at hlaw
  rw [hi] at hlaw
  dsimp only at hlaw
  rw [if_neg hne, hcheck] at hlaw
  dsimp only at hlaw
  apply And.intro
  · intro _ havailable
    apply hlaw.inspected carId
    · simp [applyState, setCall, howes, havailable]
    · rw [report]
      simp [applyState, setCall, setState, havailable]
  · intro hstale
    exact absurd (hcurrent carId request currentState hi) hstale

theorem writeFits_of_lawful (h : s.Kept) {i : ℕ} {commits : Bool} {now : ℤ}
    (hlaw : (s.finishWrite i commits now).Lawful) : s.StepFits (.finishWrite i commits now) := by
  intro carId request fromState hi hquiet car hcar
  obtain ⟨state, hstate, hreport⟩ := (h carId).state_of_write hi
  have hreport' : ∀ s' : FleetLifecycle, s'.vehicleStates carId = s.vehicleStates carId →
      s'.report carId = s.report carId := by
    intro s' hstates
    rw [report, hstates, hstate, hreport]
  unfold FleetLifecycle.finishWrite at hlaw
  rw [hi] at hlaw
  cases commits with
  | true =>
    have hrow : request.writeRow now car ∈ (s.writeFlag carId request now).cars carId := by
      rw [writeFlag_cars]
      exact Option.mem_map_of_mem _ hcar
    have hflag := hlaw.flag carId _ hrow hquiet
    rw [hreport' _ (by rfl)] at hflag
    simpa [TransitionRequest.writeRow] using hflag
  | false =>
    have hflag := hlaw.flag carId car hcar hquiet
    rw [hreport' _ (by rfl)] at hflag
    simpa using hflag

theorem restartFits_of_lawful (hlaw : s.restart.Lawful) : s.StepFits .restart := by
  intro carId howes car hcar
  have hinspected := hlaw.inspected carId howes
  have hreport : s.restart.report carId = some car.mapped := by
    show (s.cars carId).map TrackedCar.mapped = some car.mapped
    rw [Option.mem_def.mp hcar]
    rfl
  rw [hreport] at hinspected
  cases hflag : car.isAvailable with
  | true => simp [TrackedCar.mapped, hflag] at hinspected
  | false => rfl

theorem stepFits_of_lawful (h : s.Kept) {action : LifecycleAction}
    (hcurrent : s.ActsOnCurrent action) (hlaw : (lifecycleStep s action).Lawful) :
    s.StepFits action := by
  cases action with
  | getVehicleState carId => trivial
  | transitionState carId request => trivial
  | readRow i => trivial
  | failRead i => trivial
  | keepState i => exact rowFits_of_lawful hlaw
  | applyTransition i => exact transitionFits_of_lawful hcurrent hlaw
  | finishWrite i commits now => exact writeFits_of_lawful h hlaw
  | restart => exact restartFits_of_lawful hlaw

/-! ## Runs -/

/-- Where every step fits, the law holds in every state; and where it does, every step of a run
fits whose calls act on current states. -/
theorem lifecycle_lawful (cars : Id → Option TrackedCar) (actions : List LifecycleAction) :
    (Along lifecycleStep StepFits (boot cars) actions →
      Everywhere lifecycleStep Lawful (boot cars) actions) ∧
    (Along lifecycleStep ActsOnCurrent (boot cars) actions →
      Everywhere lifecycleStep Lawful (boot cars) actions →
        Along lifecycleStep StepFits (boot cars) actions) := by
  have hboot := kept_boot cars
  apply And.intro
  · intro hfits
    have hkept := hfits.everywhere (I := Kept) (fun _ _ hs hstep => hs.step hstep) hboot
    exact hkept.mono fun _ => Kept.lawful
  · intro hcurrent hlaw
    refine (everywhere_and_along_iff_under (I := Kept) (Q := fun _ _ => True) ?_ ?_ hcurrent hboot
      hboot.lawful).mp ⟨hlaw, along_true _ _⟩
    · intro s action hs _ hlaw' hacts
      exact hs.step (stepFits_of_lawful hs hacts hlaw')
    · intro s action _ hs _ hacts
      constructor
      · intro hnext
        exact stepFits_of_lawful hs hacts hnext.1
      · intro hfits
        exact ⟨(hs.step hfits).lawful, trivial⟩

/-! ## One car -/

def ofSystem (targetState : FleetOperationalState) : TransitionRequest :=
  ⟨targetState, "system", "SYSTEM", "", false⟩

/-- A transition of the vehicle, with its write, when nothing else is under way and the state is
in the memory. -/
def transit (targetState : FleetOperationalState) (commits : Bool) : List LifecycleAction :=
  [.transitionState "car" (ofSystem targetState), .applyTransition 0, .finishWrite 0 commits 0]

/-- One car, marked available. -/
def oneCar (carId : Id) : Option TrackedCar :=
  if carId = "car" then some ⟨true, none, none⟩ else none

/-- `getVehicleState` of the car, and what follows. -/
def lookUp (rest : List LifecycleAction) : List LifecycleAction :=
  [.getVehicleState "car", .readRow 0, .keepState 0] ++ rest

/-- The car is looked up and reserved, and the write commits. -/
theorem reservation_lawful :
    Everywhere lifecycleStep Lawful (boot oneCar) (lookUp (transit .reserved true)) := by
  apply (lifecycle_lawful oneCar _).1
  refine ⟨trivial, trivial, ?_, trivial, ?_, ?_, trivial⟩
  · intro carId request isAvailable hi
    cases hi
    refine ⟨fun howes => absurd howes (by decide), fun _ car hcar => ?_⟩
    cases hcar
    rfl
  · intro carId request currentState hi howes
    cases hi
    exact absurd howes (by decide)
  · intro carId request fromState hi _ car hcar
    cases hi
    cases hcar
    decide

def restoredHeartbeat : List LifecycleAction :=
  lookUp (transit .pickupPending true ++ transit .onRent true ++ transit .gpsOffline true ++
    transit .available true)

def lostWrite : List LifecycleAction :=
  lookUp (transit .reserved false)

/-- The one car is available before its inspection, the other one's flag is wrong. -/
theorem shortcut_and_lost_write :
    ¬ Everywhere lifecycleStep Lawful (boot oneCar) restoredHeartbeat ∧
      ¬ Everywhere lifecycleStep Lawful (boot oneCar) lostWrite := by
  apply And.intro
  · intro h
    exact h.last.inspected "car" (by decide +kernel) (by decide +kernel)
  · intro h
    have hflag := h.last.flag "car" ⟨true, none, none⟩ (by decide +kernel) (by decide +kernel)
    exact absurd (hflag.mp rfl) (by decide +kernel)

end FleetLifecycle

end CarRental
