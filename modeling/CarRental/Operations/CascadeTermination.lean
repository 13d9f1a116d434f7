import CarRental.Operations.AutomationRules
import CarRental.Operations.StepTermination

/-!
# How many events one event causes

The types of the events that rules emit for one another are read off the rules (`RuleLinks`).
Where no type can be reached from itself, the tasks for an event are all done at last
(`tasksSettle_of_acc`, by induction on the type and over the stack).  Where one can, there are
answers of the predicates with which the events do not stop: a task that leads back to a cycle stays
on the stack, and only finitely many tasks are done between two emissions (`performTask_progress`).
-/

namespace CarRental.Operations

open Paths

/-- An enabled rule emits events of the one type for events of the other. -/
def RuleLinks (rules : List AutomationRule) (trigger emitted : String) : Prop :=
  ∃ rule ∈ rules, rule.isEnabled = true ∧ rule.triggerEvent = trigger ∧
    ∃ action ∈ rule.actions, action.emits = some emitted

/-- However long it goes on, the cascade emits no more than so many events. -/
def EmitsFinitely (rules : List AutomationRule) (moments : ℕ → Moment) (cascade : Cascade) : Prop :=
  ∃ bound, ∀ n, (after rules moments cascade n).emitted.length ≤ bound

section Tasks

variable {rules : List AutomationRule} {cascade : Cascade} {moment : Moment}
  {moments : ℕ → Moment}

theorem performTask_nil (htasks : cascade.tasks = []) :
    performTask rules cascade moment = cascade := by
  simp [performTask, htasks]

theorem after_succ' (n : ℕ) :
    after rules moments cascade (n + 1) =
      after rules (fun k => moments (k + 1)) (performTask rules cascade (moments 0)) n := by
  induction n with
  | zero => rfl
  | succ n ih => rw [after_succ, ih, ← after_succ]

/-! ## Emissions and the work between them -/

/-- What a task comes to without the rules of the events it emits. -/
def Task.weight : Task → ℕ
  | .evaluate rule _ => rule.actions.length + 1
  | .perform _ _ => 1

def Cascade.weight (cascade : Cascade) : ℕ :=
  (cascade.tasks.map Task.weight).sum

theorem publish_cases (event : DomainEvent) :
    publish rules event cascade = cascade ∨
      (publish rules event cascade).emitted.length = cascade.emitted.length + 1 := by
  unfold publish
  split
  · exact .inl rfl
  · exact .inr (by simp)

theorem performTask_progress (htasks : cascade.tasks ≠ []) :
    (performTask rules cascade moment).emitted.length = cascade.emitted.length + 1 ∨
      ((performTask rules cascade moment).emitted = cascade.emitted ∧
        (performTask rules cascade moment).weight < cascade.weight) := by
  obtain ⟨tasks, processedEventIds, emitted⟩ := cascade
  cases tasks with
  | nil => exact absurd rfl htasks
  | cons task rest =>
    cases task with
    | evaluate rule event =>
      refine .inr ?_
      simp only [performTask]
      split
      · have hactions : ((rule.actions.map (Task.perform · event)).map Task.weight).sum =
            rule.actions.length := by
          simp [Function.comp_def, Task.weight]
        refine ⟨rfl, ?_⟩
        simp only [Cascade.weight, List.map_append, List.sum_append, hactions, List.map_cons,
          List.sum_cons, Task.weight]
        omega
      · refine ⟨rfl, ?_⟩
        simp only [Cascade.weight, List.map_cons, List.sum_cons, Task.weight]
        omega
    | perform action event =>
      have hless : Cascade.weight ⟨rest, processedEventIds, emitted⟩ <
          Cascade.weight ⟨.perform action event :: rest, processedEventIds, emitted⟩ := by
        simp [Cascade.weight, Task.weight]
      simp only [performTask]
      cases action.emits with
      | none => exact .inr ⟨rfl, hless⟩
      | some eventType =>
        have hcases := @publish_cases rules ⟨rest, processedEventIds, emitted⟩
          (emittedEvent eventType event moment.stamp)
        rcases hcases with hdropped | hemitted
        · refine .inr ?_
          simp only [hdropped, true_and]
          exact hless
        · exact .inl hemitted

theorem emitted_monotone :
    Monotone fun n => (after rules moments cascade n).emitted.length := by
  refine monotone_nat_of_le_succ fun n => ?_
  rw [after_succ]
  by_cases htasks : (after rules moments cascade n).tasks = []
  · rw [performTask_nil htasks]
  · have hprogress := @performTask_progress rules _ (moments n) htasks
    rcases hprogress with hmore | ⟨hsame, -⟩
    · omega
    · rw [hsame]

theorem exists_next_emission (hbusy : ∀ n, (after rules moments cascade n).tasks ≠ []) (n : ℕ) :
    ∃ m, (after rules moments cascade n).emitted.length <
      (after rules moments cascade m).emitted.length := by
  induction hweight : (after rules moments cascade n).weight using Nat.strong_induction_on
    generalizing n with
  | _ weight ih =>
    have hprogress := @performTask_progress rules _ (moments n) (hbusy n)
    rcases hprogress with hmore | ⟨hsame, hless⟩
    · refine ⟨n + 1, ?_⟩
      rw [after_succ, hmore]
      exact Nat.lt_succ_self _
    · rw [← after_succ, hweight] at hless
      obtain ⟨m, hm⟩ := ih _ hless (n + 1) rfl
      refine ⟨m, ?_⟩
      rwa [after_succ, hsame] at hm

theorem not_emitsFinitely_of_busy (hbusy : ∀ n, (after rules moments cascade n).tasks ≠ []) :
    ¬ EmitsFinitely rules moments cascade := by
  rintro ⟨bound, hbound⟩
  have hgrows : ∀ k, ∃ n, k ≤ (after rules moments cascade n).emitted.length := by
    intro k
    induction k with
    | zero => exact ⟨0, Nat.zero_le _⟩
    | succ k ih =>
      obtain ⟨n, hn⟩ := ih
      obtain ⟨m, hm⟩ := exists_next_emission hbusy n
      exact ⟨m, by omega⟩
  obtain ⟨n, hn⟩ := hgrows (bound + 1)
  have := hbound n
  omega

/-! ## Tasks that come to an end -/

/-- Whatever the environment gives to its tasks, the cascade is done at last. -/
inductive Settles (rules : List AutomationRule) : Cascade → Prop where
  | intro {cascade : Cascade}
      (next : cascade.tasks ≠ [] → ∀ moment, Settles rules (performTask rules cascade moment)) :
      Settles rules cascade

/-- The tasks are done at last, whatever the bus has seen before. -/
def TasksSettle (rules : List AutomationRule) (tasks : List Task) : Prop :=
  ∀ processedEventIds emitted, Settles rules ⟨tasks, processedEventIds, emitted⟩

theorem tasksSettle_nil : TasksSettle rules [] :=
  fun _ _ => .intro fun hne => absurd rfl hne

/-- The cascade, with other tasks below its own. -/
def Cascade.over (cascade : Cascade) (rest : List Task) : Cascade :=
  { cascade with tasks := cascade.tasks ++ rest }

theorem publish_over (event : DomainEvent) (rest : List Task) :
    publish rules event (cascade.over rest) = (publish rules event cascade).over rest := by
  unfold publish Cascade.over
  split <;> simp

theorem performTask_over (htasks : cascade.tasks ≠ []) (rest : List Task) :
    performTask rules (cascade.over rest) moment =
      (performTask rules cascade moment).over rest := by
  obtain ⟨tasks, processedEventIds, emitted⟩ := cascade
  cases tasks with
  | nil => exact absurd rfl htasks
  | cons task others =>
    cases task with
    | evaluate rule event =>
      simp only [performTask, Cascade.over, List.cons_append]
      split <;> simp
    | perform action event =>
      simp only [performTask, Cascade.over, List.cons_append]
      cases action.emits with
      | none => rfl
      | some eventType =>
        exact @publish_over rules ⟨others, processedEventIds, emitted⟩ _ rest

theorem Settles.over {rest : List Task} (h : Settles rules cascade)
    (hrest : TasksSettle rules rest) : Settles rules (cascade.over rest) := by
  induction h with
  | @intro cascade _ ih =>
    by_cases htasks : cascade.tasks = []
    · have hover : cascade.over rest = ⟨rest, cascade.processedEventIds, cascade.emitted⟩ := by
        simp [Cascade.over, htasks]
      rw [hover]
      exact hrest _ _
    · refine .intro fun _ moment => ?_
      rw [performTask_over htasks]
      exact ih htasks moment

theorem TasksSettle.append {tasks rest : List Task} (h : TasksSettle rules tasks)
    (hrest : TasksSettle rules rest) : TasksSettle rules (tasks ++ rest) :=
  fun processedEventIds emitted => (h processedEventIds emitted).over hrest

theorem tasksSettle_of_forall {tasks : List Task}
    (h : ∀ task ∈ tasks, TasksSettle rules [task]) : TasksSettle rules tasks := by
  induction tasks with
  | nil => exact tasksSettle_nil
  | cons task rest ih =>
    have hfirst := h task (List.mem_cons_self ..)
    exact hfirst.append (ih fun other hother => h other (List.mem_cons_of_mem _ hother))

theorem tasksSettle_perform {action : RuleAction} {event : DomainEvent}
    (h : ∀ eventType, action.emits = some eventType → ∀ stamp,
      TasksSettle rules (evaluations rules (emittedEvent eventType event stamp))) :
    TasksSettle rules [.perform action event] := by
  refine fun processedEventIds emitted => .intro fun _ moment => ?_
  simp only [performTask]
  cases hemits : action.emits with
  | none => exact tasksSettle_nil _ _
  | some eventType =>
    simp only [publish]
    split
    · exact tasksSettle_nil _ _
    · rw [List.append_nil]
      exact h eventType hemits _ _ _

theorem tasksSettle_evaluate {rule : AutomationRule} {event : DomainEvent}
    (h : ∀ action ∈ rule.actions, TasksSettle rules [.perform action event]) :
    TasksSettle rules [.evaluate rule event] := by
  refine fun processedEventIds emitted => .intro fun _ moment => ?_
  simp only [performTask]
  split
  · rw [List.append_nil]
    refine tasksSettle_of_forall (fun task htask => ?_) _ _
    obtain ⟨action, haction, rfl⟩ := List.mem_map.mp htask
    exact h action haction
  · exact tasksSettle_nil _ _

theorem tasksSettle_of_acc {eventType : String} (hacc : Acc (flip (RuleLinks rules)) eventType) :
    ∀ event : DomainEvent, event.eventType = eventType →
      TasksSettle rules (evaluations rules event) := by
  induction hacc with
  | intro eventType _ ih =>
    rintro event rfl
    refine tasksSettle_of_forall fun task htask => ?_
    obtain ⟨rule, hrule, rfl⟩ := List.mem_map.mp htask
    obtain ⟨hmem, henabled, htrigger⟩ := mem_candidateRules.mp hrule
    refine tasksSettle_evaluate fun action haction => ?_
    refine tasksSettle_perform fun emitted hemits stamp => ?_
    exact ih emitted ⟨rule, hmem, henabled, htrigger, action, haction, hemits⟩ _ rfl

theorem Settles.finishes (h : Settles rules cascade) (moments : ℕ → Moment) :
    ∃ n, (after rules moments cascade n).tasks = [] := by
  induction h generalizing moments with
  | @intro cascade _ ih =>
    by_cases htasks : cascade.tasks = []
    · exact ⟨0, htasks⟩
    · obtain ⟨n, hn⟩ := ih htasks (moments 0) fun k => moments (k + 1)
      exact ⟨n + 1, by rwa [after_succ']⟩

theorem after_of_finished {n : ℕ} (hfinished : (after rules moments cascade n).tasks = [])
    (k : ℕ) : after rules moments cascade (n + k) = after rules moments cascade n := by
  induction k with
  | zero => rfl
  | succ k ih => rw [← Nat.add_assoc, after_succ, ih, performTask_nil hfinished]

theorem Settles.emitsFinitely (h : Settles rules cascade) (moments : ℕ → Moment) :
    EmitsFinitely rules moments cascade := by
  obtain ⟨n, hn⟩ := h.finishes moments
  refine ⟨(after rules moments cascade n).emitted.length, fun m => ?_⟩
  rcases Nat.le_total m n with hle | hle
  · exact emitted_monotone hle
  · obtain ⟨k, rfl⟩ := Nat.exists_eq_add_of_le hle
    rw [after_of_finished hn]

/-! ## Tasks that do not -/

/-- The task leads to an event of a type from which a cycle is reached. -/
def Task.LeadsOn (rules : List AutomationRule) : Task → Prop
  | .evaluate rule event => rule.appliesTo event = true ∧
      ∃ action ∈ rule.actions, ∃ eventType, action.emits = some eventType ∧
        ReachesCycle (RuleLinks rules) eventType
  | .perform action _ =>
    ∃ eventType, action.emits = some eventType ∧ ReachesCycle (RuleLinks rules) eventType

theorem evaluations_leadsOn {event : DomainEvent} (htenant : event.tenantContext = none)
    (hcycle : ReachesCycle (RuleLinks rules) event.eventType) :
    ∃ task ∈ evaluations rules event, task.LeadsOn rules := by
  obtain ⟨emitted, ⟨rule, hrule, henabled, htrigger, action, haction, hemits⟩, hnext⟩ :=
    hcycle.progress
  refine ⟨.evaluate rule event,
    List.mem_map.mpr ⟨rule, mem_candidateRules.mpr ⟨hrule, henabled, htrigger⟩, rfl⟩, ?_⟩
  exact ⟨appliesTo_of_no_tenant rule htenant, action, haction, emitted, hemits, hnext⟩

/-- Predicates that are always met, and an identifier for each event that is longer than those
before it. -/
def answering (length : ℕ) (n : ℕ) : Moment where
  check pred _ := pred.logic ≠ some .not
  stamp := ⟨String.ofList (List.replicate (length + n + 1) 'x'), ""⟩

/-- There is a task that leads on, and the identifiers seen are of no more than the length. -/
def StaysBusy (rules : List AutomationRule) (length : ℕ) (cascade : Cascade) : Prop :=
  (∃ task ∈ cascade.tasks, task.LeadsOn rules) ∧
    ∀ eventId ∈ cascade.processedEventIds, eventId.length ≤ length

theorem publish_staysBusy {length : ℕ} {event : DomainEvent} (htenant : event.tenantContext = none)
    (hcycle : ReachesCycle (RuleLinks rules) event.eventType)
    (hfresh : event.eventId ∉ cascade.processedEventIds)
    (hlength : event.eventId.length ≤ length)
    (hseen : ∀ eventId ∈ cascade.processedEventIds, eventId.length ≤ length) :
    StaysBusy rules length (publish rules event cascade) := by
  rw [publish, if_neg hfresh]
  obtain ⟨task, htask, hleads⟩ := evaluations_leadsOn htenant hcycle
  refine ⟨⟨task, List.mem_append_left _ htask, hleads⟩, ?_⟩
  intro eventId heventId
  rcases List.mem_cons.mp heventId with rfl | hold
  · exact hlength
  · exact hseen eventId hold

theorem publish_keeps {length : ℕ} {event : DomainEvent} {task : Task}
    (htask : task ∈ cascade.tasks) (hleads : task.LeadsOn rules)
    (hlength : event.eventId.length ≤ length)
    (hseen : ∀ eventId ∈ cascade.processedEventIds, eventId.length ≤ length) :
    StaysBusy rules length (publish rules event cascade) := by
  unfold publish
  split
  · exact ⟨⟨task, htask, hleads⟩, hseen⟩
  · refine ⟨⟨task, List.mem_append_right _ htask, hleads⟩, ?_⟩
    intro eventId heventId
    rcases List.mem_cons.mp heventId with rfl | hold
    · exact hlength
    · exact hseen eventId hold

theorem staysBusy_step {length n : ℕ} (hbusy : StaysBusy rules (length + n) cascade) :
    StaysBusy rules (length + (n + 1)) (performTask rules cascade (answering length n)) := by
  obtain ⟨tasks, processedEventIds, emitted⟩ := cascade
  obtain ⟨⟨live, hlive, hleads⟩, hseen⟩ := hbusy
  have hseen' : ∀ eventId ∈ processedEventIds, eventId.length ≤ length + (n + 1) :=
    fun eventId heventId => Nat.le_succ_of_le (hseen eventId heventId)
  have hid : (answering length n).stamp.eventId.length = length + (n + 1) := by
    simp [answering, Nat.add_assoc]
  cases tasks with
  | nil => exact absurd hlive List.not_mem_nil
  | cons task rest =>
    cases task with
    | evaluate rule event =>
      have hmet : evaluatePredicates ((answering length n).check · event) rule.predicates =
        true := evaluatePredicates_of_answers rule.predicates
      simp only [performTask, hmet, Bool.and_true]
      rcases List.mem_cons.mp hlive with rfl | hrest
      · obtain ⟨happlies, action, haction, hemits⟩ := hleads
        rw [if_pos happlies]
        refine ⟨⟨.perform action event, ?_, hemits⟩, hseen'⟩
        exact List.mem_append_left _ (List.mem_map.mpr ⟨action, haction, rfl⟩)
      · split
        · exact ⟨⟨live, List.mem_append_right _ hrest, hleads⟩, hseen'⟩
        · exact ⟨⟨live, hrest, hleads⟩, hseen'⟩
    | perform action event =>
      simp only [performTask]
      rcases List.mem_cons.mp hlive with rfl | hrest
      · obtain ⟨eventType, hemits, hcycle⟩ := hleads
        rw [hemits]
        refine publish_staysBusy rfl hcycle (fun hold => ?_) hid.le hseen'
        have hle := hseen _ hold
        rw [emittedEvent_eventId, hid] at hle
        omega
      · cases action.emits with
        | none => exact ⟨⟨live, hrest, hleads⟩, hseen'⟩
        | some eventType => exact publish_keeps hrest hleads hid.le hseen'

theorem staysBusy_after {length : ℕ} (hbusy : StaysBusy rules length cascade) (n : ℕ) :
    StaysBusy rules (length + n) (after rules (answering length) cascade n) := by
  induction n with
  | zero => exact hbusy
  | succ n ih => exact staysBusy_step ih

theorem exists_endless_cascade {event : DomainEvent} (htenant : event.tenantContext = none)
    (hcycle : ReachesCycle (RuleLinks rules) event.eventType) :
    ∃ moments, ¬ EmitsFinitely rules moments (published rules [] event) := by
  have hstart : StaysBusy rules event.eventId.length (published rules [] event) :=
    publish_staysBusy htenant hcycle List.not_mem_nil Nat.le.refl
      fun _ hold => absurd hold List.not_mem_nil
  refine ⟨answering event.eventId.length, not_emitsFinitely_of_busy fun n => ?_⟩
  obtain ⟨⟨task, htask, -⟩, -⟩ := staysBusy_after hstart n
  exact List.ne_nil_of_mem htask

end Tasks

/-! ## Both engines -/

theorem ruleLinks_finite (rules : List AutomationRule) (eventType : String) :
    ∃ reachable : Set String, reachable.Finite ∧ eventType ∈ reachable ∧
      Closed (RuleLinks rules) reachable := by
  refine ⟨{other | other ∈ eventType ::
    (rules.flatMap fun rule => rule.actions.filterMap RuleAction.emits)}, List.finite_toSet _,
    List.mem_cons_self .., ?_⟩
  rintro trigger - emitted ⟨rule, hrule, -, -, action, haction, hemits⟩
  refine List.mem_cons_of_mem _ (List.mem_flatMap.mpr ⟨rule, hrule, ?_⟩)
  exact List.mem_filterMap.mpr ⟨action, haction, hemits⟩

theorem emitsFinitely_iff (rules : List AutomationRule) (eventType : String) :
    (∀ event : DomainEvent, event.eventType = eventType → ∀ processedEventIds moments,
        EmitsFinitely rules moments (published rules processedEventIds event)) ↔
      ¬ ReachesCycle (RuleLinks rules) eventType := by
  constructor
  · intro hfinite hcycle
    let event : DomainEvent :=
      ⟨"", eventType, "SYSTEM", "", none, ⟨"", ""⟩, "", "", none, 1, fun _ => .undefined⟩
    obtain ⟨moments, hendless⟩ := @exists_endless_cascade rules event rfl hcycle
    exact hendless (hfinite event rfl [] moments)
  · intro hnot event htype processedEventIds moments
    obtain ⟨reachable, hfinite, hmem, hclosed⟩ := ruleLinks_finite rules eventType
    have hacc : Acc (flip (RuleLinks rules)) eventType :=
      acc_of_not_endless fun hendless => hnot (hendless.reachesCycle hfinite hclosed hmem)
    have hsettles := tasksSettle_of_acc hacc event htype
    unfold published publish
    split
    · exact (tasksSettle_nil _ _).emitsFinitely moments
    · refine Settles.emitsFinitely ?_ moments
      rw [List.append_nil]
      exact hsettles _ _

/-- An execution that is triggered or retried visits finitely many steps, whatever its calls come
to, exactly if it cannot come back to a step with the context data it had there; and the events of a
type cause finitely many further ones, whatever the predicates answer, exactly if the rules lead
from it to no type that is reached from itself. -/
theorem operations_terminate_iff :
    (∀ definition payload tenantContext correlationId causationId,
      (∀ turns, VisitsFinitely definition
          (startExecution definition payload tenantContext correlationId causationId) turns) ↔
        ¬ ReachesCycle (Follows definition)
          (startExecution definition payload tenantContext correlationId causationId).control) ∧
    (∀ definition execution stepIdToResume overridePayload,
      (∀ turns, VisitsFinitely definition
          (retryExecution execution stepIdToResume overridePayload) turns) ↔
        ¬ ReachesCycle (Follows definition)
          (retryExecution execution stepIdToResume overridePayload).control) ∧
    ∀ rules eventType,
      (∀ event : DomainEvent, event.eventType = eventType → ∀ processedEventIds moments,
          EmitsFinitely rules moments (published rules processedEventIds event)) ↔
        ¬ ReachesCycle (RuleLinks rules) eventType :=
  ⟨fun definition _ _ _ _ => visitsFinitely_iff definition rfl,
    fun definition _ _ _ => visitsFinitely_iff definition rfl, emitsFinitely_iff⟩

def waitingWorkflow : WorkflowDefinition where
  workflowId := "WF_WAIT"
  name := "Wait"
  version := 1
  triggerEvent := "BOOKING_CREATED"
  status := .active
  steps := [⟨"step_wait", "Wait", .delay, {}, some "step_wait", none, none⟩]
  startStepId := "step_wait"

/-- A rule for new bookings whose action names no event, and so emits that of a new booking. -/
def echoRule : AutomationRule where
  ruleId := "rule_echo"
  name := "Echo"
  triggerEvent := "BOOKING_CREATED"
  predicates := []
  actions := [⟨.triggerWorkflow, none⟩]
  isEnabled := true
  priority := 10
  tenantScope := none

def bookingCreated : DomainEvent :=
  ⟨"evt_1", "BOOKING_CREATED", "BOOKING", "booking_1", none, ⟨"SYSTEM", "SYSTEM"⟩, "", "cor_1", none,
    1, fun _ => .undefined⟩

/-- The execution never ends, and the booking event causes events without end. -/
theorem waiting_and_echo_endless :
    (¬ ∀ turns, VisitsFinitely waitingWorkflow
      (startExecution waitingWorkflow (fun _ => .undefined) .undefined "cor_1" none) turns) ∧
    ¬ ∀ moments, EmitsFinitely [echoRule] moments (published [echoRule] [] bookingCreated) := by
  constructor
  · rw [visitsFinitely_iff _ rfl, not_not]
    let execution := startExecution waitingWorkflow (fun _ => .undefined) .undefined "cor_1" none
    have hagain : Follows waitingWorkflow execution.control execution.control :=
      ⟨execution, ⟨.error "", .error ""⟩, rfl, rfl, rfl, rfl⟩
    exact ⟨_, .refl, .single hagain⟩
  · intro hfinite
    have hlink : RuleLinks [echoRule] "BOOKING_CREATED" "BOOKING_CREATED" :=
      ⟨echoRule, List.mem_cons_self .., rfl, rfl, ⟨.triggerWorkflow, none⟩,
        List.mem_cons_self .., rfl⟩
    obtain ⟨moments, hendless⟩ :=
      @exists_endless_cascade [echoRule] bookingCreated rfl ⟨_, .refl, .single hlink⟩
    exact hendless (hfinite moments)

end CarRental.Operations
