import CarRental.Integrations.Runtime
import CarRental.Operations.DomainEvents

/-!
# The workflow engine

`WorkflowEngineService`: the loop that walks the steps of a definition, one turn at a time.  What
the integration runtime does with the calls of a turn, a thrown message or a result, is an argument
(`Turn`).
-/

namespace CarRental.Operations

open CarRental.Integrations

inductive WorkflowStatus where
  | draft
  | active
  | paused
  | deprecated
deriving DecidableEq, Repr

/-- The statuses that the engine sets. -/
inductive WorkflowExecutionStatus where
  | running
  | completed
  | failed
deriving DecidableEq, Repr

inductive WorkflowStepType where
  | trigger
  | condition
  | delay
  | action
  | notification
  | payment
  | webhook
  | providerCall
  | approval
  | branch
  | parallel
  | end
deriving DecidableEq, Repr

/-- The entries of `step.config` that decide what a step does.  What goes into the request of a call
is not among them. -/
structure StepConfig where
  field : Option String := none
  value : Json := .undefined
  trueStepId : Option String := none
  falseStepId : Option String := none
  delayMs : Option ℕ := none
  mutateContext : List (String × Json) := []
  actions : List String := []

structure WorkflowStep where
  stepId : String
  name : String
  type : WorkflowStepType
  config : StepConfig
  onSuccess : Option String
  onFailure : Option String
  compensationStepId : Option String

structure WorkflowDefinition where
  workflowId : String
  name : String
  version : ℕ
  triggerEvent : String
  status : WorkflowStatus
  steps : List WorkflowStep
  startStepId : String

/-- `stepMap.get`: of several steps with one identifier the last is found. -/
def WorkflowDefinition.stepMap (definition : WorkflowDefinition) (stepId : String) :
    Option WorkflowStep :=
  definition.steps.reverse.find? fun step => step.stepId = stepId

/-! ## Single steps -/

/-- What the integration runtime makes of a call. -/
abbrev CallOutcome := Except String (ExecutionResult Json)

inductive StepOutput where
  | decision (conditionMet : Bool) (nextStepId : Option String)
  | result (result : ExecutionResult Json)
  | simulated
  | delayed (delayMs : ℕ)
  | done (action : String)
  | parallelResults (actions : List String)
  | executed

/-- `executeSingleStep`, with the context data it leaves.  A notification that throws is taken for
sent. -/
def executeSingleStep (step : WorkflowStep) (call : CallOutcome) (contextData : Fields) :
    Except String (StepOutput × Fields) :=
  match step.type with
  | .condition | .branch =>
    let conditionMet :=
      (extractFieldValue contextData step.config.field).strictEquals step.config.value
    let nextStepId := if conditionMet then step.config.trueStepId else step.config.falseStepId
    .ok (.decision conditionMet nextStepId, contextData)
  | .notification =>
    match call with
    | .ok result => .ok (.result result, contextData)
    | .error _ => .ok (.simulated, contextData)
  | .providerCall =>
    match call with
    | .ok result => .ok (.result result, contextData)
    | .error message => .error message
  | .delay => .ok (.delayed ((step.config.delayMs.filter (· ≠ 0)).getD 500), contextData)
  | .action => .ok (.done step.name, contextData.assign step.config.mutateContext)
  | .parallel => .ok (.parallelResults step.config.actions, contextData)
  | _ => .ok (.executed, contextData)

/-- The step after one that has succeeded. -/
def nextStepId (step : WorkflowStep) (output : StepOutput) : Option String :=
  match output with
  | .decision _ nextStepId => (given nextStepId).or step.onSuccess
  | _ => step.onSuccess

/-! ## The loop -/

inductive StepStatus where
  | success
  | failed
deriving DecidableEq, Repr

structure StepHistoryEntry where
  stepId : String
  stepName : String
  type : WorkflowStepType
  status : StepStatus
  output : Option StepOutput
  error : Option String

structure WorkflowError where
  code : String
  message : String
  failedStepId : Option String
deriving DecidableEq

/-- An execution, with the steps that were run to compensate for others. -/
structure WorkflowExecution where
  workflowId : String
  version : ℕ
  correlationId : String
  causationId : Option String
  status : WorkflowExecutionStatus
  currentStepId : Option String
  contextData : Fields
  stepHistory : List StepHistoryEntry
  retryCount : ℕ
  error : Option WorkflowError
  compensated : List String

/-- What the runtime makes of the call of a step, and of the one of its compensation. -/
structure Turn where
  call : CallOutcome
  compensationCall : CallOutcome

namespace WorkflowExecution

/-- The entry of a step in the history. -/
def record (execution : WorkflowExecution) (step : WorkflowStep) (status : StepStatus)
    (output : Option StepOutput) (error : Option String) : WorkflowExecution :=
  { execution with
    stepHistory := execution.stepHistory ++
      [⟨step.stepId, step.name, step.type, status, output, error⟩] }

def fail (execution : WorkflowExecution) (error : WorkflowError) : WorkflowExecution :=
  { execution with status := .failed, error := some error }

end WorkflowExecution

/-- `executeCompensation`: one step, whose links are not followed and whose failure is logged. -/
def executeCompensation (definition : WorkflowDefinition) (compensationStepId : Option String)
    (call : CallOutcome) (execution : WorkflowExecution) : WorkflowExecution :=
  match (given compensationStepId).bind definition.stepMap with
  | none => execution
  | some step =>
    let execution := { execution with compensated := execution.compensated ++ [step.stepId] }
    match executeSingleStep step call execution.contextData with
    | .ok (_, contextData) => { execution with contextData }
    | .error _ => execution

/-- What the loop does with a step that has thrown. -/
def handleFailure (definition : WorkflowDefinition) (step : WorkflowStep) (message : String)
    (compensationCall : CallOutcome) (execution : WorkflowExecution) : WorkflowExecution :=
  match given step.onFailure with
  | some onFailure => { execution with currentStepId := some onFailure }
  | none =>
    (executeCompensation definition step.compensationStepId compensationCall execution).fail
      ⟨"STEP_EXECUTION_ERROR", message, some step.stepId⟩

def executeStep (definition : WorkflowDefinition) (step : WorkflowStep) (turn : Turn)
    (execution : WorkflowExecution) : WorkflowExecution :=
  if step.type = .end then
    { execution with status := .completed, currentStepId := none }
  else
    match executeSingleStep step turn.call execution.contextData with
    | .ok (output, contextData) =>
      { execution.record step .success (some output) none with
        contextData
        currentStepId := nextStepId step output }
    | .error message =>
      handleFailure definition step message turn.compensationCall
        (execution.record step .failed none (some message))

/-- One turn of the loop of `executeWorkflowSteps`; an execution that is not running has none. -/
def visit (definition : WorkflowDefinition) (execution : WorkflowExecution) (turn : Turn) :
    WorkflowExecution :=
  if execution.status = .running then
    match given execution.currentStepId with
    | none => { execution with status := .completed }
    | some stepId =>
      match definition.stepMap stepId with
      | none =>
        execution.fail
          ⟨"STEP_NOT_FOUND", "Step " ++ stepId ++ " not found in workflow definition", none⟩
      | some step => executeStep definition step turn execution
  else execution

/-- `executeWorkflowSteps`, as many turns as are given. -/
def executeWorkflowSteps (definition : WorkflowDefinition) (execution : WorkflowExecution)
    (turns : List Turn) : WorkflowExecution :=
  Runs.run (visit definition) execution turns

/-! ## Entry points -/

def startExecution (definition : WorkflowDefinition) (payload : Fields) (tenantContext : Json)
    (correlationId : String) (causationId : Option String) : WorkflowExecution where
  workflowId := definition.workflowId
  version := definition.version
  correlationId := correlationId
  causationId := causationId
  status := .running
  currentStepId := some definition.startStepId
  contextData := payload.assign [("tenantContext", tenantContext)]
  stepHistory := []
  retryCount := 0
  error := none
  compensated := []

/-- The definitions that `handleDomainEventTrigger` starts an execution of. -/
def triggeredBy (definitions : List WorkflowDefinition) (event : DomainEvent) :
    List WorkflowDefinition :=
  definitions.filter fun definition =>
    definition.status = .active ∧ definition.triggerEvent = event.eventType

def retryExecution (execution : WorkflowExecution) (stepIdToResume : Option String)
    (overridePayload : List (String × Json)) : WorkflowExecution :=
  { execution with
    status := .running
    retryCount := execution.retryCount + 1
    error := none
    contextData := execution.contextData.assign overridePayload
    currentStepId := (given stepIdToResume).or execution.currentStepId }

/-! ## What one turn does -/

/-- The step that the loop is at, if it is at one. -/
def stepAt (definition : WorkflowDefinition) (execution : WorkflowExecution) :
    Option WorkflowStep :=
  if execution.status = .running then
    (given execution.currentStepId).bind definition.stepMap
  else none

@[simp] theorem fail_status (execution : WorkflowExecution) (error : WorkflowError) :
    (execution.fail error).status = .failed := rfl

@[simp] theorem fail_compensated (execution : WorkflowExecution) (error : WorkflowError) :
    (execution.fail error).compensated = execution.compensated := rfl

section Turns

variable {definition : WorkflowDefinition} {step : WorkflowStep} {execution : WorkflowExecution}

theorem stepAt_running (hstep : stepAt definition execution = some step) :
    execution.status = .running := by
  unfold stepAt at hstep
  split at hstep
  · assumption
  · cases hstep

theorem stepAt_mem (hstep : stepAt definition execution = some step) :
    step ∈ definition.steps := by
  unfold stepAt at hstep
  split at hstep
  · obtain ⟨stepId, -, hfound⟩ := Option.bind_eq_some_iff.mp hstep
    exact List.mem_reverse.mp (List.mem_of_find?_eq_some hfound)
  · cases hstep

theorem visit_of_stepAt (hstep : stepAt definition execution = some step) (turn : Turn) :
    visit definition execution turn = executeStep definition step turn execution := by
  have hrunning := stepAt_running hstep
  rw [stepAt, if_pos hrunning] at hstep
  obtain ⟨stepId, hid, hfound⟩ := Option.bind_eq_some_iff.mp hstep
  rw [visit, if_pos hrunning]
  simp only [hid, hfound]

theorem visit_status_of_stepAt_none (hstep : stepAt definition execution = none) (turn : Turn) :
    (visit definition execution turn).status ≠ .running := by
  by_cases hrunning : execution.status = .running
  · rw [stepAt, if_pos hrunning] at hstep
    rw [visit, if_pos hrunning]
    cases hid : given execution.currentStepId with
    | none => simp
    | some stepId =>
      rw [hid] at hstep
      simp only [show definition.stepMap stepId = none from hstep, fail_status]
      decide
  · rwa [visit, if_neg hrunning]

theorem visit_of_not_running (hended : execution.status ≠ .running) (turn : Turn) :
    visit definition execution turn = execution :=
  if_neg hended

theorem executeWorkflowSteps_of_not_running (hended : execution.status ≠ .running)
    (turns : List Turn) : executeWorkflowSteps definition execution turns = execution := by
  induction turns with
  | nil => rfl
  | cons turn rest ih =>
    rw [executeWorkflowSteps, Runs.run_cons, visit_of_not_running hended]
    exact ih

end Turns

/-!
## Failed provider calls in a workflow

A call of a PROVIDER_CALL step fails in two ways: the runtime throws, or it returns a result whose
`success` is `false`.  The loop looks at the first only.
-/

/-! ## The law -/

/-- The runtime did not complete the call. -/
def CallFailed : CallOutcome → Prop
  | .error _ => True
  | .ok result => result.success = false

/-- The call came back, with `success = false`. -/
def ReturnedFailure : CallOutcome → Prop
  | .error _ => False
  | .ok result => result.success = false

instance (call : CallOutcome) : Decidable (CallFailed call) := by
  cases call <;> unfold CallFailed <;> infer_instance

instance (call : CallOutcome) : Decidable (ReturnedFailure call) := by
  cases call <;> unfold ReturnedFailure <;> infer_instance

/-- The entries that were added to the history are one, of the step, as FAILED. -/
def RecordedFailed (step : WorkflowStep) (before after : WorkflowExecution) : Prop :=
  ∃ entry, after.stepHistory = before.stepHistory ++ [entry] ∧
    entry.stepId = step.stepId ∧ entry.status = .failed

/-- The steps that compensate for a step, by their identifiers: those that are in the definition. -/
def compensationOf (definition : WorkflowDefinition) (step : WorkflowStep) : List String :=
  (((given step.compensationStepId).bind definition.stepMap).map (·.stepId)).toList

/-- Control goes to the `onFailure` step; where there is none the compensation is run and the
execution ends FAILED. -/
def RoutedToFailure (definition : WorkflowDefinition) (step : WorkflowStep)
    (before after : WorkflowExecution) : Prop :=
  match given step.onFailure with
  | some onFailure => after.currentStepId = some onFailure ∧ after.status = .running
  | none =>
    after.status = .failed ∧
      after.compensated = before.compensated ++ compensationOf definition step

/-- The step that the loop is at makes a provider call. -/
def AtProviderCall (definition : WorkflowDefinition) (execution : WorkflowExecution) : Prop :=
  ∃ step, stepAt definition execution = some step ∧ step.type = .providerCall

/-- In this turn, a provider call that fails is handled as a failure. -/
def FailureHandled (definition : WorkflowDefinition) (execution : WorkflowExecution)
    (turn : Turn) : Prop :=
  ∀ step, stepAt definition execution = some step → step.type = .providerCall →
    CallFailed turn.call →
      RecordedFailed step execution (visit definition execution turn) ∧
        RoutedToFailure definition step execution (visit definition execution turn)

/-- The provider call of this turn, if it makes one, succeeds. -/
def CallSucceeds (definition : WorkflowDefinition) (execution : WorkflowExecution)
    (turn : Turn) : Prop :=
  AtProviderCall definition execution → ¬ CallFailed turn.call

def NoFailureLinks (definition : WorkflowDefinition) : Prop :=
  ∀ step ∈ definition.steps, given step.onFailure = none

/-- The provider call of this turn, if it makes one, does not return a failure: it succeeds or it
throws. -/
def FailsByThrowing (definition : WorkflowDefinition) (execution : WorkflowExecution)
    (turn : Turn) : Prop :=
  AtProviderCall definition execution → ¬ ReturnedFailure turn.call

/-- Every failed call is handled as a failure, and an execution without `onFailure` links that
ends COMPLETED has had none. -/
def HandlesFailures (definition : WorkflowDefinition) (execution : WorkflowExecution)
    (turns : List Turn) : Prop :=
  Runs.Along (visit definition) (FailureHandled definition) execution turns ∧
    (NoFailureLinks definition →
      (executeWorkflowSteps definition execution turns).status = .completed →
        Runs.Along (visit definition) (CallSucceeds definition) execution turns)

/-! ## One provider call -/

section Turns

variable {definition : WorkflowDefinition} {step : WorkflowStep} {execution : WorkflowExecution}
  {turn : Turn}

theorem executeStep_threw {message : String} (htype : step.type = .providerCall)
    (hcall : turn.call = .error message) :
    executeStep definition step turn execution =
      handleFailure definition step message turn.compensationCall
        (execution.record step .failed none (some message)) := by
  simp [executeStep, executeSingleStep, htype, hcall]

theorem executeStep_returned {result : ExecutionResult Json} (htype : step.type = .providerCall)
    (hcall : turn.call = .ok result) :
    executeStep definition step turn execution =
      { execution.record step .success (some (.result result)) none with
        currentStepId := step.onSuccess } := by
  simp [executeStep, executeSingleStep, htype, hcall, nextStepId, WorkflowExecution.record]

theorem executeCompensation_stepHistory (compensationStepId : Option String)
    (call : CallOutcome) :
    (executeCompensation definition compensationStepId call execution).stepHistory =
      execution.stepHistory := by
  unfold executeCompensation
  split
  · rfl
  · simp only
    split <;> rfl

theorem executeCompensation_compensated (call : CallOutcome) :
    (executeCompensation definition step.compensationStepId call execution).compensated =
      execution.compensated ++ compensationOf definition step := by
  unfold executeCompensation compensationOf
  cases (given step.compensationStepId).bind definition.stepMap with
  | none => simp
  | some compensation =>
    simp only [Option.map_some, Option.toList_some]
    split <;> rfl

theorem handleFailure_stepHistory (message : String) (call : CallOutcome) :
    (handleFailure definition step message call execution).stepHistory =
      execution.stepHistory := by
  unfold handleFailure
  split
  · rfl
  · exact executeCompensation_stepHistory _ _

theorem handleFailure_routed {before : WorkflowExecution} (message : String) (call : CallOutcome)
    (hrunning : execution.status = .running) (hbefore : execution.compensated = before.compensated) :
    RoutedToFailure definition step before
      (handleFailure definition step message call execution) := by
  unfold RoutedToFailure handleFailure
  cases given step.onFailure with
  | some onFailure => exact ⟨rfl, hrunning⟩
  | none =>
    refine ⟨rfl, ?_⟩
    rw [fail_compensated, executeCompensation_compensated, hbefore]

theorem failureHandled_iff :
    FailureHandled definition execution turn ↔ FailsByThrowing definition execution turn := by
  constructor
  · rintro hhandled ⟨step, hstep, htype⟩ hreturned
    cases hcall : turn.call with
    | error message => rw [hcall] at hreturned; exact hreturned
    | ok result =>
      have hfailed : CallFailed turn.call := by
        rw [hcall] at hreturned ⊢
        exact hreturned
      obtain ⟨⟨entry, hhistory, -, hstatus⟩, -⟩ := hhandled step hstep htype hfailed
      rw [visit_of_stepAt hstep, executeStep_returned htype hcall] at hhistory
      have hentry := List.append_cancel_left hhistory
      rw [← (List.cons.inj hentry).1] at hstatus
      cases hstatus
  · intro hthrowing step hstep htype hfailed
    cases hcall : turn.call with
    | ok result =>
      refine absurd ?_ (hthrowing ⟨step, hstep, htype⟩)
      rw [hcall] at hfailed ⊢
      exact hfailed
    | error message =>
      rw [visit_of_stepAt hstep, executeStep_threw htype hcall]
      refine ⟨⟨_, handleFailure_stepHistory message _, rfl, rfl⟩, ?_⟩
      exact handleFailure_routed message _ (stepAt_running hstep) rfl

theorem visit_failed (hlinks : NoFailureLinks definition)
    (hthrowing : FailsByThrowing definition execution turn)
    (hfails : ¬ CallSucceeds definition execution turn) :
    (visit definition execution turn).status = .failed := by
  obtain ⟨⟨step, hstep, htype⟩, hnot⟩ := Classical.not_imp.mp hfails
  have hfailed : CallFailed turn.call := not_not.mp hnot
  obtain ⟨-, hrouted⟩ := failureHandled_iff.mpr hthrowing step hstep htype hfailed
  rw [RoutedToFailure, hlinks step (stepAt_mem hstep)] at hrouted
  exact hrouted.1

end Turns

/-! ## Whole executions -/

theorem callsSucceed_of_completed {definition : WorkflowDefinition}
    (hlinks : NoFailureLinks definition) (turns : List Turn) (execution : WorkflowExecution)
    (hthrowing : Runs.Along (visit definition) (FailsByThrowing definition) execution turns)
    (hcompleted : (executeWorkflowSteps definition execution turns).status = .completed) :
    Runs.Along (visit definition) (CallSucceeds definition) execution turns := by
  induction turns generalizing execution with
  | nil => trivial
  | cons turn rest ih =>
    obtain ⟨hfirst, hrest⟩ := hthrowing
    refine ⟨?_, ih _ hrest hcompleted⟩
    by_contra hfails
    have hfailed := visit_failed hlinks hfirst hfails
    -- the execution has ended FAILED, and stays so
    have hended : (visit definition execution turn).status ≠ .running := by
      rw [hfailed]
      decide
    rw [executeWorkflowSteps, Runs.run_cons, ← executeWorkflowSteps,
      executeWorkflowSteps_of_not_running hended, hfailed] at hcompleted
    cases hcompleted

/-- Failed provider calls are handled as failures in exactly the executions in which none of them
is returned as a result. -/
theorem handlesFailures_iff (definition : WorkflowDefinition) (execution : WorkflowExecution)
    (turns : List Turn) :
    HandlesFailures definition execution turns ↔
      Runs.Along (visit definition) (FailsByThrowing definition) execution turns := by
  constructor
  · rintro ⟨hhandled, -⟩
    exact hhandled.mono fun _ _ => failureHandled_iff.mp
  · intro hthrowing
    refine ⟨hthrowing.mono fun _ _ => failureHandled_iff.mpr, fun hlinks hcompleted => ?_⟩
    exact callsSucceed_of_completed hlinks turns execution hthrowing hcompleted

def captureWorkflow : WorkflowDefinition where
  workflowId := "WF_CAPTURE"
  name := "Capture"
  version := 1
  triggerEvent := "BOOKING_CONFIRMED"
  status := .active
  steps := [
    ⟨"step_capture", "Capture", .providerCall, {}, some "step_end", none, none⟩,
    ⟨"step_end", "End Workflow", .end, {}, none, none, none⟩]
  startStepId := "step_capture"

def unroutedTurn : Turn where
  call := .ok (routingFailed "No provider available")
  compensationCall := .error "unused"

/-- The routing of the call fails, the step is recorded as a success and the execution ends
COMPLETED. -/
theorem returnedFailure_not_handled :
    ¬ HandlesFailures captureWorkflow
      (startExecution captureWorkflow (fun _ => .undefined) .undefined "cor" none)
      [unroutedTurn, unroutedTurn] := by
  intro hhandles
  have hfirst := failureHandled_iff.mp hhandles.1.1
  exact hfirst ⟨_, rfl, rfl⟩ rfl

end CarRental.Operations
