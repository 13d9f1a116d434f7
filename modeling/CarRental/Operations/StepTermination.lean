import Mathlib.Data.Finite.Prod
import Mathlib.Data.Set.Finite.Lattice
import Mathlib.Data.Set.Finite.Powerset
import CarRental.Lib.Paths
import CarRental.Operations.WorkflowEngine

/-!
# How long a workflow execution goes on

What the loop does next depends on the step it is at and on the context data, and of both only
finitely many can be reached: the links of a definition name finitely many steps, and its ACTION
steps assign finitely many values.  So an execution that goes on for ever comes back to a step with
the context data it had there (`visitsFinitely_iff`).
-/

namespace CarRental.Operations

open CarRental.Integrations Paths

/-- What the rest of an execution depends on. -/
@[ext]
structure LoopControl where
  currentStepId : Option String
  contextData : Fields

def WorkflowExecution.control (execution : WorkflowExecution) : LoopControl :=
  ⟨execution.currentStepId, execution.contextData⟩

/-- The loop comes to an end, whatever number of turns that takes. -/
def VisitsFinitely (definition : WorkflowDefinition) (execution : WorkflowExecution)
    (turns : ℕ → Turn) : Prop :=
  ∃ n, (executeWorkflowSteps definition execution ((List.range n).map turns)).status ≠ .running

/-- One turn of the loop may lead from one point to the other. -/
def Follows (definition : WorkflowDefinition) (before after : LoopControl) : Prop :=
  ∃ execution turn, execution.status = .running ∧ execution.control = before ∧
    (visit definition execution turn).status = .running ∧
      (visit definition execution turn).control = after

/-! ## A turn depends on the control alone -/

section Congruence

variable {definition : WorkflowDefinition} {first second : WorkflowExecution}

/-- The two executions agree on what the loop goes by. -/
def SameControl (first second : WorkflowExecution) : Prop :=
  first.status = second.status ∧ first.control = second.control

theorem SameControl.contextData (h : SameControl first second) :
    first.contextData = second.contextData :=
  congrArg LoopControl.contextData h.2

theorem SameControl.currentStepId (h : SameControl first second) :
    first.currentStepId = second.currentStepId :=
  congrArg LoopControl.currentStepId h.2

theorem SameControl.record (h : SameControl first second) (step : WorkflowStep)
    (status : StepStatus) (output : Option StepOutput) (error : Option String) :
    SameControl (first.record step status output error)
      (second.record step status output error) :=
  ⟨h.1, h.2⟩

theorem SameControl.fail (h : SameControl first second) (error : WorkflowError) :
    SameControl (first.fail error) (second.fail error) :=
  ⟨rfl, h.2⟩

theorem SameControl.executeCompensation (h : SameControl first second)
    (compensationStepId : Option String) (call : CallOutcome) :
    SameControl (executeCompensation definition compensationStepId call first)
      (executeCompensation definition compensationStepId call second) := by
  unfold CarRental.Operations.executeCompensation
  cases (given compensationStepId).bind definition.stepMap with
  | none => exact h
  | some step =>
    simp only [h.contextData]
    cases executeSingleStep step call second.contextData with
    | ok value => exact ⟨h.1, LoopControl.ext h.currentStepId rfl⟩
    | error message => exact ⟨h.1, LoopControl.ext h.currentStepId rfl⟩

theorem SameControl.handleFailure (h : SameControl first second) (step : WorkflowStep)
    (message : String) (call : CallOutcome) :
    SameControl (handleFailure definition step message call first)
      (handleFailure definition step message call second) := by
  unfold CarRental.Operations.handleFailure
  cases given step.onFailure with
  | some onFailure => exact ⟨h.1, LoopControl.ext rfl h.contextData⟩
  | none => exact (h.executeCompensation _ _).fail _

theorem SameControl.visit (h : SameControl first second) (turn : Turn) :
    SameControl (visit definition first turn) (visit definition second turn) := by
  unfold CarRental.Operations.visit
  rw [h.1, h.currentStepId]
  by_cases hrunning : second.status = .running
  · rw [if_pos hrunning, if_pos hrunning]
    cases given second.currentStepId with
    | none => exact ⟨rfl, LoopControl.ext rfl h.contextData⟩
    | some stepId =>
      simp only
      cases definition.stepMap stepId with
      | none => exact h.fail _
      | some step =>
        simp only [executeStep, h.contextData]
        split
        · exact ⟨rfl, rfl⟩
        · cases executeSingleStep step turn.call second.contextData with
          | ok value => exact ⟨h.1, rfl⟩
          | error message => exact (h.record _ _ _ _).handleFailure _ _ _
  · rw [if_neg hrunning, if_neg hrunning]
    exact h

end Congruence

/-! ## Endless executions are endless paths -/

section Endless

variable {definition : WorkflowDefinition} {execution : WorkflowExecution}

theorem executeWorkflowSteps_succ (turns : ℕ → Turn) (n : ℕ) :
    executeWorkflowSteps definition execution ((List.range (n + 1)).map turns) =
      visit definition
        (executeWorkflowSteps definition execution ((List.range n).map turns)) (turns n) := by
  simp [executeWorkflowSteps, List.range_succ, Runs.run_append]

theorem endless_of_running {turns : ℕ → Turn}
    (hrunning : ∀ n, (executeWorkflowSteps definition execution
      ((List.range n).map turns)).status = .running) :
    Endless (Follows definition) execution.control := by
  refine ⟨fun n => (executeWorkflowSteps definition execution
    ((List.range n).map turns)).control, rfl, fun n => ?_⟩
  have hnext := hrunning (n + 1)
  rw [executeWorkflowSteps_succ] at hnext
  exact ⟨_, turns n, hrunning n, rfl, hnext,
    congrArg WorkflowExecution.control (executeWorkflowSteps_succ turns n).symm⟩

theorem running_of_endless (hrunning : execution.status = .running)
    (hendless : Endless (Follows definition) execution.control) :
    ∃ turns : ℕ → Turn, ∀ n, (executeWorkflowSteps definition execution
      ((List.range n).map turns)).status = .running := by
  obtain ⟨path, hstart, hpath⟩ := hendless
  choose witness turns hstatus hcontrol hnext hafter using hpath
  refine ⟨turns, fun n => ?_⟩
  suffices hsame : (executeWorkflowSteps definition execution
      ((List.range n).map turns)).status = .running ∧
        (executeWorkflowSteps definition execution
          ((List.range n).map turns)).control = path n from hsame.1
  induction n with
  | zero => exact ⟨hrunning, hstart.symm⟩
  | succ n ih =>
    have hbefore : SameControl (executeWorkflowSteps definition execution
        ((List.range n).map turns)) (witness n) :=
      ⟨ih.1.trans (hstatus n).symm, ih.2.trans (hcontrol n).symm⟩
    have hvisited := @SameControl.visit definition _ _ hbefore (turns n)
    rw [executeWorkflowSteps_succ]
    exact ⟨hvisited.1.trans (hnext n), hvisited.2.trans (hafter n)⟩

end Endless

/-! ## Only finitely many points can be reached -/

/-- The steps that a step names to be the next. -/
def WorkflowStep.links (step : WorkflowStep) : List (Option String) :=
  [step.onSuccess, step.onFailure, step.config.trueStepId, step.config.falseStepId]

/-- The values that a definition assigns. -/
def WorkflowDefinition.assignments (definition : WorkflowDefinition) : List (String × Json) :=
  definition.steps.flatMap fun step => step.config.mutateContext

/-- The points that the links and the assignments of the definition allow for. -/
def WithinReach (definition : WorkflowDefinition) (start : LoopControl) : Set LoopControl :=
  {control |
    (control.currentStepId = start.currentStepId ∨
      ∃ step ∈ definition.steps, control.currentStepId ∈ step.links) ∧
    ∀ name, control.contextData name = start.contextData name ∨
      (name, control.contextData name) ∈ definition.assignments}

theorem finite_replacements {ι β : Type*} (default : ι → β) (listed : List (ι × β)) :
    {f : ι → β | ∀ i, f i = default i ∨ (i, f i) ∈ listed}.Finite := by
  -- such a function is known from the listed values that it takes
  refine Set.Finite.of_finite_image
    (f := fun f => {entry : ι × β | entry ∈ listed ∧ f entry.1 = entry.2}) ?_ ?_
  · refine (Set.Finite.finite_subsets (List.finite_toSet listed)).subset ?_
    rintro _ ⟨f, -, rfl⟩ entry hentry
    exact hentry.1
  · intro f hf g hg heq
    funext i
    have htaken : ∀ b, (i, b) ∈ listed → (f i = b ↔ g i = b) := by
      intro b hb
      have hiff : (i, b) ∈ {entry : ι × β | entry ∈ listed ∧ f entry.1 = entry.2} ↔
          (i, b) ∈ {entry : ι × β | entry ∈ listed ∧ g entry.1 = entry.2} := by
        rw [show {entry : ι × β | entry ∈ listed ∧ f entry.1 = entry.2} =
          {entry : ι × β | entry ∈ listed ∧ g entry.1 = entry.2} from heq]
      simpa [hb] using hiff
    rcases hf i with hdefault | hlisted
    · rcases hg i with hdefault' | hlisted'
      · rw [hdefault, hdefault']
      · exact (htaken _ hlisted').mpr rfl
    · exact ((htaken _ hlisted).mp rfl).symm

theorem withinReach_finite (definition : WorkflowDefinition) (start : LoopControl) :
    (WithinReach definition start).Finite := by
  have hsteps : {stepId : Option String | stepId = start.currentStepId ∨
      ∃ step ∈ definition.steps, stepId ∈ step.links}.Finite := by
    refine (List.finite_toSet
      (start.currentStepId :: definition.steps.flatMap WorkflowStep.links)).subset ?_
    intro stepId hstepId
    simpa using hstepId
  have hcontexts := finite_replacements start.contextData definition.assignments
  refine ((hsteps.prod hcontexts).image fun point => LoopControl.mk point.1 point.2).subset ?_
  intro control hcontrol
  exact ⟨(control.currentStepId, control.contextData), hcontrol, rfl⟩

theorem start_withinReach (definition : WorkflowDefinition) (start : LoopControl) :
    start ∈ WithinReach definition start :=
  ⟨.inl rfl, fun _ => .inl rfl⟩

section Closed

variable {definition : WorkflowDefinition} {step : WorkflowStep} {execution : WorkflowExecution}
  {turn : Turn}

theorem executeSingleStep_spec {call : CallOutcome} {contextData contextData' : Fields}
    {output : StepOutput}
    (hstep : executeSingleStep step call contextData = .ok (output, contextData')) :
    nextStepId step output ∈ step.links ∧
      (contextData' = contextData ∨ contextData' = contextData.assign step.config.mutateContext) := by
  have hlinked : ∀ next ∈ step.links, (given next).or step.onSuccess ∈ step.links := by
    intro next hnext
    cases hgiven : given next with
    | none => simp [WorkflowStep.links]
    | some stepId =>
      rw [given_mem hgiven] at hnext
      simpa using hnext
  have hsuccess : step.onSuccess ∈ step.links := by simp [WorkflowStep.links]
  unfold executeSingleStep at hstep
  split at hstep
  case h_1 | h_2 =>
    obtain ⟨rfl, rfl⟩ := Prod.mk.inj (Except.ok.inj hstep)
    refine ⟨hlinked _ ?_, .inl rfl⟩
    split <;> simp [WorkflowStep.links]
  case h_3 =>
    cases call <;> (obtain ⟨rfl, rfl⟩ := Prod.mk.inj (Except.ok.inj hstep)) <;>
      exact ⟨hsuccess, .inl rfl⟩
  case h_4 =>
    cases call with
    | ok result =>
      obtain ⟨rfl, rfl⟩ := Prod.mk.inj (Except.ok.inj hstep)
      exact ⟨hsuccess, .inl rfl⟩
    | error message => cases hstep
  case h_6 =>
    obtain ⟨rfl, rfl⟩ := Prod.mk.inj (Except.ok.inj hstep)
    exact ⟨hsuccess, .inr rfl⟩
  all_goals
    obtain ⟨rfl, rfl⟩ := Prod.mk.inj (Except.ok.inj hstep)
    exact ⟨hsuccess, .inl rfl⟩

theorem executeStep_spec
    (hrunning : (executeStep definition step turn execution).status = .running) :
    (executeStep definition step turn execution).currentStepId ∈ step.links ∧
      ((executeStep definition step turn execution).contextData = execution.contextData ∨
        (executeStep definition step turn execution).contextData =
          execution.contextData.assign step.config.mutateContext) := by
  unfold executeStep at hrunning ⊢
  split
  · rename_i hend
    rw [if_pos hend] at hrunning
    cases hrunning
  · rename_i hend
    rw [if_neg hend] at hrunning
    cases hsingle : executeSingleStep step turn.call execution.contextData with
    | ok value =>
      obtain ⟨output, contextData'⟩ := value
      exact executeSingleStep_spec hsingle
    | error message =>
      simp only [hsingle, handleFailure] at hrunning ⊢
      cases hfailure : given step.onFailure with
      | some onFailure =>
        refine ⟨?_, .inl rfl⟩
        have hlink := given_mem hfailure
        simp [WorkflowStep.links, hlink]
      | none =>
        rw [hfailure] at hrunning
        cases hrunning

theorem withinReach_closed (definition : WorkflowDefinition) (start : LoopControl) :
    Closed (Follows definition) (WithinReach definition start) := by
  rintro _ hbefore _ ⟨execution, turn, -, rfl, hafter, rfl⟩
  cases hstep : stepAt definition execution with
  | none => exact absurd hafter (visit_status_of_stepAt_none hstep turn)
  | some step =>
    have hmem := stepAt_mem hstep
    rw [visit_of_stepAt hstep] at hafter ⊢
    obtain ⟨hlink, hcontext⟩ := executeStep_spec hafter
    refine ⟨.inr ⟨step, hmem, hlink⟩, fun name => ?_⟩
    rcases hcontext with hkept | hassigned
    · rw [show (executeStep definition step turn execution).control.contextData =
        execution.contextData from hkept]
      exact hbefore.2 name
    · rw [show (executeStep definition step turn execution).control.contextData =
        execution.contextData.assign step.config.mutateContext from hassigned]
      rcases execution.contextData.assign_apply step.config.mutateContext name with hkept | hnew
      · rw [hkept]
        exact hbefore.2 name
      · exact .inr (List.mem_flatMap.mpr ⟨step, hmem, hnew⟩)

end Closed

theorem visitsFinitely_iff (definition : WorkflowDefinition) {execution : WorkflowExecution}
    (hrunning : execution.status = .running) :
    (∀ turns, VisitsFinitely definition execution turns) ↔
      ¬ ReachesCycle (Follows definition) execution.control := by
  rw [← endless_iff_reachesCycle (withinReach_finite definition execution.control)
    (withinReach_closed definition execution.control) (start_withinReach _ _)]
  constructor
  · intro hfinite hendless
    obtain ⟨turns, hturns⟩ := running_of_endless hrunning hendless
    obtain ⟨n, hended⟩ := hfinite turns
    exact hended (hturns n)
  · intro hnot turns
    by_contra hinfinite
    refine hnot (@endless_of_running definition execution turns fun n => ?_)
    by_contra hended
    exact hinfinite ⟨n, hended⟩

end CarRental.Operations
