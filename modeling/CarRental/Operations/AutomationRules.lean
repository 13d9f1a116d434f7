import Mathlib.Data.List.Sort
import CarRental.Operations.DomainEvents

/-!
# The event bus and the automation rules

`DomainEventBusService.publish` with the rule engine behind it.  An action that triggers a workflow
emits an event, whose rules are all done before the action is: what is still to be done is a
stack of tasks (`Cascade`).  What a single predicate answers about an event is an argument.
-/

namespace CarRental.Operations

inductive PredicateLogic where
  | and
  | or
  | not
deriving DecidableEq, Repr

inductive RuleOperator where
  | equals
  | notEquals
  | greaterThan
  | lessThan
  | contains
  | in
  | exists
  | dateComparison
  | relativeDate
deriving DecidableEq, Repr

inductive RulePredicate where
  | mk (field : String) (operator : RuleOperator) (value : Json) (logic : Option PredicateLogic)
      (nestedPredicates : List RulePredicate)

def RulePredicate.logic : RulePredicate → Option PredicateLogic
  | .mk _ _ _ logic _ => logic

@[simp] theorem RulePredicate.logic_mk (field : String) (operator : RuleOperator) (value : Json)
    (logic : Option PredicateLogic) (nestedPredicates : List RulePredicate) :
    (RulePredicate.mk field operator value logic nestedPredicates).logic = logic := rfl

inductive RuleActionType where
  | sendNotification
  | callIntegration
  | triggerWorkflow
  | createTask
  | updateEntity
deriving DecidableEq, Repr

/-- An action, with the event that its configuration names. -/
structure RuleAction where
  actionType : RuleActionType
  triggerEvent : Option String
deriving DecidableEq

inductive ScopeLevel where
  | platform
  | vendor
  | branch
deriving DecidableEq, Repr

structure RuleScope where
  level : ScopeLevel
  scopeId : Option String
deriving DecidableEq

structure AutomationRule where
  ruleId : String
  name : String
  triggerEvent : String
  predicates : List RulePredicate
  actions : List RuleAction
  isEnabled : Bool
  priority : ℚ
  tenantScope : Option RuleScope

/-! ## Matching -/

section Predicates

variable (check : RulePredicate → Bool)

mutual

/-- The predicate passes, and so do the ones nested in it. -/
def RulePredicate.totalPassed : RulePredicate → Bool
  | .mk field operator value logic nestedPredicates =>
    check (.mk field operator value logic nestedPredicates) &&
      evaluatePredicates nestedPredicates

def evaluatePredicates : List RulePredicate → Bool
  | [] => true
  | pred :: rest =>
    match pred.logic with
    | some .or => pred.totalPassed || evaluatePredicates rest
    | some .not => !pred.totalPassed && evaluatePredicates rest
    | _ => pred.totalPassed && evaluatePredicates rest

end

end Predicates

/-- The rule is for the tenant of the event; an event without one is for every rule. -/
def AutomationRule.appliesTo (rule : AutomationRule) (event : DomainEvent) : Bool :=
  match rule.tenantScope.bind fun scope => (given scope.scopeId).map (scope.level, ·) with
  | none => true
  | some (level, scopeId) =>
    let eventScopeId :=
      if level = .vendor then event.tenantContext.bind (·.vendorId)
      else event.tenantContext.bind (·.branchId)
    match given eventScopeId with
    | none => true
    | some eventScopeId => eventScopeId == scopeId

def candidateRules (rules : List AutomationRule) (event : DomainEvent) : List AutomationRule :=
  (rules.filter fun rule => rule.isEnabled ∧ rule.triggerEvent = event.eventType).mergeSort
    fun a b => decide (b.priority ≤ a.priority)

/-! ## Tasks -/

/-- A rule still to be evaluated, or an action still to be performed, for an event. -/
inductive Task where
  | evaluate (rule : AutomationRule) (event : DomainEvent)
  | perform (action : RuleAction) (event : DomainEvent)

/-- What is to be done next first, with the events that the bus has seen and those it has
dispatched. -/
structure Cascade where
  tasks : List Task
  processedEventIds : List String
  emitted : List DomainEvent

/-- What the environment gives to a task: the answers of the predicates, and the stamp of an event
that is emitted. -/
structure Moment where
  check : RulePredicate → DomainEvent → Bool
  stamp : Stamp

def RuleAction.emits (action : RuleAction) : Option String :=
  if action.actionType = .triggerWorkflow then
    some ((given action.triggerEvent).getD "BOOKING_CREATED")
  else none

/-- The event that an action emits for another. -/
def emittedEvent (eventType : String) (event : DomainEvent) (stamp : Stamp) : DomainEvent :=
  envelope
    { eventType
      aggregateType := event.aggregateType
      aggregateId := event.aggregateId
      payload := event.payload
      correlationId := event.correlationId
      causationId := some event.eventId }
    stamp

def evaluations (rules : List AutomationRule) (event : DomainEvent) : List Task :=
  (candidateRules rules event).map (Task.evaluate · event)

/-- `publish`: an event that was seen before is dropped. -/
def publish (rules : List AutomationRule) (event : DomainEvent) (cascade : Cascade) : Cascade :=
  if event.eventId ∈ cascade.processedEventIds then cascade
  else
    { tasks := evaluations rules event ++ cascade.tasks
      processedEventIds := event.eventId :: cascade.processedEventIds
      emitted := cascade.emitted ++ [event] }

/-- One task of `evaluateRulesForEvent` and `executeRuleActions`. -/
def performTask (rules : List AutomationRule) (cascade : Cascade) (moment : Moment) : Cascade :=
  match cascade.tasks with
  | [] => cascade
  | .evaluate rule event :: rest =>
    if rule.appliesTo event && evaluatePredicates (moment.check · event) rule.predicates then
      { cascade with tasks := rule.actions.map (Task.perform · event) ++ rest }
    else { cascade with tasks := rest }
  | .perform action event :: rest =>
    match action.emits with
    | none => { cascade with tasks := rest }
    | some eventType =>
      publish rules (emittedEvent eventType event moment.stamp) { cascade with tasks := rest }

/-- An event that someone publishes, on a bus that has seen others. -/
def published (rules : List AutomationRule) (processedEventIds : List String)
    (event : DomainEvent) : Cascade :=
  publish rules event ⟨[], processedEventIds, []⟩

/-- The cascade after so many tasks. -/
def after (rules : List AutomationRule) (moments : ℕ → Moment) (cascade : Cascade) : ℕ → Cascade
  | 0 => cascade
  | n + 1 => performTask rules (after rules moments cascade n) (moments n)

/-! ## Lemmas -/

theorem after_succ (rules : List AutomationRule) (moments : ℕ → Moment) (cascade : Cascade)
    (n : ℕ) :
    after rules moments cascade (n + 1) =
      performTask rules (after rules moments cascade n) (moments n) := rfl

theorem mem_candidateRules {rules : List AutomationRule} {event : DomainEvent}
    {rule : AutomationRule} :
    rule ∈ candidateRules rules event ↔
      rule ∈ rules ∧ rule.isEnabled = true ∧ rule.triggerEvent = event.eventType := by
  simp [candidateRules, List.mem_mergeSort]

@[simp] theorem emittedEvent_eventId (eventType : String) (event : DomainEvent) (stamp : Stamp) :
    (emittedEvent eventType event stamp).eventId = stamp.eventId := rfl

theorem appliesTo_of_no_tenant (rule : AutomationRule) {event : DomainEvent}
    (htenant : event.tenantContext = none) : rule.appliesTo event = true := by
  unfold AutomationRule.appliesTo
  split
  · rfl
  · simp [htenant, given]

theorem evaluatePredicates_of_answers : ∀ predicates : List RulePredicate,
    evaluatePredicates (fun pred => pred.logic ≠ some .not) predicates = true
  | [] => rfl
  | .mk field operator value logic nestedPredicates :: rest => by
      have hrest := evaluatePredicates_of_answers rest
      have hnested := evaluatePredicates_of_answers nestedPredicates
      rcases logic with _ | _ | _ | _ <;>
        simp only [evaluatePredicates, RulePredicate.totalPassed, RulePredicate.logic_mk, hrest,
          hnested] <;>
        rfl

end CarRental.Operations
