import CarRental.Integrations.Runtime

/-!
# Repeated requests

`IntegrationRuntimeService.execute` with `IntegrationIdempotencyService`: a request with an
idempotency key is answered from the store, if that has a result under the key, and otherwise from
the providers, whose success is stored.

The calls of one key that are made by one tenant for one capability should share the first success,
unchanged, and nobody else should get it (`SharedOnce`, `Isolated`).  But the store is looked at
before the providers are asked and written after that, its key is nothing but the lower-cased
idempotency key, and what it gives back is the `data` of the result, if it has one
(`idempotent_calls_iff`).
-/

namespace CarRental.Integrations

open Runs

/-! ## Values -/

/-- The values that a provider may return. -/
inductive JsValue where
  | null
  | boolean (value : Bool)
  | number (value : ℚ)
  | nan
  | text (value : String)
  /-- Without a field `data`; `fields` stands for what it has. -/
  | object (fields : String)
  | withData (fields : String) (data : JsValue)
deriving DecidableEq

namespace JsValue

def isTruthy : JsValue → Bool
  | .null | .nan => false
  | .boolean value => value
  | .number value => value ≠ 0
  | .text value => value ≠ ""
  | .object _ | .withData _ _ => true

/-- `result?.data ?? result` -/
def dataOrSelf : JsValue → JsValue
  | .withData fields .null => .withData fields .null
  | .withData _ data => data
  | value => value

end JsValue

/-! ## The store -/

/-- A stored result, with the request that it was stored for. -/
structure CachedEntry where
  result : JsValue
  timestamp : ℤ
  source : ExecutionRequest
deriving DecidableEq

def defaultTtlMs : ℤ := 86400000

inductive Outcome where
  /-- The answer of the store, with the request that it came from. -/
  | stored (value : JsValue) (source : ExecutionRequest)
  | provided (value : JsValue)
  | failed (error : Option ExecutionError)
deriving DecidableEq

structure Answer where
  request : ExecutionRequest
  outcome : Outcome
deriving DecidableEq

structure RuntimeDesk where
  memoryCache : String → Option CachedEntry
  now : ℤ
  /-- The calls that wait for their providers. -/
  inFlight : List ExecutionRequest
  answers : List Answer

inductive RuntimeAction where
  | call (request : ExecutionRequest)
  /-- The providers have been tried. -/
  | finish (request : ExecutionRequest) (routing : Except String (RoutingResolution JsValue))
  | advance (milliseconds : ℕ)

namespace RuntimeDesk

/-- Before the first call. -/
def opened (now : ℤ) : RuntimeDesk := ⟨fun _ => none, now, [], []⟩

/-- `checkIdempotency`, but for the deletion of what is too old. -/
def checkIdempotency (desk : RuntimeDesk) (key : String) : Option (JsValue × ExecutionRequest) :=
  match desk.memoryCache key.toLower with
  | none => none
  | some entry =>
    if desk.now - entry.timestamp < defaultTtlMs then some (entry.result.dataOrSelf, entry.source)
    else none

/-- An entry that is looked at when it is too old is deleted. -/
def dropExpired (desk : RuntimeDesk) (key : String) : RuntimeDesk :=
  { desk with
    memoryCache := Function.update desk.memoryCache key.toLower
      ((desk.memoryCache key.toLower).filter fun entry =>
        desk.now - entry.timestamp < defaultTtlMs) }

def recordSuccess (desk : RuntimeDesk) (key : String) (data : JsValue)
    (source : ExecutionRequest) : RuntimeDesk :=
  { desk with
    memoryCache := Function.update desk.memoryCache key.toLower
      (some ⟨data, desk.now, source⟩) }

/-- What a request with a key gets from the store: something that is not falsy. -/
def cachedFor (desk : RuntimeDesk) (request : ExecutionRequest) :
    Option (JsValue × ExecutionRequest) :=
  request.key.bind fun key => (desk.checkIdempotency key).filter fun cached => cached.1.isTruthy

def answer (desk : RuntimeDesk) (request : ExecutionRequest) (outcome : Outcome) : RuntimeDesk :=
  { desk with answers := desk.answers ++ [⟨request, outcome⟩] }

end RuntimeDesk

/-- `execute` up to where it waits for the routing. -/
def startExecution (desk : RuntimeDesk) (request : ExecutionRequest) : RuntimeDesk :=
  match desk.cachedFor request with
  | some (value, source) => desk.answer request (.stored value source)
  | none =>
    let desk := match request.key with
      | none => desk
      | some key => desk.dropExpired key
    { desk with inFlight := request :: desk.inFlight }

/-- `execute` from there on. -/
def finishExecution (desk : RuntimeDesk) (request : ExecutionRequest)
    (routing : Except String (RoutingResolution JsValue)) : RuntimeDesk :=
  let result := executeRouted request routing
  let desk := { desk with inFlight := desk.inFlight.erase request }
  match result.data with
  | none => desk.answer request (.failed result.error)
  | some value =>
    let desk := match request.key with
      | none => desk
      | some key => desk.recordSuccess key value request
    desk.answer request (.provided value)

def runtimeStep (desk : RuntimeDesk) : RuntimeAction → RuntimeDesk
  | .call request => startExecution desk request
  | .finish request routing =>
    if request ∈ desk.inFlight then finishExecution desk request routing else desk
  | .advance milliseconds => { desk with now := desk.now + milliseconds }

/-! ## The law -/

/-- The category, the capability and the tenant are the same. -/
def SameTenancy (first second : ExecutionRequest) : Prop :=
  first.category = second.category ∧ first.capability = second.capability ∧
    first.tenantId = second.tenantId

instance (first second : ExecutionRequest) : Decidable (SameTenancy first second) :=
  inferInstanceAs (Decidable (_ ∧ _ ∧ _))

/-- And so is the key. -/
def SameScope (first second : ExecutionRequest) : Prop :=
  SameTenancy first second ∧ first.key.isSome = true ∧ first.key = second.key

/-- Once a provider has answered, the later calls of its scope have its answer from the store. -/
def SharedOnce (earlier later : Answer) : Prop :=
  SameScope earlier.request later.request → ∀ value, earlier.outcome = .provided value →
    ∃ source, later.outcome = .stored value source

/-- A stored result is one of the own tenancy. -/
def Isolated (answer : Answer) : Prop :=
  ∀ value source, answer.outcome = .stored value source → SameTenancy source answer.request

structure IdempotentCalls (desk : RuntimeDesk) : Prop where
  shared : desk.answers.Pairwise SharedOnce
  isolated : ∀ answer ∈ desk.answers, Isolated answer

/-- The scope of the request has had a success, with this value. -/
def Succeeded (desk : RuntimeDesk) (request : ExecutionRequest) (value : JsValue) : Prop :=
  ∃ answer ∈ desk.answers, SameScope answer.request request ∧ answer.outcome = .provided value

/-- What a call finds in the store was put there by its own tenancy, and is what its scope has had;
and a call that has found nothing is not overtaken by a success of its scope. -/
def StoredRightly (desk : RuntimeDesk) : RuntimeAction → Prop
  | .call request => ∀ value source, desk.cachedFor request = some (value, source) →
      SameTenancy source request ∧ ∀ value', Succeeded desk request value' → value = value'
  | .finish request _ => request ∈ desk.inFlight → ∀ value, ¬ Succeeded desk request value
  | .advance _ => True

section Law

variable {desk : RuntimeDesk} {request : ExecutionRequest} {outcome : Outcome}

theorem idempotentCalls_answer_iff {desk' : RuntimeDesk} (h : IdempotentCalls desk)
    (hanswers : desk'.answers = desk.answers ++ [⟨request, outcome⟩]) :
    IdempotentCalls desk' ↔
      (∀ value, Succeeded desk request value → ∃ source, outcome = .stored value source) ∧
        ∀ value source, outcome = .stored value source → SameTenancy source request := by
  constructor
  · rintro ⟨hshared, hisolated⟩
    rw [hanswers] at hshared hisolated
    constructor
    · rintro value ⟨earlier, hearlier, hscope, hprovided⟩
      exact (List.pairwise_append.mp hshared).2.2 earlier hearlier _ (List.mem_singleton_self _)
        hscope value hprovided
    · exact hisolated ⟨request, outcome⟩ (List.mem_append_right _ (List.mem_singleton_self _))
  · rintro ⟨hshared, hisolated⟩
    constructor
    · rw [hanswers, List.pairwise_append]
      refine ⟨h.shared, List.pairwise_singleton _ _, fun earlier hearlier later hlater => ?_⟩
      rw [List.mem_singleton.mp hlater]
      exact fun hscope value hprovided => hshared value ⟨earlier, hearlier, hscope, hprovided⟩
    · intro answer hanswer
      rw [hanswers] at hanswer
      rcases List.mem_append.mp hanswer with hold | hnew
      · exact h.isolated answer hold
      · rw [List.mem_singleton.mp hnew]
        exact hisolated

theorem IdempotentCalls.congr (h : IdempotentCalls desk) {desk' : RuntimeDesk}
    (hanswers : desk'.answers = desk.answers) : IdempotentCalls desk' :=
  ⟨hanswers ▸ h.shared, hanswers ▸ h.isolated⟩

theorem startExecution_answers (desk : RuntimeDesk) (request : ExecutionRequest) :
    (startExecution desk request).answers = desk.answers ++
      match desk.cachedFor request with
      | some (value, source) => [⟨request, .stored value source⟩]
      | none => [] := by
  unfold startExecution
  split
  · rfl
  · rw [List.append_nil]
    dsimp only
    split <;> rfl

theorem finishExecution_answers (desk : RuntimeDesk) (request : ExecutionRequest)
    (routing : Except String (RoutingResolution JsValue)) :
    ∃ outcome,
      (finishExecution desk request routing).answers = desk.answers ++ [⟨request, outcome⟩] ∧
      ∀ value source, outcome ≠ .stored value source := by
  unfold finishExecution
  dsimp only
  cases (executeRouted request routing).data with
  | none => exact ⟨.failed _, rfl, fun _ _ h => by cases h⟩
  | some value =>
    refine ⟨.provided value, ?_, fun _ _ h => by cases h⟩
    cases request.key <;> rfl

theorem runtimeStep_idempotent_iff (h : IdempotentCalls desk) (action : RuntimeAction) :
    IdempotentCalls (runtimeStep desk action) ↔ StoredRightly desk action := by
  cases action with
  | call request =>
    have hanswers := startExecution_answers desk request
    dsimp only [runtimeStep, StoredRightly]
    cases hcached : desk.cachedFor request with
    | none =>
      rw [hcached, List.append_nil] at hanswers
      exact iff_of_true (h.congr hanswers) fun _ _ hnone => by cases hnone
    | some cached =>
      obtain ⟨value, source⟩ := cached
      rw [hcached] at hanswers
      rw [idempotentCalls_answer_iff h hanswers]
      constructor
      · rintro ⟨hshared, hisolated⟩ value' source' hsome
        cases hsome
        refine ⟨hisolated value source rfl, fun value' hsucceeded => ?_⟩
        obtain ⟨source', hsame⟩ := hshared value' hsucceeded
        cases hsame
        rfl
      · intro hright
        obtain ⟨htenancy, hsame⟩ := hright value source rfl
        refine ⟨fun value' hsucceeded => ⟨source, ?_⟩, fun value' source' hstored => ?_⟩
        · rw [hsame value' hsucceeded]
        · cases hstored
          exact htenancy
  | finish request routing =>
    dsimp only [runtimeStep, StoredRightly]
    by_cases hflight : request ∈ desk.inFlight
    · obtain ⟨outcome, hanswers, hunstored⟩ := finishExecution_answers desk request routing
      rw [if_pos hflight, imp_iff_right hflight, idempotentCalls_answer_iff h hanswers]
      constructor
      · rintro ⟨hshared, -⟩ value hsucceeded
        obtain ⟨source, hstored⟩ := hshared value hsucceeded
        exact hunstored value source hstored
      · intro hfirst
        exact ⟨fun value hsucceeded => absurd hsucceeded (hfirst value),
          fun value source hstored => absurd hstored (hunstored value source)⟩
    · rw [if_neg hflight]
      exact iff_of_true h fun hmem => absurd hmem hflight
  | advance milliseconds =>
    exact iff_of_true (h.congr rfl) trivial

end Law

/-- Two tenants use one key. -/
def sampleCall (tenantId : String) : ExecutionRequest :=
  ⟨.payment, "CREATE_ORDER", some tenantId, some "order-1", false⟩

def sampleSuccess : RoutingResolution JsValue where
  primary := ⟨"razorpay", true, true, true, fun _ =>
    ⟨.ok (some (.object "order_1")), true, true, by rintro - error h; cases h⟩⟩
  fallbackChain := []

end CarRental.Integrations
