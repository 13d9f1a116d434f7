import CarRental.Bookings.Cancellation

/-!
# Failures of providers

`FailureClassifierService`: what a provider's adapter has thrown is put into a class by the kind of
the error, then by its code, its HTTP status and its message, in this order.  Of the class alone it
is read off whether the call may be tried again, and whether another provider may be tried.

`PaymentRoutingService.evaluateFallbackSafety` is a second opinion on the latter: it also asks
whether the request has reached the gateway.
-/

namespace CarRental.Integrations

inductive FailureClassification where
  | transient
  | rateLimited
  | timeout
  | network
  | authentication
  | invalidRequest
  | providerDeclined
  | duplicate
  | notSupported
  | configuration
  | permanent
deriving DecidableEq, Repr

/-- The subclasses of `IntegrationError` that are classified as such. -/
inductive IntegrationErrorKind where
  | rateLimitExceeded
  | providerTimeout
  | transientNetwork
  | authentication
  | duplicateRequest
  | capabilityNotSupported
  | providerNotConfigured
deriving DecidableEq

/-- What an adapter has thrown. -/
structure ProviderError where
  kind : Option IntegrationErrorKind
  message : Option String
  /-- `String(error)` -/
  text : String
  status : Option ℤ
  statusCode : Option ℤ
  /-- `response.status` -/
  responseStatus : Option ℤ
  code : Option String
  /-- `response.data.code` -/
  responseCode : Option String
deriving DecidableEq

namespace ProviderError

/-- `error.status || error.statusCode || error.response.status` -/
def httpStatus (error : ProviderError) : Option ℤ :=
  (error.status.filter (· ≠ 0)).or ((error.statusCode.filter (· ≠ 0)).or error.responseStatus)

/-- `error.code || error.response.data.code` -/
def errorCode (error : ProviderError) : Option String :=
  (error.code.filter (· ≠ "")).or error.responseCode

/-- `error.message || String(error)` -/
def messageText (error : ProviderError) : String :=
  (error.message.filter (· ≠ "")).getD error.text

/-- `message.includes(part)` -/
def contains (error : ProviderError) (part : String) : Bool :=
  includesText error.messageText part

/-- `message.toLowerCase().includes(part)` -/
def mentions (error : ProviderError) (part : String) : Bool :=
  includesText (String.ofList (error.messageText.toList.map Char.toLower)) part

end ProviderError

def IntegrationErrorKind.classification : IntegrationErrorKind → FailureClassification
  | .rateLimitExceeded => .rateLimited
  | .providerTimeout => .timeout
  | .transientNetwork => .network
  | .authentication => .authentication
  | .duplicateRequest => .duplicate
  | .capabilityNotSupported => .notSupported
  | .providerNotConfigured => .configuration

def classify (error : ProviderError) : FailureClassification :=
  let status := error.httpStatus
  let code := error.errorCode
  match error.kind with
  | some kind => kind.classification
  | none =>
    if code = some "ETIMEDOUT" ∨ code = some "ESOCKETTIMEDOUT" ∨ error.mentions "timeout" ∨
        error.mentions "timed out" ∨ error.mentions "time out" ∨ status = some 504 then .timeout
    else if code = some "ECONNRESET" ∨ code = some "ECONNREFUSED" ∨ code = some "EAI_AGAIN" ∨
        code = some "ENOTFOUND" ∨ code = some "EPIPE" ∨ error.mentions "network" then .network
    else if status = some 429 ∨ error.mentions "rate limit" then .rateLimited
    else if status = some 401 ∨ status = some 403 ∨ error.mentions "unauthorized" then
      .authentication
    else if status = some 409 ∨ error.mentions "duplicate" then .duplicate
    else if status = some 400 ∨ status = some 422 ∨ error.mentions "validation" then
      if error.mentions "declined" ∨ error.mentions "insufficient" ∨ error.mentions "rejected" ∨
          error.mentions "expired_card" then .providerDeclined
      else .invalidRequest
    else if status.any (500 ≤ ·) ∨ error.contains "503" ∨ error.contains "502" ∨
        error.contains "504" ∨ error.contains "500" ∨ error.mentions "unavailable" then .transient
    else if error.mentions "declined" ∨ error.mentions "insufficient" ∨
        error.mentions "do_not_honor" then .providerDeclined
    else .permanent

def isRetryable (classification : FailureClassification) : Bool :=
  classification ∈ [.transient, .rateLimited, .timeout, .network]

def isFallbackEligible (classification : FailureClassification) : Bool :=
  classification ∉ [.invalidRequest, .permanent, .duplicate]

/-! ## The second opinion -/

inductive FallbackAction where
  | pendingReconciliation
  | abort
  | failover
deriving DecidableEq, Repr

inductive AttemptStage where
  | preFlight
  | postOrderDispatch
  | gatewayResponse
  | signatureVerify
deriving DecidableEq, Repr

structure AttemptContext where
  failureClassification : Option FailureClassification
  stage : Option AttemptStage
  requestDispatchedToGateway : Bool
  lastKnownStatus : Option String
deriving DecidableEq

structure FallbackSafetyEvaluation where
  safeToFailover : Bool
  action : FallbackAction
  recommendedPaymentStatus : String
deriving DecidableEq

def evaluateFallbackSafety (attemptContext : AttemptContext) : FallbackSafetyEvaluation :=
  let isDispatched := attemptContext.stage = some .postOrderDispatch ∨
    attemptContext.requestDispatchedToGateway
  let isIndeterminate := attemptContext.lastKnownStatus = some "INDETERMINATE" ∨
    attemptContext.failureClassification = some .timeout ∨
    attemptContext.failureClassification = some .network ∨
    attemptContext.failureClassification = some .transient
  if isDispatched ∧ isIndeterminate then
    ⟨false, .pendingReconciliation, "PENDING_RECONCILIATION"⟩
  else if attemptContext.failureClassification = some .invalidRequest ∨
      attemptContext.failureClassification = some .authentication then
    ⟨false, .abort, "FAILED"⟩
  else ⟨true, .failover, "FAILED"⟩

/-!
## The integration runtime

`IntegrationRuntimeService.execute`, from the routing on: the providers of the chain are tried in
order, each up to three times.  A provider is passed over while its circuit is open or its limits
are used up, and the chain is left with the first success.

What the circuit breaker, the limiter and the providers answer are arguments.  Of each invocation it
is also given what the runtime does not see: whether the request has reached the provider, and
whether the provider has done what it was asked (`Invocation`).
-/

/-- The categories, by their values; those that no code looks at are `other`. -/
inductive IntegrationCategory where
  | payment
  | payouts
  | other (name : String)
deriving DecidableEq, Repr

structure ExecutionRequest where
  category : IntegrationCategory
  capability : String
  tenantId : Option String
  idempotencyKey : Option String
  isIdempotent : Bool
deriving DecidableEq

def ExecutionRequest.key (request : ExecutionRequest) : Option String :=
  request.idempotencyKey.filter (· ≠ "")

/-! ## Providers -/

/-- The failure leaves open what has become of the request. -/
def Indeterminate (error : ProviderError) (dispatched : Bool) : Prop :=
  (evaluateFallbackSafety ⟨some (classify error), none, dispatched, none⟩).action =
    .pendingReconciliation

instance (error : ProviderError) (dispatched : Bool) : Decidable (Indeterminate error dispatched) :=
  inferInstanceAs (Decidable (_ = _))

/-- One call of a provider: a value, which may be `undefined`, or an error.  A provider that has
refused has not done what it was asked. -/
structure Invocation (Value : Type) where
  result : Except ProviderError (Option Value)
  dispatched : Bool
  executed : Bool
  settled : executed = true → ∀ error, result = .error error → Indeterminate error dispatched

/-- A provider of the chain, with what it is going to answer to each try. -/
structure Candidate (Value : Type) where
  providerId : String
  canExecute : Bool
  rateAllowed : Bool
  concurrencyAcquired : Bool
  answers : ℕ → Invocation Value

/-- The provider is not passed over. -/
def Candidate.admits {Value : Type} (candidate : Candidate Value) : Bool :=
  candidate.canExecute && candidate.rateAllowed && candidate.concurrencyAcquired

/-! ## Attempts -/

inductive AttemptStatus where
  | success
  | failed
  | circuitOpen
  | rateLimited
  | timeout
deriving DecidableEq, Repr

structure AttemptRecord where
  attemptNumber : ℕ
  providerId : String
  status : AttemptStatus
  errorClassification : Option FailureClassification
  errorMessage : Option String
deriving DecidableEq

structure ExecutionError where
  code : String
  message : String
  classification : FailureClassification
  providerId : String
deriving DecidableEq

/-- An invocation that was made, with its place in the chain. -/
structure Call (Value : Type) where
  position : ℕ
  invocation : Invocation Value

/-- The variables of the loops. -/
structure ExecutionState (Value : Type) where
  attempts : List AttemptRecord
  fallbackOccurred : Bool
  finalSuccessfulResult : Option Value
  finalProviderUsed : String
  finalError : Option ExecutionError
  calls : List (Call Value)

structure ExecutionResult (Value : Type) where
  success : Bool
  data : Option Value
  error : Option ExecutionError
  providerId : String
  attempts : List AttemptRecord
  fallbackOccurred : Bool

section Loops

variable {Value : Type}

def maxRetriesOnProvider : ℕ := 2

/-- The class is one to try again, the request may be repeated, and there are tries left. -/
def isSafeToRetry (request : ExecutionRequest) (classification : FailureClassification)
    (retryIdx : ℕ) : Bool :=
  isRetryable classification && (request.isIdempotent || request.key.isSome) &&
    decide (retryIdx < maxRetriesOnProvider)

def retryLoop (request : ExecutionRequest) (answers : ℕ → Invocation Value) :
    (triesLeft retryIdx : ℕ) → List (Invocation Value)
  | 0, _ => []
  | triesLeft + 1, retryIdx =>
    let invocation := answers retryIdx
    match invocation.result with
    | .ok _ => [invocation]
    | .error error =>
      if isSafeToRetry request (classify error) retryIdx then
        invocation :: retryLoop request answers triesLeft (retryIdx + 1)
      else
        -- whether the failure allows for a fallback is looked at, and nothing is made of it
        [invocation]

def attemptsOn (request : ExecutionRequest) (candidate : Candidate Value) :
    List (Invocation Value) :=
  retryLoop request candidate.answers (maxRetriesOnProvider + 1) 0

def providerSuccess (tried : List (Invocation Value)) : Bool :=
  tried.any fun invocation => invocation.result.isOk

namespace ExecutionState

/-- A provider that is passed over. -/
def bypass (state : ExecutionState Value) (providerId : String) (status : AttemptStatus)
    (classification : FailureClassification) (message : String) : ExecutionState Value :=
  { state with
    attempts := state.attempts ++
      [⟨state.attempts.length + 1, providerId, status, some classification, some message⟩] }

/-- What is noted of an invocation. -/
def recordAttempt (position : ℕ) (providerId : String) (state : ExecutionState Value)
    (invocation : Invocation Value) : ExecutionState Value :=
  let attemptNumber := state.attempts.length + 1
  let calls := state.calls ++ [⟨position, invocation⟩]
  match invocation.result with
  | .ok value =>
    { state with
      attempts := state.attempts ++ [⟨attemptNumber, providerId, .success, none, none⟩]
      finalSuccessfulResult := value
      finalProviderUsed := providerId
      calls }
  | .error error =>
    let classification := classify error
    { state with
      attempts := state.attempts ++ [
        { attemptNumber
          providerId
          status :=
            if classification = .timeout then .timeout
            else if classification = .rateLimited then .rateLimited
            else .failed
          errorClassification := some classification
          errorMessage := some ((error.message.filter (· ≠ "")).getD "Execution error") }]
      finalError := some
        { code := (error.code.filter (· ≠ "")).getD "PROVIDER_ERROR"
          message := (error.message.filter (· ≠ "")).getD "Execution failed on provider"
          classification
          providerId }
      calls }

end ExecutionState

/-- The fallback loop, from the candidate at `position` on. -/
def fallbackLoop (request : ExecutionRequest) :
    (position : ℕ) → List (Candidate Value) → ExecutionState Value → ExecutionState Value
  | _, [], state => state
  | position, candidate :: rest, state =>
    let state := { state with
      fallbackOccurred := state.fallbackOccurred || decide (0 < position) }
    let providerId := candidate.providerId
    if !candidate.canExecute then
      fallbackLoop request (position + 1) rest (state.bypass providerId .circuitOpen .transient
        ("Circuit breaker is OPEN for provider " ++ providerId))
    else if !candidate.rateAllowed then
      fallbackLoop request (position + 1) rest (state.bypass providerId .rateLimited .rateLimited
        ("Rate limit quota exceeded for provider " ++ providerId))
    else if !candidate.concurrencyAcquired then
      fallbackLoop request (position + 1) rest (state.bypass providerId .rateLimited .rateLimited
        ("Max concurrency limit reached for " ++ providerId))
    else
      let tried := attemptsOn request candidate
      let state := tried.foldl (ExecutionState.recordAttempt position providerId) state
      if providerSuccess tried then state else fallbackLoop request (position + 1) rest state

/-- The primary provider and the fallback chain. -/
structure RoutingResolution (Value : Type) where
  primary : Candidate Value
  fallbackChain : List (Candidate Value)

def RoutingResolution.candidatesToTry (routing : RoutingResolution Value) :
    List (Candidate Value) :=
  routing.primary :: routing.fallbackChain

def runChain (request : ExecutionRequest) (routing : RoutingResolution Value) :
    ExecutionState Value :=
  fallbackLoop request 0 routing.candidatesToTry
    ⟨[], false, none, routing.primary.providerId, none, []⟩

/-- The result for the caller.  A provider whose success is `undefined` counts as none. -/
def ExecutionState.result (state : ExecutionState Value) : ExecutionResult Value :=
  match state.finalSuccessfulResult with
  | some value =>
    ⟨true, some value, none, state.finalProviderUsed, state.attempts, state.fallbackOccurred⟩
  | none =>
    { success := false
      data := none
      error := some (state.finalError.getD
        { code := "ALL_PROVIDERS_FAILED"
          message := "All configured providers in fallback chain failed execution"
          classification := .permanent
          providerId := state.finalProviderUsed })
      providerId := state.finalProviderUsed
      attempts := state.attempts
      fallbackOccurred := state.fallbackOccurred }

/-- A routing that fails is answered without a provider. -/
def routingFailed (message : String) : ExecutionResult Value :=
  ⟨false, none, some ⟨"ROUTING_FAILED", message, .configuration, "none"⟩, "none", [], false⟩

/-- `execute` once no stored result was found. -/
def executeRouted (request : ExecutionRequest)
    (routing : Except String (RoutingResolution Value)) : ExecutionResult Value :=
  match routing with
  | .error message => routingFailed message
  | .ok routing => (runChain request routing).result

def chainOf (routing : Except String (RoutingResolution Value)) : List (Candidate Value) :=
  match routing with
  | .error _ => []
  | .ok routing => routing.candidatesToTry

/-- The invocations that are made for a request, in their order. -/
def callsOf (request : ExecutionRequest) (routing : Except String (RoutingResolution Value)) :
    List (Call Value) :=
  match routing with
  | .error _ => []
  | .ok routing => (runChain request routing).calls

end Loops

end CarRental.Integrations
