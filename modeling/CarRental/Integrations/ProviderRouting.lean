import CarRental.Integrations.ProviderCatalog
import CarRental.Text

/-!
# Policies of the routing

`ProviderPolicyService`: the rules that a request meets, by their priority.  What they deny adds up;
of what they allow or prefer, the last rule has its way.
-/

namespace CarRental.Integrations

open KeyedRows

inductive RoutingStrategy where
  | primary
  | priority
  | roundRobin
  | weighted
  | leastLatency
  | healthBased
  | regionBased
  | currencyBased
  | capabilityBased
  | costOptimized
  | scoreOptimized
  | customRule
deriving DecidableEq, Repr

structure PolicyConditions where
  category : Option IntegrationCategory
  region : Option String
  currency : Option String
  vendorId : Option String
  branchId : Option String
  capabilities : Option (List String)
  maxLatencyMs : Option ℚ

structure PolicyActions where
  preferredProviderId : Option String
  allowedProviders : Option (List String)
  deniedProviders : Option (List String)
  routingStrategy : Option RoutingStrategy
  forceFallback : Bool

structure ProviderPolicyRule where
  id : String
  enabled : Bool
  priority : ℚ
  conditions : PolicyConditions
  actions : PolicyActions

structure PolicyEvaluationContext where
  category : Option IntegrationCategory
  region : Option String
  currency : Option String
  vendorId : Option String
  branchId : Option String
  capabilities : List String
  currentLatencyMs : Option ℚ

structure EvaluatedPolicyResult where
  preferredProviderId : Option String
  allowedProviders : Option (List String)
  deniedProviders : List String
  routingStrategyOverride : Option RoutingStrategy
  forceFallback : Bool

/-- A condition that both sides state, and state differently. -/
def differs {α : Type} [DecidableEq α] (condition context : Option α) : Bool :=
  match condition, context with
  | some expected, some actual => expected ≠ actual
  | _, _ => false

/-- The latency is measured, and the rule is for a higher one. -/
def latencyMet (maxLatencyMs currentLatencyMs : Option ℚ) : Bool :=
  match maxLatencyMs.filter (· ≠ 0), currentLatencyMs.filter (· ≠ 0) with
  | some limit, some current => current ≤ limit
  | _, _ => false

namespace ProviderPolicyRule

/-- The rule is for the request. -/
def applies (mapping : CaseMapping) (context : PolicyEvaluationContext)
    (rule : ProviderPolicyRule) : Bool :=
  let c := rule.conditions
  rule.enabled &&
    !differs c.category context.category &&
    !differs ((given c.region).map mapping.toUpperCase)
      ((given context.region).map mapping.toUpperCase) &&
    !differs ((given c.currency).map mapping.toUpperCase)
      ((given context.currency).map mapping.toUpperCase) &&
    !differs (given c.vendorId) (given context.vendorId) &&
    !differs (given c.branchId) (given context.branchId) &&
    (match c.capabilities with
      | none => true
      | some capabilities => context.capabilities.isEmpty || capabilities.all fun cap =>
        context.capabilities.any fun ctxCap =>
          mapping.toLowerCase ctxCap = mapping.toLowerCase cap) &&
    !latencyMet c.maxLatencyMs context.currentLatencyMs

/-- The actions of a rule that applies. -/
def apply (mapping : CaseMapping) (rule : ProviderPolicyRule) (result : EvaluatedPolicyResult) :
    EvaluatedPolicyResult where
  preferredProviderId :=
    (given rule.actions.preferredProviderId).or result.preferredProviderId
  allowedProviders :=
    (rule.actions.allowedProviders.map (·.map mapping.toLowerCase)).or result.allowedProviders
  deniedProviders :=
    ((rule.actions.deniedProviders.getD []).map mapping.toLowerCase).foldl
      (fun denied id => if id ∈ denied then denied else denied ++ [id]) result.deniedProviders
  routingStrategyOverride :=
    rule.actions.routingStrategy.or result.routingStrategyOverride
  forceFallback := rule.actions.forceFallback || result.forceFallback

end ProviderPolicyRule

def evaluatePolicies (mapping : CaseMapping) (rules : List ProviderPolicyRule)
    (context : PolicyEvaluationContext) : EvaluatedPolicyResult :=
  ((sortBy (fun a b => a.priority - b.priority) rules).filter
      (ProviderPolicyRule.applies mapping context)).foldl
    (fun result rule => rule.apply mapping result)
    { preferredProviderId := none
      allowedProviders := none
      deniedProviders := []
      routingStrategyOverride := none
      forceFallback := false }

/-- The decision does not deny the provider, and allows it where it names those allowed. -/
structure EvaluatedPolicyResult.Allows (mapping : CaseMapping) (decision : EvaluatedPolicyResult)
    (providerId : String) : Prop where
  notDenied :
    mapping.toLowerCase providerId ∉ decision.deniedProviders.map mapping.toLowerCase
  allowed : ∀ providers, decision.allowedProviders = some providers → providers ≠ [] →
    mapping.toLowerCase providerId ∈ providers.map mapping.toLowerCase

/-!
## The chain of providers of a request

`ProviderRoutingService.resolveRoutingChain`: the providers of the catalogue pass through the
filters; then a custom chain takes their place, or the strategy puts them in order.  The preferred
one moves to the top, and those with an open circuit to the back.

What the registry, the circuits, the health, cost and scoring services answer is an argument.
-/

/-! ## The catalogue -/

def IntegrationCategory.value : IntegrationCategory → String
  | .payment => "PAYMENT"
  | .payouts => "PAYOUTS"
  | .other name => name

/-- `getKey`, of the catalogue and of the registry. -/
def getKey (mapping : CaseMapping) (category : IntegrationCategory) (providerId : String) :
    String :=
  mapping.toLowerCase (category.value ++ ":" ++ providerId)

theorem getKey_eq_getKey {mapping : CaseMapping} {category : IntegrationCategory}
    {first second : String} :
    getKey mapping category first = getKey mapping category second ↔
      mapping.toLowerCase first = mapping.toLowerCase second := by
  simp only [getKey, CaseMapping.toLowerCase_append]
  exact String.append_right_inj _

def CatalogProviderMetadata.key (mapping : CaseMapping) (entry : CatalogProviderMetadata) :
    String :=
  getKey mapping entry.category entry.providerId

/-- The map of the catalogue service: no two entries have one key. -/
structure ProviderCatalog (mapping : CaseMapping) where
  entries : List CatalogProviderMetadata
  distinctKeys : (entries.map (CatalogProviderMetadata.key mapping)).Nodup

namespace ProviderCatalog

variable {mapping : CaseMapping}

def empty : ProviderCatalog mapping := ⟨[], List.nodup_nil⟩

def registerProvider (catalog : ProviderCatalog mapping) (metadata : CatalogProviderMetadata) :
    Except String (ProviderCatalog mapping) :=
  if hfresh : metadata.key mapping ∉ catalog.entries.map (CatalogProviderMetadata.key mapping) then
    .ok ⟨catalog.entries ++ [metadata], nodup_map_concat catalog.distinctKeys hfresh⟩
  else
    .error ("Provider '" ++ metadata.providerId ++ "' in category '" ++ metadata.category.value ++
      "' is already registered in the catalog")

theorem eq_of_providerId (catalog : ProviderCatalog mapping)
    {first second : CatalogProviderMetadata} (hfirst : first ∈ catalog.entries)
    (hsecond : second ∈ catalog.entries) (hcategory : first.category = second.category)
    (hid : mapping.toLowerCase first.providerId = mapping.toLowerCase second.providerId) :
    first = second := by
  apply eq_of_key_eq catalog.distinctKeys hfirst hsecond
  rw [CatalogProviderMetadata.key, CatalogProviderMetadata.key, hcategory]
  exact getKey_eq_getKey.mpr hid

/-- `getCategoryProviders`, by priority and then by name. -/
def getCategoryProviders (catalog : ProviderCatalog mapping) (localeCompare : String → String → ℚ)
    (category : IntegrationCategory) : List CatalogProviderMetadata :=
  sortBy
    (fun a b => if a.priority ≠ b.priority then a.priority - b.priority
      else localeCompare a.name b.name)
    (catalog.entries.filter (·.category = category))

end ProviderCatalog

/-! ## Requests and services -/

structure RoutingRequest where
  category : IntegrationCategory
  capability : String
  vendorId : Option String
  branchId : Option String
  region : Option String
  currency : Option String
  environment : Option ProviderEnvironment
  preferredProviderId : Option String
  routingStrategy : Option RoutingStrategy

/-- The capability, unless it is empty. -/
def RoutingRequest.requested (request : RoutingRequest) : Option String :=
  given (some request.capability)

structure RollingHealth where
  latencyP50 : ℚ
  successRate : ℚ
  totalExecutions : ℚ
  failureStreak : ℚ

/-- What the routing asks of the other services, and whether the process runs in production. -/
structure RoutingServices where
  mapping : CaseMapping
  catalog : ProviderCatalog mapping
  localeCompare : String → String → ℚ
  policies : List ProviderPolicyRule
  enabledStates : String → Option Bool
  getProvidersByCategory : IntegrationCategory → List String
  getState : String → CircuitState
  getRollingHealth : IntegrationCategory → String → RollingHealth
  estimateCost : String → Option String → Option String → ℚ
  calculateScore : Option (RoutingRequest → CatalogProviderMetadata → ℚ)
  production : Bool

structure ProviderRoutingService where
  roundRobinCounters : IntegrationCategory → ℕ
  categoryDefaultStrategies : IntegrationCategory → Option RoutingStrategy
  categoryCustomFallbacks : String → Option (List String)

namespace ProviderRoutingService

def setCategoryDefaultStrategy (service : ProviderRoutingService) (category : IntegrationCategory)
    (strategy : RoutingStrategy) : ProviderRoutingService :=
  { service with
    categoryDefaultStrategies :=
      Function.update service.categoryDefaultStrategies category (some strategy) }

def customKey (mapping : CaseMapping) (category : IntegrationCategory) (vendorId : String) :
    String :=
  mapping.toLowerCase (category.value ++ ":" ++ vendorId)

def setCustomFallbackChain (service : ProviderRoutingService) (mapping : CaseMapping)
    (category : IntegrationCategory) (chain : List String) (vendorId : Option String) :
    ProviderRoutingService :=
  { service with
    categoryCustomFallbacks :=
      Function.update service.categoryCustomFallbacks
        (customKey mapping category (vendorId.getD "platform")) (some chain) }

end ProviderRoutingService

/-! ## The filters -/

section Filters

variable (mapping : CaseMapping)

/-- The provider supports the capability; an order counts for a payment, and a template for a
message. -/
def supportsCapability (capability : String) (provider : CatalogProviderMetadata) : Bool :=
  let capNorm := mapping.toLowerCase capability
  let supported := provider.supportedCapabilities.map mapping.toLowerCase
  ((capNorm = "create_payment" || capNorm = "create_order") &&
      supported.any fun sc => sc = "create_order" || sc = "create_payment") ||
    ((capNorm = "send_whatsapp" || capNorm = "send_template") &&
      supported.any fun sc => sc = "send_template" || sc = "send_whatsapp") ||
    supported.contains capNorm

/-- One of the names is that looked for, or stands for all. -/
def matchesAny (names : List String) (name : String) : Bool :=
  names.contains "ALL" || (names.map mapping.toUpperCase).contains (mapping.toUpperCase name)

/-- A filter that is dropped where it leaves nothing. -/
def preferMatching {α : Type} (p : α → Bool) (list : List α) : List α :=
  if (list.filter p).isEmpty then list else list.filter p

/-- The filter for what the request names; where it names nothing, all pass. -/
def narrow {α β : Type} (wanted : Option β) (select : β → List α → List α) (list : List α) :
    List α :=
  match wanted with
  | none => list
  | some value => select value list

theorem narrow_sublist {α β : Type} {wanted : Option β} {select : β → List α → List α}
    {list : List α} (hselect : ∀ value, (select value list).Sublist list) :
    (narrow wanted select list).Sublist list := by
  cases wanted with
  | none => exact List.Sublist.refl _
  | some value => exact hselect value

theorem preferMatching_sublist {α : Type} (p : α → Bool) (list : List α) :
    (preferMatching p list).Sublist list := by
  unfold preferMatching
  split
  · exact List.Sublist.refl _
  · exact List.filter_sublist

end Filters

/-- What a provider has to be to serve in production. -/
def isCertified (category : IntegrationCategory) (provider : CatalogProviderMetadata) : Bool :=
  if category = .payment then provider.certificationLevel = some .productionValidated
  else provider.certificationLevel = some .productionValidated ||
    provider.lifecycleState = some .liveReady

/-- The request is served with live providers only. -/
def RoutingRequest.IsLive (request : RoutingRequest) (services : RoutingServices) : Prop :=
  services.production = true ∨ request.environment = some .live

instance (request : RoutingRequest) (services : RoutingServices) :
    Decidable (request.IsLive services) :=
  inferInstanceAs (Decidable (_ ∨ _))

def policyDecision (services : RoutingServices) (request : RoutingRequest) :
    EvaluatedPolicyResult :=
  evaluatePolicies services.mapping services.policies
    { category := some request.category
      region := request.region
      currency := request.currency
      vendorId := request.vendorId
      branchId := request.branchId
      capabilities := request.requested.toList
      currentLatencyMs := none }

def isDenied (mapping : CaseMapping) (decision : EvaluatedPolicyResult) (providerId : String) :
    Bool :=
  (decision.deniedProviders.map mapping.toLowerCase).contains (mapping.toLowerCase providerId)

def isAllowed (mapping : CaseMapping) (decision : EvaluatedPolicyResult) (providerId : String) :
    Bool :=
  match decision.allowedProviders with
  | none => true
  | some providers => providers.isEmpty ||
      (providers.map mapping.toLowerCase).contains (mapping.toLowerCase providerId)

section Eligible

variable (services : RoutingServices) (request : RoutingRequest)

/-- `catalogCandidates`, as they are discovered. -/
def discoveredProviders : List CatalogProviderMetadata :=
  services.catalog.getCategoryProviders services.localeCompare request.category

def capableProviders : List CatalogProviderMetadata :=
  narrow request.requested
    (fun capability => List.filter (supportsCapability services.mapping capability))
    (discoveredProviders services request)

def regionalProviders : List CatalogProviderMetadata :=
  narrow (given request.region)
    (fun region => preferMatching (matchesAny services.mapping ·.supportedCountries region))
    (capableProviders services request)

def payableProviders : List CatalogProviderMetadata :=
  narrow (given request.currency)
    (fun currency => preferMatching (matchesAny services.mapping ·.supportedCurrencies currency))
    (regionalProviders services request)

/-- The providers that are left for the policy to decide on. -/
def reachableProviders : List CatalogProviderMetadata :=
  narrow request.environment
    (fun environment => List.filter (·.supportedEnvironments.contains environment))
    (payableProviders services request)

/-- The reachable providers that the policy leaves. -/
def permittedProviders : List CatalogProviderMetadata :=
  let decision := policyDecision services request
  ((reachableProviders services request).filter
      (!isDenied services.mapping decision ·.providerId)).filter
    (isAllowed services.mapping decision ·.providerId)

/-- The providers of the catalogue that pass the filters. -/
def eligibleProviders : List CatalogProviderMetadata :=
  if request.IsLive services then
    (permittedProviders services request).filter fun provider =>
      !provider.providerId.startsWith "mock_" && isCertified request.category provider
  else permittedProviders services request

end Eligible

/-! ## The order -/

/-- In front is what matches, then what has the lower priority. -/
def matchFirst (isMatch : CatalogProviderMetadata → Bool) (a b : CatalogProviderMetadata) : ℚ :=
  if isMatch a && !isMatch b then -1
  else if !isMatch a && isMatch b then 1
  else a.priority - b.priority

/-- A number, where zero stands for one that is not there. -/
def orElse (value default : ℚ) : ℚ :=
  if value = 0 then default else value

/-- The comparison of the strategies that sort. -/
def compareBy (services : RoutingServices) (request : RoutingRequest) (strategy : RoutingStrategy)
    (a b : CatalogProviderMetadata) : ℚ :=
  let health (p : CatalogProviderMetadata) := services.getRollingHealth p.category p.providerId
  let cost (p : CatalogProviderMetadata) :=
    services.estimateCost p.providerId request.currency request.region
  let upper := services.mapping.toUpperCase
  let lower := services.mapping.toLowerCase
  match strategy with
  | .weighted => orElse (b.weight.getD 0) 1 - orElse (a.weight.getD 0) 1
  | .leastLatency => orElse (health a).latencyP50 9999 - orElse (health b).latencyP50 9999
  | .healthBased =>
    if (health b).successRate ≠ (health a).successRate then
      (health b).successRate - (health a).successRate
    else if (health b).totalExecutions ≠ (health a).totalExecutions then
      (health b).totalExecutions - (health a).totalExecutions
    else (health a).failureStreak - (health b).failureStreak
  | .regionBased =>
    matchFirst (fun p => (p.supportedCountries.map upper).contains
      (upper (request.region.getD ""))) a b
  | .currencyBased =>
    matchFirst (fun p => (p.supportedCurrencies.map upper).contains
      (upper (request.currency.getD ""))) a b
  | .capabilityBased =>
    matchFirst (fun p => (p.supportedCapabilities.map lower).contains
      (lower request.capability)) a b
  | .costOptimized => cost a - cost b
  | .scoreOptimized =>
    match services.calculateScore with
    | none => a.priority - b.priority
    | some score => score request b - score request a
  | _ => a.priority - b.priority

def applyRoutingStrategy (services : RoutingServices) (counter : ℕ) (strategy : RoutingStrategy)
    (request : RoutingRequest) (candidates : List CatalogProviderMetadata) :
    List CatalogProviderMetadata :=
  match strategy with
  | .roundRobin =>
    let shift := counter % candidates.length
    candidates.drop shift ++ candidates.take shift
  | _ => sortBy (compareBy services request strategy) candidates

/-- The entry made up for an id of a custom chain that no candidate has. -/
def madeUpEntry (request : RoutingRequest) (id : String) : CatalogProviderMetadata where
  providerId := id
  category := request.category
  name := id
  supportedEnvironments := []
  supportedCapabilities := [request.requested.getD "default"]
  supportedCurrencies := ["ALL"]
  supportedCountries := ["ALL"]
  priority := 1
  lifecycleState := none
  certificationLevel := none
  implementationStatus := none
  activationState := .active
  platformAvailability := true
  weight := none
  fixedFee := none

/-- The entry for an id of a custom chain.  Of the candidates with one key the map keeps the last. -/
def customEntry (mapping : CaseMapping) (request : RoutingRequest)
    (candidates : List CatalogProviderMetadata) (id : String) : CatalogProviderMetadata :=
  (candidates.reverse.find? fun c =>
    mapping.toLowerCase c.providerId = mapping.toLowerCase id).getD (madeUpEntry request id)

/-- The custom chain of the vendor or of the platform, where it is not empty. -/
def customChain (service : ProviderRoutingService) (mapping : CaseMapping)
    (request : RoutingRequest) : Option (List String) :=
  (service.categoryCustomFallbacks (ProviderRoutingService.customKey mapping request.category
    ((given request.vendorId).getD "platform"))).filter (!·.isEmpty)

/-- The preferred provider is elevated to the top. -/
def elevate (mapping : CaseMapping) (preferredId : Option String)
    (candidates : List CatalogProviderMetadata) : List CatalogProviderMetadata :=
  match preferredId with
  | none => candidates
  | some preferred =>
    match candidates.findIdx? fun c =>
      mapping.toLowerCase c.providerId = mapping.toLowerCase preferred with
    | none => candidates
    | some idx => candidates[idx]?.toList ++ candidates.eraseIdx idx

/-- Providers with open circuits go to the back. -/
def deprioritizeOpen (getState : String → CircuitState)
    (candidates : List CatalogProviderMetadata) : List CatalogProviderMetadata :=
  candidates.filter (getState ·.providerId ≠ .open) ++
    candidates.filter (getState ·.providerId = .open)

/-! ## The chain -/

structure RoutingChain where
  primaryProviderId : Option String
  fallbackChain : List String
  allCandidates : List String
  strategyUsed : RoutingStrategy
deriving DecidableEq

def RoutingChain.ofIds (ids : List String) (strategy : RoutingStrategy) : RoutingChain where
  primaryProviderId := ids.head?
  fallbackChain := ids.tail
  allCandidates := ids
  strategyUsed := strategy

def effectiveStrategy (service : ProviderRoutingService) (services : RoutingServices)
    (request : RoutingRequest) : RoutingStrategy :=
  ((request.routingStrategy.or (policyDecision services request).routingStrategyOverride).or
    (service.categoryDefaultStrategies request.category)).getD .priority

/-- Steps 3 to 6: the eligible providers in the order in which they are tried. -/
def orderedCandidates (service : ProviderRoutingService) (services : RoutingServices)
    (request : RoutingRequest) (eligible : List CatalogProviderMetadata) :
    List CatalogProviderMetadata :=
  let ordered := match customChain service services.mapping request with
    | some ids => ids.map (customEntry services.mapping request eligible)
    | none => applyRoutingStrategy services (service.roundRobinCounters request.category)
        (effectiveStrategy service services request) request eligible
  deprioritizeOpen services.getState
    (elevate services.mapping ((given request.preferredProviderId).or
      (policyDecision services request).preferredProviderId) ordered)

/-- A round-robin turn is counted. -/
def countTurn (service : ProviderRoutingService) (services : RoutingServices)
    (request : RoutingRequest) : ProviderRoutingService :=
  if customChain service services.mapping request = none ∧
      effectiveStrategy service services request = .roundRobin then
    { service with
      roundRobinCounters := Function.update service.roundRobinCounters request.category
        (service.roundRobinCounters request.category + 1) }
  else service

def resolveRoutingChain (service : ProviderRoutingService) (services : RoutingServices)
    (request : RoutingRequest) : Except String (RoutingChain × ProviderRoutingService) :=
  let strategy := effectiveStrategy service services request
  let eligible := eligibleProviders services request
  let unserved := "category '" ++ request.category.value ++ "' supporting capability '" ++
    request.capability ++ "' and currency '" ++ (given request.currency).getD "ANY" ++ "'"
  if eligible.isEmpty then
    if request.IsLive services then
      .error ("No certified production provider found for " ++ unserved)
    else
      let allRegistered := services.getProvidersByCategory request.category
      if allRegistered.isEmpty then
        .error ("No suitable provider found for " ++ unserved)
      else .ok (.ofIds allRegistered strategy, service)
  else
    .ok (.ofIds ((orderedCandidates service services request eligible).map (·.providerId)) strategy,
      countTurn service services request)

end CarRental.Integrations
