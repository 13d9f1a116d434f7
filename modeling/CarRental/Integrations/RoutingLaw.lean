import CarRental.Integrations.ProviderRouting

/-!
# What a live chain may hold

The filters leave nothing but certified providers that the policy allows and that have the
capability, and each of them once.  They do not ask whether a provider is enabled; and a custom
chain, which comes after them, is taken as it is.
-/

namespace CarRental.Integrations

variable {service : ProviderRoutingService} {services : RoutingServices}
  {request : RoutingRequest}

/-! ## The law -/

/-- No switch, of the registry or of the catalogue, has turned the provider off. -/
structure Enabled (services : RoutingServices) (entry : CatalogProviderMetadata) : Prop where
  registry : (services.enabledStates
    (getKey services.mapping entry.category entry.providerId)).getD true = true
  active : entry.activationState = .active
  available : entry.platformAvailability = true

/-- What the filters of a live request make sure of. -/
structure Qualified (services : RoutingServices) (request : RoutingRequest)
    (entry : CatalogProviderMetadata) : Prop where
  category : entry.category = request.category
  notMock : entry.providerId.startsWith "mock_" = false
  certified : isCertified request.category entry = true
  allowed : (policyDecision services request).Allows services.mapping entry.providerId
  capable : ∀ capability, request.requested = some capability →
    supportsCapability services.mapping capability entry = true

/-- The id names a provider of the catalogue that may serve the request. -/
def Admitted (services : RoutingServices) (request : RoutingRequest) (id : String) : Prop :=
  ∃ entry ∈ services.catalog.entries,
    services.mapping.toLowerCase entry.providerId = services.mapping.toLowerCase id ∧
      Qualified services request entry ∧ Enabled services entry

/-- Every id of the chain names a provider that may serve the request, and no two name the same. -/
structure ChainLaw (services : RoutingServices) (request : RoutingRequest) (ids : List String) :
    Prop where
  admitted : ∀ id ∈ ids, Admitted services request id
  distinct : (ids.map services.mapping.toLowerCase).Nodup

/-- Whatever chain the request is answered with keeps the law. -/
def RoutesAdmitted (service : ProviderRoutingService) (services : RoutingServices)
    (request : RoutingRequest) : Prop :=
  ∀ chain after, resolveRoutingChain service services request = .ok (chain, after) →
    ChainLaw services request chain.allCandidates

/-- Where there is a custom chain it keeps the law of its own, and where there is none, the
providers that pass the filters are enabled; unless none of them does. -/
def RoutesSafely (service : ProviderRoutingService) (services : RoutingServices)
    (request : RoutingRequest) : Prop :=
  eligibleProviders services request ≠ [] →
    match customChain service services.mapping request with
    | none => ∀ entry ∈ eligibleProviders services request, Enabled services entry
    | some ids => ChainLaw services request ids

/-! ## The filters -/

theorem discovered_perm : (discoveredProviders services request).Perm
    (services.catalog.entries.filter (·.category = request.category)) :=
  sortBy_perm _ _

theorem capable_sublist :
    (capableProviders services request).Sublist (discoveredProviders services request) :=
  narrow_sublist fun _ => List.filter_sublist

theorem reachable_sublist :
    (reachableProviders services request).Sublist (capableProviders services request) := by
  have hregional : (regionalProviders services request).Sublist
      (capableProviders services request) :=
    narrow_sublist fun _ => preferMatching_sublist _ _
  have hpayable : (payableProviders services request).Sublist
      (regionalProviders services request) :=
    narrow_sublist fun _ => preferMatching_sublist _ _
  have hreachable : (reachableProviders services request).Sublist
      (payableProviders services request) :=
    narrow_sublist fun _ => List.filter_sublist
  exact hreachable.trans (hpayable.trans hregional)

theorem permitted_sublist :
    (permittedProviders services request).Sublist (reachableProviders services request) :=
  List.filter_sublist.trans List.filter_sublist

theorem eligible_sublist :
    (eligibleProviders services request).Sublist (permittedProviders services request) := by
  unfold eligibleProviders
  split
  · exact List.filter_sublist
  · exact List.Sublist.refl _

theorem mem_capable {entry : CatalogProviderMetadata}
    (hentry : entry ∈ capableProviders services request) :
    ∀ capability, request.requested = some capability →
      supportsCapability services.mapping capability entry = true := by
  intro capability hcapability
  simp only [capableProviders, narrow, hcapability] at hentry
  exact (List.mem_filter.mp hentry).2

theorem mem_permitted {entry : CatalogProviderMetadata}
    (hentry : entry ∈ permittedProviders services request) :
    (policyDecision services request).Allows services.mapping entry.providerId := by
  obtain ⟨hrest, hallowed⟩ := List.mem_filter.mp hentry
  have hdenied := (List.mem_filter.mp hrest).2
  constructor
  · simpa [isDenied] using hdenied
  · intro providers hproviders hsome
    simp only [isAllowed, hproviders] at hallowed
    simpa [hsome] using hallowed

theorem qualified_of_eligible (hlive : request.IsLive services) {entry : CatalogProviderMetadata}
    (hentry : entry ∈ eligibleProviders services request) :
    entry ∈ services.catalog.entries ∧ Qualified services request entry := by
  have hpermitted := eligible_sublist.subset hentry
  have hcapable := reachable_sublist.subset (permitted_sublist.subset hpermitted)
  have hfound := discovered_perm.subset (capable_sublist.subset hcapable)
  simp only [List.mem_filter, decide_eq_true_eq] at hfound
  simp only [eligibleProviders, hlive, if_true, List.mem_filter, Bool.and_eq_true,
    Bool.not_eq_true'] at hentry
  obtain ⟨-, hmock, hcertified⟩ := hentry
  exact ⟨hfound.1, hfound.2, hmock, hcertified, mem_permitted hpermitted, mem_capable hcapable⟩

theorem eligible_distinct : ((eligibleProviders services request).map fun entry =>
    services.mapping.toLowerCase entry.providerId).Nodup := by
  have hsublist : (eligibleProviders services request).Sublist
      (discoveredProviders services request) :=
    eligible_sublist.trans (permitted_sublist.trans (reachable_sublist.trans capable_sublist))
  apply List.Nodup.sublist (hsublist.map _)
  rw [(discovered_perm.map _).nodup_iff]
  apply List.Nodup.map_on _ (services.catalog.distinctKeys.of_map.filter _)
  intro first hfirst second hsecond hsame
  simp only [List.mem_filter, decide_eq_true_eq] at hfirst hsecond
  exact services.catalog.eq_of_providerId hfirst.1 hsecond.1 (hfirst.2.trans hsecond.2.symm) hsame

/-! ## The order -/

theorem elevate_perm (mapping : CaseMapping) (preferredId : Option String)
    (candidates : List CatalogProviderMetadata) :
    (elevate mapping preferredId candidates).Perm candidates := by
  unfold elevate
  cases preferredId with
  | none => exact List.Perm.refl _
  | some preferred =>
    simp only
    split
    · exact List.Perm.refl _
    · rename_i idx hidx
      obtain ⟨hlt, -⟩ := List.findIdx?_eq_some_iff_getElem.mp hidx
      rw [List.getElem?_eq_getElem hlt]
      exact List.getElem_cons_eraseIdx_perm hlt

theorem deprioritizeOpen_perm (getState : String → CircuitState)
    (candidates : List CatalogProviderMetadata) :
    (deprioritizeOpen getState candidates).Perm candidates := by
  have hsplit := List.filter_append_perm (fun c => getState c.providerId ≠ .open) candidates
  simpa [deprioritizeOpen] using hsplit

theorem applyRoutingStrategy_perm (counter : ℕ) (strategy : RoutingStrategy)
    (candidates : List CatalogProviderMetadata) :
    (applyRoutingStrategy services counter strategy request candidates).Perm candidates := by
  unfold applyRoutingStrategy
  split
  · have hrotated := @List.perm_append_comm _
      (candidates.drop (counter % candidates.length)) (candidates.take (counter % candidates.length))
    rwa [List.take_append_drop] at hrotated
  · exact sortBy_perm _ _

theorem customEntry_providerId (mapping : CaseMapping)
    (candidates : List CatalogProviderMetadata) (id : String) :
    mapping.toLowerCase (customEntry mapping request candidates id).providerId =
      mapping.toLowerCase id := by
  unfold customEntry
  cases hfound : candidates.reverse.find? fun c =>
      decide (mapping.toLowerCase c.providerId = mapping.toLowerCase id) with
  | none => rfl
  | some entry => simpa using List.find?_some hfound

/-! ## The chain -/

theorem Admitted.congr {first second : String}
    (hsame : services.mapping.toLowerCase first = services.mapping.toLowerCase second) :
    Admitted services request first ↔ Admitted services request second := by
  unfold Admitted
  rw [hsame]

theorem chainLaw_perm {first second : List String} (hperm : first.Perm second) :
    ChainLaw services request first ↔ ChainLaw services request second := by
  constructor
  · rintro ⟨hadmitted, hdistinct⟩
    exact ⟨fun id hid => hadmitted id (hperm.mem_iff.mpr hid),
      (hperm.map _).nodup_iff.mp hdistinct⟩
  · rintro ⟨hadmitted, hdistinct⟩
    exact ⟨fun id hid => hadmitted id (hperm.mem_iff.mp hid),
      (hperm.map _).nodup_iff.mpr hdistinct⟩

theorem chainLaw_eligible_iff (hlive : request.IsLive services) :
    ChainLaw services request ((eligibleProviders services request).map (·.providerId)) ↔
      ∀ entry ∈ eligibleProviders services request, Enabled services entry := by
  constructor
  · intro hlaw entry hentry
    obtain ⟨other, hother, hsame, hqualified, henabled⟩ :=
      hlaw.admitted entry.providerId (List.mem_map_of_mem hentry)
    obtain ⟨hcatalog, hentryQualified⟩ := qualified_of_eligible hlive hentry
    have hequal : other = entry := services.catalog.eq_of_providerId hother hcatalog
      (hqualified.category.trans hentryQualified.category.symm) hsame
    exact hequal ▸ henabled
  · intro henabled
    constructor
    · intro id hid
      obtain ⟨entry, hentry, rfl⟩ := List.mem_map.mp hid
      obtain ⟨hcatalog, hqualified⟩ := qualified_of_eligible hlive hentry
      exact ⟨entry, hcatalog, rfl, hqualified, henabled entry hentry⟩
    · rw [List.map_map]
      exact eligible_distinct

theorem chainLaw_custom_iff (candidates : List CatalogProviderMetadata) (ids : List String) :
    ChainLaw services request
        ((ids.map (customEntry services.mapping request candidates)).map (·.providerId)) ↔
      ChainLaw services request ids := by
  have hlower : ((ids.map (customEntry services.mapping request candidates)).map
      (·.providerId)).map services.mapping.toLowerCase = ids.map services.mapping.toLowerCase := by
    simp only [List.map_map]
    apply List.map_congr_left
    intro id _
    exact customEntry_providerId services.mapping candidates id
  constructor
  · rintro ⟨hadmitted, hdistinct⟩
    refine ⟨fun id hid => ?_, hlower ▸ hdistinct⟩
    rw [← Admitted.congr (customEntry_providerId services.mapping candidates id)]
    exact hadmitted _ (List.mem_map_of_mem (List.mem_map_of_mem hid))
  · rintro ⟨hadmitted, hdistinct⟩
    refine ⟨fun id hid => ?_, hlower.symm ▸ hdistinct⟩
    obtain ⟨entry, hentry, rfl⟩ := List.mem_map.mp hid
    obtain ⟨custom, hcustom, rfl⟩ := List.mem_map.mp hentry
    rw [Admitted.congr (customEntry_providerId services.mapping candidates custom)]
    exact hadmitted custom hcustom

theorem chainLaw_ordered_iff (hlive : request.IsLive services) :
    ChainLaw services request ((orderedCandidates service services request
        (eligibleProviders services request)).map (·.providerId)) ↔
      match customChain service services.mapping request with
      | none => ∀ entry ∈ eligibleProviders services request, Enabled services entry
      | some ids => ChainLaw services request ids := by
  unfold orderedCandidates
  simp only
  rw [chainLaw_perm (((deprioritizeOpen_perm _ _).trans (elevate_perm _ _ _)).map _)]
  cases customChain service services.mapping request with
  | none =>
    simp only
    rw [chainLaw_perm ((applyRoutingStrategy_perm _ _ _).map _), chainLaw_eligible_iff hlive]
  | some ids => exact chainLaw_custom_iff _ ids

theorem resolveRoutingChain_eq (hsome : eligibleProviders services request ≠ []) :
    resolveRoutingChain service services request =
      .ok (.ofIds ((orderedCandidates service services request
        (eligibleProviders services request)).map (·.providerId))
          (effectiveStrategy service services request), countTurn service services request) := by
  simp [resolveRoutingChain, hsome]

/-- A live chain keeps the law exactly if it is routed safely. -/
theorem routesAdmitted_iff (service : ProviderRoutingService) (services : RoutingServices)
    (request : RoutingRequest) (hlive : request.IsLive services) :
    RoutesAdmitted service services request ↔ RoutesSafely service services request := by
  unfold RoutesAdmitted RoutesSafely
  rw [← chainLaw_ordered_iff hlive]
  by_cases hnone : eligibleProviders services request = []
  · simp [resolveRoutingChain, hnone, hlive]
  · have hresolved := @resolveRoutingChain_eq service _ _ hnone
    constructor
    · intro hroutes _
      exact hroutes _ _ hresolved
    · intro hsafe chain after hchain
      rw [hresolved] at hchain
      cases hchain
      exact hsafe hnone

/-! ## A mock provider in a live chain -/

def razorpay : CatalogProviderMetadata where
  providerId := "razorpay"
  category := .payment
  name := "Razorpay"
  supportedEnvironments := [.sandbox, .live]
  supportedCapabilities := ["CREATE_ORDER"]
  supportedCurrencies := ["INR"]
  supportedCountries := ["IN"]
  priority := 1
  lifecycleState := some .liveReady
  certificationLevel := some .productionValidated
  implementationStatus := some .liveVerified
  activationState := .active
  platformAvailability := true
  weight := none
  fixedFee := none

def singleProvider : RoutingServices where
  mapping := .ascii
  catalog := ⟨[razorpay], List.nodup_singleton _⟩
  localeCompare := fun _ _ => 0
  policies := []
  enabledStates := fun _ => some true
  getProvidersByCategory := fun _ => ["razorpay"]
  getState := fun _ => .closed
  getRollingHealth := fun _ _ => ⟨250, 1, 0, 0⟩
  estimateCost := fun _ _ _ => 0
  calculateScore := none
  production := true

def liveOrder : RoutingRequest where
  category := .payment
  capability := "CREATE_ORDER"
  vendorId := none
  branchId := none
  region := none
  currency := none
  environment := some .live
  preferredProviderId := none
  routingStrategy := none

def defaultRouting : ProviderRoutingService :=
  ⟨fun _ => 0, fun _ => none, fun _ => none⟩

def mockRouting : ProviderRoutingService :=
  { defaultRouting with categoryCustomFallbacks := fun _ => some ["mock_payments"] }

theorem singleProvider_eligible : eligibleProviders singleProvider liveOrder = [razorpay] := by
  have hdiscovered : discoveredProviders singleProvider liveOrder = [razorpay] :=
    List.perm_singleton.mp discovered_perm
  have hcapable : capableProviders singleProvider liveOrder = [razorpay] := by
    have hsupports : supportsCapability .ascii "CREATE_ORDER" razorpay = true := by decide
    simp only [capableProviders, hdiscovered]
    exact List.filter_eq_self.mpr fun entry hentry => List.mem_singleton.mp hentry ▸ hsupports
  have hreachable : reachableProviders singleProvider liveOrder = [razorpay] := by
    simp only [reachableProviders, payableProviders, regionalProviders, hcapable]
    rfl
  have hlive : liveOrder.IsLive singleProvider := .inl rfl
  simp only [eligibleProviders, hlive, if_true, permittedProviders, hreachable]
  simp [isDenied, isAllowed, policyDecision, evaluatePolicies, singleProvider, sortBy,
    isCertified, liveOrder, razorpay]

/-- The one provider is enabled, and the chain that it makes keeps the law. -/
theorem single_provider_routed : RoutesAdmitted defaultRouting singleProvider liveOrder := by
  apply (routesAdmitted_iff defaultRouting singleProvider liveOrder (.inl rfl)).mpr
  intro _ entry hentry
  rw [singleProvider_eligible, List.mem_singleton] at hentry
  subst hentry
  exact ⟨rfl, rfl, rfl⟩

/-- The chain of a live order is the mock provider. -/
theorem mock_provider_routed : ¬ RoutesAdmitted mockRouting singleProvider liveOrder := by
  intro hroutes
  have hlaw : ChainLaw singleProvider liveOrder ["mock_payments"] := by
    have hordered := hroutes _ _ (resolveRoutingChain_eq (by simp [singleProvider_eligible]))
    exact (@chainLaw_ordered_iff mockRouting singleProvider liveOrder (.inl rfl)).mp hordered
  obtain ⟨entry, hentry, hsame, -⟩ := hlaw.admitted "mock_payments" (List.mem_singleton_self _)
  have hentry : entry = razorpay := List.mem_singleton.mp hentry
  subst hentry
  have hdifferent : CaseMapping.ascii.toLowerCase "razorpay" ≠
      CaseMapping.ascii.toLowerCase "mock_payments" := by decide
  exact hdifferent hsame

end CarRental.Integrations
