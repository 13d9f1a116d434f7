import CarRental.Pricing.RuleCascade

/-!
# Rules of other tenants

A rule belongs to another vendor when its row names one, or names a branch of one.  The clauses that
select the rules of a rental compare the vendor for rules of scope `VENDOR` only: a rule for a
vehicle class is selected for every vendor's cars of the class, a rule for all by its scope alone, a
rule for a branch or a car by these alone.
-/

namespace CarRental

open StableSort

/-! ## Whose a rule is -/

/-- The rule names another vendor, or a branch of another vendor; `branchVendor` has the vendors of
the branches. -/
def RentalPricingRule.Foreign (branchVendor : Id → Option Id) (vendorId : Id)
    (r : RentalPricingRule) : Prop :=
  (∃ owner ∈ r.vendorId, owner ≠ vendorId) ∨
    ∃ branchId ∈ r.branchId, ∃ owner ∈ branchVendor branchId, owner ≠ vendorId

instance (branchVendor : Id → Option Id) (vendorId : Id) (r : RentalPricingRule) :
    Decidable (r.Foreign branchVendor vendorId) :=
  inferInstanceAs (Decidable (_ ∨ _))

/-- Two tables that differ in the rules of other vendors only. -/
structure SameForVendor (branchVendor : Id → Option Id) (vendorId : Id)
    (tables tables' : RentalPricingTables) : Prop where
  rules : tables.rules.filter (¬ RentalPricingRule.Foreign branchVendor vendorId ·) =
    tables'.rules.filter (¬ RentalPricingRule.Foreign branchVendor vendorId ·)
  cars : tables.cars = tables'.cars

def RentalPricingRule.Selected (r : RentalPricingRule) (now : ℤ) (ctx : PricingResolutionContext) :
    Prop :=
  r.isActive ∧ r.Matches ctx ∧ r.effectiveFrom.all (· ≤ now) ∧ r.effectiveTo.all (now ≤ ·)

instance (r : RentalPricingRule) (now : ℤ) (ctx : PricingResolutionContext) :
    Decidable (r.Selected now ctx) :=
  inferInstanceAs (Decidable (_ ∧ _))

/-- What a rental costs, or why it is refused. -/
def priceOf (tables : RentalPricingTables) (calendar : LocalCalendar) (now : ℤ)
    (ctx : PricingResolutionContext) : Except HttpError ℚ :=
  (resolvePricing tables calendar now ctx).map EffectivePricingResolution.totalPayable

/-- No rules of other vendors change the price of the rental. -/
def NonInterfering (branchVendor : Id → Option Id) (tables : RentalPricingTables)
    (calendar : LocalCalendar) (now : ℤ) (ctx : PricingResolutionContext) : Prop :=
  ∀ tables', SameForVendor branchVendor ctx.vendorId tables tables' →
    priceOf tables calendar now ctx = priceOf tables' calendar now ctx

section Tenants

variable {branchVendor : Id → Option Id} {tables tables' : RentalPricingTables}
  {calendar : LocalCalendar} {now : ℤ} {ctx : PricingResolutionContext}

theorem fetch_eq (tables : RentalPricingTables) (now : ℤ) (ctx : PricingResolutionContext) :
    fetchActiveHierarchyRules tables now ctx =
      byPriority (tables.rules.filter (·.Selected now ctx)) := rfl

/-! ## Rules that are not selected -/

theorem filter_selected_of_none_foreign
    (h : ∀ r ∈ tables.rules, r.Selected now ctx → ¬ r.Foreign branchVendor ctx.vendorId) :
    tables.rules.filter (·.Selected now ctx) =
      (tables.rules.filter (¬ RentalPricingRule.Foreign branchVendor ctx.vendorId ·)).filter
        (·.Selected now ctx) := by
  rw [List.filter_filter]
  apply List.filter_congr
  intro r hr
  by_cases hselected : r.Selected now ctx
  · simp [hselected, h r hr hselected]
  · simp [hselected]

theorem resolvePricing_of_none_foreign
    (hsame : SameForVendor branchVendor ctx.vendorId tables tables')
    (h : ∀ r ∈ tables.rules, r.Selected now ctx → ¬ r.Foreign branchVendor ctx.vendorId)
    (h' : ∀ r ∈ tables'.rules, r.Selected now ctx → ¬ r.Foreign branchVendor ctx.vendorId) :
    resolvePricing tables calendar now ctx = resolvePricing tables' calendar now ctx := by
  have hfetch : fetchActiveHierarchyRules tables now ctx =
      fetchActiveHierarchyRules tables' now ctx := by
    rw [fetch_eq, fetch_eq, filter_selected_of_none_foreign h, filter_selected_of_none_foreign h',
      hsame.rules]
  have hterms : ∀ startDate endDate, rentalTerms tables calendar now ctx startDate endDate =
      rentalTerms tables' calendar now ctx startDate endDate := by
    intro startDate endDate
    rw [rentalTerms, rentalTerms, hfetch, hsame.cars]
  unfold resolvePricing
  simp only [hfetch, hterms]

/-! ## A rule for a vehicle class -/

/-- The highest priority in use. -/
def topPriority (rules : List RentalPricingRule) : ℤ :=
  (rules.map RentalPricingRule.priority).foldr max 0

theorem priority_le_topPriority {r : RentalPricingRule} {rules : List RentalPricingRule}
    (hr : r ∈ rules) : r.priority ≤ topPriority rules := by
  induction rules with
  | nil => cases hr
  | cons s rules ih =>
    rcases List.mem_cons.mp hr with rfl | hr
    · exact le_max_left _ _
    · exact (ih hr).trans (le_max_right _ _)

/-- A deposit that another vendor asks for with the class of the rental. -/
def classDeposit (rules : List RentalPricingRule) (ctx : PricingResolutionContext)
    (securityDepositAmount : Money) : RentalPricingRule :=
  { platformDeposit "class" securityDepositAmount with
    scope := .vehicleClass
    vendorId := some (ctx.vendorId ++ "-other")
    vehicleClass := some ctx.vehicleClass
    priority := topPriority rules }

def withClassDeposit (tables : RentalPricingTables) (ctx : PricingResolutionContext)
    (securityDepositAmount : Money) : RentalPricingTables :=
  { tables with rules := tables.rules ++ [classDeposit tables.rules ctx securityDepositAmount] }

theorem classDeposit_foreign (rules : List RentalPricingRule) (deposit : Money) :
    (classDeposit rules ctx deposit).Foreign branchVendor ctx.vendorId := by
  refine .inl ⟨_, rfl, fun heq => ?_⟩
  have hlength := congrArg String.length heq
  rw [String.length_append] at hlength
  have hpositive : 0 < "-other".length := by decide
  omega

theorem classDeposit_selected (rules : List RentalPricingRule) (deposit : Money) :
    (classDeposit rules ctx deposit).Selected now ctx :=
  ⟨rfl, .inr (.inr (.inr (.inl ⟨rfl, rfl⟩))), rfl, rfl⟩

theorem sameForVendor_classDeposit (deposit : Money) :
    SameForVendor branchVendor ctx.vendorId tables (withClassDeposit tables ctx deposit) where
  rules := by
    have hforeign : (classDeposit tables.rules ctx deposit).Foreign branchVendor ctx.vendorId :=
      classDeposit_foreign tables.rules deposit
    rw [withClassDeposit, List.filter_append, List.filter_cons_of_neg (by simpa using hforeign),
      List.filter_nil, List.append_nil]
  cars := rfl

theorem rank_le_four (scope : PricingRuleScope) : scope.rank ≤ 4 := by
  cases scope <;> decide

theorem sortedRules_classDeposit (deposit : Money) :
    sortedRules (fetchActiveHierarchyRules (withClassDeposit tables ctx deposit) now ctx) =
      sortedRules (fetchActiveHierarchyRules tables now ctx) ++
        [classDeposit tables.rules ctx deposit] := by
  have hselected : (classDeposit tables.rules ctx deposit).Selected now ctx :=
    classDeposit_selected tables.rules deposit
  rw [fetch_eq, fetch_eq, sortedRules_byPriority, sortedRules_byPriority, withClassDeposit,
    List.filter_append, List.filter_cons_of_pos (by simpa using hselected), List.filter_nil]
  apply sortedRules_concat
  intro r hr
  have hpriority := priority_le_topPriority (List.mem_filter.mp hr).1
  rw [RentalPricingRule.precedence, RentalPricingRule.precedence, Prod.Lex.toLex_le_toLex]
  rcases (rank_le_four r.scope).lt_or_eq with hlt | heq
  · exact .inl hlt
  · exact .inr ⟨heq, hpriority⟩

def RentalTerms.withDeposit (terms : RentalTerms) (deposit : ℚ) : RentalTerms :=
  { terms with rates := { terms.rates with deposit } }

theorem totalPayable_withDeposit (terms : RentalTerms) (deposit : ℚ) :
    (terms.withDeposit deposit).totalPayable =
      terms.totalPayable - terms.rates.deposit + deposit := by
  have htaxable : (terms.withDeposit deposit).taxableAmount = terms.taxableAmount := rfl
  have htax : (terms.withDeposit deposit).taxTotal = terms.taxTotal := rfl
  have hdeposit : (terms.withDeposit deposit).rates.deposit = deposit := rfl
  rw [RentalTerms.totalPayable, RentalTerms.totalPayable, htaxable, htax, hdeposit]
  ring

theorem rentalTerms_classDeposit (startDate endDate : ℤ) (deposit : Money) :
    rentalTerms (withClassDeposit tables ctx deposit) calendar now ctx startDate endDate =
      (rentalTerms tables calendar now ctx startDate endDate).withDeposit deposit.value := by
  have hrates : (rentalTerms (withClassDeposit tables ctx deposit) calendar now ctx startDate
      endDate).rates = ((rentalTerms tables calendar now ctx startDate endDate).withDeposit
        deposit.value).rates := by
    rw [rates_rentalTerms, effectiveRates, sortedRules_classDeposit, resolveRates,
      List.foldl_append]
    rfl
  rw [rentalTerms] at hrates ⊢
  exact congrArg (fun rates : RentalRates =>
    { rentalTerms tables calendar now ctx startDate endDate with rates }) hrates

/-! ## The law -/

/-- The dates are given, and the rental starts before it ends. -/
def PricingResolutionContext.Accepted (ctx : PricingResolutionContext) : Prop :=
  ∃ startDate ∈ ctx.startDate, ∃ endDate ∈ ctx.endDate, startDate < endDate

theorem priceOf_eq_ok {startDate endDate : ℤ} (hstart : ctx.startDate = some startDate)
    (hend : ctx.endDate = some endDate) (hlt : startDate < endDate) :
    priceOf tables calendar now ctx =
      .ok (rentalTerms tables calendar now ctx startDate endDate).totalPayable := by
  rw [priceOf, resolvePricing, hstart, hend]
  simp only [not_le.mpr hlt, if_false]
  rfl

theorem priceOf_of_not_accepted (h : ¬ ctx.Accepted) :
    priceOf tables calendar now ctx = priceOf tables' calendar now ctx := by
  rw [priceOf, priceOf, resolvePricing, resolvePricing]
  cases hstart : ctx.startDate with
  | none => rfl
  | some startDate =>
    cases hend : ctx.endDate with
    | none => rfl
    | some endDate =>
      have hle : endDate ≤ startDate :=
        not_lt.mp fun hlt => h ⟨startDate, hstart, endDate, hend, hlt⟩
      simp only [hle, if_true]

theorem exists_other_deposit (deposit : ℚ) : ∃ other : Money, other.value ≠ deposit := by
  by_cases hzero : (⟨0, by decide⟩ : Money).value = deposit
  · refine ⟨⟨1, by decide⟩, fun hone => ?_⟩
    have hsame := hone.trans hzero.symm
    exact absurd hsame (by decide +kernel)
  · exact ⟨_, hzero⟩

/-- **Rules of other tenants.**  For every table of rules and cars, every calendar, time and rental:
the price is independent of the rules of other vendors only if the rental is refused for its dates;
and two tables that differ in rules of other vendors resolve the same whenever none of these is
selected. -/
theorem tenant_rules_iff (branchVendor : Id → Option Id) (tables : RentalPricingTables)
    (calendar : LocalCalendar) (now : ℤ) (ctx : PricingResolutionContext) :
    (NonInterfering branchVendor tables calendar now ctx ↔ ¬ ctx.Accepted) ∧
      ∀ tables', SameForVendor branchVendor ctx.vendorId tables tables' →
        (∀ r ∈ tables.rules, r.Selected now ctx → ¬ r.Foreign branchVendor ctx.vendorId) →
        (∀ r ∈ tables'.rules, r.Selected now ctx → ¬ r.Foreign branchVendor ctx.vendorId) →
          resolvePricing tables calendar now ctx = resolvePricing tables' calendar now ctx := by
  refine ⟨⟨?_, ?_⟩, fun tables' hsame h h' => resolvePricing_of_none_foreign hsame h h'⟩
  · rintro hlaw ⟨startDate, hstart, endDate, hend, hlt⟩
    obtain ⟨deposit, hdeposit⟩ := exists_other_deposit
      (rentalTerms tables calendar now ctx startDate endDate).rates.deposit
    have hprice := hlaw _ (sameForVendor_classDeposit deposit)
    rw [priceOf_eq_ok hstart hend hlt, priceOf_eq_ok hstart hend hlt, rentalTerms_classDeposit,
      totalPayable_withDeposit, Except.ok.injEq] at hprice
    exact hdeposit (by linarith)
  · intro hrefused tables' _
    exact priceOf_of_not_accepted hrefused

end Tenants

/-! ## Two vendors of one class -/

def vendorHatchback : PricingResolutionContext :=
  { anyHatchback with carId := some "car" }

def oneVendor : RentalPricingTables where
  rules := []
  cars _ := some ⟨⟨1100, by decide⟩, ⟨130000, by decide⟩, ⟨17000, by decide⟩,
    0, 0, "Pune"⟩

/-- Another vendor's deposit of 9100.00 for hatchbacks is charged for the vendor's car. -/
theorem other_vendors_deposit_is_charged :
    priceOf oneVendor utcDays 0 vendorHatchback = .ok 4711 ∧
      priceOf (withClassDeposit oneVendor vendorHatchback ⟨910000, by decide⟩) utcDays 0
        vendorHatchback = .ok 10811 ∧
      ¬ NonInterfering (fun _ => none) oneVendor utcDays 0 vendorHatchback := by
  have hown : priceOf oneVendor utcDays 0 vendorHatchback = .ok 4711 := by decide +kernel
  have hother : priceOf (withClassDeposit oneVendor vendorHatchback ⟨910000, by decide⟩)
      utcDays 0 vendorHatchback = .ok 10811 := by decide +kernel
  refine ⟨hown, hother, fun hlaw => ?_⟩
  have hprice := hlaw _ (sameForVendor_classDeposit ⟨910000, by decide⟩)
  rw [hown, hother] at hprice
  cases hprice

end CarRental
