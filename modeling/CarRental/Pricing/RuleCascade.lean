import CarRental.Lib.StableSort
import CarRental.Pricing.RentalPricing

/-!
# The cascade of pricing rules

The rules that match a rental come from the database by falling priority, and are sorted by scope
and priority before they override the rates one after the other.  The sort is stable, so rules of
one scope and one priority stay as the database has put them.

A rate is set by the last rule that sets it (`get_resolveRates`), which is one of the highest rank
among those (`Sorted.lastSet_eq`).  The hourly rate is the exception: its rule has a multiplier,
and the daily rate is the one of the rules up to it.
-/

namespace CarRental

open StableSort

/-! ## Rates that a rule sets -/

/-- The rates that a rule sets to a number of its own. -/
inductive RateField where
  | dailyRate
  | weekendMultiplier
  | peakMultiplier
  | holidayMultiplier
  | weeklyDiscountPct
  | monthlyDiscountPct
  | extraKmRate
  | lateReturnHourlyFee
  | deposit
  | convenienceFee
  | oneWayBaseFee
deriving DecidableEq, Repr

def RateField.setBy : RateField → RentalPricingRule → Option ℚ
  | .dailyRate, r => r.dailyRate.map Column.value
  | .weekendMultiplier, r => r.weekendMultiplier.map Column.value
  | .peakMultiplier, r => r.peakSeasonMultiplier.map Column.value
  | .holidayMultiplier, r => r.holidayMultiplier.map Column.value
  | .weeklyDiscountPct, r => r.weeklyDiscountPct
  | .monthlyDiscountPct, r => r.monthlyDiscountPct
  | .extraKmRate, r => r.extraKmRate.map Column.value
  | .lateReturnHourlyFee, r => r.lateReturnHourlyFee.map Column.value
  | .deposit, r => r.securityDepositAmount.map Column.value
  | .convenienceFee, r => r.convenienceFee.map Column.value
  | .oneWayBaseFee, r => r.oneWayBaseFee.map Column.value

def RateField.get : RateField → RentalRates → ℚ
  | .dailyRate, rates => rates.dailyRate
  | .weekendMultiplier, rates => rates.weekendMultiplier
  | .peakMultiplier, rates => rates.peakMultiplier
  | .holidayMultiplier, rates => rates.holidayMultiplier
  | .weeklyDiscountPct, rates => rates.weeklyDiscountPct
  | .monthlyDiscountPct, rates => rates.monthlyDiscountPct
  | .extraKmRate, rates => rates.extraKmRate
  | .lateReturnHourlyFee, rates => rates.lateReturnHourlyFee
  | .deposit, rates => rates.deposit
  | .convenienceFee, rates => rates.convenienceFee
  | .oneWayBaseFee, rates => rates.oneWayBaseFee

theorem RentalRates.ext_fields {rates rates' : RentalRates}
    (hfields : ∀ field : RateField, field.get rates = field.get rates')
    (hhourly : rates.hourlyRate = rates'.hourlyRate) : rates = rates' := by
  cases rates
  cases rates'
  rw [RentalRates.mk.injEq]
  exact ⟨hfields .dailyRate, hhourly, hfields .weekendMultiplier, hfields .peakMultiplier,
    hfields .holidayMultiplier, hfields .weeklyDiscountPct, hfields .monthlyDiscountPct,
    hfields .extraKmRate, hfields .lateReturnHourlyFee, hfields .deposit, hfields .convenienceFee,
    hfields .oneWayBaseFee⟩

theorem get_override (field : RateField) (rates : RentalRates) (r : RentalPricingRule) :
    field.get (rates.override r) = (field.setBy r).getD (field.get rates) := by
  have helim : ∀ {size : ℕ} (value : Option (Column size)) (old : ℚ),
      value.elim old Column.value = (value.map Column.value).getD old := by
    intro size value old
    cases value with
    | none => rfl
    | some value => rfl
  cases field with
  | weeklyDiscountPct => rfl
  | monthlyDiscountPct => rfl
  | dailyRate => exact helim r.dailyRate _
  | weekendMultiplier => exact helim r.weekendMultiplier _
  | peakMultiplier => exact helim r.peakSeasonMultiplier _
  | holidayMultiplier => exact helim r.holidayMultiplier _
  | extraKmRate => exact helim r.extraKmRate _
  | lateReturnHourlyFee => exact helim r.lateReturnHourlyFee _
  | deposit => exact helim r.securityDepositAmount _
  | convenienceFee => exact helim r.convenienceFee _
  | oneWayBaseFee => exact helim r.oneWayBaseFee _

section Rules

variable {rules rules' : List RentalPricingRule} {r s : RentalPricingRule} {rates : RentalRates}

theorem get_foldl_override (field : RateField) (rules : List RentalPricingRule)
    (rates : RentalRates) :
    field.get (rules.foldl RentalRates.override rates) =
      (lastSet field.setBy rules).getD (field.get rates) := by
  rw [← foldl_getD]
  induction rules generalizing rates with
  | nil => rfl
  | cons r rules ih => rw [List.foldl_cons, List.foldl_cons, ih, get_override]

theorem hourlyRate_foldl_of_none (h : ∀ r ∈ rules, r.hourlyRateMultiplier = none) :
    (rules.foldl RentalRates.override rates).hourlyRate = rates.hourlyRate := by
  induction rules generalizing rates with
  | nil => rfl
  | cons r rules ih =>
    rw [List.foldl_cons, ih fun s hs => h s (List.mem_cons_of_mem r hs)]
    simp [RentalRates.override, h r List.mem_cons_self]

theorem hourlyRate_foldl {before after : List RentalPricingRule} {multiplier : Column 5}
    (hr : r.hourlyRateMultiplier = some multiplier)
    (hafter : ∀ s ∈ after, s.hourlyRateMultiplier = none) :
    ((before ++ r :: after).foldl RentalRates.override rates).hourlyRate =
      (round ((lastSet RateField.dailyRate.setBy (before ++ [r])).getD rates.dailyRate *
        multiplier.value) : ℤ) := by
  have hdaily := get_foldl_override .dailyRate (before ++ [r]) rates
  rw [List.foldl_append, List.foldl_cons, List.foldl_nil] at hdaily
  rw [List.foldl_append, List.foldl_cons, hourlyRate_foldl_of_none hafter,
    RentalRates.override, hr]
  exact congrArg (fun daily : ℚ => ((round (daily * multiplier.value) : ℤ) : ℚ)) hdaily

/-! ## Ranks -/

/-- The rank of a rule in the cascade: its scope, and in a scope its priority. -/
def RentalPricingRule.precedence (r : RentalPricingRule) : ℕ ×ₗ ℤ :=
  toLex (r.scope.rank, r.priority)

theorem sortedRules_eq (rules : List RentalPricingRule) :
    sortedRules rules =
      rules.mergeSort fun a b => RentalPricingRule.precedence a ≤ b.precedence := by
  have hle : ∀ a b : RentalPricingRule, (a.scope.rank < b.scope.rank ∨
      a.scope.rank = b.scope.rank ∧ a.priority ≤ b.priority) ↔ a.precedence ≤ b.precedence := by
    intro a b
    rw [RentalPricingRule.precedence, RentalPricingRule.precedence, Prod.Lex.toLex_le_toLex]
  simp only [sortedRules, hle]

theorem sortedRules_sorted (rules : List RentalPricingRule) :
    Sorted RentalPricingRule.precedence (sortedRules rules) := by
  rw [sortedRules_eq]
  exact sorted_mergeSort _ _

theorem sortedRules_perm (rules : List RentalPricingRule) : (sortedRules rules).Perm rules :=
  List.mergeSort_perm _ _

theorem filter_sortedRules (rules : List RentalPricingRule) (rank : ℕ ×ₗ ℤ) :
    (sortedRules rules).filter (·.precedence = rank) = rules.filter (·.precedence = rank) := by
  rw [sortedRules_eq]
  exact filter_key_mergeSort rules rank

theorem sortedRules_concat (h : ∀ s ∈ rules, s.precedence ≤ r.precedence) :
    sortedRules (rules ++ [r]) = sortedRules rules ++ [r] := by
  apply (sortedRules_sorted _).eq_of_filter_eq
  · apply List.pairwise_append.mpr
    refine ⟨sortedRules_sorted rules, List.pairwise_singleton _ _, fun s hs t ht => ?_⟩
    rw [List.mem_singleton.mp ht]
    exact h s ((sortedRules_perm rules).mem_iff.mp hs)
  · intro rank
    rw [filter_sortedRules, List.filter_append, List.filter_append, filter_sortedRules]

/-! ## Orders of the database -/

/-- An order in which the database may return some rules: by falling priority. -/
structure Returned (matched rules : List RentalPricingRule) : Prop where
  perm : rules.Perm matched
  ordered : rules.Pairwise fun a b => b.priority ≤ a.priority

/-- `orderBy: { priority: 'desc' }` -/
def byPriority (rules : List RentalPricingRule) : List RentalPricingRule :=
  rules.mergeSort fun a b => b.priority ≤ a.priority

theorem fallingPriority_trans (a b c : RentalPricingRule) (hab : decide (b.priority ≤ a.priority))
    (hbc : decide (c.priority ≤ b.priority)) : decide (c.priority ≤ a.priority) :=
  decide_eq_true ((of_decide_eq_true hbc).trans (of_decide_eq_true hab))

theorem fallingPriority_total (a b : RentalPricingRule) :
    (decide (b.priority ≤ a.priority) || decide (a.priority ≤ b.priority)) = true := by
  simpa using le_total b.priority a.priority

theorem returned_byPriority {matched : List RentalPricingRule} (h : rules.Perm matched) :
    Returned matched (byPriority rules) where
  perm := (List.mergeSort_perm _ _).trans h
  ordered := by
    have hsorted := List.pairwise_mergeSort fallingPriority_trans fallingPriority_total rules
    simpa [byPriority] using hsorted

theorem sortedRules_byPriority (rules : List RentalPricingRule) :
    sortedRules (byPriority rules) = sortedRules rules := by
  apply (sortedRules_sorted _).eq_of_filter_eq (sortedRules_sorted _)
  intro rank
  rw [filter_sortedRules, filter_sortedRules]
  apply filter_mergeSort fallingPriority_trans fallingPriority_total
  intro a b ha hb
  have hsame : a.precedence = b.precedence :=
    (of_decide_eq_true ha).trans (of_decide_eq_true hb).symm
  have hpriority : a.priority = b.priority := congrArg (fun rank => (ofLex rank).2) hsame
  exact decide_eq_true hpriority.ge

/-! ## What is set to a number -/

variable {matched : List RentalPricingRule} {field : RateField}

/-- The highest rules that set a rate set it to the same. -/
def FieldsAgree (matched : List RentalPricingRule) : Prop :=
  ∀ (field : RateField) (r s : RentalPricingRule),
    Decides RentalPricingRule.precedence field.setBy matched r →
      Decides RentalPricingRule.precedence field.setBy matched s → field.setBy r = field.setBy s

theorem mem_sortedRules : r ∈ sortedRules rules ↔ r ∈ rules := (sortedRules_perm rules).mem_iff

theorem lastSet_sortedRules (h : Decides RentalPricingRule.precedence field.setBy rules r) :
    lastSet field.setBy (sortedRules rules) =
      lastSet field.setBy (rules.filter (·.precedence = r.precedence)) := by
  rw [← filter_sortedRules]
  exact (sortedRules_sorted rules).lastSet_eq (h.of_mem_iff fun _ => mem_sortedRules.symm)

theorem lastSet_sortedRules_concat
    (h : Decides RentalPricingRule.precedence field.setBy (rules ++ [r]) r) :
    lastSet field.setBy (sortedRules (rules ++ [r])) = field.setBy r := by
  have hlast : [r].filter (·.precedence = r.precedence) = [r] := by simp
  rw [lastSet_sortedRules h, List.filter_append, hlast, lastSet_concat h.isSome]

theorem exists_decides_lastSet {value : ℚ}
    (h : lastSet field.setBy (sortedRules rules) = some value) :
    ∃ s, Decides RentalPricingRule.precedence field.setBy rules s ∧
      field.setBy s = some value := by
  obtain ⟨before, s, after, hlist, hvalue, hafter⟩ := exists_of_lastSet h
  have hsorted := sortedRules_sorted rules
  rw [hlist] at hsorted
  have hdecides := hsorted.decides (by simp [hvalue]) hafter
  exact ⟨s, hdecides.of_mem_iff fun b => by rw [← hlist, mem_sortedRules], hvalue⟩

theorem fields_agree_iff :
    (∀ rules rules', rules.Perm matched → rules'.Perm matched → ∀ field : RateField,
      lastSet field.setBy (sortedRules rules) = lastSet field.setBy (sortedRules rules')) ↔
      FieldsAgree matched := by
  constructor
  · intro h field r s hr hs
    obtain ⟨others, hothers⟩ := exists_perm_concat hr.mem
    obtain ⟨others', hothers'⟩ := exists_perm_concat hs.mem
    have hsame := h _ _ hothers.symm hothers'.symm field
    rwa [lastSet_sortedRules_concat (hr.of_mem_iff fun _ => hothers.mem_iff),
      lastSet_sortedRules_concat (hs.of_mem_iff fun _ => hothers'.mem_iff)] at hsame
  · intro h rules rules' hrules hrules' field
    cases hlast : lastSet field.setBy (sortedRules rules) with
    | none =>
      have hnone := lastSet_eq_none_iff.mp hlast
      refine (lastSet_eq_none_iff.mpr fun s hs => hnone s ?_).symm
      exact mem_sortedRules.mpr ((hrules.trans hrules'.symm).mem_iff.mpr (mem_sortedRules.mp hs))
    | some value =>
      obtain ⟨r, hr, hvalue⟩ := exists_decides_lastSet hlast
      have hrmatched := hr.of_mem_iff fun _ => hrules.mem_iff
      cases hlast' : lastSet field.setBy (sortedRules rules') with
      | none =>
        have hnone := lastSet_eq_none_iff.mp hlast' r
          (mem_sortedRules.mpr (hrules'.mem_iff.mpr hrmatched.mem))
        rw [hvalue] at hnone
        cases hnone
      | some value' =>
        obtain ⟨s, hs, hvalue'⟩ := exists_decides_lastSet hlast'
        rw [← hvalue, ← hvalue']
        exact h field r s hrmatched (hs.of_mem_iff fun _ => hrules'.mem_iff)

/-! ## The hourly rate -/

/-- No rule of the rank has both a multiplier and a daily rate. -/
def NoneHasBoth (matched : List RentalPricingRule) (r : RentalPricingRule) : Prop :=
  ∀ s ∈ matched, s.precedence = r.precedence → s.hourlyRateMultiplier.isSome →
    RateField.dailyRate.setBy s = none

/-- The daily rates that the multiplier of a rule may be applied to: the rule's own; or the rate of
a rule of its rank that came first; or, if all of these may come later, the rate without them. -/
inductive DailySource (matched : List RentalPricingRule) (base : ℚ) (r : RentalPricingRule) :
    ℚ → Prop
  | own {daily : ℚ} (hown : RateField.dailyRate.setBy r = some daily) :
      DailySource matched base r daily
  | tied {s : RentalPricingRule} {daily : ℚ} (hown : RateField.dailyRate.setBy r = none)
      (hs : s ∈ matched) (hrank : s.precedence = r.precedence)
      (hdaily : RateField.dailyRate.setBy s = some daily) : DailySource matched base r daily
  | below {s : RentalPricingRule} {daily : ℚ} (hown : RateField.dailyRate.setBy r = none)
      (hboth : NoneHasBoth matched r)
      (hs : Decides RentalPricingRule.precedence RateField.dailyRate.setBy
        (matched.filter (·.precedence < r.precedence)) s)
      (hdaily : RateField.dailyRate.setBy s = some daily) : DailySource matched base r daily
  | base (hown : RateField.dailyRate.setBy r = none) (hboth : NoneHasBoth matched r)
      (hnone : ∀ s ∈ matched, s.precedence < r.precedence → RateField.dailyRate.setBy s = none) :
      DailySource matched base r base

/-- An hourly rate that the rules may set. -/
def HourlyOutcome (matched : List RentalPricingRule) (base : ℚ) (hourlyRate : ℤ) : Prop :=
  ∃ r multiplier daily,
    Decides RentalPricingRule.precedence RentalPricingRule.hourlyRateMultiplier matched r ∧
      r.hourlyRateMultiplier = some multiplier ∧ DailySource matched base r daily ∧
      hourlyRate = round (daily * multiplier.value)

theorem dailySource_of_before {before after : List RentalPricingRule} {base : ℚ}
    (hrules : rules.Perm matched) (hlist : sortedRules rules = before ++ r :: after)
    (hafter : ∀ s ∈ after, s.hourlyRateMultiplier = none) :
    DailySource matched base r
      ((lastSet RateField.dailyRate.setBy (before ++ [r])).getD base) := by
  have hmem : ∀ s, s ∈ matched ↔ s ∈ before ∨ s = r ∨ s ∈ after := by
    intro s
    rw [← hrules.mem_iff, ← mem_sortedRules, hlist, List.mem_append, List.mem_cons]
  have hsorted := sortedRules_sorted rules
  rw [hlist] at hsorted
  have hbefore : ∀ s ∈ before, s.precedence ≤ r.precedence := fun s hs =>
    (List.pairwise_append.mp hsorted).2.2 s hs r List.mem_cons_self
  have hlater : ∀ s ∈ after, r.precedence ≤ s.precedence :=
    (List.pairwise_cons.mp (List.pairwise_append.mp hsorted).2.1).1
  cases hown : RateField.dailyRate.setBy r with
  | some daily =>
    rw [lastSet_concat (by simp [hown]), hown, Option.getD_some]
    exact .own hown
  | none =>
    rw [lastSet_append_of_none (by simpa using hown)]
    cases hlast : lastSet RateField.dailyRate.setBy before with
    | none =>
      have hnone := lastSet_eq_none_iff.mp hlast
      refine .base hown ?_ fun s hs hlt => ?_
      · intro s hs hrank hmultiplier
        rcases (hmem s).mp hs with hs | rfl | hs
        · exact hnone s hs
        · exact hown
        · rw [hafter s hs] at hmultiplier
          cases hmultiplier
      · rcases (hmem s).mp hs with hs | rfl | hs
        · exact hnone s hs
        · exact hown
        · exact absurd hlt (not_lt.mpr (hlater s hs))
    | some daily =>
      obtain ⟨first, s, rest, rfl, hdaily, hrest⟩ := exists_of_lastSet hlast
      have hs : s ∈ first ++ s :: rest := by simp
      rw [Option.getD_some]
      rcases (hbefore s hs).lt_or_eq with hlt | heq
      · -- what is set before it at its own rank would come after `s`
        have hfront : Sorted RentalPricingRule.precedence (first ++ s :: rest) :=
          (List.pairwise_append.mp hsorted).1
        have hset := (hfront.decides (by simp [hdaily]) hrest).highest
        refine .below hown ?_ ⟨?_, by simp [hdaily], ?_⟩ hdaily
        · intro t ht hrank hmultiplier
          rcases (hmem t).mp ht with ht | rfl | ht
          · by_contra hsome
            have hle := hset t ht (Option.isSome_iff_ne_none.mpr hsome)
            exact absurd hlt (not_lt.mpr (hrank ▸ hle))
          · exact hown
          · rw [hafter t ht] at hmultiplier
            cases hmultiplier
        · exact List.mem_filter.mpr ⟨(hmem s).mpr (.inl hs), by simpa using hlt⟩
        · intro t ht hsome
          obtain ⟨htmem, htlt⟩ := List.mem_filter.mp ht
          rcases (hmem t).mp htmem with ht | rfl | ht
          · exact hset t ht hsome
          · exact absurd (of_decide_eq_true htlt) (lt_irrefl _)
          · exact absurd (of_decide_eq_true htlt) (not_lt.mpr (hlater t ht))
      · exact .tied hown ((hmem s).mpr (.inl hs)) heq hdaily

theorem hourlyOutcome_of_order (hrules : rules.Perm matched)
    (h : ∃ r ∈ matched, r.hourlyRateMultiplier.isSome) :
    ∃ hourlyRate, HourlyOutcome matched rates.dailyRate hourlyRate ∧
      ((sortedRules rules).foldl RentalRates.override rates).hourlyRate = (hourlyRate : ℤ) := by
  cases hlast : lastSet RentalPricingRule.hourlyRateMultiplier (sortedRules rules) with
  | none =>
    obtain ⟨r, hr, hsome⟩ := h
    rw [lastSet_eq_none_iff.mp hlast r (mem_sortedRules.mpr (hrules.mem_iff.mpr hr))] at hsome
    cases hsome
  | some multiplier =>
    obtain ⟨before, r, after, hlist, hr, hafter⟩ := exists_of_lastSet hlast
    refine ⟨_, ⟨r, multiplier, _, ?_, hr, dailySource_of_before hrules hlist hafter, rfl⟩, ?_⟩
    · have hsorted := sortedRules_sorted rules
      rw [hlist] at hsorted
      have hdecides := hsorted.decides (by simp [hr]) hafter
      exact hdecides.of_mem_iff fun s => by rw [← hlist, mem_sortedRules, hrules.mem_iff]
    · rw [hlist]
      exact hourlyRate_foldl hr hafter

theorem hourlyRate_of_block {front back : List RentalPricingRule} {multiplier : Column 5}
    (hdecides : Decides RentalPricingRule.precedence RentalPricingRule.hourlyRateMultiplier rules r)
    (hr : r.hourlyRateMultiplier = some multiplier)
    (hblock : rules.filter (·.precedence = r.precedence) = front ++ r :: back)
    (hback : ∀ s ∈ back, s.hourlyRateMultiplier = none) :
    ((sortedRules rules).foldl RentalRates.override rates).hourlyRate =
      (round ((lastSet RateField.dailyRate.setBy
        (((sortedRules rules).filter (·.precedence < r.precedence) ++ front) ++ [r])).getD
          rates.dailyRate * multiplier.value) : ℤ) := by
  have hsplit := (sortedRules_sorted rules).split r.precedence
  have hhigh : ∀ s ∈ back ++ (sortedRules rules).filter (r.precedence < ·.precedence),
      s.hourlyRateMultiplier = none := by
    intro s hs
    rcases List.mem_append.mp hs with hs | hs
    · exact hback s hs
    · obtain ⟨hmem, hlt⟩ := List.mem_filter.mp hs
      by_contra hsome
      have hle := hdecides.highest s (mem_sortedRules.mp hmem) (Option.isSome_iff_ne_none.mpr hsome)
      exact absurd (of_decide_eq_true hlt) (not_lt.mpr hle)
  rw [filter_sortedRules, hblock] at hsplit
  have hlist : sortedRules rules =
      ((sortedRules rules).filter (·.precedence < r.precedence) ++ front) ++
        r :: (back ++ (sortedRules rules).filter (r.precedence < ·.precedence)) := by
    conv_lhs => rw [hsplit]
    simp only [List.append_assoc, List.cons_append]
  conv_lhs => rw [hlist]
  exact hourlyRate_foldl hr hhigh

/-! ### Orders for every outcome -/

/-- A rule of the same rank that sets the daily rate. -/
def SetsDaily (r s : RentalPricingRule) : Prop :=
  s.precedence = r.precedence ∧ (RateField.dailyRate.setBy s).isSome

instance (r s : RentalPricingRule) : Decidable (SetsDaily r s) :=
  inferInstanceAs (Decidable (_ ∧ _))

/-- The rules with one of them put in front of those of its rank that set the daily rate. -/
def beforeDaily (r : RentalPricingRule) (others : List RentalPricingRule) :
    List RentalPricingRule :=
  others.filter (¬ SetsDaily r ·) ++ r :: others.filter (SetsDaily r ·)

theorem beforeDaily_perm (r : RentalPricingRule) (others : List RentalPricingRule) :
    (beforeDaily r others).Perm (others ++ [r]) := by
  have hparts := List.filter_append_perm (fun s => decide (SetsDaily r s)) others
  have hmiddle : (beforeDaily r others).Perm
      (r :: (others.filter (¬ SetsDaily r ·) ++ others.filter (SetsDaily r ·))) :=
    List.perm_middle
  have hsame : others.filter (fun s => !decide (SetsDaily r s)) =
      others.filter (¬ SetsDaily r ·) := by
    congr 1
    funext s
    exact (decide_not (p := SetsDaily r s)).symm
  rw [hsame] at hparts
  exact hmiddle.trans (((List.perm_append_comm.trans hparts).cons r).trans
    (List.perm_append_singleton r others).symm)

theorem hourlyRate_beforeDaily {others : List RentalPricingRule} {multiplier : Column 5}
    (hothers : matched.Perm (others ++ [r]))
    (hdecides : Decides RentalPricingRule.precedence RentalPricingRule.hourlyRateMultiplier
      matched r)
    (hr : r.hourlyRateMultiplier = some multiplier)
    (hown : RateField.dailyRate.setBy r = none) (hboth : NoneHasBoth matched r) :
    ((sortedRules (beforeDaily r others)).foldl RentalRates.override rates).hourlyRate =
      (round ((lastSet RateField.dailyRate.setBy
        ((sortedRules (beforeDaily r others)).filter (·.precedence < r.precedence))).getD
          rates.dailyRate * multiplier.value) : ℤ) := by
  have hperm : matched.Perm (beforeDaily r others) :=
    hothers.trans (beforeDaily_perm r others).symm
  have hblock : (beforeDaily r others).filter (·.precedence = r.precedence) =
      (others.filter (¬ SetsDaily r ·)).filter (·.precedence = r.precedence) ++
        r :: (others.filter (SetsDaily r ·)).filter (·.precedence = r.precedence) := by
    rw [beforeDaily, List.filter_append, List.filter_cons_of_pos (by simp)]
  have hback : ∀ s ∈ (others.filter (SetsDaily r ·)).filter (·.precedence = r.precedence),
      s.hourlyRateMultiplier = none := by
    intro s hs
    obtain ⟨hmem, hsets⟩ := List.mem_filter.mp (List.mem_filter.mp hs).1
    obtain ⟨hrank, hdaily⟩ := of_decide_eq_true hsets
    have hmatched : s ∈ matched := hothers.mem_iff.mpr (List.mem_append_left _ hmem)
    by_contra hsome
    rw [hboth s hmatched hrank (Option.isSome_iff_ne_none.mpr hsome)] at hdaily
    cases hdaily
  have hfront : ∀ s ∈ (others.filter (¬ SetsDaily r ·)).filter (·.precedence = r.precedence),
      RateField.dailyRate.setBy s = none := by
    intro s hs
    obtain ⟨hearly, hrank⟩ := List.mem_filter.mp hs
    have hnot : ¬ SetsDaily r s := of_decide_eq_true (List.mem_filter.mp hearly).2
    by_contra hsome
    exact hnot ⟨of_decide_eq_true hrank, Option.isSome_iff_ne_none.mpr hsome⟩
  have hlast : ∀ s ∈ [r], RateField.dailyRate.setBy s = none := by simpa using hown
  rw [hourlyRate_of_block (hdecides.of_mem_iff fun _ => hperm.mem_iff) hr hblock hback,
    lastSet_append_of_none hlast, lastSet_append_of_none hfront]

theorem filter_precedence_beforeDaily {rest : List RentalPricingRule} {s : RentalPricingRule}
    (hlt : s.precedence < r.precedence) :
    (beforeDaily r (rest ++ [s])).filter (·.precedence = s.precedence) =
      (rest.filter (¬ SetsDaily r ·)).filter (·.precedence = s.precedence) ++ [s] := by
  have hnot : ¬ SetsDaily r s := fun hsets => absurd hsets.1 hlt.ne
  have hnone : (rest.filter (SetsDaily r ·)).filter (·.precedence = s.precedence) = [] := by
    rw [List.filter_eq_nil_iff]
    intro t ht
    obtain ⟨hrank, -⟩ := of_decide_eq_true (List.mem_filter.mp ht).2
    simpa [hrank] using hlt.ne'
  rw [beforeDaily]
  simp only [List.filter_append, List.filter_cons_of_neg (p := (SetsDaily r ·)) (a := s)
    (by simpa using hnot), List.filter_cons_of_pos (p := (¬ SetsDaily r ·)) (a := s)
    (by simpa using hnot), List.filter_nil, List.append_nil,
    List.filter_cons_of_neg (p := (·.precedence = s.precedence)) (a := r)
      (by simpa using hlt.ne'), hnone,
    List.filter_cons_of_pos (p := (·.precedence = s.precedence)) (a := s) (by simp)]

theorem lastSet_below_beforeDaily {rest : List RentalPricingRule} {s : RentalPricingRule}
    (hs : Decides RentalPricingRule.precedence RateField.dailyRate.setBy
      (matched.filter (·.precedence < r.precedence)) s)
    (hperm : matched.Perm (beforeDaily r (rest ++ [s]))) :
    lastSet RateField.dailyRate.setBy
      ((sortedRules (beforeDaily r (rest ++ [s]))).filter (·.precedence < r.precedence)) =
        RateField.dailyRate.setBy s := by
  have hlt : s.precedence < r.precedence := of_decide_eq_true (List.mem_filter.mp hs.mem).2
  have hdecides : Decides RentalPricingRule.precedence RateField.dailyRate.setBy
      ((sortedRules (beforeDaily r (rest ++ [s]))).filter (·.precedence < r.precedence)) s :=
    hs.of_mem_iff fun t => by
      rw [List.mem_filter, List.mem_filter, mem_sortedRules, hperm.mem_iff]
  have hrank : ((sortedRules (beforeDaily r (rest ++ [s]))).filter
      (·.precedence < r.precedence)).filter (·.precedence = s.precedence) =
        (sortedRules (beforeDaily r (rest ++ [s]))).filter (·.precedence = s.precedence) := by
    rw [List.filter_filter]
    apply List.filter_congr
    intro t _
    by_cases ht : t.precedence = s.precedence
    · simp [ht, hlt]
    · simp [ht]
  have hsorted : Sorted RentalPricingRule.precedence
      ((sortedRules (beforeDaily r (rest ++ [s]))).filter (·.precedence < r.precedence)) :=
    List.Pairwise.sublist List.filter_sublist (sortedRules_sorted _)
  rw [hsorted.lastSet_eq hdecides, hrank, filter_sortedRules, filter_precedence_beforeDaily hlt,
    lastSet_concat hs.isSome]

theorem exists_order_of_outcome {hourlyRate : ℤ}
    (h : HourlyOutcome matched rates.dailyRate hourlyRate) :
    ∃ rules, rules.Perm matched ∧
      ((sortedRules rules).foldl RentalRates.override rates).hourlyRate = hourlyRate := by
  obtain ⟨r, multiplier, daily, hdecides, hr, hsource, rfl⟩ := h
  obtain ⟨others, hothers⟩ := exists_perm_concat hdecides.mem
  cases hsource with
  | own hown =>
    refine ⟨others ++ [r], hothers.symm, ?_⟩
    have hblock : (others ++ [r]).filter (·.precedence = r.precedence) =
        others.filter (·.precedence = r.precedence) ++ r :: [] := by
      rw [List.filter_append, List.filter_cons_of_pos (by simp), List.filter_nil]
    rw [hourlyRate_of_block (hdecides.of_mem_iff fun _ => hothers.mem_iff) hr hblock (by simp),
      lastSet_concat (by simp [hown]), hown, Option.getD_some]
  | @tied s daily hown hs hrank hdaily =>
    have hne : s ≠ r := by
      rintro rfl
      rw [hown] at hdaily
      cases hdaily
    obtain ⟨rest, hperm⟩ := exists_perm_concat_concat hothers hs hne
    refine ⟨rest ++ [s] ++ [r], hperm.symm, ?_⟩
    have hblock : (rest ++ [s] ++ [r]).filter (·.precedence = r.precedence) =
        (rest.filter (·.precedence = r.precedence) ++ [s]) ++ r :: [] := by
      rw [List.filter_append, List.filter_append, List.filter_cons_of_pos (by simpa using hrank),
        List.filter_nil, List.filter_cons_of_pos (by simp), List.filter_nil]
    have hlast : ∀ t ∈ [r], RateField.dailyRate.setBy t = none := by simpa using hown
    rw [hourlyRate_of_block (hdecides.of_mem_iff fun _ => hperm.mem_iff) hr hblock (by simp),
      lastSet_append_of_none hlast, ← List.append_assoc,
      lastSet_concat (by simp [hdaily]), hdaily, Option.getD_some]
  | @below s daily hown hboth hs hdaily =>
    obtain ⟨hsmatched, hlt⟩ := List.mem_filter.mp hs.mem
    have hne : s ≠ r := by
      rintro rfl
      exact absurd (of_decide_eq_true hlt) (lt_irrefl _)
    obtain ⟨rest, hmoved⟩ := exists_perm_concat_concat hothers hsmatched hne
    have hperm : matched.Perm (beforeDaily r (rest ++ [s])) :=
      hmoved.trans (beforeDaily_perm r (rest ++ [s])).symm
    refine ⟨beforeDaily r (rest ++ [s]), hperm.symm, ?_⟩
    rw [hourlyRate_beforeDaily hmoved hdecides hr hown hboth, lastSet_below_beforeDaily hs hperm,
      hdaily, Option.getD_some]
  | base hown hboth hnone =>
    have hperm : matched.Perm (beforeDaily r others) :=
      hothers.trans (beforeDaily_perm r others).symm
    refine ⟨beforeDaily r others, hperm.symm, ?_⟩
    have hlow : lastSet RateField.dailyRate.setBy
        ((sortedRules (beforeDaily r others)).filter (·.precedence < r.precedence)) = none := by
      rw [lastSet_eq_none_iff]
      intro s hs
      obtain ⟨hmem, hlt⟩ := List.mem_filter.mp hs
      exact hnone s (hperm.mem_iff.mpr (mem_sortedRules.mp hmem)) (of_decide_eq_true hlt)
    rw [hourlyRate_beforeDaily hothers hdecides hr hown hboth, hlow, Option.getD_none]

end Rules

/-! ## The law of the cascade -/

/-- What the rules of a rental resolve to when the database returns them in some order. -/
def effectiveRates (tables : RentalPricingTables) (ctx : PricingResolutionContext)
    (rules : List RentalPricingRule) : RentalRates :=
  resolveRates ((given ctx.carId).bind tables.cars) ctx.vehicleClass (sortedRules rules)

def baseDailyRate (tables : RentalPricingTables) (ctx : PricingResolutionContext) : ℚ :=
  (defaultRates ((given ctx.carId).bind tables.cars) ctx.vehicleClass).dailyRate

section Law

variable {tables : RentalPricingTables} {now : ℤ} {ctx : PricingResolutionContext}
  {rules rules' : List RentalPricingRule}

theorem rates_rentalTerms (calendar : LocalCalendar) (startDate endDate : ℤ) :
    (rentalTerms tables calendar now ctx startDate endDate).rates =
      effectiveRates tables ctx (fetchActiveHierarchyRules tables now ctx) := rfl

/-- Whatever order the database has put the rules in, the rates are the same; and a rate that a rule
sets, to zero as well, is the one of a rule that is no less specific. -/
structure CascadeLaw (tables : RentalPricingTables) (now : ℤ) (ctx : PricingResolutionContext) :
    Prop where
  independent : ∀ rules rules', Returned (fetchActiveHierarchyRules tables now ctx) rules →
    Returned (fetchActiveHierarchyRules tables now ctx) rules' →
      effectiveRates tables ctx rules = effectiveRates tables ctx rules'
  precedence : ∀ rules, Returned (fetchActiveHierarchyRules tables now ctx) rules →
    ∀ (field : RateField), ∀ r ∈ rules, (field.setBy r).isSome →
      ∃ s ∈ rules, r.scope.rank ≤ s.scope.rank ∧
        field.setBy s = some (field.get (effectiveRates tables ctx rules))
  hourlyPrecedence : ∀ rules, Returned (fetchActiveHierarchyRules tables now ctx) rules →
    ∀ r ∈ rules, r.hourlyRateMultiplier.isSome →
      ∃ s ∈ rules, r.scope.rank ≤ s.scope.rank ∧ ∃ multiplier daily,
        s.hourlyRateMultiplier = some multiplier ∧
          DailySource rules (baseDailyRate tables ctx) s daily ∧
            (effectiveRates tables ctx rules).hourlyRate =
              (round (daily * multiplier.value) : ℤ)

/-- Of the rules that decide a rate, and have the same scope and priority, no two set it to
different values; and whichever of them comes last, the hourly rate is the same. -/
structure TiesAgree (tables : RentalPricingTables) (now : ℤ) (ctx : PricingResolutionContext) :
    Prop where
  fields : FieldsAgree (fetchActiveHierarchyRules tables now ctx)
  hourly : ∀ hourlyRate hourlyRate' : ℤ,
    HourlyOutcome (fetchActiveHierarchyRules tables now ctx) (baseDailyRate tables ctx)
        hourlyRate →
      HourlyOutcome (fetchActiveHierarchyRules tables now ctx) (baseDailyRate tables ctx)
        hourlyRate' → hourlyRate = hourlyRate'

theorem get_effectiveRates (field : RateField) (rules : List RentalPricingRule) :
    field.get (effectiveRates tables ctx rules) =
      (lastSet field.setBy (sortedRules rules)).getD
        (field.get (defaultRates ((given ctx.carId).bind tables.cars) ctx.vehicleClass)) :=
  get_foldl_override field _ _

theorem effectiveRates_byPriority (rules : List RentalPricingRule) :
    effectiveRates tables ctx (byPriority rules) = effectiveRates tables ctx rules := by
  rw [effectiveRates, effectiveRates, sortedRules_byPriority]

theorem rank_le_of_precedence_le {r s : RentalPricingRule} (h : r.precedence ≤ s.precedence) :
    r.scope.rank ≤ s.scope.rank := by
  rcases Prod.Lex.toLex_le_toLex.mp h with hlt | ⟨heq, -⟩
  · exact hlt.le
  · exact heq.le

theorem field_precedence {field : RateField} {r : RentalPricingRule} (hr : r ∈ rules)
    (hset : (field.setBy r).isSome) :
    ∃ s ∈ rules, r.scope.rank ≤ s.scope.rank ∧
      field.setBy s = some (field.get (effectiveRates tables ctx rules)) := by
  cases hlast : lastSet field.setBy (sortedRules rules) with
  | none =>
    rw [lastSet_eq_none_iff.mp hlast r (mem_sortedRules.mpr hr)] at hset
    cases hset
  | some value =>
    obtain ⟨s, hs, hvalue⟩ := exists_decides_lastSet hlast
    refine ⟨s, hs.mem, rank_le_of_precedence_le (hs.highest r hr hset), ?_⟩
    rw [get_effectiveRates, hlast, hvalue, Option.getD_some]

theorem hourly_precedence {r : RentalPricingRule} (hr : r ∈ rules)
    (hset : r.hourlyRateMultiplier.isSome) :
    ∃ s ∈ rules, r.scope.rank ≤ s.scope.rank ∧ ∃ multiplier daily,
      s.hourlyRateMultiplier = some multiplier ∧
        DailySource rules (baseDailyRate tables ctx) s daily ∧
          (effectiveRates tables ctx rules).hourlyRate = (round (daily * multiplier.value) : ℤ) := by
  obtain ⟨hourlyRate, ⟨s, multiplier, daily, hs, hmultiplier, hsource, rfl⟩, hrate⟩ :=
    hourlyOutcome_of_order (List.Perm.refl rules) ⟨r, hr, hset⟩
  exact ⟨s, hs.mem, rank_le_of_precedence_le (hs.highest r hr hset), multiplier, daily,
    hmultiplier, hsource, hrate⟩

/-- **The cascade of pricing rules.**  For every table of rules, every time and every rental: the
precedence of the scopes always holds, and the rates do not depend on the order in which the
database returns the rules exactly when the rules of one scope and priority that decide a rate agree
on it. -/
theorem rule_cascade_iff (tables : RentalPricingTables) (now : ℤ)
    (ctx : PricingResolutionContext) :
    CascadeLaw tables now ctx ↔ TiesAgree tables now ctx := by
  constructor
  · intro hlaw
    have hsame : ∀ rules rules', rules.Perm (fetchActiveHierarchyRules tables now ctx) →
        rules'.Perm (fetchActiveHierarchyRules tables now ctx) →
          effectiveRates tables ctx rules = effectiveRates tables ctx rules' := by
      intro rules rules' hrules hrules'
      have h := hlaw.independent _ _ (returned_byPriority hrules) (returned_byPriority hrules')
      rwa [effectiveRates_byPriority, effectiveRates_byPriority] at h
    constructor
    · intro field r s hr hs
      obtain ⟨others, hothers⟩ := exists_perm_concat hr.mem
      obtain ⟨others', hothers'⟩ := exists_perm_concat hs.mem
      have hget := congrArg field.get (hsame _ _ hothers.symm hothers'.symm)
      rw [get_effectiveRates, get_effectiveRates,
        lastSet_sortedRules_concat (hr.of_mem_iff fun _ => hothers.mem_iff),
        lastSet_sortedRules_concat (hs.of_mem_iff fun _ => hothers'.mem_iff)] at hget
      obtain ⟨value, hvalue⟩ := Option.isSome_iff_exists.mp hr.isSome
      obtain ⟨value', hvalue'⟩ := Option.isSome_iff_exists.mp hs.isSome
      rw [hvalue, hvalue'] at hget ⊢
      exact congrArg some hget
    · intro hourlyRate hourlyRate' houtcome houtcome'
      obtain ⟨rules, hrules, hrate⟩ := exists_order_of_outcome houtcome
      obtain ⟨rules', hrules', hrate'⟩ := exists_order_of_outcome houtcome'
      have hhourly := congrArg RentalRates.hourlyRate (hsame rules rules' hrules hrules')
      exact Int.cast_injective ((hrate.symm.trans hhourly).trans hrate')
  · intro hties
    refine ⟨fun rules rules' hrules hrules' => ?_, fun rules _ field r hr hset =>
      field_precedence hr hset, fun rules _ r hr hset => hourly_precedence hr hset⟩
    apply RentalRates.ext_fields
    · intro field
      rw [get_effectiveRates, get_effectiveRates,
        fields_agree_iff.mpr hties.fields rules rules' hrules.perm hrules'.perm field]
    · by_cases hset : ∃ r ∈ fetchActiveHierarchyRules tables now ctx, r.hourlyRateMultiplier.isSome
      · obtain ⟨hourlyRate, houtcome, hrate⟩ := hourlyOutcome_of_order hrules.perm hset
        obtain ⟨hourlyRate', houtcome', hrate'⟩ := hourlyOutcome_of_order hrules'.perm hset
        rw [hties.hourly hourlyRate hourlyRate' houtcome houtcome'] at hrate
        exact hrate.trans hrate'.symm
      · have hnone : ∀ rules, rules.Perm (fetchActiveHierarchyRules tables now ctx) →
            ∀ r ∈ sortedRules rules, r.hourlyRateMultiplier = none := by
          intro rules hrules r hr
          by_contra hsome
          exact hset ⟨r, hrules.mem_iff.mp (mem_sortedRules.mp hr),
            Option.isSome_iff_ne_none.mpr hsome⟩
        exact (hourlyRate_foldl_of_none (hnone rules hrules.perm)).trans
          (hourlyRate_foldl_of_none (hnone rules' hrules'.perm)).symm

end Law

/-! ## Two rules of one rank -/

/-- A rule for every rental that asks for a deposit, at the default priority. -/
def platformDeposit (id : Id) (securityDepositAmount : Money) : RentalPricingRule where
  id
  name := "Deposit"
  scope := .platform
  vendorId := none
  branchId := none
  vehicleClass := none
  carId := none
  hourlyRateMultiplier := none
  dailyRate := none
  weeklyDiscountPct := none
  monthlyDiscountPct := none
  weekendMultiplier := none
  peakSeasonMultiplier := none
  holidayMultiplier := none
  extraKmRate := none
  lateReturnHourlyFee := none
  securityDepositAmount := some securityDepositAmount
  convenienceFee := none
  oneWayBaseFee := none
  isActive := true
  priority := 0
  effectiveFrom := none
  effectiveTo := none

def tiedDeposits : RentalPricingTables :=
  ⟨[platformDeposit "low" ⟨210000, by decide⟩,
    platformDeposit "high" ⟨420000, by decide⟩], fun _ => none⟩

def anyHatchback : PricingResolutionContext where
  vendorId := "vendor"
  branchId := none
  returnBranchId := none
  vehicleClass := .hatchback
  carId := none
  startDate := some 1773133200000
  endDate := some 1773219600000
  tripType := .selfDrive
  couponDiscountAmount := none
  deliveryFee := none
  pickupFee := none
  returnFee := none

/-- The deposit is the one of the rule that the database returns last. -/
theorem tied_deposits_depend_on_order : ¬ CascadeLaw tiedDeposits 0 anyHatchback := by
  intro hlaw
  have hmatched : fetchActiveHierarchyRules tiedDeposits 0 anyHatchback = tiedDeposits.rules := by
    apply List.mergeSort_of_pairwise
    decide
  have hreturned : Returned (fetchActiveHierarchyRules tiedDeposits 0 anyHatchback)
      tiedDeposits.rules := ⟨hmatched ▸ .refl _, by decide⟩
  have hreturned' : Returned (fetchActiveHierarchyRules tiedDeposits 0 anyHatchback)
      tiedDeposits.rules.reverse := ⟨hmatched ▸ List.reverse_perm _, by decide⟩
  have hsame := congrArg RentalRates.deposit (hlaw.independent _ _ hreturned hreturned')
  have hsorted : sortedRules tiedDeposits.rules = tiedDeposits.rules := by
    apply List.mergeSort_of_pairwise
    decide
  have hsorted' : sortedRules tiedDeposits.rules.reverse = tiedDeposits.rules.reverse := by
    apply List.mergeSort_of_pairwise
    decide
  rw [effectiveRates, effectiveRates, hsorted, hsorted'] at hsame
  exact absurd hsame (by decide +kernel)

end CarRental
