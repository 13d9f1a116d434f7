import CarRental.Lib.Ladder
import CarRental.Bookings.CancellationPolicy
import CarRental.Bookings.HandoverOtp

/-!
# Configuration payloads

What an administrator sends as a configuration is any JSON value, and the validator looks at it
field by field.  A field that is not there is `undefined`, here `none`; the fields of an array are
its positions, so that one asked for by a name is not there either.
-/

namespace CarRental

inductive JsonValue where
  | null
  | bool (value : Bool)
  | number (value : Decimal)
  | string (value : String)
  | array (items : List JsonValue)
  | object (fields : List (String × JsonValue))

namespace JsonValue

def field (name : String) : JsonValue → Option JsonValue
  | .object fields => (fields.find? fun entry => entry.1 = name).map Prod.snd
  | .null | .bool _ | .number _ | .string _ | .array _ => none

/-- `typeof value === 'object'`, for what is not null. -/
def isObject : JsonValue → Bool
  | .array _ | .object _ => true
  | .null | .bool _ | .number _ | .string _ => false

/-- `typeof value === 'object' && !Array.isArray(value)`, for what is not null. -/
def isRecord : JsonValue → Bool
  | .object _ => true
  | .null | .bool _ | .number _ | .string _ | .array _ => false

def isTruthy : JsonValue → Bool
  | .null => false
  | .bool value => value
  | .number value => value ≠ 0
  | .string value => value ≠ ""
  | .array _ | .object _ => true

/-- `value || fallback` -/
def orElse (value : Option JsonValue) (fallback : JsonValue) : JsonValue :=
  (value.filter isTruthy).getD fallback

end JsonValue

/-- How a value is put into a text. -/
abbrev ValueText := JsonValue → String

/-!
## The validator of cancellation matrices

`SystemConfigValidator.validateCancellationMatrixConfig`.  Tiers may come in any order; they are
kept sorted, the longest notice first.

`Valid` is what every accepted matrix satisfies (`valid_of_validate`): no two tiers of the same
notice, fees that do not fall as the pickup nears, and a fee after the start that is not below any
of them.
-/

structure PolicyTier extends CancellationTier where
  nonneg : 0 ≤ minHoursBeforePickup
  tier : String
  description : JsonValue

structure CancellationPolicy where
  tiers : List PolicyTier
  afterStartFeePercent : Percent
  afterStartTier : JsonValue
  afterStartDescription : JsonValue

/-- What the calculation of fees reads of it. -/
def CancellationPolicy.matrix (policy : CancellationPolicy) : CancellationMatrixConfig where
  tiers := policy.tiers.map PolicyTier.toCancellationTier
  afterStartFeePercent := policy.afterStartFeePercent

def percent? : JsonValue → Option Percent
  | .number value =>
    if h : 0 ≤ value ∧ value ≤ 100 then some ⟨value, h.1, h.2⟩ else none
  | .null | .bool _ | .string _ | .array _ | .object _ => none

/-! ## The checks -/

section Checks

variable (text : ValueText)

/-- The loop's body for one tier; the notices that are in use already come from the tiers before
it. -/
def validateTier (index : ℕ) (seenHours : List Decimal) (tier : JsonValue) :
    Except HttpError PolicyTier :=
  if !tier.isObject then
    .error (.badRequest ("Cancellation tier at index " ++ toString index ++ " must be an object."))
  else
    match (tier.field "minHoursBeforePickup").filter (! · matches .null) with
    | none =>
      .error (.badRequest
        ("Tier at index " ++ toString index ++ " is missing \"minHoursBeforePickup\"."))
    | some (.number minHoursBeforePickup) =>
      if hnonneg : 0 ≤ minHoursBeforePickup then
        if minHoursBeforePickup ∈ seenHours then
          .error (.badRequest ("Duplicate cancellation tier: minHoursBeforePickup " ++
            text (.number minHoursBeforePickup) ++ " is defined multiple times."))
        else
          match (tier.field "feePercent").filter (! · matches .null) with
          | none =>
            .error (.badRequest
              ("Tier at index " ++ toString index ++ " is missing \"feePercent\"."))
          | some fee =>
            match percent? fee with
            | none =>
              .error (.badRequest ("Tier at index " ++ toString index ++
                ": feePercent must be a number between 0 and 100. Received: " ++ text fee))
            | some feePercent =>
              match tier.field "tier" with
              | some (.string tierName) =>
                if textLength (trim tierName) = 0 then
                  .error (.badRequest ("Tier at index " ++ toString index ++
                    " must have a non-empty \"tier\" identifier string."))
                else
                  .ok {
                    minHoursBeforePickup, feePercent
                    nonneg := hnonneg
                    tier := trim tierName
                    description := JsonValue.orElse (tier.field "description")
                      (.string ("Cancellation within " ++
                        text (.number minHoursBeforePickup) ++ "h")) }
              | _ =>
                .error (.badRequest ("Tier at index " ++ toString index ++
                  " must have a non-empty \"tier\" identifier string."))
      else
        .error (.badRequest ("Tier at index " ++ toString index ++
          ": minHoursBeforePickup must be a non-negative number. Received: " ++
          text (.number minHoursBeforePickup)))
    | some other =>
      .error (.badRequest ("Tier at index " ++ toString index ++
        ": minHoursBeforePickup must be a non-negative number. Received: " ++ text other))

/-- The loop over the tiers. -/
def validateTiers (index : ℕ) (seenHours : List Decimal) :
    List JsonValue → Except HttpError (List PolicyTier)
  | [] => .ok []
  | tier :: rest =>
    (validateTier text index seenHours tier).bind fun checked =>
      (validateTiers (index + 1) (checked.minHoursBeforePickup :: seenHours) rest).bind
        fun others => .ok (checked :: others)

/-- Neighbours in the sorted list: the later one may not be cheaper. -/
def checkProgression : List PolicyTier → Except HttpError Unit
  | earlierInTime :: laterInTime :: rest =>
    if laterInTime.feePercent.value < earlierInTime.feePercent.value then
      .error (.badRequest ("Contradictory cancellation policy: fee at " ++
        text (.number laterInTime.minHoursBeforePickup) ++ "h before pickup (" ++
        text (.number laterInTime.feePercent.value) ++ "%) cannot be lower than fee at " ++
        text (.number earlierInTime.minHoursBeforePickup) ++ "h before pickup (" ++
        text (.number earlierInTime.feePercent.value) ++
        "%). Cancellation fees must increase as pickup nears."))
    else checkProgression (laterInTime :: rest)
  | [_] | [] => .ok ()

def sortDescending (tiers : List PolicyTier) : List PolicyTier :=
  tiers.insertionSort fun a b => b.minHoursBeforePickup ≤ a.minHoursBeforePickup

def maxTierFee (tiers : List PolicyTier) : Decimal :=
  (tiers.map fun tier => tier.feePercent.value).foldr max 0

def validateCancellationMatrixConfig (payload : JsonValue) : Except HttpError CancellationPolicy :=
  if !payload.isRecord then
    .error (.badRequest "booking.cancellation_matrix must be a JSON object containing \"tiers\".")
  else
    match payload.field "tiers" with
    | some (.array (first :: rest)) =>
      (validateTiers text 0 [] (first :: rest)).bind fun tiers =>
        let sortedDesc := sortDescending tiers
        (checkProgression text sortedDesc).bind fun _ =>
          let effective := (payload.field "afterStartFeePercent").getD (.number 100)
          match percent? effective with
          | none =>
            .error (.badRequest
              ("afterStartFeePercent must be a number between 0 and 100. Received: " ++
                text effective))
          | some afterStartFeePercent =>
            if afterStartFeePercent.value < maxTierFee tiers then
              .error (.badRequest ("Invalid cancellation policy: afterStartFeePercent (" ++
                text (.number afterStartFeePercent.value) ++
                "%) cannot be lower than the pre-trip cancellation fee (" ++
                text (.number (maxTierFee tiers)) ++ "%)."))
            else
              .ok {
                tiers := sortedDesc
                afterStartFeePercent
                afterStartTier := JsonValue.orElse (payload.field "afterStartTier")
                  (.string "NO_REFUND_AFTER_START")
                afterStartDescription := JsonValue.orElse
                  (payload.field "afterStartDescription")
                  (.string "Cancellation after trip pickup time (Non-refundable)") }
    | _ =>
      .error (.badRequest
        "booking.cancellation_matrix must contain a non-empty \"tiers\" array.")

end Checks

/-! ## What is accepted -/

structure CancellationPolicy.Valid (policy : CancellationPolicy) : Prop where
  nonempty : policy.tiers ≠ []
  descending : Ladder.Descending (fun tier => tier.minHoursBeforePickup) policy.tiers
  rising : Ladder.Rising (fun tier => tier.feePercent.value) policy.afterStartFeePercent.value
    policy.tiers

section Accepted

variable {text : ValueText} {tiers : List PolicyTier} {items : List JsonValue} {index : ℕ}
  {seenHours : List Decimal} {payload : JsonValue} {policy : CancellationPolicy}

theorem validateTier_fresh {item : JsonValue} {tier : PolicyTier}
    (h : validateTier text index seenHours item = .ok tier) :
    tier.minHoursBeforePickup ∉ seenHours := by
  unfold validateTier at h
  split at h
  · cases h
  split at h
  · cases h
  · split at h
    · split at h
      · cases h
      next hfresh =>
        split at h
        · cases h
        split at h
        · cases h
        split at h
        · split at h
          · cases h
          · cases h
            exact hfresh
        · cases h
    · cases h
  · cases h

theorem validateTiers_distinct (h : validateTiers text index seenHours items = .ok tiers) :
    tiers.Pairwise (fun a b => a.minHoursBeforePickup ≠ b.minHoursBeforePickup) ∧
      ∀ tier ∈ tiers, tier.minHoursBeforePickup ∉ seenHours := by
  induction items generalizing index seenHours tiers with
  | nil =>
    cases h
    exact ⟨List.Pairwise.nil, List.forall_mem_nil _⟩
  | cons item rest ih =>
    obtain ⟨checked, hchecked, h⟩ := bind_eq_ok.mp h
    obtain ⟨others, hothers, h⟩ := bind_eq_ok.mp h
    cases h
    obtain ⟨hdistinct, hnew⟩ := ih hothers
    constructor
    · apply List.pairwise_cons.mpr
      refine ⟨fun other hother hsame => ?_, hdistinct⟩
      apply hnew other hother
      rw [hsame]
      exact List.mem_cons_self ..
    · intro tier htier
      rcases List.mem_cons.mp htier with rfl | htier
      · exact validateTier_fresh hchecked
      · exact fun hseen => hnew tier htier (List.mem_cons_of_mem _ hseen)

theorem length_validateTiers (h : validateTiers text index seenHours items = .ok tiers) :
    tiers.length = items.length := by
  induction items generalizing index seenHours tiers with
  | nil =>
    cases h
    rfl
  | cons item rest ih =>
    obtain ⟨checked, -, h⟩ := bind_eq_ok.mp h
    obtain ⟨others, hothers, h⟩ := bind_eq_ok.mp h
    cases h
    rw [List.length_cons, List.length_cons, ih hothers]

theorem pairwise_of_checkProgression (h : checkProgression text tiers = .ok ()) :
    tiers.Pairwise fun a b => a.feePercent.value ≤ b.feePercent.value := by
  have htrans : IsTrans PolicyTier fun a b => a.feePercent.value ≤ b.feePercent.value :=
    ⟨fun _ _ _ => le_trans⟩
  rw [← List.isChain_iff_pairwise]
  induction tiers with
  | nil => exact List.IsChain.nil
  | cons first rest ih =>
    cases rest with
    | nil => exact List.IsChain.singleton first
    | cons second rest =>
      unfold checkProgression at h
      split at h
      · cases h
      next hle => exact List.IsChain.cons_cons (not_lt.mp hle) (ih h)

theorem sortDescending_descending
    (h : tiers.Pairwise fun a b => a.minHoursBeforePickup ≠ b.minHoursBeforePickup) :
    Ladder.Descending (fun tier => tier.minHoursBeforePickup) (sortDescending tiers) := by
  have htotal : Std.Total fun a b : PolicyTier => b.minHoursBeforePickup ≤ a.minHoursBeforePickup :=
    ⟨fun a b => le_total b.minHoursBeforePickup a.minHoursBeforePickup⟩
  have htrans : IsTrans PolicyTier fun a b => b.minHoursBeforePickup ≤ a.minHoursBeforePickup :=
    ⟨fun _ _ _ hab hbc => hbc.trans hab⟩
  have hsorted := List.pairwise_insertionSort
    (fun a b : PolicyTier => b.minHoursBeforePickup ≤ a.minHoursBeforePickup) tiers
  have hdistinct := (List.perm_insertionSort
    (fun a b : PolicyTier => b.minHoursBeforePickup ≤ a.minHoursBeforePickup) tiers).pairwise_iff
      (fun hne => hne.symm) |>.mpr h
  exact (hsorted.and hdistinct).imp fun ⟨hle, hne⟩ => lt_of_le_of_ne hle hne.symm

theorem le_maxTierFee {tier : PolicyTier} (h : tier ∈ tiers) :
    tier.feePercent.value ≤ maxTierFee tiers := by
  induction tiers with
  | nil => cases h
  | cons first rest ih =>
    rcases List.mem_cons.mp h with rfl | h
    · exact le_max_left _ _
    · exact (ih h).trans (le_max_right _ _)

theorem valid_of_validate (h : validateCancellationMatrixConfig text payload = .ok policy) :
    policy.Valid := by
  unfold validateCancellationMatrixConfig at h
  split at h
  · cases h
  split at h
  next first rest _ =>
    obtain ⟨tiers, htiers, h⟩ := bind_eq_ok.mp h
    obtain ⟨_, hprogression, h⟩ := bind_eq_ok.mp h
    dsimp only at h
    split at h
    · cases h
    split at h
    · cases h
    next hafter =>
      cases h
      have hperm : (sortDescending tiers).Perm tiers := List.perm_insertionSort _ _
      apply CancellationPolicy.Valid.mk
      · intro hnil
        have hlength := hperm.length_eq
        change sortDescending tiers = [] at hnil
        rw [hnil, length_validateTiers htiers, List.length_cons] at hlength
        cases hlength
      · exact sortDescending_descending (validateTiers_distinct htiers).1
      · refine ⟨pairwise_of_checkProgression hprogression, fun tier htier => ?_⟩
        exact (le_maxTierFee (hperm.subset htier)).trans (not_lt.mp hafter)
  · cases h

end Accepted

/-! ## The default matrix -/

def tierPayload (minHoursBeforePickup feePercent : Decimal) (tier description : String) :
    JsonValue :=
  .object [("minHoursBeforePickup", .number minHoursBeforePickup),
    ("feePercent", .number feePercent), ("tier", .string tier),
    ("description", .string description)]

/-- `DEFAULT_CANCELLATION_MATRIX`, as it would be sent. -/
def defaultCancellationPayload : JsonValue :=
  .object [
    ("tiers", .array [
      tierPayload 24 0 "FULL_REFUND_FREE_CANCELLATION"
        "Free cancellation (> 24 hours before pickup)",
      tierPayload 6 25 "MODERATE_CANCELLATION"
        "Cancellation between 6 and 24 hours before pickup (25% fee)",
      tierPayload 0 50 "LATE_CANCELLATION"
        "Cancellation within 6 hours of pickup time (50% fee)"]),
    ("afterStartFeePercent", .number 100),
    ("afterStartTier", .string "NO_REFUND_AFTER_START"),
    ("afterStartDescription", .string "Cancellation after trip pickup time (Non-refundable)")]

def freeTier : PolicyTier where
  minHoursBeforePickup := 24
  feePercent := ⟨0, by decide +kernel, by decide +kernel⟩
  nonneg := by decide +kernel
  tier := "FULL_REFUND_FREE_CANCELLATION"
  description := .string "Free cancellation (> 24 hours before pickup)"

def moderateTier : PolicyTier where
  minHoursBeforePickup := 6
  feePercent := ⟨25, by decide +kernel, by decide +kernel⟩
  nonneg := by decide +kernel
  tier := "MODERATE_CANCELLATION"
  description := .string "Cancellation between 6 and 24 hours before pickup (25% fee)"

def lateTier : PolicyTier where
  minHoursBeforePickup := 0
  feePercent := ⟨50, by decide +kernel, by decide +kernel⟩
  nonneg := by decide +kernel
  tier := "LATE_CANCELLATION"
  description := .string "Cancellation within 6 hours of pickup time (50% fee)"

def defaultCancellationPolicy : CancellationPolicy where
  tiers := [freeTier, moderateTier, lateTier]
  afterStartFeePercent := ⟨100, by decide +kernel, by decide +kernel⟩
  afterStartTier := .string "NO_REFUND_AFTER_START"
  afterStartDescription := .string "Cancellation after trip pickup time (Non-refundable)"

theorem validate_default (text : ValueText) :
    validateCancellationMatrixConfig text defaultCancellationPayload =
      .ok defaultCancellationPolicy := rfl

end CarRental
