import CarRental.Locations.DeliveryQuote

/-!
# The location matrix and the quote

`getVendorLocationMatrix` shows what a return elsewhere costs, `calculateDeliveryQuote` charges it.
They agree where the pair has a row of its own or the return location has a fee
(`oneWay_agrees`); without either they fall back differently, and the quote drops the surcharge of
a pair that is not supported.  The total is rounded once, its parts each on their own.
-/

namespace CarRental

inductive LocationStatus where
  | draft
  | pendingReview
  | active
  | paused
  | suspended
  | archived
deriving DecidableEq, Repr

structure VendorLocation extends PickupHub where
  name : String
  isActive : Bool
  status : LocationStatus

/-- The locations of a vendor, of whom the quote reads the active ones. -/
structure LocationsOf (vendor : LocatedVendor) where
  locations : List VendorLocation
  nodup : (locations.map fun location => location.id).Nodup
  hubs : vendor.pickupHubs = (locations.filter (·.isActive)).map VendorLocation.toPickupHub

structure MatrixEntry where
  pickupLocationId : Id
  returnLocationId : Id
  pickupLocationName : String
  returnLocationName : String
  isSupported : Bool
  oneWaySurcharge : ℚ

def matrixEntry (tables : LocationTables) (vendorId : Id) (pickup return' : VendorLocation) :
    MatrixEntry :=
  let existing := matrixItem? tables vendorId pickup.id return'.id
  { pickupLocationId := pickup.id
    returnLocationId := return'.id
    pickupLocationName := pickup.name
    returnLocationName := return'.name
    isSupported := if pickup.id = return'.id then true
      else (existing.map (·.isSupported)).getD true
    oneWaySurcharge := if pickup.id = return'.id then 0
      else (existing.map (·.oneWaySurcharge.value)).getD
        (orDefault return'.oneWayFee.value (orDefault pickup.oneWayFee.value 250)) }

def getVendorLocationMatrix (tables : LocationTables) (vendorId : Id)
    (locations : List VendorLocation) : List MatrixEntry :=
  let active := locations.filter (·.status = .active)
  active.flatMap fun pickup => active.map (matrixEntry tables vendorId pickup)

/-- What the quote uses for its pair of locations. -/
def quotedOneWay (tables : LocationTables) (vendor : LocatedVendor)
    (dto : CalculateDeliveryQuoteDto) : ℚ × Option String :=
  oneWayLeg tables vendor (hubOr vendor.pickupHubs dto.returnLocationId
    (hubOr vendor.pickupHubs dto.pickupLocationId vendor.pickupHubs.head?)) dto

/-! ## The surcharge of a pair -/

section

variable {tables : LocationTables} {vendor : LocatedVendor} {dto : CalculateDeliveryQuoteDto}
  {entry : MatrixEntry}

/-- The pair has a row of its own, or its return location is open and has a fee. -/
def Priced (tables : LocationTables) (vendorId : Id) (locations : List VendorLocation)
    (entry : MatrixEntry) : Prop :=
  (matrixItem? tables vendorId entry.pickupLocationId entry.returnLocationId).isSome ∨
    ∃ location ∈ locations, location.id = entry.returnLocationId ∧ location.isActive = true ∧
      location.oneWayFee.value ≠ 0

/-- The two agree on what is supported, and on what a supported pair costs. -/
structure OneWayAgrees (entry : MatrixEntry) (oneWay : ℚ × Option String) : Prop where
  supported : oneWay.2 = none ↔ entry.isSupported = true
  surcharge : oneWay.1 = if entry.isSupported then entry.oneWaySurcharge else 0

theorem find_hub (locations : LocationsOf vendor) {location : VendorLocation}
    (hmem : location ∈ locations.locations) (hactive : location.isActive = true) :
    vendor.pickupHubs.find? (fun hub => hub.id = location.id) = some location.toPickupHub := by
  have hnodup : (vendor.pickupHubs.map (·.id)).Nodup := by
    rw [locations.hubs, List.map_map]
    exact locations.nodup.sublist (List.filter_sublist.map _)
  have hhub : location.toPickupHub ∈ vendor.pickupHubs := by
    rw [locations.hubs]
    exact List.mem_map_of_mem (List.mem_filter.mpr ⟨hmem, hactive⟩)
  cases hfind : vendor.pickupHubs.find? fun hub => hub.id = location.id with
  | none => exact absurd (decide_eq_true rfl) (List.find?_eq_none.mp hfind _ hhub)
  | some hub =>
    have hid : hub.id = location.id := by simpa using List.find?_some hfind
    rw [List.inj_on_of_nodup_map hnodup (List.mem_of_find?_eq_some hfind) hhub hid]

theorem oneWay_agrees (locations : LocationsOf vendor)
    (hentry : entry ∈ getVendorLocationMatrix tables vendor.id locations.locations)
    (hpickup : given dto.pickupLocationId = some entry.pickupLocationId)
    (hreturn : given dto.returnLocationId = some entry.returnLocationId)
    (hpriced : entry.pickupLocationId = entry.returnLocationId ∨
      Priced tables vendor.id locations.locations entry) :
    OneWayAgrees entry (quotedOneWay tables vendor dto) := by
  obtain ⟨pickup, hpickupMem, hmap⟩ := List.mem_flatMap.mp hentry
  obtain ⟨return', hreturnMem, rfl⟩ := List.mem_map.mp hmap
  have hpickup' : given dto.pickupLocationId = some pickup.id := hpickup
  have hreturn' : given dto.returnLocationId = some return'.id := hreturn
  unfold quotedOneWay oneWayLeg differentLocation
  rw [hpickup', hreturn']
  dsimp only
  by_cases hsame : pickup.id = return'.id
  · have hshown : (matrixEntry tables vendor.id pickup return').isSupported = true ∧
        (matrixEntry tables vendor.id pickup return').oneWaySurcharge = 0 := by
      simp [matrixEntry, hsame]
    rw [if_neg (not_not.mpr hsame)]
    exact ⟨by simp [hshown.1], by simp [hshown.1, hshown.2]⟩
  · rw [if_pos hsame]
    dsimp only
    cases hitem : matrixItem? tables vendor.id pickup.id return'.id with
    | some item =>
      have hshown : (matrixEntry tables vendor.id pickup return').isSupported = item.isSupported ∧
          (matrixEntry tables vendor.id pickup return').oneWaySurcharge =
            item.oneWaySurcharge.value := by
        simp [matrixEntry, hsame, hitem]
      cases hsupported : item.isSupported with
      | true => exact ⟨by simp [hshown.1, hsupported], by simp [hshown, hsupported]⟩
      | false => exact ⟨by simp [hshown.1, hsupported], by simp [hshown, hsupported]⟩
    | none =>
      obtain ⟨location, hlocation, hid, hactive, hfee⟩ :=
        (hpriced.resolve_left hsame).resolve_left (by simp [matrixEntry, hitem])
      have hlocationEq : location = return' := List.inj_on_of_nodup_map locations.nodup hlocation
        (List.mem_of_mem_filter hreturnMem) hid
      subst hlocationEq
      have hshown : (matrixEntry tables vendor.id pickup location).isSupported = true ∧
          (matrixEntry tables vendor.id pickup location).oneWaySurcharge =
            location.oneWayFee.value := by
        simp [matrixEntry, hsame, hitem, orDefault, hfee]
      have hhub : ∀ fallback, hubOr vendor.pickupHubs dto.returnLocationId fallback =
          some location.toPickupHub := by
        intro fallback
        rw [hubOr, hreturn]
        exact congrArg (· <|> fallback) (find_hub locations hlocation hactive)
      rw [hhub]
      exact ⟨by simp [hshown.1], by simp [hshown]⟩

/-! ## The fee of a distance -/

theorem policyFee_mono {policy : VendorDeliveryPolicy}
    (hbase : 0 ≤ policy.baseDeliveryFee.value) (hperKm : 0 ≤ policy.perKmDeliveryFee.value)
    {distanceKm distanceKm' : ℚ} (hle : distanceKm ≤ distanceKm') :
    policyFee policy distanceKm ≤ policyFee policy distanceKm' := by
  have hdefault : ∀ {value fallback : ℚ}, 0 ≤ value → 0 ≤ fallback →
      0 ≤ orDefault value fallback := by
    intro value fallback hvalue hfallback
    unfold orDefault
    split <;> assumption
  have hbase' := hdefault hbase (by norm_num : (0 : ℚ) ≤ 100)
  have hperKm' := hdefault hperKm (by norm_num : (0 : ℚ) ≤ 20)
  unfold policyFee
  cases policy.pricingModel with
  | free => exact le_refl _
  | fixed => exact le_refl _
  | distanceBased =>
    dsimp only
    split
    next hfree =>
      split
      · exact le_refl _
      next hcharged =>
        have hextra : 0 ≤ distanceKm' - policy.freeDeliveryWithinKm := by linarith
        exact add_nonneg hbase' (mul_nonneg hextra hperKm')
    next hcharged =>
      rw [if_neg (by linarith : ¬ distanceKm' ≤ policy.freeDeliveryWithinKm)]
      have hextra := mul_le_mul_of_nonneg_right
        (sub_le_sub_right hle policy.freeDeliveryWithinKm) hperKm'
      linarith

end

/-! ## The law -/

/-- The fee without the defaults for zero. -/
def configuredFee (policy : VendorDeliveryPolicy) (distanceKm : ℚ) : ℚ :=
  match policy.pricingModel with
  | .free => 0
  | .fixed => policy.baseDeliveryFee.value
  | .distanceBased =>
    if distanceKm ≤ policy.freeDeliveryWithinKm then 0
    else policy.baseDeliveryFee.value +
      (distanceKm - policy.freeDeliveryWithinKm) * policy.perKmDeliveryFee.value

variable {policy : VendorDeliveryPolicy}

theorem policyFee_eq_configuredFee (hbase : policy.baseDeliveryFee.value ≠ 0)
    (hperKm : policy.perKmDeliveryFee.value ≠ 0) : policyFee policy = configuredFee policy := by
  funext distanceKm
  unfold policyFee configuredFee orDefault
  cases policy.pricingModel with
  | free => rfl
  | fixed => exact if_neg hbase
  | distanceBased =>
    dsimp only
    rw [if_neg hbase, if_neg hperKm]

/-- The amounts of a quote, where `fee` is that of the delivery before it is rounded. -/
structure QuoteAmounts (tables : LocationTables) (dto : CalculateDeliveryQuoteDto)
    (vendor : LocatedVendor) (policy : VendorDeliveryPolicy) (quote : LocationQuote) (fee : ℚ) :
    Prop where
  delivery : fee = 0 ∨
    fee = policyFee policy quote.distanceKm ∧ quote.distanceKm ≤ policy.maxDeliveryRadiusKm
  deliveryFee : quote.deliveryFee = (round fee : ℤ)
  surcharge : quote.oneWaySurcharge = (round (quotedOneWay tables vendor dto).1 : ℤ)
  refused : (quotedOneWay tables vendor dto).2.isSome → quote.isAvailable = false
  total : quote.totalFulfillmentFee = (round (fee + (quotedOneWay tables vendor dto).1 +
    quote.pickupFee + quote.returnFee) : ℤ)

variable {tables : LocationTables} {dto : CalculateDeliveryQuoteDto}

theorem QuoteAmounts.abs_total_sub_le {vendor : LocatedVendor} {quote : LocationQuote} {fee : ℚ}
    (h : QuoteAmounts tables dto vendor policy quote fee) :
    |quote.totalFulfillmentFee - (quote.deliveryFee + quote.oneWaySurcharge +
      quote.pickupFee + quote.returnFee)| ≤ 3 / 2 := by
  rw [h.total, h.deliveryFee, h.surcharge]
  have hsum := abs_le.mp (abs_sub_round (fee + (quotedOneWay tables vendor dto).1 +
    quote.pickupFee + quote.returnFee))
  have hfee := abs_le.mp (abs_sub_round fee)
  have hsurcharge := abs_le.mp (abs_sub_round (quotedOneWay tables vendor dto).1)
  exact abs_le.mpr ⟨by linarith [hsum.2, hfee.1, hsurcharge.1],
    by linarith [hsum.1, hfee.2, hsurcharge.2]⟩

theorem fulfillmentRefusal_isSome {pickupHub returnHub : Option PickupHub}
    (delivery : Option String) {oneWay : Option String} (h : oneWay.isSome) :
    (fulfillmentRefusal tables dto pickupHub returnHub delivery oneWay).isSome := by
  obtain ⟨refusal, rfl⟩ := Option.isSome_iff_exists.mp h
  unfold fulfillmentRefusal
  dsimp only
  split
  · rfl
  · split
    · rfl
    · rfl

theorem deliveryLeg_eq_ok {origin : GeoPoint} {point : Option GeoPoint} {leg : DeliveryLeg}
    (h : deliveryLeg tables policy origin point = .ok leg) :
    leg.deliveryFee = 0 ∨ leg.deliveryFee = policyFee policy leg.distanceKm ∧
      leg.distanceKm ≤ policy.maxDeliveryRadiusKm := by
  unfold deliveryLeg at h
  split at h
  · cases h
    exact .inl rfl
  · split at h
    · cases h
    · cases h
      dsimp only
      split
      next hoffered =>
        refine .inr ⟨rfl, ?_⟩
        unfold deliveryRefusal at hoffered
        by_contra hfar
        rw [if_pos (not_le.mp hfar)] at hoffered
        split at hoffered <;> cases hoffered
      · exact .inl rfl

theorem calculateDeliveryQuote_amounts {quote : LocationQuote}
    (h : calculateDeliveryQuote tables dto = .ok quote) :
    ∃ vendor policy fee,
      tables.vendors.find? (fun vendor => vendor.id = dto.vendorId) = some vendor ∧
      getVendorDeliveryPolicy tables ((given vendor.userId).getD vendor.id) = .ok policy ∧
      QuoteAmounts tables dto vendor policy quote fee := by
  unfold calculateDeliveryQuote at h
  split at h
  · cases h
  next vendor hvendor =>
    obtain ⟨policy, hpolicy, hrest⟩ := bind_eq_ok.mp h
    obtain ⟨leg, hleg, hquote⟩ := bind_eq_ok.mp hrest
    cases hquote
    refine ⟨vendor, policy, leg.deliveryFee, hvendor, hpolicy, deliveryLeg_eq_ok hleg, rfl, rfl,
      fun hrefused => ?_, rfl⟩
    exact Option.isNone_eq_false_iff.mpr (fulfillmentRefusal_isSome leg.refusal hrefused)

/-- A location with no fee of its own. -/
def freeLocation (id : Id) : VendorLocation where
  id
  point := ⟨17, 78⟩
  allowsPickup := true
  allowsReturn := true
  pickupFee := .zero
  returnFee := .zero
  oneWayFee := .zero
  name := id
  isActive := true
  status := .active

def unpricedPair : LocationTables where
  vendors := [{
    id := "vendor", userId := some "owner", latitude := none, longitude := none
    pickupHubs := [(freeLocation "airport").toPickupHub, (freeLocation "station").toPickupHub]
    deliveryPolicy := none }]
  matrix := []
  exceptions := []
  calculateDistanceKm _ _ := 0
  forwardGeocode _ := none
  calendar := ⟨id, id⟩
  numberText _ := ""

def returnElsewhere : CalculateDeliveryQuoteDto :=
  ⟨"vendor", none, none, none, some "airport", some "station", 0, 1⟩

def returnElsewhereQuote : LocationQuote where
  isAvailable := true
  distanceKm := 0
  deliveryFee := 0
  pickupFee := 0
  returnFee := 0
  oneWaySurcharge := 0
  totalFulfillmentFee := 0
  pricingModel := .distanceBased
  maxDeliveryRadiusKm := 25
  estimatedMinutes := 0
  reason := none

theorem calculateDeliveryQuote_returnElsewhere :
    calculateDeliveryQuote unpricedPair returnElsewhere = .ok returnElsewhereQuote := by
  decide +kernel

end CarRental
