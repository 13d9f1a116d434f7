import Mathlib.Algebra.Order.Round
import Mathlib.Data.Rat.Floor
import Mathlib.Data.List.Find
import CarRental.Lib.Totals
import CarRental.Fleet.VehicleSubstitution
import CarRental.Text

/-!
# The supply of a branch

`MarketplaceSupplyService.getBranchSupplyMetrics`: the cars of a pickup hub and the bookings of its
next day, counted by class.  A class is in deficit when more bookings ask for it than cars of it are
free, and in surplus when more than three cars are left over.
-/

namespace CarRental

open Totals (total)

/-- `Object.values(CarCategory)` -/
def CarCategory.values : List CarCategory :=
  [.hatchback, .sedan, .suv, .luxury, .tempoTraveller, .miniBus]

theorem CarCategory.mem_values (category : CarCategory) : category ∈ CarCategory.values := by
  cases category <;> decide

theorem CarCategory.nodup_values : CarCategory.values.Nodup := by decide

inductive SupplyStatus where
  | deficit
  | balanced
  | surplus
deriving DecidableEq, Repr

/-- The entry of a class in a branch's breakdown. -/
structure ClassSupply where
  total : ℕ
  available : ℕ
  onRent : ℕ
  demandScore : ℕ
deriving DecidableEq

namespace ClassSupply

/-- The entry's `status`, which is set from the two counts. -/
def status (stats : ClassSupply) : SupplyStatus :=
  if stats.demandScore > stats.available then .deficit
  else if stats.available > stats.demandScore + 3 then .surplus
  else .balanced

/-- `demandScore - available` -/
def shortfall (stats : ClassSupply) : ℤ := stats.demandScore - stats.available

/-- `available - demandScore` -/
def excess (stats : ClassSupply) : ℤ := stats.available - stats.demandScore

theorem shortfall_pos {stats : ClassSupply} (h : stats.status = .deficit) :
    0 < stats.shortfall := by
  unfold status at h
  unfold shortfall
  split at h
  · omega
  · split at h <;> cases h

theorem excess_pos {stats : ClassSupply} (h : stats.status = .surplus) : 0 < stats.excess := by
  unfold status at h
  unfold excess
  split at h
  · cases h
  · split at h
    · omega
    · cases h

end ClassSupply

structure BranchSupplyMetrics where
  branchId : Id
  branchName : String
  city : String
  totalFleet : ℕ
  availableFleet : ℕ
  onRentFleet : ℕ
  maintenanceFleet : ℕ
  cleaningFleet : ℕ
  utilizationRate : ℚ
  classBreakdown : CarCategory → ClassSupply

/-- The row of a pickup hub. -/
structure BranchHub where
  id : Id
  name : String
  city : String
  isActive : Bool
deriving DecidableEq

/-- What of a booking the demand is counted by. -/
structure UpcomingBooking where
  pickupHubId : Option Id
  status : BookingStatus
  startDate : ℤ
  vehicleClass : Option CarCategory
deriving DecidableEq

/-- What one computation of a branch's supply reads, and when. -/
structure SupplyRead where
  hubs : List BranchHub
  cars : List FleetCar
  bookings : List UpcomingBooking
  now : ℤ

namespace SupplyRead

def branchCars (read : SupplyRead) (branchId : Id) : List FleetCar :=
  read.cars.filter fun car => car.pickupHubId = some branchId

/-- The car is counted as available. -/
def isFree (car : FleetCar) : Bool :=
  car.operationalStatus = .active ∧ car.isAvailable

/-- The car is neither available nor in maintenance, and counts as rented out. -/
def isOut (car : FleetCar) : Bool :=
  !isFree car && decide (car.operationalStatus ≠ .maintenance)

/-- `upcomingBookings`: those that are to start within a day, or should have started. -/
def upcomingBookings (read : SupplyRead) (branchId : Id) : List UpcomingBooking :=
  read.bookings.filter fun booking =>
    booking.pickupHubId = some branchId ∧
      (booking.status = .confirmed ∨ booking.status = .handoverReady ∨
        booking.status = .pending) ∧
      booking.startDate ≤ read.now + 24 * 60 * 60 * 1000

def classSupply (read : SupplyRead) (branchId : Id) (category : CarCategory) : ClassSupply where
  total := (read.branchCars branchId).countP fun car => car.type = category
  available := (read.branchCars branchId).countP fun car => car.type = category ∧ isFree car
  onRent := (read.branchCars branchId).countP fun car => car.type = category ∧ isOut car
  demandScore := (read.upcomingBookings branchId).countP fun booking =>
    booking.vehicleClass.getD .sedan = category

/-- `utilizationRate`, to two places. -/
def utilizationRate (totalFleet availableFleet : ℕ) : ℚ :=
  if 0 < totalFleet then
    round (((totalFleet : ℚ) - availableFleet) / totalFleet * 100) / 100
  else 0

end SupplyRead

open SupplyRead

def getBranchSupplyMetrics (read : SupplyRead) (branchId : Id) :
    Except String BranchSupplyMetrics :=
  match read.hubs.find? fun hub => hub.id = branchId with
  | none => .error s!"PickupHub #{branchId} not found."
  | some branch =>
    let cars := read.branchCars branchId
    let availableFleet := cars.countP isFree
    .ok
      { branchId := branch.id
        branchName := branch.name
        city := branch.city
        totalFleet := cars.length
        availableFleet
        onRentFleet := cars.countP isOut
        maintenanceFleet := cars.countP fun car =>
          !isFree car && decide (car.operationalStatus = .maintenance)
        cleaningFleet := 0
        utilizationRate := utilizationRate cars.length availableFleet
        classBreakdown := read.classSupply branchId }

/-!
## Rebalancing the inventory

`InventoryRebalancingService.generateRebalancingRecommendations`.  A branch in deficit is sent cars
from the first branch of its city that is in surplus for the same class.  The metrics are not updated
as recommendations are made, so that each is cut to the whole surplus of its source.

* `surplusBranch_eq`: all deficits of a city and class have one source.
* `total_from_source`: what a source is to give, in the metrics alone.
* `recommendations_within_iff`: when that is no more than it has.
-/

inductive InventoryTransferStatus where
  | proposed
  | approved
  | inTransit
  | received
  | cancelled
deriving DecidableEq, Repr

def CarCategory.text : CarCategory → String
  | .hatchback => "HATCHBACK"
  | .sedan => "SEDAN"
  | .suv => "SUV"
  | .luxury => "LUXURY"
  | .tempoTraveller => "TEMPO_TRAVELLER"
  | .miniBus => "MINI_BUS"

structure TransferRecommendation where
  sourceBranchId : Id
  destinationBranchId : Id
  vehicleClass : CarCategory
  recommendedUnits : ℤ
  reason : String
  sourceUtilization : ℚ
  destinationDemandScore : ℕ
  projectedRevenueGain : ℤ
  estimatedTransferCost : ℤ
  confidence : ℚ
  status : InventoryTransferStatus

section Recommendations

variable (mapping : CaseMapping)

def sameCity (a b : BranchSupplyMetrics) : Bool :=
  mapping.toUpperCase a.city = mapping.toUpperCase b.city

def hasSurplus (category : CarCategory) (branch : BranchSupplyMetrics) : Bool :=
  (branch.classBreakdown category).status = .surplus

def hasDeficit (category : CarCategory) (branch : BranchSupplyMetrics) : Bool :=
  (branch.classBreakdown category).status = .deficit

def surplusBranch (branchMetrics : List BranchSupplyMetrics) (deficitBranch : BranchSupplyMetrics)
    (category : CarCategory) : Option BranchSupplyMetrics :=
  branchMetrics.find? fun b =>
    decide (b.branchId ≠ deficitBranch.branchId) && sameCity mapping b deficitBranch &&
      hasSurplus category b

def transferUnits (source destination : BranchSupplyMetrics) (category : CarCategory) : ℤ :=
  min (destination.classBreakdown category).shortfall (source.classBreakdown category).excess

def transferRecommendation (source destination : BranchSupplyMetrics) (category : CarCategory) :
    TransferRecommendation where
  sourceBranchId := source.branchId
  destinationBranchId := destination.branchId
  vehicleClass := category
  recommendedUnits := transferUnits source destination category
  reason :=
    let dStats := destination.classBreakdown category
    s!"{destination.branchName} has {category.text} deficit ({dStats.demandScore} demand vs " ++
      s!"{dStats.available} available); {source.branchName} has surplus."
  sourceUtilization := source.utilizationRate
  destinationDemandScore := (destination.classBreakdown category).demandScore
  projectedRevenueGain := transferUnits source destination category * 2500
  estimatedTransferCost := transferUnits source destination category * 500
  confidence := 88 / 100
  status := .proposed

/-- What is recommended for a branch and a class, if anything is. -/
def recommendFor (branchMetrics : List BranchSupplyMetrics) (deficitBranch : BranchSupplyMetrics)
    (category : CarCategory) : Option TransferRecommendation :=
  if hasDeficit category deficitBranch then
    match surplusBranch mapping branchMetrics deficitBranch category with
    | none => none
    | some source =>
      if transferUnits source deficitBranch category ≤ 0 then none
      else some (transferRecommendation source deficitBranch category)
  else none

/-- `createdRecommendations` -/
def recommendations (branchMetrics : List BranchSupplyMetrics) : List TransferRecommendation :=
  branchMetrics.flatMap fun deficitBranch =>
    CarCategory.values.filterMap (recommendFor mapping branchMetrics deficitBranch)

/-- `branches`: the active hubs, those of the city where one is given. -/
def rebalancedHubs (hubs : List BranchHub) (city : Option String) : List BranchHub :=
  hubs.filter fun hub =>
    hub.isActive && (given city).all fun city => hub.city = mapping.toUpperCase city

/-- `supply` is what `getBranchSupplyMetrics` returns for a branch when it is read. -/
def generateRebalancingRecommendations (hubs : List BranchHub)
    (supply : Id → Except String BranchSupplyMetrics) (city : Option String) :
    Except String (List TransferRecommendation) := do
  let branches := rebalancedHubs mapping hubs city
  if branches.length < 2 then return []
  else
    let branchMetrics ← branches.mapM fun branch => supply branch.id
    return recommendations mapping branchMetrics

/-! ## One source for a city and a class -/

def firstSurplus (branchMetrics : List BranchSupplyMetrics) (branch : BranchSupplyMetrics)
    (category : CarCategory) : Option BranchSupplyMetrics :=
  branchMetrics.find? fun b => sameCity mapping b branch && hasSurplus category b

/-- The branches of the same city that are in deficit. -/
def shortBranches (branchMetrics : List BranchSupplyMetrics) (branch : BranchSupplyMetrics)
    (category : CarCategory) : List BranchSupplyMetrics :=
  branchMetrics.filter fun b => sameCity mapping b branch && hasDeficit category b

end Recommendations

section Laws

variable {mapping : CaseMapping} {branchMetrics : List BranchSupplyMetrics}
  {source destination branch : BranchSupplyMetrics} {category : CarCategory}

theorem sameCity_iff {a b : BranchSupplyMetrics} :
    sameCity mapping a b = true ↔ mapping.toUpperCase a.city = mapping.toUpperCase b.city :=
  decide_eq_true_iff

theorem not_hasSurplus_of_hasDeficit (h : hasDeficit category branch = true) :
    hasSurplus category branch = false := by
  simp only [hasDeficit, hasSurplus, decide_eq_true_eq, decide_eq_false_iff_not] at h ⊢
  rw [h]
  nofun

theorem firstSurplus_congr (h : sameCity mapping branch destination = true) :
    firstSurplus mapping branchMetrics branch category =
      firstSurplus mapping branchMetrics destination category := by
  unfold firstSurplus sameCity
  rw [sameCity_iff.mp h]

theorem firstSurplus_spec (h : firstSurplus mapping branchMetrics branch category = some source) :
    source ∈ branchMetrics ∧ sameCity mapping source branch = true ∧
      hasSurplus category source = true := by
  have hfound : (sameCity mapping source branch && hasSurplus category source) = true := by
    simpa using List.find?_some h
  exact ⟨List.mem_of_find?_eq_some h, Bool.and_eq_true_iff.mp hfound⟩

theorem surplusBranch_eq (hkeys : (branchMetrics.map (·.branchId)).Nodup)
    (hmem : destination ∈ branchMetrics) (hdeficit : hasDeficit category destination = true) :
    surplusBranch mapping branchMetrics destination category =
      firstSurplus mapping branchMetrics destination category := by
  apply List.find?_congr
  intro b hb
  by_cases hid : b.branchId = destination.branchId
  · obtain rfl := List.inj_on_of_nodup_map hkeys hb hmem hid
    rw [not_hasSurplus_of_hasDeficit hdeficit, Bool.and_false, Bool.and_false]
  · rw [decide_eq_true hid, Bool.true_and]

theorem recommendFor_eq_some_iff (hkeys : (branchMetrics.map (·.branchId)).Nodup)
    (hmem : destination ∈ branchMetrics) {rec : TransferRecommendation} :
    recommendFor mapping branchMetrics destination category = some rec ↔
      hasDeficit category destination = true ∧ ∃ source,
        firstSurplus mapping branchMetrics destination category = some source ∧
          rec = transferRecommendation source destination category := by
  unfold recommendFor
  by_cases hdeficit : hasDeficit category destination = true
  · rw [if_pos hdeficit, surplusBranch_eq hkeys hmem hdeficit]
    cases hsource : firstSurplus mapping branchMetrics destination category with
    | none => simp
    | some source =>
      obtain ⟨-, -, hsurplus⟩ := firstSurplus_spec hsource
      have hpos : 0 < transferUnits source destination category :=
        lt_min (ClassSupply.shortfall_pos (of_decide_eq_true hdeficit))
          (ClassSupply.excess_pos (of_decide_eq_true hsurplus))
      simp [hdeficit, hpos.not_ge, eq_comm]
  · simp [hdeficit]

theorem vehicleClass_of_recommendFor {rec : TransferRecommendation}
    (h : recommendFor mapping branchMetrics destination category = some rec) :
    rec.vehicleClass = category ∧ rec.destinationBranchId = destination.branchId := by
  unfold recommendFor at h
  split at h
  · split at h
    · cases h
    · split at h
      · cases h
      · cases h
        exact ⟨rfl, rfl⟩
  · cases h

theorem mem_recommendations_iff {rec : TransferRecommendation} :
    rec ∈ recommendations mapping branchMetrics ↔ ∃ destination ∈ branchMetrics,
      recommendFor mapping branchMetrics destination rec.vehicleClass = some rec := by
  simp only [recommendations, List.mem_flatMap, List.mem_filterMap]
  constructor
  · rintro ⟨destination, hmem, category, -, hrec⟩
    obtain ⟨rfl, -⟩ := vehicleClass_of_recommendFor hrec
    exact ⟨destination, hmem, hrec⟩
  · rintro ⟨destination, hmem, hrec⟩
    exact ⟨destination, hmem, rec.vehicleClass, CarCategory.mem_values _, hrec⟩

/-! ## What the recommendations move -/

def unitsOut (recs : List TransferRecommendation) (branchId : Id) (category : CarCategory) : ℤ :=
  total (fun rec => decide (rec.sourceBranchId = branchId ∧ rec.vehicleClass = category))
    (·.recommendedUnits) recs

def unitsIn (recs : List TransferRecommendation) (branchId : Id) (category : CarCategory) : ℤ :=
  total (fun rec => decide (rec.destinationBranchId = branchId ∧ rec.vehicleClass = category))
    (·.recommendedUnits) recs

theorem total_recommendations (category : CarCategory) {p : TransferRecommendation → Bool}
    (hp : ∀ rec, p rec = true → rec.vehicleClass = category) :
    total p (·.recommendedUnits) (recommendations mapping branchMetrics) =
      (branchMetrics.map fun destination => total p (·.recommendedUnits)
        (recommendFor mapping branchMetrics destination category).toList).sum := by
  rw [recommendations, Totals.total_flatMap]
  congr 1
  apply List.map_congr_left
  intro destination _
  exact Totals.total_filterMap_of_key
    (fun other rec hrec => (vehicleClass_of_recommendFor hrec).1) hp CarCategory.nodup_values
    (CarCategory.mem_values category)

theorem unitsOut_recommendations (hkeys : (branchMetrics.map (·.branchId)).Nodup)
    (hfirst : firstSurplus mapping branchMetrics source category = some source) :
    unitsOut (recommendations mapping branchMetrics) source.branchId category =
      (((shortBranches mapping branchMetrics source category).map fun branch =>
        (branch.classBreakdown category).shortfall).map
          (min · (source.classBreakdown category).excess)).sum := by
  obtain ⟨hsource, -, -⟩ := firstSurplus_spec hfirst
  rw [unitsOut, total_recommendations category fun rec hrec =>
    (of_decide_eq_true hrec).2, List.map_map]
  apply Totals.sum_map_eq_total
  intro destination hmem
  cases hrec : recommendFor mapping branchMetrics destination category with
  | none =>
    by_cases hshort : (sameCity mapping destination source && hasDeficit category destination) = true
    · obtain ⟨hcity, hdeficit⟩ := Bool.and_eq_true_iff.mp hshort
      have hsome := (recommendFor_eq_some_iff hkeys hmem).mpr
        ⟨hdeficit, source, (firstSurplus_congr hcity).trans hfirst, rfl⟩
      rw [hrec] at hsome
      cases hsome
    · rw [if_neg hshort]
      rfl
  | some rec =>
    obtain ⟨hdeficit, other, hother, rfl⟩ := (recommendFor_eq_some_iff hkeys hmem).mp hrec
    obtain ⟨hotherMem, hotherCity, -⟩ := firstSurplus_spec hother
    rw [Option.toList_some, Totals.total_cons, Totals.total_nil, add_zero]
    by_cases hcity : sameCity mapping destination source = true
    · obtain rfl : other = source :=
        Option.some_inj.mp (hother.symm.trans ((firstSurplus_congr hcity).trans hfirst))
      rw [if_pos (decide_eq_true ⟨rfl, rfl⟩), if_pos (Bool.and_eq_true_iff.mpr ⟨hcity, hdeficit⟩)]
      rfl
    · have hne : other.branchId ≠ source.branchId := by
        intro hid
        obtain rfl := List.inj_on_of_nodup_map hkeys hotherMem hsource hid
        exact hcity (sameCity_iff.mpr (sameCity_iff.mp hotherCity).symm)
      rw [if_neg fun h => hne (of_decide_eq_true h).1,
        if_neg fun h => hcity (Bool.and_eq_true_iff.mp h).1]

theorem unitsIn_recommendations (hkeys : (branchMetrics.map (·.branchId)).Nodup)
    (hmem : destination ∈ branchMetrics) {rec : TransferRecommendation}
    (hrec : recommendFor mapping branchMetrics destination category = some rec) :
    unitsIn (recommendations mapping branchMetrics) destination.branchId category =
      rec.recommendedUnits := by
  have hunits : ∀ other ∈ branchMetrics, total
      (fun rec => decide
        (rec.destinationBranchId = destination.branchId ∧ rec.vehicleClass = category))
      (·.recommendedUnits) (recommendFor mapping branchMetrics other category).toList =
        if decide (other.branchId = destination.branchId) then rec.recommendedUnits else 0 := by
    intro other hother
    by_cases hid : other.branchId = destination.branchId
    · obtain rfl := List.inj_on_of_nodup_map hkeys hother hmem hid
      obtain ⟨hclass, hdestination⟩ := vehicleClass_of_recommendFor hrec
      rw [hrec, Option.toList_some, Totals.total_cons, Totals.total_nil, add_zero,
        if_pos (decide_eq_true ⟨hdestination, hclass⟩), if_pos (decide_eq_true rfl)]
    · rw [if_neg (fun h => hid (of_decide_eq_true h))]
      cases hsome : recommendFor mapping branchMetrics other category with
      | none => rfl
      | some rec' =>
        have hne : rec'.destinationBranchId ≠ destination.branchId := fun h =>
          hid ((vehicleClass_of_recommendFor hsome).2.symm.trans h)
        rw [Option.toList_some, Totals.total_cons, Totals.total_nil,
          if_neg fun h => hne (of_decide_eq_true h).1, add_zero]
  rw [unitsIn, total_recommendations category fun rec hrec => (of_decide_eq_true hrec).2,
    Totals.sum_map_eq_total hunits]
  exact Totals.total_of_key hkeys hmem fun other _ => decide_eq_true_iff

end Laws

/-! ## The law -/

/-- No branch is to give more than its surplus or to get more than its deficit, and none is to do
both. -/
structure WithinSupply (branchMetrics : List BranchSupplyMetrics)
    (recs : List TransferRecommendation) : Prop where
  outOfSource : ∀ rec ∈ recs, ∃ source ∈ branchMetrics,
    source.branchId = rec.sourceBranchId ∧
      unitsOut recs source.branchId rec.vehicleClass ≤
        (source.classBreakdown rec.vehicleClass).excess
  intoDestination : ∀ rec ∈ recs, ∃ destination ∈ branchMetrics,
    destination.branchId = rec.destinationBranchId ∧
      unitsIn recs destination.branchId rec.vehicleClass ≤
        (destination.classBreakdown rec.vehicleClass).shortfall
  apart : ∀ rec ∈ recs, ∀ rec' ∈ recs, rec.vehicleClass = rec'.vehicleClass →
    rec.sourceBranchId ≠ rec'.destinationBranchId

/-- In every city and class the first branch in surplus, where there is one, has at most one branch
in deficit to supply, or enough for all of them together. -/
def DeficitsCovered (mapping : CaseMapping) (branchMetrics : List BranchSupplyMetrics) : Prop :=
  ∀ category, ∀ branch ∈ branchMetrics, ∀ source,
    firstSurplus mapping branchMetrics branch category = some source →
      (shortBranches mapping branchMetrics branch category).length ≤ 1 ∨
        ((shortBranches mapping branchMetrics branch category).map fun short =>
          (short.classBreakdown category).shortfall).sum ≤
            (source.classBreakdown category).excess

section Law

variable {mapping : CaseMapping} {branchMetrics : List BranchSupplyMetrics}
  {source destination branch : BranchSupplyMetrics} {category : CarCategory}

theorem shortBranches_congr (h : sameCity mapping branch destination = true) :
    shortBranches mapping branchMetrics branch category =
      shortBranches mapping branchMetrics destination category := by
  unfold shortBranches sameCity
  rw [sameCity_iff.mp h]

theorem unitsOut_le_iff (hkeys : (branchMetrics.map (·.branchId)).Nodup)
    (hfirst : firstSurplus mapping branchMetrics branch category = some source) :
    unitsOut (recommendations mapping branchMetrics) source.branchId category ≤
        (source.classBreakdown category).excess ↔
      (shortBranches mapping branchMetrics branch category).length ≤ 1 ∨
        ((shortBranches mapping branchMetrics branch category).map fun short =>
          (short.classBreakdown category).shortfall).sum ≤
            (source.classBreakdown category).excess := by
  obtain ⟨-, hcity, hsurplus⟩ := firstSurplus_spec hfirst
  rw [unitsOut_recommendations hkeys ((firstSurplus_congr hcity).trans hfirst),
    shortBranches_congr hcity, Totals.sum_min_le_iff _
      (ClassSupply.excess_pos (of_decide_eq_true hsurplus)), List.length_map]
  intro amount hamount
  obtain ⟨short, hshort, rfl⟩ := List.mem_map.mp hamount
  have hboth := Bool.and_eq_true_iff.mp (List.mem_filter.mp hshort).2
  exact ClassSupply.shortfall_pos (of_decide_eq_true hboth.2)

theorem exists_of_mem_recommendations (hkeys : (branchMetrics.map (·.branchId)).Nodup)
    {rec : TransferRecommendation} (hrec : rec ∈ recommendations mapping branchMetrics) :
    ∃ destination ∈ branchMetrics, ∃ source,
      hasDeficit rec.vehicleClass destination = true ∧
        firstSurplus mapping branchMetrics destination rec.vehicleClass = some source ∧
        rec = transferRecommendation source destination rec.vehicleClass := by
  obtain ⟨destination, hmem, hsome⟩ := mem_recommendations_iff.mp hrec
  obtain ⟨hdeficit, source, hsource, heq⟩ := (recommendFor_eq_some_iff hkeys hmem).mp hsome
  exact ⟨destination, hmem, source, hdeficit, hsource, heq⟩

theorem recommendations_into (hkeys : (branchMetrics.map (·.branchId)).Nodup)
    {rec : TransferRecommendation} (hrec : rec ∈ recommendations mapping branchMetrics) :
    ∃ destination ∈ branchMetrics, destination.branchId = rec.destinationBranchId ∧
      unitsIn (recommendations mapping branchMetrics) destination.branchId rec.vehicleClass ≤
        (destination.classBreakdown rec.vehicleClass).shortfall := by
  obtain ⟨destination, hmem, hsome⟩ := mem_recommendations_iff.mp hrec
  refine ⟨destination, hmem, (vehicleClass_of_recommendFor hsome).2.symm, ?_⟩
  obtain ⟨-, source, -, heq⟩ := (recommendFor_eq_some_iff hkeys hmem).mp hsome
  rw [unitsIn_recommendations hkeys hmem hsome]
  have hunits : rec.recommendedUnits = transferUnits source destination rec.vehicleClass :=
    congrArg TransferRecommendation.recommendedUnits heq
  rw [hunits]
  exact min_le_left _ _

theorem recommendations_apart (hkeys : (branchMetrics.map (·.branchId)).Nodup)
    {rec rec' : TransferRecommendation} (hrec : rec ∈ recommendations mapping branchMetrics)
    (hrec' : rec' ∈ recommendations mapping branchMetrics)
    (hclass : rec.vehicleClass = rec'.vehicleClass) :
    rec.sourceBranchId ≠ rec'.destinationBranchId := by
  intro hsame
  obtain ⟨_, -, source, -, hsource, heq⟩ := exists_of_mem_recommendations hkeys hrec
  obtain ⟨destination, hmem, _, hdeficit, -, heq'⟩ := exists_of_mem_recommendations hkeys hrec'
  obtain ⟨hsourceMem, -, hsurplus⟩ := firstSurplus_spec hsource
  have hid : source.branchId = destination.branchId :=
    (congrArg TransferRecommendation.sourceBranchId heq).symm.trans
      (hsame.trans (congrArg TransferRecommendation.destinationBranchId heq'))
  obtain rfl := List.inj_on_of_nodup_map hkeys hsourceMem hmem hid
  rw [hclass, not_hasSurplus_of_hasDeficit hdeficit] at hsurplus
  exact Bool.false_ne_true hsurplus

theorem recommendations_within_iff (hkeys : (branchMetrics.map (·.branchId)).Nodup) :
    WithinSupply branchMetrics (recommendations mapping branchMetrics) ↔
      DeficitsCovered mapping branchMetrics := by
  constructor
  · intro hwithin category branch hbranch source hsource
    by_cases hnone : (shortBranches mapping branchMetrics branch category) = []
    · exact .inl (by simp [hnone])
    obtain ⟨short, hshort⟩ := List.exists_mem_of_ne_nil _ hnone
    obtain ⟨hmem, hboth⟩ := List.mem_filter.mp hshort
    obtain ⟨hcity, hdeficit⟩ := Bool.and_eq_true_iff.mp hboth
    have hrec : transferRecommendation source short category ∈
        recommendations mapping branchMetrics :=
      mem_recommendations_iff.mpr ⟨short, hmem, (recommendFor_eq_some_iff hkeys hmem).mpr
        ⟨hdeficit, source, (firstSurplus_congr hcity).trans hsource, rfl⟩⟩
    obtain ⟨other, hother, hid, hunits⟩ := hwithin.outOfSource _ hrec
    obtain rfl : other = source :=
      List.inj_on_of_nodup_map hkeys hother (firstSurplus_spec hsource).1 hid
    exact (unitsOut_le_iff hkeys hsource).mp hunits
  · intro hcovered
    refine ⟨fun rec hrec => ?_, fun rec hrec => recommendations_into hkeys hrec,
      fun rec hrec rec' hrec' => recommendations_apart hkeys hrec hrec'⟩
    obtain ⟨destination, hmem, source, -, hsource, heq⟩ := exists_of_mem_recommendations hkeys hrec
    refine ⟨source, (firstSurplus_spec hsource).1,
      (congrArg TransferRecommendation.sourceBranchId heq).symm, ?_⟩
    exact (unitsOut_le_iff hkeys hsource).mpr (hcovered _ destination hmem source hsource)

theorem branchIds_of_mapM {branches : List BranchHub}
    {supply : Id → Except String BranchSupplyMetrics}
    (hsupply : ∀ id metrics, supply id = .ok metrics → metrics.branchId = id)
    (hread : branches.mapM (fun hub => supply hub.id) = .ok branchMetrics) :
    branchMetrics.map (·.branchId) = branches.map (·.id) := by
  induction branches generalizing branchMetrics with
  | nil =>
    cases hread
    rfl
  | cons hub rest ih =>
    rw [List.mapM_cons] at hread
    obtain ⟨metrics, hmetrics, hrest⟩ := bind_eq_ok.mp hread
    obtain ⟨others, hothers, heq⟩ := bind_eq_ok.mp hrest
    cases heq
    rw [List.map_cons, List.map_cons, ih hothers, hsupply _ _ hmetrics]

end Law

/-- **Rebalancing.**  For every table of hubs and whatever metrics are read for them, the
recommendations of one run take no more from a branch than its surplus and send no more to one than
its deficit, with no branch on both sides of a class, exactly when the deficits are covered. -/
theorem generateRebalancingRecommendations_within_iff (mapping : CaseMapping)
    {hubs : List BranchHub} (hkeys : (hubs.map (·.id)).Nodup)
    {supply : Id → Except String BranchSupplyMetrics}
    (hsupply : ∀ id metrics, supply id = .ok metrics → metrics.branchId = id)
    (city : Option String) {branchMetrics : List BranchSupplyMetrics}
    (hread : (rebalancedHubs mapping hubs city).mapM (fun hub => supply hub.id) =
      .ok branchMetrics) :
    ∃ recs, generateRebalancingRecommendations mapping hubs supply city = .ok recs ∧
      (WithinSupply branchMetrics recs ↔ DeficitsCovered mapping branchMetrics) := by
  have hids := branchIds_of_mapM hsupply hread
  have hnodup : (branchMetrics.map (·.branchId)).Nodup :=
    hids ▸ hkeys.sublist (List.filter_sublist.map _)
  by_cases hfew : (rebalancedHubs mapping hubs city).length < 2
  · refine ⟨[], by simp [generateRebalancingRecommendations, hfew, pure, Except.pure], ?_⟩
    refine iff_of_true ⟨by simp, by simp, by simp⟩ fun category branch _ source _ =>
      .inl ?_
    have hlength : branchMetrics.length = (rebalancedHubs mapping hubs city).length := by
      simpa using congrArg List.length hids
    have hfilter := List.length_filter_le
      (fun b => sameCity mapping b branch && hasDeficit category b) branchMetrics
    rw [shortBranches]
    omega
  · refine ⟨recommendations mapping branchMetrics, ?_, recommendations_within_iff hnodup⟩
    simp only [generateRebalancingRecommendations, hfew, if_false, hread]
    rfl

/-- A branch of Bangalore with so many SUVs and so many bookings for them, and nothing else. -/
def suvBranch (branchId branchName : String) (available demandScore : ℕ) :
    BranchSupplyMetrics where
  branchId
  branchName
  city := "BANGALORE"
  totalFleet := available
  availableFleet := available
  onRentFleet := 0
  maintenanceFleet := 0
  cleaningFleet := 0
  utilizationRate := 0
  classBreakdown
    | .suv => ⟨available, available, 0, demandScore⟩
    | _ => ⟨0, 0, 0, 0⟩

def airportBranch : BranchSupplyMetrics := suvBranch "branch_airport" "Airport Hub" 0 3

def stationBranch : BranchSupplyMetrics := suvBranch "branch_station" "Station Hub" 1 4

def downtownBranch : BranchSupplyMetrics := suvBranch "branch_downtown" "Downtown Hub" 5 1

def BranchSupplyMetrics.hub (metrics : BranchSupplyMetrics) : BranchHub :=
  ⟨metrics.branchId, metrics.branchName, metrics.city, true⟩

/-- The supply of some branches, each under its identifier. -/
def supplyOf (branchMetrics : List BranchSupplyMetrics) (id : Id) :
    Except String BranchSupplyMetrics :=
  match branchMetrics.find? fun b => b.branchId = id with
  | some metrics => .ok metrics
  | none => .error "PickupHub not found."

theorem branchId_of_supplyOf {branchMetrics : List BranchSupplyMetrics} (id : Id)
    (metrics : BranchSupplyMetrics) (h : supplyOf branchMetrics id = .ok metrics) :
    metrics.branchId = id := by
  unfold supplyOf at h
  split at h
  · rename_i hfound
    cases h
    exact of_decide_eq_true (List.find?_some hfound :)
  · cases h

theorem rebalancing_of_two_branches :
    ∃ recs, generateRebalancingRecommendations .ascii [airportBranch.hub, downtownBranch.hub]
        (supplyOf [airportBranch, downtownBranch]) (some "Bangalore") = .ok recs ∧
      (WithinSupply [airportBranch, downtownBranch] recs ↔
        DeficitsCovered .ascii [airportBranch, downtownBranch]) :=
  generateRebalancingRecommendations_within_iff .ascii (by decide) branchId_of_supplyOf
    (some "Bangalore") rfl

/-- Two branches, three SUVs short each, are both sent three by one that has four over. -/
theorem surplus_given_twice :
    generateRebalancingRecommendations .ascii
        [airportBranch.hub, stationBranch.hub, downtownBranch.hub]
        (supplyOf [airportBranch, stationBranch, downtownBranch]) (some "Bangalore") =
      .ok (recommendations .ascii [airportBranch, stationBranch, downtownBranch]) ∧
    ¬ WithinSupply [airportBranch, stationBranch, downtownBranch]
      (recommendations .ascii [airportBranch, stationBranch, downtownBranch]) := by
  refine ⟨rfl, fun hwithin => ?_⟩
  have hrec : transferRecommendation downtownBranch airportBranch .suv ∈
      recommendations .ascii [airportBranch, stationBranch, downtownBranch] :=
    mem_recommendations_iff.mpr ⟨airportBranch, by simp, rfl⟩
  obtain ⟨source, hmem, hid, hunits⟩ := hwithin.outOfSource _ hrec
  obtain rfl : source = downtownBranch :=
    List.inj_on_of_nodup_map (f := fun b : BranchSupplyMetrics => b.branchId) (by decide) hmem
      (by simp) hid
  exact absurd hunits (by decide +kernel)

end CarRental
