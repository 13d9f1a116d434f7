import CarRental.Payouts.Earnings
import Mathlib.Tactic.Linarith

/-!
# The available balance

The payouts of a vendor that are waiting or paid should never exceed what is his: his
settled and undisputed earnings with his adjustments.  And the balance that the summary
calls available should be the largest amount that a request is granted.

A request overlooks claims that were submitted and not yet reviewed, and counts
adjustments of other kinds that name the vendor's id; without a hold window the summary
holds back every booking since the epoch; and it knows none of the limits of a request.
`requestAvailable_eq` and `availableBalance_eq` measure both.

## Strategy

A step can take a payout up, start a request or let time pass (`requestStep_cases`),
and only a payout whose amount lies between what is left and what the request sees
breaks the bound.  For the balance, the amounts a request is granted form an interval
from the minimum up to the first limit (`Payable.of_le`, `exists_payable_gt`).
-/

namespace CarRental

open Runs Totals Rounding

variable (s : VendorBooks) (vendorId : Id)

/-! ## What is the vendor's -/

/-- His settled and undisputed earnings, with his adjustments. -/
def entitlement : ℤ :=
  (s.bookingTotal fun b => b.earns vendorId && !b.isDisputed && isSettled s b) +
    s.adjustmentTotal fun a => a.targetType = .vendor && a.targetId = vendorId

/-- His payouts that are pending, approved, in processing or paid. -/
def committed : ℤ :=
  s.payoutTotal vendorId fun row => row.status = .paid || row.status.isReserved

def left : ℤ := entitlement s vendorId - committed s vendorId

def Covered : Prop := committed s vendorId ≤ entitlement s vendorId

/-- Settled earnings whose only dispute is a submitted claim. -/
def unseenClaims : ℤ :=
  s.bookingTotal fun b =>
    b.earns vendorId && !b.isLocked && b.hasClaim .submitted && isSettled s b

/-- Adjustments of another kind that name the vendor's id. -/
def misfiledAdjustments : ℤ :=
  s.adjustmentTotal fun a => a.targetType ≠ .vendor && a.targetId = vendorId

/-- Without a hold window, the undisputed earnings since the epoch. -/
def heldSinceEpoch : ℤ :=
  if 0 < s.config.settlementHoldDays then 0
  else s.bookingTotal fun b => b.earns vendorId && !b.isDisputed && 0 < b.updatedAt

instance : Decidable (Covered s vendorId) := inferInstanceAs (Decidable (_ ≤ _))

section Measure

variable {s} {vendorId}

theorem adjustmentTotal_split {p q r : FinancialAdjustment → Bool}
    (h : ∀ a, p a = (q a || r a)) (hdisjoint : ∀ a, (q a && r a) = false) :
    s.adjustmentTotal p = s.adjustmentTotal q + s.adjustmentTotal r := by
  have hside : ∀ side : LedgerDirection,
      total (fun a : FinancialAdjustment => p a && a.direction = side) (fun a => a.amount.paise)
          s.adjustments =
        total (fun a => q a && a.direction = side) (fun a => a.amount.paise) s.adjustments +
          total (fun a => r a && a.direction = side) (fun a => a.amount.paise) s.adjustments := by
    intro side
    refine total_split (fun a => ?_) (fun a => ?_)
    · rw [h a, Bool.and_or_distrib_right]
    · have := hdisjoint a
      cases hq : q a <;> cases hr : r a <;> simp_all
  unfold VendorBooks.adjustmentTotal
  rw [hside, hside]
  omega

theorem committed_eq (s : VendorBooks) (vendorId : Id) : committed s vendorId =
    (s.payoutTotal vendorId fun row => row.status = .paid) +
      s.payoutTotal vendorId fun row => row.status.isReserved := by
  have hdisjoint : ∀ status : PayoutStatus,
      (decide (status = .paid) && status.isReserved) = false := by
    intro status
    cases status <;> rfl
  refine total_split (fun row => ?_) (fun row => ?_)
  · rw [Bool.and_or_distrib_left]
  · have hrow := hdisjoint row.status
    cases hpaid : decide (row.status = .paid) <;> cases hreserved : row.status.isReserved <;>
      simp_all

theorem requestAvailable_eq : requestAvailable s vendorId =
    left s vendorId + unseenClaims s vendorId + misfiledAdjustments s vendorId := by
  have hbookings : (s.bookingTotal fun b => b.earns vendorId && !b.isLocked && isSettled s b) =
      (s.bookingTotal fun b => b.earns vendorId && !b.isDisputed && isSettled s b) +
        unseenClaims s vendorId := by
    refine total_split (fun b => ?_) (fun b => ?_)
    · simp only [VendorBooking.isDisputed, VendorBooking.isLocked]
      cases b.earns vendorId <;> cases b.disputeFlag <;> cases b.hasClaim .submitted <;>
        cases b.hasClaim .underReview <;> simp
    · simp only [VendorBooking.isDisputed, VendorBooking.isLocked]
      cases b.earns vendorId <;> cases b.disputeFlag <;> cases b.hasClaim .submitted <;>
        cases b.hasClaim .underReview <;> simp
  have hadjustments : (s.adjustmentTotal fun a => a.targetId = vendorId) =
      (s.adjustmentTotal fun a => a.targetType = .vendor && a.targetId = vendorId) +
        misfiledAdjustments s vendorId := by
    refine adjustmentTotal_split (fun a => ?_) (fun a => ?_)
    · cases a.targetType <;> simp
    · cases a.targetType <;> simp
  simp only [requestAvailable, left, entitlement]
  rw [hbookings, hadjustments, committed_eq]
  omega

theorem earned_split (s : VendorBooks) (vendorId : Id) (cutoff : ℤ) :
    (s.bookingTotal fun b => b.earns vendorId && !b.isDisputed) =
      (s.bookingTotal fun b => b.earns vendorId && !b.isDisputed && b.updatedAt ≤ cutoff) +
        s.bookingTotal fun b => b.earns vendorId && !b.isDisputed && cutoff < b.updatedAt := by
  refine total_split (fun b => ?_) (fun b => ?_)
  · rcases le_or_gt b.updatedAt cutoff with hle | hlt
    · simp [hle, not_lt.mpr hle]
    · simp [hlt, not_le.mpr hlt]
  · rcases le_or_gt b.updatedAt cutoff with hle | hlt
    · simp [not_lt.mpr hle]
    · simp [not_le.mpr hlt]

theorem settled_eq_of_hold (s : VendorBooks) (vendorId : Id)
    (hhold : 0 < s.config.settlementHoldDays) :
    (s.bookingTotal fun b => b.earns vendorId && !b.isDisputed && isSettled s b) =
      s.bookingTotal fun b => b.earns vendorId && !b.isDisputed && b.updatedAt ≤ holdCutoff s := by
  have hcutoff : holdCutoff s = s.clock.now - s.config.settlementHoldDays * dayMillis :=
    if_pos hhold
  refine total_congr fun b _ => ?_
  simp [isSettled, hcutoff, not_le.mpr hhold]

theorem settled_eq_of_no_hold (s : VendorBooks) (vendorId : Id)
    (hhold : ¬ 0 < s.config.settlementHoldDays) :
    (s.bookingTotal fun b => b.earns vendorId && !b.isDisputed && isSettled s b) =
      s.bookingTotal fun b => b.earns vendorId && !b.isDisputed := by
  refine total_congr fun b _ => ?_
  simp [isSettled, not_lt.mp hhold]

theorem availableBalance_eq {summary : EarningsSummary}
    (h : getVendorEarningsSummary s vendorId = .ok summary) :
    summary.availableBalance = max 0 (left s vendorId - heldSinceEpoch s vendorId) := by
  unfold getVendorEarningsSummary at h
  split at h
  · cases h
  · cases h
    have hcommitted := committed_eq s vendorId
    have hearned := earned_split s vendorId (holdCutoff s)
    simp only [left, entitlement, heldSinceEpoch]
    by_cases hhold : 0 < s.config.settlementHoldDays
    · have hsettled := settled_eq_of_hold s vendorId hhold
      rw [if_pos hhold]
      congr 1
      omega
    · -- the cutoff is then the epoch, and what came after it is withheld
      have hcutoff : holdCutoff s = 0 := if_neg hhold
      have hsettled := settled_eq_of_no_hold s vendorId hhold
      have hepoch : (s.bookingTotal fun b =>
            b.earns vendorId && !b.isDisputed && holdCutoff s < b.updatedAt) =
          s.bookingTotal fun b => b.earns vendorId && !b.isDisputed && 0 < b.updatedAt := by
        refine total_congr fun b _ => ?_
        rw [hcutoff]
      rw [if_neg hhold]
      congr 1
      omega

end Measure

/-! ## The bound on the payouts -/

def storedPaise (amount : Decimal) : ℤ := roundAway (amount * 100)

structure TransactionPasses (dto : RequestPayoutDto) : Prop where
  vendor : dto.vendorId ∈ s.vendors
  cap : s.config.dailyVendorPayoutCap ≠ 0 →
    todaySum s dto.vendorId / 100 + dto.amount ≤ s.config.dailyVendorPayoutCap
  available : dto.amount ≤ (requestAvailable s dto.vendorId : Decimal) / 100
  fits : |storedPaise dto.amount| < 10 ^ 10
  unique : dto.idempotencyKey.bind (findPayout s) = none

instance (dto : RequestPayoutDto) : Decidable (TransactionPasses s dto) :=
  decidable_of_iff (dto.vendorId ∈ s.vendors ∧
      (s.config.dailyVendorPayoutCap ≠ 0 →
        todaySum s dto.vendorId / 100 + dto.amount ≤ s.config.dailyVendorPayoutCap) ∧
      dto.amount ≤ (requestAvailable s dto.vendorId : Decimal) / 100 ∧
      |storedPaise dto.amount| < 10 ^ 10 ∧ dto.idempotencyKey.bind (findPayout s) = none)
    ⟨fun h => ⟨h.1, h.2.1, h.2.2.1, h.2.2.2.1, h.2.2.2.2⟩, fun h =>
      ⟨h.vendor, h.cap, h.available, h.fits, h.unique⟩⟩

/-- The steps that break the bound: the transaction of a request that passes its checks
although its amount exceeds what is left, or a wait in which losses settle. -/
def Overdraws : RequestAction → Prop
  | .receive _ => False
  | .transact index =>
    ∃ dto ∈ s.inFlight[index]?, dto.vendorId = vendorId ∧ TransactionPasses s dto ∧
      left s vendorId < storedPaise dto.amount
  | .wait clock => s.clock.now ≤ clock.now ∧ left { s with clock } vendorId < 0

instance (action : RequestAction) : Decidable (Overdraws s vendorId action) := by
  unfold Overdraws
  cases action <;> infer_instance

section Bound

variable {s} {s' : VendorBooks} {vendorId} {dto : RequestPayoutDto} {payout : PayoutRow}

theorem payoutTransaction_eq_ok (h : payoutTransaction s dto = .ok (s', payout)) :
    TransactionPasses s dto ∧ s' = { s with payouts := s.payouts ++ [payout] } ∧
      payout.vendorId = dto.vendorId ∧ payout.amount.paise = storedPaise dto.amount ∧
      payout.status = .pending := by
  unfold payoutTransaction at h
  split at h
  · cases h
  next hvendor =>
    split at h
    · cases h
    next hcap =>
      split at h
      · cases h
      next havailable =>
        split at h
        · cases h
        next amount hamount =>
          have hpaise : amount.paise = storedPaise dto.amount := Column.ofPaise?_eq_some.mp hamount
          split at h
          · cases h
          next hunique =>
            cases h
            refine ⟨⟨not_not.mp hvendor, fun hne => ?_, not_lt.mp havailable, ?_, ?_⟩, rfl, rfl,
              hpaise, rfl⟩
            · exact not_lt.mp fun hlt => hcap ⟨hne, hlt⟩
            · rw [← hpaise]
              exact amount.inRange
            · simpa using hunique

theorem payoutTransaction_of_passes (h : TransactionPasses s dto) :
    ∃ payout, payoutTransaction s dto = .ok ({ s with payouts := s.payouts ++ [payout] }, payout) := by
  have hstored : (Column.ofDecimal? dto.amount : Option Money) =
      some ⟨storedPaise dto.amount, h.fits⟩ := Column.ofPaise?_eq_some.mpr rfl
  have hcap : ¬ (s.config.dailyVendorPayoutCap ≠ 0 ∧
      s.config.dailyVendorPayoutCap < todaySum s dto.vendorId / 100 + dto.amount) :=
    fun hand => absurd (h.cap hand.1) (not_le.mpr hand.2)
  unfold payoutTransaction
  rw [if_neg (not_not.mpr h.vendor), if_neg hcap, if_neg (not_lt.mpr h.available), hstored, h.unique]
  exact ⟨_, rfl⟩

theorem passes_inFlight_iff (inFlight : List RequestPayoutDto) :
    TransactionPasses { s with inFlight } dto ↔ TransactionPasses s dto :=
  ⟨fun h => ⟨h.vendor, h.cap, h.available, h.fits, h.unique⟩,
    fun h => ⟨h.vendor, h.cap, h.available, h.fits, h.unique⟩⟩

theorem requestStep_cases (s : VendorBooks) (vendorId : Id) (action : RequestAction) :
    (∃ inFlight, requestStep s action = { s with inFlight } ∧ ¬ Overdraws s vendorId action) ∨
      (∃ index dto inFlight payout, action = .transact index ∧ dto ∈ s.inFlight[index]? ∧
        TransactionPasses s dto ∧
        requestStep s action = { s with inFlight, payouts := s.payouts ++ [payout] } ∧
        payout.vendorId = dto.vendorId ∧ payout.amount.paise = storedPaise dto.amount ∧
        payout.status = .pending) ∨
      ∃ clock, action = .wait clock ∧ s.clock.now ≤ clock.now ∧
        requestStep s action = { s with clock } := by
  cases action with
  | receive dto =>
    left
    simp only [requestStep]
    split
    · exact ⟨_, rfl, id⟩
    · exact ⟨s.inFlight, rfl, id⟩
  | transact index =>
    simp only [requestStep]
    cases hdto : s.inFlight[index]? with
    | none =>
      left
      refine ⟨s.inFlight, rfl, ?_⟩
      rintro ⟨dto, hmem, -⟩
      rw [hdto] at hmem
      cases hmem
    | some dto =>
      simp only
      cases htransaction :
          payoutTransaction { s with inFlight := s.inFlight.eraseIdx index } dto with
      -- a transaction that is refused does not pass, so that it does not overdraw
      | error e =>
        left
        refine ⟨_, rfl, ?_⟩
        rintro ⟨dto', hmem, -, hpasses, -⟩
        rw [hdto] at hmem
        cases hmem
        obtain ⟨payout, hok⟩ := payoutTransaction_of_passes
          ((passes_inFlight_iff (s.inFlight.eraseIdx index)).mpr hpasses)
        rw [htransaction] at hok
        cases hok
      | ok result =>
        obtain ⟨s', payout⟩ := result
        obtain ⟨hpasses, rfl, hrow⟩ := payoutTransaction_eq_ok htransaction
        exact .inr (.inl ⟨index, dto, _, payout, rfl, hdto,
          (passes_inFlight_iff _).mp hpasses, rfl, hrow⟩)
  | wait clock =>
    simp only [requestStep]
    split
    next hle => exact .inr (.inr ⟨clock, rfl, hle, rfl⟩)
    next hlt => exact .inl ⟨s.inFlight, rfl, fun h => hlt h.1⟩

theorem left_concat (inFlight : List RequestPayoutDto) (hstatus : payout.status = .pending) :
    left { s with inFlight, payouts := s.payouts ++ [payout] } vendorId =
      left s vendorId - if payout.vendorId = vendorId then payout.amount.paise else 0 := by
  have hcommitted : committed { s with inFlight, payouts := s.payouts ++ [payout] } vendorId =
      committed s vendorId + if payout.vendorId = vendorId then payout.amount.paise else 0 := by
    unfold committed VendorBooks.payoutTotal
    rw [total_concat]
    simp [hstatus, PayoutStatus.isReserved]
  have hentitlement : entitlement { s with inFlight, payouts := s.payouts ++ [payout] } vendorId =
      entitlement s vendorId := rfl
  rw [left, hcommitted, hentitlement, left]
  omega

theorem covered_iff : Covered s vendorId ↔ 0 ≤ left s vendorId := by
  unfold Covered left
  omega

theorem covered_requestStep_iff (h : Covered s vendorId) (action : RequestAction) :
    Covered (requestStep s action) vendorId ↔ ¬ Overdraws s vendorId action := by
  rw [covered_iff] at h
  rcases requestStep_cases s vendorId action with
    ⟨inFlight, hstep, hkeeps⟩ |
      ⟨index, dto, inFlight, payout, rfl, hdto, hpasses, hstep, hvendor, hamount, hstatus⟩ |
      ⟨clock, rfl, hle, hstep⟩
  · rw [hstep]
    exact iff_of_true (covered_iff.mpr h) hkeeps
  · rw [hstep, covered_iff, left_concat inFlight hstatus, hvendor, hamount]
    by_cases hown : dto.vendorId = vendorId
    · rw [if_pos hown]
      constructor
      · rintro hcovered ⟨dto', hdto', -, -, hexceeds⟩
        rw [Option.mem_unique hdto' hdto] at hexceeds
        omega
      · intro hnot
        by_contra hexceeds
        exact hnot ⟨dto, hdto, hown, hpasses, by omega⟩
    · rw [if_neg hown]
      refine iff_of_true (by omega) ?_
      rintro ⟨dto', hdto', hown', -⟩
      rw [Option.mem_unique hdto' hdto] at hown'
      exact hown hown'
  · rw [hstep, covered_iff]
    constructor
    · rintro hcovered ⟨-, hloss⟩
      omega
    · intro hnot
      by_contra hloss
      exact hnot ⟨hle, by omega⟩

theorem covered_everywhere_iff (actions : List RequestAction) :
    Everywhere requestStep (Covered · vendorId) s actions ↔
      Covered s vendorId ∧ Along requestStep (fun s a => ¬ Overdraws s vendorId a) s actions := by
  by_cases hstart : Covered s vendorId
  · rw [and_iff_right hstart]
    exact everywhere_iff_along (fun s action _ hs => covered_requestStep_iff hs action) hstart
  · exact iff_of_false (fun h => hstart h.first) fun h => hstart h.1

end Bound

/-! ## The largest amount that is granted -/

/-- A new request for the amount, with no key, is granted. -/
def Accepts (amount : Decimal) : Prop :=
  (requestPayout s ⟨vendorId, amount, none, none⟩).2.isOk = true

/-- `b` is the largest value of which `P` holds, or zero where there is none. -/
def LargestOrZero (P : Decimal → Prop) (b : Decimal) : Prop :=
  (P b ∧ ∀ a, P a → a ≤ b) ∨ (b = 0 ∧ ∀ a, ¬ P a)

/-- The summary shows the largest amount that a request is granted. -/
def SummaryExact : Prop :=
  ∀ summary, getVendorEarningsSummary s vendorId = .ok summary →
    LargestOrZero (Accepts s vendorId) ((summary.availableBalance : Decimal) / 100)

/-- The limits on an amount, apart from what the vendor has. -/
structure WithinLimits (amount : Decimal) : Prop where
  minimum : s.config.minPayoutAmount ≠ 0 → s.config.minPayoutAmount ≤ amount
  maximum : s.config.maxSinglePayoutAmount ≠ 0 → amount ≤ s.config.maxSinglePayoutAmount
  cap : s.config.dailyVendorPayoutCap ≠ 0 →
    todaySum s vendorId / 100 + amount ≤ s.config.dailyVendorPayoutCap
  fits : storedPaise amount < 10 ^ 10

def AtLimit (amount : Decimal) : Prop :=
  s.config.maxSinglePayoutAmount ≠ 0 ∧ amount = s.config.maxSinglePayoutAmount ∨
    s.config.dailyVendorPayoutCap ≠ 0 ∧
      todaySum s vendorId / 100 + amount = s.config.dailyVendorPayoutCap

/-- The limits leave no positive amount up to `available` to request. -/
def NothingPayable (available : ℤ) : Prop :=
  if 0 < s.config.minPayoutAmount then
    ¬ (WithinLimits s vendorId s.config.minPayoutAmount ∧
      s.config.minPayoutAmount ≤ (available : Decimal) / 100)
  else available ≤ 0 ∨
    s.config.maxSinglePayoutAmount ≠ 0 ∧ s.config.maxSinglePayoutAmount ≤ 0 ∨
    s.config.dailyVendorPayoutCap ≠ 0 ∧
      s.config.dailyVendorPayoutCap ≤ (todaySum s vendorId : Decimal) / 100

/-- What the request sees beyond what the summary shows. -/
def summaryGap : ℤ :=
  heldSinceEpoch s vendorId + unseenClaims s vendorId + misfiledAdjustments s vendorId

def summaryAvailable : ℤ := left s vendorId - heldSinceEpoch s vendorId

/-- Where the summary shows a balance, it is within the limits, and the request sees no
more unless a limit is reached; where it shows none, nothing can be requested. -/
structure SummaryHolds : Prop where
  shown : vendorId ∈ s.vendors → 0 < summaryAvailable s vendorId →
    WithinLimits s vendorId ((summaryAvailable s vendorId : Decimal) / 100) ∧
      (summaryGap s vendorId = 0 ∨
        0 < summaryGap s vendorId ∧
          AtLimit s vendorId ((summaryAvailable s vendorId : Decimal) / 100))
  empty : vendorId ∈ s.vendors → summaryAvailable s vendorId ≤ 0 →
    NothingPayable s vendorId (summaryAvailable s vendorId + summaryGap s vendorId)

instance (amount : Decimal) : Decidable (WithinLimits s vendorId amount) :=
  decidable_of_iff ((s.config.minPayoutAmount ≠ 0 → s.config.minPayoutAmount ≤ amount) ∧
      (s.config.maxSinglePayoutAmount ≠ 0 → amount ≤ s.config.maxSinglePayoutAmount) ∧
      (s.config.dailyVendorPayoutCap ≠ 0 →
        todaySum s vendorId / 100 + amount ≤ s.config.dailyVendorPayoutCap) ∧
      storedPaise amount < 10 ^ 10)
    ⟨fun h => ⟨h.1, h.2.1, h.2.2.1, h.2.2.2⟩, fun h => ⟨h.minimum, h.maximum, h.cap, h.fits⟩⟩

instance (amount : Decimal) : Decidable (AtLimit s vendorId amount) :=
  inferInstanceAs (Decidable (_ ∨ _))

instance (available : ℤ) : Decidable (NothingPayable s vendorId available) := by
  unfold NothingPayable
  infer_instance

instance : Decidable (SummaryHolds s vendorId) :=
  decidable_of_iff ((vendorId ∈ s.vendors → 0 < summaryAvailable s vendorId →
      WithinLimits s vendorId ((summaryAvailable s vendorId : Decimal) / 100) ∧
        (summaryGap s vendorId = 0 ∨
          0 < summaryGap s vendorId ∧
            AtLimit s vendorId ((summaryAvailable s vendorId : Decimal) / 100))) ∧
      (vendorId ∈ s.vendors → summaryAvailable s vendorId ≤ 0 →
        NothingPayable s vendorId (summaryAvailable s vendorId + summaryGap s vendorId)))
    ⟨fun h => ⟨h.1, h.2⟩, fun h => ⟨h.shown, h.empty⟩⟩

section Largest

variable {s} {vendorId} {a b : Decimal}

/-- What is granted: a positive amount within the limits that the request sees. -/
structure Payable (s : VendorBooks) (vendorId : Id) (a : Decimal) : Prop where
  positive : 0 < a
  limits : WithinLimits s vendorId a
  available : a ≤ (requestAvailable s vendorId : Decimal) / 100

theorem storedPaise_nonneg (h : 0 < a) : 0 ≤ storedPaise a :=
  roundAway_nonneg (by linarith)

theorem checkPayoutRequest_eq_ok_none (h : 0 < a) :
    checkPayoutRequest s ⟨vendorId, a, none, none⟩ = .ok none ↔
      (s.config.minPayoutAmount ≠ 0 → s.config.minPayoutAmount ≤ a) ∧
        (s.config.maxSinglePayoutAmount ≠ 0 → a ≤ s.config.maxSinglePayoutAmount) := by
  unfold checkPayoutRequest
  rw [if_neg (not_le.mpr h)]
  simp only [Option.filter_none, Option.bind_none]
  by_cases hmin : s.config.minPayoutAmount ≠ 0 ∧ a < s.config.minPayoutAmount
  · rw [if_pos hmin]
    refine iff_of_false (fun h => nomatch h) fun h => ?_
    exact not_le.mpr hmin.2 (h.1 hmin.1)
  · rw [if_neg hmin]
    have hminimum : s.config.minPayoutAmount ≠ 0 → s.config.minPayoutAmount ≤ a :=
      fun hne => not_lt.mp fun hlt => hmin ⟨hne, hlt⟩
    by_cases hmax : s.config.maxSinglePayoutAmount ≠ 0 ∧ s.config.maxSinglePayoutAmount < a
    · rw [if_pos hmax]
      refine iff_of_false (fun h => nomatch h) fun h => ?_
      exact not_le.mpr hmax.2 (h.2 hmax.1)
    · rw [if_neg hmax]
      exact iff_of_true rfl ⟨hminimum, fun hne => not_lt.mp fun hlt => hmax ⟨hne, hlt⟩⟩

theorem checkPayoutRequest_unkeyed (s : VendorBooks) (vendorId : Id) (a : Decimal) :
    checkPayoutRequest s ⟨vendorId, a, none, none⟩ = .ok none ∨
      ∃ e, checkPayoutRequest s ⟨vendorId, a, none, none⟩ = .error e := by
  unfold checkPayoutRequest
  simp only [Option.filter_none, Option.bind_none]
  split
  · exact .inr ⟨_, rfl⟩
  split
  · exact .inr ⟨_, rfl⟩
  split
  · exact .inr ⟨_, rfl⟩
  · exact .inl rfl

theorem accepts_iff (hvendor : vendorId ∈ s.vendors) :
    Accepts s vendorId a ↔ Payable s vendorId a := by
  unfold Accepts requestPayout
  constructor
  · intro h
    -- a request without a key meets no earlier payout
    have hcheck : checkPayoutRequest s ⟨vendorId, a, none, none⟩ = .ok none := by
      refine (checkPayoutRequest_unkeyed s vendorId a).resolve_right ?_
      rintro ⟨e, herror⟩
      rw [herror] at h
      cases h
    have hpositive : 0 < a := by
      by_contra hle
      rw [checkPayoutRequest, if_pos (not_lt.mp hle)] at hcheck
      cases hcheck
    obtain ⟨hminimum, hmaximum⟩ := (checkPayoutRequest_eq_ok_none hpositive).mp hcheck
    simp only [hcheck] at h
    cases htransaction : payoutTransaction s ⟨vendorId, a, none, none⟩ with
    | error e =>
      rw [htransaction] at h
      cases h
    | ok result =>
      obtain ⟨hpasses, -⟩ := payoutTransaction_eq_ok htransaction
      exact ⟨hpositive, ⟨hminimum, hmaximum, hpasses.cap, (abs_lt.mp hpasses.fits).2⟩,
        hpasses.available⟩
  · rintro ⟨hpositive, hlimits, havailable⟩
    have hfits : |storedPaise a| < 10 ^ 10 := by
      rw [abs_of_nonneg (storedPaise_nonneg hpositive)]
      exact hlimits.fits
    have hpasses : TransactionPasses s ⟨vendorId, a, none, none⟩ :=
      ⟨hvendor, hlimits.cap, havailable, hfits, rfl⟩
    obtain ⟨payout, hok⟩ := payoutTransaction_of_passes hpasses
    rw [(checkPayoutRequest_eq_ok_none hpositive).mpr ⟨hlimits.minimum, hlimits.maximum⟩]
    simp only [hok]
    rfl

theorem Payable.of_le (h : Payable s vendorId a) (hpositive : 0 < b) (hle : b ≤ a)
    (hminimum : s.config.minPayoutAmount ≠ 0 → s.config.minPayoutAmount ≤ b) :
    Payable s vendorId b where
  positive := hpositive
  limits :=
    { minimum := hminimum
      maximum := fun hne => hle.trans (h.limits.maximum hne)
      cap := fun hne => by linarith [h.limits.cap hne]
      fits := by
        have hmono : storedPaise b ≤ storedPaise a := roundAway_mono (by linarith)
        exact hmono.trans_lt h.limits.fits }
  available := hle.trans h.available

theorem storedPaise_add {n : ℤ} (hn : 0 ≤ n) {ε : Decimal} (hε : 0 ≤ ε) (hsmall : ε < 1 / 200) :
    storedPaise ((n : Decimal) / 100 + ε) = n := by
  have hcast : (0 : Decimal) ≤ n := by exact_mod_cast hn
  have hzero : roundAway (ε * 100) = 0 := by
    have hupper : |(roundAway (ε * 100) : Decimal) - ε * 100| ≤ 1 / 2 := abs_roundAway_sub_le _
    have hnonneg : 0 ≤ roundAway (ε * 100) := roundAway_nonneg (by linarith)
    have hlt : (roundAway (ε * 100) : Decimal) < 1 := by
      rw [abs_le] at hupper
      linarith
    have : roundAway (ε * 100) < 1 := by exact_mod_cast hlt
    omega
  have hsum : ((n : Decimal) / 100 + ε) * 100 = ε * 100 + n := by ring
  rw [storedPaise, hsum, roundAway_add_intCast (by linarith) (by linarith), hzero, zero_add]

theorem exists_payable_gt (s : VendorBooks) (vendorId : Id) {n : ℤ} (hn : 0 ≤ n) (hfits : n < 10 ^ 10)
    (hminimum : s.config.minPayoutAmount ≠ 0 → s.config.minPayoutAmount ≤ (n : Decimal) / 100)
    (hmaximum : s.config.maxSinglePayoutAmount ≠ 0 →
      (n : Decimal) / 100 < s.config.maxSinglePayoutAmount)
    (hcap : s.config.dailyVendorPayoutCap ≠ 0 →
      todaySum s vendorId / 100 + (n : Decimal) / 100 < s.config.dailyVendorPayoutCap)
    (havailable : n < requestAvailable s vendorId) :
    ∃ a, (n : Decimal) / 100 < a ∧ Payable s vendorId a := by
  -- a limit of zero is no limit
  have hroom : ∀ (limit base : Decimal), (limit ≠ 0 → base < limit) →
      ∃ room : Decimal, 0 < room ∧ (limit ≠ 0 → base + room ≤ limit) := by
    intro limit base hlt
    by_cases hlimit : limit = 0
    · exact ⟨1, one_pos, fun hne => absurd hlimit hne⟩
    · exact ⟨limit - base, sub_pos.mpr (hlt hlimit), fun _ => by linarith⟩
  obtain ⟨below, hbelow, hmax⟩ := hroom _ _ hmaximum
  obtain ⟨today, htoday, hday⟩ := hroom _ _ hcap
  have hseen : (n : Decimal) + 1 ≤ requestAvailable s vendorId := by exact_mod_cast havailable
  have hcast : (0 : Decimal) ≤ n := by exact_mod_cast hn
  -- the step up: less than half a paisa, and within both rooms
  set ε : Decimal := min (1 / 400) (min below today) with hdef
  have hε : 0 < ε := lt_min (by norm_num) (lt_min hbelow htoday)
  have hsmall : ε ≤ 1 / 400 := min_le_left _ _
  have hεbelow : ε ≤ below := (min_le_right _ _).trans (min_le_left _ _)
  have hεtoday : ε ≤ today := (min_le_right _ _).trans (min_le_right _ _)
  refine ⟨(n : Decimal) / 100 + ε, by linarith, by positivity, ⟨?_, ?_, ?_, ?_⟩, ?_⟩
  · intro hne
    linarith [hminimum hne]
  · intro hne
    linarith [hmax hne]
  · intro hne
    linarith [hday hne]
  · rw [storedPaise_add hn hε.le (by linarith)]
    exact hfits
  · linarith

theorem nothingPayable_iff :
    NothingPayable s vendorId (requestAvailable s vendorId) ↔ ∀ a, ¬ Payable s vendorId a := by
  unfold NothingPayable
  split
  next hmin =>
    constructor
    · intro hnot a ha
      have hpayable := ha.of_le hmin (ha.limits.minimum hmin.ne') fun _ => le_rfl
      exact hnot ⟨hpayable.limits, hpayable.available⟩
    · rintro hnone ⟨hlimits, havailable⟩
      exact hnone _ ⟨hmin, hlimits, havailable⟩
  next hmin =>
    constructor
    · rintro hblocked a ⟨hpositive, hlimits, havailable⟩
      rcases hblocked with hempty | ⟨hne, hmax⟩ | ⟨hne, hcap⟩
      · have : (requestAvailable s vendorId : Decimal) ≤ 0 := by exact_mod_cast hempty
        linarith
      · linarith [hlimits.maximum hne]
      · linarith [hlimits.cap hne]
    · intro hnone
      by_contra hblocked
      rw [not_or, not_or, not_and, not_and] at hblocked
      obtain ⟨hseen, hmax, hcap⟩ := hblocked
      obtain ⟨a, -, ha⟩ := exists_payable_gt s vendorId le_rfl (by norm_num)
        (fun _ => by linarith [not_lt.mp hmin]) (fun hne => by linarith [not_le.mp (hmax hne)])
        (fun hne => by linarith [not_le.mp (hcap hne)]) (by omega)
      exact hnone a ha

theorem requestAvailable_eq_summary :
    requestAvailable s vendorId = summaryAvailable s vendorId + summaryGap s vendorId := by
  rw [requestAvailable_eq, summaryAvailable, summaryGap]
  omega

theorem Payable.le_of_atLimit (ha : Payable s vendorId a) (hlimit : AtLimit s vendorId b) :
    a ≤ b := by
  rcases hlimit with ⟨hne, hmax⟩ | ⟨hne, hcap⟩
  · rw [hmax]
    exact ha.limits.maximum hne
  · linarith [ha.limits.cap hne]

theorem atLimit_of_largest {n : ℤ} (hn : 0 < n) (hmore : n < requestAvailable s vendorId)
    (hpayable : Payable s vendorId ((n : Decimal) / 100))
    (hlargest : ∀ a, Payable s vendorId a → a ≤ (n : Decimal) / 100) :
    AtLimit s vendorId ((n : Decimal) / 100) := by
  by_contra hlimit
  rw [AtLimit, not_or, not_and, not_and] at hlimit
  have hfits : n < 10 ^ 10 := by
    have hstored := hpayable.limits.fits
    rw [← add_zero ((n : Decimal) / 100), storedPaise_add hn.le le_rfl (by norm_num)] at hstored
    exact hstored
  have hmaximum : s.config.maxSinglePayoutAmount ≠ 0 →
      (n : Decimal) / 100 < s.config.maxSinglePayoutAmount :=
    fun hne => lt_of_le_of_ne (hpayable.limits.maximum hne) (hlimit.1 hne)
  have hcap : s.config.dailyVendorPayoutCap ≠ 0 →
      todaySum s vendorId / 100 + (n : Decimal) / 100 < s.config.dailyVendorPayoutCap :=
    fun hne => lt_of_le_of_ne (hpayable.limits.cap hne) (hlimit.2 hne)
  obtain ⟨a, hgt, ha⟩ := exists_payable_gt s vendorId hn.le hfits hpayable.limits.minimum hmaximum
    hcap hmore
  exact not_lt.mpr (hlargest a ha) hgt

theorem largest_shown_iff (hshown : 0 < summaryAvailable s vendorId) :
    LargestOrZero (Payable s vendorId) ((summaryAvailable s vendorId : Decimal) / 100) ↔
      WithinLimits s vendorId ((summaryAvailable s vendorId : Decimal) / 100) ∧
        (summaryGap s vendorId = 0 ∨ 0 < summaryGap s vendorId ∧
          AtLimit s vendorId ((summaryAvailable s vendorId : Decimal) / 100)) := by
  set n := summaryAvailable s vendorId with hn
  have hsum : requestAvailable s vendorId = n + summaryGap s vendorId := requestAvailable_eq_summary
  have hseen : (requestAvailable s vendorId : Decimal) = n + summaryGap s vendorId := by
    exact_mod_cast hsum
  have hcast : (0 : Decimal) < n := by exact_mod_cast hshown
  have hpositive : (0 : Decimal) < n / 100 := by linarith
  constructor
  · rintro (⟨hpayable, hlargest⟩ | ⟨hzero, -⟩)
    · refine ⟨hpayable.limits, ?_⟩
      have hgap : 0 ≤ summaryGap s vendorId := by
        have : (0 : Decimal) ≤ summaryGap s vendorId := by linarith [hpayable.available]
        exact_mod_cast this
      rcases hgap.eq_or_lt with hnone | hsome
      · exact .inl hnone.symm
      · exact .inr ⟨hsome, atLimit_of_largest hshown (by omega) hpayable hlargest⟩
    · exact absurd hzero hpositive.ne'
  · rintro ⟨hlimits, hgap⟩
    left
    rcases hgap with hnone | ⟨hsome, hlimit⟩
    · have hexact : (requestAvailable s vendorId : Decimal) = n := by rw [hseen, hnone]; simp
      refine ⟨⟨hpositive, hlimits, by rw [hexact]⟩, fun a ha => ?_⟩
      rw [← hexact]
      exact ha.available
    · have hgap : (0 : Decimal) < summaryGap s vendorId := by exact_mod_cast hsome
      exact ⟨⟨hpositive, hlimits, by linarith⟩, fun a ha => ha.le_of_atLimit hlimit⟩

theorem largest_zero_iff :
    LargestOrZero (Payable s vendorId) 0 ↔
      NothingPayable s vendorId (summaryAvailable s vendorId + summaryGap s vendorId) := by
  rw [← requestAvailable_eq_summary, nothingPayable_iff]
  constructor
  · rintro (⟨hpayable, -⟩ | ⟨-, hnone⟩)
    · exact absurd hpayable.positive (lt_irrefl 0)
    · exact hnone
  · exact fun hnone => .inr ⟨rfl, hnone⟩

theorem summaryExact_iff_largest (hvendor : vendorId ∈ s.vendors) :
    SummaryExact s vendorId ↔
      LargestOrZero (Payable s vendorId)
        (((max 0 (summaryAvailable s vendorId) : ℤ) : Decimal) / 100) := by
  obtain ⟨summary, hsummary⟩ : ∃ summary, getVendorEarningsSummary s vendorId = .ok summary := by
    unfold getVendorEarningsSummary
    rw [if_neg (not_not.mpr hvendor)]
    exact ⟨_, rfl⟩
  have haccepts : Accepts s vendorId = Payable s vendorId :=
    funext fun a => propext (accepts_iff hvendor)
  rw [SummaryExact, haccepts, summaryAvailable, ← availableBalance_eq hsummary]
  constructor
  · exact fun h => h summary hsummary
  · intro h other hother
    rw [hsummary] at hother
    cases hother
    exact h

theorem summaryExact_iff : SummaryExact s vendorId ↔ SummaryHolds s vendorId := by
  by_cases hvendor : vendorId ∈ s.vendors
  case neg =>
    -- there is no summary of an unknown vendor
    refine iff_of_true ?_ ⟨fun h => absurd h hvendor, fun h => absurd h hvendor⟩
    intro summary hsummary
    rw [getVendorEarningsSummary, if_pos hvendor] at hsummary
    cases hsummary
  rw [summaryExact_iff_largest hvendor]
  rcases lt_or_ge 0 (summaryAvailable s vendorId) with hshown | hempty
  · rw [max_eq_right hshown.le, largest_shown_iff hshown]
    constructor
    · exact fun h => ⟨fun _ _ => h, fun _ hle => absurd hshown (not_lt.mpr hle)⟩
    · exact fun h => h.shown hvendor hshown
  · rw [max_eq_left hempty, Int.cast_zero, zero_div, largest_zero_iff]
    constructor
    · exact fun h => ⟨fun _ hlt => absurd hlt (not_lt.mpr hempty), fun _ _ => h⟩
    · exact fun h => h.empty hvendor hempty

end Largest

/-! ## Both -/

/-- In every state of the run the vendor's payouts are covered, and the summary shows the
largest amount that a request is granted. -/
def EarningsLaw (actions : List RequestAction) : Prop :=
  Everywhere requestStep (Covered · vendorId) s actions ∧
    Everywhere requestStep (SummaryExact · vendorId) s actions

/-- Books of one vendor and one completed booking of 1000.00, without limits. -/
def vendorBooks (damageClaims : List DamageClaimStatus) (settlementHoldDays : ℤ) :
    VendorBooks where
  vendors := ["vendor"]
  bookings := [{
    vendorId := "vendor"
    status := .completed
    paymentStatus := some .paid
    netToVendor := sampleBooking.netToVendor
    disputeFlag := false
    damageClaims
    createdAt := 1000000000
    updatedAt := 1000000000 }]
  adjustments := []
  payouts := []
  ledger := ⟨[], 0⟩
  config := ⟨0, 0, 0, settlementHoldDays⟩
  clock := ⟨2000000000, 1987200000, 1000, 0, 999⟩
  inFlight := []

end CarRental
