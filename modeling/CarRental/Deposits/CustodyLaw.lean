import CarRental.Lib.Runs
import CarRental.Deposits.Custody

/-!
# A deposit is settled once

However its calls overlap, a deposit should be released or settled at most once, should
not be `HELD` again after that, and its two parts should then add up to its amount.

The compare-and-swap of a release or settlement guards against other releases and
settlements, and `holdDeposit` and `recordCollateral` guard against nothing: either of
them puts a released deposit back to `HELD`, or changes the amount between the read and
the end of an operation.  Besides, the deduction and the rest of the deposit are rounded
apart from each other, which is a paisa too much where both round up.  Nothing else goes
wrong (`custody_law_iff`).

A deposit counts as left from the moment an operation has claimed it; that a failed refund
puts it back is the operation's own doing.

## Strategy

While the law holds, at most one operation has claimed the row and nobody else writes to
it, so the row is what that operation has made of it (`Consistent`).  The law and this
invariant are carried along together (`everywhere_iff_along_within`).
-/

namespace CarRental

open Runs Rounding

/-! ## The split of a deposit -/

namespace DepositOperation

variable {operation : DepositOperation}

/-- The paisa that the two parts have too much: what is left ends on half a paisa, and the
exact difference does not lie above it. -/
def surplus (operation : DepositOperation) : ℤ :=
  if Int.fract (operation.remaining * 100) = 1 / 2 ∧
      operation.deposit.amount.value - operation.deducted ≤ operation.remaining then 1
  else 0

theorem remaining_le_half (hle : 0 ≤ operation.deducted)
    (hge : operation.deducted ≤ operation.deposit.amount.value) (k : ℤ) :
    ((operation.deposit.amount.value - operation.deducted) * 100 ≤ k / 2 →
        operation.remaining * 100 ≤ k / 2) ∧
      ((k : ℚ) / 2 ≤ (operation.deposit.amount.value - operation.deducted) * 100 →
        (k : ℚ) / 2 ≤ operation.remaining * 100) := by
  have hgrid : OnGrid 3 ((k : ℚ) / 200) := ⟨5 * k, by push_cast; ring⟩
  have hlt : |operation.deposit.amount.value - operation.deducted| * 10 ^ 3 <
      10 ^ Decimal.precision := by
    have hamount := operation.deposit.amount.abs_value_lt
    rw [abs_lt] at hamount
    rw [abs_of_nonneg (by linarith)]
    norm_num [Decimal.precision] at hamount ⊢
    linarith
  constructor
  · intro h
    have := toDigits_le_of_onGrid hgrid hlt (by linarith)
    rw [remaining, Decimal.sub]
    linarith
  · intro h
    have := le_toDigits_of_onGrid hgrid hlt (by linarith)
    rw [remaining, Decimal.sub]
    linarith

theorem deductedPaise_add_refundedPaise (hle : 0 ≤ operation.deducted)
    (hge : operation.deducted ≤ operation.deposit.amount.value) :
    operation.deductedPaise + operation.refundedPaise =
      operation.deposit.amount.paise + operation.surplus := by
  have hsplit := roundAway_sub_add_roundAway (n := operation.deposit.amount.paise)
    (x := (operation.deposit.amount.value - operation.deducted) * 100)
    (r := operation.remaining * 100) (by linarith)
    (by linarith [operation.deposit.amount.value_mul_hundred])
    (fun k => (remaining_le_half hle hge k).1) (fun k => (remaining_le_half hle hge k).2)
  have hfirst : (operation.deposit.amount.paise : ℚ) -
      (operation.deposit.amount.value - operation.deducted) * 100 = operation.deducted * 100 := by
    rw [sub_mul, Column.value_mul_hundred]
    ring
  rw [hfirst] at hsplit
  rw [deductedPaise, refundedPaise, hsplit, surplus]
  simp only [mul_le_mul_iff_left₀ (by norm_num : (0 : ℚ) < 100)]

/-- What an operation has read: a deposit without a deduction, and for a release something
that is left of it. -/
structure Sound (operation : DepositOperation) : Prop where
  undeducted : operation.deposit.deductedAmount = 0
  release : operation.call = .release → 0 < operation.remaining
  settle : ∀ deductAmount, operation.call = .settle deductAmount → 0 < deductAmount

theorem Sound.deducted_release (h : operation.Sound) (hcall : operation.call = .release) :
    operation.deducted = 0 := by
  rw [deducted, hcall, h.undeducted]
  norm_num

theorem Sound.amount_pos_of_release (h : operation.Sound) (hcall : operation.call = .release) :
    0 < operation.deposit.amount.paise := by
  have hexact : operation.remaining = operation.deposit.amount.value := by
    have habs := operation.deposit.amount.abs_value_lt
    rw [remaining, Decimal.sub, h.deducted_release hcall, sub_zero,
      toDigits_of_onGrid operation.deposit.amount.onGrid_value]
    norm_num [Decimal.precision] at habs ⊢
    linarith
  have hpos := h.release hcall
  rw [hexact] at hpos
  exact Column.value_pos_iff.mp hpos

theorem Sound.bounds (h : operation.Sound) (hamount : 0 ≤ operation.deposit.amount.paise) :
    0 ≤ operation.deducted ∧ operation.deducted ≤ operation.deposit.amount.value := by
  have hvalue : 0 ≤ operation.deposit.amount.value := Column.value_nonneg_iff.mpr hamount
  cases hcall : operation.call with
  | release =>
    rw [h.deducted_release hcall]
    exact ⟨le_refl 0, hvalue⟩
  | settle deductAmount =>
    have hpos := h.settle deductAmount hcall
    simp only [deducted, hcall]
    split
    next => exact ⟨hvalue, le_refl _⟩
    next hle => exact ⟨hpos.le, not_lt.mp hle⟩

theorem Sound.shares_iff (h : operation.Sound) (amount : ℤ) :
    operation.deductedPaise + operation.refundedPaise = amount ∧
        0 ≤ operation.deductedPaise ∧ 0 ≤ operation.refundedPaise ↔
      0 ≤ operation.deposit.amount.paise ∧
        amount = operation.deposit.amount.paise + operation.surplus := by
  constructor
  · rintro ⟨hsum, hdeducted, -⟩
    have hamount : 0 ≤ operation.deposit.amount.paise := by
      by_contra hneg
      have hvalue : operation.deposit.amount.value < 0 := by
        rw [← not_le, Column.value_nonneg_iff]
        exact hneg
      cases hcall : operation.call with
      | release => exact hneg (h.amount_pos_of_release hcall).le
      | settle deductAmount =>
        -- a deduction above a negative amount is cut down to it
        have hcut : operation.deducted = operation.deposit.amount.value := by
          simp only [deducted, hcall]
          exact if_pos (hvalue.trans (h.settle deductAmount hcall))
        have hpaise : operation.deductedPaise = operation.deposit.amount.paise := by
          rw [deductedPaise, hcut, Column.value_mul_hundred, roundAway_intCast]
        exact hneg (hpaise ▸ hdeducted)
    obtain ⟨hle, hge⟩ := h.bounds hamount
    exact ⟨hamount, by rw [← hsum, deductedPaise_add_refundedPaise hle hge]⟩
  · rintro ⟨hamount, rfl⟩
    obtain ⟨hle, hge⟩ := h.bounds hamount
    refine ⟨deductedPaise_add_refundedPaise hle hge, ?_, ?_⟩
    · exact roundAway_nonneg (by linarith)
    · have hrest : 0 ≤ operation.remaining := toDigits_nonneg (sub_nonneg.mpr hge)
      exact roundAway_nonneg (by linarith)

theorem targetStatus_mem (operation : DepositOperation) :
    operation.targetStatus ∈
      [SecurityDepositStatus.refunded, .partiallyRefunded, .forfeited] := by
  unfold targetStatus
  split <;> split <;> decide

end DepositOperation

namespace DepositDesk

/-! ## The law -/

def claims (desk : DepositDesk) : ℕ := desk.operations.countP fun operation => operation.claimed

/-- The deposit is being released or settled, or has been. -/
def HasLeft (desk : DepositDesk) : Prop := 0 < desk.claims + desk.completed

instance (desk : DepositDesk) : Decidable desk.HasLeft := inferInstanceAs (Decidable (_ < _))

structure CustodyLaw (desk : DepositDesk) : Prop where
  once : desk.claims + desk.completed ≤ 1
  left : desk.HasLeft → ∃ deposit ∈ desk.deposit,
    deposit.status ∈ [.refunded, .partiallyRefunded, .forfeited]
  shares : 0 < desk.completed → ∀ deposit ∈ desk.deposit,
    deposit.deductedAmount + deposit.refundedAmount = deposit.amount.paise ∧
      0 ≤ deposit.deductedAmount ∧ 0 ≤ deposit.refundedAmount

/-! ## The condition -/

/-- `recordCollateral` gets as far as its upsert. -/
def AdmitsCollateral (desk : DepositDesk) (dto : RecordCollateralDto) (isAdminOrVendor : Bool) :
    Prop :=
  isAdminOrVendor = true ∧ desk.bookingStatus ∈ [.confirmed, .handoverReady] ∧
    validateCollateral dto = .ok ()

/-- No upsert comes once the deposit has left, and an operation that succeeds still finds
the amount that it has split, but for the paisa that the rounding of the parts adds. -/
def KeepsCustody (desk : DepositDesk) : Action → Prop
  | .holdDeposit _ amount _ =>
    (Column.ofDecimal? amount : Option Money) ≠ none → ¬ desk.HasLeft
  | .recordCollateral _ dto isAdminOrVendor =>
    desk.AdmitsCollateral dto isAdminOrVendor → ¬ desk.HasLeft
  | .finish operation refunded =>
    operation ∈ desk.operations → operation.claimed = true →
      (operation.asksRefund = true → refunded ≠ none) →
        0 ≤ operation.deposit.amount.paise ∧ ∀ deposit ∈ desk.deposit,
          deposit.amount.paise = operation.deposit.amount.paise + operation.surplus
  | _ => True

/-! ## What holds while the law does -/

/-- What an operation in flight has read, and what the row is. -/
structure Consistent (desk : DepositDesk) : Prop where
  sound : ∀ operation ∈ desk.operations, operation.Sound
  fresh : ¬ desk.HasLeft → ∀ deposit ∈ desk.deposit, deposit.deductedAmount = 0
  unpaid : desk.completed = 0 → ∀ deposit ∈ desk.deposit, deposit.refundedAmount = 0
  claimed : ∀ operation ∈ desk.operations, operation.claimed = true →
    ∀ deposit ∈ desk.deposit, deposit.deductedAmount = operation.deductedPaise

variable {desk desk' : DepositDesk}

theorem CustodyLaw.not_held (h : desk.CustodyLaw) {deposit : SecurityDeposit}
    (hdeposit : desk.deposit = some deposit) (hheld : deposit.status = .held) :
    ¬ desk.HasLeft := by
  intro hleft
  obtain ⟨other, hother, hstatus⟩ := h.left hleft
  rw [hdeposit, Option.mem_some_iff] at hother
  rw [← hother, hheld] at hstatus
  revert hstatus
  decide

theorem claims_eq_zero_iff :
    desk.claims = 0 ↔ ∀ operation ∈ desk.operations, operation.claimed = false := by
  simp [claims, List.countP_eq_zero]

theorem claims_erase {operation : DepositOperation} (hmem : operation ∈ desk.operations) :
    (desk.operations.erase operation).countP (fun operation => operation.claimed) =
      desk.claims - if operation.claimed = true then 1 else 0 := by
  simp only [claims, List.countP_erase, hmem, true_and]

/-! ## Upserts -/

/-- The row is put to `HELD`, or created; its two parts stay. -/
def Upserted (desk desk' : DepositDesk) : Prop :=
  ∃ deposit, desk' = { desk with deposit := some deposit } ∧ deposit.status = .held ∧
    deposit.deductedAmount = (desk.deposit.map SecurityDeposit.deductedAmount).getD 0 ∧
    deposit.refundedAmount = (desk.deposit.map SecurityDeposit.refundedAmount).getD 0

theorem holdDeposit_cases (desk : DepositDesk) (newId : Id) (amount : Decimal)
    (razorpayPaymentId : Option String) :
    (Column.ofDecimal? amount : Option Money) = none ∧
        (desk.holdDeposit newId amount razorpayPaymentId).1 = desk ∨
      (Column.ofDecimal? amount : Option Money) ≠ none ∧
        Upserted desk (desk.holdDeposit newId amount razorpayPaymentId).1 := by
  unfold holdDeposit
  split
  next hnone => exact .inl ⟨hnone, rfl⟩
  next amount' hsome =>
    refine .inr ⟨by rw [hsome]; exact Option.some_ne_none _, _, rfl, ?_⟩
    cases hdeposit : desk.deposit <;> exact ⟨rfl, rfl, rfl⟩

theorem recordCollateral_cases (desk : DepositDesk) (newId : Id) (dto : RecordCollateralDto)
    (isAdminOrVendor : Bool) :
    ¬ desk.AdmitsCollateral dto isAdminOrVendor ∧
        (desk.recordCollateral newId dto isAdminOrVendor).1 = desk ∨
      desk.AdmitsCollateral dto isAdminOrVendor ∧
        Upserted desk (desk.recordCollateral newId dto isAdminOrVendor).1 := by
  unfold recordCollateral AdmitsCollateral
  split
  next hauth => exact .inl ⟨fun h => by simp [h.1] at hauth, rfl⟩
  next hauth =>
    split
    next hstatus =>
      refine .inl ⟨fun h => ?_, rfl⟩
      have hmem := h.2.1
      simp only [List.mem_cons, List.not_mem_nil, or_false] at hmem
      exact hmem.elim hstatus.1 hstatus.2
    next hstatus =>
      split
      next e hinvalid =>
        refine .inl ⟨fun h => ?_, rfl⟩
        rw [h.2.2] at hinvalid
        cases hinvalid
      next hvalid =>
        refine .inr ⟨⟨by simpa using hauth, ?_, hvalid⟩, _, rfl, ?_⟩
        · rw [not_and_or, not_not, not_not] at hstatus
          simpa using hstatus
        · cases hdeposit : desk.deposit <;> exact ⟨rfl, rfl, rfl⟩

theorem Upserted.law_iff (h : Upserted desk desk') : CustodyLaw desk' ↔ ¬ desk.HasLeft := by
  obtain ⟨deposit, rfl, hheld, -⟩ := h
  constructor
  · exact fun hlaw => hlaw.not_held rfl hheld
  · intro hstill
    have hnone : desk.claims + desk.completed = 0 := by
      rw [HasLeft] at hstill
      omega
    constructor
    · show desk.claims + desk.completed ≤ 1
      omega
    · exact fun hleft => absurd hleft hstill
    · intro hcompleted
      dsimp only at hcompleted
      omega

theorem Upserted.consistent (h : Upserted desk desk') (hdesk : desk.Consistent)
    (hstill : ¬ desk.HasLeft) : desk'.Consistent := by
  obtain ⟨deposit, rfl, -, hdeducted, hrefunded⟩ := h
  have hnone : desk.claims = 0 ∧ desk.completed = 0 := by
    rw [HasLeft] at hstill
    omega
  constructor
  case sound => exact hdesk.sound
  case fresh =>
    rintro - _ ⟨⟩
    rw [hdeducted]
    cases hold : desk.deposit with
    | none => rfl
    | some old => exact hdesk.fresh hstill old hold
  case unpaid =>
    rintro hcompleted _ ⟨⟩
    rw [hrefunded]
    cases hold : desk.deposit with
    | none => rfl
    | some old => exact hdesk.unpaid hcompleted old hold
  case claimed =>
    intro operation hmem hclaimed
    rw [claims_eq_zero_iff.mp hnone.1 operation hmem] at hclaimed
    cases hclaimed

/-! ## Reads -/

/-- An operation may begin; the row is not touched. -/
def Started (desk desk' : DepositDesk) : Prop :=
  desk'.deposit = desk.deposit ∧ desk'.completed = desk.completed ∧
    ∃ operation : Option DepositOperation,
      desk'.operations = operation.toList ++ desk.operations ∧
        ∀ started ∈ operation, started.claimed = false ∧
          (desk.deposit = some started.deposit ∧ started.deposit.status = .held ∧
            (started.call = .release → 0 < started.remaining) ∧
            ∀ deductAmount, started.call = .settle deductAmount → 0 < deductAmount)

theorem Started.refl (desk : DepositDesk) : Started desk desk :=
  ⟨rfl, rfl, none, rfl, fun _ h => by cases h⟩

theorem readRelease_eq_ok {operation : DepositOperation}
    (h : desk.readRelease = .ok (some operation)) :
    operation.claimed = false ∧ operation.call = .release ∧
      desk.deposit = some operation.deposit ∧ operation.deposit.status = .held ∧
      0 < operation.remaining := by
  unfold readRelease at h
  split at h
  · cases h
  next deposit hdeposit =>
    split at h
    · cases h
    next hheld =>
      dsimp only at h
      split at h
      · cases h
      next hrest =>
        cases h
        exact ⟨rfl, rfl, hdeposit, not_not.mp hheld, not_le.mp hrest⟩

theorem startRelease_started (desk : DepositDesk) : Started desk desk.startRelease := by
  unfold startRelease
  split
  next operation hok =>
    refine ⟨rfl, rfl, operation, rfl, ?_⟩
    rintro started rfl
    obtain ⟨hclaimed, hcall, hdeposit, hheld, hrest⟩ := readRelease_eq_ok hok
    refine ⟨hclaimed, hdeposit, hheld, fun _ => hrest, fun deductAmount hsettle => ?_⟩
    rw [hcall] at hsettle
    cases hsettle
  · exact Started.refl desk

theorem readSettlement_started (desk : DepositDesk) {deductAmount : Decimal}
    (hpos : 0 < deductAmount) :
    Started desk (desk.addOperation (desk.readSettlement deductAmount)) := by
  refine ⟨rfl, rfl, desk.readSettlement deductAmount, rfl, ?_⟩
  intro started hstarted
  unfold readSettlement at hstarted
  split at hstarted
  · cases hstarted
  next deposit hdeposit =>
    split at hstarted
    · cases hstarted
    next hheld =>
      cases hstarted
      refine ⟨rfl, hdeposit, not_not.mp hheld, fun hcall => (by cases hcall), ?_⟩
      rintro _ ⟨⟩
      exact hpos

theorem checkApprovedAmount_eq_ok {approvedAmount claimedAmount : Decimal}
    {deductibleCeiling : Option Decimal}
    (h : checkApprovedAmount approvedAmount claimedAmount deductibleCeiling = .ok ()) :
    0 < approvedAmount := by
  unfold checkApprovedAmount at h
  split at h
  · cases h
  next hpos => exact not_le.mp hpos

theorem Started.claims_eq (h : Started desk desk') : desk'.claims = desk.claims := by
  obtain ⟨-, -, operation, hoperations, hstarted⟩ := h
  rw [claims, hoperations, List.countP_append]
  cases operation with
  | none => simp [claims]
  | some started => simp [claims, (hstarted started rfl).1]

theorem Started.hasLeft_iff (h : Started desk desk') : desk'.HasLeft ↔ desk.HasLeft := by
  rw [HasLeft, HasLeft, h.claims_eq, h.2.1]

theorem Started.law (h : Started desk desk') (hlaw : desk.CustodyLaw) : desk'.CustodyLaw where
  once := by
    rw [h.claims_eq, h.2.1]
    exact hlaw.once
  left := by
    rw [h.hasLeft_iff, h.1]
    exact hlaw.left
  shares := by
    rw [h.2.1, h.1]
    exact hlaw.shares

theorem Started.consistent (h : Started desk desk') (hdesk : desk.Consistent)
    (hlaw : desk.CustodyLaw) : desk'.Consistent := by
  have hleft := h.hasLeft_iff
  obtain ⟨hdeposit, hcompleted, operation, hoperations, hstarted⟩ := h
  constructor
  case sound =>
    intro other hother
    rw [hoperations] at hother
    rcases List.mem_append.mp hother with hnew | hold
    · obtain ⟨-, hread, hheld, hrelease, hsettle⟩ := hstarted other (Option.mem_toList.mp hnew)
      have hundeducted := hdesk.fresh (hlaw.not_held hread hheld) other.deposit hread
      exact ⟨hundeducted, hrelease, hsettle⟩
    · exact hdesk.sound other hold
  case fresh =>
    rw [hleft, hdeposit]
    exact hdesk.fresh
  case unpaid =>
    rw [hcompleted, hdeposit]
    exact hdesk.unpaid
  case claimed =>
    intro other hother hclaimed
    rw [hoperations] at hother
    rw [hdeposit]
    rcases List.mem_append.mp hother with hnew | hold
    · rw [(hstarted other (Option.mem_toList.mp hnew)).1] at hclaimed
      cases hclaimed
    · exact hdesk.claimed other hold hclaimed

/-! ## Claims -/

section Operations

variable {operation : DepositOperation}

theorem claimDeposit_cases (desk : DepositDesk) (operation : DepositOperation) :
    desk.claimDeposit operation = desk ∨
      ∃ deposit, desk.deposit = some deposit ∧ deposit.status = .held ∧
        desk.claimDeposit operation =
          { desk with
            deposit := some (operation.claimRow deposit)
            operations := { operation with claimed := true } :: desk.operations } := by
  unfold claimDeposit
  split
  · exact .inl rfl
  next deposit hdeposit =>
    split
    next hheld => exact .inr ⟨deposit, hdeposit, hheld, rfl⟩
    · exact .inl rfl

@[simp] theorem claimRow_status (deposit : SecurityDeposit) :
    (operation.claimRow deposit).status = operation.targetStatus := by
  unfold DepositOperation.claimRow
  split <;> rfl

@[simp] theorem claimRow_refundedAmount (deposit : SecurityDeposit) :
    (operation.claimRow deposit).refundedAmount = deposit.refundedAmount := by
  unfold DepositOperation.claimRow
  split <;> rfl

theorem claimRow_deductedAmount (hsound : operation.Sound) {deposit : SecurityDeposit}
    (hzero : deposit.deductedAmount = 0) :
    (operation.claimRow deposit).deductedAmount = operation.deductedPaise := by
  unfold DepositOperation.claimRow
  split
  next hcall =>
    rw [DepositOperation.deductedPaise, hsound.deducted_release hcall, zero_mul]
    simpa [roundAway] using hzero
  · rfl

theorem Consistent.erase (h : desk.Consistent) (hlaw : desk.CustodyLaw)
    (hmem : operation ∈ desk.operations) (hclaimed : operation.claimed = false) :
    Consistent { desk with operations := desk.operations.erase operation } ∧
      CustodyLaw { desk with operations := desk.operations.erase operation } := by
  have hclaims : claims { desk with operations := desk.operations.erase operation } =
      desk.claims := by
    rw [claims, claims_erase hmem, hclaimed]
    simp
  have hleft : HasLeft { desk with operations := desk.operations.erase operation } ↔
      desk.HasLeft := by rw [HasLeft, HasLeft, hclaims]
  constructor
  · constructor
    · exact fun other hother => h.sound other (List.mem_of_mem_erase hother)
    · rw [hleft]
      exact h.fresh
    · exact h.unpaid
    · exact fun other hother => h.claimed other (List.mem_of_mem_erase hother)
  · constructor
    · rw [hclaims]
      exact hlaw.once
    · rw [hleft]
      exact hlaw.left
    · exact hlaw.shares

theorem claimDeposit_law (h : desk.Consistent) (hlaw : desk.CustodyLaw)
    (hsound : operation.Sound) :
    Consistent (desk.claimDeposit operation) ∧ CustodyLaw (desk.claimDeposit operation) := by
  rcases claimDeposit_cases desk operation with heq | ⟨deposit, hdeposit, hheld, heq⟩
  · rw [heq]
    exact ⟨h, hlaw⟩
  have hstill := hlaw.not_held hdeposit hheld
  have hnone : desk.claims = 0 ∧ desk.completed = 0 := by
    rw [HasLeft] at hstill
    omega
  -- the claim that is added is the only one
  have hone : (({ operation with claimed := true } : DepositOperation) ::
      desk.operations).countP (fun operation => operation.claimed) = 1 := by
    have hzero := hnone.1
    rw [claims] at hzero
    rw [List.countP_cons_of_pos rfl, hzero]
  rw [heq]
  constructor
  · constructor
    case sound =>
      intro other hother
      rcases List.mem_cons.mp hother with rfl | hmem
      · exact ⟨hsound.undeducted, hsound.release, hsound.settle⟩
      · exact h.sound other hmem
    case fresh =>
      intro hnot
      refine absurd ?_ hnot
      rw [HasLeft, claims, hone]
      omega
    case unpaid =>
      rintro hcompleted _ ⟨⟩
      rw [claimRow_refundedAmount]
      exact h.unpaid hcompleted deposit hdeposit
    case claimed =>
      rintro other hother hclaimed _ ⟨⟩
      rcases List.mem_cons.mp hother with rfl | hmem
      · exact claimRow_deductedAmount hsound (h.fresh hstill deposit hdeposit)
      · rw [claims_eq_zero_iff.mp hnone.1 other hmem] at hclaimed
        cases hclaimed
  · constructor
    · rw [claims, hone, hnone.2]
    · refine fun _ => ⟨_, rfl, ?_⟩
      rw [claimRow_status]
      exact operation.targetStatus_mem
    · intro hcompleted
      dsimp only at hcompleted
      omega

/-! ## Ends -/

/-- The operation succeeds: no refund is needed, or it goes through. -/
def Succeeds (operation : DepositOperation) (refunded : Option (Option GatewayRefundId)) : Prop :=
  operation.asksRefund = true → refunded ≠ none

theorem finishOperation_cases (desk : DepositDesk) (operation : DepositOperation)
    (refunded : Option (Option GatewayRefundId)) :
    ¬ Succeeds operation refunded ∧ desk.finishOperation operation refunded =
        { desk with deposit := desk.deposit.map operation.revertRow } ∨
      Succeeds operation refunded ∧ ∃ refundId, desk.finishOperation operation refunded =
        { desk with
          deposit := desk.deposit.map (operation.finishRow refundId)
          completed := desk.completed + 1 } := by
  unfold finishOperation Succeeds
  split
  next hasks =>
    split
    · exact .inl ⟨fun h => h hasks rfl, rfl⟩
    · exact .inr ⟨fun _ => Option.some_ne_none _, _, rfl⟩
  next hasks => exact .inr ⟨fun h => absurd h hasks, _, rfl⟩

theorem finishOperation_law_iff (h : desk.Consistent) (hlaw : desk.CustodyLaw)
    (hmem : operation ∈ desk.operations) (hclaimed : operation.claimed = true)
    (refunded : Option (Option GatewayRefundId)) :
    CustodyLaw ({ desk with operations := desk.operations.erase operation }.finishOperation
        operation refunded) ↔
      (Succeeds operation refunded → 0 ≤ operation.deposit.amount.paise ∧
        ∀ deposit ∈ desk.deposit,
          deposit.amount.paise = operation.deposit.amount.paise + operation.surplus) := by
  -- the operation holds the one claim, so nothing else is claimed and nothing is completed
  have hpos : 0 < desk.claims := List.countP_pos_iff.mpr ⟨operation, hmem, hclaimed⟩
  have honce := hlaw.once
  have hcompleted : desk.completed = 0 := by omega
  have hnone : (desk.operations.erase operation).countP (fun operation => operation.claimed) =
      0 := by
    rw [claims_erase hmem, if_pos hclaimed]
    omega
  obtain ⟨deposit, hdeposit, hstatus⟩ := hlaw.left (by rw [HasLeft]; omega)
  have hshares := (h.sound operation hmem).shares_iff deposit.amount.paise
  have hdeducted := h.claimed operation hmem hclaimed deposit hdeposit
  rcases finishOperation_cases { desk with operations := desk.operations.erase operation }
    operation refunded with ⟨hfails, heq⟩ | ⟨hsucceeds, refundId, heq⟩
  · rw [heq]
    refine iff_of_true ⟨?_, ?_, ?_⟩ fun hsucceeds => absurd hsucceeds hfails
    · rw [claims, hnone, hcompleted]
      omega
    · rw [HasLeft, claims, hnone, hcompleted]
      exact fun hleft => absurd hleft (lt_irrefl 0)
    · exact fun hsome => absurd hsome (by rw [hcompleted]; exact lt_irrefl 0)
  · rw [heq, forall_prop_of_true hsucceeds]
    -- there is one row, the one that was claimed
    have hrow : ∀ {p : SecurityDeposit → Prop}, (∀ d ∈ desk.deposit, p d) ↔ p deposit := by
      intro p
      rw [Option.mem_def.mp hdeposit]
      simp
    rw [hrow, ← hshares]
    constructor
    · intro hlaw'
      have hparts := hlaw'.shares (Nat.succ_pos _) (operation.finishRow refundId deposit)
        (by rw [Option.mem_def.mp hdeposit]; rfl)
      rw [DepositOperation.finishRow] at hparts
      dsimp only at hparts
      rw [hdeducted] at hparts
      exact hparts
    · intro hparts
      constructor
      · rw [claims, hnone, hcompleted]
        exact le_refl 1
      · refine fun _ => ⟨operation.finishRow refundId deposit, ?_, hstatus⟩
        rw [Option.mem_def.mp hdeposit]
        rfl
      · rintro - row hrow'
        rw [Option.mem_def.mp hdeposit] at hrow'
        cases hrow'
        rw [DepositOperation.finishRow]
        dsimp only
        rw [hdeducted]
        exact hparts

theorem finishOperation_consistent (h : desk.Consistent) (hlaw : desk.CustodyLaw)
    (hmem : operation ∈ desk.operations) (hclaimed : operation.claimed = true)
    (refunded : Option (Option GatewayRefundId)) :
    Consistent ({ desk with operations := desk.operations.erase operation }.finishOperation
      operation refunded) := by
  have hpos : 0 < desk.claims := List.countP_pos_iff.mpr ⟨operation, hmem, hclaimed⟩
  have honce := hlaw.once
  have hcompleted : desk.completed = 0 := by omega
  have hnone : (desk.operations.erase operation).countP (fun operation => operation.claimed) =
      0 := by
    rw [claims_erase hmem, if_pos hclaimed]
    omega
  have hsound : ∀ other ∈ desk.operations.erase operation, other.Sound :=
    fun other hother => h.sound other (List.mem_of_mem_erase hother)
  have hquiet : ∀ other ∈ desk.operations.erase operation, other.claimed = false := by
    simpa [List.countP_eq_zero] using hnone
  rcases finishOperation_cases { desk with operations := desk.operations.erase operation }
    operation refunded with ⟨-, heq⟩ | ⟨-, refundId, heq⟩
  -- the refund has failed: the row goes back, and so does the deduction of a release, which is
  -- none
  · rw [heq]
    constructor
    case sound => exact hsound
    case fresh =>
      rintro - row hrow
      obtain ⟨deposit, hdeposit, rfl⟩ := Option.mem_map.mp hrow
      unfold DepositOperation.revertRow
      split
      next hcall =>
        dsimp only
        rw [h.claimed operation hmem hclaimed deposit hdeposit, DepositOperation.deductedPaise,
          (h.sound operation hmem).deducted_release hcall, zero_mul]
        simp [roundAway]
      · rfl
    case unpaid =>
      rintro - row hrow
      obtain ⟨deposit, hdeposit, rfl⟩ := Option.mem_map.mp hrow
      have hunpaid := h.unpaid hcompleted deposit hdeposit
      unfold DepositOperation.revertRow
      split <;> exact hunpaid
    case claimed =>
      intro other hother hother'
      rw [hquiet other hother] at hother'
      cases hother'
  · rw [heq]
    constructor
    case sound => exact hsound
    case fresh => exact fun hnot => absurd (Nat.lt_add_left _ (Nat.succ_pos _)) hnot
    case unpaid => exact fun hzero => absurd hzero (Nat.succ_ne_zero _)
    case claimed =>
      intro other hother hother'
      rw [hquiet other hother] at hother'
      cases hother'

end Operations

/-! ## Steps -/

theorem step_started {action : Action}
    (h : action matches .releaseDeposit | .adjudicateClaim _ _ _ | .findEligible _ _ |
      .autoRelease | .setStatus _) : Started desk (step desk action) := by
  cases action with
  | releaseDeposit => exact startRelease_started desk
  | adjudicateClaim approvedAmount claimedAmount deductibleCeiling =>
    simp only [step]
    split
    next hok => exact readSettlement_started desk (checkApprovedAmount_eq_ok hok)
    · exact Started.refl desk
  | findEligible completedADayAgo activeClaim => exact ⟨rfl, rfl, none, rfl, fun _ h => by cases h⟩
  | autoRelease =>
    simp only [step]
    split
    · exact startRelease_started { desk with eligible := false }
    · exact Started.refl desk
  | setStatus status => exact ⟨rfl, rfl, none, rfl, fun _ h => by cases h⟩
  | _ => cases h

theorem step_consistent (h : desk.Consistent) (hlaw : desk.CustodyLaw) {action : Action}
    (hlaw' : (step desk action).CustodyLaw) : (step desk action).Consistent := by
  cases action with
  | holdDeposit newId amount razorpayPaymentId =>
    simp only [step] at hlaw' ⊢
    rcases holdDeposit_cases desk newId amount razorpayPaymentId with ⟨-, heq⟩ | ⟨-, hupsert⟩
    · rw [heq]
      exact h
    · exact hupsert.consistent h (hupsert.law_iff.mp hlaw')
  | recordCollateral newId dto isAdminOrVendor =>
    simp only [step] at hlaw' ⊢
    rcases recordCollateral_cases desk newId dto isAdminOrVendor with ⟨-, heq⟩ | ⟨-, hupsert⟩
    · rw [heq]
      exact h
    · exact hupsert.consistent h (hupsert.law_iff.mp hlaw')
  | claim operation =>
    simp only [step]
    split
    next hmem =>
      obtain ⟨hdesk, hdesk'⟩ := h.erase hlaw hmem.1 hmem.2
      exact (claimDeposit_law hdesk hdesk' (h.sound operation hmem.1)).1
    · exact h
  | finish operation refunded =>
    simp only [step]
    split
    next hmem => exact finishOperation_consistent h hlaw hmem.1 hmem.2 refunded
    · exact h
  | releaseDeposit => exact (step_started rfl).consistent h hlaw
  | adjudicateClaim => exact (step_started rfl).consistent h hlaw
  | findEligible => exact (step_started rfl).consistent h hlaw
  | autoRelease => exact (step_started rfl).consistent h hlaw
  | setStatus => exact (step_started rfl).consistent h hlaw

theorem step_law_iff (h : desk.Consistent) (hlaw : desk.CustodyLaw) (action : Action) :
    (step desk action).CustodyLaw ↔ desk.KeepsCustody action := by
  cases action with
  | holdDeposit newId amount razorpayPaymentId =>
    simp only [step, KeepsCustody]
    rcases holdDeposit_cases desk newId amount razorpayPaymentId with
      ⟨hnone, heq⟩ | ⟨hsome, hupsert⟩
    · rw [heq]
      exact iff_of_true hlaw fun hsome => absurd hnone hsome
    · rw [hupsert.law_iff, forall_prop_of_true hsome]
  | recordCollateral newId dto isAdminOrVendor =>
    simp only [step, KeepsCustody]
    rcases recordCollateral_cases desk newId dto isAdminOrVendor with
      ⟨hrefused, heq⟩ | ⟨hadmitted, hupsert⟩
    · rw [heq]
      exact iff_of_true hlaw fun hadmitted => absurd hadmitted hrefused
    · rw [hupsert.law_iff, forall_prop_of_true hadmitted]
  | claim operation =>
    refine iff_of_true ?_ trivial
    simp only [step]
    split
    next hmem =>
      obtain ⟨hdesk, hdesk'⟩ := h.erase hlaw hmem.1 hmem.2
      exact (claimDeposit_law hdesk hdesk' (h.sound operation hmem.1)).2
    · exact hlaw
  | finish operation refunded =>
    simp only [step, KeepsCustody]
    by_cases hmem : operation ∈ desk.operations ∧ operation.claimed = true
    · rw [if_pos hmem, finishOperation_law_iff h hlaw hmem.1 hmem.2, forall_prop_of_true hmem.1,
        forall_prop_of_true hmem.2]
      rfl
    · rw [if_neg hmem]
      exact iff_of_true hlaw fun hin hclaimed => absurd ⟨hin, hclaimed⟩ hmem
  | releaseDeposit => exact iff_of_true ((step_started rfl).law hlaw) trivial
  | adjudicateClaim => exact iff_of_true ((step_started rfl).law hlaw) trivial
  | findEligible => exact iff_of_true ((step_started rfl).law hlaw) trivial
  | autoRelease => exact iff_of_true ((step_started rfl).law hlaw) trivial
  | setStatus => exact iff_of_true ((step_started rfl).law hlaw) trivial

/-! ## Runs -/

/-- A booking whose deposit, if it has one, has not been deducted from or paid back. -/
structure UnsettledDeposit where
  bookingStatus : BookingStatus
  deposit : Option SecurityDeposit
  undeducted : ∀ row ∈ deposit, row.deductedAmount = 0
  unpaid : ∀ row ∈ deposit, row.refundedAmount = 0

def UnsettledDeposit.start (booking : UnsettledDeposit) : DepositDesk where
  bookingStatus := booking.bookingStatus
  deposit := booking.deposit
  operations := []
  eligible := false
  completed := 0

theorem UnsettledDeposit.consistent (booking : UnsettledDeposit) : booking.start.Consistent where
  sound := fun _ hmem => absurd hmem List.not_mem_nil
  fresh := fun _ => booking.undeducted
  unpaid := fun _ => booking.unpaid
  claimed := fun _ hmem => absurd hmem List.not_mem_nil

theorem UnsettledDeposit.law (booking : UnsettledDeposit) : booking.start.CustodyLaw where
  once := Nat.zero_le 1
  left := fun hleft => absurd hleft (lt_irrefl 0)
  shares := fun hcompleted => absurd hcompleted (lt_irrefl 0)

/-- A deposit keeps the law exactly along the runs in which no upsert comes once it has left
and every success finds the amount that was split. -/
theorem custody_law_iff (booking : UnsettledDeposit) (actions : List Action) :
    Everywhere step CustodyLaw booking.start actions ↔
      Along step KeepsCustody booking.start actions :=
  everywhere_iff_along_within (I := Consistent)
    (fun _ _ h hlaw hlaw' => step_consistent h hlaw hlaw')
    (fun _ action _ h hlaw => step_law_iff h hlaw action) booking.consistent booking.law

/-! ### Collateral after a release -/

def paidDeposit : SecurityDeposit :=
  ⟨"deposit", sampleDeposit, 0, 0, .held, some "payment", none⟩

def confirmedBooking : UnsettledDeposit where
  bookingStatus := .confirmed
  deposit := some paidDeposit
  undeducted := by rintro _ ⟨⟩; rfl
  unpaid := by rintro _ ⟨⟩; rfl

/-- The deposit is released, and the customer leaves collateral at pickup. -/
def lateCollateral : List Action :=
  [.releaseDeposit, .claim ⟨.release, paidDeposit, false⟩,
    .finish ⟨.release, paidDeposit, true⟩ (some (some (.issued "refund"))),
    .recordCollateral "other" ⟨.digilockerHighTrust, none, false, none, none, false⟩ true]

/-- The released deposit is held again. -/
theorem collateral_reopens_deposit :
    ¬ Everywhere step CustodyLaw confirmedBooking.start lateCollateral := by
  intro h
  have hheld : (run step confirmedBooking.start lateCollateral).deposit.map
      SecurityDeposit.status = some .held := by decide +kernel
  have hleft : (run step confirmedBooking.start lateCollateral).HasLeft := by decide +kernel
  obtain ⟨deposit, hdeposit, hstatus⟩ := Option.map_eq_some_iff.mp hheld
  exact h.last.not_held hdeposit hstatus hleft

end DepositDesk

end CarRental
