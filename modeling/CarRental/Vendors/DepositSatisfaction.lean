import CarRental.Lib.Runs
import CarRental.Vendors.SecurityDeposit

/-!
# When a vendor deposit counts as satisfied

`getDepositSummary` and the deposit rule of a vehicle's activation both go by the status.  The rule
names the statuses that block, and so lets through all others: a payment that has only been ordered
or has failed, a deposit that has been given back.  A hold takes a part of the deposit for the whole
of it, and a refund of a part leaves the status as it was.

Where these find enough paid, or the vendor exempt, and a status that says so is computed from
what is required by then, satisfied means paid (`satisfied_of_careful`).
-/

namespace CarRental.Vendors

open Rounding Runs

/-! ## The two readers -/

/-- `isSatisfied` of `getDepositSummary`. -/
def isSatisfied (policy : DepositPolicy) (deposit : VendorDeposit) : Bool :=
  deposit.isExempt = true ∨ policy.isRequired = false ∨ deposit.status = .paid ∨
    deposit.status = .held ∨ deposit.status = .notRequired

/-- The blocker of the vehicle-activation rule. -/
def depositBlocker (requireVendorSecurityDeposit : Bool) (deposit : Option VendorDeposit) :
    Option String :=
  if requireVendorSecurityDeposit then
    match deposit with
    | none => some "VENDOR_DEPOSIT_MISSING"
    | some deposit =>
      if deposit.status = .required ∨ deposit.status = .pending ∨ deposit.status = .forfeited then
        some "VENDOR_DEPOSIT_UNPAID"
      else if deposit.status = .partiallyPaid ∧ 0 < deposit.remainingAmount.paise then
        some "VENDOR_DEPOSIT_PARTIAL"
      else none
  else none

/-- The vendor is exempt, or has paid what is required. -/
def VendorDeposit.Secured (deposit : VendorDeposit) : Prop :=
  deposit.isExempt = true ∨ deposit.requiredAmount.paise ≤ deposit.paidAmount.paise

instance (deposit : VendorDeposit) : Decidable deposit.Secured :=
  inferInstanceAs (Decidable (_ ∨ _))

/-- Where either reader takes the deposit for satisfied, it is, or none is required. -/
def SatisfactionLaw (s : DepositDesk) : Prop :=
  ∀ vendorId, ∀ deposit ∈ s.deposit? vendorId,
    isSatisfied s.policy deposit = true ∨ depositBlocker true (some deposit) = none →
      deposit.Secured ∨ s.policy.isRequired = false

/-! ## The condition -/

/-- What is paid and required after a write of the request, if it goes by the row that it finds. -/
def KeepsSecured (gateway : DepositGateway) (read row : VendorDeposit) : DepositRequest → Prop
  | .order _ => row.Secured
  | .hold => row.Secured
  | .verify orderId paymentId signature fetch =>
    match verification gateway read orderId paymentId signature fetch with
    | .refused => True
    | .failed => row.Secured
    | .credited _ => row.requiredAmount = read.requiredAmount
  | .webhook _ _ => row.requiredAmount = read.requiredAmount
  | .record _ _ _ => row.requiredAmount = read.requiredAmount
  | .release _ _ => row.isExempt = true ∨
      row.requiredAmount.paise ≤ if read.status = .held then read.paidAmount.paise else 0
  | .refund amount _ _ => row.isExempt = true ∨
      row.requiredAmount.value ≤ read.paidAmount.value - amount.getD read.paidAmount.value ∨
      read.paidAmount.value - amount.getD read.paidAmount.value ≠ 0 ∧
        row.requiredAmount = read.requiredAmount ∧
        depositBlocker true (some read) ≠ none
  | .adjust _ _ newRequiredAmount _ _ => ∀ required ∈ newRequiredAmount, OnGrid 2 required
  | .exempt isExempt => isExempt = false → read.requiredAmount.paise ≤ read.paidAmount.paise →
      row.requiredAmount.paise ≤ row.paidAmount.paise
  | .forfeit _ _ _ => True

def SatisfactionCareful (gateway : DepositGateway) (s : DepositDesk) : DepositAction → Prop
  | .finish call => call ∈ s.calls → ∀ row ∈ s.deposit? call.vendorId,
      KeepsSecured gateway call.read row call.request
  | _ => True

/-! ## Roundings -/

section Roundings

variable {x y : Decimal} {required paid remaining : Money} {n : ℤ}

theorem le_roundAway (h : (n : ℚ) - 1 / 2 < x) : n ≤ roundAway x := by
  have hclose := (abs_le.mp (abs_roundAway_sub_le x)).1
  have hlt : ((n - 1 : ℤ) : ℚ) < roundAway x := by
    push_cast
    linarith
  have : n - 1 < roundAway x := by exact_mod_cast hlt
  omega

theorem lt_half_of_roundAway_nonpos (h : roundAway x ≤ 0) : x < 1 / 2 := by
  by_contra hle
  have hround : (1 : ℤ) ≤ roundAway x := by
    rw [roundAway_of_nonneg (by linarith), le_round_iff]
    push_cast
    linarith
  omega

theorem required_le_of_le (hpaid : Column.ofDecimal? x = some paid) (h : required.value ≤ x) :
    required.paise ≤ paid.paise := by
  rw [Column.paise_of_ofDecimal? hpaid]
  exact Column.paise_le_roundAway h

theorem required_le_of_no_remainder (hpaid : Column.ofDecimal? x = some paid)
    (hremaining : Column.ofDecimal? y = some remaining) (hy : required.value - x ≤ y)
    (hnone : ¬ 0 < remaining.paise) : required.paise ≤ paid.paise := by
  have hhalf : y * 100 < 1 / 2 := by
    refine lt_half_of_roundAway_nonpos ?_
    rw [← Column.paise_of_ofDecimal? hremaining]
    omega
  rw [Column.paise_of_ofDecimal? hpaid]
  refine le_roundAway ?_
  rw [← Column.value_mul_hundred]
  linarith

end Roundings

/-! ## Writes -/

section Writes

variable {gateway : DepositGateway} {read row row' : VendorDeposit} {patch : DepositPatch}

theorem blocker_eq_none {deposit : VendorDeposit} : depositBlocker true (some deposit) = none ↔
    deposit.status ≠ .required ∧ deposit.status ≠ .pending ∧ deposit.status ≠ .forfeited ∧
      (deposit.status = .partiallyPaid → ¬ 0 < deposit.remainingAmount.paise) := by
  simp only [depositBlocker, if_true]
  split_ifs with hunpaid hpart
  · refine iff_of_false (by simp) ?_
    rintro ⟨hrequired, hpending, hforfeited, -⟩
    exact hunpaid.elim hrequired (·.elim hpending hforfeited)
  · exact iff_of_false (by simp) fun h => h.2.2.2 hpart.1 hpart.2
  · exact iff_of_true rfl ⟨fun h => hunpaid (.inl h), fun h => hunpaid (.inr (.inl h)),
      fun h => hunpaid (.inr (.inr h)), fun h hsome => hpart ⟨h, hsome⟩⟩

/-- The rule lets the deposit through only where it is secured. -/
def RuleSound (deposit : VendorDeposit) : Prop :=
  depositBlocker true (some deposit) = none → deposit.Secured

theorem secured_of_status (happly : row.apply patch = some row')
    (hrequired : patch.requiredAmount = none) (hpaid : patch.paidAmount = none)
    (hexempt : patch.isExempt = none) (hsecured : row.Secured) : row'.Secured := by
  obtain ⟨hrequired', hpaid', -, -, -, hexempt'⟩ := apply_values happly
  rw [hrequired] at hrequired'
  rw [hpaid] at hpaid'
  rw [hexempt] at hexempt'
  rw [VendorDeposit.Secured, hexempt', ← Option.some_inj.mp hrequired', ← Option.some_inj.mp hpaid']
  exact hsecured

theorem ruleSound_of_payment {required after : Decimal} (happly : row.apply patch = some row')
    (hrequired : row'.requiredAmount.value = required) (hpaid : patch.paidAmount = some after)
    (hremaining : patch.remainingAmount = some (max 0 (required - after)))
    (hstatus : row'.status = .paid ∧ required ≤ after ∨ row'.status = .partiallyPaid) :
    RuleSound row' := by
  intro hrule
  obtain ⟨-, hpaid', hremaining', -⟩ := apply_values happly
  rw [hpaid] at hpaid'
  rw [hremaining] at hremaining'
  right
  rcases hstatus with ⟨-, henough⟩ | hpart
  · exact required_le_of_le hpaid' (hrequired ▸ henough)
  · exact required_le_of_no_remainder hpaid' hremaining' (hrequired ▸ le_max_right _ _)
      ((blocker_eq_none.mp hrule).2.2.2 hpart)

variable {ledger : List DepositLedgerEntry} {write : DepositWrite} {amount : Decimal}
  {reference idempotencyKey : String}

theorem ruleSound_paymentWrite (reference idempotencyKey : String)
    (happly : row.apply patch = some row')
    (hpatch : patch.requiredAmount = none ∧
      patch.paidAmount = (paymentWrite read amount reference idempotencyKey).patch.paidAmount ∧
      patch.remainingAmount =
        (paymentWrite read amount reference idempotencyKey).patch.remainingAmount ∧
      patch.status = (paymentWrite read amount reference idempotencyKey).patch.status)
    (hread : row.requiredAmount = read.requiredAmount) : RuleSound row' := by
  obtain ⟨hrequired, hpaid, hremaining, hstatus⟩ := hpatch
  obtain ⟨hrequired', -, -, -, hstatus', -⟩ := apply_values happly
  rw [hrequired] at hrequired'
  have hsame : row'.requiredAmount = read.requiredAmount :=
    (Option.some_inj.mp hrequired').symm.trans hread
  refine ruleSound_of_payment happly (congrArg Column.value hsame) hpaid hremaining ?_
  rw [hstatus', hstatus, paymentWrite, Option.getD_some]
  split_ifs with henough
  · exact .inl ⟨rfl, henough⟩
  · exact .inr rfl

theorem ruleSound_release
    (hkeeps : KeepsSecured gateway read row (.release reference idempotencyKey))
    (hwrite : (DepositRequest.release reference idempotencyKey).write gateway ledger read =
      some write) (happly : row.apply write.patch = some row') : RuleSound row' := by
  intro _
  obtain rfl := Option.some_inj.mp hwrite
  obtain ⟨hrequired, hpaid, -, -, -, hexempt⟩ := apply_values happly
  have hsecured : row'.isExempt = row.isExempt ∧ row'.requiredAmount = row.requiredAmount ∧
      row'.paidAmount.paise = if read.status = .held then read.paidAmount.paise else 0 := by
    split_ifs at hrequired hpaid hexempt ⊢ with hheld
    · exact ⟨hexempt, (Option.some_inj.mp hrequired).symm, congrArg Column.paise
        (Option.some_inj.mp ((Column.ofDecimal?_value _).symm.trans hpaid)).symm⟩
    · refine ⟨hexempt, (Option.some_inj.mp hrequired).symm, ?_⟩
      rw [Column.paise_of_ofDecimal? hpaid, zero_mul]
      exact roundAway_intCast 0
  rw [VendorDeposit.Secured, hsecured.1, hsecured.2.1, hsecured.2.2]
  exact hkeeps

theorem ruleSound_refund {part : Option Decimal}
    (hkeeps : KeepsSecured gateway read row (.refund part reference idempotencyKey))
    (hwrite : (DepositRequest.refund part reference idempotencyKey).write gateway ledger read =
      some write) (happly : row.apply write.patch = some row') : RuleSound row' := by
  intro hrule
  obtain rfl := Option.some_inj.mp hwrite
  obtain ⟨hrequired, hpaid, hremaining, -, hstatus, hexempt⟩ := apply_values happly
  have hsame : row'.requiredAmount = row.requiredAmount := (Option.some_inj.mp hrequired).symm
  rcases hkeeps with hexempt' | hleft | ⟨hsome, hread, hblocked⟩
  · exact .inl (hexempt.trans hexempt')
  · rw [← hsame] at hleft
    exact .inr (required_le_of_le hpaid hleft)
  · dsimp only [Option.getD_some] at hstatus
    rw [if_neg hsome] at hstatus
    obtain ⟨hnotRequired, hnotPending, hnotForfeited, hpart⟩ := blocker_eq_none.mp hrule
    rw [hstatus] at hnotRequired hnotPending hnotForfeited hpart
    have hpartial : read.status = .partiallyPaid := by
      by_contra hother
      exact hblocked (blocker_eq_none.mpr ⟨hnotRequired, hnotPending, hnotForfeited,
        fun h => absurd h hother⟩)
    have hvalue : row'.requiredAmount.value = read.requiredAmount.value :=
      congrArg Column.value (hsame.trans hread)
    exact .inr (required_le_of_no_remainder hpaid hremaining (le_of_eq (by rw [hvalue]))
      (hpart hpartial))

theorem ruleSound_adjust {direction : Option LedgerDirection} {newRequired : Option Decimal}
    (hkeeps : KeepsSecured gateway read row
      (.adjust amount direction newRequired reference idempotencyKey))
    (hafter : 0 ≤ Adjustment.balanceAfter read amount direction)
    (hwrite : (DepositRequest.adjust amount direction newRequired reference idempotencyKey).write
      gateway ledger read = some write) (happly : row.apply write.patch = some row') :
    RuleSound row' := by
  obtain rfl := Option.some_inj.mp hwrite
  obtain ⟨hrequired, -, -, -, hstatus, -⟩ := apply_values happly
  have hgrid : OnGrid 2 (Adjustment.requiredAmount read newRequired) := by
    cases newRequired with
    | none => exact read.requiredAmount.onGrid_value
    | some required => exact hkeeps required rfl
  have hvalue : row'.requiredAmount.value = Adjustment.requiredAmount read newRequired := by
    rw [Column.value_of_ofDecimal? hrequired, toScale_of_onGrid hgrid]
  dsimp only [Option.getD_some] at hstatus
  unfold Adjustment.status at hstatus
  split_ifs at hstatus with henough hpart hzero
  · exact ruleSound_of_payment happly hvalue rfl rfl (.inl ⟨hstatus, henough.1⟩)
  · exact ruleSound_of_payment happly hvalue rfl rfl (.inr hstatus)
  · intro hrule
    exact absurd hstatus (blocker_eq_none.mp hrule).1
  · exact absurd (lt_of_le_of_ne hafter (Ne.symm hzero)) hpart

theorem ruleSound_of_write {request : DepositRequest} (hchecked : Checked read request)
    (hkeeps : KeepsSecured gateway read row request)
    (hwrite : request.write gateway ledger read = some write)
    (happly : row.apply write.patch = some row') : RuleSound row' := by
  cases request with
  | order orderId =>
    obtain rfl := Option.some_inj.mp hwrite
    exact fun _ => secured_of_status happly rfl rfl rfl hkeeps
  | verify orderId paymentId signature fetch =>
    simp only [DepositRequest.write] at hwrite
    simp only [KeepsSecured] at hkeeps
    cases hverified : verification gateway read orderId paymentId signature fetch with
    | refused =>
      rw [hverified] at hwrite
      cases hwrite
    | failed =>
      rw [hverified] at hwrite hkeeps
      obtain rfl := Option.some_inj.mp hwrite
      exact fun _ => secured_of_status happly rfl rfl rfl hkeeps
    | credited amount =>
      rw [hverified] at hwrite hkeeps
      obtain rfl := Option.some_inj.mp hwrite
      exact ruleSound_paymentWrite paymentId ("pay_" ++ paymentId) happly ⟨rfl, rfl, rfl, rfl⟩
        hkeeps
  | webhook orderId paymentId =>
    obtain rfl := Option.some_inj.mp hwrite
    obtain ⟨hrequired, hpaid, -⟩ := apply_values happly
    have hsame : row'.requiredAmount = read.requiredAmount :=
      (Option.some_inj.mp hrequired).symm.trans hkeeps
    refine fun _ => .inr (required_le_of_le hpaid (le_of_eq ?_))
    rw [hsame]
  | record amount reference idempotencyKey =>
    obtain rfl := Option.some_inj.mp hwrite
    exact ruleSound_paymentWrite reference idempotencyKey happly ⟨rfl, rfl, rfl, rfl⟩ hkeeps
  | hold =>
    obtain rfl := Option.some_inj.mp hwrite
    exact fun _ => secured_of_status happly rfl rfl rfl hkeeps
  | release reference idempotencyKey => exact ruleSound_release hkeeps hwrite happly
  | refund part reference idempotencyKey => exact ruleSound_refund hkeeps hwrite happly
  | forfeit part reference idempotencyKey =>
    obtain rfl := Option.some_inj.mp hwrite
    obtain ⟨-, -, -, -, hstatus, -⟩ := apply_values happly
    exact fun hrule => absurd hstatus (blocker_eq_none.mp hrule).2.2.1
  | adjust amount direction newRequired reference idempotencyKey =>
    exact ruleSound_adjust hkeeps hchecked.1 hwrite happly
  | exempt isExempt =>
    obtain rfl := Option.some_inj.mp hwrite
    obtain ⟨hrequired, hpaid, -, -, hstatus, hexempt⟩ := apply_values happly
    intro hrule
    cases isExempt with
    | true => exact .inl hexempt
    | false =>
      right
      rw [← Option.some_inj.mp hrequired, ← Option.some_inj.mp hpaid]
      refine hkeeps rfl (not_lt.mp fun hless => (blocker_eq_none.mp hrule).1 ?_)
      rw [hstatus]
      simp [not_le.mpr hless]

end Writes

/-! ## Steps -/

/-- The rule is sound for every deposit, and the calls have passed their checks. -/
structure RuleSoundEverywhere (s : DepositDesk) : Prop where
  sound : ∀ vendorId, ∀ deposit ∈ s.deposit? vendorId, RuleSound deposit
  checked : ∀ call ∈ s.calls, Checked call.read call.request

theorem satisfactionLaw_of_sound {s : DepositDesk} (h : RuleSoundEverywhere s) :
    SatisfactionLaw s := by
  intro vendorId deposit hdeposit hsatisfied
  rcases hsatisfied with hsatisfied | hrule
  · simp only [isSatisfied, decide_eq_true_eq] at hsatisfied
    rcases hsatisfied with hexempt | hpolicy | hstatus
    · exact .inl (.inl hexempt)
    · exact .inr hpolicy
    · refine .inl (h.sound vendorId deposit hdeposit (blocker_eq_none.mpr ?_))
      rcases hstatus with hstatus | hstatus | hstatus <;> simp [hstatus]
  · exact .inl (h.sound vendorId deposit hdeposit hrule)

theorem soundEverywhere_of_step (gateway : DepositGateway) (s : DepositDesk)
    (action : DepositAction) (h : RuleSoundEverywhere s)
    (hcareful : SatisfactionCareful gateway s action) :
    RuleSoundEverywhere (depositStep gateway s action) := by
  refine ⟨fun vendorId deposit hdeposit => ?_, checked_of_step gateway s action h.checked⟩
  cases action with
  | create created =>
    simp only [depositStep] at hdeposit
    split_ifs at hdeposit with hnone
    · rw [deposit?_create _ hnone] at hdeposit
      split_ifs at hdeposit
      · obtain rfl := Option.some_inj.mp hdeposit
        -- it is blocked, or nothing is required
        intro hrule
        unfold DepositDesk.initial at hrule ⊢
        by_cases hrequired : s.policy.isRequired = true
        · rw [if_pos hrequired, if_pos hrequired] at hrule
          exact absurd rfl (blocker_eq_none.mp hrule).1
        · rw [if_neg hrequired]
          exact .inr le_rfl
      · exact h.sound vendorId deposit hdeposit
    · exact h.sound vendorId deposit hdeposit
  | start started request =>
    obtain ⟨hdeposits, -⟩ := start_frame gateway s started request
    rw [depositStep, DepositDesk.deposit?, hdeposits] at hdeposit
    exact h.sound vendorId deposit hdeposit
  | finish call =>
    simp only [depositStep] at hdeposit
    split_ifs at hdeposit with hcall
    · rcases finish_cases gateway s call with
        ⟨row, write, row', entries, hrow, hwrite, hcommitted⟩ | hsame
      · rw [hcommitted.deposit?] at hdeposit
        split_ifs at hdeposit
        · obtain rfl := Option.some_inj.mp hdeposit
          exact ruleSound_of_write (h.checked call hcall) (hcareful hcall row hrow) hwrite
            hcommitted.applied
        · exact h.sound vendorId deposit hdeposit
      · rw [hsame] at hdeposit
        exact h.sound vendorId deposit hdeposit
    · exact h.sound vendorId deposit hdeposit
  | crash call => exact h.sound vendorId deposit hdeposit
  | updatePolicy policy => exact h.sound vendorId deposit hdeposit

/-! ## Runs -/

/-- In a careful run a deposit that counts as satisfied is paid. -/
theorem satisfied_of_careful (gateway : DepositGateway) (policy : DepositPolicy)
    (actions : List DepositAction)
    (hcareful : Along (depositStep gateway) (SatisfactionCareful gateway) (.opened policy)
      actions) :
    Everywhere (depositStep gateway) SatisfactionLaw (.opened policy) actions := by
  have hstart : RuleSoundEverywhere (.opened policy) := by
    refine ⟨fun vendorId deposit h => ?_, fun _ hcall => absurd hcall List.not_mem_nil⟩
    rw [show (DepositDesk.opened policy).deposit? vendorId = none from rfl] at h
    cases h
  exact (hcareful.everywhere (soundEverywhere_of_step gateway) hstart).mono
    fun _ => satisfactionLaw_of_sound

/-- The whole deposit is recorded as paid, and held. -/
theorem satisfied_of_full_payment :
    Everywhere (depositStep ⟨true, fun _ _ _ => true, none⟩) SatisfactionLaw
      (.opened thousandRequired)
      [.create "v", .start "v" (.record 1000 "a" "a"),
        .finish ⟨"v", .record 1000 "a" "a", DepositDesk.initial thousandRequired "v"⟩] := by
  refine satisfied_of_careful _ _ _ ⟨trivial, trivial, fun _ row hrow => ?_, trivial⟩
  obtain rfl : DepositDesk.initial thousandRequired "v" = row := Option.some_inj.mp hrow
  exact rfl

/-- An order for the deposit is made, and not paid; the activation rule is content. -/
theorem ordered_counts_as_satisfied :
    ¬ Everywhere (depositStep ⟨true, fun _ _ _ => true, none⟩) SatisfactionLaw
      (.opened thousandRequired)
      [.create "v", .start "v" (.order (.gateway "o")),
        .finish ⟨"v", .order (.gateway "o"), DepositDesk.initial thousandRequired "v"⟩] := by
  intro h
  have hlaw := h.last "v"
  revert hlaw
  decide +kernel

end CarRental.Vendors
