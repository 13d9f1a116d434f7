import CarRental.Lib.Runs
import CarRental.Lib.Totals
import CarRental.Vendors.SecurityDeposit

/-!
# The ledger of a vendor deposit

What is paid of a deposit should be what its ledger comes to, entry by entry, and what remains
should be what is missing.

Every write is computed from what its call has read, so one that comes between is lost
(`payment_lost`).  The webhook takes everything required for paid by one entry, whatever was paid
before; a refund of an overpaid deposit leaves a negative remainder, and a forfeiture leaves the
remainder as it was.  Without these the ledger is in order (`deposit_ledger_of_careful`).
-/

namespace CarRental.Vendors

open Rounding Runs Totals

/-! ## The law -/

def DepositDesk.entriesOf (s : DepositDesk) (vendorId : Id) : List DepositLedgerEntry :=
  s.ledger.filter (·.vendorId = vendorId)

namespace DepositLedgerEntry

def isCredit (entry : DepositLedgerEntry) : Bool :=
  entry.direction = .credit

def isDebit (entry : DepositLedgerEntry) : Bool :=
  entry.direction = .debit

/-- The amount is the difference of the balances. -/
def Balances (entry : DepositLedgerEntry) : Prop :=
  entry.balanceAfter.paise = entry.balanceBefore.paise +
    (if entry.isCredit then entry.amount.paise else 0) -
      if entry.isDebit then entry.amount.paise else 0

/-- Each entry starts at the balance at which the one before it ended, the first one at 0. -/
def Chained (entries : List DepositLedgerEntry) (closing : ℤ) : Prop :=
  Statement.Runs (·.balanceBefore.paise) (·.balanceAfter.paise) 0 entries closing

end DepositLedgerEntry

open DepositLedgerEntry

structure DepositLedgerLaw (s : DepositDesk) (deposit : VendorDeposit) : Prop where
  nonneg : 0 ≤ deposit.paidAmount.paise
  sum : deposit.paidAmount.paise = total isCredit (·.amount.paise) (s.entriesOf deposit.vendorId) -
    total isDebit (·.amount.paise) (s.entriesOf deposit.vendorId)
  amounts : ∀ entry ∈ s.entriesOf deposit.vendorId, entry.Balances
  chain : Chained (s.entriesOf deposit.vendorId) deposit.paidAmount.paise
  remaining : deposit.remainingAmount.paise =
    max 0 (deposit.requiredAmount.paise - deposit.paidAmount.paise)

def DepositLedgersLaw (s : DepositDesk) : Prop :=
  ∀ vendorId, ∀ deposit ∈ s.deposit? vendorId, DepositLedgerLaw s deposit

/-! ## The condition -/

def StillThere (read row : VendorDeposit) : Prop :=
  row.requiredAmount = read.requiredAmount ∧ row.paidAmount = read.paidAmount ∧
    row.remainingAmount = read.remainingAmount

abbrev WholePaise (amount : Decimal) : Prop := OnGrid 2 amount

def leftAfter (read : VendorDeposit) (amount : Option Decimal) : Decimal :=
  read.paidAmount.value - amount.getD read.paidAmount.value

/-- What a request writes fits the deposit that it finds. -/
def FitsLedger (gateway : DepositGateway) (ledger : List DepositLedgerEntry)
    (read row : VendorDeposit) : DepositRequest → Prop
  | .verify orderId paymentId signature fetch => ∀ amount,
      verification gateway read orderId paymentId signature fetch = .credited amount →
        StillThere read row ∧ 0 ≤ amount
  | .webhook _ paymentId => row.requiredAmount = read.requiredAmount ∧
      if ledger.any (·.reference = paymentId) then row.paidAmount = read.requiredAmount
      else row.paidAmount = read.paidAmount ∧ read.paidAmount.paise = 0
  | .record amount _ _ => StillThere read row ∧ WholePaise amount
  | .release _ _ => StillThere read row
  | .refund amount _ _ => StillThere read row ∧ (∀ part ∈ amount, WholePaise part) ∧
      leftAfter read amount ≤ read.requiredAmount.value
  | .forfeit amount _ _ => StillThere read row ∧ (∀ part ∈ amount, WholePaise part) ∧
      read.requiredAmount.value ≤ leftAfter read amount
  | .adjust amount _ newRequiredAmount _ _ => StillThere read row ∧ WholePaise amount ∧
      ∀ required ∈ newRequiredAmount, WholePaise required
  | _ => True

def LedgerCareful (gateway : DepositGateway) (s : DepositDesk) : DepositAction → Prop
  | .finish call => call ∈ s.calls → ∀ row ∈ s.deposit? call.vendorId,
      FitsLedger gateway s.ledger call.read row call.request
  | _ => True

/-! ## Whole paise -/

section Paise

variable {x y : Decimal} {c d e : Money}

theorem wholePaise_value (c : Money) : WholePaise c.value := c.onGrid_value

theorem paise_of_stored (hx : WholePaise x) (h : Column.ofDecimal? x = some c) :
    (c.paise : ℚ) = x * 100 := by
  rw [← Column.value_mul_hundred, Column.value_of_ofDecimal? h, toScale_of_onGrid hx]

theorem value_of_stored (hx : WholePaise x) (h : Column.ofDecimal? x = some c) : c.value = x := by
  rw [Column.value_of_ofDecimal? h, toScale_of_onGrid hx]

theorem wholePaise_max (hx : WholePaise x) (hy : WholePaise y) : WholePaise (max x y) := by
  rcases max_choice x y with h | h
  · rwa [h]
  · rwa [h]

theorem wholePaise_abs (hx : WholePaise x) : WholePaise |x| := by
  rcases abs_choice x with h | h
  · rwa [h]
  · rw [h]
    exact hx.neg

end Paise

/-! ## Writes that balance -/

/-- The amounts of a write on a row: whole paise, with a remainder and an entry that fit. -/
structure WriteBalances (row : VendorDeposit) (write : DepositWrite) : Prop where
  whole : WholePaise (write.patch.paidAmount.getD row.paidAmount.value) ∧
    WholePaise (write.patch.requiredAmount.getD row.requiredAmount.value) ∧
      WholePaise (write.patch.remainingAmount.getD row.remainingAmount.value)
  nonneg : 0 ≤ write.patch.paidAmount.getD row.paidAmount.value
  required : 0 ≤ write.patch.requiredAmount.getD row.requiredAmount.value
  remaining : write.patch.remainingAmount.getD row.remainingAmount.value =
    max 0 (write.patch.requiredAmount.getD row.requiredAmount.value -
      write.patch.paidAmount.getD row.paidAmount.value)
  entry : match write.entry with
    | none => write.patch.paidAmount.getD row.paidAmount.value = row.paidAmount.value
    | some draft => WholePaise draft.amount ∧ draft.balanceBefore = row.paidAmount.value ∧
        draft.balanceAfter = write.patch.paidAmount.getD row.paidAmount.value ∧
        draft.balanceAfter = draft.balanceBefore +
          match draft.direction with
          | .credit => draft.amount
          | .debit => -draft.amount

structure AmountsAgree (row : VendorDeposit) : Prop where
  paid : 0 ≤ row.paidAmount.value
  required : 0 ≤ row.requiredAmount.value
  remaining : row.remainingAmount.value = max 0 (row.requiredAmount.value - row.paidAmount.value)

section Writes

variable {gateway : DepositGateway} {ledger : List DepositLedgerEntry} {read row : VendorDeposit}
  {amount : Decimal} {reference idempotencyKey : String} {write : DepositWrite}

theorem writeBalances_of_status (hagree : AmountsAgree row) {patch : DepositPatch}
    (hrequired : patch.requiredAmount = none) (hpaid : patch.paidAmount = none)
    (hremaining : patch.remainingAmount = none) : WriteBalances row { patch } := by
  refine ⟨?_, ?_, ?_, ?_, ?_⟩
  · rw [hrequired, hpaid, hremaining]
    exact ⟨wholePaise_value _, wholePaise_value _, wholePaise_value _⟩
  · rw [hpaid]
    exact hagree.paid
  · rw [hrequired]
    exact hagree.required
  · rw [hrequired, hpaid, hremaining]
    exact hagree.remaining
  · exact congrArg (Option.getD · row.paidAmount.value) hpaid

theorem writeBalances_payment (hagree : AmountsAgree row) (hread : StillThere read row)
    (hamount : WholePaise amount) (hnonneg : 0 ≤ amount) {patch : DepositPatch}
    (hrequired : patch.requiredAmount = none)
    (hpaid : patch.paidAmount = some (read.paidAmount.value + amount))
    (hremaining : patch.remainingAmount =
      some (max 0 (read.requiredAmount.value - (read.paidAmount.value + amount)))) :
    WriteBalances row ⟨patch, (paymentWrite read amount reference idempotencyKey).entry⟩ := by
  obtain ⟨hrequiredRow, hpaidRow, -⟩ := hread
  have hafter : WholePaise (read.paidAmount.value + amount) := (wholePaise_value _).add hamount
  refine ⟨⟨?_, ?_, ?_⟩, ?_, ?_, ?_, hamount, congrArg Column.value hpaidRow.symm, ?_, rfl⟩
  · rw [hpaid]
    exact hafter
  · rw [hrequired]
    exact wholePaise_value _
  · rw [hremaining]
    exact wholePaise_max onGrid_zero ((wholePaise_value _).sub hafter)
  · rw [hpaid]
    exact add_nonneg (hpaidRow ▸ hagree.paid) hnonneg
  · rw [hrequired]
    exact hagree.required
  · rw [hpaid, hremaining, hrequired, Option.getD_some, Option.getD_some, Option.getD_none,
      hrequiredRow]
  · rw [hpaid]
    rfl

theorem wholePaise_missingAmount : WholePaise (missingAmount read) := by
  unfold missingAmount
  split_ifs
  · exact wholePaise_value _
  · exact (wholePaise_value _).sub (wholePaise_value _)

theorem wholePaise_of_credited {orderId : OrderId} {paymentId signature : String}
    {fetch : PaymentFetch}
    (h : verification gateway read orderId paymentId signature fetch = .credited amount) :
    WholePaise amount := by
  unfold verification at h
  split_ifs at h
  · exact Verification.credited.inj h ▸ wholePaise_missingAmount
  · split at h
    · exact Verification.credited.inj h ▸ wholePaise_missingAmount
    · cases h
    · rename_i payment
      split_ifs at h
      · exact Verification.credited.inj h ▸ wholePaise_missingAmount
      · exact Verification.credited.inj h ▸ ⟨payment.amount, by norm_num⟩

theorem writeBalances_webhook {paymentId : String} {orderId : OrderId} (hagree : AmountsAgree row)
    (hfits : FitsLedger gateway ledger read row (.webhook orderId paymentId))
    (hwrite : (DepositRequest.webhook orderId paymentId).write gateway ledger read = some write) :
    WriteBalances row write := by
  obtain rfl := Option.some_inj.mp hwrite
  obtain ⟨hrequired, hpaid⟩ := hfits
  refine ⟨⟨wholePaise_value _, wholePaise_value _, onGrid_zero⟩, ?_, hagree.required, ?_, ?_⟩
  · exact hrequired ▸ hagree.required
  · dsimp only [Option.getD_some, Option.getD_none]
    rw [hrequired, sub_self, max_self]
  · dsimp only
    by_cases hknown : ledger.any (·.reference = paymentId) = true
    · rw [if_pos hknown] at hpaid ⊢
      exact congrArg Column.value hpaid.symm
    · rw [if_neg hknown] at hpaid ⊢
      have hzero : read.paidAmount.value = 0 := by
        rw [Column.value, hpaid.2, Int.cast_zero, zero_div]
      exact ⟨wholePaise_value _, congrArg Column.value hpaid.1.symm, rfl, by
        simp only [hzero, zero_add]⟩

theorem writeBalances_release (hagree : AmountsAgree row) (hread : StillThere read row)
    (hwrite : (DepositRequest.release reference idempotencyKey).write gateway ledger read =
      some write) : WriteBalances row write := by
  obtain ⟨hrequired, hpaid, hremaining⟩ := hread
  obtain rfl := Option.some_inj.mp hwrite
  rw [← hrequired, ← hpaid, ← hremaining]
  split_ifs with hheld
  · exact ⟨⟨wholePaise_value _, wholePaise_value _, wholePaise_value _⟩, hagree.paid,
      hagree.required, hagree.remaining, onGrid_zero, rfl, rfl, by simp⟩
  · refine ⟨⟨onGrid_zero, wholePaise_value _, wholePaise_value _⟩, le_rfl, hagree.required, ?_,
      wholePaise_value _, rfl, rfl, by simp⟩
    dsimp only [Option.getD_some, Option.getD_none]
    rw [sub_zero, max_eq_right hagree.required]

theorem debitAllowed_some : debitAllowed read (some amount) = true ↔
    0 < read.paidAmount.paise ∧ 1 ≤ amount ∧ amount ≤ read.paidAmount.value := by
  simp [debitAllowed]

theorem debit_bounds {part : Option Decimal} (hallowed : debitAllowed read part = true)
    (hwhole : ∀ amount ∈ part, WholePaise amount) :
    WholePaise (part.getD read.paidAmount.value) ∧ WholePaise (leftAfter read part) ∧
      0 ≤ leftAfter read part := by
  cases part with
  | none =>
    refine ⟨wholePaise_value _, ?_, ?_⟩
    · exact (wholePaise_value _).sub (wholePaise_value _)
    · rw [leftAfter, Option.getD_none, sub_self]
  | some amount =>
    have hamount := hwhole amount rfl
    refine ⟨hamount, (wholePaise_value _).sub hamount, ?_⟩
    exact sub_nonneg.mpr (debitAllowed_some.mp hallowed).2.2

theorem writeBalances_refund {part : Option Decimal} (hagree : AmountsAgree row)
    (hread : StillThere read row) (hallowed : debitAllowed read part = true)
    (hwhole : ∀ amount ∈ part, WholePaise amount)
    (hleft : leftAfter read part ≤ read.requiredAmount.value)
    (hwrite : (DepositRequest.refund part reference idempotencyKey).write gateway ledger read =
      some write) : WriteBalances row write := by
  obtain ⟨hrequired, hpaid, -⟩ := hread
  obtain ⟨hamount, hafter, hnonneg⟩ := debit_bounds hallowed hwhole
  obtain rfl := Option.some_inj.mp hwrite
  refine ⟨⟨hafter, wholePaise_value _, (wholePaise_value _).sub hafter⟩, hnonneg,
    hagree.required, ?_, hamount, congrArg Column.value hpaid.symm, rfl, sub_eq_add_neg _ _⟩
  dsimp only [Option.getD_some, Option.getD_none]
  rw [hrequired]
  exact (max_eq_right (sub_nonneg.mpr hleft)).symm

theorem writeBalances_forfeit {part : Option Decimal} (hagree : AmountsAgree row)
    (hread : StillThere read row) (hallowed : debitAllowed read part = true)
    (hwhole : ∀ amount ∈ part, WholePaise amount)
    (hleft : read.requiredAmount.value ≤ leftAfter read part)
    (hwrite : (DepositRequest.forfeit part reference idempotencyKey).write gateway ledger read =
      some write) : WriteBalances row write := by
  obtain ⟨hrequired, hpaid, -⟩ := hread
  obtain ⟨hamount, hafter, hnonneg⟩ := debit_bounds hallowed hwhole
  obtain rfl := Option.some_inj.mp hwrite
  refine ⟨⟨hafter, wholePaise_value _, wholePaise_value _⟩, hnonneg, hagree.required, ?_, hamount,
    congrArg Column.value hpaid.symm, rfl, sub_eq_add_neg _ _⟩
  have htaken : 0 ≤ part.getD read.paidAmount.value := by
    cases part with
    | none => exact hpaid ▸ hagree.paid
    | some amount => exact zero_le_one.trans (debitAllowed_some.mp hallowed).2.1
  have hless : leftAfter read part ≤ read.paidAmount.value := sub_le_self _ htaken
  dsimp only [Option.getD_some, Option.getD_none]
  rw [hagree.remaining, hrequired, hpaid, max_eq_left (sub_nonpos.mpr (hleft.trans hless))]
  exact (max_eq_left (sub_nonpos.mpr hleft)).symm

theorem writeBalances_adjust {direction : Option LedgerDirection} {newRequired : Option Decimal}
    (hread : StillThere read row) (hamount : WholePaise amount)
    (hwhole : ∀ required ∈ newRequired, WholePaise required)
    (hafter : 0 ≤ Adjustment.balanceAfter read amount direction)
    (hnonneg : 0 ≤ Adjustment.requiredAmount read newRequired)
    (hwrite : (DepositRequest.adjust amount direction newRequired reference idempotencyKey).write
      gateway ledger read = some write) : WriteBalances row write := by
  obtain ⟨-, hpaid, -⟩ := hread
  have habs := wholePaise_abs hamount
  have hbalance : WholePaise (Adjustment.balanceAfter read amount direction) := by
    unfold Adjustment.balanceAfter
    split_ifs
    · exact (wholePaise_value _).sub habs
    · exact (wholePaise_value _).add habs
  have hrequired : WholePaise (Adjustment.requiredAmount read newRequired) := by
    cases newRequired with
    | none => exact wholePaise_value _
    | some required => exact hwhole required rfl
  obtain rfl := Option.some_inj.mp hwrite
  refine ⟨⟨hbalance, hrequired, wholePaise_max onGrid_zero (hrequired.sub hbalance)⟩, hafter,
    hnonneg, rfl, habs, congrArg Column.value hpaid.symm, rfl, ?_⟩
  dsimp only
  rw [Adjustment.balanceAfter]
  cases Adjustment.isDebit amount direction with
  | false => rfl
  | true => exact sub_eq_add_neg _ _

theorem writeBalances_of_fits {request : DepositRequest} (hagree : AmountsAgree row)
    (hchecked : Checked read request) (hfits : FitsLedger gateway ledger read row request)
    (hwrite : request.write gateway ledger read = some write) : WriteBalances row write := by
  cases request with
  | order orderId =>
    obtain rfl := Option.some_inj.mp hwrite
    exact writeBalances_of_status hagree rfl rfl rfl
  | verify orderId paymentId signature fetch =>
    simp only [DepositRequest.write] at hwrite
    cases hverified : verification gateway read orderId paymentId signature fetch with
    | refused =>
      rw [hverified] at hwrite
      cases hwrite
    | failed =>
      rw [hverified] at hwrite
      obtain rfl := Option.some_inj.mp hwrite
      exact writeBalances_of_status hagree rfl rfl rfl
    | credited amount =>
      rw [hverified] at hwrite
      obtain rfl := Option.some_inj.mp hwrite
      obtain ⟨hread, hnonneg⟩ := hfits amount hverified
      exact writeBalances_payment hagree hread (wholePaise_of_credited hverified) hnonneg rfl
        rfl
        rfl
  | webhook orderId paymentId => exact writeBalances_webhook hagree hfits hwrite
  | record amount reference idempotencyKey =>
    obtain rfl := Option.some_inj.mp hwrite
    exact writeBalances_payment hagree hfits.1 hfits.2 (le_of_lt hchecked) rfl rfl rfl
  | hold =>
    obtain rfl := Option.some_inj.mp hwrite
    exact writeBalances_of_status hagree rfl rfl rfl
  | release reference idempotencyKey => exact writeBalances_release hagree hfits hwrite
  | refund part reference idempotencyKey =>
    exact writeBalances_refund hagree hfits.1 hchecked hfits.2.1 hfits.2.2 hwrite
  | forfeit part reference idempotencyKey =>
    exact writeBalances_forfeit hagree hfits.1 hchecked hfits.2.1 hfits.2.2 hwrite
  | adjust amount direction newRequired reference idempotencyKey =>
    exact writeBalances_adjust hfits.1 hfits.2.1 hfits.2.2 hchecked.1 hchecked.2 hwrite
  | exempt isExempt =>
    obtain rfl := Option.some_inj.mp hwrite
    exact writeBalances_of_status hagree rfl rfl rfl

end Writes

/-! ## Steps -/

section Steps

variable {gateway : DepositGateway} {s s' : DepositDesk} {request : DepositRequest}
  {row row' : VendorDeposit} {write : DepositWrite} {entries : List DepositLedgerEntry}
  {vendorId : Id}

theorem Committed.entriesOf (h : Committed s request row write row' entries s') (other : Id) :
    s'.entriesOf other = s.entriesOf other ++ entries.filter (·.vendorId = other) := by
  rw [DepositDesk.entriesOf, h.ledger, List.filter_append]
  rfl

theorem setAmount_value {old new : Money} {amount : Option Decimal}
    (hwhole : WholePaise (amount.getD old.value)) (h : setAmount old amount = some new) :
    new.value = amount.getD old.value := by
  cases amount with
  | none => exact congrArg Column.value (Option.some_inj.mp h).symm
  | some amount => exact value_of_stored hwhole h

theorem remaining_iff {c d e : Money} :
    c.value = max 0 (d.value - e.value) ↔ c.paise = max 0 (d.paise - e.paise) := by
  have hsub : d.value - e.value = ((d.paise - e.paise : ℤ) : ℚ) / 100 := by
    rw [Column.value, Column.value]
    push_cast
    ring
  have hmax : max 0 (d.value - e.value) = ((max 0 (d.paise - e.paise) : ℤ) : ℚ) / 100 := by
    rw [hsub]
    rcases le_total (d.paise - e.paise) 0 with h | h
    · rw [max_eq_left h, max_eq_left (div_nonpos_of_nonpos_of_nonneg (by exact_mod_cast h)
        (by norm_num)), Int.cast_zero, zero_div]
    · rw [max_eq_right h, max_eq_right (div_nonneg (by exact_mod_cast h) (by norm_num))]
  rw [hmax, Column.value, div_left_inj' (by norm_num), Int.cast_inj]

theorem ledgerLaw_of_chain {deposit : VendorDeposit} (hnonneg : 0 ≤ deposit.paidAmount.paise)
    (hamounts : ∀ entry ∈ s.entriesOf deposit.vendorId, entry.Balances)
    (hchain : Chained (s.entriesOf deposit.vendorId) deposit.paidAmount.paise)
    (hremaining : deposit.remainingAmount.paise =
      max 0 (deposit.requiredAmount.paise - deposit.paidAmount.paise)) :
    DepositLedgerLaw s deposit := by
  refine ⟨hnonneg, ?_, hamounts, hchain, hremaining⟩
  have hclosing := Statement.Runs.closing_eq isCredit isDebit (·.amount.paise) hamounts hchain
  rwa [zero_add] at hclosing

theorem amountsAgree_of_law (hlaw : DepositLedgerLaw s row)
    (hrequired : 0 ≤ row.requiredAmount.paise) :
    AmountsAgree row :=
  ⟨Column.value_nonneg_iff.mpr hlaw.nonneg, Column.value_nonneg_iff.mpr hrequired,
    remaining_iff.mpr hlaw.remaining⟩

theorem balances_of_store {draft : EntryDraft} {entry : DepositLedgerEntry}
    (hstore : draft.store vendorId = some entry) (hamount : WholePaise draft.amount)
    (hbefore : WholePaise draft.balanceBefore) (hafter : WholePaise draft.balanceAfter)
    (hbalance : draft.balanceAfter = draft.balanceBefore +
      match draft.direction with
      | .credit => draft.amount
      | .debit => -draft.amount) : entry.Balances := by
  obtain ⟨-, hdirection, hamount', hbefore', hafter', -⟩ := store_eq_some hstore
  have hcast : (entry.balanceAfter.paise : ℚ) = entry.balanceBefore.paise +
      match draft.direction with
      | .credit => (entry.amount.paise : ℚ)
      | .debit => -(entry.amount.paise : ℚ) := by
    rw [paise_of_stored hafter hafter', paise_of_stored hbefore hbefore',
      paise_of_stored hamount hamount', hbalance]
    cases draft.direction <;> ring
  unfold DepositLedgerEntry.Balances isCredit isDebit
  rw [hdirection]
  cases hdraft : draft.direction with
  | credit =>
    rw [hdraft] at hcast
    dsimp only at hcast
    simp only [decide_true, if_true, reduceCtorEq, decide_false, Bool.false_eq_true, if_false,
      sub_zero]
    exact_mod_cast hcast
  | debit =>
    rw [hdraft] at hcast
    dsimp only at hcast
    simp only [decide_true, if_true, reduceCtorEq, decide_false, Bool.false_eq_true, if_false,
      add_zero]
    rw [sub_eq_add_neg]
    exact_mod_cast hcast

theorem ledgerLaw_of_committed (h : Committed s request row write row' entries s')
    (hlaw : DepositLedgerLaw s row) (hbalances : WriteBalances row write) :
    DepositLedgerLaw s' row' ∧ 0 ≤ row'.requiredAmount.paise := by
  obtain ⟨hrequired, hpaid, hremaining, hvendor, -⟩ := apply_values h.applied
  obtain ⟨hwholePaid, hwholeRequired, hwholeRemaining⟩ := hbalances.whole
  have hpaidValue := setAmount_value hwholePaid hpaid
  have hrequiredValue := setAmount_value hwholeRequired hrequired
  have hremainingValue := setAmount_value hwholeRemaining hremaining
  have hnonneg : 0 ≤ row'.paidAmount.paise :=
    Column.value_nonneg_iff.mp (hpaidValue ▸ hbalances.nonneg)
  have hremaining' : row'.remainingAmount.paise =
      max 0 (row'.requiredAmount.paise - row'.paidAmount.paise) := by
    rw [← remaining_iff, hremainingValue, hrequiredValue, hpaidValue]
    exact hbalances.remaining
  refine ⟨?_, Column.value_nonneg_iff.mp (hrequiredValue ▸ hbalances.required)⟩
  have hentry := hbalances.entry
  rcases entries_of_newEntries h.stored with ⟨hnone, rfl⟩ | ⟨draft, entry, hdraft, rfl, hstore⟩
  · rw [hnone] at hentry
    have hsame : row'.paidAmount.paise = row.paidAmount.paise :=
      Column.value_inj.mp (hpaidValue.trans hentry)
    refine ledgerLaw_of_chain hnonneg ?_ ?_ hremaining'
    all_goals rw [hvendor, h.entriesOf, List.filter_nil, List.append_nil]
    · exact hlaw.amounts
    · exact hsame ▸ hlaw.chain
  · rw [hdraft] at hentry
    obtain ⟨hamount, hbefore, hafter, hbalance⟩ := hentry
    obtain ⟨hown, -, -, hbeforeStored, hafterStored, -⟩ := store_eq_some hstore
    have hwholeBefore : WholePaise draft.balanceBefore := hbefore ▸ wholePaise_value _
    have hwholeAfter : WholePaise draft.balanceAfter := hafter ▸ hwholePaid
    have hstart : entry.balanceBefore.paise = row.paidAmount.paise :=
      Column.value_inj.mp ((value_of_stored hwholeBefore hbeforeStored).trans hbefore)
    have hend : entry.balanceAfter.paise = row'.paidAmount.paise :=
      Column.value_inj.mp ((value_of_stored hwholeAfter hafterStored).trans
        (hafter.trans hpaidValue.symm))
    have hentries : s'.entriesOf row'.vendorId = s.entriesOf row.vendorId ++ [entry] := by
      rw [hvendor, h.entriesOf, List.filter_singleton, hown]
      simp
    refine ledgerLaw_of_chain hnonneg ?_ ?_ hremaining'
    all_goals rw [hentries]
    · intro other hother
      rcases List.mem_append.mp hother with hold | hnew
      · exact hlaw.amounts other hold
      · rw [List.mem_singleton.mp hnew]
        exact balances_of_store hstore hamount hwholeBefore hwholeAfter hbalance
    · rw [← hend]
      exact hlaw.chain.concat hstart

/-- The law, and what it rests on. -/
structure LedgersInOrder (s : DepositDesk) : Prop where
  law : DepositLedgersLaw s
  required : ∀ vendorId, ∀ deposit ∈ s.deposit? vendorId, 0 ≤ deposit.requiredAmount.paise
  none : ∀ vendorId, s.deposit? vendorId = none → s.entriesOf vendorId = []
  checked : ∀ call ∈ s.calls, Checked call.read call.request

theorem DepositLedgerLaw.congr {deposit : VendorDeposit} (h : DepositLedgerLaw s deposit)
    (hentries : s'.entriesOf deposit.vendorId = s.entriesOf deposit.vendorId) :
    DepositLedgerLaw s' deposit := by
  obtain ⟨hnonneg, hsum, hamounts, hchain, hremaining⟩ := h
  exact ⟨hnonneg, by rwa [hentries], by rwa [hentries], by rwa [hentries], hremaining⟩

theorem LedgersInOrder.of_same (h : LedgersInOrder s) (hdeposits : s'.deposits = s.deposits)
    (hledger : s'.ledger = s.ledger)
    (hchecked : ∀ call ∈ s'.calls, Checked call.read call.request) :
    LedgersInOrder s' := by
  have hentries : ∀ vendorId, s'.entriesOf vendorId = s.entriesOf vendorId := by
    intro vendorId
    rw [DepositDesk.entriesOf, hledger]
    rfl
  have hfound : ∀ vendorId, s'.deposit? vendorId = s.deposit? vendorId := by
    intro vendorId
    rw [DepositDesk.deposit?, hdeposits]
    rfl
  refine ⟨fun vendorId deposit hdeposit => ?_, fun vendorId deposit hdeposit => ?_,
    fun vendorId hnone => ?_, hchecked⟩
  · rw [hfound] at hdeposit
    exact (h.law vendorId deposit hdeposit).congr (hentries _)
  · exact h.required vendorId deposit (hfound vendorId ▸ hdeposit)
  · rw [hentries]
    exact h.none vendorId (hfound vendorId ▸ hnone)

theorem inOrder_create (h : LedgersInOrder s) (hnone : s.deposit? vendorId = none) :
    LedgersInOrder
      { s with deposits := s.deposits ++ [DepositDesk.initial s.policy vendorId] } := by
  have hentries : s.entriesOf vendorId = [] := h.none vendorId hnone
  have hfound := deposit?_create s.policy hnone
  have hrequired : 0 ≤ (DepositDesk.initial s.policy vendorId).requiredAmount.paise := by
    unfold DepositDesk.initial
    split_ifs
    · exact s.policy.nonneg
    · exact le_rfl
  have hnew : DepositLedgerLaw s (DepositDesk.initial s.policy vendorId) := by
    refine ledgerLaw_of_chain le_rfl ?_ ?_ ?_
    · rw [show (DepositDesk.initial s.policy vendorId).vendorId = vendorId from rfl, hentries]
      exact fun _ hentry => absurd hentry List.not_mem_nil
    · rw [show (DepositDesk.initial s.policy vendorId).vendorId = vendorId from rfl, hentries]
      exact Statement.runs_nil
    · change _ = max 0 ((DepositDesk.initial s.policy vendorId).requiredAmount.paise - 0)
      rw [sub_zero, max_eq_right hrequired]
      rfl
  refine ⟨fun other deposit hdeposit => ?_, fun other deposit hdeposit => ?_,
    fun other hother => ?_, h.checked⟩
  · rw [hfound] at hdeposit
    split_ifs at hdeposit with hsame
    · obtain rfl := Option.some_inj.mp hdeposit
      exact hnew.congr rfl
    · exact (h.law other deposit hdeposit).congr rfl
  · rw [hfound] at hdeposit
    split_ifs at hdeposit with hsame
    · obtain rfl := Option.some_inj.mp hdeposit
      exact hrequired
    · exact h.required other deposit hdeposit
  · rw [hfound] at hother
    split_ifs at hother
    exact h.none other hother

theorem inOrder_start (h : LedgersInOrder s) :
    LedgersInOrder (s.start gateway vendorId request) := by
  obtain ⟨hdeposits, hledger, -⟩ := start_frame gateway s vendorId request
  exact h.of_same hdeposits hledger (checked_of_step gateway s (.start vendorId request) h.checked)

theorem inOrder_finish (h : LedgersInOrder s) {call : DepositCall} (hcall : call ∈ s.calls)
    (hfits : ∀ row ∈ s.deposit? call.vendorId,
      FitsLedger gateway s.ledger call.read row call.request) :
    LedgersInOrder (s.finish gateway call) := by
  have hchecked := checked_of_step gateway s (.finish call) h.checked
  rw [depositStep, if_pos hcall] at hchecked
  rcases finish_cases gateway s call with
    ⟨row, write, row', entries, hrow, hwrite, hcommitted⟩ | hsame
  · have hvendor := deposit?_vendorId hrow
    have hagree := amountsAgree_of_law (h.law _ row hrow) (h.required _ row hrow)
    have hbalances := writeBalances_of_fits hagree (h.checked call hcall) (hfits row hrow) hwrite
    obtain ⟨hlaw', hrequired'⟩ := ledgerLaw_of_committed hcommitted (h.law _ row hrow) hbalances
    have hown : ∀ entry ∈ entries, entry.vendorId = row.vendorId := by
      intro entry hentry
      rcases entries_of_newEntries hcommitted.stored with ⟨-, rfl⟩ | ⟨draft, new, -, rfl, hstore⟩
      · cases hentry
      · exact List.mem_singleton.mp hentry ▸ (store_eq_some hstore).1
    have hothers : ∀ other ≠ row.vendorId,
        (s.finish gateway call).entriesOf other = s.entriesOf other := by
      intro other hother
      rw [hcommitted.entriesOf, List.filter_eq_nil_iff.mpr fun entry hentry => ?_, List.append_nil]
      simpa [hown entry hentry] using hother.symm
    refine ⟨fun other deposit hdeposit => ?_, fun other deposit hdeposit => ?_,
      fun other hnone => ?_, hchecked⟩
    all_goals rw [hcommitted.deposit?] at *
    · split_ifs at hdeposit with hsame
      · obtain rfl := Option.some_inj.mp hdeposit
        exact hlaw'
      · refine (h.law other deposit hdeposit).congr (hothers _ ?_)
        rwa [deposit?_vendorId hdeposit]
    · split_ifs at hdeposit with hsame
      · obtain rfl := Option.some_inj.mp hdeposit
        exact hrequired'
      · exact h.required other deposit hdeposit
    · split_ifs at hnone with hsame
      rw [hothers other hsame]
      exact h.none other hnone
  · exact h.of_same (by rw [hsame]) (by rw [hsame]) hchecked

theorem inOrder_of_step (gateway : DepositGateway) (s : DepositDesk) (action : DepositAction)
    (h : LedgersInOrder s) (hcareful : LedgerCareful gateway s action) :
    LedgersInOrder (depositStep gateway s action) := by
  cases action with
  | create vendorId =>
    simp only [depositStep]
    split_ifs with hnone
    · exact inOrder_create h hnone
    · exact h
  | start vendorId request => exact inOrder_start h
  | finish call =>
    simp only [depositStep]
    split_ifs with hcall
    · exact inOrder_finish h hcall (hcareful hcall)
    · exact h
  | crash call =>
    exact h.of_same rfl rfl (checked_of_step gateway s (.crash call) h.checked)
  | updatePolicy policy => exact h.of_same rfl rfl h.checked

end Steps

/-! ## Runs -/

theorem inOrder_opened (policy : DepositPolicy) : LedgersInOrder (.opened policy) := by
  have hnone : ∀ vendorId, (DepositDesk.opened policy).deposit? vendorId = none := fun _ => rfl
  refine ⟨fun vendorId deposit h => ?_, fun vendorId deposit h => ?_, fun _ _ => rfl,
    fun _ hcall => absurd hcall List.not_mem_nil⟩
  all_goals
    rw [hnone] at h
    cases h

/-- In a careful run the ledger of every deposit is in order all the time. -/
theorem deposit_ledger_of_careful (gateway : DepositGateway) (policy : DepositPolicy)
    (actions : List DepositAction)
    (hcareful : Along (depositStep gateway) (LedgerCareful gateway) (.opened policy) actions) :
    Everywhere (depositStep gateway) DepositLedgersLaw (.opened policy) actions :=
  (hcareful.everywhere (inOrder_of_step gateway) (inOrder_opened policy)).mono fun _ h => h.law

def unpaidDeposit : VendorDeposit :=
  DepositDesk.initial thousandRequired "v"

theorem deposit_ledger_of_first_payment :
    Everywhere (depositStep ⟨true, fun _ _ _ => true, none⟩) DepositLedgersLaw
      (.opened thousandRequired)
      [.create "v", .start "v" (.record 100 "a" "a"),
        .finish ⟨"v", .record 100 "a" "a", unpaidDeposit⟩] := by
  refine deposit_ledger_of_careful _ _ _ ⟨trivial, trivial, fun _ row hrow => ?_, trivial⟩
  obtain rfl : unpaidDeposit = row := Option.some_inj.mp hrow
  exact ⟨⟨rfl, rfl, rfl⟩, ⟨10000, by norm_num⟩⟩

/-- Two payments are recorded that have both read the deposit before; the first one is lost. -/
theorem payment_lost :
    ¬ Everywhere (depositStep ⟨true, fun _ _ _ => true, none⟩) DepositLedgersLaw
      (.opened thousandRequired)
      [.create "v", .start "v" (.record 100 "a" "a"), .start "v" (.record 200 "b" "b"),
        .finish ⟨"v", .record 100 "a" "a", unpaidDeposit⟩,
        .finish ⟨"v", .record 200 "b" "b", unpaidDeposit⟩] := by
  intro h
  have hsum := fun deposit hdeposit => (h.last "v" deposit hdeposit).sum
  revert hsum
  decide +kernel

end CarRental.Vendors
