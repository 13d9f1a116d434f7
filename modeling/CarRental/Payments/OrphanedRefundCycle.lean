import CarRental.Payments.OrphanedRefunds
import Mathlib.Data.List.Sort

/-!
# Cycles of the orphaned refunds' reconciliation

`reconcileOrphanedRefunds` works on the fifty candidates that were updated longest ago.  It should
cancel a booking only for refunds of all that was captured, and a second cycle should find nothing
left to do.

It takes the first refund of a payment that has not failed, whatever its amount: a refund of the
deposit, or of any part, cancels the booking and marks the payment `REFUNDED`.  And a second cycle
heals what the first one has left: what came after the fifty, was too young or locked, or was not
answered for (`orphaned_refund_cycles_iff`).
-/

namespace CarRental

/-! ## A cycle -/

structure GatewayCapture where
  captured : ℤ
  refunds : List GatewayRefundItem

/-- A payment with its booking, and the time at which it was last updated. -/
structure PaymentRow where
  checkout : Checkout
  updatedAt : ℤ
deriving DecidableEq

/-- What a cycle runs with: the clock, the locks that are free and the calls that the gateway
answers. -/
structure ReconciliationCycle where
  config : PaymentConfig
  now : ℤ
  lookbackMinutes : ℕ
  lockAcquired : Id → Bool
  answers : String → Bool

namespace ReconciliationCycle

def lookbackDate (cycle : ReconciliationCycle) : ℤ := cycle.now - cycle.lookbackMinutes * 60 * 1000

/-- `fetchMultipleRefund` for the payment; `none` when the call fails. -/
def refundsList (cycle : ReconciliationCycle) (gateway : String → GatewayCapture)
    (payment : Payment) : Option (List GatewayRefundItem) :=
  payment.razorpayPaymentId.bind fun razorpayPaymentId =>
    if cycle.answers razorpayPaymentId then some (gateway razorpayPaymentId).refunds else none

def isCandidate (cycle : ReconciliationCycle) (row : PaymentRow) : Bool :=
  row.checkout.payment.any fun payment =>
    isOrphanCandidate row.checkout payment (row.updatedAt ≤ cycle.lookbackDate)

/-- The fifty of some rows that were updated longest ago. -/
def oldestFifty (rows : List PaymentRow) : List PaymentRow :=
  (rows.insertionSort fun row other => row.updatedAt ≤ other.updatedAt).take 50

def batch (cycle : ReconciliationCycle) (rows : List PaymentRow) : List PaymentRow :=
  oldestFifty (rows.filter cycle.isCandidate)

/-- The body of the loop. -/
def reconcileRow (cycle : ReconciliationCycle) (gateway : String → GatewayCapture)
    (row : PaymentRow) : PaymentRow :=
  match row.checkout.payment with
  | none => row
  | some payment =>
    let result := reconcileOrphanedRefund cycle.config row.checkout
      (row.updatedAt ≤ cycle.lookbackDate) (cycle.lockAcquired payment.id)
      (cycle.refundsList gateway payment)
    { checkout := result.1
      updatedAt := if result.2 = .healed then cycle.now else row.updatedAt }

/-- What a cycle makes of a row. -/
def afterCycle (cycle : ReconciliationCycle) (gateway : String → GatewayCapture)
    (rows : List PaymentRow) (row : PaymentRow) : PaymentRow :=
  if row ∈ cycle.batch rows then cycle.reconcileRow gateway row else row

def reconcileOrphanedRefunds (cycle : ReconciliationCycle) (gateway : String → GatewayCapture)
    (rows : List PaymentRow) : List PaymentRow :=
  rows.map (cycle.afterCycle gateway rows)

end ReconciliationCycle

/-! ## The law -/

def refundedPaise (gateway : String → GatewayCapture) (razorpayPaymentId : String) : ℤ :=
  (((gateway razorpayPaymentId).refunds.filter fun item =>
    (item.status = .processed ∨ item.status = .pending) ∧
      item.paymentId = razorpayPaymentId).map GatewayRefundItem.amount).sum

def FullyRefunded (gateway : String → GatewayCapture) (row : PaymentRow) : Prop :=
  ∃ payment ∈ row.checkout.payment, ∃ razorpayPaymentId ∈ payment.razorpayPaymentId,
    (gateway razorpayPaymentId).captured ≤ refundedPaise gateway razorpayPaymentId

def CancelsOnlyRefunded (cycle : ReconciliationCycle) (gateway : String → GatewayCapture)
    (rows : List PaymentRow) : Prop :=
  ∀ row ∈ rows, row.checkout.booking.status ≠ .cancelled →
    (cycle.afterCycle gateway rows row).checkout.booking.status = .cancelled →
      FullyRefunded gateway row

/-! ## The condition -/

/-- The ledger accepts the journal of the refund, and before it that of the payment if there is
none. -/
def journalsAccepted (s : Checkout) (payment : Payment) (refund : GatewayRefundItem) : Bool :=
  let reversal := reconcileReversalJournal s.booking s.securityDeposit payment.gatewayProvider
    ((refund.amount : ℚ) / 100) refund.id
  if hasBaselineJournal s.ledger s.booking.id then (recordJournal s.ledger reversal).isOk
  else
    match recordJournal s.ledger
        (reconciliationJournal s.booking payment s.depositAmount s.totalExpected) with
    | .ok (ledger, _) => (recordJournal ledger reversal).isOk
    | .error _ => false

/-- The gateway answers for the payment with a refund of it that can be booked. -/
def hasOrphanedRefund (cycle : ReconciliationCycle) (gateway : String → GatewayCapture)
    (s : Checkout) (payment : Payment) : Bool :=
  payment.razorpayPaymentId.any fun razorpayPaymentId =>
    cycle.answers razorpayPaymentId &&
      (validRefund razorpayPaymentId (gateway razorpayPaymentId).refunds).any fun refund =>
        decide (refund.amount ≤ payment.amount.paise) && journalsAccepted s payment refund

/-- A candidate that the cycle can lock and heal. -/
def isOrphaned (cycle : ReconciliationCycle) (gateway : String → GatewayCapture)
    (row : PaymentRow) : Bool :=
  cycle.isCandidate row && !cycle.config.useMock &&
    row.checkout.payment.any fun payment =>
      cycle.lockAcquired payment.id && hasOrphanedRefund cycle gateway row.checkout payment

/-- The first cycle comes to the row and can heal it. -/
def isHealed (cycle : ReconciliationCycle) (gateway : String → GatewayCapture)
    (rows : List PaymentRow) (row : PaymentRow) : Bool :=
  decide (row ∈ cycle.batch rows) && isOrphaned cycle gateway row

/-- What the second cycle comes to, of the rows that the first one leaves. -/
def secondBatch (first second : ReconciliationCycle) (gateway : String → GatewayCapture)
    (rows : List PaymentRow) : List PaymentRow :=
  ReconciliationCycle.oldestFifty (rows.filter fun row =>
    !isHealed first gateway rows row && second.isCandidate row)

/-- What the first cycle comes to and can heal has been refunded in full, and the second one comes
to nothing that it can heal. -/
structure CyclesInOrder (first second : ReconciliationCycle) (gateway : String → GatewayCapture)
    (rows : List PaymentRow) : Prop where
  refunded : ∀ row ∈ first.batch rows, isOrphaned first gateway row = true →
    FullyRefunded gateway row
  settled : ∀ row ∈ secondBatch first second gateway rows, isOrphaned second gateway row = false

/-! ## One row -/

section Row

variable {cycle : ReconciliationCycle} {gateway : String → GatewayCapture} {row : PaymentRow}
  {rows : List PaymentRow} {s : Checkout} {payment : Payment} {refund : GatewayRefundItem}

theorem isOk_bind_ok {ε α β : Type} (x : Except ε α) (f : α → β) :
    (x.bind fun a => .ok (f a)).isOk = x.isOk := by
  cases x <;> rfl

theorem healOrphanedRefund_isOk :
    (healOrphanedRefund s payment refund).isOk = journalsAccepted s payment refund := by
  unfold healOrphanedRefund journalsAccepted
  dsimp only
  split
  · exact isOk_bind_ok (recordJournal s.ledger _) _
  · cases recordJournal s.ledger
      (reconciliationJournal s.booking payment s.depositAmount s.totalExpected) with
    | error e => rfl
    | ok result => exact isOk_bind_ok (recordJournal result.1 _) _

theorem healOrphanedRefund_eq_ok {s' : Checkout}
    (h : healOrphanedRefund s payment refund = .ok s') :
    s'.booking.status = .cancelled ∧ ∃ payment', s'.payment = some payment' ∧
      payment'.status = .refunded := by
  have hdone : ∃ ledger, s' = { (s.setPayment { payment with
      status := .refunded
      refundStatus := refund.status.refundStatus
      razorpayRefundId := some (.issued refund.id)
      refundAmount := some refund.amount }) with
      booking := { s.booking with status := .cancelled }
      ledger } := by
    unfold healOrphanedRefund at h
    dsimp only at h
    split at h
    · obtain ⟨ledger, -, h⟩ := bind_eq_ok.mp h
      obtain ⟨result, -, h⟩ := bind_eq_ok.mp h
      exact ⟨result.1, (Except.ok.inj h).symm⟩
    · obtain ⟨ledger, -, h⟩ := bind_eq_ok.mp h
      obtain ⟨result, -, h⟩ := bind_eq_ok.mp h
      exact ⟨result.1, (Except.ok.inj h).symm⟩
  obtain ⟨ledger, rfl⟩ := hdone
  exact ⟨rfl, _, rfl, rfl⟩

theorem isOrphanCandidate_eq_true {oldEnough : Bool}
    (h : isOrphanCandidate s payment oldEnough = true) :
    payment.status = .paid ∧ s.booking.status = .confirmed := by
  simp only [isOrphanCandidate, Bool.and_eq_true, decide_eq_true_eq] at h
  exact ⟨h.1.1.1.1, h.1.2⟩

theorem reconcileOrphanedRefund_cases (config : PaymentConfig) (hpayment : s.payment = some payment)
    (oldEnough lockAcquired : Bool) (refundsList : Option (List GatewayRefundItem)) :
    let result := reconcileOrphanedRefund config s oldEnough lockAcquired refundsList
    let canHeal := isOrphanCandidate s payment oldEnough && lockAcquired && !config.useMock &&
      refundsList.any fun items => payment.razorpayPaymentId.any fun razorpayPaymentId =>
        (validRefund razorpayPaymentId items).any fun refund =>
          decide (refund.amount ≤ payment.amount.paise) && journalsAccepted s payment refund
    (canHeal = false ∧ result.1 = s ∧ result.2 ≠ .healed) ∨
      canHeal = true ∧ result.1.booking.status = .cancelled ∧
        ∃ payment', result.1.payment = some payment' ∧ payment'.status = .refunded := by
  unfold reconcileOrphanedRefund
  rw [hpayment]
  dsimp only
  cases isOrphanCandidate s payment oldEnough with
  | false => exact .inl ⟨rfl, rfl, ReconciliationOutcome.noConfusion⟩
  | true =>
    cases lockAcquired with
    | false => exact .inl ⟨rfl, rfl, ReconciliationOutcome.noConfusion⟩
    | true =>
      cases config.useMock with
      | true => exact .inl ⟨rfl, rfl, ReconciliationOutcome.noConfusion⟩
      | false =>
        cases refundsList with
        | none => exact .inl ⟨rfl, rfl, ReconciliationOutcome.noConfusion⟩
        | some items =>
          cases payment.razorpayPaymentId with
          | none => exact .inl ⟨rfl, rfl, ReconciliationOutcome.noConfusion⟩
          | some razorpayPaymentId =>
            dsimp only [Option.any]
            cases validRefund razorpayPaymentId items with
            | none => exact .inl ⟨rfl, rfl, ReconciliationOutcome.noConfusion⟩
            | some refund =>
              dsimp only
              by_cases hlarge : payment.amount.paise < refund.amount
              · rw [if_pos hlarge, decide_eq_false (not_le.mpr hlarge)]
                exact .inl ⟨rfl, rfl, ReconciliationOutcome.noConfusion⟩
              · rw [if_neg hlarge, decide_eq_true (not_lt.mp hlarge), ← healOrphanedRefund_isOk]
                cases hheal : healOrphanedRefund s payment refund with
                | error e => exact .inl ⟨rfl, rfl, ReconciliationOutcome.noConfusion⟩
                | ok s' => exact .inr ⟨rfl, healOrphanedRefund_eq_ok hheal⟩

theorem reconcileRow_cases (cycle : ReconciliationCycle) (gateway : String → GatewayCapture)
    (row : PaymentRow) :
    (isOrphaned cycle gateway row = false ∧ cycle.reconcileRow gateway row = row) ∨
      isOrphaned cycle gateway row = true ∧
        ((cycle.reconcileRow gateway row).checkout.booking.status = .cancelled ∧
          ∃ payment, (cycle.reconcileRow gateway row).checkout.payment = some payment ∧
            payment.status = .refunded) := by
  cases hpayment : row.checkout.payment with
  | none =>
    refine .inl ⟨?_, ?_⟩
    · rw [isOrphaned, ReconciliationCycle.isCandidate, hpayment]
      rfl
    · rw [ReconciliationCycle.reconcileRow, hpayment]
  | some payment =>
    have hcases := reconcileOrphanedRefund_cases cycle.config hpayment
      (row.updatedAt ≤ cycle.lookbackDate) (cycle.lockAcquired payment.id)
      (cycle.refundsList gateway payment)
    have hsame : isOrphaned cycle gateway row =
        (isOrphanCandidate row.checkout payment (row.updatedAt ≤ cycle.lookbackDate) &&
          cycle.lockAcquired payment.id && !cycle.config.useMock &&
            (cycle.refundsList gateway payment).any fun items =>
              payment.razorpayPaymentId.any fun razorpayPaymentId =>
                (validRefund razorpayPaymentId items).any fun refund =>
                  decide (refund.amount ≤ payment.amount.paise) &&
                    journalsAccepted row.checkout payment refund) := by
      rw [isOrphaned, ReconciliationCycle.isCandidate, hpayment, Option.any_some,
        Option.any_some, hasOrphanedRefund, ReconciliationCycle.refundsList]
      cases payment.razorpayPaymentId with
      | none => simp
      | some razorpayPaymentId =>
        simp only [Option.any_some, Option.bind_some]
        cases cycle.answers razorpayPaymentId <;> simp [Bool.and_assoc, Bool.and_left_comm]
    rw [hsame, ReconciliationCycle.reconcileRow, hpayment]
    dsimp only at hcases ⊢
    rcases hcases with ⟨hnot, hcheckout, houtcome⟩ | ⟨hheals, hcancelled, hrefunded⟩
    · refine .inl ⟨hnot, ?_⟩
      rw [hcheckout, if_neg houtcome]
    · exact .inr ⟨hheals, hcancelled, hrefunded⟩

theorem confirmed_of_isCandidate (h : cycle.isCandidate row = true) :
    row.checkout.booking.status = .confirmed := by
  rw [ReconciliationCycle.isCandidate, Option.any_eq_true] at h
  obtain ⟨payment, -, hcandidate⟩ := h
  exact (isOrphanCandidate_eq_true hcandidate).2

theorem not_isCandidate_of_refunded {payment : Payment} (hpayment : row.checkout.payment = some payment)
    (hstatus : payment.status = .refunded) : cycle.isCandidate row = false := by
  by_contra hcandidate
  rw [Bool.not_eq_false, ReconciliationCycle.isCandidate, hpayment, Option.any_some] at hcandidate
  cases hstatus.symm.trans (isOrphanCandidate_eq_true hcandidate).1

theorem mem_batch (h : row ∈ cycle.batch rows) : row ∈ rows ∧ cycle.isCandidate row = true := by
  have hsorted := List.mem_of_mem_take h
  exact List.mem_filter.mp (List.mem_insertionSort _ |>.mp hsorted)

theorem afterCycle_of_not_isHealed (h : isHealed cycle gateway rows row = false) :
    cycle.afterCycle gateway rows row = row := by
  rw [ReconciliationCycle.afterCycle]
  split
  next hbatch =>
    rw [isHealed, decide_eq_true hbatch, Bool.true_and] at h
    rcases reconcileRow_cases cycle gateway row with ⟨-, hsame⟩ | ⟨hheals, -⟩
    · exact hsame
    · rw [h] at hheals
      cases hheals
  · rfl

theorem afterCycle_of_isHealed (h : isHealed cycle gateway rows row = true) :
    (cycle.afterCycle gateway rows row).checkout.booking.status = .cancelled ∧
      ∃ payment, (cycle.afterCycle gateway rows row).checkout.payment = some payment ∧
        payment.status = .refunded := by
  rw [isHealed, Bool.and_eq_true, decide_eq_true_eq] at h
  rw [ReconciliationCycle.afterCycle, if_pos h.1]
  rcases reconcileRow_cases cycle gateway row with ⟨hnot, -⟩ | ⟨-, hhealed⟩
  · rw [h.2] at hnot
    cases hnot
  · exact hhealed

end Row

/-! ## One cycle -/

section Cycle

variable {cycle first second : ReconciliationCycle} {gateway : String → GatewayCapture}
  {rows : List PaymentRow}

theorem cancelsOnlyRefunded_iff :
    CancelsOnlyRefunded cycle gateway rows ↔ ∀ row ∈ cycle.batch rows,
      isOrphaned cycle gateway row = true → FullyRefunded gateway row := by
  constructor
  · intro hcancels row hbatch horphaned
    obtain ⟨hrow, hcandidate⟩ := mem_batch hbatch
    have hhealed : isHealed cycle gateway rows row = true := by
      rw [isHealed, decide_eq_true hbatch, Bool.true_and, horphaned]
    refine hcancels row hrow ?_ (afterCycle_of_isHealed hhealed).1
    rw [confirmed_of_isCandidate hcandidate]
    exact BookingStatus.noConfusion
  · intro hrefunded row _ hbefore hafter
    cases hhealed : isHealed cycle gateway rows row with
    | false =>
      rw [afterCycle_of_not_isHealed hhealed] at hafter
      exact absurd hafter hbefore
    | true =>
      rw [isHealed, Bool.and_eq_true, decide_eq_true_eq] at hhealed
      exact hrefunded row hhealed.1 hhealed.2

theorem reconcileOrphanedRefunds_eq_self_iff :
    cycle.reconcileOrphanedRefunds gateway rows = rows ↔
      ∀ row ∈ cycle.batch rows, isOrphaned cycle gateway row = false := by
  constructor
  · intro hsame row hbatch
    obtain ⟨hrow, hcandidate⟩ := mem_batch hbatch
    have hkept : cycle.afterCycle gateway rows row = row := by
      have hmap : rows.map (cycle.afterCycle gateway rows) = rows.map id :=
        hsame.trans (List.map_id rows).symm
      exact List.map_inj_left.mp hmap row hrow
    by_contra horphaned
    have hhealed : isHealed cycle gateway rows row = true := by
      rw [isHealed, decide_eq_true hbatch, Bool.true_and]
      exact Bool.not_eq_false _ ▸ horphaned
    have hcancelled := (afterCycle_of_isHealed hhealed).1
    rw [hkept, confirmed_of_isCandidate hcandidate] at hcancelled
    cases hcancelled
  · intro hnone
    have hkept : ∀ row ∈ rows, cycle.afterCycle gateway rows row = id row := by
      intro row _
      refine afterCycle_of_not_isHealed ?_
      rw [isHealed]
      by_cases hbatch : row ∈ cycle.batch rows
      · rw [hnone row hbatch, Bool.and_false]
      · rw [decide_eq_false hbatch, Bool.false_and]
    rw [ReconciliationCycle.reconcileOrphanedRefunds, List.map_congr_left hkept, List.map_id]

/-! ## The next cycle -/

theorem filter_isCandidate_afterCycle :
    (first.reconcileOrphanedRefunds gateway rows).filter second.isCandidate =
      rows.filter fun row => !isHealed first gateway rows row && second.isCandidate row := by
  have hafter : ∀ row, second.isCandidate (first.afterCycle gateway rows row) =
      (!isHealed first gateway rows row && second.isCandidate row) := by
    intro row
    cases hhealed : isHealed first gateway rows row with
    | false =>
      rw [afterCycle_of_not_isHealed hhealed]
      rfl
    | true =>
      obtain ⟨-, payment, hpayment, hstatus⟩ := afterCycle_of_isHealed hhealed
      exact not_isCandidate_of_refunded hpayment hstatus
  have hfilter : rows.filter (second.isCandidate ∘ first.afterCycle gateway rows) =
      rows.filter fun row => !isHealed first gateway rows row && second.isCandidate row :=
    List.filter_congr fun row _ => hafter row
  rw [ReconciliationCycle.reconcileOrphanedRefunds, List.filter_map, hfilter]
  have hkept : ∀ row ∈ rows.filter (fun row =>
      !isHealed first gateway rows row && second.isCandidate row),
        first.afterCycle gateway rows row = id row := by
    intro row hrow
    have hnot := (Bool.and_eq_true_iff.mp (List.mem_filter.mp hrow).2).1
    exact afterCycle_of_not_isHealed ((Bool.not_eq_true' _).mp hnot)
  rw [List.map_congr_left hkept, List.map_id]

theorem batch_afterCycle :
    second.batch (first.reconcileOrphanedRefunds gateway rows) =
      secondBatch first second gateway rows := by
  rw [ReconciliationCycle.batch, filter_isCandidate_afterCycle, secondBatch]

/-- A cycle cancels only what is refunded in full and the next one changes nothing, exactly if what
the first one comes to and can heal has been refunded in full, and the next one comes to nothing
that it can heal. -/
theorem orphaned_refund_cycles_iff (first second : ReconciliationCycle)
    (gateway : String → GatewayCapture) (rows : List PaymentRow) :
    CancelsOnlyRefunded first gateway rows ∧
        second.reconcileOrphanedRefunds gateway (first.reconcileOrphanedRefunds gateway rows) =
          first.reconcileOrphanedRefunds gateway rows ↔
      CyclesInOrder first second gateway rows := by
  rw [cancelsOnlyRefunded_iff, reconcileOrphanedRefunds_eq_self_iff, batch_afterCycle]
  exact ⟨fun h => ⟨h.1, h.2⟩, fun h => ⟨h.refunded, h.settled⟩⟩

end Cycle

/-- A cycle a day later, with every lock free and every call answered. -/
def sampleCycle : ReconciliationCycle := ⟨liveConfig, 86400000, 15, fun _ => true, fun _ => true⟩

def sampleRow : PaymentRow where
  checkout := { sampleCheckout with
    booking := { sampleBooking with status := .confirmed }
    securityDeposit := some ⟨"deposit", sampleDeposit, 0, 0, .held, some "pay", none⟩
    payment := some { samplePayment with
      razorpayPaymentId := some "pay"
      amount := sampleTotal
      status := .paid } }
  updatedAt := 0

def depositRefunded (_ : String) : GatewayCapture :=
  ⟨sampleTotal.paise, [⟨"rfnd", sampleDeposit.paise, .processed, "pay"⟩]⟩

/-- The refund of a deposit cancels the booking. -/
theorem deposit_refund_cancels :
    ¬ (CancelsOnlyRefunded sampleCycle depositRefunded [sampleRow] ∧
      sampleCycle.reconcileOrphanedRefunds depositRefunded
          (sampleCycle.reconcileOrphanedRefunds depositRefunded [sampleRow]) =
        sampleCycle.reconcileOrphanedRefunds depositRefunded [sampleRow]) := by
  rintro ⟨hcancels, -⟩
  obtain ⟨payment, hpayment, razorpayPaymentId, hid, hcovered⟩ :=
    hcancels sampleRow (List.mem_singleton_self _) (by decide) (by decide +kernel)
  cases hpayment
  cases hid
  exact absurd hcovered (by decide +kernel)

end CarRental
