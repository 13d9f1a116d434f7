import CarRental.Bookings.RefundRecords
import CarRental.Bookings.ReversalLaw

/-!
# What a cancellation reverses

A cancellation should give back what was captured for the booking, and nothing otherwise: it
succeeds, it leaves a refund intent and a reversal journal exactly if the booking has been paid,
and the reversal takes from no account more than the booking has put there.

`executeTransition` looks at the amount of the payment, or at the fare if there is no payment,
but not at whether it was captured.  So without a capture, as soon as the policy gives anything
back, the intent violates its foreign key if there is no payment row, and is written for money that
never came if there is one.

## Strategy

The transaction is taken apart at its two journals.  The baseline is accepted if the fare covers
it; the reversal if its positive shares add up to the refund in decimal arithmetic
(`reversal_isOk_iff`).  What the journals store is
what their lines say, rounded to paise, so that the accounts are compared before the cancellation
(`postReversal_postings`).
-/

namespace CarRental

open DoubleEntry Rounding

/-! ## The law -/

/-- The gateway has the customer's money, or had it. -/
def Payment.Captured (payment : Payment) : Prop :=
  payment.status = .captured ∨ payment.status = .paid ∨ payment.status = .partiallyRefunded ∨
    payment.status = .refunded

instance (payment : Payment) : Decidable payment.Captured := inferInstanceAs (Decidable (_ ∨ _))

/-- A booking in a status that can be cancelled, with the ids of its extensions.  The intent and
the reversal are only written by a cancellation, after which the booking cannot be cancelled
again; the ledger only stores positive lines. -/
structure OpenBooking where
  checkout : Checkout
  extensions : List Id
  cancellable : BookingStatus.cancelled ∈ lifecycleMatrix checkout.booking.status
  unreversed : checkout.ledger.rowsOf (.refundIntent checkout.booking.id) = []
  unclaimed : ∀ row ∈ checkout.refunds, ∀ now, row.idempotencyKey ≠ refundIntentKey checkout now
  stored_nonneg : ∀ entry ∈ checkout.ledger.entries, 0 ≤ entry.amount.paise

namespace OpenBooking

def Captured (b : OpenBooking) : Prop := ∃ payment ∈ b.checkout.payment, payment.Captured

/-- The journals of the booking, the reversal aside. -/
def owns (b : OpenBooking) : JournalKey → Bool
  | .payVerify id | .bookingConfirm id | .reconcileRefund id _ => id = b.checkout.booking.id
  | .depositRelease id | .depositDeduct id =>
    b.checkout.securityDeposit.any fun deposit => deposit.id = id
  | .extensionVerify id => id ∈ b.extensions
  | .refundIntent _ | .payoutExec _ | .payoutReversal _ => false

def earlier (b : OpenBooking) (ledger : Ledger JournalKey) : List (Posting LedgerAccount Decimal) :=
  (ledger.entries.filter fun entry => entry.idempotencyKey.any fun key => b.owns key.1).map
    PlatformLedgerEntry.posting

def reversals (b : OpenBooking) (ledger : Ledger JournalKey) :
    List (Posting LedgerAccount Decimal) :=
  (ledger.rowsOf (.refundIntent b.checkout.booking.id)).map PlatformLedgerEntry.posting

/-- The cancellation has baseline entries to write first. -/
def NeedsBaseline (b : OpenBooking) (payment : Payment) : Prop :=
  hasBaselineJournal b.checkout.ledger b.checkout.booking.id = false ∧ payment.status = .paid

instance (b : OpenBooking) (payment : Payment) : Decidable (b.NeedsBaseline payment) :=
  inferInstanceAs (Decidable (_ ∧ _))

def baselineLines (b : OpenBooking) (payment : Payment) : List JournalEntryLineInput :=
  (reconciliationJournal b.checkout.booking payment b.checkout.depositAmount
    b.checkout.totalExpected).lines

def reversalLines (b : OpenBooking) (payment : Payment) (refundPaise : ℤ) :
    List JournalEntryLineInput :=
  CarRental.reversalLines b.checkout.booking b.checkout.securityDeposit payment.gatewayProvider
    ((refundPaise : ℚ) / 100)

/-- What the booking has posted once its baseline is guaranteed. -/
def credited (b : OpenBooking) (payment : Payment) : List (Posting LedgerAccount Decimal) :=
  b.earlier b.checkout.ledger ++
    if b.NeedsBaseline payment then
      storedPostings (some b.checkout.booking.vendorId) (b.baselineLines payment)
    else []

end OpenBooking

/-- The cancellation has succeeded, has left an intent and a reversal if and only if money was
captured, and has taken no more from an account than the booking had put there. -/
structure CancelledRightly (b : OpenBooking) (now : ℤ) (outcome : CheckoutReply BookingStatus) :
    Prop where
  succeeds : outcome.2 = .ok .cancelled ∧ outcome.1.booking.status = .cancelled
  intent : (∃ row ∈ outcome.1.refunds, row.idempotencyKey = refundIntentKey b.checkout now) ↔
    b.Captured
  reversal : b.reversals outcome.1.ledger ≠ [] ↔ b.Captured
  covered : ∀ account, accountTotal .debit account (b.reversals outcome.1.ledger) ≤
    accountTotal .credit account (b.earlier outcome.1.ledger)

/-- The refund of a payment can be booked: there is one; if the booking has no journal of the
payment yet, its fare covers the vendor's share and the tax; the positive shares of the refund add
up to it; and rounded to paise they stay within what the booking has put on their accounts. -/
structure Reversible (b : OpenBooking) (payment : Payment) (refundPaise : ℤ) : Prop where
  due : 0 < refundPaise
  baseline : b.NeedsBaseline payment → FareCovers b.checkout.booking b.checkout.depositAmount
  balanced : inputTotal .debit (b.reversalLines payment refundPaise) = (refundPaise : ℚ) / 100
  covered : ∀ account,
    accountTotal .debit account (storedPostings (some b.checkout.booking.vendorId)
        (b.reversalLines payment refundPaise)) ≤
      accountTotal .credit account (b.credited payment)

/-- A captured payment can be reversed by the refund of the policy, and without one the policy
gives nothing back. -/
structure RefundsCapture (b : OpenBooking) (terms : TripTerms) (request : CancelRequest) :
    Prop where
  captured : ∀ payment ∈ b.checkout.payment, payment.Captured →
    Reversible b payment (cancelRefund b.checkout terms request)
  uncaptured : ¬ b.Captured → cancelRefund b.checkout terms request ≤ 0

/-! ## The two journals -/

section Journals

variable {booking : Booking} {securityDeposit : Option SecurityDeposit} {payment : Payment}
  {gatewayProvider : String} {refundRupees : Decimal} {ledger : Ledger JournalKey} {deposit : ℤ}

theorem paiseTotal_revenueLines (booking : Booking) (deposit totalExpected : ℤ) :
    paiseTotal .debit (revenueLines booking deposit totalExpected) = 0 ∧
      paiseTotal .credit (revenueLines booking deposit totalExpected) =
        booking.netToVendor.paise + max (adjustedPlatformFee booking deposit totalExpected) 0 +
          max booking.gstAmount.paise 0 + max deposit 0 := by
  simp only [revenueLines, paiseTotal_append, paiseTotal_cons, paiseTotal_positiveLine, if_true,
    reduceCtorEq, if_false]
  omega

theorem mem_revenueLines {line : PaiseLine} {totalExpected : ℤ}
    (h : line ∈ revenueLines booking deposit totalExpected) :
    line.paise = booking.netToVendor.paise ∨ 0 < line.paise ∧
      line.paise ∈ [adjustedPlatformFee booking deposit totalExpected, booking.gstAmount.paise,
        deposit] := by
  simp only [revenueLines, List.mem_append, List.mem_cons] at h
  rcases h with rfl | (h | h) | h
  · exact .inl rfl
  · obtain ⟨rfl, hpos⟩ := mem_positiveLine h
    exact .inr ⟨hpos, by simp⟩
  · obtain ⟨rfl, hpos⟩ := mem_positiveLine h
    exact .inr ⟨hpos, by simp⟩
  · obtain ⟨rfl, hpos⟩ := mem_positiveLine h
    exact .inr ⟨hpos, by simp⟩

theorem reconciliationJournal_isOk_iff (payment : Payment)
    (hfree : ∀ i, ledger.hasKey (.payVerify booking.id, i) = false)
    (hdeposit : |deposit| < 10 ^ 10) :
    (recordJournal ledger (reconciliationJournal booking payment deposit
        (booking.totalFare.paise + deposit))).isOk ↔ FareCovers booking deposit := by
  have hfare := abs_lt.mp booking.totalFare.inRange
  have hnet := abs_lt.mp booking.netToVendor.inRange
  have hgst := abs_lt.mp booking.gstAmount.inRange
  have hdep := abs_lt.mp hdeposit
  set total := booking.totalFare.paise + deposit with htotal
  have hadjusted : adjustedPlatformFee booking deposit total =
      total - booking.netToVendor.paise - booking.gstAmount.paise - deposit :=
    adjustedPlatformFee_eq
  obtain ⟨hdebits, hcredits⟩ := paiseTotal_revenueLines booking deposit total
  have hfits : ∀ line ∈ (⟨.gatewayClearing, some payment.gatewayProvider, .debit, total⟩ ::
      revenueLines booking deposit total : List PaiseLine), line.Fits := by
    intro line hline
    show |line.paise| < 10 ^ 12
    rw [abs_lt]
    rcases List.mem_cons.mp hline with rfl | hline
    · constructor <;> dsimp only <;> omega
    · rcases mem_revenueLines hline with heq | ⟨-, hmem⟩
      · constructor <;> omega
      · simp only [List.mem_cons, List.not_mem_nil, or_false] at hmem
        constructor <;> omega
  have hlength : (revenueLines booking deposit total).length ≤ 4 := by
    simp only [revenueLines, List.length_cons, List.length_append, length_positiveLine]
    split <;> split <;> split <;> omega
  rw [reconciliationJournal, recordJournal_isOk_iff hfree (by simp only [List.length_cons]; omega)
    hfits, paiseTotal_cons, paiseTotal_cons, hdebits, hcredits]
  simp only [reduceCtorEq, if_true, if_false, List.forall_mem_cons, FareCovers]
  constructor
  · rintro ⟨-, ⟨hclearing, hpositive⟩, hbalance⟩
    have hvendor : 0 < booking.netToVendor.paise :=
      hpositive ⟨.vendorPayable, some booking.vendorId, .credit, booking.netToVendor.paise⟩
        (List.mem_cons_self ..)
    -- a component that is left out was zero, or the credits exceed the total
    refine ⟨hvendor, ?_, ?_, ?_⟩ <;> omega
  · rintro ⟨hvendor, hplatform, htax, hescrow⟩
    refine ⟨?_, ⟨by omega, fun line hline => ?_⟩, by omega⟩
    · simp [revenueLines]
    · rcases mem_revenueLines hline with heq | ⟨hpos, -⟩
      · omega
      · exact hpos

theorem inputTotal_credit_reversalLines (hgrid : OnGrid 2 refundRupees) (hpos : 0 < refundRupees)
    (hlt : refundRupees < 10 ^ 8) :
    inputTotal .credit (reversalLines booking securityDeposit gatewayProvider refundRupees) =
      refundRupees := by
  rw [inputTotal, reversalLines_credits, sumDigits_refund hgrid hpos hlt]

theorem le_of_mem_reversalLines {line : JournalEntryLineInput} (hpos : 0 < refundRupees)
    (hbalanced : inputTotal .debit
      (reversalLines booking securityDeposit gatewayProvider refundRupees) = refundRupees)
    (hline : line ∈ reversalLines booking securityDeposit gatewayProvider refundRupees) :
    line.amount ≤ 2 * refundRupees := by
  rcases mem_reversalLines _ _ _ _ hline with ⟨-, hpositive, hmem⟩ | ⟨-, hamount⟩
  · set kept := (reversal booking securityDeposit refundRupees).shares.filter (0 < ·) with hkept
    have hnonneg : ∀ share ∈ kept, 0 ≤ share := fun share hshare => by
      have := List.of_mem_filter hshare
      exact (of_decide_eq_true this).le
    have hlength : kept.length ≤ 4 := List.length_filter_le _ _
    have hfew : (kept.length : ℚ) * 10 ^ (1 - (Decimal.precision : ℤ)) ≤ 1 / 2 := by
      have hcast : (kept.length : ℚ) ≤ 4 := by exact_mod_cast hlength
      calc (kept.length : ℚ) * 10 ^ (1 - (Decimal.precision : ℤ))
          ≤ 4 * 10 ^ (1 - (Decimal.precision : ℤ)) :=
            mul_le_mul_of_nonneg_right hcast (zpow_pos (by norm_num) _).le
        _ ≤ 1 / 2 := by norm_num [Decimal.precision]
    have hsum := sum_le_two_mul_sumDigits hnonneg hfew
    rw [inputTotal, reversalLines_debits, ← hkept] at hbalanced
    rw [hbalanced] at hsum
    refine (List.single_le_sum hnonneg line.amount ?_).trans hsum
    exact List.mem_filter.mpr ⟨hmem, decide_eq_true hpositive⟩
  · linarith

theorem reversal_isOk_iff (hfree : ∀ i, ledger.hasKey (.refundIntent booking.id, i) = false)
    (hgrid : OnGrid 2 refundRupees) (hpos : 0 < refundRupees) (hlt : refundRupees < 10 ^ 8) :
    (recordJournal ledger
        (reversalJournal booking securityDeposit gatewayProvider refundRupees)).isOk ↔
      inputTotal .debit (reversalLines booking securityDeposit gatewayProvider refundRupees) =
        refundRupees := by
  have hcredit : inputTotal .credit
      (reversalLines booking securityDeposit gatewayProvider refundRupees) = refundRupees :=
    inputTotal_credit_reversalLines hgrid hpos hlt
  constructor
  · intro hok
    cases hrecord : recordJournal ledger
        (reversalJournal booking securityDeposit gatewayProvider refundRupees) with
    | error e =>
      rw [hrecord] at hok
      cases hok
    | ok result =>
      obtain ⟨ledger', receipt⟩ := result
      have hnew : receipt.isDuplicate = false := by
        rw [recordJournal_isDuplicate hrecord, reversalJournal, Option.bind_some,
          findKey_eq_none_of_free hfree]
        rfl
      exact (recordJournal_balanced hrecord hnew).trans hcredit
  · intro hbalanced
    have hvalid : ∀ line ∈ reversalLines booking securityDeposit gatewayProvider refundRupees,
        line.Valid := by
      intro line hline
      have hle := le_of_mem_reversalLines hpos hbalanced hline
      rcases mem_reversalLines _ _ _ _ hline with ⟨hside, hpositive, -⟩ | ⟨hside, hamount⟩
      · exact ⟨hpositive, by rw [hside]; rfl, by linarith⟩
      · exact ⟨by rw [hamount]; exact hpos, by rw [hside]; rfl, by linarith⟩
    have htwo :
        2 ≤ (reversalLines booking securityDeposit gatewayProvider refundRupees).length := by
      rw [length_reversalLines]
      rw [inputTotal, reversalLines_debits] at hbalanced
      -- a refund with no positive share would be zero
      cases hkept : (reversal booking securityDeposit refundRupees).shares.filter (0 < ·) with
      | nil =>
        rw [hkept, sumDigits_nil] at hbalanced
        linarith
      | cons share rest => simp
    exact (recordJournal_isOk_iff_totals hfree htwo hvalid).mpr (hbalanced.trans hcredit.symm)

end Journals

namespace OpenBooking

/-! ## The transaction's journals -/

section Transaction

variable {b : OpenBooking} {payment : Payment} {refundPaise : ℤ}
  {ledger ledger' : Ledger JournalKey} {input : RecordJournalInput JournalKey}
  {receipt : JournalReceipt JournalKey} {key : JournalKey}

theorem earlier_recordJournal (hkey : input.idempotencyKey = some key)
    (h : recordJournal ledger input = .ok (ledger', receipt)) (hnew : receipt.isDuplicate = false) :
    b.earlier ledger' =
      b.earlier ledger ++ if b.owns key then storedPostings input.vendorId input.lines else [] := by
  have hkeys := recordJournal_entry_key hkey h hnew
  rcases recordJournal_eq_ok h with ⟨hdup, -⟩ | ⟨-, -, -, -, hledger, -, -⟩
  · rw [hnew] at hdup
    cases hdup
  rw [hledger, earlier, List.filter_append, List.map_append]
  congr 1
  split
  next howns =>
    have hall : (receipt.entries.filter fun entry =>
        entry.idempotencyKey.any fun key => b.owns key.1) = receipt.entries := by
      refine List.filter_eq_self.mpr fun entry hentry => ?_
      obtain ⟨i, hi⟩ := hkeys entry hentry
      rw [hi]
      exact howns
    rw [hall, recordJournal_postings h hnew]
  next hothers =>
    have hnone : (receipt.entries.filter fun entry =>
        entry.idempotencyKey.any fun key => b.owns key.1) = [] := by
      refine List.filter_eq_nil_iff.mpr fun entry hentry => ?_
      obtain ⟨i, hi⟩ := hkeys entry hentry
      rw [hi]
      exact hothers
    rw [hnone, List.map_nil]

theorem reversals_recordJournal (hkey : input.idempotencyKey = some key)
    (h : recordJournal ledger input = .ok (ledger', receipt)) (hnew : receipt.isDuplicate = false) :
    b.reversals ledger' = b.reversals ledger ++
      if key = .refundIntent b.checkout.booking.id then storedPostings input.vendorId input.lines
      else [] := by
  rw [reversals, recordJournal_rowsOf hkey h, List.map_append, ← reversals]
  congr 1
  by_cases hsame : key = .refundIntent b.checkout.booking.id
  · rw [if_pos ⟨hnew, hsame.symm⟩, if_pos hsame, recordJournal_postings h hnew]
  · rw [if_neg fun h => hsame h.2.symm, if_neg hsame, List.map_nil]

theorem isDuplicate_of_free (hkey : input.idempotencyKey = some key)
    (h : recordJournal ledger input = .ok (ledger', receipt))
    (hfree : ∀ i, ledger.hasKey (key, i) = false) : receipt.isDuplicate = false := by
  rw [recordJournal_isDuplicate h, hkey, Option.bind_some, findKey_eq_none_of_free hfree]
  rfl

theorem storedPostings_reversalLines_ne_nil (b : OpenBooking) (payment : Payment)
    (refundPaise : ℤ) :
    storedPostings (some b.checkout.booking.vendorId) (b.reversalLines payment refundPaise) ≠
      [] := by
  intro hnil
  have hnone := List.filterMap_eq_nil_iff.mp (List.map_eq_nil_iff.mp hnil)
    ⟨.gatewayClearing, some payment.gatewayProvider, some .credit, (refundPaise : ℚ) / 100⟩
    (List.mem_append_right _ (List.mem_singleton_self _))
  cases hnone

theorem abs_depositAmount_lt (s : Checkout) : |s.depositAmount| < 10 ^ 10 := by
  rw [Checkout.depositAmount]
  cases s.securityDeposit with
  | none => norm_num
  | some deposit => exact deposit.amount.inRange

/-- The ledger before the reversal. -/
def withBaseline (b : OpenBooking) (payment : Payment) : Except LedgerError (Ledger JournalKey) :=
  if b.NeedsBaseline payment then
    (recordJournal b.checkout.ledger (reconciliationJournal b.checkout.booking payment
      b.checkout.depositAmount b.checkout.totalExpected)).map Prod.fst
  else .ok b.checkout.ledger

theorem payVerify_free (h : b.NeedsBaseline payment) (i : ℕ) :
    b.checkout.ledger.hasKey (.payVerify b.checkout.booking.id, i) = false := by
  refine Ledger.hasKey_of_rowsOf_eq_nil ?_ i
  have hnone := h.1
  simp only [hasBaselineJournal, Bool.or_eq_false_iff, Bool.not_eq_false', List.isEmpty_iff]
    at hnone
  exact hnone.1

theorem withBaseline_isOk_iff :
    (b.withBaseline payment).isOk ↔
      (b.NeedsBaseline payment → FareCovers b.checkout.booking b.checkout.depositAmount) := by
  unfold withBaseline
  by_cases hneeds : b.NeedsBaseline payment
  · rw [if_pos hneeds, forall_prop_of_true hneeds,
      ← reconciliationJournal_isOk_iff payment (payVerify_free hneeds)
        (abs_depositAmount_lt b.checkout)]
    rw [← Checkout.totalExpected]
    cases recordJournal b.checkout.ledger (reconciliationJournal b.checkout.booking payment
      b.checkout.depositAmount b.checkout.totalExpected) <;> rfl
  · rw [if_neg hneeds, forall_prop_of_false hneeds]
    exact iff_of_true rfl trivial

theorem withBaseline_eq_ok (h : b.withBaseline payment = .ok ledger) :
    b.earlier ledger = b.credited payment ∧ b.reversals ledger = [] := by
  have hnone : b.reversals b.checkout.ledger = [] := by
    rw [reversals, b.unreversed, List.map_nil]
  unfold withBaseline at h
  unfold credited
  split at h
  next hneeds =>
    rw [if_pos hneeds]
    cases hrecord : recordJournal b.checkout.ledger (reconciliationJournal b.checkout.booking
        payment b.checkout.depositAmount b.checkout.totalExpected) with
    | error e =>
      rw [hrecord] at h
      cases h
    | ok result =>
      obtain ⟨ledger', receipt⟩ := result
      rw [hrecord] at h
      cases h
      have hnew := isDuplicate_of_free rfl hrecord (payVerify_free hneeds)
      have howns : b.owns (.payVerify b.checkout.booking.id) = true := by simp [owns]
      rw [earlier_recordJournal rfl hrecord hnew, reversals_recordJournal rfl hrecord hnew, hnone,
        if_pos howns, if_neg (by simp)]
      exact ⟨rfl, rfl⟩
  next hneeds =>
    cases h
    rw [if_neg hneeds, List.append_nil]
    exact ⟨rfl, hnone⟩

theorem postReversal_eq (b : OpenBooking) (payment : Payment) (refundPaise : ℤ) :
    postReversal b.checkout payment refundPaise = do
      let ledger ← b.withBaseline payment
      let (ledger, _) ← recordJournal ledger (reversalJournal b.checkout.booking
        b.checkout.securityDeposit payment.gatewayProvider ((refundPaise : ℚ) / 100))
      return ledger := by
  have hneeds : (!hasBaselineJournal b.checkout.ledger b.checkout.booking.id) = true ∧
      payment.status = .paid ↔ b.NeedsBaseline payment := by
    rw [NeedsBaseline, Bool.not_eq_true']
  rw [postReversal, withBaseline]
  by_cases h : b.NeedsBaseline payment
  · rw [if_pos (hneeds.mpr h), if_pos h]
  · rw [if_neg (mt hneeds.mp h), if_neg h]

theorem postReversal_isOk_iff (hpos : 0 < refundPaise) (hlt : refundPaise < 10 ^ 10) :
    (postReversal b.checkout payment refundPaise).isOk ↔
      (b.NeedsBaseline payment → FareCovers b.checkout.booking b.checkout.depositAmount) ∧
        inputTotal .debit (b.reversalLines payment refundPaise) = (refundPaise : ℚ) / 100 := by
  have hgrid : OnGrid 2 ((refundPaise : ℚ) / 100) := ⟨refundPaise, by norm_num⟩
  have hrupees : (0 : ℚ) < (refundPaise : ℚ) / 100 := by
    have : (0 : ℚ) < refundPaise := by exact_mod_cast hpos
    positivity
  have hsmall : (refundPaise : ℚ) / 100 < 10 ^ 8 := by
    have : (refundPaise : ℚ) < 10 ^ 10 := by exact_mod_cast hlt
    linarith
  rw [postReversal_eq, ← withBaseline_isOk_iff]
  cases hbaseline : b.withBaseline payment with
  | error e => exact iff_of_false (fun h => by cases h) fun h => by cases h.1
  | ok ledger =>
    have hfree : ∀ i, ledger.hasKey (.refundIntent b.checkout.booking.id, i) = false := by
      refine Ledger.hasKey_of_rowsOf_eq_nil ?_
      exact List.map_eq_nil_iff.mp (withBaseline_eq_ok hbaseline).2
    rw [OpenBooking.reversalLines, ← reversal_isOk_iff hfree hgrid hrupees hsmall]
    dsimp only [bind, Except.bind]
    cases recordJournal ledger (reversalJournal b.checkout.booking b.checkout.securityDeposit
        payment.gatewayProvider ((refundPaise : ℚ) / 100)) with
    | error e => exact iff_of_false (fun h => by cases h) fun h => by cases h.2
    | ok result => exact iff_of_true rfl ⟨rfl, rfl⟩

theorem postReversal_eq_ok (h : postReversal b.checkout payment refundPaise = .ok ledger) :
    b.reversals ledger =
        storedPostings (some b.checkout.booking.vendorId) (b.reversalLines payment refundPaise) ∧
      b.earlier ledger = b.credited payment := by
  rw [postReversal_eq] at h
  cases hbaseline : b.withBaseline payment with
  | error e =>
    rw [hbaseline] at h
    cases h
  | ok first =>
    rw [hbaseline] at h
    dsimp only [bind, Except.bind] at h
    obtain ⟨hearlier, hnone⟩ := withBaseline_eq_ok hbaseline
    cases hrecord : recordJournal first (reversalJournal b.checkout.booking
        b.checkout.securityDeposit payment.gatewayProvider ((refundPaise : ℚ) / 100)) with
    | error e =>
      rw [hrecord] at h
      cases h
    | ok result =>
      obtain ⟨second, receipt⟩ := result
      rw [hrecord] at h
      cases h
      have hfree := Ledger.hasKey_of_rowsOf_eq_nil (List.map_eq_nil_iff.mp hnone)
      have hnew := isDuplicate_of_free rfl hrecord hfree
      rw [reversals_recordJournal rfl hrecord hnew, earlier_recordJournal rfl hrecord hnew,
        hnone, hearlier, if_pos rfl, List.nil_append]
      exact ⟨rfl, List.append_nil _⟩

end Transaction

end OpenBooking

/-! ## The refund after the commit -/

section Dispatch

variable {s : Checkout} {key : String}

theorem mem_recordRefund {payment : Payment} {refundPaise : ℤ} {requestedByUserId : Option Id}
    {refundId : GatewayRefundId} {status : RefundStatus} {row : PaymentRefund}
    (hrow : row ∈ s.refunds) :
    row ∈ (recordRefund s payment refundPaise key requestedByUserId refundId status).refunds := by
  show row ∈ if s.refunds.any (fun refund => refund.gatewayRefundId = some refundId) then s.refunds
    else s.refunds ++ [_]
  split
  · exact hrow
  · exact List.mem_append_left _ hrow

theorem refund_keeps (config : PaymentConfig) (s : Checkout) (request : RefundRequest)
    (answer : GatewayRefundAnswer) (mockId : String) :
    (refund config s request answer mockId).1.ledger = s.ledger ∧
      ∀ row ∈ s.refunds, row ∈ (refund config s request answer mockId).1.refunds := by
  unfold refund
  split
  · exact ⟨rfl, fun _ hrow => hrow⟩
  next payment hpayment =>
    split
    · exact ⟨rfl, fun _ hrow => hrow⟩
    split
    · exact ⟨rfl, fun _ hrow => hrow⟩
    split
    · exact ⟨rfl, fun _ hrow => hrow⟩
    dsimp only
    split
    · exact ⟨rfl, fun _ hrow => hrow⟩
    split
    · exact ⟨rfl, fun _ hrow => hrow⟩
    next s₁ refundId status hgateway =>
      obtain ⟨gatewayRefunds, rfl⟩ := gatewayRefund_eq_ok hgateway
      split
      · exact ⟨rfl, fun _ hrow => hrow⟩
      next s₂ hwallet =>
        obtain ⟨wallet, rfl⟩ := walletRefund_eq_ok hwallet
        exact ⟨rfl, fun row hrow => mem_recordRefund hrow⟩

theorem settle_idempotencyKey (reply : RefundReply) (row : PaymentRefund) :
    (row.settle reply).idempotencyKey = row.idempotencyKey := by
  unfold PaymentRefund.settle
  split <;> rfl

theorem markRetryable_idempotencyKey (row : PaymentRefund) :
    row.markRetryable.idempotencyKey = row.idempotencyKey := by
  unfold PaymentRefund.markRetryable
  split <;> rfl

theorem settleRefunds_keys (refunds : List PaymentRefund) (reply : RefundReply) :
    (settleRefunds refunds reply).map PaymentRefund.idempotencyKey =
      refunds.map PaymentRefund.idempotencyKey := by
  unfold settleRefunds
  dsimp only
  split
  · rw [List.map_map]
    exact List.map_congr_left fun row _ => settle_idempotencyKey reply row
  · rw [List.map_map]
    exact List.map_congr_left fun row _ => markRetryable_idempotencyKey row

theorem dispatchRefund_keeps (config : PaymentConfig) (s : Checkout) (refundPaise : ℤ)
    (answer : GatewayRefundAnswer) (mockId : String) :
    (dispatchRefund config s refundPaise answer mockId).booking = s.booking ∧
      (dispatchRefund config s refundPaise answer mockId).ledger = s.ledger ∧
      ∀ row ∈ s.refunds, ∃ kept ∈ (dispatchRefund config s refundPaise answer mockId).refunds,
        kept.idempotencyKey = row.idempotencyKey := by
  have hframe := refund_frame config s ⟨refundPaise, none, none⟩ answer mockId
  have hkeeps := refund_keeps config s ⟨refundPaise, none, none⟩ answer mockId
  cases hrefund : refund config s ⟨refundPaise, none, none⟩ answer mockId with
  | mk s' reply =>
    rw [hrefund] at hframe hkeeps
    cases reply with
    | error e =>
      rw [dispatchRefund_of_error hrefund]
      refine ⟨hframe.1, hkeeps.1, fun row hrow => ?_⟩
      exact ⟨row.markRetryable, List.mem_map_of_mem (hkeeps.2 row hrow),
        markRetryable_idempotencyKey row⟩
    | ok reply =>
      rw [dispatchRefund_of_ok hrefund]
      refine ⟨hframe.1, hkeeps.1, fun row hrow => ?_⟩
      have hkey : row.idempotencyKey ∈
          (settleRefunds s'.refunds reply).map PaymentRefund.idempotencyKey := by
        rw [settleRefunds_keys]
        exact List.mem_map_of_mem (hkeeps.2 row hrow)
      exact List.mem_map.mp hkey

end Dispatch

/-! ## When the law holds -/

section Law

variable {config : PaymentConfig} {b : OpenBooking} {terms : TripTerms} {request : CancelRequest}
  {payment : Payment}

theorem executeCancellation_open (config : PaymentConfig) (b : OpenBooking)
    (hauthorized : validateAuthorization b.checkout.booking terms.vendorUserId request.actorId
      request.actorRole = .ok ()) (answer : GatewayRefundAnswer) (mockId : String) :
    executeCancellation config terms b.checkout request answer mockId =
      match cancelTransaction b.checkout (cancelRefund b.checkout terms request) request.now with
      | .error e => (b.checkout, .error e)
      | .ok s₁ =>
        (if 0 < cancelRefund b.checkout terms request then
          dispatchRefund config s₁ (cancelRefund b.checkout terms request) answer mockId
          else s₁, .ok .cancelled) := by
  have hopen : b.checkout.booking.status ≠ .cancelled := by
    intro hclosed
    have hcancellable := b.cancellable
    rw [hclosed] at hcancellable
    cases hcancellable
  rw [executeCancellation, if_neg hopen, hauthorized]
  exact if_neg (not_not.mpr b.cancellable)

theorem accountTotal_earlier_nonneg (b : OpenBooking) (account : LedgerAccount) :
    0 ≤ accountTotal .credit account (b.earlier b.checkout.ledger) := by
  refine List.sum_nonneg fun amount hamount => ?_
  obtain ⟨posting, hposting, rfl⟩ := List.mem_map.mp hamount
  obtain ⟨entry, hentry, rfl⟩ :=
    List.mem_map.mp (List.mem_of_mem_filter (List.mem_of_mem_filter hposting))
  have hnonneg : (0 : ℚ) ≤ entry.amount.paise := by
    exact_mod_cast b.stored_nonneg entry (List.mem_of_mem_filter hentry)
  show 0 ≤ (entry.amount.paise : ℚ) / 100
  positivity

theorem cancelledRightly_of_no_refund (config : PaymentConfig)
    (hauthorized : validateAuthorization b.checkout.booking terms.vendorUserId request.actorId
      request.actorRole = .ok ()) (hnone : cancelRefund b.checkout terms request ≤ 0)
    (answer : GatewayRefundAnswer) (mockId : String) :
    CancelledRightly b request.now
        (executeCancellation config terms b.checkout request answer mockId) ↔ ¬ b.Captured := by
  rw [executeCancellation_open config b hauthorized, cancelTransaction]
  dsimp only
  rw [if_pos hnone]
  dsimp only
  rw [if_neg (not_lt.mpr hnone)]
  have hunreversed : b.reversals b.checkout.ledger = [] := by
    rw [OpenBooking.reversals, b.unreversed, List.map_nil]
  constructor
  · intro h hcaptured
    obtain ⟨row, hrow, hkey⟩ := h.intent.mpr hcaptured
    exact b.unclaimed row hrow request.now hkey
  · intro huncaptured
    constructor
    case succeeds => exact ⟨rfl, rfl⟩
    case intent =>
      refine iff_of_false ?_ huncaptured
      rintro ⟨row, hrow, hkey⟩
      exact b.unclaimed row hrow request.now hkey
    case reversal => exact iff_of_false (fun h => h hunreversed) huncaptured
    case covered =>
      intro account
      rw [hunreversed, accountTotal_nil]
      exact accountTotal_earlier_nonneg b account

theorem not_cancelledRightly_of_error {e : HttpError}
    (hauthorized : validateAuthorization b.checkout.booking terms.vendorUserId request.actorId
      request.actorRole = .ok ())
    (h : cancelTransaction b.checkout (cancelRefund b.checkout terms request) request.now =
      .error e) (answer : GatewayRefundAnswer) (mockId : String) :
    ¬ CancelledRightly b request.now
      (executeCancellation config terms b.checkout request answer mockId) := by
  rw [executeCancellation_open config b hauthorized, h]
  intro hright
  cases hright.succeeds.1

theorem cancelRefund_lt (hpayment : b.checkout.payment = some payment) :
    cancelRefund b.checkout terms request < 10 ^ 10 :=
  (cancelRefund_le terms request hpayment).trans_lt (abs_lt.mp payment.amount.inRange).2

theorem cancelTransaction_of_payment (b : OpenBooking) (hpayment : b.checkout.payment = some payment)
    {refundPaise : ℤ} (hpos : 0 < refundPaise) (now : ℤ) :
    cancelTransaction b.checkout refundPaise now =
      match postReversal b.checkout payment refundPaise with
      | .error _ => .error (.badRequest "Ledger journal refused.")
      | .ok ledger => .ok (withIntent b.checkout (refundIntentKey b.checkout now) refundPaise
          ledger) := by
  have hunclaimed : findRefund b.checkout (refundIntentKey b.checkout now) = none :=
    List.find?_eq_none.mpr fun row hrow => by simpa using b.unclaimed row hrow now
  rw [cancelTransaction]
  dsimp only
  rw [if_neg (not_le.mpr hpos), hpayment]
  dsimp only
  rw [hunclaimed, if_neg (by simp)]
  cases postReversal b.checkout payment refundPaise with
  | error e => rfl
  | ok ledger => simp only [withIntent, hpayment]

theorem cancelledRightly_of_refund (config : PaymentConfig)
    (hauthorized : validateAuthorization b.checkout.booking terms.vendorUserId request.actorId
      request.actorRole = .ok ()) (hpayment : b.checkout.payment = some payment)
    (hpos : 0 < cancelRefund b.checkout terms request) (answer : GatewayRefundAnswer)
    (mockId : String) :
    CancelledRightly b request.now
        (executeCancellation config terms b.checkout request answer mockId) ↔
      payment.Captured ∧ Reversible b payment (cancelRefund b.checkout terms request) := by
  set refundPaise := cancelRefund b.checkout terms request with hrefund
  have hcaptured : b.Captured ↔ payment.Captured := by
    simp [OpenBooking.Captured, hpayment]
  have hisOk : (postReversal b.checkout payment refundPaise).isOk ↔ _ :=
    OpenBooking.postReversal_isOk_iff hpos (cancelRefund_lt hpayment)
  have htransaction := cancelTransaction_of_payment b hpayment hpos request.now
  cases hpost : postReversal b.checkout payment refundPaise with
  | error e =>
    rw [hpost] at htransaction hisOk
    refine iff_of_false (not_cancelledRightly_of_error hauthorized htransaction answer mockId) ?_
    rintro ⟨-, hreversible⟩
    cases hisOk.mpr ⟨hreversible.baseline, hreversible.balanced⟩
  | ok ledger =>
    rw [hpost] at htransaction hisOk
    obtain ⟨hbaseline, hbalanced⟩ := hisOk.mp rfl
    obtain ⟨hreversals, hearlier⟩ := OpenBooking.postReversal_eq_ok hpost
    set s₁ := withIntent b.checkout (refundIntentKey b.checkout request.now) refundPaise ledger
      with hs₁
    obtain ⟨hbooking, hledger, hrows⟩ :=
      dispatchRefund_keeps config s₁ refundPaise answer mockId
    have hintent : ∃ row ∈ (dispatchRefund config s₁ refundPaise answer mockId).refunds,
        row.idempotencyKey = refundIntentKey b.checkout request.now :=
      hrows (refundIntent (refundIntentKey b.checkout request.now) refundPaise)
        (List.mem_append_right _ (List.mem_singleton_self _))
    have hposted : b.reversals ledger ≠ [] := by
      rw [hreversals]
      exact OpenBooking.storedPostings_reversalLines_ne_nil b payment refundPaise
    rw [executeCancellation_open config b hauthorized, ← hrefund, htransaction]
    dsimp only
    rw [if_pos hpos]
    constructor
    · intro h
      have hcovered := h.covered
      dsimp only at hcovered
      rw [hledger, show s₁.ledger = ledger from rfl, hreversals, hearlier] at hcovered
      exact ⟨hcaptured.mp (h.intent.mp hintent), hpos, hbaseline, hbalanced, hcovered⟩
    · rintro ⟨hmoney, hreversible⟩
      constructor
      case succeeds => exact ⟨rfl, congrArg Booking.status hbooking⟩
      case intent => exact iff_of_true hintent (hcaptured.mpr hmoney)
      case reversal =>
        rw [hledger]
        exact iff_of_true hposted (hcaptured.mpr hmoney)
      case covered =>
        intro account
        dsimp only
        rw [hledger, show s₁.ledger = ledger from rfl, hreversals, hearlier]
        exact hreversible.covered account

end Law

/-- The customer cancels, and the gateway pays back what it is asked for. -/
def cancelledByCustomer (b : OpenBooking) : CheckoutReply BookingStatus :=
  executeCancellation liveConfig sampleTerms b.checkout ⟨"customer", .customer, none, 0⟩
    (.issued "refund" .processed) ""

/-- The confirmed booking, paid through the gateway and not yet journalled. -/
def confirmedBooking : OpenBooking where
  checkout := cancellableCheckout
  extensions := []
  cancellable := by decide
  unreversed := rfl
  unclaimed := fun _ h => by cases h
  stored_nonneg := fun _ h => by cases h

/-- A booking that waits for its payment, with no order at the gateway yet. -/
def unorderedBooking : OpenBooking where
  checkout := { sampleCheckout with payment := none }
  extensions := []
  cancellable := by decide
  unreversed := rfl
  unclaimed := fun _ h => by cases h
  stored_nonneg := fun _ h => by cases h

def unpaidBooking : OpenBooking where
  checkout := sampleCheckout
  extensions := []
  cancellable := by decide
  unreversed := rfl
  unclaimed := fun _ h => by cases h
  stored_nonneg := fun _ h => by cases h

end CarRental
