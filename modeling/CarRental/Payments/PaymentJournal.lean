import CarRental.Finance.WholePaise
import CarRental.Payments.State

/-!
# The journal of a captured payment

`recordPaymentLedgerJournal` books a captured payment: the wallet and the gateway
are debited with what each paid, the vendor, the tax account and the deposit
escrow are credited with the booking's columns, and the platform gets the rest,
unless the rest is not positive.

## Strategy

The two debits add up to the captured total.  The credits add up to it exactly
when no component that is left out was negative.  The platform's component is
what the fare leaves over, so the journal is accepted exactly when the fare covers
a positive vendor's share and the tax (`paymentJournal_isOk_iff`).
-/

namespace CarRental

open DoubleEntry

/-- `adjustedPlatformFee`: the platform fee plus what the other components leave over. -/
def adjustedPlatformFee (booking : Booking) (deposit totalExpected : ℤ) : ℤ :=
  let subComponents := booking.netToVendor.paise + booking.platformFee.paise +
    booking.gstAmount.paise + deposit
  let delta := totalExpected - subComponents
  booking.platformFee.paise + delta

/-- The credit side: vendor, platform, tax and escrow. -/
def revenueLines (booking : Booking) (deposit totalExpected : ℤ) : List PaiseLine :=
  ⟨.vendorPayable, some booking.vendorId, .credit, booking.netToVendor.paise⟩ ::
    (positiveLine .platformCommissionRevenue none .credit
        (adjustedPlatformFee booking deposit totalExpected) ++
      positiveLine .taxGstLiability none .credit booking.gstAmount.paise ++
      positiveLine .customerDepositEscrow (some booking.customerId) .credit deposit)

/-- The account that holds what the gateway, or a corporate credit line, paid. -/
def clearingLine (booking : Booking) (payment : Payment) (gatewayPaid : ℤ)
    (isFullWalletOrder : Bool) : List PaiseLine :=
  let isCorporate :=
    payment.paymentMethod = some "CORPORATE_CREDIT" ∨ booking.corporateAccountId.isSome
  if isCorporate then
    positiveLine .corporateReceivable (some (booking.corporateAccountId.getD "CORPORATE")) .debit
      gatewayPaid
  else
    positiveLine .gatewayClearing
      (some (if isFullWalletOrder then "WALLET" else payment.gatewayProvider)) .debit gatewayPaid

def paymentJournalLines (booking : Booking) (payment : Payment)
    (deposit totalExpected gatewayPaid walletRequired : ℤ) (isFullWalletOrder : Bool) :
    List PaiseLine :=
  positiveLine .customerWallet (some booking.customerId) .debit walletRequired ++
    clearingLine booking payment gatewayPaid isFullWalletOrder ++
    revenueLines booking deposit totalExpected

/-- What `recordPaymentLedgerJournal` passes to `recordJournal`. -/
def paymentJournal (booking : Booking) (payment : Payment)
    (deposit totalExpected gatewayPaid walletRequired : ℤ) (isFullWalletOrder : Bool) :
    RecordJournalInput JournalKey :=
  paiseJournal (.payVerify booking.id) (some booking.vendorId)
    (paymentJournalLines booking payment deposit totalExpected gatewayPaid walletRequired
      isFullWalletOrder)

def recordPaymentLedgerJournal (s : Checkout) (payment : Payment)
    (totalExpected gatewayPaid walletRequired : ℤ) (isFullWalletOrder : Bool) :
    Except HttpError Checkout :=
  match recordJournal s.ledger (paymentJournal s.booking payment s.depositAmount totalExpected
      gatewayPaid walletRequired isFullWalletOrder) with
  | .ok (ledger, _) => .ok { s with ledger }
  | .error _ => .error (.badRequest "Ledger journal refused.")

theorem recordPaymentLedgerJournal_eq_ok {s s' : Checkout} {payment : Payment}
    {totalExpected gatewayPaid walletRequired : ℤ} {isFullWalletOrder : Bool}
    (h : recordPaymentLedgerJournal s payment totalExpected gatewayPaid walletRequired
      isFullWalletOrder = .ok s') :
    ∃ ledger receipt, recordJournal s.ledger (paymentJournal s.booking payment s.depositAmount
      totalExpected gatewayPaid walletRequired isFullWalletOrder) = .ok (ledger, receipt) ∧
      s' = { s with ledger } := by
  unfold recordPaymentLedgerJournal at h
  split at h
  next ledger receipt hrecord =>
    cases h
    exact ⟨ledger, receipt, hrecord, rfl⟩
  · cases h

theorem recordPaymentLedgerJournal_isOk {s : Checkout} {payment : Payment}
    {totalExpected gatewayPaid walletRequired : ℤ} {isFullWalletOrder : Bool} :
    (recordPaymentLedgerJournal s payment totalExpected gatewayPaid walletRequired
        isFullWalletOrder).isOk =
      (recordJournal s.ledger (paymentJournal s.booking payment s.depositAmount
        totalExpected gatewayPaid walletRequired isFullWalletOrder)).isOk := by
  unfold recordPaymentLedgerJournal
  split
  next hrecord => rw [hrecord]; rfl
  next hrecord => rw [hrecord]; rfl

/-! ## Acceptance -/

/-- A booking's fare covers the vendor's share and the tax: the vendor's share is
positive, and no discount has eaten more than the platform's part. -/
def FareCovers (booking : Booking) (deposit : ℤ) : Prop :=
  0 < booking.netToVendor.paise ∧
    booking.netToVendor.paise + booking.gstAmount.paise ≤ booking.totalFare.paise ∧
    0 ≤ booking.gstAmount.paise ∧ 0 ≤ deposit

instance (booking : Booking) (deposit : ℤ) : Decidable (FareCovers booking deposit) :=
  inferInstanceAs (Decidable (_ ∧ _))

section Acceptance

variable {booking : Booking} {payment : Payment} {deposit totalExpected gatewayPaid walletRequired : ℤ}
  {isFullWalletOrder : Bool}

theorem clearingLine_eq (booking : Booking) (payment : Payment) (gatewayPaid : ℤ)
    (isFullWalletOrder : Bool) :
    ∃ accountType entity, clearingLine booking payment gatewayPaid isFullWalletOrder =
      positiveLine accountType entity .debit gatewayPaid := by
  unfold clearingLine
  simp only
  split
  · exact ⟨_, _, rfl⟩
  · exact ⟨_, _, rfl⟩

theorem adjustedPlatformFee_eq :
    adjustedPlatformFee booking deposit totalExpected =
      totalExpected - booking.netToVendor.paise - booking.gstAmount.paise - deposit := by
  simp only [adjustedPlatformFee]
  ring

theorem paiseTotal_credit_paymentJournalLines :
    paiseTotal .credit (paymentJournalLines booking payment deposit totalExpected gatewayPaid
        walletRequired isFullWalletOrder) =
      booking.netToVendor.paise + max (adjustedPlatformFee booking deposit totalExpected) 0 +
        max booking.gstAmount.paise 0 + max deposit 0 := by
  obtain ⟨accountType, entity, hclearing⟩ :=
    clearingLine_eq booking payment gatewayPaid isFullWalletOrder
  simp only [paymentJournalLines, revenueLines, hclearing, paiseTotal_append, paiseTotal_cons,
    paiseTotal_positiveLine, if_true, reduceCtorEq, if_false]
  ring

theorem paiseTotal_debit_paymentJournalLines :
    paiseTotal .debit (paymentJournalLines booking payment deposit totalExpected gatewayPaid
        walletRequired isFullWalletOrder) = max walletRequired 0 + max gatewayPaid 0 := by
  obtain ⟨accountType, entity, hclearing⟩ :=
    clearingLine_eq booking payment gatewayPaid isFullWalletOrder
  simp only [paymentJournalLines, revenueLines, hclearing, paiseTotal_append, paiseTotal_cons,
    paiseTotal_positiveLine, if_true, reduceCtorEq, if_false]
  ring

theorem forall_paymentJournalLines {P : PaiseLine → Prop}
    (hpositive : ∀ accountType entity side paise, paise ∈ [walletRequired, gatewayPaid,
      adjustedPlatformFee booking deposit totalExpected, booking.gstAmount.paise, deposit] →
      0 < paise → P ⟨accountType, entity, side, paise⟩)
    (hvendor : P ⟨.vendorPayable, some booking.vendorId, .credit, booking.netToVendor.paise⟩) :
    ∀ line ∈ paymentJournalLines booking payment deposit totalExpected gatewayPaid
      walletRequired isFullWalletOrder, P line := by
  obtain ⟨accountType, entity, hclearing⟩ :=
    clearingLine_eq booking payment gatewayPaid isFullWalletOrder
  intro line hline
  simp only [paymentJournalLines, revenueLines, hclearing, List.mem_append, List.mem_cons] at hline
  rcases hline with (hline | hline) | rfl | (hline | hline) | hline
  · obtain ⟨rfl, h⟩ := mem_positiveLine hline
    exact hpositive _ _ _ _ (by simp) h
  · obtain ⟨rfl, h⟩ := mem_positiveLine hline
    exact hpositive _ _ _ _ (by simp) h
  · exact hvendor
  · obtain ⟨rfl, h⟩ := mem_positiveLine hline
    exact hpositive _ _ _ _ (by simp) h
  · obtain ⟨rfl, h⟩ := mem_positiveLine hline
    exact hpositive _ _ _ _ (by simp) h
  · obtain ⟨rfl, h⟩ := mem_positiveLine hline
    exact hpositive _ _ _ _ (by simp) h

theorem length_paymentJournalLines (booking : Booking) (payment : Payment)
    (deposit totalExpected gatewayPaid walletRequired : ℤ) (isFullWalletOrder : Bool) :
    (paymentJournalLines booking payment deposit totalExpected gatewayPaid walletRequired
      isFullWalletOrder).length ≤ 6 ∧
    (0 < walletRequired ∨ 0 < gatewayPaid →
      2 ≤ (paymentJournalLines booking payment deposit totalExpected gatewayPaid walletRequired
        isFullWalletOrder).length) := by
  obtain ⟨accountType, entity, hclearing⟩ :=
    clearingLine_eq booking payment gatewayPaid isFullWalletOrder
  simp only [paymentJournalLines, revenueLines, hclearing, List.length_append, List.length_cons,
    length_positiveLine]
  refine ⟨by split <;> split <;> split <;> split <;> split <;> omega, ?_⟩
  rintro (h | h)
  · simp only [h, if_true]
    omega
  · simp only [h, if_true]
    omega

theorem paymentJournalLines_of_fareCovers (payment : Payment) (isFullWalletOrder : Bool)
    (hwallet : 0 ≤ walletRequired) (hgateway : 0 ≤ gatewayPaid)
    (hsplit : gatewayPaid + walletRequired = totalExpected)
    (htotal : totalExpected = booking.totalFare.paise + deposit)
    (hcovers : FareCovers booking deposit) :
    (∀ line ∈ paymentJournalLines booking payment deposit totalExpected gatewayPaid walletRequired
        isFullWalletOrder, 0 < line.paise) ∧
      paiseTotal .debit (paymentJournalLines booking payment deposit totalExpected gatewayPaid
        walletRequired isFullWalletOrder) = totalExpected ∧
      paiseTotal .credit (paymentJournalLines booking payment deposit totalExpected gatewayPaid
        walletRequired isFullWalletOrder) = totalExpected := by
  obtain ⟨hvendor, hplatform, htax, hescrow⟩ := hcovers
  have hadjusted : adjustedPlatformFee booking deposit totalExpected =
      totalExpected - booking.netToVendor.paise - booking.gstAmount.paise - deposit :=
    adjustedPlatformFee_eq
  refine ⟨forall_paymentJournalLines (fun _ _ _ _ _ hpaise => hpaise) hvendor, ?_, ?_⟩
  · rw [paiseTotal_debit_paymentJournalLines, max_eq_left hwallet, max_eq_left hgateway]
    omega
  · rw [paiseTotal_credit_paymentJournalLines, max_eq_left (by omega), max_eq_left htax,
      max_eq_left hescrow]
    omega

theorem paymentJournal_isOk_iff {ledger : Ledger JournalKey} (payment : Payment)
    (isFullWalletOrder : Bool)
    (hfree : ∀ i, ledger.hasKey (.payVerify booking.id, i) = false)
    (hwallet : 0 ≤ walletRequired) (hgateway : 0 ≤ gatewayPaid)
    (hsplit : gatewayPaid + walletRequired = totalExpected)
    (htotal : totalExpected = booking.totalFare.paise + deposit) (hdeposit : |deposit| < 10 ^ 10) :
    (recordJournal ledger (paymentJournal booking payment deposit totalExpected gatewayPaid
        walletRequired isFullWalletOrder)).isOk ↔
      FareCovers booking deposit := by
  have hfare := abs_lt.mp booking.totalFare.inRange
  have hnet := abs_lt.mp booking.netToVendor.inRange
  have hgst := abs_lt.mp booking.gstAmount.inRange
  have hdep := abs_lt.mp hdeposit
  have hadjusted : adjustedPlatformFee booking deposit totalExpected =
      totalExpected - booking.netToVendor.paise - booking.gstAmount.paise - deposit :=
    adjustedPlatformFee_eq
  have hlength := length_paymentJournalLines booking payment deposit totalExpected gatewayPaid
    walletRequired isFullWalletOrder
  set lines := paymentJournalLines booking payment deposit totalExpected gatewayPaid walletRequired
    isFullWalletOrder with hlines
  have hfits : ∀ line ∈ lines, line.Fits := by
    refine forall_paymentJournalLines ?_ ?_
    · intro accountType entity side paise hmem hpaise
      show |paise| < 10 ^ 12
      simp only [List.mem_cons, List.not_mem_nil, or_false] at hmem
      rw [abs_lt]
      rcases hmem with rfl | rfl | rfl | rfl | rfl <;> constructor <;> omega
    · show |booking.netToVendor.paise| < 10 ^ 12
      rw [abs_lt]
      constructor <;> omega
  rw [paymentJournal, recordJournal_isOk_iff hfree (hlength.1.trans (by norm_num)) hfits]
  constructor
  · rintro ⟨-, hpositive, hbalance⟩
    have hvendor : 0 < booking.netToVendor.paise := by
      refine hpositive ⟨.vendorPayable, some booking.vendorId, .credit, booking.netToVendor.paise⟩ ?_
      simp [hlines, paymentJournalLines, revenueLines]
    rw [paiseTotal_debit_paymentJournalLines, paiseTotal_credit_paymentJournalLines,
      max_eq_left hwallet, max_eq_left hgateway] at hbalance
    -- a component that is left out was zero, or the credits exceed the total
    refine ⟨hvendor, ?_, ?_, ?_⟩ <;> omega
  · intro hcovers
    obtain ⟨hpositive, hdebit, hcredit⟩ := paymentJournalLines_of_fareCovers payment
      isFullWalletOrder hwallet hgateway hsplit htotal hcovers
    obtain ⟨hvendor, hplatform, htax, hescrow⟩ := hcovers
    refine ⟨hlength.2 ?_, hpositive, hdebit.trans hcredit.symm⟩
    omega

end Acceptance

end CarRental
