import CarRental.Lib.Runs
import CarRental.Payments.PaymentCalls

/-!
# What stands behind a paid payment

A payment that is `PAID` should have a captured payment of the gateway or a wallet debit of the
whole total behind it, exactly one capture journal in the ledger, and a deposit that no longer
awaits its payment, however the calls that can set the status interleave.

The journal's key makes it one in any order.  But only `verifyPayment` holds the deposit, and the
enterprise reconciliation sets the status and nothing else: it takes the id that a failed payment
has left on the row for a capture.  A capture event is believed whoever has sent it.
`paid_rightly_iff` says exactly which runs keep the law.

## Strategy

Only a write can break the law, and what a write leaves is known from the row, the wallet, the
ledger and the gateway just before it (`Settled.sound_iff`).  `Consistent` is what every step
keeps: at most one journal, and calls that the gateway has told the truth.
-/

namespace CarRental

open Runs

/-! ## Journals under a key -/

section Journals

variable {κ : Type} [DecidableEq κ] {ledger ledger' : Ledger κ} {input : RecordJournalInput κ}
  {receipt : JournalReceipt κ} {key : κ}

/-- The journals under a key: each has one first line. -/
def Ledger.journalsOf (ledger : Ledger κ) (key : κ) : ℕ :=
  (ledger.rowsOf key).countP fun entry => entry.idempotencyKey = some (key, 0)

theorem Ledger.journalsOf_pos_iff : 0 < ledger.journalsOf key ↔ (ledger.findKey key).isSome := by
  rw [Ledger.journalsOf, List.countP_pos_iff, Ledger.findKey, List.find?_isSome]
  constructor
  · rintro ⟨entry, hentry, hkey⟩
    exact ⟨entry, List.mem_of_mem_filter hentry, hkey⟩
  · rintro ⟨entry, hentry, hkey⟩
    refine ⟨entry, List.mem_filter.mpr ⟨hentry, ?_⟩, hkey⟩
    simp [of_decide_eq_true hkey]

theorem countP_first (hkey : input.idempotencyKey = some key)
    (h : recordJournal ledger input = .ok (ledger', receipt)) (hnew : receipt.isDuplicate = false) :
    receipt.entries.countP (fun entry => entry.idempotencyKey = some (key, 0)) = 1 := by
  have hkeys := recordJournal_keys h hnew
  have htwo : 2 ≤ input.lines.length := by
    by_contra hlt
    rw [recordJournal, if_pos (not_le.mp hlt)] at h
    cases h
  obtain ⟨n, hn⟩ : ∃ n, input.lines.length = n + 1 := ⟨input.lines.length - 1, by omega⟩
  have hmap : receipt.entries.countP (fun entry => entry.idempotencyKey = some (key, 0)) =
      (receipt.entries.map PlatformLedgerEntry.idempotencyKey).countP
        (fun k => k = some (key, 0)) := by
    rw [List.countP_map]
    rfl
  have hrest : ((List.range' 1 n).map fun i => some (key, i)).countP
      (fun k => k = some (key, 0)) = 0 := by
    rw [List.countP_eq_zero]
    intro k hk
    obtain ⟨i, hi, rfl⟩ := List.mem_map.mp hk
    have hpos := (List.mem_range'_1.mp hi).1
    simp only [decide_eq_true_eq, Option.some.injEq, Prod.mk.injEq, not_and]
    omega
  rw [hmap, hkeys, hn, hkey, List.range'_succ]
  simp only [Option.map_some, List.map_cons, List.countP_cons, hrest, decide_true, if_true]

theorem recordJournal_journalsOf (hkey : input.idempotencyKey = some key)
    (h : recordJournal ledger input = .ok (ledger', receipt)) (hle : ledger.journalsOf key ≤ 1) :
    ledger'.journalsOf key = 1 := by
  have hrows := recordJournal_rowsOf hkey h key
  have hdup := recordJournal_isDuplicate h
  rw [hkey, Option.bind_some] at hdup
  cases hnew : receipt.isDuplicate with
  | true =>
    rw [hnew] at hdup
    have hpos := Ledger.journalsOf_pos_iff.mpr hdup.symm
    rw [Ledger.journalsOf, hrows, hnew]
    simp only [Bool.true_eq_false, false_and, if_false, List.append_nil]
    have hone : ledger.journalsOf key = 1 := by omega
    exact hone
  | false =>
    rw [hnew] at hdup
    have hzero : ledger.journalsOf key = 0 := by
      by_contra hne
      have hsome := Ledger.journalsOf_pos_iff.mp (Nat.pos_of_ne_zero hne)
      rw [hsome] at hdup
      cases hdup
    rw [Ledger.journalsOf, hrows, hnew, if_pos ⟨rfl, rfl⟩, List.countP_append,
      countP_first hkey h hnew]
    have hold : (ledger.rowsOf key).countP (fun entry => entry.idempotencyKey = some (key, 0)) =
        0 := hzero
    omega

end Journals

/-! ## The law -/

def CapturedAt (gateway : List GatewayPayment) (paymentId : String) : Prop :=
  ∃ held ∈ gateway, held.id = paymentId ∧ held.status = .captured

instance (gateway : List GatewayPayment) (paymentId : String) :
    Decidable (CapturedAt gateway paymentId) :=
  inferInstanceAs (Decidable (∃ held ∈ gateway, _ ∧ _))

def walletDebited (s : Checkout) : ℤ :=
  ((s.wallet.findEntry (checkoutDebitKey s)).map WalletLedgerEntry.amount).getD 0

def Backed (gateway : List GatewayPayment) (s : Checkout) (payment : Payment) : Prop :=
  (∃ paymentId ∈ payment.razorpayPaymentId, CapturedAt gateway paymentId) ∨
    s.totalExpected ≤ walletDebited s

def captureJournals (s : Checkout) : ℕ := s.ledger.journalsOf (.payVerify s.booking.id)

/-- No deposit awaits its payment. -/
def DepositSettled (s : Checkout) : Prop :=
  ∀ deposit ∈ s.securityDeposit, deposit.status ≠ .required

structure PaidRightly (gateway : List GatewayPayment) (s : Checkout) (payment : Payment) :
    Prop where
  backed : Backed gateway s payment
  journal : captureJournals s = 1
  deposit : DepositSettled s

def PaymentDesk.Sound (d : PaymentDesk) : Prop :=
  ∀ payment ∈ d.checkout.payment, payment.status = .paid →
    PaidRightly d.gateway d.checkout payment

/-! ## What the transactions leave -/

/-- What a transaction that sets the status leaves: the gateway's id of the payment, the wallet's
debit, one journal, and a deposit that is held or left alone. -/
structure Settled (s s' : Checkout) (paymentId : String) (debit : ℤ) (held : Bool) : Prop where
  payment : ∃ payment, s'.payment = some payment ∧ payment.status = .paid ∧
    payment.razorpayPaymentId = some paymentId
  total : s'.totalExpected = s.totalExpected
  debited : walletDebited s' = debit
  journal : captureJournals s ≤ 1 → captureJournals s' = 1
  deposit : DepositSettled s' ↔ held = true ∨ DepositSettled s

section Transactions

variable {config : PaymentConfig} {s s' : Checkout} {payment : Payment}
  {gateway : List GatewayPayment}

theorem Settled.sound_iff {paymentId : String} {debit : ℤ} {held : Bool}
    (h : Settled s s' paymentId debit held) (hone : captureJournals s ≤ 1)
    (calls : List PaymentCall) :
    PaymentDesk.Sound ⟨s', gateway, calls⟩ ↔
      (CapturedAt gateway paymentId ∨ s.totalExpected ≤ debit) ∧
        (held = true ∨ DepositSettled s) := by
  obtain ⟨payment, hpayment, hpaid, hid⟩ := h.payment
  have hbacked : Backed gateway s' payment ↔
      CapturedAt gateway paymentId ∨ s.totalExpected ≤ debit := by
    simp [Backed, hid, h.total, h.debited]
  rw [← hbacked, ← h.deposit]
  constructor
  · intro hsound
    have hrightly := hsound payment hpayment hpaid
    exact ⟨hrightly.backed, hrightly.deposit⟩
  · rintro ⟨hback, hdeposit⟩ other hother _
    rw [Option.mem_def, hpayment, Option.some.injEq] at hother
    subst hother
    exact ⟨hback, h.journal hone, hdeposit⟩

/-- The debit under the booking's key, after the wallet has paid `walletRequired`: an earlier one
stays as it is. -/
def debitAfter (s : Checkout) (walletRequired : ℤ) : ℤ :=
  ((s.wallet.findEntry (checkoutDebitKey s)).map WalletLedgerEntry.amount).getD
    (max 0 walletRequired)

theorem findEntry_append {wallet : Wallet} {key : String} {entry : WalletLedgerEntry}
    (hfree : wallet.findEntry key = none) (hkey : entry.idempotencyKey = key) :
    (wallet.entries ++ [entry]).find? (fun e => e.idempotencyKey = key) = some entry := by
  have hnone : wallet.entries.find? (fun e => e.idempotencyKey = key) = none := hfree
  rw [List.find?_append, hnone, Option.none_or]
  simp [hkey]

theorem debitWallet_findEntry {wallet wallet' : Wallet} {amount : ℤ} {type : LedgerEntryType}
    {referenceType : String} {referenceId : Option Id} {key : String}
    (h : wallet.debitWallet config amount type referenceType referenceId key = .ok wallet') :
    (wallet'.findEntry key).map WalletLedgerEntry.amount =
      some (((wallet.findEntry key).map WalletLedgerEntry.amount).getD amount) := by
  unfold Wallet.debitWallet at h
  split at h
  · cases h
  cases hfound : wallet.findEntry key with
  | some entry =>
    rw [hfound, if_pos (by rfl)] at h
    cases h
    rw [hfound]
    rfl
  | none =>
    rw [hfound, if_neg (by simp)] at h
    split at h
    · cases h
    split at h
    · cases h
    split at h
    · cases h
    cases h
    rw [Wallet.findEntry, findEntry_append hfound (by rfl)]
    rfl

theorem settleWallet_debited {walletRequired : ℤ}
    (h : settleWallet config s walletRequired = .ok s') :
    ∃ wallet, s' = { s with wallet } ∧ walletDebited s' = debitAfter s walletRequired := by
  unfold settleWallet at h
  split at h
  next hnothing =>
    cases h
    refine ⟨s.wallet, rfl, ?_⟩
    unfold walletDebited debitAfter
    rw [max_eq_left hnothing]
  next hsome =>
    split at h
    · cases h
    · split at h
      next wallet hdebit =>
        cases h
        refine ⟨wallet, rfl, ?_⟩
        have hentry := debitWallet_findEntry hdebit
        show ((wallet.findEntry (checkoutDebitKey s)).map WalletLedgerEntry.amount).getD 0 = _
        unfold checkoutDebitKey debitAfter
        rw [hentry, max_eq_right (by omega)]
        rfl
      · cases h

theorem depositSettled_map_held (s : Checkout) (paymentId : String) :
    DepositSettled (holdDeposit s paymentId) := by
  intro deposit hdeposit
  obtain ⟨old, -, rfl⟩ := Option.mem_map.mp hdeposit
  exact SecurityDepositStatus.noConfusion

theorem journal_of_record {input : RecordJournalInput JournalKey} {ledger : Ledger JournalKey}
    {receipt : JournalReceipt JournalKey}
    (hkey : input.idempotencyKey = some (.payVerify s.booking.id))
    (hrecord : recordJournal s.ledger input = .ok (ledger, receipt)) (hledger : s'.ledger = ledger)
    (hid : s'.booking.id = s.booking.id) : captureJournals s ≤ 1 → captureJournals s' = 1 := by
  intro hone
  rw [captureJournals, hledger, hid]
  exact recordJournal_journalsOf hkey hrecord hone

theorem verifyTransaction_settled {dto : VerifyPaymentDto} {gatewayPaid walletRequired : ℤ}
    (h : verifyTransaction config s payment dto gatewayPaid walletRequired = .ok s') :
    Settled s s' dto.razorpayPaymentId (debitAfter s walletRequired) true := by
  simp only [verifyTransaction, bind, bind_eq_ok] at h
  obtain ⟨s₁, hwallet, h⟩ := h
  obtain ⟨wallet, rfl, hdebited⟩ := settleWallet_debited hwallet
  split at h
  · cases h
  simp only [bind_eq_ok] at h
  obtain ⟨s₂, hjournal, hcoupon⟩ := h
  obtain ⟨ledger, receipt, hrecord, rfl⟩ := recordPaymentLedgerJournal_eq_ok hjournal
  obtain ⟨coupon, couponUsages, rfl⟩ := redeemCoupon_eq_ok hcoupon
  apply Settled.mk
  · exact ⟨_, rfl, rfl, rfl⟩
  · unfold Checkout.totalExpected
    congr 1
    exact holdDeposit_depositAmount (s := s) dto.razorpayPaymentId
  · exact hdebited
  · exact journal_of_record (by rfl) hrecord rfl rfl
  · exact iff_of_true (depositSettled_map_held s dto.razorpayPaymentId) (Or.inl rfl)

theorem captureTransaction_settled {paymentId : String}
    (h : captureTransaction s payment paymentId = .ok s') :
    Settled s s' paymentId (walletDebited s) false := by
  obtain ⟨ledger, receipt, hrecord, rfl⟩ := recordPaymentLedgerJournal_eq_ok h
  apply Settled.mk
  · exact ⟨_, rfl, rfl, rfl⟩
  · rfl
  · rfl
  · exact journal_of_record (by rfl) hrecord rfl rfl
  · exact (or_iff_right Bool.false_ne_true).symm

theorem reconcileTransaction_settled {captured : GatewayPayment}
    (h : reconcileTransaction s payment captured = .ok s') :
    Settled s s' captured.id (walletDebited s) false := by
  simp only [reconcileTransaction, bind, bind_eq_ok] at h
  obtain ⟨s₁, hcoupon, h⟩ := h
  obtain ⟨coupon, couponUsages, rfl⟩ := reconcileCoupon_eq_ok hcoupon
  split at h
  next ledger receipt hrecord =>
    cases h
    apply Settled.mk
    · exact ⟨_, rfl, rfl, rfl⟩
    · rfl
    · rfl
    · exact journal_of_record (by rfl) hrecord rfl rfl
    · exact (or_iff_right Bool.false_ne_true).symm
  · cases h

theorem commit_eq_some {fromStatus : PaymentStatus}
    {transaction : Payment → Except HttpError Checkout}
    (h : commit s fromStatus transaction = some s') : ∃ payment, transaction payment = .ok s' := by
  obtain ⟨payment, -, hcommit⟩ := Option.bind_eq_some_iff.mp h
  refine ⟨payment, ?_⟩
  cases htransaction : transaction payment with
  | error e =>
    rw [htransaction] at hcommit
    cases hcommit
  | ok s'' =>
    rw [htransaction] at hcommit
    cases hcommit
    rfl

end Transactions

/-! ## What a step leaves alone -/

/-- All that the law reads of the booking's rows. -/
structure SameBacking (s s' : Checkout) : Prop where
  payment : s'.payment = s.payment
  total : s'.totalExpected = s.totalExpected
  debited : walletDebited s' = walletDebited s
  journal : captureJournals s' = captureJournals s
  deposit : s'.securityDeposit = s.securityDeposit

theorem SameBacking.refl (s : Checkout) : SameBacking s s := ⟨rfl, rfl, rfl, rfl, rfl⟩

section Frame

variable {config : PaymentConfig} {d d' : PaymentDesk} {s s' : Checkout}
  {gateway : List GatewayPayment} {calls : List PaymentCall}

theorem PaymentDesk.Sound.of_same (h : d.Sound) (hsame : SameBacking d.checkout d'.checkout)
    (hgateway : ∀ id, CapturedAt d.gateway id → CapturedAt d'.gateway id) : d'.Sound := by
  intro payment hpayment hpaid
  rw [hsame.payment] at hpayment
  have hrightly := h payment hpayment hpaid
  apply PaidRightly.mk
  · rcases hrightly.backed with ⟨id, hid, hcaptured⟩ | hdebited
    · exact Or.inl ⟨id, hid, hgateway id hcaptured⟩
    · right
      rw [hsame.total, hsame.debited]
      exact hdebited
  · rw [hsame.journal]
    exact hrightly.journal
  · intro deposit hdeposit
    rw [hsame.deposit] at hdeposit
    exact hrightly.deposit deposit hdeposit

theorem sound_of_unpaid (h : s.paymentStatus ≠ some .paid) :
    PaymentDesk.Sound ⟨s, gateway, calls⟩ := by
  intro payment hpayment hpaid
  apply absurd _ h
  rw [Checkout.paymentStatus_eq hpayment, hpaid]

theorem capturedAt_pay (payment : GatewayPayment) {id : String} (h : CapturedAt d.gateway id) :
    CapturedAt (d.pay payment).gateway id := by
  unfold PaymentDesk.pay
  split
  · exact h
  next hopen =>
    obtain ⟨held, hheld, rfl, hcaptured⟩ := h
    refine ⟨held, List.mem_cons_of_mem _ (List.mem_filter.mpr ⟨hheld, ?_⟩), rfl, hcaptured⟩
    simp only [decide_eq_true_eq]
    intro hid
    apply hopen
    exact List.any_eq_true.mpr ⟨held, hheld, decide_eq_true ⟨hid, hcaptured⟩⟩

theorem pay_rest (d : PaymentDesk) (payment : GatewayPayment) :
    (d.pay payment).checkout = d.checkout ∧ (d.pay payment).calls = d.calls := by
  unfold PaymentDesk.pay
  split
  · exact ⟨rfl, rfl⟩
  · exact ⟨rfl, rfl⟩

theorem elsewhere_rest (d : PaymentDesk) (wallet : Wallet) (coupon : Option Coupon)
    (couponUsages : List CouponUsage) (ledger : Ledger JournalKey) :
    (d.elsewhere wallet coupon couponUsages ledger).gateway = d.gateway ∧
      (d.elsewhere wallet coupon couponUsages ledger).calls = d.calls := by
  unfold PaymentDesk.elsewhere
  split
  · exact ⟨rfl, rfl⟩
  · exact ⟨rfl, rfl⟩

theorem sameBacking_elsewhere (d : PaymentDesk) (wallet : Wallet) (coupon : Option Coupon)
    (couponUsages : List CouponUsage) (ledger : Ledger JournalKey) :
    SameBacking d.checkout (d.elsewhere wallet coupon couponUsages ledger).checkout := by
  unfold PaymentDesk.elsewhere
  split
  next hsame =>
    refine ⟨rfl, rfl, ?_, ?_, rfl⟩
    · have hkey : checkoutDebitKey
          { d.checkout with wallet, coupon, couponUsages, ledger } = checkoutDebitKey d.checkout :=
        rfl
      unfold walletDebited
      rw [hkey, hsame.1]
    · show (ledger.rowsOf _).countP _ = (d.checkout.ledger.rowsOf _).countP _
      rw [hsame.2]
  · exact SameBacking.refl _

theorem receive_gateway (d : PaymentDesk) (eventId : String) (event : WebhookEvent)
    (inserts : Bool) : (d.receive eventId event inserts).gateway = d.gateway := by
  unfold PaymentDesk.receive
  split
  · rfl
  split
  · rfl
  · rfl

theorem sameBacking_receive (d : PaymentDesk) (eventId : String) (event : WebhookEvent)
    (inserts : Bool) : SameBacking d.checkout (d.receive eventId event inserts).checkout := by
  unfold PaymentDesk.receive
  split
  · exact SameBacking.refl _
  split
  · exact SameBacking.refl _
  · exact ⟨rfl, rfl, rfl, rfl, rfl⟩

theorem answer_rest (config : PaymentConfig) (d : PaymentDesk) (i : ℕ) (reachable : Bool) :
    (d.answer config i reachable).checkout = d.checkout ∧
      (d.answer config i reachable).gateway = d.gateway := by
  unfold PaymentDesk.answer
  split
  · exact ⟨rfl, rfl⟩
  · exact ⟨rfl, rfl⟩
  · exact ⟨rfl, rfl⟩

end Frame

/-! ## Steps that fit -/

/-- What has to hold when a call writes.  A verification needs the gateway's capture or a wallet
debit that is not an earlier, smaller one; an event needs its capture, and no deposit may be due
then or when the reconciliation confirms; and the auto-heal needs all that the law asks for. -/
def PaymentCall.Fits (config : PaymentConfig) (d : PaymentDesk) (call : PaymentCall) : Prop :=
  match call with
  | .settling _ dto _ walletRequired =>
    (call.committed config d.checkout).isSome = true →
      CapturedAt d.gateway dto.razorpayPaymentId ∨
        d.checkout.totalExpected ≤ debitAfter d.checkout walletRequired
  | .capturing _ paymentId _ =>
    (call.committed config d.checkout).isSome = true →
      (CapturedAt d.gateway paymentId ∨
        d.checkout.totalExpected ≤ walletDebited d.checkout) ∧ DepositSettled d.checkout
  | .reconciling _ =>
    (call.committed config d.checkout).isSome = true → DepositSettled d.checkout
  | .healing =>
    ∀ payment ∈ d.checkout.payment, Backed d.gateway d.checkout payment ∧
      captureJournals d.checkout = 1 ∧ DepositSettled d.checkout
  | .ordering _ _ _ _ | .verifying _ _ _ | .failing _ | .marking _ _ _ | .closing _ | .auditing _
  | .listing _ => True

def DeskFits (config : PaymentConfig) (d : PaymentDesk) : DeskAction → Prop
  | .write i => ∀ call ∈ d.calls[i]?, call.Fits config d
  | .createOrder _ _ _ _ _ | .verifyPayment _ _ _ | .webhook _ _ _ | .reconcileUnconfirmed _ _
  | .runReconciliation _ _ | .gatewayAnswers _ _ | .crash _ | .gatewayPays _
  | .elsewhere _ _ _ _ => True

/-- What the gateway has told a call is so. -/
def PaymentCall.Truthful (config : PaymentConfig) (d : PaymentDesk) : PaymentCall → Prop
  | .settling _ dto _ walletRequired =>
    config.useMock = false →
      CapturedAt d.gateway dto.razorpayPaymentId ∨ walletRequired = d.checkout.totalExpected
  | .reconciling captured => CapturedAt d.gateway captured.id
  | .ordering _ _ _ _ | .verifying _ _ _ | .failing _ | .capturing _ _ _ | .marking _ _ _
  | .closing _ | .auditing _ | .listing _ | .healing => True

structure PaymentDesk.Consistent (config : PaymentConfig) (d : PaymentDesk) : Prop where
  journal : captureJournals d.checkout ≤ 1
  calls : ∀ call ∈ d.calls, call.Truthful config d

section Writes

variable {config : PaymentConfig} {d d' : PaymentDesk} {s s' : Checkout} {call : PaymentCall}
  {gateway : List GatewayPayment} {calls : List PaymentCall}

theorem settling_settled {fromStatus : PaymentStatus} {dto : VerifyPaymentDto}
    {gatewayPaid walletRequired : ℤ}
    (h : (PaymentCall.settling fromStatus dto gatewayPaid walletRequired).committed config s =
      some s') :
    Settled s s' dto.razorpayPaymentId (debitAfter s walletRequired) true := by
  obtain ⟨payment, htransaction⟩ := commit_eq_some h
  exact verifyTransaction_settled htransaction

theorem capturing_settled {fromStatus : PaymentStatus} {paymentId eventId : String}
    (h : (PaymentCall.capturing fromStatus paymentId eventId).committed config s = some s') :
    Settled s s' paymentId (walletDebited s) false := by
  obtain ⟨payment, htransaction⟩ := commit_eq_some h
  exact captureTransaction_settled htransaction

theorem reconciling_settled {captured : GatewayPayment}
    (h : (PaymentCall.reconciling captured).committed config s = some s') :
    Settled s s' captured.id (walletDebited s) false := by
  obtain ⟨payment, htransaction⟩ := commit_eq_some h
  exact reconcileTransaction_settled htransaction

theorem committed_settled (h : call.committed config s = some s') :
    ∃ paymentId debit held, Settled s s' paymentId debit held := by
  cases call with
  | settling fromStatus dto gatewayPaid walletRequired => exact ⟨_, _, _, settling_settled h⟩
  | capturing fromStatus paymentId eventId => exact ⟨_, _, _, capturing_settled h⟩
  | reconciling captured => exact ⟨_, _, _, reconciling_settled h⟩
  | ordering existing newPaymentId orderId amount => cases h
  | verifying fromStatus dto signatureValid => cases h
  | failing paymentId => cases h
  | marking failed fromStatus paymentId => cases h
  | closing eventId => cases h
  | auditing entry => cases h
  | listing orderId => cases h
  | healing => cases h

/-- A write that is no transaction leaves total, debit, ledger and deposit alone. -/
structure OnlyRow (s s' : Checkout) : Prop where
  total : s'.totalExpected = s.totalExpected
  debited : walletDebited s' = walletDebited s
  journal : captureJournals s' = captureJournals s
  deposit : s'.securityDeposit = s.securityDeposit

theorem SameBacking.onlyRow (h : SameBacking s s') : OnlyRow s s' :=
  ⟨h.total, h.debited, h.journal, h.deposit⟩

theorem onlyRow_setPayment (s : Checkout) (payment : Payment) : OnlyRow s (s.setPayment payment) :=
  ⟨rfl, rfl, rfl, rfl⟩

theorem onlyRow_markPayment (s : Checkout) (status : PaymentStatus) (paymentId : String) :
    OnlyRow s (markPayment s status paymentId) := by
  unfold markPayment
  split
  · exact (SameBacking.refl s).onlyRow
  · exact onlyRow_setPayment s _

theorem paymentStatus_markPayment {status : PaymentStatus} (hstatus : status ≠ .paid)
    (paymentId : String) : (markPayment s status paymentId).paymentStatus ≠ some .paid := by
  unfold markPayment
  split
  next hnone => simp [Checkout.paymentStatus, hnone]
  · simpa using hstatus

theorem onlyRow_writeOrder (s : Checkout) (existing : Option PaymentStatus) (newPaymentId : Id)
    (orderId : OrderId) (amount : Money) :
    OnlyRow s (writeOrder s existing newPaymentId orderId amount) := by
  unfold writeOrder
  split
  · exact (SameBacking.refl s).onlyRow
  · exact ⟨rfl, rfl, rfl, rfl⟩

theorem onlyRow_healPayment (s : Checkout) : OnlyRow s (healPayment s) := by
  unfold healPayment
  split
  · exact (SameBacking.refl s).onlyRow
  · exact onlyRow_setPayment s _

theorem write_frame (config : PaymentConfig) (s : Checkout) (call : PaymentCall) :
    (call.write config s).totalExpected = s.totalExpected ∧
      (captureJournals s ≤ 1 → captureJournals (call.write config s) ≤ 1) := by
  have hcommitted : ((call.committed config s).getD s).totalExpected = s.totalExpected ∧
      (captureJournals s ≤ 1 → captureJournals ((call.committed config s).getD s) ≤ 1) := by
    cases hcall : call.committed config s with
    | none => exact ⟨rfl, id⟩
    | some s' =>
      obtain ⟨paymentId, debit, held, hsettled⟩ := committed_settled hcall
      refine ⟨hsettled.total, fun hone => ?_⟩
      rw [Option.getD_some, hsettled.journal hone]
  have honly : ∀ s', OnlyRow s s' → s'.totalExpected = s.totalExpected ∧
      (captureJournals s ≤ 1 → captureJournals s' ≤ 1) := by
    intro s' h
    refine ⟨h.total, fun hone => ?_⟩
    rw [h.journal]
    exact hone
  cases call with
  | settling fromStatus dto gatewayPaid walletRequired => exact hcommitted
  | capturing fromStatus paymentId eventId => exact hcommitted
  | reconciling captured => exact hcommitted
  | ordering existing newPaymentId orderId amount =>
    exact honly _ (onlyRow_writeOrder s existing newPaymentId orderId amount)
  | failing paymentId => exact honly _ (onlyRow_markPayment s .failed paymentId)
  | marking failed fromStatus paymentId => exact honly _ (onlyRow_markPayment s _ paymentId)
  | closing eventId => exact honly _ ⟨rfl, rfl, rfl, rfl⟩
  | auditing entry => exact honly _ ⟨rfl, rfl, rfl, rfl⟩
  | healing => exact honly _ (onlyRow_healPayment s)
  | verifying fromStatus dto signatureValid => exact honly _ (SameBacking.refl s).onlyRow
  | listing orderId => exact honly _ (SameBacking.refl s).onlyRow

theorem sound_committed_iff (hsound : PaymentDesk.Sound ⟨s, gateway, calls⟩)
    (hone : captureJournals s ≤ 1) (calls' : List PaymentCall) {paymentId : String} {debit : ℤ}
    {held : Bool}
    (hsettled : ∀ s', call.committed config s = some s' → Settled s s' paymentId debit held) :
    PaymentDesk.Sound ⟨(call.committed config s).getD s, gateway, calls'⟩ ↔
      ((call.committed config s).isSome = true →
        (CapturedAt gateway paymentId ∨ s.totalExpected ≤ debit) ∧
          (held = true ∨ DepositSettled s)) := by
  cases hcall : call.committed config s with
  | none => exact iff_of_true hsound fun h => by cases h
  | some s' =>
    rw [Option.getD_some, (hsettled s' hcall).sound_iff hone calls']
    simp

theorem sound_healPayment_iff (calls' : List PaymentCall) :
    PaymentDesk.Sound ⟨healPayment s, gateway, calls'⟩ ↔
      ∀ payment ∈ s.payment, Backed gateway s payment ∧ captureJournals s = 1 ∧
        DepositSettled s := by
  unfold healPayment
  cases hpayment : s.payment with
  | none =>
    apply iff_of_true
    · intro payment hmem
      rw [Option.mem_def, hpayment] at hmem
      cases hmem
    · exact fun payment hmem => absurd hmem (Option.not_mem_none payment)
  | some payment =>
    constructor
    · intro hsound other hother
      cases hother
      have hrightly := hsound { payment with status := .paid } rfl rfl
      exact ⟨hrightly.backed, hrightly.journal, hrightly.deposit⟩
    · intro hfits other hother _
      cases hother
      obtain ⟨hbacked, hjournal, hdeposit⟩ := hfits payment rfl
      exact ⟨hbacked, hjournal, hdeposit⟩

theorem sound_write_iff (hsound : d.Sound) (hone : captureJournals d.checkout ≤ 1)
    (htruthful : call.Truthful config d) (calls' : List PaymentCall) :
    PaymentDesk.Sound ⟨call.write config d.checkout, d.gateway, calls'⟩ ↔ call.Fits config d := by
  have hunpaid : ∀ s', s'.paymentStatus ≠ some PaymentStatus.paid →
      (PaymentDesk.Sound ⟨s', d.gateway, calls'⟩ ↔ True) := by
    intro s' h
    exact iff_of_true (sound_of_unpaid h) trivial
  have hsame : ∀ s', SameBacking d.checkout s' →
      (PaymentDesk.Sound ⟨s', d.gateway, calls'⟩ ↔ True) := by
    intro s' h
    exact iff_of_true (hsound.of_same h fun _ => id) trivial
  cases call with
  | settling fromStatus dto gatewayPaid walletRequired =>
    apply (sound_committed_iff hsound hone calls' fun _ => settling_settled).trans
    simp [PaymentCall.Fits]
  | capturing fromStatus paymentId eventId =>
    apply (sound_committed_iff hsound hone calls' fun _ => capturing_settled).trans
    simp [PaymentCall.Fits]
  | reconciling captured =>
    have hcaptured : CapturedAt d.gateway captured.id := htruthful
    apply (sound_committed_iff hsound hone calls' fun _ => reconciling_settled).trans
    simp [PaymentCall.Fits, hcaptured]
  | ordering existing newPaymentId orderId amount =>
    show PaymentDesk.Sound ⟨writeOrder _ _ _ _ _, _, _⟩ ↔ True
    unfold writeOrder
    split
    · exact hsame _ (SameBacking.refl _)
    · apply hunpaid
      rw [Checkout.audit_paymentStatus, Checkout.setPayment_paymentStatus,
        (orderedPayment_eq _ _ _ _).1]
      decide
  | failing paymentId =>
    exact hunpaid _ (paymentStatus_markPayment (by decide) paymentId)
  | marking failed fromStatus paymentId =>
    apply hunpaid _ (paymentStatus_markPayment _ paymentId)
    cases failed <;> decide
  | closing eventId => exact hsame _ ⟨rfl, rfl, rfl, rfl, rfl⟩
  | auditing entry => exact hsame _ ⟨rfl, rfl, rfl, rfl, rfl⟩
  | healing => exact sound_healPayment_iff calls'
  | verifying fromStatus dto signatureValid => exact hsame _ (SameBacking.refl _)
  | listing orderId => exact hsame _ (SameBacking.refl _)

end Writes

/-! ## What every step keeps -/

section Steps

variable {config : PaymentConfig} {d d' : PaymentDesk} {call : PaymentCall}

theorem PaymentCall.Truthful.mono (h : call.Truthful config d)
    (htotal : d'.checkout.totalExpected = d.checkout.totalExpected)
    (hgateway : ∀ id, CapturedAt d.gateway id → CapturedAt d'.gateway id) :
    call.Truthful config d' := by
  cases call with
  | settling fromStatus dto gatewayPaid walletRequired =>
    intro hlive
    rcases h hlive with hcaptured | hwhole
    · exact Or.inl (hgateway _ hcaptured)
    · right
      rw [htotal]
      exact hwhole
  | reconciling captured => exact hgateway _ h
  | ordering existing newPaymentId orderId amount => trivial
  | verifying fromStatus dto signatureValid => trivial
  | failing paymentId => trivial
  | capturing fromStatus paymentId eventId => trivial
  | marking failed fromStatus paymentId => trivial
  | closing eventId => trivial
  | auditing entry => trivial
  | listing orderId => trivial
  | healing => trivial

theorem PaymentDesk.Consistent.of_calls (h : d.Consistent config)
    (hjournal : captureJournals d'.checkout ≤ 1)
    (htotal : d'.checkout.totalExpected = d.checkout.totalExpected)
    (hgateway : ∀ id, CapturedAt d.gateway id → CapturedAt d'.gateway id)
    (hcalls : ∀ call ∈ d'.calls, call ∈ d.calls ∨ call.Truthful config d) :
    d'.Consistent config := by
  refine ⟨hjournal, fun call hcall => ?_⟩
  rcases hcalls call hcall with hold | hnew
  · exact (h.calls call hold).mono htotal hgateway
  · exact hnew.mono htotal hgateway

theorem PaymentDesk.Consistent.addCall (h : d.Consistent config) {call : Option PaymentCall}
    (hcall : ∀ c ∈ call, c.Truthful config d) : (d.addCall call).Consistent config := by
  refine h.of_calls h.journal ?_ (fun _ hid => hid) fun c hc => ?_
  · rfl
  rcases List.mem_append.mp hc with hold | hnew
  · exact Or.inl hold
  · exact Or.inr (hcall c (Option.mem_toList.mp hnew))

theorem PaymentDesk.Consistent.replaceCall (h : d.Consistent config) (i : ℕ)
    {call : Option PaymentCall} (hcall : ∀ c ∈ call, c.Truthful config d) :
    (d.replaceCall i call).Consistent config := by
  refine h.of_calls h.journal ?_ (fun _ hid => hid) fun c hc => ?_
  · rfl
  rcases List.mem_append.mp hc with hold | hnew
  · exact Or.inl (List.mem_of_mem_eraseIdx hold)
  · exact Or.inr (hcall c (Option.mem_toList.mp hnew))

/-! ### Reads promise nothing -/

variable {s : Checkout}

theorem readOrder_truthful {customerId : Id} {useWallet : Bool} {newPaymentId : Id}
    {gatewayOrder : Option String} {nonce : String} :
    ∀ c ∈ readOrder config s customerId useWallet newPaymentId gatewayOrder nonce,
      c.Truthful config d := by
  intro c hc
  simp only [readOrder, Option.mem_def] at hc
  split at hc
  · cases hc
  split at hc
  · cases hc
  split at hc
  · cases hc
  split at hc
  · cases hc
  split at hc
  · cases hc
    trivial
  · cases hc

variable {dto : VerifyPaymentDto} {signatureValid : Bool}

theorem readVerify_truthful {customerId : Id} :
    ∀ c ∈ readVerify s customerId dto signatureValid, c.Truthful config d := by
  intro c hc
  simp only [readVerify, Option.mem_def] at hc
  split at hc
  · cases hc
  split at hc
  · cases hc
  split at hc
  · cases hc
  split at hc
  · cases hc
  split at hc
  · cases hc
  · cases hc
    trivial

theorem readEvent_truthful {eventId : String} {event : WebhookEvent} :
    ∀ c ∈ readEvent s eventId event, c.Truthful config d := by
  intro c hc
  unfold readEvent at hc
  split at hc
  · split at hc
    · cases hc
    split at hc
    · cases hc
    split at hc
    · cases hc
    split at hc
    · cases hc
      trivial
    · cases hc
      trivial
  · split at hc
    · cases hc
    split at hc
    · cases hc
    · cases hc
      trivial
  · split at hc
    · cases hc
    split at hc
    · cases hc
      trivial
    · cases hc
  all_goals cases hc

theorem readCandidate_truthful {oldEnough lockAcquired : Bool} :
    ∀ c ∈ readCandidate config s oldEnough lockAcquired, c.Truthful config d := by
  intro c hc
  simp only [readCandidate, Option.mem_def] at hc
  split at hc
  · cases hc
  split at hc
  · cases hc
  split at hc
  · cases hc
  split at hc
  · cases hc
  · obtain ⟨orderId, -, rfl⟩ := Option.map_eq_some_iff.mp hc
    trivial

theorem readHeal_truthful {autoHeal : Bool} {gatewayAmountPaise : Option ℤ} :
    ∀ c ∈ readHeal s autoHeal gatewayAmountPaise, c.Truthful config d := by
  intro c hc
  simp only [readHeal, Option.mem_def] at hc
  split at hc
  · cases hc
  split at hc
  · cases hc
    trivial
  · cases hc

/-! ### The gateway tells the truth -/

variable {reachable : Bool}

theorem settlement_settled {totalExpected gatewayPaid walletRequired : ℤ}
    (hlive : config.useMock = false)
    (h : settlement config dto signatureValid (d.fetch dto.razorpayPaymentId reachable)
      totalExpected = .settled gatewayPaid walletRequired) :
    CapturedAt d.gateway dto.razorpayPaymentId ∨ walletRequired = totalExpected := by
  unfold settlement at h
  split at h
  · cases h
    exact Or.inr rfl
  split at h
  · cases h
  rw [hlive] at h
  simp only [Bool.not_false, if_true] at h
  left
  unfold PaymentDesk.fetch at h
  split at h
  · cases h
  split at h
  next held hfound =>
    have hmem := List.mem_of_find?_eq_some hfound
    have hid : held.id = dto.razorpayPaymentId := by simpa using List.find?_some hfound
    simp only [fetchedSettlement] at h
    split at h
    · cases h
    split at h
    · cases h
    split at h
    · cases h
    · cases h
    · cases h
    · cases h
    next hcaptured => exact ⟨held, hmem, hid, hcaptured⟩
  · cases h

theorem settleCall_truthful {fromStatus : PaymentStatus} :
    ∀ c ∈ settleCall config d.checkout fromStatus dto signatureValid
      (d.fetch dto.razorpayPaymentId reachable), c.Truthful config d := by
  intro c hc
  simp only [settleCall, Option.mem_def] at hc
  split at hc
  · cases hc
  · cases hc
    trivial
  next hsettled =>
    cases hc
    intro hlive
    exact settlement_settled hlive hsettled

theorem reconcileCall_truthful {orderId : OrderId} :
    ∀ c ∈ (if reachable then reconcileCall d.checkout orderId d.gateway else none),
      c.Truthful config d := by
  intro c hc
  split at hc
  · simp only [reconcileCall, Option.mem_def] at hc
    split at hc
    · cases hc
    next captured hfound =>
      split at hc
      · cases hc
      split at hc
      · cases hc
      · cases hc
        unfold capturedPayment at hfound
        have hmem := List.mem_of_find?_eq_some hfound
        have hfits := List.find?_some hfound
        simp only [decide_eq_true_eq] at hfits
        exact ⟨captured, hmem, rfl, hfits.1⟩
  · cases hc

theorem next_truthful (hcall : call.Truthful config d) :
    ∀ c ∈ call.next config d.checkout, c.Truthful config d := by
  intro c hc
  cases call with
  | capturing fromStatus paymentId eventId =>
    obtain ⟨s', -, rfl⟩ := Option.map_eq_some_iff.mp hc
    trivial
  | marking failed fromStatus paymentId =>
    obtain ⟨payment, -, rfl⟩ := Option.map_eq_some_iff.mp hc
    trivial
  | verifying fromStatus dto signatureValid =>
    cases hc
    trivial
  | listing orderId =>
    cases hc
    trivial
  | ordering existing newPaymentId orderId amount => cases hc
  | settling fromStatus dto gatewayPaid walletRequired => cases hc
  | failing paymentId => cases hc
  | closing eventId => cases hc
  | auditing entry => cases hc
  | reconciling captured => cases hc
  | healing => cases hc

theorem PaymentDesk.Consistent.write (h : d.Consistent config) (i : ℕ) :
    (d.write config i).Consistent config := by
  unfold PaymentDesk.write
  split
  · exact h
  next call hi =>
    have htruthful := h.calls call (List.mem_of_getElem? hi)
    obtain ⟨htotal, hjournal⟩ := write_frame config d.checkout call
    refine h.of_calls (hjournal h.journal) htotal (fun _ hid => hid) fun c hc => ?_
    rcases List.mem_append.mp hc with hold | hnew
    · exact Or.inl (List.mem_of_mem_eraseIdx hold)
    · exact Or.inr (next_truthful htruthful c (Option.mem_toList.mp hnew))

theorem PaymentDesk.Consistent.answer (h : d.Consistent config) (i : ℕ) (reachable : Bool) :
    (d.answer config i reachable).Consistent config := by
  unfold PaymentDesk.answer
  split
  · exact h.replaceCall i settleCall_truthful
  · exact h.replaceCall i reconcileCall_truthful
  · exact h

theorem PaymentDesk.Consistent.receive (h : d.Consistent config) (eventId : String)
    (event : WebhookEvent) (inserts : Bool) :
    (d.receive eventId event inserts).Consistent config := by
  unfold PaymentDesk.receive
  split
  · exact h.addCall readEvent_truthful
  split
  · exact h
  · have hrecorded : PaymentDesk.Consistent config
        { d with checkout := recordEvent d.checkout eventId } := by
      refine h.of_calls h.journal ?_ (fun _ hid => hid) fun c hc => Or.inl hc
      rfl
    exact hrecorded.addCall readEvent_truthful

theorem PaymentDesk.Consistent.step (h : d.Consistent config) (action : DeskAction) :
    (callStep config d action).Consistent config := by
  cases action with
  | createOrder customerId useWallet newPaymentId gatewayOrder nonce =>
    exact h.addCall readOrder_truthful
  | verifyPayment customerId dto signatureValid => exact h.addCall readVerify_truthful
  | webhook eventId event inserts => exact h.receive eventId event inserts
  | reconcileUnconfirmed oldEnough lockAcquired => exact h.addCall readCandidate_truthful
  | runReconciliation autoHeal gatewayAmountPaise => exact h.addCall readHeal_truthful
  | gatewayAnswers i reachable => exact h.answer i reachable
  | write i => exact h.write i
  | crash i => exact h.replaceCall i fun c hc => absurd hc (Option.not_mem_none c)
  | gatewayPays payment =>
    obtain ⟨hcheckout, hcalls⟩ := pay_rest d payment
    apply h.of_calls
    · rw [callStep, hcheckout]
      exact h.journal
    · rw [callStep, hcheckout]
    · exact fun _ => capturedAt_pay payment
    · intro c hc
      rw [callStep, hcalls] at hc
      exact Or.inl hc
  | elsewhere wallet coupon couponUsages ledger =>
    have hsame := sameBacking_elsewhere d wallet coupon couponUsages ledger
    obtain ⟨hgateway, hcalls⟩ := elsewhere_rest d wallet coupon couponUsages ledger
    apply h.of_calls
    · rw [callStep, hsame.journal]
      exact h.journal
    · exact hsame.total
    · intro id hid
      rw [callStep, hgateway]
      exact hid
    · intro c hc
      rw [callStep, hcalls] at hc
      exact Or.inl hc

theorem sound_step_iff (h : d.Consistent config) (hsound : d.Sound) (action : DeskAction) :
    (callStep config d action).Sound ↔ DeskFits config d action := by
  have hkept : ∀ d' : PaymentDesk, SameBacking d.checkout d'.checkout →
      (∀ id, CapturedAt d.gateway id → CapturedAt d'.gateway id) → (d'.Sound ↔ True) := by
    intro d' hsame hgateway
    exact iff_of_true (hsound.of_same hsame hgateway) trivial
  have hsame : SameBacking d.checkout d.checkout := SameBacking.refl _
  cases action with
  | createOrder customerId useWallet newPaymentId gatewayOrder nonce =>
    exact hkept (d.addCall _) hsame fun _ => id
  | verifyPayment customerId dto signatureValid => exact hkept (d.addCall _) hsame fun _ => id
  | webhook eventId event inserts =>
    apply hkept _ (sameBacking_receive d eventId event inserts)
    intro id hid
    rw [receive_gateway]
    exact hid
  | reconcileUnconfirmed oldEnough lockAcquired =>
    exact hkept (d.addCall _) hsame fun _ => id
  | runReconciliation autoHeal gatewayAmountPaise =>
    exact hkept (d.addCall _) hsame fun _ => id
  | gatewayAnswers i reachable =>
    obtain ⟨hcheckout, hgateway⟩ := answer_rest config d i reachable
    apply hkept (d.answer config i reachable)
    · rw [hcheckout]
      exact hsame
    · intro id hid
      rw [hgateway]
      exact hid
  | write i =>
    show (d.write config i).Sound ↔ ∀ call ∈ d.calls[i]?, call.Fits config d
    unfold PaymentDesk.write
    cases hi : d.calls[i]? with
    | none => exact iff_of_true hsound fun call hcall => absurd hcall (Option.not_mem_none call)
    | some call =>
      have htruthful := h.calls call (List.mem_of_getElem? hi)
      apply (sound_write_iff hsound h.journal htruthful _).trans
      simp
  | crash i => exact hkept (d.replaceCall i none) hsame fun _ => id
  | gatewayPays payment =>
    apply hkept (d.pay payment)
    · rw [(pay_rest d payment).1]
      exact hsame
    · exact fun _ => capturedAt_pay payment
  | elsewhere wallet coupon couponUsages ledger =>
    apply hkept _ (sameBacking_elsewhere d wallet coupon couponUsages ledger)
    intro id hid
    rw [(elsewhere_rest d wallet coupon couponUsages ledger).1]
    exact hid

end Steps

/-! ## The law along a run -/

/-- A booking before its first order. -/
structure UnorderedCheckout where
  checkout : Checkout
  unordered : checkout.payment = none
  unjournalled : captureJournals checkout = 0

namespace UnorderedCheckout

/-- No call is under way. -/
def desk (start : UnorderedCheckout) (gateway : List GatewayPayment) : PaymentDesk :=
  ⟨start.checkout, gateway, []⟩

theorem consistent (start : UnorderedCheckout) (gateway : List GatewayPayment)
    (config : PaymentConfig) : (start.desk gateway).Consistent config := by
  apply PaymentDesk.Consistent.mk
  · have hnone : captureJournals start.checkout ≤ 1 := by
      rw [start.unjournalled]
      exact Nat.zero_le 1
    exact hnone
  · intro call hcall
    cases hcall

theorem sound (start : UnorderedCheckout) (gateway : List GatewayPayment) :
    (start.desk gateway).Sound := by
  apply sound_of_unpaid
  simp [Checkout.paymentStatus, start.unordered]

end UnorderedCheckout

/-- Whatever the calls, and however they interleave, crash or go unanswered: every paid payment is
backed, journalled once and without a deposit that is due, in every state of the run, exactly when
every write fits. -/
theorem paid_rightly_iff (config : PaymentConfig) (start : UnorderedCheckout)
    (gateway : List GatewayPayment) (actions : List DeskAction) :
    Everywhere (callStep config) PaymentDesk.Sound (start.desk gateway) actions ↔
      Along (callStep config) (DeskFits config) (start.desk gateway) actions :=
  everywhere_iff_along_of_invariant (I := PaymentDesk.Consistent config)
    (fun _ action h => h.step action) (fun _ action _ h hsound => sound_step_iff h hsound action)
    (start.consistent gateway config) (start.sound gateway)

/-! ## Runs that break it -/

theorem PaymentDesk.Sound.paid {d : PaymentDesk} (h : d.Sound)
    (hpaid : d.checkout.paymentStatus = some .paid) :
    captureJournals d.checkout = 1 ∧ DepositSettled d.checkout := by
  obtain ⟨payment, hpayment, hstatus⟩ := Option.map_eq_some_iff.mp hpaid
  have hrightly := h payment hpayment hstatus
  exact ⟨hrightly.journal, hrightly.deposit⟩

/-- Fare 1118.00, and a deposit of 50.00 that awaits its payment. -/
def depositDue : UnorderedCheckout where
  checkout := { sampleCheckout with
    securityDeposit := some ⟨"deposit", sampleDeposit, 0, 0, .required, none, none⟩
    payment := none }
  unordered := rfl
  unjournalled := rfl

def orderCaptured : List DeskAction :=
  [.createOrder "customer" false "payment" (some "order") "", .write 0,
    .gatewayPays ⟨"pay", some (.gateway "order"), some "INR", .captured, 116800⟩,
    .webhook "event" (.paymentCaptured (some (.gateway "order")) "pay" (some 116800) (some "INR"))
      true,
    .write 0]

/-- A payment fails, the customer orders again, and the enterprise reconciliation comes by. -/
def failedThenHealed : List DeskAction :=
  [.createOrder "customer" false "payment" (some "order") "", .write 0,
    .webhook "event" (.paymentFailed (.gateway "order") "failed") true, .write 0, .write 0,
    .createOrder "customer" false "payment" (some "retry") "", .write 0,
    .runReconciliation true none, .write 0]

/-- The capture that comes by event leaves the deposit due, and the auto-heal sets a payment to
`PAID` for which nothing was ever captured and no journal recorded. -/
theorem deposit_still_due_and_unjournalled :
    ¬ Everywhere (callStep liveConfig) PaymentDesk.Sound (depositDue.desk []) orderCaptured ∧
      ¬ Everywhere (callStep liveConfig) PaymentDesk.Sound (depositDue.desk [])
          failedThenHealed := by
  have hcaptured :
      (run (callStep liveConfig) (depositDue.desk []) orderCaptured).checkout.paymentStatus =
        some .paid := by decide +kernel
  have hdue :
      (run (callStep liveConfig) (depositDue.desk []) orderCaptured).checkout.securityDeposit.map
        SecurityDeposit.status = some .required := by decide +kernel
  have hhealed :
      (run (callStep liveConfig) (depositDue.desk []) failedThenHealed).checkout.paymentStatus =
        some .paid := by decide +kernel
  have hjournals :
      captureJournals (run (callStep liveConfig) (depositDue.desk []) failedThenHealed).checkout =
        0 := by decide +kernel
  constructor
  · intro h
    have hdeposit := (h.last.paid hcaptured).2
    obtain ⟨deposit, hmem, hstatus⟩ := Option.map_eq_some_iff.mp hdue
    exact hdeposit deposit hmem hstatus
  · intro h
    have hjournal := (h.last.paid hhealed).1
    rw [hjournals] at hjournal
    cases hjournal

end CarRental
