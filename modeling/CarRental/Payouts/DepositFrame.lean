import CarRental.Deposits.RefundTruth
import CarRental.Payouts.Earnings

/-!
# Deposits and a vendor's earnings

Releasing or settling the deposit of a completed booking should leave what the payouts
service computes for the vendor as it is: his total earnings and what a request may take.

Both count the bookings whose payment is `PAID`, and the refund of a deposit that the
gateway processes at once marks the whole payment `REFUNDED`.  So the booking drops out of
the earnings with all that it earned, exactly then (`earnings_untouched_iff`).

The vendor's bookings are the checkouts of `VendorAccounts`; `VendorAccounts.view` is what
the payouts service reads of them.
-/

namespace CarRental

open Runs Totals

/-! ## Refunds that the gateway processes -/

def GatewayRefundAnswer.isProcessed : GatewayRefundAnswer → Bool
  | .issued _ state | .alreadyRefunded (some (_, state)) => state = .processed
  | _ => false

/-- The refund goes through and is processed at once: in the mock, for the wallet alone, or by
the gateway. -/
def RefundProcesses (config : PaymentConfig) (s : Checkout) (request : RefundRequest)
    (answer : GatewayRefundAnswer) : Prop :=
  ∃ payment ∈ s.payment, RefundPasses s payment request ∧
    gatewayTakes config payment (gatewayRefundPart s payment request.refundAmountInPaise) answer =
      true ∧
    walletTakes config s payment (walletRefundPart s payment request.refundAmountInPaise) = true ∧
    (gatewayRefundPart s payment request.refundAmountInPaise ≤ 0 ∨ config.useMock = true ∨
      answer.isProcessed = true)

section Refund

variable {config : PaymentConfig} {s s' : Checkout} {payment : Payment} {request : RefundRequest}
  {answer : GatewayRefundAnswer} {mockId : String}

theorem gatewayRefund_processed_iff {gatewayPaise : ℤ} {refundId : GatewayRefundId}
    {status : RefundStatus}
    (h : gatewayRefund config s payment gatewayPaise answer mockId = .ok (s', refundId, status)) :
    status = .processed ↔
      gatewayPaise ≤ 0 ∨ config.useMock = true ∨ answer.isProcessed = true := by
  rcases gatewayRefund_cases h with ⟨hnone, -, rfl, -⟩ | ⟨-, hmock, -, rfl, -⟩ |
    ⟨hpaise, hlive, id, state, -, rfl, ⟨rfl, -⟩ | ⟨rfl, -⟩⟩
  · exact iff_of_true rfl (.inl hnone)
  · exact iff_of_true rfl (.inr (.inl hmock))
  all_goals
    cases state <;>
      simp [not_le.mpr hpaise, hlive, GatewayRefundAnswer.isProcessed,
        GatewayRefundState.refundStatus]

theorem refund_paymentStatus (config : PaymentConfig) (s : Checkout) (request : RefundRequest)
    (answer : GatewayRefundAnswer) (mockId : String) :
    RefundProcesses config s request answer ∧ s.paymentStatus = some .paid ∧
        (refund config s request answer mockId).1.paymentStatus = some .refunded ∨
      ¬ RefundProcesses config s request answer ∧
        (refund config s request answer mockId).1.paymentStatus = s.paymentStatus := by
  cases hpayment : s.payment with
  | none =>
    refine .inr ⟨fun ⟨_, hmem, _⟩ => by simp [hpayment] at hmem, ?_⟩
    simp [refund, hpayment]
  | some payment =>
    have hstatus := Checkout.paymentStatus_eq hpayment
    have hprocesses : RefundProcesses config s request answer ↔
        RefundPasses s payment request ∧
          gatewayTakes config payment (gatewayRefundPart s payment request.refundAmountInPaise)
            answer = true ∧
          walletTakes config s payment
            (walletRefundPart s payment request.refundAmountInPaise) = true ∧
          (gatewayRefundPart s payment request.refundAmountInPaise ≤ 0 ∨ config.useMock = true ∨
            answer.isProcessed = true) := by
      simp [RefundProcesses, hpayment]
    rw [hprocesses]
    by_cases hpasses : RefundPasses s payment request
    case neg =>
      refine .inr ⟨fun h => hpasses h.1, ?_⟩
      rcases refund_of_not_passes hpayment hpasses answer mockId with hsame | hwritten
      · rw [hsame]
      · rw [hwritten, hstatus]
        rfl
    rw [refund_of_passes hpayment hpasses, ← gatewayRefund_isOk config s payment _ answer mockId]
    cases hgateway : gatewayRefund config s payment
        (gatewayRefundPart s payment request.refundAmountInPaise) answer mockId with
    | error e => exact .inr ⟨fun h => absurd h.2.1 Bool.false_ne_true, rfl⟩
    | ok result =>
      obtain ⟨s₁, refundId, status⟩ := result
      have hprocessed := gatewayRefund_processed_iff hgateway
      obtain ⟨gatewayRefunds, rfl⟩ := gatewayRefund_eq_ok hgateway
      rw [← walletRefund_isOk_of_gateway gatewayRefunds]
      dsimp only
      cases hwallet : walletRefund config { s with gatewayRefunds } payment
          (walletRefundPart s payment request.refundAmountInPaise) with
      | error e => exact .inr ⟨fun h => absurd h.2.2.1 Bool.false_ne_true, rfl⟩
      | ok s₂ =>
        dsimp only
        rw [recordRefund_paymentStatus, ← hprocessed, hstatus, hpasses.1]
        by_cases hdone : status = .processed
        · exact .inl ⟨⟨hpasses, rfl, rfl, hdone⟩, rfl, by rw [if_pos hdone]⟩
        · exact .inr ⟨fun h => hdone h.2.2.2, by rw [if_neg hdone]⟩

end Refund

/-! ## The refund of a deposit -/

/-- What a release or a settlement asks `refund` for, and the gateway's answer, where the call
comes to that. -/
def depositRefundCall (s : Checkout) : DepositAction → Option (RefundRequest × GatewayRefundAnswer)
  | .releaseDeposit answer _ =>
    match s.securityDeposit with
    | none => none
    | some deposit =>
      if deposit.status = .held ∧ deposit.deductedAmount < deposit.amount.paise ∧
          deposit.isCollateral = false then
        some (⟨deposit.amount.paise - deposit.deductedAmount, none, none⟩, answer)
      else none
  | .settleDeduction deductAmount answer _ =>
    match s.securityDeposit with
    | none => none
    | some deposit =>
      let operation : DepositOperation := ⟨.settle deductAmount, deposit, true⟩
      if deposit.status = .held ∧ 0 < operation.remaining then
        some (remainderRequest operation, answer)
      else none
  | _ => none

/-- The call refunds the payment, and the gateway is through with it at once. -/
def DepositRefundProcesses (config : PaymentConfig) (s : Checkout) (action : DepositAction) : Prop :=
  ∃ call ∈ depositRefundCall s action, RefundProcesses config s call.1 call.2

def DepositAction.settlesDeposit : DepositAction → Bool
  | .releaseDeposit _ _ | .settleDeduction _ _ _ => true
  | _ => false

section Deposit

variable {config : PaymentConfig} {s : Checkout}

theorem depositRefundCall_of_not_settles {action : DepositAction}
    (h : ¬ action.settlesDeposit = true) : depositRefundCall s action = none := by
  cases action with
  | releaseDeposit answer mockId => exact absurd rfl h
  | settleDeduction deductAmount answer mockId => exact absurd rfl h
  | _ => rfl

theorem settleRelease_frame (s : Checkout) (deposit : SecurityDeposit) (remaining : ℤ)
    (refundId : Option GatewayRefundId) :
    (settleRelease s deposit remaining refundId).booking = s.booking ∧
      (settleRelease s deposit remaining refundId).paymentStatus = s.paymentStatus := by
  unfold settleRelease
  dsimp only
  split <;> exact ⟨rfl, rfl⟩

theorem finishSettlement_frame (s : Checkout) (operation : DepositOperation)
    (refundId : Option GatewayRefundId) :
    (finishSettlement s operation refundId).booking = s.booking ∧
      (finishSettlement s operation refundId).paymentStatus = s.paymentStatus := by
  unfold finishSettlement
  dsimp only
  split <;> exact ⟨rfl, rfl⟩

/-- The payment's status after a call that may refund it. -/
def RefundedOnlyIf (processes : Prop) (before after : Option PaymentStatus) : Prop :=
  processes ∧ before = some .paid ∧ after = some .refunded ∨ ¬ processes ∧ after = before

theorem refundedOnlyIf_of_none {action : DepositAction} (h : depositRefundCall s action = none)
    (status : Option PaymentStatus) :
    RefundedOnlyIf (DepositRefundProcesses config s action) status status := by
  refine .inr ⟨fun ⟨call, hmem, _⟩ => ?_, rfl⟩
  rw [h] at hmem
  cases hmem

theorem refundedOnlyIf_of_some {s₂ s' : Checkout} {reply : Except HttpError RefundReply}
    {deposit' : SecurityDeposit} {action : DepositAction} {request : RefundRequest}
    {answer : GatewayRefundAnswer} {mockId : String}
    (h : depositRefundCall s action = some (request, answer))
    (hrefund : refund config (setDeposit s deposit') request answer mockId = (s₂, reply))
    (hframe : s'.booking = s₂.booking ∧ s'.paymentStatus = s₂.paymentStatus) :
    s'.booking = s.booking ∧
      RefundedOnlyIf (DepositRefundProcesses config s action) s.paymentStatus s'.paymentStatus := by
  have hbooking := (refund_frame config (setDeposit s deposit') request answer mockId).1
  have hstatus := refund_paymentStatus config (setDeposit s deposit') request answer mockId
  have hprocesses : DepositRefundProcesses config s action ↔
      RefundProcesses config (setDeposit s deposit') request answer := by
    simp only [DepositRefundProcesses, h, Option.mem_some_iff, exists_eq_left']
    exact Iff.rfl
  rw [hrefund] at hbooking hstatus
  rw [hframe.1, hframe.2, RefundedOnlyIf, hprocesses]
  exact ⟨hbooking, hstatus⟩

theorem releaseDeposit_frame (answer : GatewayRefundAnswer) (mockId : String) :
    (releaseDeposit config s answer mockId).1.booking = s.booking ∧
      RefundedOnlyIf (DepositRefundProcesses config s (.releaseDeposit answer mockId))
        s.paymentStatus (releaseDeposit config s answer mockId).1.paymentStatus := by
  unfold releaseDeposit
  split
  next hdeposit =>
    exact ⟨rfl, refundedOnlyIf_of_none (by rw [depositRefundCall, hdeposit]) _⟩
  next deposit hdeposit =>
    split
    next hheld =>
      refine ⟨rfl, refundedOnlyIf_of_none ?_ _⟩
      simp [depositRefundCall, hdeposit, hheld]
    next hheld =>
      dsimp only
      split
      next hleft =>
        refine ⟨rfl, refundedOnlyIf_of_none ?_ _⟩
        simp only [depositRefundCall, hdeposit]
        exact if_neg fun h => by omega
      next hleft =>
        split
        next hcollateral =>
          have hframe := settleRelease_frame (setDeposit s { deposit with
            status := if 0 < deposit.deductedAmount then .partiallyRefunded else .refunded })
            { deposit with
              status := if 0 < deposit.deductedAmount then .partiallyRefunded else .refunded }
            (deposit.amount.paise - deposit.deductedAmount) (some .collateralReleased)
          rw [hframe.2]
          refine ⟨hframe.1, refundedOnlyIf_of_none ?_ _⟩
          simp [depositRefundCall, hdeposit, hcollateral]
        next hcollateral =>
          have hasks : depositRefundCall s (.releaseDeposit answer mockId) =
              some (⟨deposit.amount.paise - deposit.deductedAmount, none, none⟩, answer) := by
            simp only [depositRefundCall, hdeposit]
            exact if_pos ⟨not_not.mp hheld, by omega, Bool.eq_false_iff.mpr hcollateral⟩
          split
          next s₂ reply hrefund =>
            exact refundedOnlyIf_of_some hasks hrefund (settleRelease_frame ..)
          next s₂ e hrefund => exact refundedOnlyIf_of_some hasks hrefund ⟨rfl, rfl⟩

theorem settleDeduction_frame (deductAmount : Decimal) (answer : GatewayRefundAnswer)
    (mockId : String) :
    (settleDeduction config s deductAmount answer mockId).1.booking = s.booking ∧
      RefundedOnlyIf
        (DepositRefundProcesses config s (.settleDeduction deductAmount answer mockId))
        s.paymentStatus (settleDeduction config s deductAmount answer mockId).1.paymentStatus := by
  unfold settleDeduction
  split
  next hdeposit =>
    exact ⟨rfl, refundedOnlyIf_of_none (by rw [depositRefundCall, hdeposit]) _⟩
  next deposit hdeposit =>
    split
    next hheld =>
      refine ⟨rfl, refundedOnlyIf_of_none ?_ _⟩
      simp [depositRefundCall, hdeposit, hheld]
    next hheld =>
      dsimp only
      split
      next hrest =>
        have hasks : depositRefundCall s (.settleDeduction deductAmount answer mockId) =
            some (remainderRequest ⟨.settle deductAmount, deposit, true⟩, answer) := by
          simp only [depositRefundCall, hdeposit]
          exact if_pos ⟨not_not.mp hheld, hrest⟩
        split
        next s₂ reply hrefund =>
          exact refundedOnlyIf_of_some hasks hrefund (finishSettlement_frame ..)
        next s₂ e hrefund => exact refundedOnlyIf_of_some hasks hrefund ⟨rfl, rfl⟩
      next hrest =>
        set operation : DepositOperation := ⟨.settle deductAmount, deposit, true⟩
        have hframe := finishSettlement_frame
          (setDeposit s (operation.claimRow deposit)) operation none
        rw [hframe.2]
        refine ⟨hframe.1, refundedOnlyIf_of_none ?_ _⟩
        simp only [depositRefundCall, hdeposit]
        exact if_neg fun h => hrest h.2

theorem depositStep_frame (config : PaymentConfig) (s : Checkout) {action : DepositAction}
    (h : action.settlesDeposit = true) :
    (depositStep config s action).booking = s.booking ∧
      RefundedOnlyIf (DepositRefundProcesses config s action) s.paymentStatus
        (depositStep config s action).paymentStatus := by
  cases action with
  | releaseDeposit answer mockId => exact releaseDeposit_frame answer mockId
  | settleDeduction deductAmount answer mockId => exact settleDeduction_frame deductAmount answer mockId
  | _ => cases h

end Deposit

/-! ## A vendor's rentals -/

/-- A booking with its money, and what only the earnings read of it. -/
structure Rental where
  checkout : Checkout
  disputeFlag : Bool
  damageClaims : List DamageClaimStatus
  createdAt : ℤ
  updatedAt : ℤ
deriving DecidableEq

/-- The row that the payouts service finds. -/
def Rental.row (rental : Rental) : VendorBooking where
  vendorId := rental.checkout.booking.vendorId
  status := rental.checkout.booking.status
  paymentStatus := rental.checkout.paymentStatus
  netToVendor := rental.checkout.booking.netToVendor
  disputeFlag := rental.disputeFlag
  damageClaims := rental.damageClaims
  createdAt := rental.createdAt
  updatedAt := rental.updatedAt

/-- The rentals, and the books whose bookings they are.  All rentals post to the ledger of
the books. -/
structure VendorAccounts where
  rentals : List Rental
  books : VendorBooks
deriving DecidableEq

def VendorAccounts.view (s : VendorAccounts) : VendorBooks :=
  { s.books with bookings := s.rentals.map Rental.row }

inductive AccountsAction where
  /-- Something happens to the checkout of one rental. -/
  | rental (index : ℕ) (action : DepositAction)
  | dispute (index : ℕ) (disputeFlag : Bool) (damageClaims : List DamageClaimStatus)
  | payout (action : RequestAction)

/-- A write to the booking's row moves `updatedAt`. -/
def Rental.proceed (config : PaymentConfig) (rental : Rental) (books : VendorBooks)
    (action : DepositAction) : Rental :=
  let checkout := depositStep config { rental.checkout with ledger := books.ledger } action
  { rental with
    checkout
    updatedAt :=
      if checkout.booking = rental.checkout.booking then rental.updatedAt else books.clock.now }

def accountsStep (config : PaymentConfig) (s : VendorAccounts) : AccountsAction → VendorAccounts
  | .rental index action =>
    match s.rentals[index]? with
    | none => s
    | some rental =>
      let rental' := rental.proceed config s.books action
      { rentals := s.rentals.set index rental'
        books := { s.books with ledger := rental'.checkout.ledger } }
  | .dispute index disputeFlag damageClaims =>
    match s.rentals[index]? with
    | none => s
    | some rental =>
      { s with
        rentals := s.rentals.set index
          { rental with disputeFlag, damageClaims, updatedAt := s.books.clock.now } }
  | .payout action => { s with books := requestStep s.view action }

/-! ## The earnings -/

/-- Every vendor has the same total earnings in both, and may request the same. -/
def SameEarnings (s s' : VendorBooks) : Prop :=
  ∀ vendorId ∈ s.vendors,
    (getVendorEarningsSummary s' vendorId).map EarningsSummary.totalEarnings =
        (getVendorEarningsSummary s vendorId).map EarningsSummary.totalEarnings ∧
      requestAvailable s' vendorId = requestAvailable s vendorId

/-- The step is no release or settlement of a deposit that moves somebody's earnings. -/
def EarningsUntouched (config : PaymentConfig) (s : VendorAccounts) (action : AccountsAction) :
    Prop :=
  match action with
  | .rental _ call =>
    call.settlesDeposit = true → SameEarnings s.view (accountsStep config s action).view
  | _ => True

/-- The booking has a part in the earnings, or in what a request may take. -/
def CountsForVendor (s : VendorBooks) (b : VendorBooking) : Prop :=
  b.vendorId ∈ s.vendors ∧ b.earns b.vendorId = true ∧ b.netToVendor.paise ≠ 0 ∧
    (b.isDisputed = false ∨ b.isLocked = false ∧ isSettled s b = true)

/-- The step refunds no deposit of a booking that counts so that the gateway is through with
it at once. -/
def SparesEarnings (config : PaymentConfig) (s : VendorAccounts) : AccountsAction → Prop
  | .rental index call =>
    ∀ rental ∈ s.rentals[index]?, DepositRefundProcesses config rental.checkout call →
      ¬ CountsForVendor s.view rental.row
  | _ => True

section Earnings

variable {config : PaymentConfig} {s : VendorAccounts} {index : ℕ} {rental : Rental}

theorem sameEarnings_iff {s s' : VendorBooks} (hvendors : s'.vendors = s.vendors)
    (hadjustments : s'.adjustments = s.adjustments) (hpayouts : s'.payouts = s.payouts) :
    SameEarnings s s' ↔ ∀ vendorId ∈ s.vendors,
      s'.bookingTotal (fun b => b.earns vendorId && !b.isDisputed) =
          s.bookingTotal (fun b => b.earns vendorId && !b.isDisputed) ∧
        s'.bookingTotal (fun b => b.earns vendorId && !b.isLocked && isSettled s' b) =
          s.bookingTotal (fun b => b.earns vendorId && !b.isLocked && isSettled s b) := by
  refine forall₂_congr fun vendorId hmem => and_congr ?_ ?_
  · have hmem' : vendorId ∈ s'.vendors := hvendors ▸ hmem
    simp [getVendorEarningsSummary, hmem, hmem', Except.map]
  · have hadjustment : ∀ p, s'.adjustmentTotal p = s.adjustmentTotal p := fun p => by
      simp only [VendorBooks.adjustmentTotal, hadjustments]
    have hpayout : ∀ p, s'.payoutTotal vendorId p = s.payoutTotal vendorId p := fun p => by
      simp only [VendorBooks.payoutTotal, hpayouts]
    simp only [requestAvailable, hadjustment, hpayout]
    constructor <;> intro <;> omega

theorem proceed_row (rental : Rental) (books : VendorBooks) {call : DepositAction}
    (h : call.settlesDeposit = true) :
    DepositRefundProcesses config rental.checkout call ∧
        rental.row.paymentStatus = some .paid ∧
        (rental.proceed config books call).row =
          { rental.row with paymentStatus := some .refunded } ∨
      ¬ DepositRefundProcesses config rental.checkout call ∧
        (rental.proceed config books call).row = rental.row := by
  set checkout : Checkout := { rental.checkout with ledger := books.ledger } with hcheckout
  obtain ⟨hbooking, hstatus⟩ := depositStep_frame config checkout h
  have hprocesses : DepositRefundProcesses config checkout call ↔
      DepositRefundProcesses config rental.checkout call := by
    cases call <;> exact Iff.rfl
  have hrow : (rental.proceed config books call).row =
      { rental.row with paymentStatus := (depositStep config checkout call).paymentStatus } := by
    have hsame : (depositStep config checkout call).booking = rental.checkout.booking := hbooking
    simp only [Rental.proceed, Rental.row, ← hcheckout, hsame, if_true]
  rw [hrow, ← hprocesses]
  rcases hstatus with ⟨hdone, hpaid, hafter⟩ | ⟨hdone, hafter⟩
  · exact .inl ⟨hdone, hpaid, by rw [hafter]⟩
  · exact .inr ⟨hdone, by rw [hafter]; rfl⟩

theorem total_refunded_iff {rows : List VendorBooking} {b : VendorBooking}
    (hrow : rows[index]? = some b) {p : VendorBooking → Bool}
    (hrefunded : p { b with paymentStatus := some .refunded } = false) :
    total p (fun b => b.netToVendor.paise)
          (rows.set index { b with paymentStatus := some .refunded }) =
        total p (fun b => b.netToVendor.paise) rows ↔
      (p b = true → b.netToVendor.paise = 0) := by
  rw [total_set hrow, hrefunded]
  cases p b <;> simp

theorem not_countsForVendor_iff {s : VendorBooks} {b : VendorBooking} :
    (∀ vendorId ∈ s.vendors,
      ((b.earns vendorId && !b.isDisputed) = true → b.netToVendor.paise = 0) ∧
        ((b.earns vendorId && !b.isLocked && isSettled s b) = true → b.netToVendor.paise = 0)) ↔
      ¬ CountsForVendor s b := by
  constructor
  · rintro hnothing ⟨hmem, hearns, hnet, hopen⟩
    obtain ⟨htotal, hrequest⟩ := hnothing b.vendorId hmem
    cases hopen with
    | inl hundisputed => exact hnet (htotal (by simp [hearns, hundisputed]))
    | inr hsettled => exact hnet (hrequest (by simp [hearns, hsettled]))
  · intro hcounts vendorId hmem
    -- only its own vendor can have it among his bookings
    have hown : b.earns vendorId = true → b.vendorId = vendorId := by
      intro hearns
      simp only [VendorBooking.earns, Bool.and_eq_true, decide_eq_true_eq] at hearns
      exact hearns.1.1
    constructor
    · intro h
      rw [Bool.and_eq_true, Bool.not_eq_true'] at h
      obtain rfl := hown h.1
      exact by_contra fun hnet => hcounts ⟨hmem, h.1, hnet, .inl h.2⟩
    · intro h
      rw [Bool.and_eq_true, Bool.and_eq_true, Bool.not_eq_true'] at h
      obtain rfl := hown h.1.1
      exact by_contra fun hnet => hcounts ⟨hmem, h.1.1, hnet, .inr ⟨h.1.2, h.2⟩⟩

theorem rental_untouched_iff {call : DepositAction} (h : call.settlesDeposit = true) :
    SameEarnings s.view (accountsStep config s (.rental index call)).view ↔
      SparesEarnings config s (.rental index call) := by
  unfold SparesEarnings
  cases hrental : s.rentals[index]? with
  | none =>
    have hsame : accountsStep config s (.rental index call) = s := by
      simp only [accountsStep, hrental]
    rw [hsame]
    exact iff_of_true (fun _ _ => ⟨rfl, rfl⟩) (by simp [hrental])
  | some rental =>
    set rental' := rental.proceed config s.books call with hrental'
    set after := (accountsStep config s (.rental index call)).view with hafter
    have hview : after = { s.view with
        bookings := s.view.bookings.set index rental'.row
        ledger := rental'.checkout.ledger } := by
      simp only [hafter, accountsStep, hrental, VendorAccounts.view, List.map_set, ← hrental']
    have hrow : s.view.bookings[index]? = some rental.row := by
      simp [VendorAccounts.view, hrental]
    have hsettled : ∀ b, isSettled after b = isSettled s.view b := by
      rw [hview]
      exact fun _ => rfl
    have hbookings : after.bookings = s.view.bookings.set index rental'.row := by rw [hview]
    rw [sameEarnings_iff (by rw [hview]) (by rw [hview]) (by rw [hview])]
    simp only [hrental, Option.mem_def, Option.some.injEq, forall_eq', VendorBooks.bookingTotal,
      hbookings, hsettled]
    rcases proceed_row rental s.books h with ⟨hdone, hpaid, hdropped⟩ | ⟨hdone, hkept⟩
    · rw [hrental', hdropped, forall_prop_of_true hdone]
      have hdrops : ∀ vendorId, VendorBooking.earns vendorId
          { rental.row with paymentStatus := some .refunded } = false := fun vendorId => by
        simp [VendorBooking.earns]
      rw [← not_countsForVendor_iff]
      exact forall₂_congr fun vendorId _ => and_congr
        (total_refunded_iff hrow (by rw [hdrops, Bool.false_and]))
        (total_refunded_iff hrow (by rw [hdrops, Bool.false_and, Bool.false_and]))
    · refine iff_of_true (fun _ _ => ?_) fun h => absurd h hdone
      have hsame : s.view.bookings.set index rental.row = s.view.bookings := by
        obtain ⟨hlt, heq⟩ := List.getElem?_eq_some_iff.mp hrow
        rw [← heq, List.set_getElem_self]
      rw [hrental', hkept, hsame]
      exact ⟨rfl, rfl⟩

end Earnings

/-- Through any history of a vendor's rentals and requests, no release or settlement of a
deposit moves his earnings exactly if none refunds a booking that counts so that the gateway is
through with it at once. -/
theorem earnings_untouched_iff (config : PaymentConfig) (s : VendorAccounts)
    (actions : List AccountsAction) :
    Along (accountsStep config) (EarningsUntouched config) s actions ↔
      Along (accountsStep config) (SparesEarnings config) s actions := by
  refine along_congr (I := fun _ => True) (fun _ _ _ => trivial) (fun s action _ _ => ?_) trivial
  cases action with
  | rental index call =>
    by_cases hsettles : call.settlesDeposit = true
    · exact (forall_prop_of_true hsettles).trans (rental_untouched_iff hsettles)
    · refine iff_of_true (fun h => absurd h hsettles) fun rental _ hprocesses => ?_
      obtain ⟨_, hmem, _⟩ := hprocesses
      rw [depositRefundCall_of_not_settles hsettles] at hmem
      cases hmem
  | _ => exact Iff.rfl

/-- A vendor whose only booking is completed and paid, and whose earnings nothing holds back. -/
def completedAccounts : VendorAccounts where
  rentals := [
    { checkout := { paidCheckout with booking := { sampleBooking with status := .completed } }
      disputeFlag := false
      damageClaims := []
      createdAt := 0
      updatedAt := 0 }]
  books :=
    { vendors := ["vendor"]
      bookings := []
      adjustments := []
      payouts := []
      ledger := Ledger.empty
      config := ⟨0, 0, 0, 0⟩
      clock := ⟨0, 0, 0, 0, 0⟩
      inFlight := [] }

/-- The release of the deposit of 50.00 takes the 1000.00 of the trip out of the earnings. -/
theorem released_deposit_drops_earnings :
    let actions := [AccountsAction.rental 0 (.releaseDeposit (.issued "refund" .processed) "")]
    requestAvailable completedAccounts.view "vendor" = 100000 ∧
      requestAvailable (run (accountsStep liveConfig) completedAccounts actions).view "vendor" = 0 ∧
      ¬ Along (accountsStep liveConfig) (EarningsUntouched liveConfig) completedAccounts actions := by
  refine ⟨by decide +kernel, by decide +kernel, ?_⟩
  rintro ⟨huntouched, -⟩
  have havailable := (huntouched rfl "vendor" (by decide)).2
  revert havailable
  decide +kernel

end CarRental
