import CarRental.Payments.RefundRows

/-!
# Retries of a refund that failed

`refund` asks the gateway, credits the wallet, updates the payment and creates the
`PaymentRefund` row, in no transaction.  A call is known again
by the row or by the payment's status, and both are written after the gateway has answered.

`refundAttempt` is a call that fails at one of these steps.  Its retries under the same key
issue one gateway refund and one wallet credit, and leave both recorded, exactly when none
reaches the gateway again after one that failed before the update, and none loses its row
(`refund_retries_iff`).

## Strategy

`refundAttempt_cases` says how an attempt that passes its checks ends: refused by the
gateway, stopped before the payment's update, or gone through.  `Retrying` is the invariant;
an attempt that stops changes nothing that the checks look at.
-/

namespace CarRental

open Runs

/-! ## Attempts -/

/-- The step at which an attempt fails. -/
inductive RefundFailure where
  /-- The gateway has answered. -/
  | gatewayAnswered
  | walletCredit
  | paymentUpdate
  /-- Only logged. -/
  | refundRowCreate
deriving DecidableEq

structure RefundAttempt where
  failure : Option RefundFailure
  answer : GatewayRefundAnswer
  mockId : String
deriving DecidableEq

def refundStopped : HttpError := .internal "Refund stopped"

/-- `refund` up to the step that fails. -/
def refundAttempt (config : PaymentConfig) (request : RefundRequest) (s : Checkout)
    (attempt : RefundAttempt) : CheckoutReply RefundReply :=
  match s.payment with
  | none => (s, .ok ⟨none, 0, .none, false⟩)
  | some payment =>
    if RefundPasses s payment request then
      let refundPaise := request.refundAmountInPaise
      let walletPaise := walletRefundPart s payment refundPaise
      match gatewayRefund config s payment (gatewayRefundPart s payment refundPaise)
          attempt.answer attempt.mockId with
      | .error e => (s, .error e)
      | .ok (s₁, refundId, status) =>
        if attempt.failure = some .gatewayAnswered ∨
            attempt.failure = some .walletCredit ∧ 0 < walletPaise then
          (s₁, .error refundStopped)
        else
          match walletRefund config s₁ payment walletPaise with
          | .error e => (s₁, .error e)
          | .ok s₂ =>
            if attempt.failure = some .paymentUpdate then (s₂, .error refundStopped)
            else
              let s₃ := recordRefund s₂ payment refundPaise
                (request.idempotencyKey.getD (defaultRefundKey s payment))
                request.requestedByUserId refundId status
              (if attempt.failure = some .refundRowCreate then
                  { s₃ with refunds := s₂.refunds }
                else s₃,
                .ok ⟨some refundId, refundPaise, status, false⟩)
    -- an empty refund still updates the payment
    else if attempt.failure = some .paymentUpdate ∧ payment.status = .paid ∧
        request.refundAmountInPaise ≤ 0 then
      (s, .error refundStopped)
    else refund config s request attempt.answer attempt.mockId

/-- The call passes the checks of the payment that there is. -/
def PassesChecks (request : RefundRequest) (s : Checkout) : Prop :=
  ∃ payment ∈ s.payment, RefundPasses s payment request

def Issues (config : PaymentConfig) (s : Checkout) (payment : Payment) (request : RefundRequest)
    (answer : GatewayRefundAnswer) : Prop :=
  0 < gatewayRefundPart s payment request.refundAmountInPaise ∧
    (config.useMock = true ∨ answer.isIssued = true)

/-- The attempt ends before the update of the payment. -/
def Stops (config : PaymentConfig) (s : Checkout) (payment : Payment) (request : RefundRequest)
    (attempt : RefundAttempt) : Prop :=
  let walletPaise := walletRefundPart s payment request.refundAmountInPaise
  attempt.failure = some .gatewayAnswered ∨
    attempt.failure = some .walletCredit ∧ 0 < walletPaise ∨
      walletTakes config s payment walletPaise = false ∨ attempt.failure = some .paymentUpdate

/-- The row is not created: the attempt fails there, or another row has the gateway's id. -/
def LosesRow (config : PaymentConfig) (s : Checkout) (payment : Payment) (request : RefundRequest)
    (attempt : RefundAttempt) : Prop :=
  attempt.failure = some .refundRowCreate ∨
    ∃ refundId ∈ answeredRefundId config s
        (gatewayRefundPart s payment request.refundAmountInPaise) attempt.answer attempt.mockId,
      refundId ∈ refundIds s.refunds

instance (config : PaymentConfig) (s : Checkout) (payment : Payment) (request : RefundRequest)
    (answer : GatewayRefundAnswer) : Decidable (Issues config s payment request answer) :=
  inferInstanceAs (Decidable (_ ∧ (_ ∨ _)))

instance (config : PaymentConfig) (s : Checkout) (payment : Payment) (request : RefundRequest)
    (attempt : RefundAttempt) : Decidable (Stops config s payment request attempt) :=
  inferInstanceAs (Decidable (_ ∨ _ ∧ _ ∨ _ ∨ _))

/-- The payment has the refund's amount, and a row has its key. -/
def KeyedRecord (request : RefundRequest) (s : Checkout) : Prop :=
  ∃ payment ∈ s.payment, payment.refundAmount = some request.refundAmountInPaise ∧
    (findRefund s (request.idempotencyKey.getD (defaultRefundKey s payment))).isSome

section Attempt

variable {config : PaymentConfig} {s s' : Checkout} {payment : Payment} {request : RefundRequest}
  {attempt : RefundAttempt}

theorem refundAttempt_of_no_failure (answer : GatewayRefundAnswer) (mockId : String) :
    refundAttempt config request s ⟨none, answer, mockId⟩ =
      refund config s request answer mockId := by
  unfold refundAttempt
  cases hpayment : s.payment with
  | none => simp [refund, hpayment]
  | some payment =>
    by_cases hpasses : RefundPasses s payment request
    · simp only [hpasses, if_true, refund_eq_of_passes hpayment hpasses]
      cases gatewayRefund config s payment
        (gatewayRefundPart s payment request.refundAmountInPaise) answer mockId with
      | error e => rfl
      | ok result =>
        dsimp only
        cases walletRefund config result.1 payment
          (walletRefundPart s payment request.refundAmountInPaise) <;> simp
    · simp [hpasses]

theorem keyedRecord_not_passes (h : KeyedRecord request s) : ¬ PassesChecks request s := by
  rintro ⟨payment, hpayment, -, -, -, hunknown⟩
  obtain ⟨payment', hpayment', -, hknown⟩ := h
  cases Option.mem_unique hpayment hpayment'
  rw [hunknown] at hknown
  cases hknown

/-- What an attempt does that the gateway does not refuse: it may open one gateway refund and
make one wallet credit, under the key of the refund's credit. -/
structure MovesMoney (config : PaymentConfig) (s s' : Checkout) (payment : Payment)
    (request : RefundRequest) (answer : GatewayRefundAnswer) : Prop where
  booking : s'.booking = s.booking
  gateway_of_issues : Issues config s payment request answer →
    s'.gatewayRefunds.length = s.gatewayRefunds.length + 1
  gateway_of_not : ¬ Issues config s payment request answer →
    s'.gatewayRefunds.length = s.gatewayRefunds.length
  wallet : s'.wallet.entries = s.wallet.entries ∨
    s.wallet.findEntry (walletRefundKey s payment) = none ∧
      ∃ entry, entry.idempotencyKey = walletRefundKey s payment ∧
        s'.wallet.entries = s.wallet.entries ++ [entry]

theorem gatewayRefund_length {s₁ : Checkout} {refundId : GatewayRefundId} {status : RefundStatus}
    {mockId : String} {answer : GatewayRefundAnswer}
    (h : gatewayRefund config s payment
      (gatewayRefundPart s payment request.refundAmountInPaise) answer mockId =
        .ok (s₁, refundId, status)) : MovesMoney config s s₁ payment request answer := by
  have hframe := gatewayRefund_eq_ok h
  obtain ⟨gatewayRefunds, rfl⟩ := hframe
  have hlength : Issues config s payment request answer ∧
        gatewayRefunds.length = s.gatewayRefunds.length + 1 ∨
      ¬ Issues config s payment request answer ∧
        gatewayRefunds.length = s.gatewayRefunds.length := by
    rcases gatewayRefund_cases h with ⟨hnone, -, -, hsame⟩ | ⟨hpos, hmock, -, -, hadded⟩ |
      ⟨hpos, hlive, id, state, -, -, ⟨hanswer, hsame⟩ | ⟨hanswer, hadded⟩⟩
    · have heq : gatewayRefunds = s.gatewayRefunds := congrArg Checkout.gatewayRefunds hsame
      exact .inr ⟨fun hissues => not_lt.mpr hnone hissues.1, by rw [heq]⟩
    · obtain ⟨refund, -, -, hadded⟩ := hadded
      have heq : gatewayRefunds = s.gatewayRefunds ++ [refund] :=
        congrArg Checkout.gatewayRefunds hadded
      exact .inl ⟨⟨hpos, .inl hmock⟩, by rw [heq, List.length_append, List.length_singleton]⟩
    · have heq : gatewayRefunds = s.gatewayRefunds := congrArg Checkout.gatewayRefunds hsame
      refine .inr ⟨?_, by rw [heq]⟩
      rintro ⟨-, hmock | hissued⟩
      · rw [hlive] at hmock
        cases hmock
      · rw [hanswer] at hissued
        cases hissued
    · obtain ⟨refund, -, -, hadded⟩ := hadded
      have heq : gatewayRefunds = s.gatewayRefunds ++ [refund] :=
        congrArg Checkout.gatewayRefunds hadded
      refine .inl ⟨⟨hpos, .inr ?_⟩, by rw [heq, List.length_append, List.length_singleton]⟩
      rw [hanswer]
      rfl
  refine ⟨rfl, fun hissues => ?_, fun hnot => ?_, .inl rfl⟩
  · exact (hlength.resolve_right fun h => h.1 hissues).2
  · exact (hlength.resolve_left fun h => hnot h.1).2

theorem walletRefund_entries {s₁ s₂ : Checkout} {walletPaise : ℤ}
    (h : walletRefund config s₁ payment walletPaise = .ok s₂) :
    s₂.wallet.entries = s₁.wallet.entries ∨
      s₁.wallet.findEntry (walletRefundKey s₁ payment) = none ∧
        ∃ entry, entry.idempotencyKey = walletRefundKey s₁ payment ∧
          s₂.wallet.entries = s₁.wallet.entries ++ [entry] := by
  unfold walletRefund at h
  split at h
  · split at h
    next wallet hcredit =>
      cases h
      have hentries := (Wallet.creditWallet_eq_ok hcredit).2
      cases hfound : s₁.wallet.findEntry (walletRefundKey s₁ payment) with
      | some entry =>
        rw [hfound] at hentries
        exact .inl (by simpa using hentries)
      | none =>
        rw [hfound] at hentries
        exact .inr ⟨rfl, _, rfl, hentries⟩
    · cases h
  · cases h
    exact .inl rfl

theorem movesMoney_of_both {s₁ s₂ : Checkout} {answer : GatewayRefundAnswer} {walletPaise : ℤ}
    (hgateway : MovesMoney config s s₁ payment request answer) (hsame : s₁.wallet = s.wallet)
    (hwallet : walletRefund config s₁ payment walletPaise = .ok s₂) :
    MovesMoney config s s₂ payment request answer := by
  have hentries := walletRefund_entries hwallet
  obtain ⟨wallet, rfl⟩ := walletRefund_eq_ok hwallet
  have hkey : walletRefundKey s₁ payment = walletRefundKey s payment := by
    unfold walletRefundKey
    rw [hgateway.booking]
  rw [hkey, hsame] at hentries
  exact ⟨hgateway.booking, hgateway.gateway_of_issues, hgateway.gateway_of_not, hentries⟩

theorem findRefund_append_isSome (row : PaymentRefund) (refunds : List PaymentRefund)
    (hrefunds : s'.refunds = refunds ++ [row]) : (findRefund s' row.idempotencyKey).isSome := by
  rw [findRefund, hrefunds, List.find?_isSome]
  exact ⟨row, List.mem_append_right _ (List.mem_singleton_self row), by simp⟩

theorem findRefund_recordRefund_iff {paise : ℤ} {key : String} {requestedByUserId : Option Id}
    {refundId : GatewayRefundId} {status : RefundStatus}
    (hunknown : findRefund s key = none) :
    (findRefund (recordRefund s payment paise key requestedByUserId refundId status) key).isSome ↔
      refundId ∉ refundIds s.refunds := by
  have hrefunds : (recordRefund s payment paise key requestedByUserId refundId status).refunds =
      addRefundRow s.refunds (refundRow key paise refundId status) := rfl
  rw [addRefundRow_eq] at hrefunds
  by_cases hmem : refundId ∈ refundIds s.refunds
  · rw [if_pos hmem] at hrefunds
    refine iff_of_false ?_ (not_not.mpr hmem)
    rw [findRefund, hrefunds]
    show ¬ (findRefund s _).isSome
    rw [hunknown]
    exact Bool.false_ne_true
  · rw [if_neg hmem] at hrefunds
    exact iff_of_true (findRefund_append_isSome _ _ hrefunds) hmem

theorem refundAttempt_cases (hpayment : s.payment = some payment)
    (hpasses : RefundPasses s payment request) (attempt : RefundAttempt) :
    (gatewayTakes config payment (gatewayRefundPart s payment request.refundAmountInPaise)
          attempt.answer = false ∧ ∃ e, refundAttempt config request s attempt = (s, .error e)) ∨
      gatewayTakes config payment (gatewayRefundPart s payment request.refundAmountInPaise)
          attempt.answer = true ∧
        ((Stops config s payment request attempt ∧
            ∃ s' e, refundAttempt config request s attempt = (s', .error e) ∧
              MovesMoney config s s' payment request attempt.answer ∧
              s'.payment = s.payment ∧ s'.refunds = s.refunds) ∨
          ¬ Stops config s payment request attempt ∧
            ∃ s' reply payment', refundAttempt config request s attempt = (s', .ok reply) ∧
              MovesMoney config s s' payment request attempt.answer ∧
              s'.payment = some payment' ∧ payment'.id = payment.id ∧
              payment'.refundAmount = some request.refundAmountInPaise ∧
              ((findRefund s' (request.idempotencyKey.getD (defaultRefundKey s payment))).isSome ↔
                ¬ LosesRow config s payment request attempt)) := by
  have hunknown := hpasses.2.2.2
  unfold refundAttempt Stops LosesRow
  simp only [hpayment, hpasses, if_true]
  rw [← gatewayRefund_isOk config s payment _ attempt.answer attempt.mockId]
  cases hgateway : gatewayRefund config s payment
      (gatewayRefundPart s payment request.refundAmountInPaise) attempt.answer attempt.mockId with
  | error e => exact .inl ⟨rfl, e, rfl⟩
  | ok result =>
    obtain ⟨s₁, refundId, status⟩ := result
    have hmoves := gatewayRefund_length hgateway
    have hid := gatewayRefund_id hgateway
    obtain ⟨gatewayRefunds, rfl⟩ := gatewayRefund_eq_ok hgateway
    refine .inr ⟨rfl, ?_⟩
    dsimp only
    by_cases hearly : attempt.failure = some .gatewayAnswered ∨
        attempt.failure = some .walletCredit ∧
          0 < walletRefundPart s payment request.refundAmountInPaise
    · rw [if_pos hearly]
      refine .inl ⟨?_, _, _, rfl, hmoves, hpayment, rfl⟩
      rcases hearly with hanswered | hcredit
      · exact .inl hanswered
      · exact .inr (.inl hcredit)
    rw [if_neg hearly, ← walletRefund_isOk_of_gateway gatewayRefunds]
    cases hwallet : walletRefund config { s with gatewayRefunds } payment
        (walletRefundPart s payment request.refundAmountInPaise) with
    | error e => exact .inl ⟨.inr (.inr (.inl rfl)), _, _, rfl, hmoves, hpayment, rfl⟩
    | ok s₂ =>
      have hboth := movesMoney_of_both hmoves rfl hwallet
      obtain ⟨wallet, rfl⟩ := walletRefund_eq_ok hwallet
      dsimp only
      by_cases hupdate : attempt.failure = some .paymentUpdate
      · rw [if_pos hupdate]
        exact .inl ⟨.inr (.inr (.inr hupdate)), _, _, rfl, hboth, hpayment, rfl⟩
      rw [if_neg hupdate]
      refine .inr ⟨?_, _, _,
        { payment with
          status := if status = .processed then .refunded else .paid
          razorpayRefundId := some refundId
          refundAmount := some request.refundAmountInPaise
          refundStatus := status }, rfl, ?_, ?_, rfl, rfl, ?_⟩
      · rintro (hanswered | hcredit | hrefused | hupdated)
        · exact hearly (.inl hanswered)
        · exact hearly (.inr hcredit)
        · cases hrefused
        · exact hupdate hupdated
      · split <;>
          exact ⟨hboth.booking, hboth.gateway_of_issues, hboth.gateway_of_not, hboth.wallet⟩
      · split <;> rfl
      · by_cases hrow : attempt.failure = some .refundRowCreate
        · rw [if_pos hrow]
          refine iff_of_false ?_ (not_not.mpr (.inl hrow))
          show ¬ (findRefund s _).isSome
          rw [hunknown]
          exact Bool.false_ne_true
        · rw [if_neg hrow]
          simp only [hrow, false_or, hid, Option.mem_def, Option.some.injEq, exists_eq_left']
          exact findRefund_recordRefund_iff hunknown

theorem refundAttempt_of_not_passes (hnot : ¬ PassesChecks request s) (attempt : RefundAttempt) :
    (refundAttempt config request s attempt).1 = s ∨
      ∃ payment, s.payment = some payment ∧ request.refundAmountInPaise ≤ 0 ∧
        (refundAttempt config request s attempt).1 =
          s.setPayment { payment with refundAmount := some 0, refundStatus := .none } := by
  unfold refundAttempt
  cases hpayment : s.payment with
  | none => exact .inl rfl
  | some payment =>
    have hfails : ¬ RefundPasses s payment request := fun h => hnot ⟨payment, hpayment, h⟩
    simp only [hfails, if_false]
    split
    · exact .inl rfl
    next hupdate =>
      by_cases hpositive : 0 < request.refundAmountInPaise
      · refine .inl ?_
        unfold refund
        simp only [hpayment, not_le.mpr hpositive, if_false]
        split
        · rfl
        next hpaid =>
          split
          · rfl
          next hfits =>
            cases hknown : findRefund s
                (request.idempotencyKey.getD (defaultRefundKey s payment)) with
            | some existing => rfl
            | none =>
              exact absurd ⟨not_not.mp hpaid, hpositive, not_lt.mp hfits, hknown⟩ hfails
      · rcases refund_of_not_passes hpayment hfails attempt.answer attempt.mockId with
          hsame | hwritten
        · exact .inl hsame
        · exact .inr ⟨payment, rfl, not_lt.mp hpositive, hwritten⟩

end Attempt

/-! ## Retries -/

/-- A checkout on which a refund is tried, and whether an attempt has stopped after the gateway
issued a refund. -/
structure RefundRun where
  checkout : Checkout
  interrupted : Bool

/-- The attempt stops after the gateway has issued a refund. -/
def interrupts (config : PaymentConfig) (request : RefundRequest) (s : Checkout)
    (attempt : RefundAttempt) : Bool :=
  s.payment.any fun payment =>
    RefundPasses s payment request ∧
      gatewayTakes config payment (gatewayRefundPart s payment request.refundAmountInPaise)
        attempt.answer = true ∧
      Issues config s payment request attempt.answer ∧ Stops config s payment request attempt

def retryStep (config : PaymentConfig) (request : RefundRequest) (r : RefundRun)
    (attempt : RefundAttempt) : RefundRun where
  checkout := (refundAttempt config request r.checkout attempt).1
  interrupted := r.interrupted || interrupts config request r.checkout attempt

/-- After the attempt there is at most one gateway refund and one wallet credit more than at
the start, and once an attempt returns the refund is recorded. -/
structure RetryLaw (config : PaymentConfig) (request : RefundRequest) (start : Checkout)
    (r : RefundRun) (attempt : RefundAttempt) : Prop where
  issued : (refundAttempt config request r.checkout attempt).1.gatewayRefunds.length ≤
    start.gatewayRefunds.length + 1
  credited : (refundAttempt config request r.checkout attempt).1.wallet.entries.length ≤
    start.wallet.entries.length + 1
  recorded : PassesChecks request start →
    (refundAttempt config request r.checkout attempt).2.isOk = true →
      KeyedRecord request (refundAttempt config request r.checkout attempt).1

/-- The gateway does not issue a refund after an attempt that stopped with one issued, and an
attempt that goes through creates its row. -/
def CanRetry (config : PaymentConfig) (request : RefundRequest) (r : RefundRun)
    (attempt : RefundAttempt) : Prop :=
  ∀ payment ∈ r.checkout.payment, RefundPasses r.checkout payment request →
    gatewayTakes config payment (gatewayRefundPart r.checkout payment request.refundAmountInPaise)
        attempt.answer = true →
      (r.interrupted = true → ¬ Issues config r.checkout payment request attempt.answer) ∧
        (¬ Stops config r.checkout payment request attempt →
          ¬ LosesRow config r.checkout payment request attempt)

/-- What the attempts have done since the start. -/
structure Retrying (request : RefundRequest) (start : Checkout) (r : RefundRun) : Prop where
  issued_ge : start.gatewayRefunds.length ≤ r.checkout.gatewayRefunds.length
  issued_le : r.checkout.gatewayRefunds.length ≤ start.gatewayRefunds.length + 1
  credited_le : r.checkout.wallet.entries.length ≤ start.wallet.entries.length + 1
  credited : start.wallet.entries.length < r.checkout.wallet.entries.length →
    ∀ payment ∈ r.checkout.payment,
      r.checkout.wallet.findEntry (walletRefundKey r.checkout payment) ≠ none
  interrupted : r.interrupted = true →
    start.gatewayRefunds.length < r.checkout.gatewayRefunds.length
  known : start.gatewayRefunds.length < r.checkout.gatewayRefunds.length →
    r.interrupted = true ∨ ¬ PassesChecks request r.checkout
  recorded : PassesChecks request start →
    PassesChecks request r.checkout ∨ KeyedRecord request r.checkout
  refused : ¬ PassesChecks request start → ¬ PassesChecks request r.checkout

section Run

variable {config : PaymentConfig} {request : RefundRequest} {start : Checkout} {r : RefundRun}
  {payment : Payment}

theorem retrying_start (request : RefundRequest) (start : Checkout) :
    Retrying request start ⟨start, false⟩ where
  issued_ge := le_refl _
  issued_le := Nat.le_succ _
  credited_le := Nat.le_succ _
  credited := fun h => absurd h (lt_irrefl _)
  interrupted := fun h => absurd h Bool.false_ne_true
  known := fun h => absurd h (lt_irrefl _)
  recorded := Or.inl
  refused := id

theorem interrupts_iff (hpayment : r.checkout.payment = some payment) (attempt : RefundAttempt) :
    interrupts config request r.checkout attempt = true ↔
      RefundPasses r.checkout payment request ∧
        gatewayTakes config payment
          (gatewayRefundPart r.checkout payment request.refundAmountInPaise) attempt.answer = true ∧
        Issues config r.checkout payment request attempt.answer ∧
          Stops config r.checkout payment request attempt := by
  simp [interrupts, hpayment]

theorem interrupts_of_not_passes (hnot : ¬ PassesChecks request r.checkout)
    (attempt : RefundAttempt) : interrupts config request r.checkout attempt = false := by
  unfold interrupts
  cases hpayment : r.checkout.payment with
  | none => rfl
  | some payment =>
    have hfails : ¬ RefundPasses r.checkout payment request :=
      fun h => hnot ⟨payment, hpayment, h⟩
    simp [hfails]

theorem Retrying.issued_lt_iff (h : Retrying request start r)
    (hpasses : PassesChecks request r.checkout) :
    start.gatewayRefunds.length < r.checkout.gatewayRefunds.length ↔ r.interrupted = true :=
  ⟨fun hlt => (h.known hlt).resolve_right (not_not.mpr hpasses), h.interrupted⟩

theorem Retrying.credited_after (h : Retrying request start r) {s' : Checkout}
    (hpayment : r.checkout.payment = some payment) {answer : GatewayRefundAnswer}
    (hmoves : MovesMoney config r.checkout s' payment request answer) :
    s'.wallet.entries.length ≤ start.wallet.entries.length + 1 ∧
      (start.wallet.entries.length < s'.wallet.entries.length →
        ∀ payment', payment'.id = payment.id →
          s'.wallet.findEntry (walletRefundKey s' payment') ≠ none) := by
  have hkey : ∀ payment' : Payment, payment'.id = payment.id →
      walletRefundKey s' payment' = walletRefundKey r.checkout payment := by
    intro payment' hid
    unfold walletRefundKey
    rw [hmoves.booking, hid]
  rcases hmoves.wallet with hsame | ⟨hunused, entry, hentry, hadded⟩
  · rw [hsame]
    refine ⟨h.credited_le, fun hlt payment' hid => ?_⟩
    rw [hkey payment' hid, Wallet.findEntry, hsame]
    exact h.credited hlt payment hpayment
  · have hbound : r.checkout.wallet.entries.length ≤ start.wallet.entries.length := by
      by_contra hlt
      exact h.credited (not_le.mp hlt) payment hpayment hunused
    refine ⟨?_, fun _ payment' hid => ?_⟩
    · rw [hadded, List.length_append, List.length_singleton]
      omega
    · rw [hkey payment' hid, Wallet.findEntry, hadded]
      apply Option.ne_none_iff_isSome.mpr
      rw [List.find?_isSome]
      exact ⟨entry, List.mem_append_right _ (List.mem_singleton_self entry), by simp [hentry]⟩

theorem Retrying.of_not_passes (h : Retrying request start r)
    (hnot : ¬ PassesChecks request r.checkout) (attempt : RefundAttempt) :
    Retrying request start (retryStep config request r attempt) ∧
      (PassesChecks request start →
        (refundAttempt config request r.checkout attempt).1 = r.checkout) := by
  have hflag : (retryStep config request r attempt).interrupted = r.interrupted := by
    rw [retryStep, interrupts_of_not_passes hnot, Bool.or_false]
  have hcheckout : (retryStep config request r attempt).checkout =
      (refundAttempt config request r.checkout attempt).1 := rfl
  rcases refundAttempt_of_not_passes hnot attempt with hsame | ⟨payment, hpayment, hempty, hwritten⟩
  · refine ⟨?_, fun _ => hsame⟩
    have hrun : retryStep config request r attempt = r := by
      rw [show retryStep config request r attempt =
        ⟨(retryStep config request r attempt).checkout,
          (retryStep config request r attempt).interrupted⟩ from rfl, hflag, hcheckout, hsame]
    rw [hrun]
    exact h
  · have hnever : ∀ s, ¬ PassesChecks request s :=
      fun s ⟨_, _, _, hpositive, _⟩ => not_lt.mpr hempty hpositive
    refine ⟨⟨?_, ?_, ?_, ?_, ?_, ?_, ?_, ?_⟩, fun hstart => absurd hstart (hnever start)⟩
    · rw [hcheckout, hwritten]
      exact h.issued_ge
    · rw [hcheckout, hwritten]
      exact h.issued_le
    · rw [hcheckout, hwritten]
      exact h.credited_le
    · rw [hcheckout, hwritten]
      intro hlt payment' hpayment'
      cases hpayment'
      exact h.credited hlt payment hpayment
    · rw [hcheckout, hflag, hwritten]
      exact h.interrupted
    · exact fun _ => .inr (hnever _)
    · exact fun hstart => absurd hstart (hnever start)
    · exact fun _ => hnever _

theorem MovesMoney.length_eq {s s' : Checkout} {answer : GatewayRefundAnswer}
    (h : MovesMoney config s s' payment request answer) :
    s'.gatewayRefunds.length = s.gatewayRefunds.length +
      if Issues config s payment request answer then 1 else 0 := by
  split
  next hissues => exact h.gateway_of_issues hissues
  next hnot => exact h.gateway_of_not hnot

theorem Retrying.issued_after (h : Retrying request start r)
    (hpasses : PassesChecks request r.checkout) {s' : Checkout} {answer : GatewayRefundAnswer}
    (hmoves : MovesMoney config r.checkout s' payment request answer) :
    start.gatewayRefunds.length ≤ s'.gatewayRefunds.length ∧
      (s'.gatewayRefunds.length ≤ start.gatewayRefunds.length + 1 ↔
        (r.interrupted = true → ¬ Issues config r.checkout payment request answer)) := by
  have hge := h.issued_ge
  have hle := h.issued_le
  rw [hmoves.length_eq, ← h.issued_lt_iff hpasses]
  by_cases hissues : Issues config r.checkout payment request answer
  · simp only [hissues, if_true, not_true_eq_false, imp_false]
    omega
  · simp only [hissues, if_false, not_false_eq_true, implies_true, iff_true]
    omega

theorem passesChecks_congr {s s' : Checkout} (hbooking : s'.booking = s.booking)
    (hpayment : s'.payment = s.payment) (hrefunds : s'.refunds = s.refunds) :
    PassesChecks request s' ↔ PassesChecks request s := by
  have hkey : defaultRefundKey s' = defaultRefundKey s := by
    funext payment
    rw [defaultRefundKey, defaultRefundKey, hbooking]
  have hfind : findRefund s' = findRefund s := by
    funext key
    rw [findRefund, findRefund, hrefunds]
  unfold PassesChecks RefundPasses
  rw [hkey, hfind, hpayment]

theorem recorded_iff {s' : Checkout} {payment' : Payment} (hbooking : s'.booking = r.checkout.booking)
    (hpayment : s'.payment = some payment') (hid : payment'.id = payment.id)
    (hamount : payment'.refundAmount = some request.refundAmountInPaise) :
    KeyedRecord request s' ↔ (findRefund s'
      (request.idempotencyKey.getD (defaultRefundKey r.checkout payment))).isSome := by
  have hkey : defaultRefundKey s' payment' = defaultRefundKey r.checkout payment := by
    rw [defaultRefundKey, defaultRefundKey, hbooking, hid]
  rw [← hkey]
  constructor
  · rintro ⟨other, hother, -, hrow⟩
    cases Option.mem_unique hpayment hother
    exact hrow
  · exact fun hrow => ⟨payment', hpayment, hamount, hrow⟩

theorem Retrying.step (h : Retrying request start r) {attempt : RefundAttempt}
    (hcan : CanRetry config request r attempt) :
    Retrying request start (retryStep config request r attempt) := by
  by_cases hpasses : PassesChecks request r.checkout
  case neg => exact (h.of_not_passes hpasses attempt).1
  have hchecks := hpasses
  obtain ⟨payment, hpayment, hpass⟩ := hpasses
  have hstart : PassesChecks request start := not_not.mp fun hnot => h.refused hnot hchecks
  have hlt := h.issued_lt_iff hchecks
  have hflag : interrupts config request r.checkout attempt = true ↔ _ :=
    interrupts_iff hpayment attempt
  rcases refundAttempt_cases hpayment hpass attempt with
    ⟨hrefused, e, heq⟩ | ⟨htakes, ⟨hstops, s', e, heq, hmoves, hsame, hrows⟩ |
      ⟨hgoes, s', reply, payment', heq, hmoves, hpayment', hid, hamount, hrow⟩⟩
  · -- the gateway refused it, and nothing has changed
    have hrun : retryStep config request r attempt = r := by
      have hnot : interrupts config request r.checkout attempt = false := by
        rw [← Bool.not_eq_true, hflag, hrefused]
        exact fun hall => Bool.false_ne_true hall.2.1
      rw [retryStep, heq, hnot, Bool.or_false]
    rw [hrun]
    exact h
  · -- it stopped, and passes the checks again
    have hcheckout : (retryStep config request r attempt).checkout = s' := congrArg Prod.fst heq
    obtain ⟨hge, hcount⟩ := h.issued_after hchecks hmoves
    obtain ⟨hcredited, hused⟩ := h.credited_after hpayment hmoves
    have hagain : PassesChecks request s' :=
      (passesChecks_congr hmoves.booking hsame hrows).mpr hchecks
    have hstopped : (retryStep config request r attempt).interrupted = true ↔
        start.gatewayRefunds.length < s'.gatewayRefunds.length := by
      have hfirst := h.issued_ge
      rw [retryStep, Bool.or_eq_true, hflag, hmoves.length_eq, ← hlt]
      by_cases hissues : Issues config r.checkout payment request attempt.answer
      · simp only [hpass, htakes, hstops, hissues, and_self, or_true, if_true, true_iff]
        omega
      · simp only [hissues, false_and, and_false, or_false, if_false]
        omega
    refine ⟨?_, ?_, ?_, ?_, ?_, ?_, ?_, fun hnot => absurd hstart hnot⟩
    · exact hcheckout ▸ hge
    · exact hcheckout ▸ hcount.mpr (hcan payment hpayment hpass htakes).1
    · exact hcheckout ▸ hcredited
    · rw [hcheckout]
      intro hmore other hother
      rw [Option.mem_def, hsame, hpayment, Option.some.injEq] at hother
      exact hused hmore other (by rw [← hother])
    · exact hcheckout ▸ hstopped.mp
    · rw [hcheckout]
      exact fun hmore => .inl (hstopped.mpr hmore)
    · exact fun _ => .inl (hcheckout ▸ hagain)
  · -- it went through, and is recorded
    have hcheckout : (retryStep config request r attempt).checkout = s' := congrArg Prod.fst heq
    obtain ⟨hcan', hkeeps⟩ := hcan payment hpayment hpass htakes
    obtain ⟨hge, hcount⟩ := h.issued_after hchecks hmoves
    obtain ⟨hcredited, hused⟩ := h.credited_after hpayment hmoves
    have hrecorded : KeyedRecord request s' :=
      (recorded_iff hmoves.booking hpayment' hid hamount).mpr (hrow.mpr (hkeeps hgoes))
    have hstopped : (retryStep config request r attempt).interrupted = r.interrupted := by
      have hnot : interrupts config request r.checkout attempt = false := by
        rw [← Bool.not_eq_true, hflag]
        exact fun hall => hgoes hall.2.2.2
      rw [retryStep, hnot, Bool.or_false]
    refine ⟨?_, ?_, ?_, ?_, ?_, ?_, ?_, fun hnot => absurd hstart hnot⟩
    · exact hcheckout ▸ hge
    · exact hcheckout ▸ hcount.mpr hcan'
    · exact hcheckout ▸ hcredited
    · rw [hcheckout]
      intro hmore other hother
      rw [Option.mem_def, hpayment', Option.some.injEq] at hother
      exact hused hmore other (by rw [← hother, hid])
    · rw [hcheckout, hstopped, hmoves.length_eq]
      intro hflagged
      have hmore := hlt.mpr hflagged
      omega
    · exact fun _ => .inr (hcheckout ▸ keyedRecord_not_passes hrecorded)
    · exact fun _ => .inr (hcheckout ▸ hrecorded)

theorem Retrying.law_iff (h : Retrying request start r) (attempt : RefundAttempt) :
    RetryLaw config request start r attempt ↔ CanRetry config request r attempt := by
  by_cases hpasses : PassesChecks request r.checkout
  case neg =>
    have hkept : Retrying request start (retryStep config request r attempt) ∧ _ :=
      h.of_not_passes hpasses attempt
    refine iff_of_true ⟨hkept.1.issued_le, hkept.1.credited_le, fun hstart _ => ?_⟩
      fun payment hpayment hpass => absurd ⟨payment, hpayment, hpass⟩ hpasses
    rw [hkept.2 hstart]
    exact (h.recorded hstart).resolve_left hpasses
  obtain ⟨payment, hpayment, hpass⟩ := hpasses
  have hchecks : PassesChecks request r.checkout := ⟨payment, hpayment, hpass⟩
  have hstart : PassesChecks request start := not_not.mp fun hnot => h.refused hnot hchecks
  have hcan : CanRetry config request r attempt ↔
      (gatewayTakes config payment
          (gatewayRefundPart r.checkout payment request.refundAmountInPaise) attempt.answer = true →
        (r.interrupted = true → ¬ Issues config r.checkout payment request attempt.answer) ∧
          (¬ Stops config r.checkout payment request attempt →
            ¬ LosesRow config r.checkout payment request attempt)) := by
    constructor
    · exact fun hall => hall payment hpayment hpass
    · intro hone other hother _
      cases Option.mem_unique hpayment hother
      exact hone
  rw [hcan]
  rcases refundAttempt_cases hpayment hpass attempt with
    ⟨hrefused, e, heq⟩ | ⟨htakes, ⟨hstops, s', e, heq, hmoves, hsame, hrows⟩ |
      ⟨hgoes, s', reply, payment', heq, hmoves, hpayment', hid, hamount, hrow⟩⟩
  · have hlaw : RetryLaw config request start r attempt := by
      constructor
      · rw [heq]
        exact h.issued_le
      · rw [heq]
        exact h.credited_le
      · rw [heq]
        exact fun _ hok => absurd hok Bool.false_ne_true
    refine iff_of_true hlaw fun htakes => ?_
    rw [hrefused] at htakes
    cases htakes
  · have hcredited := (h.credited_after hpayment hmoves).1
    have hcount := (h.issued_after hchecks hmoves).2
    constructor
    · intro hlaw _
      have hissued := hlaw.issued
      rw [heq] at hissued
      exact ⟨hcount.mp hissued, fun hgoes => absurd hstops hgoes⟩
    · intro hall
      constructor
      · rw [heq]
        exact hcount.mpr (hall htakes).1
      · rw [heq]
        exact hcredited
      · rw [heq]
        exact fun _ hok => absurd hok Bool.false_ne_true
  · have hcredited := (h.credited_after hpayment hmoves).1
    have hcount := (h.issued_after hchecks hmoves).2
    have hrecorded := recorded_iff hmoves.booking hpayment' hid hamount
    constructor
    · intro hlaw _
      have hissued := hlaw.issued
      have hdone := hlaw.recorded hstart
      rw [heq] at hissued hdone
      exact ⟨hcount.mp hissued, fun _ => hrow.mp (hrecorded.mp (hdone rfl))⟩
    · intro hall
      obtain ⟨hfirst, hkeeps⟩ := hall htakes
      constructor
      · rw [heq]
        exact hcount.mpr hfirst
      · rw [heq]
        exact hcredited
      · rw [heq]
        exact fun _ _ => hrecorded.mpr (hrow.mpr (hkeeps hgoes))

end Run

/-- Whatever fails in the attempts of a refund, they issue one gateway refund and one wallet
credit and end with the refund recorded exactly when each of them may be made. -/
theorem refund_retries_iff (config : PaymentConfig) (request : RefundRequest) (start : Checkout)
    (attempts : List RefundAttempt) :
    Along (retryStep config request) (RetryLaw config request start) ⟨start, false⟩ attempts ↔
      Along (retryStep config request) (CanRetry config request) ⟨start, false⟩ attempts :=
  along_congr_within (fun _ _ h hcan => h.step hcan) (fun _ attempt _ h => h.law_iff attempt)
    (retrying_start request start)

def refundablePayment : Checkout :=
  sampleCheckout.setPayment
    { samplePayment with status := .paid, razorpayPaymentId := some "pay" }

/-- The payment's update fails, and the refund is asked for again. -/
def retriedRefund : List RefundAttempt :=
  [⟨some .paymentUpdate, .issued "first" .processed, ""⟩, ⟨none, .issued "second" .processed, ""⟩]

/-- The gateway has then refunded twice. -/
theorem retry_refunds_twice :
    ¬ ∀ (config : PaymentConfig) (request : RefundRequest) (start : Checkout)
      (attempts : List RefundAttempt),
        Along (retryStep config request) (RetryLaw config request start) ⟨start, false⟩
          attempts := by
  intro h
  obtain ⟨-, hsecond, -⟩ := h liveConfig ⟨50000, some "key", none⟩ refundablePayment retriedRefund
  have hissued := hsecond.issued
  revert hissued
  decide +kernel

end CarRental
