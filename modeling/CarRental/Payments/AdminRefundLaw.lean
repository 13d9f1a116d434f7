import CarRental.Payments.RefundRetries

/-!
# What a successful admin refund returns

`adminRefund` admits payments that were refunded in part and passes them on to `refund`,
which answers without an error that it has nothing to do.  `admin_refund_exact_iff` says
exactly when a success means that the payment's refunded total and the money sent back have
both grown by the amount asked for.
-/

namespace CarRental

/-- What the payment says was refunded. -/
def refundedTotal (s : Checkout) : ℤ :=
  (s.payment.bind fun payment => payment.refundAmount).getD 0

/-- The gateway takes on its part, and the wallet has not been credited for this payment. -/
def SendsBothParts (config : PaymentConfig) (s : Checkout) (payment : Payment) (paise : ℤ)
    (answer : GatewayRefundAnswer) : Prop :=
  0 ≤ gatewayRefundPart s payment paise ∧
    (0 < gatewayRefundPart s payment paise → config.useMock = true ∨ answer.isAccepted = true) ∧
    (0 < walletRefundPart s payment paise →
      s.wallet.findEntry (walletRefundKey s payment) = none)

/-- The refund is one of a payment that is `PAID`, of a positive amount, and, unless it is
refused, under a new key, with nothing refunded before and both parts sent. -/
def RefundsExactly (config : PaymentConfig) (s : Checkout) (payment : Payment)
    (request : RefundRequest) (answer : GatewayRefundAnswer) : Prop :=
  payment.status = .paid ∧ 0 < request.refundAmountInPaise ∧
    (request.refundAmountInPaise ≤ payment.amount.paise →
      findRefund s (request.idempotencyKey.getD (defaultRefundKey s payment)) = none ∧
      (gatewayTakes config payment (gatewayRefundPart s payment request.refundAmountInPaise)
          answer = true →
        walletTakes config s payment (walletRefundPart s payment request.refundAmountInPaise) =
            true →
          payment.refundAmount.getD 0 = 0 ∧
            SendsBothParts config s payment request.refundAmountInPaise answer))

/-- The recorded total and the money sent back have grown by `paise`. -/
def GrowsBy (s s' : Checkout) (paise : ℤ) : Prop :=
  refundedTotal s' = refundedTotal s + paise ∧ sentBack s' = sentBack s + paise

instance (s s' : Checkout) (paise : ℤ) : Decidable (GrowsBy s s' paise) :=
  inferInstanceAs (Decidable (_ ∧ _))

section Law

variable {config : PaymentConfig} {s : Checkout} {payment : Payment} {request : RefundRequest}
  {answer : GatewayRefundAnswer} {mockId : String}

theorem sendsBothParts_iff {paise : ℤ} (hpos : 0 < paise)
    (htakes : walletTakes config s payment (walletRefundPart s payment paise) = true) :
    gatewaySent config (gatewayRefundPart s payment paise) answer +
        walletSent config s payment (walletRefundPart s payment paise) = paise ↔
      SendsBothParts config s payment paise answer := by
  have hle : gatewayRefundPart s payment paise ≤ paise := min_le_left _ _
  rw [walletSent_of_takes htakes, gatewaySent]
  exact newParts_sum_iff hpos hle _ _

theorem refund_growsBy_iff_of_passes (hpayment : s.payment = some payment)
    (hpasses : RefundPasses s payment request) (answer : GatewayRefundAnswer) (mockId : String) :
    (∀ reply, (refund config s request answer mockId).2 = .ok reply →
        GrowsBy s (refund config s request answer mockId).1 request.refundAmountInPaise) ↔
      (gatewayTakes config payment (gatewayRefundPart s payment request.refundAmountInPaise)
          answer = true →
        walletTakes config s payment (walletRefundPart s payment request.refundAmountInPaise) =
            true →
          payment.refundAmount.getD 0 = 0 ∧
            SendsBothParts config s payment request.refundAmountInPaise answer) := by
  have hsent := (refund_sentBack config s request answer mockId).2
  rw [← refundAttempt_of_no_failure] at hsent ⊢
  rcases refundAttempt_cases hpayment hpasses ⟨none, answer, mockId⟩ with
    ⟨hrefused, e, heq⟩ | ⟨htakes, ⟨hstops, s', e, heq, -⟩ |
      ⟨hgoes, s', reply, payment', heq, -, hpayment', -, hamount, -⟩⟩
  · rw [heq, hrefused]
    exact iff_of_true (fun _ hreply => by cases hreply) fun htakes => by cases htakes
  · have hwallet : walletTakes config s payment
        (walletRefundPart s payment request.refundAmountInPaise) = false := by
      rcases hstops with hanswered | ⟨hcredit, -⟩ | hwallet | hupdate
      · cases hanswered
      · cases hcredit
      · exact hwallet
      · cases hupdate
    rw [heq, hwallet]
    exact iff_of_true (fun _ hreply => by cases hreply) fun _ htakes => by cases htakes
  · have hwallet : walletTakes config s payment
        (walletRefundPart s payment request.refundAmountInPaise) = true := by
      by_contra hrefused
      exact hgoes (.inr (.inr (.inl (Bool.eq_false_of_not_eq_true hrefused))))
    rw [heq] at hsent ⊢
    have hbefore : refundedTotal s = payment.refundAmount.getD 0 := by
      simp [refundedTotal, hpayment]
    have hafter : refundedTotal s' = request.refundAmountInPaise := by
      simp [refundedTotal, hpayment', hamount]
    have hamountSent : refundSent config s request answer =
        gatewaySent config (gatewayRefundPart s payment request.refundAmountInPaise) answer +
          walletSent config s payment
            (walletRefundPart s payment request.refundAmountInPaise) := by
      simp only [refundSent, hpayment, hpasses, htakes, and_self, if_true]
    have hparts : _ ↔ SendsBothParts config s payment request.refundAmountInPaise answer :=
      sendsBothParts_iff hpasses.2.1 hwallet
    have hgrows : GrowsBy s s' request.refundAmountInPaise ↔
        payment.refundAmount.getD 0 = 0 ∧
          SendsBothParts config s payment request.refundAmountInPaise answer := by
      rw [GrowsBy, hafter, hbefore, hsent, hamountSent, ← hparts]
      refine and_congr ?_ ?_
      · constructor <;> intro <;> omega
      · constructor <;> intro <;> omega
    rw [← hgrows]
    constructor
    · exact fun h _ _ => h reply rfl
    · exact fun h _ _ => h htakes hwallet

theorem not_growsBy_of_not_passes (hpayment : s.payment = some payment)
    (hnot : ¬ RefundPasses s payment request) (hpositive : request.refundAmountInPaise ≠ 0) :
    ¬ GrowsBy s (refund config s request answer mockId).1 request.refundAmountInPaise := by
  rintro ⟨-, hsent⟩
  have hnothing := (refund_sentBack config s request answer mockId).2
  have hzero : refundSent config s request answer = 0 := by
    simp only [refundSent, hpayment, hnot, false_and, if_false]
  omega

theorem refund_growsBy_iff (hpayment : s.payment = some payment)
    (hnonzero : request.refundAmountInPaise ≠ 0) (answer : GatewayRefundAnswer)
    (mockId : String) :
    (∀ reply, (refund config s request answer mockId).2 = .ok reply →
        GrowsBy s (refund config s request answer mockId).1 request.refundAmountInPaise) ↔
      RefundsExactly config s payment request answer := by
  unfold RefundsExactly
  by_cases hpasses : RefundPasses s payment request
  · rw [refund_growsBy_iff_of_passes hpayment hpasses]
    obtain ⟨hpaid, hpositive, hfits, hunknown⟩ := hpasses
    simp only [hpaid, hpositive, hfits, hunknown, true_and, forall_const]
  · -- it fails a check: only an amount that is too large is refused
    have hnever : ¬ GrowsBy s (refund config s request answer mockId).1
        request.refundAmountInPaise := not_growsBy_of_not_passes hpayment hpasses hnonzero
    by_cases hrefused : payment.status = .paid ∧ 0 < request.refundAmountInPaise ∧
        payment.amount.paise < request.refundAmountInPaise
    · obtain ⟨hpaid, hpositive, hexceeds⟩ := hrefused
      refine iff_of_true (fun reply hreply => ?_)
        ⟨hpaid, hpositive, fun hfits => absurd hfits (not_le.mpr hexceeds)⟩
      simp [refund, hpayment, hpaid, not_le.mpr hpositive, hexceeds] at hreply
    · refine iff_of_false (fun h => ?_) ?_
      · obtain ⟨reply, hreply⟩ : ∃ reply, (refund config s request answer mockId).2 = .ok reply := by
          unfold refund
          simp only [hpayment]
          split
          · exact ⟨_, rfl⟩
          next hpaid =>
            split
            · exact ⟨_, rfl⟩
            next hpositive =>
              split
              next hexceeds => exact absurd ⟨not_not.mp hpaid, not_le.mp hpositive, hexceeds⟩ hrefused
              next hfits =>
                cases hknown : findRefund s
                    (request.idempotencyKey.getD (defaultRefundKey s payment)) with
                | some existing => exact ⟨_, rfl⟩
                | none =>
                  exact absurd ⟨not_not.mp hpaid, not_le.mp hpositive, not_lt.mp hfits, hknown⟩
                    hpasses
        exact hnever (h reply hreply)
      · rintro ⟨hpaid, hpositive, hunknown⟩
        by_cases hfits : request.refundAmountInPaise ≤ payment.amount.paise
        · exact hpasses ⟨hpaid, hpositive, hfits, (hunknown hfits).1⟩
        · exact hrefused ⟨hpaid, hpositive, not_le.mp hfits⟩

end Law

theorem adminRefundRequest_eq_some {s : Checkout} {dto : AdminRefundDto} {adminId : Id}
    {isAdmin : Bool} {generatedKey : String} {request : RefundRequest}
    (h : adminRefundRequest s dto adminId isAdmin generatedKey = some request) :
    ∃ payment, s.payment = some payment ∧
      request.refundAmountInPaise = adminRefundTarget payment dto ∧
        request.refundAmountInPaise ≠ 0 := by
  unfold adminRefundRequest at h
  cases hpayment : s.payment with
  | none =>
    rw [hpayment] at h
    cases h
  | some payment =>
    rw [hpayment] at h
    simp only at h
    split at h
    next hchecks =>
      cases h
      refine ⟨payment, rfl, rfl, ?_⟩
      show adminRefundTarget payment dto ≠ 0
      have hleft := hchecks.2.2.1
      unfold adminRefundTarget
      simp only
      split
      · split <;> omega
      · omega
    · cases h

/-- A success of `adminRefund` means what it says exactly when the request that passes its
checks refunds exactly. -/
theorem admin_refund_exact_iff (config : PaymentConfig) (s : Checkout) (dto : AdminRefundDto)
    (adminId : Id) (isAdmin : Bool) (generatedKey : String) (answer : GatewayRefundAnswer)
    (mockId : String) :
    (∀ payment reply, s.payment = some payment →
        (adminRefund config s dto adminId isAdmin generatedKey answer mockId).2 = .ok reply →
          GrowsBy s (adminRefund config s dto adminId isAdmin generatedKey answer mockId).1
            (adminRefundTarget payment dto)) ↔
      ∀ payment request, s.payment = some payment →
        adminRefundRequest s dto adminId isAdmin generatedKey = some request →
          RefundsExactly config s payment request answer := by
  rcases adminRefund_cases config s dto adminId isAdmin generatedKey answer mockId with
    ⟨hnone, e, heq⟩ | ⟨request, hsome, heq⟩
  · rw [hnone, heq]
    exact iff_of_true (fun _ _ _ hreply => by cases hreply) fun _ _ _ hsome => by cases hsome
  · obtain ⟨payment, hpayment, htarget, hnonzero⟩ := adminRefundRequest_eq_some hsome
    have hiff : _ ↔ RefundsExactly config s payment request answer :=
      refund_growsBy_iff hpayment hnonzero answer mockId
    rw [hsome, heq]
    constructor
    · intro h payment' request' hpayment' hrequest'
      cases hpayment.symm.trans hpayment'
      cases hrequest'
      refine hiff.mp fun reply hreply => ?_
      rw [htarget]
      exact h payment reply hpayment hreply
    · intro h payment' reply hpayment' hreply
      cases hpayment.symm.trans hpayment'
      rw [← htarget]
      exact hiff.mpr (h payment request hpayment rfl) reply hreply

def partlyRefunded : Checkout :=
  sampleCheckout.setPayment
    { samplePayment with
      status := .refunded
      razorpayPaymentId := some "pay"
      razorpayRefundId := some (.issued "first")
      refundAmount := some 50000
      refundStatus := .processed }

/-- A second refund of 300.00 is reported as a success, and nothing is refunded. -/
theorem admin_refund_skipped :
    ¬ ∀ (config : PaymentConfig) (s : Checkout) (dto : AdminRefundDto) (adminId : Id)
      (isAdmin : Bool) (generatedKey : String) (answer : GatewayRefundAnswer) (mockId : String)
      (payment : Payment) (reply : RefundReply), s.payment = some payment →
        (adminRefund config s dto adminId isAdmin generatedKey answer mockId).2 = .ok reply →
          GrowsBy s (adminRefund config s dto adminId isAdmin generatedKey answer mockId).1
            (adminRefundTarget payment dto) := by
  intro h
  have hgrows := h liveConfig partlyRefunded ⟨some 30000, none⟩ "admin" true "key"
    (.issued "second" .processed) "" _ _ rfl rfl
  revert hgrows
  decide +kernel

end CarRental
