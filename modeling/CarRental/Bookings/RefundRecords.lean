import CarRental.Bookings.Cancellation
import CarRental.Payments.RefundRows

/-!
# What the refund rows of a cancelled booking record

The processed amounts of a booking's `PaymentRefund` rows should add up to what the gateway
and the wallet have returned; a refund that succeeds should leave no row `PENDING` or
`RETRYABLE`, and one that the gateway only holds as pending should not be recorded as
`PROCESSED`.

A cancellation writes its refund down twice.  The intent is a row without a refund id,
`refund` adds a row with the gateway's id, and then the intent is to get the same id, which is
unique.  That update fails, and its error marks the intent for a retry, although the refund has
gone through.  The only call that refunds again is the admin's, and
no event about a pending refund reaches the rows.

## Strategy

`refund_inRecords_iff` and `executeCancellation_inRecords_iff` say for one refund, alone and
after a cancellation, exactly when the rows stay right.  They rest on `RefundRows`, what every
row that these calls write satisfies.
-/

namespace CarRental

open Runs

/-! ## Closing an intent -/

/-- No other row would get the refund id, or has it. -/
def Unclaimed (refunds : List PaymentRefund) (refundId : Option GatewayRefundId) : Prop :=
  ∀ id ∈ refundId, (∀ row ∈ refunds, row.status ≠ .pending) ∧ id ∉ refundIds refunds

instance (refunds : List PaymentRefund) (refundId : Option GatewayRefundId) :
    Decidable (Unclaimed refunds refundId) :=
  inferInstanceAs (Decidable (∀ id ∈ refundId, _ ∧ _))

section Settle

variable {refunds : List PaymentRefund} {reply : RefundReply} {key : String} {paise : ℤ}

theorem recorded_map_markRetryable (refunds : List PaymentRefund) :
    recorded (refunds.map PaymentRefund.markRetryable) = recorded refunds := by
  have hsame : ∀ row : PaymentRefund, row.markRetryable.processedPaise = row.processedPaise := by
    intro row
    unfold PaymentRefund.markRetryable
    split <;> rfl
  simp [recorded, Function.comp_def, hsame]

theorem markRetryable_gatewayRefundId (row : PaymentRefund) :
    row.markRetryable.gatewayRefundId = row.gatewayRefundId := by
  unfold PaymentRefund.markRetryable
  split <;> rfl

theorem refundIds_map_markRetryable (refunds : List PaymentRefund) :
    refundIds (refunds.map PaymentRefund.markRetryable) = refundIds refunds := by
  simp only [refundIds, List.filterMap_map, Function.comp_def, markRetryable_gatewayRefundId]

theorem mem_map_markRetryable {row : PaymentRefund}
    (hrow : row ∈ refunds.map PaymentRefund.markRetryable) (hdone : row.status = .processed) :
    row ∈ refunds := by
  obtain ⟨old, hold, rfl⟩ := List.mem_map.mp hrow
  unfold PaymentRefund.markRetryable at hdone ⊢
  split
  next hpending =>
    rw [if_pos hpending] at hdone
    cases hdone
  · exact hold

theorem not_noneOpen_map_markRetryable {row : PaymentRefund} (hrow : row ∈ refunds)
    (hpending : row.status = .pending) :
    ¬ NoneOpen (refunds.map PaymentRefund.markRetryable) := by
  intro h
  have hopen := h _ (List.mem_map_of_mem hrow)
  simp [PaymentRefund.markRetryable, hpending, PaymentRefund.isOpen] at hopen

theorem RefundRows.markRetryable (h : RefundRows refunds) :
    RefundRows (refunds.map PaymentRefund.markRetryable) := by
  refine ⟨fun row hrow hpending => ?_, fun row hrow hid => ?_, ?_⟩
  · obtain ⟨old, hold, rfl⟩ := List.mem_map.mp hrow
    unfold PaymentRefund.markRetryable at hpending ⊢
    split
    next hold' => simp [hold'] at hpending
    next hold' =>
      rw [if_neg hold'] at hpending
      exact absurd hpending hold'
  · obtain ⟨old, hold, rfl⟩ := List.mem_map.mp hrow
    rw [markRetryable_gatewayRefundId] at hid
    obtain ⟨rest, hkey⟩ := h.intent old hold hid
    refine ⟨rest, ?_⟩
    unfold PaymentRefund.markRetryable
    split <;> exact hkey
  · rw [refundIds_map_markRetryable]
    exact h.ids

theorem RefundRows.settle (h : RefundRows refunds) (reply : RefundReply)
    (hids : (refundIds (refunds.map (PaymentRefund.settle reply))).Nodup) :
    RefundRows (refunds.map (PaymentRefund.settle reply)) := by
  refine ⟨fun row hrow hpending => ?_, fun row hrow hid => ?_, hids⟩
  · obtain ⟨old, hold, rfl⟩ := List.mem_map.mp hrow
    unfold PaymentRefund.settle at hpending
    split at hpending
    · cases hpending
    next hold' => exact absurd hpending hold'
  · obtain ⟨old, hold, rfl⟩ := List.mem_map.mp hrow
    unfold PaymentRefund.settle at hid ⊢
    split at hid
    next hpending =>
      rw [if_pos hpending]
      have hnone : old.gatewayRefundId = none := by
        cases hreply : reply.refundId with
        | none => simpa [hreply] using hid
        | some id => simp [hreply] at hid
      exact h.intent old hold hnone
    next hpending =>
      rw [if_neg hpending]
      exact h.intent old hold hid

theorem RefundRows.settleRefunds (h : RefundRows refunds) (reply : RefundReply) :
    RefundRows (settleRefunds refunds reply) := by
  unfold CarRental.settleRefunds
  dsimp only
  split
  next hids => exact h.settle reply hids
  · exact h.markRetryable

theorem RefundRows.intent_append (h : RefundRows refunds) (rest : String) (paise : ℤ) :
    RefundRows (refunds ++ [refundIntent ("rfnd_" ++ rest) paise]) := by
  refine ⟨fun row hrow hpending => ?_, fun row hrow hid => ?_, ?_⟩
  · rcases List.mem_append.mp hrow with hold | hnew
    · exact h.pending row hold hpending
    · rw [List.mem_singleton] at hnew
      rw [hnew]
      rfl
  · rcases List.mem_append.mp hrow with hold | hnew
    · exact h.intent row hold hid
    · rw [List.mem_singleton] at hnew
      rw [hnew]
      exact ⟨rest, rfl⟩
  · have hsame : refundIds (refunds ++ [refundIntent ("rfnd_" ++ rest) paise]) =
        refundIds refunds := by simp [refundIds, refundIntent]
    rw [hsame]
    exact h.ids

theorem mem_refundIds_settle {id : GatewayRefundId} (hreply : reply.refundId = some id)
    {row : PaymentRefund} (hrow : row ∈ refunds)
    (h : row.status = .pending ∨ row.gatewayRefundId = some id) :
    id ∈ refundIds (refunds.map (PaymentRefund.settle reply)) := by
  refine List.mem_filterMap.mpr ⟨row.settle reply, List.mem_map_of_mem hrow, ?_⟩
  unfold PaymentRefund.settle
  by_cases hpending : row.status = .pending
  · rw [if_pos hpending, hreply]
    rfl
  · rw [if_neg hpending]
    exact h.resolve_left hpending

theorem settleRefunds_of_clash {first second : List PaymentRefund} {id : GatewayRefundId}
    (hfirst : id ∈ refundIds (first.map (PaymentRefund.settle reply)))
    (hsecond : id ∈ refundIds (second.map (PaymentRefund.settle reply))) :
    settleRefunds (first ++ second) reply =
      (first ++ second).map PaymentRefund.markRetryable := by
  refine if_neg fun h => ?_
  rw [List.map_append, refundIds_append] at h
  exact (List.nodup_append.mp h).2.2 id hfirst id hsecond rfl

theorem settleRefunds_addRefundRow (refunds : List PaymentRefund) (key ownKey : String)
    (paise : ℤ) (refundId : GatewayRefundId) (status : RefundStatus) (isDuplicate : Bool) :
    settleRefunds (addRefundRow (refunds ++ [refundIntent key paise])
        (refundRow ownKey paise refundId status)) ⟨some refundId, paise, status, isDuplicate⟩ =
      (addRefundRow (refunds ++ [refundIntent key paise])
        (refundRow ownKey paise refundId status)).map PaymentRefund.markRetryable := by
  rw [addRefundRow_eq]
  by_cases hmem : refundId ∈ refundIds (refunds ++ [refundIntent key paise])
  · rw [if_pos hmem]
    have hold : refundId ∈ refundIds refunds := by simpa [refundIds, refundIntent] using hmem
    obtain ⟨row, hrow, hid⟩ := List.mem_filterMap.mp hold
    exact settleRefunds_of_clash (mem_refundIds_settle rfl hrow (.inr hid))
      (mem_refundIds_settle rfl (List.mem_singleton_self _) (.inl rfl))
  · rw [if_neg hmem]
    exact settleRefunds_of_clash
      (mem_refundIds_settle rfl (List.mem_append_right _ (List.mem_singleton_self _)) (.inl rfl))
      (mem_refundIds_settle rfl (List.mem_singleton_self _) (.inr rfl))

theorem settleRefunds_intent (h : RefundRows refunds) (key : String) (paise : ℤ)
    (reply : RefundReply) :
    Unclaimed refunds reply.refundId ∧
        settleRefunds (refunds ++ [refundIntent key paise]) reply =
          (refunds ++ [refundIntent key paise]).map (PaymentRefund.settle reply) ∨
      ¬ Unclaimed refunds reply.refundId ∧
        settleRefunds (refunds ++ [refundIntent key paise]) reply =
          (refunds ++ [refundIntent key paise]).map PaymentRefund.markRetryable := by
  by_cases hfree : Unclaimed refunds reply.refundId
  case neg =>
    refine .inr ⟨hfree, ?_⟩
    unfold Unclaimed at hfree
    push Not at hfree
    obtain ⟨id, hid, hclaimed⟩ := hfree
    have hintent := mem_refundIds_settle hid (List.mem_singleton_self (refundIntent key paise))
      (.inl rfl)
    by_cases hpending : ∀ row ∈ refunds, row.status ≠ .pending
    · obtain ⟨row, hrow, hrowId⟩ := List.mem_filterMap.mp (hclaimed hpending)
      exact settleRefunds_of_clash (mem_refundIds_settle hid hrow (.inr hrowId)) hintent
    · push Not at hpending
      obtain ⟨row, hrow, hrowPending⟩ := hpending
      exact settleRefunds_of_clash (mem_refundIds_settle hid hrow (.inl hrowPending)) hintent
  refine .inl ⟨hfree, if_pos ?_⟩
  cases hreply : reply.refundId with
  | none =>
    -- the update then leaves the ids alone
    have hsame : ∀ row : PaymentRefund,
        (row.settle reply).gatewayRefundId = row.gatewayRefundId := by
      intro row
      unfold PaymentRefund.settle
      split
      · simp [hreply]
      · rfl
    simp only [refundIds, List.filterMap_map, Function.comp_def, hsame]
    simpa [refundIds, refundIntent] using h.ids
  | some id =>
    obtain ⟨hclosed, hnew⟩ := hfree id hreply
    have hkept : refunds.map (PaymentRefund.settle reply) = refunds :=
      (List.map_congr_left fun row hrow => if_neg (hclosed row hrow)).trans (List.map_id refunds)
    rw [List.map_append, hkept, refundIds_append]
    have hlast : refundIds ([refundIntent key paise].map (PaymentRefund.settle reply)) = [id] := by
      simp [refundIds, PaymentRefund.settle, refundIntent, hreply]
    rw [hlast]
    exact List.nodup_append.mpr ⟨h.ids, List.nodup_singleton _, fun a ha b hb heq =>
      hnew (by rw [List.mem_singleton] at hb; rwa [← hb, ← heq])⟩

theorem recorded_map_settle (h : ∀ row ∈ refunds, row.status = .pending → row.processedAmount = none)
    (reply : RefundReply) :
    recorded (refunds.map (PaymentRefund.settle reply)) = recorded refunds +
      refunds.countP (fun row => row.status = .pending) * reply.refundAmount := by
  induction refunds with
  | nil => simp [recorded]
  | cons row rest ih =>
    have hrest := ih fun other hother => h other (List.mem_cons_of_mem _ hother)
    have hrow := h row (List.mem_cons_self ..)
    simp only [recorded, List.map_cons, List.sum_cons] at hrest ⊢
    rw [hrest]
    by_cases hpending : row.status = .pending
    · have hclosed : (row.settle reply).processedPaise = reply.refundAmount := by
        simp [PaymentRefund.settle, hpending, PaymentRefund.processedPaise]
      have hbefore : row.processedPaise = 0 := by
        rw [PaymentRefund.processedPaise, hrow hpending]
        rfl
      rw [hclosed, hbefore, List.countP_cons_of_pos (by simpa using hpending)]
      push_cast
      ring
    · have hkept : row.settle reply = row := if_neg hpending
      rw [hkept, List.countP_cons_of_neg (by simpa using hpending)]
      ring

theorem recorded_settle_intent (h : RefundRows refunds) (key : String) (paise : ℤ)
    (reply : RefundReply) :
    recorded ((refunds ++ [refundIntent key paise]).map (PaymentRefund.settle reply)) =
        recorded refunds ↔ reply.refundAmount = 0 := by
  have hnew : recorded [refundIntent key paise] = 0 := rfl
  have hlast : List.countP (fun row : PaymentRefund => row.status = .pending)
      [refundIntent key paise] = 1 := rfl
  rw [recorded_map_settle fun row hrow hpending => ?_, recorded_append, hnew, List.countP_append,
    hlast]
  · constructor
    · intro hsum
      have hzero : ((refunds.countP (fun row => row.status = .pending) + 1 : ℕ) : ℤ) *
          reply.refundAmount = 0 := by linarith
      rcases mul_eq_zero.mp hzero with hcount | hamount
      · omega
      · exact hamount
    · intro hzero
      rw [hzero]
      ring
  · rcases List.mem_append.mp hrow with hold | hlast
    · exact h.pending row hold hpending
    · rw [List.mem_singleton] at hlast
      rw [hlast]
      rfl

theorem noneOpen_settle_intent (refunds : List PaymentRefund) (key : String) (paise : ℤ)
    (reply : RefundReply) :
    NoneOpen ((refunds ++ [refundIntent key paise]).map (PaymentRefund.settle reply)) ↔
      ∀ row ∈ refunds, row.status ≠ .retryable := by
  have hrow : ∀ row : PaymentRefund,
      (row.settle reply).isOpen = false ↔ row.status ≠ .retryable := by
    intro row
    unfold PaymentRefund.settle
    by_cases hpending : row.status = .pending
    · simp [hpending, PaymentRefund.isOpen]
    · simp [hpending, PaymentRefund.isOpen]
  simp only [NoneOpen, List.map_append, List.mem_append, or_imp, forall_and, List.forall_mem_map,
    hrow]
  exact and_iff_left fun row hmem => by
    rw [List.mem_singleton] at hmem
    rw [hmem]
    exact fun h => (by cases h)

theorem refundTold_settle (hfresh : ∀ row ∈ refunds, row.idempotencyKey ≠ key) (paise : ℤ)
    (reply : RefundReply) :
    RefundTold refunds ((refunds ++ [refundIntent key paise]).map (PaymentRefund.settle reply))
        reply ↔
      reply.refundStatus ≠ .pending ∧
        (reply.refundStatus = .processed → ∀ row ∈ refunds, row.status ≠ .retryable) := by
  rw [RefundTold, noneOpen_settle_intent, and_comm]
  refine and_congr_left fun _ => ⟨fun h hpending => ?_, fun h hpending => absurd hpending h⟩
  have hintent := h hpending ((refundIntent key paise).settle reply)
    (List.mem_map_of_mem (List.mem_append_right _ (List.mem_singleton_self _))) rfl
  exact hfresh _ hintent rfl

variable (refunds) in
theorem refundTold_markRetryable {rows : List PaymentRefund} {row : PaymentRefund}
    (hrow : row ∈ rows) (hpending : row.status = .pending) (reply : RefundReply)
    (hdone : reply.refundStatus = .pending → ∀ row ∈ rows, row.status = .processed → row ∈ refunds) :
    RefundTold refunds (rows.map PaymentRefund.markRetryable) reply ↔
      reply.refundStatus ≠ .processed := by
  constructor
  · exact fun h hprocessed => not_noneOpen_map_markRetryable hrow hpending (h.1 hprocessed)
  · intro h
    refine ⟨fun hprocessed => absurd hprocessed h, fun hreply row' hrow' hrowDone => ?_⟩
    exact hdone hreply row' (mem_map_markRetryable hrow' hrowDone) hrowDone

theorem refundTold_markRetryable_intent (refunds : List PaymentRefund) (key : String) (paise : ℤ)
    (reply : RefundReply) :
    RefundTold refunds ((refunds ++ [refundIntent key paise]).map PaymentRefund.markRetryable)
      reply ↔ reply.refundStatus ≠ .processed := by
  have hintent : refundIntent key paise ∈ refunds ++ [refundIntent key paise] :=
    List.mem_append_right _ (List.mem_singleton_self _)
  refine refundTold_markRetryable refunds hintent rfl reply fun _ row hrow hdone => ?_
  rcases List.mem_append.mp hrow with hold | hlast
  · exact hold
  · rw [List.mem_singleton.mp hlast] at hdone
    cases hdone

theorem recorded_intent (refunds : List PaymentRefund) (key : String) (paise : ℤ) :
    recorded (refunds ++ [refundIntent key paise]) = recorded refunds := by
  have hnew : recorded [refundIntent key paise] = 0 := rfl
  rw [recorded_append, hnew, add_zero]

end Settle

/-! ## A cancellation -/

/-- The refund that a cancellation asks for once it is committed, and the state that it finds. -/
def refundOnCancel (terms : TripTerms) (s : Checkout) (request : CancelRequest) :
    Option (Checkout × RefundRequest) :=
  if s.booking.status = .cancelled ∨
      (validateAuthorization s.booking terms.vendorUserId request.actorId
        request.actorRole).isOk = false ∨ .cancelled ∉ lifecycleMatrix s.booking.status then none
  else
    match cancelTransaction s (cancelRefund s terms request) request.now with
    | .error _ => none
    | .ok s₁ =>
      if 0 < cancelRefund s terms request then
        some (s₁, ⟨cancelRefund s terms request, none, none⟩)
      else none

/-- When the refund of a cancellation keeps the records right.  The intent is never closed after
a refund that adds its own row, so such a refund may not be processed at once.  It is closed
where the payment is not `PAID`, and then must tell of nothing paid back. -/
def CancelInRecords (config : PaymentConfig) (s : Checkout) (paise : ℤ)
    (answer : GatewayRefundAnswer) : Prop :=
  ∀ payment ∈ s.payment,
    if payment.status = .paid then
      (∀ existing ∈ findRefund s (defaultRefundKey s payment), existing.status ≠ .processed) ∧
        (findRefund s (defaultRefundKey s payment) = none →
          gatewayTakes config payment (gatewayRefundPart s payment paise) answer = true →
            if walletTakes config s payment (walletRefundPart s payment paise) = true then
              ¬ ProcessedAtOnce config (gatewayRefundPart s payment paise) answer ∧
                walletSent config s payment (walletRefundPart s payment paise) = 0
            else gatewayPaysOut config (gatewayRefundPart s payment paise) answer = 0)
    else if Unclaimed s.refunds payment.razorpayRefundId then
      payment.refundAmount.getD 0 = 0 ∧ payment.refundStatus ≠ .pending ∧
        (payment.refundStatus = .processed → ∀ row ∈ s.refunds, row.status ≠ .retryable)
    else payment.refundStatus ≠ .processed

section Cancel

variable {config : PaymentConfig} {terms : TripTerms} {s s₁ : Checkout} {request : CancelRequest}
  {refundRequest : RefundRequest} {payment : Payment} {answer : GatewayRefundAnswer}
  {mockId : String}

theorem refundIntentKey_eq (s : Checkout) (now : ℤ) :
    ∃ rest, refundIntentKey s now = "rfnd_" ++ rest := by
  refine ⟨s.booking.id ++ "_" ++ (s.payment.map Payment.id).getD "pay" ++ "_" ++ toString now, ?_⟩
  simp only [refundIntentKey, String.append_assoc]

theorem defaultRefundKey_ne (s : Checkout) (payment : Payment) (rest : String) :
    defaultRefundKey s payment ≠ "rfnd_" ++ rest := by
  intro h
  have hchars := congrArg String.toList h
  simp [defaultRefundKey] at hchars

theorem cancelTransaction_eq_ok {refundPaise now : ℤ} (hpos : 0 < refundPaise)
    (h : cancelTransaction s refundPaise now = .ok s₁) :
    ∃ payment, s.payment = some payment ∧ findRefund s (refundIntentKey s now) = none ∧
      ∃ ledger, postReversal s payment refundPaise = .ok ledger ∧
        s₁ = { s with
          booking := { s.booking with status := .cancelled }
          securityDeposit := s.securityDeposit.map cancelDeposit
          refunds := s.refunds ++ [refundIntent (refundIntentKey s now) refundPaise]
          ledger } := by
  unfold cancelTransaction at h
  dsimp only at h
  rw [if_neg (not_le.mpr hpos)] at h
  split at h
  · cases h
  next payment hpayment =>
    split at h
    · cases h
    next hknown =>
      split at h
      · cases h
      next ledger hledger =>
        cases h
        exact ⟨payment, hpayment, Option.not_isSome_iff_eq_none.mp hknown, ledger, hledger, rfl⟩

variable (terms request) in
theorem cancelRefund_le (hpayment : s.payment = some payment) :
    cancelRefund s terms request ≤ payment.amount.paise := by
  refine (refundAmountInPaise_le _ _).trans_eq ?_
  simp [cancelParams, hpayment]

theorem refundOnCancel_eq_some (h : refundOnCancel terms s request = some (s₁, refundRequest)) :
    0 < cancelRefund s terms request ∧ refundRequest = ⟨cancelRefund s terms request, none, none⟩ ∧
      cancelTransaction s (cancelRefund s terms request) request.now = .ok s₁ := by
  unfold refundOnCancel at h
  split at h
  · cases h
  split at h
  · cases h
  next htransaction =>
    split at h
    next hpos =>
      cases h
      exact ⟨hpos, rfl, htransaction⟩
    · cases h

variable (config) in
theorem executeCancellation_of_none (h : refundOnCancel terms s request = none)
    (answer : GatewayRefundAnswer) (mockId : String) :
    (executeCancellation config terms s request answer mockId).1.refunds = s.refunds ∧
      paidBack (executeCancellation config terms s request answer mockId).1 = paidBack s := by
  unfold refundOnCancel at h
  unfold executeCancellation
  split
  · exact ⟨rfl, rfl⟩
  next hopen =>
    split
    · exact ⟨rfl, rfl⟩
    next hauthorized =>
      split
      · exact ⟨rfl, rfl⟩
      next hallowed =>
        have hchecks : ¬ (s.booking.status = .cancelled ∨
            (validateAuthorization s.booking terms.vendorUserId request.actorId
              request.actorRole).isOk = false ∨ .cancelled ∉ lifecycleMatrix s.booking.status) := by
          rw [hauthorized]
          rintro (hclosed | hrefused | hrefused)
          · exact hopen hclosed
          · cases hrefused
          · exact hallowed hrefused
        rw [if_neg hchecks] at h
        dsimp only
        cases htransaction : cancelTransaction s (cancelRefund s terms request) request.now with
        | error e => exact ⟨rfl, rfl⟩
        | ok s₁ =>
          rw [htransaction] at h
          dsimp only at h ⊢
          split at h
          · cases h
          next hnone =>
            rw [if_neg hnone]
            unfold cancelTransaction at htransaction
            dsimp only at htransaction
            rw [if_pos (not_lt.mp hnone)] at htransaction
            cases htransaction
            exact ⟨rfl, rfl⟩

theorem executeCancellation_of_some (h : refundOnCancel terms s request = some (s₁, refundRequest))
    (answer : GatewayRefundAnswer) (mockId : String) :
    (executeCancellation config terms s request answer mockId).1 =
      dispatchRefund config s₁ refundRequest.refundAmountInPaise answer mockId := by
  obtain ⟨hpos, rfl, htransaction⟩ := refundOnCancel_eq_some h
  unfold refundOnCancel at h
  unfold executeCancellation
  split at h
  · cases h
  next hchecks =>
    obtain ⟨hopen, hauthorized, hallowed⟩ :
        s.booking.status ≠ .cancelled ∧
          (validateAuthorization s.booking terms.vendorUserId request.actorId
            request.actorRole).isOk ≠ false ∧ .cancelled ∈ lifecycleMatrix s.booking.status := by
      simpa only [not_or, not_not] using hchecks
    rw [if_neg hopen]
    cases hauth : validateAuthorization s.booking terms.vendorUserId request.actorId
        request.actorRole with
    | error e =>
      rw [hauth] at hauthorized
      exact absurd rfl hauthorized
    | ok _ =>
      dsimp only
      rw [if_neg (not_not.mpr hallowed), htransaction]
      dsimp only
      rw [if_pos hpos]

theorem dispatchRefund_of_ok {reply : RefundReply} {s₂ : Checkout} {paise : ℤ}
    (h : refund config s₁ ⟨paise, none, none⟩ answer mockId = (s₂, .ok reply)) :
    dispatchRefund config s₁ paise answer mockId =
      { s₂ with refunds := settleRefunds s₂.refunds reply } := by
  rw [dispatchRefund, h]

theorem dispatchRefund_of_error {e : HttpError} {s₂ : Checkout} {paise : ℤ}
    (h : refund config s₁ ⟨paise, none, none⟩ answer mockId = (s₂, .error e)) :
    dispatchRefund config s₁ paise answer mockId =
      { s₂ with refunds := s₂.refunds.map PaymentRefund.markRetryable } := by
  rw [dispatchRefund, h]

theorem amountsRecorded_refunds (s : Checkout) (refunds : List PaymentRefund) :
    AmountsRecorded { s with refunds } ↔ recorded refunds = paidBack s := Iff.rfl

theorem not_unclaimed {refunds : List PaymentRefund} {row : PaymentRefund} {id : GatewayRefundId}
    (hrow : row ∈ refunds) (hid : row.gatewayRefundId = some id) :
    ¬ Unclaimed refunds (some id) := fun h =>
  (h id rfl).2 (List.mem_filterMap.mpr ⟨row, hrow, hid⟩)

theorem RefundRows.defaultRow (hrows : RefundRows s.refunds) {existing : PaymentRefund}
    (hfound : findRefund s (defaultRefundKey s payment) = some existing) :
    ¬ Unclaimed s.refunds existing.gatewayRefundId := by
  have hmem := List.mem_of_find?_eq_some hfound
  have hkey : existing.idempotencyKey = defaultRefundKey s payment := by
    simpa using List.find?_some hfound
  cases hid : existing.gatewayRefundId with
  | none =>
    obtain ⟨rest, hrest⟩ := hrows.intent existing hmem hid
    exact absurd (hkey.symm.trans hrest) (defaultRefundKey_ne s payment rest)
  | some id => exact not_unclaimed hmem hid

section Dispatch

variable {rest : String} {paise : ℤ} {ledger : Ledger JournalKey}

/-- The state in which a cancellation asks for its refund, whatever else it has changed. -/
def withIntent (s : Checkout) (key : String) (paise : ℤ) (ledger : Ledger JournalKey) : Checkout :=
  { s with
    booking := { s.booking with status := .cancelled }
    securityDeposit := s.securityDeposit.map cancelDeposit
    refunds := s.refunds ++ [refundIntent key paise]
    ledger }

theorem findRefund_withIntent (s : Checkout) (payment : Payment) (rest : String) (paise : ℤ)
    (ledger : Ledger JournalKey) :
    findRefund (withIntent s ("rfnd_" ++ rest) paise ledger)
        (defaultRefundKey (withIntent s ("rfnd_" ++ rest) paise ledger) payment) =
      findRefund s (defaultRefundKey s payment) := by
  have hkey : defaultRefundKey (withIntent s ("rfnd_" ++ rest) paise ledger) payment =
      defaultRefundKey s payment := rfl
  rw [hkey, findRefund, findRefund, withIntent, List.find?_append]
  have hintent : [refundIntent ("rfnd_" ++ rest) paise].find?
      (fun refund => refund.idempotencyKey = defaultRefundKey s payment) = none := by
    simp [refundIntent, (defaultRefundKey_ne s payment rest).symm]
  rw [hintent, Option.or_none]

theorem dispatchRefund_of_passes (hpayment : s.payment = some payment)
    (hrecorded : AmountsRecorded s)
    (hpasses : RefundPasses (withIntent s ("rfnd_" ++ rest) paise ledger) payment
      ⟨paise, none, none⟩) :
    (AmountsRecorded
          (dispatchRefund config (withIntent s ("rfnd_" ++ rest) paise ledger) paise answer mockId) ∧
        ReplyTold s.refunds
          (dispatchRefund config (withIntent s ("rfnd_" ++ rest) paise ledger) paise answer
            mockId).refunds
          (refund config (withIntent s ("rfnd_" ++ rest) paise ledger) ⟨paise, none, none⟩ answer
            mockId).2) ↔
      (gatewayTakes config payment (gatewayRefundPart s payment paise) answer = true →
        if walletTakes config s payment (walletRefundPart s payment paise) = true then
          ¬ ProcessedAtOnce config (gatewayRefundPart s payment paise) answer ∧
            walletSent config s payment (walletRefundPart s payment paise) = 0
        else gatewayPaysOut config (gatewayRefundPart s payment paise) answer = 0) := by
  set s₁ := withIntent s ("rfnd_" ++ rest) paise ledger with hs₁
  have hrows₁ : s₁.refunds = s.refunds ++ [refundIntent ("rfnd_" ++ rest) paise] := rfl
  have hkept : recorded s₁.refunds = paidBack s₁ :=
    (recorded_intent s.refunds _ paise).trans hrecorded
  have hgatewayPart : gatewayRefundPart s₁ payment paise = gatewayRefundPart s payment paise := rfl
  have hwalletPart : walletRefundPart s₁ payment paise = walletRefundPart s payment paise := rfl
  have htakesSame : walletTakes config s₁ payment (walletRefundPart s payment paise) =
      walletTakes config s payment (walletRefundPart s payment paise) := rfl
  have hsentSame : walletSent config s₁ payment (walletRefundPart s payment paise) =
      walletSent config s payment (walletRefundPart s payment paise) := rfl
  have hpayment₁ : s₁.payment = some payment := hpayment
  have hcases := refund_cases_of_passes config hpayment₁ hpasses answer mockId
  dsimp only at hcases
  rw [hgatewayPart, hwalletPart, htakesSame, hsentSame] at hcases
  obtain ⟨hstops, e, heq⟩ | ⟨htakes, hrefuses, s₂, e, heq, hrows, hpaid⟩ |
      ⟨htakes, hcredits, s₂, refundId, status, heq, -, hprocessed, hrows, hpaid⟩ := hcases
  · rw [dispatchRefund_of_error heq, heq, hstops, amountsRecorded_refunds,
      recorded_map_markRetryable]
    exact iff_of_true ⟨hkept, replyTold_error _ _ e⟩ fun h => (by cases h)
  · rw [dispatchRefund_of_error heq, heq, htakes, hrefuses, forall_prop_of_true rfl,
      if_neg Bool.false_ne_true, amountsRecorded_refunds, recorded_map_markRetryable, hrows, hkept,
      hpaid, and_iff_left (replyTold_error _ _ e)]
    constructor <;> intro <;> omega
  · rw [dispatchRefund_of_ok heq, heq, htakes, hcredits, forall_prop_of_true rfl, if_pos rfl,
      amountsRecorded_refunds, replyTold_ok, hrows, hrows₁, settleRefunds_addRefundRow,
      recorded_map_markRetryable, recorded_addRefundRow, ← hrows₁, hkept, hpaid, ← hprocessed]
    set rows := addRefundRow s₁.refunds
      (refundRow (defaultRefundKey s₁ payment) paise refundId status) with hrowsDef
    have hmem : ∀ row ∈ rows, row ∈ s.refunds ∨ row = refundIntent ("rfnd_" ++ rest) paise ∨
        row = refundRow (defaultRefundKey s₁ payment) paise refundId status := by
      intro row hrow
      rw [hrowsDef, addRefundRow_eq, hrows₁] at hrow
      split at hrow <;> simp only [List.mem_append, List.mem_singleton] at hrow <;> tauto
    have hintent : refundIntent ("rfnd_" ++ rest) paise ∈ rows := by
      rw [hrowsDef, addRefundRow_eq, hrows₁]
      split <;> simp
    have htold := refundTold_markRetryable s.refunds hintent rfl
      ⟨some refundId, paise, status, false⟩ fun hpending row hrow hdone => by
        rcases hmem row hrow with hold | rfl | rfl
        · exact hold
        · cases hdone
        · have hstatus : status = .processed := hdone
          have hreply : status = .pending := hpending
          rw [hreply] at hstatus
          cases hstatus
    change _ ∧ RefundTold s.refunds (rows.map PaymentRefund.markRetryable) _ ↔ _
    rw [htold]
    by_cases hdone : status = .processed
    · exact iff_of_false (fun h => h.2 hdone) fun h => h.1 hdone
    have hnothing := gatewayPaysOut_of_not_processed fun h => hdone (hprocessed.mpr h)
    rw [if_neg fun h => hdone h.1, hnothing, and_iff_left hdone, and_iff_right hdone]
    constructor <;> intro <;> omega

theorem dispatchRefund_of_existing (hrows : RefundRows s.refunds) (hrecorded : AmountsRecorded s)
    {existing : PaymentRefund}
    (hfound : findRefund s (defaultRefundKey s payment) = some existing)
    (heq : refund config (withIntent s ("rfnd_" ++ rest) paise ledger) ⟨paise, none, none⟩ answer
        mockId =
      (withIntent s ("rfnd_" ++ rest) paise ledger, .ok (existingReply existing))) :
    (AmountsRecorded
          (dispatchRefund config (withIntent s ("rfnd_" ++ rest) paise ledger) paise answer mockId) ∧
        ReplyTold s.refunds
          (dispatchRefund config (withIntent s ("rfnd_" ++ rest) paise ledger) paise answer
            mockId).refunds (.ok (existingReply existing))) ↔
      existing.status ≠ .processed := by
  have hclaimed := hrows.defaultRow hfound
  have hmarked := ((settleRefunds_intent hrows ("rfnd_" ++ rest) paise
    (existingReply existing)).resolve_left fun h => hclaimed h.1).2
  have hafter : (withIntent s ("rfnd_" ++ rest) paise ledger).refunds =
      s.refunds ++ [refundIntent ("rfnd_" ++ rest) paise] := rfl
  rw [dispatchRefund_of_ok heq, amountsRecorded_refunds, replyTold_ok, hafter, hmarked,
    recorded_map_markRetryable, recorded_intent]
  exact (and_iff_right hrecorded).trans (refundTold_markRetryable_intent ..)

theorem dispatchRefund_of_unpaid (hrows : RefundRows s.refunds) (hrecorded : AmountsRecorded s)
    (hfresh : ∀ row ∈ s.refunds, row.idempotencyKey ≠ "rfnd_" ++ rest)
    (heq : refund config (withIntent s ("rfnd_" ++ rest) paise ledger) ⟨paise, none, none⟩ answer
        mockId =
      (withIntent s ("rfnd_" ++ rest) paise ledger, .ok (paymentReply payment))) :
    (AmountsRecorded
          (dispatchRefund config (withIntent s ("rfnd_" ++ rest) paise ledger) paise answer mockId) ∧
        ReplyTold s.refunds
          (dispatchRefund config (withIntent s ("rfnd_" ++ rest) paise ledger) paise answer
            mockId).refunds (.ok (paymentReply payment))) ↔
      if Unclaimed s.refunds payment.razorpayRefundId then
        payment.refundAmount.getD 0 = 0 ∧ payment.refundStatus ≠ .pending ∧
          (payment.refundStatus = .processed → ∀ row ∈ s.refunds, row.status ≠ .retryable)
      else payment.refundStatus ≠ .processed := by
  have hafter : (withIntent s ("rfnd_" ++ rest) paise ledger).refunds =
      s.refunds ++ [refundIntent ("rfnd_" ++ rest) paise] := rfl
  have hsame : paidBack (withIntent s ("rfnd_" ++ rest) paise ledger) = recorded s.refunds :=
    hrecorded.symm
  rw [dispatchRefund_of_ok heq, amountsRecorded_refunds, replyTold_ok, hafter, hsame]
  obtain ⟨hfree, hsettled⟩ | ⟨hclaimed, hmarked⟩ :=
    settleRefunds_intent hrows ("rfnd_" ++ rest) paise (paymentReply payment)
  · have hunclaimed : Unclaimed s.refunds payment.razorpayRefundId := hfree
    rw [if_pos hunclaimed, hsettled, recorded_settle_intent hrows]
    exact and_congr_right fun _ => refundTold_settle hfresh paise (paymentReply payment)
  · have hnot : ¬ Unclaimed s.refunds payment.razorpayRefundId := hclaimed
    rw [if_neg hnot, hmarked, recorded_map_markRetryable, recorded_intent, and_iff_right rfl]
    exact refundTold_markRetryable_intent ..

end Dispatch

theorem executeCancellation_inRecords_iff (hrows : RefundRows s.refunds)
    (hrecorded : AmountsRecorded s)
    (h : refundOnCancel terms s request = some (s₁, refundRequest))
    (answer : GatewayRefundAnswer) (mockId : String) :
    (AmountsRecorded (executeCancellation config terms s request answer mockId).1 ∧
        ReplyTold s.refunds (executeCancellation config terms s request answer mockId).1.refunds
          (refund config s₁ refundRequest answer mockId).2) ↔
      CancelInRecords config s refundRequest.refundAmountInPaise answer := by
  rw [executeCancellation_of_some h]
  obtain ⟨hpos, rfl, htransaction⟩ := refundOnCancel_eq_some h
  obtain ⟨payment, hpayment, hfresh, ledger, -, rfl⟩ := cancelTransaction_eq_ok hpos htransaction
  obtain ⟨rest, hkey⟩ := refundIntentKey_eq s request.now
  rw [hkey] at hfresh ⊢
  have hle := cancelRefund_le terms request hpayment
  generalize cancelRefund s terms request = paise at hpos hle ⊢
  change (AmountsRecorded
      (dispatchRefund config (withIntent s ("rfnd_" ++ rest) paise ledger) paise answer mockId) ∧
    ReplyTold s.refunds
      (dispatchRefund config (withIntent s ("rfnd_" ++ rest) paise ledger) paise answer
        mockId).refunds
      (refund config (withIntent s ("rfnd_" ++ rest) paise ledger) ⟨paise, none, none⟩ answer
        mockId).2) ↔ _
  have hpayment₁ : (withIntent s ("rfnd_" ++ rest) paise ledger).payment = some payment := hpayment
  have hfind := findRefund_withIntent s payment rest paise ledger
  have hnew : ∀ row ∈ s.refunds, row.idempotencyKey ≠ "rfnd_" ++ rest := fun row hrow =>
    by simpa using List.find?_eq_none.mp hfresh row hrow
  simp only [CancelInRecords, hpayment, Option.mem_def, Option.some.injEq, forall_eq']
  by_cases hpaid : payment.status = .paid
  case neg =>
    rw [if_neg hpaid]
    have heq : refund config (withIntent s ("rfnd_" ++ rest) paise ledger) ⟨paise, none, none⟩
        answer mockId =
          (withIntent s ("rfnd_" ++ rest) paise ledger, .ok (paymentReply payment)) := by
      simp [refund, hpayment₁, hpaid, paymentReply]
    rw [heq]
    exact dispatchRefund_of_unpaid hrows hrecorded hnew heq
  rw [if_pos hpaid]
  cases hfound : findRefund s (defaultRefundKey s payment) with
  | none =>
    have hpasses : RefundPasses (withIntent s ("rfnd_" ++ rest) paise ledger) payment
        ⟨paise, none, none⟩ := ⟨hpaid, hpos, hle, hfind.trans hfound⟩
    rw [dispatchRefund_of_passes hpayment hrecorded hpasses]
    simp
  | some existing =>
    have hknown : findRefund (withIntent s ("rfnd_" ++ rest) paise ledger)
        ((RefundRequest.mk paise none none).idempotencyKey.getD
          (defaultRefundKey (withIntent s ("rfnd_" ++ rest) paise ledger) payment)) =
            some existing := hfind.trans hfound
    have heq : refund config (withIntent s ("rfnd_" ++ rest) paise ledger) ⟨paise, none, none⟩
        answer mockId =
          (withIntent s ("rfnd_" ++ rest) paise ledger, .ok (existingReply existing)) := by
      obtain ⟨hunpaid, -⟩ | ⟨-, -, -, existing', hfound', heq⟩ | ⟨-, hout, -⟩ :=
        refund_reply_of_not_passes config hpayment₁
          (fun hpasses : RefundPasses _ payment ⟨paise, none, none⟩ => by
            rw [hpasses.2.2.2] at hknown
            cases hknown) answer mockId
      · exact absurd hpaid hunpaid
      · rw [hknown, Option.some.injEq] at hfound'
        rw [heq, hfound']
      · exact absurd ⟨hpos, hle⟩ hout
    rw [heq, dispatchRefund_of_existing hrows hrecorded hfound heq]
    simp

end Cancel

/-! ## Runs -/

/-- What can happen to the refund of a booking: the cancellation, an admin's refund, which is
the only call that tries again, and what the gateway tells later. -/
inductive RefundRecordAction where
  | cancel (request : CancelRequest) (answer : GatewayRefundAnswer) (mockId : String)
  | adminRefund (dto : AdminRefundDto) (adminId : Id) (isAdmin : Bool) (generatedKey : String)
      (answer : GatewayRefundAnswer) (mockId : String)
  | webhook (eventId : String) (event : WebhookEvent)

def recordStep (config : PaymentConfig) (terms : TripTerms) (s : Checkout) :
    RefundRecordAction → Checkout
  | .cancel request answer mockId =>
    (executeCancellation config terms s request answer mockId).1
  | .adminRefund dto adminId isAdmin generatedKey answer mockId =>
    (adminRefund config s dto adminId isAdmin generatedKey answer mockId).1
  | .webhook eventId event => (handleWebhook (gatewaySettles s event) eventId event).1

def refundReplyOf (config : PaymentConfig) (terms : TripTerms) (s : Checkout) :
    RefundRecordAction → Option (Except HttpError RefundReply)
  | .cancel request answer mockId =>
    (refundOnCancel terms s request).map fun (s₁, refundRequest) =>
      (refund config s₁ refundRequest answer mockId).2
  | .adminRefund dto adminId isAdmin generatedKey answer mockId =>
    (adminRefundRequest s dto adminId isAdmin generatedKey).map fun refundRequest =>
      (refund config s refundRequest answer mockId).2
  | .webhook _ _ => none

/-- The rows after an action tell the truth of its refund. -/
def StepTold (config : PaymentConfig) (terms : TripTerms) (s : Checkout)
    (action : RefundRecordAction) : Prop :=
  ∀ reply ∈ refundReplyOf config terms s action,
    ReplyTold s.refunds (recordStep config terms s action).refunds reply

/-- When an action keeps the records right. -/
def KeepsRecords (config : PaymentConfig) (terms : TripTerms) (s : Checkout) :
    RefundRecordAction → Prop
  | .cancel request answer _ =>
    ∀ call ∈ refundOnCancel terms s request,
      CancelInRecords config s call.2.refundAmountInPaise answer
  | .adminRefund dto adminId isAdmin generatedKey answer mockId =>
    ∀ refundRequest ∈ adminRefundRequest s dto adminId isAdmin generatedKey,
      RefundInRecords config s refundRequest answer mockId
  -- no row hears of a pending refund that is then processed
  | .webhook _ (.refundProcessed refundId _ _) =>
    ∀ refund ∈ s.gatewayRefunds, refund.id = refundId → refund.status ≠ .pending
  | .webhook _ _ => True

instance (config : PaymentConfig) (terms : TripTerms) (s : Checkout)
    (action : RefundRecordAction) : Decidable (StepTold config terms s action) :=
  inferInstanceAs (Decidable (∀ reply ∈ refundReplyOf config terms s action, _))

section Runs

variable {config : PaymentConfig} {terms : TripTerms} {s : Checkout}

variable (config) in
theorem RefundRows.refund (h : RefundRows s.refunds) (request : RefundRequest)
    (answer : GatewayRefundAnswer) (mockId : String) :
    RefundRows (refund config s request answer mockId).1.refunds := by
  cases hpayment : s.payment with
  | none => simpa [CarRental.refund, hpayment] using h
  | some payment =>
    by_cases hpasses : RefundPasses s payment request
    case neg =>
      rw [(refund_records_of_not_passes config hpayment hpasses answer mockId).1]
      exact h
    obtain ⟨-, e, heq⟩ | ⟨-, -, s₁, e, heq, hrows, -⟩ |
        ⟨-, -, s₂, refundId, status, heq, -, -, hrows, -⟩ :=
      refund_cases_of_passes config hpayment hpasses answer mockId
    · rw [heq]
      exact h
    · rw [heq, hrows]
      exact h
    · rw [heq, hrows]
      exact h.addRefundRow _ _ _ _

theorem RefundRows.dispatchRefund (h : RefundRows s.refunds) (paise : ℤ)
    (answer : GatewayRefundAnswer) (mockId : String) :
    RefundRows (dispatchRefund config s paise answer mockId).refunds := by
  have hrows := h.refund config ⟨paise, none, none⟩ answer mockId
  unfold CarRental.dispatchRefund
  split
  next s' reply heq =>
    rw [heq] at hrows
    exact hrows.settleRefunds reply
  next s' e heq =>
    rw [heq] at hrows
    exact hrows.markRetryable

theorem handleWebhook_refunds (s : Checkout) (eventId : String) (event : WebhookEvent) :
    (handleWebhook s eventId event).1.refunds = s.refunds := by
  unfold handleWebhook
  split
  · rfl
  · have hrun : WebhookFrame (recordEvent s eventId) _ :=
      webhookRun_getLastD_frame (recordEvent s eventId) eventId event
    exact hrun.refunds

theorem gatewaySettles_refunds (s : Checkout) (event : WebhookEvent) :
    (gatewaySettles s event).refunds = s.refunds := by
  unfold gatewaySettles
  split <;> rfl

theorem refundRows_recordStep (h : RefundRows s.refunds) (action : RefundRecordAction) :
    RefundRows (recordStep config terms s action).refunds := by
  cases action with
  | cancel request answer mockId =>
    simp only [recordStep]
    cases hcall : refundOnCancel terms s request with
    | none =>
      rw [(executeCancellation_of_none config hcall answer mockId).1]
      exact h
    | some call =>
      rw [executeCancellation_of_some hcall]
      obtain ⟨hpos, -, htransaction⟩ := refundOnCancel_eq_some hcall
      obtain ⟨payment, -, -, ledger, -, hstate⟩ := cancelTransaction_eq_ok hpos htransaction
      obtain ⟨rest, hkey⟩ := refundIntentKey_eq s request.now
      refine RefundRows.dispatchRefund ?_ _ answer mockId
      rw [hstate, hkey]
      exact h.intent_append rest _
  | adminRefund dto adminId isAdmin generatedKey answer mockId =>
    simp only [recordStep, adminRefund_eq]
    cases adminRefundRequest s dto adminId isAdmin generatedKey with
    | none => exact h
    | some request => exact h.refund config request answer mockId
  | webhook eventId event =>
    simp only [recordStep, handleWebhook_refunds, gatewaySettles_refunds]
    exact h

theorem sum_settle_processed (refundId : String) (refunds : List GatewayRefund) :
    (refunds.map GatewayRefund.paidBackPaise).sum ≤
        ((refunds.map (GatewayRefund.settle refundId .processed)).map
          GatewayRefund.paidBackPaise).sum ∧
      (((refunds.map (GatewayRefund.settle refundId .processed)).map
          GatewayRefund.paidBackPaise).sum = (refunds.map GatewayRefund.paidBackPaise).sum ↔
        ∀ refund ∈ refunds, refund.id = refundId → refund.status ≠ .pending) := by
  induction refunds with
  | nil => simp
  | cons refund rest ih =>
    obtain ⟨hle, hiff⟩ := ih
    simp only [List.map_cons, List.sum_cons, List.forall_mem_cons, ← hiff]
    by_cases hsettles : refund.id = refundId ∧ refund.status = .pending
    · have hpositive := refund.positive
      have hbefore : refund.paidBackPaise = 0 := by
        rw [GatewayRefund.paidBackPaise, hsettles.2, if_neg (by decide)]
      have hafter : (refund.settle refundId .processed).paidBackPaise = refund.paise := by
        rw [GatewayRefund.settle, if_pos hsettles]
        rfl
      rw [hbefore, hafter]
      refine ⟨by omega, fun h => by omega, fun h => absurd hsettles.2 (h.1 hsettles.1)⟩
    · have hkept : refund.settle refundId .processed = refund := if_neg hsettles
      rw [hkept, and_iff_right fun hid hpending => hsettles ⟨hid, hpending⟩]
      refine ⟨by omega, fun h => by omega, fun h => by omega⟩

theorem sum_settle_failed (refundId : String) (refunds : List GatewayRefund) :
    ((refunds.map (GatewayRefund.settle refundId .failed)).map GatewayRefund.paidBackPaise).sum =
      (refunds.map GatewayRefund.paidBackPaise).sum := by
  have hsame : ∀ refund : GatewayRefund,
      (refund.settle refundId .failed).paidBackPaise = refund.paidBackPaise := by
    intro refund
    unfold GatewayRefund.settle
    split
    next hsettles => simp [GatewayRefund.paidBackPaise, hsettles.2]
    · rfl
  simp only [List.map_map, Function.comp_def, hsame]

theorem paidBack_congr {s' : Checkout} (h : SameMoney s s') : paidBack s' = paidBack s := by
  obtain ⟨⟨-, hid⟩, hgateway, hwallet⟩ := h
  simp only [paidBack, gatewayPaidBack, walletSentBack, hgateway, hwallet, hid]

theorem recordStep_iff (hrows : RefundRows s.refunds) (hrecorded : AmountsRecorded s)
    (action : RefundRecordAction) :
    (AmountsRecorded (recordStep config terms s action) ∧ StepTold config terms s action) ↔
      KeepsRecords config terms s action := by
  unfold StepTold
  cases action with
  | cancel request answer mockId =>
    simp only [recordStep, refundReplyOf, KeepsRecords]
    cases hcall : refundOnCancel terms s request with
    | none =>
      obtain ⟨hsame, hpaid⟩ :=
        executeCancellation_of_none config hcall answer mockId
      refine iff_of_true ⟨?_, fun _ h => (by cases h)⟩ fun _ h => (by cases h)
      rw [AmountsRecorded, hsame, hpaid]
      exact hrecorded
    | some call =>
      obtain ⟨s₁, refundRequest⟩ := call
      simp only [Option.map_some, Option.mem_def, Option.some.injEq, forall_eq']
      exact executeCancellation_inRecords_iff hrows hrecorded hcall answer mockId
  | adminRefund dto adminId isAdmin generatedKey answer mockId =>
    simp only [recordStep, refundReplyOf, KeepsRecords, adminRefund_eq]
    cases adminRefundRequest s dto adminId isAdmin generatedKey with
    | none =>
      exact iff_of_true ⟨hrecorded, fun _ h => (by cases h)⟩ fun _ h => (by cases h)
    | some request =>
      simp only [Option.map_some, Option.mem_def, Option.some.injEq, forall_eq']
      exact refund_inRecords_iff config answer mockId hrecorded
  | webhook eventId event =>
    have hmoney := paidBack_congr
      (sameMoney_handleWebhook (s := gatewaySettles s event) eventId event)
    simp only [recordStep, refundReplyOf, AmountsRecorded, handleWebhook_refunds,
      gatewaySettles_refunds, hmoney]
    have hbefore : recorded s.refunds = paidBack s := hrecorded
    refine (and_iff_left fun _ h => (by cases h)).trans ?_
    rw [hbefore]
    cases event with
    | refundProcessed refundId paymentId amountPaise =>
      have hsum := (sum_settle_processed refundId s.gatewayRefunds).2
      rw [KeepsRecords, ← hsum]
      change gatewayPaidBack s + walletSentBack s = _ + walletSentBack s ↔ _
      rw [add_left_inj, eq_comm]
      rfl
    | refundFailed refundId paymentId =>
      refine iff_of_true ?_ trivial
      have hsum := sum_settle_failed refundId s.gatewayRefunds
      change gatewayPaidBack s + walletSentBack s = _ + walletSentBack s
      rw [add_left_inj]
      exact hsum.symm
    | _ => exact iff_of_true rfl trivial

/-- **When the refund rows are right.**  From rows that record what has been returned, they do
so in every state of a run and agree with the reply of each refund exactly when each step
meets its condition. -/
theorem refunds_recorded_iff (config : PaymentConfig) (terms : TripTerms) (start : Checkout)
    (actions : List RefundRecordAction) (hrows : RefundRows start.refunds)
    (hstart : AmountsRecorded start) :
    (Everywhere (recordStep config terms) AmountsRecorded start actions ∧
        Along (recordStep config terms) (StepTold config terms) start actions) ↔
      Along (recordStep config terms) (KeepsRecords config terms) start actions :=
  everywhere_and_along_iff (I := fun s => RefundRows s.refunds)
    (fun _ action hs => refundRows_recordStep hs action)
    (fun _ action _ hs hrecorded => recordStep_iff hs hrecorded action) hrows hstart

end Runs

/-- A confirmed booking, paid through the gateway, and 100 hours to go. -/
def cancellableCheckout : Checkout :=
  { paidCheckout with booking := { sampleBooking with status := .confirmed } }

def sampleTerms : TripTerms := ⟨360000000, "vendor-user", none, none⟩

/-- The gateway refuses the refund of a cancellation, and an admin's retry stays pending until
it fails: no money moves, and no row says so. -/
theorem refused_refund_recorded :
    Along (recordStep liveConfig sampleTerms) (KeepsRecords liveConfig sampleTerms)
      cancellableCheckout [
        .cancel ⟨"customer", .customer, none, 0⟩ (.error "timeout") "",
        .adminRefund ⟨none, none⟩ "admin" true "key" (.issued "refund" .pending) "",
        .webhook "event" (.refundFailed "refund" "pay")] :=
  (refunds_recorded_iff liveConfig sampleTerms cancellableCheckout _ refundRows_nil
    (by decide +kernel)).mp (by decide +kernel)

/-- The customer cancels and the gateway refunds all at once: the intent is left to a retry. -/
theorem processed_refund_left_open :
    let actions : List RefundRecordAction :=
      [.cancel ⟨"customer", .customer, none, 0⟩ (.issued "refund" .processed) ""]
    ¬ (Everywhere (recordStep liveConfig sampleTerms) AmountsRecorded cancellableCheckout actions ∧
      Along (recordStep liveConfig sampleTerms) (StepTold liveConfig sampleTerms)
        cancellableCheckout actions) := by
  decide +kernel

end CarRental
