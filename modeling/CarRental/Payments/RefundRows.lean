import CarRental.Payouts.DepositFrame

/-!
# Refund rows and the money they stand for

`refund` adds one `PaymentRefund` row for each gateway refund id.  `recorded` is what a
booking's rows say has been returned and `paidBack` what gateway and wallet have returned;
`refund_inRecords_iff` says exactly when a refund keeps the two equal and leaves rows that
agree with its reply.  It takes the refund apart as `refund_cases_of_passes` does: stopped at
the gateway, stopped at the wallet, or gone through.
-/

namespace CarRental

open Runs

/-! ## Rows and money -/

def PaymentRefund.processedPaise (row : PaymentRefund) : ℤ := row.processedAmount.getD 0

/-- What the rows say has been returned. -/
def recorded (refunds : List PaymentRefund) : ℤ := (refunds.map PaymentRefund.processedPaise).sum

/-- A refund that the gateway holds has been returned once it is processed. -/
def GatewayRefund.paidBackPaise (refund : GatewayRefund) : ℤ :=
  if refund.status = .processed then refund.paise else 0

def gatewayPaidBack (s : Checkout) : ℤ := (s.gatewayRefunds.map GatewayRefund.paidBackPaise).sum

def paidBack (s : Checkout) : ℤ := gatewayPaidBack s + walletSentBack s

/-- The rows record what has been returned. -/
def AmountsRecorded (s : Checkout) : Prop := recorded s.refunds = paidBack s

instance (s : Checkout) : Decidable (AmountsRecorded s) :=
  inferInstanceAs (Decidable (_ = _))

/-- Pending, or left to a retry. -/
def PaymentRefund.isOpen (row : PaymentRefund) : Bool :=
  row.status = .pending || row.status = .retryable

def NoneOpen (refunds : List PaymentRefund) : Prop := ∀ row ∈ refunds, row.isOpen = false

instance (refunds : List PaymentRefund) : Decidable (NoneOpen refunds) :=
  inferInstanceAs (Decidable (∀ row ∈ refunds, _))

/-- After the reply of a refund: one that is processed leaves no row open, and one that is
pending is not recorded as processed. -/
def RefundTold (refunds refunds' : List PaymentRefund) (reply : RefundReply) : Prop :=
  (reply.refundStatus = .processed → NoneOpen refunds') ∧
    (reply.refundStatus = .pending →
      ∀ row ∈ refunds', row.status = .processed → row ∈ refunds)

instance (refunds refunds' : List PaymentRefund) (reply : RefundReply) :
    Decidable (RefundTold refunds refunds' reply) :=
  inferInstanceAs (Decidable (_ ∧ _))

/-- The rows as these calls leave them: a pending one has no processed amount, only intents
are without a refund id, and no two have the same one. -/
structure RefundRows (refunds : List PaymentRefund) : Prop where
  pending : ∀ row ∈ refunds, row.status = .pending → row.processedAmount = none
  intent : ∀ row ∈ refunds, row.gatewayRefundId = none → ∃ rest, row.idempotencyKey = "rfnd_" ++ rest
  ids : (refundIds refunds).Nodup

theorem refundRows_nil : RefundRows [] :=
  ⟨fun _ h => (by cases h), fun _ h => (by cases h), List.nodup_nil⟩

@[simp] theorem recorded_append (first second : List PaymentRefund) :
    recorded (first ++ second) = recorded first + recorded second := by
  simp [recorded]

@[simp] theorem refundIds_append (first second : List PaymentRefund) :
    refundIds (first ++ second) = refundIds first ++ refundIds second :=
  List.filterMap_append

/-! ## One refund -/

/-- What the gateway pays out at once of its part of a new refund. -/
def gatewayPaysOut (config : PaymentConfig) (gatewayPaise : ℤ) (answer : GatewayRefundAnswer) : ℤ :=
  if 0 < gatewayPaise ∧
      (config.useMock = true ∨ answer.isIssued = true ∧ answer.isProcessed = true) then
    gatewayPaise
  else 0

def ProcessedAtOnce (config : PaymentConfig) (gatewayPaise : ℤ) (answer : GatewayRefundAnswer) :
    Prop :=
  gatewayPaise ≤ 0 ∨ config.useMock = true ∨ answer.isProcessed = true

instance (config : PaymentConfig) (gatewayPaise : ℤ) (answer : GatewayRefundAnswer) :
    Decidable (ProcessedAtOnce config gatewayPaise answer) :=
  inferInstanceAs (Decidable (_ ∨ _))

def answeredRefundId (config : PaymentConfig) (s : Checkout) (gatewayPaise : ℤ)
    (answer : GatewayRefundAnswer) (mockId : String) : Option GatewayRefundId :=
  if 0 < gatewayPaise then
    if config.useMock then some (.issued mockId)
    else
      match answer with
      | .issued id _ | .alreadyRefunded (some (id, _)) => some (.issued id)
      | _ => none
  else some (.wallet s.booking.id)

section Parts

variable {config : PaymentConfig} {s s' : Checkout} {payment : Payment} {gatewayPaise : ℤ}
  {answer : GatewayRefundAnswer} {mockId : String} {refundId : GatewayRefundId}
  {status : RefundStatus}

theorem AddsRefund.paidBack {paise : ℤ} (h : AddsRefund s s' paise status) :
    gatewayPaidBack s' = gatewayPaidBack s + if status = .processed then paise else 0 := by
  obtain ⟨refund, rfl, rfl, rfl⟩ := h
  simp [gatewayPaidBack, GatewayRefund.paidBackPaise]

theorem gatewayRefund_paidBack
    (h : gatewayRefund config s payment gatewayPaise answer mockId = .ok (s', refundId, status)) :
    gatewayPaidBack s' = gatewayPaidBack s + gatewayPaysOut config gatewayPaise answer := by
  unfold gatewayPaysOut
  rcases gatewayRefund_cases h with ⟨hnone, -, -, rfl⟩ | ⟨hpaise, hmock, -, rfl, hadded⟩ |
    ⟨hpaise, hlive, id, state, -, rfl, ⟨rfl, rfl⟩ | ⟨rfl, hadded⟩⟩
  · rw [if_neg fun hpaid => not_lt.mpr hnone hpaid.1, add_zero]
  · rw [hadded.paidBack, if_pos rfl, if_pos ⟨hpaise, .inl hmock⟩]
  · simp [hlive, GatewayRefundAnswer.isIssued]
  · rw [hadded.paidBack]
    cases state <;>
      simp [hpaise, hlive, GatewayRefundAnswer.isIssued, GatewayRefundAnswer.isProcessed,
        GatewayRefundState.refundStatus]

theorem gatewayRefund_id
    (h : gatewayRefund config s payment gatewayPaise answer mockId = .ok (s', refundId, status)) :
    answeredRefundId config s gatewayPaise answer mockId = some refundId := by
  unfold answeredRefundId
  rcases gatewayRefund_cases h with ⟨hnone, rfl, -, -⟩ | ⟨hpaise, hmock, rfl, -, -⟩ |
    ⟨hpaise, hlive, id, state, rfl, -, ⟨rfl, -⟩ | ⟨rfl, -⟩⟩
  · rw [if_neg (not_lt.mpr hnone)]
  · rw [if_pos hpaise, if_pos hmock]
  · rw [if_pos hpaise, hlive, if_neg Bool.false_ne_true]
  · rw [if_pos hpaise, hlive, if_neg Bool.false_ne_true]

theorem gatewayPaysOut_of_not_processed (h : ¬ ProcessedAtOnce config gatewayPaise answer) :
    gatewayPaysOut config gatewayPaise answer = 0 := by
  refine if_neg fun ⟨_, hpaid⟩ => h ?_
  exact .inr (hpaid.imp_right And.right)

theorem gatewayPaysOut_of_processed (h : ProcessedAtOnce config gatewayPaise answer) :
    gatewayPaysOut config gatewayPaise answer =
      if 0 < gatewayPaise ∧ (config.useMock = true ∨ answer.isIssued = true) then gatewayPaise
      else 0 := by
  refine if_congr (and_congr_right fun hpos => ?_) rfl rfl
  rcases h with hnone | hmock | hprocessed
  · exact absurd hpos (not_lt.mpr hnone)
  · simp [hmock]
  · simp [hprocessed]

end Parts

def refundRow (idempotencyKey : String) (refundPaise : ℤ) (refundId : GatewayRefundId)
    (status : RefundStatus) : PaymentRefund where
  idempotencyKey
  gatewayRefundId := some refundId
  requestedAmount := refundPaise
  processedAmount := if status = .processed then some refundPaise else none
  status

/-- The rows after it: an id that is known adds none. -/
def addRefundRow (refunds : List PaymentRefund) (row : PaymentRefund) : List PaymentRefund :=
  if refunds.any fun refund => refund.gatewayRefundId = row.gatewayRefundId then refunds
  else refunds ++ [row]

section Refund

variable {config : PaymentConfig} {s s' : Checkout} {payment : Payment} {request : RefundRequest}
  {answer : GatewayRefundAnswer} {mockId : String}

variable (config) in
theorem refund_cases_of_passes (hpayment : s.payment = some payment)
    (h : RefundPasses s payment request) (answer : GatewayRefundAnswer) (mockId : String) :
    let paise := request.refundAmountInPaise
    let gatewayPaise := gatewayRefundPart s payment paise
    let walletPaise := walletRefundPart s payment paise
    let key := request.idempotencyKey.getD (defaultRefundKey s payment)
    (gatewayTakes config payment gatewayPaise answer = false ∧
      ∃ e, refund config s request answer mockId = (s, .error e)) ∨
    (gatewayTakes config payment gatewayPaise answer = true ∧
      walletTakes config s payment walletPaise = false ∧
      ∃ s₁ e, refund config s request answer mockId = (s₁, .error e) ∧
        s₁.refunds = s.refunds ∧
        paidBack s₁ = paidBack s + gatewayPaysOut config gatewayPaise answer) ∨
    (gatewayTakes config payment gatewayPaise answer = true ∧
      walletTakes config s payment walletPaise = true ∧
      ∃ s₂ refundId status,
        refund config s request answer mockId = (s₂, .ok ⟨some refundId, paise, status, false⟩) ∧
        answeredRefundId config s gatewayPaise answer mockId = some refundId ∧
        (status = .processed ↔ ProcessedAtOnce config gatewayPaise answer) ∧
        s₂.refunds = addRefundRow s.refunds (refundRow key paise refundId status) ∧
        paidBack s₂ = paidBack s + (gatewayPaysOut config gatewayPaise answer +
          walletSent config s payment walletPaise)) := by
  dsimp only
  rw [refund_eq_of_passes hpayment h, ← gatewayRefund_isOk config s payment _ answer mockId]
  -- the gateway is asked first, then the wallet is credited; nothing undoes the first
  cases hgateway : gatewayRefund config s payment
      (gatewayRefundPart s payment request.refundAmountInPaise) answer mockId with
  | error e => exact .inl ⟨rfl, e, rfl⟩
  | ok result =>
    obtain ⟨s₁, refundId, status⟩ := result
    have hpaid := gatewayRefund_paidBack hgateway
    have hid := gatewayRefund_id hgateway
    have hprocessed := gatewayRefund_processed_iff hgateway
    obtain ⟨gatewayRefunds, rfl⟩ := gatewayRefund_eq_ok hgateway
    have hcredit : walletSent config { s with gatewayRefunds } payment
        (walletRefundPart s payment request.refundAmountInPaise) =
          walletSent config s payment
            (walletRefundPart s payment request.refundAmountInPaise) := rfl
    have hwalletSame : walletSentBack { s with gatewayRefunds } = walletSentBack s := rfl
    rw [← walletRefund_isOk_of_gateway gatewayRefunds]
    dsimp only
    cases hwallet : walletRefund config { s with gatewayRefunds } payment
        (walletRefundPart s payment request.refundAmountInPaise) with
    | error e =>
      -- what the gateway has paid out stays, the rows do not know of it
      refine .inr (.inl ⟨rfl, rfl, _, e, rfl, rfl, ?_⟩)
      rw [paidBack, paidBack, hpaid, hwalletSame]
      ring
    | ok s₂ =>
      have hcredited := walletRefund_sentBack hwallet
      obtain ⟨wallet, rfl⟩ := walletRefund_eq_ok hwallet
      refine .inr (.inr ⟨rfl, rfl, _, refundId, status, rfl, hid, hprocessed, rfl, ?_⟩)
      have hafter : paidBack (recordRefund { s with gatewayRefunds, wallet } payment
          request.refundAmountInPaise
          (request.idempotencyKey.getD (defaultRefundKey s payment)) request.requestedByUserId
          refundId status) =
          gatewayPaidBack { s with gatewayRefunds } +
            walletSentBack { s with gatewayRefunds, wallet } := rfl
      rw [hafter, hpaid, hcredited, hcredit, hwalletSame, paidBack]
      ring

/-- The refund that there is, as `refund` replies it under a known key. -/
def existingReply (existing : PaymentRefund) : RefundReply :=
  ⟨existing.gatewayRefundId, existing.processedAmount.getD existing.requestedAmount, existing.status,
    true⟩

def paymentReply (payment : Payment) : RefundReply :=
  ⟨payment.razorpayRefundId, payment.refundAmount.getD 0, payment.refundStatus, false⟩

variable (config) in
theorem refund_reply_of_not_passes (hpayment : s.payment = some payment)
    (h : ¬ RefundPasses s payment request) (answer : GatewayRefundAnswer) (mockId : String) :
    (payment.status ≠ .paid ∧
      refund config s request answer mockId = (s, .ok (paymentReply payment))) ∨
    (payment.status = .paid ∧ 0 < request.refundAmountInPaise ∧
      request.refundAmountInPaise ≤ payment.amount.paise ∧
      ∃ existing,
        findRefund s (request.idempotencyKey.getD (defaultRefundKey s payment)) = some existing ∧
        refund config s request answer mockId = (s, .ok (existingReply existing))) ∨
    (payment.status = .paid ∧
      ¬ (0 < request.refundAmountInPaise ∧
        request.refundAmountInPaise ≤ payment.amount.paise) ∧
      ∀ reply, (refund config s request answer mockId).2 = .ok reply →
        reply.refundStatus = .none) := by
  by_cases hpaid : payment.status = .paid
  case neg => exact .inl ⟨hpaid, by simp [refund, hpayment, hpaid, paymentReply]⟩
  by_cases hpositive : 0 < request.refundAmountInPaise
  case neg =>
    refine .inr (.inr ⟨hpaid, fun h => hpositive h.1, fun reply hreply => ?_⟩)
    simp only [refund, hpayment, hpaid, ne_eq, not_true_eq_false, if_false, not_lt.mp hpositive,
      if_true, Except.ok.injEq] at hreply
    rw [← hreply]
  by_cases hfits : request.refundAmountInPaise ≤ payment.amount.paise
  case neg =>
    refine .inr (.inr ⟨hpaid, fun h => hfits h.2, fun reply hreply => ?_⟩)
    simp [refund, hpayment, hpaid, not_le.mpr hpositive, not_le.mp hfits] at hreply
  cases hknown : findRefund s (request.idempotencyKey.getD (defaultRefundKey s payment)) with
  | none => exact absurd ⟨hpaid, hpositive, hfits, hknown⟩ h
  | some existing =>
    refine .inr (.inl ⟨hpaid, hpositive, hfits, existing, rfl, ?_⟩)
    simp [refund, hpayment, hpaid, not_le.mpr hpositive, not_lt.mpr hfits, hknown, existingReply]

variable (config) in
theorem refund_records_of_not_passes (hpayment : s.payment = some payment)
    (h : ¬ RefundPasses s payment request) (answer : GatewayRefundAnswer) (mockId : String) :
    (refund config s request answer mockId).1.refunds = s.refunds ∧
      paidBack (refund config s request answer mockId).1 = paidBack s := by
  rcases refund_of_not_passes hpayment h answer mockId with hsame | hwritten
  · rw [hsame]
    exact ⟨rfl, rfl⟩
  · rw [hwritten]
    exact ⟨rfl, rfl⟩

end Refund

theorem addRefundRow_eq (refunds : List PaymentRefund) (key : String) (paise : ℤ)
    (refundId : GatewayRefundId) (status : RefundStatus) :
    addRefundRow refunds (refundRow key paise refundId status) =
      if refundId ∈ refundIds refunds then refunds
      else refunds ++ [refundRow key paise refundId status] := by
  refine if_congr ?_ rfl rfl
  simp only [List.any_eq_true, decide_eq_true_eq, refundIds, List.mem_filterMap]
  exact Iff.rfl

theorem recorded_addRefundRow (refunds : List PaymentRefund) (key : String) (paise : ℤ)
    (refundId : GatewayRefundId) (status : RefundStatus) :
    recorded (addRefundRow refunds (refundRow key paise refundId status)) = recorded refunds +
      if status = .processed ∧ refundId ∉ refundIds refunds then paise else 0 := by
  rw [addRefundRow_eq]
  by_cases hmem : refundId ∈ refundIds refunds
  · rw [if_pos hmem, if_neg fun h => h.2 hmem, add_zero]
  · rw [if_neg hmem, recorded_append]
    by_cases hdone : status = .processed <;>
      simp [recorded, PaymentRefund.processedPaise, refundRow, hdone, hmem]

theorem RefundRows.addRefundRow {refunds : List PaymentRefund} (h : RefundRows refunds)
    (key : String) (paise : ℤ) (refundId : GatewayRefundId) (status : RefundStatus) :
    RefundRows (addRefundRow refunds (refundRow key paise refundId status)) := by
  rw [addRefundRow_eq]
  by_cases hmem : refundId ∈ refundIds refunds
  · rw [if_pos hmem]
    exact h
  rw [if_neg hmem]
  refine ⟨fun row hrow hpending => ?_, fun row hrow hid => ?_, ?_⟩
  · rcases List.mem_append.mp hrow with hold | hnew
    · exact h.pending row hold hpending
    · rw [List.mem_singleton] at hnew
      subst hnew
      have hstatus : status = .pending := hpending
      simp [refundRow, hstatus]
  · rcases List.mem_append.mp hrow with hold | hnew
    · exact h.intent row hold hid
    · rw [List.mem_singleton] at hnew
      subst hnew
      cases hid
  · rw [refundIds_append]
    exact List.nodup_append.mpr ⟨h.ids, by simp [refundIds, refundRow], fun id hid other hother heq =>
      hmem (by simp_all [refundIds, refundRow])⟩

/-! ## A refund that an admin asks for -/

/-- What a refund comes to in the rows: a processed one that pays out its whole amount at once
under a new id, or that pays nothing out under a known one, and neither with a row open; or one
that is not processed and credits no wallet. -/
def IssuedInRecords (config : PaymentConfig) (s : Checkout) (payment : Payment) (paise : ℤ)
    (answer : GatewayRefundAnswer) (mockId : String) : Prop :=
  let gatewayPaise := gatewayRefundPart s payment paise
  let walletPaise := walletRefundPart s payment paise
  if ProcessedAtOnce config gatewayPaise answer then
    NoneOpen s.refunds ∧
      if ∀ refundId ∈ answeredRefundId config s gatewayPaise answer mockId,
          refundId ∉ refundIds s.refunds then
        IssuesBothParts config s payment paise answer
      else gatewayPaysOut config gatewayPaise answer + walletSent config s payment walletPaise = 0
  else walletSent config s payment walletPaise = 0

/-- When a refund keeps the records right: one that goes through, as above; one that the wallet
stops, if the gateway has paid nothing out; one that is not made, if the refund that it replies
is not processed or no row is open. -/
def RefundInRecords (config : PaymentConfig) (s : Checkout) (request : RefundRequest)
    (answer : GatewayRefundAnswer) (mockId : String) : Prop :=
  ∀ payment ∈ s.payment,
    let paise := request.refundAmountInPaise
    if RefundPasses s payment request then
      gatewayTakes config payment (gatewayRefundPart s payment paise) answer = true →
        if walletTakes config s payment (walletRefundPart s payment paise) = true then
          IssuedInRecords config s payment paise answer mockId
        else gatewayPaysOut config (gatewayRefundPart s payment paise) answer = 0
    else if payment.status = .paid then
      0 < paise → paise ≤ payment.amount.paise →
        ∀ existing ∈ findRefund s (request.idempotencyKey.getD (defaultRefundKey s payment)),
          existing.status = .processed → NoneOpen s.refunds
    else payment.refundStatus = .processed → NoneOpen s.refunds

/-- The rows and the reply after a refund. -/
def ReplyTold (refunds refunds' : List PaymentRefund) (reply : Except HttpError RefundReply) : Prop :=
  ∀ r, reply = .ok r → RefundTold refunds refunds' r

section AdminRefund

variable {config : PaymentConfig} {s : Checkout} {payment : Payment} {request : RefundRequest}
  {answer : GatewayRefundAnswer} {mockId : String}

theorem replyTold_error (refunds refunds' : List PaymentRefund) (e : HttpError) :
    ReplyTold refunds refunds' (.error e) := fun _ h => (by cases h)

@[simp] theorem replyTold_ok (refunds refunds' : List PaymentRefund) (reply : RefundReply) :
    ReplyTold refunds refunds' (.ok reply) ↔ RefundTold refunds refunds' reply := by
  simp [ReplyTold]

instance (refunds refunds' : List PaymentRefund) (reply : Except HttpError RefundReply) :
    Decidable (ReplyTold refunds refunds' reply) :=
  match reply with
  | .ok reply => decidable_of_iff _ (replyTold_ok refunds refunds' reply).symm
  | .error e => .isTrue (replyTold_error refunds refunds' e)

theorem refundTold_self (refunds : List PaymentRefund) (reply : RefundReply) :
    RefundTold refunds refunds reply ↔ (reply.refundStatus = .processed → NoneOpen refunds) :=
  and_iff_left fun _ _ hrow _ => hrow

theorem noneOpen_append (first second : List PaymentRefund) :
    NoneOpen (first ++ second) ↔ NoneOpen first ∧ NoneOpen second := by
  simp only [NoneOpen, List.mem_append, or_imp, forall_and]

theorem refundTold_addRefundRow (refunds : List PaymentRefund) (key : String) (paise : ℤ)
    (refundId : GatewayRefundId) (status : RefundStatus) (reply : RefundReply)
    (hreply : reply.refundStatus = status) :
    RefundTold refunds (addRefundRow refunds (refundRow key paise refundId status)) reply ↔
      (status = .processed → NoneOpen refunds) := by
  rw [addRefundRow_eq]
  by_cases hmem : refundId ∈ refundIds refunds
  · rw [if_pos hmem, refundTold_self, hreply]
  rw [if_neg hmem, RefundTold, hreply]
  constructor
  · intro h hdone
    exact ((noneOpen_append _ _).mp (h.1 hdone)).1
  · refine fun h => ⟨fun hdone => (noneOpen_append _ _).mpr ⟨h hdone, ?_⟩,
      fun hpending row hrow hrowDone => ?_⟩
    · intro row hrow
      rw [List.mem_singleton] at hrow
      subst hrow
      subst hdone
      rfl
    · rcases List.mem_append.mp hrow with hold | hnew
      · exact hold
      · rw [List.mem_singleton] at hnew
        subst hnew
        have hsame : status = .processed := hrowDone
        rw [hpending] at hsame
        cases hsame

theorem refund_inRecords_iff (config : PaymentConfig) (answer : GatewayRefundAnswer)
    (mockId : String) (hrecorded : AmountsRecorded s) :
    (AmountsRecorded (refund config s request answer mockId).1 ∧
        ReplyTold s.refunds (refund config s request answer mockId).1.refunds
          (refund config s request answer mockId).2) ↔
      RefundInRecords config s request answer mockId := by
  unfold RefundInRecords
  cases hpayment : s.payment with
  | none =>
    refine iff_of_true ?_ fun _ h => (by cases h)
    have hnothing : refund config s request answer mockId =
        (s, .ok ⟨none, 0, .none, false⟩) := by simp [refund, hpayment]
    rw [hnothing, replyTold_ok, refundTold_self]
    exact ⟨hrecorded, fun h => (by cases h)⟩
  | some payment =>
    simp only [Option.mem_def, Option.some.injEq, forall_eq']
    by_cases hpasses : RefundPasses s payment request
    · rw [if_pos hpasses]
      obtain ⟨hstops, e, heq⟩ | ⟨htakes, hrefuses, s₁, e, heq, hrows, hpaid⟩ |
          ⟨htakes, hcredits, s₂, refundId, status, heq, hid, hprocessed, hrows, hpaid⟩ :=
        refund_cases_of_passes config hpayment hpasses answer mockId
      · rw [heq, hstops]
        exact iff_of_true ⟨hrecorded, replyTold_error _ _ e⟩ fun h => (by cases h)
      · rw [heq, htakes, hrefuses, forall_prop_of_true rfl, if_neg Bool.false_ne_true,
          AmountsRecorded, hrows, hpaid, hrecorded, and_iff_left (replyTold_error _ _ e)]
        constructor <;> intro <;> omega
      · have htold := refundTold_addRefundRow s.refunds
          (request.idempotencyKey.getD (defaultRefundKey s payment)) request.refundAmountInPaise
          refundId status ⟨some refundId, request.refundAmountInPaise, status, false⟩ rfl
        rw [heq, htakes, hcredits, forall_prop_of_true rfl, if_pos rfl, replyTold_ok, hrows,
          htold, AmountsRecorded, hrows, hpaid, recorded_addRefundRow, hrecorded, IssuedInRecords]
        simp only [hid, Option.mem_def, Option.some.injEq, forall_eq', ← hprocessed]
        by_cases hdone : status = .processed
        case neg =>
          have hnothing := gatewayPaysOut_of_not_processed (fun h => hdone (hprocessed.mpr h))
          simp only [hdone, false_and, if_false, hnothing, false_imp_iff, and_true]
          constructor <;> intro <;> omega
        -- a refund that is processed at once is booked whole, so that both parts must have gone
        -- out
        have hboth := issuesBothParts_iff answer hpasses.2.1 hcredits
        rw [← gatewayPaysOut_of_processed (hprocessed.mp hdone)] at hboth
        simp only [hdone, true_and, if_true, forall_true_left]
        by_cases hnew : refundId ∈ refundIds s.refunds
        · rw [if_neg (not_not.mpr hnew), if_neg (not_not.mpr hnew), and_comm]
          refine and_congr_right fun _ => ?_
          constructor <;> intro <;> omega
        · rw [if_pos hnew, if_pos hnew, ← hboth, and_comm]
          refine and_congr_right fun _ => ?_
          constructor <;> intro <;> omega
    -- nothing moves here, and the reply is all there is to compare
    · rw [if_neg hpasses]
      obtain ⟨hrows, hpaid⟩ :=
        refund_records_of_not_passes config hpayment hpasses answer mockId
      have hsame : AmountsRecorded (refund config s request answer mockId).1 := by
        rw [AmountsRecorded, hrows, hpaid]
        exact hrecorded
      rw [and_iff_right hsame, hrows]
      obtain ⟨hunpaid, heq⟩ | ⟨hpaid, hpos, hfits, existing, hfound, heq⟩ | ⟨hpaid, hout, hnone⟩ :=
        refund_reply_of_not_passes config hpayment hpasses answer mockId
      · rw [if_neg hunpaid, heq, replyTold_ok, refundTold_self]
        rfl
      · rw [if_pos hpaid, forall_prop_of_true hpos, forall_prop_of_true hfits, heq, replyTold_ok,
          refundTold_self]
        simp only [hfound, Option.some.injEq, forall_eq']
        rfl
      · rw [if_pos hpaid]
        refine iff_of_true (fun reply hreply => ?_) fun hpos hfits => absurd ⟨hpos, hfits⟩ hout
        rw [refundTold_self, hnone reply hreply]
        exact fun h => (by cases h)

end AdminRefund

end CarRental
