import CarRental.Payouts.PayoutJournal
import CarRental.Payments.Redelivery

/-!
# The life of a payout

`approvePayout`, `executePayout`, `markPayoutPaid`, `rejectPayout` and
`reversePayout`, and the webhook of the payout gateway.

The state is one payout with what its operations read and write: the platform ledger,
the recorded webhook events and the audit log.  What the gateway answers to a
transfer is an argument.  A call for another payout does not touch this one.

As for payments, `payoutWrites` lists the states that the processing of a recorded
event commits one after the other.
-/

namespace CarRental

structure PayoutAuditEntry where
  actor : Id
  action : String
deriving DecidableEq

structure PayoutDesk where
  payout : Payout
  ledger : Ledger JournalKey
  webhookEvents : List WebhookEventRow
  auditLog : List PayoutAuditEntry
deriving DecidableEq

/-- What a call leaves and what it returns. -/
abbrev PayoutReply (R : Type) := PayoutDesk × Except HttpError R

namespace PayoutDesk

def setPayout (s : PayoutDesk) (payout : Payout) : PayoutDesk := { s with payout }

/-- `auditLogService.log`; a failed write is only logged. -/
def audit (s : PayoutDesk) (actor : Id) (action : String) : PayoutDesk :=
  { s with auditLog := s.auditLog ++ [⟨actor, action⟩] }

@[simp] theorem setPayout_payout (s : PayoutDesk) (payout : Payout) :
    (s.setPayout payout).payout = payout := rfl

@[simp] theorem setPayout_ledger (s : PayoutDesk) (payout : Payout) :
    (s.setPayout payout).ledger = s.ledger := rfl

@[simp] theorem audit_payout (s : PayoutDesk) (actor : Id) (action : String) :
    (s.audit actor action).payout = s.payout := rfl

@[simp] theorem audit_ledger (s : PayoutDesk) (actor : Id) (action : String) :
    (s.audit actor action).ledger = s.ledger := rfl

end PayoutDesk

/-! ## Approving and executing -/

def approvePayout (s : PayoutDesk) (adminUserId : Id) : PayoutReply Payout :=
  if s.payout.status ≠ .pending then
    (s, .error (.badRequest "Only PENDING payouts can be approved."))
  else
    let updated := { s.payout with status := .approved, approvedByUserId := some adminUserId }
    ((s.setPayout updated).audit adminUserId "PAYOUT_APPROVED", .ok updated)

inductive TransferStatus where
  | queued
  | processing
  | paid
  | failed
  | blockedCredentials
deriving DecidableEq, Repr

structure PayoutTransferResponse where
  status : TransferStatus
  providerTransferId : Option String
  failureReason : Option String
deriving DecidableEq

/-- What asking the gateway for a transfer yields, where a gateway is configured. -/
inductive TransferAnswer where
  | noProvider
  | error (message : String)
  | response (result : PayoutTransferResponse)
deriving DecidableEq

/-- Books a journal of the payout, or leaves the ledger as it is. -/
def recordPayoutJournal (s : PayoutDesk) (input : RecordJournalInput JournalKey) :
    Except HttpError PayoutDesk :=
  match recordJournal s.ledger input with
  | .ok (ledger, _) => .ok { s with ledger }
  | .error _ => .error (.badRequest "Ledger journal refused.")

/-- A transfer that an operator has made by hand: the payout is paid even if its journal
is refused. -/
def settleManually (s : PayoutDesk) (adminUserId : Id) (providerTransferId : String) :
    PayoutDesk :=
  let journal := payoutJournal s.payout
  let s := (s.setPayout
    { s.payout with status := .paid, providerTransferId := some providerTransferId }).audit
      adminUserId "PAYOUT_EXECUTED_MANUAL"
  match recordPayoutJournal s journal with
  | .ok s' => s'
  | .error _ => s

/-- The transaction of a transfer that the gateway has made. -/
def settleTransfer (s : PayoutDesk) (providerTransferId : Option String) :
    Except HttpError PayoutDesk :=
  recordPayoutJournal (s.setPayout { s.payout with status := .paid, providerTransferId })
    (payoutJournal s.payout)

/-- Without a gateway, the payout waits in `PROCESSING`. -/
def blockTransfer (s : PayoutDesk) (adminUserId : Id) : PayoutDesk :=
  (s.setPayout { s.payout with
    status := .processing
    providerFailureReason :=
      some "EXTERNAL CREDENTIAL BLOCKER: Payout gateway credentials unconfigured." }).audit
    adminUserId "PAYOUT_PROCESSING"

/-- A field that the gateway's answer leaves out keeps its value. -/
def executeTransfer (s : PayoutDesk) (adminUserId : Id) (result : PayoutTransferResponse) :
    PayoutReply Payout :=
  match result.status with
  | .blockedCredentials =>
    let updated := { s.payout with
      status := .processing
      providerFailureReason := result.failureReason <|> s.payout.providerFailureReason }
    ((s.setPayout updated).audit adminUserId "PAYOUT_DISPATCH_BLOCKED_MISSING_CREDENTIALS",
      .ok updated)
  | .paid =>
    match settleTransfer s (result.providerTransferId <|> s.payout.providerTransferId) with
    | .ok s' => (s'.audit adminUserId "PAYOUT_EXECUTED", .ok s'.payout)
    | .error e => (s, .error e)
  | .processing | .queued =>
    let updated := { s.payout with
      status := .processing
      providerTransferId := result.providerTransferId <|> s.payout.providerTransferId }
    ((s.setPayout updated).audit adminUserId "PAYOUT_PROCESSING", .ok updated)
  | .failed =>
    let updated := { s.payout with
      status := .failed
      providerFailureReason := result.failureReason <|> s.payout.providerFailureReason }
    ((s.setPayout updated).audit adminUserId "PAYOUT_FAILED", .ok updated)

/-- ₹50,000 -/
def dualAuthorizationPaise : ℤ := 50000 * 100

/-- `providerTransferId` is the operator's reference without surrounding blanks, if any
is left. -/
def executePayout (s : PayoutDesk) (adminUserId : Id) (providerTransferId : Option String)
    (transfer : TransferAnswer) : PayoutReply Payout :=
  if s.payout.status = .paid then
    (s, .error (.badRequest "Payout is already marked as PAID"))
  else if s.payout.status ≠ .approved ∧ s.payout.status ≠ .pending ∧
      s.payout.status ≠ .processing then
    (s, .error (.badRequest "Payout in its status cannot be executed."))
  else if dualAuthorizationPaise < s.payout.amount.paise ∧
      s.payout.approvedByUserId = some adminUserId then
    (s, .error (.badRequest "Dual Authorization Policy"))
  else
    -- a reference given by hand settles the payout without a transfer
    match providerTransferId with
    | some providerTransferId =>
      let s' := settleManually s adminUserId providerTransferId
      (s', .ok s'.payout)
    | none =>
      match transfer with
      | .noProvider =>
        let s' := blockTransfer s adminUserId
        (s', .ok s'.payout)
      | .error message => (s, .error (.internal message))
      | .response result => executeTransfer s adminUserId result

/-- The reference is the admin's note, or `settled_<now>` where there is none; a note of
blanks is no reference. -/
def markPayoutPaid (s : PayoutDesk) (reference : Option String) (transfer : TransferAnswer) :
    PayoutReply Payout :=
  executePayout s "system" reference transfer

/-! ## Rejecting and reversing -/

def rejectPayout (s : PayoutDesk) (adminUserId : Id) (reason : String) : PayoutReply Payout :=
  if s.payout.status ≠ .pending ∧ s.payout.status ≠ .approved then
    (s, .error (.badRequest "Payout in its status cannot be rejected."))
  else
    let updated := { s.payout with status := .rejected, providerFailureReason := some reason }
    ((s.setPayout updated).audit adminUserId "PAYOUT_REJECTED", .ok updated)

def reverseTransaction (s : PayoutDesk) (reason : Option String) : Except HttpError PayoutDesk :=
  let s' := s.setPayout { s.payout with
    status := .reversed
    providerFailureReason :=
      some (reason.getD "Payout reversed by banking network/operator.") }
  if s.payout.status = .paid then recordPayoutJournal s' (payoutReversalJournal s.payout)
  else .ok s'

def reversePayout (s : PayoutDesk) (adminUserId : Id) (reason : Option String) :
    PayoutReply Payout :=
  if s.payout.status = .reversed then (s, .ok s.payout)
  else if s.payout.status ≠ .paid ∧ s.payout.status ≠ .processing then
    (s, .error (.badRequest "Only PAID or PROCESSING payouts can be reversed."))
  else
    match reverseTransaction s reason with
    | .ok s' => (s'.audit adminUserId "PAYOUT_REVERSED", .ok s'.payout)
    | .error e => (s, .error e)

/-! ## The webhook -/

inductive PayoutEventType where
  /-- `payout.processed` and `payout.paid` -/
  | processed
  | reversed
  | failed
  | rejected
  | other
deriving DecidableEq, Repr

structure PayoutEvent where
  type : PayoutEventType
  providerTransferId : Option String
  /-- `reference_id` -/
  payoutNumber : Option String
  failureReason : Option String
deriving DecidableEq

structure PayoutWebhookReply where
  duplicate : Bool
  alreadyProcessed : Bool
  payoutNotFound : Bool
  status : Option PayoutStatus
deriving DecidableEq

def PayoutWebhookReply.received : PayoutWebhookReply := ⟨false, false, false, none⟩

/-- The committed states of a processing, in order, and its reply. -/
abbrev PayoutWebhookRun := List PayoutDesk × Except HttpError PayoutWebhookReply

/-- An event names the payout by the gateway's transfer or by its own number. -/
def Payout.matchesEvent (payout : Payout) (event : PayoutEvent) : Bool :=
  (event.providerTransferId.isSome && payout.providerTransferId = event.providerTransferId) ||
    (event.payoutNumber.isSome && payout.payoutNumber = event.payoutNumber)

def webhookActor : Id := "WEBHOOK_RAZORPAYX"

def processedRun (s : PayoutDesk) (event : PayoutEvent) : PayoutWebhookRun :=
  if s.payout.status = .paid then
    ([], .ok { PayoutWebhookReply.received with alreadyProcessed := true })
  else
    match settleTransfer s (event.providerTransferId <|> s.payout.providerTransferId) with
    | .ok s' =>
      ([s', s'.audit webhookActor "PAYOUT_EXECUTED_WEBHOOK"],
        .ok { PayoutWebhookReply.received with status := some .paid })
    | .error e => ([], .error e)

def reversedRun (s : PayoutDesk) (event : PayoutEvent) : PayoutWebhookRun :=
  let reason := event.failureReason.getD "Reversed by banking network"
  let reply := { PayoutWebhookReply.received with status := some .reversed }
  if s.payout.status = .reversed then ([], .ok reply)
  else if s.payout.status ≠ .paid ∧ s.payout.status ≠ .processing then
    ([], .error (.badRequest "Only PAID or PROCESSING payouts can be reversed."))
  else
    match reverseTransaction s (some reason) with
    | .ok s' => ([s', s'.audit webhookActor "PAYOUT_REVERSED"], .ok reply)
    | .error e => ([], .error e)

def defaultFailureReason : PayoutEventType → String
  | .rejected => "Payout was payout.rejected by RazorpayX."
  | _ => "Payout was payout.failed by RazorpayX."

def failedPayoutRun (s : PayoutDesk) (event : PayoutEvent) : PayoutWebhookRun :=
  if s.payout.status ≠ .failed ∧ s.payout.status ≠ .rejected ∧ s.payout.status ≠ .reversed then
    let s' := s.setPayout { s.payout with
      status := .failed
      providerFailureReason := some (event.failureReason.getD (defaultFailureReason event.type)) }
    ([s', s'.audit webhookActor "PAYOUT_FAILED_WEBHOOK"],
      .ok { PayoutWebhookReply.received with status := some .failed })
  else ([], .ok .received)

/-- The processing of a recorded event. -/
def payoutWebhookRun (s : PayoutDesk) (event : PayoutEvent) : PayoutWebhookRun :=
  if !s.payout.matchesEvent event then
    ([], .ok { PayoutWebhookReply.received with payoutNotFound := true })
  else
    match event.type with
    | .processed => processedRun s event
    | .reversed => reversedRun s event
    | .failed | .rejected => failedPayoutRun s event
    | .other => ([], .ok .received)

def payoutEventRecorded (s : PayoutDesk) (eventId : String) : Bool :=
  s.webhookEvents.any fun row => row.eventId = eventId

def recordPayoutEvent (s : PayoutDesk) (eventId : String) : PayoutDesk :=
  { s with webhookEvents := s.webhookEvents ++ [⟨eventId, .received⟩] }

/-- The states that processing a recorded event commits. -/
def payoutWrites (s : PayoutDesk) (event : PayoutEvent) : List PayoutDesk :=
  (payoutWebhookRun s event).1

/-- One delivery of an event, processed to its end. -/
def handlePayoutWebhook (s : PayoutDesk) (eventId : String) (event : PayoutEvent) :
    PayoutReply PayoutWebhookReply :=
  if payoutEventRecorded s eventId then
    (s, .ok { PayoutWebhookReply.received with duplicate := true, alreadyProcessed := true })
  else
    let recorded := recordPayoutEvent s eventId
    let run := payoutWebhookRun recorded event
    (run.1.getLastD recorded, run.2)

/-! ## A payout to run on -/

def requestedDesk : PayoutDesk where
  payout := {
    id := "payout"
    payoutNumber := some "PO-1"
    vendorId := "vendor"
    amount := sampleBooking.netToVendor
    status := .pending
    providerTransferId := none
    approvedByUserId := none
    providerFailureReason := none }
  ledger := ⟨[], 0⟩
  webhookEvents := []
  auditLog := []

/-!
## Redelivered payout events

The webhook of the payout gateway records an event and then processes it, as that of
the payment gateway does, and never marks it as processed.  Each processing that
changes the payout makes two writes, the second for the audit log.

`redelivery_iff` says for both webhooks which deliveries take effect once.
-/

def payoutInbox (eventId : String) (event : PayoutEvent) : Inbox PayoutDesk where
  recorded s := payoutEventRecorded s eventId
  record s := recordPayoutEvent s eventId
  writes s := payoutWrites s event

/-- What an event does, apart from its own row. -/
def payoutEffects (s : PayoutDesk) : PayoutDesk := { s with webhookEvents := [] }

def abortedPayoutWebhook (s : PayoutDesk) (eventId : String) (event : PayoutEvent) (k : ℕ) :
    PayoutDesk :=
  (payoutInbox eventId event).abortAfter s k

def redeliverPayout (eventId : String) (event : PayoutEvent) (s : PayoutDesk) : PayoutDesk :=
  (handlePayoutWebhook s eventId event).1

/-- The processing throws: a journal is refused, or the payout is in no status to be
reversed. -/
def payoutThrows (s : PayoutDesk) (event : PayoutEvent) : Bool :=
  s.payout.matchesEvent event &&
    match event.type with
    | .processed =>
      s.payout.status ≠ .paid && !(recordJournal s.ledger (payoutJournal s.payout)).isOk
    | .reversed =>
      (s.payout.status ≠ .reversed && s.payout.status ≠ .paid &&
          s.payout.status ≠ .processing) ||
        (s.payout.status = .paid &&
          !(recordJournal s.ledger (payoutReversalJournal s.payout)).isOk)
    | _ => false

/-- The event changes the payout, where its processing does not throw. -/
def changesPayout (s : PayoutDesk) (event : PayoutEvent) : Bool :=
  s.payout.matchesEvent event &&
    match event.type with
    | .processed => s.payout.status ≠ .paid
    | .reversed => s.payout.status ≠ .reversed
    | .failed | .rejected =>
      s.payout.status ≠ .failed && s.payout.status ≠ .rejected && s.payout.status ≠ .reversed
    | .other => false

def payoutEffectiveWrites (s : PayoutDesk) (event : PayoutEvent) : ℕ :=
  if changesPayout s event then 2 else 0

/-! ## What a processing can do -/

/-- The shapes of a processing: its writes and its reply, whether it changes the payout,
and whether it throws. -/
inductive PayoutShape (s : PayoutDesk) : PayoutWebhookRun → Bool → Bool → Prop where
  | nothing (reply : PayoutWebhookReply) : PayoutShape s ([], .ok reply) false false
  | thrown (e : HttpError) (changes : Bool) : PayoutShape s ([], .error e) changes true
  /-- A change of the payout and its audit entry. -/
  | change (next : PayoutDesk) (action : String) (reply : PayoutWebhookReply)
      (rows : next.webhookEvents = s.webhookEvents) (log : next.auditLog = s.auditLog) :
      PayoutShape s ([next, next.audit webhookActor action], .ok reply) true false

section Shape

variable {s s' : PayoutDesk} {eventId : String} {event : PayoutEvent}

theorem recordPayoutJournal_isOk (s : PayoutDesk) (input : RecordJournalInput JournalKey) :
    (recordPayoutJournal s input).isOk = (recordJournal s.ledger input).isOk := by
  unfold recordPayoutJournal
  cases recordJournal s.ledger input <;> rfl

theorem recordPayoutJournal_keeps {input : RecordJournalInput JournalKey}
    (h : recordPayoutJournal s input = .ok s') :
    s'.webhookEvents = s.webhookEvents ∧ s'.auditLog = s.auditLog := by
  unfold recordPayoutJournal at h
  split at h
  · cases h
    exact ⟨rfl, rfl⟩
  · cases h

theorem processedRun_shape (s : PayoutDesk) (event : PayoutEvent) :
    PayoutShape s (processedRun s event) (s.payout.status ≠ .paid)
      (s.payout.status ≠ .paid && !(recordJournal s.ledger (payoutJournal s.payout)).isOk) := by
  unfold processedRun
  by_cases hpaid : s.payout.status = .paid
  · simp only [hpaid, if_true, ne_eq, not_true_eq_false, decide_false, Bool.false_and]
    exact .nothing _
  · simp only [hpaid, if_false, ne_eq, not_false_eq_true, decide_true, Bool.true_and]
    have hok : (settleTransfer s (event.providerTransferId <|> s.payout.providerTransferId)).isOk =
        (recordJournal s.ledger (payoutJournal s.payout)).isOk := recordPayoutJournal_isOk _ _
    rw [← hok]
    cases hsettle : settleTransfer s (event.providerTransferId <|> s.payout.providerTransferId) with
    | error e => exact .thrown e _
    | ok next =>
      obtain ⟨hrows, hlog⟩ := recordPayoutJournal_keeps hsettle
      exact .change next _ _ hrows hlog

theorem reversedRun_shape (s : PayoutDesk) (event : PayoutEvent) :
    PayoutShape s (reversedRun s event) (s.payout.status ≠ .reversed)
      ((s.payout.status ≠ .reversed && s.payout.status ≠ .paid && s.payout.status ≠ .processing) ||
        (s.payout.status = .paid &&
          !(recordJournal s.ledger (payoutReversalJournal s.payout)).isOk)) := by
  unfold reversedRun
  simp only
  split
  next hreversed =>
    simp only [hreversed, ne_eq, not_true_eq_false, decide_false, Bool.false_and, reduceCtorEq,
      Bool.or_self]
    exact .nothing _
  next hnot =>
    split
    next hstatus =>
      simp only [hnot, hstatus.1, hstatus.2, ne_eq, not_false_eq_true, decide_true, Bool.and_self,
        Bool.true_or]
      exact .thrown _ _
    next hstatus =>
      have hreversible : (decide (s.payout.status ≠ .reversed) && decide (s.payout.status ≠ .paid) &&
          decide (s.payout.status ≠ .processing)) = false := by
        by_contra hopen
        simp only [Bool.not_eq_false, Bool.and_eq_true, decide_eq_true_eq] at hopen
        exact hstatus ⟨hopen.1.2, hopen.2⟩
      rw [hreversible, Bool.false_or, decide_eq_true hnot]
      unfold reverseTransaction
      by_cases hpaid : s.payout.status = .paid
      · simp only [hpaid, if_true, decide_true, Bool.true_and]
        set updated := s.setPayout { s.payout with
          status := .reversed
          providerFailureReason :=
            some ((some (event.failureReason.getD "Reversed by banking network")).getD
              "Payout reversed by banking network/operator.") }
        have hok : (recordPayoutJournal updated (payoutReversalJournal s.payout)).isOk =
            (recordJournal s.ledger (payoutReversalJournal s.payout)).isOk :=
          recordPayoutJournal_isOk _ _
        rw [← hok]
        cases hrecord : recordPayoutJournal updated (payoutReversalJournal s.payout) with
        | error e => exact .thrown e _
        | ok next =>
          obtain ⟨hrows, hlog⟩ := recordPayoutJournal_keeps hrecord
          exact .change next _ _ hrows hlog
      · simp only [hpaid, if_false, decide_false, Bool.false_and]
        exact .change _ _ _ rfl rfl

theorem failedPayoutRun_shape (s : PayoutDesk) (event : PayoutEvent) :
    PayoutShape s (failedPayoutRun s event)
      (s.payout.status ≠ .failed && s.payout.status ≠ .rejected && s.payout.status ≠ .reversed)
      false := by
  unfold failedPayoutRun
  split
  next hstatus =>
    obtain ⟨hfailed, hrejected, hreversed⟩ := hstatus
    simp only [hfailed, hrejected, hreversed, ne_eq, not_false_eq_true, decide_true, Bool.and_self]
    exact .change _ _ _ rfl rfl
  next hstatus =>
    have hfinal : (decide (s.payout.status ≠ .failed) && decide (s.payout.status ≠ .rejected) &&
        decide (s.payout.status ≠ .reversed)) = false := by
      by_contra hopen
      simp only [Bool.not_eq_false, Bool.and_eq_true, decide_eq_true_eq] at hopen
      exact hstatus ⟨hopen.1.1, hopen.1.2, hopen.2⟩
    rw [hfinal]
    exact .nothing _

theorem payoutWebhookRun_shape (s : PayoutDesk) (event : PayoutEvent) :
    PayoutShape s (payoutWebhookRun s event) (changesPayout s event) (payoutThrows s event) := by
  unfold payoutWebhookRun changesPayout payoutThrows
  cases hmatch : s.payout.matchesEvent event with
  | false => exact .nothing _
  | true =>
    simp only [Bool.not_true, Bool.false_eq_true, if_false, Bool.true_and]
    cases event.type with
    | processed => exact processedRun_shape s event
    | reversed => exact reversedRun_shape s event
    | failed => exact failedPayoutRun_shape s event
    | rejected => exact failedPayoutRun_shape s event
    | other => exact .nothing _

variable {run : PayoutWebhookRun} {changes throws : Bool}

theorem PayoutShape.isOk_eq (h : PayoutShape s run changes throws) : run.2.isOk = !throws := by
  cases h <;> rfl

theorem PayoutShape.recorded (h : PayoutShape s run changes throws)
    (hrow : payoutEventRecorded s eventId = true) :
    ∀ next ∈ run.1, payoutEventRecorded next eventId = true := by
  intro next hnext
  cases h with
  | nothing reply => cases hnext
  | thrown e => cases hnext
  | change written action reply rows log =>
    have hwritten : payoutEventRecorded written eventId = true := by
      rw [payoutEventRecorded, rows]
      exact hrow
    rw [List.mem_cons, List.mem_singleton] at hnext
    rcases hnext with rfl | rfl
    · exact hwritten
    · exact hwritten

end Shape

/-! ## Redelivery -/

section Redelivery

variable {s : PayoutDesk} {eventId : String} {event : PayoutEvent}

theorem payoutInbox_keeps (s : PayoutDesk) (eventId : String) (event : PayoutEvent) :
    (payoutInbox eventId event).Keeps s := by
  have hrow : payoutEventRecorded (recordPayoutEvent s eventId) eventId = true := by
    simp [payoutEventRecorded, recordPayoutEvent]
  intro next hnext
  rcases List.mem_cons.mp hnext with rfl | hwritten
  · exact hrow
  · exact (payoutWebhookRun_shape (recordPayoutEvent s eventId) event).recorded hrow next hwritten

theorem payoutInbox_settles (h : payoutThrows s event = false) :
    (payoutInbox eventId event).Settles payoutEffects s (payoutEffectiveWrites s event) := by
  have hshape : PayoutShape (recordPayoutEvent s eventId)
      (payoutWebhookRun (recordPayoutEvent s eventId) event) (changesPayout s event)
      (payoutThrows s event) := payoutWebhookRun_shape (recordPayoutEvent s eventId) event
  rw [h] at hshape
  have hwrites : (payoutInbox eventId event).writes ((payoutInbox eventId event).record s) =
      (payoutWebhookRun (recordPayoutEvent s eventId) event).1 := rfl
  unfold payoutEffectiveWrites
  generalize payoutWebhookRun (recordPayoutEvent s eventId) event = run at hshape hwrites
  generalize changesPayout s event = changes at hshape
  cases hshape with
  | nothing reply => exact Inbox.settles_zero_of_nil hwrites
  | change next action reply rows log =>
    have hentry : ∀ base : PayoutDesk, base.auditLog = next.auditLog →
        payoutEffects base ≠ payoutEffects (next.audit webhookActor action) := by
      intro base hlog heq
      have hsame : base.auditLog = next.auditLog ++ [⟨webhookActor, action⟩] :=
        congrArg PayoutDesk.auditLog heq
      rw [hlog] at hsame
      have hlength := congrArg List.length hsame
      rw [List.length_append, List.length_singleton] at hlength
      omega
    exact Inbox.settles_two_of_pair hwrites (hentry _ log.symm) (hentry _ rfl)

theorem redeliverPayout_eq : redeliverPayout eventId event = (payoutInbox eventId event).deliver := by
  funext s
  unfold redeliverPayout handlePayoutWebhook Inbox.deliver
  split
  next hrecorded => exact (if_pos hrecorded).symm
  next hfresh => exact (if_neg hfresh).symm

/-- The event can be processed, and a delivery that stops after `k` writes, with the
redeliveries after it, has the effects of one processing. -/
def PayoutTakesEffectOnce (s : PayoutDesk) (eventId : String) (event : PayoutEvent) (k n : ℕ) :
    Prop :=
  (handlePayoutWebhook s eventId event).2.isOk = true ∧
    payoutEffects ((redeliverPayout eventId event)^[n + 1]
        (abortedPayoutWebhook s eventId event k)) =
      payoutEffects (handlePayoutWebhook s eventId event).1

theorem payoutTakesEffectOnce_iff (hfresh : payoutEventRecorded s eventId = false) (k n : ℕ) :
    PayoutTakesEffectOnce s eventId event k n ↔
      payoutThrows s event = false ∧ payoutEffectiveWrites s event ≤ k := by
  have hshape : PayoutShape (recordPayoutEvent s eventId)
      (payoutWebhookRun (recordPayoutEvent s eventId) event) (changesPayout s event)
      (payoutThrows s event) := payoutWebhookRun_shape (recordPayoutEvent s eventId) event
  have hreply : (handlePayoutWebhook s eventId event).2.isOk = !payoutThrows s event := by
    rw [← hshape.isOk_eq, handlePayoutWebhook, hfresh]
    rfl
  have hprocess : (handlePayoutWebhook s eventId event).1 = (payoutInbox eventId event).process s := by
    have hdeliver : (payoutInbox eventId event).deliver s = (payoutInbox eventId event).process s :=
      Inbox.deliver_of_fresh hfresh
    rw [← hdeliver, ← redeliverPayout_eq]
    rfl
  rw [PayoutTakesEffectOnce, hreply, hprocess, redeliverPayout_eq, abortedPayoutWebhook,
    Bool.not_eq_true']
  refine and_congr_right fun h => ?_
  exact (payoutInbox_settles h).redeliver_iff (payoutInbox_keeps s eventId event) k (n + 1)

/-! ## Both webhooks -/

/-- For both webhooks: a fresh event whose delivery stops after some of its writes takes
effect once exactly when its processing does not throw and no effective write was
missing. -/
theorem redelivery_iff {c : Checkout} {paymentEventId : String}
    (hpayment : eventRecorded c paymentEventId = false)
    (hpayout : payoutEventRecorded s eventId = false) (paymentEvent : WebhookEvent)
    (payoutEvent : PayoutEvent) (k n : ℕ) :
    (TakesEffectOnce c paymentEventId paymentEvent k n ↔
        webhookThrows c paymentEvent = false ∧ effectiveWrites c paymentEvent ≤ k) ∧
      (PayoutTakesEffectOnce s eventId payoutEvent k n ↔
        payoutThrows s payoutEvent = false ∧ payoutEffectiveWrites s payoutEvent ≤ k) :=
  ⟨takesEffectOnce_iff hpayment k n, payoutTakesEffectOnce_iff hpayout k n⟩

end Redelivery

def sampleCaptured : WebhookEvent :=
  .paymentCaptured (some (.gateway "order")) "pay" (some 111800) (some "INR")

def sampleProcessed : PayoutEvent := ⟨.processed, some "transfer", some "PO-1", none⟩

/-- Events that were processed in full take effect once. -/
theorem redelivery_complete :
    TakesEffectOnce sampleCheckout "event" sampleCaptured 2 3 ∧
      PayoutTakesEffectOnce requestedDesk "event" sampleProcessed 2 3 :=
  let both := redelivery_iff (c := sampleCheckout) (s := requestedDesk) (by decide) (by decide)
    sampleCaptured sampleProcessed 2 3
  ⟨both.1.mpr (by decide +kernel), both.2.mpr (by decide +kernel)⟩

/-- Events whose processing stopped before its first write never take effect. -/
theorem aborted_events_lost :
    ¬ TakesEffectOnce sampleCheckout "event" sampleCaptured 0 0 ∧
      ¬ PayoutTakesEffectOnce requestedDesk "event" sampleProcessed 0 0 := by
  rw [takesEffectOnce_iff (by decide), payoutTakesEffectOnce_iff (by decide)]
  decide +kernel

end CarRental
