import CarRental.Lib.Runs
import CarRental.Payouts.Lifecycle

/-!
# A payout and its journals

A payout should be paid at most once, and the ledger should agree with its status: the
vendor's payable account is lower by the amount exactly while the payout is `PAID`.

The webhook breaks both.  A `processed` event pays a payout that was rejected, failed
or reversed, and a `failed` event takes a paid payout to `FAILED` without reversing its
journal.  Nothing else does (`payout_law_iff`).

## Strategy

`payoutStep_moves` says once what a step can do: one of four moves that keep the law,
or, exactly for the two events above, one of two that break it.  The invariant
`Sound` pins down what the two journals of the payout can be.
-/

namespace CarRental

open Runs

/-! ## Runs -/

inductive PayoutAction where
  | approvePayout (adminUserId : Id)
  | executePayout (adminUserId : Id) (providerTransferId : Option String)
      (transfer : TransferAnswer)
  | markPayoutPaid (reference : Option String) (transfer : TransferAnswer)
  | rejectPayout (adminUserId : Id) (reason : String)
  | reversePayout (adminUserId : Id) (reason : Option String)
  | webhook (eventId : String) (event : PayoutEvent)
deriving DecidableEq

def payoutStep (s : PayoutDesk) : PayoutAction → PayoutDesk
  | .approvePayout adminUserId => (approvePayout s adminUserId).1
  | .executePayout adminUserId providerTransferId transfer =>
    (executePayout s adminUserId providerTransferId transfer).1
  | .markPayoutPaid reference transfer => (markPayoutPaid s reference transfer).1
  | .rejectPayout adminUserId reason => (rejectPayout s adminUserId reason).1
  | .reversePayout adminUserId reason => (reversePayout s adminUserId reason).1
  | .webhook eventId event => (handlePayoutWebhook s eventId event).1

/-! ## The law -/

/-- The payout can still be executed. -/
def IsOpen (s : PayoutDesk) : Prop := s.payout.status ∈ [.pending, .approved, .processing]

def IsClosed (s : PayoutDesk) : Prop := s.payout.status ∈ [.rejected, .failed, .reversed]

def IsPaid (s : PayoutDesk) : Prop := s.payout.status = .paid

/-- The payout's journals take its amount off the vendor's account exactly while it is
paid. -/
def BooksMatch (s : PayoutDesk) : Prop :=
  payoutEffect s.ledger s.payout = if s.payout.status = .paid then -s.payout.amount.paise else 0

instance (s : PayoutDesk) : Decidable (IsOpen s) := inferInstanceAs (Decidable (_ ∈ _))
instance (s : PayoutDesk) : Decidable (IsClosed s) := inferInstanceAs (Decidable (_ ∈ _))
instance (s : PayoutDesk) : Decidable (IsPaid s) := inferInstanceAs (Decidable (_ = _))
instance (s : PayoutDesk) : Decidable (BooksMatch s) := inferInstanceAs (Decidable (_ = _))
instance : DecidablePred IsClosed := fun _ => inferInstance
instance : DecidablePred IsPaid := fun _ => inferInstance

/-- In every state of the run the books match, and a closed payout is never paid again. -/
def PayoutLaw (s : PayoutDesk) (actions : List PayoutAction) : Prop :=
  Everywhere payoutStep BooksMatch s actions ∧ NeverAfter payoutStep IsClosed IsPaid s actions

instance (s : PayoutDesk) (actions : List PayoutAction) : Decidable (PayoutLaw s actions) :=
  inferInstanceAs (Decidable (_ ∧ _))

/-- The two events that break the law: a transfer is reported as made for a closed
payout, or as failed for a paid one. -/
def BreaksPayoutLaw (s : PayoutDesk) : PayoutAction → Prop
  | .webhook eventId event =>
    payoutEventRecorded s eventId = false ∧ s.payout.matchesEvent event = true ∧
      (event.type = .processed ∧ IsClosed s ∨
        (event.type = .failed ∨ event.type = .rejected) ∧ IsPaid s)
  | _ => False

instance (s : PayoutDesk) (action : PayoutAction) : Decidable (BreaksPayoutLaw s action) := by
  unfold BreaksPayoutLaw
  cases action <;> infer_instance

/-! ## What the journals can be -/

/-- The amount is positive, each of the two journals is booked in full or not at all, and
neither is booked while the payout is open. -/
structure Sound (s : PayoutDesk) : Prop where
  positive : 0 < s.payout.amount.paise
  payment : Unposted s.ledger (.payoutExec s.payout.id) ∨
    Posted s.ledger s.payout.vendorId (.payoutExec s.payout.id) (-s.payout.amount.paise)
  reversal : Unposted s.ledger (.payoutReversal s.payout.id) ∨
    Posted s.ledger s.payout.vendorId (.payoutReversal s.payout.id) s.payout.amount.paise
  unbooked : IsOpen s → Unposted s.ledger (.payoutExec s.payout.id) ∧
    Unposted s.ledger (.payoutReversal s.payout.id)

def SamePayout (s s' : PayoutDesk) : Prop :=
  s'.payout.id = s.payout.id ∧ s'.payout.vendorId = s.payout.vendorId ∧
    s'.payout.amount = s.payout.amount

/-- A step that keeps the law. -/
inductive LawfulMove (s s' : PayoutDesk) : Prop where
  /-- Neither status nor ledger change. -/
  | stay (status : s'.payout.status = s.payout.status) (ledger : s'.ledger = s.ledger)
  /-- An open payout goes on, or closes. -/
  | proceed (isOpen : IsOpen s) (unpaid : ¬ IsPaid s') (ledger : s'.ledger = s.ledger)
  /-- An open payout is paid. -/
  | pay (isOpen : IsOpen s) (paid : IsPaid s')
      (ledger : ∃ receipt, recordJournal s.ledger (payoutJournal s.payout) = .ok (s'.ledger, receipt))
  /-- A paid payout is reversed, with its journal. -/
  | reverse (paid : IsPaid s) (reversed : s'.payout.status = .reversed)
      (ledger : ∃ receipt, recordJournal s.ledger (payoutReversalJournal s.payout) =
        .ok (s'.ledger, receipt))

/-- A step that breaks the law. -/
inductive UnlawfulMove (s s' : PayoutDesk) : Prop where
  /-- A closed payout is paid. -/
  | payClosed (isClosed : IsClosed s) (paid : IsPaid s')
      (ledger : ∃ receipt, recordJournal s.ledger (payoutJournal s.payout) = .ok (s'.ledger, receipt))
  /-- A paid payout fails, and its journal stays. -/
  | failPaid (paid : IsPaid s) (failed : s'.payout.status = .failed) (ledger : s'.ledger = s.ledger)

/-- A move of one payout, unlawful exactly where `breaks` holds. -/
def MovesUnless (breaks : Prop) (s s' : PayoutDesk) : Prop :=
  SamePayout s s' ∧ (¬ breaks ∧ LawfulMove s s' ∨ breaks ∧ UnlawfulMove s s')

section Moves

variable {s s' : PayoutDesk}

theorem recordPayoutJournal_eq_ok {input : RecordJournalInput JournalKey}
    (h : recordPayoutJournal s input = .ok s') :
    ∃ ledger receipt, recordJournal s.ledger input = .ok (ledger, receipt) ∧
      s' = { s with ledger } := by
  unfold recordPayoutJournal at h
  split at h
  next ledger receipt hrecord =>
    cases h
    exact ⟨ledger, receipt, hrecord, rfl⟩
  · cases h

theorem Sound.payment_accepted (h : Sound s) :
    ∃ ledger receipt, recordJournal s.ledger (payoutJournal s.payout) = .ok (ledger, receipt) := by
  rcases h.payment with hunposted | hposted
  · exact ⟨_, recordJournal_transfer _ hunposted h.positive⟩
  · exact ⟨_, recordJournal_duplicate _ hposted.1⟩

theorem not_isOpen_of_isClosed (h : IsClosed s) : ¬ IsOpen s := by
  unfold IsClosed at h
  unfold IsOpen
  revert h
  cases s.payout.status <;> decide

theorem not_isPaid_of_isClosed (h : IsClosed s) : ¬ IsPaid s := by
  unfold IsClosed at h
  unfold IsPaid
  revert h
  cases s.payout.status <;> decide

theorem status_cases (s : PayoutDesk) : IsOpen s ∨ IsPaid s ∨ IsClosed s := by
  unfold IsOpen IsPaid IsClosed
  cases s.payout.status <;> decide

/-! ### What each operation can do -/

theorem LawfulMove.refl (s : PayoutDesk) : LawfulMove s s := .stay rfl rfl

theorem LawfulMove.audit (h : LawfulMove s s') (actor : Id) (action : String) :
    LawfulMove s (s'.audit actor action) := by
  cases h with
  | stay status ledger => exact .stay status ledger
  | proceed isOpen unpaid ledger => exact .proceed isOpen unpaid ledger
  | pay isOpen paid ledger => exact .pay isOpen paid ledger
  | reverse paid reversed ledger => exact .reverse paid reversed ledger

theorem LawfulMove.of_recordPayoutEvent {eventId : String}
    (h : LawfulMove (recordPayoutEvent s eventId) s') : LawfulMove s s' := by
  cases h with
  | stay status ledger => exact .stay status ledger
  | proceed isOpen unpaid ledger => exact .proceed isOpen unpaid ledger
  | pay isOpen paid ledger => exact .pay isOpen paid ledger
  | reverse paid reversed ledger => exact .reverse paid reversed ledger

theorem UnlawfulMove.of_recordPayoutEvent {eventId : String}
    (h : UnlawfulMove (recordPayoutEvent s eventId) s') : UnlawfulMove s s' := by
  cases h with
  | payClosed isClosed paid ledger => exact .payClosed isClosed paid ledger
  | failPaid paid failed ledger => exact .failPaid paid failed ledger

theorem approvePayout_moves (adminUserId : Id) :
    SamePayout s (approvePayout s adminUserId).1 ∧
      LawfulMove s (approvePayout s adminUserId).1 := by
  unfold approvePayout
  split
  · exact ⟨⟨rfl, rfl, rfl⟩, .refl s⟩
  next hpending =>
    refine ⟨⟨rfl, rfl, rfl⟩, .proceed ?_ (fun h => PayoutStatus.noConfusion h) rfl⟩
    rw [IsOpen, not_not.mp hpending]
    decide

theorem rejectPayout_moves (adminUserId : Id) (reason : String) :
    SamePayout s (rejectPayout s adminUserId reason).1 ∧
      LawfulMove s (rejectPayout s adminUserId reason).1 := by
  unfold rejectPayout
  split
  · exact ⟨⟨rfl, rfl, rfl⟩, .refl s⟩
  next hstatus =>
    refine ⟨⟨rfl, rfl, rfl⟩, .proceed ?_ (fun h => PayoutStatus.noConfusion h) rfl⟩
    rw [IsOpen]
    revert hstatus
    cases s.payout.status <;> decide

theorem settleTransfer_eq_ok {providerTransferId : Option String}
    (h : settleTransfer s providerTransferId = .ok s') :
    SamePayout s s' ∧ IsPaid s' ∧
      ∃ receipt, recordJournal s.ledger (payoutJournal s.payout) = .ok (s'.ledger, receipt) := by
  obtain ⟨ledger, receipt, hrecord, rfl⟩ := recordPayoutJournal_eq_ok h
  exact ⟨⟨rfl, rfl, rfl⟩, rfl, receipt, hrecord⟩

theorem executeTransfer_moves (hopen : IsOpen s) (adminUserId : Id)
    (result : PayoutTransferResponse) :
    SamePayout s (executeTransfer s adminUserId result).1 ∧
      LawfulMove s (executeTransfer s adminUserId result).1 := by
  unfold executeTransfer
  split
  · exact ⟨⟨rfl, rfl, rfl⟩, .proceed hopen (fun h => PayoutStatus.noConfusion h) rfl⟩
  · split
    next s' hsettle =>
      obtain ⟨hsame, hpaid, hledger⟩ := settleTransfer_eq_ok hsettle
      exact ⟨hsame, .pay hopen hpaid hledger⟩
    · exact ⟨⟨rfl, rfl, rfl⟩, .refl s⟩
  · exact ⟨⟨rfl, rfl, rfl⟩, .proceed hopen (fun h => PayoutStatus.noConfusion h) rfl⟩
  · exact ⟨⟨rfl, rfl, rfl⟩, .proceed hopen (fun h => PayoutStatus.noConfusion h) rfl⟩
  · exact ⟨⟨rfl, rfl, rfl⟩, .proceed hopen (fun h => PayoutStatus.noConfusion h) rfl⟩

theorem settleManually_moves (h : Sound s) (hopen : IsOpen s) (adminUserId : Id)
    (providerTransferId : String) :
    SamePayout s (settleManually s adminUserId providerTransferId) ∧
      LawfulMove s (settleManually s adminUserId providerTransferId) := by
  obtain ⟨ledger, receipt, hrecord⟩ := h.payment_accepted
  have hsettled : settleManually s adminUserId providerTransferId =
      { (s.setPayout { s.payout with
          status := .paid, providerTransferId := some providerTransferId }).audit adminUserId
            "PAYOUT_EXECUTED_MANUAL" with ledger } := by
    simp [settleManually, recordPayoutJournal, hrecord]
  rw [hsettled]
  exact ⟨⟨rfl, rfl, rfl⟩, .pay hopen rfl ⟨receipt, hrecord⟩⟩

theorem executePayout_moves (h : Sound s) (adminUserId : Id) (providerTransferId : Option String)
    (transfer : TransferAnswer) :
    SamePayout s (executePayout s adminUserId providerTransferId transfer).1 ∧
      LawfulMove s (executePayout s adminUserId providerTransferId transfer).1 := by
  unfold executePayout
  split
  · exact ⟨⟨rfl, rfl, rfl⟩, .refl s⟩
  split
  · exact ⟨⟨rfl, rfl, rfl⟩, .refl s⟩
  next hstatus =>
    have hopen : IsOpen s := by
      rw [IsOpen]
      revert hstatus
      cases s.payout.status <;> decide
    split
    · exact ⟨⟨rfl, rfl, rfl⟩, .refl s⟩
    split
    · exact settleManually_moves h hopen _ _
    · split
      · exact ⟨⟨rfl, rfl, rfl⟩, .proceed hopen (fun h => PayoutStatus.noConfusion h) rfl⟩
      · exact ⟨⟨rfl, rfl, rfl⟩, .refl s⟩
      · exact executeTransfer_moves hopen adminUserId _

theorem reverseTransaction_eq_ok {reason : Option String}
    (hstatus : IsPaid s ∨ s.payout.status = .processing)
    (h : reverseTransaction s reason = .ok s') : SamePayout s s' ∧ LawfulMove s s' := by
  unfold reverseTransaction at h
  simp only at h
  split at h
  next hpaid =>
    obtain ⟨ledger, receipt, hrecord, rfl⟩ := recordPayoutJournal_eq_ok h
    exact ⟨⟨rfl, rfl, rfl⟩, .reverse hpaid rfl ⟨receipt, hrecord⟩⟩
  next hunpaid =>
    cases h
    refine ⟨⟨rfl, rfl, rfl⟩, .proceed ?_ (fun h => PayoutStatus.noConfusion h) rfl⟩
    rw [IsOpen, hstatus.resolve_left hunpaid]
    decide

theorem paid_or_processing (h : ¬ (s.payout.status ≠ .paid ∧ s.payout.status ≠ .processing)) :
    IsPaid s ∨ s.payout.status = .processing := by
  unfold IsPaid
  tauto

theorem reversePayout_moves (adminUserId : Id) (reason : Option String) :
    SamePayout s (reversePayout s adminUserId reason).1 ∧
      LawfulMove s (reversePayout s adminUserId reason).1 := by
  unfold reversePayout
  split
  · exact ⟨⟨rfl, rfl, rfl⟩, .refl s⟩
  split
  · exact ⟨⟨rfl, rfl, rfl⟩, .refl s⟩
  next hstatus =>
    split
    next s' hreverse =>
      obtain ⟨hsame, hmove⟩ := reverseTransaction_eq_ok (paid_or_processing hstatus) hreverse
      exact ⟨hsame, hmove.audit adminUserId "PAYOUT_REVERSED"⟩
    · exact ⟨⟨rfl, rfl, rfl⟩, .refl s⟩

theorem processedRun_moves (h : Sound s) (event : PayoutEvent) :
    MovesUnless (IsClosed s) s ((processedRun s event).1.getLastD s) := by
  unfold processedRun
  split
  next hpaid =>
    refine ⟨⟨rfl, rfl, rfl⟩, .inl ⟨?_, .refl s⟩⟩
    exact fun hclosed => not_isPaid_of_isClosed hclosed hpaid
  next hunpaid =>
    obtain ⟨ledger, receipt, hrecord⟩ := h.payment_accepted
    have hsettle : settleTransfer s (event.providerTransferId <|> s.payout.providerTransferId) =
        .ok { s.setPayout { s.payout with
          status := .paid
          providerTransferId := event.providerTransferId <|> s.payout.providerTransferId } with
            ledger } := by
      simp [settleTransfer, recordPayoutJournal, hrecord]
    rw [hsettle]
    refine ⟨⟨rfl, rfl, rfl⟩, ?_⟩
    -- the event does not ask whether the payout was open or closed
    rcases status_cases s with hopen | hpaid | hclosed
    · refine .inl ⟨?_, .pay hopen rfl ⟨receipt, hrecord⟩⟩
      exact fun hclosed => not_isOpen_of_isClosed hclosed hopen
    · exact absurd hpaid hunpaid
    · exact .inr ⟨hclosed, .payClosed hclosed rfl ⟨receipt, hrecord⟩⟩

theorem reversedRun_moves (event : PayoutEvent) :
    SamePayout s ((reversedRun s event).1.getLastD s) ∧
      LawfulMove s ((reversedRun s event).1.getLastD s) := by
  unfold reversedRun
  simp only
  split
  · exact ⟨⟨rfl, rfl, rfl⟩, .refl s⟩
  split
  · exact ⟨⟨rfl, rfl, rfl⟩, .refl s⟩
  next hstatus =>
    split
    next s' hreverse =>
      obtain ⟨hsame, hmove⟩ := reverseTransaction_eq_ok (paid_or_processing hstatus) hreverse
      exact ⟨hsame, hmove.audit webhookActor "PAYOUT_REVERSED"⟩
    · exact ⟨⟨rfl, rfl, rfl⟩, .refl s⟩

theorem failedPayoutRun_moves (event : PayoutEvent) :
    MovesUnless (IsPaid s) s ((failedPayoutRun s event).1.getLastD s) := by
  unfold failedPayoutRun
  split
  next hstatus =>
    refine ⟨⟨rfl, rfl, rfl⟩, ?_⟩
    by_cases hpaid : IsPaid s
    · exact .inr ⟨hpaid, .failPaid hpaid rfl rfl⟩
    · refine .inl ⟨hpaid, .proceed ?_ (fun h => PayoutStatus.noConfusion h) rfl⟩
      rcases status_cases s with hopen | hpaid' | hclosed
      · exact hopen
      · exact absurd hpaid' hpaid
      · simp only [IsClosed, List.mem_cons, List.not_mem_nil, or_false] at hclosed
        tauto
  next hstatus =>
    refine ⟨⟨rfl, rfl, rfl⟩, .inl ⟨fun hpaid => hstatus ?_, .refl s⟩⟩
    rw [show s.payout.status = .paid from hpaid]
    decide

theorem payoutWebhookRun_moves (h : Sound s) {event : PayoutEvent}
    (hmatch : s.payout.matchesEvent event = true) :
    MovesUnless
      (event.type = .processed ∧ IsClosed s ∨
        (event.type = .failed ∨ event.type = .rejected) ∧ IsPaid s)
      s ((payoutWebhookRun s event).1.getLastD s) := by
  unfold payoutWebhookRun
  rw [hmatch]
  simp only [Bool.not_true, Bool.false_eq_true, if_false]
  cases event.type with
  | processed =>
    simp only [true_and, reduceCtorEq, or_self, false_and, or_false]
    exact processedRun_moves h event
  | reversed =>
    simp only [reduceCtorEq, false_and, or_self]
    obtain ⟨hsame, hmove⟩ := reversedRun_moves (s := s) event
    exact ⟨hsame, .inl ⟨id, hmove⟩⟩
  | failed =>
    simp only [reduceCtorEq, false_and, or_false, true_and, false_or]
    exact failedPayoutRun_moves event
  | rejected =>
    simp only [reduceCtorEq, false_and, or_true, true_and, false_or]
    exact failedPayoutRun_moves event
  | other =>
    simp only [reduceCtorEq, false_and, or_self]
    exact ⟨⟨rfl, rfl, rfl⟩, .inl ⟨id, .refl s⟩⟩

theorem handlePayoutWebhook_moves (h : Sound s) (eventId : String) (event : PayoutEvent) :
    MovesUnless (BreaksPayoutLaw s (.webhook eventId event)) s
      (handlePayoutWebhook s eventId event).1 := by
  simp only [handlePayoutWebhook, BreaksPayoutLaw]
  cases hrecorded : payoutEventRecorded s eventId with
  | true =>
    rw [if_pos rfl]
    exact ⟨⟨rfl, rfl, rfl⟩, .inl ⟨fun hbreaks => Bool.false_ne_true hbreaks.1.symm, .refl s⟩⟩
  | false =>
    rw [if_neg Bool.false_ne_true]
    simp only [true_and]
    have hrow : Sound (recordPayoutEvent s eventId) :=
      ⟨h.positive, h.payment, h.reversal, h.unbooked⟩
    cases hmatch : s.payout.matchesEvent event with
    | false =>
      have hmissing : (payoutWebhookRun (recordPayoutEvent s eventId) event).1 = [] := by
        have hpayout : (recordPayoutEvent s eventId).payout.matchesEvent event = false := hmatch
        simp [payoutWebhookRun, hpayout]
      rw [hmissing]
      exact ⟨⟨rfl, rfl, rfl⟩, .inl ⟨fun hbreaks => Bool.false_ne_true hbreaks.1, .stay rfl rfl⟩⟩
    | true =>
      obtain ⟨hsame, hmoves⟩ :=
        payoutWebhookRun_moves (s := recordPayoutEvent s eventId) hrow hmatch
      refine ⟨hsame, ?_⟩
      rcases hmoves with ⟨hlawful, hmove⟩ | ⟨hbreaks, hmove⟩
      · exact .inl ⟨fun hbreaks => hlawful hbreaks.2, hmove.of_recordPayoutEvent⟩
      · exact .inr ⟨⟨rfl, hbreaks⟩, hmove.of_recordPayoutEvent⟩

theorem payoutStep_moves (h : Sound s) (action : PayoutAction) :
    MovesUnless (BreaksPayoutLaw s action) s (payoutStep s action) := by
  cases action with
  | approvePayout adminUserId =>
    obtain ⟨hsame, hmove⟩ := approvePayout_moves (s := s) adminUserId
    exact ⟨hsame, .inl ⟨id, hmove⟩⟩
  | executePayout adminUserId providerTransferId transfer =>
    obtain ⟨hsame, hmove⟩ := executePayout_moves h adminUserId providerTransferId transfer
    exact ⟨hsame, .inl ⟨id, hmove⟩⟩
  | markPayoutPaid reference transfer =>
    obtain ⟨hsame, hmove⟩ := executePayout_moves h "system" reference transfer
    exact ⟨hsame, .inl ⟨id, hmove⟩⟩
  | rejectPayout adminUserId reason =>
    obtain ⟨hsame, hmove⟩ := rejectPayout_moves (s := s) adminUserId reason
    exact ⟨hsame, .inl ⟨id, hmove⟩⟩
  | reversePayout adminUserId reason =>
    obtain ⟨hsame, hmove⟩ := reversePayout_moves (s := s) adminUserId reason
    exact ⟨hsame, .inl ⟨id, hmove⟩⟩
  | webhook eventId event => exact handlePayoutWebhook_moves h eventId event

/-! ### The journals after a move -/

theorem exec_ne_reversal (payoutId other : Id) :
    JournalKey.payoutExec payoutId ≠ .payoutReversal other := JournalKey.noConfusion

theorem Sound.payment_recorded (h : Sound s) {ledger : Ledger JournalKey}
    {receipt : JournalReceipt JournalKey}
    (hrecord : recordJournal s.ledger (payoutJournal s.payout) = .ok (ledger, receipt)) :
    Posted ledger s.payout.vendorId (.payoutExec s.payout.id) (-s.payout.amount.paise) ∧
      (Unposted s.ledger (.payoutReversal s.payout.id) →
        Unposted ledger (.payoutReversal s.payout.id)) ∧
      (Posted s.ledger s.payout.vendorId (.payoutReversal s.payout.id) s.payout.amount.paise →
        Posted ledger s.payout.vendorId (.payoutReversal s.payout.id) s.payout.amount.paise) := by
  rcases h.payment with hunposted | hposted
  · obtain ⟨receipt', htransfer⟩ := recordJournal_transfer s.payout.vendorId hunposted h.positive
    rw [payoutJournal, htransfer] at hrecord
    cases hrecord
    have hne := (exec_ne_reversal s.payout.id s.payout.id).symm
    exact ⟨posted_payment hunposted, fun h => h.transfer hne, fun h => h.transfer hne⟩
  · obtain ⟨receipt', hduplicate⟩ := recordJournal_duplicate s.payout.vendorId hposted.1
    rw [payoutJournal, hduplicate] at hrecord
    cases hrecord
    exact ⟨hposted, id, id⟩

theorem Sound.reversal_recorded (h : Sound s) {ledger : Ledger JournalKey}
    {receipt : JournalReceipt JournalKey}
    (hrecord : recordJournal s.ledger (payoutReversalJournal s.payout) = .ok (ledger, receipt)) :
    Posted ledger s.payout.vendorId (.payoutReversal s.payout.id) s.payout.amount.paise ∧
      (Unposted s.ledger (.payoutExec s.payout.id) → Unposted ledger (.payoutExec s.payout.id)) ∧
      (Posted s.ledger s.payout.vendorId (.payoutExec s.payout.id) (-s.payout.amount.paise) →
        Posted ledger s.payout.vendorId (.payoutExec s.payout.id) (-s.payout.amount.paise)) := by
  rcases h.reversal with hunposted | hposted
  · obtain ⟨receipt', htransfer⟩ := recordJournal_transfer s.payout.vendorId hunposted h.positive
    rw [payoutReversalJournal, htransfer] at hrecord
    cases hrecord
    have hne := exec_ne_reversal s.payout.id s.payout.id
    exact ⟨posted_reversal hunposted, fun h => h.transfer hne, fun h => h.transfer hne⟩
  · obtain ⟨receipt', hduplicate⟩ := recordJournal_duplicate s.payout.vendorId hposted.1
    rw [payoutReversalJournal, hduplicate] at hrecord
    cases hrecord
    exact ⟨hposted, id, id⟩

theorem Sound.of_ledger_eq (h : Sound s) (hsame : SamePayout s s') (hledger : s'.ledger = s.ledger)
    (hopen : IsOpen s' → IsOpen s) : Sound s' := by
  obtain ⟨hid, hvendor, hamount⟩ := hsame
  constructor
  · rw [hamount]
    exact h.positive
  · rw [hledger, hid, hvendor, hamount]
    exact h.payment
  · rw [hledger, hid, hvendor, hamount]
    exact h.reversal
  · intro hs'
    rw [hledger, hid]
    exact h.unbooked (hopen hs')

theorem Sound.of_payment (h : Sound s) (hsame : SamePayout s s') (hpaid : IsPaid s')
    (hledger : ∃ receipt, recordJournal s.ledger (payoutJournal s.payout) =
      .ok (s'.ledger, receipt)) : Sound s' := by
  obtain ⟨hid, hvendor, hamount⟩ := hsame
  obtain ⟨receipt, hrecord⟩ := hledger
  obtain ⟨hposted, hunposted, hkept⟩ := h.payment_recorded hrecord
  constructor
  · rw [hamount]
    exact h.positive
  · rw [hid, hvendor, hamount]
    exact .inr hposted
  · rw [hid, hvendor, hamount]
    exact h.reversal.imp hunposted hkept
  · intro hopen
    rw [IsOpen, show s'.payout.status = .paid from hpaid] at hopen
    exact absurd hopen (by decide)

theorem Sound.of_reversal (h : Sound s) (hsame : SamePayout s s')
    (hreversed : s'.payout.status = .reversed)
    (hledger : ∃ receipt, recordJournal s.ledger (payoutReversalJournal s.payout) =
      .ok (s'.ledger, receipt)) : Sound s' := by
  obtain ⟨hid, hvendor, hamount⟩ := hsame
  obtain ⟨receipt, hrecord⟩ := hledger
  obtain ⟨hposted, hunposted, hkept⟩ := h.reversal_recorded hrecord
  constructor
  · rw [hamount]
    exact h.positive
  · rw [hid, hvendor, hamount]
    exact h.payment.imp hunposted hkept
  · rw [hid, hvendor, hamount]
    exact .inr hposted
  · intro hopen
    rw [IsOpen, hreversed] at hopen
    exact absurd hopen (by decide)

theorem sound_payoutStep (h : Sound s) (action : PayoutAction) : Sound (payoutStep s action) := by
  obtain ⟨hsame, hmoves⟩ := payoutStep_moves h action
  rcases hmoves with ⟨-, hmove⟩ | ⟨-, hmove⟩
  · cases hmove with
    | stay status ledger =>
      refine h.of_ledger_eq hsame ledger fun hopen => ?_
      rw [IsOpen, status] at hopen
      exact hopen
    | proceed isOpen unpaid ledger => exact h.of_ledger_eq hsame ledger fun _ => isOpen
    | pay isOpen paid ledger => exact h.of_payment hsame paid ledger
    | reverse paid reversed ledger => exact h.of_reversal hsame reversed ledger
  · cases hmove with
    | payClosed isClosed paid ledger => exact h.of_payment hsame paid ledger
    | failPaid paid failed ledger =>
      refine h.of_ledger_eq hsame ledger fun hopen => ?_
      rw [IsOpen, failed] at hopen
      exact absurd hopen (by decide)

/-! ### The books after a move -/

theorem payoutEffect_of_posted {ledger : Ledger JournalKey} {payout : Payout} {payment reversal : ℤ}
    (hpayment : keyEffect ledger payout.vendorId (.payoutExec payout.id) = payment)
    (hreversal : keyEffect ledger payout.vendorId (.payoutReversal payout.id) = reversal) :
    payoutEffect ledger payout = payment + reversal := by
  rw [payoutEffect, hpayment, hreversal]

theorem SamePayout.payoutEffect_eq (h : SamePayout s s') (ledger : Ledger JournalKey) :
    payoutEffect ledger s'.payout = payoutEffect ledger s.payout := by
  rw [payoutEffect, payoutEffect, h.1, h.2.1]

theorem booksMatch_iff_of_paid (hpaid : IsPaid s) :
    BooksMatch s ↔ payoutEffect s.ledger s.payout = -s.payout.amount.paise := by
  rw [BooksMatch, if_pos (show s.payout.status = .paid from hpaid)]

theorem booksMatch_iff_of_not_paid (hpaid : ¬ IsPaid s) :
    BooksMatch s ↔ payoutEffect s.ledger s.payout = 0 := by
  rw [BooksMatch, if_neg (show ¬ s.payout.status = .paid from hpaid)]

theorem Sound.effect_of_open (h : Sound s) (hopen : IsOpen s) :
    payoutEffect s.ledger s.payout = 0 :=
  payoutEffect_of_posted (h.unbooked hopen).1.keyEffect_eq (h.unbooked hopen).2.keyEffect_eq

theorem Sound.unreversed_of_paid (h : Sound s) (hpaid : IsPaid s) (hbooks : BooksMatch s) :
    Posted s.ledger s.payout.vendorId (.payoutExec s.payout.id) (-s.payout.amount.paise) ∧
      Unposted s.ledger (.payoutReversal s.payout.id) := by
  have hpositive := h.positive
  have heffect := (booksMatch_iff_of_paid hpaid).mp hbooks
  rcases h.payment with hpayment | hpayment
  · rcases h.reversal with hreversal | hreversal
    · rw [payoutEffect_of_posted hpayment.keyEffect_eq hreversal.keyEffect_eq] at heffect
      omega
    · rw [payoutEffect_of_posted hpayment.keyEffect_eq hreversal.2] at heffect
      omega
  · rcases h.reversal with hreversal | hreversal
    · exact ⟨hpayment, hreversal⟩
    · rw [payoutEffect_of_posted hpayment.2 hreversal.2] at heffect
      omega

theorem booksMatch_of_lawful (h : Sound s) (hbooks : BooksMatch s) (hsame : SamePayout s s')
    (hmove : LawfulMove s s') : BooksMatch s' ∧ (IsClosed s → ¬ IsPaid s') := by
  cases hmove with
  | stay status ledger =>
    refine ⟨?_, fun hclosed hpaid => not_isPaid_of_isClosed hclosed (status.symm.trans hpaid)⟩
    rw [BooksMatch, ledger, hsame.payoutEffect_eq, status, hsame.2.2]
    exact hbooks
  | proceed isOpen unpaid ledger =>
    refine ⟨(booksMatch_iff_of_not_paid unpaid).mpr ?_, fun _ => unpaid⟩
    rw [ledger, hsame.payoutEffect_eq, h.effect_of_open isOpen]
  | pay isOpen paid ledger =>
    refine ⟨(booksMatch_iff_of_paid paid).mpr ?_,
      fun hclosed => absurd isOpen (not_isOpen_of_isClosed hclosed)⟩
    obtain ⟨receipt, hrecord⟩ := ledger
    obtain ⟨hposted, hunposted, -⟩ := h.payment_recorded hrecord
    rw [hsame.payoutEffect_eq, hsame.2.2, payoutEffect_of_posted hposted.2
      (hunposted (h.unbooked isOpen).2).keyEffect_eq, add_zero]
  | reverse paid reversed ledger =>
    have hunpaid : ¬ IsPaid s' := by
      rw [IsPaid, reversed]
      decide
    refine ⟨(booksMatch_iff_of_not_paid hunpaid).mpr ?_, fun _ => hunpaid⟩
    obtain ⟨receipt, hrecord⟩ := ledger
    obtain ⟨hposted, -, hkept⟩ := h.reversal_recorded hrecord
    have hpayment := hkept (h.unreversed_of_paid paid hbooks).1
    rw [hsame.payoutEffect_eq, payoutEffect_of_posted hpayment.2 hposted.2, neg_add_cancel]

theorem not_booksMatch_of_unlawful (h : Sound s) (hbooks : BooksMatch s) (hsame : SamePayout s s')
    (hmove : UnlawfulMove s s') : ¬ (BooksMatch s' ∧ (IsClosed s → ¬ IsPaid s')) := by
  rintro ⟨hbooks', hnever⟩
  cases hmove with
  | payClosed isClosed paid ledger => exact hnever isClosed paid
  | failPaid paid failed ledger =>
    have hunpaid : ¬ IsPaid s' := by
      rw [IsPaid, failed]
      decide
    have hpositive := h.positive
    have heffect := (booksMatch_iff_of_paid paid).mp hbooks
    have heffect' := (booksMatch_iff_of_not_paid hunpaid).mp hbooks'
    rw [ledger, hsame.payoutEffect_eq, heffect] at heffect'
    omega

theorem payoutStep_lawful_iff (h : Sound s) (hbooks : BooksMatch s) (action : PayoutAction) :
    (BooksMatch (payoutStep s action) ∧ (IsClosed s → ¬ IsPaid (payoutStep s action))) ↔
      ¬ BreaksPayoutLaw s action := by
  obtain ⟨hsame, hmoves⟩ := payoutStep_moves h action
  rcases hmoves with ⟨hlawful, hmove⟩ | ⟨hbreaks, hmove⟩
  · exact iff_of_true (booksMatch_of_lawful h hbooks hsame hmove) hlawful
  · exact iff_of_false (not_booksMatch_of_unlawful h hbooks hsame hmove) fun hnot => hnot hbreaks

theorem closed_or_paid (h : Sound s) (action : PayoutAction) (hclosed : IsClosed s) :
    IsClosed (payoutStep s action) ∨ IsPaid (payoutStep s action) := by
  have hnotOpen := not_isOpen_of_isClosed hclosed
  have hnotPaid := not_isPaid_of_isClosed hclosed
  obtain ⟨-, hmoves⟩ := payoutStep_moves h action
  rcases hmoves with ⟨-, hmove⟩ | ⟨-, hmove⟩
  · cases hmove with
    | stay status ledger =>
      left
      rw [IsClosed, status]
      exact hclosed
    | proceed isOpen unpaid ledger => exact absurd isOpen hnotOpen
    | pay isOpen paid ledger => exact .inr paid
    | reverse paid reversed ledger => exact absurd paid hnotPaid
  · cases hmove with
    | payClosed isClosed paid ledger => exact .inr paid
    | failPaid paid failed ledger => exact absurd paid hnotPaid

end Moves

/-! ## Every run -/

/-- A payout as it was requested: open, for a positive amount, and with no journal yet. -/
structure Requested (s : PayoutDesk) : Prop where
  positive : 0 < s.payout.amount.paise
  isOpen : IsOpen s
  payment : Unposted s.ledger (.payoutExec s.payout.id)
  reversal : Unposted s.ledger (.payoutReversal s.payout.id)

theorem Requested.sound {s : PayoutDesk} (h : Requested s) : Sound s :=
  ⟨h.positive, .inl h.payment, .inl h.reversal, fun _ => ⟨h.payment, h.reversal⟩⟩

theorem Requested.booksMatch {s : PayoutDesk} (h : Requested s) : BooksMatch s := by
  have hunpaid : ¬ IsPaid s := by
    intro hpaid
    have hopen := h.isOpen
    rw [IsOpen, show s.payout.status = .paid from hpaid] at hopen
    exact absurd hopen (by decide)
  exact (booksMatch_iff_of_not_paid hunpaid).mpr (h.sound.effect_of_open h.isOpen)

/-- A run of calls and events keeps the law exactly when no fresh `processed` event meets the
payout closed and no fresh `failed` or `rejected` event meets it paid. -/
theorem payout_law_iff {s : PayoutDesk} (h : Requested s) (actions : List PayoutAction) :
    PayoutLaw s actions ↔
      Along payoutStep (fun s action => ¬ BreaksPayoutLaw s action) s actions := by
  have hstep : ∀ s action, Sound s → Sound (payoutStep s action) :=
    fun s action hs => sound_payoutStep hs action
  rw [PayoutLaw, neverAfter_iff_along hstep (fun s => not_isPaid_of_isClosed)
    (fun s action hs => closed_or_paid hs action) h.sound]
  exact everywhere_and_along_iff hstep
    (fun s action _ hs hbooks => payoutStep_lawful_iff hs hbooks action) h.sound h.booksMatch

def paidAnswer : TransferAnswer := .response ⟨.paid, some "transfer", none⟩

/-- Approved, executed and reported as processed, and then reversed by the bank. -/
theorem payout_law_reversed : PayoutLaw requestedDesk
    [.approvePayout "admin", .executePayout "treasurer" none paidAnswer,
      .webhook "event-1" ⟨.processed, some "transfer", none, none⟩,
      .webhook "event-2" ⟨.reversed, some "transfer", none, none⟩] :=
  (payout_law_iff ⟨by decide, by decide, fun _ h => absurd h List.not_mem_nil,
    fun _ h => absurd h List.not_mem_nil⟩ _).mpr (by decide +kernel)

/-- A rejected payout is paid by a late event, and a paid one fails with its journal
still booked. -/
theorem events_break_payout_law :
    ¬ PayoutLaw requestedDesk
        [.rejectPayout "admin" "Bank details wrong",
          .webhook "event-1" ⟨.processed, none, some "PO-1", none⟩] ∧
      ¬ PayoutLaw requestedDesk
        [.executePayout "admin" none paidAnswer,
          .webhook "event-1" ⟨.failed, some "transfer", none, none⟩] := by
  decide +kernel

end CarRental
