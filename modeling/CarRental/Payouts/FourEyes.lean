import CarRental.Payouts.PayoutLaw

/-!
# Two admins for a large payout

A payout above the dual-authorisation threshold should be approved by one admin and executed,
or marked paid, by another one before it is `PAID`.

`executePayout` only refuses the admin who has approved the payout.  It also executes one that
nobody has approved; `markPayoutPaid` executes in the name of `system`, so its caller is never
compared; and the webhook pays a payout whoever has touched it.  `four_eyes_iff` says which
runs keep to two admins.

`Authorization` keeps, beside the payout, the admins whose approvals and executions have
succeeded.
-/

namespace CarRental

open Runs

/-! ## Who has done what -/

structure Authorization where
  desk : PayoutDesk
  approvers : List Id
  executors : List Id

/-- The calls of `PayoutAction` with the admin who makes them: the service is not told who
marks a payout as paid. -/
inductive AuthorizationAction where
  | approvePayout (adminUserId : Id)
  | executePayout (adminUserId : Id) (providerTransferId : Option String)
      (transfer : TransferAnswer)
  | markPayoutPaid (caller : Id) (reference : Option String) (transfer : TransferAnswer)
  | rejectPayout (adminUserId : Id) (reason : String)
  | reversePayout (adminUserId : Id) (reason : Option String)
  | webhook (eventId : String) (event : PayoutEvent)

/-- The admin counts once his call has succeeded. -/
def noteIfOk {R : Type} (admins : List Id) (admin : Id) (reply : Except HttpError R) : List Id :=
  if reply.isOk then admins ++ [admin] else admins

def authorizationStep (h : Authorization) : AuthorizationAction → Authorization
  | .approvePayout adminUserId =>
    let (desk, reply) := approvePayout h.desk adminUserId
    { h with desk, approvers := noteIfOk h.approvers adminUserId reply }
  | .executePayout adminUserId providerTransferId transfer =>
    let (desk, reply) := executePayout h.desk adminUserId providerTransferId transfer
    { h with desk, executors := noteIfOk h.executors adminUserId reply }
  | .markPayoutPaid caller reference transfer =>
    let (desk, reply) := markPayoutPaid h.desk reference transfer
    { h with desk, executors := noteIfOk h.executors caller reply }
  | .rejectPayout adminUserId reason =>
    { h with desk := (rejectPayout h.desk adminUserId reason).1 }
  | .reversePayout adminUserId reason =>
    { h with desk := (reversePayout h.desk adminUserId reason).1 }
  | .webhook eventId event => { h with desk := (handlePayoutWebhook h.desk eventId event).1 }

/-- Above the threshold. -/
def IsHighValue (s : PayoutDesk) : Prop := dualAuthorizationPaise < s.payout.amount.paise

instance (s : PayoutDesk) : Decidable (IsHighValue s) := inferInstanceAs (Decidable (_ < _))

/-- A large payout that is paid was approved by one admin and executed by another one. -/
def FourEyes (h : Authorization) : Prop :=
  IsHighValue h.desk → IsPaid h.desk →
    ∃ approver ∈ h.approvers, ∃ executor ∈ h.executors, executor ≠ approver

instance (h : Authorization) : Decidable (FourEyes h) :=
  inferInstanceAs (Decidable (_ → _ → _))

/-! ## When a call pays -/

def TakesJournal (s : PayoutDesk) : Prop :=
  (recordJournal s.ledger (payoutJournal s.payout)).isOk = true

def TransferAnswer.isPaid : TransferAnswer → Bool
  | .response result => result.status = .paid
  | _ => false

/-- An execution pays: an open payout that the admin has not approved himself if it is large,
with an operator's reference or a transfer that the gateway has made. -/
def ExecutionPays (s : PayoutDesk) (adminUserId : Id) (providerTransferId : Option String)
    (transfer : TransferAnswer) : Prop :=
  IsOpen s ∧ ¬ (IsHighValue s ∧ s.payout.approvedByUserId = some adminUserId) ∧
    (providerTransferId.isSome = true ∨ transfer.isPaid = true ∧ TakesJournal s)

/-- An event pays: a `processed` event of the payout that was not delivered before. -/
def EventPays (s : PayoutDesk) (eventId : String) (event : PayoutEvent) : Prop :=
  payoutEventRecorded s eventId = false ∧ s.payout.matchesEvent event = true ∧
    event.type = .processed ∧ ¬ IsPaid s ∧ TakesJournal s

/-- When a step keeps to two admins: what pays a large payout finds it approved, and a payout
that is marked paid by hand, or paid by an event, has an executor other than its approver. -/
def KeepsFourEyes (h : Authorization) : AuthorizationAction → Prop
  | .executePayout adminUserId providerTransferId transfer =>
    IsHighValue h.desk → ExecutionPays h.desk adminUserId providerTransferId transfer →
      h.desk.payout.approvedByUserId.isSome = true
  | .markPayoutPaid caller reference transfer =>
    IsHighValue h.desk → ExecutionPays h.desk "system" reference transfer →
      ∃ approver ∈ h.desk.payout.approvedByUserId,
        caller ≠ approver ∨ ∃ executor ∈ h.executors, executor ≠ approver
  | .webhook eventId event =>
    IsHighValue h.desk → EventPays h.desk eventId event →
      ∃ approver ∈ h.desk.payout.approvedByUserId, ∃ executor ∈ h.executors,
        executor ≠ approver
  | _ => True

/-! ## What a call leaves of the payout -/

/-- Amount and approver stay, and no payout becomes pending. -/
structure KeepsApproval (s s' : PayoutDesk) : Prop where
  amount : s'.payout.amount = s.payout.amount
  approver : s'.payout.approvedByUserId = s.payout.approvedByUserId
  pending : s'.payout.status = .pending → s.payout.status = .pending

section Calls

variable {s s' : PayoutDesk}

theorem KeepsApproval.refl (s : PayoutDesk) : KeepsApproval s s := ⟨rfl, rfl, id⟩

theorem KeepsApproval.of_payout {status : PayoutStatus} {providerTransferId reason : Option String}
    (hstatus : status ≠ .pending)
    (h : s'.payout = { s.payout with
      status, providerTransferId, providerFailureReason := reason }) : KeepsApproval s s' := by
  constructor
  · rw [h]
  · rw [h]
  · rw [h]
    exact fun hpending => absurd hpending hstatus

theorem settleTransfer_cases (s : PayoutDesk) (providerTransferId : Option String) :
    TakesJournal s ∧ (∃ s', settleTransfer s providerTransferId = .ok s' ∧
        s'.payout = { s.payout with status := .paid, providerTransferId }) ∨
      ¬ TakesJournal s ∧ ∃ e, settleTransfer s providerTransferId = .error e := by
  unfold settleTransfer recordPayoutJournal TakesJournal
  rw [PayoutDesk.setPayout_ledger]
  cases recordJournal s.ledger (payoutJournal s.payout) with
  | error e => exact .inr ⟨Bool.false_ne_true, _, rfl⟩
  | ok result => exact .inl ⟨rfl, _, rfl, rfl⟩

theorem settleManually_payout (s : PayoutDesk) (adminUserId : Id) (providerTransferId : String) :
    (settleManually s adminUserId providerTransferId).payout =
      { s.payout with status := .paid, providerTransferId := some providerTransferId } := by
  unfold settleManually
  dsimp only
  split
  next s' hrecord =>
    obtain ⟨ledger, receipt, -, rfl⟩ := recordPayoutJournal_eq_ok hrecord
    rfl
  · rfl

theorem executeTransfer_cases (s : PayoutDesk) (adminUserId : Id) (result : PayoutTransferResponse) :
    KeepsApproval s (executeTransfer s adminUserId result).1 ∧
      (result.status = .paid ∧ TakesJournal s ∧
          IsPaid (executeTransfer s adminUserId result).1 ∧
          (executeTransfer s adminUserId result).2.isOk = true ∨
        ¬ (result.status = .paid ∧ TakesJournal s) ∧
          (IsPaid (executeTransfer s adminUserId result).1 → IsPaid s)) := by
  unfold executeTransfer
  cases hstatus : result.status with
  | paid =>
    dsimp only
    obtain ⟨htakes, s', hsettle, hpayout⟩ | ⟨hrefuses, e, hsettle⟩ :=
      settleTransfer_cases s (result.providerTransferId <|> s.payout.providerTransferId)
    · rw [hsettle]
      refine ⟨.of_payout (by decide) hpayout, .inl ⟨rfl, htakes, ?_, rfl⟩⟩
      exact congrArg Payout.status hpayout
    · rw [hsettle]
      exact ⟨.refl s, .inr ⟨fun h => hrefuses h.2, id⟩⟩
  | blockedCredentials =>
    exact ⟨⟨rfl, rfl, fun h => (by cases h)⟩, .inr ⟨fun h => (by cases h.1), fun h => (by cases h)⟩⟩
  | processing =>
    exact ⟨⟨rfl, rfl, fun h => (by cases h)⟩, .inr ⟨fun h => (by cases h.1), fun h => (by cases h)⟩⟩
  | queued =>
    exact ⟨⟨rfl, rfl, fun h => (by cases h)⟩, .inr ⟨fun h => (by cases h.1), fun h => (by cases h)⟩⟩
  | failed =>
    exact ⟨⟨rfl, rfl, fun h => (by cases h)⟩, .inr ⟨fun h => (by cases h.1), fun h => (by cases h)⟩⟩

theorem executePayout_cases (s : PayoutDesk) (adminUserId : Id)
    (providerTransferId : Option String) (transfer : TransferAnswer) :
    KeepsApproval s (executePayout s adminUserId providerTransferId transfer).1 ∧
      (ExecutionPays s adminUserId providerTransferId transfer ∧
          IsPaid (executePayout s adminUserId providerTransferId transfer).1 ∧
          (executePayout s adminUserId providerTransferId transfer).2.isOk = true ∨
        ¬ ExecutionPays s adminUserId providerTransferId transfer ∧
          (IsPaid (executePayout s adminUserId providerTransferId transfer).1 → IsPaid s)) := by
  unfold executePayout ExecutionPays
  split
  next hpaid =>
    refine ⟨.refl s, .inr ⟨fun h => ?_, id⟩⟩
    rw [IsOpen, hpaid] at h
    exact absurd h.1 (by decide)
  next hunpaid =>
    split
    next hclosed =>
      refine ⟨.refl s, .inr ⟨fun h => ?_, id⟩⟩
      have hopen := h.1
      simp only [IsOpen, List.mem_cons, List.not_mem_nil, or_false] at hopen
      tauto
    next hstatus =>
      have hopen : IsOpen s := by
        rw [IsOpen]
        revert hstatus
        cases s.payout.status <;> decide
      split
      -- the approver must not execute a payout above the limit
      next hself => exact ⟨.refl s, .inr ⟨fun h => h.2.1 hself, id⟩⟩
      next hother =>
        cases providerTransferId with
        -- a manual settlement does not wait for a provider
        | some reference =>
          have hpayout := settleManually_payout s adminUserId reference
          refine ⟨.of_payout (by decide) hpayout, .inl ⟨⟨hopen, hother, .inl rfl⟩, ?_, rfl⟩⟩
          exact congrArg Payout.status hpayout
        | none =>
          cases transfer with
          | noProvider =>
            refine ⟨⟨rfl, rfl, fun h => (by cases h)⟩, .inr ⟨fun h => ?_, fun h => (by cases h)⟩⟩
            exact h.2.2.elim (fun h => (by cases h)) fun h => (by cases h.1)
          | error message =>
            refine ⟨.refl s, .inr ⟨fun h => ?_, id⟩⟩
            exact h.2.2.elim (fun h => (by cases h)) fun h => (by cases h.1)
          | response result =>
            obtain ⟨hkeeps, ⟨hpaid, htakes, hafter, hok⟩ | ⟨hnot, hafter⟩⟩ :=
              executeTransfer_cases s adminUserId result
            · refine ⟨hkeeps, .inl ⟨⟨hopen, hother, .inr ⟨?_, htakes⟩⟩, hafter, hok⟩⟩
              exact decide_eq_true hpaid
            · refine ⟨hkeeps, .inr ⟨fun h => hnot ?_, hafter⟩⟩
              obtain ⟨hpaid, htakes⟩ := h.2.2.resolve_left (fun h => (by cases h))
              exact ⟨of_decide_eq_true hpaid, htakes⟩

theorem approvePayout_cases (s : PayoutDesk) (adminUserId : Id) :
    (s.payout.status = .pending ∧ (approvePayout s adminUserId).2.isOk = true ∧
        (approvePayout s adminUserId).1.payout =
          { s.payout with status := .approved, approvedByUserId := some adminUserId }) ∨
      ((approvePayout s adminUserId).2.isOk = false ∧ (approvePayout s adminUserId).1 = s) := by
  unfold approvePayout
  split
  · exact .inr ⟨rfl, rfl⟩
  next hpending => exact .inl ⟨not_not.mp hpending, rfl, rfl⟩

theorem rejectPayout_keeps (s : PayoutDesk) (adminUserId : Id) (reason : String) :
    KeepsApproval s (rejectPayout s adminUserId reason).1 ∧
      (IsPaid (rejectPayout s adminUserId reason).1 → IsPaid s) := by
  unfold rejectPayout
  split
  · exact ⟨.refl s, id⟩
  · exact ⟨⟨rfl, rfl, fun h => (by cases h)⟩, fun h => (by cases h)⟩

theorem reverseTransaction_payout {reason : Option String}
    (h : reverseTransaction s reason = .ok s') :
    s'.payout = { s.payout with
      status := .reversed
      providerFailureReason :=
        some (reason.getD "Payout reversed by banking network/operator.") } := by
  unfold reverseTransaction at h
  dsimp only at h
  split at h
  · obtain ⟨ledger, receipt, -, rfl⟩ := recordPayoutJournal_eq_ok h
    rfl
  · cases h
    rfl

theorem reversePayout_keeps (s : PayoutDesk) (adminUserId : Id) (reason : Option String) :
    KeepsApproval s (reversePayout s adminUserId reason).1 ∧
      (IsPaid (reversePayout s adminUserId reason).1 → IsPaid s) := by
  unfold reversePayout
  split
  · exact ⟨.refl s, id⟩
  split
  · exact ⟨.refl s, id⟩
  split
  next s' hreverse =>
    have hpayout := reverseTransaction_payout hreverse
    refine ⟨.of_payout (by decide) hpayout, fun h => ?_⟩
    have hstatus : s'.payout.status = .paid := h
    rw [hpayout] at hstatus
    cases hstatus
  · exact ⟨.refl s, id⟩

theorem payoutWebhookRun_cases (s : PayoutDesk) (event : PayoutEvent) :
    KeepsApproval s ((payoutWebhookRun s event).1.getLastD s) ∧
      (s.payout.matchesEvent event = true ∧ event.type = .processed ∧ ¬ IsPaid s ∧
          TakesJournal s ∧ IsPaid ((payoutWebhookRun s event).1.getLastD s) ∨
        ¬ (s.payout.matchesEvent event = true ∧ event.type = .processed ∧ ¬ IsPaid s ∧
            TakesJournal s) ∧
          (IsPaid ((payoutWebhookRun s event).1.getLastD s) → IsPaid s)) := by
  unfold payoutWebhookRun
  cases hmatch : s.payout.matchesEvent event with
  | false => exact ⟨.refl s, .inr ⟨fun h => (by cases h.1), id⟩⟩
  | true =>
    rw [Bool.not_true, if_neg Bool.false_ne_true]
    cases htype : event.type with
    | processed =>
      dsimp only
      unfold processedRun
      split
      next hpaid => exact ⟨.refl s, .inr ⟨fun h => h.2.2.1 hpaid, id⟩⟩
      next hunpaid =>
        obtain ⟨htakes, s', hsettle, hpayout⟩ | ⟨hrefuses, e, hsettle⟩ :=
          settleTransfer_cases s (event.providerTransferId <|> s.payout.providerTransferId)
        · rw [hsettle]
          refine ⟨.of_payout (by decide) hpayout, .inl ⟨rfl, rfl, hunpaid, htakes, ?_⟩⟩
          exact congrArg Payout.status hpayout
        · rw [hsettle]
          exact ⟨.refl s, .inr ⟨fun h => hrefuses h.2.2.2, id⟩⟩
    -- a reversal of a paid payout takes its status away
    | reversed =>
      dsimp only
      unfold reversedRun
      dsimp only
      split
      · exact ⟨.refl s, .inr ⟨fun h => (by cases h.2.1), id⟩⟩
      split
      · exact ⟨.refl s, .inr ⟨fun h => (by cases h.2.1), id⟩⟩
      split
      next s' hreverse =>
        have hpayout := reverseTransaction_payout hreverse
        refine ⟨.of_payout (by decide) hpayout, .inr ⟨fun h => (by cases h.2.1), fun h => ?_⟩⟩
        have hstatus : s'.payout.status = .paid := h
        rw [hpayout] at hstatus
        cases hstatus
      · exact ⟨.refl s, .inr ⟨fun h => (by cases h.2.1), id⟩⟩
    | other => exact ⟨.refl s, .inr ⟨fun h => (by cases h.2.1), id⟩⟩
    | failed | rejected =>
      dsimp only
      unfold failedPayoutRun
      split
      · exact ⟨⟨rfl, rfl, fun h => (by cases h)⟩,
          .inr ⟨fun h => (by cases h.2.1), fun h => (by cases h)⟩⟩
      · exact ⟨.refl s, .inr ⟨fun h => (by cases h.2.1), id⟩⟩

theorem handlePayoutWebhook_cases (s : PayoutDesk) (eventId : String) (event : PayoutEvent) :
    KeepsApproval s (handlePayoutWebhook s eventId event).1 ∧
      (EventPays s eventId event ∧ IsPaid (handlePayoutWebhook s eventId event).1 ∨
        ¬ EventPays s eventId event ∧
          (IsPaid (handlePayoutWebhook s eventId event).1 → IsPaid s)) := by
  unfold handlePayoutWebhook EventPays
  cases hrecorded : payoutEventRecorded s eventId with
  | true =>
    rw [if_pos rfl]
    exact ⟨.refl s, .inr ⟨fun h => (by cases h.1), id⟩⟩
  | false =>
    rw [if_neg Bool.false_ne_true]
    -- the row of the event is all that the processing sees of it
    obtain ⟨hkeeps, ⟨hmatch, htype, hunpaid, htakes, hpaid⟩ | ⟨hnot, hkept⟩⟩ :=
      payoutWebhookRun_cases (recordPayoutEvent s eventId) event
    · exact ⟨⟨hkeeps.amount, hkeeps.approver, hkeeps.pending⟩,
        .inl ⟨⟨rfl, hmatch, htype, hunpaid, htakes⟩, hpaid⟩⟩
    · exact ⟨⟨hkeeps.amount, hkeeps.approver, hkeeps.pending⟩,
        .inr ⟨fun h => hnot h.2, hkept⟩⟩

end Calls

/-! ## Runs -/

/-- The approver on the payout's row is the one who has approved it, and a pending payout has
none. -/
structure SoundAuthorization (h : Authorization) : Prop where
  approvers : h.approvers = h.desk.payout.approvedByUserId.toList
  pending : h.desk.payout.status = .pending → h.desk.payout.approvedByUserId = none

section Runs

variable {h : Authorization}

theorem SoundAuthorization.keeps (hsound : SoundAuthorization h) {desk : PayoutDesk}
    (hkeeps : KeepsApproval h.desk desk) (executors : List Id) :
    SoundAuthorization ⟨desk, h.approvers, executors⟩ := by
  constructor
  · rw [hkeeps.approver]
    exact hsound.approvers
  · intro hpending
    rw [hkeeps.approver]
    exact hsound.pending (hkeeps.pending hpending)

theorem soundAuthorization_step (hsound : SoundAuthorization h) (action : AuthorizationAction) :
    SoundAuthorization (authorizationStep h action) := by
  cases action with
  | approvePayout adminUserId =>
    change SoundAuthorization ⟨(approvePayout h.desk adminUserId).1,
      noteIfOk h.approvers adminUserId (approvePayout h.desk adminUserId).2, h.executors⟩
    obtain ⟨hpending, hok, hpayout⟩ | ⟨hrefused, hsame⟩ := approvePayout_cases h.desk adminUserId
    · have hnone := hsound.pending hpending
      have happrovers := hsound.approvers
      rw [hnone] at happrovers
      rw [noteIfOk, if_pos hok, happrovers]
      constructor
      · rw [hpayout]
        rfl
      · rw [hpayout]
        exact fun h => (by cases h)
    · rw [noteIfOk, hrefused, if_neg Bool.false_ne_true, hsame]
      exact hsound
  | executePayout adminUserId providerTransferId transfer =>
    exact hsound.keeps (executePayout_cases h.desk adminUserId providerTransferId transfer).1 _
  | markPayoutPaid caller reference transfer =>
    exact hsound.keeps (executePayout_cases h.desk "system" reference transfer).1 _
  | rejectPayout adminUserId reason =>
    exact hsound.keeps (rejectPayout_keeps h.desk adminUserId reason).1 _
  | reversePayout adminUserId reason =>
    exact hsound.keeps (reversePayout_keeps h.desk adminUserId reason).1 _
  | webhook eventId event =>
    exact hsound.keeps (handlePayoutWebhook_cases h.desk eventId event).1 _

theorem fourEyes_iff_of_pays {desk : PayoutDesk} (hsound : SoundAuthorization h)
    (hkeeps : KeepsApproval h.desk desk) (hpaid : IsPaid desk) (executors : List Id) :
    FourEyes ⟨desk, h.approvers, executors⟩ ↔
      (IsHighValue h.desk → ∃ approver ∈ h.desk.payout.approvedByUserId,
        ∃ executor ∈ executors, executor ≠ approver) := by
  have hvalue : IsHighValue desk ↔ IsHighValue h.desk := by
    rw [IsHighValue, IsHighValue, hkeeps.amount]
  simp only [FourEyes, hvalue, hpaid, forall_true_left, hsound.approvers, Option.mem_toList,
    Option.mem_def]

theorem fourEyes_of_not_pays {desk : PayoutDesk} (hfour : FourEyes h)
    (hkeeps : KeepsApproval h.desk desk) (hunpaid : IsPaid desk → IsPaid h.desk)
    {executors : List Id} (hmore : h.executors ⊆ executors) :
    FourEyes ⟨desk, h.approvers, executors⟩ := by
  intro hvalue hpaid
  rw [IsHighValue, hkeeps.amount] at hvalue
  obtain ⟨approver, happrover, executor, hexecutor, hne⟩ := hfour hvalue (hunpaid hpaid)
  exact ⟨approver, happrover, executor, hmore hexecutor, hne⟩

theorem subset_noteIfOk {R : Type} (admins : List Id) (admin : Id) (reply : Except HttpError R) :
    admins ⊆ noteIfOk admins admin reply := by
  unfold noteIfOk
  split
  · exact List.subset_append_left _ _
  · exact List.Subset.refl _

theorem fourEyes_step_iff (hsound : SoundAuthorization h) (hfour : FourEyes h)
    (action : AuthorizationAction) :
    FourEyes (authorizationStep h action) ↔ KeepsFourEyes h action := by
  cases action with
  | approvePayout adminUserId =>
    refine iff_of_true ?_ trivial
    change FourEyes ⟨(approvePayout h.desk adminUserId).1,
      noteIfOk h.approvers adminUserId (approvePayout h.desk adminUserId).2, h.executors⟩
    obtain ⟨-, -, hpayout⟩ | ⟨hrefused, hsame⟩ := approvePayout_cases h.desk adminUserId
    · intro _ hpaid
      have hstatus : (approvePayout h.desk adminUserId).1.payout.status = .paid := hpaid
      rw [hpayout] at hstatus
      cases hstatus
    · rw [noteIfOk, hrefused, if_neg Bool.false_ne_true, hsame]
      exact hfour
  | executePayout adminUserId providerTransferId transfer =>
    change FourEyes ⟨(executePayout h.desk adminUserId providerTransferId transfer).1, h.approvers,
      noteIfOk h.executors adminUserId
        (executePayout h.desk adminUserId providerTransferId transfer).2⟩ ↔ _
    obtain ⟨hkeeps, ⟨hpays, hpaid, hok⟩ | ⟨hnot, hunpaid⟩⟩ :=
      executePayout_cases h.desk adminUserId providerTransferId transfer
    · rw [fourEyes_iff_of_pays hsound hkeeps hpaid, noteIfOk, if_pos hok]
      refine forall_congr' fun hvalue => ?_
      rw [forall_prop_of_true hpays]
      constructor
      · rintro ⟨approver, happrover, -⟩
        exact Option.isSome_of_mem happrover
      · intro happroved
        obtain ⟨approver, happrover⟩ := Option.isSome_iff_exists.mp happroved
        -- the code has compared the two
        refine ⟨approver, happrover, adminUserId, by simp, fun hself => hpays.2.1 ⟨hvalue, ?_⟩⟩
        rw [happrover, hself]
    · exact iff_of_true (fourEyes_of_not_pays hfour hkeeps hunpaid (subset_noteIfOk ..))
        fun _ hpays => absurd hpays hnot
  -- the executor is compared as "system", whoever calls
  | markPayoutPaid caller reference transfer =>
    change FourEyes ⟨(executePayout h.desk "system" reference transfer).1, h.approvers,
      noteIfOk h.executors caller (executePayout h.desk "system" reference transfer).2⟩ ↔ _
    obtain ⟨hkeeps, ⟨hpays, hpaid, hok⟩ | ⟨hnot, hunpaid⟩⟩ :=
      executePayout_cases h.desk "system" reference transfer
    · rw [fourEyes_iff_of_pays hsound hkeeps hpaid, noteIfOk, if_pos hok]
      refine forall_congr' fun hvalue => ?_
      rw [forall_prop_of_true hpays]
      refine exists_congr fun approver => and_congr_right fun _ => ?_
      simp only [List.mem_append, List.mem_singleton, or_and_right, exists_or, exists_eq_left]
      exact or_comm
    · exact iff_of_true (fourEyes_of_not_pays hfour hkeeps hunpaid (subset_noteIfOk ..))
        fun _ hpays => absurd hpays hnot
  | rejectPayout adminUserId reason =>
    obtain ⟨hkeeps, hunpaid⟩ := rejectPayout_keeps h.desk adminUserId reason
    exact iff_of_true (fourEyes_of_not_pays hfour hkeeps hunpaid (List.Subset.refl _)) trivial
  | reversePayout adminUserId reason =>
    obtain ⟨hkeeps, hunpaid⟩ := reversePayout_keeps h.desk adminUserId reason
    exact iff_of_true (fourEyes_of_not_pays hfour hkeeps hunpaid (List.Subset.refl _)) trivial
  | webhook eventId event =>
    change FourEyes ⟨(handlePayoutWebhook h.desk eventId event).1, h.approvers, h.executors⟩ ↔ _
    obtain ⟨hkeeps, ⟨hpays, hpaid⟩ | ⟨hnot, hunpaid⟩⟩ :=
      handlePayoutWebhook_cases h.desk eventId event
    · rw [fourEyes_iff_of_pays hsound hkeeps hpaid]
      exact forall_congr' fun _ => (forall_prop_of_true (q := fun _ => _) hpays).symm
    · exact iff_of_true (fourEyes_of_not_pays hfour hkeeps hunpaid (List.Subset.refl _))
        fun _ hpays => absurd hpays hnot

def AwaitsApproval (s : PayoutDesk) : Prop :=
  s.payout.status = .pending ∧ s.payout.approvedByUserId = none

/-- **When two admins share a large payout.**  From its request on, every state of a run in
which the payout is paid has it approved by one admin and executed by another one exactly when
each step that pays it meets its condition. -/
theorem four_eyes_iff (start : PayoutDesk) (actions : List AuthorizationAction)
    (hstart : AwaitsApproval start) :
    Everywhere authorizationStep FourEyes ⟨start, [], []⟩ actions ↔
      Along authorizationStep KeepsFourEyes ⟨start, [], []⟩ actions := by
  refine everywhere_iff_along_of_invariant
    (fun _ action hsound => soundAuthorization_step hsound action)
    (fun _ action _ hsound hfour => fourEyes_step_iff hsound hfour action) ?_ ?_
  · exact ⟨by simp [hstart.2], fun _ => hstart.2⟩
  · intro _ hpaid
    have hstatus : start.payout.status = .paid := hpaid
    rw [hstart.1] at hstatus
    cases hstatus

end Runs

def largeDesk : PayoutDesk :=
  { requestedDesk with payout := { requestedDesk.payout with amount := ⟨6000000, by decide⟩ } }

/-- One admin approves, another one hands the payout to the gateway, and the gateway reports
it as made. -/
theorem approved_and_executed :
    Along authorizationStep KeepsFourEyes ⟨largeDesk, [], []⟩ [
      .approvePayout "admin-1",
      .executePayout "admin-2" none (.response ⟨.processing, some "transfer", none⟩),
      .webhook "event" ⟨.processed, some "transfer", none, none⟩] :=
  (four_eyes_iff largeDesk _ ⟨rfl, rfl⟩).mp (by decide +kernel)

/-- One admin pays a payout that nobody has approved, and one marks his own approval paid. -/
theorem paid_by_one_admin :
    ¬ Everywhere authorizationStep FourEyes ⟨largeDesk, [], []⟩
        [.executePayout "admin-1" (some "UTR-1") .noProvider] ∧
      ¬ Everywhere authorizationStep FourEyes ⟨largeDesk, [], []⟩
        [.approvePayout "admin-1", .markPayoutPaid "admin-1" (some "UTR-1") .noProvider] := by
  decide +kernel

end CarRental
