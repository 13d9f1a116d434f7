import CarRental.Lib.Runs
import CarRental.Integrations.WebhookDispatcher

/-!
# Each webhook event once

The table records that an id was received, and an id that is recorded is answered as a duplicate,
whatever its row was recorded for and whatever has become of it.  So an event whose handler has
failed is not handled again when it comes again, and an event is suppressed by another one with its
id.  And what is not recorded, or is replayed, is handled without a look at what was handled before.
-/

namespace CarRental.Integrations.Webhooks

open KeyedRows WebhookDesk

variable {environment : WebhookEnvironment} {s : WebhookDesk} {event : EventIdentity}
  {accepted : Accepted}

/-! ## The law -/

/-- No event is handled successfully twice; and what was answered as a duplicate is one of the very
event that was recorded, and not of an event that waited to be handled again. -/
structure WebhookLaw (s : WebhookDesk) : Prop where
  once : ∀ event, s.handlings.countP (Handling.succeededOn event) ≤ 1
  own : ∀ suppression ∈ s.suppressions, suppression.event = suppression.recorded
  needed : ∀ suppression ∈ s.suppressions, suppression.awaited = false

/-! ## The condition -/

/-- The event has not been handled successfully, and is not being handled. -/
def Unhandled (s : WebhookDesk) (event : EventIdentity) : Prop :=
  s.hasSucceeded event = false ∧ s.isHandled event = false

/-- The row is that of the webhook's event, which does not wait to be handled again. -/
def Repeats (s : WebhookDesk) (accepted : Accepted) (row : WebhookRow) : Prop :=
  row.identity = accepted.identity ∧ s.awaits accepted.identity = false

/-- A webhook that is looked up, or recorded, either repeats the row that has its id, or is of an
event that may be handled. -/
def CarefulWebhook (s : WebhookDesk) (accepted : Accepted) (answered recorded : Bool) : Prop :=
  match answered, s.row? accepted.event.eventId with
  | true, some row => Repeats s accepted row
  | true, none => recorded = true → accepted.params.hasHandler = true →
      Unhandled s accepted.identity
  | false, _ => accepted.params.hasHandler = true → Unhandled s accepted.identity

/-- What is handled, or replayed, has not been handled and is not being handled; what comes under
an id that is recorded repeats its row. -/
def Careful (environment : WebhookEnvironment) (s : WebhookDesk) : WebhookAction → Prop
  | .ingest params now found => ∀ event, normalize environment params now = .ok event →
      CarefulWebhook s ⟨params, event⟩ found false
  | .record accepted written => .recording accepted ∈ s.calls →
      CarefulWebhook s accepted written true
  | .finish _ _ _ => True
  | .startReplay eventId => ∀ row, s.row? eventId = some row → Unhandled s row.identity
  | .finishReplay _ _ _ _ => True

/-! ## What the steps count -/

/-- The handlings of the event that have succeeded or that are under way. -/
def spent (s : WebhookDesk) (event : EventIdentity) : ℕ :=
  s.handlings.countP (Handling.succeededOn event) + s.calls.countP (WebhookCall.handles event)

structure HandledInOrder (s : WebhookDesk) : Prop where
  spent_le : ∀ event, spent s event ≤ 1
  own : ∀ suppression ∈ s.suppressions, suppression.event = suppression.recorded
  needed : ∀ suppression ∈ s.suppressions, suppression.awaited = false

theorem HandledInOrder.law (h : HandledInOrder s) : WebhookLaw s where
  once := fun event => (Nat.le_add_right _ _).trans (h.spent_le event)
  own := h.own
  needed := h.needed

theorem spent_eq_zero_iff : spent s event = 0 ↔ Unhandled s event := by
  simp [spent, Unhandled, hasSucceeded, isHandled, List.countP_eq_zero]

theorem HandledInOrder.of_le {t : WebhookDesk} (h : HandledInOrder s)
    (hspent : ∀ event, spent t event ≤ spent s event)
    (hsuppressions : t.suppressions = s.suppressions) : HandledInOrder t := by
  constructor
  · intro event
    exact (hspent event).trans (h.spent_le event)
  · rw [hsuppressions]
    exact h.own
  · rw [hsuppressions]
    exact h.needed

theorem spent_addCall (call : WebhookCall) :
    spent (s.addCall call) event = spent s event + if call.handles event then 1 else 0 := by
  simp [spent, addCall, List.countP_cons, Nat.add_assoc]

theorem spent_replace {call : WebhookCall} (hcall : call ∈ s.calls) (others : List WebhookCall) :
    spent (s.replace call others) event + (if call.handles event then 1 else 0) =
      spent s event + others.countP (WebhookCall.handles event) := by
  have hperm := (List.perm_cons_erase hcall).countP_eq (WebhookCall.handles event)
  rw [List.countP_cons] at hperm
  simp only [spent, replace, List.countP_append]
  omega

theorem spent_close (call : WebhookCall) (hcall : call ∈ s.calls) (event : EventIdentity) :
    spent (s.replace call []) event ≤ spent s event := by
  have hreplaced := @spent_replace s event call hcall []
  simp only [List.countP_nil] at hreplaced
  omega

theorem spent_handled (other : EventIdentity) (succeeded : Bool) :
    spent (s.handled other succeeded) event =
      spent s event + if succeeded = true ∧ other = event then 1 else 0 := by
  simp only [spent, handled, List.countP_cons, Handling.succeededOn, Bool.and_eq_true,
    decide_eq_true_eq]
  omega

theorem spent_close_le {call : WebhookCall} {other : EventIdentity} (hcall : call ∈ s.calls)
    (hhandles : ∀ event, call.handles event = true ↔ other = event) (succeeded : Bool)
    (event : EventIdentity) :
    spent ((s.replace call []).handled other succeeded) event ≤ spent s event := by
  have hreplaced := @spent_replace s event call hcall []
  rw [spent_handled]
  simp only [hhandles, List.countP_nil] at hreplaced
  split <;> rename_i hsucceeded
  · rw [if_pos hsucceeded.2] at hreplaced
    omega
  · omega

/-! ## The steps -/

theorem HandledInOrder.suppress {row : WebhookRow} (h : HandledInOrder s)
    (hrepeats : Repeats s accepted row) : HandledInOrder (s.suppress accepted row) := by
  obtain ⟨hown, hneeded⟩ := hrepeats
  constructor
  · exact h.spent_le
  · intro suppression hsuppression
    rcases List.mem_cons.mp hsuppression with rfl | hold
    · exact hown.symm
    · exact h.own suppression hold
  · intro suppression hsuppression
    rcases List.mem_cons.mp hsuppression with rfl | hold
    · exact hneeded
    · exact h.needed suppression hold

theorem HandledInOrder.addCall {call : WebhookCall} (h : HandledInOrder s)
    (hfree : ∀ event, call.handles event = true → Unhandled s event) :
    HandledInOrder (s.addCall call) := by
  refine ⟨fun event => ?_, h.own, h.needed⟩
  rw [spent_addCall]
  split <;> rename_i hhandles
  · have hzero := spent_eq_zero_iff.mpr (hfree event hhandles)
    omega
  · exact h.spent_le event

theorem HandledInOrder.handle (h : HandledInOrder s) (hcall : .recording accepted ∈ s.calls)
    (hfree : ∀ event, (WebhookCall.handling accepted).handles event = true → Unhandled s event) :
    HandledInOrder (s.replace (.recording accepted) [.handling accepted]) := by
  refine ⟨fun event => ?_, h.own, h.needed⟩
  have hreplaced := @spent_replace s event _ hcall [.handling accepted]
  rw [List.countP_singleton] at hreplaced
  by_cases hhandles : (WebhookCall.handling accepted).handles event = true
  · have hzero := spent_eq_zero_iff.mpr (hfree event hhandles)
    rw [if_pos hhandles] at hreplaced
    omega
  · have hle := h.spent_le event
    rw [if_neg hhandles] at hreplaced
    omega

theorem unhandled_of_handles
    (hfree : accepted.params.hasHandler = true → Unhandled s accepted.identity) :
    ∀ event, (WebhookCall.handling accepted).handles event = true → Unhandled s event := by
  intro event hhandles
  simp only [WebhookCall.handles, Bool.and_eq_true, decide_eq_true_eq] at hhandles
  obtain ⟨hhandler, rfl⟩ := hhandles
  exact hfree hhandler

theorem HandledInOrder.lookUp {found : Bool} (h : HandledInOrder s)
    (hcareful : CarefulWebhook s accepted found false) :
    HandledInOrder (s.lookUp accepted found) := by
  unfold WebhookDesk.lookUp
  unfold CarefulWebhook at hcareful
  cases found with
  | false =>
    simp only [Bool.false_eq_true, if_false]
    exact h.addCall (unhandled_of_handles hcareful)
  | true =>
    simp only [if_true]
    cases hrow : s.row? accepted.event.eventId with
    | some row =>
      simp only [hrow] at hcareful
      exact h.suppress hcareful
    | none =>
      apply h.addCall
      intro event hhandles
      cases hhandles

theorem HandledInOrder.recordEvent {written : Bool} (h : HandledInOrder s)
    (hcall : .recording accepted ∈ s.calls)
    (hcareful : CarefulWebhook s accepted written true) :
    HandledInOrder (s.recordEvent accepted written) := by
  unfold WebhookDesk.recordEvent
  unfold CarefulWebhook at hcareful
  cases written with
  | false =>
    simp only [Bool.false_eq_true, if_false]
    exact h.handle hcall (unhandled_of_handles hcareful)
  | true =>
    simp only [if_true]
    cases hrow : s.row? accepted.event.eventId with
    | some row =>
      simp only [hrow] at hcareful
      apply HandledInOrder.of_le (h.suppress hcareful)
      · exact spent_close (.recording accepted) hcall
      · rfl
    | none =>
      simp only [hrow] at hcareful
      have hinserted : HandledInOrder (s.insert accepted.row) := h.of_le (fun _ => le_rfl) rfl
      exact hinserted.handle hcall (unhandled_of_handles (hcareful trivial))

theorem HandledInOrder.finishHandling (h : HandledInOrder s)
    (hcall : .handling accepted ∈ s.calls) (result : Except String Unit) (written : Bool) :
    HandledInOrder (s.finishHandling accepted result written) := by
  have hupdate : ∀ (t : WebhookDesk) (f : WebhookRow → WebhookRow), HandledInOrder t →
      HandledInOrder (if written then t.updateRow accepted.event.eventId f else t) := by
    intro t f ht
    cases written with
    | false => exact ht
    | true => exact ht.of_le (fun _ => le_rfl) rfl
  unfold WebhookDesk.finishHandling
  simp only
  cases hhandler : accepted.params.hasHandler with
  | false =>
    simp only [Bool.false_eq_true, if_false]
    apply hupdate
    apply HandledInOrder.of_le h
    · exact spent_close (.handling accepted) hcall
    · rfl
  | true =>
    have hhandles : ∀ event, (WebhookCall.handling accepted).handles event = true ↔
        accepted.identity = event := by
      simp [WebhookCall.handles, hhandler]
    have hclosed : ∀ succeeded, HandledInOrder
        ((s.replace (.handling accepted) []).handled accepted.identity succeeded) :=
      fun succeeded => h.of_le (spent_close_le hcall hhandles succeeded) rfl
    simp only [if_true]
    cases result with
    | ok value => exact hupdate _ _ (hclosed true)
    | error message => exact hupdate _ _ (hclosed false)

theorem HandledInOrder.finishReplaying {record : WebhookRow} (h : HandledInOrder s)
    (hcall : .replaying record ∈ s.calls) (result written : Except String Unit)
    (failureWritten : Bool) :
    HandledInOrder (s.finishReplaying record result written failureWritten) := by
  have hhandles : ∀ event, (WebhookCall.replaying record).handles event = true ↔
      record.identity = event := by
    simp [WebhookCall.handles]
  have hclosed : ∀ succeeded, HandledInOrder
      ((s.replace (.replaying record) []).handled record.identity succeeded) :=
    fun succeeded => h.of_le (spent_close_le hcall hhandles succeeded) rfl
  have hfail : ∀ (t : WebhookDesk) (f : WebhookRow → WebhookRow), HandledInOrder t →
      HandledInOrder (if failureWritten then t.updateRow record.eventId f else t) := by
    intro t f ht
    cases failureWritten with
    | false => exact ht
    | true => exact ht.of_le (fun _ => le_rfl) rfl
  unfold WebhookDesk.finishReplaying
  simp only
  cases result with
  | error message => exact hfail _ _ (hclosed false)
  | ok value =>
    cases written with
    | ok value => exact (hclosed true).of_le (fun _ => le_rfl) rfl
    | error message => exact hfail _ _ (hclosed true)

theorem handledInOrder_step (s : WebhookDesk) (action : WebhookAction) (h : HandledInOrder s)
    (hcareful : Careful environment s action) :
    HandledInOrder (webhookStep environment s action) := by
  cases action with
  | ingest params now found =>
    simp only [webhookStep]
    cases hnormalize : normalize environment params now with
    | error message => exact h
    | ok event => exact h.lookUp (hcareful event hnormalize)
  | record accepted written =>
    simp only [webhookStep]
    split
    · rename_i hcall
      exact h.recordEvent hcall (hcareful hcall)
    · exact h
  | finish accepted result written =>
    simp only [webhookStep]
    split
    · rename_i hcall
      exact h.finishHandling hcall result written
    · exact h
  | startReplay eventId =>
    simp only [webhookStep]
    cases hrow : s.row? eventId with
    | none => exact h
    | some row =>
      apply h.addCall
      intro event hhandles
      simp only [WebhookCall.handles, decide_eq_true_eq] at hhandles
      exact hhandles ▸ hcareful row hrow
  | finishReplay record result written failureWritten =>
    simp only [webhookStep]
    split
    · rename_i hcall
      exact h.finishReplaying hcall result written failureWritten
    · exact h

theorem handledInOrder_opened : HandledInOrder opened where
  spent_le := fun _ => Nat.zero_le 1
  own := List.forall_mem_nil _
  needed := List.forall_mem_nil _

def capturedPayload : Payload :=
  ⟨some "payment.captured", none, some "evt_1", none, none, none⟩

def singleEvent : WebhookEnvironment where
  mapping := .ascii
  parse := fun _ => some (some capturedPayload)
  sha256 := fun body => body
  hmac := fun secret body => secret ++ body
  production := true

def capturedParams : WebhookIngestParams where
  gateway := "razorpay"
  rawBody := "captured"
  signature := "signed"
  headers := []
  secret := none
  timestamp := none
  hasHandler := true

def capturedWebhook : Accepted where
  params := capturedParams
  event :=
    { eventId := "evt_1"
      gateway := "RAZORPAY"
      eventType := "payment.captured"
      aggregateId := none
      payload := capturedPayload }

theorem normalize_captured :
    normalize singleEvent capturedParams 0 = .ok capturedWebhook.event := by
  rfl

def deliveredTwice (result : Except String Unit) : List WebhookAction :=
  [.ingest capturedParams 0 true, .record capturedWebhook true,
    .finish capturedWebhook result true, .ingest capturedParams 0 true]

end CarRental.Integrations.Webhooks
