import CarRental.Bookings.OutboxWorker
import CarRental.Lib.Runs

/-!
# What becomes of an outbox event

A published event should stay published, every other one that is not dead should become eligible
again, no two workers should dispatch an event at once, and an event should be dead only after as
many failed attempts as it may have.

A failure is written by the event's id, by a direct dispatch, a worker or the recovery, whatever
another call has made of the row in between; this undoes a publication, and it frees an event whose
worker is still at it (`outbox_law_iff`).  The recovery counts as failed what has only lasted long.
Where whoever writes a failure is alone at an event that is not published, and the recovery finds
only events whose worker is lost, all of the law holds (`outbox_right_of_careful`).
-/

namespace CarRental

open Runs

/-! ## The law -/

/-- What the event waits for at most, since it was written last. -/
def OutboxEvent.waitMs (event : OutboxEvent) : ℤ :=
  match event.status with
  | .failed => event.backoffMs
  | .processing => 300001
  | _ => 0

/-- A worker would take the event up at this time, or the recovery would. -/
def OutboxEvent.Eligible (event : OutboxEvent) (time : ℤ) : Prop :=
  event.isCandidate = true ∧ event.backoffOver time = true ∨ event.isStale time = true

/-- After its lock or its backoff the event is eligible for good. -/
def OutboxEvent.Recurs (event : OutboxEvent) : Prop :=
  event.status ≠ .published → event.status ≠ .deadLetter →
    ∀ time, event.updatedAt + event.waitMs ≤ time → event.Eligible time

structure OutboxLaw (s : Outbox) : Prop where
  recurs : ∀ id, ∀ event ∈ s.events id, event.Recurs
  single : ∀ id, s.calls.countP (OutboxCall.isWorkerOn id) ≤ 1

def StaysPublished (s : Outbox) (action : OutboxAction) : Prop :=
  ∀ id, ∀ event ∈ s.events id, event.status = .published →
    ∃ event' ∈ (outboxStep s action).events id, event'.status = .published

/-- Nobody is dead before the attempts are used up. -/
def DeadAfterFailures (s : Outbox) : Prop :=
  ∀ id, ∀ event ∈ s.events id, event.status = .deadLetter → event.maxRetries ≤ s.failures id

structure OutboxRight (start : Outbox) (actions : List OutboxAction) : Prop where
  law : Everywhere outboxStep OutboxLaw start actions
  stays : Along outboxStep StaysPublished start actions
  dead : Everywhere outboxStep DeadAfterFailures start actions

/-! ## The conditions -/

/-- The failure is written to an event that is not published, and leaves it one that is looked
for. -/
def FailsRightly (s : Outbox) (read : ReadEvent) : Prop :=
  ∀ event ∈ s.events read.id, event.status ≠ .published ∧
    (read.event.retryCount + 1 < read.event.maxRetries → read.event.retryCount + 1 < 5)

/-- Failures are written rightly, and an event is claimed only when nobody is at it who has claimed
it before. -/
def WrittenRightly (s : Outbox) : OutboxAction → Prop
  | .claim read fetchedAt => .candidate read fetchedAt ∈ s.calls →
      s.claimable read fetchedAt = true → s.calls.countP (OutboxCall.isWorkerOn read.id) = 0
  | .fail read worker recorded => .dispatching read worker ∈ s.calls → recorded = true →
      FailsRightly s read
  | .recordUnexpected read => .unsuccessful read ∈ s.calls → FailsRightly s read
  | .recover read => .recovering read ∈ s.calls → FailsRightly s read
  | _ => True

/-- No worker is at the event whose failure is written, the one that writes it apart. -/
def FailsAlone (s : Outbox) (read : ReadEvent) (writer : OutboxCall) : Prop :=
  FailsRightly s read ∧ s.calls.countP (OutboxCall.isWorkerOn read.id) ≤
    [writer].countP (OutboxCall.isWorkerOn read.id)

/-- Every failure is written so, and the recovery finds only events whose worker is lost. -/
def OutboxCareful (s : Outbox) : OutboxAction → Prop
  | .fail read worker recorded => .dispatching read worker ∈ s.calls → recorded = true →
      FailsAlone s read (.dispatching read worker)
  | .recordUnexpected read => .unsuccessful read ∈ s.calls → FailsAlone s read (.unsuccessful read)
  | .recover read => .recovering read ∈ s.calls → FailsAlone s read (.recovering read)
  | .findStale id => ∀ event ∈ s.events id, event.isStale s.now = true →
      s.calls.countP (OutboxCall.isWorkerOn id) = 0
  | _ => True

/-! ## Eligibility -/

section Eligibility

variable {event : OutboxEvent}

theorem recurs_of_not_failed (h : event.status ≠ .failed) : event.Recurs := by
  intro hpublished hdead time htime
  unfold OutboxEvent.waitMs at htime
  cases hstatus : event.status with
  | pending => exact .inl ⟨by simp [OutboxEvent.isCandidate, hstatus],
      by simp [OutboxEvent.backoffOver, hstatus]⟩
  | processing =>
    simp only [hstatus] at htime
    refine .inr ?_
    simp only [OutboxEvent.isStale, hstatus, true_and, decide_eq_true_eq]
    omega
  | published => exact absurd hstatus hpublished
  | failed => exact absurd hstatus h
  | deadLetter => exact absurd hstatus hdead

theorem recurs_iff_of_failed (h : event.status = .failed) :
    event.Recurs ↔ event.retryCount < 5 := by
  constructor
  · intro hrecurs
    rcases hrecurs (by rw [h]; decide) (by rw [h]; decide) _ le_rfl with ⟨hcandidate, -⟩ | hstale
    · simpa [OutboxEvent.isCandidate, h] using hcandidate
    · simp [OutboxEvent.isStale, h] at hstale
  · intro hfew _ _ time htime
    simp only [OutboxEvent.waitMs, h] at htime
    refine .inl ⟨by simp [OutboxEvent.isCandidate, h, hfew], ?_⟩
    simp only [OutboxEvent.backoffOver, h, ne_eq, not_true_eq_false, false_or, decide_eq_true_eq]
    omega

theorem recurs_recordFailure_iff (read : OutboxEvent) (now : ℤ) :
    (event.recordFailure read now).Recurs ↔
      (read.retryCount + 1 < read.maxRetries → read.retryCount + 1 < 5) := by
  by_cases hdead : read.maxRetries ≤ read.retryCount + 1
  · refine iff_of_true (recurs_of_not_failed ?_) fun hlt => absurd hdead (not_le.mpr hlt)
    simp [OutboxEvent.recordFailure, hdead]
  · rw [recurs_iff_of_failed (by simp [OutboxEvent.recordFailure, hdead]),
      imp_iff_right (not_le.mp hdead)]
    rfl

end Eligibility

/-! ## Steps -/

section Steps

variable {s s' : Outbox} {id : Id}

theorem mem_setEvent {new event : OutboxEvent} {other : Id} :
    event ∈ (s.setEvent id new).events other ↔
      other = id ∧ event = new ∨ other ≠ id ∧ event ∈ s.events other := by
  by_cases hother : other = id
  · subst hother
    simp [Outbox.setEvent, eq_comm]
  · simp [Outbox.setEvent, hother]

theorem mem_updateEvent {f : OutboxEvent → OutboxEvent} {other : Id} {event' : OutboxEvent} :
    event' ∈ (s.updateEvent id f).events other ↔
      (other = id ∧ ∃ event ∈ s.events id, f event = event') ∨
        other ≠ id ∧ event' ∈ s.events other := by
  unfold Outbox.updateEvent
  by_cases hother : other = id
  · subst hother
    cases hevent : s.events other with
    | none => simp [hevent]
    | some event => simp [Outbox.setEvent]
  · cases hevent : s.events id with
    | none => simp [hother]
    | some event => simp [Outbox.setEvent, hother]

@[simp] theorem updateEvent_calls (f : OutboxEvent → OutboxEvent) :
    (s.updateEvent id f).calls = s.calls := by
  unfold Outbox.updateEvent
  split <;> rfl

@[simp] theorem updateEvent_failures (f : OutboxEvent → OutboxEvent) :
    (s.updateEvent id f).failures = s.failures := by
  unfold Outbox.updateEvent
  split <;> rfl

theorem countP_replace {call : OutboxCall} {others : List OutboxCall} (hwrite : s'.calls = s.calls)
    (h : call ∈ s.calls) (p : OutboxCall → Bool) :
    (s'.replace call others).calls.countP p + [call].countP p =
      others.countP p + s.calls.countP p := by
  have hcalls := (List.perm_cons_erase h).countP_eq p
  rw [← List.singleton_append, List.countP_append] at hcalls
  rw [Outbox.replace, List.countP_append, hwrite, hcalls]
  omega

/-- What is published stays so from the one state to the other. -/
def KeepsPublished (s s' : Outbox) : Prop :=
  ∀ id, ∀ event ∈ s.events id, event.status = .published →
    ∃ event' ∈ s'.events id, event'.status = .published

/-- No worker takes up an event. -/
def NoNewWorkers (s s' : Outbox) : Prop :=
  ∀ id, s'.calls.countP (OutboxCall.isWorkerOn id) ≤ s.calls.countP (OutboxCall.isWorkerOn id)

theorem noNewWorkers_replace {call : OutboxCall} {others : List OutboxCall}
    (hwrite : s'.calls = s.calls) (h : call ∈ s.calls)
    (hothers : ∀ id, others.countP (OutboxCall.isWorkerOn id) ≤
      [call].countP (OutboxCall.isWorkerOn id)) : NoNewWorkers s (s'.replace call others) := by
  intro id
  have hcount : _ = others.countP (OutboxCall.isWorkerOn id) + _ :=
    countP_replace hwrite h (OutboxCall.isWorkerOn id)
  have := hothers id
  omega

@[simp] theorem writeFailure_calls (read : ReadEvent) : (s.writeFailure read).calls = s.calls :=
  updateEvent_calls _

theorem noNewWorkers_of_step {action : OutboxAction}
    (hclaim : ∀ read fetchedAt, action ≠ .claim read fetchedAt) :
    NoNewWorkers s (outboxStep s action) := by
  have hread : ∀ {id p} {call : ReadEvent → OutboxCall},
      (∀ read other, (call read).isWorkerOn other = false) →
        NoNewWorkers s (s.readRow id p call) := by
    intro id p call hcall other
    unfold Outbox.readRow
    repeat' split
    all_goals simp [hcall]
  cases action with
  | create id maxRetries =>
    rw [outboxStep]
    split_ifs <;> exact fun _ => le_rfl
  | dispatchDirectly id =>
    rw [outboxStep]
    exact hread fun _ _ => by simp [OutboxCall.isWorkerOn]
  | fetch id =>
    rw [outboxStep]
    exact hread fun _ _ => rfl
  | findStale id =>
    rw [outboxStep]
    exact hread fun _ _ => rfl
  | advance milliseconds => exact fun _ => le_rfl
  | claim read fetchedAt => exact absurd rfl (hclaim read fetchedAt)
  | beginDispatch read =>
    rw [outboxStep]
    split_ifs with h
    · unfold Outbox.readClaimed
      repeat' split
      all_goals
        refine noNewWorkers_replace rfl h fun id => ?_
        simp [List.countP_singleton, OutboxCall.isWorkerOn]
    · exact fun _ => le_rfl
  | failRead read =>
    rw [outboxStep]
    split_ifs with h
    · refine noNewWorkers_replace rfl h fun id => ?_
      simp [List.countP_singleton, OutboxCall.isWorkerOn]
    · exact fun _ => le_rfl
  | publish read worker =>
    rw [outboxStep]
    split_ifs with h
    · exact noNewWorkers_replace (updateEvent_calls _) h fun _ => Nat.zero_le _
    · exact fun _ => le_rfl
  | fail read worker recorded =>
    rw [outboxStep]
    by_cases h : .dispatching read worker ∈ s.calls
    · rw [if_pos h]
      refine noNewWorkers_replace ?_ h fun id => ?_
      · cases recorded
        · rfl
        · exact writeFailure_calls read
      · cases worker <;> simp [OutboxCall.isWorkerOn]
    · rw [if_neg h]
      exact fun _ => le_rfl
  | recordUnexpected read =>
    rw [outboxStep]
    split_ifs with h
    · exact noNewWorkers_replace (writeFailure_calls read) h fun _ => Nat.zero_le _
    · exact fun _ => le_rfl
  | recover read =>
    rw [outboxStep]
    split_ifs with h
    · exact noNewWorkers_replace (writeFailure_calls read) h fun _ => Nat.zero_le _
    · exact fun _ => le_rfl
  | crash call =>
    rw [outboxStep]
    split_ifs with h
    · refine noNewWorkers_replace ?_ h fun _ => Nat.zero_le _
      cases call.attempted <;> rfl
    · exact fun _ => le_rfl

theorem law_of_same_events (hlaw : OutboxLaw s) (hevents : s'.events = s.events)
    (hworkers : NoNewWorkers s s') : OutboxLaw s' ∧ KeepsPublished s s' := by
  refine ⟨⟨?_, fun id => (hworkers id).trans (hlaw.single id)⟩, ?_⟩
  · rw [hevents]
    exact hlaw.recurs
  · intro id event hevent hpublished
    exact ⟨event, hevents ▸ hevent, hpublished⟩

theorem law_of_updateEvent {f : OutboxEvent → OutboxEvent} (hlaw : OutboxLaw s)
    (hevents : s'.events = (s.updateEvent id f).events)
    (hf : ∀ event ∈ s.events id, (f event).status ≠ .failed ∧
      (event.status = .published → (f event).status = .published)) :
    (∀ id, ∀ event ∈ s'.events id, event.Recurs) ∧ KeepsPublished s s' := by
  constructor
  · rintro other event' hevent'
    rw [hevents, mem_updateEvent] at hevent'
    rcases hevent' with ⟨rfl, event, hevent, rfl⟩ | ⟨-, hevent⟩
    · exact recurs_of_not_failed (hf event hevent).1
    · exact hlaw.recurs other event' hevent
  · intro other event hevent hpublished
    rw [hevents]
    by_cases hother : other = id
    · subst hother
      exact ⟨f event, mem_updateEvent.mpr (.inl ⟨rfl, event, hevent, rfl⟩),
        (hf event hevent).2 hpublished⟩
    · exact ⟨event, mem_updateEvent.mpr (.inr ⟨hother, hevent⟩), hpublished⟩

variable {read : ReadEvent}

theorem countP_claim {fetchedAt : ℤ} (h : .candidate read fetchedAt ∈ s.calls)
    (hclaim : s.claimable read fetchedAt = true) (other : Id) :
    (outboxStep s (.claim read fetchedAt)).calls.countP (OutboxCall.isWorkerOn other) =
      s.calls.countP (OutboxCall.isWorkerOn other) + if read.id = other then 1 else 0 := by
  have hcalls : (s.updateEvent read.id fun event =>
      { event with status := .processing, updatedAt := s.now }).calls = s.calls :=
    updateEvent_calls _
  have hcount : _ = [OutboxCall.claimed read].countP (OutboxCall.isWorkerOn other) + _ :=
    countP_replace hcalls h (OutboxCall.isWorkerOn other)
  simp only [List.countP_singleton, OutboxCall.isWorkerOn, decide_eq_true_eq, Bool.false_eq_true,
    if_false] at hcount
  rw [outboxStep, if_pos h, if_pos hclaim]
  omega

theorem noNewWorkers_of_lost_claim {fetchedAt : ℤ}
    (h : ¬ (.candidate read fetchedAt ∈ s.calls ∧ s.claimable read fetchedAt = true)) :
    NoNewWorkers s (outboxStep s (.claim read fetchedAt)) := by
  rw [outboxStep]
  split_ifs with hmem hclaim
  · exact absurd ⟨hmem, hclaim⟩ h
  · exact noNewWorkers_replace rfl hmem fun _ => Nat.zero_le _
  · exact fun _ => le_rfl

theorem law_writeFailure_iff (hlaw : OutboxLaw s)
    (hevents : s'.events = (s.writeFailure read).events) (hworkers : NoNewWorkers s s') :
    (OutboxLaw s' ∧ KeepsPublished s s') ↔ FailsRightly s read := by
  have hmem : ∀ {id event'}, event' ∈ s'.events id ↔ _ := fun {id event'} => by
    rw [hevents, Outbox.writeFailure, mem_updateEvent]
  have hstatus : ∀ event : OutboxEvent,
      (event.recordFailure read.event s.now).status ≠ .published := by
    intro event
    dsimp only [OutboxEvent.recordFailure]
    split <;> decide
  constructor
  · rintro ⟨hlaw', hkeeps⟩ event hevent
    have hwritten := hmem.mpr (.inl ⟨rfl, event, hevent, rfl⟩)
    constructor
    · intro hpublished
      obtain ⟨event', hevent', hpublished'⟩ := hkeeps read.id event hevent hpublished
      obtain rfl := Option.mem_unique hevent' hwritten
      exact hstatus event hpublished'
    · exact (recurs_recordFailure_iff read.event s.now).mp (hlaw'.recurs _ _ hwritten)
  · intro hrightly
    refine ⟨⟨?_, fun id => (hworkers id).trans (hlaw.single id)⟩, ?_⟩
    · intro id event' hevent'
      rcases hmem.mp hevent' with ⟨rfl, event, hevent, rfl⟩ | ⟨-, hevent⟩
      · exact (recurs_recordFailure_iff read.event s.now).mpr (hrightly event hevent).2
      · exact hlaw.recurs id event' hevent
    · intro id event hevent hpublished
      have hother : id ≠ read.id := by
        rintro rfl
        exact (hrightly event hevent).1 hpublished
      exact ⟨event, hmem.mpr (.inr ⟨hother, hevent⟩), hpublished⟩

theorem law_claim_iff {fetchedAt : ℤ} (hlaw : OutboxLaw s) (h : .candidate read fetchedAt ∈ s.calls)
    (hclaim : s.claimable read fetchedAt = true) :
    (OutboxLaw (outboxStep s (.claim read fetchedAt)) ∧ StaysPublished s (.claim read fetchedAt)) ↔
      s.calls.countP (OutboxCall.isWorkerOn read.id) = 0 := by
  have hopen : ∀ event ∈ s.events read.id, event.status ≠ .published := by
    intro event hevent hpublished
    rw [Option.mem_def] at hevent
    simp [Outbox.claimable, hevent, hpublished] at hclaim
  have hevents : (outboxStep s (.claim read fetchedAt)).events =
      (s.updateEvent read.id fun event =>
        { event with status := .processing, updatedAt := s.now }).events := by
    rw [outboxStep, if_pos h, if_pos hclaim]
    rfl
  have hwritten := law_of_updateEvent hlaw hevents
    (fun event hevent => ⟨by simp, fun hpublished => absurd hpublished (hopen event hevent)⟩)
  have hcount := countP_claim h hclaim
  constructor
  · rintro ⟨hlaw', -⟩
    have := hlaw'.single read.id
    rw [hcount, if_pos rfl] at this
    omega
  · intro hnobody
    refine ⟨⟨hwritten.1, fun id => ?_⟩, hwritten.2⟩
    rw [hcount]
    split_ifs with hid
    · rw [← hid, hnobody]
    · exact hlaw.single id

@[simp] theorem readRow_events {p : OutboxEvent → Bool} {call : ReadEvent → OutboxCall} :
    (s.readRow id p call).events = s.events := by
  unfold Outbox.readRow
  repeat' split
  all_goals rfl

theorem events_of_step (s : Outbox) (action : OutboxAction) : (outboxStep s action).events =
    match action with
    | .create id maxRetries =>
      if s.events id = none then (s.setEvent id ⟨.pending, 0, maxRetries, s.now⟩).events
      else s.events
    | .claim read fetchedAt =>
      if .candidate read fetchedAt ∈ s.calls ∧ s.claimable read fetchedAt = true then
        (s.updateEvent read.id fun event =>
          { event with status := .processing, updatedAt := s.now }).events
      else s.events
    | .publish read worker =>
      if .dispatching read worker ∈ s.calls then
        (s.updateEvent read.id fun event =>
          { event with status := .published, updatedAt := s.now }).events
      else s.events
    | .fail read worker recorded =>
      if .dispatching read worker ∈ s.calls ∧ recorded = true then (s.writeFailure read).events
      else s.events
    | .recordUnexpected read =>
      if .unsuccessful read ∈ s.calls then (s.writeFailure read).events else s.events
    | .recover read =>
      if .recovering read ∈ s.calls then (s.writeFailure read).events else s.events
    | _ => s.events := by
  cases action with
  | create id maxRetries => exact apply_ite Outbox.events _ _ _
  | dispatchDirectly id => exact readRow_events
  | fetch id => exact readRow_events
  | claim read fetchedAt =>
    simp only [outboxStep, ite_and]
    split_ifs <;> rfl
  | beginDispatch read =>
    simp only [outboxStep]
    unfold Outbox.readClaimed
    repeat' split
    all_goals rfl
  | failRead read =>
    simp only [outboxStep]
    split_ifs <;> rfl
  | publish read worker =>
    simp only [outboxStep]
    split_ifs <;> rfl
  | fail read worker recorded =>
    simp only [outboxStep, ite_and]
    by_cases h : .dispatching read worker ∈ s.calls
    · rw [if_pos h, if_pos h]
      cases recorded <;> rfl
    · rw [if_neg h, if_neg h]
  | recordUnexpected read =>
    simp only [outboxStep]
    split_ifs <;> rfl
  | findStale id => exact readRow_events
  | recover read =>
    simp only [outboxStep]
    split_ifs <;> rfl
  | crash call =>
    simp only [outboxStep]
    split_ifs
    · cases call.attempted <;> rfl
    · rfl
  | advance milliseconds => rfl

theorem law_publish {worker : Option ReadEvent} (hlaw : OutboxLaw s) :
    OutboxLaw (outboxStep s (.publish read worker)) ∧
      KeepsPublished s (outboxStep s (.publish read worker)) := by
  have hworkers : NoNewWorkers s (outboxStep s (.publish read worker)) := noNewWorkers_of_step nofun
  have hevents := events_of_step s (.publish read worker)
  dsimp only at hevents
  split_ifs at hevents with h
  · have hwritten := law_of_updateEvent hlaw hevents fun event _ => ⟨by simp, fun _ => rfl⟩
    exact ⟨⟨hwritten.1, fun id => (hworkers id).trans (hlaw.single id)⟩, hwritten.2⟩
  · exact law_of_same_events hlaw hevents hworkers

theorem law_iff_of_failure {action : OutboxAction} {written : Prop} [Decidable written]
    (hlaw : OutboxLaw s)
    (hevents : (outboxStep s action).events = if written then (s.writeFailure read).events
      else s.events)
    (hclaim : ∀ read fetchedAt, action ≠ .claim read fetchedAt) :
    (OutboxLaw (outboxStep s action) ∧ KeepsPublished s (outboxStep s action)) ↔
      (written → FailsRightly s read) := by
  by_cases h : written
  · rw [if_pos h] at hevents
    rw [imp_iff_right h]
    exact law_writeFailure_iff hlaw hevents (noNewWorkers_of_step hclaim)
  · rw [if_neg h] at hevents
    exact iff_of_true (law_of_same_events hlaw hevents (noNewWorkers_of_step hclaim))
      fun hwritten => absurd hwritten h

theorem law_create {maxRetries : ℕ} (hlaw : OutboxLaw s) :
    OutboxLaw (outboxStep s (.create id maxRetries)) ∧
      KeepsPublished s (outboxStep s (.create id maxRetries)) := by
  have hworkers : NoNewWorkers s (outboxStep s (.create id maxRetries)) :=
    noNewWorkers_of_step nofun
  have hevents := events_of_step s (.create id maxRetries)
  dsimp only at hevents
  split_ifs at hevents with hfree
  · refine ⟨⟨fun other event hevent => ?_, fun other => (hworkers other).trans (hlaw.single other)⟩,
      fun other event hevent hpublished => ?_⟩
    · rw [hevents, mem_setEvent] at hevent
      rcases hevent with ⟨-, rfl⟩ | ⟨-, hevent⟩
      · exact recurs_of_not_failed (by simp)
      · exact hlaw.recurs other event hevent
    · have hother : other ≠ id := by
        rintro rfl
        simp [hfree] at hevent
      rw [hevents]
      exact ⟨event, mem_setEvent.mpr (.inr ⟨hother, hevent⟩), hpublished⟩
  · exact law_of_same_events hlaw hevents hworkers

theorem law_iff_of_step (s : Outbox) (action : OutboxAction) (hlaw : OutboxLaw s) :
    (OutboxLaw (outboxStep s action) ∧ StaysPublished s action) ↔ WrittenRightly s action := by
  change OutboxLaw (outboxStep s action) ∧ KeepsPublished s (outboxStep s action) ↔ _
  have hevents := events_of_step s action
  cases action with
  | create id maxRetries => exact iff_of_true (law_create hlaw) trivial
  | claim read fetchedAt =>
    by_cases h : .candidate read fetchedAt ∈ s.calls ∧ s.claimable read fetchedAt = true
    · rw [WrittenRightly, imp_iff_right h.1, imp_iff_right h.2]
      exact law_claim_iff hlaw h.1 h.2
    · refine iff_of_true ?_ fun hmem hclaim => absurd ⟨hmem, hclaim⟩ h
      exact law_of_same_events hlaw (hevents.trans (if_neg h)) (noNewWorkers_of_lost_claim h)
  | fail read worker recorded =>
    rw [WrittenRightly, ← and_imp]
    exact law_iff_of_failure hlaw hevents nofun
  | recordUnexpected read => exact law_iff_of_failure hlaw hevents nofun
  | recover read => exact law_iff_of_failure hlaw hevents nofun
  | publish read worker => exact iff_of_true (law_publish hlaw) trivial
  | dispatchDirectly | fetch | findStale | beginDispatch | failRead | crash | advance =>
    exact iff_of_true (law_of_same_events hlaw hevents (noNewWorkers_of_step nofun)) trivial

end Steps

/-! ## Counted failures -/

section Failures

variable {s s' : Outbox} {id : Id}

/-- What was read of the event had seen only failures that are counted, and `lost` more are. -/
def ReadCounted (s : Outbox) (lost : ℕ) (read : ReadEvent) : Prop :=
  read.event.retryCount + lost ≤ s.failures read.id ∧
    ∃ event ∈ s.events read.id, event.maxRetries = read.event.maxRetries

def CallCounted (s : Outbox) : OutboxCall → Prop
  | .candidate read _ => ReadCounted s 0 read
  | .claimed read => ReadCounted s 0 read
  | .dispatching read worker =>
    ReadCounted s 0 read ∧ ∀ claimed ∈ worker, claimed.id = read.id ∧ ReadCounted s 0 claimed
  | .unsuccessful read => ReadCounted s 1 read
  | .recovering read => ReadCounted s 1 read

structure RowCounted (failures : ℕ) (event : OutboxEvent) : Prop where
  retried : event.retryCount ≤ failures
  dead : event.status = .deadLetter → event.maxRetries ≤ failures

/-- Where a worker is lost with an event, its attempt is counted. -/
structure FailuresCounted (s : Outbox) : Prop where
  rows : ∀ id, ∀ event ∈ s.events id, RowCounted (s.failures id) event
  lost : ∀ id, ∀ event ∈ s.events id, event.status = .processing →
    (∃ call ∈ s.calls, call.isWorkerOn id = true) ∨ event.retryCount + 1 ≤ s.failures id
  calls : ∀ call ∈ s.calls, CallCounted s call

/-- No failure is forgotten, and no row either. -/
structure Remembers (s s' : Outbox) : Prop where
  failures : ∀ id, s.failures id ≤ s'.failures id
  rows : ∀ id, ∀ event ∈ s.events id, ∃ event' ∈ s'.events id, event'.maxRetries = event.maxRetries

variable {read : ReadEvent}

theorem ReadCounted.remembered {lost : ℕ} (h : ReadCounted s lost read)
    (hremembers : Remembers s s') : ReadCounted s' lost read := by
  obtain ⟨hretried, event, hevent, hmax⟩ := h
  obtain ⟨event', hevent', hmax'⟩ := hremembers.rows read.id event hevent
  exact ⟨hretried.trans (hremembers.failures read.id), event', hevent', hmax'.trans hmax⟩

variable {call : OutboxCall}

theorem CallCounted.remembered (h : CallCounted s call) (hremembers : Remembers s s')
    : CallCounted s' call := by
  cases call with
  | candidate read fetchedAt => exact ReadCounted.remembered h hremembers
  | claimed read => exact ReadCounted.remembered h hremembers
  | dispatching read worker =>
    exact ⟨h.1.remembered hremembers,
      fun claimed hclaimed =>
        ⟨(h.2 claimed hclaimed).1, (h.2 claimed hclaimed).2.remembered hremembers⟩⟩
  | unsuccessful read => exact ReadCounted.remembered h hremembers
  | recovering read => exact ReadCounted.remembered h hremembers

theorem remembers_updateEvent {f : OutboxEvent → OutboxEvent}
    (hf : ∀ event, (f event).maxRetries = event.maxRetries) : Remembers s (s.updateEvent id f) := by
  refine ⟨fun other => le_of_eq (by simp), fun other event hevent => ?_⟩
  by_cases hother : other = id
  · subst hother
    exact ⟨f event, mem_updateEvent.mpr (.inl ⟨rfl, event, hevent, rfl⟩), hf event⟩
  · exact ⟨event, mem_updateEvent.mpr (.inr ⟨hother, hevent⟩), rfl⟩

theorem remembers_countFailure : Remembers s (s.countFailure id) := by
  refine ⟨fun other => ?_, fun other event hevent => ⟨event, hevent, rfl⟩⟩
  rw [Outbox.countFailure]
  by_cases hother : other = id
  · simp [hother]
  · simp [hother]

theorem counted_updateEvent {f : OutboxEvent → OutboxEvent} (h : FailuresCounted s)
    (hmax : ∀ event, (f event).maxRetries = event.maxRetries)
    (hf : ∀ event ∈ s.events id, RowCounted (s.failures id) (f event))
    (hlost : ∀ event ∈ s.events id, (f event).status = .processing →
      ∃ call ∈ s.calls, call.isWorkerOn id = true) : FailuresCounted (s.updateEvent id f) where
  rows := by
    intro other event' hevent'
    rw [updateEvent_failures]
    rcases mem_updateEvent.mp hevent' with ⟨rfl, event, hevent, rfl⟩ | ⟨-, hevent⟩
    · exact hf event hevent
    · exact h.rows other event' hevent
  lost := by
    intro other event' hevent' hprocessing
    rw [updateEvent_failures, updateEvent_calls]
    rcases mem_updateEvent.mp hevent' with ⟨rfl, event, hevent, rfl⟩ | ⟨-, hevent⟩
    · exact .inl (hlost event hevent hprocessing)
    · exact h.lost other event' hevent hprocessing
  calls := by
    intro call hcall
    rw [updateEvent_calls] at hcall
    exact (h.calls call hcall).remembered (remembers_updateEvent hmax)

theorem counted_countFailure (h : FailuresCounted s) : FailuresCounted (s.countFailure id) where
  rows other event hevent := by
    have hrow := h.rows other event hevent
    have hremembers : Remembers s (s.countFailure id) := remembers_countFailure
    have hmore := hremembers.failures other
    exact ⟨hrow.retried.trans hmore, fun hdead => (hrow.dead hdead).trans hmore⟩
  lost other event hevent hprocessing :=
    (h.lost other event hevent hprocessing).imp_right
      fun hlost => hlost.trans (remembers_countFailure.failures other)
  calls call hcall := (h.calls call hcall).remembered remembers_countFailure

theorem ReadCounted.next (h : ReadCounted s 0 read) (hid : read.id = id) :
    ReadCounted (s.countFailure id) 1 read := by
  refine ⟨?_, h.2⟩
  simpa [Outbox.countFailure, hid] using h.1

theorem counted_writeFailure (h : FailuresCounted s) (hread : ReadCounted s 1 read)
    : FailuresCounted (s.writeFailure read) := by
  obtain ⟨hretried, row, hrow, hmax⟩ := hread
  refine counted_updateEvent h (fun _ => rfl) (fun event hevent => ⟨hretried, fun hdead => ?_⟩)
    fun event _ hprocessing => ?_
  · obtain rfl := Option.mem_unique hevent hrow
    have hlast : read.event.maxRetries ≤ read.event.retryCount + 1 := by
      by_contra hmore
      simp [OutboxEvent.recordFailure, hmore] at hdead
    exact hmax.trans_le (hlast.trans hretried)
  · simp only [OutboxEvent.recordFailure] at hprocessing
    split at hprocessing <;> cases hprocessing

theorem counted_replace {others : List OutboxCall} (h : FailuresCounted s)
    (hothers : ∀ other ∈ others, CallCounted s other)
    (hworker : ∀ id, call.isWorkerOn id = true → ∀ event ∈ s.events id,
      event.status = .processing →
        (∃ other ∈ others, other.isWorkerOn id = true) ∨ event.retryCount + 1 ≤ s.failures id) :
    FailuresCounted (s.replace call others) where
  rows := h.rows
  lost id event hevent hprocessing := by
    rcases h.lost id event hevent hprocessing with ⟨worker, hmem, hon⟩ | hlost
    · by_cases hsame : worker = call
      · refine (hworker id (hsame ▸ hon) event hevent hprocessing).imp_left ?_
        rintro ⟨other, hother, hon'⟩
        exact ⟨other, List.mem_append_left _ hother, hon'⟩
      · exact .inl ⟨worker, List.mem_append_right _ ((List.mem_erase_of_ne hsame).mpr hmem), hon⟩
    · exact .inr hlost
  calls other hother := by
    rcases List.mem_append.mp hother with hmem | hmem
    · exact hothers other hmem
    · exact h.calls other (List.mem_of_mem_erase hmem)

theorem counted_readRow {p : OutboxEvent → Bool} {call : ReadEvent → OutboxCall}
    (h : FailuresCounted s)
    (hcall : ∀ event ∈ s.events id, p event = true → CallCounted s (call ⟨id, event⟩)) :
    FailuresCounted (s.readRow id p call) := by
  unfold Outbox.readRow
  split
  · exact h
  · rename_i event hevent
    split_ifs with hp
    · refine ⟨h.rows, fun other event' hevent' hprocessing => ?_, ?_⟩
      · refine (h.lost other event' hevent' hprocessing).imp_left ?_
        rintro ⟨worker, hmem, hon⟩
        exact ⟨worker, List.mem_cons_of_mem _ hmem, hon⟩
      · intro other hother
        rcases List.mem_cons.mp hother with rfl | hmem
        · exact hcall event hevent hp
        · exact h.calls other hmem
    · exact h

theorem readCounted_of_row {event : OutboxEvent} (h : FailuresCounted s)
    (hevent : event ∈ s.events id) : ReadCounted s 0 ⟨id, event⟩ :=
  ⟨(h.rows id event hevent).retried, event, hevent, rfl⟩

theorem counted_replace_of_failed {others : List OutboxCall} (h : FailuresCounted s)
    (hid : ∀ other, call.isWorkerOn other = true → other = id)
    (hothers : ∀ other ∈ others, CallCounted (s.countFailure id) other) :
    FailuresCounted ((s.countFailure id).replace call others) := by
  refine counted_replace (counted_countFailure h) hothers fun other hon event hevent _ => .inr ?_
  obtain rfl := hid other hon
  simpa [Outbox.countFailure] using (h.rows other event hevent).retried

theorem counted_replace_of_settled {others : List OutboxCall} (h : FailuresCounted s)
    (hothers : ∀ other ∈ others, CallCounted s other)
    (hsettled : ∀ id, call.isWorkerOn id = true → ∀ event ∈ s.events id, event.status ≠ .processing)
    : FailuresCounted (s.replace call others) :=
  counted_replace h hothers fun id hon event hevent hprocessing =>
    absurd hprocessing (hsettled id hon event hevent)

theorem FailuresCounted.row_of_worker (h : FailuresCounted s) (hcall : call ∈ s.calls)
    (hon : call.isWorkerOn id = true) : ∃ event, event ∈ s.events id := by
  have hread := h.calls call hcall
  cases call with
  | candidate read fetchedAt => cases hon
  | claimed read =>
    obtain rfl : read.id = id := by simpa [OutboxCall.isWorkerOn] using hon
    obtain ⟨row, hrow, -⟩ := hread.2
    exact ⟨row, hrow⟩
  | dispatching read worker =>
    simp only [OutboxCall.isWorkerOn, decide_eq_true_eq] at hon
    obtain ⟨row, hrow, -⟩ := hread.1.2
    exact ⟨row, hon.2 ▸ hrow⟩
  | unsuccessful read => cases hon
  | recovering read => cases hon

theorem counted_beginDispatch (h : FailuresCounted s) (hread : ReadCounted s 0 read)
    : FailuresCounted (s.readClaimed read) := by
  obtain ⟨row, hrow, -⟩ := hread.2
  unfold Outbox.readClaimed
  split
  · rename_i hevent
    simp [hevent] at hrow
  · rename_i event hevent
    split_ifs with hpublished
    · refine counted_replace_of_settled h (List.forall_mem_nil _) fun id hon event' hevent' => ?_
      obtain rfl : read.id = id := by simpa [OutboxCall.isWorkerOn] using hon
      obtain rfl := Option.mem_unique hevent' hevent
      simp [hpublished]
    · refine counted_replace h ?_ fun id hon event' hevent' _ => .inl ?_
      · intro other hother
        obtain rfl := List.mem_singleton.mp hother
        refine ⟨readCounted_of_row h hevent, fun claimed hclaimed => ?_⟩
        obtain rfl := Option.mem_some_iff.mp hclaimed
        exact ⟨rfl, hread⟩
      · exact ⟨_, List.mem_singleton_self _, by simpa [OutboxCall.isWorkerOn] using hon⟩

theorem writeFailure_countFailure (read : ReadEvent) :
    (s.writeFailure read).countFailure read.id = (s.countFailure read.id).writeFailure read := by
  have hread : (s.countFailure read.id).events read.id = s.events read.id := rfl
  unfold Outbox.writeFailure Outbox.updateEvent
  rw [hread]
  cases s.events read.id <;> rfl

theorem not_processing_of_writeFailure :
    ∀ event ∈ (s.writeFailure read).events read.id, event.status ≠ .processing := by
  intro event hevent
  rcases mem_updateEvent.mp hevent with ⟨-, row, -, rfl⟩ | ⟨hother, -⟩
  · dsimp only [OutboxEvent.recordFailure]
    split <;> decide
  · exact absurd rfl hother

theorem counted_fail {worker : Option ReadEvent} {recorded : Bool} (h : FailuresCounted s)
    (hcall : CallCounted s (.dispatching read worker)) :
    FailuresCounted (((if recorded then s.writeFailure read else s).countFailure read.id).replace
      (.dispatching read worker) (worker.toList.map .unsuccessful)) := by
  have hid : ∀ other, (OutboxCall.dispatching read worker).isWorkerOn other = true →
      other = read.id := by
    intro other hon
    simp only [OutboxCall.isWorkerOn, decide_eq_true_eq] at hon
    exact hon.2.symm
  have hothers : ∀ other ∈ worker.toList.map OutboxCall.unsuccessful,
      CallCounted (s.countFailure read.id) other := by
    intro other hother
    obtain ⟨claimed, hclaimed, rfl⟩ := List.mem_map.mp hother
    obtain ⟨hsame, hcounted⟩ := hcall.2 claimed (Option.mem_toList.mp hclaimed)
    exact hcounted.next hsame
  cases recorded with
  | false => exact counted_replace_of_failed h hid hothers
  | true =>
    rw [if_pos rfl, writeFailure_countFailure]
    refine counted_replace_of_settled
      (counted_writeFailure (counted_countFailure h) (hcall.1.next rfl)) ?_ fun other hon => ?_
    · exact fun other hother =>
        (hothers other hother).remembered (remembers_updateEvent fun _ => rfl)
    · rw [hid other hon]
      exact not_processing_of_writeFailure

theorem counted_claim {fetchedAt : ℤ} (h : FailuresCounted s) (hread : ReadCounted s 0 read) :
    FailuresCounted ((s.updateEvent read.id fun event =>
      { event with status := .processing, updatedAt := s.now }).replace
        (.candidate read fetchedAt) [.claimed read]) := by
  have horder : ∀ f, (s.updateEvent read.id f).replace (.candidate read fetchedAt) [.claimed read] =
      (s.replace (.candidate read fetchedAt) [.claimed read]).updateEvent read.id f := by
    intro f
    have hread : (s.replace (.candidate read fetchedAt) [.claimed read]).events read.id =
        s.events read.id := rfl
    unfold Outbox.updateEvent
    rw [hread]
    cases s.events read.id <;> rfl
  rw [horder]
  refine counted_updateEvent (counted_replace_of_settled h ?_ nofun) (fun _ => rfl)
    (fun event hevent => ⟨(h.rows _ event hevent).retried, nofun⟩) fun _ _ _ => ?_
  · intro other hother
    obtain rfl := List.mem_singleton.mp hother
    exact hread
  · exact ⟨.claimed read, List.mem_append_left _ (List.mem_singleton_self _),
      by simp [OutboxCall.isWorkerOn]⟩

theorem counted_create {maxRetries : ℕ} (h : FailuresCounted s) (hfree : s.events id = none) :
    FailuresCounted (s.setEvent id ⟨.pending, 0, maxRetries, s.now⟩) := by
  refine ⟨fun other event hevent => ?_, fun other event hevent hprocessing => ?_,
    fun call hcall => ?_⟩
  · rcases mem_setEvent.mp hevent with ⟨-, rfl⟩ | ⟨-, hevent⟩
    · exact ⟨Nat.zero_le _, nofun⟩
    · exact h.rows other event hevent
  · rcases mem_setEvent.mp hevent with ⟨-, rfl⟩ | ⟨-, hevent⟩
    · cases hprocessing
    · exact h.lost other event hevent hprocessing
  · refine (h.calls call hcall).remembered ⟨fun _ => le_rfl, fun other event hevent => ?_⟩
    have hother : other ≠ id := by
      rintro rfl
      simp [hfree] at hevent
    exact ⟨event, mem_setEvent.mpr (.inr ⟨hother, hevent⟩), rfl⟩

theorem counted_publish {worker : Option ReadEvent} (h : FailuresCounted s) :
    FailuresCounted ((s.updateEvent read.id fun event =>
      { event with status := .published, updatedAt := s.now }).replace
        (.dispatching read worker) []) := by
  refine counted_replace_of_settled (counted_updateEvent h (fun _ => rfl) ?_ nofun)
    (List.forall_mem_nil _) fun id hon event hevent => ?_
  · exact fun event hevent => ⟨(h.rows _ event hevent).retried, nofun⟩
  · have hid : read.id = id := by
      simp only [OutboxCall.isWorkerOn, decide_eq_true_eq] at hon
      exact hon.2
    rcases mem_updateEvent.mp hevent with ⟨-, row, -, rfl⟩ | ⟨hother, -⟩
    · simp
    · exact absurd hid.symm hother

theorem counted_crash (h : FailuresCounted s) :
    FailuresCounted ((call.attempted.elim s s.countFailure).replace call []) := by
  cases call with
  | candidate read fetchedAt => exact counted_replace_of_settled h (List.forall_mem_nil _) nofun
  | claimed read =>
    refine counted_replace_of_failed h (fun other hon => ?_) (List.forall_mem_nil _)
    simpa [OutboxCall.isWorkerOn, eq_comm] using hon
  | dispatching read worker =>
    refine counted_replace_of_failed h (fun other hon => ?_) (List.forall_mem_nil _)
    simp only [OutboxCall.isWorkerOn, decide_eq_true_eq] at hon
    exact hon.2.symm
  | unsuccessful read => exact counted_replace_of_settled h (List.forall_mem_nil _) nofun
  | recovering read => exact counted_replace_of_settled h (List.forall_mem_nil _) nofun

theorem counted_findStale (h : FailuresCounted s) (hlost : OutboxCareful s (.findStale id)) :
    FailuresCounted (s.readRow id (OutboxEvent.isStale · s.now) .recovering) := by
  refine counted_readRow h fun event hevent hstale => ?_
  have hprocessing : event.status = .processing := by
    simp only [OutboxEvent.isStale, decide_eq_true_eq] at hstale
    exact hstale.1
  rcases h.lost id event hevent hprocessing with ⟨call, hmem, hon⟩ | hcounted
  · exact absurd hon (List.countP_eq_zero.mp (hlost event hevent hstale) call hmem)
  · exact ⟨hcounted, event, hevent, rfl⟩

theorem counted_of_step (s : Outbox) (action : OutboxAction) (h : FailuresCounted s)
    (hlost : OutboxCareful s action) : FailuresCounted (outboxStep s action) := by
  cases action with
  | create id maxRetries =>
    simp only [outboxStep]
    split_ifs with hfree
    · exact counted_create h hfree
    · exact h
  | dispatchDirectly id =>
    rw [outboxStep]
    exact counted_readRow h fun event hevent _ => ⟨readCounted_of_row h hevent, nofun⟩
  | fetch id =>
    rw [outboxStep]
    exact counted_readRow h fun event hevent _ => readCounted_of_row h hevent
  | claim read fetchedAt =>
    simp only [outboxStep]
    split_ifs with hmem hclaim
    · exact counted_claim h (h.calls _ hmem)
    · exact counted_replace_of_settled h (List.forall_mem_nil _) nofun
    · exact h
  | beginDispatch read =>
    simp only [outboxStep]
    split_ifs with hmem
    · exact counted_beginDispatch h (h.calls _ hmem)
    · exact h
  | failRead read =>
    simp only [outboxStep]
    split_ifs with hmem
    · refine counted_replace_of_failed h (fun other hon => ?_) fun other hother => ?_
      · simpa [OutboxCall.isWorkerOn, eq_comm] using hon
      · obtain rfl := List.mem_singleton.mp hother
        exact (show ReadCounted s 0 read from h.calls _ hmem).next rfl
    · exact h
  | publish read worker =>
    simp only [outboxStep]
    split_ifs with hmem
    · exact counted_publish h
    · exact h
  | fail read worker recorded =>
    rw [outboxStep]
    by_cases hmem : .dispatching read worker ∈ s.calls
    · rw [if_pos hmem]
      exact counted_fail h (h.calls _ hmem)
    · rwa [if_neg hmem]
  | recordUnexpected read =>
    simp only [outboxStep]
    split_ifs with hmem
    · exact counted_replace_of_settled (counted_writeFailure h (h.calls _ hmem))
        (List.forall_mem_nil _) nofun
    · exact h
  | findStale id => exact counted_findStale h hlost
  | recover read =>
    simp only [outboxStep]
    split_ifs with hmem
    · exact counted_replace_of_settled (counted_writeFailure h (h.calls _ hmem))
        (List.forall_mem_nil _) nofun
    · exact h
  | crash call =>
    simp only [outboxStep]
    split_ifs with hmem
    · exact counted_crash h
    · exact h
  | advance milliseconds => exact ⟨h.rows, h.lost, h.calls⟩

end Failures

/-! ## Held rows -/

section Held

variable {s s' : Outbox} {id : Id}

/-- Nobody can claim an event that a worker is at. -/
def HeldRows (s : Outbox) : Prop :=
  ∀ id, ∀ event ∈ s.events id, event.status = .pending ∨ event.status = .failed →
    s.calls.countP (OutboxCall.isWorkerOn id) = 0

theorem held_of_same_events (h : HeldRows s) (hevents : s'.events = s.events)
    (hworkers : NoNewWorkers s s') : HeldRows s' := by
  intro id event hevent hopen
  have hnobody := h id event (hevents ▸ hevent) hopen
  exact Nat.le_zero.mp (hnobody ▸ hworkers id)

theorem held_of_updateEvent {f : OutboxEvent → OutboxEvent} (h : HeldRows s)
    (hevents : s'.events = (s.updateEvent id f).events)
    (hf : ∀ event ∈ s.events id, (f event).status = .pending ∨ (f event).status = .failed →
      s'.calls.countP (OutboxCall.isWorkerOn id) = 0)
    (hworkers : ∀ other ≠ id, s'.calls.countP (OutboxCall.isWorkerOn other) ≤
      s.calls.countP (OutboxCall.isWorkerOn other)) : HeldRows s' := by
  intro other event' hevent' hopen
  rw [hevents, mem_updateEvent] at hevent'
  rcases hevent' with ⟨rfl, event, hevent, rfl⟩ | ⟨hother, hevent⟩
  · exact hf event hevent hopen
  · exact Nat.le_zero.mp (h other event' hevent hopen ▸ hworkers other hother)

variable {read : ReadEvent}

theorem held_writeFailure {call : OutboxCall} (h : HeldRows s)
    (hevents : s'.events = (s.writeFailure read).events)
    (hcount : ∀ id, s'.calls.countP (OutboxCall.isWorkerOn id) +
      [call].countP (OutboxCall.isWorkerOn id) = s.calls.countP (OutboxCall.isWorkerOn id))
    (halone : FailsAlone s read call) : HeldRows s' := by
  refine held_of_updateEvent h hevents (fun _ _ _ => ?_) fun other _ => ?_
  · have := hcount read.id
    have := halone.2
    omega
  · have := hcount other
    omega

theorem held_replace_writeFailure {call : OutboxCall} (h : HeldRows s) (hmem : call ∈ s.calls)
    (halone : FailsAlone s read call) : HeldRows ((s.writeFailure read).replace call []) := by
  refine held_writeFailure h rfl (fun id => ?_) halone
  rw [countP_replace (writeFailure_calls read) hmem, List.countP_nil, Nat.zero_add]

theorem held_fail {worker : Option ReadEvent} {recorded : Bool} (h : HeldRows s)
    (hcareful : OutboxCareful s (.fail read worker recorded)) :
    HeldRows (outboxStep s (.fail read worker recorded)) := by
  have hevents := events_of_step s (.fail read worker recorded)
  dsimp only at hevents
  split_ifs at hevents with hwritten
  · obtain ⟨hmem, rfl⟩ := hwritten
    refine held_writeFailure h hevents (fun id => ?_) (hcareful hmem rfl)
    have hothers :
        (worker.toList.map OutboxCall.unsuccessful).countP (OutboxCall.isWorkerOn id) = 0 := by
      cases worker <;> simp [OutboxCall.isWorkerOn]
    have hcalls : ((s.writeFailure read).countFailure read.id).calls = s.calls :=
      writeFailure_calls read
    have hcount : _ =
        (worker.toList.map OutboxCall.unsuccessful).countP (OutboxCall.isWorkerOn id) + _ :=
      countP_replace hcalls hmem (OutboxCall.isWorkerOn id)
    rw [outboxStep, if_pos hmem]
    rwa [hothers, Nat.zero_add] at hcount
  · exact held_of_same_events h hevents (noNewWorkers_of_step nofun)

theorem held_create {maxRetries : ℕ} (h : HeldRows s) (hrows : FailuresCounted s) :
    HeldRows (outboxStep s (.create id maxRetries)) := by
  have hworkers : NoNewWorkers s (outboxStep s (.create id maxRetries)) :=
    noNewWorkers_of_step nofun
  have hevents := events_of_step s (.create id maxRetries)
  dsimp only at hevents
  split_ifs at hevents with hfree
  · intro other event hevent hopen
    have hnobody : s.calls.countP (OutboxCall.isWorkerOn other) = 0 := by
      rw [hevents, mem_setEvent] at hevent
      rcases hevent with ⟨rfl, -⟩ | ⟨-, hevent⟩
      · refine List.countP_eq_zero.mpr fun call hcall hon => ?_
        obtain ⟨row, hrow⟩ := hrows.row_of_worker hcall hon
        simp [hfree] at hrow
      · exact h other event hevent hopen
    exact Nat.le_zero.mp (hnobody ▸ hworkers other)
  · exact held_of_same_events h hevents hworkers

theorem held_claim {fetchedAt : ℤ} (h : HeldRows s) :
    HeldRows (outboxStep s (.claim read fetchedAt)) := by
  have hevents := events_of_step s (.claim read fetchedAt)
  dsimp only at hevents
  split_ifs at hevents with hclaim
  · refine held_of_updateEvent h hevents (fun event _ => by simp) fun other hother => ?_
    rw [countP_claim hclaim.1 hclaim.2, if_neg hother.symm, Nat.add_zero]
  · exact held_of_same_events h hevents (noNewWorkers_of_lost_claim hclaim)

theorem held_publish {worker : Option ReadEvent} (h : HeldRows s) :
    HeldRows (outboxStep s (.publish read worker)) := by
  have hworkers : NoNewWorkers s (outboxStep s (.publish read worker)) := noNewWorkers_of_step nofun
  have hevents := events_of_step s (.publish read worker)
  dsimp only at hevents
  split_ifs at hevents with hmem
  · exact held_of_updateEvent h hevents (fun event _ => by simp) fun other _ => hworkers other
  · exact held_of_same_events h hevents hworkers

theorem held_of_step (s : Outbox) (action : OutboxAction) (h : HeldRows s)
    (hrows : FailuresCounted s)
    (hcareful : OutboxCareful s action) : HeldRows (outboxStep s action) := by
  have hevents := events_of_step s action
  cases action with
  | create id maxRetries => exact held_create h hrows
  | claim read fetchedAt => exact held_claim h
  | publish read worker => exact held_publish h
  | fail read worker recorded => exact held_fail h hcareful
  | recordUnexpected read =>
    simp only [outboxStep]
    split_ifs with hmem
    · exact held_replace_writeFailure h hmem (hcareful hmem)
    · exact h
  | recover read =>
    simp only [outboxStep]
    split_ifs with hmem
    · exact held_replace_writeFailure h hmem (hcareful hmem)
    · exact h
  | dispatchDirectly | fetch | findStale | beginDispatch | failRead | crash | advance =>
    exact held_of_same_events h hevents (noNewWorkers_of_step nofun)

theorem writtenRightly_of_careful {action : OutboxAction} (h : HeldRows s)
    (hcareful : OutboxCareful s action) : WrittenRightly s action := by
  cases action with
  | claim read fetchedAt =>
    intro _ hclaim
    simp only [Outbox.claimable, Option.any_eq_true, decide_eq_true_eq] at hclaim
    obtain ⟨-, event, hevent, hopen⟩ := hclaim
    exact h read.id event hevent hopen
  | fail read worker recorded => exact fun hmem hrecorded => (hcareful hmem hrecorded).1
  | recordUnexpected read => exact fun hmem => (hcareful hmem).1
  | recover read => exact fun hmem => (hcareful hmem).1
  | create | dispatchDirectly | fetch | beginDispatch | failRead | publish | findStale | crash
  | advance =>
    trivial

end Held

/-! ## Runs -/

section OutboxRuns

variable {now : ℤ} {actions : List OutboxAction}

theorem law_of_opened (now : ℤ) : OutboxLaw (Outbox.opened now) :=
  ⟨nofun, fun _ => Nat.zero_le _⟩

theorem outbox_law_iff : (Everywhere outboxStep OutboxLaw (.opened now) actions ∧
    Along outboxStep StaysPublished (.opened now) actions) ↔
      Along outboxStep WrittenRightly (.opened now) actions :=
  everywhere_and_along_iff (I := fun _ => True) (fun _ _ _ => trivial)
    (fun s action _ _ hlaw => law_iff_of_step s action hlaw) trivial (law_of_opened now)

theorem careful_step (s : Outbox) (action : OutboxAction) (h : FailuresCounted s ∧ HeldRows s)
    (hcareful : OutboxCareful s action) :
    FailuresCounted (outboxStep s action) ∧ HeldRows (outboxStep s action) :=
  ⟨counted_of_step s action h.1 hcareful, held_of_step s action h.2 h.1 hcareful⟩

theorem careful_opened (now : ℤ) :
    FailuresCounted (Outbox.opened now) ∧ HeldRows (Outbox.opened now) :=
  ⟨⟨nofun, nofun, nofun⟩, nofun⟩

theorem outbox_right_of_careful (now : ℤ) (actions : List OutboxAction)
    (hcareful : Along outboxStep OutboxCareful (.opened now) actions) :
    OutboxRight (.opened now) actions := by
  have hrightly : Along outboxStep WrittenRightly (.opened now) actions :=
    hcareful.mono_of_invariant careful_step
      (fun s action h hcareful => writtenRightly_of_careful h.2 hcareful) (careful_opened now)
  obtain ⟨hlaw, hstays⟩ := outbox_law_iff.mpr hrightly
  refine ⟨hlaw, hstays, ?_⟩
  exact (hcareful.everywhere careful_step (careful_opened now)).mono
    fun s h id event hevent hdead => (h.1.rows id event hevent).dead hdead

/-- A worker fails once, and a second attempt is published. -/
theorem outbox_right_of_second_attempt :
    OutboxRight (.opened 0)
      [.create "e" 3, .fetch "e", .claim ⟨"e", .pending, 0, 3, 0⟩ 0,
        .beginDispatch ⟨"e", .pending, 0, 3, 0⟩,
        .fail ⟨"e", .processing, 0, 3, 0⟩ (some ⟨"e", .pending, 0, 3, 0⟩) true, .advance 2000,
        .fetch "e", .claim ⟨"e", .failed, 1, 3, 0⟩ 2000, .beginDispatch ⟨"e", .failed, 1, 3, 0⟩,
        .publish ⟨"e", .processing, 1, 3, 2000⟩ (some ⟨"e", .failed, 1, 3, 0⟩)] := by
  refine outbox_right_of_careful 0 _
    ⟨trivial, trivial, trivial, trivial, fun _ _ => ⟨fun event hevent => ?_, by decide⟩, trivial,
      trivial, trivial, trivial, trivial, trivial⟩
  obtain rfl : _ = event := Option.some_inj.mp hevent
  decide

/-- A direct dispatch has read the event before a worker publishes it; its handler fails then, and
it writes that over the publication. -/
theorem publication_undone :
    ¬ OutboxRight (.opened 0)
      [.create "e" 3, .dispatchDirectly "e", .fetch "e", .claim ⟨"e", .pending, 0, 3, 0⟩ 0,
        .beginDispatch ⟨"e", .pending, 0, 3, 0⟩,
        .publish ⟨"e", .processing, 0, 3, 0⟩ (some ⟨"e", .pending, 0, 3, 0⟩),
        .fail ⟨"e", .pending, 0, 3, 0⟩ none true] := by
  rintro ⟨-, ⟨-, -, -, -, -, -, hstays, -⟩, -⟩
  obtain ⟨event, hevent, hpublished⟩ := hstays "e" ⟨.published, 0, 3, 0⟩ (by decide) rfl
  have hfailed : _ = event := Option.some_inj.mp hevent
  subst hfailed
  revert hpublished
  decide

end OutboxRuns

end CarRental
