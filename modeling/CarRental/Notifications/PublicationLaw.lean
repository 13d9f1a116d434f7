import CarRental.Notifications.EventPublication

/-!
# Each event told once

The key of a notification names the type of the event, the booking and the recipient, and a
notification with the key is taken for that of the event, with all its deliveries.  So an event whose
type is told as a confirmation is taken for the confirmation of its booking, and a publish that has
stopped between two channels is not taken up again.  These are the only ways in which the law is
broken (`publication_law_iff`).
-/

namespace CarRental.Notifications

open KeyedRows PublicationDesk

variable {vendorUser : Id → Option Id} {s t : PublicationDesk} {call : DispatchCall} {id : Id}
  {recipientId : Id} {key : String}

/-! ## The law -/

/-- The key of the notification whose deliveries a call is writing. -/
def DispatchCall.deliveringKey (call : DispatchCall) : Option String :=
  match call.phase, call.recipients with
  | .delivering _ _, recipientId :: _ => some (publishKey call.row.event recipientId)
  | _, _ => none

def DispatchCall.remaining (call : DispatchCall) : List NotificationChannel :=
  match call.phase with
  | .delivering _ remaining => remaining
  | _ => []

/-- How often a call is still going to write the delivery. -/
def DispatchCall.pendingCount (key : String) (channel : NotificationChannel)
    (call : DispatchCall) : ℕ :=
  if call.deliveringKey = some key then call.remaining.count channel else 0

/-- The deliveries of a notification on a channel, with those that are still going to be written. -/
def covered (s : PublicationDesk) (key : String) (channel : NotificationChannel) : ℕ :=
  s.deliveries.countP (fun delivery => delivery.notification = key ∧ delivery.channel = channel) +
    (s.calls.map (DispatchCall.pendingCount key channel)).sum

/-- Each eligible channel of the notification has one delivery, or a call is about to write it. -/
def Whole (s : PublicationDesk) (notification : NotificationRow) : Prop :=
  ∀ channel, covered s notification.idempotencyKey channel =
    if channel ∈ notification.eligible then 1 else 0

/-- The notification with the key is that of the event for the recipient, and is whole. -/
def Notified (s : PublicationDesk) (id recipientId : Id) (key : String) : Prop :=
  ∃ notification ∈ s.notifications, notification.idempotencyKey = key ∧
    notification.origin = id ∧ notification.userId = recipientId ∧ Whole s notification

/-- `publishEvent` has returned for the event and the recipient. -/
def Answered (s : PublicationDesk) (id recipientId : Id) : Prop :=
  ∃ answer ∈ s.answers, answer.eventId = id ∧ answer.recipientId = recipientId

/-- An event has at most one notification for a recipient.  Where one is returned, it is that of the
event, with a delivery for each eligible channel; and an event that is published has been told to
each of its recipients, unless there was nobody to tell or a rule was against it. -/
structure PublicationLaw (vendorUser : Id → Option Id) (s : PublicationDesk) : Prop where
  once : ∀ id recipientId, s.notifications.countP (fun notification =>
    notification.origin = id ∧ notification.userId = recipientId) ≤ 1
  told : ∀ answer ∈ s.answers, ∀ key, answer.notification = some key →
    Notified s answer.eventId answer.recipientId key
  published : ∀ id row, s.events id = some row → row.status = .published →
    ∀ recipientId ∈ recipientsOf vendorUser row.event, Answered s id recipientId

/-! ## The condition -/

/-- The notification with the key has not been returned to anyone. -/
def Unread (s : PublicationDesk) (key : String) : Prop :=
  ∀ answer ∈ s.answers, answer.notification ≠ some key

/-- A call may stop here: it leaves no channel open of a notification that was returned. -/
def MayStop (s : PublicationDesk) (call : DispatchCall) : Prop :=
  ∀ key, call.deliveringKey = some key → call.remaining ≠ [] → Unread s key

/-- The delivery for the channel cannot be written. -/
def DeliveryFails (s : PublicationDesk) (call : DispatchCall) (written : Bool) : Prop :=
  ∀ user channel remaining recipientId rest, call.phase = .delivering user (channel :: remaining) →
    call.recipients = recipientId :: rest →
      written = false ∨ ∃ delivery ∈ s.deliveries, delivery.idempotencyKey =
        (deliveryRow (publishKey call.row.event recipientId) user recipientId channel).idempotencyKey

/-- What is found under the key of an event and a recipient is theirs and whole; and the call does
not stop on the way through the channels of a notification that was found. -/
def CallUndisturbed (s : PublicationDesk) (call : DispatchCall) : PublicationAction → Prop
  | .lookUp _ reads => ∀ recipientId rest, call.phase = .waiting →
      call.recipients = recipientId :: rest → reads.user ≠ none →
        s.hasNotification (publishKey call.row.event recipientId) = true →
          Notified s call.id recipientId (publishKey call.row.event recipientId)
  | .deliver _ written _ => DeliveryFails s call written → MayStop s call
  | .fail _ _ => MayStop s call
  | .crash _ => MayStop s call
  | _ => True

def Undisturbed (s : PublicationDesk) (action : PublicationAction) : Prop :=
  ∀ call ∈ s.calls, action.call? = some call → CallUndisturbed s call action

/-! ## What is kept of the tables and the calls -/

def DispatchCall.delivers (key : String) (call : DispatchCall) : Bool :=
  call.deliveringKey = some key

structure CallSound (vendorUser : Id → Option Id) (s : PublicationDesk) (call : DispatchCall) :
    Prop where
  read : ∃ row, s.events call.id = some row ∧ row.event = call.row.event
  answered : ∀ recipientId ∈ recipientsOf vendorUser call.row.event,
    recipientId ∈ call.recipients ∨ Answered s call.id recipientId
  distinct : ∀ user channels, call.phase = .creating user channels → channels.Nodup
  delivering : ∀ key, call.deliveringKey = some key →
    ∃ recipientId, call.recipients.head? = some recipientId ∧ Notified s call.id recipientId key

structure Sound (vendorUser : Id → Option Id) (s : PublicationDesk) : Prop where
  keys : (s.notifications.map NotificationRow.idempotencyKey).Nodup
  origins : ∀ notification ∈ s.notifications, ∃ row, s.events notification.origin = some row ∧
    notification.idempotencyKey = publishKey row.event notification.userId
  referenced : ∀ delivery ∈ s.deliveries, ∃ notification ∈ s.notifications,
    notification.idempotencyKey = delivery.notification
  single : ∀ key, s.calls.countP (DispatchCall.delivers key) ≤ 1
  calls : ∀ call ∈ s.calls, CallSound vendorUser s call
  published : ∀ id row, s.events id = some row → row.status = .published →
    ∀ recipientId ∈ recipientsOf vendorUser row.event, Answered s id recipientId

theorem Sound.once (h : Sound vendorUser s) (id recipientId : Id) :
    s.notifications.countP (fun notification =>
      notification.origin = id ∧ notification.userId = recipientId) ≤ 1 := by
  by_contra hmore
  obtain ⟨first, hfirst, hof⟩ := List.countP_pos_iff.mp (by omega :
    0 < s.notifications.countP fun notification =>
      notification.origin = id ∧ notification.userId = recipientId)
  simp only [decide_eq_true_eq] at hof
  have hle : s.notifications.countP (fun notification =>
      notification.origin = id ∧ notification.userId = recipientId) ≤
      s.notifications.countP fun notification =>
        notification.idempotencyKey = first.idempotencyKey ∧ true = true := by
    apply List.countP_mono_left
    intro second hsecond hof'
    simp only [decide_eq_true_eq] at hof'
    obtain ⟨row, hrow, hkey⟩ := h.origins first hfirst
    obtain ⟨row', hrow', hkey'⟩ := h.origins second hsecond
    rw [hof.1] at hrow
    rw [hof'.1, hrow] at hrow'
    cases hrow'
    simp [hkey, hkey', hof.2, hof'.2]
  have hone := @countP_key _ _ NotificationRow.idempotencyKey _ s.notifications first
    (fun _ => true) h.keys hfirst
  exact hmore (hle.trans hone.le)

theorem Sound.law_iff (h : Sound vendorUser s) : PublicationLaw vendorUser s ↔
    ∀ answer ∈ s.answers, ∀ key, answer.notification = some key →
      Notified s answer.eventId answer.recipientId key :=
  ⟨fun hlaw => hlaw.told, fun htold => ⟨h.once, htold, h.published⟩⟩

/-! ## Coverage -/

theorem covered_replace (hcall : call ∈ s.calls) (others : List DispatchCall) (key : String)
    (channel : NotificationChannel) :
    covered (s.replace call others) key channel + call.pendingCount key channel =
      covered s key channel + (others.map (DispatchCall.pendingCount key channel)).sum := by
  have hperm := ((List.perm_cons_erase hcall).map
    (DispatchCall.pendingCount key channel)).sum_eq
  rw [List.map_cons, List.sum_cons] at hperm
  simp only [covered, PublicationDesk.replace, List.map_append, List.sum_append]
  omega

theorem pendingCount_eq_zero (h : call.deliveringKey ≠ some key) (channel : NotificationChannel) :
    call.pendingCount key channel = 0 :=
  if_neg h

variable {others : List DispatchCall}

theorem covered_replace_idle (hcall : call ∈ s.calls) (hidle : call.deliveringKey ≠ some key)
    (hothers : ∀ other ∈ others, other.deliveringKey ≠ some key) (channel : NotificationChannel) :
    covered (s.replace call others) key channel = covered s key channel := by
  have hcovered := covered_replace hcall others key channel
  have hpending : (others.map (DispatchCall.pendingCount key channel)).sum = 0 := by
    rw [List.sum_eq_zero_iff]
    intro count hcount
    obtain ⟨other, hother, rfl⟩ := List.mem_map.mp hcount
    exact pendingCount_eq_zero (hothers other hother) channel
  rw [pendingCount_eq_zero hidle, hpending] at hcovered
  exact hcovered

theorem Notified.mono (h : Notified s id recipientId key)
    (hnotifications : s.notifications ⊆ t.notifications)
    (hcovered : ∀ channel, covered t key channel = covered s key channel) :
    Notified t id recipientId key := by
  obtain ⟨notification, hmem, rfl, horigin, huser, hwhole⟩ := h
  refine ⟨notification, hnotifications hmem, rfl, horigin, huser, fun channel => ?_⟩
  rw [hcovered channel]
  exact hwhole channel

theorem Answered.mono (h : Answered s id recipientId) (hanswers : s.answers ⊆ t.answers) :
    Answered t id recipientId := by
  obtain ⟨answer, hmem, hof⟩ := h
  exact ⟨answer, hanswers hmem, hof⟩

/-- The events are those they were, whatever their statuses. -/
def KeepsEvents (s t : PublicationDesk) : Prop :=
  ∀ id row, s.events id = some row → ∃ row', t.events id = some row' ∧ row'.event = row.event

theorem CallSound.mono (h : CallSound vendorUser s call) (hevents : KeepsEvents s t)
    (hanswers : s.answers ⊆ t.answers)
    (hnotified : ∀ key recipientId, call.deliveringKey = some key →
      Notified s call.id recipientId key → Notified t call.id recipientId key) :
    CallSound vendorUser t call := by
  constructor
  · obtain ⟨row, hrow, hevent⟩ := h.read
    obtain ⟨row', hrow', hevent'⟩ := hevents _ _ hrow
    exact ⟨row', hrow', hevent'.trans hevent⟩
  · intro recipientId hrecipient
    rcases h.answered recipientId hrecipient with hleft | hanswered
    · exact .inl hleft
    · exact .inr (hanswered.mono hanswers)
  · exact h.distinct
  · intro key hkey
    obtain ⟨recipientId, hhead, hof⟩ := h.delivering key hkey
    exact ⟨recipientId, hhead, hnotified key recipientId hkey hof⟩

/-! ## What the steps keep -/

theorem Sound.stepCall (h : Sound vendorUser s) (hevents : t.events = s.events)
    (hnotifications : t.notifications = s.notifications) (hanswers : t.answers = s.answers)
    (hcalls : t.calls = others ++ s.calls.erase call)
    (hreferenced : ∀ delivery ∈ t.deliveries, ∃ notification ∈ s.notifications,
      notification.idempotencyKey = delivery.notification)
    (hsingle : ∀ key, t.calls.countP (DispatchCall.delivers key) ≤ 1)
    (hcovered : ∀ other ∈ s.calls.erase call, ∀ key, other.deliveringKey = some key →
      ∀ channel, covered t key channel = covered s key channel)
    (hothers : ∀ other ∈ others, CallSound vendorUser t other) : Sound vendorUser t where
  keys := hnotifications ▸ h.keys
  origins := by
    rw [hnotifications, hevents]
    exact h.origins
  referenced := by
    rw [hnotifications]
    exact hreferenced
  single := hsingle
  calls := by
    intro other hother
    rw [hcalls, List.mem_append] at hother
    rcases hother with hnew | hold
    · exact hothers other hnew
    · apply (h.calls other (List.mem_of_mem_erase hold)).mono
      · intro id row hrow
        exact ⟨row, hevents ▸ hrow, rfl⟩
      · rw [hanswers]
        exact List.Subset.refl _
      · intro key recipientId hkey hnotified
        exact hnotified.mono (hnotifications ▸ List.Subset.refl _) (hcovered other hold key hkey)
  published := by
    intro id row hrow hpublished recipientId hrecipient
    rw [hevents] at hrow
    exact (h.published id row hrow hpublished recipientId hrecipient).mono
      (hanswers ▸ List.Subset.refl _)

theorem Sound.not_delivers (h : Sound vendorUser s) (hcall : call ∈ s.calls)
    (hkey : call.deliveringKey = some key) {other : DispatchCall}
    (hother : other ∈ s.calls.erase call) : other.deliveringKey ≠ some key := by
  intro hsame
  have hsingle := h.single key
  rw [(List.perm_cons_erase hcall).countP_eq, List.countP_cons,
    if_pos (by simp [DispatchCall.delivers, hkey])] at hsingle
  have hpos : 0 < (s.calls.erase call).countP (DispatchCall.delivers key) :=
    List.countP_pos_iff.mpr ⟨other, hother, by simp [DispatchCall.delivers, hsame]⟩
  omega

theorem countP_delivers_eq_zero {calls : List DispatchCall}
    (h : ∀ other ∈ calls, other.deliveringKey ≠ some key) :
    calls.countP (DispatchCall.delivers key) = 0 := by
  rw [List.countP_eq_zero]
  intro other hother
  simpa [DispatchCall.delivers] using h other hother

theorem countP_delivers_replace (hcall : call ∈ s.calls) (others : List DispatchCall)
    (key : String) :
    (s.replace call others).calls.countP (DispatchCall.delivers key) +
        [call].countP (DispatchCall.delivers key) =
      s.calls.countP (DispatchCall.delivers key) +
        others.countP (DispatchCall.delivers key) := by
  have hperm := (List.perm_cons_erase hcall).countP_eq (DispatchCall.delivers key)
  rw [← List.singleton_append, List.countP_append] at hperm
  simp only [PublicationDesk.replace, List.countP_append]
  omega

theorem Sound.replace (h : Sound vendorUser s) (hcall : call ∈ s.calls)
    (hothers : ∀ other ∈ others, other.deliveringKey = none)
    (hsound : ∀ other ∈ others, CallSound vendorUser s other) :
    Sound vendorUser (s.replace call others) := by
  apply h.stepCall (t := s.replace call others) rfl rfl rfl rfl h.referenced
  · intro key
    have hzero : others.countP (DispatchCall.delivers key) = 0 :=
      countP_delivers_eq_zero fun other hother => by simp [hothers other hother]
    have hcount := countP_delivers_replace hcall others key
    have hsingle := h.single key
    omega
  · intro other hother key hkey channel
    apply covered_replace_idle hcall
    · intro hsame
      exact h.not_delivers hcall hsame hother hkey
    · intro new hnew
      simp [hothers new hnew]
  · intro other hother
    apply (hsound other hother).mono (t := s.replace call others)
      (fun _ row hrow => ⟨row, hrow, rfl⟩) (List.Subset.refl _)
    intro key _ hkey
    rw [hothers other hother] at hkey
    cases hkey

theorem Sound.drop (h : Sound vendorUser s) (hcall : call ∈ s.calls) :
    Sound vendorUser (s.replace call []) :=
  h.replace hcall (List.forall_mem_nil _) (List.forall_mem_nil _)

theorem Sound.setRow {row : LifecycleRow} (h : Sound vendorUser s)
    (hevent : ∀ old, s.events id = some old → row.event = old.event)
    (hpublished : row.status = .published →
      ∀ recipientId ∈ recipientsOf vendorUser row.event, Answered s id recipientId) :
    Sound vendorUser (s.setRow id row) := by
  have hkeeps : KeepsEvents s (s.setRow id row) := by
    intro other old hold
    by_cases hsame : other = id
    · subst hsame
      exact ⟨row, by simp [PublicationDesk.setRow], hevent old hold⟩
    · exact ⟨old, by simp [PublicationDesk.setRow, hsame, hold], rfl⟩
  constructor
  · exact h.keys
  · intro notification hmem
    obtain ⟨old, hold, hkey⟩ := h.origins notification hmem
    obtain ⟨new, hnew, hsame⟩ := hkeeps _ _ hold
    exact ⟨new, hnew, hsame ▸ hkey⟩
  · exact h.referenced
  · exact h.single
  · intro other hother
    exact (h.calls other hother).mono hkeeps (List.Subset.refl _) fun _ _ _ hof => hof
  · intro other new hnew hstatus
    by_cases hsame : other = id
    · subst hsame
      simp only [PublicationDesk.setRow, Function.update_self, Option.some.injEq] at hnew
      subst hnew
      exact hpublished hstatus
    · simp only [PublicationDesk.setRow, ne_eq, hsame, not_false_eq_true,
        Function.update_of_ne] at hnew
      exact h.published other new hnew hstatus

theorem Sound.updateRow (h : Sound vendorUser s) (id : Id) {f : LifecycleRow → LifecycleRow}
    (hevent : ∀ row, (f row).event = row.event)
    (hpublished : ∀ row, s.events id = some row → (f row).status = .published →
      ∀ recipientId ∈ recipientsOf vendorUser row.event, Answered s id recipientId) :
    Sound vendorUser (s.updateRow id f) := by
  unfold PublicationDesk.updateRow
  cases hrow : s.events id with
  | none => exact h
  | some row =>
    apply h.setRow
    · intro old hold
      rw [hrow] at hold
      cases hold
      exact hevent row
    · rw [hevent row]
      exact hpublished row hrow

theorem updateRow_calls (id : Id) (f : LifecycleRow → LifecycleRow) :
    (s.updateRow id f).calls = s.calls := by
  unfold PublicationDesk.updateRow
  cases s.events id <;> rfl

theorem Sound.failCall (h : Sound vendorUser s) (hcall : call ∈ s.calls) (recorded : Bool) :
    Sound vendorUser (s.failCall call recorded) := by
  unfold PublicationDesk.failCall
  cases recorded with
  | false => exact h.drop hcall
  | true =>
    simp only [if_true]
    apply Sound.drop
    · apply h.updateRow
      · exact fun _ => rfl
      · intro row _ hstatus
        simp only at hstatus
        split at hstatus <;> cases hstatus
    · rw [updateRow_calls]
      exact hcall

theorem Sound.addAnswer (h : Sound vendorUser s) (answer : PublishAnswer) :
    Sound vendorUser { s with answers := answer :: s.answers } where
  keys := h.keys
  origins := h.origins
  referenced := h.referenced
  single := h.single
  calls := fun other hother => (h.calls other hother).mono
    (fun _ row hrow => ⟨row, hrow, rfl⟩) (List.subset_cons_self _ _) fun _ _ _ hof => hof
  published := fun id row hrow hstatus recipientId hrecipient =>
    (h.published id row hrow hstatus recipientId hrecipient).mono (List.subset_cons_self _ _)

/-- The call that has settled with a recipient. -/
def DispatchCall.next (call : DispatchCall) (rest : List Id) : DispatchCall :=
  { call with recipients := rest, phase := .waiting }

@[simp] theorem DispatchCall.next_deliveringKey (rest : List Id) :
    (call.next rest).deliveringKey = none := rfl

variable {rest : List Id}

theorem CallSound.next (h : CallSound vendorUser s call)
    (hrecipients : call.recipients = recipientId :: rest)
    (hanswered : Answered s call.id recipientId) : CallSound vendorUser s (call.next rest) := by
  refine ⟨h.read, ?_, ?_, ?_⟩
  · intro other hother
    rcases h.answered other hother with hleft | hanswered'
    · rw [hrecipients] at hleft
      rcases List.mem_cons.mp hleft with rfl | hrest
      · exact .inr hanswered
      · exact .inl hrest
    · exact .inr hanswered'
  · rintro user channels ⟨⟩
  · rintro key ⟨⟩

theorem Sound.settle (h : Sound vendorUser s) (hcall : call ∈ s.calls)
    (hrecipients : call.recipients = recipientId :: rest) (notification : Option String) :
    Sound vendorUser (s.settle call recipientId rest notification) := by
  have hanswered := h.addAnswer ⟨call.id, recipientId, notification⟩
  apply hanswered.replace hcall
  · simp [DispatchCall.deliveringKey]
  · intro other hother
    cases List.mem_singleton.mp hother
    exact (hanswered.calls call hcall).next hrecipients
      ⟨⟨call.id, recipientId, notification⟩, List.mem_cons_self .., rfl, rfl⟩

theorem hasNotification_eq_false : s.hasNotification key = false ↔
    key ∉ s.notifications.map NotificationRow.idempotencyKey := by
  simp [hasNotification]

theorem Sound.covered_fresh (h : Sound vendorUser s)
    (hfresh : key ∉ s.notifications.map NotificationRow.idempotencyKey)
    (channel : NotificationChannel) : covered s key channel = 0 := by
  have hcalls : (s.calls.map (DispatchCall.pendingCount key channel)).sum = 0 := by
    rw [List.sum_eq_zero_iff]
    intro count hcount
    obtain ⟨other, hother, rfl⟩ := List.mem_map.mp hcount
    apply pendingCount_eq_zero
    intro hkey
    obtain ⟨-, -, notification, hmem, hof, -⟩ := (h.calls other hother).delivering key hkey
    exact hfresh (hof ▸ List.mem_map_of_mem hmem)
  have hdeliveries : s.deliveries.countP (fun delivery =>
      delivery.notification = key ∧ delivery.channel = channel) = 0 := by
    rw [List.countP_eq_zero]
    intro delivery hdelivery hof
    simp only [decide_eq_true_eq] at hof
    obtain ⟨notification, hmem, hsame⟩ := h.referenced delivery hdelivery
    exact hfresh (hof.1 ▸ hsame ▸ List.mem_map_of_mem hmem)
  rw [covered, hcalls, hdeliveries]

theorem Sound.not_delivering (h : Sound vendorUser s)
    (hfresh : key ∉ s.notifications.map NotificationRow.idempotencyKey) {other : DispatchCall}
    (hother : other ∈ s.calls) : other.deliveringKey ≠ some key := by
  intro hkey
  obtain ⟨-, -, notification, hmem, hof, -⟩ := (h.calls other hother).delivering key hkey
  exact hfresh (hof ▸ List.mem_map_of_mem hmem)

theorem Sound.addNotification {notification : NotificationRow} (h : Sound vendorUser s)
    (hfresh : notification.idempotencyKey ∉ s.notifications.map NotificationRow.idempotencyKey)
    (horigin : ∃ row, s.events notification.origin = some row ∧
      notification.idempotencyKey = publishKey row.event notification.userId) :
    Sound vendorUser (s.addNotification notification) where
  keys := List.nodup_cons.mpr ⟨hfresh, h.keys⟩
  origins := by
    intro other hother
    rcases List.mem_cons.mp hother with rfl | hold
    · exact horigin
    · exact h.origins other hold
  referenced := by
    intro delivery hdelivery
    obtain ⟨other, hmem, hof⟩ := h.referenced delivery hdelivery
    exact ⟨other, List.mem_cons_of_mem _ hmem, hof⟩
  single := h.single
  calls := fun other hother => (h.calls other hother).mono
    (fun _ row hrow => ⟨row, hrow, rfl⟩) (List.Subset.refl _)
    fun _ _ _ hof => hof.mono (List.subset_cons_self _ _) fun _ => rfl
  published := h.published

/-- The call that writes the deliveries for the channels that are left. -/
def DispatchCall.deliver (call : DispatchCall) (user : User)
    (remaining : List NotificationChannel) : DispatchCall :=
  { call with phase := .delivering user remaining }

theorem DispatchCall.deliver_deliveringKey (user : User) (remaining : List NotificationChannel)
    (hrecipients : call.recipients = recipientId :: rest) :
    (call.deliver user remaining).deliveringKey =
      some (publishKey call.row.event recipientId) := by
  simp [DispatchCall.deliver, DispatchCall.deliveringKey, hrecipients]

theorem CallSound.deliver (h : CallSound vendorUser s call) (user : User)
    (remaining : List NotificationChannel) (hrecipients : call.recipients = recipientId :: rest)
    (hnotified : Notified s call.id recipientId (publishKey call.row.event recipientId)) :
    CallSound vendorUser s (call.deliver user remaining) := by
  refine ⟨h.read, h.answered, ?_, ?_⟩
  · rintro _ _ ⟨⟩
  · intro key hkey
    rw [DispatchCall.deliver_deliveringKey user remaining hrecipients] at hkey
    cases hkey
    exact ⟨recipientId, by simp [DispatchCall.deliver, hrecipients], hnotified⟩

theorem Sound.startDelivering {user : User} {notification : NotificationRow}
    (h : Sound vendorUser s) (hcall : call ∈ s.calls) (hidle : call.deliveringKey = none)
    (hrecipients : call.recipients = recipientId :: rest)
    (hkey : notification.idempotencyKey = publishKey call.row.event recipientId)
    (horigin : notification.origin = call.id) (huser : notification.userId = recipientId)
    (hdistinct : notification.eligible.Nodup)
    (hfresh : notification.idempotencyKey ∉ s.notifications.map NotificationRow.idempotencyKey) :
    Sound vendorUser ((s.addNotification notification).replace call
      [call.deliver user notification.eligible]) := by
  obtain ⟨row, hrow, hevent⟩ := (h.calls call hcall).read
  have hadded : Sound vendorUser (s.addNotification notification) :=
    h.addNotification hfresh ⟨row, horigin ▸ hrow, by rw [hkey, hevent, huser]⟩
  have hdelivers := call.deliver_deliveringKey user notification.eligible hrecipients
  rw [← hkey] at hdelivers
  have hothers : ∀ other ∈ s.calls, other.deliveringKey ≠ some notification.idempotencyKey :=
    fun other hother => h.not_delivering hfresh hother
  have hwhole : Notified ((s.addNotification notification).replace call
      [call.deliver user notification.eligible]) call.id recipientId
        notification.idempotencyKey := by
    refine ⟨notification, List.mem_cons_self .., rfl, horigin, huser, fun channel => ?_⟩
    have hcovered := covered_replace (s := s.addNotification notification) hcall
      [call.deliver user notification.eligible] notification.idempotencyKey channel
    have hzero : covered (s.addNotification notification) notification.idempotencyKey channel = 0 :=
      h.covered_fresh hfresh channel
    rw [pendingCount_eq_zero (by simp [hidle]), hzero] at hcovered
    simp only [List.map_cons, List.map_nil, List.sum_cons, List.sum_nil,
      DispatchCall.pendingCount, hdelivers, if_true] at hcovered
    rw [← hdistinct.count]
    simpa [DispatchCall.deliver, DispatchCall.remaining] using hcovered
  apply hadded.stepCall (t := (s.addNotification notification).replace call
    [call.deliver user notification.eligible]) rfl rfl rfl rfl hadded.referenced
  · intro key
    have hcount := countP_delivers_replace (s := s.addNotification notification) hcall
      [call.deliver user notification.eligible] key
    by_cases hsame : key = notification.idempotencyKey
    · subst hsame
      have hzero : (s.addNotification notification).calls.countP
          (DispatchCall.delivers notification.idempotencyKey) = 0 := countP_delivers_eq_zero hothers
      have hle := @List.countP_le_length _ (DispatchCall.delivers notification.idempotencyKey)
        [call.deliver user notification.eligible]
      rw [List.length_singleton] at hle
      omega
    · have hnot : [call.deliver user notification.eligible].countP
          (DispatchCall.delivers key) = 0 := by
        apply countP_delivers_eq_zero
        intro other hother
        rw [List.mem_singleton.mp hother, hdelivers, ne_eq, Option.some.injEq]
        exact fun hof => hsame hof.symm
      have hsingle := hadded.single key
      omega
  · intro other hother key hkey' channel
    apply covered_replace_idle hcall (by simp [hidle])
    intro new hnew
    cases List.mem_singleton.mp hnew
    rw [hdelivers]
    intro hsame
    exact hothers other (List.mem_of_mem_erase hother) (hkey'.trans hsame.symm)
  · intro other hother
    cases List.mem_singleton.mp hother
    have hcallSound : CallSound vendorUser ((s.addNotification notification).replace call
        [call.deliver user notification.eligible]) call :=
      (hadded.calls call hcall).mono (fun _ row hrow => ⟨row, hrow, rfl⟩) (List.Subset.refl _)
        (by
          intro key _ hkey'
          rw [hidle] at hkey'
          cases hkey')
    exact hcallSound.deliver user notification.eligible hrecipients (hkey ▸ hwhole)

theorem covered_deliver (hcall : call ∈ s.calls) {next : DispatchCall} {delivery : DeliveryRow}
    (hcount : ∀ key channel, next.pendingCount key channel +
      (if delivery.notification = key ∧ delivery.channel = channel then 1 else 0) =
        call.pendingCount key channel) (key : String) (channel : NotificationChannel) :
    covered ((s.addDelivery delivery).replace call [next]) key channel = covered s key channel := by
  have hcovered := covered_replace (s := s.addDelivery delivery) hcall [next] key channel
  have hadded : covered (s.addDelivery delivery) key channel = covered s key channel +
      if delivery.notification = key ∧ delivery.channel = channel then 1 else 0 := by
    simp only [covered, PublicationDesk.addDelivery, List.countP_cons, decide_eq_true_eq]
    omega
  have hcount := hcount key channel
  simp only [List.map_cons, List.map_nil, List.sum_cons, List.sum_nil, hadded] at hcovered
  omega

theorem Sound.deliver {next : DispatchCall} {delivery : DeliveryRow} (h : Sound vendorUser s)
    (hcall : call ∈ s.calls) (hdelivering : call.deliveringKey = some delivery.notification)
    (hcount : ∀ key channel, next.pendingCount key channel +
      (if delivery.notification = key ∧ delivery.channel = channel then 1 else 0) =
        call.pendingCount key channel)
    (hnext : ∀ key, next.deliveringKey = some key → call.deliveringKey = some key)
    (hsound : CallSound vendorUser s next) :
    Sound vendorUser ((s.addDelivery delivery).replace call [next]) := by
  have hcovered := covered_deliver hcall hcount
  obtain ⟨-, -, notification, hmem, hof, -⟩ := (h.calls call hcall).delivering _ hdelivering
  apply h.stepCall (t := (s.addDelivery delivery).replace call [next]) rfl rfl rfl rfl
  · intro other hother
    rcases List.mem_cons.mp hother with rfl | hold
    · exact ⟨notification, hmem, hof⟩
    · exact h.referenced other hold
  · intro key
    have hle : [next].countP (DispatchCall.delivers key) ≤
        [call].countP (DispatchCall.delivers key) := by
      simp only [List.countP_singleton, DispatchCall.delivers, decide_eq_true_eq]
      by_cases hkey : next.deliveringKey = some key
      · simp [hkey, hnext key hkey]
      · simp [hkey]
    have hcount := countP_delivers_replace (s := s.addDelivery delivery) hcall [next] key
    have hsingle : (s.addDelivery delivery).calls.countP (DispatchCall.delivers key) ≤ 1 :=
      h.single key
    omega
  · intro _ _ key _ channel
    exact hcovered key channel
  · intro other hother
    cases List.mem_singleton.mp hother
    apply hsound.mono (t := (s.addDelivery delivery).replace call [next])
      (fun _ row hrow => ⟨row, hrow, rfl⟩) (List.Subset.refl _)
    intro key _ _ hnotified
    exact hnotified.mono (List.Subset.refl _) (hcovered key)

/-! ## The steps -/

section Steps

variable {rest : List Id} {user : User}

theorem pendingCount_next (key : String) (channel : NotificationChannel) :
    (call.next rest).pendingCount key channel = 0 :=
  pendingCount_eq_zero (by simp) channel

variable {remaining : List NotificationChannel}

theorem pendingCount_delivering (hphase : call.phase = .delivering user remaining)
    (hrecipients : call.recipients = recipientId :: rest) (key : String)
    (channel : NotificationChannel) :
    call.pendingCount key channel =
      if publishKey call.row.event recipientId = key then remaining.count channel else 0 := by
  simp [DispatchCall.pendingCount, DispatchCall.deliveringKey, DispatchCall.remaining, hphase,
    hrecipients]

theorem pendingCount_deliver (hrecipients : call.recipients = recipientId :: rest) (user : User)
    (remaining : List NotificationChannel) (key : String) (channel : NotificationChannel) :
    (call.deliver user remaining).pendingCount key channel =
      if publishKey call.row.event recipientId = key then remaining.count channel else 0 := by
  rw [DispatchCall.pendingCount,
    DispatchCall.deliver_deliveringKey user remaining hrecipients]
  simp [DispatchCall.deliver, DispatchCall.remaining]

variable {channel : NotificationChannel}

theorem count_last (hphase : call.phase = .delivering user [channel])
    (hrecipients : call.recipients = recipientId :: rest) (key : String)
    (other : NotificationChannel) :
    let row := deliveryRow (publishKey call.row.event recipientId) user recipientId channel
    (call.next rest).pendingCount key other +
      (if row.notification = key ∧ row.channel = other then 1 else 0) =
        call.pendingCount key other := by
  rw [pendingCount_next, pendingCount_delivering hphase hrecipients, List.count_singleton]
  by_cases hkey : publishKey call.row.event recipientId = key
  · simp [deliveryRow, hkey]
  · simp [deliveryRow, hkey]

theorem count_deliver (hphase : call.phase = .delivering user (channel :: remaining))
    (hrecipients : call.recipients = recipientId :: rest) (key : String)
    (other : NotificationChannel) :
    let row := deliveryRow (publishKey call.row.event recipientId) user recipientId channel
    (call.deliver user remaining).pendingCount key other +
      (if row.notification = key ∧ row.channel = other then 1 else 0) =
        call.pendingCount key other := by
  rw [pendingCount_deliver hrecipients, pendingCount_delivering hphase hrecipients]
  by_cases hkey : publishKey call.row.event recipientId = key
  · simp [deliveryRow, List.count_cons, hkey]
  · simp [deliveryRow, hkey]

theorem Sound.lookUp (h : Sound vendorUser s) (hcall : call ∈ s.calls)
    (hrecipients : call.recipients = recipientId :: rest) (reads : PublishReads) :
    Sound vendorUser (s.lookUp call recipientId rest reads) := by
  unfold PublicationDesk.lookUp
  split
  · exact h.settle hcall hrecipients none
  · simp only
    split
    · exact h.settle hcall hrecipients _
    · split
      · exact h.settle hcall hrecipients none
      · apply h.replace hcall
        · simp [DispatchCall.deliveringKey]
        · intro other hother
          cases List.mem_singleton.mp hother
          have hcallSound := h.calls call hcall
          refine ⟨hcallSound.read, hcallSound.answered, ?_, ?_⟩
          · rintro _ _ ⟨⟩
            exact channelsToDispatch_nodup rfl reads _
          · rintro key ⟨⟩

theorem Sound.create {channels : List NotificationChannel} (h : Sound vendorUser s)
    (hcall : call ∈ s.calls) (hphase : call.phase = .creating user channels)
    (hrecipients : call.recipients = recipientId :: rest) (written recorded : Bool) :
    Sound vendorUser (s.create call recipientId rest user channels written recorded) := by
  unfold PublicationDesk.create
  simp only
  split
  · rename_i hwritten
    have hfresh := hasNotification_eq_false.mp hwritten.2
    unfold PublicationDesk.goOn
    split
    · obtain ⟨row, hrow, hevent⟩ := (h.calls call hcall).read
      refine (h.addNotification hfresh ⟨row, hrow, ?_⟩).settle hcall hrecipients _
      rw [hevent]
      rfl
    · apply h.startDelivering hcall _ hrecipients rfl rfl rfl _ hfresh
      · simp [DispatchCall.deliveringKey, hphase]
      · exact (h.calls call hcall).distinct user channels hphase
  · exact h.failCall hcall recorded

theorem Sound.deliverNext (h : Sound vendorUser s) (hcall : call ∈ s.calls)
    (hphase : call.phase = .delivering user (channel :: remaining))
    (hrecipients : call.recipients = recipientId :: rest) (written recorded : Bool) :
    Sound vendorUser
      (s.deliver call recipientId rest user channel remaining written recorded) := by
  unfold PublicationDesk.deliver
  simp only
  split
  · unfold PublicationDesk.goOn
    have hdelivering : call.deliveringKey = some (publishKey call.row.event recipientId) := by
      simp [DispatchCall.deliveringKey, hphase, hrecipients]
    obtain ⟨other, hhead, hnotified⟩ := (h.calls call hcall).delivering _ hdelivering
    rw [hrecipients, List.head?_cons, Option.some.injEq] at hhead
    subst hhead
    split
    · rename_i hnone
      subst hnone
      have hanswered := h.addAnswer
        ⟨call.id, recipientId, some (publishKey call.row.event recipientId)⟩
      apply hanswered.deliver hcall hdelivering (count_last hphase hrecipients) _
        ((hanswered.calls call hcall).next hrecipients
          ⟨_, List.mem_cons_self .., rfl, rfl⟩)
      rintro key ⟨⟩
    · apply h.deliver hcall hdelivering (count_deliver hphase hrecipients) _
        ((h.calls call hcall).deliver user remaining hrecipients hnotified)
      · intro key hkey
        rw [DispatchCall.deliver_deliveringKey user remaining hrecipients] at hkey
        exact hdelivering.trans hkey
  · exact h.failCall hcall recorded

theorem Sound.markPublished (h : Sound vendorUser s) (hcall : call ∈ s.calls)
    (hrecipients : call.recipients = []) (written recorded : Bool) :
    Sound vendorUser (s.markPublished call written recorded) := by
  unfold PublicationDesk.markPublished
  cases written with
  | false => exact h.failCall hcall recorded
  | true =>
    simp only [if_true]
    apply Sound.drop
    · apply h.updateRow
      · exact fun _ => rfl
      · intro row hrow _ recipientId hrecipient
        have hcallSound := h.calls call hcall
        obtain ⟨read, hread, hevent⟩ := hcallSound.read
        rw [hrow] at hread
        cases hread
        rcases hcallSound.answered recipientId (hevent ▸ hrecipient) with hleft | hanswered
        · rw [hrecipients] at hleft
          cases hleft
        · exact hanswered
    · rw [updateRow_calls]
      exact hcall

theorem covered_addCall (hidle : call.deliveringKey = none) (key : String)
    (channel : NotificationChannel) :
    covered (s.addCall call) key channel = covered s key channel := by
  simp [covered, PublicationDesk.addCall, DispatchCall.pendingCount, hidle]

theorem Sound.beginDispatch (h : Sound vendorUser s) (id : Id) :
    Sound vendorUser (s.beginDispatch vendorUser id) := by
  unfold PublicationDesk.beginDispatch
  cases hrow : s.events id with
  | none => exact h
  | some row =>
    simp only
    split
    · exact h
    · refine ⟨h.keys, h.origins, h.referenced, fun key => ?_, fun other hother => ?_,
        h.published⟩
      · have hsingle := h.single key
        simpa [PublicationDesk.addCall, DispatchCall.delivers, DispatchCall.deliveringKey]
          using hsingle
      · rcases List.mem_cons.mp hother with rfl | hold
        · refine ⟨⟨row, hrow, rfl⟩, fun _ hrecipient => .inl hrecipient, ?_, ?_⟩
          · rintro _ _ ⟨⟩
          · rintro _ ⟨⟩
        · apply (h.calls other hold).mono
            (t := s.addCall ⟨id, row, recipientsOf vendorUser row.event, .waiting⟩)
            (fun _ old hold => ⟨old, hold, rfl⟩) (List.Subset.refl _)
          intro key _ _ hnotified
          exact hnotified.mono (List.Subset.refl _) (covered_addCall rfl key)

theorem sound_callStep (h : Sound vendorUser s) (hcall : call ∈ s.calls)
    (action : PublicationAction) : Sound vendorUser (callStep s call action) := by
  unfold callStep
  split
  · split
    · rename_i hrecipients
      exact h.lookUp hcall hrecipients _
    · exact h
  · split
    · rename_i hphase hrecipients
      exact h.create hcall hphase hrecipients _ _
    · exact h
  · split
    · rename_i hphase hrecipients
      exact h.deliverNext hcall hphase hrecipients _ _
    · exact h
  · split
    · rename_i hrecipients
      exact h.markPublished hcall hrecipients _ _
    · exact h
  · exact h.failCall hcall _
  · exact h.drop hcall
  · exact h

theorem sound_publicationStep (s : PublicationDesk) (action : PublicationAction)
    (h : Sound vendorUser s) : Sound vendorUser (publicationStep vendorUser s action) := by
  unfold publicationStep
  split
  · split
    · rename_i hnone
      apply h.setRow
      · intro old hold
        rw [hnone] at hold
        cases hold
      · rintro ⟨⟩
    · exact h
  · split
    · exact h
    · rename_i hstatus
      apply h.updateRow
      · exact fun _ => rfl
      · exact fun _ _ hpublished => absurd hpublished hstatus
  · exact h.beginDispatch _
  · split
    · exact h
    · split
      · rename_i hcall
        exact sound_callStep h hcall action
      · exact h

end Steps

theorem sound_opened : Sound vendorUser opened where
  keys := List.nodup_nil
  origins := List.forall_mem_nil _
  referenced := List.forall_mem_nil _
  single := fun _ => Nat.zero_le 1
  calls := List.forall_mem_nil _
  published := by
    rintro _ _ ⟨⟩

/-! ## What the steps tell -/

/-- Where a notification was returned, it is that of the event and the recipient, and is whole. -/
def Told (s : PublicationDesk) : Prop :=
  ∀ answer ∈ s.answers, ∀ key, answer.notification = some key →
    Notified s answer.eventId answer.recipientId key

theorem Told.mono (h : Told s) (hanswers : t.answers = s.answers)
    (hnotifications : s.notifications ⊆ t.notifications)
    (hcovered : ∀ answer ∈ s.answers, ∀ key, answer.notification = some key →
      ∀ channel, covered t key channel = covered s key channel) : Told t := by
  intro answer hanswer key hkey
  rw [hanswers] at hanswer
  exact (h answer hanswer key hkey).mono hnotifications (hcovered answer hanswer key hkey)

theorem told_updateRow (id : Id) (f : LifecycleRow → LifecycleRow) :
    Told (s.updateRow id f) ↔ Told s := by
  unfold PublicationDesk.updateRow
  cases s.events id <;> exact Iff.rfl

theorem told_failCall (recorded : Bool) :
    Told (s.failCall call recorded) ↔ Told (s.replace call []) := by
  unfold PublicationDesk.failCall
  cases recorded with
  | false => exact Iff.rfl
  | true =>
    simp only [if_true]
    unfold PublicationDesk.updateRow
    cases s.events call.id <;> exact Iff.rfl

section Told

variable {rest : List Id} {user : User}

theorem told_drop_iff (h : Sound vendorUser s) (hcall : call ∈ s.calls) (htold : Told s) :
    Told (s.replace call []) ↔ MayStop s call := by
  have hcovered := covered_replace hcall []
  simp only [List.map_nil, List.sum_nil, Nat.add_zero] at hcovered
  constructor
  · intro htold' key hkey hremaining answer hanswer hnotification
    obtain ⟨second, hsecond, hof', -, -, hwhole'⟩ := htold' answer hanswer key hnotification
    obtain ⟨-, -, first, hfirst, hof, -, -, hwhole⟩ := (h.calls call hcall).delivering key hkey
    have hequal : second = first := eq_of_key_eq h.keys hsecond hfirst (hof'.trans hof.symm)
    subst hequal
    apply hremaining
    apply List.eq_nil_iff_forall_not_mem.mpr
    intro channel hchannel
    have hpending : call.pendingCount key channel = call.remaining.count channel := by
      rw [DispatchCall.pendingCount, if_pos hkey]
    have hpos := List.count_pos_iff.mpr hchannel
    have hbefore := hwhole channel
    have hafter := hwhole' channel
    rw [hof] at hbefore hafter
    have hsum := hcovered key channel
    omega
  · intro hstop
    apply htold.mono (t := s.replace call []) rfl (List.Subset.refl _)
    intro answer hanswer key hkey channel
    have hzero : call.pendingCount key channel = 0 := by
      by_cases hdelivers : call.deliveringKey = some key
      · by_cases hremaining : call.remaining = []
        · simp [DispatchCall.pendingCount, hremaining]
        · exact absurd hkey (hstop key hdelivers hremaining answer hanswer)
      · exact pendingCount_eq_zero hdelivers channel
    have hsum := hcovered key channel
    omega

theorem told_addAnswer_iff (htold : Told s) (answer : PublishAnswer) :
    Told { s with answers := answer :: s.answers } ↔
      ∀ key, answer.notification = some key →
        Notified s answer.eventId answer.recipientId key := by
  constructor
  · intro htold' key hkey
    exact htold' answer (List.mem_cons_self ..) key hkey
  · intro hnew other hother key hkey
    rcases List.mem_cons.mp hother with rfl | hold
    · exact hnew key hkey
    · exact htold other hold key hkey

theorem told_replace_idle {others : List DispatchCall} (hcall : call ∈ s.calls)
    (hidle : call.deliveringKey = none)
    (hothers : ∀ other ∈ others, other.deliveringKey = none) (htold : Told s) :
    Told (s.replace call others) := by
  apply htold.mono (t := s.replace call others) rfl (List.Subset.refl _)
  intro _ _ key _ channel
  apply covered_replace_idle hcall (by simp [hidle])
  intro other hother
  simp [hothers other hother]

theorem told_settle_iff (hcall : call ∈ s.calls) (hidle : call.deliveringKey = none)
    (htold : Told s) (notification : Option String) :
    Told (s.settle call recipientId rest notification) ↔
      ∀ key, notification = some key → Notified s call.id recipientId key := by
  have hothers : ∀ other ∈ [call.next rest], other.deliveringKey = none := by simp
  have hreplaced := told_replace_idle hcall hidle hothers htold
  rw [PublicationDesk.settle]
  refine (told_addAnswer_iff hreplaced ⟨call.id, recipientId, notification⟩).trans ?_
  apply forall_congr'
  intro key
  apply imp_congr_right
  intro _
  have hcovered : ∀ channel, covered (s.replace call [call.next rest]) key channel =
      covered s key channel :=
    covered_replace_idle hcall (by simp [hidle]) (by simp)
  constructor
  · exact fun hnotified => hnotified.mono (List.Subset.refl _) fun channel =>
      (hcovered channel).symm
  · exact fun hnotified => hnotified.mono (List.Subset.refl _) hcovered

theorem told_lookUp_iff (hcall : call ∈ s.calls) (hphase : call.phase = .waiting)
    (htold : Told s) (reads : PublishReads) :
    Told (s.lookUp call recipientId rest reads) ↔
      (reads.user ≠ none → s.hasNotification (publishKey call.row.event recipientId) = true →
        Notified s call.id recipientId (publishKey call.row.event recipientId)) := by
  have hidle : call.deliveringKey = none := by simp [DispatchCall.deliveringKey, hphase]
  unfold PublicationDesk.lookUp
  cases reads.user with
  | none => simp [told_settle_iff hcall hidle htold]
  | some user =>
    simp only
    cases hfound : s.hasNotification (publishKey call.row.event recipientId) with
    | true => simp [told_settle_iff hcall hidle htold]
    | false =>
      simp only [Bool.false_eq_true, if_false, false_imp_iff, implies_true, iff_true]
      split
      · simp [told_settle_iff hcall hidle htold]
      · apply told_replace_idle hcall hidle _ htold
        simp [DispatchCall.deliveringKey]

theorem told_create {channels : List NotificationChannel} (h : Sound vendorUser s)
    (hcall : call ∈ s.calls) (hphase : call.phase = .creating user channels)
    (hrecipients : call.recipients = recipientId :: rest) (htold : Told s)
    (written recorded : Bool) :
    Told (s.create call recipientId rest user channels written recorded) := by
  have hidle : call.deliveringKey = none := by simp [DispatchCall.deliveringKey, hphase]
  unfold PublicationDesk.create
  simp only
  split
  · rename_i hwritten
    have hfresh := hasNotification_eq_false.mp hwritten.2
    generalize hnotification : ({ userId := recipientId
                                  eventType := (publishDto call.row.event recipientId).eventType
                                  entityType := (publishDto call.row.event recipientId).entityType
                                  entityId := (publishDto call.row.event recipientId).entityId
                                  idempotencyKey := (publishDto call.row.event recipientId).key
                                  origin := call.id
                                  eligible := channels } : NotificationRow) = notification
    have hadded : Told (s.addNotification notification) :=
      htold.mono (t := s.addNotification notification) rfl (List.subset_cons_self _ _)
        fun _ _ _ _ _ => rfl
    unfold PublicationDesk.goOn
    split
    · rename_i hnone
      apply (told_settle_iff (s := s.addNotification notification) hcall hidle hadded _).mpr
      rintro key ⟨⟩
      subst hnotification
      refine ⟨_, List.mem_cons_self .., rfl, rfl, rfl, fun channel => ?_⟩
      have hzero := h.covered_fresh hfresh channel
      exact hzero.trans (by simp [hnone])
    · apply hadded.mono (t := (s.addNotification notification).replace call
        [call.deliver user channels]) rfl (List.Subset.refl _)
      intro answer hanswer key hkey channel
      apply covered_replace_idle hcall (by simp [hidle])
      intro other hother
      cases List.mem_singleton.mp hother
      obtain ⟨old, hold, hof, -⟩ := htold answer hanswer key hkey
      rw [DispatchCall.deliver_deliveringKey user channels hrecipients]
      intro hsame
      apply hfresh
      rw [show (publishDto call.row.event recipientId).key = key from Option.some.inj hsame, ← hof]
      exact List.mem_map_of_mem hold
  · rw [told_failCall, told_drop_iff h hcall htold]
    intro key hkey
    rw [hidle] at hkey
    cases hkey

theorem deliveryFails_iff {channel : NotificationChannel} {remaining : List NotificationChannel}
    (hphase : call.phase = .delivering user (channel :: remaining))
    (hrecipients : call.recipients = recipientId :: rest) {written : Bool} :
    DeliveryFails s call written ↔
      ¬ (written = true ∧ (s.deliveries.any (·.idempotencyKey =
        (deliveryRow (publishKey call.row.event recipientId) user recipientId
          channel).idempotencyKey)) = false) := by
  constructor
  · intro hfails hwritten
    rcases hfails user channel remaining recipientId rest hphase hrecipients with
      hnot | ⟨delivery, hdelivery, hof⟩
    · rw [hnot] at hwritten
      cases hwritten.1
    · have hany := List.any_eq_false.mp hwritten.2 delivery hdelivery
      simp [hof] at hany
  · intro hnot _ _ _ _ _ hphase' hrecipients'
    rw [hphase] at hphase'
    rw [hrecipients] at hrecipients'
    cases hphase'
    cases hrecipients'
    simpa [imp_iff_not_or] using hnot

theorem told_deliver_iff {channel : NotificationChannel} {remaining : List NotificationChannel}
    (h : Sound vendorUser s) (hcall : call ∈ s.calls)
    (hphase : call.phase = .delivering user (channel :: remaining))
    (hrecipients : call.recipients = recipientId :: rest) (htold : Told s)
    (written recorded : Bool) :
    Told (s.deliver call recipientId rest user channel remaining written recorded) ↔
      (DeliveryFails s call written → MayStop s call) := by
  have hdelivering : call.deliveringKey = some (publishKey call.row.event recipientId) := by
    simp [DispatchCall.deliveringKey, hphase, hrecipients]
  rw [deliveryFails_iff hphase hrecipients]
  unfold PublicationDesk.deliver
  simp only
  split
  · rename_i hwritten
    refine iff_of_true ?_ fun hnot => absurd hwritten hnot
    unfold PublicationDesk.goOn
    split
    · rename_i hnone
      subst hnone
      have hcovered := covered_deliver hcall (count_last hphase hrecipients)
      have hdelivered : Told ((s.addDelivery (deliveryRow (publishKey call.row.event recipientId)
          user recipientId channel)).replace call [call.next rest]) :=
        htold.mono (t := (s.addDelivery (deliveryRow (publishKey call.row.event recipientId) user
          recipientId channel)).replace call [call.next rest]) rfl (List.Subset.refl _)
          fun _ _ key _ => hcovered key
      apply (told_addAnswer_iff hdelivered
        ⟨call.id, recipientId, some (publishKey call.row.event recipientId)⟩).mpr
      rintro key ⟨⟩
      obtain ⟨other, hhead, hnotified⟩ := (h.calls call hcall).delivering _ hdelivering
      rw [hrecipients, List.head?_cons, Option.some.injEq] at hhead
      subst hhead
      exact hnotified.mono (List.Subset.refl _) (hcovered _)
    · have hcovered := covered_deliver hcall (count_deliver hphase hrecipients)
      exact htold.mono (t := (s.addDelivery (deliveryRow (publishKey call.row.event recipientId)
        user recipientId channel)).replace call [call.deliver user remaining]) rfl
        (List.Subset.refl _) fun _ _ key _ => hcovered key
  · rename_i hwritten
    rw [told_failCall, told_drop_iff h hcall htold]
    exact ⟨fun hstop _ => hstop, fun hstop => hstop hwritten⟩

theorem told_markPublished (h : Sound vendorUser s) (hcall : call ∈ s.calls)
    (hphase : call.phase = .waiting) (htold : Told s) (written recorded : Bool) :
    Told (s.markPublished call written recorded) := by
  have hidle : call.deliveringKey = none := by simp [DispatchCall.deliveringKey, hphase]
  have hstop : Told (s.replace call []) := by
    rw [told_drop_iff h hcall htold]
    intro key hkey
    rw [hidle] at hkey
    cases hkey
  unfold PublicationDesk.markPublished
  cases written with
  | false => exact (told_failCall recorded).mpr hstop
  | true =>
    simp only [if_true, PublicationDesk.updateRow]
    cases s.events call.id <;> exact hstop

end Told

theorem told_callStep_iff (h : Sound vendorUser s) (htold : Told s) (hcall : call ∈ s.calls)
    (action : PublicationAction) :
    Told (callStep s call action) ↔ CallUndisturbed s call action := by
  cases action with
  | lookUp _ reads =>
    simp only [callStep, CallUndisturbed]
    split
    · rename_i recipientId rest hphase hrecipients
      rw [told_lookUp_iff hcall hphase htold]
      simp [hphase, hrecipients]
    · rename_i hother
      exact iff_of_true htold fun recipientId rest hphase hrecipients =>
        absurd hrecipients (hother recipientId rest hphase)
  | create _ written recorded =>
    simp only [callStep, CallUndisturbed, iff_true]
    split
    · rename_i hphase hrecipients
      exact told_create h hcall hphase hrecipients htold written recorded
    · exact htold
  | deliver _ written recorded =>
    simp only [callStep, CallUndisturbed]
    split
    · rename_i hphase hrecipients
      exact told_deliver_iff h hcall hphase hrecipients htold written recorded
    · rename_i hother
      refine iff_of_true htold fun _ key hkey hremaining => ?_
      unfold DispatchCall.deliveringKey at hkey
      split at hkey
      · rename_i user remaining recipientId rest hphase hrecipients
        rw [DispatchCall.remaining, hphase] at hremaining
        obtain ⟨channel, left, rfl⟩ := List.exists_cons_of_ne_nil hremaining
        exact absurd hrecipients (hother user channel left recipientId rest hphase)
      · cases hkey
  | markPublished _ written recorded =>
    simp only [callStep, CallUndisturbed, iff_true]
    split
    · rename_i hphase _
      exact told_markPublished h hcall hphase htold written recorded
    · exact htold
  | fail _ recorded => exact (told_failCall recorded).trans (told_drop_iff h hcall htold)
  | crash _ => exact told_drop_iff h hcall htold
  | addEvent _ _ _ => exact iff_of_true htold trivial
  | setStatus _ _ => exact iff_of_true htold trivial
  | begin _ => exact iff_of_true htold trivial

theorem told_step_iff (h : Sound vendorUser s) (htold : Told s) (action : PublicationAction) :
    Told (publicationStep vendorUser s action) ↔ Undisturbed s action := by
  have hcalls : action.call? = none → Undisturbed s action := by
    intro hnone call _ hcall
    rw [hnone] at hcall
    cases hcall
  unfold publicationStep
  split
  · refine iff_of_true ?_ (hcalls rfl)
    split <;> exact htold
  · refine iff_of_true ?_ (hcalls rfl)
    split
    · exact htold
    · exact (told_updateRow _ _).mpr htold
  · refine iff_of_true ?_ (hcalls rfl)
    unfold PublicationDesk.beginDispatch
    split
    · exact htold
    · split
      · exact htold
      · exact htold.mono (t := s.addCall _) rfl (List.Subset.refl _) fun _ _ key _ =>
          covered_addCall rfl key
  · split
    · rename_i hnone
      exact iff_of_true htold (hcalls hnone)
    · rename_i call haction
      split
      · rename_i hcall
        rw [told_callStep_iff h htold hcall action]
        constructor
        · intro hundisturbed other _ hother
          rw [haction] at hother
          cases hother
          exact hundisturbed
        · exact fun hundisturbed => hundisturbed call hcall haction
      · rename_i hcall
        refine iff_of_true htold fun other hmem hother => ?_
        rw [haction] at hother
        cases hother
        exact absurd hmem hcall

theorem told_opened : Told opened :=
  List.forall_mem_nil _

/-- A run tells every event once exactly if it is not disturbed. -/
theorem publication_law_iff (vendorUser : Id → Option Id) (actions : List PublicationAction) :
    Runs.Everywhere (publicationStep vendorUser) (PublicationLaw vendorUser) opened actions ↔
      Runs.Along (publicationStep vendorUser) Undisturbed opened actions := by
  refine Runs.everywhere_iff_along_of_invariant sound_publicationStep ?_ sound_opened
    (sound_opened.law_iff.mpr told_opened)
  intro s action _ h hlaw
  rw [(sound_publicationStep s action h).law_iff]
  exact told_step_iff h (h.law_iff.mp hlaw) action

/-! ## An alert that is taken for the confirmation -/

def confirmation : LifecycleRow :=
  ⟨⟨"BOOKING_CONFIRMED", "booking", "vendor", some "customer"⟩, .pending, 0, 3⟩

def overdueAlert : LifecycleRow :=
  ⟨⟨"RENTAL_OVERDUE_ALERT", "booking", "vendor", some "customer"⟩, .pending, 0, 3⟩

/-- A customer without a telephone or a mail address, told in the app alone. -/
def inAppReads : PublishReads where
  user := some ⟨"customer", none, none, none⟩
  rule := some ⟨none, false, some [.inApp]⟩
  prefs := ⟨false, false, false, false, false, false, false⟩
  utcMinutes := 0

def publishing (id : Id) (row : LifecycleRow) (phase : PublishPhase) : DispatchCall :=
  ⟨id, row, ["customer"], phase⟩

/-- The confirmation is published to the customer, and then the alert. -/
def confirmedThenOverdue : List PublicationAction :=
  let customer : User := ⟨"customer", none, none, none⟩
  [.addEvent "confirmed" confirmation.event 3, .addEvent "overdue" overdueAlert.event 3,
    .begin "confirmed", .lookUp (publishing "confirmed" confirmation .waiting) inAppReads,
    .create (publishing "confirmed" confirmation (.creating customer [.inApp])) true true,
    .deliver (publishing "confirmed" confirmation (.delivering customer [.inApp])) true true,
    .begin "overdue", .lookUp (publishing "overdue" overdueAlert .waiting) inAppReads]

/-- The alert is told by the notification of the confirmation. -/
theorem alert_merged : ¬ Runs.Everywhere (publicationStep fun _ => none)
    (PublicationLaw fun _ => none) opened confirmedThenOverdue := by
  intro hlaw
  have hanswer : ⟨"overdue", "customer", some (publishKey overdueAlert.event "customer")⟩ ∈
      (Runs.run (publicationStep fun _ => none) opened confirmedThenOverdue).answers := by decide
  have horigins : (Runs.run (publicationStep fun _ => none) opened
      confirmedThenOverdue).notifications.map (·.origin) = ["confirmed"] := by decide
  obtain ⟨notification, hmem, -, horigin, -⟩ := hlaw.last.told _ hanswer _ rfl
  have hother := List.mem_map_of_mem (f := (·.origin)) hmem
  rw [horigins, horigin, List.mem_singleton] at hother
  exact absurd hother (by decide)

end CarRental.Notifications
