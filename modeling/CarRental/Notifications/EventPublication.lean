import CarRental.Bookings.OutboxWorker
import CarRental.Notifications.ChannelDispatch

/-!
# Publishing an outbox event

`BookingOutboxService.dispatchEvent`, which publishes an event to the customer and to the vendor, and
`NotificationOrchestratorService.publishEvent`, which writes a notification and then a delivery for
each channel.  Calls wait between their statements, and any number of them may dispatch one event,
so each statement is a step.  A call may end at any point without a further write (`crash`).

Of a notification it is counted apart which event it was written for, and which channels were
eligible then; and of each call of `publishEvent` what it returned.
-/

namespace CarRental.Notifications

/-! ## Publishing to a recipient -/

def NotificationChannel.value : NotificationChannel → String
  | .inApp => "IN_APP"
  | .push => "PUSH"
  | .sms => "SMS"
  | .whatsapp => "WHATSAPP"
  | .email => "EMAIL"

structure PublishOperationalEventDto where
  eventType : String
  recipientId : Id
  entityType : String
  entityId : String
  channels : Option (List NotificationChannel)
  isTransactional : Bool
  idempotencyKey : Option String

/-- `idempotencyKey` -/
def PublishOperationalEventDto.key (dto : PublishOperationalEventDto) : String :=
  (given dto.idempotencyKey).getD
    ("evt_" ++ dto.eventType ++ "_" ++ (given (some dto.entityId)).getD "none" ++ "_" ++
      dto.recipientId)

/-- A rule of the administrators for the type of the event. -/
structure NotificationRule where
  isEnabled : Option Bool
  quietHoursBypass : Bool
  channels : Option (List NotificationChannel)

structure NotificationPreference where
  promotionalPush : Bool
  operationalSms : Bool
  promotionalSms : Bool
  operationalWhatsApp : Bool
  promotionalWhatsApp : Bool
  operationalEmail : Bool
  promotionalEmail : Bool

/-- What `publishEvent` reads of the recipient and of the rules, and when. -/
structure PublishReads where
  user : Option User
  rule : Option NotificationRule
  prefs : NotificationPreference
  utcMinutes : ℕ

/-- Between 21:00 and 08:00 in India. -/
def isQuietHours (utcMinutes : ℕ) : Bool :=
  let istHour := (utcMinutes + 330) % 1440 / 60
  21 ≤ istHour || istHour < 8

def defaultChannels : List NotificationChannel := [.inApp, .push, .sms, .whatsapp, .email]

/-- The preferences, the contact details and the quiet hours leave the channel. -/
def channelEligible (isTransactional quietHours : Bool) (user : User)
    (prefs : NotificationPreference) : NotificationChannel → Bool
  | .inApp => true
  | .push => isTransactional || prefs.promotionalPush
  | .sms => (given user.phone).isSome && !quietHours &&
      if isTransactional then prefs.operationalSms else prefs.promotionalSms
  | .whatsapp => (given user.phone).isSome && !quietHours &&
      if isTransactional then prefs.operationalWhatsApp else prefs.promotionalWhatsApp
  | .email => (given user.email).isSome &&
      if isTransactional then prefs.operationalEmail else prefs.promotionalEmail

def channelsToDispatch (dto : PublishOperationalEventDto) (reads : PublishReads) (user : User) :
    List NotificationChannel :=
  let quietHoursBypass := match reads.rule with
    | none => dto.isTransactional
    | some rule => rule.quietHoursBypass
  let quietHours := isQuietHours reads.utcMinutes && !quietHoursBypass
  let candidateChannels := (dto.channels.getD defaultChannels).filter fun channel =>
    match reads.rule.bind (·.channels) with
    | none => true
    | some allowed => allowed.contains channel
  candidateChannels.filter (channelEligible dto.isTransactional quietHours user reads.prefs)

theorem channelsToDispatch_nodup {dto : PublishOperationalEventDto} (hdefault : dto.channels = none)
    (reads : PublishReads) (user : User) : (channelsToDispatch dto reads user).Nodup := by
  have hnodup : defaultChannels.Nodup := by decide
  simp only [channelsToDispatch, hdefault, Option.getD_none]
  exact (hnodup.filter _).filter _

/-! ## The tables -/

/-- What of an outbox event is never updated. -/
structure LifecycleEvent where
  eventType : String
  bookingId : Id
  tenantId : Id
  /-- `payload.customerId` -/
  customerId : Option Id
deriving DecidableEq, Repr

structure LifecycleRow where
  event : LifecycleEvent
  status : OutboxStatus
  retryCount : ℕ
  maxRetries : ℕ
deriving DecidableEq, Repr

structure NotificationRow where
  userId : Id
  eventType : String
  entityType : String
  entityId : String
  idempotencyKey : String
  origin : Id
  eligible : List NotificationChannel
deriving DecidableEq, Repr

/-- A delivery names its notification by the key of that. -/
structure DeliveryRow where
  notification : String
  channel : NotificationChannel
  status : NotificationStatus
  recipient : String
  provider : String
  idempotencyKey : String
deriving DecidableEq, Repr

def recipientTarget (user : User) (recipientId : Id) : NotificationChannel → String
  | .sms => (given user.phone).getD recipientId
  | .whatsapp => (given user.phone).getD recipientId
  | .email => (given user.email).getD recipientId
  | .inApp => recipientId
  | .push => recipientId

def NotificationChannel.provider : NotificationChannel → String
  | .push => "FCM"
  | .sms => "TWILIO"
  | .whatsapp => "META"
  | .email => "SMTP"
  | .inApp => "IN_APP"

def deliveryRow (key : String) (user : User) (recipientId : Id) (channel : NotificationChannel) :
    DeliveryRow where
  notification := key
  channel := channel
  status := if channel = .inApp then .delivered else .queued
  recipient := recipientTarget user recipientId channel
  provider := channel.provider
  idempotencyKey := key ++ "_" ++ channel.value

/-! ## Dispatching -/

/-- The types that the templates know; the others are told as a confirmation. -/
def mapToOperationalEventType (eventType : String) : String :=
  if eventType ∈ ["BOOKING_CREATED", "BOOKING_CONFIRMED", "BOOKING_CANCELLED", "HANDOVER_READY",
      "TRIP_STARTED", "RETURN_PENDING", "BOOKING_COMPLETED"] then eventType
  else "BOOKING_CONFIRMED"

/-- The vendor is told of milestones. -/
def isMilestone (eventType : String) : Bool :=
  ["BOOKING_CREATED", "BOOKING_CANCELLED", "RETURN_PENDING", "BOOKING_COMPLETED"].contains eventType

/-- Those that an event is published to, given the users of the vendors. -/
def recipientsOf (vendorUser : Id → Option Id) (event : LifecycleEvent) : List Id :=
  (given event.customerId).toList ++
    if isMilestone event.eventType then (given (vendorUser event.tenantId)).toList else []

def publishDto (event : LifecycleEvent) (recipientId : Id) : PublishOperationalEventDto where
  eventType := mapToOperationalEventType event.eventType
  recipientId := recipientId
  entityType := "BOOKING"
  entityId := event.bookingId
  channels := none
  isTransactional := true
  idempotencyKey := none

def publishKey (event : LifecycleEvent) (recipientId : Id) : String :=
  (publishDto event recipientId).key

inductive PublishPhase where
  | waiting
  /-- The key was looked up and not found. -/
  | creating (user : User) (channels : List NotificationChannel)
  | delivering (user : User) (remaining : List NotificationChannel)
deriving DecidableEq

/-- A call of `dispatchEvent`, with the recipients that have not been published to; it is publishing
to the first of them. -/
structure DispatchCall where
  id : Id
  row : LifecycleRow
  recipients : List Id
  phase : PublishPhase
deriving DecidableEq

/-- What a call of `publishEvent` returned: nothing, or a notification. -/
structure PublishAnswer where
  eventId : Id
  recipientId : Id
  notification : Option String
deriving DecidableEq, Repr

structure PublicationDesk where
  events : Id → Option LifecycleRow
  notifications : List NotificationRow
  deliveries : List DeliveryRow
  calls : List DispatchCall
  answers : List PublishAnswer

inductive PublicationAction where
  | addEvent (id : Id) (event : LifecycleEvent) (maxRetries : ℕ)
  /-- The other writes of the workers. -/
  | setStatus (id : Id) (status : OutboxStatus)
  | begin (id : Id)
  | lookUp (call : DispatchCall) (reads : PublishReads)
  /-- The write fails, unless it is `written`; so does that of the failure, unless `recorded`. -/
  | create (call : DispatchCall) (written recorded : Bool)
  | deliver (call : DispatchCall) (written recorded : Bool)
  | markPublished (call : DispatchCall) (written recorded : Bool)
  /-- A read fails. -/
  | fail (call : DispatchCall) (recorded : Bool)
  | crash (call : DispatchCall)

namespace PublicationDesk

def opened : PublicationDesk := ⟨fun _ => none, [], [], [], []⟩

def setRow (s : PublicationDesk) (id : Id) (row : LifecycleRow) : PublicationDesk :=
  { s with events := Function.update s.events id (some row) }

def updateRow (s : PublicationDesk) (id : Id) (f : LifecycleRow → LifecycleRow) :
    PublicationDesk :=
  match s.events id with
  | none => s
  | some row => s.setRow id (f row)

def addCall (s : PublicationDesk) (call : DispatchCall) : PublicationDesk :=
  { s with calls := call :: s.calls }

def replace (s : PublicationDesk) (call : DispatchCall) (others : List DispatchCall) :
    PublicationDesk :=
  { s with calls := others ++ s.calls.erase call }

def addNotification (s : PublicationDesk) (notification : NotificationRow) : PublicationDesk :=
  { s with notifications := notification :: s.notifications }

def addDelivery (s : PublicationDesk) (delivery : DeliveryRow) : PublicationDesk :=
  { s with deliveries := delivery :: s.deliveries }

/-- An exception ends a call, and is recorded if that write succeeds. -/
def failCall (s : PublicationDesk) (call : DispatchCall) (recorded : Bool) : PublicationDesk :=
  (if recorded then
    s.updateRow call.id fun row =>
      { row with
        status := if call.row.maxRetries ≤ call.row.retryCount + 1 then .deadLetter else .failed
        retryCount := call.row.retryCount + 1 }
  else s).replace call []

/-- `publishEvent` has returned, and the call turns to the next recipient. -/
def settle (s : PublicationDesk) (call : DispatchCall) (recipientId : Id) (rest : List Id)
    (notification : Option String) : PublicationDesk :=
  { s.replace call [{ call with recipients := rest, phase := .waiting }] with
    answers := ⟨call.id, recipientId, notification⟩ :: s.answers }

def hasNotification (s : PublicationDesk) (key : String) : Bool :=
  s.notifications.any (·.idempotencyKey = key)

/-- `publishEvent`, up to the notification. -/
def lookUp (s : PublicationDesk) (call : DispatchCall) (recipientId : Id) (rest : List Id)
    (reads : PublishReads) : PublicationDesk :=
  match reads.user with
  | none => s.settle call recipientId rest none
  | some user =>
    let key := publishKey call.row.event recipientId
    if s.hasNotification key then s.settle call recipientId rest (some key)
    else if reads.rule.any (·.isEnabled = some false) then s.settle call recipientId rest none
    else
      s.replace call [{ call with
        phase := .creating user
          (channelsToDispatch (publishDto call.row.event recipientId) reads user) }]

def goOn (s : PublicationDesk) (call : DispatchCall) (recipientId : Id) (rest : List Id)
    (user : User) (remaining : List NotificationChannel) : PublicationDesk :=
  if remaining = [] then
    s.settle call recipientId rest (some (publishKey call.row.event recipientId))
  else s.replace call [{ call with phase := .delivering user remaining }]

/-- The notification, unless its key is taken. -/
def create (s : PublicationDesk) (call : DispatchCall) (recipientId : Id) (rest : List Id)
    (user : User) (channels : List NotificationChannel) (written recorded : Bool) :
    PublicationDesk :=
  let dto := publishDto call.row.event recipientId
  if written = true ∧ s.hasNotification dto.key = false then
    (s.addNotification
      { userId := recipientId
        eventType := dto.eventType
        entityType := dto.entityType
        entityId := dto.entityId
        idempotencyKey := dto.key
        origin := call.id
        eligible := channels }).goOn call recipientId rest user channels
  else s.failCall call recorded

/-- The delivery for the next channel, unless its key is taken. -/
def deliver (s : PublicationDesk) (call : DispatchCall) (recipientId : Id) (rest : List Id)
    (user : User) (channel : NotificationChannel) (remaining : List NotificationChannel)
    (written recorded : Bool) : PublicationDesk :=
  let row := deliveryRow (publishKey call.row.event recipientId) user recipientId channel
  if written = true ∧ (s.deliveries.any (·.idempotencyKey = row.idempotencyKey)) = false then
    (s.addDelivery row).goOn call recipientId rest user remaining
  else s.failCall call recorded

/-- The event, once it has been published to all. -/
def markPublished (s : PublicationDesk) (call : DispatchCall) (written recorded : Bool) :
    PublicationDesk :=
  if written then
    (s.updateRow call.id fun row => { row with status := .published }).replace call []
  else s.failCall call recorded

/-- `dispatchEvent`, for an event that is not published. -/
def beginDispatch (s : PublicationDesk) (vendorUser : Id → Option Id) (id : Id) :
    PublicationDesk :=
  match s.events id with
  | none => s
  | some row =>
    if row.status = .published then s
    else s.addCall ⟨id, row, recipientsOf vendorUser row.event, .waiting⟩

end PublicationDesk

def callStep (s : PublicationDesk) (call : DispatchCall) : PublicationAction → PublicationDesk
  | .lookUp _ reads =>
    match call.phase, call.recipients with
    | .waiting, recipientId :: rest => s.lookUp call recipientId rest reads
    | _, _ => s
  | .create _ written recorded =>
    match call.phase, call.recipients with
    | .creating user channels, recipientId :: rest =>
      s.create call recipientId rest user channels written recorded
    | _, _ => s
  | .deliver _ written recorded =>
    match call.phase, call.recipients with
    | .delivering user (channel :: remaining), recipientId :: rest =>
      s.deliver call recipientId rest user channel remaining written recorded
    | _, _ => s
  | .markPublished _ written recorded =>
    match call.phase, call.recipients with
    | .waiting, [] => s.markPublished call written recorded
    | _, _ => s
  | .fail _ recorded => s.failCall call recorded
  | .crash _ => s.replace call []
  | _ => s

def PublicationAction.call? : PublicationAction → Option DispatchCall
  | .lookUp call _ | .create call _ _ | .deliver call _ _ | .markPublished call _ _ | .fail call _
  | .crash call => some call
  | _ => none

def publicationStep (vendorUser : Id → Option Id) (s : PublicationDesk)
    (action : PublicationAction) : PublicationDesk :=
  match action with
  | .addEvent id event maxRetries =>
    if s.events id = none then s.setRow id ⟨event, .pending, 0, maxRetries⟩ else s
  | .setStatus id status =>
    if status = .published then s else s.updateRow id fun row => { row with status := status }
  | .begin id => s.beginDispatch vendorUser id
  | _ =>
    match action.call? with
    | none => s
    | some call => if call ∈ s.calls then callStep s call action else s

end CarRental.Notifications
