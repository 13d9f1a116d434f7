import CarRental.Communications.Dispatcher

/-!
# Dispatching a notification delivery

`NotificationOrchestratorService.dispatchChannel` and the workers it leaves a delivery to when the
communication dispatcher is not there or throws.  Of each send it is also given whether a provider
has accepted the message.
-/

namespace CarRental.Notifications

open CarRental.Integrations CarRental.Communications

inductive NotificationChannel where
  | inApp
  | push
  | sms
  | whatsapp
  | email
deriving DecidableEq, Repr

inductive NotificationStatus where
  | pending
  | queued
  | sent
  | delivered
  | failed
  | skipped
  | deadLetter
deriving DecidableEq, Repr

structure NotificationDelivery where
  id : String
  status : NotificationStatus
  provider : Option String
  providerMessageId : Option String
  attemptCount : ℕ
  maxRetries : ℕ
  lastError : Option String
deriving DecidableEq

/-- The recipient, as far as a dispatch reads the row. -/
structure User where
  id : String
  name : Option String
  phone : Option String
  email : Option String
deriving DecidableEq

structure RenderedNotification where
  title : String
  body : String
  smsText : String
  emailSubject : String
  emailHtml : String
deriving DecidableEq

/-- A delivery that waits to be dispatched, as it is created or as `retryDelivery` resets it. -/
def NotificationDelivery.queue (delivery : NotificationDelivery) : NotificationDelivery :=
  { delivery with status := .queued, lastError := none }

/-! ## Workers -/

structure ProviderReply where
  success : Option Bool
  messageId : Option String
  error : Option String
  isTransient : Option Bool
deriving DecidableEq

/-- A send through such a provider: its reply, or the message of what it throws. -/
structure ProviderSend where
  reply : Except (Option String) ProviderReply
  accepted : Bool

def checkDeadLetterThreshold (isTransient : Bool) (delivery : NotificationDelivery) :
    NotificationDelivery :=
  if !isTransient || decide (delivery.maxRetries ≤ delivery.attemptCount) then
    { delivery with status := .deadLetter }
  else delivery

def recordDeliveryFailure (errorMessage : Option String) (delivery : NotificationDelivery) :
    NotificationDelivery :=
  let nextAttempt := delivery.attemptCount + 1
  { delivery with
    status := if delivery.maxRetries ≤ nextAttempt then .deadLetter else .failed
    attemptCount := nextAttempt
    lastError := some ((given errorMessage).getD "Channel delivery failed") }

/-- What a worker leaves, and whether it throws. -/
structure WorkerResult where
  delivery : NotificationDelivery
  threw : Bool
  accepted : Bool

/-- The workers: the delivery is marked by what the reply reports. -/
def executeDelivery (reports : ProviderReply → Bool) (isTransient : ProviderReply → Bool)
    (send : ProviderSend) (delivery : NotificationDelivery) : WorkerResult :=
  match send.reply with
  | .error message => ⟨recordDeliveryFailure message delivery, true, send.accepted⟩
  | .ok reply =>
    let updated :=
      { delivery with
        status := if reports reply then .delivered else .failed
        providerMessageId := given reply.messageId
        attemptCount := delivery.attemptCount + 1
        lastError := given reply.error }
    ⟨if reports reply then updated else checkDeadLetterThreshold (isTransient reply) updated,
      false, send.accepted⟩

/-- A push counts as sent unless its reply says that it is not. -/
def executePushDelivery : ProviderSend → NotificationDelivery → WorkerResult :=
  executeDelivery (fun reply => reply.success ≠ some false) fun _ => true

def executeSmsDelivery : ProviderSend → NotificationDelivery → WorkerResult :=
  executeDelivery (fun reply => reply.success = some true) fun reply =>
    reply.isTransient.getD true

def executeEmailDelivery : ProviderSend → NotificationDelivery → WorkerResult :=
  executeDelivery (fun reply => reply.success = some true) fun reply =>
    reply.isTransient.getD true

/-- One execution of a worker: of the runtime, if the worker asks it, and of its provider. -/
structure WorkerAttempt (Value : Type) where
  runtime : Option (RuntimeRun Value)
  send : ProviderSend

section Dispatch

variable {Value : Type}

/-- A provider has accepted the message in one of the calls. -/
def AcceptedIn (calls : List (Call Value)) : Bool :=
  calls.any fun call => call.invocation.executed

/-- The request of the WhatsApp worker to the runtime. -/
def whatsappRequest (deliveryId : String) : ExecutionRequest where
  category := .other "MESSAGING_WHATSAPP"
  capability := "SEND_TEMPLATE"
  tenantId := none
  idempotencyKey := some ("notif_wa_" ++ deliveryId)
  isIdempotent := true

/-- The runtime has sent the message, as far as its result says. -/
def runtimeSuccess (request : ExecutionRequest) (run : RuntimeRun Value) : Bool :=
  match run.outcome request with
  | .ok result => result.success
  | .error _ => false

/-- `executeWhatsAppDelivery`: the runtime first.  Without a provider to fall back to, the delivery
is left as it is. -/
def executeWhatsAppDelivery (whatsappProvider : Bool) (attempt : WorkerAttempt Value)
    (delivery : NotificationDelivery) : WorkerResult :=
  let request := whatsappRequest delivery.id
  let runtimeAccepted := attempt.runtime.any fun run => AcceptedIn (run.calls request)
  if attempt.runtime.any (runtimeSuccess request) then
    ⟨{ delivery with status := .delivered, attemptCount := delivery.attemptCount + 1 }, false,
      runtimeAccepted⟩
  else if !whatsappProvider then ⟨delivery, false, runtimeAccepted⟩
  else
    let sent := executeDelivery (fun reply => reply.success = some true) (fun _ => false)
      attempt.send delivery
    { sent with accepted := runtimeAccepted || sent.accepted }

def executeWorker (whatsappProvider : Bool) (channel : NotificationChannel)
    (attempt : WorkerAttempt Value) (delivery : NotificationDelivery) : WorkerResult :=
  match channel with
  | .inApp => ⟨delivery, false, false⟩
  | .push => executePushDelivery attempt.send delivery
  | .sms => executeSmsDelivery attempt.send delivery
  | .whatsapp => executeWhatsAppDelivery whatsappProvider attempt delivery
  | .email => executeEmailDelivery attempt.send delivery

/-- The executions of a job: the first one, and others as long as they throw.  A worker that is
called directly has the first one only. -/
def runWorker (whatsappProvider : Bool) (channel : NotificationChannel) :
    WorkerAttempt Value → List (WorkerAttempt Value) → NotificationDelivery → WorkerResult
  | attempt, [], delivery => executeWorker whatsappProvider channel attempt delivery
  | attempt, next :: rest, delivery =>
    let result := executeWorker whatsappProvider channel attempt delivery
    if result.threw then
      let later := runWorker whatsappProvider channel next rest result.delivery
      { later with accepted := result.accepted || later.accepted }
    else result

/-! ## The dispatch of a channel -/

/-- What the dispatcher makes of a request: what it asks of the system, and the two executions of
the runtime. -/
structure DispatcherRun (Value : Type) where
  world : DispatchWorld
  primary : RuntimeRun Value
  fallback : RuntimeRun Value

def DispatcherRun.dispatch (run : DispatcherRun Value) (request : CommunicationRequest) :
    Communications.Dispatch Value :=
  dispatchCommunication run.world request run.primary run.fallback

/-- What a dispatch meets: the registered devices, the dispatcher and the WhatsApp provider if they
are there, and the executions of the worker, directly or from the queue. -/
structure ChannelEnvironment (Value : Type) where
  deviceTokens : List String
  communicationDispatcher : Option (DispatcherRun Value)
  whatsappProvider : Bool
  worker : WorkerAttempt Value
  workerRetries : List (WorkerAttempt Value)

/-- The request that is made of a delivery. -/
def channelRequest (channel : NotificationChannel) (deviceTokens : List String)
    (deliveryId : String) (user : User) (rendered : RenderedNotification) :
    CommunicationRequest :=
  let name := some ((given user.name).getD "Customer")
  match channel with
  | .inApp | .push =>
    { channel := some .push
      messageType := .transactional
      priority := some .normal
      tenantId := none
      recipient := { id := some user.id, deviceTokens := deviceTokens }
      template := none
      directContent := some ⟨some rendered.title, some rendered.body, none⟩
      otpCode := none
      idempotencyKey := some ("notif_push_" ++ deliveryId) }
  | .sms =>
    { channel := some .sms
      messageType := .transactional
      priority := some .high
      tenantId := none
      recipient := { phone := user.phone, name := name }
      template := none
      directContent := some ⟨none, some rendered.smsText, none⟩
      otpCode := none
      idempotencyKey := some ("notif_sms_" ++ deliveryId) }
  | .whatsapp =>
    { channel := some .whatsapp
      messageType := .transactional
      priority := some .high
      tenantId := none
      recipient := { phone := user.phone, name := name }
      template := some
        { templateName := "booking_operational_alert"
          language := some "en"
          templateVariables := some [("param1", (given user.name).getD "Valued Customer"),
            ("param2", rendered.title), ("param3", rendered.body)]
          dltTemplateId := none }
      directContent := none
      otpCode := none
      idempotencyKey := some ("notif_wa_" ++ deliveryId) }
  | .email =>
    { channel := some .email
      messageType := .transactional
      priority := some .normal
      tenantId := none
      recipient := { email := user.email, name := name }
      template := none
      directContent := some
        ⟨some rendered.emailSubject, some rendered.smsText, some rendered.emailHtml⟩
      otpCode := none
      idempotencyKey := some ("notif_email_" ++ deliveryId) }

/-- The delivery once the dispatcher has answered. -/
def recordResponse (response : CommunicationResponse) (delivery : NotificationDelivery) :
    NotificationDelivery :=
  { delivery with
    status := if response.success then .delivered else .failed
    provider := some response.providerId
    providerMessageId := response.providerMessageId
    attemptCount := delivery.attemptCount + 1
    lastError := response.error }

def hasContact (channel : NotificationChannel) (user : User) : Bool :=
  match channel with
  | .inApp | .push => true
  | .sms | .whatsapp => (given user.phone).isSome
  | .email => (given user.email).isSome

/-- What the dispatch of a channel leaves, the response of the dispatcher if it has given one, and
whether a provider has accepted the message in it. -/
structure ChannelResult where
  delivery : NotificationDelivery
  response : Option CommunicationResponse
  accepted : Bool

def dispatchChannel (channel : NotificationChannel) (environment : ChannelEnvironment Value)
    (user : User) (rendered : RenderedNotification) (delivery : NotificationDelivery) :
    ChannelResult :=
  let request := channelRequest channel environment.deviceTokens delivery.id user rendered
  let worker := runWorker environment.whatsappProvider channel environment.worker
    environment.workerRetries delivery
  if channel = .inApp ∨ hasContact channel user = false then ⟨delivery, none, false⟩
  else
    match environment.communicationDispatcher with
    | none => ⟨worker.delivery, none, worker.accepted⟩
    | some run =>
      if channel = .push ∧ environment.deviceTokens = [] then
        ⟨{ delivery with
            status := .failed
            lastError := some "No active device tokens registered for recipient"
            attemptCount := delivery.attemptCount + 1 }, none, false⟩
      else
        let dispatch := run.dispatch request
        match dispatch.response with
        | .ok response =>
          ⟨recordResponse response delivery, some response, AcceptedIn dispatch.calls⟩
        | .error _ => ⟨worker.delivery, none, AcceptedIn dispatch.calls || worker.accepted⟩

end Dispatch

end CarRental.Notifications
