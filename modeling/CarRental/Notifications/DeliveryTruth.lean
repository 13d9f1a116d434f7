import CarRental.Notifications.ChannelDispatch

/-!
# What a delivery's status says

A dispatch takes a message for sent when the runtime returns, whatever its result is; so do the
workers for a reply that does not report a failure.  When that agrees with what the providers have
done is said in terms of the executions of the runtime and of the replies (`Honest`).
-/

namespace CarRental.Notifications

open CarRental.Integrations CarRental.Communications

variable {Value : Type}

/-! ## The law -/

/-- Success is only reported, and the delivery only marked DELIVERED, where a provider has accepted
the message; where none has, the delivery ends FAILED, which can be retried, or DEAD_LETTER. -/
structure ChannelResult.Truthful (result : ChannelResult) : Prop where
  success : ∀ response, result.response = some response → response.success = true →
    result.accepted = true
  delivered : result.delivery.status = .delivered → result.accepted = true
  ends : result.accepted = false →
    result.delivery.status = .failed ∨ result.delivery.status = .deadLetter

/-- The dispatch of a waiting delivery tells the truth about it.  What is shown in the app is sent
through no provider. -/
def DispatchTruthful (channel : NotificationChannel) (environment : ChannelEnvironment Value)
    (user : User) (rendered : RenderedNotification) (delivery : NotificationDelivery) : Prop :=
  channel ≠ .inApp →
    (dispatchChannel channel environment user rendered delivery.queue).Truthful

def RunAccepted (request : ExecutionRequest) (run : RuntimeRun Value) : Prop :=
  AcceptedIn (run.calls request) = true

/-- The execution of the runtime that decides the dispatch returns only after a provider has
accepted the message: the primary one where it returns, else the one for the candidate. -/
def ReturnsAccepted (request : CommunicationRequest) (prepared : PreparedDispatch)
    (primary fallback : RuntimeRun Value) : Prop :=
  let execution :=
    runtimeRequest request prepared.route.channel prepared.capability request.idempotencyKey
  match primary.outcome execution with
  | .ok _ => RunAccepted execution primary
  | .error primaryErr =>
    ∀ target, fallbackTarget prepared.route primaryErr = some target →
      let second := runtimeRequest request target.channel prepared.capability
        (fallbackKey request.idempotencyKey)
      ∀ result, fallback.outcome second = .ok result →
        RunAccepted execution primary ∨ RunAccepted second fallback

/-- The provider of the notification module is asked by the worker of a channel. -/
def AsksProvider (whatsappProvider : Bool) (channel : NotificationChannel) (deliveryId : String)
    (attempt : WorkerAttempt Value) : Bool :=
  match channel with
  | .inApp => false
  | .whatsapp =>
    !attempt.runtime.any (runtimeSuccess (whatsappRequest deliveryId)) && whatsappProvider
  | _ => true

/-- The reply, or its absence, says that the message was not sent. -/
def ReplyFails (channel : NotificationChannel) (send : ProviderSend) : Bool :=
  match send.reply with
  | .error _ => true
  | .ok reply =>
    if channel = .push then reply.success = some false else reply.success ≠ some true

/-- The execution of the worker fails for all to see. -/
def AttemptFails (whatsappProvider : Bool) (channel : NotificationChannel) (deliveryId : String)
    (attempt : WorkerAttempt Value) : Bool :=
  AsksProvider whatsappProvider channel deliveryId attempt && ReplyFails channel attempt.send

/-- A provider has accepted the message in the execution. -/
def AttemptAccepted (whatsappProvider : Bool) (channel : NotificationChannel) (deliveryId : String)
    (attempt : WorkerAttempt Value) : Bool :=
  (channel = .whatsapp &&
      attempt.runtime.any fun run => AcceptedIn (run.calls (whatsappRequest deliveryId))) ||
    AsksProvider whatsappProvider channel deliveryId attempt && attempt.send.accepted

/-- The executions that a job comes to: up to the first that does not throw. -/
def executedAttempts (whatsappProvider : Bool) (channel : NotificationChannel)
    (deliveryId : String) :
    WorkerAttempt Value → List (WorkerAttempt Value) → List (WorkerAttempt Value)
  | attempt, [] => [attempt]
  | attempt, next :: rest =>
    if AsksProvider whatsappProvider channel deliveryId attempt && !attempt.send.reply.isOk then
      attempt :: executedAttempts whatsappProvider channel deliveryId next rest
    else [attempt]

/-- The last execution of the worker fails, or the message was accepted in one of them. -/
def WorkerHonest (whatsappProvider : Bool) (channel : NotificationChannel) (deliveryId : String)
    (attempts : List (WorkerAttempt Value)) : Prop :=
  (∃ last, attempts.getLast? = some last ∧
      AttemptFails whatsappProvider channel deliveryId last = true) ∨
    ∃ attempt ∈ attempts, AttemptAccepted whatsappProvider channel deliveryId attempt = true

def ChannelEnvironment.WorkersHonest (environment : ChannelEnvironment Value)
    (channel : NotificationChannel) (deliveryId : String) : Prop :=
  WorkerHonest environment.whatsappProvider channel deliveryId
    (executedAttempts environment.whatsappProvider channel deliveryId environment.worker
      environment.workerRetries)

/-- What is taken for sent was accepted: the contact that the channel needs is there, the runtime
returns only after a provider has accepted the message, and so do the workers where the dispatcher
is not there or ends before the runtime is called. -/
def Honest (channel : NotificationChannel) (environment : ChannelEnvironment Value) (user : User)
    (rendered : RenderedNotification) (deliveryId : String) : Prop :=
  channel = .inApp ∨ hasContact channel user = true ∧
    match environment.communicationDispatcher with
    | none => environment.WorkersHonest channel deliveryId
    | some run =>
      (channel = .push ∧ environment.deviceTokens = []) ∨
        let request := channelRequest channel environment.deviceTokens deliveryId user rendered
        match prepareDispatch run.world request with
        | .ok prepared => ReturnsAccepted request prepared run.primary run.fallback
        | .error (.ok _) => True
        | .error (.error _) => environment.WorkersHonest channel deliveryId

/-! ## The workers -/

/-- The delivery is where a failed dispatch leaves it. -/
def Failed (delivery : NotificationDelivery) : Prop :=
  delivery.status = .failed ∨ delivery.status = .deadLetter

theorem Failed.not_delivered {delivery : NotificationDelivery} (h : Failed delivery) :
    delivery.status ≠ .delivered := by
  rcases h with h | h <;> rw [h] <;> decide

section Workers

variable {whatsappProvider : Bool} {channel : NotificationChannel} {attempt : WorkerAttempt Value}
  {delivery : NotificationDelivery}

theorem recordDeliveryFailure_failed (message : Option String) (delivery : NotificationDelivery) :
    Failed (recordDeliveryFailure message delivery) := by
  unfold Failed recordDeliveryFailure
  simp only
  split <;> simp

theorem checkDeadLetterThreshold_failed {isTransient : Bool} (hfailed : delivery.status = .failed) :
    Failed (checkDeadLetterThreshold isTransient delivery) := by
  unfold Failed checkDeadLetterThreshold
  split
  · exact .inr rfl
  · exact .inl hfailed

def Reports (reports : ProviderReply → Bool) (send : ProviderSend) : Prop :=
  ∃ reply, send.reply = .ok reply ∧ reports reply = true

theorem executeDelivery_spec (reports isTransient : ProviderReply → Bool) (send : ProviderSend)
    (delivery : NotificationDelivery) :
    (Reports reports send →
      (executeDelivery reports isTransient send delivery).delivery.status = .delivered) ∧
    (¬ Reports reports send →
      Failed (executeDelivery reports isTransient send delivery).delivery) ∧
    (executeDelivery reports isTransient send delivery).threw = !send.reply.isOk ∧
    (executeDelivery reports isTransient send delivery).accepted = send.accepted ∧
    (executeDelivery reports isTransient send delivery).delivery.id = delivery.id := by
  unfold Reports
  cases hreply : send.reply with
  | error message =>
    simp only [executeDelivery, hreply]
    refine ⟨?_, fun _ => recordDeliveryFailure_failed message delivery, rfl, trivial, rfl⟩
    rintro ⟨reply, hok, -⟩
    cases hok
  | ok reply =>
    cases hreports : reports reply with
    | true =>
      simp only [executeDelivery, hreply, hreports, if_true]
      refine ⟨fun _ => trivial, fun hnot => ?_, rfl, trivial, trivial⟩
      exact absurd ⟨reply, rfl, hreports⟩ hnot
    | false =>
      simp only [executeDelivery, hreply, hreports, Bool.false_eq_true, if_false]
      refine ⟨?_, fun _ => checkDeadLetterThreshold_failed rfl, rfl, trivial, ?_⟩
      · rintro ⟨other, hok, hother⟩
        cases hok
        rw [hreports] at hother
        cases hother
      · unfold checkDeadLetterThreshold
        split <;> rfl

/-- Without its provider, the WhatsApp worker may leave a delivery as it is. -/
def Skips (whatsappProvider : Bool) (channel : NotificationChannel) : Prop :=
  channel = .whatsapp ∧ whatsappProvider = false

/-- What one execution of a worker does to a delivery. -/
structure WorkerSpec (whatsappProvider : Bool) (channel : NotificationChannel)
    (attempt : WorkerAttempt Value) (delivery : NotificationDelivery) (result : WorkerResult) :
    Prop where
  fails : AttemptFails whatsappProvider channel delivery.id attempt = true → Failed result.delivery
  otherwise : AttemptFails whatsappProvider channel delivery.id attempt = false →
    result.delivery.status = .delivered ∨
      Skips whatsappProvider channel ∧ result.delivery = delivery
  threw : result.threw =
    (AsksProvider whatsappProvider channel delivery.id attempt && !attempt.send.reply.isOk)
  accepted : result.accepted = AttemptAccepted whatsappProvider channel delivery.id attempt
  sameId : result.delivery.id = delivery.id

theorem reports_iff_of_not_push (hchannel : channel ≠ .push) (send : ProviderSend) :
    Reports (fun reply => reply.success = some true) send ↔ ReplyFails channel send = false := by
  unfold Reports ReplyFails
  cases send.reply <;> simp [hchannel]

theorem reports_iff_of_push (send : ProviderSend) :
    Reports (fun reply => reply.success ≠ some false) send ↔ ReplyFails .push send = false := by
  unfold Reports ReplyFails
  cases send.reply <;> simp

theorem workerSpec_of_executeDelivery {reports isTransient : ProviderReply → Bool}
    (hasks : AsksProvider whatsappProvider channel delivery.id attempt = true)
    (hwhatsapp : channel ≠ .whatsapp)
    (hreports : Reports reports attempt.send ↔ ReplyFails channel attempt.send = false) :
    WorkerSpec whatsappProvider channel attempt delivery
      (executeDelivery reports isTransient attempt.send delivery) := by
  obtain ⟨hdelivered, hfailed, hthrew, haccepted, hid⟩ :=
    executeDelivery_spec reports isTransient attempt.send delivery
  refine ⟨fun hfails => hfailed ?_, fun hsent => .inl (hdelivered ?_), ?_, ?_, hid⟩
  · rw [hreports]
    rw [AttemptFails, hasks, Bool.true_and] at hfails
    simp [hfails]
  · rw [hreports]
    rwa [AttemptFails, hasks, Bool.true_and] at hsent
  · rw [hthrew, hasks, Bool.true_and]
  · simp [haccepted, AttemptAccepted, hasks, hwhatsapp]

theorem executeWhatsAppDelivery_spec :
    WorkerSpec whatsappProvider .whatsapp attempt delivery
      (executeWhatsAppDelivery whatsappProvider attempt delivery) := by
  cases hruntime : attempt.runtime.any (runtimeSuccess (whatsappRequest delivery.id)) with
  | true =>
    have hasks : AsksProvider whatsappProvider .whatsapp delivery.id attempt = false := by
      simp [AsksProvider, hruntime]
    simp only [executeWhatsAppDelivery, hruntime, if_true]
    refine ⟨fun hfails => ?_, fun _ => .inl rfl, ?_, ?_, rfl⟩
    · rw [AttemptFails, hasks] at hfails
      cases hfails
    · rw [hasks]
      rfl
    · simp [AttemptAccepted, hasks]
  | false =>
    cases whatsappProvider with
    | false =>
      have hasks : AsksProvider false .whatsapp delivery.id attempt = false := by
        simp [AsksProvider]
      simp only [executeWhatsAppDelivery, hruntime, Bool.false_eq_true, if_false,
        Bool.not_false, if_true]
      refine ⟨fun hfails => ?_, fun _ => .inr ⟨⟨rfl, rfl⟩, rfl⟩, ?_, ?_, rfl⟩
      · rw [AttemptFails, hasks] at hfails
        cases hfails
      · rw [hasks]
        rfl
      · simp [AttemptAccepted, hasks]
    | true =>
      have hasks : AsksProvider true .whatsapp delivery.id attempt = true := by
        simp [AsksProvider, hruntime]
      have hreports := @reports_iff_of_not_push .whatsapp (by decide) attempt.send
      obtain ⟨hdelivered, hfailed, hthrew, haccepted, hid⟩ :=
        executeDelivery_spec (fun reply => reply.success = some true) (fun _ => false)
          attempt.send delivery
      simp only [executeWhatsAppDelivery, hruntime, Bool.false_eq_true, if_false,
        Bool.not_true]
      refine ⟨fun hfails => hfailed ?_, fun hsent => .inl (hdelivered ?_), ?_, ?_, hid⟩
      · rw [hreports]
        rw [AttemptFails, hasks, Bool.true_and] at hfails
        simp [hfails]
      · rw [hreports]
        rwa [AttemptFails, hasks, Bool.true_and] at hsent
      · rw [hasks, Bool.true_and]
        exact hthrew
      · simp [AttemptAccepted, hasks, haccepted]

theorem executeWorker_spec (hchannel : channel ≠ .inApp) :
    WorkerSpec whatsappProvider channel attempt delivery
      (executeWorker whatsappProvider channel attempt delivery) := by
  cases channel with
  | inApp => exact absurd rfl hchannel
  | push =>
    refine workerSpec_of_executeDelivery ?_ ?_ (reports_iff_of_push _)
    · rfl
    · decide
  | sms =>
    refine workerSpec_of_executeDelivery ?_ ?_ (reports_iff_of_not_push ?_ _)
    · rfl
    · decide
    · decide
  | whatsapp => exact executeWhatsAppDelivery_spec
  | email =>
    refine workerSpec_of_executeDelivery ?_ ?_ (reports_iff_of_not_push ?_ _)
    · rfl
    · decide
    · decide

/-- What a whole job does to a delivery: what its last execution does. -/
structure JobSpec (whatsappProvider : Bool) (channel : NotificationChannel)
    (attempts : List (WorkerAttempt Value)) (delivery : NotificationDelivery)
    (result : WorkerResult) : Prop where
  last : ∃ last, attempts.getLast? = some last ∧
    (AttemptFails whatsappProvider channel delivery.id last = true → Failed result.delivery) ∧
    (AttemptFails whatsappProvider channel delivery.id last = false →
      result.delivery.status = .delivered ∨
        Skips whatsappProvider channel ∧ result.delivery = delivery)
  accepted : result.accepted =
    attempts.any (AttemptAccepted whatsappProvider channel delivery.id)

theorem jobSpec_of_last (hchannel : channel ≠ .inApp) :
    JobSpec whatsappProvider channel [attempt] delivery
      (executeWorker whatsappProvider channel attempt delivery) := by
  have hspec := @executeWorker_spec _ whatsappProvider channel attempt delivery hchannel
  exact ⟨⟨attempt, rfl, hspec.fails, hspec.otherwise⟩, by simp [hspec.accepted]⟩

theorem executedAttempts_ne_nil (deliveryId : String) (attempt : WorkerAttempt Value)
    (rest : List (WorkerAttempt Value)) :
    executedAttempts whatsappProvider channel deliveryId attempt rest ≠ [] := by
  cases rest with
  | nil => simp [executedAttempts]
  | cons next rest =>
    unfold executedAttempts
    split <;> simp

theorem not_skips_of_asks {deliveryId : String}
    (hasks : AsksProvider whatsappProvider channel deliveryId attempt = true) :
    ¬ Skips whatsappProvider channel := by
  rintro ⟨rfl, rfl⟩
  simp [AsksProvider] at hasks

theorem runWorker_spec (hchannel : channel ≠ .inApp) (rest : List (WorkerAttempt Value))
    (attempt : WorkerAttempt Value) (delivery : NotificationDelivery) :
    JobSpec whatsappProvider channel
      (executedAttempts whatsappProvider channel delivery.id attempt rest) delivery
      (runWorker whatsappProvider channel attempt rest delivery) := by
  induction rest generalizing attempt delivery with
  | nil => exact jobSpec_of_last hchannel
  | cons next rest ih =>
    have hspec := @executeWorker_spec _ whatsappProvider channel attempt delivery hchannel
    unfold executedAttempts runWorker
    simp only [hspec.threw]
    split
    · rename_i hthrew
      have hasks := (Bool.and_eq_true_iff.mp hthrew).1
      obtain ⟨⟨last, hlast, hfails, hotherwise⟩, haccepted⟩ :=
        ih next (executeWorker whatsappProvider channel attempt delivery).delivery
      rw [hspec.sameId] at hlast hfails hotherwise haccepted
      refine ⟨⟨last, ?_, hfails, fun hsent => ?_⟩, ?_⟩
      · rw [List.getLast?_cons_of_ne_nil (executedAttempts_ne_nil _ _ _)]
        exact hlast
      · rcases hotherwise hsent with hdelivered | ⟨hskips, -⟩
        · exact .inl hdelivered
        · exact absurd hskips (not_skips_of_asks hasks)
      · simp [hspec.accepted, haccepted]
    · exact jobSpec_of_last hchannel

theorem worker_truthful_iff (hchannel : channel ≠ .inApp) (attempt : WorkerAttempt Value)
    (rest : List (WorkerAttempt Value)) (delivery : NotificationDelivery) :
    (ChannelResult.mk (runWorker whatsappProvider channel attempt rest delivery.queue).delivery none
        (runWorker whatsappProvider channel attempt rest delivery.queue).accepted).Truthful ↔
      WorkerHonest whatsappProvider channel delivery.id
        (executedAttempts whatsappProvider channel delivery.id attempt rest) := by
  obtain ⟨⟨last, hlast, hfails, hotherwise⟩, haccepted⟩ :=
    @runWorker_spec _ whatsappProvider channel hchannel rest attempt delivery.queue
  have hany : (∃ other ∈ executedAttempts whatsappProvider channel delivery.id attempt rest,
      AttemptAccepted whatsappProvider channel delivery.id other = true) ↔
      (runWorker whatsappProvider channel attempt rest delivery.queue).accepted = true := by
    rw [haccepted]
    exact List.any_eq_true.symm
  have hends : (∃ other, (executedAttempts whatsappProvider channel delivery.id attempt
      rest).getLast? = some other ∧
        AttemptFails whatsappProvider channel delivery.id other = true) ↔
      AttemptFails whatsappProvider channel delivery.id last = true := by
    constructor
    · rintro ⟨other, hother, hfailed⟩
      cases hlast.symm.trans hother
      exact hfailed
    · exact fun hfailed => ⟨last, hlast, hfailed⟩
  rw [WorkerHonest, hany, hends]
  constructor
  · intro htruthful
    by_contra hnot
    obtain ⟨hsent, hrefused⟩ := not_or.mp hnot
    have hrefused := Bool.eq_false_iff.mpr hrefused
    have hfailed := htruthful.ends hrefused
    rcases hotherwise (Bool.eq_false_iff.mpr hsent) with hdelivered | ⟨-, hsame⟩
    · exact Failed.not_delivered hfailed hdelivered
    · rw [hsame] at hfailed
      rcases hfailed with hfailed | hfailed <;> cases hfailed
  · rintro (hfailed | haccepted)
    · have hfailed := hfails hfailed
      exact ⟨fun _ h => (Option.not_mem_none _ h).elim,
        fun hdelivered => absurd hdelivered hfailed.not_delivered, fun _ => hfailed⟩
    · exact ⟨fun _ _ _ => haccepted, fun _ => haccepted, fun hrefused => by
        rw [haccepted] at hrefused
        cases hrefused⟩

end Workers

/-! ## The dispatcher -/

section Dispatcher

variable {world : DispatchWorld} {request : CommunicationRequest} {prepared : PreparedDispatch}
  {primary fallback : RuntimeRun Value}

@[simp] theorem acceptedIn_append (first second : List (Call Value)) :
    AcceptedIn (first ++ second) = (AcceptedIn first || AcceptedIn second) :=
  List.any_append

theorem executeDispatch_truthful_iff :
    ∃ response, (executeDispatch world request prepared primary fallback).response = .ok response ∧
      ((response.success = true →
          AcceptedIn (executeDispatch world request prepared primary fallback).calls = true) ↔
        ReturnsAccepted request prepared primary fallback) := by
  unfold executeDispatch ReturnsAccepted
  simp only
  cases primary.outcome (runtimeRequest request prepared.route.channel prepared.capability
      request.idempotencyKey) with
  | ok result => exact ⟨_, rfl, by simp [RunAccepted]⟩
  | error primaryErr =>
    simp only
    cases fallbackTarget prepared.route primaryErr with
    | none => exact ⟨_, rfl, by simp⟩
    | some target =>
      simp only [dispatchFallback]
      cases hsecond : fallback.outcome (runtimeRequest request target.channel
          prepared.capability (fallbackKey request.idempotencyKey)) with
      | ok result => exact ⟨_, rfl, by simp [RunAccepted, hsecond]⟩
      | error fbErr => exact ⟨_, rfl, by simp [hsecond]⟩

theorem response_truthful_iff (response : CommunicationResponse) (delivery : NotificationDelivery)
    (accepted : Bool) :
    (ChannelResult.mk (recordResponse response delivery) (some response) accepted).Truthful ↔
      (response.success = true → accepted = true) := by
  constructor
  · exact fun htruthful => htruthful.success response rfl
  · intro hsuccess
    refine ⟨?_, fun hdelivered => hsuccess ?_, fun hrefused => .inl ?_⟩
    · rintro _ ⟨⟩ hreported
      exact hsuccess hreported
    · by_contra hnot
      simp [recordResponse, hnot] at hdelivered
    · by_cases hreported : response.success = true
      · have hrefused : accepted = false := hrefused
        rw [hsuccess hreported] at hrefused
        cases hrefused
      · simp [recordResponse, hreported]

end Dispatcher

theorem prepared_truthful_iff {channel : NotificationChannel}
    {environment : ChannelEnvironment Value} {user : User} {rendered : RenderedNotification}
    {delivery : NotificationDelivery} {run : DispatcherRun Value} {prepared : PreparedDispatch}
    (happ : channel ≠ .inApp) (hcontact : hasContact channel user = true)
    (hrun : environment.communicationDispatcher = some run)
    (htokens : ¬ (channel = .push ∧ environment.deviceTokens = []))
    (hprepare : prepareDispatch run.world (channelRequest channel environment.deviceTokens
      delivery.id user rendered) = .ok prepared) :
    (dispatchChannel channel environment user rendered delivery.queue).Truthful ↔
      ReturnsAccepted (channelRequest channel environment.deviceTokens delivery.id user rendered)
        prepared run.primary run.fallback := by
  obtain ⟨response, hresponse, htruthful⟩ :=
    @executeDispatch_truthful_iff _ run.world (channelRequest channel environment.deviceTokens
      delivery.id user rendered) prepared run.primary run.fallback
  simp only [dispatchChannel, happ, hcontact, hrun, htokens, Bool.true_eq_false, or_self,
    ↓reduceIte, show delivery.queue.id = delivery.id from rfl, DispatcherRun.dispatch,
    dispatchCommunication, hprepare, hresponse]
  rw [response_truthful_iff, htruthful]

def emptyCatalogue : DispatchWorld where
  routing := ⟨fun _ => [], fun _ => .closed, fun _ => true, false⟩
  isBlocklisted := fun _ => false
  hours := 12
  render := fun _ _ => .error "no template"
  now := "0"

def textRecipient : User :=
  ⟨"user_1", some "Customer", some "+919812345678", none⟩

def textDelivery : NotificationDelivery :=
  ⟨"delivery_1", .queued, some "TWILIO", none, 0, 3, none⟩

/-- The runtime finds no provider, and says so in its result. -/
def unroutedEnvironment : ChannelEnvironment Unit where
  deviceTokens := []
  communicationDispatcher := some
    ⟨emptyCatalogue, .routed (.error "No suitable provider found"), .routed (.error "")⟩
  whatsappProvider := true
  worker := ⟨none, ⟨.error none, false⟩⟩
  workerRetries := []

def textRendered : RenderedNotification :=
  ⟨"Booking confirmed", "Your booking is confirmed", "Your booking is confirmed", "", ""⟩

theorem textRoute (recipient : CommunicationRecipient) :
    resolveCommunicationRoute emptyCatalogue.routing (some .sms) .transactional recipient =
      .ok ⟨.sms, "mock_sms", []⟩ := by
  have hcandidates : ∀ country, eligibleCandidates emptyCatalogue.routing country .sms = [] := by
    intro country
    simp [eligibleCandidates, sortBy, emptyCatalogue]
  unfold resolveCommunicationRoute
  generalize countryOf recipient = country
  rw [show channelChain (some .sms) .transactional = (.sms, [.whatsapp, .email]) from rfl]
  simp only [hcandidates country]
  rfl

end CarRental.Notifications
