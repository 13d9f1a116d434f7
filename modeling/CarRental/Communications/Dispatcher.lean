import CarRental.Communications.Routing

/-!
# Dispatching a communication

`CommunicationDispatcherService.dispatchCommunication`: route, compliance, payload, the call of the
integration runtime and, where it throws, the call for the first candidate to fall back to.

The two executions of the runtime are arguments (`RuntimeRun`).  The messages that leave are noted
with the channel they are sent on, and so are the calls of the providers.
-/

namespace CarRental.Communications

open CarRental.Integrations

structure TemplatePayload where
  templateName : String
  language : Option String
  templateVariables : Option (List (String × String))
  dltTemplateId : Option String
deriving DecidableEq

structure DirectContent where
  subject : Option String
  body : Option String
  html : Option String
deriving DecidableEq

structure CommunicationRequest where
  channel : Option CommunicationChannel
  messageType : CommunicationMessageType
  priority : Option CommunicationPriority
  tenantId : Option String
  recipient : CommunicationRecipient
  template : Option TemplatePayload
  directContent : Option DirectContent
  otpCode : Option String
  idempotencyKey : Option String
deriving DecidableEq

/-- What the template engine makes of a template. -/
structure RenderedCommunication where
  subject : Option String
  body : String
  html : Option String
  dltTemplateId : Option String
deriving DecidableEq

/-! ## Payloads -/

/-- The normalized payloads, one for each kind of channel. -/
inductive Payload where
  | template (target : Option String) (templateName language : String) (bodyParameters : List String)
  | text (target : Option String) (message : String) (otpCode templateId : Option String)
      (isTransactional : Bool)
  | mail (target : Option String) (subject html : String)
  | notification (deviceTokens : List String) (title body : String) (highPriority : Bool)
  | call (target : Option String) (twimlOrScript : String) (isOtp : Bool) (otpCode : Option String)
deriving DecidableEq

def Payload.addresses : Payload → List String
  | .template target _ _ _ => target.toList
  | .text target _ _ _ _ => target.toList
  | .mail target _ _ => target.toList
  | .notification deviceTokens _ _ _ => deviceTokens
  | .call target _ _ _ => target.toList

def contactField (recipient : CommunicationRecipient) : CommunicationChannel → List String
  | .whatsapp | .sms | .otp | .voice => recipient.phone.toList
  | .email => recipient.email.toList
  | .push => recipient.deviceTokens.filter (· ≠ "")

/-- The texts of a message once its template is rendered. -/
structure Content where
  subject : Option String
  body : Option String
  html : Option String
  dltTemplateId : Option String

def contentOf (render : CommunicationChannel → TemplatePayload → Except String RenderedCommunication)
    (channel : CommunicationChannel) (request : CommunicationRequest) : Except String Content :=
  let subject := request.directContent.bind (·.subject)
  let html := request.directContent.bind (·.html)
  match request.template with
  | none => .ok ⟨subject, request.directContent.bind (·.body), html, none⟩
  | some template =>
    match render channel template with
    | .error message => .error message
    | .ok rendered =>
      .ok
        { subject := (given rendered.subject).or subject
          body := some rendered.body
          html := (given rendered.html).or html
          dltTemplateId := (given rendered.dltTemplateId).or template.dltTemplateId }

/-- The capability and the payload for a channel. -/
def buildPayload (request : CommunicationRequest) (content : Content) :
    CommunicationChannel → String × Payload
  | .whatsapp =>
    ("SEND_TEMPLATE", .template request.recipient.phone
      ((given (request.template.map (·.templateName))).getD "generic_notification")
      (((given (request.template.bind (·.language))).or (given request.recipient.language)).getD
        "en")
      (match request.template.bind (·.templateVariables) with
        | some values => values.map (·.2)
        | none => [content.body.getD ""]))
  | .sms | .otp =>
    (if (given request.otpCode).isSome then "SEND_OTP" else "SEND_SMS",
      .text request.recipient.phone ((given content.body).getD "Notification from DriveGo")
        request.otpCode content.dltTemplateId (request.messageType ≠ .marketing))
  | .email =>
    ("SEND_EMAIL", .mail request.recipient.email
      ((given content.subject).getD "DriveGo Notification")
      ((given content.html).getD ("<p>" ++ content.body.getD "undefined" ++ "</p>")))
  | .push =>
    ("SEND_PUSH", .notification (request.recipient.deviceTokens.filter (· ≠ ""))
      ((given content.subject).getD "DriveGo Alert")
      ((given content.body).getD "Important vehicle update") (request.priority = some .critical))
  | .voice =>
    ("VOICE_CALL", .call request.recipient.phone
      ((given content.body).getD "This is an important voice notification from DriveGo.")
      (given request.otpCode).isSome request.otpCode)

theorem buildPayload_addresses (request : CommunicationRequest) (content : Content)
    (channel : CommunicationChannel) :
    (buildPayload request content channel).2.addresses =
      contactField request.recipient channel := by
  cases channel <;> rfl

/-! ## Executions of the runtime -/

structure RuntimeError where
  message : Option String
  classification : Option String
deriving DecidableEq

/-- An execution of the integration runtime: it answers with the stored result of an earlier one,
or it goes by a routing; and it may throw, in the end, whatever the providers have done. -/
inductive RuntimeRun (Value : Type) where
  | cached (value : Value)
  | routed (routing : Except String (RoutingResolution Value))
  | threw (error : RuntimeError) (routing : Except String (RoutingResolution Value))

namespace RuntimeRun

variable {Value : Type}

/-- What the caller gets. -/
def outcome (request : ExecutionRequest) :
    RuntimeRun Value → Except RuntimeError (ExecutionResult Value)
  | cached value => .ok ⟨true, some value, none, "cached_idempotency", [], false⟩
  | routed routing => .ok (executeRouted request routing)
  | threw error _ => .error error

/-- The calls of the providers. -/
def calls (request : ExecutionRequest) : RuntimeRun Value → List (Call Value)
  | cached _ => []
  | routed routing => callsOf request routing
  | threw _ routing => callsOf request routing

end RuntimeRun

/-! ## The dispatch -/

/-- The response, without its explanation for people and its estimates. -/
structure CommunicationResponse where
  success : Bool
  channel : CommunicationChannel
  providerId : String
  providerMessageId : Option String
  status : DeliveryStatus
  fallbackChainUsed : Bool
  attemptsCount : ℕ
  error : Option String
deriving DecidableEq

/-- A payload that is handed to a provider, and the channel it is sent on. -/
structure OutgoingMessage where
  channel : CommunicationChannel
  payload : Payload
deriving DecidableEq

/-- What comes of a dispatch: its response, or what it throws. -/
structure Dispatch (Value : Type) where
  response : Except String CommunicationResponse
  messages : List OutgoingMessage
  calls : List (Call Value)

/-- What a dispatch asks of the rest of the system. -/
structure DispatchWorld where
  routing : RoutingEnvironment
  isBlocklisted : String → Bool
  hours : ℕ
  render : CommunicationChannel → TemplatePayload → Except String RenderedCommunication
  now : String

def DispatchWorld.evaluateCompliance (world : DispatchWorld) (channel : CommunicationChannel)
    (request : CommunicationRequest) : ComplianceEvaluation :=
  Communications.evaluateCompliance world.isBlocklisted world.hours defaultQuietHours channel
    request.messageType request.priority request.recipient

def runtimeRequest (request : CommunicationRequest) (channel : CommunicationChannel)
    (capability : String) (idempotencyKey : Option String) : ExecutionRequest where
  category := mapChannelToCategory channel
  capability := capability
  tenantId := request.tenantId
  idempotencyKey := idempotencyKey
  isIdempotent := false

/-- A message leaves on a channel as soon as one provider is called. -/
def messagesOf {Value : Type} (channel : CommunicationChannel) (payload : Payload)
    (calls : List (Call Value)) : List OutgoingMessage :=
  if calls.isEmpty then [] else [⟨channel, payload⟩]

/-- The key of the call for the candidate to fall back to. -/
def fallbackKey (idempotencyKey : Option String) : Option String :=
  (given idempotencyKey).map (· ++ "_fb")

section Execution

variable {Value : Type}

/-- The call for the first candidate to fall back to, with the payload and the capability of the
first channel. -/
def dispatchFallback (world : DispatchWorld) (request : CommunicationRequest) (capability : String)
    (payload : Payload) (target : RouteCandidate) (fallback : RuntimeRun Value) : Dispatch Value :=
  let execution := runtimeRequest request target.channel capability
    (fallbackKey request.idempotencyKey)
  let calls := fallback.calls execution
  let messages := messagesOf target.channel payload calls
  match fallback.outcome execution with
  | .ok _ =>
    { response := .ok
        { success := true
          channel := target.channel
          providerId := target.providerId
          providerMessageId := some ("fb_msg_" ++ world.now)
          status := .fallbackSent
          fallbackChainUsed := true
          attemptsCount := 2
          error := none }
      messages
      calls }
  | .error fbErr =>
    { response := .ok
        { success := false
          channel := target.channel
          providerId := target.providerId
          providerMessageId := none
          status := .failed
          fallbackChainUsed := true
          attemptsCount := 2
          error := some ("Primary and fallback both failed: " ++
            fbErr.message.getD "undefined") }
      messages
      calls }

/-- A message that is ready to be sent. -/
structure PreparedDispatch where
  route : CommunicationRoutingDecision
  capability : String
  payload : Payload

/-- The candidate that is tried once the primary provider has thrown. -/
def fallbackTarget (route : CommunicationRoutingDecision) (primaryErr : RuntimeError) :
    Option RouteCandidate :=
  if (evaluateCommunicationFallbackSafety route.primaryProviderId
      ((given primaryErr.classification).getD "PROVIDER_DOWN") false
      primaryErr.message).safeToFailover then
    route.fallbackChain.head?
  else none

/-- The calls of the runtime once the message is ready. -/
def executeDispatch (world : DispatchWorld) (request : CommunicationRequest)
    (prepared : PreparedDispatch) (primary fallback : RuntimeRun Value) : Dispatch Value :=
  let route := prepared.route
  let execution :=
    runtimeRequest request route.channel prepared.capability request.idempotencyKey
  let calls := primary.calls execution
  let messages := messagesOf route.channel prepared.payload calls
  match primary.outcome execution with
  | .ok _ =>
    -- whether the result says `success` is not looked at
    { response := .ok
        { success := true
          channel := route.channel
          providerId := route.primaryProviderId
          providerMessageId := some ("msg_" ++ world.now)
          status := .sent
          fallbackChainUsed := false
          attemptsCount := 1
          error := none }
      messages
      calls }
  | .error primaryErr =>
    match fallbackTarget route primaryErr with
    | some target =>
      let second :=
        dispatchFallback world request prepared.capability prepared.payload target fallback
      { second with
        messages := messages ++ second.messages
        calls := calls ++ second.calls }
    | none =>
      { response := .ok
          { success := false
            channel := route.channel
            providerId := route.primaryProviderId
            providerMessageId := none
            status := (evaluateCommunicationFallbackSafety route.primaryProviderId
              ((given primaryErr.classification).getD "PROVIDER_DOWN") false
              primaryErr.message).recommendedStatus
            fallbackChainUsed := false
            attemptsCount := 1
            error := primaryErr.message }
        messages
        calls }

/-- The response to a message that is not sent. -/
def notSent (route : CommunicationRoutingDecision) (status : DeliveryStatus)
    (error : Option String) : CommunicationResponse where
  success := false
  channel := route.channel
  providerId := route.primaryProviderId
  providerMessageId := none
  status := status
  fallbackChainUsed := false
  attemptsCount := 0
  error := error

/-- What is done before the runtime is called.  It may end the dispatch, with a response or by
throwing. -/
def prepareDispatch (world : DispatchWorld) (request : CommunicationRequest) :
    Except (Except String CommunicationResponse) PreparedDispatch :=
  match resolveCommunicationRoute world.routing request.channel request.messageType
      request.recipient with
  | .error message => .error (.error message)
  | .ok route =>
    let compliance := world.evaluateCompliance route.channel request
    if !compliance.allowed then .error (.ok (notSent route .cancelled compliance.reason))
    else
      match contentOf world.render route.channel request with
      | .error message => .error (.error message)
      | .ok content =>
        let (capability, payload) := buildPayload request content route.channel
        if route.channel = .push ∧ payload.addresses = [] then
          .error (.ok (notSent route .failed
            (some "No active device tokens provided for push dispatch")))
        else .ok ⟨route, capability, payload⟩

def dispatchCommunication (world : DispatchWorld) (request : CommunicationRequest)
    (primary fallback : RuntimeRun Value) : Dispatch Value :=
  match prepareDispatch world request with
  | .error response => ⟨response, [], []⟩
  | .ok prepared => executeDispatch world request prepared primary fallback

end Execution

theorem prepareDispatch_spec {world : DispatchWorld} {request : CommunicationRequest}
    {prepared : PreparedDispatch} (hprepared : prepareDispatch world request = .ok prepared) :
    (world.evaluateCompliance prepared.route.channel request).allowed = true ∧
      prepared.payload.addresses = contactField request.recipient prepared.route.channel := by
  unfold prepareDispatch at hprepared
  cases hroute : resolveCommunicationRoute world.routing request.channel request.messageType
      request.recipient with
  | error message => simp [hroute] at hprepared
  | ok route =>
    simp only [hroute] at hprepared
    cases hallowed : (world.evaluateCompliance route.channel request).allowed with
    | false => simp [hallowed] at hprepared
    | true =>
      cases hcontent : contentOf world.render route.channel request with
      | error message => simp [hallowed, hcontent] at hprepared
      | ok content =>
        simp only [hallowed, hcontent, Bool.not_true, Bool.false_eq_true, if_false]
          at hprepared
        split at hprepared
        · cases hprepared
        · cases hprepared
          exact ⟨hallowed, buildPayload_addresses request content route.channel⟩

theorem prepareDispatch_refused {world : DispatchWorld} {request : CommunicationRequest}
    {response : CommunicationResponse}
    (hrefused : prepareDispatch world request = .error (.ok response)) :
    response.success = false := by
  unfold prepareDispatch at hrefused
  cases hroute : resolveCommunicationRoute world.routing request.channel request.messageType
      request.recipient with
  | error message => simp [hroute] at hrefused
  | ok route =>
    simp only [hroute] at hrefused
    cases hallowed : (world.evaluateCompliance route.channel request).allowed with
    | false =>
      simp only [hallowed, Bool.not_false, if_true, Except.error.injEq, Except.ok.injEq]
        at hrefused
      rw [← hrefused]
      rfl
    | true =>
      cases hcontent : contentOf world.render route.channel request with
      | error message => simp [hallowed, hcontent] at hrefused
      | ok content =>
        simp only [hallowed, hcontent, Bool.not_true, Bool.false_eq_true, if_false]
          at hrefused
        split at hrefused
        · cases hrefused
          rfl
        · cases hrefused

/-!
## What leaves on which channel

Compliance is evaluated for the channel of the route, and its blocklist check asks for one
identifier of the recipient.  The payload is built for that channel too, and is handed on to the
candidate to fall back to as it is.
-/

variable {Value : Type}

/-- The message may be sent on its channel, to the addresses it is sent to. -/
structure Permitted (world : DispatchWorld) (request : CommunicationRequest)
    (message : OutgoingMessage) : Prop where
  notBlocklisted : ∀ address ∈ message.payload.addresses, world.isBlocklisted address = false
  allowed : (world.evaluateCompliance message.channel request).allowed = true
  ownContact : message.payload.addresses = contactField request.recipient message.channel

/-- Nothing that must not be sent leaves the dispatch. -/
def SendsOnlyPermitted (world : DispatchWorld) (request : CommunicationRequest)
    (primary fallback : RuntimeRun Value) : Prop :=
  ∀ message ∈ (dispatchCommunication world request primary fallback).messages,
    Permitted world request message

/-- No address of the contact field of a channel is blocklisted. -/
def ContactClear (world : DispatchWorld) (request : CommunicationRequest)
    (channel : CommunicationChannel) : Prop :=
  ∀ address ∈ contactField request.recipient channel, world.isBlocklisted address = false

/-- The message for the one channel may go out on the other: it is allowed there, and the two have
one contact field. -/
structure FitsChannel (world : DispatchWorld) (request : CommunicationRequest)
    (first second : CommunicationChannel) : Prop where
  allowed : (world.evaluateCompliance second request).allowed = true
  sameContact : contactField request.recipient first = contactField request.recipient second

/-- A provider is called for the prepared message. -/
def PrimaryCalled (request : CommunicationRequest) (prepared : PreparedDispatch)
    (primary : RuntimeRun Value) : Prop :=
  primary.calls (runtimeRequest request prepared.route.channel prepared.capability
    request.idempotencyKey) ≠ []

/-- The candidate that the dispatch falls back to. -/
def fallbackOf (request : CommunicationRequest) (prepared : PreparedDispatch)
    (primary : RuntimeRun Value) : Option RouteCandidate :=
  match primary.outcome (runtimeRequest request prepared.route.channel prepared.capability
      request.idempotencyKey) with
  | .ok _ => none
  | .error primaryErr => fallbackTarget prepared.route primaryErr

/-- A provider is called for the candidate. -/
def FallbackCalled (request : CommunicationRequest) (prepared : PreparedDispatch)
    (target : RouteCandidate) (fallback : RuntimeRun Value) : Prop :=
  fallback.calls (runtimeRequest request target.channel prepared.capability
    (fallbackKey request.idempotencyKey)) ≠ []

/-- Where a provider is called, the contact is clear; and where one is called for the candidate to
fall back to, the message fits its channel. -/
def ContactsFit (world : DispatchWorld) (request : CommunicationRequest)
    (primary fallback : RuntimeRun Value) : Prop :=
  ∀ prepared, prepareDispatch world request = .ok prepared →
    (PrimaryCalled request prepared primary →
      ContactClear world request prepared.route.channel) ∧
    ∀ target, fallbackOf request prepared primary = some target →
      FallbackCalled request prepared target fallback →
        ContactClear world request prepared.route.channel ∧
          FitsChannel world request prepared.route.channel target.channel

/-! ## The messages of a dispatch -/

section Messages

variable {world : DispatchWorld} {request : CommunicationRequest} {prepared : PreparedDispatch}
  {primary fallback : RuntimeRun Value}

theorem mem_messagesOf {channel : CommunicationChannel} {payload : Payload}
    {calls : List (Call Value)} {message : OutgoingMessage} :
    message ∈ messagesOf channel payload calls ↔ calls ≠ [] ∧ message = ⟨channel, payload⟩ := by
  cases calls <;> simp [messagesOf]

theorem dispatchFallback_messages (capability : String) (payload : Payload)
    (target : RouteCandidate) :
    (dispatchFallback world request capability payload target fallback).messages =
      messagesOf target.channel payload (fallback.calls (runtimeRequest request target.channel
        capability (fallbackKey request.idempotencyKey))) := by
  unfold dispatchFallback
  cases fallback <;> rfl

theorem mem_executeDispatch_messages {message : OutgoingMessage} :
    message ∈ (executeDispatch world request prepared primary fallback).messages ↔
      (PrimaryCalled request prepared primary ∧
        message = ⟨prepared.route.channel, prepared.payload⟩) ∨
      ∃ target, fallbackOf request prepared primary = some target ∧
        FallbackCalled request prepared target fallback ∧
          message = ⟨target.channel, prepared.payload⟩ := by
  unfold executeDispatch fallbackOf
  simp only
  cases primary.outcome (runtimeRequest request prepared.route.channel prepared.capability
      request.idempotencyKey) with
  | ok result => simp [mem_messagesOf, PrimaryCalled]
  | error primaryErr =>
    simp only
    cases fallbackTarget prepared.route primaryErr with
    | none => simp [mem_messagesOf, PrimaryCalled]
    | some target =>
      simp [mem_messagesOf, PrimaryCalled, FallbackCalled, dispatchFallback_messages]

theorem permitted_primary_iff (hprepared : prepareDispatch world request = .ok prepared) :
    Permitted world request ⟨prepared.route.channel, prepared.payload⟩ ↔
      ContactClear world request prepared.route.channel := by
  obtain ⟨hallowed, haddresses⟩ := prepareDispatch_spec hprepared
  constructor
  · intro hpermitted address haddress
    exact hpermitted.notBlocklisted address (haddresses ▸ haddress)
  · intro hclear
    exact ⟨fun address haddress => hclear address (haddresses ▸ haddress), hallowed, haddresses⟩

theorem permitted_fallback_iff (hprepared : prepareDispatch world request = .ok prepared)
    (channel : CommunicationChannel) :
    Permitted world request ⟨channel, prepared.payload⟩ ↔
      ContactClear world request prepared.route.channel ∧
        FitsChannel world request prepared.route.channel channel := by
  obtain ⟨-, haddresses⟩ := prepareDispatch_spec hprepared
  constructor
  · rintro ⟨hclear, hallowed, hcontact⟩
    exact ⟨fun address haddress => hclear address (haddresses ▸ haddress), hallowed,
      haddresses.symm.trans hcontact⟩
  · rintro ⟨hclear, hallowed, hcontact⟩
    exact ⟨fun address haddress => hclear address (haddresses ▸ haddress), hallowed,
      haddresses.trans hcontact⟩

end Messages

/-- Only permitted messages leave a dispatch exactly if no address in the contact field of the
routed channel is blocklisted and the message fits the channel it falls back to, where a provider
is called. -/
theorem sendsOnlyPermitted_iff (world : DispatchWorld) (request : CommunicationRequest)
    (primary fallback : RuntimeRun Value) :
    SendsOnlyPermitted world request primary fallback ↔
      ContactsFit world request primary fallback := by
  unfold SendsOnlyPermitted ContactsFit dispatchCommunication
  cases hprepare : prepareDispatch world request with
  | error response => simp
  | ok prepared =>
    simp only [Except.ok.injEq, forall_eq']
    constructor
    · intro hpermitted
      constructor
      · intro hcalled
        refine (permitted_primary_iff hprepare).mp (hpermitted _ ?_)
        exact mem_executeDispatch_messages.mpr (.inl ⟨hcalled, rfl⟩)
      · intro target htarget hcalled
        refine (permitted_fallback_iff hprepare target.channel).mp (hpermitted _ ?_)
        exact mem_executeDispatch_messages.mpr (.inr ⟨target, htarget, hcalled, rfl⟩)
    · rintro ⟨hprimary, hfallback⟩ message hmessage
      rcases mem_executeDispatch_messages.mp hmessage with
        ⟨hcalled, rfl⟩ | ⟨target, htarget, hcalled, rfl⟩
      · exact (permitted_primary_iff hprepare).mpr (hprimary hcalled)
      · exact (permitted_fallback_iff hprepare target.channel).mpr
          (hfallback target htarget hcalled)

/-! ## A blocklisted mail address -/

def emailProvider : CatalogProviderMetadata where
  providerId := "resend"
  category := .other "MESSAGING_EMAIL"
  name := "Resend"
  supportedEnvironments := [.sandbox, .live]
  supportedCapabilities := ["SEND_EMAIL"]
  supportedCurrencies := []
  supportedCountries := []
  priority := 1
  lifecycleState := some .liveReady
  certificationLevel := some .productionValidated
  implementationStatus := some .liveReady
  activationState := .active
  platformAvailability := true
  weight := none
  fixedFee := none

def mailWorld : DispatchWorld where
  routing :=
    { getCategoryProviders := fun category =>
        if category = .other "MESSAGING_EMAIL" then [emailProvider] else []
      getState := fun _ => .closed
      isAvailable := fun _ => true
      production := true }
  isBlocklisted := fun address => address = "spam_user@badmail.com"
  hours := 12
  render := fun _ _ => .error "no template"
  now := "0"

def mailRequest : CommunicationRequest where
  channel := some .email
  messageType := .transactional
  priority := none
  tenantId := none
  recipient := { phone := some "+919812345678", email := some "spam_user@badmail.com" }
  template := none
  directContent := some ⟨some "Receipt", some "Thank you", none⟩
  otpCode := none
  idempotencyKey := none

def acceptingRun : RuntimeRun Unit :=
  .routed (.ok
    { primary :=
        { providerId := "resend"
          canExecute := true
          rateAllowed := true
          concurrencyAcquired := true
          answers := fun _ => ⟨.ok (some ()), true, true, fun _ _ h => nomatch h⟩ }
      fallbackChain := [] })

theorem mailRoute : resolveCommunicationRoute mailWorld.routing (some .email) .transactional
    mailRequest.recipient = .ok ⟨.email, "resend", []⟩ := by
  have hcandidates : ∀ country, eligibleCandidates mailWorld.routing country .email =
      [emailProvider] := by
    intro country
    simp [eligibleCandidates, sortBy, mailWorld, mapChannelToCategory, isEligible, countryMatch,
      emailProvider]
  have hchain : channelChain (some .email) .transactional = (.email, [.whatsapp, .sms]) := rfl
  unfold resolveCommunicationRoute
  generalize countryOf mailRequest.recipient = country
  rw [hchain]
  simp only [hcandidates country]
  rfl

/-- The mail leaves for the blocklisted address: only the number is looked up. -/
theorem blocklisted_mail_sent :
    ¬ SendsOnlyPermitted mailWorld mailRequest acceptingRun acceptingRun := by
  intro hsends
  have hroute := mailRoute
  have hprepared : ∃ prepared, prepareDispatch mailWorld mailRequest = .ok prepared ∧
      prepared.route = ⟨.email, "resend", []⟩ := by
    unfold prepareDispatch
    rw [show mailRequest.channel = some .email from rfl,
      show mailRequest.messageType = .transactional from rfl, hroute]
    exact ⟨_, rfl, rfl⟩
  obtain ⟨prepared, hprepare, hroute⟩ := hprepared
  have hleaves : ⟨prepared.route.channel, prepared.payload⟩ ∈
      (dispatchCommunication mailWorld mailRequest acceptingRun acceptingRun).messages := by
    unfold dispatchCommunication
    rw [hprepare]
    refine mem_executeDispatch_messages.mpr (.inl ⟨?_, rfl⟩)
    exact List.cons_ne_nil _ _
  have hclear := (permitted_primary_iff hprepare).mp (hsends _ hleaves)
  rw [hroute] at hclear
  have hlisted := hclear "spam_user@badmail.com" (List.mem_cons_self ..)
  exact absurd hlisted (by decide)

end CarRental.Communications
