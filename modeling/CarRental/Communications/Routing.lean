import Mathlib.Data.Rat.Floor
import CarRental.Text
import CarRental.Integrations.ProviderCatalog

/-!
# Consent, blocklist and quiet hours

`CommunicationComplianceService.evaluateCompliance`.  The blocklist is a predicate on identifiers,
which the service trims and lowers before it looks them up; the hour is the one of the time zone of
the quiet hours.
-/

namespace CarRental.Communications

open CarRental.Integrations

inductive CommunicationChannel where
  | whatsapp
  | sms
  | email
  | push
  | voice
  | otp
deriving DecidableEq, Repr

def CommunicationChannel.value : CommunicationChannel → String
  | whatsapp => "WHATSAPP"
  | sms => "SMS"
  | email => "EMAIL"
  | push => "PUSH"
  | voice => "VOICE"
  | otp => "OTP"

inductive CommunicationMessageType where
  | transactional
  | promotional
  | security
  | otp
  | system
  | alert
  | marketing
  | support
  | critical
  | operational
  | lifecycle
  | criticalAlert
deriving DecidableEq, Repr

inductive CommunicationPriority where
  | critical
  | high
  | normal
  | low
  | marketing
deriving DecidableEq, Repr

structure CommunicationRecipient where
  id : Option String := none
  userId : Option String := none
  name : Option String := none
  phone : Option String := none
  email : Option String := none
  deviceTokens : List String := []
  country : Option String := none
  language : Option String := none
  marketingOptIn : Option Bool := none
  whatsappConsent : Option Bool := none
  smsConsent : Option Bool := none
  dndRegistered : Bool := false
deriving DecidableEq

structure QuietHoursConfig where
  enabled : Bool
  startHour : ℕ
  endHour : ℕ
deriving DecidableEq

def defaultQuietHours : QuietHoursConfig :=
  ⟨true, 21, 8⟩

structure ComplianceEvaluation where
  allowed : Bool
  reason : Option String
  isQuietHours : Bool
  dndBlocked : Bool
  consentMissing : Bool
deriving DecidableEq

/-- The one identifier that the blocklist is asked for. -/
def contactId (recipient : CommunicationRecipient) : Option String :=
  ((given recipient.phone).or (given recipient.email)).or (given recipient.userId)

def isCritical (priority : CommunicationPriority) (messageType : CommunicationMessageType) : Bool :=
  priority = .critical ∨ messageType = .otp ∨ messageType = .criticalAlert

def isInQuietHours (hours : ℕ) (config : QuietHoursConfig) : Bool :=
  config.enabled &&
    if config.endHour < config.startHour then
      decide (config.startHour ≤ hours) || decide (hours < config.endHour)
    else decide (config.startHour ≤ hours) && decide (hours < config.endHour)

def evaluateCompliance (isBlocklisted : String → Bool) (hours : ℕ) (quietHours : QuietHoursConfig)
    (channel : CommunicationChannel) (messageType : CommunicationMessageType)
    (priority : Option CommunicationPriority) (recipient : CommunicationRecipient) :
    ComplianceEvaluation :=
  let critical := isCritical (priority.getD .normal) messageType
  let isQuiet := isInQuietHours hours quietHours
  if (contactId recipient).any isBlocklisted then
    ⟨false, some ("Recipient [" ++ (contactId recipient).getD "" ++
      "] is in the communication opt-out blocklist."), false, true, false⟩
  else if !critical && messageType = .marketing && recipient.marketingOptIn = some false then
    ⟨false, some "Recipient has opted out of marketing communications.", false, false, true⟩
  else if !critical && channel = .whatsapp && recipient.whatsappConsent = some false then
    ⟨false, some "Recipient has revoked WhatsApp communication consent.", false, false, true⟩
  else if !critical && channel = .sms && recipient.smsConsent = some false then
    ⟨false, some "Recipient has revoked SMS communication consent.", false, false, true⟩
  else if recipient.dndRegistered && messageType = .marketing then
    ⟨false, some ("Recipient phone is registered on the National DND / NCPR registry. " ++
      "Marketing prohibited."), false, true, false⟩
  else if isQuiet && messageType = .marketing && !critical then
    ⟨false, some ("Promotional messaging blocked during quiet hours (" ++
      toString quietHours.startHour ++ ":00 - " ++ toString quietHours.endHour ++ ":00)."),
      true, false, false⟩
  else ⟨true, none, isQuiet, false, false⟩

/-!
## Channels and providers of a message

`CommunicationRoutingService`: the channel of a message and its provider, with the chain of
candidates to fall back to.  The catalogue and the circuits are arguments.
-/

def defaultChannelChains : CommunicationMessageType → List CommunicationChannel
  | .otp => [.whatsapp, .sms, .voice]
  | .transactional => [.whatsapp, .sms, .email]
  | .operational => [.push, .whatsapp, .sms]
  | .criticalAlert => [.push, .sms, .voice]
  | .marketing => [.push, .whatsapp, .email]
  | .promotional => [.push, .whatsapp, .email]
  | .security => [.sms, .whatsapp, .email, .voice]
  | .system => [.email, .push, .sms]
  | .alert => [.push, .sms, .whatsapp]
  | .support => [.whatsapp, .email, .sms]
  | .critical => [.sms, .voice, .push, .whatsapp]
  | .lifecycle => [.email, .whatsapp, .push]

def mapChannelToCategory : CommunicationChannel → IntegrationCategory
  | .whatsapp => .other "MESSAGING_WHATSAPP"
  | .sms => .other "MESSAGING_SMS"
  | .email => .other "MESSAGING_EMAIL"
  | .push => .other "MESSAGING_PUSH"
  | .voice => .other "VOICE_IVR"
  | .otp => .other "MESSAGING_SMS"

/-- What the routing asks of the catalogue and of the circuit breaker, and whether the process runs
in production. -/
structure RoutingEnvironment where
  getCategoryProviders : IntegrationCategory → List CatalogProviderMetadata
  getState : String → CircuitState
  isAvailable : String → Bool
  production : Bool

structure RouteCandidate where
  channel : CommunicationChannel
  providerId : String
deriving DecidableEq

structure CommunicationRoutingDecision where
  channel : CommunicationChannel
  primaryProviderId : String
  fallbackChain : List RouteCandidate
deriving DecidableEq

def countryMatch (country : String) (provider : CatalogProviderMetadata) : Bool :=
  provider.supportedCountries.isEmpty || provider.supportedCountries.contains "GLOBAL" ||
    provider.supportedCountries.contains country

def isEligible (environment : RoutingEnvironment) (country : String)
    (provider : CatalogProviderMetadata) : Bool :=
  environment.getState provider.providerId ≠ .open && countryMatch country provider

/-- `totalScore` of an eligible provider, which supports the country. -/
def totalScore (environment : RoutingEnvironment) (provider : CatalogProviderMetadata) : ℚ :=
  let health : ℚ := if environment.getState provider.providerId = .closed then 30 else 15
  let readiness : ℚ :=
    match provider.implementationStatus with
    | some .liveReady => 25
    | some .adapterImplemented => 20
    | some .contractReady => 10
    | _ => 5
  let basePriority : ℚ := if provider.priority = 0 then 100 else provider.priority
  let priority : ℚ := max 0 (20 - (⌊basePriority / 5⌋ : ℤ))
  let costEstimate : ℚ := (provider.fixedFee.filter (· ≠ 0)).getD (15 / 100)
  let cost : ℚ := max 0 (10 - costEstimate * 5)
  health + 25 + readiness + priority + cost

def eligibleCandidates (environment : RoutingEnvironment) (country : String)
    (channel : CommunicationChannel) : List CatalogProviderMetadata :=
  sortBy (fun a b => totalScore environment b - totalScore environment a)
    ((environment.getCategoryProviders (mapChannelToCategory channel)).filter
      (isEligible environment country))

/-- The channel of the message, and those to fall back to. -/
def channelChain (requestedChannel : Option CommunicationChannel)
    (messageType : CommunicationMessageType) :
    CommunicationChannel × List CommunicationChannel :=
  match requestedChannel, defaultChannelChains messageType with
  | some channel, chain => (channel, chain.filter (· ≠ channel))
  | none, channel :: rest => (channel, rest)
  | none, [] => (.sms, [])

/-- The country of a recipient who names none is told from the number. -/
def countryOf (recipient : CommunicationRecipient) : String :=
  ((given recipient.country).getD
    (if (recipient.phone.getD "").startsWith "+91" then "IN" else "US")).toUpper

def resolveCommunicationRoute (environment : RoutingEnvironment)
    (requestedChannel : Option CommunicationChannel) (messageType : CommunicationMessageType)
    (recipient : CommunicationRecipient) : Except String CommunicationRoutingDecision :=
  let country := countryOf recipient
  let (targetChannel, fallbackChannels) := channelChain requestedChannel messageType
  let candidates := eligibleCandidates environment country targetChannel
  if candidates.isEmpty && environment.production then
    .error ("[COMMUNICATION_ROUTING_ERROR] No eligible communication provider configured or " ++
      "available for channel " ++ targetChannel.value ++ " (country: " ++ country ++
      "). Mock fallback is forbidden in production environment.")
  else
    let sameChannel := (candidates.drop 1).take 1 |>.map (⟨targetChannel, ·.providerId⟩)
    let otherChannels := (fallbackChannels.take 2).filterMap fun channel =>
      ((environment.getCategoryProviders (mapChannelToCategory channel)).find?
        (environment.isAvailable ·.providerId)).map (⟨channel, ·.providerId⟩)
    .ok
      { channel := targetChannel
        primaryProviderId := (candidates.head?.map (·.providerId)).getD "mock_sms"
        fallbackChain := sameChannel ++ otherChannels }

/-! ## Falling back -/

inductive FailoverAction where
  | failover
  | pendingDeliveryConfirmation
  | abort
deriving DecidableEq, Repr

/-- The statuses that the dispatcher answers with. -/
inductive DeliveryStatus where
  | sent
  | failed
  | fallbackPending
  | fallbackSent
  | cancelled
deriving DecidableEq, Repr

structure FallbackSafetyCheck where
  safeToFailover : Bool
  action : FailoverAction
  reason : String
  recommendedStatus : DeliveryStatus
deriving DecidableEq

def evaluateCommunicationFallbackSafety (providerId errorClass : String)
    (requestDispatchedToProvider : Bool) (errorMessage : Option String) : FallbackSafetyCheck :=
  if requestDispatchedToProvider && (errorClass = "TIMEOUT" || errorClass = "NETWORK_FAILURE") then
    ⟨false, .pendingDeliveryConfirmation, "Message already dispatched to provider [" ++ providerId ++
      "]. INDETERMINATE delivery state (" ++ errorClass ++
      ") forbids blind failover to prevent duplicate customer notifications.", .fallbackPending⟩
  else if errorClass = "INVALID_NUMBER" || errorClass = "BLOCKED" || errorClass = "OPT_OUT" then
    ⟨false, .abort, "Recipient permanent delivery rejection (" ++ errorClass ++ "): " ++
      (given errorMessage).getD "Invalid contact" ++ ". Aborting failover.", .failed⟩
  else
    ⟨true, .failover, "Pre-flight failure on " ++ providerId ++ " (" ++ errorClass ++
      "). Safe to engage fallback channel/provider.", .fallbackSent⟩

end CarRental.Communications
