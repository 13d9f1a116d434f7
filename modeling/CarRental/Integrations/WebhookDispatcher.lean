import Mathlib.Data.Rat.Floor
import CarRental.Lib.KeyedRows
import CarRental.Text

/-!
# The webhook dispatcher

`WebhookDispatcherService`: a webhook is checked and given an event id, its id is looked up in the
table, it is recorded there, and then handed to its handler.  Calls wait between these statements,
so each of them is a step.  A failure of the database, other than that the id is taken, is logged
and nothing more.

A row keeps the payload, but not the body it was parsed from.  That is counted apart (`body`), as
are the handlings and the webhooks that were answered as duplicates.
-/

namespace CarRental.Integrations.Webhooks

open KeyedRows

/-! ## Webhooks -/

/-- `payload.id`, as `String` writes it. -/
structure PayloadId where
  isText : Bool
  text : String
deriving DecidableEq, Repr

/-- What is read of a payload, as `String` writes it.  What counts as false is not there. -/
structure Payload where
  event : Option String
  type : Option String
  eventId : Option String
  id : Option PayloadId
  orderId : Option String
  paymentId : Option String
deriving DecidableEq, Repr

structure WebhookIngestParams where
  gateway : String
  rawBody : String
  signature : String
  headers : List (String × String)
  secret : Option String
  timestamp : Option ℤ
  /-- Whether a handler comes with the webhook. -/
  hasHandler : Bool
deriving DecidableEq, Repr

/-- An event is known by its gateway and its body. -/
structure EventIdentity where
  gateway : String
  body : String
deriving DecidableEq, Repr

/-- What the dispatcher computes with: the parser of bodies, of which `null` is `some none`, the
hashes, and whether the process runs in production. -/
structure WebhookEnvironment where
  mapping : CaseMapping
  parse : String → Option (Option Payload)
  sha256 : String → String
  hmac : String → String → String
  production : Bool

def WebhookIngestParams.header (params : WebhookIngestParams) (name : String) : Option String :=
  given ((params.headers.find? (·.1 = name)).map (·.2))

/-! ## The checks -/

/-- The number at the beginning of a text, as `parseInt` reads it. -/
def parseInt (text : String) : Option ℤ :=
  let digits (rest : List Char) : Option ℤ :=
    match rest.takeWhile Char.isDigit with
    | [] => none
    | read => some (read.foldl (fun n c => 10 * n + (c.toNat - '0'.toNat : ℤ)) 0)
  match text.toList.dropWhile Char.isWhitespace with
  | '-' :: rest => (digits rest).map fun n => -n
  | '+' :: rest => digits rest
  | rest => digits rest

/-- A time in seconds is converted to milliseconds. -/
def inMilliseconds (headerTime : ℤ) : ℤ :=
  if headerTime < 10000000000 then headerTime * 1000 else headerTime

/-- `headerTime`, unless it is zero or not a number. -/
def headerTime (params : WebhookIngestParams) : Option ℤ :=
  let fromHeader := ((params.header "x-event-time").or ((params.header "x-razorpay-event-time").or
    (params.header "stripe-signature-timestamp"))).bind fun text =>
      (parseInt text).map inMilliseconds
  ((params.timestamp.filter (· ≠ 0)).or fromHeader).filter (· ≠ 0)

def replayToleranceSeconds : ℚ := 300

def verifyReplayProtection (params : WebhookIngestParams) (now : ℤ) : Except String Unit :=
  match headerTime params with
  | none => .ok ()
  | some time =>
    let diffSeconds : ℚ := |((now - time : ℤ) : ℚ)| / 1000
    if replayToleranceSeconds < diffSeconds then
      .error ("Webhook timestamp is outside the allowed replay tolerance window (" ++
        toString ⌊diffSeconds + 1 / 2⌋ ++ "s old).")
    else .ok ()

def extractEventId (environment : WebhookEnvironment) (params : WebhookIngestParams)
    (payload : Payload) : String :=
  let fromHeader := (params.header "x-razorpay-event-id").or ((params.header "x-event-id").or
    ((params.header "webhook-id").or (params.header "stripe-event-id")))
  let fromId := (payload.id.filter fun id => id.isText && !id.text.startsWith "pay_").map (·.text)
  (fromHeader.or (payload.eventId.or fromId)).getD (environment.sha256 params.rawBody)

def eventTypeOf (params : WebhookIngestParams) (payload : Payload) : String :=
  (payload.event.or (payload.type.or (params.header "x-event-type"))).getD "unknown.event"

def verifySignature (environment : WebhookEnvironment) (params : WebhookIngestParams) :
    Except String Unit :=
  if params.signature = "mock_signature" ∧ environment.production = false then .ok ()
  else if params.signature = "" then .error "Missing webhook signature header"
  else
    match given params.secret with
    | none => .ok ()
    | some secret =>
      if params.signature = environment.hmac secret params.rawBody then .ok ()
      else .error "Cryptographic signature does not match expected payload digest"

structure NormalizedEvent where
  eventId : String
  gateway : String
  eventType : String
  aggregateId : Option String
  payload : Payload
deriving DecidableEq, Repr

/-- What the checks make of a webhook: `normalizedEvent`, or the exception that is thrown. -/
def normalize (environment : WebhookEnvironment) (params : WebhookIngestParams) (now : ℤ) :
    Except String NormalizedEvent :=
  match verifyReplayProtection params now with
  | .error message => .error message
  | .ok () =>
    match environment.parse params.rawBody with
    | none => .error "Malformed webhook JSON payload"
    | some none => .error "Cannot read properties of null (reading 'event')"
    | some (some payload) =>
      match verifySignature environment params with
      | .error message => .error message
      | .ok () => .ok
          { eventId := extractEventId environment params payload
            gateway := environment.mapping.toUpperCase params.gateway
            eventType := eventTypeOf params payload
            aggregateId := (payload.id.map (·.text)).or (payload.orderId.or payload.paymentId)
            payload := payload }

/-! ## The table and the calls -/

inductive WebhookStatus where
  | received
  | processed
  | failed
deriving DecidableEq, Repr

structure WebhookRow where
  gateway : String
  eventId : String
  eventType : String
  payload : Payload
  signature : Option String
  status : WebhookStatus
  failureReason : Option String
  body : String
deriving DecidableEq, Repr

def WebhookRow.identity (row : WebhookRow) : EventIdentity := ⟨row.gateway, row.body⟩

/-- A webhook that has passed the checks. -/
structure Accepted where
  params : WebhookIngestParams
  event : NormalizedEvent
deriving DecidableEq, Repr

def Accepted.identity (accepted : Accepted) : EventIdentity :=
  ⟨accepted.event.gateway, accepted.params.rawBody⟩

/-- The record that is inserted. -/
def Accepted.row (accepted : Accepted) : WebhookRow where
  gateway := accepted.event.gateway
  eventId := accepted.event.eventId
  eventType := accepted.event.eventType
  payload := accepted.event.payload
  signature := (given (some accepted.params.signature)).map fun signature =>
    String.ofList (signature.toList.take 255)
  status := .received
  failureReason := none
  body := accepted.params.rawBody

inductive WebhookCall where
  /-- The id was looked up and not found. -/
  | recording (accepted : Accepted)
  | handling (accepted : Accepted)
  | replaying (record : WebhookRow)
deriving DecidableEq, Repr

structure Handling where
  event : EventIdentity
  succeeded : Bool
deriving DecidableEq, Repr

/-- A webhook that was answered as a duplicate of what a row was recorded for.  It is needless if
its event then waited to be handled again. -/
structure Suppression where
  event : EventIdentity
  recorded : EventIdentity
  awaited : Bool
deriving DecidableEq, Repr

structure WebhookDesk where
  rows : List WebhookRow
  calls : List WebhookCall
  handlings : List Handling
  suppressions : List Suppression
deriving DecidableEq, Repr

inductive WebhookAction where
  /-- The checks and the look-up, which may fail. -/
  | ingest (params : WebhookIngestParams) (now : ℤ) (found : Bool)
  /-- The insert, which may fail. -/
  | record (accepted : Accepted) (written : Bool)
  /-- The handler's result, and whether the status is written. -/
  | finish (accepted : Accepted) (result : Except String Unit) (written : Bool)
  | startReplay (eventId : String)
  /-- The handler's result, that of writing the status, and whether a failure is written. -/
  | finishReplay (record : WebhookRow) (result written : Except String Unit)
      (failureWritten : Bool)

/-- A handler of the event is running. -/
def WebhookCall.handles (event : EventIdentity) : WebhookCall → Bool
  | .recording _ => false
  | .handling accepted => accepted.params.hasHandler && accepted.identity = event
  | .replaying record => record.identity = event

def Handling.succeededOn (event : EventIdentity) (handling : Handling) : Bool :=
  handling.succeeded && handling.event = event

namespace WebhookDesk

def opened : WebhookDesk := ⟨[], [], [], []⟩

def row? (s : WebhookDesk) (eventId : String) : Option WebhookRow :=
  s.rows.find? fun row => row.eventId = eventId

def hasSucceeded (s : WebhookDesk) (event : EventIdentity) : Bool :=
  s.handlings.any (Handling.succeededOn event)

def isHandled (s : WebhookDesk) (event : EventIdentity) : Bool :=
  s.calls.any (WebhookCall.handles event)

/-- Handlers of the event have failed, none has succeeded, and none is running. -/
def awaits (s : WebhookDesk) (event : EventIdentity) : Bool :=
  (s.handlings.any fun handling => !handling.succeeded && handling.event = event) &&
    !s.hasSucceeded event && !s.isHandled event

/-- The webhook is answered as a duplicate. -/
def suppress (s : WebhookDesk) (accepted : Accepted) (row : WebhookRow) : WebhookDesk :=
  { s with
    suppressions := ⟨accepted.identity, row.identity, s.awaits accepted.identity⟩ ::
      s.suppressions }

def replace (s : WebhookDesk) (call : WebhookCall) (others : List WebhookCall) : WebhookDesk :=
  { s with calls := others ++ s.calls.erase call }

def addCall (s : WebhookDesk) (call : WebhookCall) : WebhookDesk :=
  { s with calls := call :: s.calls }

def insert (s : WebhookDesk) (row : WebhookRow) : WebhookDesk :=
  { s with rows := s.rows ++ [row] }

def updateRow (s : WebhookDesk) (eventId : String) (f : WebhookRow → WebhookRow) : WebhookDesk :=
  { s with rows := updateKey WebhookRow.eventId eventId f s.rows }

/-- A handler has returned, or thrown. -/
def handled (s : WebhookDesk) (event : EventIdentity) (succeeded : Bool) : WebhookDesk :=
  { s with handlings := ⟨event, succeeded⟩ :: s.handlings }

/-- `substring(0, 500)` -/
def reason (message : String) : Option String := some (String.ofList (message.toList.take 500))

/-- The look-up, from which the webhook goes on to be recorded; where it fails, it is handled
without a record. -/
def lookUp (s : WebhookDesk) (accepted : Accepted) (found : Bool) : WebhookDesk :=
  if found then
    match s.row? accepted.event.eventId with
    | some row => s.suppress accepted row
    | none => s.addCall (.recording accepted)
  else s.addCall (.handling accepted)

def recordEvent (s : WebhookDesk) (accepted : Accepted) (written : Bool) : WebhookDesk :=
  if written then
    match s.row? accepted.event.eventId with
    | some row => (s.suppress accepted row).replace (.recording accepted) []
    | none => (s.insert accepted.row).replace (.recording accepted) [.handling accepted]
  else s.replace (.recording accepted) [.handling accepted]

/-- The end of a handling; without a handler there is nothing to fail. -/
def finishHandling (s : WebhookDesk) (accepted : Accepted) (result : Except String Unit)
    (written : Bool) : WebhookDesk :=
  let closed := s.replace (.handling accepted) []
  let update (f : WebhookRow → WebhookRow) (s : WebhookDesk) :=
    if written then s.updateRow accepted.event.eventId f else s
  if accepted.params.hasHandler then
    match result with
    | .ok () => update (fun row => { row with status := .processed })
        (closed.handled accepted.identity true)
    | .error message =>
      update (fun row => { row with status := .failed, failureReason := reason message })
        (closed.handled accepted.identity false)
  else update (fun row => { row with status := .processed }) closed

/-- The end of a replay; a status that cannot be written counts as a failure. -/
def finishReplaying (s : WebhookDesk) (record : WebhookRow) (result written : Except String Unit)
    (failureWritten : Bool) : WebhookDesk :=
  let closed := s.replace (.replaying record) []
  let fail (message : String) (s : WebhookDesk) :=
    if failureWritten then
      s.updateRow record.eventId fun row =>
        { row with status := .failed, failureReason := reason ("Replay failed: " ++ message) }
    else s
  match result with
  | .error message => fail message (closed.handled record.identity false)
  | .ok () =>
    let done := closed.handled record.identity true
    match written with
    | .ok () => done.updateRow record.eventId fun row =>
      { row with status := .processed, failureReason := none }
    | .error message => fail message done

end WebhookDesk

open WebhookDesk in
def webhookStep (environment : WebhookEnvironment) (s : WebhookDesk) :
    WebhookAction → WebhookDesk
  | .ingest params now found =>
    match normalize environment params now with
    | .error _ => s
    | .ok event => s.lookUp ⟨params, event⟩ found
  | .record accepted written =>
    if .recording accepted ∈ s.calls then s.recordEvent accepted written else s
  | .finish accepted result written =>
    if .handling accepted ∈ s.calls then s.finishHandling accepted result written else s
  | .startReplay eventId =>
    match s.row? eventId with
    | none => s
    | some row => s.addCall (.replaying row)
  | .finishReplay record result written failureWritten =>
    if .replaying record ∈ s.calls then s.finishReplaying record result written failureWritten
    else s

end CarRental.Integrations.Webhooks
