import CarRental.Money
import Mathlib.Logic.Function.Basic

/-!
# The outbox

`BookingOutboxService.dispatchEvent`, which is called directly after a commit and by the workers of
`OutboxWorkerService`, and the recovery of events whose worker has not come back.

Every call waits between what it reads of an event and what it writes, so each of its statements is
a step.  An event is written by its id, whatever has become of it; only a claim looks at the status
again.  A call may end at any point without a further write (`crash`).

How many attempts of an event have failed is counted apart from the table (`failures`): a handler
that throws, a read that fails, and a call that is lost between the claim and its end.
-/

namespace CarRental

inductive OutboxStatus where
  | pending
  | processing
  | published
  | failed
  | deadLetter
deriving DecidableEq, Repr

structure OutboxEvent where
  status : OutboxStatus
  retryCount : ℕ
  maxRetries : ℕ
  updatedAt : ℤ
deriving DecidableEq

/-- A row as a call has read it. -/
structure ReadEvent where
  id : Id
  event : OutboxEvent
deriving DecidableEq

namespace OutboxEvent

def recordFailure (event read : OutboxEvent) (now : ℤ) : OutboxEvent :=
  { event with
    status := if read.maxRetries ≤ read.retryCount + 1 then .deadLetter else .failed
    retryCount := read.retryCount + 1
    updatedAt := now }

def isCandidate (event : OutboxEvent) : Bool :=
  event.status = .pending ∨ event.status = .failed ∧ event.retryCount < 5

def backoffMs (event : OutboxEvent) : ℤ := min 60000 (1000 * 2 ^ event.retryCount)

/-- A failed event waits before it is claimed. -/
def backoffOver (event : OutboxEvent) (now : ℤ) : Bool :=
  event.status ≠ .failed ∨ event.backoffMs ≤ now - event.updatedAt

/-- The query of the recovery. -/
def isStale (event : OutboxEvent) (now : ℤ) : Bool :=
  event.status = .processing ∧ event.updatedAt < now - 300000

end OutboxEvent

/-! ## Calls -/

inductive OutboxCall where
  /-- A worker has an event among its candidates. -/
  | candidate (read : ReadEvent) (fetchedAt : ℤ)
  | claimed (read : ReadEvent)
  /-- `dispatchEvent` after its read, for a worker with what that has claimed. -/
  | dispatching (read : ReadEvent) (worker : Option ReadEvent)
  /-- A worker to which `dispatchEvent` has not answered `true`. -/
  | unsuccessful (read : ReadEvent)
  | recovering (read : ReadEvent)
deriving DecidableEq

structure Outbox where
  events : Id → Option OutboxEvent
  now : ℤ
  calls : List OutboxCall
  failures : Id → ℕ

inductive OutboxAction where
  | create (id : Id) (maxRetries : ℕ)
  | dispatchDirectly (id : Id)
  | fetch (id : Id)
  | claim (read : ReadEvent) (fetchedAt : ℤ)
  | beginDispatch (read : ReadEvent)
  /-- The first read of `dispatchEvent` throws. -/
  | failRead (read : ReadEvent)
  | publish (read : ReadEvent) (worker : Option ReadEvent)
  /-- The handler throws; that is recorded, unless this write fails as well. -/
  | fail (read : ReadEvent) (worker : Option ReadEvent) (recorded : Bool)
  /-- The write after an exception in the worker's loop. -/
  | recordUnexpected (read : ReadEvent)
  | findStale (id : Id)
  | recover (read : ReadEvent)
  | crash (call : OutboxCall)
  | advance (milliseconds : ℕ)

/-- The call of a worker that is dispatching an event. -/
def OutboxCall.isWorkerOn (id : Id) : OutboxCall → Bool
  | .claimed read => read.id = id
  | .dispatching read worker => worker.isSome ∧ read.id = id
  | _ => false

def OutboxCall.attempted : OutboxCall → Option Id
  | .claimed read => some read.id
  | .dispatching read _ => some read.id
  | _ => none

namespace Outbox

def opened (now : ℤ) : Outbox := ⟨fun _ => none, now, [], fun _ => 0⟩

def setEvent (s : Outbox) (id : Id) (event : OutboxEvent) : Outbox :=
  { s with events := Function.update s.events id (some event) }

def updateEvent (s : Outbox) (id : Id) (f : OutboxEvent → OutboxEvent) : Outbox :=
  match s.events id with
  | none => s
  | some event => s.setEvent id (f event)

/-- What is written of a failure, from the row as it was read. -/
def writeFailure (s : Outbox) (read : ReadEvent) : Outbox :=
  s.updateEvent read.id fun event => event.recordFailure read.event s.now

def countFailure (s : Outbox) (id : Id) : Outbox :=
  { s with failures := Function.update s.failures id (s.failures id + 1) }

def replace (s : Outbox) (call : OutboxCall) (others : List OutboxCall) : Outbox :=
  { s with calls := others ++ s.calls.erase call }

def readRow (s : Outbox) (id : Id) (p : OutboxEvent → Bool) (call : ReadEvent → OutboxCall) :
    Outbox :=
  match s.events id with
  | none => s
  | some event => if p event then { s with calls := call ⟨id, event⟩ :: s.calls } else s

/-- The update of a claim, for a candidate whose backoff is over. -/
def claimable (s : Outbox) (read : ReadEvent) (fetchedAt : ℤ) : Bool :=
  read.event.backoffOver fetchedAt ∧
    (s.events read.id).any fun event => event.status = .pending ∨ event.status = .failed

def readClaimed (s : Outbox) (read : ReadEvent) : Outbox :=
  match s.events read.id with
  | none => s.replace (.claimed read) [.unsuccessful read]
  | some event =>
    if event.status = .published then s.replace (.claimed read) []
    else s.replace (.claimed read) [.dispatching ⟨read.id, event⟩ (some read)]

end Outbox

open Outbox in
def outboxStep (s : Outbox) : OutboxAction → Outbox
  | .create id maxRetries =>
    if s.events id = none then s.setEvent id ⟨.pending, 0, maxRetries, s.now⟩ else s
  | .dispatchDirectly id =>
    s.readRow id (fun event => event.status ≠ .published) (.dispatching · none)
  | .fetch id => s.readRow id OutboxEvent.isCandidate (.candidate · s.now)
  | .claim read fetchedAt =>
    if .candidate read fetchedAt ∈ s.calls then
      if s.claimable read fetchedAt then
        (s.updateEvent read.id fun event =>
          { event with status := .processing, updatedAt := s.now }).replace
            (.candidate read fetchedAt) [.claimed read]
      else s.replace (.candidate read fetchedAt) []
    else s
  | .beginDispatch read => if .claimed read ∈ s.calls then s.readClaimed read else s
  | .failRead read =>
    if .claimed read ∈ s.calls then
      (s.countFailure read.id).replace (.claimed read) [.unsuccessful read]
    else s
  | .publish read worker =>
    if .dispatching read worker ∈ s.calls then
      (s.updateEvent read.id fun event => { event with status := .published, updatedAt := s.now }
        ).replace (.dispatching read worker) []
    else s
  | .fail read worker recorded =>
    if .dispatching read worker ∈ s.calls then
      ((if recorded then s.writeFailure read else s).countFailure read.id).replace
        (.dispatching read worker) (worker.toList.map .unsuccessful)
    else s
  | .recordUnexpected read =>
    if .unsuccessful read ∈ s.calls then
      (s.writeFailure read).replace (.unsuccessful read) []
    else s
  | .findStale id => s.readRow id (OutboxEvent.isStale · s.now) .recovering
  | .recover read =>
    if .recovering read ∈ s.calls then (s.writeFailure read).replace (.recovering read) []
    else s
  | .crash call =>
    if call ∈ s.calls then
      (call.attempted.elim s s.countFailure).replace call []
    else s
  | .advance milliseconds => { s with now := s.now + milliseconds }

end CarRental
