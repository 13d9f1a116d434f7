import CarRental.Bookings.RentalOperations

/-!
# Fulfillment

`FulfillmentOrchestratorService`: the stage of a booking's fulfillment, beside its status.
`markReadyForPickup` works under the lock of the booking; `executePickup` and `executeReturn` wrap
the operations of the same name and write the stage outside of their lock.

Its outbox events are left out: when one cannot be written, this is only logged.
-/

namespace CarRental

open Calls

structure MarkReadyForPickupRequest where
  bookingId : Id
  actorId : Id
  actorRole : ActorRole
deriving DecidableEq

/-- The transition that `markReadyForPickup` asks for (`markReadyForHandover`). -/
def MarkReadyForPickupRequest.transition (req : MarkReadyForPickupRequest) :
    TransitionContext where
  bookingId := req.bookingId
  actorId := req.actorId
  actorRole := req.actorRole
  target := .handoverReady
  reason := none
  handoverOtp := none

/-- The record of the booking, created from it if there is none. -/
def ensureFulfillmentRecord (desk : RentalDesk) (bookingId : Id) (env : TransitionEnv) :
    DeskReply FulfillmentRecord :=
  if !env.up .fulfillmentRecord then (desk, .error (.internal "The database is unavailable."))
  else
    match desk.fulfillment bookingId with
    | some record => (desk, .ok record)
    | none =>
      match desk.bookings bookingId with
      | none => (desk, .error (.notFound ("Booking #" ++ bookingId ++ " not found.")))
      | some booking =>
        let record : FulfillmentRecord := ⟨booking.vendorId, booking.carId, .allocated⟩
        ({ desk with
          fulfillment := Function.update desk.fulfillment bookingId (some record) }, .ok record)

def updateStage (desk : RentalDesk) (bookingId : Id) (stage : FulfillmentStage)
    (place : HandoverStep) (env : TransitionEnv) : DeskReply Unit :=
  step desk (env.guard place (.ok (desk.setStage bookingId stage)))

def prepareReady (desk : RentalDesk) (req : MarkReadyForPickupRequest) (env : TransitionEnv) :
    DeskReply RentalBooking :=
  andThen (ensureFulfillmentRecord desk req.bookingId env) fun desk _ =>
  match desk.bookings req.bookingId with
  | none => (desk, .error (.notFound ("Booking #" ++ req.bookingId ++ " not found")))
  | some booking =>
    andThen (updateStage desk req.bookingId .readyForPickup .stage env) fun desk _ =>
      (desk, .ok booking)

def beginReady (desk : RentalDesk) (req : MarkReadyForPickupRequest) (env : OperationEnv) :
    DeskReply RentalBooking :=
  beginOperation desk req.bookingId env fun desk => prepareReady desk req env.inner

/-- Only a confirmed booking is moved; the stage is written for any. -/
def finishReady (desk : RentalDesk) (req : MarkReadyForPickupRequest) (booking : RentalBooking)
    (env : OperationEnv) : DeskReply FulfillmentStage :=
  ensuring
    (andThen
      (if booking.status = .confirmed then
        andThen (executeTransition desk req.transition env.inner) fun desk _ => (desk, .ok ())
      else (desk, .ok ()))
      fun desk _ => (desk, .ok .readyForPickup))
    fun desk => desk.release req.bookingId env.token

namespace RentalDesk

def markReadyForPickup (desk : RentalDesk) (req : MarkReadyForPickupRequest) (env : OperationEnv) :
    DeskReply FulfillmentStage :=
  andThen (beginReady desk req env) fun desk booking => finishReady desk req booking env

/-- `executePickup` of the orchestrator. -/
def orchestratePickup (desk : RentalDesk) (req : PickupExecutionRequest) (env : OperationEnv) :
    DeskReply BookingTransitionResult :=
  andThen (desk.executePickup req env) fun desk result =>
  andThen (ensureFulfillmentRecord desk req.bookingId env.inner) fun desk _ =>
  andThen (updateStage desk req.bookingId .activeRental .finalStage env.inner) fun desk _ =>
  (desk, .ok result)

/-- `executeReturn` of the orchestrator: the stage is written before the operation. -/
def orchestrateReturn (desk : RentalDesk) (req : ReturnExecutionRequest) (env : OperationEnv) :
    DeskReply ReturnSettlementResult :=
  andThen (ensureFulfillmentRecord desk req.bookingId env.inner) fun desk _ =>
  andThen (updateStage desk req.bookingId .returnInspectionPending .stage env.inner) fun desk _ =>
  andThen (desk.executeReturn req env) fun desk result =>
  andThen (updateStage desk req.bookingId .completed .finalStage env.inner) fun desk _ =>
  (desk, .ok result)

end RentalDesk

end CarRental
