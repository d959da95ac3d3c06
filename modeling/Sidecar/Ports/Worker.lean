import Sidecar.Ports.Handlers

/-!
# The worker: dispatch, verdict and retry schedule

`handleEvent` is `Worker._handle_event` on a freshly claimed row.  The claim
and the commit around it belong to the transaction and are steps of the
system, in `System`.
-/

namespace Sidecar.Ports.Worker

open Sidecar.Verified.Resumption
open Sidecar.Ports.Python
open Sidecar.Ports.Config
open Sidecar.Ports.Models
open Sidecar.Ports.Effects
open Sidecar.Ports.Handlers

/-- The values of the registry. -/
inductive Handler where
  | customerCreated
  | customerUpdated
  | subscriptionCreated
  | subscriptionUpdated
  | subscriptionDeleted
deriving DecidableEq, Repr

/-- `HANDLERS`, the registry of event types. -/
def HANDLERS : List (String × Handler) :=
  [ ("customer.created", .customerCreated)
  , ("customer.updated", .customerUpdated)
  , ("customer.subscription.created", .subscriptionCreated)
  , ("customer.subscription.updated", .subscriptionUpdated)
  , ("customer.subscription.deleted", .subscriptionDeleted) ]

/-- The call of a registered handler. -/
def Handler.run (settings : Settings) (tiers : TierTable) (eventPayload : JsonObject) :
    Handler → Effect Unit
  | .customerCreated => handleCustomerCreated eventPayload
  | .customerUpdated => handleCustomerUpdated eventPayload
  | .subscriptionCreated => handleSubscriptionCreated settings tiers eventPayload
  | .subscriptionUpdated => handleSubscriptionUpdated eventPayload
  | .subscriptionDeleted => handleSubscriptionDeleted eventPayload

/-- `_mark_failed`. -/
def markFailed (reason : String) (permanent : Bool) : Effect Unit := do
  assign (.status .FAILED)
  assign (.lastError (some
    (if permanent then s!"PERMANENT: {reason}" else s!"EXHAUSTED RETRIES: {reason}")))
  let now ← datetimeNow
  assign (.processedAt (some now))

/-- Exponential backoff with full jitter and a floor of one second. -/
def backoffDelay (attempts : Int) (baseSeconds capSeconds : PyFloat) :
    Effect PyFloat := do
  let attempts := if attempts < 1 then 1 else attempts
  let raw ← .ofExcept (timesPow2 baseSeconds (attempts - 1).toNat)
  let capped := raw.min capSeconds
  let draw ← randomUniform capped
  return maxOne draw

/-- `_schedule_retry_or_fail`: the event fails once its attempts are used up,
else it is rescheduled. The status is assigned before the sum that can
overflow. -/
def scheduleRetryOrFail (settings : Settings) (reason : String) : Effect Unit := do
  let attempts ← eventAttempts
  if settings.workerMaxAttempts ≤ attempts then
    markFailed reason false
  else
    let delay ← backoffDelay attempts settings.workerRetryBaseSeconds
      settings.workerRetryCapSeconds
    assign (.status .PENDING)
    let now ← datetimeNow
    let nextAttemptAt ← .ofExcept (addSeconds now delay)
    assign (.nextAttemptAt nextAttemptAt)
    assign (.lastError (some reason))

/-- The assignments of the `else` clause and of an unknown event type. -/
def markProcessed : Effect Unit := do
  assign (.status .PROCESSED)
  let now ← datetimeNow
  assign (.processedAt (some now))
  assign (.lastError none)

/-- `_handle_event`: count the attempt, run the handler, record the verdict on
the row. -/
def handleEvent (settings : Settings) (tiers : TierTable) (event : WebhookEvent) :
    Effect Unit := do
  incrementAttempts
  match HANDLERS.lookup event.eventType with
  | none => markProcessed
  | some handler =>
    match ← (handler.run settings tiers event.payload).attempt with
    | .ok _ => markProcessed
    | .error (.permanentHandlerError msg) => markFailed msg true
    | .error (.retryableHandlerError msg) => scheduleRetryOrFail settings msg
    | .error exc => scheduleRetryOrFail settings s!"{exc.typeName}: {exc.str}"

end Sidecar.Ports.Worker
