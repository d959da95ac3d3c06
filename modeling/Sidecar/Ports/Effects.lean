import Sidecar.Ports.Models
import Sidecar.Verified.Resumption

/-!
# What a worker does to the world, one request at a time

`Op` lists the effects of the worker's code: queries and flushes of its
database session, calls of the Metronome SDK (a call is a request sent and an
outcome received, so that the process can die in between), the clock, the
random generator, reads and assignments of the mapped event row, and the
`handler_completed` log line.

`Session` is what the running attempt owns.  Besides the ORM state it keeps a
journal of what the attempt has learnt, which no code reads: invariants about
the world are stated over it.
-/

namespace Sidecar.Ports.Effects

open Sidecar.Verified.Resumption
open Sidecar.Ports.Python
open Sidecar.Ports.Mappers
open Sidecar.Ports.Models

/-! ## Metronome calls -/

/-- The SDK calls of the wrapper, with their arguments. -/
inductive MetronomeRequest where
  | createCustomer (body : CustomerRequest)
  | setName (customerId name : String)
  | createContract (body : ContractRequest)
  | listContracts (customerId : String)
deriving DecidableEq, Repr

/-- What an SDK response is made of: pydantic models, dicts, lists and strings;
`other` is any other value, with its truth value. -/
inductive SdkObject where
  | none
  | str (s : String)
  | other (truthy : Bool)
  | list (xs : List SdkObject)
  | dict (items : List (String × SdkObject))
  | model (attrs : List (String × SdkObject))

/-- How an SDK call ends.  It stands for all the POSTs the SDK makes of one
call: the caller sees the end of the last one. -/
inductive SdkOutcome where
  | ok (response : SdkObject)
  | statusError (statusCode : Int) (rateLimitError : Bool) (msg : String)
  | connectionError (msg : String)
  | timeoutError (msg : String)
  | apiError (msg : String)
  /-- A 2xx whose body the SDK cannot turn into a response: an exception that is
  not of the SDK's classes, such as `json.JSONDecodeError`, comes out of the call. -/
  | undecodable (exception msg : String)

/-! ## Results logged by the handlers -/

namespace Customer

/-- `HandlerOutcome` of the customer handlers. -/
inductive HandlerOutcome where
  | CREATED | UPDATED | SKIPPED_ALREADY_MAPPED
deriving DecidableEq, Repr

/-- `HandlerResult` of the customer handlers. -/
structure HandlerResult where
  outcome : HandlerOutcome
  stripeCustomerId : String
  metronomeCustomerId : String
deriving DecidableEq, Repr

end Customer

namespace Subscription

/-- `HandlerOutcome` of the subscription handlers. -/
inductive HandlerOutcome where
  | CREATED | CREATED_VIA_UNIQUENESS_KEY_RECOVERY | SKIPPED_ALREADY_MAPPED
deriving DecidableEq, Repr

/-- `HandlerResult` of the subscription handlers. -/
structure HandlerResult where
  outcome : HandlerOutcome
  stripeSubscriptionId : String
  stripeCustomerId : String
  metronomeCustomerId : String
  metronomeContractId : String
  tierName : String
deriving DecidableEq, Repr

end Subscription

/-- What `handler_completed` reports. -/
inductive Completed where
  | customer (result : Customer.HandlerResult)
  | subscription (result : Subscription.HandlerResult)
deriving DecidableEq, Repr

/-! ## Effects -/

/-- An assignment to a column of the mapped event. -/
inductive Assignment where
  | status (value : Status)
  | lastError (value : Option String)
  | processedAt (value : Option Time)
  | nextAttemptAt (value : Time)

/-- The event row with one column assigned. -/
def Assignment.apply (event : WebhookEvent) : Assignment → WebhookEvent
  | .status value => { event with status := value }
  | .lastError value => { event with lastError := value }
  | .processedAt value => { event with processedAt := value }
  | .nextAttemptAt value => { event with nextAttemptAt := value }

/-- One request of the worker's code to its surroundings. -/
inductive Op where
  | lookupCustomerMapping (stripeCustomerId : String)
  | lookupSubscriptionMapping (stripeSubscriptionId : String)
  | send (request : MetronomeRequest)
  | recv (ticket : Nat) (request : MetronomeRequest)
  | add (write : Write)
  | flush
  | clock
  | uniform (hi : PyFloat)
  | incrementAttempts
  | readAttempts
  | assign (assignment : Assignment)
  | completed (result : Completed)

/-- The type of the reply to a request. A flush and a read of `attempts` can
raise. -/
def Res : Op → Type
  | .lookupCustomerMapping _ => Option CustomerMapping
  | .lookupSubscriptionMapping _ => Option SubscriptionMapping
  | .send _ => Nat
  | .recv _ _ => SdkOutcome
  | .flush => Except PyExc Unit
  | .clock => Time
  | .uniform _ => PyFloat
  | .readAttempts => Except PyExc Int
  | .add _ | .incrementAttempts | .assign _ | .completed _ => Unit

/-- The effectful functions of the sidecar. -/
abbrev Effect := Prog Op Res PyExc

/-- One request, as a program. -/
def perform (o : Op) : Effect (Res o) := .request o

/-- `_lookup_mapping`, and `_lookup_customer_mapping` of the subscription
handlers. -/
def lookupCustomerMapping (stripeCustomerId : String) :
    Effect (Option CustomerMapping) :=
  perform (.lookupCustomerMapping stripeCustomerId)

/-- `_lookup_subscription_mapping`. -/
def lookupSubscriptionMapping (stripeSubscriptionId : String) :
    Effect (Option SubscriptionMapping) :=
  perform (.lookupSubscriptionMapping stripeSubscriptionId)

/-- Await one SDK call. -/
def sdkCall (request : MetronomeRequest) : Effect SdkOutcome := do
  let ticket ← perform (.send request)
  perform (.recv ticket request)

/-- `session.add(row)`, or an assignment to a loaded mapping row. -/
def sessionAdd (write : Write) : Effect Unit := perform (.add write)

/-- `await session.flush()`. -/
def sessionFlush : Effect Unit := do
  let flushed ← perform .flush
  .ofExcept flushed

/-- `datetime.now(UTC)`. -/
def datetimeNow : Effect Time := perform .clock

/-- `random.uniform(0.0, hi)`. -/
def randomUniform (hi : PyFloat) : Effect PyFloat := perform (.uniform hi)

/-- `event.attempts += 1` right after the row was loaded. -/
def incrementAttempts : Effect Unit := perform .incrementAttempts

/-- Read `event.attempts`, which a rolled-back session refuses. -/
def eventAttempts : Effect Int := do
  let attempts ← perform .readAttempts
  .ofExcept attempts

/-- An assignment to a column of the mapped event row. -/
def assign (assignment : Assignment) : Effect Unit := perform (.assign assignment)

/-- `logger.info("handler_completed", ...)`. -/
def logCompleted (result : Completed) : Effect Unit := perform (.completed result)

/-! ## The session of one attempt -/

/-- What an attempt has learnt so far. -/
inductive Fact where
  | customerRow (stripeCustomerId : String) (row : Option CustomerMapping)
  | subscriptionRow (stripeSubscriptionId : String) (row : Option SubscriptionMapping)
  | sent (ticket : Nat) (request : MetronomeRequest)
  | answered (ticket : Nat) (request : MetronomeRequest) (outcome : SdkOutcome)
  | clock (now : Time)
  | drew (value : PyFloat)

/-- What the running attempt owns. -/
structure Session where
  /-- The version of the row that the claim query returned. -/
  loaded : WebhookEvent
  /-- The mapped object, with the assignments made since. -/
  event : WebhookEvent
  pending : List Write
  flushed : List Write
  /-- A flush failed: the transaction is rolled back and the session refuses to
  load expired attributes. -/
  poisoned : Bool
  result : Option Completed
  journal : List Fact

/-- The session of an attempt that has just claimed its row. -/
def Session.start (event : WebhookEvent) : Session where
  loaded := event
  event := event
  pending := []
  flushed := []
  poisoned := false
  result := none
  journal := []

/-- One more entry of the journal. -/
def Session.learn (s : Session) (f : Fact) : Session :=
  { s with journal := f :: s.journal }

/-- The reading, of a fact about the clock. -/
def Fact.time? : Fact → Option Time
  | .clock now => some now
  | _ => none

/-- The last clock reading of an attempt. -/
def lastClock (s : Session) : Option Time := s.journal.findSome? Fact.time?

/-- What the session raises once a flush has failed inside `session.begin()`. -/
def closedTransaction : PyExc :=
  .invalidRequestError ("Can't operate on closed transaction inside context manager.  " ++
    "Please complete the context manager before emitting further commands.")

/-- `random.uniform(0.0, hi)` may return `u`.  On an infinite bound the product
with a draw in `[0, 1)` is infinite, or NaN for the draw `0`. -/
def drawAllowed : PyFloat → PyFloat → Bool
  | .fin hi, .fin u => 0 ≤ u && u ≤ hi
  | .inf, .inf => true
  | .inf, .nan => true
  | .nan, .nan => true
  | _, _ => false

/-- The session after a request and its reply. -/
def Session.after (s : Session) : (o : Op) → Res o → Session
  | .lookupCustomerMapping id, row => s.learn (.customerRow id row)
  | .lookupSubscriptionMapping id, row => s.learn (.subscriptionRow id row)
  | .send request, ticket => s.learn (.sent ticket request)
  | .recv ticket request, outcome => s.learn (.answered ticket request outcome)
  | .add write, _ => { s with pending := s.pending ++ [write] }
  | .flush, .ok _ => { s with flushed := s.flushed ++ s.pending, pending := [] }
  | .flush, .error _ => { s with flushed := [], pending := [], poisoned := true }
  | .clock, now => s.learn (.clock now)
  | .uniform _, u => s.learn (.drew u)
  | .incrementAttempts, _ =>
      { s with event := { s.event with attempts := s.event.attempts + 1 } }
  | .readAttempts, _ => s
  | .assign a, _ => { s with event := a.apply s.event }
  | .completed result, _ => { s with result := some result }

/-- The replies a session admits. -/
def Session.admits (s : Session) : (o : Op) → Res o → Prop
  | .lookupCustomerMapping id, row => ∀ r, row = some r → r.stripeCustomerId = id
  | .lookupSubscriptionMapping id, row =>
      ∀ r, row = some r → r.stripeSubscriptionId = id
  | .flush, reply =>
      if s.poisoned then reply = .error closedTransaction
      else reply = .ok () ∨ ∃ msg, reply = .error (.integrityError msg)
  | .uniform hi, u => drawAllowed hi u = true
  | .readAttempts, reply =>
      reply = if s.poisoned then .error closedTransaction else .ok s.event.attempts
  | _, _ => True

/-- The local semantics of the effects. -/
def semantics : Local Op Res Session where
  admits := fun o r s => s.admits o r
  after := fun o r s => s.after o r

end Sidecar.Ports.Effects
