import Mathlib.Data.List.Sort
import Sidecar.Ports.Mappers
import Sidecar.Verified.KeyedTable

/-!
# The tables and the transactions that write them

The three tables are keyed by their primary keys.  Next to the committed
versions `Postgres` holds what open transactions own: the row locks taken by
`FOR UPDATE`, and the rows they have flushed but not yet committed, which other
transactions do not see but whose unique keys they have to wait for.
-/

namespace Sidecar.Ports.Models

open Sidecar.Verified.KeyedTable
open Sidecar.Ports.Python

/-! ## Rows -/

/-- The values of `webhook_events.status`. -/
inductive Status where
  | PENDING | PROCESSING | PROCESSED | FAILED
deriving DecidableEq, Repr

/-- A row of `webhook_events`. -/
structure WebhookEvent where
  stripeEventId : String
  eventType : String
  payload : JsonObject
  status : Status
  attempts : Int
  lastError : Option String
  receivedAt : Time
  nextAttemptAt : Time
  processedAt : Option Time

/-- A row of `customer_mappings`. -/
structure CustomerMapping where
  stripeCustomerId : String
  metronomeCustomerId : String
  updatedAt : Time
deriving DecidableEq, Repr

/-- A row of `subscription_mappings`. -/
structure SubscriptionMapping where
  stripeSubscriptionId : String
  stripeCustomerId : String
  metronomeContractId : String
  currentTierName : String
  currentStripePriceId : String
  updatedAt : Time
deriving DecidableEq, Repr

/-- A change to the mapping tables made through the session. -/
inductive Write where
  | insertCustomer (row : CustomerMapping)
  | insertSubscription (row : SubscriptionMapping)
  | touchCustomer (stripeCustomerId : String) (updatedAt : Time)
deriving DecidableEq, Repr

/-! ## The database -/

/-- A worker process, one transaction at a time. -/
abbrev WorkerId := Nat

/-- The committed tables, the row locks of claims and what open transactions
have flushed. -/
structure Postgres where
  webhookEvents : Table String WebhookEvent WebhookEvent.stripeEventId
  customerMappings : Table String CustomerMapping CustomerMapping.stripeCustomerId
  subscriptionMappings :
    Table String SubscriptionMapping SubscriptionMapping.stripeSubscriptionId
  locks : String → Option WorkerId
  uncommitted : List (WorkerId × Write)

/-- The database right after the migrations. -/
def Postgres.empty : Postgres where
  webhookEvents := .empty
  customerMappings := .empty
  subscriptionMappings := .empty
  locks := fun _ => none
  uncommitted := []

/-- Two inserts that a unique index does not let coexist. -/
def Write.clashes : Write → Write → Bool
  | .insertCustomer a, .insertCustomer b =>
      a.stripeCustomerId = b.stripeCustomerId ||
        a.metronomeCustomerId = b.metronomeCustomerId
  | .insertSubscription a, .insertSubscription b =>
      a.stripeSubscriptionId = b.stripeSubscriptionId ||
        a.metronomeContractId = b.metronomeContractId
  | _, _ => false

/-- Two writes of which the second waits for the transaction of the first: the
same unique key, or the same row updated. -/
def Write.waitsFor : Write → Write → Bool
  | .touchCustomer a _, .touchCustomer b _ => a = b
  | w, w' => w.clashes w'

namespace Postgres

/-- What worker `i` has flushed in its open transaction. -/
def own (db : Postgres) (i : WorkerId) : List Write :=
  db.uncommitted.filterMap fun x => if x.1 = i then some x.2 else none

/-- Some other open transaction has to end before `ws` can be written. -/
def blocked (db : Postgres) (i : WorkerId) (ws : List Write) : Bool :=
  db.uncommitted.any fun x => x.1 ≠ i && ws.any fun w => w.waitsFor x.2

/-- The constraint that `w` violates against the committed rows and the rows
`own` of its own transaction. -/
def violates (db : Postgres) (enforceFk : Bool) (own : List Write) :
    Write → Option String
  | .insertCustomer row =>
      if (db.customerMappings.find? row.stripeCustomerId).isSome then
        some "customer_mappings_pkey"
      else if db.customerMappings.rows.any
          fun r => r.metronomeCustomerId = row.metronomeCustomerId then
        some "uq_customer_mappings_metronome_customer_id"
      else if own.any fun w => w.clashes (.insertCustomer row) then
        some "customer_mappings_pkey"
      else none
  | .insertSubscription row =>
      if (db.subscriptionMappings.find? row.stripeSubscriptionId).isSome then
        some "subscription_mappings_pkey"
      else if db.subscriptionMappings.rows.any
          fun r => r.metronomeContractId = row.metronomeContractId then
        some "uq_subscription_mappings_metronome_contract_id"
      else if own.any fun w => w.clashes (.insertSubscription row) then
        some "subscription_mappings_pkey"
      else if enforceFk &&
          (db.customerMappings.find? row.stripeCustomerId).isNone &&
          !(own.any fun w => match w with
            | .insertCustomer r => r.stripeCustomerId = row.stripeCustomerId
            | _ => false) then
        some "fk_subscription_mappings_stripe_customer"
      else none
  | .touchCustomer _ _ => none

/-- The first constraint violated when `ws` is written row by row. -/
def refusal (db : Postgres) (enforceFk : Bool) (own : List Write) :
    List Write → Option String
  | [] => none
  | w :: ws =>
      match db.violates enforceFk own w with
      | some constraint => some constraint
      | none => db.refusal enforceFk (own ++ [w]) ws

/-- `FOR UPDATE`: the row is locked until the transaction of the worker ends.
-/
def lock (db : Postgres) (i : WorkerId) (eventId : String) : Postgres :=
  { db with locks := fun e => if e = eventId then some i else db.locks e }

/-- A flush of `ws`. -/
def stage (db : Postgres) (i : WorkerId) (ws : List Write) : Postgres :=
  { db with uncommitted := db.uncommitted ++ ws.map fun w => (i, w) }

/-- End the transaction of worker `i`, dropping what it has not committed. -/
def rollback (db : Postgres) (i : WorkerId) : Postgres :=
  { db with
    locks := fun e => if db.locks e = some i then none else db.locks e
    uncommitted := db.uncommitted.filter fun x => x.1 ≠ i }

/-- Make one write visible to everybody. -/
def apply (db : Postgres) : Write → Postgres
  | .insertCustomer row =>
      { db with customerMappings := db.customerMappings.insertNew row }
  | .insertSubscription row =>
      { db with subscriptionMappings := db.subscriptionMappings.insertNew row }
  | .touchCustomer stripeCustomerId updatedAt =>
      match db.customerMappings.find? stripeCustomerId with
      | some row =>
          { db with customerMappings := db.customerMappings.update { row with
            updatedAt } }
      | none => db

/-- `UPDATE webhook_events SET ...` of the columns a worker assigns. -/
def updateEvent (db : Postgres) (event : WebhookEvent) : Postgres :=
  match db.webhookEvents.find? event.stripeEventId with
  | some row =>
      { db with webhookEvents := db.webhookEvents.update { row with
          status := event.status
          attempts := event.attempts
          lastError := event.lastError
          nextAttemptAt := event.nextAttemptAt
          processedAt := event.processedAt } }
  | none => db

/-- Commit the transaction of worker `i`, which holds `event`. -/
def commit (db : Postgres) (i : WorkerId) (event : WebhookEvent) : Postgres :=
  (((db.own i).foldl apply db).updateEvent event).rollback i

/-! ## The claim query -/

/-- `WHERE status = 'pending' AND next_attempt_at <= now`. -/
def ready (now : Time) (row : WebhookEvent) : Bool :=
  row.status = .PENDING && row.nextAttemptAt ≤ now

/-- The rows the claim query will try to lock, oldest first. -/
def candidates (db : Postgres) (now : Time) : List String :=
  ((db.webhookEvents.rows.filter (ready now)).insertionSort
    fun a b => a.receivedAt ≤ b.receivedAt).map (·.stripeEventId)

/-- `FOR UPDATE SKIP LOCKED` on one candidate: its latest version, if nobody
holds it and it still satisfies the `WHERE` clause. -/
def lockable (db : Postgres) (now : Time) (eventId : String) : Option WebhookEvent :=
  if db.locks eventId = none then
    (db.webhookEvents.find? eventId).filter (ready now)
  else none

end Postgres

end Sidecar.Ports.Models
