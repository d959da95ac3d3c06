import Sidecar.Ports.Worker
import Sidecar.Ports.Receiver
import Sidecar.Verified.Transition

/-!
# The whole system

A `World` is the database, any number of workers, Metronome, and a clock.  A
label says which party moves and how its choices are resolved; `step` carries
the move out.  Workers move one request at a time, so any two of them, the
receiver, the operator and Metronome interleave arbitrarily, and a worker can
crash between any two of its requests.

`history` is a ghost: it records what a log of the run would show, and no step
depends on it.
-/

namespace Sidecar.Ports.System

open Sidecar.Verified.Resumption
open Sidecar.Verified.KeyedTable
open Sidecar.Verified.Transition
open Sidecar.Ports.Python
open Sidecar.Ports.Config
open Sidecar.Ports.Models
open Sidecar.Ports.Effects
open Sidecar.Ports.Worker
open Sidecar.Ports.Receiver

/-! ## Metronome as seen from the sidecar -/

/-- A remote service: what a request does to its store when it is sent, the
moves the service makes on its own (carrying out a request in flight is one),
and the outcomes a call may end with. -/
structure Metronome where
  Store : Type
  Choice : Type
  send : Store → Nat → MetronomeRequest → Store
  serve : Store → Choice → Option Store
  recv : Store → Nat → MetronomeRequest → SdkOutcome → Bool

/-- What is fixed during a run. -/
structure Env where
  settings : Settings
  tiers : TierTable
  sdk : StripeSdk
  /-- Whether the database enforces the foreign key of `subscription_mappings`. -/
  enforceFk : Bool

/-! ## Worlds -/

/-- Where a worker is in `_process_one`. -/
inductive Phase where
  | idle
  /-- The claim query runs: the candidates it has not tried yet. -/
  | scanning (now : Time) (rest : List String)
  | running (session : Session) (rest : Effect Unit)

/-- An entry of the history, a ghost that no step reads. -/
inductive Entry where
  /-- The receiver inserted the event, or the operator replayed it. -/
  | enqueued (eventId : String)
  /-- A worker claimed the event. -/
  | started (eventId : String)
  | called (eventId : String) (ticket : Nat) (request : MetronomeRequest)
  /-- An attempt was committed, leaving this event row; the last time it read
  the clock; the result its handler logged. -/
  | attempted (event : WebhookEvent) (at_ : Option Time) (result : Option Completed)

/-- One state of the whole system. -/
structure World (M : Metronome) where
  now : Time
  db : Postgres
  workers : WorkerId → Phase
  remote : M.Store
  tickets : Nat
  history : List Entry

namespace World

variable {M : Metronome}

/-- Worker `i` is in phase `p` now. -/
def setPhase (w : World M) (i : WorkerId) (p : Phase) : World M :=
  { w with workers := Function.update w.workers i p }

/-- One more entry of the history. -/
def log (w : World M) (e : Entry) : World M := { w with history := e :: w.history }

/-- Worker `i` loses its transaction. -/
def abort (w : World M) (i : WorkerId) : World M :=
  { w with db := w.db.rollback i }.setPhase i .idle

end World

/-! ## Steps -/

/-- The choice that resolves one request of a worker. -/
inductive Choice where
  | none
  | outcome (outcome : SdkOutcome)
  | draw (value : PyFloat)

/-- Who takes a step, with the choices that are not the code's. -/
inductive Label (M : Metronome) where
  | tick (now : Time)
  | webhook (request : WebhookRequest)
  | replay (eventId : String)
  | select (i : WorkerId)
  | lock (i : WorkerId)
  | perform (i : WorkerId) (choice : Choice)
  | finish (i : WorkerId)
  | crash (i : WorkerId)
  | serve (choice : M.Choice)

variable (env : Env) (M : Metronome)

/-- The rows a transaction sees: the committed ones and its own. -/
def view (db : Postgres) (i : WorkerId) : Postgres := (db.own i).foldl .apply db

/-- Carry out one request of worker `i`.  A request that has to wait for
another transaction, or a choice that does not fit it, is not a step. -/
def exec {M : Metronome} (w : World M) (i : WorkerId) (s : Session) :
    (o : Op) → Choice → Option (World M × Res o)
  | .lookupCustomerMapping id, _ =>
      some (w, (view w.db i).customerMappings.find? id)
  | .lookupSubscriptionMapping id, _ =>
      some (w, (view w.db i).subscriptionMappings.find? id)
  | .send request, _ =>
      some ({ w with
        remote := M.send w.remote w.tickets request
        tickets := w.tickets + 1
        history := .called s.loaded.stripeEventId w.tickets request :: w.history },
        w.tickets)
  | .recv ticket request, .outcome outcome =>
      if M.recv w.remote ticket request outcome then some (w, outcome) else none
  | .flush, _ =>
      if s.poisoned then some (w, .error closedTransaction)
      else if w.db.blocked i s.pending then none
      else match w.db.refusal env.enforceFk (w.db.own i) s.pending with
        | some constraint =>
            some ({ w with db := w.db.rollback i }, .error (.integrityError constraint))
        | none => some ({ w with db := w.db.stage i s.pending }, .ok ())
  | .clock, _ => some (w, w.now)
  | .uniform hi, .draw u => if drawAllowed hi u then some (w, u) else none
  | .readAttempts, _ =>
      some (w, if s.poisoned then .error closedTransaction else .ok s.event.attempts)
  | .add _, _ | .incrementAttempts, _ | .assign _, _ | .completed _, _ => some (w, ())
  | .recv _ _, _ | .uniform _, _ => none

/-- The end of `session.begin()`: flush what is left and commit, or roll
back. -/
def finish {M : Metronome} (w : World M) (i : WorkerId) (s : Session) :
    Effect Unit → Option (World M)
  | .ret _ =>
      if s.poisoned then some (w.abort i)
      else if w.db.blocked i s.pending then none
      else match w.db.refusal env.enforceFk (w.db.own i) s.pending with
        | some _ => some (w.abort i)
        | none =>
            some (({ w with db := (w.db.stage i s.pending).commit i s.event }.setPhase
            i .idle).log (.attempted s.event (lastClock s) s.result))
  | .raise _ => some (w.abort i)
  | .perform _ _ => none

/-- The operator's `UPDATE webhook_events SET status='pending', ...` on a
failed row. -/
def replayed (now : Time) (row : WebhookEvent) : WebhookEvent :=
  { row with
    status := .PENDING
    attempts := 0
    nextAttemptAt := now
    lastError := none
    processedAt := none }

/-- One step, if it is enabled. -/
def step (w : World M) : Label M → Option (World M)
  | .tick now => some { w with now := now }
  | .webhook request =>
      let result := stripeWebhook env.sdk env.settings w.now request w.db
      match result.persisted with
      | some eventId => some ({ w with db := result.db }.log (.enqueued eventId))
      | none => some { w with db := result.db }
  | .replay eventId =>
      match w.db.webhookEvents.find? eventId with
      | some row =>
          if row.status = .FAILED then
            some ({ w with db := { w.db with
              webhookEvents := w.db.webhookEvents.update (replayed w.now row) } }.log
                (.enqueued eventId))
          else none
      | none => none
  | .select i =>
      match w.workers i with
      | .idle => some (w.setPhase i (.scanning w.now (w.db.candidates w.now)))
      | _ => none
  | .lock i =>
      match w.workers i with
      | .scanning _ [] => some (w.setPhase i .idle)
      | .scanning now (eventId :: rest) =>
          match w.db.lockable now eventId with
          | some row =>
              some (({ w with db := w.db.lock i eventId }.setPhase i
                (.running (.start row) (handleEvent env.settings env.tiers row))).log
                  (.started eventId))
          | none => some (w.setPhase i (.scanning now rest))
      | _ => none
  | .perform i choice =>
      match w.workers i with
      | .running s (.perform o k) =>
          (exec env w i s o choice).map fun x =>
            x.1.setPhase i (.running (s.after o x.2) (k x.2))
      | _ => none
  | .finish i =>
      match w.workers i with
      | .running s p => finish env w i s p
      | _ => none
  | .crash i =>
      match w.workers i with
      | .idle => none
      | _ => some (w.abort i)
  | .serve choice => (M.serve w.remote choice).map fun remote => { w with remote }

/-- Empty tables, idle workers, no history. -/
structure Initial {M : Metronome} (w : World M) : Prop where
  db : w.db = .empty
  workers : ∀ i, w.workers i = .idle
  tickets : w.tickets = 0
  history : w.history = []

end Sidecar.Ports.System
