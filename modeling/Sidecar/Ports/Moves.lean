import Sidecar.Ports.System
import Sidecar.Ports.Execution

/-!
# What a step of the system can do

`Exec` and `Move` are the relational readings of `exec` and `step`: one
constructor for each thing that can happen, with every guard that was passed.
Invariants are proved by cases on `Move` and never unfold `step`.

## Main results

* `exec_sound`, `step_sound` — what was executed is one of the listed cases.
* `Exec.admits` — the database and Metronome answer as the session expects.
-/

namespace Sidecar.Ports.Moves

open Sidecar.Verified.Resumption
open Sidecar.Verified.KeyedTable
open Sidecar.Verified.Transition
open Sidecar.Ports.Python
open Sidecar.Ports.Config
open Sidecar.Ports.Models
open Sidecar.Ports.Effects
open Sidecar.Ports.Worker
open Sidecar.Ports.Receiver
open Sidecar.Ports.System
open Sidecar.Ports.Attempt

variable {env : Env} {M : Metronome}

/-! ## Requests of a worker -/

/-- The reply to one request and the world after it. -/
inductive Exec (env : Env) (w : World M) (i : WorkerId) (s : Session) :
    (o : Op) → Res o → World M → Prop where
  | lookupCustomerMapping (c : String) :
      Exec env w i s (.lookupCustomerMapping c) ((view w.db i).customerMappings.find? c) w
  | lookupSubscriptionMapping (sub : String) :
      Exec env w i s (.lookupSubscriptionMapping sub)
        ((view w.db i).subscriptionMappings.find? sub) w
  | send (request : MetronomeRequest) :
      Exec env w i s (.send request) w.tickets { w with
        remote := M.send w.remote w.tickets request
        tickets := w.tickets + 1
        history := .called s.loaded.stripeEventId w.tickets request :: w.history }
  | recv {ticket : Nat} {request : MetronomeRequest} {outcome : SdkOutcome} :
      M.recv w.remote ticket request outcome = true →
      Exec env w i s (.recv ticket request) outcome w
  | add (write : Write) : Exec env w i s (.add write) () w
  | flushDead : s.poisoned = true → Exec env w i s .flush (.error closedTransaction) w
  | flushRefused {constraint : String} :
      s.poisoned = false → w.db.blocked i s.pending = false →
      w.db.refusal env.enforceFk (w.db.own i) s.pending = some constraint →
      Exec env w i s .flush (.error (.integrityError constraint))
        { w with db := w.db.rollback i }
  | flushStaged :
      s.poisoned = false → w.db.blocked i s.pending = false →
      w.db.refusal env.enforceFk (w.db.own i) s.pending = none →
      Exec env w i s .flush (.ok ()) { w with db := w.db.stage i s.pending }
  | clock : Exec env w i s .clock w.now w
  | uniform {hi u : PyFloat} :
      drawAllowed hi u = true → Exec env w i s (.uniform hi) u w
  | incrementAttempts : Exec env w i s .incrementAttempts () w
  | readAttempts : Exec env w i s .readAttempts
      (if s.poisoned then .error closedTransaction else .ok s.event.attempts) w
  | assign (a : Assignment) : Exec env w i s (.assign a) () w
  | completed (result : Completed) : Exec env w i s (.completed result) () w

theorem exec_sound {w w' : World M} {i : WorkerId} {s : Session} {o : Op}
    {choice : Choice} {r : Res o} (h : exec env w i s o choice = some (w', r)) :
    Exec env w i s o r w' := by
  cases o with
  | lookupCustomerMapping c => cases h; exact .lookupCustomerMapping c
  | lookupSubscriptionMapping sub => cases h; exact .lookupSubscriptionMapping sub
  | send request => cases h; exact .send request
  | recv ticket request =>
      cases choice with
      | none => cases h
      | draw value => cases h
      | outcome outcome =>
          simp only [exec] at h
          split at h
          · next hr => cases h; exact .recv hr
          · cases h
  | add write => cases h; exact .add write
  | flush =>
      simp only [exec] at h
      split at h
      · next hp => cases h; exact .flushDead hp
      · next hp =>
          have hp : s.poisoned = false := Bool.eq_false_of_not_eq_true hp
          split at h
          · cases h
          · next hb =>
              have hb := Bool.eq_false_of_not_eq_true hb
              split at h
              · next hr => cases h; exact .flushRefused hp hb hr
              · next hr => cases h; exact .flushStaged hp hb hr
  | clock => cases h; exact .clock
  | uniform hi =>
      cases choice with
      | none => cases h
      | outcome outcome => cases h
      | draw value =>
          simp only [exec] at h
          split at h
          · next hr => cases h; exact .uniform hr
          · cases h
  | incrementAttempts => cases h; exact .incrementAttempts
  | readAttempts => cases h; exact .readAttempts
  | assign a => cases h; exact .assign a
  | completed result => cases h; exact .completed result

theorem Exec.admits {w w' : World M} {i : WorkerId} {s : Session} {o : Op} {r : Res o}
    (h : Exec env w i s o r w') : s.admits o r := by
  cases h with
  | lookupCustomerMapping c => exact fun row hrow => Table.find?_key hrow
  | lookupSubscriptionMapping sub => exact fun row hrow => Table.find?_key hrow
  | flushDead hp =>
      show if s.poisoned then _ else _
      rw [if_pos hp]
  | flushRefused hp _ _ =>
      show if s.poisoned then _ else _
      rw [hp]
      exact .inr ⟨_, rfl⟩
  | flushStaged hp _ _ =>
      show if s.poisoned then _ else _
      rw [hp]
      exact .inl rfl
  | uniform hu => exact hu
  | readAttempts => exact rfl
  | _ => trivial

/-- A request leaves the phases and the clock alone. -/
theorem Exec.workers {w w' : World M} {i : WorkerId} {s : Session} {o : Op} {r : Res o}
    (h : Exec env w i s o r w') : w'.workers = w.workers := by
  cases h <;> rfl

/-- A request changes no committed row. -/
theorem Exec.committed {w w' : World M} {i : WorkerId} {s : Session} {o : Op} {r : Res o}
    (h : Exec env w i s o r w') :
    w'.db.webhookEvents = w.db.webhookEvents ∧
      w'.db.customerMappings = w.db.customerMappings ∧
      w'.db.subscriptionMappings = w.db.subscriptionMappings := by
  cases h <;> exact ⟨rfl, rfl, rfl⟩

/-! ## Steps -/

/-- One step of the system. -/
inductive Move (env : Env) (w : World M) : Label M → World M → Prop where
  | tick (now : Time) : Move env w (.tick now) { w with now }
  /-- A request that is rejected, or whose event id is stored already. -/
  | ignored {request : WebhookRequest} :
      (stripeWebhook env.sdk env.settings w.now request w.db).persisted = none →
      Move env w (.webhook request) w
  | received {request : WebhookRequest} {eventId eventType : String}
      {payload : JsonObject} :
      WellFormed env.sdk env.settings w.now request eventId eventType payload →
      w.db.webhookEvents.find? eventId = none →
      Move env w (.webhook request) ({ w with db := { w.db with
        webhookEvents := w.db.webhookEvents.insertNew
          (newEvent w.now eventId eventType payload) } }.log (.enqueued eventId))
  | replayed {eventId : String} {row : WebhookEvent} :
      w.db.webhookEvents.find? eventId = some row → row.status = .FAILED →
      Move env w (.replay eventId) ({ w with db := { w.db with
        webhookEvents := w.db.webhookEvents.update (replayed w.now row) } }.log
          (.enqueued eventId))
  | selected {i : WorkerId} : w.workers i = .idle →
      Move env w (.select i) (w.setPhase i (.scanning w.now (w.db.candidates w.now)))
  | exhausted {i : WorkerId} {now : Time} : w.workers i = .scanning now [] →
      Move env w (.lock i) (w.setPhase i .idle)
  | passed {i : WorkerId} {now : Time} {eventId : String} {rest : List String} :
      w.workers i = .scanning now (eventId :: rest) →
      w.db.lockable now eventId = none →
      Move env w (.lock i) (w.setPhase i (.scanning now rest))
  | claimed {i : WorkerId} {now : Time} {eventId : String} {rest : List String}
      {row : WebhookEvent} :
      w.workers i = .scanning now (eventId :: rest) →
      w.db.locks eventId = none → w.db.webhookEvents.find? eventId = some row →
      row.status = .PENDING → row.nextAttemptAt ≤ now →
      Move env w (.lock i) (({ w with db := w.db.lock i eventId }.setPhase i
        (.running (.start row) (handleEvent env.settings env.tiers row))).log
          (.started eventId))
  | performed {i : WorkerId} {choice : Choice} {s : Session} {o : Op}
      {k : Res o → Effect Unit} {r : Res o} {w' : World M} :
      w.workers i = .running s (.perform o k) → Exec env w i s o r w' →
      Move env w (.perform i choice) (w'.setPhase i (.running (s.after o r) (k r)))
  | committed {i : WorkerId} {s : Session} {a : Unit} :
      w.workers i = .running s (.ret a) → s.poisoned = false →
      w.db.refusal env.enforceFk (w.db.own i) s.pending = none →
      Move env w (.finish i)
        (({ w with db := (w.db.stage i s.pending).commit i s.event }.setPhase i
          .idle).log (.attempted s.event (lastClock s) s.result))
  /-- The transaction ends without a commit: an exception escaped, or the flush
  at its end failed. -/
  | undone {i : WorkerId} {s : Session} {p : Effect Unit} :
      w.workers i = .running s p →
      (∀ a, p = .ret a → s.poisoned = true ∨
        w.db.refusal env.enforceFk (w.db.own i) s.pending ≠ none) →
      (∀ o k, p ≠ .perform o k) →
      Move env w (.finish i) (w.abort i)
  | crashed {i : WorkerId} : w.workers i ≠ .idle → Move env w (.crash i) (w.abort i)
  | served {choice : M.Choice} {remote : M.Store} :
      M.serve w.remote choice = some remote →
      Move env w (.serve choice) { w with remote }

theorem webhook_sound {w w' : World M} {request : WebhookRequest}
    (h : step env M w (.webhook request) = some w') :
    Move env w (.webhook request) w' := by
  simp only [step] at h
  split at h
  · next eventId hp =>
      cases h
      obtain ⟨eventType, payload, hw, hnew, hdb⟩ := stripeWebhook_of_some hp
      rw [hdb]
      exact .received hw hnew
  · next hp =>
      cases h
      rw [stripeWebhook_db_of_none hp]
      exact .ignored hp

theorem finish_sound {w w' : World M} {i : WorkerId} {s : Session} {p : Effect Unit}
    (hi : w.workers i = .running s p) (h : finish env w i s p = some w') :
    Move env w (.finish i) w' := by
  cases p with
  | perform o k => cases h
  | raise exc =>
      cases h
      exact .undone hi (fun a ha => by cases ha) (fun o k hk => by cases hk)
  | ret a =>
      simp only [finish] at h
      split at h
      · next hp =>
          cases h
          exact .undone hi (fun _ _ => .inl hp) (fun o k hk => by cases hk)
      · next hp =>
          split at h
          · cases h
          · split at h
            · next hr =>
                cases h
                refine .undone hi (fun _ _ => .inr ?_) (fun o k hk => by cases hk)
                rw [hr]
                exact Option.some_ne_none _
            · next hr =>
                cases h
                exact .committed hi (Bool.eq_false_of_not_eq_true hp) hr

theorem step_sound {w w' : World M} {label : Label M}
    (h : step env M w label = some w') : Move env w label w' := by
  cases label with
  | tick now => cases h; exact .tick now
  | webhook request => exact webhook_sound h
  | replay eventId =>
      simp only [step] at h
      split at h
      · next row hrow =>
          split at h
          · next hs => cases h; exact .replayed hrow hs
          · cases h
      · cases h
  | select i =>
      simp only [step] at h
      split at h
      · next hi => cases h; exact .selected hi
      · cases h
  | lock i =>
      simp only [step] at h
      split at h
      · next hi => cases h; exact .exhausted hi
      · next now eventId rest hi =>
          split at h
          · next row hrow =>
              cases h
              simp only [Postgres.lockable] at hrow
              split at hrow
              · next hfree =>
                  obtain ⟨hfind, hready⟩ := Option.filter_eq_some_iff.mp hrow
                  simp only [Postgres.ready, Bool.and_eq_true,
                    decide_eq_true_eq] at hready
                  exact .claimed hi hfree hfind hready.1 hready.2
              · cases hrow
          · next hrow => cases h; exact .passed hi hrow
      · cases h
  | perform i choice =>
      simp only [step] at h
      split at h
      · next s o k hi =>
          obtain ⟨⟨w'', r⟩, hexec, rfl⟩ := Option.map_eq_some_iff.mp h
          exact .performed hi (exec_sound hexec)
      · cases h
  | finish i =>
      simp only [step] at h
      split at h
      · next s p hi => exact finish_sound hi h
      · cases h
  | crash i =>
      simp only [step] at h
      split at h
      · cases h
      · next hi => cases h; exact .crashed hi
  | serve choice =>
      obtain ⟨remote, hremote, rfl⟩ := Option.map_eq_some_iff.mp h
      exact .served hremote

end Sidecar.Ports.Moves
