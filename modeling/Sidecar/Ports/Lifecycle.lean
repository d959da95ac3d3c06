import Sidecar.Ports.Invariant
import Sidecar.Ports.Remote

/-!
# The life of an event row

A row is inserted once, replayed by the operator, and otherwise changed only by
the commit of an attempt.  On this rest the invariant of the rows themselves
and the account of attempts that the history keeps.

## Main results

* `lifecycle_invariant` — the invariant of every row, in every reachable state.
* `workers_exclude_each_other` — one transaction per event, and no attempt lost
  or counted twice.
-/

namespace Sidecar.Ports.Lifecycle

open Sidecar.Verified.KeyedTable
open Sidecar.Verified.Transition
open Sidecar.Ports.Python
open Sidecar.Ports.Config
open Sidecar.Ports.Models
open Sidecar.Ports.Effects
open Sidecar.Ports.Receiver
open Sidecar.Ports.System
open Sidecar.Ports.Attempt
open Sidecar.Ports.Moves
open Sidecar.Ports.Transactions
open Sidecar.Ports.Invariant
open Sidecar.Ports.Remote

variable {env : Env} {M : Metronome}

/-! ## The invariant of a row -/

/-- Every version of an event row that is ever committed. -/
structure RowOk (settings : Settings) (row : WebhookEvent) : Prop where
  status : row.status = .PENDING ∨ row.status = .PROCESSED ∨ row.status = .FAILED
  attempts_nonneg : 0 ≤ row.attempts
  attempts_le : row.attempts ≤ settings.workerMaxAttempts
  pending : row.status = .PENDING →
    row.attempts < settings.workerMaxAttempts ∧ row.processedAt = none
  untried : row.status = .PENDING → row.attempts = 0 → row.lastError = none
  retried : row.status = .PENDING → 0 < row.attempts → row.lastError.isSome
  processed : row.status = .PROCESSED →
    1 ≤ row.attempts ∧ row.processedAt.isSome ∧ row.lastError = none
  failed : row.status = .FAILED → 1 ≤ row.attempts ∧ row.processedAt.isSome ∧
    ∃ reason : String, row.lastError = some s!"PERMANENT: {reason}" ∨
      row.lastError = some s!"EXHAUSTED RETRIES: {reason}"
  exhausted : ∀ reason : String, row.status = .FAILED →
    row.lastError = some s!"EXHAUSTED RETRIES: {reason}" →
    row.attempts = settings.workerMaxAttempts

theorem permanent_ne_exhausted (a b : String) :
    s!"PERMANENT: {a}" ≠ s!"EXHAUSTED RETRIES: {b}" := by
  intro h
  have hhead := congrArg (fun s : String => s.toList.head?) h
  simp only [toString, String.toList_append] at hhead
  cases hhead

theorem rowOk_newEvent {settings : Settings} (now : Time) (eventId eventType : String)
    (payload : JsonObject) : RowOk settings (newEvent now eventId eventType payload) := by
  have hmax := settings.workerMaxAttempts_ge
  constructor <;> simp [newEvent] <;> omega

theorem rowOk_replayed {settings : Settings} (now : Time) (row : WebhookEvent) :
    RowOk settings (replayed now row) := by
  have hmax := settings.workerMaxAttempts_ge
  constructor <;> simp [replayed] <;> omega

/-- A committed attempt leaves a row in order, and a pending one at least a
second away. -/
theorem rowOk_verdict {settings : Settings} {tiers : TierTable} {s : Session}
    (h : Verdict settings tiers s) (hpending : s.loaded.status = .PENDING)
    (hok : RowOk settings s.loaded) : RowOk settings s.event := by
  have hnonneg := hok.attempts_nonneg
  obtain ⟨hlt, hprocessed⟩ := hok.pending hpending
  have hnonneg' : 0 ≤ s.loaded.attempts + 1 := by omega
  have hle : s.loaded.attempts + 1 ≤ settings.workerMaxAttempts := by omega
  have hpos : 1 ≤ s.loaded.attempts + 1 := by omega
  cases h with
  | processed now _ hevent _ =>
      rw [hevent]
      exact {
        status := .inr (.inl rfl)
        attempts_nonneg := hnonneg'
        attempts_le := hle
        pending := fun h => by cases h
        untried := fun h => by cases h
        retried := fun h => by cases h
        processed := fun _ => ⟨hpos, rfl, rfl⟩
        failed := fun h => by cases h
        exhausted := fun _ h => by cases h }
  | permanent now reason _ hevent _ =>
      rw [hevent]
      exact {
        status := .inr (.inr rfl)
        attempts_nonneg := hnonneg'
        attempts_le := hle
        pending := fun h => by cases h
        untried := fun h => by cases h
        retried := fun h => by cases h
        processed := fun h => by cases h
        failed := fun _ => ⟨hpos, rfl, reason, .inl rfl⟩
        exhausted := fun reason' _ h =>
          absurd (Option.some.inj h) (permanent_ne_exhausted reason reason') }
  | exhausted now reason _ hmax hevent _ =>
      rw [hevent]
      exact {
        status := .inr (.inr rfl)
        attempts_nonneg := hnonneg'
        attempts_le := hle
        pending := fun h => by cases h
        untried := fun h => by cases h
        retried := fun h => by cases h
        processed := fun h => by cases h
        failed := fun _ => ⟨hpos, rfl, reason, .inr rfl⟩
        exhausted := fun _ _ _ => Int.le_antisymm hle hmax }
  | retry now delay reason _ hmax hdelay hevent _ =>
      rw [hevent]
      exact {
        status := .inl rfl
        attempts_nonneg := hnonneg'
        attempts_le := hle
        pending := fun _ => ⟨hmax, hprocessed⟩
        untried := fun _ h => absurd h (by show s.loaded.attempts + 1 ≠ 0; omega)
        retried := fun _ _ => rfl
        processed := fun h => by cases h
        failed := fun h => by cases h
        exhausted := fun _ h => by cases h }

/-! ## The history of an event -/

/-- The time of the last committed attempt on `eventId`: its last clock
reading. -/
def lastAttempt (eventId : String) : List Entry → Option Time
  | [] => none
  | .attempted event at_ _ :: history =>
      if event.stripeEventId = eventId then at_ else lastAttempt eventId history
  | _ :: history => lastAttempt eventId history

/-- The committed attempts on `eventId` since it was last enqueued. -/
def attemptsSince (eventId : String) : List Entry → Int
  | [] => 0
  | .enqueued e :: history => if e = eventId then 0 else attemptsSince eventId history
  | .attempted event _ _ :: history =>
      (if event.stripeEventId = eventId then 1 else 0) + attemptsSince eventId history
  | _ :: history => attemptsSince eventId history

/-- Those of them that took the event out of the queue. -/
def departuresSince (eventId : String) : List Entry → Nat
  | [] => 0
  | .enqueued e :: history => if e = eventId then 0 else departuresSince eventId history
  | .attempted event _ _ :: history =>
      (if event.stripeEventId = eventId ∧ event.status ≠ .PENDING then 1 else 0) +
        departuresSince eventId history
  | _ :: history => departuresSince eventId history

theorem history_quiet {added history : List Entry} (h : ∀ entry ∈ added, quiet entry)
    (eventId : String) :
    lastAttempt eventId (added ++ history) = lastAttempt eventId history ∧
      attemptsSince eventId (added ++ history) = attemptsSince eventId history ∧
      departuresSince eventId (added ++ history) = departuresSince eventId history := by
  induction added with
  | nil => exact ⟨rfl, rfl, rfl⟩
  | cons entry added ih =>
      have hadded := ih fun e he => h e (List.mem_cons_of_mem _ he)
      have hentry := h entry List.mem_cons_self
      cases entry with
      | started e => exact hadded
      | called e ticket request => exact hadded
      | enqueued e => exact hentry.elim
      | attempted event at_ result => exact hentry.elim

/-- What the history says about a row. -/
structure Accounted (history : List Entry) (row : WebhookEvent) : Prop where
  attempts : row.attempts = attemptsSince row.stripeEventId history
  departures : departuresSince row.stripeEventId history =
    if row.status = .PENDING then 0 else 1
  spaced : row.status = .PENDING → 0 < row.attempts →
    ∃ at_, lastAttempt row.stripeEventId history = some at_ ∧ at_ + 1 ≤ row.nextAttemptAt

/-- The rows of a reachable state are in order and accounted for, and events
that are not stored have no history. -/
structure EventsOk (settings : Settings) (w : World M) : Prop where
  row : ∀ e row, w.db.webhookEvents.find? e = some row →
    RowOk settings row ∧ Accounted w.history row
  absent : ∀ e, w.db.webhookEvents.find? e = none →
    attemptsSince e w.history = 0 ∧ departuresSince e w.history = 0

theorem Accounted.quiet {added history : List Entry} {row : WebhookEvent}
    (h : Accounted history row) (hquiet : ∀ entry ∈ added, quiet entry) :
    Accounted (added ++ history) row := by
  obtain ⟨hlast, hattempts, hdepartures⟩ := history_quiet hquiet row.stripeEventId
  refine ⟨?_, ?_, ?_⟩
  · rw [hattempts]; exact h.attempts
  · rw [hdepartures]; exact h.departures
  · rw [hlast]; exact h.spaced

/-- A row that has just been put in the queue. -/
theorem accounted_enqueued {history : List Entry} {row : WebhookEvent} {e : String}
    (hid : row.stripeEventId = e) (hstatus : row.status = .PENDING)
    (hattempts : row.attempts = 0) : Accounted (.enqueued e :: history) row where
  attempts := by simp [attemptsSince, hid, hattempts]
  departures := by simp [departuresSince, hid, hstatus]
  spaced _ h := by omega

/-- Putting one event in the queue says nothing about another. -/
theorem Accounted.enqueued_ne {history : List Entry} {row : WebhookEvent} {e : String}
    (h : Accounted history row) (hne : e ≠ row.stripeEventId) :
    Accounted (.enqueued e :: history) row where
  attempts := by simp only [attemptsSince, hne, if_false]; exact h.attempts
  departures := by simp only [departuresSince, hne, if_false]; exact h.departures
  spaced := h.spaced

/-- The row that a committed attempt leaves. -/
theorem Accounted.attempted {settings : Settings} {tiers : TierTable} {s : Session}
    {history : List Entry} (h : Accounted history s.loaded)
    (hv : Verdict settings tiers s) (hpending : s.loaded.status = .PENDING) :
    Accounted (.attempted s.event (lastClock s) s.result :: history) s.event := by
  have hid := (verdict_sameEvent hv).1
  have hattempts : s.event.attempts = s.loaded.attempts + 1 := by
    cases hv with
    | processed now _ hevent _ => rw [hevent]; rfl
    | permanent now reason _ hevent _ => rw [hevent]; rfl
    | exhausted now reason _ _ hevent _ => rw [hevent]; rfl
    | retry now delay reason _ _ _ hevent _ => rw [hevent]; rfl
  have hnone := h.departures
  rw [if_pos hpending, ← hid] at hnone
  refine ⟨?_, ?_, fun hstatus _ => ?_⟩
  · have := h.attempts
    rw [← hid] at this
    simp only [attemptsSince, if_true]
    omega
  · simp only [departuresSince, true_and, hnone]
    split <;> simp_all
  · simp only [lastAttempt, if_true]
    cases hv with
    | processed now _ hevent _ => rw [hevent] at hstatus; cases hstatus
    | permanent now reason _ hevent _ => rw [hevent] at hstatus; cases hstatus
    | exhausted now reason _ _ hevent _ => rw [hevent] at hstatus; cases hstatus
    | retry now delay reason _ _ hdelay hevent hclock =>
        refine ⟨now, hclock, ?_⟩
        rw [hevent]
        exact add_le_add_right hdelay now

theorem Accounted.attempted_ne {history : List Entry} {row event : WebhookEvent}
    {at_ : Option Time} {result : Option Completed} (h : Accounted history row)
    (hne : event.stripeEventId ≠ row.stripeEventId) :
    Accounted (.attempted event at_ result :: history) row where
  attempts := by simp only [attemptsSince, hne, if_false, zero_add]; exact h.attempts
  departures := by
    have hno : ¬(event.stripeEventId = row.stripeEventId ∧ event.status ≠ .PENDING) :=
      fun hand => hne hand.1
    rw [departuresSince, if_neg hno, Nat.zero_add]
    exact h.departures
  spaced := by simp only [lastAttempt, hne, if_false]; exact h.spaced

theorem eventsOk_move {w w' : World M} {label : Label M} (h : EventsOk env.settings w)
    (hm : TableMove env w label w') : EventsOk env.settings w' := by
  cases hm with
  | untouched added he _ hh hquiet =>
      refine ⟨fun e row hrow => ?_, fun e hnone => ?_⟩
      · rw [he] at hrow
        rw [hh]
        exact ⟨(h.row e row hrow).1, (h.row e row hrow).2.quiet hquiet⟩
      · obtain ⟨_, hattempts, hdepartures⟩ := @history_quiet _ w.history hquiet e
        rw [hh, hattempts, hdepartures]
        exact h.absent e (he ▸ hnone)
  | @insert request w' eventId eventType payload hnew he _ hh =>
      refine ⟨fun e row hrow => ?_, fun e hnone => ?_⟩
      · rw [he, Table.find?_insertNew] at hrow
        rw [hh]
        split at hrow
        · cases hrow
          exact ⟨rowOk_newEvent _ _ _ _, accounted_enqueued rfl rfl rfl⟩
        · have hne : eventId ≠ row.stripeEventId := by
            rintro rfl
            rw [Table.find?_key hrow, hrow] at hnew
            cases hnew
          exact ⟨(h.row e row hrow).1, (h.row e row hrow).2.enqueued_ne hne⟩
      · obtain ⟨hnone, hne⟩ := Table.find?_insertNew_eq_none (he ▸ hnone)
        have hne : eventId ≠ e := hne
        rw [hh]
        simp only [attemptsSince, departuresSince, hne, if_false]
        exact h.absent e hnone
  | @replay w' old hfind hs he _ hh =>
      refine ⟨fun e row hrow => ?_, fun e hnone => ?_⟩
      · rw [hh]
        rcases Table.find?_update_eq_some (he ▸ hrow) with ⟨_, rfl⟩ | ⟨hne, hrow⟩
        · exact ⟨rowOk_replayed _ _, accounted_enqueued rfl rfl rfl⟩
        · have hne : old.stripeEventId ≠ row.stripeEventId :=
            fun heq => hne (heq.trans (Table.find?_key hrow))
          exact ⟨(h.row e row hrow).1, (h.row e row hrow).2.enqueued_ne hne⟩
      · have hnone := Table.find?_update_eq_none.mp (he ▸ hnone)
        have hne : old.stripeEventId ≠ e := by
          rintro rfl
          rw [hfind] at hnone
          cases hnone
        rw [hh]
        simp only [attemptsSince, departuresSince, hne, if_false]
        exact h.absent e hnone
  | @commit i w' s _ hcom _ he _ _ hh =>
      obtain ⟨hok, haccounted⟩ := h.row _ _ hcom.row
      refine ⟨fun e row hrow => ?_, fun e hnone => ?_⟩
      · rw [hh]
        rcases Table.find?_update_eq_some (he ▸ hrow) with ⟨_, rfl⟩ | ⟨hne, hrow⟩
        · exact ⟨rowOk_verdict hcom.verdict hcom.loadedPending hok,
            haccounted.attempted hcom.verdict hcom.loadedPending⟩
        · have hne : s.event.stripeEventId ≠ row.stripeEventId :=
            fun heq => hne (heq.trans (Table.find?_key hrow))
          exact ⟨(h.row e row hrow).1, (h.row e row hrow).2.attempted_ne hne⟩
      · have hnone := Table.find?_update_eq_none.mp (he ▸ hnone)
        have hne : s.event.stripeEventId ≠ e := by
          rintro rfl
          rw [hcom.row] at hnone
          cases hnone
        rw [hh]
        simp only [attemptsSince, departuresSince, hne, false_and, if_false, Int.zero_add,
          Nat.zero_add]
        exact h.absent e hnone

theorem eventsOk_of_path {C : World M → Label M → Prop} {w₀ w : World M}
    (h : Path (step env M) C w₀ w) (h₀ : Initial w₀) : EventsOk env.settings w := by
  refine run_invariant h h₀ (fun w hw => ⟨fun e row hrow => ?_, fun e _ => ?_⟩)
    fun w label w' _ hinv hok hm => eventsOk_move hok (tableMove hinv hm)
  · rw [hw.db] at hrow
    cases hrow
  · rw [hw.history]
    exact ⟨rfl, rfl⟩

/-! ## What workers do to rows -/

/-- The steps of a worker, as opposed to the receiver's and the operator's. -/
def isWorker : Label M → Prop
  | .select _ | .lock _ | .perform _ _ | .finish _ | .crash _ => True
  | .tick _ | .webhook _ | .replay _ | .serve _ => False

/-- The commit of an attempt on a pending row. -/
structure Transition (row row' : WebhookEvent) : Prop where
  pending : row.status = .PENDING
  status : row'.status = .PENDING ∨ row'.status = .PROCESSED ∨ row'.status = .FAILED
  attempts : row'.attempts = row.attempts + 1
  same : SameEvent row row'

theorem transition_of_committing {db : Postgres} {i : WorkerId} {s : Session}
    (h : Committing env db i s) : Transition s.loaded s.event where
  pending := h.loadedPending
  status := by
    cases h.verdict with
    | processed now _ hevent _ => rw [hevent]; exact .inr (.inl rfl)
    | permanent now reason _ hevent _ => rw [hevent]; exact .inr (.inr rfl)
    | exhausted now reason _ _ hevent _ => rw [hevent]; exact .inr (.inr rfl)
    | retry now delay reason _ _ _ hevent _ => rw [hevent]; exact .inl rfl
  attempts := by
    cases h.verdict with
    | processed now _ hevent _ => rw [hevent]; rfl
    | permanent now reason _ hevent _ => rw [hevent]; rfl
    | exhausted now reason _ _ hevent _ => rw [hevent]; rfl
    | retry now delay reason _ _ _ hevent _ => rw [hevent]; rfl
  same := h.same

/-- **A worker changes a row only by committing an attempt on it**, and never
adds or removes one. -/
theorem worker_transition {w w' : World M} {label : Label M} (hinv : WorldInv env w)
    (hs : step env M w label = some w') (hw : isWorker label) {e : String} :
    w'.db.webhookEvents.find? e = w.db.webhookEvents.find? e ∨
      ∃ row row', w.db.webhookEvents.find? e = some row ∧
        w'.db.webhookEvents.find? e = some row' ∧ Transition row row' := by
  cases tableMove hinv (step_sound hs) with
  | untouched added he _ _ _ => exact .inl (by rw [he])
  | insert _ _ _ _ => exact hw.elim
  | replay _ _ _ _ _ => exact hw.elim
  | @commit i w' s _ hcom _ he _ _ _ =>
      by_cases hkey : s.event.stripeEventId = e
      · subst hkey
        exact .inr ⟨s.loaded, s.event, hcom.row, he ▸ Table.find?_update_self hcom.row,
          transition_of_committing hcom⟩
      · exact .inl (by rw [he, Table.find?_update_ne hkey])

/-- **The life of an event.**  In every reachable state every row is in order,
a retried one is due at least a second after its last attempt, and workers only
take rows from pending to pending, processed or failed. -/
theorem lifecycle_invariant {w₀ w : World M} (h : Reaches (step env M) w₀ w)
    (h₀ : Initial w₀) :
    (∀ row ∈ w.db.webhookEvents.rows, RowOk env.settings row ∧
      (row.status = .PENDING → 0 < row.attempts →
        ∃ at_, lastAttempt row.stripeEventId w.history = some at_ ∧
          at_ + 1 ≤ row.nextAttemptAt)) ∧
    ∀ label w', step env M w label = some w' → isWorker label → ∀ e row row',
      w.db.webhookEvents.find? e = some row → w'.db.webhookEvents.find? e = some row' →
      row' ≠ row → row.status = .PENDING ∧
        (row'.status = .PENDING ∨ row'.status = .PROCESSED ∨ row'.status = .FAILED) := by
  have hok := eventsOk_of_path h h₀
  constructor
  · intro row hrow
    obtain ⟨hrowOk, haccounted⟩ := hok.row _ row (Table.find?_of_mem hrow)
    exact ⟨hrowOk, haccounted.spaced⟩
  · intro label w' hs hw e row row' hrow hrow' hne
    rcases worker_transition (worldInv_of_path h h₀) hs hw (e := e) with
      heq | ⟨a, b, ha, hb, ht⟩
    · rw [hrow, hrow'] at heq
      exact absurd (Option.some.inj heq) hne
    · rw [hrow] at ha
      rw [hrow'] at hb
      cases ha
      cases hb
      exact ⟨ht.pending, ht.status⟩

/-- A first attempt that loses its connection to Metronome. -/
def retriedAda : World (metronome policyRejecting) :=
  runFrom (installation [adaCreated]) policyRejecting
    (.webhook adaCreated.request :: claims 0 ++ performs 0 3 ++
      [receives 0 (.connectionError "Connection error.")] ++ schedulesRetry 0 2)

theorem lifecycle_invariant_retriedAda :
    retriedAda.db.webhookEvents.rows.map
        (fun row => (row.status, row.attempts, row.nextAttemptAt)) = [(.PENDING, 1, 2)] ∧
      ∀ row ∈ retriedAda.db.webhookEvents.rows, RowOk defaultSettings row :=
  ⟨by decide +kernel, fun row hrow =>
    ((lifecycle_invariant (reaches_runFrom _ _ _) (initial_fresh _)).1 row hrow).1⟩

/-! ## Mutual exclusion -/

/-- Worker `i` is between its claim of the event and the end of the
transaction. -/
def InTransaction (w : World M) (i : WorkerId) (eventId : String) : Prop :=
  ∃ s p, w.workers i = .running s p ∧ s.poisoned = false ∧
    s.loaded.stripeEventId = eventId

theorem InTransaction.locked {w : World M} {i : WorkerId} {e : String}
    (h : InTransaction w i e) (hinv : WorldInv env w) : w.db.locks e = some i := by
  obtain ⟨s, p, hi, hp, rfl⟩ := h
  exact ((hinv.running hi).locked _).mpr ⟨hp, rfl⟩

theorem inTransaction_iff {w : World M} {i : WorkerId} {e : String} :
    InTransaction w i e ↔
    (match w.workers i with
      | .running s _ => !s.poisoned && s.loaded.stripeEventId = e
      | _ => false) = true := by
  constructor
  · rintro ⟨s, p, hi, hp, he⟩
    simp [hi, hp, he]
  · intro h
    split at h
    · next s p hi =>
        simp only [Bool.and_eq_true, Bool.not_eq_true', decide_eq_true_eq] at h
        exact ⟨s, p, hi, h.1, h.2⟩
    · cases h

/-- **One transaction per event, and no attempt lost.**  Two workers are never
in a transaction on one event; a worker changes a row only from pending and
counts one attempt; an event leaves the queue at most once per enqueue, and its
attempts are the committed ones. -/
theorem workers_exclude_each_other {w₀ w : World M} (h : Reaches (step env M) w₀ w)
    (h₀ : Initial w₀) :
    (∀ i j e, InTransaction w i e → InTransaction w j e → i = j) ∧
    (∀ label w', step env M w label = some w' → isWorker label → ∀ e,
      w'.db.webhookEvents.find? e = w.db.webhookEvents.find? e ∨
        ∃ row row', w.db.webhookEvents.find? e = some row ∧
          w'.db.webhookEvents.find? e = some row' ∧ row.status = .PENDING ∧
          row'.attempts = row.attempts + 1) ∧
    (∀ label w', step env M w label = some w' → isWorker label → ∀ e row,
      w.db.webhookEvents.find? e = some row →
      row.status = .PROCESSED ∨ row.status = .FAILED →
      w'.db.webhookEvents.find? e = some row) ∧
    (∀ e, departuresSince e w.history ≤ 1) ∧
    ∀ e row, w.db.webhookEvents.find? e = some row →
      row.attempts = attemptsSince e w.history := by
  have hinv := worldInv_of_path h h₀
  have hok := eventsOk_of_path h h₀
  refine ⟨fun i j e hi hj => ?_, fun label w' hs hw e => ?_,
    fun label w' hs hw e row hrow hstatus => ?_, fun e => ?_, fun e row hrow => ?_⟩
  · have hlock := hi.locked hinv
    rw [hj.locked hinv] at hlock
    exact (Option.some.inj hlock).symm
  · rcases worker_transition hinv hs hw (e := e) with heq | ⟨row, row', hrow, hrow', ht⟩
    · exact .inl heq
    · exact .inr ⟨row, row', hrow, hrow', ht.pending, ht.attempts⟩
  · rcases worker_transition hinv hs hw (e := e) with heq | ⟨row', _, hrow', _, ht⟩
    · rw [heq, hrow]
    · rw [hrow] at hrow'
      cases hrow'
      rw [ht.pending] at hstatus
      rcases hstatus with h | h <;> cases h
  · cases hfind : w.db.webhookEvents.find? e with
    | none => rw [(hok.absent e hfind).2]; exact Nat.zero_le 1
    | some row =>
        have hdep := (hok.row e row hfind).2.departures
        rw [Table.find?_key hfind] at hdep
        rw [hdep]
        split <;> omega
  · have hattempts := (hok.row e row hrow).2.attempts
    rw [Table.find?_key hrow] at hattempts
    exact hattempts

/-- Two workers have found the event ready to be retried, and one has it. -/
def competingAda : World (metronome policyRejecting) :=
  runFrom (installation [adaSubscribed]) policyRejecting
    ([.webhook adaSubscribed.request] ++ claims 0 ++ performs 0 3 ++ schedulesRetry 0 3 ++
      [.tick 5, .select 0, .select 1, .lock 1, .lock 0])

theorem workers_exclude_each_other_competingAda :
    (∀ j, InTransaction competingAda j "evt_2" ↔ j = 1) ∧
      attemptsSince "evt_2" competingAda.history = 1 ∧
      ∀ row, competingAda.db.webhookEvents.find? "evt_2" = some row →
      row.attempts = 1 := by
  have hexclude := @workers_exclude_each_other (installation [adaSubscribed]) _ _
    competingAda
    (reaches_runFrom _ _ _) (initial_fresh _)
  have hone : InTransaction competingAda 1 "evt_2" :=
    inTransaction_iff.mpr (by decide +kernel)
  exact ⟨fun j => ⟨fun hj => hexclude.1 j 1 "evt_2" hj hone, fun hj => hj ▸ hone⟩,
    by decide +kernel, fun row hrow => (hexclude.2.2.2.2 "evt_2" row hrow).trans
      (by decide +kernel)⟩

end Sidecar.Ports.Lifecycle
