import Sidecar.Ports.Moves
import Sidecar.Ports.Transactions

/-!
# The invariant of the system

`WorldInv` ties every running attempt to the database: it follows the
description of an attempt, it holds the lock of exactly its own event until its
transaction ends, the version it loaded is the committed one, what it has
flushed is what the database keeps uncommitted for it, and the mapping rows it
has read are still there.

## Main results

* `worldInv_move` — every step keeps the invariant.
* `worldInv_of_path`, `run_invariant` — so does every run, and further
  invariants may assume it.
* `tableMove` — what a step does to the committed rows: nothing, an insert, a
  replay, or the commit of one attempt.
-/

namespace Sidecar.Ports.Invariant

open Sidecar.Verified.Resumption
open Sidecar.Verified.KeyedTable
open Sidecar.Verified.Transition
open Sidecar.Ports.Python
open Sidecar.Ports.Config
open Sidecar.Ports.Models
open Sidecar.Ports.Effects
open Sidecar.Ports.Worker
open Sidecar.Ports.Receiver
open Sidecar.Ports.System
open Sidecar.Ports.Attempt
open Sidecar.Ports.Execution
open Sidecar.Ports.Moves
open Sidecar.Ports.Transactions

/-- An attempt of worker `i` that is under way. -/
structure Running (env : Env) (db : Postgres) (i : WorkerId) (s : Session)
    (p : Effect Unit) : Prop where
  always : Always semantics (AttemptInv env.settings env.tiers) p s
  session : SessionInv env.settings env.tiers s
  locked : ∀ e, db.locks e = some i ↔ s.poisoned = false ∧ e = s.loaded.stripeEventId
  row : s.poisoned = false →
    db.webhookEvents.find? s.loaded.stripeEventId = some s.loaded
  pending : s.loaded.status = .PENDING
  own : db.own i = s.flushed
  customerRow : ∀ c row, Fact.customerRow c (some row) ∈ s.journal →
    ∃ row', db.customerMappings.find? c = some row' ∧
      row'.metronomeCustomerId = row.metronomeCustomerId
  subscriptionRow : ∀ sub row, Fact.subscriptionRow sub (some row) ∈ s.journal →
    db.subscriptionMappings.find? sub = some row

/-- What the database holds for worker `i`. -/
def WorkerInv (env : Env) (db : Postgres) (i : WorkerId) : Phase → Prop
  | .running s p => Running env db i s p
  | .idle | .scanning _ _ => (∀ e, db.locks e ≠ some i) ∧ db.own i = []

structure WorldInv {M : Metronome} (env : Env) (w : World M) : Prop where
  consistent : Consistent w.db
  workers : ∀ i, WorkerInv env w.db i (w.workers i)

variable {env : Env} {M : Metronome} {db db' : Postgres} {i j : WorkerId}

/-! ## What one worker's step leaves to another -/

/-- A change of the database that worker `j` has no part in. -/
structure Frame (j : WorkerId) (db db' : Postgres) : Prop where
  locks : ∀ e, db'.locks e = some j ↔ db.locks e = some j
  row : ∀ e row, db.locks e = some j → row.status = .PENDING →
    db.webhookEvents.find? e = some row → db'.webhookEvents.find? e = some row
  own : db'.own j = db.own j
  customer : ∀ c row, db.customerMappings.find? c = some row →
    ∃ row', db'.customerMappings.find? c = some row' ∧
      row'.metronomeCustomerId = row.metronomeCustomerId
  subscription : ∀ sub row, db.subscriptionMappings.find? sub = some row →
    db'.subscriptionMappings.find? sub = some row

theorem WorkerInv.frame {phase : Phase} (h : WorkerInv env db j phase)
    (hf : Frame j db db') : WorkerInv env db' j phase := by
  cases phase with
  | idle => exact ⟨fun e he => h.1 e ((hf.locks e).mp he), hf.own.trans h.2⟩
  | scanning now rest => exact ⟨fun e he => h.1 e ((hf.locks e).mp he), hf.own.trans h.2⟩
  | running s p =>
      have h : Running env db j s p := h
      refine ⟨h.always, h.session, fun e => (hf.locks e).trans (h.locked e), fun hp => ?_,
        h.pending, hf.own.trans h.own, fun c row hmem => ?_, fun sub row hmem => ?_⟩
      · exact hf.row _ _ ((h.locked _).mpr ⟨hp, rfl⟩) h.pending (h.row hp)
      · obtain ⟨row', hfind, hid⟩ := h.customerRow c row hmem
        obtain ⟨row'', hfind', hid'⟩ := hf.customer c row' hfind
        exact ⟨row'', hfind', hid'.trans hid⟩
      · exact hf.subscription sub row (h.subscriptionRow sub row hmem)

theorem frame_of_tables (hlocks : ∀ e, db'.locks e = some j ↔ db.locks e = some j)
    (hown : db'.own j = db.own j) (he : db'.webhookEvents = db.webhookEvents)
    (hc : db'.customerMappings = db.customerMappings)
    (hs : db'.subscriptionMappings = db.subscriptionMappings) : Frame j db db' where
  locks := hlocks
  row _ _ _ _ h := he ▸ h
  own := hown
  customer _ row h := ⟨row, hc ▸ h, rfl⟩
  subscription _ _ h := hs ▸ h

theorem frame_rollback (hij : j ≠ i) : Frame j db (db.rollback i) :=
  frame_of_tables (fun _ => locks_rollback.trans (and_iff_left hij)) (own_rollback_ne hij)
    rfl rfl rfl

theorem frame_stage (hij : j ≠ i) (ws : List Write) : Frame j db (db.stage i ws) :=
  frame_of_tables (fun _ => Iff.rfl) (own_stage_ne hij ws) rfl rfl rfl

theorem frame_lock {eventId : String} (hij : j ≠ i) (hfree : db.locks eventId = none) :
    Frame j db (db.lock i eventId) := by
  refine frame_of_tables (fun e => ?_) rfl rfl rfl rfl
  simp only [Postgres.lock]
  split
  · next he =>
      subst he
      simp only [Option.some.injEq, hfree, reduceCtorEq, iff_false]
      exact hij.symm
  · exact Iff.rfl

theorem frame_commit {event row : WebhookEvent} (hij : j ≠ i)
    (hlock : db.locks event.stripeEventId = some i)
    (hrow : db.webhookEvents.find? event.stripeEventId = some row)
    (hsame : SameEvent row event) : Frame j db (db.commit i event) where
  locks e := locks_commit.trans (and_iff_left hij)
  row e row' hlocked _ hfind := by
    rw [commit_webhookEvents hrow hsame, Table.find?_update_ne]
    · exact hfind
    · rintro rfl
      rw [hlock] at hlocked
      exact hij (Option.some.inj hlocked).symm
  own := own_commit_ne hij event
  customer c row h := by
    rw [commit_customerMappings]
    exact customer_foldl_apply _ h
  subscription sub row h := by
    rw [commit_subscriptionMappings]
    exact subscription_foldl_apply _ h

theorem frame_insert (event : WebhookEvent) :
    Frame j db { db with webhookEvents := db.webhookEvents.insertNew event } where
  locks _ := Iff.rfl
  row _ _ _ _ h := Table.find?_insertNew_of_some h
  own := rfl
  customer _ row h := ⟨row, h, rfl⟩
  subscription _ _ h := h

theorem frame_replayed {row event : WebhookEvent}
    (hrow : db.webhookEvents.find? event.stripeEventId = some row)
    (hstatus : row.status = .FAILED) :
    Frame j db { db with webhookEvents := db.webhookEvents.update event } where
  locks _ := Iff.rfl
  row e row' _ hpending h := by
    rw [Table.find?_update_ne]
    · exact h
    · rintro rfl
      rw [hrow] at h
      cases h
      rw [hstatus] at hpending
      cases hpending
  own := rfl
  customer _ row h := ⟨row, h, rfl⟩
  subscription _ _ h := h

/-! ## One request -/

theorem view_of_own_nil (h : db.own i = []) : view db i = db := by
  rw [view, h]
  rfl

/-- A request that leaves the database and the transaction as they are. -/
theorem Running.advance {s s' : Session} {p p' : Effect Unit} (h : Running env db i s p)
    (halways : Always semantics (AttemptInv env.settings env.tiers) p' s')
    (hsession : SessionInv env.settings env.tiers s')
    (hloaded : s'.loaded = s.loaded) (hpoison : s'.poisoned = s.poisoned)
    (hflushed : s'.flushed = s.flushed)
    (hcustomer : ∀ c row, Fact.customerRow c (some row) ∈ s'.journal →
      Fact.customerRow c (some row) ∈ s.journal ∨ db.customerMappings.find? c = some row)
    (hsubscription : ∀ sub row, Fact.subscriptionRow sub (some row) ∈ s'.journal →
      Fact.subscriptionRow sub (some row) ∈ s.journal ∨
        db.subscriptionMappings.find? sub = some row) : Running env db i s' p' where
  always := halways
  session := hsession
  locked := by rw [hloaded, hpoison]; exact h.locked
  row := by rw [hloaded, hpoison]; exact h.row
  pending := by rw [hloaded]; exact h.pending
  own := h.own.trans hflushed.symm
  customerRow c row hmem := by
    rcases hcustomer c row hmem with hmem | hfind
    · exact h.customerRow c row hmem
    · exact ⟨row, hfind, rfl⟩
  subscriptionRow sub row hmem := by
    rcases hsubscription sub row hmem with hmem | hfind
    · exact h.subscriptionRow sub row hmem
    · exact hfind

/-- **One request keeps the attempt in order.** -/
theorem Running.exec {w w' : World M} {s : Session} {o : Op} {k : Res o → Effect Unit}
    {r : Res o} (h : Running env w.db i s (.perform o k)) (hx : Exec env w i s o r w') :
    Running env w'.db i (s.after o r) (k r) := by
  have hallowed : Allowed env.settings env.tiers s o := h.always.here
  have halways := h.always.step hx.admits
  have hsession := h.session.after hallowed hx.admits
  have hlearn : ∀ f : Fact, s.after o r = s.learn f →
      (∀ c row, f = .customerRow c (some row) →
        w.db.customerMappings.find? c = some row) →
      (∀ sub row, f = .subscriptionRow sub (some row) →
        w.db.subscriptionMappings.find? sub = some row) →
      Running env w.db i (s.after o r) (k r) := by
    intro f heq hc hs
    have hj : (s.after o r).journal = f :: s.journal := by rw [heq]; rfl
    refine h.advance halways hsession (by rw [heq]; rfl) (by rw [heq]; rfl)
      (by rw [heq]; rfl)
      (fun c row hmem => ?_) (fun sub row hmem => ?_)
    all_goals
      rw [hj] at hmem
      rcases List.mem_cons.mp hmem with hmem | hmem
    · exact .inr (hc c row hmem.symm)
    · exact .inl hmem
    · exact .inr (hs sub row hmem.symm)
    · exact .inl hmem
  cases hx with
  | lookupCustomerMapping c =>
      refine hlearn _ rfl (fun c' row heq => ?_) (by simp)
      rw [view_of_own_nil (h.own.trans hallowed.1)] at heq
      obtain ⟨rfl, hfind⟩ := Fact.customerRow.inj heq
      exact hfind
  | lookupSubscriptionMapping sub =>
      refine hlearn _ rfl (by simp) (fun sub' row heq => ?_)
      rw [view_of_own_nil (h.own.trans hallowed.1)] at heq
      obtain ⟨rfl, hfind⟩ := Fact.subscriptionRow.inj heq
      exact hfind
  | send request => exact hlearn (.sent w.tickets request) rfl (by simp) (by simp)
  | recv hr => exact hlearn (.answered _ _ _) rfl (by simp) (by simp)
  | clock => exact hlearn (.clock w.now) rfl (by simp) (by simp)
  | uniform hu => exact hlearn (.drew _) rfl (by simp) (by simp)
  | add write =>
      exact h.advance halways hsession rfl rfl rfl (fun _ _ => .inl) (fun _ _ => .inl)
  | incrementAttempts =>
      exact h.advance halways hsession rfl rfl rfl (fun _ _ => .inl) (fun _ _ => .inl)
  | readAttempts =>
      exact h.advance halways hsession rfl rfl rfl (fun _ _ => .inl) (fun _ _ => .inl)
  | assign a =>
      exact h.advance halways hsession rfl rfl rfl (fun _ _ => .inl) (fun _ _ => .inl)
  | completed result =>
      exact h.advance halways hsession rfl rfl rfl (fun _ _ => .inl) (fun _ _ => .inl)
  | flushDead hp =>
      exact h.advance halways hsession rfl hp.symm (h.session.poisoned hp).1.symm
        (fun _ _ => .inl) (fun _ _ => .inl)
  | flushRefused hp hb hr =>
      exact {
        always := halways
        session := hsession
        locked := fun e => by
          simp only [locks_rollback, ne_eq, not_true_eq_false, and_false,
            false_iff, not_and]
          exact fun hpoison => by cases hpoison
        row := fun hpoison => by cases hpoison
        pending := h.pending
        own := own_rollback_self
        customerRow := h.customerRow
        subscriptionRow := h.subscriptionRow }
  | flushStaged hp hb hr =>
      exact {
        always := halways
        session := hsession
        locked := h.locked
        row := h.row
        pending := h.pending
        own := by rw [own_stage_self, h.own]; rfl
        customerRow := h.customerRow
        subscriptionRow := h.subscriptionRow }

/-- What one request does to the rest of the system. -/
theorem frame_exec {w w' : World M} {s : Session} {o : Op} {r : Res o} (hij : j ≠ i)
    (hx : Exec env w i s o r w') : Frame j w.db w'.db := by
  have hrefl : Frame j w.db w.db := frame_of_tables (fun _ => Iff.rfl) rfl rfl rfl rfl
  cases hx with
  | flushRefused _ _ _ => exact frame_rollback hij
  | flushStaged _ _ _ => exact frame_stage hij _
  | _ => exact hrefl

theorem consistent_exec {w w' : World M} {s : Session} {p : Effect Unit}
    {o : Op} {r : Res o}
    (hc : Consistent w.db) (h : Running env w.db i s p) (hx : Exec env w i s o r w') :
    Consistent w'.db := by
  cases hx with
  | flushRefused _ _ _ => exact hc.rollback i
  | flushStaged _ hb hr => exact hc.stage (h.own ▸ h.session.single) hb hr
  | _ => exact hc

/-! ## The end of a transaction -/

/-- The verdict assigns none of the columns that identify the event. -/
theorem verdict_sameEvent {settings : Settings} {tiers : TierTable} {s : Session}
    (h : Verdict settings tiers s) : SameEvent s.loaded s.event := by
  cases h with
  | processed now _ hevent _ => rw [hevent]; exact ⟨rfl, rfl, rfl, rfl⟩
  | permanent now reason _ hevent _ => rw [hevent]; exact ⟨rfl, rfl, rfl, rfl⟩
  | exhausted now reason _ _ hevent _ => rw [hevent]; exact ⟨rfl, rfl, rfl, rfl⟩
  | retry now delay reason _ _ _ hevent _ => rw [hevent]; exact ⟨rfl, rfl, rfl, rfl⟩

/-- An attempt that has returned and can commit. -/
structure Committing (env : Env) (db : Postgres) (i : WorkerId) (s : Session) : Prop where
  verdict : Verdict env.settings env.tiers s
  session : SessionInv env.settings env.tiers s
  pending : s.pending = []
  own : db.own i = s.flushed
  locked : db.locks s.event.stripeEventId = some i
  row : db.webhookEvents.find? s.event.stripeEventId = some s.loaded
  loadedPending : s.loaded.status = .PENDING
  same : SameEvent s.loaded s.event
  customerRow : ∀ c row, Fact.customerRow c (some row) ∈ s.journal →
    ∃ row', db.customerMappings.find? c = some row' ∧
      row'.metronomeCustomerId = row.metronomeCustomerId
  subscriptionRow : ∀ sub row, Fact.subscriptionRow sub (some row) ∈ s.journal →
    db.subscriptionMappings.find? sub = some row

theorem Running.committing {s : Session} {a : Unit} (h : Running env db i s (.ret a)) :
    Committing env db i s := by
  obtain ⟨hp, hpending, hverdict⟩ := h.always.here
  have hsame := verdict_sameEvent hverdict
  exact {
    verdict := hverdict
    session := h.session
    pending := hpending
    own := h.own
    locked := (h.locked _).mpr ⟨hp, hsame.1⟩
    row := hsame.1 ▸ h.row hp
    loadedPending := h.pending
    same := hsame
    customerRow := h.customerRow
    subscriptionRow := h.subscriptionRow }

/-- A move commits only without a constraint violation, and its attempt leaves
nothing for that last flush. -/
theorem Committing.stage {s : Session} (h : Committing env db i s) :
    db.stage i s.pending = db := by
  rw [h.pending, stage_nil]

/-! ## One step -/

theorem WorldInv.of_worker {w w' : World M} {phase : Phase} (h : WorldInv env w)
    (hworkers : w'.workers = Function.update w.workers i phase)
    (hc : Consistent w'.db) (hi : WorkerInv env w'.db i phase)
    (hframe : ∀ j, j ≠ i → Frame j w.db w'.db) : WorldInv env w' where
  consistent := hc
  workers j := by
    rw [hworkers]
    by_cases hij : j = i
    · subst hij
      rw [Function.update_self]
      exact hi
    · rw [Function.update_of_ne hij]
      exact (h.workers j).frame (hframe j hij)

theorem WorldInv.of_frame {w w' : World M} (h : WorldInv env w)
    (hworkers : w'.workers = w.workers) (hc : Consistent w'.db)
    (hframe : ∀ j, Frame j w.db w'.db) : WorldInv env w' where
  consistent := hc
  workers j := by
    rw [hworkers]
    exact (h.workers j).frame (hframe j)

theorem WorldInv.running {w : World M} {s : Session} {p : Effect Unit}
    (h : WorldInv env w)
    (hi : w.workers i = .running s p) : Running env w.db i s p := by
  have := h.workers i
  rw [hi] at this
  exact this

theorem frame_refl (db : Postgres) (j : WorkerId) : Frame j db db :=
  frame_of_tables (fun _ => Iff.rfl) rfl rfl rfl rfl

theorem WorldInv.abort {w : World M} (h : WorldInv env w) (i : WorkerId) :
    WorldInv env (w.abort i) := by
  refine h.of_worker rfl (h.consistent.rollback i) ⟨fun e he => ?_, own_rollback_self⟩
    fun j hij => frame_rollback hij
  exact (locks_rollback.mp he).2 rfl

/-- **Every step keeps the invariant.** -/
theorem worldInv_move {w w' : World M} {label : Label M} (h : WorldInv env w)
    (hm : Move env w label w') : WorldInv env w' := by
  cases hm with
  | tick now => exact h.of_frame rfl h.consistent fun j => frame_refl _ j
  | ignored _ => exact h
  | received hw hnew =>
      refine h.of_frame rfl ?_ fun j => frame_insert _
      exact ⟨h.consistent.customerIds, h.consistent.contractIds,
        fun x hx => (h.consistent.fresh x hx).congr rfl rfl, h.consistent.separate⟩
  | replayed hrow hs =>
      have hkey := Table.find?_key hrow
      subst hkey
      refine h.of_frame rfl ?_ fun j => frame_replayed hrow hs
      exact ⟨h.consistent.customerIds, h.consistent.contractIds,
        fun x hx => (h.consistent.fresh x hx).congr rfl rfl, h.consistent.separate⟩
  | @selected i hi =>
      have hidle := h.workers i
      rw [hi] at hidle
      exact h.of_worker rfl h.consistent hidle fun j _ => frame_refl _ j
  | @exhausted i now hi =>
      have hidle := h.workers i
      rw [hi] at hidle
      exact h.of_worker rfl h.consistent hidle fun j _ => frame_refl _ j
  | @passed i now eventId rest hi _ =>
      have hidle := h.workers i
      rw [hi] at hidle
      exact h.of_worker rfl h.consistent hidle fun j _ => frame_refl _ j
  | @claimed i now eventId rest row hi hfree hfind hstatus _ =>
      have hidle := h.workers i
      rw [hi] at hidle
      have hkey := Table.find?_key hfind
      refine h.of_worker rfl ⟨h.consistent.customerIds, h.consistent.contractIds,
        fun x hx => (h.consistent.fresh x hx).congr rfl rfl, h.consistent.separate⟩
        ?_ fun j hij => frame_lock hij hfree
      exact {
        always := handleEvent_always row
        session := .start row
        locked := fun e => by
          simp only [World.log, World.setPhase, Postgres.lock, Session.start,
            true_and, hkey]
          split
          · next he => simp [he]
          · next he => simp [he, hidle.1 e]
        row := fun _ => hkey ▸ hfind
        pending := hstatus
        own := hidle.2
        customerRow := fun _ _ hmem => by cases hmem
        subscriptionRow := fun _ _ hmem => by cases hmem }
  | @performed i choice s o k r w' hi hx =>
      have hr := h.running hi
      have hworkers : (w'.setPhase i (.running (s.after o r) (k r))).workers =
          Function.update w.workers i (.running (s.after o r) (k r)) := by
        rw [← hx.workers]
        rfl
      have hc : Consistent w'.db := consistent_exec h.consistent hr hx
      have hrunning : Running env w'.db i (s.after o r) (k r) := hr.exec hx
      have hframe : ∀ j, j ≠ i → Frame j w.db w'.db := fun j hij => frame_exec hij hx
      exact h.of_worker hworkers hc hrunning hframe
  | @committed i s a hi _ _ =>
      have hcom := (h.running hi).committing
      rw [hcom.stage]
      have hlen : (w.db.own i).length ≤ 1 := by
        rw [hcom.own]
        exact Nat.le_trans (by simp) hcom.session.single
      refine h.of_worker rfl (h.consistent.commit hlen _) ⟨fun e he => ?_,
        own_commit_self _⟩
        fun j hij => frame_commit hij hcom.locked hcom.row hcom.same
      exact (locks_commit.mp he).2 rfl
  | undone _ _ _ => exact h.abort _
  | crashed _ => exact h.abort _
  | served _ => exact h.of_frame rfl h.consistent fun j => frame_refl _ j

/-! ## Runs -/

theorem worldInv_initial {w : World M} (h : Initial w) : WorldInv env w where
  consistent := by rw [h.db]; exact consistent_empty
  workers i := by
    rw [h.workers i, h.db]
    exact ⟨(fun e he => by cases he), rfl⟩

/-- **Every run keeps the invariant.** -/
theorem worldInv_of_path {C : World M → Label M → Prop} {w₀ w : World M}
    (h : Path (step env M) C w₀ w) (h₀ : Initial w₀) : WorldInv env w :=
  h.invariant (fun _ _ _ _ hinv hs => worldInv_move hinv (step_sound hs))
    (worldInv_initial h₀)

/-- An invariant of runs may assume the invariant of the system. -/
theorem run_invariant_from {C : World M → Label M → Prop} {P : World M → Prop}
    {w₀ w : World M} (h : Path (step env M) C w₀ w) (h₀ : Initial w₀) (hinit : P w₀)
    (hmove : ∀ w label w', C w label → WorldInv env w → P w →
      Move env w label w' → P w') : WorldInv env w ∧ P w := by
  refine h.invariant (I := fun w => WorldInv env w ∧ P w) ?_ ⟨worldInv_initial h₀, hinit⟩
  rintro x label y hc ⟨hinv, hp⟩ hs
  exact ⟨worldInv_move hinv (step_sound hs), hmove x label y hc hinv hp (step_sound hs)⟩

theorem run_invariant {C : World M → Label M → Prop} {P : World M → Prop}
    {w₀ w : World M} (h : Path (step env M) C w₀ w) (h₀ : Initial w₀)
    (hinit : ∀ w : World M, Initial w → P w)
    (hmove : ∀ w label w', C w label → WorldInv env w → P w →
      Move env w label w' → P w') : P w :=
  (run_invariant_from h h₀ (hinit w₀ h₀) hmove).2

/-! ## What a step does to the tables -/

/-- Entries that no account of attempts counts. -/
def quiet : Entry → Prop
  | .started _ | .called _ _ _ => True
  | .enqueued _ | .attempted _ _ _ => False

/-- The mapping tables are as they were. -/
structure SameMappings (w w' : World M) : Prop where
  customer : w'.db.customerMappings = w.db.customerMappings
  subscription : w'.db.subscriptionMappings = w.db.subscriptionMappings

/-- A step as the tables and the history see it. -/
inductive TableMove (env : Env) (w : World M) : Label M → World M → Prop where
  | untouched {label : Label M} {w' : World M} (added : List Entry) :
      w'.db.webhookEvents = w.db.webhookEvents → SameMappings w w' →
      w'.history = added ++ w.history → (∀ entry ∈ added, quiet entry) →
      TableMove env w label w'
  | insert {request : WebhookRequest} {w' : World M} {eventId eventType : String}
      {payload : JsonObject} :
      w.db.webhookEvents.find? eventId = none →
      w'.db.webhookEvents =
        w.db.webhookEvents.insertNew (newEvent w.now eventId eventType payload) →
      SameMappings w w' → w'.history = .enqueued eventId :: w.history →
      TableMove env w (.webhook request) w'
  | replay {w' : World M} {row : WebhookEvent} :
      w.db.webhookEvents.find? row.stripeEventId = some row → row.status = .FAILED →
      w'.db.webhookEvents = w.db.webhookEvents.update (replayed w.now row) →
      SameMappings w w' → w'.history = .enqueued row.stripeEventId :: w.history →
      TableMove env w (.replay row.stripeEventId) w'
  | commit {i : WorkerId} {w' : World M} {s : Session} :
      w.workers i = .running s (.ret ()) → Committing env w.db i s →
      (∀ write ∈ s.flushed, Fresh w.db write) →
      w'.db.webhookEvents = w.db.webhookEvents.update s.event →
      w'.db.customerMappings = (s.flushed.foldl Postgres.apply w.db).customerMappings →
      w'.db.subscriptionMappings =
        (s.flushed.foldl Postgres.apply w.db).subscriptionMappings →
      w'.history = .attempted s.event (lastClock s) s.result :: w.history →
      TableMove env w (.finish i) w'

theorem exec_history {w w' : World M} {s : Session} {o : Op} {r : Res o}
    (h : Exec env w i s o r w') :
    ∃ added, w'.history = added ++ w.history ∧ ∀ entry ∈ added, quiet entry := by
  cases h with
  | send request => exact ⟨[_], rfl, by simp [quiet]⟩
  | _ => exact ⟨[], rfl, by simp⟩

theorem tableMove {w w' : World M} {label : Label M} (hinv : WorldInv env w)
    (hm : Move env w label w') : TableMove env w label w' := by
  cases hm with
  | received hw hnew => exact .insert hnew rfl ⟨rfl, rfl⟩ rfl
  | replayed hrow hs =>
      have hkey := Table.find?_key hrow
      subst hkey
      exact .replay hrow hs rfl ⟨rfl, rfl⟩ rfl
  | claimed _ _ _ _ _ => exact .untouched [_] rfl ⟨rfl, rfl⟩ rfl (by simp [quiet])
  | performed _ hx =>
      obtain ⟨added, hadded, hquiet⟩ := exec_history hx
      exact .untouched added hx.committed.1 ⟨hx.committed.2.1, hx.committed.2.2⟩
        hadded hquiet
  | @committed i s a hi _ _ =>
      have hcom := (hinv.running hi).committing
      have hfresh : ∀ write ∈ s.flushed, Fresh w.db write := fun write hmem =>
        hinv.consistent.fresh (i, write) (mem_own.mp (hcom.own ▸ hmem))
      rw [hcom.stage]
      refine .commit hi hcom hfresh (commit_webhookEvents hcom.row hcom.same) ?_ ?_ rfl
      · rw [← hcom.own]
        exact commit_customerMappings _
      · rw [← hcom.own]
        exact commit_subscriptionMappings _
  | _ => exact .untouched [] rfl ⟨rfl, rfl⟩ rfl (by simp)

end Sidecar.Ports.Invariant
