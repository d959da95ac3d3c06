import Sidecar.Ports.Services

/-!
# One event at a time

While no other party moves, an attempt on a `Service` is its play in
surroundings that can be read off the world in which the event was claimed.

## Main results

* `processed_spec` — what the processing of one event comes to.
* `processed_exists` — a ready event can be processed while no worker is at work.
-/

namespace Sidecar.Ports.Solo

open Sidecar.Verified.KeyedTable
open Sidecar.Verified.Resumption
open Sidecar.Verified.Transition
open Sidecar.Ports.Python
open Sidecar.Ports.Config
open Sidecar.Ports.Mappers hiding requireStr
open Sidecar.Ports.Models
open Sidecar.Ports.Effects
open Sidecar.Ports.MetronomeClient
open Sidecar.Ports.Handlers
open Sidecar.Ports.Worker
open Sidecar.Ports.System
open Sidecar.Ports.Attempt
open Sidecar.Ports.Execution
open Sidecar.Ports.Moves
open Sidecar.Ports.Transactions
open Sidecar.Ports.Invariant
open Sidecar.Ports.Mappings
open Sidecar.Ports.Calls
open Sidecar.Ports.Remote
open Sidecar.Ports.Plans
open Sidecar.Ports.Outcomes
open Sidecar.Ports.Traffic
open Sidecar.Ports.Turns
open Sidecar.Ports.Services

/-! ## Processing -/

/-- What is said to an event while it is processed: the time of its claim, the
times it reads, and its draws. -/
structure Timing where
  claimedAt : Time
  clock : List Write → Time
  draw : PyFloat → PyFloat

section Solo

variable {σ : Service} {env : Env} {w w' v v' : World σ.metronome} {timing : Timing}
  {i : WorkerId}

/-- What Metronome holds for each Stripe customer. -/
def objectsOf (w : World σ.metronome) : String → σ.Objects :=
  Service.Store.objects (σ := σ) w.remote

/-- What Metronome has answered to each call. -/
def answersOf (w : World σ.metronome) : Nat → Option σ.Answer :=
  Service.Store.answers (σ := σ) w.remote

/-- A step of worker `i`, or the passage of time. -/
def Alone (timing : Timing) (i : WorkerId) (w : World σ.metronome) :
    Label σ.metronome → Prop
  | .tick _ => True
  | .perform j choice => j = i ∧ ∀ s o k, w.workers i = .running s (.perform o k) →
      (o = .clock → w.now = timing.clock s.flushed) ∧
      ∀ hi, o = .uniform hi → choice = .draw (timing.draw hi)
  | _ => False

/-- An idle worker processes the event from the claim to the end of its
transaction, and nobody else moves. -/
def Processed (env : Env) (timing : Timing) (eventId : String)
    (w w' : World σ.metronome) :
    Prop :=
  ∃ i w₁ w₂, w.workers i = .idle ∧
    step env σ.metronome (w.setPhase i (.scanning timing.claimedAt [eventId]))
      (.lock i) = some w₁ ∧
    Path (step env σ.metronome) (Alone timing i) w₁ w₂ ∧
    step env σ.metronome w₂ (.finish i) = some w'

/-- What an event meets with that is processed on its own. -/
def meets (env : Env) (timing : Timing) (w : World σ.metronome) : Surroundings :=
  { ofDb w.db env.enforceFk
      (fun
        | [] => .apiError ""
        | request :: earlier =>
            σ.answer (σ.after (objectsOf w) earlier (σ.named request)) request)
      timing.clock timing.draw with
    firstTicket := w.tickets }

/-- Worker `i` is at `p` of its attempt on `row`, and nobody else has moved
since `w`; `l` is the call whose answer it waits for. -/
structure Under (env : Env) (timing : Timing) (row : WebhookEvent) (i : WorkerId)
    (w v : World σ.metronome) (s : Session) (p : Effect Unit)
    (l : Option (Nat × MetronomeRequest)) : Prop where
  inv : WorldInv env v
  events : v.db.webhookEvents = w.db.webhookEvents
  mappings : SameMappings w v
  running : v.workers i = .running s p
  play : (meets env timing w).play p s = (meets env timing w).attempt env.settings
    env.tiers row
  tickets : v.tickets = w.tickets + (calls s).length
  objects : objectsOf v = σ.after (objectsOf w) (calls s)
  inTurn : Always waiting InTurn p l
  answered : ∀ ticket request, l = some (ticket, request) →
    ∃ answer, answersOf v ticket = some answer ∧
      answer.1 = (request, (meets env timing w).outcome (calls s))

/-- One request of a worker. -/
theorem perform_cases {M : Metronome} {v v' : World M} {choice : Choice}
    (h : step env M v (.perform i choice) = some v') :
    ∃ s o k r v₁, v.workers i = .running s (.perform o k) ∧
      exec env v i s o choice = some (v₁, r) ∧
      v' = v₁.setPhase i (.running (s.after o r) (k r)) := by
  simp only [step] at h
  split at h
  · next s o k hi =>
      obtain ⟨⟨v₁, r⟩, hexec, hv⟩ := Option.map_eq_some_iff.mp h
      exact ⟨s, o, k, r, v₁, hi, hexec, hv.symm⟩
  · cases h

theorem perform_of {M : Metronome} {v v' : World M} {s : Session} {o : Op}
    {k : Res o → Effect Unit} {r : Res o} {choice : Choice}
    (hi : v.workers i = .running s (.perform o k))
    (hx : exec env v i s o choice = some (v', r)) :
    step env M v (.perform i choice) =
      some (v'.setPhase i (.running (s.after o r) (k r))) := by
  simp only [step, hi, hx, Option.map_some]

theorem violates_congr {db db' : Postgres} {enforceFk : Bool} {own : List Write}
    {write : Write} (hc : db'.customerMappings = db.customerMappings)
    (hs : db'.subscriptionMappings = db.subscriptionMappings) :
    db'.violates enforceFk own write = db.violates enforceFk own write := by
  cases write with
  | insertCustomer row => simp only [Postgres.violates, hc]
  | insertSubscription row => simp only [Postgres.violates, hc, hs]
  | touchCustomer c now => rfl

/-- Constraints speak about the mapping tables. -/
theorem refusal_congr {db db' : Postgres} {enforceFk : Bool} {own ws : List Write}
    (hc : db'.customerMappings = db.customerMappings)
    (hs : db'.subscriptionMappings = db.subscriptionMappings) :
    db'.refusal enforceFk own ws = db.refusal enforceFk own ws := by
  induction ws generalizing own with
  | nil => rfl
  | cons write ws ih => simp only [Postgres.refusal, violates_congr hc hs, ih]

section Under

variable {row : WebhookEvent} {s : Session} {p : Effect Unit} {o : Op}
    {k : Res o → Effect Unit}
  {l : Option (Nat × MetronomeRequest)} {r : Res o} {choice : Choice}

/-- What the database refuses an attempt when it flushes its row. -/
theorem Under.refusal (h : Under env timing row i w v s p l) :
    v.db.refusal env.enforceFk (v.db.own i) s.pending =
      w.db.refusal env.enforceFk [] s.pending := by
  have hrun := h.inv.running h.running
  rw [refusal_congr h.mappings.customer h.mappings.subscription, hrun.own]
  have hsingle := hrun.session.single
  rw [List.length_append] at hsingle
  by_cases hpending : s.pending = []
  · rw [hpending]
    rfl
  · have hpos := List.length_pos_iff.mpr hpending
    have hflushed : s.flushed.length = 0 := by omega
    rw [List.length_eq_zero_iff.mp hflushed]

/-- **The reply to a worker that is alone.** -/
theorem Under.reply (h : Under env timing row i w v s (.perform o k) l)
    (hx : exec env v i s o choice = some (v', r))
    (hclock : o = .clock → v.now = timing.clock s.flushed)
    (hdraw : ∀ hi, o = .uniform hi → choice = .draw (timing.draw hi)) :
    r = (meets env timing w).reply s o := by
  have hrun := h.inv.running h.running
  have hallowed : Allowed env.settings env.tiers s o := hrun.always.here
  cases o with
  | uniform hi =>
      rw [hdraw hi rfl] at hx
      simp only [exec] at hx
      split at hx
      · cases hx
        rfl
      · cases hx
  | recv ticket request =>
      cases exec_sound hx with
      | recv hr =>
          obtain ⟨answer, hanswer, heq⟩ := recv_eq_true hr
          obtain ⟨answer', hanswer', heq'⟩ :=
            h.answered ticket request (h.inTurn.here.recv _ _ rfl)
          have hsame : answer = answer' := Option.some.inj (hanswer.symm.trans hanswer')
          rw [← hsame, heq] at heq'
          exact congrArg Prod.snd heq'
  | lookupCustomerMapping c =>
      cases exec_sound hx
      rw [view_of_own_nil (hrun.own.trans hallowed.1), h.mappings.customer]
      rfl
  | lookupSubscriptionMapping sub =>
      cases exec_sound hx
      rw [view_of_own_nil (hrun.own.trans hallowed.1), h.mappings.subscription]
      rfl
  | send request =>
      cases exec_sound hx
      exact h.tickets
  | flush =>
      have hrefusal := h.refusal
      have hrefused : (meets env timing w).refusal s.pending =
          w.db.refusal env.enforceFk [] s.pending := rfl
      cases exec_sound hx with
      | flushDead hp => exact (reply_flush_poisoned hp).symm
      | flushRefused hp _ hr =>
          rw [hr] at hrefusal
          exact (reply_flush_refused hp (hrefused.trans hrefusal.symm)).symm
      | flushStaged hp _ hr =>
          rw [hr] at hrefusal
          exact (reply_flush_staged hp (hrefused.trans hrefusal.symm)).symm
  | clock =>
      cases exec_sound hx
      exact hclock rfl
  | _ =>
      cases exec_sound hx
      rfl

/-- Only a call is recorded as one. -/
theorem calls_after (h : ∀ request, o ≠ .send request) :
    calls (s.after o r) = calls s := by
  cases o with
  | send request => exact absurd rfl (h request)
  | flush => cases r <;> rfl
  | _ => rfl

/-- **A request of a worker that is alone.** -/
theorem Under.perform (h : Under env timing row i w v s (.perform o k) l)
    (hx : exec env v i s o choice = some (v', r))
    (hr : r = (meets env timing w).reply s o)
    (hinv : WorldInv env (v'.setPhase i (.running (s.after o r) (k r)))) :
    Under env timing row i w (v'.setPhase i (.running (s.after o r) (k r)))
      (s.after o r) (k r)
      (waiting.after o r l) := by
  have hexec := exec_sound hx
  have hplay : (meets env timing w).play (k r) (s.after o r) =
      (meets env timing w).attempt env.settings env.tiers row := by
    rw [← h.play, hr]
    rfl
  obtain ⟨hevents, hcustomers, hsubscriptions⟩ := hexec.committed
  by_cases hsend : ∃ request, o = .send request
  · obtain ⟨request, rfl⟩ := hsend
    cases hexec
    have hobjects : objectsOf v = σ.after (objectsOf w) (calls s) := h.objects
    refine ⟨hinv, h.events, ⟨h.mappings.customer, h.mappings.subscription⟩,
      Function.update_self .., hplay, ?_, ?_, h.inTurn.step trivial, ?_⟩
    · show v.tickets + 1 = w.tickets + ((calls s).length + 1)
      rw [h.tickets, Nat.add_assoc]
    · show σ.carryOut (objectsOf v) request = σ.after (objectsOf w) (request :: calls s)
      rw [hobjects]
      rfl
    · intro ticket request' heq
      cases heq
      refine ⟨_, Function.update_self .., ?_⟩
      show (request, σ.answer (objectsOf v (σ.named request)) request) = _
      rw [hobjects]
      rfl
  · have hsend : ∀ request, o ≠ .send request := fun request heq => hsend ⟨request, heq⟩
    have hcalls : calls (s.after o r) = calls s := calls_after hsend
    have hkept : v'.tickets = v.tickets ∧ v'.remote = v.remote := by
      cases hexec with
      | send request => exact absurd rfl (hsend request)
      | _ => exact ⟨rfl, rfl⟩
    refine ⟨hinv, hevents.trans h.events, ⟨hcustomers.trans h.mappings.customer,
      hsubscriptions.trans h.mappings.subscription⟩, Function.update_self ..,
        hplay, ?_, ?_, h.inTurn.step trivial, ?_⟩
    · rw [hcalls]
      exact hkept.1.trans h.tickets
    · rw [hcalls, ← h.objects]
      exact congrArg (Service.Store.objects (σ := σ)) hkept.2
    · intro ticket request heq
      cases o with
      | send request => exact absurd rfl (hsend request)
      | _ => cases heq

/-- **A worker that is alone** follows its play. -/
theorem under_of_path {s₀ : Session} {p₀ : Effect Unit}
    {l₀ : Option (Nat × MetronomeRequest)}
    {v₀ : World σ.metronome} (h : Path (step env σ.metronome) (Alone timing i) v₀ v)
    (h₀ : Under env timing row i w v₀ s₀ p₀ l₀) :
    ∃ s p l, Under env timing row i w v s p l := by
  refine h.invariant (I := fun v => ∃ s p l, Under env timing row i w v s p l) ?_
    ⟨_, _, _, h₀⟩
  intro x label y hc hx hy
  obtain ⟨s, p, l, hunder⟩ := hx
  have hinv := worldInv_move hunder.inv (step_sound hy)
  cases label with
  | tick now =>
      cases hy
      exact ⟨s, p, l, hinv, hunder.events,
        ⟨hunder.mappings.customer, hunder.mappings.subscription⟩, hunder.running,
        hunder.play, hunder.tickets, hunder.objects, hunder.inTurn, hunder.answered⟩
  | perform j choice =>
      obtain ⟨rfl, hchoice⟩ := hc
      obtain ⟨s', o, k, r, y₁, hrunning, hexec, rfl⟩ := perform_cases hy
      have heq := hunder.running.symm.trans hrunning
      cases heq
      obtain ⟨hclock, hdraw⟩ := hchoice _ _ _ hrunning
      exact ⟨_, _, _, hunder.perform hexec (hunder.reply hexec hclock hdraw) hinv⟩
  | _ => exact hc.elim

/-- The same rows in every table. -/
structure SameRows (db db' : Postgres) : Prop where
  events : ∀ e, db.webhookEvents.find? e = db'.webhookEvents.find? e
  customers : ∀ c, db.customerMappings.find? c = db'.customerMappings.find? c
  subscriptions : ∀ sub, db.subscriptionMappings.find? sub =
    db'.subscriptionMappings.find? sub

/-- The end of the transaction. -/
theorem Under.finished (h : Under env timing row i w v s p l)
    (hf : step env σ.metronome v (.finish i) = some w') :
    SameRows w'.db
        (afterAttempt w.db ((meets env timing w).attempt env.settings env.tiers row)) ∧
      objectsOf w' = σ.after (objectsOf w)
        (calls ((meets env timing w).attempt env.settings env.tiers row).1) := by
  have hrun := h.inv.running h.running
  rw [← h.play]
  cases step_sound hf with
  | @committed _ s' a hi hp hr =>
      have heq := h.running.symm.trans hi
      cases heq
      have hcom := hrun.committing
      have hrow : w.db.webhookEvents.find? s.event.stripeEventId = some s.loaded :=
        h.events ▸ hcom.row
      have hafter : afterAttempt w.db (s, .ok a) =
          (s.flushed.foldl Postgres.apply w.db).updateEvent s.event := by
        simp only [afterAttempt, hp, hcom.pending, List.append_nil,
          Bool.false_eq_true, if_false]
      refine ⟨?_, h.objects⟩
      show SameRows ((v.db.stage i s.pending).commit i s.event)
        (afterAttempt w.db (s, .ok a))
      rw [hafter, hcom.stage]
      refine ⟨fun e => ?_, fun c => ?_, fun sub => ?_⟩
      · rw [commit_webhookEvents hcom.row hcom.same, h.events,
          updateEvent_webhookEvents
            (by rw [foldl_apply_webhookEvents]; exact hrow) hcom.same,
          foldl_apply_webhookEvents]
      · rw [commit_customerMappings, updateEvent_customerMappings, hcom.own]
        exact customer_foldl_congr _ (by rw [h.mappings.customer])
      · rw [commit_subscriptionMappings, updateEvent_subscriptionMappings, hcom.own]
        exact subscription_foldl_congr _ (by rw [h.mappings.subscription])
  | @undone _ s' p' hi hret hnot =>
      have heq := h.running.symm.trans hi
      cases heq
      cases p with
      | perform o k => exact absurd rfl (hnot o k)
      | raise exc =>
          refine ⟨⟨fun e => ?_, fun c => ?_, fun sub => ?_⟩, h.objects⟩
          · exact congrArg (Table.find? · e) h.events
          · exact congrArg (Table.find? · c) h.mappings.customer
          · exact congrArg (Table.find? · sub) h.mappings.subscription
      | ret a =>
          obtain ⟨hp, hpending, _⟩ := hrun.always.here
          rcases hret a rfl with hp' | hr
          · rw [hp] at hp'
            cases hp'
          · rw [hpending] at hr
            exact absurd rfl hr

end Under

/-- A worker that has found no event goes on finding none. -/
theorem scanning_of_path {now : Time}
    (h : Path (step env σ.metronome) (Alone timing i) w v)
    (hi : w.workers i = .scanning now []) : v.workers i = .scanning now [] := by
  refine h.invariant (I := fun v => v.workers i = .scanning now []) ?_ hi
  intro x label y hc hx hy
  cases label with
  | tick now =>
      cases hy
      exact hx
  | perform j choice =>
      obtain ⟨rfl, _⟩ := hc
      simp only [step, hx] at hy
      cases hy
  | _ => exact hc.elim

theorem WorldInv.scanning (h : WorldInv env w) (hi : w.workers i = .idle) (now : Time)
    (rest : List String) : WorldInv env (w.setPhase i (.scanning now rest)) := by
  have hworker := h.workers i
  rw [hi] at hworker
  exact h.of_worker rfl h.consistent hworker fun j _ => frame_refl _ j

/-- **An event that is processed on its own**: what it leaves is read off the
world in which it was claimed. -/
theorem processed_spec {eventId : String} (hinv : WorldInv env w)
    (h : Processed env timing eventId w w') :
    ∃ row, w.db.webhookEvents.find? eventId = some row ∧
      SameRows w'.db
        (afterAttempt w.db ((meets env timing w).attempt env.settings env.tiers row)) ∧
      objectsOf w' = σ.after (objectsOf w)
        (calls ((meets env timing w).attempt env.settings env.tiers row).1) := by
  obtain ⟨i, w₁, w₂, hidle, hlock, hpath, hfinish⟩ := h
  have hscanning : (w.setPhase i (.scanning timing.claimedAt [eventId])).workers i =
      .scanning timing.claimedAt [eventId] := Function.update_self ..
  have hinv₁ := worldInv_move (WorldInv.scanning hinv hidle _ _) (step_sound hlock)
  cases step_sound hlock with
  | exhausted hi => cases hscanning.symm.trans hi
  | passed hi _ =>
      cases hscanning.symm.trans hi
      have hstay := scanning_of_path hpath (Function.update_self ..)
      simp only [step, hstay] at hfinish
      cases hfinish
  | @claimed _ _ _ _ row hi _ hrow _ _ =>
      cases hscanning.symm.trans hi
      obtain ⟨s, p, l, hunder⟩ := under_of_path (w := w) hpath
        ⟨hinv₁, rfl, ⟨rfl, rfl⟩, Function.update_self .., rfl, rfl, rfl,
          orderly_handleEvent row, fun _ _ heq => by cases heq⟩
      exact ⟨row, hrow, hunder.finished hfinish⟩

/-! ## Every ready event can be processed -/

/-- No worker is at work. -/
def Quiet (w : World σ.metronome) : Prop := ∀ j, w.workers j = .idle

/-- The draws are those of `random.uniform`. -/
def Timing.Fair (timing : Timing) : Prop :=
  ∀ hi, (PyFloat.fin 1).le hi = true → drawAllowed hi (timing.draw hi) = true

/-- Nothing that is flushed has to wait while the other workers are idle. -/
theorem not_blocked (hinv : WorldInv env v) (hothers : ∀ j, j ≠ i → v.workers j = .idle)
    (ws : List Write) : v.db.blocked i ws = false := by
  refine List.any_eq_false.mpr fun x hx => ?_
  by_cases hi : x.1 = i
  · simp [hi]
  · have hown := hinv.workers x.1
    rw [hothers _ hi] at hown
    have hmem : x.2 ∈ v.db.own x.1 := mem_own.mpr hx
    rw [hown.2] at hmem
    cases hmem

/-- A request of a worker that is alone is answered. -/
theorem Under.answers {row : WebhookEvent} {s : Session} {o : Op}
    {k : Res o → Effect Unit} {l : Option (Nat × MetronomeRequest)}
    (h : Under env timing row i w v s (.perform o k) l)
    (hothers : ∀ j, j ≠ i → v.workers j = .idle) (hfair : timing.Fair) :
    ∃ choice v₁ r, exec env v i s o choice = some (v₁, r) ∧
      ∀ hi, o = .uniform hi → choice = .draw (timing.draw hi) := by
  cases o with
  | recv ticket request =>
      obtain ⟨answer, hanswer, heq⟩ :=
        h.answered ticket request (h.inTurn.here.recv _ _ rfl)
      have hrecv : σ.metronome.recv v.remote ticket request
          ((meets env timing w).outcome (calls s)) = true :=
        @decide_eq_true _ (Classical.propDecidable _) ⟨answer, hanswer, heq⟩
      exact ⟨.outcome _, v, _, if_pos hrecv, fun hi heq => by cases heq⟩
  | uniform hi =>
      refine ⟨.draw (timing.draw hi), v, timing.draw hi,
        if_pos (hfair hi (h.inTurn.here.draw hi rfl)),
        fun hi' heq => ?_⟩
      cases heq
      rfl
  | flush =>
      have hblocked := not_blocked h.inv hothers s.pending
      cases hp : s.poisoned with
      | true =>
          exact ⟨.none, v, .error closedTransaction, by simp only [exec, hp, if_true],
            fun hi heq => by cases heq⟩
      | false =>
          cases hr : v.db.refusal env.enforceFk (v.db.own i) s.pending with
          | some constraint =>
              refine ⟨.none, { v with db := v.db.rollback i },
                .error (.integrityError constraint), ?_, fun hi heq => by cases heq⟩
              simp only [exec, hp, hblocked, hr, Bool.false_eq_true, if_false]
          | none =>
              refine ⟨.none, { v with db := v.db.stage i s.pending }, .ok (), ?_,
                fun hi heq => by cases heq⟩
              simp only [exec, hp, hblocked, hr, Bool.false_eq_true, if_false]
  | _ => exact ⟨.none, _, _, rfl, fun hi heq => by cases heq⟩

/-- The clock may be set at any moment. -/
theorem Under.tick {row : WebhookEvent} {s : Session} {p : Effect Unit}
    {l : Option (Nat × MetronomeRequest)} (h : Under env timing row i w v s p l)
    (now : Time) :
    Under env timing row i w { v with now := now } s p l :=
  ⟨worldInv_move h.inv (.tick now), h.events,
    ⟨h.mappings.customer, h.mappings.subscription⟩,
    h.running, h.play, h.tickets, h.objects, h.inTurn, h.answered⟩

/-- A worker that is alone gets to the end of its attempt. -/
theorem under_ends {row : WebhookEvent} {s : Session} {p : Effect Unit}
    {l : Option (Nat × MetronomeRequest)} (h : Under env timing row i w v s p l)
    (hothers : ∀ j, j ≠ i → v.workers j = .idle) (hfair : timing.Fair) :
    ∃ v' s' p' l', Path (step env σ.metronome) (Alone timing i) v v' ∧
      Under env timing row i w v' s' p' l' ∧ (∀ o k, p' ≠ .perform o k) ∧
      ∀ j, j ≠ i → v'.workers j = .idle := by
  induction p generalizing v s l with
  | ret a => exact ⟨v, s, _, l, .refl, h, fun o k heq => (by cases heq), hothers⟩
  | raise exc => exact ⟨v, s, _, l, .refl, h, fun o k heq => (by cases heq), hothers⟩
  | perform o k ih =>
      -- the clock first shows what the attempt would read
      have hunder := h.tick (timing.clock s.flushed)
      obtain ⟨choice, v₁, r, hexec, hdraw⟩ := hunder.answers hothers hfair
      have hreply := hunder.reply hexec (fun _ => rfl) hdraw
      have hstep : step env σ.metronome { v with now := timing.clock s.flushed }
          (.perform i choice) = some (v₁.setPhase i (.running (s.after o r) (k r))) :=
        perform_of hunder.running hexec
      have hinv := worldInv_move hunder.inv (step_sound hstep)
      have hothers₁ : ∀ j, j ≠ i →
          (v₁.setPhase i (.running (s.after o r) (k r))).workers j = .idle := by
        intro j hj
        rw [← hothers j hj]
        refine (Function.update_of_ne hj _ _).trans ?_
        rw [(exec_sound hexec).workers]
      obtain ⟨v', s', p', l', hpath, hend⟩ :=
        ih r (hunder.perform hexec hreply hinv) hothers₁
      have htick : Path (step env σ.metronome) (Alone timing i) v
          { v with now := timing.clock s.flushed } :=
        .snoc (a := .tick (timing.clock s.flushed)) .refl trivial rfl
      have halone : Alone timing i { v with now := timing.clock s.flushed }
          (.perform i choice) := by
        refine ⟨rfl, fun s' o' k' hi => ?_⟩
        cases hunder.running.symm.trans hi
        exact ⟨fun _ => rfl, hdraw⟩
      exact ⟨v', s', p', l', (htick.snoc halone hstep).trans hpath, hend⟩

theorem Quiet.setPhase_ne {phase : Phase} (h : Quiet w) {j : WorkerId} (hj : j ≠ i) :
    (w.setPhase i phase).workers j = .idle := by
  rw [← h j]
  exact Function.update_of_ne hj _ _

/-- The end of the transaction leaves the worker idle. -/
theorem Under.finishes {row : WebhookEvent} {s : Session} {p : Effect Unit}
    {l : Option (Nat × MetronomeRequest)} (h : Under env timing row i w v s p l)
    (hend : ∀ o k, p ≠ .perform o k) (hothers : ∀ j, j ≠ i → v.workers j = .idle) :
    ∃ w', step env σ.metronome v (.finish i) = some w' ∧ Quiet w' := by
  have hquiet : ∀ w' : World σ.metronome, w'.workers = Function.update v.workers i .idle →
      Quiet w' := by
    intro w' hw j
    by_cases hj : j = i
    · subst hj
      rw [hw, Function.update_self]
    · rw [hw, Function.update_of_ne hj, hothers j hj]
  have hfinish : step env σ.metronome v (.finish i) = finish env v i s p := by
    simp only [step, h.running]
  rw [hfinish]
  cases p with
  | perform o k => exact absurd rfl (hend o k)
  | raise exc => exact ⟨_, rfl, hquiet _ rfl⟩
  | ret a =>
      obtain ⟨hp, hpending, _⟩ := (h.inv.running h.running).always.here
      refine ⟨_, ?_,
        hquiet (((({ v with db := (v.db.stage i s.pending).commit i s.event } :
            World σ.metronome).setPhase i .idle).log
          (.attempted s.event (lastClock s) s.result))) rfl⟩
      simp only [finish, hp, hpending, not_blocked h.inv hothers, Postgres.refusal,
        Bool.false_eq_true, if_false]

/-- **A ready event can be processed** while no worker is at work. -/
theorem processed_exists {eventId : String} {row : WebhookEvent} (i : WorkerId)
    (hinv : WorldInv env w) (hquiet : Quiet w) (hfair : timing.Fair)
    (hrow : w.db.webhookEvents.find? eventId = some row)
    (hready : Postgres.ready timing.claimedAt row = true) :
    ∃ w', Processed env timing eventId w w' ∧ Quiet w' := by
  have hscanning : (w.setPhase i (.scanning timing.claimedAt [eventId])).workers i =
      .scanning timing.claimedAt [eventId] := Function.update_self ..
  have hfree : w.db.locks eventId = none := by
    cases hlock : w.db.locks eventId with
    | none => rfl
    | some j =>
        have hworker := hinv.workers j
        rw [hquiet j] at hworker
        exact absurd hlock (hworker.1 eventId)
  have hlockable : (w.setPhase i (.scanning timing.claimedAt [eventId])).db.lockable
      timing.claimedAt eventId = some row := by
    simp only [World.setPhase, Postgres.lockable, hfree, if_true, hrow,
      Option.filter_some, hready]
  have hlock : step env σ.metronome (w.setPhase i (.scanning timing.claimedAt [eventId]))
      (.lock i) = some ((({ w.setPhase i (.scanning timing.claimedAt [eventId]) with
        db := w.db.lock i eventId }).setPhase i
          (.running (.start row) (handleEvent env.settings env.tiers row))).log
            (.started eventId)) := by
    simp only [step, hscanning, hlockable]
    rfl
  have hunder₁ : Under env timing row i w _ (.start row)
      (handleEvent env.settings env.tiers row) none :=
    ⟨worldInv_move (WorldInv.scanning hinv (hquiet i) _ _) (step_sound hlock),
      rfl, ⟨rfl, rfl⟩, Function.update_self .., rfl, rfl, rfl, orderly_handleEvent row,
      fun _ _ heq => by cases heq⟩
  obtain ⟨v, s, p, l, hpath, hunder, hend, hothers⟩ := under_ends hunder₁
    (fun j hj => (Function.update_of_ne hj _ _).trans (hquiet.setPhase_ne hj)) hfair
  obtain ⟨w', hfinish, hw'⟩ := hunder.finishes hend hothers
  exact ⟨w', ⟨i, _, v, hquiet i, hlock, hpath, hfinish⟩, hw'⟩

/-- What every step keeps, the processing of an event keeps. -/
theorem Processed.invariant {eventId : String} (h : Processed env timing eventId w w')
    (hinv : WorldInv env w) (hown : OwnRows w) : WorldInv env w' ∧ OwnRows w' := by
  obtain ⟨i, w₁, w₂, hidle, hlock, hpath, hfinish⟩ := h
  have hstep : ∀ (x y : World σ.metronome) label, WorldInv env x ∧ OwnRows x →
      step env σ.metronome x label = some y → WorldInv env y ∧ OwnRows y :=
    fun x y label hx hy => ⟨worldInv_move hx.1 (step_sound hy),
      ownRows_move hx.1 hx.2 (step_sound hy)⟩
  have hscanning : OwnRows (w.setPhase i (.scanning timing.claimedAt [eventId])) := by
    refine ⟨fun j s p hj => ?_, hown.customer, hown.contract, hown.referential⟩
    by_cases hij : j = i
    · subst hij
      cases (Function.update_self ..).symm.trans hj
    · exact hown.heard j s p ((Function.update_of_ne hij ..).symm.trans hj)
  refine hstep _ _ _ (hpath.invariant (fun x label y _ hx hy => hstep x y label hx hy) ?_)
    hfinish
  exact hstep _ _ _ ⟨WorldInv.scanning hinv hidle _ _, hscanning⟩ hlock

end Solo

end Sidecar.Ports.Solo
