import Sidecar.Ports.Lifecycle

/-!
# Attempts that make progress

An attempt whose session is poisoned by a constraint violation, or whose retry
time cannot be computed, ends in an exception inside the `except` clause: its
transaction is rolled back, the count of the attempt with it, and the event is
as ready as before.  These are the only ways.  Where no step of a run takes
them, every attempt commits, and an event is attempted a bounded number of
times.

## Main results

* `handleEvent_returns` — away from those steps an attempt never raises.
* `attempts_progress` — so every attempt commits progress.
* `attempts_progress_repeatedId` — a repeated Metronome id stops it.
-/

namespace Sidecar.Ports.Progress

open Sidecar.Verified.Resumption
open Sidecar.Verified.KeyedTable
open Sidecar.Verified.Transition
open Sidecar.Ports.Python
open Sidecar.Ports.Config
open Sidecar.Ports.Models
open Sidecar.Ports.Effects
open Sidecar.Ports.Handlers
open Sidecar.Ports.Worker
open Sidecar.Ports.Receiver
open Sidecar.Ports.System
open Sidecar.Ports.Attempt
open Sidecar.Ports.Execution
open Sidecar.Ports.Moves
open Sidecar.Ports.Transactions
open Sidecar.Ports.Invariant
open Sidecar.Ports.Lifecycle
open Sidecar.Ports.Remote

variable {env : Env} {M : Metronome} {settings : Settings} {tiers : TierTable}

/-! ## The steps that stop an attempt -/

/-- `2 ** (attempts - 1)` is not too large for a float, or is not computed. -/
def countable (settings : Settings) (attempts : Int) : Bool :=
  attempts ≤ 1024 || settings.workerMaxAttempts ≤ attempts

/-- The retry time `now + timedelta(seconds=max(1.0, draw))` exists. -/
def representable (now : Time) (draw : PyFloat) : Bool :=
  match addSeconds now (maxOne draw) with
  | .ok _ => true
  | .error _ => false

/-- The step violates no constraint, and computes no impossible retry time. -/
def proceeds (env : Env) (w : World M) : Label M → Bool
  | .perform i _ =>
      match w.workers i with
      | .running s (.perform .flush _) =>
          (w.db.refusal env.enforceFk (w.db.own i) s.pending).isNone
      | .running s (.perform .readAttempts _) => countable env.settings s.event.attempts
      | .running s (.perform .clock _) =>
          match s.journal with
          | .drew draw :: _ => representable w.now draw
          | _ => true
      | _ => true
  | _ => true

/-- What the session sees of such a step. -/
def Proceeds (settings : Settings) (s : Session) : (o : Op) → Res o → Prop
  | .flush, reply => s.poisoned = false → reply = .ok ()
  | .readAttempts, _ => countable settings s.event.attempts = true
  | .clock, now => ∀ draw rest, s.journal = .drew draw :: rest →
      representable now draw = true
  | _, _ => True

/-- The effects of an attempt that nothing stops. -/
def smooth (settings : Settings) : Local Op Res Session where
  admits := fun o r s => s.admits o r ∧ Proceeds settings s o r
  after := fun o r s => s.after o r

/-! ## Attempts that nothing stops -/

/-- A session that no flush has poisoned. -/
def Intact (s : Session) : Prop := s.poisoned = false ∧ 0 ≤ s.loaded.attempts

theorem smooth_intact (o : Op) (r : Res o) (s : Session)
    (hr : (smooth settings).admits o r s) (h : Intact s) :
    Intact ((smooth settings).after o r s) := by
  have hloaded : ((smooth settings).after o r s).loaded = s.loaded := after_loaded
  refine ⟨?_, hloaded ▸ h.2⟩
  cases o with
  | flush =>
      have hok : r = .ok () := hr.2 h.1
      subst hok
      exact h.1
  | _ => exact h.1

theorem always_smooth {α : Type} {J : Session → Node Op PyExc α → Prop} {p : Effect α}
    {s : Session} (h : Always semantics J p s) : Always (smooth settings) J p s := by
  refine h.restrict ?_ ?_
  · exact fun _ _ _ hr => hr.1
  · rfl

/-- No exception is in sight. -/
def Returns (s : Session) : Node Op PyExc Unit → Prop
  | .raise _ => False
  | _ => s.poisoned = false

section Verdicts

variable {s : Session}

theorem returns_assign {assignment : Assignment} {f : Unit → Effect Unit}
    (hp : s.poisoned = false)
    (h : Always (smooth settings) Returns (f ())
      { s with event := assignment.apply s.event }) :
    Always (smooth settings) Returns (assign assignment >>= f) s := by
  rw [always_bind]
  exact ⟨hp, fun _ _ => h⟩

theorem returns_clock {f : Time → Effect Unit} (hp : s.poisoned = false)
    (h : ∀ now, Proceeds settings s .clock now →
      Always (smooth settings) Returns (f now) (s.learn (.clock now))) :
    Always (smooth settings) Returns (datetimeNow >>= f) s := by
  rw [always_bind]
  exact ⟨hp, fun now hnow => h now hnow.2⟩

theorem returns_markProcessed (hp : s.poisoned = false) :
    Always (smooth settings) Returns markProcessed s := by
  unfold markProcessed
  refine returns_assign hp (returns_clock hp fun now _ => returns_assign hp ?_)
  exact ⟨hp, fun _ _ => hp⟩

theorem returns_markFailed {reason : String} {isPermanent : Bool}
    (hp : s.poisoned = false) :
    Always (smooth settings) Returns (markFailed reason isPermanent) s := by
  unfold markFailed
  refine returns_assign hp (returns_assign hp (returns_clock hp fun now _ => ?_))
  exact ⟨hp, fun _ _ => hp⟩

theorem returns_retryAt {draw : PyFloat} {reason : String} (hp : s.poisoned = false) :
    Always (smooth settings) Returns (do
      assign (.status .PENDING)
      let now ← datetimeNow
      let nextAttemptAt ← .ofExcept (addSeconds now (maxOne draw))
      assign (.nextAttemptAt nextAttemptAt)
      assign (.lastError (some reason))) (s.learn (.drew draw)) := by
  refine returns_assign hp (returns_clock hp fun now hnow => ?_)
  have hrep : representable now draw = true := hnow draw s.journal rfl
  unfold representable at hrep
  split at hrep
  · next nextAttemptAt hnext =>
      rw [hnext]
      refine returns_assign (f := fun _ => _) hp ?_
      exact ⟨hp, fun _ _ => hp⟩
  · cases hrep

theorem returns_scheduleRetryOrFail {reason : String} (hp : s.poisoned = false)
    (hmax : 1 ≤ s.event.attempts) :
    Always (smooth settings) Returns (scheduleRetryOrFail settings reason) s := by
  unfold scheduleRetryOrFail eventAttempts
  simp only [bind_assoc]
  rw [always_bind]
  refine ⟨hp, fun reply hreply => ?_⟩
  obtain ⟨hadmits, hcountable⟩ := hreply
  simp only [Session.admits, hp, Bool.false_eq_true] at hadmits
  subst hadmits
  have hcountable : countable settings s.event.attempts = true := hcountable
  simp only [Prog.ofExcept]
  show Always (smooth settings) Returns (if _ then _ else _) s
  split
  · exact returns_markFailed hp
  · next hlt =>
      simp only [countable, Bool.or_eq_true, decide_eq_true_eq, hlt,
        or_false] at hcountable
      obtain ⟨raw, hraw⟩ := timesPow2_ok settings.workerRetryBaseSeconds
        (n := (s.event.attempts - 1).toNat) (by omega)
      simp only [backoffDelay, not_lt.mpr hmax, if_false, hraw, bind_assoc, pure_bind]
      show Always (smooth settings) Returns (randomUniform _ >>= _) s
      rw [always_bind]
      exact ⟨hp, fun draw _ => returns_retryAt hp⟩

end Verdicts

/-- **Away from the steps that stop it an attempt returns**, whatever the
payload and the answers. -/
theorem handleEvent_returns (row : WebhookEvent) (hattempts : 0 ≤ row.attempts) :
    Always (smooth settings) Returns (handleEvent settings tiers row) (.start row) := by
  unfold handleEvent
  rw [always_bind]
  refine ⟨rfl, fun _ _ => ?_⟩
  show Always (smooth settings) Returns _ { Session.start row with event := claimed row }
  split
  · exact returns_markProcessed rfl
  · next handler hsome =>
      rw [always_bind, always_attempt]
      have hhandler : Always (smooth settings) (HandlerInv settings tiers) _ _ :=
        always_smooth (handler_always hsome)
      have hlocal := hhandler.and_local smooth_intact ⟨rfl, hattempts⟩
      refine hlocal.mono fun s n hn => ?_
      obtain ⟨hn, hp, hnonneg⟩ := hn
      match n with
      | .perform o => exact hp
      | .ret _ => exact returns_markProcessed hp
      | .raise exc =>
          have hraised : Raised s exc := hn
          have hpos : 1 ≤ s.event.attempts := by
            rw [hraised.event]
            show 1 ≤ s.loaded.attempts + 1
            omega
          cases exc with
          | permanentHandlerError msg => exact returns_markFailed hp
          | _ => exact returns_scheduleRetryOrFail hp hpos

/-! ## Runs that nothing stops -/

/-- Every attempt under way will return. -/
def Unstopped (env : Env) (w : World M) : Prop :=
  ∀ i s p, w.workers i = .running s p → Always (smooth env.settings) Returns p s

theorem proceeds_admits {w w' : World M} {i : WorkerId} {choice : Choice} {s : Session}
    {o : Op} {k : Res o → Effect Unit} {r : Res o}
    (hc : proceeds env w (.perform i choice) = true)
    (hi : w.workers i = .running s (.perform o k)) (hx : Exec env w i s o r w') :
    (smooth env.settings).admits o r s := by
  refine ⟨hx.admits, ?_⟩
  cases hx with
  | flushDead hp => exact fun hp' => by rw [hp] at hp'; cases hp'
  | flushRefused _ _ hr =>
      simp only [proceeds, hi, hr] at hc
      cases hc
  | flushStaged _ _ _ => exact fun _ => rfl
  | clock =>
      intro draw rest hj
      simp only [proceeds, hi, hj] at hc
      exact hc
  | readAttempts =>
      simp only [proceeds, hi] at hc
      exact hc
  | _ => trivial

theorem Unstopped.setPhase {w w' : World M} {i : WorkerId} {phase : Phase}
    (h : Unstopped env w) (hworkers : w'.workers = Function.update w.workers i phase)
    (hi : ∀ s p, phase = .running s p → Always (smooth env.settings) Returns p s) :
    Unstopped env w' := by
  intro j s p hj
  rw [hworkers] at hj
  by_cases hij : j = i
  · subst hij
    rw [Function.update_self] at hj
    exact hi s p hj
  · rw [Function.update_of_ne hij] at hj
    exact h j s p hj

theorem unstopped_move {w w' : World M} {label : Label M} (hok : EventsOk env.settings w)
    (h : Unstopped env w) (hc : proceeds env w label = true) (hm : Move env w label w') :
    Unstopped env w' := by
  cases hm with
  | selected _ => exact h.setPhase rfl (by simp)
  | exhausted _ => exact h.setPhase rfl (by simp)
  | passed _ _ => exact h.setPhase rfl (by simp)
  | claimed _ _ hfind _ _ =>
      refine h.setPhase rfl fun s p heq => ?_
      cases heq
      exact handleEvent_returns _ (hok.row _ _ hfind).1.attempts_nonneg
  | @performed i choice s o k r w' hi hx =>
      refine h.setPhase (by rw [← hx.workers]; rfl) fun s' p heq => ?_
      cases heq
      exact (h i _ _ hi).step (proceeds_admits hc hi hx)
  | committed _ _ _ => exact h.setPhase rfl (by simp)
  | undone _ _ _ => exact h.setPhase rfl (by simp)
  | crashed _ => exact h.setPhase rfl (by simp)
  | _ => exact h

theorem unstopped_of_path {C : World M → Label M → Prop}
    (hC : ∀ w label, C w label → proceeds env w label = true) {w₀ w : World M}
    (h : Path (step env M) C w₀ w) (h₀ : Initial w₀) : Unstopped env w := by
  have both : EventsOk env.settings w ∧ Unstopped env w := by
    refine run_invariant (P := fun w => EventsOk env.settings w ∧ Unstopped env w) h h₀
      (fun w hw => ⟨eventsOk_of_path (.refl : Path (step env M) C w w) hw, ?_⟩)
      fun w label w' hc hinv hp hm =>
        ⟨eventsOk_move hp.1 (tableMove hinv hm), unstopped_move hp.1 hp.2 (hC _ _ hc) hm⟩
    intro i s p hi
    rw [hw.workers i] at hi
    cases hi
  exact both.2

/-- The transaction of such an attempt is not undone at its end. -/
theorem Unstopped.not_undone {w : World M} {i : WorkerId} {s : Session} {p : Effect Unit}
    (h : Unstopped env w) (hinv : WorldInv env w) (hi : w.workers i = .running s p)
    (hret : ∀ a, p = .ret a → s.poisoned = true ∨
      w.db.refusal env.enforceFk (w.db.own i) s.pending ≠ none)
    (hnode : ∀ o k, p ≠ .perform o k) : False := by
  have hreturns := (h i s p hi).here
  cases p with
  | perform o k => exact hnode o k rfl
  | raise exc => exact hreturns
  | ret a =>
      rcases hret a rfl with hp | hr
      · rw [show s.poisoned = false from hreturns] at hp
        cases hp
      · rw [((hinv.running hi).committing).pending] at hr
        exact hr rfl

theorem Unstopped.committed {w w' : World M} {i : WorkerId} (hinv : WorldInv env w)
    (h : Unstopped env w) (hs : step env M w (.finish i) = some w') :
    ∃ s, w.workers i = .running s (.ret ()) ∧ Committing env w.db i s ∧
      w'.db.webhookEvents = w.db.webhookEvents.update s.event ∧
      w' = ({ w with db := w.db.commit i s.event }.setPhase i .idle).log
        (.attempted s.event (lastClock s) s.result) := by
  cases step_sound hs with
  | @committed i s a hi hp hr =>
      have hcom := (hinv.running hi).committing
      refine ⟨s, hi, hcom, ?_, by rw [hcom.stage]⟩
      rw [hcom.stage]
      exact commit_webhookEvents hcom.row hcom.same
  | @undone i s p hi hret hnode =>
      exact (h.not_undone hinv hi hret hnode).elim

/-! ## Counting the attempts -/

/-- The attempts started on `eventId` since it was last enqueued. -/
def startsSince (eventId : String) : List Entry → Int
  | [] => 0
  | .enqueued e :: history => if e = eventId then 0 else startsSince eventId history
  | .started e :: history =>
      (if e = eventId then 1 else 0) + startsSince eventId history
  | _ :: history => startsSince eventId history

/-- Every attempt that was started is committed or under way. -/
def Counted (w : World M) : Prop :=
  ∀ e, startsSince e w.history =
    attemptsSince e w.history + if w.db.locks e = none then 0 else 1

def alive : Label M → Bool
  | .crash _ => false
  | _ => true

/-- A locked event is in a transaction of the worker that holds the lock. -/
theorem locked_row {w : World M} {i : WorkerId} {e : String} (hinv : WorldInv env w)
    (h : w.db.locks e = some i) : ∃ row, w.db.webhookEvents.find? e = some row ∧
      row.status = .PENDING := by
  have hi := hinv.workers i
  cases hphase : w.workers i with
  | idle => rw [hphase] at hi; exact absurd h (hi.1 e)
  | scanning now rest => rw [hphase] at hi; exact absurd h (hi.1 e)
  | running s p =>
      have hr := hinv.running hphase
      obtain ⟨hp, rfl⟩ := (hr.locked e).mp h
      exact ⟨s.loaded, hr.row hp, hr.pending⟩

theorem Counted.enqueued {w w' : World M} {e : String} (h : Counted w)
    (hfree : w.db.locks e = none) (hlocks : w'.db.locks = w.db.locks)
    (hh : w'.history = .enqueued e :: w.history) : Counted w' := by
  intro e'
  rw [hh, hlocks]
  simp only [startsSince, attemptsSince]
  by_cases he : e = e'
  · subst he
    simp [hfree]
  · simp only [he, if_false]
    exact h e'

theorem counted_move {w w' : World M} {label : Label M} (hinv : WorldInv env w)
    (hu : Unstopped env w) (h : Counted w) (hc : proceeds env w label = true)
    (ha : alive label = true) (hm : Move env w label w') : Counted w' := by
  cases hm with
  | @received request eventId eventType payload _ hnew =>
      refine h.enqueued ?_ rfl rfl
      cases hlock : w.db.locks eventId with
      | none => rfl
      | some i =>
          obtain ⟨row, hrow, _⟩ := locked_row hinv hlock
          rw [hnew] at hrow
          cases hrow
  | @replayed eventId row hfind hstatus =>
      refine h.enqueued ?_ rfl rfl
      cases hlock : w.db.locks eventId with
      | none => rfl
      | some i =>
          obtain ⟨row', hrow, hpending⟩ := locked_row hinv hlock
          rw [hfind] at hrow
          cases hrow
          rw [hstatus] at hpending
          cases hpending
  | @claimed i now eventId rest row _ hfree _ _ _ =>
      intro e
      have he := h e
      simp only [World.log, World.setPhase, startsSince, attemptsSince, Postgres.lock]
      by_cases hkey : e = eventId
      · subst hkey
        simp only [hfree, if_true] at he
        simp only [if_true, reduceCtorEq, if_false]
        omega
      · simp only [hkey, if_false, Ne.symm hkey]
        omega
  | @performed i choice s o k r w' hi hx =>
      have hadmits := proceeds_admits hc hi hx
      intro e
      have he := h e
      cases hx with
      | flushRefused hp _ _ => cases hadmits.2 hp
      | _ => exact he
  | @committed i s a hi _ _ =>
      have hcom := (hinv.running hi).committing
      rw [hcom.stage]
      intro e
      have he := h e
      have hlock : (w.db.commit i s.event).locks e = none ↔
          w.db.locks e = none ∨ s.event.stripeEventId = e := by
        rw [locks_commit_eq_none, (hinv.running hi).locked]
        refine or_congr_right ⟨fun hlock => ?_, ?_⟩
        · rw [hlock.2, hcom.same.1]
        · rintro rfl
          exact ((hinv.running hi).locked _).mp hcom.locked
      simp only [World.log, World.setPhase, startsSince, attemptsSince, hlock]
      by_cases hkey : s.event.stripeEventId = e
      · subst hkey
        simp only [hcom.locked, reduceCtorEq, if_false] at he
        simp only [if_true, or_true]
        omega
      · simp only [hkey, if_false, or_false]
        omega
  | @undone i s p hi hret hnode =>
      exact (hu.not_undone hinv hi hret hnode).elim
  | crashed _ => cases ha
  | _ => exact h

/-- Crashes aside, an event is attempted at most as often as the settings say. -/
theorem startsSince_le {w₀ w : World M}
    (h : Path (step env M) (fun w label => proceeds env w label = true ∧
      alive label = true) w₀ w)
    (h₀ : Initial w₀) (e : String) :
    startsSince e w.history ≤ env.settings.workerMaxAttempts := by
  have hall : Unstopped env w ∧ Counted w := by
    refine ⟨unstopped_of_path (fun _ _ hc => hc.1) h h₀, ?_⟩
    have both : (EventsOk env.settings w ∧ Unstopped env w) ∧ Counted w := by
      refine run_invariant
        (P := fun w => (EventsOk env.settings w ∧ Unstopped env w) ∧ Counted w) h h₀
        (fun w hw => ⟨⟨eventsOk_of_path (C := fun _ _ => True) .refl hw, ?_⟩, ?_⟩)
        fun w label w' hc hinv hp hm =>
          ⟨⟨eventsOk_move hp.1.1 (tableMove hinv hm),
            unstopped_move hp.1.1 hp.1.2 hc.1 hm⟩,
            counted_move hinv hp.1.2 hp.2 hc.1 hc.2 hm⟩
      · intro i s p hi
        rw [hw.workers i] at hi
        cases hi
      · intro e
        rw [hw.history, hw.db]
        rfl
    exact both.2
  have hok := eventsOk_of_path h h₀
  have hinv := worldInv_of_path h h₀
  have hmax := env.settings.workerMaxAttempts_ge
  rw [hall.2 e]
  cases hfind : w.db.webhookEvents.find? e with
  | none =>
      have hfree : w.db.locks e = none := by
        cases hlock : w.db.locks e with
        | none => rfl
        | some i =>
            obtain ⟨row, hrow, _⟩ := locked_row hinv hlock
            rw [hfind] at hrow
            cases hrow
      rw [(hok.absent e hfind).1, if_pos hfree]
      omega
  | some row =>
      obtain ⟨hrow, haccounted⟩ := hok.row e row hfind
      have hattempts := haccounted.attempts
      rw [Table.find?_key hfind] at hattempts
      rw [← hattempts]
      cases hlock : w.db.locks e with
      | none =>
          have hle := hrow.attempts_le
          simp only [if_true]
          omega
      | some i =>
          obtain ⟨row', hrow', hpending⟩ := locked_row hinv hlock
          rw [hfind] at hrow'
          cases hrow'
          have hlt := (hrow.pending hpending).1
          simp only [reduceCtorEq, if_false]
          omega

/-! ## Progress -/

/-- The row that worker `i` has claimed. -/
def claimedBy (w : World M) (i : WorkerId) : Option WebhookEvent :=
  match w.workers i with
  | .running s _ => some s.loaded
  | _ => none

/-- What a committed attempt makes of its row: it is counted, and the row is
out of the queue, or back in it, below the maximum and due a second later. -/
structure Progressed (settings : Settings) (at_ : Time) (row row' : WebhookEvent) :
    Prop where
  attempts : row'.attempts = row.attempts + 1
  left : row'.status = .PROCESSED ∨ row'.status = .FAILED ∨
    row'.status = .PENDING ∧ row'.attempts < settings.workerMaxAttempts ∧
      at_ + 1 ≤ row'.nextAttemptAt
  ready : Postgres.ready at_ row' = false

/-- Every attempt that ends here commits progress on the row it has claimed. -/
def EndsInProgress (env : Env) (w : World M) : Prop :=
  ∀ i row w', claimedBy w i = some row → step env M w (.finish i) = some w' →
    ∃ row' at_, w'.db.webhookEvents.find? row.stripeEventId = some row' ∧
      lastAttempt row.stripeEventId w'.history = some at_ ∧
      Progressed env.settings at_ row row'

theorem progressed_of_verdict {s : Session} (h : Verdict settings tiers s) :
    ∃ at_, lastClock s = some at_ ∧ Progressed settings at_ s.loaded s.event := by
  cases h with
  | processed now _ hevent hclock =>
      rw [hevent]
      exact ⟨now, hclock, rfl, .inl rfl, rfl⟩
  | permanent now reason _ hevent hclock =>
      rw [hevent]
      exact ⟨now, hclock, rfl, .inr (.inl rfl), rfl⟩
  | exhausted now reason _ _ hevent hclock =>
      rw [hevent]
      exact ⟨now, hclock, rfl, .inr (.inl rfl), rfl⟩
  | retry now delay reason _ hmax hdelay hevent hclock =>
      rw [hevent]
      have hnext : now + 1 ≤ now + delay := add_le_add_right hdelay now
      refine ⟨now, hclock, rfl, .inr (.inr ⟨rfl, hmax, hnext⟩), ?_⟩
      have hlater : ¬now + delay ≤ now := by grind
      simp only [Postgres.ready, decide_true, Bool.true_and, decide_eq_false_iff_not]
      exact hlater

/-- **Every attempt commits progress**, in a run in which no flush violates a
constraint and no impossible retry time is computed: no attempt ends in an
exception, each one can end and then commits, and crashes aside an event is
attempted at most `worker_max_attempts` times per enqueue. -/
theorem attempts_progress {w₀ w : World M}
    (h : Path (step env M) (fun w label => proceeds env w label = true) w₀ w)
    (h₀ : Initial w₀) :
    EndsInProgress env w ∧
    (∀ i s p, w.workers i = .running s p → ∀ exc, p ≠ .raise exc) ∧
    (∀ i s, w.workers i = .running s (.ret ()) → (step env M w (.finish i)).isSome) ∧
    (Path (step env M) (fun w label => proceeds env w label = true ∧ alive label =
      true) w₀ w →
      ∀ e, startsSince e w.history ≤ env.settings.workerMaxAttempts) := by
  have hinv := worldInv_of_path h h₀
  have hu : Unstopped env w := unstopped_of_path (fun _ _ hc => hc) h h₀
  refine ⟨fun i row w' hrow hs => ?_, fun i s p hi exc hp => ?_, fun i s hi => ?_,
    fun h => startsSince_le h h₀⟩
  · obtain ⟨s, hi, hcom, he, hw'⟩ := hu.committed hinv hs
    simp only [claimedBy, hi, Option.some.injEq] at hrow
    subst hrow
    obtain ⟨at_, hclock, hprogressed⟩ := progressed_of_verdict hcom.verdict
    rw [← hcom.same.1]
    refine ⟨s.event, at_, he ▸ Table.find?_update_self hcom.row, ?_, hprogressed⟩
    rw [hw']
    simp only [World.log, lastAttempt, if_true]
    exact hclock
  · subst hp
    exact (hu i s _ hi).here
  · have hcom := (hinv.running hi).committing
    have hp : s.poisoned = false := (hu i s _ hi).here
    simp only [step, hi, finish, hp, hcom.pending, blocked_nil, Postgres.refusal,
      Bool.false_eq_true, if_false]
    rfl

/-! ## A repeated id -/

def policyRepeating : Policy := ⟨false, true⟩

def beaCreated : Delivery := customerDelivery "evt_2" "customer.created" 2 "cus_2" "Bea"

/-- Two customers; the create call of the second has been answered with `id`,
and the new row flushed. -/
def secondCustomer (id : String) : List (Label (metronome policyRepeating)) :=
  [.webhook adaCreated.request, .tick 1, .webhook beaCreated.request] ++
    createsCustomer 0 0 "m1" ++ claims 0 ++ performs 0 3 ++
    [.serve (.deliver 1 id), receives 0 (okWithId id)] ++ performs 0 3

/-- The second customer gets an id of its own. -/
def ownId : World (metronome policyRepeating) :=
  let env := installation [adaCreated, beaCreated]
  (runWhen (step env _) (fun w label => proceeds env w label && alive label)
    (World.fresh _)
    (secondCustomer "m2" ++ performs 0 5)).getD (World.fresh _)

theorem attempts_progress_ownId :
    startsSince "evt_2" ownId.history = 1 ∧
      EndsInProgress (installation [adaCreated, beaCreated]) ownId :=
  ⟨by decide +kernel, (attempts_progress
    (path_runWhen_getD (fun _ _ hc => (Bool.and_eq_true_iff.mp hc).1) _ _)
    (initial_fresh _)).1⟩

/-- The second customer gets the id of the first. -/
def repeatedId : World (metronome policyRepeating) :=
  runFrom (installation [adaCreated, beaCreated]) policyRepeating
    (secondCustomer "m1" ++ performs 0 1)

/-- The event of the second customer before and after the end of its attempt. -/
theorem repeatedId_ends :
    (claimedBy repeatedId 0).map (fun row => (row.stripeEventId, row.attempts)) =
        some ("evt_2", 0) ∧
      (step (installation [adaCreated, beaCreated]) _ repeatedId (.finish 0)).map
        (fun w' => (w'.db.webhookEvents.find? "evt_2").map (·.attempts)) = some (some 0) ∧
      (step (installation [adaCreated, beaCreated]) _ repeatedId (.finish 0)).map
        (fun w' =>
          (w'.db.webhookEvents.rows.map fun row => (row.stripeEventId, row.attempts),
            w'.db.candidates w'.now)) =
        some ([("evt_1", 1), ("evt_2", 0)], ["evt_2"]) := by
  decide +kernel

/-- **A repeated Metronome id stops an attempt**: the flush is refused, the
`except` clause cannot read the attempts, and the end of the transaction leaves
the event as it was claimed, ready and the oldest. -/
theorem attempts_progress_repeatedId :
    Reaches (step (installation [adaCreated, beaCreated]) (metronome policyRepeating))
      (World.fresh _) repeatedId ∧
    ¬EndsInProgress (installation [adaCreated, beaCreated]) repeatedId ∧
    (step (installation [adaCreated, beaCreated]) _ repeatedId (.finish 0)).map
      (fun w' =>
        (w'.db.webhookEvents.rows.map fun row => (row.stripeEventId, row.attempts),
          w'.db.candidates w'.now)) =
      some ([("evt_1", 1), ("evt_2", 0)], ["evt_2"]) := by
  obtain ⟨hclaimed, hend, hleft⟩ := repeatedId_ends
  refine ⟨reaches_runFrom _ _ _, fun hprogress => ?_, hleft⟩
  obtain ⟨row, hrow, hpair⟩ := Option.map_eq_some_iff.mp hclaimed
  obtain ⟨w', hs, hattempts⟩ := Option.map_eq_some_iff.mp hend
  obtain ⟨row', at_, hrow', _, hprogressed⟩ := hprogress 0 row w' hrow hs
  obtain ⟨hid, hzero⟩ := Prod.mk.inj hpair
  rw [hid] at hrow'
  rw [hrow', Option.map_some, Option.some.injEq, hprogressed.attempts, hzero] at hattempts
  cases hattempts

end Sidecar.Ports.Progress
