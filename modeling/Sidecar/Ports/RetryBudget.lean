import Sidecar.Ports.FailedAttempts
import Sidecar.Ports.Lifecycle
import Sidecar.Ports.Backoff
import Sidecar.Verified.Waits

/-!
# How long an event is retried

With full jitter a retry is anywhere between one second and the capped power
away.  The claim query waits for it, so on a clock that does not run backwards
the attempts on an event are at least the drawn delays apart; nothing keeps
these near their bounds.

## Main results

* `handleEvent_delayed` — the delay that an attempt schedules.
* `budgetsKept_of_path` — the attempts on every event keep their delays.
* `retry_budget` — how long an event is retried before it is given up.
* `retry_budget_hasty` — it may be a second for each retry.
-/

namespace Sidecar.Ports.RetryBudget

open Sidecar.Verified.Resumption
open Sidecar.Verified.KeyedTable
open Sidecar.Verified.Transition
open Sidecar.Verified.Waits
open Sidecar.Ports.Python
open Sidecar.Ports.Config
open Sidecar.Ports.Models
open Sidecar.Ports.Effects
open Sidecar.Ports.Worker
open Sidecar.Ports.Receiver
open Sidecar.Ports.System
open Sidecar.Ports.Attempt
open Sidecar.Ports.Execution
open Sidecar.Ports.Moves
open Sidecar.Ports.Transactions
open Sidecar.Ports.Invariant
open Sidecar.Ports.Calls
open Sidecar.Ports.Lifecycle
open Sidecar.Ports.Remote
open Sidecar.Ports.FailedAttempts
open Sidecar.Ports.Backoff

variable {env : Env} {M : Metronome} {settings : Settings} {tiers : TierTable}

/-! ## The delay of one attempt -/

/-- The retry is due after a delay of between one second and the capped
power. -/
def Delayed (settings : Settings) (s : Session) : Prop :=
  ∃ now delay, lastClock s = some now ∧ s.event.nextAttemptAt = now + delay ∧ 1 ≤ delay ∧
    (PyFloat.fin delay).le (cappedDelay settings s.loaded.attempts.toNat) = true

def DelayInv (settings : Settings) (s : Session) : Node Op PyExc Unit → Prop
  | .ret _ => s.event.status = .PENDING → Delayed settings s
  | _ => True

/-- Nothing is drawn from a bound that is no number. -/
theorem drawBound_ne_nan {attempts : Int} {hi : PyFloat}
    (h : drawBound settings attempts = .ok hi) : hi ≠ .nan := by
  have hbase := settings.workerRetryBaseSeconds_ge
  have hcap := ne_nan_of_le settings.workerRetryCapSeconds_ge
  unfold drawBound at h
  cases hraw : timesPow2 settings.workerRetryBaseSeconds (attempts - 1).toNat with
  | error exc => rw [hraw] at h; cases h
  | ok raw =>
      rw [hraw] at h
      cases h
      have hnumber : raw ≠ .nan := by
        rintro rfl
        unfold timesPow2 at hraw
        split at hraw
        · cases hraw
        · split at hraw
          · next => split at hraw <;> cases hraw
          · cases hraw
          · next hnan => rw [hnan] at hbase; cases hbase
      show raw.min settings.workerRetryCapSeconds ≠ .nan
      unfold PyFloat.min
      split
      · exact hcap
      · exact hnumber

section Verdicts

variable {s : Session}

/-- A draw is one that its bound allows. -/
theorem always_allowedDraw {J : Session → Node Op PyExc PyFloat → Prop} {hi : PyFloat}
    (hask : J s (.perform (.uniform hi)))
    (hret : ∀ u, drawAllowed hi u = true → J (s.learn (.drew u)) (.ret u)) :
    Always semantics J (randomUniform hi) s := ⟨hask, hret⟩

theorem delayed_markProcessed : Always semantics (DelayInv settings) markProcessed s := by
  unfold markProcessed
  simp only [always_bind]
  refine always_assign trivial (always_datetimeNow trivial fun now => ?_)
  refine always_assign trivial (always_assign trivial fun h => ?_)
  cases h

theorem delayed_markFailed {reason : String} {isPermanent : Bool} :
    Always semantics (DelayInv settings) (markFailed reason isPermanent) s := by
  unfold markFailed
  simp only [always_bind]
  refine always_assign trivial
    (always_assign trivial (always_datetimeNow trivial fun now => ?_))
  refine always_assign trivial fun h => ?_
  cases h

theorem delayed_scheduleRetryOrFail {reason : String}
    (hevent : s.event = claimed s.loaded) (hattempts : 0 ≤ s.loaded.attempts) :
    Always semantics (DelayInv settings) (scheduleRetryOrFail settings reason) s := by
  unfold scheduleRetryOrFail
  rw [always_bind]
  refine always_eventAttempts trivial (fun _ => ?_) fun _ => trivial
  have hclaimed : s.event.attempts = s.loaded.attempts + 1 := by rw [hevent]; rfl
  have hfloor : ¬s.event.attempts < 1 := by omega
  have hcount : (s.event.attempts - 1).toNat = s.loaded.attempts.toNat := by omega
  dsimp only
  split
  · exact delayed_markFailed
  · simp only [backoffDelay, hfloor, if_false, bind_assoc, pure_bind]
    simp only [always_bind, always_ofExcept]
    refine ⟨fun raw hraw => always_allowedDraw trivial fun u hu => ?_, fun _ _ => trivial⟩
    have hbound : drawBound settings s.event.attempts =
        .ok (raw.min settings.workerRetryCapSeconds) := by
      rw [drawBound, hraw]
      rfl
    have hrange := inRange_of_drawAllowed (drawBound_ne_nan hbound) hu
    refine always_assign trivial (always_datetimeNow trivial fun now => ?_)
    refine ⟨fun next hnext => ?_, fun _ _ => trivial⟩
    refine always_assign trivial (always_assign trivial fun _ => ?_)
    rcases maxOne_cases u with hmax | ⟨delay, _, hmax⟩
    · rw [hmax] at hnext
      cases hnext
    · rw [hmax] at hnext
      obtain ⟨hone, hcapped⟩ := delay_le_cappedDelay hbound hrange hmax
        (lt_of_addSeconds_fin hnext).1
      refine ⟨now, delay, rfl, addSeconds_fin hnext, hone, ?_⟩
      rw [hcount] at hcapped
      exact hcapped

end Verdicts

theorem handleEvent_delayed (row : WebhookEvent) (h : 0 ≤ row.attempts) :
    Always semantics (DelayInv settings) (handleEvent settings tiers row)
      (.start row) := by
  unfold handleEvent
  rw [always_bind]
  refine always_incrementAttempts trivial ?_
  dsimp only
  split
  · exact delayed_markProcessed
  · next handler hsome =>
      rw [always_bind, always_attempt]
      have hhandler := (@handler_always settings tiers handler row hsome).and_local
        (I := fun s => s.loaded = row)
        (fun _ _ _ _ hloaded => after_loaded.trans hloaded) rfl
      refine hhandler.mono fun s n hn => ?_
      obtain ⟨hn, hloaded⟩ := hn
      match n with
      | .perform o => trivial
      | .ret _ => exact delayed_markProcessed
      | .raise exc =>
          have hevent := Raised.event hn
          have hattempts : 0 ≤ s.loaded.attempts := by rw [hloaded]; exact h
          cases exc with
          | permanentHandlerError msg => exact delayed_markFailed
          | _ => exact delayed_scheduleRetryOrFail hevent hattempts

/-- **A retry that is about to be committed has its delay.** -/
theorem delayed_of_path {w₀ w : World M} (h : Reaches (step env M) w₀ w) (h₀ : Initial w₀)
    {i : WorkerId} {s : Session} {a : Unit} (hi : w.workers i = .running s (.ret a))
    (hstatus : s.event.status = .PENDING) : Delayed env.settings s := by
  have hcom := ((worldInv_of_path h h₀).running hi).committing
  have hattempts := ((eventsOk_of_path h h₀).row _ _ hcom.row).1.attempts_nonneg
  exact ((runs_of_path h h₀ hi).always (handleEvent_delayed s.loaded hattempts)).here
    hstatus

/-! ## Attempts on time -/

/-- The clock does not run backwards. -/
def keepsTime (w : World M) : Label M → Bool
  | .tick now => w.now ≤ now
  | _ => true

/-- A worker reads the clock only once the event that it has claimed is due. -/
def InTime (now : Time) : Phase → Prop
  | .idle => True
  | .scanning selected _ => selected ≤ now
  | .running s _ =>
      s.loaded.nextAttemptAt ≤ now ∧
        ∀ at_, Fact.clock at_ ∈ s.journal → s.loaded.nextAttemptAt ≤ at_

def Punctual (w : World M) : Prop := ∀ i, InTime w.now (w.workers i)

theorem InTime.mono {now now' : Time} {phase : Phase} (h : InTime now phase)
    (hle : now ≤ now') :
    InTime now' phase := by
  cases phase with
  | idle => trivial
  | scanning selected rest => exact le_trans (show selected ≤ now from h) hle
  | running s p => exact ⟨le_trans h.1 hle, h.2⟩

theorem Punctual.setPhase {w w' : World M} {i : WorkerId} {phase : Phase} (h : Punctual w)
    (hworkers : w'.workers = Function.update w.workers i phase) (hnow : w'.now = w.now)
    (hi : InTime w.now phase) : Punctual w' := by
  intro j
  rw [hworkers, hnow]
  by_cases hji : j = i
  · subst hji
    rw [Function.update_self]
    exact hi
  · rw [Function.update_of_ne hji]
    exact h j

theorem inTime_exec {w w' : World M} {i : WorkerId} {s : Session} {o : Op}
    {k : Res o → Effect Unit} {r : Res o} (h : InTime w.now (.running s (.perform o k)))
    (hx : Exec env w i s o r w') :
    InTime w.now (.running (s.after o r) (k r)) ∧ w'.now = w.now := by
  have hrest : ∀ (s' : Session) p, s'.loaded = s.loaded →
      (∀ at_, Fact.clock at_ ∈ s'.journal → Fact.clock at_ ∈ s.journal ∨ at_ = w.now) →
      InTime w.now (.running s' p) := by
    intro s' p hloaded hread
    refine ⟨hloaded ▸ h.1, fun at_ hmem => ?_⟩
    rw [hloaded]
    rcases hread at_ hmem with hold | rfl
    · exact h.2 at_ hold
    · exact h.1
  cases hx with
  | clock =>
      exact ⟨hrest _ _ rfl
        fun at_ hmem => by simpa [Session.after, or_comm] using hmem, rfl⟩
  | _ =>
      exact ⟨hrest _ _ rfl fun at_ hmem => .inl (by simpa [Session.after] using hmem),
        rfl⟩

theorem punctual_of_path {w₀ w : World M}
    (h : Path (step env M) (fun w label => keepsTime w label = true) w₀ w)
    (h₀ : Initial w₀) :
    Punctual w := by
  refine run_invariant h h₀ (fun w hw i => ?_) fun w label w' hc _ hp hm => ?_
  · rw [hw.workers i]
    trivial
  · cases hm with
    | tick now => exact fun i => (hp i).mono (of_decide_eq_true hc)
    | ignored _ | received _ _ | replayed _ _ | served _ => exact hp
    | selected _ => exact hp.setPhase rfl rfl (le_refl w.now)
    | exhausted _ => exact hp.setPhase rfl rfl trivial
    | @passed i now eventId rest hi _ =>
        have hscan := hp i
        rw [hi] at hscan
        exact hp.setPhase rfl rfl hscan
    | @claimed i now eventId rest row hi _ _ _ hdue =>
        have hscan : InTime w.now (.scanning now (eventId :: rest)) := hi ▸ hp i
        exact hp.setPhase rfl rfl ⟨le_trans hdue hscan, fun _ hmem => by cases hmem⟩
    | @performed i _ s o k r w₁ hi hx =>
        have hrunning : InTime w.now (.running s (.perform o k)) := hi ▸ hp i
        obtain ⟨hphase, hnow⟩ := inTime_exec hrunning hx
        refine hp.setPhase (i := i) ?_ hnow hphase
        rw [← hx.workers]
        rfl
    | committed _ _ _ | undone _ _ _ | crashed _ => exact hp.setPhase rfl rfl trivial

/-! ## The trials of an event -/

/-- The committed attempts on `eventId` since it was last enqueued, the last one
first, each with the time that is left until `next_attempt_at`. -/
def trials (eventId : String) : List Entry → List (Trial Time)
  | [] => []
  | .enqueued e :: history => if e = eventId then [] else trials eventId history
  | .attempted event (some at_) _ :: history =>
      if event.stripeEventId = eventId then
        ⟨at_, event.nextAttemptAt - at_⟩ :: trials eventId history
      else trials eventId history
  | _ :: history => trials eventId history

/-- Retry `n + 1` is due after between one second and
`min(base * 2 ** n, cap)` seconds. -/
structure Retry (settings : Settings) (n : Nat) (t : Trial Time) : Prop where
  floor : 1 ≤ t.wait
  capped : (PyFloat.fin t.wait).le (cappedDelay settings n) = true

/-- What the trials say about a row. -/
structure Kept (settings : Settings) (row : WebhookEvent) (tries : List (Trial Time)) :
    Prop where
  count : row.attempts = tries.length
  spaced : Spaced tries
  retries : ∀ t before, t :: before <:+ tries.tail → Retry settings before.length t
  due : row.status = .PENDING → ∀ t before, tries = t :: before →
    Retry settings before.length t ∧ t.time + t.wait = row.nextAttemptAt

theorem trials_quiet {added history : List Entry} (h : ∀ entry ∈ added, quiet entry)
    (eventId : String) : trials eventId (added ++ history) = trials eventId history := by
  induction added with
  | nil => rfl
  | cons entry added ih =>
      have hadded := ih fun e he => h e (List.mem_cons_of_mem _ he)
      have hentry := h entry List.mem_cons_self
      cases entry with
      | started e => exact hadded
      | called e ticket request => exact hadded
      | enqueued e => exact hentry.elim
      | attempted event at_ result => exact hentry.elim

theorem trials_enqueued_ne {e eventId : String} {history : List Entry} (h : e ≠ eventId) :
    trials eventId (.enqueued e :: history) = trials eventId history := if_neg h

theorem trials_attempted_ne {event : WebhookEvent} {at_ : Option Time}
    {result : Option Completed} {history : List Entry} {eventId : String}
    (h : event.stripeEventId ≠ eventId) :
    trials eventId (.attempted event at_ result :: history) = trials eventId history := by
  cases at_ with
  | none => rfl
  | some at_ => rw [trials, if_neg h]

/-- A row that has just been put in the queue. -/
theorem kept_enqueued {row : WebhookEvent} {e : String} {history : List Entry}
    (hid : row.stripeEventId = e) (hattempts : row.attempts = 0) :
    Kept settings row (trials row.stripeEventId (.enqueued e :: history)) := by
  rw [trials, if_pos hid.symm]
  exact {
    count := hattempts
    spaced := .nil
    retries := fun _ _ hsuffix => by simp at hsuffix
    due := fun _ _ _ h => by cases h }

theorem verdict_clock {s : Session} (h : Verdict settings tiers s) :
    ∃ now, lastClock s = some now := by
  cases h with
  | processed now _ _ hclock => exact ⟨now, hclock⟩
  | permanent now _ _ _ hclock => exact ⟨now, hclock⟩
  | exhausted now _ _ _ _ hclock => exact ⟨now, hclock⟩
  | retry now _ _ _ _ _ _ hclock => exact ⟨now, hclock⟩

/-- **One more trial.** -/
theorem Kept.attempted {s : Session} {now : Time} {tries : List (Trial Time)}
    (h : Kept settings s.loaded tries) (ht : Transition s.loaded s.event)
    (hclock : lastClock s = some now) (htime : s.loaded.nextAttemptAt ≤ now)
    (hdelayed : s.event.status = .PENDING → Delayed settings s) :
    Kept settings s.event (⟨now, s.event.nextAttemptAt - now⟩ :: tries) where
  count := by
    rw [ht.attempts, h.count, List.length_cons]
    rfl
  spaced := by
    cases tries with
    | nil => exact .singleton _
    | cons t before =>
        refine .cons_cons ?_ h.spaced
        rw [(h.due ht.pending t before rfl).2]
        exact htime
  retries t before hsuffix := by
    cases tries with
    | nil => simp at hsuffix
    | cons t' before' =>
        rcases List.suffix_cons_iff.mp hsuffix with heq | hsuffix
        · obtain ⟨rfl, rfl⟩ := List.cons.inj heq
          exact (h.due ht.pending t before rfl).1
        · exact h.retries t before hsuffix
  due hstatus t before heq := by
    obtain ⟨rfl, rfl⟩ := List.cons.inj heq
    obtain ⟨now', delay, hclock', hnext, hone, hcapped⟩ := hdelayed hstatus
    rw [hclock] at hclock'
    cases hclock'
    have hcount : s.loaded.attempts.toNat = tries.length := by rw [h.count]; rfl
    rw [hcount] at hcapped
    rw [hnext, add_sub_cancel_left]
    exact ⟨⟨hone, hcapped⟩, rfl⟩

/-- Every row keeps its delays. -/
def BudgetsKept (env : Env) (w : World M) : Prop :=
  ∀ e row, w.db.webhookEvents.find? e = some row →
    Kept env.settings row (trials row.stripeEventId w.history)

theorem budgetsKept_move {w w' : World M} {label : Label M} (h : BudgetsKept env w)
    (hpunctual : Punctual w) (hdelayed : ∀ i s a, w.workers i = .running s (.ret a) →
      s.event.status = .PENDING → Delayed env.settings s)
    (hm : TableMove env w label w') : BudgetsKept env w' := by
  intro e row hrow
  cases hm with
  | untouched added he _ hh hquiet =>
      rw [hh, trials_quiet hquiet]
      exact h e row (he ▸ hrow)
  | @insert request w' eventId eventType payload hnew he _ hh =>
      rw [he, Table.find?_insertNew] at hrow
      rw [hh]
      split at hrow
      · cases hrow
        exact kept_enqueued rfl rfl
      · have hne : eventId ≠ row.stripeEventId := by
          rintro rfl
          rw [Table.find?_key hrow, hrow] at hnew
          cases hnew
        rw [trials_enqueued_ne hne]
        exact h e row hrow
  | @replay w' old hfind _ he _ hh =>
      rw [hh]
      rcases Table.find?_update_eq_some (he ▸ hrow) with ⟨_, rfl⟩ | ⟨hne, hrow⟩
      · exact kept_enqueued rfl rfl
      · have hne : old.stripeEventId ≠ row.stripeEventId :=
          fun heq => hne (heq.trans (Table.find?_key hrow))
        rw [trials_enqueued_ne hne]
        exact h e row hrow
  | @commit i w' s hi hcom _ he _ _ hh =>
      rw [hh]
      rcases Table.find?_update_eq_some (he ▸ hrow) with ⟨_, rfl⟩ | ⟨hne, hrow⟩
      · obtain ⟨now, hclock⟩ := verdict_clock hcom.verdict
        obtain ⟨fact, hmem, hfact⟩ := List.exists_of_findSome?_eq_some hclock
        have hread : Fact.clock now ∈ s.journal := by
          cases fact with
          | clock at_ => cases hfact; exact hmem
          | _ => cases hfact
        have hrunning : InTime w.now (.running s (.ret ())) := hi ▸ hpunctual i
        have hkept := h _ _ hcom.row
        rw [← hcom.same.1] at hkept
        rw [hclock, trials, if_pos rfl]
        exact hkept.attempted (transition_of_committing hcom) hclock
          (hrunning.2 now hread)
          (hdelayed i s () hi)
      · have hne : s.event.stripeEventId ≠ row.stripeEventId :=
          fun heq => hne (heq.trans (Table.find?_key hrow))
        rw [trials_attempted_ne hne]
        exact h e row hrow

/-- **On a clock that keeps time every event keeps its delays.** -/
theorem budgetsKept_of_path {w₀ w : World M}
    (h : Path (step env M) (fun w label => keepsTime w label = true) w₀ w)
    (h₀ : Initial w₀) :
    BudgetsKept env w := by
  induction h with
  | refl =>
      intro e row hrow
      rw [h₀.db] at hrow
      cases hrow
  | snoc h _ hs ih =>
      have hinv := worldInv_of_path h h₀
      refine budgetsKept_move ih (punctual_of_path h h₀) (fun i s a hi hstatus => ?_)
        (tableMove hinv (step_sound hs))
      exact delayed_of_path h.reaches h₀ hi hstatus

/-! ## The budget -/

/-- The event has failed until its attempts were exhausted. -/
def GivenUp (row : WebhookEvent) : Prop :=
  row.status = .FAILED ∧ ∃ reason : String, row.lastError =
    some s!"EXHAUSTED RETRIES: {reason}"

/-- The budget as documented: the waits between the attempts are at least the
capped powers, whatever these add up to. -/
structure AsDocumented (settings : Settings) (tries : List (Trial Time)) : Prop where
  attempts : (tries.length : Int) = settings.workerMaxAttempts
  long : ∀ bound : Nat → Rat,
    (∀ n < tries.length - 1, (PyFloat.fin (bound n)).le (cappedDelay settings n) = true) →
    ((List.range (tries.length - 1)).map bound).sum ≤ elapsed tries

/-- The budget as it is: the waits are the drawn ones. -/
structure AsDrawn (settings : Settings) (tries : List (Trial Time)) : Prop where
  attempts : (tries.length : Int) = settings.workerMaxAttempts
  retries : ∀ t before, t :: before <:+ tries.tail → Retry settings before.length t
  long : waited tries ≤ elapsed tries
  floor : (settings.workerMaxAttempts - 1 : Rat) ≤ elapsed tries

theorem sum_map_one (n : Nat) : ((List.range n).map fun _ => (1 : Rat)).sum = n := by
  rw [List.map_const', List.length_range, List.sum_replicate, nsmul_one]

/-- **How long an event is retried before it is given up.** -/
theorem retry_budget {w₀ w : World M}
    (h : Path (step env M) (fun w label => keepsTime w label = true) w₀ w)
    (h₀ : Initial w₀)
    {e : String} {row : WebhookEvent} (hrow : w.db.webhookEvents.find? e = some row)
    (hgivenUp : GivenUp row) : AsDrawn env.settings (trials e w.history) := by
  obtain ⟨hfailed, reason, hreason⟩ := hgivenUp
  have hkept := budgetsKept_of_path h h₀ e row hrow
  rw [Table.find?_key hrow] at hkept
  have hattempts := ((eventsOk_of_path h h₀).row e row hrow).1.exhausted reason
    hfailed hreason
  rw [hkept.count] at hattempts
  have hlong := waited_le_elapsed hkept.spaced
  refine ⟨hattempts, hkept.retries, hlong, le_trans ?_ hlong⟩
  have hmax := env.settings.workerMaxAttempts_ge
  have hsum := @sum_le_waited Rat _ _ _ (trials e w.history) (fun _ => 1)
    fun t before hsuffix => (hkept.retries t before hsuffix).floor
  rw [sum_map_one, Nat.cast_sub (by omega), Nat.cast_one] at hsum
  rw [← hattempts]
  exact hsum

/-- An installation that allows two attempts, with a base of five seconds. -/
def hasty : Env :=
  { installation [adaSubscribed] with
    settings := { defaultSettings with
      workerMaxAttempts := 2, workerMaxAttempts_ge := by decide } }

/-- A subscription whose customer does not come: the draw for its retry is 0. -/
def hastyAda : World (metronome policyRejecting) :=
  (runWhen (step hasty _) keepsTime (World.fresh policyRejecting)
    (.webhook adaSubscribed.request :: claims 0 ++ performs 0 3 ++ schedulesRetry 0 0 ++
      [.tick 1] ++ claims 0 ++ performs 0 8 ++ [.finish 0])).getD
        (World.fresh policyRejecting)

theorem path_hastyAda : Path (step hasty _) (fun w label => keepsTime w label = true)
    (World.fresh policyRejecting) hastyAda := path_runWhen_getD (fun _ _ h => h) _ _

/-- What an attempt on this subscription fails with. -/
def unmappedAda : String :=
  "No customer_mappings row for Stripe customer 'cus_1'. Likely an out-of-order webhook — " ++
    "customer.created has not been processed yet."

theorem hastyAda_ends :
    (hastyAda.db.webhookEvents.find? "evt_2").map
      (fun row => (row.status, row.lastError)) =
      some (.FAILED, some s!"EXHAUSTED RETRIES: {unmappedAda}") ∧
    trials "evt_2" hastyAda.history = [⟨1, 0⟩, ⟨0, 1⟩] := by
  decide +kernel

theorem givenUp_hastyAda :
    ∃ row, hastyAda.db.webhookEvents.find? "evt_2" = some row ∧ GivenUp row := by
  obtain ⟨row, hrow, hends⟩ := Option.map_eq_some_iff.mp hastyAda_ends.1
  obtain ⟨hstatus, herror⟩ := Prod.mk.inj hends
  exact ⟨row, hrow, hstatus, _, herror⟩

theorem retry_budget_hastyAda :
    AsDrawn hasty.settings (trials "evt_2" hastyAda.history) := by
  obtain ⟨row, hrow, hgivenUp⟩ := givenUp_hastyAda
  exact retry_budget path_hastyAda (initial_fresh _) hrow hgivenUp

/-- It may be a second for each retry, where the documented budget is five. -/
theorem retry_budget_hasty : ∃ w : World (metronome policyRejecting),
    Path (step hasty _) (fun w label => keepsTime w label = true) (World.fresh _) w ∧
    (∃ row, w.db.webhookEvents.find? "evt_2" = some row ∧ GivenUp row) ∧
    ¬AsDocumented hasty.settings (trials "evt_2" w.history) := by
  refine ⟨hastyAda, path_hastyAda, givenUp_hastyAda, fun h => ?_⟩
  have hlong := h.long (fun _ => 5) fun n hn => by
    rw [hastyAda_ends.2] at hn
    obtain rfl : n = 0 := Nat.lt_one_iff.mp hn
    decide +kernel
  rw [hastyAda_ends.2] at hlong
  exact absurd hlong (by decide +kernel)

end Sidecar.Ports.RetryBudget
