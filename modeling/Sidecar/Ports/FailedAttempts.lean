import Sidecar.Verified.Stages
import Sidecar.Ports.Outcomes
import Sidecar.Ports.Calls
import Sidecar.Ports.Remote

/-!
# Failed attempts

An attempt whose handler raised has nothing pending and nothing flushed, and
the verdict on it writes no mapping: whether its transaction is committed or
rolled back, the mapping tables stay as they are, and of the events only the
claimed one is touched.

## Main results

* `stages` — a running attempt is in its handler, or the handler returned, or
  it raised.
* `failed_attempt_leaves_mappings` — what a failed attempt leaves behind.
-/

namespace Sidecar.Ports.FailedAttempts

open Sidecar.Verified.Resumption
open Sidecar.Verified.KeyedTable
open Sidecar.Verified.Transition
open Sidecar.Ports.Python
open Sidecar.Ports.Config
open Sidecar.Ports.Models
open Sidecar.Ports.Effects
open Sidecar.Ports.Handlers
open Sidecar.Ports.Worker
open Sidecar.Ports.Receiver
open Sidecar.Ports.System
open Sidecar.Ports.Attempt
open Sidecar.Ports.Execution
open Sidecar.Ports.Moves
open Sidecar.Ports.Transactions
open Sidecar.Ports.Invariant
open Sidecar.Ports.Calls
open Sidecar.Ports.Remote
open Sidecar.Ports.Plans
open Sidecar.Ports.Outcomes

/-! ## Stages of an attempt -/

section Stages

variable {settings : Settings} {tiers : TierTable} {s s₁ : Session} {p : Effect Unit}

/-- The handler of the attempt has raised `exc`, leaving the session `s₁`. -/
structure RaisedBy (settings : Settings) (tiers : TierTable) (row : WebhookEvent)
    (handler : Handler) (exc : PyExc) (s₁ : Session) : Prop where
  registered : handlerOf row = some handler
  raised : Runs semantics (handler.run settings tiers row.payload) (begun row)
    (.raise exc) s₁

/-- An attempt on `row` whose handler has raised. -/
def HandlerRaised (settings : Settings) (tiers : TierTable) (row : WebhookEvent)
    (p : Effect Unit) (s : Session) : Prop :=
  ∃ handler exc s₁, RaisedBy settings tiers row handler exc s₁ ∧
    Runs semantics (verdict settings (.error exc)) s₁ p s

/-- An attempt whose handler has returned, or whose event has none. -/
def HandlerReturned (settings : Settings) (tiers : TierTable) (row : WebhookEvent)
    (p : Effect Unit) (s : Session) : Prop :=
  ∃ s₁, (handlerOf row = none ∧ s₁ = begun row ∨ ∃ handler, handlerOf row = some handler ∧
      Runs semantics (handler.run settings tiers row.payload) (begun row) (.ret ()) s₁) ∧
    Runs semantics markProcessed s₁ p s

/-- An attempt whose handler is still running, or about to. -/
def HandlerUnderWay (settings : Settings) (tiers : TierTable) (row : WebhookEvent)
    (p : Effect Unit) (s : Session) : Prop :=
  (s = .start row ∧ p = handleEvent settings tiers row) ∨
    ∃ handler o, ∃ k : Res o → Effect Unit, handlerOf row = some handler ∧
      Runs semantics (handler.run settings tiers row.payload) (begun row)
        (.perform o k) s ∧
      p = (Prog.perform o k).attempt >>= verdict settings

/-- **The stages of an attempt.** -/
theorem stages {row : WebhookEvent}
    (h : Runs semantics (handleEvent settings tiers row) (.start row) p s) :
    HandlerUnderWay settings tiers row p s ∨ HandlerReturned settings tiers row p s ∨
      HandlerRaised settings tiers row p s := by
  cases hh : handlerOf row with
  | none =>
      rw [handleEvent_unhandled hh] at h
      rcases runs_perform h with ⟨rfl, rfl⟩ | ⟨_, _, h⟩
      · exact .inl (.inl ⟨rfl, (handleEvent_unhandled hh).symm⟩)
      · exact .inr (.inl ⟨_, .inl ⟨hh, rfl⟩, h⟩)
  | some handler =>
      rw [handleEvent_handled hh] at h
      rcases runs_perform h with ⟨rfl, rfl⟩ | ⟨_, _, h⟩
      · exact .inl (.inl ⟨rfl, (handleEvent_handled hh).symm⟩)
      replace h : Runs semantics
        ((handler.run settings tiers row.payload).attempt >>= verdict settings)
        (begun row) p s := h
      rcases runs_bind h with ⟨q, hq, rfl⟩ | ⟨x, s₁, hx, h⟩
      · obtain ⟨p', hp', rfl⟩ := runs_attempt hq
        cases p' with
        | ret _ => exact .inr (.inl ⟨s, .inr ⟨handler, hh, hp'⟩, .refl⟩)
        | raise exc => exact .inr (.inr ⟨handler, exc, s, ⟨hh, hp'⟩, .refl⟩)
        | perform o k => exact .inl (.inr ⟨handler, o, k, hh, hp', rfl⟩)
      · obtain ⟨p', hp', heq⟩ := runs_attempt hx
        cases p' with
        | ret _ =>
            cases heq
            exact .inr (.inl ⟨s₁, .inr ⟨handler, hh, hp'⟩, h⟩)
        | raise exc =>
            cases heq
            exact .inr (.inr ⟨handler, exc, s₁, ⟨hh, hp'⟩, h⟩)
        | perform o k => cases heq

/-! ## The verdict writes no mapping -/

/-- Nothing has been written. -/
def Unwritten (s : Session) : Prop := s.flushed = [] ∧ s.pending = []

theorem unwritten_markFailed {reason : String} {isPermanent : Bool} (h : Unwritten s) :
    Always semantics (fun s _ => Unwritten s) (markFailed reason isPermanent) s := by
  unfold markFailed
  simp only [always_bind]
  refine always_assign h (always_assign h (always_datetimeNow h fun now => ?_))
  exact always_assign h h

theorem unwritten_scheduleRetryOrFail {reason : String} (h : Unwritten s) :
    Always semantics (fun s _ => Unwritten s)
      (scheduleRetryOrFail settings reason) s := by
  unfold scheduleRetryOrFail
  rw [always_bind]
  refine always_eventAttempts h (fun _ => ?_) fun _ => h
  dsimp only
  split
  · exact unwritten_markFailed h
  · simp only [backoffDelay, bind_assoc, pure_bind]
    simp only [always_bind, always_ofExcept]
    refine ⟨fun raw _ => ?_, fun _ _ => h⟩
    refine always_randomUniform h fun u =>
      always_assign h (always_datetimeNow h fun now => ?_)
    exact ⟨fun next _ => always_assign h (always_assign h h), fun _ _ => h⟩

theorem unwritten_verdict {exc : PyExc} (h : Unwritten s) :
    Always semantics (fun s _ => Unwritten s) (verdict settings (.error exc)) s := by
  cases exc with
  | permanentHandlerError msg => exact unwritten_markFailed h
  | _ => exact unwritten_scheduleRetryOrFail h

/-- An attempt whose handler has raised never writes a mapping. -/
theorem HandlerRaised.unwritten {row : WebhookEvent}
    (h : HandlerRaised settings tiers row p s) :
    Unwritten s := by
  obtain ⟨handler, exc, s₁, ⟨hh, hraised⟩, hverdict⟩ := h
  have hraised' : Raised s₁ exc :=
    hraised.always (@handler_always settings tiers handler row hh)
  exact (hverdict.always (unwritten_verdict ⟨hraised'.flushed, hraised'.pending⟩)).here

/-- An attempt that is about to commit another status than `PROCESSED` is one
whose handler has raised. -/
theorem handlerRaised_of_status {row : WebhookEvent} {a : Unit}
    (h : Runs semantics (handleEvent settings tiers row) (.start row) (.ret a) s)
    (hstatus : s.event.status ≠ .PROCESSED) :
    HandlerRaised settings tiers row (.ret a) s := by
  rcases stages h with (⟨_, h⟩ | ⟨_, _, _, _, _, h⟩) | ⟨s₁, _, hreturned⟩ | hraised
  · cases h
  · cases h
  · have hprocessed : Always semantics (fun s (n : Node Op PyExc Unit) =>
        n = .ret a → s.event.status = .PROCESSED) markProcessed s₁ := by
      unfold markProcessed
      simp only [always_bind]
      refine always_assign (fun h => by cases h)
        (always_datetimeNow (fun h => by cases h) ?_)
      exact fun now => always_assign (fun h => by cases h)
        (always_assign (fun h => by cases h) fun _ => rfl)
    exact absurd ((hreturned.always hprocessed).here rfl) hstatus
  · exact hraised

end Stages

/-! ## In the system -/

section System

variable {env : Env} {M : Metronome} {w₀ w w' : World M}

/-- **A running attempt has got where its program can get.** -/
theorem runs_of_path (h : Reaches (step env M) w₀ w) (h₀ : Initial w₀) {i : WorkerId}
    {s : Session} {p : Effect Unit} (hi : w.workers i = .running s p) :
    Runs semantics (handleEvent env.settings env.tiers s.loaded)
      (.start s.loaded) p s := by
  refine run_invariant (P := fun w : World M => ∀ i s p, w.workers i = .running s p →
    Runs semantics (handleEvent env.settings env.tiers s.loaded) (.start s.loaded) p s)
    h h₀ (fun w hw i s p hi => ?_) (fun w label w' _ _ hP hm i s p hi => ?_) i s p hi
  · rw [hw.workers i] at hi
    cases hi
  · rcases running_source hm hi with ⟨row, rfl, rfl, _⟩ | hsame |
      ⟨s, o, r, _, k, hat, hx, rfl, hw, _⟩
    · exact .refl
    · exact hP i s p hsame
    · have hphase : w'.workers i = .running (s.after o r) (k r) := by
        rw [hw]
        exact Function.update_self ..
      cases hi.symm.trans hphase
      rw [after_loaded]
      exact (hP i s _ hat).snoc hx.admits

/-- What the end of a failed attempt leaves as it was. -/
structure Unharmed (eventId : String) (w w' : World M) : Prop where
  customers : w'.db.customerMappings = w.db.customerMappings
  subscriptions : w'.db.subscriptionMappings = w.db.subscriptionMappings
  others : ∀ e, e ≠ eventId → w'.db.webhookEvents.find? e = w.db.webhookEvents.find? e
  claimed : ∀ row, w.db.webhookEvents.find? eventId = some row →
    ∃ row', w'.db.webhookEvents.find? eventId = some row' ∧ SameEvent row row'

theorem Unharmed.of_tables {eventId : String}
    (hc : w'.db.customerMappings = w.db.customerMappings)
    (hs : w'.db.subscriptionMappings = w.db.subscriptionMappings)
    (he : w'.db.webhookEvents = w.db.webhookEvents) : Unharmed eventId w w' :=
  ⟨hc, hs, fun e _ => by rw [he], fun row hrow => ⟨row, he ▸ hrow, rfl, rfl, rfl, rfl⟩⟩

theorem Unharmed.trans {w'' : World M} {eventId : String} (h : Unharmed eventId w w')
    (h' : Unharmed eventId w' w'') : Unharmed eventId w w'' where
  customers := h'.customers.trans h.customers
  subscriptions := h'.subscriptions.trans h.subscriptions
  others e he := (h'.others e he).trans (h.others e he)
  claimed row hrow := by
    obtain ⟨row', hrow', hid, htype, hpayload, hreceived⟩ := h.claimed row hrow
    obtain ⟨row'', hrow'', hid', htype', hpayload', hreceived'⟩ := h'.claimed row' hrow'
    exact ⟨row'', hrow'', hid'.trans hid, htype'.trans htype, hpayload'.trans hpayload,
      hreceived'.trans hreceived⟩

/-- The requests of an attempt change no committed row. -/
theorem unharmed_perform {i : WorkerId} {choice : Choice} {eventId : String}
    (hs : step env M w (.perform i choice) = some w') : Unharmed eventId w w' := by
  cases step_sound hs with
  | performed _ hx =>
      obtain ⟨hevents, hcustomers, hsubscriptions⟩ := hx.committed
      exact .of_tables hcustomers hsubscriptions hevents

/-- The transaction of an attempt whose handler has raised ends. -/
theorem unharmed_end {i : WorkerId} {s : Session} {p : Effect Unit} {label : Label M}
    (hinv : WorldInv env w) (hi : w.workers i = .running s p)
    (hraised : HandlerRaised env.settings env.tiers s.loaded p s)
    (hlabel : label = .finish i ∨ label = .crash i) (hs : step env M w label = some w') :
    Unharmed s.loaded.stripeEventId w w' := by
  have hm := step_sound hs
  rcases hlabel with rfl | rfl
  · cases tableMove hinv hm with
    | untouched _ he hsame _ _ => exact .of_tables hsame.customer hsame.subscription he
    | commit hi' hcom _ he hc hs =>
        cases hi.symm.trans hi'
        rw [hraised.unwritten.1] at hc hs
        have hid := hcom.same.1
        refine ⟨hc, hs, fun e hne => ?_, fun row hrow => ⟨s.event, ?_, ?_⟩⟩
        · rw [he, Table.find?_update_ne]
          exact fun h => hne (h.symm.trans hid)
        · rw [he, ← hid]
          exact Table.find?_update_self hcom.row
        · rw [← hid, hcom.row] at hrow
          cases hrow
          exact hcom.same
  · cases hm with
    | crashed _ => exact .of_tables rfl rfl rfl

/-- A step that neither ends the attempt of worker `i` nor lets another party
commit. -/
def Undisturbed (i : WorkerId) : Label M → Prop
  | .tick _ | .select _ | .lock _ | .perform _ _ | .serve _ => True
  | .crash j => j ≠ i
  | .webhook _ | .replay _ | .finish _ => False

/-- Up to its end an undisturbed attempt stays the one that it is. -/
theorem undisturbed_path {i : WorkerId} {s : Session} {p : Effect Unit} {eventId : String}
    (h : Path (step env M) (fun _ label => Undisturbed i label) w w')
    (hi : w.workers i = .running s p) :
    Unharmed eventId w w' ∧
      ∃ s' p', w'.workers i = .running s' p' ∧ s'.loaded = s.loaded := by
  refine h.invariant (I := fun w' => Unharmed eventId w w' ∧
    ∃ s' p', w'.workers i = .running s' p' ∧ s'.loaded = s.loaded)
    (fun x label y hlabel ⟨hsame, s', p', hi', hloaded⟩ hs => ?_)
    ⟨.of_tables rfl rfl rfl, s, p, hi, rfl⟩
  have hother : ∀ j phase, y.workers = Function.update x.workers j phase → j ≠ i →
      y.workers i = .running s' p' := fun j phase hworkers hji => by
    rw [hworkers, Function.update_of_ne (Ne.symm hji)]
    exact hi'
  have hne : ∀ j, (∀ s p, x.workers j ≠ .running s p) → j ≠ i := fun j hj hji => by
    subst hji
    exact hj _ _ hi'
  have hunharmed : Unharmed eventId x y → Unharmed eventId w y := hsame.trans
  cases step_sound hs with
  | tick | served _ => exact ⟨hunharmed (.of_tables rfl rfl rfl), s', p', hi', hloaded⟩
  | ignored _ | received _ _ | replayed _ _ | committed _ _ _ | undone _ _ _ =>
      exact hlabel.elim
  | @selected j hj =>
      exact ⟨hunharmed (.of_tables rfl rfl rfl), s', p',
        hother j _ rfl (hne j fun s p h => by rw [hj] at h; cases h), hloaded⟩
  | @exhausted j _ hj | @passed j _ _ _ hj _ | @claimed j _ _ _ _ hj _ _ _ _ =>
      exact ⟨hunharmed (.of_tables rfl rfl rfl), s', p',
        hother j _ rfl (hne j fun s p h => by rw [hj] at h; cases h), hloaded⟩
  | @crashed j _ =>
      exact ⟨hunharmed (.of_tables rfl rfl rfl), s', p', hother j _ rfl hlabel, hloaded⟩
  | @performed j choice s₁ o k r w₁ hj hx =>
      refine ⟨hunharmed (unharmed_perform hs), ?_⟩
      have hworkers : (w₁.setPhase j (.running (s₁.after o r) (k r))).workers =
          Function.update x.workers j (.running (s₁.after o r) (k r)) := by
        rw [← hx.workers]
        rfl
      by_cases hji : j = i
      · subst hji
        cases hi'.symm.trans hj
        exact ⟨_, _, (congrFun hworkers j).trans (Function.update_self ..),
          after_loaded.trans hloaded⟩
      · exact ⟨s', p', hother j _ hworkers hji, hloaded⟩

/-- **A failed attempt leaves the mappings exactly as they were.** -/
theorem failed_attempt_leaves_mappings (h : Reaches (step env M) w₀ w) (h₀ : Initial w₀) :
    -- until it ends, an attempt changes no committed row
    (∀ i choice w' eventId, step env M w (.perform i choice) = some w' →
      Unharmed eventId w w') ∧
    -- whatever the others have done, its end changes at most its own event
    (∀ i s p label w', w.workers i = .running s p →
      HandlerRaised env.settings env.tiers s.loaded p s →
      (label = .finish i ∨ label = .crash i) → step env M w label = some w' →
      Unharmed s.loaded.stripeEventId w w') ∧
    -- from the claim to the end, if no other party commits meanwhile
    ∀ i row w₁ s p label w', w.workers i = .running (.start row)
        (handleEvent env.settings env.tiers row) →
      Path (step env M) (fun _ label => Undisturbed i label) w w₁ →
      w₁.workers i = .running s p → HandlerRaised env.settings env.tiers row p s →
      (label = .finish i ∨ label = .crash i) → step env M w₁ label = some w' →
      Unharmed row.stripeEventId w w' := by
  refine ⟨fun i choice w' eventId => unharmed_perform,
    fun i s p label w' hi hraised => ?_,
    fun i row w₁ s p label w' hclaimed hpath hi hraised hlabel hs => ?_⟩
  · exact unharmed_end (worldInv_of_path h h₀) hi hraised
  · obtain ⟨hsame, s', p', hi', hloaded⟩ := undisturbed_path hpath hclaimed
    cases hi.symm.trans hi'
    have hinv := worldInv_of_path (h.trans hpath.reaches) h₀
    have hloaded' : s.loaded = row := hloaded
    subst hloaded'
    exact hsame.trans (unharmed_end hinv hi hraised hlabel hs)

end System

/-- The event and the status that worker `i` is about to commit. -/
def aboutToCommit {M : Metronome} (w : World M) (i : WorkerId) :
    Option (String × Status) :=
  match w.workers i with
  | .running s (.ret _) => some (s.loaded.stripeEventId, s.event.status)
  | _ => none

/-- An attempt that is about to commit a failure is one whose handler has
raised. -/
theorem raised_of_aboutToCommit {env : Env} {M : Metronome} {w₀ w : World M}
    {i : WorkerId}
    {eventId : String} {status : Status} (h : Reaches (step env M) w₀ w) (h₀ : Initial w₀)
    (hready : aboutToCommit w i = some (eventId, status))
    (hstatus : status ≠ .PROCESSED) :
    ∃ s a, w.workers i = .running s (.ret a) ∧ s.loaded.stripeEventId = eventId ∧
      HandlerRaised env.settings env.tiers s.loaded (.ret a) s := by
  unfold aboutToCommit at hready
  split at hready
  · next s a hi =>
      obtain ⟨rfl, rfl⟩ := Prod.mk.inj (Option.some.inj hready)
      exact ⟨s, a, hi, rfl, handlerRaised_of_status (runs_of_path h h₀ hi) hstatus⟩
  · cases hready

/-- A subscription has come before its customer, and its first attempt is about
to be committed. -/
def earlyAda : World (metronome policyRejecting) :=
  runFrom (installation [adaSubscribed]) policyRejecting
    ([.webhook adaSubscribed.request] ++ claims 0 ++ performs 0 4 ++
      [.perform 0 (.draw (.fin 3))] ++ performs 0 4)

theorem earlyAda_ends :
    (step (installation [adaSubscribed]) _ earlyAda (.finish 0)).isSome ∧
      aboutToCommit earlyAda 0 = some ("evt_2", .PENDING) := by
  decide +kernel

theorem failed_attempt_leaves_mappings_earlyAda :
    ∃ w', step (installation [adaSubscribed]) _ earlyAda (.finish 0) = some w' ∧
      Unharmed "evt_2" earlyAda w' := by
  obtain ⟨hsome, hready⟩ := earlyAda_ends
  obtain ⟨w', hs⟩ := Option.isSome_iff_exists.mp hsome
  have hreach : Reaches (step (installation [adaSubscribed]) _)
    (World.fresh policyRejecting)
      earlyAda := reaches_runFrom _ _ _
  obtain ⟨s, a, hi, hid, hraised⟩ :=
    raised_of_aboutToCommit hreach (initial_fresh _) hready (by decide)
  refine ⟨w', hs, ?_⟩
  rw [← hid]
  exact (failed_attempt_leaves_mappings hreach (initial_fresh _)).2.1 0 s _ _
    w' hi hraised
    (.inl rfl) hs

end Sidecar.Ports.FailedAttempts
