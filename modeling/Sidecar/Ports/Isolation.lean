import Sidecar.Ports.Lookups

/-!
# An attempt among others

What an attempt does depends on the rows that it has found, on the answers to
its calls, on the clock and on a draw.  So an attempt that has been interrupted
by others at every request is an attempt that is alone, in any surroundings in
which it would find the same rows and the database would take the row it
writes.

## Main results

* `tracks_handler` — a handler does what its plan says.
* `concluded_verdict` — the verdict is that of an attempt that is alone.
* `attempt_isolated` — so is the attempt.
-/

namespace Sidecar.Ports.Isolation

open Sidecar.Verified.Resumption
open Sidecar.Ports.Python
open Sidecar.Ports.Config
open Sidecar.Ports.Models
open Sidecar.Ports.Effects
open Sidecar.Ports.Handlers
open Sidecar.Ports.Worker
open Sidecar.Ports.Attempt
open Sidecar.Ports.Execution
open Sidecar.Ports.Plans
open Sidecar.Ports.Outcomes
open Sidecar.Ports.FailedAttempts
open Sidecar.Ports.Lookups

/-! ## The surroundings of an attempt -/

section Endings

variable {call : Call} {first second : SdkOutcome}

/-- The first call ends in one way and the second in another. -/
def endings (first second : SdkOutcome) (made : List MetronomeRequest) : SdkOutcome :=
  if made.length = 1 then first else second

theorem answer_endings {ρ : Surroundings} (h : ρ.outcome = endings first second) :
    call.first ρ = first ∧
      call.answer (call.first ρ) (call.second ρ) = call.answer first second := by
  have hfirst : call.first ρ = first := by
    rw [Call.first, h]
    rfl
  refine ⟨hfirst, ?_⟩
  rw [hfirst]
  cases call with
  | createContract sub c price tier customer request =>
      rw [Call.second, h]
      rfl
  | _ => rfl

end Endings

section Tracking

variable {ρ : Surroundings} {row : WebhookEvent} {s s' : Session} {settings : Settings}
  {tiers : TierTable} {p : Effect Unit} {decided : Except PyExc Plan}

def ids (row : CustomerMapping) : String × String :=
  (row.stripeCustomerId, row.metronomeCustomerId)

/-- The surroundings are as the attempt has found them.  Whether a customer has
been renamed meanwhile makes no difference. -/
def Agrees (ρ : Surroundings) : Fact → Prop
  | .customerRow c found => (ρ.customers c).map ids = found.map ids
  | .subscriptionRow sub found => ρ.subscriptions sub = found
  | _ => True

def Matches (ρ : Surroundings) (s : Session) : Prop := ∀ f ∈ s.journal, Agrees ρ f

theorem Matches.mono (h : Matches ρ s') (hjournal : s.journal ⊆ s'.journal) :
    Matches ρ s :=
  fun f hf => h f (hjournal hf)

theorem journal_after (s : Session) (o : Op) (r : Res o) :
    s.journal ⊆ (s.after o r).journal := by
  cases o with
  | lookupCustomerMapping | lookupSubscriptionMapping | send | recv | clock | uniform =>
      exact List.subset_cons_self _ _
  | flush => cases r <;> exact List.Subset.refl _
  | _ => exact List.Subset.refl _

theorem always_journal {α : Type} (p : Effect α) (s : Session) :
    Always semantics (fun s' _ => s.journal ⊆ s'.journal) p s :=
  always_local (I := fun s' : Session => s.journal ⊆ s'.journal)
    (fun o r s' _ hsub => List.Subset.trans hsub (journal_after s' o r))
    (List.Subset.refl _)

/-- A handler that has decided so has ended in this way.  Where the database
takes its row, and where its calls end as they did, it ends in this way when it
is alone. -/
structure Handled (row : WebhookEvent) (decided : Except PyExc Plan) (s : Session)
    (x : Except PyExc Unit) : Prop where
  loaded : s.loaded = row
  event : s.event = claimed row
  work : ∃ outcome now, ∀ ρ : Surroundings,
    (∀ write ∈ s.flushed, ρ.refusal [write] = none) →
    ρ.outcome = outcome → (s.flushed ≠ [] → ρ.clock [] = now) →
    decidedWork ρ decided = (workOf s, x)

/-- From `s` on, `p` does what has been decided. -/
def Tracks (ρ : Surroundings) (row : WebhookEvent) (decided : Except PyExc Plan)
    (s : Session) (p : Effect Unit) : Prop :=
  Always semantics (fun s' n => ∀ x, n = ending x → s'.poisoned = false → Matches ρ s' →
    Handled row decided s' x) p s

/-- A handler that has only read. -/
structure Deciding (row : WebhookEvent) (s : Session) : Prop where
  blank : Blank row s
  calls : calls s = []

theorem Deciding.learn (h : Deciding row s) {f : Fact} (hf : Fact.IsRow f) :
    Deciding row (s.learn f) where
  blank := ⟨h.blank.loaded, h.blank.event, h.blank.pending, h.blank.flushed,
    h.blank.poisoned, h.blank.result⟩
  calls := (@calls_rows [f] (fun _ hg => List.mem_singleton.mp hg ▸ hf) s).trans h.calls

theorem Deciding.workOf_eq (h : Deciding row s) : workOf s = ⟨[], [], false, none⟩ := by
  rw [workOf, h.calls, h.blank.flushed, h.blank.poisoned, h.blank.result]

theorem ending_inj {α : Type} {x y : Except PyExc α}
    (h : (ending x : Node Op PyExc α) = ending y) : x = y := by
  cases x <;> cases y <;> cases h <;> rfl

theorem tracks_raise (h : Deciding row s) (exc : PyExc) :
    Tracks ρ row (.error exc) s (.raise exc) := by
  intro x hx _ _
  cases ending_inj (x := .error exc) hx
  exact ⟨h.blank.loaded, h.blank.event, fun _ => .apiError "", 0, fun ρ' _ _ _ => by
    rw [h.workOf_eq]; rfl⟩

/-- A check that both make. -/
theorem tracks_check {α : Type} {f : α → Effect Unit} {g : α → Except PyExc Plan}
    {check : Except PyExc α} (h : Deciding row s)
    (hok : ∀ a, check = .ok a → Tracks ρ row (g a) s (f a)) :
    Tracks ρ row (do g (← check)) s (do f (← Prog.ofExcept check)) := by
  cases check with
  | error exc => exact tracks_raise h exc
  | ok a => exact hok a rfl

/-- What has been found differs from the surroundings. -/
theorem tracks_of_mismatch (h : ¬Matches ρ s) : Tracks ρ row decided s p :=
  (always_journal p s).mono fun _ _ hsub _ _ _ hmatches => absurd (hmatches.mono hsub) h

theorem tracks_customerRow {c : String} {f : Option CustomerMapping → Effect Unit}
    (h : ∀ found : Option CustomerMapping, (ρ.customers c).map ids = found.map ids →
      Tracks ρ row decided (s.learn (.customerRow c found)) (f found)) :
    Tracks ρ row decided s (do f (← lookupCustomerMapping c)) := by
  refine ⟨fun x hx => (by cases x <;> cases hx), fun found _ => ?_⟩
  by_cases hsame : (ρ.customers c).map ids = found.map ids
  · exact h found hsame
  · exact tracks_of_mismatch fun hm =>
      hsame (hm (.customerRow c found) List.mem_cons_self)

theorem tracks_subscriptionRow {sub : String}
    {f : Option SubscriptionMapping → Effect Unit}
    (h : ∀ found, ρ.subscriptions sub = found →
      Tracks ρ row decided (s.learn (.subscriptionRow sub found)) (f found)) :
    Tracks ρ row decided s (do f (← lookupSubscriptionMapping sub)) := by
  refine ⟨fun x hx => (by cases x <;> cases hx), fun found _ => ?_⟩
  by_cases hsame : ρ.subscriptions sub = found
  · exact h found hsame
  · exact tracks_of_mismatch fun hm =>
      hsame (hm (.subscriptionRow sub found) List.mem_cons_self)

theorem decidedWork_act {call : Call} {first second : SdkOutcome}
    (h : ρ.outcome = endings first second) :
    decidedWork ρ (.ok (.act call)) =
      storedWork ρ (call.requests first).reverse (call.answer first second) := by
  obtain ⟨hfirst, hanswer⟩ := @answer_endings call first second ρ h
  rw [decidedWork, hanswer, hfirst]

theorem tracks_store {call : Call} {first second : SdkOutcome} {recorded : Recorded}
    (hs : Blank row s) (hcalls : calls s = (call.requests first).reverse)
    (hanswer : call.answer first second = .ok recorded) :
    Tracks ρ row (.ok (.act call)) s recorded.store := by
  have hask : ∀ {s : Session} {o : Op}, ∀ x : Except PyExc Unit,
      Node.perform o = ending x → s.poisoned = false → Matches ρ s →
      Handled row (.ok (.act call)) s x := fun x hx => by cases x <;> cases hx
  unfold Tracks Recorded.store
  simp only [always_bind]
  refine always_datetimeNow hask fun now => always_sessionAdd hask ?_
  refine always_sessionFlush hs.poisoned hask ?_ fun msg x _ hp => by cases hp
  refine always_logCompleted hask fun x hx _ _ => ?_
  cases ending_inj (x := .ok ()) hx
  refine ⟨hs.loaded, hs.event, endings first second, now,
    fun ρ' hrefusal hout hclock => ?_⟩
  have hflushed : ∀ write, s.flushed ++ (s.pending ++ [write]) = [write] :=
    fun write => by
    rw [hs.flushed, hs.pending]
    rfl
  have hne : s.flushed ++ (s.pending ++ [recorded.write now]) ≠ [] := by
    rw [hflushed]
    exact List.cons_ne_nil _ _
  have hmem : recorded.write now ∈ s.flushed ++ (s.pending ++ [recorded.write now]) := by
    rw [hflushed]
    exact List.mem_singleton_self _
  have hnow : ρ'.clock [] = now := hclock hne
  have hnone : ρ'.refusal [recorded.write now] = none := hrefusal _ hmem
  rw [decidedWork_act hout, hanswer, storedWork, hnow, hnone]
  refine Prod.ext ?_ rfl
  show _ = Work.mk (calls s) (s.flushed ++ (s.pending ++ [recorded.write now]))
    s.poisoned _
  rw [hcalls, hflushed, hs.poisoned]

/-- **What has been decided is done.** -/
theorem tracks_effect (h : Deciding row s) (decided : Plan) :
    Tracks ρ row (.ok decided) s decided.effect := by
  cases decided with
  | ignore =>
      intro x hx _ _
      cases ending_inj (x := .ok ()) hx
      exact ⟨h.blank.loaded, h.blank.event, fun _ => .apiError "", 0, fun ρ' _ _ _ => by
        rw [h.workOf_eq]; rfl⟩
  | skip result =>
      refine always_logCompleted (fun x hx => by cases x <;> cases hx) fun x hx _ _ => ?_
      cases ending_inj (x := .ok ()) hx
      refine ⟨h.blank.loaded, h.blank.event, fun _ => .apiError "", 0, fun ρ' _ _ _ => ?_⟩
      refine Prod.ext ?_ rfl
      show Work.mk [] [] false _ = Work.mk (calls s) s.flushed s.poisoned _
      rw [h.calls, h.blank.flushed, h.blank.poisoned]
  | act call =>
      show Always semantics _ (call.make >>= Recorded.store) s
      rw [always_bind]
      refine always_make (fun _ _ x hx => by cases x <;> cases hx)
        (fun _ _ _ x hx => by cases x <;> cases hx) fun s' first second hasked => ?_
      have hblank := hasked.blank h.blank
      have hcalls : calls s' = (call.requests first).reverse := by
        rw [hasked.calls, h.calls, List.append_nil]
      cases hanswer : call.answer first second with
      | error exc =>
          intro x hx _ _
          cases ending_inj (x := .error exc) hx
          refine ⟨hblank.loaded, hblank.event, endings first second, 0,
            fun ρ' _ hout _ => ?_⟩
          rw [decidedWork_act hout, hanswer, workOf, hcalls, hblank.flushed,
            hblank.poisoned, hblank.result]
          rfl
      | ok recorded => exact tracks_store hblank hcalls hanswer

theorem tracks_of_eq (h : Deciding row s) {decided : Plan} (hp : p = decided.effect) :
    Tracks ρ row (.ok decided) s p := hp ▸ tracks_effect h decided

theorem tracks_handleCustomerEvent (h : Deciding row s) (eventType : CustomerEventType)
    (payload : JsonObject) :
    Tracks ρ row (customerPlan ρ eventType payload) s
      (handleCustomerEvent eventType payload) := by
  unfold handleCustomerEvent customerPlan
  refine tracks_check h fun object _ => tracks_check h fun c hc => ?_
  refine tracks_customerRow fun found hfound => ?_
  have h' := h.learn (f := .customerRow c found) trivial
  cases hrow : ρ.customers c with
  | none =>
      rw [hrow] at hfound
      cases found with
      | some mapping => cases hfound
      | none =>
          simp only [createNewMapping, hc, ofExcept_ok, bind_assoc, pure_bind]
          refine tracks_check h' fun request _ => tracks_of_eq h' ?_
          simp only [Plan.effect, Call.make, Recorded.store, bind_assoc, pure_bind]
  | some mapping =>
      rw [hrow] at hfound
      cases found with
      | none => cases hfound
      | some mapping' =>
          obtain ⟨hcustomer, hmetronome⟩ := Prod.mk.inj (Option.some.inj hfound)
          cases eventType with
          | created =>
              refine tracks_of_eq h' ?_
              simp only [handleExistingMapping, pure_bind, Plan.effect,
                hcustomer, hmetronome]
          | updated =>
              simp only [handleExistingMapping, bind_assoc, pure_bind]
              refine tracks_check h' fun request _ => tracks_of_eq h' ?_
              simp only [Plan.effect, Call.make, Recorded.store, bind_assoc,
                pure_bind, hcustomer, hmetronome]

theorem tracks_handleSubscriptionCreated (h : Deciding row s) (payload : JsonObject) :
    Tracks ρ row (subscriptionPlan settings tiers ρ payload) s
      (handleSubscriptionCreated settings tiers payload) := by
  unfold handleSubscriptionCreated subscriptionPlan
  refine tracks_check h fun object _ => tracks_check h fun sub _ =>
    tracks_check h fun c _ => ?_
  refine tracks_subscriptionRow fun found hfound => ?_
  have h := h.learn (f := .subscriptionRow sub found) trivial
  cases hrow : ρ.subscriptions sub with
  | some subscribed =>
      cases hrow.symm.trans hfound
      simp only [skipMapped, requireMetronomeCustomerId, bind_assoc]
      refine tracks_customerRow fun found hfound => ?_
      have h' := h.learn (f := .customerRow subscribed.stripeCustomerId found) trivial
      cases hrow : ρ.customers subscribed.stripeCustomerId with
      | none =>
          rw [hrow] at hfound
          cases found with
          | some customer => cases hfound
          | none => exact tracks_raise h' _
      | some customer =>
          rw [hrow] at hfound
          cases found with
          | none => cases hfound
          | some customer' =>
              obtain ⟨_, hmetronome⟩ := Prod.mk.inj (Option.some.inj hfound)
              refine tracks_of_eq h' ?_
              simp only [pure_bind, Plan.effect, hmetronome]
  | none =>
      cases hrow.symm.trans hfound
      simp only [createMapped]
      refine tracks_check h fun price _ => tracks_customerRow fun found hfound => ?_
      have h' := h.learn (f := .customerRow c found) trivial
      cases hrow : ρ.customers c with
      | none =>
          rw [hrow] at hfound
          cases found with
          | some customer => cases hfound
          | none => exact tracks_raise h' _
      | some customer =>
          rw [hrow] at hfound
          cases found with
          | none => cases hfound
          | some customer' =>
              obtain ⟨_, hmetronome⟩ := Prod.mk.inj (Option.some.inj hfound)
              simp only [hmetronome]
              refine tracks_check h' fun tier _ => tracks_check h' fun request _ => ?_
              refine tracks_of_eq h' ?_
              simp only [Plan.effect, Call.make, Recorded.store, bind_assoc,
                pure_bind, hmetronome]

theorem tracks_notPropagated (h : Deciding row s) (payload : JsonObject) :
    Tracks ρ row (noPlan payload) s (notPropagated payload) := by
  unfold notPropagated noPlan
  refine tracks_check h fun object _ => tracks_check h fun _ _ => ?_
  cases requireStr (get object "customer") "data.object.customer" with
  | error exc => exact tracks_raise h exc
  | ok c => exact tracks_effect h .ignore

/-- **Every handler does what its plan says**, also among others. -/
theorem tracks_handler (h : Deciding row s) (handler : Handler) (payload : JsonObject) :
    Tracks ρ row (plan settings tiers ρ payload handler) s
      (handler.run settings tiers payload) := by
  cases handler with
  | customerCreated => exact tracks_handleCustomerEvent h .created payload
  | customerUpdated => exact tracks_handleCustomerEvent h .updated payload
  | subscriptionCreated => exact tracks_handleSubscriptionCreated h payload
  | subscriptionUpdated => exact tracks_notPropagated h payload
  | subscriptionDeleted => exact tracks_notPropagated h payload

end Tracking

/-! ## The verdict -/

section Verdicts

variable {settings : Settings} {tiers : TierTable} {s s' t : Session} {ρ : Surroundings}
  {row : WebhookEvent}

/-- What is said to an attempt that is alone. -/
structure Course where
  outcome : List MetronomeRequest → SdkOutcome
  clock : List Write → Time
  draw : PyFloat → PyFloat
  fair : ∀ hi, (PyFloat.fin 1).le hi = true → drawAllowed hi (draw hi) = true

/-- One draw, as far as the bound allows it. -/
def drawing (u hi : PyFloat) : PyFloat := if drawAllowed hi u then u else hi

theorem drawing_fair (u hi : PyFloat) (h : (PyFloat.fin 1).le hi = true) :
    drawAllowed hi (drawing u hi) = true := by
  unfold drawing
  split
  · next hu => exact hu
  · cases hi with
    | fin x =>
        have hx : (1 : Rat) ≤ x := of_decide_eq_true h
        simp only [drawAllowed, Bool.and_eq_true, decide_eq_true_eq]
        exact ⟨le_trans (by decide) hx, le_refl x⟩
    | inf => rfl
    | nan => rfl

/-- The verdict on `x` has been reached in `s'`.  It is the same for an attempt
that is alone. -/
structure Concluded (settings : Settings) (x : Except PyExc Unit) (s s' : Session) :
    Prop where
  work : SameWork s s'
  again : ∃ now u, ∀ (ρ : Surroundings) (t : Session), ρ.clock t.flushed = now →
    ρ.draw = drawing u → t.event = s.event → t.poisoned = false →
    ∃ t', ρ.play (verdict settings x) t = (t', .ok ()) ∧ t'.event = s'.event

theorem retryAt_eq_ok {attempts : Int} {now next : Time} {raw u : PyFloat}
    (hraw : timesPow2 settings.workerRetryBaseSeconds
      ((if attempts < 1 then 1 else attempts) - 1).toNat = .ok raw)
    (hu : drawAllowed (raw.min settings.workerRetryCapSeconds) u = true)
    (hnext : addSeconds now (maxOne u) = .ok next) :
    retryAt settings attempts now (drawing u) = .ok next := by
  unfold retryAt drawing
  rw [hraw]
  show addSeconds now
    (maxOne (if drawAllowed (raw.min settings.workerRetryCapSeconds) u then u
    else raw.min settings.workerRetryCapSeconds)) = .ok next
  rw [if_pos hu, hnext]

theorem concluded_markFailed {x : Except PyExc Unit} {reason : String}
    {isPermanent : Bool}
    (hagain : ∀ (ρ : Surroundings) (t : Session), t.event = s.event → t.poisoned = false →
      ∃ t', ρ.play (verdict settings x) t = (t', .ok ()) ∧
        t'.event = failedEvent t.event (ρ.clock t.flushed)
          (if isPermanent then s!"PERMANENT: {reason}" else
            s!"EXHAUSTED RETRIES: {reason}")) :
    Always semantics (fun s' n => ∀ a, n = .ret a → Concluded settings x s s')
      (markFailed reason isPermanent) s := by
  unfold markFailed
  simp only [always_bind]
  refine always_assign (fun a h => by cases h) (always_assign (fun a h => by cases h) ?_)
  refine always_datetimeNow (fun a h => by cases h) fun now => ?_
  refine always_assign (fun a h => by cases h) fun _ _ => ?_
  refine ⟨⟨rfl, rfl, rfl, rfl, rfl, rfl⟩, now, .nan, fun ρ t hclock _ hevent hp => ?_⟩
  obtain ⟨t', hplay, ht'⟩ := hagain ρ t hevent hp
  refine ⟨t', hplay, ?_⟩
  rw [ht', hclock, hevent]
  rfl

theorem always_draw {J : Session → Node Op PyExc PyFloat → Prop} {hi : PyFloat}
    (hask : J s (.perform (.uniform hi)))
    (hret : ∀ u, drawAllowed hi u = true → J (s.learn (.drew u)) (.ret u)) :
    Always semantics J (randomUniform hi) s := ⟨hask, hret⟩

theorem concluded_scheduleRetryOrFail {exc : PyExc} {reason : String}
    (hverdict : verdict settings (.error exc) = scheduleRetryOrFail settings reason)
    (hp : s.poisoned = false) :
    Always semantics (fun s' n => ∀ a, n = .ret a → Concluded settings (.error exc) s s')
      (scheduleRetryOrFail settings reason) s := by
  have hplay := fun (ρ : Surroundings) (t : Session) (ht : t.poisoned = false) =>
    hverdict ▸ @play_scheduleRetryOrFail settings ρ t reason ht
  unfold scheduleRetryOrFail
  rw [always_bind]
  refine always_eventAttempts (fun a h => by cases h) (fun _ => ?_)
    fun hp' => absurd (hp.symm.trans hp') (by decide)
  dsimp only
  split
  · next hmax =>
      refine concluded_markFailed fun ρ t hevent ht => ?_
      rcases hplay ρ t ht with ⟨_, t', h, _, he⟩ | ⟨hlt, _⟩
      · exact ⟨t', h, he⟩
      · rw [hevent] at hlt
        exact absurd hmax (not_le.mpr hlt)
  · next hmax =>
      simp only [backoffDelay, bind_assoc, pure_bind]
      simp only [always_bind, always_ofExcept]
      refine ⟨fun raw hraw => always_draw (fun a h => by cases h) fun u hu =>
        always_assign (fun a h => by cases h) ?_, fun _ _ a h => (by cases h)⟩
      refine always_datetimeNow (fun a h => by cases h) fun now => ?_
      refine ⟨fun next hnext => ?_, fun _ _ a h => (by cases h)⟩
      refine always_assign (fun a h => by cases h)
        (always_assign (fun a h => by cases h) ?_)
      refine fun _ _ => ⟨⟨rfl, rfl, rfl, rfl, rfl, rfl⟩, now, u,
        fun ρ t hclock hdraw hevent ht => ?_⟩
      have hretry := retryAt_eq_ok hraw hu hnext
      rcases hplay ρ t ht with
        ⟨hmax', _⟩ | ⟨_, ⟨next', t', hnext', h, _, he⟩ | ⟨_, _, hnext', _⟩⟩
      · rw [hevent] at hmax'
        exact absurd hmax' hmax
      · rw [hevent, hclock, hdraw, hretry] at hnext'
        cases hnext'
        refine ⟨t', h, ?_⟩
        rw [he, hevent]
        rfl
      · rw [hevent, hclock, hdraw, hretry] at hnext'
        cases hnext'

/-- **The verdict of an attempt** is that of an attempt on its own. -/
theorem concluded_verdict (x : Except PyExc Unit) (hp : s.poisoned = false) :
    Always semantics (fun s' n => ∀ a, n = .ret a → Concluded settings x s s')
      (verdict settings x) s := by
  rcases x with exc | _
  · cases exc with
    | permanentHandlerError msg =>
        exact concluded_markFailed fun ρ t _ _ =>
          (@play_markFailed ρ msg true t).imp fun _ h => ⟨h.1, h.2.2⟩
    | _ => exact concluded_scheduleRetryOrFail rfl hp
  · unfold verdict markProcessed
    simp only [always_bind]
    refine always_assign (fun a h => by cases h) ?_
    refine always_datetimeNow (fun a h => by cases h) fun now => ?_
    refine always_assign (fun a h => by cases h)
      (always_assign (fun a h => by cases h) ?_)
    refine fun _ _ =>
      ⟨⟨rfl, rfl, rfl, rfl, rfl, rfl⟩, now, .nan, fun ρ t hclock _ hevent _ => ?_⟩
    obtain ⟨t', hplay, _, ht'⟩ := @play_markProcessed ρ t
    refine ⟨t', hplay, ?_⟩
    rw [ht', hclock, hevent]
    rfl

end Verdicts

/-! ## Attempts -/

section Attempts

variable {settings : Settings} {tiers : TierTable} {s s₁ : Session} {ρ : Surroundings}
  {row : WebhookEvent} {a : Unit}

/-- The same rows, with this said. -/
def during (ρ : Surroundings) (course : Course) : Surroundings :=
  { ρ with outcome := course.outcome, clock := course.clock, draw := course.draw }

theorem poisoned_after {o : Op} {r : Res o} (h : s.poisoned = true) :
    (s.after o r).poisoned = true := by
  cases o with
  | flush =>
      cases r with
      | error exc => rfl
      | ok _ => exact h
  | _ => exact h

theorem unpoisoned_of_runs {p q : Effect Unit} (h : Runs semantics p s₁ q s)
    (hp : s.poisoned = false) : s₁.poisoned = false := by
  refine eq_false_of_ne_true fun hp₁ => ?_
  have hpoisoned := (h.always (always_local (I := fun s : Session => s.poisoned = true)
    (fun _ _ _ _ => poisoned_after) hp₁)).here
  exact absurd (hp.symm.trans hpoisoned) (by decide)

theorem matches_of_runs {p q : Effect Unit} (h : Runs semantics p s₁ q s)
    (hm : Matches ρ s) :
    Matches ρ s₁ :=
  hm.mono (h.always (always_journal p s₁)).here

/-- The handler of an attempt that has returned. -/
theorem handled_of_runs
    (h : Runs semantics (handleEvent settings tiers row) (.start row) (.ret a) s)
    (hp : s.poisoned = false) (hm : Matches ρ s) :
    ∃ x s₁, Handled row (decision settings tiers ρ row) s₁ x ∧ s₁.poisoned = false ∧
      Runs semantics (verdict settings x) s₁ (.ret a) s := by
  have hbegun : Deciding row (begun row) := ⟨⟨rfl, rfl, rfl, rfl, rfl, rfl⟩, rfl⟩
  have htracks : ∀ handler, handlerOf row = some handler → ∀ x s₁ q,
      Runs semantics (handler.run settings tiers row.payload) (begun row) q s₁ →
      q.node = ending x → Runs semantics (verdict settings x) s₁ (.ret a) s →
      ∃ x s₁, Handled row (decision settings tiers ρ row) s₁ x ∧ s₁.poisoned = false ∧
        Runs semantics (verdict settings x) s₁ (.ret a) s := by
    intro handler hh x s₁ q hq hx hverdict
    have hp₁ := unpoisoned_of_runs hverdict hp
    have hhandled :=
      (hq.always (@tracks_handler ρ row _ settings tiers hbegun handler row.payload)).here
    refine ⟨x, s₁, ?_, hp₁, hverdict⟩
    rw [decision, hh]
    exact hhandled x hx hp₁ (matches_of_runs hverdict hm)
  rcases stages h with (⟨_, heq⟩ | ⟨_, _, _, _, _, heq⟩) | ⟨s₁, hstage, hreturned⟩ |
    ⟨handler, exc, s₁, ⟨hh, hraised⟩, hverdict⟩
  · cases heq
  · cases heq
  · rcases hstage with ⟨hh, rfl⟩ | ⟨handler, hh, hq⟩
    · have hp₁ := unpoisoned_of_runs hreturned hp
      refine ⟨.ok (), begun row, ?_, hp₁, hreturned⟩
      rw [decision, hh]
      exact tracks_effect (ρ := ρ) hbegun .ignore _ rfl hp₁ (matches_of_runs hreturned hm)
    · exact htracks handler hh (.ok ()) s₁ _ hq rfl hreturned
  · exact htracks handler hh (.error exc) s₁ _ hraised rfl hverdict

/-- **An attempt among others is an attempt on its own**, wherever the rows are
as it has found them and the database takes the row that it has written. -/
theorem attempt_isolated
    (h : Runs semantics (handleEvent settings tiers row) (.start row) (.ret a) s)
    (hm : Matches ρ s) (hrefusal : ∀ write ∈ s.flushed, ρ.refusal [write] = none) :
    ∃ course s', (during ρ course).attempt settings tiers row = (s', .ok ()) ∧
      workOf s' = workOf s ∧ s'.event = s.event ∧ s'.pending = [] := by
  obtain ⟨hp, _, _⟩ := (h.always (handleEvent_always row)).here
  obtain ⟨x, s₁, hhandled, hp₁, hverdict⟩ := handled_of_runs h hp hm
  have hconcluded := (hverdict.always (concluded_verdict x hp₁)).here a rfl
  obtain ⟨outcome, now₁, hwork⟩ := hhandled.work
  obtain ⟨now₂, u, hagain⟩ := hconcluded.again
  -- a handler that has written has read the clock before
  let course : Course := {
    outcome
    clock := fun ws => if ws = [] ∧ s₁.flushed ≠ [] then now₁ else now₂
    draw := drawing u
    fair := drawing_fair u }
  have hdecided :
    decidedWork (during ρ course) (decision settings tiers (during ρ course) row) =
      (workOf s₁, x) := by
    refine hwork (during ρ course) ?_ rfl fun hne => if_pos ⟨rfl, hne⟩
    rw [← hconcluded.work.flushed]
    exact hrefusal
  obtain ⟨t, hended, heq⟩ := @attempt_eq settings tiers (during ρ course) row
  have hdone := (@attempt_work settings tiers (during ρ course) row)
  rw [hdecided] at hended heq hdone
  have hflushed : t.flushed = s₁.flushed := congrArg Work.flushed hended.work
  have hclock : (during ρ course).clock t.flushed = now₂ := by
    rw [hflushed]
    exact if_neg fun hcond => hcond.2 hcond.1
  obtain ⟨t', hplay, hevent⟩ := hagain (during ρ course) t hclock rfl
    (hended.event.trans hhandled.event.symm)
    ((congrArg Work.poisoned hended.work).trans hp₁)
  rw [heq, hplay] at hdone
  refine ⟨course, t', heq.trans hplay, ?_, hevent, hdone.2⟩
  rw [hdone.1, workOf, workOf, hconcluded.work.calls, hconcluded.work.flushed,
    hconcluded.work.poisoned, hconcluded.work.result]

end Attempts

end Sidecar.Ports.Isolation
