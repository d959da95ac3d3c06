import Sidecar.Ports.Footprint

/-!
# Events of different customers

What an attempt commits is determined by its work and by what the clock and the
random generator say.  So two events of different customers, which find the
same before and after each other, may be processed in either order.

## Main results

* `concerned_work` — an attempt calls and writes for the customer of its event.
* `leftAlone_of_leaves` — it leaves other customers alone.
* `events_commute` — events of different customers commute.
-/

namespace Sidecar.Ports.Independence

open Sidecar.Verified.KeyedTable
open Sidecar.Verified.Resumption
open Sidecar.Verified.Transition
open Sidecar.Ports.Python
open Sidecar.Ports.Config
open Sidecar.Ports.Mappers hiding requireStr
open Sidecar.Ports.Models
open Sidecar.Ports.Effects
open Sidecar.Ports.MetronomeClient
open Sidecar.Ports.Handlers
open Sidecar.Ports.Worker
open Sidecar.Ports.System
open Sidecar.Ports.Attempt
open Sidecar.Ports.Execution
open Sidecar.Ports.Moves
open Sidecar.Ports.Transactions
open Sidecar.Ports.Invariant
open Sidecar.Ports.Mappings
open Sidecar.Ports.Remote
open Sidecar.Ports.Plans
open Sidecar.Ports.Outcomes
open Sidecar.Ports.Traffic
open Sidecar.Ports.Services
open Sidecar.Ports.Solo
open Sidecar.Ports.Footprint

/-! ## What is committed -/

section Committed

variable {settings : Settings} {tiers : TierTable} {ρ ρ' : Surroundings}
    {row : WebhookEvent}
  {s s' : Session}

/-- The rows that the transaction of an attempt commits. -/
def writesOf (run : Session × Except PyExc Unit) : List Write :=
  match run.2 with
  | .ok _ => if run.1.poisoned then [] else run.1.flushed ++ run.1.pending
  | .error _ => []

/-- The event row after an attempt. -/
def eventOf (row : WebhookEvent) (run : Session × Except PyExc Unit) : WebhookEvent :=
  match run.2 with
  | .ok _ => if run.1.poisoned then row else run.1.event
  | .error _ => row

/-- Two runs that leave the same. -/
structure SameEnd (row : WebhookEvent) (run run' : Session × Except PyExc Unit) :
    Prop where
  calls : calls run'.1 = calls run.1
  writes : writesOf run' = writesOf run
  event : eventOf row run' = eventOf row run

/-- Two runs of a verdict that return the same and leave the same event. -/
structure SameVerdict (s s' : Session) (run run' : Session × Except PyExc Unit) :
    Prop where
  returns : run'.2 = run.2
  same : ∀ a, run.2 = .ok a → SameEvent s.event run.1.event
  event : ∀ a, run.2 = .ok a → run'.1.event = run.1.event

theorem retry_agree (reason : String) (hclock : ρ'.clock s'.flushed = ρ.clock s.flushed)
    (hdraw : ρ'.draw = ρ.draw) (hevent : s'.event = s.event)
    (hpoisoned : s'.poisoned = s.poisoned) :
    SameVerdict s s' (ρ.play (scheduleRetryOrFail settings reason) s)
      (ρ'.play (scheduleRetryOrFail settings reason) s') := by
  by_cases hp : s.poisoned = true
  · rw [play_scheduleRetryOrFail_poisoned reason hp,
      play_scheduleRetryOrFail_poisoned reason (hpoisoned.trans hp)]
    exact ⟨rfl, fun a ha => (by cases ha), fun a ha => (by cases ha)⟩
  · have hp := Bool.eq_false_of_not_eq_true hp
    have hleft := @play_scheduleRetryOrFail settings ρ s reason hp
    have hright := @play_scheduleRetryOrFail settings ρ' s' reason (hpoisoned.trans hp)
    rw [hclock, hdraw, hevent] at hright
    rcases hleft with ⟨hmax, t, ht, _, he⟩ | ⟨hmax, ⟨next, t, hnext, ht, _, he⟩ |
      ⟨exc, t, hnext, ht, _⟩⟩
    · rcases hright with ⟨_, t', ht', _, he'⟩ | ⟨hmax', _⟩
      · rw [ht, ht']
        exact ⟨rfl, fun _ _ => he ▸ ⟨rfl, rfl, rfl, rfl⟩, fun _ _ => he'.trans he.symm⟩
      · exact absurd hmax (not_le.mpr hmax')
    · rcases hright with
        ⟨hmax', _⟩ | ⟨_, ⟨_, t', hnext', ht', _, he'⟩ | ⟨_, _, hnext', _⟩⟩
      · exact absurd hmax' (not_le.mpr hmax)
      · cases hnext.symm.trans hnext'
        rw [ht, ht']
        exact ⟨rfl, fun _ _ => he ▸ ⟨rfl, rfl, rfl, rfl⟩, fun _ _ => he'.trans he.symm⟩
      · cases hnext.symm.trans hnext'
    · rcases hright with ⟨hmax', _⟩ | ⟨_, ⟨_, _, hnext', _⟩ | ⟨_, t', hnext', ht', _⟩⟩
      · exact absurd hmax' (not_le.mpr hmax)
      · cases hnext.symm.trans hnext'
      · cases hnext.symm.trans hnext'
        rw [ht, ht']
        exact ⟨rfl, fun a ha => (by cases ha), fun a ha => (by cases ha)⟩

theorem verdict_agree (x : Except PyExc Unit)
    (hclock : ρ'.clock s'.flushed = ρ.clock s.flushed)
    (hdraw : ρ'.draw = ρ.draw) (hevent : s'.event = s.event)
    (hpoisoned : s'.poisoned = s.poisoned) :
    SameVerdict s s' (ρ.play (verdict settings x) s)
      (ρ'.play (verdict settings x) s') := by
  match x with
  | .ok _ =>
      obtain ⟨t, ht, _, he⟩ := @play_markProcessed ρ s
      obtain ⟨t', ht', _, he'⟩ := @play_markProcessed ρ' s'
      rw [hclock, hevent] at he'
      rw [verdict, ht, ht']
      exact ⟨rfl, fun _ _ => he ▸ ⟨rfl, rfl, rfl, rfl⟩, fun _ _ => he'.trans he.symm⟩
  | .error exc =>
      cases exc with
      | permanentHandlerError msg =>
          obtain ⟨t, ht, _, he⟩ := @play_markFailed ρ msg true s
          obtain ⟨t', ht', _, he'⟩ := @play_markFailed ρ' msg true s'
          rw [hclock, hevent] at he'
          rw [verdict, ht, ht']
          exact ⟨rfl, fun _ _ => he ▸ ⟨rfl, rfl, rfl, rfl⟩, fun _ _ => he'.trans he.symm⟩
      | _ => exact retry_agree _ hclock hdraw hevent hpoisoned

/-- Attempts that do the same work end in the same way. -/
theorem sameEnd_of_work (hclock : ρ'.clock = ρ.clock) (hdraw : ρ'.draw = ρ.draw)
    (hwork : decidedWork ρ' (decision settings tiers ρ' row) =
      decidedWork ρ (decision settings tiers ρ row)) :
    SameEnd row (ρ.attempt settings tiers row) (ρ'.attempt settings tiers row) ∧
      SameEvent row (eventOf row (ρ.attempt settings tiers row)) := by
  obtain ⟨hleft, hpending⟩ := @attempt_work settings tiers ρ row
  obtain ⟨hright, hpending'⟩ := @attempt_work settings tiers ρ' row
  rw [hwork, ← hleft] at hright
  have hcalls := congrArg Work.calls hright
  have hflushed := congrArg Work.flushed hright
  have hpoisoned := congrArg Work.poisoned hright
  simp only [workOf] at hcalls hflushed hpoisoned
  have hverdict : SameVerdict (begun row) (begun row) (ρ.attempt settings tiers row)
      (ρ'.attempt settings tiers row) := by
    obtain ⟨s, hended, heq⟩ := @attempt_eq settings tiers ρ row
    obtain ⟨s', hended', heq'⟩ := @attempt_eq settings tiers ρ' row
    rw [hwork] at hended' heq'
    have hsame := hended'.work.trans hended.work.symm
    have hflushed : s'.flushed = s.flushed := congrArg Work.flushed hsame
    have hagree := @verdict_agree settings ρ ρ' s s'
      (decidedWork ρ (decision settings tiers ρ row)).2 (by rw [hclock, hflushed]) hdraw
      (hended'.event.trans hended.event.symm) (congrArg Work.poisoned hsame)
    rw [heq, heq']
    refine ⟨hagree.returns, fun a ha => ?_, hagree.event⟩
    have hevent := hagree.same a ha
    rw [hended.event] at hevent
    exact hevent
  refine ⟨⟨hcalls, ?_, ?_⟩, ?_⟩
  · unfold writesOf
    rw [hverdict.returns, hpoisoned, hflushed, hpending, hpending']
  · unfold eventOf
    rw [hverdict.returns, hpoisoned]
    cases hr : (ρ.attempt settings tiers row).2 with
    | error exc => rfl
    | ok a =>
        dsimp only
        rw [hverdict.event a hr]
  · unfold eventOf
    cases hr : (ρ.attempt settings tiers row).2 with
    | error exc => exact ⟨rfl, rfl, rfl, rfl⟩
    | ok a =>
        dsimp only
        by_cases hp : (ρ.attempt settings tiers row).1.poisoned = true
        · rw [if_pos hp]
          exact ⟨rfl, rfl, rfl, rfl⟩
        · rw [if_neg hp]
          exact hverdict.same a hr

/-- The tables after an attempt, in terms of what it commits. -/
theorem afterAttempt_mappings (db : Postgres) (run : Session × Except PyExc Unit) :
    (afterAttempt db run).customerMappings =
        ((writesOf run).foldl Postgres.apply db).customerMappings ∧
      (afterAttempt db run).subscriptionMappings =
        ((writesOf run).foldl Postgres.apply db).subscriptionMappings := by
  unfold afterAttempt writesOf
  cases run.2 with
  | error exc => exact ⟨rfl, rfl⟩
  | ok a =>
      dsimp only
      by_cases hp : run.1.poisoned = true
      · rw [if_pos hp, if_pos hp]
        exact ⟨rfl, rfl⟩
      · rw [if_neg hp, if_neg hp]
        exact ⟨updateEvent_customerMappings _, updateEvent_subscriptionMappings _⟩

theorem afterAttempt_events {db : Postgres} {run : Session × Except PyExc Unit}
    (hrow : db.webhookEvents.find? row.stripeEventId = some row)
    (hsame : SameEvent row (eventOf row run)) (e : String) :
    (afterAttempt db run).webhookEvents.find? e =
      if row.stripeEventId = e then some (eventOf row run) else
        db.webhookEvents.find? e := by
  have hkept : db.webhookEvents.find? e =
      if row.stripeEventId = e then some row else db.webhookEvents.find? e := by
    by_cases he : row.stripeEventId = e
    · rw [if_pos he, ← he, hrow]
    · rw [if_neg he]
  unfold afterAttempt
  unfold eventOf at hsame ⊢
  cases hr : run.2 with
  | error exc => exact hkept
  | ok a =>
      dsimp only
      rw [hr] at hsame
      dsimp only at hsame
      by_cases hp : run.1.poisoned = true
      · rw [if_pos hp, if_pos hp]
        exact hkept
      · rw [if_neg hp] at hsame
        rw [if_neg hp, if_neg hp]
        have hrow' : ((run.1.flushed ++ run.1.pending).foldl
            Postgres.apply db).webhookEvents.find? run.1.event.stripeEventId = some row := by
          rw [foldl_apply_webhookEvents, hsame.1, hrow]
        rw [updateEvent_webhookEvents hrow' hsame, foldl_apply_webhookEvents,
          Table.find?_update, hsame.1]
        by_cases he : row.stripeEventId = e
        · rw [if_pos he, if_pos he, ← he, hrow, Option.map_some]
        · rw [if_neg he, if_neg he]

end Committed

/-! ## What an event leaves alone -/

section Frame

variable {row : WebhookEvent} {db : Postgres} {ws : List Write}

theorem customer_foldl_other {c : String} (h : ∀ write ∈ ws, Concerns row write)
    (hc : concerned row ≠ some c) :
    (ws.foldl Postgres.apply db).customerMappings.find? c =
      db.customerMappings.find? c := by
  induction ws generalizing db with
  | nil => rfl
  | cons write ws ih =>
      have hwrite := h write List.mem_cons_self
      have hfirst : (db.apply write).customerMappings.find? c =
          db.customerMappings.find? c := by
        cases write with
        | insertCustomer r =>
            have hne : r.stripeCustomerId ≠ c := fun heq => hc (heq ▸ hwrite)
            show (db.customerMappings.insertNew r).find? c = _
            rw [Table.find?_insertNew, if_neg fun hcond => hne hcond.2]
        | insertSubscription r => rfl
        | touchCustomer c' now =>
            have hne : c' ≠ c := fun heq => hc (heq ▸ hwrite)
            rw [find?_touchCustomer, if_neg hne]
      exact (ih fun write' hmem => h write' (List.mem_cons_of_mem _ hmem)).trans hfirst

theorem subscription_foldl_other {sub : String} (h : ∀ write ∈ ws, Concerns row write)
    (hsub : subscriptionOf row ≠ some sub) :
    (ws.foldl Postgres.apply db).subscriptionMappings.find? sub =
      db.subscriptionMappings.find? sub := by
  induction ws generalizing db with
  | nil => rfl
  | cons write ws ih =>
      have hwrite := h write List.mem_cons_self
      have hfirst : (db.apply write).subscriptionMappings.find? sub =
          db.subscriptionMappings.find? sub := by
        cases write with
        | insertCustomer r => rfl
        | insertSubscription r =>
            have hne : r.stripeSubscriptionId ≠ sub := fun heq => hsub (heq ▸ hwrite.2)
            show (db.subscriptionMappings.insertNew r).find? sub = _
            rw [Table.find?_insertNew, if_neg fun hcond => hne hcond.2]
        | touchCustomer c' now =>
            simp only [Postgres.apply]
            cases db.customerMappings.find? c' <;> rfl
      exact (ih fun write' hmem => h write' (List.mem_cons_of_mem _ hmem)).trans hfirst

/-- The subscriptions of other customers are left alone. -/
theorem contracts_foldl_other {sub : String} {mapping : SubscriptionMapping}
    (h : ∀ write ∈ ws, Concerns row write)
    (hc : concerned row ≠ some mapping.stripeCustomerId) :
    (ws.foldl Postgres.apply db).subscriptionMappings.find? sub = some mapping ↔
      db.subscriptionMappings.find? sub = some mapping := by
  refine ⟨fun hfind => ?_, subscription_foldl_apply ws⟩
  induction ws generalizing db with
  | nil => exact hfind
  | cons write ws ih =>
      have hrest := ih (fun write' hmem => h write' (List.mem_cons_of_mem _ hmem)) hfind
      have hwrite := h write List.mem_cons_self
      rcases subscription_of_apply (Table.find?_mem hrest) with hmem | rfl
      · rw [← Table.find?_key hrest]
        exact Table.find?_of_mem hmem
      · exact absurd hwrite.1 hc

variable {σ : Service} {env : Env} {w w' : World σ.metronome} {timing : Timing}

/-- What an attempt commits is the work of its decision. -/
theorem flushed_of_writesOf {settings : Settings} {tiers : TierTable} {ρ : Surroundings}
    {write : Write} (h : write ∈ writesOf (ρ.attempt settings tiers row)) :
    write ∈ (decidedWork ρ (decision settings tiers ρ row)).1.flushed := by
  obtain ⟨hwork, hpending⟩ := @attempt_work settings tiers ρ row
  have hflushed := congrArg Work.flushed hwork
  simp only [workOf] at hflushed
  rw [← hflushed]
  unfold writesOf at h
  split at h
  · split at h
    · cases h
    · rw [hpending, List.append_nil] at h
      exact h
  · cases h

/-- **The work of an attempt** is about what the event is about. -/
theorem concerned_work (hown : OwnRows w) :
    (∀ request ∈ calls ((meets env timing w).attempt env.settings env.tiers row).1,
        concerned row = some (σ.named request)) ∧
      ∀ write ∈ writesOf ((meets env timing w).attempt env.settings env.tiers row),
        Concerns row write := by
  have hcalls :=
    congrArg Work.calls (@attempt_work env.settings env.tiers (meets env timing w) row).1
  simp only [workOf] at hcalls
  have hwrites := @flushed_of_writesOf row env.settings env.tiers (meets env timing w)
  rw [hcalls]
  rcases hd : decision env.settings env.tiers (meets env timing w) row with
    exc | _ | result | call
  all_goals rw [hd] at hwrites
  · exact ⟨fun _ hmem => (by cases hmem), fun _ hmem => (by cases hwrites hmem)⟩
  · exact ⟨fun _ hmem => (by cases hmem), fun _ hmem => (by cases hwrites hmem)⟩
  · exact ⟨fun _ hmem => (by cases hmem), fun _ hmem => (by cases hwrites hmem)⟩
  · have hnamed := named_of_decision (σ := σ) (ρ := meets env timing w) hown.customer hd
    refine ⟨fun request hmem => ?_, fun write hmem => ?_⟩
    · rw [decidedWork, calls_storedWork, List.mem_reverse] at hmem
      rw [hnamed _ request hmem]
      exact concerned_of_decision hd
    · have hwrite := hwrites hmem
      simp only [decidedWork] at hwrite
      cases hrecorded : call.answer (call.first (meets env timing w))
          (call.second (meets env timing w)) with
      | error exc =>
          rw [hrecorded] at hwrite
          cases hwrite
      | ok recorded =>
          rw [hrecorded, storedWork] at hwrite
          split at hwrite
          · cases hwrite
          · rw [List.mem_singleton.mp hwrite]
            exact (recorded_spec (ρ := meets env timing w) hown.customer
              answered_by_service hd
              hrecorded _).1

/-- **An event leaves other customers alone.** -/
structure LeftAlone (row : WebhookEvent) (w w' : World σ.metronome) : Prop where
  customer : ∀ c, concerned row ≠ some c →
    w'.db.customerMappings.find? c = w.db.customerMappings.find? c
  subscription : ∀ sub, subscriptionOf row ≠ some sub →
    w'.db.subscriptionMappings.find? sub = w.db.subscriptionMappings.find? sub
  contracts : ∀ sub mapping, concerned row ≠ some mapping.stripeCustomerId →
    (w'.db.subscriptionMappings.find? sub = some mapping ↔
      w.db.subscriptionMappings.find? sub = some mapping)
  objects : ∀ c, concerned row ≠ some c → objectsOf w' c = objectsOf w c

/-- **The processing of an event**, row by row and customer by customer. -/
structure Leaves (run : Session × Except PyExc Unit) (row : WebhookEvent)
    (w w' : World σ.metronome) : Prop where
  events : ∀ e, w'.db.webhookEvents.find? e =
    if row.stripeEventId = e then some (eventOf row run) else w.db.webhookEvents.find? e
  customers : ∀ c, w'.db.customerMappings.find? c =
    ((writesOf run).foldl Postgres.apply w.db).customerMappings.find? c
  subscriptions : ∀ sub, w'.db.subscriptionMappings.find? sub =
    ((writesOf run).foldl Postgres.apply w.db).subscriptionMappings.find? sub
  objects : objectsOf w' = σ.after (objectsOf w) (calls run.1)

theorem processed_leaves {eventId : String} (hinv : WorldInv env w)
    (h : Processed env timing eventId w w') :
    ∃ row, w.db.webhookEvents.find? eventId = some row ∧
      Leaves ((meets env timing w).attempt env.settings env.tiers row) row w w' := by
  obtain ⟨row, hrow, hrows, hobjects⟩ := processed_spec hinv h
  refine ⟨row, hrow, ?_, fun c => ?_, fun sub => ?_, hobjects⟩
  · have hkey : row.stripeEventId = eventId := Table.find?_key hrow
    subst hkey
    have hsame := (@sameEnd_of_work env.settings env.tiers (meets env timing w)
      (meets env timing w) row rfl rfl rfl).2
    intro e
    rw [hrows.events e, afterAttempt_events hrow hsame]
  · rw [hrows.customers c, (afterAttempt_mappings _ _).1]
  · rw [hrows.subscriptions sub, (afterAttempt_mappings _ _).2]

theorem leftAlone_of_leaves (hown : OwnRows w)
    (h : Leaves ((meets env timing w).attempt env.settings env.tiers row) row w w') :
    LeftAlone row w w' := by
  obtain ⟨hcalls, hwrites⟩ := @concerned_work row σ env w timing hown
  refine ⟨fun c hc => ?_, fun sub hsub => ?_, fun sub mapping hc => ?_, fun c hc => ?_⟩
  · rw [h.customers c, customer_foldl_other hwrites hc]
  · rw [h.subscriptions sub, subscription_foldl_other hwrites hsub]
  · rw [h.subscriptions sub, contracts_foldl_other hwrites hc]
  · rw [h.objects]
    exact after_other fun request hmem heq => hc (heq ▸ hcalls request hmem)

/-- What one event leaves alone, an independent one finds as it was. -/
theorem alike_of_leftAlone {row' : WebhookEvent} (h : LeftAlone row w w')
    (hleaves : Leaves ((meets env timing w).attempt env.settings env.tiers row) row w w')
    (hind : Independent row row') : Alike row' w w' where
  customer c hc := h.customer c fun hc' => hind.customer c hc' hc
  subscription sub hsub := h.subscription sub fun hsub' =>
    hind.subscription sub hsub' hsub
  contracts c hc sub mapping hmapping :=
    h.contracts sub mapping fun hc' => hind.customer _ hc' (hmapping ▸ hc)
  stays c customer hfind := by
    rw [hleaves.customers c]
    exact customer_foldl_apply _ hfind
  objects c hc := h.objects c fun hc' => hind.customer c hc' hc

end Frame

/-! ## Commutation -/

section Commute

variable {σ : Service} {env : Env} {w₀ w w₁ w₂ w₁₂ w₂₁ : World σ.metronome}
  {timing₁ timing₂ : Timing} {row₁ row₂ : WebhookEvent}
  {run₂ run₂' : Session × Except PyExc Unit}

/-- Where the first event has no part, the second leaves the same before it and
after it. -/
theorem same_outside (halone : LeftAlone row₁ w w₁) (halone' : LeftAlone row₁ w₂ w₂₁)
    (hleaves : Leaves run₂ row₂ w w₂) (hleaves' : Leaves run₂' row₂ w₁ w₁₂)
    (hsame : SameEnd row₂ run₂ run₂') :
    (∀ c, concerned row₁ ≠ some c →
      w₁₂.db.customerMappings.find? c = w₂₁.db.customerMappings.find? c) ∧
    (∀ sub, subscriptionOf row₁ ≠ some sub →
      w₁₂.db.subscriptionMappings.find? sub = w₂₁.db.subscriptionMappings.find? sub) ∧
    ∀ c, concerned row₁ ≠ some c → objectsOf w₁₂ c = objectsOf w₂₁ c := by
  refine ⟨fun c hc => ?_, fun sub hsub => ?_, fun c hc => ?_⟩
  · rw [halone'.customer c hc, hleaves.customers c, hleaves'.customers c, hsame.writes]
    exact customer_foldl_congr _ (halone.customer c hc)
  · rw [halone'.subscription sub hsub, hleaves.subscriptions sub,
      hleaves'.subscriptions sub, hsame.writes]
    exact subscription_foldl_congr _ (halone.subscription sub hsub)
  · rw [halone'.objects c hc, hleaves.objects, hleaves'.objects, hsame.calls]
    exact after_congr (halone.objects c hc) _

/-- Attempts on an event end in the same way before and after an independent
event. -/
theorem sameEnd_of_alike (h : Alike row₂ w w₁) (hown : OwnRows w) (hown₁ : OwnRows w₁) :
    SameEnd row₂ ((meets env timing₂ w).attempt env.settings env.tiers row₂)
      ((meets env timing₂ w₁).attempt env.settings env.tiers row₂) :=
  (@sameEnd_of_work env.settings env.tiers (meets env timing₂ w) (meets env timing₂ w₁)
    row₂ rfl rfl
    (work_agrees h hown hown₁)).1

/-- Two events that are ready can be processed one after the other, while no
worker is at work. -/
theorem processed_both (hinv : WorldInv env w) (hown : OwnRows w) (hquiet : Quiet w)
    (hrow₁ : w.db.webhookEvents.find? row₁.stripeEventId = some row₁)
    (hrow₂ : w.db.webhookEvents.find? row₂.stripeEventId = some row₂)
    (hne : row₁.stripeEventId ≠ row₂.stripeEventId)
    (hready₁ : Postgres.ready timing₁.claimedAt row₁ = true)
    (hready₂ : Postgres.ready timing₂.claimedAt row₂ = true)
    (hfair₁ : timing₁.Fair) (hfair₂ : timing₂.Fair) :
    ∃ w₁ w₁₂, Processed env timing₁ row₁.stripeEventId w w₁ ∧
      Processed env timing₂ row₂.stripeEventId w₁ w₁₂ := by
  obtain ⟨w₁, h₁, hquiet₁⟩ := processed_exists 0 hinv hquiet hfair₁ hrow₁ hready₁
  obtain ⟨hinv₁, _⟩ := h₁.invariant hinv hown
  obtain ⟨r₁, hr₁, hleaves₁⟩ := processed_leaves hinv h₁
  cases hrow₁.symm.trans hr₁
  have hrow₂' : w₁.db.webhookEvents.find? row₂.stripeEventId = some row₂ := by
    rw [hleaves₁.events, if_neg hne, hrow₂]
  obtain ⟨w₁₂, h₁₂, _⟩ := processed_exists 0 hinv₁ hquiet₁ hfair₂ hrow₂' hready₂
  exact ⟨w₁, w₁₂, h₁, h₁₂⟩

/-- **Events of different customers commute**, each being processed with the same
`Timing` in both orders. -/
theorem events_commute (h : Reaches (step env σ.metronome) w₀ w) (h₀ : Initial w₀)
    (hrow₁ : w.db.webhookEvents.find? row₁.stripeEventId = some row₁)
    (hrow₂ : w.db.webhookEvents.find? row₂.stripeEventId = some row₂)
    (hne : row₁.stripeEventId ≠ row₂.stripeEventId) (hind : Independent row₁ row₂)
    (h₁ : Processed env timing₁ row₁.stripeEventId w w₁)
    (h₁₂ : Processed env timing₂ row₂.stripeEventId w₁ w₁₂)
    (h₂ : Processed env timing₂ row₂.stripeEventId w w₂)
    (h₂₁ : Processed env timing₁ row₁.stripeEventId w₂ w₂₁) :
    SameRows w₁₂.db w₂₁.db ∧ objectsOf w₁₂ = objectsOf w₂₁ ∧ LeftAlone row₁ w w₁ := by
  have hinv := worldInv_of_path h h₀
  have hown := ownRows_of_path h h₀
  obtain ⟨hinv₁, hown₁⟩ := h₁.invariant hinv hown
  obtain ⟨hinv₂, hown₂⟩ := h₂.invariant hinv hown
  -- each event by itself, and what it leaves to the other
  obtain ⟨r₁, hr₁, hleaves₁⟩ := processed_leaves hinv h₁
  obtain ⟨r₂, hr₂, hleaves₂⟩ := processed_leaves hinv h₂
  cases hrow₁.symm.trans hr₁
  cases hrow₂.symm.trans hr₂
  have halone₁ := leftAlone_of_leaves hown hleaves₁
  have halone₂ := leftAlone_of_leaves hown hleaves₂
  -- each event after the other
  obtain ⟨r₂', hr₂', hleaves₁₂⟩ := processed_leaves hinv₁ h₁₂
  obtain ⟨r₁', hr₁', hleaves₂₁⟩ := processed_leaves hinv₂ h₂₁
  rw [hleaves₁.events, if_neg hne, hrow₂] at hr₂'
  rw [hleaves₂.events, if_neg hne.symm, hrow₁] at hr₁'
  cases hr₂'
  cases hr₁'
  have halone₁₂ := leftAlone_of_leaves hown₁ hleaves₁₂
  have halone₂₁ := leftAlone_of_leaves hown₂ hleaves₂₁
  have hsame₂ := @sameEnd_of_alike σ env w w₁ timing₂ row₂
    (alike_of_leftAlone halone₁ hleaves₁ hind) hown hown₁
  have hsame₁ := @sameEnd_of_alike σ env w w₂ timing₁ row₁
    (alike_of_leftAlone halone₂ hleaves₂ hind.symm) hown hown₂
  obtain ⟨hcustomer, hsubscription, hobjects⟩ :=
    same_outside halone₁ halone₂₁ hleaves₂ hleaves₁₂ hsame₂
  obtain ⟨hcustomer', hsubscription', hobjects'⟩ :=
    same_outside halone₂ halone₁₂ hleaves₁ hleaves₂₁ hsame₁
  refine ⟨⟨fun e => ?_, fun c => ?_, fun sub => ?_⟩, ?_, halone₁⟩
  · rw [hleaves₁₂.events e, hleaves₂₁.events e, hleaves₁.events e, hleaves₂.events e,
      hsame₁.event, hsame₂.event]
    by_cases he₁ : row₁.stripeEventId = e
    · by_cases he₂ : row₂.stripeEventId = e
      · exact absurd (he₁.trans he₂.symm) hne
      · rw [if_neg he₂, if_pos he₁, if_pos he₁]
    · rw [if_neg he₁, if_neg he₁]
  · by_cases hc : concerned row₁ = some c
    · exact (hcustomer' c (hind.customer c hc)).symm
    · exact hcustomer c hc
  · by_cases hsub : subscriptionOf row₁ = some sub
    · exact (hsubscription' sub (hind.subscription sub hsub)).symm
    · exact hsubscription sub hsub
  · funext c
    by_cases hc : concerned row₁ = some c
    · exact (hobjects' c (hind.customer c hc)).symm
    · exact hobjects c hc

end Commute

/-! ## Two customers -/

/-- An answer with an id has no other. -/
theorem id_of_okWithId {id id' : String} (h : Answers (okWithId id) id') : id = id' := by
  obtain ⟨response, heq, hid⟩ := h
  cases heq
  have hattribute : idByAttribute (.dict [("data", .dict [("id", .str id)])]) = none :=
    rfl
  have hkey : idByKey (.dict [("data", .dict [("id", .str id)])]) =
      if id = "" then none else some id := rfl
  simp only [extractId, hattribute, hkey] at hid
  by_cases hempty : id = ""
  · rw [if_pos hempty] at hid
    cases hid
  · rw [if_neg hempty] at hid
    cases hid
    rfl

/-- A Metronome that names customers after their aliases, and contracts after
their customers; it keeps the requests. -/
def ledger : Service where
  Objects := List MetronomeRequest
  answer _ request :=
    match request with
    | .createCustomer body => okWithId (body.ingestAliases.headD "")
    | .setName _ _ => .ok .none
    | .createContract body => okWithId body.customerId
    | .listContracts _ => .ok (.list [])
  effect objects request := request :: objects
  customerOf metronomeCustomerId := metronomeCustomerId
  contractOf contractId := contractId
  created _ body id h := (id_of_okWithId h).symm
  contracted _ body id h := (id_of_okWithId h).symm
  listed _ metronomeCustomerId response h contract hmem := by
    cases h
    cases hmem

def graceCreated : Delivery :=
  customerDelivery "evt_2" "customer.created" 2 "cus_2" "Grace"

noncomputable def emptyLedger : World ledger.metronome where
  now := 0
  db := .empty
  workers _ := .idle
  remote := ⟨fun _ => [], fun _ => none⟩
  tickets := 0
  history := []

/-- Two customers have been created in Stripe, and no event processed. -/
noncomputable def adaAndGrace : World ledger.metronome :=
  (runWhen (step (installation [adaCreated, graceCreated]) _)
    (fun _ label => match label with
      | .webhook _ => true
      | _ => false) emptyLedger
    [.webhook adaCreated.request, .webhook graceCreated.request]).getD emptyLedger

theorem adaAndGrace_spec :
    Reaches (step (installation [adaCreated, graceCreated]) _) emptyLedger adaAndGrace ∧
      Quiet adaAndGrace := by
  have hpath : Path (step (installation [adaCreated, graceCreated]) ledger.metronome)
      (fun _ label => ∃ request, label = .webhook request) emptyLedger adaAndGrace := by
    refine path_runWhen_getD (fun _ label hlabel => ?_) _ _
    cases label with
    | webhook request => exact ⟨request, rfl⟩
    | _ => cases hlabel
  refine ⟨hpath.reaches, hpath.invariant (I := Quiet) ?_ fun _ => rfl⟩
  intro x label y hc hx hy
  obtain ⟨request, rfl⟩ := hc
  cases step_sound hy with
  | ignored _ => exact hx
  | received _ _ => exact hx

/-- Two delays and a second. -/
def twoSeconds : Timing where
  claimedAt := 2
  clock _ := 2
  draw hi := match hi with
    | .fin _ => .fin 0
    | hi => hi

theorem fair_twoSeconds : twoSeconds.Fair := by
  intro hi h
  cases hi with
  | fin q =>
      have hq : (1 : Rat) ≤ q := of_decide_eq_true h
      have hzero : (0 : Rat) ≤ q := zero_le_one.trans hq
      exact Bool.and_eq_true_iff.mpr ⟨decide_eq_true (le_refl 0), decide_eq_true hzero⟩
  | inf => rfl
  | nan => rfl

theorem events_commute_adaAndGrace :
    ∃ w₁ w₁₂ w₂ w₂₁,
      Processed (installation [adaCreated, graceCreated]) twoSeconds "evt_1"
        adaAndGrace w₁ ∧
      Processed (installation [adaCreated, graceCreated]) twoSeconds "evt_2" w₁ w₁₂ ∧
      Processed (installation [adaCreated, graceCreated]) twoSeconds "evt_2"
        adaAndGrace w₂ ∧
      Processed (installation [adaCreated, graceCreated]) twoSeconds "evt_1" w₂ w₂₁ ∧
      SameRows w₁₂.db w₂₁.db ∧ objectsOf w₁₂ = objectsOf w₂₁ := by
  obtain ⟨hreaches, hquiet⟩ := adaAndGrace_spec
  have hinitial : Initial emptyLedger := ⟨rfl, fun _ => rfl, rfl, rfl⟩
  have hinv := worldInv_of_path hreaches hinitial
  have hown := ownRows_of_path hreaches hinitial
  have hada : (adaAndGrace.db.webhookEvents.find? "evt_1").map (fun row =>
      (concerned row, subscriptionOf row, Postgres.ready 2 row)) =
        some (some "cus_1", none, true) := by decide +kernel
  have hgrace : (adaAndGrace.db.webhookEvents.find? "evt_2").map (fun row =>
      (concerned row, subscriptionOf row, Postgres.ready 2 row)) =
        some (some "cus_2", none, true) := by decide +kernel
  obtain ⟨row₁, hrow₁, hspec₁⟩ := Option.map_eq_some_iff.mp hada
  obtain ⟨row₂, hrow₂, hspec₂⟩ := Option.map_eq_some_iff.mp hgrace
  obtain ⟨hc₁, hspec₁⟩ := Prod.mk.inj hspec₁
  obtain ⟨hc₂, hspec₂⟩ := Prod.mk.inj hspec₂
  obtain ⟨hsub₁, hready₁⟩ := Prod.mk.inj hspec₁
  obtain ⟨hsub₂, hready₂⟩ := Prod.mk.inj hspec₂
  have hid₁ : row₁.stripeEventId = "evt_1" := Table.find?_key hrow₁
  have hid₂ : row₂.stripeEventId = "evt_2" := Table.find?_key hrow₂
  have hne : row₁.stripeEventId ≠ row₂.stripeEventId := by
    rw [hid₁, hid₂]
    decide
  have hind : Independent row₁ row₂ := by
    refine ⟨fun c h₁ h₂ => ?_, fun sub h₁ _ => ?_⟩
    · rw [hc₁] at h₁
      rw [hc₂, ← h₁] at h₂
      exact absurd h₂ (by decide)
    · rw [hsub₁] at h₁
      cases h₁
  rw [← hid₁] at hrow₁
  rw [← hid₂] at hrow₂
  obtain ⟨w₁, w₁₂, h₁, h₁₂⟩ :=
    processed_both (w := adaAndGrace) hinv hown hquiet hrow₁ hrow₂ hne
    hready₁ hready₂ fair_twoSeconds fair_twoSeconds
  obtain ⟨w₂, w₂₁, h₂, h₂₁⟩ :=
    processed_both (w := adaAndGrace) hinv hown hquiet hrow₂ hrow₁
    hne.symm hready₂ hready₁ fair_twoSeconds fair_twoSeconds
  obtain ⟨hrows, hobjects, _⟩ :=
    events_commute hreaches hinitial hrow₁ hrow₂ hne hind h₁ h₁₂ h₂ h₂₁
  rw [hid₁] at h₁ h₂₁
  rw [hid₂] at h₂ h₁₂
  exact ⟨w₁, w₁₂, w₂, w₂₁, h₁, h₁₂, h₂, h₂₁, hrows, hobjects⟩

end Sidecar.Ports.Independence
