import Sidecar.Verified.Backdating
import Sidecar.Ports.Independence
import Sidecar.Ports.Isolation

/-!
# One attempt after the other

The serial system: events arrive, the operator replays some, and every attempt
is made from the claim to the commit with nobody else at work.  Metronome, the
clock and the draw are free in every turn.

## Main results

* `takeTurn_isolated` — an attempt among others is a turn wherever it would
  have found the same rows.
* `besides_turn` — an attempt that has written no mapping is out of the way of
  every turn of another event.
* `customer_run` — a mapped customer stays mapped.
-/

namespace Sidecar.Ports.Serial

open Sidecar.Verified.KeyedTable
open Sidecar.Verified.Resumption
open Sidecar.Verified.Transition
open Sidecar.Verified.Backdating
open Sidecar.Ports.Python
open Sidecar.Ports.Config
open Sidecar.Ports.Models
open Sidecar.Ports.Effects
open Sidecar.Ports.Worker
open Sidecar.Ports.Receiver
open Sidecar.Ports.System
open Sidecar.Ports.Execution
open Sidecar.Ports.Transactions
open Sidecar.Ports.Plans
open Sidecar.Ports.Outcomes
open Sidecar.Ports.Traffic
open Sidecar.Ports.Solo
open Sidecar.Ports.Independence
open Sidecar.Ports.Lookups
open Sidecar.Ports.Isolation

/-! ## The serial system -/

/-- An event arrives, the operator replays one, or one that is ready is claimed
and attempted. -/
inductive Turn where
  | received (now : Time) (eventId eventType : String) (payload : JsonObject)
  | replayed (now : Time) (eventId : String)
  | attempt (now : Time) (eventId : String) (course : Course)

/-- The event that a turn is about. -/
def Turn.eventId : Turn → String
  | .received _ eventId _ _ | .replayed _ eventId | .attempt _ eventId _ => eventId

/-- A committed attempt: the event row that it left, and what it logged. -/
abbrev Account := WebhookEvent × Option Completed

/-- The state of the serial system: the tables and the accounts. -/
structure Books where
  db : Postgres
  /-- The committed attempts, the last one first. -/
  accounts : List Account

/-- Nothing has been received. -/
def Books.empty : Books := ⟨.empty, []⟩

/-- The transaction of an attempt ends with its commit. -/
def Books.commit (b : Books) (run : Session × Except PyExc Unit) : Option Books :=
  match run.2 with
  | .ok _ =>
      if run.1.poisoned then none
      else some ⟨afterAttempt b.db run, (run.1.event, run.1.result) :: b.accounts⟩
  | .error _ => none

/-- The books with another table of events. -/
def Books.withEvents (b : Books)
    (events : Table String WebhookEvent WebhookEvent.stripeEventId) : Books :=
  { b with db := { b.db with webhookEvents := events } }

/-- What an attempt finds that is made now. -/
def Books.surroundings (env : Env) (b : Books) (course : Course) : Surroundings :=
  ofDb b.db env.enforceFk course.outcome course.clock course.draw

/-- One turn: each is one transaction, from its start to its commit. -/
def takeTurn (env : Env) (b : Books) : Turn → Option Books
  | .received now eventId eventType payload =>
      match b.db.webhookEvents.find? eventId with
      | some _ => none
      | none => some (b.withEvents
          (b.db.webhookEvents.insertNew (newEvent now eventId eventType payload)))
  | .replayed now eventId =>
      match b.db.webhookEvents.find? eventId with
      | some row =>
          if row.status = .FAILED then
            some (b.withEvents (b.db.webhookEvents.update (System.replayed now row)))
          else none
      | none => none
  | .attempt now eventId course =>
      match b.db.webhookEvents.find? eventId with
      | some row =>
          if Postgres.ready now row then
            b.commit ((b.surroundings env course).attempt env.settings env.tiers row)
          else none
      | none => none

/-! ## Turns -/

section Turns

variable {env : Env} {b b' : Books} {s : Session} {row : WebhookEvent} {a : Unit}

/-- The accounts of one event. -/
def accountsOf (e : String) (accounts : List Account) : List Account :=
  accounts.filter fun account => account.1.stripeEventId = e

/-- The account in an entry of the history. -/
def accountOf : Entry → Option Account
  | .attempted event _ result => some (event, result)
  | _ => none

/-- What a turn that is an attempt like `s` makes of the books. -/
structure Attempted (b : Books) (s : Session) (b' : Books) : Prop where
  customers : b'.db.customerMappings =
    (s.flushed.foldl Postgres.apply b.db).customerMappings
  subscriptions :
    b'.db.subscriptionMappings =
      (s.flushed.foldl Postgres.apply b.db).subscriptionMappings
  events : ∀ e, b'.db.webhookEvents.find? e =
    if s.event.stripeEventId = e then some s.event else b.db.webhookEvents.find? e
  accounts : ∀ e, accountsOf e b'.accounts =
    accountsOf e ((s.event, s.result) :: b.accounts)

theorem sameEvent_of_attempt {settings : Settings} {tiers : TierTable}
    {ρ : Surroundings} :
    SameEvent row (eventOf row (ρ.attempt settings tiers row)) :=
  (@sameEnd_of_work settings tiers ρ ρ row rfl rfl rfl).2

/-- A turn that is an attempt. -/
theorem takeTurn_attempt {course : Course} {now : Time}
    (hrow : b.db.webhookEvents.find? row.stripeEventId = some row)
    (hready : Postgres.ready now row = true)
    (hrun : (b.surroundings env course).attempt env.settings env.tiers row = (s, .ok a))
    (hp : s.poisoned = false) (hpending : s.pending = []) :
    ∃ b', takeTurn env b (.attempt now row.stripeEventId course) = some b' ∧
      Attempted b s b' := by
  have hsame : SameEvent row (eventOf row (s, .ok a)) := hrun ▸ sameEvent_of_attempt
  have hevent : eventOf row (s, .ok a) = s.event := by
    unfold eventOf
    dsimp only
    rw [if_neg (Bool.not_eq_true _ ▸ hp)]
  have hwrites : writesOf (s, .ok a) = s.flushed := by
    unfold writesOf
    dsimp only
    rw [if_neg (Bool.not_eq_true _ ▸ hp), hpending, List.append_nil]
  refine ⟨⟨afterAttempt b.db (s, .ok a), (s.event, s.result) :: b.accounts⟩, ?_, ?_⟩
  · simp only [takeTurn, hrow, hready, if_true, hrun, Books.commit, hp,
      Bool.false_eq_true, if_false]
  · obtain ⟨hc, hs⟩ := afterAttempt_mappings b.db (s, .ok a)
    rw [hwrites] at hc hs
    refine ⟨hc, hs, fun e => ?_, fun _ => rfl⟩
    rw [afterAttempt_events hrow hsame, hevent]
    rw [hevent] at hsame
    rw [hsame.1]

/-- What has been found is in the tables.  Whether a customer has been renamed
meanwhile makes no difference. -/
def Stands (db : Postgres) : Fact → Prop
  | .customerRow c found => (db.customerMappings.find? c).map ids = found.map ids
  | .subscriptionRow sub found => db.subscriptionMappings.find? sub = found
  | _ => True

theorem matches_of_stands {course : Course} (h : ∀ f ∈ rowsRead s, Stands b.db f) :
    Matches (b.surroundings env course) s := by
  intro f hf
  cases f with
  | customerRow c found => exact h _ (List.mem_filter.mpr ⟨hf, rfl⟩)
  | subscriptionRow sub found => exact h _ (List.mem_filter.mpr ⟨hf, rfl⟩)
  | _ => trivial

/-- **An attempt among others is a turn**, wherever it would find the same. -/
theorem takeTurn_isolated
    (h : Runs semantics (handleEvent env.settings env.tiers row) (.start row) (.ret a) s)
    (hrow : b.db.webhookEvents.find? row.stripeEventId = some row)
    (hstatus : row.status = .PENDING)
    (hfound : ∀ f ∈ rowsRead s, Stands b.db f)
    (hrefusal : ∀ write ∈ s.flushed, b.db.refusal env.enforceFk [] [write] = none) :
    ∃ course b', takeTurn env b (.attempt row.nextAttemptAt row.stripeEventId course) =
      some b' ∧
      Attempted b s b' := by
  have hp : s.poisoned = false := (h.always (handleEvent_always row)).here.1
  let idle : Course := ⟨fun _ => .apiError "", fun _ => 0, drawing .nan,
    drawing_fair .nan⟩
  obtain ⟨course, s', hrun, hwork, hevent, hpending⟩ := attempt_isolated h
    (@matches_of_stands env b s idle hfound) hrefusal
  have hp' : s'.poisoned = false := (congrArg Work.poisoned hwork).trans hp
  have hflushed : s'.flushed = s.flushed := congrArg Work.flushed hwork
  have hresult : s'.result = s.result := congrArg Work.result hwork
  have hready : Postgres.ready row.nextAttemptAt row = true := by
    simp [Postgres.ready, hstatus]
  obtain ⟨b', hturn, hb'⟩ :=
    @takeTurn_attempt env b s' row () course _ hrow hready hrun hp' hpending
  refine ⟨course, b', hturn, ?_⟩
  obtain ⟨hc, hs, he, ha⟩ := hb'
  rw [hflushed] at hc hs
  rw [hevent] at he ha
  rw [hresult] at ha
  exact ⟨hc, hs, he, ha⟩

end Turns

/-! ## A turn besides -/

section Besides

variable {env : Env} {b b' c c' : Books} {t : Turn} {e : String} {account : Account}

theorem customers_foldl_eq {db db' : Postgres} (ws : List Write)
    (h : db'.customerMappings = db.customerMappings) :
    (ws.foldl Postgres.apply db').customerMappings =
      (ws.foldl Postgres.apply db).customerMappings := by
  induction ws generalizing db db' with
  | nil => exact h
  | cons w ws ih =>
      refine ih ?_
      cases w with
      | insertCustomer row => exact congrArg (Table.insertNew · row) h
      | insertSubscription row => exact h
      | touchCustomer c now =>
          simp only [Postgres.apply, h]
          cases db.customerMappings.find? c with
          | none => exact h
          | some row => rfl

theorem subscriptions_foldl_eq {db db' : Postgres} (ws : List Write)
    (h : db'.subscriptionMappings = db.subscriptionMappings) :
    (ws.foldl Postgres.apply db').subscriptionMappings =
      (ws.foldl Postgres.apply db).subscriptionMappings := by
  induction ws generalizing db db' with
  | nil => exact h
  | cons w ws ih =>
      refine ih ?_
      cases w with
      | insertCustomer row => exact h
      | insertSubscription row => exact congrArg (Table.insertNew · row) h
      | touchCustomer c now =>
          simp only [Postgres.apply]
          cases db.customerMappings.find? c <;>
            cases db'.customerMappings.find? c <;> exact h

/-- An attempt on `e` that has written no mapping has been made besides. -/
structure Besides (e : String) (account : Account) (b b' : Books) : Prop where
  customers : b'.db.customerMappings = b.db.customerMappings
  subscriptions : b'.db.subscriptionMappings = b.db.subscriptionMappings
  others : ∀ e', e' ≠ e → b'.db.webhookEvents.find? e' = b.db.webhookEvents.find? e'
  event : b'.db.webhookEvents.find? e = some account.1
  otherAccounts : ∀ e', e' ≠ e → accountsOf e' b'.accounts = accountsOf e' b.accounts
  account : accountsOf e b'.accounts = account :: accountsOf e b.accounts

theorem accountsOf_self (account : Account) (accounts : List Account) :
    accountsOf account.1.stripeEventId (account :: accounts) =
      account :: accountsOf account.1.stripeEventId accounts := by
  simp [accountsOf]

theorem accountsOf_ne {account : Account} {e : String} (h : e ≠ account.1.stripeEventId)
    (accounts : List Account) :
    accountsOf e (account :: accounts) = accountsOf e accounts := by
  simp [accountsOf, h.symm]

/-- The surroundings are made of the mapping tables. -/
theorem surroundings_congr {course : Course}
    (hc : b'.db.customerMappings = b.db.customerMappings)
    (hs : b'.db.subscriptionMappings = b.db.subscriptionMappings) :
    b'.surroundings env course = b.surroundings env course := by
  have hrefusal : b'.db.refusal env.enforceFk [] = b.db.refusal env.enforceFk [] :=
    funext fun _ => refusal_congr hc hs
  unfold Books.surroundings ofDb
  simp only [hc, hs, hrefusal]

theorem commit_eq_some {run : Session × Except PyExc Unit} (h : b.commit run = some b') :
    run.1.poisoned = false ∧ (∃ a, run.2 = .ok a) ∧
      b' = ⟨afterAttempt b.db run, (run.1.event, run.1.result) :: b.accounts⟩ := by
  unfold Books.commit at h
  split at h
  · next a ha =>
      split at h
      · cases h
      · next hp =>
          cases h
          exact ⟨Bool.eq_false_of_not_eq_true hp, ⟨a, ha⟩, rfl⟩
  · cases h

/-- What a turn that is an attempt can be. -/
theorem attempt_cases {now : Time} {e' : String} {course : Course}
    (h : takeTurn env b (.attempt now e' course) = some c) :
    ∃ row run, b.db.webhookEvents.find? e' = some row ∧ row.stripeEventId = e' ∧
      Postgres.ready now row = true ∧
      run = (b.surroundings env course).attempt env.settings env.tiers row ∧
      b.commit run = some c ∧ eventOf row run = run.1.event ∧
      SameEvent row run.1.event := by
  simp only [takeTurn] at h
  split at h
  · next row hrow =>
      split at h
      · next hready =>
          obtain ⟨hp, ⟨a, ha⟩, _⟩ := commit_eq_some h
          have hevent :
              eventOf row
                ((b.surroundings env course).attempt env.settings env.tiers row) =
              ((b.surroundings env course).attempt env.settings env.tiers row).1.event := by
            unfold eventOf
            rw [ha]
            dsimp only
            rw [if_neg (Bool.not_eq_true _ ▸ hp)]
          exact ⟨row, _, hrow, Table.find?_key hrow, hready, rfl, h, hevent,
            hevent ▸ sameEvent_of_attempt⟩
      · cases h
  · cases h

theorem besides_attempt {now : Time} {e' : String} {course : Course}
    (h : Besides e account b b')
    (hne : e' ≠ e) (ht : takeTurn env b (.attempt now e' course) = some c) :
    ∃ c', takeTurn env b' (.attempt now e' course) = some c' ∧
    Besides e account c c' := by
  obtain ⟨row, run, hrow, hkey, hready, hrun, hcommit, hevent, hsame⟩ := attempt_cases ht
  subst hkey
  obtain ⟨hp, ⟨a, ha⟩, rfl⟩ := commit_eq_some hcommit
  have hrow' := (h.others _ hne).trans hrow
  have hid := hsame.1
  refine ⟨⟨afterAttempt b'.db run, (run.1.event, run.1.result) :: b'.accounts⟩, ?_, ?_⟩
  · simp only [takeTurn, hrow', hready, if_true,
      surroundings_congr h.customers h.subscriptions,
      ← hrun, Books.commit, ha, hp, Bool.false_eq_true, if_false]
  · obtain ⟨hc, hs⟩ := afterAttempt_mappings b.db run
    obtain ⟨hc', hs'⟩ := afterAttempt_mappings b'.db run
    have hsame' : SameEvent row (eventOf row run) := hevent.symm ▸ hsame
    refine ⟨?_, ?_, fun e'' he'' => ?_, ?_, fun e'' he'' => ?_, ?_⟩
    · exact hc'.trans ((customers_foldl_eq _ h.customers).trans hc.symm)
    · exact hs'.trans ((subscriptions_foldl_eq _ h.subscriptions).trans hs.symm)
    · show (afterAttempt b'.db run).webhookEvents.find? e'' = _
      rw [afterAttempt_events hrow' hsame', afterAttempt_events hrow hsame',
        h.others e'' he'']
    · show (afterAttempt b'.db run).webhookEvents.find? e = _
      rw [afterAttempt_events hrow' hsame', if_neg hne, h.event]
    · by_cases heq : e'' = row.stripeEventId
      · subst heq
        rw [← hid, accountsOf_self (run.1.event, run.1.result),
          accountsOf_self (run.1.event, run.1.result), hid, h.otherAccounts _ he'']
      · have hne' : e'' ≠ run.1.event.stripeEventId := fun h => heq (h.trans hid)
        rw [accountsOf_ne hne', accountsOf_ne hne', h.otherAccounts _ he'']
    · have hne' : e ≠ run.1.event.stripeEventId := fun h => hne (hid.symm.trans h.symm)
      rw [accountsOf_ne hne', accountsOf_ne hne', h.account]

/-- **A turn of another event** is the same besides an attempt. -/
theorem besides_turn (h : Besides e account b b') (hne : t.eventId ≠ e)
    (ht : takeTurn env b t = some c) :
    ∃ c', takeTurn env b' t = some c' ∧ Besides e account c c' := by
  cases t with
  | received now e' eventType payload =>
      simp only [takeTurn] at ht
      have hfind := h.others e' hne
      cases hrow : b.db.webhookEvents.find? e' with
      | some row =>
          rw [hrow] at ht
          cases ht
      | none =>
          rw [hrow] at ht hfind
          cases ht
          exact ⟨b'.withEvents
            (b'.db.webhookEvents.insertNew (newEvent now e' eventType payload)),
            by simp only [takeTurn, hfind], h.customers, h.subscriptions,
            fun e'' he'' => Table.find?_insertNew_congr (h.others e'' he''),
            Table.find?_insertNew_of_some h.event, h.otherAccounts, h.account⟩
  | replayed now e' =>
      simp only [takeTurn] at ht
      have hfind := h.others e' hne
      cases hrow : b.db.webhookEvents.find? e' with
      | none =>
          rw [hrow] at ht
          cases ht
      | some row =>
          rw [hrow] at ht hfind
          dsimp only at ht
          split at ht
          · next hstatus =>
              cases ht
              have hother : (System.replayed now row).stripeEventId ≠ e := fun heq =>
                hne ((Table.find?_key hrow).symm.trans heq)
              refine ⟨b'.withEvents
                (b'.db.webhookEvents.update (System.replayed now row)),
                by simp only [takeTurn, hfind, hstatus, if_true], h.customers,
                h.subscriptions, fun e'' he'' => ?_, ?_, h.otherAccounts, h.account⟩
              · show (b'.db.webhookEvents.update _).find? e'' =
                  (b.db.webhookEvents.update _).find? e''
                rw [Table.find?_update, Table.find?_update, h.others e'' he'']
              · show (b'.db.webhookEvents.update _).find? e = _
                rw [Table.find?_update_ne hother, h.event]
          · cases ht
  | attempt now e' course => exact besides_attempt h hne ht

theorem carries_besides : Carries (takeTurn env) (Besides e account) fun t =>
    t.eventId ≠ e :=
  fun _ _ _ _ h hne ht => besides_turn h hne ht

end Besides

/-! ## Customers stay -/

section Stays

variable {env : Env} {b b' : Books} {t : Turn} {log : List Turn} {c : String}
  {mapping : CustomerMapping}

theorem customer_turn (h : takeTurn env b t = some b')
    (hrow : b.db.customerMappings.find? c = some mapping) :
    ∃ mapping', b'.db.customerMappings.find? c = some mapping' ∧
      mapping'.metronomeCustomerId = mapping.metronomeCustomerId := by
  cases t with
  | received now e eventType payload =>
      simp only [takeTurn] at h
      split at h
      · cases h
      · cases h
        exact ⟨mapping, hrow, rfl⟩
  | replayed now e =>
      simp only [takeTurn] at h
      split at h
      · split at h
        · cases h
          exact ⟨mapping, hrow, rfl⟩
        · cases h
      · cases h
  | attempt now e course =>
      obtain ⟨row, run, _, _, _, _, hcommit, _, _⟩ := attempt_cases h
      obtain ⟨_, _, rfl⟩ := commit_eq_some hcommit
      rw [(afterAttempt_mappings b.db run).1]
      exact customer_foldl_apply _ hrow

theorem customer_run (h : run (takeTurn env) b log = some b')
    (hrow : b.db.customerMappings.find? c = some mapping) :
    ∃ mapping', b'.db.customerMappings.find? c = some mapping' ∧
      mapping'.metronomeCustomerId = mapping.metronomeCustomerId := by
  induction log generalizing b mapping with
  | nil =>
      cases h
      exact ⟨mapping, hrow, rfl⟩
  | cons t ts ih =>
      obtain ⟨b₁, ht, hrest⟩ := Option.bind_eq_some_iff.mp h
      obtain ⟨mapping₁, hrow₁, hid₁⟩ := customer_turn ht hrow
      obtain ⟨mapping', hrow', hid'⟩ := ih hrest hrow₁
      exact ⟨mapping', hrow', hid'.trans hid₁⟩

end Stays

end Sidecar.Ports.Serial
