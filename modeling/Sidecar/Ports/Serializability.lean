import Sidecar.Ports.Serial

/-!
# The workers are serializable

Workers read the mapping tables while others write them: nothing but its own
event is locked while an attempt calls Metronome.  Still the tables are at any
time those of a serial run.  Every unfinished attempt has its place in the log
of that run, where it would have found what it has found.  An attempt that
writes a mapping is committed at the end of the log, since what it has found is
still true there.  An attempt that writes none is put into its place.

## Main results

* `placed_exec` — an attempt that goes on reading keeps a place in the log.
* `serialized_move` — every step keeps the books.
* `serializable` — the tables of every reachable state are those of a serial
  run, in which the attempts on each event come to the same in the same order.
-/

namespace Sidecar.Ports.Serializability

open Sidecar.Verified.KeyedTable
open Sidecar.Verified.Resumption
open Sidecar.Verified.Transition
open Sidecar.Verified.Backdating
open Sidecar.Ports.Python
open Sidecar.Ports.Models
open Sidecar.Ports.Effects
open Sidecar.Ports.Worker
open Sidecar.Ports.Receiver
open Sidecar.Ports.System
open Sidecar.Ports.Attempt
open Sidecar.Ports.Moves
open Sidecar.Ports.Transactions
open Sidecar.Ports.Invariant
open Sidecar.Ports.Mappings
open Sidecar.Ports.Calls
open Sidecar.Ports.FailedAttempts
open Sidecar.Ports.Solo
open Sidecar.Ports.Footprint
open Sidecar.Ports.Lookups
open Sidecar.Ports.Isolation
open Sidecar.Ports.Serial

/-! ## The place of a running attempt -/

section Placed

variable {env : Env} {M : Metronome} {w w' : World M} {log : List Turn} {a b : Books}
  {row : WebhookEvent} {seen : List Fact} {db : Postgres} {i : WorkerId} {s : Session}

/-- Where the attempt would have found the same. -/
structure Fits (row : WebhookEvent) (seen : List Fact) (b : Books) : Prop where
  row : b.db.webhookEvents.find? row.stripeEventId = some row
  found : ∀ f ∈ seen, Stands b.db f

/-- Where the subscription was not mapped and its customer was. -/
structure Awaiting (row : WebhookEvent) (sub c : String) (b : Books) : Prop where
  row : b.db.webhookEvents.find? row.stripeEventId = some row
  unmapped : b.db.subscriptionMappings.find? sub = none
  customer : ∃ mapping, b.db.customerMappings.find? c = some mapping

/-- Since then the log has held no turn of the event, which is locked. -/
def Since (env : Env) (row : WebhookEvent) (P : Books → Prop) (log : List Turn) : Prop :=
  Moment (takeTurn env) .empty (fun t => t.eventId ≠ row.stripeEventId) P log

/-- The place in the log of an attempt that has read so far.  An attempt that
has not found the row of its subscription goes on to its customer's.  When it
finds that one there must have been a moment for both, even if another attempt
has mapped the subscription meanwhile. -/
structure Placed (env : Env) (log : List Turn) (db : Postgres) (row : WebhookEvent)
    (seen : List Fact) : Prop where
  fits : Since env row (Fits row seen) log
  awaiting : ∀ sub c, seen = [.subscriptionRow sub none] →
    objectCustomer row.payload = some c →
    db.subscriptionMappings.find? sub = none ∨ Since env row (Awaiting row sub c) log

/-- The books are those of the tables and of the history. -/
structure Kept (env : Env) (w : World M) (log : List Turn) (b : Books) : Prop where
  run : run (takeTurn env) .empty log = some b
  customers : b.db.customerMappings = w.db.customerMappings
  subscriptions : b.db.subscriptionMappings = w.db.subscriptionMappings
  events : ∀ e, b.db.webhookEvents.find? e = w.db.webhookEvents.find? e
  accounts : ∀ e, accountsOf e b.accounts = accountsOf e (w.history.filterMap accountOf)

theorem placed_start (hrun : run (takeTurn env) .empty log = some b)
    (hrow : b.db.webhookEvents.find? row.stripeEventId = some row) :
    Placed env log db row [] :=
  ⟨.now hrun ⟨hrow, fun _ hf => by cases hf⟩, fun _ _ hseen => by cases hseen⟩

/-- A customer that is not mapped has not been mapped before. -/
theorem unmapped_before {c : String} (hrun : run (takeTurn env) a log = some b)
    (hnone : b.db.customerMappings.find? c = none) :
    Stands a.db (.customerRow c none) := by
  cases hfound : a.db.customerMappings.find? c with
  | none => exact congrArg (Option.map ids) hfound
  | some mapping =>
      obtain ⟨_, hstays, _⟩ := customer_run hrun hfound
      cases hnone.symm.trans hstays

/-- A customer that was mapped was mapped to the same Metronome customer. -/
theorem mapped_before {c : String} {mapping found : CustomerMapping}
    (hrun : run (takeTurn env) a log = some b)
    (hmapping : a.db.customerMappings.find? c = some mapping)
    (hfound : b.db.customerMappings.find? c = some found) :
    Stands a.db (.customerRow c (some found)) := by
  obtain ⟨mapping', hstays, hid⟩ := customer_run hrun hmapping
  cases hfound.symm.trans hstays
  have hkey := (Table.find?_key hmapping).trans (Table.find?_key hstays).symm
  show (a.db.customerMappings.find? c).map ids = some (ids found)
  rw [hmapping, Option.map_some, ids, ids, hkey, hid]

/-- What is found now has its place now, if what was found before still
stands. -/
theorem fits_now (hkept : Kept env w log b) {p : Effect Unit}
    (hrunning : Running env w.db i s p)
    (hp : s.poisoned = false) (hseen : ∀ f ∈ seen, Stands b.db f) :
    Since env s.loaded (Fits s.loaded seen) log :=
  .now hkept.run ⟨(hkept.events _).trans (hrunning.row hp), hseen⟩

/-- **A customer is looked up.** -/
theorem fits_customer {c : String} {p : Effect Unit} (hkept : Kept env w log b)
    (hrunning : Running env w.db i s p) (hp : s.poisoned = false)
    (hreads : Reads s.loaded
      (.customerRow c (b.db.customerMappings.find? c) :: rowsRead s))
    (h : Placed env log w.db s.loaded (rowsRead s)) :
    Since env s.loaded
      (Fits s.loaded (.customerRow c (b.db.customerMappings.find? c) :: rowsRead s))
        log := by
  have hstands : Stands b.db (.customerRow c (b.db.customerMappings.find? c)) := rfl
  generalize hseen : rowsRead s = seen at hreads h ⊢
  cases hreads with
  | customer =>
      exact fits_now hkept hrunning hp fun f hf => List.mem_singleton.mp hf ▸ hstands
  | @subscribed sub mapping _ _ _ =>
      have hmem : Fact.subscriptionRow sub (some mapping) ∈ rowsRead s :=
        hseen ▸ List.mem_singleton_self _
      have hmapped : Stands b.db (.subscriptionRow sub (some mapping)) :=
        (congrArg (Table.find? · sub) hkept.subscriptions).trans
          (hrunning.subscriptionRow sub mapping (List.mem_filter.mp hmem).1)
      refine fits_now hkept hrunning hp fun f hf => ?_
      rcases List.mem_cons.mp hf with rfl | hf
      · exact hstands
      · exact List.mem_singleton.mp hf ▸ hmapped
  | @unsubscribed sub _ _ _ _ hcustomer =>
      cases hfound : b.db.customerMappings.find? c with
      | none =>
          -- it was not mapped before, either
          refine h.fits.mono hkept.run fun a since hrun ha => ⟨ha.row, fun f hf => ?_⟩
          rcases List.mem_cons.mp hf with rfl | hf
          · exact unmapped_before hrun hfound
          · exact ha.found f hf
      | some mapping =>
          rcases h.awaiting sub c rfl hcustomer with hnone | hawaiting
          · refine fits_now hkept hrunning hp fun f hf => ?_
            rcases List.mem_cons.mp hf with rfl | hf
            · exact hfound ▸ hstands
            · rw [List.mem_singleton.mp hf]
              exact (congrArg (Table.find? · sub) hkept.subscriptions).trans hnone
          · refine hawaiting.mono hkept.run fun a since hrun ha =>
              ⟨ha.row, fun f hf => ?_⟩
            rcases List.mem_cons.mp hf with rfl | hf
            · obtain ⟨mapping', hmapping⟩ := ha.customer
              exact mapped_before hrun hmapping hfound
            · exact List.mem_singleton.mp hf ▸ ha.unmapped

/-- **A request keeps the attempt in its place.** -/
theorem placed_exec {o : Op} {k : Res o → Effect Unit} {r : Res o}
    (hkept : Kept env w log b)
    (hrunning : Running env w.db i s (.perform o k)) (hx : Exec env w i s o r w')
    (hp : s.poisoned = false) (hreads : Reads s.loaded (rowsRead (s.after o r)))
    (h : Placed env log w.db s.loaded (rowsRead s)) :
    Placed env log w.db s.loaded (rowsRead (s.after o r)) := by
  have hallowed : Allowed env.settings env.tiers s o := hrunning.always.here
  cases hx with
  | lookupCustomerMapping c =>
      have hview := view_of_own_nil (hrunning.own.trans hallowed.1)
      rw [hview, ← hkept.customers] at hreads ⊢
      exact ⟨fits_customer hkept hrunning hp hreads h, fun _ _ hseen => by cases hseen⟩
  | lookupSubscriptionMapping sub =>
      have hview := view_of_own_nil (hrunning.own.trans hallowed.1)
      rw [hview] at hreads ⊢
      have hread : Reads s.loaded
        (.subscriptionRow sub (w.db.subscriptionMappings.find? sub) :: rowsRead s) :=
          hreads
      show Placed env log w.db s.loaded
        (.subscriptionRow sub (w.db.subscriptionMappings.find? sub) :: rowsRead s)
      generalize rowsRead s = seen at hread ⊢
      cases hread with
      | subscription =>
          have hstands : Stands b.db
              (.subscriptionRow sub (w.db.subscriptionMappings.find? sub)) :=
            congrArg (Table.find? · sub) hkept.subscriptions
          refine ⟨fits_now hkept hrunning hp
            fun f hf => List.mem_singleton.mp hf ▸ hstands, fun sub' c hseen _ => .inl ?_⟩
          injection hseen with hfact
          injection hfact with hsub hnone
          exact hsub ▸ hnone
  | flushDead _ | flushRefused _ _ _ | flushStaged _ _ _ => exact h
  | _ => exact h

end Placed

/-! ## Steps -/

section Steps

variable {env : Env} {M : Metronome} {w w' : World M} {label : Label M}
  {log before since : List Turn} {a a' b b' : Books} {row : WebhookEvent}
  {seen : List Fact}
  {db db' : Postgres} {i : WorkerId} {s : Session} {t : Turn} {e : String}
  {account : Account}

theorem stands_congr {f : Fact} (hc : db'.customerMappings = db.customerMappings)
    (hs : db'.subscriptionMappings = db.subscriptionMappings) (h : Stands db f) :
    Stands db' f := by
  cases f with
  | customerRow c found =>
      exact (congrArg (fun t => (Table.find? t c).map ids) hc).trans h
  | subscriptionRow sub found => exact (congrArg (Table.find? · sub) hs).trans h
  | _ => trivial

theorem Fits.besides (h : Fits row seen b) (hb : Besides e account b b')
    (hne : row.stripeEventId ≠ e) : Fits row seen b' where
  row := (hb.others _ hne).trans h.row
  found f hf := stands_congr hb.customers hb.subscriptions (h.found f hf)

theorem Awaiting.besides {sub c : String} (h : Awaiting row sub c b)
    (hb : Besides e account b b')
    (hne : row.stripeEventId ≠ e) : Awaiting row sub c b' where
  row := (hb.others _ hne).trans h.row
  unmapped := hb.subscriptions ▸ h.unmapped
  customer := hb.customers ▸ h.customer

theorem Placed.congr (h : Placed env log db row seen)
    (hs : db'.subscriptionMappings = db.subscriptionMappings) :
    Placed env log db' row seen :=
  ⟨h.fits, fun sub c hseen hc => hs ▸ h.awaiting sub c hseen hc⟩

/-- A turn at the end of the log. -/
theorem Placed.append (h : Placed env log db row seen)
    (ht : t.eventId ≠ row.stripeEventId)
    (hmapped : ∀ sub c, seen = [.subscriptionRow sub none] →
      objectCustomer row.payload = some c → db.subscriptionMappings.find? sub = none →
      db'.subscriptionMappings.find? sub = none ∨
      Since env row (Awaiting row sub c) log) :
    Placed env (log ++ [t]) db' row seen where
  fits := h.fits.append ht
  awaiting sub c hseen hc := by
    rcases h.awaiting sub c hseen hc with hnone | hawaiting
    · exact (hmapped sub c hseen hc hnone).imp_right (Moment.append · ht)
    · exact .inr (hawaiting.append ht)

/-- A turn in the past of the log. -/
theorem Placed.insert (h : Placed env (before ++ since) db row seen)
    (hfree : ∀ t ∈ since, t.eventId ≠ e)
    (hbefore : run (takeTurn env) .empty before = some a)
    (hturn : takeTurn env a t = some a') (hbesides : Besides e account a a')
    (hne : row.stripeEventId ≠ e) (ht : t.eventId ≠ row.stripeEventId) :
    Placed env (before ++ t :: since) db row seen where
  fits := h.fits.insert carries_besides hfree hbefore hturn hbesides
    (fun _ _ hb hfits => hfits.besides hb hne) ht
  awaiting sub c hseen hc := (h.awaiting sub c hseen hc).imp_right fun hawaiting =>
    hawaiting.insert carries_besides hfree hbefore hturn hbesides
      (fun _ _ hb hawaits => hawaits.besides hb hne) ht

/-- No two unfinished attempts are on the same event. -/
theorem eventId_ne {j : WorkerId} {s' : Session} {p p' : Effect Unit}
    (hi : Running env db i s p) (hj : Running env db j s' p') (hp : s.poisoned = false)
    (hp' : s'.poisoned = false) (hij : j ≠ i) :
    s'.loaded.stripeEventId ≠ s.loaded.stripeEventId := by
  intro heq
  have hlocked := (hi.locked _).mpr ⟨hp, rfl⟩
  rw [← heq, (hj.locked _).mpr ⟨hp', rfl⟩] at hlocked
  exact hij (Option.some.inj hlocked)

theorem idle_of_finish (hm : Move env w (.finish i) w') (s : Session) (p : Effect Unit) :
    w'.workers i ≠ .running s p := by
  intro h
  cases hm <;> cases (Function.update_self ..).symm.trans h

theorem accountOf_quiet {added : List Entry} (h : ∀ entry ∈ added, quiet entry) :
    added.filterMap accountOf = [] := by
  refine List.filterMap_eq_nil_iff.mpr fun entry hmem => ?_
  have hquiet := h entry hmem
  cases entry with
  | enqueued e | attempted event now result => exact hquiet.elim
  | _ => rfl

/-- The books of the system, in which every unfinished attempt has its place. -/
structure Serialized (env : Env) (w : World M) (log : List Turn) (b : Books) : Prop where
  kept : Kept env w log b
  placed : ∀ i s p, w.workers i = .running s p → s.poisoned = false →
    Placed env log w.db s.loaded (rowsRead s)

/-- A step that changes no table. -/
theorem serialized_untouched (h : Serialized env w log b) (hinv : WorldInv env w)
    (hinv' : WorldInv env w') (hm : Move env w label w')
    (hreads : ∀ i s p, w'.workers i = .running s p → Reads s.loaded (rowsRead s))
    (he : w'.db.webhookEvents = w.db.webhookEvents) (hs : SameMappings w w')
    (haccounts : w'.history.filterMap accountOf = w.history.filterMap accountOf) :
    Serialized env w' log b := by
  have hkept : Kept env w' log b := {
    run := h.kept.run
    customers := h.kept.customers.trans hs.customer.symm
    subscriptions := h.kept.subscriptions.trans hs.subscription.symm
    events := fun e => (h.kept.events e).trans (congrArg (Table.find? · e) he.symm)
    accounts := fun e => haccounts ▸ h.kept.accounts e }
  refine ⟨hkept, fun i s p hi hp => ?_⟩
  rcases running_source hm hi with
    ⟨row, rfl, _, _⟩ | hsame | ⟨s₁, o, r, w'', k, hat, hx, rfl, hw', _⟩
  · exact placed_start hkept.run ((hkept.events _).trans ((hinv'.running hi).row hp))
  · exact (h.placed i s p hsame hp).congr hs.subscription
  · have hp₁ : s₁.poisoned = false :=
      eq_false_of_ne_true fun hp₁ =>
        absurd (hp.symm.trans (poisoned_after hp₁)) (by decide)
    have hreads := hreads i _ p hi
    rw [after_loaded] at hreads ⊢
    exact (placed_exec h.kept (hinv.running hat) hx hp₁ hreads
      (h.placed i s₁ _ hat hp₁)).congr
      hs.subscription

end Steps

/-! ## Commits -/

section Commits

variable {env : Env} {M : Metronome} {w w' : World M} {label : Label M}
    {log log' : List Turn}
  {a a' b b' : Books} {db : Postgres} {i : WorkerId} {s : Session} {t : Turn}

theorem besides_of_attempted (h : Attempted b s b') (hflushed : s.flushed = []) :
    Besides s.event.stripeEventId (s.event, s.result) b b' where
  customers := h.customers.trans (by rw [hflushed]; rfl)
  subscriptions := h.subscriptions.trans (by rw [hflushed]; rfl)
  others e he := (h.events e).trans (if_neg he.symm)
  event := (h.events _).trans (if_pos rfl)
  otherAccounts e he := (h.accounts e).trans (@accountsOf_ne (s.event, s.result) e he _)
  account := (h.accounts _).trans (accountsOf_self (s.event, s.result) _)

theorem attempted_of_besides (h : Besides s.event.stripeEventId (s.event, s.result) b b')
    (hflushed : s.flushed = []) : Attempted b s b' where
  customers := h.customers.trans (by rw [hflushed]; rfl)
  subscriptions := h.subscriptions.trans (by rw [hflushed]; rfl)
  events e := by
    by_cases he : s.event.stripeEventId = e
    · rw [if_pos he, ← he, h.event]
    · rw [if_neg he, h.others e (Ne.symm he)]
  accounts e := by
    by_cases he : e = s.event.stripeEventId
    · rw [he, h.account]
      exact (accountsOf_self (s.event, s.result) _).symm
    · rw [h.otherAccounts e he]
      exact (@accountsOf_ne (s.event, s.result) e he _).symm

theorem accountsOf_cons_congr {e : String} {account : Account}
    {accounts accounts' : List Account}
    (h : accountsOf e accounts = accountsOf e accounts') :
    accountsOf e (account :: accounts) = accountsOf e (account :: accounts') := by
  unfold accountsOf at h ⊢
  rw [List.filter_cons, List.filter_cons, h]

/-- What the commit of an attempt does to the tables and the history. -/
structure Commits (w : World M) (s : Session) (w' : World M) : Prop where
  events : w'.db.webhookEvents = w.db.webhookEvents.update s.event
  customers : w'.db.customerMappings =
    (s.flushed.foldl Postgres.apply w.db).customerMappings
  subscriptions :
    w'.db.subscriptionMappings =
      (s.flushed.foldl Postgres.apply w.db).subscriptionMappings
  history : ∃ now, w'.history = .attempted s.event now s.result :: w.history

/-- The books of a commit. -/
theorem kept_commit (h : Kept env w log b) (hcom : Committing env w.db i s)
    (hrun : run (takeTurn env) .empty log' = some b') (hb' : Attempted b s b')
    (hw' : Commits w s w') : Kept env w' log' b' where
  run := hrun
  customers := hb'.customers.trans
    ((customers_foldl_eq _ h.customers).trans hw'.customers.symm)
  subscriptions := hb'.subscriptions.trans
    ((subscriptions_foldl_eq _ h.subscriptions).trans hw'.subscriptions.symm)
  events e := by
    rw [hb'.events, hw'.events, Table.find?_update]
    by_cases heq : s.event.stripeEventId = e
    · subst heq
      rw [if_pos rfl, if_pos rfl, hcom.row, Option.map_some]
    · rw [if_neg heq, if_neg heq, h.events]
  accounts e := by
    obtain ⟨now, hh⟩ := hw'.history
    rw [hb'.accounts, hh]
    exact accountsOf_cons_congr (h.accounts e)

/-- What an attempt has read that makes this write. -/
inductive ReadFor : Write → List Fact → Prop where
  | insertCustomer (row : CustomerMapping) :
      ReadFor (.insertCustomer row) [.customerRow row.stripeCustomerId none]
  | touchCustomer (c c' : String) (now : Time) (row : CustomerMapping) :
      ReadFor (.touchCustomer c now) [.customerRow c' (some row)]
  | insertSubscription (row : SubscriptionMapping) (customer : CustomerMapping) :
      ReadFor (.insertSubscription row)
        [.customerRow row.stripeCustomerId (some customer),
          .subscriptionRow row.stripeSubscriptionId none]

theorem readFor_of_writes {write : Write} (hreads : Reads s.loaded (rowsRead s))
    (hwrite : Writes env.settings env.tiers s write) : ReadFor write (rowsRead s) := by
  have hrow : ∀ f, isRow f = true → f ∈ s.journal → f ∈ rowsRead s := fun f hf hmem =>
    List.mem_filter.mpr ⟨hmem, hf⟩
  generalize rowsRead s = seen at hrow hreads ⊢
  cases hwrite with
  | insertCustomer hh _ hfound _ _ _ =>
      have hmem := hrow _ rfl hfound
      cases hreads with
      | nothing => cases hmem
      | customer _ _ _ =>
          cases List.mem_singleton.mp hmem
          exact .insertCustomer _
      | subscription _ hh' _ | subscribed _ _ hh' _ | unsubscribed _ hh' _ _ =>
          exact absurd hh' hh.ne_subscriptionCreated
  | touchCustomer hh _ hfound _ _ =>
      have hmem := hrow _ rfl hfound
      cases hreads with
      | nothing => cases hmem
      | customer _ _ _ =>
          cases List.mem_singleton.mp hmem
          exact .touchCustomer _ _ _ _
      | subscription _ hh' _ | subscribed _ _ hh' _ | unsubscribed _ hh' _ _ =>
          exact absurd hh' (IsCustomer.ne_subscriptionCreated (.inr hh))
  | insertSubscription hh hcontract hunmapped hfound _ _ =>
      have hmem := hrow _ rfl hunmapped
      have hmem' := hrow _ rfl hfound
      cases hreads with
      | nothing => cases hmem
      | customer _ hcustomer _ => exact absurd hh hcustomer.ne_subscriptionCreated
      | subscription _ _ _ => cases List.mem_singleton.mp hmem'
      | subscribed _ _ _ _ =>
          rcases List.mem_cons.mp hmem with heq | hmem
          · cases heq
          · cases List.mem_singleton.mp hmem
      | unsubscribed _ _ _ _ =>
          rcases List.mem_cons.mp hmem' with heq | hmem'
          · cases heq
            rcases List.mem_cons.mp hmem with heq | hmem
            · cases heq
            · cases List.mem_singleton.mp hmem
              exact .insertSubscription _ _
          · cases List.mem_singleton.mp hmem'

/-- An attempt that has written stands where it is committed. -/
theorem stands_of_writes {write : Write} (hcom : Committing env db i s)
    (hread : ReadFor write (rowsRead s)) (hfresh : Fresh db write) :
    ∀ f ∈ rowsRead s, Stands db f := by
  have hcustomer : ∀ c row, Fact.customerRow c (some row) ∈ rowsRead s →
      Stands db (.customerRow c (some row)) := by
    intro c row hmem
    have hjournal := (List.mem_filter.mp hmem).1
    obtain ⟨row', hfind, hid⟩ := hcom.customerRow c row hjournal
    have hkey := (Table.find?_key hfind).trans
      (hcom.session.customerRow c row hjournal).symm
    show (db.customerMappings.find? c).map ids = some (ids row)
    rw [hfind, Option.map_some, ids, ids, hkey, hid]
  intro f hf
  generalize rowsRead s = seen at hread hcustomer hf
  cases hread with
  | insertCustomer row =>
      cases List.mem_singleton.mp hf
      exact congrArg (Option.map ids) hfresh.1
  | touchCustomer c c' now row =>
      cases List.mem_singleton.mp hf
      exact hcustomer _ _ hf
  | insertSubscription row customer =>
      rcases List.mem_cons.mp hf with rfl | hf'
      · exact hcustomer _ _ hf
      · cases List.mem_singleton.mp hf'
        exact hfresh.1

/-- The database takes a row that is fresh. -/
theorem refusal_of_fresh {enforceFk : Bool} {write : Write} (h : Fresh db write)
    (href : ∀ row, write = .insertSubscription row →
      ∃ customer, db.customerMappings.find? row.stripeCustomerId = some customer) :
    db.refusal enforceFk [] [write] = none := by
  have hnone : db.violates enforceFk [] write = none := by
    cases write with
    | insertCustomer row =>
        obtain ⟨hunmapped, hdistinct⟩ := h
        simpa [Postgres.violates, hunmapped] using hdistinct
    | insertSubscription row =>
        obtain ⟨hunmapped, hdistinct⟩ := h
        obtain ⟨customer, hcustomer⟩ := href row rfl
        simpa [Postgres.violates, hunmapped, hcustomer] using hdistinct
    | touchCustomer c now => rfl
  simp only [Postgres.refusal, hnone]

end Commits

/-! ## The serial run -/

section Serializing

variable {env : Env} {M : Metronome} {w₀ w w' : World M} {label : Label M}
    {log log' : List Turn}
  {b b' : Books} {i : WorkerId} {s : Session}

/-- The events that are stored now have been about the same before. -/
theorem oneCustomer_before (h : OneCustomer w') (hm : TableMove env w label w') :
    OneCustomer w := by
  have hstays : ∀ e row, w.db.webhookEvents.find? e = some row →
      ∃ row', w'.db.webhookEvents.find? e = some row' ∧ concerned row' = concerned row ∧
        subscriptionOf row' = subscriptionOf row := by
    intro e row hrow
    obtain ⟨row', hrow', htype, hpayload⟩ := stored_move hm (stored_of_find? hrow)
    rw [Table.find?_key hrow] at hrow'
    refine ⟨row', hrow', ?_, ?_⟩
    · rw [concerned, concerned, handlerOf, handlerOf, htype, hpayload]
    · rw [subscriptionOf, subscriptionOf, handlerOf, handlerOf, htype, hpayload]
  intro e₁ row₁ hrow₁ e₂ row₂ hrow₂ sub hsub₁ hsub₂ c c' hc hc'
  obtain ⟨row₁', hrow₁', hconcerned₁, hsubscription₁⟩ := hstays e₁ row₁ hrow₁
  obtain ⟨row₂', hrow₂', hconcerned₂, hsubscription₂⟩ := hstays e₂ row₂ hrow₂
  exact h e₁ row₁' hrow₁' e₂ row₂' hrow₂' sub (hsubscription₁.trans hsub₁)
    (hsubscription₂.trans hsub₂) c c' (hconcerned₁.trans hc) (hconcerned₂.trans hc')

/-- A step that is a turn. -/
theorem serialized_turn (hinv' : WorldInv env w') (hm : Move env w label w')
    (hlabel : ∀ i choice, label ≠ .perform i choice) (hkept : Kept env w' log' b')
    (hplaced : ∀ j s p, w.workers j = .running s p → w'.workers j = .running s p →
      s.poisoned = false → Placed env log' w'.db s.loaded (rowsRead s)) :
    Serialized env w' log' b' := by
  refine ⟨hkept, fun j s p hj hp => ?_⟩
  rcases running_source hm hj with
    ⟨row, rfl, _, _⟩ | hsame | ⟨_, _, _, _, _, _, _, _, _, choice, hperform⟩
  · exact placed_start hkept.run ((hkept.events _).trans ((hinv'.running hj).row hp))
  · exact hplaced j s p hsame hj hp
  · exact absurd hperform (hlabel j choice)

theorem serialized_insert {request : WebhookRequest} {eventId eventType : String}
    {payload : JsonObject} (h : Serialized env w log b) (hinv : WorldInv env w)
    (hinv' : WorldInv env w') (hm : Move env w (.webhook request) w')
    (hnone : w.db.webhookEvents.find? eventId = none)
    (he : w'.db.webhookEvents =
      w.db.webhookEvents.insertNew (newEvent w.now eventId eventType payload))
    (hs : SameMappings w w') (hh : w'.history = .enqueued eventId :: w.history) :
    ∃ log' b', Serialized env w' log' b' := by
  have hturn : takeTurn env b (.received w.now eventId eventType payload) =
      some (b.withEvents
        (b.db.webhookEvents.insertNew (newEvent w.now eventId eventType payload))) := by
    simp only [takeTurn, h.kept.events, hnone]
  refine ⟨_, _, serialized_turn hinv' hm (by simp) {
    run := run_snoc h.kept.run hturn
    customers := h.kept.customers.trans hs.customer.symm
    subscriptions := h.kept.subscriptions.trans hs.subscription.symm
    events := fun e => he ▸ Table.find?_insertNew_congr (h.kept.events e)
    accounts := fun e => hh ▸ h.kept.accounts e } fun j s p hj _ hp => ?_⟩
  have hne : (Turn.received w.now eventId eventType payload).eventId ≠
      s.loaded.stripeEventId := by
    rintro (rfl : eventId = _)
    cases hnone.symm.trans ((hinv.running hj).row hp)
  exact ((h.placed j s p hj hp).append hne fun _ _ _ _ => .inl).congr hs.subscription

theorem serialized_replay {row : WebhookEvent} (h : Serialized env w log b)
    (hinv : WorldInv env w) (hinv' : WorldInv env w')
    (hm : Move env w (.replay row.stripeEventId) w')
    (hrow : w.db.webhookEvents.find? row.stripeEventId = some row)
    (hstatus : row.status = .FAILED)
    (he : w'.db.webhookEvents = w.db.webhookEvents.update (replayed w.now row))
    (hs : SameMappings w w')
    (hh : w'.history = .enqueued row.stripeEventId :: w.history) :
    ∃ log' b', Serialized env w' log' b' := by
  have hturn : takeTurn env b (.replayed w.now row.stripeEventId) =
      some (b.withEvents (b.db.webhookEvents.update (replayed w.now row))) := by
    simp only [takeTurn, h.kept.events, hrow, hstatus, if_true]
  refine ⟨_, _, serialized_turn hinv' hm (by simp) {
    run := run_snoc h.kept.run hturn
    customers := h.kept.customers.trans hs.customer.symm
    subscriptions := h.kept.subscriptions.trans hs.subscription.symm
    events := fun e => ?_
    accounts := fun e => hh ▸ h.kept.accounts e } fun j s p hj _ hp => ?_⟩
  · rw [he, Table.find?_update, ← h.kept.events]
    exact Table.find?_update ..
  · have hne : (Turn.replayed w.now row.stripeEventId).eventId ≠
        s.loaded.stripeEventId := by
      intro (heq : row.stripeEventId = _)
      have hloaded := (hinv.running hj).row hp
      rw [← heq, hrow] at hloaded
      have hpending := (hinv.running hj).pending
      rw [← Option.some.inj hloaded, hstatus] at hpending
      cases hpending
    exact ((h.placed j s p hj hp).append hne fun _ _ _ _ => .inl).congr hs.subscription

/-- A commit without a row goes to the place of its attempt. -/
theorem serialized_quiet (h : Serialized env w log b) (hinv : WorldInv env w)
    (hinv' : WorldInv env w') (hm : Move env w (.finish i) w')
    (hi : w.workers i = .running s (.ret ())) (hcom : Committing env w.db i s)
    (hruns : Runs semantics (handleEvent env.settings env.tiers s.loaded)
      (.start s.loaded)
      (.ret ()) s)
    (hflushed : s.flushed = []) (hw' : Commits w s w') :
    ∃ log' b', Serialized env w' log' b' := by
  have hp : s.poisoned = false := (hinv.running hi).always.here.1
  have hid : s.event.stripeEventId = s.loaded.stripeEventId := hcom.same.1
  obtain ⟨before, since, a, rfl, hsince, hbefore, hfits⟩ := (h.placed i s _ hi hp).fits
  obtain ⟨course, a', hturn, hattempted⟩ :=
    @takeTurn_isolated env a s s.loaded () hruns hfits.row
    hcom.loadedPending hfits.found (by rw [hflushed]; exact fun _ hw => by cases hw)
  have hbesides := besides_of_attempted hattempted hflushed
  have hfree : ∀ t ∈ since, t.eventId ≠ s.event.stripeEventId := hid ▸ hsince
  obtain ⟨b', hrun', hbesides'⟩ :=
    run_insert carries_besides hfree hbefore hturn hbesides h.kept.run
  refine ⟨_, b', serialized_turn hinv' hm (by simp) (kept_commit h.kept hcom hrun'
    (attempted_of_besides hbesides' hflushed) hw') fun j s' p hj hj' hp' => ?_⟩
  have hij : j ≠ i := by
    rintro rfl
    exact idle_of_finish hm _ _ hj'
  have hne := eventId_ne (hinv.running hi) (hinv.running hj) hp hp' hij
  have hplaced := (h.placed j s' p hj hp').insert
    (t := .attempt s.loaded.nextAttemptAt s.loaded.stripeEventId course)
    hfree hbefore hturn hbesides (hid ▸ hne) hne.symm
  exact hplaced.congr (by rw [hw'.subscriptions, hflushed]; rfl)

/-- Where a subscription is about to be mapped, its customer is. -/
theorem awaiting_now {row : SubscriptionMapping} {j : WorkerId} {s' : Session}
    {p p' : Effect Unit} {c : String} (hkept : Kept env w log b) (hone : OneCustomer w)
    (hi : Running env w.db i s p)
    (hp : s.poisoned = false) (hcom : Committing env w.db i s)
    (hwrites : Writes env.settings env.tiers s (.insertSubscription row))
    (hj : Running env w.db j s' p') (hp' : s'.poisoned = false)
    (hreads : Reads s'.loaded [.subscriptionRow row.stripeSubscriptionId none])
    (hcustomer : objectCustomer s'.loaded.payload = some c)
    (hnone : w.db.subscriptionMappings.find? row.stripeSubscriptionId = none) :
    Awaiting s'.loaded row.stripeSubscriptionId c b := by
  cases hwrites with
  | insertSubscription hh hcontract _ hmapped _ _ =>
      cases hreads with
      | subscription _ hh' hid =>
          obtain ⟨hsub, hconcerned⟩ :=
            subscriptionCreated_about hh hcontract.subscription hcontract.customer
          obtain ⟨hsub', hconcerned'⟩ := subscriptionCreated_about hh' hid hcustomer
          have hc : c = row.stripeCustomerId := hone _ s'.loaded (hj.row hp') _ s.loaded
            (hi.row hp) _ hsub' hsub c _ hconcerned' hconcerned
          obtain ⟨mapping, hfind, _⟩ := hcom.customerRow _ _ hmapped
          refine ⟨(hkept.events _).trans (hj.row hp'), ?_, mapping, ?_⟩
          · rw [hkept.subscriptions]
            exact hnone
          · rw [hkept.customers, hc]
            exact hfind

/-- A commit with its row goes to the end. -/
theorem serialized_write {write : Write} (h : Serialized env w log b)
    (hinv : WorldInv env w)
    (hinv' : WorldInv env w') (hm : Move env w (.finish i) w') (hone : OneCustomer w)
    (hruns : ∀ i s p, w.workers i = .running s p →
      Runs semantics (handleEvent env.settings env.tiers s.loaded) (.start s.loaded) p s)
    (hi : w.workers i = .running s (.ret ())) (hcom : Committing env w.db i s)
    (hfresh : Fresh w.db write) (hflushed : s.flushed = [write]) (hw' : Commits w s w') :
    ∃ log' b', Serialized env w' log' b' := by
  have hrunning := hinv.running hi
  have hp : s.poisoned = false := hrunning.always.here.1
  have hwrite : Writes env.settings env.tiers s write :=
    hcom.session.writes write (by simp [hflushed])
  have hrow : ∀ {j s' p}, w.workers j = .running s' p → s'.poisoned = false →
      b.db.webhookEvents.find? s'.loaded.stripeEventId = some s'.loaded := fun hj hp' =>
    (h.kept.events _).trans ((hinv.running hj).row hp')
  have href : ∀ row, write = .insertSubscription row →
      ∃ customer, w.db.customerMappings.find? row.stripeCustomerId = some customer := by
    rintro row rfl
    cases hwrite with
    | insertSubscription _ _ _ hcustomer _ _ =>
        obtain ⟨customer, hfind, _⟩ := hcom.customerRow _ _ hcustomer
        exact ⟨customer, hfind⟩
  obtain ⟨course, b', hturn, hattempted⟩ :=
    @takeTurn_isolated env b s s.loaded () (hruns i s _ hi)
    (hrow hi hp) hcom.loadedPending
    (fun f hf => stands_congr h.kept.customers h.kept.subscriptions
      (stands_of_writes hcom (readFor_of_writes (reads_of_runs (hruns i s _ hi)) hwrite)
        hfresh
        f hf))
    (by
      rw [hflushed]
      intro write' hmem
      rw [List.mem_singleton.mp hmem, refusal_congr h.kept.customers h.kept.subscriptions]
      exact refusal_of_fresh hfresh href)
  refine ⟨_, b', serialized_turn hinv' hm (by simp) (kept_commit h.kept hcom
    (run_snoc h.kept.run hturn) hattempted hw') fun j s' p hj hj' hp' => ?_⟩
  have hij : j ≠ i := by
    rintro rfl
    exact idle_of_finish hm _ _ hj'
  have hne := eventId_ne hrunning (hinv.running hj) hp hp' hij
  refine (h.placed j s' p hj hp').append hne.symm fun sub c hseen hcustomer hnone => ?_
  cases hfound : w'.db.subscriptionMappings.find? sub with
  | none => exact .inl rfl
  | some row =>
      rcases subscription_of_commit hcom (hw'.subscriptions ▸ hfound) with
        hold | ⟨rfl, _, hwrites, _⟩
      · cases hnone.symm.trans hold
      · -- the subscription has just been mapped; this was the last moment
        exact .inr (.now h.kept.run (awaiting_now h.kept hone hrunning hp hcom hwrites
          (hinv.running hj) hp' (hseen ▸ reads_of_runs (hruns j s' p hj))
            hcustomer hnone))

/-- **Every step keeps the books.** -/
theorem serialized_move (h : Serialized env w log b) (hinv : WorldInv env w)
    (hm : Move env w label w') (hone : OneCustomer w)
    (hruns : ∀ i s p, w.workers i = .running s p →
      Runs semantics (handleEvent env.settings env.tiers s.loaded) (.start s.loaded) p s)
    (hreads : ∀ i s p, w'.workers i = .running s p → Reads s.loaded (rowsRead s)) :
    ∃ log' b', Serialized env w' log' b' := by
  have hinv' := worldInv_move hinv hm
  cases tableMove hinv hm with
  | untouched added he hs hh hquiet =>
      refine ⟨log, b, serialized_untouched h hinv hinv' hm hreads he hs ?_⟩
      rw [hh, List.filterMap_append, accountOf_quiet hquiet, List.nil_append]
  | insert hnone he hs hh => exact serialized_insert h hinv hinv' hm hnone he hs hh
  | replay hrow hstatus he hs hh =>
      exact serialized_replay h hinv hinv' hm hrow hstatus he hs hh
  | @commit i w' s hi hcom hfresh he hc hs hh =>
      have hsingle := hcom.session.single
      rw [hcom.pending, List.append_nil] at hsingle
      have hw' : Commits w s w' := ⟨he, hc, hs, _, hh⟩
      cases hflushed : s.flushed with
      | nil =>
          exact serialized_quiet h hinv hinv' hm hi hcom (hruns i s _ hi) hflushed hw'
      | cons write rest =>
          have hrest : rest = [] := by
            rw [hflushed, List.length_cons] at hsingle
            exact List.length_eq_zero_iff.mp (by omega)
          exact serialized_write h hinv hinv' hm hone hruns hi hcom
            (hfresh write (by simp [hflushed])) (hrest ▸ hflushed) hw'

theorem serialized_initial (h₀ : Initial w₀) : Serialized env w₀ [] .empty where
  kept := {
    run := rfl
    customers := by rw [h₀.db]; rfl
    subscriptions := by rw [h₀.db]; rfl
    events := fun e => by rw [h₀.db]; rfl
    accounts := fun e => by rw [h₀.history]; rfl }
  placed i s p hi := by
    rw [h₀.workers i] at hi
    cases hi

/-- **Every run keeps the books.** -/
theorem serialized_of_path (h : Reaches (step env M) w₀ w) (h₀ : Initial w₀)
    (hone : OneCustomer w) : ∃ log b, Serialized env w log b := by
  induction h with
  | refl => exact ⟨[], .empty, serialized_initial h₀⟩
  | @snoc w w' label hpath hc hs ih =>
      have hinv := worldInv_of_path hpath h₀
      have hm := step_sound hs
      have hone' := oneCustomer_before hone (tableMove hinv hm)
      obtain ⟨log, b, h⟩ := ih hone'
      exact serialized_move h hinv hm hone' (fun i s p hi => runs_of_path hpath h₀ hi)
        fun i s p hi => reads_of_runs (runs_of_path (hpath.snoc hc hs) h₀ hi)

/-- **The workers are serializable.**  Whatever the interleaving, one worker
at a time could have done it: there is an order in which events arrive and
attempts are made from the claim to the commit, each on the tables as the
previous turn has left them, that ends with the same tables, and in which the
attempts on each event leave the same rows and log the same results in the same
order.  Metronome's answers, the clock and the draw are free in every turn. -/
theorem serializable (h : Reaches (step env M) w₀ w) (h₀ : Initial w₀)
    (hone : OneCustomer w) :
    ∃ turns b, run (takeTurn env) .empty turns = some b ∧ SameRows b.db w.db ∧
      ∀ e, accountsOf e b.accounts = accountsOf e (w.history.filterMap accountOf) := by
  obtain ⟨log, b, h⟩ := serialized_of_path h h₀ hone
  exact ⟨log, b, h.kept.run, ⟨h.kept.events, fun c => by rw [h.kept.customers],
    fun sub => by rw [h.kept.subscriptions]⟩, h.kept.accounts⟩

end Serializing

/-! ## An attempt that is overtaken -/

section Overtaken

open Sidecar.Ports.Remote

/-- A subscription's event comes before its customer's.  Its attempt finds no
customer, and schedules a retry after another worker has mapped the customer. -/
def overtakenAda : World (metronome policyRejecting) :=
  runFrom (installation [adaCreated, adaSubscribed]) policyRejecting
    ([.webhook adaSubscribed.request, .tick 1, .webhook adaCreated.request] ++
      claims 0 ++ performs 0 3 ++ claims 1 ++ [.lock 1] ++ performs 1 3 ++
      [.serve (.deliver 0 "m1"), receives 1 (okWithId "m1")] ++ performs 1 8 ++
        [.finish 1] ++
      schedulesRetry 0 3)

theorem overtakenAda_spec :
    ((overtakenAda.history.filterMap accountOf).map fun account =>
      (account.1.stripeEventId, account.1.status, account.1.attempts)) =
        [("evt_2", .PENDING, 1), ("evt_1", .PROCESSED, 1)] ∧
    ∀ row ∈ overtakenAda.db.webhookEvents.rows, concerned row = some "cus_1" := by
  decide +kernel

theorem oneCustomer_overtakenAda : OneCustomer overtakenAda := by
  intro e row hrow e' row' hrow' _ _ _ c c' hc hc'
  rw [overtakenAda_spec.2 row (Table.find?_mem hrow)] at hc
  rw [overtakenAda_spec.2 row' (Table.find?_mem hrow')] at hc'
  exact Option.some.inj (hc.symm.trans hc')

/-- The retry is committed after the row of the customer that its attempt has
not found; still there is an order. -/
theorem serializable_overtakenAda :
    ((overtakenAda.history.filterMap accountOf).map fun account =>
      (account.1.stripeEventId, account.1.status, account.1.attempts)) =
        [("evt_2", .PENDING, 1), ("evt_1", .PROCESSED, 1)] ∧
    ∃ turns b,
      run (takeTurn (installation [adaCreated, adaSubscribed])) .empty turns = some b ∧
      SameRows b.db overtakenAda.db ∧
      ∀ e, accountsOf e b.accounts =
        accountsOf e (overtakenAda.history.filterMap accountOf) :=
  ⟨overtakenAda_spec.1,
    serializable (reaches_runFrom _ _ _) (initial_fresh _) oneCustomer_overtakenAda⟩

end Overtaken

end Sidecar.Ports.Serializability
