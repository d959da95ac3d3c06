import Sidecar.Ports.Models

/-!
# Transactions: what each database operation changes

Frame lemmas for `stage`, `rollback`, `apply`, `updateEvent` and `commit`, and
the consistency of the committed tables with what open transactions have
flushed: `Consistent` is what the unique indexes and the waits they cause keep
true.

## Main results

* `Consistent.stage`, `Consistent.rollback`, `Consistent.apply` — the unique
  keys survive a flush, a rollback and a commit.
* `commit_webhookEvents` — a commit changes one event row.
-/

namespace Sidecar.Ports.Transactions

open Sidecar.Verified.KeyedTable
open Sidecar.Ports.Python
open Sidecar.Ports.Models
open Sidecar.Ports.Models.Postgres

variable {db : Postgres} {i j : WorkerId}

/-! ## Locks and uncommitted writes -/

@[simp] theorem own_lock (eventId : String) : (db.lock i eventId).own j = db.own j := rfl

/-- What is flushed comes last. -/
@[simp] theorem own_stage_self (ws : List Write) :
    (db.stage i ws).own i = db.own i ++ ws := by
  simp [own, stage, List.filterMap_append, List.filterMap_map]

/-- A flush leaves the other transactions alone. -/
theorem own_stage_ne (hij : j ≠ i) (ws : List Write) :
    (db.stage i ws).own j = db.own j := by
  simp [own, stage, List.filterMap_append, List.filterMap_map, hij.symm]

@[simp] theorem own_rollback_self : (db.rollback i).own i = [] := by
  simp [own, rollback, List.filterMap_filter]

/-- So does the end of one. -/
theorem own_rollback_ne (hij : j ≠ i) : (db.rollback i).own j = db.own j := by
  simp only [own, rollback, List.filterMap_filter]
  congr 1
  funext x
  by_cases hx : x.1 = j
  · simp [hx, hij]
  · simp [hx]

/-- The two ways to ask whose a write is. -/
theorem mem_own {w : Write} : w ∈ db.own i ↔ (i, w) ∈ db.uncommitted := by
  simp only [own, List.mem_filterMap]
  constructor
  · rintro ⟨⟨j, w'⟩, hmem, hw⟩
    split at hw
    · next hj =>
        cases hw
        exact hj ▸ hmem
    · cases hw
  · exact fun hmem => ⟨(i, w), hmem, by simp⟩

/-- The end of a transaction releases its row locks, and no others. -/
theorem locks_rollback {eventId : String} :
    (db.rollback i).locks eventId = some j ↔ db.locks eventId = some j ∧ j ≠ i := by
  simp only [rollback]
  split
  · next h =>
      simp only [h, reduceCtorEq, Option.some.injEq, false_iff, not_and, not_not]
      exact fun hij => hij.symm
  · next h =>
      refine ⟨fun hj => ⟨hj, fun hij => h (hij ▸ hj)⟩, And.left⟩

theorem stage_nil : db.stage i [] = db := by
  simp [stage]

theorem blocked_nil : db.blocked i [] = false := by
  simp [blocked]

/-! ## Commit -/

/-- Writes are about the mapping tables only. -/
@[simp] theorem apply_webhookEvents (w : Write) :
    (db.apply w).webhookEvents = db.webhookEvents := by
  cases w with
  | insertCustomer row => rfl
  | insertSubscription row => rfl
  | touchCustomer c now => simp only [apply]; split <;> rfl

@[simp] theorem apply_locks (w : Write) : (db.apply w).locks = db.locks := by
  cases w with
  | insertCustomer row => rfl
  | insertSubscription row => rfl
  | touchCustomer c now => simp only [apply]; split <;> rfl

@[simp] theorem apply_uncommitted (w : Write) :
    (db.apply w).uncommitted = db.uncommitted := by
  cases w with
  | insertCustomer row => rfl
  | insertSubscription row => rfl
  | touchCustomer c now => simp only [apply]; split <;> rfl

@[simp] theorem foldl_apply_webhookEvents (ws : List Write) :
    (ws.foldl apply db).webhookEvents = db.webhookEvents := by
  induction ws generalizing db with
  | nil => rfl
  | cons w ws ih => rw [List.foldl_cons, ih, apply_webhookEvents]

@[simp] theorem foldl_apply_locks (ws : List Write) :
    (ws.foldl apply db).locks = db.locks := by
  induction ws generalizing db with
  | nil => rfl
  | cons w ws ih => rw [List.foldl_cons, ih, apply_locks]

@[simp] theorem foldl_apply_uncommitted (ws : List Write) :
    (ws.foldl apply db).uncommitted = db.uncommitted := by
  induction ws generalizing db with
  | nil => rfl
  | cons w ws ih => rw [List.foldl_cons, ih, apply_uncommitted]

/-- The event row is not about the mapping tables. -/
@[simp] theorem updateEvent_customerMappings (event : WebhookEvent) :
    (db.updateEvent event).customerMappings = db.customerMappings := by
  simp only [updateEvent]; split <;> rfl

@[simp] theorem updateEvent_subscriptionMappings (event : WebhookEvent) :
    (db.updateEvent event).subscriptionMappings = db.subscriptionMappings := by
  simp only [updateEvent]; split <;> rfl

@[simp] theorem updateEvent_locks (event : WebhookEvent) :
    (db.updateEvent event).locks = db.locks := by
  simp only [updateEvent]; split <;> rfl

@[simp] theorem updateEvent_uncommitted (event : WebhookEvent) :
    (db.updateEvent event).uncommitted = db.uncommitted := by
  simp only [updateEvent]; split <;> rfl

/-- A commit applies what the transaction has flushed. -/
@[simp] theorem commit_customerMappings (event : WebhookEvent) :
    (db.commit i event).customerMappings =
      ((db.own i).foldl apply db).customerMappings := by
  simp [commit, rollback]

@[simp] theorem commit_subscriptionMappings (event : WebhookEvent) :
    (db.commit i event).subscriptionMappings =
      ((db.own i).foldl apply db).subscriptionMappings := by
  simp [commit, rollback]

@[simp] theorem own_commit_self (event : WebhookEvent) : (db.commit i event).own i = [] :=
  own_rollback_self

/-- The other transactions go on with what they have flushed. -/
theorem own_commit_ne (hij : j ≠ i) (event : WebhookEvent) :
    (db.commit i event).own j = db.own j := by
  rw [commit, own_rollback_ne hij]
  simp [own]

/-- A commit releases the row locks of its transaction, and no others. -/
theorem locks_commit {event : WebhookEvent} {eventId : String} :
    (db.commit i event).locks eventId = some j ↔ db.locks eventId = some j ∧ j ≠ i := by
  rw [commit, locks_rollback]
  simp

/-- A row is free after a commit if it was, or if the transaction had it. -/
theorem locks_commit_eq_none {event : WebhookEvent} {eventId : String} :
    (db.commit i event).locks eventId = none ↔
      db.locks eventId = none ∨ db.locks eventId = some i := by
  simp only [commit, rollback, updateEvent_locks, foldl_apply_locks]
  split
  · next h => simp [h]
  · next h => simp [h]

/-- The columns that no worker assigns. -/
def SameEvent (row event : WebhookEvent) : Prop :=
  event.stripeEventId = row.stripeEventId ∧ event.eventType = row.eventType ∧
    event.payload = row.payload ∧ event.receivedAt = row.receivedAt

/-- The row is found by its id, so the columns that never change need not be
written. -/
theorem updateEvent_webhookEvents {row event : WebhookEvent}
    (hrow : db.webhookEvents.find? event.stripeEventId = some row)
    (hsame : SameEvent row event) :
    (db.updateEvent event).webhookEvents = db.webhookEvents.update event := by
  obtain ⟨hid, htype, hpayload, hreceived⟩ := hsame
  have hevent : { row with
      status := event.status
      attempts := event.attempts
      lastError := event.lastError
      nextAttemptAt := event.nextAttemptAt
      processedAt := event.processedAt } = event := by
    cases event
    cases row
    simp_all
  simp only [updateEvent, hrow, hevent]

/-- A commit writes the event row it holds. -/
theorem commit_webhookEvents {row event : WebhookEvent}
    (hrow : db.webhookEvents.find? event.stripeEventId = some row)
    (hsame : SameEvent row event) :
    (db.commit i event).webhookEvents = db.webhookEvents.update event := by
  have hfold : ((db.own i).foldl apply db).webhookEvents = db.webhookEvents :=
    foldl_apply_webhookEvents _
  rw [← hfold] at hrow ⊢
  exact updateEvent_webhookEvents hrow hsame

/-! ## Mapping rows stay -/

/-- A touch changes `updated_at` of its row. -/
theorem find?_touchCustomer (c c' : String) (now : Time) :
    (db.apply (.touchCustomer c' now)).customerMappings.find? c =
      if c' = c then (db.customerMappings.find? c).map fun row => { row with
        updatedAt := now }
      else db.customerMappings.find? c := by
  simp only [apply]
  cases hrow : db.customerMappings.find? c' with
  | none =>
      by_cases hc : c' = c
      · subst hc
        rw [if_pos rfl, hrow]
        rfl
      · rw [if_neg hc]
  | some row =>
      have hkey : row.stripeCustomerId = c' := Table.find?_key hrow
      by_cases hc : c' = c
      · subst hc
        rw [if_pos rfl, hrow, Table.find?_update, if_pos hkey, hrow]
        rfl
      · rw [if_neg hc, Table.find?_update_ne]
        exact fun heq => hc (hkey.symm.trans heq)

/-- A committed customer row stays, and keeps its Metronome id. -/
theorem customer_apply {c : String} {row : CustomerMapping} (w : Write)
    (h : db.customerMappings.find? c = some row) :
    ∃ row', (db.apply w).customerMappings.find? c = some row' ∧
      row'.metronomeCustomerId = row.metronomeCustomerId := by
  cases w with
  | insertCustomer r => exact ⟨row, Table.find?_insertNew_of_some h, rfl⟩
  | insertSubscription r => exact ⟨row, h, rfl⟩
  | touchCustomer c' now =>
      by_cases hc : c' = c
      · refine ⟨{ row with updatedAt := now }, ?_, rfl⟩
        rw [find?_touchCustomer, if_pos hc, h]
        rfl
      · refine ⟨row, ?_, rfl⟩
        rw [find?_touchCustomer, if_neg hc, h]

/-- A committed subscription row stays as it is. -/
theorem subscription_apply {sub : String} {row : SubscriptionMapping} (w : Write)
    (h : db.subscriptionMappings.find? sub = some row) :
    (db.apply w).subscriptionMappings.find? sub = some row := by
  cases w with
  | insertCustomer r => exact h
  | insertSubscription r => exact Table.find?_insertNew_of_some h
  | touchCustomer c now => simp only [apply]; split <;> exact h

/-- So it does when several writes follow. -/
theorem customer_foldl_apply {c : String} {row : CustomerMapping} (ws : List Write)
    (h : db.customerMappings.find? c = some row) :
    ∃ row', (ws.foldl apply db).customerMappings.find? c = some row' ∧
      row'.metronomeCustomerId = row.metronomeCustomerId := by
  induction ws generalizing db row with
  | nil => exact ⟨row, h, rfl⟩
  | cons w ws ih =>
      obtain ⟨row', h', hid⟩ := customer_apply w h
      obtain ⟨row'', h'', hid'⟩ := ih h'
      exact ⟨row'', h'', hid'.trans hid⟩

/-- So it does when several writes follow. -/
theorem subscription_foldl_apply {sub : String} {row : SubscriptionMapping}
    (ws : List Write) (h : db.subscriptionMappings.find? sub = some row) :
    (ws.foldl apply db).subscriptionMappings.find? sub = some row := by
  induction ws generalizing db with
  | nil => exact h
  | cons w ws ih => exact ih (subscription_apply w h)

/-! ## The rows of one key -/

/-- What writes leave at a key depends on what was there. -/
theorem customer_foldl_congr {db db' : Postgres} {c : String} (ws : List Write)
    (h : db'.customerMappings.find? c = db.customerMappings.find? c) :
    (ws.foldl apply db').customerMappings.find? c =
      (ws.foldl apply db).customerMappings.find? c := by
  induction ws generalizing db db' with
  | nil => exact h
  | cons w ws ih =>
      have hfirst : (db'.apply w).customerMappings.find? c =
          (db.apply w).customerMappings.find? c := by
        cases w with
        | insertCustomer row => exact Table.find?_insertNew_congr h
        | insertSubscription row => exact h
        | touchCustomer c' now => rw [find?_touchCustomer, find?_touchCustomer, h]
      exact ih hfirst

/-- The same for subscriptions. -/
theorem subscription_foldl_congr {db db' : Postgres} {sub : String} (ws : List Write)
    (h : db'.subscriptionMappings.find? sub = db.subscriptionMappings.find? sub) :
    (ws.foldl apply db').subscriptionMappings.find? sub =
      (ws.foldl apply db).subscriptionMappings.find? sub := by
  induction ws generalizing db db' with
  | nil => exact h
  | cons w ws ih =>
      have hfirst : (db'.apply w).subscriptionMappings.find? sub =
          (db.apply w).subscriptionMappings.find? sub := by
        cases w with
        | insertCustomer row => exact h
        | insertSubscription row => exact Table.find?_insertNew_congr h
        | touchCustomer c now =>
            simp only [apply]
            cases hc : db.customerMappings.find? c <;>
              cases hc' : db'.customerMappings.find? c <;> exact h
      exact ih hfirst

/-! ## Unique keys -/

/-- Nothing committed stands in the way of `w`. -/
def Fresh (db : Postgres) : Write → Prop
  | .insertCustomer row =>
      db.customerMappings.find? row.stripeCustomerId = none ∧
        ∀ r ∈ db.customerMappings.rows, r.metronomeCustomerId ≠ row.metronomeCustomerId
  | .insertSubscription row =>
      db.subscriptionMappings.find? row.stripeSubscriptionId = none ∧
        ∀ r ∈ db.subscriptionMappings.rows,
        r.metronomeContractId ≠ row.metronomeContractId
  | .touchCustomer _ _ => True

/-- A fresh row is found once it is committed. -/
theorem find?_apply_insertCustomer {row : CustomerMapping}
    (h : Fresh db (.insertCustomer row)) :
    (db.apply (.insertCustomer row)).customerMappings.find? row.stripeCustomerId =
      some row := by
  simp only [apply]
  rw [Table.find?_insertNew, if_pos ⟨h.1, rfl⟩]

/-- The same for subscriptions. -/
theorem find?_apply_insertSubscription {row : SubscriptionMapping}
    (h : Fresh db (.insertSubscription row)) :
    (db.apply (.insertSubscription row)).subscriptionMappings.find?
      row.stripeSubscriptionId = some row := by
  simp only [apply]
  rw [Table.find?_insertNew, if_pos ⟨h.1, rfl⟩]

/-- The committed ids are unique, and what open transactions have flushed can
be committed in any order. -/
structure Consistent (db : Postgres) : Prop where
  customerIds : ∀ a ∈ db.customerMappings.rows, ∀ b ∈ db.customerMappings.rows,
    a.metronomeCustomerId = b.metronomeCustomerId → a.stripeCustomerId =
      b.stripeCustomerId
  contractIds : ∀ a ∈ db.subscriptionMappings.rows, ∀ b ∈ db.subscriptionMappings.rows,
    a.metronomeContractId = b.metronomeContractId →
      a.stripeSubscriptionId = b.stripeSubscriptionId
  fresh : ∀ x ∈ db.uncommitted, Fresh db x.2
  separate : ∀ x ∈ db.uncommitted, ∀ y ∈ db.uncommitted, x.1 ≠ y.1 →
    x.2.clashes y.2 = false

/-- Right after the migrations. -/
theorem consistent_empty : Consistent .empty := by
  constructor <;> simp [Postgres.empty]

/-- A write that violates no constraint is fresh. -/
theorem fresh_of_violates {enforceFk : Bool} {own : List Write} {w : Write}
    (h : db.violates enforceFk own w = none) : Fresh db w := by
  cases w with
  | insertCustomer row =>
      simp only [violates] at h
      split at h
      · cases h
      · next hpk =>
          split at h
          · cases h
          · next huq =>
              refine ⟨by simpa using hpk, fun r hr hid => huq ?_⟩
              exact List.any_eq_true.mpr ⟨r, hr, by simpa using hid⟩
  | insertSubscription row =>
      simp only [violates] at h
      split at h
      · cases h
      · next hpk =>
          split at h
          · cases h
          · next huq =>
              refine ⟨by simpa using hpk, fun r hr hid => huq ?_⟩
              exact List.any_eq_true.mpr ⟨r, hr, by simpa using hid⟩
  | touchCustomer c now => trivial

theorem clashes_comm (w w' : Write) : w.clashes w' = w'.clashes w := by
  cases w <;> cases w' <;> simp [Write.clashes, eq_comm]

/-- Whoever need not wait for a transaction does not clash with it. -/
theorem clashes_of_not_waitsFor {w w' : Write} (h : w.waitsFor w' = false) :
    w.clashes w' = false := by
  cases w <;> cases w' <;> first | exact h | rfl

/-- Freshness is about the committed mapping rows. -/
theorem Fresh.congr {db' : Postgres} {w : Write} (h : Fresh db w)
    (hc : db'.customerMappings = db.customerMappings)
    (hs : db'.subscriptionMappings = db.subscriptionMappings) : Fresh db' w := by
  cases w with
  | insertCustomer row => rw [Fresh, hc]; exact h
  | insertSubscription row => rw [Fresh, hs]; exact h
  | touchCustomer c now => trivial

/-- A customer row after a write is a committed one, possibly touched, or the
inserted one. -/
theorem customer_of_apply {w : Write} {r : CustomerMapping}
    (h : r ∈ (db.apply w).customerMappings.rows) :
    (∃ r' ∈ db.customerMappings.rows, r'.stripeCustomerId = r.stripeCustomerId ∧
      r'.metronomeCustomerId = r.metronomeCustomerId) ∨ w = .insertCustomer r := by
  cases w with
  | insertCustomer row =>
      rcases Table.mem_insertNew.mp h with h | ⟨_, rfl⟩
      · exact .inl ⟨r, h, rfl, rfl⟩
      · exact .inr rfl
  | insertSubscription row => exact .inl ⟨r, h, rfl, rfl⟩
  | touchCustomer c now =>
      simp only [apply] at h
      cases hc : db.customerMappings.find? c with
      | none =>
          rw [hc] at h
          exact .inl ⟨r, h, rfl, rfl⟩
      | some row =>
          rw [hc] at h
          rcases Table.mem_update.mp h with ⟨h, _⟩ | ⟨rfl, _⟩
          · exact .inl ⟨r, h, rfl, rfl⟩
          · exact .inl ⟨row, Table.find?_mem hc, rfl, rfl⟩

/-- A subscription row after a write is an old one or the inserted one. -/
theorem subscription_of_apply {w : Write} {r : SubscriptionMapping}
    (h : r ∈ (db.apply w).subscriptionMappings.rows) :
    r ∈ db.subscriptionMappings.rows ∨ w = .insertSubscription r := by
  cases w with
  | insertCustomer row => exact .inl h
  | insertSubscription row =>
      rcases Table.mem_insertNew.mp h with h | ⟨_, rfl⟩
      · exact .inl h
      · exact .inr rfl
  | touchCustomer c now =>
      simp only [apply] at h
      split at h <;> exact .inl h

/-- Two writes that do not clash can both be committed. -/
theorem Fresh.apply {w w' : Write} (h : Fresh db w') (hclash : w.clashes w' = false) :
    Fresh (db.apply w) w' := by
  cases w' with
  | touchCustomer c now => trivial
  | insertCustomer row =>
      refine ⟨Table.find?_eq_none.mpr fun r hr => ?_, fun r hr => ?_⟩
      all_goals
        rcases customer_of_apply hr with ⟨r', hr', hid, hmid⟩ | rfl
      · exact hid ▸ Table.find?_eq_none.mp h.1 r' hr'
      · simp only [Write.clashes, Bool.or_eq_false_iff, decide_eq_false_iff_not] at hclash
        exact hclash.1
      · exact hmid ▸ h.2 r' hr'
      · simp only [Write.clashes, Bool.or_eq_false_iff, decide_eq_false_iff_not] at hclash
        exact hclash.2
  | insertSubscription row =>
      refine ⟨Table.find?_eq_none.mpr fun r hr => ?_, fun r hr => ?_⟩
      all_goals
        rcases subscription_of_apply hr with hr | rfl
      · exact Table.find?_eq_none.mp h.1 r hr
      · simp only [Write.clashes, Bool.or_eq_false_iff, decide_eq_false_iff_not] at hclash
        exact hclash.1
      · exact h.2 r hr
      · simp only [Write.clashes, Bool.or_eq_false_iff, decide_eq_false_iff_not] at hclash
        exact hclash.2

/-- A transaction ends without a commit. -/
theorem Consistent.rollback (h : Consistent db) (i : WorkerId) :
    Consistent (db.rollback i) where
  customerIds := h.customerIds
  contractIds := h.contractIds
  fresh x hx := (h.fresh x (List.mem_of_mem_filter hx)).congr rfl rfl
  separate x hx y hy :=
    h.separate x (List.mem_of_mem_filter hx) y (List.mem_of_mem_filter hy)

/-- An accepted flush of one row. -/
theorem Consistent.stage {enforceFk : Bool} {ws : List Write} (h : Consistent db)
    (hlen : (db.own i ++ ws).length ≤ 1) (hb : db.blocked i ws = false)
    (hr : db.refusal enforceFk (db.own i) ws = none) : Consistent (db.stage i ws) := by
  match ws with
  | [] => rwa [stage_nil]
  | w :: w' :: ws => simp only [List.length_append, List.length_cons] at hlen; omega
  | [w] =>
      have hfresh : Fresh db w := by
        simp only [refusal] at hr
        split at hr
        · cases hr
        · next hv => exact fresh_of_violates hv
      have hother : ∀ x ∈ db.uncommitted, x.1 ≠ i → w.clashes x.2 = false := by
        intro x hx hxi
        refine clashes_of_not_waitsFor ?_
        simp only [blocked, List.any_eq_false, Bool.and_eq_true, decide_eq_true_eq,
          not_and, List.any_cons, List.any_nil, Bool.or_false] at hb
        simpa using hb x hx (by simpa using hxi)
      exact {
        customerIds := h.customerIds
        contractIds := h.contractIds
        fresh := fun x hx => by
          rcases List.mem_append.mp hx with hx | hx
          · exact (h.fresh x hx).congr rfl rfl
          · rw [List.map_singleton, List.mem_singleton] at hx
            subst hx
            exact hfresh.congr rfl rfl
        separate := fun x hx y hy hxy => by
          rcases List.mem_append.mp hx with hx | hx
          · rcases List.mem_append.mp hy with hy | hy
            · exact h.separate x hx y hy hxy
            · rw [List.map_singleton, List.mem_singleton] at hy
              subst hy
              rw [clashes_comm]
              exact hother x hx hxy
          · rw [List.map_singleton, List.mem_singleton] at hx
            subst hx
            rcases List.mem_append.mp hy with hy | hy
            · exact hother y hy hxy.symm
            · rw [List.map_singleton, List.mem_singleton] at hy
              subst hy
              exact absurd rfl hxy }

/-- One write becomes visible. -/
theorem Consistent.apply_ids {w : Write} (h : Consistent db) (hw : Fresh db w) :
    (∀ a ∈ (db.apply w).customerMappings.rows, ∀ b ∈ (db.apply w).customerMappings.rows,
      a.metronomeCustomerId = b.metronomeCustomerId →
        a.stripeCustomerId = b.stripeCustomerId) ∧
    (∀ a ∈ (db.apply w).subscriptionMappings.rows,
      ∀ b ∈ (db.apply w).subscriptionMappings.rows,
      a.metronomeContractId = b.metronomeContractId →
        a.stripeSubscriptionId = b.stripeSubscriptionId) := by
  constructor
  · intro a ha b hb hab
    rcases customer_of_apply ha with ⟨a', ha', hida, hma⟩ | hwa
    · rcases customer_of_apply hb with ⟨b', hb', hidb, hmb⟩ | rfl
      · rw [← hida, ← hidb]
        exact h.customerIds a' ha' b' hb' (by rw [hma, hmb, hab])
      · exact absurd (hma.trans hab) (hw.2 a' ha')
    · rcases customer_of_apply hb with ⟨b', hb', hidb, hmb⟩ | hwb
      · subst hwa
        exact absurd (hmb.trans hab.symm) (hw.2 b' hb')
      · rw [hwa] at hwb
        cases hwb
        rfl
  · intro a ha b hb hab
    rcases subscription_of_apply ha with ha' | hwa
    · rcases subscription_of_apply hb with hb' | rfl
      · exact h.contractIds a ha' b hb' hab
      · exact absurd hab (hw.2 a ha')
    · rcases subscription_of_apply hb with hb' | hwb
      · subst hwa
        exact absurd hab.symm (hw.2 b hb')
      · rw [hwa] at hwb
        cases hwb
        rfl

/-- A commit of what one transaction has flushed. -/
theorem Consistent.commit (h : Consistent db) (hlen : (db.own i).length ≤ 1)
    (event : WebhookEvent) : Consistent (db.commit i event) := by
  have hmem : ∀ x, x ∈ (db.commit i event).uncommitted ↔ x ∈ db.uncommitted ∧
      x.1 ≠ i := by
    intro x
    simp [Postgres.commit, Postgres.rollback]
  match hown : db.own i with
  | [] =>
      have hc : (db.commit i event).customerMappings = db.customerMappings := by
        simp [hown]
      have hs : (db.commit i event).subscriptionMappings = db.subscriptionMappings := by
        simp [hown]
      exact {
        customerIds := hc ▸ h.customerIds
        contractIds := hs ▸ h.contractIds
        fresh := fun x hx => (h.fresh x ((hmem x).mp hx).1).congr hc hs
        separate := fun x hx y hy =>
          h.separate x ((hmem x).mp hx).1 y ((hmem y).mp hy).1 }
  | w :: w' :: ws => simp [hown] at hlen
  | [w] =>
      have hw : (i, w) ∈ db.uncommitted := mem_own.mp (hown ▸ List.mem_singleton_self w)
      have hc : (db.commit i event).customerMappings = (db.apply w).customerMappings := by
        simp [hown]
      have hs : (db.commit i event).subscriptionMappings =
          (db.apply w).subscriptionMappings := by simp [hown]
      have hids := h.apply_ids (h.fresh _ hw)
      exact {
        customerIds := hc ▸ hids.1
        contractIds := hs ▸ hids.2
        fresh := fun x hx => by
          obtain ⟨hx, hxi⟩ := (hmem x).mp hx
          exact ((h.fresh x hx).apply (h.separate _ hw x hx hxi.symm)).congr hc hs
        separate := fun x hx y hy =>
          h.separate x ((hmem x).mp hx).1 y ((hmem y).mp hy).1 }

end Sidecar.Ports.Transactions
