import Sidecar.Ports.Lifecycle

/-!
# The mapping tables

A step touches the mapping tables only by committing an attempt, and then by
at most one row.  Rows therefore stay, ids stay unique, subscriptions refer to
mapped customers, and a row is there exactly if an event that asked for it has
been processed.

## Main results

* `mappings_append_only` — rows stay, ids are injective, references hold, and
  the handler's integrity error is unreachable.
* `processed_iff_mapped` — processed means mapped, and mapped means processed,
  so that the tables do not depend on the order of processing.
-/

namespace Sidecar.Ports.Mappings

open Sidecar.Verified.KeyedTable
open Sidecar.Verified.Transition
open Sidecar.Ports.Python
open Sidecar.Ports.Config
open Sidecar.Ports.Models
open Sidecar.Ports.Effects
open Sidecar.Ports.System
open Sidecar.Ports.Attempt
open Sidecar.Ports.Moves
open Sidecar.Ports.Transactions
open Sidecar.Ports.Invariant
open Sidecar.Ports.Remote

variable {env : Env} {M : Metronome} {w w' : World M} {label : Label M}

/-! ## What a step does to the mapping tables -/

/-- An attempt that has written something is processed. -/
theorem completion_of_flushed {settings : Settings} {tiers : TierTable} {s : Session}
    (h : Verdict settings tiers s) (hflushed : s.flushed ≠ []) :
    Completion settings tiers s ∧ s.event.status = .PROCESSED := by
  cases h with
  | processed now hcompletion hevent _ => exact ⟨hcompletion, by rw [hevent]⟩
  | permanent now reason hf _ _ => exact absurd hf.flushed hflushed
  | exhausted now reason hf _ _ _ => exact absurd hf.flushed hflushed
  | retry now delay reason hf _ _ _ _ => exact absurd hf.flushed hflushed

/-- A processed attempt has completed its handler. -/
theorem completion_of_processed {settings : Settings} {tiers : TierTable} {s : Session}
    (h : Verdict settings tiers s) (hstatus : s.event.status = .PROCESSED) :
    Completion settings tiers s := by
  cases h with
  | processed now hcompletion _ _ => exact hcompletion
  | permanent now reason _ hevent _ => rw [hevent] at hstatus; cases hstatus
  | exhausted now reason _ _ hevent _ => rw [hevent] at hstatus; cases hstatus
  | retry now delay reason _ _ _ hevent _ => rw [hevent] at hstatus; cases hstatus

/-- The new customer row of a committed attempt. -/
theorem customer_of_commit {db : Postgres} {i : WorkerId} {s : Session} {c : String}
    {row : CustomerMapping} (hcom : Committing env db i s)
    (h : (s.flushed.foldl Postgres.apply db).customerMappings.find? c = some row) :
    (∃ row', db.customerMappings.find? c = some row' ∧
        row'.metronomeCustomerId = row.metronomeCustomerId) ∨
      (row.stripeCustomerId = c ∧ s.flushed = [.insertCustomer row] ∧
        Writes env.settings env.tiers s (.insertCustomer row) ∧
        s.event.status = .PROCESSED) := by
  match hflushed : s.flushed with
  | [] =>
      rw [hflushed] at h
      exact .inl ⟨row, h, rfl⟩
  | w :: w' :: ws =>
      have hlen := hcom.session.single
      simp [hflushed] at hlen
  | [w] =>
      rw [hflushed] at h
      have hkey := Table.find?_key h
      rcases customer_of_apply (Table.find?_mem h) with ⟨row', hmem, hid, hmid⟩ | rfl
      · exact .inl ⟨row', hkey ▸ hid ▸ Table.find?_of_mem hmem, hmid⟩
      · refine .inr ⟨hkey, rfl, hcom.session.writes _ (by simp [hflushed]), ?_⟩
        exact (completion_of_flushed hcom.verdict (by simp [hflushed])).2

/-- The new subscription row of a committed attempt. -/
theorem subscription_of_commit {db : Postgres} {i : WorkerId} {s : Session} {sub : String}
    {row : SubscriptionMapping} (hcom : Committing env db i s)
    (h : (s.flushed.foldl Postgres.apply db).subscriptionMappings.find? sub = some row) :
    db.subscriptionMappings.find? sub = some row ∨
      (row.stripeSubscriptionId = sub ∧ s.flushed = [.insertSubscription row] ∧
        Writes env.settings env.tiers s (.insertSubscription row) ∧
        s.event.status = .PROCESSED) := by
  match hflushed : s.flushed with
  | [] =>
      rw [hflushed] at h
      exact .inl h
  | w :: w' :: ws =>
      have hlen := hcom.session.single
      simp [hflushed] at hlen
  | [w] =>
      rw [hflushed] at h
      have hkey := Table.find?_key h
      rcases subscription_of_apply (Table.find?_mem h) with hmem | rfl
      · exact .inl (hkey ▸ Table.find?_of_mem hmem)
      · refine .inr ⟨hkey, rfl, hcom.session.writes _ (by simp [hflushed]), ?_⟩
        exact (completion_of_flushed hcom.verdict (by simp [hflushed])).2

/-! ## Rows stay -/

theorem customer_stays (h : TableMove env w label w') {c : String} {row : CustomerMapping}
    (hrow : w.db.customerMappings.find? c = some row) :
    ∃ row', w'.db.customerMappings.find? c = some row' ∧
      row'.metronomeCustomerId = row.metronomeCustomerId := by
  cases h with
  | untouched _ _ hs _ _ => exact ⟨row, hs.customer ▸ hrow, rfl⟩
  | insert _ _ hs _ => exact ⟨row, hs.customer ▸ hrow, rfl⟩
  | replay _ _ _ hs _ => exact ⟨row, hs.customer ▸ hrow, rfl⟩
  | commit _ _ _ _ hc _ _ => rw [hc]; exact customer_foldl_apply _ hrow

theorem subscription_stays (h : TableMove env w label w') {sub : String}
    {row : SubscriptionMapping} (hrow : w.db.subscriptionMappings.find? sub = some row) :
    w'.db.subscriptionMappings.find? sub = some row := by
  cases h with
  | untouched _ _ hs _ _ => exact hs.subscription ▸ hrow
  | insert _ _ hs _ => exact hs.subscription ▸ hrow
  | replay _ _ _ hs _ => exact hs.subscription ▸ hrow
  | commit _ _ _ _ _ hs _ => rw [hs]; exact subscription_foldl_apply _ hrow

/-- Where a customer row comes from. -/
theorem customer_source (h : TableMove env w label w') {c : String}
    {row : CustomerMapping} (hrow : w'.db.customerMappings.find? c = some row) :
    (∃ row', w.db.customerMappings.find? c = some row' ∧
        row'.metronomeCustomerId = row.metronomeCustomerId) ∨
      ∃ i s, w.workers i = .running s (.ret ()) ∧ Committing env w.db i s ∧
        w'.db.webhookEvents = w.db.webhookEvents.update s.event ∧
        row.stripeCustomerId = c ∧ s.flushed = [.insertCustomer row] ∧
        Writes env.settings env.tiers s (.insertCustomer row) ∧
        s.event.status = .PROCESSED := by
  cases h with
  | untouched _ _ hs _ _ => exact .inl ⟨row, hs.customer ▸ hrow, rfl⟩
  | insert _ _ hs _ => exact .inl ⟨row, hs.customer ▸ hrow, rfl⟩
  | replay _ _ _ hs _ => exact .inl ⟨row, hs.customer ▸ hrow, rfl⟩
  | commit hi hcom _ he hc _ _ =>
      rw [hc] at hrow
      exact (customer_of_commit hcom hrow).imp_right fun hnew =>
        ⟨_, _, hi, hcom, he, hnew⟩

/-- Where a subscription row comes from. -/
theorem subscription_source (h : TableMove env w label w') {sub : String}
    {row : SubscriptionMapping} (hrow : w'.db.subscriptionMappings.find? sub = some row) :
    w.db.subscriptionMappings.find? sub = some row ∨
      ∃ i s, w.workers i = .running s (.ret ()) ∧ Committing env w.db i s ∧
        w'.db.webhookEvents = w.db.webhookEvents.update s.event ∧
        row.stripeSubscriptionId = sub ∧ s.flushed = [.insertSubscription row] ∧
        Writes env.settings env.tiers s (.insertSubscription row) ∧
        s.event.status = .PROCESSED := by
  cases h with
  | untouched _ _ hs _ _ => exact .inl (hs.subscription ▸ hrow)
  | insert _ _ hs _ => exact .inl (hs.subscription ▸ hrow)
  | replay _ _ _ hs _ => exact .inl (hs.subscription ▸ hrow)
  | commit hi hcom _ he _ hs _ =>
      rw [hs] at hrow
      exact (subscription_of_commit hcom hrow).imp_right fun hnew =>
        ⟨_, _, hi, hcom, he, hnew⟩

/-- `w'` has every mapping row of `w`, with the same ids, tier and price. -/
structure Extends (w w' : World M) : Prop where
  customer : ∀ c row, w.db.customerMappings.find? c = some row →
    ∃ row', w'.db.customerMappings.find? c = some row' ∧
      row'.metronomeCustomerId = row.metronomeCustomerId
  subscription : ∀ sub row, w.db.subscriptionMappings.find? sub = some row →
    w'.db.subscriptionMappings.find? sub = some row

theorem extends_of_path {C : World M → Label M → Prop} {w w' : World M}
    (hinv : WorldInv env w) (h : Path (step env M) C w w') : Extends w w' := by
  refine h.relation (I := WorldInv env) (R := Extends) (fun w => ⟨?_, ?_⟩) ?_
    (fun _ _ _ _ hinv hs => worldInv_move hinv (step_sound hs)) ?_ hinv
  · exact fun c row hrow => ⟨row, hrow, rfl⟩
  · exact fun sub row hrow => hrow
  · intro x y z hxy hyz
    refine ⟨fun c row hrow => ?_, fun sub row hrow => ?_⟩
    · obtain ⟨row', hrow', hid⟩ := hxy.customer c row hrow
      obtain ⟨row'', hrow'', hid'⟩ := hyz.customer c row' hrow'
      exact ⟨row'', hrow'', hid'.trans hid⟩
    · exact hyz.subscription sub row (hxy.subscription sub row hrow)
  · intro x label y _ hinv hs
    have hm := tableMove hinv (step_sound hs)
    exact ⟨fun c row => customer_stays hm, fun sub row => subscription_stays hm⟩

/-! ## References -/

/-- Every subscription row refers to a customer row. -/
def Referential (w : World M) : Prop :=
  ∀ sub row, w.db.subscriptionMappings.find? sub = some row →
    ∃ customer, w.db.customerMappings.find? row.stripeCustomerId = some customer

theorem referential_move (h : Referential w) (hm : TableMove env w label w') :
    Referential w' := by
  intro sub row hrow
  have hold : ∀ c customer, w.db.customerMappings.find? c = some customer →
      ∃ customer', w'.db.customerMappings.find? c = some customer' :=
        fun c customer hfind =>
    let ⟨customer', hfind', _⟩ := customer_stays hm hfind
    ⟨customer', hfind'⟩
  rcases subscription_source hm hrow with hrow | ⟨i, s, _, hcom, _, _, _, hwrites, _⟩
  · obtain ⟨customer, hfind⟩ := h sub row hrow
    exact hold _ _ hfind
  · -- the handler has looked the customer up before it wrote the row
    cases hwrites with
    | insertSubscription _ _ _ hcustomer _ _ =>
        obtain ⟨customer', hfind, _⟩ := hcom.customerRow _ _ hcustomer
        exact hold _ _ hfind

theorem referential_of_path {C : World M → Label M → Prop} {w₀ w : World M}
    (h : Path (step env M) C w₀ w) (h₀ : Initial w₀) : Referential w := by
  refine run_invariant h h₀ (fun w hw sub row hrow => ?_)
    fun w label w' _ hinv href hm => referential_move href (tableMove hinv hm)
  rw [hw.db] at hrow
  cases hrow

/-! ## Results -/

/-- A logged result names committed rows. -/
def ResultOk (db : Postgres) (event : WebhookEvent) : Completed → Prop
  | .customer result =>
      objectId event.payload = some result.stripeCustomerId ∧
        ∃ row, db.customerMappings.find? result.stripeCustomerId = some row ∧
          row.metronomeCustomerId = result.metronomeCustomerId
  | .subscription result =>
      objectId event.payload = some result.stripeSubscriptionId ∧
        ∃ row customer,
          db.subscriptionMappings.find? result.stripeSubscriptionId = some row ∧
          db.customerMappings.find? row.stripeCustomerId = some customer ∧
          result.stripeCustomerId = row.stripeCustomerId ∧
          result.metronomeCustomerId = customer.metronomeCustomerId ∧
          result.metronomeContractId = row.metronomeContractId ∧
          result.tierName = row.currentTierName

theorem ResultOk.mono {db db' : Postgres} {event : WebhookEvent} {result : Completed}
    (h : ResultOk db event result)
    (hc : ∀ c row, db.customerMappings.find? c = some row →
      ∃ row', db'.customerMappings.find? c = some row' ∧
        row'.metronomeCustomerId = row.metronomeCustomerId)
    (hs : ∀ sub row, db.subscriptionMappings.find? sub = some row →
      db'.subscriptionMappings.find? sub = some row) : ResultOk db' event result := by
  cases result with
  | customer result =>
      obtain ⟨hid, row, hrow, hmid⟩ := h
      obtain ⟨row', hrow', hmid'⟩ := hc _ _ hrow
      exact ⟨hid, row', hrow', hmid'.trans hmid⟩
  | subscription result =>
      obtain ⟨hid, row, customer, hrow, hcustomer, h₁, h₂, h₃, h₄⟩ := h
      obtain ⟨customer', hcustomer', hmid⟩ := hc _ _ hcustomer
      exact ⟨hid, row, customer', hs _ _ hrow, hcustomer', h₁, h₂.trans hmid.symm, h₃, h₄⟩

/-- What a completed handler logs is committed with it. -/
theorem resultOk_of_commit {db db' : Postgres} {i : WorkerId} {s : Session}
    {result : Completed} (hcom : Committing env db i s)
    (hfresh : ∀ write ∈ s.flushed, Fresh db write)
    (hc : db'.customerMappings = (s.flushed.foldl Postgres.apply db).customerMappings)
    (hs : db'.subscriptionMappings =
      (s.flushed.foldl Postgres.apply db).subscriptionMappings)
    (hresult : s.result = some result) : ResultOk db' s.event result := by
  have hpayload : s.event.payload = s.loaded.payload := hcom.same.2.2.1
  have hcustomer : ∀ c row, Fact.customerRow c (some row) ∈ s.journal →
      row.stripeCustomerId = c ∧ ∃ row', db'.customerMappings.find? c = some row' ∧
        row'.metronomeCustomerId = row.metronomeCustomerId := by
    intro c row hmem
    obtain ⟨row', hfind, hmid⟩ := hcom.customerRow c row hmem
    obtain ⟨row'', hfind', hmid'⟩ := customer_foldl_apply s.flushed hfind
    exact ⟨hcom.session.customerRow c row hmem, row'', hc ▸ hfind', hmid'.trans hmid⟩
  have hsubscription : ∀ sub row, Fact.subscriptionRow sub (some row) ∈ s.journal →
      row.stripeSubscriptionId = sub ∧ db'.subscriptionMappings.find? sub = some row := by
    intro sub row hmem
    exact ⟨hcom.session.subscriptionRow sub row hmem,
      hs ▸ subscription_foldl_apply s.flushed (hcom.subscriptionRow sub row hmem)⟩
  have hnone : ∀ {settings tiers}, Verdict settings tiers s →
      Completion settings tiers s := by
    intro settings tiers hv
    cases hv with
    | processed now hcompletion _ _ => exact hcompletion
    | permanent now reason hf _ _ => rw [hf.result] at hresult; cases hresult
    | exhausted now reason hf _ _ _ => rw [hf.result] at hresult; cases hresult
    | retry now delay reason hf _ _ _ _ => rw [hf.result] at hresult; cases hresult
  cases hnone hcom.verdict with
  | ignored _ _ hres => rw [hres] at hresult; cases hresult
  | notPropagated _ _ hres => rw [hres] at hresult; cases hresult
  | customerSkipped _ hid hrow _ hres =>
      rw [hres] at hresult
      cases hresult
      obtain ⟨rfl, row', hfind, hmid⟩ := hcustomer _ _ hrow
      exact ⟨hpayload ▸ hid, row', hfind, hmid⟩
  | customerUpdated _ hid hrow _ _ _ hres =>
      rw [hres] at hresult
      cases hresult
      obtain ⟨rfl, row', hfind, hmid⟩ := hcustomer _ _ hrow
      exact ⟨hpayload ▸ hid, row', hfind, hmid⟩
  | @customerCreated row hw hflushed hres =>
      rw [hres] at hresult
      cases hresult
      have hfind := find?_apply_insertCustomer
        (hfresh (.insertCustomer row) (by simp [hflushed]))
      cases hw with
      | insertCustomer _ hid _ _ _ _ =>
          rw [hflushed] at hc
          exact ⟨hpayload ▸ hid, row, hc ▸ hfind, rfl⟩
  | subscriptionSkipped _ hid hrow hcust _ hres =>
      rw [hres] at hresult
      cases hresult
      obtain ⟨rfl, hfind⟩ := hsubscription _ _ hrow
      obtain ⟨_, customer', hfind', hmid⟩ := hcustomer _ _ hcust
      exact ⟨hpayload ▸ hid, _, customer', hfind, hfind', rfl, hmid.symm, rfl, rfl⟩
  | @subscriptionCreated row tier customer request recovered hw hcontract hcust _ hflushed
      hres =>
      rw [hres] at hresult
      cases hresult
      have hfind := find?_apply_insertSubscription
        (hfresh (.insertSubscription row) (by simp [hflushed]))
      rw [hflushed] at hs
      obtain ⟨_, customer', hfind', hmid⟩ := hcustomer _ _ hcust
      exact ⟨hpayload ▸ hcontract.subscription, row, customer', hs ▸ hfind, hfind', rfl,
        hmid.symm, rfl, rfl⟩

/-- Where a committed attempt in the history comes from. -/
theorem attempted_source (h : TableMove env w label w') {event : WebhookEvent}
    {at_ : Option Time} {result : Option Completed}
    (hmem : Entry.attempted event at_ result ∈ w'.history) :
    Entry.attempted event at_ result ∈ w.history ∨
      ∃ i s, w.workers i = .running s (.ret ()) ∧ Committing env w.db i s ∧
        (∀ write ∈ s.flushed, Fresh w.db write) ∧ event = s.event ∧ result = s.result ∧
        w'.db.webhookEvents = w.db.webhookEvents.update s.event ∧
        w'.db.customerMappings = (s.flushed.foldl Postgres.apply w.db).customerMappings ∧
        w'.db.subscriptionMappings =
          (s.flushed.foldl Postgres.apply w.db).subscriptionMappings := by
  cases h with
  | untouched added _ _ hh hquiet =>
      rw [hh] at hmem
      rcases List.mem_append.mp hmem with hmem | hmem
      · exact (hquiet _ hmem).elim
      · exact .inl hmem
  | insert _ _ _ hh =>
      rw [hh] at hmem
      rcases List.mem_cons.mp hmem with hmem | hmem
      · cases hmem
      · exact .inl hmem
  | replay _ _ _ _ hh =>
      rw [hh] at hmem
      rcases List.mem_cons.mp hmem with hmem | hmem
      · cases hmem
      · exact .inl hmem
  | commit hi hcom hfresh he hc hs hh =>
      rw [hh] at hmem
      rcases List.mem_cons.mp hmem with hmem | hmem
      · obtain ⟨rfl, _, rfl⟩ := Entry.attempted.inj hmem
        exact .inr ⟨_, _, hi, hcom, hfresh, rfl, rfl, he, hc, hs⟩
      · exact .inl hmem

/-- Every logged result names committed rows. -/
def ResultsOk (w : World M) : Prop :=
  ∀ event at_ result, Entry.attempted event at_ (some result) ∈ w.history →
    ResultOk w.db event result

theorem resultsOk_of_path {C : World M → Label M → Prop} {w₀ w : World M}
    (h : Path (step env M) C w₀ w) (h₀ : Initial w₀) : ResultsOk w := by
  refine run_invariant h h₀ (fun w hw event at_ result hmem => ?_)
    fun w label w' _ hinv hok hm event at_ result hmem => ?_
  · rw [hw.history] at hmem
    cases hmem
  · have hmm := tableMove hinv hm
    have hold : Entry.attempted event at_ (some result) ∈ w.history →
        ResultOk w'.db event result := fun h =>
      (hok event at_ result h).mono (fun c row => customer_stays hmm)
        fun sub row => subscription_stays hmm
    rcases attempted_source hmm hmem with
      hmem | ⟨i, s, _, hcom, hfresh, rfl, hresult, _, hc, hs⟩
    · exact hold hmem
    · exact resultOk_of_commit hcom hfresh hc hs hresult.symm

/-- A customer lookup of a running worker sees the committed row. -/
theorem lookup_reply {i : WorkerId} {s : Session} {c : String}
    {k : Option CustomerMapping → Effect Unit} (hinv : WorldInv env w)
    (hi : w.workers i = .running s (.perform (.lookupCustomerMapping c) k))
    {choice : Choice} {r : Option CustomerMapping}
    (hx : exec env w i s (.lookupCustomerMapping c) choice = some (w', r)) :
    r = w.db.customerMappings.find? c := by
  have hrun := hinv.running hi
  have hallowed : Allowed env.settings env.tiers s (.lookupCustomerMapping c) :=
    hrun.always.here
  have hview := view_of_own_nil (hrun.own.trans hallowed.1)
  simp only [exec, hview] at hx
  exact (Prod.mk.inj (Option.some.inj hx)).2.symm

/-- **The mapping tables are append-only, injective and referentially intact**,
whether or not the database enforces the foreign key.  In particular a handler
that has found a subscription row is told the customer row it refers to, so
`requireMetronomeCustomerId` returns; and the ids on the skip path are the
committed ones. -/
theorem mappings_append_only {w₀ w w' : World M} (h : Reaches (step env M) w₀ w)
    (h₀ : Initial w₀) (h' : Reaches (step env M) w w') :
    (∀ c row, w.db.customerMappings.find? c = some row →
      ∃ row', w'.db.customerMappings.find? c = some row' ∧
        row'.metronomeCustomerId = row.metronomeCustomerId) ∧
    (∀ sub row, w.db.subscriptionMappings.find? sub = some row →
      w'.db.subscriptionMappings.find? sub = some row) ∧
    (∀ a ∈ w.db.customerMappings.rows, ∀ b ∈ w.db.customerMappings.rows,
      a.metronomeCustomerId = b.metronomeCustomerId → a = b) ∧
    (∀ a ∈ w.db.subscriptionMappings.rows, ∀ b ∈ w.db.subscriptionMappings.rows,
      a.metronomeContractId = b.metronomeContractId → a = b) ∧
    (∀ row ∈ w.db.subscriptionMappings.rows,
      ∃ customer ∈ w.db.customerMappings.rows,
        customer.stripeCustomerId = row.stripeCustomerId) ∧
    (∀ i s (k : Option CustomerMapping → Effect Unit) sub row,
      Fact.subscriptionRow sub (some row) ∈ s.journal →
      w.workers i =
        .running s (.perform (.lookupCustomerMapping row.stripeCustomerId) k) →
      ∀ choice w' r, exec env w i s (.lookupCustomerMapping row.stripeCustomerId) choice =
        some (w', r) → ∃ customer ∈ w.db.customerMappings.rows,
          r = some customer ∧ customer.stripeCustomerId = row.stripeCustomerId) ∧
    ∀ event at_ result,
    Entry.attempted event at_ (some (.subscription result)) ∈ w.history →
      result.outcome = .SKIPPED_ALREADY_MAPPED →
      ∃ row ∈ w.db.subscriptionMappings.rows, ∃ customer ∈ w.db.customerMappings.rows,
        customer.stripeCustomerId = row.stripeCustomerId ∧
        result = ⟨.SKIPPED_ALREADY_MAPPED, row.stripeSubscriptionId, row.stripeCustomerId,
          customer.metronomeCustomerId, row.metronomeContractId,
          row.currentTierName⟩ := by
  have hinv := worldInv_of_path h h₀
  have hext := extends_of_path hinv h'
  have href := referential_of_path h h₀
  have hres := resultsOk_of_path h h₀
  refine ⟨hext.customer, hext.subscription, fun a ha b hb hab => ?_,
    fun a ha b hb hab => ?_,
    fun row hrow => ?_, fun i s k sub row hmem hi choice w' r hx => ?_,
    fun event at_ result hmem hskip => ?_⟩
  · have hkey := hinv.consistent.customerIds a ha b hb hab
    have hfind := Table.find?_of_mem ha
    rw [hkey, Table.find?_of_mem hb] at hfind
    exact (Option.some.inj hfind).symm
  · have hkey := hinv.consistent.contractIds a ha b hb hab
    have hfind := Table.find?_of_mem ha
    rw [hkey, Table.find?_of_mem hb] at hfind
    exact (Option.some.inj hfind).symm
  · obtain ⟨customer, hfind⟩ := href _ row (Table.find?_of_mem hrow)
    exact ⟨customer, Table.find?_mem hfind, Table.find?_key hfind⟩
  · obtain ⟨customer, hfind⟩ :=
      href _ row ((hinv.running hi).subscriptionRow sub row hmem)
    rw [lookup_reply hinv hi hx]
    exact ⟨customer, Table.find?_mem hfind, hfind, Table.find?_key hfind⟩
  · obtain ⟨_, row, customer, hrow, hcustomer, h₁, h₂, h₃, h₄⟩ := hres _ _ _ hmem
    refine ⟨row, Table.find?_mem hrow, customer, Table.find?_mem hcustomer,
      Table.find?_key hcustomer, ?_⟩
    cases result
    simp only at hskip h₁ h₂ h₃ h₄ hrow
    subst hskip
    rw [h₁, h₂, h₃, h₄, Table.find?_key hrow]

def adaUpdated : Delivery :=
  customerDelivery "evt_3" "customer.updated" 3 "cus_1" "Ada Lovelace"

/-- Ada has subscribed. -/
def settledAda : World (metronome policyRejecting) :=
  runFrom (installation [adaCreated, adaSubscribed, adaUpdated]) policyRejecting
    ([.webhook adaCreated.request, .tick 1] ++ createsCustomer 0 0 "m1" ++
      [.webhook adaSubscribed.request, .tick 5] ++ createsContract 0 1 "k1")

/-- She is renamed after that. -/
def updatedAda : World (metronome policyRejecting) :=
  (run (step (installation [adaCreated, adaSubscribed, adaUpdated]) _) settledAda
    ([.webhook adaUpdated.request, .tick 8] ++ claims 1 ++ performs 1 3 ++
      [.serve (.deliver 2 ""), receives 1 (.ok .none)] ++ performs 1 8 ++
        [.finish 1])).getD
        settledAda

theorem settledAda_rows : settledAda.db.customerMappings.rows = [⟨"cus_1", "m1", 1⟩] ∧
    settledAda.db.subscriptionMappings.rows =
      [⟨"sub_1", "cus_1", "k1", "startup", "price_REPLACE_ME_startup", 5⟩] ∧
    updatedAda.db.customerMappings.rows = [⟨"cus_1", "m1", 8⟩] := by
  decide +kernel

theorem mappings_append_only_updatedAda :
    (∃ row, updatedAda.db.customerMappings.find? "cus_1" = some row ∧
      row.metronomeCustomerId = "m1") ∧
    updatedAda.db.subscriptionMappings.find? "sub_1" =
      some ⟨"sub_1", "cus_1", "k1", "startup", "price_REPLACE_ME_startup", 5⟩ ∧
    ∀ row ∈ settledAda.db.subscriptionMappings.rows,
      ∃ customer ∈ settledAda.db.customerMappings.rows,
        customer.stripeCustomerId = row.stripeCustomerId := by
  obtain ⟨hcustomer, hsubscription, _, _, hreferences, _⟩ := mappings_append_only
    (reaches_runFrom (installation [adaCreated, adaSubscribed, adaUpdated]) _ _)
    (initial_fresh _) (path_runWhen_getD (fun _ _ _ => trivial) settledAda _ :
      Reaches (step (installation [adaCreated, adaSubscribed, adaUpdated]) _) _
        updatedAda)
  obtain ⟨hcustomers, hsubscriptions, _⟩ := settledAda_rows
  have hmapped : ⟨"cus_1", "m1", 1⟩ ∈ settledAda.db.customerMappings.rows :=
    hcustomers ▸ List.mem_cons_self
  have hsubscribed : ⟨"sub_1", "cus_1", "k1", "startup", "price_REPLACE_ME_startup", 5⟩ ∈
      settledAda.db.subscriptionMappings.rows := hsubscriptions ▸ List.mem_cons_self
  exact ⟨hcustomer "cus_1" _ (Table.find?_of_mem hmapped),
    hsubscription "sub_1" _ (Table.find?_of_mem hsubscribed), hreferences⟩

/-! ## Processed means mapped -/

/-- Mapped and processed agree: every row has a processed event it was made
from, and every processed event has its row. -/
structure Mapped (env : Env) (w : World M) : Prop where
  customer : ∀ c row, w.db.customerMappings.find? c = some row →
    ∃ e event, w.db.webhookEvents.find? e = some event ∧ IsCustomer event ∧
      objectId event.payload = some c ∧ event.status = .PROCESSED
  ofCustomer : ∀ e event, w.db.webhookEvents.find? e = some event → IsCustomer event →
    event.status = .PROCESSED →
    ∃ c row, objectId event.payload = some c ∧ w.db.customerMappings.find? c = some row
  subscription : ∀ sub row, w.db.subscriptionMappings.find? sub = some row →
    ∃ e event tier, w.db.webhookEvents.find? e = some event ∧
      handlerOf event = some .subscriptionCreated ∧ event.status = .PROCESSED ∧
      objectId event.payload = some sub ∧
      objectCustomer event.payload = some row.stripeCustomerId ∧
      objectPrice event.payload = some row.currentStripePriceId ∧
      env.tiers.lookup row.currentStripePriceId = some tier ∧
      row.currentTierName = tier.name
  ofSubscription : ∀ e event, w.db.webhookEvents.find? e = some event →
    handlerOf event = some .subscriptionCreated → event.status = .PROCESSED →
    ∃ sub row, objectId event.payload = some sub ∧
      w.db.subscriptionMappings.find? sub = some row

/-- A processed event stays as it is. -/
theorem processed_stays (h : TableMove env w label w') {e : String} {event : WebhookEvent}
    (hfind : w.db.webhookEvents.find? e = some event)
    (hstatus : event.status = .PROCESSED) :
    w'.db.webhookEvents.find? e = some event := by
  cases h with
  | untouched _ he _ _ _ => rw [he]; exact hfind
  | insert _ he _ _ => rw [he]; exact Table.find?_insertNew_of_some hfind
  | @replay w' row hrow hfailed he _ _ =>
      rw [he, Table.find?_update_ne]
      · exact hfind
      · intro hkey
        have hkey : row.stripeEventId = e := hkey
        rw [← hkey, hrow] at hfind
        cases hfind
        rw [hfailed] at hstatus
        cases hstatus
  | commit _ hcom _ he _ _ _ =>
      rw [he, Table.find?_update_ne]
      · exact hfind
      · intro hkey
        rw [← hkey, hcom.row] at hfind
        cases hfind
        rw [hcom.loadedPending] at hstatus
        cases hstatus

/-- A newly processed event has just completed its handler. -/
theorem processed_source (h : TableMove env w label w') {e : String}
    {event : WebhookEvent} (hfind : w'.db.webhookEvents.find? e = some event)
    (hstatus : event.status = .PROCESSED) :
    w.db.webhookEvents.find? e = some event ∨
      ∃ i s, w.workers i = .running s (.ret ()) ∧ Committing env w.db i s ∧
        (∀ write ∈ s.flushed, Fresh w.db write) ∧
        event = s.event ∧ Completion env.settings env.tiers s ∧
        w'.db.customerMappings = (s.flushed.foldl Postgres.apply w.db).customerMappings ∧
        w'.db.subscriptionMappings =
          (s.flushed.foldl Postgres.apply w.db).subscriptionMappings := by
  cases h with
  | untouched _ he _ _ _ => rw [he] at hfind; exact .inl hfind
  | insert _ he _ _ =>
      rw [he, Table.find?_insertNew] at hfind
      split at hfind
      · cases hfind; cases hstatus
      · exact .inl hfind
  | replay _ _ he _ _ =>
      rcases Table.find?_update_eq_some (he ▸ hfind) with ⟨_, rfl⟩ | ⟨_, hfind⟩
      · cases hstatus
      · exact .inl hfind
  | commit hi hcom hfresh he hc hs _ =>
      rcases Table.find?_update_eq_some (he ▸ hfind) with ⟨_, rfl⟩ | ⟨_, hfind⟩
      · exact .inr ⟨_, _, hi, hcom, hfresh, rfl,
          completion_of_processed hcom.verdict hstatus,
          hc, hs⟩
      · exact .inl hfind

theorem handlerOf_same {row event : WebhookEvent} (h : SameEvent row event) :
    handlerOf event = handlerOf row := by
  rw [handlerOf, handlerOf, h.2.1]

/-- A completed customer event has its row. -/
theorem customer_of_completion {db db' : Postgres} {i : WorkerId} {s : Session}
    (hcom : Committing env db i s) (hfresh : ∀ write ∈ s.flushed, Fresh db write)
    (hcompletion : Completion env.settings env.tiers s) (hcustomer : IsCustomer s.event)
    (hc : db'.customerMappings = (s.flushed.foldl Postgres.apply db).customerMappings) :
    ∃ c row, objectId s.event.payload = some c ∧
      db'.customerMappings.find? c = some row := by
  have hpayload : s.event.payload = s.loaded.payload := hcom.same.2.2.1
  have hstays : ∀ c row, Fact.customerRow c (some row) ∈ s.journal →
      ∃ row', db'.customerMappings.find? c = some row' := by
    intro c row hmem
    obtain ⟨row', hfind, _⟩ := hcom.customerRow c row hmem
    obtain ⟨row'', hfind', _⟩ := customer_foldl_apply s.flushed hfind
    exact ⟨row'', hc ▸ hfind'⟩
  rw [IsCustomer, handlerOf_same hcom.same] at hcustomer
  rw [hpayload]
  rcases hcompletion.of_customer hcustomer with
    ⟨c, row, _, hid, hrow⟩ | ⟨c, row, _, _, _, hid, hrow, _, _⟩ | ⟨row, hw, hflushed⟩
  · obtain ⟨row', hfind⟩ := hstays c row hrow
    exact ⟨c, row', hid, hfind⟩
  · obtain ⟨row', hfind⟩ := hstays c row hrow
    exact ⟨c, row', hid, hfind⟩
  · have hfind := find?_apply_insertCustomer
      (hfresh (.insertCustomer row) (by simp [hflushed]))
    rw [hflushed] at hc
    cases hw with
    | insertCustomer _ hid _ _ _ _ => exact ⟨_, row, hid, hc ▸ hfind⟩

/-- A completed `customer.subscription.created` event has its row. -/
theorem subscription_of_completion {db db' : Postgres} {i : WorkerId} {s : Session}
    (hcom : Committing env db i s) (hfresh : ∀ write ∈ s.flushed, Fresh db write)
    (hcompletion : Completion env.settings env.tiers s)
    (hsub : handlerOf s.event = some .subscriptionCreated)
    (hs : db'.subscriptionMappings =
      (s.flushed.foldl Postgres.apply db).subscriptionMappings) :
    ∃ sub row, objectId s.event.payload = some sub ∧
      db'.subscriptionMappings.find? sub = some row := by
  have hpayload : s.event.payload = s.loaded.payload := hcom.same.2.2.1
  rw [handlerOf_same hcom.same] at hsub
  rw [hpayload]
  cases hcompletion with
  | ignored hh _ _ => rw [hh] at hsub; cases hsub
  | notPropagated hh _ _ => rcases hh with hh | hh <;> rw [hh] at hsub <;> cases hsub
  | customerSkipped hh _ _ _ _ => rw [hh] at hsub; cases hsub
  | customerUpdated hh _ _ _ _ _ _ => rw [hh] at hsub; cases hsub
  | customerCreated hw _ _ =>
      cases hw with
      | insertCustomer hh _ _ _ _ _ => exact absurd hsub hh.ne_subscriptionCreated
  | subscriptionSkipped _ hid hrow _ _ _ =>
      have hfind := subscription_foldl_apply s.flushed (hcom.subscriptionRow _ _ hrow)
      exact ⟨_, _, hid, hs ▸ hfind⟩
  | @subscriptionCreated row tier customer request recovered hw hcontract _ _
      hflushed _ =>
      have hfind := find?_apply_insertSubscription
        (hfresh (.insertSubscription row) (by simp [hflushed]))
      rw [hflushed] at hs
      exact ⟨_, row, hcontract.subscription, hs ▸ hfind⟩

theorem mapped_move (h : Mapped env w) (hm : TableMove env w label w') :
    Mapped env w' where
  customer c row hrow := by
    rcases customer_source hm hrow with
      ⟨row', hrow', _⟩ | ⟨i, s, _, hcom, he, rfl, _, hw, hs⟩
    · obtain ⟨e, event, hfind, hcustomer, hid, hstatus⟩ := h.customer c row' hrow'
      exact ⟨e, event, processed_stays hm hfind hstatus, hcustomer, hid, hstatus⟩
    · cases hw with
      | insertCustomer hh hid _ _ _ _ =>
          refine ⟨_, s.event, he ▸ Table.find?_update_self hcom.row, ?_, ?_, hs⟩
          · rw [IsCustomer, handlerOf_same hcom.same]
            exact hh
          · rw [hcom.same.2.2.1]
            exact hid
  ofCustomer e event hfind hcustomer hstatus := by
    rcases processed_source hm hfind hstatus with
      hfind | ⟨i, s, _, hcom, hfresh, rfl, hcompletion, hc, _⟩
    · obtain ⟨c, row, hid, hrow⟩ := h.ofCustomer e event hfind hcustomer hstatus
      obtain ⟨row', hrow', _⟩ := customer_stays hm hrow
      exact ⟨c, row', hid, hrow'⟩
    · exact customer_of_completion hcom hfresh hcompletion hcustomer hc
  subscription sub row hrow := by
    rcases subscription_source hm hrow with hrow | ⟨i, s, _, hcom, he, rfl, _, hw, hs⟩
    · obtain ⟨e, event, tier, hfind, hh, hstatus, hrest⟩ := h.subscription sub row hrow
      exact ⟨e, event, tier, processed_stays hm hfind hstatus, hh, hstatus, hrest⟩
    · cases hw with
      | @insertSubscription _ tier customer request recovered hh hc _ _ hname _ =>
          refine ⟨_, s.event, tier, he ▸ Table.find?_update_self hcom.row, ?_, hs, ?_⟩
          · rw [handlerOf_same hcom.same]
            exact hh
          · rw [hcom.same.2.2.1]
            exact ⟨hc.subscription, hc.customer, hc.price, hc.known, hname⟩
  ofSubscription e event hfind hsub hstatus := by
    rcases processed_source hm hfind hstatus with
      hfind | ⟨i, s, _, hcom, hfresh, rfl, hcompletion, _, hs⟩
    · obtain ⟨sub, row, hid, hrow⟩ := h.ofSubscription e event hfind hsub hstatus
      exact ⟨sub, row, hid, subscription_stays hm hrow⟩
    · exact subscription_of_completion hcom hfresh hcompletion hsub hs

theorem mapped_of_path {C : World M → Label M → Prop} {w₀ w : World M}
    (h : Path (step env M) C w₀ w) (h₀ : Initial w₀) : Mapped env w := by
  refine run_invariant h h₀ (fun w hw => ?_)
    fun w label w' _ hinv hok hm => mapped_move hok (tableMove hinv hm)
  constructor <;> rw [hw.db] <;> intro _ _ hfind <;> cases hfind

/-! ## Order independence -/

/-- Two worlds, possibly of different remote services, store the same events. -/
def SameEvents {M M' : Metronome} (w : World M) (v : World M') : Prop :=
  ∀ e, (w.db.webhookEvents.find? e).map (fun event => (event.eventType, event.payload)) =
    (v.db.webhookEvents.find? e).map fun event => (event.eventType, event.payload)

def AllProcessed (w : World M) : Prop :=
  ∀ event ∈ w.db.webhookEvents.rows, event.status = .PROCESSED

/-- One `customer.subscription.created` event per subscription. -/
def OneCreatedEach (w : World M) : Prop :=
  ∀ a ∈ w.db.webhookEvents.rows, ∀ b ∈ w.db.webhookEvents.rows,
    a.eventType = "customer.subscription.created" →
    b.eventType = "customer.subscription.created" →
    objectId a.payload = objectId b.payload → a.stripeEventId = b.stripeEventId

/-- What a subscription row records besides the contract and the time. -/
def recorded (row : SubscriptionMapping) : String × String × String :=
  (row.stripeCustomerId, row.currentStripePriceId, row.currentTierName)

theorem SameEvents.symm {M M' : Metronome} {w : World M} {v : World M'}
    (h : SameEvents w v) : SameEvents v w := fun e => (h e).symm

theorem SameEvents.find? {M M' : Metronome} {w : World M} {v : World M'}
    (h : SameEvents w v) {e : String} {event : WebhookEvent}
    (hfind : w.db.webhookEvents.find? e = some event) :
    ∃ event', v.db.webhookEvents.find? e = some event' ∧
      event'.eventType = event.eventType ∧ event'.payload = event.payload := by
  have heq := h e
  rw [hfind, Option.map_some] at heq
  obtain ⟨event', hfind', hpair⟩ := Option.map_eq_some_iff.mp heq.symm
  exact ⟨event', hfind', (Prod.mk.inj hpair).1, (Prod.mk.inj hpair).2⟩

theorem customer_agree {M M' : Metronome} {w : World M} {v : World M'} (hw : Mapped env w)
    (hv : Mapped env v) (hsame : SameEvents w v) (hall : AllProcessed v) {c : String}
    {row : CustomerMapping} (hrow : w.db.customerMappings.find? c = some row) :
    ∃ row', v.db.customerMappings.find? c = some row' := by
  obtain ⟨e, event, hfind, hcustomer, hid, _⟩ := hw.customer c row hrow
  obtain ⟨event', hfind', htype, hpayload⟩ := hsame.find? hfind
  have hcustomer' : IsCustomer event' := by
    rw [isCustomer_iff, htype]
    exact isCustomer_iff.mp hcustomer
  obtain ⟨c', row', hid', hrow'⟩ :=
    hv.ofCustomer e event' hfind' hcustomer' (hall _ (Table.find?_mem hfind'))
  rw [hpayload, hid] at hid'
  cases hid'
  exact ⟨row', hrow'⟩

theorem subscription_agree {M M' : Metronome} {w : World M} {v : World M'}
    (hw : Mapped env w) (hv : Mapped env v) (hsame : SameEvents w v)
    (hall : AllProcessed v)
    (hone : OneCreatedEach v) {sub : String} {row : SubscriptionMapping}
    (hrow : w.db.subscriptionMappings.find? sub = some row) :
    ∃ row', v.db.subscriptionMappings.find? sub = some row' ∧
      recorded row' = recorded row := by
  obtain ⟨e, event, tier, hfind, hsub, _, hid, hcust, hprice, htier, hname⟩ :=
    hw.subscription sub row hrow
  obtain ⟨event', hfind', htype, hpayload⟩ := hsame.find? hfind
  have hsub' : handlerOf event' = some .subscriptionCreated := by
    rw [isSubscription_iff, htype]
    exact isSubscription_iff.mp hsub
  obtain ⟨sub', row', hid', hrow'⟩ :=
    hv.ofSubscription e event' hfind' hsub' (hall _ (Table.find?_mem hfind'))
  rw [hpayload, hid] at hid'
  cases hid'
  refine ⟨row', hrow', ?_⟩
  obtain ⟨e'', event'', tier'', hfind'', hsub'', _, hid'', hcust'', hprice'',
    htier'', hname''⟩ :=
    hv.subscription sub row' hrow'
  -- the event the row was made from is the one created event of the subscription
  have hkey : e'' = e := by
    rw [← Table.find?_key hfind'', ← Table.find?_key hfind']
    exact hone _ (Table.find?_mem hfind'') _ (Table.find?_mem hfind')
      (isSubscription_iff.mp hsub'') (isSubscription_iff.mp hsub')
      (by rw [hid'', hpayload, hid])
  have hevent : event'' = event' := by
    rw [hkey, hfind'] at hfind''
    exact (Option.some.inj hfind'').symm
  rw [hevent, hpayload, hcust] at hcust''
  rw [hevent, hpayload, hprice] at hprice''
  have hcustEq := Option.some.inj hcust''
  have hpriceEq := Option.some.inj hprice''
  rw [← hpriceEq, htier] at htier''
  have htierEq := Option.some.inj htier''
  simp only [recorded, hname, hname'', hcustEq, hpriceEq, htierEq]

/-- **Processed means mapped, and mapped means processed**; so once the same
events are processed, in whatever order and with whatever answers, the mapping
tables agree on keys, customers, prices and tiers. -/
theorem processed_iff_mapped {M' : Metronome} {w₀ w : World M} {v₀ v : World M'}
    (h : Reaches (step env M) w₀ w) (h₀ : Initial w₀)
    (hv : Reaches (step env M') v₀ v) (hv₀ : Initial v₀) :
    (∀ c, (∃ row ∈ w.db.customerMappings.rows, row.stripeCustomerId = c) ↔
      ∃ event ∈ w.db.webhookEvents.rows,
        (event.eventType = "customer.created" ∨ event.eventType = "customer.updated") ∧
        objectId event.payload = some c ∧ event.status = .PROCESSED) ∧
    (∀ sub, (∃ row ∈ w.db.subscriptionMappings.rows, row.stripeSubscriptionId = sub) ↔
      ∃ event ∈ w.db.webhookEvents.rows,
        event.eventType = "customer.subscription.created" ∧
        objectId event.payload = some sub ∧ event.status = .PROCESSED) ∧
    (∀ row ∈ w.db.subscriptionMappings.rows, ∃ event ∈ w.db.webhookEvents.rows,
      event.eventType = "customer.subscription.created" ∧ event.status = .PROCESSED ∧
      objectId event.payload = some row.stripeSubscriptionId ∧
      objectCustomer event.payload = some row.stripeCustomerId ∧
      objectPrice event.payload = some row.currentStripePriceId ∧
      ∃ tier, env.tiers.lookup row.currentStripePriceId = some tier ∧
        row.currentTierName = tier.name) ∧
    (SameEvents w v → AllProcessed w → AllProcessed v → OneCreatedEach w →
      OneCreatedEach v →
      (∀ c, (w.db.customerMappings.find? c).isSome =
        (v.db.customerMappings.find? c).isSome) ∧
      ∀ sub, (w.db.subscriptionMappings.find? sub).map recorded =
        (v.db.subscriptionMappings.find? sub).map recorded) := by
  have hmap := mapped_of_path h h₀
  have hmap' := mapped_of_path hv hv₀
  refine ⟨fun c => ⟨?_, ?_⟩, fun sub => ⟨?_, ?_⟩, fun row hrow => ?_,
    fun hsame hall hall' hone hone' => ⟨fun c => ?_, fun sub => ?_⟩⟩
  · rintro ⟨row, hrow, rfl⟩
    obtain ⟨e, event, hfind, hcustomer, hid, hstatus⟩ :=
      hmap.customer _ row (Table.find?_of_mem hrow)
    exact ⟨event, Table.find?_mem hfind, isCustomer_iff.mp hcustomer, hid, hstatus⟩
  · rintro ⟨event, hmem, htype, hid, hstatus⟩
    obtain ⟨c', row, hid', hrow⟩ := hmap.ofCustomer _ event (Table.find?_of_mem hmem)
      (isCustomer_iff.mpr htype) hstatus
    rw [hid] at hid'
    cases hid'
    exact ⟨row, Table.find?_mem hrow, Table.find?_key hrow⟩
  · rintro ⟨row, hrow, rfl⟩
    obtain ⟨e, event, tier, hfind, hsub, hstatus, hid, _⟩ :=
      hmap.subscription _ row (Table.find?_of_mem hrow)
    exact ⟨event, Table.find?_mem hfind, isSubscription_iff.mp hsub, hid, hstatus⟩
  · rintro ⟨event, hmem, htype, hid, hstatus⟩
    obtain ⟨sub', row, hid', hrow⟩ :=
      hmap.ofSubscription _ event (Table.find?_of_mem hmem)
      (isSubscription_iff.mpr htype) hstatus
    rw [hid] at hid'
    cases hid'
    exact ⟨row, Table.find?_mem hrow, Table.find?_key hrow⟩
  · obtain ⟨e, event, tier, hfind, hsub, hstatus, hid, hcust, hprice, htier, hname⟩ :=
      hmap.subscription _ row (Table.find?_of_mem hrow)
    exact ⟨event, Table.find?_mem hfind, isSubscription_iff.mp hsub, hstatus, hid, hcust,
      hprice, tier, htier, hname⟩
  · cases hc : w.db.customerMappings.find? c with
    | some row =>
        obtain ⟨row', hrow'⟩ := customer_agree hmap hmap' hsame hall' hc
        rw [hrow']
        rfl
    | none =>
        cases hc' : v.db.customerMappings.find? c with
        | none => rfl
        | some row' =>
            obtain ⟨row, hrow⟩ := customer_agree hmap' hmap hsame.symm hall hc'
            rw [hrow] at hc
            cases hc
  · cases hs : w.db.subscriptionMappings.find? sub with
    | some row =>
        obtain ⟨row', hrow', hrec⟩ := subscription_agree hmap hmap' hsame hall' hone' hs
        rw [hrow', Option.map_some, Option.map_some, hrec]
    | none =>
        cases hs' : v.db.subscriptionMappings.find? sub with
        | none => rfl
        | some row' =>
            obtain ⟨row, hrow, _⟩ :=
              subscription_agree hmap' hmap hsame.symm hall hone hs'
            rw [hrow] at hs
            cases hs

theorem processed_iff_mapped_subscribedAda :
    subscribedAda.db.subscriptionMappings.rows.map recorded =
        [("cus_1", "price_REPLACE_ME_startup", "startup")] ∧
      ((∃ row ∈ subscribedAda.db.subscriptionMappings.rows,
          row.stripeSubscriptionId = "sub_1") ↔
        ∃ event ∈ subscribedAda.db.webhookEvents.rows,
          event.eventType = "customer.subscription.created" ∧
          objectId event.payload = some "sub_1" ∧ event.status = .PROCESSED) :=
  ⟨by rw [subscribedAda_rows]; rfl,
    (processed_iff_mapped (reaches_runFrom _ _ _) (initial_fresh _)
    (reaches_runFrom (installation [adaCreated, adaSubscribed]) policyRejecting [])
    (initial_fresh _)).2.1 "sub_1"⟩

end Sidecar.Ports.Mappings
