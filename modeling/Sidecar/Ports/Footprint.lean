import Sidecar.Ports.Solo

/-!
# What an event concerns

An event is about one Stripe customer and at most one subscription.  The
decision on it, its Metronome calls and the constraints on its row depend on
that customer's rows and objects alone.

## Main results

* `named_of_decision` — the calls of an attempt name the customer.
* `recorded_spec` — so does the row that it writes.
* `work_agrees` — an attempt does the same work where its customer finds the same.
-/

namespace Sidecar.Ports.Footprint

open Sidecar.Verified.KeyedTable
open Sidecar.Verified.Resumption
open Sidecar.Verified.Transition
open Sidecar.Ports.Python
open Sidecar.Ports.Config
open Sidecar.Ports.Mappers hiding requireStr
open Sidecar.Ports.Models
open Sidecar.Ports.Effects
open Sidecar.Ports.MetronomeClient
open Sidecar.Ports.Handlers
open Sidecar.Ports.Worker
open Sidecar.Ports.System
open Sidecar.Ports.Attempt
open Sidecar.Ports.Execution
open Sidecar.Ports.Moves
open Sidecar.Ports.Transactions
open Sidecar.Ports.Invariant
open Sidecar.Ports.Mappings
open Sidecar.Ports.Remote
open Sidecar.Ports.Plans
open Sidecar.Ports.Outcomes
open Sidecar.Ports.Traffic
open Sidecar.Ports.Services
open Sidecar.Ports.Solo

/-! ## What an event concerns -/

/-- The Stripe customer that an event is about. -/
def concerned (row : WebhookEvent) : Option String :=
  match handlerOf row with
  | some .customerCreated | some .customerUpdated => objectId row.payload
  | some .subscriptionCreated | some .subscriptionUpdated | some .subscriptionDeleted =>
      objectCustomer row.payload
  | none => none

/-- The Stripe subscription that an event is about. -/
def subscriptionOf (row : WebhookEvent) : Option String :=
  match handlerOf row with
  | some .subscriptionCreated | some .subscriptionUpdated | some .subscriptionDeleted =>
      objectId row.payload
  | _ => none

/-- What a subscription's event is about. -/
theorem subscriptionCreated_about {row : WebhookEvent} {sub c : String}
    (hh : handlerOf row = some .subscriptionCreated)
    (hid : objectId row.payload = some sub) (hc : objectCustomer row.payload = some c) :
    subscriptionOf row = some sub ∧ concerned row = some c := by
  rw [subscriptionOf, concerned, hh]
  exact ⟨hid, hc⟩

/-- The stored events of one subscription name one customer, which Stripe never
changes. -/
def OneCustomer {M : Metronome} (w : World M) : Prop :=
  ∀ e row, w.db.webhookEvents.find? e = some row →
    ∀ e' row', w.db.webhookEvents.find? e' = some row' →
    ∀ sub, subscriptionOf row = some sub → subscriptionOf row' = some sub →
    ∀ c c', concerned row = some c → concerned row' = some c' → c = c'

/-- Two events about different customers and, if both are about subscriptions,
different subscriptions. -/
structure Independent (row₁ row₂ : WebhookEvent) : Prop where
  customer : ∀ c, concerned row₁ = some c → concerned row₂ ≠ some c
  subscription : ∀ sub, subscriptionOf row₁ = some sub → subscriptionOf row₂ ≠ some sub

theorem Independent.symm {row₁ row₂ : WebhookEvent} (h : Independent row₁ row₂) :
    Independent row₂ row₁ :=
  ⟨fun c h₂ h₁ => h.customer c h₁ h₂, fun sub h₂ h₁ => h.subscription sub h₁ h₂⟩

/-- A row that is written for an event is about what the event is about. -/
def Concerns (row : WebhookEvent) : Write → Prop
  | .insertCustomer r => concerned row = some r.stripeCustomerId
  | .insertSubscription r =>
      concerned row = some r.stripeCustomerId ∧ subscriptionOf row =
        some r.stripeSubscriptionId
  | .touchCustomer c _ => concerned row = some c

/-- The Stripe customer that a call is made for. -/
def Call.customer : Call → String
  | .createCustomer c _ => c
  | .rename row _ => row.stripeCustomerId
  | .createContract _ c _ _ _ _ => c

section Decided

variable {settings : Settings} {tiers : TierTable} {ρ ρ' : Surroundings}
    {row : WebhookEvent}
  {call : Call} {σ : Service}

theorem planned_of_decision (h : decision settings tiers ρ row = .ok (.act call)) :
    ∃ handler, handlerOf row = some handler ∧
      Planned settings tiers ρ row.payload handler call := by
  cases hh : handlerOf row with
  | none =>
      rw [decision, hh] at h
      cases h
  | some handler =>
      rw [decision_eq hh] at h
      exact ⟨handler, rfl, plan_eq_act_iff.mp h⟩

/-- A call is made for the customer that the event concerns. -/
theorem concerned_of_decision (h : decision settings tiers ρ row = .ok (.act call)) :
    concerned row = some (Call.customer call) := by
  obtain ⟨handler, hh, hplanned⟩ := planned_of_decision h
  unfold concerned
  rw [hh]
  cases hplanned with
  | createCustomer hhandler hid _ _ =>
      rcases hhandler with rfl | rfl
      · exact hid
      · exact hid
  | rename hhandler hid hrow _ =>
      subst hhandler
      rw [Call.customer, ρ.customers_id _ _ hrow]
      exact hid
  | createContract hhandler _ _ hcontract =>
      subst hhandler
      exact hcontract.customer

theorem subscriptionOf_decision {sub c price : String} {tier : Tier}
    {customer : CustomerMapping} {request : ContractRequest}
    (h : decision settings tiers ρ row =
      .ok (.act (.createContract sub c price tier customer request))) :
    subscriptionOf row = some sub := by
  obtain ⟨handler, hh, hplanned⟩ := planned_of_decision h
  cases hplanned with
  | createContract hhandler _ _ hcontract =>
      unfold subscriptionOf
      rw [hh, hhandler]
      exact hcontract.subscription

/-- Every customer row that can be found names a Metronome customer of its
own. -/
def OwnCustomers (σ : Service) (ρ : Surroundings) : Prop :=
  ∀ c row, ρ.customers c = some row → σ.customerOf row.metronomeCustomerId = c

/-- The requests of a call name the customer that it is made for. -/
theorem named_of_decision (hown : OwnCustomers σ ρ)
    (h : decision settings tiers ρ row = .ok (.act call)) (first : SdkOutcome) :
    ∀ request ∈ call.requests first, σ.named request = Call.customer call := by
  obtain ⟨handler, _, hplanned⟩ := planned_of_decision h
  intro request hmem
  cases hplanned with
  | createCustomer _ hid _ hrequest =>
      rw [List.mem_singleton.mp hmem, Call.request, Service.named,
        customerRequest_spec hrequest hid]
      rfl
  | rename _ _ hrow _ =>
      rw [List.mem_singleton.mp hmem, Call.request, Service.named, hown _ _ hrow]
      exact (ρ.customers_id _ _ hrow).symm
  | @createContract sub c price tier customer body _ _ hcustomer hcontract =>
      have hnamed : σ.customerOf body.customerId = c := by
        rw [hcontract.spec.1, hown _ _ hcustomer]
      rcases List.mem_cons.mp hmem with rfl | hmem
      · exact hnamed
      · by_cases hconflict : conflict first = true
        · rw [if_pos hconflict, List.mem_singleton] at hmem
          subst hmem
          exact hnamed
        · rw [if_neg hconflict] at hmem
          cases hmem

theorem responseOf_eq_ok {outcome : SdkOutcome} {response : SdkObject}
    (h : responseOf outcome = .ok response) : outcome = .ok response := by
  cases outcome with
  | ok response' =>
      cases h
      rfl
  | _ => cases h

theorem answers_of_createdId {outcome : SdkOutcome} {id : String}
    (h : createdId outcome = .ok id) : Answers outcome id := by
  obtain ⟨response, hresponse, hid⟩ := bind_eq_ok.mp h
  exact ⟨response, responseOf_eq_ok hresponse, hid⟩

/-- The rows that an answered call may write. -/
def OwnWrite (σ : Service) : Write → Prop
  | .insertCustomer r => σ.customerOf r.metronomeCustomerId = r.stripeCustomerId
  | .insertSubscription r => σ.contractOf r.metronomeContractId = r.stripeCustomerId
  | .touchCustomer _ _ => True

/-- The contract that the answers are about is the customer's. -/
theorem contractOf_obtainedContract {request : ContractRequest}
    {objects objects' : σ.Objects} {created : CreatedContract}
    (h : obtainedContract request (σ.answer objects (.createContract request))
      (σ.answer objects' (.listContracts request.customerId)) = .ok created) :
    σ.contractOf created.metronomeContractId = σ.customerOf request.customerId := by
  unfold obtainedContract at h
  by_cases hconflict : conflict (σ.answer objects (.createContract request)) = true
  · rw [if_pos hconflict] at h
    obtain ⟨id, hid, heq⟩ := bind_eq_ok.mp h
    cases heq
    obtain ⟨response, hresponse, hmatch⟩ := bind_eq_ok.mp hid
    have hlist := responseOf_eq_ok hresponse
    cases hfound : matchContract request.uniquenessKey (iterContracts response) with
    | none =>
        rw [hfound] at hmatch
        cases hmatch
    | some found =>
        rw [hfound] at hmatch
        cases hmatch
        obtain ⟨contract, hmem, hentry⟩ := Contracts.matchContract_eq_some hfound
        exact σ.listed objects' _ _ hlist contract hmem id (by rw [hentry])
  · rw [if_neg hconflict] at h
    obtain ⟨id, hid, heq⟩ := bind_eq_ok.mp h
    cases heq
    exact σ.contracted objects request id (answers_of_createdId hid)

/-- **What is recorded** when a call is answered is about what the event is
about, and names objects of the customer. -/
theorem recorded_spec (hown : OwnCustomers σ ρ)
    (hanswer : ∀ request earlier, ∃ objects,
      ρ.outcome (request :: earlier) = σ.answer objects request)
    (h : decision settings tiers ρ row = .ok (.act call)) {recorded : Recorded}
    (hrecorded : call.answer (call.first ρ) (call.second ρ) = .ok recorded) (now : Time) :
    Concerns row (recorded.write now) ∧ OwnWrite σ (recorded.write now) := by
  have hconcerned := concerned_of_decision h
  have hnamed := named_of_decision hown h (.apiError "")
  cases call with
  | createCustomer c request =>
      obtain ⟨id, hid, heq⟩ := bind_eq_ok.mp hrecorded
      cases heq
      obtain ⟨objects, hfirst⟩ := hanswer (.createCustomer request) []
      have hid' := answers_of_createdId (mapError_eq_ok.mp hid)
      rw [Call.first, Call.request, hfirst] at hid'
      refine ⟨hconcerned, ?_⟩
      show σ.customerOf id = c
      rw [σ.created objects request id hid']
      exact hnamed (.createCustomer request) (List.mem_singleton.mpr rfl)
  | rename customer request =>
      obtain ⟨_, _, heq⟩ := bind_eq_ok.mp hrecorded
      cases heq
      exact ⟨hconcerned, trivial⟩
  | createContract sub c price tier customer request =>
      obtain ⟨created, hcreated, heq⟩ := bind_eq_ok.mp hrecorded
      cases heq
      obtain ⟨objects, hfirst⟩ := hanswer (.createContract request) []
      obtain ⟨objects', hsecond⟩ :=
        hanswer (.listContracts request.customerId) [.createContract request]
      have hobtained := mapError_eq_ok.mp hcreated
      rw [Call.first, Call.second, Call.request, hfirst, hsecond] at hobtained
      refine ⟨⟨hconcerned, subscriptionOf_decision h⟩, ?_⟩
      show σ.contractOf created.metronomeContractId = c
      rw [contractOf_obtainedContract hobtained]
      exact hnamed (.createContract request) List.mem_cons_self

end Decided

/-! ## What a decision depends on -/

/-- The same rows, as far as the event is concerned. -/
structure Agree (row : WebhookEvent) (ρ ρ' : Surroundings) : Prop where
  customer : ∀ c, concerned row = some c → ρ'.customers c = ρ.customers c
  subscription : ∀ sub, subscriptionOf row = some sub → ρ'.subscriptions sub =
    ρ.subscriptions sub
  /-- Whose a mapped subscription is does not matter, only that the customer is
  mapped. -/
  mapped : ∀ sub mapping, ρ.subscriptions sub = some mapping → ∃ customer customer',
    ρ.customers mapping.stripeCustomerId = some customer ∧
      ρ'.customers mapping.stripeCustomerId = some customer' ∧
      customer'.metronomeCustomerId = customer.metronomeCustomerId

section Agree

variable {settings : Settings} {tiers : TierTable} {ρ ρ' : Surroundings}
    {row : WebhookEvent}
  {payload : JsonObject}

theorem bind_congr_of_ok {α β : Type} {x : Except PyExc α} {f g : α → Except PyExc β}
    (h : ∀ a, x = .ok a → f a = g a) : (x >>= f) = (x >>= g) := by
  cases x with
  | error exc => rfl
  | ok a => exact h a rfl

theorem customerPlan_agree (eventType : CustomerEventType)
    (h : ∀ c, objectId payload = some c → ρ'.customers c = ρ.customers c) :
    customerPlan ρ' eventType payload = customerPlan ρ eventType payload := by
  unfold customerPlan
  refine bind_congr_of_ok fun object hobject => bind_congr_of_ok fun c hc => ?_
  have hid : objectId payload = some c := by
    rw [objectId, extractObject_eq_ok_iff.mp hobject]
    exact Plans.requireStr_eq_ok_iff.mp hc
  rw [h c hid]

theorem subscriptionPlan_agree
    (hsubscription : ∀ sub, objectId payload = some sub →
      ρ'.subscriptions sub = ρ.subscriptions sub)
    (hcustomer : ∀ c, objectCustomer payload = some c → ρ'.customers c = ρ.customers c)
    (hmapped : ∀ sub mapping, ρ.subscriptions sub = some mapping → ∃ customer customer',
      ρ.customers mapping.stripeCustomerId = some customer ∧
        ρ'.customers mapping.stripeCustomerId = some customer' ∧
        customer'.metronomeCustomerId = customer.metronomeCustomerId) :
    subscriptionPlan settings tiers ρ' payload =
      subscriptionPlan settings tiers ρ payload := by
  unfold subscriptionPlan
  refine bind_congr_of_ok fun object hobject => bind_congr_of_ok fun sub hsub =>
    bind_congr_of_ok fun c hc => ?_
  have hobj := extractObject_eq_ok_iff.mp hobject
  have hid : objectId payload = some sub := by
    rw [objectId, hobj]
    exact Plans.requireStr_eq_ok_iff.mp hsub
  have hcust : objectCustomer payload = some c := by
    rw [objectCustomer, hobj]
    exact Plans.requireStr_eq_ok_iff.mp hc
  rw [hsubscription sub hid, hcustomer c hcust]
  cases hrow : ρ.subscriptions sub with
  | none => rfl
  | some mapping =>
      obtain ⟨customer, customer', hfind, hfind', hsame⟩ := hmapped sub mapping hrow
      simp only [hfind, hfind', hsame]

/-- **The decision** is the same where the rows are. -/
theorem decision_agree (h : Agree row ρ ρ') :
    decision settings tiers ρ' row = decision settings tiers ρ row := by
  have hcustomer := h.customer
  have hsubscription := h.subscription
  unfold concerned at hcustomer
  unfold subscriptionOf at hsubscription
  unfold decision
  cases hh : handlerOf row with
  | none => rfl
  | some handler =>
      rw [hh] at hcustomer hsubscription
      cases handler with
      | customerCreated => exact customerPlan_agree .created hcustomer
      | customerUpdated => exact customerPlan_agree .updated hcustomer
      | subscriptionCreated =>
          exact subscriptionPlan_agree hsubscription hcustomer h.mapped
      | subscriptionUpdated => rfl
      | subscriptionDeleted => rfl

end Agree

/-! ## What an attempt depends on -/

section Alike

variable {σ : Service} {env : Env} {w w' : World σ.metronome} {timing : Timing}
  {row : WebhookEvent}

/-- Two worlds that are the same as far as the event is concerned. -/
structure Alike (row : WebhookEvent) (w w' : World σ.metronome) : Prop where
  customer : ∀ c, concerned row = some c →
    w'.db.customerMappings.find? c = w.db.customerMappings.find? c
  subscription : ∀ sub, subscriptionOf row = some sub →
    w'.db.subscriptionMappings.find? sub = w.db.subscriptionMappings.find? sub
  contracts : ∀ c, concerned row = some c → ∀ sub mapping, mapping.stripeCustomerId = c →
    (w'.db.subscriptionMappings.find? sub = some mapping ↔
      w.db.subscriptionMappings.find? sub = some mapping)
  stays : ∀ c customer, w.db.customerMappings.find? c = some customer →
    ∃ customer', w'.db.customerMappings.find? c = some customer' ∧
      customer'.metronomeCustomerId = customer.metronomeCustomerId
  objects : ∀ c, concerned row = some c → objectsOf w' c = objectsOf w c

theorem Alike.agree (h : Alike row w w') (hown : OwnRows w) :
    Agree row (meets env timing w) (meets env timing w') := by
  refine ⟨h.customer, h.subscription, fun sub mapping hfind => ?_⟩
  obtain ⟨customer, hcustomer⟩ := hown.referential sub mapping hfind
  obtain ⟨customer', hcustomer', hsame⟩ := h.stays _ _ hcustomer
  exact ⟨customer, customer', hcustomer, hcustomer', hsame⟩

theorem after_congr {objects objects' : String → σ.Objects} {c : String}
    (h : objects' c = objects c) (requests : List MetronomeRequest) :
    σ.after objects' requests c = σ.after objects requests c := by
  induction requests with
  | nil => exact h
  | cons request requests ih =>
      show σ.carryOut (σ.after objects' requests) request c =
        σ.carryOut (σ.after objects requests) request c
      unfold Service.carryOut
      by_cases hc : c = σ.named request
      · subst hc
        rw [Function.update_self, Function.update_self, ih]
      · rw [Function.update_of_ne hc, Function.update_of_ne hc, ih]

theorem after_other {objects : String → σ.Objects} {c : String}
    {requests : List MetronomeRequest} (h : ∀ request ∈ requests, σ.named request ≠ c) :
    σ.after objects requests c = objects c := by
  induction requests with
  | nil => rfl
  | cons request requests ih =>
      have hc : c ≠ σ.named request := (h request List.mem_cons_self).symm
      refine (Function.update_of_ne hc _ _).trans (ih fun request' hmem => ?_)
      exact h request' (List.mem_cons_of_mem _ hmem)

/-- An answer depends on the objects of the customer it names. -/
theorem outcome_agree {request : MetronomeRequest}
    (h : objectsOf w' (σ.named request) = objectsOf w (σ.named request))
    (earlier : List MetronomeRequest) :
    (meets env timing w').outcome (request :: earlier) =
      (meets env timing w).outcome (request :: earlier) := by
  show σ.answer (σ.after (objectsOf w') earlier _) request =
    σ.answer (σ.after (objectsOf w) earlier _) request
  rw [after_congr h]

/-- Whether a Metronome customer is taken depends on its own row. -/
theorem any_customer (hown : OwnRows w) (id : String) :
    w.db.customerMappings.rows.any (fun r => r.metronomeCustomerId = id) =
      (w.db.customerMappings.find? (σ.customerOf id)).any fun r =>
        r.metronomeCustomerId = id := by
  rw [Bool.eq_iff_iff, List.any_eq_true, Option.any_eq_true_iff_get]
  constructor
  · intro h
    obtain ⟨r, hmem, hid⟩ := h
    have hid : r.metronomeCustomerId = id := of_decide_eq_true hid
    have hfind := Table.find?_of_mem hmem
    rw [← hown.customer _ _ hfind, hid] at hfind
    refine ⟨Option.isSome_of_eq_some hfind, ?_⟩
    simp only [hfind, Option.get_some]
    exact decide_eq_true hid
  · intro h
    obtain ⟨hsome, hid⟩ := h
    exact ⟨_, Table.find?_mem (Option.some_get hsome).symm, hid⟩

/-- Whether a contract is taken depends on the rows of its customer. -/
theorem any_contract (hown : OwnRows w) (hown' : OwnRows w') {id : String}
    (hrows : ∀ sub mapping, mapping.stripeCustomerId = σ.contractOf id →
      (w'.db.subscriptionMappings.find? sub = some mapping ↔
        w.db.subscriptionMappings.find? sub = some mapping)) :
    w'.db.subscriptionMappings.rows.any (fun r => r.metronomeContractId = id) =
      w.db.subscriptionMappings.rows.any (fun r => r.metronomeContractId = id) := by
  rw [Bool.eq_iff_iff, List.any_eq_true, List.any_eq_true]
  constructor
  · intro h
    obtain ⟨r, hmem, hid⟩ := h
    have hfind := Table.find?_of_mem hmem
    have hc := hown'.contract _ _ hfind
    rw [of_decide_eq_true hid] at hc
    exact ⟨r, Table.find?_mem ((hrows _ _ hc.symm).mp hfind), hid⟩
  · intro h
    obtain ⟨r, hmem, hid⟩ := h
    have hfind := Table.find?_of_mem hmem
    have hc := hown.contract _ _ hfind
    rw [of_decide_eq_true hid] at hc
    exact ⟨r, Table.find?_mem ((hrows _ _ hc.symm).mpr hfind), hid⟩

/-- **The constraints** on a row depend on what the event is concerned with. -/
theorem violates_agree {enforceFk : Bool} {write : Write} (h : Alike row w w')
    (hown : OwnRows w) (hown' : OwnRows w') (hconcerns : Concerns row write)
    (hwrite : OwnWrite σ write) :
    w'.db.violates enforceFk [] write = w.db.violates enforceFk [] write := by
  cases write with
  | insertCustomer r =>
      have hcustomer := h.customer _ hconcerns
      have htaken : w'.db.customerMappings.rows.any
            (fun x => x.metronomeCustomerId = r.metronomeCustomerId) =
          w.db.customerMappings.rows.any
            (fun x => x.metronomeCustomerId = r.metronomeCustomerId) := by
        have hwrite : σ.customerOf r.metronomeCustomerId = r.stripeCustomerId := hwrite
        rw [any_customer hown', any_customer hown, hwrite, hcustomer]
      simp only [Postgres.violates, hcustomer, htaken]
  | insertSubscription r =>
      have hcustomer := h.customer _ hconcerns.1
      have hsubscription := h.subscription _ hconcerns.2
      have hwrite : σ.contractOf r.metronomeContractId = r.stripeCustomerId := hwrite
      have htaken : w'.db.subscriptionMappings.rows.any
            (fun x => x.metronomeContractId = r.metronomeContractId) =
          w.db.subscriptionMappings.rows.any
            (fun x => x.metronomeContractId = r.metronomeContractId) :=
              any_contract hown hown'
        fun sub mapping hc => h.contracts _ hconcerns.1 sub mapping (hc.trans hwrite)
      simp only [Postgres.violates, hcustomer, hsubscription, htaken]
  | touchCustomer c now => rfl

theorem refusal_agree {enforceFk : Bool} {write : Write} (h : Alike row w w')
    (hown : OwnRows w) (hown' : OwnRows w') (hconcerns : Concerns row write)
    (hwrite : OwnWrite σ write) :
    w'.db.refusal enforceFk [] [write] = w.db.refusal enforceFk [] [write] := by
  simp only [Postgres.refusal, violates_agree h hown hown' hconcerns hwrite]

theorem answered_by_service (request : MetronomeRequest)
    (earlier : List MetronomeRequest) :
    ∃ objects, (meets env timing w).outcome (request :: earlier) =
      σ.answer objects request :=
  ⟨_, rfl⟩

/-- **The work of an attempt** is the same where the event finds the same. -/
theorem work_agrees (h : Alike row w w') (hown : OwnRows w) (hown' : OwnRows w') :
    decidedWork (meets env timing w')
        (decision env.settings env.tiers (meets env timing w') row) =
      decidedWork (meets env timing w)
        (decision env.settings env.tiers (meets env timing w) row) := by
  have hagree : Agree row (meets env timing w) (meets env timing w') := h.agree hown
  rw [decision_agree hagree]
  rcases hd : decision env.settings env.tiers (meets env timing w) row with
    exc | _ | result | call
  · rfl
  · rfl
  · rfl
  · have hobjects := h.objects _ (concerned_of_decision hd)
    have hnamed := named_of_decision (σ := σ) (ρ := meets env timing w) hown.customer hd
    have hfirst : call.first (meets env timing w') = call.first (meets env timing w) := by
      refine outcome_agree ?_ []
      rw [hnamed (.apiError "") _ (by cases call <;> exact List.mem_cons_self)]
      exact hobjects
    have hsecond : call.second (meets env timing w') =
        call.second (meets env timing w) := by
      cases call with
      | createContract sub c price tier customer request =>
          refine outcome_agree ?_ [.createContract request]
          have hlist := hnamed (.apiError "") (.createContract request) List.mem_cons_self
          exact (congrArg (objectsOf w') hlist).trans
            (hobjects.trans (congrArg _ hlist.symm))
      | createCustomer c request => exact hfirst
      | rename customer request => exact hfirst
    simp only [decidedWork, hfirst, hsecond]
    cases hrecorded : call.answer (call.first (meets env timing w))
        (call.second (meets env timing w)) with
    | error exc => rfl
    | ok recorded =>
        obtain ⟨hconcerns, hwrite⟩ :=
          recorded_spec (ρ := meets env timing w) hown.customer
          answered_by_service hd
          hrecorded (timing.clock [])
        refine storedWork_agrees ?_ recorded ?_ _
        · rfl
        · exact refusal_agree h hown hown' hconcerns hwrite

end Alike

end Sidecar.Ports.Footprint
