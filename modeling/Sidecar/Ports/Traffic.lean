import Sidecar.Ports.Outcomes
import Sidecar.Ports.Requests

/-!
# The Metronome traffic of an attempt

Which calls an attempt makes, as a function of the payload and of the mapping
tables, and what the detour over the list of contracts changes: nothing but the
outcome label.

## Main results

* `calls_when_checked` — the calls of every attempt.
* `recovery_like_creation` — a recovered contract is recorded like a new one.
-/

namespace Sidecar.Ports.Traffic

open Sidecar.Verified.KeyedTable
open Sidecar.Verified.Resumption
open Sidecar.Ports.Python
open Sidecar.Ports.Config
open Sidecar.Ports.Mappers hiding requireStr
open Sidecar.Ports.Models
open Sidecar.Ports.Effects
open Sidecar.Ports.MetronomeClient
open Sidecar.Ports.Handlers
open Sidecar.Ports.Worker
open Sidecar.Ports.Attempt
open Sidecar.Ports.Execution
open Sidecar.Ports.Plans
open Sidecar.Ports.Outcomes
open Sidecar.Ports.Remote
open Sidecar.Ports.Contracts

/-! ## The calls of an attempt -/

section Calls

variable {settings : Settings} {tiers : TierTable} {ρ : Surroundings} {row : WebhookEvent}

/-- The Metronome calls of an attempt, in order. -/
def made (settings : Settings) (tiers : TierTable) (ρ : Surroundings)
    (row : WebhookEvent) :
    List MetronomeRequest :=
  (calls (ρ.attempt settings tiers row).1).reverse

theorem calls_storedWork (requests : List MetronomeRequest) (x : Except PyExc Recorded) :
    (storedWork ρ requests x).1.calls = requests := by
  cases x with
  | error exc => rfl
  | ok recorded =>
      unfold storedWork
      dsimp only
      cases ρ.refusal [recorded.write (ρ.clock [])] <;> rfl

theorem made_eq :
    made settings tiers ρ row =
      match decision settings tiers ρ row with
      | .ok (.act call) => call.requests (call.first ρ)
      | _ => [] := by
  have hcalls : calls (ρ.attempt settings tiers row).1 =
      (decidedWork ρ (decision settings tiers ρ row)).1.calls :=
    congrArg Work.calls (@attempt_work settings tiers ρ row).1
  rw [made, hcalls]
  match decision settings tiers ρ row with
  | .error exc => rfl
  | .ok .ignore => rfl
  | .ok (.skip result) => rfl
  | .ok (.act call) =>
      show (storedWork ρ _ _).1.calls.reverse = _
      rw [calls_storedWork, List.reverse_reverse]

theorem decision_eq {handler : Handler} (h : handlerOf row = some handler) :
    decision settings tiers ρ row = plan settings tiers ρ row.payload handler := by
  rw [decision, h]

theorem made_of_planned {handler : Handler} {call : Call}
    (h : handlerOf row = some handler)
    (hplanned : Planned settings tiers ρ row.payload handler call) :
    made settings tiers ρ row = call.requests (call.first ρ) := by
  rw [made_eq, decision_eq h, plan_eq_act_iff.mpr hplanned]

theorem made_of_not_planned {handler : Handler} (h : handlerOf row = some handler)
    (hplanned : ∀ call, ¬Planned settings tiers ρ row.payload handler call) :
    made settings tiers ρ row = [] := by
  rw [made_eq, decision_eq h]
  split
  · next call hplan => exact absurd (plan_eq_act_iff.mp hplan) (hplanned call)
  · rfl

/-- The rate card of a contract request is the configured one. -/
theorem rateCardId_of_contract {payload : JsonObject} {sub c price mid : String}
    {tier : Tier} {request : ContractRequest}
    (h : Contract settings tiers payload sub c price tier mid request) :
    request.customerId = mid ∧
      request.rateCardId = settings.metronomeDefaultRateCardId := by
  obtain ⟨raw, text, _, _, hbody⟩ := Requests.body_of_contract h
  rw [hbody]
  exact ⟨rfl, rfl⟩

/-- The calls of a customer event whose payload names a mappable customer. -/
def customerCalls (ρ : Surroundings) (row : WebhookEvent) (c : String)
    (request : CustomerRequest) : List MetronomeRequest :=
  match ρ.customers c with
  | none => [.createCustomer request]
  | some mapping =>
      if handlerOf row = some .customerUpdated then
        [.setName mapping.metronomeCustomerId request.name]
      else []

theorem made_of_customer (hh : IsCustomer row) :
    made settings tiers ρ row =
      match objectId row.payload, customerRequest row.payload with
      | some c, some request => customerCalls ρ row c request
      | _, _ => [] := by
  obtain ⟨handler, hhandler, hcustomer⟩ : ∃ handler, handlerOf row = some handler ∧
      (handler = .customerCreated ∨ handler = .customerUpdated) := by
    rcases hh with hh | hh
    · exact ⟨_, hh, .inl rfl⟩
    · exact ⟨_, hh, .inr rfl⟩
  have hnone : (objectId row.payload = none ∨ customerRequest row.payload = none) →
      made settings tiers ρ row = [] := fun hmissing => by
    refine made_of_not_planned hhandler fun call hplanned => ?_
    cases hplanned with
    | createCustomer _ hid _ hrequest | rename _ hid _ hrequest =>
        rcases hmissing with h | h
        · rw [hid] at h
          cases h
        · rw [hrequest] at h
          cases h
    | createContract heq _ _ _ => rcases hcustomer with rfl | rfl <;> cases heq
  cases hid : objectId row.payload with
  | none => exact hnone (.inl hid)
  | some c =>
      cases hrequest : customerRequest row.payload with
      | none => exact hnone (.inr hrequest)
      | some request =>
          dsimp only
          unfold customerCalls
          cases hrow : ρ.customers c with
          | none =>
              exact made_of_planned hhandler (.createCustomer hcustomer hid hrow hrequest)
          | some mapping =>
              dsimp only
              rw [hhandler]
              rcases hcustomer with rfl | rfl
              · rw [if_neg (by decide)]
                refine made_of_not_planned hhandler fun call hplanned => ?_
                cases hplanned with
                | createCustomer _ hid' hrow' _ =>
                    rw [hid] at hid'
                    cases hid'
                    rw [hrow] at hrow'
                    cases hrow'
                | rename heq _ _ _ => cases heq
                | createContract heq _ _ _ => cases heq
              · rw [if_pos rfl]
                exact made_of_planned hhandler (.rename rfl hid hrow hrequest)

/-- An attempt that plans no call writes nothing. -/
theorem idle_of_no_act
    (h : ∀ call, decision settings tiers ρ row ≠ .ok (.act call)) :
    made settings tiers ρ row = [] ∧ (ρ.attempt settings tiers row).1.flushed = [] ∧
      (ρ.attempt settings tiers row).1.pending = [] := by
  obtain ⟨hwork, hpending⟩ := @attempt_work settings tiers ρ row
  have hflushed : (ρ.attempt settings tiers row).1.flushed = _ :=
    congrArg Work.flushed hwork
  rw [made_eq, hflushed]
  match hdecision : decision settings tiers ρ row with
  | .error exc => exact ⟨rfl, rfl, hpending⟩
  | .ok .ignore => exact ⟨rfl, rfl, hpending⟩
  | .ok (.skip result) => exact ⟨rfl, rfl, hpending⟩
  | .ok (.act call) => exact absurd hdecision (h call)

/-- **Metronome is called only after every local check**, and then exactly as
often as needed. -/
theorem calls_when_checked (settings : Settings) (tiers : TierTable) (ρ : Surroundings)
    (row : WebhookEvent) :
    (handlerOf row = some .subscriptionCreated →
      (made settings tiers ρ row ≠ [] ↔ ∃ sub c price tier customer request,
        ρ.subscriptions sub = none ∧ ρ.customers c = some customer ∧
        Contract settings tiers row.payload sub c price tier customer.metronomeCustomerId
          request) ∧
      ∀ sub c price tier customer request,
        ρ.subscriptions sub = none → ρ.customers c = some customer →
        Contract settings tiers row.payload sub c price tier customer.metronomeCustomerId
          request →
        request.customerId = customer.metronomeCustomerId ∧
        request.rateCardId = settings.metronomeDefaultRateCardId ∧
        made settings tiers ρ row = .createContract request ::
          if conflict (ρ.outcome [.createContract request]) then
            [.listContracts customer.metronomeCustomerId] else []) ∧
    (IsCustomer row → made settings tiers ρ row =
      match objectId row.payload, customerRequest row.payload with
      | some c, some request => customerCalls ρ row c request
      | _, _ => []) ∧
    (handlerOf row = none ∨ handlerOf row = some .subscriptionUpdated ∨
        handlerOf row = some .subscriptionDeleted →
      made settings tiers ρ row = [] ∧ (ρ.attempt settings tiers row).1.flushed = [] ∧
        (ρ.attempt settings tiers row).1.pending = []) := by
  refine ⟨fun hh => ⟨⟨fun hmade => ?_, ?_⟩, ?_⟩, fun hh => ?_, fun hh => ?_⟩
  · by_contra hnone
    refine hmade (made_of_not_planned hh fun call hplanned => ?_)
    cases hplanned with
    | createCustomer heq _ _ _ => rcases heq with heq | heq <;> cases heq
    | rename heq _ _ _ => cases heq
    | createContract _ hsub hcustomer hcontract =>
        exact hnone ⟨_, _, _, _, _, _, hsub, hcustomer, hcontract⟩
  · rintro ⟨sub, c, price, tier, customer, request, hsub, hcustomer, hcontract⟩
    rw [made_of_planned hh (.createContract rfl hsub hcustomer hcontract)]
    exact List.cons_ne_nil _ _
  · intro sub c price tier customer request hsub hcustomer hcontract
    obtain ⟨hmid, hcard⟩ := rateCardId_of_contract hcontract
    refine ⟨hmid, hcard, ?_⟩
    rw [made_of_planned hh (.createContract rfl hsub hcustomer hcontract), ← hmid]
    rfl
  · exact made_of_customer hh
  · refine idle_of_no_act fun call hact => ?_
    unfold decision at hact
    rcases hh with hh | hh | hh
    · rw [hh] at hact
      cases hact
    all_goals
      rw [hh] at hact
      cases plan_eq_act_iff.mp hact with
      | createCustomer heq _ _ _ => rcases heq with heq | heq <;> cases heq
      | rename heq _ _ _ => cases heq
      | createContract heq _ _ _ => cases heq

end Calls

/-! ## Recovery -/

section Recovery

/-- What an undisturbed attempt meets with in a database. -/
def ofDb (db : Postgres) (enforceFk : Bool) (outcome : List MetronomeRequest → SdkOutcome)
    (clock : List Write → Time) (draw : PyFloat → PyFloat) : Surroundings where
  customers := db.customerMappings.find?
  subscriptions := db.subscriptionMappings.find?
  customers_id _ _ h := Table.find?_key h
  subscriptions_id _ _ h := Table.find?_key h
  outcome
  refusal := db.refusal enforceFk []
  clock
  draw

def timeless (row : SubscriptionMapping) : SubscriptionMapping :=
  { row with updatedAt := 0 }

/-- The result of a handler without its label. -/
def unlabelled : Completed → Completed
  | .subscription result => .subscription { result with outcome := .CREATED }
  | result => result

/-- Two attempts on one database that end alike, timestamps and outcome labels
aside. -/
structure Alike (db : Postgres) (run run' : Session × Except PyExc Unit) : Prop where
  ended : run.2 = run'.2
  subscriptions : ∀ sub,
    ((afterAttempt db run).subscriptionMappings.find? sub).map timeless =
      ((afterAttempt db run').subscriptionMappings.find? sub).map timeless
  customers : (afterAttempt db run).customerMappings =
    (afterAttempt db run').customerMappings
  status : ∀ id,
    ((afterAttempt db run).webhookEvents.find? id).map WebhookEvent.status =
      ((afterAttempt db run').webhookEvents.find? id).map WebhookEvent.status
  result : run.1.result.map unlabelled = run'.1.result.map unlabelled

/-- `contractId` is the usable id of the listed contracts with the key. -/
structure UsableId (response : SdkObject) (uniquenessKey contractId : String) : Prop where
  listed : ∃ contract ∈ iterContracts response,
    entryOf contract = (some contractId, some uniquenessKey)
  only : ∀ contract ∈ iterContracts response, ∀ contractId',
    entryOf contract = (some contractId', some uniquenessKey) → contractId' = contractId

theorem hasKey_of_entryOf {contract : SdkObject} {id : Option String}
    {uniquenessKey : String} (h : entryOf contract = (id, some uniquenessKey)) :
    hasKey uniquenessKey contract = true ∧ nonEmptyStr (getAttr contract "id") = id := by
  unfold entryOf at h
  obtain ⟨hid, hkey⟩ := Prod.mk.inj h
  refine ⟨?_, hid⟩
  split at hkey
  · next key heq =>
      have hdecide : hasKey uniquenessKey contract = decide (key = uniquenessKey) := by
        unfold hasKey
        rw [heq]
      exact hdecide.trans (decide_eq_true (Option.some.inj hkey))
  · cases hkey

/-- The search gives up only if no entry has the key and an id. -/
theorem matchContract_eq_none {uniquenessKey : String} {contracts : List SdkObject}
    (h : matchContract uniquenessKey contracts = none) :
    ∀ contract ∈ contracts, ∀ id, entryOf contract ≠ (some id, some uniquenessKey) := by
  induction contracts with
  | nil => simp
  | cons contract contracts ih =>
      unfold matchContract at h
      rw [List.forall_mem_cons]
      split at h
      · next hkey =>
          split at h
          · cases h
          · next hnone =>
              refine ⟨fun id hentry => ?_, ih h⟩
              rw [(hasKey_of_entryOf hentry).2] at hnone
              cases hnone
      · next hkey =>
          exact ⟨fun id hentry => hkey (hasKey_of_entryOf hentry).1, ih h⟩

theorem UsableId.matchContract {response : SdkObject} {uniquenessKey id : String}
    (h : UsableId response uniquenessKey id) :
    matchContract uniquenessKey (iterContracts response) = some id := by
  cases hmatch : MetronomeClient.matchContract uniquenessKey (iterContracts response) with
  | none =>
      obtain ⟨contract, hmem, hentry⟩ := h.listed
      exact absurd hentry (matchContract_eq_none hmatch contract hmem id)
  | some id' =>
      obtain ⟨contract, hmem, hentry⟩ := matchContract_eq_some hmatch
      rw [h.only contract hmem id' hentry]

variable {settings : Settings} {tiers : TierTable} {ρ : Surroundings} {row : WebhookEvent}

/-- How an attempt ends whose calls have been answered. -/
theorem attempt_of_answer {call : Call} {recorded : Recorded}
    (hdecision : decision settings tiers ρ row = .ok (.act call))
    (hanswer : call.answer (call.first ρ) (call.second ρ) = .ok recorded) :
    (ρ.refusal [recorded.write (ρ.clock [])] ≠ none ∧
      ∃ s, ρ.attempt settings tiers row = (s, .error closedTransaction) ∧ s.flushed = [] ∧
        s.result = none) ∨
    (ρ.refusal [recorded.write (ρ.clock [])] = none ∧
      ∃ s, ρ.attempt settings tiers row = (s, .ok ()) ∧
        s.flushed = [recorded.write (ρ.clock [])] ∧ s.poisoned = false ∧ s.pending = [] ∧
        s.result = some recorded.result ∧
        s.event = processedEvent (claimed row)
          (ρ.clock [recorded.write (ρ.clock [])])) := by
  have hpending := (@attempt_work settings tiers ρ row).2
  have hwork : decidedWork ρ (decision settings tiers ρ row) =
      storedWork ρ (call.requests (call.first ρ)).reverse (.ok recorded) := by
    rw [hdecision, decidedWork, hanswer]
  unfold storedWork at hwork
  dsimp only at hwork
  cases hrefusal : ρ.refusal [recorded.write (ρ.clock [])] with
  | some constraint =>
      rw [hrefusal] at hwork
      obtain ⟨s, heq, hs⟩ := attempt_of_refused hwork (fun msg h => by cases h) rfl
      exact .inl ⟨by simp, s, heq, congrArg Work.flushed hs, congrArg Work.result hs⟩
  | none =>
      rw [hrefusal] at hwork
      obtain ⟨s, heq, hs, hevent⟩ := attempt_of_ok hwork
      rw [heq] at hpending
      exact .inr ⟨rfl, s, heq, congrArg Work.flushed hs,
        congrArg Work.poisoned hs, hpending, congrArg Work.result hs, hevent⟩

theorem afterAttempt_stored {db : Postgres} {s : Session} {write : Write}
    (hflushed : s.flushed = [write]) (hpoisoned : s.poisoned = false)
    (hpending : s.pending = []) :
    afterAttempt db (s, .ok ()) = (db.apply write).updateEvent s.event := by
  simp only [afterAttempt, hpoisoned, hflushed, hpending, Bool.false_eq_true, if_false]
  rfl

theorem status_updateEvent {db db' : Postgres} {event event' : WebhookEvent}
    (hdb : db.webhookEvents = db'.webhookEvents)
    (hid : event.stripeEventId = event'.stripeEventId)
    (hstatus : event.status = event'.status) (id : String) :
    ((db.updateEvent event).webhookEvents.find? id).map WebhookEvent.status =
      ((db'.updateEvent event').webhookEvents.find? id).map WebhookEvent.status := by
  unfold Postgres.updateEvent
  rw [← hid, ← hdb]
  cases db.webhookEvents.find? event.stripeEventId with
  | none => exact congrArg (fun t => (t.find? id).map WebhookEvent.status) hdb
  | some row =>
      dsimp only
      rw [Table.find?_update, Table.find?_update]
      by_cases hkey : row.stripeEventId = id
      · simp only [hkey, if_true, Option.map_map]
        exact congrArg (fun f => (db.webhookEvents.find? id).map f)
          (funext fun _ => hstatus)
      · simp only [hkey, if_false]

/-- A contract recorded under either label ends the attempt alike. -/
theorem alike_of_recorded {db : Postgres} {enforceFk : Bool}
    {outcome outcome' : List MetronomeRequest → SdkOutcome}
    {clock clock' : List Write → Time}
    {draw draw' : PyFloat → PyFloat} {sub c price id : String} {tier : Tier}
    {customer : CustomerMapping} {request : ContractRequest} {label label' : Bool}
    (hplanned : ∀ ρ : Surroundings, ρ.customers = db.customerMappings.find? →
      ρ.subscriptions = db.subscriptionMappings.find? → decision settings tiers ρ row =
        .ok (.act (.createContract sub c price tier customer request)))
    (hanswer : Call.answer
      (Call.first (ofDb db enforceFk outcome clock draw)
        (.createContract sub c price tier customer request))
      (Call.second (ofDb db enforceFk outcome clock draw)
        (.createContract sub c price tier customer request))
      (.createContract sub c price tier customer request) =
        .ok (Call.recordContract sub c price tier customer ⟨id, label⟩))
    (hanswer' : Call.answer
      (Call.first (ofDb db enforceFk outcome' clock' draw')
        (.createContract sub c price tier customer request))
      (Call.second (ofDb db enforceFk outcome' clock' draw')
        (.createContract sub c price tier customer request))
      (.createContract sub c price tier customer request) =
        .ok (Call.recordContract sub c price tier customer ⟨id, label'⟩)) :
    Alike db ((ofDb db enforceFk outcome clock draw).attempt settings tiers row)
      ((ofDb db enforceFk outcome' clock' draw').attempt settings tiers row) := by
  have hrefusal : ∀ now now', db.refusal enforceFk []
      [.insertSubscription ⟨sub, c, id, tier.name, price, now⟩] =
        db.refusal enforceFk [] [.insertSubscription ⟨sub, c, id, tier.name,
          price, now'⟩] :=
    fun _ _ => rfl
  rcases attempt_of_answer (hplanned _ rfl rfl) hanswer with
    ⟨hrefused, s, hs, _, hresult⟩ | ⟨hstored, s, hs, hflushed, hpoisoned, hpending,
      hresult, hevent⟩
  · rcases attempt_of_answer (hplanned _ rfl rfl) hanswer' with
      ⟨_, s', hs', _, hresult'⟩ | ⟨hstored', _⟩
    · rw [hs, hs']
      exact ⟨rfl, fun _ => rfl, rfl, fun _ => rfl, by rw [hresult, hresult']⟩
    · exact absurd ((hrefusal _ _).trans hstored') hrefused
  · rcases attempt_of_answer (hplanned _ rfl rfl) hanswer' with
      ⟨hrefused', _⟩ | ⟨_, s', hs', hflushed', hpoisoned', hpending', hresult', hevent'⟩
    · exact absurd ((hrefusal _ _).trans hstored) hrefused'
    · rw [hs, hs']
      refine ⟨rfl, fun sub' => ?_, ?_, fun id' => ?_, ?_⟩
      · rw [afterAttempt_stored hflushed hpoisoned hpending,
          afterAttempt_stored hflushed' hpoisoned' hpending']
        simp only [Transactions.updateEvent_subscriptionMappings]
        show ((db.subscriptionMappings.insertNew _).find? sub').map timeless =
          ((db.subscriptionMappings.insertNew _).find? sub').map timeless
        rw [Table.find?_insertNew, Table.find?_insertNew]
        dsimp only
        by_cases hnew : db.subscriptionMappings.find? sub = none ∧ sub = sub'
        · rw [if_pos hnew, if_pos hnew]
          rfl
        · rw [if_neg hnew, if_neg hnew]
      · rw [afterAttempt_stored hflushed hpoisoned hpending,
          afterAttempt_stored hflushed' hpoisoned' hpending']
        simp only [Transactions.updateEvent_customerMappings]
        rfl
      · rw [afterAttempt_stored hflushed hpoisoned hpending,
          afterAttempt_stored hflushed' hpoisoned' hpending', hevent, hevent']
        exact status_updateEvent (by rfl) (by rfl) (by rfl) id'
      · rw [hresult, hresult']
        rfl

/-- A create that is answered with a usable id. -/
theorem answer_created {sub c price contractId : String} {tier : Tier}
    {customer : CustomerMapping} {request : ContractRequest} {first : SdkOutcome}
    (hfirst : Answers first contractId) (second : SdkOutcome) :
    Call.answer first second (.createContract sub c price tier customer request) =
      .ok (Call.recordContract sub c price tier customer ⟨contractId, false⟩) := by
  obtain ⟨response, rfl, hid⟩ := hfirst
  simp only [Call.answer, obtainedContract, conflict, Bool.false_eq_true, if_false,
    createdId, responseOf]
  dsimp only [bind, Except.bind]
  rw [hid]
  rfl

/-- A conflict, and a list that has an entry with the key. -/
theorem answer_recovered {sub c price contractId : String} {tier : Tier}
    {customer : CustomerMapping} {request : ContractRequest} {rateLimitError : Bool}
    {msg : String} {response : SdkObject}
    (hmatch : matchContract request.uniquenessKey (iterContracts response) =
      some contractId) :
    Call.answer (.statusError 409 rateLimitError msg) (.ok response)
        (.createContract sub c price tier customer request) =
      .ok (Call.recordContract sub c price tier customer ⟨contractId, true⟩) := by
  simp only [Call.answer, obtainedContract, conflict, decide_true, if_true,
    recoveredId_of_match hmatch]
  rfl

/-- A conflict, and a list that has none. -/
theorem answer_lost {sub c price : String} {tier : Tier} {customer : CustomerMapping}
    {request : ContractRequest} {rateLimitError : Bool} {msg : String}
    {response : SdkObject}
    (hmatch : matchContract request.uniquenessKey (iterContracts response) = none) :
    ∃ exc, Call.answer (.statusError 409 rateLimitError msg) (.ok response)
      (.createContract sub c price tier customer request) = .error exc := by
  simp only [Call.answer, obtainedContract, conflict, decide_true, if_true,
    recoveredId_of_no_match hmatch]
  exact ⟨_, rfl⟩

/-- **Recovery is equivalent to a fresh create**, and never takes the id of a
contract with another key. -/
theorem recovery_like_creation {db : Postgres} {enforceFk : Bool} {sub c price : String}
    {tier : Tier} {customer : CustomerMapping} {request : ContractRequest}
    {outcome : List MetronomeRequest → SdkOutcome} {rateLimitError : Bool} {msg : String}
    {response : SdkObject} (hh : handlerOf row = some .subscriptionCreated)
    (hsub : db.subscriptionMappings.find? sub = none)
    (hcustomer : db.customerMappings.find? c = some customer)
    (hcontract : Contract settings tiers row.payload sub c price tier
      customer.metronomeCustomerId request)
    (hconflict : outcome [.createContract request] = .statusError 409 rateLimitError msg)
    (hlist : outcome [.listContracts request.customerId, .createContract request] =
      .ok response) (clock : List Write → Time) (draw : PyFloat → PyFloat) :
    (∀ contractId outcome' clock' draw',
      UsableId response request.uniquenessKey contractId →
      Answers (outcome' [.createContract request]) contractId →
      Alike db ((ofDb db enforceFk outcome clock draw).attempt settings tiers row)
        ((ofDb db enforceFk outcome' clock' draw').attempt settings tiers row)) ∧
    (∀ mapping, .insertSubscription mapping ∈
        ((ofDb db enforceFk outcome clock draw).attempt settings tiers row).1.flushed →
      ∃ contract ∈ iterContracts response, entryOf contract =
        (some mapping.metronomeContractId, some request.uniquenessKey)) ∧
    ((∀ contract ∈ iterContracts response, ∀ id,
        entryOf contract ≠ (some id, some request.uniquenessKey)) →
      ((ofDb db enforceFk outcome clock draw).attempt settings tiers row).1.flushed =
        []) := by
  have hplanned : ∀ ρ : Surroundings, ρ.customers = db.customerMappings.find? →
      ρ.subscriptions = db.subscriptionMappings.find? → decision settings tiers ρ row =
        .ok (.act (.createContract sub c price tier customer request)) :=
          fun ρ hc hs => by
    rw [decision_eq hh]
    exact plan_eq_act_iff.mpr (.createContract rfl (hs ▸ hsub) (hc ▸ hcustomer) hcontract)
  have hrecovered : ∀ contractId,
      matchContract request.uniquenessKey (iterContracts response) = some contractId →
      Call.answer (outcome [.createContract request])
        (outcome [.listContracts request.customerId, .createContract request])
        (.createContract sub c price tier customer request) =
          .ok (Call.recordContract sub c price tier customer ⟨contractId, true⟩) :=
    fun contractId hmatch => by
      rw [hconflict, hlist]
      exact answer_recovered hmatch
  have hlost : matchContract request.uniquenessKey (iterContracts response) = none →
      ((ofDb db enforceFk outcome clock draw).attempt settings tiers row).1.flushed =
        [] :=
    fun hmatch => by
      have hflushed := congrArg Work.flushed
        (@attempt_work settings tiers (ofDb db enforceFk outcome clock draw) row).1
      rw [hplanned _ rfl rfl] at hflushed
      refine hflushed.trans ?_
      show (storedWork _ _ (Call.answer (outcome [.createContract request])
        (outcome [.listContracts request.customerId, .createContract request]) _)).1.flushed
        = []
      obtain ⟨exc, hexc⟩ :=
        @answer_lost sub c price tier customer request rateLimitError msg
        response hmatch
      rw [hconflict, hlist, hexc]
      rfl
  refine ⟨fun contractId outcome' clock' draw' husable hfresh => ?_,
    fun mapping hmem => ?_,
    fun hnone => ?_⟩
  · exact alike_of_recorded hplanned (hrecovered contractId husable.matchContract)
      (answer_created hfresh _)
  · cases hmatch : matchContract request.uniquenessKey (iterContracts response) with
    | none =>
        rw [hlost hmatch] at hmem
        cases hmem
    | some contractId =>
        obtain ⟨contract, hlisted, hentry⟩ := matchContract_eq_some hmatch
        rcases attempt_of_answer (hplanned (ofDb db enforceFk outcome clock draw) rfl rfl)
            (hrecovered contractId hmatch) with
          ⟨_, s, hs, hflushed, _⟩ | ⟨_, s, hs, hflushed, _⟩
        · rw [hs, hflushed] at hmem
          cases hmem
        · rw [hs, hflushed] at hmem
          cases List.mem_singleton.mp hmem
          exact ⟨contract, hlisted, hentry⟩
  · cases hmatch : matchContract request.uniquenessKey (iterContracts response) with
    | none => exact hlost hmatch
    | some contractId =>
        obtain ⟨contract, hlisted, hentry⟩ := matchContract_eq_some hmatch
        exact absurd hentry (hnone contract hlisted contractId)

/-- Ada is mapped, and her subscription is about to be. -/
def mappedAda : Postgres := Postgres.empty.apply (.insertCustomer ⟨"cus_1", "m1", 0⟩)

def subscribedEvent : WebhookEvent where
  stripeEventId := "evt_2"
  eventType := "customer.subscription.created"
  payload := adaSubscribed.payload
  status := .PENDING
  attempts := 0
  lastError := none
  receivedAt := 0
  nextAttemptAt := 0
  processedAt := none

/-- The contract is there already, next to that of an earlier period. -/
def listsTwo : SdkObject :=
  .dict [("data", .list [
    .dict [("uniqueness_key", .str "sub_1_price_REPLACE_ME_startup_1697320800"),
      ("id", .str "k0")],
    .model [("uniqueness_key", .str "sub_1_price_REPLACE_ME_startup_1699999200"),
      ("id", .str "k1")]])]

theorem recovery_like_creation_mappedAda :
    Alike mappedAda
      ((ofDb mappedAda true (fun requests => if requests.length = 1 then
          .statusError 409 false "conflict" else .ok listsTwo) (fun _ => 5)
        (fun hi => hi)).attempt defaultSettings TIERS subscribedEvent)
      ((ofDb mappedAda true (fun _ => okWithId "k1") (fun _ => 7)
        (fun hi => hi)).attempt defaultSettings TIERS subscribedEvent) := by
  refine (recovery_like_creation (by decide) rfl rfl ⟨rfl, rfl, rfl, rfl,
    rfl⟩ rfl rfl _ _).1
    "k1" _ _ _ ⟨⟨_, List.mem_cons_of_mem _ List.mem_cons_self, by decide +kernel⟩, ?_⟩
    ⟨_, rfl, rfl⟩
  intro contract hmem id hentry
  rcases List.mem_cons.mp hmem with rfl | hmem
  · have hkey : some "sub_1_price_REPLACE_ME_startup_1697320800" =
        some "sub_1_price_REPLACE_ME_startup_1699999200" :=
      (congrArg Prod.snd hentry).trans (congrArg some (by decide +kernel))
    exact absurd hkey (by decide)
  · cases List.mem_singleton.mp hmem
    exact (Option.some.inj (congrArg Prod.fst hentry)).symm

end Recovery

end Sidecar.Ports.Traffic
