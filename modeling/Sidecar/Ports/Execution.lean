import Sidecar.Ports.Attempt

/-!
# The code follows the description of an attempt

Symbolic execution of the worker's code with the rules of `Resumption`: first
one rule for each effect and each client operation, then one for each step of
the handlers, then the verdicts.

## Main results

* `always_handler` — every registered handler.
* `handleEvent_always` — every attempt.
-/

namespace Sidecar.Ports.Execution

open Sidecar.Verified.Resumption
open Sidecar.Ports.Python
open Sidecar.Ports.Config
open Sidecar.Ports.Mappers
open Sidecar.Ports.Models
open Sidecar.Ports.Effects
open Sidecar.Ports.MetronomeClient
open Sidecar.Ports.Handlers
open Sidecar.Ports.Worker
open Sidecar.Ports.Attempt

/-! ## Calls -/

section Calls

variable {α : Type} {s : Session}

section Requests

variable {J : Session → Node Op PyExc Unit → Prop}

/-- The row that a query finds has the key asked for. -/
theorem always_lookupCustomerMapping
    {J : Session → Node Op PyExc (Option CustomerMapping) → Prop} {c : String}
    (hask : J s (.perform (.lookupCustomerMapping c)))
    (hret : ∀ row : Option CustomerMapping, (∀ r, row = some r → r.stripeCustomerId = c) →
      J (s.learn (.customerRow c row)) (.ret row)) :
    Always semantics J (lookupCustomerMapping c) s := ⟨hask, hret⟩

/-- The same for subscriptions. -/
theorem always_lookupSubscriptionMapping
    {J : Session → Node Op PyExc (Option SubscriptionMapping) → Prop} {sub : String}
    (hask : J s (.perform (.lookupSubscriptionMapping sub)))
    (hret : ∀ row : Option SubscriptionMapping,
      (∀ r, row = some r → r.stripeSubscriptionId = sub) →
      J (s.learn (.subscriptionRow sub row)) (.ret row)) :
    Always semantics J (lookupSubscriptionMapping sub) s := ⟨hask, hret⟩

/-- The clock may read anything. -/
theorem always_datetimeNow {J : Session → Node Op PyExc Time → Prop}
    (hask : J s (.perform .clock)) (hret : ∀ now, J (s.learn (.clock now)) (.ret now)) :
    Always semantics J datetimeNow s := ⟨hask, fun now _ => hret now⟩

/-- An invariant that does not depend on the draw. -/
theorem always_randomUniform {J : Session → Node Op PyExc PyFloat → Prop} {hi : PyFloat}
    (hask : J s (.perform (.uniform hi))) (hret : ∀ u, J (s.learn (.drew u)) (.ret u)) :
    Always semantics J (randomUniform hi) s := ⟨hask, fun u _ => hret u⟩

theorem always_sessionAdd {write : Write} (hask : J s (.perform (.add write)))
    (hret : J { s with pending := s.pending ++ [write] } (.ret ())) :
    Always semantics J (sessionAdd write) s := ⟨hask, fun _ _ => hret⟩

/-- The first thing an attempt does to its row. -/
theorem always_incrementAttempts (hask : J s (.perform .incrementAttempts))
    (hret : J { s with event := claimed s.event } (.ret ())) :
    Always semantics J incrementAttempts s := ⟨hask, fun _ _ => hret⟩

theorem always_assign {assignment : Assignment}
    (hask : J s (.perform (.assign assignment)))
    (hret : J { s with event := assignment.apply s.event } (.ret ())) :
    Always semantics J (assign assignment) s := ⟨hask, fun _ _ => hret⟩

theorem always_logCompleted {result : Completed}
    (hask : J s (.perform (.completed result)))
    (hret : J { s with result := some result } (.ret ())) :
    Always semantics J (logCompleted result) s := ⟨hask, fun _ _ => hret⟩

/-- A flush either stages what is pending or ends the transaction. -/
theorem always_sessionFlush (hpoison : s.poisoned = false) (hask : J s (.perform .flush))
    (hret : J { s with flushed := s.flushed ++ s.pending, pending := [] } (.ret ()))
    (hraise : ∀ msg, J { s with flushed := [], pending := [], poisoned := true }
      (.raise (.integrityError msg))) :
    Always semantics J sessionFlush s := by
  unfold sessionFlush
  rw [always_bind]
  refine ⟨hask, fun reply hreply => ?_⟩
  simp only [semantics, Session.admits, hpoison, Bool.false_eq_true, if_false] at hreply
  rcases hreply with rfl | ⟨msg, rfl⟩
  · exact hret
  · exact hraise msg

/-- Reading `event.attempts` fails in a session that a flush has poisoned. -/
theorem always_eventAttempts {J : Session → Node Op PyExc Int → Prop}
    (hask : J s (.perform .readAttempts))
    (hret : s.poisoned = false → J s (.ret s.event.attempts))
    (hraise : s.poisoned = true → J s (.raise closedTransaction)) :
    Always semantics J eventAttempts s := by
  unfold eventAttempts
  rw [always_bind]
  refine ⟨hask, fun reply hreply => ?_⟩
  simp only [semantics, Session.admits] at hreply
  cases hp : s.poisoned with
  | true =>
      simp only [hp] at hreply
      subst hreply
      exact hraise hp
  | false =>
      simp only [hp, Bool.false_eq_true] at hreply
      subst hreply
      exact hret hp

end Requests

/-- A call is sent, then waited for, and any outcome may come. -/
theorem always_sdkCall {J : Session → Node Op PyExc SdkOutcome → Prop}
    {request : MetronomeRequest}
    (hsend : J s (.perform (.send request)))
    (hrecv : ∀ ticket,
      J (s.learn (.sent ticket request)) (.perform (.recv ticket request)))
    (hret : ∀ ticket outcome, J (called s ticket request outcome) (.ret outcome)) :
    Always semantics J (sdkCall request) s :=
  ⟨hsend, fun ticket _ => ⟨hrecv ticket, fun outcome _ => hret ticket outcome⟩⟩

/-- A customer is created, or the call fails and nothing has been obtained. -/
theorem always_createCustomer {J : Session → Node Op PyExc CreatedCustomer → Prop}
    {request : CustomerRequest}
    (hsend : J s (.perform (.send (.createCustomer request))))
    (hrecv : ∀ ticket, J (s.learn (.sent ticket (.createCustomer request)))
      (.perform (.recv ticket (.createCustomer request))))
    (hret : ∀ ticket outcome id, Answers outcome id →
      J (called s ticket (.createCustomer request) outcome) (.ret ⟨id⟩))
    (hraise : ∀ ticket outcome exc, (∀ id, ¬Answers outcome id) →
      J (called s ticket (.createCustomer request) outcome) (.raise exc)) :
    Always semantics J (createCustomer request) s := by
  unfold createCustomer
  rw [always_bind]
  refine always_sdkCall hsend hrecv fun ticket outcome => ?_
  simp only [always_bind, always_ofExcept, always_pure]
  constructor
  · intro response hresponse
    have hok : outcome = .ok response := by
      cases outcome <;> simp_all [responseOf]
    subst hok
    refine ⟨fun id hid => hret _ _ _ ⟨response, rfl, hid⟩, fun exc hexc => ?_⟩
    refine hraise _ _ _ ?_
    rintro id ⟨response', heq, hid⟩
    cases heq
    rw [hid] at hexc
    cases hexc
  · intro exc hexc
    refine hraise _ _ _ ?_
    rintro id ⟨response, rfl, -⟩
    cases hexc

/-- The name is set, or the call fails. -/
theorem always_setCustomerName {J : Session → Node Op PyExc Unit → Prop}
    {customerId name : String}
    (hsend : J s (.perform (.send (.setName customerId name))))
    (hrecv : ∀ ticket, J (s.learn (.sent ticket (.setName customerId name)))
      (.perform (.recv ticket (.setName customerId name))))
    (hret : ∀ ticket response,
      J (called s ticket (.setName customerId name) (.ok response)) (.ret ()))
    (hraise : ∀ ticket outcome exc,
      J (called s ticket (.setName customerId name) outcome) (.raise exc)) :
    Always semantics J (setCustomerName customerId name) s := by
  unfold setCustomerName
  rw [always_bind]
  refine always_sdkCall hsend hrecv fun ticket outcome => ?_
  simp only [always_bind, always_ofExcept, always_pure]
  refine ⟨fun response hresponse => ?_, fun exc _ => hraise _ _ _⟩
  have hok : outcome = .ok response := by
    cases outcome <;> simp_all [responseOf]
  subst hok
  exact hret _ _

/-- The list has an entry with the key, or the recovery fails. -/
theorem always_findContract {J : Session → Node Op PyExc String → Prop}
    {customerId uniquenessKey : String}
    (hsend : J s (.perform (.send (.listContracts customerId))))
    (hrecv : ∀ ticket, J (s.learn (.sent ticket (.listContracts customerId)))
      (.perform (.recv ticket (.listContracts customerId))))
    (hret : ∀ ticket response id,
      matchContract uniquenessKey (iterContracts response) = some id →
      J (called s ticket (.listContracts customerId) (.ok response)) (.ret id))
    (hraise : ∀ ticket outcome exc,
      J (called s ticket (.listContracts customerId) outcome) (.raise exc)) :
    Always semantics J (findContractByUniquenessKey customerId uniquenessKey) s := by
  unfold findContractByUniquenessKey
  rw [always_bind]
  refine always_sdkCall hsend hrecv fun ticket outcome => ?_
  simp only [always_bind, always_ofExcept]
  refine ⟨fun response hresponse => ?_, fun exc _ => hraise _ _ _⟩
  have hok : outcome = .ok response := by
    cases outcome <;> simp_all [responseOf]
  subst hok
  split
  · next id hid => exact hret _ _ _ hid
  · exact hraise _ _ _

/-- A contract is created or recovered; the second call is made on a 409 only.
-/
theorem always_createContract {J : Session → Node Op PyExc CreatedContract → Prop}
    {request : ContractRequest}
    (hsend : J s (.perform (.send (.createContract request))))
    (hrecv : ∀ ticket, J (s.learn (.sent ticket (.createContract request)))
      (.perform (.recv ticket (.createContract request))))
    (hret : ∀ ticket outcome id, Answers outcome id →
      J (called s ticket (.createContract request) outcome) (.ret ⟨id, false⟩))
    (hraise : ∀ ticket outcome exc,
      J (called s ticket (.createContract request) outcome) (.raise exc))
    (hrecover : ∀ ticket rateLimitError msg,
      Always semantics (fun l n => match n with
        | .ret id => J l (.ret ⟨id, true⟩)
        | .raise exc => J l (.raise exc)
        | .perform o => J l (.perform o))
        (findContractByUniquenessKey request.customerId request.uniquenessKey)
        (called s ticket (.createContract request)
          (.statusError 409 rateLimitError msg))) :
    Always semantics J (createContract request) s := by
  unfold createContract
  rw [always_bind]
  refine always_sdkCall hsend hrecv fun ticket outcome => ?_
  have hid : ∀ response id, extractId response = .ok id →
      J (called s ticket (.createContract request) (.ok response)) (.ret ⟨id, false⟩) :=
    fun response id h => hret _ _ _ ⟨response, rfl, h⟩
  cases outcome with
  | statusError code rateLimitError msg =>
      by_cases hcode : code = 409
      · subst hcode
        simp only [if_true, always_bind]
        exact (hrecover _ _ _).mono fun l n hn => by cases n <;> exact hn
      · simp only [hcode, if_false]
        exact hraise _ _ _
  | ok response =>
      simp only [always_bind, always_ofExcept, always_pure, responseOf]
      refine ⟨fun response' hok => ?_, fun exc _ => hraise _ _ _⟩
      cases hok
      exact ⟨hid response, fun exc _ => hraise _ _ _⟩
  | connectionError msg | timeoutError msg | apiError msg | undecodable _ msg =>
      exact hraise _ _ _

/-- Which exception the call ends with does not matter to most invariants. -/
theorem always_classified {J : Session → Node Op PyExc α → Prop} {p : Effect α}
    (h : Always semantics (fun l n => match n with
      | .raise _ => ∀ exc, J l (.raise exc)
      | n => J l n) p s) :
    Always semantics J (classified p) s := by
  unfold classified
  rw [always_bind, always_attempt]
  refine h.mono fun l n hn => ?_
  match n with
  | .ret a => exact hn
  | .perform o => exact hn
  | .raise exc => cases exc <;> exact hn _

end Calls

/-! ## Handlers -/

section HandlerRules

variable {settings : Settings} {tiers : TierTable} {s : Session}

/-- Writing one row: add it, flush it, and log what was done. -/
theorem always_write {write : Write} {result : Completed} (h : Reading s)
    (hw : Writes settings tiers s write)
    (hdone : Completion settings tiers
      { s with pending := [], flushed := [write], result := some result }) :
    Always semantics (HandlerInv settings tiers)
      (do sessionAdd write; sessionFlush; logCompleted result) s := by
  rw [always_bind]
  refine always_sessionAdd ⟨hw, h.flushed, h.pending, h.poisoned⟩ ?_
  rw [always_bind]
  refine always_sessionFlush h.poisoned trivial ?_ fun msg => ?_
  · refine always_logCompleted trivial ⟨h.event, rfl, h.poisoned, ?_⟩
    simp only [h.flushed, h.pending, List.nil_append]
    exact hdone
  · exact ⟨h.event, rfl, rfl, h.result, fun _ => ⟨msg, rfl⟩, fun hp => by cases hp⟩

/-- A precondition that fails before anything is written. -/
theorem always_check {α : Type} {f : α → Effect Unit} {check : Except PyExc α}
    (h : Reading s) (hu : Unanswered s)
    (hok : ∀ a, check = .ok a →
      Always semantics (HandlerInv settings tiers) (f a) s) :
    Always semantics (HandlerInv settings tiers) (do f (← .ofExcept check)) s := by
  rw [always_bind, always_ofExcept]
  exact ⟨hok, fun exc _ => h.raised hu exc⟩

/-- A required string is there. -/
theorem requireStr_eq_ok {value : Json} {fieldPath s : String}
    (h : Handlers.requireStr value fieldPath = .ok s) :
    asNonEmptyStr value = some s := by
  unfold Handlers.requireStr at h
  split at h
  · next heq => cases h; exact heq
  · cases h

/-- A tier that is resolved is the table's. -/
theorem lookup_of_resolveTier {price : String} {tier : Tier}
    (h : resolveTier tiers price = .ok tier) : tiers.lookup price = some tier := by
  unfold resolveTier lookupTier at h
  cases hl : tiers.lookup price with
  | some t =>
      rw [hl] at h
      cases h
      rfl
  | none =>
      rw [hl] at h
      cases h

/-- The handler registered for a customer event type. -/
def customerHandler : CustomerEventType → Handler
  | .created => .customerCreated
  | .updated => .customerUpdated

/-- Both customer handlers are for customer events. -/
theorem isCustomer_of {event : WebhookEvent} {eventType : CustomerEventType}
    (h : handlerOf event = some (customerHandler eventType)) : IsCustomer event := by
  cases eventType with
  | created => exact .inl h
  | updated => exact .inr h

/-- The customer is mapped: no call for `created`, one rename for `updated`.
-/
theorem always_handleExistingMapping {eventType : CustomerEventType}
    {object : JsonObject} {c : String} {row : CustomerMapping}
    (hr : Reading s) (hu : Unanswered s)
    (hh : handlerOf s.loaded = some (customerHandler eventType))
    (hobj : dataObject s.loaded.payload = some object)
    (hid : objectId s.loaded.payload = some c)
    (hrow : Fact.customerRow c (some row) ∈ s.journal) :
    Always semantics (HandlerInv settings tiers)
      (do logCompleted (.customer (← handleExistingMapping object row eventType))) s := by
  cases eventType with
  | created =>
      refine always_logCompleted trivial ⟨hr.event, hr.pending, hr.poisoned, ?_⟩
      exact .customerSkipped hh hid hrow hr.flushed rfl
  | updated =>
      simp only [handleExistingMapping, bind_assoc, pure_bind]
      refine always_check hr hu fun request hrequest => ?_
      have hreq : customerRequest s.loaded.payload = some request := by
        rw [customerRequest, hobj]
        exact toOption_eq_some.mpr hrequest
      rw [always_bind]
      refine always_classified (always_setCustomerName ?_ ?_ ?_ ?_)
      · exact ⟨.setName hh hid hrow hreq, hr.poisoned, fun _ h => by cases h⟩
      · exact fun ticket => ⟨List.mem_cons_self, hr.poisoned⟩
      · intro ticket response
        rw [always_bind]
        refine always_datetimeNow trivial fun now => ?_
        refine always_write ((hr.called _ _ _).learn _) ?_ ?_
        · exact .touchCustomer hh hid (mem_learn _ (mem_called hrow)) hreq
            (mem_learn _ answered_mem_called)
        · exact .customerUpdated hh hid (mem_learn _ (mem_called hrow)) hreq
            (mem_learn _ answered_mem_called) rfl rfl
      · intro ticket outcome exc exc'
        exact (hr.called _ _ _).raised (hu.called (by simp)) exc'

/-- The customer is unmapped: one create, and the row for its answer. -/
theorem always_createNewMapping {object : JsonObject} {c : String}
    (hr : Reading s) (hu : Unanswered s) (hn : Unasked s) (hh : IsCustomer s.loaded)
    (hobj : dataObject s.loaded.payload = some object)
    (hid : objectId s.loaded.payload = some c)
    (hrow : Fact.customerRow c none ∈ s.journal) :
    Always semantics (HandlerInv settings tiers)
      (do logCompleted (.customer (← createNewMapping object))) s := by
  simp only [createNewMapping, bind_assoc, pure_bind]
  refine always_check hr hu fun c' hc' => ?_
  have hc : c' = c := by
    rw [objectId, hobj, Option.bind_some, requireStr_eq_ok hc'] at hid
    exact Option.some.inj hid
  subst hc
  refine always_check hr hu fun request hrequest => ?_
  have hreq : customerRequest s.loaded.payload = some request := by
    rw [customerRequest, hobj]
    exact toOption_eq_some.mpr hrequest
  rw [always_bind]
  refine always_classified (always_createCustomer ?_ ?_ ?_ ?_)
  · exact ⟨.createCustomer hh hid hrow hreq, hr.poisoned, fun _ _ => hn⟩
  · exact fun ticket => ⟨List.mem_cons_self, hr.poisoned⟩
  · intro ticket outcome id hanswer
    simp only [always_bind datetimeNow]
    refine always_datetimeNow trivial fun now => ?_
    have hw : Writes settings tiers
        ((called s ticket (.createCustomer request) outcome).learn (.clock now))
        (.insertCustomer ⟨c', id, now⟩) :=
      .insertCustomer hh hid (mem_learn _ (mem_called hrow)) hreq
        (mem_learn _ answered_mem_called) hanswer
    refine always_write ((hr.called _ _ _).learn _) hw (.customerCreated ?_ rfl rfl)
    exact hw.mono rfl (List.Subset.refl _)
  · intro ticket outcome exc hno exc'
    refine (hr.called _ _ _).raised (hu.called fun body hbody => ?_) exc'
    exact hno

/-- The two handlers of customers. -/
theorem always_handleCustomerEvent {eventType : CustomerEventType}
    (hr : Reading s) (hu : Unanswered s) (hn : Unasked s)
    (hh : handlerOf s.loaded = some (customerHandler eventType)) :
    Always semantics (HandlerInv settings tiers)
      (handleCustomerEvent eventType s.loaded.payload) s := by
  unfold handleCustomerEvent
  refine always_check hr hu fun object hobject => ?_
  have hobj : dataObject s.loaded.payload = some object := toOption_eq_some.mpr hobject
  refine always_check hr hu fun c hc => ?_
  have hid : objectId s.loaded.payload = some c := by
    rw [objectId, hobj]
    exact requireStr_eq_ok hc
  rw [always_bind]
  refine always_lookupCustomerMapping ⟨hr.flushed, hr.poisoned⟩ fun row hrow => ?_
  have hr' := hr.learn (.customerRow c row)
  have hu' : Unanswered (s.learn (.customerRow c row)) := hu.learn (by simp)
  cases row with
  | some row => exact always_handleExistingMapping hr' hu' hh hobj hid List.mem_cons_self
  | none =>
      exact always_createNewMapping hr' hu' (hn.learn (by simp))
        (isCustomer_of hh) hobj hid
        List.mem_cons_self

/-- A mapped subscription writes nothing. -/
theorem always_skipMapped {sub : String} {row : SubscriptionMapping}
    (hr : Reading s) (hu : Unanswered s)
    (hh : handlerOf s.loaded = some .subscriptionCreated)
    (hid : objectId s.loaded.payload = some sub)
    (hrow : Fact.subscriptionRow sub (some row) ∈ s.journal) :
    Always semantics (HandlerInv settings tiers) (skipMapped row) s := by
  simp only [skipMapped, requireMetronomeCustomerId, bind_assoc]
  rw [always_bind]
  refine always_lookupCustomerMapping ⟨hr.flushed, hr.poisoned⟩ fun customer _ => ?_
  cases customer with
  | none => exact (hr.learn _).raised (hu.learn (by simp)) _
  | some customer =>
      refine always_logCompleted trivial ⟨hr.event, hr.pending, hr.poisoned, ?_⟩
      exact .subscriptionSkipped hh hid (mem_learn _ hrow) List.mem_cons_self
        hr.flushed rfl

/-- The end of `createMapped`, once the contract's id is known. -/
theorem always_recordContract {sub c price id : String} {tier : Tier}
    {customer : CustomerMapping} {request : ContractRequest} {recovered : Bool}
    (hr : Reading s) (hh : handlerOf s.loaded = some .subscriptionCreated)
    (hc : Contract settings tiers s.loaded.payload sub c price tier
      customer.metronomeCustomerId request)
    (hsub : Fact.subscriptionRow sub none ∈ s.journal)
    (hrow : Fact.customerRow c (some customer) ∈ s.journal)
    (hob : Obtained s request id recovered) :
    Always semantics (HandlerInv settings tiers)
      (do
        let updatedAt ← datetimeNow
        sessionAdd (.insertSubscription ⟨sub, c, id, tier.name, price, updatedAt⟩)
        sessionFlush
        logCompleted (.subscription
          ⟨if recovered then .CREATED_VIA_UNIQUENESS_KEY_RECOVERY else .CREATED,
            sub, c, customer.metronomeCustomerId, id, tier.name⟩)) s := by
  rw [always_bind]
  refine always_datetimeNow trivial fun now => ?_
  have hw : Writes settings tiers (s.learn (.clock now))
      (.insertSubscription ⟨sub, c, id, tier.name, price, now⟩) :=
    .insertSubscription hh hc (mem_learn _ hsub) (mem_learn _ hrow) rfl
      (hob.mono (List.subset_cons_self _ _))
  refine always_write (hr.learn _) hw ?_
  exact .subscriptionCreated (hw.mono rfl (List.Subset.refl _)) hc (mem_learn _ hrow)
    (hob.mono (List.subset_cons_self _ _)) rfl rfl

/-- An unmapped subscription: a contract with the tier of its price, for the
customer of its row. -/
theorem always_createMapped {object : JsonObject} {sub c : String}
    (hr : Reading s) (hu : Unanswered s)
    (hh : handlerOf s.loaded = some .subscriptionCreated)
    (hobj : dataObject s.loaded.payload = some object)
    (hid : objectId s.loaded.payload = some sub)
    (hcust : objectCustomer s.loaded.payload = some c)
    (hrow : Fact.subscriptionRow sub none ∈ s.journal) :
    Always semantics (HandlerInv settings tiers)
      (createMapped settings tiers object sub c) s := by
  unfold createMapped
  refine always_check hr hu fun price hprice => ?_
  rw [always_bind]
  refine always_lookupCustomerMapping ⟨hr.flushed, hr.poisoned⟩ fun customer _ => ?_
  have hr' := hr.learn (.customerRow c customer)
  have hu' : Unanswered (s.learn (.customerRow c customer)) := hu.learn (by simp)
  cases customer with
  | none => exact hr'.raised hu' _
  | some customer =>
      refine always_check hr' hu' fun tier htier => ?_
      refine always_check hr' hu' fun request hrequest => ?_
      have hcontract : Contract settings tiers s.loaded.payload sub c price tier
          customer.metronomeCustomerId request :=
        { subscription := hid
          customer := hcust
          price := by rw [objectPrice, hobj]; exact toOption_eq_some.mpr hprice
          known := lookup_of_resolveTier htier
          request := by rw [contractRequest, hobj]; exact toOption_eq_some.mpr hrequest }
      have hcust' : Fact.customerRow c (some customer) ∈
          (s.learn (.customerRow c (some customer))).journal := List.mem_cons_self
      have hsub' := mem_learn (.customerRow c (some customer)) hrow
      rw [always_bind]
      refine always_classified (always_createContract ?_ ?_ ?_ ?_ ?_)
      · exact ⟨.createContract hh hcontract hsub' hcust', hr'.poisoned,
          fun _ h => by cases h⟩
      · exact fun ticket => ⟨List.mem_cons_self, hr'.poisoned⟩
      · intro ticket outcome id hanswer
        exact always_recordContract (hr'.called _ _ _) hh hcontract (mem_called hsub')
          (mem_called hcust') (.created answered_mem_called hanswer)
      · intro ticket outcome exc exc'
        exact (hr'.called _ _ _).raised (hu'.called (by simp)) exc'
      · intro ticket rateLimitError msg
        have hr'' := hr'.called ticket (.createContract request)
          (.statusError 409 rateLimitError msg)
        have hu'' : Unanswered (called _ ticket (.createContract request)
          (.statusError 409 rateLimitError msg)) := hu'.called (by simp)
        refine always_findContract ?_ ?_ ?_ ?_
        · exact ⟨.listContracts hh hcontract (mem_called hcust') answered_mem_called,
            hr''.poisoned, fun _ h => by cases h⟩
        · exact fun ticket' => ⟨List.mem_cons_self, hr''.poisoned⟩
        · intro ticket' response id hmatch
          exact always_recordContract (hr''.called _ _ _) hh hcontract
            (mem_called (mem_called hsub')) (mem_called (mem_called hcust'))
            (.recovered answered_mem_called hmatch)
        · intro ticket' outcome exc exc'
          exact (hr''.called _ _ _).raised (hu''.called (by simp)) exc'

/-- The handler of new subscriptions. -/
theorem always_handleSubscriptionCreated (hr : Reading s) (hu : Unanswered s)
    (hh : handlerOf s.loaded = some .subscriptionCreated) :
    Always semantics (HandlerInv settings tiers)
      (handleSubscriptionCreated settings tiers s.loaded.payload) s := by
  unfold handleSubscriptionCreated
  refine always_check hr hu fun object hobject => ?_
  have hobj : dataObject s.loaded.payload = some object := toOption_eq_some.mpr hobject
  refine always_check hr hu fun sub hsub => ?_
  have hid : objectId s.loaded.payload = some sub := by
    rw [objectId, hobj]
    exact requireStr_eq_ok hsub
  refine always_check hr hu fun c hc => ?_
  have hcust : objectCustomer s.loaded.payload = some c := by
    rw [objectCustomer, hobj]
    exact requireStr_eq_ok hc
  rw [always_bind]
  refine always_lookupSubscriptionMapping ⟨hr.flushed, hr.poisoned⟩ fun row _ => ?_
  have hr' := hr.learn (.subscriptionRow sub row)
  have hu' : Unanswered (s.learn (.subscriptionRow sub row)) := hu.learn (by simp)
  cases row with
  | some row => exact always_skipMapped hr' hu' hh hid List.mem_cons_self
  | none => exact always_createMapped hr' hu' hh hobj hid hcust List.mem_cons_self

/-- The two loud no-ops make no call and write nothing. -/
theorem always_notPropagated (hr : Reading s) (hu : Unanswered s)
    (hh : handlerOf s.loaded = some .subscriptionUpdated ∨
      handlerOf s.loaded = some .subscriptionDeleted) :
    Always semantics (HandlerInv settings tiers) (notPropagated s.loaded.payload) s := by
  unfold notPropagated
  refine always_check hr hu fun object _ => ?_
  refine always_check hr hu fun _ _ => ?_
  rw [always_bind, always_ofExcept]
  refine ⟨fun _ _ => ?_, fun exc _ => hr.raised hu exc⟩
  exact ⟨hr.event, hr.pending, hr.poisoned, .notPropagated hh hr.flushed hr.result⟩

/-- **Every handler follows the description of an attempt.** -/
theorem always_handler {handler : Handler} (hr : Reading s) (hu : Unanswered s)
    (hn : Unasked s) (hh : handlerOf s.loaded = some handler) :
    Always semantics (HandlerInv settings tiers)
      (handler.run settings tiers s.loaded.payload) s := by
  cases handler with
  | customerCreated => exact always_handleCustomerEvent hr hu hn hh
  | customerUpdated => exact always_handleCustomerEvent hr hu hn hh
  | subscriptionCreated => exact always_handleSubscriptionCreated hr hu hh
  | subscriptionUpdated => exact always_notPropagated hr hu (.inl hh)
  | subscriptionDeleted => exact always_notPropagated hr hu (.inr hh)

/-- In particular when the worker calls it, on the row it has just claimed. -/
theorem handler_always {handler : Handler} {row : WebhookEvent}
    (hh : handlerOf row = some handler) :
    Always semantics (HandlerInv settings tiers) (handler.run settings tiers row.payload)
      { Session.start row with event := claimed row } := by
  have hr : Reading { Session.start row with event := claimed row } :=
    ⟨rfl, rfl, rfl, rfl, rfl⟩
  have hu : Unanswered { Session.start row with event := claimed row } := by
    intro _ _ _ _ hmem
    cases hmem
  have hn : Unasked { Session.start row with event := claimed row } := by
    intro _ _ hmem
    cases hmem
  exact always_handler hr hu hn hh

end HandlerRules

/-! ## Verdicts -/

section Verdicts

variable {settings : Settings} {tiers : TierTable} {s : Session}

/-- The handler has returned. -/
theorem always_markProcessed (h : Returned settings tiers s) :
    Always semantics (AttemptInv settings tiers) markProcessed s := by
  unfold markProcessed
  simp only [always_bind]
  refine always_assign trivial (always_datetimeNow trivial fun now => ?_)
  refine always_assign trivial (always_assign trivial ⟨h.poisoned, h.pending, ?_⟩)
  refine .processed now (h.completion.mono rfl (List.subset_cons_self _ _) rfl rfl) ?_ rfl
  simp only [Assignment.apply, learn_event, learn_loaded, h.event]

/-- The handler has raised for good, or the attempts are used up. -/
theorem always_markFailed {reason : String} {isPermanent : Bool} (hp : s.poisoned = false)
    (hpending : s.pending = []) (hevent : s.event = claimed s.loaded) (hf : Fruitless s)
    (hexhausted : isPermanent = false → settings.workerMaxAttempts ≤
      s.loaded.attempts + 1) :
    Always semantics (AttemptInv settings tiers) (markFailed reason isPermanent) s := by
  unfold markFailed
  simp only [always_bind]
  refine always_assign trivial (always_assign trivial ?_)
  refine always_datetimeNow trivial fun now => always_assign trivial ⟨hp, hpending, ?_⟩
  have hf' : Fruitless (s.learn (.clock now)) :=
    ⟨hf.flushed, hf.result, hf.unanswered.learn (by simp)⟩
  cases isPermanent with
  | true =>
      refine .permanent now reason ⟨hf'.flushed, hf'.result, hf'.unanswered⟩ ?_ rfl
      simp only [Assignment.apply, learn_event, learn_loaded, hevent, if_true]
  | false =>
      refine .exhausted now reason ⟨hf'.flushed, hf'.result, hf'.unanswered⟩
        (hexhausted rfl) ?_ rfl
      simp only [Assignment.apply, learn_event, learn_loaded, hevent, Bool.false_eq_true,
        if_false]

/-- The handler has raised: a retry, a final failure, or an exception of its
own. -/
theorem always_scheduleRetryOrFail {exc : PyExc} {reason : String} (h : Raised s exc) :
    Always semantics (AttemptInv settings tiers)
      (scheduleRetryOrFail settings reason) s := by
  unfold scheduleRetryOrFail
  rw [always_bind]
  refine always_eventAttempts trivial (fun hp => ?_)
    (fun hp hp' => by rw [hp] at hp'; cases hp')
  have hf := h.fruitless hp
  have hattempts : s.event.attempts = s.loaded.attempts + 1 := by rw [h.event]; rfl
  dsimp only
  rw [hattempts]
  split
  · next hmax => exact always_markFailed hp h.pending h.event hf fun _ => hmax
  · next hmax =>
      simp only [backoffDelay, bind_assoc, pure_bind]
      simp only [always_bind, always_ofExcept]
      refine ⟨fun raw _ => ?_, fun _ _ _ => hf.unanswered⟩
      refine always_randomUniform trivial fun u => always_assign trivial ?_
      refine always_datetimeNow trivial fun now => ?_
      have hu := (hf.unanswered.learn (f := .drew u) (by simp)).learn
        (f := .clock now) (by simp)
      refine ⟨fun next hnext => ?_, fun _ _ _ => hu⟩
      obtain ⟨delay, hdelay, rfl⟩ := addSeconds_maxOne hnext
      refine always_assign trivial (always_assign trivial ⟨hp, h.pending, ?_⟩)
      refine .retry now delay reason ⟨hf.flushed, hf.result, hu⟩ (not_le.mp hmax)
        hdelay ?_ rfl
      simp only [Assignment.apply, learn_event, learn_loaded, h.event]

end Verdicts

/-- **Every attempt follows its description.** -/
theorem handleEvent_always {settings : Settings} {tiers : TierTable}
    (row : WebhookEvent) :
    Always semantics (AttemptInv settings tiers) (handleEvent settings tiers row)
      (.start row) := by
  unfold handleEvent
  rw [always_bind]
  refine always_incrementAttempts trivial ?_
  dsimp only
  split
  · next hnone =>
      exact always_markProcessed ⟨rfl, rfl, rfl, .ignored hnone rfl rfl⟩
  · next handler hsome =>
      rw [always_bind, always_attempt]
      refine (handler_always hsome).mono fun l n hn => ?_
      match n with
      | .perform o => exact hn
      | .ret _ => exact always_markProcessed hn
      | .raise exc =>
          cases exc with
          | permanentHandlerError msg =>
              have hp := Raised.unpoisoned hn
              exact always_markFailed hp (Raised.pending hn) (Raised.event hn)
                (Raised.fruitless hn hp) (fun h => by cases h)
          | _ => exact always_scheduleRetryOrFail hn

end Sidecar.Ports.Execution
