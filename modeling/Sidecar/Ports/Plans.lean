import Sidecar.Ports.Execution
import Sidecar.Verified.Replay

/-!
# A handler decides, then acts

A handler first reads the payload and the mapping tables and decides what to
do; then it makes its Metronome calls and writes one row.  `plan` is the first
half as a pure function, `Call.make` and `Recorded.store` are the second, and
`play_handler` says that every handler is the one followed by the other.

An attempt is played against `Surroundings`: what its queries find, how its
calls end, whether the database refuses its row, and what the clock and the
random generator say.  No query and no call of an attempt is made twice, so
every run of an attempt, however the other workers interleave with it, is its
play in some surroundings.

## Main results

* `play_handler` — a handler follows its plan.
* `plan_eq_act_iff` — which calls are planned, and when.
-/

namespace Sidecar.Ports.Plans

open Sidecar.Verified.Resumption
open Sidecar.Ports.Python
open Sidecar.Ports.Config
open Sidecar.Ports.Mappers hiding requireStr
open Sidecar.Ports.Models
open Sidecar.Ports.Effects
open Sidecar.Ports.MetronomeClient
open Sidecar.Ports.Handlers
open Sidecar.Ports.Worker
open Sidecar.Ports.Attempt
open Sidecar.Ports.Execution

/-! ## Surroundings -/

/-- The request of a fact about a call that was sent. -/
def Fact.request? : Fact → Option MetronomeRequest
  | .sent _ request => some request
  | _ => none

/-- The Metronome calls of an attempt, the last one first. -/
def calls (s : Session) : List MetronomeRequest := s.journal.filterMap Fact.request?

/-- What an attempt meets with. -/
structure Surroundings where
  customers : String → Option CustomerMapping
  subscriptions : String → Option SubscriptionMapping
  customers_id : ∀ c row, customers c = some row → row.stripeCustomerId = c
  subscriptions_id : ∀ sub row, subscriptions sub = some row →
    row.stripeSubscriptionId = sub
  /-- How the first of these calls ends, which was made after the others. -/
  outcome : List MetronomeRequest → SdkOutcome
  /-- The constraint that these rows violate. -/
  refusal : List Write → Option String
  /-- The time once these rows are written. -/
  clock : List Write → Time
  draw : PyFloat → PyFloat
  firstTicket : Nat := 0

namespace Surroundings

variable (ρ : Surroundings)

/-- The reply to one request of an attempt. -/
def reply (s : Session) : (o : Op) → Res o
  | .lookupCustomerMapping c => ρ.customers c
  | .lookupSubscriptionMapping sub => ρ.subscriptions sub
  | .send _ => ρ.firstTicket + (calls s).length
  | .recv _ _ => ρ.outcome (calls s)
  | .flush =>
      if s.poisoned then .error closedTransaction
      else match ρ.refusal s.pending with
        | some constraint => .error (.integrityError constraint)
        | none => .ok ()
  | .clock => ρ.clock s.flushed
  | .uniform hi => ρ.draw hi
  | .readAttempts => if s.poisoned then .error closedTransaction else .ok s.event.attempts
  | .add _ | .incrementAttempts | .assign _ | .completed _ => ()

/-- The run of a program. -/
def play {α : Type} (p : Effect α) (s : Session) : Session × Except PyExc α :=
  p.play semantics ρ.reply s

/-- One attempt on a claimed row. -/
def attempt (settings : Settings) (tiers : TierTable) (row : WebhookEvent) :
    Session × Except PyExc Unit :=
  ρ.play (handleEvent settings tiers row) (.start row)

end Surroundings

/-! ## Deciding -/

/-- What is made and written once the calls have been answered. -/
structure Recorded where
  write : Time → Write
  result : Completed

/-- A Metronome operation, with what its answer is going to be recorded with.
-/
inductive Call where
  | createCustomer (stripeCustomerId : String) (request : CustomerRequest)
  | rename (mapping : CustomerMapping) (request : CustomerRequest)
  | createContract (stripeSubscriptionId stripeCustomerId priceId : String) (tier : Tier)
      (customerMapping : CustomerMapping) (request : ContractRequest)

/-- What an attempt is about to do. -/
inductive Plan where
  /-- Nothing is propagated. -/
  | ignore
  /-- There is a row already. -/
  | skip (result : Completed)
  | act (call : Call)

/-- The plan of the two customer handlers. -/
def customerPlan (ρ : Surroundings) (eventType : CustomerEventType)
    (payload : JsonObject) :
    Except PyExc Plan := do
  let stripeCustomer ← extractObject payload
  let stripeCustomerId ← requireStr (get stripeCustomer "id") "data.object.id"
  match ρ.customers stripeCustomerId, eventType with
  | some mapping, .created => return .skip (.customer
      ⟨.SKIPPED_ALREADY_MAPPED, mapping.stripeCustomerId, mapping.metronomeCustomerId⟩)
  | some mapping, .updated => return .act (.rename mapping (← mapCustomer stripeCustomer))
  | none, _ =>
      return .act (.createCustomer stripeCustomerId (← mapCustomer stripeCustomer))

/-- The permanent failure of a mapped subscription without its customer. -/
def missingCustomerRow (stripeCustomerId : String) : PyExc :=
  .permanentHandlerError
    (s!"subscription_mappings row exists for Stripe customer " ++
      s!"{pyRepr stripeCustomerId} but no customer_mappings row does — " ++
      "database integrity issue.")

/-- The plan of `handle_subscription_created`. -/
def subscriptionPlan (settings : Settings) (tiers : TierTable) (ρ : Surroundings)
    (payload : JsonObject) : Except PyExc Plan := do
  let object ← extractObject payload
  let sub ← requireStr (get object "id") "data.object.id"
  let c ← requireStr (get object "customer") "data.object.customer"
  match ρ.subscriptions sub with
  | some row =>
      match ρ.customers row.stripeCustomerId with
      | some customer => return .skip (.subscription
          ⟨.SKIPPED_ALREADY_MAPPED, row.stripeSubscriptionId, row.stripeCustomerId,
            customer.metronomeCustomerId, row.metronomeContractId, row.currentTierName⟩)
      | none => .error (missingCustomerRow row.stripeCustomerId)
  | none =>
      let priceId ← extractSinglePriceId object
      match ρ.customers c with
      | none => .error (missingCustomerMapping c)
      | some customer =>
          let tier ← resolveTier tiers priceId
          let request ← mapSubscription object tier customer.metronomeCustomerId
            settings.metronomeDefaultRateCardId
          return .act (.createContract sub c priceId tier customer request)

/-- The plan of the two loud no-ops. -/
def noPlan (payload : JsonObject) : Except PyExc Plan := do
  let object ← extractObject payload
  let _ ← requireStr (get object "id") "data.object.id"
  let _ ← requireStr (get object "customer") "data.object.customer"
  return .ignore

/-- What a handler does in these surroundings, or the exception it raises
before any Metronome call. -/
def plan (settings : Settings) (tiers : TierTable) (ρ : Surroundings)
    (payload : JsonObject) :
    Handler → Except PyExc Plan
  | .customerCreated => customerPlan ρ .created payload
  | .customerUpdated => customerPlan ρ .updated payload
  | .subscriptionCreated => subscriptionPlan settings tiers ρ payload
  | .subscriptionUpdated | .subscriptionDeleted => noPlan payload

/-! ## Acting -/

/-- The operation as the handlers call it. -/
def Call.make : Call → Effect Recorded
  | .createCustomer c request => do
      let created ← classified (MetronomeClient.createCustomer request)
      return ⟨fun now => .insertCustomer ⟨c, created.metronomeCustomerId, now⟩,
        .customer ⟨.CREATED, c, created.metronomeCustomerId⟩⟩
  | .rename row request => do
      classified (setCustomerName row.metronomeCustomerId request.name)
      return ⟨fun now => .touchCustomer row.stripeCustomerId now,
        .customer ⟨.UPDATED, row.stripeCustomerId, row.metronomeCustomerId⟩⟩
  | .createContract sub c priceId tier customer request => do
      let created ← classified (MetronomeClient.createContract request)
      return ⟨fun now => .insertSubscription
          ⟨sub, c, created.metronomeContractId, tier.name, priceId, now⟩,
        .subscription ⟨if created.viaUniquenessKeyRecovery then
            .CREATED_VIA_UNIQUENESS_KEY_RECOVERY else .CREATED,
          sub, c, customer.metronomeCustomerId, created.metronomeContractId, tier.name⟩⟩

/-- The row is written and flushed, and the result logged. -/
def Recorded.store (recorded : Recorded) : Effect Unit := do
  let updatedAt ← datetimeNow
  sessionAdd (recorded.write updatedAt)
  sessionFlush
  logCompleted recorded.result

/-- What is done about a plan. -/
def Plan.effect : Plan → Effect Unit
  | .ignore => return
  | .skip result => logCompleted result
  | .act call => do (← call.make).store

/-! ## What the answers amount to -/

/-- The verdict on a failed Metronome call. -/
def classifiedError : PyExc → PyExc
  | .transientMetronomeError msg => .retryableHandlerError msg
  | .permanentMetronomeError msg _ => .permanentHandlerError msg
  | exc => exc

/-- Whether a call ended in a conflict. -/
def conflict : SdkOutcome → Bool
  | .statusError statusCode _ _ => statusCode = 409
  | _ => false

/-- The first call. -/
def Call.request : Call → MetronomeRequest
  | .createCustomer _ request => .createCustomer request
  | .rename row request => .setName row.metronomeCustomerId request.name
  | .createContract _ _ _ _ _ request => .createContract request

/-- The id in the answer to a create. -/
def createdId (outcome : SdkOutcome) : Except PyExc String := do
  extractId (← responseOf outcome)

/-- The id of the contract with this key, in the answer to the list. -/
def recoveredId (request : ContractRequest) (outcome : SdkOutcome) :
    Except PyExc String := do
  let response ← responseOf outcome
  match matchContract request.uniquenessKey (iterContracts response) with
  | some contractId => return contractId
  | none => .error (.contractNotFoundError
      (s!"No contract with uniqueness_key={pyRepr request.uniquenessKey} found on " ++
        s!"Metronome customer {pyRepr request.customerId}."))

/-- The contract that the two answers are about. -/
def obtainedContract (request : ContractRequest) (first second : SdkOutcome) :
    Except PyExc CreatedContract :=
  if conflict first then do
    return { metronomeContractId := ← recoveredId request second
             viaUniquenessKeyRecovery := true }
  else do
    return { metronomeContractId := ← createdId first }

/-- The mapping of a contract that was created or recovered. -/
def Call.recordContract (sub c priceId : String) (tier : Tier)
    (customer : CustomerMapping) (created : CreatedContract) : Recorded :=
  ⟨fun now => .insertSubscription
      ⟨sub, c, created.metronomeContractId, tier.name, priceId, now⟩,
    .subscription ⟨if created.viaUniquenessKeyRecovery then
        .CREATED_VIA_UNIQUENESS_KEY_RECOVERY else .CREATED,
      sub, c, customer.metronomeCustomerId, created.metronomeContractId, tier.name⟩⟩

/-- What is recorded when the calls end like this. -/
def Call.answer (first second : SdkOutcome) : Call → Except PyExc Recorded
  | .createCustomer c _ => do
      let id ← (createdId first).mapError classifiedError
      return ⟨fun now => .insertCustomer ⟨c, id, now⟩, .customer ⟨.CREATED, c, id⟩⟩
  | .rename row _ => do
      let _ ← (responseOf first).mapError classifiedError
      return ⟨fun now => .touchCustomer row.stripeCustomerId now,
        .customer ⟨.UPDATED, row.stripeCustomerId, row.metronomeCustomerId⟩⟩
  | .createContract sub c priceId tier customer request => do
      return Call.recordContract sub c priceId tier customer
        (← (obtainedContract request first second).mapError classifiedError)

/-- The calls made, in order, when the first one ends like this. -/
def Call.requests (first : SdkOutcome) : Call → List MetronomeRequest
  | .createContract _ _ _ _ _ request =>
      .createContract request ::
        if conflict first then [.listContracts request.customerId] else []
  | call => [call.request]

/-- How the first call of an attempt ends, and the one that follows it. -/
def Call.first (ρ : Surroundings) (call : Call) : SdkOutcome := ρ.outcome [call.request]

/-- How the call ends that follows the first, where there is one. -/
def Call.second (ρ : Surroundings) : Call → SdkOutcome
  | .createContract _ _ _ _ _ request =>
      ρ.outcome [.listContracts request.customerId, .createContract request]
  | call => call.first ρ

/-! ## The runs of the effects -/

/-- Something that a query of the mapping tables found. -/
def Fact.IsRow : Fact → Prop
  | .customerRow _ _ | .subscriptionRow _ _ => True
  | _ => False

section Play

variable {ρ : Surroundings} {s : Session} {settings : Settings} {tiers : TierTable}

/-- The second program continues where the first returns. -/
theorem Surroundings.play_bind {α β : Type} (p : Effect α) (f : α → Effect β)
    (s : Session) :
    ρ.play (p >>= f) s =
      match ρ.play p s with
      | (s', .ok a) => ρ.play (f a) s'
      | (s', .error exc) => (s', .error exc) := by
  unfold Surroundings.play
  rw [Verified.Resumption.play_bind]
  rcases p.play semantics ρ.reply s with ⟨s', exc | a⟩ <;> rfl

@[simp] theorem Surroundings.play_ofExcept {α : Type} (x : Except PyExc α) (s : Session) :
    ρ.play (.ofExcept x) s = (s, x) := Verified.Resumption.play_ofExcept x s

@[simp] theorem Surroundings.play_pure {α : Type} (a : α) (s : Session) :
    ρ.play (pure a) s = (s, .ok a) := rfl

@[simp] theorem Surroundings.play_raise {α : Type} (exc : PyExc) (s : Session) :
    ρ.play (.raise exc : Effect α) s = (s, .error exc) := rfl

theorem Surroundings.play_attempt {α : Type} (p : Effect α) (s : Session) :
    ρ.play p.attempt s = ((ρ.play p s).1, .ok (ρ.play p s).2) :=
  Verified.Resumption.play_attempt p s

/-! ## Handlers follow their plans -/

/-- From `s` on, `p` looks up some rows and then does what has been decided. -/
def Follows (ρ : Surroundings) (s : Session) (p : Effect Unit)
    (decided : Except PyExc Plan) :
    Prop :=
  ∃ seen, (∀ f ∈ seen, Fact.IsRow f) ∧
    ρ.play p s = ρ.play (do (← Prog.ofExcept decided).effect)
      { s with journal := seen ++ s.journal }

theorem follows_raise (exc : PyExc) : Follows ρ s (.raise exc) (.error exc) :=
  ⟨[], by simp, rfl⟩

theorem follows_effect {p : Effect Unit} {decided : Plan} (h : p = decided.effect) :
    Follows ρ s p (.ok decided) :=
  ⟨[], by simp, by rw [h]; rfl⟩

/-- A check that both make. -/
theorem follows_check {α : Type} {f : α → Effect Unit} {g : α → Except PyExc Plan}
    {check : Except PyExc α} (h : ∀ a, check = .ok a → Follows ρ s (f a) (g a)) :
    Follows ρ s (do f (← Prog.ofExcept check)) (do g (← check)) := by
  cases check with
  | error exc => exact follows_raise exc
  | ok a => exact h a rfl

theorem follows_learn {p : Effect Unit} {f : Fact} {q : Effect Unit}
    {decided : Except PyExc Plan} (hf : Fact.IsRow f)
    (hplay : ρ.play q s = ρ.play p (s.learn f))
    (h : Follows ρ (s.learn f) p decided) : Follows ρ s q decided := by
  obtain ⟨seen, hseen, heq⟩ := h
  refine ⟨seen ++ [f], fun g hg => ?_, ?_⟩
  · rcases List.mem_append.mp hg with hg | hg
    · exact hseen g hg
    · rw [List.mem_singleton.mp hg]
      exact hf
  · rw [hplay, heq, List.append_assoc]
    rfl

theorem follows_customerRow {c : String} {f : Option CustomerMapping → Effect Unit}
    {decided : Except PyExc Plan}
    (h : ∀ s, Follows ρ s (f (ρ.customers c)) decided) :
    Follows ρ s (do f (← lookupCustomerMapping c)) decided :=
  follows_learn (f := .customerRow c (ρ.customers c)) trivial rfl (h _)

theorem follows_subscriptionRow {sub : String}
    {f : Option SubscriptionMapping → Effect Unit} {decided : Except PyExc Plan}
    (h : ∀ s, Follows ρ s (f (ρ.subscriptions sub)) decided) :
    Follows ρ s (do f (← lookupSubscriptionMapping sub)) decided :=
  follows_learn (f := .subscriptionRow sub (ρ.subscriptions sub)) trivial rfl (h _)

theorem follows_handleCustomerEvent (eventType : CustomerEventType)
    (payload : JsonObject) :
    Follows ρ s (handleCustomerEvent eventType payload)
      (customerPlan ρ eventType payload) := by
  unfold handleCustomerEvent customerPlan
  refine follows_check fun object _ => follows_check fun c hc => ?_
  refine follows_customerRow fun s => ?_
  cases ρ.customers c with
  | none =>
      simp only [createNewMapping, hc, ofExcept_ok, bind_assoc, pure_bind]
      refine follows_check fun request _ => follows_effect ?_
      simp only [Plan.effect, Call.make, Recorded.store, bind_assoc, pure_bind]
  | some row =>
      cases eventType with
      | created => exact follows_effect rfl
      | updated =>
          simp only [handleExistingMapping, bind_assoc, pure_bind]
          refine follows_check fun request _ => follows_effect ?_
          simp only [Plan.effect, Call.make, Recorded.store, bind_assoc, pure_bind]

theorem follows_handleSubscriptionCreated (payload : JsonObject) :
    Follows ρ s (handleSubscriptionCreated settings tiers payload)
      (subscriptionPlan settings tiers ρ payload) := by
  unfold handleSubscriptionCreated subscriptionPlan
  refine follows_check fun object _ => follows_check fun sub _ =>
    follows_check fun c _ => ?_
  refine follows_subscriptionRow fun s => ?_
  cases ρ.subscriptions sub with
  | some row =>
      simp only [skipMapped, requireMetronomeCustomerId, bind_assoc]
      refine follows_customerRow fun s => ?_
      cases ρ.customers row.stripeCustomerId with
      | none => exact follows_raise _
      | some customer => exact follows_effect rfl
  | none =>
      simp only [createMapped]
      refine follows_check fun price _ => follows_customerRow fun s => ?_
      cases ρ.customers c with
      | none => exact follows_raise _
      | some customer =>
          refine follows_check fun tier _ => follows_check fun request _ =>
            follows_effect ?_
          simp only [Plan.effect, Call.make, Recorded.store, bind_assoc, pure_bind]

theorem follows_notPropagated (payload : JsonObject) :
    Follows ρ s (notPropagated payload) (noPlan payload) := by
  unfold notPropagated noPlan
  refine follows_check fun object _ => follows_check fun _ _ => ?_
  cases requireStr (get object "customer") "data.object.customer" with
  | error exc => exact follows_raise exc
  | ok c => exact follows_effect rfl

/-- **Every handler follows its plan.** -/
theorem play_handler (handler : Handler) (payload : JsonObject) :
    Follows ρ s (handler.run settings tiers payload)
      (plan settings tiers ρ payload handler) := by
  cases handler with
  | customerCreated => exact follows_handleCustomerEvent .created payload
  | customerUpdated => exact follows_handleCustomerEvent .updated payload
  | subscriptionCreated => exact follows_handleSubscriptionCreated payload
  | subscriptionUpdated => exact follows_notPropagated payload
  | subscriptionDeleted => exact follows_notPropagated payload

end Play

/-! ## What is planned -/

section Planned

variable {settings : Settings} {tiers : TierTable} {ρ : Surroundings}
    {payload : JsonObject}

/-- When each call is planned. -/
inductive Planned (settings : Settings) (tiers : TierTable) (ρ : Surroundings)
    (payload : JsonObject) (handler : Handler) : Call → Prop where
  | createCustomer {c : String} {request : CustomerRequest} :
      handler = .customerCreated ∨ handler = .customerUpdated →
      objectId payload = some c → ρ.customers c = none →
      customerRequest payload = some request →
      Planned settings tiers ρ payload handler (.createCustomer c request)
  | rename {c : String} {row : CustomerMapping} {request : CustomerRequest} :
      handler = .customerUpdated → objectId payload = some c → ρ.customers c = some row →
      customerRequest payload = some request →
      Planned settings tiers ρ payload handler (.rename row request)
  | createContract {sub c price : String} {tier : Tier} {customer : CustomerMapping}
      {request : ContractRequest} :
      handler = .subscriptionCreated → ρ.subscriptions sub = none →
      ρ.customers c = some customer →
      Contract settings tiers payload sub c price tier
        customer.metronomeCustomerId request →
      Planned settings tiers ρ payload handler
        (.createContract sub c price tier customer request)

theorem requireStr_eq_ok_iff {value : Json} {fieldPath s : String} :
    requireStr value fieldPath = .ok s ↔ asNonEmptyStr value = some s := by
  unfold requireStr
  cases asNonEmptyStr value <;> simp

theorem resolveTier_eq_ok_iff {price : String} {tier : Tier} :
    resolveTier tiers price = .ok tier ↔ tiers.lookup price = some tier := by
  unfold resolveTier lookupTier
  cases tiers.lookup price <;> simp [Except.mapError]

theorem extractObject_eq_ok_iff {object : JsonObject} :
    extractObject payload = .ok object ↔ dataObject payload = some object :=
  toOption_eq_some.symm

/-- The ends of a customer plan. -/
theorem customerPlan_eq_ok {eventType : CustomerEventType} {decided : Plan}
    (h : customerPlan ρ eventType payload = .ok decided) :
    ∃ c, objectId payload = some c ∧
      ((∃ row, ρ.customers c = some row ∧ eventType = .created ∧
          decided = .skip (.customer ⟨.SKIPPED_ALREADY_MAPPED, row.stripeCustomerId,
            row.metronomeCustomerId⟩)) ∨
        ∃ call, decided = .act call ∧
          Planned settings tiers ρ payload (customerHandler eventType) call) := by
  unfold customerPlan at h
  obtain ⟨object, hobject, h⟩ := bind_eq_ok.mp h
  obtain ⟨c, hc, h⟩ := bind_eq_ok.mp h
  have hobj := extractObject_eq_ok_iff.mp hobject
  have hid : objectId payload = some c := by
    rw [objectId, hobj]
    exact requireStr_eq_ok_iff.mp hc
  have hrequest : ∀ request, mapCustomer object = .ok request →
      customerRequest payload = some request := fun request hmap => by
    rw [customerRequest, hobj]
    exact toOption_eq_some.mpr hmap
  refine ⟨c, hid, ?_⟩
  cases hrow : ρ.customers c with
  | none =>
      simp only [hrow] at h
      obtain ⟨request, hmap, h⟩ := bind_eq_ok.mp h
      cases h
      refine .inr ⟨_, rfl, .createCustomer ?_ hid hrow (hrequest _ hmap)⟩
      cases eventType with
      | created => exact .inl rfl
      | updated => exact .inr rfl
  | some row =>
      simp only [hrow] at h
      cases eventType with
      | created =>
          cases h
          exact .inl ⟨row, rfl, rfl, rfl⟩
      | updated =>
          obtain ⟨request, hmap, h⟩ := bind_eq_ok.mp h
          cases h
          exact .inr ⟨_, rfl, .rename rfl hid hrow (hrequest _ hmap)⟩

/-- The ends of a subscription plan. -/
theorem subscriptionPlan_eq_ok {decided : Plan}
    (h : subscriptionPlan settings tiers ρ payload = .ok decided) :
    (∃ sub row customer, objectId payload = some sub ∧ ρ.subscriptions sub = some row ∧
      ρ.customers row.stripeCustomerId = some customer ∧
      decided = .skip (.subscription ⟨.SKIPPED_ALREADY_MAPPED, row.stripeSubscriptionId,
        row.stripeCustomerId, customer.metronomeCustomerId, row.metronomeContractId,
        row.currentTierName⟩)) ∨
    ∃ call, decided = .act call ∧
      Planned settings tiers ρ payload .subscriptionCreated call := by
  unfold subscriptionPlan at h
  obtain ⟨object, hobject, h⟩ := bind_eq_ok.mp h
  obtain ⟨sub, hsub, h⟩ := bind_eq_ok.mp h
  obtain ⟨c, hc, h⟩ := bind_eq_ok.mp h
  have hobj := extractObject_eq_ok_iff.mp hobject
  have hid : objectId payload = some sub := by
    rw [objectId, hobj]
    exact requireStr_eq_ok_iff.mp hsub
  cases hrow : ρ.subscriptions sub with
  | some row =>
      simp only [hrow] at h
      cases hcustomer : ρ.customers row.stripeCustomerId with
      | none =>
          simp only [hcustomer] at h
          cases h
      | some customer =>
          simp only [hcustomer] at h
          cases h
          exact .inl ⟨sub, row, customer, hid, hrow, hcustomer, rfl⟩
  | none =>
      simp only [hrow] at h
      obtain ⟨price, hprice, h⟩ := bind_eq_ok.mp h
      cases hcustomer : ρ.customers c with
      | none =>
          simp only [hcustomer] at h
          cases h
      | some customer =>
          simp only [hcustomer] at h
          obtain ⟨tier, htier, h⟩ := bind_eq_ok.mp h
          obtain ⟨request, hrequest, h⟩ := bind_eq_ok.mp h
          cases h
          refine .inr ⟨_, rfl, .createContract rfl hrow hcustomer ?_⟩
          exact {
            subscription := hid
            customer := by rw [objectCustomer, hobj]; exact requireStr_eq_ok_iff.mp hc
            price := by rw [objectPrice, hobj]; exact toOption_eq_some.mpr hprice
            known := resolveTier_eq_ok_iff.mp htier
            request := by
              rw [contractRequest, hobj]; exact toOption_eq_some.mpr hrequest }

theorem customerPlan_of {eventType : CustomerEventType} {object : JsonObject} {c : String}
    (hobj : dataObject payload = some object) (hid : objectId payload = some c) :
    customerPlan ρ eventType payload = (match ρ.customers c, eventType with
      | some row, .created => return .skip (.customer
          ⟨.SKIPPED_ALREADY_MAPPED, row.stripeCustomerId, row.metronomeCustomerId⟩)
      | some row, .updated => return .act (.rename row (← mapCustomer object))
      | none, _ => return .act (.createCustomer c (← mapCustomer object))) := by
  rw [objectId, hobj] at hid
  unfold customerPlan
  rw [extractObject_eq_ok_iff.mpr hobj]
  show (requireStr (get object "id") "data.object.id" >>= fun c => _) = _
  rw [requireStr_eq_ok_iff.mpr hid]
  rfl

theorem mapCustomer_of {object : JsonObject} {request : CustomerRequest}
    (hobj : dataObject payload = some object)
    (h : customerRequest payload = some request) :
    mapCustomer object = .ok request := by
  rw [customerRequest, hobj] at h
  exact toOption_eq_some.mp h

/-- **Which calls are planned, and when.** -/
theorem plan_eq_act_iff {handler : Handler} {call : Call} :
    plan settings tiers ρ payload handler = .ok (.act call) ↔
      Planned settings tiers ρ payload handler call := by
  constructor
  · intro h
    cases handler with
    | customerCreated =>
        obtain ⟨_, _, ⟨_, _, _, hskip⟩ | ⟨_, hact, hplanned⟩⟩ :=
          @customerPlan_eq_ok settings tiers _ _ _ _ h
        · cases hskip
        · cases hact
          exact hplanned
    | customerUpdated =>
        obtain ⟨_, _, ⟨_, _, _, hskip⟩ | ⟨_, hact, hplanned⟩⟩ :=
          @customerPlan_eq_ok settings tiers _ _ _ _ h
        · cases hskip
        · cases hact
          exact hplanned
    | subscriptionCreated =>
        obtain ⟨_, _, _, _, _, _, hskip⟩ | ⟨_, hact, hplanned⟩ := subscriptionPlan_eq_ok h
        · cases hskip
        · cases hact
          exact hplanned
    | subscriptionUpdated | subscriptionDeleted =>
        obtain ⟨_, _, h⟩ := bind_eq_ok.mp h
        obtain ⟨_, _, h⟩ := bind_eq_ok.mp h
        obtain ⟨_, _, h⟩ := bind_eq_ok.mp h
        cases h
  · intro h
    cases h with
    | @createCustomer c request hh hid hrow hrequest =>
        obtain ⟨object, hobj, _⟩ := Option.bind_eq_some_iff.mp hid
        have hplan : ∀ eventType, customerPlan ρ eventType payload =
            .ok (.act (.createCustomer c request)) := fun eventType => by
          rw [customerPlan_of hobj hid, hrow]
          show (return Plan.act (.createCustomer c (← mapCustomer object))) = _
          rw [mapCustomer_of hobj hrequest]
          rfl
        rcases hh with rfl | rfl
        · exact hplan .created
        · exact hplan .updated
    | @rename c row request hh hid hrow hrequest =>
        subst hh
        obtain ⟨object, hobj, _⟩ := Option.bind_eq_some_iff.mp hid
        show customerPlan ρ .updated payload = _
        rw [customerPlan_of hobj hid, hrow]
        show (return Plan.act (.rename row (← mapCustomer object))) = _
        rw [mapCustomer_of hobj hrequest]
        rfl
    | @createContract sub c price tier customer request hh hrow hcustomer hcontract =>
        subst hh
        obtain ⟨object, hobj, hsub⟩ := Option.bind_eq_some_iff.mp hcontract.subscription
        have hc := hcontract.customer
        have hprice := hcontract.price
        have hrequest := hcontract.request
        rw [objectCustomer, hobj] at hc
        rw [objectPrice, hobj] at hprice
        rw [contractRequest, hobj] at hrequest
        show subscriptionPlan settings tiers ρ payload = _
        unfold subscriptionPlan
        refine bind_eq_ok.mpr ⟨object, extractObject_eq_ok_iff.mpr hobj, ?_⟩
        refine bind_eq_ok.mpr ⟨sub, requireStr_eq_ok_iff.mpr hsub, ?_⟩
        refine bind_eq_ok.mpr ⟨c, requireStr_eq_ok_iff.mpr hc, ?_⟩
        simp only [hrow]
        refine bind_eq_ok.mpr ⟨price, toOption_eq_some.mp hprice, ?_⟩
        simp only [hcustomer]
        refine bind_eq_ok.mpr ⟨tier, resolveTier_eq_ok_iff.mpr hcontract.known, ?_⟩
        exact bind_eq_ok.mpr ⟨request, toOption_eq_some.mp hrequest, rfl⟩

end Planned

end Sidecar.Ports.Plans
