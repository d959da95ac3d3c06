import Sidecar.Ports.Classification

/-!
# Bad payloads

What a handler raises when it fails before any Metronome call.  Everything that
can be wrong with a payload is a permanent failure but one: a period start that
the platform's clock cannot hold is no `ValueError` and is not caught.  A
subscription that comes before its customer is retried.

## Main results

* `bad_payload_permanent` — failures before any call.
-/

namespace Sidecar.Ports.Payloads

open Sidecar.Verified.Resumption
open Sidecar.Ports.Python
open Sidecar.Ports.Calendar
open Sidecar.Ports.Config
open Sidecar.Ports.Mappers hiding requireStr
open Sidecar.Ports.Models
open Sidecar.Ports.Effects
open Sidecar.Ports.Handlers
open Sidecar.Ports.Worker
open Sidecar.Ports.Attempt
open Sidecar.Ports.Requests hiding requireStr_eq_ok_iff
open Sidecar.Ports.Plans
open Sidecar.Ports.Outcomes
open Sidecar.Ports.Traffic
open Sidecar.Ports.Remote
open Sidecar.Ports.Classification

/-! ## The checks -/

section Checks

variable {settings : Settings} {tiers : TierTable} {ρ : Surroundings}
    {payload : JsonObject}

def IsPermanent (exc : PyExc) : Prop := ∃ msg, exc = .permanentHandlerError msg

def IsRetryable (exc : PyExc) : Prop := ∃ msg, exc = .retryableHandlerError msg

theorem not_isRetryable {exc : PyExc} (h : IsPermanent exc) : ¬IsRetryable exc := by
  rintro ⟨_, heq⟩
  obtain ⟨_, rfl⟩ := h
  cases heq

theorem extractObject_error {exc : PyExc} (h : extractObject payload = .error exc) :
    IsPermanent exc := by
  unfold extractObject at h
  split at h
  · split at h
    · cases h
    · cases h
      exact ⟨_, rfl⟩
  · cases h
    exact ⟨_, rfl⟩

theorem requireStr_error {value : Json} {fieldPath : String} {exc : PyExc}
    (h : requireStr value fieldPath = .error exc) : IsPermanent exc := by
  unfold requireStr at h
  split at h
  · cases h
  · cases h
    exact ⟨_, rfl⟩

theorem mapError_error {ε ε' α : Type} {f : ε → ε'} {x : Except ε α} {e : ε'}
    (h : x.mapError f = .error e) : ∃ e', x = .error e' ∧ e = f e' := by
  cases x with
  | error e' => exact ⟨e', rfl, by cases h; rfl⟩
  | ok a => cases h

theorem mapCustomer_error {object : JsonObject} {exc : PyExc}
    (h : mapCustomer object = .error exc) : IsPermanent exc := by
  obtain ⟨exc', _, rfl⟩ := mapError_error h
  exact ⟨_, rfl⟩

theorem resolveTier_error {price : String} {exc : PyExc}
    (h : resolveTier tiers price = .error exc) : IsPermanent exc := by
  obtain ⟨exc', _, rfl⟩ := mapError_error h
  exact ⟨_, rfl⟩

/-- The hour of this timestamp is beyond the years that `gmtime` can count. -/
def Uncountable (raw : Int) : Prop :=
  raw - raw % 3600 < -67768040609740800 ∨ 67768036191676799 < raw - raw % 3600

/-- The exception of an impossible timestamp is caught exactly if the platform
can count its year. -/
theorem isPermanent_fromtimestampError {raw : Int} :
    IsPermanent (contractRequestError (fromtimestampError (raw - raw % 3600))) ↔
      ¬Uncountable raw := by
  unfold fromtimestampError Uncountable
  simp only [Bool.or_eq_true, decide_eq_true_eq]
  split
  · next htime =>
      refine iff_of_false ?_ (not_not.mpr (by omega))
      rintro ⟨_, h⟩
      cases h
  · split
    · next hyear =>
        refine iff_of_false ?_ (not_not.mpr hyear)
        rintro ⟨_, h⟩
        cases h
    · next hyear => exact iff_of_true ⟨_, rfl⟩ hyear

/-- What the subscription mapper raises on a readable price. -/
theorem mapSubscription_error {object : JsonObject} {sub price mid card : String}
    {tier : Tier} {exc : PyExc} (hid : asNonEmptyStr (get object "id") = some sub)
    (hprice : extractSinglePriceId object = .ok price)
    (h : mapSubscription object tier mid card = .error exc) :
    IsPermanent exc ∨ ∃ item raw, requireSingleItem object = .ok (price, item) ∧
      selectedStart object item = some raw ∧ Uncountable raw ∧ ¬IsRetryable exc := by
  obtain ⟨exc', hmapper, rfl⟩ := mapError_error h
  obtain ⟨item, hitem⟩ := extractSinglePriceId_eq_ok_iff.mp hprice
  unfold stripeSubscriptionToMetronomeContractRequest at hmapper
  rw [Requests.requireStr_eq_ok_iff.mpr hid, hitem] at hmapper
  rcases bind_eq_error.mp
    (show (periodStartUnix object item >>= fun periodStart => _) = _ from
    hmapper) with hstart | ⟨periodStart, hstart, hmapper⟩
  · unfold periodStartUnix at hstart
    split at hstart
    · cases hstart
    · split at hstart
      · cases hstart
      · cases hstart
        exact .inl ⟨_, rfl⟩
  · obtain ⟨raw, hraw, rfl⟩ := periodStartUnix_eq_ok.mp hstart
    rcases bind_eq_error.mp hmapper with hiso | ⟨_, _, hret⟩
    · unfold unixToIsoUtc at hiso
      split at hiso
      · cases hiso
        by_cases hun : Uncountable raw
        · refine .inr ⟨item, raw, hitem, hraw, hun, ?_⟩
          rintro ⟨msg, heq⟩
          unfold fromtimestampError at heq
          split at heq
          · cases heq
          · split at heq
            · cases heq
            · cases heq
        · exact .inl (isPermanent_fromtimestampError.mpr hun)
      · cases hiso
    · cases hret

theorem customerPlan_error {eventType : CustomerEventType} {exc : PyExc}
    (h : customerPlan ρ eventType payload = .error exc) : IsPermanent exc := by
  unfold customerPlan at h
  rcases bind_eq_error.mp h with hobj | ⟨object, _, h⟩
  · exact extractObject_error hobj
  rcases bind_eq_error.mp h with hid | ⟨c, _, h⟩
  · exact requireStr_error hid
  have hmap : ∀ {f : CustomerRequest → Plan},
      (do return f (← mapCustomer object)) = Except.error exc →
      IsPermanent exc := fun h => by
    rcases bind_eq_error.mp h with hmap | ⟨_, _, hret⟩
    · exact mapCustomer_error hmap
    · cases hret
  cases hrow : ρ.customers c with
  | none =>
      simp only [hrow] at h
      exact hmap h
  | some row =>
      simp only [hrow] at h
      cases eventType with
      | created => cases h
      | updated => exact hmap h

theorem noPlan_error {exc : PyExc} (h : noPlan payload = .error exc) :
    IsPermanent exc := by
  unfold noPlan at h
  rcases bind_eq_error.mp h with hobj | ⟨object, _, h⟩
  · exact extractObject_error hobj
  rcases bind_eq_error.mp h with hid | ⟨_, _, h⟩
  · exact requireStr_error hid
  rcases bind_eq_error.mp h with hc | ⟨_, _, hret⟩
  · exact requireStr_error hc
  · cases hret

/-! ## Subscriptions -/

/-- A readable subscription that is not mapped yet. -/
structure Unmapped (ρ : Surroundings) (payload : JsonObject) (sub c price : String) :
    Prop where
  subscription : objectId payload = some sub
  customer : objectCustomer payload = some c
  price : objectPrice payload = some price
  unmapped : ρ.subscriptions sub = none

/-- Its customer is not mapped either. -/
def Early (ρ : Surroundings) (payload : JsonObject) : Prop :=
  ∃ sub c price, Unmapped ρ payload sub c price ∧ ρ.customers c = none

/-- Everything is there, but its period starts in a year that the platform
cannot count. -/
def Undatable (tiers : TierTable) (ρ : Surroundings) (payload : JsonObject) : Prop :=
  ∃ sub c price customer tier raw, Unmapped ρ payload sub c price ∧
    ρ.customers c = some customer ∧ tiers.lookup price = some tier ∧
    selectedPeriodStart payload = some raw ∧ Uncountable raw

theorem Unmapped.object {sub c price : String} (h : Unmapped ρ payload sub c price) :
    ∃ object, dataObject payload = some object ∧
    asNonEmptyStr (get object "id") = some sub ∧
      asNonEmptyStr (get object "customer") = some c ∧
      extractSinglePriceId object = .ok price := by
  obtain ⟨object, hobject, hid⟩ := Option.bind_eq_some_iff.mp h.subscription
  have hc := h.customer
  have hprice := h.price
  rw [objectCustomer, hobject] at hc
  rw [objectPrice, hobject] at hprice
  exact ⟨object, hobject, hid, hc, toOption_eq_some.mp hprice⟩

/-- The plan of a subscription that is not mapped yet. -/
theorem subscriptionPlan_of_unmapped {object : JsonObject} {sub c price : String}
    (hobject : dataObject payload = some object)
    (hid : asNonEmptyStr (get object "id") = some sub)
    (hc : asNonEmptyStr (get object "customer") = some c)
    (hprice : extractSinglePriceId object = .ok price)
    (hrow : ρ.subscriptions sub = none) :
    subscriptionPlan settings tiers ρ payload =
      match ρ.customers c with
      | none => .error (missingCustomerMapping c)
      | some customer => do
          let tier ← resolveTier tiers price
          let request ← mapSubscription object tier customer.metronomeCustomerId
            settings.metronomeDefaultRateCardId
          return .act (.createContract sub c price tier customer request) := by
  unfold subscriptionPlan
  refine (bind_of_eq_ok (extractObject_eq_ok_iff.mpr hobject) _).trans ?_
  refine (bind_of_eq_ok (Plans.requireStr_eq_ok_iff.mpr hid) _).trans ?_
  refine (bind_of_eq_ok (Plans.requireStr_eq_ok_iff.mpr hc) _).trans ?_
  simp only [hrow]
  exact bind_of_eq_ok hprice _

theorem subscriptionPlan_error {exc : PyExc}
    (h : subscriptionPlan settings tiers ρ payload = .error exc) :
    IsPermanent exc ∨ (IsRetryable exc ∧ Early ρ payload) ∨
      (¬IsRetryable exc ∧ Undatable tiers ρ payload) := by
  have hplan := h
  unfold subscriptionPlan at h
  rcases bind_eq_error.mp h with hobj | ⟨object, hobj, h⟩
  · exact .inl (extractObject_error hobj)
  rcases bind_eq_error.mp h with hid | ⟨sub, hid, h⟩
  · exact .inl (requireStr_error hid)
  rcases bind_eq_error.mp h with hc | ⟨c, hc, h⟩
  · exact .inl (requireStr_error hc)
  rw [extractObject_eq_ok_iff] at hobj
  rw [Plans.requireStr_eq_ok_iff] at hid hc
  cases hrow : ρ.subscriptions sub with
  | some row =>
      simp only [hrow] at h
      cases hcustomer : ρ.customers row.stripeCustomerId with
      | none =>
          simp only [hcustomer] at h
          cases h
          exact .inl ⟨_, rfl⟩
      | some customer =>
          simp only [hcustomer] at h
          cases h
  | none =>
      simp only [hrow] at h
      rcases bind_eq_error.mp h with hprice | ⟨price, hprice, _⟩
      · obtain ⟨msg, rfl⟩ := extractSinglePriceId_error hprice
        exact .inl ⟨msg, rfl⟩
      have hunmapped : Unmapped ρ payload sub c price := {
        subscription := by rw [objectId, hobj]; exact hid
        customer := by rw [objectCustomer, hobj]; exact hc
        price := by rw [objectPrice, hobj]; exact toOption_eq_some.mpr hprice
        unmapped := hrow }
      rw [subscriptionPlan_of_unmapped hobj hid hc hprice hrow] at hplan
      cases hcustomer : ρ.customers c with
      | none =>
          rw [hcustomer] at hplan
          cases hplan
          exact .inr (.inl ⟨⟨_, rfl⟩, sub, c, price, hunmapped, hcustomer⟩)
      | some customer =>
          rw [hcustomer] at hplan
          rcases bind_eq_error.mp hplan with htier | ⟨tier, htier, hplan⟩
          · exact .inl (resolveTier_error htier)
          rcases bind_eq_error.mp hplan with hrequest | ⟨_, _, hret⟩
          · rcases mapSubscription_error hid hprice hrequest with
              hexc | ⟨item, raw, hitem, hraw, hun, hexc⟩
            · exact .inl hexc
            · refine .inr (.inr ⟨hexc, sub, c, price, customer, tier, raw,
                hunmapped, hcustomer, resolveTier_eq_ok_iff.mp htier, ?_, hun⟩)
              rw [selectedPeriodStart, hobj, Option.bind_some, hitem]
              exact hraw
          · cases hret

/-- A subscription that comes before its customer is retried. -/
theorem subscriptionPlan_early (h : Early ρ payload) :
    ∃ exc, subscriptionPlan settings tiers ρ payload = .error exc ∧ IsRetryable exc := by
  obtain ⟨sub, c, price, hunmapped, hcustomer⟩ := h
  obtain ⟨object, hobject, hid, hc, hprice⟩ := hunmapped.object
  refine ⟨missingCustomerMapping c, ?_, _, rfl⟩
  rw [subscriptionPlan_of_unmapped hobject hid hc hprice hunmapped.unmapped, hcustomer]

/-- The exception of an uncountable year leaves the handler as it is. -/
theorem subscriptionPlan_undatable (h : Undatable tiers ρ payload) :
    ∃ exc, subscriptionPlan settings tiers ρ payload = .error exc ∧ ¬IsPermanent exc := by
  obtain ⟨sub, c, price, customer, tier, raw, hunmapped, hcustomer, htier, hraw, hun⟩ := h
  obtain ⟨object, hobject, hid, hc, hprice⟩ := hunmapped.object
  obtain ⟨item, hitem⟩ := extractSinglePriceId_eq_ok_iff.mp hprice
  rw [selectedPeriodStart, hobject, Option.bind_some, hitem] at hraw
  refine ⟨contractRequestError (fromtimestampError (raw - raw % 3600)), ?_,
    fun h => isPermanent_fromtimestampError.mp h hun⟩
  rw [subscriptionPlan_of_unmapped hobject hid hc hprice hunmapped.unmapped, hcustomer]
  refine bind_eq_error.mpr (.inr ⟨tier, resolveTier_eq_ok_iff.mpr htier, ?_⟩)
  refine bind_eq_error.mpr (.inl ?_)
  have hiso : unixToIsoUtc (raw - raw % 3600) =
      .error (fromtimestampError (raw - raw % 3600)) := by
    unfold Uncountable at hun
    unfold unixToIsoUtc
    rw [if_pos]
    simp only [Bool.or_eq_true, decide_eq_true_eq]
    omega
  suffices hmapper : stripeSubscriptionToMetronomeContractRequest object tier
      customer.metronomeCustomerId settings.metronomeDefaultRateCardId =
        .error (fromtimestampError (raw - raw % 3600)) from
    congrArg (Except.mapError contractRequestError) hmapper
  unfold stripeSubscriptionToMetronomeContractRequest
  refine bind_eq_error.mpr (.inr ⟨_, Requests.requireStr_eq_ok_iff.mpr hid, ?_⟩)
  refine bind_eq_error.mpr (.inr ⟨_, hitem, ?_⟩)
  refine bind_eq_error.mpr (.inr ⟨_, periodStartUnix_eq_ok.mpr ⟨raw, hraw, rfl⟩, ?_⟩)
  exact bind_eq_error.mpr (.inl hiso)

end Checks

/-! ## Failing before any call -/

section Failing

variable {settings : Settings} {tiers : TierTable} {ρ : Surroundings} {row : WebhookEvent}

/-- The handler raises, and Metronome has not been called. -/
structure FailsLocally (settings : Settings) (tiers : TierTable) (ρ : Surroundings)
    (row : WebhookEvent) (handler : Handler) (exc : PyExc) : Prop where
  registered : handlerOf row = some handler
  raised : (ρ.play (handler.run settings tiers row.payload) (begun row)).2 = .error exc
  uncalled : made settings tiers ρ row = []

/-- A failure before any call is permanent, unless the subscription is early. -/
structure FailsAsDocumented (settings : Settings) (tiers : TierTable) (ρ : Surroundings)
    (row : WebhookEvent) : Prop where
  retryable : ∀ handler exc, FailsLocally settings tiers ρ row handler exc →
    (IsRetryable exc ↔ handlerOf row = some .subscriptionCreated ∧ Early ρ row.payload)
  lasting : ∀ handler exc, FailsLocally settings tiers ρ row handler exc →
    ¬(handlerOf row = some .subscriptionCreated ∧ Early ρ row.payload) →
    IsPermanent exc ∧ FailedPermanently (ρ.attempt settings tiers row)

theorem requests_ne_nil (call : Call) (outcome : SdkOutcome) :
    call.requests outcome ≠ [] := by
  cases call <;> exact List.cons_ne_nil _ _

theorem failsLocally_iff {handler : Handler} {exc : PyExc} :
    FailsLocally settings tiers ρ row handler exc ↔
      handlerOf row = some handler ∧
        plan settings tiers ρ row.payload handler = .error exc := by
  constructor
  · rintro ⟨hh, hraised, huncalled⟩
    refine ⟨hh, ?_⟩
    obtain ⟨s, hplay, _⟩ := @play_run settings tiers ρ row handler
    rw [hplay] at hraised
    rw [made_eq, decision_eq hh] at huncalled
    match hplan : plan settings tiers ρ row.payload handler with
    | .error exc' =>
        rw [hplan] at hraised
        cases hraised
        rfl
    | .ok .ignore =>
        rw [hplan] at hraised
        cases hraised
    | .ok (.skip _) =>
        rw [hplan] at hraised
        cases hraised
    | .ok (.act call) =>
        rw [hplan] at huncalled
        exact absurd huncalled (requests_ne_nil call _)
  · rintro ⟨hh, hplan⟩
    obtain ⟨s, hplay, _⟩ := @play_run settings tiers ρ row handler
    refine ⟨hh, ?_, ?_⟩
    · rw [hplay, hplan]
      rfl
    · rw [made_eq, decision_eq hh, hplan]

theorem failedPermanently_of_plan {handler : Handler} {exc : PyExc}
    (hh : handlerOf row = some handler)
    (hplan : plan settings tiers ρ row.payload handler = .error exc)
    (hexc : IsPermanent exc) :
    FailedPermanently (ρ.attempt settings tiers row) := by
  obtain ⟨msg, rfl⟩ := hexc
  have hwork : decidedWork ρ (decision settings tiers ρ row) =
      (⟨[], [], false, none⟩, .error (.permanentHandlerError msg)) := by
    rw [decision_eq hh, hplan]
    rfl
  obtain ⟨s, heq, _, hevent⟩ := attempt_of_permanent hwork
  rw [heq]
  exact ⟨rfl, by rw [hevent]; rfl, msg, by rw [hevent]; rfl⟩

/-- What every handler but that of new subscriptions raises by itself. -/
theorem plan_error {handler : Handler} {exc : PyExc}
    (h : plan settings tiers ρ row.payload handler = .error exc) :
    IsPermanent exc ∨ handler = .subscriptionCreated := by
  cases handler with
  | customerCreated | customerUpdated => exact .inl (customerPlan_error h)
  | subscriptionUpdated | subscriptionDeleted => exact .inl (noPlan_error h)
  | subscriptionCreated => exact .inr rfl

/-- **A bad payload is a permanent failure**, unless its period starts in a year
that the platform cannot count. -/
theorem bad_payload_permanent (settings : Settings) (tiers : TierTable) (ρ : Surroundings)
    (row : WebhookEvent) :
    FailsAsDocumented settings tiers ρ row ↔
      ¬(handlerOf row = some .subscriptionCreated ∧ Undatable tiers ρ row.payload) := by
  constructor
  · rintro h ⟨hh, hun⟩
    obtain ⟨exc, hplan, hexc⟩ :=
      @subscriptionPlan_undatable settings tiers ρ row.payload hun
    have hfails : FailsLocally settings tiers ρ row .subscriptionCreated exc :=
      failsLocally_iff.mpr ⟨hh, hplan⟩
    refine hexc (h.lasting _ exc hfails fun hearly => ?_).1
    obtain ⟨exc', hplan', hretry⟩ :=
      @subscriptionPlan_early settings tiers ρ row.payload hearly.2
    obtain ⟨sub, c, price, customer, _, _, hunmapped, hcustomer, _⟩ := hun
    obtain ⟨sub', c', price', hunmapped', hcustomer'⟩ := hearly.2
    have hc := hunmapped.customer
    rw [hunmapped'.customer] at hc
    cases hc
    rw [hcustomer] at hcustomer'
    cases hcustomer'
  · intro hcountable
    have hcases : ∀ handler exc, FailsLocally settings tiers ρ row handler exc →
        IsPermanent exc ∨ (IsRetryable exc ∧ handlerOf row = some .subscriptionCreated ∧
          Early ρ row.payload) := fun handler exc hfails => by
      obtain ⟨hh, hplan⟩ := failsLocally_iff.mp hfails
      rcases plan_error hplan with hexc | rfl
      · exact .inl hexc
      · rcases subscriptionPlan_error hplan with hexc | ⟨hexc, hearly⟩ | ⟨_, hun⟩
        · exact .inl hexc
        · exact .inr ⟨hexc, hh, hearly⟩
        · exact absurd ⟨hh, hun⟩ hcountable
    refine ⟨fun handler exc hfails => ⟨fun hretry => ?_, fun ⟨hh, hearly⟩ => ?_⟩,
      fun handler exc hfails hnot => ?_⟩
    · rcases hcases handler exc hfails with hexc | ⟨_, hearly⟩
      · exact absurd hretry (not_isRetryable hexc)
      · exact hearly
    · obtain ⟨hh', hplan⟩ := failsLocally_iff.mp hfails
      rw [hh] at hh'
      cases hh'
      obtain ⟨exc', hplan', hexc⟩ :=
        @subscriptionPlan_early settings tiers ρ row.payload hearly
      cases hplan.symm.trans hplan'
      exact hexc
    · obtain ⟨hh, hplan⟩ := failsLocally_iff.mp hfails
      rcases hcases handler exc hfails with hexc | ⟨_, hearly⟩
      · exact ⟨hexc, failedPermanently_of_plan hh hplan hexc⟩
      · exact absurd hearly hnot

/-- A subscription that starts in a year of thirteen digits. -/
def farEvent : WebhookEvent where
  stripeEventId := "evt_2"
  eventType := "customer.subscription.created"
  payload := (subscriptionDelivery "evt_2" 100000000000000000000 "sub_1" "cus_1").payload
  status := .PENDING
  attempts := 0
  lastError := none
  receivedAt := 0
  nextAttemptAt := 0
  processedAt := none

/-- What the event meets with. -/
def farSurroundings : Surroundings :=
  ofDb mappedAda true (fun _ => okWithId "k1") (fun _ => 5) (fun hi => hi)

/-- Its `OverflowError` is retried. -/
theorem bad_payload_permanent_farEvent :
    (farSurroundings.attempt defaultSettings TIERS farEvent).1.event.status = .PENDING ∧
      ¬FailsAsDocumented defaultSettings TIERS farSurroundings farEvent := by
  refine ⟨by decide +kernel, fun h => ?_⟩
  have hun : Undatable TIERS farSurroundings farEvent.payload :=
    ⟨"sub_1", "cus_1", _, ⟨"cus_1", "m1", 0⟩, startupTier, 100000000000000000000,
      ⟨rfl, rfl, rfl, rfl⟩, rfl, rfl, rfl, .inr (by decide)⟩
  have hearly : ¬Early farSurroundings farEvent.payload := by
    rintro ⟨sub, c, price, hunmapped, hcustomer⟩
    cases hunmapped.customer
    cases hcustomer
  obtain ⟨exc, hplan, hexc⟩ := @subscriptionPlan_undatable defaultSettings _ _ _ hun
  exact hexc (h.lasting .subscriptionCreated exc (failsLocally_iff.mpr ⟨rfl, hplan⟩)
    fun h => hearly h.2).1

end Failing

end Sidecar.Ports.Payloads
