import Sidecar.Ports.Calendar
import Sidecar.Ports.Config

/-!
# The pure mappers from Stripe objects to Metronome request bodies

A request body is a record with the keys of the `dict` the source builds.
`ValueError` (of which `MapperError` is a subclass) is what a mapper raises on
a payload it cannot map.
-/

namespace Sidecar.Ports.Mappers

open Sidecar.Ports.Python
open Sidecar.Ports.Calendar
open Sidecar.Ports.Config

/-! ## Customers -/

/-- The billing configuration of a new customer. -/
structure CustomerBillingConfiguration where
  billingProvider : String
  deliveryMethod : String
  stripeCustomerId : String
  stripeCollectionMethod : String
deriving DecidableEq, Repr

/-- The body of `POST /v1/customers`. -/
structure CustomerRequest where
  name : String
  ingestAliases : List String
  customerBillingProviderConfigurations : List CustomerBillingConfiguration
deriving DecidableEq, Repr

/-- `isinstance(raw, str) and raw.strip()`, with the stripped text. -/
def strippedStr : Json → Option String
  | .str s => if strip s = "" then none else some (strip s)
  | _ => none

/-- `_resolve_display_name`: the name, or the email when there is none. -/
def resolveDisplayName (stripeCustomer : JsonObject) : Except PyExc String :=
  match strippedStr (get stripeCustomer "name") with
  | some name => .ok name
  | none =>
    match strippedStr (get stripeCustomer "email") with
    | some email => .ok email
    | none => .error (.mapperError ("Stripe customer has neither `name` nor `email`; " ++
        "cannot map to a Metronome customer name."))

/-- `stripe_customer_to_metronome_request`. -/
def stripeCustomerToMetronomeRequest (stripeCustomer : JsonObject) :
    Except PyExc CustomerRequest := do
  let some stripeCustomerId := asNonEmptyStr (get stripeCustomer "id")
    | .error (.mapperError "Stripe customer payload is missing a string `id`.")
  let name ← resolveDisplayName stripeCustomer
  return {
    name
    ingestAliases := [stripeCustomerId]
    customerBillingProviderConfigurations := [{
      billingProvider := "stripe"
      deliveryMethod := "direct_to_billing_provider"
      stripeCustomerId
      stripeCollectionMethod := "charge_automatically" }] }

/-- The body of the Metronome customer for a Stripe customer. -/
def customerBody (stripeCustomerId name : String) : CustomerRequest where
  name
  ingestAliases := [stripeCustomerId]
  customerBillingProviderConfigurations := [{
    billingProvider := "stripe"
    deliveryMethod := "direct_to_billing_provider"
    stripeCustomerId
    stripeCollectionMethod := "charge_automatically" }]

/-- A customer that maps has a string id, and the name is the only other thing
its body depends on. -/
theorem stripeCustomerToMetronomeRequest_eq_ok {stripeCustomer : JsonObject}
    {body : CustomerRequest}
    (h : stripeCustomerToMetronomeRequest stripeCustomer = .ok body) :
    ∃ stripeCustomerId, asNonEmptyStr (get stripeCustomer "id") = some stripeCustomerId ∧
      body = customerBody stripeCustomerId body.name := by
  unfold stripeCustomerToMetronomeRequest at h
  split at h
  · next stripeCustomerId hid =>
      refine ⟨stripeCustomerId, hid, ?_⟩
      obtain ⟨name, _, h⟩ := bind_eq_ok.mp h
      cases h
      rfl
  · cases h

/-! ## Subscriptions -/

/-- `billing_provider_configuration` of a contract. -/
structure ContractBillingConfiguration where
  billingProvider : String
  deliveryMethod : String
deriving DecidableEq, Repr

/-- What one period of a recurring credit grants. -/
structure AccessAmount where
  creditTypeId : String
  quantity : Int
  unitPrice : Int
deriving DecidableEq, Repr

/-- How long a grant of a recurring credit lasts. -/
structure CommitDuration where
  value : Int
  unit : String
deriving DecidableEq, Repr

/-- The one entry of `recurring_credits`. -/
structure RecurringCredit where
  name : String
  productId : String
  priority : Int
  startingAt : String
  accessAmount : AccessAmount
  commitDuration : CommitDuration
  rolloverFraction : Rat
  recurrenceFrequency : RecurrenceFrequency
deriving DecidableEq, Repr

/-- The body of `POST /v1/contracts/create`. -/
structure ContractRequest where
  customerId : String
  rateCardId : String
  startingAt : String
  uniquenessKey : String
  name : String
  billingProviderConfiguration : ContractBillingConfiguration
  recurringCredits : List RecurringCredit
deriving DecidableEq, Repr

/-- `_require_str` of the subscription mapper. -/
def requireStr (value : Json) (fieldPath : String) : Except PyExc String :=
  match asNonEmptyStr value with
  | some s => .ok s
  | none => .error (.valueError
      s!"Stripe subscription field `{fieldPath}` is missing or not a string.")

/-- `_require_single_item`: the price id of the only item, with the item. -/
def requireSingleItem (stripeSubscription : JsonObject) :
    Except PyExc (String × JsonObject) := do
  let .obj items := get stripeSubscription "items"
    | .error (.valueError "Stripe subscription is missing `items`.")
  let .arr data := get items "data"
    | .error (.valueError "Stripe subscription `items.data` is not a list.")
  match data with
  | [] => .error (.valueError "Stripe subscription has no items; refusing to map.")
  | [item] =>
      let .obj item := item
        | .error (.valueError "Stripe subscription `items.data[0]` is not an object.")
      let .obj price := get item "price"
        | .error (.valueError "Stripe subscription item is missing `price`.")
      let priceId ← requireStr (get price "id") "items.data[0].price.id"
      return (priceId, item)
  | data =>
      .error (.valueError (s!"Stripe subscription has {data.length} items; multi-item " ++
        "subscriptions are not supported in v0.2a."))

/-- `current_period_start`, read from the item first, floored to the hour. -/
def periodStartUnix (stripeSubscription item : JsonObject) : Except PyExc Int :=
  match asInt (get item "current_period_start") with
  | some raw => .ok (raw - raw % 3600)
  | none =>
    match asInt (get stripeSubscription "current_period_start") with
    | some raw => .ok (raw - raw % 3600)
    | none => .error (.valueError
        ("Stripe subscription field `current_period_start` is missing or " ++
          "not an integer Unix timestamp on either the subscription or the " ++
          "item — cannot determine the contract start time."))

/-- `uniqueness_key`: subscription, price and hour of the period start. -/
def uniquenessKeyOf (subscriptionId priceId : String) (periodStart : Int) : String :=
  s!"{subscriptionId}_{priceId}_{periodStart}"

/-- The credit of a tier, from the start of the contract on. -/
def recurringCreditOf (tier : Tier) (startingAtIso : String) : RecurringCredit where
  name := s!"{tier.name} {tier.recurrenceFrequency.lower} allotment"
  productId := tier.metronomeCreditProductId
  priority := 100
  startingAt := startingAtIso
  accessAmount := {
    creditTypeId := tier.metronomeCreditTypeId
    quantity := tier.creditAmountPerPeriod
    unitPrice := 1 }
  commitDuration := { value := 1, unit := "PERIODS" }
  rolloverFraction := 1
  recurrenceFrequency := tier.recurrenceFrequency

/-- `stripe_subscription_to_metronome_contract_request`. -/
def stripeSubscriptionToMetronomeContractRequest (stripeSubscription : JsonObject)
    (tier : Tier) (metronomeCustomerId rateCardId : String) :
    Except PyExc ContractRequest := do
  let subscriptionId ← requireStr (get stripeSubscription "id") "id"
  let (priceId, item) ← requireSingleItem stripeSubscription
  let periodStart ← periodStartUnix stripeSubscription item
  let startingAtIso ← unixToIsoUtc periodStart
  return {
    customerId := metronomeCustomerId
    rateCardId
    startingAt := startingAtIso
    uniquenessKey := uniquenessKeyOf subscriptionId priceId periodStart
    name := s!"Stripe Subscription {subscriptionId} ({tier.name})"
    billingProviderConfiguration := {
      billingProvider := "stripe"
      deliveryMethod := "direct_to_billing_provider" }
    recurringCredits := [recurringCreditOf tier startingAtIso] }

theorem requireStr_eq_ok {value : Json} {fieldPath s : String}
    (h : requireStr value fieldPath = .ok s) : asNonEmptyStr value = some s := by
  unfold requireStr at h
  split at h
  · next heq => cases h; exact heq
  · cases h

/-- The item that is read is the only one, and its price has a string id. -/
theorem requireSingleItem_eq_ok {stripeSubscription item : JsonObject} {priceId : String}
    (h : requireSingleItem stripeSubscription = .ok (priceId, item)) :
    ∃ items price, get stripeSubscription "items" = .obj items ∧
      get items "data" = .arr [.obj item] ∧ get item "price" = .obj price ∧
      asNonEmptyStr (get price "id") = some priceId := by
  unfold requireSingleItem at h
  split at h
  · next items hitems =>
      split at h
      · next data hdata =>
          match data with
          | [] => cases h
          | _ :: _ :: _ => cases h
          | [.obj item'] =>
              simp only at h
              split at h
              · next price hprice =>
                  obtain ⟨priceId', hid, h⟩ := bind_eq_ok.mp h
                  cases h
                  exact ⟨items, price, hitems, hdata, hprice, requireStr_eq_ok hid⟩
              · cases h
          | [.null] | [.bool _] | [.int _] | [.float _] | [.str _] | [.arr _] => cases h
      · cases h
  · cases h

/-- The contract starts at the hour of the period start, and its key and its
credit are determined by the subscription, the price and that hour. -/
theorem stripeSubscriptionToMetronomeContractRequest_eq_ok
    {stripeSubscription : JsonObject}
    {tier : Tier} {metronomeCustomerId rateCardId : String} {body : ContractRequest}
    (h : stripeSubscriptionToMetronomeContractRequest stripeSubscription tier
      metronomeCustomerId rateCardId = .ok body) :
    ∃ subscriptionId priceId item periodStart startingAtIso,
      asNonEmptyStr (get stripeSubscription "id") = some subscriptionId ∧
      requireSingleItem stripeSubscription = .ok (priceId, item) ∧
      unixToIsoUtc periodStart = .ok startingAtIso ∧
      body.customerId = metronomeCustomerId ∧
      body.uniquenessKey = uniquenessKeyOf subscriptionId priceId periodStart ∧
      body.recurringCredits = [recurringCreditOf tier startingAtIso] := by
  unfold stripeSubscriptionToMetronomeContractRequest at h
  obtain ⟨subscriptionId, hid, h⟩ := bind_eq_ok.mp h
  obtain ⟨⟨priceId, item⟩, hitem, h⟩ := bind_eq_ok.mp h
  obtain ⟨periodStart, _, h⟩ := bind_eq_ok.mp h
  obtain ⟨startingAtIso, hiso, h⟩ := bind_eq_ok.mp h
  cases h
  exact ⟨subscriptionId, priceId, item, periodStart, startingAtIso, requireStr_eq_ok hid,
    hitem, hiso, rfl, rfl, rfl⟩

end Sidecar.Ports.Mappers
