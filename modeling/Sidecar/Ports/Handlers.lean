import Sidecar.Ports.MetronomeClient

/-!
# The event handlers

`handle_customer_created`, `handle_customer_updated` and the three
subscription handlers.  `started_at` and `duration_ms` only feed log lines and
are left out.
-/

namespace Sidecar.Ports.Handlers

open Sidecar.Verified.Resumption
open Sidecar.Ports.Python
open Sidecar.Ports.Config
open Sidecar.Ports.Mappers
open Sidecar.Ports.Models
open Sidecar.Ports.Effects
open Sidecar.Ports.MetronomeClient

/-! ## Reading the event -/

/-- `_extract_customer_object` and `_extract_subscription_object`. -/
def extractObject (eventPayload : JsonObject) : Except PyExc JsonObject :=
  match get eventPayload "data" with
  | .obj data =>
    match get data "object" with
    | .obj obj => .ok obj
    | _ => .error (.permanentHandlerError "Stripe event missing `data.object`.")
  | _ => .error (.permanentHandlerError "Stripe event missing `data` object.")

/-- `_require_str` of the handlers: a field that must be a non-empty string,
named in the error. -/
def requireStr (value : Json) (fieldPath : String) : Except PyExc String :=
  match asNonEmptyStr value with
  | some s => .ok s
  | none => .error (.permanentHandlerError
      s!"Stripe event field `{fieldPath}` is missing or empty.")

/-- The `except` clauses around a Metronome call: the two classified failures
become the verdicts the worker knows, anything else passes through. -/
def classified {α : Type} (p : Effect α) : Effect α := do
  match ← p.attempt with
  | .ok a => return a
  | .error (.transientMetronomeError msg) => .raise (.retryableHandlerError msg)
  | .error (.permanentMetronomeError msg _) => .raise (.permanentHandlerError msg)
  | .error exc => .raise exc

/-! ## Customers -/

/-- Which of the two customer events is being handled. -/
inductive CustomerEventType where
  | created | updated
deriving DecidableEq, Repr

/-- The customer mapper, with its `MapperError` turned into a permanent
failure. -/
def mapCustomer (stripeCustomer : JsonObject) : Except PyExc CustomerRequest :=
  (stripeCustomerToMetronomeRequest stripeCustomer).mapError fun exc =>
    .permanentHandlerError s!"Cannot map Stripe customer: {exc.str}"

/-- `_handle_existing_mapping`: `created` is a skip, `updated` sets the name
in Metronome and touches the row. -/
def handleExistingMapping (stripeCustomer : JsonObject) (mapping : CustomerMapping) :
    CustomerEventType → Effect Customer.HandlerResult
  | .created => return {
      outcome := .SKIPPED_ALREADY_MAPPED
      stripeCustomerId := mapping.stripeCustomerId
      metronomeCustomerId := mapping.metronomeCustomerId }
  | .updated => do
      let request ← .ofExcept (mapCustomer stripeCustomer)
      classified (setCustomerName mapping.metronomeCustomerId request.name)
      let updatedAt ← datetimeNow
      sessionAdd (.touchCustomer mapping.stripeCustomerId updatedAt)
      sessionFlush
      return {
        outcome := .UPDATED
        stripeCustomerId := mapping.stripeCustomerId
        metronomeCustomerId := mapping.metronomeCustomerId }

/-- `_create_new_mapping`: a Metronome customer is created and its mapping
inserted. -/
def createNewMapping (stripeCustomer : JsonObject) : Effect Customer.HandlerResult := do
  let stripeCustomerId ← .ofExcept (requireStr (get stripeCustomer "id") "data.object.id")
  let request ← .ofExcept (mapCustomer stripeCustomer)
  let created ← classified (createCustomer request)
  let updatedAt ← datetimeNow
  sessionAdd (.insertCustomer {
    stripeCustomerId
    metronomeCustomerId := created.metronomeCustomerId
    updatedAt })
  sessionFlush
  return {
    outcome := .CREATED
    stripeCustomerId
    metronomeCustomerId := created.metronomeCustomerId }

/-- `_handle_customer_event`, an upsert for both types: the lookup decides
which path is taken, not the type. -/
def handleCustomerEvent (eventType : CustomerEventType) (eventPayload : JsonObject) :
    Effect Unit := do
  let stripeCustomer ← .ofExcept (extractObject eventPayload)
  let stripeCustomerId ← .ofExcept (requireStr (get stripeCustomer "id") "data.object.id")
  let existing ← lookupCustomerMapping stripeCustomerId
  let result ← match existing with
    | some mapping => handleExistingMapping stripeCustomer mapping eventType
    | none => createNewMapping stripeCustomer
  logCompleted (.customer result)

/-- `handle_customer_created`. -/
def handleCustomerCreated (eventPayload : JsonObject) : Effect Unit :=
  handleCustomerEvent .created eventPayload

/-- `handle_customer_updated`. -/
def handleCustomerUpdated (eventPayload : JsonObject) : Effect Unit :=
  handleCustomerEvent .updated eventPayload

/-! ## Subscriptions -/

/-- `_extract_single_price_id`, which rejects a multi-item subscription before
any lookup. -/
def extractSinglePriceId (stripeSubscription : JsonObject) : Except PyExc String :=
  match get stripeSubscription "items" with
  | .obj items =>
    match get items "data" with
    | .arr [] => noItems
    | .arr [item] =>
      match item with
      | .obj item =>
        match get item "price" with
        | .obj price =>
          match asNonEmptyStr (get price "id") with
          | some priceId => .ok priceId
          | none => .error (.permanentHandlerError
              "Stripe subscription item is missing `price.id`.")
        | _ => .error (.permanentHandlerError
            "Stripe subscription item is missing `price`.")
      | _ => .error (.permanentHandlerError
          "Stripe subscription `items.data[0]` is not an object.")
    | .arr data => .error (.permanentHandlerError
        (s!"Stripe subscription has {data.length} items; multi-item " ++
          "subscriptions are not supported in v0.2a."))
    | _ => noItems
  | _ => .error (.permanentHandlerError
      "Stripe subscription is missing `items`; cannot determine tier.")
where
  noItems : Except PyExc String := .error (.permanentHandlerError
    "Stripe subscription has no items; cannot determine tier.")

/-- `_require_metronome_customer_id`, asked only for a subscription that is
mapped already. -/
def requireMetronomeCustomerId (stripeCustomerId : String) : Effect String := do
  match ← lookupCustomerMapping stripeCustomerId with
  | some mapping => return mapping.metronomeCustomerId
  | none => .raise (.permanentHandlerError
      (s!"subscription_mappings row exists for Stripe customer " ++
        s!"{pyRepr stripeCustomerId} but no customer_mappings row does — " ++
        "database integrity issue."))

/-- `lookup_tier`, with `UnknownTierError` turned into a permanent failure. -/
def resolveTier (tiers : TierTable) (priceId : String) : Except PyExc Tier :=
  (lookupTier tiers priceId).mapError fun exc => .permanentHandlerError exc.str

/-- `except ValueError`, which also catches `MapperError` but not the
`OverflowError` or `OSError` of an impossible timestamp. -/
def contractRequestError : PyExc → PyExc
  | .valueError msg | .mapperError msg =>
      .permanentHandlerError s!"Cannot map Stripe subscription: {msg}"
  | exc => exc

/-- The contract mapper, with the errors the handler catches turned into a
permanent failure. -/
def mapSubscription (stripeSubscription : JsonObject) (tier : Tier)
    (metronomeCustomerId rateCardId : String) : Except PyExc ContractRequest :=
  (stripeSubscriptionToMetronomeContractRequest stripeSubscription tier
    metronomeCustomerId rateCardId).mapError contractRequestError

/-- The retryable failure of a subscription whose customer has no mapping yet.
-/
def missingCustomerMapping (stripeCustomerId : String) : PyExc :=
  .retryableHandlerError
    (s!"No customer_mappings row for Stripe customer " ++
      s!"{pyRepr stripeCustomerId}. Likely an out-of-order webhook — " ++
      "customer.created has not been processed yet.")

/-- The subscription is mapped already: report the committed ids. -/
def skipMapped (mapping : SubscriptionMapping) : Effect Unit := do
  let metronomeCustomerId ← requireMetronomeCustomerId mapping.stripeCustomerId
  logCompleted (.subscription {
    outcome := .SKIPPED_ALREADY_MAPPED
    stripeSubscriptionId := mapping.stripeSubscriptionId
    stripeCustomerId := mapping.stripeCustomerId
    metronomeCustomerId
    metronomeContractId := mapping.metronomeContractId
    tierName := mapping.currentTierName })

/-- Steps 2 to 7 of `handle_subscription_created`. -/
def createMapped (settings : Settings) (tiers : TierTable)
    (stripeSubscription : JsonObject) (stripeSubscriptionId stripeCustomerId : String) :
    Effect Unit := do
  let priceId ← .ofExcept (extractSinglePriceId stripeSubscription)
  match ← lookupCustomerMapping stripeCustomerId with
  | none => .raise (missingCustomerMapping stripeCustomerId)
  | some customerMapping =>
      let tier ← .ofExcept (resolveTier tiers priceId)
      let requestBody ← .ofExcept (mapSubscription stripeSubscription tier
        customerMapping.metronomeCustomerId settings.metronomeDefaultRateCardId)
      let created ← classified (createContract requestBody)
      let updatedAt ← datetimeNow
      sessionAdd (.insertSubscription {
        stripeSubscriptionId
        stripeCustomerId
        metronomeContractId := created.metronomeContractId
        currentTierName := tier.name
        currentStripePriceId := priceId
        updatedAt })
      sessionFlush
      logCompleted (.subscription {
        outcome := if created.viaUniquenessKeyRecovery then
          .CREATED_VIA_UNIQUENESS_KEY_RECOVERY else .CREATED
        stripeSubscriptionId
        stripeCustomerId
        metronomeCustomerId := customerMapping.metronomeCustomerId
        metronomeContractId := created.metronomeContractId
        tierName := tier.name })

/-- `handle_subscription_created`: skip a mapped subscription, create a
contract for any other. -/
def handleSubscriptionCreated (settings : Settings) (tiers : TierTable)
    (eventPayload : JsonObject) : Effect Unit := do
  let stripeSubscription ← .ofExcept (extractObject eventPayload)
  let stripeSubscriptionId ← .ofExcept
    (requireStr (get stripeSubscription "id") "data.object.id")
  let stripeCustomerId ← .ofExcept
    (requireStr (get stripeSubscription "customer") "data.object.customer")
  match ← lookupSubscriptionMapping stripeSubscriptionId with
  | some existingMapping => skipMapped existingMapping
  | none =>
      createMapped settings tiers stripeSubscription stripeSubscriptionId stripeCustomerId

/-- The body shared by the two loud no-ops. -/
def notPropagated (eventPayload : JsonObject) : Effect Unit := do
  let stripeSubscription ← .ofExcept (extractObject eventPayload)
  let _ ← .ofExcept (requireStr (get stripeSubscription "id") "data.object.id")
  let _ ← .ofExcept
    (requireStr (get stripeSubscription "customer") "data.object.customer")

/-- `handle_subscription_updated`, a loud no-op. -/
def handleSubscriptionUpdated (eventPayload : JsonObject) : Effect Unit :=
  notPropagated eventPayload

/-- `handle_subscription_deleted`, a loud no-op. -/
def handleSubscriptionDeleted (eventPayload : JsonObject) : Effect Unit :=
  notPropagated eventPayload

end Sidecar.Ports.Handlers
