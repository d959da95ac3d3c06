import Sidecar.Ports.System

/-!
# Metronome as it is documented

A store of customers and contracts behind a network.  A request is in flight
from the moment it is sent; it arrives and is answered at most once, possibly
long after the caller has given up, or is lost; and the caller may see a
timeout, a connection error or a 5xx whether or not it was carried out.

The SDK POSTs a call again, with nothing that tells the POSTs apart, when one is
not answered, or is answered 409, 429 or 5xx (the client leaves its `max_retries`
at 2).  So besides the POST whose answer the caller gets, any other one may take
effect, at any time after the call was made: that is a `repost`, and the model
does not bound their number.

A contract's uniqueness key is used once.  What Metronome does with a second
customer of the same ingest alias, and whether it repeats ids, is left to a
`Policy`.
-/

namespace Sidecar.Ports.Remote

open Sidecar.Verified.Transition
open Sidecar.Ports.Python
open Sidecar.Ports.Config
open Sidecar.Ports.Mappers
open Sidecar.Ports.Models
open Sidecar.Ports.Effects
open Sidecar.Ports.MetronomeClient
open Sidecar.Ports.Receiver
open Sidecar.Ports.System

/-! ## The store -/

/-- A customer as Metronome holds it. -/
structure RemoteCustomer where
  id : String
  name : String
  ingestAliases : List String
  billing : List CustomerBillingConfiguration
  /-- The calls that have set the name, the last one first. -/
  writers : List Nat
deriving DecidableEq, Repr

/-- A contract as Metronome holds it. -/
structure RemoteContract where
  id : String
  customerId : String
  uniquenessKey : Option String
  recurringCredits : List RecurringCredit
deriving DecidableEq, Repr

/-- A contract made by somebody else, whose key, if it has one, is not of the
sidecar's form. -/
structure ForeignContract where
  contract : RemoteContract
  foreign : ∀ subscriptionId priceId periodStart,
    contract.uniquenessKey ≠ some (uniquenessKeyOf subscriptionId priceId periodStart)

/-- What Metronome has decided about a call. -/
inductive Reply where
  | created (id : String)
  | renamed
  | listed (contracts : List (Option String × Option String))
  | conflict
  | rejected (statusCode : Int)
deriving DecidableEq, Repr

/-- Metronome's objects, and the calls on the network. -/
structure RemoteStore where
  customers : List RemoteCustomer
  contracts : List RemoteContract
  /-- The calls that may still be answered. -/
  inFlight : List (Nat × MetronomeRequest)
  /-- Every call that has been sent. -/
  posted : List (Nat × MetronomeRequest)
  replies : List (Nat × Reply)

/-- A Metronome account that nothing has been created in. -/
def RemoteStore.empty : RemoteStore := ⟨[], [], [], [], []⟩

/-- What the documentation of Metronome leaves open. -/
structure Policy where
  /-- A second customer with an ingest alias in use is rejected with 409. -/
  rejectsDuplicateAlias : Bool
  /-- An id may be given to two objects. -/
  repeatsIds : Bool

/-! ## Carrying out a request -/

/-- The id and the key that a listed contract shows. -/
def listing (contract : RemoteContract) : Option String × Option String :=
  (if contract.id = "" then none else some contract.id, contract.uniquenessKey)

/-- The customer has an ingest alias that the request asks for. -/
def sharesAlias (body : CustomerRequest) (customer : RemoteCustomer) : Bool :=
  body.ingestAliases.any fun a => customer.ingestAliases.contains a

/-- The customer has this id. -/
def hasId (id : String) (customer : RemoteCustomer) : Bool := customer.id = id

/-- The contract has used this key. -/
def hasUniquenessKey (key : String) (contract : RemoteContract) : Bool :=
  contract.uniquenessKey = some key

/-- The customer after the call with this ticket has set the name of `id`. -/
def rename (ticket : Nat) (id name : String) (customer : RemoteCustomer) :
    RemoteCustomer :=
  if hasId id customer then
    { customer with name, writers := ticket :: customer.writers }
  else customer

/-- The effect of a request and the answer to it.  `newId` is the id of a new
object. -/
def carryOut (policy : Policy) (store : RemoteStore) (ticket : Nat) (newId : String) :
    MetronomeRequest → Option (RemoteStore × Reply)
  | .createCustomer body =>
      if policy.rejectsDuplicateAlias && store.customers.any (sharesAlias body) then
        some (store, .conflict)
      else if !policy.repeatsIds && store.customers.any (hasId newId) then none
      else some ({ store with
        customers := ⟨newId, body.name, body.ingestAliases,
          body.customerBillingProviderConfigurations, [ticket]⟩ :: store.customers },
        .created newId)
  | .setName customerId name =>
      if store.customers.any (hasId customerId) then
        some ({ store with
          customers := store.customers.map (rename ticket customerId name) },
          .renamed)
      else some (store, .rejected 404)
  | .createContract body =>
      if store.contracts.any (hasUniquenessKey body.uniquenessKey) then
        some (store, .conflict)
      else if !policy.repeatsIds && store.contracts.any (fun c => c.id = newId) then none
      else some ({ store with
        contracts := ⟨newId, body.customerId, some body.uniquenessKey,
          body.recurringCredits⟩ :: store.contracts },
        .created newId)
  | .listContracts customerId =>
      some (store, .listed
        ((store.contracts.filter fun c => c.customerId = customerId).map listing))

/-- A definite refusal other than a conflict. -/
def isRejection (statusCode : Int) : Bool :=
  400 ≤ statusCode && statusCode < 500 && statusCode ≠ 409 && statusCode ≠ 429

/-- What Metronome, or the network, does next. -/
inductive RemoteChoice where
  /-- A request in flight arrives and is carried out. -/
  | deliver (ticket : Nat) (newId : String)
  /-- Another POST of a call arrives and is carried out; nobody gets its answer. -/
  | repost (ticket : Nat) (newId : String)
  /-- A request in flight arrives and is refused. -/
  | reject (ticket : Nat) (statusCode : Int)
  /-- A request in flight is lost. -/
  | drop (ticket : Nat)
  | foreign (contract : ForeignContract)

/-- The request with this ticket is no longer in flight. -/
def RemoteStore.arrive (store : RemoteStore) (ticket : Nat) : RemoteStore :=
  { store with inFlight := store.inFlight.filter fun x => x.1 ≠ ticket }

/-- The answer to the call with this ticket is ready. -/
def RemoteStore.answer (store : RemoteStore) (ticket : Nat) (reply : Reply) :
    RemoteStore :=
  { store with replies := (ticket, reply) :: store.replies }

/-- The store after a choice, if it can be made. -/
def serve (policy : Policy) (store : RemoteStore) : RemoteChoice → Option RemoteStore
  | .deliver ticket newId =>
      (store.inFlight.lookup ticket).bind fun request =>
        (carryOut policy (store.arrive ticket) ticket newId request).map fun x =>
          x.1.answer ticket x.2
  | .repost ticket newId =>
      (store.posted.lookup ticket).bind fun request =>
        (carryOut policy store ticket newId request).map Prod.fst
  | .reject ticket statusCode =>
      (store.inFlight.lookup ticket).bind fun _ =>
        if isRejection statusCode then
          some ((store.arrive ticket).answer ticket (.rejected statusCode))
        else none
  | .drop ticket => some (store.arrive ticket)
  | .foreign other => some { store with contracts := other.contract :: store.contracts }

/-! ## What the caller sees -/

/-- The outcomes that leave open whether the call was carried out. -/
def indefinite : SdkOutcome → Bool
  | .ok _ => false
  | .statusError statusCode rateLimitError _ =>
      rateLimitError || statusCode = 429 || (500 ≤ statusCode && statusCode < 600)
  | .connectionError _ | .timeoutError _ | .apiError _ | .undecodable _ _ => true

/-- The id and the key the client reads off a listed contract. -/
def entryOf (contract : SdkObject) : Option String × Option String :=
  (nonEmptyStr (getAttr contract "id"),
    match getAttr contract "uniqueness_key" with
    | .str key => some key
    | _ => none)

/-- An outcome that reports a reply. -/
def reports : Reply → SdkOutcome → Bool
  | .created id, .ok response => extractId response = .ok id
  | .renamed, .ok _ => true
  | .listed contracts, .ok response => (iterContracts response).map entryOf = contracts
  | .conflict, .statusError statusCode rateLimitError _ =>
      statusCode = 409 && !rateLimitError
  | .rejected code, .statusError statusCode rateLimitError _ =>
      statusCode = code && !rateLimitError
  | _, _ => false

/-- The call may end this way: indefinitely at any time, else as its answer says. -/
def recv (store : RemoteStore) (ticket : Nat) (outcome : SdkOutcome) : Bool :=
  indefinite outcome || store.replies.any fun x => x.1 = ticket && reports x.2 outcome

/-- Metronome as the system sees it.  A call is one `send` and one `recv`; the
POSTs that the SDK makes of it in between are `deliver` and `repost`. -/
abbrev metronome (policy : Policy) : Metronome where
  Store := RemoteStore
  Choice := RemoteChoice
  send store ticket request :=
    { store with
      inFlight := (ticket, request) :: store.inFlight
      posted := (ticket, request) :: store.posted }
  serve := serve policy
  recv store ticket _ outcome := recv store ticket outcome

/-! ## A small installation

The default settings, the shipped tiers, and a Stripe SDK that knows a few
deliveries by their bytes; concrete runs start here. -/

/-- A delivery of Stripe: the fields the sidecar reads, and the text of
`data.object`. -/
structure Delivery where
  eventId : String
  eventType : String
  created : Int
  object : JsonObject
  objectText : String

/-- A JSON string without anything to escape. -/
def quoted (s : String) : String := "\"" ++ s ++ "\""

/-- The text of a JSON object. -/
def objectOf (members : List (String × String)) : String :=
  "\x7b" ++ ",".intercalate (members.map fun m => quoted m.1 ++ ":" ++ m.2) ++ "\x7d"

/-- The body that Stripe sends. -/
def Delivery.text (d : Delivery) : String :=
  objectOf [("id", quoted d.eventId), ("type", quoted d.eventType),
    ("created", toString d.created), ("data", objectOf [("object", d.objectText)])]

/-- What `json.loads` makes of it. -/
def Delivery.payload (d : Delivery) : JsonObject :=
  [("id", .str d.eventId), ("type", .str d.eventType), ("created", .int d.created),
    ("data", .obj [("object", .obj d.object)])]

/-- The bytes of the body. -/
def Delivery.body (d : Delivery) : Bytes := d.text.toUTF8.toList

/-- An event about a customer's name. -/
def customerDelivery (eventId eventType : String) (created : Int) (id name : String) :
    Delivery where
  eventId
  eventType
  created
  object := [("id", .str id), ("name", .str name)]
  objectText := objectOf [("id", quoted id), ("name", quoted name)]

/-- A subscription to the first shipped tier. -/
def subscriptionDelivery (eventId : String) (created : Int) (id customer : String) :
    Delivery where
  eventId
  eventType := "customer.subscription.created"
  created
  object := [("id", .str id), ("customer", .str customer),
    ("items", .obj [("data", .arr [.obj [
      ("current_period_start", .int created),
      ("price", .obj [("id", .str "price_REPLACE_ME_startup")])]])])]
  objectText := objectOf [("id", quoted id), ("customer", quoted customer),
    ("items", objectOf [("data", "[" ++ objectOf [
      ("current_period_start", toString created),
      ("price", objectOf [("id", quoted "price_REPLACE_ME_startup")])] ++ "]")])]

/-- The one signature header that `sdkOf` accepts. -/
def signature : String := "t=1,v1=5257a869"

/-- `construct_event` and `json.loads` on the listed deliveries. -/
def sdkOf (deliveries : List Delivery) : StripeSdk where
  constructEvent body header _ _ :=
    if header ≠ signature then
      .signatureVerificationError "No signatures found matching the expected signature"
    else if deliveries.any fun d => d.body = body then .event
    else .valueError "Expecting value: line 1 column 1 (char 0)"
  jsonLoads body :=
    (deliveries.find? fun d => d.body = body).map fun d => .obj d.payload

/-- The request that delivers the event. -/
def Delivery.request (d : Delivery) : WebhookRequest := ⟨d.body, some signature⟩

/-- The defaults of the settings, and some secrets. -/
def defaultSettings : Settings where
  stripeWebhookSecret := "whsec_test"
  metronomeDefaultRateCardId := "11111111-2222-3333-4444-555555555555"
  workerMaxAttempts := 8
  workerRetryBaseSeconds := .fin 5
  workerRetryCapSeconds := .fin 600
  workerMaxAttempts_ge := by decide
  workerRetryBaseSeconds_ge := by decide +kernel
  workerRetryCapSeconds_ge := by decide +kernel

/-- A sidecar with the default settings, to which these deliveries can be made. -/
def installation (deliveries : List Delivery) : Env where
  settings := defaultSettings
  tiers := TIERS
  sdk := sdkOf deliveries
  enforceFk := true

/-- Nothing has happened yet. -/
def World.fresh (policy : Policy) : World (metronome policy) where
  now := 0
  db := .empty
  workers _ := .idle
  remote := .empty
  tickets := 0
  history := []

theorem initial_fresh (policy : Policy) : Initial (World.fresh policy) :=
  ⟨rfl, fun _ => rfl, rfl, rfl⟩

/-- Where a list of labels leads; a list that cannot be carried out leads
nowhere. -/
def runFrom (env : Env) (policy : Policy) (labels : List (Label (metronome policy))) :
    World (metronome policy) :=
  (run (step env _) (World.fresh policy) labels).getD (World.fresh policy)

theorem reaches_runFrom (env : Env) (policy : Policy)
    (labels : List (Label (metronome policy))) :
    Reaches (step env _) (World.fresh policy) (runFrom env policy labels) :=
  path_runWhen_getD (fun _ _ _ => trivial) _ _

section Labels

variable {policy : Policy}

/-- `n` requests of worker `i` that need no choice. -/
def performs (i : WorkerId) (n : Nat) : List (Label (metronome policy)) :=
  List.replicate n (.perform i .none)

/-- Worker `i` claims the oldest ready event. -/
def claims (i : WorkerId) : List (Label (metronome policy)) := [.select i, .lock i]

/-- A 2xx answer with an id. -/
def okWithId (id : String) : SdkOutcome :=
  .ok (.dict [("data", .dict [("id", .str id)])])

/-- The answer to a call arrives. -/
def receives (i : WorkerId) (outcome : SdkOutcome) : Label (metronome policy) :=
  .perform i (.outcome outcome)

/-- Worker `i` handles an event of an unmapped customer: the call with `ticket`
creates the Metronome customer `id`. -/
def createsCustomer (i : WorkerId) (ticket : Nat) (id : String) :
    List (Label (metronome policy)) :=
  claims i ++ performs i 3 ++ [.serve (.deliver ticket id), receives i (okWithId id)] ++
    performs i 8 ++ [.finish i]

/-- Worker `i` handles a subscription of a mapped customer: the call with
`ticket` creates the contract `id`. -/
def createsContract (i : WorkerId) (ticket : Nat) (id : String) :
    List (Label (metronome policy)) :=
  claims i ++ performs i 4 ++ [.serve (.deliver ticket id), receives i (okWithId id)] ++
    performs i 8 ++ [.finish i]

/-- Worker `i` schedules a retry, with this draw for the jitter. -/
def schedulesRetry (i : WorkerId) (draw : Rat) : List (Label (metronome policy)) :=
  [.perform i .none, .perform i (.draw (.fin draw))] ++ performs i 4 ++ [.finish i]

end Labels

/-- Ada becomes a customer. -/
def adaCreated : Delivery := customerDelivery "evt_1" "customer.created" 1 "cus_1" "Ada"

/-- Ada subscribes to the first tier. -/
def adaSubscribed : Delivery :=
  subscriptionDelivery "evt_2" 1700000000 "sub_1" "cus_1"

/-- A second create of a customer is answered 409, and ids are not given twice. -/
def policyRejecting : Policy := ⟨true, false⟩

/-- A customer is created and subscribes; the subscription's event comes
first. -/
def subscribedAda : World (metronome policyRejecting) :=
  runFrom (installation [adaCreated, adaSubscribed]) policyRejecting
    ([.webhook adaSubscribed.request, .tick 1, .webhook adaCreated.request] ++
      claims 0 ++ performs 0 3 ++ schedulesRetry 0 3 ++
      createsCustomer 1 0 "m1" ++ [.tick 5] ++ createsContract 0 1 "k1")

theorem subscribedAda_rows : subscribedAda.db.subscriptionMappings.rows =
    [⟨"sub_1", "cus_1", "k1", "startup", "price_REPLACE_ME_startup", 5⟩] := by
  decide +kernel

end Sidecar.Ports.Remote
