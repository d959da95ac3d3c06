import Sidecar.Ports.Effects

/-!
# The Metronome client wrapper

The operations of `MetronomeClient` and its split of failures into transient
and permanent ones.  The SDK call itself is an effect whose outcome is any
`SdkOutcome`; everything the wrapper does with that outcome is here.
-/

namespace Sidecar.Ports.MetronomeClient

open Sidecar.Verified.Resumption
open Sidecar.Ports.Python
open Sidecar.Ports.Mappers
open Sidecar.Ports.Effects

/-! ## Reading SDK responses -/

/-- `getattr(obj, name, None)`.  Strings, lists and dicts have none of the
attributes asked for here. -/
def getattr (obj : SdkObject) (name : String) : SdkObject :=
  match obj with
  | .model attrs => (attrs.lookup name).getD .none
  | _ => .none

/-- `obj.get(name)` on a dict. -/
def dictGet (items : List (String × SdkObject)) (name : String) : SdkObject :=
  (items.lookup name).getD .none

/-- `bool(obj)`. -/
def truthy : SdkObject → Bool
  | .none => false
  | .str s => s ≠ ""
  | .other b => b
  | .list xs => !xs.isEmpty
  | .dict items => !items.isEmpty
  | .model _ => true

/-- `isinstance(obj, str) and obj`. -/
def nonEmptyStr : SdkObject → Option String
  | .str s => if s = "" then none else some s
  | _ => none

/-- Attribute access: `response.data.id`. -/
def idByAttribute (response : SdkObject) : Option String :=
  let data := getattr response "data"
  let cid := getattr data "id"
  match data with
  | .none => none
  | .dict items => nonEmptyStr (if truthy cid then cid else dictGet items "id")
  | _ => nonEmptyStr (if truthy cid then cid else .none)

/-- Dict access: `response["data"]["id"]`. -/
def idByKey : SdkObject → Option String
  | .dict items =>
      match dictGet items "data" with
      | .dict data => nonEmptyStr (dictGet data "id")
      | _ => none
  | _ => none

/-- `_extract_id`: attribute access first, dict access second, else a
permanent failure. -/
def extractId (response : SdkObject) : Except PyExc String :=
  match idByAttribute response with
  | some cid => .ok cid
  | none =>
    match idByKey response with
    | some cid => .ok cid
    | none => .error (.permanentMetronomeError
        "Metronome response did not contain `data.id`." none)

/-- `_iter_contracts`: the listed contracts, none when the response has no
list. -/
def iterContracts (response : SdkObject) : List SdkObject :=
  match getattr response "data" with
  | .list data => data
  | _ =>
    match response with
    | .dict items =>
      match dictGet items "data" with
      | .list d => d
      | _ => []
    | _ => []

/-- Attribute-or-dict lookup. -/
def getAttr (obj : SdkObject) (name : String) : SdkObject :=
  match obj with
  | .dict items => dictGet items name
  | _ => getattr obj name

/-- `_get_attr(contract, "uniqueness_key") == uniqueness_key`. -/
def hasKey (uniquenessKey : String) (contract : SdkObject) : Bool :=
  match getAttr contract "uniqueness_key" with
  | .str key => key = uniquenessKey
  | _ => false

/-- The loop over the listed contracts: the first entry with the key and a
usable id. -/
def matchContract (uniquenessKey : String) : List SdkObject → Option String
  | [] => none
  | contract :: contracts =>
      if hasKey uniquenessKey contract then
        match nonEmptyStr (getAttr contract "id") with
        | some contractId => some contractId
        | none => matchContract uniquenessKey contracts
      else matchContract uniquenessKey contracts

/-! ## Classifying failures -/

/-- `_classify_status_error`: rate limits and server errors are transient,
every other status is permanent. -/
def classifyStatusError (statusCode : Int) (rateLimitError : Bool) (msg : String) :
    PyExc :=
  if rateLimitError || statusCode = 429 then
    .transientMetronomeError s!"Metronome rate limited (HTTP {statusCode}): {msg}"
  else if 500 ≤ statusCode && statusCode < 600 then
    .transientMetronomeError s!"Metronome server error (HTTP {statusCode}): {msg}"
  else
    .permanentMetronomeError s!"Metronome rejected request (HTTP {statusCode}): {msg}"
      (some statusCode)

/-- The `except` clauses shared by the four SDK calls.  They let an exception
that is not of the SDK's classes through. -/
def responseOf : SdkOutcome → Except PyExc SdkObject
  | .ok response => .ok response
  | .statusError statusCode rateLimitError msg =>
      .error (classifyStatusError statusCode rateLimitError msg)
  | .connectionError msg | .timeoutError msg | .apiError msg =>
      .error (.transientMetronomeError msg)
  | .undecodable exception msg => .error (.otherException exception msg)

/-! ## Operations -/

/-- `CreatedCustomer`. -/
structure CreatedCustomer where
  metronomeCustomerId : String
deriving DecidableEq, Repr

/-- `CreatedContract`. -/
structure CreatedContract where
  metronomeContractId : String
  viaUniquenessKeyRecovery : Bool := false
deriving DecidableEq, Repr

/-- `create_customer`. -/
def createCustomer (requestBody : CustomerRequest) : Effect CreatedCustomer := do
  let outcome ← sdkCall (.createCustomer requestBody)
  let response ← .ofExcept (responseOf outcome)
  let customerId ← .ofExcept (extractId response)
  return { metronomeCustomerId := customerId }

/-- `set_customer_name`. -/
def setCustomerName (metronomeCustomerId name : String) : Effect Unit := do
  let outcome ← sdkCall (.setName metronomeCustomerId name)
  let _ ← .ofExcept (responseOf outcome)

/-- `find_contract_by_uniqueness_key`. -/
def findContractByUniquenessKey (metronomeCustomerId uniquenessKey : String) :
    Effect String := do
  let outcome ← sdkCall (.listContracts metronomeCustomerId)
  let response ← .ofExcept (responseOf outcome)
  match matchContract uniquenessKey (iterContracts response) with
  | some contractId => return contractId
  | none => .raise (.contractNotFoundError
      (s!"No contract with uniqueness_key={pyRepr uniquenessKey} found on " ++
        s!"Metronome customer {pyRepr metronomeCustomerId}."))

/-- Create a contract; on 409 recover the id of the existing one.  The request
body always carries its customer and its key, so the source's guard against a
body without them cannot fire. -/
def createContract (requestBody : ContractRequest) : Effect CreatedContract := do
  let outcome ← sdkCall (.createContract requestBody)
  match outcome with
  | .statusError statusCode rateLimitError msg =>
      if statusCode = 409 then
        let existingId ← findContractByUniquenessKey requestBody.customerId
          requestBody.uniquenessKey
        return { metronomeContractId := existingId, viaUniquenessKeyRecovery := true }
      else .raise (classifyStatusError statusCode rateLimitError msg)
  | outcome =>
      let response ← .ofExcept (responseOf outcome)
      let contractId ← .ofExcept (extractId response)
      return { metronomeContractId := contractId }

end Sidecar.Ports.MetronomeClient
