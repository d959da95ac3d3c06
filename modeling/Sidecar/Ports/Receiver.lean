import Sidecar.Ports.Models
import Sidecar.Ports.Config

/-!
# The webhook receiver

`POST /webhooks/stripe`: verify, check the two fields the table needs, insert
idempotently.  `stripe.Webhook.construct_event` is a parameter, as is the JSON
parser it shares with the receiver.
-/

namespace Sidecar.Ports.Receiver

open Sidecar.Verified.KeyedTable
open Sidecar.Ports.Python
open Sidecar.Ports.Models
open Sidecar.Ports.Config

abbrev Bytes := List UInt8

/-- How `construct_event` ends: it returns an event the receiver discards, or
raises `SignatureVerificationError`, `ValueError`, or something else, as it does
on a signed body that is JSON but not an object. -/
inductive ConstructEvent where
  | event
  | signatureVerificationError (msg : String)
  | valueError (msg : String)
  | otherException (exception msg : String)
deriving DecidableEq, Repr

/-- The third-party code under the receiver. -/
structure StripeSdk where
  /-- Body, signature header, secret, and the time the header is checked at. -/
  constructEvent : Bytes → String → String → Time → ConstructEvent
  /-- `json.loads`; `none` is `JSONDecodeError`. -/
  jsonLoads : Bytes → Option Json

/-- What reaches the route: the raw body and the `Stripe-Signature` header. -/
structure WebhookRequest where
  body : Bytes
  stripeSignature : Option String

/-- The answer of the route: the status, and the id or the error it shows. -/
structure Response where
  statusCode : Nat
  detail : String
deriving DecidableEq, Repr

/-- What `verify_and_parse_event` raises. -/
inductive VerifyError where
  | invalidWebhookSignature (detail : String)
  /-- An exception of the SDK that it does not catch. -/
  | otherException (exception msg : String)
deriving DecidableEq, Repr

/-- Check the signature, and parse the body a second time. -/
def verifyAndParseEvent (sdk : StripeSdk) (now : Time) (payload : Bytes)
    (signatureHeader : Option String) (webhookSecret : String) :
    Except VerifyError JsonObject :=
  match signatureHeader with
  | none | some "" => .error (.invalidWebhookSignature "Missing Stripe-Signature header.")
  | some header =>
    match sdk.constructEvent payload header webhookSecret now with
    | .signatureVerificationError msg => .error (.invalidWebhookSignature msg)
    | .valueError msg =>
        .error (.invalidWebhookSignature s!"Malformed webhook payload: {msg}")
    | .otherException exception msg => .error (.otherException exception msg)
    | .event =>
      match sdk.jsonLoads payload with
      | none => .error (.invalidWebhookSignature "Malformed webhook payload")
      | some (.obj result) => .ok result
      | some _ =>
          .error (.invalidWebhookSignature "Webhook payload is not a JSON object.")

/-- The server's `_require_str`: `none` is the 400 response. -/
def requireStr (value : Json) (fieldName : String) : Except Response String :=
  match asNonEmptyStr value with
  | some s => .ok s
  | none => .error {
      statusCode := 400
      detail := s!"Stripe event missing required field `{fieldName}`." }

/-- The row that `INSERT` builds, with the server defaults. -/
def newEvent (now : Time) (stripeEventId eventType : String) (payload : JsonObject) :
    WebhookEvent where
  stripeEventId
  eventType
  payload
  status := .PENDING
  attempts := 0
  lastError := none
  receivedAt := now
  nextAttemptAt := now
  processedAt := none

/-- `_persist_event`: whether a row was inserted, and the database after it. -/
def persistEvent (now : Time) (stripeEventId eventType : String) (payload : JsonObject)
    (db : Postgres) : Bool × Postgres :=
  ((db.webhookEvents.find? stripeEventId).isNone,
    { db with
      webhookEvents :=
        db.webhookEvents.insertNew (newEvent now stripeEventId eventType payload) })

/-- The response of an exception that escapes the route. -/
def internalServerError : Response :=
  { statusCode := 500, detail := "Internal Server Error" }

/-- The response to an event that could not be verified. -/
def VerifyError.response : VerifyError → Response
  | .invalidWebhookSignature _ =>
      { statusCode := 400, detail := "Invalid Stripe webhook signature." }
  | .otherException _ _ => internalServerError

/-- How the route ends. -/
structure WebhookResult where
  response : Response
  /-- The `persisted` field of the `webhook_received` log line, with the id. -/
  persisted : Option String
  db : Postgres

/-- `POST /webhooks/stripe`. -/
def stripeWebhook (sdk : StripeSdk) (settings : Settings) (now : Time)
    (request : WebhookRequest) (db : Postgres) : WebhookResult :=
  match verifyAndParseEvent sdk now request.body request.stripeSignature
      settings.stripeWebhookSecret with
  | .error error => { response := error.response, persisted := none, db }
  | .ok event =>
    match requireStr (get event "id") "id" with
    | .error response => { response, persisted := none, db }
    | .ok stripeEventId =>
      match requireStr (get event "type") "type" with
      | .error response => { response, persisted := none, db }
      | .ok eventType =>
          let (inserted, db) := persistEvent now stripeEventId eventType event db
          { response := { statusCode := 200, detail := stripeEventId }
            persisted := if inserted then some stripeEventId else none
            db }

/-! ## The two ways a request ends -/

section Cases

variable {sdk : StripeSdk} {settings : Settings} {now : Time} {request : WebhookRequest}
  {db : Postgres}

/-- A verified event with the two fields the table needs. -/
structure WellFormed (sdk : StripeSdk) (settings : Settings) (now : Time)
    (request : WebhookRequest) (eventId eventType : String) (payload : JsonObject) :
    Prop where
  verified : verifyAndParseEvent sdk now request.body request.stripeSignature
    settings.stripeWebhookSecret = .ok payload
  id : asNonEmptyStr (get payload "id") = some eventId
  type : asNonEmptyStr (get payload "type") = some eventType

theorem verifyAndParseEvent_eq_ok {body : Bytes} {signature : Option String}
    {secret : String} {event : JsonObject} :
    verifyAndParseEvent sdk now body signature secret = .ok event ↔
      ∃ header, signature = some header ∧ header ≠ "" ∧
        sdk.constructEvent body header secret now = .event ∧
        sdk.jsonLoads body = some (.obj event) := by
  unfold verifyAndParseEvent
  split
  · simp
  · simp
  · next header hne =>
      have hne : header ≠ "" := hne
      cases hc : sdk.constructEvent body header secret now with
      | signatureVerificationError msg => simp [hc]
      | valueError msg => simp [hc]
      | otherException exception msg => simp [hc]
      | event =>
          cases hj : sdk.jsonLoads body with
          | none => simp
          | some json => cases json <;> simp [hne, hc]

theorem requireStr_ok {value : Json} {fieldName s : String}
    (h : asNonEmptyStr value = some s) : requireStr value fieldName = .ok s := by
  rw [requireStr, h]

theorem requireStr_error {value : Json} (fieldName : String)
    (h : asNonEmptyStr value = none) :
    ∃ detail, requireStr value fieldName = .error { statusCode := 400, detail } := by
  rw [requireStr, h]
  exact ⟨_, rfl⟩

theorem VerifyError.statusCode (error : VerifyError) :
    error.response.statusCode = 400 ∨ error.response.statusCode = 500 := by
  cases error with
  | invalidWebhookSignature detail => exact .inl rfl
  | otherException exception msg => exact .inr rfl

/-- A well-formed request is answered 200 and inserts its row if it is new. -/
theorem stripeWebhook_wellFormed {eventId eventType : String} {payload : JsonObject}
    (h : WellFormed sdk settings now request eventId eventType payload) :
    stripeWebhook sdk settings now request db =
      { response := { statusCode := 200, detail := eventId }
        persisted := if (db.webhookEvents.find? eventId).isNone then
          some eventId else none
        db := { db with
          webhookEvents :=
            db.webhookEvents.insertNew (newEvent now eventId eventType payload) } } := by
  simp only [stripeWebhook, h.verified, requireStr_ok h.id, requireStr_ok h.type]
  rfl

/-- Any other request is answered 400, or 500 if the SDK fails otherwise, and
changes nothing. -/
theorem stripeWebhook_rejected
    (h : ∀ eventId eventType payload,
      ¬WellFormed sdk settings now request eventId eventType payload) :
    ((stripeWebhook sdk settings now request db).response.statusCode = 400 ∨
        (stripeWebhook sdk settings now request db).response.statusCode = 500) ∧
      (stripeWebhook sdk settings now request db).persisted = none ∧
      (stripeWebhook sdk settings now request db).db = db := by
  unfold stripeWebhook
  cases hv : verifyAndParseEvent sdk now request.body request.stripeSignature
      settings.stripeWebhookSecret with
  | error error => exact ⟨error.statusCode, rfl, rfl⟩
  | ok payload =>
      cases hid : asNonEmptyStr (get payload "id") with
      | none =>
          obtain ⟨detail, he⟩ := requireStr_error "id" hid
          simp [he]
      | some eventId =>
          cases hty : asNonEmptyStr (get payload "type") with
          | none =>
              obtain ⟨detail, he⟩ := requireStr_error "type" hty
              simp [requireStr_ok hid, he]
          | some eventType => exact absurd ⟨hv, hid, hty⟩ (h eventId eventType payload)

/-- A request that inserts no row leaves the database as it is. -/
theorem stripeWebhook_db_of_none
    (h : (stripeWebhook sdk settings now request db).persisted = none) :
    (stripeWebhook sdk settings now request db).db = db := by
  by_cases hw : ∃ eventId eventType payload,
      WellFormed sdk settings now request eventId eventType payload
  · obtain ⟨eventId, eventType, payload, hw⟩ := hw
    rw [stripeWebhook_wellFormed hw] at h ⊢
    cases hfind : db.webhookEvents.find? eventId with
    | none => simp [hfind] at h
    | some row =>
        have hkey : (newEvent now eventId eventType payload).stripeEventId =
          eventId := rfl
        simp only [Table.insertNew_of_some (r := newEvent now eventId eventType payload)
          (hkey ▸ hfind)]
  · simp only [not_exists] at hw
    exact (stripeWebhook_rejected hw).2.2

/-- A request that inserts a row is well formed and new. -/
theorem stripeWebhook_of_some {eventId : String}
    (h : (stripeWebhook sdk settings now request db).persisted = some eventId) :
    ∃ eventType payload,
      WellFormed sdk settings now request eventId eventType payload ∧
      db.webhookEvents.find? eventId = none ∧
      (stripeWebhook sdk settings now request db).db =
        { db with
          webhookEvents :=
            db.webhookEvents.insertNew (newEvent now eventId eventType payload) } := by
  by_cases hw : ∃ eventId eventType payload,
      WellFormed sdk settings now request eventId eventType payload
  · obtain ⟨eventId', eventType, payload, hw⟩ := hw
    rw [stripeWebhook_wellFormed hw] at h
    cases hfind : db.webhookEvents.find? eventId' with
    | none =>
        simp only [hfind, Option.isNone_none, if_true, Option.some.injEq] at h
        subst h
        exact ⟨eventType, payload, hw, hfind, by rw [stripeWebhook_wellFormed hw]⟩
    | some row => simp [hfind] at h
  · simp only [not_exists] at hw
    rw [(stripeWebhook_rejected hw).2.1] at h
    cases h

end Cases

end Sidecar.Ports.Receiver
