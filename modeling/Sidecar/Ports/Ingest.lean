import Sidecar.Ports.ClaimOrder

/-!
# Concurrent webhook requests

In `System` a webhook request is one step.  The receiver really runs a
transaction for each request (`session_scope` around the insert of
`_persist_event`), any number of them at once: the insert waits for an open
transaction that has inserted the same key, does nothing on a committed one,
and every transaction can fail before its commit, or after it without the
receiver hearing of it.  `Ingest` is the system with these requests.

The row is stamped with the start of its transaction and becomes visible at its
commit, which is where the one step of `System` belongs.

## Main results

* `intake_refines` — every run with concurrent requests is a run of the system.
* `deliveries_stored_once` — a stored event was committed by exactly one
  request, as that request delivered it, and every acknowledged event is
  stored.
-/

namespace Sidecar.Ports.Ingest

open Sidecar.Verified.KeyedTable
open Sidecar.Verified.Transition
open Sidecar.Ports.Python
open Sidecar.Ports.Config
open Sidecar.Ports.Models
open Sidecar.Ports.Receiver
open Sidecar.Ports.System
open Sidecar.Ports.Moves
open Sidecar.Ports.Transactions
open Sidecar.Ports.Invariant
open Sidecar.Ports.Remote
open Sidecar.Ports.ClaimOrder

/-! ## The requests -/

/-- One HTTP request to the receiver. -/
abbrev RequestId := Nat

/-- Where a request stands. -/
inductive Reception where
  | absent
  /-- The transaction has begun; the `INSERT` has not returned. -/
  | inserting (request : WebhookRequest) (event : WebhookEvent)
  /-- The `INSERT` has returned, with or without the id of a new row. -/
  | inserted (request : WebhookRequest) (event : WebhookEvent) (isNew : Bool)
  /-- Answered; a ghost: the row that the transaction has committed. -/
  | answered (request : WebhookRequest) (response : Response)
      (stored : Option WebhookEvent)

/-- The system, with the requests that the receiver is serving. -/
structure Server (M : Metronome) where
  world : World M
  receptions : RequestId → Reception
  /-- The rows of open transactions. -/
  uncommitted : List (RequestId × WebhookEvent)

/-- A step of the system or of one request. -/
inductive Intake (M : Metronome) where
  /-- A step of anybody but the receiver. -/
  | system (label : Label M)
  | arrive (r : RequestId) (request : WebhookRequest)
  | insert (r : RequestId)
  /-- The transaction commits; `heard` if the receiver learns of it. -/
  | commit (r : RequestId) (heard : Bool)
  | fail (r : RequestId)

/-- The commit of a new row. -/
def store {M : Metronome} (w : World M) (event : WebhookEvent) : World M :=
  { w with db := { w.db with
    webhookEvents := w.db.webhookEvents.insertNew event } }.log
      (.enqueued event.stripeEventId)

namespace Server

variable {M : Metronome}

/-- Request `r` has got this far. -/
def setReception (x : Server M) (r : RequestId) (reception : Reception) : Server M :=
  { x with receptions := Function.update x.receptions r reception }

/-- Request `r` ends its transaction. -/
def close (x : Server M) (r : RequestId) (request : WebhookRequest) (response : Response)
    (stored : Option WebhookEvent) : Server M :=
  { x with uncommitted := x.uncommitted.filter fun u => u.1 ≠ r }.setReception r
    (.answered request response stored)

/-- Request `r` ends its transaction with the commit of its row. -/
def closeStored (x : Server M) (r : RequestId) (request : WebhookRequest)
    (response : Response) (event : WebhookEvent) : Server M :=
  { x with world := store x.world event }.close r request response (some event)

/-- No request yet. -/
structure Fresh (x : Server M) : Prop where
  world : Initial x.world
  receptions : ∀ r, x.receptions r = .absent
  uncommitted : x.uncommitted = []

end Server

/-! ## Steps -/

/-- What the request asks to be inserted, or the response that refuses it. -/
def accept (sdk : StripeSdk) (settings : Settings) (now : Time)
    (request : WebhookRequest) :
    Except Response WebhookEvent :=
  match verifyAndParseEvent sdk now request.body request.stripeSignature
      settings.stripeWebhookSecret with
  | .error error => .error error.response
  | .ok event => do
      let stripeEventId ← requireStr (get event "id") "id"
      let eventType ← requireStr (get event "type") "type"
      return newEvent now stripeEventId eventType event

/-- The 200 for an accepted event, new or not. -/
def received (event : WebhookEvent) : Response :=
  { statusCode := 200, detail := event.stripeEventId }

variable (env : Env) (M : Metronome)

/-- One step. A webhook is served in several of them, so the one-step webhook
of the system is not among them. -/
def intake (x : Server M) : Intake M → Option (Server M)
  | .system (.webhook _) => none
  | .system label => (step env M x.world label).map fun world => { x with world }
  | .arrive r request =>
      match x.receptions r with
      | .absent =>
          match accept env.sdk env.settings x.world.now request with
          | .error response => some (x.setReception r (.answered request response none))
          | .ok event => some (x.setReception r (.inserting request event))
      | _ => none
  | .insert r =>
      match x.receptions r with
      | .inserting request event =>
          -- the unique index makes the statement wait for an open transaction
          if x.uncommitted.any fun u => u.2.stripeEventId = event.stripeEventId then none
          else if (x.world.db.webhookEvents.find? event.stripeEventId).isSome then
            some (x.setReception r (.inserted request event false))
          else some ({ x with uncommitted := (r, event) :: x.uncommitted }.setReception r
            (.inserted request event true))
      | _ => none
  | .commit r heard =>
      match x.receptions r with
      | .inserted request event isNew =>
          let response := if heard then received event else internalServerError
          if isNew then some (x.closeStored r request response event)
          else some (x.close r request response none)
      | _ => none
  | .fail r =>
      match x.receptions r with
      | .inserting request _ | .inserted request _ _ =>
          some (x.close r request internalServerError none)
      | _ => none

/-! ## What a step can do -/

variable {env M} {x y : Server M} {r : RequestId}

/-- The branches of `intake`, each with what it requires. -/
inductive Taken (env : Env) (x : Server M) : Intake M → Server M → Prop where
  | system {label : Label M} {world : World M} : step env M x.world label = some world →
      (∀ request, label ≠ .webhook request) → Taken env x (.system label) { x with world }
  | rejected {r : RequestId} {request : WebhookRequest} {response : Response} :
      x.receptions r = .absent →
      accept env.sdk env.settings x.world.now request = .error response →
      Taken env x (.arrive r request) (x.setReception r (.answered request response none))
  | accepted {r : RequestId} {request : WebhookRequest} {event : WebhookEvent} :
      x.receptions r = .absent →
      accept env.sdk env.settings x.world.now request = .ok event →
      Taken env x (.arrive r request) (x.setReception r (.inserting request event))
  | duplicate {r : RequestId} {request : WebhookRequest} {event row : WebhookEvent} :
      x.receptions r = .inserting request event →
      x.world.db.webhookEvents.find? event.stripeEventId = some row →
      Taken env x (.insert r) (x.setReception r (.inserted request event false))
  | fresh {r : RequestId} {request : WebhookRequest} {event : WebhookEvent} :
      x.receptions r = .inserting request event →
      (∀ u ∈ x.uncommitted, u.2.stripeEventId ≠ event.stripeEventId) →
      x.world.db.webhookEvents.find? event.stripeEventId = none →
      Taken env x (.insert r) ({ x with
        uncommitted := (r, event) :: x.uncommitted }.setReception
        r (.inserted request event true))
  | stored {r : RequestId} {request : WebhookRequest} {event : WebhookEvent}
      {heard : Bool} : x.receptions r = .inserted request event true →
      Taken env x (.commit r heard) (x.closeStored r request
        (if heard then received event else internalServerError) event)
  | skipped {r : RequestId} {request : WebhookRequest} {event : WebhookEvent}
      {heard : Bool} : x.receptions r = .inserted request event false →
      Taken env x (.commit r heard) (x.close r request
        (if heard then received event else internalServerError) none)
  | failed {r : RequestId} {request : WebhookRequest} {event : WebhookEvent} :
      (x.receptions r = .inserting request event ∨
        ∃ isNew, x.receptions r = .inserted request event isNew) →
      Taken env x (.fail r) (x.close r request internalServerError none)

theorem intake_sound {a : Intake M} (h : intake env M x a = some y) :
    Taken env x a y := by
  cases a with
  | system label =>
      cases label with
      | webhook request => cases h
      | _ =>
          simp only [intake] at h
          obtain ⟨world, hs, rfl⟩ := Option.map_eq_some_iff.mp h
          exact .system hs fun request heq => by cases heq
  | arrive r request =>
      simp only [intake] at h
      split at h
      · next hr =>
          split at h
          · next hresponse => cases h; exact .rejected hr hresponse
          · next hevent => cases h; exact .accepted hr hevent
      · cases h
  | insert r =>
      simp only [intake] at h
      split at h
      · next request event hr =>
          split at h
          · cases h
          · next hwait =>
              split at h
              · next hsome =>
                  obtain ⟨row, hrow⟩ := Option.isSome_iff_exists.mp hsome
                  cases h
                  exact .duplicate hr hrow
              · next hnone =>
                  cases h
                  refine .fresh hr (fun u hu heq => hwait ?_) ?_
                  · exact List.any_eq_true.mpr ⟨u, hu, decide_eq_true heq⟩
                  · exact Option.not_isSome_iff_eq_none.mp hnone
      · cases h
  | commit r heard =>
      simp only [intake] at h
      split at h
      · next request event isNew hr =>
          split at h
          · next hnew =>
              cases h
              subst hnew
              exact .stored hr
          · next hnew =>
              cases h
              rw [Bool.not_eq_true] at hnew
              subst hnew
              exact .skipped hr
      · cases h
  | fail r =>
      simp only [intake] at h
      split at h
      · next hr => cases h; exact .failed (.inl hr)
      · next isNew hr => cases h; exact .failed (.inr ⟨isNew, hr⟩)
      · cases h

theorem accept_ok {sdk : StripeSdk} {settings : Settings} {now : Time}
    {request : WebhookRequest} {event : WebhookEvent}
    (h : accept sdk settings now request = .ok event) :
    ∃ eventId eventType payload,
      WellFormed sdk settings now request eventId eventType payload ∧
      event = newEvent now eventId eventType payload := by
  unfold accept at h
  cases hv : verifyAndParseEvent sdk now request.body request.stripeSignature
      settings.stripeWebhookSecret with
  | error msg =>
      rw [hv] at h
      cases h
  | ok payload =>
      rw [hv] at h
      cases hid : asNonEmptyStr (get payload "id") with
      | none =>
          obtain ⟨detail, he⟩ := requireStr_error "id" hid
          simp only [he] at h
          cases h
      | some eventId =>
          cases htype : asNonEmptyStr (get payload "type") with
          | none =>
              obtain ⟨detail, he⟩ := requireStr_error "type" htype
              simp only [requireStr_ok hid, he] at h
              cases h
          | some eventType =>
              simp only [requireStr_ok hid, requireStr_ok htype] at h
              cases h
              exact ⟨eventId, eventType, payload, ⟨hv, hid, htype⟩, rfl⟩

theorem accept_error {sdk : StripeSdk} {settings : Settings} {now : Time}
    {request : WebhookRequest} {response : Response}
    (h : accept sdk settings now request = .error response) :
    response.statusCode ≠ 200 := by
  unfold accept at h
  cases hv : verifyAndParseEvent sdk now request.body request.stripeSignature
      settings.stripeWebhookSecret with
  | error error =>
      rw [hv] at h
      cases h
      rcases error.statusCode with hcode | hcode <;> simp [hcode]
  | ok payload =>
      rw [hv] at h
      cases hid : asNonEmptyStr (get payload "id") with
      | none =>
          obtain ⟨detail, he⟩ := requireStr_error "id" hid
          simp only [he] at h
          cases h
          simp
      | some eventId =>
          cases htype : asNonEmptyStr (get payload "type") with
          | none =>
              obtain ⟨detail, he⟩ := requireStr_error "type" htype
              simp only [requireStr_ok hid, he] at h
              cases h
              simp
          | some eventType =>
              simp only [requireStr_ok hid, requireStr_ok htype] at h
              cases h

/-! ## The books of the receiver -/

/-- The event is what the request delivered when its transaction began. -/
def Delivered (env : Env) (request : WebhookRequest) (event : WebhookEvent) : Prop :=
  ∃ eventId eventType payload,
    WellFormed env.sdk env.settings event.receivedAt request eventId eventType payload ∧
      event = newEvent event.receivedAt eventId eventType payload

/-- A stored row of the event. -/
def StoredAs (db : Postgres) (event : WebhookEvent) : Prop :=
  ∃ row, db.webhookEvents.find? event.stripeEventId = some row ∧ SameEvent event row

/-- The rows of `db` are still there. -/
def Kept (db db' : Postgres) : Prop :=
  ∀ eventId row, db.webhookEvents.find? eventId = some row →
    ∃ row', db'.webhookEvents.find? eventId = some row' ∧ SameEvent row row'

theorem kept_refl (db : Postgres) : Kept db db :=
  fun _ row h => ⟨row, h, sameEvent_refl row⟩

theorem StoredAs.kept {db db' : Postgres} {event : WebhookEvent} (h : StoredAs db event)
    (hk : Kept db db') : StoredAs db' event := by
  obtain ⟨row, hrow, hsame⟩ := h
  obtain ⟨row', hrow', hsame'⟩ := hk _ row hrow
  exact ⟨row', hrow', sameEvent_trans hsame hsame'⟩

/-- What a reception says about the database. -/
def Sound (env : Env) (x : Server M) (r : RequestId) : Reception → Prop
  | .absent => ∀ event, (r, event) ∉ x.uncommitted
  | .inserting request event =>
      Delivered env request event ∧ ∀ event', (r, event') ∉ x.uncommitted
  | .inserted request event true =>
      Delivered env request event ∧ ∀ event', (r, event') ∈ x.uncommitted ↔ event' = event
  | .inserted request event false =>
      (Delivered env request event ∧ ∀ event', (r, event') ∉ x.uncommitted) ∧
        ∃ row, x.world.db.webhookEvents.find? event.stripeEventId = some row
  | .answered request response stored =>
      (∀ event, (r, event) ∉ x.uncommitted) ∧
        (response.statusCode = 200 →
          ∃ row, x.world.db.webhookEvents.find? response.detail = some row) ∧
        ∀ event, stored = some event → Delivered env request event ∧
        StoredAs x.world.db event

/-- The invariant: what a reception is sound for, and whose commit every row
comes from. -/
structure Ledger (env : Env) (x : Server M) : Prop where
  receptions : ∀ r, Sound env x r (x.receptions r)
  distinct : ∀ u ∈ x.uncommitted, ∀ u' ∈ x.uncommitted,
    u.2.stripeEventId = u'.2.stripeEventId → u.1 = u'.1
  free : ∀ u ∈ x.uncommitted, x.world.db.webhookEvents.find? u.2.stripeEventId = none
  once : ∀ r r' request request' response response' event event',
    x.receptions r = .answered request response (some event) →
    x.receptions r' = .answered request' response' (some event') →
    event.stripeEventId = event'.stripeEventId → r = r'
  source : ∀ eventId row, x.world.db.webhookEvents.find? eventId = some row →
    ∃ r request response event, x.receptions r = .answered request response (some event) ∧
      SameEvent event row

/-- A reception stays sound while the rows and its own transaction stay. -/
theorem Sound.frame {reception : Reception} (h : Sound env x r reception)
    (hk : Kept x.world.db y.world.db)
    (hown : ∀ event, (r, event) ∈ y.uncommitted ↔ (r, event) ∈ x.uncommitted) :
    Sound env y r reception := by
  have hnone : (∀ event, (r, event) ∉ x.uncommitted) → ∀ event,
    (r, event) ∉ y.uncommitted :=
    fun h event hmem => h event ((hown event).mp hmem)
  cases reception with
  | absent => exact hnone h
  | inserting request event => exact ⟨h.1, hnone h.2⟩
  | inserted request event isNew =>
      cases isNew with
      | true => exact ⟨h.1, fun event' => (hown event').trans (h.2 event')⟩
      | false =>
          obtain ⟨⟨hdelivered, huncommitted⟩, row, hrow⟩ := h
          obtain ⟨row', hrow', _⟩ := hk _ row hrow
          exact ⟨⟨hdelivered, hnone huncommitted⟩, row', hrow'⟩
  | answered request response stored =>
      obtain ⟨huncommitted, hresponse, hstored⟩ := h
      refine ⟨hnone huncommitted, fun hstatus => ?_, fun event he =>
        (hstored event he).imp_right (·.kept hk)⟩
      obtain ⟨row, hrow⟩ := hresponse hstatus
      obtain ⟨row', hrow', _⟩ := hk _ row hrow
      exact ⟨row', hrow'⟩

@[simp] theorem receptions_self (reception : Reception) :
    (x.setReception r reception).receptions r = reception := Function.update_self ..

theorem receptions_ne {r' : RequestId} (reception : Reception) (h : r' ≠ r) :
    (x.setReception r reception).receptions r' = x.receptions r' :=
  Function.update_of_ne h _ _

/-- A request that goes on without a commit. -/
theorem Ledger.advance (h : Ledger env x) (reception : Reception)
    (hworld : y.world = x.world)
    (hreceptions : y.receptions = (x.setReception r reception).receptions)
    (hsound : Sound env y r reception)
    (hown : ∀ r', r' ≠ r → ∀ event, (r', event) ∈ y.uncommitted ↔
      (r', event) ∈ x.uncommitted)
    (hdistinct : ∀ u ∈ y.uncommitted, ∀ u' ∈ y.uncommitted,
      u.2.stripeEventId = u'.2.stripeEventId → u.1 = u'.1)
    (hfree : ∀ u ∈ y.uncommitted, x.world.db.webhookEvents.find? u.2.stripeEventId = none)
    (hbefore : ∀ request response event,
      x.receptions r ≠ .answered request response (some event))
    (hafter : ∀ request response event, reception ≠ .answered request response
      (some event)) :
    Ledger env y := by
  have hanswered : ∀ r' request response event,
      y.receptions r' = .answered request response (some event) ↔
        x.receptions r' = .answered request response (some event) := by
    intro r' request response event
    rw [hreceptions]
    by_cases hr : r' = r
    · subst hr
      rw [receptions_self]
      exact iff_of_false (hafter request response event) (hbefore request response event)
    · rw [receptions_ne _ hr]
  refine ⟨fun r' => ?_, hdistinct, hworld ▸ hfree, ?_, ?_⟩
  · rw [hreceptions]
    by_cases hr : r' = r
    · subst hr
      rw [receptions_self]
      exact hsound
    · rw [receptions_ne _ hr]
      exact (h.receptions r').frame (hworld ▸ kept_refl _) (hown r' hr)
  · intro r₁ r₂ request request' response response' event event' h₁ h₂ hid
    exact h.once r₁ r₂ request request' response response' event event'
      ((hanswered _ _ _ _).mp h₁) ((hanswered _ _ _ _).mp h₂) hid
  · intro eventId row hrow
    rw [hworld] at hrow
    obtain ⟨r', request, response, event, hr', hsame⟩ := h.source eventId row hrow
    exact ⟨r', request, response, event, (hanswered _ _ _ _).mpr hr', hsame⟩

/-- Only the receiver adds rows. -/
theorem absent_move {w w' : World M} {label : Label M} {eventId : String}
    (hm : TableMove env w label w') (hlabel : ∀ request, label ≠ .webhook request)
    (h : w.db.webhookEvents.find? eventId = none) :
    w'.db.webhookEvents.find? eventId = none := by
  cases hm with
  | untouched _ he _ _ _ => exact he ▸ h
  | insert _ _ _ _ => exact absurd rfl (hlabel _)
  | replay _ _ he _ _ => exact he ▸ Table.find?_update_eq_none.mpr h
  | commit _ _ _ he _ _ _ => exact he ▸ Table.find?_update_eq_none.mpr h

theorem Ledger.system {label : Label M} {world : World M} (h : Ledger env x)
    (hm : TableMove env x.world label world)
    (hlabel : ∀ request, label ≠ .webhook request) :
    Ledger env { x with world } := by
  have hk : Kept x.world.db world.db := fun _ _ hrow => sameEvent_move hm hrow
  refine ⟨fun r => (h.receptions r).frame hk fun _ => Iff.rfl, h.distinct,
    fun u hu => absent_move hm hlabel (h.free u hu), h.once, fun eventId row' hrow' => ?_⟩
  have hrow' : world.db.webhookEvents.find? eventId = some row' := hrow'
  cases hrow : x.world.db.webhookEvents.find? eventId with
  | none =>
      rw [absent_move hm hlabel hrow] at hrow'
      cases hrow'
  | some row =>
      obtain ⟨row'', hrow'', hsame⟩ := hk eventId row hrow
      rw [hrow', Option.some.injEq] at hrow''
      subst hrow''
      obtain ⟨r, request, response, event, hr, hsame'⟩ := h.source eventId row hrow
      exact ⟨r, request, response, event, hr, sameEvent_trans hsame' hsame⟩

theorem mem_close {request : WebhookRequest} {response : Response}
    {stored : Option WebhookEvent} {r' : RequestId} {event : WebhookEvent} :
    (r', event) ∈ (x.close r request response stored).uncommitted ↔
      (r', event) ∈ x.uncommitted ∧ r' ≠ r := by
  show (r', event) ∈ x.uncommitted.filter (fun u => u.1 ≠ r) ↔ _
  simp [List.mem_filter]

theorem mem_closeStored {request : WebhookRequest} {response : Response}
    {event e : WebhookEvent} {r' : RequestId} :
    (r', e) ∈ (x.closeStored r request response event).uncommitted ↔
      (r', e) ∈ x.uncommitted ∧ r' ≠ r :=
  mem_close (x := { x with world := store x.world event })

/-- A request that ends without a commit of a row. -/
theorem Ledger.close (h : Ledger env x) {request : WebhookRequest} {response : Response}
    (hresponse : response.statusCode = 200 →
      ∃ row, x.world.db.webhookEvents.find? response.detail = some row)
    (hbefore : ∀ request response event,
      x.receptions r ≠ .answered request response (some event)) :
    Ledger env (x.close r request response none) := by
  have hsub : ∀ u ∈ (x.close r request response none).uncommitted, u ∈ x.uncommitted :=
    fun u hu => (mem_close.mp hu).1
  refine h.advance (.answered request response none) rfl rfl ?_
    (fun r' hr event => mem_close.trans (and_iff_left hr)) ?_ ?_ hbefore (by simp)
  · exact ⟨fun event hmem => (mem_close.mp hmem).2 rfl, hresponse, by simp⟩
  · exact fun u hu u' hu' => h.distinct u (hsub u hu) u' (hsub u' hu')
  · exact fun u hu => h.free u (hsub u hu)

/-- A request that commits its row. -/
theorem Ledger.stored {request : WebhookRequest} {event : WebhookEvent}
    {response : Response}
    (h : Ledger env x) (hr : x.receptions r = .inserted request event true)
    (hresponse : response.statusCode = 200 → response.detail = event.stripeEventId) :
    Ledger env (x.closeStored r request response event) := by
  have hsound := h.receptions r
  rw [hr] at hsound
  have hmem : (r, event) ∈ x.uncommitted := (hsound.2 event).mpr rfl
  have hnone : x.world.db.webhookEvents.find? event.stripeEventId = none := h.free _ hmem
  have hfind : ∀ eventId, (x.world.db.webhookEvents.insertNew event).find? eventId =
      if eventId = event.stripeEventId then some event
      else x.world.db.webhookEvents.find? eventId := by
    intro eventId
    by_cases hid : eventId = event.stripeEventId
    · subst hid
      rw [if_pos rfl, Table.find?_insertNew, if_pos ⟨hnone, rfl⟩]
    · rw [if_neg hid, Table.find?_insertNew, if_neg fun hand => hid hand.2.symm]
  have hk : Kept x.world.db (store x.world event).db := fun eventId row hrow =>
    ⟨row, Table.find?_insertNew_of_some hrow, sameEvent_refl row⟩
  have hevent : (store x.world event).db.webhookEvents.find? event.stripeEventId =
      some event := (hfind _).trans (if_pos rfl)
  have hother : ∀ r', r' ≠ r →
      (x.closeStored r request response event).receptions r' = x.receptions r' :=
    fun r' hne => Function.update_of_ne hne _ _
  have hself : (x.closeStored r request response event).receptions r =
      .answered request response (some event) := Function.update_self ..
  have hsub : ∀ u ∈ (x.closeStored r request response event).uncommitted,
      u ∈ x.uncommitted ∧ u.1 ≠ r := fun u hu => mem_closeStored.mp hu
  have hunique : ∀ r' request' response' event', r' ≠ r →
      x.receptions r' = .answered request' response' (some event') →
      event'.stripeEventId ≠ event.stripeEventId := by
    intro r' request' response' event' _ hr' hid
    have hsound' := h.receptions r'
    rw [hr'] at hsound'
    obtain ⟨_, row, hrow, _⟩ := hsound'.2.2 event' rfl
    rw [hid, hnone] at hrow
    cases hrow
  refine ⟨fun r' => ?_, fun u hu u' hu' => h.distinct u (hsub u hu).1 u' (hsub u' hu').1,
    fun u hu => ?_, ?_, fun eventId row hrow => ?_⟩
  · by_cases hne : r' = r
    · subst hne
      rw [hself]
      refine ⟨fun e he => (mem_closeStored.mp he).2 rfl, fun hstatus => ⟨event, ?_⟩, ?_⟩
      · rw [hresponse hstatus]
        exact hevent
      · rintro e ⟨⟩
        exact ⟨hsound.1, event, hevent, sameEvent_refl event⟩
    · rw [hother r' hne]
      exact (h.receptions r').frame hk fun e => mem_closeStored.trans (and_iff_left hne)
  · obtain ⟨humem, hune⟩ := hsub u hu
    refine (hfind u.2.stripeEventId).trans ?_
    rw [if_neg fun hid => hune (h.distinct u humem _ hmem hid)]
    exact h.free u humem
  · intro r₁ r₂ request₁ request₂ response₁ response₂ e₁ e₂ h₁ h₂ hid
    by_cases hr₁ : r₁ = r
    · by_cases hr₂ : r₂ = r
      · exact hr₁.trans hr₂.symm
      · subst hr₁
        rw [hself] at h₁
        rw [hother r₂ hr₂] at h₂
        cases h₁
        exact absurd hid.symm (hunique r₂ _ _ _ hr₂ h₂)
    · by_cases hr₂ : r₂ = r
      · subst hr₂
        rw [hself] at h₂
        rw [hother r₁ hr₁] at h₁
        cases h₂
        exact absurd hid (hunique r₁ _ _ _ hr₁ h₁)
      · rw [hother r₁ hr₁] at h₁
        rw [hother r₂ hr₂] at h₂
        exact h.once r₁ r₂ _ _ _ _ _ _ h₁ h₂ hid
  · have hrow : (x.world.db.webhookEvents.insertNew event).find? eventId =
      some row := hrow
    rw [hfind] at hrow
    split at hrow
    · cases hrow
      exact ⟨r, request, response, event, hself, sameEvent_refl event⟩
    · obtain ⟨r', request', response', event', hr', hsame⟩ := h.source eventId row hrow
      refine ⟨r', request', response', event', (hother r' fun heq => ?_).trans hr', hsame⟩
      rw [heq, hr] at hr'
      cases hr'

/-- **Every step keeps the books.** -/
theorem Ledger.taken {a : Intake M} (h : Ledger env x) (hinv : WorldInv env x.world)
    (ht : Taken env x a y) : Ledger env y := by
  cases ht with
  | system hs hlabel => exact h.system (tableMove hinv (step_sound hs)) hlabel
  | @rejected r request response hr hresponse =>
      have hsound := h.receptions r
      rw [hr] at hsound
      have hstatus := accept_error hresponse
      refine h.advance (.answered request response none) rfl rfl
        ⟨hsound, fun h200 => ?_, by simp⟩ (fun _ _ _ => Iff.rfl) h.distinct h.free
        (by simp [hr]) (by simp)
      exact absurd h200 hstatus
  | @accepted r request event hr hevent =>
      have hsound := h.receptions r
      rw [hr] at hsound
      obtain ⟨eventId, eventType, payload, hwell, rfl⟩ := accept_ok hevent
      exact h.advance (.inserting request _) rfl rfl
        ⟨⟨eventId, eventType, payload, hwell, rfl⟩, hsound⟩
        (fun _ _ _ => Iff.rfl) h.distinct h.free (by simp [hr]) (by simp)
  | @duplicate r request event row hr hrow =>
      have hsound := h.receptions r
      rw [hr] at hsound
      exact h.advance (.inserted request event false) rfl rfl ⟨hsound, _, hrow⟩
        (fun _ _ _ => Iff.rfl) h.distinct h.free (by simp [hr]) (by simp)
  | @fresh r request event hr hwait hnone =>
      have hsound := h.receptions r
      rw [hr] at hsound
      have hmem : ∀ r' event', (r', event') ∈ (r, event) :: x.uncommitted ↔
          (r' = r ∧ event' = event) ∨ (r', event') ∈ x.uncommitted := fun r' event' => by
        rw [List.mem_cons, Prod.mk.injEq]
      refine h.advance (.inserted request event true) rfl rfl ⟨hsound.1, fun event' => ?_⟩
        (fun r' hne event' => ?_) ?_ ?_ (by simp [hr]) (by simp)
      · refine (hmem r event').trans ⟨fun hcases => ?_, fun heq => .inl ⟨rfl, heq⟩⟩
        exact (hcases.resolve_right (hsound.2 event')).2
      · exact (hmem r' event').trans (or_iff_right fun heq => hne heq.1)
      · intro u hu u' hu' hid
        rcases List.mem_cons.mp hu with rfl | hu
        · rcases List.mem_cons.mp hu' with rfl | hu'
          · rfl
          · exact absurd hid.symm (hwait u' hu')
        · rcases List.mem_cons.mp hu' with rfl | hu'
          · exact absurd hid (hwait u hu)
          · exact h.distinct u hu u' hu' hid
      · intro u hu
        rcases List.mem_cons.mp hu with rfl | hu
        · exact hnone
        · exact h.free u hu
  | @stored r request event heard hr =>
      refine h.stored hr fun hstatus => ?_
      cases heard with
      | true => rfl
      | false => cases hstatus
  | @skipped r request event heard hr =>
      have hsound := h.receptions r
      rw [hr] at hsound
      refine h.close (fun hstatus => ?_) (by simp [hr])
      cases heard with
      | true => exact hsound.2
      | false => cases hstatus
  | failed hr =>
      refine h.close (fun hstatus => by cases hstatus) fun request' response event heq =>
        ?_
      rcases hr with hr | ⟨isNew, hr⟩
      · rw [hr] at heq
        cases heq
      · rw [hr] at heq
        cases heq

theorem ledger_fresh (h : x.Fresh) : Ledger env x where
  receptions r := by
    rw [h.receptions r]
    intro event hmem
    rw [h.uncommitted] at hmem
    cases hmem
  distinct u hu := by
    rw [h.uncommitted] at hu
    cases hu
  free u hu := by
    rw [h.uncommitted] at hu
    cases hu
  once r _ _ _ _ _ _ _ hr := by
    rw [h.receptions r] at hr
    cases hr
  source eventId row hrow := by
    rw [h.world.db] at hrow
    cases hrow

/-! ## The run of the system -/

/-- The request whose row the step commits. -/
def storedBy (x : Server M) : Intake M → Option WebhookRequest
  | .commit r _ =>
      match x.receptions r with
      | .inserted request _ true => some request
      | _ => none
  | _ => none

/-- What the system does in the step.  The commit of a row is a webhook request
that arrives at the instant the row is stamped with: the clock is set back for
it, and forward again. -/
def asSystem (x : Server M) : Intake M → List (Label M)
  | .system label => [label]
  | .commit r _ =>
      match x.receptions r with
      | .inserted request event true =>
          [.tick event.receivedAt, .webhook request, .tick x.world.now]
      | _ => []
  | _ => []

/-- The commit of a row is one request, at the instant that the row bears. -/
theorem run_store {w : World M} {request : WebhookRequest} {event : WebhookEvent}
    (hdelivered : Delivered env request event)
    (hnone : w.db.webhookEvents.find? event.stripeEventId = none) :
    run (step env M) w [.tick event.receivedAt, .webhook request, .tick w.now] =
      some (store w event) := by
  obtain ⟨eventId, eventType, payload, hwell, hevent⟩ := hdelivered
  have hid : event.stripeEventId = eventId := by
    rw [hevent]
    rfl
  subst hid
  have hwebhook : step env M { w with now := event.receivedAt } (.webhook request) =
      some { store w event with now := event.receivedAt } := by
    simp only [step, stripeWebhook_wellFormed hwell, hnone, Option.isNone_none,
      if_true, ← hevent]
    rfl
  have hback : step env M w (.tick event.receivedAt) = some { w with
    now := event.receivedAt } :=
    rfl
  rw [run_cons, hback, Option.bind_some, run_cons, hwebhook]
  rfl

theorem Ledger.run {a : Intake M} (h : Ledger env x) (hs : intake env M x a = some y) :
    run (step env M) x.world (asSystem x a) = some y.world := by
  cases intake_sound hs with
  | system hstep _ =>
      rw [asSystem, run_cons, hstep]
      rfl
  | @stored r request event heard hr =>
      have hsound := h.receptions r
      rw [hr] at hsound
      rw [asSystem, hr]
      exact run_store hsound.1 (h.free _ ((hsound.2 event).mpr rfl))
  | skipped hr =>
      rw [asSystem, hr]
      rfl
  | _ => rfl

theorem ledger_step {a : Intake M} (h : Ledger env x ∧ WorldInv env x.world)
    (hs : intake env M x a = some y) : Ledger env y ∧ WorldInv env y.world := by
  have hreaches : Reaches (step env M) x.world y.world :=
    path_of_runWhen (fun _ _ _ => trivial) (h.1.run hs)
  exact ⟨h.1.taken h.2 (intake_sound hs),
    hreaches.invariant (fun _ _ _ _ hinv hs => worldInv_move hinv (step_sound hs)) h.2⟩

theorem ledger_of_path {C : Server M → Intake M → Prop} {x₀ : Server M}
    (h : Path (intake env M) C x₀ x) (h₀ : x₀.Fresh) :
    Ledger env x ∧ WorldInv env x.world :=
  h.invariant (I := fun x => Ledger env x ∧ WorldInv env x.world)
    (fun _ _ _ _ hx hs => ledger_step hx hs) ⟨ledger_fresh h₀, worldInv_initial h₀.world⟩

/-- A step of the workers, of the operator or of Metronome. -/
def isInner : Label M → Bool
  | .tick _ | .webhook _ => false
  | _ => true

/-- The step of the system that this one is. -/
def Intake.label : Intake M → Option (Label M)
  | .system label => some label
  | _ => none

/-- The request of a webhook step. -/
def webhookOf : Label M → Option WebhookRequest
  | .webhook request => some request
  | _ => none

theorem inner_asSystem {a : Intake M} (ht : Taken env x a y) :
    (asSystem x a).filter isInner = a.label.toList.filter isInner := by
  cases ht with
  | stored hr =>
      rw [asSystem, hr]
      rfl
  | skipped hr =>
      rw [asSystem, hr]
      rfl
  | _ => rfl

theorem webhooks_asSystem {a : Intake M} (ht : Taken env x a y) :
    (asSystem x a).filterMap webhookOf = (storedBy x a).toList := by
  cases ht with
  | @system label _ _ hlabel =>
      cases label with
      | webhook request => exact absurd rfl (hlabel request)
      | _ => rfl
  | stored hr =>
      rw [asSystem, storedBy, hr]
      rfl
  | skipped hr =>
      rw [asSystem, storedBy, hr]
      rfl
  | _ => rfl

/-- **Concurrent requests refine the receiver's single step**: whatever their
transactions do to each other, what the rest of the system sees is a run of
which every request that commits a row is one step, in the order of the commits,
between the same steps of everybody else.  That run sets the clock back to the
start of the transaction for the request. -/
theorem intake_refines {x₀ : Server M} {labels : List (Intake M)}
    (h : run (intake env M) x₀ labels = some x) (h₀ : x₀.Fresh) :
    run (step env M) x₀.world (observe (intake env M) asSystem x₀ labels) = some x.world ∧
      (observe (intake env M) asSystem x₀ labels).filter isInner =
        (labels.filterMap Intake.label).filter isInner ∧
      (observe (intake env M) asSystem x₀ labels).filterMap webhookOf =
        observe (intake env M) (fun x a => (storedBy x a).toList) x₀ labels := by
  refine ⟨?_, ?_, ?_⟩
  · refine run_observe (I := fun x => Ledger env x ∧ WorldInv env x.world) (·.world)
      (fun x a y hx hs => ?_) (fun x a y hx hs => hx.1.run hs)
      ⟨ledger_fresh h₀, worldInv_initial h₀.world⟩ h
    exact ledger_step hx hs
  · rw [observe_congr (List.filter isInner)
      (g := fun _ a => a.label.toList.filter isInner) rfl
      (fun _ _ => List.filter_append ..) fun x a y hs => inner_asSystem (intake_sound hs),
      observe_labels _ h, ← List.filter_flatMap, ← List.filterMap_eq_flatMap_toList]
  · exact observe_congr (List.filterMap webhookOf) rfl (fun _ _ => List.filterMap_append)
      (fun x a y hs => webhooks_asSystem (intake_sound hs)) x₀ labels

/-- The transaction of the request has committed the row. -/
def Committed (x : Server M) (r : RequestId) (request : WebhookRequest)
    (event : WebhookEvent) :
    Prop :=
  ∃ response, x.receptions r = .answered request response (some event)

/-- Request `r` has been answered 200 for the event. -/
def Acknowledged (x : Server M) (r : RequestId) (eventId : String) : Prop :=
  ∃ request stored,
    x.receptions r = .answered request { statusCode := 200, detail := eventId } stored

/-! ## A redelivered event -/

/-- The response, once there is one. -/
def Reception.response : Reception → Option Response
  | .answered _ response _ => some response
  | _ => none

theorem acknowledged_of_response {eventId : String}
    (h : (x.receptions r).response = some { statusCode := 200, detail := eventId }) :
    Acknowledged x r eventId := by
  cases hr : x.receptions r with
  | answered request response stored =>
      rw [hr] at h
      cases h
      exact ⟨request, stored, hr⟩
  | _ =>
      rw [hr] at h
      cases h

/-- A server right after installation. -/
def Server.fresh (policy : Policy) : Server (metronome policy) where
  world := World.fresh policy
  receptions _ := .absent
  uncommitted := []

theorem fresh_server (policy : Policy) : (Server.fresh policy).Fresh :=
  ⟨initial_fresh policy, fun _ => rfl, rfl⟩

/-- Three deliveries of one event: the first is rolled back, the second commits
without hearing of it and is answered 500, the third finds the row. -/
def redeliveries : List (Intake (metronome policyRejecting)) :=
  [.arrive 0 adaCreated.request, .arrive 1 adaCreated.request, .insert 0,
    .fail 0, .insert 1,
    .system (.tick 1), .arrive 2 adaCreated.request, .commit 1 false, .insert 2,
    .commit 2 true, .system (.select 0)]

/-- The server after these deliveries. -/
def redeliveredAda : Server (metronome policyRejecting) :=
  (run (intake (installation [adaCreated]) _) (.fresh _) redeliveries).getD (.fresh _)

theorem redeliveredAda_run : run (intake (installation [adaCreated]) _)
    (.fresh policyRejecting) redeliveries = some redeliveredAda := by
  have hsome : (run (intake (installation [adaCreated]) _) (.fresh policyRejecting)
      redeliveries).isSome = true := by decide +kernel
  obtain ⟨x, hx⟩ := Option.isSome_iff_exists.mp hsome
  rw [redeliveredAda, hx]
  rfl

theorem redeliveredAda_reached : Reaches (intake (installation [adaCreated]) _)
    (.fresh policyRejecting) redeliveredAda :=
  path_runWhen_getD (fun _ _ _ => trivial) _ _

theorem redeliveredAda_responses :
    ((redeliveredAda.receptions 0).response, (redeliveredAda.receptions 1).response,
      (redeliveredAda.receptions 2).response) =
    (some internalServerError, some internalServerError,
      some { statusCode := 200, detail := "evt_1" }) := by
  decide +kernel

/-- The system has seen one of the three requests, and the worker. -/
theorem intake_refines_redeliveredAda :
    run (step (installation [adaCreated]) _) (World.fresh policyRejecting)
      (observe (intake (installation [adaCreated]) _) asSystem (.fresh _) redeliveries) =
        some redeliveredAda.world ∧
    ((observe (intake (installation [adaCreated]) _) asSystem (.fresh policyRejecting)
      redeliveries).map fun label => (isInner label, (webhookOf label).isSome)) =
        [(false, false), (false, false), (false, true), (false, false), (true, false)] ∧
    (redeliveredAda.world.db.webhookEvents.rows.map fun row =>
      (row.stripeEventId, row.receivedAt)) = [("evt_1", 0)] :=
  ⟨(intake_refines redeliveredAda_run (fresh_server _)).1, by
    decide +kernel, by decide +kernel⟩

/-! ## Each event once -/

/-- **Every event is stored once**: a stored row was committed by one request,
with the id, the type and the payload which that request delivered, no other
request has committed one for the event, and an acknowledged event is stored. -/
theorem deliveries_stored_once {x₀ : Server M} (h : Reaches (intake env M) x₀ x)
    (h₀ : x₀.Fresh) (eventId : String) :
    (∀ row, x.world.db.webhookEvents.find? eventId = some row →
      ∃ r request event, Committed x r request event ∧ Delivered env request event ∧
        SameEvent event row ∧ ∀ r' request' event', Committed x r' request' event' →
          event'.stripeEventId = eventId → r' = r) ∧
      (∀ r request event, Committed x r request event → event.stripeEventId = eventId →
        Delivered env request event ∧
          ∃ row, x.world.db.webhookEvents.find? eventId = some row ∧
          SameEvent event row) ∧
      ∀ r, Acknowledged x r eventId →
        ∃ row, x.world.db.webhookEvents.find? eventId = some row := by
  obtain ⟨hledger, _⟩ := ledger_of_path h h₀
  refine ⟨fun row hrow => ?_, ?_, ?_⟩
  · obtain ⟨r, request, response, event, hr, hsame⟩ := hledger.source eventId row hrow
    have hsound := hledger.receptions r
    rw [hr] at hsound
    refine ⟨r, request, event, ⟨response, hr⟩, (hsound.2.2 event rfl).1, hsame,
      fun r' request' event' hcommitted hid => ?_⟩
    obtain ⟨response', hr'⟩ := hcommitted
    refine hledger.once r' r _ _ _ _ _ _ hr' hr (hid.trans ?_)
    rw [← hsame.1]
    exact (Table.find?_key hrow).symm
  · rintro r request event ⟨response, hr⟩ rfl
    have hsound := hledger.receptions r
    rw [hr] at hsound
    exact hsound.2.2 event rfl
  · rintro r ⟨request, stored, hr⟩
    have hsound := hledger.receptions r
    rw [hr] at hsound
    exact hsound.2.1 rfl

theorem deliveries_stored_once_redeliveredAda : Acknowledged redeliveredAda 2 "evt_1" ∧
    ∃ row, redeliveredAda.world.db.webhookEvents.find? "evt_1" = some row ∧
      ∃ r request event, Committed redeliveredAda r request event ∧
        Delivered (installation [adaCreated]) request event ∧ SameEvent event row := by
  have hacknowledged : Acknowledged redeliveredAda 2 "evt_1" :=
    acknowledged_of_response (Prod.mk.inj (Prod.mk.inj redeliveredAda_responses).2).2
  obtain ⟨hsource, _, hstored⟩ :=
    deliveries_stored_once redeliveredAda_reached (fresh_server _) "evt_1"
  obtain ⟨row, hrow⟩ := hstored 2 hacknowledged
  obtain ⟨r, request, event, hcommitted, hdelivered, hsame, _⟩ := hsource row hrow
  exact ⟨hacknowledged, row, hrow, r, request, event, hcommitted, hdelivered, hsame⟩

end Sidecar.Ports.Ingest
