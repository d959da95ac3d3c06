import Sidecar.Ports.Lifecycle

/-!
# Redelivery is invisible

A webhook request that is rejected, or whose event is stored already, is an
idle step: the world after it is the world before it.  Deleting all of them
from a run leaves the other states as they were.

## Main results

* `redundant_idle` — such a request changes nothing.
* `redelivery_invisible` — what can be deleted from a run, and when a request
  adds a row.
-/

namespace Sidecar.Ports.Redelivery

open Sidecar.Verified.KeyedTable
open Sidecar.Verified.Transition
open Sidecar.Ports.Python
open Sidecar.Ports.Receiver
open Sidecar.Ports.System
open Sidecar.Ports.Remote

variable {env : Env} {M : Metronome}

/-- `construct_event` and `json.loads` as they are documented: the first
succeeds on correctly signed bodies only, and on every such body that is a JSON
object, and no signature is empty. -/
structure SdkContract (sdk : StripeSdk) (signed : Bytes → String → String → Time → Prop) :
    Prop where
  sound : ∀ body header secret now,
    sdk.constructEvent body header secret now = .event → signed body header secret now
  complete : ∀ body header secret now payload, signed body header secret now →
    sdk.jsonLoads body = some (.obj payload) →
    sdk.constructEvent body header secret now = .event
  header : ∀ body secret now, ¬signed body "" secret now

/-- A correctly signed request whose body is a JSON object with a non-empty
string `id` and `type`. -/
structure Verified (env : Env) (signed : Bytes → String → String → Time → Prop)
    (now : Time)
    (request : WebhookRequest) (eventId eventType : String) (payload : JsonObject) :
    Prop where
  signature : ∃ header, request.stripeSignature = some header ∧
    signed request.body header env.settings.stripeWebhookSecret now
  body : env.sdk.jsonLoads request.body = some (.obj payload)
  id : get payload "id" = .str eventId ∧ eventId ≠ ""
  type : get payload "type" = .str eventType ∧ eventType ≠ ""

variable {signed : Bytes → String → String → Time → Prop}

/-- The receiver accepts exactly the verified requests. -/
theorem wellFormed_iff (hsdk : SdkContract env.sdk signed) {now : Time}
    {request : WebhookRequest} {eventId eventType : String} {payload : JsonObject} :
    WellFormed env.sdk env.settings now request eventId eventType payload ↔
      Verified env signed now request eventId eventType payload := by
  constructor
  · rintro ⟨hv, hid, htype⟩
    obtain ⟨header, hheader, _, hevent, hbody⟩ := verifyAndParseEvent_eq_ok.mp hv
    exact ⟨⟨header, hheader, hsdk.sound _ _ _ _ hevent⟩, hbody,
      asNonEmptyStr_eq_some.mp hid, asNonEmptyStr_eq_some.mp htype⟩
  · rintro ⟨⟨header, hheader, hsigned⟩, hbody, hid, htype⟩
    refine ⟨verifyAndParseEvent_eq_ok.mpr ⟨header, hheader, ?_, ?_, hbody⟩,
      asNonEmptyStr_eq_some.mpr hid, asNonEmptyStr_eq_some.mpr htype⟩
    · rintro rfl
      exact hsdk.header _ _ _ hsigned
    · exact hsdk.complete _ _ _ _ _ hsigned hbody

/-- A request delivers one event. -/
theorem Verified.unique {now : Time} {request : WebhookRequest} {a b a' b' : String}
    {payload payload' : JsonObject} (h : Verified env signed now request a a' payload)
    (h' : Verified env signed now request b b' payload') :
    a = b ∧ a' = b' ∧ payload = payload' := by
  have hbody := h.body
  rw [h'.body] at hbody
  cases hbody
  have hid := h.id.1
  have htype := h.type.1
  rw [h'.id.1] at hid
  rw [h'.type.1] at htype
  cases hid
  cases htype
  exact ⟨rfl, rfl, rfl⟩

/-! ## Idle requests -/

/-- The request is rejected, or its event is stored already. -/
def redundant (env : Env) (w : World M) : Label M → Bool
  | .webhook request =>
      let response := (stripeWebhook env.sdk env.settings w.now request w.db).response
      response.statusCode ≠ 200 || (w.db.webhookEvents.find? response.detail).isSome
  | _ => false

theorem redundant_webhook {w : World M} {request : WebhookRequest} :
    redundant env w (.webhook request) = true ↔
      (stripeWebhook env.sdk env.settings w.now request w.db).persisted = none := by
  by_cases hw : ∃ eventId eventType payload,
      WellFormed env.sdk env.settings w.now request eventId eventType payload
  · obtain ⟨eventId, eventType, payload, hw⟩ := hw
    simp only [redundant, stripeWebhook_wellFormed hw]
    cases w.db.webhookEvents.find? eventId <;> simp
  · simp only [not_exists] at hw
    obtain ⟨hcode, hpersisted, _⟩ : _ ∧
      (stripeWebhook _ _ _ _ w.db).persisted = none ∧ _ :=
      stripeWebhook_rejected hw
    rcases hcode with hcode | hcode <;> simp [redundant, hcode, hpersisted]

/-- **A redundant request is an idle step**: it changes no row, whatever the
status of the stored event, and puts nothing in the queue. -/
theorem redundant_idle {w w' : World M} {label : Label M}
    (hr : redundant env w label = true) (hs : step env M w label = some w') : w' = w := by
  cases label with
  | webhook request =>
      have hp := redundant_webhook.mp hr
      simp only [step, hp, stripeWebhook_db_of_none hp, Option.some.injEq] at hs
      exact hs.symm
  | _ => cases hr

/-! ## Requests -/

/-- A request can always be served; it inserts one pending row if it is
verified and new, and is an idle step otherwise. -/
theorem webhook_step (hsdk : SdkContract env.sdk signed) (w : World M)
    (request : WebhookRequest) :
    ∃ w', step env M w (.webhook request) = some w' ∧
      ((∃ eventId eventType payload,
          Verified env signed w.now request eventId eventType payload ∧
          w.db.webhookEvents.find? eventId = none ∧
          w'.db.webhookEvents.rows =
            w.db.webhookEvents.rows ++ [newEvent w.now eventId eventType payload]) ∨
        (∀ eventId eventType payload,
          Verified env signed w.now request eventId eventType payload →
          w.db.webhookEvents.find? eventId ≠ none) ∧ w' = w) := by
  cases hp : (stripeWebhook env.sdk env.settings w.now request w.db).persisted with
  | none =>
      refine ⟨w, ?_, .inr ⟨fun eventId eventType payload hv hnew => ?_, rfl⟩⟩
      · simp only [step, hp, stripeWebhook_db_of_none hp]
      · rw [stripeWebhook_wellFormed ((wellFormed_iff hsdk).mpr hv)] at hp
        simp [hnew] at hp
  | some eventId =>
      obtain ⟨eventType, payload, hw, hnew, hdb⟩ := stripeWebhook_of_some hp
      refine ⟨_, by simp only [step, hp]; rfl, .inl ⟨eventId, eventType, payload,
        (wellFormed_iff hsdk).mp hw, hnew, ?_⟩⟩
      simp only [World.log, hdb]
      exact Table.rows_insertNew_of_none hnew

/-- What is deleted from a run: rejected requests and redeliveries. -/
theorem redundant_iff (hsdk : SdkContract env.sdk signed) {w : World M}
    {label : Label M} :
    redundant env w label = true ↔ ∃ request, label = .webhook request ∧
      ∀ eventId eventType payload,
        Verified env signed w.now request eventId eventType payload →
        w.db.webhookEvents.find? eventId ≠ none := by
  constructor
  · intro hr
    cases label with
    | webhook request =>
        refine ⟨request, rfl, fun eventId eventType payload hv hnew => ?_⟩
        have hp := redundant_webhook.mp hr
        rw [stripeWebhook_wellFormed ((wellFormed_iff hsdk).mpr hv)] at hp
        simp [hnew] at hp
    | _ => cases hr
  · rintro ⟨request, rfl, hstored⟩
    refine redundant_webhook.mpr ?_
    cases hp : (stripeWebhook env.sdk env.settings w.now request w.db).persisted with
    | none => rfl
    | some eventId =>
        obtain ⟨eventType, payload, hw, hnew, _⟩ := stripeWebhook_of_some hp
        exact absurd hnew (hstored _ _ _ ((wellFormed_iff hsdk).mp hw))

/-- **Redelivery is invisible.**  A run without its rejected requests and its
redeliveries passes through the same states; a request adds a row exactly if it
is verified and new, the pending row of the event it delivers, and changes
nothing otherwise; every verified one is answered 200. -/
theorem redelivery_invisible (hsdk : SdkContract env.sdk signed) (w : World M) :
    (∀ labels w', run (step env M) w labels = some w' →
      run (step env M) w (erase (step env M) (redundant env) w labels) = some w' ∧
      trace (step env M) (redundant env) w (erase (step env M) (redundant env) w labels) =
        (trace (step env M) (redundant env) w labels).filter fun x => !x.1) ∧
    (∀ label w', redundant env w label = true → step env M w label = some w' → w' = w) ∧
    (∀ label, redundant env w label = true ↔ ∃ request, label = .webhook request ∧
      ((¬∃ eventId eventType payload,
          Verified env signed w.now request eventId eventType payload) ∨
        ∃ eventId eventType payload,
          Verified env signed w.now request eventId eventType payload ∧
          (w.db.webhookEvents.find? eventId).isSome)) ∧
    (∀ request, ∃ w', step env M w (.webhook request) = some w' ∧
      ((∃ row, w'.db.webhookEvents.rows = w.db.webhookEvents.rows ++ [row] ∧
          row.status = .PENDING ∧ row.attempts = 0) ↔
        ∃ eventId eventType payload,
          Verified env signed w.now request eventId eventType payload ∧
          w.db.webhookEvents.find? eventId = none) ∧
      (w'.db.webhookEvents.rows ≠ w.db.webhookEvents.rows →
        ∃ row, w'.db.webhookEvents.rows = w.db.webhookEvents.rows ++ [row]) ∧
      ∀ eventId eventType payload,
        Verified env signed w.now request eventId eventType payload →
        w.db.webhookEvents.find? eventId = none → w'.db.webhookEvents.rows =
          w.db.webhookEvents.rows ++ [newEvent w.now eventId eventType payload]) ∧
    ∀ request eventId eventType payload,
      Verified env signed w.now request eventId eventType payload →
      (stripeWebhook env.sdk env.settings w.now request w.db).response.statusCode =
        200 := by
  refine ⟨fun labels w' hrun => ⟨run_erase (fun _ _ _ => redundant_idle) hrun,
      trace_erase (fun _ _ _ => redundant_idle) _ _⟩,
    fun label w' => redundant_idle, fun label => ?_, fun request => ?_,
    fun request eventId eventType payload hv => ?_⟩
  · rw [redundant_iff hsdk]
    refine exists_congr fun request => and_congr_right fun _ => ⟨fun hstored => ?_, ?_⟩
    · by_cases hv : ∃ eventId eventType payload,
          Verified env signed w.now request eventId eventType payload
      · obtain ⟨eventId, eventType, payload, hv⟩ := hv
        exact .inr ⟨eventId, eventType, payload, hv,
          Option.isSome_iff_ne_none.mpr (hstored _ _ _ hv)⟩
      · exact .inl hv
    · rintro (hnone | ⟨eventId, eventType, payload, hv, hsome⟩) eventId' eventType'
        payload' hv'
      · exact absurd ⟨eventId', eventType', payload', hv'⟩ hnone
      · rw [(hv'.unique hv).1]
        exact Option.isSome_iff_ne_none.mp hsome
  · obtain ⟨w', hs, ⟨eventId, eventType, payload, hv, hnew, hrows⟩ | ⟨hstored, rfl⟩⟩ :=
      webhook_step hsdk w request
    · refine ⟨w', hs, ⟨fun _ => ⟨eventId, eventType, payload, hv, hnew⟩,
        fun _ => ⟨_, hrows, rfl, rfl⟩⟩, fun _ => ⟨_, hrows⟩, fun _ _ _ hv' _ => ?_⟩
      obtain ⟨rfl, rfl, rfl⟩ := hv.unique hv'
      exact hrows
    · refine ⟨w', hs, ⟨?_, ?_⟩, fun hne => absurd rfl hne,
        fun _ _ _ hv hnew => absurd hnew (hstored _ _ _ hv)⟩
      · rintro ⟨row, hrows, _⟩
        simp at hrows
      · rintro ⟨eventId, eventType, payload, hv, hnew⟩
        exact absurd hnew (hstored _ _ _ hv)
  · rw [stripeWebhook_wellFormed ((wellFormed_iff hsdk).mpr hv)]

/-- The receiver of the small installation. -/
theorem sdkContract_sdkOf (deliveries : List Delivery) :
    SdkContract (sdkOf deliveries) fun _ header _ _ => header = signature where
  sound body header secret now hevent := by
    by_contra hheader
    simp [sdkOf, hheader] at hevent
  complete body header secret now payload hheader hbody := by
    obtain ⟨d, hd, _⟩ := Option.map_eq_some_iff.mp hbody
    have hbody := List.find?_some hd
    have hany : (deliveries.any fun d => d.body = body) = true :=
      List.any_eq_true.mpr ⟨d, List.mem_of_find?_eq_some hd, hbody⟩
    simp only [sdkOf, hheader, ne_eq, not_true_eq_false, if_false, hany, if_true]
  header _ _ _ := by decide

/-- A delivery has been processed; Stripe may deliver it again. -/
def processedAda : World (metronome policyRejecting) :=
  runFrom (installation [adaCreated]) policyRejecting
    (.webhook adaCreated.request :: createsCustomer 0 0 "m1")

/-- A first delivery adds a row, and the second one, once the event is
processed, does not. -/
theorem redelivery_invisible_adaCreated :
    processedAda.db.webhookEvents.rows.map (·.status) = [.PROCESSED] ∧
      redundant (installation [adaCreated]) processedAda (.webhook adaCreated.request) =
        true ∧
      ∀ w', step (installation [adaCreated]) _ processedAda
        (.webhook adaCreated.request) =
        some w' → w' = processedAda := by
  have hr : redundant (installation [adaCreated]) processedAda
      (.webhook adaCreated.request) = true := by
    decide +kernel
  exact ⟨by decide +kernel, hr, fun w' =>
    (redelivery_invisible (sdkContract_sdkOf [adaCreated]) processedAda).2.1 _ w' hr⟩

end Sidecar.Ports.Redelivery
