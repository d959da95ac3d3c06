import Sidecar.Ports.Backoff
import Sidecar.Ports.Lifecycle
import Sidecar.Ports.Traffic

/-!
# How failures are classified

What becomes of an attempt, from the answers to its Metronome calls.  Two
failures are not classified as documented: when the recovery lookup finds no
contract, and when the SDK cannot decode a 2xx, the handler lets the exception
through, and the worker retries.

## Main results

* `answered_of_call` — what the answers to the calls of a plan come to.
* `outcomes_classified` — how the attempt ends.
-/

namespace Sidecar.Ports.Classification

open Sidecar.Ports.Python
open Sidecar.Ports.Config
open Sidecar.Ports.Mappers hiding requireStr
open Sidecar.Ports.Models
open Sidecar.Ports.Effects
open Sidecar.Ports.MetronomeClient
open Sidecar.Ports.Worker
open Sidecar.Ports.Attempt
open Sidecar.Ports.Remote
open Sidecar.Ports.Contracts
open Sidecar.Ports.Requests
open Sidecar.Ports.Plans
open Sidecar.Ports.Outcomes
open Sidecar.Ports.Backoff
open Sidecar.Ports.Traffic

/-! ## Answers -/

/-- A status that is neither 429 nor 5xx. -/
def Rejected (outcome : SdkOutcome) : Prop :=
  ∃ statusCode rateLimitError msg, outcome = .statusError statusCode rateLimitError msg ∧
    statusCode ≠ 429 ∧ ¬(500 ≤ statusCode ∧ statusCode < 600)

/-- A status of 429 or 5xx, or no status at all. -/
def Unanswering (outcome : SdkOutcome) : Prop :=
  (∃ statusCode rateLimitError msg, outcome = .statusError statusCode rateLimitError msg ∧
    (statusCode = 429 ∨ (500 ≤ statusCode ∧ statusCode < 600))) ∨
  ∃ msg, outcome = .connectionError msg ∨ outcome = .timeoutError msg ∨ outcome =
    .apiError msg

/-- The calls of an attempt and how they ended, the last one first. -/
def answers (ρ : Surroundings) :
    List MetronomeRequest → List (MetronomeRequest × SdkOutcome)
  | [] => []
  | request :: earlier => (request, ρ.outcome (request :: earlier)) :: answers ρ earlier

/-- A call that is to create something. -/
def Creates (request : MetronomeRequest) : Prop :=
  (∃ body, request = .createCustomer body) ∨ ∃ body, request = .createContract body

/-- A 2xx without a non-empty string id, decoded or not. -/
def Unusable (outcome : SdkOutcome) : Prop :=
  (∃ response, outcome = .ok response ∧ ∀ id, extractId response ≠ .ok id) ∨
    ∃ exception msg, outcome = .undecodable exception msg

/-- The answers that make a failure permanent. -/
inductive Permanent (answered : List (MetronomeRequest × SdkOutcome)) : Prop where
  /-- A 409 on the creation of a contract is sent to recovery first. -/
  | rejected {request : MetronomeRequest} {outcome : SdkOutcome} :
      (request, outcome) ∈ answered → Rejected outcome →
      (∀ body, request = .createContract body → conflict outcome = false) →
      Permanent answered
  | unusable {request : MetronomeRequest} {outcome : SdkOutcome} :
      (request, outcome) ∈ answered → Creates request → Unusable outcome →
      Permanent answered
  | lost {body : ContractRequest} {outcome : SdkOutcome} {response : SdkObject} :
      (.createContract body, outcome) ∈ answered →
      (.listContracts body.customerId, .ok response) ∈ answered →
      (∀ contract ∈ iterContracts response, ∀ id,
        entryOf contract ≠ (some id, some body.uniquenessKey)) → Permanent answered

/-- The answers that make it transient. -/
def Transient (answered : List (MetronomeRequest × SdkOutcome)) : Prop :=
  ∃ answer ∈ answered, Unanswering answer.2

/-- A `RateLimitError` is the exception of status 429. -/
def RateLimits (ρ : Surroundings) : Prop :=
  ∀ requests statusCode msg,
    ρ.outcome requests = .statusError statusCode true msg → statusCode = 429

/-! ## Verdicts -/

/-- The attempt commits a permanent failure. -/
def FailedPermanently (run : Session × Except PyExc Unit) : Prop :=
  run.2 = .ok () ∧ run.1.event.status = .FAILED ∧
    ∃ reason : String, run.1.event.lastError = some s!"PERMANENT: {reason}"

/-- The attempt commits a retry or, if it is the last one, a failure. -/
def Rescheduled (settings : Settings) (row : WebhookEvent)
    (run : Session × Except PyExc Unit) : Prop :=
  run.2 = .ok () ∧
    ((row.attempts + 1 < settings.workerMaxAttempts ∧ run.1.event.status = .PENDING) ∨
      (settings.workerMaxAttempts ≤ row.attempts + 1 ∧ run.1.event.status = .FAILED ∧
        ∃ reason : String, run.1.event.lastError = some s!"EXHAUSTED RETRIES: {reason}"))

/-- The attempt commits the event as processed. -/
def Processed (run : Session × Except PyExc Unit) : Prop :=
  run.2 = .ok () ∧ run.1.event.status = .PROCESSED

/-! ## What the answers come to -/

section Answers

variable {settings : Settings} {tiers : TierTable} {ρ : Surroundings} {row : WebhookEvent}

/-- The recovery lookup, if there is one, finds the contract. -/
def Found (ρ : Surroundings) : Call → Prop
  | .createContract _ _ _ _ _ request =>
      ∀ response, conflict (ρ.outcome [.createContract request]) = true →
        ρ.outcome [.listContracts request.customerId, .createContract request] =
          .ok response →
        ∃ contract ∈ iterContracts response, ∃ id,
          entryOf contract = (some id, some request.uniquenessKey)
  | _ => True

/-- The SDK decodes every 2xx. -/
def Decoded (ρ : Surroundings) (call : Call) : Prop :=
  ∀ answer ∈ answers ρ (call.requests (call.first ρ)).reverse,
    ∀ exception msg, answer.2 ≠ .undecodable exception msg

/-- What the answers to the calls of a plan come to. -/
inductive Answered (ρ : Surroundings) (call : Call) : Prop where
  | permanent {msg : String} :
      call.answer (call.first ρ) (call.second ρ) = .error (.permanentHandlerError msg) →
      Permanent (answers ρ (call.requests (call.first ρ)).reverse) →
      ¬Transient (answers ρ (call.requests (call.first ρ)).reverse) → Found ρ call →
      Decoded ρ call → Answered ρ call
  | transient {msg : String} :
      call.answer (call.first ρ) (call.second ρ) = .error (.retryableHandlerError msg) →
      ¬Permanent (answers ρ (call.requests (call.first ρ)).reverse) →
      Transient (answers ρ (call.requests (call.first ρ)).reverse) → Found ρ call →
      Decoded ρ call → Answered ρ call
  | lost {msg : String} :
      call.answer (call.first ρ) (call.second ρ) = .error (.contractNotFoundError msg) →
      Permanent (answers ρ (call.requests (call.first ρ)).reverse) →
      ¬Transient (answers ρ (call.requests (call.first ρ)).reverse) → ¬Found ρ call →
      Answered ρ call
  | undecodable {exception msg : String} :
      call.answer (call.first ρ) (call.second ρ) =
        .error (.otherException exception msg) →
      ¬Decoded ρ call → Answered ρ call
  | recorded {recorded : Recorded} :
      call.answer (call.first ρ) (call.second ρ) = .ok recorded →
      ¬Permanent (answers ρ (call.requests (call.first ρ)).reverse) →
      ¬Transient (answers ρ (call.requests (call.first ρ)).reverse) → Found ρ call →
      Decoded ρ call → Answered ρ call

theorem classifyStatusError_transient {statusCode : Int} (rateLimitError : Bool)
    (msg : String) (h : statusCode = 429 ∨ (500 ≤ statusCode ∧ statusCode < 600)) :
    ∃ msg', classifyStatusError statusCode rateLimitError msg =
      .transientMetronomeError msg' := by
  unfold classifyStatusError
  by_cases hlimit : (rateLimitError || statusCode = 429) = true
  · rw [if_pos hlimit]
    exact ⟨_, rfl⟩
  · have hrange : (500 ≤ statusCode && statusCode < 600) = true := by
      simp only [Bool.or_eq_true, decide_eq_true_eq, not_or] at hlimit
      simp only [Bool.and_eq_true, decide_eq_true_eq]
      exact h.resolve_left hlimit.2
    rw [if_neg hlimit, if_pos hrange]
    exact ⟨_, rfl⟩

theorem classifyStatusError_permanent {statusCode : Int} {rateLimitError : Bool}
    (msg : String)
    (hlimit : rateLimitError = true → statusCode = 429) (hne : statusCode ≠ 429)
    (hrange : ¬(500 ≤ statusCode ∧ statusCode < 600)) :
    ∃ msg' code, classifyStatusError statusCode rateLimitError msg =
      .permanentMetronomeError msg' code := by
  have hcode : ¬(rateLimitError || statusCode = 429) = true := by
    simp only [Bool.or_eq_true, decide_eq_true_eq, not_or]
    exact ⟨fun h => hne (hlimit h), hne⟩
  have hserver : ¬(500 ≤ statusCode && statusCode < 600) = true := by
    simp only [Bool.and_eq_true, decide_eq_true_eq]
    exact hrange
  unfold classifyStatusError
  rw [if_neg hcode, if_neg hserver]
  exact ⟨_, _, rfl⟩

theorem not_rejected_of_unanswering {outcome : SdkOutcome} (h : Unanswering outcome) :
    ¬Rejected outcome := by
  rintro ⟨code, rateLimitError, msg, rfl, hne, hrange⟩
  rcases h with ⟨_, _, _, heq, h⟩ | ⟨_, h | h | h⟩
  · cases heq
    exact h.elim hne hrange
  all_goals cases h

theorem not_conflict_of_unanswering {outcome : SdkOutcome} (h : Unanswering outcome) :
    conflict outcome = false := by
  rcases h with ⟨code, _, _, rfl, h⟩ | ⟨_, rfl | rfl | rfl⟩
  · exact decide_eq_false (by omega)
  all_goals rfl

/-- The three ways in which a call ends that the SDK can decode. -/
theorem responseOf_cases (hsdk : RateLimits ρ) (requests : List MetronomeRequest)
    (hdecoded : ∀ exception msg, ρ.outcome requests ≠ .undecodable exception msg) :
    (∃ response, ρ.outcome requests = .ok response) ∨
    (Rejected (ρ.outcome requests) ∧
      ∃ msg code, responseOf (ρ.outcome requests) =
        .error (.permanentMetronomeError msg code)) ∨
    (Unanswering (ρ.outcome requests) ∧
      ∃ msg, responseOf (ρ.outcome requests) =
        .error (.transientMetronomeError msg)) := by
  cases hout : ρ.outcome requests with
  | ok response => exact .inl ⟨response, rfl⟩
  | undecodable exception msg => exact absurd hout (hdecoded exception msg)
  | connectionError msg => exact .inr (.inr ⟨.inr ⟨msg, .inl rfl⟩, msg, rfl⟩)
  | timeoutError msg => exact .inr (.inr ⟨.inr ⟨msg, .inr (.inl rfl)⟩, msg, rfl⟩)
  | apiError msg => exact .inr (.inr ⟨.inr ⟨msg, .inr (.inr rfl)⟩, msg, rfl⟩)
  | statusError code rateLimitError msg =>
      by_cases hretried : code = 429 ∨ (500 ≤ code ∧ code < 600)
      · obtain ⟨msg', hmsg⟩ := classifyStatusError_transient rateLimitError msg hretried
        exact .inr (.inr ⟨.inl ⟨code, rateLimitError, msg, rfl, hretried⟩, msg',
          congrArg Except.error hmsg⟩)
      · obtain ⟨hne, hrange⟩ := not_or.mp hretried
        have hlimit : rateLimitError = true → code = 429 := fun htrue => by
          subst htrue
          exact hsdk _ _ _ hout
        obtain ⟨msg', code', hmsg⟩ := classifyStatusError_permanent msg hlimit hne hrange
        exact .inr (.inl ⟨⟨code, rateLimitError, msg, rfl, hne, hrange⟩, msg', code',
          congrArg Except.error hmsg⟩)

/-- The answers of a plan that is answered at once. -/
theorem permanent_singleton {request : MetronomeRequest} {outcome : SdkOutcome} :
    Permanent [(request, outcome)] ↔
      (Rejected outcome ∧ ∀ body, request = .createContract body →
        conflict outcome = false) ∨
      Creates request ∧ Unusable outcome := by
  constructor
  · intro h
    cases h with
    | rejected hmem hrejected hcreate =>
        cases List.mem_singleton.mp hmem
        exact .inl ⟨hrejected, hcreate⟩
    | unusable hmem hcreates hunusable =>
        cases List.mem_singleton.mp hmem
        exact .inr ⟨hcreates, hunusable⟩
    | lost hmem hmem' _ =>
        cases List.mem_singleton.mp hmem
        cases List.mem_singleton.mp hmem'
  · rintro (⟨hrejected, hcreate⟩ | ⟨hcreates, hunusable⟩)
    · exact .rejected List.mem_cons_self hrejected hcreate
    · exact .unusable List.mem_cons_self hcreates hunusable

theorem transient_singleton {request : MetronomeRequest} {outcome : SdkOutcome} :
    Transient [(request, outcome)] ↔ Unanswering outcome := by
  simp [Transient]

theorem not_unanswering_of_rejected {outcome : SdkOutcome} (h : Rejected outcome) :
    ¬Unanswering outcome := fun hun => not_rejected_of_unanswering hun h

theorem not_unanswering_ok {response : SdkObject} : ¬Unanswering (.ok response) := by
  rintro (⟨_, _, _, heq, _⟩ | ⟨_, h | h | h⟩)
  · cases heq
  all_goals cases h

theorem not_unusable_of_unanswering {outcome : SdkOutcome} (h : Unanswering outcome) :
    ¬Unusable outcome := by
  rcases h with ⟨_, _, _, rfl, _⟩ | ⟨_, rfl | rfl | rfl⟩
  all_goals rintro (⟨_, h, _⟩ | ⟨_, _, h⟩) <;> cases h

theorem not_unusable_of_id {response : SdkObject} {id : String}
    (h : extractId response = .ok id) :
    ¬Unusable (.ok response) := by
  rintro (⟨_, heq, hnone⟩ | ⟨_, _, heq⟩)
  · cases heq
    exact hnone id h
  · cases heq

theorem not_rejected_ok {response : SdkObject} : ¬Rejected (.ok response) := by
  rintro ⟨_, _, _, heq, _⟩
  cases heq

/-- The answers of an attempt that recovers. -/
theorem permanent_pair {body : ContractRequest} {first second : SdkOutcome}
    (hfirst : conflict first = true) :
    Permanent [(.listContracts body.customerId, second), (.createContract body, first)] ↔
      Rejected second ∨ ∃ response, second = .ok response ∧
        ∀ contract ∈ iterContracts response, ∀ id,
          entryOf contract ≠ (some id, some body.uniquenessKey) := by
  constructor
  · intro h
    cases h with
    | rejected hmem hrejected hcreate =>
        rcases List.mem_cons.mp hmem with heq | hmem
        · cases heq
          exact .inl hrejected
        · cases List.mem_singleton.mp hmem
          rw [hcreate _ rfl] at hfirst
          cases hfirst
    | unusable hmem hcreates hunusable =>
        rcases List.mem_cons.mp hmem with heq | hmem
        · cases heq
          rcases hcreates with ⟨_, h⟩ | ⟨_, h⟩ <;> cases h
        · cases List.mem_singleton.mp hmem
          rcases hunusable with ⟨_, rfl, _⟩ | ⟨_, _, rfl⟩ <;> cases hfirst
    | lost hmem hmem' hnone =>
        rcases List.mem_cons.mp hmem with heq | hmem
        · cases heq
        · cases List.mem_singleton.mp hmem
          rcases List.mem_cons.mp hmem' with heq | hmem'
          · cases heq
            exact .inr ⟨_, rfl, hnone⟩
          · cases List.mem_singleton.mp hmem'
  · rintro (hrejected | ⟨response, rfl, hnone⟩)
    · exact .rejected List.mem_cons_self hrejected fun body h => by cases h
    · exact .lost (List.mem_cons_of_mem _ List.mem_cons_self) List.mem_cons_self hnone

theorem transient_pair {request request' : MetronomeRequest} {first second : SdkOutcome}
    (hfirst : conflict first = true) :
    Transient [(request, second), (request', first)] ↔ Unanswering second := by
  have hnot : ¬Unanswering first := fun h => by
    rw [not_conflict_of_unanswering h] at hfirst
    cases hfirst
  simp [Transient, hnot]

theorem extractId_error {response : SdkObject} {exc : PyExc}
    (h : extractId response = .error exc) :
    ∃ msg code, exc = .permanentMetronomeError msg code := by
  unfold extractId at h
  split at h
  · cases h
  · split at h
    · cases h
    · cases h
      exact ⟨_, _, rfl⟩

/-- The answers to a single creation. -/
theorem createdId_cases (hsdk : RateLimits ρ) {request : MetronomeRequest}
    (hcreates : Creates request) (hconflict : ∀ body, request = .createContract body →
      conflict (ρ.outcome [request]) = false)
    (hdecoded : ∀ exception msg, ρ.outcome [request] ≠ .undecodable exception msg) :
    (∃ id, createdId (ρ.outcome [request]) = .ok id ∧
      ¬Permanent (answers ρ [request]) ∧ ¬Transient (answers ρ [request])) ∨
    (∃ msg code, createdId (ρ.outcome [request]) =
      .error (.permanentMetronomeError msg code) ∧
      Permanent (answers ρ [request]) ∧ ¬Transient (answers ρ [request])) ∨
    (∃ msg, createdId (ρ.outcome [request]) = .error (.transientMetronomeError msg) ∧
      ¬Permanent (answers ρ [request]) ∧ Transient (answers ρ [request])) := by
  simp only [answers, permanent_singleton, transient_singleton]
  rcases responseOf_cases hsdk [request] hdecoded with
    ⟨response, hok⟩ | ⟨hrejected, msg, code, herror⟩ | ⟨hun, msg, herror⟩
  · rw [hok]
    cases hid : extractId response with
    | ok id =>
        refine .inl ⟨id, hid, ?_, not_unanswering_ok⟩
        rintro (⟨h, _⟩ | ⟨_, hunusable⟩)
        · exact not_rejected_ok h
        · exact not_unusable_of_id hid hunusable
    | error exc =>
        obtain ⟨msg, code, rfl⟩ := extractId_error hid
        refine .inr (.inl ⟨msg, code, hid, .inr ⟨hcreates, .inl ⟨response, rfl, ?_⟩⟩,
          not_unanswering_ok⟩)
        intro id h
        rw [hid] at h
        cases h
  · refine .inr (.inl ⟨msg, code, ?_, .inl ⟨hrejected, hconflict⟩,
      not_unanswering_of_rejected hrejected⟩)
    rw [createdId, herror]
    rfl
  · refine .inr (.inr ⟨msg, ?_, ?_, hun⟩)
    · rw [createdId, herror]
      rfl
    · rintro (⟨h, _⟩ | ⟨_, hunusable⟩)
      · exact not_rejected_of_unanswering hun h
      · exact not_unusable_of_unanswering hun hunusable

/-- Either the SDK has decoded the answer or it has not. -/
theorem decoded_or (outcome : SdkOutcome) :
    (∃ exception msg, outcome = .undecodable exception msg) ∨
      ∀ exception msg, outcome ≠ .undecodable exception msg := by
  cases outcome with
  | undecodable exception msg => exact .inl ⟨exception, msg, rfl⟩
  | _ => exact .inr fun _ _ h => by cases h

/-- A plan whose only call is answered with a 2xx that cannot be decoded. -/
theorem not_decoded {call : Call} {exception msg : String}
    (h : call.first ρ = .undecodable exception msg) : ¬Decoded ρ call := by
  intro hdecoded
  have hanswers : (call.request, call.first ρ) ∈
      answers ρ (call.requests (call.first ρ)).reverse := by
    cases call with
    | createContract _ _ _ _ _ request =>
        rw [h]
        exact List.mem_singleton.mpr (congrArg (_, ·) h.symm)
    | _ => exact List.mem_cons_self
  exact hdecoded _ hanswers exception msg h

/-- A plan all of whose calls are answered at once. -/
theorem decoded_of_first {call : Call}
    (hcall : call.requests (call.first ρ) = [call.request])
    (h : ∀ exception msg, call.first ρ ≠ .undecodable exception msg) :
    Decoded ρ call := by
  intro answer hmem
  rw [hcall] at hmem
  cases List.mem_singleton.mp hmem
  exact h

theorem answered_of_createCustomer (hsdk : RateLimits ρ) (c : String)
    (request : CustomerRequest) : Answered ρ (.createCustomer c request) := by
  have hanswer : (Call.createCustomer c request).answer
      (ρ.outcome [.createCustomer request]) (ρ.outcome [.createCustomer request]) =
        ((createdId (ρ.outcome [.createCustomer request])).mapError classifiedError).map
          fun id => ⟨fun now => .insertCustomer ⟨c, id, now⟩,
            .customer ⟨.CREATED, c, id⟩⟩ := by
    simp only [Call.answer]
    cases createdId (ρ.outcome [.createCustomer request]) <;> rfl
  rcases decoded_or (ρ.outcome [.createCustomer request]) with
    ⟨exception, msg, hout⟩ | hdecoded
  · exact .undecodable (hanswer.trans (by rw [hout]; rfl)) (not_decoded hout)
  have hd : Decoded ρ (.createCustomer c request) := decoded_of_first rfl hdecoded
  rcases createdId_cases hsdk (.inl ⟨request, rfl⟩) (fun _ h => by cases h) hdecoded with
    ⟨id, hid, hp, ht⟩ | ⟨msg, code, hid, hp, ht⟩ | ⟨msg, hid, hp, ht⟩
  · exact .recorded (hanswer.trans (by rw [hid]; rfl)) hp ht trivial hd
  · exact .permanent (hanswer.trans (by rw [hid]; rfl)) hp ht trivial hd
  · exact .transient (hanswer.trans (by rw [hid]; rfl)) hp ht trivial hd

/-- The answer to a call that sets a name is permanent if it is a rejection. -/
theorem permanent_setName {customerId name : String} :
    Permanent (answers ρ [.setName customerId name]) ↔
      Rejected (ρ.outcome [.setName customerId name]) := by
  rw [answers, answers, permanent_singleton]
  constructor
  · rintro (⟨h, _⟩ | ⟨⟨_, h⟩ | ⟨_, h⟩, _⟩)
    · exact h
    all_goals cases h
  · exact fun h => .inl ⟨h, fun _ heq => by cases heq⟩

theorem answered_of_rename (hsdk : RateLimits ρ) (row : CustomerMapping)
    (request : CustomerRequest) : Answered ρ (.rename row request) := by
  have htransient :
      Transient (answers ρ [.setName row.metronomeCustomerId request.name]) ↔
        Unanswering (ρ.outcome [.setName row.metronomeCustomerId request.name]) :=
    transient_singleton
  rcases decoded_or (ρ.outcome [.setName row.metronomeCustomerId request.name]) with
    ⟨exception, msg, hout⟩ | hdecoded
  · have hfirst : (Call.rename row request).first ρ = .undecodable exception msg := hout
    exact .undecodable (by rw [hfirst]; rfl) (not_decoded hfirst)
  have hd : Decoded ρ (.rename row request) := decoded_of_first rfl hdecoded
  rcases responseOf_cases hsdk [.setName row.metronomeCustomerId request.name]
    hdecoded with
    ⟨response, hok⟩ | ⟨hrejected, msg, code, herror⟩ | ⟨hun, msg, herror⟩
  · refine .recorded (by simp only [Call.answer, Call.first, Call.request, hok]; rfl)
      (fun h => ?_) (fun h => ?_) trivial hd
    · have hrejected := permanent_setName.mp h
      rw [hok] at hrejected
      exact not_rejected_ok hrejected
    · have hun := htransient.mp h
      rw [hok] at hun
      exact not_unanswering_ok hun
  · exact .permanent
      (by simp only [Call.answer, Call.first, Call.request, herror]; rfl)
      (permanent_setName.mpr hrejected)
      (fun h => not_unanswering_of_rejected hrejected (htransient.mp h)) trivial hd
  · exact .transient
      (by simp only [Call.answer, Call.first, Call.request, herror]; rfl)
      (fun h => not_rejected_of_unanswering hun (permanent_setName.mp h))
      (htransient.mpr hun) trivial hd

section Contract

variable {sub c price : String} {tier : Tier} {customer : CustomerMapping}
  {request : ContractRequest}

theorem answered_of_created (hsdk : RateLimits ρ)
    (hfirst : conflict (ρ.outcome [.createContract request]) = false) :
    Answered ρ (.createContract sub c price tier customer request) := by
  have hrequests : (Call.requests (ρ.outcome [.createContract request])
      (.createContract sub c price tier customer request)).reverse =
        [.createContract request] := by
    simp only [Call.requests, hfirst, Bool.false_eq_true, if_false]
    rfl
  have hfound : Found ρ (.createContract sub c price tier customer request) :=
    fun _ h => by
      rw [hfirst] at h
      cases h
  have hanswer : ∀ second, Call.answer (ρ.outcome [.createContract request]) second
      (.createContract sub c price tier customer request) =
        ((createdId (ρ.outcome [.createContract request])).mapError classifiedError).map
          fun id => Call.recordContract sub c price tier customer ⟨id, false⟩ :=
            fun second => by
    simp only [Call.answer, obtainedContract, hfirst, Bool.false_eq_true, if_false]
    cases createdId (ρ.outcome [.createContract request]) <;> rfl
  rcases decoded_or (ρ.outcome [.createContract request]) with
    ⟨exception, msg, hout⟩ | hdecoded
  · exact .undecodable ((hanswer _).trans (by rw [hout]; rfl)) (not_decoded hout)
  have hd : Decoded ρ (.createContract sub c price tier customer request) :=
    decoded_of_first (List.reverse_injective hrequests) hdecoded
  rcases createdId_cases hsdk (.inr ⟨request, rfl⟩)
    (fun _ h => by cases h; exact hfirst) hdecoded with
    ⟨id, hid, hp, ht⟩ | ⟨msg, code, hid, hp, ht⟩ | ⟨msg, hid, hp, ht⟩
  · rw [← hrequests] at hp ht
    exact .recorded ((hanswer _).trans (by rw [hid]; rfl)) hp ht hfound hd
  · rw [← hrequests] at hp ht
    exact .permanent ((hanswer _).trans (by rw [hid]; rfl)) hp ht hfound hd
  · rw [← hrequests] at hp ht
    exact .transient ((hanswer _).trans (by rw [hid]; rfl)) hp ht hfound hd

/-! ### After a conflict -/

/-- The outcome of the recovery lookup. -/
def listed (ρ : Surroundings) (request : ContractRequest) : SdkOutcome :=
  ρ.outcome [.listContracts request.customerId, .createContract request]

/-- The two answers of an attempt that recovers. -/
theorem answers_of_conflict
    (hfirst : conflict (ρ.outcome [.createContract request]) = true) :
    answers ρ (Call.requests (ρ.outcome [.createContract request])
      (.createContract sub c price tier customer request)).reverse =
        [(.listContracts request.customerId, listed ρ request),
          (.createContract request, ρ.outcome [.createContract request])] := by
  simp only [Call.requests, hfirst, if_true]
  rfl

theorem permanent_of_conflict
    (hfirst : conflict (ρ.outcome [.createContract request]) = true) :
    Permanent (answers ρ (Call.requests (ρ.outcome [.createContract request])
      (.createContract sub c price tier customer request)).reverse) ↔
      Rejected (listed ρ request) ∨ ∃ response, listed ρ request = .ok response ∧
        ∀ contract ∈ iterContracts response, ∀ id,
          entryOf contract ≠ (some id, some request.uniquenessKey) := by
  rw [answers_of_conflict hfirst]
  exact permanent_pair hfirst

theorem transient_of_conflict
    (hfirst : conflict (ρ.outcome [.createContract request]) = true) :
    Transient (answers ρ (Call.requests (ρ.outcome [.createContract request])
      (.createContract sub c price tier customer request)).reverse) ↔
      Unanswering (listed ρ request) := by
  rw [answers_of_conflict hfirst]
  exact transient_pair hfirst

/-- What an attempt that recovers records is in the answer to the lookup. -/
theorem answer_of_conflict
    (hfirst : conflict (ρ.outcome [.createContract request]) = true) :
    Call.answer (ρ.outcome [.createContract request]) (listed ρ request)
      (.createContract sub c price tier customer request) =
        ((recoveredId request (listed ρ request)).mapError classifiedError).map
          fun id => Call.recordContract sub c price tier customer ⟨id, true⟩ := by
  simp only [Call.answer, obtainedContract, hfirst, if_true]
  cases recoveredId request (listed ρ request) <;> rfl

/-- A 409 has been decoded, so the lookup is what matters. -/
theorem decoded_of_conflict
    (hfirst : conflict (ρ.outcome [.createContract request]) = true)
    (hdecoded : ∀ exception msg, listed ρ request ≠ .undecodable exception msg) :
    Decoded ρ (.createContract sub c price tier customer request) := by
  intro answer hmem
  simp only [Call.first, Call.request] at hmem
  rw [answers_of_conflict hfirst] at hmem
  rcases List.mem_cons.mp hmem with rfl | hmem
  · exact hdecoded
  · cases List.mem_singleton.mp hmem
    intro exception msg hout
    have hout : ρ.outcome [.createContract request] = .undecodable exception msg := hout
    rw [hout] at hfirst
    cases hfirst

/-- Nothing is promised about a lookup that has not been answered. -/
theorem found_of_unlisted (h : ∀ response, listed ρ request ≠ .ok response) :
    Found ρ (.createContract sub c price tier customer request) :=
  fun response _ hok => absurd hok (h response)

/-- The lookup has been answered: the list has an entry with the key, or not. -/
theorem answered_of_listed {response : SdkObject}
    (hfirst : conflict (ρ.outcome [.createContract request]) = true)
    (hok : listed ρ request = .ok response) :
    Answered ρ (.createContract sub c price tier customer request) := by
  have hanswer := @answer_of_conflict ρ sub c price tier customer request hfirst
  have ht : ¬Unanswering (listed ρ request) := by
    rw [hok]
    exact not_unanswering_ok
  cases hmatch : matchContract request.uniquenessKey (iterContracts response) with
  | some contractId =>
      obtain ⟨contract, hmem, hentry⟩ := matchContract_eq_some hmatch
      refine .recorded (hanswer.trans (by rw [hok, recoveredId_of_match hmatch]; rfl))
        (fun h => ?_) (fun h => ht ((transient_of_conflict hfirst).mp h))
        (fun response' _ hok' => ?_)
        (decoded_of_conflict hfirst fun _ _ h => by rw [hok] at h; cases h)
      · rcases (permanent_of_conflict hfirst).mp h with
          hrejected | ⟨response', hok', hnone⟩
        · rw [hok] at hrejected
          exact not_rejected_ok hrejected
        · cases hok.symm.trans hok'
          exact hnone contract hmem contractId hentry
      · cases hok.symm.trans hok'
        exact ⟨contract, hmem, contractId, hentry⟩
  | none =>
      have hnone := matchContract_eq_none hmatch
      refine .lost (hanswer.trans (by rw [hok, recoveredId_of_no_match hmatch]; rfl))
        ((permanent_of_conflict hfirst).mpr (.inr ⟨response, hok, hnone⟩))
        (fun h => ht ((transient_of_conflict hfirst).mp h)) fun hfound => ?_
      obtain ⟨contract, hmem, id, hentry⟩ := hfound response hfirst hok
      exact hnone contract hmem id hentry

theorem answered_of_conflict (hsdk : RateLimits ρ)
    (hfirst : conflict (ρ.outcome [.createContract request]) = true) :
    Answered ρ (.createContract sub c price tier customer request) := by
  have hanswer := @answer_of_conflict ρ sub c price tier customer request hfirst
  rcases decoded_or (listed ρ request) with ⟨exception, msg, hout⟩ | hdecoded
  · refine .undecodable (hanswer.trans (by rw [hout]; rfl)) fun hdecoded => ?_
    exact hdecoded _ (answers_of_conflict hfirst ▸ List.mem_cons_self) exception msg hout
  have hd := @decoded_of_conflict ρ sub c price tier customer request hfirst hdecoded
  rcases responseOf_cases hsdk [.listContracts request.customerId,
    .createContract request] hdecoded with
    ⟨response, hok⟩ | ⟨hrejected, msg, code, herror⟩ | ⟨hun, msg, herror⟩
  · exact answered_of_listed hfirst hok
  · have hid : recoveredId request (listed ρ request) =
        .error (.permanentMetronomeError msg code) := by
      rw [recoveredId, listed, herror]
      rfl
    refine .permanent (hanswer.trans (by rw [hid]; rfl))
      ((permanent_of_conflict hfirst).mpr (.inl hrejected))
      (fun h => not_unanswering_of_rejected hrejected
        ((transient_of_conflict hfirst).mp h))
      (found_of_unlisted fun response hok => ?_) hd
    rw [← listed, hok] at herror
    cases herror
  · have hid : recoveredId request (listed ρ request) =
        .error (.transientMetronomeError msg) := by
      rw [recoveredId, listed, herror]
      rfl
    refine .transient (hanswer.trans (by rw [hid]; rfl)) (fun h => ?_)
      ((transient_of_conflict hfirst).mpr hun)
      (found_of_unlisted fun response hok => ?_) hd
    · rcases (permanent_of_conflict hfirst).mp h with hrejected | ⟨response, hok, _⟩
      · exact not_rejected_of_unanswering hun hrejected
      · rw [← listed, hok] at hun
        exact not_unanswering_ok hun
    · rw [← listed, hok] at herror
      cases herror

end Contract

/-- **What the answers to a plan come to.** -/
theorem answered_of_call (hsdk : RateLimits ρ) (call : Call) : Answered ρ call := by
  cases call with
  | createCustomer c request => exact answered_of_createCustomer hsdk c request
  | rename row request => exact answered_of_rename hsdk row request
  | createContract sub c price tier customer request =>
      cases hfirst : conflict (ρ.outcome [.createContract request]) with
      | false => exact answered_of_created hsdk hfirst
      | true => exact answered_of_conflict hsdk hfirst

/-! ## Attempts that call Metronome -/

/-- The next attempt, if there is one, has a date: the power is a float, and
what is drawn can be written down. -/
def Datable (settings : Settings) (ρ : Surroundings) (row : WebhookEvent) : Prop :=
  row.attempts + 1 < settings.workerMaxAttempts →
    row.attempts + 1 ≤ 1024 ∧ ∀ hi, drawBound settings (row.attempts + 1) = .ok hi →
      fits (ρ.clock []) (ρ.draw hi) = true

/-- The answers to the calls of an attempt decide how it ends. -/
structure ClassifiedAsDocumented (settings : Settings) (tiers : TierTable)
    (ρ : Surroundings) (row : WebhookEvent) : Prop where
  permanentFailure : FailedPermanently (ρ.attempt settings tiers row) ↔
    Permanent (answers ρ (calls (ρ.attempt settings tiers row).1))
  retry : Rescheduled settings row (ρ.attempt settings tiers row) ↔
    Transient (answers ρ (calls (ρ.attempt settings tiers row).1))
  processed : ¬Permanent (answers ρ (calls (ρ.attempt settings tiers row).1)) →
    ¬Transient (answers ρ (calls (ρ.attempt settings tiers row).1)) →
    (ρ.attempt settings tiers row).1.poisoned = false →
    Processed (ρ.attempt settings tiers row)
  /-- What reaches the worker, unless the database has refused the row. -/
  raised : ∀ handler exc, handlerOf row = some handler →
    (ρ.attempt settings tiers row).1.poisoned = false →
    (ρ.play (handler.run settings tiers row.payload) (begun row)).2 = .error exc →
    (∃ msg, exc = .permanentHandlerError msg) ∨ ∃ msg, exc = .retryableHandlerError msg

theorem not_permanent_of_rescheduled {run : Session × Except PyExc Unit}
    (h : Rescheduled settings row run) : ¬FailedPermanently run := by
  rintro ⟨_, hfailed, reason, herror⟩
  rcases h.2 with ⟨_, hpending⟩ | ⟨_, _, reason', herror'⟩
  · rw [hpending] at hfailed
    cases hfailed
  · rw [herror] at herror'
    exact Lifecycle.permanent_ne_exhausted reason reason' (Option.some.inj herror')

theorem not_rescheduled_of_processed {run : Session × Except PyExc Unit}
    (h : Processed run) : ¬Rescheduled settings row run := by
  rintro ⟨_, ⟨_, hpending⟩ | ⟨_, hfailed, _⟩⟩
  · rw [h.2] at hpending
    cases hpending
  · rw [h.2] at hfailed
    cases hfailed

theorem not_permanent_of_processed {run : Session × Except PyExc Unit}
    (h : Processed run) : ¬FailedPermanently run := by
  rintro ⟨_, hfailed, _⟩
  rw [h.2] at hfailed
  cases hfailed

/-- A failure that is not permanent is rescheduled exactly if the next attempt
has a date. -/
theorem rescheduled_iff {work : Work} {exc : PyExc}
    (h : decidedWork ρ (decision settings tiers ρ row) = (work, .error exc))
    (hexc : Unclassified exc) (hp : work.poisoned = false) :
    ¬FailedPermanently (ρ.attempt settings tiers row) ∧
    (Rescheduled settings row (ρ.attempt settings tiers row) ↔
      Datable settings ρ row) := by
  rcases attempt_of_transient h hexc hp with
    ⟨hmax, s, reason, heq, hs, hevent⟩ | ⟨hmax,
      ⟨next, s, reason, hnext, heq, hs, hevent⟩ |
      ⟨exc', s, hnext, heq, hs⟩⟩
  · have hrescheduled : Rescheduled settings row (s, .ok ()) :=
      ⟨rfl, .inr ⟨hmax, by rw [hevent]; rfl, reason, by rw [hevent]; rfl⟩⟩
    rw [heq]
    exact ⟨not_permanent_of_rescheduled hrescheduled,
      fun _ hlt => absurd hmax (not_le.mpr hlt), fun _ => hrescheduled⟩
  · have hrescheduled : Rescheduled settings row (s, .ok ()) :=
      ⟨rfl, .inl ⟨hmax, by rw [hevent]; rfl⟩⟩
    rw [heq]
    exact ⟨not_permanent_of_rescheduled hrescheduled,
      fun _ _ => retryAt_ok_iff.mp ⟨next, hnext⟩, fun _ => hrescheduled⟩
  · rw [heq]
    refine ⟨fun hfailed => ?_, fun hrescheduled => ?_, fun hdate => ?_⟩
    · cases hfailed.1
    · cases hrescheduled.1
    · obtain ⟨next, hok⟩ := retryAt_ok_iff.mpr (hdate hmax)
      rw [hnext] at hok
      cases hok

/-- What a handler raises, its decision having been carried out. -/
theorem raised_of_work {handler : Handler} {work : Work} {x : Except PyExc Unit}
    (hh : handlerOf row = some handler)
    (h : decidedWork ρ (decision settings tiers ρ row) = (work, x)) :
    (ρ.play (handler.run settings tiers row.payload) (begun row)).2 = x := by
  obtain ⟨s, hplay, _⟩ := @play_run settings tiers ρ row handler
  rw [hplay, ← decision_eq hh, h]

/-- The call of an attempt that calls Metronome. -/
theorem planned_of_made (hmade : made settings tiers ρ row ≠ []) :
    ∃ handler call, handlerOf row = some handler ∧
      Planned settings tiers ρ row.payload handler call ∧
      decision settings tiers ρ row = .ok (.act call) := by
  rw [made_eq] at hmade
  split at hmade
  · next call hdecision =>
      cases hh : handlerOf row with
      | none =>
          rw [decision, hh] at hdecision
          cases hdecision
      | some handler =>
          have hplanned := plan_eq_act_iff.mp ((decision_eq hh).symm.trans hdecision)
          exact ⟨handler, call, rfl, hplanned, hdecision⟩
  · exact absurd rfl hmade

/-- An attempt whose calls have been answered, and whose row is written unless
the database refuses it. -/
theorem classified_of_recorded {call : Call} {recorded : Recorded}
    (hdecision : decision settings tiers ρ row = .ok (.act call))
    (hanswer : call.answer (call.first ρ) (call.second ρ) = .ok recorded)
    (hp : ¬Permanent (answers ρ (calls (ρ.attempt settings tiers row).1)))
    (ht : ¬Transient (answers ρ (calls (ρ.attempt settings tiers row).1))) :
    ClassifiedAsDocumented settings tiers ρ row := by
  have hwork : decidedWork ρ (decision settings tiers ρ row) =
      storedWork ρ (call.requests (call.first ρ)).reverse (.ok recorded) := by
    rw [hdecision, ← hanswer]
    rfl
  rcases attempt_of_answer hdecision hanswer with
    ⟨hrefused, s, heq, _⟩ | ⟨hstored, s, heq, _, _, _, _, hevent⟩
  · obtain ⟨constraint, hconstraint⟩ := Option.ne_none_iff_exists'.mp hrefused
    have hpoisoned : (ρ.attempt settings tiers row).1.poisoned = true := by
      have hflag := congrArg Work.poisoned (@attempt_work settings tiers ρ row).1
      rw [hwork] at hflag
      simp only [storedWork, hconstraint] at hflag
      exact hflag
    have hended : (ρ.attempt settings tiers row).2 ≠ .ok () := by
      rw [heq]
      exact fun h => by cases h
    exact {
      permanentFailure := ⟨fun h => absurd h.1 hended, fun h => absurd h hp⟩
      retry := ⟨fun h => absurd h.1 hended, fun h => absurd h ht⟩
      processed := fun _ _ h => by rw [hpoisoned] at h; cases h
      raised := fun _ _ _ h => by rw [hpoisoned] at h; cases h }
  · have hprocessed : Processed (ρ.attempt settings tiers row) := by
      rw [heq]
      exact ⟨rfl, by rw [hevent]; rfl⟩
    exact {
      permanentFailure := ⟨fun h => absurd h (not_permanent_of_processed hprocessed),
        fun h => absurd h hp⟩
      retry := ⟨fun h => absurd h (not_rescheduled_of_processed hprocessed),
        fun h => absurd h ht⟩
      processed := fun _ _ _ => hprocessed
      raised := fun handler exc hh _ hexc => by
        have hreturned := raised_of_work hh hwork
        simp only [hstored] at hreturned
        cases hreturned.symm.trans hexc }

/-- The answers to one planned call, against the way the attempt ends. -/
theorem classified_iff {handler : Handler} {call : Call} (hsdk : RateLimits ρ)
    (hh : handlerOf row = some handler)
    (hplanned : Planned settings tiers ρ row.payload handler call) :
    ClassifiedAsDocumented settings tiers ρ row ↔
      Found ρ call ∧ Decoded ρ call ∧
        (Transient (answers ρ (call.requests (call.first ρ)).reverse) →
          Datable settings ρ row) := by
  have hdecision : decision settings tiers ρ row = .ok (.act call) :=
    (decision_eq hh).trans (plan_eq_act_iff.mpr hplanned)
  have hcalls : calls (ρ.attempt settings tiers row).1 =
      (call.requests (call.first ρ)).reverse := by
    rw [← made_of_planned hh hplanned, made, List.reverse_reverse]
  have hwork : decidedWork ρ (decision settings tiers ρ row) = storedWork ρ
      (call.requests (call.first ρ)).reverse
        (call.answer (call.first ρ) (call.second ρ)) := by
    rw [hdecision]
    rfl
  cases answered_of_call hsdk call with
  | @permanent msg hanswer hp ht hfound hdecoded =>
      rw [hanswer] at hwork
      rw [← hcalls] at hp ht ⊢
      obtain ⟨s, heq, hs, hevent⟩ := attempt_of_permanent hwork
      have hfailed : FailedPermanently (ρ.attempt settings tiers row) := by
        rw [heq]
        exact ⟨rfl, by rw [hevent]; rfl, msg, by rw [hevent]; rfl⟩
      refine ⟨fun _ => ⟨hfound, hdecoded, fun h => absurd h ht⟩, fun _ => ?_⟩
      exact {
        permanentFailure := ⟨fun _ => hp, fun _ => hfailed⟩
        retry := ⟨fun h => absurd hfailed (not_permanent_of_rescheduled h),
          fun h => absurd h ht⟩
        processed := fun h => absurd hp h
        raised := fun _ _ hh' _ hexc => by
          cases (raised_of_work hh' hwork).symm.trans hexc
          exact .inl ⟨msg, rfl⟩ }
  | @transient msg hanswer hp ht hfound hdecoded =>
      rw [hanswer] at hwork
      rw [← hcalls] at hp ht ⊢
      obtain ⟨hnot, hiff⟩ := rescheduled_iff hwork (fun _ h => by cases h) rfl
      refine ⟨fun h => ⟨hfound, hdecoded, fun _ => hiff.mp (h.retry.mpr ht)⟩, fun h => ?_⟩
      exact {
        permanentFailure := ⟨fun h => absurd h hnot, fun h => absurd h hp⟩
        retry := ⟨fun _ => ht, fun _ => hiff.mpr (h.2.2 ht)⟩
        processed := fun _ h => absurd ht h
        raised := fun _ _ hh' _ hexc => by
          cases (raised_of_work hh' hwork).symm.trans hexc
          exact .inr ⟨msg, rfl⟩ }
  | lost hanswer hp ht hfound =>
      -- The handler lets the exception through, and the worker retries.
      rw [hanswer] at hwork
      rw [← hcalls] at hp
      obtain ⟨hnot, _⟩ := rescheduled_iff hwork (fun _ h => by cases h) rfl
      exact ⟨fun h => absurd (h.permanentFailure.mpr hp) hnot, fun h => absurd h.1 hfound⟩
  | undecodable hanswer hundecoded =>
      -- So it does with an exception that is not one of the SDK's.
      rw [hanswer] at hwork
      have hpoisoned : (ρ.attempt settings tiers row).1.poisoned = false := by
        have hflag := congrArg Work.poisoned (@attempt_work settings tiers ρ row).1
        rw [hwork] at hflag
        exact hflag
      refine ⟨fun h => ?_, fun h => absurd h.2.1 hundecoded⟩
      rcases h.raised handler _ hh hpoisoned (raised_of_work hh hwork) with
        ⟨_, heq⟩ | ⟨_, heq⟩
      all_goals cases heq
  | recorded hanswer hp ht hfound hdecoded =>
      rw [← hcalls] at hp ht ⊢
      exact ⟨fun _ => ⟨hfound, hdecoded, fun h => absurd h ht⟩,
        fun _ => classified_of_recorded hdecision hanswer hp ht⟩

/-- **Metronome outcomes are classified as documented**, unless the recovery
lookup finds no contract, the SDK cannot decode a 2xx, or the date of the next
attempt does not exist. -/
theorem outcomes_classified (hsdk : RateLimits ρ)
    (hmade : made settings tiers ρ row ≠ []) :
    ClassifiedAsDocumented settings tiers ρ row ↔
      ∀ handler call, handlerOf row = some handler →
        Planned settings tiers ρ row.payload handler call →
        Found ρ call ∧ Decoded ρ call ∧
          (Transient (answers ρ (call.requests (call.first ρ)).reverse) →
            Datable settings ρ row) := by
  constructor
  · intro h handler call hh hplanned
    exact (classified_iff hsdk hh hplanned).mp h
  · intro h
    obtain ⟨handler, call, hh, hplanned, _⟩ := planned_of_made hmade
    exact (classified_iff hsdk hh hplanned).mpr (h handler call hh hplanned)

theorem not_classified_of_pending
    (hpending : (ρ.attempt settings tiers row).1.event.status = .PENDING)
    (hp : Permanent (answers ρ (calls (ρ.attempt settings tiers row).1))) :
    ¬ClassifiedAsDocumented settings tiers ρ row := by
  intro h
  obtain ⟨_, hfailed, _⟩ := h.permanentFailure.mpr hp
  rw [hpending] at hfailed
  cases hfailed

end Answers

/-- Metronome answers a conflict, and then lists no contract. -/
def lostAda : Surroundings :=
  ofDb mappedAda true (fun requests => if requests.length = 1 then
      .statusError 409 false "conflict" else .ok (.dict [("data", .list [])]))
    (fun _ => 5) (fun hi => hi)

/-- Metronome answers 2xx with an empty body. -/
def emptyAda : Surroundings :=
  ofDb mappedAda true
    (fun _ => .undecodable "JSONDecodeError" "Expecting value: line 1 column 1 (char 0)")
    (fun _ => 5) (fun hi => hi)

/-- The recovery lookup finds nothing, or the SDK cannot decode the answer: the
worker retries. -/
theorem outcomes_classified_lostAda :
    ((lostAda.attempt defaultSettings TIERS subscribedEvent).1.event.status = .PENDING ∧
      ¬ClassifiedAsDocumented defaultSettings TIERS lostAda subscribedEvent) ∧
    (emptyAda.attempt defaultSettings TIERS subscribedEvent).1.event.status = .PENDING ∧
      ¬ClassifiedAsDocumented defaultSettings TIERS emptyAda subscribedEvent := by
  have hpending : (lostAda.attempt defaultSettings TIERS subscribedEvent).1.event.status =
      .PENDING := by decide +kernel
  have hpending' :
    (emptyAda.attempt defaultSettings TIERS subscribedEvent).1.event.status =
      .PENDING := by decide +kernel
  have hplanned : ∀ ρ ∈ [lostAda, emptyAda], ∃ request, Planned defaultSettings TIERS ρ
      subscribedEvent.payload .subscriptionCreated (.createContract "sub_1" "cus_1"
        "price_REPLACE_ME_startup" startupTier ⟨"cus_1", "m1", 0⟩ request) := by
    simp only [List.forall_mem_cons, List.not_mem_nil, false_implies,
      implies_true, and_true]
    exact ⟨⟨_, .createContract rfl rfl rfl ⟨rfl, rfl, rfl, rfl, rfl⟩⟩,
      _, .createContract rfl rfl rfl ⟨rfl, rfl, rfl, rfl, rfl⟩⟩
  refine ⟨⟨hpending, not_classified_of_pending hpending ?_⟩,
    hpending', not_classified_of_pending hpending' ?_⟩
  · obtain ⟨request, hplanned⟩ := hplanned lostAda (by simp)
    have hcalls : calls (lostAda.attempt defaultSettings TIERS subscribedEvent).1 =
        [.listContracts request.customerId, .createContract request] :=
      List.reverse_injective (made_of_planned rfl hplanned)
    have hnone : ∀ contract ∈ iterContracts (.dict [("data", .list [])]), ∀ id,
        entryOf contract ≠ (some id, some request.uniquenessKey) := fun contract hmem =>
      (List.not_mem_nil (a := contract) hmem).elim
    exact hcalls ▸ .lost (List.mem_cons_of_mem _ List.mem_cons_self)
      List.mem_cons_self hnone
  · obtain ⟨request, hplanned⟩ := hplanned emptyAda (by simp)
    have hcalls : calls (emptyAda.attempt defaultSettings TIERS subscribedEvent).1 =
        [.createContract request] := List.reverse_injective (made_of_planned rfl hplanned)
    exact hcalls ▸ .unusable List.mem_cons_self (.inr ⟨request, rfl⟩) (.inr ⟨_, _, rfl⟩)

theorem outcomes_classified_unavailable :
    ClassifiedAsDocumented defaultSettings TIERS
      (ofDb mappedAda true (fun _ => .statusError 503 false "unavailable") (fun _ => 5)
        (fun hi => hi)) subscribedEvent := by
  refine (outcomes_classified ?_ (by decide +kernel)).mpr
    fun _ call _ _ => ⟨?_, fun answer hmem exception msg heq => ?_, fun _ _ => ?_⟩
  · intro _ _ _ h
    cases h
  · cases call with
    | createContract => exact fun _ h => by cases h
    | _ => trivial
  · have hall : ∀ requests, ∀ answer ∈ answers (ofDb mappedAda true
        (fun _ => .statusError 503 false "unavailable") (fun _ => 5)
        (fun hi => hi)) requests,
        answer.2 = .statusError 503 false "unavailable" := by
      intro requests
      induction requests with
      | nil => exact fun _ h => by cases h
      | cons request requests ih =>
          intro answer hmem
          rcases List.mem_cons.mp hmem with rfl | hmem
          · rfl
          · exact ih answer hmem
    rw [hall _ answer hmem] at heq
    cases heq
  · refine ⟨by decide, fun hi hbound => ?_⟩
    have hfits : (match drawBound defaultSettings 1 with
        | .ok hi => fits 5 hi
        | .error _ => true) = true := by decide +kernel
    rw [show drawBound defaultSettings 1 = .ok hi from hbound] at hfits
    exact hfits

end Sidecar.Ports.Classification
