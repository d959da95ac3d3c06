import Sidecar.Ports.FailedAttempts

/-!
# What an attempt looks up

An attempt looks rows up at most twice, and what it looks up next depends on
its event and on what it has found.  After that it asks Metronome and the
database takes its row; no later request is a lookup.

## Main results

* `make_eq` — the calls of a plan: the first one, and another after a conflict.
* `reads_of_runs` — the rows that an attempt has read, wherever it has got.
-/

namespace Sidecar.Ports.Lookups

open Sidecar.Verified.Resumption
open Sidecar.Ports.Python
open Sidecar.Ports.Config
open Sidecar.Ports.Mappers hiding requireStr
open Sidecar.Ports.Models
open Sidecar.Ports.Effects
open Sidecar.Ports.MetronomeClient
open Sidecar.Ports.Handlers
open Sidecar.Ports.Worker
open Sidecar.Ports.Attempt
open Sidecar.Ports.Execution
open Sidecar.Ports.Plans
open Sidecar.Ports.Outcomes

/-! ## The calls of a plan -/

/-- Sending and receiving do not raise, so the `except` clauses move past
them. -/
theorem classified_sdkCall {α : Type} (request : MetronomeRequest)
    (f : SdkOutcome → Effect α) :
    classified (sdkCall request >>= f) =
      sdkCall request >>= fun outcome => classified (f outcome) := rfl

/-- Without effects, the `except` clauses are a map on exceptions. -/
theorem classified_ofExcept {α : Type} (x : Except PyExc α) :
    classified (.ofExcept x) = .ofExcept (x.mapError classifiedError) := by
  rcases x with exc | a
  · cases exc <;> rfl
  · rfl

/-- The call that follows the first one, if there is one. -/
def askAgain (first : SdkOutcome) : Call → Effect SdkOutcome
  | .createContract _ _ _ _ _ request =>
      if conflict first then sdkCall (.listContracts request.customerId) else return first
  | _ => return first

/-- `create_customer` is one call, then a pure function of its outcome. -/
theorem createCustomer_eq (request : CustomerRequest) :
    MetronomeClient.createCustomer request = sdkCall (.createCustomer request) >>=
      fun outcome =>
      .ofExcept (do return ⟨← createdId outcome⟩) := by
  refine congrArg (sdkCall (.createCustomer request) >>= ·) (funext fun outcome => ?_)
  unfold createdId
  cases responseOf outcome with
  | error exc => rfl
  | ok response =>
      show (Prog.ofExcept (extractId response) >>= fun a => pure _) =
        Prog.ofExcept (extractId response >>= fun a => pure _)
      cases extractId response <;> rfl

/-- So is `set_customer_name`, -/
theorem setCustomerName_eq (customerId name : String) :
    setCustomerName customerId name = sdkCall (.setName customerId name) >>=
      fun outcome =>
      .ofExcept (do let _ ← responseOf outcome) := by
  refine congrArg (sdkCall (.setName customerId name) >>= ·) (funext fun outcome => ?_)
  cases responseOf outcome <;> rfl

/-- so is `find_contract_by_uniqueness_key`, -/
theorem findContract_eq (request : ContractRequest) :
    findContractByUniquenessKey request.customerId request.uniquenessKey =
      sdkCall (.listContracts request.customerId) >>= fun outcome =>
        .ofExcept (recoveredId request outcome) := by
  refine congrArg (sdkCall (.listContracts request.customerId) >>= ·)
    (funext fun outcome => ?_)
  cases outcome with
  | ok response =>
      simp only [responseOf, ofExcept_ok, pure_bind]
      cases hmatch : matchContract request.uniquenessKey (iterContracts response) with
      | some id => rw [recoveredId_of_match hmatch]; rfl
      | none => rw [recoveredId_of_no_match hmatch]; rfl
  | _ => rfl

/-- and `create_contract` is two calls when the first ends in a conflict. -/
theorem createContract_eq (request : ContractRequest) :
    MetronomeClient.createContract request = sdkCall (.createContract request) >>=
      fun first =>
      (if conflict first then sdkCall (.listContracts request.customerId) else
        return first) >>=
        fun second => .ofExcept (obtainedContract request first second) := by
  refine congrArg (sdkCall (.createContract request) >>= ·) (funext fun first => ?_)
  unfold obtainedContract
  cases first with
  | statusError code rateLimitError msg =>
      by_cases hcode : code = 409
      · simp only [conflict, hcode, decide_true, if_true, findContract_eq, bind_assoc]
        refine congrArg (sdkCall (.listContracts request.customerId) >>= ·)
          (funext fun second => ?_)
        cases recoveredId request second <;> rfl
      · simp only [conflict, hcode, decide_false, if_false]
        rfl
  | ok response =>
      show (Prog.ofExcept (extractId response) >>= fun id => pure _) =
        Prog.ofExcept (extractId response >>= fun id => pure _)
      cases extractId response <;> rfl
  | connectionError msg | timeoutError msg | apiError msg | undecodable _ msg => rfl

/-- The operations in one form: a call, perhaps a second one, then the answer.
-/
theorem make_eq (call : Call) :
    call.make = sdkCall call.request >>= fun first =>
      askAgain first call >>= fun second => .ofExcept (call.answer first second) := by
  cases call with
  | createCustomer c request =>
      simp only [Call.make, createCustomer_eq, classified_sdkCall,
        classified_ofExcept, bind_assoc]
      refine congrArg (sdkCall (.createCustomer request) >>= ·) (funext fun first => ?_)
      simp only [askAgain, pure_bind, Call.answer]
      cases createdId first <;> rfl
  | rename row request =>
      simp only [Call.make, setCustomerName_eq, classified_sdkCall,
        classified_ofExcept, bind_assoc]
      refine congrArg (sdkCall (.setName row.metronomeCustomerId request.name) >>= ·)
        (funext fun first => ?_)
      simp only [askAgain, pure_bind, Call.answer]
      cases responseOf first <;> rfl
  | createContract sub c price tier customer request =>
      simp only [Call.make, createContract_eq, classified_sdkCall, bind_assoc]
      refine congrArg (sdkCall (.createContract request) >>= ·) (funext fun first => ?_)
      simp only [askAgain, Call.answer]
      cases conflict first with
      | true =>
          simp only [if_true, classified_sdkCall, classified_ofExcept, bind_assoc]
          refine congrArg (sdkCall (.listContracts request.customerId) >>= ·)
            (funext fun second => ?_)
          cases obtainedContract request first second <;> rfl
      | false =>
          simp only [Bool.false_eq_true, if_false, pure_bind, classified_ofExcept]
          cases obtainedContract request first first <;> rfl

section Asking

variable {s s' : Session} {call : Call} {first second : SdkOutcome}

/-- The calls of a plan have been made since `s`. -/
structure Asked (call : Call) (first : SdkOutcome) (s s' : Session) : Prop where
  fields : s' = { s with journal := s'.journal }
  calls : calls s' = (call.requests first).reverse ++ calls s

/-- Calls leave the row and the pending writes alone. -/
theorem Asked.blank {row : WebhookEvent} (h : Asked call first s s') (hs : Blank row s) :
    Blank row s' := by
  rw [h.fields]
  exact ⟨hs.loaded, hs.event, hs.pending, hs.flushed, hs.poisoned, hs.result⟩

/-- The rule for an operation. -/
theorem always_make {J : Session → Node Op PyExc Recorded → Prop}
    (hsend : ∀ s request, J s (.perform (.send request)))
    (hrecv : ∀ s ticket request, J s (.perform (.recv ticket request)))
    (hend : ∀ s' first second, Asked call first s s' →
      J s' (ending (call.answer first second))) : Always semantics J call.make s := by
  have hanswer : ∀ s' first second, Asked call first s s' →
      Always semantics J (.ofExcept (call.answer first second)) s' := by
    intro s' first second hasked
    have hend := hend s' first second hasked
    rw [always_ofExcept]
    exact ⟨fun recorded h => (by rw [h] at hend; exact hend),
      fun exc h => (by rw [h] at hend; exact hend)⟩
  simp only [make_eq, always_bind]
  refine always_sdkCall (hsend _ _) (fun _ => hrecv _ _ _) fun ticket first => ?_
  cases call with
  | createCustomer c request => exact hanswer _ first first ⟨rfl, rfl⟩
  | rename row request => exact hanswer _ first first ⟨rfl, rfl⟩
  | createContract sub c price tier customer request =>
      cases hconflict : conflict first with
      | false =>
          simp only [askAgain, hconflict, Bool.false_eq_true, if_false, always_pure]
          refine hanswer _ first first ⟨rfl, ?_⟩
          simp only [Call.requests, hconflict]
          rfl
      | true =>
          simp only [askAgain, hconflict, if_true]
          refine always_sdkCall (hsend _ _) (fun _ => hrecv _ _ _)
            fun ticket' second => ?_
          refine hanswer _ first second ⟨rfl, ?_⟩
          simp only [Call.requests, hconflict]
          rfl

end Asking

/-! ## Lookups -/

section Reading

variable {settings : Settings} {tiers : TierTable} {s : Session} {row : WebhookEvent}
  {p : Effect Unit}

def isRow : Fact → Bool
  | .customerRow _ _ | .subscriptionRow _ _ => true
  | _ => false

/-- The rows that an attempt has read, the last one first. -/
def rowsRead (s : Session) : List Fact := s.journal.filter isRow

/-- What an attempt on `row` may have read. -/
inductive Reads (row : WebhookEvent) : List Fact → Prop where
  | nothing : Reads row []
  | customer {c : String} (found : Option CustomerMapping) :
      IsCustomer row → objectId row.payload = some c → Reads row [.customerRow c found]
  | subscription {sub : String} (found : Option SubscriptionMapping) :
      handlerOf row = some .subscriptionCreated → objectId row.payload = some sub →
      Reads row [.subscriptionRow sub found]
  | subscribed {sub : String} (mapping : SubscriptionMapping)
      (found : Option CustomerMapping) :
      handlerOf row = some .subscriptionCreated → objectId row.payload = some sub →
      Reads row [.customerRow mapping.stripeCustomerId found,
        .subscriptionRow sub (some mapping)]
  | unsubscribed {sub c : String} (found : Option CustomerMapping) :
      handlerOf row = some .subscriptionCreated → objectId row.payload = some sub →
      objectCustomer row.payload = some c →
      Reads row [.customerRow c found, .subscriptionRow sub none]

/-- What it may read next. -/
def NextRead (row : WebhookEvent) (s : Session) : Node Op PyExc Unit → Prop
  | .perform (.lookupCustomerMapping c) =>
      ∀ found, Reads row (.customerRow c found :: rowsRead s)
  | .perform (.lookupSubscriptionMapping sub) =>
      ∀ found, Reads row (.subscriptionRow sub found :: rowsRead s)
  | _ => True

/-- A precondition reads nothing. -/
theorem reads_check {α : Type} {f : α → Effect Unit} {check : Except PyExc α}
    (h : ∀ a, check = .ok a → Always semantics (NextRead row) (f a) s) :
    Always semantics (NextRead row) (do f (← Prog.ofExcept check)) s := by
  cases check with
  | error exc => trivial
  | ok a => exact h a rfl

theorem reads_flush {f : Unit → Effect Unit}
    (h : ∀ s, Always semantics (NextRead row) (f ()) s) :
    Always semantics (NextRead row) (do f (← sessionFlush)) s := by
  refine ⟨trivial, fun reply _ => ?_⟩
  cases reply with
  | error exc => trivial
  | ok _ => exact h _

/-- Nothing is read once the plan is made. -/
theorem reads_effect (decided : Plan) (s : Session) :
    Always semantics (NextRead row) decided.effect s := by
  cases decided with
  | ignore => trivial
  | skip result => exact always_logCompleted trivial trivial
  | act call =>
      show Always semantics _ (call.make >>= Recorded.store) s
      rw [always_bind]
      refine always_make (fun _ _ => trivial) (fun _ _ _ => trivial)
        fun s' first second _ => ?_
      cases call.answer first second with
      | error exc => trivial
      | ok recorded =>
          show Always semantics _ recorded.store s'
          unfold Recorded.store
          rw [always_bind]
          refine always_datetimeNow trivial fun now => ?_
          dsimp only
          rw [always_bind]
          refine always_sessionAdd trivial ?_
          exact reads_flush fun s => always_logCompleted trivial trivial

theorem reads_of_eq (decided : Plan) (hp : p = decided.effect) :
    Always semantics (NextRead row) p s := hp ▸ reads_effect decided s

/-- The customer handlers read the customer's row. -/
theorem reads_handleCustomerEvent (eventType : CustomerEventType) (hs : rowsRead s = [])
    (hh : handlerOf row = some (customerHandler eventType)) :
    Always semantics (NextRead row) (handleCustomerEvent eventType row.payload) s := by
  unfold handleCustomerEvent
  refine reads_check fun object hobject => reads_check fun c hc => ?_
  have hid : objectId row.payload = some c := by
    rw [objectId, extractObject_eq_ok_iff.mp hobject]
    exact requireStr_eq_ok_iff.mp hc
  refine ⟨fun found => ?_, fun found _ => ?_⟩
  · rw [hs]
    exact .customer found (isCustomer_of hh) hid
  · cases found with
    | none =>
        simp only [createNewMapping, hc, ofExcept_ok, bind_assoc, pure_bind]
        refine reads_check fun request _ =>
          reads_of_eq (.act (.createCustomer c request)) ?_
        simp only [Plan.effect, Call.make, Recorded.store, bind_assoc, pure_bind]
    | some mapping =>
        cases eventType with
        | created => exact always_logCompleted trivial trivial
        | updated =>
            simp only [handleExistingMapping, bind_assoc, pure_bind]
            refine reads_check fun request _ =>
              reads_of_eq (.act (.rename mapping request)) ?_
            simp only [Plan.effect, Call.make, Recorded.store, bind_assoc, pure_bind]

/-- The subscription handler reads the subscription's row, then the
customer's. -/
theorem reads_handleSubscriptionCreated (hs : rowsRead s = [])
    (hh : handlerOf row = some .subscriptionCreated) :
    Always semantics (NextRead row)
      (handleSubscriptionCreated settings tiers row.payload) s := by
  unfold handleSubscriptionCreated
  refine reads_check fun object hobject => reads_check fun sub hsub =>
    reads_check fun c hc => ?_
  have hobj := extractObject_eq_ok_iff.mp hobject
  have hid : objectId row.payload = some sub := by
    rw [objectId, hobj]
    exact requireStr_eq_ok_iff.mp hsub
  have hcustomer : objectCustomer row.payload = some c := by
    rw [objectCustomer, hobj]
    exact requireStr_eq_ok_iff.mp hc
  have hread : ∀ found, rowsRead (s.learn (.subscriptionRow sub found)) =
      [.subscriptionRow sub found] := fun found => congrArg (_ :: ·) hs
  refine ⟨fun found => ?_, fun found _ => ?_⟩
  · rw [hs]
    exact .subscription found hh hid
  · cases found with
    | some mapping =>
        simp only [skipMapped, requireMetronomeCustomerId, bind_assoc]
        refine ⟨fun customer => ?_, fun customer _ => ?_⟩
        · exact hread (some mapping) ▸ .subscribed mapping customer hh hid
        · cases customer with
          | none => trivial
          | some customer => exact always_logCompleted trivial trivial
    | none =>
        simp only [createMapped]
        refine reads_check fun price _ => ⟨fun customer => ?_, fun customer _ => ?_⟩
        · exact hread none ▸ .unsubscribed customer hh hid hcustomer
        · cases customer with
          | none => trivial
          | some customer =>
              refine reads_check fun tier _ => reads_check fun request _ =>
                reads_of_eq (.act (.createContract sub c price tier customer request)) ?_
              simp only [Plan.effect, Call.make, Recorded.store, bind_assoc, pure_bind]

theorem reads_notPropagated (payload : JsonObject) :
    Always semantics (NextRead row) (notPropagated payload) s := by
  unfold notPropagated
  refine reads_check fun object _ => reads_check fun _ _ => ?_
  cases requireStr (get object "customer") "data.object.customer" <;> trivial

/-- The reads of a registered handler. -/
theorem reads_handler {handler : Handler} (hs : rowsRead s = [])
    (hh : handlerOf row = some handler) :
    Always semantics (NextRead row) (handler.run settings tiers row.payload) s := by
  cases handler with
  | customerCreated => exact reads_handleCustomerEvent .created hs hh
  | customerUpdated => exact reads_handleCustomerEvent .updated hs hh
  | subscriptionCreated => exact reads_handleSubscriptionCreated hs hh
  | subscriptionUpdated => exact reads_notPropagated row.payload
  | subscriptionDeleted => exact reads_notPropagated row.payload

theorem reads_markFailed (reason : String) (isPermanent : Bool) (s : Session) :
    Always semantics (NextRead row) (markFailed reason isPermanent) s := by
  unfold markFailed
  simp only [always_bind]
  refine always_assign trivial
    (always_assign trivial (always_datetimeNow trivial fun now => ?_))
  exact always_assign trivial trivial

theorem reads_scheduleRetryOrFail (reason : String) (s : Session) :
    Always semantics (NextRead row) (scheduleRetryOrFail settings reason) s := by
  unfold scheduleRetryOrFail
  rw [always_bind]
  refine always_eventAttempts trivial (fun _ => ?_) fun _ => trivial
  dsimp only
  split
  · exact reads_markFailed reason false s
  · simp only [backoffDelay, bind_assoc, pure_bind]
    simp only [always_bind, always_ofExcept]
    refine ⟨fun raw _ => ?_, fun _ _ => trivial⟩
    refine always_randomUniform trivial fun u => always_assign trivial ?_
    refine always_datetimeNow trivial fun now => ⟨fun next _ => ?_, fun _ _ => trivial⟩
    exact always_assign trivial (always_assign trivial trivial)

/-- The verdict reads no mapping row. -/
theorem reads_verdict (x : Except PyExc Unit) (s : Session) :
    Always semantics (NextRead row) (verdict settings x) s := by
  rcases x with exc | _
  · cases exc with
    | permanentHandlerError msg => exact reads_markFailed msg true s
    | _ => exact reads_scheduleRetryOrFail _ s
  · unfold verdict markProcessed
    simp only [always_bind]
    refine always_assign trivial (always_datetimeNow trivial fun now => ?_)
    exact always_assign trivial (always_assign trivial trivial)

/-- The reads of an attempt, step by step. -/
theorem reads_handleEvent (row : WebhookEvent) :
    Always semantics (NextRead row) (handleEvent settings tiers row) (.start row) := by
  cases hh : handlerOf row with
  | none =>
      rw [handleEvent_unhandled hh, always_bind]
      exact always_incrementAttempts trivial (@reads_verdict settings row (.ok ()) _)
  | some handler =>
      rw [handleEvent_handled hh, always_bind]
      refine always_incrementAttempts trivial ?_
      dsimp only
      rw [always_bind, always_attempt]
      refine (@reads_handler settings tiers _ row handler rfl hh).mono fun l n hn => ?_
      cases n with
      | ret a => exact reads_verdict _ l
      | raise exc => exact reads_verdict _ l
      | perform o => cases o <;> exact hn

/-- **The rows that an attempt reads.** -/
theorem reads_of_runs
    (h : Runs semantics (handleEvent settings tiers row) (.start row) p s) :
    Reads row (rowsRead s) := by
  suffices hall : Reads row (rowsRead s) ∧ Always semantics (NextRead row) p s from hall.1
  induction h with
  | refl => exact ⟨.nothing, reads_handleEvent row⟩
  | @snoc o k s r hrun hr ih =>
      obtain ⟨hreads, halways⟩ := ih
      refine ⟨?_, halways.step hr⟩
      have hnext := halways.here
      cases o with
      | lookupCustomerMapping c => exact hnext r
      | lookupSubscriptionMapping sub => exact hnext r
      | flush => cases r <;> exact hreads
      | _ => exact hreads

end Reading

end Sidecar.Ports.Lookups
