import Mathlib.Algebra.Order.Ring.Rat
import Sidecar.Ports.Execution

/-!
# One call at a time

Between a call of the SDK and its answer an attempt does nothing else: the node
after a `send` is the `recv` of that very call, and no other node is one.  This
is said of every function by itself, and composes.

## Main results

* `orderly_handleEvent` — an attempt waits for the answer to the call it has
  just made, and for no other.
-/

namespace Sidecar.Ports.Turns

open Sidecar.Verified.Resumption
open Sidecar.Ports.Python
open Sidecar.Ports.Config
open Sidecar.Ports.Mappers hiding requireStr
open Sidecar.Ports.Models
open Sidecar.Ports.Effects
open Sidecar.Ports.MetronomeClient
open Sidecar.Ports.Handlers
open Sidecar.Ports.Worker

/-- What a program waits for: the answer to the call it has just made. -/
def waiting : Local Op Res (Option (Nat × MetronomeRequest)) where
  admits _ _ _ := True
  after o r _ :=
    match o, r with
    | .send request, ticket => some (ticket, request)
    | _, _ => none

/-- Where a program that waits for `l` may stand. -/
structure InTurn {α : Type} (l : Option (Nat × MetronomeRequest)) (n : Node Op PyExc α) :
    Prop where
  recv : ∀ ticket request, n = .perform (.recv ticket request) → l =
    some (ticket, request)
  await : ∀ call, l = some call → n = .perform (.recv call.1 call.2)
  draw : ∀ hi, n = .perform (.uniform hi) → (PyFloat.fin 1).le hi = true

/-- The program asks for the answer to the call it has just made, at once, and
for no other; and its draws have room. -/
def Orderly {α : Type} (p : Effect α) : Prop := Always waiting InTurn p none

section Orderly

variable {α β : Type} {settings : Settings} {tiers : TierTable}

/-- A program that returns waits for nothing. -/
theorem inTurn_ret (a : α) : InTurn none (.ret a : Node Op PyExc α) := by
  constructor <;> intros <;> contradiction

theorem inTurn_raise (exc : PyExc) : InTurn none (.raise exc : Node Op PyExc α) := by
  constructor <;> intros <;> contradiction

/-- Nothing is waited for where a program returns. -/
theorem InTurn.ret {l : Option (Nat × MetronomeRequest)} {a : α}
    (h : InTurn l (.ret a : Node Op PyExc α)) : l = none := by
  cases l with
  | none => rfl
  | some call => cases h.await call rfl

/-- Nor where it raises. -/
theorem InTurn.raise {l : Option (Nat × MetronomeRequest)} {exc : PyExc}
    (h : InTurn l (.raise exc : Node Op PyExc α)) : l = none := by
  cases l with
  | none => rfl
  | some call => cases h.await call rfl

/-- What follows a request does not matter to whose turn it is. -/
theorem InTurn.perform {l : Option (Nat × MetronomeRequest)} {o : Op}
    (h : InTurn l (.perform o : Node Op PyExc α)) :
    InTurn l (.perform o : Node Op PyExc β) := by
  refine ⟨fun ticket request heq => ?_, fun call heq => ?_, fun hi heq => ?_⟩
  · cases heq
    exact h.recv ticket request rfl
  · cases h.await call heq
    rfl
  · cases heq
    exact h.draw hi rfl

theorem orderly_pure (a : α) : Orderly (pure a : Effect α) := inTurn_ret a

theorem orderly_raise (exc : PyExc) : Orderly (.raise exc : Effect α) := inTurn_raise exc

/-- A pure computation makes no call. -/
theorem orderly_ofExcept (x : Except PyExc α) : Orderly (.ofExcept x : Effect α) := by
  cases x with
  | ok a => exact orderly_pure a
  | error exc => exact orderly_raise exc

/-- At the end of the first part nothing is waited for. -/
theorem orderly_bind {p : Effect α} {f : α → Effect β} (hp : Orderly p)
    (hf : ∀ a, Orderly (f a)) : Orderly (p >>= f) := by
  unfold Orderly
  rw [always_bind]
  refine Always.mono (fun l n hn => ?_) hp
  match n with
  | .ret a => exact hn.ret ▸ hf a
  | .raise exc => exact hn.raise ▸ inTurn_raise exc
  | .perform o => exact hn.perform

/-- Catching an exception makes no call. -/
theorem orderly_attempt {p : Effect α} (hp : Orderly p) : Orderly p.attempt := by
  unfold Orderly
  rw [always_attempt]
  refine Always.mono (fun l n hn => ?_) hp
  match n with
  | .ret a => exact hn.ret ▸ inTurn_ret _
  | .raise exc => exact hn.raise ▸ inTurn_ret _
  | .perform o => exact hn.perform

/-- The request is neither a call, nor for an answer, nor for a draw. -/
def isPlain : Op → Bool
  | .send _ | .recv _ _ | .uniform _ => false
  | _ => true

/-- A request that is not about a call. -/
theorem orderly_perform {o : Op} (h : isPlain o = true) : Orderly (perform o) := by
  have hafter : ∀ r, waiting.after o r none = none := by
    cases o with
    | send request => cases h
    | _ => exact fun _ => rfl
  refine ⟨⟨fun ticket request heq => ?_, fun _ heq => (by cases heq), fun hi heq => ?_⟩,
    fun r _ => ?_⟩
  · cases heq
    cases h
  · cases heq
    cases h
  · rw [hafter]
    exact inTurn_ret r

/-- One call: what is sent is what is waited for. -/
theorem orderly_sdkCall (request : MetronomeRequest) : Orderly (sdkCall request) := by
  have hsend : InTurn none (.perform (.send request) : Node Op PyExc SdkOutcome) :=
    ⟨fun _ _ h => (by cases h), fun _ h => (by cases h), fun _ h => by cases h⟩
  have hrecv : ∀ ticket, InTurn (some (ticket, request))
      (.perform (.recv ticket request) : Node Op PyExc SdkOutcome) := by
    refine fun ticket => ⟨fun _ _ h => ?_, fun call h => ?_, fun _ h => by cases h⟩
    · cases h
      rfl
    · cases h
      rfl
  exact ⟨hsend, fun ticket _ => ⟨hrecv ticket, fun outcome _ => inTurn_ret outcome⟩⟩

/-- The `except` clauses make no call of their own. -/
theorem orderly_classified {p : Effect α} (hp : Orderly p) : Orderly (classified p) := by
  refine orderly_bind (orderly_attempt hp) fun x => ?_
  rcases x with exc | a
  · cases exc <;> exact orderly_raise _
  · exact orderly_pure a

/-- The operations of the client. -/
theorem orderly_createCustomer (request : CustomerRequest) :
    Orderly (createCustomer request) := by
  refine orderly_bind (orderly_sdkCall _) fun outcome => ?_
  exact orderly_bind (orderly_ofExcept _) fun response =>
    orderly_bind (orderly_ofExcept _) fun id => orderly_pure _

theorem orderly_setCustomerName (metronomeCustomerId name : String) :
    Orderly (setCustomerName metronomeCustomerId name) := by
  refine orderly_bind (orderly_sdkCall _) fun outcome => ?_
  exact orderly_bind (orderly_ofExcept _) fun response => orderly_pure _

theorem orderly_findContract (metronomeCustomerId uniquenessKey : String) :
    Orderly (findContractByUniquenessKey metronomeCustomerId uniquenessKey) := by
  refine orderly_bind (orderly_sdkCall _) fun outcome => ?_
  refine orderly_bind (orderly_ofExcept _) fun response => ?_
  cases matchContract uniquenessKey (iterContracts response) with
  | some contractId => exact orderly_pure _
  | none => exact orderly_raise _

/-- The list is asked for once the create has been answered. -/
theorem orderly_createContract (request : ContractRequest) :
    Orderly (createContract request) := by
  refine orderly_bind (orderly_sdkCall _) fun outcome => ?_
  cases outcome with
  | statusError code rateLimitError msg =>
      dsimp only
      split
      · exact orderly_bind (orderly_findContract _ _) fun id => orderly_pure _
      · exact orderly_raise _
  | _ =>
      exact orderly_bind (orderly_ofExcept _) fun response =>
        orderly_bind (orderly_ofExcept _) fun id => orderly_pure _

theorem orderly_sessionFlush : Orderly sessionFlush :=
  orderly_bind (orderly_perform rfl) fun _ => orderly_ofExcept _

theorem orderly_lookupCustomerMapping (c : String) : Orderly (lookupCustomerMapping c) :=
  orderly_perform rfl

theorem orderly_datetimeNow : Orderly datetimeNow := orderly_perform rfl

theorem orderly_sessionAdd (write : Write) : Orderly (sessionAdd write) :=
  orderly_perform rfl

theorem orderly_assign (assignment : Assignment) : Orderly (assign assignment) :=
  orderly_perform rfl

theorem orderly_logCompleted (result : Completed) : Orderly (logCompleted result) :=
  orderly_perform rfl

/-- The customer handlers. -/
theorem orderly_handleExistingMapping (object : JsonObject) (mapping : CustomerMapping)
    (eventType : CustomerEventType) :
    Orderly (handleExistingMapping object mapping eventType) := by
  cases eventType with
  | created => exact orderly_pure _
  | updated =>
      refine orderly_bind (orderly_ofExcept _) fun request => ?_
      refine orderly_bind (orderly_classified (orderly_setCustomerName _ _)) fun _ => ?_
      refine orderly_bind orderly_datetimeNow fun now => ?_
      refine orderly_bind (orderly_sessionAdd _) fun _ => ?_
      exact orderly_bind orderly_sessionFlush fun _ => orderly_pure _

theorem orderly_createNewMapping (object : JsonObject) :
    Orderly (createNewMapping object) := by
  refine orderly_bind (orderly_ofExcept _) fun c => ?_
  refine orderly_bind (orderly_ofExcept _) fun request => ?_
  refine orderly_bind (orderly_classified (orderly_createCustomer _)) fun created => ?_
  refine orderly_bind orderly_datetimeNow fun now => ?_
  refine orderly_bind (orderly_sessionAdd _) fun _ => ?_
  exact orderly_bind orderly_sessionFlush fun _ => orderly_pure _

/-- Either path makes one call. -/
theorem orderly_handleCustomerEvent (eventType : CustomerEventType)
    (payload : JsonObject) :
    Orderly (handleCustomerEvent eventType payload) := by
  refine orderly_bind (orderly_ofExcept _) fun object => ?_
  refine orderly_bind (orderly_ofExcept _) fun c => ?_
  refine orderly_bind (orderly_lookupCustomerMapping c) fun existing => ?_
  cases existing with
  | some mapping =>
      exact orderly_bind (orderly_handleExistingMapping _ _ _) fun _ =>
        orderly_logCompleted _
  | none =>
      exact orderly_bind (orderly_createNewMapping _) fun _ => orderly_logCompleted _

theorem orderly_skipMapped (mapping : SubscriptionMapping) :
    Orderly (skipMapped mapping) := by
  refine orderly_bind ?_ fun metronomeCustomerId => orderly_logCompleted _
  refine orderly_bind (orderly_lookupCustomerMapping _) fun customer => ?_
  cases customer with
  | some mapping => exact orderly_pure _
  | none => exact orderly_raise _

/-- The subscription handlers. -/
theorem orderly_createMapped (object : JsonObject) (sub c : String) :
    Orderly (createMapped settings tiers object sub c) := by
  refine orderly_bind (orderly_ofExcept _) fun price => ?_
  refine orderly_bind (orderly_lookupCustomerMapping c) fun customer => ?_
  cases customer with
  | none => exact orderly_raise _
  | some customer =>
      refine orderly_bind (orderly_ofExcept _) fun tier => ?_
      refine orderly_bind (orderly_ofExcept _) fun request => ?_
      refine orderly_bind (orderly_classified (orderly_createContract _))
        fun created => ?_
      refine orderly_bind orderly_datetimeNow fun now => ?_
      refine orderly_bind (orderly_sessionAdd _) fun _ => ?_
      exact orderly_bind orderly_sessionFlush fun _ => orderly_logCompleted _

theorem orderly_handleSubscriptionCreated (payload : JsonObject) :
    Orderly (handleSubscriptionCreated settings tiers payload) := by
  refine orderly_bind (orderly_ofExcept _) fun object => ?_
  refine orderly_bind (orderly_ofExcept _) fun sub => ?_
  refine orderly_bind (orderly_ofExcept _) fun c => ?_
  refine orderly_bind (orderly_perform rfl) fun existing => ?_
  cases existing with
  | some mapping => exact orderly_skipMapped mapping
  | none => exact orderly_createMapped _ _ _

theorem orderly_notPropagated (payload : JsonObject) :
    Orderly (notPropagated payload) := by
  refine orderly_bind (orderly_ofExcept _) fun object => ?_
  refine orderly_bind (orderly_ofExcept _) fun sub => ?_
  exact orderly_bind (orderly_ofExcept _) fun c => orderly_pure _

/-- A registered handler. -/
theorem orderly_handler (handler : Handler) (payload : JsonObject) :
    Orderly (handler.run settings tiers payload) := by
  cases handler with
  | customerCreated => exact orderly_handleCustomerEvent .created payload
  | customerUpdated => exact orderly_handleCustomerEvent .updated payload
  | subscriptionCreated => exact orderly_handleSubscriptionCreated payload
  | subscriptionUpdated => exact orderly_notPropagated payload
  | subscriptionDeleted => exact orderly_notPropagated payload

/-- The verdicts, which make no call. -/
theorem orderly_markProcessed : Orderly markProcessed := by
  refine orderly_bind (orderly_assign _) fun _ => ?_
  refine orderly_bind orderly_datetimeNow fun now => ?_
  exact orderly_bind (orderly_assign _) fun _ => orderly_assign _

theorem orderly_markFailed (reason : String) (isPermanent : Bool) :
    Orderly (markFailed reason isPermanent) := by
  refine orderly_bind (orderly_assign _) fun _ => ?_
  refine orderly_bind (orderly_assign _) fun _ => ?_
  exact orderly_bind orderly_datetimeNow fun now => orderly_assign _

/-- The bound of a draw is the first delay or more, or the cap. -/
theorem le_capped {raw : PyFloat} {n : Nat}
    (h : timesPow2 settings.workerRetryBaseSeconds n = .ok raw) :
    (PyFloat.fin 1).le (raw.min settings.workerRetryCapSeconds) = true := by
  have hbase := settings.workerRetryBaseSeconds_ge
  have hraw : (PyFloat.fin 1).le raw = true := by
    unfold timesPow2 at h
    split at h
    · cases h
    · cases hb : settings.workerRetryBaseSeconds with
      | nan =>
          rw [hb] at hbase
          cases hbase
      | inf =>
          rw [hb] at h
          cases h
          rfl
      | fin q =>
          rw [hb] at h hbase
          cases h
          split
          · rfl
          · have hq : (1 : Rat) ≤ q := of_decide_eq_true hbase
            have hpow : (1 : Rat) ≤ 2 ^ n := one_le_pow₀ (by decide)
            exact decide_eq_true (one_le_mul_of_one_le_of_one_le hq hpow)
  unfold PyFloat.min
  split
  · exact settings.workerRetryCapSeconds_ge
  · exact hraw

/-- The draw is from a range that has a number in it. -/
theorem orderly_backoffDelay (attempts : Int) :
    Orderly (backoffDelay attempts settings.workerRetryBaseSeconds
      settings.workerRetryCapSeconds) := by
  unfold backoffDelay
  dsimp only
  cases hraw : timesPow2 settings.workerRetryBaseSeconds
      ((if attempts < 1 then 1 else attempts) - 1).toNat with
  | error exc => exact orderly_raise exc
  | ok raw =>
      have hdraw : Orderly (randomUniform (raw.min settings.workerRetryCapSeconds)) := by
        refine ⟨⟨fun _ _ h => (by cases h), fun _ h => (by cases h), fun hi h => ?_⟩,
          fun u _ => inTurn_ret u⟩
        cases h
        exact le_capped hraw
      show Orderly (randomUniform (raw.min settings.workerRetryCapSeconds) >>= fun draw =>
        pure (maxOne draw))
      exact orderly_bind hdraw fun draw => orderly_pure _

theorem orderly_scheduleRetryOrFail (reason : String) :
    Orderly (scheduleRetryOrFail settings reason) := by
  have hread : Orderly eventAttempts :=
    orderly_bind (orderly_perform rfl) fun _ => orderly_ofExcept _
  refine orderly_bind hread fun attempts => ?_
  split
  · exact orderly_markFailed _ _
  · refine orderly_bind (orderly_backoffDelay attempts) fun delay => ?_
    refine orderly_bind (orderly_assign _) fun _ => ?_
    refine orderly_bind orderly_datetimeNow fun now => ?_
    refine orderly_bind (orderly_ofExcept _) fun next => ?_
    exact orderly_bind (orderly_assign _) fun _ => orderly_assign _

/-- **An attempt makes one call at a time**, and waits for its answer. -/
theorem orderly_handleEvent (row : WebhookEvent) :
    Orderly (handleEvent settings tiers row) := by
  refine orderly_bind (orderly_perform rfl) fun _ => ?_
  cases HANDLERS.lookup row.eventType with
  | none => exact orderly_markProcessed
  | some handler =>
      refine orderly_bind (orderly_attempt (orderly_handler handler _)) fun x => ?_
      rcases x with exc | _
      · cases exc with
        | permanentHandlerError msg => exact orderly_markFailed _ _
        | _ => exact orderly_scheduleRetryOrFail _
      · exact orderly_markProcessed

end Orderly

end Sidecar.Ports.Turns
