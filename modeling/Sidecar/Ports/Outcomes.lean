import Sidecar.Ports.Plans

/-!
# How an attempt ends

The second half of an attempt, played in its surroundings: the Metronome calls
of the plan and what their answers amount to, the row that is written, and the
verdict of the worker.

## Main results

* `play_make`, `play_store` — the calls of a plan, and its row.
* `play_run` — what a handler has done when it ends.
* `attempt_eq` — an attempt is the work of its decision and the verdict on it.
-/

namespace Sidecar.Ports.Outcomes

open Sidecar.Verified.Resumption
open Sidecar.Ports.Python
open Sidecar.Ports.Config
open Sidecar.Ports.Mappers hiding requireStr
open Sidecar.Ports.Models
open Sidecar.Ports.Effects
open Sidecar.Ports.MetronomeClient
open Sidecar.Ports.Handlers
open Sidecar.Ports.Worker
open Sidecar.Ports.Attempt
open Sidecar.Ports.Plans

/-! ## The calls -/

section Acting

variable {ρ : Surroundings} {s : Session} {settings : Settings} {tiers : TierTable}

/-- The session after a call and its answer. -/
def afterCall (ρ : Surroundings) (s : Session) (request : MetronomeRequest) :
    Session :=
  called s (ρ.firstTicket + (calls s).length) request (ρ.outcome (request :: calls s))

@[simp] theorem calls_afterCall (request : MetronomeRequest) :
    calls (afterCall ρ s request) = request :: calls s := rfl

theorem play_sdkCall (request : MetronomeRequest) :
    ρ.play (sdkCall request) s =
      (afterCall ρ s request, .ok (ρ.outcome (request :: calls s))) := rfl

theorem play_classified {α : Type} (p : Effect α) :
    ρ.play (classified p) s =
      ((ρ.play p s).1, (ρ.play p s).2.mapError classifiedError) := by
  unfold classified
  rw [Surroundings.play_bind, Surroundings.play_attempt]
  rcases ρ.play p s with ⟨s', exc | a⟩
  · cases exc <;> rfl
  · rfl

theorem play_createCustomer (request : CustomerRequest) :
    ρ.play (createCustomer request) s =
      (afterCall ρ s (.createCustomer request),
        do return ⟨← createdId (ρ.outcome (.createCustomer request :: calls s))⟩) := by
  unfold createCustomer createdId
  simp only [Surroundings.play_bind, play_sdkCall, Surroundings.play_ofExcept]
  cases responseOf (ρ.outcome (.createCustomer request :: calls s)) with
  | error exc => rfl
  | ok response =>
      dsimp only [bind, Except.bind]
      cases extractId response <;> rfl

theorem play_setCustomerName (metronomeCustomerId name : String) :
    ρ.play (setCustomerName metronomeCustomerId name) s =
      (afterCall ρ s (.setName metronomeCustomerId name),
        do
          let _ ← responseOf (ρ.outcome (.setName metronomeCustomerId name :: calls s))) := by
  unfold setCustomerName
  simp only [Surroundings.play_bind, play_sdkCall, Surroundings.play_ofExcept]
  cases responseOf (ρ.outcome (.setName metronomeCustomerId name :: calls s)) <;> rfl

theorem recoveredId_of_match {request : ContractRequest} {response : SdkObject}
    {contractId : String}
    (hmatch : matchContract request.uniquenessKey (iterContracts response) =
      some contractId) :
    recoveredId request (.ok response) = .ok contractId := by
  unfold recoveredId
  rw [responseOf]
  dsimp only [bind, Except.bind]
  rw [hmatch]
  rfl

theorem recoveredId_of_no_match {request : ContractRequest} {response : SdkObject}
    (hmatch : matchContract request.uniquenessKey (iterContracts response) = none) :
    recoveredId request (.ok response) = .error (.contractNotFoundError
      (s!"No contract with uniqueness_key={pyRepr request.uniquenessKey} found on " ++
        s!"Metronome customer {pyRepr request.customerId}.")) := by
  unfold recoveredId
  rw [responseOf]
  dsimp only [bind, Except.bind]
  rw [hmatch]

theorem play_findContract (request : ContractRequest) :
    ρ.play (findContractByUniquenessKey request.customerId request.uniquenessKey) s =
      (afterCall ρ s (.listContracts request.customerId),
        recoveredId request
          (ρ.outcome (.listContracts request.customerId :: calls s))) := by
  unfold findContractByUniquenessKey recoveredId
  simp only [Surroundings.play_bind, play_sdkCall, Surroundings.play_ofExcept]
  cases responseOf (ρ.outcome (.listContracts request.customerId :: calls s)) with
  | error exc => rfl
  | ok response =>
      show ρ.play _ _ = (_, _)
      dsimp only [bind, Except.bind]
      cases matchContract request.uniquenessKey (iterContracts response) <;> rfl

theorem play_createContract (request : ContractRequest) :
    ρ.play (createContract request) s =
      let first := ρ.outcome (.createContract request :: calls s)
      let s' := afterCall ρ s (.createContract request)
      (if conflict first then afterCall ρ s' (.listContracts request.customerId) else s',
        obtainedContract request first
          (ρ.outcome (.listContracts request.customerId :: .createContract request ::
            calls s))) := by
  unfold createContract obtainedContract
  simp only [Surroundings.play_bind, play_sdkCall]
  cases hfirst : ρ.outcome (.createContract request :: calls s) with
  | statusError code rateLimitError msg =>
      by_cases hcode : code = 409
      · subst hcode
        simp only [conflict, decide_true, if_true, Surroundings.play_bind,
          play_findContract, calls_afterCall]
        cases recoveredId request
          (ρ.outcome
            (.listContracts request.customerId :: .createContract request :: calls s)) <;>
          rfl
      · simp only [conflict, hcode, decide_false, if_false]
        rfl
  | ok response =>
      simp only [Surroundings.play_bind, Surroundings.play_ofExcept,
        createdId, responseOf]
      cases hid : extractId response with
      | error exc =>
          simp only [conflict, Bool.false_eq_true, if_false, bind, Except.bind, hid]
      | ok id =>
          simp only [conflict, Bool.false_eq_true, if_false, bind, Except.bind, hid]
          rfl
  | connectionError msg | timeoutError msg | apiError msg | undecodable _ msg => rfl

/-- A flush after a failed one. -/
theorem reply_flush_poisoned (h : s.poisoned = true) :
    ρ.reply s .flush = (.error closedTransaction : Except PyExc Unit) := by
  simp only [Surroundings.reply, h]
  rfl

theorem reply_flush_refused {constraint : String} (h : s.poisoned = false)
    (hrefusal : ρ.refusal s.pending = some constraint) :
    ρ.reply s .flush = (.error (.integrityError constraint) : Except PyExc Unit) := by
  simp only [Surroundings.reply, h, hrefusal, Bool.false_eq_true]
  rfl

theorem reply_flush_staged (h : s.poisoned = false)
    (hrefusal : ρ.refusal s.pending = none) :
    ρ.reply s .flush = (.ok () : Except PyExc Unit) := by
  simp only [Surroundings.reply, h, hrefusal, Bool.false_eq_true]
  rfl

/-- **The calls of a plan**: how many there are, and what is recorded. -/
theorem play_make (call : Call) (hs : calls s = []) :
    ρ.play call.make s =
      ((call.requests (call.first ρ)).foldl (afterCall ρ) s,
        call.answer (call.first ρ) (call.second ρ)) := by
  cases call with
  | createCustomer c request =>
      simp only [Call.make, Surroundings.play_bind, play_classified,
        play_createCustomer, hs]
      show _ = (_,
        (createdId (ρ.outcome [.createCustomer request])).mapError classifiedError >>=
          fun id => pure _)
      cases createdId (ρ.outcome [.createCustomer request]) <;> rfl
  | rename row request =>
      simp only [Call.make, Surroundings.play_bind, play_classified,
        play_setCustomerName, hs]
      show _ = (_,
        (responseOf (ρ.outcome [.setName row.metronomeCustomerId request.name])).mapError
          classifiedError >>= fun _ => pure _)
      cases responseOf (ρ.outcome [.setName row.metronomeCustomerId request.name]) <;> rfl
  | createContract sub c price tier customer request =>
      simp only [Call.make, Surroundings.play_bind, play_classified,
        play_createContract, hs]
      show _ = (List.foldl (afterCall ρ) s (.createContract request ::
          if conflict (ρ.outcome [.createContract request]) then
            [.listContracts request.customerId] else []),
        (obtainedContract request (ρ.outcome [.createContract request])
          (ρ.outcome
            [.listContracts request.customerId, .createContract request])).mapError
          classifiedError >>= fun created => pure _)
      cases conflict (ρ.outcome [.createContract request]) with
      | true =>
          cases obtainedContract request (ρ.outcome [.createContract request])
            (ρ.outcome [.listContracts request.customerId, .createContract request]) <;>
            rfl
      | false =>
          cases obtainedContract request (ρ.outcome [.createContract request])
            (ρ.outcome [.listContracts request.customerId, .createContract request]) <;>
            rfl

theorem play_sessionFlush (hpoisoned : s.poisoned = false) :
    ρ.play sessionFlush s =
      match ρ.refusal s.pending with
      | some constraint => ({ s with flushed := [], pending := [], poisoned := true },
          .error (.integrityError constraint))
      | none =>
          ({ s with flushed := s.flushed ++ s.pending, pending := [] }, .ok ()) := by
  have hplay : ρ.play (perform .flush) s =
      (s.after .flush (ρ.reply s .flush), .ok (ρ.reply s .flush)) := rfl
  unfold sessionFlush
  rw [Surroundings.play_bind, hplay]
  cases hrefusal : ρ.refusal s.pending with
  | some constraint =>
      rw [reply_flush_refused hpoisoned hrefusal]
      rfl
  | none =>
      rw [reply_flush_staged hpoisoned hrefusal]
      rfl

/-- **The row of a plan** is written, unless the database refuses it. -/
theorem play_store (recorded : Recorded) (hpending : s.pending = [])
    (hflushed : s.flushed = []) (hpoisoned : s.poisoned = false) :
    ρ.play recorded.store s =
      let write := recorded.write (ρ.clock [])
      let s' := s.learn (.clock (ρ.clock []))
      match ρ.refusal [write] with
      | some constraint => ({ s' with flushed := [], pending := [], poisoned := true },
          .error (.integrityError constraint))
      | none => ({ s' with flushed := [write], pending := [],
                           result := some recorded.result }, .ok ()) := by
  unfold Recorded.store
  rw [Surroundings.play_bind]
  show ρ.play (do sessionAdd (recorded.write (ρ.clock s.flushed)); sessionFlush
                  logCompleted recorded.result) (s.learn (.clock (ρ.clock s.flushed))) = _
  rw [hflushed, Surroundings.play_bind]
  show ρ.play (do sessionFlush; logCompleted recorded.result)
    { s.learn (.clock (ρ.clock [])) with
      pending := s.pending ++ [recorded.write (ρ.clock [])] } = _
  rw [Surroundings.play_bind, play_sessionFlush (by exact hpoisoned)]
  simp only [hpending, List.nil_append]
  cases ρ.refusal [recorded.write (ρ.clock [])] with
  | some constraint => rfl
  | none =>
      simp only [learn_flushed, hflushed, List.nil_append]
      rfl

end Acting

/-! ## What a handler has done -/

section Run

variable {settings : Settings} {tiers : TierTable} {ρ : Surroundings} {s : Session}

/-- What a handler leaves behind in its session. -/
structure Work where
  /-- Its Metronome calls, the last one first. -/
  calls : List MetronomeRequest
  flushed : List Write
  poisoned : Bool
  result : Option Completed

/-- The work that a session holds. -/
def workOf (s : Session) : Work := ⟨calls s, s.flushed, s.poisoned, s.result⟩

/-- What becomes of what the calls of an attempt have come to. -/
def storedWork (ρ : Surroundings) (made : List MetronomeRequest) :
    Except PyExc Recorded → Work × Except PyExc Unit
  | .error exc => (⟨made, [], false, none⟩, .error exc)
  | .ok recorded =>
      match ρ.refusal [recorded.write (ρ.clock [])] with
      | some constraint => (⟨made, [], true, none⟩, .error (.integrityError constraint))
      | none =>
          (⟨made, [recorded.write (ρ.clock [])], false, some recorded.result⟩, .ok ())

/-- What becomes of a decision. -/
def decidedWork (ρ : Surroundings) : Except PyExc Plan → Work × Except PyExc Unit
  | .error exc => (⟨[], [], false, none⟩, .error exc)
  | .ok .ignore => (⟨[], [], false, none⟩, .ok ())
  | .ok (.skip result) => (⟨[], [], false, some result⟩, .ok ())
  | .ok (.act call) =>
      storedWork ρ (call.requests (call.first ρ)).reverse
        (call.answer (call.first ρ) (call.second ρ))

/-- Only the clock and the constraints decide what becomes of an outcome that
is to be recorded. -/
theorem storedWork_agrees {ρ' : Surroundings} (hclock : ρ'.clock [] = ρ.clock [])
    (recorded : Recorded)
    (hrefusal : ρ'.refusal [recorded.write (ρ.clock [])] =
      ρ.refusal [recorded.write (ρ.clock [])]) (made : List MetronomeRequest) :
    storedWork ρ' made (.ok recorded) = storedWork ρ made (.ok recorded) := by
  simp only [storedWork, hclock, hrefusal]

/-- A session that has written nothing, of an attempt on `row`. -/
structure Blank (row : WebhookEvent) (s : Session) : Prop where
  loaded : s.loaded = row
  event : s.event = claimed row
  pending : s.pending = []
  flushed : s.flushed = []
  poisoned : s.poisoned = false
  result : s.result = none

theorem Blank.afterCalls {row : WebhookEvent} (h : Blank row s)
    (requests : List MetronomeRequest) : Blank row (requests.foldl (afterCall ρ) s) := by
  induction requests generalizing s with
  | nil => exact h
  | cons request requests ih =>
      exact ih (s := afterCall ρ s request)
        ⟨h.loaded, h.event, h.pending, h.flushed, h.poisoned, h.result⟩

theorem calls_afterCalls (requests : List MetronomeRequest) :
    calls (requests.foldl (afterCall ρ) s) = requests.reverse ++ calls s := by
  induction requests generalizing s with
  | nil => rfl
  | cons request requests ih =>
      rw [List.foldl_cons, ih, calls_afterCall, List.reverse_cons, List.append_assoc]
      rfl

/-- The session in which the handler starts. -/
def begun (row : WebhookEvent) : Session :=
  { Session.start row with event := claimed row }

/-- What a session looks like when a handler has ended. -/
structure Ended (row : WebhookEvent) (work : Work) (s : Session) : Prop where
  loaded : s.loaded = row
  event : s.event = claimed row
  pending : s.pending = []
  work : workOf s = work

theorem Blank.ended {row : WebhookEvent} (h : Blank row s) :
    Ended row ⟨calls s, [], false, none⟩ s :=
  ⟨h.loaded, h.event, h.pending, by rw [workOf, h.flushed, h.poisoned, h.result]⟩

theorem play_recorded {row : WebhookEvent} (h : Blank row s) (x : Except PyExc Recorded) :
    ∃ s', ρ.play (do (← Prog.ofExcept x).store) s = (s', (storedWork ρ (calls s) x).2) ∧
      Ended row (storedWork ρ (calls s) x).1 s' := by
  cases x with
  | error exc => exact ⟨s, rfl, h.ended⟩
  | ok recorded =>
      show ∃ s', ρ.play recorded.store s = _ ∧ _
      rw [play_store recorded h.pending h.flushed h.poisoned]
      unfold storedWork
      dsimp only
      cases ρ.refusal [recorded.write (ρ.clock [])] with
      | some constraint =>
          refine ⟨_, rfl, h.loaded, h.event, rfl, ?_⟩
          rw [workOf, learn_result, h.result]
          rfl
      | none =>
          refine ⟨_, rfl, h.loaded, h.event, rfl, ?_⟩
          rw [workOf, learn_poisoned, h.poisoned]
          rfl

theorem play_effect {row : WebhookEvent} (h : Blank row s) (hcalls : calls s = [])
    (decided : Except PyExc Plan) :
    ∃ s', ρ.play (do (← Prog.ofExcept decided).effect) s =
      (s', (decidedWork ρ decided).2) ∧
      Ended row (decidedWork ρ decided).1 s' := by
  have hended := h.ended
  rw [hcalls] at hended
  match decided with
  | .error exc => exact ⟨s, rfl, hended⟩
  | .ok .ignore => exact ⟨s, rfl, hended⟩
  | .ok (.skip result) =>
      refine ⟨{ s with result := some result }, rfl, h.loaded, h.event, h.pending, ?_⟩
      show Work.mk (calls s) s.flushed s.poisoned _ = _
      rw [hcalls, h.flushed, h.poisoned]
      rfl
  | .ok (.act call) =>
      have hmake : ρ.play (do (← Prog.ofExcept (Except.ok (Plan.act call))).effect) s =
          ρ.play (do (← Prog.ofExcept (call.answer (call.first ρ) (call.second ρ))).store)
            ((call.requests (call.first ρ)).foldl (afterCall ρ) s) := by
        show ρ.play (call.make >>= Recorded.store) s = _
        rw [Surroundings.play_bind, play_make call hcalls]
        cases call.answer (call.first ρ) (call.second ρ) <;> rfl
      have hmade : calls ((call.requests (call.first ρ)).foldl (afterCall ρ) s) =
          (call.requests (call.first ρ)).reverse := by
        rw [calls_afterCalls, hcalls, List.append_nil]
      rw [hmake, decidedWork, ← hmade]
      exact play_recorded (h.afterCalls _) _

theorem calls_rows {seen : List Fact} (h : ∀ f ∈ seen, Fact.IsRow f) (s : Session) :
    calls { s with journal := seen ++ s.journal } = calls s := by
  have hnone : seen.filterMap Fact.request? = [] := by
    rw [List.filterMap_eq_nil_iff]
    intro f hf
    have hrow := h f hf
    cases f with
    | customerRow _ _ | subscriptionRow _ _ => rfl
    | _ => cases hrow
  show (seen ++ s.journal).filterMap Fact.request? = _
  rw [List.filterMap_append, hnone]
  rfl

/-- **What a handler does.** -/
theorem play_run (row : WebhookEvent) (handler : Handler) :
    ∃ s', ρ.play (handler.run settings tiers row.payload) (begun row) =
        (s', (decidedWork ρ (plan settings tiers ρ row.payload handler)).2) ∧
      Ended row (decidedWork ρ (plan settings tiers ρ row.payload handler)).1 s' := by
  obtain ⟨seen, hseen, hplay⟩ :=
    @play_handler ρ (begun row) settings tiers handler row.payload
  rw [hplay]
  exact play_effect ⟨rfl, rfl, rfl, rfl, rfl, rfl⟩ (calls_rows hseen _) _

end Run

/-! ## The verdict -/

section Verdict

variable {settings : Settings} {tiers : TierTable} {ρ : Surroundings} {s s' : Session}

/-- What the worker does with the way a handler ended. -/
def verdict (settings : Settings) : Except PyExc Unit → Effect Unit
  | .ok _ => markProcessed
  | .error (.permanentHandlerError msg) => markFailed msg true
  | .error (.retryableHandlerError msg) => scheduleRetryOrFail settings msg
  | .error exc => scheduleRetryOrFail settings s!"{exc.typeName}: {exc.str}"

/-- Nothing but the event has changed. -/
structure SameWork (s s' : Session) : Prop where
  loaded : s'.loaded = s.loaded
  calls : calls s' = calls s
  pending : s'.pending = s.pending
  flushed : s'.flushed = s.flushed
  poisoned : s'.poisoned = s.poisoned
  result : s'.result = s.result

theorem SameWork.workOf_eq {row : WebhookEvent} {work : Work} (h : SameWork s s')
    (hended : Ended row work s) : workOf s' = work := by
  rw [← hended.work, workOf, h.calls, h.flushed, h.poisoned, h.result]
  rfl

theorem SameWork.refl (s : Session) : SameWork s s := ⟨rfl, rfl, rfl, rfl, rfl, rfl⟩

/-- The row after `markProcessed`. -/
def processedEvent (event : WebhookEvent) (now : Time) : WebhookEvent :=
  { event with status := .PROCESSED, processedAt := some now, lastError := none }

/-- The row after `markFailed`. -/
def failedEvent (event : WebhookEvent) (now : Time) (lastError : String) : WebhookEvent :=
  { event with status := .FAILED, processedAt := some now, lastError := some lastError }

/-- The row after a retry was scheduled. -/
def retriedEvent (event : WebhookEvent) (nextAttemptAt : Time) (reason : String) :
    WebhookEvent :=
  { event with status := .PENDING, nextAttemptAt, lastError := some reason }

theorem play_markProcessed (s : Session) :
    ∃ s', ρ.play markProcessed s = (s', .ok ()) ∧ SameWork s s' ∧
      s'.event = processedEvent s.event (ρ.clock s.flushed) :=
  ⟨_, rfl, ⟨rfl, rfl, rfl, rfl, rfl, rfl⟩, rfl⟩

theorem play_markFailed (reason : String) (isPermanent : Bool) (s : Session) :
    ∃ s', ρ.play (markFailed reason isPermanent) s = (s', .ok ()) ∧ SameWork s s' ∧
      s'.event = failedEvent s.event (ρ.clock s.flushed)
        (if isPermanent then s!"PERMANENT: {reason}" else
          s!"EXHAUSTED RETRIES: {reason}") :=
  ⟨_, rfl, ⟨rfl, rfl, rfl, rfl, rfl, rfl⟩, rfl⟩

/-- When the next attempt is due after so many attempts. -/
def retryAt (settings : Settings) (attempts : Int) (now : Time)
    (draw : PyFloat → PyFloat) :
    Except PyExc Time := do
  let raw ← timesPow2 settings.workerRetryBaseSeconds
    ((if attempts < 1 then 1 else attempts) - 1).toNat
  addSeconds now (maxOne (draw (raw.min settings.workerRetryCapSeconds)))

theorem play_eventAttempts (s : Session) :
    ρ.play eventAttempts s =
      (s, if s.poisoned then .error closedTransaction else .ok s.event.attempts) := by
  unfold eventAttempts
  rw [Surroundings.play_bind]
  exact Surroundings.play_ofExcept
    (if s.poisoned then .error closedTransaction else .ok s.event.attempts) s

theorem play_backoffDelay (attempts : Int) (base cap : PyFloat) (s : Session) :
    (∃ raw, timesPow2 base ((if attempts < 1 then 1 else attempts) - 1).toNat = .ok raw ∧
      ρ.play (backoffDelay attempts base cap) s =
        (s.learn (.drew (ρ.draw (raw.min cap))), .ok (maxOne (ρ.draw (raw.min cap))))) ∨
    ∃ exc, timesPow2 base ((if attempts < 1 then 1 else attempts) - 1).toNat =
      .error exc ∧
      ρ.play (backoffDelay attempts base cap) s = (s, .error exc) := by
  unfold backoffDelay
  dsimp only
  rw [Surroundings.play_bind, Surroundings.play_ofExcept]
  cases timesPow2 base ((if attempts < 1 then 1 else attempts) - 1).toNat with
  | error exc => exact .inr ⟨exc, rfl, rfl⟩
  | ok raw => exact .inl ⟨raw, rfl, rfl⟩

theorem play_reschedule (delay : PyFloat) (reason : String) (s : Session) :
    ρ.play (do
      assign (.status .PENDING)
      let now ← datetimeNow
      let nextAttemptAt ← .ofExcept (addSeconds now delay)
      assign (.nextAttemptAt nextAttemptAt)
      assign (.lastError (some reason))) s =
    match addSeconds (ρ.clock s.flushed) delay with
    | .ok next => ({ s.learn (.clock (ρ.clock s.flushed)) with
        event := retriedEvent s.event next reason }, .ok ())
    | .error exc => ({ s.learn (.clock (ρ.clock s.flushed)) with
        event := { s.event with status := .PENDING } }, .error exc) := by
  rw [Surroundings.play_bind]
  show ρ.play (do
      let now ← datetimeNow
      let nextAttemptAt ← .ofExcept (addSeconds now delay)
      assign (.nextAttemptAt nextAttemptAt)
      assign (.lastError (some reason)))
    { s with event := { s.event with status := .PENDING } } = _
  rw [Surroundings.play_bind]
  show ρ.play (do
      let nextAttemptAt ← .ofExcept (addSeconds (ρ.clock s.flushed) delay)
      assign (.nextAttemptAt nextAttemptAt)
      assign (.lastError (some reason)))
    { s.learn (.clock (ρ.clock s.flushed)) with
      event := { s.event with status := .PENDING } } = _
  rw [Surroundings.play_bind, Surroundings.play_ofExcept]
  cases addSeconds (ρ.clock s.flushed) delay <;> rfl

/-- A failed attempt of a usable session is the last one, or schedules the next
one, or raises because that one has no date. -/
theorem play_scheduleRetryOrFail (reason : String) (hp : s.poisoned = false) :
    (settings.workerMaxAttempts ≤ s.event.attempts ∧
      ∃ s', ρ.play (scheduleRetryOrFail settings reason) s = (s', .ok ()) ∧
        SameWork s s' ∧
        s'.event =
          failedEvent s.event (ρ.clock s.flushed) s!"EXHAUSTED RETRIES: {reason}") ∨
    (s.event.attempts < settings.workerMaxAttempts ∧
      ((∃ next s',
          retryAt settings s.event.attempts (ρ.clock s.flushed) ρ.draw = .ok next ∧
          ρ.play (scheduleRetryOrFail settings reason) s = (s', .ok ()) ∧
          SameWork s s' ∧ s'.event = retriedEvent s.event next reason) ∨
        ∃ exc s',
          retryAt settings s.event.attempts (ρ.clock s.flushed) ρ.draw = .error exc ∧
          ρ.play (scheduleRetryOrFail settings reason) s = (s', .error exc) ∧
          SameWork s s')) := by
  unfold scheduleRetryOrFail
  rw [Surroundings.play_bind, play_eventAttempts, hp]
  by_cases hmax : settings.workerMaxAttempts ≤ s.event.attempts
  · refine .inl ⟨hmax, ?_⟩
    simp only [hmax, Bool.false_eq_true, if_true, if_false]
    exact play_markFailed reason false s
  · refine .inr ⟨not_le.mp hmax, ?_⟩
    simp only [hmax, Bool.false_eq_true, if_false]
    rw [Surroundings.play_bind]
    unfold retryAt
    rcases @play_backoffDelay ρ s.event.attempts settings.workerRetryBaseSeconds
        settings.workerRetryCapSeconds s with ⟨raw, hraw, hplay⟩ | ⟨exc, hexc, hplay⟩
    · rw [hraw, hplay]
      dsimp only
      rw [play_reschedule]
      simp only [learn_flushed, learn_event]
      cases hnext : addSeconds (ρ.clock s.flushed)
          (maxOne (ρ.draw (raw.min settings.workerRetryCapSeconds))) with
      | ok next => exact .inl ⟨next, _, hnext, rfl, ⟨rfl, rfl, rfl, rfl, rfl, rfl⟩, rfl⟩
      | error exc => exact .inr ⟨exc, _, hnext, rfl, ⟨rfl, rfl, rfl, rfl, rfl, rfl⟩⟩
    · rw [hexc, hplay]
      exact .inr ⟨exc, s, rfl, rfl, .refl s⟩

theorem play_scheduleRetryOrFail_poisoned (reason : String) (hp : s.poisoned = true) :
    ρ.play (scheduleRetryOrFail settings reason) s = (s, .error closedTransaction) := by
  unfold scheduleRetryOrFail
  rw [Surroundings.play_bind, play_eventAttempts, hp]
  rfl

/-- A scheduled retry leaves the work of the handler alone. -/
theorem play_scheduleRetryOrFail_work (reason : String) (s : Session) :
    SameWork s (ρ.play (scheduleRetryOrFail settings reason) s).1 := by
  cases hp : s.poisoned with
  | true =>
      rw [play_scheduleRetryOrFail_poisoned reason hp]
      exact .refl s
  | false =>
      rcases @play_scheduleRetryOrFail settings ρ s reason hp with
        ⟨_, s', hplay, hsame, _⟩ | ⟨_,
          ⟨_, s', _, hplay, hsame, _⟩ | ⟨_, s', _, hplay, hsame⟩⟩
      all_goals
        rw [hplay]
        exact hsame

theorem play_verdict_work (x : Except PyExc Unit) (s : Session) :
    SameWork s (ρ.play (verdict settings x) s).1 := by
  match x with
  | .ok _ =>
      obtain ⟨s', hplay, hsame, _⟩ := @play_markProcessed ρ s
      rw [verdict, hplay]
      exact hsame
  | .error exc =>
      cases exc with
      | permanentHandlerError msg =>
          obtain ⟨s', hplay, hsame, _⟩ := @play_markFailed ρ msg true s
          rw [verdict, hplay]
          exact hsame
      | _ => exact play_scheduleRetryOrFail_work _ s

/-- What the worker decides: an event that no handler is registered for is
ignored. -/
def decision (settings : Settings) (tiers : TierTable) (ρ : Surroundings)
    (row : WebhookEvent) :
    Except PyExc Plan :=
  match handlerOf row with
  | none => .ok .ignore
  | some handler => plan settings tiers ρ row.payload handler

/-- The program of an attempt on an event that has no handler. -/
theorem handleEvent_unhandled {row : WebhookEvent} (hh : handlerOf row = none) :
    handleEvent settings tiers row = incrementAttempts >>= fun _ => markProcessed := by
  rw [handlerOf] at hh
  unfold handleEvent
  rw [hh]

/-- The program of an attempt on an event that has one. -/
theorem handleEvent_handled {row : WebhookEvent} {handler : Handler}
    (hh : handlerOf row = some handler) :
    handleEvent settings tiers row = incrementAttempts >>= fun _ =>
      (handler.run settings tiers row.payload).attempt >>= verdict settings := by
  rw [handlerOf] at hh
  unfold handleEvent
  rw [hh]
  refine congrArg (incrementAttempts >>= ·) (funext fun _ => ?_)
  refine congrArg ((handler.run settings tiers row.payload).attempt >>= ·)
    (funext fun x => ?_)
  rcases x with exc | _
  · cases exc <;> rfl
  · rfl

/-- **An attempt**: the work of the decision, then the verdict on how it
ended. -/
theorem attempt_eq (row : WebhookEvent) :
    ∃ s, Ended row (decidedWork ρ (decision settings tiers ρ row)).1 s ∧
      ρ.attempt settings tiers row =
        ρ.play (verdict settings (decidedWork ρ (decision settings tiers ρ row)).2)
          s := by
  unfold decision
  cases hh : handlerOf row with
  | none =>
      refine ⟨begun row, ⟨rfl, rfl, rfl, rfl⟩, ?_⟩
      rw [Surroundings.attempt, handleEvent_unhandled hh, Surroundings.play_bind]
      rfl
  | some handler =>
      obtain ⟨s, hplay, hended⟩ := @play_run settings tiers ρ row handler
      refine ⟨s, hended, ?_⟩
      rw [Surroundings.attempt, handleEvent_handled hh, Surroundings.play_bind]
      show ρ.play ((handler.run settings tiers row.payload).attempt >>= verdict settings)
        (begun row) = _
      rw [Surroundings.play_bind, Surroundings.play_attempt, hplay]

/-- The work of an attempt is that of its decision. -/
theorem attempt_work (row : WebhookEvent) :
    workOf (ρ.attempt settings tiers row).1 =
        (decidedWork ρ (decision settings tiers ρ row)).1 ∧
      (ρ.attempt settings tiers row).1.pending = [] := by
  obtain ⟨s, hended, heq⟩ := @attempt_eq settings tiers ρ row
  have hsame := @play_verdict_work settings ρ
    (decidedWork ρ (decision settings tiers ρ row)).2 s
  rw [← heq] at hsame
  exact ⟨hsame.workOf_eq hended, hsame.pending.trans hended.pending⟩

/-! ## How attempts end -/

theorem flushed_eq_nil {x : Work × Except PyExc Unit} {decided : Except PyExc Plan}
    (hx : decidedWork ρ decided = x) {exc : PyExc} (h : x.2 = .error exc) :
    x.1.flushed = [] ∧ x.1.result = none := by
  subst hx
  match decided with
  | .error _ => exact ⟨rfl, rfl⟩
  | .ok .ignore => cases h
  | .ok (.skip _) => cases h
  | .ok (.act call) =>
      simp only [decidedWork] at h ⊢
      generalize call.answer (call.first ρ) (call.second ρ) = answer at h ⊢
      cases answer with
      | error _ => exact ⟨rfl, rfl⟩
      | ok recorded =>
          simp only [storedWork] at h ⊢
          cases hr : ρ.refusal [recorded.write (ρ.clock [])] with
          | some constraint => exact ⟨rfl, rfl⟩
          | none =>
              rw [hr] at h
              cases h

/-- An attempt whose handler returned. -/
theorem attempt_of_ok {row : WebhookEvent} {work : Work}
    (h : decidedWork ρ (decision settings tiers ρ row) = (work, .ok ())) :
    ∃ s, ρ.attempt settings tiers row = (s, .ok ()) ∧ workOf s = work ∧
      s.event = processedEvent (claimed row) (ρ.clock work.flushed) := by
  obtain ⟨s, hended, heq⟩ := @attempt_eq settings tiers ρ row
  rw [h] at hended heq
  obtain ⟨s', hplay, hsame, hevent⟩ := @play_markProcessed ρ s
  have hflushed : s.flushed = work.flushed := congrArg Work.flushed hended.work
  exact ⟨s', heq.trans hplay,
    hsame.workOf_eq hended, by rw [hevent, hended.event, hflushed]⟩

/-- An attempt whose handler gave up on the event. -/
theorem attempt_of_permanent {row : WebhookEvent} {work : Work} {msg : String}
    (h : decidedWork ρ (decision settings tiers ρ row) =
      (work, .error (.permanentHandlerError msg))) :
    ∃ s, ρ.attempt settings tiers row = (s, .ok ()) ∧ workOf s = work ∧
      s.event = failedEvent (claimed row) (ρ.clock []) s!"PERMANENT: {msg}" := by
  obtain ⟨s, hended, heq⟩ := @attempt_eq settings tiers ρ row
  have hnil := (flushed_eq_nil h rfl).1
  rw [h] at hended heq
  obtain ⟨s', hplay, hsame, hevent⟩ := @play_markFailed ρ msg true s
  have hflushed : s.flushed = [] := (congrArg Work.flushed hended.work).trans hnil
  refine ⟨s', heq.trans hplay, hsame.workOf_eq hended, ?_⟩
  rw [hevent, hended.event, hflushed]
  rfl

/-- An exception that the worker takes for transient. -/
def Unclassified (exc : PyExc) : Prop := ∀ msg, exc ≠ .permanentHandlerError msg

theorem verdict_of_unclassified {exc : PyExc} (h : Unclassified exc) :
    ∃ reason, verdict settings (.error exc) = scheduleRetryOrFail settings reason := by
  cases exc with
  | permanentHandlerError msg => exact absurd rfl (h msg)
  | _ => exact ⟨_, rfl⟩

/-- An attempt whose handler raised anything else, the session being usable. -/
theorem attempt_of_transient {row : WebhookEvent} {work : Work} {exc : PyExc}
    (h : decidedWork ρ (decision settings tiers ρ row) = (work, .error exc))
    (hexc : Unclassified exc) (hp : work.poisoned = false) :
    (settings.workerMaxAttempts ≤ row.attempts + 1 ∧
      ∃ s, ∃ reason : String, ρ.attempt settings tiers row = (s, .ok ()) ∧
      workOf s = work ∧
        s.event = failedEvent (claimed row) (ρ.clock [])
          s!"EXHAUSTED RETRIES: {reason}") ∨
    (row.attempts + 1 < settings.workerMaxAttempts ∧
      ((∃ next s, ∃ reason : String,
          retryAt settings (row.attempts + 1) (ρ.clock []) ρ.draw = .ok next ∧
          ρ.attempt settings tiers row = (s, .ok ()) ∧ workOf s = work ∧
          s.event = retriedEvent (claimed row) next reason) ∨
        ∃ exc' s, retryAt settings (row.attempts + 1) (ρ.clock []) ρ.draw = .error exc' ∧
          ρ.attempt settings tiers row = (s, .error exc') ∧ workOf s = work)) := by
  obtain ⟨s, hended, heq⟩ := @attempt_eq settings tiers ρ row
  have hnil := (flushed_eq_nil h rfl).1
  rw [h] at hended heq
  obtain ⟨reason, hverdict⟩ := @verdict_of_unclassified settings exc hexc
  dsimp only at heq
  rw [hverdict] at heq
  have hpoisoned : s.poisoned = false := (congrArg Work.poisoned hended.work).trans hp
  have hflushed : s.flushed = [] := (congrArg Work.flushed hended.work).trans hnil
  have hattempts : s.event.attempts = row.attempts + 1 := by rw [hended.event]; rfl
  rcases @play_scheduleRetryOrFail settings ρ s reason hpoisoned with
    ⟨hmax, s', hplay, hsame, hevent⟩ | ⟨hmax, ⟨next, s', hnext, hplay, hsame, hevent⟩ |
      ⟨exc', s', hnext, hplay, hsame⟩⟩
  · rw [hattempts] at hmax
    rw [hended.event, hflushed] at hevent
    exact .inl ⟨hmax, s', reason, heq.trans hplay, hsame.workOf_eq hended, hevent⟩
  · rw [hattempts] at hmax hnext
    rw [hflushed] at hnext
    rw [hended.event] at hevent
    exact .inr ⟨hmax,
      .inl ⟨next, s', reason, hnext, heq.trans hplay, hsame.workOf_eq hended, hevent⟩⟩
  · rw [hattempts] at hmax hnext
    rw [hflushed] at hnext
    exact .inr ⟨hmax, .inr ⟨exc', s', hnext, heq.trans hplay, hsame.workOf_eq hended⟩⟩

/-- An attempt whose row the database refused. -/
theorem attempt_of_refused {row : WebhookEvent} {work : Work} {exc : PyExc}
    (h : decidedWork ρ (decision settings tiers ρ row) = (work, .error exc))
    (hexc : Unclassified exc) (hp : work.poisoned = true) :
    ∃ s, ρ.attempt settings tiers row = (s, .error closedTransaction) ∧
    workOf s = work := by
  obtain ⟨s, hended, heq⟩ := @attempt_eq settings tiers ρ row
  rw [h] at hended heq
  obtain ⟨reason, hverdict⟩ := @verdict_of_unclassified settings exc hexc
  dsimp only at heq
  rw [hverdict] at heq
  have hpoisoned : s.poisoned = true := (congrArg Work.poisoned hended.work).trans hp
  rw [play_scheduleRetryOrFail_poisoned reason hpoisoned] at heq
  exact ⟨s, heq, hended.work⟩

/-! ## What is committed -/

/-- The tables when the transaction of an attempt has ended. -/
def afterAttempt (db : Postgres) (run : Session × Except PyExc Unit) : Postgres :=
  match run.2 with
  | .ok _ =>
      if run.1.poisoned then db
      else ((run.1.flushed ++ run.1.pending).foldl Postgres.apply db).updateEvent
        run.1.event
  | .error _ => db

end Verdict

end Sidecar.Ports.Outcomes
