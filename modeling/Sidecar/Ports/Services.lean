import Mathlib.Algebra.Order.Ring.Rat
import Sidecar.Ports.Contracts
import Sidecar.Ports.Traffic
import Sidecar.Ports.Turns

/-!
# Metronome as a service of separate customers

`Service` is a Metronome that answers every request from the request and the
objects of the customer it names, and whose ids tell whose they are.

## Main results

* `ownRows_of_path` — mapping rows name objects of their own Stripe customer.
-/

namespace Sidecar.Ports.Services

open Sidecar.Verified.Transition
open Sidecar.Ports.Mappers hiding requireStr
open Sidecar.Ports.Effects
open Sidecar.Ports.MetronomeClient
open Sidecar.Ports.System
open Sidecar.Ports.Attempt
open Sidecar.Ports.Moves
open Sidecar.Ports.Invariant
open Sidecar.Ports.Mappings
open Sidecar.Ports.Calls
open Sidecar.Ports.Remote

/-! ## Metronome as a service -/

/-- A Metronome whose answer to a request depends on the request and on the
objects of the customer it names.  Ids are never shared: those of customers and
of contracts tell whose they are. -/
structure Service where
  /-- What Metronome holds for one Stripe customer. -/
  Objects : Type
  answer : Objects → MetronomeRequest → SdkOutcome
  effect : Objects → MetronomeRequest → Objects
  /-- The Stripe customer of a Metronome customer, and of a contract. -/
  customerOf : String → String
  contractOf : String → String
  created : ∀ objects body id, Answers (answer objects (.createCustomer body)) id →
    customerOf id = body.ingestAliases.headD ""
  contracted : ∀ objects body id, Answers (answer objects (.createContract body)) id →
    contractOf id = customerOf body.customerId
  listed : ∀ objects metronomeCustomerId response,
    answer objects (.listContracts metronomeCustomerId) = .ok response →
    ∀ contract ∈ iterContracts response, ∀ id, (entryOf contract).1 = some id →
      contractOf id = customerOf metronomeCustomerId

namespace Service

variable (σ : Service)

/-- The Stripe customer that a request names. -/
def named : MetronomeRequest → String
  | .createCustomer body => body.ingestAliases.headD ""
  | .setName metronomeCustomerId _ => σ.customerOf metronomeCustomerId
  | .createContract body => σ.customerOf body.customerId
  | .listContracts metronomeCustomerId => σ.customerOf metronomeCustomerId

/-- What a request does to the objects of all customers. -/
def carryOut (objects : String → σ.Objects) (request : MetronomeRequest) :
    String → σ.Objects :=
  Function.update objects (σ.named request) (σ.effect (objects (σ.named request)) request)

/-- The objects after these requests, the last of which stands first. -/
def after (objects : String → σ.Objects) (requests : List MetronomeRequest) :
    String → σ.Objects :=
  requests.foldr (fun request objects => σ.carryOut objects request) objects

/-- An outcome that has been given to a request. -/
abbrev Answer :=
  { x : MetronomeRequest × SdkOutcome // ∃ objects, x.2 = σ.answer objects x.1 }

structure Store where
  objects : String → σ.Objects
  answers : Nat → Option σ.Answer

/-- The service as the system sees it.  Others may change the objects of a
customer at any time. -/
noncomputable def metronome : Metronome where
  Store := σ.Store
  Choice := String × σ.Objects
  send store ticket request :=
    { objects := σ.carryOut store.objects request
      answers := Function.update store.answers ticket
        (some ⟨(request, σ.answer (store.objects (σ.named request)) request), _, rfl⟩) }
  serve store choice :=
    some { store with objects := Function.update store.objects choice.1 choice.2 }
  recv store ticket request outcome :=
    @decide (∃ answer, store.answers ticket = some answer ∧ answer.1 = (request, outcome))
      (Classical.propDecidable _)

end Service

section Owned

variable {σ : Service} {env : Env} {w₀ w w' : World σ.metronome}

/-- The answer that is received is the one the service has given. -/
theorem recv_eq_true {store : σ.Store} {ticket : Nat} {request : MetronomeRequest}
    {outcome : SdkOutcome} (h : σ.metronome.recv store ticket request outcome = true) :
    ∃ answer, store.answers ticket = some answer ∧ answer.1 = (request, outcome) :=
  @of_decide_eq_true _ (Classical.propDecidable _) h

/-- What the running attempts have heard are answers of the service. -/
def HeardAnswers (w : World σ.metronome) : Prop :=
  ∀ i s p, w.workers i = .running s p → ∀ ticket request outcome,
    Fact.answered ticket request outcome ∈ s.journal →
    ∃ objects, outcome = σ.answer objects request

/-- Mapping rows name Metronome objects of their own Stripe customer. -/
structure OwnRows (w : World σ.metronome) : Prop where
  heard : HeardAnswers w
  customer : ∀ c row, w.db.customerMappings.find? c = some row →
    σ.customerOf row.metronomeCustomerId = c
  contract : ∀ sub row, w.db.subscriptionMappings.find? sub = some row →
    σ.contractOf row.metronomeContractId = row.stripeCustomerId
  referential : Referential w

/-- Whatever an attempt has heard is the service's answer, so no step can make
it untrue. -/
theorem heardAnswers_move {label : Label σ.metronome} (h : HeardAnswers w)
    (hm : Move env w label w') : HeardAnswers w' := by
  intro i s p hi ticket request outcome hmem
  rcases session_source hm hi with ⟨row, rfl, _⟩ | ⟨s', p', hi', _, hjournal⟩
  · cases hmem
  · rcases hjournal _ hmem with hmem' | hheard
    · exact h i s' p' hi' ticket request outcome hmem'
    · obtain ⟨⟨x, objects, hx⟩, _, heq⟩ := recv_eq_true hheard
      obtain rfl : x = (request, outcome) := heq
      exact ⟨objects, hx⟩

/-- A contract that an attempt has obtained is the customer's. -/
theorem contractOf_obtained {s : Session} {request : ContractRequest} {id : String}
    {recovered : Bool} (hheard : ∀ ticket request outcome,
      Fact.answered ticket request outcome ∈ s.journal →
        ∃ objects, outcome = σ.answer objects request)
    (h : Obtained s request id recovered) :
    σ.contractOf id = σ.customerOf request.customerId := by
  cases h with
  | created hmem hid =>
      obtain ⟨objects, rfl⟩ := hheard _ _ _ hmem
      exact σ.contracted objects request id hid
  | recovered hmem hmatch =>
      obtain ⟨objects, hresponse⟩ := hheard _ _ _ hmem
      obtain ⟨contract, hcontract, hentry⟩ := Contracts.matchContract_eq_some hmatch
      exact σ.listed objects _ _ hresponse.symm contract hcontract id (by rw [hentry])

/-- A row is committed by an attempt that has heard of its ids. -/
theorem ownRows_move {label : Label σ.metronome} (hinv : WorldInv env w) (h : OwnRows w)
    (hmove : Move env w label w') : OwnRows w' := by
  have hm := tableMove hinv hmove
  refine ⟨heardAnswers_move h.heard hmove, fun c row hrow => ?_, fun sub row hrow => ?_,
    referential_move h.referential hm⟩
  · rcases customer_source hm hrow with
      ⟨row', hrow', hid⟩ | ⟨i, s, hi, _, _, hc, _, hwrites, _⟩
    · rw [← hid]
      exact h.customer c row' hrow'
    · cases hwrites with
      | insertCustomer _ hobject _ hrequest hanswered hid =>
          obtain ⟨objects, rfl⟩ := h.heard i s _ hi _ _ _ hanswered
          rw [σ.created objects _ _ hid, customerRequest_spec hrequest hobject, ← hc]
          rfl
  · rcases subscription_source hm hrow with hrow' | ⟨i, s, hi, hcom, _, _, _, hwrites, _⟩
    · exact h.contract sub row hrow'
    · cases hwrites with
      | @insertSubscription _ _ customer request _ _ hcontract _ hcustomer _ hobtained =>
          obtain ⟨customer', hfind, hid⟩ := hcom.customerRow _ _ hcustomer
          calc σ.contractOf row.metronomeContractId
              = σ.customerOf request.customerId :=
                contractOf_obtained (h.heard i s _ hi) hobtained
            _ = σ.customerOf customer'.metronomeCustomerId := by
              rw [hcontract.spec.1, hid]
            _ = row.stripeCustomerId := h.customer _ _ hfind

/-- There is no row at the start. -/
theorem ownRows_initial {w : World σ.metronome} (h : Initial w) : OwnRows w := by
  refine ⟨fun i s p hi => ?_, fun c row hrow => ?_, fun sub row hrow => ?_,
    fun sub row hrow => ?_⟩
  · rw [h.workers i] at hi
    cases hi
  all_goals
    rw [h.db] at hrow
    cases hrow

/-- **Mapping rows name objects of their own customer**, in every reachable
world. -/
theorem ownRows_of_path (h : Reaches (step env σ.metronome) w₀ w) (h₀ : Initial w₀) :
    OwnRows w :=
  run_invariant h h₀ (fun _ => ownRows_initial) fun _ _ _ _ => ownRows_move

end Owned

end Sidecar.Ports.Services
