import Sidecar.Ports.Customers
import Sidecar.Ports.Turns

/-!
# Who may disturb the creation of a customer

An attempt asks Metronome for a customer after it has found no row, and its row
is there once it has committed.  So the lookup keeps the next attempt from
asking again, unless something comes in between: another attempt looks the
customer up before the row is committed; the attempt is lost, or its answer is,
when the customer has been made or may still be; or the SDK POSTs the call twice.
Where none of this happens, nobody asks for a customer that Metronome has or
has been asked for.

## Main results

* `uncontested_of_undisturbed` — the attempt that asks is the only one.
* `guarded_step` — what one undisturbed step preserves.
* `created_once` — at most one customer carries the alias, and attempts end with
  its row.
* `created_once_lostAda` — an attempt lost after its create call, and a call that
  is POSTed twice, break both.
-/

namespace Sidecar.Ports.Undisturbed

open Sidecar.Verified.Resumption
open Sidecar.Verified.KeyedTable
open Sidecar.Verified.Transition
open Sidecar.Ports.Models
open Sidecar.Ports.Effects
open Sidecar.Ports.System
open Sidecar.Ports.Attempt
open Sidecar.Ports.Turns
open Sidecar.Ports.Moves
open Sidecar.Ports.Invariant
open Sidecar.Ports.Mappings
open Sidecar.Ports.Remote
open Sidecar.Ports.Calls
open Sidecar.Ports.Replies
open Sidecar.Ports.Agreement
open Sidecar.Ports.Customers

variable {env : Env} {policy : Policy} {w w' : World (metronome policy)}
  {label : Label (metronome policy)} {store store' : RemoteStore} {c : String}

/-! ## Disturbances -/

/-- The attempt is about the customer `c`, and has found no row. -/
def missed (c : String) (s : Session) : Bool :=
  (handlerOf s.loaded = some .customerCreated || handlerOf s.loaded =
    some .customerUpdated) &&
    s.journal.any fun
      | .customerRow c' none => c' = c
      | _ => false

/-- The attempt has asked Metronome for the customer of `c`. -/
def asked (c : String) (s : Session) : Bool :=
  s.journal.any fun
    | .sent _ request => createsFor c request
    | _ => false

/-- Metronome has the customer of `c`, or may still make it. -/
def outstanding (c : String) (store : RemoteStore) : Bool :=
  !(holders c store).isEmpty || !(underWay c store).isEmpty

/-- The attempt of worker `i`. -/
def attemptOf {M : Metronome} (w : World M) (i : WorkerId) : Option Session :=
  match w.workers i with
  | .running s _ => some s
  | _ => none

/-- Another attempt, which has found no row of `c`, is under way. -/
def overlaps {M : Metronome} (c : String) (w : World M) (i : WorkerId) : Bool :=
  w.db.webhookEvents.rows.any fun event =>
    (w.db.locks event.stripeEventId).any fun j => j ≠ i && (attemptOf w j).any (missed c)

/-- Nothing happens that may make the sidecar ask for the customer of `c` twice:
no second POST of a call for it is carried out; no attempt looks `c` up while
another, which has found no row, is under way; and no attempt that has asked for
the customer dies, or is left without a definite answer, when Metronome has the
customer or may still make it. -/
def undisturbed (c : String) (w : World (metronome policy)) :
    Label (metronome policy) → Bool
  | .serve choice => !reposts c w.remote choice
  | .crash i => !((attemptOf w i).any (asked c) && outstanding c w.remote)
  | .perform i choice =>
      match w.workers i, choice with
      | .running s (.perform (.lookupCustomerMapping c') _), _ =>
          !(c' = c && (handlerOf s.loaded = some .customerCreated ||
            handlerOf s.loaded = some .customerUpdated) && overlaps c w i)
      | .running _ (.perform (.recv _ request) _), .outcome outcome =>
          !(createsFor c request && indefinite outcome && outstanding c w.remote)
      | _, _ => true
  | _ => true

theorem missed_iff {s : Session} :
    missed c s = true ↔ IsCustomer s.loaded ∧ Fact.customerRow c none ∈ s.journal := by
  simp only [missed, Bool.and_eq_true, Bool.or_eq_true, decide_eq_true_eq,
    List.any_eq_true]
  refine and_congr Iff.rfl ⟨?_, fun h => ⟨_, h, decide_eq_true rfl⟩⟩
  rintro ⟨f, hmem, hf⟩
  split at hf
  · exact of_decide_eq_true hf ▸ hmem
  · cases hf

theorem asked_of_sent {s : Session} {ticket : Nat} {request : MetronomeRequest}
    (hsent : Fact.sent ticket request ∈ s.journal)
    (hcreates : createsFor c request = true) :
    asked c s = true := List.any_eq_true.mpr ⟨_, hsent, hcreates⟩

theorem createCustomer_of_creates {request : MetronomeRequest}
    (h : createsFor c request = true) : ∃ body, request = .createCustomer body := by
  cases request with
  | createCustomer body => exact ⟨body, rfl⟩
  | _ => cases h

theorem attemptOf_eq {M : Metronome} {w : World M} {i : WorkerId} {s : Session}
    {p : Effect Unit} (hi : w.workers i = .running s p) : attemptOf w i = some s := by
  rw [attemptOf, hi]

theorem attemptOf_eq_some {M : Metronome} {w : World M} {i : WorkerId} {s : Session}
    (h : attemptOf w i = some s) : ∃ p, w.workers i = .running s p := by
  unfold attemptOf at h
  split at h
  · next s' p hi =>
      cases h
      exact ⟨p, hi⟩
  · cases h

theorem outstanding_eq_false : outstanding c store = false ↔
    holders c store = [] ∧ underWay c store = [] := by
  simp [outstanding, List.isEmpty_iff]

/-- An attempt that asks for the customer has found no row. -/
theorem missed_of_sends {s : Session} {request : MetronomeRequest}
    (h : Sends env.settings env.tiers s request)
    (hcreates : createsFor c request = true) :
    missed c s = true := by
  cases h with
  | createCustomer hcustomer hid hrow hrequest =>
      obtain rfl := (createsFor_request hrequest hid).mp hcreates
      exact missed_iff.mpr ⟨hcustomer, hrow⟩
  | _ => cases hcreates

/-- An attempt under way, which has found no row, is seen by the others. -/
theorem overlaps_of_running (hinv : WorldInv env w) {i j : WorkerId} {s : Session}
    {p : Effect Unit} (hj : w.workers j = .running s p) (hp : s.poisoned = false)
    (hmissed : missed c s = true) (hne : j ≠ i) : overlaps c w i = true := by
  have hrunning := hinv.running hj
  have hlock := (hrunning.locked _).mpr ⟨hp, rfl⟩
  refine List.any_eq_true.mpr ⟨s.loaded, Table.find?_mem (hrunning.row hp), ?_⟩
  rw [hlock, Option.any_some, attemptOf_eq hj, Option.any_some, hmissed, Bool.and_true]
  exact decide_eq_true hne

/-! ## Calls and their answers -/

/-- What holds in every run: an attempt waits for the one call that has not been
answered yet, and a call gets one answer. -/
structure Answering (env : Env) (w : World (metronome policy)) : Prop where
  turns : ∀ i s p, w.workers i = .running s p → ∃ l, Always waiting InTurn p l ∧
    ∀ ticket request, Fact.sent ticket request ∈ s.journal → l = some (ticket, request) ∨
      ∃ outcome, Fact.answered ticket request outcome ∈ s.journal
  served : ∀ ticket request reply, (ticket, request) ∈ w.remote.inFlight →
    (ticket, reply) ∉ w.remote.replies
  once : ∀ ticket reply reply', (ticket, reply) ∈ w.remote.replies →
    (ticket, reply') ∈ w.remote.replies → reply = reply'

theorem turns_move (h : Answering env w) (hm : Move env w label w') (i : WorkerId)
    (s' : Session) (p' : Effect Unit) (hi : w'.workers i = .running s' p') :
    ∃ l, Always waiting InTurn p' l ∧
      ∀ ticket request, Fact.sent ticket request ∈ s'.journal → l =
        some (ticket, request) ∨
        ∃ outcome, Fact.answered ticket request outcome ∈ s'.journal := by
  rcases running_source hm hi with
    ⟨row, rfl, rfl, _⟩ | hsame | ⟨s, o, r, w'', k, hat, hx, rfl, rfl, _⟩
  · exact ⟨none, orderly_handleEvent row, fun _ _ hsent => by cases hsent⟩
  · exact h.turns i s' p' hsame
  · obtain ⟨l, hturns, hcalls⟩ := h.turns i s _ hat
    have hworkers : (w''.setPhase i (.running (s.after o r) (k r))).workers i =
        .running (s.after o r) (k r) := Function.update_self _ _ _
    rw [hworkers] at hi
    obtain rfl : k r = p' := (Phase.running.inj hi).2
    refine ⟨waiting.after o r l, hturns.step trivial, fun ticket request hsent => ?_⟩
    -- only the node after a call waits
    have hnone : (∀ ticket request, o ≠ .recv ticket request) → l = none := fun hne => by
      cases l with
      | none => rfl
      | some call => cases hturns.here.await call rfl; exact absurd rfl (hne _ _)
    have hold : l = none → Fact.sent ticket request ∈ s.journal →
        s.journal ⊆ (s.after o r).journal →
        waiting.after o r l = some (ticket, request) ∨
          ∃ outcome, Fact.answered ticket request outcome ∈ (s.after o r).journal := by
      intro hl hmem hsub
      rcases hcalls _ _ hmem with hwaits | ⟨outcome, hanswered⟩
      · rw [hl] at hwaits
        cases hwaits
      · exact .inr ⟨outcome, hsub hanswered⟩
    cases hx with
    | send request' =>
        rcases List.mem_cons.mp hsent with heq | hmem
        · cases heq
          exact .inl rfl
        · exact hold (hnone (by simp)) hmem (List.subset_cons_self _ _)
    | @recv ticket' request' outcome _ =>
        have hmem : Fact.sent ticket request ∈ s.journal :=
          (List.mem_cons.mp hsent).resolve_left (by simp)
        rcases hcalls _ _ hmem with hwaits | ⟨outcome', hanswered⟩
        · rw [hturns.here.recv _ _ rfl] at hwaits
          cases hwaits
          exact .inr ⟨outcome, List.mem_cons_self⟩
        · exact .inr ⟨outcome', List.mem_cons_of_mem _ hanswered⟩
    | lookupCustomerMapping _ | lookupSubscriptionMapping _ | clock | uniform _ =>
        exact hold (hnone (by simp)) ((List.mem_cons.mp hsent).resolve_left (by simp))
          (List.subset_cons_self _ _)
    | _ => exact hold (hnone (by simp)) hsent (List.Subset.refl _)

theorem not_mem_arrive {ticket : Nat} {request : MetronomeRequest} :
    (ticket, request) ∉ (store.arrive ticket).inFlight := by
  simp [RemoteStore.arrive]

/-- A call that is answered is no longer under way. -/
theorem answered_arrives {choice : RemoteChoice}
    (h : RemoteMove policy store choice store') :
    store'.replies = store.replies ∨
      ∃ ticket request reply, (ticket, request) ∈ store.inFlight ∧
        store'.replies = (ticket, reply) :: store.replies ∧
        ∀ request', (ticket, request') ∉ store'.inFlight := by
  cases h with
  | @carriedOut ticket newId request store'' reply hlookup hc =>
      refine .inr ⟨ticket, request, reply, mem_of_lookup hlookup, ?_,
        fun request' hmem => ?_⟩
      · rw [RemoteStore.answer, hc.network.2.1]
        rfl
      · exact not_mem_arrive (hc.network.1 ▸ hmem)
  | reposted _ hc => exact .inl hc.network.2.1
  | refused hlookup _ =>
      exact .inr ⟨_, _, _, mem_of_lookup hlookup, rfl, fun _ => not_mem_arrive⟩
  | dropped _ => exact .inl rfl
  | foreign _ => exact .inl rfl

theorem answering_move (hk : Known env w) (h : Answering env w)
    (hm : Move env w label w') :
    Answering env w' := by
  have hturns := turns_move h hm
  rcases remote_move hm with heq | ⟨e, request', heq, _⟩ | ⟨_, _, hmove⟩
  · exact ⟨hturns, by rw [heq]; exact h.served, by rw [heq]; exact h.once⟩
  · refine ⟨hturns, fun ticket request reply hflight hreply => ?_,
      by rw [heq]; exact h.once⟩
    rw [heq] at hflight hreply
    rcases List.mem_cons.mp hflight with hnew | hold
    · -- the ticket is new
      cases hnew
      obtain ⟨e', _, hcalled, _⟩ := hk.remote.replies _ _ hreply
      exact Nat.lt_irrefl _ (hk.calls.issued _ _ _ hcalled)
    · exact h.served _ _ _ hold hreply
  · rcases answered_arrives hmove with
      hsame | ⟨ticket, request, reply, hmem, hcons, hgone⟩
    · refine ⟨hturns, fun t r reply hflight => ?_, by rw [hsame]; exact h.once⟩
      rw [hsame]
      exact h.served t r reply (hmove.inFlight hflight)
    · refine ⟨hturns, fun t r reply' hflight hreply => ?_,
        fun t reply₁ reply₂ h₁ h₂ => ?_⟩
      · rw [hcons] at hreply
        rcases List.mem_cons.mp hreply with heq | hold
        · cases heq
          exact hgone _ hflight
        · exact h.served t r reply' (hmove.inFlight hflight) hold
      · rw [hcons] at h₁ h₂
        have hfirst : ∀ x, (ticket, x) ∉ w.remote.replies := fun x => h.served _ _ x hmem
        rcases List.mem_cons.mp h₁ with heq₁ | hold₁
        · cases heq₁
          rcases List.mem_cons.mp h₂ with heq₂ | hold₂
          · cases heq₂
            rfl
          · exact absurd hold₂ (hfirst _)
        · rcases List.mem_cons.mp h₂ with heq₂ | hold₂
          · cases heq₂
            exact absurd hold₁ (hfirst _)
          · exact h.once _ _ _ hold₁ hold₂

theorem answering_initial (h : Initial w) (hquiet : Quiet w.remote) :
    Answering env w where
  turns i s p hi := by
    rw [h.workers i] at hi
    cases hi
  served ticket request reply hmem := by
    rw [hquiet.inFlight] at hmem
    cases hmem
  once ticket reply reply' hmem := by
    rw [hquiet.replies] at hmem
    cases hmem

/-! ## Who has asked -/

/-- An attempt that has asked for the customer of `c`, whose call Metronome has
carried out or still has to, and who has not been left without an answer. -/
structure Asker (c : String) (store : RemoteStore) (s : Session) (ticket : Nat)
    (request : MetronomeRequest) : Prop where
  intact : s.poisoned = false
  asked : Fact.sent ticket request ∈ s.journal
  creates : createsFor c request = true
  live : (ticket, request) ∈ store.inFlight ∨ ∃ id,
    (ticket, Reply.created id) ∈ store.replies
  definite : ∀ outcome, Fact.answered ticket request outcome ∈ s.journal →
    indefinite outcome = false

/-- What keeps the sidecar from asking twice: one attempt at a time has found no
row, and there is none; and a customer that Metronome has, or may still make,
has its row, or an attempt that will commit it. -/
structure Guarded (c : String) (w : World (metronome policy)) : Prop where
  unmapped : ∀ i s p, w.workers i = .running s p → s.poisoned = false →
    missed c s = true →
    w.db.customerMappings.find? c = none
  alone : ∀ i s p j s' p', w.workers i = .running s p → s.poisoned = false →
    missed c s = true → w.workers j = .running s' p' → s'.poisoned = false →
    missed c s' = true → i = j
  backed : outstanding c w.remote = true →
    (∃ row, w.db.customerMappings.find? c = some row) ∨
      ∃ i s p ticket request, w.workers i = .running s p ∧
      Asker c w.remote s ticket request

/-- An attempt that has asked has found no row. -/
theorem missed_of_asked (hinv : WorldInv env w) {i : WorkerId} {s : Session}
    {p : Effect Unit}
    (hi : w.workers i = .running s p) {ticket : Nat} {request : MetronomeRequest}
    (hsent : Fact.sent ticket request ∈ s.journal)
    (hcreates : createsFor c request = true) :
    missed c s = true :=
  missed_of_sends ((hinv.running hi).session.sent _ _ hsent) hcreates

/-- **Nobody asks for a customer that is there, or has been asked for**, if
nothing interferes with the attempts. -/
theorem uncontested_of_undisturbed (hinv : WorldInv env w) (h : Guarded c w)
    (hu : undisturbed c w label = true) : uncontested c w label = true := by
  cases label with
  | serve choice => exact hu
  | perform i choice =>
      simp only [uncontested]
      split
      · next s request k hi =>
          cases hcreates : createsFor c request with
          | false => rfl
          | true =>
              obtain ⟨hsends, hintact, hunasked⟩ := (hinv.running hi).always.here
              have hmissed := missed_of_sends hsends hcreates
              cases houtstanding : outstanding c w.remote with
              | false =>
                  obtain ⟨hholders, hunder⟩ := outstanding_eq_false.mp houtstanding
                  rw [hholders, hunder]
                  rfl
              | true =>
                  have hnone := h.unmapped i s _ hi hintact hmissed
                  rcases h.backed houtstanding with
                    ⟨row, hrow⟩ | ⟨j, s', p', ticket, request', hj, hasker⟩
                  · rw [hnone] at hrow
                    cases hrow
                  · -- the attempt that has asked is this one, but it has not asked yet
                    have hmissed' := missed_of_asked hinv hj hasker.asked hasker.creates
                    obtain rfl :=
                      h.alone i s _ j s' p' hi hintact hmissed hj hasker.intact hmissed'
                    rw [hi] at hj
                    cases hj
                    obtain ⟨body, rfl⟩ := createCustomer_of_creates hasker.creates
                    obtain ⟨body', rfl⟩ := createCustomer_of_creates hcreates
                    exact absurd hasker.asked (hunasked _ rfl _ _)
      · rfl
  | _ => rfl

/-! ## One step -/

/-- Where an attempt that has found no row comes from: it had found none, or it
has just looked. -/
theorem missed_source (hm : Move env w label w') {i : WorkerId} {s' : Session}
    {p' : Effect Unit} (hi : w'.workers i = .running s' p') (hp : s'.poisoned = false)
    (hmissed : missed c s' = true) :
    (∃ s p, w.workers i = .running s p ∧ s.poisoned = false ∧ missed c s = true) ∨
      ∃ s k choice, label = .perform i choice ∧
        w.workers i = .running s (.perform (.lookupCustomerMapping c) k) ∧
        s.poisoned = false ∧ IsCustomer s.loaded ∧
        (view w.db i).customerMappings.find? c = none ∧ w'.db = w.db := by
  rcases running_source hm hi with
    ⟨row, rfl, _⟩ | hsame | ⟨s, o, r, w'', k, hat, hx, rfl, rfl, choice, rfl⟩
  · cases (missed_iff.mp hmissed).2
  · exact .inl ⟨s', p', hsame, hp, hmissed⟩
  · obtain ⟨hcustomer, hrow⟩ := missed_iff.mp hmissed
    rw [after_loaded] at hcustomer
    have hintact := after_poisoned hp
    have hold : Fact.customerRow c none ∈ s.journal →
        ∃ s₀ p₀, w.workers i = .running s₀ p₀ ∧ s₀.poisoned = false ∧
        missed c s₀ = true :=
      fun hmem => ⟨s, _, hat, hintact, missed_iff.mpr ⟨hcustomer, hmem⟩⟩
    cases hx with
    | lookupCustomerMapping c' =>
        rcases List.mem_cons.mp hrow with heq | hmem
        · obtain ⟨rfl, hnone⟩ := Fact.customerRow.inj heq
          exact .inr ⟨s, k, choice, rfl, hat, hintact, hcustomer, hnone.symm, rfl⟩
        · exact .inl (hold hmem)
    | lookupSubscriptionMapping _ | send _ | recv _ | clock | uniform _ =>
        exact .inl (hold ((List.mem_cons.mp hrow).resolve_left (by simp)))
    | _ => exact .inl (hold hrow)

/-- No other attempt has found no row when one looks `c` up. -/
theorem looksUp_alone (hinv : WorldInv env w) {i : WorkerId} {choice : Choice}
    (hu : undisturbed c w (.perform i choice) = true) {s : Session}
    {k : Res (.lookupCustomerMapping c) → Effect Unit}
    (hi : w.workers i = .running s (.perform (.lookupCustomerMapping c) k))
    (hcustomer : IsCustomer s.loaded) {j : WorkerId} {s' : Session} {p' : Effect Unit}
    (hj : w.workers j = .running s' p') (hp : s'.poisoned = false)
    (hmissed : missed c s' = true) :
    j = i := by
  by_contra hne
  have hoverlaps := overlaps_of_running hinv hj hp hmissed hne
  have hhandler : (handlerOf s.loaded = some .customerCreated ||
      handlerOf s.loaded = some .customerUpdated) = true := by
    simpa [IsCustomer] using hcustomer
  simp only [undisturbed, hi, hoverlaps, hhandler, decide_true, Bool.and_self,
    Bool.not_true] at hu
  cases hu

theorem unmapped_step (hinv : WorldInv env w) (h : Guarded c w) (hm : Move env w label w')
    (i : WorkerId) (s' : Session) (p' : Effect Unit) (hi : w'.workers i = .running s' p')
    (hp : s'.poisoned = false) (hmissed : missed c s' = true) :
    w'.db.customerMappings.find? c = none := by
  rcases missed_source hm hi hp hmissed with
    ⟨s, p, hi', hp', hmissed'⟩ | ⟨s, k, choice, rfl, hi', hp', hcustomer, hnone, hdb⟩
  · have hnone := h.unmapped i s p hi' hp' hmissed'
    by_contra hmapped
    obtain ⟨row, hrow⟩ := Option.ne_none_iff_exists'.mp hmapped
    -- the attempt that commits the row has found none, so it is this one
    obtain ⟨j, sj, hj, hidle, hpj, hc, hwrites⟩ := inserted_source hinv hm hnone hrow
    have hmissedj : missed c sj = true := by
      cases hwrites with
      | insertCustomer hcustomer _ hlooked _ _ _ =>
          exact missed_iff.mpr ⟨hcustomer, hc ▸ hlooked⟩
    obtain rfl := h.alone i s p j sj _ hi' hp' hmissed' hj hpj hmissedj
    rw [hidle] at hi
    cases hi
  · have hallowed : Allowed env.settings env.tiers s (.lookupCustomerMapping c) :=
      (hinv.running hi').always.here
    have hown : w.db.own i = [] := (hinv.running hi').own.trans hallowed.1
    rw [hdb, ← hnone, view_of_own_nil hown]

theorem alone_step (hinv : WorldInv env w) (h : Guarded c w)
    (hu : undisturbed c w label = true) (hm : Move env w label w') (i : WorkerId)
    (s : Session) (p : Effect Unit) (j : WorkerId) (s' : Session) (p' : Effect Unit)
    (hi : w'.workers i = .running s p) (hp : s.poisoned = false)
    (hmissed : missed c s = true)
    (hj : w'.workers j = .running s' p') (hp' : s'.poisoned = false)
    (hmissed' : missed c s' = true) : i = j := by
  rcases missed_source hm hi hp hmissed with
    ⟨t, q, hi, hp, hmissed⟩ | ⟨t, k, choice, rfl, hi, _, hcustomer, _, _⟩
  · rcases missed_source hm hj hp' hmissed' with
      ⟨t', q', hj, hp', hmissed'⟩ | ⟨t', k', choice', rfl, hj, _, hcustomer', _, _⟩
    · exact h.alone i t q j t' q' hi hp hmissed hj hp' hmissed'
    · exact looksUp_alone hinv hu hj hcustomer' hi hp hmissed
  · rcases missed_source hm hj hp' hmissed' with
      ⟨t', q', hj, hp', hmissed'⟩ | ⟨t', k', choice', heq, _, _, _, _, _⟩
    · exact (looksUp_alone hinv hu hi hcustomer hj hp' hmissed').symm
    · exact (Label.perform.inj heq).1

/-- What becomes of an attempt: it stays as it is, ends, dies, or makes its next
request. -/
theorem running_next (hs : step env _ w label = some w') {i : WorkerId} {s : Session}
    {p : Effect Unit} (hi : w.workers i = .running s p) :
    w'.workers i = .running s p ∨ label = .finish i ∨ label = .crash i ∨
      ∃ o k choice r w'', p = .perform o k ∧ label = .perform i choice ∧
        exec env w i s o choice = some (w'', r) ∧
        w' = w''.setPhase i (.running (s.after o r) (k r)) := by
  by_cases hlabel : ∃ choice, label = .perform i choice
  · obtain ⟨choice, rfl⟩ := hlabel
    cases p with
    | perform o k =>
        rw [step, hi] at hs
        obtain ⟨⟨w'', r⟩, hexec, rfl⟩ := Option.map_eq_some_iff.mp hs
        exact .inr (.inr (.inr ⟨o, k, choice, r, w'', rfl, rfl, hexec, rfl⟩))
    | _ =>
        rw [step, hi] at hs
        cases hs
  · have hother : ∀ j phase, w'.workers = Function.update w.workers j phase → j ≠ i →
        w'.workers i = .running s p := by
      intro j phase hworkers hji
      rw [hworkers, Function.update_of_ne (Ne.symm hji)]
      exact hi
    have hphase : ∀ j phase, w'.workers = Function.update w.workers j phase →
        (∀ s p, w.workers j ≠ .running s p) → w'.workers i = .running s p := by
      refine fun j phase hworkers hidle => hother j phase hworkers fun hji => ?_
      subst hji
      exact hidle s p hi
    cases step_sound hs with
    | selected hj => exact .inl (hphase _ _ rfl (by simp [hj]))
    | exhausted hj => exact .inl (hphase _ _ rfl (by simp [hj]))
    | passed hj _ => exact .inl (hphase _ _ rfl (by simp [hj]))
    | claimed hj _ _ _ _ => exact .inl (hphase _ _ rfl (by simp [hj]))
    | @performed j choice s' o k r w'' hj hx =>
        have hji : j ≠ i := fun hji => hlabel ⟨choice, hji ▸ rfl⟩
        refine .inl (hother j (.running (s'.after o r) (k r)) ?_ hji)
        rw [← hx.workers]
        rfl
    | @committed j _ _ _ _ _ =>
        by_cases hji : j = i
        · exact .inr (.inl (hji ▸ rfl))
        · exact .inl (hother j _ rfl hji)
    | @undone j _ _ _ _ _ =>
        by_cases hji : j = i
        · exact .inr (.inl (hji ▸ rfl))
        · exact .inl (hother j _ rfl hji)
    | @crashed j _ =>
        by_cases hji : j = i
        · exact .inr (.inr (.inl (hji ▸ rfl)))
        · exact .inl (hother j _ rfl hji)
    | _ => exact .inl hi

/-- An attempt is not left without an answer to its call while Metronome has the
customer, or may still make it. -/
theorem recv_definite {i : WorkerId} {choice : Choice}
    (hu : undisturbed c w (.perform i choice) = true) {s : Session} {ticket : Nat}
    {request : MetronomeRequest} {k : Res (.recv ticket request) → Effect Unit}
    (hi : w.workers i = .running s (.perform (.recv ticket request) k))
    (hcreates : createsFor c request = true) (hthere : outstanding c w.remote = true)
    {outcome : SdkOutcome} {w'' : World (metronome policy)}
    (hexec : exec env w i s (.recv ticket request) choice = some (w'', outcome)) :
    indefinite outcome = false := by
  cases choice with
  | outcome outcome' =>
      rw [exec] at hexec
      split at hexec
      · cases hexec
        simpa [undisturbed, hi, hcreates, hthere] using hu
      · cases hexec
  | _ => cases hexec

/-- An attempt that has asked goes on. -/
theorem Asker.perform (h : CustomerInv env c w) {i : WorkerId} {choice : Choice}
    (hu : undisturbed c w (.perform i choice) = true)
    (hthere : outstanding c w.remote = true)
    {s : Session} {o : Op} {k : Res o → Effect Unit}
    (hi : w.workers i = .running s (.perform o k))
    {ticket : Nat} {request : MetronomeRequest}
    (hasker : Asker c w.remote s ticket request)
    {w'' : World (metronome policy)} {r : Res o}
    (hexec : exec env w i s o choice = some (w'', r)) :
    Asker c w''.remote (s.after o r) ticket request := by
  -- a fact that is no answer to this call changes nothing
  have hlearn : ∀ f, (∀ outcome, f ≠ .answered ticket request outcome) →
      Asker c w.remote (s.learn f) ticket request := fun f hne => {
    intact := hasker.intact
    asked := List.mem_cons_of_mem _ hasker.asked
    creates := hasker.creates
    live := hasker.live
    definite := fun outcome hmem =>
      hasker.definite outcome ((List.mem_cons.mp hmem).resolve_left (hne outcome).symm) }
  cases o with
  | recv ticket' request' =>
      cases exec_sound hexec
      refine ⟨hasker.intact, List.mem_cons_of_mem _ hasker.asked, hasker.creates,
        hasker.live, fun outcome hmem => ?_⟩
      rcases List.mem_cons.mp hmem with heq | hold
      · cases heq
        exact recv_definite hu hi hasker.creates hthere hexec
      · exact hasker.definite outcome hold
  | send request' =>
      cases exec_sound hexec
      have hnext := hlearn (.sent w.tickets request') (by simp)
      exact { hnext with live := hasker.live.imp_left (List.mem_cons_of_mem _) }
  | flush =>
      cases exec_sound hexec with
      | flushDead hp => rw [hasker.intact] at hp; cases hp
      | flushRefused hp _ hr =>
          rw [flush_accepted h.inv h.known h.made h.once hi hp hasker.asked
            hasker.creates] at hr
          cases hr
      | flushStaged _ _ _ =>
          exact ⟨hasker.intact, hasker.asked, hasker.creates, hasker.live,
            hasker.definite⟩
  | lookupCustomerMapping c' =>
      cases exec_sound hexec
      exact hlearn _ (by simp)
  | lookupSubscriptionMapping sub =>
      cases exec_sound hexec
      exact hlearn _ (by simp)
  | clock =>
      cases exec_sound hexec
      exact hlearn _ (by simp)
  | uniform hi' =>
      cases exec_sound hexec
      exact hlearn _ (by simp)
  | _ =>
      cases exec_sound hexec
      exact ⟨hasker.intact, hasker.asked, hasker.creates, hasker.live, hasker.definite⟩

/-- The program of an attempt that ends is over. -/
theorem over_of_finish (hm : Move env w (.finish i) w') {s : Session} {p : Effect Unit}
    (hi : w.workers i = .running s p) : ∀ o k, p ≠ .perform o k := by
  cases hm with
  | committed hi' _ _ =>
      rw [hi] at hi'
      cases hi'
      exact fun o k heq => by cases heq
  | undone hi' _ hover =>
      rw [hi] at hi'
      cases hi'
      exact hover

/-- **An attempt that has asked leaves the row behind.** -/
theorem Asker.finish (h : CustomerInv env c w) (ha : Answering env w) {i : WorkerId}
    {s : Session} {p : Effect Unit} (hi : w.workers i = .running s p) {ticket : Nat}
    {request : MetronomeRequest} (hasker : Asker c w.remote s ticket request)
    (hm : Move env w (.finish i) w') (hmapped : Mapped env w') :
    ∃ row, w'.db.customerMappings.find? c = some row := by
  obtain ⟨hcustomer, hid⟩ := customer_of_sends
    ((h.inv.running hi).session.sent _ _ hasker.asked) hasker.creates
  obtain ⟨body, rfl⟩ := createCustomer_of_creates hasker.creates
  refine h.maps hi hcustomer hid ?_ hm hmapped
  -- at its end an attempt waits for nothing, so the call has been answered
  obtain ⟨l, hturns, hcalls⟩ := ha.turns i s p hi
  have hl : l = none := by
    cases p with
    | ret a => exact hturns.here.ret
    | raise exc => exact hturns.here.raise
    | perform o k => exact absurd rfl (over_of_finish hm hi o k)
  obtain ⟨outcome, hanswered⟩ := (hcalls _ _ hasker.asked).resolve_left (by simp [hl])
  obtain ⟨reply, hreply, _, hreports⟩ :=
    h.known.answered h.inv hi hanswered (hasker.definite outcome hanswered)
  rcases hasker.live with hflight | ⟨id, hcreated⟩
  · exact absurd hreply (ha.served _ _ _ hflight)
  · obtain rfl := ha.once _ _ _ hreply hcreated
    refine settled_iff.mpr ⟨_, _, outcome, hanswered, ?_⟩
    cases outcome with
    | ok response => rfl
    | _ => cases hreports

/-- The call of an attempt that has asked stays under way until it has made the
customer. -/
theorem Asker.live_serve (h : CustomerInv env c w) (h' : CustomerInv env c w')
    (hm : Move env w label w') {choice : RemoteChoice}
    (hmove : RemoteMove policy w.remote choice w'.remote) {s : Session} {ticket : Nat}
    {request : MetronomeRequest} {e : String}
    (hcalled : Entry.called e ticket request ∈ w.history)
    (hasker : Asker c w.remote s ticket request)
    (hthere : outstanding c w'.remote = true) :
    (ticket, request) ∈ w'.remote.inFlight ∨
      ∃ id, (ticket, Reply.created id) ∈ w'.remote.replies := by
  rcases hasker.live with hflight | ⟨id, hcreated⟩
  · have hkeep : ∀ t, t ≠ ticket → (ticket, request) ∈ (w.remote.arrive t).inFlight :=
      fun t hne => List.mem_filter.mpr ⟨hflight, by simpa using hne.symm⟩
    -- a call that is given up has made no customer, and nobody else has
    have hgone : ∀ t, outstanding c (w.remote.arrive t) = true → t ≠ ticket := by
      rintro t hthere rfl
      have hlt := underWay_arrive_lt hflight hasker.creates
      have hcount := h.once.remote.count
      have hvacant : holders c w.remote = [] :=
        h.once.remote.vacant hflight hasker.creates
      have hunder : underWay c (w.remote.arrive t) = [] :=
        List.length_eq_zero_iff.mp (by omega)
      have hnone : outstanding c (w.remote.arrive t) = false :=
        outstanding_eq_false.mpr ⟨hvacant, hunder⟩
      rw [hnone] at hthere
      cases hthere
    generalize hremote : w'.remote = store' at hmove hthere
    cases hmove with
    | @carriedOut t newId request' store'' reply hlookup hc =>
        by_cases hne : t = ticket
        · subst hne
          obtain ⟨e', hcalled'⟩ := h.known.remote.inFlight _ _ (mem_of_lookup hlookup)
          obtain ⟨_, rfl⟩ := h.known.calls.single _ _ _ _ _ hcalled hcalled'
          obtain ⟨body, rfl⟩ := createCustomer_of_creates hasker.creates
          cases hc with
          | duplicate _ _ =>
              have hreply : (t, Reply.conflict) ∈ w'.remote.replies :=
                hremote ▸ List.mem_cons_self
              exact absurd hreply (h'.once.accepted _ _ _ (history_mono hm hcalled)
                hasker.creates)
          | createdCustomer _ _ => exact .inr ⟨newId, List.mem_cons_self⟩
        · exact .inl (hc.network.1 ▸ hkeep t hne)
    | reposted _ hc => exact .inl (hc.network.1 ▸ hflight)
    | @refused t _ _ _ _ => exact .inl (hkeep t (hgone t hthere))
    | dropped t => exact .inl (hkeep t (hgone t hthere))
    | foreign _ => exact .inl hflight
  · exact .inr ⟨id, hmove.replies_subset hcreated⟩

/-- Metronome takes up no customer of `c` by itself. -/
theorem outstanding_serve {choice : RemoteChoice} (hu : reposts c store choice = false)
    (hmove : RemoteMove policy store choice store') (h : outstanding c store' = true) :
    outstanding c store = true := by
  cases hthere : outstanding c store with
  | true => rfl
  | false =>
      obtain ⟨hholders, hunder⟩ := outstanding_eq_false.mp hthere
      have hunder' : underWay c store' = [] :=
        List.eq_nil_iff_forall_not_mem.mpr fun x hx => by
          obtain ⟨hmem, hcreates⟩ := List.mem_filter.mp hx
          have hold : x ∈ underWay c store :=
            List.mem_filter.mpr ⟨hmove.inFlight hmem, hcreates⟩
          rw [hunder] at hold
          cases hold
      have hnew : holders c store' = [] := by
        cases hmove with
        | @carriedOut ticket newId request store'' reply hlookup hc =>
            have hle : (holders c store'').length ≤
              (holders c (store.arrive ticket)).length +
              if createsFor c request then 1 else 0 := holders_carriedOut hc
            have hsame : holders c (store.arrive ticket) = holders c store := rfl
            have hother : createsFor c request = false := by
              by_contra hcreates
              have hold : (ticket, request) ∈ underWay c store := List.mem_filter.mpr
                ⟨mem_of_lookup hlookup, Bool.eq_true_of_not_eq_false hcreates⟩
              rw [hunder] at hold
              cases hold
            rw [hother, hsame, hholders] at hle
            exact List.length_eq_zero_iff.mp (Nat.le_zero.mp hle)
        | @reposted ticket newId request store'' reply hlookup hc =>
            have hle := holders_carriedOut (c := c) hc
            have hother : createsFor c request = false := by
              rw [reposts, hlookup] at hu
              exact hu
            rw [hother, hholders] at hle
            exact List.length_eq_zero_iff.mp (Nat.le_zero.mp hle)
        | _ => exact hholders
      rw [outstanding_eq_false.mpr ⟨hnew, hunder'⟩] at h
      cases h

/-- An attempt that has asked is still there, or has left the row behind. -/
theorem Asker.step (h : CustomerInv env c w) (ha : Answering env w)
    (hmapped : Mapped env w')
    (hu : undisturbed c w label = true) (hs : step env _ w label = some w')
    (hthere : outstanding c w.remote = true) {i : WorkerId} {s : Session}
    {p : Effect Unit}
    (hi : w.workers i = .running s p) {ticket : Nat} {request : MetronomeRequest}
    (hasker : Asker c w.remote s ticket request)
    (hlive : (ticket, request) ∈ w'.remote.inFlight ∨
      ∃ id, (ticket, Reply.created id) ∈ w'.remote.replies) :
    (∃ row, w'.db.customerMappings.find? c = some row) ∨
      ∃ i s p ticket request, w'.workers i = .running s p ∧
        Asker c w'.remote s ticket request := by
  rcases running_next hs hi with
    hsame | rfl | rfl | ⟨o, k, choice, r, w'', rfl, rfl, hexec, rfl⟩
  · exact .inr ⟨i, s, p, ticket, request, hsame, { hasker with live := hlive }⟩
  · exact .inl (hasker.finish h ha hi (step_sound hs) hmapped)
  · have hasked := asked_of_sent hasker.asked hasker.creates
    simp [undisturbed, attemptOf_eq hi, hasked, hthere] at hu
  · have hnext : Asker c w''.remote (s.after o r) ticket request :=
      hasker.perform h hu hthere hi hexec
    exact .inr ⟨i, s.after o r, k r, ticket, request, Function.update_self _ _ _, hnext⟩

theorem backed_step (h : CustomerInv env c w) (h' : CustomerInv env c w')
    (ha : Answering env w)
    (hg : Guarded c w) (hmapped : Mapped env w') (hu : undisturbed c w label = true)
    (hs : step env _ w label = some w') (hthere : outstanding c w'.remote = true) :
    (∃ row, w'.db.customerMappings.find? c = some row) ∨
      ∃ i s p ticket request, w'.workers i = .running s p ∧
        Asker c w'.remote s ticket request := by
  have hm := step_sound hs
  -- what was backed before the step
  have hold : outstanding c w.remote = true → (∀ i s p ticket request,
      w.workers i = .running s p → Asker c w.remote s ticket request →
      (ticket, request) ∈ w'.remote.inFlight ∨
        ∃ id, (ticket, Reply.created id) ∈ w'.remote.replies) →
      (∃ row, w'.db.customerMappings.find? c = some row) ∨
        ∃ i s p ticket request, w'.workers i = .running s p ∧
          Asker c w'.remote s ticket request := by
    intro hbefore hlive
    rcases hg.backed hbefore with ⟨row, hrow⟩ | ⟨i, s, p, ticket, request, hi, hasker⟩
    · obtain ⟨row', hrow', _⟩ := customer_stays (tableMove h.inv hm) hrow
      exact .inl ⟨row', hrow'⟩
    · exact hasker.step h ha hmapped hu hs hbefore hi
        (hlive i s p ticket request hi hasker)
  rcases remote_move hm with heq | ⟨e, request, heq, hcalled⟩ | ⟨choice, rfl, hmove⟩
  · exact hold (heq ▸ hthere) fun _ _ _ _ _ _ hasker => heq ▸ hasker.live
  · by_cases hcreates : createsFor c request = true
    · -- the attempt that has just made the call
      obtain ⟨i, choice, s, k, rfl, hi, _⟩ :=
        (call_source hm hcalled).resolve_left fun hmem =>
        Nat.lt_irrefl _ (h.known.calls.issued _ _ _ hmem)
      have hallowed : Allowed env.settings env.tiers s (.send request) :=
        (h.inv.running hi).always.here
      have hunanswered :
          ∀ outcome, Fact.answered w.tickets request outcome ∉ s.journal := by
        intro outcome hmem
        have hsent := (h.inv.running hi).session.answered _ _ _ hmem
        exact Nat.lt_irrefl _
          (h.known.calls.issued _ _ _ (h.known.calls.sent i s _ hi _ _ hsent))
      rw [step, hi] at hs
      cases hs
      refine .inr ⟨i, s.after (.send request) w.tickets, k w.tickets, w.tickets, request,
        Function.update_self _ _ _, hallowed.2.1, List.mem_cons_self, hcreates,
        .inl List.mem_cons_self, fun outcome hmem => ?_⟩
      exact absurd ((List.mem_cons.mp hmem).resolve_left (by simp)) (hunanswered outcome)
    · refine hold ?_ fun _ _ _ _ _ _ hasker => ?_
      · rw [heq] at hthere
        simpa [outstanding, holders, underWay, hcreates] using hthere
      · rw [heq]
        exact hasker.live.imp_left (List.mem_cons_of_mem _)
  · refine hold (outstanding_serve (Bool.not_eq_true' _ ▸ hu) hmove hthere)
      fun i s p ticket request hi hasker => ?_
    exact hasker.live_serve h h' hm hmove
      (h.known.calls.sent i s p hi _ _ hasker.asked) hthere

/-- **What an undisturbed step preserves.** -/
theorem guarded_step (h : CustomerInv env c w) (h' : CustomerInv env c w')
    (ha : Answering env w)
    (hg : Guarded c w) (hmapped : Mapped env w') (hu : undisturbed c w label = true)
    (hs : step env _ w label = some w') : Guarded c w' where
  unmapped := unmapped_step h.inv hg (step_sound hs)
  alone := alone_step h.inv hg hu (step_sound hs)
  backed := backed_step h h' ha hg hmapped hu hs

/-! ## One customer -/

/-- What an undisturbed run keeps. -/
structure UndisturbedInv (env : Env) (c : String) (w : World (metronome policy)) :
    Prop where
  customer : CustomerInv env c w
  mapped : Mapped env w
  answering : Answering env w
  guarded : Guarded c w

theorem undisturbedInv_initial (h : Initial w) (hv : Vacant c w.remote) :
    UndisturbedInv env c w := by
  have hidle : ∀ {i s p}, w.workers i ≠ .running s p := by
    intro i s p hi
    rw [h.workers i] at hi
    cases hi
  have hmade : CustomersMade w := fun c row hrow => by
    rw [h.db] at hrow
    cases hrow
  have hunder : underWay c w.remote = [] := by
    rw [underWay, hv.inFlight]
    rfl
  have hstart : Reaches (step env _) w w := .refl
  refine ⟨⟨worldInv_initial h, known_initial h hv.toQuiet, hmade, once_initial h hv⟩,
    mapped_of_path hstart h, answering_initial h hv.toQuiet,
    fun _ _ _ hi => absurd hi hidle, fun _ _ _ _ _ _ hi =>
      absurd hi hidle, fun hthere => ?_⟩
  rw [outstanding_eq_false.mpr ⟨hv.holders, hunder⟩] at hthere
  cases hthere

theorem undisturbedInv_step (hp : policy.repeatsIds = false) (h : UndisturbedInv env c w)
    (hu : undisturbed c w label = true) (hs : step env _ w label = some w') :
    UndisturbedInv env c w' := by
  have hm := step_sound hs
  have ⟨hinv, hk, hmade, honce⟩ := h.customer
  have hcustomer : CustomerInv env c w' := {
    inv := worldInv_move hinv hm
    known := known_move hinv hk hm
    made := customersMade_move hinv hk hmade hm
    once := once_move hp hinv hk hmade honce
      (uncontested_of_undisturbed hinv h.guarded hu) hm }
  have hmapped := mapped_move h.mapped (tableMove hinv hm)
  exact ⟨hcustomer, hmapped, answering_move hk h.answering hm,
    guarded_step h.customer hcustomer h.answering h.guarded hmapped hu hs⟩

theorem undisturbedInv_of_path (hp : policy.repeatsIds = false)
    {w₀ : World (metronome policy)}
    (h : Path (step env _) (fun w label => undisturbed c w label = true) w₀ w)
    (h₀ : Initial w₀) (hv : Vacant c w₀.remote) : UndisturbedInv env c w :=
  h.invariant (fun _ _ _ hu hinv hs => undisturbedInv_step hp hinv hu hs)
    (undisturbedInv_initial h₀ hv)

/-- **No duplicate customer where nothing comes in between.**  Whether Metronome
accepts a second customer with an alias in use or rejects it, and however many
attempts fail: as long as no attempt that has asked for the customer of `c` is
lost, or left without an answer, while Metronome has it or may still make it, no
two attempts overlap between lookup and commit, and no call for it is POSTed
twice, one customer carries the alias, and attempts on `c` end with its row. -/
theorem created_once {rejects : Bool} {w₀ w : World (metronome ⟨rejects, false⟩)}
    (h : Path (step env _) (fun w label => undisturbed c w label = true) w₀ w)
    (h₀ : Initial w₀) (hv : Vacant c w₀.remote) : CreatedOnce env c w := by
  have hkeeps : CustomerInv env c w := (undisturbedInv_of_path rfl h h₀ hv).customer
  have hends : ∀ {i w'}, step env _ w (.finish i) = some w' → UndisturbedInv env c w' :=
    fun {i w'} hs => undisturbedInv_of_path rfl (h.snoc (a := .finish i) rfl hs) h₀ hv
  refine ⟨?_, fun i s p w' hi hcustomer hid htold hs => ?_,
    fun i s p w' hi _ hid hsettled hs => ?_⟩
  · have hcount := hkeeps.once.remote.count
    omega
  · obtain ⟨hkeeps', hmapped, _, _⟩ := hends hs
    rcases htold with ⟨row, hrow⟩ | hsettled
    · obtain ⟨row', hrow', _⟩ := (hkeeps.inv.running hi).customerRow c row hrow
      obtain ⟨row'', hrow'', _⟩ :=
        customer_stays (tableMove hkeeps.inv (step_sound hs)) hrow'
      exact hkeeps'.pointsAtHolder hrow''
    · obtain ⟨row, hrow⟩ := hkeeps.maps hi hcustomer hid hsettled (step_sound hs) hmapped
      exact hkeeps'.pointsAtHolder hrow
  · obtain ⟨hfind, hstatus, _⟩ := hkeeps.commits hi hid hsettled (step_sound hs)
    exact ⟨s.event, hfind, hstatus⟩

theorem vacant_empty (c : String) : Vacant c .empty where
  posted := rfl
  inFlight := rfl
  replies := rfl
  holders := rfl
  ids := List.nodup_nil

/-- The first call is lost on the network and times out; the next attempt makes
the customer. -/
def mappedAda : World (metronome policyRejecting) :=
  (runWhen (step (installation [adaCreated]) _) (undisturbed "cus_1") (World.fresh _)
    ([.webhook adaCreated.request, .tick 1] ++ claims 0 ++ performs 0 3 ++
      [.serve (.drop 0), receives 0 (.timeoutError "Request timed out.")] ++
      schedulesRetry 0 3 ++ [.tick 10] ++ createsCustomer 1 1 "m1")).getD (World.fresh _)

theorem created_once_mappedAda :
    (mappedAda.tickets, mappedAda.db.customerMappings.rows.map (·.metronomeCustomerId)) =
        (2, ["m1"]) ∧
      CreatedOnce (installation [adaCreated]) "cus_1" mappedAda :=
  ⟨by decide +kernel, created_once (path_runWhen_getD (fun _ _ hu => hu) _ _)
    (initial_fresh _) (vacant_empty _)⟩

/-! ## Disturbed runs -/

theorem not_createdOnce_of_two (h : (holders c w.remote).length = 2) :
    ¬CreatedOnce env c w :=
  fun honce => absurd honce.single (by omega)

/-- An attempt that was told about the customer, and fails. -/
theorem not_createdOnce_of_failed {i : WorkerId} {e : String}
    (hattempt : (attemptOf w i).map (fun s => (s.loaded.stripeEventId, s.loaded.eventType,
      objectId s.loaded.payload, settled s)) = some (e, "customer.created", some c, true))
    (hend : (step env _ w (.finish i)).map (fun w' =>
      (w'.db.webhookEvents.find? e).map (·.status)) = some (some .FAILED)) :
    ¬CreatedOnce env c w := by
  intro honce
  obtain ⟨s, hs, hfacts⟩ := Option.map_eq_some_iff.mp hattempt
  obtain ⟨p, hi⟩ := attemptOf_eq_some hs
  obtain ⟨w', hstep, hfailed⟩ := Option.map_eq_some_iff.mp hend
  simp only [Prod.mk.injEq] at hfacts
  obtain ⟨hevent, htype, hid, hsettled⟩ := hfacts
  obtain ⟨event, hfind, hprocessed⟩ := honce.processed i s p w' hi
    (isCustomer_iff.mpr (.inl htype)) hid hsettled hstep
  rw [hevent] at hfind
  rw [hfind, Option.map_some, hprocessed] at hfailed
  cases hfailed

/-- The worker dies when Metronome has made the customer, and the next attempt
asks for it again. -/
def asksTwice : List (Label (metronome policy)) :=
  [.webhook adaCreated.request, .tick 1] ++ claims 0 ++ performs 0 3 ++
    [.serve (.deliver 0 "m1"), .crash 0] ++ claims 1 ++ performs 1 3 ++
    [.serve (.deliver 1 "m2")]

/-- The SDK POSTs the call of one attempt twice, the answer to the first POST
being lost. -/
def postsTwice : List (Label (metronome policy)) :=
  [.webhook adaCreated.request, .tick 1] ++ claims 0 ++ performs 0 3 ++
    [.serve (.repost 0 "m1"), .serve (.deliver 0 "m2")]

/-- The last call of worker `i` is answered 409. -/
def refuses (i : WorkerId) : List (Label (metronome policy)) :=
  [receives i (.statusError 409 false "ingest alias in use")] ++ performs i 4

/-- Metronome accepts a second customer with the alias. -/
def duplicatedAda (labels : List (Label (metronome ⟨false, false⟩))) :
    World (metronome ⟨false, false⟩) := runFrom (installation [adaCreated]) _ labels

/-- Metronome rejects it. -/
def rejectedAda (labels : List (Label (metronome ⟨true, false⟩))) :
    World (metronome ⟨true, false⟩) := runFrom (installation [adaCreated]) _ labels

/-- **An attempt that is lost after its create call, or a call that is POSTed
twice**, leaves a second customer, or a failed event and no row. -/
theorem created_once_lostAda :
    (∀ labels ∈ [asksTwice, postsTwice],
      Reaches (step (installation [adaCreated]) _) (World.fresh ⟨false, false⟩)
        (duplicatedAda labels) ∧
      ¬CreatedOnce (installation [adaCreated]) "cus_1" (duplicatedAda labels)) ∧
    ∀ run ∈ [(asksTwice ++ refuses 1, 1), (postsTwice ++ refuses 0, 0)],
      Reaches (step (installation [adaCreated]) _) (World.fresh ⟨true, false⟩)
        (rejectedAda run.1) ∧
      ¬CreatedOnce (installation [adaCreated]) "cus_1" (rejectedAda run.1) ∧
      (step (installation [adaCreated]) _ (rejectedAda run.1) (.finish run.2)).map
        (fun w' =>
          (w'.db.webhookEvents.rows.map fun row =>
              (row.stripeEventId, row.status, row.lastError),
            w'.db.customerMappings.rows, w'.remote.customers.map (·.id))) =
        some ([("evt_1", .FAILED,
          some ("PERMANENT: Metronome rejected request (HTTP 409): " ++
            "ingest alias in use"))], [], ["m1"]) := by
  simp only [List.forall_mem_cons, List.not_mem_nil, false_implies,
    implies_true, and_true]
  refine ⟨⟨⟨reaches_runFrom _ _ _, not_createdOnce_of_two ?_⟩,
      reaches_runFrom _ _ _, not_createdOnce_of_two ?_⟩,
    ⟨reaches_runFrom _ _ _, not_createdOnce_of_failed (e := "evt_1") (i := 1) ?_ ?_, ?_⟩,
    reaches_runFrom _ _ _, not_createdOnce_of_failed (e := "evt_1") (i := 0) ?_ ?_, ?_⟩
  all_goals decide +kernel

end Sidecar.Ports.Undisturbed
