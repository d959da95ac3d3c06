import Sidecar.Ports.Mappings

/-!
# The calls in the history

Every Metronome call is logged with its ticket and its event when it is sent.
The event stays stored with the same payload and the mapping row the call went
by stays, so what justified a call when it was made justifies it for good.

## Main results

* `running_source`, `call_source` — what a step adds to a journal and to the
  history.
* `callsOk_move` — every call stays justified, and tickets are never given
  twice.
-/

namespace Sidecar.Ports.Calls

open Sidecar.Verified.Resumption
open Sidecar.Verified.KeyedTable
open Sidecar.Verified.Transition
open Sidecar.Ports.Python
open Sidecar.Ports.Config
open Sidecar.Ports.Mappers
open Sidecar.Ports.Models
open Sidecar.Ports.Effects
open Sidecar.Ports.Worker
open Sidecar.Ports.Receiver
open Sidecar.Ports.System
open Sidecar.Ports.Attempt
open Sidecar.Ports.Moves
open Sidecar.Ports.Transactions
open Sidecar.Ports.Invariant
open Sidecar.Ports.Mappings

variable {env : Env} {M : Metronome} {w w' : World M} {label : Label M}

/-! ## Stored events -/

/-- The event is stored, as far as its type and its payload go. -/
def Stored (db : Postgres) (event : WebhookEvent) : Prop :=
  ∃ row, db.webhookEvents.find? event.stripeEventId = some row ∧
    row.eventType = event.eventType ∧ row.payload = event.payload

/-- No step changes the type or the payload of a stored event. -/
theorem stored_move {event : WebhookEvent} (hm : TableMove env w label w')
    (h : Stored w.db event) : Stored w'.db event := by
  obtain ⟨row, hfind, htype, hpayload⟩ := h
  cases hm with
  | untouched _ he _ _ _ => exact ⟨row, he ▸ hfind, htype, hpayload⟩
  | insert _ he _ _ =>
      exact ⟨row, he ▸ Table.find?_insertNew_of_some hfind, htype, hpayload⟩
  | @replay w' old hold _ he _ _ =>
      by_cases hkey : old.stripeEventId = event.stripeEventId
      · rw [← hkey, hold, Option.some.injEq] at hfind
        subst hfind
        refine ⟨replayed w.now old, ?_, htype, hpayload⟩
        rw [he, ← hkey]
        exact Table.find?_update_self hold
      · have hkey : (replayed w.now old).stripeEventId ≠ event.stripeEventId := hkey
        refine ⟨row, ?_, htype, hpayload⟩
        rw [he, Table.find?_update_ne hkey]
        exact hfind
  | @commit i w' s _ hcom _ he _ _ _ =>
      by_cases hkey : s.event.stripeEventId = event.stripeEventId
      · rw [← hkey, hcom.row] at hfind
        cases hfind
        refine ⟨s.event, ?_, hcom.same.2.1.trans htype, hcom.same.2.2.1.trans hpayload⟩
        rw [he, ← hkey]
        exact Table.find?_update_self hcom.row
      · refine ⟨row, ?_, htype, hpayload⟩
        rw [he, Table.find?_update_ne hkey]
        exact hfind

/-! ## What justifies a call -/

/-- The event and the mapping row that a call goes by. -/
inductive Justified (env : Env) (db : Postgres) (event : WebhookEvent) :
    MetronomeRequest → Prop where
  | createCustomer {c : String} {request : CustomerRequest} :
      IsCustomer event → objectId event.payload = some c →
      customerRequest event.payload = some request →
      Justified env db event (.createCustomer request)
  | setName {c : String} {row : CustomerMapping} {request : CustomerRequest} :
      handlerOf event = some .customerUpdated → objectId event.payload = some c →
      db.customerMappings.find? c = some row →
      customerRequest event.payload = some request →
      Justified env db event (.setName row.metronomeCustomerId request.name)
  | createContract {sub c price : String} {tier : Tier} {row : CustomerMapping}
      {request : ContractRequest} :
      handlerOf event = some .subscriptionCreated →
      Contract env.settings env.tiers event.payload sub c price tier
        row.metronomeCustomerId request →
      db.customerMappings.find? c = some row →
      Justified env db event (.createContract request)
  | listContracts {sub c price : String} {tier : Tier} {row : CustomerMapping}
      {request : ContractRequest} :
      handlerOf event = some .subscriptionCreated →
      Contract env.settings env.tiers event.payload sub c price tier
        row.metronomeCustomerId request →
      db.customerMappings.find? c = some row →
      Justified env db event (.listContracts request.customerId)

/-- A justification stays, and only depends on the type and the payload. -/
theorem Justified.mono {db db' : Postgres} {event event' : WebhookEvent}
    {request : MetronomeRequest} (h : Justified env db event request)
    (htype : event'.eventType = event.eventType)
    (hpayload : event'.payload = event.payload)
    (hc : ∀ c row, db.customerMappings.find? c = some row →
      ∃ row', db'.customerMappings.find? c = some row' ∧
        row'.metronomeCustomerId = row.metronomeCustomerId) :
    Justified env db' event' request := by
  have hhandler : handlerOf event' = handlerOf event := by
    rw [handlerOf, handlerOf, htype]
  cases h with
  | createCustomer hh hid hreq =>
      rw [← hpayload] at hid hreq
      refine .createCustomer ?_ hid hreq
      rw [IsCustomer, hhandler]
      exact hh
  | setName hh hid hrow hreq =>
      obtain ⟨row', hrow', hmid⟩ := hc _ _ hrow
      rw [← hpayload] at hid hreq
      rw [← hmid]
      exact .setName (hhandler.trans hh) hid hrow' hreq
  | createContract hh hcontract hrow =>
      obtain ⟨row', hrow', hmid⟩ := hc _ _ hrow
      rw [← hpayload, ← hmid] at hcontract
      exact .createContract (hhandler.trans hh) hcontract hrow'
  | listContracts hh hcontract hrow =>
      obtain ⟨row', hrow', hmid⟩ := hc _ _ hrow
      rw [← hpayload, ← hmid] at hcontract
      exact .listContracts (hhandler.trans hh) hcontract hrow'

/-- What an attempt may send is justified by the committed rows. -/
theorem justified_of_sends {db : Postgres} {s : Session} {request : MetronomeRequest}
    (h : Sends env.settings env.tiers s request)
    (hc : ∀ c row, Fact.customerRow c (some row) ∈ s.journal →
      ∃ row', db.customerMappings.find? c = some row' ∧
        row'.metronomeCustomerId = row.metronomeCustomerId) :
    Justified env db s.loaded request := by
  cases h with
  | createCustomer hh hid _ hreq => exact .createCustomer hh hid hreq
  | setName hh hid hrow hreq =>
      obtain ⟨row', hrow', hmid⟩ := hc _ _ hrow
      rw [← hmid]
      exact .setName hh hid hrow' hreq
  | createContract hh hcontract _ hrow =>
      obtain ⟨row', hrow', hmid⟩ := hc _ _ hrow
      exact .createContract hh (hmid ▸ hcontract) hrow'
  | listContracts hh hcontract hrow _ =>
      obtain ⟨row', hrow', hmid⟩ := hc _ _ hrow
      exact .listContracts hh (hmid ▸ hcontract) hrow'

/-! ## What a step adds -/

/-- Why a step may add a fact to the journal of session `s`. -/
def Heard (w w' : World M) (s : Session) : Fact → Prop
  | .sent ticket request =>
      Entry.called s.loaded.stripeEventId ticket request ∈ w'.history
  | .answered ticket request outcome => M.recv w.remote ticket request outcome = true
  | _ => True

theorem heard_exec {i : WorkerId} {s : Session} {o : Op} {r : Res o}
    (hx : Exec env w i s o r w') {f : Fact} (hf : f ∈ (s.after o r).journal) :
    f ∈ s.journal ∨ Heard w w' s f := by
  have hlearn : ∀ g, (s.after o r).journal = g :: s.journal → Heard w w' s g →
      f ∈ s.journal ∨ Heard w w' s f := by
    intro g hjournal hheard
    rw [hjournal] at hf
    rcases List.mem_cons.mp hf with rfl | hf
    · exact .inr hheard
    · exact .inl hf
  cases hx with
  | lookupCustomerMapping c => exact hlearn _ rfl trivial
  | lookupSubscriptionMapping sub => exact hlearn _ rfl trivial
  | send request => exact hlearn (.sent w.tickets request) rfl List.mem_cons_self
  | recv hr => exact hlearn (.answered _ _ _) rfl hr
  | clock => exact hlearn (.clock w.now) rfl trivial
  | uniform hu => exact hlearn (.drew _) rfl trivial
  | _ => exact .inl hf

/-- **Where a running session comes from**: it has just been started on a
stored row, or it was running, and its worker has done nothing or one
request. -/
theorem running_source (hm : Move env w label w') {i : WorkerId} {s' : Session}
    {p' : Effect Unit} (hi : w'.workers i = .running s' p') :
    (∃ row, s' = .start row ∧ p' = handleEvent env.settings env.tiers row ∧
        w.db.webhookEvents.find? row.stripeEventId = some row) ∨
      w.workers i = .running s' p' ∨
      ∃ s o r w'', ∃ k : Res o → Effect Unit, w.workers i = .running s (.perform o k) ∧
        Exec env w i s o r w'' ∧ s' = s.after o r ∧
        w' = w''.setPhase i (.running (s.after o r) (k r)) ∧
        ∃ choice, label = .perform i choice := by
  have hother : ∀ j phase, w'.workers = Function.update w.workers j phase → j ≠ i →
      w.workers i = .running s' p' := by
    intro j phase hworkers hji
    rw [hworkers, Function.update_of_ne (Ne.symm hji)] at hi
    exact hi
  have hidle : ∀ j phase, w'.workers = Function.update w.workers j phase →
      (∀ s p, phase ≠ .running s p) → w.workers i = .running s' p' := by
    intro j phase hworkers hphase
    refine hother j phase hworkers fun hji => ?_
    subst hji
    rw [hworkers, Function.update_self] at hi
    exact hphase _ _ hi
  cases hm with
  | selected _ => exact .inr (.inl (hidle _ _ rfl (by simp)))
  | exhausted _ => exact .inr (.inl (hidle _ _ rfl (by simp)))
  | passed _ _ => exact .inr (.inl (hidle _ _ rfl (by simp)))
  | @claimed j now eventId rest row _ _ hfind _ _ =>
      by_cases hji : j = i
      · subst hji
        have hi := hi.symm.trans (Function.update_self j _ w.workers)
        cases hi
        exact .inl ⟨row, rfl, rfl, (Table.find?_key hfind).symm ▸ hfind⟩
      · exact .inr (.inl (hother j _ rfl hji))
  | @performed j choice s o k r w'' hj hx =>
      have hworkers : (w''.setPhase j (.running (s.after o r) (k r))).workers =
          Function.update w.workers j (.running (s.after o r) (k r)) := by
        rw [← hx.workers]
        rfl
      by_cases hji : j = i
      · subst hji
        have hi := hi.symm.trans
          ((congrFun hworkers j).trans (Function.update_self j _ _))
        cases hi
        exact .inr (.inr ⟨s, o, r, w'', k, hj, hx, rfl, rfl, choice, rfl⟩)
      · exact .inr (.inl (hother j _ hworkers hji))
  | committed _ _ _ => exact .inr (.inl (hidle _ _ rfl (by simp)))
  | undone _ _ _ => exact .inr (.inl (hidle _ _ rfl (by simp)))
  | crashed _ => exact .inr (.inl (hidle _ _ rfl (by simp)))
  | _ => exact .inr (.inl hi)

/-- A running session that has not just been started has heard what the step
told it. -/
theorem session_source (hm : Move env w label w') {i : WorkerId} {s' : Session}
    {p' : Effect Unit} (hi : w'.workers i = .running s' p') :
    (∃ row, s' = .start row ∧
        w.db.webhookEvents.find? row.stripeEventId = some row) ∨
      ∃ s p, w.workers i = .running s p ∧ s'.loaded = s.loaded ∧
        ∀ f ∈ s'.journal, f ∈ s.journal ∨ Heard w w' s f := by
  rcases running_source hm hi with ⟨row, hstart, _, hfind⟩ | hsame |
    ⟨s, o, r, w'', k, hat, hx, rfl, rfl, _⟩
  · exact .inl ⟨row, hstart, hfind⟩
  · exact .inr ⟨s', p', hsame, rfl, fun f hf => .inl hf⟩
  · exact .inr ⟨s, _, hat, after_loaded, fun f hf => heard_exec hx hf⟩

theorem history_mono (hm : Move env w label w') : w.history ⊆ w'.history := by
  cases hm with
  | received _ _ => exact List.subset_cons_self _ _
  | replayed _ _ => exact List.subset_cons_self _ _
  | claimed _ _ _ _ _ => exact List.subset_cons_self _ _
  | committed _ _ _ => exact List.subset_cons_self _ _
  | performed _ hx =>
      cases hx with
      | send request => exact List.subset_cons_self _ _
      | _ => exact List.Subset.refl _
  | _ => exact List.Subset.refl _

theorem tickets_mono (hm : Move env w label w') : w.tickets ≤ w'.tickets := by
  cases hm with
  | performed _ hx =>
      cases hx with
      | send request => exact Nat.le_succ _
      | _ => exact Nat.le_refl _
  | _ => exact Nat.le_refl _

/-- **Where a call comes from**: a running attempt has just sent it, with the
next ticket. -/
theorem call_source (hm : Move env w label w') {e : String} {ticket : Nat}
    {request : MetronomeRequest} (h : Entry.called e ticket request ∈ w'.history) :
    Entry.called e ticket request ∈ w.history ∨
      ∃ i choice s k, label = .perform i choice ∧
        w.workers i = .running s (.perform (.send request) k) ∧
        e = s.loaded.stripeEventId ∧ ticket = w.tickets ∧ w'.tickets = w.tickets + 1 ∧
        w'.remote = M.send w.remote ticket request := by
  have hcons : ∀ entry, Entry.called e ticket request ∈ entry :: w.history →
      (∀ e ticket request, entry ≠ .called e ticket request) →
      Entry.called e ticket request ∈ w.history := fun entry h hne =>
    (List.mem_cons.mp h).resolve_left fun heq => hne _ _ _ heq.symm
  cases hm with
  | received _ _ => exact .inl (hcons _ h (by simp))
  | replayed _ _ => exact .inl (hcons _ h (by simp))
  | claimed _ _ _ _ _ => exact .inl (hcons _ h (by simp))
  | committed _ _ _ => exact .inl (hcons _ h (by simp))
  | performed hi hx =>
      cases hx with
      | send request' =>
          rcases List.mem_cons.mp h with heq | h
          · cases heq
            exact .inr ⟨_, _, _, _, rfl, hi, rfl, rfl, rfl, rfl⟩
          · exact .inl h
      | _ => exact .inl h
  | _ => exact .inl h

/-! ## Every call is justified -/

/-- Every call in the history is justified, and has a ticket of its own. -/
structure CallsOk (env : Env) (w : World M) : Prop where
  justified : ∀ e ticket request, Entry.called e ticket request ∈ w.history →
    ∃ event, w.db.webhookEvents.find? e = some event ∧ Justified env w.db event request
  issued : ∀ e ticket request, Entry.called e ticket request ∈ w.history →
    ticket < w.tickets
  single : ∀ e ticket request e' request', Entry.called e ticket request ∈ w.history →
    Entry.called e' ticket request' ∈ w.history → e = e' ∧ request = request'
  sent : ∀ i s p, w.workers i = .running s p → ∀ ticket request,
    Fact.sent ticket request ∈ s.journal →
    Entry.called s.loaded.stripeEventId ticket request ∈ w.history
  stored : ∀ i s p, w.workers i = .running s p → Stored w.db s.loaded

theorem stored_of_find? {db : Postgres} {e : String} {event : WebhookEvent}
    (h : db.webhookEvents.find? e = some event) : Stored db event :=
  ⟨event, (Table.find?_key h).symm ▸ h, rfl, rfl⟩

/-- **A step keeps the calls in order.** -/
theorem callsOk_move (hinv : WorldInv env w) (h : CallsOk env w)
    (hm : Move env w label w') : CallsOk env w' where
  justified e ticket request hmem := by
    have htable := tableMove hinv hm
    have hstays : ∀ event : WebhookEvent, Stored w.db event → event.stripeEventId = e →
        Justified env w.db event request →
        ∃ event, w'.db.webhookEvents.find? e = some event ∧
          Justified env w'.db event request := by
      intro event hstored hkey hj
      obtain ⟨row, hfind, htype, hpayload⟩ := stored_move htable hstored
      exact ⟨row, hkey ▸ hfind, hj.mono htype hpayload fun c row => customer_stays htable⟩
    rcases call_source hm hmem with hmem | ⟨i, _, s, k, _, hi, rfl, _, _, _⟩
    · obtain ⟨event, hfind, hj⟩ := h.justified e ticket request hmem
      exact hstays event (stored_of_find? hfind) (Table.find?_key hfind) hj
    · have hsends : Sends env.settings env.tiers s request :=
        ((hinv.running hi).always).here.1
      exact hstays s.loaded (h.stored i s _ hi) rfl
        (justified_of_sends hsends (hinv.running hi).customerRow)
  issued e ticket request hmem := by
    rcases call_source hm hmem with hmem | ⟨_, _, _, _, _, _, _, rfl, htickets, _⟩
    · exact Nat.lt_of_lt_of_le (h.issued e ticket request hmem) (tickets_mono hm)
    · omega
  single e ticket request e' request' hmem hmem' := by
    rcases call_source hm hmem with hmem | ⟨i, choice, s, k, hlabel, hi, he, ht, _, _⟩
    · rcases call_source hm hmem' with hmem' | ⟨_, _, _, _, _, _, _, ht', _, _⟩
      · exact h.single e ticket request e' request' hmem hmem'
      · have := h.issued e ticket request hmem
        omega
    · rcases call_source hm hmem' with hmem' | ⟨i', _, s', k', hlabel', hi', he', _, _, _⟩
      · have := h.issued e' ticket request' hmem'
        omega
      · -- one step sends one call
        rw [hlabel] at hlabel'
        cases hlabel'
        rw [hi] at hi'
        cases hi'
        exact ⟨he.trans he'.symm, rfl⟩
  sent i s p hi ticket request hmem := by
    rcases session_source hm hi with ⟨row, rfl, _⟩ | ⟨s', p', hi', hloaded, hjournal⟩
    · cases hmem
    · rw [hloaded]
      rcases hjournal _ hmem with hmem | hheard
      · exact history_mono hm (h.sent i s' p' hi' ticket request hmem)
      · exact hheard
  stored i s p hi := by
    rcases session_source hm hi with ⟨row, rfl, hfind⟩ | ⟨s', p', hi', hloaded, _⟩
    · exact stored_move (tableMove hinv hm) (stored_of_find? hfind)
    · rw [hloaded]
      exact stored_move (tableMove hinv hm) (h.stored i s' p' hi')

theorem callsOk_initial (h : Initial w) : CallsOk env w := by
  have hrunning : ∀ i s p, w.workers i ≠ .running s p := fun i s p hi => by
    rw [h.workers i] at hi
    cases hi
  constructor
  · intro _ _ _ hmem
    rw [h.history] at hmem
    cases hmem
  · intro _ _ _ hmem
    rw [h.history] at hmem
    cases hmem
  · intro _ _ _ _ _ hmem
    rw [h.history] at hmem
    cases hmem
  · exact fun i s p hi => absurd hi (hrunning i s p)
  · exact fun i s p hi => absurd hi (hrunning i s p)

end Sidecar.Ports.Calls
