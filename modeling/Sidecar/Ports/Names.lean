import Sidecar.Ports.Customers

/-!
# The name of a customer

A `customer.updated` event overwrites the name that Metronome has, whatever
event set it, and a `customer.created` event that finds its customer mapped
leaves it alone; neither looks at the time of the event.  So the name is that
of the newest event exactly as long as the events name the customer in the
order of their times, which backoff, two workers and late calls all upset.

## Main results

* `about_of_named` — the events that have named a mapped customer are its own.
* `name_converges` — in order, the last name is that of the newest event.
* `name_converges_outdatedAda` — a late event brings an old name back.
-/

namespace Sidecar.Ports.Names

open Sidecar.Verified.KeyedTable
open Sidecar.Verified.Transition
open Sidecar.Ports.Python
open Sidecar.Ports.Mappers
open Sidecar.Ports.Models
open Sidecar.Ports.Effects
open Sidecar.Ports.MetronomeClient
open Sidecar.Ports.System
open Sidecar.Ports.Attempt
open Sidecar.Ports.Moves
open Sidecar.Ports.Transactions
open Sidecar.Ports.Invariant
open Sidecar.Ports.Mappings
open Sidecar.Ports.Remote
open Sidecar.Ports.Calls
open Sidecar.Ports.Replies
open Sidecar.Ports.Agreement
open Sidecar.Ports.Customers

variable {env : Env} {policy : Policy} {w w' : World (metronome policy)}
  {label : Label (metronome policy)} {store store' : RemoteStore} {c : String}

/-! ## The times of events and calls -/

/-- When Stripe made the event. -/
def createdTime (payload : JsonObject) : Option Int :=
  match get payload "created" with
  | .int created => some created
  | _ => none

/-- Made strictly earlier, as far as both times are known. -/
def older : Option Int → Option Int → Bool
  | some a, some b => a < b
  | _, _ => false

/-- The event that the call with this ticket was made for. -/
def callerOf (history : List Entry) (ticket : Nat) : Option String :=
  history.findSome? fun
    | .called e ticket' _ => if ticket' = ticket then some e else none
    | _ => none

/-- When Stripe made the event that the call was made for. -/
def calledFor (w : World (metronome policy)) (ticket : Nat) : Option Int :=
  (callerOf w.history ticket).bind fun e =>
    (w.db.webhookEvents.find? e).bind fun event => createdTime event.payload

theorem callerOf_eq (hcalls : CallsOk env w) {e : String} {ticket : Nat}
    {request : MetronomeRequest} (hcalled : Entry.called e ticket request ∈ w.history) :
    callerOf w.history ticket = some e := by
  cases hcaller : callerOf w.history ticket with
  | none =>
      have hnone := List.findSome?_eq_none_iff.mp hcaller _ hcalled
      simp at hnone
  | some e' =>
      obtain ⟨entry, hmem, hentry⟩ := List.exists_of_findSome?_eq_some hcaller
      split at hentry
      · next e'' ticket' request' =>
          split at hentry
          · next hticket =>
              cases hentry
              subst hticket
              rw [(hcalls.single _ _ _ _ _ hcalled hmem).1]
          · cases hentry
      · cases hentry

theorem calledFor_eq (hcalls : CallsOk env w) {e : String} {ticket : Nat}
    {request : MetronomeRequest} {event : WebhookEvent}
    (hcalled : Entry.called e ticket request ∈ w.history)
    (hfind : w.db.webhookEvents.find? e = some event) :
    calledFor w ticket = createdTime event.payload := by
  rw [calledFor, callerOf_eq hcalls hcalled, Option.bind_some, hfind, Option.bind_some]

/-- The time of a call does not change. -/
theorem calledFor_move (hinv : WorldInv env w) (hcalls : CallsOk env w)
    (hm : Move env w label w') {e : String} {ticket : Nat} {request : MetronomeRequest}
    (hcalled : Entry.called e ticket request ∈ w.history) :
    calledFor w' ticket = calledFor w ticket := by
  obtain ⟨event, hfind, _⟩ := hcalls.justified _ _ _ hcalled
  obtain ⟨row, hfind', _, hpayload⟩ :=
    stored_move (tableMove hinv hm) (stored_of_find? hfind)
  rw [Table.find?_key hfind] at hfind'
  rw [calledFor_eq hcalls hcalled hfind, ← hpayload]
  exact calledFor_eq (callsOk_move hinv hcalls hm) (history_mono hm hcalled) hfind'

/-! ## Where a name comes from -/

/-- Carrying out the request gives the customer its name. -/
def GivesName (m : RemoteCustomer) (request : MetronomeRequest) (name : String) : Prop :=
  request = .setName m.id name ∨
    ∃ body, request = .createCustomer body ∧ body.ingestAliases = m.ingestAliases ∧
      body.name = name

/-- Every writer of a name is a call that was made, and the last one gave the
name that the customer has. -/
structure NamesOk (w : World (metronome policy)) : Prop where
  ids : (w.remote.customers.map (·.id)).Nodup
  writers : ∀ m ∈ w.remote.customers, ∀ ticket ∈ m.writers, ∃ e request name,
    Entry.called e ticket request ∈ w.history ∧ GivesName m request name
  last : ∀ m ∈ w.remote.customers, ∀ ticket before, m.writers = ticket :: before →
    ∃ e request, Entry.called e ticket request ∈ w.history ∧ GivesName m request m.name

/-- The call that Metronome carries out next. -/
def arriving (store : RemoteStore) : RemoteChoice → Option (Nat × MetronomeRequest)
  | .deliver ticket _ => (store.inFlight.lookup ticket).map (ticket, ·)
  | .repost ticket _ => (store.posted.lookup ticket).map (ticket, ·)
  | _ => none

/-- The call gives the customer its first name, or renames it. -/
def NewlyNamed (store : RemoteStore) (ticket : Nat) (request : MetronomeRequest)
    (m' : RemoteCustomer) : Prop :=
  GivesName m' request m'.name ∧
    (m'.writers = [ticket] ∨ ∃ m ∈ store.customers, m'.id = m.id ∧
      m'.ingestAliases = m.ingestAliases ∧ m'.writers = ticket :: m.writers ∧
      request = .setName m.id m'.name)

theorem carriedOut_named {ticket : Nat} {newId : String} {request : MetronomeRequest}
    {reply : Reply} (h : CarriedOut policy store ticket newId request store' reply)
    {m' : RemoteCustomer} (hmem : m' ∈ store'.customers) :
    m' ∈ store.customers ∨ NewlyNamed store ticket request m' := by
  cases h with
  | @createdCustomer body _ _ =>
      rcases List.mem_cons.mp hmem with rfl | hold
      · exact .inr ⟨.inr ⟨body, rfl, rfl, rfl⟩, .inl rfl⟩
      · exact .inl hold
  | @renamed customerId name _ =>
      obtain ⟨m, hm, rfl⟩ := List.mem_map.mp hmem
      by_cases hid : hasId customerId m = true
      · obtain rfl : m.id = customerId := of_decide_eq_true hid
        rw [rename, if_pos hid]
        exact .inr ⟨.inl rfl, .inr ⟨m, hm, rfl, rfl, rfl, rfl⟩⟩
      · rw [rename, if_neg hid]
        exact .inl hm
  | _ => exact .inl hmem

/-- A customer that is new, or has a new name, has been named by the call that
arrived. -/
theorem remoteMove_named {choice : RemoteChoice}
    (h : RemoteMove policy store choice store')
    {m' : RemoteCustomer} (hmem : m' ∈ store'.customers) :
    m' ∈ store.customers ∨ ∃ ticket request, arriving store choice =
      some (ticket, request) ∧
      ((ticket, request) ∈ store.inFlight ∨ (ticket, request) ∈ store.posted) ∧
      NewlyNamed store ticket request m' := by
  cases h with
  | @carriedOut ticket _ request _ _ hlookup hc =>
      refine (carriedOut_named hc hmem).imp_right fun hnames =>
        ⟨ticket, request, ?_, ?_, hnames⟩
      · rw [arriving, hlookup, Option.map_some]
      · exact .inl (mem_of_lookup hlookup)
  | @reposted ticket _ request _ _ hlookup hc =>
      refine (carriedOut_named hc hmem).imp_right fun hnames =>
        ⟨ticket, request, ?_, ?_, hnames⟩
      · rw [arriving, hlookup, Option.map_some]
      · exact .inr (mem_of_lookup hlookup)
  | _ => exact .inl hmem

/-- **What a step does to a customer**: nothing, or a call that was made names
it. -/
theorem customer_named (hr : RemoteOk w) (hm : Move env w label w') {m' : RemoteCustomer}
    (hmem : m' ∈ w'.remote.customers) :
    m' ∈ w.remote.customers ∨
      ∃ ticket e request, Entry.called e ticket request ∈ w.history ∧
      GivesName m' request m'.name ∧
        (m'.writers = [ticket] ∨ ∃ m ∈ w.remote.customers, m'.id = m.id ∧
          m'.ingestAliases = m.ingestAliases ∧ m'.writers = ticket :: m.writers ∧
          ∃ choice, label = .serve choice ∧
            arriving w.remote choice = some (ticket, .setName m.id m'.name)) := by
  cases hm with
  | performed _ hx =>
      cases hx with
      | send request => exact .inl hmem
      | _ => exact .inl hmem
  | @served choice remote hs =>
      obtain hold | ⟨ticket, request, harrives, hsent, hgives, hnew⟩ :=
        remoteMove_named (serve_sound hs) hmem
      · exact .inl hold
      · obtain ⟨e, hcalled⟩ := hsent.elim (hr.inFlight _ _) (hr.posted _ _)
        refine .inr ⟨ticket, e, request, hcalled, hgives, hnew.imp_right ?_⟩
        rintro ⟨m, hm, hid, halias, hwriters, rfl⟩
        exact ⟨m, hm, hid, halias, hwriters, choice, rfl, harrives⟩
  | _ => exact .inl hmem

theorem ids_served {choice : RemoteChoice} (hp : policy.repeatsIds = false)
    (hs : serve policy store choice = some store')
    (h : (store.customers.map (·.id)).Nodup) :
    (store'.customers.map (·.id)).Nodup := by
  cases serve_sound hs with
  | @carriedOut ticket newId request store'' reply _ hc =>
      have hids : (store''.customers.map (·.id)).Nodup := ids_carriedOut hc hp h
      exact hids
  | reposted _ hc => exact ids_carriedOut hc hp h
  | refused _ _ => exact h
  | dropped ticket => exact h
  | foreign other => exact h

theorem namesOk_move (hp : policy.repeatsIds = false) (hr : RemoteOk w) (h : NamesOk w)
    (hm : Move env w label w') : NamesOk w' where
  ids := by
    cases hm with
    | performed _ hx =>
        cases hx with
        | send request => exact h.ids
        | _ => exact h.ids
    | served hs => exact ids_served hp hs h.ids
    | _ => exact h.ids
  writers m' hmem ticket hwriter := by
    have hkeeps : ∀ m ∈ w.remote.customers, m'.id = m.id → m'.ingestAliases =
      m.ingestAliases →
        ticket ∈ m.writers → ∃ e request name,
          Entry.called e ticket request ∈ w'.history ∧ GivesName m' request name := by
      intro m hmem hid halias hwriter
      obtain ⟨e, request, name, hcalled, hgives⟩ := h.writers m hmem ticket hwriter
      rw [GivesName, ← hid, ← halias] at hgives
      exact ⟨e, request, name, history_mono hm hcalled, hgives⟩
    rcases customer_named hr hm hmem with
      hold | ⟨ticket', e, request, hcalled, hgives, hnew⟩
    · exact hkeeps m' hold rfl rfl hwriter
    · have hfirst : ticket = ticket' → ∃ e request name,
          Entry.called e ticket request ∈ w'.history ∧ GivesName m' request name := by
        rintro rfl
        exact ⟨e, request, _, history_mono hm hcalled, hgives⟩
      rcases hnew with hone | ⟨m, hmem, hid, halias, hmore, _⟩
      · rw [hone] at hwriter
        exact hfirst (List.mem_singleton.mp hwriter)
      · rw [hmore] at hwriter
        rcases List.mem_cons.mp hwriter with heq | hwriter
        · exact hfirst heq
        · exact hkeeps m hmem hid halias hwriter
  last m' hmem ticket before hwriters := by
    rcases customer_named hr hm hmem with
      hold | ⟨ticket', e, request, hcalled, hgives, hnew⟩
    · obtain ⟨e, request, hcalled, hgives⟩ := h.last m' hold ticket before hwriters
      exact ⟨e, request, history_mono hm hcalled, hgives⟩
    · have heq : ticket = ticket' := by
        rcases hnew with hone | ⟨m, _, _, _, hmore, _⟩
        · rw [hone] at hwriters
          exact (List.cons.inj hwriters).1.symm
        · rw [hmore] at hwriters
          exact (List.cons.inj hwriters).1.symm
      subst heq
      exact ⟨e, request, history_mono hm hcalled, hgives⟩

/-! ## Whose events name a customer -/

/-- A customer event about `c`. -/
def About (c : String) (event : WebhookEvent) : Prop :=
  IsCustomer event ∧ objectId event.payload = some c

/-- The event's payload gives the customer this name. -/
def NameOf (event : WebhookEvent) (name : String) : Prop :=
  ∃ request, customerRequest event.payload = some request ∧ request.name = name

/-- **The events that have named a mapped customer are its own.** -/
theorem about_of_named (hinv : WorldInv env w) (hcalls : CallsOk env w)
    {row : CustomerMapping}
    (hrow : w.db.customerMappings.find? c = some row) {m : RemoteCustomer}
    (hid : m.id = row.metronomeCustomerId) (halias : m.ingestAliases = [c]) {e : String}
    {ticket : Nat} {request : MetronomeRequest} {name : String}
    (hcalled : Entry.called e ticket request ∈ w.history)
    (hgives : GivesName m request name) :
    ∃ event, w.db.webhookEvents.find? e = some event ∧ About c event ∧
    NameOf event name := by
  obtain ⟨event, hfind, hj⟩ := hcalls.justified _ _ _ hcalled
  refine ⟨event, hfind, ?_⟩
  cases hj with
  | @createCustomer c' body hcustomer hobject hrequest =>
      rcases hgives with h | ⟨body', h, halias', hname⟩
      · cases h
      · obtain rfl := MetronomeRequest.createCustomer.inj h
        have hcreates : createsFor c (.createCustomer body) = true := by
          rw [createsFor, halias', halias]
          simp
        rw [(createsFor_request hrequest hobject).mp hcreates] at hobject
        exact ⟨⟨hcustomer, hobject⟩, body, hrequest, hname⟩
  | @setName c' row' body hupdated hobject hrow' hrequest =>
      rcases hgives with h | ⟨body', h, _⟩
      · obtain ⟨hid', hname⟩ := MetronomeRequest.setName.inj h
        have hsame := hinv.consistent.customerIds _ (Table.find?_mem hrow') _
          (Table.find?_mem hrow) (hid'.trans hid)
        rw [Table.find?_key hrow', Table.find?_key hrow] at hsame
        exact ⟨⟨.inr hupdated, hsame ▸ hobject⟩, body, hrequest, hname⟩
      · cases h
  | createContract _ _ _ => rcases hgives with h | ⟨_, h, _⟩ <;> cases h
  | listContracts _ _ _ => rcases hgives with h | ⟨_, h, _⟩ <;> cases h

/-! ## Runs in order -/

/-- No event renames the customer of `c` once a newer event has named it, not
even by another POST of its call, and `customer.created` leaves the name alone
only if a newer event has set it. -/
def inOrder (c : String) (w : World (metronome policy)) : Label (metronome policy) → Bool
  | .serve choice =>
      match arriving w.remote choice with
      | some (ticket, .setName id _) => (holders c w.remote).all fun m => m.id ≠ id ||
          m.writers.all fun earlier => !older (calledFor w ticket) (calledFor w earlier)
      | _ => true
  | .perform i _ =>
      match w.workers i with
      | .running s (.perform (.lookupCustomerMapping c') _) =>
          c' ≠ c || handlerOf s.loaded ≠ some .customerCreated ||
            ((view w.db i).customerMappings.find? c).all fun row =>
              w.remote.customers.any fun m => m.id = row.metronomeCustomerId &&
                m.writers.any fun earlier =>
                  older (createdTime s.loaded.payload) (calledFor w earlier)
      | _ => true
  | _ => true

/-- The writers of the name of a customer of `c` follow the times of their
events. -/
def Chronological (c : String) (w : World (metronome policy)) : Prop :=
  ∀ m ∈ holders c w.remote, m.writers.Pairwise fun later earlier =>
    older (calledFor w later) (calledFor w earlier) = false

theorem chronological_move (hinv : WorldInv env w) (hk : Known env w) (hn : NamesOk w)
    (h : Chronological c w) (hc : inOrder c w label = true) (hm : Move env w label w') :
    Chronological c w' := by
  intro m' hmem
  obtain ⟨hmem, hcarries⟩ := List.mem_filter.mp hmem
  have hsame : ∀ m ∈ w.remote.customers, ∀ ticket ∈ m.writers,
      calledFor w' ticket = calledFor w ticket := by
    intro m hm' ticket hwriter
    obtain ⟨e, request, name, hcalled, _⟩ := hn.writers m hm' ticket hwriter
    exact calledFor_move hinv hk.calls hm hcalled
  have hold : ∀ m ∈ w.remote.customers, carries c m = true → m.writers.Pairwise
      fun later earlier => older (calledFor w' later) (calledFor w' earlier) = false := by
    intro m hm' hcarries
    refine (h m (List.mem_filter.mpr ⟨hm', hcarries⟩)).imp_of_mem
      fun hlater hearlier hpair => ?_
    rw [hsame m hm' _ hlater, hsame m hm' _ hearlier]
    exact hpair
  rcases customer_named hk.remote hm hmem with
    hstays | ⟨ticket, e, request, hcalled, _, hnew⟩
  · exact hold m' hstays hcarries
  · rcases hnew with hone | ⟨m, hm', _, halias, hmore, choice, rfl, harrives⟩
    · rw [hone]
      exact List.pairwise_singleton _ _
    · have hcarries' : carries c m = true := by
        rw [carries, ← halias]
        exact hcarries
      rw [hmore]
      refine List.pairwise_cons.mpr ⟨fun earlier hearlier => ?_, hold m hm' hcarries'⟩
      rw [hsame m hm' _ hearlier, calledFor_move hinv hk.calls hm hcalled]
      simp only [inOrder, harrives, List.all_eq_true] at hc
      have hlast := hc m (List.mem_filter.mpr ⟨hm', hcarries'⟩)
      simp only [ne_eq, not_true_eq_false, decide_false, Bool.false_or, List.all_eq_true,
        Bool.not_eq_true'] at hlast
      exact hlast earlier hearlier

/-! ## What a processed event has done -/

/-- The event has named the Metronome customer. -/
def NamedBy (w : World (metronome policy)) (id e : String) : Prop :=
  ∃ m ∈ w.remote.customers, m.id = id ∧
    ∃ ticket ∈ m.writers, ∃ request, Entry.called e ticket request ∈ w.history

/-- An event newer than the one with this payload has named it. -/
def Outdated (w : World (metronome policy)) (id : String) (payload : JsonObject) : Prop :=
  ∃ e event, NamedBy w id e ∧ w.db.webhookEvents.find? e = some event ∧
    older (createdTime payload) (createdTime event.payload) = true

theorem NamedBy.move {id e : String} (h : NamedBy w id e) (hm : Move env w label w') :
    NamedBy w' id e := by
  obtain ⟨m, hmem, hid, ticket, hwriter, request, hcalled⟩ := h
  obtain ⟨m', hmem', hid', _, _, hwriters⟩ := (grows_move hm).customers m hmem
  exact ⟨m', hmem', hid'.trans hid, ticket, hwriters hwriter, request,
    history_mono hm hcalled⟩

theorem Outdated.move {id : String} {payload : JsonObject} (h : Outdated w id payload)
    (hinv : WorldInv env w) (hm : Move env w label w') : Outdated w' id payload := by
  obtain ⟨e, event, hnamed, hfind, holder⟩ := h
  obtain ⟨row, hfind', _, hpayload⟩ :=
    stored_move (tableMove hinv hm) (stored_of_find? hfind)
  rw [Table.find?_key hfind] at hfind'
  exact ⟨e, row, hnamed.move hm, hfind', hpayload ▸ holder⟩

/-- A `customer.created` attempt that has found its customer mapped is
outdated. -/
def SkipsOutdated (c : String) (w : World (metronome policy)) : Prop :=
  ∀ i s p, w.workers i = .running s p → handlerOf s.loaded = some .customerCreated →
    ∀ row, Fact.customerRow c (some row) ∈ s.journal →
      Outdated w row.metronomeCustomerId s.loaded.payload

/-- A mapping row in the journal has been looked up. -/
theorem customerRow_heard {i : WorkerId} {s : Session} {o : Op} {r : Res o}
    (hx : Exec env w i s o r w') {row : CustomerMapping}
    (hmem : Fact.customerRow c (some row) ∈ (s.after o r).journal) :
    Fact.customerRow c (some row) ∈ s.journal ∨
      o = .lookupCustomerMapping c ∧ (view w.db i).customerMappings.find? c =
        some row := by
  cases hx with
  | lookupCustomerMapping c' =>
      rcases List.mem_cons.mp hmem with heq | hmem
      · obtain ⟨rfl, hfind⟩ := Fact.customerRow.inj heq
        exact .inr ⟨rfl, hfind.symm⟩
      · exact .inl hmem
  | _ => exact .inl (by simpa [Session.after] using hmem)

theorem skipsOutdated_move (hinv : WorldInv env w) (hk : Known env w) (hn : NamesOk w)
    (h : SkipsOutdated c w) (hc : inOrder c w label = true) (hm : Move env w label w') :
    SkipsOutdated c w' := by
  intro i s' p' hi hcreated row hmem
  rcases running_source hm hi with
    ⟨_, rfl, _⟩ | hsame | ⟨s, o, r, w'', k, hat, hx, rfl, _, choice, rfl⟩
  · cases hmem
  · exact (h i s' p' hsame hcreated row hmem).move hinv hm
  · rw [after_loaded] at hcreated ⊢
    rcases customerRow_heard hx hmem with hmem | ⟨rfl, hfind⟩
    · exact (h i s _ hat hcreated row hmem).move hinv hm
    · simp only [inOrder, hat, hcreated, hfind, ne_eq, not_true_eq_false, decide_false,
        Bool.false_or, Option.all_some, List.any_eq_true, Bool.and_eq_true,
        decide_eq_true_eq] at hc
      obtain ⟨m, hm', hid, ticket, hwriter, holder⟩ := hc
      obtain ⟨e, request, name, hcalled, _⟩ := hn.writers m hm' ticket hwriter
      obtain ⟨event, hstored, _⟩ := hk.calls.justified _ _ _ hcalled
      rw [calledFor_eq hk.calls hcalled hstored] at holder
      have houtdated : Outdated w row.metronomeCustomerId s.loaded.payload :=
        ⟨e, event, ⟨m, hm', hid, ticket, hwriter, request, hcalled⟩, hstored, holder⟩
      exact houtdated.move hinv hm

/-- The event has named the customer of `c`, or a newer event has. -/
def Reflected (c : String) (w : World (metronome policy)) (event : WebhookEvent) : Prop :=
  ∃ row, w.db.customerMappings.find? c = some row ∧
    (NamedBy w row.metronomeCustomerId event.stripeEventId ∨
      Outdated w row.metronomeCustomerId event.payload)

theorem Reflected.move {event : WebhookEvent} (h : Reflected c w event)
    (hinv : WorldInv env w) (hm : Move env w label w') : Reflected c w' event := by
  obtain ⟨row, hrow, hnamed⟩ := h
  obtain ⟨row', hrow', hid⟩ := customer_stays (tableMove hinv hm) hrow
  refine ⟨row', hrow', ?_⟩
  rw [hid]
  exact hnamed.imp (·.move hm) (·.move hinv hm)

/-- A call that was answered as carried out has named the customer. -/
theorem namedBy_of_renamed (hinv : WorldInv env w) (hk : Known env w) {i : WorkerId}
    {s : Session}
    {p : Effect Unit} (hi : w.workers i = .running s p) {ticket : Nat} {id name : String}
    {response : SdkObject}
    (hanswer : Fact.answered ticket (.setName id name) (.ok response) ∈ s.journal) :
    NamedBy w id s.loaded.stripeEventId := by
  obtain ⟨reply, _, hmeans, hreports⟩ := hk.answered hinv hi hanswer rfl
  have hsent := (hinv.running hi).session.answered _ _ _ hanswer
  have hcalled := hk.calls.sent i s p hi _ _ hsent
  generalize hrequest : MetronomeRequest.setName id name = request at hmeans hcalled
  cases hmeans with
  | @renamed name' m hm hwriter =>
      obtain ⟨rfl, _⟩ := MetronomeRequest.setName.inj hrequest
      exact ⟨m, hm, rfl, ticket, hwriter, _, hcalled⟩
  | rejected _ => cases hreports
  | _ => cases hrequest

theorem namedBy_of_created (hinv : WorldInv env w) (hk : Known env w) {i : WorkerId}
    {s : Session}
    {p : Effect Unit} (hi : w.workers i = .running s p) {ticket : Nat} {id : String}
    {body : CustomerRequest} {outcome : SdkOutcome}
    (hanswer : Fact.answered ticket (.createCustomer body) outcome ∈ s.journal)
    (hanswers : Answers outcome id) : NamedBy w id s.loaded.stripeEventId := by
  obtain ⟨response, rfl, hresponse⟩ := hanswers
  obtain ⟨reply, _, hmeans, hreports⟩ := hk.answered hinv hi hanswer rfl
  have hsent := (hinv.running hi).session.answered _ _ _ hanswer
  have hcalled := hk.calls.sent i s p hi _ _ hsent
  cases hmeans with
  | @createdCustomer _ m hm _ _ hwriter =>
      have hid : extractId response = .ok m.id := of_decide_eq_true hreports
      rw [hresponse] at hid
      exact ⟨m, hm, (Except.ok.inj hid).symm, ticket, hwriter, _, hcalled⟩
  | duplicate _ _ => cases hreports
  | rejected _ => cases hreports

/-- Every processed event about `c` is reflected. -/
def AllReflected (c : String) (w : World (metronome policy)) : Prop :=
  ∀ e event, w.db.webhookEvents.find? e = some event → About c event →
    event.status = .PROCESSED → Reflected c w event

theorem allReflected_move (hinv : WorldInv env w) (hk : Known env w)
    (hskips : SkipsOutdated c w)
    (h : AllReflected c w) (hm : Move env w label w') : AllReflected c w' := by
  intro e event hfind habout hstatus
  rcases processed_source (tableMove hinv hm) hfind hstatus with
    hold | ⟨i, s, hi, hcom, hfresh, rfl, hcompletion, hmappings, _⟩
  · exact (h e event hold habout hstatus).move hinv hm
  · obtain ⟨hcustomer, hobject⟩ := habout
    have hpayload : s.event.payload = s.loaded.payload := hcom.same.2.2.1
    have hstays : ∀ c' row, objectId s.loaded.payload = some c' →
        Fact.customerRow c' (some row) ∈ s.journal →
        NamedBy w row.metronomeCustomerId s.loaded.stripeEventId ∨
          Outdated w row.metronomeCustomerId s.loaded.payload →
          Reflected c w' s.event := by
      intro c' row hobject' hrow hnamed
      rw [hpayload, hobject', Option.some.injEq] at hobject
      subst hobject
      obtain ⟨row', hrow', hid⟩ := hcom.customerRow c' row hrow
      rw [← hid, ← hcom.same.1, ← hpayload] at hnamed
      exact Reflected.move ⟨row', hrow', hnamed⟩ hinv hm
    rw [IsCustomer, handlerOf_same hcom.same] at hcustomer
    rcases hcompletion.of_customer hcustomer with
      ⟨c', row, hcreated, hobject', hrow⟩ | ⟨c', row, request, _, _, hobject', hrow,
        _, hanswer⟩ |
        ⟨row, hw, hflushed⟩
    · rw [hpayload] at hobject
      rw [hobject] at hobject'
      cases hobject'
      exact hstays _ _ hobject hrow (.inr (hskips i s _ hi hcreated _ hrow))
    · exact hstays _ _ hobject' hrow (.inl (namedBy_of_renamed hinv hk hi hanswer))
    · have hrow := find?_apply_insertCustomer
        (hfresh (.insertCustomer row) (by simp [hflushed]))
      rw [hflushed] at hmappings
      cases hw with
      | insertCustomer _ hobject' _ _ hanswer hanswers =>
          rw [hpayload, hobject', Option.some.injEq] at hobject
          have hnamed := (namedBy_of_created hinv hk hi hanswer hanswers).move hm
          rw [← hcom.same.1] at hnamed
          exact ⟨row, hmappings ▸ hobject ▸ hrow, .inl hnamed⟩

/-! ## Convergence -/

/-- Every event about `c` is processed, can be mapped, and has a time of its
own. -/
structure Settled (c : String) (w : World (metronome policy)) : Prop where
  processed : ∀ event ∈ w.db.webhookEvents.rows, About c event → event.status = .PROCESSED
  mappable : ∀ event ∈ w.db.webhookEvents.rows, About c event →
    (customerRequest event.payload).isSome
  dated : ∀ event ∈ w.db.webhookEvents.rows, About c event →
    (createdTime event.payload).isSome
  distinct : ∀ a ∈ w.db.webhookEvents.rows, ∀ b ∈ w.db.webhookEvents.rows,
    About c a → About c b →
    createdTime a.payload = createdTime b.payload → a = b

/-- No event about `c` has a greater time. -/
structure Newest (c : String) (w : World (metronome policy)) (event : WebhookEvent) :
    Prop where
  stored : event ∈ w.db.webhookEvents.rows
  about : About c event
  newest : ∀ other ∈ w.db.webhookEvents.rows, About c other →
    older (createdTime event.payload) (createdTime other.payload) = false

/-- Once all events about `c` are processed, its Metronome customer has the name
that the mapper yields for the newest. -/
def Converges (c : String) (w : World (metronome policy)) : Prop :=
  Settled c w → ∀ event, Newest c w event →
    ∃ row, w.db.customerMappings.find? c = some row ∧
      (∃ m ∈ w.remote.customers, m.id = row.metronomeCustomerId) ∧
      ∀ m ∈ w.remote.customers, m.id = row.metronomeCustomerId → NameOf event m.name

theorem eq_of_not_older {a b : Option Int} (ha : a.isSome) (hb : b.isSome)
    (hab : older a b = false) (hba : older b a = false) : a = b := by
  obtain ⟨a, rfl⟩ := Option.isSome_iff_exists.mp ha
  obtain ⟨b, rfl⟩ := Option.isSome_iff_exists.mp hb
  simp only [older, decide_eq_false_iff_not] at hab hba
  exact congrArg some (by omega)

/-- What a run in order keeps. -/
structure NameInv (env : Env) (c : String) (w : World (metronome policy)) : Prop where
  known : Known env w
  made : CustomersMade w
  names : NamesOk w
  skips : SkipsOutdated c w
  reflected : AllReflected c w
  chronological : Chronological c w

/-- The customer of a row was made for it alone. -/
theorem NameInv.unique (h : NameInv env c w) {row : CustomerMapping}
    (hrow : w.db.customerMappings.find? c = some row) {m : RemoteCustomer}
    (hm : m ∈ w.remote.customers) (hid : m.id = row.metronomeCustomerId) :
    m.ingestAliases = [c] ∧
      ∀ m' ∈ w.remote.customers, m'.id = row.metronomeCustomerId → m' = m := by
  have hunique : ∀ m' ∈ w.remote.customers, m'.id = row.metronomeCustomerId → m' = m :=
    fun m' hm' hid' => List.inj_on_of_nodup_map h.names.ids hm' hm (hid'.trans hid.symm)
  obtain ⟨m', hm', hid', halias, _⟩ := h.made c row hrow
  exact ⟨hunique m' hm' hid' ▸ halias, hunique⟩

/-- **The writers of the name.**  An event that has named the customer of a row
is about `c`, and its name is the mapper's. -/
theorem NameInv.writer (hinv : WorldInv env w) (h : NameInv env c w)
    {row : CustomerMapping}
    (hrow : w.db.customerMappings.find? c = some row) {e : String}
    (hnamed : NamedBy w row.metronomeCustomerId e) :
    ∃ event, w.db.webhookEvents.find? e = some event ∧ About c event := by
  obtain ⟨m, hm, hid, ticket, hwriter, request, hcalled⟩ := hnamed
  obtain ⟨e', request', name, hcalled', hgives⟩ := h.names.writers m hm ticket hwriter
  obtain ⟨rfl, rfl⟩ := h.known.calls.single _ _ _ _ _ hcalled hcalled'
  obtain ⟨event, hfind, habout, _⟩ := about_of_named hinv h.known.calls hrow hid
    (h.unique hrow hm hid).1 hcalled hgives
  exact ⟨event, hfind, habout⟩

/-- The newest event has itself named the customer. -/
theorem NameInv.named (hinv : WorldInv env w) (h : NameInv env c w) (hs : Settled c w)
    {event : WebhookEvent} (hnewest : Newest c w event) :
    ∃ row, w.db.customerMappings.find? c = some row ∧
      NamedBy w row.metronomeCustomerId event.stripeEventId := by
  obtain ⟨row, hrow, hnamed⟩ := h.reflected _ event (Table.find?_of_mem hnewest.stored)
    hnewest.about (hs.processed event hnewest.stored hnewest.about)
  refine ⟨row, hrow, hnamed.resolve_right fun houtdated => ?_⟩
  obtain ⟨e, event', hnamed', hfind, holder⟩ := houtdated
  obtain ⟨event'', hfind', habout⟩ := h.writer hinv hrow hnamed'
  rw [hfind, Option.some.injEq] at hfind'
  subst hfind'
  rw [hnewest.newest event' (Table.find?_mem hfind) habout] at holder
  cases holder

theorem NameInv.converges (hinv : WorldInv env w) (h : NameInv env c w) :
    Converges c w := by
  intro hs event hnewest
  obtain ⟨row, hrow, m, hm, hid, ticket, hwriter, request, hcalled⟩ :=
    h.named hinv hs hnewest
  obtain ⟨halias, hunique⟩ := h.unique hrow hm hid
  refine ⟨row, hrow, ⟨m, hm, hid⟩, fun m' hm' hid' => ?_⟩
  rw [hunique m' hm' hid']
  have hstored := Table.find?_of_mem hnewest.stored
  cases hwriters : m.writers with
  | nil => rw [hwriters] at hwriter; cases hwriter
  | cons last before =>
      -- the call that has named the customer last, and its event
      obtain ⟨e, request', hcalled', hgives⟩ := h.names.last m hm last before hwriters
      obtain ⟨event', hfind, habout, hname⟩ :=
        about_of_named hinv h.known.calls hrow hid halias
        hcalled' hgives
      have hmem := Table.find?_mem hfind
      rw [hwriters] at hwriter
      have hsame : event' = event := by
        rcases List.mem_cons.mp hwriter with rfl | hbefore
        · obtain ⟨rfl, _⟩ := h.known.calls.single _ _ _ _ _ hcalled hcalled'
          rw [hstored] at hfind
          exact (Option.some.inj hfind).symm
        · have hholder : m ∈ holders c w.remote := holder_of_alias hm halias
          have hpairwise := h.chronological m hholder
          rw [hwriters] at hpairwise
          have hlast := (List.pairwise_cons.mp hpairwise).1 ticket hbefore
          rw [calledFor_eq h.known.calls hcalled' hfind,
            calledFor_eq h.known.calls hcalled hstored] at hlast
          exact hs.distinct event' hmem event hnewest.stored habout hnewest.about
            (eq_of_not_older (hs.dated event' hmem habout)
              (hs.dated event hnewest.stored hnewest.about) hlast
                (hnewest.newest event' hmem habout))
      exact hsame ▸ hname

/-- Customers that the sidecar has not named, and no call under way. -/
structure Unnamed (store : RemoteStore) : Prop extends Quiet store where
  ids : (store.customers.map (·.id)).Nodup
  writers : ∀ m ∈ store.customers, m.writers = []

theorem nameInv_initial (h : Initial w) (hu : Unnamed w.remote) : NameInv env c w where
  known := known_initial h hu.toQuiet
  made c' row hrow := by
    rw [h.db] at hrow
    cases hrow
  names := by
    refine ⟨hu.ids, fun m hm ticket hwriter => ?_, fun m hm ticket before hwriters => ?_⟩
    · rw [hu.writers m hm] at hwriter
      cases hwriter
    · rw [hu.writers m hm] at hwriters
      cases hwriters
  skips i s p hi := by
    rw [h.workers i] at hi
    cases hi
  reflected e event hfind := by
    rw [h.db] at hfind
    cases hfind
  chronological m hm := by
    rw [hu.writers m (List.mem_of_mem_filter hm)]
    exact .nil

theorem nameInv_move (hp : policy.repeatsIds = false) (hinv : WorldInv env w)
    (h : NameInv env c w) (hc : inOrder c w label = true) (hm : Move env w label w') :
    NameInv env c w' where
  known := known_move hinv h.known hm
  made := customersMade_move hinv h.known h.made hm
  names := namesOk_move hp h.known.remote h.names hm
  skips := skipsOutdated_move hinv h.known h.names h.skips hc hm
  reflected := allReflected_move hinv h.known h.skips h.reflected hm
  chronological := chronological_move hinv h.known h.names h.chronological hc hm

/-- **In order, the last name is that of the newest event**, however the events
were delivered, retried and shared among the workers. -/
theorem name_converges {rejects : Bool} {w₀ w : World (metronome ⟨rejects, false⟩)}
    (h : Path (step env _) (fun w label => inOrder c w label = true) w₀ w)
    (h₀ : Initial w₀) (hu : Unnamed w₀.remote) : Converges c w := by
  obtain ⟨hinv, hnames⟩ := run_invariant_from h h₀ (nameInv_initial h₀ hu)
    fun w label w' hc hinv hnames hm => nameInv_move rfl hinv hnames hc hm
  exact hnames.converges hinv

theorem unnamed_empty : Unnamed .empty where
  posted := rfl
  inFlight := rfl
  replies := rfl
  ids := List.nodup_nil
  writers _ hm := by cases hm

/-- Ada marries. -/
def adaRenamed : Delivery :=
  customerDelivery "evt_3" "customer.updated" 3 "cus_1" "Ada Lovelace"

/-- An event between the two, delivered late. -/
def adaLate : Delivery := customerDelivery "evt_4" "customer.updated" 2 "cus_1" "Ada L."

/-- Worker `i` handles a `customer.updated` event of a mapped customer. -/
def renames {policy : Policy} (i : WorkerId) (ticket : Nat) :
    List (Label (metronome policy)) :=
  claims i ++ performs i 3 ++ [.serve (.deliver ticket ""), receives i (.ok .none)] ++
    performs i 8 ++ [.finish i]

/-- An installation that receives the three events. -/
def renamingAda : Env := installation [adaCreated, adaRenamed, adaLate]

/-- Ada is created, and marries. -/
def inOrderAda {policy : Policy} : List (Label (metronome policy)) :=
  [.webhook adaCreated.request, .tick 1] ++ createsCustomer 0 0 "m1" ++
    [.webhook adaRenamed.request, .tick 2] ++ renames 0 1

/-- The world once both events are processed. -/
def renamedAda : World (metronome policyRejecting) :=
  (runWhen (step renamingAda _) (inOrder "cus_1") (World.fresh _) inOrderAda).getD
    (World.fresh _)

theorem name_converges_renamedAda :
    renamedAda.remote.customers.map (·.name) = ["Ada Lovelace"] ∧
    Converges "cus_1" renamedAda :=
  ⟨by decide +kernel, name_converges (path_runWhen_getD (fun _ _ hc => hc) _ _)
    (initial_fresh _) unnamed_empty⟩

/-! ## A late event -/

/-- The world once the late event is processed too. -/
def outdatedAda : World (metronome policyRejecting) :=
  runFrom renamingAda policyRejecting
    (inOrderAda ++ [.webhook adaLate.request, .tick 3] ++ renames 0 2)

/-- The fields of an event that its name rests on. -/
def summary (event : WebhookEvent) :
    String × Status × Option String × Option Int × Option String :=
  (event.eventType, event.status, objectId event.payload, createdTime event.payload,
    (customerRequest event.payload).map (·.name))

theorem outdatedAda_ends :
    outdatedAda.db.webhookEvents.rows.map summary =
      [("customer.created", .PROCESSED, some "cus_1", some 1, some "Ada"),
        ("customer.updated", .PROCESSED, some "cus_1", some 3, some "Ada Lovelace"),
        ("customer.updated", .PROCESSED, some "cus_1", some 2, some "Ada L.")] ∧
    outdatedAda.remote.customers.map (·.name) = ["Ada L."] := by
  decide +kernel

theorem outdatedAda_event {event : WebhookEvent}
    (hmem : event ∈ outdatedAda.db.webhookEvents.rows) :
    event.status = .PROCESSED ∧ (customerRequest event.payload).isSome ∧
      ∃ created, createdTime event.payload = some created ∧ created ≤ 3 := by
  have hsummary : summary event ∈ outdatedAda.db.webhookEvents.rows.map summary :=
    List.mem_map_of_mem hmem
  rw [outdatedAda_ends.1] at hsummary
  simp only [summary, List.mem_cons, Prod.mk.injEq, Option.map_eq_some_iff,
    List.not_mem_nil, or_false] at hsummary
  rcases hsummary with h | h | h
  all_goals
    obtain ⟨_, hstatus, _, hcreated, request, hrequest, _⟩ := h
    exact ⟨hstatus, Option.isSome_iff_exists.mpr ⟨request, hrequest⟩, _,
      hcreated, by decide⟩

theorem settled_outdatedAda : Settled "cus_1" outdatedAda where
  processed event hmem _ := (outdatedAda_event hmem).1
  mappable event hmem _ := (outdatedAda_event hmem).2.1
  dated event hmem _ := by
    obtain ⟨_, _, created, hcreated, _⟩ := outdatedAda_event hmem
    exact Option.isSome_iff_exists.mpr ⟨created, hcreated⟩
  distinct a ha b hb _ _ heq := by
    have htimes := congrArg (List.map fun x => x.2.2.2.1) outdatedAda_ends.1
    rw [List.map_map] at htimes
    have hnodup : (outdatedAda.db.webhookEvents.rows.map fun event =>
        createdTime event.payload).Nodup := htimes ▸ by decide
    exact List.inj_on_of_nodup_map hnodup ha hb heq

/-- **A late event brings an old name back.** -/
theorem name_converges_outdatedAda :
    Reaches (step renamingAda _) (World.fresh _) outdatedAda ∧
    ¬Converges "cus_1" outdatedAda := by
  refine ⟨reaches_runFrom _ _ _, fun hconverges => ?_⟩
  have hnewest : ("customer.updated", Status.PROCESSED, some "cus_1", some 3,
      some "Ada Lovelace") ∈ outdatedAda.db.webhookEvents.rows.map summary := by
    rw [outdatedAda_ends.1]
    decide
  obtain ⟨event, hmem, hevent⟩ := List.mem_map.mp hnewest
  simp only [summary, Prod.mk.injEq] at hevent
  obtain ⟨htype, _, hobject, htime, hname⟩ := hevent
  obtain ⟨_, _, ⟨m, hm, hid⟩, hheld⟩ := hconverges settled_outdatedAda event {
    stored := hmem
    about := ⟨isCustomer_iff.mpr (.inr htype), hobject⟩
    newest := fun other hmem _ => by
      obtain ⟨_, _, created, hcreated, hle⟩ := outdatedAda_event hmem
      rw [htime, hcreated]
      exact decide_eq_false (not_lt.mpr hle) }
  obtain ⟨request, hrequest, hheld⟩ := hheld m hm hid
  rw [hrequest, Option.map_some, hheld, Option.some.injEq] at hname
  have hmem := List.mem_map_of_mem (f := fun m : RemoteCustomer => m.name) hm
  rw [outdatedAda_ends.2, hname] at hmem
  exact absurd hmem (by decide)

end Sidecar.Ports.Names
