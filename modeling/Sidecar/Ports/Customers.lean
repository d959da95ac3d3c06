import Sidecar.Ports.Agreement

/-!
# One customer per alias

Unlike a contract, a Metronome customer is created without a key, and a
conflict on its ingest alias is not recovered from.  So the create call must
not be repeated: a customer whose row was never committed is made a second
time, or its event fails for good.  Where no worker asks for a customer that
Metronome has, or has been asked for, and no call for it is POSTed twice, one
customer carries the alias, and every attempt that gets an answer ends with the
row of that customer.

## Main results

* `once_move` — what one uncontested step preserves.
* `CustomerInv.commits` — an attempt that Metronome has told about its customer
  processes its event.
-/

namespace Sidecar.Ports.Customers

open Sidecar.Verified.KeyedTable
open Sidecar.Ports.Python
open Sidecar.Ports.Mappers
open Sidecar.Ports.Models
open Sidecar.Ports.Effects
open Sidecar.Ports.MetronomeClient
open Sidecar.Ports.System
open Sidecar.Ports.Attempt
open Sidecar.Ports.Moves
open Sidecar.Ports.Transactions
open Sidecar.Ports.Invariant
open Sidecar.Ports.Mappings
open Sidecar.Ports.Remote
open Sidecar.Ports.Calls
open Sidecar.Ports.Replies
open Sidecar.Ports.Agreement

variable {env : Env} {policy : Policy} {w w' : World (metronome policy)}
  {label : Label (metronome policy)} {store store' : RemoteStore} {choice : RemoteChoice}
  {c : String}

/-! ## Customers with an alias -/

/-- The customer has the ingest alias `c`. -/
def carries (c : String) (m : RemoteCustomer) : Bool := m.ingestAliases.contains c

/-- The Metronome customers that carry the ingest alias `c`. -/
def holders (c : String) (store : RemoteStore) : List RemoteCustomer :=
  store.customers.filter (carries c)

/-- The request asks for a customer with the ingest alias `c`. -/
def createsFor (c : String) : MetronomeRequest → Bool
  | .createCustomer body => body.ingestAliases.contains c
  | _ => false

/-- Those requests that Metronome may still carry out. -/
def underWay (c : String) (store : RemoteStore) : List (Nat × MetronomeRequest) :=
  store.inFlight.filter fun x => createsFor c x.2

/-- The alias is taken, or asked for, once, and no two customers have one id. -/
structure Single (c : String) (store : RemoteStore) : Prop where
  count : (holders c store).length + (underWay c store).length ≤ 1
  ids : (store.customers.map (·.id)).Nodup

theorem underWay_arrive (ticket : Nat) :
    underWay c (store.arrive ticket) = (underWay c store).filter fun x =>
      x.1 ≠ ticket := by
  simp only [underWay, RemoteStore.arrive, List.filter_filter]
  congr 1
  funext x
  exact Bool.and_comm _ _

theorem underWay_arrive_le (ticket : Nat) :
    (underWay c (store.arrive ticket)).length ≤ (underWay c store).length := by
  rw [underWay_arrive]
  exact List.length_filter_le _ _

/-- A request that arrives is no longer under way. -/
theorem underWay_arrive_lt {ticket : Nat} {request : MetronomeRequest}
    (hmem : (ticket, request) ∈ store.inFlight) (hcreates : createsFor c request = true) :
    (underWay c (store.arrive ticket)).length < (underWay c store).length := by
  have hunder : (ticket, request) ∈ underWay c store :=
    List.mem_filter.mpr ⟨hmem, hcreates⟩
  rw [underWay_arrive]
  exact List.length_filter_lt_length_iff_exists.mpr ⟨_, hunder, by simp⟩

/-- A create request under way finds nobody with its alias. -/
theorem Single.vacant (h : Single c store) {ticket : Nat} {request : MetronomeRequest}
    (hmem : (ticket, request) ∈ store.inFlight) (hcreates : createsFor c request = true) :
    holders c store = [] := by
  have hlt := underWay_arrive_lt hmem hcreates
  have hcount := h.count
  exact List.length_eq_zero_iff.mp (by omega)

theorem holders_rename (ticket : Nat) (id name : String) (ms : List RemoteCustomer) :
    ((ms.map (rename ticket id name)).filter (carries c)).length =
      (ms.filter (carries c)).length := by
  have hsame : carries c ∘ rename ticket id name = carries c := by
    funext m
    simp only [Function.comp_apply, carries, (rename_fields ticket id name m).2.1]
  rw [List.filter_map, List.length_map, hsame]

theorem ids_rename (ticket : Nat) (id name : String) (ms : List RemoteCustomer) :
    (ms.map (rename ticket id name)).map (·.id) = ms.map (·.id) := by
  rw [List.map_map]
  refine List.map_congr_left fun m _ => ?_
  exact (rename_fields ticket id name m).1

/-- A request that is carried out makes at most the customer it asks for. -/
theorem holders_carriedOut {ticket : Nat} {newId : String} {request : MetronomeRequest}
    {reply : Reply} (h : CarriedOut policy store ticket newId request store' reply) :
    (holders c store').length ≤
      (holders c store).length + if createsFor c request then 1 else 0 := by
  cases h with
  | @createdCustomer body _ _ =>
      have hnew : carries c ⟨newId, body.name, body.ingestAliases,
          body.customerBillingProviderConfigurations, [ticket]⟩ =
            createsFor c (.createCustomer body) := rfl
      by_cases hbody : createsFor c (.createCustomer body) = true
      · rw [if_pos hbody, holders, List.filter_cons_of_pos (hnew.trans hbody)]
        exact Nat.le_refl _
      · rw [holders, List.filter_cons_of_neg (hnew ▸ hbody)]
        exact Nat.le_add_right _ _
  | renamed _ => exact Nat.le_add_right_of_le (Nat.le_of_eq (holders_rename _ _ _ _))
  | _ => exact Nat.le_add_right _ _

theorem ids_carriedOut {ticket : Nat} {newId : String} {request : MetronomeRequest}
    {reply : Reply} (h : CarriedOut policy store ticket newId request store' reply)
    (hp : policy.repeatsIds = false) (hids : (store.customers.map (·.id)).Nodup) :
    (store'.customers.map (·.id)).Nodup := by
  cases h with
  | createdCustomer _ hfresh =>
      refine List.nodup_cons.mpr ⟨fun hmem => ?_, hids⟩
      obtain ⟨m, hm, hid⟩ := List.mem_map.mp hmem
      have hany := hfresh hp
      rw [List.any_eq_true.mpr ⟨m, hm, decide_eq_true hid⟩] at hany
      cases hany
  | renamed _ =>
      rw [ids_rename]
      exact hids
  | _ => exact hids

/-- The choice carries out a POST for `c` whose answer nobody gets. -/
def reposts (c : String) (store : RemoteStore) : RemoteChoice → Bool
  | .repost ticket _ => (store.posted.lookup ticket).any (createsFor c)
  | _ => false

theorem Single.remoteMove (hp : policy.repeatsIds = false) (h : Single c store)
    (hu : reposts c store choice = false) (hm : RemoteMove policy store choice store') :
    Single c store' := by
  have hcount := h.count
  cases hm with
  | @reposted ticket newId request store' reply hlookup hc =>
      have hother : createsFor c request = false := by
        rw [reposts, hlookup] at hu
        exact hu
      have hholders : (holders c store').length ≤ (holders c store).length +
          if createsFor c request then 1 else 0 := holders_carriedOut hc
      have hunder : underWay c store' = underWay c store := by
        rw [underWay, hc.network.1]
        rfl
      rw [hother, if_neg Bool.false_ne_true] at hholders
      refine ⟨?_, ids_carriedOut hc hp h.ids⟩
      rw [hunder]
      omega
  | @carriedOut ticket newId request store'' reply hlookup hc =>
      have hmem := mem_of_lookup hlookup
      have hids : (store''.customers.map (·.id)).Nodup := ids_carriedOut hc hp h.ids
      refine ⟨?_, hids⟩
      have hholders : (holders c store'').length ≤
        (holders c (store.arrive ticket)).length +
          if createsFor c request then 1 else 0 := holders_carriedOut hc
      have hsame : holders c (store.arrive ticket) = holders c store := rfl
      have hunder : underWay c store'' = underWay c (store.arrive ticket) := by
        rw [underWay, hc.network.1]
        rfl
      show (holders c store'').length + (underWay c store'').length ≤ 1
      rw [hunder]
      rw [hsame] at hholders
      by_cases hcreates : createsFor c request = true
      · have hlt := underWay_arrive_lt hmem hcreates
        rw [if_pos hcreates] at hholders
        omega
      · have hle : (underWay c (store.arrive ticket)).length ≤
          (underWay c store).length :=
          underWay_arrive_le ticket
        rw [if_neg hcreates] at hholders
        omega
  | @refused ticket _ _ _ _ =>
      have hle : (underWay c (store.arrive ticket)).length ≤ (underWay c store).length :=
        underWay_arrive_le ticket
      refine ⟨?_, h.ids⟩
      show (holders c store).length + (underWay c (store.arrive ticket)).length ≤ 1
      omega
  | dropped ticket =>
      have hle : (underWay c (store.arrive ticket)).length ≤ (underWay c store).length :=
        underWay_arrive_le ticket
      refine ⟨?_, h.ids⟩
      show (holders c store).length + (underWay c (store.arrive ticket)).length ≤ 1
      omega
  | foreign _ => exact ⟨hcount, h.ids⟩

/-- At most one answer is new, to a request that was in flight; a create
request that conflicts has found a customer. -/
theorem answer_of_remoteMove (h : RemoteMove policy store choice store') {ticket : Nat}
    {reply : Reply} (hreply : (ticket, reply) ∈ store'.replies) :
    (ticket, reply) ∈ store.replies ∨
      ∃ request, (ticket, request) ∈ store.inFlight ∧
        store'.replies = (ticket, reply) :: store.replies ∧
        ∀ body, request = .createCustomer body → reply = .conflict →
          store.customers.any (sharesAlias body) = true := by
  cases h with
  | reposted _ hc => exact .inl (hc.network.2.1 ▸ hreply)
  | @carriedOut ticket' newId request store'' reply' hmem hc =>
      have hreplies : (store''.answer ticket' reply').replies =
          (ticket', reply') :: store.replies := by
        rw [RemoteStore.answer, hc.network.2.1]
        rfl
      rw [hreplies] at hreply ⊢
      rcases List.mem_cons.mp hreply with heq | hold
      · cases heq
        refine .inr ⟨request, mem_of_lookup hmem, rfl, fun body hbody hconflict => ?_⟩
        subst hbody
        subst hconflict
        cases hc with
        | duplicate _ hany => exact hany
      · exact .inl hold
  | @refused ticket' request statusCode hmem _ =>
      rcases List.mem_cons.mp hreply with heq | hold
      · cases heq
        exact .inr ⟨request, mem_of_lookup hmem, rfl,
          fun _ _ hconflict => by cases hconflict⟩
      · exact .inl hold
  | dropped _ => exact .inl hreply
  | foreign _ => exact .inl hreply

/-! ## Uncontested runs -/

/-- No worker asks for the customer of `c` while Metronome has it or has been
asked for it, and no call for it is POSTed twice. -/
def uncontested (c : String) (w : World (metronome policy)) :
    Label (metronome policy) → Bool
  | .perform i _ =>
      match w.workers i with
      | .running _ (.perform (.send request) _) =>
          !createsFor c request ||
            (holders c w.remote).isEmpty && (underWay c w.remote).isEmpty
      | _ => true
  | .serve choice => !reposts c w.remote choice
  | _ => true

theorem single_move (hp : policy.repeatsIds = false) (h : Single c w.remote)
    (hu : uncontested c w label = true) (hm : Move env w label w') :
    Single c w'.remote := by
  cases hm with
  | served hs => exact h.remoteMove hp (Bool.not_eq_true' _ ▸ hu) (serve_sound hs)
  | @performed i choice s o k r w'' hi hx =>
      cases hx with
      | send request =>
          simp only [uncontested, hi, Bool.or_eq_true, Bool.not_eq_true',
            Bool.and_eq_true, List.isEmpty_iff] at hu
          refine ⟨?_, h.ids⟩
          show (holders c w.remote).length +
            (((w.tickets, request) :: w.remote.inFlight).filter
              fun x => createsFor c x.2).length ≤ 1
          rcases hu with hother | ⟨hholders, hunder⟩
          · rw [List.filter_cons_of_neg (by simp [hother])]
            exact h.count
          · have hunder : w.remote.inFlight.filter (fun x => createsFor c x.2) =
              [] := hunder
            rw [hholders, List.filter_cons, hunder]
            split <;> simp
      | _ => exact h
  | _ => exact h

/-- The mapper asks for the alias of the customer that the event is about. -/
theorem createsFor_request {payload : JsonObject} {request : CustomerRequest}
    {c' : String} (hrequest : customerRequest payload = some request)
    (hid : objectId payload = some c') :
    createsFor c (.createCustomer request) = true ↔ c' = c := by
  rw [customerRequest_spec hrequest hid]
  simp [createsFor, customerBody, eq_comm]

theorem holder_of_alias {m : RemoteCustomer} (hm : m ∈ store.customers)
    (halias : m.ingestAliases = [c]) : m ∈ holders c store := by
  refine List.mem_filter.mpr ⟨hm, ?_⟩
  rw [carries, halias]
  simp

/-- A customer created for `c` has this alias alone. -/
theorem aliases_of_called (hcalls : CallsOk env w) {e : String} {ticket : Nat}
    {request : MetronomeRequest} (hcalled : Entry.called e ticket request ∈ w.history)
    (hcreates : createsFor c request = true) :
    ∃ body, request = .createCustomer body ∧ body.ingestAliases = [c] := by
  obtain ⟨event, _, hj⟩ := hcalls.justified _ _ _ hcalled
  cases hj with
  | createCustomer _ hid hrequest =>
      obtain rfl := (createsFor_request hrequest hid).mp hcreates
      refine ⟨_, rfl, ?_⟩
      rw [customerRequest_spec hrequest hid]
      rfl
  | _ => cases hcreates

/-- Metronome has made the customer that a create call for `c` asked for. -/
theorem holder_of_created (hk : Known env w) {e : String} {ticket : Nat}
    {request : MetronomeRequest} {id : String}
    (hcalled : Entry.called e ticket request ∈ w.history)
    (hcreates : createsFor c request = true)
    (hreply : (ticket, Reply.created id) ∈ w.remote.replies) :
    ∃ m ∈ holders c w.remote, m.id = id := by
  obtain ⟨body, rfl, halias⟩ := aliases_of_called hk.calls hcalled hcreates
  obtain ⟨e', request', hcalled', hmeans⟩ := hk.remote.replies _ _ hreply
  obtain ⟨_, rfl⟩ := hk.calls.single _ _ _ _ _ hcalled hcalled'
  cases hmeans with
  | createdCustomer hm halias' _ _ =>
      exact ⟨_, holder_of_alias hm (halias'.trans halias), rfl⟩

/-- What holds of the calls for `c` as long as nobody contests them. -/
structure Once (c : String) (w : World (metronome policy)) : Prop where
  remote : Single c w.remote
  accepted : ∀ e ticket request, Entry.called e ticket request ∈ w.history →
    createsFor c request = true → (ticket, Reply.conflict) ∉ w.remote.replies
  first : ∀ e ticket request id e' ticket' request' id',
    Entry.called e ticket request ∈ w.history → createsFor c request = true →
    (ticket, Reply.created id) ∈ w.remote.replies →
    Entry.called e' ticket' request' ∈ w.history → createsFor c request' = true →
    (ticket', Reply.created id') ∈ w.remote.replies → ticket = ticket'
  /-- The row is committed by the attempt whose call has made the customer. -/
  unmapped : ∀ i s p, w.workers i = .running s p → s.poisoned = false →
    ∀ ticket request id, Fact.sent ticket request ∈ s.journal →
    createsFor c request = true →
    (ticket, Reply.created id) ∈ w.remote.replies → w.db.customerMappings.find? c = none
  intact : ∀ i s p, w.workers i = .running s p → ∀ ticket request outcome,
    Fact.answered ticket request outcome ∈ s.journal → createsFor c request = true →
    s.poisoned = false

/-- **Where an answer to a call for `c` comes from**: it was there, or it is the
answer to the one call under way, and finds nobody with the alias. -/
theorem answer_source (hk : Known env w) (h : Once c w) (hm : Move env w label w')
    {e : String} {ticket : Nat} {request : MetronomeRequest} {reply : Reply}
    (hcalled : Entry.called e ticket request ∈ w'.history)
    (hcreates : createsFor c request = true)
    (hreply : (ticket, reply) ∈ w'.remote.replies) :
    (Entry.called e ticket request ∈ w.history ∧ (ticket, reply) ∈ w.remote.replies) ∨
      (holders c w.remote = [] ∧ w'.db = w.db ∧ reply ≠ .conflict ∧
        w'.remote.replies = (ticket, reply) :: w.remote.replies) := by
  rcases call_source hm hcalled with hold | ⟨i, _, s, k, _, _, _, rfl, _, hremote⟩
  · cases hm with
    | served hs =>
        rcases answer_of_remoteMove (serve_sound hs) hreply with
          hthere | ⟨request', hflight, hreplies, hconflict⟩
        · exact .inl ⟨hold, hthere⟩
        · obtain ⟨e', hcalled'⟩ := hk.remote.inFlight _ _ hflight
          obtain ⟨_, rfl⟩ := hk.calls.single _ _ _ _ _ hold hcalled'
          obtain ⟨body, rfl, halias⟩ := aliases_of_called hk.calls hold hcreates
          have hvacant := h.remote.vacant hflight hcreates
          refine .inr ⟨hvacant, rfl, fun heq => ?_, hreplies⟩
          obtain ⟨m, hmem, hshares⟩ := List.any_eq_true.mp (hconflict body rfl heq)
          have hholder : m ∈ holders c w.remote := by
            refine List.mem_filter.mpr ⟨hmem, ?_⟩
            simpa [carries, sharesAlias, halias] using hshares
          rw [hvacant] at hholder
          cases hholder
    | performed _ hx => cases hx <;> exact .inl ⟨hold, hreply⟩
    | _ => exact .inl ⟨hold, hreply⟩
  · rw [hremote] at hreply
    obtain ⟨e', request', hcalled', _⟩ := hk.remote.replies _ _ hreply
    exact absurd (hk.calls.issued _ _ _ hcalled') (Nat.lt_irrefl _)

/-! ## Sessions that have called -/

theorem after_poisoned {s : Session} {o : Op} {r : Res o}
    (h : (s.after o r).poisoned = false) : s.poisoned = false := by
  cases o with
  | flush =>
      cases r with
      | ok _ => exact h
      | error exc => cases h
  | _ => exact h

/-- A sent call is new with its ticket, or was sent by this attempt before. -/
theorem sent_source (hm : Move env w label w') {i : WorkerId} {s' : Session}
    {p' : Effect Unit}
    (hi : w'.workers i = .running s' p') {ticket : Nat} {request : MetronomeRequest}
    (hsent : Fact.sent ticket request ∈ s'.journal) (hold : ticket < w.tickets) :
    ∃ s p, w.workers i = .running s p ∧ s'.loaded = s.loaded ∧
      Fact.sent ticket request ∈ s.journal ∧
      (s'.poisoned = false → s.poisoned = false) := by
  rcases running_source hm hi with
    ⟨row, rfl, _⟩ | hsame | ⟨s, o, r, w'', k, hat, hx, rfl, _⟩
  · cases hsent
  · exact ⟨s', p', hsame, rfl, hsent, id⟩
  · refine ⟨s, _, hat, after_loaded, ?_, after_poisoned⟩
    have hlearn : ∀ f, (s.after o r).journal = f :: s.journal → f ≠ .sent ticket request →
        Fact.sent ticket request ∈ s.journal := fun f hjournal hne => by
      rw [hjournal] at hsent
      exact (List.mem_cons.mp hsent).resolve_left hne.symm
    cases hx with
    | send request' =>
        refine hlearn (.sent w.tickets request') rfl fun heq => ?_
        cases heq
        exact Nat.lt_irrefl _ hold
    | lookupCustomerMapping c => exact hlearn _ rfl (by simp)
    | lookupSubscriptionMapping sub => exact hlearn _ rfl (by simp)
    | recv _ => exact hlearn (.answered _ _ _) rfl (by simp)
    | clock => exact hlearn (.clock w.now) rfl (by simp)
    | uniform _ => exact hlearn (.drew _) rfl (by simp)
    | _ => exact hsent

/-- Two attempts that have made the same call are one. -/
theorem caller_unique (hinv : WorldInv env w) (hcalls : CallsOk env w) {i j : WorkerId}
    {s s' : Session} {p p' : Effect Unit} (hi : w.workers i = .running s p)
    (hj : w.workers j = .running s' p') (hp : s.poisoned = false)
    (hp' : s'.poisoned = false) {ticket : Nat} {request request' : MetronomeRequest}
    (h : Fact.sent ticket request ∈ s.journal)
    (h' : Fact.sent ticket request' ∈ s'.journal) :
    i = j := by
  have hcalled := hcalls.sent i s p hi _ _ h
  have hcalled' := hcalls.sent j s' p' hj _ _ h'
  obtain ⟨hevent, _⟩ := hcalls.single _ _ _ _ _ hcalled hcalled'
  have hlock := ((hinv.running hi).locked _).mpr ⟨hp, rfl⟩
  have hlock' := ((hinv.running hj).locked _).mpr ⟨hp', rfl⟩
  rw [hevent, hlock', Option.some.injEq] at hlock
  exact hlock.symm

/-- What an attempt that is about to insert the row of `c` has done. -/
theorem creator_of_writes (hinv : WorldInv env w) (hk : Known env w) {i : WorkerId}
    {s : Session}
    {p : Effect Unit} (hi : w.workers i = .running s p) {row : CustomerMapping}
    (h : Writes env.settings env.tiers s (.insertCustomer row)) :
    ∃ ticket request, Fact.sent ticket request ∈ s.journal ∧
      createsFor row.stripeCustomerId request = true ∧
      (ticket, Reply.created row.metronomeCustomerId) ∈ w.remote.replies := by
  cases h with
  | @insertCustomer _ request ticket _ _ hid _ hrequest hmem hanswer =>
      obtain ⟨response, rfl, hresponse⟩ := hanswer
      obtain ⟨reply, hreply, hmeans, hreports⟩ := hk.answered hinv hi hmem rfl
      refine ⟨ticket, _, (hinv.running hi).session.answered _ _ _ hmem, ?_, ?_⟩
      · exact (createsFor_request hrequest hid).mpr rfl
      · cases hmeans with
        | createdCustomer _ _ _ _ =>
            have hid' : extractId response = .ok _ := of_decide_eq_true hreports
            rw [hresponse, Except.ok.injEq] at hid'
            rw [hid']
            exact hreply
        | duplicate _ _ => cases hreports
        | rejected _ => cases hreports

/-- A new row is committed by an attempt that is over. -/
theorem inserted_source (hinv : WorldInv env w) (hm : Move env w label w')
    (hnone : w.db.customerMappings.find? c = none) {row : CustomerMapping}
    (hrow : w'.db.customerMappings.find? c = some row) :
    ∃ i s, w.workers i = .running s (.ret ()) ∧ w'.workers i = .idle ∧
    s.poisoned = false ∧
      row.stripeCustomerId = c ∧
      Writes env.settings env.tiers s (.insertCustomer row) := by
  cases tableMove hinv hm with
  | untouched _ _ hs _ _ => rw [hs.customer, hnone] at hrow; cases hrow
  | insert _ _ hs _ => rw [hs.customer, hnone] at hrow; cases hrow
  | replay _ _ _ hs _ => rw [hs.customer, hnone] at hrow; cases hrow
  | @commit i _ s hi hcom _ _ hc _ _ =>
      have hidle : w'.workers i = .idle := by
        cases hm <;> exact Function.update_self _ _ _
      rw [hc] at hrow
      rcases customer_of_commit hcom hrow with ⟨row', hrow', _⟩ | ⟨hkey, _, hwrites, _⟩
      · rw [hnone] at hrow'
        cases hrow'
      · exact ⟨i, s, hi, hidle, ((hinv.running hi).always.here).1, hkey, hwrites⟩

/-- An attempt that calls for `c` handles an event of `c`. -/
theorem customer_of_sends {s : Session} {request : MetronomeRequest}
    (h : Sends env.settings env.tiers s request)
    (hcreates : createsFor c request = true) :
    IsCustomer s.loaded ∧ objectId s.loaded.payload = some c := by
  cases h with
  | createCustomer hcustomer hid _ hrequest =>
      obtain rfl := (createsFor_request hrequest hid).mp hcreates
      exact ⟨hcustomer, hid⟩
  | _ => cases hcreates

/-! ## One step -/

theorem unmapped_of_vacant (hmade : CustomersMade w) (hvacant : holders c w.remote = []) :
    w.db.customerMappings.find? c = none := by
  by_contra hmapped
  obtain ⟨row, hrow⟩ := Option.ne_none_iff_exists'.mp hmapped
  obtain ⟨m, hm, _, halias, _⟩ := hmade c row hrow
  have hholder := holder_of_alias hm halias
  rw [hvacant] at hholder
  cases hholder

/-- The row of `c` violates no constraint. -/
theorem row_accepted (hinv : WorldInv env w) (hk : Known env w) (hmade : CustomersMade w)
    (h : Once c w) {i : WorkerId} {s : Session} {p : Effect Unit}
    (hi : w.workers i = .running s p) (hp : s.poisoned = false) {row : CustomerMapping}
    (hwrites : Writes env.settings env.tiers s (.insertCustomer row))
    (hc : row.stripeCustomerId = c) :
    w.db.violates env.enforceFk [] (.insertCustomer row) = none := by
  obtain ⟨ticket, request, hsent, hcreates, hreply⟩ :=
    creator_of_writes hinv hk hi hwrites
  have hnone := h.unmapped i s p hi hp ticket request _ hsent (hc ▸ hcreates) hreply
  obtain ⟨m, hm, hid, halias, _⟩ := madeFor_of_writes hinv hk hi hwrites
  have hdistinct : ∀ r ∈ w.db.customerMappings.rows,
      r.metronomeCustomerId ≠ row.metronomeCustomerId := by
    intro r hr heq
    have hfind := Table.find?_of_mem hr
    obtain ⟨m', hm', hid', halias', _⟩ := hmade _ r hfind
    have hsame : m' = m :=
      List.inj_on_of_nodup_map h.remote.ids hm' hm (hid'.trans (heq.trans hid.symm))
    rw [hsame, halias, hc] at halias'
    rw [← (List.cons.inj halias').1, hnone] at hfind
    cases hfind
  rw [Postgres.violates, hc, hnone]
  simpa using hdistinct

/-- An attempt that has called for `c` is not refused what it writes. -/
theorem flush_accepted (hinv : WorldInv env w) (hk : Known env w)
    (hmade : CustomersMade w)
    (h : Once c w) {i : WorkerId} {s : Session} {p : Effect Unit}
    (hi : w.workers i = .running s p) (hp : s.poisoned = false) {ticket : Nat}
    {request : MetronomeRequest} (hsent : Fact.sent ticket request ∈ s.journal)
    (hcreates : createsFor c request = true) :
    w.db.refusal env.enforceFk (w.db.own i) s.pending = none := by
  have hrunning := hinv.running hi
  have hsingle := hrunning.session.single
  have hwrites := hrunning.session.writes
  obtain ⟨hcustomer, hid⟩ := customer_of_sends (hrunning.session.sent _ _ hsent) hcreates
  rw [hrunning.own]
  cases hpending : s.pending with
  | nil => rfl
  | cons write rest =>
      rw [hpending, List.length_append, List.length_cons] at hsingle
      have hflushed : s.flushed = [] := List.length_eq_zero_iff.mp (by omega)
      have hrest : rest = [] := List.length_eq_zero_iff.mp (by omega)
      have hwrite := hwrites write (by simp [hpending])
      subst hrest
      rw [hflushed, Postgres.refusal]
      have haccepted : w.db.violates env.enforceFk [] write = none := by
        cases write with
        | insertCustomer row =>
            refine row_accepted hinv hk hmade h hi hp hwrite ?_
            cases hwrite with
            | insertCustomer _ hrow _ _ _ _ => exact Option.some.inj (hrow.symm.trans hid)
        | insertSubscription row =>
            cases hwrite with
            | insertSubscription hh _ _ _ _ _ =>
                exact absurd hh hcustomer.ne_subscriptionCreated
        | touchCustomer _ _ => rfl
      rw [haccepted]
      rfl

theorem accepted_move (hk : Known env w) (h : Once c w) (hm : Move env w label w')
    (e : String) (ticket : Nat) (request : MetronomeRequest)
    (hcalled : Entry.called e ticket request ∈ w'.history)
    (hcreates : createsFor c request = true) :
    (ticket, Reply.conflict) ∉ w'.remote.replies := by
  intro hreply
  rcases answer_source hk h hm hcalled hcreates hreply with
    ⟨hold, hreply⟩ | ⟨_, _, hne, _⟩
  · exact h.accepted _ _ _ hold hcreates hreply
  · exact hne rfl

theorem first_move (hk : Known env w) (h : Once c w) (hm : Move env w label w')
    (e : String)
    (ticket : Nat) (request : MetronomeRequest) (id e' : String) (ticket' : Nat)
    (request' : MetronomeRequest) (id' : String)
    (hcalled : Entry.called e ticket request ∈ w'.history)
    (hcreates : createsFor c request = true)
    (hreply : (ticket, Reply.created id) ∈ w'.remote.replies)
    (hcalled' : Entry.called e' ticket' request' ∈ w'.history)
    (hcreates' : createsFor c request' = true)
    (hreply' : (ticket', Reply.created id') ∈ w'.remote.replies) : ticket = ticket' := by
  -- an old answer has made a customer, which a new one does not find
  have hclash : ∀ {e ticket request id}, Entry.called e ticket request ∈ w.history →
      createsFor c request = true → (ticket, Reply.created id) ∈ w.remote.replies →
      holders c w.remote ≠ [] := by
    intro e ticket request id hcalled hcreates hreply hvacant
    obtain ⟨m, hholder, _⟩ := holder_of_created hk hcalled hcreates hreply
    rw [hvacant] at hholder
    cases hholder
  rcases answer_source hk h hm hcalled hcreates hreply with
    ⟨hold, hthere⟩ | ⟨hvacant, _, _, hreplies⟩
  · rcases answer_source hk h hm hcalled' hcreates' hreply' with
      ⟨hold', hthere'⟩ | ⟨hvacant, _, _, _⟩
    · exact h.first _ _ _ _ _ _ _ _ hold hcreates hthere hold' hcreates' hthere'
    · exact absurd hvacant (hclash hold hcreates hthere)
  · rcases answer_source hk h hm hcalled' hcreates' hreply' with
      ⟨hold', hthere'⟩ | ⟨_, _, _, hreplies'⟩
    · exact absurd hvacant (hclash hold' hcreates' hthere')
    · rw [hreplies] at hreplies'
      exact (Prod.mk.inj (List.cons.inj hreplies').1).1

theorem unmapped_move (hinv : WorldInv env w) (hk : Known env w) (hmade : CustomersMade w)
    (h : Once c w) (hm : Move env w label w') (i : WorkerId) (s' : Session)
    (p' : Effect Unit)
    (hi : w'.workers i = .running s' p') (hpoison : s'.poisoned = false) (ticket : Nat)
    (request : MetronomeRequest) (id : String)
    (hsent : Fact.sent ticket request ∈ s'.journal)
    (hcreates : createsFor c request = true)
    (hreply : (ticket, Reply.created id) ∈ w'.remote.replies) :
    w'.db.customerMappings.find? c = none := by
  have hcalled := (known_move hinv hk hm).calls.sent i s' p' hi _ _ hsent
  rcases answer_source hk h hm hcalled hcreates hreply with
    ⟨hold, hthere⟩ | ⟨hvacant, hdb, _, _⟩
  · obtain ⟨s, p, hi', _, hsent', hpoison'⟩ :=
      sent_source hm hi hsent (hk.calls.issued _ _ _ hold)
    have hnone := h.unmapped i s p hi' (hpoison' hpoison) _ _ _ hsent' hcreates hthere
    by_contra hmapped
    obtain ⟨row, hrow⟩ := Option.ne_none_iff_exists'.mp hmapped
    -- the attempt that commits the row has made the customer, so it is this one
    obtain ⟨j, sj, hj, hidle, hpj, hc, hwrites⟩ := inserted_source hinv hm hnone hrow
    obtain ⟨ticket', request', hsent'', hcreates', hthere'⟩ :=
      creator_of_writes hinv hk hj hwrites
    rw [hc] at hcreates'
    have hticket := h.first _ _ _ _ _ _ _ _ hold hcreates hthere
      (hk.calls.sent j sj _ hj _ _ hsent'') hcreates' hthere'
    subst hticket
    have hij := caller_unique hinv hk.calls hi' hj (hpoison' hpoison) hpj hsent' hsent''
    rw [hij, hidle] at hi
    cases hi
  · rw [hdb]
    exact unmapped_of_vacant hmade hvacant

theorem intact_move (hinv : WorldInv env w) (hk : Known env w) (hmade : CustomersMade w)
    (h : Once c w) (hm : Move env w label w') (i : WorkerId) (s' : Session)
    (p' : Effect Unit)
    (hi : w'.workers i = .running s' p') (ticket : Nat) (request : MetronomeRequest)
    (outcome : SdkOutcome) (hanswered : Fact.answered ticket request outcome ∈ s'.journal)
    (hcreates : createsFor c request = true) : s'.poisoned = false := by
  rcases running_source hm hi with
    ⟨row, rfl, _⟩ | hsame | ⟨s, o, r, w'', k, hat, hx, rfl, _⟩
  · rfl
  · exact h.intact i s' p' hsame _ _ _ hanswered hcreates
  · have hrunning := hinv.running hat
    have hlearnt : ∀ f, Fact.answered ticket request outcome ∈ f :: s.journal →
        f ≠ .answered ticket request outcome → s.poisoned = false := fun f hmem hne =>
      h.intact i s _ hat _ _ _ (List.mem_of_ne_of_mem hne.symm hmem) hcreates
    cases hx with
    | @recv ticket' request' _ _ =>
        have hallowed : Allowed env.settings env.tiers s (.recv ticket' request') :=
          hrunning.always.here
        exact hallowed.2
    | flushDead hp =>
        exact absurd (h.intact i s _ hat _ _ _ hanswered hcreates) (by simp [hp])
    | flushRefused hp _ hr =>
        have hsent := hrunning.session.answered _ _ _ hanswered
        rw [flush_accepted hinv hk hmade h hat hp hsent hcreates] at hr
        cases hr
    | flushStaged hp _ _ => exact hp
    | lookupCustomerMapping _ => exact hlearnt _ hanswered (by simp)
    | lookupSubscriptionMapping _ => exact hlearnt _ hanswered (by simp)
    | send _ => exact hlearnt _ hanswered (by simp)
    | clock => exact hlearnt _ hanswered (by simp)
    | uniform _ => exact hlearnt _ hanswered (by simp)
    | _ => exact h.intact i s _ hat _ _ _ hanswered hcreates

/-- **An uncontested step keeps the invariant.** -/
theorem once_move (hp : policy.repeatsIds = false) (hinv : WorldInv env w)
    (hk : Known env w)
    (hmade : CustomersMade w) (h : Once c w) (hu : uncontested c w label = true)
    (hm : Move env w label w') : Once c w' where
  remote := single_move hp h.remote hu hm
  accepted := accepted_move hk h hm
  first := first_move hk h hm
  unmapped := unmapped_move hinv hk hmade h hm
  intact := intact_move hinv hk hmade h hm

/-! ## One customer -/

/-- Nobody carries the alias yet, and no call is under way. -/
structure Vacant (c : String) (store : RemoteStore) : Prop extends Quiet store where
  holders : holders c store = []
  ids : (store.customers.map (·.id)).Nodup

theorem once_initial (h : Initial w) (hv : Vacant c w.remote) : Once c w := by
  have hnone : ∀ {e ticket request}, Entry.called e ticket request ∉ w.history := by
    intro e ticket request hmem
    rw [h.history] at hmem
    cases hmem
  have hidle : ∀ {i s p}, w.workers i ≠ .running s p := by
    intro i s p hi
    rw [h.workers i] at hi
    cases hi
  have hcount : (holders c w.remote).length + (underWay c w.remote).length ≤ 1 := by
    rw [hv.holders, underWay, hv.inFlight]
    exact Nat.zero_le 1
  exact {
    remote := ⟨hcount, hv.ids⟩
    accepted := fun _ _ _ hcalled => absurd hcalled hnone
    first := fun _ _ _ _ _ _ _ _ hcalled => absurd hcalled hnone
    unmapped := fun _ _ _ hi => absurd hi hidle
    intact := fun _ _ _ hi => absurd hi hidle }

/-- What an uncontested run keeps. -/
structure CustomerInv (env : Env) (c : String) (w : World (metronome policy)) : Prop where
  inv : WorldInv env w
  known : Known env w
  made : CustomersMade w
  once : Once c w

/-- The row of `c` points at a customer with the alias. -/
def PointsAtHolder (c : String) (w : World (metronome policy)) : Prop :=
  ∃ row m, w.db.customerMappings.find? c = some row ∧ m ∈ holders c w.remote ∧
    m.id = row.metronomeCustomerId

theorem CustomerInv.pointsAtHolder (h : CustomerInv env c w) {row : CustomerMapping}
    (hrow : w.db.customerMappings.find? c = some row) : PointsAtHolder c w := by
  obtain ⟨m, hm, hid, halias, _⟩ := h.made c row hrow
  exact ⟨row, m, hrow, holder_of_alias hm halias, hid⟩

/-- The outcomes that settle whether Metronome has the customer: it has just
been created, or was there. -/
def settles : SdkOutcome → Bool
  | .ok _ => true
  | .statusError statusCode rateLimitError _ => statusCode = 409 && !rateLimitError
  | _ => false

/-- The attempt's create call has been answered with such an outcome. -/
def settled (s : Session) : Bool :=
  s.journal.any fun
    | .answered _ (.createCustomer _) outcome => settles outcome
    | _ => false

theorem settled_iff {s : Session} : settled s = true ↔ ∃ ticket body outcome,
    Fact.answered ticket (.createCustomer body) outcome ∈ s.journal ∧
    settles outcome = true := by
  rw [settled, List.any_eq_true]
  constructor
  · rintro ⟨f, hmem, hf⟩
    split at hf
    · exact ⟨_, _, _, hmem, hf⟩
    · cases hf
  · rintro ⟨ticket, body, outcome, hmem, hsettles⟩
    exact ⟨_, hmem, hsettles⟩

/-- One customer is made for `c`, and every attempt on `c` that has found its
row, or has been told whether Metronome has its customer, ends with the row of
that customer; told by Metronome, it processes its event. -/
structure CreatedOnce (env : Env) (c : String) (w : World (metronome policy)) : Prop where
  single : (holders c w.remote).length ≤ 1
  ends : ∀ i s p w', w.workers i = .running s p → IsCustomer s.loaded →
    objectId s.loaded.payload = some c →
    (∃ row, Fact.customerRow c (some row) ∈ s.journal) ∨ settled s = true →
    step env _ w (.finish i) = some w' → PointsAtHolder c w'
  processed : ∀ i s p w', w.workers i = .running s p → IsCustomer s.loaded →
    objectId s.loaded.payload = some c → settled s = true →
    step env _ w (.finish i) = some w' →
    ∃ event, w'.db.webhookEvents.find? s.loaded.stripeEventId = some event ∧
      event.status = .PROCESSED

/-- Without a conflict, Metronome has told such an attempt a new id. -/
theorem CustomerInv.answered (h : CustomerInv env c w) {i : WorkerId} {s : Session}
    {p : Effect Unit} (hi : w.workers i = .running s p)
    (hid : objectId s.loaded.payload = some c) (hs : settled s = true) :
    s.poisoned = false ∧ ¬Unanswered s := by
  obtain ⟨ticket, body, outcome, hmem, hsettles⟩ := settled_iff.mp hs
  have hsession := (h.inv.running hi).session
  have hsent := hsession.answered _ _ _ hmem
  have hcreates : createsFor c (.createCustomer body) = true := by
    cases hsession.sent _ _ hsent with
    | createCustomer _ hid' _ hrequest =>
        rw [hid] at hid'
        cases hid'
        exact (createsFor_request hrequest hid).mpr rfl
  refine ⟨h.once.intact i s p hi _ _ _ hmem hcreates, fun hunanswered => ?_⟩
  have hdef : indefinite outcome = false := by
    cases outcome with
    | ok _ => rfl
    | statusError statusCode rateLimitError msg =>
        simp only [settles, Bool.and_eq_true, decide_eq_true_eq,
          Bool.not_eq_true'] at hsettles
        simp [indefinite, hsettles]
    | _ => cases hsettles
  obtain ⟨reply, hreply, hmeans, hreports⟩ := h.known.answered h.inv hi hmem hdef
  cases hmeans with
  | createdCustomer _ _ _ _ =>
      cases outcome with
      | ok response =>
          exact hunanswered _ _ _ _ hmem ⟨response, rfl, of_decide_eq_true hreports⟩
      | _ => cases hreports
  | duplicate _ _ =>
      exact h.once.accepted _ _ _ (h.known.calls.sent i s p hi _ _ hsent) hcreates hreply
  | rejected hcode =>
      cases outcome with
      | ok _ => cases hreports
      | statusError statusCode rateLimitError msg =>
          simp only [settles, Bool.and_eq_true, decide_eq_true_eq] at hsettles
          simp only [reports, Bool.and_eq_true, decide_eq_true_eq] at hreports
          rw [← hreports.1, hsettles.1] at hcode
          cases hcode
      | _ => cases hsettles

/-- Such an attempt commits. -/
theorem CustomerInv.commits (h : CustomerInv env c w) {i : WorkerId} {s : Session}
    {p : Effect Unit} (hi : w.workers i = .running s p)
    (hid : objectId s.loaded.payload = some c) (hs : settled s = true)
    (hm : Move env w (.finish i) w') :
    w'.db.webhookEvents.find? s.loaded.stripeEventId = some s.event ∧
      s.event.status = .PROCESSED ∧ SameEvent s.loaded s.event := by
  obtain ⟨hpoison, hanswered⟩ := h.answered hi hid hs
  have hrunning := h.inv.running hi
  cases hm with
  | @committed _ s' a hi' hp' _ =>
      rw [hi] at hi'
      cases hi'
      have hcom := hrunning.committing
      have hfind : ((w.db.stage i s.pending).commit i s.event).webhookEvents.find?
          s.event.stripeEventId = some s.event := by
        rw [hcom.stage, commit_webhookEvents hcom.row hcom.same]
        exact Table.find?_update_self hcom.row
      refine ⟨hcom.same.1 ▸ hfind, ?_, hcom.same⟩
      cases hcom.verdict with
      | processed now _ hevent _ => rw [hevent]
      | permanent now reason hf _ _ => exact absurd hf.unanswered hanswered
      | exhausted now reason hf _ _ _ => exact absurd hf.unanswered hanswered
      | retry now delay reason hf _ _ _ _ => exact absurd hf.unanswered hanswered
  | @undone _ s' p' hi' hret hnode =>
      rw [hi] at hi'
      cases hi'
      have halways := hrunning.always.here
      cases p with
      | perform o k => exact absurd rfl (hnode o k)
      | raise exc => exact absurd (halways hpoison) hanswered
      | ret a =>
          rcases hret a rfl with hp | hr
          · rw [hpoison] at hp
            cases hp
          · rw [hrunning.committing.pending] at hr
            exact absurd rfl hr

/-- An attempt that has been told about its customer ends with its row. -/
theorem CustomerInv.maps (h : CustomerInv env c w) {i : WorkerId} {s : Session}
    {p : Effect Unit} (hi : w.workers i = .running s p) (hcustomer : IsCustomer s.loaded)
    (hid : objectId s.loaded.payload = some c) (hs : settled s = true)
    (hm : Move env w (.finish i) w') (hmapped : Mapped env w') :
    ∃ row, w'.db.customerMappings.find? c = some row := by
  obtain ⟨hfind, hstatus, hsame⟩ := h.commits hi hid hs hm
  have hcustomer' : IsCustomer s.event := by
    rw [IsCustomer, handlerOf_same hsame]
    exact hcustomer
  obtain ⟨c', row, hid', hrow⟩ := hmapped.ofCustomer _ _ hfind hcustomer' hstatus
  rw [hsame.2.2.1, hid, Option.some.injEq] at hid'
  exact ⟨row, hid' ▸ hrow⟩

end Sidecar.Ports.Customers
