import Sidecar.Ports.Calls

/-!
# What Metronome's answers mean

The documented Metronome answers a call about an object of its store, and the
object stays.  So whatever a running attempt has been told, however long ago,
is still so.

## Main results

* `remote_move` — what a step does to Metronome.
* `known_of_path` — in every reachable state a definite answer is the
  answer to that very call, and means what it says.
-/

namespace Sidecar.Ports.Replies

open Sidecar.Verified.Transition
open Sidecar.Ports.Python
open Sidecar.Ports.Mappers
open Sidecar.Ports.Models
open Sidecar.Ports.Effects
open Sidecar.Ports.MetronomeClient
open Sidecar.Ports.System
open Sidecar.Ports.Attempt
open Sidecar.Ports.Moves
open Sidecar.Ports.Invariant
open Sidecar.Ports.Remote
open Sidecar.Ports.Calls

variable {env : Env} {policy : Policy} {w w' : World (metronome policy)}
  {label : Label (metronome policy)} {store store' : RemoteStore} {choice : RemoteChoice}

/-! ## Carrying out a request -/

/-- The cases of `carryOut`. -/
inductive CarriedOut (policy : Policy) (store : RemoteStore) (ticket : Nat)
    (newId : String) :
    MetronomeRequest → RemoteStore → Reply → Prop where
  | duplicate {body : CustomerRequest} :
      policy.rejectsDuplicateAlias = true →
      store.customers.any (sharesAlias body) = true →
      CarriedOut policy store ticket newId (.createCustomer body) store .conflict
  | createdCustomer {body : CustomerRequest} :
      (policy.rejectsDuplicateAlias = true →
        store.customers.any (sharesAlias body) = false) →
      (policy.repeatsIds = false → store.customers.any (hasId newId) = false) →
      CarriedOut policy store ticket newId (.createCustomer body)
        { store with
          customers := ⟨newId, body.name, body.ingestAliases,
            body.customerBillingProviderConfigurations, [ticket]⟩ :: store.customers }
        (.created newId)
  | renamed {customerId name : String} :
      store.customers.any (hasId customerId) = true →
      CarriedOut policy store ticket newId (.setName customerId name)
        { store with customers := store.customers.map (rename ticket customerId name) }
        .renamed
  | unknown {customerId name : String} :
      store.customers.any (hasId customerId) = false →
      CarriedOut policy store ticket newId (.setName customerId name) store
        (.rejected 404)
  | keyInUse {body : ContractRequest} :
      store.contracts.any (hasUniquenessKey body.uniquenessKey) = true →
      CarriedOut policy store ticket newId (.createContract body) store .conflict
  | createdContract {body : ContractRequest} :
      store.contracts.any (hasUniquenessKey body.uniquenessKey) = false →
      CarriedOut policy store ticket newId (.createContract body)
        { store with
          contracts := ⟨newId, body.customerId, some body.uniquenessKey,
            body.recurringCredits⟩ :: store.contracts }
        (.created newId)
  | listed {customerId : String} :
      CarriedOut policy store ticket newId (.listContracts customerId) store
        (.listed ((store.contracts.filter fun c => c.customerId =
          customerId).map listing))

theorem carryOut_sound {ticket : Nat} {newId : String} {request : MetronomeRequest}
    {reply : Reply} (h : carryOut policy store ticket newId request =
      some (store', reply)) :
    CarriedOut policy store ticket newId request store' reply := by
  cases request with
  | createCustomer body =>
      simp only [carryOut] at h
      split at h
      · next hdup =>
          cases h
          obtain ⟨hpolicy, hany⟩ := Bool.and_eq_true_iff.mp hdup
          exact .duplicate hpolicy hany
      · next hdup =>
          split at h
          · cases h
          · next hid =>
              cases h
              refine .createdCustomer (fun hpolicy => ?_) (fun hpolicy => ?_)
              · simpa [hpolicy] using hdup
              · simpa [hpolicy] using hid
  | setName customerId name =>
      simp only [carryOut] at h
      split at h
      · next hany => cases h; exact .renamed hany
      · next hany => cases h; exact .unknown (Bool.eq_false_of_not_eq_true hany)
  | createContract body =>
      simp only [carryOut] at h
      split at h
      · next hany => cases h; exact .keyInUse hany
      · next hany =>
          split at h
          · cases h
          · cases h; exact .createdContract (Bool.eq_false_of_not_eq_true hany)
  | listContracts customerId =>
      cases h
      exact .listed

/-- The moves of Metronome. -/
inductive RemoteMove (policy : Policy) (store : RemoteStore) :
    RemoteChoice → RemoteStore → Prop where
  | carriedOut {ticket : Nat} {newId : String} {request : MetronomeRequest}
      {store' : RemoteStore} {reply : Reply} :
      store.inFlight.lookup ticket = some request →
      CarriedOut policy (store.arrive ticket) ticket newId request store' reply →
      RemoteMove policy store (.deliver ticket newId) (store'.answer ticket reply)
  /-- The POST of a call whose answer nobody gets. -/
  | reposted {ticket : Nat} {newId : String} {request : MetronomeRequest}
      {store' : RemoteStore} {reply : Reply} :
      store.posted.lookup ticket = some request →
      CarriedOut policy store ticket newId request store' reply →
      RemoteMove policy store (.repost ticket newId) store'
  | refused {ticket : Nat} {request : MetronomeRequest} {statusCode : Int} :
      store.inFlight.lookup ticket = some request → isRejection statusCode = true →
      RemoteMove policy store (.reject ticket statusCode)
        ((store.arrive ticket).answer ticket (.rejected statusCode))
  | dropped (ticket : Nat) : RemoteMove policy store (.drop ticket) (store.arrive ticket)
  | foreign (other : ForeignContract) :
      RemoteMove policy store (.foreign other)
        { store with contracts := other.contract :: store.contracts }

theorem mem_of_lookup {α β : Type} [BEq α] [LawfulBEq α] {l : List (α × β)}
    {a : α} {b : β} (h : l.lookup a = some b) : (a, b) ∈ l := by
  obtain ⟨before, after, heq, _⟩ := List.lookup_eq_some_iff.mp h
  rw [heq]
  exact List.mem_append_right _ List.mem_cons_self

theorem serve_sound (h : serve policy store choice = some store') :
    RemoteMove policy store choice store' := by
  cases choice with
  | deliver ticket newId =>
      obtain ⟨request, hlookup, hrest⟩ := Option.bind_eq_some_iff.mp h
      obtain ⟨⟨store'', reply⟩, hcarry, rfl⟩ := Option.map_eq_some_iff.mp hrest
      exact .carriedOut hlookup (carryOut_sound hcarry)
  | repost ticket newId =>
      obtain ⟨request, hlookup, hrest⟩ := Option.bind_eq_some_iff.mp h
      obtain ⟨⟨store'', reply⟩, hcarry, rfl⟩ := Option.map_eq_some_iff.mp hrest
      exact .reposted hlookup (carryOut_sound hcarry)
  | reject ticket statusCode =>
      obtain ⟨request, hlookup, hrest⟩ := Option.bind_eq_some_iff.mp h
      split at hrest
      · next hcode => cases hrest; exact .refused hlookup hcode
      · cases hrest
  | drop ticket => cases h; exact .dropped ticket
  | foreign other => cases h; exact .foreign other

/-- **What a step does to Metronome**: nothing, a call sent, or a move of its
own. -/
theorem remote_move (hm : Move env w label w') :
    w'.remote = w.remote ∨
      (∃ e request, w'.remote =
          { w.remote with
            inFlight := (w.tickets, request) :: w.remote.inFlight
            posted := (w.tickets, request) :: w.remote.posted } ∧
        Entry.called e w.tickets request ∈ w'.history) ∨
      ∃ choice, label = .serve choice ∧ RemoteMove policy w.remote choice w'.remote := by
  cases hm with
  | performed _ hx =>
      cases hx with
      | send request => exact .inr (.inl ⟨_, request, rfl, List.mem_cons_self⟩)
      | _ => exact .inl rfl
  | served hs => exact .inr (.inr ⟨_, rfl, serve_sound hs⟩)
  | _ => exact .inl rfl

/-! ## Objects stay -/

/-- Everything in the store is still there, perhaps renamed. -/
structure Grows (store store' : RemoteStore) : Prop where
  contracts : store.contracts ⊆ store'.contracts
  customers : ∀ m ∈ store.customers, ∃ m' ∈ store'.customers, m'.id = m.id ∧
    m'.ingestAliases = m.ingestAliases ∧ m'.billing = m.billing ∧ m.writers ⊆ m'.writers

theorem Grows.of_eq (hk : store'.contracts = store.contracts)
    (hm : store'.customers = store.customers) : Grows store store' where
  contracts := by rw [hk]; exact List.Subset.refl _
  customers m hmem := ⟨m, hm ▸ hmem, rfl, rfl, rfl, List.Subset.refl _⟩

theorem Grows.trans {store'' : RemoteStore} (h : Grows store store')
    (h' : Grows store' store'') : Grows store store'' where
  contracts := List.Subset.trans h.contracts h'.contracts
  customers m hm := by
    obtain ⟨m', hm', hid, halias, hbilling, hwriters⟩ := h.customers m hm
    obtain ⟨m'', hm'', hid', halias', hbilling', hwriters'⟩ := h'.customers m' hm'
    exact ⟨m'', hm'', hid'.trans hid, halias'.trans halias, hbilling'.trans hbilling,
      List.Subset.trans hwriters hwriters'⟩

theorem rename_fields (ticket : Nat) (customerId name : String) (m : RemoteCustomer) :
    (rename ticket customerId name m).id = m.id ∧
      (rename ticket customerId name m).ingestAliases = m.ingestAliases ∧
      (rename ticket customerId name m).billing = m.billing ∧
      m.writers ⊆ (rename ticket customerId name m).writers := by
  unfold rename
  split
  · exact ⟨rfl, rfl, rfl, List.subset_cons_self _ _⟩
  · exact ⟨rfl, rfl, rfl, List.Subset.refl _⟩

theorem CarriedOut.grows {ticket : Nat} {newId : String} {request : MetronomeRequest}
    {reply : Reply} (h : CarriedOut policy store ticket newId request store' reply) :
    Grows store store' := by
  cases h with
  | createdCustomer _ _ =>
      exact ⟨List.Subset.refl _, fun m hm =>
        ⟨m, List.mem_cons_of_mem _ hm, rfl, rfl, rfl, List.Subset.refl _⟩⟩
  | renamed _ =>
      exact ⟨List.Subset.refl _, fun m hm =>
        ⟨_, List.mem_map_of_mem hm, rename_fields _ _ _ m⟩⟩
  | createdContract _ =>
      exact ⟨List.subset_cons_self _ _, fun m hm =>
        ⟨m, hm, rfl, rfl, rfl, List.Subset.refl _⟩⟩
  | _ => exact .of_eq rfl rfl

theorem grows_arrive (ticket : Nat) : Grows store (store.arrive ticket) := .of_eq rfl rfl

theorem grows_answer (ticket : Nat) (reply : Reply) :
    Grows store (store.answer ticket reply) :=
  .of_eq rfl rfl

theorem RemoteMove.grows (h : RemoteMove policy store choice store') :
    Grows store store' := by
  cases h with
  | carriedOut _ hc => exact ((grows_arrive _).trans hc.grows).trans (grows_answer _ _)
  | reposted _ hc => exact hc.grows
  | refused _ _ => exact (grows_arrive _).trans (grows_answer _ _)
  | dropped ticket => exact grows_arrive ticket
  | foreign other =>
      exact ⟨List.subset_cons_self _ _, fun m hm =>
        ⟨m, hm, rfl, rfl, rfl, List.Subset.refl _⟩⟩

theorem grows_move (hm : Move env w label w') : Grows w.remote w'.remote := by
  rcases remote_move hm with heq | ⟨_, _, heq, _⟩ | ⟨_, _, hmove⟩
  · exact .of_eq (by rw [heq]) (by rw [heq])
  · exact .of_eq (by rw [heq]) (by rw [heq])
  · exact hmove.grows

/-! ## What a reply says -/

/-- The reply to the call with this ticket is the truth about the store. -/
inductive Means (store : RemoteStore) (ticket : Nat) :
    MetronomeRequest → Reply → Prop where
  | createdCustomer {body : CustomerRequest} {m : RemoteCustomer} :
      m ∈ store.customers → m.ingestAliases = body.ingestAliases →
      m.billing = body.customerBillingProviderConfigurations → ticket ∈ m.writers →
      Means store ticket (.createCustomer body) (.created m.id)
  | duplicate {body : CustomerRequest} {m : RemoteCustomer} :
      m ∈ store.customers → sharesAlias body m = true →
      Means store ticket (.createCustomer body) .conflict
  | renamed {name : String} {m : RemoteCustomer} :
      m ∈ store.customers → ticket ∈ m.writers →
      Means store ticket (.setName m.id name) .renamed
  | createdContract {body : ContractRequest} {id : String} :
      ⟨id, body.customerId, some body.uniquenessKey, body.recurringCredits⟩ ∈
        store.contracts →
      Means store ticket (.createContract body) (.created id)
  | keyInUse {body : ContractRequest} {k : RemoteContract} :
      k ∈ store.contracts → k.uniquenessKey = some body.uniquenessKey →
      Means store ticket (.createContract body) .conflict
  | listed {customerId : String} {entries : List (Option String × Option String)} :
      (∀ entry ∈ entries, ∃ k ∈ store.contracts, k.customerId = customerId ∧
        entry = listing k) →
      Means store ticket (.listContracts customerId) (.listed entries)
  | rejected {request : MetronomeRequest} {statusCode : Int} :
      isRejection statusCode = true →
      Means store ticket request (.rejected statusCode)

theorem Means.mono {ticket : Nat} {request : MetronomeRequest} {reply : Reply}
    (h : Means store ticket request reply) (hg : Grows store store') :
    Means store' ticket request reply := by
  cases h with
  | createdCustomer hm halias hbilling hwriter =>
      obtain ⟨m', hm', hid, halias', hbilling', hwriters⟩ := hg.customers _ hm
      rw [← hid]
      exact .createdCustomer hm' (halias'.trans halias) (hbilling'.trans hbilling)
        (hwriters hwriter)
  | duplicate hm hshares =>
      obtain ⟨m', hm', _, halias, _, _⟩ := hg.customers _ hm
      refine .duplicate hm' ?_
      rw [sharesAlias, halias]
      exact hshares
  | renamed hm hwriter =>
      obtain ⟨m', hm', hid, _, _, hwriters⟩ := hg.customers _ hm
      rw [← hid]
      exact .renamed hm' (hwriters hwriter)
  | createdContract hk => exact .createdContract (hg.contracts hk)
  | keyInUse hk hkey => exact .keyInUse (hg.contracts hk) hkey
  | listed hentries =>
      refine .listed fun entry hentry => ?_
      obtain ⟨k, hk, hrest⟩ := hentries entry hentry
      exact ⟨k, hg.contracts hk, hrest⟩
  | rejected hcode => exact .rejected hcode

theorem CarriedOut.means {ticket : Nat} {newId : String} {request : MetronomeRequest}
    {reply : Reply} (h : CarriedOut policy store ticket newId request store' reply) :
    Means store' ticket request reply := by
  cases h with
  | duplicate _ hany =>
      obtain ⟨m, hm, hshares⟩ := List.any_eq_true.mp hany
      exact .duplicate hm hshares
  | @createdCustomer body _ _ =>
      exact .createdCustomer (m := ⟨newId, body.name, body.ingestAliases,
        body.customerBillingProviderConfigurations, [ticket]⟩)
        List.mem_cons_self rfl rfl (List.mem_singleton_self ticket)
  | @renamed customerId name hany =>
      obtain ⟨m, hm, hid⟩ := List.any_eq_true.mp hany
      have hid' : (rename ticket customerId name m).id = customerId := by
        rw [(rename_fields _ _ _ m).1]
        exact of_decide_eq_true hid
      have hwriter : ticket ∈ (rename ticket customerId name m).writers := by
        simp only [rename, hid, if_true]
        exact List.mem_cons_self
      have hmem : rename ticket customerId name m ∈
          store.customers.map (rename ticket customerId name) := List.mem_map_of_mem hm
      have hrenamed : Means { store with
          customers := store.customers.map (rename ticket customerId name) } ticket
          (.setName (rename ticket customerId name m).id name) .renamed :=
            .renamed hmem hwriter
      rw [hid'] at hrenamed
      exact hrenamed
  | unknown _ => exact .rejected rfl
  | keyInUse hany =>
      obtain ⟨k, hk, hkey⟩ := List.any_eq_true.mp hany
      exact .keyInUse hk (of_decide_eq_true hkey)
  | createdContract _ => exact .createdContract List.mem_cons_self
  | listed =>
      refine .listed fun entry hentry => ?_
      obtain ⟨k, hk, rfl⟩ := List.mem_map.mp hentry
      obtain ⟨hk, hid⟩ := List.mem_filter.mp hk
      exact ⟨k, hk, of_decide_eq_true hid, rfl⟩

/-! ## Runs -/

structure RemoteOk (w : World (metronome policy)) : Prop where
  posted : ∀ ticket request, (ticket, request) ∈ w.remote.posted →
    ∃ e, Entry.called e ticket request ∈ w.history
  inFlight : ∀ ticket request, (ticket, request) ∈ w.remote.inFlight →
    ∃ e, Entry.called e ticket request ∈ w.history
  replies : ∀ ticket reply, (ticket, reply) ∈ w.remote.replies →
    ∃ e request, Entry.called e ticket request ∈ w.history ∧
      Means w.remote ticket request reply
  answered : ∀ i s p, w.workers i = .running s p → ∀ ticket request outcome,
    Fact.answered ticket request outcome ∈ s.journal → indefinite outcome = false →
    ∃ reply, (ticket, reply) ∈ w.remote.replies ∧ reports reply outcome = true

/-- No calls under way. -/
structure Quiet (store : RemoteStore) : Prop where
  posted : store.posted = []
  inFlight : store.inFlight = []
  replies : store.replies = []

/-- A definite outcome reports a reply. -/
theorem recv_cases {ticket : Nat} {outcome : SdkOutcome}
    (h : recv store ticket outcome = true) (hdef : indefinite outcome = false) :
    ∃ reply, (ticket, reply) ∈ store.replies ∧ reports reply outcome = true := by
  rw [recv, hdef, Bool.false_or] at h
  obtain ⟨⟨t, reply⟩, hmem, hx⟩ := List.any_eq_true.mp h
  obtain ⟨ht, hreports⟩ := Bool.and_eq_true_iff.mp hx
  have ht : t = ticket := of_decide_eq_true ht
  subst ht
  exact ⟨reply, hmem, hreports⟩

theorem mem_arrive {ticket : Nat} {x : Nat × MetronomeRequest}
    (h : x ∈ (store.arrive ticket).inFlight) : x ∈ store.inFlight :=
  List.mem_of_mem_filter h

theorem CarriedOut.network {ticket : Nat} {newId : String} {request : MetronomeRequest}
    {reply : Reply} (h : CarriedOut policy store ticket newId request store' reply) :
    store'.inFlight = store.inFlight ∧ store'.replies = store.replies ∧
      store'.posted = store.posted := by
  cases h <;> exact ⟨rfl, rfl, rfl⟩

theorem RemoteMove.inFlight (h : RemoteMove policy store choice store') :
    store'.inFlight ⊆ store.inFlight := by
  cases h with
  | carriedOut _ hc => exact fun x hx => mem_arrive (hc.network.1 ▸ hx)
  | reposted _ hc => exact fun x hx => hc.network.1 ▸ hx
  | refused _ _ => exact fun x hx => mem_arrive hx
  | dropped ticket => exact fun x hx => mem_arrive hx
  | foreign other => exact List.Subset.refl _

theorem RemoteMove.posted (h : RemoteMove policy store choice store') :
    store'.posted = store.posted := by
  cases h with
  | carriedOut _ hc => exact hc.network.2.2
  | reposted _ hc => exact hc.network.2.2
  | _ => rfl

theorem RemoteMove.replies_subset (h : RemoteMove policy store choice store') :
    store.replies ⊆ store'.replies := by
  cases h with
  | carriedOut _ hc => exact fun x hx => List.mem_cons_of_mem _ (hc.network.2.1 ▸ hx)
  | reposted _ hc => exact fun x hx => hc.network.2.1 ▸ hx
  | refused _ _ => exact List.subset_cons_self _ _
  | dropped ticket => exact List.Subset.refl _
  | foreign other => exact List.Subset.refl _

/-- An answer stays available. -/
theorem replies_mono (hm : Move env w label w') :
    w.remote.replies ⊆ w'.remote.replies := by
  rcases remote_move hm with heq | ⟨_, _, heq, _⟩ | ⟨_, _, hmove⟩
  · rw [heq]; exact List.Subset.refl _
  · rw [heq]; exact List.Subset.refl _
  · exact hmove.replies_subset

/-- At most one reply is new, and it answers a request that was in flight. -/
theorem RemoteMove.new_reply (h : RemoteMove policy store choice store') :
    store'.replies = store.replies ∨
      ∃ ticket request reply, (ticket, request) ∈ store.inFlight ∧
        store'.replies = (ticket, reply) :: store.replies ∧
        Means store' ticket request reply := by
  cases h with
  | @carriedOut ticket newId request store' reply hmem hc =>
      refine .inr ⟨ticket, request, reply, mem_of_lookup hmem, ?_,
        hc.means.mono (grows_answer _ _)⟩
      rw [RemoteStore.answer, hc.network.2.1]
      rfl
  | reposted _ hc => exact .inl hc.network.2.1
  | refused hmem hcode => exact .inr ⟨_, _, _, mem_of_lookup hmem, rfl, .rejected hcode⟩
  | dropped ticket => exact .inl rfl
  | foreign other => exact .inl rfl

theorem remoteOk_move (h : RemoteOk w) (hm : Move env w label w') : RemoteOk w' := by
  have hgrows := grows_move hm
  have hold : ∀ ticket request, (ticket, request) ∈ w.remote.inFlight →
      ∃ e, Entry.called e ticket request ∈ w'.history := fun ticket request hmem =>
    let ⟨e, hcalled⟩ := h.inFlight ticket request hmem
    ⟨e, history_mono hm hcalled⟩
  have hposted : ∀ ticket request, (ticket, request) ∈ w.remote.posted →
      ∃ e, Entry.called e ticket request ∈ w'.history := fun ticket request hmem =>
    let ⟨e, hcalled⟩ := h.posted ticket request hmem
    ⟨e, history_mono hm hcalled⟩
  have hreplies : ∀ ticket reply, (ticket, reply) ∈ w.remote.replies →
      ∃ e request, Entry.called e ticket request ∈ w'.history ∧
        Means w'.remote ticket request reply := by
    intro ticket reply hmem
    obtain ⟨e, request, hcalled, hmeans⟩ := h.replies ticket reply hmem
    exact ⟨e, request, history_mono hm hcalled, hmeans.mono hgrows⟩
  have hanswered : ∀ i s p, w'.workers i = .running s p → ∀ ticket request outcome,
      Fact.answered ticket request outcome ∈ s.journal → indefinite outcome = false →
      ∃ reply, (ticket, reply) ∈ w'.remote.replies ∧ reports reply outcome = true := by
    intro i s p hi ticket request outcome hmem hdef
    rcases session_source hm hi with ⟨row, rfl, _⟩ | ⟨s', p', hi', hloaded, hjournal⟩
    · cases hmem
    · rcases hjournal _ hmem with hmem | hheard
      · obtain ⟨reply, hreply, hreports⟩ := h.answered i s' p' hi' _ _ _ hmem hdef
        exact ⟨reply, replies_mono hm hreply, hreports⟩
      · obtain ⟨reply, hreply, hreports⟩ := recv_cases hheard hdef
        exact ⟨reply, replies_mono hm hreply, hreports⟩
  rcases remote_move hm with heq | ⟨e, request', heq, hcalled⟩ | ⟨_, _, hmove⟩
  · exact ⟨by rw [heq]; exact hposted, by rw [heq]; exact hold,
      by rw [heq] at hreplies ⊢; exact hreplies, hanswered⟩
  · refine ⟨fun ticket request hmem => ?_, fun ticket request hmem => ?_, ?_, hanswered⟩
    · rw [heq] at hmem
      rcases List.mem_cons.mp hmem with hmem | hmem
      · cases hmem
        exact ⟨e, hcalled⟩
      · exact hposted ticket request hmem
    · rw [heq] at hmem
      rcases List.mem_cons.mp hmem with hmem | hmem
      · cases hmem
        exact ⟨e, hcalled⟩
      · exact hold ticket request hmem
    · rw [heq] at hreplies ⊢
      exact hreplies
  · refine ⟨by rw [hmove.posted]; exact hposted, fun ticket request hmem => ?_,
      fun ticket reply hmem => ?_, hanswered⟩
    · exact hold ticket request (hmove.inFlight hmem)
    · rcases hmove.new_reply with heq | ⟨ticket', request, reply', hsent, heq, hmeans⟩
      · exact hreplies ticket reply (heq ▸ hmem)
      · rw [heq] at hmem
        rcases List.mem_cons.mp hmem with hmem | hmem
        · cases hmem
          obtain ⟨e, hcalled⟩ := hold ticket request hsent
          exact ⟨e, request, hcalled, hmeans⟩
        · exact hreplies ticket reply hmem

theorem remoteOk_initial (h : Initial w) (hquiet : Quiet w.remote) : RemoteOk w := by
  constructor
  · intro _ _ hmem
    rw [hquiet.posted] at hmem
    cases hmem
  · intro _ _ hmem
    rw [hquiet.inFlight] at hmem
    cases hmem
  · intro _ _ hmem
    rw [hquiet.replies] at hmem
    cases hmem
  · intro i s p hi
    rw [h.workers i] at hi
    cases hi

/-- What the history, the network and the running attempts know of Metronome. -/
structure Known (env : Env) (w : World (metronome policy)) : Prop where
  calls : CallsOk env w
  remote : RemoteOk w

/-- **A definite answer is the answer to that very call**, and means what it
says. -/
theorem Known.answered (h : Known env w) (hinv : WorldInv env w) {i : WorkerId}
    {s : Session} {p : Effect Unit} (hi : w.workers i = .running s p) {ticket : Nat}
    {request : MetronomeRequest} {outcome : SdkOutcome}
    (hmem : Fact.answered ticket request outcome ∈ s.journal)
    (hdef : indefinite outcome = false) :
    ∃ reply, (ticket, reply) ∈ w.remote.replies ∧ Means w.remote ticket request reply ∧
      reports reply outcome = true := by
  obtain ⟨reply, hreply, hreports⟩ := h.remote.answered i s p hi _ _ _ hmem hdef
  obtain ⟨e, request', hcalled, hmeans⟩ := h.remote.replies _ _ hreply
  have hsent := (hinv.running hi).session.answered _ _ _ hmem
  obtain ⟨_, rfl⟩ := h.calls.single _ _ _ _ _ (h.calls.sent i s p hi _ _ hsent) hcalled
  exact ⟨reply, hreply, hmeans, hreports⟩

theorem known_move (hinv : WorldInv env w) (h : Known env w) (hm : Move env w label w') :
    Known env w' :=
  ⟨callsOk_move hinv h.calls hm, remoteOk_move h.remote hm⟩

theorem known_initial (h : Initial w) (hquiet : Quiet w.remote) : Known env w :=
  ⟨callsOk_initial h, remoteOk_initial h hquiet⟩

theorem known_of_path {C : World (metronome policy) → Label (metronome policy) → Prop}
    {w₀ w : World (metronome policy)} (h : Path (step env _) C w₀ w) (h₀ : Initial w₀)
    (hquiet : Quiet w₀.remote) : Known env w :=
  (run_invariant_from h h₀ (known_initial h₀ hquiet)
    fun _ _ _ _ hinv hok hm => known_move hinv hok hm).2

end Sidecar.Ports.Replies
