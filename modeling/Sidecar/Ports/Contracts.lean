import Sidecar.Ports.Replies

/-!
# One contract per event

All create calls of an event are the same request, Metronome uses its key
once, and every way in which the sidecar comes by a contract's id leads to the
contract with that key.

## Main results

* `contractsOk_of_path` — keys of the sidecar's form are unique and come from
  its own calls.
* `located` — the id an attempt obtains is that of the contract with its key.
* `contract_created_once` — one customer, one key, one contract and the row
  that points at it, for every event.
-/

namespace Sidecar.Ports.Contracts

open Sidecar.Verified.Resumption
open Sidecar.Verified.KeyedTable
open Sidecar.Verified.Transition
open Sidecar.Ports.Python
open Sidecar.Ports.Config
open Sidecar.Ports.Mappers
open Sidecar.Ports.Models
open Sidecar.Ports.Effects
open Sidecar.Ports.MetronomeClient
open Sidecar.Ports.Worker
open Sidecar.Ports.System
open Sidecar.Ports.Attempt
open Sidecar.Ports.Moves
open Sidecar.Ports.Transactions
open Sidecar.Ports.Invariant
open Sidecar.Ports.Mappings
open Sidecar.Ports.Remote
open Sidecar.Ports.Calls
open Sidecar.Ports.Replies

variable {env : Env} {policy : Policy} {w w' : World (metronome policy)}
  {label : Label (metronome policy)}

/-! ## Keys -/

/-- A key of the form the sidecar gives. -/
def OwnKey (key : String) : Prop :=
  ∃ subscriptionId priceId periodStart, key =
    uniquenessKeyOf subscriptionId priceId periodStart

/-- No calls under way, and no contract with a key of the sidecar. -/
structure Pristine (store : RemoteStore) : Prop extends Quiet store where
  contracts : ∀ k ∈ store.contracts, ∀ key, k.uniquenessKey = some key → ¬OwnKey key

/-- The contracts with the sidecar's keys are made by its calls, one for each
key. -/
structure ContractsOk (w : World (metronome policy)) : Prop where
  single : ∀ key, OwnKey key →
    (w.remote.contracts.filter (hasUniquenessKey key)).length ≤ 1
  source : ∀ k ∈ w.remote.contracts, ∀ key, k.uniquenessKey = some key → OwnKey key →
    ∃ e ticket body, Entry.called e ticket (.createContract body) ∈ w.history ∧
      k = ⟨k.id, body.customerId, some body.uniquenessKey, body.recurringCredits⟩

/-- What a move of Metronome does to the contracts: a call makes one whose key
is new, or somebody else makes one. -/
theorem contracts_move {store store' : RemoteStore} {choice : RemoteChoice}
    (h : RemoteMove policy store choice store') :
    store'.contracts = store.contracts ∨
      (∃ ticket id body, ((ticket, .createContract body) ∈ store.inFlight ∨
          (ticket, .createContract body) ∈ store.posted) ∧
        store.contracts.any (hasUniquenessKey body.uniquenessKey) = false ∧
        store'.contracts = ⟨id, body.customerId, some body.uniquenessKey,
          body.recurringCredits⟩ :: store.contracts) ∨
      ∃ other : ForeignContract, store'.contracts = other.contract ::
        store.contracts := by
  cases h with
  | carriedOut hmem hc =>
      cases hc with
      | createdContract hnew =>
          exact .inr (.inl ⟨_, _, _, .inl (mem_of_lookup hmem), hnew, rfl⟩)
      | _ => exact .inl rfl
  | reposted hmem hc =>
      cases hc with
      | createdContract hnew =>
          exact .inr (.inl ⟨_, _, _, .inr (mem_of_lookup hmem), hnew, rfl⟩)
      | _ => exact .inl rfl
  | refused _ _ => exact .inl rfl
  | dropped ticket => exact .inl rfl
  | foreign other => exact .inr (.inr ⟨other, rfl⟩)

theorem contractsOk_move (hr : RemoteOk w) (h : ContractsOk w)
    (hm : Move env w label w') :
    ContractsOk w' := by
  have hkeep : w'.remote.contracts = w.remote.contracts → ContractsOk w' := by
    intro heq
    refine ⟨by rw [heq]; exact h.single, fun k hk key hkey hown => ?_⟩
    obtain ⟨e, ticket, body, hcalled, hbody⟩ := h.source k (heq ▸ hk) key hkey hown
    exact ⟨e, ticket, body, history_mono hm hcalled, hbody⟩
  have hold : ∀ k ∈ w.remote.contracts, ∀ key, k.uniquenessKey = some key → OwnKey key →
      ∃ e ticket body, Entry.called e ticket (.createContract body) ∈ w'.history ∧
        k = ⟨k.id, body.customerId, some body.uniquenessKey, body.recurringCredits⟩ := by
    intro k hk key hkey hown
    obtain ⟨e, ticket, body, hcalled, hbody⟩ := h.source k hk key hkey hown
    exact ⟨e, ticket, body, history_mono hm hcalled, hbody⟩
  rcases remote_move hm with heq | ⟨_, _, heq, _⟩ | ⟨_, _, hmove⟩
  · exact hkeep (by rw [heq])
  · exact hkeep (by rw [heq])
  · rcases contracts_move hmove with heq | ⟨ticket, id, body, hmem, hnew, heq⟩ |
      ⟨other, heq⟩
    · exact hkeep heq
    · refine ⟨fun key hown => ?_, fun k hk key hkey hown => ?_⟩
      · rw [heq, List.filter_cons]
        split
        · next hkey =>
            have hkey : body.uniquenessKey = key :=
              Option.some.inj (of_decide_eq_true hkey)
            subst hkey
            have hnil : w.remote.contracts.filter (hasUniquenessKey body.uniquenessKey) =
              [] :=
              List.filter_eq_nil_iff.mpr fun k hk => by
                simpa using List.any_eq_false.mp hnew k hk
            rw [hnil]
            exact Nat.le_refl 1
        · exact h.single key hown
      · rw [heq] at hk
        rcases List.mem_cons.mp hk with rfl | hk
        · obtain ⟨e, hcalled⟩ := hmem.elim (hr.inFlight _ _) (hr.posted _ _)
          exact ⟨e, ticket, body, history_mono hm hcalled, rfl⟩
        · exact hold k hk key hkey hown
    · have hforeign : ∀ key, OwnKey key → other.contract.uniquenessKey ≠ some key := by
        rintro _ ⟨sub, price, periodStart, rfl⟩
        exact other.foreign sub price periodStart
      refine ⟨fun key hown => ?_, fun k hk key hkey hown => ?_⟩
      · rw [heq, List.filter_cons_of_neg]
        · exact h.single key hown
        · simpa [hasUniquenessKey] using hforeign key hown
      · rw [heq] at hk
        rcases List.mem_cons.mp hk with rfl | hk
        · exact absurd hkey (hforeign key hown)
        · exact hold k hk key hkey hown

theorem contractsOk_initial (hp : Pristine w.remote) : ContractsOk w where
  single key hown := by
    have hnil : w.remote.contracts.filter (hasUniquenessKey key) = [] :=
      List.filter_eq_nil_iff.mpr fun k hk hkey =>
        hp.contracts k hk key (of_decide_eq_true hkey) hown
    rw [hnil]
    exact Nat.zero_le 1
  source k hk key hkey hown := absurd hown (hp.contracts k hk key hkey)

theorem contractsOk_of_path
    {C : World (metronome policy) → Label (metronome policy) → Prop}
    {w₀ w : World (metronome policy)} (h : Path (step env _) C w₀ w) (h₀ : Initial w₀)
    (hp : Pristine w₀.remote) : ContractsOk w :=
  (run_invariant_from (P := fun w => Known env w ∧ ContractsOk w) h h₀
    ⟨known_initial h₀ hp.toQuiet, contractsOk_initial hp⟩
    fun _ _ _ _ hinv hok hm =>
      ⟨known_move hinv hok.1 hm, contractsOk_move hok.1.remote hok.2 hm⟩).2.2

/-! ## Obtaining an id -/

/-- The entry that the client picks has the key and the id. -/
theorem matchContract_eq_some {uniquenessKey id : String} {contracts : List SdkObject}
    (h : matchContract uniquenessKey contracts = some id) :
    ∃ contract ∈ contracts, entryOf contract = (some id, some uniquenessKey) := by
  induction contracts with
  | nil => cases h
  | cons contract contracts ih =>
      have htail : matchContract uniquenessKey contracts = some id →
          ∃ c ∈ contract :: contracts, entryOf c =
            (some id, some uniquenessKey) := fun h =>
        let ⟨c, hc, hentry⟩ := ih h
        ⟨c, List.mem_cons_of_mem _ hc, hentry⟩
      simp only [matchContract] at h
      split at h
      · next hkey =>
          split at h
          · next contractId hid =>
              cases h
              refine ⟨contract, List.mem_cons_self, ?_⟩
              unfold hasKey at hkey
              split at hkey
              · next key heq =>
                  have hkey : key = uniquenessKey := of_decide_eq_true hkey
                  rw [entryOf, hid, heq, hkey]
              · cases hkey
          · exact htail h
      · exact htail h

theorem listing_eq {k : RemoteContract} {id key : String}
    (h : (some id, some key) = listing k) : k.id = id ∧ k.uniquenessKey = some key := by
  unfold listing at h
  split at h
  · cases h
  · obtain ⟨hid, hkey⟩ := Prod.mk.inj h
    exact ⟨(Option.some.inj hid).symm, hkey.symm⟩

/-- **The id an attempt obtains is that of the contract with its key**, made
for its customer: by the answer to its own call, or by the list. -/
theorem located (hinv : WorldInv env w) (hk : Known env w) {i : WorkerId} {s : Session}
    {p : Effect Unit}
    (hi : w.workers i = .running s p) {request : ContractRequest} {id : String}
    {recovered : Bool} (h : Obtained s request id recovered) :
    ∃ k ∈ w.remote.contracts, k.id = id ∧ k.uniquenessKey = some request.uniquenessKey ∧
      k.customerId = request.customerId := by
  cases h with
  | created hmem hanswer =>
      obtain ⟨response, rfl, hid⟩ := hanswer
      obtain ⟨reply, _, hmeans, hreports⟩ := hk.answered hinv hi hmem rfl
      cases hmeans with
      | createdContract hcontract =>
          have hid' : extractId response = .ok _ := of_decide_eq_true hreports
          rw [hid] at hid'
          cases hid'
          exact ⟨_, hcontract, rfl, rfl, rfl⟩
      | keyInUse _ _ => cases hreports
      | rejected _ => cases hreports
  | recovered hmem hmatch =>
      obtain ⟨reply, _, hmeans, hreports⟩ := hk.answered hinv hi hmem rfl
      cases hmeans with
      | listed hentries =>
          have hmap := of_decide_eq_true hreports
          obtain ⟨contract, hcontract, hentry⟩ := matchContract_eq_some hmatch
          have hmem := List.mem_map_of_mem (f := entryOf) hcontract
          rw [hmap, hentry] at hmem
          obtain ⟨k, hk, hcustomer, hlisting⟩ := hentries _ hmem
          obtain ⟨hid, hkey⟩ := listing_eq hlisting
          exact ⟨k, hk, hid, hkey, hcustomer⟩
      | rejected _ => cases hreports

/-- An attempt that obtains an id has made the create call. -/
theorem called_of_obtained (hinv : WorldInv env w) (hcalls : CallsOk env w) {i : WorkerId}
    {s : Session} {p : Effect Unit} (hi : w.workers i = .running s p)
    {sub c price : String} {tier : Tier} {customer : CustomerMapping}
    {request : ContractRequest} {id : String} {recovered : Bool}
    (hcontract : Contract env.settings env.tiers s.loaded.payload sub c price tier
      customer.metronomeCustomerId request)
    (h : Obtained s request id recovered) :
    ∃ ticket, Entry.called s.loaded.stripeEventId ticket (.createContract request) ∈
      w.history := by
  have hsession := (hinv.running hi).session
  cases h with
  | created hmem _ =>
      exact ⟨_, hcalls.sent i s p hi _ _ (hsession.answered _ _ _ hmem)⟩
  | recovered hmem _ =>
      have hsends := hsession.sent _ _ (hsession.answered _ _ _ hmem)
      generalize hlist : MetronomeRequest.listContracts request.customerId =
        list at hsends
      cases hsends with
      | @listContracts _ _ _ _ row request' _ _ _ _ hcontract' _ hconflict =>
          -- the list call follows a conflict about the same request
          have hmid : customer.metronomeCustomerId = row.metronomeCustomerId := by
            rw [← hcontract.spec.1, ← hcontract'.spec.1]
            exact MetronomeRequest.listContracts.inj hlist
          have hrequest := (hcontract.unique hcontract').2.2.2.2 hmid
          rw [hrequest]
          exact ⟨_, hcalls.sent i s p hi _ _ (hsession.answered _ _ _ hconflict)⟩
      | _ => cases hlist

/-! ## Rows and contracts -/

/-- The row of a subscription was made by event `e` and points at the contract
that the create calls of `e` are about. -/
inductive Backed (env : Env) (w : World (metronome policy)) (e : String)
    (row : SubscriptionMapping) : Prop where
  | intro {event : WebhookEvent} {tier : Tier} {customer : CustomerMapping}
      {request : ContractRequest} {ticket : Nat} {k : RemoteContract} :
      w.db.webhookEvents.find? e = some event →
      handlerOf event = some .subscriptionCreated →
      Contract env.settings env.tiers event.payload row.stripeSubscriptionId
        row.stripeCustomerId row.currentStripePriceId tier
        customer.metronomeCustomerId request →
      w.db.customerMappings.find? row.stripeCustomerId = some customer →
      row.currentTierName = tier.name →
      Entry.called e ticket (.createContract request) ∈ w.history →
      k ∈ w.remote.contracts → k.id = row.metronomeContractId →
      k.uniquenessKey = some request.uniquenessKey → k.customerId = request.customerId →
      Backed env w e row

theorem backed_move (hinv : WorldInv env w) {e : String} {row : SubscriptionMapping}
    (h : Backed env w e row) (hm : Move env w label w') : Backed env w' e row := by
  obtain ⟨hfind, hh, hcontract, hcustomer, hname, hcalled, hk, hid, hkey, hkc⟩ := h
  obtain ⟨event', hfind', htype, hpayload⟩ :=
    stored_move (tableMove hinv hm) (stored_of_find? hfind)
  obtain ⟨customer', hcustomer', hmid⟩ := customer_stays (tableMove hinv hm) hcustomer
  rw [Table.find?_key hfind] at hfind'
  rw [← hpayload, ← hmid] at hcontract
  refine .intro hfind' ?_ hcontract hcustomer' hname (history_mono hm hcalled)
    ((grows_move hm).contracts hk) hid hkey hkc
  rw [handlerOf, htype]
  exact hh

/-- A row about to be committed is backed. -/
theorem backed_of_writes (hinv : WorldInv env w) (hk : Known env w) {i : WorkerId}
    {s : Session} {p : Effect Unit} (hi : w.workers i = .running s p)
    (hcom : Committing env w.db i s) {row : SubscriptionMapping}
    (h : Writes env.settings env.tiers s (.insertSubscription row)) :
    Backed env w s.event.stripeEventId row := by
  cases h with
  | insertSubscription hh hcontract _ hcustomer hname hobtained =>
      obtain ⟨customer', hfind, hmid⟩ := hcom.customerRow _ _ hcustomer
      obtain ⟨ticket, hcalled⟩ := called_of_obtained hinv hk.calls hi hcontract hobtained
      obtain ⟨k, hmem, hid, hkey, hkc⟩ := located hinv hk hi hobtained
      rw [← hmid] at hcontract
      rw [← hcom.same.1] at hcalled
      exact .intro hcom.row hh hcontract hfind hname hcalled hmem hid hkey hkc

/-- A logged creation has inserted its row. -/
theorem created_of_result {settings : Settings} {tiers : TierTable} {s : Session}
    {result : Subscription.HandlerResult} (h : Verdict settings tiers s)
    (hresult : s.result = some (.subscription result))
    (hskip : result.outcome ≠ .SKIPPED_ALREADY_MAPPED) :
    ∃ row, s.flushed = [.insertSubscription row] ∧
      Writes settings tiers s (.insertSubscription row) := by
  have hnone : ∀ {a}, s.result = some (.customer a) → False := fun h => by
    rw [hresult] at h
    cases h
  cases h with
  | processed now hcompletion _ _ =>
      cases hcompletion with
      | ignored _ _ hres => rw [hres] at hresult; cases hresult
      | notPropagated _ _ hres => rw [hres] at hresult; cases hresult
      | customerSkipped _ _ _ _ hres => exact (hnone hres).elim
      | customerUpdated _ _ _ _ _ _ hres => exact (hnone hres).elim
      | customerCreated _ _ hres => exact (hnone hres).elim
      | subscriptionSkipped _ _ _ _ _ hres =>
          rw [hres] at hresult
          cases hresult
          exact absurd rfl hskip
      | subscriptionCreated hw _ _ _ hflushed _ => exact ⟨_, hflushed, hw⟩
  | permanent now reason hf _ _ => rw [hf.result] at hresult; cases hresult
  | exhausted now reason hf _ _ _ => rw [hf.result] at hresult; cases hresult
  | retry now delay reason hf _ _ _ _ => rw [hf.result] at hresult; cases hresult

/-- Every row is backed, and every logged creation by its own event. -/
structure RowsBacked (env : Env) (w : World (metronome policy)) : Prop where
  rows : ∀ sub row, w.db.subscriptionMappings.find? sub = some row →
    ∃ e, Backed env w e row
  attempted : ∀ event at_ result,
    Entry.attempted event at_ (some (.subscription result)) ∈ w.history →
    result.outcome ≠ .SKIPPED_ALREADY_MAPPED →
    ∃ row, w.db.subscriptionMappings.find? row.stripeSubscriptionId = some row ∧
      Backed env w event.stripeEventId row

theorem rowsBacked_move (hinv : WorldInv env w) (hk : Known env w) (h : RowsBacked env w)
    (hm : Move env w label w') : RowsBacked env w' where
  rows sub row hrow := by
    rcases subscription_source (tableMove hinv hm) hrow with
      hrow | ⟨i, s, hi, hcom, _, _, _, hwrites, _⟩
    · obtain ⟨e, hbacked⟩ := h.rows sub row hrow
      exact ⟨e, backed_move hinv hbacked hm⟩
    · exact ⟨_, backed_move hinv (backed_of_writes hinv hk hi hcom hwrites) hm⟩
  attempted event at_ result hmem hskip := by
    rcases attempted_source (tableMove hinv hm) hmem with
      hmem | ⟨i, s, hi, hcom, hfresh, rfl, hresult, _, _, hs⟩
    · obtain ⟨row, hrow, hbacked⟩ := h.attempted event at_ result hmem hskip
      exact ⟨row, subscription_stays (tableMove hinv hm) hrow,
        backed_move hinv hbacked hm⟩
    · obtain ⟨row, hflushed, hwrites⟩ := created_of_result hcom.verdict hresult.symm hskip
      refine ⟨row, ?_, backed_move hinv (backed_of_writes hinv hk hi hcom hwrites) hm⟩
      have hfind := find?_apply_insertSubscription
        (hfresh (.insertSubscription row) (by simp [hflushed]))
      rw [hflushed] at hs
      rw [hs]
      exact hfind

theorem rowsBacked_of_path
    {C : World (metronome policy) → Label (metronome policy) → Prop}
    {w₀ w : World (metronome policy)} (h : Path (step env _) C w₀ w) (h₀ : Initial w₀)
    (hp : Pristine w₀.remote) : RowsBacked env w := by
  refine (run_invariant_from (P := fun w => Known env w ∧ RowsBacked env w) h h₀
    ⟨known_initial h₀ hp.toQuiet, ?_, ?_⟩ fun _ _ _ _ hinv hok hm =>
      ⟨known_move hinv hok.1 hm, rowsBacked_move hinv hok.1 hok.2 hm⟩).2.2
  · intro sub row hrow
    rw [h₀.db] at hrow
    cases hrow
  · intro event at_ result hmem
    rw [h₀.history] at hmem
    cases hmem

/-! ## One contract -/

theorem justified_createContract {event : WebhookEvent} {request : ContractRequest}
    {db : Postgres} (h : Justified env db event (.createContract request)) :
    ∃ sub c price tier row, handlerOf event = some .subscriptionCreated ∧
      Contract env.settings env.tiers event.payload sub c price tier
        row.metronomeCustomerId request ∧ db.customerMappings.find? c = some row := by
  cases h with
  | createContract hh hcontract hrow => exact ⟨_, _, _, _, _, hh, hcontract, hrow⟩

/-- All create calls of an event are about the same request. -/
theorem createContract_unique (hcalls : CallsOk env w) {e : String} {ticket ticket' : Nat}
    {request request' : ContractRequest}
    (h : Entry.called e ticket (.createContract request) ∈ w.history)
    (h' : Entry.called e ticket' (.createContract request') ∈ w.history) :
    request = request' := by
  obtain ⟨event, hfind, hj⟩ := hcalls.justified _ _ _ h
  obtain ⟨event', hfind', hj'⟩ := hcalls.justified _ _ _ h'
  rw [hfind] at hfind'
  cases hfind'
  obtain ⟨_, _, _, _, row, _, hcontract, hrow⟩ := justified_createContract hj
  obtain ⟨_, _, _, _, row', _, hcontract', hrow'⟩ := justified_createContract hj'
  obtain ⟨_, hc, _, _, hrequest⟩ := hcontract.unique hcontract'
  rw [hc, hrow'] at hrow
  cases hrow
  exact hrequest rfl

theorem ownKey_of_contract {payload : JsonObject} {sub c price mid : String} {tier : Tier}
    {request : ContractRequest}
    (h : Contract env.settings env.tiers payload sub c price tier mid request) :
    OwnKey request.uniquenessKey := by
  obtain ⟨_, periodStart, _, _, hkey, _⟩ := h.spec
  exact ⟨sub, price, periodStart, hkey⟩

/-- **No duplicate contract, whatever fails.**  All create calls of an event
carry one customer and one key, at most one contract has that key, and an
attempt that commits a creation, by its own call or by the recovery after a
409, has committed the row that points at that contract. -/
theorem contract_created_once {w₀ w : World (metronome policy)}
    (h : Reaches (step env _) w₀ w) (h₀ : Initial w₀) (hp : Pristine w₀.remote) :
    ∀ event ∈ w.db.webhookEvents.rows, event.eventType = "customer.subscription.created" →
      ∃ customerId key,
        (∀ ticket body,
          Entry.called event.stripeEventId ticket (.createContract body) ∈ w.history →
          body.customerId = customerId ∧ body.uniquenessKey = key) ∧
        (w.remote.contracts.filter (hasUniquenessKey key)).length ≤ 1 ∧
        ∀ event' at_ result,
          Entry.attempted event' at_ (some (.subscription result)) ∈ w.history →
          event'.stripeEventId = event.stripeEventId →
          result.outcome ≠ .SKIPPED_ALREADY_MAPPED →
          ∃ row ∈ w.db.subscriptionMappings.rows,
            objectId event.payload = some row.stripeSubscriptionId ∧
            ∃ k ∈ w.remote.contracts, k.uniquenessKey = some key ∧
              k.customerId = customerId ∧ k.id = row.metronomeContractId := by
  intro event hmem _
  have hcalls := (known_of_path h h₀ hp.toQuiet).calls
  have hcontracts := contractsOk_of_path h h₀ hp
  have hrows := rowsBacked_of_path h h₀ hp
  by_cases hcall : ∃ ticket request,
      Entry.called event.stripeEventId ticket (.createContract request) ∈ w.history
  · obtain ⟨ticket, request, hcalled⟩ := hcall
    obtain ⟨_, _, hj⟩ := hcalls.justified _ _ _ hcalled
    obtain ⟨_, _, _, _, _, _, hcontract, _⟩ := justified_createContract hj
    refine ⟨request.customerId, request.uniquenessKey, fun ticket' body hcalled' => ?_,
      hcontracts.single _ (ownKey_of_contract hcontract),
      fun event' at_ result hattempted hid hskip => ?_⟩
    · rw [createContract_unique hcalls hcalled' hcalled]
      exact ⟨rfl, rfl⟩
    · obtain ⟨row, hrow, hbacked⟩ := hrows.attempted _ _ _ hattempted hskip
      rw [hid] at hbacked
      obtain ⟨hfind, _, hcontract', _, _, hcalled', hk, hkid, hkey, hkc⟩ := hbacked
      rw [Table.find?_of_mem hmem] at hfind
      cases hfind
      rw [createContract_unique hcalls hcalled' hcalled] at hkey hkc
      exact ⟨row, Table.find?_mem hrow, hcontract'.subscription, _, hk, hkey, hkc, hkid⟩
  · refine ⟨"", uniquenessKeyOf "" "" 0, fun ticket body hcalled => ?_,
      hcontracts.single _ ⟨"", "", 0, rfl⟩,
      fun event' at_ result hattempted hid hskip => ?_⟩
    · exact absurd ⟨ticket, body, hcalled⟩ hcall
    · obtain ⟨row, hrow, hbacked⟩ := hrows.attempted _ _ _ hattempted hskip
      rw [hid] at hbacked
      obtain ⟨_, _, _, _, _, hcalled, _, _, _, _⟩ := hbacked
      exact absurd ⟨_, _, hcalled⟩ hcall

theorem pristine_empty : Pristine .empty where
  posted := rfl
  inFlight := rfl
  replies := rfl
  contracts k hk := by cases hk

/-- The worker dies after Metronome has made the contract; the next attempt
recovers it after a 409. -/
def recoveredAda : World (metronome policyRejecting) :=
  runFrom (installation [adaCreated, adaSubscribed]) policyRejecting
    ([.webhook adaCreated.request, .tick 1, .webhook adaSubscribed.request] ++
      createsCustomer 0 0 "m1" ++ claims 0 ++ performs 0 4 ++
      [.serve (.deliver 1 "k1"), .crash 0] ++ claims 1 ++ performs 1 4 ++
      [.serve (.deliver 2 "k2"),
        receives 1 (.statusError 409 false "uniqueness_key in use")] ++ performs 1 1 ++
      [.serve (.deliver 3 ""), receives 1 (.ok (.dict [("data", .list [.dict
        [("id", .str "k1"), ("uniqueness_key", .str (uniquenessKeyOf "sub_1"
          "price_REPLACE_ME_startup" 1699999200))]])]))] ++ performs 1 8 ++ [.finish 1])

theorem contract_created_once_recoveredAda :
    recoveredAda.db.subscriptionMappings.rows.map (·.metronomeContractId) = ["k1"] ∧
      ∀ event ∈ recoveredAda.db.webhookEvents.rows,
        event.eventType = "customer.subscription.created" → ∃ customerId key,
          (∀ ticket body, Entry.called event.stripeEventId ticket (.createContract body) ∈
            recoveredAda.history → body.customerId = customerId ∧
            body.uniquenessKey = key) ∧
          (recoveredAda.remote.contracts.filter (hasUniquenessKey key)).length ≤ 1 :=
  ⟨by decide +kernel, fun event hmem htype =>
    let ⟨customerId, key, hcalls, hsingle, _⟩ := contract_created_once
      (reaches_runFrom _ _ _) (initial_fresh _) pristine_empty event hmem htype
    ⟨customerId, key, hcalls, hsingle⟩⟩

end Sidecar.Ports.Contracts
