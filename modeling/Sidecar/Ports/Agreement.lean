import Sidecar.Ports.Contracts

/-!
# The mapping tables agree with Metronome

Every customer row points at a Metronome customer made for it, and every
subscription row at a contract of its customer, key and tier.  The contract of
a row that was recovered may have been made by an earlier request; that this
request was about the same subscription and price is read off the key.

## Main results

* `uniquenessKeyOf_inj` — a key determines its subscription, its price and its
  start.
* `rows_agree_with_metronome` — the agreement, in every reachable state.
-/

namespace Sidecar.Ports.Agreement

open Sidecar.Verified.KeyedTable
open Sidecar.Verified.Transition
open Sidecar.Ports.Mappers
open Sidecar.Ports.Models
open Sidecar.Ports.Effects
open Sidecar.Ports.MetronomeClient
open Sidecar.Ports.System
open Sidecar.Ports.Attempt
open Sidecar.Ports.Moves
open Sidecar.Ports.Invariant
open Sidecar.Ports.Mappings
open Sidecar.Ports.Remote
open Sidecar.Ports.Replies
open Sidecar.Ports.Contracts

variable {env : Env} {policy : Policy} {w w' : World (metronome policy)}
  {label : Label (metronome policy)}

/-! ## Reading a key -/

/-- `sub_` followed by characters other than `_`. -/
def IsSubscriptionId (s : String) : Prop :=
  ∃ suffix, s = "sub_" ++ suffix ∧ '_' ∉ suffix.toList

/-- A list is split in one way at the first occurrence of an element. -/
theorem split_first {α : Type} {a : α} {xs ys xs' ys' : List α} (h : a ∉ xs)
    (h' : a ∉ xs') (heq : xs ++ a :: ys = xs' ++ a :: ys') : xs = xs' ∧ ys = ys' := by
  induction xs generalizing xs' with
  | nil =>
      cases xs' with
      | nil => exact ⟨rfl, (List.cons.inj heq).2⟩
      | cons x xs' => exact absurd (List.mem_cons.mpr (.inl (List.cons.inj heq).1)) h'
  | cons x xs ih =>
      cases xs' with
      | nil => exact absurd (List.mem_cons.mpr (.inl (List.cons.inj heq).1.symm)) h
      | cons x' xs' =>
          obtain ⟨rfl, htail⟩ := List.cons.inj heq
          obtain ⟨rfl, rfl⟩ := ih (fun hmem => h (List.mem_cons_of_mem _ hmem))
            (fun hmem => h' (List.mem_cons_of_mem _ hmem)) htail
          exact ⟨rfl, rfl⟩

/-- The same at the last occurrence. -/
theorem split_last {α : Type} {a : α} {xs ys xs' ys' : List α} (h : a ∉ ys) (h' : a ∉ ys')
    (heq : xs ++ a :: ys = xs' ++ a :: ys') : xs = xs' ∧ ys = ys' := by
  have hrev := congrArg List.reverse heq
  simp only [List.reverse_append, List.reverse_cons, List.append_assoc,
    List.singleton_append]
    at hrev
  obtain ⟨hys, hxs⟩ := split_first (by simpa using h) (by simpa using h') hrev
  exact ⟨List.reverse_inj.mp hxs, List.reverse_inj.mp hys⟩

theorem underscore_not_in_toString (n : Int) : '_' ∉ (toString n).toList := by
  rw [Int.toString_eq_repr, Int.repr_eq_if]
  split
  · rw [Nat.toList_repr]
    exact Nat.underscore_not_in_toDigits
  · rw [String.toList_append, Nat.toList_repr]
    simp

theorem toList_uniquenessKeyOf (suffix price : String) (start : Int) :
    (uniquenessKeyOf ("sub_" ++ suffix) price start).toList =
      "sub_".toList ++ (suffix.toList ++ '_' ::
        (price.toList ++ '_' :: (toString start).toList)) := by
  have hbar : "_".toList = ['_'] := rfl
  simp only [uniquenessKeyOf, toString, String.toList_append, hbar, List.append_assoc,
    List.cons_append, List.nil_append]

theorem natRepr_inj {m n : Nat} (h : m.repr = n.repr) : m = n := by
  have hdigits := congrArg String.toList h
  rw [Nat.toList_repr, Nat.toList_repr] at hdigits
  have hvalue := congrArg (fun digits => Nat.ofDigitChars 10 digits 0) hdigits
  simpa using hvalue

theorem minus_ne_natRepr (m n : Nat) : "-" ++ m.repr ≠ n.repr := by
  intro heq
  have hmem : '-' ∈ n.repr.toList := by
    rw [← heq]
    simp
  rw [Nat.toList_repr] at hmem
  cases Nat.isDigit_of_mem_toDigits (by decide) (by decide) hmem

theorem toString_inj {m n : Int} (h : toString m = toString n) : m = n := by
  rw [Int.toString_eq_repr, Int.toString_eq_repr, Int.repr_eq_if, Int.repr_eq_if] at h
  split at h
  · split at h
    · have hnat := natRepr_inj h
      omega
    · exact absurd h.symm (minus_ne_natRepr _ _)
  · split at h
    · exact absurd h (minus_ne_natRepr _ _)
    · have hlist := congrArg String.toList h
      rw [String.toList_append, String.toList_append] at hlist
      have hnat := natRepr_inj (String.toList_inj.mp (List.append_cancel_left hlist))
      omega

/-- **A key determines its subscription, its price and its start.** -/
theorem uniquenessKeyOf_inj {sub price sub' price' : String} {start start' : Int}
    (hsub : IsSubscriptionId sub) (hsub' : IsSubscriptionId sub')
    (h : uniquenessKeyOf sub price start = uniquenessKeyOf sub' price' start') :
    sub = sub' ∧ price = price' ∧ start = start' := by
  obtain ⟨suffix, rfl, hsuffix⟩ := hsub
  obtain ⟨suffix', rfl, hsuffix'⟩ := hsub'
  have hlist := congrArg String.toList h
  rw [toList_uniquenessKeyOf, toList_uniquenessKeyOf] at hlist
  obtain ⟨heq, hrest⟩ := split_first hsuffix hsuffix' (List.append_cancel_left hlist)
  obtain ⟨hprice, hstart⟩ := split_last (underscore_not_in_toString start)
    (underscore_not_in_toString start') hrest
  exact ⟨by rw [String.toList_inj.mp heq], String.toList_inj.mp hprice,
    toString_inj (String.toList_inj.mp hstart)⟩

/-! ## Customers -/

/-- A Metronome customer made for the Stripe customer `c`. -/
def MadeFor (store : RemoteStore) (c id : String) : Prop :=
  ∃ m ∈ store.customers, m.id = id ∧ m.ingestAliases = [c] ∧
    m.billing = (customerBody c m.name).customerBillingProviderConfigurations

theorem MadeFor.mono {store store' : RemoteStore} {c id : String} (h : MadeFor store c id)
    (hg : Grows store store') : MadeFor store' c id := by
  obtain ⟨m, hm, hid, halias, hbilling⟩ := h
  obtain ⟨m', hm', hid', halias', hbilling', _⟩ := hg.customers m hm
  exact ⟨m', hm', hid'.trans hid, halias'.trans halias, hbilling'.trans hbilling⟩

/-- The customer row about to be committed names the customer that the call
has made. -/
theorem madeFor_of_writes (hinv : WorldInv env w) (hk : Known env w) {i : WorkerId}
    {s : Session} {p : Effect Unit}
    (hi : w.workers i = .running s p) {row : CustomerMapping}
    (h : Writes env.settings env.tiers s (.insertCustomer row)) :
    MadeFor w.remote row.stripeCustomerId row.metronomeCustomerId := by
  cases h with
  | insertCustomer _ hid _ hrequest hmem hanswer =>
      obtain ⟨response, rfl, hresponse⟩ := hanswer
      have hbody := customerRequest_spec hrequest hid
      obtain ⟨reply, _, hmeans, hreports⟩ := hk.answered hinv hi hmem rfl
      cases hmeans with
      | @createdCustomer _ m hm halias hbilling _ =>
          have hid' : extractId response = .ok m.id := of_decide_eq_true hreports
          rw [hresponse] at hid'
          rw [hbody] at halias hbilling
          exact ⟨m, hm, (Except.ok.inj hid').symm, halias, hbilling⟩
      | duplicate _ _ => cases hreports
      | rejected _ => cases hreports

/-- Every customer row names a Metronome customer made for it. -/
def CustomersMade (w : World (metronome policy)) : Prop :=
  ∀ c row, w.db.customerMappings.find? c = some row →
  MadeFor w.remote c row.metronomeCustomerId

theorem customersMade_move (hinv : WorldInv env w) (hk : Known env w)
    (h : CustomersMade w) (hm : Move env w label w') : CustomersMade w' := by
  intro c row hrow
  rcases customer_source (tableMove hinv hm) hrow with
    ⟨row', hrow', hid⟩ | ⟨i, s, hi, _, _, rfl, _, hwrites, _⟩
  · exact hid ▸ (h c row' hrow').mono (grows_move hm)
  · exact (madeFor_of_writes hinv hk hi hwrites).mono (grows_move hm)

theorem customersMade_of_path
    {C : World (metronome policy) → Label (metronome policy) → Prop}
    {w₀ w : World (metronome policy)} (h : Path (step env _) C w₀ w) (h₀ : Initial w₀)
    (hquiet : Quiet w₀.remote) : CustomersMade w := by
  refine (run_invariant_from (P := fun w => Known env w ∧ CustomersMade w) h h₀
    ⟨known_initial h₀ hquiet, fun c row hrow => ?_⟩ fun _ _ _ _ hinv hok hm =>
      ⟨known_move hinv hok.1 hm, customersMade_move hinv hok.1 hok.2 hm⟩).2.2
  rw [h₀.db] at hrow
  cases hrow

/-! ## Agreement -/

/-- Every stored subscription id is one of Stripe's. -/
def StripeIds (w : World (metronome policy)) : Prop :=
  ∀ event ∈ w.db.webhookEvents.rows, event.eventType = "customer.subscription.created" →
    ∀ sub, objectId event.payload = some sub → IsSubscriptionId sub

/-- The contract of a row, as made by the call whose key it has. -/
theorem contract_of_backed (hk : Known env w) (hcontracts : ContractsOk w)
    (hids : StripeIds w) {e : String} {row : SubscriptionMapping}
    (h : Backed env w e row) :
    ∃ customer k tier periodStart startingAtIso,
      w.db.customerMappings.find? row.stripeCustomerId = some customer ∧
      k ∈ w.remote.contracts ∧ k.id = row.metronomeContractId ∧
      k.customerId = customer.metronomeCustomerId ∧
      env.tiers.lookup row.currentStripePriceId = some tier ∧
      row.currentTierName = tier.name ∧
      Calendar.unixToIsoUtc periodStart = .ok startingAtIso ∧
      k.uniquenessKey = some (uniquenessKeyOf row.stripeSubscriptionId
        row.currentStripePriceId periodStart) ∧
      k.recurringCredits = [recurringCreditOf tier startingAtIso] := by
  obtain @⟨event, tier, customer, request, _, k, hfind, hh, hcontract,
    hcustomer, hname, _, hmem, hid, hkey, hkc⟩ := h
  obtain ⟨hrequestCustomer, start, _, _, hrequestKey, _⟩ := hcontract.spec
  have hisId : ∀ {e event sub}, w.db.webhookEvents.find? e = some event →
      handlerOf event = some .subscriptionCreated →
      objectId event.payload = some sub → IsSubscriptionId sub := fun hfind hh hid =>
    hids _ (Table.find?_mem hfind) (isSubscription_iff.mp hh) _ hid
  -- the call that made the contract, and the event it was made for
  obtain ⟨e', ticket', body, hcalled, hbody⟩ :=
    hcontracts.source _ hmem _ hkey (ownKey_of_contract hcontract)
  obtain ⟨event', hfind', hj⟩ := hk.calls.justified _ _ _ hcalled
  obtain ⟨sub', c', price', tier', row', hh', hcontract', _⟩ :=
    justified_createContract hj
  obtain ⟨_, start', startingAtIso, hiso, hbodyKey, hcredits⟩ := hcontract'.spec
  have hbodyKey' : body.uniquenessKey = request.uniquenessKey := by
    rw [hbody] at hkey
    exact Option.some.inj hkey
  rw [hbodyKey, hrequestKey] at hbodyKey'
  obtain ⟨hsub, hprice, _⟩ :=
    uniquenessKeyOf_inj (hisId hfind' hh' hcontract'.subscription)
    (hisId hfind hh hcontract.subscription) hbodyKey'
  have htier := hcontract'.known
  rw [hprice, hcontract.known] at htier
  cases htier
  refine ⟨_, _, _, start', startingAtIso, hcustomer, hmem, hid,
    hkc.trans hrequestCustomer, hcontract.known, hname, hiso, ?_, ?_⟩
  · rw [hbody, ← hsub, ← hprice, ← hbodyKey]
  · rw [hbody]
    exact hcredits

/-- **The local rows agree with Metronome**, whoever made the contracts and
however often calls were repeated, lost or answered late. -/
theorem rows_agree_with_metronome {w₀ w : World (metronome policy)}
    (h : Reaches (step env _) w₀ w) (h₀ : Initial w₀) (hp : Pristine w₀.remote)
    (hids : StripeIds w) :
    (∀ row ∈ w.db.customerMappings.rows, ∃ m ∈ w.remote.customers,
      m.id = row.metronomeCustomerId ∧ row.stripeCustomerId ∈ m.ingestAliases ∧
      ∃ billing ∈ m.billing, billing.billingProvider = "stripe" ∧
        billing.stripeCustomerId = row.stripeCustomerId) ∧
    ∀ row ∈ w.db.subscriptionMappings.rows,
      ∃ customer ∈ w.db.customerMappings.rows,
        customer.stripeCustomerId = row.stripeCustomerId ∧
        ∃ k ∈ w.remote.contracts, k.id = row.metronomeContractId ∧
          k.customerId = customer.metronomeCustomerId ∧
          ∃ tier periodStart startingAtIso,
            env.tiers.lookup row.currentStripePriceId = some tier ∧
            row.currentTierName = tier.name ∧
            Calendar.unixToIsoUtc periodStart = .ok startingAtIso ∧
            k.uniquenessKey = some (uniquenessKeyOf row.stripeSubscriptionId
              row.currentStripePriceId periodStart) ∧
            k.recurringCredits = [recurringCreditOf tier startingAtIso] := by
  have hmade := customersMade_of_path h h₀ hp.toQuiet
  have hrows := rowsBacked_of_path h h₀ hp
  constructor
  · intro row hrow
    obtain ⟨m, hm, hid, halias, hbilling⟩ := hmade _ _ (Table.find?_of_mem hrow)
    refine ⟨m, hm, hid, by rw [halias]; exact List.mem_singleton_self _, ?_⟩
    rw [hbilling]
    exact ⟨_, List.mem_singleton_self _, rfl, rfl⟩
  · intro row hrow
    obtain ⟨e, hbacked⟩ := hrows.rows _ _ (Table.find?_of_mem hrow)
    obtain ⟨customer, k, tier, periodStart, startingAtIso, hcustomer, hk, hid,
      hkc, hrest⟩ :=
      contract_of_backed (known_of_path h h₀ hp.toQuiet)
        (contractsOk_of_path h h₀ hp) hids
        hbacked
    exact ⟨customer, Table.find?_mem hcustomer, Table.find?_key hcustomer, k,
      hk, hid, hkc, tier, periodStart, startingAtIso, hrest⟩

theorem recoveredAda_rows :
    recoveredAda.db.subscriptionMappings.rows.map (·.stripeSubscriptionId) = ["sub_1"] ∧
      recoveredAda.db.customerMappings.rows.map (·.stripeCustomerId) = ["cus_1"] ∧
      ∀ event ∈ recoveredAda.db.webhookEvents.rows,
        event.eventType ≠ "customer.subscription.created" ∨
          objectId event.payload = some ("sub_" ++ "1") := by
  decide +kernel

theorem rows_agree_with_metronome_recoveredAda :
    recoveredAda.db.subscriptionMappings.rows.map (·.stripeSubscriptionId) = ["sub_1"] ∧
    recoveredAda.db.customerMappings.rows.map (·.stripeCustomerId) = ["cus_1"] ∧
    (∀ row ∈ recoveredAda.db.customerMappings.rows, ∃ m ∈ recoveredAda.remote.customers,
      m.id = row.metronomeCustomerId ∧ row.stripeCustomerId ∈ m.ingestAliases ∧
      ∃ billing ∈ m.billing, billing.billingProvider = "stripe" ∧
        billing.stripeCustomerId = row.stripeCustomerId) ∧
    ∀ row ∈ recoveredAda.db.subscriptionMappings.rows,
      ∃ customer ∈ recoveredAda.db.customerMappings.rows,
        customer.stripeCustomerId = row.stripeCustomerId ∧
        ∃ k ∈ recoveredAda.remote.contracts, k.id = row.metronomeContractId ∧
          k.customerId = customer.metronomeCustomerId ∧
          ∃ tier periodStart startingAtIso, row.currentTierName = tier.name ∧
            k.uniquenessKey = some (uniquenessKeyOf row.stripeSubscriptionId
              row.currentStripePriceId periodStart) ∧
            k.recurringCredits = [recurringCreditOf tier startingAtIso] := by
  have hids : StripeIds recoveredAda := by
    intro event hmem htype sub hsub
    have hone := (recoveredAda_rows.2.2 event hmem).resolve_left (not_not.mpr htype)
    rw [hsub] at hone
    exact ⟨"1", Option.some.inj hone, by decide⟩
  obtain ⟨hcustomers, hsubscriptions⟩ := rows_agree_with_metronome (reaches_runFrom _ _ _)
    (initial_fresh _) pristine_empty hids
  refine ⟨recoveredAda_rows.1, recoveredAda_rows.2.1, hcustomers, fun row hrow => ?_⟩
  obtain ⟨customer, hmem, hc, k, hk, hid, hkc, tier, start, iso, _, hname, _, hkey,
    hcredits⟩ :=
    hsubscriptions row hrow
  exact ⟨customer, hmem, hc, k, hk, hid, hkc, tier, start, iso, hname, hkey, hcredits⟩

end Sidecar.Ports.Agreement
