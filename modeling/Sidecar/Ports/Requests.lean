import Sidecar.Ports.Agreement
import Sidecar.Ports.Instants

/-!
# What the subscription mapper makes of a payload

The request of a subscription is determined by its id, its price and the hour
of its period start; the key records exactly these three.

## Main results

* `mapper_accepts` — the accepted subscriptions, and the booleans that the
  mapper takes for timestamps.
* `start_is_the_hour` — the start of a contract in its three places.
* `key_identifies_request` — equal keys, equal requests.
* `item_readings_agree` — the handler and the mapper read the same price.
-/

namespace Sidecar.Ports.Requests

open Sidecar.Verified.KeyedTable
open Sidecar.Verified.Transition
open Sidecar.Verified.Gregorian
open Sidecar.Verified.Resumption
open Sidecar.Ports.Python
open Sidecar.Ports.Calendar
open Sidecar.Ports.Config
open Sidecar.Ports.Mappers
open Sidecar.Ports.Models
open Sidecar.Ports.Effects
open Sidecar.Ports.Handlers
open Sidecar.Ports.Worker
open Sidecar.Ports.System
open Sidecar.Ports.Attempt
open Sidecar.Ports.Execution
open Sidecar.Ports.Moves
open Sidecar.Ports.Transactions
open Sidecar.Ports.Invariant
open Sidecar.Ports.Mappings
open Sidecar.Ports.Remote
open Sidecar.Ports.Calls
open Sidecar.Ports.Agreement
open Sidecar.Ports.Instants

/-! ## The request -/

/-- The period start that the mapper selects: an integer on the item, or else
one on the subscription. -/
def selectedStart (stripeSubscription item : JsonObject) : Option Int :=
  (asInt (get item "current_period_start")).or
    (asInt (get stripeSubscription "current_period_start"))

theorem periodStartUnix_eq_ok {stripeSubscription item : JsonObject} {periodStart : Int} :
    periodStartUnix stripeSubscription item = .ok periodStart ↔
      ∃ raw, selectedStart stripeSubscription item = some raw ∧
        periodStart = raw - raw % 3600 := by
  unfold periodStartUnix selectedStart
  cases asInt (get item "current_period_start") with
  | some raw => simp [eq_comm]
  | none => cases asInt (get stripeSubscription "current_period_start") <;> simp [eq_comm]

/-- The body of a contract request. -/
def contractBody (metronomeCustomerId rateCardId : String) (tier : Tier)
    (subscriptionId priceId : String) (periodStart : Int) (startingAtIso : String) :
    ContractRequest where
  customerId := metronomeCustomerId
  rateCardId
  startingAt := startingAtIso
  uniquenessKey := uniquenessKeyOf subscriptionId priceId periodStart
  name := s!"Stripe Subscription {subscriptionId} ({tier.name})"
  billingProviderConfiguration := {
    billingProvider := "stripe"
    deliveryMethod := "direct_to_billing_provider" }
  recurringCredits := [recurringCreditOf tier startingAtIso]

/-- A subscription with an id, a single priced item, and a period start. -/
structure Readable (stripeSubscription : JsonObject) (subscriptionId priceId : String)
    (raw : Int) : Prop where
  id : asNonEmptyStr (get stripeSubscription "id") = some subscriptionId
  start : ∃ item, requireSingleItem stripeSubscription = .ok (priceId, item) ∧
    selectedStart stripeSubscription item = some raw

theorem requireStr_eq_ok_iff {value : Json} {fieldPath s : String} :
    Mappers.requireStr value fieldPath = .ok s ↔ asNonEmptyStr value = some s := by
  unfold Mappers.requireStr
  cases asNonEmptyStr value <;> simp

/-- **What is mapped, and to what.** -/
theorem mapper_eq_ok_iff {stripeSubscription : JsonObject} {tier : Tier}
    {metronomeCustomerId rateCardId : String} {body : ContractRequest} :
    stripeSubscriptionToMetronomeContractRequest stripeSubscription tier
        metronomeCustomerId rateCardId = .ok body ↔
      ∃ subscriptionId priceId raw startingAtIso,
        Readable stripeSubscription subscriptionId priceId raw ∧
        unixToIsoUtc (raw - raw % 3600) = .ok startingAtIso ∧
        body = contractBody metronomeCustomerId rateCardId tier subscriptionId priceId
          (raw - raw % 3600) startingAtIso := by
  unfold stripeSubscriptionToMetronomeContractRequest
  constructor
  · intro h
    obtain ⟨subscriptionId, hid, h⟩ := bind_eq_ok.mp h
    obtain ⟨⟨priceId, item⟩, hitem, h⟩ := bind_eq_ok.mp h
    obtain ⟨periodStart, hstart, h⟩ := bind_eq_ok.mp h
    obtain ⟨startingAtIso, hiso, h⟩ := bind_eq_ok.mp h
    obtain ⟨raw, hraw, rfl⟩ := periodStartUnix_eq_ok.mp hstart
    exact ⟨subscriptionId, priceId, raw, startingAtIso,
      ⟨requireStr_eq_ok_iff.mp hid, item, hitem, hraw⟩, hiso, (Except.ok.inj h).symm⟩
  · rintro ⟨subscriptionId, priceId, raw, startingAtIso,
      ⟨hid, item, hitem, hraw⟩, hiso, rfl⟩
    refine bind_eq_ok.mpr ⟨_, requireStr_eq_ok_iff.mpr hid, ?_⟩
    refine bind_eq_ok.mpr ⟨_, hitem, ?_⟩
    refine bind_eq_ok.mpr ⟨_, periodStartUnix_eq_ok.mpr ⟨raw, hraw, rfl⟩, ?_⟩
    exact bind_eq_ok.mpr ⟨_, hiso, rfl⟩

/-- The representable hours. -/
theorem unixToIsoUtc_isOk_iff {raw : Int} :
    (∃ text, unixToIsoUtc (raw - raw % 3600) = .ok text) ↔
      -62135596800 ≤ raw ∧ raw < 253402300800 := by
  unfold unixToIsoUtc
  split
  · next hrange =>
      simp only [Bool.or_eq_true, decide_eq_true_eq] at hrange
      simp only [reduceCtorEq, exists_false, false_iff]
      omega
  · next hrange =>
      simp only [Bool.or_eq_true, decide_eq_true_eq] at hrange
      simp only [Except.ok.injEq, exists_eq', true_iff]
      omega

/-- The text determines the timestamp. -/
theorem unixToIsoUtc_inj {ts ts' : Int} {text : String} (h : unixToIsoUtc ts = .ok text)
    (h' : unixToIsoUtc ts' = .ok text) : ts = ts' := by
  obtain ⟨_, _, _, hread⟩ := unixToIsoUtc_eq_ok h
  obtain ⟨_, _, _, hread'⟩ := unixToIsoUtc_eq_ok h'
  exact Option.some.inj (hread.symm.trans hread')

theorem Readable.unique {stripeSubscription : JsonObject} {sub price sub' price' : String}
    {raw raw' : Int} (h : Readable stripeSubscription sub price raw)
    (h' : Readable stripeSubscription sub' price' raw') :
    sub = sub' ∧ price = price' ∧ raw = raw' := by
  obtain ⟨hid, item, hitem, hraw⟩ := h
  obtain ⟨hid', item', hitem', hraw'⟩ := h'
  rw [hid] at hid'
  rw [hitem] at hitem'
  cases hid'
  cases hitem'
  rw [hraw] at hraw'
  exact ⟨rfl, rfl, Option.some.inj hraw'⟩

/-! ## The documented input -/

/-- An integer of JSON; booleans are none. -/
def jsonInt : Json → Option Int
  | .int n => some n
  | _ => none

def isBool : Json → Bool
  | .bool _ => true
  | _ => false

/-- The documented timestamp: an integer on the item, or else one on the
subscription. -/
def documentedStart (stripeSubscription item : JsonObject) : Option Int :=
  (jsonInt (get item "current_period_start")).or
    (jsonInt (get stripeSubscription "current_period_start"))

/-- The documented input: an id, a single priced item, and a timestamp of the
years 1 to 9999. -/
structure Documented (stripeSubscription : JsonObject) (subscriptionId priceId : String)
    (raw : Int) : Prop where
  id : get stripeSubscription "id" = .str subscriptionId ∧ subscriptionId ≠ ""
  item : ∃ items item price, get stripeSubscription "items" = .obj items ∧
    get items "data" = .arr [.obj item] ∧ get item "price" = .obj price ∧
    get price "id" = .str priceId ∧ priceId ≠ "" ∧
    documentedStart stripeSubscription item = some raw
  range : -62135596800 ≤ raw ∧ raw < 253402300800

/-- The mapper accepts the documented input and nothing else, and computes the
contract start from the documented timestamp. -/
def AcceptsDocumented (stripeSubscription : JsonObject) (tier : Tier)
    (metronomeCustomerId rateCardId : String) : Prop :=
  (∀ subscriptionId priceId raw,
    Documented stripeSubscription subscriptionId priceId raw →
    ∃ startingAtIso, unixToIsoUtc (raw - raw % 3600) = .ok startingAtIso ∧
      stripeSubscriptionToMetronomeContractRequest stripeSubscription tier
        metronomeCustomerId rateCardId =
          .ok (contractBody metronomeCustomerId rateCardId tier subscriptionId priceId
            (raw - raw % 3600) startingAtIso)) ∧
  ((¬∃ subscriptionId priceId raw,
      Documented stripeSubscription subscriptionId priceId raw) →
    ∃ exc, stripeSubscriptionToMetronomeContractRequest stripeSubscription tier
      metronomeCustomerId rateCardId = .error exc)

/-- A boolean stands where the period start is read, and the timestamp it is
taken for, 0 or 1, is not in the hour of the documented one. -/
def readsBoolean (stripeSubscription item : JsonObject) : Bool :=
  match get item "current_period_start" with
  | .int _ => false
  | .bool _ =>
      match jsonInt (get stripeSubscription "current_period_start") with
      | some raw => raw / 3600 ≠ 0
      | none => true
  | _ => isBool (get stripeSubscription "current_period_start")

theorem requireSingleItem_eq_ok_iff {stripeSubscription item : JsonObject}
    {priceId : String} :
    requireSingleItem stripeSubscription = .ok (priceId, item) ↔
      ∃ items price, get stripeSubscription "items" = .obj items ∧
        get items "data" = .arr [.obj item] ∧ get item "price" = .obj price ∧
        asNonEmptyStr (get price "id") = some priceId := by
  refine ⟨requireSingleItem_eq_ok, ?_⟩
  rintro ⟨items, price, hitems, hdata, hprice, hid⟩
  simp only [requireSingleItem, hitems, hdata, hprice]
  exact bind_eq_ok.mpr ⟨priceId, requireStr_eq_ok_iff.mpr hid, rfl⟩

theorem asInt_of_jsonInt {value : Json} (h : isBool value = false) :
    asInt value = jsonInt value := by
  cases value with
  | bool b => cases h
  | _ => rfl

theorem asInt_of_isBool {value : Json} (h : isBool value = true) :
    jsonInt value = none ∧ ∃ raw, asInt value = some raw ∧ raw / 3600 = 0 := by
  cases value with
  | bool b =>
      cases b with
      | true => exact ⟨rfl, 1, rfl, rfl⟩
      | false => exact ⟨rfl, 0, rfl, rfl⟩
  | _ => cases h

/-- Where no boolean is in the way, the mapper selects a timestamp exactly if
one is documented, and one of the same hour. -/
theorem selectedStart_of_not_readsBoolean {stripeSubscription item : JsonObject}
    (h : readsBoolean stripeSubscription item = false) :
    selectedStart stripeSubscription item = documentedStart stripeSubscription item ∨
      ∃ raw raw', selectedStart stripeSubscription item = some raw ∧
        documentedStart stripeSubscription item = some raw' ∧ raw / 3600 =
          raw' / 3600 := by
  unfold selectedStart documentedStart
  cases hb : isBool (get item "current_period_start") with
  | false =>
      rw [asInt_of_jsonInt hb]
      cases hi : jsonInt (get item "current_period_start") with
      | some raw => exact .inl rfl
      | none =>
          have hsub : isBool (get stripeSubscription "current_period_start") = false := by
            unfold readsBoolean at h
            split at h
            · next heq => rw [heq] at hi; cases hi
            · next heq => rw [heq] at hb; cases hb
            · exact h
          rw [asInt_of_jsonInt hsub]
          exact .inl rfl
  | true =>
      obtain ⟨hnone, raw, hraw, hhour⟩ := asInt_of_isBool hb
      rw [hraw, hnone]
      unfold readsBoolean at h
      split at h
      · next heq => rw [heq] at hb; cases hb
      · split at h
        · next raw' heq =>
            rw [heq]
            exact .inr ⟨raw, raw', rfl, rfl,
              hhour.trans (not_not.mp (of_decide_eq_false h)).symm⟩
        · cases h
      · next hbool =>
          cases hvalue : get item "current_period_start" with
          | bool b => exact absurd hvalue (hbool b)
          | _ => rw [hvalue] at hb; cases hb

/-- Where one is, the mapper starts the contract in the first hour of 1970, and
the documented start is another one, if there is any. -/
theorem selectedStart_of_readsBoolean {stripeSubscription item : JsonObject}
    (h : readsBoolean stripeSubscription item = true) :
    ∃ raw, selectedStart stripeSubscription item = some raw ∧ raw / 3600 = 0 ∧
      ∀ raw', documentedStart stripeSubscription item = some raw' → raw' / 3600 ≠ 0 := by
  unfold readsBoolean at h
  unfold selectedStart documentedStart
  split at h
  · cases h
  · next b heq =>
      rw [heq]
      obtain ⟨hnone, raw, hraw, hhour⟩ := @asInt_of_isBool (.bool b) rfl
      rw [hraw, hnone]
      refine ⟨raw, rfl, hhour, fun raw' hdocumented => ?_⟩
      rw [Option.none_or] at hdocumented
      rw [hdocumented] at h
      exact of_decide_eq_true h
  · next hint hbool =>
      obtain ⟨hnone, raw, hraw, hhour⟩ := asInt_of_isBool h
      have hitem : asInt (get item "current_period_start") = none ∧
          jsonInt (get item "current_period_start") = none := by
        cases hvalue : get item "current_period_start" with
        | int n => exact absurd hvalue (hint n)
        | bool b => exact absurd hvalue (hbool b)
        | _ => exact ⟨rfl, rfl⟩
      rw [hitem.1, hitem.2, hraw, hnone]
      exact ⟨raw, rfl, hhour, fun _ h => by cases h⟩

theorem documented_iff {stripeSubscription : JsonObject} {sub price : String}
    {raw : Int} :
    Documented stripeSubscription sub price raw ↔
      asNonEmptyStr (get stripeSubscription "id") = some sub ∧
      (∃ item, requireSingleItem stripeSubscription = .ok (price, item) ∧
        documentedStart stripeSubscription item = some raw) ∧
      -62135596800 ≤ raw ∧ raw < 253402300800 := by
  constructor
  · rintro ⟨hid, ⟨items, item, price', hitems, hdata, hprice, hpid, hne, hstart⟩, hrange⟩
    exact ⟨asNonEmptyStr_eq_some.mpr hid, ⟨item, requireSingleItem_eq_ok_iff.mpr
      ⟨items, price', hitems, hdata, hprice, asNonEmptyStr_eq_some.mpr ⟨hpid, hne⟩⟩,
      hstart⟩, hrange⟩
  · rintro ⟨hid, ⟨item, hitem, hstart⟩, hrange⟩
    obtain ⟨items, price', hitems, hdata, hprice, hpid⟩ := requireSingleItem_eq_ok hitem
    obtain ⟨hpid, hne⟩ := asNonEmptyStr_eq_some.mp hpid
    exact ⟨asNonEmptyStr_eq_some.mp hid,
      ⟨items, item, price', hitems, hdata, hprice, hpid, hne, hstart⟩, hrange⟩

/-- **The mapper accepts the documented input**, exactly when it does not take
a boolean for the timestamp. -/
theorem mapper_accepts (stripeSubscription : JsonObject) (tier : Tier)
    (metronomeCustomerId rateCardId : String) :
    AcceptsDocumented stripeSubscription tier metronomeCustomerId rateCardId ↔
      ∀ subscriptionId priceId item,
        asNonEmptyStr (get stripeSubscription "id") = some subscriptionId →
        requireSingleItem stripeSubscription = .ok (priceId, item) →
        readsBoolean stripeSubscription item = false := by
  constructor
  · rintro ⟨haccepts, hrejects⟩ sub price item hid hitem
    by_contra hreads
    obtain ⟨raw, hraw, hhour, hother⟩ :=
      selectedStart_of_readsBoolean (Bool.eq_true_of_not_eq_false hreads)
    obtain ⟨text, htext⟩ := (@unixToIsoUtc_isOk_iff raw).mpr (by omega)
    have hmapped : stripeSubscriptionToMetronomeContractRequest stripeSubscription tier
        metronomeCustomerId rateCardId =
          .ok (contractBody metronomeCustomerId rateCardId tier
          sub price (raw - raw % 3600) text) :=
      mapper_eq_ok_iff.mpr ⟨sub, price, raw, text, ⟨hid, item, hitem, hraw⟩, htext, rfl⟩
    by_cases hdoc : ∃ sub price raw, Documented stripeSubscription sub price raw
    · obtain ⟨sub', price', raw', hdoc⟩ := hdoc
      obtain ⟨text', htext', hmapped'⟩ := haccepts sub' price' raw' hdoc
      obtain ⟨_, ⟨item', hitem', hraw'⟩, _⟩ := documented_iff.mp hdoc
      rw [hitem] at hitem'
      cases hitem'
      rw [hmapped] at hmapped'
      have hstart : text = text' :=
        congrArg ContractRequest.startingAt (Except.ok.inj hmapped')
      rw [← hstart] at htext'
      have hsame := unixToIsoUtc_inj htext htext'
      have hne := hother raw' hraw'
      omega
    · obtain ⟨exc, hexc⟩ := hrejects hdoc
      rw [hmapped] at hexc
      cases hexc
  · intro hreads
    refine ⟨fun sub price raw hdoc => ?_, fun hdoc => ?_⟩
    · obtain ⟨hid, ⟨item, hitem, hraw⟩, hrange⟩ := documented_iff.mp hdoc
      obtain ⟨raw', hraw', hhour⟩ : ∃ raw',
          selectedStart stripeSubscription item = some raw' ∧ raw' / 3600 =
            raw / 3600 := by
        rcases selectedStart_of_not_readsBoolean (hreads _ _ _ hid hitem) with
          heq | ⟨raw', raw'', hraw', hraw'', hhour⟩
        · exact ⟨raw, heq.trans hraw, rfl⟩
        · rw [hraw] at hraw''
          cases hraw''
          exact ⟨raw', hraw', hhour⟩
      have hfloor : raw' - raw' % 3600 = raw - raw % 3600 := by omega
      obtain ⟨text, htext⟩ := unixToIsoUtc_isOk_iff.mpr hrange
      refine ⟨text, htext, mapper_eq_ok_iff.mpr
        ⟨sub, price, raw', text, ⟨hid, item, hitem, hraw'⟩, hfloor ▸ htext, ?_⟩⟩
      rw [hfloor]
    · cases hmapped : stripeSubscriptionToMetronomeContractRequest stripeSubscription tier
          metronomeCustomerId rateCardId with
      | error exc => exact ⟨exc, rfl⟩
      | ok body =>
          obtain ⟨sub, price, raw, text, ⟨hid, item, hitem, hraw⟩, htext, _⟩ :=
            mapper_eq_ok_iff.mp hmapped
          have hrange := unixToIsoUtc_isOk_iff.mp ⟨text, htext⟩
          refine absurd ?_ hdoc
          rcases selectedStart_of_not_readsBoolean (hreads _ _ _ hid hitem) with
            heq | ⟨raw', raw'', hraw', hraw'', hhour⟩
          · exact ⟨sub, price, raw, documented_iff.mpr
              ⟨hid, ⟨item, hitem, heq ▸ hraw⟩, hrange⟩⟩
          · rw [hraw] at hraw'
            cases hraw'
            exact ⟨sub, price, raw'', documented_iff.mpr
              ⟨hid, ⟨item, hitem, hraw''⟩, by omega, by omega⟩⟩

/-- A subscription whose item holds `true` for the period start. -/
def booleanStart : JsonObject :=
  [("id", .str "sub_1"), ("items", .obj [("data", .arr [.obj [
    ("current_period_start", .bool true),
    ("price", .obj [("id", .str "price_REPLACE_ME_startup")])]])])]

def startupTier : Tier where
  name := "startup"
  creditAmountPerPeriod := 10000000
  metronomeCreditProductId := "REPLACE_ME_startup_credit_product_uuid"
  metronomeCreditTypeId := "REPLACE_ME_credit_type_uuid"
  recurrenceFrequency := .MONTHLY

/-- **A boolean is taken for a timestamp**: the contract starts in 1970. -/
theorem mapper_accepts_booleanStart :
    ¬AcceptsDocumented booleanStart startupTier "m1"
      "11111111-2222-3333-4444-555555555555" := by
  rintro ⟨_, hrejects⟩
  obtain ⟨exc, hexc⟩ := hrejects fun ⟨sub, price, raw, hdoc⟩ => by
    obtain ⟨_, ⟨item, hitem, hstart⟩, _⟩ := documented_iff.mp hdoc
    cases hitem
    cases hstart
  cases hexc

/-! ## The start of a contract -/

/-- **The contract start is the right hour in all three places**: in the text
of the contract, in that of its credit, and at the end of the key. -/
theorem start_is_the_hour {stripeSubscription : JsonObject}
    {sub price : String} {raw : Int} (h : Readable stripeSubscription sub price raw)
    (hrange : -62135596800 ≤ raw ∧ raw < 253402300800) (tier : Tier)
    (metronomeCustomerId rateCardId : String) :
    ∃ body credit start, ∃ (date : Date) (hour : Nat),
      stripeSubscriptionToMetronomeContractRequest stripeSubscription tier
        metronomeCustomerId rateCardId = .ok body ∧
      start ≤ raw ∧ raw < start + 3600 ∧ 3600 ∣ start ∧
      body.recurringCredits = [credit] ∧ credit.startingAt = body.startingAt ∧
      body.uniquenessKey = s!"{sub}_{price}_{start}" ∧
      date.year < 10000 ∧ hour < 24 ∧
      body.startingAt = pad 4 date.year ++ "-" ++ pad 2 date.month ++ "-" ++
        pad 2 date.day ++ "T" ++ pad 2 hour ++ ":00:00+00:00" ∧
      readInstant body.startingAt = some start ∧
      ∀ stripeSubscription' sub' price' raw' tier' metronomeCustomerId' rateCardId' body',
        Readable stripeSubscription' sub' price' raw' →
        stripeSubscriptionToMetronomeContractRequest stripeSubscription' tier'
          metronomeCustomerId' rateCardId' = .ok body' →
        (raw' / 3600 = raw / 3600 → body'.startingAt = body.startingAt) ∧
        (raw / 3600 < raw' / 3600 →
          ∃ start', readInstant body'.startingAt = some start' ∧ start < start') := by
  obtain ⟨text, htext⟩ := unixToIsoUtc_isOk_iff.mpr hrange
  obtain ⟨date, hyear, hiso, hread⟩ := unixToIsoUtc_eq_ok htext
  have hminute : ((raw - raw % 3600) % 86400 / 60 % 60).toNat = 0 := by omega
  have hsecond : ((raw - raw % 3600) % 86400 % 60).toNat = 0 := by omega
  have hpad : pad 2 (0 : Nat) = "00" := by decide
  rw [hminute, hsecond] at hiso
  refine ⟨_, _, raw - raw % 3600, date, ((raw - raw % 3600) % 86400 / 3600).toNat,
    mapper_eq_ok_iff.mpr ⟨sub, price, raw, text, h, htext, rfl⟩, by omega, by omega,
    by omega, rfl, rfl, rfl, hyear, by omega, ?_, hread, ?_⟩
  · show text = _
    rw [hiso, isoText, hpad]
    simp only [String.append_assoc]
    rfl
  · intro stripeSubscription' sub' price' raw' tier' customerId' rateCardId'
      body' h' hmapped
    obtain ⟨_, _, _, text', hreadable, htext', rfl⟩ := mapper_eq_ok_iff.mp hmapped
    obtain ⟨rfl, rfl, rfl⟩ := h'.unique hreadable
    refine ⟨fun hhour => ?_, fun hhour => ?_⟩
    · have hsame : raw' - raw' % 3600 = raw - raw % 3600 := by omega
      rw [hsame, htext] at htext'
      exact (Except.ok.inj htext').symm
    · obtain ⟨_, _, _, hread'⟩ := unixToIsoUtc_eq_ok htext'
      exact ⟨_, hread', by omega⟩

/-- A subscription whose period starts one second before the epoch. -/
def beforeEpoch : JsonObject :=
  [("id", .str "sub_1"), ("current_period_start", .int (-1)),
    ("items", .obj [("data", .arr [.obj [
      ("price", .obj [("id", .str "price_REPLACE_ME_startup")])]])])]

theorem start_is_the_hour_beforeEpoch :
    ∃ body, stripeSubscriptionToMetronomeContractRequest beforeEpoch startupTier "m1"
        "11111111-2222-3333-4444-555555555555" = .ok body ∧
      readInstant body.startingAt = some (-3600) ∧
      body.uniquenessKey = "sub_1_price_REPLACE_ME_startup_-3600" := by
  have hreadable : Readable beforeEpoch "sub_1" "price_REPLACE_ME_startup" (-1) :=
    ⟨rfl, _, rfl, rfl⟩
  obtain ⟨body, _, start, _, _, hmapped, hle, hlt, hdvd, _, _, hkey, _, _, _, hread, _⟩ :=
    start_is_the_hour hreadable (by decide) startupTier "m1"
      "11111111-2222-3333-4444-555555555555"
  obtain rfl : start = -3600 := by omega
  exact ⟨body, hmapped, hread, hkey⟩

/-! ## The key and the request -/

/-- The period start selected from the subscription of an event. -/
def selectedPeriodStart (payload : JsonObject) : Option Int :=
  (dataObject payload).bind fun object =>
    (requireSingleItem object).toOption.bind fun (_, item) => selectedStart object item

theorem extractSinglePriceId_eq_ok_iff {object : JsonObject} {priceId : String} :
    extractSinglePriceId object = .ok priceId ↔
      ∃ item, requireSingleItem object = .ok (priceId, item) := by
  simp only [requireSingleItem_eq_ok_iff]
  constructor
  · intro h
    unfold extractSinglePriceId extractSinglePriceId.noItems at h
    split at h
    · next items hitems =>
        split at h
        · cases h
        · next item hdata =>
            split at h
            · next item =>
                split at h
                · next price hprice =>
                    split at h
                    · next id hid =>
                        cases h
                        exact ⟨item, items, price, hitems, hdata, hprice, hid⟩
                    · cases h
                · cases h
            · cases h
        · cases h
        · cases h
    · cases h
  · rintro ⟨item, items, price, hitems, hdata, hprice, hid⟩
    simp only [extractSinglePriceId, hitems, hdata, hprice, hid]

/-- Everything the subscription handler sends is the mapper's request for what
the payload says. -/
theorem body_of_contract {settings : Settings} {tiers : TierTable} {payload : JsonObject}
    {sub c price mid : String} {tier : Tier} {request : ContractRequest}
    (h : Contract settings tiers payload sub c price tier mid request) :
    ∃ raw startingAtIso, selectedPeriodStart payload = some raw ∧
      unixToIsoUtc (raw - raw % 3600) = .ok startingAtIso ∧
      request = contractBody mid settings.metronomeDefaultRateCardId tier sub price
        (raw - raw % 3600) startingAtIso := by
  obtain ⟨object, hobject, hrequest⟩ := Option.bind_eq_some_iff.mp h.request
  obtain ⟨sub', price', raw, text, ⟨hid, item, hitem, hraw⟩, htext, hbody⟩ :=
    mapper_eq_ok_iff.mp (mapError_eq_ok.mp (toOption_eq_some.mp hrequest))
  have hsub := h.subscription
  have hprice := h.price
  rw [objectId, hobject, Option.bind_some, hid] at hsub
  rw [objectPrice, hobject, Option.bind_some,
    extractSinglePriceId_eq_ok_iff.mpr ⟨item, hitem⟩] at hprice
  cases hsub
  cases hprice
  refine ⟨raw, text, ?_, htext, hbody⟩
  rw [selectedPeriodStart, hobject, Option.bind_some, hitem]
  exact hraw

/-- **The key identifies the request**: it names the subscription, the price
and the hour, and these determine everything else. -/
theorem key_identifies_request {settings : Settings} {tiers : TierTable}
    {payload payload' : JsonObject} {sub sub' c c' price price' mid : String}
    {tier tier' : Tier} {request request' : ContractRequest}
    (h : Contract settings tiers payload sub c price tier mid request)
    (h' : Contract settings tiers payload' sub' c' price' tier' mid request')
    (hsub : IsSubscriptionId sub) (hsub' : IsSubscriptionId sub') :
    ∃ raw raw', selectedPeriodStart payload = some raw ∧
      selectedPeriodStart payload' = some raw' ∧
      (request.uniquenessKey = request'.uniquenessKey ↔
        sub = sub' ∧ price = price' ∧ raw / 3600 = raw' / 3600) ∧
      (request.uniquenessKey = request'.uniquenessKey → request = request') := by
  obtain ⟨raw, text, hraw, htext, hbody⟩ := body_of_contract h
  obtain ⟨raw', text', hraw', htext', hbody'⟩ := body_of_contract h'
  have hkey : request.uniquenessKey = uniquenessKeyOf sub price (raw - raw % 3600) := by
    rw [hbody, contractBody]
  have hkey' : request'.uniquenessKey =
      uniquenessKeyOf sub' price' (raw' - raw' % 3600) := by
    rw [hbody', contractBody]
  have hinj : request.uniquenessKey = request'.uniquenessKey →
      sub = sub' ∧ price = price' ∧ raw - raw % 3600 = raw' - raw' % 3600 := by
    rw [hkey, hkey']
    exact uniquenessKeyOf_inj hsub hsub'
  refine ⟨raw, raw', hraw, hraw', ⟨fun heq => ?_, ?_⟩, fun heq => ?_⟩
  · obtain ⟨hs, hp, hstart⟩ := hinj heq
    exact ⟨hs, hp, by omega⟩
  · rintro ⟨hs, hp, hhour⟩
    have hstart : raw - raw % 3600 = raw' - raw' % 3600 := by omega
    rw [hkey, hkey', hs, hp, hstart]
  · obtain ⟨rfl, rfl, hstart⟩ := hinj heq
    have htier := h.known
    rw [h'.known] at htier
    cases htier
    rw [hstart, htext'] at htext
    cases htext
    rw [hbody, hbody', hstart]

/-- Two deliveries of one subscription that differ in where the period start
stands, in its minute and in the quantity. -/
def subscribedTwice : JsonObject × JsonObject :=
  let price : Json := .obj [("id", .str "price_REPLACE_ME_startup")]
  let event (object : JsonObject) : JsonObject :=
    [("data", .obj [("object", .obj object)])]
  (event [("id", .str "sub_1"), ("customer", .str "cus_1"),
      ("items", .obj [("data", .arr [.obj [
        ("current_period_start", .int 1700000000), ("price", price)]])])],
    event [("id", .str "sub_1"), ("customer", .str "cus_1"),
      ("current_period_start", .int 1700002799),
      ("items", .obj [("data", .arr [.obj [("quantity", .int 2), ("price", price)]])])])

theorem key_identifies_request_subscribedTwice :
    ∃ request request',
      contractRequest defaultSettings subscribedTwice.1 startupTier "m1" = some request ∧
      contractRequest defaultSettings subscribedTwice.2 startupTier "m1" = some request' ∧
      request.uniquenessKey = request'.uniquenessKey ∧ request = request' := by
  have hid : IsSubscriptionId "sub_1" := ⟨"1", rfl, by decide⟩
  obtain ⟨request, hrequest⟩ : ∃ request,
      contractRequest defaultSettings subscribedTwice.1 startupTier "m1" = some request :=
    ⟨_, rfl⟩
  obtain ⟨request', hrequest'⟩ : ∃ request',
      contractRequest defaultSettings subscribedTwice.2 startupTier "m1" =
        some request' :=
    ⟨_, rfl⟩
  have hcontract : Contract defaultSettings TIERS subscribedTwice.1 "sub_1" "cus_1"
      "price_REPLACE_ME_startup" startupTier "m1" request :=
        ⟨rfl, rfl, rfl, rfl, hrequest⟩
  have hcontract' : Contract defaultSettings TIERS subscribedTwice.2 "sub_1" "cus_1"
      "price_REPLACE_ME_startup" startupTier "m1" request' :=
        ⟨rfl, rfl, rfl, rfl, hrequest'⟩
  obtain ⟨_, _, hraw, hraw', hkeys, hsame⟩ :=
    key_identifies_request hcontract hcontract' hid hid
  cases hraw
  cases hraw'
  have hkey := hkeys.mpr ⟨rfl, rfl, rfl⟩
  exact ⟨request, request', hrequest, hrequest', hkey, hsame hkey⟩

/-! ## The two readings of the single item -/

theorem extractSinglePriceId_error {object : JsonObject} {exc : PyExc}
    (h : extractSinglePriceId object = .error exc) :
    ∃ msg, exc = .permanentHandlerError msg := by
  unfold extractSinglePriceId extractSinglePriceId.noItems at h
  split at h
  · split at h
    · cases h; exact ⟨_, rfl⟩
    · split at h
      · split at h
        · split at h
          · cases h
          · cases h; exact ⟨_, rfl⟩
        · cases h; exact ⟨_, rfl⟩
      · cases h; exact ⟨_, rfl⟩
    · cases h; exact ⟨_, rfl⟩
    · cases h; exact ⟨_, rfl⟩
  · cases h; exact ⟨_, rfl⟩

theorem mapperRequireStr_error {value : Json} {fieldPath : String} {exc : PyExc}
    (h : Mappers.requireStr value fieldPath = .error exc) :
    ∃ msg, exc = .valueError msg := by
  unfold Mappers.requireStr at h
  split at h
  · cases h
  · cases h; exact ⟨_, rfl⟩

theorem requireSingleItem_error {object : JsonObject} {exc : PyExc}
    (h : requireSingleItem object = .error exc) : ∃ msg, exc = .valueError msg := by
  unfold requireSingleItem at h
  split at h
  · split at h
    · split at h
      · cases h; exact ⟨_, rfl⟩
      · split at h
        · split at h
          · rcases bind_eq_error.mp h with hstr | ⟨_, _, hret⟩
            · exact mapperRequireStr_error hstr
            · cases hret
          · cases h; exact ⟨_, rfl⟩
        · cases h; exact ⟨_, rfl⟩
      · cases h; exact ⟨_, rfl⟩
    · cases h; exact ⟨_, rfl⟩
  · cases h; exact ⟨_, rfl⟩

/-- What a request or a row of an attempt says about the price: it is the one
that the payload names, and the tier is the one configured for it. -/
def UsesPrice (tiers : TierTable) (payload : JsonObject) : Node Op PyExc Unit → Prop
  | .perform (.send (.createContract body)) =>
      ∃ sub price tier start startingAtIso, objectPrice payload = some price ∧
        tiers.lookup price = some tier ∧
        body.uniquenessKey = uniquenessKeyOf sub price start ∧
        body.recurringCredits = [recurringCreditOf tier startingAtIso] ∧
        body.name = s!"Stripe Subscription {sub} ({tier.name})"
  | .perform (.add (.insertSubscription row)) =>
      ∃ tier, objectPrice payload = some row.currentStripePriceId ∧
        tiers.lookup row.currentStripePriceId = some tier ∧
        row.currentTierName = tier.name
  | _ => True

theorem usesPrice_of_allowed {settings : Settings} {tiers : TierTable}
    {s : Session} {o : Op}
    (h : Allowed settings tiers s o) : UsesPrice tiers s.loaded.payload (.perform o) := by
  cases o with
  | send request =>
      cases h.1 with
      | createContract _ hc _ _ =>
          obtain ⟨raw, text, _, _, hbody⟩ := body_of_contract hc
          exact ⟨_, _, _, _, text, hc.price, hc.known, congrArg _ hbody, congrArg _ hbody,
            congrArg _ hbody⟩
      | _ => trivial
  | add write =>
      cases h.1 with
      | insertSubscription _ hc _ _ hname _ => exact ⟨_, hc.price, hc.known, hname⟩
      | _ => trivial
  | _ => trivial

/-- **The handler and the mapper read the single item alike**, so that the key,
the credit and the name of every contract, and the row that records it, are
about one price. -/
theorem item_readings_agree :
    (∀ object priceId, extractSinglePriceId object = .ok priceId ↔
      ∃ item, requireSingleItem object = .ok (priceId, item)) ∧
    (∀ object, (∃ msg, extractSinglePriceId object =
      .error (.permanentHandlerError msg)) ↔
      ∃ msg, requireSingleItem object = .error (.valueError msg)) ∧
    ∀ settings tiers row, Always semantics (fun _ n => UsesPrice tiers row.payload n)
      (handleEvent settings tiers row) (.start row) := by
  refine ⟨fun _ _ => extractSinglePriceId_eq_ok_iff, fun object => ⟨?_, ?_⟩,
    fun settings tiers row => ?_⟩
  · rintro ⟨msg, hmsg⟩
    cases hitem : requireSingleItem object with
    | error exc =>
        obtain ⟨msg', rfl⟩ := requireSingleItem_error hitem
        exact ⟨msg', rfl⟩
    | ok x =>
        have hok := extractSinglePriceId_eq_ok_iff.mpr ⟨x.2, hitem⟩
        rw [hmsg] at hok
        cases hok
  · rintro ⟨msg, hmsg⟩
    cases hprice : extractSinglePriceId object with
    | error exc =>
        obtain ⟨msg', rfl⟩ := extractSinglePriceId_error hprice
        exact ⟨msg', rfl⟩
    | ok priceId =>
        obtain ⟨item, hitem⟩ := extractSinglePriceId_eq_ok_iff.mp hprice
        rw [hmsg] at hitem
        cases hitem
  · refine (Always.and_local (I := fun s => s.loaded = row) ?_
      (handleEvent_always row) rfl).mono fun s n hn => ?_
    · exact fun o r s _ hs => after_loaded.trans hs
    · obtain ⟨hn, rfl⟩ := hn
      match n with
      | .perform o => exact usesPrice_of_allowed hn
      | .ret _ | .raise _ => trivial

end Sidecar.Ports.Requests
