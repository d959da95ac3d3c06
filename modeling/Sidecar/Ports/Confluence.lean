import Sidecar.Ports.Independence
import Sidecar.Verified.Threads

/-!
# Any order of the events

The worker takes one event after the other, and which one comes next depends on
when the events arrived, when their retries are due and which rows other
workers hold.  What a customer ends up with does not: it depends on the order
of that customer's own events.  A customer with its mapping rows, its Metronome
objects and its events is a thread of every schedule, and so is every event
that is about nobody.

## Main results

* `customerThread` — a customer is a thread.
* `orders_agree` — schedules that agree customer by customer lead to the same.
-/

namespace Sidecar.Ports.Confluence

open Sidecar.Verified.KeyedTable
open Sidecar.Verified.Transition
open Sidecar.Verified.Threads
open Sidecar.Ports.Python
open Sidecar.Ports.Config
open Sidecar.Ports.Models
open Sidecar.Ports.Effects
open Sidecar.Ports.Handlers
open Sidecar.Ports.Worker
open Sidecar.Ports.System
open Sidecar.Ports.Attempt
open Sidecar.Ports.Moves
open Sidecar.Ports.Transactions
open Sidecar.Ports.Invariant
open Sidecar.Ports.Mappings
open Sidecar.Ports.Remote
open Sidecar.Ports.Plans
open Sidecar.Ports.Outcomes
open Sidecar.Ports.Services
open Sidecar.Ports.Solo
open Sidecar.Ports.Footprint
open Sidecar.Ports.Independence

/-! ## Schedules -/

/-- The processing of an event, with what is said to it meanwhile. -/
structure Task where
  timing : Timing
  eventId : String

section Worlds

variable {σ : Service} {env : Env} {base w w' v v' : World σ.metronome}
    {row row' : WebhookEvent}
  {c e : String} {t : Task}

abbrev processes (env : Env) (t : Task) (w w' : World σ.metronome) : Prop :=
  Processed env t.timing t.eventId w w'

/-- The customer that a stored event is about. -/
def concernedIn (w : World σ.metronome) (eventId : String) : Option String :=
  (w.db.webhookEvents.find? eventId).bind concerned

/-- What holds between the tasks of a schedule that began at `base`. -/
structure Sound (env : Env) (base w : World σ.metronome) : Prop where
  inv : WorldInv env w
  own : OwnRows w
  stored : ∀ e row, w.db.webhookEvents.find? e = some row →
    ∃ row₀, base.db.webhookEvents.find? e = some row₀ ∧ SameEvent row₀ row
  subscriber : ∀ sub mapping, w.db.subscriptionMappings.find? sub = some mapping →
    ∀ e row, base.db.webhookEvents.find? e = some row → subscriptionOf row = some sub →
    ∀ c, concerned row = some c → c = mapping.stripeCustomerId

theorem concerned_same (h : SameEvent row row') : concerned row' = concerned row := by
  rw [concerned, concerned, handlerOf_same h, h.2.2.1]

theorem subscriptionOf_same (h : SameEvent row row') :
    subscriptionOf row' = subscriptionOf row := by
  rw [subscriptionOf, subscriptionOf, handlerOf_same h, h.2.2.1]

theorem Sound.concernedIn (h : Sound env base w)
    (hrow : w.db.webhookEvents.find? e = some row) :
    concernedIn base e = concerned row := by
  obtain ⟨row₀, hrow₀, hsame⟩ := h.stored e row hrow
  rw [Confluence.concernedIn, hrow₀, Option.bind_some, concerned_same hsame]

/-- The row of a subscription is the customer's that its events name. -/
theorem Sound.subscriber_of (h : Sound env base w)
    (hrow : v.db.webhookEvents.find? e = some row) (hv : Sound env base v) {sub : String}
    (hsub : subscriptionOf row = some sub) (hc : concerned row = some c)
    {mapping : SubscriptionMapping} (hmapping : w.db.subscriptionMappings.find? sub =
      some mapping) :
    mapping.stripeCustomerId = c := by
  obtain ⟨row₀, hrow₀, hsame⟩ := hv.stored e row hrow
  rw [subscriptionOf_same hsame] at hsub
  rw [concerned_same hsame] at hc
  exact (h.subscriber sub mapping hmapping e row₀ hrow₀ hsub c hc).symm

/-- A row that an attempt leaves was there or has been written. -/
theorem subscription_foldl_source {db : Postgres} {sub : String}
    {mapping : SubscriptionMapping} {ws : List Write}
    (h : (ws.foldl Postgres.apply db).subscriptionMappings.find? sub = some mapping) :
    db.subscriptionMappings.find? sub = some mapping ∨
    .insertSubscription mapping ∈ ws := by
  induction ws generalizing db with
  | nil => exact .inl h
  | cons write ws ih =>
      rcases ih h with hfind | hmem
      · rcases subscription_of_apply (Table.find?_mem hfind) with hmem | rfl
        · exact .inl (Table.find?_key hfind ▸ Table.find?_of_mem hmem)
        · exact .inr List.mem_cons_self
      · exact .inr (List.mem_cons_of_mem _ hmem)

theorem sound_of_path {w₀ : World σ.metronome} (h : Reaches (step env σ.metronome) w₀ w)
    (h₀ : Initial w₀) (hone : OneCustomer w) : Sound env w w := by
  refine ⟨worldInv_of_path h h₀, ownRows_of_path h h₀,
    fun e row hrow => ⟨row, hrow, rfl, rfl, rfl, rfl⟩, ?_⟩
  intro sub mapping hmapping e row hrow hsub c hc
  obtain ⟨e', event, _, hevent, hhandler, _, hid, hcustomer, _⟩ :=
    (mapped_of_path h h₀).subscription sub mapping hmapping
  obtain ⟨hsub', hc'⟩ := subscriptionCreated_about hhandler hid hcustomer
  exact hone e row hrow e' event hevent sub hsub hsub' c _ hc hc'

theorem sound_of_processes (hone : OneCustomer base) (h : Sound env base w)
    (hp : processes env t w w') : Sound env base w' := by
  obtain ⟨hinv, hown⟩ := hp.invariant h.inv h.own
  obtain ⟨row, hrow, hleaves⟩ := processed_leaves h.inv hp
  have hkey : row.stripeEventId = t.eventId := Table.find?_key hrow
  obtain ⟨row₀, hrow₀, hsame₀⟩ := h.stored _ _ hrow
  refine ⟨hinv, hown, fun e row' hrow' => ?_, fun sub mapping hmapping => ?_⟩
  · rw [hleaves.events] at hrow'
    split at hrow'
    · next he =>
        cases hrow'
        rw [← he, hkey]
        have hsame := (@sameEnd_of_work env.settings env.tiers (meets env t.timing w)
          (meets env t.timing w) row rfl rfl rfl).2
        exact ⟨row₀, hrow₀, hsame.1.trans hsame₀.1, hsame.2.1.trans hsame₀.2.1,
          hsame.2.2.1.trans hsame₀.2.2.1, hsame.2.2.2.trans hsame₀.2.2.2⟩
    · exact h.stored e row' hrow'
  · rw [hleaves.subscriptions] at hmapping
    rcases subscription_foldl_source hmapping with hfind | hmem
    · exact h.subscriber sub mapping hfind
    · intro e row' hrow' hsub c hc
      have hsubId : mapping.stripeSubscriptionId = sub := Table.find?_key hmapping
      obtain ⟨hconcerned, hsubscription⟩ := (concerned_work h.own).2 _ hmem
      rw [hsubId] at hsubscription
      rw [concerned_same hsame₀] at hconcerned
      rw [subscriptionOf_same hsame₀] at hsubscription
      exact hone e row' hrow' _ row₀ hrow₀ sub hsub hsubscription c _ hc hconcerned

/-! ## The part of a customer -/

/-- Two worlds in which a customer finds the same. -/
structure SamePart (base : World σ.metronome) (c : String) (w w' : World σ.metronome) :
    Prop where
  customer : w'.db.customerMappings.find? c = w.db.customerMappings.find? c
  contracts : ∀ sub mapping, mapping.stripeCustomerId = c →
    (w'.db.subscriptionMappings.find? sub = some mapping ↔
      w.db.subscriptionMappings.find? sub = some mapping)
  objects : objectsOf w' c = objectsOf w c
  events : ∀ e, concernedIn base e = some c →
    w'.db.webhookEvents.find? e = w.db.webhookEvents.find? e

theorem samePart_equiv (base : World σ.metronome) (c : String) :
    Equivalence (SamePart base c) where
  refl _ := ⟨rfl, fun _ _ _ => Iff.rfl, rfl, fun _ _ => rfl⟩
  symm h := ⟨h.customer.symm, fun sub mapping hc => (h.contracts sub mapping hc).symm,
    h.objects.symm, fun e he => (h.events e he).symm⟩
  trans h h' := ⟨h'.customer.trans h.customer,
    fun sub mapping hc =>
      (h'.contracts sub mapping hc).trans (h.contracts sub mapping hc),
    h'.objects.trans h.objects, fun e he => (h'.events e he).trans (h.events e he)⟩

/-- A world in which no other customer is mapped. -/
def part (w : World σ.metronome) (c : String) : World σ.metronome :=
  { w with db := { w.db with
      customerMappings := w.db.customerMappings.filter fun row => row.stripeCustomerId = c
      subscriptionMappings :=
        w.db.subscriptionMappings.filter fun row => row.stripeCustomerId = c } }

theorem customer_part {customer : CustomerMapping} {c' : String} :
    (part w c).db.customerMappings.find? c' = some customer ↔
      w.db.customerMappings.find? c' = some customer ∧ customer.stripeCustomerId = c := by
  rw [part, Table.find?_filter_eq_some, decide_eq_true_eq]

theorem subscription_part {mapping : SubscriptionMapping} {sub : String} :
    (part w c).db.subscriptionMappings.find? sub = some mapping ↔
      w.db.subscriptionMappings.find? sub = some mapping ∧
      mapping.stripeCustomerId = c := by
  rw [part, Table.find?_filter_eq_some, decide_eq_true_eq]

theorem ownRows_part (h : OwnRows w) (c : String) : OwnRows (part w c) := by
  refine ⟨h.heard, fun c' row hrow => h.customer c' row (customer_part.mp hrow).1,
    fun sub row hrow => h.contract sub row (subscription_part.mp hrow).1,
    fun sub row hrow => ?_⟩
  obtain ⟨hfind, rfl⟩ := subscription_part.mp hrow
  obtain ⟨customer, hcustomer⟩ := h.referential sub row hfind
  exact ⟨customer, customer_part.mpr ⟨hcustomer, Table.find?_key hcustomer⟩⟩

/-- An event of the customer finds the same where no other is mapped. -/
theorem alike_part (hw : Sound env base w) (hv : Sound env base v)
    (h : SamePart base c w v)
    (hrow : w.db.webhookEvents.find? e = some row) (hc : concerned row = some c) :
    Alike row (part w c) v where
  customer c' hc' := by
    cases hc.symm.trans hc'
    rw [h.customer]
    refine Option.ext fun customer => ?_
    rw [customer_part]
    exact ⟨fun hfind => ⟨hfind, Table.find?_key hfind⟩, fun hfind => hfind.1⟩
  subscription sub hsub := by
    refine Option.ext fun mapping => ?_
    rw [subscription_part]
    constructor
    · intro hfind
      have howner := hv.subscriber_of hrow hw hsub hc hfind
      exact ⟨(h.contracts sub mapping howner).mp hfind, howner⟩
    · rintro ⟨hfind, howner⟩
      exact (h.contracts sub mapping howner).mpr hfind
  contracts c' hc' sub mapping hmapping := by
    cases hc.symm.trans hc'
    rw [subscription_part, h.contracts sub mapping hmapping]
    exact ⟨fun hfind => ⟨hfind, hmapping⟩, fun hfind => hfind.1⟩
  stays c' customer hfind := by
    obtain ⟨hfind, howner⟩ := customer_part.mp hfind
    cases (Table.find?_key hfind).symm.trans howner
    exact ⟨customer, h.customer.trans hfind, rfl⟩
  objects c' hc' := by
    cases hc.symm.trans hc'
    exact h.objects

/-- **Attempts on an event end in the same way** where its customer finds the
same. -/
theorem sameEnd_of_samePart (hw : Sound env base w) (hv : Sound env base v)
    (h : SamePart base c w v) (hrow : w.db.webhookEvents.find? e = some row)
    (hc : concerned row = some c) (timing : Timing) :
    SameEnd row ((meets env timing w).attempt env.settings env.tiers row)
      ((meets env timing v).attempt env.settings env.tiers row) := by
  have hpart := ownRows_part hw.own c
  have hleft := @sameEnd_of_alike σ env (part w c) w timing row
    (alike_part hw hw ((samePart_equiv base c).refl w) hrow hc) hpart hw.own
  have hright := @sameEnd_of_alike σ env (part w c) v timing row
    (alike_part hw hv h hrow hc) hpart hv.own
  exact ⟨hright.calls.trans hleft.calls.symm, hright.writes.trans hleft.writes.symm,
    hright.event.trans hleft.event.symm⟩

/-- The other events leave a customer alone. -/
theorem samePart_of_other (hw : Sound env base w) (hp : processes env t w w')
    (hother : concernedIn base t.eventId ≠ some c) : SamePart base c w w' := by
  obtain ⟨row, hrow, hleaves⟩ := processed_leaves hw.inv hp
  have hc : concerned row ≠ some c := fun h => hother ((hw.concernedIn hrow).trans h)
  have halone := leftAlone_of_leaves hw.own hleaves
  refine ⟨halone.customer c hc, fun sub mapping hmapping => ?_, halone.objects c hc,
    fun e he => ?_⟩
  · exact halone.contracts sub mapping (hmapping ▸ hc)
  · rw [hleaves.events, if_neg]
    rintro rfl
    rw [Table.find?_key hrow] at he
    exact hother he

/-- What an event of a customer makes of it is determined by it. -/
theorem samePart_of_own (hw : Sound env base w) (hv : Sound env base v)
    (hown : concernedIn base t.eventId = some c) (h : SamePart base c w v)
    (hp : processes env t w w') (hp' : processes env t v v') : SamePart base c w' v' := by
  obtain ⟨row, hrow, hleaves⟩ := processed_leaves hw.inv hp
  obtain ⟨row', hrow', hleaves'⟩ := processed_leaves hv.inv hp'
  rw [h.events _ hown, hrow] at hrow'
  cases hrow'
  have hc : concerned row = some c := (hw.concernedIn hrow).symm.trans hown
  have hsame := sameEnd_of_samePart hw hv h hrow hc t.timing
  have hwrites :
    ∀ write ∈ writesOf ((meets env t.timing w).attempt env.settings env.tiers row),
      Concerns row write := (concerned_work hw.own).2
  refine ⟨?_, fun sub mapping hmapping => ?_, ?_, fun e he => ?_⟩
  · rw [hleaves'.customers c, hleaves.customers c, hsame.writes]
    exact customer_foldl_congr _ h.customer
  · rw [hleaves'.subscriptions sub, hleaves.subscriptions sub, hsame.writes]
    by_cases hsub : subscriptionOf row = some sub
    · have hfind :=
        (alike_part hw hw ((samePart_equiv base c).refl w) hrow hc).subscription
        sub hsub
      have hfind' := (alike_part hw hv h hrow hc).subscription sub hsub
      rw [subscription_foldl_congr _ (hfind'.trans hfind.symm)]
    · rw [subscription_foldl_other hwrites hsub, subscription_foldl_other hwrites hsub]
      exact h.contracts sub mapping hmapping
  · rw [hleaves'.objects, hleaves.objects, hsame.calls]
    exact after_congr h.objects _
  · rw [hleaves'.events e, hleaves.events e, hsame.event, h.events e he]

/-- **A customer is a thread**, with its mapping rows, its Metronome objects and
its events. -/
def customerThread (hone : OneCustomer base) (c : String) :
    Thread (processes env) (Sound env base) where
  own t := concernedIn base t.eventId = some c
  Same := SamePart base c
  equiv := samePart_equiv base c
  invariant _ _ _ h hp := sound_of_processes hone h hp
  other _ _ _ hw hp hown := samePart_of_other hw hp (of_decide_eq_false hown)
  step _ _ _ _ _ hw hv hown h hp hp' :=
    samePart_of_own hw hv (of_decide_eq_true hown) h hp hp'

/-! ## Events about nobody -/

/-- The decision on an event about nobody depends on nothing. -/
theorem decision_of_nobody {settings : Settings} {tiers : TierTable} (ρ ρ' : Surroundings)
    (h : concerned row = none) :
    decision settings tiers ρ' row = decision settings tiers ρ row := by
  unfold concerned at h
  unfold decision
  cases hh : handlerOf row with
  | none => rfl
  | some handler =>
      rw [hh] at h
      cases handler with
      | customerCreated | customerUpdated =>
          refine customerPlan_agree _ fun c hc => ?_
          cases h.symm.trans hc
      | subscriptionCreated =>
          unfold plan subscriptionPlan
          refine bind_congr_of_ok fun object hobject => bind_congr_of_ok fun sub hsub =>
            bind_congr_of_ok fun c hc => ?_
          have hcustomer : objectCustomer row.payload = some c := by
            rw [objectCustomer, extractObject_eq_ok_iff.mp hobject]
            exact Plans.requireStr_eq_ok_iff.mp hc
          cases h.symm.trans hcustomer
      | subscriptionUpdated => rfl
      | subscriptionDeleted => rfl

theorem sameEnd_of_nobody (h : concerned row = none) (timing : Timing) :
    SameEnd row ((meets env timing w).attempt env.settings env.tiers row)
      ((meets env timing v).attempt env.settings env.tiers row) := by
  refine (@sameEnd_of_work env.settings env.tiers (meets env timing w)
    (meets env timing v) row
    rfl rfl ?_).1
  rw [decision_of_nobody (meets env timing w) (meets env timing v) h]
  rcases hd : decision env.settings env.tiers (meets env timing w) row with
    exc | _ | result | call
  · rfl
  · rfl
  · rfl
  · cases h.symm.trans (concerned_of_decision hd)

/-- **An event about nobody is a thread** of its own. -/
def eventThread (hone : OneCustomer base) (e : String)
    (hnobody : concernedIn base e = none) :
    Thread (processes env) (Sound env base) where
  own t := t.eventId = e
  Same w w' := w'.db.webhookEvents.find? e = w.db.webhookEvents.find? e
  equiv := ⟨fun _ => rfl, Eq.symm, fun h h' => h'.trans h⟩
  invariant _ _ _ h hp := sound_of_processes hone h hp
  other t w w' hw hp hown := by
    obtain ⟨row, hrow, hleaves⟩ := processed_leaves hw.inv hp
    rw [hleaves.events, if_neg]
    rw [Table.find?_key hrow]
    exact of_decide_eq_false hown
  step t w w' v v' hw hv hown h hp hp' := by
    obtain ⟨row, hrow, hleaves⟩ := processed_leaves hw.inv hp
    obtain ⟨row', hrow', hleaves'⟩ := processed_leaves hv.inv hp'
    have he : t.eventId = e := of_decide_eq_true hown
    rw [he, h, ← he, hrow] at hrow'
    cases hrow'
    have hc : concerned row = none := by rw [← hw.concernedIn hrow, he, hnobody]
    rw [hleaves'.events e, hleaves.events e, (sameEnd_of_nobody hc t.timing).event, h]

/-! ## Orders -/

variable {w₀ : World σ.metronome} {l l' : List Task}

/-- The tasks of a customer. -/
def tasksOf (w : World σ.metronome) (c : String) (l : List Task) : List Task :=
  l.filter fun t => concernedIn w t.eventId = some c

/-- **Orders that agree customer by customer agree**: what becomes of a
customer depends on the order of that customer's own events, so that any two
orders in which no customer's events change places leave the same rows and the
same Metronome objects.  A task brings its `Timing` with it: each event is
processed at the same times, with the same draws, in both orders. -/
theorem orders_agree (h : Reaches (step env σ.metronome) w₀ w) (h₀ : Initial w₀)
    (hone : OneCustomer w) (hl : Schedule (processes env) l w v)
    (hl' : Schedule (processes env) l' w v') :
    (∀ c, tasksOf w c l = tasksOf w c l' → SamePart w c v v') ∧
      ((∀ c, tasksOf w c l = tasksOf w c l') →
        (∀ e, concernedIn w e = none →
          l.filter (fun t => t.eventId = e) = l'.filter fun t => t.eventId = e) →
        SameRows v.db v'.db ∧ objectsOf v = objectsOf v') := by
  have hsound : Sound env w w := sound_of_path h h₀ hone
  have hparts : ∀ c, tasksOf w c l = tasksOf w c l' → SamePart w c v v' := fun c hc =>
    (customerThread hone c).same_of_filter_eq hl hl' hsound hsound
      ((samePart_equiv w c).refl w) hc
  refine ⟨hparts, fun hcustomers hevents => ?_⟩
  have hall := fun c => hparts c (hcustomers c)
  refine ⟨⟨fun e => ?_, fun c => (hall c).customer.symm, fun sub => ?_⟩,
    funext fun c => (hall c).objects.symm⟩
  · cases he : concernedIn w e with
    | some c => exact ((hall c).events e he).symm
    | none =>
        exact ((eventThread hone e he).same_of_filter_eq hl hl' hsound hsound rfl
          (hevents e he)).symm
  · refine Option.ext fun mapping => ?_
    exact ((hall mapping.stripeCustomerId).contracts sub mapping rfl).symm

/-- Ready events can be processed in any order while no worker is at work. -/
theorem schedule_exists (hinv : WorldInv env w) (hown : OwnRows w) (hquiet : Quiet w)
    (hdistinct : (l.map Task.eventId).Nodup)
    (hready : ∀ t ∈ l, t.timing.Fair ∧ ∃ row,
      w.db.webhookEvents.find? t.eventId = some row ∧
      Postgres.ready t.timing.claimedAt row = true) :
    ∃ v, Schedule (processes env) l w v := by
  induction l generalizing w with
  | nil => exact ⟨w, .nil⟩
  | cons t ts ih =>
      obtain ⟨hnew, hdistinct⟩ := List.nodup_cons.mp hdistinct
      obtain ⟨hfair, row, hrow, hrowReady⟩ := hready t List.mem_cons_self
      obtain ⟨w', hp, hquiet'⟩ := processed_exists 0 hinv hquiet hfair hrow hrowReady
      obtain ⟨hinv', hown'⟩ := hp.invariant hinv hown
      obtain ⟨_, hfind, hleaves⟩ := processed_leaves hinv hp
      obtain ⟨v, hv⟩ := ih hinv' hown' hquiet' hdistinct fun t' ht' => by
        obtain ⟨hfair', row', hrow', hready'⟩ := hready t' (List.mem_cons_of_mem _ ht')
        refine ⟨hfair', row', ?_, hready'⟩
        rw [hleaves.events, if_neg, hrow']
        rw [Table.find?_key hfind]
        exact fun heq => hnew (heq ▸ List.mem_map_of_mem ht')
      exact ⟨v, .cons hp hv⟩

end Worlds

/-! ## Two customers, one of whom subscribes -/

def deeCreated : Delivery := customerDelivery "evt_3" "customer.created" 3 "cus_2" "Dee"

/-- Two customers have been created in Stripe and one has subscribed; no event
has been processed. -/
noncomputable def adaAndDee : World ledger.metronome :=
  (runWhen (step (installation [adaCreated, adaSubscribed, deeCreated]) _)
    (fun _ label => match label with
      | .webhook _ => true
      | _ => false) emptyLedger
    [.webhook adaCreated.request, .webhook adaSubscribed.request,
      .webhook deeCreated.request]).getD emptyLedger

theorem adaAndDee_spec :
    Reaches (step (installation [adaCreated, adaSubscribed, deeCreated]) _)
      emptyLedger adaAndDee ∧ Quiet adaAndDee := by
  have hpath :
      Path (step (installation [adaCreated, adaSubscribed, deeCreated]) ledger.metronome)
        (fun _ label => ∃ request, label = .webhook request) emptyLedger adaAndDee := by
    refine path_runWhen_getD (fun _ label hlabel => ?_) _ _
    cases label with
    | webhook request => exact ⟨request, rfl⟩
    | _ => cases hlabel
  refine ⟨hpath.reaches, hpath.invariant (I := Quiet) ?_ fun _ => rfl⟩
  intro x label y hc hx hy
  obtain ⟨request, rfl⟩ := hc
  cases step_sound hy with
  | ignored _ => exact hx
  | received _ _ => exact hx

theorem adaAndDee_rows : adaAndDee.db.webhookEvents.rows.map (fun row =>
    (row.stripeEventId, concerned row, subscriptionOf row, Postgres.ready 2 row)) =
      [("evt_1", some "cus_1", none, true), ("evt_2", some "cus_1", some "sub_1", true),
        ("evt_3", some "cus_2", none, true)] := by decide +kernel

theorem adaAndDee_find {eventId c : String} {sub : Option String}
    (h : (eventId, some c, sub, true) ∈ adaAndDee.db.webhookEvents.rows.map fun row =>
      (row.stripeEventId, concerned row, subscriptionOf row, Postgres.ready 2 row)) :
    concernedIn adaAndDee eventId = some c ∧
      ∃ row, adaAndDee.db.webhookEvents.find? eventId = some row ∧
        Postgres.ready 2 row = true := by
  obtain ⟨row, hmem, heq⟩ := List.mem_map.mp h
  simp only [Prod.mk.injEq] at heq
  obtain ⟨rfl, hc, _, hready⟩ := heq
  have hfind := Table.find?_of_mem hmem
  rw [concernedIn, hfind]
  exact ⟨hc, row, rfl, hready⟩

theorem oneCustomer_adaAndDee : OneCustomer adaAndDee := by
  have hada : ∀ e row, adaAndDee.db.webhookEvents.find? e = some row →
      ∀ sub, subscriptionOf row = some sub → concerned row = some "cus_1" := by
    intro e row hrow sub hsub
    have hmem := List.mem_map_of_mem (f := fun row => (row.stripeEventId, concerned row,
      subscriptionOf row, Postgres.ready 2 row)) (Table.find?_mem hrow)
    rw [adaAndDee_rows] at hmem
    simp only [hsub, List.mem_cons, Prod.mk.injEq, List.not_mem_nil, or_false,
      reduceCtorEq, false_and, and_false, false_or] at hmem
    exact hmem.2.1
  intro e row hrow e' row' hrow' sub hsub hsub' c c' hc hc'
  rw [hada e row hrow sub hsub] at hc
  rw [hada e' row' hrow' sub hsub'] at hc'
  exact Option.some.inj (hc.symm.trans hc')

/-- The other customer's event between the two, and after them. -/
theorem orders_agree_adaAndDee :
    ∃ v v', Schedule (processes (installation [adaCreated, adaSubscribed, deeCreated]))
        [⟨twoSeconds, "evt_1"⟩, ⟨twoSeconds, "evt_3"⟩, ⟨twoSeconds, "evt_2"⟩]
          adaAndDee v ∧
      Schedule (processes (installation [adaCreated, adaSubscribed, deeCreated]))
        [⟨twoSeconds, "evt_1"⟩, ⟨twoSeconds, "evt_2"⟩, ⟨twoSeconds, "evt_3"⟩]
          adaAndDee v' ∧
      SameRows v.db v'.db ∧ objectsOf v = objectsOf v' := by
  obtain ⟨hreaches, hquiet⟩ := adaAndDee_spec
  have hinitial : Initial emptyLedger := ⟨rfl, fun _ => rfl, rfl, rfl⟩
  have hinv := worldInv_of_path hreaches hinitial
  have hown := ownRows_of_path hreaches hinitial
  obtain ⟨hc₁, hready₁⟩ : concernedIn adaAndDee "evt_1" = some "cus_1" ∧ _ :=
    adaAndDee_find (by rw [adaAndDee_rows]; exact List.mem_cons_self)
  obtain ⟨hc₂, hready₂⟩ : concernedIn adaAndDee "evt_2" = some "cus_1" ∧ _ :=
    adaAndDee_find
      (by rw [adaAndDee_rows]; exact List.mem_cons_of_mem _ List.mem_cons_self)
  obtain ⟨hc₃, hready₃⟩ : concernedIn adaAndDee "evt_3" = some "cus_2" ∧ _ :=
    adaAndDee_find (by rw [adaAndDee_rows]; exact List.mem_of_getLast? rfl)
  have hready : ∀ e ∈ ["evt_1", "evt_2", "evt_3"],
      ∃ row, adaAndDee.db.webhookEvents.find? e = some row ∧
      Postgres.ready 2 row = true := by
    intro e he
    simp only [List.mem_cons, List.not_mem_nil, or_false] at he
    rcases he with rfl | rfl | rfl
    · exact hready₁
    · exact hready₂
    · exact hready₃
  have hexists : ∀ ids : List String, ids.Nodup → ids ⊆ ["evt_1", "evt_2", "evt_3"] →
      ∃ v, Schedule (processes (installation [adaCreated, adaSubscribed, deeCreated]))
        (ids.map (Task.mk twoSeconds)) adaAndDee v := by
    intro ids hdistinct hids
    refine schedule_exists hinv hown hquiet ?_ fun t ht => ?_
    · rw [List.map_map]
      exact (List.map_id ids).symm ▸ hdistinct
    · obtain ⟨e, he, rfl⟩ := List.mem_map.mp ht
      exact ⟨fair_twoSeconds, hready e (hids he)⟩
  obtain ⟨v, hv⟩ := hexists ["evt_1", "evt_3", "evt_2"] (by decide) (by simp)
  obtain ⟨v', hv'⟩ := hexists ["evt_1", "evt_2", "evt_3"] (by decide) (by simp)
  refine ⟨v, v', hv, hv',
    (orders_agree hreaches hinitial oneCustomer_adaAndDee hv hv').2 ?_ ?_⟩
  · intro c
    by_cases hc : c = "cus_1"
    · subst hc
      simp [tasksOf, hc₁, hc₂, hc₃]
    · simp [tasksOf, List.filter_cons, hc₁, hc₂, hc₃, Ne.symm hc]
  · intro e he
    have hne : ∀ e' c, concernedIn adaAndDee e' = some c → e' ≠ e := fun e' c hc heq => by
      cases (heq ▸ hc).symm.trans he
    simp [hne _ _ hc₁, hne _ _ hc₂, hne _ _ hc₃]

end Sidecar.Ports.Confluence
