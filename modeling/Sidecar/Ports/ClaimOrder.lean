import Sidecar.Ports.Waiting

/-!
# The order in which events are claimed

The claim query orders the ready events by `received_at` and takes the first
one it can lock.  Between the query's snapshot and the lock other workers go
on, so the event it takes need not be the oldest; but an older one is passed
over for a reason.

## Main results

* `sameEvent_of_path` — rows stay, with the columns that identify the event.
* `scan_passed` — the candidates a scan has tried were unavailable when it
  tried them.
* `claims_oldest` — no ready event is overtaken unless it was locked, or no
  longer ready, at some instant of the scan.
-/

namespace Sidecar.Ports.ClaimOrder

open Sidecar.Verified.KeyedTable
open Sidecar.Verified.Transition
open Sidecar.Ports.Python
open Sidecar.Ports.Models
open Sidecar.Ports.Models.Postgres
open Sidecar.Ports.Effects
open Sidecar.Ports.System
open Sidecar.Ports.Moves
open Sidecar.Ports.Transactions
open Sidecar.Ports.Invariant
open Sidecar.Ports.Remote
open Sidecar.Ports.Waiting

variable {env : Env} {M : Metronome} {w w' x : World M} {i : WorkerId} {now : Time}

/-! ## Rows stay -/

theorem sameEvent_refl (row : WebhookEvent) : SameEvent row row := ⟨rfl, rfl, rfl, rfl⟩

theorem sameEvent_trans {a b c : WebhookEvent} (h : SameEvent a b) (h' : SameEvent b c) :
    SameEvent a c :=
  ⟨h'.1.trans h.1, h'.2.1.trans h.2.1, h'.2.2.1.trans h.2.2.1, h'.2.2.2.trans h.2.2.2⟩

/-- No step drops a row or changes what identifies its event. -/
theorem sameEvent_move {label : Label M} {eventId : String} {row : WebhookEvent}
    (hm : TableMove env w label w') (h : w.db.webhookEvents.find? eventId = some row) :
    ∃ row', w'.db.webhookEvents.find? eventId = some row' ∧ SameEvent row row' := by
  cases hm with
  | untouched _ he _ _ _ => exact ⟨row, he ▸ h, sameEvent_refl row⟩
  | insert _ he _ _ =>
      exact ⟨row, he ▸ Table.find?_insertNew_of_some h, sameEvent_refl row⟩
  | @replay w' old hold _ he _ _ =>
      by_cases hkey : old.stripeEventId = eventId
      · subst hkey
        rw [hold, Option.some.injEq] at h
        subst h
        refine ⟨replayed w.now old, ?_, ⟨rfl, rfl, rfl, rfl⟩⟩
        rw [he]
        exact Table.find?_update_self hold
      · have hkey : (replayed w.now old).stripeEventId ≠ eventId := hkey
        refine ⟨row, ?_, sameEvent_refl row⟩
        rw [he, Table.find?_update_ne hkey]
        exact h
  | @commit i w' s _ hcom _ he _ _ _ =>
      by_cases hkey : s.event.stripeEventId = eventId
      · subst hkey
        rw [hcom.row, Option.some.injEq] at h
        subst h
        refine ⟨s.event, ?_, hcom.same⟩
        rw [he]
        exact Table.find?_update_self hcom.row
      · refine ⟨row, ?_, sameEvent_refl row⟩
        rw [he, Table.find?_update_ne hkey]
        exact h

/-- Nor does a run. -/
theorem sameEvent_of_path {C : World M → Label M → Prop} {eventId : String}
    {row : WebhookEvent} (h : Path (step env M) C w w') (hinv : WorldInv env w)
    (hrow : w.db.webhookEvents.find? eventId = some row) :
    ∃ row', w'.db.webhookEvents.find? eventId = some row' ∧ SameEvent row row' := by
  refine (h.invariant (I := fun x => WorldInv env x ∧
    ∃ row', x.db.webhookEvents.find? eventId = some row' ∧ SameEvent row row') ?_
    ⟨hinv, row, hrow, sameEvent_refl row⟩).2
  rintro x label y _ ⟨hx, row', hrow', hsame⟩ hs
  have hm := step_sound hs
  obtain ⟨row'', hrow'', hsame'⟩ := sameEvent_move (tableMove hx hm) hrow'
  exact ⟨worldInv_move hx hm, row'', hrow'', sameEvent_trans hsame hsame'⟩

/-! ## One scan -/

/-- Worker `i` runs its claim query of the instant `now`. -/
def Scanning (i : WorkerId) (now : Time) (x : World M) : Prop :=
  ∃ rest, x.workers i = .scanning now rest

/-- A run during which worker `i` goes on scanning. -/
abbrev During (env : Env) (i : WorkerId) (now : Time) (w x : World M) : Prop :=
  Path (step env M) (fun y _ => Scanning i now y) w x

/-- The event is not to be had: another transaction has locked its row, or it
is no longer ready. -/
def Unavailable (i : WorkerId) (now : Time) (db : Postgres) (eventId : String) : Prop :=
  (∃ j, j ≠ i ∧ db.locks eventId = some j) ∨
    ∃ row, db.webhookEvents.find? eventId = some row ∧ ready now row = false

/-- At some instant of the run from `w` to `x` the event was not to be had. -/
def Passed (env : Env) (i : WorkerId) (now : Time) (w x : World M) (eventId : String) :
    Prop :=
  ∃ y, During env i now w y ∧ During env i now y x ∧ Unavailable i now y.db eventId

theorem Passed.snoc {y : World M} {label : Label M} {eventId : String}
    (h : Passed env i now w x eventId) (hx : Scanning i now x)
    (hs : step env M x label = some y) : Passed env i now w y eventId := by
  obtain ⟨z, hwz, hzx, hz⟩ := h
  exact ⟨z, hwz, hzx.snoc hx hs, hz⟩

/-- `FOR UPDATE SKIP LOCKED` passes over what is not to be had. -/
theorem unavailable_of_lockable {eventId : String} {row : WebhookEvent}
    (hinv : WorldInv env x) (hx : Scanning i now x)
    (hrow : x.db.webhookEvents.find? eventId = some row)
    (h : x.db.lockable now eventId = none) : Unavailable i now x.db eventId := by
  cases hl : x.db.locks eventId with
  | some j =>
      refine .inl ⟨j, ?_, hl⟩
      rintro rfl
      obtain ⟨rest, hphase⟩ := hx
      have hworker := hinv.workers j
      rw [hphase] at hworker
      exact hworker.1 eventId hl
  | none =>
      refine .inr ⟨row, hrow, Bool.eq_false_of_not_eq_true fun hready => ?_⟩
      rw [lockable, if_pos hl, hrow, Option.filter_some, if_pos hready] at h
      cases h

/-- **What a scan has tried was not to be had when it tried it.** -/
theorem scan_passed {candidates : List String} (hinv : WorldInv env w)
    (hw : w.workers i = .scanning now candidates)
    (hrows : ∀ e ∈ candidates, ∃ row, w.db.webhookEvents.find? e = some row)
    (h : During env i now w x) (hx : Scanning i now x) :
    ∃ tried rest, candidates = tried ++ rest ∧ x.workers i = .scanning now rest ∧
      ∀ e ∈ tried, Passed env i now w x e := by
  induction h with
  | refl => exact ⟨[], candidates, rfl, hw, fun e he => by cases he⟩
  | @snoc y z label hpath hy hs ih =>
      obtain ⟨tried, rest, hsplit, hphase, htried⟩ := ih hy
      have hm := step_sound hs
      have hkeep : ∀ e ∈ tried, Passed env i now w z e := fun e he =>
        (htried e he).snoc hy hs
      by_cases hmover : mover label = some i
      · obtain ⟨rest', hz⟩ := hx
        cases hm with
        | selected hidle =>
            cases hmover
            rw [hphase] at hidle
            cases hidle
        | exhausted _ =>
            cases hmover
            have := hz.symm.trans (Function.update_self ..)
            cases this
        | @passed j now' eventId left hj hl =>
            cases hmover
            rw [hphase] at hj
            cases hj
            have hmem : eventId ∈ candidates := by
              rw [hsplit]
              exact List.mem_append_right _ List.mem_cons_self
            obtain ⟨row, hrow⟩ := hrows eventId hmem
            obtain ⟨row', hrow', _⟩ := sameEvent_of_path hpath hinv hrow
            have hyinv : WorldInv env y :=
              hpath.invariant (fun _ _ _ _ hx hs => worldInv_move hx (step_sound hs)) hinv
            have hpassed :
              Passed env i now w (y.setPhase i (.scanning now left)) eventId :=
              ⟨y, hpath, .snoc .refl hy hs, unavailable_of_lockable hyinv hy hrow' hl⟩
            refine ⟨tried ++ [eventId], left, ?_, Function.update_self .., fun e he => ?_⟩
            · rw [hsplit, List.append_assoc]
              rfl
            · rcases List.mem_append.mp he with he | he
              · exact hkeep e he
              · rw [List.mem_singleton.mp he]
                exact hpassed
        | claimed _ _ _ _ _ =>
            cases hmover
            have := hz.symm.trans (Function.update_self ..)
            cases this
        | performed hj _ =>
            cases hmover
            rw [hphase] at hj
            cases hj
        | committed hj _ _ =>
            cases hmover
            rw [hphase] at hj
            cases hj
        | undone hj _ _ =>
            cases hmover
            rw [hphase] at hj
            cases hj
        | crashed _ =>
            cases hmover
            have := hz.symm.trans (Function.update_self ..)
            cases this
        | _ => cases hmover
      · exact ⟨tried, rest, hsplit, (workers_move hm hmover).trans hphase, hkeep⟩

/-! ## The order of the candidates -/

/-- The candidates are the ready rows in the order in which they came. -/
theorem candidates_eq (db : Postgres) (now : Time) :
    ∃ rows : List WebhookEvent, db.candidates now = rows.map (·.stripeEventId) ∧
      (∀ row, row ∈ rows ↔ row ∈ db.webhookEvents.rows ∧ ready now row = true) ∧
      rows.Pairwise fun a b => a.receivedAt ≤ b.receivedAt := by
  have htotal : Std.Total fun a b : WebhookEvent => a.receivedAt ≤ b.receivedAt :=
    ⟨fun a b => Rat.le_total⟩
  have htrans : IsTrans WebhookEvent fun a b => a.receivedAt ≤ b.receivedAt :=
    ⟨fun _ _ _ => Rat.le_trans⟩
  refine ⟨_, rfl, fun row => ?_, List.pairwise_insertionSort _ _⟩
  rw [List.mem_insertionSort, List.mem_filter]

/-- An event that comes after another one in the list is no older. -/
theorem received_le_of_split {db : Postgres} {tried rest : List String} {eventId : String}
    {row : WebhookEvent} (h : db.candidates now = tried ++ eventId :: rest)
    (hrow : row ∈ db.webhookEvents.rows) (hready : ready now row = true) :
    row.stripeEventId ∈ tried ∨ ∃ first, db.webhookEvents.find? eventId = some first ∧
      first.receivedAt ≤ row.receivedAt := by
  obtain ⟨rows, hrows, hmem, hsorted⟩ := candidates_eq db now
  rw [hrows] at h
  obtain ⟨before, after, rfl, hbefore, hafter⟩ := List.map_eq_append_iff.mp h
  obtain ⟨first, last, rfl, rfl, _⟩ := List.map_eq_cons_iff.mp hafter
  have hfirst : db.webhookEvents.find? first.stripeEventId = some first :=
    Table.find?_of_mem ((hmem first).mp (by simp)).1
  rcases List.mem_append.mp ((hmem row).mpr ⟨hrow, hready⟩) with hin | hin
  · exact .inl (hbefore ▸ List.mem_map_of_mem hin)
  · refine .inr ⟨first, hfirst, ?_⟩
    rcases List.mem_cons.mp hin with rfl | hin
    · exact Rat.le_refl
    · exact List.rel_of_pairwise_cons (List.pairwise_append.mp hsorted).2.1 hin

/-! ## What a claim passes over -/

/-- **Events are claimed oldest first**: when a scan ends, an event that was
ready when it began has not been overtaken, unless it was not to be had at some
instant of the scan. -/
theorem claims_oldest {w₀ w₁ w₂ w₃ : World M} (h : Reaches (step env M) w₀ w)
    (h₀ : Initial w₀) (hselect : step env M w (.select i) = some w₁)
    (hscan : During env i w.now w₁ w₂) (hscanning : Scanning i w.now w₂)
    (hlock : step env M w₂ (.lock i) = some w₃) (hend : ¬ Scanning i w.now w₃)
    {row : WebhookEvent} (hrow : row ∈ w.db.webhookEvents.rows)
    (hready : ready w.now row = true) :
    (∃ s p, w₃.workers i = .running s p ∧ s.loaded.receivedAt ≤ row.receivedAt) ∨
      Passed env i w.now w₁ w₂ row.stripeEventId := by
  have hinv : WorldInv env w := worldInv_of_path h h₀
  have hselected := step_sound hselect
  have hinv₁ : WorldInv env w₁ := worldInv_move hinv hselected
  have hw₁ : w₁.workers i = .scanning w.now (w.db.candidates w.now) ∧ w₁.db = w.db := by
    cases hselected with
    | selected _ => exact ⟨Function.update_self .., rfl⟩
  obtain ⟨hphase, hdb⟩ := hw₁
  obtain ⟨rows, hrows, hmem, _⟩ := candidates_eq w.db w.now
  have hstored : ∀ e ∈ w.db.candidates w.now, ∃ row, w₁.db.webhookEvents.find? e =
      some row := by
    intro e he
    rw [hrows] at he
    obtain ⟨row, hin, rfl⟩ := List.mem_map.mp he
    exact ⟨row, hdb ▸ Table.find?_of_mem ((hmem row).mp hin).1⟩
  obtain ⟨tried, rest, hsplit, hw₂, htried⟩ :=
    scan_passed hinv₁ hphase hstored hscan hscanning
  have hcandidate : row.stripeEventId ∈ w.db.candidates w.now := by
    rw [hrows]
    exact List.mem_map_of_mem ((hmem row).mpr ⟨hrow, hready⟩)
  cases step_sound hlock with
  | exhausted hi =>
      rw [hw₂] at hi
      cases hi
      rw [hsplit, List.append_nil] at hcandidate
      exact .inr (htried _ hcandidate)
  | passed hi _ =>
      rw [hw₂] at hi
      cases hi
      exact absurd ⟨_, Function.update_self ..⟩ hend
  | @claimed _ now' eventId left claimed hi _ hfind _ _ =>
      rw [hw₂] at hi
      cases hi
      rcases received_le_of_split hsplit hrow hready with hin | ⟨first, hfirst, hle⟩
      · exact .inr (htried _ hin)
      · refine .inl ⟨_, _, Function.update_self .., ?_⟩
        obtain ⟨row', hrow', hsame⟩ := sameEvent_of_path hscan hinv₁ (hdb ▸ hfirst)
        rw [hfind, Option.some.injEq] at hrow'
        subst hrow'
        exact hsame.2.2.2 ▸ hle

/-- Where the scan of worker `i` has come to. -/
def scanOf (w : World M) (i : WorkerId) : Option (Time × List String) :=
  match w.workers i with
  | .scanning now rest => some (now, rest)
  | _ => none

theorem scanOf_eq_some {rest : List String} (h : scanOf w i = some (now, rest)) :
    w.workers i = .scanning now rest := by
  unfold scanOf at h
  split at h
  · next hi =>
      cases h
      exact hi
  · cases h

/-- The first of two events of a customer is being handled. -/
def queuedAda : World (metronome policyRejecting) :=
  runFrom (installation [adaCreated, adaUpdated]) _
    ([.webhook adaCreated.request, .tick 1, .webhook adaUpdated.request] ++ claims 0)

/-- A second worker takes the later event, because the earlier one is locked. -/
theorem claims_oldest_queuedAda : ∃ w₁ w₂ w₃,
    step (installation [adaCreated, adaUpdated]) _ queuedAda (.select 1) = some w₁ ∧
    step (installation [adaCreated, adaUpdated]) _ w₁ (.lock 1) = some w₂ ∧
    step (installation [adaCreated, adaUpdated]) _ w₂ (.lock 1) = some w₃ ∧
    ((∃ s p, w₃.workers 1 = .running s p ∧ s.loaded.receivedAt ≤ 0) ∨
      Passed (installation [adaCreated, adaUpdated]) 1 queuedAda.now w₁ w₂ "evt_1") := by
  have hrun : ((step (installation [adaCreated, adaUpdated]) _ queuedAda (.select 1)).bind
      fun w₁ => (step (installation [adaCreated, adaUpdated]) _ w₁ (.lock 1)).bind
        fun w₂ => (step (installation [adaCreated, adaUpdated]) _ w₂ (.lock 1)).map
          fun w₃ => (scanOf w₁ 1, scanOf w₂ 1, scanOf w₃ 1)) =
      some (some (1, ["evt_1", "evt_3"]), some (1, ["evt_3"]), none) := by decide +kernel
  have hrow : (queuedAda.db.webhookEvents.find? "evt_1").map (fun row =>
      (row.stripeEventId, row.receivedAt, ready queuedAda.now row)) =
      some ("evt_1", 0, true) := by decide +kernel
  have hnow : queuedAda.now = 1 := by decide +kernel
  obtain ⟨w₁, hw₁, hrun⟩ := Option.bind_eq_some_iff.mp hrun
  obtain ⟨w₂, hw₂, hrun⟩ := Option.bind_eq_some_iff.mp hrun
  obtain ⟨w₃, hw₃, hscans⟩ := Option.map_eq_some_iff.mp hrun
  obtain ⟨row, hfind, hfacts⟩ := Option.map_eq_some_iff.mp hrow
  simp only [Prod.mk.injEq] at hscans hfacts
  obtain ⟨hid, hreceived, hready⟩ := hfacts
  have hfirst : Scanning 1 queuedAda.now w₁ := ⟨_, hnow ▸ scanOf_eq_some hscans.1⟩
  have hsecond : Scanning 1 queuedAda.now w₂ := ⟨_, hnow ▸ scanOf_eq_some hscans.2.1⟩
  have hend : ¬ Scanning 1 queuedAda.now w₃ := by
    rintro ⟨rest, hi⟩
    have hnone := hscans.2.2
    rw [scanOf, hi] at hnone
    cases hnone
  have hclaim := claims_oldest (reaches_runFrom _ _ _) (initial_fresh _) hw₁
    (.snoc .refl hfirst hw₂) hsecond hw₃ hend (Table.find?_mem hfind) hready
  rw [hid, hreceived] at hclaim
  exact ⟨w₁, w₂, w₃, hw₁, hw₂, hw₃, hclaim⟩

end Sidecar.Ports.ClaimOrder
