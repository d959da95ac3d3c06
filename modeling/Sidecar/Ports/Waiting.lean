import Sidecar.Ports.Invariant
import Sidecar.Ports.Services
import Sidecar.Ports.Remote

/-!
# Workers that wait for each other, and draining them

A worker holds its transaction open while it talks to Metronome, and a flush
waits for every other transaction that has flushed the same key.  `WaitsFor` is
that wait.  Two things keep it harmless: an attempt flushes one row, and what
it has flushed it never flushes again, so whoever is waited for waits for
nobody.

The call of the SDK is bounded by its timeout, which is all the results below
ask of Metronome (`Bounded`).

## Main results

* `perform_possible` — a worker that does not wait can carry out its request.
* `no_deadlock` — of two workers in a wait one can move.
* `workers_drain` — the workers alone bring every reachable state to rest.
-/

namespace Sidecar.Ports.Waiting

open Sidecar.Verified.Resumption
open Sidecar.Verified.Transition
open Sidecar.Ports.Python
open Sidecar.Ports.Models
open Sidecar.Ports.Models.Postgres
open Sidecar.Ports.Effects
open Sidecar.Ports.Worker
open Sidecar.Ports.System
open Sidecar.Ports.Attempt
open Sidecar.Ports.Execution
open Sidecar.Ports.Moves
open Sidecar.Ports.Transactions
open Sidecar.Ports.Invariant
open Sidecar.Ports.Calls
open Sidecar.Ports.Remote
open Sidecar.Ports.Turns
open Sidecar.Ports.Services

/-! ## Waiting -/

/-- Every call ends, at the latest by its timeout. -/
def Bounded (M : Metronome) : Prop :=
  ∀ store ticket request, ∃ outcome, M.recv store ticket request outcome = true

variable {env : Env} {M : Metronome} {w w' : World M} {i j : WorkerId} {s : Session}

/-- Worker `i` flushes a row whose key the open transaction of `j` has taken. -/
def WaitsFor (w : World M) (i j : WorkerId) : Prop :=
  j ≠ i ∧ ∃ s k, w.workers i = .running s (.perform .flush k) ∧ s.poisoned = false ∧
    ∃ write ∈ s.pending, ∃ held ∈ w.db.own j, write.waitsFor held = true

/-- The labels of worker `i` at work. -/
inductive Works (i : WorkerId) : Label M → Prop where
  | lock : Works i (.lock i)
  | perform (choice : Choice) : Works i (.perform i choice)
  | finish : Works i (.finish i)

/-- Worker `i` has a step to take. -/
def CanWork (env : Env) (w : World M) (i : WorkerId) : Prop :=
  ∃ label, Works i label ∧ (step env M w label).isSome

theorem blocked_iff {db : Postgres} {ws : List Write} : db.blocked i ws = true ↔
    ∃ j ≠ i, ∃ write ∈ ws, ∃ held ∈ db.own j, write.waitsFor held = true := by
  simp only [blocked, List.any_eq_true, Bool.and_eq_true, decide_eq_true_eq, ne_eq]
  constructor
  · rintro ⟨⟨j, held⟩, hmem, hij, write, hwrite, hwaits⟩
    exact ⟨j, hij, write, hwrite, held, mem_own.mpr hmem, hwaits⟩
  · rintro ⟨j, hij, write, hwrite, held, hmem, hwaits⟩
    exact ⟨(j, held), mem_own.mp hmem, hij, write, hwrite, hwaits⟩

/-- Who has flushed a row is running, and has no further row to flush. -/
theorem holder_running (hinv : WorldInv env w) (h : w.db.own j ≠ []) :
    ∃ s p, w.workers j = .running s p ∧ Running env w.db j s p ∧ s.pending = [] := by
  have hworker := hinv.workers j
  cases hj : w.workers j with
  | idle =>
      rw [hj] at hworker
      exact absurd hworker.2 h
  | scanning now rest =>
      rw [hj] at hworker
      exact absurd hworker.2 h
  | running s p =>
      have hrunning := hinv.running hj
      refine ⟨s, p, rfl, hrunning, ?_⟩
      have hsingle := hrunning.session.single
      rw [hrunning.own] at h
      have hlength : 0 < s.flushed.length := List.length_pos_iff.mpr h
      rw [List.length_append] at hsingle
      exact List.eq_nil_of_length_eq_zero (by omega)

/-- Whoever is waited for waits for nobody. -/
theorem waited_for_free (hinv : WorldInv env w) (h : WaitsFor w i j) (k : WorkerId) :
    ¬ WaitsFor w j k := by
  obtain ⟨_, _, _, _, _, _, _, held, hheld, _⟩ := h
  obtain ⟨s, p, hj, _, hpending⟩ := holder_running hinv (List.ne_nil_of_mem hheld)
  rintro ⟨_, s', _, hj', _, write, hwrite, _⟩
  rw [hj] at hj'
  cases hj'
  rw [hpending] at hwrite
  cases hwrite

/-! ## A worker that does not wait can move -/

/-- The flush of worker `i` does not have to wait. -/
def Unblocked (db : Postgres) (i : WorkerId) (s : Session) : Op → Prop
  | .flush => s.poisoned = false → db.blocked i s.pending = false
  | _ => True

theorem exec_possible {o : Op} (hm : Bounded M) (hfree : Unblocked w.db i s o)
    (hdraw : ∀ hi, o = .uniform hi → (PyFloat.fin 1).le hi = true) :
    ∃ choice r w', exec env w i s o choice = some (w', r) := by
  cases o with
  | recv ticket request =>
      obtain ⟨outcome, houtcome⟩ := hm w.remote ticket request
      exact ⟨.outcome outcome, outcome, w, by simp only [exec, if_pos houtcome]⟩
  | uniform hi =>
      have hle := hdraw hi rfl
      cases hi with
      | fin hi =>
          have hpos : (1 : Rat) ≤ hi := by simpa [PyFloat.le] using hle
          refine ⟨.draw (.fin 0), .fin 0, w, ?_⟩
          have hzero : drawAllowed (.fin hi) (.fin 0) = true := by
            simp only [drawAllowed, Bool.and_eq_true, decide_eq_true_eq]
            exact ⟨Rat.le_refl, Rat.le_trans (by decide) hpos⟩
          simp only [exec, if_pos hzero]
      | inf => exact ⟨.draw .inf, .inf, w, rfl⟩
      | nan => simp [PyFloat.le] at hle
  | flush =>
      have hfree : s.poisoned = false → w.db.blocked i s.pending = false := hfree
      cases hp : s.poisoned with
      | true => exact ⟨.none, _, _, by simp only [exec, hp, if_true]; rfl⟩
      | false =>
          have hb := hfree hp
          cases hr : w.db.refusal env.enforceFk (w.db.own i) s.pending with
          | none => exact ⟨.none, _, _, by simp only [exec, hp, hb, hr]; rfl⟩
          | some constraint => exact ⟨.none, _, _, by simp only [exec, hp, hb, hr]; rfl⟩
  | _ => exact ⟨.none, _, _, rfl⟩

/-- The workers of a reachable state: their attempts ask for answers and draws
that can be given, and all but finitely many are idle. -/
structure AtWork (env : Env) (w : World M) : Prop where
  inv : WorldInv env w
  inTurn : ∀ i s p, w.workers i = .running s p → ∃ l, Always waiting InTurn p l
  finite : ∃ busy : List WorkerId, ∀ i, w.workers i ≠ .idle → i ∈ busy

/-- The worker that a step moves. -/
def mover : Label M → Option WorkerId
  | .select i | .lock i | .perform i _ | .finish i | .crash i => some i
  | .tick _ | .webhook _ | .replay _ | .serve _ => none

theorem Works.mover {label : Label M} (h : Works i label) : mover label = some i := by
  cases h <;> rfl

/-- A step moves no other worker. -/
theorem workers_move {label : Label M} (hm : Move env w label w')
    (hi : mover label ≠ some i) :
    w'.workers i = w.workers i := by
  have hne : ∀ j, Waiting.mover label = some j → i ≠ j := fun j hj heq => hi (heq ▸ hj)
  cases hm with
  | selected _ => exact Function.update_of_ne (hne _ rfl) _ _
  | exhausted _ => exact Function.update_of_ne (hne _ rfl) _ _
  | passed _ _ => exact Function.update_of_ne (hne _ rfl) _ _
  | claimed _ _ _ _ _ => exact Function.update_of_ne (hne _ rfl) _ _
  | performed _ hx =>
      rw [← hx.workers]
      exact Function.update_of_ne (hne _ rfl) _ _
  | committed _ _ _ => exact Function.update_of_ne (hne _ rfl) _ _
  | undone _ _ _ => exact Function.update_of_ne (hne _ rfl) _ _
  | crashed _ => exact Function.update_of_ne (hne _ rfl) _ _
  | _ => rfl

theorem AtWork.move {label : Label M} (h : AtWork env w) (hm : Move env w label w') :
    AtWork env w' where
  inv := worldInv_move h.inv hm
  inTurn i s' p' hi := by
    rcases running_source hm hi with ⟨row, _, rfl, _⟩ | hsame |
      ⟨s, o, r, w'', k, hat, _, _, rfl, _⟩
    · exact ⟨none, orderly_handleEvent row⟩
    · exact h.inTurn i s' p' hsame
    · obtain ⟨l, hl⟩ := h.inTurn i s _ hat
      have hp : k r = p' := by
        have := hi.symm.trans (Function.update_self i _ w''.workers)
        cases this
        rfl
      exact ⟨_, hp ▸ hl.step trivial⟩
  finite := by
    obtain ⟨busy, hbusy⟩ := h.finite
    refine ⟨(mover label).toList ++ busy, fun i hi => ?_⟩
    by_cases hij : mover label = some i
    · exact List.mem_append_left _ (Option.mem_toList.mpr hij)
    · rw [workers_move hm hij] at hi
      exact List.mem_append_right _ (hbusy i hi)

theorem atWork_initial (h : Initial w) : AtWork env w where
  inv := worldInv_initial h
  inTurn i s p hi := by
    rw [h.workers i] at hi
    cases hi
  finite := ⟨[], fun i hi => absurd (h.workers i) hi⟩

theorem atWork_of_path {C : World M → Label M → Prop} {w₀ : World M}
    (h : Path (step env M) C w₀ w) (h₀ : Initial w₀) : AtWork env w :=
  h.invariant (fun _ _ _ _ hw hs => hw.move (step_sound hs)) (atWork_initial h₀)

/-- A worker that is not blocked in a flush carries out its request. -/
theorem AtWork.perform_possible {o : Op} {k : Res o → Effect Unit} (h : AtWork env w)
    (hm : Bounded M) (hi : w.workers i = .running s (.perform o k))
    (hfree : Unblocked w.db i s o) :
    ∃ choice r w', exec env w i s o choice = some (w', r) ∧
      step env M w (.perform i choice) =
        some (w'.setPhase i (.running (s.after o r) (k r))) := by
  obtain ⟨l, hl⟩ := h.inTurn i s _ hi
  have hexec : ∃ choice r w', exec env w i s o choice = some (w', r) :=
    exec_possible hm hfree fun bound heq => hl.here.draw bound (congrArg Node.perform heq)
  obtain ⟨choice, r, w', hexec⟩ := hexec
  exact ⟨choice, r, w', hexec, by simp only [step, hi, hexec]; rfl⟩

/-- An attempt that is over ends its transaction without waiting. -/
theorem AtWork.finish_possible {p : Effect Unit} (h : AtWork env w)
    (hi : w.workers i = .running s p) (hp : ∀ o k, p ≠ .perform o k) :
    ∃ w', step env M w (.finish i) = some w' := by
  cases p with
  | perform o k => exact absurd rfl (hp o k)
  | raise exc => exact ⟨w.abort i, by simp only [step, hi]; rfl⟩
  | ret a =>
      have hcom := (h.inv.running hi).committing
      have hpending := hcom.pending
      cases hpoison : s.poisoned with
      | true => exact ⟨w.abort i, by simp only [step, hi, finish, hpoison, if_true]⟩
      | false =>
          refine Option.isSome_iff_exists.mp ?_
          simp only [step, hi, finish, hpoison, hpending, blocked_nil, refusal]
          rfl

/-- A scanning worker always has a step: `SKIP LOCKED` does not wait. -/
theorem lock_possible {now : Time} {rest : List String}
    (hi : w.workers i = .scanning now rest) : ∃ w', step env M w (.lock i) = some w' := by
  refine Option.isSome_iff_exists.mp ?_
  cases rest with
  | nil => simp only [step, hi, Option.isSome_some]
  | cons eventId rest =>
      cases hl : w.db.lockable now eventId with
      | none => simp only [step, hi, hl, Option.isSome_some]
      | some row => simp only [step, hi, hl, Option.isSome_some]

/-- A worker in the middle of an iteration can move unless it waits. -/
theorem AtWork.canWork_or_waits (h : AtWork env w) (hm : Bounded M)
    (hi : w.workers i ≠ .idle) : CanWork env w i ∨ ∃ j, WaitsFor w i j := by
  cases hphase : w.workers i with
  | idle => exact absurd hphase hi
  | scanning now rest =>
      have hlock : ∃ w', step env M w (.lock i) = some w' := lock_possible hphase
      obtain ⟨w', hw'⟩ := hlock
      exact .inl ⟨_, .lock, by rw [hw']; rfl⟩
  | running s p =>
      cases p with
      | perform o k =>
          by_cases hfree : Unblocked w.db i s o
          · obtain ⟨choice, r, w', _, hstep⟩ := h.perform_possible hm hphase hfree
            exact .inl ⟨_, .perform choice, by rw [hstep]; rfl⟩
          · right
            cases o with
            | flush =>
                simp only [Unblocked, Classical.not_imp, Bool.not_eq_false] at hfree
                obtain ⟨j, hij, write, hwrite, hheld⟩ := blocked_iff.mp hfree.2
                exact ⟨j, hij, s, k, hphase, hfree.1, write, hwrite, hheld⟩
            | _ => exact absurd trivial hfree
      | ret a =>
          obtain ⟨w', hw'⟩ := h.finish_possible hphase fun o k hk => by cases hk
          exact .inl ⟨_, .finish, by rw [hw']; rfl⟩
      | raise exc =>
          obtain ⟨w', hw'⟩ := h.finish_possible hphase fun o k hk => by cases hk
          exact .inl ⟨_, .finish, by rw [hw']; rfl⟩

/-- The session of a worker that is about to flush. -/
def flushOf (w : World M) (i : WorkerId) : Option Session :=
  match w.workers i with
  | .running s (.perform .flush _) => some s
  | _ => none

theorem flushOf_eq_some (h : flushOf w i = some s) :
    ∃ k, w.workers i = .running s (.perform .flush k) := by
  unfold flushOf at h
  split at h
  · next s' k hi =>
      cases h
      exact ⟨k, hi⟩
  · cases h

/-- A worker that waits has no step. -/
theorem not_canWork_of_waits (h : WaitsFor w i j) : ¬ CanWork env w i := by
  obtain ⟨hij, s, k, hi, hp, write, hwrite, hheld⟩ := h
  have hblocked : w.db.blocked i s.pending = true :=
    blocked_iff.mpr ⟨j, hij, write, hwrite, hheld⟩
  rintro ⟨label, hworks, hstep⟩
  cases hworks with
  | lock => simp [step, hi] at hstep
  | perform choice => simp [step, hi, exec, hp, hblocked] at hstep
  | finish => simp [step, hi, finish] at hstep

/-- **Workers never deadlock**: one in the middle of an iteration has a step
unless it waits, and whoever it waits for has one and waits for nobody. -/
theorem no_deadlock {w₀ : World M} (h : Reaches (step env M) w₀ w) (h₀ : Initial w₀)
    (hm : Bounded M) (hi : w.workers i ≠ .idle) :
    (CanWork env w i ↔ ∀ j, ¬ WaitsFor w i j) ∧
      ∀ j, WaitsFor w i j → CanWork env w j ∧ ∀ k, ¬ WaitsFor w j k := by
  have hwork : AtWork env w := atWork_of_path h h₀
  refine ⟨⟨fun hcan j hwaits => not_canWork_of_waits hwaits hcan, fun hfree => ?_⟩,
    fun j hwaits => ?_⟩
  · exact (hwork.canWork_or_waits hm hi).resolve_right fun ⟨j, hj⟩ => hfree j hj
  · have hj : w.workers j ≠ .idle := by
      obtain ⟨_, _, _, _, _, _, _, held, hheld, _⟩ := hwaits
      obtain ⟨s, p, hj, _⟩ := holder_running hwork.inv (List.ne_nil_of_mem hheld)
      rw [hj]
      exact fun heq => by cases heq
    have hnone := waited_for_free hwork.inv hwaits
    exact ⟨(hwork.canWork_or_waits hm hj).resolve_right fun ⟨k, hk⟩ => hnone k hk, hnone⟩

/-- A call can always time out. -/
theorem bounded_metronome (policy : Policy) : Bounded (metronome policy) :=
  fun _ _ _ => ⟨.timeoutError "Request timed out.", rfl⟩

def adaUpdated : Delivery := customerDelivery "evt_3" "customer.updated" 2 "cus_1" "Ada"

/-- Two events of one unmapped customer are handled at once, each creates a
Metronome customer, and one has flushed its row. -/
def racingAda : World (metronome ⟨false, false⟩) :=
  runFrom (installation [adaCreated, adaUpdated]) _
    ([.webhook adaCreated.request, .webhook adaUpdated.request] ++ claims 0 ++ claims 1 ++
      [.lock 1] ++ performs 0 3 ++ performs 1 3 ++
      [.serve (.deliver 0 "m1"), .serve (.deliver 1 "m2"), receives 0 (okWithId "m1"),
        receives 1 (okWithId "m2")] ++ performs 0 3 ++ performs 1 2)

theorem racingAda_waits : WaitsFor racingAda 1 0 := by
  have hflush : (flushOf racingAda 1).map (fun s => (s.poisoned, s.pending)) =
      some (false, [.insertCustomer ⟨"cus_1", "m2", 0⟩]) := by decide +kernel
  have hown : racingAda.db.own 0 = [.insertCustomer ⟨"cus_1", "m1", 0⟩] := by
    decide +kernel
  obtain ⟨s, hs, hsession⟩ := Option.map_eq_some_iff.mp hflush
  obtain ⟨hp, hpending⟩ := Prod.mk.inj hsession
  obtain ⟨k, hi⟩ := flushOf_eq_some hs
  refine ⟨by decide, s, k, hi, hp, .insertCustomer ⟨"cus_1", "m2", 0⟩, ?_,
    .insertCustomer ⟨"cus_1", "m1", 0⟩, ?_, by decide⟩
  · rw [hpending]
    exact List.mem_cons_self
  · rw [hown]
    exact List.mem_cons_self

/-- The second of two racing workers waits for the first, which can move. -/
theorem no_deadlock_racingAda :
    WaitsFor racingAda 1 0 ∧
      CanWork (installation [adaCreated, adaUpdated]) racingAda 0 := by
  have hbusy : racingAda.workers 1 ≠ .idle := by
    obtain ⟨_, s, k, hi, _⟩ := racingAda_waits
    rw [hi]
    exact fun heq => by cases heq
  have h := no_deadlock (reaches_runFrom _ _ _) (initial_fresh _)
    (bounded_metronome _) hbusy
  exact ⟨racingAda_waits, (h.2 0 racingAda_waits).1⟩

/-! ## Draining -/

/-- Nothing stands in the way of the flushes of worker `i`: nobody else has
flushed a row, or `i` has flushed its own, or its transaction is gone. -/
def Clear (w : World M) (i : WorkerId) (s : Session) : Prop :=
  (∀ j, j ≠ i → w.db.own j = []) ∨ s.flushed ≠ [] ∨ s.poisoned = true

theorem Clear.unblocked {p : Effect Unit} (h : Clear w i s) (hr : Running env w.db i s p)
    (o : Op) : Unblocked w.db i s o := by
  cases o with
  | flush =>
      intro hp
      refine Bool.eq_false_of_not_eq_true fun hblocked => ?_
      obtain ⟨j, hij, write, hwrite, held, hheld, _⟩ := blocked_iff.mp hblocked
      rcases h with hnone | hflushed | hpoison
      · rw [hnone j hij] at hheld
        cases hheld
      · have hsingle := hr.session.single
        have hlength := List.length_pos_iff.mpr hflushed
        have hpending := List.length_pos_of_mem hwrite
        rw [List.length_append] at hsingle
        omega
      · rw [hp] at hpoison
        cases hpoison
  | _ => trivial

theorem Clear.exec {o : Op} {r : Res o} (h : Clear w i s) (hx : Exec env w i s o r w') :
    Clear w' i (s.after o r) := by
  rcases h with hnone | hflushed | hpoison
  · exact .inl fun j hij => ((frame_exec hij hx).own).trans (hnone j hij)
  · cases hx with
    | flushDead _ => exact .inr (.inr rfl)
    | flushRefused _ _ _ => exact .inr (.inr rfl)
    | flushStaged _ _ _ =>
        exact .inr (.inl fun h => hflushed (List.append_eq_nil_iff.mp h).1)
    | _ => exact .inr (.inl hflushed)
  · cases hx with
    | flushDead _ => exact .inr (.inr rfl)
    | flushRefused _ _ _ => exact .inr (.inr rfl)
    | _ => exact .inr (.inr hpoison)

/-- A run of the workers that ends the iteration of `i` and leaves the others
where they are. -/
structure Through (env : Env) (w : World M) (i : WorkerId) (w' : World M) : Prop where
  path : Path (step env M) (fun _ label => Works i label) w w'
  idle : w'.workers i = .idle
  others : ∀ j, j ≠ i → w'.workers j = w.workers j

theorem Through.cons {label : Label M} {x : World M} (hworks : Works i label)
    (hs : step env M w label = some x) (h : Through env x i w') : Through env w i w' where
  path := by
    have hfirst : Path (step env M) (fun _ label => Works i label) w x :=
      .snoc .refl hworks hs
    exact hfirst.trans h.path
  idle := h.idle
  others j hij := by
    rw [h.others j hij]
    refine workers_move (step_sound hs) fun heq => hij ?_
    exact Option.some.inj (heq.symm.trans hworks.mover)

/-- The end of an attempt ends the iteration. -/
theorem AtWork.through_finish {p : Effect Unit} (h : AtWork env w)
    (hi : w.workers i = .running s p) (hp : ∀ o k, p ≠ .perform o k) :
    ∃ w', Through env w i w' := by
  obtain ⟨w', hw'⟩ := h.finish_possible hi hp
  refine ⟨w', .snoc .refl .finish hw', ?_,
    fun j hij => workers_move (step_sound hw') fun heq => hij (Option.some.inj heq).symm⟩
  cases step_sound hw' with
  | committed _ _ _ => exact Function.update_self ..
  | undone _ _ _ => exact Function.update_self ..

/-- **An attempt that nobody blocks runs to its end on its own.**  The
induction is on the program, whatever it is answered. -/
theorem through_running (hm : Bounded M) (p : Effect Unit) :
    ∀ {w : World M} {s : Session}, AtWork env w → w.workers i = .running s p →
      Clear w i s → ∃ w', Through env w i w' := by
  induction p with
  | ret a => exact fun h hi _ => h.through_finish hi fun o k hk => by cases hk
  | raise exc => exact fun h hi _ => h.through_finish hi fun o k hk => by cases hk
  | perform o k ih =>
      intro w s h hi hclear
      obtain ⟨choice, r, x, hexec, hs⟩ :=
        h.perform_possible hm hi (hclear.unblocked (h.inv.running hi) o)
      have hx := exec_sound hexec
      have hclear' : Clear x i (s.after o r) := hclear.exec hx
      obtain ⟨w', hw'⟩ := ih r (h.move (step_sound hs)) (Function.update_self ..) hclear'
      exact ⟨w', hw'.cons (.perform choice) hs⟩

/-- A scan finds an event and handles it, or finds none. -/
theorem through_scanning (hm : Bounded M) {now : Time} (rest : List String) :
    ∀ {w : World M}, AtWork env w → w.workers i = .scanning now rest →
      (∀ j, j ≠ i → w.db.own j = []) → ∃ w', Through env w i w' := by
  induction rest with
  | nil =>
      intro w h hi hnone
      have hs : step env M w (.lock i) = some (w.setPhase i .idle) := by
        simp only [step, hi]
      exact ⟨_, .snoc .refl .lock hs, Function.update_self ..,
        fun j hij => Function.update_of_ne hij _ _⟩
  | cons eventId rest ih =>
      intro w h hi hnone
      cases hl : w.db.lockable now eventId with
      | none =>
          have hs : step env M w (.lock i) =
              some (w.setPhase i (.scanning now rest)) := by
            simp only [step, hi, hl]
          obtain ⟨w', hw'⟩ := ih (h.move (step_sound hs)) (Function.update_self ..) hnone
          exact ⟨w', hw'.cons .lock hs⟩
      | some row =>
          have hs : step env M w (.lock i) = some (({ w with
              db := w.db.lock i eventId }.setPhase i (.running (.start row)
                (handleEvent env.settings env.tiers row))).log (.started eventId)) := by
            simp only [step, hi, hl]
          obtain ⟨w', hw'⟩ := through_running hm _ (h.move (step_sound hs))
            (Function.update_self ..) (.inl hnone)
          exact ⟨w', hw'.cons .lock hs⟩

/-- Some worker that is not idle can be brought through its iteration first:
one that has flushed a row, if there is any. -/
theorem AtWork.through (h : AtWork env w) (hm : Bounded M) (hi : w.workers i ≠ .idle) :
    ∃ j w', w.workers j ≠ .idle ∧ Through env w j w' := by
  by_cases hheld : ∃ j, w.db.own j ≠ []
  · obtain ⟨j, hj⟩ := hheld
    obtain ⟨s, p, hrun, hr, _⟩ := holder_running h.inv hj
    have hflushed : s.flushed ≠ [] := hr.own ▸ hj
    obtain ⟨w', hw'⟩ := through_running hm p h hrun (.inr (.inl hflushed))
    refine ⟨j, w', fun heq => ?_, hw'⟩
    rw [hrun] at heq
    cases heq
  · have hnone : ∀ j, w.db.own j = [] := fun j => by
      by_contra hj
      exact hheld ⟨j, hj⟩
    cases hphase : w.workers i with
    | idle => exact absurd hphase hi
    | scanning now rest =>
        obtain ⟨w', hw'⟩ := through_scanning hm rest h hphase fun j _ => hnone j
        exact ⟨i, w', hi, hw'⟩
    | running s p =>
        obtain ⟨w', hw'⟩ := through_running hm p h hphase (.inl fun j _ => hnone j)
        exact ⟨i, w', hi, hw'⟩

/-- A step of some worker at work: no new claim, and nobody else moves. -/
def Working (label : Label M) : Prop := ∃ i, Works i label

/-- All workers idle, no row locked, nothing uncommitted. -/
structure AtRest (w : World M) : Prop where
  idle : ∀ i, w.workers i = .idle
  locks : ∀ e, w.db.locks e = none
  uncommitted : w.db.uncommitted = []

theorem atRest_of_idle (hinv : WorldInv env w) (h : ∀ i, w.workers i = .idle) :
    AtRest w := by
  have hworker : ∀ i, (∀ e, w.db.locks e ≠ some i) ∧ w.db.own i = [] := fun i => by
    have := hinv.workers i
    rw [h i] at this
    exact this
  refine ⟨h, fun e => ?_, List.eq_nil_iff_forall_not_mem.mpr fun x hx => ?_⟩
  · cases hl : w.db.locks e with
    | none => rfl
    | some i => exact absurd hl ((hworker i).1 e)
  · have hmem := mem_own.mpr hx
    rw [(hworker x.1).2] at hmem
    cases hmem

/-- Each worker that is brought through leaves one fewer at work. -/
theorem AtWork.drain (hm : Bounded M) (n : Nat) : ∀ {w : World M}, AtWork env w →
    ∀ busy : List WorkerId, busy.length ≤ n → (∀ i, w.workers i ≠ .idle → i ∈ busy) →
      ∃ w', Path (step env M) (fun _ label => Working label) w w' ∧ AtRest w' := by
  induction n with
  | zero =>
      intro w h busy hlength hbusy
      refine ⟨w, .refl, atRest_of_idle h.inv fun i => ?_⟩
      by_contra hi
      have := hbusy i hi
      rw [List.eq_nil_of_length_eq_zero (Nat.le_zero.mp hlength)] at this
      cases this
  | succ n ih =>
      intro w h busy hlength hbusy
      by_cases hall : ∀ i, w.workers i = .idle
      · exact ⟨w, .refl, atRest_of_idle h.inv hall⟩
      · obtain ⟨i, hi⟩ := Classical.not_forall.mp hall
        obtain ⟨j, x, hj, hx⟩ := h.through hm hi
        have hxwork : AtWork env x :=
          hx.path.invariant (fun _ _ _ _ hw hs => hw.move (step_sound hs)) h
        have hshorter : (busy.filter (· ≠ j)).length < busy.length :=
          List.length_filter_lt_length_iff_exists.mpr ⟨j, hbusy j hj, by simp⟩
        obtain ⟨w', hpath, hrest⟩ :=
          ih hxwork (busy.filter (· ≠ j)) (by omega) fun k hk => by
          have hkj : k ≠ j := fun heq => hk (heq ▸ hx.idle)
          rw [hx.others k hkj] at hk
          exact List.mem_filter.mpr ⟨hbusy k hk, by simpa using hkj⟩
        have hfirst : Path (step env M) (fun _ label => Working label) w x :=
          hx.path.mono fun _ _ hworks => ⟨j, hworks⟩
        exact ⟨w', hfirst.trans hpath, hrest⟩

theorem AtWork.drains (h : AtWork env w) (hm : Bounded M) :
    ∃ w', Path (step env M) (fun _ label => Working label) w w' ∧ AtRest w' := by
  obtain ⟨busy, hbusy⟩ := h.finite
  exact AtWork.drain hm busy.length h busy (Nat.le_refl _) hbusy

/-- **The workers drain**: from every reachable state they can all end their
iterations by themselves, whatever each of them was doing. -/
theorem workers_drain {w₀ : World M} (h : Reaches (step env M) w₀ w) (h₀ : Initial w₀)
    (hm : Bounded M) :
    ∃ w', Path (step env M) (fun _ label => Working label) w w' ∧ AtRest w' :=
  (atWork_of_path h h₀ : AtWork env w).drains hm

/-- Also out of a wait. -/
theorem workers_drain_racingAda : WaitsFor racingAda 1 0 ∧
    ∃ w', Path (step (installation [adaCreated, adaUpdated]) _)
      (fun _ label => Working label) racingAda w' ∧ AtRest w' :=
  ⟨racingAda_waits,
    workers_drain (reaches_runFrom _ _ _) (initial_fresh _) (bounded_metronome _)⟩

end Sidecar.Ports.Waiting
