import Mathlib.Tactic.Linarith
import Sidecar.Ports.Waiting

/-!
# The loop around the worker's iterations

`Worker.run` calls `_process_one` until it is told to stop, and waits for the
poll interval, or for the request to stop, after every call that handled no
event or raised.  A `Fleet` is the system together with the processes that run
this loop; a `Turn` is a step of one of them, or of what surrounds them.

The steps inside `_process_one` are those of `System`, so every run of a fleet
is a run of the system (`Path.world`) and all that is known of the latter's
reachable states holds here.

`elapsed` is the monotonic clock of the event loops; `begun` and `handled` are
ghosts that count calls of `_process_one`, and those that returned `True`.

## Main results

* `polls_bounded` — a worker polls at most once for each event it handles and
  once for each poll interval.
* `stop_is_final` — no iteration begins once the worker has been told to stop.
* `shuts_down` — workers that have been told to stop can all end by themselves,
  without another poll interval, and leave the database at rest.
-/

namespace Sidecar.Ports.WorkerLoop

open Sidecar.Verified.Transition
open Sidecar.Ports.Python
open Sidecar.Ports.Models
open Sidecar.Ports.System
open Sidecar.Ports.Moves
open Sidecar.Ports.Remote
open Sidecar.Ports.Waiting

/-! ## The processes -/

/-- What is fixed during a run of the processes. -/
structure Deployment where
  env : Env
  workerPollIntervalSeconds : Time
  workerPollIntervalSeconds_ge : 1 / 10 ≤ workerPollIntervalSeconds

/-- Where a process stands in `run`. -/
inductive Stage where
  /-- There is no process, or it has died. -/
  | dead
  /-- At the head of the `while` loop. -/
  | testing
  /-- In `_process_one`, before the claim query. -/
  | calling
  /-- In `_process_one`, where the system says. -/
  | processing
  /-- Waits for the request to stop, until the deadline. -/
  | waiting (deadline : Time)
  | stopped
deriving DecidableEq, Repr

/-- One process and what it has counted since it started. -/
structure Loop where
  stage : Stage
  /-- `_stop_event.is_set()`. -/
  stopRequested : Bool
  startedAt : Time
  begun : Nat
  handled : Nat

/-- A process that starts now. -/
def Loop.init (stage : Stage) (startedAt : Time) : Loop where
  stage
  stopRequested := false
  startedAt
  begun := 0
  handled := 0

/-- The system with the processes of its workers. -/
structure Fleet (M : Metronome) where
  world : World M
  elapsed : Time
  loops : WorkerId → Loop

/-- One step inside `_process_one`; a commit whose acknowledgement is lost is
not heard. -/
inductive Work where
  | lock
  | perform (choice : Choice)
  | finish (heard : Bool)

/-- The step of the system that a step inside `_process_one` takes. -/
def Work.label {M : Metronome} (i : WorkerId) : Work → Label M
  | .lock => .lock i
  | .perform choice => .perform i choice
  | .finish _ => .finish i

/-- A step of a process, or of what surrounds it. -/
inductive Turn (M : Metronome) where
  /-- The clock, the receiver, the operator or Metronome. -/
  | outside (label : Label M)
  | elapse (seconds : Time)
  | start (i : WorkerId)
  | kill (i : WorkerId)
  /-- `request_stop`. -/
  | requestStop (i : WorkerId)
  | test (i : WorkerId)
  | query (i : WorkerId)
  | work (i : WorkerId) (work : Work)
  /-- The connection fails inside `_process_one`. -/
  | disconnect (i : WorkerId)
  | wake (i : WorkerId)

namespace Fleet

variable {M : Metronome}

/-- Where process `i` stands. -/
def stage (x : Fleet M) (i : WorkerId) : Stage := (x.loops i).stage

/-- Process `i` becomes `loop`. -/
def setLoop (x : Fleet M) (i : WorkerId) (loop : Loop) : Fleet M :=
  { x with loops := Function.update x.loops i loop }

/-- Process `i` moves on to `stage`. -/
def setStage (x : Fleet M) (i : WorkerId) (stage : Stage) : Fleet M :=
  x.setLoop i { x.loops i with stage }

/-- No process runs. -/
structure Fresh (x : Fleet M) : Prop where
  world : Initial x.world
  loops : ∀ i, x.loops i = .init .dead x.elapsed

end Fleet

/-! ## Turns -/

/-- Whether the step makes `_process_one` return `True`. -/
def returnsTrue {M : Metronome} (env : Env) (w : World M) (i : WorkerId) : Work → Bool
  | .finish true =>
      match w.workers i with
      | .running s (.ret _) =>
          !s.poisoned && (w.db.refusal env.enforceFk (w.db.own i) s.pending).isNone
      | _ => false
  | _ => false

/-- The connection of worker `i` is gone, and its transaction with it. -/
def dropped {M : Metronome} (w : World M) (i : WorkerId) : World M :=
  match w.workers i with
  | .idle => w
  | _ => w.abort i

variable (d : Deployment) (M : Metronome)

/-- `_process_one` has returned, or raised: `handled` says which way the loop
goes on. -/
def iterated {M : Metronome} (x : Fleet M) (i : WorkerId) (handled : Bool) : Fleet M :=
  if handled then
    x.setLoop i { x.loops i with stage := .testing, handled := (x.loops i).handled + 1 }
  else x.setStage i (.waiting (x.elapsed + d.workerPollIntervalSeconds))

/-- One turn. `_process_one` has returned when the worker is idle again. -/
def turn (x : Fleet M) : Turn M → Option (Fleet M)
  | .outside label =>
      if (mover label).isNone then
        (step d.env M x.world label).map fun world => { x with world }
      else none
  | .elapse seconds =>
      if 0 ≤ seconds then some { x with elapsed := x.elapsed + seconds } else none
  | .start i =>
      match x.stage i with
      | .dead => some (x.setLoop i (.init .testing x.elapsed))
      | _ => none
  | .kill i =>
      match x.stage i with
      | .dead => none
      | _ => some ({ x with world := dropped x.world i }.setStage i .dead)
  | .requestStop i =>
      match x.stage i with
      | .dead => none
      | _ => some (x.setLoop i { x.loops i with stopRequested := true })
  | .test i =>
      match x.stage i with
      | .testing =>
          if (x.loops i).stopRequested then some (x.setStage i .stopped)
          else some (x.setLoop i
            { x.loops i with stage := .calling, begun := (x.loops i).begun + 1 })
      | _ => none
  | .query i =>
      match x.stage i with
      | .calling => (step d.env M x.world (.select i)).map fun world =>
          { x with world }.setStage i .processing
      | _ => none
  | .work i work =>
      match x.stage i with
      | .processing => (step d.env M x.world (work.label i)).map fun world =>
          match world.workers i with
          | .idle => iterated d { x with world } i (returnsTrue d.env x.world i work)
          | _ => { x with world }
      | _ => none
  | .disconnect i =>
      match x.stage i with
      | .calling | .processing =>
          some (iterated d { x with world := dropped x.world i } i false)
      | _ => none
  | .wake i =>
      match x.stage i with
      | .waiting deadline =>
          if (x.loops i).stopRequested || deadline ≤ x.elapsed then
            some (x.setStage i .testing)
          else none
      | _ => none

section Turned

variable {d : Deployment} {M : Metronome} {x y : Fleet M} {i j : WorkerId}

/-! ## What a turn can do -/

/-- The branches of `turn`, each with what it requires. -/
inductive Turned (d : Deployment) (x : Fleet M) : Turn M → Fleet M → Prop where
  | outside {label : Label M} {world : World M} : mover label = none →
      step d.env M x.world label = some world → Turned d x (.outside label) { x with
        world }
  | elapsed {seconds : Time} : 0 ≤ seconds →
      Turned d x (.elapse seconds) { x with elapsed := x.elapsed + seconds }
  | started {i : WorkerId} : x.stage i = .dead →
      Turned d x (.start i) (x.setLoop i (.init .testing x.elapsed))
  | killed {i : WorkerId} : x.stage i ≠ .dead →
      Turned d x (.kill i) ({ x with world := dropped x.world i }.setStage i .dead)
  | told {i : WorkerId} : x.stage i ≠ .dead →
      Turned d x (.requestStop i) (x.setLoop i { x.loops i with stopRequested := true })
  | ended {i : WorkerId} : x.stage i = .testing → (x.loops i).stopRequested = true →
      Turned d x (.test i) (x.setStage i .stopped)
  | began {i : WorkerId} : x.stage i = .testing → (x.loops i).stopRequested = false →
      Turned d x (.test i) (x.setLoop i
        { x.loops i with stage := .calling, begun := (x.loops i).begun + 1 })
  | queried {i : WorkerId} {world : World M} : x.stage i = .calling →
      step d.env M x.world (.select i) = some world →
      Turned d x (.query i) ({ x with world }.setStage i .processing)
  | worked {i : WorkerId} {work : Work} {world : World M} : x.stage i = .processing →
      step d.env M x.world (work.label i) = some world → world.workers i ≠ .idle →
      Turned d x (.work i work) { x with world }
  | iterated {i : WorkerId} {work : Work} {world : World M} : x.stage i = .processing →
      step d.env M x.world (work.label i) = some world → world.workers i = .idle →
      Turned d x (.work i work)
        (iterated d { x with world } i (returnsTrue d.env x.world i work))
  | disconnected {i : WorkerId} : x.stage i = .calling ∨ x.stage i = .processing →
      Turned d x (.disconnect i) (iterated d { x with
        world := dropped x.world i } i false)
  | woken {i : WorkerId} {deadline : Time} : x.stage i = .waiting deadline →
      (x.loops i).stopRequested = true ∨ deadline ≤ x.elapsed →
      Turned d x (.wake i) (x.setStage i .testing)

theorem turn_sound {t : Turn M} (h : turn d M x t = some y) : Turned d x t y := by
  cases t with
  | outside label =>
      simp only [turn] at h
      split at h
      · next hl =>
          obtain ⟨world, hs, rfl⟩ := Option.map_eq_some_iff.mp h
          exact .outside (Option.isNone_iff_eq_none.mp hl) hs
      · cases h
  | elapse seconds =>
      simp only [turn] at h
      split at h
      · next hs => cases h; exact .elapsed hs
      · cases h
  | start i =>
      simp only [turn] at h
      split at h
      · next hi => cases h; exact .started hi
      · cases h
  | kill i =>
      simp only [turn] at h
      split at h
      · cases h
      · next hi => cases h; exact .killed hi
  | requestStop i =>
      simp only [turn] at h
      split at h
      · cases h
      · next hi => cases h; exact .told hi
  | test i =>
      simp only [turn] at h
      split at h
      · next hi =>
          split at h
          · next hstop => cases h; exact .ended hi hstop
          · next hstop => cases h; exact .began hi (Bool.eq_false_of_not_eq_true hstop)
      · cases h
  | query i =>
      simp only [turn] at h
      split at h
      · next hi =>
          obtain ⟨world, hs, rfl⟩ := Option.map_eq_some_iff.mp h
          exact .queried hi hs
      · cases h
  | work i work =>
      simp only [turn] at h
      split at h
      · next hi =>
          obtain ⟨world, hs, hy⟩ := Option.map_eq_some_iff.mp h
          split at hy
          · next hidle => subst hy; exact .iterated hi hs hidle
          · next hbusy => subst hy; exact .worked hi hs hbusy
      · cases h
  | disconnect i =>
      simp only [turn] at h
      split at h
      · next hi => cases h; exact .disconnected (.inl hi)
      · next hi => cases h; exact .disconnected (.inr hi)
      · cases h
  | wake i =>
      simp only [turn] at h
      split at h
      · next deadline hi =>
          split at h
          · next hw =>
              cases h
              rw [Bool.or_eq_true, decide_eq_true_eq] at hw
              exact .woken hi hw
          · cases h
      · cases h

/-! ## A run of the processes is a run of the system -/

@[simp] theorem setLoop_world (loop : Loop) : (x.setLoop i loop).world = x.world := rfl

@[simp] theorem setStage_world (stage : Stage) :
    (x.setStage i stage).world = x.world := rfl

@[simp] theorem iterated_world (handled : Bool) :
    (iterated d x i handled).world = x.world := by
  cases handled <;> rfl

@[simp] theorem iterated_elapsed (handled : Bool) :
    (iterated d x i handled).elapsed = x.elapsed := by
  cases handled <;> rfl

theorem dropped_self (w : World M) (i : WorkerId) : (dropped w i).workers i = .idle := by
  unfold dropped
  split
  · next hi => exact hi
  · exact Function.update_self ..

theorem dropped_of_ne (w : World M) (hij : j ≠ i) :
    (dropped w i).workers j = w.workers j := by
  unfold dropped
  split
  · rfl
  · exact Function.update_of_ne hij _ _

theorem dropped_reaches (env : Env) (w : World M) (i : WorkerId) :
    Reaches (step env M) w (dropped w i) := by
  cases hi : w.workers i with
  | idle =>
      have hd : dropped w i = w := by simp only [dropped, hi]
      rw [hd]
      exact .refl
  | _ =>
      have hd : dropped w i = w.abort i := by simp only [dropped, hi]
      have hs : step env M w (.crash i) = some (w.abort i) := by simp only [step, hi]
      rw [hd]
      exact .snoc .refl trivial hs

theorem Turned.reaches {t : Turn M} (h : Turned d x t y) :
    Reaches (step d.env M) x.world y.world := by
  cases h with
  | outside _ hs => exact .snoc .refl trivial hs
  | queried _ hs => exact .snoc .refl trivial hs
  | worked _ hs _ => exact .snoc .refl trivial hs
  | iterated _ hs _ =>
      rw [iterated_world]
      exact .snoc .refl trivial hs
  | killed _ => exact dropped_reaches _ _ _
  | disconnected _ =>
      rw [iterated_world]
      exact dropped_reaches _ _ _
  | _ => exact .refl

/-- **Every run of the processes is a run of the system.** -/
theorem reaches_world {C : Fleet M → Turn M → Prop} (h : Path (turn d M) C x y) :
    Reaches (step d.env M) x.world y.world :=
  h.project Fleet.world fun _ _ _ _ hs => (turn_sound hs).reaches

/-! ## What a turn leaves of the loops -/

/-- The process that a turn concerns. -/
def Turn.process : Turn M → Option WorkerId
  | .outside _ | .elapse _ => none
  | .start i | .kill i | .requestStop i | .test i | .query i | .work i _ | .disconnect i
  | .wake i => some i

theorem iterated_loops_of_ne (handled : Bool) (hij : j ≠ i) :
    (iterated d x i handled).loops j = x.loops j := by
  cases handled <;> exact Function.update_of_ne hij _ _

/-- A turn leaves the loops of the other processes alone. -/
theorem Turned.loops {t : Turn M} (h : Turned d x t y) (hi : t.process ≠ some i) :
    y.loops i = x.loops i := by
  have hne : ∀ j, t.process = some j → i ≠ j := fun j hj heq => hi (heq ▸ hj)
  cases h with
  | outside _ _ => rfl
  | elapsed _ => rfl
  | worked _ _ _ => rfl
  | iterated _ _ _ => exact iterated_loops_of_ne _ (hne _ rfl)
  | disconnected _ => exact iterated_loops_of_ne _ (hne _ rfl)
  | _ => exact Function.update_of_ne (hne _ rfl) _ _

theorem Work.mover (work : Work) : mover (work.label i : Label M) = some i := by
  cases work <;> rfl

/-- A turn leaves the workers of the other processes alone. -/
theorem Turned.workers {t : Turn M} (h : Turned d x t y) (hi : t.process ≠ some i) :
    y.world.workers i = x.world.workers i := by
  have hne : ∀ j, t.process = some j → i ≠ j := fun j hj heq => hi (heq ▸ hj)
  cases h with
  | outside hl hs => exact workers_move (step_sound hs) (by simp [hl])
  | queried _ hs => exact workers_move (step_sound hs) hi
  | worked _ hs _ => exact workers_move (step_sound hs) (by rw [Work.mover]; exact hi)
  | iterated _ hs _ =>
      rw [iterated_world]
      exact workers_move (step_sound hs) (by rw [Work.mover]; exact hi)
  | killed _ => exact dropped_of_ne _ (hne _ rfl)
  | disconnected _ =>
      rw [iterated_world]
      exact dropped_of_ne _ (hne _ rfl)
  | _ => rfl

/-- What a turn does to the loop of the running process it concerns. -/
inductive LoopMove (interval now : Time) (l : Loop) : Loop → Prop where
  | killed : LoopMove interval now l { l with stage := .dead }
  | told : LoopMove interval now l { l with stopRequested := true }
  | ended : l.stage = .testing → l.stopRequested = true →
      LoopMove interval now l { l with stage := .stopped }
  | began : l.stage = .testing → l.stopRequested = false →
      LoopMove interval now l { l with stage := .calling, begun := l.begun + 1 }
  | queried : l.stage = .calling → LoopMove interval now l { l with stage := .processing }
  | worked : LoopMove interval now l l
  | handled : l.stage = .processing →
      LoopMove interval now l { l with stage := .testing, handled := l.handled + 1 }
  | failed : l.stage = .calling ∨ l.stage = .processing →
      LoopMove interval now l { l with stage := .waiting (now + interval) }
  | woken {deadline : Time} : l.stage = .waiting deadline →
      l.stopRequested = true ∨ deadline ≤ now →
      LoopMove interval now l { l with stage := .testing }

theorem loops_setLoop (loop : Loop) : (x.setLoop i loop).loops i = loop :=
  Function.update_self ..

theorem iterated_loops (handled : Bool) : (iterated d x i handled).loops i =
    if handled then
      { x.loops i with stage := .testing, handled := (x.loops i).handled + 1 }
    else
      { x.loops i with
        stage := .waiting (x.elapsed + d.workerPollIntervalSeconds) } := by
  cases handled <;> exact loops_setLoop _

/-- A turn starts a new process or moves the loop of a running one. -/
theorem Turned.loop {t : Turn M} (h : Turned d x t y) (hi : t.process = some i) :
    (t = .start i ∧ y.loops i = .init .testing x.elapsed) ∨
      LoopMove d.workerPollIntervalSeconds x.elapsed (x.loops i) (y.loops i) := by
  cases h with
  | outside _ _ => cases hi
  | elapsed _ => cases hi
  | started hdead =>
      cases hi
      exact .inl ⟨rfl, loops_setLoop _⟩
  | killed _ =>
      cases hi
      rw [Fleet.setStage, loops_setLoop]
      exact .inr .killed
  | told _ =>
      cases hi
      rw [loops_setLoop]
      exact .inr .told
  | ended htesting hstop =>
      cases hi
      rw [Fleet.setStage, loops_setLoop]
      exact .inr (.ended htesting hstop)
  | began htesting hstop =>
      cases hi
      rw [loops_setLoop]
      exact .inr (.began htesting hstop)
  | queried hcalling _ =>
      cases hi
      rw [Fleet.setStage, loops_setLoop]
      exact .inr (.queried hcalling)
  | worked _ _ _ => exact .inr .worked
  | iterated hprocessing _ _ =>
      cases hi
      rw [iterated_loops]
      split
      · exact .inr (.handled hprocessing)
      · exact .inr (.failed (.inr hprocessing))
  | disconnected hstage =>
      cases hi
      rw [iterated_loops, if_neg Bool.false_ne_true]
      exact .inr (.failed hstage)
  | woken hwaiting hwake =>
      cases hi
      rw [Fleet.setStage, loops_setLoop]
      exact .inr (.woken hwaiting hwake)

theorem Turned.elapsed_le {t : Turn M} (h : Turned d x t y) : x.elapsed ≤ y.elapsed := by
  cases h with
  | elapsed hs => exact le_add_of_nonneg_right hs
  | iterated _ _ _ =>
      rw [iterated_elapsed]
  | disconnected _ => exact le_refl _
  | _ => exact le_refl _

/-- What holds of every loop at first and of a new one, and survives its moves
and the passing of time, holds of every loop. -/
theorem loops_invariant {C : Fleet M → Turn M → Prop} {P : Time → Loop → Prop}
    (h : Path (turn d M) C x y) (hinit : ∀ now, P now (.init .testing now))
    (hmove : ∀ now l l', P now l →
      LoopMove d.workerPollIntervalSeconds now l l' → P now l')
    (hlater : ∀ now now' l, now ≤ now' → P now l → P now' l)
    (hx : ∀ i, P x.elapsed (x.loops i)) (i : WorkerId) : P y.elapsed (y.loops i) := by
  refine h.invariant (I := fun x => ∀ i, P x.elapsed (x.loops i)) ?_ hx i
  intro x t y _ hx hs i
  have ht := turn_sound hs
  refine hlater _ _ _ ht.elapsed_le ?_
  by_cases hi : t.process = some i
  · rcases ht.loop hi with ⟨_, hinitial⟩ | hm
    · exact hinitial ▸ hinit _
    · exact hmove _ _ _ (hx i) hm
  · rw [ht.loops hi]
    exact hx i

/-! ## Polling -/

/-- How the iterations begun, those that handled an event, and the time since
the start of the process are related. -/
structure Polled (interval now : Time) (l : Loop) : Prop where
  bound : interval * l.begun ≤ interval * (l.handled + 1) + (now - l.startedAt)
  testing : l.stage = .testing → l.stopRequested = false →
    interval * l.begun ≤ interval * l.handled + (now - l.startedAt)
  waiting : ∀ deadline, l.stage = .waiting deadline →
    interval * l.begun ≤ interval * l.handled + (deadline - l.startedAt)

theorem polled_init {interval now : Time} {stage : Stage} (hinterval : 0 ≤ interval)
    (hstage : ∀ deadline, stage ≠ .waiting deadline) :
    Polled interval now (.init stage now) := by
  refine ⟨?_, fun _ _ => ?_, fun deadline heq => absurd heq (hstage deadline)⟩
  · simpa [Loop.init] using hinterval
  · simp [Loop.init]

theorem Polled.move {interval now : Time} {l l' : Loop} (hinterval : 0 ≤ interval)
    (h : Polled interval now l) (hm : LoopMove interval now l l') :
    Polled interval now l' := by
  have hbound := h.bound
  rw [mul_add, mul_one] at hbound
  cases hm with
  | killed => exact ⟨h.bound, (fun heq => by cases heq), (fun _ heq => by cases heq)⟩
  | told => exact ⟨h.bound, (fun _ heq => by cases heq), h.waiting⟩
  | ended _ _ => exact ⟨h.bound, (fun heq => by cases heq), (fun _ heq => by cases heq)⟩
  | began htesting hstop =>
      refine ⟨?_, (fun heq => by cases heq), (fun _ heq => by cases heq)⟩
      have htest := h.testing htesting hstop
      push_cast
      linarith
  | queried _ => exact ⟨h.bound, (fun heq => by cases heq), (fun _ heq => by cases heq)⟩
  | worked => exact h
  | handled _ =>
      refine ⟨?_, fun _ _ => ?_, (fun _ heq => by cases heq)⟩
      · push_cast
        linarith
      · push_cast
        linarith
  | failed _ =>
      refine ⟨h.bound, (fun heq => by cases heq), fun deadline heq => ?_⟩
      cases heq
      show interval * l.begun ≤ interval * l.handled + (now + interval - l.startedAt)
      linarith
  | woken hwaiting hwake =>
      refine ⟨h.bound, fun _ hstop => ?_, (fun _ heq => by cases heq)⟩
      have hwait := h.waiting _ hwaiting
      have hdue := hwake.resolve_left fun hs => by
        have hstop : l.stopRequested = false := hstop
        rw [hs] at hstop
        cases hstop
      show interval * l.begun ≤ interval * l.handled + (now - l.startedAt)
      linarith

theorem Polled.later {interval now now' : Time} {l : Loop} (h : Polled interval now l)
    (hle : now ≤ now') : Polled interval now' l := by
  refine ⟨?_, fun htesting hstop => ?_, h.waiting⟩
  · have := h.bound
    linarith
  · have := h.testing htesting hstop
    linarith

/-- **Polling is bounded**: the calls of `_process_one` that a process has
begun are at most one more than those that handled an event and the poll
intervals that have passed since its start. -/
theorem polls_bounded (h : Reaches (turn d M) x y) (h₀ : x.Fresh) (i : WorkerId) :
    d.workerPollIntervalSeconds * (y.loops i).begun ≤
      d.workerPollIntervalSeconds * ((y.loops i).handled + 1) +
        (y.elapsed - (y.loops i).startedAt) := by
  have hinterval : 0 ≤ d.workerPollIntervalSeconds :=
    le_trans (by norm_num) d.workerPollIntervalSeconds_ge
  have hfirst : ∀ i, Polled d.workerPollIntervalSeconds x.elapsed (x.loops i) :=
    fun i => by
    rw [h₀.loops i]
    exact polled_init hinterval (by simp)
  have hpolled : Polled d.workerPollIntervalSeconds y.elapsed (y.loops i) :=
    loops_invariant h (fun _ => polled_init hinterval (by simp))
      (fun _ _ _ hl hm => hl.move hinterval hm)
      (fun _ _ _ hle hl => hl.later hle) hfirst i
  exact hpolled.bound

/-! ## Stopping -/

/-- Inside `_process_one`. -/
def inIteration (l : Loop) : Bool := l.stage = .calling || l.stage = .processing

/-- A move of a loop that has been told to stop begins no iteration, and
handles an event only by ending one. -/
theorem LoopMove.closing {interval now : Time} {l l' : Loop}
    (h : LoopMove interval now l l') (hstop : l.stopRequested = true) :
    l'.stopRequested = true ∧ l'.begun = l.begun ∧
      l'.handled + (inIteration l').toNat ≤ l.handled + (inIteration l).toNat ∧
      (inIteration l = false → inIteration l' = false) := by
  cases h with
  | began _ hno =>
      rw [hstop] at hno
      cases hno
  | killed => exact ⟨hstop, rfl, by simp [inIteration], fun _ => rfl⟩
  | told => exact ⟨rfl, rfl, le_refl _, id⟩
  | ended _ _ => exact ⟨hstop, rfl, by simp [inIteration], fun _ => rfl⟩
  | queried hcalling =>
      exact ⟨hstop, rfl, by simp [inIteration, hcalling], by simp [inIteration, hcalling]⟩
  | worked => exact ⟨hstop, rfl, le_refl _, id⟩
  | handled hprocessing =>
      exact ⟨hstop, rfl, by simp [inIteration, hprocessing], fun _ => rfl⟩
  | failed _ => exact ⟨hstop, rfl, by simp [inIteration], fun _ => rfl⟩
  | woken _ _ => exact ⟨hstop, rfl, by simp [inIteration], fun _ => rfl⟩

/-- The system has a worker busy exactly while its process is in the middle of
an iteration, and only finitely many processes run. -/
structure Coherent (x : Fleet M) : Prop where
  processing : ∀ i, x.world.workers i ≠ .idle ↔ x.stage i = .processing
  finite : ∃ live : List WorkerId, ∀ i, x.stage i ≠ .dead → i ∈ live

/-- Not in the middle of an iteration. -/
theorem Coherent.idle (h : Coherent x) (hi : x.stage i ≠ .processing) :
    x.world.workers i = .idle := by
  by_contra hbusy
  exact hi ((h.processing i).mp hbusy)

/-- The worker of a process outside its transaction is idle, that of one inside
is not. -/
theorem Turned.busy {t : Turn M} (h : Coherent x) (ht : Turned d x t y)
    (hi : t.process = some i) :
    y.world.workers i ≠ .idle ↔ (y.loops i).stage = .processing := by
  have hout : ∀ stage, x.stage i = stage → stage ≠ .processing →
      ∀ l : Loop, l.stage ≠ .processing →
        (x.world.workers i ≠ .idle ↔ l.stage = .processing) :=
          fun stage hstage hne l hl =>
    iff_of_false (fun hbusy => hbusy (h.idle (hstage ▸ hne))) hl
  cases ht with
  | outside _ _ => cases hi
  | elapsed _ => cases hi
  | started hdead =>
      cases hi
      rw [loops_setLoop]
      exact hout _ hdead (by simp) _ (by simp [Loop.init])
  | killed _ =>
      cases hi
      rw [Fleet.setStage, loops_setLoop]
      exact iff_of_false (fun hbusy => hbusy (dropped_self _ _)) (by simp)
  | told _ =>
      cases hi
      rw [loops_setLoop]
      exact h.processing i
  | ended htesting _ =>
      cases hi
      rw [Fleet.setStage, loops_setLoop]
      exact hout _ htesting (by simp) _ (by simp)
  | began htesting _ =>
      cases hi
      rw [loops_setLoop]
      exact hout _ htesting (by simp) _ (by simp)
  | queried _ hs =>
      cases hi
      rw [Fleet.setStage, loops_setLoop]
      refine iff_of_true ?_ rfl
      cases step_sound hs with
      | selected _ =>
          intro hidle
          have hphase := hidle.symm.trans (Function.update_self i _ x.world.workers)
          cases hphase
  | worked hprocessing _ hbusy =>
      cases hi
      exact iff_of_true hbusy hprocessing
  | iterated _ _ hidle =>
      cases hi
      rw [iterated_world, iterated_loops]
      refine iff_of_false (fun hbusy => hbusy hidle) ?_
      split <;> simp
  | disconnected _ =>
      cases hi
      rw [iterated_world, iterated_loops]
      exact iff_of_false (fun hbusy => hbusy (dropped_self _ _)) (by simp)
  | woken hwaiting _ =>
      cases hi
      rw [Fleet.setStage, loops_setLoop]
      exact hout _ hwaiting (by simp) _ (by simp)

theorem Coherent.turned {t : Turn M} (h : Coherent x) (ht : Turned d x t y) :
    Coherent y where
  processing i := by
    by_cases hi : t.process = some i
    · exact ht.busy h hi
    · rw [ht.workers hi, Fleet.stage, ht.loops hi]
      exact h.processing i
  finite := by
    obtain ⟨live, hlive⟩ := h.finite
    refine ⟨t.process.toList ++ live, fun i hi => ?_⟩
    by_cases hprocess : t.process = some i
    · exact List.mem_append_left _ (Option.mem_toList.mpr hprocess)
    · rw [Fleet.stage, ht.loops hprocess] at hi
      exact List.mem_append_right _ (hlive i hi)

theorem coherent_fresh (h : x.Fresh) : Coherent x where
  processing i := by
    rw [Fleet.stage, h.loops i, h.world.workers i]
    exact iff_of_false (fun hne => hne rfl) (by simp [Loop.init])
  finite := ⟨[], fun i hi => absurd (congrArg Loop.stage (h.loops i)) hi⟩

theorem coherent_of_path {C : Fleet M → Turn M → Prop} (h : Path (turn d M) C x y)
    (hx : Coherent x) : Coherent y :=
  h.invariant (fun _ _ _ _ hc hs => hc.turned (turn_sound hs)) hx

/-- **No iteration begins once a worker has been told to stop**: it handles at
most the event of the iteration that is under way, and outside of one it never
touches the database again. -/
theorem stop_is_final {x₀ : Fleet M} (hx : Reaches (turn d M) x₀ x) (h₀ : x₀.Fresh)
    (hstop : (x.loops i).stopRequested = true)
    (h : Path (turn d M) (fun _ t => t ≠ .start i) x y) :
    (y.loops i).begun = (x.loops i).begun ∧
      (y.loops i).handled + (inIteration (y.loops i)).toNat ≤
        (x.loops i).handled + (inIteration (x.loops i)).toNat ∧
      (inIteration (x.loops i) = false → y.world.workers i = .idle) := by
  have hclosing : (y.loops i).stopRequested = true ∧ (y.loops i).begun =
    (x.loops i).begun ∧
      (y.loops i).handled + (inIteration (y.loops i)).toNat ≤
        (x.loops i).handled + (inIteration (x.loops i)).toNat ∧
      (inIteration (x.loops i) = false → inIteration (y.loops i) = false) := by
    refine h.invariant (I := fun z => (z.loops i).stopRequested = true ∧
      (z.loops i).begun = (x.loops i).begun ∧
      (z.loops i).handled + (inIteration (z.loops i)).toNat ≤
        (x.loops i).handled + (inIteration (x.loops i)).toNat ∧
      (inIteration (x.loops i) = false → inIteration (z.loops i) = false)) ?_
      ⟨hstop, rfl, le_refl _, id⟩
    rintro z t z' hstart ⟨hz, hbegun, hhandled, hin⟩ hs
    have ht := turn_sound hs
    by_cases hi : t.process = some i
    · obtain ⟨hz', hbegun', hhandled', hin'⟩ :=
        ((ht.loop hi).resolve_left fun h => hstart h.1).closing hz
      exact ⟨hz', hbegun'.trans hbegun, hhandled'.trans hhandled, fun h => hin' (hin h)⟩
    · rw [ht.loops hi]
      exact ⟨hz, hbegun, hhandled, hin⟩
  have hcoherent : Coherent y :=
    coherent_of_path h (coherent_of_path hx (coherent_fresh h₀))
  refine ⟨hclosing.2.1, hclosing.2.2.1, fun hx => hcoherent.idle fun hstage => ?_⟩
  have hout := hclosing.2.2.2 hx
  have hstage : (y.loops i).stage = .processing := hstage
  simp [inIteration, hstage] at hout

/-! ## Shutting down -/

/-- A turn of the loops alone. -/
inductive Unaided : Turn M → Prop where
  | test (i : WorkerId) : Unaided (.test i)
  | query (i : WorkerId) : Unaided (.query i)
  | work (i : WorkerId) (work : Work) : Unaided (.work i work)
  | wake (i : WorkerId) : Unaided (.wake i)

/-- Every running process has been told to stop. -/
structure Closing (d : Deployment) (x : Fleet M) : Prop where
  atWork : AtWork d.env x.world
  coherent : Coherent x
  told : ∀ i, x.stage i ≠ .dead → (x.loops i).stopRequested = true

theorem LoopMove.alive {interval now : Time} {l l' : Loop}
    (h : LoopMove interval now l l') (hl : l'.stage ≠ .dead) : l.stage ≠ .dead := by
  cases h with
  | killed => exact absurd rfl hl
  | told => exact hl
  | worked => exact hl
  | ended hstage _ => rw [hstage]; simp
  | began hstage _ => rw [hstage]; simp
  | queried hstage => rw [hstage]; simp
  | handled hstage => rw [hstage]; simp
  | failed hstage => rcases hstage with hstage | hstage <;> rw [hstage] <;> simp
  | woken hstage _ => rw [hstage]; simp

theorem Closing.turned {t : Turn M} (h : Closing d x) (hu : Unaided t)
    (ht : Turned d x t y) :
    Closing d y where
  atWork := ht.reaches.invariant (fun _ _ _ _ hw hs => hw.move (step_sound hs)) h.atWork
  coherent := h.coherent.turned ht
  told i hi := by
    by_cases hp : t.process = some i
    · rcases ht.loop hp with ⟨rfl, _⟩ | hm
      · cases hu
      · exact (hm.closing (h.told i (hm.alive hi))).1
    · rw [Fleet.stage, ht.loops hp] at hi
      rw [ht.loops hp]
      exact h.told i hi

/-- A run of the loops alone. -/
abbrev Unfolds (d : Deployment) (x y : Fleet M) : Prop :=
  Path (turn d M) (fun _ t => Unaided t) x y

theorem Closing.unfolds (h : Closing d x) (hp : Unfolds d x y) : Closing d y :=
  hp.invariant (fun _ _ _ hu hc hs => hc.turned hu (turn_sound hs)) h

/-- Bring the processes to a stage one by one, where each can be brought there
on its own. -/
theorem each (Good : Fleet M → Prop) (P : Stage → Prop)
    (hmove : ∀ x i, Good x → ∃ y, Unfolds d x y ∧ Good y ∧ P (y.stage i) ∧
      ∀ j, j ≠ i → y.stage j = x.stage j) (ids : List WorkerId) :
    ∀ x, Good x → (∀ i, i ∉ ids → P (x.stage i)) →
      ∃ y, Unfolds d x y ∧ Good y ∧ ∀ i, P (y.stage i) := by
  induction ids with
  | nil => exact fun x hx hP => ⟨x, .refl, hx, fun i => hP i (List.not_mem_nil)⟩
  | cons i ids ih =>
      intro x hx hP
      obtain ⟨y, hxy, hy, hi, hothers⟩ := hmove x i hx
      obtain ⟨z, hyz, hz, hall⟩ := ih y hy fun j hj => by
        by_cases hji : j = i
        · exact hji ▸ hi
        · rw [hothers j hji]
          exact hP j fun hmem => hj ((List.mem_cons.mp hmem).resolve_left hji)
      exact ⟨z, hxy.trans hyz, hz, hall⟩

theorem stage_of_turn {t : Turn M} (h : turn d M x t = some y) {j : WorkerId}
    (hj : t.process ≠ some j) : y.stage j = x.stage j :=
  congrArg Loop.stage ((turn_sound h).loops hj)

/-- A process that has called `_process_one` sends its claim query. -/
theorem Closing.query (h : Closing d x) (i : WorkerId) :
    ∃ y, Unfolds d x y ∧ Closing d y ∧ y.stage i ≠ .calling ∧
      ∀ j, j ≠ i → y.stage j = x.stage j := by
  by_cases hi : x.stage i = .calling
  · have hidle : x.world.workers i = .idle := h.coherent.idle (by rw [hi]; simp)
    have hs : ∃ y, turn d M x (.query i) = some y := by
      refine Option.isSome_iff_exists.mp ?_
      simp only [turn, hi, step, hidle]
      rfl
    obtain ⟨y, hy⟩ := hs
    refine ⟨y, .snoc .refl (.query i) hy, h.turned (.query i) (turn_sound hy), ?_,
      fun j hj => stage_of_turn hy fun heq => hj (Option.some.inj heq).symm⟩
    cases turn_sound hy with
    | queried _ _ =>
        rw [Fleet.stage, Fleet.setStage, loops_setLoop]
        simp
  · exact ⟨x, .refl, h, hi, fun _ _ => rfl⟩

theorem busy_of_works {env : Env} {w w' : World M} {label : Label M} (h : Works i label)
    (hs : step env M w label = some w') : w.workers i ≠ .idle := by
  intro hi
  cases h with
  | lock => simp [step, hi] at hs
  | perform choice => simp [step, hi] at hs
  | finish => simp [step, hi] at hs

/-- What the workers do in the system, their processes do. -/
theorem unfolds_of_working {w' : World M} (hx : Coherent x)
    (h : Path (step d.env M) (fun _ label => Working label) x.world w') :
    ∃ y, Unfolds d x y ∧ y.world = w' := by
  induction h with
  | refl => exact ⟨x, .refl, rfl⟩
  | @snoc w w' label _ hworking hs ih =>
      obtain ⟨y, hxy, rfl⟩ := ih
      obtain ⟨i, hworks⟩ := hworking
      have hi : y.stage i = .processing :=
        ((coherent_of_path hxy hx).processing i).mp (busy_of_works hworks hs)
      have hlabel : ∃ work : Work, work.label i = label := by
        cases hworks with
        | lock => exact ⟨.lock, rfl⟩
        | perform choice => exact ⟨.perform choice, rfl⟩
        | finish => exact ⟨.finish true, rfl⟩
      obtain ⟨work, rfl⟩ := hlabel
      have hturn : ∃ z, turn d M y (.work i work) = some z ∧ z.world = w' := by
        simp only [turn, hi, hs, Option.map_some]
        refine ⟨_, rfl, ?_⟩
        split
        · exact iterated_world _
        · rfl
      obtain ⟨z, hz, hworld⟩ := hturn
      exact ⟨z, hxy.snoc (.work i work) hz, hworld⟩

/-- Outside of an iteration a process that has been told to stop ends. -/
theorem Closing.stop (h : Closing d x) (hrest : AtRest x.world)
    (hcalling : x.stage i ≠ .calling) :
    ∃ y, Unfolds d x y ∧ y.world = x.world ∧ (y.stage i = .stopped ∨ y.stage i = .dead) ∧
      ∀ j, j ≠ i → y.stage j = x.stage j := by
  have htest : ∀ z : Fleet M, z.stage i = .testing → (z.loops i).stopRequested = true →
      turn d M z (.test i) = some (z.setStage i .stopped) := fun z hz hstop => by
    simp only [turn, hz, hstop, if_true]
  have hstage : ∀ (z : Fleet M) stage, (z.setStage i stage).stage i = stage :=
    fun z stage => congrArg Loop.stage (loops_setLoop _)
  cases hi : x.stage i with
  | dead => exact ⟨x, .refl, rfl, .inr hi, fun _ _ => rfl⟩
  | stopped => exact ⟨x, .refl, rfl, .inl hi, fun _ _ => rfl⟩
  | calling => exact absurd hi hcalling
  | processing => exact absurd (hrest.idle i) ((h.coherent.processing i).mpr hi)
  | testing =>
      have hs := htest x hi (h.told i (by rw [hi]; simp))
      exact ⟨_, .snoc .refl (.test i) hs, rfl, .inl (hstage _ _),
        fun j hj => stage_of_turn hs fun heq => hj (Option.some.inj heq).symm⟩
  | waiting deadline =>
      have hstop := h.told i (by rw [hi]; simp)
      have hwake : turn d M x (.wake i) = some (x.setStage i .testing) := by
        simp only [turn, hi, hstop, Bool.true_or, if_true]
      have hs := htest (x.setStage i .testing) (hstage _ _)
        ((congrArg Loop.stopRequested (loops_setLoop _)).trans hstop)
      refine ⟨_, .snoc (.snoc .refl (.wake i) hwake) (.test i) hs, rfl, .inl (hstage _ _),
        fun j hj => ?_⟩
      rw [stage_of_turn hs fun heq => hj (Option.some.inj heq).symm,
        stage_of_turn hwake fun heq => hj (Option.some.inj heq).symm]

theorem LoopMove.not_calling {interval now : Time} {l l' : Loop}
    (h : LoopMove interval now l l') (hstop : l.stopRequested = true)
    (hl : l.stage ≠ .calling) : l'.stage ≠ .calling := by
  cases h with
  | told => exact hl
  | worked => exact hl
  | began _ hno =>
      rw [hstop] at hno
      cases hno
  | _ => exact fun heq => by cases heq

/-- Once told to stop, no process calls `_process_one` again. -/
theorem Closing.not_calling (h : Closing d x) (hx : ∀ i, x.stage i ≠ .calling)
    (hp : Unfolds d x y) : ∀ i, y.stage i ≠ .calling := by
  refine (hp.invariant (I := fun z => Closing d z ∧ ∀ i, z.stage i ≠ .calling)
    ?_ ⟨h, hx⟩).2
  rintro z t z' hu ⟨hz, hcalling⟩ hs
  have ht := turn_sound hs
  refine ⟨hz.turned hu ht, fun i => ?_⟩
  by_cases hi : t.process = some i
  · rcases ht.loop hi with ⟨rfl, _⟩ | hm
    · cases hu
    · by_cases hdead : z.stage i = .dead
      · exact fun heq =>
          hm.alive (by rw [show (z'.loops i).stage = _ from heq]; simp) hdead
      · exact hm.not_calling (hz.told i hdead) (hcalling i)
  · rw [Fleet.stage, ht.loops hi]
    exact hcalling i

/-- **Told to stop, all workers can end by themselves**, without a poll interval
passing, and leave no row locked and nothing uncommitted.  A call under way is
ended by an answer or by its time-out. -/
theorem shuts_down {x₀ : Fleet M} (hx : Reaches (turn d M) x₀ x) (h₀ : x₀.Fresh)
    (hm : Bounded M) (hstop : ∀ i, x.stage i ≠ .dead → (x.loops i).stopRequested = true) :
    ∃ y, Unfolds d x y ∧ (∀ i, y.stage i = .stopped ∨ y.stage i = .dead) ∧
      AtRest y.world := by
  have hclosing : Closing d x :=
    ⟨atWork_of_path (reaches_world hx) h₀.world,
      coherent_of_path hx (coherent_fresh h₀), hstop⟩
  have hout : ∀ z : Fleet M, Coherent z → ∃ ids : List WorkerId, ∀ i, i ∉ ids →
    z.stage i = .dead :=
    fun z hz => by
      obtain ⟨live, hlive⟩ := hz.finite
      exact ⟨live, fun i hi => by_contra fun hdead => hi (hlive i hdead)⟩
  -- the claim queries first, so that every iteration under way is the system's
  obtain ⟨ids, hids⟩ := hout x hclosing.coherent
  obtain ⟨a, hxa, ha, hcalling⟩ := each (Closing d) (· ≠ .calling)
    (fun x i hx => hx.query i) ids x hclosing fun i hi => by rw [hids i hi]; simp
  -- then the iterations
  obtain ⟨w', hdrain, hrest⟩ := ha.atWork.drains hm
  obtain ⟨b, hab, rfl⟩ := unfolds_of_working ha.coherent hdrain
  have hb : Closing d b := ha.unfolds hab
  -- then the loops
  obtain ⟨ids, hids⟩ := hout b hb.coherent
  obtain ⟨y, hby, hy, hended⟩ := each
    (fun z => Closing d z ∧ AtRest z.world ∧ ∀ i, z.stage i ≠ .calling)
    (fun stage => stage = .stopped ∨ stage = .dead) (fun z i hz => by
      obtain ⟨z', hzz', hworld, hi, hothers⟩ := hz.1.stop (i := i) hz.2.1 (hz.2.2 i)
      exact ⟨z', hzz', ⟨hz.1.unfolds hzz', hworld ▸ hz.2.1, hz.1.not_calling hz.2.2 hzz'⟩,
        hi, hothers⟩) ids b ⟨hb, hrest, ha.not_calling hcalling hab⟩
    fun i hi => .inr (hids i hi)
  exact ⟨y, (hxa.trans hab).trans hby, hended, hy.2.1⟩

end Turned

/-! ## A small fleet -/

/-- No process, and a system right after installation. -/
def Fleet.fresh (policy : Policy) : Fleet (metronome policy) where
  world := World.fresh policy
  elapsed := 0
  loops _ := .init .dead 0

theorem fresh_fleet (policy : Policy) : (Fleet.fresh policy).Fresh :=
  ⟨initial_fresh policy, fun _ => rfl⟩

/-- The default poll interval. -/
def deployment (env : Env) : Deployment where
  env
  workerPollIntervalSeconds := 2
  workerPollIntervalSeconds_ge := by decide +kernel

/-- One worker handles an event when both are told to stop, the other has found
nothing to claim and waits. -/
def stoppingAda : Fleet (metronome policyRejecting) :=
  (runWhen (turn (deployment (installation [adaCreated])) _)
    (fun _ t => t.process.all (· < 2)) (.fresh _)
    ([.outside (.webhook adaCreated.request), .start 0, .start 1, .test 0, .query 0,
      .work 0 .lock] ++ List.replicate 3 (.work 0 (.perform .none)) ++
      [.test 1, .query 1, .work 1 .lock, .work 1 .lock, .elapse 1, .requestStop 0,
        .requestStop 1])).getD (.fresh _)

theorem stoppingAda_path : Path (turn (deployment (installation [adaCreated])) _)
    (fun _ t => t.process.all (· < 2) = true) (.fresh policyRejecting) stoppingAda :=
  path_runWhen_getD (fun _ _ h => h) _ _

theorem stoppingAda_loops : (stoppingAda.stage 0, stoppingAda.stage 1) =
    (.processing, .waiting 2) ∧ (stoppingAda.loops 0).stopRequested = true ∧
      (stoppingAda.loops 1).stopRequested = true ∧ (stoppingAda.loops 1).begun = 1 := by
  decide +kernel

/-- Only two processes have been started. -/
theorem stoppingAda_dead {i : WorkerId} (hi : 2 ≤ i) : stoppingAda.stage i = .dead := by
  refine stoppingAda_path.invariant (I := fun x => x.stage i = .dead) ?_ rfl
  intro x t y ht hx hs
  refine (stage_of_turn hs fun heq => ?_).trans hx
  rw [heq, Option.all_some, decide_eq_true_eq] at ht
  exact absurd ht (Nat.not_lt.mpr hi)

/-- The idle worker has polled as often as it may. -/
theorem polls_bounded_stoppingAda : (stoppingAda.loops 1).begun = 1 ∧
    (2 : Rat) * (stoppingAda.loops 1).begun ≤ 2 * ((stoppingAda.loops 1).handled + 1) +
      (stoppingAda.elapsed - (stoppingAda.loops 1).startedAt) :=
  ⟨stoppingAda_loops.2.2.2, polls_bounded stoppingAda_path.reaches (fresh_fleet _) 1⟩

/-- It wakes up and has nothing more to do. -/
theorem stop_is_final_stoppingAda :
    ∃ y, turn (deployment (installation [adaCreated])) _ stoppingAda (.wake 1) = some y ∧
      (y.loops 1).begun = 1 ∧ y.world.workers 1 = .idle := by
  obtain ⟨hstage, _, hstop, hbegun⟩ := stoppingAda_loops
  have hwaiting : stoppingAda.stage 1 = .waiting 2 := (Prod.mk.inj hstage).2
  have hs : turn (deployment (installation [adaCreated])) _ stoppingAda (.wake 1) =
      some (stoppingAda.setStage 1 .testing) := by
    simp only [turn, hwaiting, hstop, Bool.true_or, if_true]
  have hfinal := stop_is_final stoppingAda_path.reaches (fresh_fleet _) hstop
    (.snoc .refl (fun heq => by cases heq) hs)
  have hout : inIteration (stoppingAda.loops 1) = false := by
    simp [inIteration, show (stoppingAda.loops 1).stage = _ from hwaiting]
  exact ⟨_, hs, hfinal.1.trans hbegun, hfinal.2.2 hout⟩

/-- Both end, the busy one after its event. -/
theorem shuts_down_stoppingAda : stoppingAda.stage 0 = .processing ∧
    ∃ y, Unfolds (deployment (installation [adaCreated])) stoppingAda y ∧
      (∀ i, y.stage i = .stopped ∨ y.stage i = .dead) ∧ AtRest y.world := by
  obtain ⟨hstage, hzero, hone, _⟩ := stoppingAda_loops
  refine ⟨(Prod.mk.inj hstage).1, shuts_down stoppingAda_path.reaches (fresh_fleet _)
    (bounded_metronome _) fun i hi => ?_⟩
  rcases Nat.lt_or_ge i 2 with hlt | hge
  · rcases Nat.le_one_iff_eq_zero_or_eq_one.mp (Nat.le_of_lt_succ hlt) with rfl | rfl
    · exact hzero
    · exact hone
  · exact absurd (stoppingAda_dead hge) hi

end Sidecar.Ports.WorkerLoop
