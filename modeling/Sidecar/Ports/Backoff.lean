import Mathlib.Algebra.Order.Ring.Rat
import Mathlib.Tactic.Linarith
import Sidecar.Ports.Outcomes
import Sidecar.Ports.Remote

/-!
# The bounds of a retry

`_backoff_delay` forms the power before it applies the cap, and its draw goes
through `timedelta` and `datetime`.  Where the power is a float and the date
exists, the retry is between one second and `min(base * 2 ** (a - 1), cap)`
away; everywhere else scheduling it raises.

## Main results

* `delay_le_cappedDelay` — a delay is at most the capped power, computed
  exactly.
* `retry_scheduled_iff` — when a retry is scheduled.
-/

namespace Sidecar.Ports.Backoff

open Sidecar.Verified.Resumption
open Sidecar.Ports.Python
open Sidecar.Ports.Config
open Sidecar.Ports.Models
open Sidecar.Ports.Effects
open Sidecar.Ports.Worker
open Sidecar.Ports.Receiver
open Sidecar.Ports.Attempt
open Sidecar.Ports.Plans
open Sidecar.Ports.Outcomes
open Sidecar.Ports.Remote

variable {settings : Settings} {now : Time} {ρ : Surroundings} {s : Session}

/-! ## Delays -/

/-- `min(base * 2 ** n, cap)`, computed exactly. -/
def cappedDelay (settings : Settings) (n : Nat) : PyFloat :=
  match settings.workerRetryBaseSeconds with
  | .fin base => (PyFloat.fin (base * 2 ^ n)).min settings.workerRetryCapSeconds
  | base => base.min settings.workerRetryCapSeconds

/-- What `random.uniform` is asked for after so many attempts. -/
def drawBound (settings : Settings) (attempts : Int) : Except PyExc PyFloat :=
  (timesPow2 settings.workerRetryBaseSeconds (attempts - 1).toNat).map fun raw =>
    raw.min settings.workerRetryCapSeconds

/-- `u` is between 0 and `hi`, or comes from multiplying an infinite `hi` by
0. -/
def inRange : PyFloat → PyFloat → Bool
  | .fin hi, .fin u => 0 ≤ u && u ≤ hi
  | .inf, .fin u => 0 ≤ u
  | .inf, _ => true
  | _, _ => false

/-- The second that is `max(1, draw)` away can be written down. -/
def fits (now : Time) : PyFloat → Bool
  | .fin u => max 1 u < timedeltaEnd && now + max 1 u < datetimeEnd
  | .nan => now + 1 < datetimeEnd
  | .inf => false

/-- The draws of the system are in range. -/
theorem inRange_of_drawAllowed {hi u : PyFloat} (hhi : hi ≠ .nan)
    (h : drawAllowed hi u = true) : inRange hi u = true := by
  cases hi with
  | nan => exact absurd rfl hhi
  | inf => cases u <;> first | rfl | cases h
  | fin hi =>
      cases u with
      | fin u => exact h
      | inf => cases h
      | nan => cases h

theorem maxOne_fin (u : Rat) : maxOne (.fin u) = .fin (max 1 u) := by
  rw [maxOne, max_def]
  by_cases h : 1 < u
  · rw [if_pos h, if_pos (le_of_lt h)]
  · rw [if_neg h]
    split
    · next hle => rw [le_antisymm (not_lt.mp h) hle]
    · rfl

theorem addSeconds_fin_of_lt {q : Rat} (h : q < timedeltaEnd)
    (h' : now + q < datetimeEnd) :
    addSeconds now (.fin q) = .ok (now + q) := by
  rw [addSeconds, if_neg (not_le.mpr h), if_neg (not_le.mpr h')]

theorem lt_of_addSeconds_fin {q : Rat} {next : Time}
    (h : addSeconds now (.fin q) = .ok next) :
    q < timedeltaEnd ∧ now + q < datetimeEnd := by
  simp only [addSeconds] at h
  split at h
  · cases h
  · next hq =>
      split at h
      · cases h
      · next hend => exact ⟨not_le.mp hq, not_le.mp hend⟩

/-- The retry time exists exactly if it fits. -/
theorem fits_iff {draw : PyFloat} :
    fits now draw = true ↔ ∃ next, addSeconds now (maxOne draw) = .ok next := by
  cases draw with
  | fin u =>
      rw [maxOne_fin, fits, Bool.and_eq_true, decide_eq_true_eq, decide_eq_true_eq]
      constructor
      · exact fun h => ⟨_, addSeconds_fin_of_lt h.1 h.2⟩
      · exact fun ⟨_, h⟩ => lt_of_addSeconds_fin h
  | inf =>
      constructor
      · intro h
        cases h
      · rintro ⟨_, h⟩
        cases h
  | nan =>
      rw [fits, decide_eq_true_eq]
      constructor
      · exact fun h => ⟨_, addSeconds_fin_of_lt (by decide +kernel) h⟩
      · exact fun ⟨_, h⟩ => (lt_of_addSeconds_fin h).2

/-! ## Bounds -/

theorem le_fin {a b : Rat} : (PyFloat.fin a).le (.fin b) = true ↔ a ≤ b := by
  rw [PyFloat.le, decide_eq_true_eq]

theorem le_min_iff {q : Rat} {a b : PyFloat} (ha : a ≠ .nan) (hb : b ≠ .nan) :
    (PyFloat.fin q).le (a.min b) = true ↔
      (PyFloat.fin q).le a = true ∧ (PyFloat.fin q).le b = true := by
  cases a with
  | nan => exact absurd rfl ha
  | inf =>
      cases b with
      | nan => exact absurd rfl hb
      | _ => simp [PyFloat.min, PyFloat.le]
  | fin a =>
      cases b with
      | nan => exact absurd rfl hb
      | inf => simp [PyFloat.min, PyFloat.le]
      | fin b =>
          by_cases hba : b ≤ a
          · rw [PyFloat.min, if_pos (le_fin.mpr hba), le_fin, le_fin]
            exact ⟨fun h => ⟨le_trans h hba, h⟩, And.right⟩
          · rw [PyFloat.min, if_neg (fun h => hba (le_fin.mp h)), le_fin, le_fin]
            exact ⟨fun h => ⟨h, le_trans h (le_of_not_ge hba)⟩, And.left⟩

theorem ne_nan_of_le {q : Rat} {a : PyFloat} (h : (PyFloat.fin q).le a = true) :
    a ≠ .nan := by
  rintro rfl
  cases h

/-- The floor of a second stays below a bound of at least one. -/
theorem maxOne_le_of_inRange {hi u : PyFloat} {q : Rat}
    (hone : (PyFloat.fin 1).le hi = true)
    (hrange : inRange hi u = true) (hq : maxOne u = .fin q) :
    1 ≤ q ∧ (PyFloat.fin q).le hi = true := by
  cases u with
  | inf => cases hq
  | nan =>
      cases hq
      exact ⟨le_refl 1, hone⟩
  | fin u =>
      rw [maxOne_fin, PyFloat.fin.injEq] at hq
      subst hq
      refine ⟨le_max_left 1 u, ?_⟩
      cases hi with
      | nan => cases hone
      | inf => rfl
      | fin hi =>
          rw [inRange, Bool.and_eq_true, decide_eq_true_eq, decide_eq_true_eq] at hrange
          exact le_fin.mpr (max_le (le_fin.mp hone) hrange.2)

theorem one_le_power {base : Rat} (h : 1 ≤ base) (n : Nat) : 1 ≤ base * 2 ^ n :=
  one_le_mul_of_one_le_of_one_le h (one_le_pow₀ (by decide))

/-- The power as a float and the exact one compare alike with a delay that
`timedelta` holds. -/
theorem le_power {n : Nat} {raw : PyFloat} {base q : Rat}
    (hraw : timesPow2 (.fin base) n = .ok raw) :
    ((PyFloat.fin q).le raw = true → q < timedeltaEnd → q ≤ base * 2 ^ n) ∧
      (1 ≤ base → (PyFloat.fin 1).le raw = true) := by
  simp only [timesPow2] at hraw
  split at hraw
  · cases hraw
  · cases hraw
    by_cases hlarge : floatEnd ≤ base * 2 ^ n
    · rw [if_pos hlarge]
      have hend : timedeltaEnd ≤ floatEnd := by decide +kernel
      exact ⟨fun _ hq => le_of_lt (lt_of_lt_of_le hq (le_trans hend hlarge)),
        fun _ => rfl⟩
    · rw [if_neg hlarge]
      exact ⟨fun h _ => le_fin.mp h, fun h => le_fin.mpr (one_le_power h n)⟩

/-- **A delay is at most the capped power**, computed exactly. -/
theorem delay_le_cappedDelay {attempts : Int} {hi u : PyFloat} {q : Rat}
    (h : drawBound settings attempts = .ok hi) (hrange : inRange hi u = true)
    (hq : maxOne u = .fin q) (hlt : q < timedeltaEnd) :
    1 ≤ q ∧ (PyFloat.fin q).le (cappedDelay settings (attempts - 1).toNat) = true := by
  have hbase := settings.workerRetryBaseSeconds_ge
  have hcap := settings.workerRetryCapSeconds_ge
  unfold drawBound at h
  cases hraw : timesPow2 settings.workerRetryBaseSeconds (attempts - 1).toNat with
  | error exc => rw [hraw] at h; cases h
  | ok raw =>
      rw [hraw] at h
      cases h
      unfold cappedDelay
      cases hb : settings.workerRetryBaseSeconds with
      | nan => rw [hb] at hbase; cases hbase
      | inf =>
          rw [hb] at hraw
          have hraw : raw = .inf := by
            simp only [timesPow2] at hraw
            split at hraw <;> cases hraw
            rfl
          subst hraw
          have hone : (PyFloat.fin 1).le
            (PyFloat.min .inf settings.workerRetryCapSeconds) = true :=
            (le_min_iff (by simp) (ne_nan_of_le hcap)).mpr ⟨rfl, hcap⟩
          exact maxOne_le_of_inRange hone hrange hq
      | fin base =>
          rw [hb] at hraw hbase
          obtain ⟨hpower, hraw'⟩ := @le_power _ raw base q hraw
          have hraw' := hraw' (le_fin.mp hbase)
          have hone := (le_min_iff (ne_nan_of_le hraw') (ne_nan_of_le hcap)).mpr
            ⟨hraw', hcap⟩
          obtain ⟨hfloor, hle⟩ := maxOne_le_of_inRange hone hrange hq
          obtain ⟨hle, hlecap⟩ :=
            (le_min_iff (ne_nan_of_le hraw') (ne_nan_of_le hcap)).mp hle
          refine ⟨hfloor, (le_min_iff (by simp) (ne_nan_of_le hcap)).mpr ⟨?_, hlecap⟩⟩
          exact le_fin.mpr (hpower hle hlt)

/-- The power is converted exactly if it is below `2 ** 1024`. -/
theorem drawBound_ok_iff {attempts : Int} :
    (∃ hi, drawBound settings attempts = .ok hi) ↔ attempts ≤ 1024 := by
  unfold drawBound
  constructor
  · rintro ⟨hi, h⟩
    by_contra hlarge
    unfold timesPow2 at h
    rw [if_pos (by omega)] at h
    cases h
  · intro h
    obtain ⟨raw, hraw⟩ := timesPow2_ok settings.workerRetryBaseSeconds
      (n := (attempts - 1).toNat) (by omega)
    rw [hraw]
    exact ⟨_, rfl⟩

/-! ## Scheduling -/

/-- A retry as documented: the row is pending, and due between one second and
the capped power from now. -/
structure Scheduled (settings : Settings) (now : Time) (before after : WebhookEvent) :
    Prop where
  status : after.status = .PENDING
  later : now + 1 ≤ after.nextAttemptAt
  capped : (PyFloat.fin (after.nextAttemptAt - now)).le
    (cappedDelay settings (before.attempts - 1).toNat) = true

theorem retryAt_eq (attempts : Int) (draw : PyFloat → PyFloat) :
    retryAt settings attempts now draw =
      (drawBound settings attempts >>= fun hi => addSeconds now (maxOne (draw hi))) := by
  have hfloor : ((if attempts < 1 then 1 else attempts) - 1).toNat =
      (attempts - 1).toNat := by
    split <;> omega
  rw [retryAt, drawBound, hfloor]
  cases timesPow2 settings.workerRetryBaseSeconds (attempts - 1).toNat <;> rfl

/-- **When the next attempt has a date**: the power is a float, and what is drawn
can be written down. -/
theorem retryAt_ok_iff {attempts : Int} {draw : PyFloat → PyFloat} :
    (∃ next, retryAt settings attempts now draw = .ok next) ↔
      attempts ≤ 1024 ∧
        ∀ hi, drawBound settings attempts = .ok hi → fits now (draw hi) = true := by
  rw [retryAt_eq]
  constructor
  · rintro ⟨next, h⟩
    obtain ⟨hi, hbound, hnext⟩ := bind_eq_ok.mp h
    refine ⟨drawBound_ok_iff.mp ⟨hi, hbound⟩, fun hi' hbound' => fits_iff.mpr ⟨next, ?_⟩⟩
    rw [hbound] at hbound'
    cases hbound'
    exact hnext
  · rintro ⟨hattempts, hfits⟩
    obtain ⟨hi, hbound⟩ := drawBound_ok_iff.mpr hattempts
    obtain ⟨next, hnext⟩ := fits_iff.mp (hfits hi hbound)
    exact ⟨next, (bind_of_eq_ok hbound _).trans hnext⟩

/-- **When a retry is scheduled**: the session is usable, the power is a float,
and the date exists. -/
theorem retry_scheduled_iff (ρ : Surroundings) (s : Session) (reason : String)
    (hmax : s.event.attempts < settings.workerMaxAttempts)
    (hdraw : ∀ hi, drawBound settings s.event.attempts = .ok hi →
      inRange hi (ρ.draw hi) = true) :
    (∃ s', ρ.play (scheduleRetryOrFail settings reason) s = (s', .ok ()) ∧
        Scheduled settings (ρ.clock s.flushed) s.event s'.event) ↔
      s.poisoned = false ∧ s.event.attempts ≤ 1024 ∧
        ∀ hi, drawBound settings s.event.attempts = .ok hi →
          fits (ρ.clock s.flushed) (ρ.draw hi) = true := by
  cases hp : s.poisoned with
  | true =>
      rw [play_scheduleRetryOrFail_poisoned reason hp]
      constructor
      · rintro ⟨_, h, _⟩
        cases h
      · rintro ⟨h, _⟩
        cases h
  | false =>
      rcases @play_scheduleRetryOrFail settings ρ s reason hp with
        ⟨hle, _⟩ | ⟨_, ⟨next, s', hnext, hplay, _, hevent⟩ | ⟨exc, s', hexc, hplay, _⟩⟩
      · exact absurd hle (not_le.mpr hmax)
      · have hdate := retryAt_ok_iff.mp ⟨next, hnext⟩
        rw [retryAt_eq] at hnext
        obtain ⟨hi, hbound, hnext⟩ := bind_eq_ok.mp hnext
        constructor
        · exact fun _ => ⟨rfl, hdate⟩
        · intro _
          refine ⟨s', hplay, ?_⟩
          rw [hevent]
          cases hdelay : maxOne (ρ.draw hi) with
          | inf => rw [hdelay] at hnext; cases hnext
          | nan => rw [hdelay] at hnext; cases hnext
          | fin q =>
              rw [hdelay] at hnext
              obtain ⟨hfloor, hcapped⟩ :=
                delay_le_cappedDelay hbound (hdraw hi hbound) hdelay
                (lt_of_addSeconds_fin hnext).1
              rw [addSeconds_fin hnext]
              refine ⟨rfl, add_le_add_right hfloor _, ?_⟩
              show (PyFloat.fin (ρ.clock s.flushed + q - ρ.clock s.flushed)).le _ = true
              rw [add_sub_cancel_left]
              exact hcapped
      · rw [hplay]
        constructor
        · rintro ⟨_, h, _⟩
          cases h
        · rintro ⟨_, hdate⟩
          obtain ⟨next, hnext⟩ := retryAt_ok_iff.mpr hdate
          rw [hnext] at hexc
          cases hexc

/-- No rows, a stopped clock and a constant draw. -/
def alone (now : Time) (draw : PyFloat) : Surroundings where
  customers _ := none
  subscriptions _ := none
  customers_id _ _ h := by cases h
  subscriptions_id _ _ h := by cases h
  outcome _ := .timeoutError ""
  refusal _ := none
  clock _ := now
  draw _ := draw

/-- An attempt on an event that has been tried before. -/
def retrying (attempts : Int) : Session :=
  .start { newEvent 0 "evt_1" "customer.created" [] with attempts }

theorem retry_scheduled_iff_first : ∃ s',
    (alone 100 (.fin 3)).play (scheduleRetryOrFail defaultSettings "timed out")
    (retrying 1) =
      (s', .ok ()) ∧
    Scheduled defaultSettings 100 (retrying 1).event s'.event := by
  have hrange : (match drawBound defaultSettings 1 with
      | .ok hi => inRange hi (.fin 3)
      | .error _ => false) = true := by decide +kernel
  have hfits : fits 100 (.fin 3) = true := by decide +kernel
  refine (retry_scheduled_iff (alone 100 (.fin 3)) (retrying 1) "timed out" (by decide)
    fun hi h => ?_).mpr ⟨rfl, by decide, fun _ _ => hfits⟩
  have h : drawBound defaultSettings 1 = .ok hi := h
  rw [h] at hrange
  exact hrange

def patientSettings : Settings :=
  { defaultSettings with workerMaxAttempts := 2000, workerMaxAttempts_ge := by decide }

def slowSettings : Settings :=
  { defaultSettings with
    workerRetryBaseSeconds := .fin (10 ^ 14)
    workerRetryCapSeconds := .fin (10 ^ 14)
    workerRetryBaseSeconds_ge := by decide +kernel
    workerRetryCapSeconds_ge := by decide +kernel }

/-- The power of a late retry is no float, though the cap would be applied to
it; and a retry may be too far away for `timedelta`. -/
theorem retry_scheduled_overflow :
    (¬∃ s', (alone 100 (.fin 3)).play (scheduleRetryOrFail patientSettings "timed out")
        (retrying 1025) = (s', .ok ()) ∧
      Scheduled patientSettings 100 (retrying 1025).event s'.event) ∧
    ¬∃ s', (alone 100 (.fin (10 ^ 14))).play
      (scheduleRetryOrFail slowSettings "timed out")
        (retrying 1) = (s', .ok ()) ∧
      Scheduled slowSettings 100 (retrying 1).event s'.event := by
  have hlate : ((alone 100 (.fin 3)).play
    (scheduleRetryOrFail patientSettings "timed out")
      (retrying 1025)).2 =
        .error (.overflowError "int too large to convert to float") := by
    decide +kernel
  have hslow : ((alone 100 (.fin (10 ^ 14))).play
    (scheduleRetryOrFail slowSettings "timed out")
      (retrying 1)).2 =
        .error (.overflowError "days=1157407407; must have magnitude <= 999999999") := by
    decide +kernel
  refine ⟨fun ⟨s', hplay, _⟩ => ?_, fun ⟨s', hplay, _⟩ => ?_⟩
  · rw [hplay] at hlate
    cases hlate
  · rw [hplay] at hslow
    cases hslow

end Sidecar.Ports.Backoff
