import Mathlib.Algebra.Order.Group.Basic
import Mathlib.Algebra.BigOperators.Group.List.Basic

/-!
# Trials that wait for each other

Something is tried repeatedly, and every trial says how long to wait before the
next.  A list of trials, the last one first, is spaced if no trial was too
early.  Times and waits live in any ordered group.

## Main results

* `waited_le_elapsed` — spaced trials take as long as their waits.
* `sum_le_waited` — waits that keep a lower bound each keep its sum.
-/

namespace Sidecar.Verified.Waits

variable {α : Type*} [AddCommGroup α]

structure Trial (α : Type*) where
  time : α
  /-- How long the next trial has to wait. -/
  wait : α
deriving DecidableEq

/-- The time from the first trial to the last. -/
def elapsed : List (Trial α) → α
  | [] => 0
  | last :: before => last.time - ((last :: before).getLast (List.cons_ne_nil _ _)).time

/-- What the trials before the last one said to wait. -/
def waited (trials : List (Trial α)) : α := (trials.tail.map Trial.wait).sum

theorem elapsed_cons_cons (t t' : Trial α) (ts : List (Trial α)) :
    elapsed (t :: t' :: ts) = t.time - t'.time + elapsed (t' :: ts) := by
  rw [elapsed, elapsed, List.getLast_cons (List.cons_ne_nil t' ts), sub_add_sub_cancel]

theorem waited_cons_cons (t t' : Trial α) (ts : List (Trial α)) :
    waited (t :: t' :: ts) = t'.wait + waited (t' :: ts) := by
  rw [waited, waited, List.tail_cons, List.tail_cons, List.map_cons, List.sum_cons]

variable [PartialOrder α]

/-- Trials of which none was too early. -/
def Spaced (trials : List (Trial α)) : Prop :=
  trials.IsChain fun later earlier => earlier.time + earlier.wait ≤ later.time

variable [IsOrderedAddMonoid α]

/-- **Spaced trials take as long as their waits.** -/
theorem waited_le_elapsed {trials : List (Trial α)} (h : Spaced trials) :
    waited trials ≤ elapsed trials := by
  induction trials with
  | nil => exact le_refl 0
  | cons t ts ih =>
      cases ts with
      | nil => exact le_of_eq (sub_self t.time).symm
      | cons t' ts =>
          obtain ⟨hwait, hspaced⟩ := List.isChain_cons_cons.mp h
          rw [elapsed_cons_cons, waited_cons_cons]
          exact add_le_add (le_sub_iff_add_le'.mpr hwait) (ih hspaced)

/-- **Lower bounds of the waits add up.**  The bound may depend on how many
trials there were before. -/
theorem sum_le_waited {trials : List (Trial α)} {bound : Nat → α}
    (h : ∀ t before, t :: before <:+ trials.tail → bound before.length ≤ t.wait) :
    ((List.range (trials.length - 1)).map bound).sum ≤ waited trials := by
  rw [waited, ← List.length_tail]
  generalize trials.tail = ts at h
  induction ts with
  | nil => exact le_refl 0
  | cons t ts ih =>
      rw [List.length_cons, List.range_succ, List.map_append, List.sum_append,
        List.map_cons, List.map_nil, List.sum_singleton, List.map_cons, List.sum_cons,
        add_comm]
      refine add_le_add (h t ts List.suffix_rfl) (ih fun u before hsuffix => ?_)
      exact h u before (hsuffix.trans (List.suffix_cons t ts))

end Sidecar.Verified.Waits
