/-!
# Threads of a schedule

Tasks are performed one after the other, and `Schedule` is the outcome of a
list of them.  A `Thread` is a part of the state with the tasks that concern
it: the other tasks leave its part alone, and what its own tasks make of it is
determined by it.  Then two schedules that agree on the tasks of the thread, in
their order, agree on its part, wherever the tasks of others stand in between.

## Main results

* `Schedule.split` — a schedule can be cut anywhere.
* `Thread.same_of_filter_eq` — the part of a thread depends on its tasks.
-/

namespace Sidecar.Verified.Threads

variable {S T : Type}

/-- The tasks lead from one state to another. -/
inductive Schedule (perform : T → S → S → Prop) : List T → S → S → Prop where
  | nil {x : S} : Schedule perform [] x x
  | cons {t : T} {ts : List T} {x y z : S} :
      perform t x y → Schedule perform ts y z → Schedule perform (t :: ts) x z

variable {perform : T → S → S → Prop} {I : S → Prop} {l l' : List T} {x x' y y' : S}

theorem Schedule.split (h : Schedule perform (l ++ l') x y) :
    ∃ z, Schedule perform l x z ∧ Schedule perform l' z y := by
  induction l generalizing x with
  | nil => exact ⟨x, .nil, h⟩
  | cons t ts ih =>
      cases h with
      | cons hperform hrest =>
          obtain ⟨z, hleft, hright⟩ := ih hrest
          exact ⟨z, .cons hperform hleft, hright⟩

theorem Schedule.invariant (hI : ∀ t x y, I x → perform t x y → I y)
    (h : Schedule perform l x y) (hx : I x) : I y := by
  induction h with
  | nil => exact hx
  | cons hperform _ ih => exact ih (hI _ _ _ hx hperform)

/-- A part of the states in which `I` holds, and the tasks that concern it. -/
structure Thread (perform : T → S → S → Prop) (I : S → Prop) where
  own : T → Bool
  Same : S → S → Prop
  equiv : Equivalence Same
  invariant : ∀ t x y, I x → perform t x y → I y
  other : ∀ t x y, I x → perform t x y → own t = false → Same x y
  step : ∀ t x x' y y', I x → I y → own t = true → Same x y →
    perform t x x' → perform t y y' → Same x' y'

namespace Thread

variable (θ : Thread perform I)

/-- The tasks of others leave the part alone. -/
theorem same_of_other (h : Schedule perform l x y) (hx : I x)
    (hl : ∀ t ∈ l, θ.own t = false) :
    θ.Same x y := by
  induction h with
  | nil => exact θ.equiv.refl _
  | @cons t ts x y z hperform _ ih =>
      have hfirst := θ.other t x y hx hperform (hl t List.mem_cons_self)
      have hrest := ih (θ.invariant t x y hx hperform) fun t' ht' =>
        hl t' (List.mem_cons_of_mem _ ht')
      exact θ.equiv.trans hfirst hrest

/-- **Two schedules with the same tasks of a thread**, in the same order, leave
its part the same. -/
theorem same_of_filter_eq (h : Schedule perform l x x') (h' : Schedule perform l' y y')
    (hx : I x) (hy : I y) (hsame : θ.Same x y)
    (htasks : l.filter θ.own = l'.filter θ.own) :
    θ.Same x' y' := by
  induction h generalizing l' y with
  | nil =>
      have hnone : ∀ t ∈ l', θ.own t = false := fun t ht =>
        eq_false_of_ne_true (List.filter_eq_nil_iff.mp htasks.symm t ht)
      exact θ.equiv.trans hsame (θ.same_of_other h' hy hnone)
  | @cons t ts x z x' hperform _ ih =>
      have hz := θ.invariant t x z hx hperform
      cases hown : θ.own t with
      | false =>
          rw [List.filter_cons, if_neg (by rw [hown]; exact Bool.false_ne_true)] at htasks
          exact ih h' hz hy
            (θ.equiv.trans (θ.equiv.symm (θ.other t x z hx hperform hown)) hsame)
            htasks
      | true =>
          rw [List.filter_cons, if_pos hown] at htasks
          obtain ⟨before, after, rfl, hbefore, _, hafter⟩ :=
            List.filter_eq_cons_iff.mp htasks.symm
          obtain ⟨v, hleft, hright⟩ := h'.split
          -- the tasks of others that come first
          have hv := Schedule.invariant θ.invariant hleft hy
          have hxv : θ.Same x v :=
            θ.equiv.trans hsame (θ.same_of_other hleft hy fun t ht =>
            eq_false_of_ne_true (hbefore t ht))
          -- then the same task on both sides
          cases hright with
          | @cons _ _ _ v' _ hperform' hrest =>
              exact ih hrest hz (θ.invariant t v v' hv hperform')
                (θ.step t x z v v' hx hv hown hxv hperform hperform') hafter.symm

end Thread

end Sidecar.Verified.Threads
