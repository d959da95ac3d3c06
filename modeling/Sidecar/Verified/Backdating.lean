import Sidecar.Verified.Transition

/-!
# Putting a step into the past

A log is a list of labels that can be carried out from a fixed state.  A party
that has looked at the state some time ago, and now acts on what it saw, belongs
into the log at that moment and not at its end.  That is possible when what it
does is out of the way of everything that the log holds since.

## Main results

* `run_insert` — a step is put into the past.
* `Moment.append`, `Moment.insert` — a moment stays one while the log grows at
  its end and in its past.
-/

namespace Sidecar.Verified.Backdating

open Sidecar.Verified.Transition

variable {σ ι : Type} {step : σ → ι → Option σ} {R : σ → σ → Prop}
    {free spared : ι → Prop}
  {P Q : σ → Prop} {s a a' b : σ} {log before since : List ι} {x : ι}

theorem run_append (s : σ) (before since : List ι) :
    run step s (before ++ since) = (run step s before).bind fun t =>
      run step t since := by
  induction before generalizing s with
  | nil => rfl
  | cons y ys ih =>
      rw [List.cons_append, run_cons, run_cons, Option.bind_assoc]
      exact congrArg ((step s y).bind ·) (funext ih)

theorem run_snoc (h : run step s log = some a) (hx : step a x = some b) :
    run step s (log ++ [x]) = some b := by
  rw [run_append, h]
  show ((step a x).bind fun t => run step t []) = some b
  rw [hx]
  rfl

/-- Labels in `free` can be carried out beside what `R` allows, and leave it
so. -/
def Carries (step : σ → ι → Option σ) (R : σ → σ → Prop) (free : ι → Prop) : Prop :=
  ∀ a a' y b, R a a' → free y → step a y = some b → ∃ b', step a' y = some b' ∧ R b b'

theorem Carries.run (h : Carries step R free) (hfree : ∀ y ∈ log, free y) (hR : R a a')
    (hrun : run step a log = some b) : ∃ b', run step a' log = some b' ∧ R b b' := by
  induction log generalizing a a' with
  | nil =>
      cases hrun
      exact ⟨a', rfl, hR⟩
  | cons y ys ih =>
      obtain ⟨c, hc, hrest⟩ := Option.bind_eq_some_iff.mp hrun
      obtain ⟨c', hc', hR'⟩ := h a a' y c hR (hfree y List.mem_cons_self) hc
      obtain ⟨b', hb', hRb⟩ :=
        ih (fun z hz => hfree z (List.mem_cons_of_mem _ hz)) hR' hrest
      refine ⟨b', ?_, hRb⟩
      rw [run_cons, hc']
      exact hb'

/-- **A step is put into the past.** -/
theorem run_insert (h : Carries step R free) (hfree : ∀ y ∈ since, free y)
    (hbefore : run step s before = some a) (hx : step a x = some a') (hR : R a a')
    (hrun : run step s (before ++ since) = some b) :
    ∃ b', run step s (before ++ x :: since) = some b' ∧ R b b' := by
  rw [run_append, hbefore] at hrun
  obtain ⟨b', hb', hRb⟩ := h.run hfree hR hrun
  refine ⟨b', ?_, hRb⟩
  rw [run_append, hbefore]
  show run step a (x :: since) = some b'
  rw [run_cons, hx]
  exact hb'

/-- There is a moment at which `P` held, and all that the log holds since is
spared. -/
def Moment (step : σ → ι → Option σ) (s : σ) (spared : ι → Prop) (P : σ → Prop)
    (log : List ι) : Prop :=
  ∃ before since a, log = before ++ since ∧ (∀ y ∈ since, spared y) ∧
    run step s before = some a ∧ P a

theorem Moment.now (hrun : run step s log = some a) (h : P a) :
    Moment step s spared P log :=
  ⟨log, [], a, (List.append_nil log).symm, fun _ hy => (by cases hy), hrun, h⟩

theorem Moment.append (h : Moment step s spared P log) (hx : spared x) :
    Moment step s spared P (log ++ [x]) := by
  obtain ⟨before, since, a, rfl, hsince, hrun, ha⟩ := h
  refine ⟨before, since ++ [x], a, List.append_assoc _ _ _, fun y hy => ?_, hrun, ha⟩
  rcases List.mem_append.mp hy with hy | hy
  · exact hsince y hy
  · exact List.mem_singleton.mp hy ▸ hx

/-- The log leads from a moment to its end. -/
theorem Moment.mono (h : Moment step s spared P log) (hrun : run step s log = some b)
    (hQ : ∀ a since, run step a since = some b → P a → Q a) :
    Moment step s spared Q log := by
  obtain ⟨before, since, a, rfl, hsince, hbefore, ha⟩ := h
  rw [run_append, hbefore] at hrun
  exact ⟨before, since, a, rfl, hsince, hbefore, hQ a since hrun ha⟩

/-- **A moment stays one** when a step is put into the past, before it or after
it. -/
theorem Moment.insert (hm : Moment step s spared P (before ++ since))
    (h : Carries step R free) (hfree : ∀ y ∈ since, free y)
    (hbefore : run step s before = some a) (hx : step a x = some a') (hR : R a a')
    (hP : ∀ c c', R c c' → P c → P c') (hspared : spared x) :
    Moment step s spared P (before ++ x :: since) := by
  obtain ⟨before', since', c, heq, hsince, hrun, hc⟩ := hm
  rcases List.append_eq_append_iff.mp heq with ⟨between, rfl, rfl⟩ | ⟨between, rfl, rfl⟩
  · -- the step comes before the moment
    have hbetween : ∀ y ∈ between, free y := fun y hy =>
      hfree y (List.mem_append_left _ hy)
    rw [run_append, hbefore] at hrun
    obtain ⟨c', hc', hRc⟩ := h.run hbetween hR hrun
    refine ⟨before ++ x :: between, since', c', ?_, hsince, ?_, hP c c' hRc hc⟩
    · rw [List.append_assoc, List.cons_append]
    · rw [run_append, hbefore]
      show run step a (x :: between) = some c'
      rw [run_cons, hx]
      exact hc'
  · refine ⟨before', between ++ x :: since, c, List.append_assoc _ _ _,
      fun y hy => ?_, hrun, hc⟩
    rcases List.mem_append.mp hy with hy | hy
    · exact hsince y (List.mem_append_left _ hy)
    · rcases List.mem_cons.mp hy with rfl | hy
      · exact hspared
      · exact hsince y (List.mem_append_right _ hy)

end Sidecar.Verified.Backdating
