/-!
# Runs of a labelled transition system

A system is a partial step function `step : σ → ι → Option σ`: the label says
which party moves and how every nondeterministic choice is resolved, so a run
is a list of labels and can be executed.  `Path step C s t` is the relational
view that the proofs use: `t` is reached from `s` by steps each of which meets
the condition `C` on its source state and label.

## Main results

* `Path.invariant`, `Path.relation` — what one step preserves, a run preserves.
* `Path.project` — a run seen through a function is a run of the system below.
* `path_of_runWhen` — an executed run is a path.
* `run_observe` — what is observed of a run is a run of the system below.
* `run_erase`, `trace_erase` — deleting steps that do not change the state
  leaves a run with the same remaining states.
-/

namespace Sidecar.Verified.Transition

variable {σ ι : Type}

/-- Execute a list of labels, insisting that `c` accepts every step. -/
def runWhen (step : σ → ι → Option σ) (c : σ → ι → Bool) : σ → List ι → Option σ
  | s, [] => some s
  | s, a :: as =>
      if c s a then (step s a).bind fun t => runWhen step c t as else none

/-- Execute a list of labels. -/
def run (step : σ → ι → Option σ) : σ → List ι → Option σ :=
  runWhen step fun _ _ => true

/-- `t` is reached from `s` by steps that all meet `C`. -/
inductive Path (step : σ → ι → Option σ) (C : σ → ι → Prop) (s : σ) : σ → Prop where
  | refl : Path step C s s
  | snoc {t u : σ} {a : ι} :
      Path step C s t → C t a → step t a = some u → Path step C s u

/-- Reachability without a condition on the steps. -/
abbrev Reaches (step : σ → ι → Option σ) (s t : σ) : Prop :=
  Path step (fun _ _ => True) s t

variable {step : σ → ι → Option σ} {C D : σ → ι → Prop} {s t u : σ}

theorem Path.trans (h : Path step C s t) (h' : Path step C t u) :
    Path step C s u := by
  induction h' with
  | refl => exact h
  | snoc _ hc hs ih => exact ih.snoc hc hs

theorem Path.mono (hCD : ∀ s a, C s a → D s a) (h : Path step C s t) :
    Path step D s t := by
  induction h with
  | refl => exact .refl
  | snoc _ hc hs ih => exact ih.snoc (hCD _ _ hc) hs

theorem Path.reaches (h : Path step C s t) : Reaches step s t :=
  h.mono fun _ _ _ => trivial

/-- **The invariant rule.** -/
theorem Path.invariant {I : σ → Prop} (h : Path step C s t)
    (hstep : ∀ x a y, C x a → I x → step x a = some y → I y) (hs : I s) : I t := by
  induction h with
  | refl => exact hs
  | snoc _ hc ht ih => exact hstep _ _ _ hc ih ht

/-- The relational form: a preorder that every step from an invariant state
respects relates the ends of a run. -/
theorem Path.relation {I : σ → Prop} {R : σ → σ → Prop} (h : Path step C s t)
    (hrefl : ∀ x, R x x) (htrans : ∀ x y z, R x y → R y z → R x z)
    (hI : ∀ x a y, C x a → I x → step x a = some y → I y)
    (hR : ∀ x a y, C x a → I x → step x a = some y → R x y) (hs : I s) :
    R s t := by
  have both : I t ∧ R s t := by
    induction h with
    | refl => exact ⟨hs, hrefl s⟩
    | snoc _ hc ht ih =>
        exact ⟨hI _ _ _ hc ih.1 ht, htrans _ _ _ ih.2 (hR _ _ _ hc ih.1 ht)⟩
  exact both.2

/-- **The projection rule**: where every step of one system is a run of another
on what `f` shows of its states, so is every run. -/
theorem Path.project {τ κ : Type} {step' : τ → κ → Option τ} {C' : τ → κ → Prop} {x y : τ}
    (f : τ → σ) (h : Path step' C' x y)
    (hstep : ∀ x a y, C' x a → step' x a = some y → Path step C (f x) (f y)) :
    Path step C (f x) (f y) := by
  induction h with
  | refl => exact .refl
  | snoc _ hc hs ih => exact ih.trans (hstep _ _ _ hc hs)

theorem path_of_runWhen {c : σ → ι → Bool} (hc : ∀ s a, c s a = true → C s a) :
    ∀ {s t : σ} {as : List ι}, runWhen step c s as = some t → Path step C s t := by
  intro s t as
  induction as generalizing s with
  | nil =>
      intro h
      simp only [runWhen, Option.some.injEq] at h
      exact h ▸ .refl
  | cons a as ih =>
      intro h
      simp only [runWhen] at h
      split at h
      · next hca =>
          obtain ⟨x, hx, hrest⟩ := Option.bind_eq_some_iff.mp h
          exact (Path.refl.snoc (hc _ _ hca) hx).trans (ih hrest)
      · cases h

/-- A list of labels that cannot be carried out leads nowhere. -/
theorem path_runWhen_getD {c : σ → ι → Bool} (hc : ∀ s a, c s a = true → C s a) (s : σ)
    (as : List ι) : Path step C s ((runWhen step c s as).getD s) := by
  cases h : runWhen step c s as with
  | none => exact .refl
  | some t => exact path_of_runWhen hc h

/-! ## Watching a run -/

theorem run_cons (s : σ) (a : ι) (as : List ι) :
    run step s (a :: as) = (step s a).bind fun t => run step t as := rfl

theorem run_append {s : σ} (as bs : List ι) :
    run step s (as ++ bs) = (run step s as).bind fun t => run step t bs := by
  induction as generalizing s with
  | nil => rfl
  | cons a as ih =>
      rw [List.cons_append, run_cons, run_cons, Option.bind_assoc]
      exact congrArg _ (funext fun t => ih)

/-- What an observer writes down of the steps of a run. -/
def observe {κ : Type} (step : σ → ι → Option σ) (f : σ → ι → List κ) :
    σ → List ι → List κ
  | _, [] => []
  | s, a :: as =>
      match step s a with
      | none => []
      | some t => f s a ++ observe step f t as

section Observe

variable {κ ξ τ : Type} {f : σ → ι → List κ}

theorem observe_cons (hs : step s a = some t) (as : List ι) :
    observe step f s (a :: as) = f s a ++ observe step f t as := by
  rw [observe, hs]

/-- **The refinement rule**: where what is observed of each step is a run of
another system, so is what is observed of a run. -/
theorem run_observe {I : σ → Prop} {step' : τ → κ → Option τ} (p : σ → τ)
    (hI : ∀ x a y, I x → step x a = some y → I y)
    (hstep : ∀ x a y, I x → step x a = some y → run step' (p x) (f x a) = some (p y)) :
    ∀ {s t : σ} {as : List ι}, I s → run step s as = some t →
      run step' (p s) (observe step f s as) = some (p t) := by
  intro s t as
  induction as generalizing s with
  | nil =>
      intro _ h
      cases h
      rfl
  | cons a as ih =>
      intro hs h
      rw [run_cons] at h
      obtain ⟨x, hx, hrest⟩ := Option.bind_eq_some_iff.mp h
      rw [observe_cons hx, run_append, hstep s a x hs hx]
      exact ih (hI s a x hs hx) hrest

/-- Two observers who see the same of every step see the same of a run. -/
theorem observe_congr (p : List κ → List ξ) {g : σ → ι → List ξ}
    (hnil : p [] = []) (happend : ∀ ks ks', p (ks ++ ks') = p ks ++ p ks')
    (hstep : ∀ x a y, step x a = some y → p (f x a) = g x a) (s : σ) (as : List ι) :
    p (observe step f s as) = observe step g s as := by
  induction as generalizing s with
  | nil => exact hnil
  | cons a as ih =>
      cases hs : step s a with
      | none => simp only [observe, hs, hnil]
      | some t => rw [observe_cons hs, observe_cons hs, happend, ih, hstep s a t hs]

/-- Who looks at the labels alone sees the labels. -/
theorem observe_labels (f : ι → List κ) {s t : σ} {as : List ι}
    (h : run step s as = some t) :
    observe step (fun _ a => f a) s as = as.flatMap f := by
  induction as generalizing s with
  | nil => rfl
  | cons a as ih =>
      rw [run_cons] at h
      obtain ⟨x, hx, hrest⟩ := Option.bind_eq_some_iff.mp h
      rw [observe_cons hx, ih hrest, List.flatMap_cons]

end Observe

/-! ## Deleting idle steps -/

/-- The states passed through, each with whether the step into it was idle. -/
def trace (step : σ → ι → Option σ) (idle : σ → ι → Bool) :
    σ → List ι → List (Bool × σ)
  | _, [] => []
  | s, a :: as =>
      match step s a with
      | none => []
      | some t => (idle s a, t) :: trace step idle t as

/-- The labels of a run without its idle steps. -/
def erase (step : σ → ι → Option σ) (idle : σ → ι → Bool) : σ → List ι → List ι
  | _, [] => []
  | s, a :: as =>
      match step s a with
      | none => []
      | some t => if idle s a then erase step idle t as
          else a :: erase step idle t as

/-- The run without its idle steps ends in the same state. -/
theorem run_erase {idle : σ → ι → Bool}
    (hidle : ∀ s a t, idle s a = true → step s a = some t → t = s) :
    ∀ {s t : σ} {as : List ι}, run step s as = some t →
      run step s (erase step idle s as) = some t := by
  intro s t as
  induction as generalizing s with
  | nil => exact id
  | cons a as ih =>
      intro h
      rw [run_cons] at h
      obtain ⟨x, hx, hrest⟩ := Option.bind_eq_some_iff.mp h
      simp only [erase, hx]
      split
      · next hi =>
          have hxs := hidle _ _ _ hi hx
          subst hxs
          exact ih hrest
      · rw [run_cons, hx]
        exact ih hrest

/-- The run without its idle steps passes through the remaining states, in the
same order. -/
theorem trace_erase {idle : σ → ι → Bool}
    (hidle : ∀ s a t, idle s a = true → step s a = some t → t = s) :
    ∀ (s : σ) (as : List ι),
      trace step idle s (erase step idle s as) =
        (trace step idle s as).filter fun x => !x.1 := by
  intro s as
  induction as generalizing s with
  | nil => rfl
  | cons a as ih =>
      cases hx : step s a with
      | none => simp [erase, trace, hx]
      | some x =>
          by_cases hi : idle s a = true
          · have hxs := hidle _ _ _ hi hx
            subst hxs
            simp [erase, trace, hx, hi, ih]
          · simp [erase, trace, hx, hi, ih]

end Sidecar.Verified.Transition
