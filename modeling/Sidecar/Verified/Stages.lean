import Sidecar.Verified.Replay

/-!
# How far a program has got

`Runs L p l q l'` says that a program `p` started in the local state `l` has
become `q` in the local state `l'`, after some requests and admitted replies.
A program that is a sequence or a `try` has got as far as one of its parts.

## Main results

* `Runs.always` — what always holds, holds wherever a program has got.
* `runs_bind`, `runs_attempt` — the stages of a sequence and of a `try`.
-/

namespace Sidecar.Verified.Resumption

variable {Op : Type} {Res : Op → Type} {ε α β Λ : Type}

/-- `p` has become `q`, and the local state `l` has become `l'`. -/
inductive Runs (L : Local Op Res Λ) (p : Prog Op Res ε α) (l : Λ) :
    Prog Op Res ε α → Λ → Prop where
  | refl : Runs L p l p l
  | snoc {o : Op} {k : Res o → Prog Op Res ε α} {l' : Λ} {r : Res o} :
      Runs L p l (.perform o k) l' → L.admits o r l' → Runs L p l (k r) (L.after o r l')

section Rules

variable {L : Local Op Res Λ} {p q : Prog Op Res ε α} {l l' : Λ}

theorem Runs.always {J : Λ → Node Op ε α → Prop} (h : Runs L p l q l')
    (hp : Always L J p l) :
    Always L J q l' := by
  induction h with
  | refl => exact hp
  | snoc _ hr ih => exact ih.step hr

/-- A program that waits for a reply is still there, or has got on from it. -/
theorem runs_perform {o : Op} {k : Res o → Prog Op Res ε α}
    (h : Runs L (.perform o k) l q l') :
    (q = .perform o k ∧ l' = l) ∨
      ∃ r, L.admits o r l ∧ Runs L (k r) (L.after o r l) q l' := by
  induction h with
  | refl => exact .inl ⟨rfl, rfl⟩
  | @snoc o' k' l₁ r hrun hr ih =>
      rcases ih with ⟨heq, rfl⟩ | ⟨r', hr', hrun'⟩
      · cases heq
        exact .inr ⟨r, hr, .refl⟩
      · exact .inr ⟨r', hr', hrun'.snoc hr⟩

/-- A sequence is still in its first part, or that part has returned. -/
theorem runs_bind {f : α → Prog Op Res ε β} {q : Prog Op Res ε β}
    (h : Runs L (p >>= f) l q l') :
    (∃ p', Runs L p l p' l' ∧ q = p' >>= f) ∨
      ∃ a l₁, Runs L p l (.ret a) l₁ ∧ Runs L (f a) l₁ q l' := by
  induction h with
  | refl => exact .inl ⟨p, .refl, rfl⟩
  | @snoc o k l₁ r hrun hr ih =>
      rcases ih with ⟨p', hp', heq⟩ | ⟨a, l₀, ha, hf⟩
      · match p' with
        | .ret a =>
            have hf : f a = .perform o k := heq.symm
            exact .inr ⟨a, l₁, hp', hf ▸ Runs.refl.snoc hr⟩
        | .raise e => cases heq
        | .perform o' k' =>
            cases heq
            exact .inl ⟨k' r, hp'.snoc hr, rfl⟩
      · exact .inr ⟨a, l₀, ha, hf.snoc hr⟩

/-- A `try` has got as far as what is tried. -/
theorem runs_attempt {q : Prog Op Res ε (Except ε α)} (h : Runs L p.attempt l q l') :
    ∃ p', Runs L p l p' l' ∧ q = p'.attempt := by
  induction h with
  | refl => exact ⟨p, .refl, rfl⟩
  | @snoc o k l₁ r hrun hr ih =>
      obtain ⟨p', hp', heq⟩ := ih
      match p' with
      | .ret a => cases heq
      | .raise e => cases heq
      | .perform o' k' =>
          cases heq
          exact ⟨k' r, hp'.snoc hr, rfl⟩

end Rules

end Sidecar.Verified.Resumption
