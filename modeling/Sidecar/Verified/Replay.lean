import Sidecar.Verified.Resumption

/-!
# Playing a program against a responder

A responder answers every request from the local state alone, so that a program
has one run: `play` follows it to the end.  Since the local state may record
everything that happened, any sequence of replies is that of some responder.

## Main results

* `play_bind`, `play_attempt` — sequencing and `try`.
-/

namespace Sidecar.Verified.Resumption

variable {Op : Type} {Res : Op → Type} {ε α β Λ : Type}

/-- The run of a program against a responder: the local state it ends in and
what it returns or raises. -/
def Prog.play (L : Local Op Res Λ) (respond : Λ → (o : Op) → Res o) :
    Prog Op Res ε α → Λ → Λ × Except ε α
  | .ret a, l => (l, .ok a)
  | .raise e, l => (l, .error e)
  | .perform o k, l => (k (respond l o)).play L respond (L.after o (respond l o) l)

/-- The node at which a run ends. -/
def ending : Except ε α → Node Op ε α
  | .ok a => .ret a
  | .error e => .raise e

section Rules

variable {L : Local Op Res Λ} {respond respond' : Λ → (o : Op) → Res o}

@[simp] theorem play_ret (a : α) (l : Λ) :
    (Prog.ret a : Prog Op Res ε α).play L respond l = (l, .ok a) := rfl

@[simp] theorem play_pure (a : α) (l : Λ) :
    (pure a : Prog Op Res ε α).play L respond l = (l, .ok a) := rfl

@[simp] theorem play_raise (e : ε) (l : Λ) :
    (Prog.raise e : Prog Op Res ε α).play L respond l = (l, .error e) := rfl

@[simp] theorem play_perform (o : Op) (k : Res o → Prog Op Res ε α) (l : Λ) :
    (Prog.perform o k).play L respond l =
      (k (respond l o)).play L respond (L.after o (respond l o) l) := rfl

@[simp] theorem play_request (o : Op) (l : Λ) :
    (Prog.request o : Prog Op Res ε (Res o)).play L respond l =
      (L.after o (respond l o) l, .ok (respond l o)) := rfl

theorem ofExcept_ok (a : α) : (Prog.ofExcept (.ok a) : Prog Op Res ε α) = pure a := rfl

@[simp] theorem play_ofExcept (x : Except ε α) (l : Λ) :
    (Prog.ofExcept x : Prog Op Res ε α).play L respond l = (l, x) := by
  cases x <;> rfl

/-- Sequencing: the second part starts where the first one returned. -/
theorem play_bind (p : Prog Op Res ε α) (f : α → Prog Op Res ε β) (l : Λ) :
    (p >>= f).play L respond l =
      match p.play L respond l with
      | (l', .ok a) => (f a).play L respond l'
      | (l', .error e) => (l', .error e) := by
  induction p generalizing l with
  | ret a => rfl
  | raise e => rfl
  | perform o k ih => exact ih _ _

/-- `try`: the run is the same, and what it raised is returned. -/
theorem play_attempt (p : Prog Op Res ε α) (l : Λ) :
    p.attempt.play L respond l =
      ((p.play L respond l).1, .ok (p.play L respond l).2) := by
  induction p generalizing l with
  | ret a => rfl
  | raise e => rfl
  | perform o k ih => exact ih _ _

end Rules

end Sidecar.Verified.Resumption
