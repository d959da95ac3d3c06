/-!
# Resumptions: effectful programs as trees of requests and replies

A coroutine that talks to a database and to a remote service is a tree: it has
returned, it has raised, or it is suspended on one request and continues with
whatever reply comes back.  `Prog` is that tree, over any request type `Op`
whose replies `Res o` may differ from request to request.  A scheduler can
interleave many such trees one request at a time, which is how the rest of this
development runs several workers against one world.

Reasoning is local.  `Local` says what a request does to the state that only
the running program owns, and which replies that state admits; `Always L J p l`
says that `J` holds of the local state and of the current node at every point
`p` can reach from `l`, **whatever** the admitted replies are.  The rules below
(`always_bind`, `always_attempt`, ...) execute a program symbolically, and
`Always.step` is what carries the property through one scheduled step.

## Main results

* `always_bind`, `always_attempt` — sequencing and `try` compose.
* `Always.step`, `Always.here` — one step of a running program, and what the
  invariant says about it now.
* `Always.mono`, `Always.restrict`, `Always.and_local` — weakening, fewer
  replies, and invariants of the local state.
-/

namespace Sidecar.Verified.Resumption

/-- A program over requests `Op` with replies `Res`, raising `ε` and returning
`α`. -/
inductive Prog (Op : Type) (Res : Op → Type) (ε α : Type) where
  | ret (a : α)
  | raise (e : ε)
  | perform (o : Op) (k : Res o → Prog Op Res ε α)

/-- What a program is about to do: the root of its tree without the
continuation. -/
inductive Node (Op ε α : Type) where
  | ret (a : α)
  | raise (e : ε)
  | perform (o : Op)

variable {Op : Type} {Res : Op → Type} {ε α β Λ : Type}

namespace Prog

/-- The second program takes over where the first returns. -/
def bind : Prog Op Res ε α → (α → Prog Op Res ε β) → Prog Op Res ε β
  | .ret a, f => f a
  | .raise e, _ => .raise e
  | .perform o k, f => .perform o fun r => (k r).bind f

instance : Monad (Prog Op Res ε) where
  pure := .ret
  bind := bind

theorem bind_assoc' {γ : Type} (p : Prog Op Res ε α) (f : α → Prog Op Res ε β)
    (g : β → Prog Op Res ε γ) : (p.bind f).bind g = p.bind fun a => (f a).bind g := by
  induction p with
  | ret a => rfl
  | raise e => rfl
  | perform o k ih => exact congrArg (Prog.perform o) (funext ih)

theorem bind_ret (p : Prog Op Res ε α) : p.bind .ret = p := by
  induction p with
  | ret a => rfl
  | raise e => rfl
  | perform o k ih => exact congrArg (Prog.perform o) (funext ih)

instance : LawfulMonad (Prog Op Res ε) :=
  LawfulMonad.mk' _ bind_ret (fun _ _ => rfl) bind_assoc'

/-- `try p`: the exception becomes a value, so that `match` can play the part
of the `except` and `else` clauses. -/
def attempt : Prog Op Res ε α → Prog Op Res ε (Except ε α)
  | .ret a => .ret (.ok a)
  | .raise e => .ret (.error e)
  | .perform o k => .perform o fun r => (k r).attempt

/-- A single request. -/
def request (o : Op) : Prog Op Res ε (Res o) := .perform o .ret

/-- A pure computation that may raise. -/
def ofExcept : Except ε α → Prog Op Res ε α
  | .ok a => .ret a
  | .error e => .raise e

/-- What a program does next, without its continuation. -/
def node : Prog Op Res ε α → Node Op ε α
  | .ret a => .ret a
  | .raise e => .raise e
  | .perform o _ => .perform o

@[simp] theorem node_ret (a : α) :
    (Prog.ret a : Prog Op Res ε α).node = .ret a := rfl

@[simp] theorem node_raise (e : ε) :
    (Prog.raise e : Prog Op Res ε α).node = .raise e := rfl

@[simp] theorem node_perform (o : Op) (k : Res o → Prog Op Res ε α) :
    (Prog.perform o k).node = .perform o := rfl

end Prog

/-! ## The local logic -/

/-- What requests do to the state owned by the running program: which replies
are possible from a local state, and the local state after each. -/
structure Local (Op : Type) (Res : Op → Type) (Λ : Type) where
  admits : (o : Op) → Res o → Λ → Prop
  after : (o : Op) → Res o → Λ → Λ

/-- `J` holds here and at every point the program can still reach, for every
sequence of admitted replies. -/
def Always (L : Local Op Res Λ) (J : Λ → Node Op ε α → Prop) :
    Prog Op Res ε α → Λ → Prop
  | .ret a, l => J l (.ret a)
  | .raise e, l => J l (.raise e)
  | .perform o k, l =>
      J l (.perform o) ∧ ∀ r, L.admits o r l → Always L J (k r) (L.after o r l)

section Rules

variable {L : Local Op Res Λ} {J J' : Λ → Node Op ε α → Prop}

@[simp] theorem always_ret (a : α) (l : Λ) :
    Always L J (.ret a) l ↔ J l (.ret a) := Iff.rfl

@[simp] theorem always_pure (a : α) (l : Λ) :
    Always L J (pure a) l ↔ J l (.ret a) := Iff.rfl

@[simp] theorem always_raise (e : ε) (l : Λ) :
    Always L J (.raise e) l ↔ J l (.raise e) := Iff.rfl

@[simp] theorem always_perform (o : Op) (k : Res o → Prog Op Res ε α) (l : Λ) :
    Always L J (.perform o k) l ↔
      J l (.perform o) ∧
        ∀ r, L.admits o r l → Always L J (k r) (L.after o r l) := Iff.rfl

/-- The invariant speaks about the current node. -/
theorem Always.here {p : Prog Op Res ε α} {l : Λ} (h : Always L J p l) :
    J l p.node := by
  cases p with
  | ret a => exact h
  | raise e => exact h
  | perform o k => exact h.1

/-- One admitted reply leads to a point where the invariant still always
holds. -/
theorem Always.step {o : Op} {k : Res o → Prog Op Res ε α} {l : Λ} {r : Res o}
    (h : Always L J (.perform o k) l) (hr : L.admits o r l) :
    Always L J (k r) (L.after o r l) := h.2 r hr

theorem Always.mono (hJ : ∀ l n, J l n → J' l n) {p : Prog Op Res ε α} {l : Λ}
    (h : Always L J p l) : Always L J' p l := by
  induction p generalizing l with
  | ret a => exact hJ _ _ h
  | raise e => exact hJ _ _ h
  | perform o k ih => exact ⟨hJ _ _ h.1, fun r hr => ih r (h.2 r hr)⟩

/-- Fewer replies, fewer points to check. -/
theorem Always.restrict {L' : Local Op Res Λ}
    (hadmits : ∀ o r l, L'.admits o r l → L.admits o r l)
    (hafter : L'.after = L.after) {p : Prog Op Res ε α} {l : Λ} (h : Always L J p l) :
    Always L' J p l := by
  induction p generalizing l with
  | ret a => exact h
  | raise e => exact h
  | perform o k ih =>
      refine ⟨h.1, fun r hr => ih r ?_⟩
      rw [hafter]
      exact h.2 r (hadmits o r l hr)

/-- What every admitted reply preserves holds throughout. -/
theorem Always.and_local {I : Λ → Prop}
    (hI : ∀ o r l, L.admits o r l → I l → I (L.after o r l))
    {p : Prog Op Res ε α} {l : Λ} (h : Always L J p l) (hl : I l) :
    Always L (fun l n => J l n ∧ I l) p l := by
  induction p generalizing l with
  | ret a => exact ⟨h, hl⟩
  | raise e => exact ⟨h, hl⟩
  | perform o k ih => exact ⟨⟨h.1, hl⟩, fun r hr => ih r (h.2 r hr) (hI o r l hr hl)⟩

/-- So an invariant of the local state holds wherever a program gets. -/
theorem always_local {I : Λ → Prop}
    (hI : ∀ o r l, L.admits o r l → I l → I (L.after o r l))
    {p : Prog Op Res ε α} {l : Λ} (hl : I l) : Always L (fun l _ => I l) p l := by
  induction p generalizing l with
  | ret a => exact hl
  | raise e => exact hl
  | perform o k ih => exact ⟨hl, fun r hr => ih r (hI o r l hr hl)⟩

@[simp] theorem always_request (o : Op) {J : Λ → Node Op ε (Res o) → Prop}
    (l : Λ) :
    Always L J (Prog.request o) l ↔
      J l (.perform o) ∧ ∀ r, L.admits o r l → J (L.after o r l) (.ret r) :=
  Iff.rfl

/-- Sequencing: the continuation is checked at each return of the first part. -/
theorem always_bind {J : Λ → Node Op ε β → Prop} (p : Prog Op Res ε α)
    (f : α → Prog Op Res ε β) (l : Λ) :
    Always L J (p >>= f) l ↔
      Always L (fun l' n => match n with
        | .ret a => Always L J (f a) l'
        | .raise e => J l' (.raise e)
        | .perform o => J l' (.perform o)) p l := by
  induction p generalizing l with
  | ret a => exact Iff.rfl
  | raise e => exact Iff.rfl
  | perform o k ih =>
      exact and_congr Iff.rfl (forall_congr' fun r => imp_congr Iff.rfl (ih r _))

/-- `try`: returning and raising both return. -/
theorem always_attempt {J : Λ → Node Op ε (Except ε α) → Prop}
    (p : Prog Op Res ε α) (l : Λ) :
    Always L J p.attempt l ↔
      Always L (fun l' n => match n with
        | .ret a => J l' (.ret (.ok a))
        | .raise e => J l' (.ret (.error e))
        | .perform o => J l' (.perform o)) p l := by
  induction p generalizing l with
  | ret a => exact Iff.rfl
  | raise e => exact Iff.rfl
  | perform o k ih =>
      exact and_congr Iff.rfl (forall_congr' fun r => imp_congr Iff.rfl (ih r _))

theorem always_ofExcept (x : Except ε α) (l : Λ) :
    Always L J (Prog.ofExcept x) l ↔
      (∀ a, x = .ok a → J l (.ret a)) ∧ (∀ e, x = .error e → J l (.raise e)) := by
  cases x <;> simp [Prog.ofExcept]

end Rules

end Sidecar.Verified.Resumption
