/-
  Federation.Errand
  ─────────────────
  **ERRANDS.**

  An errand is a piece of work on something that is shared.  It goes in
  turns: a turn reads the shared state and changes it in one go, and between
  two turns of one errand others may take theirs.  What an errand does next
  may depend on everything it has seen, but not on what it has not looked
  at.

  An action on the state is an errand of one turn, and an errand that nobody
  comes between is an action again.

  Main results: `alone_bind`, `alone_ofAction` — left alone, an errand does
  what its parts do one after another.
-/

namespace Federation

/-- Work on a shared state, turn by turn. -/
inductive Errand (σ α : Type) where
  | done (result : α)
  /-- Change the state, and go on by what it was. -/
  | turn (after : σ → σ) (next : σ → Errand σ α)

namespace Errand

variable {σ α β : Type}

/-- One errand after another. -/
def bind : Errand σ α → (α → Errand σ β) → Errand σ β
  | .done a, f => f a
  | .turn after next, f => .turn after fun s => (next s).bind f

instance : Monad (Errand σ) where
  pure := .done
  bind := bind

/-- An action as an errand of one turn. -/
def ofAction (action : StateM σ α) : Errand σ α :=
  .turn (fun s => (action s).2) fun s => .done (action s).1

instance : MonadLift (StateM σ) (Errand σ) := ⟨ofAction⟩

/-- **An errand that nobody comes between.** -/
def alone : Errand σ α → StateM σ α
  | .done a => fun s => (a, s)
  | .turn after next => fun s => (next s).alone (after s)

instance : MonadLift (Errand σ) (StateM σ) := ⟨alone⟩

/-! ## Laws. -/

@[simp] theorem pure_eq (a : α) : (pure a : Errand σ α) = .done a := rfl

@[simp] theorem bind_eq (e : Errand σ α) (f : α → Errand σ β) : e >>= f = e.bind f := rfl

@[simp] theorem liftM_eq (action : StateM σ α) :
    (liftM action : Errand σ α) = ofAction action := rfl

@[simp] theorem bind_done (a : α) (f : α → Errand σ β) : (done a).bind f = f a := rfl

/-- How errands that follow one another are grouped makes no difference. -/
theorem bind_assoc {γ : Type} (e : Errand σ α) (f : α → Errand σ β) (g : β → Errand σ γ) :
    (e.bind f).bind g = e.bind fun a => (f a).bind g := by
  induction e with
  | done a => rfl
  | turn after next ih =>
      show Errand.turn after _ = Errand.turn after _
      congr 1
      funext s
      exact ih s

@[simp] theorem alone_done (a : α) (s : σ) : (done a : Errand σ α).alone s = (a, s) := rfl

/-- Left alone, one errand is done after the other. -/
@[simp] theorem alone_bind (e : Errand σ α) (f : α → Errand σ β) (s : σ) :
    (e.bind f).alone s = (f (e.alone s).1).alone (e.alone s).2 := by
  induction e generalizing s with
  | done a => rfl
  | turn after next ih => exact ih s (after s)

/-- Left alone, an action is itself. -/
@[simp] theorem alone_ofAction (action : StateM σ α) (s : σ) :
    (ofAction action).alone s = action s := rfl

end Errand

end Federation
