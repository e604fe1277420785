/-
  Federation.Proofs.Errand
  ────────────────────────
  **ERRANDS AMONG OTHERS.**

  Between two turns of an errand the others may change the shared state.  A
  `Conduct` says in which ways anybody may change it, and which part of it is
  a log that is only ever added to.  An errand meets a goal under a conduct
  when each of its turns keeps to the conduct, whatever the others did
  before in keeping with it, and the goal holds in the end and from then on.
  The goal speaks of the state, of what the errand itself added to the log,
  and of its result.

  Main results:
    * `Meets.bind` — goals of errands one after another;
    * `Meets.alone` — an errand that meets a goal among others meets it when
      it is left alone;
    * `Leaves.meets` — an errand that leaves alone what a conduct is about
      adds nothing to its log;
    * `Agree.bind`, `Agree.alone` — two errands that go by the same view of the
      state come to the same result.
-/
import Federation.Errand

namespace Federation

/-! ## §1. Conducts and goals. -/

/-- What all keep to who work on a shared state. -/
structure Conduct (σ ρ : Type) where
  log : σ → List ρ
  /-- Whether one state may become the other. -/
  allows : σ → σ → Prop
  refl : ∀ s, allows s s
  trans : ∀ {r s t}, allows r s → allows s t → allows r t

/-- The conduct under which anything goes and nothing is logged. -/
def Conduct.free (σ : Type) : Conduct σ Unit where
  log _ := []
  allows _ _ := True
  refl _ := trivial
  trans _ _ := trivial

namespace Errand

variable {σ ρ α β : Type}

/-- **Each turn of the errand keeps to the conduct and the goal holds in the
end**, for the state, what the errand added to the log, and the result. -/
def Meets (c : Conduct σ ρ) : Errand σ α → σ → (σ → List ρ → α → Prop) → Prop
  | .done a, s, goal => ∀ t, c.allows s t → goal t [] a
  | .turn after next, s, goal => ∀ t, c.allows s t →
      c.allows t (after t) ∧ ∃ own, c.log (after t) = c.log t ++ own ∧
        (next t).Meets c (after t) fun u more a => goal u (own ++ more) a

variable {c : Conduct σ ρ}

/-! ## §2. Rules. -/

/-- What the others do meanwhile does no harm. -/
theorem Meets.later {e : Errand σ α} {s t : σ} {goal : σ → List ρ → α → Prop}
    (h : e.Meets c s goal) (hst : c.allows s t) : e.Meets c t goal := by
  cases e with
  | done a => exact fun u hu => h u (c.trans hst hu)
  | turn after next => exact fun u hu => h u (c.trans hst hu)

/-- A goal may be replaced by one that follows from it. -/
theorem Meets.imp {e : Errand σ α} {s : σ} {goal goal' : σ → List ρ → α → Prop}
    (h : e.Meets c s goal)
    (hg : ∀ t own a, c.allows s t → goal t own a → goal' t own a) : e.Meets c s goal' := by
  induction e generalizing s goal goal' with
  | done a => exact fun t ht => hg t [] a ht (h t ht)
  | turn after next ih =>
      intro t ht
      obtain ⟨hkeep, own, hlog, hnext⟩ := h t ht
      refine ⟨hkeep, own, hlog, ih t hnext ?_⟩
      intro u more a hu hgoal
      exact hg u (own ++ more) a (c.trans ht (c.trans hkeep hu)) hgoal

/-- **Errands one after another.** -/
theorem Meets.bind {e : Errand σ α} {f : α → Errand σ β} {s : σ}
    {goal : σ → List ρ → α → Prop} {goal' : σ → List ρ → β → Prop}
    (h : e.Meets c s goal)
    (hf : ∀ t own a, c.allows s t → goal t own a →
      (f a).Meets c t fun u more b => goal' u (own ++ more) b) :
    (e.bind f).Meets c s goal' := by
  induction e generalizing s goal goal' with
  | done a => exact hf s [] a (c.refl s) (h s (c.refl s))
  | turn after next ih =>
      intro t ht
      obtain ⟨hkeep, own, hlog, hnext⟩ := h t ht
      refine ⟨hkeep, own, hlog, ih t hnext ?_⟩
      intro u more a hu hgoal
      -- This turn's additions come before those of the rest.
      have hrest := hf u (own ++ more) a (c.trans ht (c.trans hkeep hu)) hgoal
      simpa only [List.append_assoc] using hrest

/-- An action and what comes after it. -/
theorem meets_act {action : StateM σ α} {f : α → Errand σ β} {s : σ}
    {goal : σ → List ρ → β → Prop}
    (h : ∀ t, c.allows s t → c.allows t (action t).2 ∧
      ∃ own, c.log (action t).2 = c.log t ++ own ∧
        (f (action t).1).Meets c (action t).2 fun u more b => goal u (own ++ more) b) :
    ((ofAction action).bind f).Meets c s goal := h

/-- An action that adds nothing to the log, and what comes after it. -/
theorem meets_quiet {action : StateM σ α} {f : α → Errand σ β} {s : σ}
    {goal : σ → List ρ → β → Prop}
    (h : ∀ t, c.allows s t → c.allows t (action t).2 ∧ c.log (action t).2 = c.log t ∧
      (f (action t).1).Meets c (action t).2 goal) :
    ((ofAction action).bind f).Meets c s goal := by
  refine meets_act fun t ht => ?_
  obtain ⟨hkeep, hlog, hrest⟩ := h t ht
  exact ⟨hkeep, [], by rw [hlog, List.append_nil], hrest⟩

/-- Looking at the state changes nothing. -/
theorem meets_look {look : σ → α} {f : α → Errand σ β} {s : σ} {goal : σ → List ρ → β → Prop}
    (h : ∀ t, c.allows s t → (f (look t)).Meets c t goal) :
    ((ofAction fun t => (look t, t)).bind f).Meets c s goal :=
  meets_quiet fun t ht => ⟨c.refl t, rfl, h t ht⟩

/-- Where anything goes, nothing is asked of an errand. -/
theorem meets_free (e : Errand σ α) (s : σ) : e.Meets (Conduct.free σ) s fun _ _ _ => True := by
  induction e generalizing s with
  | done a => exact fun _ _ => trivial
  | turn after next ih => exact fun t _ => ⟨trivial, [], rfl, ih t (after t)⟩

/-! ## §3. Left alone. -/

/-- **What is met among others is met alone.** -/
theorem Meets.alone {e : Errand σ α} {s : σ} {goal : σ → List ρ → α → Prop}
    (h : e.Meets c s goal) :
    c.allows s (e.alone s).2 ∧ ∃ own, c.log (e.alone s).2 = c.log s ++ own ∧
      ∀ t, c.allows (e.alone s).2 t → goal t own (e.alone s).1 := by
  induction e generalizing s goal with
  | done a => exact ⟨c.refl s, [], (List.append_nil _).symm, h⟩
  | turn after next ih =>
      -- Nobody came between, so the state is still the one at the start.
      obtain ⟨hkeep, own, hlog, hnext⟩ := h s (c.refl s)
      obtain ⟨hrest, more, hmore, hgoal⟩ := ih s hnext
      refine ⟨c.trans hkeep hrest, own ++ more, ?_, hgoal⟩
      show c.log ((next s).alone (after s)).2 = _
      rw [hmore, hlog, List.append_assoc]

/-! ## §4. What an errand leaves alone. -/

/-- **No turn of the errand changes a view of the state**, whatever the others
do to it. -/
def Leaves {γ : Type} (view : σ → γ) : Errand σ α → Prop
  | .done _ => True
  | .turn after next => ∀ s, view (after s) = view s ∧ (next s).Leaves view

section

variable {γ : Type} {view : σ → γ} {e : Errand σ α} {f : α → Errand σ β}

theorem leaves_act {action : StateM σ α} (h : ∀ s, view (action s).2 = view s) :
    (ofAction action).Leaves view := fun s => ⟨h s, trivial⟩

/-- What is seen of a view that is left alone is left alone. -/
theorem Leaves.map {δ : Type} (h : e.Leaves view) (g : γ → δ) :
    e.Leaves fun s => g (view s) := by
  induction e with
  | done a => exact trivial
  | turn after next ih =>
      intro s
      obtain ⟨hview, hnext⟩ := h s
      exact ⟨congrArg g hview, ih s hnext⟩

theorem Leaves.bind (h : e.Leaves view) (hf : ∀ a, (f a).Leaves view) :
    (e.bind f).Leaves view := by
  induction e with
  | done a => exact hf a
  | turn after next ih =>
      intro s
      obtain ⟨hview, hnext⟩ := h s
      exact ⟨hview, ih s hnext⟩

theorem Leaves.alone (h : e.Leaves view) (s : σ) : view (e.alone s).2 = view s := by
  induction e generalizing s with
  | done a => rfl
  | turn after next ih =>
      obtain ⟨hview, hnext⟩ := h s
      show view ((next s).alone (after s)).2 = view s
      rw [ih s hnext (after s), hview]

/-- Where the conduct and its log are about the view alone, such an errand
keeps to the one and adds nothing to the other. -/
theorem Leaves.meets (h : e.Leaves view)
    (hc : ∀ s t, view t = view s → c.allows s t ∧ c.log t = c.log s) (s : σ) :
    e.Meets c s fun _ own _ => own = [] := by
  induction e generalizing s with
  | done a => exact fun _ _ => rfl
  | turn after next ih =>
      intro t _
      obtain ⟨hview, hnext⟩ := h t
      obtain ⟨hkeep, hlog⟩ := hc t (after t) hview
      refine ⟨hkeep, [], by rw [hlog, List.append_nil], ?_⟩
      exact ih t hnext (after t)

end

/-! ## §5. Two errands with one view. -/

/-- **Two errands that go by a view of the state**: from states that look alike
each turn of the one does to the view what the turn of the other does, and they
come to the same result. -/
def Agree {γ : Type} (view : σ → γ) : Errand σ α → Errand σ α → Prop
  | .done a, .done b => a = b
  | .turn after next, .turn after' next' => ∀ s t, view s = view t →
      view (after s) = view (after' t) ∧ (next s).Agree view (next' t)
  | _, _ => False

section

variable {γ : Type} {view : σ → γ} {e e' : Errand σ α} {f f' : α → Errand σ β}

theorem agree_done (a : α) : (done a : Errand σ α).Agree view (done a) := rfl

/-- Two actions, and what comes after them. -/
theorem agree_act {action action' : StateM σ α}
    (h : ∀ s t, view s = view t → view (action s).2 = view (action' t).2 ∧
      (f (action s).1).Agree view (f' (action' t).1)) :
    ((ofAction action).bind f).Agree view ((ofAction action').bind f') := h

theorem Agree.bind (h : e.Agree view e') (hf : ∀ a, (f a).Agree view (f' a)) :
    (e.bind f).Agree view (e'.bind f') := by
  induction e generalizing e' with
  | done a =>
      cases e' with
      | done b =>
          obtain rfl : a = b := h
          exact hf a
      | turn => exact h.elim
  | turn after next ih =>
      cases e' with
      | done => exact h.elim
      | turn after' next' =>
          intro s t hst
          obtain ⟨hview, hnext⟩ := h s t hst
          exact ⟨hview, ih s hnext⟩

/-- **Left alone, they end alike.** -/
theorem Agree.alone (h : e.Agree view e') {s t : σ} (hst : view s = view t) :
    (e.alone s).1 = (e'.alone t).1 ∧ view (e.alone s).2 = view (e'.alone t).2 := by
  induction e generalizing e' s t with
  | done a =>
      cases e' with
      | done b => exact ⟨h, hst⟩
      | turn => exact h.elim
  | turn after next ih =>
      cases e' with
      | done => exact h.elim
      | turn after' next' =>
          obtain ⟨hview, hnext⟩ := h s t hst
          exact ih s hnext hview

end

end Errand

end Federation
