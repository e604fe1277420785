/-
  Federation.Proofs.Session
  ─────────────────────────
  **THE CONDUCT OF AN INVOCATION.**

  While aggregates are probed and called, requests are only added at the end,
  what a probe yielded stays known, and the signal to stop stays once it has
  come.  This is what the errands of an invocation may rely on, and what each
  of their turns keeps to.  The requests are the log: to each errand belong
  the requests that it sent itself.

  Main results:
    * `meets_send` — sending adds the request and yields a reply to it;
    * `forEach_fulfils` — errands for all items, among each other.
-/
import Federation.Proofs.Workers
import Federation.Session

namespace Federation

open Introspection (ProbeOutcome isAborted)

/-! ## §1. What only grows. -/

/-- What is remembered of probes tells of the aggregates: no probe that was
called off is among it. -/
def Session.Telling (s : Session) : Prop := ∀ known ∈ s.memo, isAborted known.2 = false

/-- Whether one session may come of another within an invocation. -/
structure Session.Becomes (s t : Session) : Prop where
  requests : s.requests <+: t.requests
  memo : s.memo <:+ t.memo
  aborted : s.aborted = true → t.aborted = true
  telling : s.Telling → t.Telling

theorem Session.Becomes.refl (s : Session) : s.Becomes s :=
  ⟨List.prefix_rfl, List.suffix_rfl, id, id⟩

theorem Session.Becomes.trans {r s t : Session} (h : r.Becomes s) (k : s.Becomes t) :
    r.Becomes t :=
  ⟨h.requests.trans k.requests, h.memo.trans k.memo, fun hr => k.aborted (h.aborted hr),
    fun hr => k.telling (h.telling hr)⟩

/-- **The conduct of an invocation.** -/
def Session.conduct : Conduct Session Request where
  log := Session.requests
  allows := Session.Becomes
  refl := .refl
  trans := .trans

/-- Nothing that others rely on differs. -/
structure Session.Alike (s t : Session) : Prop where
  requests : t.requests = s.requests
  memo : t.memo = s.memo
  aborted : t.aborted = s.aborted

theorem Session.Alike.becomes {s t : Session} (h : s.Alike t) : s.Becomes t :=
  ⟨h.requests ▸ List.prefix_rfl, h.memo ▸ List.suffix_rfl, fun hs => h.aborted.trans hs,
    fun hs => by unfold Session.Telling; rw [h.memo]; exact hs⟩

/-- What a probe of a URL yielded in the course of the invocation: it is
remembered, unless it was called off. -/
def Session.Heard (s : Session) (url : String) (o : ProbeOutcome) : Prop :=
  if isAborted o then s.aborted = true else (url, o) ∈ s.memo

theorem Session.heard_of_mem {s : Session} (hs : s.Telling) {url : String} {o : ProbeOutcome}
    (h : (url, o) ∈ s.memo) : s.Heard url o := by
  unfold Session.Heard
  rw [if_neg (by rw [hs _ h]; exact Bool.false_ne_true)]
  exact h

theorem Session.Heard.later {s t : Session} {url : String} {o : ProbeOutcome}
    (h : s.Heard url o) (hst : s.Becomes t) : t.Heard url o := by
  unfold Session.Heard at h ⊢
  by_cases ho : isAborted o = true
  · rw [if_pos ho] at h ⊢
    exact hst.aborted h
  · rw [if_neg ho] at h ⊢
    exact hst.memo.subset h

/-- What came of a request, after those that were sent before it. -/
def Session.Answered (s : Session) (w : World) (r : Request) (reply : Except String Json) :
    Prop :=
  ∃ before, before ++ [r] <+: s.requests ∧ (w.transport before r).reply = reply

theorem Session.Answered.later {s t : Session} {w : World} {r : Request}
    {reply : Except String Json} (h : s.Answered w r reply) (hst : s.Becomes t) :
    t.Answered w r reply := by
  obtain ⟨before, hbefore, hreply⟩ := h
  exact ⟨before, hbefore.trans hst.requests, hreply⟩

/-! ## §2. Single actions. -/

namespace Errand

variable {α β : Type} {s : Session} {goal : Session → List Request → β → Prop}

/-- An action that touches nothing that others rely on, and what comes after
it. -/
theorem meets_alike {action : Action α} {f : α → Errand Session β}
    (halike : ∀ t : Session, t.Alike (action t).2)
    (h : ∀ t, s.Becomes t → (f (action t).1).Meets Session.conduct (action t).2 goal) :
    ((ofAction action).bind f).Meets Session.conduct s goal :=
  meets_quiet fun t ht => ⟨(halike t).becomes, (halike t).requests, h t ht⟩

/-- To look for the signal to stop, and what comes after it. -/
theorem meets_stopped {w : World} {f : Bool → Errand Session β}
    (hstop : ∀ t, s.Becomes t → t.aborted = true → (f true).Meets Session.conduct t goal)
    (hgo : ∀ t, s.Becomes t → (f false).Meets Session.conduct t goal) :
    ((ofAction (Action.stopped w)).bind f).Meets Session.conduct s goal := by
  refine meets_quiet fun t ht => ?_
  have hlook : t.Becomes (Action.stopped w t).2 := by
    refine ⟨List.prefix_rfl, List.suffix_rfl, fun ha => ?_, id⟩
    show (t.aborted || w.interrupts t.looks) = true
    rw [ha, Bool.true_or]
  refine ⟨hlook, rfl, ?_⟩
  cases h : (Action.stopped w t).1 with
  | true => exact hstop _ (ht.trans hlook) h
  | false => exact hgo _ (ht.trans hlook)

/-- To remember something adds it to the memo. -/
theorem meets_remember {url : String} {o : ProbeOutcome} {f : Unit → Errand Session β}
    (ho : isAborted o = false)
    (h : ∀ t, s.Becomes t → (url, o) ∈ t.memo → (f ()).Meets Session.conduct t goal) :
    ((ofAction (Action.remember url o)).bind f).Meets Session.conduct s goal := by
  refine meets_quiet fun t ht => ?_
  have hgrown : t.Becomes (Action.remember url o t).2 := by
    refine ⟨List.prefix_rfl, List.suffix_cons _ _, id, fun hs known hmem => ?_⟩
    rcases List.mem_cons.1 hmem with rfl | hmem
    · exact ho
    · exact hs known hmem
  refine ⟨hgrown, rfl, h _ (ht.trans hgrown) ?_⟩
  exact List.mem_cons_self

/-- **To send a request adds it to the log and yields a reply to it.** -/
theorem meets_send (w : World) (r : Request) (s : Session) :
    (send w r).Meets Session.conduct s fun t own reply =>
      own = [r] ∧ t.Answered w r reply := by
  refine meets_act fun t _ => ?_
  refine ⟨⟨List.prefix_append _ _, List.suffix_rfl, id, id⟩, [r], rfl, ?_⟩
  -- Others may act before the reply is taken in.
  intro u hu
  refine ⟨⟨List.prefix_rfl, List.suffix_rfl, fun ha => ?_, id⟩, [], (List.append_nil _).symm, ?_⟩
  · show (u.aborted || _) = true
    rw [ha, Bool.true_or]
  · intro v hv
    exact ⟨rfl, t.requests, hu.requests.trans hv.requests, rfl⟩

/-- To send a request leaves what is remembered of probes alone. -/
theorem leaves_send (w : World) (r : Request) : (send w r).Leaves Session.memo :=
  (leaves_act fun _ => rfl).bind fun _ => leaves_act fun _ => rfl

end Errand

/-! ## §3. Errands for all items. -/

/-- **Errands for all items, among each other**, under a conduct that has
nothing to do with how often work was shared out. -/
theorem forEach_fulfils_of {ρ α β : Type} {c : Conduct Session ρ} (w : World) (limit : Nat)
    (task : α → Errand Session β) (items : List α) {goal : α → Session → List ρ → β → Prop}
    {s : Session}
    (hround : c.allows s { s with rounds := s.rounds + 1 } ∧
      c.log { s with rounds := s.rounds + 1 } = c.log s)
    (h : ∀ a ∈ items, ∀ t, c.allows s t → (task a).Meets c t (goal a)) :
    Fulfils c items goal s (Action.forEach w limit task items s).1
      (Action.forEach w limit task items s).2 := by
  obtain ⟨hstart, hlog⟩ := hround
  obtain ⟨hallows, parts, hresults, hparts, more, hmore, hperm⟩ :=
    perform_fulfils (c := c) limit (w.schedule s.rounds) (s := { s with rounds := s.rounds + 1 })
      fun a ha t ht => h a ha t (c.trans hstart ht)
  exact ⟨c.trans hstart hallows, parts, hresults, hparts, more, hlog ▸ hmore, hperm⟩

/-- The same under the conduct of an invocation. -/
theorem forEach_fulfils {α β : Type} (w : World) (limit : Nat) (task : α → Errand Session β)
    (items : List α) {goal : α → Session → List Request → β → Prop} {s : Session}
    (h : ∀ a ∈ items, ∀ t, s.Becomes t → (task a).Meets Session.conduct t (goal a)) :
    Fulfils Session.conduct items goal s (Action.forEach w limit task items s).1
      (Action.forEach w limit task items s).2 :=
  forEach_fulfils_of w limit task items ⟨Session.Alike.becomes ⟨rfl, rfl, rfl⟩, rfl⟩ h

/-- There is a result for every item. -/
theorem length_forEach {α β : Type} (w : World) (limit : Nat) (task : α → Errand Session β)
    (items : List α) (s : Session) :
    (Action.forEach w limit task items s).1.length = items.length := by
  obtain ⟨-, parts, hresults, hparts, -⟩ := forEach_fulfils_of w limit task items (s := s)
    ⟨trivial, rfl⟩ fun a _ t _ => (task a).meets_free t
  rw [hresults, List.length_map, hparts.length_eq]

end Federation
