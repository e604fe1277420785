/-
  Federation.Proofs.Signal
  ────────────────────────
  **THE SIGNAL TO STOP.**

  The signal may come with the reply to any request, or be there when it is
  next looked for.  From then on nothing is sent.  Beside each world there is
  the calm one, which differs in nothing but that no signal ever comes.  An
  errand and its counterpart there go side by side until the signal comes;
  then the errand may be cut short, and its result says so.

  What is said here is about errands that are left alone.

  Main results:
    * `Heeds.trans` — heeding the signal is heeding it step by step;
    * `Abreast.bind` — errands one after another stay abreast;
    * `abreast_stopped` — where an errand may be cut short;
    * `getElem?_each_calm` — errands for all items of a list, up to the signal.
-/
import Federation.Proofs.Workers
import Federation.Session

namespace Federation

/-! ## §1. The calm world. -/

/-- The world in which the signal to stop never comes, and which is the same
otherwise. -/
def World.calm (w : World) : World :=
  { w with
    transport := fun before r => { w.transport before r with raisesAbort := false }
    interrupts := fun _ => false }

/-- The session as it would be if the signal had not come. -/
def Session.calmed (s : Session) : Session := { s with aborted := false }

theorem stopped_calm (w : World) (s : Session) :
    Action.stopped w.calm s.calmed = (false, (Action.stopped w s).2.calmed) := rfl

/-! ## §2. To heed the signal. -/

/-- **What is sent from one session to the next heeds the signal**: nothing
is sent once it has come, and a request that it comes with is the last. -/
structure Heeds (w : World) (s t : Session) (sent : List Request) : Prop where
  log : t.requests = s.requests ++ sent
  stopped : s.aborted = true → sent = [] ∧ t.aborted = true
  last : ∀ before r after, sent = before ++ r :: after →
    (w.transport (s.requests ++ before) r).raisesAbort = true → after = [] ∧ t.aborted = true

/-- Where nothing is sent and the signal stays, it is heeded. -/
theorem heeds_nil {w : World} {s t : Session} (hlog : t.requests = s.requests)
    (hstays : s.aborted = true → t.aborted = true) : Heeds w s t [] where
  log := by rw [hlog, List.append_nil]
  stopped h := ⟨rfl, hstays h⟩
  last before r after h := by simp at h

/-- **To heed the signal is to heed it step by step.** -/
theorem Heeds.trans {w : World} {r s t : Session} {sent more : List Request}
    (h : Heeds w r s sent) (k : Heeds w s t more) : Heeds w r t (sent ++ more) where
  log := by rw [k.log, h.log, List.append_assoc]
  stopped hr := by
    obtain ⟨rfl, hs⟩ := h.stopped hr
    obtain ⟨rfl, ht⟩ := k.stopped hs
    exact ⟨rfl, ht⟩
  last before x after hsplit hraises := by
    rcases List.append_eq_append_iff.1 hsplit with ⟨mid, rfl, hmore⟩ | ⟨mid, hsent, hafter⟩
    · -- The request is one of the second step.
      rw [← List.append_assoc, ← h.log] at hraises
      exact k.last mid x after hmore hraises
    · cases mid with
      | nil =>
          rw [List.append_nil] at hsent
          subst hsent
          have hraises' : (w.transport (s.requests ++ []) x).raisesAbort = true := by
            rw [List.append_nil, h.log]
            exact hraises
          exact k.last [] x after hafter.symm hraises'
      | cons y mid =>
          -- It is one of the first step, so it is the last of all.
          obtain ⟨rfl, rfl⟩ := List.cons.inj hafter
          obtain ⟨rfl, hs⟩ := h.last before x mid hsent hraises
          obtain ⟨rfl, ht⟩ := k.stopped hs
          exact ⟨rfl, ht⟩

theorem heeds_send (w : World) (r : Request) {s : Session} (h : s.aborted = false) :
    Heeds w s ((send w r).alone s).2 [r] where
  log := requests_send w r s
  stopped hs := by rw [h] at hs; cases hs
  last before x after hsplit hraises := by
    cases before with
    | nil =>
        obtain ⟨rfl, rfl⟩ := List.cons.inj hsplit
        rw [List.append_nil] at hraises
        refine ⟨rfl, ?_⟩
        rw [alone_send]
        show (s.aborted || _) = true
        rw [hraises, Bool.or_true]
    | cons y before => simp at hsplit

/-- Whether one session comes of another by heeding the signal. -/
def Obeys (w : World) (s t : Session) : Prop := ∃ sent, Heeds w s t sent

theorem obeys_nil {w : World} {s t : Session} (hlog : t.requests = s.requests)
    (hstays : s.aborted = true → t.aborted = true) : Obeys w s t := ⟨[], heeds_nil hlog hstays⟩

theorem obeys_refl (w : World) (s : Session) : Obeys w s s := obeys_nil rfl id

theorem Obeys.trans {w : World} {r s t : Session} (h : Obeys w r s) (k : Obeys w s t) :
    Obeys w r t := by
  obtain ⟨sent, heeds⟩ := h
  obtain ⟨more, hmore⟩ := k
  exact ⟨sent ++ more, heeds.trans hmore⟩

/-- Once the signal has come it stays. -/
theorem Obeys.stays {w : World} {s t : Session} (h : Obeys w s t) (hs : s.aborted = true) :
    t.aborted = true := by
  obtain ⟨sent, heeds⟩ := h
  exact (heeds.stopped hs).2

/-! ## §3. Errands side by side. -/

/-- **An errand and its counterpart in the calm world go side by side**: they
come to the same, or the signal has come and the errand's result is one of
those that tell so. -/
structure Abreast {α : Type} (w : World) (cut : α → Prop) (e calm : Errand Session α)
    (s : Session) : Prop where
  obeys : Obeys w s (e.alone s).2
  together : calm.alone s.calmed = ((e.alone s).1, (e.alone s).2.calmed) ∨
    ((e.alone s).2.aborted = true ∧ cut (e.alone s).1)

variable {α β : Type} {w : World} {s : Session}

theorem abreast_done {cut : α → Prop} (a : α) : Abreast w cut (.done a) (.done a) s :=
  ⟨obeys_refl w s, .inl rfl⟩

/-- **Errands one after another stay abreast**, where a result that tells of
the signal leads to one that does so again. -/
theorem Abreast.bind {cut : α → Prop} {cut' : β → Prop} {e calm : Errand Session α}
    {f g : α → Errand Session β} (h : Abreast w cut e calm s)
    (hf : ∀ a t, Abreast w cut' (f a) (g a) t)
    (hcut : ∀ a t, cut a → cut' ((f a).alone t).1) :
    Abreast w cut' (e.bind f) (calm.bind g) s := by
  obtain ⟨obeys, together⟩ := h
  obtain ⟨hrest, hnext⟩ := hf (e.alone s).1 (e.alone s).2
  refine ⟨?_, ?_⟩
  · rw [Errand.alone_bind]
    exact obeys.trans hrest
  · rw [Errand.alone_bind, Errand.alone_bind]
    rcases together with hsame | ⟨hstop, htells⟩
    · rw [hsame]
      exact hnext
    · exact .inr ⟨hrest.stays hstop, hcut _ _ htells⟩

/-- An action that neither sends anything nor asks for the signal, and what
comes after it. -/
theorem abreast_quiet {cut : β → Prop} {action : Action α} {f g : α → Errand Session β}
    (hlog : ∀ t, (action t).2.requests = t.requests)
    (hcalm : ∀ t, action t.calmed = ((action t).1, (action t).2.calmed))
    (hstays : ∀ t, (action t).2.aborted = t.aborted)
    (hf : ∀ a t, Abreast w cut (f a) (g a) t) :
    Abreast w cut ((Errand.ofAction action).bind f) ((Errand.ofAction action).bind g) s := by
  have haction : Abreast w (fun _ => False) (Errand.ofAction action) (Errand.ofAction action) s :=
    ⟨obeys_nil (hlog s) fun hs => (hstays s).trans hs, .inl (hcalm s)⟩
  exact haction.bind hf fun _ _ h => h.elim

/-- **To look for the signal**: if it is there, the errand is cut short. -/
theorem abreast_stopped {cut : β → Prop} {f g : Bool → Errand Session β} {b : β}
    (hstop : f true = .done b) (hcut : cut b)
    (hgo : ∀ t, t.aborted = false → Abreast w cut (f false) (g false) t) :
    Abreast w cut ((Errand.ofAction (Action.stopped w)).bind f)
      ((Errand.ofAction (Action.stopped w.calm)).bind g) s := by
  have hstays : s.aborted = true → (Action.stopped w s).2.aborted = true := fun hs => by
    show (s.aborted || w.interrupts s.looks) = true
    rw [hs, Bool.true_or]
  have hlook : Obeys w s (Action.stopped w s).2 := obeys_nil rfl hstays
  cases hfound : (Action.stopped w s).1 with
  | true =>
      have halone : ((Errand.ofAction (Action.stopped w)).bind f).alone s
          = (b, (Action.stopped w s).2) := by
        rw [Errand.alone_bind, Errand.alone_ofAction, hfound, hstop]
        rfl
      refine ⟨?_, .inr ?_⟩
      · rw [halone]
        exact hlook
      · rw [halone]
        exact ⟨hfound, hcut⟩
  | false =>
      obtain ⟨hrest, hnext⟩ := hgo (Action.stopped w s).2 hfound
      have halone : ((Errand.ofAction (Action.stopped w)).bind f).alone s
          = (f false).alone (Action.stopped w s).2 := by
        rw [Errand.alone_bind, Errand.alone_ofAction, hfound]
      refine ⟨?_, ?_⟩
      · rw [halone]
        exact hlook.trans hrest
      · rw [halone, Errand.alone_bind, Errand.alone_ofAction, stopped_calm]
        exact hnext

/-- To send a request where the signal has not come. -/
theorem abreast_send (r : Request) (h : s.aborted = false) :
    Abreast w (fun _ => False) (send w r) (send w.calm r) s :=
  ⟨⟨[r], heeds_send w r h⟩, .inl rfl⟩

/-! ## §4. Errands for all items. -/

/-- The session in which the `n`-th item is turned to, where errands are run
one after another. -/
def turnTo (task : α → Errand Session β) : List α → Nat → Session → Session
  | a :: items, n + 1, s => turnTo task items n ((task a).alone s).2
  | _, _, s => s

/-- The errands for all items, one after another. -/
def each (task : α → Errand Session β) (items : List α) : Action (List β) :=
  items.mapM fun a => (task a).alone

theorem each_cons (task : α → Errand Session β) (a : α) (items : List α) (s : Session) :
    each task (a :: items) s
      = (((task a).alone s).1 :: (each task items ((task a).alone s).2).1,
        (each task items ((task a).alone s).2).2) := mapM_cons_run _ a items s

/-- With a single worker the errands are run one after another. -/
theorem forEach_of_alone (w : World) {limit : Nat} (h : limit ≤ 1) (task : α → Errand Session β)
    (items : List α) (s : Session) :
    Action.forEach w limit task items s = each task items { s with rounds := s.rounds + 1 } := by
  show perform limit (w.schedule s.rounds) task items { s with rounds := s.rounds + 1 } = _
  rw [perform_of_alone task items _ (.inl h)]
  rfl

/-- What comes of an item is what comes of it in its turn. -/
theorem getElem?_each (task : α → Errand Session β) {items : List α} :
    ∀ {s n a}, items[n]? = some a →
      (each task items s).1[n]? = some ((task a).alone (turnTo task items n s)).1 := by
  induction items with
  | nil => exact fun h => nomatch h
  | cons b items ih =>
      intro s n a ha
      rw [each_cons]
      cases n with
      | zero =>
          obtain rfl := Option.some.inj ha
          rfl
      | succ n => exact ih ha

/-- The turns are taken one after the other. -/
theorem turnTo_succ (task : α → Errand Session β) {items : List α} :
    ∀ {s n a}, items[n]? = some a →
      turnTo task items (n + 1) s = ((task a).alone (turnTo task items n s)).2 := by
  induction items with
  | nil => exact fun h => nomatch h
  | cons b items ih =>
      intro s n a ha
      cases n with
      | zero =>
          obtain rfl := Option.some.inj ha
          cases items <;> rfl
      | succ n => exact ih ha

section

variable {cut : β → Prop} {task calm : α → Errand Session β}
  (h : ∀ a t, Abreast w cut (task a) (calm a) t)
include h

theorem obeys_each (items : List α) : ∀ s, Obeys w s (each task items s).2 := by
  induction items with
  | nil => exact fun s => obeys_refl w s
  | cons a items ih =>
      intro s
      rw [each_cons]
      exact (h a s).obeys.trans (ih _)

theorem obeys_turnTo (items : List α) : ∀ n s, Obeys w s (turnTo task items n s) := by
  induction items with
  | nil => exact fun n s => by cases n <;> exact obeys_refl w s
  | cons a items ih =>
      intro n s
      cases n with
      | zero => exact obeys_refl w s
      | succ n => exact (h a s).obeys.trans (ih n _)

/-- **Up to the signal the calm world comes to the same**, where it leaves items
out only after a fatal result and there is none here. -/
theorem getElem?_each_calm {fatal : β → Bool} {rest : List α} (seen : List α) :
    ∀ n s a, (∀ b ∈ (each task (seen ++ rest) s).1, fatal b = false) →
      ((∀ b ∈ (each calm seen s.calmed).1, fatal b = false) → rest = []) →
      (seen ++ rest)[n]? = some a → (turnTo task (seen ++ rest) n s).aborted = false →
      (each calm seen s.calmed).1[n]?
        = some ((calm a).alone (turnTo task (seen ++ rest) n s).calmed).1 := by
  induction seen with
  | nil =>
      intro n s a _ hall ha _
      obtain rfl := hall fun _ hb => nomatch hb
      cases ha
  | cons b seen ih =>
      intro n s a sound hall ha hgo
      rw [each_cons]
      cases n with
      | zero =>
          obtain rfl := Option.some.inj ha
          rfl
      | succ n =>
          have hnow : (turnTo task (seen ++ rest) n ((task b).alone s).2).aborted = false := hgo
          rw [List.cons_append, each_cons] at sound
          rcases (h b s).together with hsame | ⟨hstop, -⟩
          · rw [each_cons, hsame] at hall
            rw [hsame]
            refine ih n _ a (fun b hb => sound b (List.mem_cons_of_mem _ hb)) (fun hrest => ?_)
              ha hnow
            refine hall fun b hb => ?_
            rcases List.mem_cons.1 hb with rfl | hb
            · exact sound _ List.mem_cons_self
            · exact hrest b hb
          · rw [(obeys_turnTo h (seen ++ rest) n _).stays hstop] at hnow
            cases hnow

/-- **Where no errand was cut short**, the calm world comes to the same. -/
theorem each_calm (items : List α) :
    ∀ s, (∀ b ∈ (each task items s).1, ¬cut b) →
      each calm items s.calmed = ((each task items s).1, (each task items s).2.calmed) := by
  induction items with
  | nil => exact fun s _ => rfl
  | cons a items ih =>
      intro s hwhole
      rw [each_cons] at hwhole ⊢
      rw [each_cons]
      rcases (h a s).together with hsame | ⟨-, hcut⟩
      · rw [hsame, ih _ fun b hb => hwhole b (List.mem_cons_of_mem _ hb)]
      · exact absurd hcut (hwhole _ List.mem_cons_self)

end

end Federation
