/-
  Federation.Proofs.Workers.Sequence
  ──────────────────────────────────
  **SEVERAL WORKERS DO WHAT ONE WOULD DO.**

  Errands for all items come to what a pool comes to when its workers take
  their turns until all have left.  Where several workers share the list, what
  a schedule leaves over is done by steps that could have been on the schedule
  (`reaches_finish`).  Where one would do, the errands are run on the spot;
  but a single worker runs them in the same order and to the same end,
  however often others are named in between (`Lone`).

  So there is one pool to look at, of at least one worker and of no more than
  the limit and the items allow.  Under every fair order of turns it comes to
  its end; by then each item's errand was run exactly once, and its result
  stands in the item's place.  Where the results are settled by the items, as
  a function settles them, the function was mapped over the list.

  Main results:
    * `completed_of_isFinished` — what a pool has come to in the end;
    * `lone_run` — a single worker runs the errands in order;
    * `exists_run_perform` — errands for all items are a pool run to its end;
    * `perform_sequential` — the pool is a map, under every schedule.
-/
import Federation.Proofs.Workers.Ending

namespace Federation

/-! ## §1. What an errand yields. -/

/-- **A result that an errand may come to**, by what it sees in its turns. -/
inductive Errand.Yields {σ β : Type} : Errand σ β → β → Prop
  | done (b : β) : Yields (.done b) b
  | turn {after : σ → σ} {next : σ → Errand σ β} {b : β} (s : σ) (rest : (next s).Yields b) :
      Yields (.turn after next) b

/-- Whatever an errand comes to among others is what it yields. -/
theorem Errand.meets_yields {σ β : Type} (e : Errand σ β) (s : σ) :
    e.Meets (Conduct.free σ) s fun _ _ b => e.Yields b := by
  induction e generalizing s with
  | done b => exact fun _ _ => .done b
  | turn after next ih =>
      intro t _
      exact ⟨trivial, [], rfl, (ih t (after t)).imp fun _ _ _ _ h => .turn t h⟩

namespace Pool

variable {σ α β : Type} {task : α → Errand σ β} {items : List α} {p q : Pool σ β} {w : Nat}

/-! ## §2. What a pool has come to in the end. -/

/-- A pool at its start, with as many workers as the limit and the items
allow, and with one at least. -/
def staffed (limit : Nat) (items : List α) (s : σ) : Pool σ β :=
  start items (max 1 (min limit items.length)) s

/-- There is always a worker. -/
theorem workers_staffed_pos (limit : Nat) (task : α → Errand σ β) (items : List α) (s : σ)
    (schedule : List Nat) :
    0 < ((staffed limit items s).run task items schedule).workers.length := by
  rw [workers_run]
  unfold staffed start
  rw [List.length_replicate]
  exact Nat.le_max_left 1 _

theorem dealt_run_staffed (limit : Nat) (task : α → Errand σ β) (items : List α) (s : σ)
    (schedule : List Nat) : ((staffed limit items s).run task items schedule).Dealt items :=
  dealt_run (dealt_start items _ s) schedule

/-- What an errand yields is a goal that every errand meets. -/
theorem tasksMeet_yields (task : α → Errand σ β) (items : List α) (s : σ) :
    TasksMeet (Conduct.free σ) items (fun a _ _ b => (task a).Yields b) s task :=
  fun a _ t _ => (task a).meets_yields t

theorem exists_standing_staffed (limit : Nat) (task : α → Errand σ β) (items : List α) (s : σ)
    (schedule : List Nat) :
    ∃ shares, ((staffed limit items s).run task items schedule).Standing (Conduct.free σ) items
      (fun a _ _ b => (task a).Yields b) s shares :=
  standing_run (tasksMeet_yields task items s) schedule _ _ (standing_start items _ s)

/-- **The work is done**: all have left, every item's errand was run exactly
once, and in the item's place stands what its errand yields. -/
structure Completed (task : α → Errand σ β) (items : List α) (p : Pool σ β) : Prop where
  finished : p.isFinished = true
  once : p.performed.Perm (List.range items.length)
  inOrder : List.Forall₂ (fun a b => (task a).Yields b) items p.results

/-- **Once all have left, the work is done**, whatever the schedule was. -/
theorem completed_of_isFinished {limit : Nat} {s : σ} {schedule : List Nat}
    (finished : ((staffed limit items s).run task items schedule).isFinished = true) :
    ((staffed limit items s).run task items schedule).Completed task items := by
  have dealt := dealt_run_staffed limit task items s schedule
  have hworkers := workers_staffed_pos limit task items s schedule
  obtain ⟨shares, standing⟩ := exists_standing_staffed limit task items s schedule
  have hfree := isFree_of_isFinished finished
  have hcursor := dealt.length_le_cursor hworkers finished
  refine ⟨finished, dealt.performed_perm hworkers finished, ?_⟩
  -- No share of a log is asked for, so of each part the result remains.
  have hlen := standing.shares_length.trans (standing.results_length hfree hcursor).symm
  have hparts := standing.forall₂ hfree hcursor
  rw [← List.map_snd_zip (Nat.le_of_eq hlen.symm), List.forall₂_map_right_iff]
  exact hparts

/-- Where each errand yields what a function says, and nothing else, the
results are the function mapped over the items. -/
theorem Completed.results_eq {f : α → β} (h : p.Completed task items)
    (settled : ∀ a ∈ items, ∀ b, (task a).Yields b → b = f a) : p.results = items.map f := by
  have hboth := (List.forall₂_and_left items p.results).2 ⟨settled, h.inOrder⟩
  have hsame : List.Forall₂ (fun a b => f a = b) items p.results :=
    hboth.imp fun a b hab => (hab.1 b hab.2).symm
  exact (List.forall₂_eq_eq_eq ▸ List.forall₂_map_left_iff.2 hsame : items.map f = p.results).symm

/-! ## §3. A single worker. -/

/-- The places when the first results are in them. -/
def placesFor (count : Nat) (results : List β) : List (Option β) :=
  results.map some ++ List.replicate (count - results.length) none

theorem filterMap_placesFor (count : Nat) (results : List β) :
    (placesFor count results).filterMap id = results := by
  unfold placesFor
  rw [List.filterMap_append, List.filterMap_map]
  simp

/-- The next result is put in its place. -/
theorem set_placesFor {count : Nat} {results : List β} (h : results.length < count) (b : β) :
    (placesFor count results).set results.length (some b) = placesFor count (results ++ [b]) := by
  unfold placesFor
  have hrest : count - results.length = count - (results.length + 1) + 1 := by omega
  rw [List.set_append_right _ _ (by simp), List.length_map, Nat.sub_self, hrest,
    List.replicate_succ, List.set_cons_zero, List.map_append, List.length_append]
  simp

/-- **A single worker runs the errands in order.**  What it has done so far is
what comes of running the first errands one after another. -/
inductive Lone (task : α → Errand σ β) (items : List α) (s : σ) : Pool σ β → Prop
  /-- It has nothing in hand, or has left after the last item. -/
  | between {t : σ} {cursor : Nat} {results : List β} {x : Worker σ β} {performed : List Nat}
      (free : x = .idle ∨ x = .done ∧ items.length ≤ cursor)
      (taken : results.length = min cursor items.length)
      (before : ((items.take results.length).mapM fun a => (task a).alone) s = (results, t)) :
      Lone task items s ⟨t, cursor, placesFor items.length results, [x], performed⟩
  /-- It is on an errand, and what is left of it comes to what the whole would
  have come to. -/
  | within {t u : σ} {a : α} {e : Errand σ β} {results : List β} {performed : List Nat}
      (item : items[results.length]? = some a)
      (before : ((items.take results.length).mapM fun a => (task a).alone) s = (results, t))
      (onward : e.alone u = (task a).alone t) :
      Lone task items s ⟨u, results.length + 1, placesFor items.length results,
        [.busy results.length e], performed⟩

theorem lone_start (task : α → Errand σ β) (items : List α) (s : σ) :
    Lone task items s (start items 1 s) := by
  have hplaces : (items.map fun _ => (none : Option β)) = placesFor items.length [] := by
    simp [placesFor]
  unfold start
  rw [hplaces]
  exact .between (.inl rfl) (Nat.zero_min _).symm rfl

/-- Actions one after another, and then one more. -/
theorem mapM_concat_run (action : α → StateM σ β) (items : List α) (a : α) (s : σ) :
    ((items ++ [a]).mapM action) s
      = (((items.mapM action) s).1 ++ [(action a ((items.mapM action) s).2).1],
          (action a ((items.mapM action) s).2).2) := by
  rw [List.mapM_append]
  rfl

/-- There is only one whose turn it can be. -/
theorem eq_of_getElem?_singleton {x y : Worker σ β} (h : [x][w]? = some y) : w = 0 ∧ x = y := by
  cases w with
  | zero => exact ⟨rfl, Option.some.inj h⟩
  | succ w => cases h

/-- **Every step of the single worker keeps to the order.** -/
theorem Lone.stepped {s : σ} (h : Lone task items s p) (hs : p.Stepped task items w q) :
    Lone task items s q := by
  cases h with
  | @between t cursor results x performed free taken before =>
      cases hs with
      | @takes a idle next =>
          obtain ⟨rfl, rfl⟩ := eq_of_getElem?_singleton idle
          have hlt : cursor < items.length := (List.getElem?_eq_some_iff.1 next).1
          obtain rfl : results.length = cursor := by rw [taken, Nat.min_eq_left hlt.le]
          exact .within next before rfl
      | leaves idle none =>
          obtain ⟨rfl, rfl⟩ := eq_of_getElem?_singleton idle
          have hle : items.length ≤ cursor := List.getElem?_eq_none_iff.1 none
          refine .between (.inr ⟨rfl, Nat.le_succ_of_le hle⟩) ?_ before
          rw [taken, Nat.min_eq_right hle, Nat.min_eq_right (Nat.le_succ_of_le hle)]
      -- It has nothing in hand that a turn could be taken of.
      | advances hand =>
          obtain ⟨rfl, rfl⟩ := eq_of_getElem?_singleton hand
          rcases free with free | ⟨free, _⟩ <;> cases free
      | places hand =>
          obtain ⟨rfl, rfl⟩ := eq_of_getElem?_singleton hand
          rcases free with free | ⟨free, _⟩ <;> cases free
      | rests => exact .between free taken before
  | @within t u a e results performed item before onward =>
      cases hs with
      | takes idle => cases (eq_of_getElem?_singleton idle).2
      | leaves idle => cases (eq_of_getElem?_singleton idle).2
      | advances hand =>
          obtain ⟨rfl, heq⟩ := eq_of_getElem?_singleton hand
          cases heq
          -- Left alone, the rest after this turn comes to the same.
          exact .within item before onward
      | @places i b hand =>
          obtain ⟨rfl, heq⟩ := eq_of_getElem?_singleton hand
          cases heq
          have hlt : results.length < items.length := (List.getElem?_eq_some_iff.1 item).1
          have hlen : (results ++ [b]).length = results.length + 1 := List.length_append
          -- The errand has come to its result, so it counts among the first.
          have hdone : ((items.take (results ++ [b]).length).mapM fun a => (task a).alone) s
              = (results ++ [b], u) := by
            rw [hlen, List.take_add_one, item, Option.toList_some, mapM_concat_run, before,
              ← onward]
            rfl
          show Lone task items s ⟨u, results.length + 1, _, [.idle], performed ++ [results.length]⟩
          rw [set_placesFor hlt, ← hlen]
          exact .between (.inl rfl) (by omega) hdone
      | rests => exact .within item before onward

/-- **A single worker that has left has run all errands in order.** -/
theorem lone_run (task : α → Errand σ β) (items : List α) (s : σ) (schedule : List Nat)
    (finished : ((start items 1 s).run task items schedule).isFinished = true) :
    (items.mapM fun a => (task a).alone) s
      = (((start items 1 s).run task items schedule).results,
          ((start items 1 s).run task items schedule).state) := by
  have lone : Lone task items s ((start items 1 s).run task items schedule) :=
    run_induction (fun _ _ _ h hs => h.stepped hs) schedule _ (lone_start task items s)
  generalize (start items 1 s).run task items schedule = p at lone finished
  cases lone with
  | @between t cursor results x performed free taken before =>
      have hle : items.length ≤ cursor := by
        rcases free with rfl | ⟨_, hle⟩
        · cases finished
        · exact hle
      rw [taken, Nat.min_eq_right hle, List.take_length] at before
      rw [before, Pool.results, filterMap_placesFor]
  | within => cases finished

/-! ## §4. What a schedule leaves over. -/

/-- Whether some schedule leads from one pool to another. -/
def Reaches (task : α → Errand σ β) (items : List α) (p q : Pool σ β) : Prop :=
  ∃ schedule, p.run task items schedule = q

theorem reaches_step (task : α → Errand σ β) (items : List α) (p : Pool σ β) (w : Nat) :
    p.Reaches task items (p.step task items w) := ⟨[w], rfl⟩

theorem run_append (task : α → Errand σ β) (items : List α) (p : Pool σ β)
    (schedule more : List Nat) :
    p.run task items (schedule ++ more) = (p.run task items schedule).run task items more :=
  List.foldl_append

theorem Reaches.trans {r : Pool σ β} (h : p.Reaches task items q) (k : q.Reaches task items r) :
    p.Reaches task items r := by
  obtain ⟨schedule, rfl⟩ := h
  obtain ⟨more, rfl⟩ := k
  exact ⟨schedule ++ more, run_append task items p schedule more⟩

/-- What one has in hand can be run to its end by taking one's turns. -/
theorem reaches_settle (task : α → Errand σ β) (items : List α) (p : Pool σ β) (w : Nat) :
    p.Reaches task items (p.settle w) := by
  by_cases hfree : p.IsFree w
  · exact ⟨[], (settle_of_free hfree).symm⟩
  · simp only [IsFree, not_forall, not_not] at hfree
    obtain ⟨i, e, hw⟩ := hfree
    -- One turn of the errand after another, and then its result is placed.
    induction e generalizing p with
    | done b =>
        rw [settle_of_done hw, ← step_of_done hw]
        exact reaches_step task items p w
    | turn after next ih =>
        rw [settle_of_turn hw]
        refine (step_of_turn hw ▸ reaches_step task items p w).trans ?_
        exact ih p.state _ ((holds_advance hw.lt_length).2 (.inl ⟨rfl, rfl, rfl⟩))

theorem reaches_settleEach (ws : List Nat) :
    ∀ p : Pool σ β, p.Reaches task items (ws.foldl settle p) := by
  induction ws with
  | nil => exact fun p => ⟨[], rfl⟩
  | cons w ws ih => exact fun p => (reaches_settle task items p w).trans (ih (p.settle w))

/-- The first worker can take the next item, run its errand and be free
again. -/
theorem reaches_takeAndSettle (task : α → Errand σ β) (idle : p.workers[0]? = some .idle)
    (hlt : p.cursor < items.length) :
    p.Reaches task items (p.takeAndSettle task items) ∧
      (p.takeAndSettle task items).workers[0]? = some .idle ∧
      (p.takeAndSettle task items).cursor = p.cursor + 1 := by
  have hw : 0 < p.workers.length := (List.getElem?_eq_some_iff.1 idle).1
  have hand : (p.take task items 0).workers[0]?
      = some (.busy p.cursor (task items[p.cursor])) :=
    (holds_take hw).2 (.inl ⟨rfl, rfl, _, List.getElem?_eq_getElem hlt, rfl⟩)
  refine ⟨?_, ?_, cursor_settle _ 0⟩
  · exact (step_of_idle idle ▸ reaches_step task items p 0).trans (reaches_settle task items _ 0)
  · unfold takeAndSettle settle
    rw [hand]
    refine List.getElem?_set_self ?_
    simpa [take] using hw

/-- The items that are left can be taken one after another. -/
theorem reaches_takeEach (rest : List α) :
    ∀ p : Pool σ β, p.workers[0]? = some .idle → p.cursor + rest.length ≤ items.length →
      p.Reaches task items (rest.foldl (fun p _ => p.takeAndSettle task items) p) := by
  induction rest with
  | nil => exact fun p _ _ => ⟨[], rfl⟩
  | cons a rest ih =>
      intro p idle hle
      rw [List.length_cons] at hle
      have hlt : p.cursor < items.length := by omega
      obtain ⟨hreaches, hidle, hcursor⟩ := reaches_takeAndSettle task idle hlt
      exact hreaches.trans (ih _ hidle (by omega))

/-- Who has nothing in hand while there are items to be taken can take one. -/
theorem Dealt.idle (dealt : p.Dealt items) (hw : w < p.workers.length) (free : p.IsFree w)
    (hlt : p.cursor < items.length) : p.workers[w]? = some .idle := by
  cases hx : p.workers[w]? with
  | none => exact absurd hw (Nat.not_lt.2 (List.getElem?_eq_none_iff.1 hx))
  | some x =>
      cases x with
      | idle => rfl
      | busy i e => exact absurd hx (free i e)
      | done => exact absurd hlt (Nat.not_lt.2 (dealt.exhausted w hx))

/-- **What a schedule leaves over is done by steps that could have been on
it.** -/
theorem reaches_finish (task : α → Errand σ β) {ρ : Type} {c : Conduct σ ρ}
    {goal : α → σ → List ρ → β → Prop} {origin : σ} {shares : List (List ρ)} (dealt : p.Dealt items)
    (standing : p.Standing c items goal origin shares) (hw : 0 < p.workers.length) :
    p.Reaches task items (p.finish task items) := by
  have hsettled : p.Reaches task items p.settleAll := reaches_settleEach _ p
  obtain ⟨-, hfree, hcursor, hworkers⟩ := standing.settleAll
  refine hsettled.trans ?_
  by_cases hle : items.length ≤ p.cursor
  · -- There is nothing left to be taken.
    unfold finish
    rw [List.drop_eq_nil_of_le hle]
    exact ⟨[], rfl⟩
  · have hdealt : p.settleAll.Dealt items := by
      obtain ⟨schedule, hrun⟩ := hsettled
      exact hrun ▸ dealt_run dealt schedule
    have idle : p.settleAll.workers[0]? = some .idle :=
      hdealt.idle (hworkers ▸ hw) (hfree 0) (by omega)
    refine reaches_takeEach (items.drop p.cursor) _ idle ?_
    rw [hcursor, List.length_drop]
    omega

/-- Nothing is left to be done but to leave, and what has come of the errands
is settled. -/
structure Spent (items : List α) (results : List β) (t : σ) (p : Pool σ β) : Prop where
  free : ∀ w, p.IsFree w
  taken : items.length ≤ p.cursor
  results : p.results = results
  state : p.state = t

theorem Spent.stepped {results : List β} {t : σ} (h : p.Spent items results t)
    (hs : p.Stepped task items w q) : q.Spent items results t := by
  cases hs with
  | takes _ next =>
      have hlt := (List.getElem?_eq_some_iff.1 next).1
      exact absurd h.taken (Nat.not_le.2 hlt)
  | leaves idle _ =>
      have hw : w < p.workers.length := (List.getElem?_eq_some_iff.1 idle).1
      refine ⟨fun v i e hv => ?_, Nat.le_succ_of_le h.taken, h.results, h.state⟩
      rcases (getElem?_set_eq_busy hw).1 hv with ⟨_, hdone⟩ | ⟨_, hv⟩
      · cases hdone
      · exact h.free v i e hv
  | advances hand => exact absurd hand (h.free w _ _)
  | places hand => exact absurd hand (h.free w _ _)
  | rests => exact h

/-- To leave is all that happens from then on. -/
theorem Spent.exists_run {results : List β} {t : σ} (h : p.Spent items results t)
    (task : α → Errand σ β) :
    ∃ last, (p.run task items last).isFinished = true ∧
      (p.run task items last).Spent items results t := by
  obtain ⟨last, hlast⟩ := exists_isFinished task items p
  have kept : ∀ (q r : Pool σ β) (w : Nat), q.Spent items results t →
      q.Stepped task items w r → r.Spent items results t := fun _ _ _ hq hs => hq.stepped hs
  exact ⟨last, hlast, run_induction kept last p h⟩

/-! ## §5. Errands for all items. -/

/-- **What a pool can come to**: by some steps more all have left, and these
are the results and the state by then. -/
def ComesTo (task : α → Errand σ β) (items : List α) (p : Pool σ β) (outcome : List β × σ) :
    Prop :=
  ∃ more, (p.run task items more).isFinished = true ∧
    outcome = ((p.run task items more).results, (p.run task items more).state)

/-- Errands that are run on the spot come to what a single worker comes to,
whatever it has done of them by then. -/
theorem comesTo_of_few {limit : Nat} (few : workersFor limit items.length ≤ 1)
    (task : α → Errand σ β) (s : σ) (schedule : List Nat) :
    ((staffed limit items s).run task items schedule).ComesTo task items
      (perform limit schedule task items s) := by
  have hperform : perform limit schedule task items s
      = (items.mapM fun a => (task a).alone) s := by
    unfold perform
    rw [if_pos few]
  have hone : (staffed limit items s : Pool σ β) = start items 1 s :=
    congrArg (start items · s) (Nat.max_eq_left few)
  obtain ⟨more, hmore⟩ := exists_isFinished task items
    ((start items 1 s).run task items schedule)
  rw [hperform, hone]
  refine ⟨more, hmore, ?_⟩
  rw [← run_append] at hmore ⊢
  exact lone_run task items s _ hmore

/-- What several workers leave over is done, and then they leave. -/
theorem comesTo_of_several {limit : Nat} (several : ¬workersFor limit items.length ≤ 1)
    (task : α → Errand σ β) (s : σ) (schedule : List Nat) :
    ((staffed limit items s).run task items schedule).ComesTo task items
      (perform limit schedule task items s) := by
  have hcrew : (staffed limit items s : Pool σ β)
      = start items (workersFor limit items.length) s :=
    congrArg (start items · s) (Nat.max_eq_right (Nat.le_of_not_le several))
  have hperform : perform limit schedule task items s
      = ((((staffed limit items s).run task items schedule).finish task items).results,
          (((staffed limit items s).run task items schedule).finish task items).state) := by
    unfold perform
    rw [if_neg several, hcrew]
  have hworkers := workers_staffed_pos limit task items s schedule
  obtain ⟨shares, standing⟩ := exists_standing_staffed limit task items s schedule
  obtain ⟨rest, hrest⟩ := reaches_finish task
    (dealt_run_staffed limit task items s schedule) standing hworkers
  -- After the rest was done nobody has anything in hand, and every item was
  -- taken, so the steps that lead to the end change neither results nor state.
  obtain ⟨-, hfree, hcursor⟩ := standing.finish (tasksMeet_yields task items s) hworkers
  obtain ⟨last, hlast, spent⟩ := (Spent.mk hfree hcursor rfl rfl).exists_run task
  refine ⟨rest ++ last, ?_⟩
  rw [run_append, hrest]
  exact ⟨hlast, by rw [hperform, spent.results, spent.state]⟩

/-- **Errands for all items are a pool that is run to its end**, from wherever
a schedule has brought it. -/
theorem exists_run_perform (limit : Nat) (task : α → Errand σ β) (items : List α) (s : σ)
    (schedule : List Nat) :
    ∃ more, ((staffed limit items s).run task items (schedule ++ more)).isFinished = true ∧
      perform limit schedule task items s
        = (((staffed limit items s).run task items (schedule ++ more)).results,
            ((staffed limit items s).run task items (schedule ++ more)).state) := by
  have hcomes : ((staffed limit items s).run task items schedule).ComesTo task items
      (perform limit schedule task items s) := by
    by_cases hfew : workersFor limit items.length ≤ 1
    · exact comesTo_of_few hfew task s schedule
    · exact comesTo_of_several hfew task s schedule
  obtain ⟨more, hmore⟩ := hcomes
  rw [← run_append] at hmore
  exact ⟨more, hmore⟩

end Pool

/-- **Workers on one list are a map over it, under every schedule.**  At no
moment are more errands under way than the limit and the items allow, or one;
and what was performed and what is in hand are the items taken so far, each of
them once.  Under every fair order of turns all have left in the end.  By then
each item's errand was run exactly once and its result stands in its place.
To run errands for all items is to run the workers to that end, from wherever
a schedule has brought them; and where the errands yield what a function says,
the results are the function mapped over the items. -/
theorem perform_sequential {σ α β : Type} (limit : Nat) (task : α → Errand σ β) (items : List α)
    (s : σ) :
    let crew := max 1 (min limit items.length)
    let pool : List Nat → Pool σ β := (Pool.start items crew s).run task items
    (∀ schedule, (pool schedule).busy ≤ crew ∧
      ((pool schedule).performed : Multiset Nat) + (pool schedule).inHand
        = Multiset.range (min (pool schedule).cursor items.length)) ∧
    (∀ turns : Nat → Nat, (Pool.start items crew s).Fair task items turns →
      ∃ n, (pool ((List.range n).map turns)).isFinished = true) ∧
    (∀ schedule, (pool schedule).isFinished = true → (pool schedule).Completed task items) ∧
    (∀ schedule, ∃ more, (pool (schedule ++ more)).isFinished = true ∧
      perform limit schedule task items s
        = ((pool (schedule ++ more)).results, (pool (schedule ++ more)).state)) ∧
    ∀ f : α → β, (∀ a ∈ items, ∀ b, (task a).Yields b → b = f a) →
      ∀ schedule, (perform limit schedule task items s).1 = items.map f := by
  intro crew pool
  refine ⟨fun schedule => ⟨Pool.busy_le task items crew s schedule, ?_⟩, fun turns fair => ?_,
    fun schedule => Pool.completed_of_isFinished,
    Pool.exists_run_perform limit task items s, fun f settled schedule => ?_⟩
  · exact (Pool.dealt_run_staffed limit task items s schedule).account
  · exact fair.finishes
  · obtain ⟨more, hmore, hperform⟩ := Pool.exists_run_perform limit task items s schedule
    rw [hperform]
    exact (Pool.completed_of_isFinished hmore).results_eq settled

/-- An errand that notes its item when it is begun and when it is ended, and
comes to twice the item. -/
def noteTwice (n : Nat) : Errand (List Nat) Nat :=
  .turn (· ++ [n]) fun _ => .turn (· ++ [n]) fun _ => .done (2 * n)

/-- Two workers that take turns come to the end of three items; both are on
errands at once and what they note is mixed, but the results are in order,
also where the schedule stops halfway and where no worker is allowed. -/
theorem perform_sequential_noteTwice :
    (∃ n, ((Pool.start [5, 6, 7] 2 []).run noteTwice [5, 6, 7]
        ((List.range n).map (· % 2))).isFinished = true) ∧
      ((Pool.start [5, 6, 7] 2 []).run noteTwice [5, 6, 7] [0, 1, 1, 0, 1]).busy = 2 ∧
      (perform 2 [0, 1, 1, 0, 1] noteTwice [5, 6, 7] []).2 = [6, 5, 6, 5, 7, 7] ∧
      (perform 2 [0, 1, 1, 0, 1] noteTwice [5, 6, 7] []).1 = [10, 12, 14] ∧
      (perform 0 [] noteTwice [5, 6, 7] []).1 = [10, 12, 14] := by
  have settled : ∀ a ∈ [5, 6, 7], ∀ b, (noteTwice a).Yields b → b = 2 * a := by
    intro a _ b h
    cases h with
    | turn _ h =>
        cases h with
        | turn _ h =>
            cases h
            rfl
  obtain ⟨-, ends, -, -, maps⟩ := perform_sequential 2 noteTwice [5, 6, 7] []
  obtain ⟨-, -, -, -, mapsAlone⟩ := perform_sequential 0 noteTwice [5, 6, 7] []
  refine ⟨ends (· % 2) (Pool.fair_of_recurring fun w hw n => ?_), by decide, by decide,
    maps (2 * ·) settled _, mapsAlone (2 * ·) settled _⟩
  have htwo : w < 2 := hw
  exact ⟨2 * n + w, by omega, by omega⟩

end Federation
