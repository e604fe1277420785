/-
  Federation.Proofs.Workers
  ─────────────────────────
  **WHAT WORKERS COME TO.**

  Every item's errand meets a goal under a conduct.  Then, whatever the
  schedule, there is one result for each item, in the order of the items, and
  it is what the goal of that item says; and the log has grown by what the
  errands added, each its own share, in some order.

  The invariant (`Standing`) keeps a share for each item: what its errand
  added to the log so far.  A worker that has an errand in hand is the only
  one that has it, and what is left of it meets the rest of its goal.  An
  item whose place is empty is in somebody's hand or was not taken yet.

  Main results:
    * `standing_run` — the invariant holds after every schedule;
    * `perform_fulfils` — what comes of errands for all items.
-/
import Federation.Proofs.Errand
import Federation.Workers
import Mathlib.Data.List.Forall2

namespace Federation

/-! ## §1. Shares of a log. -/

/-- What one share grows by is added to the whole. -/
theorem perm_flatten_set {ρ : Type} {shares : List (List ρ)} {i : Nat} {own : List ρ}
    (more : List ρ) (h : shares[i]? = some own) :
    (shares.set i (own ++ more)).flatten.Perm (shares.flatten ++ more) := by
  induction shares generalizing i with
  | nil => simp at h
  | cons share rest ih =>
      cases i with
      | zero =>
          simp only [List.getElem?_cons_zero, Option.some.injEq] at h
          subst h
          simp only [List.set_cons_zero, List.flatten_cons, List.append_assoc]
          exact (List.perm_append_comm).append_left share
      | succ i =>
          simp only [List.getElem?_cons_succ] at h
          simp only [List.set_cons_succ, List.flatten_cons, List.append_assoc]
          exact (ih h).append_left share

namespace Pool

variable {σ ρ α β : Type}

/-! ## §2. Who has what in hand. -/

/-- Whether a worker has an errand in hand, for the item at an index. -/
def Holds (p : Pool σ β) (w i : Nat) (e : Errand σ β) : Prop :=
  p.workers[w]? = some (.busy i e)

/-- Whether a worker has nothing in hand. -/
def IsFree (p : Pool σ β) (w : Nat) : Prop := ∀ i e, ¬p.Holds w i e

/-- Only the worker that was given something has something else than before. -/
theorem getElem?_set_eq_busy {workers : List (Worker σ β)} {v w i : Nat} {x : Worker σ β}
    {e : Errand σ β} (hw : w < workers.length) :
    (workers.set w x)[v]? = some (.busy i e) ↔
      (v = w ∧ x = .busy i e) ∨ (v ≠ w ∧ workers[v]? = some (.busy i e)) := by
  rw [List.getElem?_set]
  by_cases h : w = v
  · subst h
    simp [hw]
  · have h' : v ≠ w := fun hv => h hv.symm
    simp [h, h']

theorem Holds.lt_length {p : Pool σ β} {w i : Nat} {e : Errand σ β} (h : p.Holds w i e) :
    w < p.workers.length := (List.getElem?_eq_some_iff.1 h).1

/-- A worker has one thing in hand. -/
theorem Holds.unique {p : Pool σ β} {w i j : Nat} {d e : Errand σ β} (h : p.Holds w i d)
    (h' : p.Holds w j e) : i = j ∧ d = e := by
  unfold Holds at h h'
  rw [h] at h'
  simpa using h'

theorem holds_take {p : Pool σ β} {task : α → Errand σ β} {items : List α} {v w i : Nat}
    {e : Errand σ β} (hw : w < p.workers.length) :
    (p.take task items w).Holds v i e ↔
      (v = w ∧ i = p.cursor ∧ ∃ a, items[p.cursor]? = some a ∧ e = task a)
        ∨ (v ≠ w ∧ p.Holds v i e) := by
  unfold Holds take
  rw [getElem?_set_eq_busy hw]
  refine or_congr_left (and_congr_right fun _ => ?_)
  cases items[p.cursor]? with
  | none => simp
  | some a => simp [eq_comm]

theorem holds_advance {p : Pool σ β} {after : σ → σ} {next : σ → Errand σ β} {v w i j : Nat}
    {e : Errand σ β} (hw : w < p.workers.length) :
    (p.advance w i after next).Holds v j e ↔
      (v = w ∧ j = i ∧ e = next p.state) ∨ (v ≠ w ∧ p.Holds v j e) := by
  unfold Holds advance
  rw [getElem?_set_eq_busy hw]
  simp [eq_comm]

theorem holds_place {p : Pool σ β} {b : β} {v w i j : Nat} {e : Errand σ β}
    (hw : w < p.workers.length) :
    (p.place w i b).Holds v j e ↔ v ≠ w ∧ p.Holds v j e := by
  unfold Holds place
  rw [getElem?_set_eq_busy hw]
  simp

/-! ## §3. The invariant. -/

/-- **Where a pool stands** that was started in a state, with each item's
share of the log since then. -/
structure Standing (c : Conduct σ ρ) (items : List α) (goal : α → σ → List ρ → β → Prop)
    (origin : σ) (shares : List (List ρ)) (p : Pool σ β) : Prop where
  slots_length : p.slots.length = items.length
  shares_length : shares.length = items.length
  allowed : c.allows origin p.state
  logged : ∃ more, c.log p.state = c.log origin ++ more ∧ more.Perm shares.flatten
  /-- What a worker has in hand meets the rest of its item's goal. -/
  held : ∀ w i e, p.Holds w i e →
    i < p.cursor ∧ p.slots[i]? = some none ∧ ∃ a own, items[i]? = some a ∧
      shares[i]? = some own ∧ e.Meets c p.state fun t more b => goal a t (own ++ more) b
  /-- No item is in two hands. -/
  apart : ∀ v w i d e, p.Holds v i d → p.Holds w i e → v = w
  /-- An item that was taken and has no result is in somebody's hand. -/
  inHand : ∀ i, i < p.cursor → p.slots[i]? = some none → ∃ w e, p.Holds w i e
  filled : ∀ i b, p.slots[i]? = some (some b) →
    i < p.cursor ∧ ∃ a own, items[i]? = some a ∧ shares[i]? = some own ∧
      ∀ t, c.allows p.state t → goal a t own b
  untaken : ∀ i, p.cursor ≤ i → i < items.length → shares[i]? = some []

/-- Every errand meets its goal whenever it is started. -/
def TasksMeet (c : Conduct σ ρ) (items : List α) (goal : α → σ → List ρ → β → Prop)
    (origin : σ) (task : α → Errand σ β) : Prop :=
  ∀ a ∈ items, ∀ t, c.allows origin t → (task a).Meets c t (goal a)

variable {c : Conduct σ ρ} {items : List α} {goal : α → σ → List ρ → β → Prop} {origin : σ}
  {shares : List (List ρ)} {p : Pool σ β} {task : α → Errand σ β}

theorem standing_start (items : List α) (workers : Nat) (s : σ) :
    (start items workers s : Pool σ β).Standing c items goal s (items.map fun _ => []) := by
  have free : ∀ w, (start items workers s : Pool σ β).IsFree w := by
    intro w i e h
    simp only [Holds, start, List.getElem?_replicate] at h
    split at h <;> simp at h
  have empty : ∀ (i : Nat) (b : β), (start items workers s : Pool σ β).slots[i]? ≠ some (some b) := by
    intro i b h
    simp only [start, List.getElem?_map, Option.map_eq_some_iff] at h
    obtain ⟨_, _, h⟩ := h
    cases h
  exact {
    slots_length := by simp [start]
    shares_length := by simp
    allowed := c.refl s
    logged := ⟨[], by simp [start], by simp⟩
    held := fun w i e h => absurd h (free w i e)
    apart := fun v w i d e h _ => absurd h (free v i d)
    inHand := fun i h => by simp [start] at h
    filled := fun i b h => absurd h (empty i b)
    untaken := fun i _ h => by rw [List.getElem?_map, List.getElem?_eq_getElem h]; rfl }

/-! ## §4. What one step preserves. -/

/-- The place of an item that was not taken yet is empty. -/
theorem Standing.slot_of_untaken (h : p.Standing c items goal origin shares) {i : Nat}
    (hi : p.cursor ≤ i) (hlt : i < items.length) : p.slots[i]? = some none := by
  have hs : i < p.slots.length := by rw [h.slots_length]; exact hlt
  cases hb : p.slots[i]? with
  | none => rw [List.getElem?_eq_none_iff] at hb; omega
  | some slot =>
      cases slot with
      | none => rfl
      | some b => have := (h.filled i b hb).1; omega

theorem Standing.take (h : p.Standing c items goal origin shares)
    (htasks : TasksMeet c items goal origin task) {w : Nat} (hw : w < p.workers.length)
    (hfree : p.IsFree w) : (p.take task items w).Standing c items goal origin shares := by
  -- The item taken, if there is one, was in nobody's hand.
  have fresh : ∀ v e, ¬p.Holds v p.cursor e := by
    intro v e hv
    have := (h.held v _ e hv).1
    omega
  exact {
    slots_length := h.slots_length
    shares_length := h.shares_length
    allowed := h.allowed
    logged := h.logged
    held := by
      intro v i e hv
      rcases (holds_take hw).1 hv with ⟨-, rfl, a, ha, rfl⟩ | ⟨-, hv⟩
      · have hlt := (List.getElem?_eq_some_iff.1 ha).1
        refine ⟨Nat.lt_succ_self _, h.slot_of_untaken (Nat.le_refl _) hlt, a, [], ha,
          h.untaken _ (Nat.le_refl _) hlt, ?_⟩
        exact htasks a (List.mem_of_getElem? ha) p.state h.allowed
      · obtain ⟨hi, hrest⟩ := h.held v i e hv
        exact ⟨Nat.lt_succ_of_lt hi, hrest⟩
    apart := by
      intro u v i d e hu hv
      rcases (holds_take hw).1 hu with ⟨huw, rfl, -⟩ | ⟨-, hu'⟩
      · rcases (holds_take hw).1 hv with ⟨hvw, -⟩ | ⟨-, hv'⟩
        · exact huw.trans hvw.symm
        · exact absurd hv' (fresh v e)
      · rcases (holds_take hw).1 hv with ⟨-, rfl, -⟩ | ⟨-, hv'⟩
        · exact absurd hu' (fresh u d)
        · exact h.apart u v i d e hu' hv'
    inHand := by
      intro i hi hslot
      rcases Nat.lt_succ_iff_lt_or_eq.1 hi with hi | rfl
      · obtain ⟨v, e, hv⟩ := h.inHand i hi hslot
        have hne : v ≠ w := by
          intro hvw
          subst hvw
          exact hfree i e hv
        exact ⟨v, e, (holds_take hw).2 (.inr ⟨hne, hv⟩)⟩
      · have hlt : p.cursor < items.length := by
          rw [← h.slots_length]
          exact (List.getElem?_eq_some_iff.1 hslot).1
        exact ⟨w, task items[p.cursor], (holds_take hw).2
          (.inl ⟨rfl, rfl, _, List.getElem?_eq_getElem hlt, rfl⟩)⟩
    filled := by
      intro i b hb
      obtain ⟨hi, hrest⟩ := h.filled i b hb
      exact ⟨Nat.lt_succ_of_lt hi, hrest⟩
    untaken := fun i hi => h.untaken i (Nat.le_of_succ_le hi) }

/-- A turn adds to the share of the item whose errand it is. -/
theorem Standing.advance (h : p.Standing c items goal origin shares) {w i : Nat}
    {after : σ → σ} {next : σ → Errand σ β} (hw : p.Holds w i (.turn after next)) :
    ∃ shares', (p.advance w i after next).Standing c items goal origin shares' := by
  obtain ⟨hi, hslot, a, own, ha, hown, hmeets⟩ := h.held w i _ hw
  obtain ⟨hkeep, more, hlog, hrest⟩ := hmeets p.state (c.refl p.state)
  obtain ⟨before, hbefore, hperm⟩ := h.logged
  have hlt : i < shares.length := (List.getElem?_eq_some_iff.1 hown).1
  -- Nobody else's share changes.
  have other : ∀ j, j ≠ i → (shares.set i (own ++ more))[j]? = shares[j]? :=
    fun j hj => List.getElem?_set_ne hj.symm
  refine ⟨shares.set i (own ++ more), {
    slots_length := h.slots_length
    shares_length := by rw [List.length_set]; exact h.shares_length
    allowed := c.trans h.allowed hkeep
    logged := ?_
    held := ?_
    apart := ?_
    inHand := ?_
    filled := ?_
    untaken := ?_ }⟩
  · refine ⟨before ++ more, ?_, ?_⟩
    · show c.log (after p.state) = _
      rw [hlog, hbefore, List.append_assoc]
    · exact (hperm.append_right more).trans (perm_flatten_set more hown).symm
  · intro v j e hv
    rcases (holds_advance hw.lt_length).1 hv with ⟨-, rfl, rfl⟩ | ⟨hne, hv⟩
    · have hrest' : (next p.state).Meets c (after p.state)
          fun t rest b => goal a t (own ++ more ++ rest) b := by
        simpa only [List.append_assoc] using hrest
      exact ⟨hi, hslot, a, own ++ more, ha, List.getElem?_set_self hlt, hrest'⟩
    · -- The others' errands meet their goals whatever this turn did.
      have hj : j ≠ i := fun hj => hne (h.apart v w i _ _ (hj ▸ hv) hw)
      obtain ⟨hcursor, hempty, b, own', hb, hown', hm⟩ := h.held v j e hv
      exact ⟨hcursor, hempty, b, own', hb, (other j hj).trans hown', hm.later hkeep⟩
  · intro u v j d e hu hv
    rcases (holds_advance hw.lt_length).1 hu with ⟨huw, rfl, -⟩ | ⟨-, hu'⟩
    · rcases (holds_advance hw.lt_length).1 hv with ⟨hvw, -⟩ | ⟨-, hv'⟩
      · exact huw.trans hvw.symm
      · exact huw.trans (h.apart w v _ _ _ hw hv')
    · rcases (holds_advance hw.lt_length).1 hv with ⟨hvw, rfl, -⟩ | ⟨-, hv'⟩
      · exact (h.apart u w _ _ _ hu' hw).trans hvw.symm
      · exact h.apart u v j d e hu' hv'
  · intro j hj hempty
    obtain ⟨v, e, hv⟩ := h.inHand j hj hempty
    by_cases hvw : v = w
    · subst hvw
      obtain ⟨rfl, -⟩ := hv.unique hw
      exact ⟨v, next p.state, (holds_advance hw.lt_length).2 (.inl ⟨rfl, rfl, rfl⟩)⟩
    · exact ⟨v, e, (holds_advance hw.lt_length).2 (.inr ⟨hvw, hv⟩)⟩
  · intro j b hb
    have hj : j ≠ i := by
      intro hj
      subst hj
      have hb' : p.slots[j]? = some (some b) := hb
      rw [hslot] at hb'
      cases hb'
    obtain ⟨hcursor, b', own', hb', hown', hgoal⟩ := h.filled j b hb
    exact ⟨hcursor, b', own', hb', (other j hj).trans hown',
      fun t ht => hgoal t (c.trans hkeep ht)⟩
  · intro j hj hjlt
    have hne : j ≠ i := by
      have : p.cursor ≤ j := hj
      omega
    exact (other j hne).trans (h.untaken j hj hjlt)

/-- A result in its place is what the item's goal says. -/
theorem Standing.place (h : p.Standing c items goal origin shares) {w i : Nat} {b : β}
    (hw : p.Holds w i (.done b)) : (p.place w i b).Standing c items goal origin shares := by
  obtain ⟨hi, hslot, a, own, ha, hown, hmeets⟩ := h.held w i _ hw
  have hlt : i < p.slots.length := (List.getElem?_eq_some_iff.1 hslot).1
  have hself : (p.slots.set i (some b))[i]? = some (some b) := List.getElem?_set_self hlt
  have other : ∀ j, j ≠ i → (p.slots.set i (some b))[j]? = p.slots[j]? :=
    fun j hj => List.getElem?_set_ne hj.symm
  exact {
    slots_length := by
      show (p.slots.set i (some b)).length = _
      rw [List.length_set]
      exact h.slots_length
    shares_length := h.shares_length
    allowed := h.allowed
    logged := h.logged
    held := by
      intro v j e hv
      obtain ⟨hne, hv⟩ := (holds_place hw.lt_length).1 hv
      have hj : j ≠ i := fun hj => hne (h.apart v w i _ _ (hj ▸ hv) hw)
      obtain ⟨hcursor, hempty, hrest⟩ := h.held v j e hv
      exact ⟨hcursor, (other j hj).trans hempty, hrest⟩
    apart := by
      intro u v j d e hu hv
      exact h.apart u v j d e ((holds_place hw.lt_length).1 hu).2
        ((holds_place hw.lt_length).1 hv).2
    inHand := by
      intro j hj hempty
      have hne : j ≠ i := by
        intro hji
        subst hji
        have hb : (p.slots.set j (some b))[j]? = some none := hempty
        rw [hself] at hb
        cases hb
      obtain ⟨v, e, hv⟩ := h.inHand j hj ((other j hne).symm.trans hempty)
      have hvw : v ≠ w := by
        intro hvw
        subst hvw
        exact hne (hv.unique hw).1
      exact ⟨v, e, (holds_place hw.lt_length).2 ⟨hvw, hv⟩⟩
    filled := by
      intro j b' hb'
      by_cases hj : j = i
      · subst hj
        have hb : (p.slots.set j (some b))[j]? = some (some b') := hb'
        rw [hself] at hb
        cases hb
        refine ⟨hi, a, own, ha, hown, ?_⟩
        intro t ht
        simpa only [List.append_nil] using hmeets t ht
      · exact h.filled j b' ((other j hj).symm.trans hb')
    untaken := h.untaken }

/-- **Every step keeps the invariant.** -/
theorem Standing.step (h : p.Standing c items goal origin shares)
    (htasks : TasksMeet c items goal origin task) (w : Nat) :
    ∃ shares', (p.step task items w).Standing c items goal origin shares' := by
  unfold Pool.step
  split
  · rename_i hw
    refine ⟨shares, h.take htasks (List.getElem?_eq_some_iff.1 hw).1 ?_⟩
    intro i e he
    unfold Holds at he
    rw [hw] at he
    cases he
  · rename_i hw
    exact h.advance hw
  · rename_i hw
    exact ⟨shares, h.place hw⟩
  · exact ⟨shares, h⟩
  · exact ⟨shares, h⟩

/-- **The invariant holds after every schedule.** -/
theorem standing_run (htasks : TasksMeet c items goal origin task) (schedule : List Nat) :
    ∀ (shares : List (List ρ)) (p : Pool σ β), p.Standing c items goal origin shares →
      ∃ shares', (p.run task items schedule).Standing c items goal origin shares' := by
  induction schedule with
  | nil => intro shares p h; exact ⟨shares, h⟩
  | cons w rest ih =>
      intro shares p h
      obtain ⟨shares', h'⟩ := h.step htasks w
      exact ih shares' (p.step task items w) h'

/-! ## §5. What is left over is done. -/

theorem settle_of_turn {p : Pool σ β} {w i : Nat} {after : σ → σ} {next : σ → Errand σ β}
    (hw : p.Holds w i (.turn after next)) :
    p.settle w = (p.advance w i after next).settle w := by
  have hw' : (p.advance w i after next).Holds w i (next p.state) :=
    (holds_advance hw.lt_length).2 (.inl ⟨rfl, rfl, rfl⟩)
  unfold Holds at hw hw'
  unfold settle
  rw [hw, hw']
  simp only [advance, place, List.set_set]
  rfl

theorem settle_of_done {p : Pool σ β} {w i : Nat} {b : β} (hw : p.Holds w i (.done b)) :
    p.settle w = p.place w i b := by
  unfold Holds at hw
  unfold settle
  rw [hw]
  rfl

theorem settle_of_free {p : Pool σ β} {w : Nat} (hw : p.IsFree w) : p.settle w = p := by
  unfold settle
  split
  · rename_i i e he
    exact absurd he (hw i e)
  · rfl

/-- Who settles has nothing in hand any more; nobody else is concerned. -/
theorem holds_settle {p : Pool σ β} {v w i : Nat} {e : Errand σ β} :
    (p.settle w).Holds v i e ↔ v ≠ w ∧ p.Holds v i e := by
  by_cases hfree : p.IsFree w
  · rw [settle_of_free hfree]
    refine ⟨fun hv => ⟨?_, hv⟩, fun hv => hv.2⟩
    intro hvw
    subst hvw
    exact hfree i e hv
  · simp only [IsFree, not_forall, not_not] at hfree
    obtain ⟨j, d, hd⟩ := hfree
    have heq : p.settle w = { p with state := (d.alone p.state).2 }.place w j
        (d.alone p.state).1 := by
      unfold Holds at hd
      unfold settle
      rw [hd]
    rw [heq]
    exact holds_place hd.lt_length

theorem cursor_settle (p : Pool σ β) (w : Nat) : (p.settle w).cursor = p.cursor := by
  unfold settle
  split <;> rfl

theorem workers_settle (p : Pool σ β) (w : Nat) :
    (p.settle w).workers.length = p.workers.length := by
  unfold settle
  split <;> simp [place]

theorem Standing.settle (h : p.Standing c items goal origin shares) (w : Nat) :
    ∃ shares', (p.settle w).Standing c items goal origin shares' := by
  by_cases hfree : p.IsFree w
  · rw [settle_of_free hfree]
    exact ⟨shares, h⟩
  · simp only [IsFree, not_forall, not_not] at hfree
    obtain ⟨i, e, hw⟩ := hfree
    -- Settling is taking turns until there is a result.
    induction e generalizing shares p with
    | done b => exact ⟨shares, settle_of_done hw ▸ h.place hw⟩
    | turn after next ih =>
        obtain ⟨shares', h'⟩ := h.advance hw
        rw [settle_of_turn hw]
        exact ih p.state h' ((holds_advance hw.lt_length).2 (.inl ⟨rfl, rfl, rfl⟩))

/-- When some have settled, they have nothing in hand; the others still have
what they had, and no item was taken meanwhile. -/
theorem Standing.settleEach (ws : List Nat) :
    ∀ {shares : List (List ρ)} {p : Pool σ β}, p.Standing c items goal origin shares →
      (∃ shares', (ws.foldl Pool.settle p).Standing c items goal origin shares') ∧
        (∀ w i e, (ws.foldl Pool.settle p).Holds w i e → w ∉ ws ∧ p.Holds w i e) ∧
        (ws.foldl Pool.settle p).cursor = p.cursor ∧
        (ws.foldl Pool.settle p).workers.length = p.workers.length := by
  induction ws with
  | nil =>
      intro shares p h
      exact ⟨⟨shares, h⟩, fun w i e he => ⟨by simp, he⟩, rfl, rfl⟩
  | cons v ws ih =>
      intro shares p h
      obtain ⟨shares', h'⟩ := h.settle v
      obtain ⟨hstanding, hheld, hcursor, hworkers⟩ := ih h'
      refine ⟨hstanding, ?_, hcursor.trans (cursor_settle p v),
        hworkers.trans (workers_settle p v)⟩
      intro w i e he
      obtain ⟨hmem, hw⟩ := hheld w i e he
      obtain ⟨hne, hw⟩ := holds_settle.1 hw
      exact ⟨by simp [hne, hmem], hw⟩

/-- When all have settled, nobody has anything in hand and no item was taken
meanwhile. -/
theorem Standing.settleAll (h : p.Standing c items goal origin shares) :
    (∃ shares', p.settleAll.Standing c items goal origin shares') ∧
      (∀ w, p.settleAll.IsFree w) ∧ p.settleAll.cursor = p.cursor ∧
      p.settleAll.workers.length = p.workers.length := by
  obtain ⟨hstanding, hheld, hcursor, hworkers⟩ := h.settleEach (List.range p.workers.length)
  refine ⟨hstanding, ?_, hcursor, hworkers⟩
  intro w i e he
  obtain ⟨hmem, hw⟩ := hheld w i e he
  exact hmem (List.mem_range.2 hw.lt_length)

/-- To take an item and settle leaves nobody with anything in hand. -/
theorem isFree_takeAndSettle (hw : 0 < p.workers.length) (hfree : ∀ w, p.IsFree w) :
    ∀ w, (p.takeAndSettle task items).IsFree w := by
  intro w i e he
  obtain ⟨hne, he⟩ := holds_settle.1 he
  rcases (holds_take hw).1 he with ⟨hw0, -⟩ | ⟨-, he⟩
  · exact hne hw0
  · exact hfree w i e he

/-- The items that are left are taken and settled one after another. -/
theorem Standing.takeEach (htasks : TasksMeet c items goal origin task) (rest : List α) :
    ∀ {shares : List (List ρ)} {p : Pool σ β}, p.Standing c items goal origin shares →
      0 < p.workers.length → (∀ w, p.IsFree w) →
      (∃ shares', (rest.foldl (fun p _ => p.takeAndSettle task items) p).Standing
          c items goal origin shares') ∧
        (∀ w, (rest.foldl (fun p _ => p.takeAndSettle task items) p).IsFree w) ∧
        (rest.foldl (fun p _ => p.takeAndSettle task items) p).cursor
          = p.cursor + rest.length := by
  induction rest with
  | nil =>
      intro shares p h _ hfree
      exact ⟨⟨shares, h⟩, hfree, rfl⟩
  | cons a rest ih =>
      intro shares p h hw hfree
      have hsettled : ∃ shares', (p.takeAndSettle task items).Standing c items goal origin shares' :=
        (h.take htasks hw (hfree 0)).settle 0
      obtain ⟨shares', h'⟩ := hsettled
      have hworkers : 0 < (p.takeAndSettle task items).workers.length := by
        unfold takeAndSettle
        rw [workers_settle]
        simpa [Pool.take] using hw
      have hcursor : (p.takeAndSettle task items).cursor = p.cursor + 1 := cursor_settle _ 0
      obtain ⟨hstanding, hfrees, hc⟩ := ih h' hworkers (isFree_takeAndSettle hw hfree)
      refine ⟨hstanding, hfrees, ?_⟩
      rw [List.foldl_cons, hc, hcursor, List.length_cons]
      omega

/-- **After the rest was done**, nobody has anything in hand and every item
was taken. -/
theorem Standing.finish (h : p.Standing c items goal origin shares)
    (htasks : TasksMeet c items goal origin task) (hw : 0 < p.workers.length) :
    (∃ shares', (p.finish task items).Standing c items goal origin shares') ∧
      (∀ w, (p.finish task items).IsFree w) ∧
      items.length ≤ (p.finish task items).cursor := by
  obtain ⟨⟨shares', h'⟩, hfree, hcursor, hworkers⟩ := h.settleAll
  obtain ⟨hstanding, hfrees, hc⟩ :=
    h'.takeEach htasks (items.drop p.cursor) (hworkers ▸ hw) hfree
  refine ⟨hstanding, hfrees, ?_⟩
  unfold Pool.finish
  rw [hc, hcursor, List.length_drop]
  omega

/-! ## §6. Results. -/

/-- Once every item was taken and nobody has anything in hand, every place
has its result. -/
theorem Standing.results (h : p.Standing c items goal origin shares)
    (hfree : ∀ w, p.IsFree w) (hcursor : items.length ≤ p.cursor) :
    p.slots = p.results.map some := by
  have full : ∀ slot ∈ p.slots, ∃ b, slot = some b := by
    intro slot hslot
    obtain ⟨i, hi, rfl⟩ := List.mem_iff_getElem.1 hslot
    cases hb : p.slots[i] with
    | some b => exact ⟨b, rfl⟩
    | none =>
        have hlt : i < p.cursor := by
          rw [h.slots_length] at hi
          omega
        have hempty : p.slots[i]? = some none := by rw [List.getElem?_eq_getElem hi, hb]
        obtain ⟨w, e, hw⟩ := h.inHand i hlt hempty
        exact absurd hw (hfree w i e)
  unfold Pool.results
  generalize p.slots = slots at full
  induction slots with
  | nil => rfl
  | cons slot rest ih =>
      obtain ⟨b, rfl⟩ := full slot (by simp)
      have htail := ih fun slot hslot => full slot (List.mem_cons_of_mem _ hslot)
      show some b :: rest = some b :: (rest.filterMap id).map some
      rw [← htail]

theorem Standing.results_length (h : p.Standing c items goal origin shares)
    (hfree : ∀ w, p.IsFree w) (hcursor : items.length ≤ p.cursor) :
    p.results.length = items.length := by
  rw [← h.slots_length, h.results hfree hcursor, List.length_map]

/-- The results meet the goals of their items, each with its share. -/
theorem Standing.forall₂ (h : p.Standing c items goal origin shares)
    (hfree : ∀ w, p.IsFree w) (hcursor : items.length ≤ p.cursor) :
    List.Forall₂ (fun a part => goal a p.state part.1 part.2) items (shares.zip p.results) := by
  have hslots := h.results hfree hcursor
  have hlen := h.results_length hfree hcursor
  rw [List.forall₂_iff_get]
  refine ⟨by rw [List.length_zip, h.shares_length, hlen, Nat.min_self], ?_⟩
  intro i hi hi'
  have hib : i < p.results.length := hlen ▸ hi
  have hslot : p.slots[i]? = some (some p.results[i]) := by
    rw [hslots, List.getElem?_map, List.getElem?_eq_getElem hib]
    rfl
  obtain ⟨-, a, own, ha, hown, hgoal⟩ := h.filled i _ hslot
  rw [List.getElem?_eq_getElem hi, Option.some.injEq] at ha
  obtain ⟨his, hown⟩ := List.getElem?_eq_some_iff.1 hown
  simp only [List.get_eq_getElem, List.getElem_zip, ha, hown]
  exact hgoal p.state (c.refl _)

end Pool

/-! ## §7. Errands for all items. -/

/-- What comes of errands for all items: a result for each, in order, that
meets the goal of the item, and a log grown by the errands' shares. -/
def Fulfils {σ ρ α β : Type} (c : Conduct σ ρ) (items : List α)
    (goal : α → σ → List ρ → β → Prop) (s : σ) (results : List β) (t : σ) : Prop :=
  c.allows s t ∧ ∃ parts : List (List ρ × β), results = parts.map Prod.snd ∧
    List.Forall₂ (fun a part => goal a t part.1 part.2) items parts ∧
    ∃ more, c.log t = c.log s ++ more ∧ more.Perm (parts.flatMap Prod.fst)

variable {σ ρ α β : Type} {c : Conduct σ ρ} {goal : α → σ → List ρ → β → Prop}
  {task : α → Errand σ β}

/-- What stands on the right belongs to something on the left. -/
theorem exists_left_of_mem {R : α → β → Prop} {as : List α} {bs : List β} {b : β}
    (h : List.Forall₂ R as bs) (hb : b ∈ bs) : ∃ a ∈ as, R a b := by
  induction h with
  | nil => cases hb
  | @cons a b' as bs hR _ ih =>
      rcases List.mem_cons.1 hb with rfl | hb
      · exact ⟨a, List.mem_cons_self, hR⟩
      · obtain ⟨a', ha', hR'⟩ := ih hb
        exact ⟨a', List.mem_cons_of_mem _ ha', hR'⟩

/-- Actions one after another: the first one, and then the others from where
it left off. -/
theorem mapM_cons_run (action : α → StateM σ β) (a : α) (items : List α) (s : σ) :
    ((a :: items).mapM action) s
      = ((action a s).1 :: ((items.mapM action) (action a s).2).1,
          ((items.mapM action) (action a s).2).2) := by
  rw [List.mapM_cons]
  rfl

/-- Errands that are run one after another. -/
theorem mapM_alone_fulfils (items : List α) :
    ∀ s : σ, Pool.TasksMeet c items goal s task →
      Fulfils c items goal s ((items.mapM fun a => (task a).alone) s).1
        ((items.mapM fun a => (task a).alone) s).2 := by
  induction items with
  | nil =>
      intro s _
      exact ⟨c.refl s, [], rfl, .nil, [], (List.append_nil _).symm, .nil⟩
  | cons a items ih =>
      intro s htasks
      rw [mapM_cons_run]
      obtain ⟨hallows, own, hlog, hgoal⟩ := (htasks a (by simp) s (c.refl s)).alone
      have htasks' : Pool.TasksMeet c items goal ((task a).alone s).2 task :=
        fun b hb t ht => htasks b (List.mem_cons_of_mem _ hb) t (c.trans hallows ht)
      obtain ⟨hallows', parts, hresults, hparts, more, hmore, hperm⟩ :=
        ih ((task a).alone s).2 htasks'
      refine ⟨c.trans hallows hallows', (own, ((task a).alone s).1) :: parts, ?_, ?_,
        own ++ more, ?_, ?_⟩
      · rw [List.map_cons, hresults]
      · exact .cons (hgoal _ hallows') hparts
      · rw [hmore, hlog, List.append_assoc]
      · rw [List.flatMap_cons]
        exact hperm.append_left own

/-- **Whatever the schedule, the results are in order and meet the goals of
their items.** -/
theorem perform_fulfils (limit : Nat) (schedule : List Nat) {items : List α} {s : σ}
    (htasks : Pool.TasksMeet c items goal s task) :
    Fulfils c items goal s (perform limit schedule task items s).1
      (perform limit schedule task items s).2 := by
  unfold perform
  by_cases hfew : Pool.workersFor limit items.length ≤ 1
  · simp only [hfew, if_true]
    exact mapM_alone_fulfils items s htasks
  · simp only [hfew, if_false]
    obtain ⟨shares, h⟩ := Pool.standing_run htasks schedule _ _
      (Pool.standing_start items (Pool.workersFor limit items.length) s)
    have hw : 0 < ((Pool.start items (Pool.workersFor limit items.length) s).run task items
        schedule).workers.length := by
      rw [Pool.workers_run]
      simp only [Pool.start, List.length_replicate]
      omega
    obtain ⟨⟨shares', h'⟩, hfree, hcursor⟩ := h.finish htasks hw
    obtain ⟨more, hmore, hperm⟩ := h'.logged
    have hlen := h'.shares_length.trans (h'.results_length hfree hcursor).symm
    refine ⟨h'.allowed, shares'.zip _, ?_, h'.forall₂ hfree hcursor, more, hmore, ?_⟩
    · rw [List.map_snd_zip (Nat.le_of_eq hlen.symm)]
    · rw [List.flatMap_def, List.map_fst_zip (Nat.le_of_eq hlen)]
      exact hperm

end Federation
