/-
  Federation.Proofs.Workers.Dealing
  ─────────────────────────────────
  **HOW THE ITEMS ARE DEALT OUT.**

  A step of a worker is one of four: to take the next item, to leave because
  there is none, to take a turn, or to put a result in its place
  (`Stepped`).  One that has left takes no more.

  No item is passed over or taken twice.  What was performed and what is in
  hand are, put together, the items before the cursor, each of them once
  (`Dealt`): to take an item adds the next one to what is in hand, and to put
  its result in its place moves it over to what was performed.  Nobody leaves
  while there are items to be taken.  So when all have left, nothing is in
  hand any more and every item's errand was run, and run once.

  Main results:
    * `stepped_step` — what a step can do;
    * `dealt_run` — how the items are dealt out after every schedule;
    * `Dealt.performed_perm` — every errand was run exactly once.
-/
import Federation.Proofs.Workers
import Mathlib.Algebra.BigOperators.Group.List.Basic
import Mathlib.Algebra.Order.Group.Multiset
import Mathlib.Data.Multiset.Range

namespace Federation

/-- One entry of a list is exchanged for another, and so is its share of a
sum. -/
theorem sum_map_set {γ M : Type} [AddCommMonoid M] (g : γ → M) {l : List γ} {w : Nat} {x : γ}
    (h : l[w]? = some x) (y : γ) :
    ((l.set w y).map g).sum + g x = (l.map g).sum + g y := by
  induction l generalizing w with
  | nil => simp at h
  | cons z l ih =>
      cases w with
      | zero =>
          simp only [List.getElem?_cons_zero, Option.some.injEq] at h
          subst h
          simp only [List.set_cons_zero, List.map_cons, List.sum_cons]
          rw [add_comm (g y), add_right_comm, add_comm (l.map g).sum]
      | succ w =>
          simp only [List.getElem?_cons_succ] at h
          simp only [List.set_cons_succ, List.map_cons, List.sum_cons]
          rw [add_assoc, ih h, add_assoc]

namespace Pool

variable {σ α β : Type}

/-! ## §1. What a step can do. -/

/-- Whether a worker has not left yet. -/
def AtWork (p : Pool σ β) (w : Nat) : Prop := ∃ x, p.workers[w]? = some x ∧ x.isDone = false

/-- **What one step of one worker makes of a pool.** -/
inductive Stepped (task : α → Errand σ β) (items : List α) (p : Pool σ β) (w : Nat) :
    Pool σ β → Prop
  | takes {a : α} (idle : p.workers[w]? = some .idle) (next : items[p.cursor]? = some a) :
      Stepped task items p w
        { p with
          cursor := p.cursor + 1
          workers := p.workers.set w (.busy p.cursor (task a)) }
  | leaves (idle : p.workers[w]? = some .idle) (none : items[p.cursor]? = none) :
      Stepped task items p w
        { p with cursor := p.cursor + 1, workers := p.workers.set w .done }
  | advances {i : Nat} {after : σ → σ} {next : σ → Errand σ β}
      (hand : p.Holds w i (.turn after next)) :
      Stepped task items p w (p.advance w i after next)
  | places {i : Nat} {b : β} (hand : p.Holds w i (.done b)) :
      Stepped task items p w (p.place w i b)
  | rests (left : ¬p.AtWork w) : Stepped task items p w p

variable {task : α → Errand σ β} {items : List α} {p q : Pool σ β} {w : Nat}

/-- **A step is one of these.** -/
theorem stepped_step (task : α → Errand σ β) (items : List α) (p : Pool σ β) (w : Nat) :
    p.Stepped task items w (p.step task items w) := by
  unfold step
  split
  · rename_i hw
    unfold take
    cases hnext : items[p.cursor]? with
    | some a => exact .takes hw hnext
    | none => exact .leaves hw hnext
  · rename_i hw
    exact .advances hw
  · rename_i hw
    exact .places hw
  · rename_i hw
    refine .rests fun ⟨x, hx, hwork⟩ => ?_
    rw [hw] at hx
    cases hx
    cases hwork
  · rename_i hw
    refine .rests fun ⟨x, hx, _⟩ => ?_
    rw [hw] at hx
    cases hx

theorem step_of_idle (idle : p.workers[w]? = some .idle) :
    p.step task items w = p.take task items w := by
  unfold step
  rw [idle]

theorem step_of_turn {i : Nat} {after : σ → σ} {next : σ → Errand σ β}
    (hand : p.Holds w i (.turn after next)) :
    p.step task items w = p.advance w i after next := by
  unfold Holds at hand
  unfold step
  rw [hand]

theorem step_of_done {i : Nat} {b : β} (hand : p.Holds w i (.done b)) :
    p.step task items w = p.place w i b := by
  unfold Holds at hand
  unfold step
  rw [hand]

/-- What holds at the start and is kept by every step holds after every
schedule. -/
theorem run_induction {P : Pool σ β → Prop}
    (kept : ∀ p q w, P p → p.Stepped task items w q → P q) (schedule : List Nat) :
    ∀ p : Pool σ β, P p → P (p.run task items schedule) := by
  induction schedule with
  | nil => exact fun _ h => h
  | cons w rest ih => exact fun p h => ih _ (kept p _ w h (stepped_step task items p w))

end Pool

/-! ## §2. The account of the items. -/

/-- The index of the item that a worker has in hand, if there is one. -/
def Worker.load {σ β : Type} : Worker σ β → Multiset Nat
  | .busy i _ => {i}
  | _ => 0

namespace Pool

variable {σ α β : Type} {task : α → Errand σ β} {items : List α} {p q : Pool σ β} {w : Nat}

/-- The indices of the items that are in somebody's hand. -/
def inHand (p : Pool σ β) : Multiset Nat := (p.workers.map Worker.load).sum

/-- **How the items are dealt out.** -/
structure Dealt (items : List α) (p : Pool σ β) : Prop where
  /-- What was performed and what is in hand are the items before the
  cursor. -/
  account : (p.performed : Multiset Nat) + p.inHand
    = Multiset.range (min p.cursor items.length)
  /-- Who has left found nothing to take. -/
  exhausted : ∀ w : Nat, p.workers[w]? = some .done → items.length ≤ p.cursor

theorem dealt_start (items : List α) (workers : Nat) (s : σ) :
    (start items workers s : Pool σ β).Dealt items where
  account := by
    have nothing : (start items workers s : Pool σ β).inHand = 0 := by
      unfold inHand start
      rw [List.map_replicate, List.sum_replicate]
      exact nsmul_zero workers
    rw [nothing]
    rfl
  exhausted w h := by
    simp only [start, List.getElem?_replicate] at h
    split at h <;> cases h

/-- Where a worker goes on with something else, who has left had left
before. -/
theorem getElem?_eq_done_of_set {workers : List (Worker σ β)} {v w : Nat} {x : Worker σ β}
    (h : (workers.set w x)[v]? = some .done) (hx : x.isDone = false) :
    workers[v]? = some .done := by
  rw [List.getElem?_set] at h
  split at h
  · split at h
    · cases Option.some.inj h
      cases hx
    · cases h
  · exact h

/-- **Every step deals the items out as before.** -/
theorem Dealt.stepped (h : p.Dealt items) (hs : p.Stepped task items w q) : q.Dealt items := by
  cases hs with
  | @takes a idle next =>
      have hlt : p.cursor < items.length := (List.getElem?_eq_some_iff.1 next).1
      have hhand : ((p.workers.set w (.busy p.cursor (task a))).map Worker.load).sum + 0
          = p.inHand + {p.cursor} := sum_map_set Worker.load idle _
      -- The cursor is the next index, and it is in hand from now on.
      have hbefore : (p.performed : Multiset Nat) + p.inHand = Multiset.range p.cursor := by
        rw [h.account, Nat.min_eq_left hlt.le]
      refine ⟨?_, fun v hv => ?_⟩
      · calc (p.performed : Multiset Nat)
              + ((p.workers.set w (.busy p.cursor (task a))).map Worker.load).sum
            = p.performed + p.inHand + {p.cursor} := by
              rw [← add_zero (List.sum _), hhand, add_assoc]
          _ = Multiset.range (p.cursor + 1) := by
              rw [hbefore, Multiset.range_succ, add_comm, Multiset.singleton_add]
          _ = Multiset.range (min (p.cursor + 1) items.length) := by
              rw [Nat.min_eq_left hlt]
      · have hle : items.length ≤ p.cursor := h.exhausted v (getElem?_eq_done_of_set hv rfl)
        exact Nat.le_succ_of_le hle
  | leaves idle none =>
      have hle : items.length ≤ p.cursor := List.getElem?_eq_none_iff.1 none
      have hhand : ((p.workers.set w .done).map Worker.load).sum + 0 = p.inHand + 0 :=
        sum_map_set Worker.load idle .done
      refine ⟨?_, fun _ _ => Nat.le_succ_of_le hle⟩
      -- The cursor moves on, but it was past the last item before.
      calc (p.performed : Multiset Nat) + ((p.workers.set w .done).map Worker.load).sum
          = Multiset.range (min p.cursor items.length) := by
            rw [add_right_cancel hhand, h.account]
        _ = Multiset.range (min (p.cursor + 1) items.length) := by
            rw [Nat.min_eq_right hle, Nat.min_eq_right (Nat.le_succ_of_le hle)]
  | @advances i after next hand =>
      have hhand : (p.advance w i after next).inHand + {i} = p.inHand + {i} :=
        sum_map_set Worker.load hand (.busy i (next p.state))
      refine ⟨?_, fun v hv => h.exhausted v (getElem?_eq_done_of_set hv rfl)⟩
      rw [add_right_cancel hhand]
      exact h.account
  | @places i b hand =>
      have hhand : (p.place w i b).inHand + {i} = p.inHand + 0 :=
        sum_map_set Worker.load hand .idle
      refine ⟨?_, fun v hv => h.exhausted v (getElem?_eq_done_of_set hv rfl)⟩
      -- The index goes over from what is in hand to what was performed.
      calc ((p.performed ++ [i] : List Nat) : Multiset Nat) + (p.place w i b).inHand
          = p.performed + ((p.place w i b).inHand + {i}) := by
            rw [← Multiset.coe_add, add_assoc, Multiset.coe_singleton,
              add_comm ({i} : Multiset Nat)]
        _ = p.performed + p.inHand := by rw [hhand, add_zero]
        _ = Multiset.range (min p.cursor items.length) := h.account
  | rests left => exact h

/-- **How the items are dealt out after every schedule.** -/
theorem dealt_run (h : p.Dealt items) (schedule : List Nat) :
    (p.run task items schedule).Dealt items :=
  run_induction (fun _ _ _ h hs => h.stepped hs) schedule p h

/-! ## §3. When all have left. -/

theorem done_of_isFinished (h : p.isFinished = true) {x : Worker σ β}
    (hx : p.workers[w]? = some x) : x = .done := by
  have hdone : x.isDone = true := List.all_eq_true.1 h x (List.mem_of_getElem? hx)
  cases x with
  | done => rfl
  | idle => cases hdone
  | busy i e => cases hdone

/-- When all have left, nobody has anything in hand. -/
theorem isFree_of_isFinished (h : p.isFinished = true) (w : Nat) : p.IsFree w := by
  intro i e he
  cases done_of_isFinished h he

theorem inHand_of_isFinished (h : p.isFinished = true) : p.inHand = 0 := by
  have hzero : ∀ load ∈ p.workers.map Worker.load, load = 0 := by
    intro load hload
    obtain ⟨x, hx, rfl⟩ := List.mem_map.1 hload
    obtain ⟨w, hw⟩ := List.getElem?_of_mem hx
    rw [done_of_isFinished h hw]
    rfl
  exact List.sum_eq_zero hzero

/-- When all have left, there is nothing to be taken. -/
theorem Dealt.length_le_cursor (h : p.Dealt items) (hw : 0 < p.workers.length)
    (finished : p.isFinished = true) : items.length ≤ p.cursor := by
  refine h.exhausted 0 ?_
  rw [List.getElem?_eq_getElem hw]
  exact congrArg some (done_of_isFinished finished (List.getElem?_eq_getElem hw))

/-- **When all have left, every item's errand was run exactly once.** -/
theorem Dealt.performed_perm (h : p.Dealt items) (hw : 0 < p.workers.length)
    (finished : p.isFinished = true) : p.performed.Perm (List.range items.length) := by
  have haccount := h.account
  rw [inHand_of_isFinished finished, add_zero,
    Nat.min_eq_right (h.length_le_cursor hw finished)] at haccount
  exact Multiset.coe_eq_coe.1 haccount

end Pool

end Federation
