/-
  Federation.Proofs.Workers.Ending
  ────────────────────────────────
  **WHY WORKERS COME TO AN END.**

  An errand ends, but how many turns it has may depend on what it sees, so no
  number says beforehand how many steps a pool has left.  What it has left is
  a bag of chores instead: the items that nobody has taken, the errands in
  hand, and the workers that have not left (`Chore`).  A step of a worker who
  is at work replaces one chore by such as follow from it, an item by its
  errand and an errand by what is left of it after a turn, or does away with
  it.  Since chores do not follow from one another for ever, the bag
  shrinks to nothing.

  So whatever the order of the steps, a pool comes to its end as long as
  somebody who is at work takes a turn sooner or later (`Fair`).

  Main results:
    * `chores_stepped` — each step at work leaves less to be done;
    * `exists_isFinished` — from everywhere the end can be reached;
    * `Fair.finishes` — under a fair order of turns it is reached.
-/
import Federation.Proofs.Workers.Dealing
import Mathlib.Logic.Hydra
import Mathlib.Tactic.Abel

namespace Federation

open Relation (CutExpand)

/-! ## §1. Chores. -/

/-- Something that is left to be done. -/
inductive Chore (σ β : Type) where
  /-- Take an item and run its errand. -/
  | item
  /-- Run an errand to its end. -/
  | errand (e : Errand σ β)
  /-- Let a worker go. -/
  | worker

/-- **What one step makes of a chore.** -/
inductive Chore.Follows {σ β : Type} : Chore σ β → Chore σ β → Prop
  | taken (e : Errand σ β) : Follows (.errand e) .item
  | turned (after : σ → σ) (next : σ → Errand σ β) (s : σ) :
      Follows (.errand (next s)) (.errand (.turn after next))

/-- Errands end, whatever they see. -/
theorem Chore.acc_errand {σ β : Type} (e : Errand σ β) : Acc Chore.Follows (.errand e) := by
  induction e with
  | done b => exact .intro _ fun x hx => nomatch hx
  | turn after next ih =>
      refine .intro _ fun x hx => ?_
      cases hx with
      | turned _ _ s => exact ih s

/-- **Chores do not follow from one another for ever.** -/
theorem Chore.wellFounded_follows (σ β : Type) :
    WellFounded (Chore.Follows : Chore σ β → Chore σ β → Prop) := by
  refine ⟨fun x => ?_⟩
  cases x with
  | item =>
      refine .intro _ fun y hy => ?_
      cases hy with
      | taken e => exact Chore.acc_errand e
  | errand e => exact Chore.acc_errand e
  | worker => exact .intro _ fun y hy => nomatch hy

/-- What a worker has left to do, and that it is to leave then. -/
def Worker.chores {σ β : Type} : Worker σ β → Multiset (Chore σ β)
  | .idle => {.worker}
  | .busy _ e => {.errand e} + {.worker}
  | .done => 0

namespace Pool

variable {σ α β : Type} {task : α → Errand σ β} {items : List α} {p q : Pool σ β} {w : Nat}

/-- What the workers have left to do. -/
def duties (p : Pool σ β) : Multiset (Chore σ β) := (p.workers.map Worker.chores).sum

/-- **What a pool has left to do.** -/
def chores (items : List α) (p : Pool σ β) : Multiset (Chore σ β) :=
  Multiset.replicate (items.length - p.cursor) .item + p.duties

/-! ## §2. Each step at work leaves less to be done. -/

/-- **Each step at work leaves less to be done.** -/
theorem chores_stepped (hs : p.Stepped task items w q) (hw : p.AtWork w) :
    CutExpand Chore.Follows (q.chores items) (p.chores items) := by
  unfold chores
  cases hs with
  | @takes a idle next =>
      have hlt : p.cursor < items.length := (List.getElem?_eq_some_iff.1 next).1
      have hduties : ((p.workers.set w (.busy p.cursor (task a))).map Worker.chores).sum
          = p.duties + {.errand (task a)} := by
        refine add_right_cancel (b := {Chore.worker}) ?_
        rw [add_assoc]
        exact sum_map_set Worker.chores idle _
      -- One item fewer is left, and its errand is in hand instead.
      have hitems : items.length - p.cursor = items.length - (p.cursor + 1) + 1 := by omega
      refine ⟨{.errand (task a)}, .item, ?_, ?_⟩
      · intro x hx
        rw [Multiset.mem_singleton.1 hx]
        exact .taken _
      · show Multiset.replicate (items.length - (p.cursor + 1)) Chore.item
            + ((p.workers.set w (.busy p.cursor (task a))).map Worker.chores).sum + {.item} = _
        rw [hduties, hitems, Multiset.replicate_succ, ← Multiset.singleton_add]
        abel
  | leaves idle none =>
      have hle : items.length ≤ p.cursor := List.getElem?_eq_none_iff.1 none
      have hduties : ((p.workers.set w .done).map Worker.chores).sum + {.worker} = p.duties + 0 :=
        sum_map_set Worker.chores idle .done
      -- The cursor runs past the last item, where none is left anyway.
      have hitems : items.length - (p.cursor + 1) = items.length - p.cursor := by omega
      refine ⟨0, .worker, fun x hx => absurd hx (Multiset.notMem_zero x), ?_⟩
      show Multiset.replicate (items.length - (p.cursor + 1)) Chore.item
          + ((p.workers.set w .done).map Worker.chores).sum + {.worker} = _
      rw [add_assoc, hduties, hitems, ← add_assoc]
  | @advances i after next hand =>
      have hduties : (p.advance w i after next).duties + {.errand (.turn after next)}
          = p.duties + {.errand (next p.state)} := by
        refine add_right_cancel (b := {Chore.worker}) ?_
        rw [add_assoc, add_assoc]
        exact sum_map_set Worker.chores hand (.busy i (next p.state))
      refine ⟨{.errand (next p.state)}, .errand (.turn after next), ?_, ?_⟩
      · intro x hx
        rw [Multiset.mem_singleton.1 hx]
        exact .turned after next p.state
      · rw [add_assoc, hduties, ← add_assoc]
        rfl
  | @places i b hand =>
      have hduties : (p.place w i b).duties + {.errand (.done b)} = p.duties + 0 := by
        refine add_right_cancel (b := {Chore.worker}) ?_
        rw [add_assoc, add_right_comm, add_zero]
        exact sum_map_set Worker.chores hand .idle
      refine ⟨0, .errand (.done b), fun x hx => absurd hx (Multiset.notMem_zero x), ?_⟩
      rw [add_assoc, hduties, ← add_assoc]
      rfl
  | rests left => exact absurd hw left

/-- Where not all have left, somebody is at work. -/
theorem exists_atWork (h : p.isFinished = false) : ∃ w, p.AtWork w := by
  obtain ⟨x, hx, hwork⟩ := List.all_eq_false.1 h
  obtain ⟨w, hw⟩ := List.getElem?_of_mem hx
  exact ⟨w, x, hw, Bool.eq_false_iff.2 hwork⟩

/-- Who has left changes nothing. -/
theorem step_of_left (h : ¬p.AtWork w) : p.step task items w = p := by
  have hs := stepped_step task items p w
  generalize p.step task items w = q at hs
  cases hs with
  | takes idle => exact absurd ⟨_, idle, rfl⟩ h
  | leaves idle => exact absurd ⟨_, idle, rfl⟩ h
  | advances hand => exact absurd ⟨_, hand, rfl⟩ h
  | places hand => exact absurd ⟨_, hand, rfl⟩ h
  | rests => rfl

/-- What is left to be done does not grow less for ever. -/
theorem wellFounded_chores (σ β : Type) :
    WellFounded fun c d : Multiset (Chore σ β) => CutExpand Chore.Follows c d :=
  (Chore.wellFounded_follows σ β).cutExpand

/-- **From everywhere the end can be reached.** -/
theorem exists_isFinished (task : α → Errand σ β) (items : List α) (p : Pool σ β) :
    ∃ more, (p.run task items more).isFinished = true := by
  -- The induction is on what is left to be done.
  induction p using (InvImage.wf (chores items) (wellFounded_chores σ β)).induction with
  | h p ih =>
      cases hfinished : p.isFinished with
      | true => exact ⟨[], hfinished⟩
      | false =>
          obtain ⟨w, hw⟩ := exists_atWork hfinished
          obtain ⟨more, hmore⟩ :=
            ih (p.step task items w) (chores_stepped (stepped_step task items p w) hw)
          exact ⟨w :: more, hmore⟩

/-! ## §3. Turns that are taken for ever. -/

/-- The pool after so many turns of an endless order of turns. -/
def runFor (task : α → Errand σ β) (items : List α) (turns : Nat → Nat) (p : Pool σ β)
    (n : Nat) : Pool σ β :=
  p.run task items ((List.range n).map turns)

variable {turns : Nat → Nat}

@[simp] theorem runFor_succ (task : α → Errand σ β) (items : List α) (turns : Nat → Nat)
    (p : Pool σ β) (n : Nat) :
    p.runFor task items turns (n + 1)
      = (p.runFor task items turns n).step task items (turns n) := by
  unfold runFor run
  rw [List.range_succ, List.map_append, List.foldl_append]
  rfl

/-- **A fair order of turns**: as long as not all have left, somebody who is at
work takes a turn sooner or later. -/
def Fair (task : α → Errand σ β) (items : List α) (turns : Nat → Nat) (p : Pool σ β) : Prop :=
  ∀ n, (p.runFor task items turns n).isFinished = false →
    ∃ m, n ≤ m ∧ (p.runFor task items turns m).AtWork (turns m)

/-- Before the next turn of somebody who is at work nothing happens. -/
theorem exists_next_turn (distance : Nat) :
    ∀ n, (p.runFor task items turns (n + distance)).AtWork (turns (n + distance)) →
      ∃ m, p.runFor task items turns m = p.runFor task items turns n ∧
        (p.runFor task items turns m).AtWork (turns m) := by
  induction distance with
  | zero => exact fun n h => ⟨n, rfl, h⟩
  | succ distance ih =>
      intro n h
      by_cases hn : (p.runFor task items turns n).AtWork (turns n)
      · exact ⟨n, rfl, hn⟩
      · have hsame : p.runFor task items turns (n + 1) = p.runFor task items turns n := by
          rw [runFor_succ, step_of_left hn]
        obtain ⟨m, hm, hwork⟩ := ih (n + 1) (by rwa [Nat.add_assoc, Nat.add_comm 1])
        exact ⟨m, hm.trans hsame, hwork⟩

/-- **Under a fair order of turns the end is reached.** -/
theorem Fair.finishes (fair : p.Fair task items turns) :
    ∃ n, (p.runFor task items turns n).isFinished = true := by
  have ends : ∀ (c : Multiset (Chore σ β)) (n : Nat),
      (p.runFor task items turns n).chores items = c →
      ∃ k, (p.runFor task items turns k).isFinished = true := by
    intro c
    -- From any moment on, by what is left to be done then.
    induction c using (wellFounded_chores σ β).induction with
    | h c ih =>
        rintro n rfl
        cases hfinished : (p.runFor task items turns n).isFinished with
        | true => exact ⟨n, hfinished⟩
        | false =>
            obtain ⟨later, hle, hlater⟩ := fair n hfinished
            obtain ⟨m, hm, hwork⟩ :=
              exists_next_turn (later - n) n (by rwa [Nat.add_sub_cancel' hle])
            -- The pool is as it was until then, and that turn leaves less.
            refine ih _ ?_ (m + 1) rfl
            rw [← hm, runFor_succ]
            exact chores_stepped (stepped_step task items _ _) hwork
  exact ends _ 0 rfl

/-- Nobody's step changes where the others are. -/
theorem getElem?_workers_stepped {v : Nat} (hs : p.Stepped task items w q) (hv : v ≠ w) :
    q.workers[v]? = p.workers[v]? := by
  cases hs with
  | takes => exact List.getElem?_set_ne hv.symm
  | leaves => exact List.getElem?_set_ne hv.symm
  | advances => exact List.getElem?_set_ne hv.symm
  | places => exact List.getElem?_set_ne hv.symm
  | rests => rfl

/-- Whose turn comes is still at work by then, or somebody was before. -/
theorem exists_turn_of_atWork (distance : Nat) :
    ∀ n, (p.runFor task items turns n).AtWork (turns (n + distance)) →
      ∃ m, n ≤ m ∧ (p.runFor task items turns m).AtWork (turns m) := by
  induction distance with
  | zero => exact fun n h => ⟨n, Nat.le_refl n, h⟩
  | succ distance ih =>
      intro n h
      by_cases hn : turns (n + (distance + 1)) = turns n
      · exact ⟨n, Nat.le_refl n, hn ▸ h⟩
      · -- Another one's turn is first, which leaves this one where it is.
        have hstays : (p.runFor task items turns (n + 1)).AtWork (turns (n + 1 + distance)) := by
          obtain ⟨x, hx, hwork⟩ := h
          refine ⟨x, ?_, hwork⟩
          rw [runFor_succ, Nat.add_assoc, Nat.add_comm 1]
          exact (getElem?_workers_stepped (stepped_step task items _ _) hn).trans hx
        obtain ⟨m, hle, hm⟩ := ih (n + 1) hstays
        exact ⟨m, Nat.le_of_succ_le hle, hm⟩

/-- **Where every worker's turn comes again and again, the order is fair.** -/
theorem fair_of_recurring
    (recurring : ∀ w < p.workers.length, ∀ n, ∃ m, n ≤ m ∧ turns m = w) :
    p.Fair task items turns := by
  intro n hfinished
  obtain ⟨w, hwork⟩ := exists_atWork hfinished
  obtain ⟨x, hx, _⟩ := id hwork
  have hlt : w < p.workers.length := by
    have hn := (List.getElem?_eq_some_iff.1 hx).1
    rwa [runFor, workers_run] at hn
  obtain ⟨m, hle, rfl⟩ := recurring w hlt n
  refine exists_turn_of_atWork (m - n) n ?_
  rwa [Nat.add_sub_cancel' hle]

end Pool

end Federation
