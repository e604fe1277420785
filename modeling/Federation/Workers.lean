/-
  Federation.Workers
  ──────────────────
  **SEVERAL WORKERS ON ONE LIST.**

  An errand is to be run for every item of a list, by at most so many workers
  at a time.  A worker takes the next item that nobody has taken, runs its
  errand turn by turn, puts the result in the place of the item, and starts
  over; once there is no item left it is done.  Each of these is one step,
  and the workers' steps mix in any order: a schedule says whose turn it is.

  Where one worker would do there are none, and the errands are run in order
  on the spot.  The results are in the order of the items in any case.

  A schedule may end before the work does.  What it leaves over is then done
  with no more mixing: first what the workers have in hand, then the items
  that nobody has taken.

  A result may be fatal, and then its worker takes no other item.  Once no
  worker is left nobody does.

  Main results:
    * `busy_le` — no more errands are under way than there are workers;
    * `workers_run` — no schedule adds or loses a worker;
    * `perform_of_alone` — without workers the errands are run in order;
    * `performUntil_eq` — errands of which a result may end a worker.
-/
import Federation.Errand

namespace Federation

/-! ## §1. Workers. -/

/-- Where a worker is. -/
inductive Worker (σ β : Type) where
  /-- About to take an item. -/
  | idle
  /-- Running the errand for the item at an index; one that is done is about
  to have its result put in its place. -/
  | busy (index : Nat) (errand : Errand σ β)
  | done

/-- Whether a worker has an errand in hand. -/
def Worker.isBusy {σ β : Type} : Worker σ β → Bool
  | .busy _ _ => true
  | _ => false

/-- Whether a worker is done. -/
def Worker.isDone {σ β : Type} : Worker σ β → Bool
  | .done => true
  | _ => false

/-- Workers on one list of items. -/
structure Pool (σ β : Type) where
  /-- What the workers share. -/
  state : σ
  /-- The index of the next item to take; it may run past the last one. -/
  cursor : Nat
  /-- A place for the result of each item. -/
  slots : List (Option β)
  workers : List (Worker σ β)
  /-- The indices of the items whose errands were run, in the order in which
  they came to their ends. -/
  performed : List Nat

namespace Pool

variable {σ α β : Type}

/-- How many workers there are for a number of items. -/
def workersFor (limit count : Nat) : Nat := min limit count

/-- A pool at its start. -/
def start (items : List α) (workers : Nat) (state : σ) : Pool σ β :=
  ⟨state, 0, items.map fun _ => none, List.replicate workers .idle, []⟩

/-! ## §2. Steps. -/

/-- Take the next item, if there is one. -/
def take (task : α → Errand σ β) (items : List α) (w : Nat) (p : Pool σ β) : Pool σ β :=
  let next : Worker σ β := match items[p.cursor]? with
    | some item => .busy p.cursor (task item)
    | none => .done
  { p with cursor := p.cursor + 1, workers := p.workers.set w next }

/-- One turn of an errand. -/
def advance (w index : Nat) (after : σ → σ) (next : σ → Errand σ β) (p : Pool σ β) :
    Pool σ β :=
  { p with
    state := after p.state
    workers := p.workers.set w (.busy index (next p.state)) }

/-- Put a result in its place. -/
def place (w index : Nat) (result : β) (p : Pool σ β) : Pool σ β :=
  { p with
    slots := p.slots.set index (some result)
    workers := p.workers.set w .idle
    performed := p.performed ++ [index] }

/-- **One step of one worker.**  One that is done, or that there is not, does
nothing. -/
def step (task : α → Errand σ β) (items : List α) (p : Pool σ β) (w : Nat) : Pool σ β :=
  match p.workers[w]? with
  | some .idle => p.take task items w
  | some (.busy index (.turn after next)) => p.advance w index after next
  | some (.busy index (.done result)) => p.place w index result
  | some .done => p
  | none => p

/-- The steps of a schedule, which names a worker for each. -/
def run (task : α → Errand σ β) (items : List α) (p : Pool σ β) (schedule : List Nat) :
    Pool σ β :=
  schedule.foldl (step task items) p

/-- Whether every worker is done. -/
def isFinished (p : Pool σ β) : Bool := p.workers.all Worker.isDone

/-- How many errands are under way. -/
def busy (p : Pool σ β) : Nat := p.workers.countP Worker.isBusy

/-- The results that are in their places. -/
def results (p : Pool σ β) : List β := p.slots.filterMap id

/-! ## §3. What a schedule leaves over. -/

/-- Run what a worker has in hand to its end. -/
def settle (p : Pool σ β) (w : Nat) : Pool σ β :=
  match p.workers[w]? with
  | some (.busy index errand) =>
      let outcome := errand.alone p.state
      { p with state := outcome.2 }.place w index outcome.1
  | _ => p

/-- Run what every worker has in hand to its end. -/
def settleAll (p : Pool σ β) : Pool σ β := (List.range p.workers.length).foldl settle p

/-- The first worker takes an item and runs its errand to the end. -/
def takeAndSettle (task : α → Errand σ β) (items : List α) (p : Pool σ β) : Pool σ β :=
  (p.take task items 0).settle 0

/-- **Do what is left over.** -/
def finish (task : α → Errand σ β) (items : List α) (p : Pool σ β) : Pool σ β :=
  (items.drop p.cursor).foldl (fun p _ => p.takeAndSettle task items) p.settleAll

end Pool

/-! ## §4. Errands for all items. -/

/-- **Run an errand for every item of a list**, with at most `limit` workers
that take their turns by a schedule. -/
def perform {σ α β : Type} (limit : Nat) (schedule : List Nat) (task : α → Errand σ β)
    (items : List α) : StateM σ (List β) :=
  let workers := Pool.workersFor limit items.length
  if workers ≤ 1 then items.mapM fun item => (task item).alone
  else fun s =>
    let p := ((Pool.start items workers s).run task items schedule).finish task items
    (p.results, p.state)

/-- Run an errand for every item of a list, where a fatal result is the end of
the worker that came to it.  Items are taken in order, so those that are taken
are the shortest part of the list with a fatal result for each worker, or all
of it. -/
def performUntil {σ α β : Type} (limit : Nat) (schedule : List Nat) (fatal : β → Bool)
    (task : α → Errand σ β) (items : List α) : StateM σ (List β) := fun s =>
  -- Without workers it is the one who asked that comes to an end.
  let workers := max 1 (Pool.workersFor limit items.length)
  let ended (taken : Nat) : Nat :=
    (perform limit schedule task (items.take taken) s).1.countP fatal
  let taken := ((List.range items.length).find? fun n => workers ≤ ended n).getD items.length
  perform limit schedule task (items.take taken) s

/-! ## §5. Laws. -/

namespace Pool

variable {σ α β : Type}

theorem workers_step (task : α → Errand σ β) (items : List α) (p : Pool σ β) (w : Nat) :
    (p.step task items w).workers.length = p.workers.length := by
  unfold step
  split <;> simp [take, advance, place]

/-- No schedule adds or loses a worker. -/
theorem workers_run (task : α → Errand σ β) (items : List α) (p : Pool σ β)
    (schedule : List Nat) : (p.run task items schedule).workers.length = p.workers.length := by
  unfold run
  induction schedule generalizing p with
  | nil => rfl
  | cons w ws ih => rw [List.foldl_cons, ih, workers_step]

/-- **No more errands are under way than there are workers.** -/
theorem busy_le (task : α → Errand σ β) (items : List α) (workers : Nat) (state : σ)
    (schedule : List Nat) :
    ((start items workers state).run task items schedule).busy ≤ workers := by
  have counted : ∀ p : Pool σ β, p.busy ≤ p.workers.length := fun p => List.countP_le_length
  refine Nat.le_trans (counted _) ?_
  rw [workers_run]
  simp [start]

end Pool

/-- **Without workers the errands are run in order.** -/
theorem perform_of_alone {σ α β : Type} {limit : Nat} (task : α → Errand σ β) (items : List α)
    (schedule : List Nat) (h : limit ≤ 1 ∨ items.length ≤ 1) :
    perform limit schedule task items = items.mapM fun item => (task item).alone := by
  have few : Pool.workersFor limit items.length ≤ 1 := by
    unfold Pool.workersFor
    omega
  simp [perform, few]

/-- **Errands that may end their workers are those for the items that are
taken**, which is all of them where no result is fatal. -/
theorem performUntil_eq {σ α β : Type} (limit : Nat) (schedule : List Nat) (fatal : β → Bool)
    (task : α → Errand σ β) (items : List α) (s : σ) :
    ∃ seen, seen <+: items ∧
      performUntil limit schedule fatal task items s = perform limit schedule task seen s ∧
      ((∀ result ∈ (performUntil limit schedule fatal task items s).1, fatal result = false) →
        seen = items) := by
  unfold performUntil
  dsimp only
  cases hfind : (List.range items.length).find? fun n =>
      max 1 (Pool.workersFor limit items.length)
        ≤ (perform limit schedule task (items.take n) s).1.countP fatal with
  | none =>
      rw [Option.getD_none, List.take_length]
      exact ⟨items, List.prefix_rfl, rfl, fun _ => rfl⟩
  | some n =>
      rw [Option.getD_some]
      refine ⟨items.take n, List.take_prefix n items, rfl, fun hnone => ?_⟩
      have hcount : (perform limit schedule task (items.take n) s).1.countP fatal = 0 :=
        List.countP_eq_zero.2 fun result hmem => Bool.eq_false_iff.1 (hnone result hmem)
      -- Where workers came to an end there was a fatal result.
      have hended := List.find?_some hfind
      rw [decide_eq_true_iff, hcount] at hended
      omega

/-- Of two workers the last one ends on the third item, so nobody takes the
fourth. -/
example : (performUntil 2 [] id Errand.done [true, false, true, false] ()).1
    = [true, false, true] := by decide

/-- Where there is one item there is one errand. -/
theorem performUntil_singleton {σ α β : Type} (limit : Nat) (schedule : List Nat)
    (fatal : β → Bool) (task : α → Errand σ β) (a : α) (s : σ) :
    performUntil limit schedule fatal task [a] s
      = ([((task a).alone s).1], ((task a).alone s).2) := by
  have hnone : (perform limit schedule task ([] : List α) s).1 = [] := by
    rw [perform_of_alone task [] schedule (.inr (Nat.zero_le 1))]
    rfl
  have htaken : perform limit schedule task [a] s
      = ([((task a).alone s).1], ((task a).alone s).2) := by
    rw [perform_of_alone task [a] schedule (.inr (Nat.le_refl 1))]
    rfl
  have hone : max 1 (Pool.workersFor limit 1) = 1 := by
    unfold Pool.workersFor
    omega
  simp [performUntil, hnone, htaken, hone, List.range_succ]

end Federation
