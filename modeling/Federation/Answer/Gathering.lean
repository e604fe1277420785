/-
  Federation.Answer.Gathering
  ───────────────────────────
  **A REPORT GATHERED IN ONE PASS.**

  The parts of a report are entered one after another, as the aggregates are
  visited.  When the last one is in, a single pass over them gathers what is
  counted and listed: each outcome under its URL, how many succeeded in
  whole and in part, and which slivers are missing or failed anywhere.

  Main result: `of_eq_foldl_enter` — a report is what was entered.
-/
import Federation.Answer.Report

namespace Federation.Answer

open Call (Visit)

/-! ## §1. Entries. -/

namespace Report

/-- A report in which nothing is entered yet. -/
def blank (o : Operation) (version : Nat) (fleetMessage : Option String) : Report :=
  ⟨o, version, fleetMessage, []⟩

/-- **Enter one aggregate's part**, a visit and its result. -/
def enter (requested : List String) (r : Report) (part : Visit × Result) : Report :=
  { r with outcomes :=
      r.outcomes ++ [outcomeOf (comparedSlivers r.operation requested) part.1 part.2] }

end Report

/-! ## §2. The pass. -/

/-- What is gathered of the outcomes so far. -/
structure Gathering where
  /-- By the URL that was asked for; of two with one URL the later counts. -/
  byUrl : Keyed String EndpointOutcome
  missing : List String
  failed : Keyed String String
  successes : Nat
  partials : Nat
  /-- How many outcomes there are in all. -/
  total : Nat
  /-- The URLs that were asked for, in the order of the entries. -/
  order : List String

namespace Gathering

/-- Before the first of `total` outcomes. -/
def start (total : Nat) : Gathering := ⟨[], [], [], 0, 0, total, []⟩

/-- Note a sliver, unless it was noted before. -/
def note (noted : List String) (urn : String) : List String :=
  if noted.contains urn then noted else noted ++ [urn]

/-- **Gather one more outcome.** -/
def add (g : Gathering) (o : EndpointOutcome) : Gathering where
  byUrl := g.byUrl.insert o.visit.slot.url o
  missing := o.missing.foldl note g.missing
  failed := g.failed.insertAll o.failed
  successes := if o.outcome = .success then g.successes + 1 else g.successes
  partials := if o.outcome = .partialSuccess then g.partials + 1 else g.partials
  total := g.total
  order := g.order ++ [o.visit.slot.url]

/-- The outcome at each URL, in the order of the entries. -/
def inOrder (g : Gathering) : List EndpointOutcome := g.order.filterMap g.byUrl.get?

/-- Whether every aggregate succeeded. -/
def allSucceeded (g : Gathering) : Bool := g.successes == g.total

end Gathering

/-- **All that is gathered of a report.** -/
def Report.gather (r : Report) : Gathering :=
  r.outcomes.foldl Gathering.add (.start r.outcomes.length)

/-! ## §3. Laws. -/

/-- What is entered into a report follows what was there before. -/
theorem Report.foldl_enter (requested : List String) (r : Report) (parts : List (Visit × Result)) :
    parts.foldl (enter requested) r =
      { r with outcomes := r.outcomes ++ parts.map fun (visit, result) =>
          outcomeOf (comparedSlivers r.operation requested) visit result } := by
  induction parts generalizing r with
  | nil => rw [List.map_nil, List.append_nil]; rfl
  | cons part parts ih =>
      rw [List.foldl_cons, ih, List.map_cons]
      simp only [enter, List.append_assoc, List.singleton_append]

/-- **A report is what was entered.** -/
theorem Report.of_eq_foldl_enter (o : Operation) (version : Nat) (requested : List String)
    (fleetMessage : Option String) (parts : List (Visit × Result)) :
    Report.of o version requested fleetMessage parts
      = parts.foldl (enter requested) (blank o version fleetMessage) := by
  rw [foldl_enter]
  rfl

end Federation.Answer
