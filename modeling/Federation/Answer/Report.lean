/-
  Federation.Answer.Report
  ────────────────────────
  **REPORTS.**

  A report tells of one operation at all the aggregates that it was for: per
  aggregate the result, what is missing and what failed, and over all of
  them the counts.  In words it has one line per aggregate, in the order in
  which the caller named them, after the fleet's own message if there is
  one, and a tally at the end.

  Main results:
    * `counts_add_up` — successes, partial successes and failures are all
      there is;
    * `outcomeOf_of_failure` — a result with a failure is a failure.
-/
import Federation.Answer.Sliver

namespace Federation.Answer

open Call (Visit ErrorKind)

/-! ## §1. One aggregate. -/

/-- All that is known of one aggregate's part. -/
structure EndpointOutcome where
  visit : Visit
  result : Result
  outcome : OutcomeClass
  missing : List String
  failed : Keyed String String
  records : List SliverRecord

/-- The slivers that replies of an operation are compared with. -/
def comparedSlivers (o : Operation) (requested : List String) : List String :=
  if o.reportsResources then requested else []

/-- **One aggregate's part**, from the visit and its result. -/
def outcomeOf (compared : List String) (visit : Visit) (result : Result) : EndpointOutcome :=
  let r := reconcile result.value compared
  ⟨visit, result, if result.isSuccess then r.outcome else .failure, r.missing, r.failed,
    r.records⟩

namespace EndpointOutcome

/-- What kept the aggregate from a clean success.  A failure of the call
counts before its resources, and a failed resource before a missing one. -/
def errorKind (o : EndpointOutcome) : Option ErrorKind :=
  match o.result.errorKind with
  | some kind => some kind
  | none =>
      match o.outcome with
      | .partialSuccess => some (if o.failed.isEmpty then .resourceMissing else .resourceFailed)
      | .success => none
      -- No failure was reported: there was just no value.
      | .failure => none

/-- How it turned out, in words. -/
def verdict (o : EndpointOutcome) : String :=
  match o.outcome with
  | .success => "succeeded"
  | .partialSuccess => "partially succeeded"
  | .failure => o.result.errorDetail.getD "failed: empty result"

/-- The version that succeeded. -/
def versionText (o : EndpointOutcome) : String :=
  if o.outcome = .failure then ""
  else match o.visit.version with
    | some v => " at AM API version " ++ toString v
    | none => ""

/-- The other URL that the call went to. -/
def detourText (o : EndpointOutcome) : String :=
  if o.visit.redirected then
    match o.visit.called with
    | some e => " via " ++ e.url
    | none => ""
  else ""

/-- What is missing. -/
def missingText (o : EndpointOutcome) : String :=
  if o.missing.isEmpty then "" else "; missing " ++ Text.commaList o.missing

/-- What failed, and why. -/
def failedText (o : EndpointOutcome) : String :=
  if o.failed.isEmpty then ""
  else "; failed " ++ Text.commaList (o.failed.map fun (urn, error) =>
    urn ++ " (" ++ error ++ ")")

/-- The aggregate's line in the summary. -/
def line (o : EndpointOutcome) : String :=
  o.visit.slot.label ++ ": " ++ o.verdict ++ o.versionText ++ o.detourText ++ o.missingText
    ++ o.failedText

end EndpointOutcome

/-! ## §2. All aggregates. -/

/-- The report on one operation. -/
structure Report where
  operation : Operation
  /-- The version that was asked for in the end. -/
  version : Nat
  fleetMessage : Option String
  /-- In the order in which the caller named them. -/
  outcomes : List EndpointOutcome

namespace Report

/-- The report on visits and their results. -/
def of (o : Operation) (version : Nat) (requested : List String) (fleetMessage : Option String)
    (parts : List (Visit × Result)) : Report :=
  ⟨o, version, fleetMessage,
    parts.map fun (visit, result) => outcomeOf (comparedSlivers o requested) visit result⟩

/-- The outcomes by the URL that was asked for; of two with one URL the later
counts. -/
def byUrl (r : Report) : Keyed String EndpointOutcome :=
  Keyed.ofPairs (r.outcomes.map fun o => (o.visit.slot.url, o))

/-- The outcome at each URL, in the order of the slots. -/
def inOrder (r : Report) : List EndpointOutcome :=
  r.outcomes.filterMap fun o => r.byUrl.get? o.visit.slot.url

/-- The result at a URL. -/
def resultAt? (r : Report) (url : String) : Option Result :=
  (r.byUrl.get? url).map EndpointOutcome.result

/-- All that is missing anywhere, in the order in which it was first seen. -/
def missing (r : Report) : List String := once (r.outcomes.flatMap EndpointOutcome.missing)

/-- All that failed anywhere; of two errors for one sliver the later
counts. -/
def failed (r : Report) : Keyed String String :=
  Keyed.ofPairs (r.outcomes.flatMap EndpointOutcome.failed)

/-- How many outcomes are of a class. -/
def count (r : Report) (c : OutcomeClass) : Nat := r.outcomes.countP fun o => o.outcome == c

/-- How many aggregates were asked. -/
def total (r : Report) : Nat := r.outcomes.length

/-- Whether every aggregate succeeded. -/
def allSucceeded (r : Report) : Bool := r.count .success == r.total

/-- The last line of the summary. -/
def tally (r : Report) : String :=
  "Succeeded at " ++ toString (r.count .success) ++ " of " ++ toString r.total ++ " aggregates."

/-- The lines of the summary. -/
def lines (r : Report) : List String :=
  r.fleetMessage.toList ++ r.inOrder.map EndpointOutcome.line ++ [r.tally]

/-- **The report in words.** -/
def summary (r : Report) : String := "\n".intercalate r.lines

/-! ## §3. Laws. -/

/-- **The three classes are all there is.** -/
theorem counts_add_up (r : Report) :
    r.count .success + r.count .partialSuccess + r.count .failure = r.total := by
  unfold count total
  induction r.outcomes with
  | nil => rfl
  | cons o os ih =>
    cases h : o.outcome <;> simp [h] <;> omega

end Report

/-- **A result with a failure is a failure.** -/
theorem outcomeOf_of_failure (compared : List String) (v : Visit) {r : Result}
    (h : r.failure.isSome = true) : (outcomeOf compared v r).outcome = .failure := by
  cases hf : r.failure <;> simp_all [outcomeOf, Result.isSuccess]

end Federation.Answer
