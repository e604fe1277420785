/-
  Federation.Call.Round
  ─────────────────────
  **A CALL TO SEVERAL AGGREGATES.**

  Every aggregate is visited once: a version is negotiated, the call is
  planned for it and made.  Nothing is tried twice.  Several may be visited
  at a time, and what comes of the visits is told in the order of the
  aggregates.  A skip or a failure in transit is recorded and the round goes
  on; only where there is a single aggregate does it end the invocation.

  Some operations are answered by what the aggregate says of itself; then
  there is neither negotiation nor call.

  A visit whose plan crashes takes the whole round with it.  A single worker
  stops there; where there are several, the one that made the visit is gone
  and the others go on, and then nothing is told of any aggregate.

  Main results:
    * `visit_of_stopped` — once everything is called off, the aggregates
      that are left are skipped and nothing happens;
    * `settleLone_of_two` — with two aggregates or more, no visit that was
      made ends the invocation.
-/
import Federation.Call.Visit
import Federation.Version.Fleet

namespace Federation.Call

open Introspection (Probed)
open Version (Agreed Resolution Terms)

/-! ## §1. Plans. -/

/-- What is planned for an aggregate. -/
inductive Plan where
  | call (prepared : Prepared) (warnings : List String)
  | unavailable (reason : SkipReason)

/-- How calls are planned. -/
structure Planner where
  plan : Agreed → Except Halt Plan
  /-- Whether what the aggregate says of itself is the answer. -/
  answersFromProbe : Bool

/-- What a round goes by. -/
structure Itinerary where
  terms : Terms
  planner : Planner
  /-- The version wanted. -/
  desired : Nat
  /-- How long to wait for a reply, in seconds. -/
  timeout : Nat

/-! ## §2. One visit. -/

/-- An aggregate that is not called. -/
def skippedVisit (slot : Endpoint) (reason : SkipReason) : Visit :=
  ⟨slot, none, false, .skipped reason, []⟩

/-- Make a planned call. -/
def invoke (w : World) (timeout : Nat) (e : Endpoint) (p : Prepared) :
    Errand Session Response := do
  if ← Action.stopped w then return .skipped .aborted
  match ← send w ⟨e.url, p.method, p.arguments, timeout⟩ with
  | .ok reply => return .replied reply
  | .error raw => return .failed (classify e raw timeout)

/-- The visit of an aggregate that answers for itself. -/
def probedVisit (slot : Endpoint) : Introspection.ProbeOutcome → Visit
  | .error fault => skippedVisit slot fault.skipReason
  | .ok p =>
      ⟨slot, some (slot.atVersion p.snapshot.primary), false,
        .probed p.capabilities p.fromCache, []⟩

/-- Follow the plan for an aggregate that a version was agreed on with. -/
def carryOut (w : World) (i : Itinerary) (slot : Endpoint) (a : Agreed) (redirected : Bool) :
    Errand Session (Except Halt Visit) := do
  match i.planner.plan a with
  | .error halt => return .error halt
  | .ok (.unavailable reason) =>
      return .ok ⟨slot, some a.endpoint, redirected, .skipped reason, a.warnings⟩
  | .ok (.call prepared warnings) =>
      let response ← invoke w i.timeout a.endpoint prepared
      return .ok ⟨slot, some a.endpoint, redirected, response, a.warnings ++ warnings⟩

/-- **Visit one aggregate.** -/
def visit (w : World) (i : Itinerary) (slot : Endpoint) :
    Errand Session (Except Halt Visit) := do
  if ← Action.stopped w then return .ok (skippedVisit slot .aborted)
  if i.planner.answersFromProbe then
    return .ok (probedVisit slot (← Version.probeOnce w i.terms slot))
  match ← Version.resolve w i.terms i.desired slot with
  | .skip reason => return .ok (skippedVisit slot reason)
  | .use a => carryOut w i slot a false
  | .redirect a => carryOut w i slot a true

/-! ## §3. The round. -/

/-- What the visit of the only aggregate means for the invocation. -/
def settleLone (visits : List Visit) : Except InvocationFault (List Visit) :=
  match visits with
  | [only] =>
      match only.response with
      | .skipped .aborted => .error .aborted
      | .skipped reason => .error (.endpointSkipped only.slot.label reason)
      | .failed failure => .error (.endpointFailed only.slot.label failure)
      | .replied _ => .ok visits
      | .probed _ _ => .ok visits
  | visits => .ok visits

/-- The visits, or the first fault among them.  After a crash nobody looks for
faults any more. -/
def settleVisits (outcomes : List (Except Halt Visit)) : Except Halt (List Visit) :=
  if outcomes.any isCrash then .error .crash
  else do (settleLone (← outcomes.mapM id)).mapError .fault

/-- **Visit all aggregates**, at most so many at a time. -/
def makeRound (w : World) (i : Itinerary) (endpoints : List Endpoint) (workers : Nat := 1) :
    Action (Except Halt (List Visit)) := do
  return settleVisits (← Action.forEachUntil w workers isCrash (visit w i) endpoints)

/-! ## §4. Laws. -/

/-- **Once everything is called off, an aggregate is skipped and nothing
happens.** -/
theorem visit_of_stopped (w : World) (i : Itinerary) (slot : Endpoint) {s : Session}
    (h : (Action.stopped w s).1 = true) :
    (visit w i slot).alone s = (.ok (skippedVisit slot .aborted), (Action.stopped w s).2) := by
  simp only [visit, Errand.bind_eq, Errand.liftM_eq, Errand.alone_bind, Errand.alone_ofAction,
    h, if_true]
  rfl

/-- **With two aggregates or more no visit that was made ends the
invocation.** -/
theorem settleLone_of_two {visits : List Visit} (h : 2 ≤ visits.length) :
    settleLone visits = .ok visits := by
  match visits, h with
  | _ :: _ :: _, _ => rfl

end Federation.Call
