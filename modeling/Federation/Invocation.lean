/-
  Federation.Invocation
  ─────────────────────
  **INVOCATIONS.**

  An invocation performs one operation at the aggregates that its
  identifiers name.  The endpoints are resolved, a credential is asked for,
  the fleet agrees on a version, the request is checked against it, every
  aggregate is visited, and the answers are gathered in a report.

  The request is checked before any aggregate is called, so what the caller
  did wrong is found without anything having been done.  An aggregate that
  speaks another version than the request was checked for is skipped where
  the request does not fit there.

  A time that leaves the calendar is neither wrong nor fitting.  Whoever comes
  to put it on the wire, the check of the options or the plan for an
  aggregate, crashes, and the invocation with it.

  Main result: `run_of_stopped` — an invocation that was called off before
  it began does nothing.
-/
import Federation.Answer.Report
import Federation.Call.Round
import Federation.Setup.Settings

namespace Federation

open Answer (Report Result)
open Call (Intent Itinerary Plan Planner SkipReason Visit)
open Directory (Sources)
open Setup (Settings)
open Version (Agreed)

/-! ## §1. Requests and the engine. -/

/-- What the caller wants done. -/
structure Invocation where
  operation : Operation
  /-- Which aggregates it is for; the configured ones where there are none. -/
  identifiers : List String
  arguments : Arguments
  intent : Intent
  /-- The version, where the caller names one. -/
  version : Option Nat
  /-- Whether that version is asked for emphatically. -/
  explicit : Bool
  /-- Whom the credential is for, if not the slice. -/
  subject : Option String

/-- Whom the credential is for. -/
def Invocation.credentialSubject (i : Invocation) : String :=
  (i.subject.or i.arguments.slice).getD ""

/-- All that invocations have in common. -/
structure Engine where
  settings : Settings
  sources : Sources

/-- An action that may end the invocation. -/
abbrev Attempt := ExceptT Halt Action

/-- An action that cannot fail, as part of an invocation. -/
def Attempt.always {α : Type} (action : Action α) : Attempt α := ExceptT.lift action

/-- An outcome as part of an invocation. -/
def Attempt.outcome {α : Type} (r : Except Halt α) : Attempt α := ExceptT.mk (pure r)

/-- An action with an outcome, as part of an invocation. -/
def Attempt.action {α : Type} (action : Action (Except Halt α)) : Attempt α :=
  ExceptT.mk action

namespace Engine

/-! ## §2. Before the calls. -/

/-- The endpoints that the identifiers name. -/
def endpoints (g : Engine) (i : Invocation) : Attempt (List Endpoint) := do
  let (outcome, listings) := g.sources.resolve i.identifiers
  Attempt.always (Action.noteListings listings)
  Attempt.outcome (outcome.mapError fun fault => .fault (.resolution fault))

/-- The version asked for, and whether emphatically. -/
def requested (g : Engine) (i : Invocation) : Nat × Bool :=
  match i.version with
  | some v => (v, i.explicit)
  | none => (g.settings.version, g.settings.explicit)

/-- The credentials for the calls.  Asking an aggregate for its version takes
none. -/
def credentials (w : World) (i : Invocation) : Attempt (List Credential) := do
  if i.operation = .getVersion then return []
  let subject := i.credentialSubject
  match ← Attempt.always (Action.askCredential w subject) with
  | .ok credential => return [credential]
  | .error reason => throw (.fault (.credential subject reason))

/-- The version for the invocation, and the fleet's message. -/
def agree (w : World) (g : Engine) (i : Invocation) (endpoints : List Endpoint) :
    Attempt (Nat × Option String) := do
  let (version, explicit) := g.requested i
  if 1 < endpoints.length && i.operation.reconcilesFleet then
    let decision ← Attempt.always
      (Version.reconcileFleet w g.settings.terms endpoints version explicit
        g.settings.workerLimit)
    let d ← Attempt.outcome (decision.mapError .fault)
    return (d.version, d.message)
  else return (version, none)

/-- What the call is meant to do, the preferred format filled in. -/
def intent (g : Engine) (i : Invocation) : Intent :=
  if i.intent.format.isNone && i.operation.takesFormat then
    { i.intent with format := g.settings.preferredFormat }
  else i.intent

/-- The arguments are in order, or the operation does not exist at the
version, which each aggregate is told for itself. -/
def checkArguments (i : Invocation) (version : Nat) : Except Halt Unit :=
  match i.operation.validate version i.arguments with
  | .ok () => .ok ()
  | .error (.unavailable _ _) => .ok ()
  | .error fault => .error (.fault (.operation fault))

/-- The options are in order, whatever formats are advertised. -/
def checkOptions (g : Engine) (i : Invocation) (version : Nat) : Except Halt Unit :=
  match Call.buildOptions ⟨g.settings.mode, i.operation, version⟩ (g.intent i) i.arguments [] with
  | .ok _ => .ok ()
  | .error fault => .error (if fault.leavesCalendar then .crash else .fault (.options fault))

/-- **Check a request** at the version of the invocation. -/
def check (g : Engine) (i : Invocation) (version : Nat) : Except Halt Unit :=
  if i.operation = .getVersion then .ok ()
  else do
    checkArguments i version
    checkOptions g i version

/-! ## §3. The calls. -/

/-- What is planned where a request has no form at a version. -/
def misfit (version : Nat) (leavesCalendar : Bool) (message : String) : Except Halt Plan :=
  if leavesCalendar then .error .crash
  else .ok (.unavailable (.incompatibleRequest version message))

/-- What is planned for an aggregate at a version, given the formats that it
advertises. -/
def planAt (g : Engine) (i : Invocation) (credentials : List Credential) (version : Nat)
    (advertised : List ResourceFormat) : Except Halt Plan :=
  if (i.operation.wireName? version).isNone then
    .ok (.unavailable (.operationUnavailable i.operation version))
  else match Call.buildOptions ⟨g.settings.mode, i.operation, version⟩ (g.intent i) i.arguments
      advertised with
    -- The check before the calls knew of no formats, so this one is new.
    | .error (.unadvertised requested listed) =>
        .ok (.unavailable (.unsupportedFormat requested listed))
    | .error fault => misfit version fault.leavesCalendar fault.message
    | .ok built =>
        match Call.prepare i.operation version i.arguments credentials built.options with
        | .error fault => misfit version fault.leavesCalendar fault.message
        | .ok prepared => .ok (.call prepared built.warnings)

/-- The formats that an aggregate is known to advertise. -/
def advertisedFormats (a : Agreed) : List ResourceFormat :=
  match a.probed with
  | some p => p.snapshot.adFormats
  | none => []

/-- How the calls of an invocation are planned. -/
def planner (g : Engine) (i : Invocation) (credentials : List Credential) (version : Nat) :
    Planner where
  plan a := g.planAt i credentials (a.version.getD version) (advertisedFormats a)
  answersFromProbe := i.operation = .getVersion

/-- The round of an invocation. -/
def itinerary (g : Engine) (i : Invocation) (credentials : List Credential) (version : Nat) :
    Itinerary :=
  ⟨g.settings.terms, g.planner i credentials version, version, g.settings.callTimeout⟩

/-! ## §4. After the calls. -/

/-- The result of a visit; a proof that came with it is handed over. -/
def interpret (w : World) (mode : Mode) (version : Nat) (v : Visit) : Action (Visit × Result) := do
  let calledAt := v.version.getD version
  match Answer.proofOf? calledAt v.response with
  | some proof => Action.handOver w (v.called.getD v.slot) proof
  | none => pure ()
  return (v, Answer.normalise mode calledAt v.response)

/-- **Perform an operation.** -/
def run (w : World) (g : Engine) (i : Invocation) : Attempt Report := do
  if ← Attempt.always (Action.stopped w) then throw (.fault .aborted)
  let endpoints ← g.endpoints i
  let credentials ← credentials w i
  -- What earlier invocations learnt stays in the store, not in the memo.
  Attempt.always Action.forgetProbes
  let (version, message) ← agree w g i endpoints
  Attempt.outcome (g.check i version)
  -- From here on aggregates are called.
  let visits ← Attempt.action
    (Call.makeRound w (g.itinerary i credentials version) endpoints g.settings.workerLimit)
  let parts ← Attempt.always (visits.mapM (interpret w g.settings.mode version))
  return Report.of i.operation version i.arguments.slivers message parts

/-! ## §5. Laws. -/

/-- **What was called off before it began does nothing.** -/
theorem run_of_stopped (w : World) (g : Engine) (i : Invocation) {s : Session}
    (h : (Action.stopped w s).1 = true) :
    ExceptT.run (run w g i) s = (.error (.fault .aborted), (Action.stopped w s).2) := by
  generalize hlook : Action.stopped w s = look at h
  obtain ⟨_, t⟩ := look
  subst h
  simp only [run, bind, ExceptT.bind, ExceptT.mk, ExceptT.run, Attempt.always, ExceptT.lift,
    Functor.map, StateT.map, StateT.bind, pure, hlook]
  rfl

end Engine

end Federation
