/-
  Federation.Version.Fleet
  ────────────────────────
  **THE VERSION FOR A FLEET.**

  Before a call to several aggregates all are probed, and those that answer
  vote on the version.  Strict mode follows the vote; relaxed mode keeps the
  version asked for and says what the vote was.  Where the version was asked
  for emphatically, a switch is announced as a warning.

  Main results:
    * `decide_relaxed` — in relaxed mode the version is never changed;
    * `warning_iff` — the warning is raised exactly where an emphatic
      request is overruled.
-/
import Federation.Fault
import Federation.Version.Negotiation
import Federation.Version.Vote

namespace Federation.Version

open Introspection (Probed ProbeFault ProbeOutcome)

/-! ## §1. Decisions. -/

/-- What was decided for a fleet. -/
structure Decision where
  requested : Nat
  version : Nat
  rule : Rule
  /-- Whether an emphatic request was overruled. -/
  warning : Bool
  message : Option String
  /-- The aggregates that did not answer, and why. -/
  unreachable : List (String × String)
  deriving DecidableEq, Repr

/-- Whether another version was adopted. -/
def Decision.changed (d : Decision) : Bool := d.version ≠ d.requested

/-- Said where some aggregates do not speak the version that is kept. -/
def keepingMessage (fleet : Fleet) (desired : Nat) : String :=
  "Keeping AM API version " ++ toString desired ++ ": spoken by "
    ++ toString (anywhere fleet desired) ++ " of " ++ toString fleet.length
    ++ " reachable aggregates."

/-- Said where relaxed mode does not follow the vote. -/
def overrulingMessage (fleet : Fleet) (desired proposed : Nat) : String :=
  "Developer mode: keeping AM API version " ++ toString desired ++ " although version "
    ++ toString proposed ++ " is spoken by " ++ toString (anywhere fleet proposed) ++ " of "
    ++ toString fleet.length ++ " reachable aggregates ("
    ++ toString (anywhere fleet desired) ++ " speak " ++ toString desired ++ ")."

/-- Said where another version is adopted. -/
def switchingMessage (fleet : Fleet) (desired proposed : Nat) : String :=
  "Switching from AM API version " ++ toString desired ++ " to " ++ toString proposed ++ ": "
    ++ toString (live fleet proposed) ++ " of " ++ toString fleet.length
    ++ " reachable aggregates run " ++ toString proposed ++ " natively and "
    ++ toString (anywhere fleet proposed) ++ " support it; "
    ++ toString (anywhere fleet desired) ++ " support " ++ toString desired ++ "."

/-- Said before it where the version was asked for emphatically. -/
def emphaticWarning (desired : Nat) : String :=
  "WARNING: you explicitly requested AM API version " ++ toString desired ++ ". "

/-- Whether keeping the version is worth a message. -/
def Rule.isWorthSaying : Rule → Bool
  | .desiredMajority | .desiredStillSupported => true
  | _ => false

/-- **What a vote means** for the version asked for. -/
def decide (mode : Mode) (fleet : Fleet) (desired : Nat) (explicit : Bool)
    (unreachable : List (String × String)) : Decision :=
  let v := vote fleet desired
  let kept : Decision := ⟨desired, desired, v.rule, false, none, unreachable⟩
  if v.version = desired then
    { kept with
      message := if v.rule.isWorthSaying then some (keepingMessage fleet desired) else none }
  else match mode with
    | .relaxed => { kept with message := some (overrulingMessage fleet desired v.version) }
    | .strict =>
        let words := switchingMessage fleet desired v.version
        { kept with
          version := v.version
          warning := explicit
          message := some (if explicit then emphaticWarning desired ++ words else words) }

/-! ## §2. Probing the fleet. -/

/-- Endpoints and what their probes yielded. -/
abbrev Probes := List (Endpoint × ProbeOutcome)

/-- The versions of the aggregates that answered. -/
def speakers (probes : Probes) : Fleet :=
  probes.filterMap fun (_, outcome) =>
    match outcome with
    | .ok p => some (Speaker.ofSnapshot p.snapshot)
    | .error _ => none

/-- The aggregates that did not answer, and why. -/
def unreachable (probes : Probes) : List (String × String) :=
  probes.filterMap fun (e, outcome) =>
    match outcome with
    | .ok _ => none
    | .error fault => some (e.label, fault.message)

/-- What the probes mean for the version asked for. -/
def decideFrom (mode : Mode) (desired : Nat) (explicit : Bool) (probes : Probes) :
    Except InvocationFault Decision :=
  -- One probe that was called off spoils the vote, whatever the others say.
  if probes.any fun (_, outcome) => Introspection.isAborted outcome then .error .aborted
  else if (speakers probes).isEmpty then
    .error (.noReachableEndpoints
      ((unreachable probes).map fun (label, words) => label ++ ": " ++ words))
  else .ok (decide mode (speakers probes) desired explicit (unreachable probes))

/-- Probe every endpoint, at most so many at a time. -/
def probeAll (w : World) (t : Terms) (workers : Nat) (endpoints : List Endpoint) :
    Action Probes := do
  let outcomes ← Action.forEach w workers (probeOnce w t) endpoints
  return endpoints.zip outcomes

/-- **Decide the version for a fleet.** -/
def reconcileFleet (w : World) (t : Terms) (endpoints : List Endpoint) (desired : Nat)
    (explicit : Bool) (workers : Nat := 1) : Action (Except InvocationFault Decision) := do
  return decideFrom t.mode desired explicit (← probeAll w t workers endpoints)

/-! ## §3. Laws. -/

/-- **In relaxed mode the version is never changed.** -/
theorem decide_relaxed (fleet : Fleet) (desired : Nat) (explicit : Bool)
    (gone : List (String × String)) :
    (decide .relaxed fleet desired explicit gone).version = desired := by
  unfold decide
  by_cases h : (vote fleet desired).version = desired <;> simp [h]

/-- **The warning is raised exactly where an emphatic request is
overruled.** -/
theorem warning_iff (mode : Mode) (fleet : Fleet) (desired : Nat) (explicit : Bool)
    (gone : List (String × String)) :
    (decide mode fleet desired explicit gone).warning = true ↔
      explicit = true ∧ (decide mode fleet desired explicit gone).version ≠ desired := by
  unfold decide
  by_cases h : (vote fleet desired).version = desired
  · simp [h]
  · cases mode <;> simp [h]

end Federation.Version
