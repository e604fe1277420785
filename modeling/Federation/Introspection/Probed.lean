/-
  Federation.Introspection.Probed
  ───────────────────────────────
  **RESULTS OF A PROBE.**

  A probe asks an aggregate what it supports.  It yields a snapshot and the
  map it was made from, or a fault: the call did not get through, the reply
  makes no sense, or everything was called off.
-/
import Federation.Call.Failure
import Federation.Introspection.Reply

namespace Federation.Introspection

open Call (SkipReason TransportFailure)

/-- What a probe yields. -/
structure Probed where
  snapshot : Snapshot
  capabilities : Json
  /-- Whether it was remembered. -/
  fromCache : Bool

/-- Why a probe yields nothing. -/
inductive ProbeFault where
  | transport (failure : TransportFailure)
  | malformed (detail : String)
  | aborted
  deriving DecidableEq, Repr

/-- The outcome of a probe. -/
abbrev ProbeOutcome := Except ProbeFault Probed

namespace ProbeFault

/-- The words for a fault. -/
def message : ProbeFault → String
  | .transport failure => failure.message
  | .malformed detail => "malformed GetVersion reply: " ++ detail
  | .aborted => "cancelled"

/-- Why the aggregate is not called. -/
def skipReason : ProbeFault → SkipReason
  | .transport failure => .transport failure
  | .malformed detail => .malformedCapabilities detail
  | .aborted => .aborted

end ProbeFault

/-- Whether everything was called off before the probe. -/
def isAborted : ProbeOutcome → Bool
  | .error .aborted => true
  | _ => false

end Federation.Introspection
