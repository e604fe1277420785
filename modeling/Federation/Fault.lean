/-
  Federation.Fault
  ────────────────
  **WHAT ENDS AN INVOCATION.**

  Only the caller's own mistakes, a refused credential, a fleet of which
  nobody answers, the failure of a lone aggregate, and the signal to stop end
  an invocation with a fault in place of a report.

  There is one more end, which is neither.  A time that has no date in UTC
  cannot be put on the wire, and the attempt to do so is where everything
  stops: the caller is given no report, and no fault to read either.
-/
import Federation.Call.Failure
import Federation.Call.Options
import Federation.Directory.Resolution

namespace Federation

open Call (Failure OptionFault SkipReason TransportFailure)
open Directory (ResolutionFault)

/-- Why an invocation gives no report. -/
inductive InvocationFault where
  | resolution (fault : ResolutionFault)
  | options (fault : OptionFault)
  | operation (fault : OperationFault)
  | credential (subject reason : String)
  /-- The only aggregate was not called. -/
  | endpointSkipped (label : String) (reason : SkipReason)
  /-- The call to the only aggregate did not get through. -/
  | endpointFailed (label : String) (failure : TransportFailure)
  | noReachableEndpoints (failures : List String)
  | aborted
  deriving DecidableEq, Repr

/-- The words for a fault. -/
def InvocationFault.message : InvocationFault → String
  | .resolution fault => fault.message
  | .options fault => fault.message
  | .operation fault => fault.message
  | .credential subject reason =>
      "could not obtain a credential for " ++ subject ++ ": " ++ reason
  | .endpointSkipped label reason => "cannot call " ++ label ++ ": " ++ reason.text
  | .endpointFailed label failure =>
      "call to " ++ label ++ " failed: " ++ (Failure.transport failure).text
  | .noReachableEndpoints failures =>
      "no aggregate answered GetVersion: " ++ "; ".intercalate failures
  | .aborted => "invocation cancelled"

/-- Why there is no report. -/
inductive Halt where
  /-- The caller is given a fault. -/
  | fault (fault : InvocationFault)
  /-- The caller is given nothing: a time left the calendar. -/
  | crash
  deriving DecidableEq, Repr

/-- Whether the caller is given nothing. -/
def isCrash {α : Type} : Except Halt α → Bool
  | .error .crash => true
  | _ => false

theorem isCrash_iff {α : Type} {outcome : Except Halt α} :
    isCrash outcome = true ↔ outcome = .error .crash := by
  unfold isCrash
  split <;> simp_all

theorem ne_crash {α : Type} {outcome : Except Halt α} (h : isCrash outcome = false) :
    outcome ≠ .error .crash := fun hcrash => by
  rw [isCrash_iff.2 hcrash] at h
  cases h

end Federation
