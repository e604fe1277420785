/-
  Federation.Call.Visit
  ─────────────────────
  **WHAT BECAME OF ONE AGGREGATE.**

  A call to several aggregates visits each of them once.  The slot is the
  endpoint that the caller asked for; the call may go to another URL of the
  same aggregate, where it speaks the version wanted.
-/
import Federation.Call.Failure
import Federation.Json.Basic

namespace Federation.Call

/-- What came of a visit, before it is interpreted. -/
inductive Response where
  | skipped (reason : SkipReason)
  | replied (reply : Json)
  | failed (failure : TransportFailure)
  /-- What the aggregate says of itself is the answer. -/
  | probed (capabilities : Json) (fromCache : Bool)
  deriving Inhabited

/-- One visit. -/
structure Visit where
  /-- The endpoint asked for. -/
  slot : Endpoint
  /-- The endpoint that the call was for, where it came that far. -/
  called : Option Endpoint
  /-- Whether it is at another URL. -/
  redirected : Bool
  response : Response
  warnings : List String
  deriving Inhabited

/-- The version that the call was for. -/
def Visit.version (v : Visit) : Option Nat := v.called.bind Endpoint.version

end Federation.Call
