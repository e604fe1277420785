/-
  Federation.World
  ────────────────
  **WHAT LIES OUTSIDE.**

  The library calls aggregates, reads a clock, writes a file and asks for
  credentials.  What these answer is not its doing: a `World` says what they
  would answer, the aggregates in the light of all that was sent before.
  The signal that calls everything off may come with any reply, and at any
  other time: it is there when it is next looked for.

  Where several workers share a piece of work, whose turn it is lies outside
  as well.
-/
import Federation.Call.Credential
import Federation.Directory.Endpoint
import Federation.Time.Instant

namespace Federation

/-- A remote call as it is sent. -/
structure Request where
  url : String
  method : String
  arguments : List Json
  /-- In seconds. -/
  timeout : Nat
  deriving Inhabited

/-- What comes of a remote call. -/
structure Delivery where
  /-- The reply, or the words of the failure. -/
  reply : Except String Json
  /-- Whether the signal to stop comes with it. -/
  raisesAbort : Bool

/-- All that answers from outside. -/
structure World where
  /-- What comes of a request, after those that were sent before it. -/
  transport : List Request → Request → Delivery
  /-- What the clock says when it is read for the `n`-th time. -/
  clock : Nat → Time.Instant
  /-- Whether the `n`-th write of the file succeeds. -/
  writes : Nat → Bool
  /-- The credential for a subject, or why there is none. -/
  credential : String → Except String Credential
  /-- Whether a proof can be kept. -/
  keepsProof : Endpoint → Json → Bool
  /-- The order in which workers take their turns when work is shared out for
  the `n`-th time. -/
  schedule : Nat → List Nat := fun _ => []
  /-- Whether the signal to stop has come from outside before it is looked
  for the `n`-th time. -/
  interrupts : Nat → Bool := fun _ => false

/-- What is said where there is no source of credentials. -/
def noCredentialSource (subject : String) : String :=
  "no credential source configured for " ++ subject

end Federation
