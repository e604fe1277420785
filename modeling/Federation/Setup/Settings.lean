/-
  Federation.Setup.Settings
  ─────────────────────────
  **SETTINGS OF THE ENGINE.**

  What of the configuration the engine goes by.
-/
import Federation.Version.Negotiation

namespace Federation.Setup

open Version (Terms)

/-- The engine's settings. -/
structure Settings where
  /-- The version asked for where a request names none. -/
  version : Nat
  /-- Whether it is asked for emphatically. -/
  explicit : Bool
  mode : Mode
  /-- How old a remembered snapshot may be, in seconds. -/
  maxAge : Nat
  /-- Whether snapshots are remembered at all. -/
  useCache : Bool
  /-- How long to wait for the reply to a probe, in seconds. -/
  probeTimeout : Nat
  /-- Whether to ask every aggregate anew. -/
  forceRefresh : Bool
  /-- How long to wait for the reply to a call, in seconds. -/
  callTimeout : Nat
  /-- How many aggregates may be visited at a time. -/
  workerLimit : Nat
  /-- The resource format where a request names none. -/
  preferredFormat : Option ResourceFormat
  deriving DecidableEq, Repr

/-- The terms on which versions are negotiated. -/
def Settings.terms (s : Settings) : Terms :=
  ⟨s.mode, ⟨⟨s.maxAge, 0⟩, s.useCache, s.probeTimeout⟩, s.forceRefresh⟩

end Federation.Setup
