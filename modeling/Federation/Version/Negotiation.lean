/-
  Federation.Version.Negotiation
  ──────────────────────────────
  **NEGOTIATION WITH ONE AGGREGATE.**

  An aggregate is called at its own URL when it speaks the desired version
  there; otherwise at the URL that it advertises for the version, provided
  that a probe of that URL confirms it.  Nothing is followed further than
  that.  Where neither works, strict mode skips the aggregate and relaxed
  mode calls it with a warning: at the version that it speaks, or, where
  that is not known, at the desired one.

  Within an invocation no URL is probed again once it is known what a probe
  of it yielded.

  Main results:
    * `probeOnce_of_memo` — what is known is not asked again;
    * `resolve_use_own` — an aggregate that is known to speak the desired
      version at its own URL is used there.
-/
import Federation.Introspection.Probe
import Federation.Mode

namespace Federation.Version

open Call (SkipReason)
open Introspection (Probed ProbeFault ProbeOutcome ProbePolicy)

/-! ## §1. Terms and resolutions. -/

/-- The terms of negotiation. -/
structure Terms where
  mode : Mode
  probing : ProbePolicy
  /-- Whether to ask every aggregate anew. -/
  forceRefresh : Bool

/-- An endpoint, the version it is to be called at, and what is known of
it. -/
structure Agreed where
  endpoint : Endpoint
  probed : Option Probed
  warnings : List String

/-- The version agreed on. -/
def Agreed.version (a : Agreed) : Option Nat := a.endpoint.version

/-- What to do about an aggregate. -/
inductive Resolution where
  /-- Call it at its own URL. -/
  | use (agreed : Agreed)
  /-- Call it at another URL. -/
  | redirect (agreed : Agreed)
  | skip (reason : SkipReason)

/-! ## §2. Probing once. -/

/-- **Probe an aggregate**, unless this was done before. -/
def probeOnce (w : World) (t : Terms) (e : Endpoint) : Errand Session ProbeOutcome := do
  match ← Action.known e.url with
  | some outcome => return outcome
  | none =>
      let outcome ← Introspection.probe w t.probing t.forceRefresh e
      -- A probe that was called off says nothing of the aggregate.
      if !Introspection.isAborted outcome then Action.remember e.url outcome
      return outcome

/-! ## §3. Fallbacks. -/

/-- Said of an aggregate that is called although it was not heard of. -/
def unprobedWarning (e : Endpoint) (fault : ProbeFault) (desired : Nat) : String :=
  "could not determine the AM API version of " ++ e.label ++ " (" ++ fault.message
    ++ "); calling it at version " ++ toString desired ++ " anyway"

/-- Said of an aggregate that is called at another version. -/
def mismatchWarning (e : Endpoint) (desired primary : Nat) : String :=
  e.label ++ " does not speak AM API version " ++ toString desired
    ++ "; calling it at version " ++ toString primary ++ " instead"

/-- What to do about an aggregate whose probe failed. -/
def withoutProbe (mode : Mode) (e : Endpoint) (desired : Nat) (fault : ProbeFault) : Resolution :=
  match fault, mode with
  | .aborted, _ => .skip .aborted
  | fault, .strict => .skip fault.skipReason
  | fault, .relaxed =>
      .use ⟨e.atVersion desired, none, [unprobedWarning e fault desired]⟩

/-- What to do about an aggregate that cannot be called at the desired
version. -/
def mismatched (mode : Mode) (e : Endpoint) (desired : Nat) (p : Probed) : Resolution :=
  match mode with
  | .strict => .skip (.versionMismatch desired p.snapshot.supported)
  | .relaxed =>
      .use ⟨e.atVersion p.snapshot.primary, some p,
        [mismatchWarning e desired p.snapshot.primary]⟩

/-! ## §4. Resolution. -/

/-- The canonical form of the URL that a snapshot advertises for a
version. -/
def advertisedUrl? (p : Probed) (desired : Nat) : Option String :=
  (p.snapshot.urlFor? desired).bind fun url => (Url.canonical url).toOption

/-- Whether the desired version is spoken at the aggregate's own URL. -/
def speaksAtOwnUrl (e : Endpoint) (desired : Nat) (p : Probed) : Bool :=
  p.snapshot.primary == desired || advertisedUrl? p desired == some e.url

/-- What a resolution of the URL that an aggregate advertises means for the
aggregate, if it means anything.  It is called there only where the desired
version is known to be the primary one. -/
def accepted? (desired : Nat) : Resolution → Option Resolution
  | .use a => if a.probed.any (·.snapshot.primary == desired) then some (.redirect a) else none
  | .redirect _ => none
  | .skip .aborted => some (.skip .aborted)
  | .skip _ => none

/-- What to do about an aggregate.  Where the URL that it advertises may be
followed, `follow` tells what to do about the aggregate there. -/
def resolveHop (w : World) (t : Terms) (desired : Nat)
    (follow : Option (Endpoint → Errand Session Resolution)) (e : Endpoint) :
    Errand Session Resolution := do
  match ← probeOnce w t e with
  | .error fault => return withoutProbe t.mode e desired fault
  | .ok p =>
      if speaksAtOwnUrl e desired p then return .use ⟨e.atVersion desired, some p, []⟩
      match advertisedUrl? p desired, follow with
      | some url, some follow =>
          -- The mode rules there as well, so what comes back is not the answer yet.
          let there ← follow (e.moved url desired)
          return (accepted? desired there).getD (mismatched t.mode e desired p)
      | _, _ => return mismatched t.mode e desired p

/-- What to do about an aggregate, where so many advertised URLs may be
followed, one after the other. -/
def resolveWithin (w : World) (t : Terms) (desired : Nat) :
    (hops : Nat) → Endpoint → Errand Session Resolution
  | 0 => resolveHop w t desired none
  | hops + 1 => resolveHop w t desired (some (resolveWithin w t desired hops))

/-- **What to do about an aggregate.**  Of what is advertised where it leads,
nothing is followed. -/
def resolve (w : World) (t : Terms) (desired : Nat) (e : Endpoint) :
    Errand Session Resolution :=
  resolveWithin w t desired 1 e

/-! ## §5. Laws. -/

/-- **What is known is not asked again.** -/
theorem probeOnce_of_memo (w : World) (t : Terms) (e : Endpoint) {s : Session}
    {outcome : ProbeOutcome} (h : Keyed.get? s.memo e.url = some outcome) :
    (probeOnce w t e).alone s = (outcome, s) := by
  simp only [probeOnce, Errand.bind_eq, Errand.liftM_eq, Errand.alone_bind, Errand.alone_ofAction,
    Action.known, h]
  rfl

/-- **An aggregate that is known to speak the desired version at its own URL
is used there**, and nothing is asked. -/
theorem resolve_use_own (w : World) (t : Terms) (desired : Nat) (e : Endpoint) {s : Session}
    {p : Probed} (hknown : Keyed.get? s.memo e.url = some (.ok p))
    (hspeaks : speaksAtOwnUrl e desired p = true) :
    (resolve w t desired e).alone s = (.use ⟨e.atVersion desired, some p, []⟩, s) := by
  simp only [resolve, resolveWithin, resolveHop, Errand.bind_eq, Errand.alone_bind,
    probeOnce_of_memo w t e hknown, hspeaks, if_true]
  rfl

end Federation.Version
