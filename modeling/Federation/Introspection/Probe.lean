/-
  Federation.Introspection.Probe
  ──────────────────────────────
  **PROBES.**

  A probe first looks at what is remembered, unless it is told not to; what
  is fresh is the answer.  Otherwise the aggregate is asked, and whatever
  comes of it is remembered: a usable reply in place of what was known, a
  failure beside it.  That the file cannot be written changes nothing.

  Main results:
    * `probeLive_of_stopped` — once everything is called off, nobody is
      asked;
    * `probeLive_sends_one` — otherwise exactly one request is sent.
-/
import Federation.Session

namespace Federation.Introspection

open Call (classify)

/-- The method by which an aggregate is asked. -/
def probeMethod : String := "GetVersion"

/-- How probes use what is remembered. -/
structure ProbePolicy where
  /-- How old a snapshot may be. -/
  maxAge : Time.Span
  /-- Whether snapshots are remembered at all. -/
  useCache : Bool
  /-- How long to wait for a reply, in seconds. -/
  timeout : Nat
  deriving DecidableEq, Repr

/-- What is remembered and fresh. -/
def fromStore (w : World) (p : ProbePolicy) (url : String) :
    Errand Session (Option Probed) := do
  match ← Action.consult (·.get? url) with
  | none => return none
  | some (snapshot, capabilities) =>
      -- The clock is read only when there is something to compare with it.
      let now ← Action.now w
      return if snapshot.isFresh p.maxAge now then some ⟨snapshot, capabilities, true⟩ else none

/-- Note that a probe failed. -/
def noteError (w : World) (e : Endpoint) (message : String) : Action Unit := do
  let _ ← Action.changeStore w fun s written => s.markError e message written

/-- What to make of a reply. -/
def settleReply (w : World) (e : Endpoint) (reply : Json) : Errand Session ProbeOutcome := do
  let now ← Action.now w
  match ofReply reply now with
  | .error fault =>
      noteError w e fault.message
      return .error (.malformed fault.message)
  | .ok (capabilities, snapshot) =>
      let _ ← Action.changeStore w fun s written => s.put e capabilities now written
      return .ok ⟨snapshot, capabilities, false⟩

/-- The request of a probe. -/
def probeRequest (p : ProbePolicy) (e : Endpoint) : Request := ⟨e.url, probeMethod, [], p.timeout⟩

/-- Ask the aggregate. -/
def probeLive (w : World) (p : ProbePolicy) (e : Endpoint) : Errand Session ProbeOutcome := do
  if ← Action.stopped w then return .error .aborted
  match ← send w (probeRequest p e) with
  | .error raw =>
      let failure := classify e raw p.timeout
      noteError w e failure.message
      return .error (.transport failure)
  | .ok reply => settleReply w e reply

/-- **Probe an aggregate.** -/
def probe (w : World) (p : ProbePolicy) (force : Bool) (e : Endpoint) :
    Errand Session ProbeOutcome := do
  if !force && p.useCache then
    match ← fromStore w p e.url with
    | some probed => return .ok probed
    | none => probeLive w p e
  else probeLive w p e

/-! ## Laws. -/

/-- **Once everything is called off nobody is asked.** -/
theorem probeLive_of_stopped (w : World) (p : ProbePolicy) (e : Endpoint) {s : Session}
    (h : (Action.stopped w s).1 = true) :
    (probeLive w p e).alone s = (.error .aborted, (Action.stopped w s).2) := by
  simp only [probeLive, Errand.bind_eq, Errand.liftM_eq, Errand.alone_bind, Errand.alone_ofAction,
    h, if_true]
  rfl

theorem requests_settleReply (w : World) (e : Endpoint) (reply : Json) (s : Session) :
    ((settleReply w e reply).alone s).2.requests = s.requests := by
  simp only [settleReply, Errand.bind_eq, Errand.liftM_eq, Errand.alone_bind,
    Errand.alone_ofAction, Action.now]
  cases ofReply reply (w.clock s.clockReads) <;> rfl

/-- **A probe of an aggregate sends exactly one request.** -/
theorem probeLive_sends_one (w : World) (p : ProbePolicy) (e : Endpoint) {s : Session}
    (h : (Action.stopped w s).1 = false) :
    ((probeLive w p e).alone s).2.requests = s.requests ++ [probeRequest p e] := by
  simp only [probeLive, Errand.bind_eq, Errand.liftM_eq, Errand.alone_bind, Errand.alone_ofAction,
    h, Bool.false_eq_true, if_false, alone_send]
  cases (w.transport (Action.stopped w s).2.requests (probeRequest p e)).reply with
  | error raw => rfl
  | ok reply => exact requests_settleReply w e reply _

end Federation.Introspection
