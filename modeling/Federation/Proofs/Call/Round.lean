/-
  Federation.Proofs.Call.Round
  ────────────────────────────
  **WHAT BECOMES OF ONE VISIT, AND OF A ROUND.**

  A visit probes, and then sends at most the one request that was planned for
  what was agreed on.  `Visited` lists what can become of it, with the
  requests that are its own.

  However the visits of a round mix, every slot has its own, and the requests
  of the round are those of its visits.  A round that a crash ends may have
  left out the slots at its end.

  Main results:
    * `meets_visit` — what becomes of one visit;
    * `makeRound_fulfils` — what becomes of a round.
-/
import Federation.Call.Round
import Federation.Proofs.Version.Negotiation

namespace Federation.Call

open Introspection (ProbeOutcome)
open Version (Agreed Agreement AreProbes Refusal areProbes_nil)

/-! ## §1. One call. -/

/-- The request of a planned call. -/
def callRequest (timeout : Nat) (e : Endpoint) (p : Prepared) : Request :=
  ⟨e.url, p.method, p.arguments, timeout⟩

/-- **What becomes of a planned call**: the request that is sent, and the
response. -/
inductive Invoked (w : World) (timeout : Nat) (e : Endpoint) (p : Prepared) (s : Session) :
    List Request → Response → Prop
  | calledOff (stopped : s.aborted = true) : Invoked w timeout e p s [] (.skipped .aborted)
  | replied {reply : Json} (answered : s.Answered w (callRequest timeout e p) (.ok reply)) :
      Invoked w timeout e p s [callRequest timeout e p] (.replied reply)
  | failed {raw : String} (answered : s.Answered w (callRequest timeout e p) (.error raw)) :
      Invoked w timeout e p s [callRequest timeout e p] (.failed (classify e raw timeout))

theorem Invoked.later {w : World} {timeout : Nat} {e : Endpoint} {p : Prepared} {s t : Session}
    {own : List Request} {r : Response} (h : Invoked w timeout e p s own r)
    (hst : s.Becomes t) : Invoked w timeout e p t own r := by
  cases h with
  | calledOff stopped => exact .calledOff (hst.aborted stopped)
  | replied answered => exact .replied (answered.later hst)
  | failed answered => exact .failed (answered.later hst)

theorem meets_invoke (w : World) (timeout : Nat) (e : Endpoint) (p : Prepared) (s : Session) :
    (invoke w timeout e p).Meets Session.conduct s (Invoked w timeout e p) := by
  simp only [invoke, Errand.bind_eq, Errand.liftM_eq]
  refine Errand.meets_stopped (fun t _ hstop => ?_) (fun t _ => ?_)
  · exact fun u hu => .calledOff (hu.aborted hstop)
  · refine (Errand.meets_send w (callRequest timeout e p) t).bind fun u own reply _ hsent => ?_
    obtain ⟨rfl, answered⟩ := hsent
    cases reply with
    | ok reply => exact fun v hv => .replied (answered.later hv)
    | error raw => exact fun v hv => .failed (answered.later hv)

/-! ## §2. One visit. -/

/-- **What becomes of a visit**: its own requests, and the outcome. -/
inductive Visited (w : World) (i : Itinerary) (slot : Endpoint) (s : Session) :
    List Request → Except Halt Visit → Prop
  | calledOff (stopped : s.aborted = true) :
      Visited w i slot s [] (.ok (skippedVisit slot .aborted))
  | probed {probes : List Request} {o : ProbeOutcome}
      (answers : i.planner.answersFromProbe = true) (quiet : AreProbes probes)
      (heard : s.Heard slot.url o) : Visited w i slot s probes (.ok (probedVisit slot o))
  | refused {probes : List Request} {reason : SkipReason} (quiet : AreProbes probes)
      (refusal : Refusal i.terms i.desired slot s reason) :
      Visited w i slot s probes (.ok (skippedVisit slot reason))
  | unplanned {probes : List Request} {a : Agreed} {redirected : Bool} {halt : Halt}
      (answers : i.planner.answersFromProbe = false) (quiet : AreProbes probes)
      (agreement : Agreement i.terms i.desired slot s a redirected)
      (planned : i.planner.plan a = .error halt) : Visited w i slot s probes (.error halt)
  | unavailable {probes : List Request} {a : Agreed} {redirected : Bool} {reason : SkipReason}
      (answers : i.planner.answersFromProbe = false) (quiet : AreProbes probes)
      (agreement : Agreement i.terms i.desired slot s a redirected)
      (planned : i.planner.plan a = .ok (.unavailable reason)) :
      Visited w i slot s probes
        (.ok ⟨slot, some a.endpoint, redirected, .skipped reason, a.warnings⟩)
  | called {probes call : List Request} {a : Agreed} {redirected : Bool} {p : Prepared}
      {warnings : List String} {response : Response}
      (answers : i.planner.answersFromProbe = false) (quiet : AreProbes probes)
      (agreement : Agreement i.terms i.desired slot s a redirected)
      (planned : i.planner.plan a = .ok (.call p warnings))
      (invoked : Invoked w i.timeout a.endpoint p s call response) :
      Visited w i slot s (probes ++ call)
        (.ok ⟨slot, some a.endpoint, redirected, response, a.warnings ++ warnings⟩)

theorem Visited.later {w : World} {i : Itinerary} {slot : Endpoint} {s t : Session}
    {own : List Request} {outcome : Except Halt Visit}
    (h : Visited w i slot s own outcome) (hst : s.Becomes t) : Visited w i slot t own outcome := by
  cases h with
  | calledOff stopped => exact .calledOff (hst.aborted stopped)
  | probed answers quiet heard => exact .probed answers quiet (heard.later hst)
  | refused quiet refusal => exact .refused quiet (refusal.later hst)
  | unplanned answers quiet agreement planned =>
      exact .unplanned answers quiet (agreement.later hst) planned
  | unavailable answers quiet agreement planned =>
      exact .unavailable answers quiet (agreement.later hst) planned
  | called answers quiet agreement planned invoked =>
      exact .called answers quiet (agreement.later hst) planned (invoked.later hst)

/-- A visit is told under the slot that it was for. -/
theorem Visited.slot_eq {w : World} {i : Itinerary} {slot : Endpoint} {s : Session}
    {own : List Request} {v : Visit} (h : Visited w i slot s own (.ok v)) : v.slot = slot := by
  cases h with
  | @probed probes o answers quiet heard => cases o <;> rfl
  | _ => rfl

section

variable {w : World} {i : Itinerary} {slot : Endpoint} {s : Session}

theorem meets_carryOut {a : Agreed} {redirected : Bool}
    (answers : i.planner.answersFromProbe = false) {probes : List Request}
    (quiet : AreProbes probes) (agreement : Agreement i.terms i.desired slot s a redirected) :
    (carryOut w i slot a redirected).Meets Session.conduct s fun t own outcome =>
      Visited w i slot t (probes ++ own) outcome := by
  unfold carryOut
  cases planned : i.planner.plan a with
  | error halt =>
      intro t ht
      rw [List.append_nil]
      exact .unplanned answers quiet (agreement.later ht) planned
  | ok plan =>
      cases plan with
      | unavailable reason =>
          intro t ht
          rw [List.append_nil]
          exact .unavailable answers quiet (agreement.later ht) planned
      | call p warnings =>
          refine (meets_invoke w i.timeout a.endpoint p s).bind
            fun t call response ht invoked => ?_
          intro u hu
          rw [List.append_nil]
          exact .called answers quiet (agreement.later (ht.trans hu)) planned (invoked.later hu)

/-- **What becomes of a visit**, whatever else goes on. -/
theorem meets_visit (w : World) (i : Itinerary) (slot : Endpoint) (hs : s.Telling) :
    (visit w i slot).Meets Session.conduct s (Visited w i slot) := by
  simp only [visit, Errand.bind_eq, Errand.liftM_eq]
  refine Errand.meets_stopped (fun t _ hstop => ?_) (fun t ht => ?_)
  · exact fun u hu => .calledOff (hu.aborted hstop)
  · rw [if_neg Bool.false_ne_true]
    cases answers : i.planner.answersFromProbe with
    | true =>
        rw [if_pos rfl]
        refine (Version.meets_probeOnce w i.terms slot (ht.telling hs)).bind
          fun u own o _ ho => ?_
        intro v hv
        rw [List.append_nil]
        have quiet : Version.AreProbes own := Version.areProbes_of_sublist [slot] ho.1
        exact .probed answers quiet (ho.2.later hv)
    | false =>
        rw [if_neg Bool.false_ne_true]
        refine (Version.meets_resolve w i.terms i.desired slot (ht.telling hs)).bind
          fun u own r _ hr => ?_
        obtain ⟨quiet, resolved⟩ := hr
        cases r with
        | skip reason =>
            intro v hv
            rw [List.append_nil]
            exact .refused quiet (resolved.later hv)
        | use a => exact meets_carryOut answers quiet resolved
        | redirect a => exact meets_carryOut answers quiet resolved

end

/-! ## §3. The round. -/

/-- **What becomes of a round**: a visit of every slot that it came to, with
requests of its own that together are those of the round.  Where nobody
crashes these are all slots. -/
theorem makeRound_fulfils (w : World) (i : Itinerary) (slots : List Endpoint) (workers : Nat)
    {s : Session} (hs : s.Telling) :
    ∃ seen outcomes, seen <+: slots ∧
      ((∀ outcome ∈ outcomes, isCrash outcome = false) → seen = slots) ∧
      (makeRound w i slots workers s).1 = settleVisits outcomes ∧
      Fulfils Session.conduct seen (fun slot t => Visited w i slot t) s outcomes
        (makeRound w i slots workers s).2 := by
  obtain ⟨seen, hseen, hrun, hall⟩ := forEachUntil_eq w workers isCrash (visit w i) slots s
  refine ⟨seen, _, hseen, hall, rfl, ?_⟩
  show Fulfils _ _ _ _ (Action.forEachUntil w workers isCrash (visit w i) slots s).1
    (Action.forEachUntil w workers isCrash (visit w i) slots s).2
  rw [hrun]
  exact forEach_fulfils w workers (visit w i) seen fun slot _ _ ht =>
    meets_visit w i slot (ht.telling hs)

end Federation.Call
