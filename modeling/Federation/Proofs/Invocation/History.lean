/-
  Federation.Proofs.Invocation.History
  ────────────────────────────────────
  **NO URL IS ASKED TWICE.**

  Between two invocations what the probes yielded is known, and it is used in
  four ways: an aggregate is probed, a version is negotiated with it, a fleet
  decides on a version, an aggregate is visited.  A history (`List Step`) is
  any number of these, one after another, in any world: whatever is
  remembered from before, whether or not it is to be asked anew, and
  whenever the signal to stop comes.

  No URL is asked more than once in a history, and one assignment of outcomes
  to URLs tells everything that is found (`Follows`).

  Main results:
    * `teaches_visit` — what a visit learns;
    * `history_introspects_once` — a history asks each URL at most once.
-/
import Federation.Proofs.Invocation.Calls
import Federation.Proofs.Version.Reconciliation

namespace Federation

open Call (Itinerary Plan Planner Prepared Response Visit callRequest probedVisit skippedVisit)
open Introspection (ProbeOutcome probeMethod)
open Version (Agreed Asked Covers Decision Learns Orderly Resolution Soundings Teaches Terms
  decideFrom judge)

/-! ## §1. Histories. -/

/-- One use of what is known of aggregates. -/
inductive Step where
  | probe (e : Endpoint)
  | resolve (desired : Nat) (e : Endpoint)
  | reconcile (endpoints : List Endpoint) (desired : Nat) (explicit : Bool) (workers : Nat)
  | visit (planner : Planner) (desired timeout : Nat) (slot : Endpoint)

/-- What is found in one step. -/
inductive Finding where
  | probed (o : ProbeOutcome)
  | resolved (r : Resolution)
  | decided (d : Except InvocationFault Decision)
  | visited (v : Except Halt Visit)

/-- **Take one step**, with nobody else at work. -/
def Step.take (w : World) (t : Terms) : Step → Action Finding
  | .probe e => do return .probed (← (Version.probeOnce w t e).alone)
  | .resolve desired e => do return .resolved (← (Version.resolve w t desired e).alone)
  | .reconcile endpoints desired explicit workers => do
      return .decided (← Version.reconcileFleet w t endpoints desired explicit workers)
  | .visit planner desired timeout slot => do
      return .visited (← (Call.visit w ⟨t, planner, desired, timeout⟩ slot).alone)

/-- Whether the workers of a step keep out of each other's way.  Two of them
on one URL might both find that nothing is known of it. -/
def Step.IsOrderly : Step → Prop
  | .reconcile endpoints _ _ workers => Orderly workers endpoints
  | _ => True

/-- A request that is the planned call of a visit. -/
inductive Step.Plans : Step → Request → Prop
  | call {planner : Planner} {desired timeout : Nat} {slot : Endpoint} {a : Agreed}
      {p : Prepared} {warnings : List String} (answers : planner.answersFromProbe = false)
      (planned : planner.plan a = .ok (.call p warnings)) :
      Plans (.visit planner desired timeout slot) (callRequest timeout a.endpoint p)

/-- What becomes of a visit that a version was agreed on for. -/
inductive Carried (planner : Planner) (slot : Endpoint) (a : Agreed) (redirected : Bool) :
    Except Halt Visit → Prop
  | unplanned {halt : Halt} (planned : planner.plan a = .error halt) :
      Carried planner slot a redirected (.error halt)
  | unavailable {reason : Call.SkipReason} (planned : planner.plan a = .ok (.unavailable reason)) :
      Carried planner slot a redirected
        (.ok ⟨slot, some a.endpoint, redirected, .skipped reason, a.warnings⟩)
  | called {p : Prepared} {warnings : List String} {response : Response}
      (planned : planner.plan a = .ok (.call p warnings)) :
      Carried planner slot a redirected
        (.ok ⟨slot, some a.endpoint, redirected, response, a.warnings ++ warnings⟩)

/-- What becomes of a visit by the resolution of its slot. -/
def Ensues (planner : Planner) (slot : Endpoint) (outcome : Except Halt Visit) :
    Resolution → Prop
  | .skip reason => outcome = .ok (skippedVisit slot reason)
  | .use a => Carried planner slot a false outcome
  | .redirect a => Carried planner slot a true outcome

/-- **What is found follows from an assignment of outcomes to URLs**, unless
it was called off. -/
inductive Follows (t : Terms) (P : Soundings) : Step → Finding → Prop
  | probed {e : Endpoint} {o : ProbeOutcome} (told : o = .error .aborted ∨ o = P e.url) :
      Follows t P (.probe e) (.probed o)
  | resolved {desired : Nat} {e : Endpoint} {r : Resolution}
      (told : r = .skip .aborted ∨ r = judge t.mode desired e P) :
      Follows t P (.resolve desired e) (.resolved r)
  | decided {endpoints : List Endpoint} {desired : Nat} {explicit : Bool} {workers : Nat}
      {d : Except InvocationFault Decision}
      (told : d = .error .aborted ∨
        d = decideFrom t.mode desired explicit (endpoints.map fun e => (e, P e.url))) :
      Follows t P (.reconcile endpoints desired explicit workers) (.decided d)
  | skipped {planner : Planner} {desired timeout : Nat} {slot : Endpoint} :
      Follows t P (.visit planner desired timeout slot)
        (.visited (.ok (skippedVisit slot .aborted)))
  | answered {planner : Planner} {desired timeout : Nat} {slot : Endpoint}
      (answers : planner.answersFromProbe = true) :
      Follows t P (.visit planner desired timeout slot)
        (.visited (.ok (probedVisit slot (P slot.url))))
  | visited {planner : Planner} {desired timeout : Nat} {slot : Endpoint}
      {outcome : Except Halt Visit} (answers : planner.answersFromProbe = false)
      (ensues : Ensues planner slot outcome (judge t.mode desired slot P)) :
      Follows t P (.visit planner desired timeout slot) (.visited outcome)

/-! ## §2. Visits. -/

section

variable {Planned : Request → Prop} {w : World} {i : Itinerary} {slot : Endpoint}

theorem leaves_invoke (w : World) (timeout : Nat) (e : Endpoint) (p : Prepared) :
    (Call.invoke w timeout e p).Leaves Session.memo := by
  simp only [Call.invoke, Errand.bind_eq, Errand.liftM_eq]
  refine (Errand.leaves_act fun _ => rfl).bind fun stopped => ?_
  cases stopped with
  | true => exact trivial
  | false =>
      refine (Errand.leaves_send w _).bind fun reply => ?_
      cases reply with
      | error raw => exact trivial
      | ok reply => exact trivial

/-- A planned call tells nothing of other URLs. -/
theorem teaches_invoke {timeout : Nat} {e : Endpoint} {p : Prepared}
    (planned : Planned (callRequest timeout e p)) (s : Session) :
    Teaches Planned (Call.invoke w timeout e p).alone s fun _ _ => True := by
  obtain ⟨-, own, hsent, hgoal⟩ := (Call.meets_invoke w timeout e p s).alone
  have hmemo := (leaves_invoke w timeout e p).alone s
  refine ⟨Version.learns_of_planned hmemo hsent fun r hr => ?_, trivial⟩
  have invoked := hgoal _ (Session.Becomes.refl _)
  generalize ((Call.invoke w timeout e p).alone s).1 = response at invoked
  cases invoked with
  | calledOff => cases hr
  | replied => exact List.mem_singleton.1 hr ▸ planned
  | failed => exact List.mem_singleton.1 hr ▸ planned

theorem teaches_carryOut {a : Agreed} {redirected : Bool}
    (planned : ∀ p warnings, i.planner.plan a = .ok (.call p warnings) →
      Planned (callRequest i.timeout a.endpoint p)) (s : Session) :
    Teaches Planned (Call.carryOut w i slot a redirected).alone s fun _ outcome =>
      Carried i.planner slot a redirected outcome := by
  unfold Call.carryOut
  cases hplan : i.planner.plan a with
  | error halt => exact Teaches.done (.unplanned hplan)
  | ok plan =>
      cases plan with
      | unavailable reason => exact Teaches.done (.unavailable hplan)
      | call p warnings =>
          refine (teaches_invoke (planned p warnings hplan) s).bind fun u response _ => ?_
          exact Teaches.done (.called hplan)

/-- Where a version is agreed on, the visit goes ahead. -/
theorem teaches_ahead {a : Agreed} {redirected : Bool} {r : Resolution}
    (answers : i.planner.answersFromProbe = false)
    (planned : ∀ q, Step.Plans (.visit i.planner i.desired i.timeout slot) q → Planned q)
    (ensues : ∀ outcome, Carried i.planner slot a redirected outcome →
      Ensues i.planner slot outcome r) (s : Session)
    (told : ∀ P, Covers P s → r = judge i.terms.mode i.desired slot P) :
    Teaches Planned (Call.carryOut w i slot a redirected).alone s fun u outcome =>
      ∀ P, Covers P u →
        Follows i.terms P (.visit i.planner i.desired i.timeout slot) (.visited outcome) := by
  refine (teaches_carryOut (fun p warnings h => planned _ (.call answers h)) s).imp
    fun u outcome hlearns carried P covers => ?_
  have hjudged := told P (covers.earlier hlearns.kept)
  refine .visited answers ?_
  rw [← hjudged]
  exact ensues outcome carried

/-- To look for the signal to stop tells nothing. -/
theorem teaches_stopped (s : Session) :
    Teaches Planned (Errand.ofAction (Action.stopped w)).alone s fun _ _ => True :=
  ⟨Version.learns_of_quiet rfl rfl, trivial⟩

/-- **What a visit learns**, and what becomes of it by what is known. -/
theorem teaches_visit
    (planned : ∀ r, Step.Plans (.visit i.planner i.desired i.timeout slot) r → Planned r)
    (s : Session) :
    Teaches Planned (Call.visit w i slot).alone s fun u outcome => ∀ P, Covers P u →
      Follows i.terms P (.visit i.planner i.desired i.timeout slot) (.visited outcome) := by
  simp only [Call.visit, Errand.bind_eq, Errand.liftM_eq]
  refine (teaches_stopped s).bind fun t stopped _ => ?_
  cases stopped with
  | true =>
      rw [if_pos rfl]
      exact Teaches.done fun P _ => .skipped
  | false =>
      rw [if_neg Bool.false_ne_true]
      cases answers : i.planner.answersFromProbe with
      | true =>
          -- What the aggregate says of itself is the answer.
          rw [if_pos rfl]
          refine (Version.teaches_probeOnce Planned w i.terms slot t).bind fun u o recalled => ?_
          refine Teaches.done fun P covers => ?_
          rcases covers.recalled recalled with haborted | rfl
          · rw [Version.eq_aborted haborted]
            exact .skipped
          · exact .answered answers
      | false =>
          rw [if_neg Bool.false_ne_true]
          refine (Version.teaches_resolve Planned w i.terms i.desired slot t).bind fun u r told => ?_
          cases r with
          | skip reason =>
              refine Teaches.done fun P covers => ?_
              rcases told P covers with h | h
              · obtain rfl := Resolution.skip.inj h
                exact .skipped
              · refine .visited answers ?_
                rw [← h]
                rfl
          | use a =>
              have ensues : ∀ outcome, Carried i.planner slot a false outcome →
                  Ensues i.planner slot outcome (.use a) := fun _ carried => carried
              refine teaches_ahead answers planned ensues u fun P covers => ?_
              rcases told P covers with h | h
              · cases h
              · exact h
          | redirect a =>
              have ensues : ∀ outcome, Carried i.planner slot a true outcome →
                  Ensues i.planner slot outcome (.redirect a) := fun _ carried => carried
              refine teaches_ahead answers planned ensues u fun P covers => ?_
              rcases told P covers with h | h
              · cases h
              · exact h

/-! ## §3. Histories. -/

/-- **What one step learns**, and what is found in it. -/
theorem teaches_take (t : Terms) {step : Step} (orderly : step.IsOrderly)
    (planned : ∀ r, step.Plans r → Planned r) (s : Session) :
    Teaches Planned (step.take w t) s fun u finding =>
      ∀ P, Covers P u → Follows t P step finding := by
  cases step with
  | probe e =>
      obtain ⟨hlearns, recalled⟩ := Version.teaches_probeOnce Planned w t e s
      refine ⟨hlearns, fun P covers => .probed ?_⟩
      exact (covers.recalled recalled).imp_left Version.eq_aborted
  | resolve desired e =>
      obtain ⟨hlearns, told⟩ := Version.teaches_resolve Planned w t desired e s
      exact ⟨hlearns, fun P covers => .resolved (told P covers)⟩
  | reconcile endpoints desired explicit workers =>
      obtain ⟨hlearns, told⟩ :=
        Version.teaches_reconcileFleet Planned w t desired explicit orderly s
      exact ⟨hlearns, fun P covers => .decided (told P covers)⟩
  | visit planner desired timeout slot =>
      let i : Itinerary := ⟨t, planner, desired, timeout⟩
      have hvisit : Teaches Planned (Call.visit w i slot).alone s fun u outcome =>
          ∀ P, Covers P u → Follows t P (.visit planner desired timeout slot) (.visited outcome) :=
        teaches_visit planned s
      exact ⟨hvisit.1, hvisit.2⟩

end

/-- **What a history learns**, and what is found in it. -/
theorem teaches_history (w : World) (t : Terms) {history : List Step}
    (orderly : ∀ step ∈ history, step.IsOrderly) (s : Session) :
    Teaches (fun r => ∃ step ∈ history, step.Plans r) (history.mapM (Step.take w t)) s
      fun u findings => List.Forall₂
        (fun step finding => ∀ P, Covers P u → Follows t P step finding) history findings := by
  apply Version.teaches_mapM
  · -- What covers all that is known in the end covered it before.
    intro step _ u v finding hlearns told P covers
    exact told P (covers.earlier hlearns.kept)
  · intro step hstep u
    exact teaches_take t (orderly step hstep) (fun r hr => ⟨step, hstep, hr⟩) u

/-- The requests that ask for a version. -/
def probesOf (requests : List Request) : List Request :=
  requests.filter fun r => r.method = probeMethod

theorem probesOf_eq_self {rs : List Request} (h : Version.AreProbes rs) : probesOf rs = rs :=
  List.filter_eq_self.2 fun r hr => decide_eq_true (h r hr)

theorem probesOf_eq_nil {rs : List Request} (h : ∀ r ∈ rs, r.method ≠ probeMethod) :
    probesOf rs = [] := List.filter_eq_nil_iff.2 fun r hr => by simpa using h r hr

/-- Whether a step leaves it to probes to ask for versions. -/
def Step.LeavesProbing (step : Step) : Prop := ∀ r, step.Plans r → r.method ≠ probeMethod

/-- The visits of an invocation do. -/
theorem Engine.leavesProbing_visit (g : Engine) (i : Invocation) (credentials : List Credential)
    (version desired timeout : Nat) (slot : Endpoint) :
    (Step.visit (g.planner i credentials version) desired timeout slot).LeavesProbing := by
  intro r hplans
  cases hplans with
  | @call _ _ _ _ a p warnings answers planned =>
      obtain ⟨draft, -, hprepared, -⟩ := planAt_call planned
      have hop : i.operation ≠ .getVersion := of_decide_eq_false answers
      exact wireName?_ne_probe hop (Call.prepare_method hprepared)

/-- **No URL is asked twice in a history**, beginning with nothing known.
What is sent is what was asked, one request for each URL, and the planned calls
of visits.  Where these leave it to probes to ask for versions, as the visits of
every invocation do, no other request for a version is sent.  One assignment of
outcomes to URLs tells what every step finds. -/
theorem history_introspects_once (w : World) (t : Terms) (history : List Step) (s : Session)
    (orderly : ∀ step ∈ history, step.IsOrderly) :
    (∃ sent, ((history.mapM (Step.take w t)) (Action.forgetProbes s).2).2.requests
        = s.requests ++ sent ∧
      (∃ asked calls, sent.Perm (asked ++ calls) ∧
        (∀ r ∈ asked, r.method = probeMethod) ∧ (asked.map (·.url)).Nodup ∧
        ∀ r ∈ calls, ∃ step ∈ history, step.Plans r) ∧
      ((∀ step ∈ history, step.LeavesProbing) → ((probesOf sent).map (·.url)).Nodup) ∧
      ∃ P : Soundings, List.Forall₂ (Follows t P) history
        ((history.mapM (Step.take w t)) (Action.forgetProbes s).2).1) ∧
    ∀ (g : Engine) (i : Invocation) (credentials : List Credential)
      (version desired timeout : Nat) (slot : Endpoint),
      (Step.visit (g.planner i credentials version) desired timeout slot).LeavesProbing := by
  refine ⟨?_, Engine.leavesProbing_visit⟩
  obtain ⟨⟨-, sent, asked, calls, hsent, hperm, hasked, hcalls⟩, told⟩ :=
    teaches_history w t orderly (Action.forgetProbes s).2
  refine ⟨sent, hsent, ⟨asked, calls, hperm, hasked.probes, hasked.once, hcalls⟩, fun leaves => ?_,
    _, told.imp fun step finding h => h _ (Version.covers_heardIn _)⟩
  -- The calls ask for no version, so the requests that do are the probes.
  have hnone : probesOf calls = [] := by
    apply probesOf_eq_nil
    intro r hr
    obtain ⟨step, hstep, hplans⟩ := hcalls r hr
    exact leaves step hstep r hplans
  have hall : probesOf (asked ++ calls) = asked := by
    show (asked ++ calls).filter _ = asked
    rw [List.filter_append]
    show probesOf asked ++ probesOf calls = asked
    rw [probesOf_eq_self hasked.probes, hnone, List.append_nil]
  have hprobes : (probesOf sent).Perm (probesOf (asked ++ calls)) := hperm.filter _
  rw [hall] at hprobes
  exact (hprobes.map (·.url)).nodup_iff.2 hasked.once

namespace Signpost

/-- The aggregate that the other one points at. -/
def neighbour : Endpoint := { Version.Signpost.endpoint with url := "http://[::2]" }

/-- Each way of coming upon the two aggregates. -/
def history : List Step :=
  [.probe Version.Signpost.endpoint,
    .reconcile [Version.Signpost.endpoint, neighbour] 2 true 2,
    .resolve 2 Version.Signpost.endpoint,
    .visit ⟨fun _ => .ok (.call ⟨"Status", []⟩ []), false⟩ 2 30 Version.Signpost.endpoint,
    .probe neighbour]

/-- What comes of it. -/
def aftermath : List Finding × Session :=
  (history.mapM (Step.take Version.Signpost.world Version.Signpost.terms))
    (Action.forgetProbes (Session.start .absent)).2

end Signpost

/-- The two are asked once each, and the one is called. -/
theorem signpost_introspected_once :
    (probesOf Signpost.aftermath.2.requests).map (·.url) = ["http://[::1]", "http://[::2]"] ∧
      Signpost.aftermath.2.requests.length = 3 ∧
      ∃ P : Soundings, List.Forall₂ (Follows Version.Signpost.terms P) Signpost.history
        Signpost.aftermath.1 := by
  have orderly : ∀ step ∈ Signpost.history, step.IsOrderly := by
    simp [Signpost.history, Step.IsOrderly, Orderly, Signpost.neighbour, Version.Signpost.endpoint]
  obtain ⟨⟨_, -, -, -, told⟩, -⟩ := history_introspects_once Version.Signpost.world
    Version.Signpost.terms Signpost.history (Session.start .absent) orderly
  exact ⟨by decide +kernel, by decide +kernel, told⟩

/-- Where two workers share one URL, both look before either asks. -/
def Signpost.race : World := { Version.Signpost.world with schedule := fun _ => [0, 1, 0, 1] }

/-- **A fleet that is not orderly may ask a URL twice.** -/
theorem race_asks_twice :
    let step : Step := .reconcile [Version.Signpost.endpoint, Version.Signpost.endpoint] 2 true 2
    (probesOf ((step.take Signpost.race Version.Signpost.terms) (Session.start .absent)).2.requests
      ).map (·.url) = ["http://[::1]", "http://[::1]"] := by decide +kernel

end Federation
