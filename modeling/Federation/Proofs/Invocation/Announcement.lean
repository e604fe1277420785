/-
  Federation.Proofs.Invocation.Announcement
  ─────────────────────────────────────────
  **NO VERSION IS SWITCHED IN SILENCE.**

  The version of a report is the one that was asked for, by the caller or in
  the settings, unless a fleet adopted another one.  That happens in strict
  mode only, where an operation that reconciles fleets is performed at two
  aggregates or more, and then the report says so in its first line; where
  the version was asked for emphatically that line is a warning.

  A decision that was made once is made again without asking anybody, at any
  later time in the invocation.

  Main result: `switch_announced`.
-/
import Federation.Proofs.Invocation.Availability
import Federation.Proofs.Invocation.History
import Federation.Proofs.Invocation.Meeting

namespace Federation

open Answer (Report)
open Version (Candid Decision Keeps Orderly decideFrom_candid decideFrom_changed emphaticWarning
  reconcileFleet)

namespace Engine

/-! ## §1. Announcements. -/

/-- What a warning begins with. -/
def warningWords : String := "WARNING: you explicitly requested"

theorem emphaticWarning_eq (desired : Nat) :
    emphaticWarning desired = warningWords ++ (" AM API version " ++ toString desired ++ ". ") := by
  have hwords : "WARNING: you explicitly requested AM API version "
      = warningWords ++ " AM API version " := by decide
  unfold emphaticWarning
  rw [hwords, String.append_assoc, String.append_assoc, String.append_assoc]

/-- **How a version that was not asked for is announced.** -/
structure Announced (g : Engine) (i : Invocation) (report : Report) : Prop where
  strict : g.settings.mode = .strict
  reconciles : i.operation.reconcilesFleet = true
  several : ∃ endpoints, g.named i = .ok endpoints ∧ 2 ≤ endpoints.length
  message : ∃ message, report.fleetMessage = some message ∧
    -- It is a line of its own, the first one.
    (∃ rest, report.summary = message ++ "\n" ++ rest) ∧
    ((g.requested i).2 = true → ∃ rest, message = warningWords ++ rest)

/-- A fleet's message is the first line of the summary. -/
theorem summary_of_message {report : Report} {message : String}
    (h : report.fleetMessage = some message) :
    ∃ rest, report.summary = message ++ "\n" ++ rest := by
  unfold Report.summary Report.lines
  rw [h, Option.toList_some, List.singleton_append, List.cons_append]
  have hrest : report.inOrder.map Answer.EndpointOutcome.line ++ [report.tally] ≠ [] := by
    intro hnil
    cases (List.append_eq_nil_iff.1 hnil).2
  exact ⟨_, String.intercalate_cons_of_ne_nil hrest⟩

theorem announced_of_reported {g : Engine} {i : Invocation} {endpoints : List Endpoint}
    {t : Session} {version : Nat} {message : Option String} {report : Report}
    (resolved : g.named i = .ok endpoints) (adopted : Adopted g i endpoints t version message)
    (hmessage : report.fleetMessage = message) (changed : version ≠ (g.requested i).1) :
    Announced g i report := by
  cases adopted with
  | asked _ =>
      -- Without a fleet the version is the one that was asked for.
      exact absurd rfl changed
  | @voted outcomes d decided =>
      obtain ⟨strict, -⟩ := decideFrom_changed decided.decided.symm changed
      obtain ⟨words, hwords⟩ := Version.decideFrom_message decided.decided.symm changed
      have hsaid := hmessage.trans hwords
      refine ⟨strict, decided.reconciles, ⟨endpoints, resolved, decided.several⟩, _, hsaid,
        summary_of_message hsaid, fun hexplicit => ?_⟩
      rw [hexplicit, if_pos rfl, emphaticWarning_eq, String.append_assoc]
      exact ⟨_, rfl⟩

/-! ## §2. Runs and decisions. -/

/-- **No version is switched in silence.**  Where a report is on another
version than the one asked for, it announces that.  What a fleet decides in
any session owes the caller the same; and to decide once more, whatever was
done in between, sends nothing and comes to the same decision, where no two
workers probe one URL at a time, as is the case for the endpoints of every
run. -/
theorem switch_announced (w : World) (g : Engine) (i : Invocation) (s : Session) :
    (∀ report, (ExceptT.run (g.run w i) s).1 = .ok report →
      report.version ≠ (g.requested i).1 → Announced g i report) ∧
    (∀ (t : Version.Terms) (endpoints : List Endpoint) (desired : Nat) (explicit : Bool)
        (workers : Nat) (d : Decision) (u : Session),
      reconcileFleet w t endpoints desired explicit workers s = (.ok d, u) →
        Candid t.mode desired explicit d ∧
        ∀ between : List Step, (∀ step ∈ between, step.IsOrderly) →
          ∀ v, ((between.mapM (Step.take w t)) u).2 = v →
            (reconcileFleet w t endpoints desired explicit workers v).2.requests = v.requests ∧
            (Orderly workers endpoints →
              (reconcileFleet w t endpoints desired explicit workers v).1 = .ok d)) ∧
    ∀ endpoints, g.named i = .ok endpoints → ∀ workers, Orderly workers endpoints := by
  refine ⟨fun report hreport changed => ?_,
    fun t endpoints desired explicit workers d u hfirst => ?_,
    fun endpoints hnamed workers => .inr (Directory.Sources.resolve_pairwise hnamed)⟩
  · obtain ⟨sent, -, hcourse⟩ := course_run w g i s
    rw [hreport] at hcourse
    cases hcourse with
    | reported launched checked toured _ =>
        exact announced_of_reported launched.resolved launched.adopted rfl changed
  · have hd : (reconcileFleet w t endpoints desired explicit workers s).1 = .ok d := by
      rw [hfirst]
    have hcandid : Candid t.mode desired explicit d := decideFrom_candid hd
    have hsettled : (reconcileFleet w t endpoints desired explicit workers s).1
        ≠ .error .aborted := by
      rw [hd]
      nofun
    refine ⟨hcandid, fun between orderly v hv => ?_⟩
    have later : Keeps (reconcileFleet w t endpoints desired explicit workers s).2 v := by
      rw [hfirst, ← hv]
      exact (teaches_history w t orderly u).1.kept
    obtain ⟨hquiet, hsame⟩ :=
      Version.reconcileFleet_again w t desired explicit workers hsettled later
    exact ⟨hquiet, fun orderly => (hsame orderly).trans hd⟩

namespace Uniform

/-- The manifest of a slice, at version 3 and at no other. -/
def insistence : Invocation := { description with explicit := true }

/-- What two aggregates that speak version 2 decide on. -/
def first : Except InvocationFault Decision × Session :=
  reconcileFleet (world 2) plain.settings.terms endpoints 3 true 2 (Session.start .absent)

theorem first_warns : (match first.1 with
    | .ok d => d.warning
    | .error _ => false) = true := by decide +kernel

end Uniform

set_option maxRecDepth 10000 in
/-- A fleet that speaks version 2 only, asked for version 3 emphatically. -/
theorem insistence_announced :
    (∃ report, (ExceptT.run (plain.run (Uniform.world 2) Uniform.insistence)
        (Session.start .absent)).1 = .ok report ∧ Announced plain Uniform.insistence report) ∧
    ∃ d u, Uniform.first = (.ok d, u) ∧ d.warning = true ∧ d.changed = true ∧
      (reconcileFleet (Uniform.world 2) plain.settings.terms Uniform.endpoints 3 true 2 u).1
        = .ok d := by
  obtain ⟨hannounced, hdecided, horderly⟩ := switch_announced (Uniform.world 2) plain
    Uniform.insistence (Session.start .absent)
  constructor
  · have hrun : failuresOf? (Uniform.world 2) plain Uniform.insistence (Session.start .absent)
        = some (2, [some (.skipped (.operationUnavailable .describe 2)),
            some (.skipped (.operationUnavailable .describe 2))]) := by decide +kernel
    obtain ⟨report, hreport, hversion, -⟩ := run_of_failuresOf? hrun
    refine ⟨report, hreport, hannounced report hreport ?_⟩
    rw [hversion]
    decide
  · have hwarns := Uniform.first_warns
    cases hfirst : Uniform.first with
    | mk r u =>
        rw [hfirst] at hwarns
        cases r with
        | error fault => cases hwarns
        | ok d =>
            obtain ⟨hcandid, hagain⟩ := hdecided _ _ _ _ _ d u hfirst
            have hnamed : plain.named Uniform.insistence = .ok Uniform.endpoints := by
              decide +kernel
            have hsame := (hagain [] nofun u rfl).2 (horderly _ hnamed 2)
            exact ⟨d, u, rfl, hwarns, (hcandid.warning.1 hwarns).1, hsame⟩

end Engine

end Federation
