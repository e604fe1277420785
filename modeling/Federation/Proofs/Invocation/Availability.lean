/-
  Federation.Proofs.Invocation.Availability
  ─────────────────────────────────────────
  **VOTES FOR A VERSION WITHOUT THE OPERATION.**

  A vote counts versions and does not ask what exists at them.  In strict
  mode a fleet may so adopt a version at which the operation does not exist:
  version 0 for any operation that is voted on, and a version below 3 for a
  description.  Someone in the fleet speaks that version, and nobody is
  called.  Otherwise an operation that exists at the version that was asked
  for exists at the one that the report is on.

  Main result: `report_lacks_iff_stranded`.
-/
import Federation.Proofs.Invocation.Plans

namespace Federation

open Call (Visit)
open Introspection (ProbeOutcome)

namespace Engine

/-! ## §1. Stranded fleets. -/

/-- **A fleet that adopts a version at which the operation does not exist.** -/
structure Stranded (g : Engine) (i : Invocation) (endpoints : List Endpoint) (t : Session)
    (version : Nat) : Prop where
  strict : g.settings.mode = .strict
  voted : ∃ outcomes d, Decided g i endpoints t outcomes (.ok d) ∧ d.version = version
  changed : version ≠ (g.requested i).1
  spoken : ∃ e ∈ endpoints, ∃ p, t.Heard e.url (.ok p) ∧ p.snapshot.supports version = true
  lacking : version = 0 ∨ version < 3 ∧ i.operation = .describe

section

variable {w : World} {g : Engine} {i : Invocation} {endpoints : List Endpoint} {t : Session}
  {version : Nat}

/-- What is heard of an aggregate is heard at its URL. -/
theorem heard_of_mem_zip {outcomes : List ProbeOutcome} {e : Endpoint} {o : ProbeOutcome}
    (heard : List.Forall₂ (fun e o => t.Heard e.url o) endpoints outcomes)
    (h : (e, o) ∈ endpoints.zip outcomes) : e ∈ endpoints ∧ t.Heard e.url o :=
  ⟨(List.of_mem_zip h).1, (List.forall₂_iff_zip.1 heard).2 h⟩

theorem stranded_of_lacking {message : Option String}
    (adopted : Adopted g i endpoints t version message)
    (defined : (i.operation.wireName? (g.requested i).1).isSome = true)
    (lacking : i.operation.wireName? version = none) : Stranded g i endpoints t version := by
  have hother : version ≠ (g.requested i).1 := by
    rintro rfl
    rw [lacking] at defined
    cases defined
  cases adopted with
  | asked _ => exact absurd rfl hother
  | @voted outcomes d decided =>
      obtain ⟨hstrict, e, p, hprobe, hspeaks⟩ :=
        Version.decideFrom_changed decided.decided.symm hother
      obtain ⟨he, hheard⟩ := heard_of_mem_zip decided.heard hprobe
      refine ⟨hstrict, ⟨outcomes, d, decided, rfl⟩, hother, ⟨e, he, p, hheard, hspeaks⟩, ?_⟩
      -- Of the operations that are voted on, only a description is missing below version 3.
      rcases (Operation.wireName?_eq_none_iff _ _).1 lacking with hzero | ⟨hlow, hop⟩
      · exact .inl hzero
      · have hvotes := decided.reconciles
        rcases hop with hop | hop | hop
        · exact .inr ⟨hlow, hop⟩
        · rw [hop] at hvotes
          cases hvotes
        · rw [hop] at hvotes
          cases hvotes

theorem Stranded.lacks (h : Stranded g i endpoints t version) :
    i.operation.wireName? version = none := by
  rw [Operation.wireName?_eq_none_iff]
  rcases h.lacking with hzero | ⟨hlow, hop⟩
  · exact .inl hzero
  · exact .inr ⟨hlow, .inl hop⟩

theorem Stranded.not_getVersion (h : Stranded g i endpoints t version) :
    i.operation ≠ .getVersion := by
  obtain ⟨_, _, decided, _⟩ := h.voted
  exact Operation.ne_getVersion_of_reconcilesFleet decided.reconciles

/-! ## §2. Nobody is called. -/

/-- Where the operation does not exist, an aggregate that was agreed with is
skipped for that. -/
theorem Dealt.skipped_of_lacking {visit : Visit} (h : Dealt i version visit)
    (lacking : i.operation.wireName? version = none) :
    ∃ reason, visit.response = .skipped reason ∧
      (visit.called.isSome = true → reason = .operationUnavailable i.operation version) := by
  have hnone (present : (i.operation.wireName? version).isSome = true) : False := by
    rw [lacking] at present
    cases present
  cases h with
  | givenUp called response _ =>
      refine ⟨_, response, fun hcalled => ?_⟩
      rw [called] at hcalled
      cases hcalled
  | barred _ plans response =>
      cases plans with
      | absent _ => exact ⟨_, response, fun _ => rfl⟩
      | unadvertised present _ => exact (hnone present).elim
      | unreadable present _ => exact (hnone present).elim
  | tried _ plans _ =>
      cases plans with
      | call present _ => exact (hnone present).elim

/-- Where all are skipped there is no call. -/
theorem callsOf_eq_nil_of_skipped {credentials : List Credential} {sent : List Request}
    {parts : List (List Request × Visit)}
    (toured : Toured w (g.itinerary i credentials version) endpoints t sent parts)
    (h : ∀ visit ∈ parts.map Prod.snd, ∃ reason, visit.response = .skipped reason) :
    callsOf sent = [] := by
  refine List.eq_nil_iff_forall_not_mem.2 fun r hr => ?_
  obtain ⟨slot, -, visit, hvisit, hcalled⟩ := (calls_of_toured toured).2 r hr
  obtain ⟨reason, hresponse⟩ := h visit hvisit
  cases hcalled with
  | @made _ _ _ _ _ response _ _ _ _ _ delivered _ =>
      have hskipped : response = .skipped reason := hresponse
      rw [hskipped] at delivered
      cases delivered

end

/-! ## §3. Reports. -/

/-- **A report is on a version without the operation exactly where its fleet
is stranded**, if the operation exists at the version that was asked for; and
then nothing was called, and every aggregate was skipped, for nothing else
where a version was agreed on with it. -/
theorem report_lacks_iff_stranded (w : World) (g : Engine) (i : Invocation) (s : Session)
    {endpoints : List Endpoint} (hnamed : g.named i = .ok endpoints)
    (defined : (i.operation.wireName? (g.requested i).1).isSome = true) :
    ∃ sent, (ExceptT.run (g.run w i) s).2.requests = s.requests ++ sent ∧
      ∀ report, (ExceptT.run (g.run w i) s).1 = .ok report →
        (i.operation.wireName? report.version = none ↔
          Stranded g i endpoints (ExceptT.run (g.run w i) s).2 report.version) ∧
        (i.operation.wireName? report.version = none → callsOf sent = [] ∧
          ∀ o ∈ report.outcomes, ∃ reason, o.result.failure = some (.skipped reason) ∧
            (o.visit.called.isSome = true →
              reason = .operationUnavailable i.operation report.version)) := by
  obtain ⟨sent, hlog, hcourse⟩ := course_run w g i s
  refine ⟨sent, hlog, fun report hreport => ?_⟩
  rw [hreport] at hcourse
  cases hcourse with
  | @reported endpoints' credentials version message probes sent parts launched checked toured _ =>
      obtain rfl : endpoints' = endpoints :=
        Except.ok.inj (launched.resolved.symm.trans hnamed)
      have stranded := stranded_of_lacking launched.adopted defined
      refine ⟨⟨stranded, Stranded.lacks⟩, fun lacking => ?_⟩
      have hskipped : ∀ visit ∈ parts.map Prod.snd, ∃ reason,
          visit.response = .skipped reason ∧ (visit.called.isSome = true →
            reason = .operationUnavailable i.operation version) := by
        intro visit hvisit
        obtain ⟨part, hpart, rfl⟩ := List.mem_map.1 hvisit
        obtain ⟨slot, -, visited⟩ := exists_left_of_mem toured.1 hpart
        have hdealt := dealt_of_visited (stranded lacking).strict (stranded lacking).not_getVersion
          checked visited
        exact hdealt.skipped_of_lacking lacking
      constructor
      · rw [callsOf_append, callsOf_eq_nil_iff.2 launched.quiet, List.nil_append]
        exact callsOf_eq_nil_of_skipped toured fun visit hvisit =>
          (hskipped visit hvisit).imp fun _ h => h.1
      · intro o ho
        obtain ⟨hvisit, hresult⟩ := visit_of_outcome ho
        obtain ⟨reason, hresponse, honly⟩ := hskipped o.visit hvisit
        refine ⟨reason, ?_, honly⟩
        rw [hresult, Answer.skipped_iff]
        exact hresponse

namespace Uniform

/-- The manifest of a slice, at version 3. -/
def description : Invocation :=
  ⟨.describe, ["http://[::1]", "http://[::2]"], { Arguments.none with slice := some "urn:s" },
    Call.Intent.plain, some 3, false, none⟩

set_option maxRecDepth 10000 in
/-- It is reported on version 2. -/
theorem description_reported :
    ∃ report, (ExceptT.run (plain.run (world 2) description) (Session.start .absent)).1
        = .ok report ∧ report.version = 2 := by
  have hrun : failuresOf? (world 2) plain description (Session.start .absent)
      = some (2, [some (.skipped (.operationUnavailable .describe 2)),
          some (.skipped (.operationUnavailable .describe 2))]) := by decide +kernel
  obtain ⟨report, hreport, hversion, -⟩ := run_of_failuresOf? hrun
  exact ⟨report, hreport, hversion⟩

theorem description_named : plain.named description = .ok endpoints := by
  decide +kernel

end Uniform

/-- A description at version 3, where all aggregates speak version 2. -/
theorem description_stranded :
    ∃ report, (ExceptT.run (plain.run (Uniform.world 2) Uniform.description)
        (Session.start .absent)).1 = .ok report ∧
      Stranded plain Uniform.description Uniform.endpoints
        (ExceptT.run (plain.run (Uniform.world 2) Uniform.description)
          (Session.start .absent)).2 report.version := by
  obtain ⟨report, hreport, hversion⟩ := Uniform.description_reported
  obtain ⟨_, -, h⟩ := report_lacks_iff_stranded (Uniform.world 2) plain Uniform.description
    (Session.start .absent) Uniform.description_named (by decide)
  refine ⟨report, hreport, (h report hreport).1.1 ?_⟩
  rw [hversion]
  decide

/-- **A vote may end at a version without the operation.** -/
theorem vote_may_strand :
    ¬∀ (w : World) (g : Engine) (i : Invocation) (s : Session) (endpoints : List Endpoint),
      g.named i = .ok endpoints → 1 < endpoints.length →
      (i.operation.wireName? (g.requested i).1).isSome = true →
      ∀ report, (ExceptT.run (g.run w i) s).1 = .ok report →
        (i.operation.wireName? report.version).isSome = true := by
  intro h
  obtain ⟨report, hreport, hversion⟩ := Uniform.description_reported
  have hpresent := h (Uniform.world 2) plain Uniform.description (Session.start .absent)
    Uniform.endpoints Uniform.description_named (by decide) (by decide) report hreport
  rw [hversion] at hpresent
  cases hpresent

end Engine

end Federation
