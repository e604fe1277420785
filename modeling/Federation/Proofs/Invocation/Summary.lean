/-
  Federation.Proofs.Invocation.Summary
  ────────────────────────────────────
  **THE SUMMARY OF A RUN.**

  A run is summed up in the order in which its endpoints were resolved, a
  line for each, after the fleet's message and before the tally.  All
  addresses in it are canonical, that of a detour like the others, and what
  a fleet says is made of the library's own words and of numbers.  So there
  are more lines than that exactly where words of others have line ends.

  Main results:
    * `oneLine_decide` — what a fleet says is one line;
    * `addressed_of_visited` — the address of a detour is canonical;
    * `summary_lined` — the lines of the summary of a run.
-/
import Federation.Proofs.Answer.Report
import Federation.Proofs.Answer.Summary
import Federation.Proofs.Directory.Addresses
import Federation.Proofs.Invocation.Availability
import Federation.Proofs.Invocation.Meeting
import Federation.Proofs.Invocation.Stages

namespace Federation

open Answer (Report)
open Call (Visit Visited)
open Directory (Addressed)
open Text (OneLine oneLine_append oneLine_nat)

/-! ## §1. What a fleet says. -/

namespace Version

theorem oneLine_keepingMessage (fleet : Fleet) (desired : Nat) :
    OneLine (keepingMessage fleet desired) := by
  unfold keepingMessage
  simp +decide

theorem oneLine_overrulingMessage (fleet : Fleet) (desired proposed : Nat) :
    OneLine (overrulingMessage fleet desired proposed) := by
  unfold overrulingMessage
  simp +decide

theorem oneLine_switchingMessage (fleet : Fleet) (desired proposed : Nat) :
    OneLine (switchingMessage fleet desired proposed) := by
  unfold switchingMessage
  simp +decide

theorem oneLine_emphaticWarning (desired : Nat) : OneLine (emphaticWarning desired) := by
  unfold emphaticWarning
  simp +decide

/-- **What a fleet says is one line.** -/
theorem oneLine_decide (mode : Mode) (fleet : Fleet) (desired : Nat) (explicit : Bool)
    (gone : List (String × String)) :
    ∀ message ∈ (decide mode fleet desired explicit gone).message.toList, OneLine message := by
  intro message hmessage
  have hmessage := Option.mem_toList.1 hmessage
  unfold decide at hmessage
  dsimp only at hmessage
  split at hmessage
  · split at hmessage
    · obtain rfl := Option.some.inj hmessage
      exact oneLine_keepingMessage fleet desired
    · cases hmessage
  · cases mode with
    | relaxed =>
        obtain rfl := Option.some.inj hmessage
        exact oneLine_overrulingMessage fleet desired _
    | strict =>
        obtain rfl := Option.some.inj hmessage
        split
        · exact oneLine_append.2
            ⟨oneLine_emphaticWarning desired, oneLine_switchingMessage fleet desired _⟩
        · exact oneLine_switchingMessage fleet desired _

end Version

/-! ## §2. Where a visit went. -/

theorem Version.addressed_of_agreement {terms : Version.Terms} {desired : Nat} {e : Endpoint}
    {t : Session} {a : Version.Agreed} {redirected : Bool}
    (h : Version.Agreement terms desired e t a redirected) (he : Addressed e) :
    Addressed a.endpoint := by
  cases h with
  | own _ _ => exact he
  | detour _ _ advertised _ _ =>
      -- What is advertised was read as an address.
      obtain ⟨url, -, hcanonical⟩ := Option.bind_eq_some_iff.1 advertised
      cases hread : Url.canonical url with
      | error fault =>
          rw [hread] at hcanonical
          cases hcanonical
      | ok canonical =>
          rw [hread] at hcanonical
          exact ⟨url, hread.trans (congrArg Except.ok (Option.some.inj hcanonical))⟩
  | unheard _ _ _ => exact he
  | mismatch _ _ => exact he

/-- **The endpoint that a visit was for** has a canonical address. -/
theorem Call.addressed_of_visited {w : World} {i : Call.Itinerary} {slot : Endpoint} {t : Session}
    {own : List Request} {v : Visit} (h : Visited w i slot t own (.ok v)) (hslot : Addressed slot) :
    ∀ e, v.called = some e → Addressed e := by
  intro e he
  cases h with
  | calledOff _ => cases he
  | @probed _ o _ _ _ =>
      cases o with
      | error fault => cases he
      | ok p =>
          obtain rfl := Option.some.inj he
          exact hslot
  | refused _ _ => cases he
  | unavailable _ _ agreement _ =>
      obtain rfl := Option.some.inj he
      exact Version.addressed_of_agreement agreement hslot
  | called _ _ agreement _ _ =>
      obtain rfl := Option.some.inj he
      exact Version.addressed_of_agreement agreement hslot

/-! ## §3. Runs. -/

namespace Engine

theorem oneLine_of_adopted {g : Engine} {i : Invocation} {endpoints : List Endpoint} {t : Session}
    {version : Nat} {message : Option String} (h : Adopted g i endpoints t version message) :
    ∀ words ∈ message.toList, OneLine words := by
  cases h with
  | asked _ => exact fun words hwords => absurd hwords List.not_mem_nil
  | voted decided =>
      rw [Version.decideFrom_ok decided.decided.symm]
      exact Version.oneLine_decide _ _ _ _ _

/-- **The summary of a run**: the fleet's message, what is said of each endpoint in the order of
resolution, each under its label, and the tally.  There is one line for each endpoint exactly
where no word of others has a line end, and then it is the endpoint's own. -/
theorem summary_lined (w : World) (g : Engine) (i : Invocation) (s : Session) {report : Report}
    (h : (ExceptT.run (g.run w i) s).1 = .ok report) :
    g.named i = .ok (report.outcomes.map (·.visit.slot)) ∧ report.Lined := by
  obtain ⟨sent, -, hcourse⟩ := course_run w g i s
  rw [h] at hcourse
  cases hcourse with
  | @reported endpoints credentials version message probes round parts launched checked toured _ =>
      have hslots : (g.reportOn i version message (parts.map Prod.snd)).outcomes.map
          (·.visit.slot) = endpoints := by
        rw [slots_reportOn]
        exact slots_of_toured toured
      -- No two slots have one URL, so each outcome stands in its place.
      have htells := Report.tells_of_slots hslots
        (Directory.Sources.resolve_pairwise launched.resolved)
      have haddressed := Directory.Sources.canonical_of_resolved launched.resolved
      refine ⟨hslots ▸ launched.resolved, Report.lined_of_oneLine
        (oneLine_of_adopted launched.adopted) htells.inOrder (fun o ho => ?_)
        fun o ho e he => ?_⟩
      · have hslot : o.visit.slot ∈ endpoints := hslots ▸ List.mem_map_of_mem ho
        exact (haddressed _ hslot).oneLine
      · obtain ⟨part, hpart, hvisit⟩ := List.mem_map.1 (visit_of_outcome ho).1
        obtain ⟨slot, hslot, hvisited⟩ := exists_left_of_mem toured.1 hpart
        rw [← hvisit] at he
        exact (Call.addressed_of_visited hvisited (haddressed slot hslot) e he).oneLine

/-- A report is known by what a run tells of it. -/
theorem run_of_told {α : Type} {w : World} {g : Engine} {i : Invocation} {s : Session}
    {tell : Report → α} {a : α} (h : (ExceptT.run (g.run w i) s).1.toOption.map tell = some a) :
    ∃ report, (ExceptT.run (g.run w i) s).1 = .ok report ∧ tell report = a := by
  cases hrun : (ExceptT.run (g.run w i) s).1 with
  | error fault =>
      rw [hrun] at h
      cases h
  | ok report =>
      rw [hrun] at h
      exact ⟨report, rfl, Option.some.inj h⟩

/-- What a report has to say, line by line, and the words of others in it. -/
def script (report : Report) : List String × List String :=
  (report.fleetMessage.toList ++ report.outcomes.map Answer.EndpointOutcome.line ++ [report.tally],
    report.outcomes.flatMap Answer.EndpointOutcome.words)

set_option maxRecDepth 10000 in
/-- Two aggregates that lack an operation, after a vote: four lines, and no word of others. -/
theorem summary_lined_description :
    ∃ report, (ExceptT.run (plain.run (Uniform.world 2) Uniform.description)
        (Session.start .absent)).1 = .ok report ∧ report.Unbroken ∧
      Text.lines report.summary =
        ["Switching from AM API version 3 to 2: 2 of 2 reachable aggregates run 2 natively "
          ++ "and 2 support it; 0 support 3.",
        "http://[::1]: skipped: Describe is not defined at AM API version 2",
        "http://[::2]: skipped: Describe is not defined at AM API version 2",
        "Succeeded at 0 of 2 aggregates."] := by
  have hrun : ((ExceptT.run (plain.run (Uniform.world 2) Uniform.description)
      (Session.start .absent)).1.toOption.map script)
        = some (["Switching from AM API version 3 to 2: 2 of 2 reachable aggregates run 2 natively "
          ++ "and 2 support it; 0 support 3.",
        "http://[::1]: skipped: Describe is not defined at AM API version 2",
        "http://[::2]: skipped: Describe is not defined at AM API version 2",
        "Succeeded at 0 of 2 aggregates."], []) := by decide +kernel
  obtain ⟨report, hreport, htold⟩ := run_of_told hrun
  obtain ⟨hscript, hwords⟩ := Prod.mk.inj htold
  obtain ⟨-, hlined⟩ := summary_lined _ _ _ _ hreport
  have hunbroken : report.Unbroken := by
    intro o ho word hword
    have hmem := List.mem_flatMap_of_mem ho hword
    rw [hwords] at hmem
    cases hmem
  refine ⟨report, hreport, hunbroken, ?_⟩
  rw [hlined.lines, hlined.one hunbroken]
  exact hscript

/-- The lines of a summary, and how many there are to be. -/
def layout (report : Report) : List String × Nat :=
  (Text.lines report.summary, report.total + 1 + report.fleetMessage.toList.length)

namespace Outcry

/-- The aggregate refuses at length. -/
def world : World where
  transport := fun _ r =>
    if r.method = Introspection.probeMethod then ⟨.ok (Crossing.reply 2 []), false⟩
    else ⟨.ok (.object [("code", .object [("geni_code", .nat 12)]),
      ("output", .string "no such slice\nask the operator")]), false⟩
  clock := fun _ => Time.Instant.epoch
  writes := fun _ => true
  credential := fun _ => .ok (Credential.sfa "document")
  keepsProof := fun _ _ => true

/-- It is to stop a slice. -/
def invocation : Invocation := { Crossing.invocation with identifiers := ["http://[::1]"] }

end Outcry

set_option maxRecDepth 10000 in
/-- **An aggregate may have two lines**: its own words are written as they are. -/
theorem summary_breaks :
    ¬∀ (w : World) (g : Engine) (i : Invocation) (s : Session) (report : Report),
      (ExceptT.run (g.run w i) s).1 = .ok report →
      (Text.lines report.summary).length
        = report.total + 1 + report.fleetMessage.toList.length := by
  intro h
  have hrun : ((ExceptT.run (plain.run Outcry.world Outcry.invocation)
      (Session.start .absent)).1.toOption.map layout)
        = some (["http://[::1]: error code 12: no such slice", "ask the operator",
          "Succeeded at 0 of 1 aggregates."], 2) := by decide +kernel
  obtain ⟨report, hreport, htold⟩ := run_of_told hrun
  obtain ⟨hlines, hcount⟩ := Prod.mk.inj htold
  have hlength := h _ _ _ _ report hreport
  rw [hlines, hcount] at hlength
  cases hlength

end Engine

end Federation
