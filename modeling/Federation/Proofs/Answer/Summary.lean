/-
  Federation.Proofs.Answer.Summary
  ────────────────────────────────
  **THE LINES OF A SUMMARY.**

  A summary has a line for each aggregate, between the fleet's message and
  the tally.  Most of what is written there is the library's own, and is one
  line.  The rest are words of others: nicknames, what a transport or an
  aggregate says of a failure, the names of slivers and their errors.  They
  are written as they are, so where one of them has a line end the aggregate
  has more than one line.

  Main results:
    * `oneLine_line_iff` — which aggregates have one line;
    * `lined_of_oneLine` — the lines of a whole summary.
-/
import Federation.Answer.Report
import Federation.Proofs.Text.Lines

namespace Federation

open Text (OneLine commaList length_flatMap_lines_iff flatMap_lines_of_oneLine lines_intercalate
  lines_of_oneLine oneLine_append oneLine_nat)

/-! ## §1. Words of others. -/

namespace Call

/-- The words in a reason that are not the library's own. -/
def SkipReason.words : SkipReason → List String
  | .transport failure => [failure.message]
  | .malformedCapabilities detail => [detail]
  | .versionMismatch _ _ => []
  | .operationUnavailable _ _ => []
  | .unsupportedFormat requested advertised => [requested, advertised]
  | .incompatibleRequest _ detail => [detail]
  | .aborted => []

/-- The words in a failure that are not the library's own. -/
def Failure.words : Failure → List String
  | .skipped reason => reason.words
  | .transport failure => [failure.message]
  | .malformedResponse detail => [detail]
  | .reported _ family _ output => family.toList ++ output.toList

theorem oneLine_name (o : Operation) : OneLine o.name := by
  cases o <;> decide

theorem SkipReason.oneLine_text_iff (reason : SkipReason) :
    OneLine reason.text ↔ ∀ word ∈ reason.words, OneLine word := by
  cases reason with
  | operationUnavailable o v =>
      unfold text words
      simp +decide [oneLine_name]
  | _ =>
      unfold text words
      simp +decide

theorem Failure.oneLine_familyText_iff (family : Option String) (code : Option Int) :
    OneLine (familyText family code) ↔ ∀ word ∈ family.toList, OneLine word := by
  cases family <;> cases code <;> simp +decide [familyText]

/-- The words of an aggregate are left out only where there are none. -/
theorem Failure.oneLine_outputText_iff (output : Option String) :
    OneLine (outputText output) ↔ ∀ word ∈ output.toList, OneLine word := by
  cases output with
  | none => simp +decide
  | some words =>
      have hwords : OneLine (outputText (some words)) ↔ OneLine words := by
        show OneLine (if words.isEmpty then "" else ": " ++ words) ↔ OneLine words
        split
        · rename_i hempty
          rw [String.isEmpty_iff.1 hempty]
        · simp +decide
      rw [hwords]
      simp

theorem Failure.oneLine_text_iff (f : Failure) :
    OneLine f.text ↔ ∀ word ∈ f.words, OneLine word := by
  cases f with
  | skipped reason =>
      have hwords : OneLine ("skipped: " ++ reason.text) ↔ OneLine reason.text := by simp +decide
      exact hwords.trans reason.oneLine_text_iff
  | transport failure => exact List.forall_mem_singleton.symm
  | malformedResponse detail =>
      unfold text words
      simp +decide
  | reported code family familyCode output =>
      unfold text words
      rw [oneLine_append, oneLine_append, oneLine_append, Failure.oneLine_familyText_iff,
        Failure.oneLine_outputText_iff, List.forall_mem_append]
      simp +decide

end Call

/-! ## §2. One aggregate. -/

/-- The label of an endpoint is one line where its nickname is. -/
theorem Endpoint.oneLine_label_iff {e : Endpoint} (h : OneLine e.url) :
    OneLine e.label ↔ ∀ word ∈ e.nickname.toList, OneLine word := by
  unfold label
  cases e.nickname <;> simp +decide [h]

namespace Answer.EndpointOutcome

/-- The words about a failure that are written. -/
def failureWords (o : EndpointOutcome) : List String :=
  match o.outcome, o.result.failure with
  | .failure, some f => f.words
  | _, _ => []

/-- **The words of others in an aggregate's line.** -/
def words (o : EndpointOutcome) : List String :=
  o.visit.slot.nickname.toList ++ o.failureWords ++ o.missing
    ++ o.failed.flatMap fun (urn, error) => [urn, error]

theorem oneLine_verdict_iff (o : EndpointOutcome) :
    OneLine o.verdict ↔ ∀ word ∈ o.failureWords, OneLine word := by
  unfold verdict failureWords Result.errorDetail
  cases o.outcome with
  | success => simp +decide
  | partialSuccess => simp +decide
  | failure =>
      cases o.result.failure with
      | none => simp +decide
      | some f => exact f.oneLine_text_iff

theorem oneLine_versionText (o : EndpointOutcome) : OneLine o.versionText := by
  unfold versionText
  split
  · decide
  · split <;> simp +decide

theorem oneLine_detourText {o : EndpointOutcome}
    (h : ∀ e, o.visit.called = some e → OneLine e.url) : OneLine o.detourText := by
  unfold detourText
  split
  · split
    · rename_i e hcalled
      exact oneLine_append.2 ⟨by decide, h e hcalled⟩
    · decide
  · decide

theorem oneLine_missingText_iff (o : EndpointOutcome) :
    OneLine o.missingText ↔ ∀ word ∈ o.missing, OneLine word := by
  unfold missingText
  cases o.missing with
  | nil => simp +decide
  | cons urn rest =>
      have hlist : OneLine ("; missing " ++ commaList (urn :: rest)) ↔
          OneLine (commaList (urn :: rest)) := by simp +decide
      exact hlist.trans Text.oneLine_commaList

theorem oneLine_failedText_iff (o : EndpointOutcome) :
    OneLine o.failedText ↔
      ∀ word ∈ o.failed.flatMap fun (urn, error) => [urn, error], OneLine word := by
  unfold failedText
  have hentry : ∀ entry : String × String, OneLine (entry.1 ++ " (" ++ entry.2 ++ ")") ↔
      ∀ word ∈ [entry.1, entry.2], OneLine word := by
    intro entry
    simp +decide
  cases o.failed with
  | nil => simp +decide
  | cons entry rest =>
      have hlist : ∀ ss : List String,
          OneLine ("; failed " ++ commaList ss) ↔ ∀ s ∈ ss, OneLine s := by
        intro ss
        simp +decide
      show OneLine ("; failed " ++ commaList _) ↔ _
      rw [hlist, List.forall_mem_map, List.forall_mem_flatMap]
      exact forall₂_congr fun entry _ => hentry entry

/-- **An aggregate has one line** exactly where all words of others are one line. -/
theorem oneLine_line_iff {o : EndpointOutcome} (hslot : OneLine o.visit.slot.url)
    (hcalled : ∀ e, o.visit.called = some e → OneLine e.url) :
    OneLine o.line ↔ ∀ word ∈ o.words, OneLine word := by
  have hcolon : OneLine ": " := by decide
  unfold line words
  rw [oneLine_append, oneLine_append, oneLine_append, oneLine_append, oneLine_append,
    oneLine_append, Endpoint.oneLine_label_iff hslot, oneLine_verdict_iff,
    and_iff_left hcolon, and_iff_left o.oneLine_versionText,
    and_iff_left (oneLine_detourText hcalled), oneLine_missingText_iff, oneLine_failedText_iff,
    List.forall_mem_append, List.forall_mem_append, List.forall_mem_append]

/-- The line begins with the label of the slot. -/
theorem line_eq (o : EndpointOutcome) : ∃ rest, o.line = o.visit.slot.label ++ ": " ++ rest := by
  refine ⟨o.verdict ++ o.versionText ++ o.detourText ++ o.missingText ++ o.failedText, ?_⟩
  unfold line
  simp only [String.append_assoc]

end Answer.EndpointOutcome

/-! ## §3. A whole summary. -/

namespace Answer.Report

/-- Whether no word of others in a report has a line end. -/
def Unbroken (r : Report) : Prop := ∀ o ∈ r.outcomes, ∀ word ∈ o.words, OneLine word

/-- **The lines of a summary.** -/
structure Lined (r : Report) : Prop where
  /-- The fleet's message, what is said of each aggregate, and the tally. -/
  lines : Text.lines r.summary = r.fleetMessage.toList
    ++ r.outcomes.flatMap (fun o => Text.lines o.line)
    ++ ["Succeeded at " ++ toString (r.count .success) ++ " of " ++ toString r.total
      ++ " aggregates."]
  labels : ∀ o ∈ r.outcomes, ∃ rest, o.line = o.visit.slot.label ++ ": " ++ rest
  /-- There is a line for each aggregate, beside the message and the tally. -/
  length_iff : (Text.lines r.summary).length = r.total + 1 + r.fleetMessage.toList.length ↔
    r.Unbroken
  one : r.Unbroken → r.outcomes.flatMap (fun o => Text.lines o.line)
    = r.outcomes.map EndpointOutcome.line

theorem oneLine_tally (r : Report) : OneLine r.tally := by
  unfold tally
  simp +decide

/-- Message and tally are lines of their own. -/
theorem lines_summary {r : Report} (hmessage : ∀ message ∈ r.fleetMessage.toList, OneLine message)
    (horder : r.inOrder = r.outcomes) :
    Text.lines r.summary = r.fleetMessage.toList
      ++ (r.outcomes.map EndpointOutcome.line).flatMap Text.lines ++ [r.tally] := by
  have hne : r.lines ≠ [] := by
    intro hnil
    cases (List.append_eq_nil_iff.1 hnil).2
  unfold summary
  rw [lines_intercalate hne]
  unfold Report.lines
  rw [horder, List.flatMap_append, List.flatMap_append, flatMap_lines_of_oneLine hmessage,
    List.flatMap_singleton, lines_of_oneLine r.oneLine_tally]

/-- **The lines of a summary**, where the addresses and the message in it are one line. -/
theorem lined_of_oneLine {r : Report}
    (hmessage : ∀ message ∈ r.fleetMessage.toList, OneLine message)
    (horder : r.inOrder = r.outcomes) (hslot : ∀ o ∈ r.outcomes, OneLine o.visit.slot.url)
    (hcalled : ∀ o ∈ r.outcomes, ∀ e, o.visit.called = some e → OneLine e.url) : r.Lined := by
  -- Message and tally are one line each, so only the aggregates' own lines are to be counted.
  have hlines := lines_summary hmessage horder
  have hflat : (r.outcomes.map EndpointOutcome.line).flatMap Text.lines
      = r.outcomes.flatMap fun o => Text.lines o.line := List.flatMap_map ..
  have hunbroken : (∀ s ∈ r.outcomes.map EndpointOutcome.line, OneLine s) ↔ r.Unbroken := by
    rw [List.forall_mem_map]
    exact forall₂_congr fun o ho =>
      EndpointOutcome.oneLine_line_iff (hslot o ho) (hcalled o ho)
  refine ⟨?_, fun o _ => o.line_eq, ?_, fun h => ?_⟩
  · rw [hlines, hflat]
    rfl
  · rw [hlines, ← hunbroken, ← length_flatMap_lines_iff, List.length_append, List.length_append,
      List.length_singleton, List.length_map]
    unfold total
    omega
  · rw [← hflat]
    exact flatMap_lines_of_oneLine (hunbroken.2 h)

end Answer.Report

end Federation
