/-
  Federation.Proofs.Answer.Gathering
  ──────────────────────────────────
  **NOTHING IS LOST IN THE PASS.**

  The pass over the outcomes keeps tables, lists and counts at once.  Each of
  them comes out as what a reader would make of all outcomes together: the
  counts are those of the classes, missing is what is missing anywhere, in
  the order in which it was first seen, and of the errors of one sliver the
  one of the last aggregate counts.

  Main results:
    * `gather_eq` — what is gathered is what the report tells;
    * `faithful_gather` — what a reader learns from what was gathered;
    * `gathered_faithfully` — the same of whatever is entered.
-/
import Federation.Answer.Gathering
import Federation.Proofs.Answer.Reconciliation
import Federation.Proofs.Answer.Report

namespace Federation.Answer

open Call (Visit)

/-! ## §1. The pass. -/

namespace Gathering

/-- To note slivers is to add those that were not noted yet, each once. -/
theorem foldl_note (ss noted : List String) :
    ss.foldl note noted = noted ++ (once ss).filter fun s => !noted.contains s := by
  induction ss generalizing noted with
  | nil => exact (List.append_nil noted).symm
  | cons s ss ih =>
      rw [List.foldl_cons, ih, once]
      unfold note
      by_cases hs : noted.contains s = true
      · -- A sliver that was noted is passed over wherever it stands.
        rw [if_pos hs, List.filter_cons_of_neg (by rw [hs]; decide), List.filter_filter]
        congr 1
        refine List.filter_congr fun t _ => ?_
        by_cases ht : t = s
        · rw [ht, hs, Bool.not_true, Bool.false_and]
        · rw [decide_eq_true ht, Bool.and_true]
      · rw [if_neg hs, List.filter_cons_of_pos (by rw [Bool.not_eq_true] at hs; rw [hs]; rfl),
          List.append_assoc, List.singleton_append, List.filter_filter]
        congr 2
        refine List.filter_congr fun t _ => ?_
        rw [Bool.eq_iff_iff]
        simp

/-- To count an outcome and then others is to count them all. -/
theorem count_cons (c : OutcomeClass) (o : EndpointOutcome) (os : List EndpointOutcome) (n : Nat) :
    (if o.outcome = c then n + 1 else n) + (os.countP fun o => o.outcome == c)
      = n + ((o :: os).countP fun o => o.outcome == c) := by
  rw [List.countP_cons]
  by_cases h : o.outcome = c
  · rw [if_pos h, if_pos (beq_iff_eq.2 h)]
    omega
  · rw [if_neg h, if_neg (mt beq_iff_eq.1 h)]
    rfl

/-- **What the pass has made of outcomes**, from whatever was gathered before. -/
theorem foldl_add (os : List EndpointOutcome) (g : Gathering) :
    os.foldl add g =
      { byUrl := g.byUrl.insertAll (os.map fun o => (o.visit.slot.url, o))
        missing := (os.flatMap EndpointOutcome.missing).foldl note g.missing
        failed := g.failed.insertAll (os.flatMap EndpointOutcome.failed)
        successes := g.successes + os.countP fun o => o.outcome == .success
        partials := g.partials + os.countP fun o => o.outcome == .partialSuccess
        total := g.total
        order := g.order ++ os.map (·.visit.slot.url) } := by
  induction os generalizing g with
  | nil => simp [Keyed.insertAll]
  | cons o os ih =>
      rw [List.foldl_cons, ih]
      simp only [add, count_cons, List.map_cons, List.flatMap_cons, List.foldl_append,
        Keyed.insertAll, List.foldl_cons, List.append_assoc, List.singleton_append]

end Gathering

/-- **What is gathered is what the report tells.** -/
theorem Report.gather_eq (r : Report) :
    r.gather = ⟨r.byUrl, r.missing, r.failed, r.count .success, r.count .partialSuccess, r.total,
      r.outcomes.map (·.visit.slot.url)⟩ := by
  have hnoted : (r.outcomes.flatMap EndpointOutcome.missing).foldl Gathering.note []
      = r.missing := by
    rw [Gathering.foldl_note, List.nil_append]
    exact List.filter_eq_self.2 fun _ _ => rfl
  unfold gather
  rw [Gathering.foldl_add]
  simp only [Gathering.start, Nat.zero_add, List.nil_append, hnoted]
  rfl

/-! ## §2. What a reader learns. -/

/-- **Whether what was gathered tells of the outcomes**: of all of them, each under its URL and in
order, with what is missing or failed anywhere. -/
structure Gathering.Faithful (g : Gathering) (outcomes : List EndpointOutcome) : Prop where
  total : g.total = outcomes.length
  size : g.byUrl.length = outcomes.length
  keys : g.byUrl.keys.Perm (outcomes.map (·.visit.slot.url))
  found : ∀ o ∈ outcomes, g.byUrl.get? o.visit.slot.url = some o
  inOrder : g.inOrder = outcomes
  successes : g.successes = outcomes.countP fun o => o.outcome == .success
  partials : g.partials = outcomes.countP fun o => o.outcome == .partialSuccess
  addUp : g.successes + g.partials + (outcomes.countP fun o => o.outcome == .failure) = g.total
  allSucceeded : g.allSucceeded = true ↔ ∀ o ∈ outcomes, o.outcome = .success
  /-- Missing is what is missing anywhere, in the order in which it is first seen. -/
  missing : FirstSeen (outcomes.flatMap EndpointOutcome.missing) (fun _ => True) g.missing
  missingOnce : g.missing.Nodup
  failing : ∀ urn, urn ∈ g.failed.keys ↔ ∃ o ∈ outcomes, urn ∈ o.failed.keys
  failingOnce : g.failed.keys.Nodup
  /-- Of several errors of one sliver the last aggregate's counts. -/
  errors : ∀ urn error, g.failed.get? urn = some error ↔
    LastSays (fun o => o.failed.get? urn) outcomes error

/-- Everything that is missing anywhere, in the order in which it is first seen. -/
theorem firstSeen_missing (r : Report) :
    FirstSeen (r.outcomes.flatMap EndpointOutcome.missing) (fun _ => True) r.missing where
  mem := fun s => by
    unfold Report.missing
    rw [mem_once, and_iff_left trivial]
  order := once_order _

/-- **What a reader learns** from what was gathered of slots with different URLs. -/
theorem faithful_gather {r : Report} (different : (r.outcomes.map (·.visit.slot.url)).Nodup)
    (tables : ∀ o ∈ r.outcomes, o.failed.Ascending) : r.gather.Faithful r.outcomes := by
  have hslots : (r.outcomes.map (·.visit.slot)).Pairwise fun a b => a.url ≠ b.url := by
    unfold List.Nodup at different
    rw [List.pairwise_map] at different ⊢
    exact different
  have htells := Report.tells_of_slots rfl hslots
  have hkeys : r.byUrl.keys.Perm (r.outcomes.map (·.visit.slot.url)) := by
    have hperm := htells.keys
    rwa [List.map_map] at hperm
  have hsize : r.byUrl.length = r.outcomes.length := by
    have hlength := hkeys.length_eq
    unfold Keyed.keys at hlength
    rwa [List.length_map, List.length_map] at hlength
  rw [Report.gather_eq]
  exact {
    total := rfl
    size := hsize
    keys := hkeys
    found := htells.found
    inOrder := by
      show (r.outcomes.map (·.visit.slot.url)).filterMap r.byUrl.get? = r.outcomes
      rw [List.filterMap_map]
      exact htells.inOrder
    successes := rfl
    partials := rfl
    addUp := r.counts_add_up
    allSucceeded := by
      show (r.count .success == r.total) = true ↔ _
      unfold Report.count Report.total
      rw [beq_iff_eq, List.countP_eq_length]
      exact forall₂_congr fun o _ => beq_iff_eq
    missing := firstSeen_missing r
    missingOnce := (firstSeen_missing r).nodup
    failing := fun urn => by
      unfold Report.failed
      rw [Keyed.mem_keys_ofPairs, List.map_flatMap, List.mem_flatMap]
      rfl
    failingOnce := Keyed.nodup_keys (Keyed.ascending_ofPairs _)
    errors := Keyed.get?_ofPairs_flatMap tables }

/-! ## §3. What is entered. -/

theorem ascending_failed_reconcile (value : Option Json) (requested : List String) :
    (reconcile value requested).failed.Ascending := by
  unfold reconcile
  split
  · exact .nil
  · exact Keyed.ascending_ofPairs _

theorem value_of_strict_fault {version : Nat} {reply : Json}
    (h : (unwrap .strict version reply).failure ≠ none) :
    (unwrap .strict version reply).value = none := by
  unfold unwrap at h ⊢
  by_cases hbare : version < envelopeVersion
  · rw [if_pos hbare] at h
    exact absurd rfl h
  · rw [if_neg hbare] at h ⊢
    unfold openEnvelope at h ⊢
    cases hcode : codeOf reply with
    | error fault => rfl
    | ok found =>
        obtain ⟨code, n⟩ := found
        rw [hcode] at h
        -- Zero is no failure, and any other code drops the value.
        by_cases hn : n = 0
        · exact absurd (if_pos hn) h
        · exact if_neg (by simp [hn])

/-- **In strict mode a failure leaves no value.** -/
theorem value_of_strict_failure {version : Nat} {response : Call.Response}
    (h : (normalise .strict version response).failure ≠ none) :
    (normalise .strict version response).value = none := by
  cases response with
  | skipped reason => rfl
  | failed failure => rfl
  | probed capabilities fromCache => exact absurd rfl h
  | replied reply => exact value_of_strict_fault h

/-- **Whatever is entered is gathered faithfully.**  After any parts of slots with different URLs
were entered one after another, every part is there, in order and under its URL, the counts
are those of the classes, and missing and failed are what they are anywhere.  A result with
a failure is a failure, and without a value, as in strict mode, it misses nothing and nothing
has failed in it. -/
theorem gathered_faithfully (o : Operation) (version : Nat) (message : Option String)
    (requested : List String) (parts : List (Visit × Result))
    (different : (parts.map (·.1.slot.url)).Nodup) :
    let r := parts.foldl (Report.enter requested) (.blank o version message)
    r.outcomes.map (fun x => (x.visit, x.result)) = parts ∧
      r.gather.Faithful r.outcomes ∧
      (o.reportsResources = false → r.gather.missing = []) ∧
      (∀ x ∈ r.outcomes, x.result.failure ≠ none →
        x.outcome = .failure ∧ (x.result.value = none → x.missing = [] ∧ x.failed = [])) ∧
      (∀ calledAt response, (normalise .strict calledAt response).failure ≠ none →
        (normalise .strict calledAt response).value = none) := by
  intro r
  have houtcomes : r.outcomes = parts.map fun part =>
      outcomeOf (comparedSlivers o requested) part.1 part.2 := by
    show (parts.foldl (Report.enter requested) (.blank o version message)).outcomes = _
    rw [Report.foldl_enter]
    rfl
  -- Each outcome is that of one part.
  have hmade : ∀ x ∈ r.outcomes, ∃ visit result,
      x = outcomeOf (comparedSlivers o requested) visit result := by
    intro x hx
    rw [houtcomes] at hx
    obtain ⟨⟨visit, result⟩, -, rfl⟩ := List.mem_map.1 hx
    exact ⟨visit, result, rfl⟩
  have hurls : r.outcomes.map (·.visit.slot.url) = parts.map (·.1.slot.url) := by
    rw [houtcomes, List.map_map]
    rfl
  have hfaithful : r.gather.Faithful r.outcomes := by
    refine faithful_gather (hurls ▸ different) fun x hx => ?_
    obtain ⟨visit, result, rfl⟩ := hmade x hx
    exact ascending_failed_reconcile _ _
  refine ⟨?_, hfaithful, fun hsilent => ?_, fun x hx hfailure => ?_,
    fun calledAt response => value_of_strict_failure⟩
  · rw [houtcomes, List.map_map]
    exact List.map_id parts
  · -- Nothing is compared, so nothing is missing anywhere.
    refine List.eq_nil_iff_forall_not_mem.2 fun urn hurn => ?_
    obtain ⟨x, hx, hmissing⟩ := List.mem_flatMap.1 ((hfaithful.missing.mem urn).1 hurn).1
    obtain ⟨visit, result, rfl⟩ := hmade x hx
    have hcompared : comparedSlivers o requested = [] := if_neg (by rw [hsilent]; decide)
    have hmissing : urn ∈ (reconcile result.value (comparedSlivers o requested)).missing := hmissing
    rw [hcompared, missing_reconcile_nil] at hmissing
    cases hmissing
  · obtain ⟨visit, result, rfl⟩ := hmade x hx
    refine ⟨outcomeOf_of_failure _ visit (Option.isSome_iff_ne_none.2 hfailure), fun hvalue => ?_⟩
    have hnone : result.value = none := hvalue
    unfold outcomeOf
    rw [hnone]
    exact ⟨rfl, rfl⟩

namespace Roundup

/-- A visit to an aggregate without a name. -/
def visit (url : String) : Visit :=
  ⟨⟨Endpoint.unspecifiedUrn, url, none, none⟩, none, false, .replied .null, []⟩

/-- A reply in which one sliver has an error and others are there. -/
def reply (error : String) (others : List String) : Json :=
  .object [("geni_slivers", .array (
    .object [("geni_error", .string error), ("geni_sliver_urn", .string "urn:b")] ::
      others.map fun urn => .object [("geni_sliver_urn", .string urn)]))]

/-- An aggregate that did a part of it, one that reports an error beside a value, and one that was
not called. -/
def parts : List (Visit × Result) :=
  [(visit "http://[::2]", ⟨some (reply "down" []), none, none, false⟩),
    (visit "http://[::1]", ⟨some (reply "lost" ["urn:a"]), some (.reported 2 none none none), none,
      false⟩),
    (visit "http://[::3]", .ofFailure (.skipped .aborted))]

/-- The report on a request in which one sliver is asked for twice. -/
def report (o : Operation) : Report :=
  parts.foldl (Report.enter ["urn:c", "urn:a", "urn:c"]) (.blank o 3 none)

end Roundup

/-- One of three succeeded in part; the error is the later one, and two slivers are missing, each
once, unless the operation does not report slivers. -/
theorem gathered_roundup :
    (Roundup.parts.map (·.1.slot.url)).Nodup ∧
      (Roundup.report .status).gather.Faithful (Roundup.report .status).outcomes ∧
      (Roundup.report .status).gather.partials = 1 ∧
      (Roundup.report .status).gather.missing = ["urn:c", "urn:a"] ∧
      (Roundup.report .status).gather.failed = [("urn:b", "lost")] ∧
      (∀ x ∈ (Roundup.report .status).outcomes, x.result.failure ≠ none → x.outcome = .failure) ∧
      (normalise .strict 3 (.skipped .aborted)).value = none ∧
      (Roundup.report .shutdown).gather.missing = [] := by
  have hdifferent : (Roundup.parts.map (·.1.slot.url)).Nodup := by decide
  obtain ⟨-, hfaithful, -, hfailed, hstrict⟩ := gathered_faithfully .status 3 none
    ["urn:c", "urn:a", "urn:c"] Roundup.parts hdifferent
  obtain ⟨-, -, hsilent, -, -⟩ := gathered_faithfully .shutdown 3 none
    ["urn:c", "urn:a", "urn:c"] Roundup.parts hdifferent
  exact ⟨hdifferent, hfaithful, by decide, by decide, by decide,
    fun x hx hfailure => (hfailed x hx hfailure).1,
    hstrict 3 (.skipped .aborted) nofun, hsilent rfl⟩

end Federation.Answer
