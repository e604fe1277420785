/-
  Federation.Proofs.Answer.Words
  ──────────────────────────────
  **OUTCOMES THAT DIFFER IN WORDS.**

  Visits are akin when they are the same apart from the words for a probe
  that failed and those of warnings.  All that a report counts and gathers is
  then the same, and none of it depends on the order of the outcomes, except
  for the words of an error that one sliver has at several aggregates.

  Main results:
    * `akin_outcomeOf` — visits that are akin have outcomes that are;
    * `agree_of_perm` — reports on outcomes that are akin, in different
      orders.
-/
import Federation.Proofs.Answer.Report
import Federation.Proofs.Workers
import Mathlib.Data.List.Nodup

namespace Federation

/-! ## §1. Visits and outcomes. -/

namespace Call

/-- Whether responses are the same, except for the words for a probe that
failed. -/
def Response.Akin (r r' : Response) : Prop :=
  r = r' ∨ ∃ f f', r = .skipped (.transport f) ∧ r' = .skipped (.transport f') ∧ f.kind = f'.kind

/-- **Whether visits are the same, except for words.** -/
structure Visit.Akin (v v' : Visit) : Prop where
  slot : v.slot = v'.slot
  called : v.called = v'.called
  redirected : v.redirected = v'.redirected
  response : v.response.Akin v'.response

theorem Visit.Akin.refl (v : Visit) : v.Akin v := ⟨rfl, rfl, rfl, .inl rfl⟩

end Call

namespace Answer

open Call (Visit)

/-- Whether results are the same, except for the words for a probe that
failed. -/
def Result.Akin (r r' : Result) : Prop :=
  r = r' ∨ ∃ f f' : Call.TransportFailure, r = .ofFailure (.skipped (.transport f)) ∧
    r' = .ofFailure (.skipped (.transport f')) ∧ f.kind = f'.kind

/-- **Whether outcomes are the same, except for words.** -/
structure EndpointOutcome.Akin (o o' : EndpointOutcome) : Prop where
  visit : o.visit.Akin o'.visit
  result : o.result.Akin o'.result
  outcome : o.outcome = o'.outcome
  missing : o.missing = o'.missing
  failed : o.failed = o'.failed
  records : o.records = o'.records

/-- **Visits that are akin have outcomes that are.** -/
theorem akin_outcomeOf (compared : List String) (mode : Mode) (version : Nat) {v v' : Visit}
    (h : v.Akin v') :
    (outcomeOf compared v (normalise mode (v.version.getD version) v.response)).Akin
      (outcomeOf compared v' (normalise mode (v'.version.getD version) v'.response)) := by
  have hversion : v.version = v'.version := by
    unfold Visit.version
    rw [h.called]
  have hresult : (normalise mode (v.version.getD version) v.response).Akin
      (normalise mode (v'.version.getD version) v'.response) := by
    rcases h.response with hsame | ⟨f, f', hv, hv', hkind⟩
    · rw [hversion, hsame]
      exact .inl rfl
    · rw [hv, hv']
      exact .inr ⟨f, f', rfl, rfl, hkind⟩
  generalize normalise mode (v.version.getD version) v.response = r at hresult
  generalize normalise mode (v'.version.getD version) v'.response = r' at hresult
  -- Neither result has a value where they differ, so nothing is compared.
  rcases hresult with rfl | ⟨f, f', rfl, rfl, hkind⟩
  · exact ⟨h, .inl rfl, rfl, rfl, rfl, rfl⟩
  · exact ⟨h, .inr ⟨f, f', rfl, rfl, hkind⟩, rfl, rfl, rfl, rfl⟩

/-! ## §2. Reports. -/

namespace Report

/-- **Whether two reports tell the same**, in whatever order and words: of the
same aggregates, with the same counts, and with the same slivers that are
missing or failed. -/
structure Agree (r r' : Report) : Prop where
  version : r.version = r'.version
  message : r.fleetMessage = r'.fleetMessage
  counts : ∀ c, r.count c = r'.count c
  missing : ∀ urn, urn ∈ r.missing ↔ urn ∈ r'.missing
  failed : ∀ urn, urn ∈ r.failed.keys ↔ urn ∈ r'.failed.keys
  urls : ∀ url, url ∈ r.byUrl.keys ↔ url ∈ r'.byUrl.keys
  akin : ∀ url o o', r.byUrl.get? url = some o → r'.byUrl.get? url = some o' → o.Akin o'

theorem mem_missing {r : Report} {urn : String} :
    urn ∈ r.missing ↔ ∃ o ∈ r.outcomes, urn ∈ o.missing := by
  unfold missing
  rw [mem_once, List.mem_flatMap]

theorem mem_failed {r : Report} {urn : String} :
    urn ∈ r.failed.keys ↔ ∃ o ∈ r.outcomes, urn ∈ o.failed.keys := by
  unfold failed
  rw [Keyed.mem_keys_ofPairs, List.map_flatMap, List.mem_flatMap]
  rfl

theorem mem_byUrl {r : Report} {url : String} :
    url ∈ r.byUrl.keys ↔ ∃ o ∈ r.outcomes, o.visit.slot.url = url := by
  unfold byUrl
  rw [Keyed.mem_keys_ofPairs, List.map_map, List.mem_map]
  rfl

/-- What is found at a URL is an outcome there. -/
theorem mem_of_byUrl {r : Report} {url : String} {o : EndpointOutcome}
    (h : r.byUrl.get? url = some o) : o ∈ r.outcomes ∧ o.visit.slot.url = url := by
  unfold byUrl at h
  rw [Keyed.get?_ofPairs] at h
  have hmem := List.mem_reverse.1 (Keyed.mem_of_get? h)
  obtain ⟨o', ho', heq⟩ := List.mem_map.1 hmem
  obtain ⟨hurl, rfl⟩ := Prod.mk.inj heq
  exact ⟨ho', hurl⟩

section

variable {r r' : Report} {outcomes : List EndpointOutcome}

theorem countP_of_akin {os os' : List EndpointOutcome}
    (akin : List.Forall₂ EndpointOutcome.Akin os os') (c : OutcomeClass) :
    (os.countP fun o => o.outcome == c) = os'.countP fun o => o.outcome == c := by
  induction akin with
  | nil => rfl
  | cons h _ ih => rw [List.countP_cons, List.countP_cons, ih, h.outcome]

/-- **Of outcomes in another order**, those at one URL belong together. -/
theorem both_byUrl {R : EndpointOutcome → EndpointOutcome → Prop}
    (hR : ∀ {o o'}, R o o' → o.visit.slot.url = o'.visit.slot.url)
    (related : List.Forall₂ R r.outcomes outcomes) (perm : outcomes.Perm r'.outcomes)
    (different : (r'.outcomes.map (·.visit.slot.url)).Nodup) {url : String}
    {o o' : EndpointOutcome} (ho : r.byUrl.get? url = some o)
    (ho' : r'.byUrl.get? url = some o') : R o o' := by
  obtain ⟨hmem, hurl⟩ := mem_of_byUrl ho
  obtain ⟨hmem', hurl'⟩ := mem_of_byUrl ho'
  obtain ⟨o'', hmem'', h⟩ := exists_left_of_mem related.flip hmem
  -- There is one outcome at the URL only.
  have hsame : o''.visit.slot.url = o'.visit.slot.url := by rw [← hR h, hurl, hurl']
  obtain rfl := List.inj_on_of_nodup_map different (perm.subset hmem'') hmem' hsame
  exact h

/-- **Reports on outcomes that are akin, in different orders**, agree. -/
theorem agree_of_perm (version : r.version = r'.version)
    (message : r.fleetMessage = r'.fleetMessage)
    (akin : List.Forall₂ EndpointOutcome.Akin r.outcomes outcomes)
    (perm : outcomes.Perm r'.outcomes)
    (different : (r'.outcomes.map (·.visit.slot.url)).Nodup) : r.Agree r' := by
  -- What outcomes that are akin have in common is told by both reports.
  have hboth : ∀ (P : EndpointOutcome → Prop), (∀ o o', o.Akin o' → (P o ↔ P o')) →
      ((∃ o ∈ r.outcomes, P o) ↔ ∃ o' ∈ r'.outcomes, P o') := by
    intro P hP
    constructor
    · rintro ⟨o, ho, h⟩
      obtain ⟨o', ho', hakin⟩ := exists_left_of_mem akin.flip ho
      exact ⟨o', perm.subset ho', (hP o o' hakin).1 h⟩
    · rintro ⟨o', ho', h⟩
      obtain ⟨o, ho, hakin⟩ := exists_left_of_mem akin (perm.symm.subset ho')
      exact ⟨o, ho, (hP o o' hakin).2 h⟩
  exact {
    version, message
    counts := fun c => (countP_of_akin akin c).trans (perm.countP_eq _)
    missing := fun urn => by
      rw [mem_missing, mem_missing]
      exact hboth (urn ∈ ·.missing) fun o o' h => by rw [h.missing]
    failed := fun urn => by
      rw [mem_failed, mem_failed]
      exact hboth (urn ∈ ·.failed.keys) fun o o' h => by rw [h.failed]
    urls := fun url => by
      rw [mem_byUrl, mem_byUrl]
      exact hboth (·.visit.slot.url = url) fun o o' h => by rw [h.visit.slot]
    akin := fun url o o' ho ho' =>
      both_byUrl (fun h => by rw [h.visit.slot]) akin perm different ho ho' }

/-- Where the same is found at each URL, the tables are the same. -/
theorem byUrl_ext (urls : ∀ url, url ∈ r.byUrl.keys ↔ url ∈ r'.byUrl.keys)
    (same : ∀ url o o', r.byUrl.get? url = some o → r'.byUrl.get? url = some o' → o = o') :
    r.byUrl = r'.byUrl := by
  refine Keyed.ext_of_ascending (Keyed.ascending_ofPairs _) (Keyed.ascending_ofPairs _)
    fun url => ?_
  show r.byUrl.get? url = r'.byUrl.get? url
  cases ho : r.byUrl.get? url with
  | none => exact (Keyed.get?_eq_none_iff.2 (mt (urls url).2 (Keyed.get?_eq_none_iff.1 ho))).symm
  | some o =>
      cases ho' : r'.byUrl.get? url with
      | none =>
          have hgone := Keyed.get?_eq_none_iff.2
            (mt (urls url).1 (Keyed.get?_eq_none_iff.1 ho'))
          cases ho.symm.trans hgone
      | some o' => rw [same url o o' ho ho']

end

end Report

end Answer

end Federation
