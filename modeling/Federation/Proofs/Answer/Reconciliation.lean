/-
  Federation.Proofs.Answer.Reconciliation
  ───────────────────────────────────────
  **WHAT IS MISSING AND WHAT FAILED.**

  Among the values of a reply some name a sliver, and of these some tell of
  an error.  What was asked for and is named by none of them is missing;
  what is named by one that tells of an error has failed, whatever others
  say of it.  So nothing is both, and a call succeeds where nothing is
  either.

  Main results:
    * `firstSeen_once_filter` — items are kept once, in the order in which
      they first occur;
    * `get?_failedIn` — of the errors of one sliver the last one counts;
    * `reconcile_partition` — a reply compared with what was asked for.
-/
import Federation.Answer.Sliver
import Federation.Proofs.Keyed

namespace Federation.Answer

/-! ## §1. First occurrences. -/

/-- **Whether these are the items with a property**, each of them once and in the order in which
they first occur in the list. -/
structure FirstSeen (ss : List String) (P : String → Prop) (found : List String) : Prop where
  mem : ∀ s, s ∈ found ↔ s ∈ ss ∧ P s
  order : found.Pairwise fun a b => ss.idxOf a < ss.idxOf b

theorem FirstSeen.nodup {ss found : List String} {P : String → Prop}
    (h : FirstSeen ss P found) : found.Nodup := by
  refine h.order.imp fun {a b} hlt heq => ?_
  rw [heq] at hlt
  exact Nat.lt_irrefl _ hlt

/-- It makes no difference whether items are dropped before or after. -/
theorem once_filter (p : String → Bool) (ss : List String) :
    once (ss.filter p) = (once ss).filter p := by
  induction ss with
  | nil => rfl
  | cons s ss ih =>
      rw [once]
      by_cases hs : p s = true
      · rw [List.filter_cons_of_pos hs, List.filter_cons_of_pos hs, once, ih, List.filter_filter,
          List.filter_filter]
        congr 1
        exact List.filter_congr fun t _ => Bool.and_comm _ _
      · -- An item that is dropped takes nothing with it but itself.
        rw [List.filter_cons_of_neg hs, List.filter_cons_of_neg hs, ih, List.filter_filter]
        refine List.filter_congr fun t _ => ?_
        by_cases ht : t = s
        · rw [ht, Bool.eq_false_iff.2 hs, Bool.false_and]
        · rw [decide_eq_true ht, Bool.and_true]

/-- Items that are kept once stand in the order of their first occurrences. -/
theorem once_order (ss : List String) :
    (once ss).Pairwise fun a b => ss.idxOf a < ss.idxOf b := by
  induction ss with
  | nil => exact .nil
  | cons s ss ih =>
      rw [once]
      refine List.pairwise_cons.2 ⟨fun t ht => ?_, ?_⟩
      · have hne : t ≠ s := of_decide_eq_true (List.mem_filter.1 ht).2
        rw [List.idxOf_cons_self, List.idxOf_cons_ne ss (Ne.symm hne)]
        exact Nat.succ_pos _
      · refine (ih.filter _).imp_of_mem fun {a b} ha hb hlt => ?_
        have hna : a ≠ s := of_decide_eq_true (List.mem_filter.1 ha).2
        have hnb : b ≠ s := of_decide_eq_true (List.mem_filter.1 hb).2
        rw [List.idxOf_cons_ne ss (Ne.symm hna), List.idxOf_cons_ne ss (Ne.symm hnb)]
        exact Nat.succ_lt_succ hlt

/-- **Items are kept once**, in the order in which they first occur. -/
theorem firstSeen_once_filter (p : String → Bool) (ss : List String) :
    FirstSeen ss (p · = true) (once (ss.filter p)) where
  mem := fun s => by rw [mem_once, List.mem_filter]
  order := by
    rw [once_filter]
    exact (once_order ss).filter p

/-! ## §2. Values that name slivers. -/

/-- The sliver that a value names: the text under the first of two keys that is not blank. -/
def identifierOf? (j : Json) : Option String :=
  (textAt? j "geni_sliver_urn").or (textAt? j "geni_urn")

/-- The error that a value tells of. -/
def errorOf? (j : Json) : Option String := textAt? j "geni_error"

/-- What a value says went wrong with a sliver. -/
def errorFor? (urn : String) (j : Json) : Option String :=
  if identifierOf? j = some urn then errorOf? j else none

/-- The text of a member is the one that is written there, trimmed, unless nothing is left. -/
theorem textAt?_eq_some_iff {j : Json} {key text : String} :
    textAt? j key = some text ↔
      ∃ raw, j.member? key = some (.string raw) ∧ Text.trim raw = text ∧ text ≠ "" := by
  unfold textAt?
  rw [Option.filter_eq_some_iff, Option.map_eq_some_iff]
  constructor
  · rintro ⟨⟨raw, hraw, rfl⟩, hne⟩
    obtain ⟨value, hvalue, hread⟩ := Option.bind_eq_some_iff.1 hraw
    cases value <;> cases hread
    exact ⟨raw, hvalue, rfl, by simpa [String.isEmpty_iff] using hne⟩
  · rintro ⟨raw, hraw, rfl, hne⟩
    refine ⟨⟨raw, ?_, rfl⟩, by simpa [String.isEmpty_iff] using hne⟩
    rw [hraw]
    rfl

/-- **A value makes a record exactly where it names a sliver.** -/
theorem urn_ofJson? (j : Json) :
    (SliverRecord.ofJson? j).map SliverRecord.urn = identifierOf? j := by
  unfold SliverRecord.ofJson? identifierOf?
  cases (textAt? j "geni_sliver_urn").or (textAt? j "geni_urn") <;> rfl

/-- The record of a value tells of the value's error. -/
theorem error_ofJson? (j : Json) :
    ((SliverRecord.ofJson? j).bind fun r => r.error.map fun e => (r.urn, e))
      = (identifierOf? j).bind fun urn => (errorOf? j).map fun e => (urn, e) := by
  unfold SliverRecord.ofJson? identifierOf? errorOf?
  cases (textAt? j "geni_sliver_urn").or (textAt? j "geni_urn") <;> rfl

theorem map_urn_recordsIn (v : Json) :
    (recordsIn v).map SliverRecord.urn = (recordValues v).filterMap identifierOf? := by
  unfold recordsIn
  rw [List.map_filterMap]
  exact List.filterMap_congr fun j _ => urn_ofJson? j

/-- What a value says of a sliver, among what it says of any. -/
theorem valueAt?_error (urn : String) (j : Json) :
    (((identifierOf? j).bind fun u => (errorOf? j).map fun e => (u, e)).bind
      (Keyed.valueAt? urn)) = errorFor? urn j := by
  unfold errorFor?
  cases identifierOf? j with
  | none => rfl
  | some u =>
      rw [Option.bind_some]
      cases errorOf? j with
      | none => exact (ite_self none).symm
      | some e =>
          show (if u = urn then some e else none) = if some u = some urn then some e else none
          simp only [Option.some.injEq]

/-- **Of the errors of one sliver the last one counts.** -/
theorem get?_failedIn (v : Json) (urn error : String) :
    (failedIn (recordsIn v)).get? urn = some error ↔
      LastSays (errorFor? urn) (recordValues v) error := by
  unfold failedIn recordsIn
  rw [List.filterMap_filterMap, Keyed.get?_ofPairs_filterMap]
  simp only [error_ofJson?, valueAt?_error]

/-- Failed is what is named by a value that tells of an error. -/
theorem mem_failedIn {v : Json} {urn : String} :
    urn ∈ (failedIn (recordsIn v)).keys ↔ ∃ j ∈ recordValues v, ∃ error,
      identifierOf? j = some urn ∧ errorOf? j = some error := by
  unfold failedIn recordsIn
  rw [Keyed.mem_keys_ofPairs, List.filterMap_filterMap, List.mem_map]
  simp only [error_ofJson?, List.mem_filterMap, Option.bind_eq_some_iff, Option.map_eq_some_iff]
  constructor
  · rintro ⟨_, ⟨j, hj, u, hu, error, herror, rfl⟩, rfl⟩
    exact ⟨j, hj, error, hu, herror⟩
  · rintro ⟨j, hj, error, hu, herror⟩
    exact ⟨(urn, error), ⟨j, hj, urn, hu, error, herror, rfl⟩, rfl⟩

/-! ## §3. A reply compared with what was asked for. -/

/-- **What a reply comes to** that says anything: some of what was asked for is missing, some of
what is named has failed, and the call succeeded where there is neither. -/
structure Partition (v : Json) (requested : List String) (r : Reconciliation) : Prop where
  identifiers : r.records.map SliverRecord.urn = (recordValues v).filterMap identifierOf?
  /-- Missing is what no record is for, each once and in the order of the request. -/
  missing : FirstSeen requested (fun urn => ∀ x ∈ r.records, x.urn ≠ urn) r.missing
  /-- Failed is what is named beside an error that is not blank. -/
  failing : ∀ urn, urn ∈ r.failed.keys ↔ ∃ j ∈ recordValues v, identifierOf? j = some urn ∧
    ∃ raw, j.member? "geni_error" = some (.string raw) ∧ Text.trim raw ≠ ""
  /-- The error is that of the last value with one. -/
  errors : ∀ urn error, r.failed.get? urn = some error ↔
    LastSays (errorFor? urn) (recordValues v) error
  ordered : r.failed.Ascending
  apart : ∀ urn ∈ r.missing, urn ∉ r.failed.keys
  success : r.outcome = .success ↔ r.missing = [] ∧ r.failed = []
  partialSuccess : r.outcome = .partialSuccess ↔ ¬(r.missing = [] ∧ r.failed = [])

/-- What is named beside an error is named. -/
theorem mem_identifiers_of_failed {v : Json} {urn : String}
    (h : urn ∈ (failedIn (recordsIn v)).keys) :
    urn ∈ (recordsIn v).map SliverRecord.urn := by
  obtain ⟨j, hj, -, hurn, -⟩ := mem_failedIn.1 h
  rw [map_urn_recordsIn]
  exact List.mem_filterMap.2 ⟨j, hj, hurn⟩

/-- The comparison of a value that says something. -/
theorem partition_of_value (v : Json) (requested : List String) :
    Partition v requested ⟨recordsIn v, missingFrom (recordsIn v) requested,
      failedIn (recordsIn v),
      if (missingFrom (recordsIn v) requested).isEmpty && (failedIn (recordsIn v)).isEmpty
        then .success else .partialSuccess⟩ where
  identifiers := map_urn_recordsIn v
  missing := by
    have hseen := firstSeen_once_filter
      (fun urn => !((recordsIn v).map SliverRecord.urn).contains urn) requested
    exact ⟨fun urn => mem_missing_iff, hseen.order⟩
  failing := fun urn => by
    rw [mem_failedIn]
    refine exists_congr fun j => and_congr_right fun _ => ?_
    rw [exists_and_left]
    refine and_congr_right fun _ => ?_
    simp only [errorOf?, textAt?_eq_some_iff]
    constructor
    · rintro ⟨_, raw, hraw, rfl, hne⟩
      exact ⟨raw, hraw, hne⟩
    · rintro ⟨raw, hraw, hne⟩
      exact ⟨_, raw, hraw, rfl, hne⟩
  errors := get?_failedIn v
  ordered := Keyed.ascending_ofPairs _
  apart := fun urn hmissing hfailed => by
    obtain ⟨r, hr, hurn⟩ := List.mem_map.1 (mem_identifiers_of_failed hfailed)
    exact (mem_missing_iff.1 hmissing).2 r hr hurn
  success := by
    rw [← List.isEmpty_iff, ← List.isEmpty_iff, ← Bool.and_eq_true]
    split
    · exact iff_of_true rfl ‹_›
    · exact iff_of_false nofun ‹_›
  partialSuccess := by
    rw [← List.isEmpty_iff, ← List.isEmpty_iff, ← Bool.and_eq_true]
    split
    · exact iff_of_false nofun (not_not_intro ‹_›)
    · exact iff_of_true rfl ‹_›

/-- A value that says something is compared. -/
theorem reconcile_of_value {v : Json} (h : isEmptyAnswer (some v) = false)
    (requested : List String) : Partition v requested (reconcile (some v) requested) := by
  unfold reconcile
  rw [Option.filter_some, if_pos (by rw [h]; rfl)]
  exact partition_of_value v requested

/-- Where nothing in particular is asked for, nothing is missing. -/
theorem missing_reconcile_nil (value : Option Json) : (reconcile value []).missing = [] := by
  unfold reconcile
  split <;> rfl

/-- **A reply compared with what was asked for.**  Without a value, or with one that is null or
false, the call failed and nothing is missing or failed.  Any other value divides the
slivers: those asked for that no record is for are missing, those with an error have failed,
no sliver is both, and only where there are none the call succeeded.  Where nothing in
particular was asked for, nothing is missing. -/
theorem reconcile_partition (value : Option Json) (requested : List String) :
    (value = none ∨ value = some .null ∨ value = some (.bool false) →
      reconcile value requested = ⟨[], [], [], .failure⟩) ∧
    (∀ v, value = some v → v ≠ .null → v ≠ .bool false →
      Partition v requested (reconcile value requested)) ∧
    (requested = [] → (reconcile value requested).missing = []) := by
  refine ⟨?_, ?_, ?_⟩
  · rintro (rfl | rfl | rfl) <;> rfl
  · rintro v rfl hnull hfalse
    refine reconcile_of_value ?_ requested
    cases v with
    | null => exact absurd rfl hnull
    | bool b =>
        cases b with
        | true => rfl
        | false => exact absurd rfl hfalse
    | number n => rfl
    | string s => rfl
    | array items => rfl
    | object members => rfl
  · rintro rfl
    exact missing_reconcile_nil value

namespace Contradiction

/-- A sliver under either of two keys, with what is said of it. -/
def sliver (key urn error : String) : Json :=
  .object [("geni_error", .string error), (key, .string urn)]

/-- A reply that says two things of one sliver, names one with blanks around it, and none in its
last two values. -/
def reply : Json :=
  .object [("geni_slivers", .array [sliver "geni_urn" "urn:b" "down",
    sliver "geni_sliver_urn" " urn:a " "  ", sliver "geni_sliver_urn" "urn:b" " broken ",
    sliver "geni_urn" " " "lost", .string "urn:c"])]

/-- What was asked for, some of it twice. -/
def requested : List String := ["urn:c", "urn:a", "urn:c", "urn:b"]

end Contradiction

/-- One sliver is missing though it was asked for twice, and one failed with the last of its two
errors. -/
theorem reconcile_partition_contradiction :
    reconcile (some .null) Contradiction.requested = ⟨[], [], [], .failure⟩ ∧
      Contradiction.reply ≠ .null ∧ Contradiction.reply ≠ .bool false ∧
      Partition Contradiction.reply Contradiction.requested
        (reconcile (some Contradiction.reply) Contradiction.requested) ∧
      (reconcile (some Contradiction.reply) Contradiction.requested).missing = ["urn:c"] ∧
      (reconcile (some Contradiction.reply) Contradiction.requested).failed
        = [("urn:b", "broken")] ∧
      (reconcile (some Contradiction.reply) Contradiction.requested).outcome = .partialSuccess ∧
      (reconcile (some Contradiction.reply) []).missing = [] := by
  obtain ⟨hempty, -, -⟩ := reconcile_partition (some .null) Contradiction.requested
  obtain ⟨-, hpartition, -⟩ :=
    reconcile_partition (some Contradiction.reply) Contradiction.requested
  obtain ⟨-, -, hunasked⟩ := reconcile_partition (some Contradiction.reply) []
  exact ⟨hempty (.inr (.inl rfl)), nofun, nofun, hpartition _ rfl nofun nofun, by decide, by decide,
    by decide, hunasked rfl⟩

end Federation.Answer
