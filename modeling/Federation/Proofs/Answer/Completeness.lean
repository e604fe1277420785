/-
  Federation.Proofs.Answer.Completeness
  ─────────────────────────────────────
  **COMPLETE REPLIES.**

  A reply that names each sliver that was asked for, and tells of no error,
  is complete.  It succeeds where the slivers are asked for without outer
  blanks.  What a reply names is trimmed and what is asked for is not, so a
  sliver that is asked for with a blank at either end is missing although
  the reply names it in the very same words.

  Main results:
    * `unpadded_identifier` — what a value names has no outer blanks;
    * `complete_success_iff` — which complete replies succeed.
-/
import Federation.Proofs.Answer.Reconciliation
import Federation.Proofs.Text.Blank

namespace Federation.Answer

/-! ## §1. Complete replies. -/

/-- **Whether a reply is a list of values**, bare or under one of two keys, of which the first
that holds a list counts. -/
inductive Carries : Json → List Json → Prop
  | bare {items : List Json} : Carries (.array items) items
  | slivers {reply : Json} {items : List Json}
      (found : reply.member? "geni_slivers" = some (.array items)) : Carries reply items
  | resources {reply : Json} {items : List Json}
      (others : ∀ listed, reply.member? "geni_slivers" ≠ some (.array listed))
      (found : reply.member? "geni_resources" = some (.array items)) : Carries reply items

/-- The text of a value's sliver URN, as it is written. -/
def writtenUrn? (j : Json) : Option String := (j.member? "geni_sliver_urn").bind Json.text?

/-- **Whether values are complete**: what is asked for is written in one of them each, and none
has an error. -/
structure Complete (items : List Json) (requested : List String) : Prop where
  written : ∀ urn ∈ requested, items.countP (writtenUrn? · == some urn) = 1
  clean : ∀ j ∈ items, j.member? "geni_error" = none

/-! ## §2. What is named. -/

theorem items?_eq_some_iff {j : Json} {items : List Json} :
    j.items? = some items ↔ j = .array items := by
  cases j <;> simp [Json.items?]

/-- Only an object has members. -/
theorem exists_object_of_member? {j value : Json} {key : String} (h : j.member? key = some value) :
    ∃ members, j = .object members := by
  cases j with
  | object members => exact ⟨members, rfl⟩
  | _ => cases h

/-- What an object holds under the keys. -/
theorem recordValues_object (members : Keyed String Json) :
    recordValues (.object members)
      = ((["geni_slivers", "geni_resources"].findSome? fun key =>
        ((Json.object members).member? key).bind Json.items?).getD []) := rfl

/-- The values among which records are looked for are those of the list. -/
theorem recordValues_of_carries {reply : Json} {items : List Json} (h : Carries reply items) :
    recordValues reply = items := by
  cases h with
  | bare => rfl
  | slivers found =>
      obtain ⟨members, rfl⟩ := exists_object_of_member? found
      rw [recordValues_object, List.findSome?_cons, found]
      rfl
  | resources others found =>
      obtain ⟨members, rfl⟩ := exists_object_of_member? found
      have hfirst : ((Json.object members).member? "geni_slivers").bind Json.items? = none := by
        refine Option.eq_none_iff_forall_ne_some.2 fun listed hlisted => ?_
        obtain ⟨value, hvalue, hitems⟩ := Option.bind_eq_some_iff.1 hlisted
        exact others listed (items?_eq_some_iff.1 hitems ▸ hvalue)
      rw [recordValues_object, List.findSome?_cons, hfirst, List.findSome?_cons, found]
      rfl

/-- A reply that holds a list says something. -/
theorem isEmptyAnswer_of_carries {reply : Json} {items : List Json} (h : Carries reply items) :
    isEmptyAnswer (some reply) = false := by
  cases h with
  | bare => rfl
  | slivers found =>
      obtain ⟨members, rfl⟩ := exists_object_of_member? found
      rfl
  | resources others found =>
      obtain ⟨members, rfl⟩ := exists_object_of_member? found
      rfl

/-- **What a value names** has no outer blanks. -/
theorem unpadded_identifier {j : Json} {urn : String} (h : identifierOf? j = some urn) :
    Text.Unpadded urn := by
  have htrimmed : ∀ {key : String}, textAt? j key = some urn → Text.Unpadded urn := by
    intro key hkey
    obtain ⟨raw, -, rfl, -⟩ := textAt?_eq_some_iff.1 hkey
    exact Text.unpadded_trim raw
  unfold identifierOf? at h
  rcases Option.or_eq_some_iff.1 h with hfirst | ⟨-, hsecond⟩
  · exact htrimmed hfirst
  · exact htrimmed hsecond

/-- A URN without outer blanks is named as it is written. -/
theorem identifierOf?_of_written {j : Json} {urn : String} (h : writtenUrn? j = some urn)
    (hurn : Text.Unpadded urn) (hne : urn ≠ "") : identifierOf? j = some urn := by
  obtain ⟨value, hvalue, htext⟩ := Option.bind_eq_some_iff.1 h
  have hmember : j.member? "geni_sliver_urn" = some (.string urn) := by
    cases value <;> cases htext
    exact hvalue
  have hfound : textAt? j "geni_sliver_urn" = some urn :=
    textAt?_eq_some_iff.2 ⟨urn, hmember, Text.trim_eq_self_iff.2 hurn, hne⟩
  unfold identifierOf?
  rw [hfound]
  rfl

/-! ## §3. Complete replies compared. -/

/-- **What is missing from a complete reply** is what was asked for with a blank at an end. -/
theorem absent_iff_padded {v : Json} {requested : List String} {r : Reconciliation}
    (h : Partition v requested r) (complete : Complete (recordValues v) requested) {urn : String}
    (hurn : urn ∈ requested) (hne : urn ≠ "") :
    (∀ x ∈ r.records, x.urn ≠ urn) ↔ ¬Text.Unpadded urn := by
  have hnamed : (∃ x ∈ r.records, x.urn = urn) ↔
      ∃ j ∈ recordValues v, identifierOf? j = some urn := by
    rw [← List.mem_map, h.identifiers, List.mem_filterMap]
  have hsome : (∃ x ∈ r.records, x.urn = urn) ↔ Text.Unpadded urn := by
    rw [hnamed]
    constructor
    · rintro ⟨j, -, hj⟩
      exact unpadded_identifier hj
    · intro hunpadded
      have hcount := complete.written urn hurn
      obtain ⟨j, hj, hwritten⟩ := List.countP_pos_iff.1 (by rw [hcount]; exact Nat.one_pos)
      exact ⟨j, hj, identifierOf?_of_written (beq_iff_eq.1 hwritten) hunpadded hne⟩
  rw [← hsome]
  simp

/-- Nothing has failed in a complete reply. -/
theorem failed_of_complete {v : Json} {requested : List String} {r : Reconciliation}
    (h : Partition v requested r) (complete : Complete (recordValues v) requested) :
    r.failed = [] := by
  refine List.eq_nil_iff_forall_not_mem.2 fun entry hentry => ?_
  have hkey : entry.1 ∈ r.failed.keys := List.mem_map_of_mem hentry
  obtain ⟨j, hj, -, raw, hraw, -⟩ := (h.failing entry.1).1 hkey
  rw [complete.clean j hj] at hraw
  cases hraw

/-- **Which complete replies succeed.**  Of a reply that names each sliver asked for in one value,
and tells of no error, nothing has failed, and missing are the slivers that were asked for with a
blank at either end.  The call succeeded, with nothing missing, exactly where there are none. -/
theorem complete_success_iff {reply : Json} {items : List Json} {requested : List String}
    (carried : Carries reply items) (complete : Complete items requested)
    (nonempty : ∀ urn ∈ requested, urn ≠ "") :
    let r := reconcile (some reply) requested
    r.failed = [] ∧ FirstSeen requested (fun urn => ¬Text.Unpadded urn) r.missing ∧
      (r.outcome = .success ∧ r.missing = [] ↔ ∀ urn ∈ requested, Text.Unpadded urn) ∧
      (r.outcome ≠ .success → r.outcome = .partialSuccess) := by
  intro r
  have hpartition : Partition reply requested r :=
    reconcile_of_value (isEmptyAnswer_of_carries carried) requested
  have hcomplete : Complete (recordValues reply) requested := by
    rw [recordValues_of_carries carried]
    exact complete
  have hfailed : r.failed = [] := failed_of_complete hpartition hcomplete
  have hseen : FirstSeen requested (fun urn => ¬Text.Unpadded urn) r.missing := by
    refine ⟨fun urn => ?_, hpartition.missing.order⟩
    rw [hpartition.missing.mem]
    refine and_congr_right fun hurn => ?_
    exact absent_iff_padded hpartition hcomplete hurn (nonempty urn hurn)
  have hnothing : r.missing = [] ↔ ∀ urn ∈ requested, Text.Unpadded urn := by
    rw [List.eq_nil_iff_forall_not_mem]
    simp only [hseen.mem, not_and, not_not]
  refine ⟨hfailed, hseen, ?_, fun hfailure => ?_⟩
  · rw [hpartition.success, hnothing, and_iff_left hfailed, and_self]
  · rw [hpartition.partialSuccess]
    exact mt hpartition.success.2 hfailure

namespace Padding

/-- A sliver under its URN. -/
def sliver (urn : String) : Json := .object [("geni_sliver_urn", .string urn)]

/-- A reply about two slivers, one of which has a wide blank after its URN. -/
def reply : Json := .object [("geni_slivers", .array [sliver "urn:a", sliver "urn:b\u3000"])]

end Padding

/-- One sliver is there and the other one is missing, though the reply holds both as they were
asked for. -/
theorem complete_success_halfway :
    Carries Padding.reply [Padding.sliver "urn:a", Padding.sliver "urn:b\u3000"] ∧
      Complete [Padding.sliver "urn:a", Padding.sliver "urn:b\u3000"] ["urn:a", "urn:b\u3000"] ∧
      (∀ urn ∈ ["urn:a", "urn:b\u3000"], urn ≠ "") ∧
      ((reconcile (some Padding.reply) ["urn:a"]).outcome = .success ∧
        (reconcile (some Padding.reply) ["urn:a"]).missing = []) ∧
      (reconcile (some Padding.reply) ["urn:a", "urn:b\u3000"]).outcome = .partialSuccess ∧
      (reconcile (some Padding.reply) ["urn:a", "urn:b\u3000"]).missing = ["urn:b\u3000"] := by
  have hcarried : Carries Padding.reply [Padding.sliver "urn:a", Padding.sliver "urn:b\u3000"] :=
    .slivers rfl
  have hclean : ∀ j ∈ [Padding.sliver "urn:a", Padding.sliver "urn:b\u3000"],
      j.member? "geni_error" = none := by
    intro j hj
    rcases List.mem_cons.1 hj with rfl | hj
    · rfl
    · obtain rfl := List.mem_singleton.1 hj
      rfl
  have hboth : Complete [Padding.sliver "urn:a", Padding.sliver "urn:b\u3000"]
      ["urn:a", "urn:b\u3000"] := ⟨by decide, hclean⟩
  have hone : Complete [Padding.sliver "urn:a", Padding.sliver "urn:b\u3000"] ["urn:a"] :=
    ⟨by decide, hclean⟩
  obtain ⟨-, -, hsuccess, -⟩ := complete_success_iff hcarried hone (by decide)
  obtain ⟨-, -, -, hpartial⟩ := complete_success_iff hcarried hboth (by decide)
  exact ⟨hcarried, hboth, by decide, hsuccess.2 (by decide), hpartial (by decide), by decide⟩

/-- **A sliver may be missing from a reply that holds it** in the very words in which it was asked
for. -/
theorem complete_reply_misses :
    ¬∀ (reply : Json) (items : List Json) (requested : List String), Carries reply items →
      Complete items requested → (∀ urn ∈ requested, urn ≠ "") →
      (reconcile (some reply) requested).outcome = .success ∧
        (reconcile (some reply) requested).missing = [] := by
  intro h
  have hcomplete : Complete [Padding.sliver " urn:a "] [" urn:a "] := by
    refine ⟨by decide, fun j hj => ?_⟩
    obtain rfl := List.mem_singleton.1 hj
    rfl
  have hmissing := (h _ _ [" urn:a "] .bare hcomplete (by decide)).2
  have hfound : (reconcile (some (.array [Padding.sliver " urn:a "])) [" urn:a "]).missing
      = [" urn:a "] := by decide
  rw [hfound] at hmissing
  cases hmissing

end Federation.Answer
