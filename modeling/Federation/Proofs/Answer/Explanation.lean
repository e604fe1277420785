/-
  Federation.Proofs.Answer.Explanation
  ────────────────────────────────────
  **WHICH OUTCOMES ARE EXPLAINED.**

  An outcome that is no clean success has an error of some kind, with one
  exception: an aggregate may report no error and give no value either.
  Such a result is hollow.  There is nothing to explain it by, so it is a
  failure without an error.  It comes from replies that are a success in
  themselves but hold nothing, null or false.

  Main results:
    * `errorKind_outcomeOf_eq_none_iff` — which outcomes have no error;
    * `hollow_normalise_iff` — which replies make hollow results;
    * `explained_unless_hollow` — both, of whatever is entered.
-/
import Federation.Answer.Gathering
import Federation.Proofs.Answer.Envelope
import Federation.Proofs.Answer.Reconciliation

namespace Federation.Answer

open Call (Visit Response)

/-! ## §1. Values that say nothing. -/

/-- **Whether a value says nothing.** -/
def Vacant (j : Json) : Prop := j = .null ∨ j = .bool false

theorem isEmptyAnswer_iff {value : Option Json} :
    isEmptyAnswer value = true ↔ ∀ v, value = some v → Vacant v := by
  unfold Vacant
  cases value with
  | none => simp [isEmptyAnswer]
  | some v =>
      cases v with
      | bool b => cases b <;> simp [isEmptyAnswer]
      | _ => simp [isEmptyAnswer]

/-- To drop null leaves nothing that says something unless it was there before. -/
theorem vacant_nonNull?_iff {j : Json} : (∀ v, j.nonNull? = some v → Vacant v) ↔ Vacant j := by
  constructor
  · intro h
    by_cases hnull : j = .null
    · exact .inl hnull
    · exact h j (nonNull?_eq_some_iff.2 ⟨rfl, hnull⟩)
  · intro hj v hv
    obtain ⟨rfl, -⟩ := nonNull?_eq_some_iff.1 hv
    exact hj

/-! ## §2. Hollow results. -/

/-- **Whether a result is hollow**: neither a failure nor a value that says something. -/
structure Result.Hollow (r : Result) : Prop where
  calm : r.failure = none
  empty : ∀ v, r.value = some v → Vacant v

/-- A comparison fails exactly where there is nothing to compare. -/
theorem outcome_reconcile_iff {value : Option Json} {requested : List String} :
    (reconcile value requested).outcome = .failure ↔ ∀ v, value = some v → Vacant v := by
  cases value with
  | none => simp [reconcile]
  | some v =>
      constructor
      · intro hfailed
        refine isEmptyAnswer_iff.1 (Classical.byContradiction fun hsaid => ?_)
        -- A value that says something makes a success, in whole or in part.
        have hpartition := reconcile_of_value (eq_false_of_ne_true hsaid) requested
        have hwhole := mt hpartition.success.2 (by rw [hfailed]; nofun)
        have hpart := hpartition.partialSuccess.2 hwhole
        rw [hfailed] at hpart
        cases hpart
      · intro h
        rcases h v rfl with rfl | rfl <;> rfl

/-- The outcome of a result with a failure has the error of that failure. -/
theorem errorKind_of_failure {r : Result} {f : Call.Failure} (h : r.failure = some f)
    (compared : List String) (visit : Visit) :
    (outcomeOf compared visit r).errorKind = some f.kind := by
  have hkind : (outcomeOf compared visit r).result.errorKind = some f.kind := by
    show r.failure.map Call.Failure.kind = some f.kind
    rw [h, Option.map_some]
  unfold EndpointOutcome.errorKind
  rw [hkind]

/-- Without a failure it is the comparison that decides. -/
theorem outcome_of_calm {r : Result} (h : r.failure = none) (compared : List String)
    (visit : Visit) :
    (outcomeOf compared visit r).outcome = (reconcile r.value compared).outcome := by
  have hsuccess : r.isSuccess = true := by
    unfold Result.isSuccess
    rw [h, Option.isNone_none]
  exact if_pos hsuccess

/-- Without a failure there is an error exactly where something is missing or failed. -/
theorem errorKind_of_calm {r : Result} (h : r.failure = none) (compared : List String)
    (visit : Visit) :
    (outcomeOf compared visit r).errorKind = none ↔
      (outcomeOf compared visit r).outcome ≠ .partialSuccess := by
  have hkind : (outcomeOf compared visit r).result.errorKind = none := by
    show r.failure.map Call.Failure.kind = none
    rw [h, Option.map_none]
  unfold EndpointOutcome.errorKind
  rw [hkind]
  cases (outcomeOf compared visit r).outcome <;> simp

/-- **Without a failure** only hollow results fail. -/
theorem hollow_iff_of_calm {r : Result} (h : r.failure = none) (compared : List String)
    (visit : Visit) : (outcomeOf compared visit r).outcome = .failure ↔ r.Hollow := by
  rw [outcome_of_calm h, outcome_reconcile_iff]
  constructor
  · intro hempty
    exact ⟨h, hempty⟩
  · intro hhollow
    exact hhollow.empty

/-- **Which outcomes have no error**: the successes, and those of hollow results. -/
theorem errorKind_outcomeOf_eq_none_iff (compared : List String) (visit : Visit) (r : Result) :
    (outcomeOf compared visit r).errorKind = none ↔
      (outcomeOf compared visit r).outcome = .success ∨ r.Hollow := by
  cases hfailure : r.failure with
  | some f =>
      have hfailed : (outcomeOf compared visit r).outcome = .failure :=
        outcomeOf_of_failure compared visit (by rw [hfailure]; rfl)
      rw [errorKind_of_failure hfailure, hfailed]
      refine iff_of_false nofun ?_
      rintro (hsuccess | hhollow)
      · cases hsuccess
      · rw [hhollow.calm] at hfailure
        cases hfailure
  | none =>
      rw [errorKind_of_calm hfailure, ← hollow_iff_of_calm hfailure compared visit]
      cases (outcomeOf compared visit r).outcome <;> simp

/-! ## §3. Replies that hold nothing. -/

/-- **Whether a response holds nothing** though nothing went wrong: a version 1 reply is the value
itself, an envelope holds it beside a code, and a probe is its own answer. -/
inductive Wordless (calledAt : Nat) : Response → Prop
  | bare {reply : Json} (old : calledAt < 2) (empty : Vacant reply) :
      Wordless calledAt (.replied reply)
  | enveloped {reply : Json} (modern : 2 ≤ calledAt) (success : Coded reply 0)
      (empty : ∀ v, reply.member? "value" = some v → Vacant v) :
      Wordless calledAt (.replied reply)
  | probed {capabilities : Json} {fromCache : Bool} (empty : Vacant capabilities) :
      Wordless calledAt (.probed capabilities fromCache)

/-- An envelope makes a hollow result where its code tells of no error and its value says
nothing. -/
theorem hollow_openEnvelope_iff (mode : Mode) (reply : Json) :
    (openEnvelope mode reply).Hollow ↔
      Coded reply 0 ∧ ∀ v, reply.member? "value" = some v → Vacant v := by
  have hclassified := classified_openEnvelope mode reply
  constructor
  · intro h
    have hzero := hclassified.success.1 h.calm
    refine ⟨hzero, fun v hv => ?_⟩
    by_cases hnull : v = .null
    · exact .inl hnull
    · exact h.empty v ((hclassified.value v).2 ⟨hv, hnull, .inl hzero⟩)
  · rintro ⟨hzero, hempty⟩
    exact ⟨hclassified.success.2 hzero, fun v hv => hempty v ((hclassified.value v).1 hv).1⟩

/-- **Which responses make hollow results**, whatever the mode. -/
theorem hollow_normalise_iff (mode : Mode) (calledAt : Nat) (response : Response) :
    (normalise mode calledAt response).Hollow ↔ Wordless calledAt response := by
  cases response with
  | skipped reason =>
      refine iff_of_false (fun h => ?_) nofun
      cases h.calm
  | failed failure =>
      refine iff_of_false (fun h => ?_) nofun
      cases h.calm
  | probed capabilities fromCache =>
      constructor
      · intro h
        exact .probed (vacant_nonNull?_iff.1 h.empty)
      · intro h
        cases h with
        | probed empty => exact ⟨rfl, vacant_nonNull?_iff.2 empty⟩
  | replied reply =>
      show (unwrap mode calledAt (if calledAt < envelopeVersion then reply
        else reply.without proofKey)).Hollow ↔ _
      unfold unwrap
      by_cases hbare : calledAt < envelopeVersion
      · rw [if_pos hbare, if_pos hbare]
        constructor
        · intro h
          exact .bare hbare (vacant_nonNull?_iff.1 h.empty)
        · intro h
          cases h with
          | bare _ empty => exact ⟨rfl, vacant_nonNull?_iff.2 empty⟩
          | enveloped modern _ _ => exact absurd hbare (Nat.not_lt.2 modern)
      · rw [if_neg hbare, if_neg hbare, openEnvelope_without, hollow_openEnvelope_iff]
        constructor
        · rintro ⟨hzero, hempty⟩
          exact .enveloped (Nat.not_lt.1 hbare) hzero hempty
        · intro h
          cases h with
          | bare old _ => exact absurd old hbare
          | enveloped _ success empty => exact ⟨success, empty⟩

/-! ## §4. Reports. -/

/-- **Every outcome is explained unless its result is hollow.**  Of whatever is entered into a
report, one after another, an outcome has no error exactly where it is a success or its result
is hollow, and then it is a failure.  A result that was made of a response, in whatever mode
and at whatever version, is hollow exactly where the response holds nothing. -/
theorem explained_unless_hollow (o : Operation) (version : Nat) (message : Option String)
    (requested : List String) (parts : List (Visit × Result)) :
    ∀ x ∈ (parts.foldl (Report.enter requested) (.blank o version message)).outcomes,
      (x.errorKind = none ↔ x.outcome = .success ∨ x.result.Hollow) ∧
      (x.result.Hollow → x.outcome = .failure) ∧
      ∀ mode calledAt, x.result = normalise mode calledAt x.visit.response →
        (x.result.Hollow ↔ Wordless calledAt x.visit.response) := by
  intro x hx
  rw [Report.foldl_enter] at hx
  obtain ⟨⟨visit, result⟩, -, rfl⟩ := List.mem_map.1 hx
  refine ⟨errorKind_outcomeOf_eq_none_iff _ visit result, fun hhollow => ?_,
    fun mode calledAt hmade => ?_⟩
  · exact (hollow_iff_of_calm hhollow.calm _ visit).2 hhollow
  · rw [hmade]
    exact hollow_normalise_iff mode calledAt _

namespace Silence

/-- A visit that brought a reply. -/
def visit (reply : Json) : Visit :=
  ⟨⟨Endpoint.unspecifiedUrn, "http://[::1]", none, none⟩, none, false, .replied reply, []⟩

/-- A success that comes with this value. -/
def reply (value : Json) : Json :=
  .object [("code", .object [("geni_code", .int 0)]), ("value", value)]

/-- The outcome of a status call at version 2 that brings a reply. -/
def outcome (reply : Json) : EndpointOutcome :=
  outcomeOf [] (visit reply) (normalise .strict 2 (.replied reply))

end Silence

/-- A success with false for its value is a failure without an error; with an empty list for its
value it is a success. -/
theorem explained_unless_hollow_silence :
    Wordless 2 (.replied (Silence.reply (.bool false))) ∧
      (Silence.outcome (Silence.reply (.bool false))).outcome = .failure ∧
      (Silence.outcome (Silence.reply (.bool false))).errorKind = none ∧
      (Silence.outcome (Silence.reply (.array []))).outcome = .success ∧
      (Silence.outcome (Silence.reply (.array []))).errorKind = none := by
  have hwordless : Wordless 2 (.replied (Silence.reply (.bool false))) := by
    refine .enveloped (by decide) ⟨_, _, rfl, rfl, rfl, by decide, by decide⟩ fun v hv => ?_
    exact .inr (Option.some.inj hv).symm
  obtain ⟨hnone, hfailed, hmade⟩ := explained_unless_hollow .status 2 none []
    [(Silence.visit (Silence.reply (.bool false)),
      normalise .strict 2 (.replied (Silence.reply (.bool false))))]
    (Silence.outcome (Silence.reply (.bool false))) (List.mem_singleton.2 rfl)
  obtain ⟨hclean, -, -⟩ := explained_unless_hollow .status 2 none []
    [(Silence.visit (Silence.reply (.array [])),
      normalise .strict 2 (.replied (Silence.reply (.array []))))]
    (Silence.outcome (Silence.reply (.array []))) (List.mem_singleton.2 rfl)
  have hhollow := (hmade .strict 2 rfl).2 hwordless
  exact ⟨hwordless, hfailed hhollow, hnone.2 (.inr hhollow), rfl, hclean.2 (.inl rfl)⟩

/-- **An outcome may have no error and yet be no success**: that of an envelope without a value. -/
theorem outcome_unexplained :
    ¬∀ (o : Operation) (requested : List String) (mode : Mode) (visit : Visit) (calledAt : Nat),
      ∀ x ∈ ([(visit, normalise mode calledAt visit.response)].foldl (Report.enter requested)
        (.blank o calledAt none)).outcomes, x.errorKind = none ↔ x.outcome = .success := by
  intro h
  have hsuccess := (h .status [] .strict
    (Silence.visit (.object [("code", .object [("geni_code", .int 0)])])) 2 _
    (List.mem_singleton.2 rfl)).1 rfl
  cases hsuccess

end Federation.Answer
