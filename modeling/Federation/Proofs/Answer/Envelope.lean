/-
  Federation.Proofs.Answer.Envelope
  ─────────────────────────────────
  **WHAT AN ENVELOPE SAYS.**

  A reply carries an error code where it is a map with a map under `code`
  and an integer of sixty-four bits under `geni_code` in that.  Nothing else
  counts as a code: no text, no real, no integer that is too large.  From
  version 2 on a reply without a code is malformed, one with the code zero
  is a success, and one with another code is the aggregate's own report of
  an error.  There is no fourth case, and the mode decides about nothing but
  the value beside such a report.

  Main results:
    * `codeOf_eq_ok_iff` — which replies carry which code;
    * `classified_openEnvelope` — what is made of an envelope;
    * `unwrap_classifies` — what is made of any reply, at any version.
-/
import Federation.Answer.Envelope

namespace Federation.Answer

/-! ## §1. Codes. -/

/-- **Whether a reply carries an error code.** -/
def Coded (reply : Json) (n : Int) : Prop :=
  ∃ members code, reply = .object members ∧ Keyed.get? members "code" = some (.object code) ∧
    Keyed.get? code "geni_code" = some (.int n) ∧
    -9223372036854775808 ≤ n ∧ n < 9223372036854775808

theorem int64?_eq_some_iff {j : Json} {n : Int} :
    j.int64? = some n ↔ j = .int n ∧ -9223372036854775808 ≤ n ∧ n < 9223372036854775808 := by
  have hbounds : Number.fitsSigned n = true ↔
      -9223372036854775808 ≤ n ∧ n < 9223372036854775808 := Number.fitsSigned_iff n
  rw [← hbounds]
  constructor
  · intro h
    unfold Json.int64? at h
    split at h
    · rename_i i
      split at h
      · rename_i hfits
        obtain rfl := Option.some.inj h
        exact ⟨rfl, hfits⟩
      · cases h
    · cases h
  · rintro ⟨rfl, hfits⟩
    exact if_pos hfits

/-- **Which replies carry which code**: the code that is found is the one that is written there,
in the map that it is written in. -/
theorem codeOf_eq_ok_iff {reply code : Json} {n : Int} :
    codeOf reply = .ok (code, n) ↔ Coded reply n ∧ reply.member? "code" = some code := by
  constructor
  · intro h
    unfold codeOf at h
    -- Each of the four faults ends the search.
    split at h
    · cases h
    · rename_i hmap
      split at h
      · cases h
      · rename_i found hfound
        split at h
        · cases h
        · rename_i hinner
          split at h
          · cases h
          · rename_i m hm
            obtain ⟨rfl, rfl⟩ := Prod.mk.inj (Except.ok.inj h)
            obtain ⟨number, hnumber, hint⟩ := Option.bind_eq_some_iff.1 hm
            obtain ⟨rfl, hfits⟩ := int64?_eq_some_iff.1 hint
            cases reply with
            | object members =>
                cases found with
                | object inner => exact ⟨⟨members, inner, rfl, hfound, hnumber, hfits⟩, hfound⟩
                | _ => exact absurd rfl hinner
            | _ => exact absurd rfl hmap
  · rintro ⟨⟨members, inner, rfl, hcode, hnumber, hfits⟩, hmember⟩
    obtain rfl : Json.object inner = code := Option.some.inj (hcode.symm.trans hmember)
    have hint : (Json.int n).int64? = some n := int64?_eq_some_iff.2 ⟨rfl, hfits⟩
    unfold codeOf
    simp [Json.members?, hcode, hnumber, hint]

/-- A reply carries one code at most. -/
theorem Coded.unique {reply : Json} {n m : Int} (hn : Coded reply n) (hm : Coded reply m) :
    n = m := by
  obtain ⟨members, code, rfl, hcode, hnumber, -⟩ := hn
  obtain ⟨_, _, heq, hcode', hnumber', -⟩ := hm
  obtain rfl := Json.object.inj heq
  obtain rfl := Json.object.inj (Option.some.inj (hcode.symm.trans hcode'))
  have hsame : Json.int n = Json.int m := Option.some.inj (hnumber.symm.trans hnumber')
  simpa [Json.int] using hsame

/-- A reply in which a code is found carries that one. -/
theorem coded_of_codeOf {reply code : Json} {n : Int} (h : codeOf reply = .ok (code, n)) (m : Int) :
    Coded reply m ↔ m = n := by
  have hn := (codeOf_eq_ok_iff.1 h).1
  constructor
  · intro hm
    exact hm.unique hn
  · rintro rfl
    exact hn

/-- A reply in which no code is found carries none. -/
theorem not_coded_of_codeOf {reply : Json} {fault : EnvelopeFault}
    (h : codeOf reply = .error fault) (n : Int) : ¬Coded reply n := by
  intro hn
  obtain ⟨members, code, rfl, hcode, -⟩ := id hn
  rw [codeOf_eq_ok_iff.2 ⟨hn, hcode⟩] at h
  cases h

/-! ## §2. Envelopes. -/

/-- **What is made of an envelope.** -/
structure Classified (mode : Mode) (reply : Json) (r : Result) : Prop where
  malformed : (∃ detail, r.failure = some (.malformedResponse detail)) ↔ ¬∃ n, Coded reply n
  reported : ∀ n, (∃ family familyCode output,
    r.failure = some (.reported n family familyCode output)) ↔ Coded reply n ∧ n ≠ 0
  success : r.failure = none ↔ Coded reply 0
  /-- The value is that of the envelope, where the code lets it through. -/
  value : ∀ v, r.value = some v ↔ reply.member? "value" = some v ∧ v ≠ .null ∧
    (Coded reply 0 ∨ mode = .relaxed ∧ ∃ n, Coded reply n)

theorem isNull_eq_false_iff {j : Json} : j.isNull = false ↔ j ≠ .null := by
  cases j <;> simp [Json.isNull]

theorem nonNull?_eq_some_iff {j v : Json} : j.nonNull? = some v ↔ j = v ∧ v ≠ .null := by
  constructor
  · intro h
    refine ⟨?_, isNull_eq_false_iff.1 (nonNull?_ne_null h)⟩
    unfold Json.nonNull? at h
    split at h
    · cases h
    · exact Option.some.inj h
  · rintro ⟨rfl, hne⟩
    have hnull : ¬j.isNull = true := by simp [isNull_eq_false_iff.2 hne]
    exact if_neg hnull

/-- The value in an envelope is never null. -/
theorem valueOf_eq_some_iff {reply v : Json} :
    valueOf reply = some v ↔ reply.member? "value" = some v ∧ v ≠ .null := by
  unfold valueOf
  rw [Option.bind_eq_some_iff]
  simp only [nonNull?_eq_some_iff]
  constructor
  · rintro ⟨w, hw, rfl, hne⟩
    exact ⟨hw, hne⟩
  · rintro ⟨hv, hne⟩
    exact ⟨v, hv, rfl, hne⟩

/-- **What is made of an envelope**, in either mode. -/
theorem classified_openEnvelope (mode : Mode) (reply : Json) :
    Classified mode reply (openEnvelope mode reply) := by
  unfold openEnvelope
  cases hcode : codeOf reply with
  | error fault =>
      have hnone := not_coded_of_codeOf hcode
      exact {
        malformed := iff_of_true ⟨_, rfl⟩ fun ⟨n, hn⟩ => hnone n hn
        reported := fun n => iff_of_false nofun fun h => hnone n h.1
        success := iff_of_false nofun (hnone 0)
        value := fun v => iff_of_false nofun fun h => by
          rcases h.2.2 with hzero | ⟨-, n, hn⟩
          · exact hnone 0 hzero
          · exact hnone n hn }
  | ok found =>
      obtain ⟨code, n⟩ := found
      have hcoded := coded_of_codeOf hcode
      have hsome : ∃ m, Coded reply m := ⟨n, (hcoded n).2 rfl⟩
      dsimp only
      unfold failureOf
      -- Zero is the only code that is no failure.
      by_cases hn : n = 0
      · subst hn
        exact {
          malformed := iff_of_false (by simp) (not_not_intro hsome)
          reported := fun m => by simp [hcoded]
          success := by simp [hcoded]
          value := fun v => by simp [hcoded, valueOf_eq_some_iff] }
      · have hzero : ¬Coded reply 0 := fun h => hn ((hcoded 0).1 h).symm
        exact {
          malformed := iff_of_false (by simp [hn]) (not_not_intro hsome)
          reported := fun m => by
            simp only [if_neg hn, hcoded, Option.some.injEq, Call.Failure.reported.injEq]
            constructor
            · rintro ⟨_, _, _, rfl, -⟩
              exact ⟨rfl, hn⟩
            · rintro ⟨rfl, -⟩
              exact ⟨_, _, _, rfl, rfl, rfl, rfl⟩
          success := by simp [hn, hzero]
          value := fun v => by
            cases mode with
            | strict => simp [hn, hzero]
            | relaxed => simp [hn, hsome, valueOf_eq_some_iff] }

/-! ## §3. Replies. -/

/-- The two modes make the same of an envelope, its value aside. -/
theorem openEnvelope_relaxed (reply : Json) :
    openEnvelope .relaxed reply =
      { openEnvelope .strict reply with value := (openEnvelope .relaxed reply).value } := by
  unfold openEnvelope
  cases codeOf reply <;> rfl

/-- Where strict mode tells of no report, relaxed mode keeps nothing more. -/
theorem value_openEnvelope_of_not_reported {reply : Json}
    (h : ¬∃ n, Coded reply n ∧ n ≠ 0) :
    (openEnvelope .relaxed reply).value = (openEnvelope .strict reply).value := by
  refine Option.ext fun v => ?_
  rw [(classified_openEnvelope .relaxed reply).value, (classified_openEnvelope .strict reply).value]
  refine and_congr_right fun _ => and_congr_right fun _ => ?_
  constructor
  · rintro (hzero | ⟨-, n, hn⟩)
    · exact .inl hzero
    · by_cases hne : n = 0
      · exact .inl (hne ▸ hn)
      · exact absurd ⟨n, hn, hne⟩ h
  · rintro (hzero | ⟨hmode, -⟩)
    · exact .inl hzero
    · cases hmode

/-- **What is made of any reply.**  Below version 2 the reply is the value, unless it is null,
and there is no failure.  From version 2 on the code tells what it is, and the value is that of
the envelope.  At any version the value is not null, there is an error code exactly where the
aggregate reported one, and the modes differ in the value beside such a report and in nothing
else. -/
theorem unwrap_classifies (version : Nat) (reply : Json) :
    (version < 2 → ∀ mode,
      unwrap mode version reply = ⟨if reply.isNull then none else some reply, none, none, false⟩) ∧
    (2 ≤ version → ∀ mode, Classified mode reply (unwrap mode version reply)) ∧
    (∀ mode, (unwrap mode version reply).value ≠ some .null) ∧
    (∀ mode n, (unwrap mode version reply).errorCode = some n ↔ ∃ family familyCode output,
      (unwrap mode version reply).failure = some (.reported n family familyCode output)) ∧
    unwrap .relaxed version reply =
      { unwrap .strict version reply with value := (unwrap .relaxed version reply).value } ∧
    ((unwrap .relaxed version reply).value ≠ (unwrap .strict version reply).value →
      (unwrap .strict version reply).value = none ∧ ∃ n family familyCode output,
        (unwrap .strict version reply).failure = some (.reported n family familyCode output)) := by
  refine ⟨fun hbare mode => if_pos hbare, fun hversion mode => ?_, fun mode hvalue => ?_,
    fun mode n => ?_, ?_, fun hdiffer => ?_⟩
  · have hopened : ¬version < envelopeVersion := Nat.not_lt.2 hversion
    unfold unwrap
    rw [if_neg hopened]
    exact classified_openEnvelope mode reply
  · have hnull : Json.null.isNull = false := unwrap_value_ne_null hvalue
    cases hnull
  · unfold Result.errorCode
    cases (unwrap mode version reply).failure with
    | none => simp
    | some f => cases f <;> simp [Call.Failure.code]
  · unfold unwrap
    split
    · rfl
    · exact openEnvelope_relaxed reply
  · unfold unwrap at hdiffer ⊢
    split at hdiffer
    · exact absurd rfl hdiffer
    · rename_i hopened
      rw [if_neg hopened]
      -- Strict mode drops the value that relaxed mode keeps.
      obtain ⟨n, hn, hne⟩ : ∃ n, Coded reply n ∧ n ≠ 0 := Classical.byContradiction fun hnone =>
        hdiffer (value_openEnvelope_of_not_reported hnone)
      have hstrict := classified_openEnvelope .strict reply
      refine ⟨Option.eq_none_iff_forall_ne_some.2 fun v hv => ?_,
        n, (hstrict.reported n).2 ⟨hn, hne⟩⟩
      rcases ((hstrict.value v).1 hv).2.2 with hzero | ⟨hmode, -⟩
      · exact hne (hn.unique hzero)
      · cases hmode

namespace Refusal

/-- A refusal that comes with a part of what was asked for. -/
def reply : Json :=
  .object [("code", .object [("am_code", .int 7), ("geni_code", .int 12)]),
    ("output", .string " No such slice here "), ("value", .object [("partial", .bool true)])]

end Refusal

/-- The refusal is the value at version 1; at version 2 it is a report with the code 12, beside
which relaxed mode alone keeps a value. -/
theorem unwrap_classifies_refusal :
    unwrap .strict 1 Refusal.reply = ⟨some Refusal.reply, none, none, false⟩ ∧
      Classified .strict Refusal.reply (unwrap .strict 2 Refusal.reply) ∧
      Coded Refusal.reply 12 ∧
      (unwrap .strict 2 Refusal.reply).errorCode = some 12 ∧
      (unwrap .strict 2 Refusal.reply).value = none ∧
      (unwrap .relaxed 2 Refusal.reply).value = some (.object [("partial", .bool true)]) := by
  obtain ⟨hbare, -⟩ := unwrap_classifies 1 Refusal.reply
  obtain ⟨-, hopened, -, -, -, hdiffer⟩ := unwrap_classifies 2 Refusal.reply
  have hcoded : Coded Refusal.reply 12 := ⟨_, _, rfl, rfl, rfl, by decide, by decide⟩
  have hkept : (unwrap .relaxed 2 Refusal.reply).value
      = some (.object [("partial", .bool true)]) := rfl
  have hdropped : (unwrap .strict 2 Refusal.reply).value = none := rfl
  refine ⟨hbare (by decide) .strict, hopened (by decide) .strict, hcoded, rfl, ?_, hkept⟩
  refine (hdiffer ?_).1
  rw [hkept, hdropped]
  nofun

end Federation.Answer
